import EarlyResolution.Json.Writer
import EarlyResolution.Trace.Draft

/-!
# Writing a trace

An event is written as an object with its tag first and every field spelled out,
defaults included.
-/

namespace EarlyResolution

open Json (Value)

namespace Event

def kind : Event → EventKind
  | .dispatchLoad .. => .dispatchLoad
  | .writebackLoad .. => .writebackLoad
  | .commitLoad .. => .commitLoad
  | .squash .. => .squash
  | .issue .. => .issue

/-- The fields of an event with their values, in declared order. -/
def members : Event → List (String × Value)
  | .dispatchLoad seq pc tid =>
      [("seq", .ofWord seq), ("pc", .ofWord pc), ("tid", .ofWord tid)]
  | .writebackLoad seq tid value =>
      [("seq", .ofWord seq), ("tid", .ofWord tid), ("value", .ofWord value)]
  | .commitLoad seq pc tid value =>
      [("seq", .ofWord seq), ("pc", .ofWord pc), ("tid", .ofWord tid), ("value", .ofWord value)]
  | .squash seq tid =>
      [("seq", .ofWord seq), ("tid", .ofWord tid)]
  | .issue inst =>
      [("seq", .ofWord inst.seq), ("pc", .ofWord inst.pc), ("tid", .ofWord inst.tid),
       ("op", .text inst.op.name), ("srcs", .sequence (inst.srcs.map .ofWord)),
       ("ct_mode", .boolean inst.ctMode), ("dests", .ofWord inst.dests)]

def toValue (event : Event) : Value :=
  .object ((TaggedMembers.tagKey, .text event.kind.tag) :: event.members)

end Event

def Trace.toJson (events : List Event) : String :=
  (Value.sequence (events.map Event.toValue)).write .compact

end EarlyResolution
