import EarlyResolution.Failure
import EarlyResolution.Json.Decode
import EarlyResolution.Trace.Draft

/-!
# Reading a trace

A trace is an array of events.  An event is read whole before it is decoded, but
its tag is checked as soon as it is met.
-/

namespace EarlyResolution

open Json (Reader Value)

def EventKind.reader : Reader EventKind :=
  Reader.scalar "variant identifier" EventKind.ofValue

/-- How deep a value may be nested inside an event, itself inside the array of the trace. -/
def valueNesting : Nat := Json.maxNesting - 2

def TaggedMembers.readMember (tagged : TaggedMembers) (key : String) : Reader TaggedMembers := do
  if key = tagKey then
    if tagged.kind.isSome then Reader.fit (.error (.duplicateField tagKey))
    else
      Reader.colon
      return { tagged with kind := some (← EventKind.reader) }
  else
    Reader.colon
    return tagged.add key (← Reader.value valueNesting)

def laterElements : Reader (List Value) := do
  let reversed ← Reader.bounded fun bound =>
    Reader.foldWhile Reader.nextElement
      (fun items => return (← Reader.value valueNesting) :: items) bound false []
  return reversed.reverse

def Event.reader : Reader Event := do
  match ← Reader.peek with
  | some '[' =>
      Reader.drop
      if ← Reader.nextElement true then
        let kind ← EventKind.reader
        Reader.fit (Event.ofElements kind (← laterElements))
      else Reader.fit (.error (.missingField TaggedMembers.tagKey))
  | some '\x7b' =>
      Reader.drop
      let tagged ← Reader.foldMembers TaggedMembers.readMember {}
      Reader.fit tagged.finish
  | _ => Reader.mismatch "internally tagged enum TraceEvent"

namespace Trace

def reader : Reader (List Event) :=
  Reader.array Event.reader

def ofJson (text : String) : Except Failure (List Event) :=
  match reader.run text with
  | .error problem => .error (.parse problem)
  | .ok events => .ok events

def ofFile (content : FileContent) : Except Failure (List Event) :=
  readText content >>= ofJson

end Trace

end EarlyResolution
