import EarlyResolution.Json.Value
import EarlyResolution.Trace.Event

/-!
# Decoding events

An event is an object with a tag and the fields of its kind, in any order, or an
array of the tag and the fields in declared order.  Keys that do not belong to
the kind are passed over.  A draft gathers the fields found until the event can
be put together.
-/

namespace EarlyResolution

open Json (Mismatch Value)

inductive EventKind where
  | dispatchLoad
  | writebackLoad
  | commitLoad
  | squash
  | issue
  deriving DecidableEq, Repr

inductive EventField where
  | seq
  | pc
  | tid
  | value
  | op
  | srcs
  | ctMode
  | dests
  deriving DecidableEq, Repr

namespace EventField

def key : EventField → String
  | seq => "seq"
  | pc => "pc"
  | tid => "tid"
  | value => "value"
  | op => "op"
  | srcs => "srcs"
  | ctMode => "ct_mode"
  | dests => "dests"

end EventField

namespace EventKind

/-- Every kind, in the order in which messages list them. -/
def all : List EventKind :=
  [.dispatchLoad, .writebackLoad, .commitLoad, .squash, .issue]

def tag : EventKind → String
  | dispatchLoad => "dispatch_load"
  | writebackLoad => "writeback_load"
  | commitLoad => "commit_load"
  | squash => "squash"
  | issue => "issue"

def ofValue : Value → Except Mismatch EventKind
  | .text name =>
      match all.find? fun kind => kind.tag == name with
      | some kind => .ok kind
      | none => .error (.unknownVariant name (all.map tag))
  | other => .error (.invalidType other.found "variant identifier")

/-- The fields of a kind, in declared order. -/
def fields : EventKind → List EventField
  | dispatchLoad => [.seq, .pc, .tid]
  | writebackLoad => [.seq, .tid, .value]
  | commitLoad => [.seq, .pc, .tid, .value]
  | squash => [.seq, .tid]
  | issue => [.seq, .pc, .tid, .op, .srcs, .ctMode, .dests]

/-- What an array with too few fields should have been. -/
def expected : EventKind → String
  | dispatchLoad => "struct variant TraceEvent::DispatchLoad with 3 elements"
  | writebackLoad => "struct variant TraceEvent::WritebackLoad with 3 elements"
  | commitLoad => "struct variant TraceEvent::CommitLoad with 4 elements"
  | squash => "struct variant TraceEvent::Squash with 2 elements"
  | issue => "struct IssueEvent with 7 elements"

end EventKind

/-- An operation class: its name, or an object with that one key and nothing under it. -/
def OpClass.ofValue : Value → Except Mismatch OpClass
  | .text name => named name
  | .object [(name, content)] => do
      let op ← named name
      match content with
      | .null | .object [] => return op
      | v => throw (.invalidType v.found "unit")
  | .object _ => .error (.invalidValue .map "map with a single key")
  | v => .error (.invalidType v.found "string or map")
where
  named (name : String) : Except Mismatch OpClass :=
    match OpClass.ofName? name with
    | some op => .ok op
    | none => .error (.unknownVariant name (OpClass.all.map OpClass.name))

structure EventDraft where
  seq : Option UInt64 := none
  pc : Option UInt64 := none
  tid : Option ThreadId := none
  value : Option UInt64 := none
  op : Option OpClass := none
  srcs : Option (List UInt64) := none
  ctMode : Option Bool := none
  dests : Option UInt64 := none
  deriving DecidableEq, Repr

namespace EventDraft

def has (draft : EventDraft) : EventField → Bool
  | .seq => draft.seq.isSome
  | .pc => draft.pc.isSome
  | .tid => draft.tid.isSome
  | .value => draft.value.isSome
  | .op => draft.op.isSome
  | .srcs => draft.srcs.isSome
  | .ctMode => draft.ctMode.isSome
  | .dests => draft.dests.isSome

def put (draft : EventDraft) (field : EventField) (v : Value) : Except Mismatch EventDraft := do
  match field with
  | .seq => return { draft with seq := some (← v.toWord "u64") }
  | .pc => return { draft with pc := some (← v.toWord "u64") }
  | .tid => return { draft with tid := some (← v.toWord "usize") }
  | .value => return { draft with value := some (← v.toWord "u64") }
  | .op => return { draft with op := some (← OpClass.ofValue v) }
  | .srcs => return { draft with srcs := some (← v.toList (Value.toWord "u64")) }
  | .ctMode => return { draft with ctMode := some (← v.toBool) }
  | .dests => return { draft with dests := some (← v.toWord "usize") }

def demand (field : EventField) : Option α → Except Mismatch α
  | some a => .ok a
  | none => .error (.missingField field.key)

/-- Puts an event together; of the fields that must be there the first one missing is reported. -/
def finish (draft : EventDraft) : EventKind → Except Mismatch Event
  | .dispatchLoad => do
      let seq ← demand .seq draft.seq
      let pc ← demand .pc draft.pc
      return .dispatchLoad seq pc (draft.tid.getD 0)
  | .writebackLoad => do
      let seq ← demand .seq draft.seq
      let value ← demand .value draft.value
      return .writebackLoad seq (draft.tid.getD 0) value
  | .commitLoad => do
      let seq ← demand .seq draft.seq
      let pc ← demand .pc draft.pc
      let value ← demand .value draft.value
      return .commitLoad seq pc (draft.tid.getD 0) value
  | .squash => do
      let seq ← demand .seq draft.seq
      return .squash seq (draft.tid.getD 0)
  | .issue => do
      let seq ← demand .seq draft.seq
      let pc ← demand .pc draft.pc
      let op ← demand .op draft.op
      let srcs ← demand .srcs draft.srcs
      return .issue {
        seq, pc, op, srcs
        tid := draft.tid.getD 0
        ctMode := draft.ctMode.getD false
        dests := draft.dests.getD 1 }

/-- A member of an object: kept if its key is a field of the kind and has not been found before. -/
def putMember (kind : EventKind) (draft : EventDraft) (key : String) (v : Value) :
    Except Mismatch EventDraft :=
  match kind.fields.find? fun field => field.key == key with
  | none => .ok draft
  | some field =>
      if draft.has field then .error (.duplicateField key) else draft.put field v

def isOptional : EventField → Bool
  | .tid | .ctMode | .dests => true
  | .seq | .pc | .value | .op | .srcs => false

def putElements (kind : EventKind) (total : Nat) :
    Nat → List EventField → List Value → EventDraft → Except Mismatch EventDraft
  | _, [], [], draft => .ok draft
  | count, [], _ :: _, _ => .error (.invalidLength total s!"{count} elements in sequence")
  | count, field :: fields, [], draft =>
      if isOptional field then putElements kind total (count + 1) fields [] draft
      else .error (.invalidLength count kind.expected)
  | count, field :: fields, v :: values, draft => do
      putElements kind total (count + 1) fields values (← draft.put field v)

end EventDraft

namespace Event

def ofMembers (kind : EventKind) (members : List (String × Value)) : Except Mismatch Event := do
  let draft ← members.foldlM (fun (draft : EventDraft) (key, v) => draft.putMember kind key v) {}
  draft.finish kind

def ofElements (kind : EventKind) (elements : List Value) : Except Mismatch Event := do
  let draft ← EventDraft.putElements kind elements.length 0 kind.fields elements {}
  draft.finish kind

end Event

structure TaggedMembers where
  kind : Option EventKind := none
  /-- The members other than the tag, the latest first. -/
  members : List (String × Value) := []

namespace TaggedMembers

def tagKey : String := "event"

def add (tagged : TaggedMembers) (key : String) (v : Value) : TaggedMembers :=
  { tagged with members := (key, v) :: tagged.members }

/-- A member of the object; the tag may be given once only. -/
def put (tagged : TaggedMembers) (key : String) (v : Value) : Except Mismatch TaggedMembers :=
  if key = tagKey then
    if tagged.kind.isSome then .error (.duplicateField tagKey)
    else (EventKind.ofValue v).map fun kind => { tagged with kind := some kind }
  else .ok (tagged.add key v)

def finish (tagged : TaggedMembers) : Except Mismatch Event :=
  match tagged.kind with
  | none => .error (.missingField tagKey)
  | some kind => Event.ofMembers kind tagged.members.reverse

end TaggedMembers

def Event.ofObject (members : List (String × Value)) : Except Mismatch Event := do
  let tagged ← members.foldlM (fun (tagged : TaggedMembers) (key, v) => tagged.put key v) {}
  tagged.finish

end EarlyResolution
