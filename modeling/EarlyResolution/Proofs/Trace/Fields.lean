import EarlyResolution.Proofs.Json.Values
import EarlyResolution.Trace.Writer

/-!
# The fields of events

Each field has a type of its own, and a value either is one that the type accepts, and then
stands for one datum, or is refused.  Events and drafts are both looked at field by field
here, so that what is proved of a field holds of all of them.
-/

namespace EarlyResolution

open Json (Mismatch Number Value)

/-! ## Operation classes -/

theorem OpClass.name_injective {op op' : OpClass} (same : op.name = op'.name) : op = op' := by
  have found := ofName?_name op
  rw [same, ofName?_name] at found
  exact (Option.some.inj found).symm

theorem OpClass.named_eq_ok_iff {name : String} {op : OpClass} :
    ofValue.named name = .ok op ↔ name = op.name := by
  rw [← find?_name_eq_some_iff name_injective op.mem_all, ofValue.named, ofName?]
  cases all.find? fun op => op.name == name <;> simp

/-- What stands for an operation class: its name, or an object with the name as its only key. -/
inductive OpClass.Spells (op : OpClass) : Value → Prop where
  | name : Spells op (.text op.name)
  | null : Spells op (.object [(op.name, .null)])
  | empty : Spells op (.object [(op.name, .object [])])

theorem OpClass.ofValue_eq_ok_iff {v : Value} {op : OpClass} :
    ofValue v = .ok op ↔ op.Spells v := by
  constructor
  · intro taken
    rw [ofValue.eq_def] at taken
    split at taken
    case h_1 name =>
        obtain rfl := named_eq_ok_iff.mp taken
        exact .name
    case h_2 name content =>
        obtain ⟨op, known, bare⟩ := bind_eq_ok_iff.mp taken
        obtain rfl := named_eq_ok_iff.mp known
        split at bare
        case h_1 =>
            obtain rfl := Except.ok.inj bare
            exact .null
        case h_2 =>
            obtain rfl := Except.ok.inj bare
            exact .empty
        case h_3 => cases bare
    case h_3 => cases taken
    case h_4 => cases taken
  · have known := named_eq_ok_iff.mpr (rfl : op.name = op.name)
    rintro (_ | _ | _)
    · exact known
    · exact bind_eq_ok_iff.mpr ⟨op, known, rfl⟩
    · exact bind_eq_ok_iff.mpr ⟨op, known, rfl⟩

/-! ## Kinds -/

namespace EventKind

theorem mem_all (kind : EventKind) : kind ∈ all := by
  cases kind <;> decide

theorem tag_injective {kind other : EventKind} (same : kind.tag = other.tag) : kind = other := by
  revert same
  cases kind <;> cases other <;> decide

/-- The tag names one kind. -/
theorem ofValue_eq_ok_iff {v : Value} {kind : EventKind} :
    ofValue v = .ok kind ↔ v = .text kind.tag := by
  cases v with
  | text name =>
      rw [Value.text.injEq, ← find?_name_eq_some_iff tag_injective kind.mem_all, ofValue]
      cases all.find? fun kind => kind.tag == name <;> simp
  | null | boolean b | number n | sequence items | object members => simp [ofValue]

end EventKind

/-! ## Fields -/

namespace EventField

abbrev Datum : EventField → Type
  | seq | pc | value | dests => UInt64
  | tid => ThreadId
  | op => OpClass
  | srcs => List UInt64
  | ctMode => Bool

/-- The type of a field accepts a value, which then stands for a datum. -/
def Accepts : (field : EventField) → Value → field.Datum → Prop
  | seq, v, word | pc, v, word | tid, v, word | value, v, word | dests, v, word => v = .ofWord word
  | op, v, operation => operation.Spells v
  | srcs, v, words => v = .sequence (words.map .ofWord)
  | ctMode, v, flag => v = .boolean flag

def decode : (field : EventField) → Value → Except Mismatch field.Datum
  | seq | pc | value => Value.toWord "u64"
  | tid | dests => Value.toWord "usize"
  | op => OpClass.ofValue
  | srcs => Value.toList (Value.toWord "u64")
  | ctMode => Value.toBool

def default? : (field : EventField) → Option field.Datum
  | tid => some (0 : ThreadId)
  | ctMode => some false
  | dests => some (1 : UInt64)
  | seq | pc | value | op | srcs => none

theorem decode_eq_ok_iff {field : EventField} {v : Value} {datum : field.Datum} :
    field.decode v = .ok datum ↔ field.Accepts v datum := by
  cases field with
  | seq | pc | tid | value | dests => exact Value.toWord_eq_ok_iff
  | op => exact OpClass.ofValue_eq_ok_iff
  | srcs => exact Value.toList_eq_ok_iff Value.toWord_eq_ok_iff
  | ctMode => exact Value.toBool_eq_ok_iff

theorem key_injective {field other : EventField} (same : field.key = other.key) :
    field = other := by
  revert same
  cases field <;> cases other <;> decide

theorem key_ne_tagKey (field : EventField) : field.key ≠ TaggedMembers.tagKey := by
  cases field <;> decide

end EventField

/-! ## Drafts, field by field -/

namespace EventDraft

def get (draft : EventDraft) : (field : EventField) → Option field.Datum
  | .seq => draft.seq
  | .pc => draft.pc
  | .tid => draft.tid
  | .value => draft.value
  | .op => draft.op
  | .srcs => draft.srcs
  | .ctMode => draft.ctMode
  | .dests => draft.dests

def set (draft : EventDraft) : (field : EventField) → field.Datum → EventDraft
  | .seq, word => { draft with seq := some word }
  | .pc, word => { draft with pc := some word }
  | .tid, word => { draft with tid := some word }
  | .value, word => { draft with value := some word }
  | .op, op => { draft with op := some op }
  | .srcs, words => { draft with srcs := some words }
  | .ctMode, flag => { draft with ctMode := some flag }
  | .dests, word => { draft with dests := some word }

def ofFound (found : (field : EventField) → Option field.Datum) : EventDraft where
  seq := found .seq
  pc := found .pc
  tid := found .tid
  value := found .value
  op := found .op
  srcs := found .srcs
  ctMode := found .ctMode
  dests := found .dests

theorem get_ofFound (found : (field : EventField) → Option field.Datum) (field : EventField) :
    (ofFound found).get field = found field := by
  cases field <;> rfl

theorem get_empty (field : EventField) : ({} : EventDraft).get field = none := by
  cases field <;> rfl

theorem get_injective {draft other : EventDraft}
    (same : ∀ field, draft.get field = other.get field) : draft = other := by
  cases draft
  cases other
  rw [mk.injEq]
  exact ⟨same .seq, same .pc, same .tid, same .value, same .op, same .srcs, same .ctMode,
    same .dests⟩

variable (draft : EventDraft) (field : EventField)

theorem get_set_self (datum : field.Datum) : (draft.set field datum).get field = some datum := by
  cases field <;> rfl

theorem get_set_of_ne {other : EventField} (differs : other ≠ field) (datum : field.Datum) :
    (draft.set field datum).get other = draft.get other := by
  cases field <;> cases other <;> first | rfl | exact absurd rfl differs

theorem has_eq : draft.has field = (draft.get field).isSome := by
  cases field <;> rfl

theorem put_eq (v : Value) : draft.put field v = (field.decode v).map (draft.set field) := by
  cases field <;> exact bind_pure_eq_map _ _

end EventDraft

/-! ## Events, field by field -/

/-- What an event holds in a field, if its kind has it. -/
def Event.get? : Event → (field : EventField) → Option field.Datum
  | .dispatchLoad seq _ _, .seq | .writebackLoad seq _ _, .seq | .commitLoad seq _ _ _, .seq
  | .squash seq _, .seq => some seq
  | .dispatchLoad _ pc _, .pc | .commitLoad _ pc _ _, .pc => some pc
  | .dispatchLoad _ _ tid, .tid | .writebackLoad _ tid _, .tid | .commitLoad _ _ tid _, .tid
  | .squash _ tid, .tid => some tid
  | .writebackLoad _ _ value, .value | .commitLoad _ _ _ value, .value => some value
  | .issue inst, .seq => some inst.seq
  | .issue inst, .pc => some inst.pc
  | .issue inst, .tid => some inst.tid
  | .issue inst, .op => some inst.op
  | .issue inst, .srcs => some inst.srcs
  | .issue inst, .ctMode => some inst.ctMode
  | .issue inst, .dests => some inst.dests
  | _, _ => none

theorem Event.isSome_get? (event : Event) (field : EventField) :
    (event.get? field).isSome = decide (field ∈ event.kind.fields) := by
  cases event <;> cases field <;> rfl

/-- An event of a kind can hold whatever its fields may hold. -/
theorem Event.exists_of_data {kind : EventKind} {holds : (field : EventField) → field.Datum → Prop}
    (data : ∀ field ∈ kind.fields, ∃ datum, holds field datum) :
    ∃ event : Event, event.kind = kind ∧
      ∀ field datum, event.get? field = some datum → holds field datum := by
  cases kind with
  | dispatchLoad =>
      obtain ⟨seq, holdsSeq⟩ := data .seq (by decide)
      obtain ⟨pc, holdsPc⟩ := data .pc (by decide)
      obtain ⟨tid, holdsTid⟩ := data .tid (by decide)
      refine ⟨.dispatchLoad seq pc tid, rfl, fun field datum held => ?_⟩
      cases field <;> cases held <;> assumption
  | writebackLoad =>
      obtain ⟨seq, holdsSeq⟩ := data .seq (by decide)
      obtain ⟨tid, holdsTid⟩ := data .tid (by decide)
      obtain ⟨value, holdsValue⟩ := data .value (by decide)
      refine ⟨.writebackLoad seq tid value, rfl, fun field datum held => ?_⟩
      cases field <;> cases held <;> assumption
  | commitLoad =>
      obtain ⟨seq, holdsSeq⟩ := data .seq (by decide)
      obtain ⟨pc, holdsPc⟩ := data .pc (by decide)
      obtain ⟨tid, holdsTid⟩ := data .tid (by decide)
      obtain ⟨value, holdsValue⟩ := data .value (by decide)
      refine ⟨.commitLoad seq pc tid value, rfl, fun field datum held => ?_⟩
      cases field <;> cases held <;> assumption
  | squash =>
      obtain ⟨seq, holdsSeq⟩ := data .seq (by decide)
      obtain ⟨tid, holdsTid⟩ := data .tid (by decide)
      refine ⟨.squash seq tid, rfl, fun field datum held => ?_⟩
      cases field <;> cases held <;> assumption
  | issue =>
      obtain ⟨seq, holdsSeq⟩ := data .seq (by decide)
      obtain ⟨pc, holdsPc⟩ := data .pc (by decide)
      obtain ⟨tid, holdsTid⟩ := data .tid (by decide)
      obtain ⟨op, holdsOp⟩ := data .op (by decide)
      obtain ⟨srcs, holdsSrcs⟩ := data .srcs (by decide)
      obtain ⟨ctMode, holdsCtMode⟩ := data .ctMode (by decide)
      obtain ⟨dests, holdsDests⟩ := data .dests (by decide)
      refine ⟨.issue { seq, pc, tid, op, srcs, ctMode, dests }, rfl, fun field datum held => ?_⟩
      cases field <;> cases held <;> assumption

end EarlyResolution
