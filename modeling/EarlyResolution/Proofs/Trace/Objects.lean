import EarlyResolution.Proofs.Json.Written
import EarlyResolution.Proofs.Trace.Decoding
import EarlyResolution.Proofs.Trace.Reading

/-!
# Objects are decoded by their members alone

Where the tag stands, in which order the fields come and what else the object holds makes no
difference to the event that comes of it; and a field left out is a field given its default.
-/

namespace EarlyResolution

open Json (Document Mismatch Spacing Value)

namespace EventField

variable {field : EventField} {v : Value} {vs : List Value} {datum : field.Datum}

theorem Given.perm {vs' : List Value} (given : field.Given vs datum) (same : vs.Perm vs') :
    field.Given vs' datum := by
  cases given with
  | once accepted =>
      obtain rfl := List.singleton_perm.mp same
      exact .once accepted
  | omitted filled =>
      obtain rfl := List.nil_perm.mp same
      exact .omitted filled

theorem given_singleton_iff : field.Given [v] datum ↔ field.Accepts v datum := by
  constructor
  · rintro ⟨accepted⟩
    exact accepted
  · exact .once

theorem given_nil_iff : field.Given [] datum ↔ field.default? = some datum := by
  constructor
  · rintro (_ | filled)
    exact filled
  · exact .omitted

/-- A value stands for one datum only. -/
theorem Accepts.unique {datum' : field.Datum} (accepted : field.Accepts v datum)
    (accepted' : field.Accepts v datum') : datum = datum' := by
  have decoded := decode_eq_ok_iff.mpr accepted
  rw [decode_eq_ok_iff.mpr accepted'] at decoded
  exact (Except.ok.inj decoded).symm

/-- A null is no value of any field, not even of one that may be left out. -/
theorem Given.null_notMem (given : field.Given vs datum) : Value.null ∉ vs := by
  cases given with
  | once accepted =>
      intro found
      obtain rfl := List.mem_singleton.mp found
      have decoded := decode_eq_ok_iff.mpr accepted
      cases field <;> cases decoded
  | omitted filled => exact List.not_mem_nil

/-- Giving a field its default comes to leaving it out. -/
theorem given_default_iff (filled : field.default? = some datum) (accepted : field.Accepts v datum)
    {datum' : field.Datum} : field.Given [v] datum' ↔ field.Given [] datum' := by
  rw [given_singleton_iff, given_nil_iff, filled, Option.some.injEq]
  constructor
  · exact accepted.unique
  · rintro rfl
    exact accepted

end EventField

/-- The key is neither the tag's nor that of a field of the kind that the tag names. -/
def ForeignKey (members : List (String × Value)) (key : String) : Prop :=
  key ≠ TaggedMembers.tagKey ∧
    ∀ kind : EventKind, valuesOf TaggedMembers.tagKey members = [.text kind.tag] →
      ∀ field ∈ kind.fields, key ≠ field.key

section Describes

variable {members other before extra after : List (String × Value)} {event : Event}

theorem Describes.perm (described : Describes members event) (same : members.Perm other) :
    Describes other event where
  tagged := by
    have tags : (valuesOf TaggedMembers.tagKey members).Perm _ := valuesOf_perm same
    rw [described.tagged] at tags
    exact (List.singleton_perm.mp tags).symm
  given := fun field datum held => (described.given field datum held).perm (valuesOf_perm same)

/-- Only the values under the tag and under the fields of its kind count. -/
theorem describes_congr
    (tags : valuesOf TaggedMembers.tagKey other = valuesOf TaggedMembers.tagKey members)
    (fields : ∀ kind : EventKind, valuesOf TaggedMembers.tagKey members = [.text kind.tag] →
      ∀ field ∈ kind.fields, ∀ datum,
        field.Given (valuesOf field.key other) datum ↔
          field.Given (valuesOf field.key members) datum) :
    Describes other event ↔ Describes members event := by
  constructor
  · rintro ⟨tagged, given⟩
    rw [tags] at tagged
    exact ⟨tagged, fun field datum held =>
      (fields _ tagged field (Event.mem_fields_of_get? held) datum).mp (given field datum held)⟩
  · rintro ⟨tagged, given⟩
    exact ⟨tags.trans tagged, fun field datum held =>
      (fields _ tagged field (Event.mem_fields_of_get? held) datum).mpr (given field datum held)⟩

theorem describes_insert_iff
    (foreign : ∀ member ∈ extra, ForeignKey (before ++ after) member.1) :
    Describes (before ++ (extra ++ after)) event ↔ Describes (before ++ after) event := by
  refine describes_congr (valuesOf_insert fun member found => (foreign member found).1) ?_
  intro kind tagged field own datum
  rw [valuesOf_insert fun member found => (foreign member found).2 kind tagged field own]

theorem describes_default_iff {field : EventField} {datum : field.Datum} {v : Value}
    (filled : field.default? = some datum) (accepted : field.Accepts v datum)
    (omitted : valuesOf field.key (before ++ after) = []) :
    Describes (before ++ (field.key, v) :: after) event ↔ Describes (before ++ after) event := by
  have elsewhere {key : String} (differs : field.key ≠ key) :
      valuesOf key (before ++ (field.key, v) :: after) = valuesOf key (before ++ after) := by
    rw [valuesOf_append, valuesOf_append, valuesOf_cons_of_ne differs]
  refine describes_congr (elsewhere field.key_ne_tagKey) ?_
  intro kind tagged other own datum'
  by_cases same : other = field
  · subst same
    rw [valuesOf_append, List.append_eq_nil_iff] at omitted
    rw [valuesOf_append, valuesOf_append, valuesOf_cons_self, omitted.1, omitted.2]
    exact EventField.given_default_iff filled accepted
  · rw [elsewhere fun equal => same (EventField.key_injective equal).symm]

theorem Describes.exists_given (described : Describes members event) {field : EventField}
    (own : field ∈ event.kind.fields) :
    ∃ datum, field.Given (valuesOf field.key members) datum := by
  have some : (event.get? field).isSome = true := by
    rw [Event.isSome_get?]
    exact decide_eq_true own
  obtain ⟨datum, held⟩ := Option.isSome_iff_exists.mp some
  exact ⟨datum, described.given field datum held⟩

theorem exists_describes_iff :
    (∃ event, Describes members event) ↔
      ∃ kind : EventKind, valuesOf TaggedMembers.tagKey members = [.text kind.tag] ∧
        ∀ field ∈ kind.fields, ∃ datum, field.Given (valuesOf field.key members) datum := by
  constructor
  · rintro ⟨event, described⟩
    exact ⟨event.kind, described.tagged, fun field own => described.exists_given own⟩
  · rintro ⟨kind, tagged, given⟩
    obtain ⟨event, rfl, holds⟩ := Event.exists_of_data given
    exact ⟨event, tagged, holds⟩

end Describes

/--
An event object is decoded by its members alone.  It is an event exactly when the tag is
given once and names a kind, every field of the kind is given once with a value that its
type accepts, or is left out and has a default; and then the event is the one that holds
just that.  So the order of the members makes no difference, nor do members under any other
keys, nor whether a default is written out.  The same holds of any text of the object.
-/
theorem Event.ofObject_by_members_alone (members : List (String × Value)) :
    ((∃ event, ofObject members = .ok event) ↔
      ∃ kind : EventKind, valuesOf TaggedMembers.tagKey members = [.text kind.tag] ∧
        ∀ field ∈ kind.fields, ∃ datum, field.Given (valuesOf field.key members) datum) ∧
    (∀ event, ofObject members = .ok event ↔ Describes members event) ∧
    (∀ event, ofObject members = .ok event →
      ∀ field ∈ event.kind.fields, Value.null ∉ valuesOf field.key members) ∧
    (∀ other, members.Perm other →
      ∀ event, ofObject other = .ok event ↔ ofObject members = .ok event) ∧
    (∀ before extra after, members = before ++ after →
      (∀ member ∈ extra, ForeignKey members member.1) →
      ∀ event, ofObject (before ++ (extra ++ after)) = .ok event ↔
        ofObject members = .ok event) ∧
    (∀ before after, members = before ++ after →
      ∀ (field : EventField) (datum : field.Datum) (v : Value),
        field.default? = some datum → field.Accepts v datum → valuesOf field.key members = [] →
        ∀ event, ofObject (before ++ (field.key, v) :: after) = .ok event ↔
          ofObject members = .ok event) ∧
    (∀ text, Document (.sequence [.object members]) text →
      Trace.ofJson text =
        ((ofObject members).map fun event => [event]).mapError
          fun mismatch => .parse (.unsuited mismatch)) := by
  refine ⟨?_, fun event => ofObject_eq_ok_iff, ?_, ?_, ?_, ?_, ?_⟩
  · simp only [ofObject_eq_ok_iff]
    exact exists_describes_iff
  · intro event decoded field own
    obtain ⟨datum, given⟩ := (ofObject_eq_ok_iff.mp decoded).exists_given own
    exact given.null_notMem
  · intro other same event
    rw [ofObject_eq_ok_iff, ofObject_eq_ok_iff]
    exact ⟨fun described => described.perm same.symm, fun described => described.perm same⟩
  · rintro before extra after rfl foreign event
    rw [ofObject_eq_ok_iff, ofObject_eq_ok_iff]
    exact describes_insert_iff foreign
  · rintro before after rfl field datum v filled accepted omitted event
    rw [ofObject_eq_ok_iff, ofObject_eq_ok_iff]
    exact describes_default_iff filled accepted omitted
  · intro text document
    have listed : Document (.sequence ([members].map .object)) text := document
    rw [Trace.ofJson_of_document listed, List.mapM_cons, List.mapM_nil]
    cases ofObject members <;> rfl

/-- A dispatched load with its tag last, its thread left out and keys of other kinds. -/
theorem Event.ofObject_by_members_alone_with_tag_last :
    let front : List (String × Value) := [("pc", .ofWord 256), ("ct_mode", .null)]
    let back : List (String × Value) :=
      [("seq", .ofWord 7), ("note", .text "a"), ("event", .text "dispatch_load")]
    let foreign : List (String × Value) := [("value", .null), ("note", .boolean true)]
    let event : Event := .dispatchLoad 7 256 0
    ofObject (front ++ back) = .ok event ∧
      ofObject (back ++ front) = .ok event ∧
      ofObject (front ++ (foreign ++ back)) = .ok event ∧
      ofObject (front ++ ("tid", .ofWord 0) :: back) = .ok event ∧
      (∀ event, ofObject (front ++ ("tid", .null) :: back) ≠ .ok event) ∧
      Trace.ofJson ((Value.sequence [.object (front ++ back)]).write .indented) = .ok [event] := by
  intro front back foreign event
  obtain ⟨-, -, -, permuted, inserted, defaulted, read⟩ :=
    ofObject_by_members_alone (front ++ back)
  have decoded : ofObject (front ++ back) = .ok event := by rfl
  have unknown : ∀ member ∈ foreign, ForeignKey (front ++ back) member.1 := by
    have apart : ∀ key ∈ ["value", "note"], key ≠ TaggedMembers.tagKey ∧
        ∀ field ∈ EventKind.dispatchLoad.fields, key ≠ field.key := by decide
    have keys : ∀ member ∈ foreign, member.1 ∈ ["value", "note"] := by simp [foreign]
    intro member found
    obtain ⟨untagged, fieldless⟩ := apart _ (keys member found)
    refine ⟨untagged, fun kind tagged => ?_⟩
    have tags : [Value.text "dispatch_load"] = [.text kind.tag] := tagged
    obtain rfl : kind = .dispatchLoad := by
      revert tags
      cases kind <;> simp [EventKind.tag]
    exact fieldless
  have fits : Value.Fits Json.maxNesting (.sequence [.object (front ++ back)]) := by
    have each : ∀ member ∈ front ++ back, Value.Fits valueNesting member.2 := by
      simp only [front, back, List.cons_append, List.nil_append, List.forall_mem_cons]
      exact ⟨Value.fits_ofWord _ _, trivial, Value.fits_ofWord _ _, trivial, trivial, nofun⟩
    intro v found
    rw [List.mem_singleton.mp found]
    exact each
  refine ⟨decoded, ?_, ?_, ?_, ?_, ?_⟩
  · exact (permuted _ List.perm_append_comm event).mpr decoded
  · exact (inserted front foreign back rfl unknown event).mpr decoded
  · exact (defaulted front back rfl .tid 0 (.ofWord 0) rfl rfl rfl event).mpr decoded
  · rintro event ⟨⟩
  · rw [read _ (Value.document_write Spacing.blank_indented fits), decoded]
    rfl

end EarlyResolution
