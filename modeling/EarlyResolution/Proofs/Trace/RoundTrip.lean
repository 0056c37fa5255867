import EarlyResolution.Proofs.Json.Written
import EarlyResolution.Proofs.Trace.Decoding
import EarlyResolution.Proofs.Trace.Reading

/-!
# Traces are read back as they were written

The members that an event is written with describe that event and no other, whatever
numbers and lists it holds.
-/

namespace EarlyResolution

open Json (Document Spacing Value)

namespace Event

def object (event : Event) : List (String × Value) :=
  (TaggedMembers.tagKey, .text event.kind.tag) :: event.members

theorem describes_object (event : Event) : Describes event.object event where
  tagged := by cases event <;> rfl
  given := by
    intro field datum held
    cases event <;> cases field <;> cases held
    case issue.op inst => exact .once OpClass.Spells.name
    all_goals exact .once rfl

theorem fits_toValue (event : Event) : Value.Fits (valueNesting + 1) event.toValue := by
  have word (word : UInt64) : Value.Fits valueNesting (.ofWord word) := Value.fits_ofWord _ word
  have words (words : List UInt64) :
      Value.Fits valueNesting (.sequence (words.map .ofWord)) := by
    intro v found
    obtain ⟨word, -, rfl⟩ := List.mem_map.mp found
    exact Value.fits_ofWord _ word
  have each : ∀ member ∈ event.object, Value.Fits valueNesting member.2 := by
    cases event <;> simp only [object, members, List.forall_mem_cons]
    case dispatchLoad seq pc tid => exact ⟨trivial, word seq, word pc, word tid, nofun⟩
    case writebackLoad seq tid value => exact ⟨trivial, word seq, word tid, word value, nofun⟩
    case commitLoad seq pc tid value =>
      exact ⟨trivial, word seq, word pc, word tid, word value, nofun⟩
    case squash seq tid => exact ⟨trivial, word seq, word tid, nofun⟩
    case issue inst =>
      exact ⟨trivial, word inst.seq, word inst.pc, word inst.tid, trivial, words inst.srcs, trivial,
        word inst.dests, nofun⟩
  exact each

end Event

namespace Trace

theorem mapM_ofObject (events : List Event) :
    (events.map Event.object).mapM Event.ofObject = .ok events := by
  induction events with
  | nil => rfl
  | cons event events ih =>
      rw [List.map_cons, List.mapM_cons, ih,
        Event.ofObject_eq_ok_iff.mpr event.describes_object]
      rfl

theorem fits_toValue (events : List Event) :
    Value.Fits Json.maxNesting (.sequence (events.map Event.toValue)) := by
  intro v found
  obtain ⟨event, -, rfl⟩ := List.mem_map.mp found
  exact event.fits_toValue

theorem ofJson_of_written {events : List Event} {text : String}
    (document : Document (.sequence (events.map Event.toValue)) text) :
    ofJson text = .ok events := by
  have objects : events.map Event.toValue = (events.map Event.object).map Value.object := by
    rw [List.map_map]
    rfl
  rw [objects] at document
  rw [ofJson_of_document document, mapM_ofObject]
  rfl

/--
The text that a trace is written to is read back as that trace.  So is any other text of
the array of its event objects, whatever blanks stand in it and however its strings and
numbers are spelled.
-/
theorem ofJson_toJson (events : List Event) :
    ofJson (toJson events) = .ok events ∧
      ∀ text, Document (.sequence (events.map Event.toValue)) text → ofJson text = .ok events :=
  ⟨ofJson_of_written (Value.document_write Spacing.blank_compact (fits_toValue events)),
    fun _ document => ofJson_of_written document⟩

/-- Words at their limit, in a text with one member to a line. -/
theorem ofJson_toJson_at_word_limits :
    let limit : UInt64 := 0xFFFFFFFFFFFFFFFF
    let events : List Event :=
      [.commitLoad limit 0 limit limit,
        .issue { seq := limit, pc := limit, tid := limit, op := .intDiv, srcs := [0, limit, 1]
                 ctMode := true, dests := limit }]
    let text := (Value.sequence (events.map Event.toValue)).write .indented
    Document (.sequence (events.map Event.toValue)) text ∧ ofJson text = .ok events := by
  intro limit events text
  have document : Document (.sequence (events.map Event.toValue)) text :=
    Value.document_write Spacing.blank_indented (fits_toValue events)
  exact ⟨document, (ofJson_toJson events).2 text document⟩

end Trace

end EarlyResolution
