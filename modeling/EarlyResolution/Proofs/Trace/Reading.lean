import EarlyResolution.Proofs.Json.Reading
import EarlyResolution.Trace.Reader

/-!
# A trace is read object by object

Reading the text of an array of objects comes to what decoding the objects comes to, one
after the other, whatever blanks, escapes and numerals the text uses.  What is wrong with
an object is passed on as it is.
-/

namespace EarlyResolution

open Json (Blanks Document Follows Mismatch Problem Reader Spelled Takes Value)

/-! ## Outcomes with their errors renamed -/

section Renamed

variable {ε ε' : Type} (rename : ε → ε')

theorem mapM_mapError (f : α → Except ε β) (items : List α) :
    items.mapM (fun a => (f a).mapError rename) = (items.mapM f).mapError rename := by
  induction items with
  | nil => rfl
  | cons a items ih =>
      rw [List.mapM_cons, List.mapM_cons, ih]
      cases f a with
      | error problem => rfl
      | ok b => cases items.mapM f <;> rfl

theorem foldlM_mapError (f : β → α → Except ε β) (items : List α) (start : β) :
    items.foldlM (fun b a => (f b a).mapError rename) start =
      (items.foldlM f start).mapError rename := by
  induction items generalizing start with
  | nil => rfl
  | cons a items ih =>
      rw [List.foldlM_cons, List.foldlM_cons]
      cases f start a with
      | error problem => rfl
      | ok b => exact ih b

end Renamed

/-! ## Events -/

theorem EventKind.takes_reader {depth : Nat} {v : Value} {s : List Char}
    (spelled : Spelled depth v s) :
    Takes reader s ((ofValue v).mapError Problem.unsuited) :=
  Reader.takes_scalar (fun _ => rfl) (fun _ => rfl) spelled

theorem TaggedMembers.readMember_of_spelled {key : String} {v : Value}
    {before behind s rest : List Char} (blank : Blanks before) (blank' : Blanks behind)
    (spelled : Spelled valueNesting v s) (follows : Follows rest) (tagged : TaggedMembers) :
    tagged.readMember key (before ++ ':' :: (behind ++ (s ++ rest))) =
      ((tagged.put key v).mapError Problem.unsuited).map fun tagged => (tagged, rest) := by
  rw [readMember, put]
  by_cases same : key = tagKey
  · rw [if_pos same, if_pos same]
    cases tagged.kind.isSome with
    | true => rfl
    | false =>
        have read := Reader.colon_of_takes blank blank' (Reader.skipsBlanks_scalar _ _)
          (EventKind.takes_reader spelled) follows
          fun kind => { tagged with kind := some kind }
        refine Eq.trans read ?_
        cases EventKind.ofValue v <;> rfl
  · rw [if_neg same, if_neg same]
    exact Reader.colon_of_takes blank blank' (Reader.skipsBlanks_value _)
      (Reader.value_of_spelled spelled) follows (tagged.add key)

/-- An object is read as it is decoded. -/
theorem Event.takes_reader {members : List (String × Value)} {s : List Char}
    (spelled : Spelled (valueNesting + 1) (.object members) s) :
    Takes reader s ((ofObject members).mapError Problem.unsuited) := by
  obtain ⟨body, listing, rfl⟩ := spelled
  intro rest follows
  have read : Reader.foldMembers TaggedMembers.readMember {} (body ++ '\x7d' :: rest) =
      (members.foldlM (fun (tagged : TaggedMembers) (member : String × Value) =>
        (tagged.put member.1 member.2).mapError Problem.unsuited) {}).map
          fun tagged => (tagged, rest) :=
    Reader.foldMembers_listing TaggedMembers.readMember_of_spelled listing _ rest
  have decoded : ofObject members = members.foldlM (fun (tagged : TaggedMembers) member =>
      tagged.put member.1 member.2) {} >>= TaggedMembers.finish := rfl
  simp only [List.cons_append, List.append_assoc, List.nil_append]
  rw [reader, Reader.peek_bind_cons (by decide)]
  change (Reader.drop >>= fun _ => Reader.foldMembers TaggedMembers.readMember {} >>=
    fun tagged => Reader.fit tagged.finish) _ = _
  rw [Reader.drop_bind_cons, Reader.bind_apply, read, foldlM_mapError, decoded]
  cases members.foldlM (fun (tagged : TaggedMembers) member => tagged.put member.1 member.2) {} with
  | error mismatch => rfl
  | ok tagged => exact Reader.fit_apply _ _

namespace Trace

/-- Whatever the text of an array of objects looks like, its events are those of the objects. -/
theorem ofJson_of_document {objects : List (List (String × Value))} {text : String}
    (document : Document (.sequence (objects.map Value.object)) text) :
    ofJson text =
      (objects.mapM Event.ofObject).mapError fun mismatch => .parse (.unsuited mismatch) := by
  obtain ⟨before, _, behind, blank, blank', ⟨body, listing, rfl⟩, same⟩ := document
  have takes (members : List (String × Value)) (s : List Char)
      (spelled : Spelled (valueNesting + 1) (.object members) s) :
      Reader.Starts s ∧ Takes Event.reader s ((Event.ofObject members).mapError .unsuited) :=
    ⟨Reader.starts_of_spelled spelled, Event.takes_reader spelled⟩
  have read : reader text.toList =
      ((objects.mapM Event.ofObject).mapError Problem.unsuited).map fun events =>
        (events, behind) := by
    rw [same, reader, Reader.array, Reader.skipsBlanks_peek_bind _ blank]
    simp only [List.cons_append, List.append_assoc, List.nil_append]
    rw [Reader.peek_bind_cons (by decide)]
    change (Reader.drop >>= fun _ => Reader.elements Event.reader) _ = _
    rw [Reader.drop_bind_cons, Reader.elements_listing takes listing.of_map, mapM_mapError]
  rw [ofJson, Reader.run_of_blanks read blank']
  cases objects.mapM Event.ofObject <;> rfl

end Trace

end EarlyResolution
