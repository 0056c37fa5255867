import EarlyResolution.Proofs.Trace.Fields

/-!
# What the members of an object describe

An object is decoded member by member, with the fields of its kind only known once the tag
is.  What comes of it depends on nothing but the values under each key: a key of interest is
given once, with a value that its type accepts, or not at all.
-/

namespace EarlyResolution

open Json (Mismatch Value)

/-! ## A key that may be given once -/

/--
What has been found under a key before and after some values are met in turn, each of which
is decoded and may be the only one.
-/
inductive Once {α : Type} (decode : Value → Except Mismatch α) :
    Option α → List Value → Option α → Prop where
  | absent (found : Option α) : Once decode found [] found
  | present {v : Value} {a : α} (decoded : decode v = .ok a) : Once decode none [v] (some a)

section Once

variable {α : Type} {decode : Value → Except Mismatch α} {found found' : Option α}
  {v : Value} {vs : List Value}

theorem once_nil_iff : Once decode found [] found' ↔ found' = found := by
  constructor
  · rintro ⟨⟩
    rfl
  · rintro rfl
    exact .absent _

theorem once_cons_iff :
    Once decode found (v :: vs) found' ↔
      found = none ∧ ∃ a, decode v = .ok a ∧ Once decode (some a) vs found' := by
  constructor
  · rintro ⟨⟩
    case present a decoded => exact ⟨rfl, a, decoded, .absent _⟩
  · rintro ⟨rfl, a, decoded, ⟨⟩⟩
    exact .present decoded

end Once

/-! ## The tag -/

namespace TaggedMembers

theorem put_tagKey_eq_ok_iff {tagged tagged' : TaggedMembers} {v : Value} :
    tagged.put tagKey v = .ok tagged' ↔
      tagged.kind = none ∧
        ∃ kind, EventKind.ofValue v = .ok kind ∧ tagged' = { tagged with kind := some kind } := by
  rw [put, if_pos rfl]
  cases tagged.kind with
  | some kind => simp
  | none => cases EventKind.ofValue v <;> simp [Except.map, eq_comm]

def others (members : List (String × Value)) : List (String × Value) :=
  members.filter fun member => member.1 != tagKey

theorem foldlM_put_eq_ok_iff {members : List (String × Value)} {tagged tagged' : TaggedMembers} :
    members.foldlM (fun (tagged : TaggedMembers) (key, v) => tagged.put key v) tagged =
        .ok tagged' ↔
      Once EventKind.ofValue tagged.kind (valuesOf tagKey members) tagged'.kind ∧
        tagged'.members = (others members).reverse ++ tagged.members := by
  induction members generalizing tagged with
  | nil =>
      cases tagged
      cases tagged'
      change Except.ok _ = _ ↔ Once _ _ [] _ ∧ _
      rw [once_nil_iff, Except.ok.injEq, mk.injEq]
      exact ⟨fun ⟨kind, members⟩ => ⟨kind.symm, members.symm⟩,
        fun ⟨kind, members⟩ => ⟨kind.symm, members.symm⟩⟩
  | cons member members ih =>
      obtain ⟨key, v⟩ := member
      rw [List.foldlM_cons, bind_eq_ok_iff]
      by_cases same : key = tagKey
      · subst same
        have dropped : others ((tagKey, v) :: members) = others members := by simp [others]
        rw [valuesOf_cons_self, once_cons_iff, dropped]
        simp only [put_tagKey_eq_ok_iff, ih]
        constructor
        · rintro ⟨_, ⟨fresh, kind, decoded, rfl⟩, once, listed⟩
          exact ⟨⟨fresh, kind, decoded, once⟩, listed⟩
        · rintro ⟨⟨fresh, kind, decoded, once⟩, listed⟩
          exact ⟨_, ⟨fresh, kind, decoded, rfl⟩, once, listed⟩
      · have kept : (others ((key, v) :: members)).reverse ++ tagged.members =
            (others members).reverse ++ (key, v) :: tagged.members := by simp [others, same]
        have put : tagged.put key v = .ok (tagged.add key v) := if_neg same
        rw [valuesOf_cons_of_ne same, kept]
        simp only [put, Except.ok.injEq, exists_eq_left', ih]
        rfl

end TaggedMembers

/-! ## The fields -/

namespace EventKind

/-- The values that a kind finds for a field: those under its key, if the kind has the field. -/
def valuesFor (kind : EventKind) (field : EventField) (members : List (String × Value)) :
    List Value :=
  if field ∈ kind.fields then valuesOf field.key members else []

variable {kind : EventKind} {field : EventField} {members : List (String × Value)} {v : Value}

theorem valuesFor_of_mem (own : field ∈ kind.fields) :
    kind.valuesFor field members = valuesOf field.key members :=
  if_pos own

theorem valuesFor_nil : kind.valuesFor field [] = [] := by
  rw [valuesFor, valuesOf, List.filter_nil, List.map_nil, ite_self]

theorem valuesFor_cons_of_ne {key : String} (differs : field ∈ kind.fields → key ≠ field.key) :
    kind.valuesFor field ((key, v) :: members) = kind.valuesFor field members := by
  by_cases own : field ∈ kind.fields
  · rw [valuesFor_of_mem own, valuesFor_of_mem own, valuesOf_cons_of_ne (differs own)]
  · rw [valuesFor, valuesFor, if_neg own, if_neg own]

end EventKind

namespace EventDraft

variable {kind : EventKind}

theorem putMember_of_foreign {key : String} (foreign : ∀ field ∈ kind.fields, key ≠ field.key)
    (draft : EventDraft) (v : Value) : draft.putMember kind key v = .ok draft := by
  have none : kind.fields.find? (fun field => field.key == key) = none :=
    List.find?_eq_none.mpr fun field own => by simpa using (foreign field own).symm
  rw [putMember, none]

theorem putMember_eq_ok_iff {field : EventField} (own : field ∈ kind.fields)
    {draft draft' : EventDraft} {v : Value} :
    draft.putMember kind field.key v = .ok draft' ↔
      draft.get field = none ∧
        ∃ datum, field.decode v = .ok datum ∧ draft' = draft.set field datum := by
  rw [putMember, (find?_name_eq_some_iff EventField.key_injective own).mpr rfl]
  simp only [has_eq, put_eq]
  cases draft.get field with
  | some datum => simp
  | none => cases field.decode v <;> simp [Except.map, eq_comm]

theorem foldlM_putMember_eq_ok_iff {members : List (String × Value)} {draft draft' : EventDraft} :
    members.foldlM (fun (draft : EventDraft) (key, v) => draft.putMember kind key v) draft =
        .ok draft' ↔
      ∀ field, Once field.decode (draft.get field) (kind.valuesFor field members)
        (draft'.get field) := by
  induction members generalizing draft with
  | nil =>
      simp only [EventKind.valuesFor_nil, once_nil_iff]
      constructor
      · rintro ⟨⟩ field
        rfl
      · intro same
        exact congrArg Except.ok (get_injective fun field => (same field).symm)
  | cons member members ih =>
      obtain ⟨key, v⟩ := member
      rw [List.foldlM_cons, bind_eq_ok_iff]
      -- The member is passed over unless it names a field of the kind, which then must be fresh.
      by_cases own : ∃ field ∈ kind.fields, key = field.key
      · obtain ⟨field, own, rfl⟩ := own
        have differs {other : EventField} (differs : other ≠ field) : field.key ≠ other.key :=
          fun same => differs (EventField.key_injective same).symm
        have here : Once field.decode (draft.get field)
            (kind.valuesFor field ((field.key, v) :: members)) (draft'.get field) ↔
            draft.get field = none ∧ ∃ datum, field.decode v = .ok datum ∧
              Once field.decode (some datum) (kind.valuesFor field members) (draft'.get field) := by
          rw [EventKind.valuesFor_of_mem own, EventKind.valuesFor_of_mem own,
            valuesOf_cons_self, once_cons_iff]
        simp only [putMember_eq_ok_iff own, ih]
        constructor
        · rintro ⟨_, ⟨fresh, datum, decoded, rfl⟩, all⟩ other
          by_cases same : other = field
          · subst same
            have once := all other
            rw [get_set_self] at once
            exact here.mpr ⟨fresh, datum, decoded, once⟩
          · have once := all other
            rw [get_set_of_ne _ _ same] at once
            rwa [EventKind.valuesFor_cons_of_ne fun _ => differs same]
        · intro all
          obtain ⟨fresh, datum, decoded, once⟩ := here.mp (all field)
          refine ⟨_, ⟨fresh, datum, decoded, rfl⟩, fun other => ?_⟩
          by_cases same : other = field
          · subst same
            rwa [get_set_self]
          · have once := all other
            rw [EventKind.valuesFor_cons_of_ne fun _ => differs same] at once
            rwa [get_set_of_ne _ _ same]
      · have foreign : ∀ field ∈ kind.fields, key ≠ field.key := fun field mine same =>
          own ⟨field, mine, same⟩
        simp only [putMember_of_foreign foreign, Except.ok.injEq, exists_eq_left', ih,
          EventKind.valuesFor_cons_of_ne (foreign _)]

end EventDraft

/-! ## Putting an event together -/

namespace EventDraft

theorem bind_demand_eq_ok_iff {field : EventField} {found : Option α} {f : α → Except Mismatch β}
    {b : β} : (demand field found >>= f) = .ok b ↔ ∃ a, found = some a ∧ f a = .ok b := by
  cases found with
  | none => exact bind_eq_ok_iff.trans (by simp [demand])
  | some a => exact bind_eq_ok_iff.trans (by simp [demand])

/-- An event holds in each field what the draft has found, or the default. -/
def Fills (draft : EventDraft) (event : Event) : Prop :=
  ∀ field datum, event.get? field = some datum →
    (draft.get field).or field.default? = some datum

namespace Fills

variable {draft : EventDraft} {event : Event} (fills : draft.Fills event) (field : EventField)
include fills

theorem required (needed : field.default? = none) {datum : field.Datum}
    (held : event.get? field = some datum) : draft.get field = some datum := by
  have filled := fills field datum held
  rwa [needed, Option.or_none] at filled

theorem defaulted {default : field.Datum} (given : field.default? = some default)
    {datum : field.Datum} (held : event.get? field = some datum) :
    (draft.get field).getD default = datum := by
  have filled := fills field datum held
  rwa [given, Option.or_some, Option.some.injEq] at filled

end Fills

theorem finish_eq_ok_iff {draft : EventDraft} {kind : EventKind} {event : Event} :
    draft.finish kind = .ok event ↔ event.kind = kind ∧ draft.Fills event := by
  constructor
  · intro finished
    cases kind <;> simp only [finish, bind_demand_eq_ok_iff] at finished
    case dispatchLoad =>
      obtain ⟨seq, seqFound, pc, pcFound, ⟨⟩⟩ := finished
      refine ⟨rfl, fun field datum held => ?_⟩
      cases field <;> cases held <;> simp [get, EventField.default?, *]
    case writebackLoad =>
      obtain ⟨seq, seqFound, value, valueFound, ⟨⟩⟩ := finished
      refine ⟨rfl, fun field datum held => ?_⟩
      cases field <;> cases held <;> simp [get, EventField.default?, *]
    case commitLoad =>
      obtain ⟨seq, seqFound, pc, pcFound, value, valueFound, ⟨⟩⟩ := finished
      refine ⟨rfl, fun field datum held => ?_⟩
      cases field <;> cases held <;> simp [get, EventField.default?, *]
    case squash =>
      obtain ⟨seq, seqFound, ⟨⟩⟩ := finished
      refine ⟨rfl, fun field datum held => ?_⟩
      cases field <;> cases held <;> simp [get, EventField.default?, *]
    case issue =>
      obtain ⟨seq, seqFound, pc, pcFound, op, opFound, srcs, srcsFound, ⟨⟩⟩ := finished
      refine ⟨rfl, fun field datum held => ?_⟩
      cases field <;> cases held <;> simp [get, EventField.default?, *]
  · rintro ⟨rfl, fills⟩
    cases event <;> simp only [Event.kind, finish, bind_demand_eq_ok_iff]
    case dispatchLoad seq pc tid =>
      have tidFilled : draft.tid.getD 0 = tid := fills.defaulted .tid rfl rfl
      refine ⟨seq, fills.required .seq rfl rfl, pc, fills.required .pc rfl rfl, ?_⟩
      rw [tidFilled]
      rfl
    case writebackLoad seq tid value =>
      have tidFilled : draft.tid.getD 0 = tid := fills.defaulted .tid rfl rfl
      refine ⟨seq, fills.required .seq rfl rfl, value, fills.required .value rfl rfl, ?_⟩
      rw [tidFilled]
      rfl
    case commitLoad seq pc tid value =>
      have tidFilled : draft.tid.getD 0 = tid := fills.defaulted .tid rfl rfl
      refine ⟨seq, fills.required .seq rfl rfl, pc, fills.required .pc rfl rfl,
        value, fills.required .value rfl rfl, ?_⟩
      rw [tidFilled]
      rfl
    case squash seq tid =>
      have tidFilled : draft.tid.getD 0 = tid := fills.defaulted .tid rfl rfl
      refine ⟨seq, fills.required .seq rfl rfl, ?_⟩
      rw [tidFilled]
      rfl
    case issue inst =>
      have tidFilled : draft.tid.getD 0 = inst.tid := fills.defaulted .tid rfl rfl
      have ctModeFilled : draft.ctMode.getD false = inst.ctMode := fills.defaulted .ctMode rfl rfl
      have destsFilled : draft.dests.getD 1 = inst.dests := fills.defaulted .dests rfl rfl
      refine ⟨inst.seq, fills.required .seq rfl rfl, inst.pc, fills.required .pc rfl rfl,
        inst.op, fills.required .op rfl rfl, inst.srcs, fills.required .srcs rfl rfl, ?_⟩
      rw [tidFilled, ctModeFilled, destsFilled]
      rfl

end EventDraft

/-! ## Objects -/

/-- A field is given by the values under its key: once, or not at all if it has a default. -/
inductive EventField.Given (field : EventField) : List Value → field.Datum → Prop where
  | once {v : Value} {datum : field.Datum} (accepted : field.Accepts v datum) :
      Given field [v] datum
  | omitted {datum : field.Datum} (filled : field.default? = some datum) : Given field [] datum

theorem EventField.given_iff {field : EventField} {vs : List Value} {datum : field.Datum} :
    field.Given vs datum ↔
      ∃ found, Once field.decode none vs found ∧ found.or field.default? = some datum := by
  constructor
  · rintro (accepted | filled)
    · exact ⟨some datum, .present (decode_eq_ok_iff.mpr accepted), rfl⟩
    · exact ⟨none, .absent none, filled⟩
  · rintro ⟨found, once, filled⟩
    cases once with
    | absent => exact .omitted filled
    | present decoded =>
        obtain rfl := Option.some.inj filled
        exact .once (decode_eq_ok_iff.mp decoded)

theorem Event.mem_fields_of_get? {event : Event} {field : EventField} {datum : field.Datum}
    (held : event.get? field = some datum) : field ∈ event.kind.fields := by
  have some := event.isSome_get? field
  rw [held] at some
  exact of_decide_eq_true some.symm

theorem Event.ofMembers_eq_ok_iff {kind : EventKind} {members : List (String × Value)}
    {event : Event} :
    ofMembers kind members = .ok event ↔
      event.kind = kind ∧ ∀ field datum, event.get? field = some datum →
        field.Given (valuesOf field.key members) datum := by
  rw [ofMembers, bind_eq_ok_iff]
  simp only [EventDraft.foldlM_putMember_eq_ok_iff, EventDraft.finish_eq_ok_iff,
    EventDraft.get_empty]
  constructor
  · rintro ⟨draft, once, rfl, fills⟩
    refine ⟨rfl, fun field datum held => ?_⟩
    have once := once field
    rw [EventKind.valuesFor_of_mem (mem_fields_of_get? held)] at once
    exact EventField.given_iff.mpr ⟨_, once, fills field datum held⟩
  · rintro ⟨rfl, given⟩
    -- The members lead to a draft that is put together here from what each field must have found.
    have each (field : EventField) : ∃ found,
        Once field.decode none (event.kind.valuesFor field members) found ∧
          ∀ datum, event.get? field = some datum → found.or field.default? = some datum := by
      cases held : event.get? field with
      | none =>
          have foreign : field ∉ event.kind.fields := by
            have none := event.isSome_get? field
            rw [held] at none
            exact of_decide_eq_false none.symm
          rw [EventKind.valuesFor, if_neg foreign]
          exact ⟨none, .absent none, nofun⟩
      | some datum =>
          rw [EventKind.valuesFor_of_mem (mem_fields_of_get? held)]
          obtain ⟨found, once, filled⟩ := EventField.given_iff.mp (given field datum held)
          refine ⟨found, once, ?_⟩
          rintro _ ⟨⟩
          exact filled
    obtain ⟨found, each⟩ := Classical.axiomOfChoice each
    refine ⟨.ofFound found, fun field => ?_, rfl, fun field datum held => ?_⟩
    · rw [EventDraft.get_ofFound]
      exact (each field).1
    · rw [EventDraft.get_ofFound]
      exact (each field).2 datum held

/-- The members describe an event: they give its tag once, and every field that it has. -/
structure Describes (members : List (String × Value)) (event : Event) : Prop where
  tagged : valuesOf TaggedMembers.tagKey members = [.text event.kind.tag]
  given : ∀ field datum, event.get? field = some datum →
    field.Given (valuesOf field.key members) datum

theorem valuesOf_others {key : String} (differs : key ≠ TaggedMembers.tagKey)
    (members : List (String × Value)) :
    valuesOf key (TaggedMembers.others members) = valuesOf key members := by
  rw [valuesOf, valuesOf, TaggedMembers.others, List.filter_filter]
  congr 1
  refine List.filter_congr fun member _ => ?_
  by_cases same : member.1 = key
  · simp [same, differs]
  · simp [same]

theorem Event.ofObject_eq_ok_iff {members : List (String × Value)} {event : Event} :
    ofObject members = .ok event ↔ Describes members event := by
  rw [ofObject, bind_eq_ok_iff]
  simp only [TaggedMembers.foldlM_put_eq_ok_iff]
  constructor
  · rintro ⟨⟨kind?, listed⟩, ⟨once, rfl⟩, finished⟩
    generalize tags : valuesOf TaggedMembers.tagKey members = vs at once
    cases once with
    | absent => cases finished
    | present decoded =>
        simp only [TaggedMembers.finish, List.append_nil, List.reverse_reverse,
          ofMembers_eq_ok_iff] at finished
        obtain ⟨rfl, given⟩ := finished
        refine ⟨by rw [tags, EventKind.ofValue_eq_ok_iff.mp decoded], fun field datum held => ?_⟩
        rw [← valuesOf_others field.key_ne_tagKey]
        exact given field datum held
  · rintro ⟨tagged, given⟩
    refine ⟨⟨some event.kind, (TaggedMembers.others members).reverse⟩, ⟨?_, ?_⟩, ?_⟩
    · rw [tagged]
      exact .present (EventKind.ofValue_eq_ok_iff.mpr rfl)
    · exact (List.append_nil _).symm
    · rw [TaggedMembers.finish, List.reverse_reverse, ofMembers_eq_ok_iff]
      refine ⟨rfl, fun field datum held => ?_⟩
      rw [valuesOf_others field.key_ne_tagKey]
      exact given field datum held

end EarlyResolution
