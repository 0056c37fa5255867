import Mathlib.Data.List.Nodup
import Mathlib.Data.List.Perm.Subperm
import EarlyResolution.Proofs.Json.Skipping
import EarlyResolution.Proofs.Json.Values

/-!
# Records are read on top of defaults

A record that is given as an object takes over what its known keys give, in any order, and
keeps its defaults in the fields that are left out.  Members under other keys are passed
over, wherever they stand and however often a key is repeated.
-/

namespace EarlyResolution.Json.Reader

/-! ## Fields -/

/-- Reading the value into a record comes to a change of the record. -/
structure Field.Reads (field : Field ρ) (v : Value) (change : ρ → ρ) : Prop where
  skips : ∀ record, SkipsBlanks (field.read record)
  takes : ∀ {depth : Nat} {s : List Char}, Spelled depth v s →
    ∀ record, Takes (field.read record) s (.ok (change record))

/-- What stands under the key of a field: what makes the change, or nothing if the defaults
agree. -/
inductive Field.Given (field : Field ρ) (defaults : ρ) (change : ρ → ρ) : List Value → Prop where
  | omitted (agree : change defaults = defaults) : Given field defaults change []
  | once {v : Value} (reads : field.Reads v change) : Given field defaults change [v]

namespace Field

/-- A field whose value is read on its own, and then put into the record. -/
theorem reads_of_takes {name : String} {reader : Reader α} {put : ρ → α → ρ} {v : Value} {a : α}
    (skips : SkipsBlanks reader)
    (takes : ∀ {depth : Nat} {s : List Char}, Spelled depth v s → Takes reader s (.ok a)) :
    Reads ⟨name, fun record => do return put record (← reader)⟩ v (fun record => put record a)
    where
  skips := fun record => skips.bind _
  takes := fun spelled record rest follows => by
    change (reader >>= fun a => pure (put record a)) _ = _
    rw [bind_of_ok (takes spelled rest follows)]
    rfl

theorem reads_of_scalar {name expected : String} {take : Value → Except Mismatch α}
    {put : ρ → α → ρ} {v : Value} {a : α}
    (noArray : ∀ items, take (.sequence items) = .error (.invalidType .sequence expected))
    (noObject : ∀ members, take (.object members) = .error (.invalidType .map expected))
    (taken : take v = .ok a) :
    Reads ⟨name, fun record => do return put record (← scalar expected take)⟩ v
      (fun record => put record a) := by
  refine reads_of_takes (skipsBlanks_scalar expected take) fun spelled => ?_
  have takes := takes_scalar noArray noObject spelled
  rwa [taken] at takes

namespace Given

variable {field : Field ρ} {defaults : ρ} {change : ρ → ρ} {vs : List Value}

theorem agree (given : field.Given defaults change []) : change defaults = defaults := by
  cases given with
  | omitted agree => exact agree

theorem reads_of_mem (given : field.Given defaults change vs) {v : Value} (found : v ∈ vs) :
    field.Reads v change := by
  cases given with
  | omitted agree => cases found
  | once reads => rwa [List.mem_singleton.mp found]

theorem length_le_one (given : field.Given defaults change vs) : vs.length ≤ 1 := by
  cases given with
  | omitted agree => exact Nat.zero_le _
  | once reads => exact Nat.le_refl _

end Given

end Field

/-! ## Members -/

section Members

variable {fields : List (Field ρ)} {defaults : ρ} {change : String → ρ → ρ}
  {members : List (String × Value)}

def applyMember (fields : List (Field ρ)) (change : String → ρ → ρ) (state : List String × ρ)
    (key : String) : Except Problem (List String × ρ) :=
  if key ∈ fields.map Field.name then
    if key ∈ state.1 then .error (.unsuited (.duplicateField key))
    else .ok (key :: state.1, change key state.2)
  else .ok state

def knownKeys (fields : List (Field ρ)) (members : List (String × Value)) : List String :=
  (members.map Prod.fst).filter fun key => key ∈ fields.map Field.name

theorem mem_knownKeys {key : String} :
    key ∈ knownKeys fields members ↔
      key ∈ members.map Prod.fst ∧ key ∈ fields.map Field.name := by
  rw [knownKeys, List.mem_filter, decide_eq_true_iff]

theorem foldlM_applyMember {seen : List String} (record : ρ)
    (fresh : ∀ key ∈ knownKeys fields members, key ∉ seen)
    (distinct : (knownKeys fields members).Nodup) :
    members.foldlM (fun state member => applyMember fields change state member.1) (seen, record) =
      .ok ((knownKeys fields members).reverse ++ seen,
        (knownKeys fields members).foldl (fun record key => change key record) record) := by
  induction members generalizing seen record with
  | nil => rfl
  | cons member members ih =>
      obtain ⟨key, v⟩ := member
      rw [List.foldlM_cons, applyMember]
      by_cases known : key ∈ fields.map Field.name
      · have next : knownKeys fields ((key, v) :: members) = key :: knownKeys fields members :=
          List.filter_cons_of_pos (decide_eq_true known)
        rw [next] at fresh distinct ⊢
        rw [List.nodup_cons] at distinct
        rw [if_pos known, if_neg (fresh key List.mem_cons_self)]
        refine (ih _ ?_ distinct.2).trans ?_
        · intro other found again
          rcases List.mem_cons.mp again with rfl | again
          · exact distinct.1 found
          · exact fresh other (List.mem_cons_of_mem _ found) again
        · simp
      · have next : knownKeys fields ((key, v) :: members) = knownKeys fields members :=
          List.filter_cons_of_neg (by simpa using known)
        rw [next] at fresh distinct ⊢
        rw [if_neg known]
        exact ih _ fresh distinct

theorem skipsBlanks_record (expected : String) (fields : List (Field ρ)) (defaults : ρ) :
    SkipsBlanks (record expected fields defaults) :=
  skipsBlanks_peek_bind _

section Given

variable
  (given : ∀ field ∈ fields, field.Given defaults (change field.name) (valuesOf field.name members))
include given

theorem recordMember_of_spelled {depth : Nat} {key : String} {v : Value}
    {before behind s rest : List Char} (found : (key, v) ∈ members) (blank : Blanks before)
    (blank' : Blanks behind) (spelled : Spelled depth v s) (follows : Follows rest)
    (state : List String × ρ) :
    recordMember fields state key (before ++ ':' :: (behind ++ (s ++ rest))) =
      (applyMember fields change state key).map fun state => (state, rest) := by
  obtain ⟨seen, record⟩ := state
  rw [recordMember, applyMember]
  cases search : fields.find? fun field => field.name == key with
  | none =>
      have unknown : key ∉ fields.map Field.name := by
        rintro known
        obtain ⟨field, listed, rfl⟩ := List.mem_map.mp known
        exact List.find?_eq_none.mp search field listed (beq_self_eq_true _)
      rw [if_neg unknown]
      simp only
      rw [bind_of_ok (colon_of_blanks blank _),
        bind_of_ok (skipValue_of_spelled blank' spelled follows)]
      rfl
  | some field =>
      have listed := List.mem_of_find?_eq_some search
      obtain rfl : field.name = key := by simpa using List.find?_some search
      rw [if_pos (List.mem_map_of_mem listed)]
      by_cases again : field.name ∈ seen
      · simp only [List.contains_eq_mem, decide_eq_true again, if_true, if_pos again]
        rfl
      · simp only [List.contains_eq_mem, decide_eq_false again, if_neg again]
        have under : v ∈ valuesOf field.name members := mem_valuesOf.mpr found
        have reads := (given field listed).reads_of_mem under
        exact colon_of_takes blank blank' (reads.skips record) (reads.takes spelled record) follows
          fun record => (field.name :: seen, record)

/-- No known key stands twice where each field is given at most once. -/
theorem nodup_knownKeys : (knownKeys fields members).Nodup := by
  rw [List.nodup_iff_count_le_one]
  intro key
  by_cases known : key ∈ fields.map Field.name
  · have count : (knownKeys fields members).count key = (members.map Prod.fst).count key :=
      List.count_filter (decide_eq_true known)
    rw [count, ← length_valuesOf]
    obtain ⟨field, listed, rfl⟩ := List.mem_map.mp known
    exact (given field listed).length_le_one
  · have absent : key ∉ knownKeys fields members := fun found =>
      known (mem_knownKeys.mp found).2
    rw [List.count_eq_zero.mpr absent]
    exact Nat.zero_le _

/-- A field that no member gives is at its default. -/
theorem change_of_omitted {key : String} (known : key ∈ fields.map Field.name)
    (omitted : key ∉ knownKeys fields members) : change key defaults = defaults := by
  obtain ⟨field, listed, rfl⟩ := List.mem_map.mp known
  have given := given field listed
  cases found : valuesOf field.name members with
  | nil =>
      rw [found] at given
      exact given.agree
  | cons v vs =>
      have under : (field.name, v) ∈ members := mem_valuesOf.mp (found ▸ List.mem_cons_self)
      exact absurd (mem_knownKeys.mpr ⟨List.mem_map_of_mem under, known⟩) omitted

/-- Changes that commute may be made in any order, and those that change nothing added. -/
theorem foldl_knownKeys (distinct : (fields.map Field.name).Nodup)
    (commute : ∀ key key' record,
      change key (change key' record) = change key' (change key record)) :
    (knownKeys fields members).foldl (fun record key => change key record) defaults =
      (fields.map Field.name).foldl (fun record key => change key record) defaults := by
  have known : knownKeys fields members ⊆ fields.map Field.name := fun key found =>
    (mem_knownKeys.mp found).2
  obtain ⟨taken, order, sublist⟩ := (nodup_knownKeys given).subperm known
  obtain ⟨omitted, split⟩ := sublist.exists_perm_append
  have same := split.trans (order.append_right omitted)
  have idle : omitted.foldl (fun record key => change key record) defaults = defaults := by
    refine List.foldlRecOn (motive := fun record => record = defaults) _ _ rfl ?_
    rintro _ rfl key left
    have separate := (List.nodup_append.mp (same.nodup distinct)).2.2
    exact change_of_omitted given (same.symm.subset (List.mem_append_right _ left))
      fun found => separate key found key left rfl
  have swap : ∀ key ∈ fields.map Field.name, ∀ key' ∈ fields.map Field.name, ∀ record,
      change key' (change key record) = change key (change key' record) :=
    fun key _ key' _ record => commute key' key record
  rw [(same.trans List.perm_append_comm).foldl_eq' swap, List.foldl_append, idle]

/--
A record given as an object is its defaults with every change made that its members give, in
whatever order they stand and whatever stands between them.
-/
theorem takes_record {expected : String} (distinct : (fields.map Field.name).Nodup)
    (commute : ∀ key key' record, change key (change key' record) = change key' (change key record))
    {depth : Nat} {s : List Char} (spelled : Spelled depth (.object members) s) :
    Takes (record expected fields defaults) s
      (.ok ((fields.map Field.name).foldl (fun record key => change key record) defaults)) := by
  cases depth with
  | zero => cases spelled
  | succ depth =>
      obtain ⟨body, listing, rfl⟩ := spelled
      intro rest follows
      have read : foldMembers (recordMember fields) ([], defaults) (body ++ '\x7d' :: rest) =
          (members.foldlM (fun state member => applyMember fields change state member.1)
            ([], defaults)).map fun state => (state, rest) :=
        foldMembers_listing_of_mem (recordMember_of_spelled given) listing _ rest
      have unseen : ∀ key ∈ knownKeys fields members, key ∉ [] := fun _ _ => List.not_mem_nil
      rw [foldlM_applyMember defaults unseen (nodup_knownKeys given),
        foldl_knownKeys given distinct commute] at read
      simp only [List.cons_append, List.append_assoc, List.nil_append]
      rw [record, peek_bind_cons (by decide)]
      change (drop >>= fun _ => foldMembers (recordMember fields) ([], defaults) >>= _) _ = _
      rw [drop_bind_cons, bind_of_ok read]
      rfl

end Given

end Members

end EarlyResolution.Json.Reader
