import EarlyResolution.Json.Value

/-!
# What values stand for

A value either stands for one datum of a type or for none.  What the members of an object
give is taken key by key, from the values under each key.
-/

namespace EarlyResolution

open Json (Mismatch Value)

/-- An outcome that depends on another is a success only if both are. -/
theorem bind_eq_ok_iff {x : Except ε α} {f : α → Except ε β} {b : β} :
    (x >>= f) = .ok b ↔ ∃ a, x = .ok a ∧ f a = .ok b := by
  cases x with
  | error problem => simp [bind, Except.bind]
  | ok a => simp [bind, Except.bind]

theorem map_eq_ok_iff {x : Except ε α} {f : α → β} {b : β} :
    x.map f = .ok b ↔ ∃ a, x = .ok a ∧ f a = b := by
  cases x <;> simp [Except.map]

theorem bind_pure_eq_map (x : Except ε α) (f : α → β) : (do return f (← x)) = x.map f := by
  cases x <;> rfl

/-- Where names tell things apart, a search by name finds what has the name. -/
theorem find?_name_eq_some_iff {items : List α} {name : α → String}
    (injective : ∀ {a b}, name a = name b → a = b) {a : α} (listed : a ∈ items) {text : String} :
    items.find? (fun b => name b == text) = some a ↔ text = name a := by
  constructor
  · intro found
    have same := List.find?_some found
    rw [beq_iff_eq] at same
    exact same.symm
  · rintro rfl
    cases found : items.find? fun b => name b == name a with
    | none => exact absurd (beq_self_eq_true _) (List.find?_eq_none.mp found a listed)
    | some b =>
        have same := List.find?_some found
        rw [beq_iff_eq] at same
        rw [injective same]

namespace Json.Value

/-- A natural stands for itself, as long as it is below the bound. -/
theorem toNatBelow_eq_ok_iff {bound : Nat} {expected : String} {v : Value} {n : Nat} :
    v.toNatBelow bound expected = .ok n ↔ v = ofNat n ∧ n < bound := by
  constructor
  · intro taken
    cases v with
    | number number =>
        cases number with
        | integer m =>
            rw [toNatBelow] at taken
            split at taken
            case isTrue within =>
                obtain rfl := Except.ok.inj taken
                obtain ⟨m, rfl⟩ := Int.eq_ofNat_of_zero_le within.1
                exact ⟨rfl, Int.ofNat_lt.mp within.2⟩
            case isFalse => cases taken
        | float x => cases taken
    | null | boolean b | text s | sequence items | object members => cases taken
  · rintro ⟨rfl, small⟩
    have within : (0 : Int) ≤ n ∧ (n : Int) < bound :=
      ⟨Int.natCast_nonneg _, Int.ofNat_lt.mpr small⟩
    rw [ofNat, toNatBelow, if_pos within, Int.toNat_natCast]

theorem toWord_eq_ok_iff {expected : String} {v : Value} {word : UInt64} :
    v.toWord expected = .ok word ↔ v = ofWord word := by
  simp only [toWord, map_eq_ok_iff, toNatBelow_eq_ok_iff]
  constructor
  · rintro ⟨n, ⟨rfl, small⟩, rfl⟩
    rw [ofWord, Nat.toUInt64, UInt64.toNat_ofNat_of_lt' small]
  · rintro rfl
    exact ⟨_, ⟨rfl, word.toNat_lt_size⟩, word.ofNat_toNat⟩

theorem toWord32_eq_ok_iff {expected : String} {v : Value} {word : UInt32} :
    v.toWord32 expected = .ok word ↔ v = ofNat word.toNat := by
  simp only [toWord32, map_eq_ok_iff, toNatBelow_eq_ok_iff]
  constructor
  · rintro ⟨n, ⟨rfl, small⟩, rfl⟩
    rw [Nat.toUInt32, UInt32.toNat_ofNat_of_lt' small]
  · rintro rfl
    exact ⟨_, ⟨rfl, word.toNat_lt_size⟩, word.ofNat_toNat⟩

theorem toBool_eq_ok_iff {v : Value} {b : Bool} : v.toBool = .ok b ↔ v = .boolean b := by
  cases v <;> simp [toBool]

/-- Items that each stand for one datum. -/
theorem mapM_eq_ok_iff {item : Value → Except Mismatch α} {write : α → Value}
    (takes : ∀ {v a}, item v = .ok a ↔ v = write a) {items : List Value} {as : List α} :
    items.mapM item = .ok as ↔ items = as.map write := by
  induction items generalizing as with
  | nil => cases as <;> simp [pure, Except.pure]
  | cons v items ih =>
      rw [List.mapM_cons, bind_eq_ok_iff]
      constructor
      · rintro ⟨a, first, others⟩
        obtain ⟨as', taken, done⟩ := bind_eq_ok_iff.mp others
        obtain rfl := Except.ok.inj done
        rw [takes.mp first, ih.mp taken, List.map_cons]
      · intro same
        cases as with
        | nil => cases same
        | cons a as =>
            rw [List.map_cons, List.cons.injEq] at same
            obtain ⟨rfl, same⟩ := same
            exact ⟨a, takes.mpr rfl, bind_eq_ok_iff.mpr ⟨as, ih.mpr same, rfl⟩⟩

theorem toList_eq_ok_iff {item : Value → Except Mismatch α} {write : α → Value}
    (takes : ∀ {v a}, item v = .ok a ↔ v = write a) {v : Value} {as : List α} :
    v.toList item = .ok as ↔ v = .sequence (as.map write) := by
  cases v with
  | sequence items =>
      rw [toList, mapM_eq_ok_iff takes, sequence.injEq]
  | null | boolean b | number n | text s | object members => simp [toList]

end Json.Value

/-! ## The values under a key -/

def valuesOf (key : String) (members : List (String × Value)) : List Value :=
  (members.filter fun member => member.1 == key).map Prod.snd

section ValuesOf

variable {key : String} {members other before extra after : List (String × Value)}

theorem valuesOf_cons_self (v : Value) :
    valuesOf key ((key, v) :: members) = v :: valuesOf key members := by
  simp [valuesOf]

theorem valuesOf_cons_of_ne {key' : String} (differs : key' ≠ key) (v : Value) :
    valuesOf key ((key', v) :: members) = valuesOf key members := by
  simp [valuesOf, differs]

theorem valuesOf_append (before after : List (String × Value)) :
    valuesOf key (before ++ after) = valuesOf key before ++ valuesOf key after := by
  simp [valuesOf]

theorem valuesOf_perm (same : members.Perm other) :
    (valuesOf key members).Perm (valuesOf key other) :=
  (same.filter _).map _

theorem valuesOf_eq_nil (foreign : ∀ member ∈ extra, member.1 ≠ key) : valuesOf key extra = [] := by
  rw [valuesOf, List.map_eq_nil_iff, List.filter_eq_nil_iff]
  intro member found
  simpa using foreign member found

theorem valuesOf_insert (foreign : ∀ member ∈ extra, member.1 ≠ key) :
    valuesOf key (before ++ (extra ++ after)) = valuesOf key (before ++ after) := by
  rw [valuesOf_append, valuesOf_append, valuesOf_append, valuesOf_eq_nil foreign, List.nil_append]

theorem mem_valuesOf {v : Value} : v ∈ valuesOf key members ↔ (key, v) ∈ members := by
  simp [valuesOf]

theorem length_valuesOf (key : String) (members : List (String × Value)) :
    (valuesOf key members).length = (members.map Prod.fst).count key := by
  rw [valuesOf, List.length_map, List.count, List.countP_map, List.countP_eq_length_filter]
  rfl

end ValuesOf

end EarlyResolution
