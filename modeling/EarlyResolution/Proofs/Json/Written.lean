import EarlyResolution.Json.Writer
import EarlyResolution.Proofs.Json.Grammar

/-!
# Written values are spelled by the grammar

Whatever the writer makes of a value is a spelling of that value, as long as the value is
not nested too deep and its numbers are integers within their range.  What stands between
the tokens may be any blanks.
-/

namespace EarlyResolution.Json

/-! ## Numerals -/

theorem natOfDigits_toDigits (n : Nat) :
    Numeral.natOfDigits ((Nat.toDigits 10 n).map Reader.digitValue) = n := by
  have step : (fun sum c => sum * 10 + Reader.digitValue c) =
      fun sum c => 10 * sum + (c.toNat - '0'.toNat) := by
    funext sum c
    rw [Reader.digitValue, Nat.mul_comm]
  rw [Numeral.natOfDigits, List.foldl_map, step, ← Nat.ofDigitChars_eq_foldl,
    Nat.ofDigitChars_ten_toDigits]

/-- The digits of a number start with a zero only if that is the number. -/
theorem toDigits_of_head?_zero {n : Nat} (zero : (Nat.toDigits 10 n).head? = some '0') :
    Nat.toDigits 10 n = ['0'] := by
  induction n using Nat.strongRecOn with
  | ind n ih =>
      rw [Nat.toDigits_eq_if (by decide)] at zero ⊢
      by_cases small : n < 10
      · rw [if_pos small, List.head?_cons, Option.some.injEq] at zero
        rw [if_pos small, zero]
      · obtain ⟨c, front, split⟩ := List.exists_cons_of_ne_nil (Nat.toDigits_ne_nil (b := 10))
        rw [if_neg small, split] at zero
        have alone := ih (n / 10) (by omega) (by rw [split]; exact zero)
        have value := natOfDigits_toDigits (n / 10)
        rw [alone] at value
        have : 0 = n / 10 := value
        omega

theorem spelledWhole_toDigits (n : Nat) :
    SpelledWhole ((Nat.toDigits 10 n).map Reader.digitValue) (Nat.toDigits 10 n) :=
  ⟨⟨Nat.toDigits_ne_nil, fun _ digit => Nat.isDigit_of_mem_toDigits (by decide) (by decide) digit,
    rfl⟩, toDigits_of_head?_zero⟩

/-- An integer that a numeral without point and exponent can write. -/
def Number.Fits : Number → Prop
  | .integer n => -(Nat.pow 2 63 : Nat) ≤ n ∧ n < UInt64.size
  | .float _ => False

theorem spelledNumeral_toDigits (negative : Bool) (n : Nat) :
    SpelledNumeral ⟨negative, (Nat.toDigits 10 n).map Reader.digitValue, none, none⟩
      ((if negative then ['-'] else []) ++ Nat.toDigits 10 n) := by
  have parts := SpelledNumeral.parts (rfl : SpelledSign negative _) (spelledWhole_toDigits n)
    .absent .absent
  rwa [List.append_nil, List.append_nil] at parts

theorem toInt?_toDigits (negative : Bool) (n : Nat) :
    Numeral.toInt? ⟨negative, (Nat.toDigits 10 n).map Reader.digitValue, none, none⟩ =
      if negative then if 0 < n ∧ n ≤ Nat.pow 2 63 then some (-(n : Int)) else none
      else if n < UInt64.size then some (n : Int) else none := by
  rw [Numeral.toInt?, natOfDigits_toDigits]
  rfl

theorem spelledNumber_write {n : Number} (fits : n.Fits) :
    ∃ x, SpelledNumeral x n.write ∧ x.toNumber = .ok n := by
  cases n with
  | float x => cases fits
  | integer n =>
      cases n with
      | ofNat n =>
          have within : n < UInt64.size := Int.ofNat_lt.mp fits.2
          refine ⟨_, spelledNumeral_toDigits false n, ?_⟩
          rw [Numeral.toNumber, toInt?_toDigits, if_neg Bool.false_ne_true, if_pos within]
          rfl
      | negSucc n =>
          have within : 0 < n + 1 ∧ n + 1 ≤ Nat.pow 2 63 := by
            have least := fits.1
            omega
          refine ⟨_, spelledNumeral_toDigits true (n + 1), ?_⟩
          rw [Numeral.toNumber, toInt?_toDigits, if_pos rfl, if_pos within]
          rfl

/-! ## String literals -/

theorem hexDigit?_digitChar {n : Nat} (small : n < 16) :
    Reader.hexDigit? (Nat.digitChar n) = some n := by
  have all : ∀ n < 16, Reader.hexDigit? (Nat.digitChar n) = some n := by decide
  exact all n small

/-- A control character without a letter of its own is escaped by its code unit. -/
theorem spelledChar_control {c : Char} (control : c < ' ') :
    SpelledChar c
      ['\\', 'u', '0', '0', Nat.digitChar (c.toNat / 16), Nat.digitChar (c.toNat % 16)] := by
  have small : c.toNat < 32 := control
  have digits : Reader.codeUnit? '0' '0' (Nat.digitChar (c.toNat / 16))
      (Nat.digitChar (c.toNat % 16)) = some c.toNat := by
    have zero : Reader.hexDigit? '0' = some 0 := by decide
    rw [Reader.codeUnit?, zero, hexDigit?_digitChar (by omega), hexDigit?_digitChar (by omega)]
    change some (((0 * 16 + 0) * 16 + c.toNat / 16) * 16 + c.toNat % 16) = _
    congr 1
    omega
  have leading : Reader.isLeading c.toNat = false := by
    simp only [Reader.isLeading, Bool.and_eq_false_iff, decide_eq_false_iff_not]
    omega
  have trailing : Reader.isTrailing c.toNat = false := by
    simp only [Reader.isTrailing, Bool.and_eq_false_iff, decide_eq_false_iff_not]
    omega
  have unit := SpelledChar.unit digits leading trailing
  rwa [Char.ofNat_toNat] at unit

theorem spelledChar_writeChar (c : Char) : SpelledChar c (writeChar c) := by
  rw [writeChar.eq_def]
  split
  case h_8 quote slash _ _ _ _ _ =>
      split
      case isTrue control => exact spelledChar_control control
      case isFalse printable => exact .plain quote slash printable
  all_goals exact .short rfl

theorem spelledText_writeText (text : String) : SpelledText text (writeText text) := by
  refine ⟨text.toList.flatMap writeChar, ?_, rfl⟩
  induction text.toList with
  | nil => exact .nil
  | cons c cs ih => exact .cons (spelledChar_writeChar c) ih

/-! ## Values -/

structure Spacing.Blank (spacing : Spacing) : Prop where
  newline : ∀ depth, Blanks (spacing.newline depth)
  colon : ∃ behind, Blanks behind ∧ spacing.colon = ':' :: behind

theorem Spacing.blank_compact : Spacing.compact.Blank where
  newline := fun _ => .nil
  colon := ⟨[], .nil, rfl⟩

theorem Spacing.blank_indented : Spacing.indented.Blank where
  newline := fun depth c found => by
    rcases List.mem_cons.mp found with rfl | indent
    · rfl
    · rw [List.eq_of_mem_replicate indent]
      rfl
  colon := ⟨[' '], fun c found => by rw [List.mem_singleton.mp found]; rfl, rfl⟩

/-- A value nested no deeper than `depth` whose numbers are integers within their range. -/
def Value.Fits : Nat → Value → Prop
  | depth + 1, .sequence items => ∀ v ∈ items, Fits depth v
  | depth + 1, .object members => ∀ member ∈ members, Fits depth member.2
  | _, .number n => n.Fits
  | 0, .sequence _ | 0, .object _ => False
  | _, .null | _, .boolean _ | _, .text _ => True

theorem Value.fits_ofWord (depth : Nat) (word : UInt64) : Fits depth (.ofWord word) := by
  have small : word.toNat < UInt64.size := word.toNat_lt_size
  have within : Number.Fits (.integer word.toNat) := ⟨by omega, Int.ofNat_lt.mpr small⟩
  cases depth <;> exact within

section Lists

variable {α : Type} {write : Bool → List α → List Char} {opening closing : List Char}
  {text : α → List Char} {spelled : α → List Char → Prop} {items : List α}

/-- What a writer of lists has to do for what it writes to be a list. -/
structure WritesLists (write : Bool → List α → List Char) (opening closing : List Char)
    (text : α → List Char) : Prop where
  none : write true [] = []
  last : write false [] = closing
  first : ∀ a items, write true (a :: items) = opening ++ (text a ++ write false items)
  later : ∀ a items,
    write false (a :: items) = [] ++ ',' :: (opening ++ (text a ++ write false items))
  opening : Blanks opening
  closing : Blanks closing

theorem WritesLists.listed (writes : WritesLists write opening closing text)
    (each : ∀ a ∈ items, spelled a (text a)) : Listed spelled items (write false items) := by
  induction items with
  | nil =>
      rw [writes.last]
      exact .nil writes.closing
  | cons a items ih =>
      rw [writes.later]
      exact .cons Blanks.nil writes.opening (each a List.mem_cons_self)
        (ih fun a found => each a (List.mem_cons_of_mem _ found))

theorem WritesLists.listing (writes : WritesLists write opening closing text)
    (each : ∀ a ∈ items, spelled a (text a)) : Listing spelled items (write true items) := by
  cases items with
  | nil =>
      rw [writes.none]
      exact .nil Blanks.nil
  | cons a items =>
      rw [writes.first]
      exact .cons writes.opening (each a List.mem_cons_self)
        (writes.listed fun a found => each a (List.mem_cons_of_mem _ found))

end Lists

namespace Value

variable {spacing : Spacing}

theorem writesLists_writeItems (blank : spacing.Blank) (depth : Nat) :
    WritesLists (writeItems spacing depth) (spacing.newline (depth + 1)) (spacing.newline depth)
      (writeAt spacing (depth + 1)) where
  none := by simp [writeItems]
  last := by simp [writeItems]
  first := fun v items => by simp [writeItems]
  later := fun v items => by simp [writeItems]
  opening := blank.newline _
  closing := blank.newline _

theorem writesLists_writeMembers (blank : spacing.Blank) (depth : Nat) :
    WritesLists (writeMembers spacing depth) (spacing.newline (depth + 1)) (spacing.newline depth)
      (fun member => writeText member.1 ++ (spacing.colon ++ member.2.writeAt spacing (depth + 1)))
    where
  none := by simp [writeMembers]
  last := by simp [writeMembers]
  first := fun member members => by simp [writeMembers]
  later := fun member members => by simp [writeMembers]
  opening := blank.newline _
  closing := blank.newline _

theorem spelledScalar_writeAt {v : Value} (fits : Fits 0 v) (outer : Nat) :
    SpelledScalar v (v.writeAt spacing outer) := by
  cases v with
  | null =>
      rw [writeAt]
      exact .null
  | boolean b =>
      cases b with
      | true =>
          rw [writeAt]
          exact .true
      | false =>
          rw [writeAt]
          exact .false
  | number n =>
      obtain ⟨x, numeral, within⟩ := spelledNumber_write fits
      rw [writeAt]
      exact .number numeral within
  | text s =>
      rw [writeAt]
      exact .text (spelledText_writeText s)
  | sequence items => cases fits
  | object members => cases fits

/-- Whatever is written is a spelling of the value. -/
theorem spelled_writeAt (blank : spacing.Blank) {depth : Nat} {v : Value} (fits : Fits depth v)
    (outer : Nat) : Spelled depth v (v.writeAt spacing outer) := by
  -- By induction on the depth that is allowed, not on the value: it bounds both kinds of nesting.
  induction depth generalizing v outer with
  | zero => exact spelled_of_scalar (spelledScalar_writeAt fits outer) 0
  | succ depth ih =>
      cases v with
      | sequence items =>
          rw [writeAt]
          exact ⟨_, (writesLists_writeItems blank outer).listing fun v found => ih (fits v found) _,
            rfl⟩
      | object members =>
          obtain ⟨behind, blank', colon⟩ := blank.colon
          rw [writeAt]
          refine ⟨_, (writesLists_writeMembers blank outer).listing fun member found => ?_, rfl⟩
          rw [colon]
          exact .pair (spelledText_writeText member.1) .nil blank' (ih (fits member found) _)
      | null | boolean b | number n | text s =>
          refine spelled_of_scalar (spelledScalar_writeAt ?_ outer) _
          exact fits

/-- What is written is a whole text. -/
theorem document_write (blank : spacing.Blank) {v : Value} (fits : Fits maxNesting v) :
    Document v (v.write spacing) :=
  ⟨[], _, [], .nil, .nil, spelled_writeAt blank fits 0, by
    rw [write, String.toList_ofList, List.append_nil, List.nil_append]⟩

end Value

end EarlyResolution.Json
