import Mathlib.Algebra.Group.Nat.Even
import Mathlib.Algebra.Order.Floor.Semifield
import Mathlib.Data.Rat.Floor
import Mathlib.Tactic.FieldSimp
import Mathlib.Tactic.Linarith
import EarlyResolution.Decimal.Fixed

/-!
# Places are rounded to nearest

A double written with a set number of places shows the multiple of the last place that is
nearest to its exact value, and of two equally near the even one.  The value is read off the
bits of the double as a rational number; what is written are the digits of the count of last
places, divided into the whole part and the places.
-/

namespace EarlyResolution.Decimal

/-- The magnitude of a finite double, normal or subnormal, by the fields of its bits. -/
def magnitude (x : Float) : ℚ :=
  let fraction := x.toBits.toNat % Nat.pow 2 52
  let scale := x.toBits.toNat / Nat.pow 2 52 % Nat.pow 2 11
  if scale = 0 then 2 ^ (-1022 : ℤ) * (fraction / 2 ^ 52)
  else 2 ^ ((scale : ℤ) - 1023) * (1 + fraction / 2 ^ 52)

def nearestEven (q : ℚ) : ℕ :=
  let low := ⌊q⌋₊
  if q - low < 1 / 2 ∨ (q - low = 1 / 2 ∧ Even low) then low else low + 1

/-- The last digits of a natural, so many of them. -/
def lastDigits : ℕ → ℕ → List Char
  | 0, _ => []
  | places + 1, n => lastDigits places (n / 10) ++ [Nat.digitChar (n % 10)]

def rounded (places : ℕ) (x : Float) : String :=
  let units := nearestEven (magnitude x * 10 ^ places)
  (if x.toBits.toNat / Nat.pow 2 63 = 1 then "-" else "") ++
    (toString (units / Nat.pow 10 places) ++ "." ++ String.ofList (lastDigits places units))

/-! ## The nearest natural -/

theorem roundHalfEven_eq_nearestEven (num : ℕ) {den : ℕ} (positive : 0 < den) :
    roundHalfEven num den = nearestEven (num / den) := by
  have whole : (0 : ℚ) < den := Nat.cast_pos.mpr positive
  have low : ⌊(num / den : ℚ)⌋₊ = num / den := Nat.floor_div_eq_div num den
  have rest : (num : ℚ) / den - (num / den : ℕ) = (num % den : ℕ) / den := by
    have sum : (den : ℚ) * (num / den : ℕ) + (num % den : ℕ) = num := by
      exact_mod_cast Nat.div_add_mod num den
    field_simp
    linarith
  have below : ((num % den : ℕ) / den : ℚ) < 1 / 2 ↔ 2 * (num % den) < den := by
    rw [div_lt_div_iff₀ whole two_pos, one_mul, mul_comm]
    exact_mod_cast Iff.rfl
  have half : ((num % den : ℕ) / den : ℚ) = 1 / 2 ↔ 2 * (num % den) = den := by
    rw [div_eq_div_iff whole.ne' two_ne_zero, one_mul, mul_comm]
    exact_mod_cast Iff.rfl
  simp only [roundHalfEven, nearestEven, low, rest, below, half, Nat.even_iff]

theorem toPlaces_eq_nearestEven (x : Binary) (places : ℕ) :
    x.toPlaces places = nearestEven (x.significand * 2 ^ x.exponent * 10 ^ places) := by
  have scaled : (2 : ℚ) ^ x.exponent =
      (Nat.pow 2 x.exponent.toNat : ℕ) / (Nat.pow 2 (-x.exponent).toNat : ℕ) := by
    obtain ⟨n, power | power⟩ := x.exponent.eq_nat_or_neg <;> simp [power]
  have positive : 0 < Nat.pow 2 (-x.exponent).toNat := Nat.pow_pos two_pos
  rw [Binary.toPlaces, roundHalfEven_eq_nearestEven _ positive, scaled]
  congr 1
  push_cast
  simp
  ring

/-- The value is the significand counted in its last binary place. -/
theorem magnitude_eq (x : Float) :
    magnitude x = (Binary.ofFloat x).significand * 2 ^ (Binary.ofFloat x).exponent := by
  have unit (e : ℤ) (m : ℚ) : 2 ^ (e + 52) * (m / 2 ^ 52) = m * 2 ^ e := by
    rw [zpow_add₀ two_ne_zero]
    norm_cast
    field_simp
  simp only [magnitude, Binary.ofFloat]
  split
  · exact unit (-1074) _
  · have normal (m : ℚ) : 1 + m / 2 ^ 52 = (2 ^ 52 + m) / 2 ^ 52 := by field_simp
    rw [normal, Nat.cast_add, ← unit, sub_add]
    norm_cast

/-! ## Digits -/

theorem padded_succ (width n : ℕ) :
    padded (width + 2) n = padded (width + 1) (n / 10) ++ [Nat.digitChar (n % 10)] := by
  simp only [padded]
  rw [Nat.toDigits_eq_if (n := n) (by decide)]
  by_cases small : n < 10
  · rw [if_pos small, Nat.div_eq_of_lt small, Nat.mod_eq_of_lt small]
    simp [Nat.toDigits_zero, List.replicate_succ']
  · rw [if_neg small]
    simp [List.append_assoc]

theorem padded_eq (places n : ℕ) :
    padded (places + 1) n = Nat.toDigits 10 (n / Nat.pow 10 places) ++ lastDigits places n := by
  induction places generalizing n with
  | zero =>
      have enough : 1 - (Nat.toDigits 10 n).length = 0 := by
        have := Nat.length_toDigits_pos (b := 10) (n := n)
        omega
      simp [padded, lastDigits, enough]
  | succ places ih =>
      rw [padded_succ, ih, lastDigits, Nat.div_div_eq_div_mul, List.append_assoc]
      simp [Nat.pow_succ, Nat.mul_comm]

theorem length_lastDigits (places n : ℕ) : (lastDigits places n).length = places := by
  induction places generalizing n with
  | zero => rfl
  | succ places ih => simp [lastDigits, ih]

theorem placePoint_eq (places units : ℕ) :
    placePoint places units =
      toString (units / Nat.pow 10 places) ++ "." ++
        String.ofList (lastDigits places units) := by
  have whole (front : List Char) :
      (front ++ lastDigits places units).length - places = front.length := by
    rw [List.length_append, length_lastDigits, Nat.add_sub_cancel]
  simp only [placePoint, padded_eq, whole, List.take_left, List.drop_left]
  rw [List.append_cons, String.ofList_append, String.ofList_append,
    Nat.toString_eq_ofList_toDigits]

theorem fixed_eq_rounded (places : ℕ) (x : Float) : fixed places x = rounded places x := by
  have sign : (Binary.ofFloat x).negative = (x.toBits.toNat / Nat.pow 2 63 == 1) := by
    simp only [Binary.ofFloat]
    split <;> rfl
  rw [fixed, rounded, magnitude_eq, ← toPlaces_eq_nearestEven, placePoint_eq]
  simp only [sign, beq_iff_eq]

end EarlyResolution.Decimal
