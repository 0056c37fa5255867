/-!
# Binary floating-point numbers, taken apart

A finite double is `± m * 2 ^ q` with naturals and integers only.  Everything
that writes a double works on these parts, in exact arithmetic.
-/

namespace EarlyResolution.Decimal

/-- A finite binary number `± significand * 2 ^ exponent`. -/
structure Binary where
  negative : Bool
  significand : Nat
  exponent : Int
  /-- The gap to the next number below is half as wide as the gap above. -/
  narrowBelow : Bool := false
  deriving DecidableEq, Repr

def Binary.ofFloat (x : Float) : Binary :=
  let bits := x.toBits.toNat
  let fraction := bits % Nat.pow 2 52
  let scale : Nat := bits / Nat.pow 2 52 % Nat.pow 2 11
  let negative := bits / Nat.pow 2 63 == 1
  if scale = 0 then
    { negative, significand := fraction, exponent := -1074 }
  else
    { negative
      significand := Nat.pow 2 52 + fraction
      exponent := (scale : Int) - 1075
      narrowBelow := fraction == 0 && 1 < scale }

/-- A quotient of naturals, rounded to the nearest natural; a tie goes to the even one. -/
def roundHalfEven (num den : Nat) : Nat :=
  let low := num / den
  let rest := 2 * (num % den)
  if rest < den ∨ (rest = den ∧ low % 2 = 0) then low else low + 1

end EarlyResolution.Decimal
