import EarlyResolution.Decimal.Binary64

/-!
# Decimals with a set number of places

The exact value is rounded once, half to even, and written without an exponent
however large it is.
-/

namespace EarlyResolution.Decimal

/-- The number of units of the last place nearest to `|x|`. -/
def Binary.toPlaces (x : Binary) (places : Nat) : Nat :=
  roundHalfEven (x.significand * Nat.pow 2 x.exponent.toNat * Nat.pow 10 places)
    (Nat.pow 2 (-x.exponent).toNat)

/-- A natural written with at least the given number of digits. -/
def padded (width n : Nat) : List Char :=
  let digits := Nat.toDigits 10 n
  List.replicate (width - digits.length) '0' ++ digits

def placePoint (places units : Nat) : String :=
  let digits := padded (places + 1) units
  let whole := digits.length - places
  String.ofList (digits.take whole ++ '.' :: digits.drop whole)

def fixed (places : Nat) (x : Float) : String :=
  let parts := Binary.ofFloat x
  (if parts.negative then "-" else "") ++ placePoint places (parts.toPlaces places)

end EarlyResolution.Decimal
