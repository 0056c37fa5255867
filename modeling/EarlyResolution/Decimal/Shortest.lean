import EarlyResolution.Decimal.Binary64

/-!
# The fewest digits that read back

The numbers that round to a double form an interval around it.  The decimal
with the fewest digits in that interval lies on the coarsest grid of powers of
ten that meets the interval; of two grid points in it the one nearer to the
double is taken.
-/

namespace EarlyResolution.Decimal

/-- The decimal number `digits * 10 ^ exponent`. -/
structure Scaled where
  digits : Nat
  exponent : Int
  deriving DecidableEq, Repr

namespace Binary

/--
A quarter of the last binary place of `x`, as a multiple of `10 ^ e`, is
`quarter x e / grid x e`.
-/
def quarter (x : Binary) (e : Int) : Nat :=
  Nat.pow 2 (x.exponent - 2).toNat * Nat.pow 10 (-e).toNat

def grid (x : Binary) (e : Int) : Nat :=
  Nat.pow 2 (2 - x.exponent).toNat * Nat.pow 10 e.toNat

/-- The greatest multiple of `10 ^ e` up to `|x|`, counted in `10 ^ e`. -/
def floorOn (x : Binary) (e : Int) : Nat :=
  4 * x.significand * x.quarter e / x.grid e

/--
`d * 10 ^ e` rounds to `|x|`: it lies at most two quarters of a place above, and
two, or one where the gap is narrow, below.  The ends of this interval round to
`|x|` exactly when its significand is even.
-/
def isReadBack (x : Binary) (e : Int) (d : Nat) : Bool :=
  let low := (4 * x.significand - if x.narrowBelow then 1 else 2) * x.quarter e
  let high := (4 * x.significand + 2) * x.quarter e
  if x.significand % 2 = 0 then low ≤ d * x.grid e && d * x.grid e ≤ high
  else low < d * x.grid e && d * x.grid e < high

/-- The point nearest to `|x|` among the multiples of `10 ^ e` that round to it. -/
def pointOn? (x : Binary) (e : Int) : Option Nat :=
  let below := x.floorOn e
  let above := below + 1
  match x.isReadBack e below, x.isReadBack e above with
  | true, true =>
      let twice := 2 * (4 * x.significand * x.quarter e)
      let middle := (below + above) * x.grid e
      some <|
        if twice < middle then below
        else if middle < twice then above
        else if below % 2 = 0 then below else above
  | true, false => some below
  | false, true => some above
  | false, false => none

/-- Goes to finer grids until one meets the interval, for a bounded number of steps. -/
def coarsest (x : Binary) : Nat → Int → Scaled
  | 0, e => ⟨x.floorOn e, e⟩
  | n + 1, e =>
      match x.pointOn? e with
      | some digits => ⟨digits, e⟩
      | none => x.coarsest n (e - 1)

/--
The shortest decimal that reads back as a positive `x`.  The search starts above
the magnitude of `x`, estimated by `log₁₀ 2 ≈ 0.30103`; seventeen digits are
always enough.
-/
def shortest (x : Binary) : Scaled :=
  let magnitude := (x.significand.log2 + x.exponent) * 30103 / 100000
  x.coarsest 22 (magnitude + 2)

end Binary

structure Layout where
  /-- The least power of ten of the leading digit that is written positionally. -/
  leastPositional : Int
  /-- The greatest power of ten of the leading digit that is written positionally. -/
  greatestPositional : Int
  deriving DecidableEq, Repr

def signed (n : Int) : String :=
  (if n < 0 then "-" else "+") ++ toString n.natAbs

/-- Lays out a positive decimal.  Whole numbers written positionally keep one zero place. -/
def Layout.place (layout : Layout) (x : Scaled) : String :=
  let digits := Nat.toDigits 10 x.digits
  let point := x.exponent + digits.length
  let leading := point - 1
  if layout.leastPositional ≤ leading ∧ leading ≤ layout.greatestPositional then
    String.ofList <|
      if 0 ≤ x.exponent then digits ++ List.replicate x.exponent.toNat '0' ++ ['.', '0']
      else if 0 < point then digits.take point.toNat ++ '.' :: digits.drop point.toNat
      else ['0', '.'] ++ List.replicate (-point).toNat '0' ++ digits
  else
    String.ofList (digits.take 1 ++ (if digits.length = 1 then [] else '.' :: digits.drop 1)) ++
      "e" ++ signed leading

def Layout.write (layout : Layout) (x : Float) : String :=
  let parts := Binary.ofFloat x
  (if parts.negative then "-" else "") ++
    if parts.significand = 0 then "0.0" else layout.place parts.shortest

end EarlyResolution.Decimal
