import EarlyResolution.Json.Reader
import EarlyResolution.Json.Value

/-!
# Numerals

A numeral is taken from the text first and evaluated after.  An integer literal
of 64 bits stays an integer, except for `-0`, which is the double `-0.0`.

Any other numeral is a double.  Its significand is gathered digit by digit while
it fits a word; further digits are dropped, those in front of the point at the
price of a power of ten.  The significand is then scaled by one power of ten.
-/

namespace EarlyResolution.Json

/-- A numeral, taken apart but not evaluated. -/
structure Numeral where
  negative : Bool
  whole : List Nat
  fraction : Option (List Nat)
  /-- The sign and the digits of the exponent, if there is one. -/
  exponent : Option (Bool × List Nat)
  deriving DecidableEq, Repr

namespace Reader

def digitValue (c : Char) : Nat :=
  c.toNat - '0'.toNat

def digits : Reader (List Nat) :=
  fun s => .ok ((s.takeWhile Char.isDigit).map digitValue, s.dropWhile Char.isDigit)

/-- Takes digits, of which there must be one; `atEnd` is the problem when the text ends instead. -/
def someDigits (atEnd : Problem) : Reader (List Nat) :=
  fun
  | [] => .error atEnd
  | c :: rest => if c.isDigit then digits (c :: rest) else .error (.malformed .invalidNumber)

/-- The digits in front of the point: a zero stands there alone. -/
def wholePart (atEnd : Problem) : Reader (List Nat) :=
  fun
  | '0' :: c :: rest =>
      if c.isDigit then .error (.malformed .invalidNumber) else .ok ([0], c :: rest)
  | s => someDigits atEnd s

def minus : Reader Bool :=
  fun
  | '-' :: rest => .ok (true, rest)
  | s => .ok (false, s)

def fractionPart (atEnd : Problem) : Reader (Option (List Nat)) :=
  fun
  | '.' :: rest => (some <$> someDigits atEnd) rest
  | s => .ok (none, s)

def exponentSign : Reader Bool :=
  fun
  | '-' :: rest => .ok (true, rest)
  | '+' :: rest => .ok (false, rest)
  | s => .ok (false, s)

def exponentPart (atEnd : Problem) : Reader (Option (Bool × List Nat)) :=
  fun
  | c :: rest =>
      if c = 'e' ∨ c = 'E' then
        (do
          let negative ← exponentSign
          let digits ← someDigits atEnd
          return some (negative, digits)) rest
      else .ok (none, c :: rest)
  | [] => .ok (none, [])

def numeral (atEnd : Problem) : Reader Numeral := do
  let negative ← minus
  let whole ← wholePart atEnd
  let fraction ← fractionPart atEnd
  let exponent ← exponentPart atEnd
  return { negative, whole, fraction, exponent }

end Reader

namespace Numeral

/--
Appends digits to a significand while it fits a word, and says how many digits
are left over.
-/
def gather (significand : Nat) : List Nat → Nat × Nat
  | [] => (significand, 0)
  | d :: ds =>
      if significand * 10 + d < UInt64.size then gather (significand * 10 + d) ds
      else (significand, ds.length + 1)

def natOfDigits (ds : List Nat) : Nat :=
  ds.foldl (fun n d => n * 10 + d) 0

/-- The double nearest to a power of ten, which is finite up to `10 ^ 308`. -/
def powerOfTen (n : Nat) : Float :=
  Float.ofScientific 1 false n

/-- Divides by `10 ^ n`, in steps that are themselves finite. -/
def divideByPower (x : Float) (n : Nat) : Float :=
  if n ≤ 308 then x / powerOfTen n
  else if x == 0 then x
  else divideByPower (x / powerOfTen 308) (n - 308)
termination_by n

/-- `significand * 10 ^ exponent` as a double; infinity is out of range. -/
def scale (significand : Nat) (exponent : Int) : Except Problem Float :=
  let x := significand.toUInt64.toFloat
  if exponent < 0 then .ok (divideByPower x exponent.natAbs)
  else if exponent ≤ 308 then
    let scaled := x * powerOfTen exponent.natAbs
    if scaled.isInf then .error (.malformed .numberOutOfRange) else .ok scaled
  else if significand = 0 then .ok x
  else .error (.malformed .numberOutOfRange)

/-- The greatest exponent that is evaluated at all. -/
def greatestExponent : Nat := Nat.pow 2 31 - 1

def magnitude (x : Numeral) : Except Problem Float :=
  let (significand, droppedWhole) := gather 0 x.whole
  let fraction := x.fraction.getD []
  let (significand, droppedFraction) := gather significand fraction
  let shift : Int := droppedWhole - (fraction.length - droppedFraction : Nat)
  match x.exponent with
  | none => scale significand shift
  | some (negative, ds) =>
      let exponent := natOfDigits ds
      if greatestExponent < exponent then
        if significand ≠ 0 ∧ negative = false then .error (.malformed .numberOutOfRange)
        else .ok 0
      else scale significand (if negative then shift - exponent else shift + exponent)

def toFloat (x : Numeral) : Except Problem Number :=
  x.magnitude.map fun m => .float (if x.negative then -m else m)

/-- The integer that a numeral writes, if it has no point or exponent and fits. -/
def toInt? (x : Numeral) : Option Int :=
  if x.fraction.isSome || x.exponent.isSome then none
  else
    let n := natOfDigits x.whole
    if x.negative then
      if 0 < n ∧ n ≤ Nat.pow 2 63 then some (-(n : Int)) else none
    else if n < UInt64.size then some n else none

def toNumber (x : Numeral) : Except Problem Number :=
  match x.toInt? with
  | some n => .ok (.integer n)
  | none => x.toFloat

end Numeral

def Reader.number : Reader Number := do
  let x ← numeral (.cut .value)
  match x.toNumber with
  | .ok n => return n
  | .error problem => fail problem

/-- Passes over a number: its grammar counts, not its size. -/
def Reader.skipNumber : Reader Unit := do
  let _ ← numeral (.malformed .invalidNumber)

end EarlyResolution.Json
