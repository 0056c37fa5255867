import EarlyResolution.Json.Problem

/-!
# JSON values

A value keeps the members of an object in the order of the text, repeated keys
included.  Integers are exact; any other number is a double.
-/

namespace EarlyResolution.Json

/-- A number: an integer literal within its range, or a double. -/
inductive Number where
  | integer (n : Int)
  | float (x : Float)
  deriving Repr

inductive Value where
  | null
  | boolean (b : Bool)
  | number (n : Number)
  | text (s : String)
  | sequence (items : List Value)
  | object (members : List (String × Value))

namespace Value

def ofNat (n : Nat) : Value :=
  .number (.integer n)

def ofWord (word : UInt64) : Value :=
  .ofNat word.toNat

def found : Value → Found
  | null => .null
  | boolean b => .boolean b
  | number (.integer n) => .integer n
  | number (.float x) => .float x
  | text s => .text s
  | sequence _ => .sequence
  | object _ => .map

/-! ## Taking typed data out of a value -/

/-- A natural below `bound`.  Only integer literals will do, not `2.0` or `1e3`. -/
def toNatBelow (bound : Nat) (expected : String) : Value → Except Mismatch Nat
  | number (.integer n) =>
      if 0 ≤ n ∧ n < bound then .ok n.toNat else .error (.invalidValue (.integer n) expected)
  | other => .error (.invalidType other.found expected)

def toWord (expected : String) (v : Value) : Except Mismatch UInt64 :=
  (v.toNatBelow UInt64.size expected).map Nat.toUInt64

def toWord32 (expected : String) (v : Value) : Except Mismatch UInt32 :=
  (v.toNatBelow UInt32.size expected).map Nat.toUInt32

def toBool : Value → Except Mismatch Bool
  | boolean b => .ok b
  | other => .error (.invalidType other.found "a boolean")

def toList (item : Value → Except Mismatch α) : Value → Except Mismatch (List α)
  | sequence items => items.mapM item
  | other => .error (.invalidType other.found "a sequence")

end Value

end EarlyResolution.Json
