import EarlyResolution.Instruction

/-!
# Identities on trivial operands

Multiplying by zero or one, dividing zero, and dividing by one have results
that are known without a functional unit.  They hold for signed and unsigned
readings of a word alike.  Zero divided by zero is not among them: what it
gives is the divider's business.
-/

namespace EarlyResolution

inductive Identity where
  | multByZero
  | multByOne
  | divOfZero
  | divByOne
  deriving DecidableEq, Repr

def Identity.name : Identity → String
  | multByZero => "MultByZero"
  | multByOne => "MultByOne"
  | divOfZero => "DivOfZero"
  | divByOne => "DivByOne"

/--
The result of a multiply `a * b` or a divide `a / b` with a trivial operand, and
the identity behind it.
-/
def simplify (op : OpClass) (a b : UInt64) : Option (UInt64 × Identity) :=
  match op with
  | .intMult =>
      if a = 0 ∨ b = 0 then some (0, .multByZero)
      else if a = 1 then some (b, .multByOne)
      else if b = 1 then some (a, .multByOne)
      else none
  | .intDiv =>
      if a = 0 ∧ b ≠ 0 then some (0, .divOfZero)
      else if b = 1 then some (a, .divByOne)
      else none
  | _ => none

/-- A simplified multiply gives the product modulo `2 ^ 64`. -/
theorem simplify_intMult_sound {a b result : UInt64} {identity : Identity}
    (h : simplify .intMult a b = some (result, identity)) : result = a * b := by
  unfold simplify at h
  grind

/-- A simplified divide has a divisor other than zero and gives the quotient. -/
theorem simplify_intDiv_sound {a b result : UInt64} {identity : Identity}
    (h : simplify .intDiv a b = some (result, identity)) : b ≠ 0 ∧ result = a / b := by
  unfold simplify at h
  grind [UInt64.zero_div, UInt64.div_one]

end EarlyResolution
