import EarlyResolution.Instruction
import EarlyResolution.Text.Hexadecimal

/-!
# Broken contracts between pipeline stages

A violation says that a stage in front of the units broke its contract.
Ordinary outcomes, such as low confidence or an instruction that does not
qualify, are never violations.
-/

namespace EarlyResolution

def maxDestinations : Nat := 4

inductive Violation where
  /-- A multiply or divide came to issue without its constant-time mode source. -/
  | missingCtModeOperand (op : OpClass) (seq pc : UInt64)
  /-- An instruction claims more destinations than rename can allocate. -/
  | destinationCount (seq : UInt64) (dests : UInt64)
  /-- A prediction record names a thread slot that does not exist. -/
  | threadOutOfRange (seq : UInt64) (tid : ThreadId) (threads : Nat)
  deriving DecidableEq, Repr

def Violation.message : Violation → String
  | missingCtModeOperand op seq pc =>
      s!"{op.name} instruction [sn:{seq}] PC {Text.hex pc} missing constant-time mode source operand"
  | destinationCount seq dests =>
      s!"instruction [sn:{seq}] has {dests} destination registers, " ++
        s!"at most {maxDestinations} supported"
  | threadOutOfRange seq tid threads =>
      s!"history record [sn:{seq}] names thread {tid}, only {threads} configured"

end EarlyResolution
