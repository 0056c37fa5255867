import EarlyResolution.Simplification.Simplifier

/-!
# What an attempt comes to

An attempt is decided by the unit's switch and the operation, then by the mode
flag, then by the shape of the instruction, and last by the operand values.
-/

namespace EarlyResolution

def Attempt.ofOperands (op : OpClass) (a b : UInt64) : Attempt :=
  match simplify op a b with
  | none => .plain a b
  | some (result, identity) => .simplified a b result identity

def Attempt.ofMode (flag : UInt64) (inst : Instruction) (read : PhysReg → ThreadId → UInt64) :
    Attempt :=
  if flag ≠ 0 then .suppressed
  else
    match inst.operandPair? with
    | none => .misshapen
    | some (first, second) => .ofOperands inst.op (read first inst.tid) (read second inst.tid)

namespace Simplifier

variable {unit : Simplifier} {inst : Instruction} (read : PhysReg → ThreadId → UInt64)

theorem attempt_of_bypassed (off : (unit.enabled && inst.op.isMultiplyOrDivide) = false) :
    unit.attempt inst read = .ok .bypassed := by
  simp only [attempt, inquire, off]
  rfl

theorem attempt_of_missing (on : (unit.enabled && inst.op.isMultiplyOrDivide) = true)
    (missing : inst.ctModeOperand? = none) :
    unit.attempt inst read = .error (.missingCtModeOperand inst.op inst.seq inst.pc) := by
  simp only [attempt, inquire, on, missing]
  rfl

theorem attempt_of_mode {mode : Operand}
    (on : (unit.enabled && inst.op.isMultiplyOrDivide) = true)
    (found : inst.ctModeOperand? = some mode) :
    unit.attempt inst read = .ok (.ofMode (read mode.phys inst.tid) inst read) := by
  simp only [attempt, inquire, on, found, if_true]
  change Except.ok _ = Except.ok _
  simp only [Inquiry.result, Attempt.ofMode]
  by_cases flag : read mode.phys inst.tid ≠ 0
  · rw [if_pos flag, if_pos flag]
    rfl
  · rw [if_neg flag, if_neg flag]
    cases inst.operandPair? <;> rfl

/-- An attempt gives its result and is counted. -/
theorem trySimplify_eq_map :
    unit.trySimplify inst read = (unit.attempt inst read).map fun attempt =>
      (attempt.result?, { unit with counters := unit.counters.addAttempt attempt }) := by
  rw [trySimplify]
  cases unit.attempt inst read <;> rfl

/-- An operation that is no business of the unit leaves it as it was. -/
theorem trySimplify_of_bypassed
    (off : (unit.enabled && inst.op.isMultiplyOrDivide) = false) :
    unit.trySimplify inst read = .ok (none, unit) := by
  rw [trySimplify_eq_map, attempt_of_bypassed read off]
  rfl

/-- A multiply or divide with its mode flag is never refused. -/
theorem trySimplify_of_mode {mode : Operand}
    (on : (unit.enabled && inst.op.isMultiplyOrDivide) = true)
    (found : inst.ctModeOperand? = some mode) :
    unit.trySimplify inst read =
      let attempt := Attempt.ofMode (read mode.phys inst.tid) inst read
      .ok (attempt.result?, { unit with counters := unit.counters.addAttempt attempt }) := by
  rw [trySimplify_eq_map, attempt_of_mode read on found]
  rfl

end Simplifier

end EarlyResolution
