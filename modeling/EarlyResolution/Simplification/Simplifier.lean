import EarlyResolution.Counters
import EarlyResolution.Violation
import EarlyResolution.Simplification.Identity

/-!
# The computation simplifier

At issue, an integer multiply or divide with a trivial operand gets its result
without its functional unit.  Operands are read only once they are needed, one
register at a time, and none but the mode flag is read while the thread runs in
constant-time mode: there latency must not depend on operand values.
-/

namespace EarlyResolution

/-- A computation that asks for register values one at a time. -/
inductive Inquiry (α : Type) where
  | answer (result : α)
  | ask (reg : PhysReg) (tid : ThreadId) (next : UInt64 → Inquiry α)

namespace Inquiry

def result (read : PhysReg → ThreadId → UInt64) : Inquiry α → α
  | answer result => result
  | ask reg tid next => (next (read reg tid)).result read

/-- The questions asked, in order, when they are answered by `read`. -/
def asked (read : PhysReg → ThreadId → UInt64) : Inquiry α → List (PhysReg × ThreadId)
  | answer _ => []
  | ask reg tid next => (reg, tid) :: (next (read reg tid)).asked read

/-- Sources of values that agree on all questions asked cannot be told apart. -/
theorem asked_congr {read read' : PhysReg → ThreadId → UInt64} (inquiry : Inquiry α)
    (h : ∀ q ∈ inquiry.asked read, read q.1 q.2 = read' q.1 q.2) :
    inquiry.asked read' = inquiry.asked read ∧ inquiry.result read' = inquiry.result read := by
  induction inquiry with
  | answer _ => simp [asked, result]
  | ask reg tid next ih =>
      have head : read reg tid = read' reg tid := h (reg, tid) (by simp [asked])
      have tail := ih (read reg tid) fun q hq => h q (by simp [asked, hq])
      simp [asked, result, ← head, tail]

end Inquiry

/-- How far an instruction came on its way to a simplified result. -/
inductive Attempt where
  /-- The unit is switched off or the operation is no multiply or divide. -/
  | bypassed
  | suppressed
  /-- Not one writable integer destination with two integer sources. -/
  | misshapen
  /-- The operands are not trivial. -/
  | plain (a b : UInt64)
  | simplified (a b result : UInt64) (identity : Identity)
  deriving DecidableEq, Repr

def Attempt.result? : Attempt → Option UInt64
  | simplified _ _ result _ => some result
  | bypassed | suppressed | misshapen | plain _ _ => none

namespace SimplifyCounters

def addIdentity (counters : SimplifyCounters) : Identity → SimplifyCounters
  | .multByZero => { counters with multByZero := counters.multByZero + 1 }
  | .multByOne => { counters with multByOne := counters.multByOne + 1 }
  | .divOfZero => { counters with divOfZero := counters.divOfZero + 1 }
  | .divByOne => { counters with divByOne := counters.divByOne + 1 }

def addAttempt (counters : SimplifyCounters) : Attempt → SimplifyCounters
  | .bypassed | .misshapen => counters
  | .suppressed => { counters with ctSuppressed := counters.ctSuppressed + 1 }
  | .plain _ _ => { counters with candidates := counters.candidates + 1 }
  | .simplified _ _ _ identity =>
      { counters with
        candidates := counters.candidates + 1
        simplified := counters.simplified + 1 }.addIdentity identity

end SimplifyCounters

/--
The two operands of an instruction of the right shape: one writable integer
destination and exactly two integer sources.
-/
def Instruction.operandPair? (inst : Instruction) : Option (PhysReg × PhysReg) :=
  match inst.dests, inst.intSources with
  | [dest], [a, b] => if dest.isWritableInt then some (a.phys, b.phys) else none
  | _, _ => none

structure Simplifier where
  enabled : Bool
  counters : SimplifyCounters := {}
  deriving DecidableEq, Repr

namespace Simplifier

/--
What the unit asks of the register file about an instruction: the mode flag
first, then the two operands if the shape fits.  A multiply or divide without a
mode flag is refused before anything is read.
-/
def inquire (enabled : Bool) (inst : Instruction) : Except Violation (Inquiry Attempt) :=
  if enabled && inst.op.isMultiplyOrDivide then
    match inst.ctModeOperand? with
    | none => .error (.missingCtModeOperand inst.op inst.seq inst.pc)
    | some mode => .ok <|
        .ask mode.phys inst.tid fun flag =>
          if flag ≠ 0 then .answer .suppressed
          else
            match inst.operandPair? with
            | none => .answer .misshapen
            | some (first, second) =>
                .ask first inst.tid fun a =>
                  .ask second inst.tid fun b =>
                    .answer <|
                      match simplify inst.op a b with
                      | none => .plain a b
                      | some (result, identity) => .simplified a b result identity
  else .ok (.answer .bypassed)

def attempt (unit : Simplifier) (inst : Instruction) (read : PhysReg → ThreadId → UInt64) :
    Except Violation Attempt :=
  (inquire unit.enabled inst).map (·.result read)

/-- The registers read for an instruction, in order, each with the thread it is read for. -/
def reads (unit : Simplifier) (inst : Instruction) (read : PhysReg → ThreadId → UInt64) :
    List (PhysReg × ThreadId) :=
  match inquire unit.enabled inst with
  | .error _ => []
  | .ok inquiry => inquiry.asked read

def trySimplify (unit : Simplifier) (inst : Instruction) (read : PhysReg → ThreadId → UInt64) :
    Except Violation (Option UInt64 × Simplifier) := do
  let attempt ← unit.attempt inst read
  return (attempt.result?, { unit with counters := unit.counters.addAttempt attempt })

end Simplifier

end EarlyResolution
