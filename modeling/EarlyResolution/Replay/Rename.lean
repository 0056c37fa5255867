import EarlyResolution.RegisterFile
import EarlyResolution.Trace.Event
import EarlyResolution.Violation

/-!
# Rename

Rename gives every operand of an issued instruction a fresh physical register.
Sources are stored as they come, the mode flag is attached behind them as the
last source, and the destinations are taken last.
-/

namespace EarlyResolution

namespace RegisterFile

/-- Stores source values in fresh integer registers; operand `i` is architectural register `i`. -/
def renameSources (tid : ThreadId) :
    Nat → List UInt64 → RegisterFile → List Operand × RegisterFile
  | _, [], regs => ([], regs)
  | i, value :: values, regs =>
      let (phys, regs) := regs.allocateWith .int tid value
      let (operands, regs) := renameSources tid (i + 1) values regs
      (⟨.int i.toUInt16, phys⟩ :: operands, regs)

def renameDests : Nat → RegisterFile → List PhysReg × RegisterFile
  | 0, regs => ([], regs)
  | n + 1, regs =>
      let (reg, regs) := regs.allocate .int
      let (dests, regs) := renameDests n regs
      (reg :: dests, regs)

def rename (regs : RegisterFile) (issue : Issue) : Instruction × RegisterFile :=
  let (sources, regs) := renameSources issue.tid 0 issue.srcs regs
  let (mode, regs) := regs.allocateWith .condCode issue.tid (if issue.ctMode then 1 else 0)
  let (dests, regs) := renameDests issue.dests.toNat regs
  ({ seq := issue.seq
     pc := issue.pc
     tid := issue.tid
     op := issue.op
     srcs := sources ++ [⟨.ctMode, mode⟩]
     dests }, regs)

end RegisterFile

/-- An instruction that claims more destinations than there can be is not renamed. -/
def Issue.violation? (issue : Issue) : Option Violation :=
  if maxDestinations < issue.dests.toNat then some (.destinationCount issue.seq issue.dests)
  else none

end EarlyResolution
