import EarlyResolution.Proofs.Replay.Run
import EarlyResolution.Proofs.Simplification.Attempt

/-!
# Issue does not depend on history

Rename hands an issued instruction registers that it has just written, so what
the simplifier reads back are the instruction's own operands and its own mode
flag, wherever the wrapping register counters stand and whatever older values
the register file still holds.  What an issue event does is therefore told by
its own fields: `Issue.effect`.
-/

namespace EarlyResolution

/-- The operands of an issue event of the right shape: one destination, exactly two sources. -/
def Issue.operands? (issue : Issue) : Option (UInt64 × UInt64) :=
  match issue.dests, issue.srcs with
  | 1, [a, b] => some (a, b)
  | _, _ => none

namespace RegisterFile

/-! ## What rename hands out -/

theorem renameSources_cons (tid : ThreadId) (i : Nat) (value : UInt64) (values : List UInt64)
    (regs : RegisterFile) :
    renameSources tid i (value :: values) regs =
      let first := regs.allocateWith .int tid value
      let others := renameSources tid (i + 1) values first.2
      (⟨.int i.toUInt16, first.1⟩ :: others.1, others.2) :=
  rfl

theorem renameDests_succ (n : Nat) (regs : RegisterFile) :
    renameDests (n + 1) regs =
      let first := regs.allocate .int
      let others := renameDests n first.2
      (first.1 :: others.1, others.2) :=
  rfl

@[simp] theorem length_renameSources (tid : ThreadId) (i : Nat) (values : List UInt64)
    (regs : RegisterFile) : (renameSources tid i values regs).1.length = values.length := by
  induction values generalizing i regs with
  | nil => rfl
  | cons value values ih => simp [renameSources_cons, ih]

/-- Renamed sources are integer registers, and none of them is the mode flag. -/
theorem int_of_mem_renameSources {tid : ThreadId} {i : Nat} {values : List UInt64}
    {regs : RegisterFile} {operand : Operand}
    (member : operand ∈ (renameSources tid i values regs).1) :
    operand.phys.kind = .int ∧ operand.arch ≠ ArchReg.ctMode := by
  induction values generalizing i regs with
  | nil => cases member
  | cons value values ih =>
      rw [renameSources_cons] at member
      cases member with
      | head => exact ⟨rfl, ArchReg.int_ne_ctMode _⟩
      | tail _ later => exact ih later

theorem length_renameDests (n : Nat) (regs : RegisterFile) :
    (renameDests n regs).1.length = n := by
  induction n generalizing regs with
  | zero => rfl
  | succ n ih => simp [renameDests_succ, ih]

theorem isWritableInt_of_mem_renameDests {n : Nat} {regs : RegisterFile} {reg : PhysReg}
    (member : reg ∈ (renameDests n regs).1) : reg.isWritableInt = true := by
  induction n generalizing regs with
  | zero => cases member
  | succ n ih =>
      rw [renameDests_succ] at member
      cases member with
      | head => rfl
      | tail _ later => exact ih later

/-- Destinations are taken, not written. -/
@[simp] theorem read_renameDests (n : Nat) (regs : RegisterFile) :
    (renameDests n regs).2.read = regs.read := by
  induction n generalizing regs with
  | zero => rfl
  | succ n ih => exact ih _

def withMode (regs : RegisterFile) (issue : Issue) : PhysReg × RegisterFile :=
  (renameSources issue.tid 0 issue.srcs regs).2.allocateWith .condCode issue.tid
    (if issue.ctMode then 1 else 0)

theorem rename_eq (regs : RegisterFile) (issue : Issue) :
    regs.rename issue =
      let stored := regs.withMode issue
      let dests := renameDests issue.dests.toNat stored.2
      ({ seq := issue.seq
         pc := issue.pc
         tid := issue.tid
         op := issue.op
         srcs := (renameSources issue.tid 0 issue.srcs regs).1 ++ [⟨.ctMode, stored.1⟩]
         dests := dests.1 }, dests.2) :=
  rfl

/-! ## What the simplifier finds in a renamed instruction -/

theorem ctModeOperand?_rename (regs : RegisterFile) (issue : Issue) :
    (regs.rename issue).1.ctModeOperand? = some ⟨.ctMode, (regs.withMode issue).1⟩ := by
  have plain : (renameSources issue.tid 0 issue.srcs regs).1.find?
      (fun source => source.arch == ArchReg.ctMode) = none := by
    rw [List.find?_eq_none]
    intro operand member
    simpa using (int_of_mem_renameSources member).2
  rw [rename_eq, Instruction.ctModeOperand?, List.find?_append, plain]
  rfl

/-- The mode flag is stored last, so nothing is written over it. -/
theorem read_mode_rename (regs : RegisterFile) (issue : Issue) :
    (regs.rename issue).2.read (regs.withMode issue).1 issue.tid =
      if issue.ctMode then 1 else 0 := by
  rw [rename_eq]
  simp only [read_renameDests, withMode, reg_allocateWith, read_allocateWith, PhysReg.slot,
    if_true]

theorem intSources_rename (regs : RegisterFile) (issue : Issue) :
    (regs.rename issue).1.intSources = (renameSources issue.tid 0 issue.srcs regs).1 := by
  have kept : (renameSources issue.tid 0 issue.srcs regs).1.filter
      (fun source => source.phys.kind == .int) = (renameSources issue.tid 0 issue.srcs regs).1 := by
    rw [List.filter_eq_self]
    intro operand member
    simpa using (int_of_mem_renameSources member).1
  rw [rename_eq, Instruction.intSources, List.filter_append, kept]
  exact List.append_nil _

/-- A lone destination is one that the simplifier accepts. -/
theorem dests_rename_single (regs : RegisterFile) {issue : Issue} (single : issue.dests = 1) :
    ∃ dest, (regs.rename issue).1.dests = [dest] ∧ dest.isWritableInt = true := by
  have counted : (regs.rename issue).1.dests.length = 1 := by
    rw [rename_eq, single]
    exact length_renameDests _ _
  obtain ⟨dest, dests⟩ := List.length_eq_one_iff.mp counted
  refine ⟨dest, dests, ?_⟩
  have member : dest ∈ (regs.rename issue).1.dests := by simp [dests]
  exact isWritableInt_of_mem_renameDests member

/-- An issue event of the right shape is renamed to one whose registers hold its operands. -/
theorem operandPair?_rename (regs : RegisterFile) {issue : Issue} {a b : UInt64}
    (single : issue.dests = 1) (pair : issue.srcs = [a, b]) :
    ∃ first second, (regs.rename issue).1.operandPair? = some (first, second) ∧
      (regs.rename issue).2.read first issue.tid = a ∧
      (regs.rename issue).2.read second issue.tid = b := by
  let taken := regs.next .int
  obtain ⟨dest, dests, writable⟩ := dests_rename_single regs single
  refine ⟨⟨.int, taken, false⟩, ⟨.int, taken + 1, false⟩, ?_, ?_, ?_⟩
  · rw [Instruction.operandPair?, dests, intSources_rename, pair]
    simp [renameSources, next_allocateWith, writable, taken]
  -- The counter may wrap between the two sources, but it does not stand still.
  · rw [rename_eq, withMode, pair]
    simp [renameSources, read_allocateWith, next_allocateWith, PhysReg.slot, taken]
  · rw [rename_eq, withMode, pair]
    simp [renameSources, read_allocateWith, next_allocateWith, PhysReg.slot, taken]

/-- An issue event of another shape is not renamed to one of the right shape. -/
theorem eq_of_operandPair?_rename (regs : RegisterFile) {issue : Issue}
    {found : PhysReg × PhysReg} (shape : (regs.rename issue).1.operandPair? = some found) :
    issue.dests = 1 ∧ issue.srcs.length = 2 := by
  rw [Instruction.operandPair?, intSources_rename] at shape
  split at shape
  case h_1 dest first second dests sources =>
      constructor
      · have counted := congrArg List.length dests
        rw [rename_eq, length_renameDests] at counted
        exact UInt64.toNat_inj.mp counted
      · have counted := congrArg List.length sources
        rwa [length_renameSources] at counted
  case h_2 => cases shape

/-- The operand values that the simplifier reads are those of the issue event. -/
theorem operands_rename (regs : RegisterFile) (issue : Issue) :
    ((regs.rename issue).1.operandPair?.map fun pair =>
      ((regs.rename issue).2.read pair.1 issue.tid, (regs.rename issue).2.read pair.2 issue.tid)) =
      issue.operands? := by
  unfold Issue.operands?
  split
  case h_1 a b single pair =>
      obtain ⟨first, second, shape, readFirst, readSecond⟩ := regs.operandPair?_rename single pair
      rw [shape, Option.map_some, readFirst, readSecond]
  case h_2 other =>
      cases shape : (regs.rename issue).1.operandPair? with
      | none => rfl
      | some found =>
          obtain ⟨single, pair⟩ := regs.eq_of_operandPair?_rename shape
          match sources : issue.srcs, pair with
          | [a, b], _ => exact absurd sources (other a b single)

end RegisterFile

/-! ## What an issue event does -/

/--
What an issued instruction comes to by its own fields alone: its result, if it
needs no functional unit, and the simplifier's counters after it.  A result
counts once for all identities and once for its own.
-/
def Issue.effect (issue : Issue) (enabled : Bool) (counters : SimplifyCounters) :
    Option UInt64 × SimplifyCounters :=
  if enabled = false ∨ ¬ (issue.op = .intMult ∨ issue.op = .intDiv) then (none, counters)
  else if issue.ctMode then
    (none, { counters with ctSuppressed := counters.ctSuppressed + 1 })
  else
    match issue.operands? with
    | none => (none, counters)
    | some (a, b) =>
        let tried := { counters with candidates := counters.candidates + 1 }
        let passed := { tried with simplified := tried.simplified + 1 }
        match simplify issue.op a b with
        | none => (none, tried)
        | some (result, .multByZero) =>
            (some result, { passed with multByZero := passed.multByZero + 1 })
        | some (result, .multByOne) =>
            (some result, { passed with multByOne := passed.multByOne + 1 })
        | some (result, .divOfZero) =>
            (some result, { passed with divOfZero := passed.divOfZero + 1 })
        | some (result, .divByOne) =>
            (some result, { passed with divByOne := passed.divByOne + 1 })

def Outcome.ofIssue : Option UInt64 → Outcome
  | some value => .simplified value
  | none => .notSimplified

/-- The simplifier does with a renamed instruction what its issue event tells. -/
theorem Simplifier.trySimplify_rename (unit : Simplifier) (regs : RegisterFile) (issue : Issue) :
    unit.trySimplify (regs.rename issue).1 (regs.rename issue).2.read =
      let effect := issue.effect unit.enabled unit.counters
      .ok (effect.1, { unit with counters := effect.2 }) := by
  cases on : unit.enabled && issue.op.isMultiplyOrDivide with
  | false =>
      have bypassed : unit.enabled = false ∨ ¬ (issue.op = .intMult ∨ issue.op = .intDiv) := by
        rwa [← OpClass.isMultiplyOrDivide_iff, Bool.not_eq_true, ← Bool.and_eq_false_iff]
      rw [trySimplify_of_bypassed _ on, Issue.effect, if_pos bypassed]
  | true =>
      have relevant :
          ¬ (unit.enabled = false ∨ ¬ (issue.op = .intMult ∨ issue.op = .intDiv)) := by
        rw [← OpClass.isMultiplyOrDivide_iff]
        simpa using on
      have operands := regs.operands_rename issue
      rw [trySimplify_of_mode _ on (regs.ctModeOperand?_rename issue), Issue.effect,
        if_neg relevant, ← operands]
      simp only [Attempt.ofMode, show (regs.rename issue).1.tid = issue.tid from rfl,
        regs.read_mode_rename]
      cases issue.ctMode with
      | true => rfl
      | false =>
          cases (regs.rename issue).1.operandPair? with
          | none => rfl
          | some pair =>
              obtain ⟨first, second⟩ := pair
              let a := (regs.rename issue).2.read first issue.tid
              let b := (regs.rename issue).2.read second issue.tid
              change Except.ok ((Attempt.ofOperands issue.op a b).result?,
                  { unit with counters := unit.counters.addAttempt (.ofOperands issue.op a b) }) =
                _
              unfold Attempt.ofOperands
              simp only [Option.map_some, a, b]
              cases simplify issue.op _ _ with
              | none => rfl
              | some found =>
                  obtain ⟨result, identity⟩ := found
                  cases identity <;> rfl

namespace Units

/-- An issue event is refused for too many destinations, or does what its fields tell. -/
theorem react_issue (units : Units) (issue : Issue) :
    units.react (.issue issue) =
      if maxDestinations < issue.dests.toNat then
        (.error (.destinationCount issue.seq issue.dests), units)
      else
        let effect := issue.effect units.simplifier.enabled units.simplifier.counters
        (.ok (.ofIssue effect.1),
          { units with
            simplifier := { units.simplifier with counters := effect.2 }
            registers := (units.registers.rename issue).2 }) := by
  unfold react Issue.violation?
  by_cases crowded : maxDestinations < issue.dests.toNat
  · simp only [if_pos crowded]
  · simp only [if_neg crowded]
    rw [units.simplifier.trySimplify_rename units.registers issue]
    cases issue.effect units.simplifier.enabled units.simplifier.counters with
    | mk result counters => cases result <;> rfl

end Units

end EarlyResolution
