import EarlyResolution.Proofs.Simplification.Soundness

/-!
# Which registers are looked at

For a multiply or divide the mode flag is looked at first.  The two operands follow only
once the flag is clear and the shape is right, so a thread in constant-time mode shows
nothing of them.  All registers are looked at on behalf of the instruction's own thread.
What was not looked at makes no difference to the result, the counters or what else is
looked at.
-/

namespace EarlyResolution

namespace Instruction

/-- All that may be looked at, in order: the mode flag, then the first two integer sources. -/
def readable (inst : Instruction) : List (PhysReg × ThreadId) :=
  (inst.ctModeOperand?.toList ++ inst.intSources.take 2).map fun src => (src.phys, inst.tid)

def CarriesMode (inst : Instruction) (mode : Operand) : Prop :=
  ∃ before behind, inst.srcs = before ++ mode :: behind ∧
    (∀ src ∈ before, src.arch ≠ .ctMode) ∧ mode.arch = .ctMode

/-- One writable integer destination and exactly two sources in the integer register file. -/
structure Shaped (inst : Instruction) (first second : Operand) : Prop where
  destination : ∃ dest, inst.dests = [dest] ∧ dest.kind = .int ∧ dest.alwaysReady = false
  operands : inst.srcs.filter (fun src => src.phys.kind = .int) = [first, second]

variable {inst : Instruction}

theorem carriesMode_iff {mode : Operand} :
    inst.CarriesMode mode ↔ inst.ctModeOperand? = some mode := by
  rw [ctModeOperand?_eq_some_iff]
  constructor
  · rintro ⟨before, behind, split, plain, flag⟩
    exact ⟨flag, before, behind, split, plain⟩
  · rintro ⟨flag, before, behind, split, plain⟩
    exact ⟨before, behind, split, plain, flag⟩

theorem Shaped.operandPair? {first second : Operand} (shaped : inst.Shaped first second) :
    inst.operandPair? = some (first.phys, second.phys) := by
  obtain ⟨⟨dest, dests, kind, writable⟩, operands⟩ := shaped
  rw [operandPair?_eq_some_iff]
  refine ⟨⟨dest, dests, ?_⟩, first, second, operands, rfl, rfl⟩
  exact dest.isWritableInt_iff.mpr ⟨kind, writable⟩

theorem exists_shaped_of_operandPair? {pair : PhysReg × PhysReg}
    (found : inst.operandPair? = some pair) :
    ∃ first second, inst.Shaped first second ∧ pair = (first.phys, second.phys) := by
  obtain ⟨⟨dest, dests, writable⟩, first, second, operands, one, other⟩ :=
    operandPair?_eq_some_iff.mp found
  have ordinary := dest.isWritableInt_iff.mp writable
  exact ⟨first, second, ⟨⟨dest, dests, ordinary⟩, operands⟩, Prod.ext one.symm other.symm⟩

end Instruction

namespace Simplifier

open Instruction (CarriesMode Shaped)

/-- What is looked at for an instruction, in order, where the registers hold what `read` says. -/
inductive Footprint (unit : Simplifier) (inst : Instruction)
    (read : PhysReg → ThreadId → UInt64) : List (PhysReg × ThreadId) → Prop where
  /-- The unit is off, or has no business with the operation, or there is no mode flag. -/
  | nothing
      (idle : unit.enabled = false ∨ ¬ (inst.op = .intMult ∨ inst.op = .intDiv) ∨
        ∀ src ∈ inst.srcs, src.arch ≠ .ctMode) :
      Footprint unit inst read []
  /-- The flag is set, or the shape is wrong. -/
  | modeAlone {mode : Operand} (enabled : unit.enabled = true)
      (operation : inst.op = .intMult ∨ inst.op = .intDiv) (carries : inst.CarriesMode mode)
      (stops : read mode.phys inst.tid ≠ 0 ∨ ¬ ∃ first second, inst.Shaped first second) :
      Footprint unit inst read [(mode.phys, inst.tid)]
  | operands {mode first second : Operand} (enabled : unit.enabled = true)
      (operation : inst.op = .intMult ∨ inst.op = .intDiv) (carries : inst.CarriesMode mode)
      (clear : read mode.phys inst.tid = 0) (shaped : inst.Shaped first second) :
      Footprint unit inst read
        [(mode.phys, inst.tid), (first.phys, inst.tid), (second.phys, inst.tid)]

variable {unit : Simplifier} {inst : Instruction} (read : PhysReg → ThreadId → UInt64)

/-! ## The registers one case at a time -/

theorem reads_of_bypassed (off : (unit.enabled && inst.op.isMultiplyOrDivide) = false) :
    unit.reads inst read = [] := by
  simp only [reads, inquire, off]
  rfl

theorem reads_of_missing (missing : inst.ctModeOperand? = none) :
    unit.reads inst read = [] := by
  cases on : unit.enabled && inst.op.isMultiplyOrDivide with
  | false => exact reads_of_bypassed read on
  | true =>
      simp only [reads, inquire, on, missing]
      rfl

/-- Behind the mode flag come the operands, or nothing more. -/
theorem reads_of_mode {mode : Operand}
    (on : (unit.enabled && inst.op.isMultiplyOrDivide) = true)
    (found : inst.ctModeOperand? = some mode) :
    unit.reads inst read = (mode.phys, inst.tid) ::
      if read mode.phys inst.tid ≠ 0 then []
      else inst.operandPair?.elim [] fun pair => [(pair.1, inst.tid), (pair.2, inst.tid)] := by
  simp only [reads, inquire, on, found, if_true, Inquiry.asked, List.cons.injEq, true_and]
  split
  · rfl
  · cases inst.operandPair? <;> rfl

/-- A set mode flag is all that is looked at. -/
theorem reads_of_mode_set {mode : Operand}
    (on : (unit.enabled && inst.op.isMultiplyOrDivide) = true)
    (found : inst.ctModeOperand? = some mode) (set : read mode.phys inst.tid ≠ 0) :
    unit.reads inst read = [(mode.phys, inst.tid)] := by
  rw [reads_of_mode read on found, if_pos set]

/-! ## The registers as a whole -/

theorem reads_of_footprint {regs : List (PhysReg × ThreadId)}
    (footprint : unit.Footprint inst read regs) : unit.reads inst read = regs := by
  have switched (enabled : unit.enabled = true)
      (operation : inst.op = .intMult ∨ inst.op = .intDiv) :
      (unit.enabled && inst.op.isMultiplyOrDivide) = true := by
    rw [enabled, Bool.true_and, OpClass.isMultiplyOrDivide_iff]
    exact operation
  cases footprint with
  | nothing idle =>
      rcases idle with off | other | missing
      · exact reads_of_bypassed read (by rw [off, Bool.false_and])
      · rw [← OpClass.isMultiplyOrDivide_iff, Bool.not_eq_true] at other
        exact reads_of_bypassed read (by rw [other, Bool.and_false])
      · exact reads_of_missing read (Instruction.ctModeOperand?_eq_none_iff.mpr missing)
  | @modeAlone mode enabled operation carries stops =>
      rw [reads_of_mode read (switched enabled operation) (Instruction.carriesMode_iff.mp carries)]
      by_cases set : read mode.phys inst.tid ≠ 0
      · rw [if_pos set]
      · rw [if_neg set]
        cases shape : inst.operandPair? with
        | none => rfl
        | some pair =>
            obtain ⟨first, second, shaped, -⟩ := Instruction.exists_shaped_of_operandPair? shape
            exact absurd ⟨first, second, shaped⟩ (stops.resolve_left set)
  | operands enabled operation carries clear shaped =>
      rw [reads_of_mode read (switched enabled operation) (Instruction.carriesMode_iff.mp carries),
        if_neg (not_not.mpr clear), shaped.operandPair?]
      rfl

theorem footprint_reads (unit : Simplifier) (inst : Instruction) :
    unit.Footprint inst read (unit.reads inst read) := by
  cases on : unit.enabled && inst.op.isMultiplyOrDivide with
  | false =>
      rw [reads_of_bypassed read on]
      apply Footprint.nothing
      rw [Bool.and_eq_false_iff] at on
      rcases on with off | other
      · exact .inl off
      · refine .inr (.inl ?_)
        rw [← OpClass.isMultiplyOrDivide_iff, other]
        exact Bool.false_ne_true
  | true =>
      obtain ⟨enabled, business⟩ := Bool.and_eq_true_iff.mp on
      have operation := (OpClass.isMultiplyOrDivide_iff _).mp business
      cases found : inst.ctModeOperand? with
      | none =>
          rw [reads_of_missing read found]
          exact .nothing (.inr (.inr (Instruction.ctModeOperand?_eq_none_iff.mp found)))
      | some mode =>
          have carries := Instruction.carriesMode_iff.mpr found
          rw [reads_of_mode read on found]
          by_cases set : read mode.phys inst.tid ≠ 0
          · rw [if_pos set]
            exact .modeAlone enabled operation carries (.inl set)
          · rw [if_neg set]
            cases shape : inst.operandPair? with
            | none =>
                apply Footprint.modeAlone enabled operation carries
                refine .inr ?_
                rintro ⟨first, second, shaped⟩
                rw [shaped.operandPair?] at shape
                cases shape
            | some pair =>
                obtain ⟨first, second, shaped, rfl⟩ :=
                  Instruction.exists_shaped_of_operandPair? shape
                exact .operands enabled operation carries (not_not.mp set) shaped

theorem reads_eq_iff {regs : List (PhysReg × ThreadId)} :
    unit.reads inst read = regs ↔ unit.Footprint inst read regs := by
  constructor
  · rintro rfl
    exact unit.footprint_reads read inst
  · exact reads_of_footprint read

/-- Nothing but the mode flag and the first two integer sources is looked at, in that order. -/
theorem Footprint.isPrefix {regs : List (PhysReg × ThreadId)}
    (footprint : unit.Footprint inst read regs) : regs <+: inst.readable := by
  unfold Instruction.readable
  cases footprint with
  | nothing _ => exact List.nil_prefix
  | modeAlone _ _ carries _ =>
      rw [Instruction.carriesMode_iff.mp carries]
      exact List.prefix_append _ _
  | operands _ _ carries _ shaped =>
      rw [Instruction.carriesMode_iff.mp carries, show inst.intSources = _ from shaped.operands]
      exact List.prefix_rfl

/-! ## What makes no difference -/

/-- Registers that were not looked at make no difference. -/
theorem trySimplify_congr {read read' : PhysReg → ThreadId → UInt64}
    (agree : ∀ q ∈ unit.reads inst read, read q.1 q.2 = read' q.1 q.2) :
    unit.reads inst read' = unit.reads inst read ∧
      unit.trySimplify inst read' = unit.trySimplify inst read := by
  rw [trySimplify_eq_map, trySimplify_eq_map, attempt, attempt]
  unfold reads at agree ⊢
  cases asks : inquire unit.enabled inst with
  | error violation => exact ⟨rfl, rfl⟩
  | ok inquiry =>
      rw [asks] at agree
      obtain ⟨asked, result⟩ := inquiry.asked_congr agree
      refine ⟨asked, ?_⟩
      simp only [Except.map, result]

/-- In constant-time mode nothing but the flag makes a difference, and that only by being set. -/
theorem trySimplify_congr_of_mode_set {read read' : PhysReg → ThreadId → UInt64} {mode : Operand}
    (found : inst.ctModeOperand? = some mode) (set : read mode.phys inst.tid ≠ 0)
    (set' : read' mode.phys inst.tid ≠ 0) :
    unit.reads inst read' = unit.reads inst read ∧
      unit.trySimplify inst read' = unit.trySimplify inst read := by
  cases on : unit.enabled && inst.op.isMultiplyOrDivide with
  | false =>
      rw [reads_of_bypassed read on, reads_of_bypassed read' on, trySimplify_of_bypassed read on,
        trySimplify_of_bypassed read' on]
      exact ⟨rfl, rfl⟩
  | true =>
      have suppressed {value : UInt64} (read : PhysReg → ThreadId → UInt64) (set : value ≠ 0) :
          Attempt.ofMode value inst read = .suppressed := by
        rw [Attempt.ofMode, if_pos set]
      rw [reads_of_mode_set read on found set, reads_of_mode_set read' on found set',
        trySimplify_of_mode read on found, trySimplify_of_mode read' on found,
        suppressed read set, suppressed read' set']
      exact ⟨rfl, rfl⟩

/--
What is looked at for an instruction: a part, from the front, of the mode flag and the
first two integer sources, and exactly so far as switch, operation, flag and shape let it
come.  Registers that agree on what is looked at give the same result and counters, and
no others are looked at; where the mode flag is set, all other registers may differ.
-/
theorem reads_footprint (unit : Simplifier) (inst : Instruction)
    (read read' : PhysReg → ThreadId → UInt64) :
    unit.reads inst read <+: inst.readable ∧
    (∀ regs, unit.reads inst read = regs ↔ unit.Footprint inst read regs) ∧
    ((∀ q ∈ unit.reads inst read, read q.1 q.2 = read' q.1 q.2) →
      unit.reads inst read' = unit.reads inst read ∧
        unit.trySimplify inst read' = unit.trySimplify inst read) ∧
    ∀ mode, inst.CarriesMode mode →
      read mode.phys inst.tid ≠ 0 → read' mode.phys inst.tid ≠ 0 →
      unit.reads inst read' = unit.reads inst read ∧
        unit.trySimplify inst read' = unit.trySimplify inst read := by
  refine ⟨(unit.footprint_reads read inst).isPrefix, fun regs => reads_eq_iff read,
    trySimplify_congr, fun mode carries set set' => ?_⟩
  exact trySimplify_congr_of_mode_set (Instruction.carriesMode_iff.mp carries) set set'

/-- One integer register that is the mode flag and both operands of a multiply. -/
theorem reads_footprint_at_shared_register :
    let shared : PhysReg := { kind := .int, index := 7 }
    let multiply : Instruction :=
      { seq := 3
        pc := 256
        tid := 1
        op := .intMult
        srcs := [⟨.int 3, shared⟩, ⟨.ctMode, shared⟩]
        dests := [{ kind := .int, index := 2 }] }
    let holding (value others : UInt64) (reg : PhysReg) (tid : ThreadId) : UInt64 :=
      if tid = 1 ∧ reg = shared then value else others
    let unit : Simplifier := ⟨true, {}⟩
    unit.reads multiply (holding 0 4) = [(shared, 1), (shared, 1), (shared, 1)] ∧
      unit.trySimplify multiply (holding 0 4) = unit.trySimplify multiply (holding 0 9) ∧
      unit.reads multiply (holding 1 4) = [(shared, 1)] ∧
      unit.trySimplify multiply (holding 1 4) = unit.trySimplify multiply (holding 6 9) := by
  intro shared multiply holding unit
  have carries : multiply.CarriesMode ⟨.ctMode, shared⟩ :=
    ⟨[⟨.int 3, shared⟩], [], rfl, by decide, rfl⟩
  have shaped : multiply.Shaped ⟨.int 3, shared⟩ ⟨.ctMode, shared⟩ :=
    ⟨⟨{ kind := .int, index := 2 }, rfl, rfl, rfl⟩, rfl⟩
  obtain ⟨-, clear, same, -⟩ := reads_footprint unit multiply (holding 0 9) (holding 0 4)
  obtain ⟨-, set, -, leaks⟩ := reads_footprint unit multiply (holding 6 9) (holding 1 4)
  have three := (clear _).mpr (.operands rfl (.inl rfl) carries rfl shaped)
  have one := (set _).mpr (.modeAlone rfl (.inl rfl) carries (.inl (by decide)))
  obtain ⟨asked, result⟩ := same (by rw [three]; decide)
  obtain ⟨asked', result'⟩ := leaks _ carries (by decide) (by decide)
  exact ⟨asked.trans three, result, asked'.trans one, result'⟩

end Simplifier

end EarlyResolution
