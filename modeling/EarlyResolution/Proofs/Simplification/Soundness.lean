import Mathlib.Logic.Basic
import EarlyResolution.Proofs.Simplification.Attempt

/-!
# What is simplified, and to what

An instruction is simplified exactly when the unit is on, the mode flag is clear, the
shape is right and the operands are trivial.  The result is then the one that the
functional unit would have given, whether the operands are read with a sign or
without.  Nothing but a multiply or divide without its mode flag is ever refused.
-/

namespace EarlyResolution

/-- Operands for which a multiply or divide needs no functional unit. -/
def TrivialOperands (op : OpClass) (a b : UInt64) : Prop :=
  op = .intMult ∧ (a = 0 ∨ a = 1 ∨ b = 0 ∨ b = 1) ∨
    op = .intDiv ∧ (a = 0 ∧ b ≠ 0 ∨ b = 1)

/--
The result of the functional unit: a product modulo the word size, or a truncated
quotient, the same for operands read without a sign and in two's complement.
-/
def ArchitecturalResult : OpClass → UInt64 → UInt64 → UInt64 → Prop
  | .intMult, a, b, result => result.toNat = a.toNat * b.toNat % UInt64.size
  | .intDiv, a, b, result =>
      b ≠ 0 ∧ result.toNat = a.toNat / b.toNat ∧
        result.toInt64.toInt = a.toInt64.toInt.tdiv b.toInt64.toInt
  | .intAlu, _, _, _ | .memRead, _, _, _ | .memWrite, _, _, _ | .float, _, _, _
  | .other, _, _, _ => False

/-- There is an identity for trivial operands and for no others. -/
theorem isSome_simplify_iff (op : OpClass) (a b : UInt64) :
    (simplify op a b).isSome = true ↔ TrivialOperands op a b := by
  unfold simplify TrivialOperands
  cases op <;> grind

theorem quotient_eq_of_trivial {a b : UInt64} (trivial : a = 0 ∨ b = 1) :
    (a / b).toInt64.toInt = a.toInt64.toInt.tdiv b.toInt64.toInt := by
  rcases trivial with rfl | rfl
  · rw [UInt64.zero_div]
    exact (Int.zero_tdiv _).symm
  · rw [UInt64.div_one]
    exact (Int.tdiv_one _).symm

/-- Every identity gives the architectural result. -/
theorem architecturalResult_of_simplify {op : OpClass} {a b result : UInt64}
    {identity : Identity} (simplified : simplify op a b = some (result, identity)) :
    ArchitecturalResult op a b result := by
  have trivial : TrivialOperands op a b := by
    rw [← isSome_simplify_iff, simplified]
    rfl
  rcases trivial with ⟨rfl, -⟩ | ⟨rfl, zero | one⟩
  · rw [simplify_intMult_sound simplified]
    exact UInt64.toNat_mul a b
  · obtain ⟨divisible, rfl⟩ := simplify_intDiv_sound simplified
    exact ⟨divisible, UInt64.toNat_div a b, quotient_eq_of_trivial (.inl zero.1)⟩
  · obtain ⟨divisible, rfl⟩ := simplify_intDiv_sound simplified
    exact ⟨divisible, UInt64.toNat_div a b, quotient_eq_of_trivial (.inr one)⟩

/-! ## What an instruction must look like -/

theorem PhysReg.isWritableInt_iff (reg : PhysReg) :
    reg.isWritableInt = true ↔ reg.kind = .int ∧ reg.alwaysReady = false := by
  simp [isWritableInt]

namespace Instruction

variable {inst : Instruction}

theorem ctModeOperand?_eq_some_iff {mode : Operand} :
    inst.ctModeOperand? = some mode ↔
      mode.arch = .ctMode ∧
        ∃ before behind, inst.srcs = before ++ mode :: behind ∧
          ∀ src ∈ before, src.arch ≠ .ctMode := by
  simp [ctModeOperand?, List.find?_eq_some_iff_append]

theorem ctModeOperand?_eq_none_iff :
    inst.ctModeOperand? = none ↔ ∀ src ∈ inst.srcs, src.arch ≠ .ctMode := by
  simp [ctModeOperand?, List.find?_eq_none]

theorem operandPair?_eq_some_iff {first second : PhysReg} :
    inst.operandPair? = some (first, second) ↔
      (∃ dest, inst.dests = [dest] ∧ dest.isWritableInt = true) ∧
        ∃ a b, inst.intSources = [a, b] ∧ a.phys = first ∧ b.phys = second := by
  rw [operandPair?]
  split
  case h_1 dest a b dests sources =>
      rw [dests, sources]
      split
      case isTrue writable =>
          constructor
          · rintro ⟨⟩
            exact ⟨⟨dest, rfl, writable⟩, a, b, rfl, rfl, rfl⟩
          · rintro ⟨-, _, _, ⟨⟩, rfl, rfl⟩
            rfl
      case isFalse hardwired =>
          constructor
          · rintro ⟨⟩
          · rintro ⟨⟨_, ⟨⟩, writable⟩, -⟩
            exact absurd writable hardwired
  case h_2 other =>
      simp only [reduceCtorEq, false_iff, not_and]
      rintro ⟨dest, dests, -⟩ ⟨a, b, sources, -, -⟩
      exact other dest a b dests sources

end Instruction

namespace Simplifier

/--
The instruction comes as far as its operand values, which are `a` and `b`: the unit is
on, the first source that names the mode flag reads zero, there is one writable integer
destination, and exactly two sources live in the integer register file.
-/
structure Qualifies (unit : Simplifier) (inst : Instruction)
    (read : PhysReg → ThreadId → UInt64) (a b : UInt64) : Prop where
  enabled : unit.enabled = true
  operation : inst.op = .intMult ∨ inst.op = .intDiv
  modeClear : ∃ before mode behind, inst.srcs = before ++ mode :: behind ∧
    (∀ src ∈ before, src.arch ≠ .ctMode) ∧ mode.arch = .ctMode ∧ read mode.phys inst.tid = 0
  destination : ∃ dest, inst.dests = [dest] ∧ dest.kind = .int ∧ dest.alwaysReady = false
  operands : ∃ first second, inst.srcs.filter (fun src => src.phys.kind = .int) = [first, second] ∧
    read first.phys inst.tid = a ∧ read second.phys inst.tid = b

variable {unit : Simplifier} {inst : Instruction} {read : PhysReg → ThreadId → UInt64}
  {a b result : UInt64} {identity : Identity}

theorem qualifies_iff :
    unit.Qualifies inst read a b ↔
      (unit.enabled && inst.op.isMultiplyOrDivide) = true ∧
        (∃ mode, inst.ctModeOperand? = some mode ∧ read mode.phys inst.tid = 0) ∧
        ∃ first second, inst.operandPair? = some (first, second) ∧
          read first inst.tid = a ∧ read second inst.tid = b := by
  simp only [Bool.and_eq_true, OpClass.isMultiplyOrDivide_iff,
    Instruction.ctModeOperand?_eq_some_iff, Instruction.operandPair?_eq_some_iff]
  constructor
  · rintro ⟨enabled, operation, ⟨before, mode, behind, split, plain, flag, clear⟩,
      ⟨dest, dests, kind, writable⟩, ⟨first, second, sources, readFirst, readSecond⟩⟩
    refine ⟨⟨enabled, operation⟩, ⟨mode, ⟨flag, before, behind, split, plain⟩, clear⟩,
      first.phys, second.phys, ⟨⟨dest, dests, ?_⟩, first, second, sources, rfl, rfl⟩, readFirst,
      readSecond⟩
    exact dest.isWritableInt_iff.mpr ⟨kind, writable⟩
  · rintro ⟨⟨enabled, operation⟩, ⟨mode, ⟨flag, before, behind, split, plain⟩, clear⟩,
      _, _, ⟨⟨dest, dests, writable⟩, first, second, sources, rfl, rfl⟩, readFirst, readSecond⟩
    exact ⟨enabled, operation, ⟨before, mode, behind, split, plain, flag, clear⟩,
      ⟨dest, dests, dest.isWritableInt_iff.mp writable⟩,
      ⟨first, second, sources, readFirst, readSecond⟩⟩

/-! ## How an attempt ends -/

theorem ofOperands_eq_simplified_iff {op : OpClass} {a' b' : UInt64} :
    Attempt.ofOperands op a' b' = .simplified a b result identity ↔
      a' = a ∧ b' = b ∧ simplify op a b = some (result, identity) := by
  rw [Attempt.ofOperands]
  split
  case h_1 plain =>
      constructor
      · rintro ⟨⟩
      · rintro ⟨rfl, rfl, simplified⟩
        rw [plain] at simplified
        cases simplified
  case h_2 found =>
      constructor
      · rintro ⟨⟩
        exact ⟨rfl, rfl, found⟩
      · rintro ⟨rfl, rfl, simplified⟩
        rw [found] at simplified
        cases simplified
        rfl

theorem ofMode_eq_simplified_iff {flag : UInt64} :
    Attempt.ofMode flag inst read = .simplified a b result identity ↔
      flag = 0 ∧
        (∃ first second, inst.operandPair? = some (first, second) ∧
          read first inst.tid = a ∧ read second inst.tid = b) ∧
        simplify inst.op a b = some (result, identity) := by
  rw [Attempt.ofMode]
  by_cases clear : flag = 0
  · rw [if_neg (not_not.mpr clear)]
    cases shape : inst.operandPair? with
    | none => simp
    | some pair =>
        obtain ⟨first, second⟩ := pair
        simp only [ofOperands_eq_simplified_iff, clear, true_and, Option.some.injEq, Prod.mk.injEq]
        constructor
        · rintro ⟨readFirst, readSecond, simplified⟩
          exact ⟨⟨first, second, ⟨rfl, rfl⟩, readFirst, readSecond⟩, simplified⟩
        · rintro ⟨⟨_, _, ⟨rfl, rfl⟩, readFirst, readSecond⟩, simplified⟩
          exact ⟨readFirst, readSecond, simplified⟩
  · rw [if_pos clear]
    constructor
    · rintro ⟨⟩
    · rintro ⟨zero, -⟩
      exact absurd zero clear

theorem attempt_eq_simplified_iff :
    unit.attempt inst read = .ok (.simplified a b result identity) ↔
      unit.Qualifies inst read a b ∧ simplify inst.op a b = some (result, identity) := by
  rw [qualifies_iff]
  cases on : unit.enabled && inst.op.isMultiplyOrDivide with
  | false => simp [attempt_of_bypassed read on]
  | true =>
      cases found : inst.ctModeOperand? with
      | none => simp [attempt_of_missing read on found]
      | some mode =>
          rw [attempt_of_mode read on found, Except.ok.injEq, ofMode_eq_simplified_iff]
          simp [and_assoc]

/-- Only a multiply or divide without its mode flag is refused. -/
theorem attempt_eq_error_iff {violation : Violation} :
    unit.attempt inst read = .error violation ↔
      violation = .missingCtModeOperand inst.op inst.seq inst.pc ∧
        (unit.enabled && inst.op.isMultiplyOrDivide) = true ∧ inst.ctModeOperand? = none := by
  cases on : unit.enabled && inst.op.isMultiplyOrDivide with
  | false => simp [attempt_of_bypassed read on]
  | true =>
      cases found : inst.ctModeOperand? with
      | none => simp [attempt_of_missing read on found, eq_comm]
      | some mode => simp [attempt_of_mode read on found]

theorem trySimplify_eq_error_iff {violation : Violation} :
    unit.trySimplify inst read = .error violation ↔
      violation = .missingCtModeOperand inst.op inst.seq inst.pc ∧
        (unit.enabled && inst.op.isMultiplyOrDivide) = true ∧ inst.ctModeOperand? = none := by
  rw [← attempt_eq_error_iff, trySimplify_eq_map]
  cases unit.attempt inst read <;> simp [Except.map]

theorem trySimplify_eq_some_iff :
    (∃ after, unit.trySimplify inst read = .ok (some result, after)) ↔
      ∃ a b identity, unit.Qualifies inst read a b ∧
        simplify inst.op a b = some (result, identity) := by
  simp only [← attempt_eq_simplified_iff, trySimplify_eq_map]
  cases unit.attempt inst read with
  | error violation => simp [Except.map]
  | ok attempt =>
      cases attempt <;> simp [Except.map, Attempt.result?]

theorem Qualifies.operands_eq {a' b' : UInt64} (first : unit.Qualifies inst read a b)
    (second : unit.Qualifies inst read a' b') : a = a' ∧ b = b' := by
  obtain ⟨-, -, _, _, shape, rfl, rfl⟩ := qualifies_iff.mp first
  obtain ⟨-, -, _, _, shape', rfl, rfl⟩ := qualifies_iff.mp second
  rw [shape] at shape'
  cases shape'
  exact ⟨rfl, rfl⟩

/--
The unit is sound and complete.  An instruction gets a result exactly when it comes as
far as its operands and they are trivial, and then it is the architectural one.  It is
refused exactly when it is a multiply or divide, the unit is on and no source names the
mode flag.  Otherwise it goes to its functional unit.
-/
theorem trySimplify_sound_and_complete (unit : Simplifier) (inst : Instruction)
    (read : PhysReg → ThreadId → UInt64) :
    ((∃ result after, unit.trySimplify inst read = .ok (some result, after)) ↔
      ∃ a b, unit.Qualifies inst read a b ∧ TrivialOperands inst.op a b) ∧
    (∀ a b result after, unit.Qualifies inst read a b →
      unit.trySimplify inst read = .ok (some result, after) →
        ArchitecturalResult inst.op a b result) ∧
    (∀ violation, unit.trySimplify inst read = .error violation ↔
      violation = .missingCtModeOperand inst.op inst.seq inst.pc ∧
        unit.enabled = true ∧ (inst.op = .intMult ∨ inst.op = .intDiv) ∧
        ∀ src ∈ inst.srcs, src.arch ≠ .ctMode) ∧
    ((∃ after, unit.trySimplify inst read = .ok (none, after)) ↔
      (¬ ∃ a b, unit.Qualifies inst read a b ∧ TrivialOperands inst.op a b) ∧
        ¬ (unit.enabled = true ∧ (inst.op = .intMult ∨ inst.op = .intDiv) ∧
          ∀ src ∈ inst.srcs, src.arch ≠ .ctMode)) := by
  have given : (∃ result after, unit.trySimplify inst read = .ok (some result, after)) ↔
      ∃ a b, unit.Qualifies inst read a b ∧ TrivialOperands inst.op a b := by
    simp only [trySimplify_eq_some_iff, ← isSome_simplify_iff, Option.isSome_iff_exists,
      Prod.exists]
    constructor
    · rintro ⟨result, a, b, identity, qualifies, simplified⟩
      exact ⟨a, b, qualifies, result, identity, simplified⟩
    · rintro ⟨a, b, qualifies, result, identity, simplified⟩
      exact ⟨result, a, b, identity, qualifies, simplified⟩
  have refused (violation : Violation) : unit.trySimplify inst read = .error violation ↔
      violation = .missingCtModeOperand inst.op inst.seq inst.pc ∧
        unit.enabled = true ∧ (inst.op = .intMult ∨ inst.op = .intDiv) ∧
        ∀ src ∈ inst.srcs, src.arch ≠ .ctMode := by
    rw [trySimplify_eq_error_iff, Bool.and_eq_true, OpClass.isMultiplyOrDivide_iff,
      Instruction.ctModeOperand?_eq_none_iff, and_assoc]
  refine ⟨given, ?_, refused, ?_⟩
  · intro a b result after qualifies simplified
    obtain ⟨a', b', identity, qualifies', found⟩ := trySimplify_eq_some_iff.mp ⟨after, simplified⟩
    obtain ⟨rfl, rfl⟩ := qualifies.operands_eq qualifies'
    exact architecturalResult_of_simplify found
  · rw [← given]
    cases settled : unit.trySimplify inst read with
    | error violation =>
        have missing := (refused violation).mp settled
        simp only [reduceCtorEq, exists_false, not_false_eq_true, true_and, false_iff, not_not]
        exact missing.2
    | ok answer =>
        obtain ⟨result?, after⟩ := answer
        cases result? with
        | some result => simp
        | none =>
            simp only [Except.ok.injEq, Prod.mk.injEq, true_and, exists_eq', reduceCtorEq,
              false_and, exists_false, not_false_eq_true, true_iff]
            intro missing
            have impossible := (refused _).mpr ⟨rfl, missing⟩
            rw [settled] at impossible
            cases impossible

/-- A negative dividend divided by one, between a float operand and a second, set mode flag. -/
theorem trySimplify_sound_and_complete_at_negative_dividend :
    let divide : Instruction :=
      { seq := 8
        pc := 256
        tid := 1
        op := .intDiv
        srcs := [⟨.int 3, { kind := .int, index := 0 }⟩,
          ⟨.ctMode, { kind := .condCode, index := 0 }⟩,
          ⟨⟨.float, 2⟩, { kind := .float, index := 0 }⟩,
          ⟨.int 5, { kind := .int, index := 1 }⟩,
          ⟨.ctMode, { kind := .condCode, index := 1 }⟩]
        dests := [{ kind := .int, index := 2 }] }
    let read (reg : PhysReg) (tid : ThreadId) : UInt64 :=
      if tid = 1 ∧ reg = { kind := .int, index := 0 } then -7
      else if tid = 1 ∧ reg = { kind := .condCode, index := 0 } then 0
      else 1
    let unit : Simplifier := ⟨true, {}⟩
    let after : Simplifier := ⟨true, { simplified := 1, candidates := 1, divByOne := 1 }⟩
    unit.Qualifies divide read (-7) 1 ∧
      unit.trySimplify divide read = .ok (some (-7), after) ∧
      ArchitecturalResult .intDiv (-7) 1 (-7) ∧
      (-7 : UInt64).toInt64.toInt = -7 := by
  intro divide read unit after
  have qualifies : unit.Qualifies divide read (-7) 1 := by
    rw [qualifies_iff]
    refine ⟨rfl, ⟨_, rfl, ?_⟩, _, _, rfl, ?_, ?_⟩ <;> decide
  have simplified : unit.trySimplify divide read = .ok (some (-7), after) := by rfl
  obtain ⟨-, sound, -⟩ := trySimplify_sound_and_complete unit divide read
  exact ⟨qualifies, simplified, sound (-7) 1 (-7) after qualifies simplified, by decide⟩

end Simplifier

end EarlyResolution
