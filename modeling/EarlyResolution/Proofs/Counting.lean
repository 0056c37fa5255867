import EarlyResolution.Proofs.Replay.Issue

/-!
# Counts add up

Counters are added field by field, and what an operation counts does not depend
on what was counted before.  So every operation adds a fixed amount, and the
order in which amounts are added does not matter.
-/

namespace EarlyResolution

attribute [ext] LoadCounters SimplifyCounters

namespace LoadCounters

instance : Add LoadCounters where
  add first second :=
    { predictions := first.predictions + second.predictions
      correct := first.correct + second.correct
      incorrect := first.incorrect + second.incorrect
      notConfident := first.notConfident + second.notConfident
      squashes := first.squashes + second.squashes }

instance : Zero LoadCounters where
  zero := {}

protected theorem add_zero (counters : LoadCounters) : counters + 0 = counters :=
  rfl

protected theorem add_right_comm (counters first second : LoadCounters) :
    counters + first + second = counters + second + first := by
  ext <;> exact Nat.add_right_comm _ _ _

theorem addLookup_eq_add (counters : LoadCounters) (answer : Lookup) :
    counters.addLookup answer = counters + addLookup 0 answer := by
  cases answer <;> rfl

theorem addCheck_eq_add (counters : LoadCounters) (verdict : Check) :
    counters.addCheck verdict = counters + addCheck 0 verdict := by
  cases verdict <;> rfl

end LoadCounters

namespace SimplifyCounters

instance : Add SimplifyCounters where
  add first second :=
    { simplified := first.simplified + second.simplified
      candidates := first.candidates + second.candidates
      multByZero := first.multByZero + second.multByZero
      multByOne := first.multByOne + second.multByOne
      divOfZero := first.divOfZero + second.divOfZero
      divByOne := first.divByOne + second.divByOne
      ctSuppressed := first.ctSuppressed + second.ctSuppressed }

instance : Zero SimplifyCounters where
  zero := {}

protected theorem add_zero (counters : SimplifyCounters) : counters + 0 = counters :=
  rfl

protected theorem add_right_comm (counters first second : SimplifyCounters) :
    counters + first + second = counters + second + first := by
  ext <;> exact Nat.add_right_comm _ _ _

end SimplifyCounters

/-- An instruction gets its result without regard to the counters. -/
theorem Issue.effect_fst (issue : Issue) (enabled : Bool) (counters : SimplifyCounters) :
    (issue.effect enabled counters).1 = (issue.effect enabled {}).1 := by
  unfold effect
  split
  · rfl
  split
  · rfl
  cases issue.operands? with
  | none => rfl
  | some operands =>
      obtain ⟨a, b⟩ := operands
      dsimp only
      cases simplify issue.op a b with
      | none => rfl
      | some found =>
          obtain ⟨result, identity⟩ := found
          cases identity <;> rfl

/-- An issued instruction adds the same to any counters. -/
theorem Issue.effect_snd (issue : Issue) (enabled : Bool) (counters : SimplifyCounters) :
    (issue.effect enabled counters).2 = counters + (issue.effect enabled 0).2 := by
  unfold effect
  split
  · rfl
  split
  · rfl
  cases issue.operands? with
  | none => rfl
  | some operands =>
      obtain ⟨a, b⟩ := operands
      dsimp only
      cases simplify issue.op a b with
      | none => rfl
      | some found =>
          obtain ⟨result, identity⟩ := found
          cases identity <;> rfl

end EarlyResolution
