import Mathlib.Data.List.Forall2
import EarlyResolution.Proofs.Construction
import EarlyResolution.Proofs.Replay.Reactions

/-!
# Constant-time mode leaks no operands

An instruction that issues in constant-time mode is set aside before any of its
operands is looked at.  Two traces that differ only in the operands of such
instructions leave different registers behind, and rename stands at different
places from then on.  But registers stay out of sight, so the two runs come to the
same at every event.
-/

namespace EarlyResolution

/-- The same event, up to the operands of an instruction that issues in constant-time mode. -/
inductive Event.Alike : Event → Event → Prop where
  | refl (event : Event) : Alike event event
  | operands (issue : Issue) (srcs : List UInt64) (constantTime : issue.ctMode = true) :
      Alike (.issue issue) (.issue { issue with srcs })

theorem Issue.effect_of_ctMode {issue : Issue} (constantTime : issue.ctMode = true)
    (srcs : List UInt64) (enabled : Bool) (counters : SimplifyCounters) :
    effect { issue with srcs } enabled counters = issue.effect enabled counters := by
  unfold effect
  rw [constantTime]
  rfl

namespace Event.Alike

variable {event event' : Event}

theorem tid_eq (alike : Alike event event') : event.tid = event'.tid := by
  cases alike <;> rfl

theorem update?_eq (alike : Alike event event') : event.update? = event'.update? := by
  cases alike <;> rfl

theorem reaction_eq (alike : Alike event event') (units : Units) :
    units.reaction event = units.reaction event' := by
  cases alike with
  | refl => rfl
  | operands issue srcs constantTime =>
      have same (enabled : Bool) :
          Reaction.ofIssue { issue with srcs } enabled = .ofIssue issue enabled := by
        rw [Reaction.ofIssue, Issue.effect_of_ctMode constantTime]
        rfl
      simp only [Units.reaction, same]

end Event.Alike

namespace Replayer

/-- Traces alike leave replayers alike that are alike but for registers. -/
theorem stepAll_eq_of_alike {replayer other : Replayer} (same : replayer.visible = other.visible)
    {first second : List Event} (alike : List.Forall₂ Event.Alike first second) :
    (replayer.stepAll first).1 = (other.stepAll second).1 ∧
      (replayer.after first).visible = (other.after second).visible := by
  induction alike generalizing replayer other with
  | nil => exact ⟨rfl, same⟩
  | cons event events ih =>
      obtain ⟨result, next⟩ := step_congr same event.tid_eq event.update?_eq (event.reaction_eq _)
      obtain ⟨results, last⟩ := ih next
      exact ⟨congrArg₂ List.cons result results, last⟩

/--
Constant-time mode leaks nothing.  Traces that agree but for the operands of
instructions in constant-time mode, however many there are, come to the same at
every event, and leave the same report, counters, table and records behind every
event.
-/
theorem constantTime_leaks_nothing (start : Replayer) {first second : List Event}
    (alike : List.Forall₂ Event.Alike first second) :
    (start.stepAll first).1 = (start.stepAll second).1 ∧
      ∀ n,
        let one := start.after (first.take n)
        let other := start.after (second.take n)
        one.report = other.report ∧ one.counters = other.counters ∧
          one.units.predictor.table = other.units.predictor.table ∧
          one.units.predictor.histories = other.units.predictor.histories := by
  refine ⟨(stepAll_eq_of_alike rfl alike).1, fun n => ?_⟩
  intro one other
  have same : one.visible = other.visible :=
    (stepAll_eq_of_alike rfl (List.forall₂_take n alike)).2
  obtain ⟨units, report⟩ := visible_eq_iff.mp same
  refine ⟨report, ?_, ?_, ?_⟩
  · exact congrArg (fun units => units.counters) units
  · exact congrArg (fun units => units.predictor.table) units
  · exact congrArg (fun units => units.predictor.histories) units

/-- A secret multiply, with one operand or with two, in front of a public one. -/
theorem constantTime_leaks_nothing_before_multiply :
    ∃ start,
      let secret (srcs : List UInt64) : Event :=
        .issue { seq := 1, pc := 256, op := .intMult, srcs, ctMode := true }
      let shown : Event := .issue { seq := 2, pc := 260, op := .intMult, srcs := [0, 17] }
      Replayer.ofConfig { simplifier := { enabled := true } } = .ok start ∧
        List.Forall₂ Event.Alike [secret [0, 17], shown] [secret [3], shown] ∧
        (start.stepAll [secret [3], shown]).1 = [.ok .notSimplified, .ok (.simplified 0)] ∧
        (start.stepAll [secret [0, 17], shown]).1 = [.ok .notSimplified, .ok (.simplified 0)] := by
  let start : Replayer :=
    { units := { predictor := .fresh {} (by decide) 4, simplifier := ⟨true, {}⟩ } }
  refine ⟨start, ?_⟩
  intro secret shown
  have alike : List.Forall₂ Event.Alike [secret [0, 17], shown] [secret [3], shown] :=
    .cons (.operands _ [3] rfl) (.cons (.refl _) .nil)
  have results : (start.stepAll [secret [3], shown]).1 =
      [.ok .notSimplified, .ok (.simplified 0)] := by
    simp only [stepAll, step_fst, units_step, secret, shown, Units.react_issue]
    decide
  refine ⟨Replayer.ofConfig_eq_ok_iff.mpr ⟨by decide, by decide, rfl⟩, alike, results, ?_⟩
  rw [(constantTime_leaks_nothing start alike).1, results]

end Replayer

end EarlyResolution
