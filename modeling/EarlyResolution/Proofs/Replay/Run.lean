import EarlyResolution.Replay.Replayer

/-!
# Runs of the replayer

A run is stepped through to its end, also behind violations.  It leaves a state,
`after`, and a log of its events with what came of each.  Both split where the
list of events splits, so a fact about one step lifts to a run by induction.
-/

namespace EarlyResolution

/-- What a step gives: an outcome, or the violation that it raised. -/
abbrev Result := Except Violation Outcome

namespace Replayer

@[simp] theorem step_fst (replayer : Replayer) (event : Event) :
    (replayer.step event).1 = (replayer.units.react event).1 := by
  unfold step
  split <;> simp_all

@[simp] theorem units_step (replayer : Replayer) (event : Event) :
    (replayer.step event).2.units = (replayer.units.react event).2 := by
  unfold step
  split <;> simp_all

def after (replayer : Replayer) (events : List Event) : Replayer :=
  (replayer.stepAll events).2

def log (replayer : Replayer) (events : List Event) : List (Event × Result) :=
  events.zip (replayer.stepAll events).1

@[simp] theorem after_nil (replayer : Replayer) : replayer.after [] = replayer :=
  rfl

@[simp] theorem after_cons (replayer : Replayer) (event : Event) (events : List Event) :
    replayer.after (event :: events) = (replayer.step event).2.after events :=
  rfl

theorem after_append (replayer : Replayer) (first second : List Event) :
    replayer.after (first ++ second) = (replayer.after first).after second := by
  induction first generalizing replayer with
  | nil => rfl
  | cons event events ih => exact ih _

@[simp] theorem log_nil (replayer : Replayer) : replayer.log [] = [] :=
  rfl

@[simp] theorem log_cons (replayer : Replayer) (event : Event) (events : List Event) :
    replayer.log (event :: events) =
      (event, (replayer.step event).1) :: (replayer.step event).2.log events :=
  rfl

theorem log_append (replayer : Replayer) (first second : List Event) :
    replayer.log (first ++ second) =
      replayer.log first ++ (replayer.after first).log second := by
  induction first generalizing replayer with
  | nil => rfl
  | cons event events ih => exact congrArg (_ :: ·) (ih _)

theorem after_concat (replayer : Replayer) (events : List Event) (last : Event) :
    replayer.after (events ++ [last]) = ((replayer.after events).step last).2 :=
  replayer.after_append events [last]

theorem log_concat (replayer : Replayer) (events : List Event) (last : Event) :
    replayer.log (events ++ [last]) =
      replayer.log events ++ [(last, ((replayer.after events).step last).1)] :=
  replayer.log_append events [last]

end Replayer

end EarlyResolution
