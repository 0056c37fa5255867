import EarlyResolution.Prediction.Predictor
import EarlyResolution.Replay.Rename
import EarlyResolution.Simplification.Simplifier

/-!
# Trace replay

The replayer drives both units the way an out-of-order pipeline would.  Dispatch
predicts and records; writeback validates and squashes what is younger than a
mispredicted load; commit trains the table and retires the record; issue renames
the operands and tries to simplify.

A step always leaves a state, also when it raises a violation: then the event is
counted and nothing else is changed.
-/

namespace EarlyResolution

inductive Outcome where
  | predicted (value : UInt64)
  | notPredicted
  | validated
  | mispredicted
  | committed
  | squashed
  | simplified (value : UInt64)
  | notSimplified
  deriving DecidableEq, Repr

structure Report where
  events : Nat := 0
  loadsPredicted : Nat := 0
  valueSquashes : Nat := 0
  simplified : Nat := 0
  deriving DecidableEq, Repr

def Report.addEvent (report : Report) : Report :=
  { report with events := report.events + 1 }

def Report.addOutcome (report : Report) : Outcome → Report
  | .predicted _ => { report with loadsPredicted := report.loadsPredicted + 1 }
  | .mispredicted => { report with valueSquashes := report.valueSquashes + 1 }
  | .simplified _ => { report with simplified := report.simplified + 1 }
  | .notPredicted | .validated | .committed | .squashed | .notSimplified => report

structure Units where
  predictor : Predictor
  simplifier : Simplifier
  registers : RegisterFile := {}

namespace Units

def ofConfig (config : Config) : Except ConfigError Units := do
  return { predictor := ← Predictor.ofConfig config, simplifier := ⟨config.simplifier.enabled, {}⟩ }

def counters (units : Units) : Counters :=
  ⟨units.predictor.counters, units.simplifier.counters⟩

/--
What an event does to the units.  A violation leaves them as they were; only an
instruction that issues without its mode flag would have its registers taken.
-/
def react (units : Units) : Event → Except Violation Outcome × Units
  | .dispatchLoad seq pc tid =>
      match units.predictor.dispatch seq pc tid with
      | (.error violation, predictor) => (.error violation, { units with predictor })
      | (.ok (some value), predictor) => (.ok (.predicted value), { units with predictor })
      | (.ok none, predictor) => (.ok .notPredicted, { units with predictor })
  | .writebackLoad seq tid value =>
      match units.predictor.validate seq value with
      | (true, predictor) => (.ok .validated, { units with predictor })
      | (false, predictor) =>
          (.ok .mispredicted, { units with predictor := predictor.squash seq tid })
  | .commitLoad seq pc tid value =>
      (.ok .committed,
        { units with predictor := (units.predictor.update pc value).retire seq tid })
  | .squash seq tid =>
      (.ok .squashed, { units with predictor := units.predictor.squash seq tid })
  | .issue issue =>
      match issue.violation? with
      | some violation => (.error violation, units)
      | none =>
          let (inst, registers) := units.registers.rename issue
          match units.simplifier.trySimplify inst registers.read with
          | .error violation => (.error violation, { units with registers })
          | .ok (some value, simplifier) =>
              (.ok (.simplified value), { units with simplifier, registers })
          | .ok (none, simplifier) =>
              (.ok .notSimplified, { units with simplifier, registers })

end Units

structure Replayer where
  units : Units
  report : Report := {}

namespace Replayer

def ofConfig (config : Config) : Except ConfigError Replayer :=
  return { units := ← Units.ofConfig config }

def counters (replayer : Replayer) : Counters :=
  replayer.units.counters

def step (replayer : Replayer) (event : Event) : Except Violation Outcome × Replayer :=
  let report := replayer.report.addEvent
  match replayer.units.react event with
  | (.error violation, units) => (.error violation, { units, report })
  | (.ok outcome, units) => (.ok outcome, { units, report := report.addOutcome outcome })

/-- Replays events in order and stops behind the first that raises a violation. -/
def run (replayer : Replayer) : List Event → Except Violation Report × Replayer
  | [] => (.ok replayer.report, replayer)
  | event :: events =>
      match replayer.step event with
      | (.error violation, after) => (.error violation, after)
      | (.ok _, after) => after.run events

/-- The results of stepping through all events, also behind a violation, and the last state. -/
def stepAll (replayer : Replayer) : List Event → List (Except Violation Outcome) × Replayer
  | [] => ([], replayer)
  | event :: events =>
      let (result, after) := replayer.step event
      let (results, last) := after.stepAll events
      (result :: results, last)

@[simp] theorem run_nil (replayer : Replayer) :
    replayer.run [] = (.ok replayer.report, replayer) :=
  rfl

/-- Running two traces is running the first and, unless it stopped, the second. -/
theorem run_append (replayer : Replayer) (first second : List Event) :
    replayer.run (first ++ second) =
      match replayer.run first with
      | (.error violation, after) => (.error violation, after)
      | (.ok _, after) => after.run second := by
  induction first generalizing replayer with
  | nil => rfl
  | cons event events ih =>
      simp only [List.cons_append, run]
      split
      · rfl
      · exact ih _

end Replayer

end EarlyResolution
