import EarlyResolution.Prediction.Notes
import EarlyResolution.Replay.Replayer
import EarlyResolution.Simplification.Notes

/-!
# What a replay notes

A replay passes on what the units note at each event, in order.  A run that
comes to its end adds a line with its totals.
-/

namespace EarlyResolution

namespace Units

def reactNotes (units : Units) : Event → List Note
  | .dispatchLoad _ pc tid => units.predictor.dispatchNotes pc tid
  | .writebackLoad seq tid value =>
      units.predictor.validateNotes seq value ++
        if (units.predictor.check seq value).passes then []
        else units.predictor.squashNotes seq tid
  | .commitLoad _ pc _ value => units.predictor.updateNotes pc value
  | .squash seq tid => units.predictor.squashNotes seq tid
  | .issue issue =>
      match issue.violation? with
      | some _ => []
      | none =>
          let (inst, registers) := units.registers.rename issue
          units.simplifier.trySimplifyNotes inst registers.read

end Units

def Report.note (report : Report) : Note :=
  ⟨.info, "replay", s!"replay finished events={report.events} " ++
    s!"loads_predicted={report.loadsPredicted} " ++
    s!"value_squashes={report.valueSquashes} simplified={report.simplified}"⟩

/-- The notes of a run, up to the event that stops it or to its totals. -/
def Replayer.runNotes (replayer : Replayer) : List Event → List Note
  | [] => [replayer.report.note]
  | event :: events =>
      replayer.units.reactNotes event ++
        match replayer.step event with
        | (.error _, _) => []
        | (.ok _, after) => after.runNotes events

end EarlyResolution
