import Mathlib.Data.List.Perm.Subperm
import EarlyResolution.Proofs.Replay.Lifecycle
import EarlyResolution.Proofs.Replay.Reconciliation

/-!
# Accuracy is a true fraction

A load is only checked against a record, and a record is only kept for a load that
was handed a value.  A record outlives the check of its load, and a load is looked
for among the records of all threads, so one prediction can be checked again and
again.  But where no load is written back twice, the loads checked are different
loads, each with a prediction of its own.  Which records were squashed or retired in
between, rightly or not, does not matter.
-/

namespace EarlyResolution

def Event.written? : Event → Option UInt64
  | .writebackLoad seq _ _ => some seq
  | .dispatchLoad _ _ _ | .commitLoad _ _ _ _ | .squash _ _ | .issue _ => none

/-! ## The loads that were predicted -/

def predictedLoads (log : List (Event × Result)) : List UInt64 :=
  (log.filterMap InFlight.startedBy).map InFlight.seq

theorem predictedLoads_append (log log' : List (Event × Result)) :
    predictedLoads (log ++ log') = predictedLoads log ++ predictedLoads log' := by
  rw [predictedLoads, List.filterMap_append, List.map_append]
  rfl

theorem length_predictedLoads_le (log : List (Event × Result)) :
    (predictedLoads log).length ≤ log.countP fun entry => entry.2.isPredicted := by
  rw [predictedLoads, List.length_map, List.length_filterMap_eq_countP]
  refine List.countP_mono_left fun entry _ started => ?_
  obtain ⟨load, started⟩ := Option.isSome_iff_exists.mp started
  unfold InFlight.startedBy at started
  split at started
  · rfl
  · cases started

/-- Every load with a record in flight has been predicted. -/
theorem Replayer.seq_mem_predictedLoads {start : Replayer}
    (blank : ∀ tid, start.units.predictor.inFlight tid = []) {trace : List Event} {tid : ThreadId}
    {load : InFlight} (member : load ∈ (start.after trace).units.predictor.inFlight tid) :
    load.seq ∈ predictedLoads (start.log trace) := by
  induction trace using List.reverseRecOn with
  | nil =>
      rw [after_nil, blank tid] at member
      cases member
  | append_singleton trace event ih =>
      rw [after_concat, units_step] at member
      rw [log_concat, predictedLoads_append, step_fst, List.mem_append]
      rcases Units.mem_inFlight_react _ member with old | ⟨-, rfl, predicted⟩
      · exact .inl (ih old)
      · rw [predicted]
        exact .inr List.mem_cons_self

/-! ## The loads that were checked -/

/-- Only a writeback counts a check, and only for a load with a record. -/
theorem Units.exists_recorded_of_checked (units : Units) {event : Event}
    (counted : (units.reaction event).loads.correct + (units.reaction event).loads.incorrect ≠ 0) :
    ∃ seq load, event.written? = some seq ∧ units.predictor.recorded? seq = some load := by
  cases event with
  | writebackLoad seq tid actual =>
      cases found : units.predictor.recorded? seq with
      | none =>
          rw [reaction, Reaction.ofCheck, Predictor.check, found] at counted
          exact absurd rfl counted
      | some load => exact ⟨seq, load, rfl, found⟩
  | dispatchLoad seq pc tid =>
      rw [reaction] at counted
      split at counted
      · rw [Reaction.ofLookup] at counted
        cases answer : units.predictor.lookup pc <;> rw [answer] at counted <;>
          exact absurd rfl counted
      · exact absurd rfl counted
  | commitLoad seq pc tid value => exact absurd rfl counted
  | squash point tid => exact absurd rfl counted
  | issue issue =>
      rw [reaction] at counted
      split at counted
      · exact absurd rfl counted
      · exact absurd rfl counted

namespace Replayer

variable {config : Config} {start : Replayer}

/-- No more loads are checked than predicted loads are written back. -/
theorem checks_le_countP_written (made : Replayer.ofConfig config = .ok start)
    (trace : List Event) :
    let loads := (start.after trace).counters.loads
    loads.correct + loads.incorrect ≤
      (trace.filterMap Event.written?).countP (· ∈ predictedLoads (start.log trace)) := by
  induction trace using List.reverseRecOn with
  | nil =>
      obtain ⟨-, usable, rfl⟩ := ofConfig_eq_ok_iff.mp made
      exact Nat.le_refl _
  | append_singleton trace event ih =>
      let now := start.after trace
      let amount := (now.units.reaction event).loads
      have single : amount.correct + amount.incorrect ≤ 1 := (now.units.loads_reaction event).checks
      have grown (written : List UInt64) :
          written.countP (· ∈ predictedLoads (start.log trace)) ≤
            written.countP (· ∈ predictedLoads (start.log (trace ++ [event]))) := by
        refine List.countP_mono_left fun seq _ early => ?_
        rw [log_concat, predictedLoads_append]
        exact decide_eq_true (List.mem_append_left _ (of_decide_eq_true early))
      rw [after_concat, counters_step, List.filterMap_append, List.countP_append]
      change now.counters.loads.correct + amount.correct +
        (now.counters.loads.incorrect + amount.incorrect) ≤ _
      rw [Nat.add_add_add_comm]
      refine Nat.add_le_add (Nat.le_trans ih (grown _)) ?_
      -- An event that counts a check writes back a load that was predicted in front of it.
      by_cases counted : amount.correct + amount.incorrect = 0
      · rw [counted]
        exact Nat.zero_le _
      · obtain ⟨seq, load, written, found⟩ := now.units.exists_recorded_of_checked counted
        obtain ⟨member, same, -⟩ := Predictor.mem_of_recorded? found
        have few := threads_le_of_ofConfig made
        obtain ⟨tid, inside⟩ := (mem_allRecords_after_iff few).mp member
        have early := seq_mem_predictedLoads (inFlight_of_ofConfig made) inside
        have predicted : seq ∈ predictedLoads (start.log (trace ++ [event])) := by
          rw [log_concat, predictedLoads_append, ← same]
          exact List.mem_append_left _ early
        rw [List.filterMap_cons_some written, List.filterMap_nil, List.countP_singleton,
          if_pos (decide_eq_true predicted)]
        exact single

/--
Accuracy is a true fraction.  Along a trace that writes back no load twice, whatever
else it does in whatever order and on whatever threads, no more predictions have been
confirmed and refuted than have been made.  A load may even be dispatched more than
once.
-/
theorem checks_le_predictions (made : Replayer.ofConfig config = .ok start) {trace : List Event}
    (once : (trace.filterMap Event.written?).Nodup) {past : List Event} (reached : past <+: trace) :
    let loads := (start.after past).counters.loads
    loads.correct + loads.incorrect ≤ loads.predictions := by
  intro loads
  let written := past.filterMap Event.written?
  let predicted := predictedLoads (start.log past)
  have distinct : (written.filter (· ∈ predicted)).Nodup :=
    (once.sublist (reached.sublist.filterMap _)).filter _
  have among : written.filter (· ∈ predicted) ⊆ predicted := by
    intro seq member
    exact of_decide_eq_true (List.mem_filter.mp member).2
  calc loads.correct + loads.incorrect
    _ ≤ written.countP (· ∈ predicted) := checks_le_countP_written made past
    _ = (written.filter (· ∈ predicted)).length := List.countP_eq_length_filter
    _ ≤ predicted.length := (List.subperm_of_subset distinct among).length_le
    _ ≤ (start.log past).countP fun entry => entry.2.isPredicted := length_predictedLoads_le _
    _ = loads.predictions := (tells_after made past).2.1.predictions.symm

/-- Both predictions are checked, one of them by a writeback that names another thread. -/
theorem checks_le_predictions_across_threads :
    ∃ start,
      let config : Config :=
        { general := { threads := 2 }
          predictor := { enabled := true, tableSize := 4, threshold := 0 } }
      let trace : List Event := [.commitLoad 1 256 0 5, .dispatchLoad 2 256 0,
        .dispatchLoad 3 256 1, .writebackLoad 3 0 6, .squash 1 1, .writebackLoad 2 0 5,
        .writebackLoad 4 0 7]
      let loads := (start.after trace).counters.loads
      Replayer.ofConfig config = .ok start ∧
        (trace.filterMap Event.written?).Nodup ∧
        loads = { predictions := 2, correct := 1, incorrect := 1, squashes := 1 } ∧
        loads.correct + loads.incorrect ≤ loads.predictions := by
  let settings : PredictorConfig := { enabled := true, tableSize := 4, threshold := 0 }
  let start : Replayer :=
    { units := { predictor := .fresh settings (by decide) 2, simplifier := ⟨false, {}⟩ } }
  refine ⟨start, ?_⟩
  intro config trace loads
  have made : Replayer.ofConfig config = .ok start :=
    Replayer.ofConfig_eq_ok_iff.mpr ⟨by decide, by decide, rfl⟩
  have once : (trace.filterMap Event.written?).Nodup := by decide
  exact ⟨made, once, by decide +kernel, checks_le_predictions made once List.prefix_rfl⟩

end Replayer

end EarlyResolution
