import EarlyResolution.Proofs.Construction
import EarlyResolution.Proofs.Replay.Lifecycle
import EarlyResolution.Proofs.Replay.Reactions

/-!
# What a thread sees of the others

Threads share the table, so a thread sees what the others commit.  Of their
dispatches, writebacks and squashes it sees nothing but through one gap: a writeback
looks for its load among the records of all threads, and a record of another thread
with the same number will do.  Where no writeback of a thread falls into the gap,
the thread goes on as if the others had only committed.
-/

namespace EarlyResolution

namespace Event

/-- All but the dispatches, writebacks and squashes of other threads. -/
def concerns (thread : ThreadId) : Event → Bool
  | .dispatchLoad _ _ tid | .writebackLoad _ tid _ | .squash _ tid => tid == thread
  | .commitLoad _ _ _ _ | .issue _ => true

theorem foreign_of_concerns_eq_false {thread : ThreadId} {event : Event}
    (foreign : event.concerns thread = false) : event.tid ≠ thread ∧ event.update? = none := by
  cases event with
  | dispatchLoad seq pc tid => exact ⟨ne_of_beq_false foreign, rfl⟩
  | writebackLoad seq tid value => exact ⟨ne_of_beq_false foreign, rfl⟩
  | squash point tid => exact ⟨ne_of_beq_false foreign, rfl⟩
  | commitLoad seq pc tid value => cases foreign
  | issue issue => cases foreign

end Event

namespace Units

/-- Units alike in all that a thread sees: the settings, the table and its own records. -/
structure Akin (thread : ThreadId) (units other : Units) : Prop where
  enabled : units.predictor.enabled = other.predictor.enabled
  threshold : units.predictor.threshold = other.predictor.threshold
  table : units.predictor.table = other.predictor.table
  threads : units.predictor.threads = other.predictor.threads
  history : units.predictor.histories[thread.toNat]? = other.predictor.histories[thread.toNat]?
  simplifies : units.simplifier.enabled = other.simplifier.enabled

namespace Akin

variable {thread : ThreadId} {units other : Units}

theorem refl (thread : ThreadId) (units : Units) : Akin thread units units :=
  ⟨rfl, rfl, rfl, rfl, rfl, rfl⟩

theorem inFlight_eq (akin : Akin thread units other) :
    units.predictor.inFlight thread = other.predictor.inFlight thread := by
  rw [Predictor.inFlight, Predictor.inFlight, akin.history]

theorem lookup_eq (akin : Akin thread units other) (pc : UInt64) :
    units.predictor.lookup pc = other.predictor.lookup pc := by
  unfold Predictor.lookup Predictor.entry
  rw [akin.enabled, akin.threshold, akin.table]

theorem of_visible {units' other' : Units} (same : units.visible = units'.visible)
    (same' : other.visible = other'.visible) (akin : Akin thread units' other') :
    Akin thread units other := by
  have seen : Akin thread units'.visible other'.visible := { akin with }
  rw [← same, ← same'] at seen
  exact { seen with }

/-- The thread does not see an event that does not concern it. -/
theorem react_foreign (akin : Akin thread units other) {event : Event}
    (foreign : event.concerns thread = false) : Akin thread (units.react event).2 other := by
  obtain ⟨apart, untrained⟩ := Event.foreign_of_concerns_eq_false foreign
  have slots : event.tid.toNat ≠ thread.toNat := fun same => apart (UInt64.toNat_inj.mp same)
  refine of_visible (units.react_eq_absorb event).2 rfl ?_
  exact {
    enabled := akin.enabled
    threshold := akin.threshold
    table := by
      rw [absorb, untrained]
      exact akin.table
    threads := (units.predictor.threads_modifyHistory _ _).trans akin.threads
    history := (List.getElem?_modify_ne _ _ slots).trans akin.history
    simplifies := akin.simplifies }

/-- Any event with one reaction leaves the same to be seen. -/
theorem react (akin : Akin thread units other) {event : Event}
    (reaction : units.reaction event = other.reaction event) :
    Akin thread (units.react event).2 (other.react event).2 := by
  refine of_visible (units.react_eq_absorb event).2 (other.react_eq_absorb event).2 ?_
  rw [reaction]
  exact {
    enabled := akin.enabled
    threshold := akin.threshold
    table := congrArg (·.trainAll event.update?.toList) akin.table
    threads := by
      change (units.predictor.modifyHistory _ _).threads = (other.predictor.modifyHistory _ _).threads
      rw [Predictor.threads_modifyHistory, Predictor.threads_modifyHistory, akin.threads]
    history := by
      rw [absorb, absorb, Predictor.modifyHistory, Predictor.modifyHistory, List.getElem?_modify,
        List.getElem?_modify, akin.history]
    simplifies := akin.simplifies }

end Akin

end Units

namespace Replayer

variable {config : Config} {start : Replayer} {thread : ThreadId} {trace : List Event}

/-- No load of the thread that is written back finds a record of another thread. -/
def ChecksOwn (start : Replayer) (thread : ThreadId) (trace : List Event) : Prop :=
  ∀ past seq value future, trace = past ++ .writebackLoad seq thread value :: future →
    ∀ record, (start.after past).units.predictor.recorded? seq = some record →
      record.tid = thread

theorem ChecksOwn.past {past future : List Event} (own : ChecksOwn start thread (past ++ future)) :
    ChecksOwn start thread past := by
  intro earlier seq value rest split
  apply own earlier seq value (rest ++ future)
  rw [split, List.append_assoc, List.cons_append]

/-- Where no other thread dispatches the loads that a thread writes back, none finds their
record. -/
theorem checksOwn_of_alone (made : Replayer.ofConfig config = .ok start)
    (alone : ∀ seq value pc tid, .writebackLoad seq thread value ∈ trace →
      .dispatchLoad seq pc tid ∈ trace → tid = thread) :
    ChecksOwn start thread trace := by
  rintro past seq value future rfl record found
  refine tid_eq_of_recorded?_after (inFlight_of_ofConfig made) (threads_le_of_ofConfig made)
    (fun pc tid dispatched => ?_) found
  exact alone seq value pc tid (by simp) (List.mem_append_left _ dispatched)

/-- An event that concerns a thread meets the same reaction with and without the foreign ones. -/
theorem reaction_filter_eq (made : Replayer.ofConfig config = .ok start) {event : Event}
    (own : ChecksOwn start thread (trace ++ [event]))
    (akin : Units.Akin thread (start.after trace).units
      (start.after (trace.filter (Event.concerns thread))).units)
    (concerned : event.concerns thread = true) :
    (start.after trace).units.reaction event =
      (start.after (trace.filter (Event.concerns thread))).units.reaction event := by
  have blank := inFlight_of_ofConfig made
  have few := threads_le_of_ofConfig made
  refine Units.reaction_eq_of_reads akin.threads (fun _ pc _ _ => akin.lookup_eq pc) ?_
    akin.simplifies
  rintro seq tid actual rfl
  obtain rfl : tid = thread := eq_of_beq concerned
  have here := recorded?_after_eq_find? blank few (own trace seq actual [] rfl)
  -- Without the foreign events every record is one of the thread.
  have alone : ∀ pc other, .dispatchLoad seq pc other ∈ trace.filter (Event.concerns tid) →
      other = tid := by
    intro pc other dispatched
    exact eq_of_beq (List.mem_filter.mp dispatched).2
  have there := recorded?_after_eq_find? blank few fun _ => tid_eq_of_recorded?_after blank few alone
  rw [here, there, akin.inFlight_eq]

/-- A thread that checks its own loads goes on as if the foreign events had not been. -/
theorem akin_after_filter (made : Replayer.ofConfig config = .ok start)
    (own : ChecksOwn start thread trace) :
    Units.Akin thread (start.after trace).units
        (start.after (trace.filter (Event.concerns thread))).units ∧
      ((start.log trace).filter fun entry => entry.1.concerns thread) =
        start.log (trace.filter (Event.concerns thread)) := by
  induction trace using List.reverseRecOn with
  | nil => exact ⟨.refl thread _, rfl⟩
  | append_singleton trace event ih =>
      obtain ⟨akin, log⟩ := ih own.past
      rw [after_concat, log_concat, List.filter_append, List.filter_append, log, units_step]
      cases concerned : event.concerns thread with
      | false =>
          rw [show [event].filter (Event.concerns thread) = [] by simp [concerned],
            List.filter_singleton, concerned, List.append_nil]
          exact ⟨akin.react_foreign concerned, List.append_nil _⟩
      | true =>
          have reaction := reaction_filter_eq made own akin concerned
          rw [show [event].filter (Event.concerns thread) = [event] by simp [concerned],
            List.filter_singleton, concerned, after_concat, log_concat, units_step,
            step_fst_eq_result, step_fst_eq_result, reaction]
          exact ⟨akin.react reaction, rfl⟩

/--
Threads are isolated but for the table.  A thread none of whose writebacks finds a
record of another thread has the same records in flight at every point, and its
events come to the same, as if the other threads had dispatched, written back and
squashed nothing.  None does if the loads that it writes back are dispatched by no
other thread.
-/
theorem thread_isolated (made : Replayer.ofConfig config = .ok start) (thread : ThreadId)
    (trace : List Event) :
    (ChecksOwn start thread trace →
      (∀ past future, trace = past ++ future →
        (start.after past).units.predictor.inFlight thread =
          (start.after (past.filter (Event.concerns thread))).units.predictor.inFlight thread) ∧
      ((start.log trace).filter fun entry => entry.1.concerns thread) =
        start.log (trace.filter (Event.concerns thread))) ∧
    ((∀ seq value pc tid, .writebackLoad seq thread value ∈ trace →
        .dispatchLoad seq pc tid ∈ trace → tid = thread) →
      ChecksOwn start thread trace) := by
  refine ⟨fun own => ⟨?_, (akin_after_filter made own).2⟩, checksOwn_of_alone made⟩
  rintro past future rfl
  exact (akin_after_filter made own.past).1.inFlight_eq

/-- A misprediction beside a load of the same number on another thread, which is then squashed. -/
theorem thread_isolated_beside_same_number :
    ∃ start,
      let config : Config :=
        { general := { threads := 2 }
          predictor := { enabled := true, tableSize := 4, threshold := 0 } }
      let trace : List Event := [.commitLoad 1 256 0 5, .dispatchLoad 3 256 0,
        .dispatchLoad 2 256 1, .dispatchLoad 3 256 1, .squash 2 0, .writebackLoad 2 1 6]
      let alone : List Event := [.commitLoad 1 256 0 5, .dispatchLoad 2 256 1,
        .dispatchLoad 3 256 1, .writebackLoad 2 1 6]
      Replayer.ofConfig config = .ok start ∧
        ChecksOwn start 1 trace ∧
        trace.filter (Event.concerns 1) = alone ∧
        ((start.log trace).filter fun entry => entry.1.concerns 1) = start.log alone ∧
        (start.log alone).map Prod.snd =
          [.ok .committed, .ok (.predicted 5), .ok (.predicted 5), .ok .mispredicted] ∧
        (start.after trace).units.predictor.inFlight 1 =
          (start.after alone).units.predictor.inFlight 1 ∧
        ((start.after alone).units.predictor.inFlight 1).map InFlight.seq = [2] := by
  let settings : PredictorConfig := { enabled := true, tableSize := 4, threshold := 0 }
  let start : Replayer :=
    { units := { predictor := .fresh settings (by decide) 2, simplifier := ⟨false, {}⟩ } }
  refine ⟨start, ?_⟩
  intro config trace alone
  have made : Replayer.ofConfig config = .ok start :=
    Replayer.ofConfig_eq_ok_iff.mpr ⟨by decide, by decide, rfl⟩
  obtain ⟨isolated, checked⟩ := thread_isolated made 1 trace
  have own : ChecksOwn start 1 trace := by
    apply checked
    intro seq value pc tid written dispatched
    obtain ⟨rfl, rfl⟩ : seq = 2 ∧ value = 6 := by simpa [trace] using written
    obtain ⟨-, rfl⟩ : pc = 256 ∧ tid = 1 := by simpa [trace] using dispatched
    rfl
  have kept : trace.filter (Event.concerns 1) = alone := by decide +kernel
  obtain ⟨records, log⟩ := isolated own
  have records := records trace [] (List.append_nil trace).symm
  rw [kept] at records log
  exact ⟨made, own, kept, log, by decide +kernel, records, by decide +kernel⟩

/--
Threads are not isolated where they share numbers.  Thread 1 writes back load 2,
which was not predicted, finds the prediction for load 2 of thread 0 and squashes
its own load 3.  Had thread 0 dispatched nothing, nothing would have been squashed.
-/
theorem threads_not_isolated :
    ∃ start,
      let config : Config :=
        { general := { threads := 2 }
          predictor := { enabled := true, tableSize := 4, threshold := 0 } }
      let trace : List Event := [.commitLoad 1 256 0 5, .dispatchLoad 2 256 0,
        .dispatchLoad 2 260 1, .dispatchLoad 3 256 1, .writebackLoad 2 1 6]
      let kept := trace.filter (Event.concerns 1)
      Replayer.ofConfig config = .ok start ∧
        trace.Pairwise Event.InOrder ∧
        (start.log trace).getLast? = some (.writebackLoad 2 1 6, .ok .mispredicted) ∧
        (start.log kept).getLast? = some (.writebackLoad 2 1 6, .ok .validated) ∧
        ((start.after trace).units.predictor.inFlight 1).map InFlight.seq = [] ∧
        ((start.after kept).units.predictor.inFlight 1).map InFlight.seq = [3] := by
  let settings : PredictorConfig := { enabled := true, tableSize := 4, threshold := 0 }
  let start : Replayer :=
    { units := { predictor := .fresh settings (by decide) 2, simplifier := ⟨false, {}⟩ } }
  refine ⟨start, ?_⟩
  intro config trace kept
  have made : Replayer.ofConfig config = .ok start :=
    Replayer.ofConfig_eq_ok_iff.mpr ⟨by decide, by decide, rfl⟩
  refine ⟨made, by simp [trace, Event.InOrder], ?_, ?_, ?_, ?_⟩ <;> decide +kernel

end Replayer

end EarlyResolution
