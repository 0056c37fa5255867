import EarlyResolution.Proofs.Construction
import EarlyResolution.Proofs.Replay.Events

/-!
# Failed steps and stopped runs

Whether an event breaks a contract is told by its own fields and the number of
thread slots, and is found out before anything is changed.  So an event that fails
is counted and leaves nothing else behind, and a run stops as if nothing but the
events in front of the first failing one had been replayed.
-/

namespace EarlyResolution

def Event.violation? (threads : Nat) : Event → Option Violation
  | .dispatchLoad seq _ tid =>
      if tid.toNat < threads then none else some (.threadOutOfRange seq tid threads)
  | .writebackLoad _ _ _ | .commitLoad _ _ _ _ | .squash _ _ => none
  | .issue inst => inst.violation?

namespace Units

variable {units : Units} {event : Event} {violation : Violation}

/-- An event that breaks a contract leaves the units as they were, registers and all. -/
theorem react_of_violation? (broken : event.violation? units.predictor.threads = some violation) :
    units.react event = (.error violation, units) := by
  cases event with
  | dispatchLoad seq pc tid =>
      rw [Event.violation?] at broken
      split at broken
      · cases broken
      case isFalse outside =>
          cases broken
          rw [react_dispatchLoad, Predictor.dispatch_of_le (Nat.not_lt.mp outside)]
          rfl
  | writebackLoad seq tid value => cases broken
  | commitLoad seq pc tid value => cases broken
  | squash point tid => cases broken
  | issue issue =>
      rw [Event.violation?, Issue.violation?] at broken
      split at broken
      case isTrue crowded =>
          cases broken
          rw [react_issue, if_pos crowded]
      · cases broken

/-- An event that breaks no contract comes to an outcome. -/
theorem exists_outcome_of_violation?
    (kept : event.violation? units.predictor.threads = none) :
    ∃ outcome, (units.react event).1 = .ok outcome := by
  cases event with
  | dispatchLoad seq pc tid =>
      rw [Event.violation?] at kept
      split at kept
      case isTrue inside =>
          rw [react_dispatchLoad, Predictor.dispatch_of_lt inside]
          exact ⟨_, rfl⟩
      · cases kept
  | writebackLoad seq tid value =>
      rw [react_writebackLoad]
      split
      · exact ⟨_, rfl⟩
      · exact ⟨_, rfl⟩
  | commitLoad seq pc tid value => exact ⟨_, rfl⟩
  | squash point tid => exact ⟨_, rfl⟩
  | issue issue =>
      rw [Event.violation?, Issue.violation?] at kept
      split at kept
      · cases kept
      case isFalse within =>
          rw [react_issue, if_neg within]
          exact ⟨_, rfl⟩

/-- What contract an event breaks does not depend on the state of the units. -/
theorem react_eq_error_iff :
    (units.react event).1 = .error violation ↔
      event.violation? units.predictor.threads = some violation := by
  cases told : event.violation? units.predictor.threads with
  | none =>
      obtain ⟨outcome, settled⟩ := exists_outcome_of_violation? told
      rw [settled]
      constructor <;> intro impossible <;> cases impossible
  | some cause =>
      rw [react_of_violation? told, Except.error.injEq, Option.some_inj]

end Units

namespace Replayer

variable {replayer : Replayer} {event : Event} {violation : Violation}

/-- A failed step counts its event and changes nothing else. -/
theorem step_of_error (failed : (replayer.step event).1 = .error violation) :
    replayer.step event =
      (.error violation, { replayer with report := replayer.report.addEvent }) := by
  rw [step_fst, Units.react_eq_error_iff] at failed
  rw [step, Units.react_of_violation? failed]

/-! ## Runs without a failure -/

def Flawless (replayer : Replayer) (trace : List Event) : Prop :=
  ∀ result ∈ (replayer.stepAll trace).1, ∃ outcome, result = .ok outcome

theorem flawless_nil : replayer.Flawless [] :=
  fun _ member => nomatch member

theorem flawless_cons_iff {events : List Event} :
    replayer.Flawless (event :: events) ↔
      (∃ outcome, (replayer.step event).1 = .ok outcome) ∧
        (replayer.step event).2.Flawless events :=
  List.forall_mem_cons

/-- No event fails along a run exactly if none of them breaks a contract of its own. -/
theorem flawless_iff {events : List Event} :
    replayer.Flawless events ↔
      ∀ event ∈ events, event.violation? replayer.units.predictor.threads = none := by
  induction events generalizing replayer with
  | nil => exact iff_of_true flawless_nil fun _ absent => nomatch absent
  | cons event events ih =>
      rw [flawless_cons_iff, List.forall_mem_cons, ih, units_step, Units.threads_react, step_fst]
      refine and_congr_left fun _ => ⟨?_, Units.exists_outcome_of_violation?⟩
      rintro ⟨outcome, settled⟩
      cases told : event.violation? replayer.units.predictor.threads with
      | none => rfl
      | some violation =>
          rw [Units.react_of_violation? told] at settled
          cases settled

/-- A run along which no event fails is the stepping through of its events. -/
theorem run_of_flawless {trace : List Event} (flawless : replayer.Flawless trace) :
    replayer.run trace = (.ok (replayer.after trace).report, replayer.after trace) := by
  induction trace generalizing replayer with
  | nil => rfl
  | cons event events ih =>
      obtain ⟨⟨outcome, settled⟩, rest⟩ := flawless_cons_iff.mp flawless
      rw [run, after_cons, ← ih rest]
      split
      case h_1 failed =>
          rw [failed] at settled
          cases settled
      case h_2 passed => rw [passed]

/-! ## Runs that fail -/

/-- A trace along which some event fails has a first one that does. -/
theorem exists_first_failure {trace : List Event} (flawed : ¬ replayer.Flawless trace) :
    ∃ past event future violation, trace = past ++ event :: future ∧ replayer.Flawless past ∧
      ((replayer.after past).step event).1 = .error violation := by
  induction trace generalizing replayer with
  | nil => exact absurd flawless_nil flawed
  | cons event events ih =>
      cases settled : (replayer.step event).1 with
      | error violation =>
          exact ⟨[], event, events, violation, rfl, flawless_nil, settled⟩
      | ok outcome =>
          have later : ¬ (replayer.step event).2.Flawless events :=
            fun rest => flawed (flawless_cons_iff.mpr ⟨⟨outcome, settled⟩, rest⟩)
          obtain ⟨past, last, future, violation, split, flawless, failed⟩ := ih later
          refine ⟨event :: past, last, future, violation, ?_, ?_, failed⟩
          · rw [split, List.cons_append]
          · exact flawless_cons_iff.mpr ⟨⟨outcome, settled⟩, flawless⟩

/-- A run stops at the first event that fails, whatever comes behind it. -/
theorem run_of_first_failure {past future : List Event} (flawless : replayer.Flawless past)
    (failed : ((replayer.after past).step event).1 = .error violation) :
    replayer.run (past ++ event :: future) =
      (.error violation,
        { replayer.after past with report := (replayer.after past).report.addEvent }) := by
  rw [run_append, run_of_flawless flawless]
  simp only [run, step_of_error failed]

/--
A failed step leaves no trace, and a run is stepping that stops at the first
failure.  A step that fails counts its event and changes nothing else.  A run gives
a report exactly when no event of its trace fails, and then leaves the state behind
all of them; otherwise it gives the violation of the first event that fails, and
leaves the state behind the events in front of it with that one event counted.
Running two traces is running the first and, unless it stopped, the second.
-/
theorem run_eq_stopped_stepping (replayer : Replayer) :
    (∀ event violation, (replayer.step event).1 = .error violation →
      (replayer.step event).2 =
        { replayer with
          report := { replayer.report with events := replayer.report.events + 1 } }) ∧
    (∀ trace, (∃ report, (replayer.run trace).1 = .ok report) ↔ replayer.Flawless trace) ∧
    (∀ trace, replayer.Flawless trace →
      replayer.run trace = (.ok (replayer.after trace).report, replayer.after trace)) ∧
    (∀ trace, ¬ replayer.Flawless trace →
      ∃ past event future violation, trace = past ++ event :: future ∧
        replayer.Flawless past ∧ ((replayer.after past).step event).1 = .error violation ∧
        let last := replayer.after past
        replayer.run trace =
          (.error violation,
            { last with report := { last.report with events := last.report.events + 1 } })) ∧
    ∀ first second,
      replayer.run (first ++ second) =
        match replayer.run first with
        | (.error violation, last) => (.error violation, last)
        | (.ok _, last) => last.run second := by
  have stopped {trace : List Event} (flawed : ¬ replayer.Flawless trace) :
      ∃ past event future violation, trace = past ++ event :: future ∧
        replayer.Flawless past ∧ ((replayer.after past).step event).1 = .error violation ∧
        replayer.run trace =
          (.error violation,
            { replayer.after past with report := (replayer.after past).report.addEvent }) := by
    obtain ⟨past, event, future, violation, split, flawless, failed⟩ :=
      exists_first_failure flawed
    refine ⟨past, event, future, violation, split, flawless, failed, ?_⟩
    rw [split, run_of_first_failure flawless failed]
  refine ⟨?_, fun trace => ⟨?_, ?_⟩, fun trace => run_of_flawless, fun trace => stopped,
    replayer.run_append⟩
  · intro event violation failed
    rw [step_of_error failed]
    rfl
  · rintro ⟨report, passed⟩
    by_contra flawed
    obtain ⟨past, event, future, violation, -, -, -, failed⟩ := stopped flawed
    rw [failed] at passed
    cases passed
  · intro flawless
    exact ⟨_, congrArg Prod.fst (run_of_flawless flawless)⟩

/-- An instruction with too many destinations between a prediction and the squash of it. -/
theorem run_eq_stopped_stepping_at_crowded_issue :
    ∃ start,
      let config : Config :=
        { general := { threads := 1 }
          predictor := { enabled := true, tableSize := 4, threshold := 0 }
          simplifier := { enabled := true } }
      let past : List Event := [.commitLoad 1 256 0 5, .dispatchLoad 2 256 0]
      let crowded : Event :=
        .issue { seq := 3, pc := 260, op := .intMult, srcs := [0, 9], dests := 5 }
      let last := start.after past
      let counted :=
        { last with report := { last.report with events := last.report.events + 1 } }
      Replayer.ofConfig config = .ok start ∧
        start.Flawless past ∧
        (last.step crowded).1 = .error (.destinationCount 3 5) ∧
        (last.step crowded).2 = counted ∧
        start.run past = (.ok { events := 2, loadsPredicted := 1 }, last) ∧
        start.run (past ++ [crowded, .squash 1 0]) = (.error (.destinationCount 3 5), counted) ∧
        ¬ start.Flawless (past ++ [crowded, .squash 1 0]) := by
  let settings : PredictorConfig := { enabled := true, tableSize := 4, threshold := 0 }
  let start : Replayer :=
    { units := { predictor := .fresh settings (by decide) 1, simplifier := ⟨true, {}⟩ } }
  refine ⟨start, ?_⟩
  intro config past crowded last counted
  obtain ⟨-, passes, passed, -, append⟩ := run_eq_stopped_stepping start
  have made : Replayer.ofConfig config = .ok start :=
    Replayer.ofConfig_eq_ok_iff.mpr ⟨by decide, by decide, rfl⟩
  have results : (start.stepAll past).1 = [.ok .committed, .ok (.predicted 5)] := by
    decide +kernel
  have flawless : start.Flawless past := by
    simp [Flawless, results]
  have failed : (last.step crowded).1 = .error (.destinationCount 3 5) := by decide +kernel
  have kept : (last.step crowded).2 = counted :=
    (run_eq_stopped_stepping last).1 crowded _ failed
  have report : (start.after past).report = { events := 2, loadsPredicted := 1 } := by
    decide +kernel
  have early : start.run past = (.ok { events := 2, loadsPredicted := 1 }, last) := by
    rw [passed past flawless, report]
  have whole : start.run (past ++ [crowded, .squash 1 0]) =
      (.error (.destinationCount 3 5), counted) := by
    have settled : last.step crowded = (.error (.destinationCount 3 5), counted) :=
      Prod.ext failed kept
    rw [append, early]
    simp only [run, settled]
  refine ⟨made, flawless, failed, kept, early, whole, fun unflawed => ?_⟩
  obtain ⟨report, given⟩ := (passes _).mpr unflawed
  rw [whole] at given
  cases given

end Replayer

end EarlyResolution
