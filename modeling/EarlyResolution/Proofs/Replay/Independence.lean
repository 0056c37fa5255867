import EarlyResolution.Proofs.Replay.Accuracy
import EarlyResolution.Proofs.Replay.Stopping

/-!
# The units are independent

Neither unit looks at the other, what trains the table is settled by the trace alone,
and which events fail by the events themselves.  So under another configuration of
one unit the same events fail and the other unit goes on as before.  A unit that is
switched off counts nothing and keeps nothing; of the predictor only the table is
still trained.
-/

namespace EarlyResolution

/-! ## One event -/

namespace Units

variable {units other : Units} {event : Event}

/-- Whatever the simplifier does, an event on a load is settled by the predictor. -/
theorem reaction_congr_predictor (same : units.predictor = other.predictor)
    (load : ∀ issue, event ≠ .issue issue) : units.reaction event = other.reaction event := by
  cases event with
  | dispatchLoad seq pc tid => rw [reaction, reaction, same]
  | writebackLoad seq tid value => rw [reaction, reaction, same]
  | commitLoad seq pc tid value => rfl
  | squash point tid => rfl
  | issue issue => exact absurd rfl (load issue)

/-- The predictor goes its way whatever the simplifier does. -/
theorem predictor_react_congr (same : units.predictor = other.predictor) (event : Event) :
    (units.react event).2.predictor = (other.react event).2.predictor := by
  by_cases issued : ∃ issue, event = .issue issue
  · obtain ⟨issue, rfl⟩ := issued
    rw [predictor_react_issue, predictor_react_issue, same]
  · have absorbed := congrArg Units.predictor (units.react_eq_absorb event).2
    have absorbed' := congrArg Units.predictor (other.react_eq_absorb event).2
    rw [← reaction_congr_predictor same (not_exists.mp issued)] at absorbed'
    refine absorbed.trans (Eq.trans ?_ absorbed'.symm)
    rw [absorb, absorb, same]
    rfl

/-- Whatever the predictor does, an instruction is settled by the simplifier's switch. -/
theorem reaction_issue_congr (same : units.simplifier.enabled = other.simplifier.enabled)
    (issue : Issue) : units.reaction (.issue issue) = other.reaction (.issue issue) := by
  rw [reaction, reaction, same]

/-- Only an instruction concerns the simplifier. -/
theorem issues_reaction_of_load (load : ∀ issue, event ≠ .issue issue) :
    (units.reaction event).issues = 0 := by
  cases event with
  | dispatchLoad seq pc tid =>
      rw [reaction]
      split
      · rfl
      · rfl
  | writebackLoad seq tid value => rfl
  | commitLoad seq pc tid value => rfl
  | squash point tid => rfl
  | issue issue => exact absurd rfl (load issue)

theorem simplifier_react (units : Units) (event : Event) :
    (units.react event).2.simplifier =
      { units.simplifier with
        counters := units.simplifier.counters + (units.reaction event).issues } := by
  have absorbed := congrArg Units.simplifier (units.react_eq_absorb event).2
  exact absorbed

/-- The simplifier goes its way whatever the predictor does. -/
theorem simplifier_react_congr (same : units.simplifier = other.simplifier) (event : Event) :
    (units.react event).2.simplifier = (other.react event).2.simplifier := by
  have enabled : units.simplifier.enabled = other.simplifier.enabled := by rw [same]
  rw [simplifier_react, simplifier_react, same]
  by_cases issued : ∃ issue, event = .issue issue
  · obtain ⟨issue, rfl⟩ := issued
    rw [reaction_issue_congr enabled]
  · rw [issues_reaction_of_load (not_exists.mp issued),
      issues_reaction_of_load (not_exists.mp issued)]

/-- A simplifier that is switched off lets every instruction pass and counts none. -/
theorem reaction_issue_of_disabled (off : units.simplifier.enabled = false) (issue : Issue) :
    (units.reaction (.issue issue)).issues = 0 ∧
      ∀ outcome, (units.reaction (.issue issue)).result = .ok outcome →
        outcome = .notSimplified := by
  rw [reaction]
  split
  · refine ⟨rfl, fun outcome impossible => ?_⟩
    cases impossible
  · rw [Reaction.ofIssue, Issue.effect, if_pos (.inl off)]
    refine ⟨rfl, fun outcome settled => ?_⟩
    cases settled
    rfl

theorem simplifier_react_of_disabled (off : units.simplifier.enabled = false) (event : Event) :
    (units.react event).2.simplifier = units.simplifier := by
  have uncounted : (units.reaction event).issues = 0 := by
    by_cases issued : ∃ issue, event = .issue issue
    · obtain ⟨issue, rfl⟩ := issued
      exact (reaction_issue_of_disabled off issue).1
    · exact issues_reaction_of_load (not_exists.mp issued)
  rw [simplifier_react, uncounted, SimplifyCounters.add_zero]

end Units

/-! ## Runs -/

namespace Replayer

variable {start other : Replayer}

theorem predictor_after_eq (same : start.units.predictor = other.units.predictor)
    (events : List Event) :
    (start.after events).units.predictor = (other.after events).units.predictor := by
  induction events using List.reverseRecOn with
  | nil => exact same
  | append_singleton events event ih =>
      rw [after_concat, after_concat, units_step, units_step]
      exact Units.predictor_react_congr ih event

theorem simplifier_after_eq (same : start.units.simplifier = other.units.simplifier)
    (events : List Event) :
    (start.after events).units.simplifier = (other.after events).units.simplifier := by
  induction events using List.reverseRecOn with
  | nil => exact same
  | append_singleton events event ih =>
      rw [after_concat, after_concat, units_step, units_step]
      exact Units.simplifier_react_congr ih event

theorem simplifier_after_of_disabled (off : start.units.simplifier.enabled = false)
    (events : List Event) : (start.after events).units.simplifier = start.units.simplifier := by
  induction events using List.reverseRecOn with
  | nil => rfl
  | append_singleton events event ih =>
      rw [after_concat, units_step, Units.simplifier_react_of_disabled (by rw [ih, off]), ih]

/-- A step fails by the fields of its event and the number of thread slots. -/
theorem step_after_eq_error_iff (start : Replayer) (past : List Event) (event : Event)
    (violation : Violation) :
    ((start.after past).step event).1 = .error violation ↔
      event.violation? start.units.predictor.threads = some violation := by
  rw [step_fst, Units.react_eq_error_iff, threads_after]

/-! ## A predictor that is switched off -/

section Disabled

variable {config : Config} (made : Replayer.ofConfig config = .ok start)
  (off : config.predictor.enabled = false) (past : List Event)

include made off

/-- A predictor that is switched off keeps no record and counts nothing. -/
theorem predictor_after_of_disabled :
    (start.after past).units.predictor.allRecords = [] ∧
      (start.after past).units.predictor.counters = {} := by
  have told : (start.after past).counters.loads.Tells config.predictor.enabled (start.log past) :=
    (tells_after made past).2.1
  have lookups := told.lookups
  rw [off, if_neg Bool.false_ne_true, Nat.add_eq_zero_iff] at lookups
  have unpredicted : predictedLoads (start.log past) = [] := by
    apply List.eq_nil_of_length_eq_zero
    apply Nat.eq_zero_of_le_zero
    rw [← lookups.1, told.predictions]
    exact length_predictedLoads_le _
  -- A record stands for a load that was predicted, and so does a check that is counted.
  constructor
  · rw [List.eq_nil_iff_forall_not_mem]
    intro load member
    have few := threads_le_of_ofConfig made
    obtain ⟨tid, inside⟩ := (mem_allRecords_after_iff few).mp member
    have predicted := seq_mem_predictedLoads (inFlight_of_ofConfig made) inside
    rw [unpredicted] at predicted
    cases predicted
  · have unchecked := checks_le_countP_written made past
    rw [unpredicted, List.countP_eq_zero.mpr (by simp), Nat.le_zero,
      Nat.add_eq_zero_iff] at unchecked
    exact LoadCounters.ext lookups.1 unchecked.1 unchecked.2 lookups.2
      (told.squashes.trans unchecked.2)

theorem inFlight_after_of_disabled (tid : ThreadId) :
    (start.after past).units.predictor.inFlight tid = [] := by
  have few := threads_le_of_ofConfig made
  rw [List.eq_nil_iff_forall_not_mem]
  intro load inside
  have member := (mem_allRecords_after_iff few).mpr ⟨tid, inside⟩
  rw [(predictor_after_of_disabled made off past).1] at member
  cases member

theorem dispatch_after_of_disabled (seq pc : UInt64) (tid : ThreadId) {outcome : Outcome}
    (settled : ((start.after past).step (.dispatchLoad seq pc tid)).1 = .ok outcome) :
    outcome = .notPredicted := by
  have enabled : (start.after past).units.predictor.enabled = false := by
    obtain ⟨-, usable, rfl⟩ := ofConfig_eq_ok_iff.mp made
    rw [enabled_after]
    exact off
  -- Without a lookup there is no value to hand over.
  have unlooked := ((start.after past).units.predictor.lookup_eq_off_iff pc).mpr enabled
  rw [step_fst_eq_result, Units.reaction, unlooked] at settled
  split at settled
  · cases settled
    rfl
  · cases settled

theorem writeback_after_of_disabled (seq : UInt64) (tid : ThreadId) (value : UInt64) :
    ((start.after past).step (.writebackLoad seq tid value)).1 = .ok .validated := by
  have unrecorded : (start.after past).units.predictor.recorded? seq = none := by
    rw [Predictor.recorded?_eq_find?, (predictor_after_of_disabled made off past).1]
    rfl
  rw [step_fst_eq_result, Units.reaction, Predictor.check, unrecorded]
  rfl

end Disabled

/--
The units are independent, and a unit that is switched off is inert.  Whatever else
two configurations differ in, with the same number of threads the same events fail
with the same violations.  The predictor and all events on loads go on alike under
one predictor section, the simplifier and all instructions under one simplifier
section, and the tables are alike where only the predictor's switch and threshold
differ.  A predictor that is switched off keeps no record, counts nothing, predicts
no load and lets every writeback pass; a simplifier that is switched off counts
nothing and simplifies nothing.
-/
theorem units_independent {one two : Config} (made : Replayer.ofConfig one = .ok start)
    (made' : Replayer.ofConfig two = .ok other)
    (threads : one.general.threads = two.general.threads) :
    (∀ past event violation,
      ((start.after past).step event).1 = .error violation ↔
        ((other.after past).step event).1 = .error violation) ∧
    (one.predictor = two.predictor → ∀ past,
      (start.after past).units.predictor = (other.after past).units.predictor ∧
      ∀ event, (∀ issue, event ≠ .issue issue) →
        ((start.after past).step event).1 = ((other.after past).step event).1) ∧
    (one.simplifier.enabled = two.simplifier.enabled → ∀ past,
      (start.after past).units.simplifier = (other.after past).units.simplifier ∧
      ∀ issue, ((start.after past).step (.issue issue)).1 =
        ((other.after past).step (.issue issue)).1) ∧
    (one.predictor.tableSize = two.predictor.tableSize →
      one.predictor.confidenceBits = two.predictor.confidenceBits → ∀ past,
      (start.after past).units.predictor.table = (other.after past).units.predictor.table) ∧
    (one.predictor.enabled = false → ∀ past,
      (∀ tid, (start.after past).units.predictor.inFlight tid = []) ∧
      (start.after past).counters.loads = {} ∧
      (∀ seq pc tid outcome,
        ((start.after past).step (.dispatchLoad seq pc tid)).1 = .ok outcome →
          outcome = .notPredicted) ∧
      ∀ seq tid value,
        ((start.after past).step (.writebackLoad seq tid value)).1 = .ok .validated) ∧
    (one.simplifier.enabled = false → ∀ past,
      (start.after past).counters.simplifier = {} ∧
      ∀ issue outcome, ((start.after past).step (.issue issue)).1 = .ok outcome →
        outcome = .notSimplified) := by
  have slots : start.units.predictor.threads = other.units.predictor.threads := by
    rw [threads_of_ofConfig made, threads_of_ofConfig made', threads]
  obtain ⟨-, usable, fresh⟩ := ofConfig_eq_ok_iff.mp made
  obtain ⟨-, usable', fresh'⟩ := ofConfig_eq_ok_iff.mp made'
  refine ⟨?_, fun same past => ?_, fun same past => ?_, fun sizes widths past => ?_,
    fun off past => ?_, fun off past => ?_⟩
  · intro past event violation
    rw [step_after_eq_error_iff, step_after_eq_error_iff, slots]
  · have predictor : start.units.predictor = other.units.predictor := by
      simp only [fresh, fresh', same, threads]
    have after := predictor_after_eq predictor past
    refine ⟨after, fun event load => ?_⟩
    rw [step_fst_eq_result, step_fst_eq_result, Units.reaction_congr_predictor after load]
  · have simplifier : start.units.simplifier = other.units.simplifier := by
      rw [fresh, fresh', same]
    have after := simplifier_after_eq simplifier past
    refine ⟨after, fun issue => ?_⟩
    rw [step_fst_eq_result, step_fst_eq_result,
      Units.reaction_issue_congr (congrArg Simplifier.enabled after)]
  · obtain ⟨_, _, after⟩ := start.predictor_after past
    obtain ⟨_, _, after'⟩ := other.predictor_after past
    have table : start.units.predictor.table = other.units.predictor.table := by
      simp only [fresh, fresh', Predictor.fresh, sizes, widths]
    rw [after, after', table]
  · exact ⟨inFlight_after_of_disabled made off past, (predictor_after_of_disabled made off past).2,
      fun seq pc tid _ => dispatch_after_of_disabled made off past seq pc tid,
      writeback_after_of_disabled made off past⟩
  · have enabled : start.units.simplifier.enabled = false := by rw [fresh, ← off]
    have after := simplifier_after_of_disabled enabled past
    refine ⟨?_, fun issue outcome settled => ?_⟩
    · rw [counters, Units.counters, after, fresh]
    · rw [step_fst_eq_result] at settled
      refine (Units.reaction_issue_of_disabled ?_ issue).2 outcome settled
      rw [after, enabled]

/-- Behind a prediction: both units, the predictor alone, and the simplifier alone. -/
theorem units_independent_behind_prediction :
    ∃ both loadsOnly issuesOnly,
      let general : GeneralConfig := { threads := 1 }
      let on : PredictorConfig := { enabled := true, tableSize := 4, threshold := 0 }
      let off : PredictorConfig := { enabled := false, tableSize := 4, threshold := 2 }
      let past : List Event := [.commitLoad 1 256 0 5, .dispatchLoad 2 256 0]
      let astray : Event := .dispatchLoad 3 256 7
      let answer : Event := .writebackLoad 2 0 6
      let multiply : Event := .issue { seq := 4, pc := 260, op := .intMult, srcs := [0, 9] }
      Replayer.ofConfig { general, predictor := on, simplifier := ⟨true⟩ } = .ok both ∧
        Replayer.ofConfig { general, predictor := on, simplifier := ⟨false⟩ } = .ok loadsOnly ∧
        Replayer.ofConfig { general, predictor := off, simplifier := ⟨true⟩ } = .ok issuesOnly ∧
        (((both.after past).step astray).1 = .error (.threadOutOfRange 3 7 1) ∧
          ((issuesOnly.after past).step astray).1 = .error (.threadOutOfRange 3 7 1)) ∧
        (((both.after past).step answer).1 = .ok .mispredicted ∧
          ((loadsOnly.after past).step answer).1 = .ok .mispredicted ∧
          ((issuesOnly.after past).step answer).1 = .ok .validated) ∧
        (((both.after past).step multiply).1 = .ok (.simplified 0) ∧
          ((issuesOnly.after past).step multiply).1 = .ok (.simplified 0)) ∧
        (both.after past).units.predictor.table = (issuesOnly.after past).units.predictor.table ∧
        (issuesOnly.after past).counters.loads = {} ∧
        (loadsOnly.after past).counters.simplifier = {} := by
  let on : PredictorConfig := { enabled := true, tableSize := 4, threshold := 0 }
  let off : PredictorConfig := { enabled := false, tableSize := 4, threshold := 2 }
  let fresh (config : PredictorConfig) (usable : config.validate = .ok ()) (simplifies : Bool) :
      Replayer :=
    { units := { predictor := .fresh config usable 1, simplifier := ⟨simplifies, {}⟩ } }
  have slots : GeneralConfig.validate { threads := 1 } = .ok () := by decide
  have made (config : PredictorConfig) (usable : config.validate = .ok ()) (simplifies : Bool) :
      Replayer.ofConfig
        { general := { threads := 1 }, predictor := config, simplifier := ⟨simplifies⟩ } =
        .ok (fresh config usable simplifies) :=
    Replayer.ofConfig_eq_ok_iff.mpr ⟨slots, usable, rfl⟩
  have both := made on (by decide) true
  have loadsOnly := made on (by decide) false
  have issuesOnly := made off (by decide) true
  refine ⟨fresh on (by decide) true, fresh on (by decide) false, fresh off (by decide) true, ?_⟩
  intro general _ _ past astray answer multiply
  have failed : (((fresh on (by decide) true).after past).step astray).1 =
      .error (.threadOutOfRange 3 7 1) := by decide +kernel
  have refuted : (((fresh on (by decide) true).after past).step answer).1 =
      .ok .mispredicted := by decide +kernel
  have simplifiedToZero : (((fresh on (by decide) true).after past).step multiply).1 =
      .ok (.simplified 0) := by
    rw [step_fst, Units.react_issue]
    decide +kernel
  obtain ⟨errors, -, instructions, tables, -⟩ := units_independent both issuesOnly rfl
  obtain ⟨-, loads, -⟩ := units_independent both loadsOnly rfl
  obtain ⟨-, -, -, -, idle, -⟩ := units_independent issuesOnly both rfl
  obtain ⟨-, -, -, -, -, mute⟩ := units_independent loadsOnly both rfl
  refine ⟨both, loadsOnly, issuesOnly, ⟨failed, (errors past astray _).mp failed⟩,
    ⟨refuted, ?_, (idle rfl past).2.2.2 2 0 6⟩, ⟨simplifiedToZero, ?_⟩, tables rfl rfl past,
    (idle rfl past).2.1, (mute rfl past).1⟩
  · exact ((loads rfl past).2 answer nofun).symm.trans refuted
  · exact ((instructions rfl past).2 _).symm.trans simplifiedToZero

end Replayer

end EarlyResolution
