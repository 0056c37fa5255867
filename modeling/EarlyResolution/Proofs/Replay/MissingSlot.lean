import EarlyResolution.Proofs.Replay.Stopping
import EarlyResolution.Proofs.Replay.Reactions

/-!
# Events on thread slots that do not exist

A dispatch is refused where its thread has no slot.  No other event asks for the slot:
the records of the thread are looked for, none are found, and the event goes on.  So
such an event changes no records, but it comes to an outcome, and a commit trains the
table that all threads share.
-/

namespace EarlyResolution

/-- The event is refused where its thread has no slot. -/
def Event.RefusedOutside : Event → Prop
  | .dispatchLoad _ _ _ => True
  | .issue inst => maxDestinations < inst.dests.toNat
  | .writebackLoad _ _ _ | .commitLoad _ _ _ _ | .squash _ _ => False

/-- Of the events outside the slots those break a contract that are refused there. -/
theorem Event.exists_violation?_iff {threads : Nat} {event : Event}
    (missing : threads ≤ event.tid.toNat) :
    (∃ violation, event.violation? threads = some violation) ↔ event.RefusedOutside := by
  cases event with
  | dispatchLoad seq pc tid =>
      have outside : ¬ tid.toNat < threads := Nat.not_lt.mpr missing
      simp [violation?, RefusedOutside, outside]
  | writebackLoad seq tid value => simp [violation?, RefusedOutside]
  | commitLoad seq pc tid value => simp [violation?, RefusedOutside]
  | squash point tid => simp [violation?, RefusedOutside]
  | issue inst => simp [violation?, RefusedOutside, Issue.violation?]

namespace Replayer

variable {replayer : Replayer} {event : Event}

theorem exists_error_outside_iff
    (missing : replayer.units.predictor.threads ≤ event.tid.toNat) :
    (∃ violation, (replayer.step event).1 = .error violation) ↔ event.RefusedOutside := by
  simp only [step_fst, Units.react_eq_error_iff]
  exact Event.exists_violation?_iff missing

/-- There are no records to change. -/
theorem histories_step_outside
    (missing : replayer.units.predictor.threads ≤ event.tid.toNat) :
    (replayer.step event).2.units.predictor.histories = replayer.units.predictor.histories := by
  rw [units_step, Units.histories_react]
  exact List.modify_eq_self missing

theorem table_step (replayer : Replayer) (event : Event) :
    (replayer.step event).2.units.predictor.table =
      replayer.units.predictor.table.trainAll event.update?.toList := by
  obtain ⟨histories, counters, after⟩ := replayer.units.predictor_react event
  rw [units_step, after]

/--
Not every event on a missing thread slot is refused.  In any state that a replayer
comes to, such an event raises a violation and changes nothing but the number of events
exactly when it is a dispatch, or an instruction with too many destinations.  Any other
comes to an outcome.  It changes no records, but a commit trains the table.
-/
theorem step_outside_slots {config : Config} {start : Replayer}
    (made : Replayer.ofConfig config = .ok start) (past : List Event) (event : Event)
    (missing : config.general.threads ≤ event.tid) :
    let replayer := start.after past
    ((∃ violation, replayer.step event =
        (.error violation,
          { replayer with
            report := { replayer.report with events := replayer.report.events + 1 } })) ↔
      event.RefusedOutside) ∧
    ((∃ outcome, (replayer.step event).1 = .ok outcome) ↔ ¬ event.RefusedOutside) ∧
    (replayer.step event).2.units.predictor.histories = replayer.units.predictor.histories ∧
    (replayer.step event).2.units.predictor.table =
      replayer.units.predictor.table.trainAll event.update?.toList := by
  intro replayer
  have outside : replayer.units.predictor.threads ≤ event.tid.toNat := by
    rw [threads_after, threads_of_ofConfig made]
    exact UInt64.le_iff_toNat_le.mp missing
  have refused := exists_error_outside_iff outside
  refine ⟨?_, ?_, histories_step_outside outside, table_step replayer event⟩
  · rw [← refused]
    constructor
    · rintro ⟨violation, failed⟩
      exact ⟨violation, congrArg Prod.fst failed⟩
    · rintro ⟨violation, failed⟩
      exact ⟨violation, step_of_error failed⟩
  · rw [← refused]
    cases (replayer.step event).1 <;> simp

/-- A commit on a missing slot between two dispatches: it trains the load of thread 0. -/
theorem step_outside_slots_at_commit :
    ∃ start,
      let config : Config :=
        { general := { threads := 1 }
          predictor := { enabled := true, tableSize := 16, threshold := 0 } }
      let past : List Event := [.dispatchLoad 1 256 0]
      let foreign : Event := .commitLoad 2 256 3 5
      let replayer := start.after past
      Replayer.ofConfig config = .ok start ∧
        config.general.threads ≤ foreign.tid ∧
        (∃ outcome, (replayer.step foreign).1 = .ok outcome) ∧
        (replayer.step foreign).2.units.predictor.histories =
          replayer.units.predictor.histories ∧
        (replayer.step foreign).2.units.predictor.table =
          replayer.units.predictor.table.train 256 5 ∧
        (start.stepAll (past ++ [foreign, .dispatchLoad 3 256 0])).1 =
          [.ok .notPredicted, .ok .committed, .ok (.predicted 5)] := by
  let settings : PredictorConfig := { enabled := true, tableSize := 16, threshold := 0 }
  let start : Replayer :=
    { units := { predictor := .fresh settings (by decide) 1, simplifier := ⟨false, {}⟩ } }
  refine ⟨start, ?_⟩
  intro config past foreign replayer
  have made : Replayer.ofConfig config = .ok start :=
    Replayer.ofConfig_eq_ok_iff.mpr ⟨by decide, by decide, rfl⟩
  have missing : config.general.threads ≤ foreign.tid := by decide
  obtain ⟨-, accepted, records, trained⟩ := step_outside_slots made past foreign missing
  exact ⟨made, missing, accepted.mpr id, records, trained, by decide +kernel⟩

/--
Events on a missing slot are accepted.  With one slot a commit of thread 3 trains the
table, a squash and an instruction of thread 3 come to outcomes, and a writeback of
thread 3 mispredicts the load of thread 0.  Only the dispatch is refused.
-/
theorem missing_slot_accepted :
    ∃ start,
      let config : Config :=
        { general := { threads := 1 }
          predictor :=
            { enabled := true, tableSize := 16, threshold := 0, confidenceBits := 2 }
          simplifier := { enabled := true } }
      Replayer.ofConfig config = .ok start ∧
        (start.stepAll [.commitLoad 1 256 3 5, .dispatchLoad 2 256 3, .squash 1 3,
          .issue { seq := 3, pc := 260, tid := 3, op := .intMult, srcs := [0, 17] },
          .dispatchLoad 4 256 0, .writebackLoad 4 3 6]).1 =
          [.ok .committed, .error (.threadOutOfRange 2 3 1), .ok .squashed,
            .ok (.simplified 0), .ok (.predicted 5), .ok .mispredicted] := by
  let settings : PredictorConfig :=
    { enabled := true, tableSize := 16, threshold := 0, confidenceBits := 2 }
  let start : Replayer :=
    { units := { predictor := .fresh settings (by decide) 1, simplifier := ⟨true, {}⟩ } }
  refine ⟨start, ?_⟩
  intro config
  refine ⟨Replayer.ofConfig_eq_ok_iff.mpr ⟨by decide, by decide, rfl⟩, ?_⟩
  simp only [stepAll, step_fst, units_step, Units.react_issue]
  decide +kernel

end Replayer

end EarlyResolution
