import EarlyResolution.Proofs.Prediction.Training
import EarlyResolution.Proofs.Replay.Reactions

/-!
# Coverage under other settings

What trains the table is settled by the trace alone, so runs of one trace under
two configurations differ only in how they group the updates into slots and in
how often they ask an update to repeat.  A finer table hides no repetition that a
coarser one shows, and the width of the counters does not enter at all.  So a
lower threshold and a larger table predict whatever a higher one and a smaller one
predict, with the same value.
-/

namespace EarlyResolution

/-- In a finer slot an update stands in a row at least as long as in a coarser one. -/
theorem trailing_updatesOf_mono {coarse fine : Nat} (refines : coarse ∣ fine) (update : Update)
    (updates : List Update) :
    trailing update (updatesOf coarse (update.1.toNat / 4 % coarse) updates) ≤
      trailing update (updatesOf fine (update.1.toNat / 4 % fine) updates) := by
  induction updates using List.reverseRecOn with
  | nil => exact Nat.le_refl _
  | append_singleton updates last ih =>
      rw [updatesOf_concat, updatesOf_concat]
      by_cases shared : last.1.toNat / 4 % fine = update.1.toNat / 4 % fine
      · have together : last.1.toNat / 4 % coarse = update.1.toNat / 4 % coarse := by
          rw [← Nat.mod_mod_of_dvd _ refines, shared, Nat.mod_mod_of_dvd _ refines]
        rw [if_pos shared, if_pos together, trailing_concat, trailing_concat]
        split
        · exact Nat.succ_le_succ ih
        · exact Nat.le_refl _
      · have foreign : last ≠ update := by
          rintro rfl
          exact shared rfl
        rw [if_neg shared]
        split
        · rw [trailing_concat, if_neg foreign]
          exact Nat.zero_le _
        · exact ih

theorem dvd_of_isPowerOfTwo {small large : Nat} (smallPower : small.isPowerOfTwo)
    (largePower : large.isPowerOfTwo) (le : small ≤ large) : small ∣ large := by
  obtain ⟨k, rfl⟩ := smallPower
  obtain ⟨l, rfl⟩ := largePower
  exact Nat.pow_dvd_pow 2 ((Nat.pow_le_pow_iff_right (by decide)).mp le)

namespace Units

theorem react_dispatchLoad_eq_predicted_iff (units : Units) (seq pc : UInt64) (tid : ThreadId)
    (value : UInt64) :
    (units.react (.dispatchLoad seq pc tid)).1 = .ok (.predicted value) ↔
      tid.toNat < units.predictor.threads ∧ (units.predictor.lookup pc).value? = some value := by
  rw [react_dispatchLoad]
  by_cases inside : tid.toNat < units.predictor.threads
  · rw [Predictor.dispatch_of_lt inside]
    cases (units.predictor.lookup pc).value? with
    | none => simp [Except.map, Outcome.ofDispatch]
    | some answer => simp [Except.map, Outcome.ofDispatch, inside]
  · rw [Predictor.dispatch_of_le (Nat.not_lt.mp inside)]
    simp [Except.map, inside]

/-- Units with the same records and the same answers react alike to all events on loads. -/
theorem reaction_congr {units other : Units}
    (histories : units.predictor.histories = other.predictor.histories)
    (answers : ∀ pc, (units.predictor.lookup pc).value? = (other.predictor.lookup pc).value?)
    (event : Event) :
    (units.reaction event).change = (other.reaction event).change ∧
      ((∀ issue, event ≠ .issue issue) →
        (units.reaction event).result = (other.reaction event).result) := by
  have threads : units.predictor.threads = other.predictor.threads := congrArg List.length histories
  cases event with
  | dispatchLoad seq pc tid =>
      rw [reaction, reaction, threads]
      split
      · rw [Reaction.ofLookup, Reaction.ofLookup, answers pc]
        exact ⟨rfl, fun _ => rfl⟩
      · exact ⟨rfl, fun _ => rfl⟩
  | writebackLoad seq tid value =>
      have check : units.predictor.check seq value = other.predictor.check seq value := by
        rw [Predictor.check, Predictor.recorded?, histories]
        rfl
      rw [reaction, reaction, check]
      exact ⟨rfl, fun _ => rfl⟩
  | commitLoad seq pc tid value => exact ⟨rfl, fun _ => rfl⟩
  | squash point tid => exact ⟨rfl, fun _ => rfl⟩
  | issue issue =>
      refine ⟨?_, fun load => absurd rfl (load issue)⟩
      rw [reaction, reaction]
      split <;> rfl

end Units

namespace Replayer

/-- A load is predicted behind a trace when its last updates repeated above the threshold. -/
theorem value?_lookup_after {config : Config} {start : Replayer}
    (made : Replayer.ofConfig config = .ok start) (past : List Event) (pc value : UInt64) :
    ((start.after past).units.predictor.lookup pc).value? = some value ↔
      config.predictor.enabled = true ∧
        config.predictor.threshold.toNat < trailing (pc, value)
          (updatesOf config.predictor.tableSize.toNat
            (pc.toNat / 4 % config.predictor.tableSize.toNat)
            (past.filterMap Event.update?)) := by
  obtain ⟨-, usable, rfl⟩ := ofConfig_eq_ok_iff.mp made
  obtain ⟨histories, counters, after⟩ := predictor_after _ past
  rw [after]
  exact Predictor.value?_lookup_of_trainAll usable rfl rfl rfl pc value

/-- Replayers whose tables answer alike behind every trace keep the same records. -/
theorem histories_after_eq {one other : Replayer}
    (histories : one.units.predictor.histories = other.units.predictor.histories)
    (answers : ∀ past pc, ((one.after past).units.predictor.lookup pc).value? =
      ((other.after past).units.predictor.lookup pc).value?) (past : List Event) :
    (one.after past).units.predictor.histories = (other.after past).units.predictor.histories := by
  induction past using List.reverseRecOn with
  | nil => exact histories
  | append_singleton past event ih =>
      have change := (Units.reaction_congr ih (answers past) event).1
      rw [after_concat, after_concat, units_step, units_step, Units.histories_react,
        Units.histories_react, ih, change]

variable {lenient strict : Config} {one other : Replayer}

/-- What a strict configuration predicts behind a trace a lenient one predicts too. -/
theorem value?_lookup_mono (made : Replayer.ofConfig lenient = .ok one)
    (made' : Replayer.ofConfig strict = .ok other) (enabled : lenient.predictor.enabled = true)
    (threshold : lenient.predictor.threshold ≤ strict.predictor.threshold)
    (tableSize : strict.predictor.tableSize ≤ lenient.predictor.tableSize)
    {past : List Event} {pc value : UInt64}
    (predicted : ((other.after past).units.predictor.lookup pc).value? = some value) :
    ((one.after past).units.predictor.lookup pc).value? = some value := by
  obtain ⟨-, usable, -⟩ := ofConfig_eq_ok_iff.mp made
  obtain ⟨-, usable', -⟩ := ofConfig_eq_ok_iff.mp made'
  have refines : strict.predictor.tableSize.toNat ∣ lenient.predictor.tableSize.toNat :=
    dvd_of_isPowerOfTwo (strict.predictor.isPowerOfTwo_of_validate usable')
      (lenient.predictor.isPowerOfTwo_of_validate usable) (UInt64.le_iff_toNat_le.mp tableSize)
  have below := UInt32.le_iff_toNat_le.mp threshold
  rw [value?_lookup_after made'] at predicted
  rw [value?_lookup_after made]
  have longer := trailing_updatesOf_mono refines (pc, value) (past.filterMap Event.update?)
  exact ⟨enabled, Nat.lt_of_le_of_lt below (Nat.lt_of_lt_of_le predicted.2 longer)⟩

/--
Coverage grows with the table and shrinks with the threshold.  Along any trace,
what is predicted under the higher threshold and the smaller table is predicted
with the same value under the lower threshold and the larger table, whatever the
width of the counters.  Where both are equal, the records and what comes of every
event on loads are the same.
-/
theorem coverage_mono (made : Replayer.ofConfig lenient = .ok one)
    (made' : Replayer.ofConfig strict = .ok other) (enabled : lenient.predictor.enabled = true)
    (enabled' : strict.predictor.enabled = true)
    (threads : lenient.general.threads = strict.general.threads)
    (threshold : lenient.predictor.threshold ≤ strict.predictor.threshold)
    (tableSize : strict.predictor.tableSize ≤ lenient.predictor.tableSize) :
    (∀ past seq pc tid value,
      ((other.after past).step (.dispatchLoad seq pc tid)).1 = .ok (.predicted value) →
        ((one.after past).step (.dispatchLoad seq pc tid)).1 = .ok (.predicted value)) ∧
    (lenient.predictor.threshold = strict.predictor.threshold →
      lenient.predictor.tableSize = strict.predictor.tableSize →
      ∀ past,
        (one.after past).units.predictor.histories =
          (other.after past).units.predictor.histories ∧
        ∀ event, (∀ issue, event ≠ .issue issue) →
          ((one.after past).step event).1 = ((other.after past).step event).1) := by
  have slots : one.units.predictor.threads = other.units.predictor.threads := by
    rw [threads_of_ofConfig made, threads_of_ofConfig made', threads]
  constructor
  · intro past seq pc tid value predicted
    rw [step_fst, Units.react_dispatchLoad_eq_predicted_iff, threads_after] at predicted ⊢
    rw [slots]
    exact ⟨predicted.1, value?_lookup_mono made made' enabled threshold tableSize predicted.2⟩
  · intro sameThreshold sameSize
    have answers (past : List Event) (pc : UInt64) :
        ((one.after past).units.predictor.lookup pc).value? =
          ((other.after past).units.predictor.lookup pc).value? := by
      apply Option.ext
      intro value
      constructor
      · exact value?_lookup_mono made' made enabled' (UInt32.le_of_eq sameThreshold.symm)
          (UInt64.le_of_eq sameSize)
      · exact value?_lookup_mono made made' enabled threshold tableSize
    have fresh : one.units.predictor.histories = other.units.predictor.histories := by
      obtain ⟨-, _, rfl⟩ := ofConfig_eq_ok_iff.mp made
      obtain ⟨-, _, rfl⟩ := ofConfig_eq_ok_iff.mp made'
      exact congrArg (fun threads : UInt64 => List.replicate threads.toNat _) threads
    intro past
    have records := histories_after_eq fresh answers past
    refine ⟨records, fun event load => ?_⟩
    rw [step_fst_eq_result, step_fst_eq_result]
    exact (Units.reaction_congr records (answers past) event).2 load

/-- A load behind one of its slot, under a finer table and under wider counters. -/
theorem coverage_mono_behind_alias :
    ∃ fine coarse wide,
      let settings (tableSize : UInt64) (threshold confidenceBits : UInt32) : Config :=
        { predictor := { enabled := true, tableSize, threshold, confidenceBits } }
      let past := [.commitLoad 1 272 0 9, .commitLoad 2 256 0 5, .commitLoad 3 256 0 5,
        .commitLoad 4 256 0 5]
      let load : Event := .dispatchLoad 5 256 0
      let answer : Event := .writebackLoad 5 0 6
      Replayer.ofConfig (settings 8 1 2) = .ok fine ∧
        Replayer.ofConfig (settings 4 2 3) = .ok coarse ∧
        Replayer.ofConfig (settings 4 2 8) = .ok wide ∧
        ((coarse.after past).step load).1 = .ok (.predicted 5) ∧
        ((fine.after past).step load).1 = .ok (.predicted 5) ∧
        ((wide.after (past ++ [load])).step answer).1 =
          ((coarse.after (past ++ [load])).step answer).1 ∧
        ((coarse.after (past ++ [load])).step answer).1 = .ok .mispredicted := by
  let settings (tableSize : UInt64) (threshold confidenceBits : UInt32) : PredictorConfig :=
    { enabled := true, tableSize, threshold, confidenceBits }
  let fresh (config : PredictorConfig) (usable : config.validate = .ok ()) : Replayer :=
    { units := { predictor := .fresh config usable 4, simplifier := ⟨false, {}⟩ } }
  have slots : GeneralConfig.validate {} = .ok () := by decide
  have made (config : PredictorConfig) (usable : config.validate = .ok ()) :
      Replayer.ofConfig { predictor := config } = .ok (fresh config usable) :=
    Replayer.ofConfig_eq_ok_iff.mpr ⟨slots, usable, rfl⟩
  have fine := made (settings 8 1 2) (by decide)
  have coarse := made (settings 4 2 3) (by decide)
  have wide := made (settings 4 2 8) (by decide)
  refine ⟨fresh (settings 8 1 2) (by decide), fresh (settings 4 2 3) (by decide),
    fresh (settings 4 2 8) (by decide), ?_⟩
  intro _ past load answer
  refine ⟨fine, coarse, wide, by decide +kernel, ?_, ?_, by decide +kernel⟩
  · exact (coverage_mono fine coarse rfl rfl rfl (by decide) (by decide)).1 past 5 256 0 5
      (by decide +kernel)
  · exact ((coverage_mono wide coarse rfl rfl rfl (by decide) (by decide)).2 rfl rfl
      (past ++ [load])).2 answer (by simp [answer])

end Replayer

end EarlyResolution
