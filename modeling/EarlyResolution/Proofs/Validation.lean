import EarlyResolution.Proofs.Prediction.Training

/-!
# What construction accepts

Checking a configuration, making its predictor and making a replayer for it come to the
same verdict: there are four rules, and the first one broken is reported.  The rules put
the threshold within reach.  The largest value that the configuration computes is exact
at every width, and it is that of every counter in the table, so a value that repeats
often enough is predicted in the end.
-/

namespace EarlyResolution

namespace Config

/-! ## The rules -/

def ThreadsFit (config : Config) : Prop :=
  1 ≤ config.general.threads.toNat ∧ config.general.threads.toNat ≤ maxThreads

def TableFits (config : Config) : Prop :=
  ∃ k, config.predictor.tableSize.toNat = 2 ^ k

def WidthFits (config : Config) : Prop :=
  1 ≤ config.predictor.confidenceBits.toNat ∧
    config.predictor.confidenceBits.toNat ≤ Confidence.maxWidth

def ThresholdFits (config : Config) : Prop :=
  config.predictor.threshold.toNat ≤ 2 ^ config.predictor.confidenceBits.toNat - 1

structure Usable (config : Config) : Prop where
  threads : config.ThreadsFit
  table : config.TableFits
  width : config.WidthFits
  threshold : config.ThresholdFits

/-- The rule that the configuration breaks, where it keeps those in front of it. -/
inductive FirstBroken (config : Config) : ConfigError → Prop where
  | threads (broken : ¬ config.ThreadsFit) :
      FirstBroken config (.threadCount config.general.threads)
  | table (threads : config.ThreadsFit) (broken : ¬ config.TableFits) :
      FirstBroken config (.tableSizeNotPowerOfTwo config.predictor.tableSize)
  | width (threads : config.ThreadsFit) (table : config.TableFits)
      (broken : ¬ config.WidthFits) :
      FirstBroken config (.confidenceBits config.predictor.confidenceBits)
  | threshold {max : UInt32} (threads : config.ThreadsFit) (table : config.TableFits)
      (width : config.WidthFits) (broken : ¬ config.ThresholdFits)
      (ceiling : max.toNat = 2 ^ config.predictor.confidenceBits.toNat - 1) :
      FirstBroken config (.thresholdUnreachable config.predictor.threshold max)

variable {config : Config}

/-- A configuration that keeps not every rule has a first one that it breaks. -/
theorem usable_or_firstBroken (config : Config) :
    config.Usable ∨ ∃ broken, config.FirstBroken broken := by
  by_cases threads : config.ThreadsFit
  case neg => exact .inr ⟨_, .threads threads⟩
  by_cases table : config.TableFits
  case neg => exact .inr ⟨_, .table threads table⟩
  by_cases width : config.WidthFits
  case neg => exact .inr ⟨_, .width threads table width⟩
  by_cases threshold : config.ThresholdFits
  case neg =>
    have ceiling := PredictorConfig.toNat_confidenceMax width.2
    exact .inr ⟨_, .threshold threads table width threshold ceiling⟩
  exact .inl ⟨threads, table, width, threshold⟩

/-! ## The verdict -/

theorem validate_of_threadsFit (threads : config.ThreadsFit) :
    config.validate = config.predictor.validate := by
  have accepted := config.general.validate_eq_ok_iff.mpr threads
  rw [validate, accepted]
  rfl

theorem validate_of_usable (usable : config.Usable) : config.validate = .ok () := by
  rw [validate_of_threadsFit usable.threads]
  apply config.predictor.validate_eq_ok_iff.mpr
  exact ⟨usable.table, usable.width.1, usable.width.2, usable.threshold⟩

theorem validate_of_firstBroken {broken : ConfigError} (first : config.FirstBroken broken) :
    config.validate = .error broken := by
  cases first with
  | threads broken =>
      have refused : config.general.validate = .error (.threadCount config.general.threads) :=
        if_pos (config.general.refused_iff.mpr broken)
      rw [validate, refused]
      rfl
  | table threads broken =>
      have refused : ¬ config.predictor.tableSize.toNat.isPowerOfTwo := broken
      rw [validate_of_threadsFit threads, PredictorConfig.validate, if_pos refused]
  | width threads table broken =>
      have sized : ¬ ¬ config.predictor.tableSize.toNat.isPowerOfTwo := not_not_intro table
      rw [validate_of_threadsFit threads, PredictorConfig.validate, if_neg sized,
        if_pos (config.predictor.width_refused_iff.mpr broken)]
  | @threshold max threads table width broken ceiling =>
      have sized : ¬ ¬ config.predictor.tableSize.toNat.isPowerOfTwo := not_not_intro table
      have same : config.predictor.confidenceMax = max := by
        rw [← UInt32.toNat_inj, ceiling]
        exact PredictorConfig.toNat_confidenceMax width.2
      have beyond := (PredictorConfig.threshold_refused_iff width.2).mpr broken
      rw [validate_of_threadsFit threads, PredictorConfig.validate, if_neg sized,
        if_neg (mt config.predictor.width_refused_iff.mp (not_not_intro width)), if_pos beyond,
        same]

theorem validate_eq_ok_iff (config : Config) : config.validate = .ok () ↔ config.Usable := by
  constructor
  · intro accepted
    rcases config.usable_or_firstBroken with usable | ⟨broken, first⟩
    · exact usable
    · rw [validate_of_firstBroken first] at accepted
      cases accepted
  · exact validate_of_usable

theorem validate_eq_error_iff (config : Config) (broken : ConfigError) :
    config.validate = .error broken ↔ config.FirstBroken broken := by
  constructor
  · intro refused
    rcases config.usable_or_firstBroken with usable | ⟨other, first⟩
    · rw [validate_of_usable usable] at refused
      cases refused
    · rw [validate_of_firstBroken first] at refused
      cases refused
      exact first
  · exact validate_of_firstBroken

/-! ## The ways to construct -/

/-- A predictor is made exactly for a configuration that passes, or fails as that does. -/
theorem create_eq_validate (config : Config) :
    (Predictor.create config.predictor config.general.threads).map (fun _ => ()) =
      config.validate := by
  unfold Predictor.create validate
  cases config.general.validate with
  | error broken => rfl
  | ok _ =>
      -- The table takes the proof that the check passed, so the check is split and not rewritten.
      dsimp only [bind, Except.bind]
      split
      case h_1 broken refused => exact refused.symm
      case h_2 usable => exact usable.symm

theorem replayer_eq_validate (config : Config) :
    (Replayer.ofConfig config).map (fun _ => ()) = config.validate := by
  rw [← create_eq_validate, Replayer.ofConfig_eq_map]
  cases Predictor.create config.predictor config.general.threads <;> rfl

end Config

/-! ## The threshold within reach -/

theorem updatesOf_append (size slot : Nat) (updates later : List Update) :
    updatesOf size slot (updates ++ later) =
      updatesOf size slot updates ++ updatesOf size slot later :=
  List.filter_append ..

/-- Repetitions of an update all fall on its own slot. -/
theorem updatesOf_replicate (size n : Nat) (update : Update) :
    updatesOf size (update.1.toNat / 4 % size) (List.replicate n update) =
      List.replicate n update := by
  rw [updatesOf, List.filter_replicate, if_pos (decide_eq_true rfl)]

namespace Predictor

variable {config : PredictorConfig} (usable : config.validate = .ok ()) (threads : UInt64)
  (calls : List Call)

/-- Whatever was called, the table is that of the updates, on blank entries of the given width. -/
theorem table_fresh_performAll :
    ((fresh config usable threads).performAll calls).table =
      (Table.blank config.tableSize.toNat (config.isPowerOfTwo_of_validate usable)
        config.confidenceBits.toNat).trainAll (calls.filterMap Call.update?) := by
  obtain ⟨histories, counters, after, -⟩ := (fresh config usable threads).performAll_eq calls
  rw [after]
  rfl

/-- Every counter of the table can go up to what the configuration takes for the largest value. -/
theorem max_of_mem_entries {entry : Entry}
    (member : entry ∈ ((fresh config usable threads).performAll calls).table.entries) :
    entry.confidence.max = config.confidenceMax.toNat := by
  rw [table_fresh_performAll] at member
  obtain ⟨slot, found⟩ := Array.mem_iff_getElem?.mp member
  have power := config.isPowerOfTwo_of_validate usable
  have inside : slot < config.tableSize.toNat := by
    have bound := (Array.getElem?_eq_some_iff.mp found).1
    have size := Table.size_trainAll
      (.blank config.tableSize.toNat power config.confidenceBits.toNat)
      (calls.filterMap Call.update?)
    rw [Table.size_blank] at size
    rwa [← size]
  obtain ⟨shown, same, -, max⟩ := Table.shows_trainAll power config.confidenceBits.toNat
    (calls.filterMap Call.update?) inside
  rw [found] at same
  cases same
  have narrow := (config.validate_eq_ok_iff.mp usable).2.2.1
  rw [max, PredictorConfig.ceiling_eq usable, PredictorConfig.toNat_confidenceMax narrow]

/-- A value that repeats once more than the threshold is predicted, whatever was called before. -/
theorem value?_lookup_of_repeats (enabled : config.enabled = true) (pc value : UInt64) :
    let repeats := List.replicate (config.threshold.toNat + 1) (Call.update pc value)
    (((fresh config usable threads).performAll (calls ++ repeats)).lookup pc).value? =
      some value := by
  intro repeats
  obtain ⟨histories, counters, after, -⟩ :=
    (fresh config usable threads).performAll_eq (calls ++ repeats)
  rw [value?_lookup_of_trainAll usable (congrArg Predictor.enabled after)
    (congrArg Predictor.threshold after) (table_fresh_performAll usable threads _)]
  refine ⟨enabled, ?_⟩
  -- Whatever fell on the slot before, the repetitions are the last to do so.
  apply (replicate_suffix_iff _ _ _).mp
  have updates : repeats.filterMap Call.update? =
      List.replicate (config.threshold.toNat + 1) (pc, value) := List.filterMap_replicate
  rw [List.filterMap_append, updates, updatesOf_append, updatesOf_replicate _ _ (pc, value)]
  exact List.suffix_append _ _

end Predictor

/--
All ways to construct come to one verdict.  A configuration that keeps the rules passes
everywhere, and any other fails everywhere with the first rule that it breaks.  The
largest confidence that a configuration computes is exact at every width.  Where the
predictor is made, no counter of its table ever has another largest value, and one
repetition more than the threshold is enough for a prediction in any state it comes to.
-/
theorem Config.constructions_agree (config : Config) :
    let verdict := config.validate
    let settings := config.predictor
    (Predictor.create settings config.general.threads).map (fun _ => ()) = verdict ∧
    (Predictor.ofConfig config).map (fun _ => ()) = verdict ∧
    (Replayer.ofConfig config).map (fun _ => ()) = verdict ∧
    (verdict = .ok () ↔ config.Usable) ∧
    (∀ broken, verdict = .error broken ↔ config.FirstBroken broken) ∧
    settings.confidenceMax.toNat + 1 = 2 ^ min settings.confidenceBits.toNat 32 ∧
    ∀ start, Predictor.ofConfig config = .ok start → ∀ calls,
      (∀ entry ∈ (start.performAll calls).table.entries,
        entry.confidence.max = settings.confidenceMax.toNat) ∧
      (settings.enabled = true → ∀ pc value,
        let repeats := List.replicate (settings.threshold.toNat + 1) (.update pc value)
        ((start.performAll (calls ++ repeats)).predict pc).1 = some value) := by
  intro verdict settings
  refine ⟨config.create_eq_validate, config.create_eq_validate, config.replayer_eq_validate,
    config.validate_eq_ok_iff, config.validate_eq_error_iff,
    settings.toNat_confidenceMax_add_one, ?_⟩
  intro start made calls
  obtain ⟨-, usable, rfl⟩ := Predictor.create_eq_ok_iff.mp made
  constructor
  · intro entry member
    exact Predictor.max_of_mem_entries usable _ calls member
  · intro enabled pc value
    exact Predictor.value?_lookup_of_repeats usable _ calls enabled pc value

/-- The widest counters with the highest threshold, on a slot that another load holds. -/
theorem Config.constructions_agree_at_widest_counter :
    ∃ start,
      let config : Config :=
        { general := { threads := 1 }
          predictor :=
            { enabled := true, tableSize := 1, threshold := 255, confidenceBits := 8 } }
      let repeats := List.replicate 256 (.update 256 5)
      Predictor.ofConfig config = .ok start ∧
        (∀ entry ∈ start.table.entries, entry.confidence.max = 255) ∧
        ((start.performAll ([.update 260 9, .update 256 5, .squash 2 0, .update 260 9] ++
          repeats)).predict 256).1 = some 5 := by
  let settings : PredictorConfig :=
    { enabled := true, tableSize := 1, threshold := 255, confidenceBits := 8 }
  let config : Config := { general := { threads := 1 }, predictor := settings }
  have made : Predictor.ofConfig config = .ok (.fresh settings (by decide) 1) :=
    Predictor.create_eq_ok_iff.mpr ⟨by decide, by decide, rfl⟩
  obtain ⟨-, -, -, -, -, -, anywhere⟩ := config.constructions_agree
  have largest : settings.confidenceMax.toNat = 255 := by decide
  refine ⟨_, made, fun entry member => ?_, ?_⟩
  · exact ((anywhere _ made []).1 entry member).trans largest
  · exact (anywhere _ made _).2 rfl 256 5

end EarlyResolution
