import Mathlib.Algebra.Group.Nat.Defs
import EarlyResolution.Replay.Replayer

/-!
# Usable configurations and fresh units

A configuration is usable exactly when its thread count, its table size, its
counter width and its threshold keep their bounds.  From a usable one the units
start with a blank table, empty histories and nothing counted.
-/

namespace EarlyResolution

theorem GeneralConfig.refused_iff (config : GeneralConfig) :
    config.threads = 0 ∨ maxThreads < config.threads.toNat ↔
      ¬ (0 < config.threads.toNat ∧ config.threads.toNat ≤ maxThreads) := by
  rw [← UInt64.toNat_inj]
  change config.threads.toNat = 0 ∨ _ ↔ _
  omega

theorem GeneralConfig.validate_eq_ok_iff (config : GeneralConfig) :
    config.validate = .ok () ↔
      0 < config.threads.toNat ∧ config.threads.toNat ≤ maxThreads := by
  unfold validate
  split
  case isTrue refused =>
      constructor
      · intro impossible
        cases impossible
      · intro fits
        exact absurd fits (config.refused_iff.mp refused)
  case isFalse kept =>
      have fits := Decidable.not_not.mp (mt config.refused_iff.mpr kept)
      exact ⟨fun _ => fits, fun _ => rfl⟩

namespace PredictorConfig

/-- At every width the ceiling is exact: one below a power of two, that of the word at most. -/
theorem toNat_confidenceMax_add_one (config : PredictorConfig) :
    config.confidenceMax.toNat + 1 = 2 ^ min config.confidenceBits.toNat 32 := by
  unfold confidenceMax
  split
  case isTrue short =>
      have below : config.confidenceBits.toNat < 32 := UInt32.lt_iff_toNat_lt.mp short
      have power : 2 ^ config.confidenceBits.toNat < 2 ^ 32 :=
        Nat.pow_lt_pow_right (by decide) below
      have shifted : ((1 : UInt32) <<< config.confidenceBits).toNat =
          2 ^ config.confidenceBits.toNat := by
        rw [UInt32.toNat_shiftLeft, Nat.mod_eq_of_lt below, Nat.shiftLeft_eq]
        exact (congrArg (· % 2 ^ 32) (Nat.one_mul _)).trans (Nat.mod_eq_of_lt power)
      have positive : 1 ≤ 2 ^ config.confidenceBits.toNat := Nat.two_pow_pos _
      rw [UInt32.toNat_sub_of_le, shifted, Nat.min_eq_left (Nat.le_of_lt below)]
      · exact Nat.sub_add_cancel positive
      · rw [UInt32.le_iff_toNat_le, shifted]
        exact positive
  case isFalse long =>
      have above : 32 ≤ config.confidenceBits.toNat := by
        rw [UInt32.lt_iff_toNat_lt] at long
        exact Nat.not_lt.mp long
      rw [Nat.min_eq_right above]
      rfl

/-- The configured ceiling is that of the counters, wherever counters can be that wide. -/
theorem toNat_confidenceMax {config : PredictorConfig}
    (narrow : config.confidenceBits.toNat ≤ Confidence.maxWidth) :
    config.confidenceMax.toNat = 2 ^ config.confidenceBits.toNat - 1 := by
  have within : config.confidenceBits.toNat ≤ 32 := Nat.le_trans narrow (by decide)
  rw [← Nat.min_eq_left within, ← config.toNat_confidenceMax_add_one, Nat.add_sub_cancel]

theorem width_refused_iff (config : PredictorConfig) :
    config.confidenceBits = 0 ∨ Confidence.maxWidth < config.confidenceBits.toNat ↔
      ¬ (0 < config.confidenceBits.toNat ∧ config.confidenceBits.toNat ≤ Confidence.maxWidth) := by
  rw [← UInt32.toNat_inj]
  change config.confidenceBits.toNat = 0 ∨ _ ↔ _
  omega

theorem threshold_refused_iff {config : PredictorConfig}
    (narrow : config.confidenceBits.toNat ≤ Confidence.maxWidth) :
    config.confidenceMax < config.threshold ↔
      ¬ config.threshold.toNat ≤ 2 ^ config.confidenceBits.toNat - 1 := by
  rw [UInt32.lt_iff_toNat_lt, toNat_confidenceMax narrow, Nat.not_le]

theorem validate_eq_ok_iff (config : PredictorConfig) :
    config.validate = .ok () ↔
      config.tableSize.toNat.isPowerOfTwo ∧
      0 < config.confidenceBits.toNat ∧ config.confidenceBits.toNat ≤ Confidence.maxWidth ∧
      config.threshold.toNat ≤ 2 ^ config.confidenceBits.toNat - 1 := by
  unfold validate
  by_cases size : config.tableSize.toNat.isPowerOfTwo
  case neg => simp [size]
  rw [if_neg (not_not_intro size)]
  by_cases width : 0 < config.confidenceBits.toNat ∧
      config.confidenceBits.toNat ≤ Confidence.maxWidth
  case neg =>
      rw [if_pos (config.width_refused_iff.mpr width)]
      constructor
      · intro impossible
        cases impossible
      · rintro ⟨-, positive, narrow, -⟩
        exact absurd ⟨positive, narrow⟩ width
  rw [if_neg (mt config.width_refused_iff.mp (not_not_intro width))]
  by_cases bounded : config.threshold.toNat ≤ 2 ^ config.confidenceBits.toNat - 1
  case neg =>
      rw [if_pos ((threshold_refused_iff width.2).mpr bounded)]
      constructor
      · intro impossible
        cases impossible
      · rintro ⟨-, -, -, fits⟩
        exact absurd fits bounded
  rw [if_neg (mt (threshold_refused_iff width.2).mp (not_not_intro bounded))]
  exact ⟨fun _ => ⟨size, width.1, width.2, bounded⟩, fun _ => rfl⟩

/-- The counters of a usable configuration are as wide as configured. -/
theorem ceiling_eq {config : PredictorConfig} (usable : config.validate = .ok ()) :
    Confidence.ceiling config.confidenceBits.toNat = 2 ^ config.confidenceBits.toNat - 1 := by
  obtain ⟨-, positive, narrow, -⟩ := config.validate_eq_ok_iff.mp usable
  unfold Confidence.ceiling
  rw [show Nat.max 1 config.confidenceBits.toNat = config.confidenceBits.toNat from
    Nat.max_eq_right positive, Nat.min_eq_right narrow]
  rfl

end PredictorConfig

def Predictor.fresh (config : PredictorConfig) (usable : config.validate = .ok ())
    (threads : UInt64) : Predictor where
  enabled := config.enabled
  threshold := config.threshold.toNat
  table := .blank config.tableSize.toNat (config.isPowerOfTwo_of_validate usable)
    config.confidenceBits.toNat
  histories := List.replicate threads.toNat {}

theorem Predictor.create_eq_ok_iff {config : PredictorConfig} {threads : UInt64} {p : Predictor} :
    Predictor.create config threads = .ok p ↔
      GeneralConfig.validate { threads } = .ok () ∧
        ∃ usable : config.validate = .ok (), p = .fresh config usable threads := by
  unfold create
  cases slots : GeneralConfig.validate { threads } with
  | error broken =>
      constructor
      · intro impossible
        cases impossible
      · rintro ⟨impossible, -⟩
        cases impossible
  | ok _ =>
      dsimp only [bind, Except.bind]
      split
      case h_1 broken refused =>
          constructor
          · intro impossible
            cases impossible
          · rintro ⟨-, usable, -⟩
            rw [refused] at usable
            cases usable
      case h_2 usable =>
          constructor
          · intro made
            cases made
            exact ⟨rfl, usable, rfl⟩
          · rintro ⟨-, -, rfl⟩
            rfl

@[simp] theorem Predictor.inFlight_fresh (config : PredictorConfig)
    (usable : config.validate = .ok ()) (threads : UInt64) (tid : ThreadId) :
    (Predictor.fresh config usable threads).inFlight tid = [] := by
  unfold fresh inFlight
  rw [List.getElem?_replicate]
  by_cases inside : tid.toNat < threads.toNat
  · rw [if_pos inside]
    rfl
  · rw [if_neg inside]

/-- A replayer is made of its predictor, or not at all. -/
theorem Replayer.ofConfig_eq_map (config : Config) :
    Replayer.ofConfig config =
      (Predictor.create config.predictor config.general.threads).map fun predictor =>
        { units := { predictor, simplifier := ⟨config.simplifier.enabled, {}⟩ } } := by
  unfold Replayer.ofConfig Units.ofConfig Predictor.ofConfig
  cases Predictor.create config.predictor config.general.threads <;> rfl

/-- A replayer starts with a fresh predictor, an uncounted simplifier and no registers. -/
theorem Replayer.ofConfig_eq_ok_iff {config : Config} {start : Replayer} :
    Replayer.ofConfig config = .ok start ↔
      GeneralConfig.validate { threads := config.general.threads } = .ok () ∧
        ∃ usable : config.predictor.validate = .ok (),
          start =
            { units :=
                { predictor := .fresh config.predictor usable config.general.threads
                  simplifier := ⟨config.simplifier.enabled, {}⟩ } } := by
  rw [ofConfig_eq_map]
  constructor
  · intro made
    cases created : Predictor.create config.predictor config.general.threads with
    | error broken =>
        rw [created] at made
        cases made
    | ok predictor =>
        rw [created] at made
        cases made
        obtain ⟨slots, usable, rfl⟩ := Predictor.create_eq_ok_iff.mp created
        exact ⟨slots, usable, rfl⟩
  · rintro ⟨slots, usable, rfl⟩
    rw [Predictor.create_eq_ok_iff.mpr ⟨slots, usable, rfl⟩]
    rfl

namespace Replayer

variable {config : Config} {start : Replayer}

theorem threads_of_ofConfig (made : Replayer.ofConfig config = .ok start) :
    start.units.predictor.threads = config.general.threads.toNat := by
  obtain ⟨-, usable, rfl⟩ := ofConfig_eq_ok_iff.mp made
  exact List.length_replicate

/-- Every thread slot has a number. -/
theorem threads_le_of_ofConfig (made : Replayer.ofConfig config = .ok start) :
    start.units.predictor.threads ≤ UInt64.size := by
  rw [threads_of_ofConfig made]
  exact Nat.le_of_lt config.general.threads.toNat_lt

theorem inFlight_of_ofConfig (made : Replayer.ofConfig config = .ok start) (tid : ThreadId) :
    start.units.predictor.inFlight tid = [] := by
  obtain ⟨-, usable, rfl⟩ := ofConfig_eq_ok_iff.mp made
  exact Predictor.inFlight_fresh _ usable _ tid

theorem tableSize_of_ofConfig (made : Replayer.ofConfig config = .ok start) :
    start.units.predictor.table.size = config.predictor.tableSize.toNat := by
  obtain ⟨-, usable, rfl⟩ := ofConfig_eq_ok_iff.mp made
  exact Array.size_replicate

end Replayer

end EarlyResolution
