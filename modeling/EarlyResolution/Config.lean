import EarlyResolution.Prediction.Confidence

/-!
# Unit configuration

The parameters of both units with their defaults, and the rules that make a
configuration usable.  The rules are checked in a fixed order and the first one
broken is reported.
-/

namespace EarlyResolution

def maxThreads : Nat := 4

structure GeneralConfig where
  threads : UInt64 := 4
  deriving DecidableEq, Repr

structure PredictorConfig where
  enabled : Bool := false
  tableSize : UInt64 := 4096
  threshold : UInt32 := 7
  confidenceBits : UInt32 := 3
  deriving DecidableEq, Repr

structure SimplifierConfig where
  enabled : Bool := false
  deriving DecidableEq, Repr

structure Config where
  general : GeneralConfig := {}
  predictor : PredictorConfig := {}
  simplifier : SimplifierConfig := {}
  deriving DecidableEq, Repr

inductive ConfigError where
  | tableSizeNotPowerOfTwo (size : UInt64)
  | confidenceBits (bits : UInt32)
  /-- No counter of the configured width reaches the threshold. -/
  | thresholdUnreachable (threshold max : UInt32)
  | threadCount (threads : UInt64)
  deriving DecidableEq, Repr

def ConfigError.message : ConfigError → String
  | tableSizeNotPowerOfTwo size =>
      s!"LVP table size must be a power of 2, got {size}"
  | confidenceBits bits =>
      s!"LVP confidence counter width must be in 1..={Confidence.maxWidth} bits, got {bits}"
  | thresholdUnreachable threshold max =>
      s!"LVP confidence threshold {threshold} exceeds counter maximum {max}"
  | threadCount threads =>
      s!"thread count must be in 1..={maxThreads}, got {threads}"

def GeneralConfig.validate (config : GeneralConfig) : Except ConfigError Unit :=
  if config.threads = 0 ∨ maxThreads < config.threads.toNat then
    .error (.threadCount config.threads)
  else .ok ()

namespace PredictorConfig

/-- The largest value of the configured counter: `2 ^ bits - 1`, capped at the largest word. -/
def confidenceMax (config : PredictorConfig) : UInt32 :=
  if config.confidenceBits < 32 then (1 <<< config.confidenceBits) - 1 else 0xFFFFFFFF

/-- Table geometry first, then counter width, then threshold. -/
def validate (config : PredictorConfig) : Except ConfigError Unit :=
  if ¬ config.tableSize.toNat.isPowerOfTwo then
    .error (.tableSizeNotPowerOfTwo config.tableSize)
  else if config.confidenceBits = 0 ∨ Confidence.maxWidth < config.confidenceBits.toNat then
    .error (.confidenceBits config.confidenceBits)
  else if config.confidenceMax < config.threshold then
    .error (.thresholdUnreachable config.threshold config.confidenceMax)
  else .ok ()

theorem isPowerOfTwo_of_validate {config : PredictorConfig} (h : config.validate = .ok ()) :
    config.tableSize.toNat.isPowerOfTwo := by
  unfold validate at h
  split at h
  · simp at h
  · simp_all

end PredictorConfig

/-- The general settings are checked before those of the predictor. -/
def Config.validate (config : Config) : Except ConfigError Unit := do
  config.general.validate
  config.predictor.validate

def Config.enableAll (config : Config) : Config :=
  { config with
    predictor := { config.predictor with enabled := true }
    simplifier := { config.simplifier with enabled := true } }

end EarlyResolution
