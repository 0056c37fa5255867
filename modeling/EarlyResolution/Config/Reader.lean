import EarlyResolution.Failure
import EarlyResolution.Json.Decode

/-!
# Reading a configuration

Each section and each field may be left out and keeps its default; unknown keys
are passed over.  The rules for a usable configuration are checked once the
whole text has been read.
-/

namespace EarlyResolution

open Json (Reader Value)

namespace GeneralConfig

def fields : List (Reader.Field GeneralConfig) :=
  [⟨"threads", fun config => do
      return { config with threads := ← Reader.scalar "usize" (Value.toWord "usize") }⟩]

def reader : Reader GeneralConfig :=
  Reader.record "struct GeneralConfig" fields {}

end GeneralConfig

namespace PredictorConfig

def fields : List (Reader.Field PredictorConfig) :=
  [⟨"enabled", fun config => do
      return { config with enabled := ← Reader.scalar "a boolean" Value.toBool }⟩,
   ⟨"table_size", fun config => do
      return { config with tableSize := ← Reader.scalar "usize" (Value.toWord "usize") }⟩,
   ⟨"confidence_threshold", fun config => do
      return { config with threshold := ← Reader.scalar "u32" (Value.toWord32 "u32") }⟩,
   ⟨"confidence_bits", fun config => do
      return { config with confidenceBits := ← Reader.scalar "u32" (Value.toWord32 "u32") }⟩]

def reader : Reader PredictorConfig :=
  Reader.record "struct LvpConfig" fields {}

end PredictorConfig

namespace SimplifierConfig

def fields : List (Reader.Field SimplifierConfig) :=
  [⟨"enabled", fun config => do
      return { config with enabled := ← Reader.scalar "a boolean" Value.toBool }⟩]

def reader : Reader SimplifierConfig :=
  Reader.record "struct CompSimplifierConfig" fields {}

end SimplifierConfig

namespace Config

def fields : List (Reader.Field Config) :=
  [⟨"general", fun config => do return { config with general := ← GeneralConfig.reader }⟩,
   ⟨"lvp", fun config => do return { config with predictor := ← PredictorConfig.reader }⟩,
   ⟨"comp_simplifier", fun config => do
      return { config with simplifier := ← SimplifierConfig.reader }⟩]

def reader : Reader Config :=
  Reader.record "struct Config" fields {}

def checked (config : Config) : Except Failure Config :=
  match config.validate with
  | .ok () => .ok config
  | .error error => .error (.config error)

/-- The usable configuration that a text describes. -/
def ofJson (text : String) : Except Failure Config :=
  match reader.run text with
  | .error problem => .error (.parse problem)
  | .ok config => config.checked

def ofFile (content : FileContent) : Except Failure Config :=
  readText content >>= ofJson

end Config

end EarlyResolution
