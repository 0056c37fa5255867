import EarlyResolution.Note
import EarlyResolution.Prediction.Predictor
import EarlyResolution.Text.Hexadecimal

/-!
# What the load value predictor notes

Hits, changes of value and squashes are noted at debug level; misses, repeated
values and evictions at trace level.
-/

namespace EarlyResolution.Predictor

open Text (hex)

def traceNote (message : String) : Note :=
  ⟨.trace, "lvp", message⟩

def debugNote (message : String) : Note :=
  ⟨.debug, "lvp", message⟩

def predictNotes (p : Predictor) (pc : UInt64) (tid : ThreadId) : List Note :=
  match p.lookup pc with
  | .off => []
  | .hit value confidence =>
      [debugNote s!"predict [tid:{tid}] [PC:{hex pc}] -> {hex value} (confidence {confidence})"]
  | .miss valid confidence =>
      [traceNote <| s!"no prediction [tid:{tid}] [PC:{hex pc}] " ++
        s!"(valid={valid}, confidence={confidence})"]

/-- Notes on a dispatch: those of its lookup, if the thread exists. -/
def dispatchNotes (p : Predictor) (pc : UInt64) (tid : ThreadId) : List Note :=
  if tid.toNat < p.threads then p.predictNotes pc tid else []

def validateNotes (p : Predictor) (seq actual : UInt64) : List Note :=
  match p.check seq actual with
  | .unrecorded => []
  | .correct predicted =>
      [debugNote <| s!"validated correct [sn:{seq}] " ++
        s!"predicted={hex predicted} actual={hex actual}"]
  | .incorrect predicted =>
      [debugNote <| s!"validated INCORRECT [sn:{seq}] " ++
        s!"predicted={hex predicted} actual={hex actual}"]

/-- Notes on a squash: one per record forgotten, the youngest first. -/
def squashNotes (p : Predictor) (point : UInt64) (tid : ThreadId) : List Note :=
  (p.squashed point tid).map fun load =>
    debugNote s!"squash history [tid:{tid}] [sn:{load.seq}] [PC:{hex load.pc}]"

def updateNotes (p : Predictor) (pc value : UInt64) : List Note :=
  match (p.entry pc).training pc value with
  | .repeated confidence =>
      [traceNote <| s!"update [PC:{hex pc}] same value {hex value}, " ++
        s!"confidence -> {confidence}"]
  | .revalued =>
      [debugNote s!"update [PC:{hex pc}] new value {hex value}, confidence reset"]
  | .installed evicted =>
      (evicted.toList.map fun tag =>
        traceNote s!"evict [PC:{hex tag}] from slot {p.table.slot pc}") ++
      [debugNote s!"install [PC:{hex pc}] value {hex value}"]

end EarlyResolution.Predictor
