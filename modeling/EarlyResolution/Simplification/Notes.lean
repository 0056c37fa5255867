import EarlyResolution.Note
import EarlyResolution.Simplification.Simplifier
import EarlyResolution.Text.Hexadecimal

/-!
# What the computation simplifier notes

Only an instruction whose mode flag was read is spoken of.
-/

namespace EarlyResolution.Simplifier

open Text (hex)

def speaker : String := "comp_simp"

def attemptNotes (inst : Instruction) : Attempt → List Note
  | .bypassed | .misshapen => []
  | .suppressed =>
      [⟨.debug, speaker, s!"constant-time mode: skipping [sn:{inst.seq}] PC {hex inst.pc}"⟩]
  | .plain a b =>
      [⟨.trace, speaker, s!"no identity for [sn:{inst.seq}] PC {hex inst.pc} " ++
        s!"({hex a}, {hex b})"⟩]
  | .simplified a b result identity =>
      [⟨.debug, speaker, s!"simplified [sn:{inst.seq}] PC {hex inst.pc}: {identity.name} " ++
        s!"({hex a}, {hex b}) = {hex result}"⟩]

def trySimplifyNotes (unit : Simplifier) (inst : Instruction)
    (read : PhysReg → ThreadId → UInt64) : List Note :=
  match unit.attempt inst read with
  | .error _ => []
  | .ok attempt => attemptNotes inst attempt

end EarlyResolution.Simplifier
