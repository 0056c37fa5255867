import EarlyResolution.Proofs.Replay.Reactions

/-!
# What outcomes depend on

No unit ever reads its counters, and an instruction is answered from registers
that rename has written for it.  So what comes of an event is settled by the bare
units, with nothing counted and no register written.  Units that agree in this
cannot be told apart by any trace.
-/

namespace EarlyResolution

def Predictor.uncounted (p : Predictor) : Predictor :=
  { p with counters := {} }

/-- The units with nothing counted and no register written. -/
def Units.bare (units : Units) : Units :=
  { predictor := units.predictor.uncounted, simplifier := ⟨units.simplifier.enabled, {}⟩ }

namespace Units

variable {units other : Units}

/-- Bare units are told by the predictor without its counters and by the simplifier's switch. -/
theorem bare_ext (predictor : units.predictor.uncounted = other.predictor.uncounted)
    (enabled : units.simplifier.enabled = other.simplifier.enabled) : units.bare = other.bare := by
  rw [bare, bare, predictor, enabled]

theorem bare_eq_of_visible (same : units.visible = other.visible) : units.bare = other.bare :=
  show units.visible.bare = other.visible.bare from congrArg bare same

/-- No reaction depends on registers or on counters. -/
theorem reaction_eq_of_bare (same : units.bare = other.bare) (event : Event) :
    units.reaction event = other.reaction event := by
  have told (units : Units) : units.bare.reaction event = units.reaction event := by
    cases event <;> rfl
  rw [← told, same, told]

theorem result_eq_of_bare (same : units.bare = other.bare) (event : Event) :
    (units.react event).1 = (other.react event).1 := by
  rw [(units.react_eq_absorb event).1, (other.react_eq_absorb event).1, reaction_eq_of_bare same]

/-- What an event does to the bare units is settled by the bare units. -/
theorem bare_react_eq_of_bare (same : units.bare = other.bare) (event : Event) :
    (units.react event).2.bare = (other.react event).2.bare := by
  have absorbed (units : Units) : (units.react event).2.bare =
      (units.bare.absorb event (units.reaction event)).bare := by
    rw [bare_eq_of_visible (units.react_eq_absorb event).2]
    rfl
  rw [absorbed, absorbed, same, reaction_eq_of_bare same]

end Units

namespace Replayer

variable {replayer other : Replayer}

/-- No trace tells replayers apart whose units agree when bare. -/
theorem log_eq_of_bare (same : replayer.units.bare = other.units.bare) (events : List Event) :
    replayer.log events = other.log events := by
  induction events generalizing replayer other with
  | nil => rfl
  | cons event events ih =>
      have answer : (replayer.step event).1 = (other.step event).1 := by
        rw [step_fst, step_fst, Units.result_eq_of_bare same]
      have after : (replayer.step event).2.units.bare = (other.step event).2.units.bare := by
        rw [units_step, units_step, Units.bare_react_eq_of_bare same]
      rw [log_cons, log_cons, answer, ih after]

theorem log_eq_of_visible (same : replayer.visible = other.visible) (events : List Event) :
    replayer.log events = other.log events :=
  log_eq_of_bare (Units.bare_eq_of_visible (visible_eq_iff.mp same).1) events

end Replayer

end EarlyResolution
