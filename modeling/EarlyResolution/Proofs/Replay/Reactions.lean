import EarlyResolution.Proofs.Counting
import EarlyResolution.Proofs.Prediction.Calls
import EarlyResolution.Proofs.Replay.Events

/-!
# Reactions

An event is settled before it changes anything: what comes of it, what it does to
the records of its thread and what it adds to the counters are all read off the
units that it finds.  The change itself is the same for every kind of event.  The
units absorb the reaction: one history changes, a commit trains the table, and the
counters grow.

Registers are not part of this.  They are renamed at every issue and never looked
at again, so they are left out of sight.
-/

namespace EarlyResolution

def Event.update? : Event → Option Update
  | .commitLoad _ pc _ value => some (pc, value)
  | .dispatchLoad _ _ _ | .writebackLoad _ _ _ | .squash _ _ | .issue _ => none

/-- What comes of an event, and what it does to the records of its thread and to the counters. -/
structure Reaction where
  result : Result
  change : History → History := fun history => history
  loads : LoadCounters := 0
  issues : SimplifyCounters := 0

namespace Reaction

/-- A dispatched load is answered as the table does, and its record kept if it was handed a
value. -/
def ofLookup (seq pc : UInt64) (tid : ThreadId) (answer : Lookup) : Reaction where
  result := .ok (.ofDispatch answer.value?)
  change history :=
    answer.value?.elim history fun value => history.push (Predictor.recordOf seq pc tid value)
  loads := .addLookup 0 answer

def ofCheck (seq : UInt64) (verdict : Check) : Reaction where
  result := .ok (if verdict.passes then .validated else .mispredicted)
  change history := if verdict.passes then history else history.squash seq
  loads := .addCheck 0 verdict

def ofIssue (issue : Issue) (enabled : Bool) : Reaction where
  result := .ok (.ofIssue (issue.effect enabled 0).1)
  issues := (issue.effect enabled 0).2

end Reaction

namespace Units

def reaction (units : Units) : Event → Reaction
  | .dispatchLoad seq pc tid =>
      if tid.toNat < units.predictor.threads then
        .ofLookup seq pc tid (units.predictor.lookup pc)
      else { result := .error (.threadOutOfRange seq tid units.predictor.threads) }
  | .writebackLoad seq _ actual => .ofCheck seq (units.predictor.check seq actual)
  | .commitLoad seq _ _ _ => { result := .ok .committed, change := (·.retire seq) }
  | .squash point _ => { result := .ok .squashed, change := (·.squash point) }
  | .issue issue =>
      if maxDestinations < issue.dests.toNat then
        { result := .error (.destinationCount issue.seq issue.dests) }
      else .ofIssue issue units.simplifier.enabled

/-- The units behind an event with the given reaction; the registers are left as they were. -/
def absorb (units : Units) (event : Event) (reaction : Reaction) : Units :=
  { units with
    predictor :=
      { units.predictor.modifyHistory event.tid reaction.change with
        table := units.predictor.table.trainAll event.update?.toList
        counters := units.predictor.counters + reaction.loads }
    simplifier :=
      { units.simplifier with counters := units.simplifier.counters + reaction.issues } }

def visible (units : Units) : Units :=
  { units with registers := {} }

end Units

/-! ## Every event is absorbed -/

namespace Predictor

theorem modifyHistory_same (p : Predictor) (tid : ThreadId) :
    p.modifyHistory tid (fun history => history) = p :=
  congrArg (fun histories => { p with histories }) (List.modify_id _ _)

theorem dispatch_eq_modifyHistory {p : Predictor} {tid : ThreadId}
    (inside : tid.toNat < p.threads) (seq pc : UInt64) :
    (p.dispatch seq pc tid).2 =
      { p.modifyHistory tid (Reaction.ofLookup seq pc tid (p.lookup pc)).change with
        counters := p.counters.addLookup (p.lookup pc) } := by
  rw [dispatch_of_lt inside, predict]
  cases p.lookup pc with
  | hit value confidence => rfl
  | off | miss valid confidence => exact (modifyHistory_same _ tid).symm

theorem validate_eq_modifyHistory (p : Predictor) (seq actual : UInt64) (tid : ThreadId) :
    (if (p.check seq actual).passes then (p.validate seq actual).2
      else (p.validate seq actual).2.squash seq tid) =
      { p.modifyHistory tid (Reaction.ofCheck seq (p.check seq actual)).change with
        counters := p.counters.addCheck (p.check seq actual) } := by
  rw [validate]
  cases p.check seq actual with
  | incorrect predicted => rfl
  | unrecorded | correct predicted => exact (modifyHistory_same _ tid).symm

end Predictor

namespace Units

variable (units : Units)

/-- A reaction that changes and counts nothing is absorbed without a trace. -/
theorem absorb_idle {event : Event} (untrained : event.update? = none) (result : Result) :
    units.absorb event { result } = units := by
  unfold absorb
  rw [untrained, Predictor.modifyHistory_same, LoadCounters.add_zero, SimplifyCounters.add_zero]
  rfl

/-- An event comes to what its reaction says, and its reaction is all that it does. -/
theorem react_eq_absorb (event : Event) :
    (units.react event).1 = (units.reaction event).result ∧
      (units.react event).2.visible = (units.absorb event (units.reaction event)).visible := by
  cases event with
  | dispatchLoad seq pc tid =>
      rw [react_dispatchLoad, reaction]
      by_cases inside : tid.toNat < units.predictor.threads
      · have counted := units.predictor.counters.addLookup_eq_add (units.predictor.lookup pc)
        rw [Predictor.dispatch_eq_modifyHistory inside, Predictor.dispatch_of_lt inside,
          if_pos inside, counted]
        exact ⟨rfl, rfl⟩
      · rw [Predictor.dispatch_of_le (Nat.not_lt.mp inside), if_neg inside, absorb_idle _ rfl]
        exact ⟨rfl, rfl⟩
  | writebackLoad seq tid value =>
      have counted := units.predictor.counters.addCheck_eq_add (units.predictor.check seq value)
      have checked := units.predictor.validate_eq_modifyHistory seq value tid
      rw [counted] at checked
      rw [react_writebackLoad, reaction]
      by_cases passes : (units.predictor.check seq value).passes
      · rw [if_pos passes] at checked ⊢
        rw [checked]
        exact ⟨congrArg Except.ok (if_pos passes).symm, rfl⟩
      · rw [if_neg passes] at checked ⊢
        rw [checked]
        exact ⟨congrArg Except.ok (if_neg passes).symm, rfl⟩
  | commitLoad seq pc tid value => exact ⟨rfl, rfl⟩
  | squash point tid => exact ⟨rfl, rfl⟩
  | issue issue =>
      rw [react_issue, reaction]
      by_cases crowded : maxDestinations < issue.dests.toNat
      · rw [if_pos crowded, if_pos crowded, absorb_idle _ rfl]
        exact ⟨rfl, rfl⟩
      · have result := issue.effect_fst units.simplifier.enabled units.simplifier.counters
        have counted := issue.effect_snd units.simplifier.enabled units.simplifier.counters
        rw [if_neg crowded, if_neg crowded, absorb, Reaction.ofIssue,
          Predictor.modifyHistory_same, LoadCounters.add_zero]
        refine ⟨congrArg (Except.ok ∘ Outcome.ofIssue) result, ?_⟩
        exact congrArg
          (fun counters => { units with simplifier := { units.simplifier with counters } }.visible)
          counted

/-! ## What a reaction depends on -/

/-- Only a commit trains the table, and nothing changes the settings. -/
theorem predictor_react (event : Event) :
    ∃ histories counters,
      (units.react event).2.predictor =
        { units.predictor with
          table := units.predictor.table.trainAll event.update?.toList, histories, counters } := by
  have absorbed := congrArg Units.predictor (units.react_eq_absorb event).2
  exact ⟨_, _, absorbed⟩

/-- Of the records an event changes those of its own thread, as its reaction says. -/
theorem histories_react (event : Event) :
    (units.react event).2.predictor.histories =
      units.predictor.histories.modify event.tid.toNat (units.reaction event).change := by
  have absorbed := congrArg Units.predictor (units.react_eq_absorb event).2
  exact congrArg Predictor.histories absorbed

/-- Of the event itself only its thread and what it trains matter to the change. -/
theorem absorb_eq {event event' : Event} (tid : event.tid = event'.tid)
    (update : event.update? = event'.update?) (reaction : Reaction) :
    units.absorb event reaction = units.absorb event' reaction := by
  rw [absorb, absorb, tid, update]

variable {units} {other : Units}

/-- A dispatch reads an answer of the table, a writeback a record, an instruction the switch. -/
theorem reaction_eq_of_reads {event : Event}
    (threads : units.predictor.threads = other.predictor.threads)
    (answer : ∀ seq pc tid, event = .dispatchLoad seq pc tid →
      units.predictor.lookup pc = other.predictor.lookup pc)
    (found : ∀ seq tid actual, event = .writebackLoad seq tid actual →
      units.predictor.recorded? seq = other.predictor.recorded? seq)
    (enabled : units.simplifier.enabled = other.simplifier.enabled) :
    units.reaction event = other.reaction event := by
  cases event with
  | dispatchLoad seq pc tid => rw [reaction, reaction, threads, answer seq pc tid rfl]
  | writebackLoad seq tid actual =>
      rw [reaction, reaction, Predictor.check, Predictor.check, found seq tid actual rfl]
  | commitLoad seq pc tid value => rfl
  | squash point tid => rfl
  | issue issue => rw [reaction, reaction, enabled]

/-- No reaction depends on registers. -/
theorem reaction_eq_of_visible (same : units.visible = other.visible) (event : Event) :
    units.reaction event = other.reaction event := by
  have seen (units : Units) : units.visible.reaction event = units.reaction event := by
    cases event <;> rfl
  rw [← seen, same, seen]

theorem visible_absorb_eq_of_visible (same : units.visible = other.visible) (event : Event)
    (reaction : Reaction) :
    (units.absorb event reaction).visible = (other.absorb event reaction).visible :=
  congrArg (fun units => units.absorb event reaction) same

end Units

/-- Behind any events the table is that of the loads committed among them. -/
theorem Replayer.predictor_after (start : Replayer) (events : List Event) :
    ∃ histories counters,
      (start.after events).units.predictor =
        { start.units.predictor with
          table := start.units.predictor.table.trainAll (events.filterMap Event.update?)
          histories, counters } := by
  induction events generalizing start with
  | nil => exact ⟨_, _, rfl⟩
  | cons event events ih =>
      obtain ⟨_, _, first⟩ := start.units.predictor_react event
      obtain ⟨histories, counters, rest⟩ := ih (start.step event).2
      refine ⟨histories, counters, ?_⟩
      rw [after_cons, rest, units_step, first]
      cases update : event.update? with
      | none => rw [List.filterMap_cons_none update]; rfl
      | some trained => rw [List.filterMap_cons_some update]; rfl

/-! ## Replayers that differ in registers alone -/

def Report.addResult (report : Report) : Result → Report
  | .error _ => report.addEvent
  | .ok outcome => report.addEvent.addOutcome outcome

namespace Replayer

def visible (replayer : Replayer) : Replayer :=
  { replayer with units := replayer.units.visible }

theorem report_step (replayer : Replayer) (event : Event) :
    (replayer.step event).2.report = replayer.report.addResult (replayer.step event).1 := by
  rw [step]
  split <;> rfl

theorem step_fst_eq_result (replayer : Replayer) (event : Event) :
    (replayer.step event).1 = (replayer.units.reaction event).result := by
  rw [step_fst, (replayer.units.react_eq_absorb event).1]

theorem visible_units_step (replayer : Replayer) (event : Event) :
    (replayer.step event).2.units.visible =
      (replayer.units.absorb event (replayer.units.reaction event)).visible := by
  rw [units_step, (replayer.units.react_eq_absorb event).2]

variable {replayer other : Replayer}

theorem visible_eq_iff :
    replayer.visible = other.visible ↔
      replayer.units.visible = other.units.visible ∧ replayer.report = other.report := by
  rw [visible, visible, Replayer.mk.injEq]

/-- Events with one reaction leave replayers alike that are alike but for registers. -/
theorem step_congr (same : replayer.visible = other.visible) {event event' : Event}
    (tid : event.tid = event'.tid) (update : event.update? = event'.update?)
    (reaction : replayer.units.reaction event = replayer.units.reaction event') :
    (replayer.step event).1 = (other.step event').1 ∧
      (replayer.step event).2.visible = (other.step event').2.visible := by
  obtain ⟨units, report⟩ := visible_eq_iff.mp same
  have settled : other.units.reaction event' = replayer.units.reaction event := by
    rw [reaction, Units.reaction_eq_of_visible units]
  have result : (replayer.step event).1 = (other.step event').1 := by
    rw [step_fst_eq_result, step_fst_eq_result, settled]
  refine ⟨result, visible_eq_iff.mpr ⟨?_, ?_⟩⟩
  · rw [visible_units_step, visible_units_step, settled, Units.absorb_eq _ tid update,
      Units.visible_absorb_eq_of_visible units]
  · rw [report_step, report_step, report, result]

theorem visible_after_eq (same : replayer.visible = other.visible) (events : List Event) :
    (replayer.after events).visible = (other.after events).visible := by
  induction events generalizing replayer other with
  | nil => exact same
  | cons event events ih => exact ih (step_congr same rfl rfl rfl).2

end Replayer

end EarlyResolution
