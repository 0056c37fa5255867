import Mathlib.Logic.Relation
import EarlyResolution.Proofs.Prediction.Training
import EarlyResolution.Proofs.Replay.Bare
import EarlyResolution.Proofs.Replay.Lifecycle

/-!
# Independent events commute

Events of different threads meet in nothing but the table, and there only where a
load commits to the slot that the other event reads or trains.  Apart from that
neither reaction depends on whether the other event came first, and absorbing both
comes to the same in either order.  So a trace may be rearranged by swapping such
neighbours, and every event still comes to what it came to before.
-/

namespace EarlyResolution

/-! ## Traces up to the order of independent events -/

namespace Event

/-- A commit trains the slot that the other event's load reads or trains. -/
def TrainsSlotOf (size : Nat) : Event → Event → Prop
  | .commitLoad _ pc _ _, .commitLoad _ pc' _ _ | .commitLoad _ pc _ _, .dispatchLoad _ pc' _ =>
      pc.toNat / 4 % size = pc'.toNat / 4 % size
  | _, _ => False

/-- Events of one thread, or of one slot of the table where one of them trains it. -/
def Conflict (size : Nat) (first second : Event) : Prop :=
  first.tid = second.tid ∨ first.TrainsSlotOf size second ∨ second.TrainsSlotOf size first

theorem Conflict.symm {size : Nat} {first second : Event} (conflict : first.Conflict size second) :
    second.Conflict size first := by
  rcases conflict with same | trains | trained
  · exact .inl same.symm
  · exact .inr (.inr trains)
  · exact .inr (.inl trained)

end Event

/-- The second trace is the first with two neighbours swapped that do not conflict. -/
inductive Swapped (size : Nat) : List Event → List Event → Prop where
  | swap (before : List Event) {first second : Event} (behind : List Event)
      (free : ¬ first.Conflict size second) :
      Swapped size (before ++ first :: second :: behind) (before ++ second :: first :: behind)

theorem Swapped.perm {size : Nat} {one other : List Event} (swapped : Swapped size one other) :
    one.Perm other := by
  obtain ⟨before, behind, -⟩ := swapped
  exact (List.Perm.swap _ _ behind).append_left before

/-! ## Absorbing two reactions -/

/-- Trainings of different slots commute. -/
theorem Table.train_comm (table : Table) {pc pc' : UInt64} (apart : table.slot pc ≠ table.slot pc')
    (value value' : UInt64) :
    (table.train pc value).train pc' value' = (table.train pc' value').train pc value := by
  have entries (slot : Nat) : ((table.train pc value).train pc' value').entries[slot]? =
      ((table.train pc' value').train pc value).entries[slot]? := by
    rw [getElem?_train, getElem?_train, getElem?_train, getElem?_train, slot_train, slot_train,
      entry_train, entry_train, if_neg apart, if_neg apart.symm]
    by_cases here : table.slot pc = slot
    · subst slot
      rw [if_neg apart.symm, if_pos rfl, if_pos rfl]
    · rw [if_neg here, if_neg here]
  rw [Table.mk.injEq]
  exact Array.ext_getElem? entries

namespace Event

variable {size : Nat} {table : Table} {first second : Event}

theorem slot_ne_of_not_conflict (measured : table.size = size)
    (free : ¬ first.Conflict size second) {update update' : Update}
    (trained : first.update? = some update) (trained' : second.update? = some update') :
    table.slot update.1 ≠ table.slot update'.1 := by
  intro shared
  rw [Table.slot_eq_mod, Table.slot_eq_mod, measured] at shared
  cases first with
  | commitLoad =>
      cases second with
      | commitLoad =>
          cases trained
          cases trained'
          exact free (.inr (.inl shared))
      | _ => cases trained'
  | _ => cases trained

/-- Trainings by events that do not conflict commute. -/
theorem trainAll_comm (measured : table.size = size) (free : ¬ first.Conflict size second) :
    (table.trainAll first.update?.toList).trainAll second.update?.toList =
      (table.trainAll second.update?.toList).trainAll first.update?.toList := by
  cases trained : first.update? with
  | none => rfl
  | some update =>
      cases trained' : second.update? with
      | none => rfl
      | some update' =>
          exact table.train_comm (slot_ne_of_not_conflict measured free trained trained') _ _

/-- A dispatch reads the same entry before and behind a commit that does not conflict. -/
theorem entry_trainAll (measured : table.size = size) {seq pc : UInt64} {tid : ThreadId}
    (free : ¬ first.Conflict size (.dispatchLoad seq pc tid)) :
    (table.trainAll first.update?.toList).entry pc = table.entry pc := by
  cases first with
  | commitLoad seq' pc' tid' value =>
      have apart : table.slot pc' ≠ table.slot pc := by
        intro shared
        rw [Table.slot_eq_mod, Table.slot_eq_mod, measured] at shared
        exact free (.inr (.inl shared))
      exact (table.entry_train pc' value pc).trans (if_neg apart)
  | _ => rfl

end Event

namespace Units

variable (units : Units) {size : Nat} {first second : Event}

/-- Reactions to events that do not conflict are absorbed alike in either order. -/
theorem absorb_comm (measured : units.predictor.table.size = size)
    (free : ¬ first.Conflict size second) (reaction reaction' : Reaction) :
    (units.absorb first reaction).absorb second reaction' =
      (units.absorb second reaction').absorb first reaction := by
  have slots : first.tid.toNat ≠ second.tid.toNat := by
    intro same
    exact free (.inl (UInt64.toNat_inj.mp same))
  have table := Event.trainAll_comm measured free
  have histories := List.modify_modify_ne reaction.change reaction'.change
    units.predictor.histories slots
  have loads := LoadCounters.add_right_comm units.predictor.counters reaction.loads reaction'.loads
  have issues :=
    SimplifyCounters.add_right_comm units.simplifier.counters reaction.issues reaction'.issues
  simp only [absorb, Predictor.modifyHistory, table, histories, loads, issues]

/-- An event reacts alike before and behind one that does not conflict with it. -/
theorem reaction_absorb (measured : units.predictor.table.size = size)
    (free : ¬ first.Conflict size second) (reaction : Reaction)
    (checked : ∀ seq tid actual, second = .writebackLoad seq tid actual →
      (units.absorb first reaction).predictor.recorded? seq = units.predictor.recorded? seq) :
    (units.absorb first reaction).reaction second = units.reaction second := by
  refine reaction_eq_of_reads (units.predictor.threads_modifyHistory _ _) ?_ checked rfl
  rintro seq pc tid rfl
  have entry : (units.absorb first reaction).predictor.entry pc = units.predictor.entry pc :=
    Event.entry_trainAll measured free
  rw [Predictor.lookup, entry]
  rfl

end Units

/-! ## Two steps in either order -/

theorem Report.addResult_comm (report : Report) (first second : Result) :
    (report.addResult first).addResult second = (report.addResult second).addResult first := by
  have outcomes (report : Report) (one other : Outcome) :
      (report.addOutcome one).addOutcome other = (report.addOutcome other).addOutcome one := by
    cases one <;> cases other <;> rfl
  have event (report : Report) (outcome : Outcome) :
      (report.addOutcome outcome).addEvent = report.addEvent.addOutcome outcome := by
    cases outcome <;> rfl
  rcases first with violation | one <;> rcases second with violation' | other
  · rfl
  · exact (event _ other).symm
  · exact event _ one
  · simp only [addResult, event, outcomes]

namespace Replayer

variable {config : Config} {start : Replayer} {owner : UInt64 → ThreadId} {before : List Event}
  {first second : Event}

theorem tableSize_after (made : Replayer.ofConfig config = .ok start) (events : List Event) :
    (start.after events).units.predictor.table.size = config.predictor.tableSize.toNat := by
  obtain ⟨histories, counters, after⟩ := start.predictor_after events
  rw [after, Table.size_trainAll, tableSize_of_ofConfig made]

/-- Where loads have owners, an event reacts alike before and behind one that does not conflict. -/
theorem reaction_step_eq (made : Replayer.ofConfig config = .ok start)
    (owned : ∀ event ∈ before ++ [first, second], event.OwnedBy owner)
    (free : ¬ first.Conflict config.predictor.tableSize.toNat second) :
    ((start.after before).step first).2.units.reaction second =
      (start.after before).units.reaction second := by
  have absorbed := ((start.after before).units.react_eq_absorb first).2
  rw [units_step, Units.reaction_eq_of_visible absorbed]
  apply Units.reaction_absorb _ (tableSize_after made before) free
  rintro seq tid actual rfl
  -- The load is checked against its owner's records, which the other thread leaves alone.
  have mine : tid = owner seq := owned (.writebackLoad seq tid actual) (by simp)
  have apart : first.tid ≠ tid := fun same => free (.inl same)
  have blank := inFlight_of_ofConfig made
  have few := threads_le_of_ofConfig made
  have found (events : List Event) (part : ∀ event ∈ events, event.OwnedBy owner) :=
    recorded?_after_eq_find? blank few fun _ => tid_eq_of_recorded?_after blank few
      fun pc other dispatched => (part (.dispatchLoad seq pc other) dispatched).trans mine.symm
  have here := found before fun event member => owned event (List.mem_append_left _ member)
  have behind := found (before ++ [first]) fun event member => owned event (by
    rw [List.append_cons]
    exact List.mem_append_left _ member)
  rw [after_concat, units_step, Units.inFlight_react_of_ne _ apart, ← here] at behind
  have seen := congrArg (fun units => units.predictor.recorded? seq) absorbed
  exact seen.symm.trans behind

/-- Two neighbours that do not conflict come to the same in either order, and leave the same. -/
theorem step_swap (made : Replayer.ofConfig config = .ok start)
    (owned : ∀ event ∈ before ++ [first, second], event.OwnedBy owner)
    (free : ¬ first.Conflict config.predictor.tableSize.toNat second) :
    let now := start.after before
    ((now.step second).2.step first).1 = (now.step first).1 ∧
      ((now.step first).2.step second).1 = (now.step second).1 ∧
      ((now.step first).2.step second).2.visible = ((now.step second).2.step first).2.visible := by
  intro now
  have owned' : ∀ event ∈ before ++ [second, first], event.OwnedBy owner := by
    intro event member
    exact owned event (((List.Perm.swap _ _ []).append_left before).mem_iff.mp member)
  have late : (now.step first).2.units.reaction second = now.units.reaction second :=
    reaction_step_eq made owned free
  have early : (now.step second).2.units.reaction first = now.units.reaction first :=
    reaction_step_eq made owned' (mt Event.Conflict.symm free)
  have results : ((now.step second).2.step first).1 = (now.step first).1 ∧
      ((now.step first).2.step second).1 = (now.step second).1 := by
    simp only [step_fst_eq_result, late, early, and_self]
  refine ⟨results.1, results.2, visible_eq_iff.mpr ⟨?_, ?_⟩⟩
  · rw [visible_units_step, visible_units_step, late, early,
      Units.visible_absorb_eq_of_visible (now.visible_units_step first),
      Units.visible_absorb_eq_of_visible (now.visible_units_step second),
      Units.absorb_comm _ (tableSize_after made before) free]
  · rw [report_step, report_step, report_step, report_step, results.1, results.2,
      Report.addResult_comm]

/-! ## Rearranged traces -/

variable {one other : List Event}

/-- One swap leaves every thread its events with the same results, and leaves the same behind. -/
theorem log_eq_of_swapped (made : Replayer.ofConfig config = .ok start)
    (owned : ∀ event ∈ one, event.OwnedBy owner)
    (swapped : Swapped config.predictor.tableSize.toNat one other) :
    (∀ tid, ((start.log one).filter fun entry => entry.1.tid = tid) =
      (start.log other).filter fun entry => entry.1.tid = tid) ∧
      (start.after one).visible = (start.after other).visible := by
  obtain @⟨before, first, second, behind, free⟩ := swapped
  have ownedSoFar : ∀ event ∈ before ++ [first, second], event.OwnedBy owner := by
    intro event member
    refine owned event ?_
    rw [show before ++ first :: second :: behind = before ++ [first, second] ++ behind by simp]
    exact List.mem_append_left behind member
  obtain ⟨early, late, same⟩ := step_swap made ownedSoFar free
  constructor
  · intro tid
    rw [log_append, log_append, log_cons, log_cons, log_cons, log_cons, early, late,
      log_eq_of_visible same, List.filter_append, List.filter_append]
    by_cases here : first.tid = tid
    · have elsewhere : second.tid ≠ tid := fun there => free (.inl (here.trans there.symm))
      simp [here, elsewhere]
    · simp [List.filter_cons, here]
  · rw [after_append, after_append, after_cons, after_cons, after_cons, after_cons]
    exact visible_after_eq same behind

/--
Independent events commute.  However a trace is rearranged by swapping neighbours
that do not conflict, the events of every thread come to the same in the same
order, and the run leaves the same table, records, report and counters.
-/
theorem rearranging_changes_nothing (made : Replayer.ofConfig config = .ok start)
    (owned : ∀ event ∈ one, event.OwnedBy owner)
    (rearranged : Relation.ReflTransGen (Swapped config.predictor.tableSize.toNat) one other) :
    (∀ tid, ((start.log one).filter fun entry => entry.1.tid = tid) =
      (start.log other).filter fun entry => entry.1.tid = tid) ∧
      (start.after one).units.predictor.table = (start.after other).units.predictor.table ∧
      (start.after one).units.predictor.histories =
        (start.after other).units.predictor.histories ∧
      (start.after one).report = (start.after other).report ∧
      (start.after one).counters = (start.after other).counters := by
  have kept : (∀ event ∈ other, event.OwnedBy owner) ∧
      (∀ tid, ((start.log one).filter fun entry => entry.1.tid = tid) =
        (start.log other).filter fun entry => entry.1.tid = tid) ∧
      (start.after one).visible = (start.after other).visible := by
    induction rearranged with
    | refl => exact ⟨owned, fun _ => rfl, rfl⟩
    | tail _ swapped ih =>
        obtain ⟨stillOwned, logs, same⟩ := ih
        obtain ⟨swappedLogs, swappedSame⟩ := log_eq_of_swapped made stillOwned swapped
        refine ⟨fun event member => stillOwned event (swapped.perm.mem_iff.mpr member), ?_, ?_⟩
        · exact fun tid => (logs tid).trans (swappedLogs tid)
        · exact same.trans swappedSame
  obtain ⟨-, logs, same⟩ := kept
  obtain ⟨units, report⟩ := visible_eq_iff.mp same
  refine ⟨logs, ?_, ?_, report, ?_⟩
  · exact congrArg (fun units => units.predictor.table) units
  · exact congrArg (fun units => units.predictor.histories) units
  · exact congrArg (fun units => units.counters) units

/-- A commit to another slot moves in front of a prediction and the squash that it ends in. -/
theorem rearranging_changes_nothing_around_squash :
    ∃ start owner,
      let trained : Event := .commitLoad 1 256 0 5
      let load : Event := .dispatchLoad 2 256 0
      let answer : Event := .writebackLoad 2 0 6
      let foreign : Event := .commitLoad 3 260 1 7
      let config : Config :=
        { general := { threads := 2 }
          predictor := { enabled := true, tableSize := 4, threshold := 0 } }
      Replayer.ofConfig config = .ok start ∧
        (∀ event ∈ [trained, load, answer, foreign], event.OwnedBy owner) ∧
        Relation.ReflTransGen (Swapped config.predictor.tableSize.toNat)
          [trained, load, answer, foreign] [trained, foreign, load, answer] ∧
        ((start.log [trained, load, answer, foreign]).filter fun entry => entry.1.tid = 0) =
          [(trained, .ok .committed), (load, .ok (.predicted 5)), (answer, .ok .mispredicted)] ∧
        ((start.log [trained, foreign, load, answer]).filter fun entry => entry.1.tid = 0) =
          [(trained, .ok .committed), (load, .ok (.predicted 5)), (answer, .ok .mispredicted)] := by
  let config : PredictorConfig := { enabled := true, tableSize := 4, threshold := 0 }
  let start : Replayer :=
    { units := { predictor := .fresh config (by decide) 2, simplifier := ⟨false, {}⟩ } }
  let owner (seq : UInt64) : ThreadId := if seq = 3 then 1 else 0
  refine ⟨start, owner, ?_⟩
  intro trained load answer foreign whole
  have made : Replayer.ofConfig whole = .ok start :=
    Replayer.ofConfig_eq_ok_iff.mpr ⟨by decide, by decide, rfl⟩
  have owned : ∀ event ∈ [trained, load, answer, foreign], event.OwnedBy owner := by
    simp [trained, load, answer, foreign, owner, Event.OwnedBy]
  have rearranged : Relation.ReflTransGen (Swapped whole.predictor.tableSize.toNat)
      [trained, load, answer, foreign] [trained, foreign, load, answer] := by
    refine .tail (.single (.swap [trained, load] [] ?_)) (.swap [trained] [answer] ?_)
    · rintro (same | trains | hits)
      · exact absurd same (by decide)
      · exact trains
      · exact hits
    · rintro (same | trains | hits)
      · exact absurd same (by decide)
      · exact trains
      · have apart : (260 : UInt64).toNat / 4 % 4 ≠ (256 : UInt64).toNat / 4 % 4 := by decide
        exact apart hits
  have log : ((start.log [trained, load, answer, foreign]).filter fun entry => entry.1.tid = 0) =
      [(trained, .ok .committed), (load, .ok (.predicted 5)), (answer, .ok .mispredicted)] := by
    decide +kernel
  refine ⟨made, owned, rearranged, log, ?_⟩
  rw [← (rearranging_changes_nothing made owned rearranged).1 0, log]

end Replayer

end EarlyResolution
