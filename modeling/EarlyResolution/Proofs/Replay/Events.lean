import EarlyResolution.Proofs.Prediction.Queues
import EarlyResolution.Proofs.Replay.Issue

/-!
# What each event does

One equation per kind of event, in terms of the predictor's operations.  A
dispatch answers as the table does, a writeback squashes exactly when its check
fails, and an issue event leaves the predictor alone.  What an issue event does
is told by its own fields, in whatever state it finds the registers.
-/

namespace EarlyResolution

def Outcome.ofDispatch : Option UInt64 → Outcome
  | some value => .predicted value
  | none => .notPredicted

namespace Units

variable (units : Units)

theorem react_dispatchLoad (seq pc : UInt64) (tid : ThreadId) :
    units.react (.dispatchLoad seq pc tid) =
      ((units.predictor.dispatch seq pc tid).1.map .ofDispatch,
        { units with predictor := (units.predictor.dispatch seq pc tid).2 }) := by
  rw [react]
  cases units.predictor.dispatch seq pc tid with
  | mk result predictor =>
      cases result with
      | error violation => rfl
      | ok answer => cases answer <;> rfl

theorem react_writebackLoad (seq : UInt64) (tid : ThreadId) (value : UInt64) :
    units.react (.writebackLoad seq tid value) =
      if (units.predictor.check seq value).passes then
        (.ok .validated, { units with predictor := (units.predictor.validate seq value).2 })
      else
        (.ok .mispredicted,
          { units with
            predictor := (units.predictor.validate seq value).2.squash seq tid }) := by
  rw [react, Predictor.validate]
  cases (units.predictor.check seq value).passes <;> rfl

theorem react_commitLoad (seq pc : UInt64) (tid : ThreadId) (value : UInt64) :
    units.react (.commitLoad seq pc tid value) =
      (.ok .committed,
        { units with predictor := (units.predictor.update pc value).retire seq tid }) :=
  rfl

theorem react_squash (seq : UInt64) (tid : ThreadId) :
    units.react (.squash seq tid) =
      (.ok .squashed, { units with predictor := units.predictor.squash seq tid }) :=
  rfl

@[simp] theorem predictor_react_issue (issue : Issue) :
    (units.react (.issue issue)).2.predictor = units.predictor := by
  rw [react_issue]
  split <;> rfl

theorem threads_react (event : Event) :
    (units.react event).2.predictor.threads = units.predictor.threads := by
  cases event with
  | dispatchLoad seq pc tid =>
      rw [react_dispatchLoad]
      exact units.predictor.threads_dispatch seq pc tid
  | writebackLoad seq tid value =>
      rw [react_writebackLoad]
      split
      · rfl
      · exact Predictor.threads_modifyHistory _ _ _
  | commitLoad seq pc tid value => exact Predictor.threads_modifyHistory _ _ _
  | squash seq tid => exact Predictor.threads_modifyHistory _ _ _
  | issue issue => rw [predictor_react_issue]

/-- An event acts on the records of its own thread alone. -/
theorem inFlight_react_of_ne {event : Event} {tid : ThreadId} (apart : event.tid ≠ tid) :
    (units.react event).2.predictor.inFlight tid = units.predictor.inFlight tid := by
  cases event with
  | dispatchLoad seq pc thread =>
      rw [react_dispatchLoad]
      dsimp only
      by_cases inside : thread.toNat < units.predictor.threads
      · rw [Predictor.inFlight_dispatch_of_lt inside]
        exact (congrArg _ (if_neg apart)).trans (List.append_nil _)
      · rw [Predictor.dispatch_of_le (Nat.not_lt.mp inside)]
  | writebackLoad seq thread value =>
      rw [react_writebackLoad]
      split
      · rfl
      · exact (Predictor.inFlight_squash _ seq thread tid).trans (if_neg apart)
  | commitLoad seq pc thread value =>
      exact (Predictor.inFlight_retire _ seq thread tid).trans (if_neg apart)
  | squash point thread =>
      exact (Predictor.inFlight_squash _ point thread tid).trans (if_neg apart)
  | issue issue => rw [predictor_react_issue]

/--
A record is put in flight by a dispatch of its load on its own thread that is handed
the value on record, and by nothing else.
-/
theorem mem_inFlight_react {event : Event} {tid : ThreadId} {load : InFlight}
    (member : load ∈ (units.react event).2.predictor.inFlight tid) :
    load ∈ units.predictor.inFlight tid ∨
      load.tid = tid ∧ event = .dispatchLoad load.seq load.pc tid ∧
        (units.react event).1 = .ok (.predicted load.value) := by
  by_cases apart : event.tid ≠ tid
  · rw [inFlight_react_of_ne _ apart] at member
    exact .inl member
  obtain rfl : event.tid = tid := not_not.mp apart
  cases event with
  | dispatchLoad seq pc tid =>
      rw [react_dispatchLoad] at member
      by_cases inside : tid.toNat < units.predictor.threads
      · change load ∈ (Predictor.dispatch _ seq pc tid).2.inFlight tid at member
        rw [Predictor.inFlight_dispatch_of_lt inside, if_pos rfl] at member
        rcases List.mem_append.mp member with old | new
        · exact .inl old
        · obtain ⟨value, answer, rfl⟩ := Option.map_eq_some_iff.mp (Option.mem_toList.mp new)
          refine .inr ⟨rfl, rfl, ?_⟩
          rw [react_dispatchLoad, Predictor.dispatch_of_lt inside, answer]
          rfl
      · rw [Predictor.dispatch_of_le (Nat.not_lt.mp inside)] at member
        exact .inl member
  | writebackLoad seq tid value =>
      rw [react_writebackLoad] at member
      split at member
      · exact .inl member
      · change load ∈ (Predictor.squash _ seq tid).inFlight tid at member
        rw [Predictor.inFlight_squash, if_pos rfl] at member
        exact .inl (InFlight.mem_of_mem_trim member)
  | commitLoad seq pc tid value =>
      change load ∈ (Predictor.retire _ seq tid).inFlight tid at member
      rw [Predictor.inFlight_retire, if_pos rfl] at member
      exact .inl (InFlight.mem_of_mem_retire member)
  | squash point tid =>
      change load ∈ (Predictor.squash _ point tid).inFlight tid at member
      rw [Predictor.inFlight_squash, if_pos rfl] at member
      exact .inl (InFlight.mem_of_mem_trim member)
  | issue issue =>
      rw [predictor_react_issue] at member
      exact .inl member

/-- Rename attaches the mode flag, so no event finds it missing. -/
theorem react_ne_missingCtModeOperand (event : Event) (op : OpClass) (seq pc : UInt64) :
    (units.react event).1 ≠ .error (.missingCtModeOperand op seq pc) := by
  cases event with
  | dispatchLoad seq pc tid =>
      rw [react_dispatchLoad]
      by_cases inside : tid.toNat < units.predictor.threads
      · rw [Predictor.dispatch_of_lt inside]
        intro impossible
        cases impossible
      · rw [Predictor.dispatch_of_le (Nat.not_lt.mp inside)]
        intro impossible
        cases impossible
  | writebackLoad seq tid value =>
      rw [react_writebackLoad]
      split <;> intro impossible <;> cases impossible
  | commitLoad seq pc tid value => intro impossible; cases impossible
  | squash seq tid => intro impossible; cases impossible
  | issue issue =>
      rw [react_issue]
      split <;> intro impossible <;> cases impossible

end Units

namespace Replayer

theorem threads_after (start : Replayer) (events : List Event) :
    (start.after events).units.predictor.threads = start.units.predictor.threads := by
  induction events generalizing start with
  | nil => rfl
  | cons event events ih =>
      rw [after_cons, ih, units_step, Units.threads_react]

/-- What is in flight behind a run was so before it or was dispatched along it. -/
theorem mem_inFlight_after {start : Replayer} {events : List Event} {tid : ThreadId}
    {load : InFlight} (member : load ∈ (start.after events).units.predictor.inFlight tid) :
    load ∈ start.units.predictor.inFlight tid ∨
      load.tid = tid ∧ .dispatchLoad load.seq load.pc tid ∈ events := by
  induction events generalizing start with
  | nil => exact .inl member
  | cons event events ih =>
      rw [after_cons] at member
      rcases ih member with early | ⟨own, later⟩
      · rw [units_step] at early
        rcases Units.mem_inFlight_react _ early with old | ⟨own, rfl, -⟩
        · exact .inl old
        · exact .inr ⟨own, List.mem_cons_self⟩
      · exact .inr ⟨own, List.mem_cons_of_mem _ later⟩

/-- From empty records on, every record stands with the thread on which its load was dispatched. -/
theorem dispatched_of_mem_inFlight {start : Replayer}
    (blank : ∀ tid, start.units.predictor.inFlight tid = []) {events : List Event}
    {tid : ThreadId} {load : InFlight}
    (member : load ∈ (start.after events).units.predictor.inFlight tid) :
    load.tid = tid ∧ .dispatchLoad load.seq load.pc tid ∈ events := by
  rcases mem_inFlight_after member with old | dispatched
  · rw [blank tid] at old
    cases old
  · exact dispatched

section Records

variable {start : Replayer} {events : List Event} {seq : UInt64} {tid : ThreadId}

/-- The records behind a run are those of its threads. -/
theorem mem_allRecords_after_iff (few : start.units.predictor.threads ≤ UInt64.size)
    {load : InFlight} :
    load ∈ (start.after events).units.predictor.allRecords ↔
      ∃ tid, load ∈ (start.after events).units.predictor.inFlight tid := by
  rw [← threads_after start events] at few
  exact Predictor.mem_allRecords_iff few

/-- Only a record of its own thread is found for a load that one thread alone dispatches. -/
theorem tid_eq_of_recorded?_after (blank : ∀ tid, start.units.predictor.inFlight tid = [])
    (few : start.units.predictor.threads ≤ UInt64.size)
    (alone : ∀ pc other, .dispatchLoad seq pc other ∈ events → other = tid) {record : InFlight}
    (found : (start.after events).units.predictor.recorded? seq = some record) :
    record.tid = tid := by
  obtain ⟨member, same, -⟩ := Predictor.mem_of_recorded? found
  obtain ⟨thread, inside⟩ := (mem_allRecords_after_iff few).mp member
  obtain ⟨own, dispatched⟩ := dispatched_of_mem_inFlight blank inside
  rw [own]
  exact alone record.pc thread (same ▸ dispatched)

/-- A load that finds no record of another thread is checked against its own thread's records. -/
theorem recorded?_after_eq_find? (blank : ∀ tid, start.units.predictor.inFlight tid = [])
    (few : start.units.predictor.threads ≤ UInt64.size)
    (found : ∀ record, (start.after events).units.predictor.recorded? seq = some record →
      record.tid = tid) :
    (start.after events).units.predictor.recorded? seq =
      ((start.after events).units.predictor.inFlight tid).find?
        fun record => record.seq == seq && record.predicted := by
  rw [← threads_after start events] at few
  refine Predictor.recorded?_eq_find?_inFlight few ?_ found
  intro thread record member
  exact (dispatched_of_mem_inFlight blank member).1

end Records

/--
An issue event does what its own fields tell, whatever was replayed before it.
Too many destinations are refused and change nothing but the number of events;
any other instruction gets its outcome and its counters from its operation, its
mode flag, its shape and its operands.  No event finds the mode flag missing.
-/
theorem step_issue_eq_effect (replayer : Replayer) :
    (∀ issue : Issue,
      replayer.step (.issue issue) =
        if maxDestinations < issue.dests.toNat then
          (.error (.destinationCount issue.seq issue.dests),
            { replayer with
              report := { replayer.report with events := replayer.report.events + 1 } })
        else
          let simplifier := replayer.units.simplifier
          let effect := issue.effect simplifier.enabled simplifier.counters
          (.ok (.ofIssue effect.1),
            { units :=
                { predictor := replayer.units.predictor
                  simplifier := { simplifier with counters := effect.2 }
                  registers := (replayer.units.registers.rename issue).2 }
              report :=
                { replayer.report with
                  events := replayer.report.events + 1
                  simplified :=
                    replayer.report.simplified + if effect.1.isSome then 1 else 0 } })) ∧
    ∀ (event : Event) (op : OpClass) (seq pc : UInt64),
      (replayer.step event).1 ≠ .error (.missingCtModeOperand op seq pc) := by
  refine ⟨fun issue => ?_, fun event op seq pc => ?_⟩
  · rw [step, Units.react_issue]
    by_cases crowded : maxDestinations < issue.dests.toNat
    · rw [if_pos crowded, if_pos crowded]
      rfl
    · rw [if_neg crowded, if_neg crowded]
      let simplifier := replayer.units.simplifier
      dsimp only
      cases (issue.effect simplifier.enabled simplifier.counters).1 <;> rfl
  · rw [step_fst]
    exact replayer.units.react_ne_missingCtModeOperand event op seq pc

end Replayer

end EarlyResolution
