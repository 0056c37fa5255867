import Mathlib.Data.List.Nodup
import EarlyResolution.Proofs.Construction
import EarlyResolution.Proofs.Replay.Events

/-!
# The life of a prediction

A load is live from the dispatch that handed it a value until it commits, is
squashed, or an older load of its thread turns out mispredicted.  This is said of
the log of a run alone.  Along a trace that keeps the pipeline's promises, the
records that the predictor holds for a thread are exactly its live loads in
program order, and a writeback squashes exactly when its load is live with
another value.
-/

namespace EarlyResolution

namespace InFlight

/-- The record of the load that an event put in flight: a dispatch that was handed a value. -/
def startedBy : Event × Result → Option InFlight
  | (.dispatchLoad seq pc tid, .ok (.predicted value)) =>
      some { seq, pc, tid, value, predicted := true }
  | _ => none

def endedBy (load : InFlight) : Event × Result → Bool
  | (.commitLoad seq _ tid _, _) => load.tid == tid && load.seq == seq
  | (.squash point tid, _) => load.tid == tid && point < load.seq
  | (.writebackLoad seq tid _, .ok .mispredicted) => load.tid == tid && seq < load.seq
  | _ => false

/-- Some event of the log put the load in flight and no later one took it out. -/
def LiveIn (load : InFlight) (log : List (Event × Result)) : Prop :=
  ∃ before entry since, log = before ++ entry :: since ∧ startedBy entry = some load ∧
    ∀ later ∈ since, load.endedBy later = false

theorem not_liveIn_nil (load : InFlight) : ¬ load.LiveIn [] := by
  rintro ⟨before, entry, since, split, -⟩
  simp at split

/-- One more event leaves the live loads that it does not end, and may start one. -/
theorem liveIn_concat (load : InFlight) (log : List (Event × Result)) (last : Event × Result) :
    load.LiveIn (log ++ [last]) ↔
      load.LiveIn log ∧ load.endedBy last = false ∨ startedBy last = some load := by
  constructor
  · rintro ⟨before, entry, since, split, started, unended⟩
    -- Either nothing followed the start, or the last event did.
    rcases List.eq_nil_or_concat' since with rfl | ⟨earlier, final, rfl⟩
    · obtain ⟨-, same⟩ := List.append_inj' split rfl
      cases same
      exact .inr started
    · rw [← List.cons_append, ← List.append_assoc] at split
      obtain ⟨rest, same⟩ := List.append_inj' split rfl
      cases same
      refine .inl ⟨⟨before, entry, earlier, rest, started, fun later member => ?_⟩, ?_⟩
      · exact unended later (List.mem_append_left _ member)
      · exact unended last (List.mem_append_right _ (List.mem_singleton_self _))
  · rintro (⟨⟨before, entry, since, rfl, started, unended⟩, survives⟩ | started)
    · refine ⟨before, entry, since ++ [last], by simp, started, fun later member => ?_⟩
      rcases List.mem_append.mp member with earlier | final
      · exact unended later earlier
      · rw [List.mem_singleton.mp final]
        exact survives
    · exact ⟨log, last, [], rfl, started, fun _ member => nomatch member⟩

/-- A load is put in flight by its own dispatch. -/
theorem eq_dispatchLoad_of_startedBy {entry : Event × Result} {load : InFlight}
    (started : startedBy entry = some load) :
    entry.1 = .dispatchLoad load.seq load.pc load.tid ∧ load.predicted = true := by
  unfold startedBy at started
  split at started
  · cases started
    exact ⟨rfl, rfl⟩
  · cases started

theorem LiveIn.dispatched {start : Replayer} {past : List Event} {load : InFlight}
    (live : load.LiveIn (start.log past)) :
    .dispatchLoad load.seq load.pc load.tid ∈ past ∧ load.predicted = true := by
  obtain ⟨before, entry, since, split, started, -⟩ := live
  obtain ⟨dispatch, predicted⟩ := eq_dispatchLoad_of_startedBy started
  have logged : entry ∈ start.log past := by simp [split]
  have member : entry.1 ∈ past := (List.of_mem_zip logged).1
  rw [dispatch] at member
  exact ⟨member, predicted⟩

/-- In program order no load has two records. -/
theorem Ordered.eq_of_seq_eq {records : List InFlight} (ordered : Ordered records)
    {first second : InFlight} (one : first ∈ records) (other : second ∈ records)
    (same : first.seq = second.seq) : first = second := by
  have distinct : (records.map InFlight.seq).Nodup := by
    rw [List.Nodup, List.pairwise_map]
    exact ordered.imp fun older => UInt64.ne_of_lt older
  exact List.inj_on_of_nodup_map distinct one other same

end InFlight

/-! ## What the pipeline promises -/

/-- A load's dispatch, writeback and commit name the thread that owns the load. -/
def Event.OwnedBy (owner : UInt64 → ThreadId) : Event → Prop
  | .dispatchLoad seq _ tid | .writebackLoad seq tid _ | .commitLoad seq _ tid _ =>
      tid = owner seq
  | .squash _ _ | .issue _ => True

/-- If both events dispatch loads on one thread, the later one dispatches a younger load. -/
def Event.InOrder : Event → Event → Prop
  | .dispatchLoad older _ tid, .dispatchLoad younger _ tid' => tid = tid' → older < younger
  | _, _ => True

/-- The promises of a pipeline that drives the predictor through a trace. -/
structure Disciplined (owner : UInt64 → ThreadId) (start : Replayer) (trace : List Event) :
    Prop where
  owned : ∀ event ∈ trace, event.OwnedBy owner
  increasing : trace.Pairwise Event.InOrder
  /-- No load commits while an older one of its thread is live. -/
  oldestFirst : ∀ past seq pc tid value future,
    trace = past ++ .commitLoad seq pc tid value :: future →
    ∀ load : InFlight, load.LiveIn (start.log past) → load.tid = tid → seq ≤ load.seq

/-! ## What one event does to the records of a thread -/

namespace InFlight

variable {tid : ThreadId} {records : List InFlight}

/-- A squash takes from the records of its thread those past the point. -/
theorem squash_eq_filter (ordered : Ordered records) (own : ∀ load ∈ records, load.tid = tid)
    (point : UInt64) (thread : ThreadId) :
    (if thread = tid then trim point records else records) =
      records.filter fun load => !(load.tid == thread && point < load.seq) := by
  by_cases same : thread = tid
  · rw [if_pos same, trim_eq_filter ordered]
    apply List.filter_congr
    intro load member
    simp [own load member, same, ← UInt64.not_lt]
  · rw [if_neg same, eq_comm, List.filter_eq_self]
    intro load member
    simp [own load member, Ne.symm same]

/-- A commit takes its own load from the records of its thread. -/
theorem commit_eq_filter (ordered : Ordered records) (own : ∀ load ∈ records, load.tid = tid)
    {seq : UInt64} {thread : ThreadId}
    (oldest : thread = tid → ∀ load ∈ records, seq ≤ load.seq) :
    (if thread = tid then retire seq records else records) =
      records.filter fun load => !(load.tid == thread && load.seq == seq) := by
  by_cases same : thread = tid
  · rw [if_pos same, retire_eq_filter ordered (oldest same)]
    apply List.filter_congr
    intro load member
    by_cases hit : load.seq = seq <;> simp [own load member, same, hit]
  · rw [if_neg same, eq_comm, List.filter_eq_self]
    intro load member
    simp [own load member, Ne.symm same]

end InFlight

namespace Units

variable {units : Units} {tid : ThreadId}

/--
An event keeps the records that it does not end and appends the one that it
starts, where the records are in program order and none is older than a load
that commits.
-/
theorem inFlight_react (event : Event)
    (ordered : InFlight.Ordered (units.predictor.inFlight tid))
    (own : ∀ load ∈ units.predictor.inFlight tid, load.tid = tid)
    (oldest : ∀ seq pc value, event = .commitLoad seq pc tid value →
      ∀ load ∈ units.predictor.inFlight tid, seq ≤ load.seq) :
    (units.react event).2.predictor.inFlight tid =
      (units.predictor.inFlight tid).filter
          (fun load => !load.endedBy (event, (units.react event).1)) ++
        (InFlight.startedBy (event, (units.react event).1)).toList.filter
          (fun load => load.tid = tid) := by
  -- An event that neither starts nor ends a load leaves the records as they are.
  have untouched : units.predictor.inFlight tid =
      (units.predictor.inFlight tid).filter (fun _ => !false) ++
        (none : Option InFlight).toList.filter (fun load => load.tid = tid) := by
    simp
  cases event with
  | dispatchLoad seq pc thread =>
      rw [react_dispatchLoad]
      by_cases inside : thread.toNat < units.predictor.threads
      case neg =>
          rw [Predictor.dispatch_of_le (Nat.not_lt.mp inside)]
          exact untouched
      case pos =>
          have appended := Predictor.inFlight_dispatch_of_lt inside seq pc tid
          have answer : (units.predictor.dispatch seq pc thread).1 =
              .ok (units.predictor.lookup pc).value? := by rw [Predictor.dispatch_of_lt inside]
          rw [answer]
          refine appended.trans ?_
          cases (units.predictor.lookup pc).value? with
          | none =>
              rw [Option.map_none, Option.toList_none, ite_self, List.append_nil]
              exact untouched
          | some value =>
              refine congrArg₂ (· ++ ·) (List.filter_eq_self.mpr fun _ _ => rfl).symm ?_
              change (if thread = tid then [Predictor.recordOf seq pc thread value] else []) =
                [Predictor.recordOf seq pc thread value].filter fun load => load.tid = tid
              by_cases same : thread = tid <;> simp [same, Predictor.recordOf]
  | writebackLoad seq thread value =>
      rw [react_writebackLoad]
      split
      · exact untouched
      · change (Predictor.squash _ seq thread).inFlight tid = _
        rw [Predictor.inFlight_squash, Predictor.inFlight_validate,
          InFlight.squash_eq_filter ordered own]
        exact (List.append_nil _).symm
  | commitLoad seq pc thread value =>
      rw [react_commitLoad]
      change (Predictor.retire _ seq thread).inFlight tid = _
      rw [Predictor.inFlight_retire, Predictor.inFlight_update,
        InFlight.commit_eq_filter ordered own fun same => oldest seq pc value (by rw [same])]
      exact (List.append_nil _).symm
  | squash point thread =>
      rw [react_squash]
      change (Predictor.squash _ point thread).inFlight tid = _
      rw [Predictor.inFlight_squash, InFlight.squash_eq_filter ordered own]
      exact (List.append_nil _).symm
  | issue issue =>
      rw [predictor_react_issue]
      exact untouched

end Units

/-! ## Runs -/

/-- The records of every thread are its live loads in program order. -/
structure Predictor.Tracks (p : Predictor) (log : List (Event × Result)) : Prop where
  ordered : ∀ tid, InFlight.Ordered (p.inFlight tid)
  mem_iff : ∀ tid load, load ∈ p.inFlight tid ↔ load.LiveIn log ∧ load.tid = tid

/-- One event keeps the records and the live loads together. -/
theorem Predictor.Tracks.react {units : Units} {log : List (Event × Result)}
    (tracks : units.predictor.Tracks log) {event : Event}
    (younger : ∀ seq pc tid, event = .dispatchLoad seq pc tid →
      ∀ load ∈ units.predictor.inFlight tid, load.seq < seq)
    (oldest : ∀ seq pc tid value, event = .commitLoad seq pc tid value →
      ∀ load ∈ units.predictor.inFlight tid, seq ≤ load.seq) :
    (units.react event).2.predictor.Tracks (log ++ [(event, (units.react event).1)]) := by
  have own (tid : ThreadId) : ∀ load ∈ units.predictor.inFlight tid, load.tid = tid :=
    fun load member => ((tracks.mem_iff tid load).mp member).2
  have records (tid : ThreadId) := Units.inFlight_react event (tracks.ordered tid) (own tid)
    fun seq pc value commit => oldest seq pc tid value commit
  constructor
  · intro tid
    rw [records tid]
    refine List.pairwise_append.mpr ⟨(tracks.ordered tid).filter _, ?_, ?_⟩
    · cases InFlight.startedBy (event, (units.react event).1) with
      | none => exact .nil
      | some started => exact (List.pairwise_singleton _ started).filter _
    · intro old oldIn new newIn
      obtain ⟨started, here⟩ := List.mem_filter.mp newIn
      have dispatch := (InFlight.eq_dispatchLoad_of_startedBy (Option.mem_toList.mp started)).1
      rw [of_decide_eq_true here] at dispatch
      exact younger _ _ _ dispatch old (List.mem_filter.mp oldIn).1
  · intro tid load
    rw [records tid, InFlight.liveIn_concat, List.mem_append, List.mem_filter, List.mem_filter,
      tracks.mem_iff tid load, Option.mem_toList, Bool.not_eq_true', decide_eq_true_iff,
      and_right_comm, ← or_and_right]

namespace Disciplined

variable {owner : UInt64 → ThreadId} {start : Replayer} {trace : List Event}

theorem tid_eq_owner (disciplined : Disciplined owner start trace) {past future : List Event}
    (split : trace = past ++ future) {load : InFlight} (live : load.LiveIn (start.log past)) :
    load.tid = owner load.seq := by
  have dispatched : .dispatchLoad load.seq load.pc load.tid ∈ trace := by
    rw [split]
    exact List.mem_append_left _ live.dispatched.1
  exact disciplined.owned _ dispatched

/-- A load that is dispatched is younger than the live loads of its thread. -/
theorem seq_lt_of_liveIn (disciplined : Disciplined owner start trace)
    {past future : List Event} {seq pc : UInt64} {tid : ThreadId}
    (split : trace = past ++ .dispatchLoad seq pc tid :: future) {load : InFlight}
    (live : load.LiveIn (start.log past)) (same : load.tid = tid) : load.seq < seq := by
  have increasing := disciplined.increasing
  rw [split] at increasing
  have inOrder := (List.pairwise_append.mp increasing).2.2 _ live.dispatched.1 _ List.mem_cons_self
  exact inOrder same

/-- Along a disciplined trace the records follow the live loads. -/
theorem tracks_after (disciplined : Disciplined owner start trace)
    (blank : ∀ tid, start.units.predictor.inFlight tid = []) {past future : List Event}
    (split : trace = past ++ future) :
    (start.after past).units.predictor.Tracks (start.log past) := by
  induction past using List.reverseRecOn generalizing future with
  | nil =>
      constructor
      · intro tid
        rw [Replayer.after_nil, blank tid]
        exact .nil
      · intro tid load
        rw [Replayer.after_nil, blank tid]
        simp [InFlight.not_liveIn_nil]
  | append_singleton past event ih =>
      rw [List.append_assoc] at split
      have tracks := ih split
      rw [Replayer.after_concat, Replayer.log_concat, Replayer.units_step, Replayer.step_fst]
      refine tracks.react ?_ ?_
      · rintro seq pc tid rfl load member
        obtain ⟨live, same⟩ := (tracks.mem_iff tid load).mp member
        exact disciplined.seq_lt_of_liveIn split live same
      · rintro seq pc tid value rfl load member
        obtain ⟨live, same⟩ := (tracks.mem_iff tid load).mp member
        exact disciplined.oldestFirst past seq pc tid value future split load live same

/-- A writeback squashes exactly when its load is live with another value. -/
theorem mispredicted_iff (disciplined : Disciplined owner start trace)
    (few : start.units.predictor.threads ≤ UInt64.size) {past future : List Event}
    (split : trace = past ++ future)
    (tracks : (start.after past).units.predictor.Tracks (start.log past))
    (seq : UInt64) (tid : ThreadId) (actual : UInt64) :
    ((start.after past).units.react (.writebackLoad seq tid actual)).1 = .ok .mispredicted ↔
      ∃ load : InFlight, load.LiveIn (start.log past) ∧ load.seq = seq ∧ load.value ≠ actual := by
  let p := (start.after past).units.predictor
  have within : p.threads ≤ UInt64.size := by
    rw [Replayer.threads_after]
    exact few
  have live (load : InFlight) : load ∈ p.allRecords ↔ load.LiveIn (start.log past) := by
    rw [Predictor.mem_allRecords_iff within]
    constructor
    · rintro ⟨tid, member⟩
      exact ((tracks.mem_iff tid load).mp member).1
    · intro live
      exact ⟨load.tid, (tracks.mem_iff _ load).mpr ⟨live, rfl⟩⟩
  -- Loads with one number have one owner, so their records stand in one queue.
  have unique : ∀ first ∈ p.allRecords, ∀ second ∈ p.allRecords,
      first.seq = second.seq → first = second := by
    intro first one second other same
    have firstLive := (live first).mp one
    have secondLive := (live second).mp other
    have together : first.tid = second.tid := by
      rw [disciplined.tid_eq_owner split firstLive, disciplined.tid_eq_owner split secondLive, same]
    exact (tracks.ordered second.tid).eq_of_seq_eq
      ((tracks.mem_iff _ first).mpr ⟨firstLive, together⟩)
      ((tracks.mem_iff _ second).mpr ⟨secondLive, rfl⟩) same
  have failed : ((start.after past).units.react (.writebackLoad seq tid actual)).1 =
      .ok .mispredicted ↔ (p.check seq actual).passes = false := by
    rw [Units.react_writebackLoad]
    change (if (p.check seq actual).passes then _ else _ : Result × Units).1 = _ ↔ _
    cases (p.check seq actual).passes <;> simp
  rw [failed, Predictor.passes_check_eq_false_iff]
  constructor
  · rintro ⟨load, found, other⟩
    obtain ⟨member, same, -⟩ := (Predictor.recorded?_eq_some_iff unique).mp found
    exact ⟨load, (live load).mp member, same, other⟩
  · rintro ⟨load, isLive, same, other⟩
    have found := (Predictor.recorded?_eq_some_iff unique).mpr
      ⟨(live load).mpr isLive, same, isLive.dispatched.2⟩
    exact ⟨load, found, other⟩

end Disciplined

/--
The replayer refines the life of predictions.  Behind every prefix of a
disciplined trace the records in flight on a thread are its live loads, each
once, in program order, with the address and the value of their dispatch; and a
writeback is mispredicted exactly when its load is live with another value, and
validated otherwise.
-/
theorem Replayer.inFlight_eq_live {config : Config} {start : Replayer}
    (made : Replayer.ofConfig config = .ok start) {owner : UInt64 → ThreadId}
    {trace : List Event} (disciplined : Disciplined owner start trace) :
    (∀ past future, trace = past ++ future → ∀ tid,
      let records := (start.after past).units.predictor.inFlight tid
      InFlight.Ordered records ∧
        ∀ load, load ∈ records ↔ load.LiveIn (start.log past) ∧ load.tid = tid) ∧
    ∀ past seq tid actual future, trace = past ++ .writebackLoad seq tid actual :: future →
      let result := ((start.after past).step (.writebackLoad seq tid actual)).1
      (result = .ok .mispredicted ↔
        ∃ load : InFlight, load.LiveIn (start.log past) ∧ load.seq = seq ∧
          load.value ≠ actual) ∧
      (result = .ok .mispredicted ∨ result = .ok .validated) := by
  obtain ⟨slots, usable, rfl⟩ := Replayer.ofConfig_eq_ok_iff.mp made
  have tracks {past future : List Event} (split : trace = past ++ future) :=
    disciplined.tracks_after (Predictor.inFlight_fresh _ usable _) split
  refine ⟨fun past future split tid => ⟨(tracks split).ordered tid, (tracks split).mem_iff tid⟩, ?_⟩
  intro past seq tid actual future split
  rw [Replayer.step_fst]
  refine ⟨disciplined.mispredicted_iff ?_ split (tracks split) seq tid actual, ?_⟩
  · change (List.replicate config.general.threads.toNat ({} : History)).length ≤ UInt64.size
    rw [List.length_replicate]
    exact Nat.le_of_lt config.general.threads.toNat_lt
  · rw [Units.react_writebackLoad]
    split
    · exact .inr rfl
    · exact .inl rfl

/-- A trace on two threads in which an old load squashes a younger one of its thread. -/
theorem Replayer.inFlight_eq_live_at_misprediction :
    ∃ start owner,
      let past := [.commitLoad 1 256 0 5, .dispatchLoad 2 256 0, .dispatchLoad 3 256 0,
        .dispatchLoad 4 256 1]
      let trace := past ++ [.writebackLoad 2 0 6, .commitLoad 2 256 0 6]
      Replayer.ofConfig
          { general := { threads := 2 }
            predictor := { enabled := true, tableSize := 4, threshold := 0 } } = .ok start ∧
        Disciplined owner start trace ∧
        ((start.after past).step (.writebackLoad 2 0 6)).1 = .ok .mispredicted := by
  let config : PredictorConfig := { enabled := true, tableSize := 4, threshold := 0 }
  let start : Replayer :=
    { units := { predictor := .fresh config (by decide) 2, simplifier := ⟨false, {}⟩ } }
  let owner (seq : UInt64) : ThreadId := if seq = 4 then 1 else 0
  have made : Replayer.ofConfig { general := { threads := 2 }, predictor := config } = .ok start :=
    Replayer.ofConfig_eq_ok_iff.mpr ⟨by decide, by decide, rfl⟩
  refine ⟨start, owner, ?_⟩
  intro past trace
  have disciplined : Disciplined owner start trace := by
    refine ⟨by simp [trace, past, owner, Event.OwnedBy], by simp [trace, past, Event.InOrder], ?_⟩
    -- Only loads up to 2 commit, and no older load is ever dispatched.
    intro earlier seq pc tid value future split load live _
    have dispatched : .dispatchLoad load.seq load.pc load.tid ∈ trace := by
      rw [split]
      exact List.mem_append_left _ live.dispatched.1
    have committed : .commitLoad seq pc tid value ∈ trace := by simp [split]
    have bounds : ∀ event ∈ trace,
        match event with
        | .dispatchLoad seq _ _ => 2 ≤ seq
        | .commitLoad seq _ _ _ => seq ≤ 2
        | _ => True := by
      simp [trace, past]
    exact UInt64.le_trans (bounds _ committed) (bounds _ dispatched)
  refine ⟨made, disciplined, ?_⟩
  apply ((inFlight_eq_live made disciplined).2 past 2 0 6 [.commitLoad 2 256 0 6] rfl).1.mpr
  refine ⟨⟨2, 256, 0, 5, true⟩, ⟨[(.commitLoad 1 256 0 5, .ok .committed)],
    (.dispatchLoad 2 256 0, .ok (.predicted 5)),
    [(.dispatchLoad 3 256 0, .ok (.predicted 5)), (.dispatchLoad 4 256 1, .ok (.predicted 5))],
    by decide +kernel, rfl, by decide⟩, rfl, by decide⟩

end EarlyResolution
