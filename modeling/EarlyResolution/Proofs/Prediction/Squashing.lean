import EarlyResolution.Proofs.Construction
import EarlyResolution.Proofs.Prediction.Calls
import EarlyResolution.Proofs.Prediction.Extension

/-!
# What a squash takes away

A squash looks at the young end of a queue only, and stops at the first record that is
not past its point.  Whatever the queue holds, two squashes of a thread come to one with
the smaller point, and a squash and a retirement may change places.  That a squash takes
away exactly the younger loads needs more: queues in program order.  They stay so under
every call, as long as each record that is appended is younger than those in its queue.
-/

namespace EarlyResolution

/-! ## Trims of any records -/

namespace InFlight

theorem min_lt_iff (point other seq : UInt64) :
    min point other < seq ↔ point < seq ∨ other < seq := by
  rw [← UInt64.not_le, Std.le_min_iff, Decidable.not_and_iff_or_not, UInt64.not_le, UInt64.not_le]

/-- Two trims come to one with the smaller point. -/
theorem trim_trim (point later : UInt64) (records : List InFlight) :
    trim later (trim point records) = trim (min point later) records := by
  induction records using List.reverseRecOn with
  | nil => rfl
  | append_singleton records youngest ih =>
      rw [trim_concat, trim_concat]
      by_cases past : point < youngest.seq
      · rw [if_pos past, if_pos ((min_lt_iff _ _ _).mpr (.inl past))]
        exact ih
      · rw [if_neg past, trim_concat]
        by_cases beyond : later < youngest.seq
        · -- The youngest lies between the two points, so the later one is the smaller.
          have smaller : ¬ point ≤ later := by
            rw [UInt64.not_le]
            exact UInt64.lt_of_lt_of_le beyond (UInt64.not_lt.mp past)
          rw [if_pos beyond, if_pos ((min_lt_iff _ _ _).mpr (.inr beyond)), Std.min_eq_if,
            if_neg smaller]
        · rw [if_neg beyond, if_neg]
          rw [min_lt_iff, not_or]
          exact ⟨past, beyond⟩

/-- The oldest record goes only after all younger ones. -/
theorem trim_cons (point : UInt64) (oldest : InFlight) (younger : List InFlight) :
    trim point (oldest :: younger) =
      if trim point younger = [] ∧ point < oldest.seq then [] else oldest :: trim point younger := by
  induction younger using List.reverseRecOn with
  | nil =>
      have alone := trim_concat point [] oldest
      rw [List.nil_append, trim_nil] at alone
      rw [alone, trim_nil]
      by_cases past : point < oldest.seq
      · rw [if_pos past, if_pos ⟨rfl, past⟩]
      · rw [if_neg past, if_neg fun both => past both.2]
  | append_singleton younger youngest ih =>
      rw [← List.cons_append, trim_concat, trim_concat]
      by_cases past : point < youngest.seq
      · rw [if_pos past, if_pos past]
        exact ih
      · rw [if_neg past, if_neg past, if_neg]
        · rfl
        · rintro ⟨empty, -⟩
          exact List.append_ne_nil_of_right_ne_nil _ (List.cons_ne_nil _ _) empty

/-- The old end and the young end of a queue are trimmed in any order. -/
theorem trim_retire (point seq : UInt64) (records : List InFlight) :
    trim point (retire seq records) = retire seq (trim point records) := by
  cases records with
  | nil => rfl
  | cons oldest younger =>
      rw [trim_cons, retire]
      by_cases all : trim point younger = [] ∧ point < oldest.seq
      · -- The squash empties the queue, whether the oldest record is still there or not.
        rw [if_pos all]
        split
        · exact all.1
        · rw [trim_cons, if_pos all]
          rfl
      · rw [if_neg all, retire]
        split
        · rfl
        · rw [trim_cons, if_neg all]

end InFlight

namespace History

theorem squash_squash (history : History) (point later : UInt64) :
    (history.squash point).squash later = history.squash (min point later) := by
  ext1
  rw [records_squash_eq_trim, records_squash_eq_trim, records_squash_eq_trim]
  exact InFlight.trim_trim point later history.records

theorem retire_squash (history : History) (point seq : UInt64) :
    (history.squash point).retire seq = (history.retire seq).squash point := by
  ext1
  rw [records_retire_eq_retire, records_squash_eq_trim, records_squash_eq_trim,
    records_retire_eq_retire]
  exact (InFlight.trim_retire point seq history.records).symm

end History

namespace Predictor

theorem squash_squash (p : Predictor) (point later : UInt64) (tid : ThreadId) :
    (p.squash point tid).squash later tid = p.squash (min point later) tid := by
  rw [squash, squash, modifyHistory_modifyHistory, squash]
  congr 1
  funext history
  exact history.squash_squash point later

theorem retire_squash (p : Predictor) (point seq : UInt64) (tid : ThreadId) :
    (p.squash point tid).retire seq tid = (p.retire seq tid).squash point tid := by
  rw [squash, retire, modifyHistory_modifyHistory, retire, squash, modifyHistory_modifyHistory]
  congr 1
  funext history
  exact history.retire_squash point seq

/--
Squashes of a thread merge into the one with the smaller point, so a repeated one does
nothing and their order does not matter; nor does it matter whether a load retires before
or after a squash.  All this holds whatever the queues contain.
-/
theorem squashes_merge (p : Predictor) (tid : ThreadId) :
    (∀ point later,
      (p.squash point tid).squash later tid = p.squash (min point later) tid) ∧
    (∀ point, (p.squash point tid).squash point tid = p.squash point tid) ∧
    (∀ point other,
      (p.squash point tid).squash other tid = (p.squash other tid).squash point tid) ∧
    ∀ point seq,
      (p.squash point tid).retire seq tid = (p.retire seq tid).squash point tid := by
  refine ⟨fun point later => p.squash_squash point later tid, fun point => ?_,
    fun point other => ?_, fun point seq => p.retire_squash point seq tid⟩
  · rw [squash_squash, Std.min_self]
  · have smaller : min point other = min other point := Std.Commutative.comm point other
    rw [squash_squash, squash_squash, smaller]

/-! ## Calls in program order -/

def appended? (p : Predictor) : Call → Option InFlight
  | .record load => if load.tid.toNat < p.threads then some load else none
  | .dispatch seq pc tid =>
      if tid.toNat < p.threads then (p.lookup pc).value?.map (recordOf seq pc tid) else none
  | .predict _ | .validate _ _ | .squash _ _ | .retire _ _ | .update _ _ => none

/-- Every record that the calls append is younger than all records of its thread at that time. -/
def InProgramOrder (p : Predictor) : List Call → Prop
  | [] => True
  | call :: calls =>
      (∀ load ∈ p.appended? call, ∀ record ∈ p.inFlight load.tid, record.seq < load.seq) ∧
        (p.perform call).InProgramOrder calls

instance decidableInProgramOrder (p : Predictor) (calls : List Call) :
    Decidable (p.InProgramOrder calls) :=
  match calls with
  | [] => .isTrue trivial
  | call :: calls =>
      have := decidableInProgramOrder (p.perform call) calls
      inferInstanceAs (Decidable (_ ∧ _))

/-- Every queue is in program order and holds records of its own thread only. -/
structure Arranged (p : Predictor) : Prop where
  ordered : ∀ tid, InFlight.Ordered (p.inFlight tid)
  own : ∀ tid, ∀ record ∈ p.inFlight tid, record.tid = tid

theorem inFlight_record (p : Predictor) (load : InFlight) (tid : ThreadId) :
    (p.record load).2.inFlight tid =
      p.inFlight tid ++ (p.appended? (.record load)).toList.filter (·.tid = tid) := by
  rw [record, appended?]
  split
  case isTrue inside =>
      refine (p.inFlight_modifyHistory load.tid (· ++ [load])
        (fun history => history.records_push load) (.inr inside) tid).trans ?_
      by_cases same : load.tid = tid <;> simp [same]
  case isFalse outside => simp

theorem inFlight_dispatch (p : Predictor) (seq pc : UInt64) (thread tid : ThreadId) :
    (p.dispatch seq pc thread).2.inFlight tid =
      p.inFlight tid ++ (p.appended? (.dispatch seq pc thread)).toList.filter (·.tid = tid) := by
  rw [appended?]
  split
  case isTrue inside =>
      rw [inFlight_dispatch_of_lt inside]
      cases (p.lookup pc).value? with
      | none => simp
      | some value => by_cases same : thread = tid <;> simp [same, recordOf]
  case isFalse outside =>
      rw [dispatch_of_le (Nat.not_lt.mp outside)]
      simp

/--
A call leaves to a thread some of its records in their order, and behind them the record
that it appends, if that is one of the thread.
-/
theorem inFlight_perform (p : Predictor) (call : Call) (tid : ThreadId) :
    ∃ kept, List.Sublist kept (p.inFlight tid) ∧
      (p.perform call).inFlight tid =
        kept ++ (p.appended? call).toList.filter (·.tid = tid) := by
  cases call with
  | predict pc => exact ⟨_, .refl _, (List.append_nil _).symm⟩
  | dispatch seq pc thread => exact ⟨_, .refl _, p.inFlight_dispatch seq pc thread tid⟩
  | record load => exact ⟨_, .refl _, p.inFlight_record load tid⟩
  | validate seq actual => exact ⟨_, .refl _, (List.append_nil _).symm⟩
  | squash point thread =>
      refine ⟨_, ?_, (List.append_nil _).symm⟩
      rw [perform, inFlight_squash]
      split
      · exact InFlight.trim_sublist point _
      · exact .refl _
  | retire seq thread =>
      refine ⟨_, ?_, (List.append_nil _).symm⟩
      rw [perform, inFlight_retire]
      split
      · exact InFlight.retire_sublist seq _
      · exact .refl _
  | update pc value => exact ⟨_, .refl _, (List.append_nil _).symm⟩

theorem Arranged.perform {p : Predictor} (arranged : p.Arranged) {call : Call}
    (youngest : ∀ load ∈ p.appended? call, ∀ record ∈ p.inFlight load.tid,
      record.seq < load.seq) : (p.perform call).Arranged := by
  have appends {tid : ThreadId} {load : InFlight}
      (member : load ∈ (p.appended? call).toList.filter (·.tid = tid)) :
      load ∈ p.appended? call ∧ load.tid = tid := by
    rw [List.mem_filter, Option.mem_toList, decide_eq_true_iff] at member
    exact member
  -- What is kept keeps its order; only the appended record has to be younger.
  constructor
  · intro tid
    obtain ⟨kept, sublist, after⟩ := p.inFlight_perform call tid
    rw [after]
    apply List.pairwise_append.mpr
    refine ⟨(arranged.ordered tid).sublist sublist, ?_, ?_⟩
    · apply List.Pairwise.filter
      cases p.appended? call with
      | none => exact .nil
      | some load => exact List.pairwise_singleton _ _
    · intro record older load member
      obtain ⟨appended, rfl⟩ := appends member
      exact youngest load appended record (sublist.mem older)
  · intro tid record member
    obtain ⟨kept, sublist, after⟩ := p.inFlight_perform call tid
    rw [after, List.mem_append] at member
    rcases member with older | youngest
    · exact arranged.own tid record (sublist.mem older)
    · exact (appends youngest).2

theorem Arranged.performAll {p : Predictor} (arranged : p.Arranged) {calls : List Call}
    (inOrder : p.InProgramOrder calls) : (p.performAll calls).Arranged := by
  induction calls generalizing p with
  | nil => exact arranged
  | cons call calls ih =>
      obtain ⟨youngest, later⟩ := inOrder
      exact ih (arranged.perform youngest) later

theorem arranged_fresh (config : PredictorConfig) (usable : config.validate = .ok ())
    (threads : UInt64) : (Predictor.fresh config usable threads).Arranged := by
  constructor
  · intro tid
    rw [inFlight_fresh]
    exact .nil
  · intro tid record member
    rw [inFlight_fresh] at member
    cases member

/-! ## What a squash takes away in program order -/

/-- A thread without a queue has nothing to forget. -/
theorem squash_of_le {p : Predictor} {tid : ThreadId} (outside : p.threads ≤ tid.toNat)
    (point : UInt64) : p.squash point tid = p :=
  congrArg (fun histories => { p with histories }) (List.modify_eq_self outside)

/--
A squash takes away exactly the younger records.  Whatever was called before, if no
record was appended to a queue that was not younger than all in it, every queue is in
program order and holds records of its own thread; and a squash leaves to its thread the
records up to the point, in their order, and all else as it was.
-/
theorem squash_removes_younger {config : PredictorConfig} {threads : UInt64} {start : Predictor}
    (created : Predictor.create config threads = .ok start) {calls : List Call}
    (inOrder : start.InProgramOrder calls) :
    let p := start.performAll calls
    (∀ tid, (p.inFlight tid).Pairwise (fun older younger => older.seq < younger.seq) ∧
      ∀ record ∈ p.inFlight tid, record.tid = tid) ∧
    ∀ point tid,
      let squashed := p.squash point tid
      squashed.inFlight tid = (p.inFlight tid).filter (fun record => record.seq ≤ point) ∧
      (∀ record ∈ squashed.inFlight tid, record.seq ≤ point) ∧
      (∀ other, other ≠ tid → squashed.inFlight other = p.inFlight other) ∧
      squashed.table = p.table ∧ squashed.counters = p.counters ∧
      squashed.enabled = p.enabled ∧ squashed.threshold = p.threshold ∧
      squashed.threads = p.threads ∧
      (p.threads ≤ tid.toNat → squashed = p) := by
  obtain ⟨-, usable, rfl⟩ := create_eq_ok_iff.mp created
  have arranged := (arranged_fresh config usable threads).performAll inOrder
  intro p
  refine ⟨fun tid => ⟨arranged.ordered tid, arranged.own tid⟩, fun point tid => ?_⟩
  intro squashed
  have left : squashed.inFlight tid =
      (p.inFlight tid).filter (fun record => record.seq ≤ point) := by
    rw [p.inFlight_squash point tid tid, if_pos rfl]
    exact InFlight.trim_eq_filter (arranged.ordered tid) point
  refine ⟨left, ?_, ?_, rfl, rfl, rfl, rfl, p.threads_modifyHistory tid _,
    fun outside => squash_of_le outside point⟩
  · intro record member
    rw [left, List.mem_filter] at member
    exact of_decide_eq_true member.2
  · intro other apart
    rw [p.inFlight_squash point tid other, if_neg apart.symm]

/-- An unpredicted load between a predicted one that retired and one that is squashed. -/
theorem squash_removes_younger_behind_retirement :
    ∃ start,
      let calls : List Call :=
        [.update 256 5, .dispatch 3 256 1, .record { seq := 4, tid := 1 },
          .record { seq := 2, tid := 0 }, .retire 3 1, .dispatch 9 256 1]
      let p := start.performAll calls
      Predictor.create { enabled := true, tableSize := 4, threshold := 0 } 2 = .ok start ∧
        start.InProgramOrder calls ∧
        p.inFlight 1 = [{ seq := 4, tid := 1 }, recordOf 9 256 1 5] ∧
        (p.squash 5 1).inFlight 1 = [{ seq := 4, tid := 1 }] ∧
        (p.squash 5 1).inFlight 0 = [{ seq := 2, tid := 0 }] ∧
        p.squash 5 7 = p := by
  let config : PredictorConfig := { enabled := true, tableSize := 4, threshold := 0 }
  let start : Predictor := .fresh config (by decide) 2
  have created : Predictor.create config 2 = .ok start :=
    create_eq_ok_iff.mpr ⟨by decide, by decide, rfl⟩
  refine ⟨start, ?_⟩
  intro calls p
  have inOrder : start.InProgramOrder calls := by decide +kernel
  have queues : p.inFlight 1 = [{ seq := 4, tid := 1 }, recordOf 9 256 1 5] ∧
      p.inFlight 0 = [{ seq := 2, tid := 0 }] := by decide +kernel
  obtain ⟨-, squashed⟩ := squash_removes_younger created inOrder
  obtain ⟨left, -, others, -⟩ := squashed 5 1
  obtain ⟨-, -, -, -, -, -, -, -, unchanged⟩ := squashed 5 7
  refine ⟨created, inOrder, queues.1, ?_, ?_, unchanged (by decide)⟩
  · rw [left, queues.1]
    rfl
  · rw [others 0 (by decide), queues.2]

end Predictor

end EarlyResolution
