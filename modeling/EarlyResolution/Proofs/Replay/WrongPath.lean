import EarlyResolution.Proofs.Construction
import EarlyResolution.Proofs.Prediction.Extension
import EarlyResolution.Proofs.Replay.Bare

/-!
# A wrong path leaves no residue

A thread that runs past a point on a wrong path only puts records behind those it
has up to the point, and only takes such records away again.  It trains nothing,
and the other threads do not look at its loads.  So a squash back to the point
leaves the units, counters and registers apart, as if the wrong path had never
been taken, and no trace can tell the difference afterwards.
-/

namespace EarlyResolution

/-- What may happen on a wrong path past a point: it commits nothing and reaches no older load. -/
def Event.WrongPath (point : UInt64) : Event → Prop
  | .dispatchLoad seq _ _ | .writebackLoad seq _ _ => point < seq
  | .squash seq _ => point ≤ seq
  | .commitLoad _ _ _ _ => False
  | .issue _ => True

/--
A stretch of a trace along which one thread is on a wrong path past a point.  The
other threads do what they like, but write back no load that the wrong path
dispatches.
-/
structure Astray (thread : ThreadId) (point : UInt64) (path : List Event) : Prop where
  wrong : ∀ event ∈ path, event.tid = thread → event.WrongPath point
  apart : ∀ seq pc tid value, .dispatchLoad seq pc thread ∈ path →
    .writebackLoad seq tid value ∈ path → tid = thread

/-- On its own thread a dispatch puts a record behind the others, if any. -/
theorem Predictor.dispatch_extend_self (p : Predictor) (tid : ThreadId) (younger : List InFlight)
    (seq pc : UInt64) :
    ∃ newer, (∀ load ∈ newer, load.seq = seq) ∧
      ((p.extend tid younger).dispatch seq pc tid).2.uncounted =
        (p.extend tid (younger ++ newer)).uncounted := by
  have unchanged : (p.extend tid younger).uncounted = (p.extend tid (younger ++ [])).uncounted := by
    rw [List.append_nil]
  by_cases inside : tid.toNat < (p.extend tid younger).threads
  · rw [dispatch_of_lt inside]
    cases ((p.extend tid younger).lookup pc).value? with
    | none => exact ⟨[], by simp, unchanged⟩
    | some value =>
        let record := recordOf seq pc tid value
        have joined := congrArg uncounted (p.push_extend tid younger record)
        exact ⟨[record], by simp [record, recordOf], joined⟩
  · rw [dispatch_of_le (Nat.not_lt.mp inside)]
    exact ⟨[], by simp, unchanged⟩

namespace Units

def extend (units : Units) (thread : ThreadId) (younger : List InFlight) : Units :=
  { units with predictor := units.predictor.extend thread younger }

/-! ## One event -/

/-- A wrong path puts its own loads behind those of its thread, or takes some away. -/
theorem react_extend_of_wrongPath {units : Units} {thread : ThreadId} {point : UInt64}
    (resolved : ∀ load ∈ units.predictor.inFlight thread, load.seq ≤ point)
    (younger : List InFlight) {event : Event} (own : event.tid = thread)
    (wrong : event.WrongPath point) :
    ∃ left : List InFlight,
      ((units.extend thread younger).react event).2.bare = (units.extend thread left).bare ∧
      ∀ load ∈ left, load ∈ younger ∨ ∃ pc, event = .dispatchLoad load.seq pc thread := by
  -- No squash on the wrong path reaches the records up to the point.
  have trimmed (cut : UInt64) (past : point ≤ cut) :
      (units.predictor.extend thread younger).squash cut thread =
        units.predictor.extend thread (InFlight.trim cut younger) := by
    have spared : ∀ load ∈ units.predictor.inFlight thread, load.seq ≤ cut :=
      fun load member => UInt64.le_trans (resolved load member) past
    exact Predictor.squash_extend spared younger
  cases event with
  | dispatchLoad seq pc tid =>
      obtain rfl : tid = thread := own
      obtain ⟨newer, same, recorded⟩ := units.predictor.dispatch_extend_self tid younger seq pc
      refine ⟨younger ++ newer, ?_, fun load member => ?_⟩
      · rw [react_dispatchLoad]
        exact bare_ext recorded rfl
      · rcases List.mem_append.mp member with old | new
        · exact .inl old
        · exact .inr ⟨pc, by rw [same load new]⟩
  | writebackLoad seq tid value =>
      obtain rfl : tid = thread := own
      rw [react_writebackLoad]
      split
      · exact ⟨younger, rfl, fun load member => .inl member⟩
      · have cut := congrArg Predictor.uncounted (trimmed seq (UInt64.le_of_lt wrong))
        refine ⟨_, bare_ext cut rfl, fun load member => ?_⟩
        exact .inl (InFlight.mem_of_mem_trim member)
  | commitLoad seq pc tid value => exact wrong.elim
  | squash seq tid =>
      obtain rfl : tid = thread := own
      have cut := congrArg Predictor.uncounted (trimmed seq wrong)
      refine ⟨_, bare_ext cut rfl, fun load member => ?_⟩
      exact .inl (InFlight.mem_of_mem_trim member)
  | issue issue =>
      refine ⟨younger, ?_, fun load member => .inl member⟩
      rw [react_issue]
      split <;> rfl

/-- Another thread does not notice records behind those of the first. -/
theorem react_extend_of_ne {units : Units} {thread : ThreadId} {younger : List InFlight}
    {event : Event} (apart : event.tid ≠ thread)
    (absent : ∀ seq tid value, event = .writebackLoad seq tid value →
      ∀ load ∈ younger, load.seq ≠ seq) :
    (units.extend thread younger).react event =
      ((units.react event).1, (units.react event).2.extend thread younger) := by
  cases event with
  | dispatchLoad seq pc tid =>
      have dispatched := units.predictor.dispatch_extend_of_ne apart younger seq pc
      rw [react_dispatchLoad, react_dispatchLoad]
      exact congrArg
        (fun answer => (answer.1.map Outcome.ofDispatch, { units with predictor := answer.2 }))
        dispatched
  | writebackLoad seq tid value =>
      have validated : (units.extend thread younger).predictor.validate seq value = _ :=
        units.predictor.validate_extend thread (absent seq tid value rfl) value
      rw [react, react, validated]
      cases units.predictor.validate seq value with
      | mk passes p =>
          cases passes with
          | true => rfl
          | false =>
              have squashed := p.squash_extend_of_ne apart younger seq
              exact congrArg (fun p => (_, { units with predictor := p })) squashed
  | commitLoad seq pc tid value =>
      have retired := (units.predictor.update pc value).retire_extend_of_ne apart younger seq
      exact congrArg (fun p => (_, { units with predictor := p })) retired
  | squash point tid =>
      have squashed := units.predictor.squash_extend_of_ne apart younger point
      exact congrArg (fun p => (_, { units with predictor := p })) squashed
  | issue issue =>
      rw [react_issue, react_issue]
      split <;> rfl

/-! ## Runs on and off the wrong path -/

/--
Units on a wrong path past a point, beside units that never took it: bare, they
differ only in younger records behind those of the thread, of loads that the
wrong path dispatches.
-/
structure Strayed (thread : ThreadId) (point : UInt64) (lost : UInt64 → Prop)
    (astray units : Units) : Prop where
  resolved : ∀ load ∈ units.predictor.inFlight thread, load.seq ≤ point
  behind : ∃ younger : List InFlight, astray.bare = (units.extend thread younger).bare ∧
    ∀ load ∈ younger, point < load.seq ∧ lost load.seq

namespace Strayed

variable {thread : ThreadId} {point : UInt64} {lost : UInt64 → Prop} {astray units : Units}

theorem refl (lost : UInt64 → Prop)
    (resolved : ∀ load ∈ units.predictor.inFlight thread, load.seq ≤ point) :
    Strayed thread point lost units units := by
  refine ⟨resolved, [], ?_, by simp⟩
  rw [extend, Predictor.extend_nil]

/-- On the wrong path nothing happens to the units that did not take it. -/
theorem react_wrong (strayed : Strayed thread point lost astray units) {event : Event}
    (own : event.tid = thread) (wrong : event.WrongPath point)
    (dispatched : ∀ seq pc, event = .dispatchLoad seq pc thread → lost seq) :
    Strayed thread point lost (astray.react event).2 units := by
  obtain ⟨resolved, younger, same, past⟩ := strayed
  obtain ⟨left, after, origin⟩ := react_extend_of_wrongPath resolved younger own wrong
  refine ⟨resolved, left, (bare_react_eq_of_bare same event).trans after, fun load member => ?_⟩
  rcases origin load member with old | ⟨pc, rfl⟩
  · exact past load old
  · exact ⟨wrong, dispatched _ _ rfl⟩

/-- The other threads go on alike with and without the wrong path. -/
theorem react_other (strayed : Strayed thread point lost astray units) {event : Event}
    (other : event.tid ≠ thread)
    (absent : ∀ seq tid value, event = .writebackLoad seq tid value → ¬ lost seq) :
    (astray.react event).1 = (units.react event).1 ∧
      Strayed thread point lost (astray.react event).2 (units.react event).2 := by
  obtain ⟨resolved, younger, same, past⟩ := strayed
  have unnoticed : (units.extend thread younger).react event = _ :=
    react_extend_of_ne other fun seq tid value written load member clash =>
      absent seq tid value written (clash ▸ (past load member).2)
  refine ⟨?_, ?_, younger, ?_, past⟩
  · rw [result_eq_of_bare same, unnoticed]
  · rw [inFlight_react_of_ne _ other]
    exact resolved
  · rw [bare_react_eq_of_bare same, unnoticed]

/-- A squash back to the point takes the whole wrong path away. -/
theorem react_squash (strayed : Strayed thread point lost astray units) :
    (astray.react (.squash point thread)).2.bare = (units.react (.squash point thread)).2.bare := by
  obtain ⟨resolved, younger, same, past⟩ := strayed
  have cut := Predictor.squash_extend_past resolved fun load member => (past load member).1
  rw [bare_react_eq_of_bare same]
  exact bare_ext (congrArg Predictor.uncounted cut) rfl

end Strayed

end Units

namespace Replayer

variable {thread : ThreadId} {point : UInt64} {lost : UInt64 → Prop}

/-- Along a wrong path the other threads see what they would have seen without it. -/
theorem strayed_after {astray other : Replayer}
    (strayed : Units.Strayed thread point lost astray.units other.units) {path : List Event}
    (wrong : ∀ event ∈ path, event.tid = thread → event.WrongPath point)
    (dispatched : ∀ seq pc, .dispatchLoad seq pc thread ∈ path → lost seq)
    (apart : ∀ seq tid value, .writebackLoad seq tid value ∈ path → lost seq → tid = thread) :
    Units.Strayed thread point lost (astray.after path).units
        (other.after (path.filter fun event => event.tid ≠ thread)).units ∧
      ((astray.log path).filter fun entry => entry.1.tid ≠ thread) =
        other.log (path.filter fun event => event.tid ≠ thread) := by
  induction path generalizing astray other with
  | nil => exact ⟨strayed, rfl⟩
  | cons event path ih =>
      have wrongLater := fun event member => wrong event (List.mem_cons_of_mem _ member)
      have dispatchedLater := fun seq pc member => dispatched seq pc (List.mem_cons_of_mem _ member)
      have apartLater := fun seq tid value member =>
        apart seq tid value (List.mem_cons_of_mem _ member)
      -- The run without the wrong path stands still while the thread itself goes on.
      by_cases own : event.tid = thread
      · have next : Units.Strayed thread point lost (astray.step event).2.units other.units := by
          rw [units_step]
          refine strayed.react_wrong own (wrong event (by simp) own) ?_
          rintro seq pc rfl
          exact dispatched seq pc (by simp)
        rw [List.filter_cons_of_neg (by simpa using own), after_cons, log_cons,
          List.filter_cons_of_neg (by simpa using own)]
        exact ih next wrongLater dispatchedLater apartLater
      · have absent : ∀ seq tid value, event = .writebackLoad seq tid value → ¬ lost seq := by
          rintro seq tid value rfl clash
          exact own (apart seq tid value (by simp) clash)
        obtain ⟨answer, next⟩ := strayed.react_other own absent
        rw [← step_fst, ← step_fst] at answer
        rw [← units_step, ← units_step] at next
        obtain ⟨after, log⟩ := ih next wrongLater dispatchedLater apartLater
        rw [List.filter_cons_of_pos (by simpa using own), after_cons, log_cons,
          List.filter_cons_of_pos (by simpa using own), after_cons, log_cons, answer]
        exact ⟨after, congrArg _ log⟩

/--
A wrong path leaves no residue.  A run that takes it and is then squashed back to
the point, and a run of the other threads' events and the same squash, end with
the same table and the same records in flight, and differ in nothing but counters
and registers; the other threads' events come to the same, and so does whatever
is replayed afterwards.
-/
theorem wrongPath_leaves_no_residue (start : Replayer) {thread : ThreadId} {point : UInt64}
    {path : List Event}
    (resolved : ∀ load ∈ start.units.predictor.inFlight thread, load.seq ≤ point)
    (astray : Astray thread point path) :
    let others := path.filter fun event => event.tid ≠ thread
    let squashed := start.after (path ++ [.squash point thread])
    let spared := start.after (others ++ [.squash point thread])
    squashed.units.predictor.table = spared.units.predictor.table ∧
      squashed.units.predictor.histories = spared.units.predictor.histories ∧
      squashed.units.bare = spared.units.bare ∧
      ((start.log path).filter fun entry => entry.1.tid ≠ thread) = start.log others ∧
      ∀ rest, squashed.log rest = spared.log rest := by
  intro others squashed spared
  let lost (seq : UInt64) : Prop := ∃ pc, .dispatchLoad seq pc thread ∈ path
  obtain ⟨strayed, log⟩ := strayed_after (.refl lost resolved) astray.wrong
    (fun seq pc member => ⟨pc, member⟩)
    (fun seq tid value written ⟨pc, member⟩ => astray.apart seq pc tid value member written)
  have same : squashed.units.bare = spared.units.bare := by
    simp only [squashed, spared, after_concat, units_step]
    exact strayed.react_squash
  refine ⟨?_, ?_, same, log, fun rest => log_eq_of_bare same rest⟩
  · exact congrArg (fun units => units.predictor.table) same
  · exact congrArg (fun units => units.predictor.histories) same

/-- A wrong path that predicts, mispredicts and predicts again, beside a load of another thread. -/
theorem wrongPath_leaves_no_residue_beside_load :
    ∃ (start : Replayer) (path : List Event),
      (start.units.predictor.inFlight 0).map InFlight.seq = [2] ∧
        Astray 0 2 path ∧
        (start.log path).map Prod.snd =
          [.ok (.predicted 5), .ok (.predicted 5), .ok .mispredicted, .ok (.predicted 5)] ∧
        (path.filter fun event => event.tid ≠ 0) = [.dispatchLoad 4 256 1] ∧
        (start.after (path ++ [.squash 2 0])).log [.writebackLoad 2 0 6] =
          (start.after [.dispatchLoad 4 256 1, .squash 2 0]).log [.writebackLoad 2 0 6] := by
  let config : PredictorConfig := { enabled := true, tableSize := 4, threshold := 0 }
  let fresh : Replayer :=
    { units := { predictor := .fresh config (by decide) 2, simplifier := ⟨true, {}⟩ } }
  let start := fresh.after [.commitLoad 1 256 0 5, .dispatchLoad 2 256 0]
  let path : List Event := [.dispatchLoad 3 256 0, .dispatchLoad 4 256 1, .writebackLoad 3 0 6,
    .dispatchLoad 5 256 0]
  have astray : Astray 0 2 path := by
    constructor
    · simp [path, Event.tid, Event.WrongPath]
    · intro seq pc tid value _ written
      have own : seq = 3 ∧ tid = 0 ∧ value = 6 := by simpa [path] using written
      exact own.2.1
  have others : (path.filter fun event => event.tid ≠ 0) = [.dispatchLoad 4 256 1] := by
    decide +kernel
  have clean := (wrongPath_leaves_no_residue start (by decide +kernel) astray).2.2.2.2
    [.writebackLoad 2 0 6]
  rw [others] at clean
  exact ⟨start, path, by decide +kernel, astray, by decide +kernel, others, clean⟩

end Replayer

end EarlyResolution
