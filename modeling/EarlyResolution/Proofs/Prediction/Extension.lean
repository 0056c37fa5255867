import EarlyResolution.Proofs.Prediction.Queues

/-!
# Records behind those of a thread

Putting more records behind those of one thread changes neither the table nor
what the other threads do, as long as they check none of those loads.  A squash
takes the records away again: where the thread's own ones lie up to the point, it
reaches no further than the end that was put there.
-/

namespace EarlyResolution

namespace History

/-- The history with more records at its young end. -/
def extend (history : History) (younger : List InFlight) : History :=
  ⟨history.loads ++ younger⟩

@[simp] theorem records_extend (history : History) (younger : List InFlight) :
    (history.extend younger).records = history.records ++ younger := by
  simp [extend, records]

theorem extend_nil (history : History) : history.extend [] = history := by
  ext1
  simp

theorem push_extend (history : History) (younger : List InFlight) (record : InFlight) :
    (history.extend younger).push record = history.extend (younger ++ [record]) := by
  ext1
  simp

/-- Records of other loads do not matter to the search for one. -/
theorem find?_extend (history : History) {younger : List InFlight} {seq : UInt64}
    (absent : ∀ record ∈ younger, record.seq ≠ seq) :
    (history.extend younger).find? seq = history.find? seq := by
  have missed : younger.find? (fun record => record.seq == seq && record.predicted) = none := by
    rw [List.find?_eq_none]
    intro record member
    simp [absent record member]
  rw [find?_eq, find?_eq, records_extend, List.find?_append, missed, Option.or_none]

/-- A squash that spares the older records trims the younger ones alone. -/
theorem squash_extend {history : History} {point : UInt64}
    (spared : ∀ record ∈ history.records, record.seq ≤ point) (younger : List InFlight) :
    (history.extend younger).squash point = history.extend (InFlight.trim point younger) := by
  ext1
  rw [records_extend, ← InFlight.trim_append spared younger, ← records_extend]
  exact records_squash_eq_trim _ point

end History

namespace Predictor

/-! ## Changes to histories -/

theorem modifyHistory_modifyHistory (p : Predictor) (tid : ThreadId)
    (first second : History → History) :
    (p.modifyHistory tid first).modifyHistory tid second = p.modifyHistory tid (second ∘ first) :=
  congrArg (fun histories => { p with histories }) (List.modify_modify_eq first second _ _)

/-- Changes to the histories of different threads commute. -/
theorem modifyHistory_comm (p : Predictor) {tid other : ThreadId} (apart : tid ≠ other)
    (first second : History → History) :
    (p.modifyHistory tid first).modifyHistory other second =
      (p.modifyHistory other second).modifyHistory tid first := by
  have slots : tid.toNat ≠ other.toNat := fun equal => apart (UInt64.toNat_inj.mp equal)
  exact congrArg (fun histories => { p with histories })
    (List.modify_modify_ne first second _ slots)

/-- Changes that do the same to the history of a thread are the same change. -/
theorem modifyHistory_congr {p : Predictor} {tid : ThreadId} {first second : History → History}
    (same : ∀ history, history.records = p.inFlight tid → first history = second history) :
    p.modifyHistory tid first = p.modifyHistory tid second := by
  refine congrArg (fun histories => { p with histories }) (List.ext_getElem? fun slot => ?_)
  rw [List.getElem?_modify, List.getElem?_modify]
  by_cases here : tid.toNat = slot
  · subst slot
    cases found : p.histories[tid.toNat]? with
    | none => rfl
    | some history =>
        have own : history.records = p.inFlight tid := by rw [inFlight, found]
        simp [same history own]
  · simp [here]

/-- A change that a search does not notice leaves what a writeback checks. -/
theorem recorded?_modifyHistory (p : Predictor) (tid : ThreadId) {change : History → History}
    {seq : UInt64} (unnoticed : ∀ history, (change history).find? seq = history.find? seq) :
    (p.modifyHistory tid change).recorded? seq = p.recorded? seq := by
  unfold recorded? modifyHistory
  dsimp only
  generalize tid.toNat = slot
  induction p.histories generalizing slot with
  | nil => rw [List.modify_nil]
  | cons history histories ih =>
      cases slot with
      | zero => rw [List.modify_zero_cons, List.findSome?_cons, List.findSome?_cons, unnoticed]
      | succ slot => rw [List.modify_succ_cons, List.findSome?_cons, List.findSome?_cons, ih]

/-! ## Extended histories -/

def extend (p : Predictor) (tid : ThreadId) (younger : List InFlight) : Predictor :=
  p.modifyHistory tid (·.extend younger)

theorem extend_nil (p : Predictor) (tid : ThreadId) : p.extend tid [] = p := by
  have unchanged : (fun history : History => history.extend []) = id :=
    funext History.extend_nil
  rw [extend, modifyHistory, unchanged, List.modify_id]

@[simp] theorem threads_extend (p : Predictor) (tid : ThreadId) (younger : List InFlight) :
    (p.extend tid younger).threads = p.threads :=
  p.threads_modifyHistory tid _

@[simp] theorem lookup_extend (p : Predictor) (tid : ThreadId) (younger : List InFlight)
    (pc : UInt64) : (p.extend tid younger).lookup pc = p.lookup pc :=
  rfl

theorem push_extend (p : Predictor) (tid : ThreadId) (younger : List InFlight)
    (record : InFlight) :
    (p.extend tid younger).modifyHistory tid (·.push record) =
      p.extend tid (younger ++ [record]) := by
  rw [extend, modifyHistory_modifyHistory, extend]
  exact congrArg _ (funext fun history => history.push_extend younger record)

/-- The check of a load that is not among the records is the same. -/
theorem validate_extend (p : Predictor) (tid : ThreadId) {younger : List InFlight} {seq : UInt64}
    (absent : ∀ record ∈ younger, record.seq ≠ seq) (actual : UInt64) :
    (p.extend tid younger).validate seq actual =
      ((p.validate seq actual).1, (p.validate seq actual).2.extend tid younger) := by
  have unnoticed (history : History) := history.find?_extend absent
  have found : (p.extend tid younger).recorded? seq = p.recorded? seq :=
    p.recorded?_modifyHistory tid unnoticed
  have verdict : (p.extend tid younger).check seq actual = p.check seq actual := by
    rw [check, found, check]
  rw [validate, verdict]
  rfl

/-- On its own thread a squash that spares the older records trims the younger ones. -/
theorem squash_extend {p : Predictor} {tid : ThreadId} {point : UInt64}
    (spared : ∀ record ∈ p.inFlight tid, record.seq ≤ point) (younger : List InFlight) :
    (p.extend tid younger).squash point tid = p.extend tid (InFlight.trim point younger) := by
  rw [extend, squash, modifyHistory_modifyHistory, extend]
  apply modifyHistory_congr
  intro history own
  exact History.squash_extend (own ▸ spared) younger

/-- A squash takes away all that lies past its point. -/
theorem squash_extend_past {p : Predictor} {tid : ThreadId} {point : UInt64}
    (spared : ∀ record ∈ p.inFlight tid, record.seq ≤ point) {younger : List InFlight}
    (past : ∀ record ∈ younger, point < record.seq) :
    (p.extend tid younger).squash point tid = p.squash point tid := by
  have plain := squash_extend spared []
  rw [extend_nil, InFlight.trim_nil] at plain
  rw [squash_extend spared, InFlight.trim_eq_nil past, plain]

/-! ## The other threads -/

variable (p : Predictor) {tid other : ThreadId}

theorem squash_extend_of_ne (apart : other ≠ tid) (younger : List InFlight) (point : UInt64) :
    (p.extend tid younger).squash point other = (p.squash point other).extend tid younger :=
  p.modifyHistory_comm apart.symm _ _

theorem retire_extend_of_ne (apart : other ≠ tid) (younger : List InFlight) (seq : UInt64) :
    (p.extend tid younger).retire seq other = (p.retire seq other).extend tid younger :=
  p.modifyHistory_comm apart.symm _ _

theorem dispatch_extend_of_ne (apart : other ≠ tid) (younger : List InFlight)
    (seq pc : UInt64) :
    (p.extend tid younger).dispatch seq pc other =
      ((p.dispatch seq pc other).1, (p.dispatch seq pc other).2.extend tid younger) := by
  by_cases inside : other.toNat < p.threads
  · have within : other.toNat < (p.extend tid younger).threads := by simpa using inside
    rw [dispatch_of_lt inside, dispatch_of_lt within, lookup_extend]
    cases (p.lookup pc).value? with
    | none => rfl
    | some value =>
        exact congrArg (Prod.mk _) ((p.predict pc).2.modifyHistory_comm apart.symm _ _)
  · have outside := Nat.not_lt.mp inside
    have without : (p.extend tid younger).threads ≤ other.toNat := by simpa using outside
    rw [dispatch_of_le outside, dispatch_of_le without, threads_extend]

end Predictor

end EarlyResolution
