import Mathlib.Data.List.DropRight
import EarlyResolution.Prediction.Predictor

/-!
# The records in flight

What each operation does to the records of every thread.  Appending, trimming
the young end and retiring the oldest record touch one thread alone.  On records
in program order a trim keeps exactly the records up to the point, and retiring
the oldest load drops exactly that load.
-/

namespace EarlyResolution

namespace InFlight

/-- The records are in program order: every one is younger than those before it. -/
def Ordered (records : List InFlight) : Prop :=
  records.Pairwise fun older younger => older.seq < younger.seq

/-- The records without the young end that lies past a point. -/
def trim (point : UInt64) (records : List InFlight) : List InFlight :=
  records.rdropWhile fun record => point < record.seq

/-- The records without the oldest one, if it is that of the given load. -/
def retire (seq : UInt64) : List InFlight → List InFlight
  | [] => []
  | oldest :: younger => if oldest.seq = seq then younger else oldest :: younger

/-! ## Trimming the young end -/

@[simp] theorem trim_nil (point : UInt64) : trim point [] = [] :=
  rfl

theorem trim_concat (point : UInt64) (records : List InFlight) (youngest : InFlight) :
    trim point (records ++ [youngest]) =
      if point < youngest.seq then trim point records else records ++ [youngest] := by
  unfold trim
  rw [List.rdropWhile_concat]
  by_cases past : point < youngest.seq
  · rw [if_pos past, if_pos (decide_eq_true past)]
  · rw [if_neg past, if_neg (by simpa using past)]

/-- A trim does not reach behind the youngest record that it keeps. -/
theorem trim_append {point : UInt64} {kept : List InFlight}
    (older : ∀ record ∈ kept, record.seq ≤ point) (tail : List InFlight) :
    trim point (kept ++ tail) = kept ++ trim point tail := by
  induction tail using List.reverseRecOn with
  | nil =>
      rw [List.append_nil, trim_nil, List.append_nil, trim, List.rdropWhile_eq_self_iff]
      intro nonempty past
      have bound := older _ (List.getLast_mem nonempty)
      exact UInt64.not_lt.mpr bound (of_decide_eq_true past)
  | append_singleton tail youngest ih =>
      rw [← List.append_assoc, trim_concat, trim_concat, ih]
      split
      · rfl
      · exact List.append_assoc _ _ _

/-- Everything is trimmed from records past the point. -/
theorem trim_eq_nil {point : UInt64} {records : List InFlight}
    (younger : ∀ record ∈ records, point < record.seq) : trim point records = [] := by
  rw [trim, List.rdropWhile_eq_nil_iff]
  intro record member
  exact decide_eq_true (younger record member)

theorem trim_sublist (point : UInt64) (records : List InFlight) :
    List.Sublist (trim point records) records :=
  (List.rdropWhile_prefix _ _).sublist

theorem mem_of_mem_trim {point : UInt64} {records : List InFlight} {record : InFlight}
    (member : record ∈ trim point records) : record ∈ records :=
  (trim_sublist point records).mem member

/-- On records in program order the trimmed end is all that lies past the point. -/
theorem trim_eq_filter {records : List InFlight} (ordered : Ordered records) (point : UInt64) :
    trim point records = records.filter fun record => record.seq ≤ point := by
  induction records using List.reverseRecOn with
  | nil => rfl
  | append_singleton records youngest ih =>
      obtain ⟨before, -, below⟩ := List.pairwise_append.mp ordered
      rw [List.filter_append]
      rw [trim_concat]
      by_cases past : point < youngest.seq
      · have dropped : ¬ youngest.seq ≤ point := UInt64.not_le.mpr past
        rw [if_pos past, ih before, List.filter_cons_of_neg (by simpa using dropped),
          List.filter_nil, List.append_nil]
      · have kept : youngest.seq ≤ point := UInt64.not_lt.mp past
        have older : records.filter (fun record => record.seq ≤ point) = records := by
          rw [List.filter_eq_self]
          intro record member
          have younger := UInt64.le_of_lt (below record member youngest (by simp))
          exact decide_eq_true (UInt64.le_trans younger kept)
        rw [if_neg past, older, List.filter_cons_of_pos (by simpa using kept), List.filter_nil]

/-! ## Retiring the oldest record -/

theorem retire_sublist (seq : UInt64) (records : List InFlight) :
    List.Sublist (retire seq records) records := by
  cases records with
  | nil => exact .refl _
  | cons oldest younger =>
      rw [retire]
      split
      · exact List.sublist_cons_self oldest younger
      · exact .refl _

theorem mem_of_mem_retire {seq : UInt64} {records : List InFlight} {record : InFlight}
    (member : record ∈ retire seq records) : record ∈ records :=
  (retire_sublist seq records).mem member

/-- In program order, retiring a load with no older one in flight drops it wherever it stands. -/
theorem retire_eq_filter {records : List InFlight} (ordered : Ordered records) {seq : UInt64}
    (oldest : ∀ record ∈ records, seq ≤ record.seq) :
    retire seq records = records.filter fun record => record.seq ≠ seq := by
  cases records with
  | nil => rfl
  | cons first rest =>
      obtain ⟨above, -⟩ := List.pairwise_cons.mp ordered
      have kept : rest.filter (fun record => record.seq ≠ seq) = rest := by
        rw [List.filter_eq_self]
        intro record member
        have younger := UInt64.lt_of_le_of_lt (oldest first (by simp)) (above record member)
        exact decide_eq_true (UInt64.ne_of_lt younger).symm
      by_cases same : first.seq = seq
      · rw [retire, if_pos same, List.filter_cons_of_neg (by simpa using same), kept]
      · rw [retire, if_neg same, List.filter_cons_of_pos (by simpa using same), kept]

end InFlight

namespace History

theorem records_squash_eq_trim (history : History) (point : UInt64) :
    (history.squash point).records = InFlight.trim point history.records :=
  history.records_squash point

theorem records_retire_eq_retire (history : History) (seq : UInt64) :
    (history.retire seq).records = InFlight.retire seq history.records :=
  history.records_retire seq

end History

namespace Predictor

open InFlight (trim)

/-! ## What each operation does to the records in flight -/

/-- A change to one thread's history acts on the records of that thread alone. -/
theorem inFlight_modifyHistory (p : Predictor) (tid : ThreadId) {change : History → History}
    (onRecords : List InFlight → List InFlight)
    (acts : ∀ history, (change history).records = onRecords history.records)
    (inside : onRecords [] = [] ∨ tid.toNat < p.threads) (other : ThreadId) :
    (p.modifyHistory tid change).inFlight other =
      if tid = other then onRecords (p.inFlight other) else p.inFlight other := by
  unfold modifyHistory inFlight
  rw [List.getElem?_modify]
  by_cases same : tid = other
  · subst other
    rw [if_pos rfl]
    cases slot : p.histories[tid.toNat]? with
    | some history => simpa using acts history
    | none =>
        have outside : p.threads ≤ tid.toNat := List.getElem?_eq_none_iff.mp slot
        cases inside with
        | inl empty => exact empty.symm
        | inr within => exact absurd within (Nat.not_lt.mpr outside)
  · have apart : ¬ tid.toNat = other.toNat := fun equal => same (UInt64.toNat_inj.mp equal)
    simp only [if_neg same, if_neg apart]
    cases p.histories[other.toNat]? <;> rfl

theorem inFlight_squash (p : Predictor) (point : UInt64) (tid other : ThreadId) :
    (p.squash point tid).inFlight other =
      if tid = other then trim point (p.inFlight other) else p.inFlight other :=
  p.inFlight_modifyHistory tid (trim point) (fun history => history.records_squash_eq_trim point)
    (.inl rfl) other

theorem inFlight_retire (p : Predictor) (seq : UInt64) (tid other : ThreadId) :
    (p.retire seq tid).inFlight other =
      if tid = other then InFlight.retire seq (p.inFlight other) else p.inFlight other :=
  p.inFlight_modifyHistory tid (InFlight.retire seq)
    (fun history => history.records_retire_eq_retire seq) (.inl rfl) other

@[simp] theorem inFlight_update (p : Predictor) (pc value : UInt64) :
    (p.update pc value).inFlight = p.inFlight :=
  rfl

@[simp] theorem inFlight_predict (p : Predictor) (pc : UInt64) :
    (p.predict pc).2.inFlight = p.inFlight :=
  rfl

@[simp] theorem inFlight_validate (p : Predictor) (seq actual : UInt64) :
    (p.validate seq actual).2.inFlight = p.inFlight :=
  rfl

/-! ## Dispatch -/

def recordOf (seq pc : UInt64) (tid : ThreadId) (value : UInt64) : InFlight :=
  { seq, pc, tid, value, predicted := true }

/-- On a thread that exists, dispatch answers as the table does. -/
theorem dispatch_of_lt {p : Predictor} {tid : ThreadId} (inside : tid.toNat < p.threads)
    (seq pc : UInt64) :
    p.dispatch seq pc tid =
      (.ok (p.lookup pc).value?,
        match (p.lookup pc).value? with
        | none => (p.predict pc).2
        | some value =>
            (p.predict pc).2.modifyHistory tid (·.push (recordOf seq pc tid value))) := by
  rw [dispatch, if_pos inside]
  cases answer : (p.lookup pc).value? with
  | none =>
      have looked : p.predict pc = (none, (p.predict pc).2) := Prod.ext answer rfl
      rw [looked]
  | some value =>
      have looked : p.predict pc = (some value, (p.predict pc).2) := Prod.ext answer rfl
      have within : tid.toNat < (p.predict pc).2.threads := inside
      rw [looked]
      simp only [record, if_pos within]
      rfl

/-- A thread that does not exist is refused, and nothing is changed. -/
theorem dispatch_of_le {p : Predictor} {tid : ThreadId} (outside : p.threads ≤ tid.toNat)
    (seq pc : UInt64) :
    p.dispatch seq pc tid = (.error (.threadOutOfRange seq tid p.threads), p) := by
  rw [dispatch, if_neg (Nat.not_lt.mpr outside)]

/-- Dispatch appends the record of a load that was handed a value to those of its thread. -/
theorem inFlight_dispatch_of_lt {p : Predictor} {tid : ThreadId} (inside : tid.toNat < p.threads)
    (seq pc : UInt64) (other : ThreadId) :
    (p.dispatch seq pc tid).2.inFlight other =
      p.inFlight other ++
        if tid = other then ((p.lookup pc).value?.map (recordOf seq pc tid)).toList else [] := by
  rw [dispatch_of_lt inside]
  cases (p.lookup pc).value? with
  | none => simp
  | some value =>
      let looked := (p.predict pc).2
      let record := recordOf seq pc tid value
      have pushed := looked.inFlight_modifyHistory tid (· ++ [record])
        (fun history => history.records_push record) (.inr inside) other
      by_cases same : tid = other
      · rw [if_pos same] at pushed ⊢
        exact pushed
      · rw [if_neg same] at pushed ⊢
        exact pushed.trans (List.append_nil _).symm

theorem threads_dispatch (p : Predictor) (seq pc : UInt64) (tid : ThreadId) :
    (p.dispatch seq pc tid).2.threads = p.threads := by
  by_cases inside : tid.toNat < p.threads
  · rw [dispatch_of_lt inside]
    cases (p.lookup pc).value? with
    | none => rfl
    | some value => exact threads_modifyHistory _ _ _
  · rw [dispatch_of_le (Nat.not_lt.mp inside)]

/-! ## Finding the record of a load -/

/-- Every record in flight, lower thread slots first. -/
def allRecords (p : Predictor) : List InFlight :=
  p.histories.flatMap History.records

theorem recorded?_eq_find? (p : Predictor) (seq : UInt64) :
    p.recorded? seq = p.allRecords.find? fun record => record.seq == seq && record.predicted := by
  unfold recorded? allRecords
  rw [List.find?_flatMap]
  congr 1
  funext history
  exact history.find?_eq seq

theorem mem_of_recorded? {p : Predictor} {seq : UInt64} {record : InFlight}
    (found : p.recorded? seq = some record) :
    record ∈ p.allRecords ∧ record.seq = seq ∧ record.predicted = true := by
  rw [recorded?_eq_find?] at found
  have fits := List.find?_some found
  rw [Bool.and_eq_true, beq_iff_eq] at fits
  exact ⟨List.mem_of_find?_eq_some found, fits⟩

/-- Thread numbers reach every history of a predictor that has no more of them. -/
theorem mem_allRecords_iff {p : Predictor} (few : p.threads ≤ UInt64.size) {record : InFlight} :
    record ∈ p.allRecords ↔ ∃ tid, record ∈ p.inFlight tid := by
  unfold allRecords inFlight
  rw [List.mem_flatMap]
  constructor
  · rintro ⟨history, member, inside⟩
    obtain ⟨slot, bound, found⟩ := List.getElem_of_mem member
    have reached : (UInt64.ofNat slot).toNat = slot :=
      UInt64.toNat_ofNat_of_lt' (Nat.lt_of_lt_of_le bound few)
    refine ⟨.ofNat slot, ?_⟩
    rw [reached, List.getElem?_eq_getElem bound, found]
    exact inside
  · rintro ⟨tid, inside⟩
    cases slot : p.histories[tid.toNat]? with
    | none => rw [slot] at inside; cases inside
    | some history =>
        rw [slot] at inside
        exact ⟨history, List.mem_of_getElem? slot, inside⟩

/-- Where no two records share a load, a writeback checks the record of its load. -/
theorem recorded?_eq_some_iff {p : Predictor}
    (unique : ∀ first ∈ p.allRecords, ∀ second ∈ p.allRecords,
      first.seq = second.seq → first = second)
    {seq : UInt64} {record : InFlight} :
    p.recorded? seq = some record ↔
      record ∈ p.allRecords ∧ record.seq = seq ∧ record.predicted = true := by
  constructor
  · exact mem_of_recorded?
  · rintro ⟨member, same, predicted⟩
    cases found : p.recorded? seq with
    | none =>
        rw [recorded?_eq_find?] at found
        have missed := List.find?_eq_none.mp found record member
        simp [same, predicted] at missed
    | some other =>
        obtain ⟨elsewhere, alike, -⟩ := mem_of_recorded? found
        rw [unique other elsewhere record member (alike.trans same.symm)]

/-- A writeback that finds no record of another thread looks at its own thread's records alone. -/
theorem recorded?_eq_find?_inFlight {p : Predictor} (few : p.threads ≤ UInt64.size)
    (own : ∀ tid, ∀ record ∈ p.inFlight tid, record.tid = tid) {seq : UInt64} {tid : ThreadId}
    (found : ∀ record, p.recorded? seq = some record → record.tid = tid) :
    p.recorded? seq =
      (p.inFlight tid).find? fun record => record.seq == seq && record.predicted := by
  cases first : p.recorded? seq with
  | none =>
      rw [recorded?_eq_find?, List.find?_eq_none] at first
      rw [eq_comm, List.find?_eq_none]
      intro record member
      exact first record ((mem_allRecords_iff few).mpr ⟨tid, member⟩)
  | some record =>
      obtain ⟨lower, history, higher, split, held, -⟩ := List.findSome?_eq_some_iff.mp first
      have slot : p.histories[lower.length]? = some history := by
        simp [split]
      have bound : lower.length < UInt64.size := by
        refine Nat.lt_of_lt_of_le ?_ few
        exact (List.getElem?_eq_some_iff.mp slot).1
      have records : p.inFlight (.ofNat lower.length) = history.records := by
        rw [inFlight, UInt64.toNat_ofNat_of_lt' bound, slot]
      rw [History.find?_eq, ← records] at held
      have here : record.tid = .ofNat lower.length := own _ record (List.mem_of_find?_eq_some held)
      rw [← found record first, here, held]

/-- A check fails exactly on a record that holds another value. -/
theorem passes_check_eq_false_iff (p : Predictor) (seq actual : UInt64) :
    (p.check seq actual).passes = false ↔
      ∃ record, p.recorded? seq = some record ∧ record.value ≠ actual := by
  unfold check
  cases p.recorded? seq with
  | none => simp [Check.passes]
  | some record =>
      by_cases same : record.value = actual <;> simp [same, Check.passes]

end Predictor

end EarlyResolution
