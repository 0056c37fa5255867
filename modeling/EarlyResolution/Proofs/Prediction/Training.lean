import EarlyResolution.Proofs.Construction
import EarlyResolution.Proofs.Prediction.Calls

/-!
# The table in closed form

Only updates change the table.  A slot shows the last update that fell on it,
and its confidence tells how often that same update had come in a row: a
prediction is made from the threshold on, which a usable configuration keeps
within reach of the counters.
-/

namespace EarlyResolution

/-! ## How often an update came in a row -/

/-- How many times the update stands at the end of the list without a break. -/
def trailing (update : Update) (updates : List Update) : Nat :=
  (updates.rtakeWhile (· = update)).length

theorem trailing_concat (update last : Update) (updates : List Update) :
    trailing update (updates ++ [last]) =
      if last = update then trailing update updates + 1 else 0 := by
  unfold trailing
  rw [List.rtakeWhile_concat]
  by_cases same : last = update
  · rw [if_pos same, if_pos (decide_eq_true same), List.length_append, List.length_singleton]
  · rw [if_neg same, if_neg (by simpa using same), List.length_nil]

theorem trailing_pos_iff (update : Update) (updates : List Update) :
    0 < trailing update updates ↔ updates.getLast? = some update := by
  induction updates using List.reverseRecOn with
  | nil => simp [trailing]
  | append_singleton updates last ih =>
      rw [trailing_concat, List.getLast?_concat, Option.some_inj]
      split <;> simp_all

/-- The list ends with so many copies of an update exactly when they stand there in a row. -/
theorem replicate_suffix_iff (n : Nat) (update : Update) (updates : List Update) :
    List.replicate n update <:+ updates ↔ n ≤ trailing update updates := by
  induction updates using List.reverseRecOn generalizing n with
  | nil => cases n <;> simp [trailing]
  | append_singleton updates last ih =>
      cases n with
      | zero => simp
      | succ n =>
          rw [List.replicate_succ', List.suffix_concat_iff, trailing_concat]
          constructor
          · rintro (empty | ⟨copies, split, suffix⟩)
            · simp at empty
            · obtain ⟨rfl, same⟩ := List.append_inj' split rfl
              rw [if_pos (List.singleton_inj.mp same).symm]
              exact Nat.succ_le_succ ((ih n).mp suffix)
          · intro enough
            by_cases same : last = update
            · rw [if_pos same] at enough
              exact .inr ⟨_, by rw [same], (ih n).mpr (Nat.le_of_succ_le_succ enough)⟩
            · rw [if_neg same] at enough
              exact absurd enough (Nat.not_succ_le_zero n)

/-! ## What an entry shows of the updates -/

/--
The entry shows the updates that fell on its slot: it is blank before the first,
and then holds the last one with its repetitions counted up to the limit.
-/
def Entry.Shows (entry : Entry) (width limit : Nat) (updates : List Update) : Prop :=
  match updates.getLast? with
  | none => entry = .blank width
  | some (pc, value) =>
      entry.valid = true ∧ entry.tag = pc ∧ entry.value = value ∧
        entry.confidence.value = min (trailing (pc, value) updates - 1) limit

namespace Entry

theorem confidence_trained (entry : Entry) (pc value : UInt64) :
    (entry.trained pc value).confidence =
      if entry.holds pc = true ∧ entry.value = value then entry.confidence.increment
      else entry.confidence.reset := by
  unfold trained training
  by_cases held : entry.holds pc = true
  · by_cases same : entry.value = value <;> simp [held, same]
  · simp [held]

variable {entry : Entry} {width limit : Nat} {updates : List Update}

/-- An entry holds a load with a value exactly when that was the last update. -/
theorem Shows.holds_iff (shows : entry.Shows width limit updates) (pc value : UInt64) :
    entry.holds pc = true ∧ entry.value = value ↔ updates.getLast? = some (pc, value) := by
  unfold Shows at shows
  cases last : updates.getLast? with
  | none =>
      rw [last] at shows
      simp [shows, blank, holds]
  | some update =>
      rw [last] at shows
      obtain ⟨valid, tag, content, -⟩ := shows
      rw [Entry.holds_iff, valid, tag, content]
      simp [Prod.ext_iff]

/-- The confidence of such an entry counts the repetitions of that update. -/
theorem Shows.confidence (shows : entry.Shows width limit updates) {pc value : UInt64}
    (last : updates.getLast? = some (pc, value)) :
    entry.confidence.value = min (trailing (pc, value) updates - 1) limit := by
  unfold Shows at shows
  rw [last] at shows
  exact shows.2.2.2

/-- Training an entry makes it show one more update. -/
theorem Shows.trained (shows : entry.Shows width limit updates)
    (bounded : entry.confidence.max = limit) (pc value : UInt64) :
    (entry.trained pc value).Shows width limit (updates ++ [(pc, value)]) := by
  obtain ⟨valid, tag⟩ := (Entry.holds_iff _ _).mp (entry.trained_holds pc value)
  unfold Shows
  rw [List.getLast?_concat]
  refine ⟨valid, tag, entry.trained_value pc value, ?_⟩
  -- The first of a row resets the counter, so it lags the length of the row by one.
  rw [trailing_concat, if_pos rfl, Nat.add_sub_cancel, confidence_trained]
  split
  case isTrue repeated =>
      have last := (shows.holds_iff pc value).mp repeated
      have positive := (trailing_pos_iff _ _).mpr last
      rw [Confidence.value_increment, shows.confidence last, bounded]
      omega
  case isFalse changed =>
      have fresh : trailing (pc, value) updates = 0 := by
        apply Nat.eq_zero_of_not_pos
        rw [trailing_pos_iff]
        exact fun last => changed ((shows.holds_iff pc value).mpr last)
      rw [Confidence.value_reset, fresh, Nat.zero_min]

end Entry

/-! ## What the table shows of the updates -/

/-- The updates that fall on a slot of a table: the slot is `⌊address / 4⌋` modulo its size. -/
def updatesOf (size slot : Nat) (updates : List Update) : List Update :=
  updates.filter fun update => update.1.toNat / 4 % size = slot

theorem updatesOf_concat (size slot : Nat) (updates : List Update) (last : Update) :
    updatesOf size slot (updates ++ [last]) =
      if last.1.toNat / 4 % size = slot then updatesOf size slot updates ++ [last]
      else updatesOf size slot updates := by
  unfold updatesOf
  rw [List.filter_append]
  by_cases falls : last.1.toNat / 4 % size = slot <;> simp [falls]

namespace Table

theorem getElem?_slot (table : Table) (pc : UInt64) :
    table.entries[table.slot pc]? = some (table.entry pc) :=
  Array.getElem?_eq_getElem (table.slot_lt pc)

theorem getElem?_train (table : Table) (pc value : UInt64) (slot : Nat) :
    (table.train pc value).entries[slot]? =
      if table.slot pc = slot then some ((table.entry pc).trained pc value)
      else table.entries[slot]? := by
  unfold train
  exact Array.getElem?_set (table.slot_lt pc)

theorem trainAll_concat (table : Table) (updates : List Update) (last : Update) :
    table.trainAll (updates ++ [last]) = (table.trainAll updates).train last.1 last.2 :=
  List.foldl_concat ..

@[simp] theorem size_trainAll (table : Table) (updates : List Update) :
    (table.trainAll updates).size = table.size := by
  induction updates using List.reverseRecOn with
  | nil => rfl
  | append_singleton updates last ih => rw [trainAll_concat, size_train, ih]

@[simp] theorem size_blank (size width : Nat) (power : size.isPowerOfTwo) :
    (blank size power width).size = size := by
  simp [blank, Table.size]

/-- Every slot of a trained table shows the updates that fell on it. -/
theorem shows_trainAll {size : Nat} (power : size.isPowerOfTwo) (width : Nat)
    (updates : List Update) {slot : Nat} (inside : slot < size) :
    ∃ entry, ((blank size power width).trainAll updates).entries[slot]? = some entry ∧
      entry.Shows width (Confidence.ceiling width) (updatesOf size slot updates) ∧
      entry.confidence.max = Confidence.ceiling width := by
  induction updates using List.reverseRecOn with
  | nil =>
      refine ⟨.blank width, ?_, rfl, rfl⟩
      simp [trainAll, blank, inside]
  | append_singleton updates last ih =>
      obtain ⟨entry, found, shows, bounded⟩ := ih
      rw [trainAll_concat, getElem?_train, slot_eq_mod, size_trainAll, size_blank,
        updatesOf_concat]
      by_cases falls : last.1.toNat / 4 % size = slot
      · rw [if_pos falls, if_pos falls]
        have same : ((blank size power width).trainAll updates).entry last.1 = entry := by
          have here := getElem?_slot ((blank size power width).trainAll updates) last.1
          rw [slot_eq_mod, size_trainAll, size_blank, falls, found] at here
          exact (Option.some.inj here).symm
        rw [same]
        exact ⟨_, rfl, shows.trained bounded last.1 last.2, by rw [Entry.max_trained, bounded]⟩
      · rw [if_neg falls, if_neg falls]
        exact ⟨entry, found, shows, bounded⟩

end Table

/-! ## What the predictor answers -/

namespace Predictor

/-- A value is handed out by the entry that holds the load with it and has the confidence. -/
theorem value?_lookup_eq_some_iff (p : Predictor) (pc value : UInt64) :
    (p.lookup pc).value? = some value ↔
      p.enabled = true ∧ ((p.entry pc).holds pc = true ∧ (p.entry pc).value = value) ∧
        p.threshold ≤ (p.entry pc).confidence.value := by
  unfold lookup
  cases p.enabled with
  | false => simp [Lookup.value?]
  | true =>
      by_cases hit : (p.entry pc).holds pc = true ∧
          p.threshold ≤ (p.entry pc).confidence.value
      · simp [hit.1, hit.2, Lookup.value?]
      · have missed : ((p.entry pc).holds pc &&
            decide (p.threshold ≤ (p.entry pc).confidence.value)) = false := by
          simpa using hit
        simp only [if_true, missed, Lookup.value?]
        constructor
        · intro impossible
          cases impossible
        · rintro ⟨-, ⟨held, -⟩, confident⟩
          exact absurd ⟨held, confident⟩ hit

/-- A load is predicted once its last update came more often in a row than the threshold. -/
theorem value?_lookup_iff_lt_trailing {p : Predictor} {pc : UInt64} {width limit : Nat}
    {updates : List Update} (shows : (p.entry pc).Shows width limit updates)
    (reachable : p.threshold ≤ limit) (value : UInt64) :
    (p.lookup pc).value? = some value ↔
      p.enabled = true ∧ p.threshold < trailing (pc, value) updates := by
  rw [value?_lookup_eq_some_iff, shows.holds_iff]
  constructor
  · rintro ⟨enabled, last, confident⟩
    have positive := (trailing_pos_iff _ _).mpr last
    rw [shows.confidence last] at confident
    exact ⟨enabled, by omega⟩
  · rintro ⟨enabled, often⟩
    have last := (trailing_pos_iff _ _).mp (Nat.zero_lt_of_lt often)
    refine ⟨enabled, last, ?_⟩
    rw [shows.confidence last]
    omega

/-- From a blank table on, a load is predicted by the updates of its slot alone. -/
theorem value?_lookup_of_trainAll {config : PredictorConfig} (usable : config.validate = .ok ())
    {p : Predictor} (enabled : p.enabled = config.enabled)
    (threshold : p.threshold = config.threshold.toNat) {updates : List Update}
    (table : p.table = (Table.blank config.tableSize.toNat
      (config.isPowerOfTwo_of_validate usable) config.confidenceBits.toNat).trainAll updates)
    (pc value : UInt64) :
    (p.lookup pc).value? = some value ↔
      config.enabled = true ∧
        config.threshold.toNat < trailing (pc, value)
          (updatesOf config.tableSize.toNat (pc.toNat / 4 % config.tableSize.toNat) updates) := by
  have slot : p.table.slot pc = pc.toNat / 4 % config.tableSize.toNat := by
    rw [Table.slot_eq_mod, table, Table.size_trainAll, Table.size_blank]
  have inside : p.table.slot pc < config.tableSize.toNat := by
    rw [slot]
    exact Nat.mod_lt _ (Nat.pos_of_isPowerOfTwo (config.isPowerOfTwo_of_validate usable))
  obtain ⟨entry, found, shown, -⟩ := Table.shows_trainAll
    (config.isPowerOfTwo_of_validate usable) config.confidenceBits.toNat updates inside
  rw [← table, p.table.getElem?_slot] at found
  cases found
  have reachable : p.threshold ≤ Confidence.ceiling config.confidenceBits.toNat := by
    rw [threshold, PredictorConfig.ceiling_eq usable]
    exact (config.validate_eq_ok_iff.mp usable).2.2.2
  rw [value?_lookup_iff_lt_trailing shown reachable, enabled, threshold, slot]

end Predictor

/--
The table is a function of the updates alone.  Whatever was called in whatever
order, every slot shows the updates that fell on it, and a load is predicted
exactly when the last updates on its slot, one more than the threshold, were all
its own with one value.
-/
theorem Predictor.table_performAll {config : PredictorConfig} {threads : UInt64}
    (usable : config.validate = .ok ()) (slots : GeneralConfig.validate { threads } = .ok ()) :
    ∃ start, Predictor.create config threads = .ok start ∧
      ∀ calls : List Predictor.Call,
        let p := start.performAll calls
        let size := config.tableSize.toNat
        let updates := calls.filterMap Predictor.Call.update?
        p.tableSize = size ∧
        (∀ pc, p.table.slot pc = pc.toNat / 4 % size ∧ p.table.slot pc < size) ∧
        (∀ slot < size, ∃ entry, p.table.entries[slot]? = some entry ∧
          entry.Shows config.confidenceBits.toNat (2 ^ config.confidenceBits.toNat - 1)
            (updatesOf size slot updates)) ∧
        ∀ pc value, (p.predict pc).1 = some value ↔
          config.enabled = true ∧
            List.replicate (config.threshold.toNat + 1) (pc, value) <:+
              updatesOf size (pc.toNat / 4 % size) updates := by
  have created := Predictor.create_eq_ok_iff.mpr ⟨slots, usable, rfl⟩
  refine ⟨.fresh config usable threads, created, fun calls => ?_⟩
  obtain ⟨histories, counters, after, -⟩ :=
    (Predictor.fresh config usable threads).performAll_eq calls
  have power := config.isPowerOfTwo_of_validate usable
  have limit := PredictorConfig.ceiling_eq usable
  have reachable := (config.validate_eq_ok_iff.mp usable).2.2.2
  intro p size updates
  have table : p.table = (Table.blank size power config.confidenceBits.toNat).trainAll updates :=
    congrArg Predictor.table after
  have tableSize : p.table.size = size := by
    rw [table, Table.size_trainAll, Table.size_blank]
  have slot (pc : UInt64) : p.table.slot pc = pc.toNat / 4 % size := by
    rw [Table.slot_eq_mod, tableSize]
  have inside (pc : UInt64) : p.table.slot pc < size := by
    rw [← tableSize]
    exact p.table.slot_lt pc
  have shows {slot : Nat} (inside : slot < size) := by
    have shown := Table.shows_trainAll power config.confidenceBits.toNat updates inside
    rwa [← table, limit] at shown
  refine ⟨tableSize, fun pc => ⟨slot pc, inside pc⟩, fun slot inside => ?_, fun pc value => ?_⟩
  · obtain ⟨entry, found, shown, -⟩ := shows inside
    exact ⟨entry, found, shown⟩
  · obtain ⟨entry, found, shown, -⟩ := shows (inside pc)
    rw [p.table.getElem?_slot] at found
    cases found
    have settings : p.enabled = config.enabled ∧ p.threshold = config.threshold.toNat :=
      ⟨congrArg Predictor.enabled after, congrArg Predictor.threshold after⟩
    rw [slot] at shown
    rw [replicate_suffix_iff, ← settings.1, ← settings.2]
    exact Predictor.value?_lookup_iff_lt_trailing shown (settings.2 ▸ reachable) value

/-- Two repetitions behind an evicted load, with an update of another slot between them. -/
theorem Predictor.table_performAll_repeated :
    ∃ start,
      let calls := [.update 272 9, .update 256 5, .record { seq := 3, tid := 0 }, .update 260 7,
        .squash 2 0, .update 256 5]
      Predictor.create { enabled := true, tableSize := 4, threshold := 1 } 1 = .ok start ∧
        ((start.performAll calls).predict 256).1 = some 5 := by
  let config : PredictorConfig := { enabled := true, tableSize := 4, threshold := 1 }
  have usable : config.validate = .ok () := by decide
  have slots : GeneralConfig.validate { threads := 1 } = .ok () := by decide
  obtain ⟨start, created, closed⟩ := table_performAll usable slots
  refine ⟨start, created, ?_⟩
  exact ((closed _).2.2.2 256 5).mpr ⟨rfl, by decide⟩

end EarlyResolution
