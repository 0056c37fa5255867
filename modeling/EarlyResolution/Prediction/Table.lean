import EarlyResolution.Prediction.Confidence

/-!
# The last-value table

A direct-mapped table of last committed values.  An entry belongs to the load
whose full address is its tag; loads whose addresses share a slot evict each
other.  Confidence counts how often the value has repeated since it was
installed or changed.
-/

namespace EarlyResolution

structure Entry where
  tag : UInt64
  value : UInt64
  confidence : Confidence
  valid : Bool
  deriving DecidableEq, Repr

inductive Training where
  | repeated (confidence : Nat)
  | revalued
  /-- The load took the entry, from the load tagged `evicted` if one held it. -/
  | installed (evicted : Option UInt64)
  deriving DecidableEq, Repr

namespace Entry

def blank (width : Nat) : Entry :=
  ⟨0, 0, .ofWidth width, false⟩

/-- The entry was installed by the load at `pc`. -/
def holds (entry : Entry) (pc : UInt64) : Bool :=
  entry.valid && entry.tag == pc

def training (entry : Entry) (pc value : UInt64) : Training :=
  if entry.holds pc then
    if entry.value = value then .repeated entry.confidence.increment.value
    else .revalued
  else .installed (if entry.valid then some entry.tag else none)

def trained (entry : Entry) (pc value : UInt64) : Entry :=
  match entry.training pc value with
  | .repeated _ => { entry with confidence := entry.confidence.increment }
  | .revalued => { entry with value, confidence := entry.confidence.reset }
  | .installed _ => { tag := pc, value, confidence := entry.confidence.reset, valid := true }

theorem holds_iff (entry : Entry) (pc : UInt64) :
    entry.holds pc = true ↔ entry.valid = true ∧ entry.tag = pc := by
  simp [holds]

theorem trained_holds (entry : Entry) (pc value : UInt64) :
    (entry.trained pc value).holds pc = true := by
  unfold trained training
  split <;> rename_i h <;> split at h <;> simp_all [holds]

theorem trained_value (entry : Entry) (pc value : UInt64) :
    (entry.trained pc value).value = value := by
  unfold trained
  split
  case h_1 h =>
    unfold training at h
    split at h
    · split at h <;> simp_all
    · simp at h
  all_goals rfl

@[simp] theorem max_trained (entry : Entry) (pc value : UInt64) :
    (entry.trained pc value).confidence.max = entry.confidence.max := by
  unfold trained
  split <;> simp

end Entry

/-- The number of low address bits that carry no information: instructions are four bytes. -/
def instructionAlignment : UInt64 := 2

/-- A direct-mapped table; its size is a power of two. -/
structure Table where
  entries : Array Entry
  size_isPowerOfTwo : entries.size.isPowerOfTwo

namespace Table

def blank (size : Nat) (h : size.isPowerOfTwo) (width : Nat) : Table :=
  ⟨Array.replicate size (.blank width), by simpa using h⟩

def size (table : Table) : Nat :=
  table.entries.size

/-- The slot of an address: without its alignment bits, masked to the table size. -/
def slot (table : Table) (pc : UInt64) : Nat :=
  (pc >>> instructionAlignment).toNat &&& (table.size - 1)

theorem size_pos (table : Table) : 0 < table.size :=
  Nat.pos_of_isPowerOfTwo table.size_isPowerOfTwo

theorem slot_lt (table : Table) (pc : UInt64) : table.slot pc < table.entries.size := by
  have pos := table.size_pos
  have masked : table.slot pc ≤ table.size - 1 := Nat.and_le_right
  unfold size at *
  omega

/-- The entry that an address falls on; it may belong to another load. -/
def entry (table : Table) (pc : UInt64) : Entry :=
  have inside := table.slot_lt pc
  table.entries[table.slot pc]

def train (table : Table) (pc value : UInt64) : Table :=
  ⟨table.entries.set (table.slot pc) ((table.entry pc).trained pc value) (table.slot_lt pc),
    by simpa using table.size_isPowerOfTwo⟩

/-- Masking to a power of two is the remainder: the slot is `⌊pc / 4⌋ mod size`. -/
theorem slot_eq_mod (table : Table) (pc : UInt64) :
    table.slot pc = pc.toNat / 4 % table.size := by
  obtain ⟨k, hk⟩ := table.size_isPowerOfTwo
  have shifted : (pc >>> instructionAlignment).toNat = pc.toNat / 4 := by
    simp [instructionAlignment, UInt64.toNat_shiftRight, Nat.shiftRight_eq_div_pow]
  unfold slot size
  rw [shifted, hk, Nat.and_two_pow_sub_one_eq_mod]

@[simp] theorem size_train (table : Table) (pc value : UInt64) :
    (table.train pc value).size = table.size := by
  simp [train, size]

@[simp] theorem slot_train (table : Table) (pc value other : UInt64) :
    (table.train pc value).slot other = table.slot other := by
  simp [slot]

theorem entry_train (table : Table) (pc value other : UInt64) :
    (table.train pc value).entry other =
      if table.slot pc = table.slot other then (table.entry pc).trained pc value
      else table.entry other := by
  simp [entry, train, Array.getElem_set, slot, size]

end Table

end EarlyResolution
