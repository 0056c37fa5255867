import Std.Data.HashMap
import EarlyResolution.Instruction

/-!
# The physical register file

Registers are stored per thread, class and index; a register never written
reads as zero.  Rename takes fresh registers from one counter per class, which
all threads share and which wraps after 65536 allocations: a wrapped register
takes the place of the old one.
-/

namespace EarlyResolution

/-- The place of a value: a register file holds one value per thread, class and index. -/
structure RegisterSlot where
  tid : ThreadId
  kind : RegClass
  index : UInt16
  deriving DecidableEq, Hashable, Repr

def PhysReg.slot (reg : PhysReg) (tid : ThreadId) : RegisterSlot :=
  ⟨tid, reg.kind, reg.index⟩

structure RegisterFile where
  values : Std.HashMap RegisterSlot UInt64 := ∅
  nextIndex : Std.HashMap RegClass UInt16 := ∅

namespace RegisterFile

def next (regs : RegisterFile) (kind : RegClass) : UInt16 :=
  regs.nextIndex.getD kind 0

/-- The value of a register for a thread; zero until it is written. -/
def read (regs : RegisterFile) (reg : PhysReg) (tid : ThreadId) : UInt64 :=
  regs.values.getD (reg.slot tid) 0

/-- Stores a value for a thread.  Writes to an always-ready register are ignored. -/
def write (regs : RegisterFile) (reg : PhysReg) (tid : ThreadId) (value : UInt64) :
    RegisterFile :=
  if reg.alwaysReady then regs
  else { regs with values := regs.values.insert (reg.slot tid) value }

def allocate (regs : RegisterFile) (kind : RegClass) : PhysReg × RegisterFile :=
  let index := regs.next kind
  ({ kind, index }, { regs with nextIndex := regs.nextIndex.insert kind (index + 1) })

def allocateWith (regs : RegisterFile) (kind : RegClass) (tid : ThreadId) (value : UInt64) :
    PhysReg × RegisterFile :=
  let (reg, regs) := regs.allocate kind
  (reg, regs.write reg tid value)

/-! ## What each operation does to reads and to the counters -/

@[simp] theorem read_empty (reg : PhysReg) (tid : ThreadId) :
    ({} : RegisterFile).read reg tid = 0 := by
  simp [read]

@[simp] theorem next_empty (kind : RegClass) : ({} : RegisterFile).next kind = 0 := by
  simp [next]

theorem read_write (regs : RegisterFile) (reg other : PhysReg) (tid tid' : ThreadId)
    (value : UInt64) :
    (regs.write reg tid value).read other tid' =
      if reg.alwaysReady = false ∧ reg.slot tid = other.slot tid' then value
      else regs.read other tid' := by
  unfold write read
  cases reg.alwaysReady <;> simp [Std.HashMap.getD_insert]

@[simp] theorem next_write (regs : RegisterFile) (reg : PhysReg) (tid : ThreadId)
    (value : UInt64) (kind : RegClass) :
    (regs.write reg tid value).next kind = regs.next kind := by
  unfold write next
  split <;> rfl

@[simp] theorem read_allocate (regs : RegisterFile) (kind : RegClass) (reg : PhysReg)
    (tid : ThreadId) : (regs.allocate kind).2.read reg tid = regs.read reg tid :=
  rfl

theorem next_allocate (regs : RegisterFile) (kind other : RegClass) :
    (regs.allocate kind).2.next other =
      if kind = other then regs.next kind + 1 else regs.next other := by
  simp [allocate, next, Std.HashMap.getD_insert]

@[simp] theorem reg_allocateWith (regs : RegisterFile) (kind : RegClass) (tid : ThreadId)
    (value : UInt64) : (regs.allocateWith kind tid value).1 = ⟨kind, regs.next kind, false⟩ :=
  rfl

theorem read_allocateWith (regs : RegisterFile) (kind : RegClass) (tid : ThreadId)
    (value : UInt64) (other : PhysReg) (tid' : ThreadId) :
    (regs.allocateWith kind tid value).2.read other tid' =
      if ⟨tid, kind, regs.next kind⟩ = other.slot tid' then value else regs.read other tid' := by
  rw [← read_allocate regs kind]
  simp [allocateWith, read_write, allocate, PhysReg.slot]

theorem next_allocateWith (regs : RegisterFile) (kind other : RegClass) (tid : ThreadId)
    (value : UInt64) :
    (regs.allocateWith kind tid value).2.next other =
      if kind = other then regs.next kind + 1 else regs.next other := by
  rw [← next_allocate]
  exact next_write _ _ _ _ _

end RegisterFile

end EarlyResolution
