import Mathlib.Data.List.Nodup
import EarlyResolution.RegisterFile

/-!
# Runs of the register file

The operations as data, so that statements can range over every order in which they may be
called.  What a register reads is the value stored last in its slot, and the registers that
a class gives out are numbered on, around the wrap.  So a register stays fresh until its
class has been allocated from 65536 times.  Slots do not tell a hardwired register from the
ordinary one of its class and index, so it reads what is stored in that one.
-/

namespace EarlyResolution

namespace RegisterFile

inductive Call where
  | allocate (kind : RegClass)
  | allocateWith (kind : RegClass) (tid : ThreadId) (value : UInt64)
  | write (reg : PhysReg) (tid : ThreadId) (value : UInt64)
  deriving DecidableEq, Repr

def Call.kind? : Call → Option RegClass
  | .allocate kind | .allocateWith kind _ _ => some kind
  | .write _ _ _ => none

def allocations (kind : RegClass) (calls : List Call) : Nat :=
  calls.countP fun call => call.kind? = some kind

def perform (regs : RegisterFile) : Call → RegisterFile
  | .allocate kind => (regs.allocate kind).2
  | .allocateWith kind tid value => (regs.allocateWith kind tid value).2
  | .write reg tid value => regs.write reg tid value

def performAll (regs : RegisterFile) (calls : List Call) : RegisterFile :=
  calls.foldl perform regs

def returned? (regs : RegisterFile) : Call → Option PhysReg
  | .allocate kind => some (regs.allocate kind).1
  | .allocateWith kind tid value => some (regs.allocateWith kind tid value).1
  | .write _ _ _ => none

/-- The registers that the allocations of a class return, in order. -/
def taken (regs : RegisterFile) (kind : RegClass) : List Call → List PhysReg
  | [] => []
  | call :: calls =>
      let later := (regs.perform call).taken kind calls
      if call.kind? = some kind then (regs.returned? call).toList ++ later else later

def stored? (regs : RegisterFile) : Call → Option (RegisterSlot × UInt64)
  | .allocate _ => none
  | .allocateWith kind tid value => some (⟨tid, kind, regs.next kind⟩, value)
  | .write reg tid value => if reg.alwaysReady then none else some (reg.slot tid, value)

/-- Everything that the calls store, the newest first. -/
def stores (regs : RegisterFile) : List Call → List (RegisterSlot × UInt64)
  | [] => []
  | call :: calls => (regs.perform call).stores calls ++ (regs.stored? call).toList

variable (regs : RegisterFile)

/-! ## The numbering of a class -/

theorem next_perform (call : Call) (kind : RegClass) :
    (regs.perform call).next kind =
      if call.kind? = some kind then regs.next kind + 1 else regs.next kind := by
  cases call with
  | allocate other =>
      rw [perform, next_allocate, Call.kind?]
      by_cases same : other = kind <;> simp [same]
  | allocateWith other tid value =>
      rw [perform, next_allocateWith, Call.kind?]
      by_cases same : other = kind <;> simp [same]
  | write reg tid value => exact next_write _ _ _ _ _

theorem returned?_eq {call : Call} {kind : RegClass} (taking : call.kind? = some kind) :
    regs.returned? call = some ⟨kind, regs.next kind, false⟩ := by
  cases call with
  | allocate other =>
      cases taking
      rfl
  | allocateWith other tid value =>
      cases taking
      rfl
  | write reg tid value => cases taking

theorem allocations_cons (kind : RegClass) (call : Call) (calls : List Call) :
    allocations kind (call :: calls) =
      allocations kind calls + if call.kind? = some kind then 1 else 0 := by
  simp [allocations, List.countP_cons]

/-- The next register of a class is told by how many of the class were taken. -/
theorem next_performAll (calls : List Call) (kind : RegClass) :
    (regs.performAll calls).next kind =
      regs.next kind + UInt16.ofNat (allocations kind calls) := by
  induction calls generalizing regs with
  | nil => exact (UInt16.add_zero _).symm
  | cons call calls ih =>
      change ((regs.perform call).performAll calls).next kind = _
      rw [ih, next_perform, allocations_cons]
      by_cases taking : call.kind? = some kind
      · rw [if_pos taking, if_pos taking, UInt16.ofNat_add, UInt16.add_assoc,
          UInt16.add_comm 1]
        rfl
      · rw [if_neg taking, if_neg taking, Nat.add_zero]

/-- A class gives out its registers one after the other, around the wrap. -/
theorem taken_eq_map (kind : RegClass) (calls : List Call) :
    regs.taken kind calls =
      (List.range (allocations kind calls)).map fun i =>
        ⟨kind, regs.next kind + UInt16.ofNat i, false⟩ := by
  induction calls generalizing regs with
  | nil => rfl
  | cons call calls ih =>
      rw [taken, ih, next_perform, allocations_cons]
      by_cases taking : call.kind? = some kind
      · have following (i : Nat) : regs.next kind + 1 + UInt16.ofNat i =
            regs.next kind + UInt16.ofNat (i + 1) := by
          rw [UInt16.ofNat_add, UInt16.add_assoc, UInt16.add_comm 1]
          rfl
        simp only [if_pos taking, regs.returned?_eq taking, following]
        rw [List.range_succ_eq_map, List.map_cons, List.map_map]
        simp [Function.comp_def]
      · simp only [if_neg taking, Nat.add_zero]

/-- Fewer steps than there are indices lead to different indices. -/
theorem steps_eq_of_index_eq {i j : Nat} (small : i < UInt16.size) (small' : j < UInt16.size)
    (same : UInt16.ofNat i = UInt16.ofNat j) : i = j := by
  rw [← UInt16.toNat_ofNat_of_lt' small, same, UInt16.toNat_ofNat_of_lt' small']

/-- As many allocations as there are indices return different registers. -/
theorem nodup_taken {kind : RegClass} {calls : List Call}
    (few : allocations kind calls ≤ UInt16.size) : (regs.taken kind calls).Nodup := by
  rw [taken_eq_map]
  refine List.Nodup.map_on ?_ List.nodup_range
  intro i within j within' same
  have indices : regs.next kind + UInt16.ofNat i = regs.next kind + UInt16.ofNat j :=
    congrArg PhysReg.index same
  rw [List.mem_range] at within within'
  exact steps_eq_of_index_eq (Nat.lt_of_lt_of_le within few) (Nat.lt_of_lt_of_le within' few)
    ((UInt16.add_right_inj _).mp indices)

/-! ## What registers read -/

theorem read_perform (call : Call) (reg : PhysReg) (tid : ThreadId) :
    (regs.perform call).read reg tid =
      ((regs.stored? call).toList.lookup (reg.slot tid)).getD (regs.read reg tid) := by
  have single (slot : RegisterSlot) (value : UInt64) :
      ([(slot, value)].lookup (reg.slot tid)).getD (regs.read reg tid) =
        if slot = reg.slot tid then value else regs.read reg tid := by
    rw [List.lookup_cons]
    by_cases same : slot = reg.slot tid
    · simp [same]
    · simp [same, beq_eq_false_iff_ne.mpr (Ne.symm same)]
  cases call with
  | allocate kind => rfl
  | allocateWith kind other value =>
      rw [perform, read_allocateWith]
      exact (single _ _).symm
  | write other tid' value =>
      rw [perform, read_write, stored?]
      cases other.alwaysReady with
      | true => rfl
      | false =>
          rw [if_neg Bool.false_ne_true]
          simpa using (single _ _).symm

/-- A register reads what was stored last in its slot. -/
theorem read_performAll (calls : List Call) (reg : PhysReg) (tid : ThreadId) :
    (regs.performAll calls).read reg tid =
      ((regs.stores calls).lookup (reg.slot tid)).getD (regs.read reg tid) := by
  induction calls generalizing regs with
  | nil => rfl
  | cons call calls ih =>
      change ((regs.perform call).performAll calls).read reg tid = _
      rw [ih, read_perform, stores, List.lookup_append]
      cases ((regs.perform call).stores calls).lookup (reg.slot tid) <;> rfl

/-- What is stored along a run is stored by one of its calls. -/
theorem exists_of_mem_stores {calls : List Call} {store : RegisterSlot × UInt64}
    (member : store ∈ regs.stores calls) :
    ∃ past call future, calls = past ++ call :: future ∧
      (regs.performAll past).stored? call = some store := by
  induction calls generalizing regs with
  | nil => cases member
  | cons call calls ih =>
      rcases List.mem_append.mp member with later | now
      · obtain ⟨past, last, future, rfl, stored⟩ := ih _ later
        exact ⟨call :: past, last, future, rfl, stored⟩
      · exact ⟨[], call, calls, rfl, Option.mem_toList.mp now⟩

/-- A slot in which nothing is stored keeps what it holds. -/
theorem read_performAll_of_spared {calls : List Call} {reg : PhysReg} {tid : ThreadId}
    (spared : ∀ store ∈ regs.stores calls, store.1 ≠ reg.slot tid) :
    (regs.performAll calls).read reg tid = regs.read reg tid := by
  have absent : (regs.stores calls).lookup (reg.slot tid) = none := by
    rw [List.lookup_eq_none_iff]
    intro store member
    exact bne_iff_ne.mpr (spared store member).symm
  rw [read_performAll, absent]
  rfl

/-! ## Freshness -/

/-- No call is a write of the thread to the register's class and index. -/
def Unwritten (reg : PhysReg) (tid : ThreadId) (calls : List Call) : Prop :=
  ∀ other value, .write other tid value ∈ calls →
    ¬ (other.kind = reg.kind ∧ other.index = reg.index)

/-- Before the wrap no allocation and no write comes to the slot of the register taken last. -/
theorem spared_of_few {kind : RegClass} {index : UInt16} {tid : ThreadId} {later : List Call}
    (behind : regs.next kind = index + 1) (few : allocations kind later < UInt16.size)
    (unwritten : Unwritten ⟨kind, index, false⟩ tid later) :
    ∀ store ∈ regs.stores later, store.1 ≠ ⟨tid, kind, index⟩ := by
  rintro ⟨slot, value⟩ member rfl
  obtain ⟨past, call, future, rfl, stored⟩ := regs.exists_of_mem_stores member
  cases call with
  | allocate other => cases stored
  | allocateWith other tid' value' =>
      -- The index comes up again only when all others of the class have been given out.
      have slots : (⟨tid', other, (regs.performAll past).next other⟩ : RegisterSlot) =
          ⟨tid, kind, index⟩ := congrArg Prod.fst (Option.some.inj stored)
      obtain ⟨rfl, rfl, wrapped⟩ := RegisterSlot.mk.inj slots
      rw [next_performAll, behind, UInt16.add_assoc] at wrapped
      have around : UInt16.ofNat (1 + allocations other past) = UInt16.ofNat 0 := by
        rw [UInt16.ofNat_add]
        exact UInt16.add_eq_left.mp wrapped
      have counted : 1 + allocations other past ≤
          allocations other (past ++ .allocateWith other tid' value' :: future) := by
        simp [allocations, Call.kind?]
        omega
      have impossible := steps_eq_of_index_eq (Nat.lt_of_le_of_lt counted few) (by decide) around
      omega
  | write other tid' value' =>
      rw [stored?] at stored
      split at stored
      · cases stored
      · have slots : other.slot tid' = ⟨tid, kind, index⟩ :=
          congrArg Prod.fst (Option.some.inj stored)
        obtain ⟨rfl, same⟩ := RegisterSlot.mk.inj slots
        exact unwritten other value' (List.mem_append_right _ List.mem_cons_self) same

/--
Registers stay fresh up to the wrap.  As many consecutive allocations of a class as there are
indices return ordinary registers of that class, all different, whatever else is called in
between.  A register taken with a value reads that value until its class has been allocated
from as often again, as long as its thread writes to no register of its class and index; and
when only that one allocation is left, it returns the very same register.
-/
theorem allocations_stay_fresh (kind : RegClass) :
    (∀ calls, allocations kind calls ≤ 65536 →
      (regs.taken kind calls).length = allocations kind calls ∧
        (regs.taken kind calls).Nodup ∧
        ∀ reg ∈ regs.taken kind calls, reg.kind = kind ∧ reg.alwaysReady = false) ∧
    ∀ tid value later,
      let reg := (regs.allocateWith kind tid value).1
      let after := (regs.allocateWith kind tid value).2.performAll later
      (allocations kind later < 65536 → Unwritten reg tid later → after.read reg tid = value) ∧
        (allocations kind later = 65535 → (after.allocate kind).1 = reg) := by
  refine ⟨fun calls few => ⟨?_, regs.nodup_taken few, ?_⟩, ?_⟩
  · rw [taken_eq_map, List.length_map, List.length_range]
  · intro reg member
    rw [taken_eq_map] at member
    obtain ⟨i, -, rfl⟩ := List.mem_map.mp member
    exact ⟨rfl, rfl⟩
  · intro tid value later reg after
    have behind : (regs.allocateWith kind tid value).2.next kind = regs.next kind + 1 := by
      rw [next_allocateWith, if_pos rfl]
    constructor
    · intro few unwritten
      have spared := spared_of_few _ behind few unwritten
      have first : (regs.allocateWith kind tid value).2.read reg tid = value := by
        rw [read_allocateWith]
        exact if_pos rfl
      exact (read_performAll_of_spared _ spared).trans first
    · intro last
      have around : after.next kind = regs.next kind := by
        rw [next_performAll, last, behind, UInt16.add_assoc]
        exact UInt16.add_zero _
      have returned : (after.allocate kind).1 = ⟨kind, after.next kind, false⟩ := rfl
      rw [returned, around]
      rfl

/-- The last index before the wrap, and all others taken with other values behind it. -/
theorem allocations_stay_fresh_around_wrap :
    let regs := ({} : RegisterFile).performAll (List.replicate 65535 (.allocate .int))
    let last : PhysReg := ⟨.int, 65535, false⟩
    let later : List Call := .write last 1 7 :: .allocate .condCode ::
      List.replicate 65535 (.allocateWith .int 0 9)
    let after := (regs.allocateWith .int 0 5).2.performAll later
    allocations .int later = 65535 ∧ Unwritten last 0 later ∧
      (regs.taken .int (.allocateWith .int 0 5 :: later)).Nodup ∧
      after.read last 0 = 5 ∧ (after.allocate .int).1 = last := by
  intro regs last later after
  have allocated (n : Nat) (call : Call) (taking : call.kind? = some .int) :
      allocations .int (List.replicate n call) = n := by
    rw [allocations, List.countP_replicate, if_pos (decide_eq_true taking)]
  have counted : allocations .int later = 65535 := by
    rw [allocations_cons, allocations_cons, allocated _ _ rfl]
    rfl
  have index : regs.next .int = 65535 := by
    rw [next_performAll, allocated _ _ rfl, next_empty]
    rfl
  have same : (regs.allocateWith .int 0 5).1 = last := by
    rw [reg_allocateWith, index]
  have unwritten : Unwritten last 0 later := by
    intro other value member
    rcases List.mem_cons.mp member with first | member
    · cases first
    rcases List.mem_cons.mp member with second | member
    · cases second
    cases List.eq_of_mem_replicate member
  obtain ⟨different, fresh⟩ := regs.allocations_stay_fresh .int
  obtain ⟨kept, again⟩ := fresh 0 5 later
  rw [same] at kept again
  refine ⟨counted, unwritten, (different _ ?_).2.1, ?_, again counted⟩
  · rw [allocations_cons, counted]
    exact Nat.le_refl _
  · exact kept (by rw [counted]; decide) unwritten

/-! ## Hardwired registers -/

/--
A hardwired register is not written, but shares its slot.  A write to it changes nothing at
all.  After any calls it reads the value stored last for the thread in its class and index,
so zero as long as nothing is stored there; and it changes whenever the ordinary register of
its class and index is written, or comes up for allocation with a value.
-/
theorem hardwired_reads_last_store (calls : List Call) (reg : PhysReg)
    (hardwired : reg.alwaysReady = true) (tid : ThreadId) :
    let start : RegisterFile := {}
    let regs := start.performAll calls
    let ordinary : PhysReg := { reg with alwaysReady := false }
    regs.read reg tid = ((start.stores calls).lookup (reg.slot tid)).getD 0 ∧
      ((∀ store ∈ start.stores calls, store.1 ≠ reg.slot tid) → regs.read reg tid = 0) ∧
      (∀ tid' value, regs.write reg tid' value = regs) ∧
      (∀ value, (regs.write ordinary tid value).read reg tid = value) ∧
      ∀ value, regs.next reg.kind = reg.index →
        (regs.allocateWith reg.kind tid value).2.read reg tid = value := by
  intro start regs ordinary
  refine ⟨?_, ?_, ?_, ?_, ?_⟩
  · rw [read_performAll, read_empty]
  · intro spared
    rw [read_performAll_of_spared _ spared, read_empty]
  · intro tid' value
    rw [write, if_pos hardwired]
  · intro value
    rw [read_write]
    exact if_pos ⟨rfl, rfl⟩
  · intro value due
    rw [read_allocateWith, due]
    exact if_pos rfl

/-- A zero register of thread 1, behind stores of thread 0 and writes to itself. -/
theorem hardwired_reads_last_store_beside_thread :
    let zero : PhysReg := ⟨.int, 0, true⟩
    let calls : List Call := [.allocateWith .int 0 5, .write zero 1 9]
    let regs := ({} : RegisterFile).performAll calls
    zero.alwaysReady = true ∧ regs.read zero 1 = 0 ∧ regs.read zero 0 = 5 ∧
      regs.write zero 0 9 = regs ∧ (regs.write ⟨.int, 0, false⟩ 1 3).read zero 1 = 3 := by
  intro zero calls regs
  obtain ⟨-, spared, ignored, written, -⟩ := hardwired_reads_last_store calls zero rfl 1
  obtain ⟨shared, -⟩ := hardwired_reads_last_store calls zero rfl 0
  refine ⟨rfl, spared (by decide +kernel), ?_, ignored 0 9, written 3⟩
  rw [shared]
  decide +kernel

/-- An allocation for the thread itself is enough to change its zero register. -/
theorem hardwired_register_changes :
    let zero : PhysReg := ⟨.int, 0, true⟩
    ({} : RegisterFile).read zero 0 = 0 ∧
      (({} : RegisterFile).performAll [.allocateWith .int 0 5]).read zero 0 = 5 := by
  intro zero
  refine ⟨read_empty zero 0, ?_⟩
  rw [performAll, List.foldl_cons, List.foldl_nil, perform, read_allocateWith, next_empty]
  rfl

end RegisterFile

end EarlyResolution
