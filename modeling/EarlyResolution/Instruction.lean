/-!
# Instructions at the issue stage

An instruction reaches the issue stage decoded and renamed: it carries its
operation class, its identity in program order, and for every operand both the
architectural register named by the decoder and the physical register that
rename chose.  The constant-time mode flag travels as an ordinary source.
-/

namespace EarlyResolution

/-- Slot number of a hardware thread. -/
abbrev ThreadId := UInt64

inductive OpClass where
  | intAlu
  | intMult
  | intDiv
  | memRead
  | memWrite
  | float
  | other
  deriving DecidableEq, Repr

namespace OpClass

/-- Every operation class, in the order in which messages list them. -/
def all : List OpClass :=
  [.intAlu, .intMult, .intDiv, .memRead, .memWrite, .float, .other]

def name : OpClass → String
  | intAlu => "IntAlu"
  | intMult => "IntMult"
  | intDiv => "IntDiv"
  | memRead => "MemRead"
  | memWrite => "MemWrite"
  | float => "Float"
  | other => "Other"

def ofName? (text : String) : Option OpClass :=
  all.find? fun op => op.name == text

/-- Only integer multiplies and divides have trivial operands to look for. -/
def isMultiplyOrDivide : OpClass → Bool
  | intMult | intDiv => true
  | _ => false

theorem isMultiplyOrDivide_iff (op : OpClass) :
    op.isMultiplyOrDivide = true ↔ op = intMult ∨ op = intDiv := by
  cases op <;> decide

theorem mem_all (op : OpClass) : op ∈ all := by
  cases op <;> decide

theorem ofName?_name (op : OpClass) : ofName? op.name = some op := by
  cases op <;> decide

end OpClass

inductive RegClass where
  | int
  | float
  | condCode
  | misc
  | invalid
  deriving DecidableEq, Hashable, Repr

namespace RegClass

def all : List RegClass :=
  [.int, .float, .condCode, .misc, .invalid]

def name : RegClass → String
  | int => "Int"
  | float => "Float"
  | condCode => "CondCode"
  | misc => "Misc"
  | invalid => "Invalid"

def ofName? (text : String) : Option RegClass :=
  all.find? fun kind => kind.name == text

end RegClass

structure ArchReg where
  kind : RegClass
  index : UInt16
  deriving DecidableEq, Repr

namespace ArchReg

def int (index : UInt16) : ArchReg :=
  ⟨.int, index⟩

/-- The condition-code register that holds the constant-time mode flag. -/
def ctMode : ArchReg :=
  ⟨.condCode, 4⟩

theorem int_ne_ctMode (index : UInt16) : int index ≠ ctMode := by
  simp [int, ctMode]

end ArchReg

/--
A physical register, as rename chose it.  A hardwired register is always ready
and never written.
-/
structure PhysReg where
  kind : RegClass
  index : UInt16
  alwaysReady : Bool := false
  deriving DecidableEq, Repr

def PhysReg.isWritableInt (reg : PhysReg) : Bool :=
  reg.kind == .int && !reg.alwaysReady

structure Operand where
  arch : ArchReg
  phys : PhysReg
  deriving DecidableEq, Repr

structure Instruction where
  seq : UInt64
  pc : UInt64
  tid : ThreadId
  op : OpClass
  srcs : List Operand
  dests : List PhysReg
  deriving DecidableEq, Repr

namespace Instruction

/-- The constant-time mode operand: the first source that names the mode flag. -/
def ctModeOperand? (inst : Instruction) : Option Operand :=
  inst.srcs.find? fun src => src.arch == ArchReg.ctMode

/-- The sources that live in the integer register file, in operand order. -/
def intSources (inst : Instruction) : List Operand :=
  inst.srcs.filter fun src => src.phys.kind == .int

end Instruction

end EarlyResolution
