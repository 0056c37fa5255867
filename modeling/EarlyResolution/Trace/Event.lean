import EarlyResolution.Instruction

/-!
# Pipeline events

A trace lists what the pipeline raised, in order: loads dispatched, written
back and committed, squashes, and instructions that reach issue with their
operand values resolved.
-/

namespace EarlyResolution

structure Issue where
  seq : UInt64
  pc : UInt64
  tid : ThreadId := 0
  op : OpClass
  /-- Integer source values, in operand order. -/
  srcs : List UInt64
  ctMode : Bool := false
  /-- The number of integer destinations. -/
  dests : UInt64 := 1
  deriving DecidableEq, Repr

inductive Event where
  /-- A load was dispatched and may be predicted. -/
  | dispatchLoad (seq pc : UInt64) (tid : ThreadId)
  /-- Memory returned a load's real value. -/
  | writebackLoad (seq : UInt64) (tid : ThreadId) (value : UInt64)
  /-- A load committed with its architectural value. -/
  | commitLoad (seq pc : UInt64) (tid : ThreadId) (value : UInt64)
  /-- Everything younger than the load `seq` was flushed from a thread. -/
  | squash (seq : UInt64) (tid : ThreadId)
  | issue (inst : Issue)
  deriving DecidableEq, Repr

def Event.tid : Event → ThreadId
  | .dispatchLoad _ _ tid | .writebackLoad _ tid _ | .commitLoad _ _ tid _ | .squash _ tid => tid
  | .issue inst => inst.tid

end EarlyResolution
