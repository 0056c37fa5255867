/-!
# Saturating confidence counters

A confidence counter goes up by one until it holds its largest value and drops
to zero when it is reset.  Counters are one to eight bits wide; any other width
is taken as the nearest of these.
-/

namespace EarlyResolution

/-- The widest confidence counter, in bits. -/
def Confidence.maxWidth : Nat := 8

/-- A counter that stays at its largest value instead of wrapping. -/
@[ext]
structure Confidence where
  value : Nat
  max : Nat
  value_le_max : value ≤ max
  deriving DecidableEq, Repr

namespace Confidence

def ceiling (width : Nat) : Nat :=
  Nat.pow 2 (min maxWidth (Nat.max 1 width)) - 1

/-- A counter at zero, as wide as asked within one to eight bits. -/
def ofWidth (width : Nat) : Confidence :=
  ⟨0, ceiling width, Nat.zero_le _⟩

def isSaturated (c : Confidence) : Bool :=
  c.value == c.max

def increment (c : Confidence) : Confidence :=
  if h : c.value < c.max then ⟨c.value + 1, c.max, h⟩ else c

def reset (c : Confidence) : Confidence :=
  ⟨0, c.max, Nat.zero_le _⟩

@[simp] theorem value_ofWidth (width : Nat) : (ofWidth width).value = 0 :=
  rfl

@[simp] theorem max_ofWidth (width : Nat) : (ofWidth width).max = ceiling width :=
  rfl

@[simp] theorem value_reset (c : Confidence) : c.reset.value = 0 :=
  rfl

@[simp] theorem max_reset (c : Confidence) : c.reset.max = c.max :=
  rfl

theorem value_increment (c : Confidence) :
    c.increment.value = min (c.value + 1) c.max := by
  have bound := c.value_le_max
  unfold increment
  split
  · simp only
    omega
  · omega

@[simp] theorem max_increment (c : Confidence) : c.increment.max = c.max := by
  unfold increment
  split <;> rfl

end Confidence

end EarlyResolution
