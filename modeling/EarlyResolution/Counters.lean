/-!
# Counters of the two units

Counters only go up: work that a squash undoes stays counted.
-/

namespace EarlyResolution

structure LoadCounters where
  /-- Lookups answered with a value. -/
  predictions : Nat := 0
  correct : Nat := 0
  incorrect : Nat := 0
  /-- Lookups left unanswered for want of confidence. -/
  notConfident : Nat := 0
  /-- Squashes asked for after a refuted prediction. -/
  squashes : Nat := 0
  deriving DecidableEq, Repr

structure SimplifyCounters where
  simplified : Nat := 0
  /-- Instructions of the right shape whose operands were looked at. -/
  candidates : Nat := 0
  multByZero : Nat := 0
  multByOne : Nat := 0
  divOfZero : Nat := 0
  divByOne : Nat := 0
  /-- Instructions left alone because the thread ran in constant-time mode. -/
  ctSuppressed : Nat := 0
  deriving DecidableEq, Repr

structure Counters where
  loads : LoadCounters := {}
  simplifier : SimplifyCounters := {}
  deriving DecidableEq, Repr

/-- A ratio of two counts, zero when there is nothing to divide by. -/
def ratio (part whole : Nat) : Float :=
  if whole = 0 then 0 else part.toFloat / whole.toFloat

namespace LoadCounters

def accuracy (counters : LoadCounters) : Float :=
  ratio counters.correct counters.predictions

/-- The share of lookups that were answered with a value. -/
def coverage (counters : LoadCounters) : Float :=
  ratio counters.predictions (counters.predictions + counters.notConfident)

end LoadCounters

/-- The share of candidates that were simplified. -/
def SimplifyCounters.coverage (counters : SimplifyCounters) : Float :=
  ratio counters.simplified counters.candidates

end EarlyResolution
