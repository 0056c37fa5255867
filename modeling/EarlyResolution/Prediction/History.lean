import EarlyResolution.Instruction

/-!
# In-flight predictions

Every hardware thread keeps the predictions it has handed out and not yet
retired, oldest first.  New records join at the young end, a squash trims the
young end, and commit retires from the old end only.
-/

namespace EarlyResolution

structure InFlight where
  seq : UInt64 := 0
  pc : UInt64 := 0
  tid : ThreadId := 0
  value : UInt64 := 0
  /-- A value was handed out for this load. -/
  predicted : Bool := false
  deriving DecidableEq, Repr

structure History where
  /-- The records, oldest first. -/
  loads : Array InFlight := #[]
  deriving DecidableEq, Repr

namespace History

def records (history : History) : List InFlight :=
  history.loads.toList

def push (history : History) (record : InFlight) : History :=
  ⟨history.loads.push record⟩

/-- The oldest record of the given load that carries a prediction. -/
def find? (history : History) (seq : UInt64) : Option InFlight :=
  history.loads.find? fun record => record.seq == seq && record.predicted

/-- The records a squash discards, youngest first: the young end while it is past the point. -/
def squashed (history : History) (point : UInt64) : List InFlight :=
  history.records.reverse.takeWhile fun record => point < record.seq

/-- What a squash leaves: the records without the young end that lies past the point. -/
def squash (history : History) (point : UInt64) : History :=
  ⟨history.loads.popWhile fun record => point < record.seq⟩

/-- Retires the record of the given load if it is the oldest one. -/
def retire (history : History) (seq : UInt64) : History :=
  if history.loads[0]?.any fun oldest => oldest.seq == seq then
    ⟨history.loads.eraseIdxIfInBounds 0⟩
  else history

/-! ## What each operation does to the records -/

@[ext] theorem ext {history other : History} (h : history.records = other.records) :
    history = other :=
  congrArg History.mk (Array.toList_inj.mp h)

@[simp] theorem records_empty : ({} : History).records = [] :=
  rfl

@[simp] theorem records_push (history : History) (record : InFlight) :
    (history.push record).records = history.records ++ [record] := by
  simp [records, push]

theorem find?_eq (history : History) (seq : UInt64) :
    history.find? seq =
      history.records.find? fun record => record.seq == seq && record.predicted := by
  simp [records, find?]

theorem records_squash (history : History) (point : UInt64) :
    (history.squash point).records =
      (history.records.reverse.dropWhile fun record => point < record.seq).reverse := by
  obtain ⟨⟨loads⟩⟩ := history
  simp [records, squash]

theorem records_retire (history : History) (seq : UInt64) :
    (history.retire seq).records =
      match history.records with
      | [] => []
      | oldest :: younger => if oldest.seq = seq then younger else oldest :: younger := by
  obtain ⟨⟨loads⟩⟩ := history
  cases loads with
  | nil => rfl
  | cons oldest younger =>
      by_cases h : oldest.seq = seq <;> simp [records, retire, Array.eraseIdxIfInBounds, h]

end History

end EarlyResolution
