import EarlyResolution.Config
import EarlyResolution.Counters
import EarlyResolution.Violation
import EarlyResolution.Prediction.History
import EarlyResolution.Prediction.Table

/-!
# The load value predictor

A load is predicted once its last value has repeated often enough.  Dispatch
looks the load up and keeps what it answered, writeback checks the real value,
commit trains the table and retires the record, and a squash forgets younger
records.  The table is shared by all threads; records are kept per thread.
-/

namespace EarlyResolution

inductive Lookup where
  /-- The predictor is switched off: nothing is looked up or counted. -/
  | off
  | hit (value : UInt64) (confidence : Nat)
  /-- No confident value; `confidence` is that of a valid entry in the slot, else zero. -/
  | miss (valid : Bool) (confidence : Nat)
  deriving DecidableEq, Repr

def Lookup.value? : Lookup → Option UInt64
  | hit value _ => some value
  | off | miss _ _ => none

def LoadCounters.addLookup (counters : LoadCounters) : Lookup → LoadCounters
  | .off => counters
  | .hit _ _ => { counters with predictions := counters.predictions + 1 }
  | .miss _ _ => { counters with notConfident := counters.notConfident + 1 }

inductive Check where
  /-- No prediction is on record for the load. -/
  | unrecorded
  | correct (predicted : UInt64)
  | incorrect (predicted : UInt64)
  deriving DecidableEq, Repr

/-- Nothing has to be squashed. -/
def Check.passes : Check → Bool
  | incorrect _ => false
  | unrecorded | correct _ => true

def LoadCounters.addCheck (counters : LoadCounters) : Check → LoadCounters
  | .unrecorded => counters
  | .correct _ => { counters with correct := counters.correct + 1 }
  | .incorrect _ =>
      { counters with
        incorrect := counters.incorrect + 1
        squashes := counters.squashes + 1 }

structure Predictor where
  enabled : Bool
  /-- The least confidence that makes a prediction. -/
  threshold : Nat
  table : Table
  histories : List History
  counters : LoadCounters := {}

namespace Predictor

def create (config : PredictorConfig) (threads : UInt64) : Except ConfigError Predictor := do
  GeneralConfig.validate { threads }
  match h : config.validate with
  | .error e => throw e
  | .ok () =>
      return {
        enabled := config.enabled
        threshold := config.threshold.toNat
        table := .blank config.tableSize.toNat (config.isPowerOfTwo_of_validate h)
          config.confidenceBits.toNat
        histories := List.replicate threads.toNat {} }

def ofConfig (config : Config) : Except ConfigError Predictor :=
  create config.predictor config.general.threads

def threads (p : Predictor) : Nat :=
  p.histories.length

def tableSize (p : Predictor) : Nat :=
  p.table.size

def entry (p : Predictor) (pc : UInt64) : Entry :=
  p.table.entry pc

/-- The records of a thread, oldest first; none for a slot that does not exist. -/
def inFlight (p : Predictor) (tid : ThreadId) : List InFlight :=
  match p.histories[tid.toNat]? with
  | some history => history.records
  | none => []

/-! ## Looking up and recording -/

def lookup (p : Predictor) (pc : UInt64) : Lookup :=
  if p.enabled then
    let entry := p.entry pc
    if entry.holds pc && p.threshold ≤ entry.confidence.value then
      .hit entry.value entry.confidence.value
    else .miss entry.valid (if entry.valid then entry.confidence.value else 0)
  else .off

/-- Looks up the load at `pc`; only the counters change. -/
def predict (p : Predictor) (pc : UInt64) : Option UInt64 × Predictor :=
  let answer := p.lookup pc
  (answer.value?, { p with counters := p.counters.addLookup answer })

/-- The histories after a change to one thread's; a slot that does not exist changes nothing. -/
def modifyHistory (p : Predictor) (tid : ThreadId) (change : History → History) : Predictor :=
  { p with histories := p.histories.modify tid.toNat change }

/-- Appends a record to its thread's history; a slot that does not exist is refused. -/
def record (p : Predictor) (load : InFlight) : Except Violation Unit × Predictor :=
  if load.tid.toNat < p.threads then (.ok (), p.modifyHistory load.tid (·.push load))
  else (.error (.threadOutOfRange load.seq load.tid p.threads), p)

/--
Looks up the load at dispatch and keeps what it was given.  A thread slot that
does not exist is refused before anything is looked up.
-/
def dispatch (p : Predictor) (seq pc : UInt64) (tid : ThreadId) :
    Except Violation (Option UInt64) × Predictor :=
  if tid.toNat < p.threads then
    match p.predict pc with
    | (none, p) => (.ok none, p)
    | (some value, p) =>
        let (recorded, p) := p.record { seq, pc, tid, value, predicted := true }
        (recorded.map fun () => some value, p)
  else (.error (.threadOutOfRange seq tid p.threads), p)

/-! ## Checking, squashing, retiring and training -/

/--
The record that a writeback checks: the first prediction for the load, lower
thread slots first and the oldest first within a thread.
-/
def recorded? (p : Predictor) (seq : UInt64) : Option InFlight :=
  p.histories.findSome? (·.find? seq)

def check (p : Predictor) (seq actual : UInt64) : Check :=
  match p.recorded? seq with
  | none => .unrecorded
  | some load => if load.value = actual then .correct load.value else .incorrect load.value

/-- Checks a load's real value; false asks the caller to squash what is younger. -/
def validate (p : Predictor) (seq actual : UInt64) : Bool × Predictor :=
  let verdict := p.check seq actual
  (verdict.passes, { p with counters := p.counters.addCheck verdict })

def squash (p : Predictor) (point : UInt64) (tid : ThreadId) : Predictor :=
  p.modifyHistory tid (·.squash point)

def squashed (p : Predictor) (point : UInt64) (tid : ThreadId) : List InFlight :=
  match p.histories[tid.toNat]? with
  | some history => history.squashed point
  | none => []

def retire (p : Predictor) (seq : UInt64) (tid : ThreadId) : Predictor :=
  p.modifyHistory tid (·.retire seq)

def update (p : Predictor) (pc value : UInt64) : Predictor :=
  { p with table := p.table.train pc value }

/-! ## What each operation leaves alone -/

@[simp] theorem threads_modifyHistory (p : Predictor) (tid : ThreadId)
    (change : History → History) : (p.modifyHistory tid change).threads = p.threads := by
  simp [modifyHistory, threads]

@[simp] theorem table_predict (p : Predictor) (pc : UInt64) : (p.predict pc).2.table = p.table :=
  rfl

@[simp] theorem histories_predict (p : Predictor) (pc : UInt64) :
    (p.predict pc).2.histories = p.histories :=
  rfl

@[simp] theorem histories_update (p : Predictor) (pc value : UInt64) :
    (p.update pc value).histories = p.histories :=
  rfl

@[simp] theorem table_validate (p : Predictor) (seq actual : UInt64) :
    (p.validate seq actual).2.table = p.table :=
  rfl

end Predictor

end EarlyResolution
