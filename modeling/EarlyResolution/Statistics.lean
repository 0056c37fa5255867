import EarlyResolution.Counters
import EarlyResolution.Decimal.Fixed
import EarlyResolution.Json.Writer
import EarlyResolution.Replay.Replayer

/-!
# Statistics

The counters of both units as a text in sections, one row to a counter, and as
JSON.  Ratios have six places.
-/

namespace EarlyResolution

open Json (Value)

inductive StatsSection where
  | loads
  | simplifier
  deriving DecidableEq, Repr

namespace StatsSection

/-- Every section, in the order in which they are written. -/
def all : List StatsSection :=
  [.loads, .simplifier]

def name : StatsSection → String
  | loads => "lvp"
  | simplifier => "simplifier"

def names : List String :=
  all.map name

end StatsSection

/-- A row of a report: a name, padded to its column, and what is counted under it. -/
def reportRow (name value : String) : String :=
  let column := 25
  name ++ String.ofList (List.replicate (column - name.length) ' ') ++ value ++ "\n"

def ruleWidth : Nat := 58

def rule (c : Char) : String :=
  String.ofList (List.replicate ruleWidth c) ++ "\n"

namespace LoadCounters

def render (c : LoadCounters) : String :=
  "LOAD VALUE PREDICTION\n" ++
  reportRow "  lvp.predictions" (toString c.predictions) ++
  reportRow "  lvp.predCorrect" (toString c.correct) ++
  reportRow "  lvp.predIncorrect" (toString c.incorrect) ++
  reportRow "  lvp.predNotConfident" (toString c.notConfident) ++
  reportRow "  lvp.squashes" (toString c.squashes) ++
  reportRow "  lvp.accuracy" (Decimal.fixed 6 c.accuracy) ++
  reportRow "  lvp.coverage" (Decimal.fixed 6 c.coverage)

def toValue (c : LoadCounters) : Value :=
  .object [
    ("predictions", .ofNat c.predictions),
    ("pred_correct", .ofNat c.correct),
    ("pred_incorrect", .ofNat c.incorrect),
    ("pred_not_confident", .ofNat c.notConfident),
    ("squashes", .ofNat c.squashes)]

end LoadCounters

namespace SimplifyCounters

def render (c : SimplifyCounters) : String :=
  "COMPUTATION SIMPLIFICATION\n" ++
  reportRow "  compSimp.candidates" (toString c.candidates) ++
  reportRow "  compSimp.simplified" (toString c.simplified) ++
  reportRow "  compSimp.coverage" (Decimal.fixed 6 c.coverage) ++
  reportRow "  compSimp.multByZero" (toString c.multByZero) ++
  reportRow "  compSimp.multByOne" (toString c.multByOne) ++
  reportRow "  compSimp.divOfZero" (toString c.divOfZero) ++
  reportRow "  compSimp.divByOne" (toString c.divByOne) ++
  reportRow "  compSimp.ctSuppressed" (toString c.ctSuppressed)

def toValue (c : SimplifyCounters) : Value :=
  .object [
    ("simplified", .ofNat c.simplified),
    ("candidates", .ofNat c.candidates),
    ("mult_by_zero", .ofNat c.multByZero),
    ("mult_by_one", .ofNat c.multByOne),
    ("div_of_zero", .ofNat c.divOfZero),
    ("div_by_one", .ofNat c.divByOne),
    ("ct_suppressed", .ofNat c.ctSuppressed)]

end SimplifyCounters

namespace Counters

def renderSection (counters : Counters) : StatsSection → String
  | .loads => counters.loads.render ++ rule '-'
  | .simplifier => counters.simplifier.render ++ rule '-'

/-- The text of the sections asked for by name; of all of them when none is asked for. -/
def render (counters : Counters) (wanted : List String) : String :=
  let sections := StatsSection.all.filter fun part => wanted.isEmpty || wanted.contains part.name
  rule '=' ++ "ACCELERATOR STATISTICS\n" ++ rule '=' ++
    String.join (sections.map counters.renderSection)

def toValue (counters : Counters) : Value :=
  .object [("lvp", counters.loads.toValue), ("simplifier", counters.simplifier.toValue)]

end Counters

namespace Report

def render (report : Report) : String :=
  reportRow "events" (toString report.events) ++
  reportRow "loads_predicted" (toString report.loadsPredicted) ++
  reportRow "value_squashes" (toString report.valueSquashes) ++
  reportRow "simplified" (toString report.simplified)

def toValue (report : Report) : Value :=
  .object [
    ("events", .ofNat report.events),
    ("loads_predicted", .ofNat report.loadsPredicted),
    ("value_squashes", .ofNat report.valueSquashes),
    ("simplified", .ofNat report.simplified)]

end Report

end EarlyResolution
