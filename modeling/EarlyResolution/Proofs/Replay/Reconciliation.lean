import EarlyResolution.Proofs.Construction
import EarlyResolution.Proofs.Replay.Reactions

/-!
# The report and the counters reconcile

The report counts outcomes, and each unit counts on its own what it did, in other
branches of other modules.  All three tell the log of the run.  It is enough to see
that the amounts of one event tell that event: amounts add up as logs are put
together, so a run keeps its books in order from the first event on.
-/

namespace EarlyResolution

/-! ## What there is to count in a log -/

def Result.isPredicted : Result → Bool
  | .ok (.predicted _) => true
  | _ => false

def Result.isMispredicted : Result → Bool
  | .ok .mispredicted => true
  | _ => false

def Result.isSimplified : Result → Bool
  | .ok (.simplified _) => true
  | _ => false

def Event.isDispatched : Event × Result → Bool
  | (.dispatchLoad _ _ _, .ok _) => true
  | _ => false

/-! ## The report -/

namespace Report

variable (report : Report) (result : Result)

theorem events_addResult : (report.addResult result).events = report.events + 1 := by
  rcases result with violation | outcome
  · rfl
  · cases outcome <;> rfl

theorem loadsPredicted_addResult :
    (report.addResult result).loadsPredicted =
      report.loadsPredicted + if result.isPredicted then 1 else 0 := by
  rcases result with violation | outcome
  · rfl
  · cases outcome <;> rfl

theorem valueSquashes_addResult :
    (report.addResult result).valueSquashes =
      report.valueSquashes + if result.isMispredicted then 1 else 0 := by
  rcases result with violation | outcome
  · rfl
  · cases outcome <;> rfl

theorem simplified_addResult :
    (report.addResult result).simplified =
      report.simplified + if result.isSimplified then 1 else 0 := by
  rcases result with violation | outcome
  · rfl
  · cases outcome <;> rfl

/-- The totals of a report tell how many events of a log came to what. -/
structure Tells (log : List (Event × Result)) : Prop where
  events : report.events = log.length
  loadsPredicted : report.loadsPredicted = log.countP fun entry => entry.2.isPredicted
  valueSquashes : report.valueSquashes = log.countP fun entry => entry.2.isMispredicted
  simplified : report.simplified = log.countP fun entry => entry.2.isSimplified

variable {report} {log : List (Event × Result)}

theorem Tells.concat (told : report.Tells log) (entry : Event × Result) :
    (report.addResult entry.2).Tells (log ++ [entry]) where
  events := by rw [events_addResult, told.events, List.length_append, List.length_singleton]
  loadsPredicted := by
    rw [loadsPredicted_addResult, told.loadsPredicted, List.countP_append, List.countP_singleton]
  valueSquashes := by
    rw [valueSquashes_addResult, told.valueSquashes, List.countP_append, List.countP_singleton]
  simplified := by
    rw [simplified_addResult, told.simplified, List.countP_append, List.countP_singleton]

end Report

/-! ## The predictor's counters -/

namespace LoadCounters

/--
The counters of a predictor that is switched on or off tell a log: predictions and
mispredictions are those that the log shows, every load that was dispatched has been
looked up, and no event has more than one load checked.
-/
structure Tells (loads : LoadCounters) (enabled : Bool) (log : List (Event × Result)) : Prop where
  predictions : loads.predictions = log.countP fun entry => entry.2.isPredicted
  incorrect : loads.incorrect = log.countP fun entry => entry.2.isMispredicted
  squashes : loads.squashes = loads.incorrect
  lookups : loads.predictions + loads.notConfident =
    if enabled then log.countP Event.isDispatched else 0
  checks : loads.correct + loads.incorrect ≤ log.length

namespace Tells

variable {enabled : Bool} {loads loads' : LoadCounters} {log log' : List (Event × Result)}

theorem nil : Tells 0 enabled [] := by
  refine ⟨rfl, rfl, rfl, ?_, Nat.le_refl _⟩
  cases enabled <;> rfl

/-- Amounts add up as logs are put together. -/
theorem append (early : loads.Tells enabled log) (late : loads'.Tells enabled log') :
    (loads + loads').Tells enabled (log ++ log') where
  predictions := by
    rw [List.countP_append, ← early.predictions, ← late.predictions]
    rfl
  incorrect := by
    rw [List.countP_append, ← early.incorrect, ← late.incorrect]
    rfl
  squashes := congrArg₂ (· + ·) early.squashes late.squashes
  lookups := by
    change loads.predictions + loads'.predictions + (loads.notConfident + loads'.notConfident) = _
    rw [Nat.add_add_add_comm, early.lookups, late.lookups, List.countP_append]
    cases enabled <;> rfl
  checks := by
    change loads.correct + loads'.correct + (loads.incorrect + loads'.incorrect) ≤ _
    rw [Nat.add_add_add_comm, List.length_append]
    exact Nat.add_le_add early.checks late.checks

/-- An event that dispatches and checks no load counts nothing. -/
theorem zero {entry : Event × Result} (unpredicted : entry.2.isPredicted = false)
    (unrefuted : entry.2.isMispredicted = false) (undispatched : Event.isDispatched entry = false) :
    Tells 0 enabled [entry] := by
  constructor
  · rw [List.countP_singleton, unpredicted]
    rfl
  · rw [List.countP_singleton, unrefuted]
    rfl
  · rfl
  · rw [List.countP_singleton, undispatched]
    cases enabled <;> rfl
  · exact Nat.zero_le _

/-- A dispatch counts how its lookup went; a predictor that is switched off counts none. -/
theorem ofLookup {answer : Lookup} (off : answer = .off ↔ enabled = false) (seq pc : UInt64)
    (tid : ThreadId) :
    (addLookup 0 answer).Tells enabled
      [(.dispatchLoad seq pc tid, .ok (.ofDispatch answer.value?))] := by
  cases answer with
  | off =>
      obtain rfl : enabled = false := off.mp rfl
      exact ⟨rfl, rfl, rfl, rfl, Nat.zero_le _⟩
  | hit value confidence =>
      obtain rfl : enabled = true := by simpa using off
      exact ⟨rfl, rfl, rfl, rfl, Nat.zero_le _⟩
  | miss valid confidence =>
      obtain rfl : enabled = true := by simpa using off
      exact ⟨rfl, rfl, rfl, rfl, Nat.zero_le _⟩

/-- A writeback counts how its check went. -/
theorem ofCheck (verdict : Check) (seq : UInt64) (tid : ThreadId) (actual : UInt64) :
    (addCheck 0 verdict).Tells enabled
      [(.writebackLoad seq tid actual, (Reaction.ofCheck seq verdict).result)] := by
  have unlooked : 0 = if enabled = true then 0 else 0 := by cases enabled <;> rfl
  cases verdict with
  | unrecorded => exact ⟨rfl, rfl, rfl, unlooked, Nat.zero_le _⟩
  | correct predicted => exact ⟨rfl, rfl, rfl, unlooked, Nat.le_refl _⟩
  | incorrect predicted => exact ⟨rfl, rfl, rfl, unlooked, Nat.le_refl _⟩

end Tells

end LoadCounters

/-! ## The simplifier's counters -/

namespace SimplifyCounters

/--
The simplifier's counters tell a log: instructions that were simplified are those
that the log shows, each by one identity and among the candidates, and no event has
more than one instruction looked at.
-/
structure Tells (issues : SimplifyCounters) (log : List (Event × Result)) : Prop where
  simplified : issues.simplified = log.countP fun entry => entry.2.isSimplified
  identities : issues.simplified =
    issues.multByZero + issues.multByOne + issues.divOfZero + issues.divByOne
  candidates : issues.simplified ≤ issues.candidates
  attempts : issues.candidates + issues.ctSuppressed ≤ log.length

namespace Tells

variable {issues issues' : SimplifyCounters} {log log' : List (Event × Result)}

/-- Amounts add up as logs are put together. -/
theorem append (early : issues.Tells log) (late : issues'.Tells log') :
    (issues + issues').Tells (log ++ log') where
  simplified := by
    rw [List.countP_append, ← early.simplified, ← late.simplified]
    rfl
  identities := by
    have first := early.identities
    have second := late.identities
    change issues.simplified + issues'.simplified =
      (issues.multByZero + issues'.multByZero) + (issues.multByOne + issues'.multByOne) +
        (issues.divOfZero + issues'.divOfZero) + (issues.divByOne + issues'.divByOne)
    omega
  candidates := Nat.add_le_add early.candidates late.candidates
  attempts := by
    change issues.candidates + issues'.candidates +
      (issues.ctSuppressed + issues'.ctSuppressed) ≤ _
    rw [Nat.add_add_add_comm, List.length_append]
    exact Nat.add_le_add early.attempts late.attempts

/-- An event that issues no instruction counts nothing. -/
theorem zero {entry : Event × Result} (unsimplified : entry.2.isSimplified = false) :
    Tells 0 [entry] := by
  refine ⟨?_, rfl, Nat.le_refl _, Nat.zero_le _⟩
  rw [List.countP_singleton, unsimplified]
  rfl

/-- An instruction counts how far it came. -/
theorem ofIssue (issue : Issue) (enabled : Bool) :
    (issue.effect enabled 0).2.Tells
      [(.issue issue, .ok (.ofIssue (issue.effect enabled 0).1))] := by
  unfold Issue.effect
  split
  · exact zero rfl
  split
  · exact ⟨rfl, rfl, Nat.zero_le _, Nat.le_refl _⟩
  cases issue.operands? with
  | none => exact zero rfl
  | some operands =>
      obtain ⟨a, b⟩ := operands
      dsimp only
      cases simplify issue.op a b with
      | none => exact ⟨rfl, rfl, Nat.zero_le _, Nat.le_refl _⟩
      | some found =>
          obtain ⟨result, identity⟩ := found
          cases identity <;> exact ⟨rfl, rfl, Nat.le_refl _, Nat.le_refl _⟩

end Tells

end SimplifyCounters

/-! ## One event -/

theorem Predictor.lookup_eq_off_iff (p : Predictor) (pc : UInt64) :
    p.lookup pc = .off ↔ p.enabled = false := by
  unfold lookup
  cases p.enabled with
  | false => simp
  | true =>
      simp only [if_true]
      split <;> simp

namespace Units

variable (units : Units)

theorem loads_reaction (event : Event) :
    (units.reaction event).loads.Tells units.predictor.enabled
      [(event, (units.reaction event).result)] := by
  cases event with
  | dispatchLoad seq pc tid =>
      rw [reaction]
      split
      · exact .ofLookup (units.predictor.lookup_eq_off_iff pc) seq pc tid
      · exact .zero rfl rfl rfl
  | writebackLoad seq tid actual => exact .ofCheck _ seq tid actual
  | commitLoad seq pc tid value => exact .zero rfl rfl rfl
  | squash point tid => exact .zero rfl rfl rfl
  | issue issue =>
      rw [reaction]
      split
      · exact .zero rfl rfl rfl
      · rw [Reaction.ofIssue]
        cases (issue.effect units.simplifier.enabled 0).1 <;> exact .zero rfl rfl rfl

theorem issues_reaction (event : Event) :
    (units.reaction event).issues.Tells [(event, (units.reaction event).result)] := by
  cases event with
  | dispatchLoad seq pc tid =>
      rw [reaction]
      split
      · refine .zero ?_
        cases units.predictor.lookup pc <;> rfl
      · exact .zero rfl
  | writebackLoad seq tid actual =>
      refine .zero ?_
      rw [reaction]
      cases units.predictor.check seq actual <;> rfl
  | commitLoad seq pc tid value => exact .zero rfl
  | squash point tid => exact .zero rfl
  | issue issue =>
      rw [reaction]
      split
      · exact .zero rfl
      · exact .ofIssue issue _

end Units

/-! ## Runs -/

namespace Replayer

@[simp] theorem length_log (start : Replayer) (events : List Event) :
    (start.log events).length = events.length := by
  induction events generalizing start with
  | nil => rfl
  | cons event events ih => rw [log_cons, List.length_cons, List.length_cons, ih]

theorem counters_step (replayer : Replayer) (event : Event) :
    let reaction := replayer.units.reaction event
    (replayer.step event).2.counters =
      ⟨replayer.counters.loads + reaction.loads, replayer.counters.simplifier + reaction.issues⟩ :=
  congrArg Units.counters (replayer.visible_units_step event)

theorem enabled_after (start : Replayer) (events : List Event) :
    (start.after events).units.predictor.enabled = start.units.predictor.enabled := by
  obtain ⟨histories, counters, after⟩ := start.predictor_after events
  rw [after]

def tallies (replayer : Replayer) : List Nat :=
  let report := replayer.report
  let loads := replayer.counters.loads
  let issues := replayer.counters.simplifier
  [report.events, report.loadsPredicted, report.valueSquashes, report.simplified,
    loads.predictions, loads.correct, loads.incorrect, loads.notConfident, loads.squashes,
    issues.simplified, issues.candidates, issues.multByZero, issues.multByOne, issues.divOfZero,
    issues.divByOne, issues.ctSuppressed]

variable {config : Config} {start : Replayer}

/-- The report and the counters that a run leaves tell its log. -/
theorem tells_after (made : Replayer.ofConfig config = .ok start) (trace : List Event) :
    (start.after trace).report.Tells (start.log trace) ∧
      (start.after trace).counters.loads.Tells config.predictor.enabled (start.log trace) ∧
      (start.after trace).counters.simplifier.Tells (start.log trace) := by
  obtain ⟨-, usable, fresh⟩ := ofConfig_eq_ok_iff.mp made
  have enabled : start.units.predictor.enabled = config.predictor.enabled := by rw [fresh]; rfl
  induction trace using List.reverseRecOn with
  | nil =>
      rw [after_nil, log_nil, fresh]
      exact ⟨⟨rfl, rfl, rfl, rfl⟩, .nil, ⟨rfl, rfl, Nat.le_refl _, Nat.le_refl _⟩⟩
  | append_singleton trace event ih =>
      obtain ⟨report, loads, issues⟩ := ih
      have loadsNow := (start.after trace).units.loads_reaction event
      have issuesNow := (start.after trace).units.issues_reaction event
      rw [enabled_after, enabled, ← step_fst_eq_result] at loadsNow
      rw [← step_fst_eq_result] at issuesNow
      rw [after_concat, log_concat, report_step, counters_step]
      exact ⟨report.concat (event, _), loads.append loadsNow, issues.append issuesNow⟩

/-- No count runs ahead of the events. -/
theorem le_length_of_mem_tallies (made : Replayer.ofConfig config = .ok start) (trace : List Event)
    {count : Nat} (member : count ∈ (start.after trace).tallies) : count ≤ trace.length := by
  obtain ⟨report, loads, issues⟩ := tells_after made trace
  have every (p : Event × Result → Bool) : (start.log trace).countP p ≤ trace.length :=
    List.countP_le_length.trans_eq (start.length_log trace)
  have predicted := every fun entry => entry.2.isPredicted
  have mispredicted := every fun entry => entry.2.isMispredicted
  have simplified := every fun entry => entry.2.isSimplified
  have lookups : (start.after trace).counters.loads.predictions +
      (start.after trace).counters.loads.notConfident ≤ trace.length := by
    rw [loads.lookups]
    split
    · exact every _
    · exact Nat.zero_le _
  have events := report.events
  have checks := loads.checks
  have attempts := issues.attempts
  rw [length_log] at events checks attempts
  rw [← report.loadsPredicted] at predicted
  rw [← report.valueSquashes] at mispredicted
  rw [← report.simplified] at simplified
  have identities := issues.identities
  have squashes := loads.squashes
  have sameSimplified := report.simplified.trans issues.simplified.symm
  simp only [tallies, List.mem_cons, List.not_mem_nil, or_false] at member
  omega

/--
The books always balance.  Behind any trace, also one with violations in it, the
report has counted every event; what it counts as predicted, squashed and simplified
is what the units have counted, and what the events of the trace came to.  Every
simplification is by one identity and of a candidate, and every load dispatched on a
thread that exists has been looked up, unless the predictor is switched off and has
counted no lookup.  No count runs ahead of the events, so none outgrows a word before
they do.
-/
theorem counts_reconcile (made : Replayer.ofConfig config = .ok start) (trace : List Event) :
    let log := start.log trace
    let last := start.after trace
    let report := last.report
    let loads := last.counters.loads
    let issues := last.counters.simplifier
    report.events = trace.length ∧
      (report.loadsPredicted = loads.predictions ∧
        loads.predictions = log.countP fun entry => entry.2.isPredicted) ∧
      (report.valueSquashes = loads.squashes ∧ loads.squashes = loads.incorrect ∧
        loads.incorrect = log.countP fun entry => entry.2.isMispredicted) ∧
      (report.simplified = issues.simplified ∧
        issues.simplified =
          issues.multByZero + issues.multByOne + issues.divOfZero + issues.divByOne ∧
        issues.simplified = log.countP fun entry => entry.2.isSimplified) ∧
      issues.simplified ≤ issues.candidates ∧
      loads.predictions + loads.notConfident =
        (if config.predictor.enabled then log.countP Event.isDispatched else 0) ∧
      ∀ count ∈ last.tallies, count ≤ trace.length := by
  intro log last report loads issues
  obtain ⟨totals, predictor, simplifier⟩ := tells_after made trace
  have predicted := totals.loadsPredicted.trans predictor.predictions.symm
  have refuted := predictor.squashes.trans predictor.incorrect
  have simplified := totals.simplified.trans simplifier.simplified.symm
  refine ⟨totals.events.trans (start.length_log trace), ⟨predicted, predictor.predictions⟩,
    ⟨totals.valueSquashes.trans refuted.symm, predictor.squashes, predictor.incorrect⟩,
    ⟨simplified, simplifier.identities, simplifier.simplified⟩, simplifier.candidates,
    predictor.lookups, ?_⟩
  intro count member
  exact le_length_of_mem_tallies made trace member

/-- A simplification, a prediction that fails, a load without one, and one on no thread. -/
theorem counts_reconcile_at_failures :
    ∃ start,
      let config : Config :=
        { general := { threads := 1 }
          predictor := { enabled := true, tableSize := 4, threshold := 0 }
          simplifier := { enabled := true } }
      let trace : List Event :=
        [.issue { seq := 1, pc := 252, op := .intMult, srcs := [0, 9] },
          .commitLoad 2 256 0 5, .dispatchLoad 3 256 0, .dispatchLoad 4 260 0,
          .dispatchLoad 5 256 7, .writebackLoad 3 0 6]
      let last := start.after trace
      Replayer.ofConfig config = .ok start ∧
        (start.stepAll trace).1 =
          [.ok (.simplified 0), .ok .committed, .ok (.predicted 5), .ok .notPredicted,
            .error (.threadOutOfRange 5 7 1), .ok .mispredicted] ∧
        last.report.events = 6 ∧
        (last.report.loadsPredicted = 1 ∧ last.counters.loads.predictions = 1) ∧
        (last.report.valueSquashes = 1 ∧ last.counters.loads.squashes = 1 ∧
          last.counters.loads.incorrect = 1) ∧
        (last.report.simplified = 1 ∧ last.counters.simplifier.simplified = 1) ∧
        1 ≤ last.counters.simplifier.candidates ∧
        last.counters.loads.predictions + last.counters.loads.notConfident = 2 := by
  let settings : PredictorConfig := { enabled := true, tableSize := 4, threshold := 0 }
  let start : Replayer :=
    { units := { predictor := .fresh settings (by decide) 1, simplifier := ⟨true, {}⟩ } }
  refine ⟨start, ?_⟩
  intro config trace last
  dsimp only [last]
  have made : Replayer.ofConfig config = .ok start :=
    Replayer.ofConfig_eq_ok_iff.mpr ⟨by decide, by decide, rfl⟩
  have results : (start.stepAll trace).1 =
      [.ok (.simplified 0), .ok .committed, .ok (.predicted 5), .ok .notPredicted,
        .error (.threadOutOfRange 5 7 1), .ok .mispredicted] := by
    simp only [stepAll, step_fst, units_step, trace, Units.react_issue]
    decide +kernel
  have log : start.log trace = trace.zip _ := congrArg trace.zip results
  have predicted : ((start.log trace).countP fun entry => entry.2.isPredicted) = 1 := by
    rw [log]
    decide
  have refuted : ((start.log trace).countP fun entry => entry.2.isMispredicted) = 1 := by
    rw [log]
    decide
  have simplifiedOnce : ((start.log trace).countP fun entry => entry.2.isSimplified) = 1 := by
    rw [log]
    decide
  have dispatched : (start.log trace).countP Event.isDispatched = 2 := by
    rw [log]
    decide
  obtain ⟨events, ⟨loadsPredicted, predictions⟩, ⟨valueSquashes, squashes, incorrect⟩,
    ⟨reportSimplified, -, simplified⟩, candidates, lookups, -⟩ := counts_reconcile made trace
  have length : trace.length = 6 := rfl
  rw [length] at events
  rw [predicted] at predictions
  rw [refuted] at incorrect
  rw [simplifiedOnce] at simplified
  rw [dispatched] at lookups
  rw [predictions] at loadsPredicted
  rw [incorrect] at squashes
  rw [squashes] at valueSquashes
  rw [simplified] at reportSimplified candidates
  rw [if_pos rfl] at lookups
  exact ⟨made, results, events, ⟨loadsPredicted, predictions⟩,
    ⟨valueSquashes, squashes, incorrect⟩, ⟨reportSimplified, simplified⟩, candidates, lookups⟩

end Replayer

end EarlyResolution
