import EarlyResolution.Proofs.Overlay
import EarlyResolution.Proofs.Printing
import EarlyResolution.Proofs.Replay.Stopping
import EarlyResolution.Proofs.Trace.RoundTrip

/-!
# What a run of the program comes to

Replaying a file fails with the trace before the configuration, and with that before any
event.  The program looks at the section names before any file, then at the configuration,
then at the trace; its exit status says how far it came, and only a run that came to its end
prints anything.  Configurations are checked when they are loaded, and switching both units
on breaks no rule, so the replay itself has nothing left to say against one.
-/

namespace EarlyResolution

/-! ## Files -/

theorem readText_toUTF8 (text : String) : readText (.ok text.toUTF8) = .ok text := by
  have decoded : String.fromUTF8? text.toUTF8 = some text := by
    simp only [String.fromUTF8?, String.toUTF8_eq_toByteArray, dif_pos text.isValidUTF8]
    rfl
  rw [readText.eq_def]
  simp only [decoded]

theorem Trace.ofFile_toUTF8 (text : String) : ofFile (.ok text.toUTF8) = ofJson text := by
  rw [ofFile, readText_toUTF8]
  rfl

theorem Config.ofFile_toUTF8 (text : String) : ofFile (.ok text.toUTF8) = ofJson text := by
  rw [ofFile, readText_toUTF8]
  rfl

theorem readText_ne_config (content : FileContent) (broken : ConfigError) :
    readText content ≠ .error (.config broken) := by
  cases content with
  | error reason => rintro ⟨⟩
  | ok bytes =>
      rw [readText]
      split <;> rintro ⟨⟩

theorem Trace.ofJson_ne_config (text : String) (broken : ConfigError) :
    ofJson text ≠ .error (.config broken) := by
  rw [ofJson]
  split <;> rintro ⟨⟩

/-- No trace is refused on account of a configuration. -/
theorem Trace.ofFile_ne_config (content : FileContent) (broken : ConfigError) :
    ofFile content ≠ .error (.config broken) := by
  intro refused
  cases read : readText content with
  | error failure =>
      rw [ofFile, read] at refused
      obtain rfl := Except.error.inj refused
      exact readText_ne_config content broken read
  | ok text =>
      rw [ofFile, read] at refused
      exact ofJson_ne_config text broken refused

theorem Config.usable_of_ofFile {content : FileContent} {config : Config}
    (loaded : ofFile content = .ok config) : config.Usable := by
  obtain ⟨text, -, read⟩ := bind_eq_ok_iff.mp loaded
  exact usable_of_ofJson read

/-! ## Replaying a file -/

/-- What replaying a file comes to, by how far it gets. -/
inductive Replays (config : Config) (content : FileContent) :
    Except Failure (Report × Counters) → Prop where
  | trace {failure : Failure} (failed : Trace.ofFile content = .error failure) :
      Replays config content (.error failure)
  | config {events : List Event} {broken : ConfigError}
      (loaded : Trace.ofFile content = .ok events) (first : config.FirstBroken broken) :
      Replays config content (.error (.config broken))
  | event {past future : List Event} {event : Event} {violation : Violation} {start : Replayer}
      (loaded : Trace.ofFile content = .ok (past ++ event :: future))
      (made : Replayer.ofConfig config = .ok start) (flawless : start.Flawless past)
      (failed : ((start.after past).step event).1 = .error violation) :
      Replays config content (.error (.violation violation))
  | finished {events : List Event} {start : Replayer}
      (loaded : Trace.ofFile content = .ok events)
      (made : Replayer.ofConfig config = .ok start) (flawless : start.Flawless events) :
      Replays config content
        (.ok ((start.after events).report, (start.after events).counters))

section Replays

variable {config : Config} {content : FileContent} {events : List Event} {start : Replayer}

theorem ofConfig_of_firstBroken {broken : ConfigError} (first : config.FirstBroken broken) :
    Replayer.ofConfig config = .error broken := by
  have agrees := config.replayer_eq_validate
  rw [Config.validate_of_firstBroken first] at agrees
  cases made : Replayer.ofConfig config with
  | error other =>
      rw [made] at agrees
      exact congrArg Except.error (Except.error.inj agrees)
  | ok start =>
      rw [made] at agrees
      cases agrees

theorem replayFile_of_made (loaded : Trace.ofFile content = .ok events)
    (made : Replayer.ofConfig config = .ok start) :
    replayFile config content =
      match start.run events with
      | (.error violation, _) => .error (.violation violation)
      | (.ok report, after) => .ok (report, after.counters) := by
  rw [replayFile, loaded]
  simp only [bind, Except.bind, made]
  rfl

theorem Replays.eq {outcome : Except Failure (Report × Counters)}
    (replays : Replays config content outcome) : replayFile config content = outcome := by
  cases replays with
  | trace failed =>
      rw [replayFile, failed]
      rfl
  | config loaded first =>
      rw [replayFile, loaded]
      simp only [bind, Except.bind, ofConfig_of_firstBroken first]
      rfl
  | event loaded made flawless failed =>
      rw [replayFile_of_made loaded made, Replayer.run_of_first_failure flawless failed]
  | finished loaded made flawless =>
      rw [replayFile_of_made loaded made, Replayer.run_of_flawless flawless]

theorem exists_replays (config : Config) (content : FileContent) :
    ∃ outcome, Replays config content outcome := by
  cases loaded : Trace.ofFile content with
  | error failure => exact ⟨_, .trace loaded⟩
  | ok events =>
      rcases config.usable_or_firstBroken with usable | ⟨broken, first⟩
      · obtain ⟨start, made⟩ := Config.exists_replayer_of_usable usable
        by_cases flawless : start.Flawless events
        · exact ⟨_, .finished loaded made flawless⟩
        · obtain ⟨past, event, future, violation, rfl, flawless, failed⟩ :=
            Replayer.exists_first_failure flawless
          exact ⟨_, .event loaded made flawless failed⟩
      · exact ⟨_, .config loaded first⟩

theorem replayFile_eq_iff {outcome : Except Failure (Report × Counters)} :
    replayFile config content = outcome ↔ Replays config content outcome := by
  constructor
  · rintro rfl
    obtain ⟨outcome, replays⟩ := exists_replays config content
    rwa [replays.eq]
  · exact Replays.eq

end Replays

/-! ## The configuration of a run -/

namespace Config

theorem usable_default : ({} : Config).Usable :=
  (validate_eq_ok_iff {}).mp (by decide)

/-- No rule looks at whether a unit is on. -/
theorem usable_with_enabled {config : Config} (usable : config.Usable) (loads issues : Bool) :
    Usable { config with
      predictor := { config.predictor with enabled := loads }
      simplifier := { config.simplifier with enabled := issues } } :=
  ⟨usable.threads, usable.table, usable.width, usable.threshold⟩

end Config

namespace CommandLine.Options

open Json (Value)

variable {options : Options} {files : String → FileContent} {config : Config}

/-- The configuration that a run starts from: the defaults, or what the file given holds. -/
inductive Loads (options : Options) (files : String → FileContent) : Config → Prop where
  | defaults (given : options.config = none) : Loads options files {}
  | file {path : String} {config : Config} (given : options.config = some path)
      (loaded : Config.ofFile (files path) = .ok config) : Loads options files config

/-- The configuration with both units switched on, if that is asked for. -/
def settled (options : Options) (config : Config) : Config :=
  if options.enableAll then
    { config with
      predictor := { config.predictor with enabled := true }
      simplifier := { config.simplifier with enabled := true } }
  else config

def AsksUnknown (options : Options) : Prop :=
  ∃ name ∈ options.sections, name ≠ "lvp" ∧ name ≠ "simplifier"

def ConfigFails (options : Options) (files : String → FileContent) : Prop :=
  ∃ path failure, options.config = some path ∧ Config.ofFile (files path) = .error failure

def TraceFails (options : Options) (files : String → FileContent) : Prop :=
  ∃ failure, Trace.ofFile (files options.trace) = .error failure

def EventFails (options : Options) (files : String → FileContent) : Prop :=
  ∃ config events start, options.Loads files config ∧
    Trace.ofFile (files options.trace) = .ok events ∧
    Replayer.ofConfig (options.settled config) = .ok start ∧ ¬ start.Flawless events

theorem usable_settled (loads : options.Loads files config) :
    (options.settled config).Usable := by
  have usable : config.Usable := by
    cases loads with
    | defaults given => exact Config.usable_default
    | file given loaded => exact Config.usable_of_ofFile loaded
  rw [settled]
  split
  · exact Config.usable_with_enabled usable true true
  · exact usable

theorem loadConfig_of_loads (loads : options.Loads files config) :
    options.loadConfig files = .ok (options.settled config) := by
  rw [loadConfig]
  cases loads with
  | defaults given =>
      rw [given]
      rfl
  | file given loaded =>
      simp only [given, loaded]
      rfl

theorem exists_loads_of_not_configFails (fine : ¬ options.ConfigFails files) :
    ∃ config, options.Loads files config := by
  cases given : options.config with
  | none => exact ⟨_, .defaults given⟩
  | some path =>
      cases loaded : Config.ofFile (files path) with
      | error failure => exact absurd ⟨path, failure, given, loaded⟩ fine
      | ok config => exact ⟨config, .file given loaded⟩

theorem loadConfig_of_configFails (fails : options.ConfigFails files) :
    ∃ path failure, options.loadConfig files = .error (path, failure) := by
  obtain ⟨path, failure, given, failed⟩ := fails
  refine ⟨path, failure, ?_⟩
  rw [loadConfig]
  simp only [given, failed]
  rfl

/-- A configuration that was loaded is never refused by the replay. -/
theorem replayFile_settled_ne_config (loads : options.Loads files config) (content : FileContent)
    (broken : ConfigError) :
    replayFile (options.settled config) content ≠ .error (.config broken) := by
  intro refused
  cases replayFile_eq_iff.mp refused with
  | trace failed => exact Trace.ofFile_ne_config content broken failed
  | config loaded first =>
      have made := ofConfig_of_firstBroken first
      obtain ⟨start, accepted⟩ := Config.exists_replayer_of_usable (usable_settled loads)
      rw [accepted] at made
      cases made

/-! ## The exit status -/

theorem unknownSection?_eq_none_iff :
    options.unknownSection? = none ↔ ¬ options.AsksUnknown := by
  simp [unknownSection?, AsksUnknown, StatsSection.names, StatsSection.all, StatsSection.name]

theorem run_of_asksUnknown (asks : options.AsksUnknown) :
    (options.run files).exit = 2 ∧ (options.run files).stdout = "" := by
  cases unknown : options.unknownSection? with
  | none => exact absurd asks (unknownSection?_eq_none_iff.mp unknown)
  | some name =>
      rw [run, unknown]
      exact ⟨rfl, rfl⟩

theorem run_of_configFails (known : ¬ options.AsksUnknown) (fails : options.ConfigFails files) :
    (options.run files).exit = 1 ∧ (options.run files).stdout = "" := by
  obtain ⟨path, failure, failed⟩ := loadConfig_of_configFails fails
  rw [run, unknownSection?_eq_none_iff.mpr known, failed]
  exact ⟨rfl, rfl⟩

theorem run_of_failure (known : ¬ options.AsksUnknown) (loads : options.Loads files config)
    {failure : Failure}
    (failed : Replays (options.settled config) (files options.trace) (.error failure)) :
    (options.run files).exit = 1 ∧ (options.run files).stdout = "" := by
  rw [run, unknownSection?_eq_none_iff.mpr known, loadConfig_of_loads loads]
  simp only [failed.eq, and_self]

theorem run_of_finished (known : ¬ options.AsksUnknown) (loads : options.Loads files config)
    {report : Report} {counters : Counters}
    (finished : Replays (options.settled config) (files options.trace) (.ok (report, counters))) :
    options.run files = { exit := 0, stdout := options.printed report counters } := by
  rw [run, unknownSection?_eq_none_iff.mpr known, loadConfig_of_loads loads]
  simp only [finished.eq, output_eq_printed]

/-- Whatever fails behind the section names, the status is one. -/
theorem run_of_fails (known : ¬ options.AsksUnknown)
    (fails : options.ConfigFails files ∨ options.TraceFails files ∨ options.EventFails files) :
    (options.run files).exit = 1 ∧ (options.run files).stdout = "" := by
  by_cases refused : options.ConfigFails files
  · exact run_of_configFails known refused
  · rcases fails with fails | ⟨failure, failed⟩ |
      ⟨config, events, start, loads, loaded, made, flawed⟩
    · exact absurd fails refused
    · obtain ⟨config, loads⟩ := exists_loads_of_not_configFails refused
      exact run_of_failure known loads (.trace failed)
    · obtain ⟨past, event, future, violation, rfl, flawless, failed⟩ :=
        Replayer.exists_first_failure flawed
      exact run_of_failure known loads (.event loaded made flawless failed)

/-- Where nothing fails, the run comes to its end. -/
theorem run_of_not_fails (known : ¬ options.AsksUnknown)
    (fine : ¬ (options.ConfigFails files ∨ options.TraceFails files ∨ options.EventFails files)) :
    ∃ config events start, options.Loads files config ∧
      Trace.ofFile (files options.trace) = .ok events ∧
      Replayer.ofConfig (options.settled config) = .ok start ∧
      options.run files =
        { exit := 0
          stdout :=
            options.printed (start.after events).report (start.after events).counters } := by
  simp only [not_or] at fine
  obtain ⟨loadable, readable, eventless⟩ := fine
  obtain ⟨config, loads⟩ := exists_loads_of_not_configFails loadable
  obtain ⟨start, made⟩ := Config.exists_replayer_of_usable (usable_settled loads)
  cases loaded : Trace.ofFile (files options.trace) with
  | error failure => exact absurd ⟨failure, loaded⟩ readable
  | ok events =>
      have flawless : start.Flawless events := by
        by_contra flawed
        exact eventless ⟨config, events, start, loads, loaded, made, flawed⟩
      exact ⟨config, events, start, loads, rfl, made,
        run_of_finished known loads (.finished loaded made flawless)⟩

end CommandLine.Options

end EarlyResolution
