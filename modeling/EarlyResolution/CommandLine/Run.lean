import EarlyResolution.CommandLine.Arguments
import EarlyResolution.Config.Reader
import EarlyResolution.Replay.File
import EarlyResolution.Statistics

/-!
# A run of the program

Section names are checked before any file is looked at, then the configuration
is loaded, then the trace is replayed.  Only a run that comes to its end writes
to standard output.
-/

namespace EarlyResolution.CommandLine

structure Ending where
  exit : UInt32
  stdout : String := ""
  stderr : String := ""
  deriving DecidableEq, Repr

/-- What arguments that ask for no run leave behind: help that was asked for is no error. -/
def Refusal.ending (refusal : Refusal) : Ending :=
  if refusal.exit = 0 then { exit := 0, stdout := refusal.message ++ "\n" }
  else { exit := refusal.exit, stderr := refusal.message ++ "\n" }

namespace Options

def paths (options : Options) : List String :=
  options.trace :: options.config.toList

def unknownSection? (options : Options) : Option String :=
  options.sections.find? fun name => !StatsSection.names.contains name

/-- The configuration of a run: from its file or the defaults, with both units on if asked. -/
def loadConfig (options : Options) (files : String → FileContent) :
    Except (String × Failure) Config := do
  let config ←
    match options.config with
    | none => pure {}
    | some path =>
        match Config.ofFile (files path) with
        | .ok config => pure config
        | .error failure => throw (path, failure)
  return if options.enableAll then config.enableAll else config

def output (options : Options) (report : Report) (counters : Counters) : String :=
  if options.json then
    let whole := Json.Value.object [("report", report.toValue), ("stats", counters.toValue)]
    whole.sortKeys.write .indented ++ "\n"
  else report.render ++ counters.render options.sections

def run (options : Options) (files : String → FileContent) : Ending :=
  match options.unknownSection? with
  | some name =>
      let known := ", ".intercalate StatsSection.names
      { exit := 2
        stderr := s!"Error: unknown stats section \x27{name}\x27 (expected one of: {known})\n" }
  | none =>
      match options.loadConfig files with
      | .error (path, failure) =>
          { exit := 1
            stderr := s!"Error: failed to load config {path}: {failure.message}\n" }
      | .ok config =>
          match replayFile config (files options.trace) with
          | .error failure =>
              { exit := 1
                stderr := s!"\nFATAL: {options.trace}: {failure.message}\n" }
          | .ok (report, counters) => { exit := 0, stdout := options.output report counters }

end Options

end EarlyResolution.CommandLine
