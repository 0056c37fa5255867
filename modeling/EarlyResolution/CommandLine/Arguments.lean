/-!
# Command line arguments

`run` takes a trace and, optionally, a configuration, a switch for both units,
the sections to print and a switch for JSON.  An option takes its value from the
same argument or the next; `--stats` takes every argument up to the next option.
An argument that starts with a dash and is longer than that is never a value.

In place of `run` there may be a wish for help or for the version, which is met
at once, whatever follows it.
-/

namespace EarlyResolution.CommandLine

structure Options where
  trace : String
  config : Option String := none
  enableAll : Bool := false
  sections : List String := []
  json : Bool := false
  deriving DecidableEq, Repr

inductive Refusal where
  | helpWanted
  | versionWanted
  | missingCommand
  | unknownCommand (name : String)
  | unexpected (argument : String)
  | missingValue (option : String)
  | repeated (option : String)
  | unwantedValue (option : String)
  | missingTrace
  deriving DecidableEq, Repr

def Refusal.message : Refusal → String
  | helpWanted => "usage: run -t PATH [-c PATH] [--enable-all] [--stats SECTION..] [--json]"
  | versionWanted => "accel-sim 0.3.0"
  | missingCommand => "error: a subcommand is required"
  | unknownCommand name => s!"error: unrecognized subcommand \x27{name}\x27"
  | unexpected argument => s!"error: unexpected argument \x27{argument}\x27 found"
  | missingValue option => s!"error: a value is required for \x27{option}\x27 but none was supplied"
  | repeated option => s!"error: the argument \x27{option}\x27 cannot be used multiple times"
  | unwantedValue option => s!"error: unexpected value for \x27{option}\x27"
  | missingTrace => "error: the argument \x27--trace <PATH>\x27 was not provided"

def Refusal.exit : Refusal → UInt32
  | helpWanted | versionWanted => 0
  | _ => 2

/-- An option that still waits for values. -/
inductive Waiting where
  | trace
  | config
  /-- `--stats`, which goes on taking values once it has one. -/
  | sections (satisfied : Bool)
  deriving DecidableEq, Repr

structure Draft where
  trace : Option String := none
  config : Option String := none
  enableAll : Bool := false
  sections : List String := []
  json : Bool := false
  waiting : Option Waiting := none
  /-- A lone `--` has been met, after which there are no options. -/
  closed : Bool := false
  deriving DecidableEq, Repr

namespace Draft

def setTrace (draft : Draft) (path : String) : Except Refusal Draft :=
  if draft.trace.isSome then .error (.repeated "--trace")
  else if path.isEmpty then .error (.missingValue "--trace")
  else .ok { draft with trace := some path, waiting := none }

def setConfig (draft : Draft) (path : String) : Except Refusal Draft :=
  if draft.config.isSome then .error (.repeated "--config")
  else if path.isEmpty then .error (.missingValue "--config")
  else .ok { draft with config := some path, waiting := none }

def addSection (draft : Draft) (name : String) (more : Bool) : Draft :=
  { draft with
    sections := draft.sections ++ [name]
    waiting := if more then some (.sections true) else none }

/-- An option must have had its value before something else begins. -/
def settle (draft : Draft) : Except Refusal Draft :=
  match draft.waiting with
  | none => .ok draft
  | some .trace => .error (.missingValue "--trace")
  | some .config => .error (.missingValue "--config")
  | some (.sections false) => .error (.missingValue "--stats")
  | some (.sections true) => .ok { draft with waiting := none }

def takeValue (draft : Draft) (argument : String) : Except Refusal Draft :=
  match draft.waiting with
  | none => .error (.unexpected argument)
  | some .trace => draft.setTrace argument
  | some .config => draft.setConfig argument
  | some (.sections _) => .ok (draft.addSection argument true)

/-- Takes a long option, with the value given behind `=` if there is one. -/
def takeLong (draft : Draft) (name : String) (value : Option String) : Except Refusal Draft :=
  match name, value with
  | "trace", some path => draft.setTrace path
  | "trace", none => .ok { draft with waiting := some .trace }
  | "config", some path => draft.setConfig path
  | "config", none => .ok { draft with waiting := some .config }
  | "stats", some name => .ok (draft.addSection name false)
  | "stats", none => .ok { draft with waiting := some (.sections false) }
  | "enable-all", none =>
      if draft.enableAll then .error (.repeated "--enable-all")
      else .ok { draft with enableAll := true }
  | "json", none =>
      if draft.json then .error (.repeated "--json") else .ok { draft with json := true }
  | "help", none => .error .helpWanted
  | "enable-all", some _ | "json", some _ | "help", some _ => .error (.unwantedValue ("--" ++ name))
  | _, _ => .error (.unexpected ("--" ++ name))

/-- Takes a short option, with what stands behind its letter. -/
def takeShort (draft : Draft) (letter : Char) (attached : List Char) : Except Refusal Draft :=
  let value := String.ofList (if attached.head? = some '=' then attached.drop 1 else attached)
  match letter with
  | 't' =>
      if attached.isEmpty then .ok { draft with waiting := some .trace } else draft.setTrace value
  | 'c' =>
      if attached.isEmpty then .ok { draft with waiting := some .config }
      else draft.setConfig value
  | 'h' => .error .helpWanted
  | _ => .error (.unexpected (String.ofList ['-', letter]))

def take (draft : Draft) (argument : String) : Except Refusal Draft :=
  if draft.closed then .error (.unexpected argument)
  else
    match argument.toList with
    | ['-', '-'] => do return { ← draft.settle with closed := true }
    | '-' :: '-' :: option => do
        let draft ← draft.settle
        let name := option.takeWhile (· != '=')
        let value := (option.drop name.length).tail?.map String.ofList
        draft.takeLong (String.ofList name) value
    | '-' :: letter :: attached => do (← draft.settle).takeShort letter attached
    | _ => draft.takeValue argument

def finish (draft : Draft) : Except Refusal Options := do
  let draft ← draft.settle
  match draft.trace with
  | none => throw .missingTrace
  | some trace =>
      return {
        trace
        config := draft.config
        enableAll := draft.enableAll
        sections := draft.sections
        json := draft.json }

end Draft

def Options.ofArguments : List String → Except Refusal Options
  | [] => .error .missingCommand
  | "run" :: arguments => do (← arguments.foldlM Draft.take {}).finish
  | ["help"] | ["help", "run"] | ["help", "help"] => .error .helpWanted
  | "--help" :: _ => .error .helpWanted
  | "--version" :: _ => .error .versionWanted
  | name :: _ =>
      match name.toList with
      | '-' :: 'h' :: _ => .error .helpWanted
      | '-' :: 'V' :: _ => .error .versionWanted
      | _ => .error (.unknownCommand name)

end EarlyResolution.CommandLine
