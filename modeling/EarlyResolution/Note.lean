/-!
# Notes

While they work, the units tell what they do, one line at a time.  A note never
influences the state: what is noted is computed from the state before an
operation and from its arguments.
-/

namespace EarlyResolution

inductive Level where
  | trace
  | debug
  | info
  deriving DecidableEq, Repr

def Level.name : Level → String
  | trace => "TRACE"
  | debug => "DEBUG"
  | info => "INFO"

structure Note where
  level : Level
  /-- The part of the program that speaks. -/
  speaker : String
  message : String
  deriving DecidableEq, Repr

def Note.line (note : Note) : String :=
  s!"{note.level.name} {note.speaker}: {note.message}"

end EarlyResolution
