import EarlyResolution.Config
import EarlyResolution.Violation
import EarlyResolution.Json.Problem

/-!
# Why a replay cannot be done

Everything that stops the program: a file that cannot be read, a text that is
no configuration or trace, an unusable configuration, a broken contract.
-/

namespace EarlyResolution

inductive FileError where
  | notFound
  | isDirectory
  /-- A name in front of the last leads to a file. -/
  | notDirectory
  | nameTooLong
  /-- The content is not UTF-8. -/
  | invalidData
  /-- Any other reason, in the words of the system. -/
  | refused (reason : String)
  deriving DecidableEq, Repr

def FileError.message : FileError → String
  | notFound => "No such file or directory (os error 2)"
  | isDirectory => "Is a directory (os error 21)"
  | notDirectory => "Not a directory (os error 20)"
  | nameTooLong => "File name too long (os error 36)"
  | invalidData => "stream did not contain valid UTF-8"
  | refused reason => reason

inductive Failure where
  | config (error : ConfigError)
  | violation (cause : Violation)
  | file (error : FileError)
  | parse (problem : Json.Problem)
  deriving Repr

def Failure.message : Failure → String
  | config error => s!"configuration error: {error.message}"
  | violation cause => s!"consistency violation: {cause.message}"
  | file error => s!"I/O error: {error.message}"
  | parse problem => s!"parse error: {problem.message}"

abbrev FileContent := Except FileError ByteArray

def readText (content : FileContent) : Except Failure String :=
  match content with
  | .error error => .error (.file error)
  | .ok bytes =>
      match String.fromUTF8? bytes with
      | some text => .ok text
      | none => .error (.file .invalidData)

end EarlyResolution
