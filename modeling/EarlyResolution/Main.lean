import EarlyResolution.CommandLine.Run

/-!
# The program

Reads the files that the arguments name and prints what a run leaves behind.
-/

namespace EarlyResolution.CommandLine

def fileError : IO.Error → FileError
  | .noFileOrDirectory .. => .notFound
  | .inappropriateType _ _ "not a directory" => .notDirectory
  | .inappropriateType .. => .isDirectory
  | .invalidArgument _ _ "name too long" => .nameTooLong
  | .permissionDenied .. => .refused "Permission denied (os error 13)"
  | error => .refused (toString error)

def readFile (path : String) : IO FileContent := do
  try
    return .ok (← IO.FS.readBinFile path)
  catch
    | error => return .error (fileError error)

end EarlyResolution.CommandLine

open EarlyResolution CommandLine in
def main (arguments : List String) : IO UInt32 := do
  let ending ←
    match Options.ofArguments arguments with
    | .error refusal => pure refusal.ending
    | .ok options => do
        let contents ← options.paths.mapM fun path => return (path, ← readFile path)
        pure (options.run fun path => (contents.lookup path).getD (.error .notFound))
  IO.print ending.stdout
  IO.eprint ending.stderr
  return ending.exit
