import EarlyResolution.Failure

/-!
# Directories

The files that a run finds where it was started.  A path is walked name by name:
each name but the last has to lead to a directory, and what is read has to be a
file.  Of the world outside nothing is known but that its directories exist.
-/

namespace EarlyResolution.CommandLine

/-- The files in a directory and below it, each with the names that lead to it. -/
structure Directory where
  files : List (List String × ByteArray)

inductive Place where
  | inside (names : List String)
  /-- A directory above, or the root of all. -/
  | outside
  deriving DecidableEq, Repr

/-- The longest name in a path, in bytes. -/
def maxNameSize : Nat := 255

/-- The longest path, in bytes. -/
def maxPathSize : Nat := 4095

namespace Directory

def file? (directory : Directory) (names : List String) : Option ByteArray :=
  directory.files.lookup names

/-- The names lead to a file, or to a directory above one. -/
def has (directory : Directory) (names : List String) : Bool :=
  directory.files.any fun (path, _) => names.isPrefixOf path

def enter (directory : Directory) (place : Place) (name : String) : Except FileError Place :=
  match place with
  | .outside =>
      if name = "" ∨ name = "." ∨ name = ".." then .ok .outside
      else if maxNameSize < name.utf8ByteSize then .error .nameTooLong
      else .error .notFound
  | .inside names =>
      if (directory.file? names).isSome then .error .notDirectory
      else if name = "" ∨ name = "." then .ok place
      else if name = ".." then
        if names = [] then .ok .outside else .ok (.inside names.dropLast)
      else if maxNameSize < name.utf8ByteSize then .error .nameTooLong
      else if directory.has (names ++ [name]) then .ok (.inside (names ++ [name]))
      else .error .notFound

def content (directory : Directory) : Place → FileContent
  | .outside => .error .isDirectory
  | .inside names =>
      match directory.file? names with
      | some bytes => .ok bytes
      | none => .error .isDirectory

def read (directory : Directory) (path : String) : FileContent :=
  if path.isEmpty then .error .notFound
  else if maxPathSize < path.utf8ByteSize then .error .nameTooLong
  else do
    let start := if path.startsWith "/" then .outside else .inside []
    let place ← (path.splitOn "/").foldlM directory.enter start
    directory.content place

end Directory

end EarlyResolution.CommandLine
