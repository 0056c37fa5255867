import EarlyResolution.Json.Value

/-!
# Writing JSON

A value is written either in one line without blanks, or with one element or
member to a line, indented by two blanks a level.  Empty arrays and objects stay
in one piece either way.
-/

namespace EarlyResolution.Json

structure Spacing where
  /-- The break in front of an element, member or closing bracket at a depth. -/
  newline : Nat → List Char
  colon : List Char

def Spacing.compact : Spacing :=
  ⟨fun _ => [], [':']⟩

/-- Two blanks of indentation a level. -/
def Spacing.indented : Spacing :=
  ⟨fun depth => '\n' :: List.replicate (2 * depth) ' ', [':', ' ']⟩

def writeChar (c : Char) : List Char :=
  match c with
  | '"' => ['\\', '"']
  | '\\' => ['\\', '\\']
  | '\x08' => ['\\', 'b']
  | '\x0c' => ['\\', 'f']
  | '\n' => ['\\', 'n']
  | '\r' => ['\\', 'r']
  | '\t' => ['\\', 't']
  | _ =>
      if c < ' ' then
        ['\\', 'u', '0', '0', Nat.digitChar (c.toNat / 16), Nat.digitChar (c.toNat % 16)]
      else [c]

def writeText (s : String) : List Char :=
  '"' :: s.toList.flatMap writeChar ++ ['"']

def Number.write : Number → List Char
  | .integer (.ofNat n) => Nat.toDigits 10 n
  | .integer (.negSucc n) => '-' :: Nat.toDigits 10 (n + 1)
  | .float x => (floatLayout.write x).toList

namespace Value

mutual

def writeAt (spacing : Spacing) (depth : Nat) : Value → List Char
  | null => ['n', 'u', 'l', 'l']
  | boolean true => ['t', 'r', 'u', 'e']
  | boolean false => ['f', 'a', 'l', 's', 'e']
  | number n => n.write
  | text s => writeText s
  | sequence items => '[' :: writeItems spacing depth true items ++ [']']
  | object members => '\x7b' :: writeMembers spacing depth true members ++ ['\x7d']

def writeItems (spacing : Spacing) (depth : Nat) (first : Bool) : List Value → List Char
  | [] => if first then [] else spacing.newline depth
  | v :: vs =>
      (if first then [] else [',']) ++ spacing.newline (depth + 1) ++
        writeAt spacing (depth + 1) v ++ writeItems spacing depth false vs

def writeMembers (spacing : Spacing) (depth : Nat) (first : Bool) :
    List (String × Value) → List Char
  | [] => if first then [] else spacing.newline depth
  | (key, v) :: members =>
      (if first then [] else [',']) ++ spacing.newline (depth + 1) ++
        writeText key ++ spacing.colon ++
        writeAt spacing (depth + 1) v ++ writeMembers spacing depth false members

end

def write (spacing : Spacing) (v : Value) : String :=
  String.ofList (v.writeAt spacing 0)

/-- Puts a member in its place among members sorted by key. -/
def insertMember (member : String × Value) : List (String × Value) → List (String × Value)
  | [] => [member]
  | other :: members =>
      if other.1 ≤ member.1 then other :: insertMember member members
      else member :: other :: members

mutual

/-- The same value with the members of every object sorted by key. -/
def sortKeys : Value → Value
  | sequence items => .sequence (sortItems items)
  | object members => .object (sortMembers members)
  | v => v

def sortItems : List Value → List Value
  | [] => []
  | v :: vs => v.sortKeys :: sortItems vs

def sortMembers : List (String × Value) → List (String × Value)
  | [] => []
  | (key, v) :: members => insertMember (key, v.sortKeys) (sortMembers members)

end

end Value

end EarlyResolution.Json
