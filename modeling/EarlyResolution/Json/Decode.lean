import EarlyResolution.Json.Numeral
import EarlyResolution.Json.StringLiteral

/-!
# Reading values and records

A value is read whole into a `Value`, within a limit on nesting; or it is passed
over, without one.  A record of known fields is read straight from the text,
either as an object with its members in any order or as an array of its fields
in their declared order, on top of given defaults.
-/

namespace EarlyResolution.Json

/-- How many arrays and objects may stand inside one another. -/
def maxNesting : Nat := 127

namespace Reader

/-- Reads a value, with `array` and `object` reading behind an opening bracket. -/
def valueWith (array object : Reader Value) : Reader Value := do
  match ← peek with
  | none => fail (.cut .value)
  | some 'n' => drop; restOfName ['u', 'l', 'l']; return .null
  | some 't' => drop; restOfName ['r', 'u', 'e']; return .boolean true
  | some 'f' => drop; restOfName ['a', 'l', 's', 'e']; return .boolean false
  | some '"' => drop; return .text (← text)
  | some '[' => drop; array
  | some '\x7b' => drop; object
  | some c => if c = '-' || c.isDigit then return .number (← number) else reject .expectedValue

def elements (item : Reader α) : Reader (List α) := do
  let reversed ← bounded fun bound =>
    foldWhile nextElement (fun items => return (← item) :: items) bound true []
  return reversed.reverse

/-- Folds over the members of an object behind its opening brace; `member` reads from the colon
on. -/
def foldMembers (member : σ → String → Reader σ) (start : σ) : Reader σ :=
  bounded fun bound =>
    foldWhile nextMember (fun state => do member state (← text)) bound true start

/-- Reads a value in which at most `depth` arrays and objects stand inside one another. -/
def value : Nat → Reader Value
  | 0 => valueWith (reject .tooDeep) (reject .tooDeep)
  | depth + 1 =>
      valueWith
        (return .sequence (← elements (value depth)))
        (do
          let reversed ← foldMembers (fun members key => do
            colon
            return (key, ← value depth) :: members) []
          return .object reversed.reverse)

def scalar (expected : String) (take : Value → Except Mismatch α) : Reader α := do
  let found ← valueWith
    (fail (.unsuited (.invalidType .sequence expected)))
    (fail (.unsuited (.invalidType .map expected)))
  fit (take found)

def mismatch (expected : String) : Reader α :=
  scalar expected fun found => .error (.invalidType found.found expected)

def array (item : Reader α) : Reader (List α) := do
  match ← peek with
  | some '[' => drop; elements item
  | _ => mismatch "a sequence"

/-! ## Passing over a value -/

def nextSkippedElement (first : Bool) : Reader Bool := do
  match ← peek with
  | none => fail (.cut .list)
  | some ']' => drop; return false
  | some c =>
      if first then return true
      else if c = ',' then drop; return true
      else reject .expectedListCommaOrEnd

def nextSkippedMember (first : Bool) : Reader Bool := do
  match ← peek with
  | none => fail (.cut .object)
  | some '\x7d' => drop; return false
  | some c =>
      if first then openKey
      else if c = ',' then drop; openKey
      else reject .expectedObjectCommaOrEnd
where
  openKey : Reader Bool := do
    match ← peek with
    | none => fail (.cut .object)
    | some '"' => drop; return true
    | some _ => reject .keyMustBeString

/-- Passes over a value nested no deeper than the bound is long. -/
def skipWithin : List Char → Reader Unit
  | [] => fail (.cut .value)
  | _ :: bound => do
      match ← peek with
      | none => fail (.cut .value)
      | some 'n' => drop; restOfName ['u', 'l', 'l']
      | some 't' => drop; restOfName ['r', 'u', 'e']
      | some 'f' => drop; restOfName ['a', 'l', 's', 'e']
      | some '"' => drop; skipText
      | some '[' =>
          drop
          bounded fun rounds =>
            foldWhile nextSkippedElement (fun _ => skipWithin bound) rounds true ()
      | some '\x7b' =>
          drop
          bounded fun rounds =>
            foldWhile nextSkippedMember (fun _ => do skipText; colon; skipWithin bound)
              rounds true ()
      | some c => if c = '-' || c.isDigit then skipNumber else reject .expectedValue

/-- Passes over a value, however deep. -/
def skipValue : Reader Unit :=
  bounded skipWithin

/-! ## Records -/

structure Field (ρ : Type) where
  name : String
  read : ρ → Reader ρ

/-- Reads the member under a key; `seen` are the fields already read. -/
def recordMember (fields : List (Field ρ)) (state : List String × ρ) (key : String) :
    Reader (List String × ρ) :=
  let (seen, record) := state
  match fields.find? fun field => field.name == key with
  | none => do
      colon
      skipValue
      return (seen, record)
  | some field =>
      if seen.contains key then fail (.unsuited (.duplicateField key))
      else do
        colon
        return (key :: seen, ← field.read record)

def recordElements (record : ρ) : Bool → List (Field ρ) → Reader ρ
  | _, [] => do
      endArray
      return record
  | first, field :: fields => do
      if ← nextElement first then recordElements (← field.read record) false fields
      else return record

def record (expected : String) (fields : List (Field ρ)) (defaults : ρ) : Reader ρ := do
  match ← peek with
  | some '[' => drop; recordElements defaults true fields
  | some '\x7b' =>
      drop
      let (_, record) ← foldMembers (recordMember fields) ([], defaults)
      return record
  | _ => mismatch expected

end Reader

end EarlyResolution.Json
