import EarlyResolution.Json.Problem

/-!
# Readers

A reader takes what it needs from the front of a text and leaves the rest, or
says what is wrong.  Blanks are skipped in front of every token, never behind.

Loops are bounded by the text they start on: every round but the last takes at
least one character, so the bound is never met.
-/

namespace EarlyResolution.Json

def Reader (α : Type) : Type :=
  List Char → Except Problem (α × List Char)

namespace Reader

instance : Monad Reader where
  pure a := fun s => .ok (a, s)
  bind x f := fun s =>
    match x s with
    | .error problem => .error problem
    | .ok (a, rest) => f a rest

def fail (problem : Problem) : Reader α :=
  fun _ => .error problem

def reject (fault : Fault) : Reader α :=
  fail (.malformed fault)

def fit : Except Mismatch α → Reader α
  | .ok a => pure a
  | .error mismatch => fail (.unsuited mismatch)

@[simp] theorem pure_apply (a : α) (s : List Char) : (pure a : Reader α) s = .ok (a, s) :=
  rfl

theorem bind_apply (x : Reader α) (f : α → Reader β) (s : List Char) :
    (x >>= f) s =
      match x s with
      | .error problem => .error problem
      | .ok (a, rest) => f a rest :=
  rfl

theorem bind_of_ok {x : Reader α} {s rest : List Char} {a : α} (h : x s = .ok (a, rest))
    (f : α → Reader β) : (x >>= f) s = f a rest := by
  simp [bind_apply, h]

/-! ## Characters -/

def isBlank (c : Char) : Bool :=
  c == ' ' || c == '\n' || c == '\t' || c == '\r'

/-- Skips blanks and looks at the next character without taking it. -/
def peek : Reader (Option Char) :=
  fun s =>
    let rest := s.dropWhile isBlank
    .ok (rest.head?, rest)

def drop : Reader Unit :=
  fun s => .ok ((), s.drop 1)

def restOfName : List Char → Reader Unit
  | [] => pure ()
  | c :: name => fun
      | [] => .error (.cut .value)
      | d :: rest => if d = c then restOfName name rest else .error (.malformed .expectedIdent)

/-! ## Loops -/

/--
Folds `step` while `next` finds another item; `next` is told whether the item
would be the first, and takes the closing bracket when there is none.
-/
def foldWhile (next : Bool → Reader Bool) (step : σ → Reader σ) :
    List Char → Bool → σ → Reader σ
  | [], _, _ => fail (.cut .value)
  | _ :: bound, first, state => do
      if ← next first then
        let state ← step state
        foldWhile next step bound false state
      else return state

/-- Hands a loop the text it starts on, and one more, as its bound. -/
def bounded (loop : List Char → Reader α) : Reader α :=
  fun s => loop (' ' :: s) s

/-! ## Brackets and commas -/

def nextElement (first : Bool) : Reader Bool := do
  match ← peek with
  | none => fail (.cut .list)
  | some ']' => drop; return false
  | some c =>
      if first then return true
      else if c = ',' then
        drop
        match ← peek with
        | none => fail (.cut .value)
        | some ']' => reject .trailingComma
        | some _ => return true
      else reject .expectedListCommaOrEnd

/-- Looks for another object member and takes its opening quote, or takes the closing brace. -/
def nextMember (first : Bool) : Reader Bool := do
  match ← peek with
  | none => fail (.cut .object)
  | some '\x7d' => drop; return false
  | some c =>
      if first then
        if c = '"' then drop; return true else reject .keyMustBeString
      else if c = ',' then
        drop
        match ← peek with
        | none => fail (.cut .value)
        | some '"' => drop; return true
        | some '\x7d' => reject .trailingComma
        | some _ => reject .keyMustBeString
      else reject .expectedObjectCommaOrEnd

def colon : Reader Unit := do
  match ← peek with
  | none => fail (.cut .object)
  | some ':' => drop
  | some _ => reject .expectedColon

/-- Takes the bracket behind the last element that an array may have. -/
def endArray : Reader Unit := do
  match ← peek with
  | none => fail (.cut .list)
  | some ']' => drop
  | some ',' => do
      drop
      match ← peek with
      | some ']' => reject .trailingComma
      | _ => reject .trailingCharacters
  | some _ => reject .trailingCharacters

/-- Reads a whole text: behind the value only blanks may follow. -/
def run (reader : Reader α) (text : String) : Except Problem α :=
  match reader text.toList with
  | .error problem => .error problem
  | .ok (a, rest) =>
      if rest.all isBlank then .ok a else .error (.malformed .trailingCharacters)

end Reader

end EarlyResolution.Json
