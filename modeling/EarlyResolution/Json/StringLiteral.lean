import EarlyResolution.Json.Reader

/-!
# String literals

A literal is read behind its opening quote, up to and with its closing quote.
Escapes by code unit come in surrogate pairs beyond the first plane; half a pair
is refused where the text is wanted, and passed over where it is not.
-/

namespace EarlyResolution.Json

namespace Reader

def shortEscape? : Char → Option Char
  | '"' => some '"'
  | '\\' => some '\\'
  | '/' => some '/'
  | 'b' => some '\x08'
  | 'f' => some '\x0c'
  | 'n' => some '\n'
  | 'r' => some '\r'
  | 't' => some '\t'
  | _ => none

def hexDigit? (c : Char) : Option Nat :=
  if '0' ≤ c ∧ c ≤ '9' then some (c.toNat - '0'.toNat)
  else if 'a' ≤ c ∧ c ≤ 'f' then some (c.toNat - 'a'.toNat + 10)
  else if 'A' ≤ c ∧ c ≤ 'F' then some (c.toNat - 'A'.toNat + 10)
  else none

def codeUnit? (a b c d : Char) : Option Nat := do
  return (((← hexDigit? a) * 16 + (← hexDigit? b)) * 16 + (← hexDigit? c)) * 16 + (← hexDigit? d)

/--
What is wrong where four hexadecimal digits should stand and fewer than four
characters follow: the text ends too soon if fewer than four bytes follow.
-/
def shortCodeUnit (rest : List Char) : Problem :=
  if (String.ofList rest).utf8ByteSize < 4 then .cut .string else .malformed .invalidEscape

/-- What is wrong where the second half of a surrogate pair should stand. -/
def missingHalf : List Char → Problem
  | [] | ['\\'] => .cut .string
  | '\\' :: 'u' :: rest => shortCodeUnit rest
  | _ => .malformed .unexpectedEndOfHexEscape

/-- The code unit opens a surrogate pair. -/
def isLeading (unit : Nat) : Bool :=
  0xD800 ≤ unit && unit ≤ 0xDBFF

/-- The code unit closes a surrogate pair. -/
def isTrailing (unit : Nat) : Bool :=
  0xDC00 ≤ unit && unit ≤ 0xDFFF

def pairChar (leading trailing : Nat) : Char :=
  Char.ofNat (0x10000 + (leading - 0xD800) * 0x400 + (trailing - 0xDC00))

def prepend (c : Char) (read : Except Problem (List Char × List Char)) :
    Except Problem (List Char × List Char) :=
  read.map fun (text, rest) => (c :: text, rest)

def literalChars : List Char → Except Problem (List Char × List Char)
  | [] => .error (.cut .string)
  | c :: rest =>
      if c = '"' then .ok ([], rest)
      else if c = '\\' then
        match rest with
        | [] => .error (.cut .string)
        | 'u' :: a :: b :: c :: d :: rest =>
            match codeUnit? a b c d with
            | none => .error (.malformed .invalidEscape)
            | some unit =>
                if isTrailing unit then .error (.malformed .loneSurrogate)
                else if isLeading unit then
                  match rest with
                  | '\\' :: 'u' :: a :: b :: c :: d :: rest =>
                      match codeUnit? a b c d with
                      | none => .error (.malformed .invalidEscape)
                      | some half =>
                          if isTrailing half then prepend (pairChar unit half) (literalChars rest)
                          else .error (.malformed .loneSurrogate)
                  | rest => .error (missingHalf rest)
                else prepend (Char.ofNat unit) (literalChars rest)
        | 'u' :: rest => .error (shortCodeUnit rest)
        | c :: rest =>
            match shortEscape? c with
            | none => .error (.malformed .invalidEscape)
            | some c => prepend c (literalChars rest)
      else if c < ' ' then .error (.malformed .controlCharacter)
      else prepend c (literalChars rest)

def text : Reader String :=
  fun s => (literalChars s).map fun (chars, rest) => (String.ofList chars, rest)

/-- The text behind a closing quote, with code units not paired up. -/
def literalEnd : List Char → Except Problem (List Char)
  | [] => .error (.cut .string)
  | c :: rest =>
      if c = '"' then .ok rest
      else if c = '\\' then
        match rest with
        | [] => .error (.cut .string)
        | 'u' :: a :: b :: c :: d :: rest =>
            match codeUnit? a b c d with
            | none => .error (.malformed .invalidEscape)
            | some _ => literalEnd rest
        | 'u' :: rest => .error (shortCodeUnit rest)
        | c :: rest =>
            match shortEscape? c with
            | none => .error (.malformed .invalidEscape)
            | some _ => literalEnd rest
      else if c < ' ' then .error (.malformed .controlCharacter)
      else literalEnd rest

def skipText : Reader Unit :=
  fun s => (literalEnd s).map fun rest => ((), rest)

theorem literalChars_cons {c : Char} (hquote : c ≠ '"') (hslash : c ≠ '\\') (hcontrol : ¬ c < ' ')
    (rest : List Char) : literalChars (c :: rest) = prepend c (literalChars rest) := by
  rw [literalChars.eq_def]
  simp [hquote, hslash, hcontrol]

end Reader

end EarlyResolution.Json
