import EarlyResolution.Decimal.Shortest
import EarlyResolution.Text.Quoted

/-!
# What can be wrong with a JSON text

A text may end too soon, break the grammar, or hold well-formed values that do
not fit what is read from it.  The first problem met from left to right is the
one reported.
-/

namespace EarlyResolution.Json

inductive Unfinished where
  | list
  | object
  | string
  | value
  deriving DecidableEq, Repr

inductive Fault where
  | expectedColon
  | expectedListCommaOrEnd
  | expectedObjectCommaOrEnd
  | expectedIdent
  | expectedValue
  | invalidEscape
  | invalidNumber
  | numberOutOfRange
  | controlCharacter
  | keyMustBeString
  | loneSurrogate
  | trailingComma
  | trailingCharacters
  | unexpectedEndOfHexEscape
  | tooDeep
  deriving DecidableEq, Repr

inductive Found where
  | null
  | boolean (b : Bool)
  | integer (n : Int)
  | float (x : Float)
  | text (s : String)
  | sequence
  | map
  deriving Repr

inductive Mismatch where
  | invalidType (found : Found) (expected : String)
  /-- The right type, but out of range. -/
  | invalidValue (found : Found) (expected : String)
  | invalidLength (length : Nat) (expected : String)
  | unknownVariant (name : String) (known : List String)
  | missingField (name : String)
  | duplicateField (name : String)
  deriving Repr

inductive Problem where
  | cut (inside : Unfinished)
  | malformed (fault : Fault)
  /-- The text is JSON so far, but of the wrong shape. -/
  | unsuited (mismatch : Mismatch)
  deriving Repr

def Unfinished.name : Unfinished → String
  | list => "a list"
  | object => "an object"
  | string => "a string"
  | value => "a value"

def Fault.message : Fault → String
  | expectedColon => "expected `:`"
  | expectedListCommaOrEnd => "expected `,` or `]`"
  | expectedObjectCommaOrEnd => "expected `,` or `\x7d`"
  | expectedIdent => "expected ident"
  | expectedValue => "expected value"
  | invalidEscape => "invalid escape"
  | invalidNumber => "invalid number"
  | numberOutOfRange => "number out of range"
  | controlCharacter => "control character (\\u0000-\\u001F) found while parsing a string"
  | keyMustBeString => "key must be a string"
  | loneSurrogate => "lone leading surrogate in hex escape"
  | trailingComma => "trailing comma"
  | trailingCharacters => "trailing characters"
  | unexpectedEndOfHexEscape => "unexpected end of hex escape"
  | tooDeep => "recursion limit exceeded"

/--
Floats are written positionally while the leading digit stands between `10 ^ -5`
and `10 ^ 15`, otherwise with a signed exponent.
-/
def floatLayout : Decimal.Layout :=
  ⟨-5, 15⟩

def Found.describe : Found → String
  | null => "null"
  | boolean b => s!"boolean `{b}`"
  | integer n => s!"integer `{n}`"
  | float x => s!"floating point `{floatLayout.write x}`"
  | text s => s!"string {Text.quoted s}"
  | sequence => "sequence"
  | map => "map"

def Mismatch.message : Mismatch → String
  | invalidType found expected => s!"invalid type: {found.describe}, expected {expected}"
  | invalidValue found expected => s!"invalid value: {found.describe}, expected {expected}"
  | invalidLength length expected => s!"invalid length {length}, expected {expected}"
  | unknownVariant name known =>
      let names := ", ".intercalate (known.map fun k => s!"`{k}`")
      s!"unknown variant `{name}`, expected one of {names}"
  | missingField name => s!"missing field `{name}`"
  | duplicateField name => s!"duplicate field `{name}`"

def Problem.message : Problem → String
  | cut inside => s!"EOF while parsing {inside.name}"
  | malformed fault => fault.message
  | unsuited mismatch => mismatch.message

end EarlyResolution.Json
