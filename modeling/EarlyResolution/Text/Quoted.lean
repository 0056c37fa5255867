import EarlyResolution.Text.Hexadecimal
import EarlyResolution.Text.Shown

/-!
# Quoted text in messages

A message quotes text in double quotes.  Quotes, backslashes and the usual
control characters are written with a backslash, every other character that
does not show itself as its code point in braces.
-/

namespace EarlyResolution.Text

def quotedChar (c : Char) : List Char :=
  match c with
  | '\x00' => ['\\', '0']
  | '\t' => ['\\', 't']
  | '\n' => ['\\', 'n']
  | '\r' => ['\\', 'r']
  | '"' => ['\\', '"']
  | '\\' => ['\\', '\\']
  | _ => if isShown c then [c] else ['\\', 'u', '\x7b'] ++ Nat.toDigits 16 c.toNat ++ ['\x7d']

def quoted (text : String) : String :=
  String.ofList ('"' :: text.toList.flatMap quotedChar ++ ['"'])

end EarlyResolution.Text
