/-!
# Hexadecimal words

Addresses and values are written in lower-case hexadecimal behind `0x`, with no
leading zeros.
-/

namespace EarlyResolution.Text

/-- A number in lower-case hexadecimal digits. -/
def hexDigits (n : Nat) : String :=
  String.ofList (Nat.toDigits 16 n)

def hex (word : UInt64) : String :=
  "0x" ++ hexDigits word.toNat

end EarlyResolution.Text
