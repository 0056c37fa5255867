import EarlyResolution.Proofs.Json.Grammar

/-!
# Numerals and string literals are read as they are spelled

A reader takes a numeral or a string literal from the front of a text and leaves what stands
behind it.  A numeral ends where something follows that can stand behind a value; a literal
ends at its closing quote.
-/

namespace EarlyResolution.Json

def canFollow (c : Char) : Bool :=
  Reader.isBlank c || c == ',' || c == ']' || c == '\x7d'

/-- The text starts with something that can stand behind a value, or is at its end. -/
def Follows (rest : List Char) : Prop :=
  ∀ c, rest.head? = some c → canFollow c = true

def NoDigit (rest : List Char) : Prop :=
  ∀ c, rest.head? = some c → c.isDigit = false

/-- The reader comes to `outcome` on the text, whatever follows, and takes the text if it can. -/
def Takes {α : Type} (reader : Reader α) (s : List Char) (outcome : Except Problem α) : Prop :=
  ∀ rest, Follows rest → reader (s ++ rest) = outcome.map fun a => (a, rest)

namespace Reader

/-! ## Blanks -/

/-- Blanks in front of the text make no difference to the reader. -/
def SkipsBlanks (reader : Reader α) : Prop :=
  ∀ {before : List Char} (_ : Blanks before) (s : List Char), reader (before ++ s) = reader s

theorem skipsBlanks_peek_bind (next : Option Char → Reader α) : SkipsBlanks (peek >>= next) := by
  intro before blank s
  simp only [bind_apply, peek, List.dropWhile_append_of_pos blank]

theorem SkipsBlanks.bind {reader : Reader α} (skips : SkipsBlanks reader) (f : α → Reader β) :
    SkipsBlanks (reader >>= f) := by
  intro before blank s
  rw [bind_apply, bind_apply, skips blank]

theorem peek_bind_cons {c : Char} (dark : isBlank c = false) (next : Option Char → Reader α)
    (s : List Char) : (peek >>= next) (c :: s) = next (some c) (c :: s) := by
  simp [bind_apply, peek, dark]

theorem drop_bind_cons (next : Unit → Reader α) (c : Char) (s : List Char) :
    (drop >>= next) (c :: s) = next () s :=
  rfl

end Reader

theorem isDigit_eq_false_of_canFollow {c : Char} (follows : canFollow c = true) :
    c.isDigit = false := by
  simp only [canFollow, Reader.isBlank, Bool.or_eq_true, beq_iff_eq] at follows
  rcases follows with (((((rfl | rfl) | rfl) | rfl) | rfl) | rfl) | rfl <;> decide

namespace Follows

variable {rest : List Char} (follows : Follows rest)
include follows

theorem head?_ne {c : Char} (other : canFollow c = false) : rest.head? ≠ some c := by
  intro first
  rw [follows c first] at other
  cases other

theorem noDigit : NoDigit rest :=
  fun c first => isDigit_eq_false_of_canFollow (follows c first)

end Follows

namespace Reader

/-! ## Numerals -/

theorem digits_of_spelled {ds : List Nat} {s rest : List Char} (spelled : SpelledDigits ds s)
    (stop : NoDigit rest) : digits (s ++ rest) = .ok (ds, rest) := by
  obtain ⟨-, all, rfl⟩ := spelled
  have none : rest.takeWhile Char.isDigit = [] ∧ rest.dropWhile Char.isDigit = rest := by
    cases rest with
    | nil => exact ⟨rfl, rfl⟩
    | cons c rest =>
        have other := stop c rfl
        simp [other]
  rw [digits, List.takeWhile_append_of_pos all, List.dropWhile_append_of_pos all, none.1, none.2,
    List.append_nil]

theorem someDigits_of_spelled {ds : List Nat} {s rest : List Char}
    (spelled : SpelledDigits ds s) (stop : NoDigit rest) (atEnd : Problem) :
    someDigits atEnd (s ++ rest) = .ok (ds, rest) := by
  cases s with
  | nil => exact absurd rfl spelled.1
  | cons c s =>
      have first : c.isDigit = true := spelled.2.1 c List.mem_cons_self
      rw [List.cons_append, someDigits, if_pos first]
      exact digits_of_spelled spelled stop

theorem wholePart_of_spelled {ds : List Nat} {s rest : List Char} (spelled : SpelledWhole ds s)
    (stop : NoDigit rest) (atEnd : Problem) :
    wholePart atEnd (s ++ rest) = .ok (ds, rest) := by
  obtain ⟨digits, alone⟩ := spelled
  have taken := someDigits_of_spelled digits stop atEnd
  by_cases zero : s.head? = some '0'
  · obtain rfl := alone zero
    cases rest with
    | nil => exact taken
    | cons c rest =>
        have other : ¬ c.isDigit = true := by simp [stop c rfl]
        obtain rfl : ds = [0] := digits.2.2
        rw [List.cons_append, List.nil_append, wholePart, if_neg other]
  · rw [wholePart.eq_def]
    split
    case h_1 c others same =>
        cases s with
        | nil => exact absurd rfl digits.1
        | cons d s =>
            rw [List.cons_append, List.cons.injEq] at same
            exact absurd (congrArg some same.1) zero
    case h_2 => exact taken

theorem minus_of_spelled {negative : Bool} {sign s : List Char}
    (signed : SpelledSign negative sign) (other : s.head? ≠ some '-') :
    minus (sign ++ s) = .ok (negative, s) := by
  rw [signed]
  cases negative with
  | true => rfl
  | false =>
      change minus s = _
      rw [minus.eq_def]
      split
      case h_1 => exact absurd rfl other
      case h_2 => rfl

theorem fractionPart_of_spelled {fraction : Option (List Nat)} {point rest : List Char}
    (pointed : SpelledFraction fraction point) (stop : NoDigit rest)
    (other : rest.head? ≠ some '.') (atEnd : Problem) :
    fractionPart atEnd (point ++ rest) = .ok (fraction, rest) := by
  cases pointed with
  | absent =>
      change fractionPart atEnd rest = _
      rw [fractionPart.eq_def]
      split
      case h_1 => exact absurd rfl other
      case h_2 => rfl
  | present digits =>
      rw [List.cons_append, fractionPart]
      change (someDigits atEnd >>= fun a => pure (some a)) _ = _
      rw [bind_of_ok (someDigits_of_spelled digits stop atEnd)]
      rfl

theorem exponentSign_of_spelled {negative : Bool} {sign s : List Char}
    (signed : SpelledExponentSign negative sign)
    (other : s.head? ≠ some '-' ∧ s.head? ≠ some '+') :
    exponentSign (sign ++ s) = .ok (negative, s) := by
  cases signed with
  | none =>
      change exponentSign s = _
      rw [exponentSign.eq_def]
      split
      case h_1 => exact absurd rfl other.1
      case h_2 => exact absurd rfl other.2
      case h_3 => rfl
  | plus => rfl
  | minus => rfl

theorem head?_ne_of_spelledDigits {ds : List Nat} {s : List Char} (spelled : SpelledDigits ds s)
    {c : Char} (other : c.isDigit = false) (rest : List Char) : (s ++ rest).head? ≠ some c := by
  cases s with
  | nil => exact absurd rfl spelled.1
  | cons d s =>
      rintro ⟨⟩
      rw [spelled.2.1 c List.mem_cons_self] at other
      cases other

theorem exponentPart_of_spelled {exponent : Option (Bool × List Nat)} {power rest : List Char}
    (powered : SpelledExponent exponent power) (stop : NoDigit rest)
    (other : rest.head? ≠ some 'e' ∧ rest.head? ≠ some 'E') (atEnd : Problem) :
    exponentPart atEnd (power ++ rest) = .ok (exponent, rest) := by
  cases powered with
  | absent =>
      cases rest with
      | nil => rfl
      | cons c rest =>
          have plain : ¬ (c = 'e' ∨ c = 'E') := by simpa using other
          rw [List.nil_append, exponentPart, if_neg plain]
  | present marked signed digits =>
      have unsigned (c : Char) (sign : c.isDigit = false) :=
        head?_ne_of_spelledDigits digits sign rest
      rw [List.cons_append, List.append_assoc, exponentPart, if_pos marked,
        bind_of_ok (exponentSign_of_spelled signed
          ⟨unsigned '-' (by decide), unsigned '+' (by decide)⟩),
        bind_of_ok (someDigits_of_spelled digits stop atEnd)]
      rfl

/-- Neither an exponent nor what follows a value looks like another part of a numeral. -/
theorem head?_power_ne {exponent : Option (Bool × List Nat)} {power rest : List Char}
    (powered : SpelledExponent exponent power) (follows : Follows rest) :
    NoDigit (power ++ rest) ∧ (power ++ rest).head? ≠ some '.' := by
  cases powered with
  | absent => exact ⟨follows.noDigit, follows.head?_ne (by decide)⟩
  | present marked signed digits =>
      constructor
      · rintro c ⟨⟩
        rcases marked with rfl | rfl <;> decide
      · rintro ⟨⟩
        rcases marked with impossible | impossible <;> cases impossible

theorem noDigit_point {fraction : Option (List Nat)} {point rest : List Char}
    (pointed : SpelledFraction fraction point) (stop : NoDigit rest) : NoDigit (point ++ rest) := by
  cases pointed with
  | absent => exact stop
  | present digits =>
      rintro c ⟨⟩
      decide

theorem numeral_of_spelled {x : Numeral} {s rest : List Char} (spelled : SpelledNumeral x s)
    (follows : Follows rest) (atEnd : Problem) :
    numeral atEnd (s ++ rest) = .ok (x, rest) := by
  obtain ⟨signed, digits, pointed, powered⟩ := spelled
  obtain ⟨stop, noPoint⟩ := head?_power_ne powered follows
  have unsigned := head?_ne_of_spelledDigits digits.1 (c := '-') (by decide)
  simp only [List.append_assoc]
  rw [numeral, bind_of_ok (minus_of_spelled signed (unsigned _)),
    bind_of_ok (wholePart_of_spelled digits (noDigit_point pointed stop) atEnd),
    bind_of_ok (fractionPart_of_spelled pointed stop noPoint atEnd),
    bind_of_ok (exponentPart_of_spelled powered follows.noDigit
      ⟨follows.head?_ne (by decide), follows.head?_ne (by decide)⟩ atEnd)]
  rfl

theorem number_of_spelled {x : Numeral} {n : Number} {s rest : List Char}
    (spelled : SpelledNumeral x s) (within : x.toNumber = .ok n) (follows : Follows rest) :
    number (s ++ rest) = .ok (n, rest) := by
  rw [number, bind_of_ok (numeral_of_spelled spelled follows _), within]
  rfl

/-! ## String literals -/

theorem isTrailing_eq_false_of_isLeading {unit : Nat} (leading : isLeading unit = true) :
    isTrailing unit = false := by
  simp only [isLeading, isTrailing, Bool.and_eq_true, Bool.and_eq_false_iff, decide_eq_true_eq,
    decide_eq_false_iff_not] at leading ⊢
  omega

theorem literalChars_short {letter c : Char} (escape : shortEscape? letter = some c)
    (rest : List Char) :
    literalChars ('\\' :: letter :: rest) = prepend c (literalChars rest) := by
  rw [literalChars.eq_def]
  unfold shortEscape? at escape
  split at escape <;> cases escape <;> rfl

theorem literalChars_of_spelledChar {c : Char} {s : List Char} (spelled : SpelledChar c s)
    (rest : List Char) : literalChars (s ++ rest) = prepend c (literalChars rest) := by
  cases spelled with
  | plain quote slash control => exact literalChars_cons quote slash control rest
  | short escape => exact literalChars_short escape rest
  | unit digits leading trailing =>
      simp only [List.cons_append, List.nil_append]
      rw [literalChars.eq_def]
      simp [digits, leading, trailing]
  | pair digits digits' leading trailing =>
      simp only [List.cons_append, List.nil_append]
      rw [literalChars.eq_def]
      simp [digits, digits', leading, trailing, isTrailing_eq_false_of_isLeading leading]

theorem literalChars_of_spelledChars {cs body : List Char} (spelled : SpelledChars cs body)
    (rest : List Char) : literalChars (body ++ '"' :: rest) = .ok (cs, rest) := by
  induction spelled with
  | nil =>
      rw [List.nil_append, literalChars.eq_def]
      rfl
  | cons first others ih =>
      rw [List.append_assoc, literalChars_of_spelledChar first, ih]
      rfl

/-- The opening quote is taken before. -/
theorem text_of_spelled {literal : String} {body : List Char}
    (spelled : SpelledChars literal.toList body) (rest : List Char) :
    text (body ++ '"' :: rest) = .ok (literal, rest) := by
  rw [text, literalChars_of_spelledChars spelled]
  exact congrArg (fun t => Except.ok (t, rest)) (String.ofList_toList)

end Reader

end EarlyResolution.Json
