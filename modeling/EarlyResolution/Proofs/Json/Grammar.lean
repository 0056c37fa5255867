import EarlyResolution.Json.Decode

/-!
# The grammar of JSON texts

What a value may look like in a text, said without reference to how texts are read.
Blanks may stand between any two tokens, a character of a string literal may stand for
itself or be escaped, and a numeral is whatever the number reader can evaluate.  A value
of depth `n` has at most `n` arrays and objects inside one another.
-/

namespace EarlyResolution.Json

def Blanks (s : List Char) : Prop :=
  ∀ c ∈ s, Reader.isBlank c = true

theorem Blanks.nil : Blanks [] :=
  fun _ absent => nomatch absent

/-! ## Numerals -/

/-- One digit or more, with the values of the digits. -/
def SpelledDigits (ds : List Nat) (s : List Char) : Prop :=
  s ≠ [] ∧ (∀ c ∈ s, c.isDigit = true) ∧ ds = s.map Reader.digitValue

/-- Digits in front of a point; a zero stands there alone. -/
def SpelledWhole (ds : List Nat) (s : List Char) : Prop :=
  SpelledDigits ds s ∧ (s.head? = some '0' → s = ['0'])

def SpelledSign (negative : Bool) (s : List Char) : Prop :=
  s = if negative then ['-'] else []

inductive SpelledFraction : Option (List Nat) → List Char → Prop where
  | absent : SpelledFraction none []
  | present {ds : List Nat} {s : List Char} (digits : SpelledDigits ds s) :
      SpelledFraction (some ds) ('.' :: s)

inductive SpelledExponentSign : Bool → List Char → Prop where
  | none : SpelledExponentSign false []
  | plus : SpelledExponentSign false ['+']
  | minus : SpelledExponentSign true ['-']

inductive SpelledExponent : Option (Bool × List Nat) → List Char → Prop where
  | absent : SpelledExponent none []
  | present {mark : Char} {negative : Bool} {sign : List Char} {ds : List Nat} {s : List Char}
      (marked : mark = 'e' ∨ mark = 'E') (signed : SpelledExponentSign negative sign)
      (digits : SpelledDigits ds s) :
      SpelledExponent (some (negative, ds)) (mark :: (sign ++ s))

inductive SpelledNumeral : Numeral → List Char → Prop where
  | parts {negative : Bool} {whole : List Nat} {fraction : Option (List Nat)}
      {exponent : Option (Bool × List Nat)} {sign ds point power : List Char}
      (signed : SpelledSign negative sign) (digits : SpelledWhole whole ds)
      (pointed : SpelledFraction fraction point) (powered : SpelledExponent exponent power) :
      SpelledNumeral ⟨negative, whole, fraction, exponent⟩ (sign ++ (ds ++ (point ++ power)))

/-! ## String literals -/

inductive SpelledChar : Char → List Char → Prop where
  | plain {c : Char} (quote : c ≠ '"') (slash : c ≠ '\\') (control : ¬ c < ' ') :
      SpelledChar c [c]
  | short {letter c : Char} (escape : Reader.shortEscape? letter = some c) :
      SpelledChar c ['\\', letter]
  | unit {a b c d : Char} {unit : Nat} (digits : Reader.codeUnit? a b c d = some unit)
      (leading : Reader.isLeading unit = false) (trailing : Reader.isTrailing unit = false) :
      SpelledChar (Char.ofNat unit) ['\\', 'u', a, b, c, d]
  | pair {a b c d a' b' c' d' : Char} {unit half : Nat}
      (digits : Reader.codeUnit? a b c d = some unit)
      (digits' : Reader.codeUnit? a' b' c' d' = some half)
      (leading : Reader.isLeading unit = true) (trailing : Reader.isTrailing half = true) :
      SpelledChar (Reader.pairChar unit half)
        ['\\', 'u', a, b, c, d, '\\', 'u', a', b', c', d']

inductive SpelledChars : List Char → List Char → Prop where
  | nil : SpelledChars [] []
  | cons {c : Char} {cs s t : List Char} (first : SpelledChar c s) (others : SpelledChars cs t) :
      SpelledChars (c :: cs) (s ++ t)

def SpelledText (text : String) (s : List Char) : Prop :=
  ∃ body, SpelledChars text.toList body ∧ s = '"' :: (body ++ ['"'])

/-! ## Values -/

/-- The items of a list behind the first, each with its comma in front. -/
inductive Listed {α : Type} (spelled : α → List Char → Prop) : List α → List Char → Prop where
  | nil {before : List Char} (blank : Blanks before) : Listed spelled [] before
  | cons {a : α} {items : List α} {before behind s t : List Char} (blank : Blanks before)
      (blank' : Blanks behind) (first : spelled a s) (others : Listed spelled items t) :
      Listed spelled (a :: items) (before ++ ',' :: (behind ++ (s ++ t)))

/-- What stands between the brackets of a list. -/
inductive Listing {α : Type} (spelled : α → List Char → Prop) : List α → List Char → Prop where
  | nil {before : List Char} (blank : Blanks before) : Listing spelled [] before
  | cons {a : α} {items : List α} {before s t : List Char} (blank : Blanks before)
      (first : spelled a s) (others : Listed spelled items t) :
      Listing spelled (a :: items) (before ++ (s ++ t))

theorem Listed.mono {α : Type} {spelled spelled' : α → List Char → Prop} {items : List α}
    {s : List Char} (weaker : ∀ a t, spelled a t → spelled' a t) (listed : Listed spelled items s) :
    Listed spelled' items s := by
  induction listed with
  | nil blank => exact .nil blank
  | cons blank blank' first others ih => exact .cons blank blank' (weaker _ _ first) ih

theorem Listed.inside {α : Type} {spelled : α → List Char → Prop} {items : List α} {s : List Char}
    (listed : Listed spelled items s) :
    Listed (fun a t => spelled a t ∧ a ∈ items ∧ t.length ≤ s.length) items s := by
  induction listed with
  | nil blank => exact .nil blank
  | cons blank blank' first others ih =>
      refine .cons blank blank' ⟨first, List.mem_cons_self, ?_⟩ (ih.mono ?_)
      · simp only [List.length_append, List.length_cons]
        omega
      · rintro a t ⟨spelled, member, short⟩
        refine ⟨spelled, List.mem_cons_of_mem _ member, ?_⟩
        simp only [List.length_append, List.length_cons]
        omega

theorem Listing.mono {α : Type} {spelled spelled' : α → List Char → Prop} {items : List α}
    {s : List Char} (weaker : ∀ a t, spelled a t → spelled' a t)
    (listing : Listing spelled items s) : Listing spelled' items s := by
  cases listing with
  | nil blank => exact .nil blank
  | cons blank first others => exact .cons blank (weaker _ _ first) (others.mono weaker)

/-- What is listed stands in the list, and its text in that of the list. -/
theorem Listing.inside {α : Type} {spelled : α → List Char → Prop} {items : List α} {s : List Char}
    (listing : Listing spelled items s) :
    Listing (fun a t => spelled a t ∧ a ∈ items ∧ t.length ≤ s.length) items s := by
  cases listing with
  | nil blank => exact .nil blank
  | cons blank first others =>
      refine .cons blank ⟨first, List.mem_cons_self, ?_⟩ (others.inside.mono ?_)
      · simp only [List.length_append]
        omega
      · rintro a t ⟨spelled, member, short⟩
        refine ⟨spelled, List.mem_cons_of_mem _ member, ?_⟩
        simp only [List.length_append]
        omega

theorem Listed.of_map {α β : Type} {f : α → β} {spelled : β → List Char → Prop} {items : List α}
    {s : List Char} (listed : Listed spelled (items.map f) s) :
    Listed (fun a => spelled (f a)) items s := by
  generalize mapped : items.map f = images at listed
  induction listed generalizing items with
  | nil blank =>
      obtain rfl := List.map_eq_nil_iff.mp mapped
      exact .nil blank
  | cons blank blank' first others ih =>
      obtain ⟨a, items, rfl, rfl, rfl⟩ := List.map_eq_cons_iff.mp mapped
      exact .cons blank blank' first (ih rfl)

/-- A list of images is a list of what they are images of. -/
theorem Listing.of_map {α β : Type} {f : α → β} {spelled : β → List Char → Prop} {items : List α}
    {s : List Char} (listing : Listing spelled (items.map f) s) :
    Listing (fun a => spelled (f a)) items s := by
  generalize mapped : items.map f = images at listing
  cases listing with
  | nil blank =>
      obtain rfl := List.map_eq_nil_iff.mp mapped
      exact .nil blank
  | cons blank first others =>
      obtain ⟨a, items, rfl, rfl, rfl⟩ := List.map_eq_cons_iff.mp mapped
      exact .cons blank first others.of_map

inductive SpelledMember (spelled : Value → List Char → Prop) :
    String × Value → List Char → Prop where
  | pair {key : String} {v : Value} {k before behind s : List Char} (text : SpelledText key k)
      (blank : Blanks before) (blank' : Blanks behind) (value : spelled v s) :
      SpelledMember spelled (key, v) (k ++ (before ++ ':' :: (behind ++ s)))

/-- The value of a member has a text no longer than that of the member. -/
theorem SpelledMember.within {spelled : Value → List Char → Prop} {member : String × Value}
    {s : List Char} {n : Nat} (written : SpelledMember spelled member s) (short : s.length ≤ n) :
    SpelledMember (fun v t => spelled v t ∧ t.length ≤ n) member s := by
  obtain ⟨text, blank, blank', value⟩ := written
  refine .pair text blank blank' ⟨value, ?_⟩
  simp only [List.length_append, List.length_cons] at short
  omega

/-- A value that is neither array nor object. -/
inductive SpelledScalar : Value → List Char → Prop where
  | null : SpelledScalar .null ['n', 'u', 'l', 'l']
  | true : SpelledScalar (.boolean true) ['t', 'r', 'u', 'e']
  | false : SpelledScalar (.boolean false) ['f', 'a', 'l', 's', 'e']
  | number {x : Numeral} {n : Number} {s : List Char} (numeral : SpelledNumeral x s)
      (within : x.toNumber = .ok n) : SpelledScalar (.number n) s
  | text {text : String} {s : List Char} (literal : SpelledText text s) :
      SpelledScalar (.text text) s

/-- A value in which at most `depth` arrays and objects stand inside one another. -/
def Spelled : Nat → Value → List Char → Prop
  | depth + 1, .sequence items, s =>
      ∃ body, Listing (Spelled depth) items body ∧ s = '[' :: (body ++ [']'])
  | depth + 1, .object members, s =>
      ∃ body, Listing (SpelledMember (Spelled depth)) members body ∧
        s = '\x7b' :: (body ++ ['\x7d'])
  | _, v, s => SpelledScalar v s

theorem spelled_of_scalar {v : Value} {s : List Char} (scalar : SpelledScalar v s) (depth : Nat) :
    Spelled depth v s := by
  cases depth <;> cases scalar <;> constructor <;> assumption

/-- A whole text, with blanks around its value. -/
def Document (v : Value) (text : String) : Prop :=
  ∃ before s behind, Blanks before ∧ Blanks behind ∧ Spelled maxNesting v s ∧
    text.toList = before ++ (s ++ behind)

end EarlyResolution.Json
