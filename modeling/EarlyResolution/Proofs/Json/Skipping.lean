import EarlyResolution.Proofs.Json.Reading

/-!
# Values are passed over

What stands under an unknown key is passed over without a value being made of it.  Any
spelled value is passed over, however deep it is nested: each array or object takes a
character more than what stands in it, so the text bounds the depth.
-/

namespace EarlyResolution.Json

namespace Reader

/-! ## String literals and numerals -/

theorem literalEnd_cons {c : Char} (hquote : c ≠ '"') (hslash : c ≠ '\\') (hcontrol : ¬ c < ' ')
    (rest : List Char) : literalEnd (c :: rest) = literalEnd rest := by
  rw [literalEnd.eq_def]
  simp [hquote, hslash, hcontrol]

theorem literalEnd_short {letter c : Char} (escape : shortEscape? letter = some c)
    (rest : List Char) : literalEnd ('\\' :: letter :: rest) = literalEnd rest := by
  rw [literalEnd.eq_def]
  unfold shortEscape? at escape
  split at escape <;> cases escape <;> rfl

theorem literalEnd_unit {a b c d : Char} {unit : Nat} (digits : codeUnit? a b c d = some unit)
    (rest : List Char) :
    literalEnd ('\\' :: 'u' :: a :: b :: c :: d :: rest) = literalEnd rest := by
  rw [literalEnd.eq_def]
  simp [digits]

theorem literalEnd_of_spelledChar {c : Char} {s : List Char} (spelled : SpelledChar c s)
    (rest : List Char) : literalEnd (s ++ rest) = literalEnd rest := by
  cases spelled with
  | plain quote slash control => exact literalEnd_cons quote slash control rest
  | short escape => exact literalEnd_short escape rest
  | unit digits leading trailing => exact literalEnd_unit digits rest
  | pair digits digits' leading trailing =>
      simp only [List.cons_append, List.nil_append]
      rw [literalEnd_unit digits, literalEnd_unit digits']

/-- The opening quote is taken before. -/
theorem skipText_of_spelled {cs body : List Char} (spelled : SpelledChars cs body)
    (rest : List Char) : skipText (body ++ '"' :: rest) = .ok ((), rest) := by
  have ended : literalEnd (body ++ '"' :: rest) = .ok rest := by
    induction spelled with
    | nil =>
        rw [List.nil_append, literalEnd.eq_def]
        rfl
    | cons first others ih => rw [List.append_assoc, literalEnd_of_spelledChar first, ih]
  rw [skipText, ended]
  rfl

theorem skipNumber_of_spelled {x : Numeral} {s rest : List Char} (spelled : SpelledNumeral x s)
    (follows : Follows rest) : skipNumber (s ++ rest) = .ok ((), rest) := by
  rw [skipNumber, bind_of_ok (numeral_of_spelled spelled follows _)]
  rfl

/-! ## Brackets and commas -/

theorem nextSkippedElement_stop {before : List Char} (blank : Blanks before) (first : Bool)
    (rest : List Char) : nextSkippedElement first (before ++ ']' :: rest) = .ok (false, rest) := by
  rw [nextSkippedElement, skipsBlanks_peek_bind _ blank, peek_bind_cons (by decide)]
  rfl

theorem nextSkippedElement_first {before s : List Char} (blank : Blanks before) (starts : Starts s)
    (rest : List Char) :
    nextSkippedElement true (before ++ (s ++ rest)) = .ok (true, s ++ rest) := by
  obtain ⟨c, t, rfl, dark, other⟩ := starts
  rw [nextSkippedElement, skipsBlanks_peek_bind _ blank, List.cons_append, peek_bind_cons dark]
  simp

theorem nextSkippedElement_later {before : List Char} (blank : Blanks before) (s : List Char) :
    nextSkippedElement false (before ++ ',' :: s) = .ok (true, s) := by
  rw [nextSkippedElement, skipsBlanks_peek_bind _ blank, peek_bind_cons (by decide)]
  rfl

theorem nextSkippedMember_stop {before : List Char} (blank : Blanks before) (first : Bool)
    (rest : List Char) :
    nextSkippedMember first (before ++ '\x7d' :: rest) = .ok (false, rest) := by
  rw [nextSkippedMember, skipsBlanks_peek_bind _ blank, peek_bind_cons (by decide)]
  rfl

theorem openKey_of_blanks {before : List Char} (blank : Blanks before) (s : List Char) :
    nextSkippedMember.openKey (before ++ '"' :: s) = .ok (true, s) := by
  rw [nextSkippedMember.openKey, skipsBlanks_peek_bind _ blank, peek_bind_cons (by decide)]
  rfl

theorem nextSkippedMember_first {before : List Char} (blank : Blanks before) (s : List Char) :
    nextSkippedMember true (before ++ '"' :: s) = .ok (true, s) := by
  rw [nextSkippedMember, skipsBlanks_peek_bind _ blank, peek_bind_cons (by decide)]
  exact openKey_of_blanks .nil s

theorem nextSkippedMember_later {before behind : List Char} (blank : Blanks before)
    (blank' : Blanks behind) (s : List Char) :
    nextSkippedMember false (before ++ ',' :: (behind ++ '"' :: s)) = .ok (true, s) := by
  rw [nextSkippedMember, skipsBlanks_peek_bind _ blank, peek_bind_cons (by decide)]
  exact openKey_of_blanks blank' s

/-! ## Values -/

theorem skipsBlanks_skipWithin (bound : List Char) : SkipsBlanks (skipWithin bound) := by
  cases bound with
  | nil => exact fun _ _ => rfl
  | cons c bound => exact skipsBlanks_peek_bind _

theorem skipWithin_numeral {c : Char} (opens : OpensNumeral c) (b : Char) (bound s : List Char) :
    skipWithin (b :: bound) (c :: s) = skipNumber (c :: s) := by
  have numeric : (c = '-' || c.isDigit) = true := by
    simpa [OpensNumeral] using opens
  -- As for a value that is read: none of the characters looked for before a number is tried.
  have := opens.ne (show 'n' ≠ '-' by decide) (by decide)
  have := opens.ne (show 't' ≠ '-' by decide) (by decide)
  have := opens.ne (show 'f' ≠ '-' by decide) (by decide)
  have := opens.ne (show '"' ≠ '-' by decide) (by decide)
  have := opens.ne (show '[' ≠ '-' by decide) (by decide)
  have := opens.ne (show '\x7b' ≠ '-' by decide) (by decide)
  rw [skipWithin, peek_bind_cons opens.isBlank_eq_false]
  simp only [if_pos numeric]

theorem skipWithin_scalar {v : Value} {s : List Char} (spelled : SpelledScalar v s) (b : Char)
    (bound : List Char) : Takes (skipWithin (b :: bound)) s (.ok ()) := by
  intro rest follows
  cases spelled with
  | null => rfl
  | true => rfl
  | false => rfl
  | number numeral within =>
      have taken := skipNumber_of_spelled numeral follows
      obtain ⟨c, t, rfl, opens⟩ := opens_of_spelledNumeral numeral
      rw [List.cons_append, skipWithin_numeral opens]
      exact taken
  | text literal =>
      obtain ⟨body, chars, rfl⟩ := literal
      simp only [List.cons_append, List.append_assoc, List.nil_append]
      rw [skipWithin, peek_bind_cons (by decide)]
      exact skipText_of_spelled chars rest

theorem skipWithin_array (b : Char) (bound s : List Char) :
    skipWithin (b :: bound) ('[' :: s) =
      bounded
        (fun rounds => foldWhile nextSkippedElement (fun _ => skipWithin bound) rounds true ())
        s := by
  rw [skipWithin, peek_bind_cons (by decide)]
  rfl

theorem skipWithin_object (b : Char) (bound s : List Char) :
    skipWithin (b :: bound) ('\x7b' :: s) =
      bounded
        (fun rounds => foldWhile nextSkippedMember (fun _ => do skipText; colon; skipWithin bound)
          rounds true ())
        s := by
  rw [skipWithin, peek_bind_cons (by decide)]
  rfl

section Lists

variable {bound : List Char} {spelled : Value → List Char → Prop}
  (passes : ∀ v s, spelled v s → Starts s ∧ Takes (skipWithin bound) s (.ok ()))
include passes

theorem rounds_skippedElements :
    Rounds nextSkippedElement (fun _ => skipWithin bound) ']' spelled fun _ _ => .ok () where
  stop := nextSkippedElement_stop
  first := fun blank spelled _ rest follows =>
    ⟨_, nextSkippedElement_first blank (passes _ _ spelled).1 rest,
      (passes _ _ spelled).2 rest follows⟩
  later := fun blank blank' spelled _ rest follows => by
    refine ⟨_, nextSkippedElement_later blank _, ?_⟩
    rw [skipsBlanks_skipWithin bound blank']
    exact (passes _ _ spelled).2 rest follows

theorem rounds_skippedMembers :
    Rounds nextSkippedMember (fun _ => do skipText; colon; skipWithin bound) '\x7d'
      (SpelledMember spelled) fun _ _ => .ok () := by
  have passed {k behind behind' s rest : List Char} {key : String} {v : Value}
      (chars : SpelledChars key.toList k) (blank : Blanks behind) (blank' : Blanks behind')
      (spelled : spelled v s) (follows : Follows rest) :
      (do skipText; colon; skipWithin bound)
        (k ++ '"' :: (behind ++ ':' :: (behind' ++ (s ++ rest)))) = .ok ((), rest) := by
    rw [bind_of_ok (skipText_of_spelled chars _), bind_of_ok (colon_of_blanks blank _),
      skipsBlanks_skipWithin bound blank']
    exact (passes v s spelled).2 rest follows
  refine { stop := nextSkippedMember_stop, first := ?_, later := ?_ }
  · rintro _ before _ blank ⟨⟨k, chars, rfl⟩, blank₁, blank₂, spelled⟩ - rest follows
    simp only [List.append_assoc, List.cons_append, List.nil_append]
    exact ⟨_, nextSkippedMember_first blank _, passed chars blank₁ blank₂ spelled follows⟩
  · rintro _ before behind _ blank blank' ⟨⟨k, chars, rfl⟩, blank₁, blank₂, spelled⟩ - rest follows
    simp only [List.append_assoc, List.cons_append, List.nil_append]
    exact ⟨_, nextSkippedMember_later blank blank' _, passed chars blank₁ blank₂ spelled follows⟩

end Lists

/-- A list whose items are all passed over is passed over. -/
theorem bounded_listing_of_skipped {next : Bool → Reader Bool} {step : Unit → Reader Unit}
    {close : Char} {spelled : α → List Char → Prop} {items : List α} {body : List Char}
    (rounds : Rounds next step close spelled fun _ _ => .ok ()) (closes : canFollow close = true)
    (listing : Listing spelled items body) (rest : List Char) :
    bounded (fun bound => foldWhile next step bound true ()) (body ++ close :: rest) =
      .ok ((), rest) := by
  have skipped : items.foldlM (fun _ _ => .ok ()) () = (.ok () : Except Problem Unit) :=
    List.foldlM_pure
  rw [bounded_listing rounds closes listing, skipped]
  rfl

/-- A value is passed over as soon as the bound is longer than its text. -/
theorem skipWithin_of_spelled {depth : Nat} {v : Value} {s bound : List Char}
    (spelled : Spelled depth v s) (enough : s.length < bound.length) :
    Takes (skipWithin bound) s (.ok ()) := by
  induction depth generalizing v s bound with
  | zero =>
      cases bound with
      | nil => cases enough
      | cons b bound =>
          rcases cases_of_spelled spelled with scalar | ⟨_, _, _, impossible, -⟩ |
            ⟨_, _, _, impossible, -⟩
          · exact skipWithin_scalar scalar b bound
          · cases impossible
          · cases impossible
  | succ depth ih =>
      cases bound with
      | nil => cases enough
      | cons b bound =>
          -- Behind the brackets one character of the bound is gone, but two of the text.
          have passes {body : List Char} (room : body.length < bound.length) (v : Value)
              (s : List Char) (inner : Spelled depth v s ∧ s.length ≤ body.length) :
              Starts s ∧ Takes (skipWithin bound) s (.ok ()) :=
            ⟨starts_of_spelled inner.1, ih inner.1 (Nat.lt_of_le_of_lt inner.2 room)⟩
          rcases cases_of_spelled spelled with scalar | ⟨_, items, body, ⟨⟩, rfl, listing, rfl⟩ |
            ⟨_, members, body, ⟨⟩, rfl, listing, rfl⟩
          · exact skipWithin_scalar scalar b bound
          · intro rest follows
            have room : body.length < bound.length := by
              simp only [List.length_cons, List.length_append, List.length_nil] at enough
              omega
            have within := listing.inside.mono fun v t inner => And.intro inner.1 inner.2.2
            simp only [List.cons_append, List.append_assoc, List.nil_append]
            rw [skipWithin_array]
            exact bounded_listing_of_skipped (rounds_skippedElements (passes room)) (by decide)
              within rest
          · intro rest follows
            have room : body.length < bound.length := by
              simp only [List.length_cons, List.length_append, List.length_nil] at enough
              omega
            have within := listing.inside.mono fun member t inner =>
              inner.1.within inner.2.2
            simp only [List.cons_append, List.append_assoc, List.nil_append]
            rw [skipWithin_object]
            exact bounded_listing_of_skipped (rounds_skippedMembers (passes room)) (by decide)
              within rest

/-- Any value is passed over, with the blanks in front of it. -/
theorem skipValue_of_spelled {depth : Nat} {v : Value} {before s rest : List Char}
    (blank : Blanks before) (spelled : Spelled depth v s) (follows : Follows rest) :
    skipValue (before ++ (s ++ rest)) = .ok ((), rest) := by
  rw [skipValue, bounded, skipsBlanks_skipWithin _ blank]
  refine skipWithin_of_spelled spelled ?_ rest follows
  simp only [List.length_cons, List.length_append]
  omega

end Reader

end EarlyResolution.Json
