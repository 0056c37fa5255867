import EarlyResolution.Proofs.Json.Literals

/-!
# Readers take what the grammar says

A reader takes a spelled value from the front of a text and leaves what stands behind it,
whatever that is, as long as it starts with something that can follow a value.  A loop
over a list comes to what its step comes to item by item.
-/

namespace EarlyResolution.Json

namespace Reader

/-! ## Lists -/

/--
One round of a loop over a list that ends in `close`: the loop stops there, and at an item,
whether the first or behind a comma, the step takes it and comes to what `act` says.
-/
structure Rounds (next : Bool → Reader Bool) (step : σ → Reader σ) (close : Char)
    (spelled : α → List Char → Prop) (act : σ → α → Except Problem σ) : Prop where
  stop : ∀ {before : List Char} (_ : Blanks before) (first : Bool) (rest : List Char),
    next first (before ++ close :: rest) = .ok (false, rest)
  first : ∀ {a : α} {before s : List Char} (_ : Blanks before) (_ : spelled a s) (state : σ)
    {rest : List Char} (_ : Follows rest),
    ∃ t, next true (before ++ (s ++ rest)) = .ok (true, t) ∧
      step state t = (act state a).map fun state => (state, rest)
  later : ∀ {a : α} {before behind s : List Char} (_ : Blanks before) (_ : Blanks behind)
    (_ : spelled a s) (state : σ) {rest : List Char} (_ : Follows rest),
    ∃ t, next false (before ++ ',' :: (behind ++ (s ++ rest))) = .ok (true, t) ∧
      step state t = (act state a).map fun state => (state, rest)

/-- What stands behind an item can follow a value. -/
theorem follows_listed {spelled : α → List Char → Prop} {items : List α} {s : List Char}
    (listed : Listed spelled items s) {close : Char} (closes : canFollow close = true)
    (rest : List Char) : Follows (s ++ close :: rest) := by
  have blankOr {before t : List Char} (blank : Blanks before) (follows : Follows t) :
      Follows (before ++ t) := by
    cases before with
    | nil => exact follows
    | cons c before =>
        rintro _ ⟨⟩
        simp [canFollow, blank c List.mem_cons_self]
  cases listed with
  | nil blank =>
      apply blankOr blank
      rintro _ ⟨⟩
      exact closes
  | cons blank blank' first others =>
      rw [List.append_assoc]
      apply blankOr blank
      rintro _ ⟨⟩
      rfl

section Loops

variable {next : Bool → Reader Bool} {step : σ → Reader σ}

theorem foldWhile_stop {first : Bool} {s rest : List Char} (stop : next first s = .ok (false, rest))
    (c : Char) (bound : List Char) (state : σ) :
    foldWhile next step (c :: bound) first state s = .ok (state, rest) := by
  rw [foldWhile, bind_of_ok stop]
  rfl

theorem foldWhile_more {first : Bool} {s t rest : List Char} {state : σ}
    {outcome : Except Problem σ} (more : next first s = .ok (true, t))
    (stepped : step state t = outcome.map fun state => (state, rest)) (c : Char)
    (bound : List Char) :
    foldWhile next step (c :: bound) first state s =
      outcome.bind fun state => foldWhile next step bound false state rest := by
  rw [foldWhile, bind_of_ok more, if_pos rfl, bind_apply, stepped]
  cases outcome <;> rfl

variable {close : Char} {spelled : α → List Char → Prop} {act : σ → α → Except Problem σ}
  {items : List α} {s : List Char}

theorem foldWhile_listed (rounds : Rounds next step close spelled act)
    (closes : canFollow close = true) (listed : Listed spelled items s) {bound : List Char}
    (enough : items.length < bound.length) (state : σ) (rest : List Char) :
    foldWhile next step bound false state (s ++ close :: rest) =
      (items.foldlM act state).map fun state => (state, rest) := by
  -- Each round takes one item and one character of the bound, which only has to be the longer.
  induction listed generalizing bound state with
  | nil blank =>
      cases bound with
      | nil => cases enough
      | cons c bound => exact foldWhile_stop (rounds.stop blank false rest) c bound state
  | cons blank blank' first others ih =>
      cases bound with
      | nil => cases enough
      | cons c bound =>
          obtain ⟨t, more, stepped⟩ :=
            rounds.later blank blank' first state (follows_listed others closes rest)
          simp only [List.append_assoc, List.cons_append]
          rw [foldWhile_more more stepped, List.foldlM_cons]
          cases act state _ with
          | error problem => rfl
          | ok state => exact ih (Nat.lt_of_succ_lt_succ enough) state

theorem foldWhile_listing (rounds : Rounds next step close spelled act)
    (closes : canFollow close = true) (listing : Listing spelled items s) {bound : List Char}
    (enough : items.length < bound.length) (state : σ) (rest : List Char) :
    foldWhile next step bound true state (s ++ close :: rest) =
      (items.foldlM act state).map fun state => (state, rest) := by
  cases bound with
  | nil => cases enough
  | cons c bound =>
      cases listing with
      | nil blank => exact foldWhile_stop (rounds.stop blank true rest) c bound state
      | cons blank first others =>
          obtain ⟨t, more, stepped⟩ :=
            rounds.first blank first state (follows_listed others closes rest)
          simp only [List.append_assoc]
          rw [foldWhile_more more stepped, List.foldlM_cons]
          cases act state _ with
          | error problem => rfl
          | ok state =>
              exact foldWhile_listed rounds closes others (Nat.lt_of_succ_lt_succ enough) state rest

theorem length_le_of_listed (listed : Listed spelled items s) : items.length ≤ s.length := by
  induction listed with
  | nil blank => exact Nat.zero_le _
  | cons blank blank' first others ih =>
      simp only [List.length_append, List.length_cons]
      omega

/-- Every item but the first takes its comma, so a loop has rounds enough. -/
theorem length_le_of_listing (listing : Listing spelled items s) :
    items.length ≤ s.length + 1 := by
  cases listing with
  | nil blank => exact Nat.zero_le _
  | cons blank first others =>
      have := length_le_of_listed others
      simp only [List.length_append, List.length_cons]
      omega

/-- A loop over a list comes to what its step comes to item by item. -/
theorem bounded_listing (rounds : Rounds next step close spelled act)
    (closes : canFollow close = true) (listing : Listing spelled items s) (state : σ)
    (rest : List Char) :
    bounded (fun bound => foldWhile next step bound true state) (s ++ close :: rest) =
      (items.foldlM act state).map fun state => (state, rest) := by
  refine foldWhile_listing rounds closes listing ?_ state rest
  have := length_le_of_listing listing
  simp only [List.length_cons, List.length_append]
  omega

end Loops

/-! ## Arrays -/

/-- The text starts with something that is neither a blank nor the end of an array. -/
def Starts (s : List Char) : Prop :=
  ∃ c t, s = c :: t ∧ isBlank c = false ∧ c ≠ ']'

theorem nextElement_stop {before : List Char} (blank : Blanks before) (first : Bool)
    (rest : List Char) : nextElement first (before ++ ']' :: rest) = .ok (false, rest) := by
  rw [nextElement, skipsBlanks_peek_bind _ blank, peek_bind_cons (by decide)]
  rfl

theorem nextElement_first {before s : List Char} (blank : Blanks before) (starts : Starts s)
    (rest : List Char) : nextElement true (before ++ (s ++ rest)) = .ok (true, s ++ rest) := by
  obtain ⟨c, t, rfl, dark, other⟩ := starts
  rw [nextElement, skipsBlanks_peek_bind _ blank, List.cons_append, peek_bind_cons dark]
  simp

theorem nextElement_later {before behind s : List Char} (blank : Blanks before)
    (blank' : Blanks behind) (starts : Starts s) (rest : List Char) :
    nextElement false (before ++ ',' :: (behind ++ (s ++ rest))) = .ok (true, s ++ rest) := by
  obtain ⟨c, t, rfl, dark, other⟩ := starts
  rw [nextElement, skipsBlanks_peek_bind _ blank, peek_bind_cons (by decide)]
  change (drop >>= fun _ => peek >>= _) _ = _
  rw [drop_bind_cons, skipsBlanks_peek_bind _ blank', List.cons_append, peek_bind_cons dark]
  simp

/-- An item that is read is put in front of those before it. -/
theorem push_of_takes {item : Reader α} {s rest : List Char} {outcome : Except Problem α}
    (takes : Takes item s outcome) (follows : Follows rest) (items : List α) :
    (do return (← item) :: items : Reader (List α)) (s ++ rest) =
      (outcome.map (· :: items)).map fun items => (items, rest) := by
  change (item >>= fun a => pure (a :: items)) _ = _
  rw [bind_apply, takes rest follows]
  cases outcome <;> rfl

theorem elements_listing {item : Reader α} {spelled : β → List Char → Prop}
    {decode : β → Except Problem α}
    (takes : ∀ b s, spelled b s → Starts s ∧ Takes item s (decode b)) {items : List β}
    {body : List Char} (listing : Listing spelled items body) (rest : List Char) :
    elements item (body ++ ']' :: rest) = (items.mapM decode).map fun items => (items, rest) := by
  have rounds : Rounds nextElement (fun items => do return (← item) :: items) ']' spelled
      fun items b => (decode b).map (· :: items) :=
    { stop := nextElement_stop
      first := fun blank spelled items _ follows =>
        ⟨_, nextElement_first blank (takes _ _ spelled).1 _,
          push_of_takes (takes _ _ spelled).2 follows items⟩
      later := fun blank blank' spelled items _ follows =>
        ⟨_, nextElement_later blank blank' (takes _ _ spelled).1 _,
          push_of_takes (takes _ _ spelled).2 follows items⟩ }
  have gathered : items.mapM decode =
      Except.map List.reverse (items.foldlM (fun items b => (decode b).map (· :: items)) []) :=
    List.mapM_eq_reverse_foldlM_cons
  rw [elements, bind_apply, bounded_listing rounds (by decide) listing, gathered]
  cases (items.foldlM _ [] : Except Problem (List α)) <;> rfl

/-! ## Objects -/

theorem nextMember_stop {before : List Char} (blank : Blanks before) (first : Bool)
    (rest : List Char) : nextMember first (before ++ '\x7d' :: rest) = .ok (false, rest) := by
  rw [nextMember, skipsBlanks_peek_bind _ blank, peek_bind_cons (by decide)]
  rfl

theorem nextMember_first {before : List Char} (blank : Blanks before) (s : List Char) :
    nextMember true (before ++ '"' :: s) = .ok (true, s) := by
  rw [nextMember, skipsBlanks_peek_bind _ blank, peek_bind_cons (by decide)]
  rfl

theorem nextMember_later {before behind : List Char} (blank : Blanks before)
    (blank' : Blanks behind) (s : List Char) :
    nextMember false (before ++ ',' :: (behind ++ '"' :: s)) = .ok (true, s) := by
  rw [nextMember, skipsBlanks_peek_bind _ blank, peek_bind_cons (by decide)]
  change (drop >>= fun _ => peek >>= _) _ = _
  rw [drop_bind_cons, skipsBlanks_peek_bind _ blank', peek_bind_cons (by decide)]
  rfl

theorem colon_of_blanks {before : List Char} (blank : Blanks before) (s : List Char) :
    colon (before ++ ':' :: s) = .ok ((), s) := by
  rw [colon, skipsBlanks_peek_bind _ blank, peek_bind_cons (by decide)]
  rfl

/-- What stands behind a colon is read with blanks around the colon skipped. -/
theorem colon_of_takes {reader : Reader β} {before behind s rest : List Char}
    {outcome : Except Problem β} (blank : Blanks before) (blank' : Blanks behind)
    (skips : SkipsBlanks reader) (takes : Takes reader s outcome) (follows : Follows rest)
    (f : β → α) :
    (do colon; return f (← reader) : Reader α) (before ++ ':' :: (behind ++ (s ++ rest))) =
      (outcome.map f).map fun a => (a, rest) := by
  rw [bind_of_ok (colon_of_blanks blank _)]
  change (reader >>= fun b => pure (f b)) _ = _
  rw [bind_apply, skips blank', takes rest follows]
  cases outcome <;> rfl

/-- A fold over members comes to what it makes of each of them, one after the other. -/
theorem foldMembers_listing_of_mem {member : σ → String → Reader σ}
    {spelled : Value → List Char → Prop} {act : σ → String × Value → Except Problem σ}
    {members : List (String × Value)} {body : List Char}
    (takes : ∀ {key : String} {v : Value} {before behind s rest : List Char}
      (_ : (key, v) ∈ members) (_ : Blanks before) (_ : Blanks behind) (_ : spelled v s)
      (_ : Follows rest) (state : σ),
      member state key (before ++ ':' :: (behind ++ (s ++ rest))) =
        (act state (key, v)).map fun state => (state, rest))
    (listing : Listing (SpelledMember spelled) members body) (start : σ) (rest : List Char) :
    foldMembers member start (body ++ '\x7d' :: rest) =
      (members.foldlM act start).map fun state => (state, rest) := by
  have rounds : Rounds nextMember (fun state => do member state (← text)) '\x7d'
      (fun pair t => SpelledMember spelled pair t ∧ pair ∈ members ∧ t.length ≤ body.length)
      act := by
    refine { stop := nextMember_stop, first := ?_, later := ?_ }
    · rintro _ before _ blank ⟨⟨⟨k, literal, rfl⟩, blank', blank'', spelled⟩, found, -⟩ state rest
        follows
      simp only [List.append_assoc, List.cons_append, List.nil_append]
      refine ⟨_, nextMember_first blank _, ?_⟩
      rw [bind_of_ok (text_of_spelled literal _)]
      exact takes found blank' blank'' spelled follows state
    · rintro _ before behind _ blank blank₂ ⟨⟨⟨k, literal, rfl⟩, blank', blank'', spelled⟩, found, -⟩
        state rest follows
      simp only [List.append_assoc, List.cons_append, List.nil_append]
      refine ⟨_, nextMember_later blank blank₂ _, ?_⟩
      rw [bind_of_ok (text_of_spelled literal _)]
      exact takes found blank' blank'' spelled follows state
  exact bounded_listing rounds (by decide) listing.inside start rest

theorem foldMembers_listing {member : σ → String → Reader σ} {spelled : Value → List Char → Prop}
    {act : σ → String × Value → Except Problem σ}
    (takes : ∀ {key : String} {v : Value} {before behind s rest : List Char} (_ : Blanks before)
      (_ : Blanks behind) (_ : spelled v s) (_ : Follows rest) (state : σ),
      member state key (before ++ ':' :: (behind ++ (s ++ rest))) =
        (act state (key, v)).map fun state => (state, rest))
    {members : List (String × Value)} {body : List Char}
    (listing : Listing (SpelledMember spelled) members body) (start : σ) (rest : List Char) :
    foldMembers member start (body ++ '\x7d' :: rest) =
      (members.foldlM act start).map fun state => (state, rest) :=
  foldMembers_listing_of_mem (fun _ => takes) listing start rest

/-! ## Values -/

/-- A value of some depth is a scalar, an array or an object. -/
theorem cases_of_spelled {depth : Nat} {v : Value} {s : List Char} (spelled : Spelled depth v s) :
    SpelledScalar v s ∨
      (∃ inner items body, depth = inner + 1 ∧ v = .sequence items ∧
        Listing (Spelled inner) items body ∧ s = '[' :: (body ++ [']'])) ∨
      ∃ inner members body, depth = inner + 1 ∧ v = .object members ∧
        Listing (SpelledMember (Spelled inner)) members body ∧
          s = '\x7b' :: (body ++ ['\x7d']) := by
  rw [Spelled.eq_def] at spelled
  split at spelled
  case h_1 inner items =>
      obtain ⟨body, listing, same⟩ := spelled
      exact .inr (.inl ⟨inner, items, body, rfl, rfl, listing, same⟩)
  case h_2 inner members =>
      obtain ⟨body, listing, same⟩ := spelled
      exact .inr (.inr ⟨inner, members, body, rfl, rfl, listing, same⟩)
  case h_3 => exact .inl spelled

def OpensNumeral (c : Char) : Prop :=
  c = '-' ∨ c.isDigit = true

theorem opens_of_spelledNumeral {x : Numeral} {s : List Char} (spelled : SpelledNumeral x s) :
    ∃ c t, s = c :: t ∧ OpensNumeral c := by
  obtain ⟨signed, digits, -, -⟩ := spelled
  obtain ⟨⟨some, all, -⟩, -⟩ := digits
  rw [signed]
  split
  · exact ⟨'-', _, rfl, .inl rfl⟩
  · obtain ⟨c, t, rfl⟩ := List.exists_cons_of_ne_nil some
    exact ⟨c, _, rfl, .inr (all c List.mem_cons_self)⟩

namespace OpensNumeral

variable {c : Char} (opens : OpensNumeral c)
include opens

/-- The first character of a numeral tells it from any other token. -/
theorem ne {d : Char} (minus : d ≠ '-') (other : d.isDigit = false) : c ≠ d := by
  rintro rfl
  rcases opens with same | digit
  · exact minus same
  · rw [other] at digit
    cases digit

theorem isBlank_eq_false : isBlank c = false := by
  simp only [isBlank, Bool.or_eq_false_iff, beq_eq_false_iff_ne]
  refine ⟨⟨⟨?_, ?_⟩, ?_⟩, ?_⟩ <;> exact opens.ne (by decide) (by decide)

end OpensNumeral

theorem starts_of_spelled {depth : Nat} {v : Value} {s : List Char} (spelled : Spelled depth v s) :
    Starts s := by
  rcases cases_of_spelled spelled with scalar | ⟨_, _, body, -, -, -, rfl⟩ |
    ⟨_, _, body, -, -, -, rfl⟩
  · cases scalar with
    | null => exact ⟨_, _, rfl, by decide, by decide⟩
    | true => exact ⟨_, _, rfl, by decide, by decide⟩
    | false => exact ⟨_, _, rfl, by decide, by decide⟩
    | number numeral within =>
        obtain ⟨c, t, rfl, opens⟩ := opens_of_spelledNumeral numeral
        exact ⟨c, t, rfl, opens.isBlank_eq_false, opens.ne (by decide) (by decide)⟩
    | text literal =>
        obtain ⟨body, -, rfl⟩ := literal
        exact ⟨_, _, rfl, by decide, by decide⟩
  · exact ⟨_, _, rfl, by decide, by decide⟩
  · exact ⟨_, _, rfl, by decide, by decide⟩

theorem valueWith_numeral {c : Char} (opens : OpensNumeral c) (array object : Reader Value)
    (s : List Char) :
    valueWith array object (c :: s) = (number >>= fun n => pure (Value.number n)) (c :: s) := by
  have numeric : (c = '-' || c.isDigit) = true := by
    simpa [OpensNumeral] using opens
  -- None of the characters that the reader looks for before it tries a number.
  have := opens.ne (show 'n' ≠ '-' by decide) (by decide)
  have := opens.ne (show 't' ≠ '-' by decide) (by decide)
  have := opens.ne (show 'f' ≠ '-' by decide) (by decide)
  have := opens.ne (show '"' ≠ '-' by decide) (by decide)
  have := opens.ne (show '[' ≠ '-' by decide) (by decide)
  have := opens.ne (show '\x7b' ≠ '-' by decide) (by decide)
  rw [valueWith, peek_bind_cons opens.isBlank_eq_false]
  simp only [if_pos numeric]

theorem valueWith_scalar {v : Value} {s : List Char} (spelled : SpelledScalar v s)
    (array object : Reader Value) : Takes (valueWith array object) s (.ok v) := by
  intro rest follows
  cases spelled with
  | null => rfl
  | true => rfl
  | false => rfl
  | number numeral within =>
      have taken := number_of_spelled numeral within follows
      obtain ⟨c, t, rfl, opens⟩ := opens_of_spelledNumeral numeral
      rw [List.cons_append, valueWith_numeral opens, ← List.cons_append, bind_of_ok taken]
      rfl
  | text literal =>
      obtain ⟨body, chars, rfl⟩ := literal
      simp only [List.cons_append, List.append_assoc, List.nil_append]
      rw [valueWith, peek_bind_cons (by decide)]
      change (drop >>= fun _ => text >>= fun t => pure (Value.text t)) _ = _
      rw [drop_bind_cons, bind_of_ok (text_of_spelled chars rest)]
      rfl

/-- An array is read in one way, whatever may stand before and in it. -/
theorem valueWith_array (array object : Reader Value) (s : List Char) :
    valueWith array object ('[' :: s) = array s := by
  rw [valueWith, peek_bind_cons (by decide)]
  rfl

theorem valueWith_object (array object : Reader Value) (s : List Char) :
    valueWith array object ('\x7b' :: s) = object s := by
  rw [valueWith, peek_bind_cons (by decide)]
  rfl

theorem skipsBlanks_valueWith (array object : Reader Value) :
    SkipsBlanks (valueWith array object) :=
  skipsBlanks_peek_bind _

theorem skipsBlanks_value (depth : Nat) : SkipsBlanks (value depth) := by
  cases depth <;> exact skipsBlanks_valueWith _ _

theorem elements_of_spelled {depth : Nat} {items : List Value} {body : List Char}
    (takes : ∀ v s, Spelled depth v s → Starts s ∧ Takes (value depth) s (.ok v))
    (listing : Listing (Spelled depth) items body) (rest : List Char) :
    elements (value depth) (body ++ ']' :: rest) = .ok (items, rest) := by
  have kept : items.mapM (fun v => (.ok v : Except Problem Value)) = .ok items := by
    have kept := List.mapM_pure (m := Except Problem) (l := items) (f := fun v => v)
    rwa [List.map_id'] at kept
  rw [elements_listing takes listing, kept]
  rfl

theorem members_of_spelled {depth : Nat} {members : List (String × Value)} {body : List Char}
    (takes : ∀ v s, Spelled depth v s → Takes (value depth) s (.ok v))
    (listing : Listing (SpelledMember (Spelled depth)) members body) (rest : List Char) :
    foldMembers (fun members key => do colon; return (key, ← value depth) :: members) []
      (body ++ '\x7d' :: rest) = .ok (members.reverse, rest) := by
  have kept : members.foldlM (fun members (member : String × Value) => .ok (member :: members)) [] =
      (.ok members.reverse : Except Problem _) := by
    have kept := List.foldlM_pure (m := Except Problem) (l := members) (b := [])
      (f := fun members (member : String × Value) => member :: members)
    rwa [List.foldl_flip_cons_eq_append', List.append_nil] at kept
  refine (foldMembers_listing ?_ listing [] rest).trans (congrArg _ kept)
  intro key v before behind s rest blank blank' spelled follows members
  exact colon_of_takes blank blank' (skipsBlanks_value depth) (takes v s spelled) follows
    fun v => (key, v) :: members

/-- The reader takes every value that is nested no deeper than it allows. -/
theorem value_of_spelled {depth : Nat} {v : Value} {s : List Char} (spelled : Spelled depth v s) :
    Takes (value depth) s (.ok v) := by
  induction depth generalizing v s with
  | zero =>
      rcases cases_of_spelled spelled with scalar | ⟨_, _, _, impossible, -⟩ |
        ⟨_, _, _, impossible, -⟩
      · exact valueWith_scalar scalar _ _
      · cases impossible
      · cases impossible
  | succ depth ih =>
      rcases cases_of_spelled spelled with scalar | ⟨_, items, body, ⟨⟩, rfl, listing, rfl⟩ |
        ⟨_, members, body, ⟨⟩, rfl, listing, rfl⟩
      · exact valueWith_scalar scalar _ _
      · intro rest follows
        have takes (v : Value) (s : List Char) (spelled : Spelled depth v s) :
            Starts s ∧ Takes (value depth) s (.ok v) :=
          ⟨starts_of_spelled spelled, ih spelled⟩
        simp only [List.cons_append, List.append_assoc, List.nil_append]
        rw [value, valueWith_array, bind_of_ok (elements_of_spelled takes listing rest)]
        rfl
      · intro rest follows
        have takes (v : Value) (s : List Char) (spelled : Spelled depth v s) :
            Takes (value depth) s (.ok v) := ih spelled
        simp only [List.cons_append, List.append_assoc, List.nil_append]
        rw [value, valueWith_object, bind_of_ok (members_of_spelled takes listing rest),
          List.reverse_reverse]
        rfl

/-! ## Scalars and whole texts -/

theorem fit_apply (outcome : Except Mismatch α) (s : List Char) :
    fit outcome s = (outcome.mapError Problem.unsuited).map fun a => (a, s) := by
  cases outcome <;> rfl

/-- A reader of scalars comes to what it takes of any value, arrays and objects included. -/
theorem takes_scalar {expected : String} {take : Value → Except Mismatch α}
    (noArray : ∀ items, take (.sequence items) = .error (.invalidType .sequence expected))
    (noObject : ∀ members, take (.object members) = .error (.invalidType .map expected))
    {depth : Nat} {v : Value} {s : List Char} (spelled : Spelled depth v s) :
    Takes (scalar expected take) s ((take v).mapError Problem.unsuited) := by
  intro rest follows
  rcases cases_of_spelled spelled with plain | ⟨_, items, body, -, rfl, -, rfl⟩ |
    ⟨_, members, body, -, rfl, -, rfl⟩
  · rw [scalar, bind_of_ok (valueWith_scalar plain _ _ rest follows), fit_apply]
  · rw [scalar, List.cons_append, bind_apply, valueWith_array, noArray]
    rfl
  · rw [scalar, List.cons_append, bind_apply, valueWith_object, noObject]
    rfl

theorem skipsBlanks_scalar (expected : String) (take : Value → Except Mismatch α) :
    SkipsBlanks (scalar expected take) :=
  SkipsBlanks.bind (skipsBlanks_valueWith _ _) _

theorem follows_of_blanks {rest : List Char} (blank : Blanks rest) : Follows rest := by
  intro c first
  simp [canFollow, blank c (List.mem_of_mem_head? first)]

theorem run_of_blanks {reader : Reader α} {text : String} {outcome : Except Problem α}
    {rest : List Char} (read : reader text.toList = outcome.map fun a => (a, rest))
    (blank : Blanks rest) : run reader text = outcome := by
  rw [run, read]
  cases outcome with
  | error problem => rfl
  | ok a => exact if_pos (List.all_eq_true.mpr blank)

end Reader

end EarlyResolution.Json
