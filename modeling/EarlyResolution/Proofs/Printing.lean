import EarlyResolution.CommandLine.Run
import EarlyResolution.Proofs.Rounding

/-!
# What a finished replay prints

Every line of the output is written out here as it is printed, in text and as JSON, with the
total or counter that it shows.  In the text the counts stand in one column, and a section is
there if it was asked for or none was.  The JSON object holds all counts whatever was asked
for, one to a line, with the keys of every object in order.
-/

namespace EarlyResolution

open Json (Spacing Value)

def unlines (lines : List String) : String :=
  String.join (lines.map (· ++ "\n"))

theorem unlines_cons (line : String) (lines : List String) :
    unlines (line :: lines) = line ++ "\n" ++ unlines lines := by
  simp [unlines]

theorem unlines_append (lines others : List String) :
    unlines (lines ++ others) = unlines lines ++ unlines others := by
  simp [unlines]

theorem toList_unlines (lines : List String) :
    (unlines lines).toList = lines.flatMap fun line => line.toList ++ ['\n'] := by
  simp [unlines, List.flatMap_map]

/-! ## The lines of the text -/

/-- The share of a part in the whole, zero where the whole is nothing, with six places. -/
def share (part whole : Nat) : String :=
  Decimal.rounded 6 (if whole = 0 then 0 else part.toFloat / whole.toFloat)

def Report.lines (report : Report) : List String := [
  "events                   " ++ toString report.events,
  "loads_predicted          " ++ toString report.loadsPredicted,
  "value_squashes           " ++ toString report.valueSquashes,
  "simplified               " ++ toString report.simplified]

def LoadCounters.lines (counters : LoadCounters) : List String := [
  "LOAD VALUE PREDICTION",
  "  lvp.predictions        " ++ toString counters.predictions,
  "  lvp.predCorrect        " ++ toString counters.correct,
  "  lvp.predIncorrect      " ++ toString counters.incorrect,
  "  lvp.predNotConfident   " ++ toString counters.notConfident,
  "  lvp.squashes           " ++ toString counters.squashes,
  "  lvp.accuracy           " ++ share counters.correct counters.predictions,
  "  lvp.coverage           " ++
    share counters.predictions (counters.predictions + counters.notConfident),
  "----------------------------------------------------------"]

def SimplifyCounters.lines (counters : SimplifyCounters) : List String := [
  "COMPUTATION SIMPLIFICATION",
  "  compSimp.candidates    " ++ toString counters.candidates,
  "  compSimp.simplified    " ++ toString counters.simplified,
  "  compSimp.coverage      " ++ share counters.simplified counters.candidates,
  "  compSimp.multByZero    " ++ toString counters.multByZero,
  "  compSimp.multByOne     " ++ toString counters.multByOne,
  "  compSimp.divOfZero     " ++ toString counters.divOfZero,
  "  compSimp.divByOne      " ++ toString counters.divByOne,
  "  compSimp.ctSuppressed  " ++ toString counters.ctSuppressed,
  "----------------------------------------------------------"]

/-- A section is shown if it is asked for or none is, whatever the order they are asked in. -/
def Counters.lines (counters : Counters) (asked : List String) : List String :=
  ["==========================================================",
    "ACCELERATOR STATISTICS",
    "=========================================================="] ++
  (if asked = [] ∨ "lvp" ∈ asked then counters.loads.lines else []) ++
  (if asked = [] ∨ "simplifier" ∈ asked then counters.simplifier.lines else [])

/-! ## The lines of the JSON object -/

/-- Counts under their keys, one to a line, with a comma behind each but the last. -/
def memberLines (indent : String) : List (String × Nat) → List String
  | [] => []
  | [(key, n)] => [indent ++ "\"" ++ key ++ "\": " ++ toString n]
  | (key, n) :: members =>
      (indent ++ "\"" ++ key ++ "\": " ++ toString n ++ ",") :: memberLines indent members

def Report.members (report : Report) : List (String × Nat) := [
  ("events", report.events),
  ("loads_predicted", report.loadsPredicted),
  ("simplified", report.simplified),
  ("value_squashes", report.valueSquashes)]

def LoadCounters.members (counters : LoadCounters) : List (String × Nat) := [
  ("pred_correct", counters.correct),
  ("pred_incorrect", counters.incorrect),
  ("pred_not_confident", counters.notConfident),
  ("predictions", counters.predictions),
  ("squashes", counters.squashes)]

def SimplifyCounters.members (counters : SimplifyCounters) : List (String × Nat) := [
  ("candidates", counters.candidates),
  ("ct_suppressed", counters.ctSuppressed),
  ("div_by_one", counters.divByOne),
  ("div_of_zero", counters.divOfZero),
  ("mult_by_one", counters.multByOne),
  ("mult_by_zero", counters.multByZero),
  ("simplified", counters.simplified)]

def jsonLines (report : Report) (counters : Counters) : List String :=
  ["\x7b", "  \"report\": \x7b"] ++ memberLines "    " report.members ++
  ["  \x7d,", "  \"stats\": \x7b", "    \"lvp\": \x7b"] ++
  memberLines "      " counters.loads.members ++
  ["    \x7d,", "    \"simplifier\": \x7b"] ++
  memberLines "      " counters.simplifier.members ++ ["    \x7d", "  \x7d", "\x7d"]

def CommandLine.Options.printed (options : Options) (report : Report) (counters : Counters) :
    String :=
  unlines <|
    if options.json then jsonLines report counters
    else report.lines ++ counters.lines options.sections

/-! ## The text is what is printed -/

theorem reportRow_ofList (name : List Char) (value : String) :
    reportRow (String.ofList name) value =
      String.ofList (name ++ List.replicate (25 - name.length) ' ') ++ value ++ "\n" := by
  simp [reportRow]

theorem ofList_line {line text : List Char} (ends : text = line ++ ['\n']) :
    String.ofList text = String.ofList line ++ "\n" := by
  rw [ends, String.ofList_append]

theorem ratio_eq_share (part whole : Nat) : Decimal.fixed 6 (ratio part whole) = share part whole :=
  Decimal.fixed_eq_rounded 6 _

section Lines

variable {line first text : String} {lines : List String}

theorem eq_unlines_singleton (same : first = line ++ "\n") : first = unlines [line] := by
  simp [same, unlines]

theorem append_eq_unlines (same : first = line ++ "\n") (others : text = unlines lines) :
    first ++ text = unlines (line :: lines) := by
  rw [same, others, unlines_cons]

end Lines

theorem Report.render_eq (report : Report) : report.render = unlines report.lines := by
  simp only [render, String.append_assoc]
  refine append_eq_unlines (reportRow_ofList _ _) ?_
  refine append_eq_unlines (reportRow_ofList _ _) ?_
  refine append_eq_unlines (reportRow_ofList _ _) ?_
  exact eq_unlines_singleton (reportRow_ofList _ _)

theorem LoadCounters.render_eq (counters : LoadCounters) :
    counters.render ++ rule '-' = unlines counters.lines := by
  unfold render
  simp only [accuracy, coverage, ratio_eq_share, String.append_assoc]
  refine append_eq_unlines (ofList_line rfl) ?_
  iterate 7 refine append_eq_unlines (reportRow_ofList _ _) ?_
  exact eq_unlines_singleton rfl

theorem SimplifyCounters.render_eq (counters : SimplifyCounters) :
    counters.render ++ rule '-' = unlines counters.lines := by
  unfold render
  simp only [coverage, ratio_eq_share, String.append_assoc]
  refine append_eq_unlines (ofList_line rfl) ?_
  iterate 8 refine append_eq_unlines (reportRow_ofList _ _) ?_
  exact eq_unlines_singleton rfl

theorem Counters.render_eq (counters : Counters) (asked : List String) :
    counters.render asked = unlines (counters.lines asked) := by
  have heading : rule '=' ++ "ACCELERATOR STATISTICS\n" ++ rule '=' = unlines [
      "==========================================================",
      "ACCELERATOR STATISTICS",
      "=========================================================="] := by
    rw [String.append_assoc]
    refine append_eq_unlines rfl ?_
    refine append_eq_unlines (ofList_line rfl) ?_
    exact eq_unlines_singleton rfl
  have loads : counters.renderSection .loads = unlines counters.loads.lines :=
    counters.loads.render_eq
  have issues : counters.renderSection .simplifier = unlines counters.simplifier.lines :=
    counters.simplifier.render_eq
  rw [render, lines, heading, unlines_append, unlines_append, String.append_assoc]
  congr 1
  by_cases wanted : asked = [] ∨ "lvp" ∈ asked <;>
    by_cases wanted' : asked = [] ∨ "simplifier" ∈ asked <;>
      simp [StatsSection.all, StatsSection.name, wanted, wanted', loads, issues, unlines]

/-! ## The object is what is written -/

namespace Json

/-- No character of the text is escaped in a string literal. -/
def Plain (s : String) : Prop :=
  ∀ c ∈ s.toList, writeChar c = [c]

theorem plain_ofList {s : List Char} (plain : (s.all fun c => writeChar c == [c]) = true) :
    Plain (String.ofList s) := by
  rw [Plain, String.toList_ofList]
  intro c found
  exact eq_of_beq (List.all_eq_true.mp plain c found)

theorem writeText_of_plain {s : String} (plain : Plain s) :
    writeText s = '"' :: (s.toList ++ ['"']) := by
  rw [writeText, List.flatMap_congr plain, List.flatMap_singleton']
  rfl

namespace Value

def ofMembers (members : List (String × Nat)) : Value :=
  .object (members.map fun member => (member.1, .ofNat member.2))

theorem writeAt_ofNat (spacing : Spacing) (depth n : Nat) :
    (ofNat n).writeAt spacing depth = (toString n).toList := by
  rw [Nat.toString_eq_ofList_toDigits, String.toList_ofList]
  rfl

theorem writeMembers_later (spacing : Spacing) (depth : Nat) (member : String × Value)
    (members : List (String × Value)) :
    writeMembers spacing depth false (member :: members) =
      ',' :: writeMembers spacing depth true (member :: members) := by
  simp [writeMembers]

variable {depth : Nat} {indent : String}

theorem writeMembers_counts (blanks : indent.toList = List.replicate (2 * (depth + 1)) ' ')
    {members : List (String × Nat)} (some : members ≠ [])
    (plain : ∀ member ∈ members, Plain member.1) :
    writeMembers .indented depth true
        (members.map fun member => (member.1, .ofNat member.2)) =
      '\n' :: ((unlines (memberLines indent members)).toList ++
        List.replicate (2 * depth) ' ') := by
  induction members with
  | nil => contradiction
  | cons member members ih =>
      obtain ⟨key, n⟩ := member
      have quoted := writeText_of_plain (plain _ List.mem_cons_self)
      cases members with
      | nil =>
          simp [writeMembers, memberLines, unlines, quoted, writeAt_ofNat, Spacing.indented, blanks]
      | cons next members =>
          have others := ih (List.cons_ne_nil _ _) fun _ found => plain _ (.tail _ found)
          rw [List.map_cons] at others ⊢
          rw [writeMembers, List.map_cons, writeMembers_later, others]
          simp [memberLines, unlines_cons, quoted, writeAt_ofNat, Spacing.indented, blanks]

theorem writeAt_ofMembers (blanks : indent.toList = List.replicate (2 * (depth + 1)) ' ')
    {members : List (String × Nat)} (some : members ≠ [])
    (plain : ∀ member ∈ members, Plain member.1) :
    (ofMembers members).writeAt .indented depth =
      ['\x7b', '\n'] ++ (unlines (memberLines indent members)).toList ++
        List.replicate (2 * depth) ' ' ++ ['\x7d'] := by
  rw [ofMembers, writeAt, writeMembers_counts blanks some plain]
  simp

theorem writeAt_pair {first second : String} (plain : Plain first) (plain' : Plain second)
    (v w : Value) :
    (object [(first, v), (second, w)]).writeAt .indented depth =
      ['\x7b', '\n'] ++ List.replicate (2 * (depth + 1)) ' ' ++ ['"'] ++ first.toList ++
        ['"', ':', ' '] ++ v.writeAt .indented (depth + 1) ++
        [',', '\n'] ++ List.replicate (2 * (depth + 1)) ' ' ++ ['"'] ++ second.toList ++
        ['"', ':', ' '] ++ w.writeAt .indented (depth + 1) ++
        ['\n'] ++ List.replicate (2 * depth) ' ' ++ ['\x7d'] := by
  simp [writeAt, writeMembers, writeText_of_plain plain, writeText_of_plain plain',
    Spacing.indented]

end Value

end Json

open Json (Plain plain_ofList)

theorem Report.writeAt_toValue (report : Report) :
    report.toValue.sortKeys.writeAt .indented 1 =
      ['\x7b', '\n'] ++ (unlines (memberLines "    " report.members)).toList ++
        List.replicate 2 ' ' ++ ['\x7d'] := by
  have sorted : report.toValue.sortKeys = .ofMembers report.members := by
    simp [toValue, members, Value.ofMembers, Value.sortKeys, Value.sortMembers,
      Value.insertMember, Value.ofNat]
  have plain : ∀ member ∈ report.members, Plain member.1 := by
    simp only [members, List.forall_mem_cons]
    exact ⟨plain_ofList rfl, plain_ofList rfl, plain_ofList rfl, plain_ofList rfl, nofun⟩
  rw [sorted]
  exact Value.writeAt_ofMembers String.toList_ofList (List.cons_ne_nil _ _) plain

theorem LoadCounters.writeAt_toValue (counters : LoadCounters) :
    counters.toValue.sortKeys.writeAt .indented 2 =
      ['\x7b', '\n'] ++ (unlines (memberLines "      " counters.members)).toList ++
        List.replicate 4 ' ' ++ ['\x7d'] := by
  have sorted : counters.toValue.sortKeys = .ofMembers counters.members := by
    simp [toValue, members, Value.ofMembers, Value.sortKeys, Value.sortMembers,
      Value.insertMember, Value.ofNat]
  have plain : ∀ member ∈ counters.members, Plain member.1 := by
    simp only [members, List.forall_mem_cons]
    exact ⟨plain_ofList rfl, plain_ofList rfl, plain_ofList rfl, plain_ofList rfl,
      plain_ofList rfl, nofun⟩
  rw [sorted]
  exact Value.writeAt_ofMembers String.toList_ofList (List.cons_ne_nil _ _) plain

theorem SimplifyCounters.writeAt_toValue (counters : SimplifyCounters) :
    counters.toValue.sortKeys.writeAt .indented 2 =
      ['\x7b', '\n'] ++ (unlines (memberLines "      " counters.members)).toList ++
        List.replicate 4 ' ' ++ ['\x7d'] := by
  have sorted : counters.toValue.sortKeys = .ofMembers counters.members := by
    simp [toValue, members, Value.ofMembers, Value.sortKeys, Value.sortMembers,
      Value.insertMember, Value.ofNat]
  have plain : ∀ member ∈ counters.members, Plain member.1 := by
    simp only [members, List.forall_mem_cons]
    exact ⟨plain_ofList rfl, plain_ofList rfl, plain_ofList rfl, plain_ofList rfl,
      plain_ofList rfl, plain_ofList rfl, plain_ofList rfl, nofun⟩
  rw [sorted]
  exact Value.writeAt_ofMembers String.toList_ofList (List.cons_ne_nil _ _) plain

theorem write_eq_jsonLines (report : Report) (counters : Counters) :
    (Value.object [("report", report.toValue), ("stats", counters.toValue)]).sortKeys.write
        .indented ++ "\n" = unlines (jsonLines report counters) := by
  have sorted :
      (Value.object [("report", report.toValue), ("stats", counters.toValue)]).sortKeys =
        .object [
          ("report", report.toValue.sortKeys),
          ("stats", .object [
            ("lvp", counters.loads.toValue.sortKeys),
            ("simplifier", counters.simplifier.toValue.sortKeys)])] := by
    simp [Counters.toValue, Value.sortKeys, Value.sortMembers, Value.insertMember]
  rw [sorted, ← String.toList_inj, Value.write, String.toList_append, String.toList_ofList,
    Value.writeAt_pair (plain_ofList rfl) (plain_ofList rfl),
    Value.writeAt_pair (plain_ofList rfl) (plain_ofList rfl),
    report.writeAt_toValue, counters.loads.writeAt_toValue, counters.simplifier.writeAt_toValue]
  simp [jsonLines, toList_unlines]

/-- A finished replay prints its totals and counters on the lines that are written out above. -/
theorem CommandLine.Options.output_eq_printed (options : Options) (report : Report)
    (counters : Counters) : options.output report counters = options.printed report counters := by
  unfold output printed
  cases options.json with
  | true => exact write_eq_jsonLines report counters
  | false =>
      simp only [Bool.false_eq_true, if_false]
      rw [report.render_eq, counters.render_eq, unlines_append]

end EarlyResolution
