import EarlyResolution.Config.Reader
import EarlyResolution.Proofs.Json.Records
import EarlyResolution.Proofs.Json.Written
import EarlyResolution.Proofs.Validation

/-!
# A configuration is what its text chooses on top of the defaults

There are six fields in three sections, and a text may choose any of them.  It is read as
the defaults with what is chosen overwritten, and the rules for a usable configuration are
checked on that.  What of a section is not chosen does not show, whether it is left out or
spelled out as it is by default.
-/

namespace EarlyResolution

open Json (Blanks Reader Spelled Takes Value)
open Json.Reader (SkipsBlanks takes_record skipsBlanks_record)
open Json.Reader.Field (reads_of_scalar reads_of_takes)

inductive ConfigSection where
  | general
  | predictor
  | simplifier
  deriving DecidableEq, Repr

def ConfigSection.key : ConfigSection → String
  | general => "general"
  | predictor => "lvp"
  | simplifier => "comp_simplifier"

inductive ConfigField where
  | threads
  | predictorEnabled
  | tableSize
  | threshold
  | confidenceBits
  | simplifierEnabled
  deriving DecidableEq, Repr

namespace ConfigField

def part : ConfigField → ConfigSection
  | threads => .general
  | predictorEnabled | tableSize | threshold | confidenceBits => .predictor
  | simplifierEnabled => .simplifier

def key : ConfigField → String
  | threads => "threads"
  | predictorEnabled | simplifierEnabled => "enabled"
  | tableSize => "table_size"
  | threshold => "confidence_threshold"
  | confidenceBits => "confidence_bits"

abbrev Datum : ConfigField → Type
  | threads | tableSize => UInt64
  | threshold | confidenceBits => UInt32
  | predictorEnabled | simplifierEnabled => Bool

def toValue : (field : ConfigField) → field.Datum → Value
  | threads, word | tableSize, word => .ofWord word
  | threshold, word | confidenceBits, word => .ofNat word.toNat
  | predictorEnabled, flag | simplifierEnabled, flag => .boolean flag

end ConfigField

namespace Config

def get (config : Config) : (field : ConfigField) → field.Datum
  | .threads => config.general.threads
  | .predictorEnabled => config.predictor.enabled
  | .tableSize => config.predictor.tableSize
  | .threshold => config.predictor.threshold
  | .confidenceBits => config.predictor.confidenceBits
  | .simplifierEnabled => config.simplifier.enabled

/-- Any of the fields, each with a datum of its type. -/
abbrev Choice : Type :=
  (field : ConfigField) → Option field.Datum

def overlay (config : Config) (choice : Choice) : Config where
  general := { threads := (choice .threads).getD config.general.threads }
  predictor :=
    { enabled := (choice .predictorEnabled).getD config.predictor.enabled
      tableSize := (choice .tableSize).getD config.predictor.tableSize
      threshold := (choice .threshold).getD config.predictor.threshold
      confidenceBits := (choice .confidenceBits).getD config.predictor.confidenceBits }
  simplifier := { enabled := (choice .simplifierEnabled).getD config.simplifier.enabled }

theorem get_overlay (config : Config) (choice : Choice) (field : ConfigField) :
    (config.overlay choice).get field = (choice field).getD (config.get field) := by
  cases field <;> rfl

theorem get_injective {config other : Config} (same : ∀ field, config.get field = other.get field) :
    config = other := by
  obtain ⟨⟨threads⟩, ⟨enabled, size, threshold, bits⟩, ⟨simplify⟩⟩ := config
  obtain ⟨⟨threads'⟩, ⟨enabled', size', threshold', bits'⟩, ⟨simplify'⟩⟩ := other
  obtain rfl : threads = threads' := same .threads
  obtain rfl : enabled = enabled' := same .predictorEnabled
  obtain rfl : size = size' := same .tableSize
  obtain rfl : threshold = threshold' := same .threshold
  obtain rfl : bits = bits' := same .confidenceBits
  obtain rfl : simplify = simplify' := same .simplifierEnabled
  rfl

end Config

/-! ## What a text chooses -/

namespace Config.Choice

/-- The members of a section give just what is chosen of its fields; other keys may give
anything. -/
def Fills (choice : Choice) (part : ConfigSection) (members : List (String × Value)) : Prop :=
  ∀ field : ConfigField, field.part = part →
    valuesOf field.key members = ((choice field).map field.toValue).toList

/-- What stands under the key of a section: one object, or nothing if nothing of it is chosen. -/
inductive Holds (choice : Choice) (part : ConfigSection) : List Value → Prop where
  | omitted (none : ∀ field : ConfigField, field.part = part → choice field = none) :
      Holds choice part []
  | object {members : List (String × Value)} (fills : choice.Fills part members) :
      Holds choice part [.object members]

/-- The members of a configuration hold just what is chosen, section by section. -/
def Describes (choice : Choice) (members : List (String × Value)) : Prop :=
  ∀ part : ConfigSection, choice.Holds part (valuesOf part.key members)

/-- A text of an object that holds just what is chosen, with blanks around it. -/
inductive Text (choice : Choice) (text : String) : Prop where
  | object {members : List (String × Value)} {depth : Nat} {before s behind : List Char}
      (describes : choice.Describes members) (blank : Blanks before) (blank' : Blanks behind)
      (spelled : Spelled depth (.object members) s)
      (same : text.toList = before ++ (s ++ behind)) : Text choice text

theorem text_write {spacing : Json.Spacing} (blank : spacing.Blank) {choice : Choice}
    {members : List (String × Value)} (describes : choice.Describes members) (depth : Nat)
    (fits : Value.Fits depth (.object members)) :
    choice.Text ((Value.object members).write spacing) := by
  refine .object describes Blanks.nil Blanks.nil (Value.spelled_writeAt blank fits 0) ?_
  rw [Value.write, String.toList_ofList, List.append_nil, List.nil_append]

/-- Whatever of a section is not chosen is chosen as it is by default. -/
def spelledOut (choice : Choice) (part : ConfigSection) : Choice := fun field =>
  if field.part = part then some ((choice field).getD (({} : Config).get field)) else choice field

variable {choice : Choice} {members : List (String × Value)}

theorem overlay_spelledOut (choice : Choice) (part : ConfigSection) :
    ({} : Config).overlay (choice.spelledOut part) = ({} : Config).overlay choice := by
  apply get_injective
  intro field
  rw [get_overlay, get_overlay, spelledOut]
  by_cases inside : field.part = part
  · rw [if_pos inside]
    rfl
  · rw [if_neg inside]

/-- The field of a record takes over what is chosen, and keeps its default if nothing is. -/
theorem given_of_fills {part : ConfigSection} (fills : choice.Fills part members)
    (field : ConfigField) (inside : field.part = part) {member : Reader.Field ρ} {defaults : ρ}
    {change : ρ → ρ}
    (reads : member.Reads (field.toValue ((({} : Config).overlay choice).get field)) change)
    (agree : (({} : Config).overlay choice).get field = ({} : Config).get field →
      change defaults = defaults) :
    member.Given defaults change (valuesOf field.key members) := by
  have held := get_overlay {} choice field
  rw [fills field inside]
  cases chosen : choice field with
  | none =>
      rw [chosen, Option.getD_none] at held
      exact .omitted (agree held)
  | some datum =>
      rw [chosen, Option.getD_some] at held
      rw [held] at reads
      exact .once reads

end Config.Choice

/-! ## Sections -/

section Sections

variable {choice : Config.Choice} {members : List (String × Value)} {depth : Nat} {s : List Char}

def GeneralConfig.adopt (source : GeneralConfig) (key : String) (config : GeneralConfig) :
    GeneralConfig :=
  match key with
  | "threads" => { config with threads := source.threads }
  | _ => config

theorem GeneralConfig.adopt_comm (source : GeneralConfig) (key key' : String)
    (config : GeneralConfig) :
    source.adopt key (source.adopt key' config) = source.adopt key' (source.adopt key config) := by
  unfold adopt
  split <;> split <;> rfl

theorem GeneralConfig.takes_reader (fills : choice.Fills .general members)
    (spelled : Spelled depth (.object members) s) :
    Takes reader s (.ok (({} : Config).overlay choice).general) := by
  refine takes_record ?_ (by decide) (adopt_comm (({} : Config).overlay choice).general) spelled
  simp only [fields, List.forall_mem_cons]
  refine ⟨?_, fun _ absent => nomatch absent⟩
  refine Config.Choice.given_of_fills fills .threads rfl ?_ ?_
  · exact reads_of_scalar (fun _ => rfl) (fun _ => rfl) (Value.toWord_eq_ok_iff.mpr rfl)
  · exact fun same => congrArg GeneralConfig.mk same

def PredictorConfig.adopt (source : PredictorConfig) (key : String) (config : PredictorConfig) :
    PredictorConfig :=
  match key with
  | "enabled" => { config with enabled := source.enabled }
  | "table_size" => { config with tableSize := source.tableSize }
  | "confidence_threshold" => { config with threshold := source.threshold }
  | "confidence_bits" => { config with confidenceBits := source.confidenceBits }
  | _ => config

theorem PredictorConfig.adopt_comm (source : PredictorConfig) (key key' : String)
    (config : PredictorConfig) :
    source.adopt key (source.adopt key' config) = source.adopt key' (source.adopt key config) := by
  unfold adopt
  split <;> split <;> rfl

theorem PredictorConfig.takes_reader (fills : choice.Fills .predictor members)
    (spelled : Spelled depth (.object members) s) :
    Takes reader s (.ok (({} : Config).overlay choice).predictor) := by
  refine takes_record ?_ (by decide) (adopt_comm (({} : Config).overlay choice).predictor) spelled
  simp only [fields, List.forall_mem_cons]
  refine ⟨?_, ?_, ?_, ?_, fun _ absent => nomatch absent⟩
  · refine Config.Choice.given_of_fills fills .predictorEnabled rfl ?_ ?_
    · exact reads_of_scalar (fun _ => rfl) (fun _ => rfl) (Value.toBool_eq_ok_iff.mpr rfl)
    · exact congrArg fun flag => ({ enabled := flag } : PredictorConfig)
  · refine Config.Choice.given_of_fills fills .tableSize rfl ?_ ?_
    · exact reads_of_scalar (fun _ => rfl) (fun _ => rfl) (Value.toWord_eq_ok_iff.mpr rfl)
    · exact congrArg fun size => ({ tableSize := size } : PredictorConfig)
  · refine Config.Choice.given_of_fills fills .threshold rfl ?_ ?_
    · exact reads_of_scalar (fun _ => rfl) (fun _ => rfl) (Value.toWord32_eq_ok_iff.mpr rfl)
    · exact congrArg fun word => ({ threshold := word } : PredictorConfig)
  · refine Config.Choice.given_of_fills fills .confidenceBits rfl ?_ ?_
    · exact reads_of_scalar (fun _ => rfl) (fun _ => rfl) (Value.toWord32_eq_ok_iff.mpr rfl)
    · exact congrArg fun width => ({ confidenceBits := width } : PredictorConfig)

def SimplifierConfig.adopt (source : SimplifierConfig) (key : String) (config : SimplifierConfig) :
    SimplifierConfig :=
  match key with
  | "enabled" => { config with enabled := source.enabled }
  | _ => config

theorem SimplifierConfig.adopt_comm (source : SimplifierConfig) (key key' : String)
    (config : SimplifierConfig) :
    source.adopt key (source.adopt key' config) = source.adopt key' (source.adopt key config) := by
  unfold adopt
  split <;> split <;> rfl

theorem SimplifierConfig.takes_reader (fills : choice.Fills .simplifier members)
    (spelled : Spelled depth (.object members) s) :
    Takes reader s (.ok (({} : Config).overlay choice).simplifier) := by
  refine takes_record ?_ (by decide) (adopt_comm (({} : Config).overlay choice).simplifier) spelled
  simp only [fields, List.forall_mem_cons]
  refine ⟨?_, fun _ absent => nomatch absent⟩
  refine Config.Choice.given_of_fills fills .simplifierEnabled rfl ?_ ?_
  · exact reads_of_scalar (fun _ => rfl) (fun _ => rfl) (Value.toBool_eq_ok_iff.mpr rfl)
  · exact congrArg SimplifierConfig.mk

def Config.adopt (source : Config) (key : String) (config : Config) : Config :=
  match key with
  | "general" => { config with general := source.general }
  | "lvp" => { config with predictor := source.predictor }
  | "comp_simplifier" => { config with simplifier := source.simplifier }
  | _ => config

theorem Config.adopt_comm (source : Config) (key key' : String) (config : Config) :
    source.adopt key (source.adopt key' config) = source.adopt key' (source.adopt key config) := by
  unfold adopt
  split <;> split <;> rfl

namespace Config

/-- A section takes over what is chosen of it, and keeps its defaults if nothing is. -/
theorem given_of_holds {part : ConfigSection} {vs : List Value} (holds : choice.Holds part vs)
    {name : String} {reader : Reader ρ} {put : Config → ρ → Config} {r : ρ}
    (skips : SkipsBlanks reader)
    (takes : ∀ {members : List (String × Value)} {depth : Nat} {s : List Char},
      choice.Fills part members → Spelled depth (.object members) s → Takes reader s (.ok r))
    (agree : (∀ field : ConfigField, field.part = part → choice field = none) →
      put {} r = {}) :
    Reader.Field.Given ⟨name, fun config => do return put config (← reader)⟩ {}
      (fun config => put config r) vs := by
  cases holds with
  | omitted none => exact .omitted (agree none)
  | object fills => exact .once (reads_of_takes skips fun spelled => takes fills spelled)

theorem takes_reader (describes : choice.Describes members)
    (spelled : Spelled depth (.object members) s) :
    Takes reader s (.ok (({} : Config).overlay choice)) := by
  refine takes_record ?_ (by decide) (adopt_comm (({} : Config).overlay choice)) spelled
  simp only [fields, List.forall_mem_cons]
  refine ⟨?_, ?_, ?_, fun _ absent => nomatch absent⟩
  · refine given_of_holds (describes .general) (skipsBlanks_record _ _ _)
      GeneralConfig.takes_reader fun none => ?_
    rw [overlay, none .threads rfl]
    rfl
  · refine given_of_holds (describes .predictor) (skipsBlanks_record _ _ _)
      PredictorConfig.takes_reader fun none => ?_
    rw [overlay, none .predictorEnabled rfl, none .tableSize rfl, none .threshold rfl,
      none .confidenceBits rfl]
    rfl
  · refine given_of_holds (describes .simplifier) (skipsBlanks_record _ _ _)
      SimplifierConfig.takes_reader fun none => ?_
    rw [overlay, none .simplifierEnabled rfl]
    rfl

/-- A text of what is chosen is read as the defaults with that overwritten, and then checked. -/
theorem ofJson_of_text {text : String} (written : choice.Text text) :
    ofJson text = (({} : Config).overlay choice).checked := by
  cases written with
  | @object members depth before s behind describes blank blank' spelled same =>
      have read : reader text.toList =
          (Except.ok (({} : Config).overlay choice)).map fun config => (config, behind) := by
        rw [same, reader, skipsBlanks_record _ _ _ blank]
        exact takes_reader describes spelled behind (Reader.follows_of_blanks blank')
      rw [ofJson, Reader.run_of_blanks read blank']

end Config

end Sections

namespace Config

/-! ## What reading a configuration comes to -/

variable {config : Config}

theorem checked_of_usable (usable : config.Usable) : config.checked = .ok config := by
  rw [checked, validate_of_usable usable]

theorem checked_of_firstBroken {broken : ConfigError} (first : config.FirstBroken broken) :
    config.checked = .error (.config broken) := by
  rw [checked, validate_of_firstBroken first]

theorem checked_eq_ok_iff {other : Config} :
    config.checked = .ok other ↔ config.Usable ∧ other = config := by
  constructor
  · intro accepted
    rcases config.usable_or_firstBroken with usable | ⟨broken, first⟩
    · rw [checked_of_usable usable] at accepted
      exact ⟨usable, (Except.ok.inj accepted).symm⟩
    · rw [checked_of_firstBroken first] at accepted
      cases accepted
  · rintro ⟨usable, rfl⟩
    exact checked_of_usable usable

theorem checked_eq_error_iff {broken : ConfigError} :
    config.checked = .error (.config broken) ↔ config.FirstBroken broken := by
  constructor
  · intro refused
    rcases config.usable_or_firstBroken with usable | ⟨other, first⟩
    · rw [checked_of_usable usable] at refused
      cases refused
    · rw [checked_of_firstBroken first] at refused
      cases refused
      exact first
  · exact checked_of_firstBroken

/-- Whatever text it comes from, a configuration that is read keeps the rules. -/
theorem usable_of_ofJson {text : String} (accepted : ofJson text = .ok config) :
    config.Usable := by
  rw [ofJson] at accepted
  cases read : reader.run text with
  | error problem =>
      rw [read] at accepted
      cases accepted
  | ok found =>
      rw [read] at accepted
      obtain ⟨usable, rfl⟩ := checked_eq_ok_iff.mp accepted
      exact usable

theorem exists_replayer_of_usable (usable : config.Usable) :
    ∃ start, Replayer.ofConfig config = .ok start := by
  have agrees := config.replayer_eq_validate
  rw [validate_of_usable usable] at agrees
  cases made : Replayer.ofConfig config with
  | error broken =>
      rw [made] at agrees
      cases agrees
  | ok start => exact ⟨start, rfl⟩

/--
A text gives the defaults with what it chooses overwritten.  It is read as that configuration
if it keeps the rules, and fails with the first rule that it breaks otherwise, however the
text orders sections and fields, whatever it says under other keys, and whether it leaves a
section with nothing chosen out or empty.  Spelling out the defaults of a section makes no
difference.  Any configuration that comes of any text can be replayed with.
-/
theorem ofJson_overlays_defaults (choice : Choice) :
    let config := ({} : Config).overlay choice
    (∀ text, choice.Text text →
      ofJson text = config.checked ∧
      (ofJson text = .ok config ↔ config.Usable) ∧
      ∀ broken, ofJson text = .error (.config broken) ↔ config.FirstBroken broken) ∧
    (∀ part text text', choice.Text text →
      choice.Text text' ∨ (choice.spelledOut part).Text text' → ofJson text' = ofJson text) ∧
    ∀ text config, ofJson text = .ok config → ∃ start, Replayer.ofConfig config = .ok start := by
  intro config
  refine ⟨fun text written => ?_, fun part text text' written written' => ?_,
    fun text config accepted => exists_replayer_of_usable (usable_of_ofJson accepted)⟩
  · have same : ofJson text = config.checked := ofJson_of_text written
    rw [same]
    refine ⟨rfl, ?_, fun broken => checked_eq_error_iff⟩
    rw [checked_eq_ok_iff]
    exact and_iff_left rfl
  · rw [ofJson_of_text written]
    rcases written' with again | spelled
    · exact ofJson_of_text again
    · rw [ofJson_of_text spelled, Choice.overlay_spelledOut]

/-- Unknown keys and an empty section in one text, a section spelled out in another. -/
theorem ofJson_overlays_defaults_around_unknown_keys :
    let config : Config :=
      { predictor := { enabled := true, tableSize := 16, threshold := 9, confidenceBits := 4 } }
    let lvp : Value := .object
      [("threads", .text "many"), ("confidence_bits", .ofNat 4), ("enabled", .boolean true),
        ("confidence_threshold", .ofNat 9), ("table_size", .ofWord 16)]
    let text := (Value.object [("note", .sequence [.object [("lvp", .null)], .boolean true]),
      ("lvp", lvp), ("comp_simplifier", .object [])]).write .indented
    let text' := (Value.object [("general", .object [("threads", .ofWord 4)]),
      ("lvp", lvp)]).write .compact
    ofJson text = .ok config ∧ ofJson text' = ofJson text ∧
      ∃ start, Replayer.ofConfig config = .ok start := by
  intro config lvp text text'
  let choice : Choice := fun
    | .predictorEnabled => some true
    | .tableSize => some 16
    | .threshold => some 9
    | .confidenceBits => some 4
    | .threads | .simplifierEnabled => none
  have fills : choice.Fills .predictor
      [("threads", .text "many"), ("confidence_bits", .ofNat 4), ("enabled", .boolean true),
        ("confidence_threshold", .ofNat 9), ("table_size", .ofWord 16)] := by
    intro field inside
    cases field <;> first | rfl | cases inside
  have empty : choice.Fills .simplifier [] := by
    intro field inside
    cases field <;> first | rfl | cases inside
  have fits : Value.Fits 3 lvp := by
    simp [lvp, Value.Fits, Value.fits_ofWord, Value.ofNat, Json.Number.Fits]
  have written : choice.Text text := by
    refine Choice.text_write Json.Spacing.blank_indented ?_ 4 ?_
    · intro part
      cases part with
      | general => exact .omitted fun field inside => by cases field <;> first | rfl | cases inside
      | predictor => exact .object fills
      | simplifier => exact .object empty
    · simp [Value.Fits, fits]
  have written' : (choice.spelledOut .general).Text text' := by
    refine Choice.text_write Json.Spacing.blank_compact ?_ 4 ?_
    · intro part
      cases part with
      | general => exact .object fun field inside => by cases field <;> first | rfl | cases inside
      | predictor => exact .object fun field inside => (fills field inside).trans (by
          cases field <;> first | rfl | cases inside)
      | simplifier =>
          exact .omitted fun field inside => by cases field <;> first | rfl | cases inside
    · simp [Value.Fits, Value.fits_ofWord, fits]
  have usable : config.Usable := config.validate_eq_ok_iff.mp (by decide)
  obtain ⟨read, same, replayed⟩ := ofJson_overlays_defaults choice
  have accepted := (read text written).2.1.mpr usable
  exact ⟨accepted, same .general text text' written (.inr written'), replayed text config accepted⟩

end Config

end EarlyResolution
