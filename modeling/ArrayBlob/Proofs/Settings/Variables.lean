import ArrayBlob.Proofs.Outcome
import ArrayBlob.Proofs.Settings.Fields
import ArrayBlob.Proofs.Text.Spelling
import Mathlib.Logic.Function.Basic

/-!
# Settings in variables

Each field has a variable of its own, and the field is the value that the text of the variable
spells, or the default if the variable is not set or its text spells none. Blanks around the text
make no difference. The settings that come out are refused for a level out of range, else for a name
that is needed and that no compressor has, and for nothing else.
-/

namespace ArrayBlob

/-! ## Words -/

/-- The words for a truth value. -/
def truthWords : Bool → List String
  | true => ["1", "true", "yes", "on"]
  | false => ["0", "false", "no", "off"]

/-- A text is one of some words, in letters of any case and with blanks around it. -/
def IsAmong (words : List String) (text : String) : Prop :=
  ∃ word ∈ words, Text.foldCase word = Text.foldCase (Text.trim text)

variable {text : String}

theorem any_sameIgnoringCase_iff {words : List String} :
    (words.any fun known => Text.sameIgnoringCase known (Text.trim text)) = true
      ↔ IsAmong words text := by
  simp only [List.any_eq_true, Text.sameIgnoringCase_iff, IsAmong]

/-- Values that have no words in common, up to the case of letters, are found by their words. -/
theorem find?_eq_some_iff_isAmong {α : Type} {values : List α} {words : α → List String}
    (complete : ∀ value, value ∈ values)
    (disjoint : ∀ left right, ∀ first ∈ words left, ∀ second ∈ words right,
      Text.foldCase first = Text.foldCase second → left = right)
    (text : String) (value : α) :
    (values.find? fun value =>
        (words value).any fun known => Text.sameIgnoringCase known (Text.trim text)) = some value
      ↔ IsAmong (words value) text := by
  constructor
  · intro found
    have known := List.find?_some found
    exact any_sameIgnoringCase_iff.1 known
  · intro among
    cases found : values.find? fun value =>
        (words value).any fun known => Text.sameIgnoringCase known (Text.trim text) with
    | none =>
      have missing := List.find?_eq_none.1 found value (complete value)
      exact absurd (any_sameIgnoringCase_iff.2 among) missing
    | some other =>
      have known := List.find?_some found
      obtain ⟨first, listed, same⟩ := any_sameIgnoringCase_iff.1 known
      obtain ⟨second, listedToo, sameToo⟩ := among
      rw [disjoint other value first listed second listedToo (same.trans sameToo.symm)]

theorem truthOfWord?_eq_some_iff (text : String) (value : Bool) :
    truthOfWord? text = some value ↔ IsAmong (truthWords value) text := by
  have search : truthOfWord? text = [true, false].find? fun value =>
      (truthWords value).any fun known => Text.sameIgnoringCase known (Text.trim text) := by
    rw [truthOfWord?, List.find?_cons, List.find?_cons, List.find?_nil]
    dsimp only [truthWords]
    split
    · next known => rw [known]
    · next unknown =>
      rw [Bool.eq_false_iff.2 unknown]
      dsimp only
      split
      · next known => rw [known]
      · next unknown => rw [Bool.eq_false_iff.2 unknown]
  rw [search]
  exact find?_eq_some_iff_isAmong (by decide) (by decide) text value

theorem StorageMode.ofWord?_eq_some_iff (text : String) (mode : StorageMode) :
    ofWord? text = some mode ↔ IsAmong mode.words text := by
  refine find?_eq_some_iff_isAmong ?_ ?_ text mode
  · intro other
    cases other <;> decide
  · intro left right
    cases left <;> cases right <;> decide

/-! ## Numbers -/

/-- A number of 32 bits is read from its numerals. -/
theorem map_ofInt_intWithin?_eq_some_iff (text : String) (number : Int32) :
    (Text.intWithin? (2 ^ 31) text).map Int32.ofInt = some number
      ↔ Text.IntegerNumeral text.toList number.toInt := by
  simp only [Option.map_eq_some_iff, Text.intWithin?_eq_some_iff]
  constructor
  · rintro ⟨read, ⟨numeral, least, below⟩, rfl⟩
    rw [Int32.toInt_ofInt_of_le least below]
    exact numeral
  · intro numeral
    exact ⟨number.toInt, ⟨numeral, number.le_toInt, number.toInt_lt⟩, number.ofInt_toInt⟩

/-- A number of 64 bits without a sign is read from its numerals. -/
theorem map_ofNat_natBelow?_eq_some_iff (text : String) (number : UInt64) :
    (Text.natBelow? (2 ^ 64) text).map UInt64.ofNat = some number
      ↔ Text.NaturalNumeral text.toList number.toNat := by
  simp only [Option.map_eq_some_iff, Text.natBelow?_eq_some_iff]
  constructor
  · rintro ⟨read, ⟨numeral, below⟩, rfl⟩
    rw [UInt64.toNat_ofNat_of_lt' below]
    exact numeral
  · intro numeral
    exact ⟨number.toNat, ⟨numeral, number.toNat_lt⟩, number.ofNat_toNat⟩

/-! ## Levels and names of compressors -/

theorem Level.ofInt_of_outside {number : Int} (outside : number < 0 ∨ 9 < number) :
    ofInt number = .error (.invalidLevel number 0 9) := by
  rw [ofInt, ofInt?, dif_neg (by omega)]

theorem Level.ofInt_of_within {number : Int} (within : 0 ≤ number ∧ number ≤ 9) :
    ∃ level, ofInt number = .ok level ∧ level.toNat = number.toNat := by
  refine ⟨⟨number.toNat, by omega⟩, ?_, rfl⟩
  rw [ofInt, ofInt?, dif_pos within]

/-- The names that compressors have. -/
def compressorNames : List String :=
  ["blosclz", "lz4", "lz4hc", "QLIN16", "QLOG16"]

theorem Coder.name_mem_compressorNames (coder : Coder) : coder.name ∈ compressorNames := by
  rcases coder with flavor | mode
  · cases flavor <;> decide
  · cases mode <;> decide

/-- A name selects no coder exactly if it differs from every known name in more than the case of its
letters. -/
theorem Coder.ofName?_eq_none_iff {name : String} :
    ofName? name = none ↔ ∀ known ∈ compressorNames, Text.foldCase known ≠ Text.foldCase name := by
  have listed : ∀ known ∈ compressorNames, ∃ coder ∈ all, coder.name = known := by decide
  simp only [ofName?, List.find?_eq_none, Text.sameIgnoringCase_iff]
  constructor
  · intro none known member
    obtain ⟨coder, there, rfl⟩ := listed known member
    exact none coder there
  · intro none coder _
    exact none coder.name coder.name_mem_compressorNames

namespace Settings

variable {settings left right : Settings} {lookup : String → Option String}

/-! ## What variables say -/

namespace Field

/-- The name of the variable of a field. -/
def variableName : Field → String
  | compressor => "TYPEBLOB_COMPRESSOR"
  | level => "TYPEBLOB_LEVEL"
  | verify => "TYPEBLOB_VERIFY"
  | maxBlobSize => "TYPEBLOB_MAX_BLOB_SIZE"
  | mode => "TYPEBLOB_MODE"

theorem variableName_injective {left right : Field}
    (same : left.variableName = right.variableName) : left = right := by
  revert same
  cases left <;> cases right <;> decide

/-- A text spells the value that some settings have in a field. A name spells itself, and numbers
are spelled by their numerals; all with blanks around them. -/
def Spells (text : String) (settings : Settings) : Field → Prop
  | compressor => Text.trim text = settings.compressor
  | level => Text.IntegerNumeral (Text.trim text).toList settings.level.toInt
  | verify => IsAmong (truthWords settings.verify) text
  | maxBlobSize => Text.NaturalNumeral (Text.trim text).toList settings.maxBlobSize.toNat
  | mode => IsAmong settings.mode.words text

/-- Some settings have in a field what the variable of the field says: the value that its text
spells, or the default where it is not set or its text spells no value. -/
def Follows (setting : Option String) (settings : Settings) (field : Field) : Prop :=
  (∃ text, setting = some text ∧ field.Spells text settings)
    ∨ (∀ text, setting = some text → ∀ other, ¬ field.Spells text other)
      ∧ field.Same settings default

/-- The value that is read from a text for a field. -/
def read? (text : String) : (field : Field) → Option field.Value
  | compressor => some (Text.trim text)
  | level => (Text.intWithin? (2 ^ 31) (Text.trim text)).map Int32.ofInt
  | verify => truthOfWord? text
  | maxBlobSize => (Text.natBelow? (2 ^ 64) (Text.trim text)).map UInt64.ofNat
  | mode => StorageMode.ofWord? text

variable {field : Field} {setting padded : Option String}

/-- Reading is right: the value of a text is the one that it spells. -/
theorem read?_eq_some_iff :
    field.read? text = some (field.get settings) ↔ field.Spells text settings := by
  cases field with
  | compressor => exact Option.some_inj
  | level => exact map_ofInt_intWithin?_eq_some_iff (Text.trim text) settings.level
  | verify => exact truthOfWord?_eq_some_iff text settings.verify
  | maxBlobSize => exact map_ofNat_natBelow?_eq_some_iff (Text.trim text) settings.maxBlobSize
  | mode => exact StorageMode.ofWord?_eq_some_iff text settings.mode

/-- Each field is read from its own variable. -/
theorem get_ofVariablesUnchecked (field : Field) (lookup : String → Option String) :
    field.get (ofVariablesUnchecked lookup)
      = ((lookup field.variableName).bind field.read?).getD (field.get default) := by
  cases field with
  | compressor =>
    exact congrArg (Option.getD · default.compressor) Option.map_eq_bind
  | level =>
    exact congrArg (Option.getD · default.level) Option.map_bind
  | verify => rfl
  | maxBlobSize =>
    exact congrArg (Option.getD · default.maxBlobSize) Option.map_bind
  | mode => rfl

@[simp]
theorem follows_none_iff : field.Follows none settings ↔ field.Same settings default := by
  simp [Follows]

@[simp]
theorem follows_some_iff : field.Follows (some text) settings ↔
    field.Spells text settings
      ∨ (∀ other, ¬ field.Spells text other) ∧ field.Same settings default := by
  simp [Follows]

theorem follows_ofVariablesUnchecked (field : Field) (lookup : String → Option String) :
    field.Follows (lookup field.variableName) (ofVariablesUnchecked lookup) := by
  have value := field.get_ofVariablesUnchecked lookup
  cases set : lookup field.variableName with
  | none =>
    rw [set] at value
    exact follows_none_iff.2 value
  | some text =>
    rw [set, Option.bind_some] at value
    rw [follows_some_iff]
    cases found : field.read? text with
    | none =>
      rw [found] at value
      refine .inr ⟨fun other spelled => ?_, value⟩
      rw [read?_eq_some_iff.2 spelled] at found
      cases found
    | some known =>
      rw [found] at value
      refine .inl (read?_eq_some_iff.1 ?_)
      rw [found, value]
      rfl

/-- There is one value only that a variable says. -/
theorem same_of_follows (first : field.Follows setting left)
    (second : field.Follows setting right) : field.Same left right := by
  cases setting with
  | none =>
    rw [follows_none_iff] at first second
    exact first.trans second.symm
  | some text =>
    rw [follows_some_iff] at first second
    rcases first with spelled | ⟨unspelled, same⟩
    · rcases second with again | ⟨unspelled, -⟩
      · exact Option.some_inj.1
          ((read?_eq_some_iff.2 spelled).symm.trans (read?_eq_some_iff.2 again))
      · exact absurd spelled (unspelled left)
    · rcases second with spelled | ⟨-, again⟩
      · exact absurd spelled (unspelled right)
      · exact same.trans again.symm

/-- A text that spells no value says the same as a variable that is not set. -/
theorem follows_some_iff_of_not_spells (unspelled : ∀ other, ¬ field.Spells text other) :
    field.Follows (some text) settings ↔ field.Follows none settings := by
  rw [follows_some_iff, follows_none_iff]
  constructor
  · rintro (spelled | ⟨-, same⟩)
    · exact absurd spelled (unspelled settings)
    · exact same
  · exact fun same => .inr ⟨unspelled, same⟩

/-- Blanks around a text leave what it spells. -/
theorem spells_of_pads {wide : String} (pads : Text.Pads wide text) :
    field.Spells wide settings ↔ field.Spells text settings := by
  have same := Text.trim_of_pads pads
  cases field <;> simp only [Spells, IsAmong, same]

theorem follows_of_pads (pads : Option.Rel Text.Pads padded setting) :
    field.Follows padded settings ↔ field.Follows setting settings := by
  cases pads with
  | none => exact Iff.rfl
  | some pads => simp only [follows_some_iff, spells_of_pads pads]

end Field

/-- Some settings have in every field what the variable of the field says. -/
def FollowVariables (lookup : String → Option String) (settings : Settings) : Prop :=
  ∀ field : Field, field.Follows (lookup field.variableName) settings

theorem followVariables_iff :
    FollowVariables lookup settings ↔ settings = ofVariablesUnchecked lookup := by
  constructor
  · intro follows
    exact Field.eq_of_same fun field =>
      Field.same_of_follows (follows field) (field.follows_ofVariablesUnchecked lookup)
  · rintro rfl field
    exact field.follows_ofVariablesUnchecked lookup

/-- Variables that say the same are read as the same settings. -/
theorem ofVariablesUnchecked_congr {other : String → Option String}
    (agree : ∀ (field : Field) (settings : Settings),
      field.Follows (lookup field.variableName) settings
        → field.Follows (other field.variableName) settings) :
    ofVariablesUnchecked lookup = ofVariablesUnchecked other :=
  followVariables_iff.1 fun field => agree field _ (field.follows_ofVariablesUnchecked lookup)

/-! ## What is refused -/

/-- The level is not a number from 0 to 9. -/
def LevelOutOfRange (settings : Settings) : Prop :=
  settings.level.toInt < 0 ∨ 9 < settings.level.toInt

/-- A compressor is asked for by a name that none has, in letters of any case. -/
def NamesNoCompressor (settings : Settings) : Prop :=
  1 ≤ settings.level.toInt ∧ settings.compressor ≠ ""
    ∧ ∀ known ∈ compressorNames, Text.foldCase known ≠ Text.foldCase settings.compressor

instance (settings : Settings) : Decidable settings.LevelOutOfRange :=
  inferInstanceAs (Decidable (_ ∨ _))

instance (settings : Settings) : Decidable settings.NamesNoCompressor :=
  inferInstanceAs (Decidable (_ ∧ _ ∧ _))

/-- The selection of some settings is refused for the level, else for the name, else made. -/
theorem selection_cases (settings : Settings) :
    (settings.LevelOutOfRange
        ∧ settings.selection = .error (.invalidLevel settings.level.toInt 0 9))
      ∨ (¬ settings.LevelOutOfRange ∧ settings.NamesNoCompressor
        ∧ settings.selection = .error (.unknownCompressor settings.compressor))
      ∨ (¬ settings.LevelOutOfRange ∧ ¬ settings.NamesNoCompressor
        ∧ ∃ selection, settings.selection = .ok selection) := by
  by_cases outside : settings.LevelOutOfRange
  · refine .inl ⟨outside, ?_⟩
    rw [selection, Selection.ofName, Level.ofInt_of_outside outside, error_bind]
  · have within : 0 ≤ settings.level.toInt ∧ settings.level.toInt ≤ 9 := by
      unfold LevelOutOfRange at outside
      omega
    obtain ⟨level, made, value⟩ := Level.ofInt_of_within within
    refine .inr ?_
    rw [selection, Selection.ofName, made, ok_bind]
    have skips : (level.isNone || settings.compressor.isEmpty) = true
        ↔ ¬ (1 ≤ settings.level.toInt ∧ settings.compressor ≠ "") := by
      rw [Bool.or_eq_true, Level.isNone, decide_eq_true_eq, String.isEmpty_iff, not_and_or, not_not]
      refine or_congr_left ?_
      omega
    by_cases needed : 1 ≤ settings.level.toInt ∧ settings.compressor ≠ ""
    · rw [if_neg (mt skips.1 (not_not_intro needed))]
      cases found : Coder.ofName? settings.compressor with
      | none =>
        exact .inl ⟨outside, ⟨needed.1, needed.2, Coder.ofName?_eq_none_iff.1 found⟩, rfl⟩
      | some coder =>
        refine .inr ⟨outside, fun unknown => ?_, _, rfl⟩
        rw [Coder.ofName?_eq_none_iff.2 unknown.2.2] at found
        cases found
    · rw [if_pos (skips.2 needed)]
      exact .inr ⟨outside, fun unknown => needed ⟨unknown.1, unknown.2.1⟩, _, rfl⟩

/-- The settings of variables are the ones that the variables say, if these select something. -/
theorem ofVariables_eq (lookup : String → Option String) :
    ofVariables lookup
      = (ofVariablesUnchecked lookup).selection.map fun _ => ofVariablesUnchecked lookup := by
  rw [ofVariables]
  generalize ofVariablesUnchecked lookup = settings
  rw [validate, selection, Selection.ofName]
  cases Level.ofInt settings.level.toInt with
  | error fault => rfl
  | ok level =>
    rw [ok_bind, ok_bind]
    generalize (if (level.isNone || settings.compressor.isEmpty) = true then _ else _) = chosen
    cases chosen <;> rfl

/-- What the settings that follow some variables decide. -/
theorem outcome_of_followVariables (follow : FollowVariables lookup settings) :
    (ofVariables lookup = .error (.invalidLevel settings.level.toInt 0 9)
        ↔ settings.LevelOutOfRange)
      ∧ (ofVariables lookup = .error (.unknownCompressor settings.compressor)
        ↔ ¬ settings.LevelOutOfRange ∧ settings.NamesNoCompressor)
      ∧ (ofVariables lookup = .ok settings
        ↔ ¬ settings.LevelOutOfRange ∧ ¬ settings.NamesNoCompressor)
      ∧ (ofVariables lookup = .ok settings → ∃ selection, settings.selection = .ok selection) := by
  rw [ofVariables_eq, ← followVariables_iff.1 follow]
  rcases settings.selection_cases with
    ⟨outside, refused⟩ | ⟨inside, unknown, refused⟩ | ⟨inside, known, selection, selected⟩
  · simp [refused, Except.map, outside]
  · simp [refused, Except.map, inside, unknown]
  · simp [selected, Except.map, inside, known]

theorem followVariables_of_ofVariables_eq_ok (made : ofVariables lookup = .ok settings) :
    FollowVariables lookup settings := by
  rw [ofVariables_eq, map_eq_ok_iff] at made
  obtain ⟨-, -, rfl⟩ := made
  exact followVariables_iff.2 rfl

/-- Variables that say the same have the same outcome. -/
theorem ofVariables_congr {other : String → Option String}
    (agree : ∀ (field : Field) (settings : Settings),
      field.Follows (lookup field.variableName) settings
        → field.Follows (other field.variableName) settings) :
    ofVariables lookup = ofVariables other := by
  rw [ofVariables_eq, ofVariables_eq, ofVariablesUnchecked_congr agree]

/-- Any variables are followed by one choice of settings. It is refused for its level exactly if
this is out of range, else for its compressor exactly if it is needed and has no known name, and is
the result otherwise, with a selection. A field of the result depends on its own variable only, a
text that spells no value acts like a variable that is not set, and blanks around texts make no
difference. -/
theorem variables_decide_outcome :
    (∀ lookup : String → Option String, ∃! settings, FollowVariables lookup settings)
    ∧ (∀ (lookup : String → Option String) (settings : Settings), FollowVariables lookup settings →
      (ofVariables lookup = .error (.invalidLevel settings.level.toInt 0 9)
        ↔ settings.LevelOutOfRange)
      ∧ (ofVariables lookup = .error (.unknownCompressor settings.compressor)
        ↔ ¬ settings.LevelOutOfRange ∧ settings.NamesNoCompressor)
      ∧ (ofVariables lookup = .ok settings
        ↔ ¬ settings.LevelOutOfRange ∧ ¬ settings.NamesNoCompressor)
      ∧ (ofVariables lookup = .ok settings → ∃ selection, settings.selection = .ok selection))
    ∧ (∀ (lookup other : String → Option String) (field : Field) (left right : Settings),
      lookup field.variableName = other field.variableName →
        ofVariables lookup = .ok left → ofVariables other = .ok right → field.Same left right)
    ∧ (∀ (lookup : String → Option String) (field : Field) (text : String),
      (∀ settings, ¬ field.Spells text settings) →
        ofVariables (Function.update lookup field.variableName (some text))
          = ofVariables (Function.update lookup field.variableName none))
    ∧ ∀ lookup padded : String → Option String,
      (∀ field : Field,
        Option.Rel Text.Pads (padded field.variableName) (lookup field.variableName)) →
          ofVariables padded = ofVariables lookup := by
  refine ⟨?unique, fun lookup settings => outcome_of_followVariables, ?own, ?unspelled, ?blanks⟩
  case unique =>
    intro lookup
    exact ⟨ofVariablesUnchecked lookup, followVariables_iff.2 rfl,
      fun settings => followVariables_iff.1⟩
  case own =>
    intro lookup other field left right same madeLeft madeRight
    have follows := followVariables_of_ofVariables_eq_ok madeLeft field
    rw [same] at follows
    exact Field.same_of_follows follows (followVariables_of_ofVariables_eq_ok madeRight field)
  case unspelled =>
    intro lookup field text unspelled
    refine ofVariables_congr fun other settings => ?_
    by_cases same : other.variableName = field.variableName
    · obtain rfl : other = field := Field.variableName_injective same
      rw [Function.update_self, Function.update_self]
      exact (Field.follows_some_iff_of_not_spells unspelled).1
    · rw [Function.update_of_ne same, Function.update_of_ne same]
      exact id
  case blanks =>
    intro lookup padded pads
    exact ofVariables_congr fun field settings => (Field.follows_of_pads (pads field)).1

/-- Variables with a compressor in capitals, a level with a sign and a word that says nothing, and
with some text in front of the name and behind the level. -/
def someVariables (blank name : String) : Option String :=
  if name = "TYPEBLOB_COMPRESSOR" then some (blank ++ "LZ4")
  else if name = "TYPEBLOB_LEVEL" then some ("+5" ++ blank)
  else if name = "TYPEBLOB_VERIFY" then some "maybe"
  else none

/-- What these variables say. -/
def someSettings : Settings where
  compressor := "LZ4"
  level := 5

/-- The settings of the variables are made, with wide blanks as without; the word for the check acts
like none, and the mode is the one of variables that are all unset. -/
theorem variables_decide_outcome_some :
    FollowVariables (someVariables "") someSettings
      ∧ ofVariables (someVariables "") = .ok someSettings
      ∧ ofVariables (someVariables "\u2003") = .ok someSettings
      ∧ ofVariables (Function.update (someVariables "") "TYPEBLOB_VERIFY" (some "maybe"))
        = ofVariables (Function.update (someVariables "") "TYPEBLOB_VERIFY" none)
      ∧ Field.mode.Same someSettings default := by
  obtain ⟨-, decided, own, unspelled, blanks⟩ := variables_decide_outcome
  have follow : FollowVariables (someVariables "") someSettings :=
    followVariables_iff.2 (by decide)
  have unset : FollowVariables (fun _ => none) default :=
    followVariables_iff.2 (by decide)
  have made : ofVariables (someVariables "") = .ok someSettings :=
    (decided _ _ follow).2.2.1.2 (by decide)
  have madeUnset : ofVariables (fun _ => none) = .ok default :=
    (decided _ _ unset).2.2.1.2 (by decide)
  have maybe : ∀ settings, ¬ Field.verify.Spells "maybe" settings := by
    intro settings spelled
    have read := Field.read?_eq_some_iff.2 spelled
    cases (by decide : truthOfWord? "maybe" = none).symm.trans read
  refine ⟨follow, made, ?_, unspelled _ .verify "maybe" maybe,
    own _ _ .mode _ _ (by decide) made madeUnset⟩
  rw [blanks (someVariables "") (someVariables "\u2003"), made]
  intro field
  have wide : ∀ c ∈ ['\u2003'], Text.isBlank c = true := List.forall_mem_singleton.2 (by decide)
  cases field with
  | compressor =>
    have pads : Text.Pads ("\u2003" ++ "LZ4") ("" ++ "LZ4") :=
      ⟨['\u2003'], [], wide, by simp, by decide⟩
    exact .some pads
  | level =>
    have pads : Text.Pads ("+5" ++ "\u2003") ("+5" ++ "") :=
      ⟨[], ['\u2003'], by simp, wide, by decide⟩
    exact .some pads
  | verify =>
    have pads : Text.Pads "maybe" "maybe" := ⟨[], [], by simp, by simp, by decide⟩
    exact .some pads
  | maxBlobSize => exact .none
  | mode => exact .none

end Settings
end ArrayBlob
