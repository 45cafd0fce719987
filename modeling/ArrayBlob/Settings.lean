import ArrayBlob.Json.Reader
import ArrayBlob.Json.Writer
import ArrayBlob.Selection
import ArrayBlob.Text.Spelling

/-!
# Settings

What a codec does by default: a compressor and a level, whether lossless payloads are read back
after packing, the largest blob, and which values may be stored. Settings come from named variables,
where a value that makes no sense counts as missing, or from a JSON document, where it is an error.
-/

namespace ArrayBlob

/-!
## Documents of single values

Levels are written as numbers, and element types and codec families by their names.
-/

/-- The value among some that has a name. -/
def choiceOfJson? {α : Type} (all : List α) (name : α → String) (json : Json) : Option α :=
  json.toChoice?.bind fun chosen => all.find? fun value => name value == chosen

/-- The document of a level. -/
def Level.toJson (level : Level) : Json :=
  Json.ofInt level.toNat

/-- The level of a document. -/
def Level.ofJson? (json : Json) : Option Level :=
  (json.toIntBetween? (-2 ^ 31) (2 ^ 31)).bind Level.ofInt?

/-- The document of an element type. -/
def ElementType.toJson (type : ElementType) : Json :=
  Json.ofText type.documentName

/-- The element type of a document. -/
def ElementType.ofJson? (json : Json) : Option ElementType :=
  choiceOfJson? ElementType.all ElementType.documentName json

/-- The document of a family. -/
def Family.toJson (family : Family) : Json :=
  Json.ofText family.name

/-- The family of a document. -/
def Family.ofJson? (json : Json) : Option Family :=
  choiceOfJson? Family.all Family.name json

/-! ## Settings -/

/-- Which values are stored. -/
inductive StorageMode
  /-- No values are stored. -/
  | off
  /-- Only arrays are stored. -/
  | array
  /-- Arrays are stored, and other values by way of a serializer. -/
  | byteStream
  deriving DecidableEq, Repr

namespace StorageMode

/-- All storage modes. -/
def all : List StorageMode :=
  [off, array, byteStream]

/-- The name of a mode in documents. -/
def name : StorageMode → String
  | off => "off"
  | array => "array"
  | byteStream => "byte_stream"

/-- Values may be stored by way of a serializer. -/
def allowsStreams (mode : StorageMode) : Bool :=
  mode = byteStream

/-- The words for each mode. -/
def words : StorageMode → List String
  | off => ["0", "off", "no"]
  | array => ["1", "array"]
  | byteStream => ["2", "byte_stream", "bytestream", "stream"]

/-- The mode with a word, in letters of any case and with blanks around it. -/
def ofWord? (word : String) : Option StorageMode :=
  all.find? fun mode => mode.words.any fun known => Text.sameIgnoringCase known (Text.trim word)

/-- The document of a mode. -/
def toJson (mode : StorageMode) : Json :=
  Json.ofText mode.name

/-- The mode of a document. -/
def ofJson? (json : Json) : Option StorageMode :=
  choiceOfJson? all name json

end StorageMode

/-- The truth value with a word, in letters of any case and with blanks around it. -/
def truthOfWord? (word : String) : Option Bool :=
  let known (words : List String) : Bool :=
    words.any fun known => Text.sameIgnoringCase known (Text.trim word)
  if known ["1", "true", "yes", "on"] then some true
  else if known ["0", "false", "no", "off"] then some false
  else none

/-- What a codec does by default. -/
structure Settings where
  /-- The name of the compressor, empty for none. -/
  compressor : String := ""
  level : Int32 := 0
  /-- Lossless payloads are read back and compared after packing. -/
  verify : Bool := true
  maxBlobSize : UInt64 := 2147483647
  mode : StorageMode := .array
  deriving DecidableEq

namespace Settings

/-- The settings where nothing is set. -/
def default : Settings := {}

/-- The selection of the compressor and the level. -/
def selection (settings : Settings) : Except Fault Selection :=
  Selection.ofName settings.compressor settings.level.toInt

/-- Refuses settings whose level or compressor selects nothing. -/
def validate (settings : Settings) : Except Fault Unit := do
  let _ ← Level.ofInt settings.level.toInt
  let _ ← settings.selection

/-! ## Variables -/

/-- The settings of named variables before they are validated. -/
def ofVariablesUnchecked (lookup : String → Option String) : Settings where
  compressor := ((lookup "TYPEBLOB_COMPRESSOR").map Text.trim).getD default.compressor
  level :=
    (((lookup "TYPEBLOB_LEVEL").bind fun text =>
      Text.intWithin? (2 ^ 31) (Text.trim text)).map Int32.ofInt).getD default.level
  verify := ((lookup "TYPEBLOB_VERIFY").bind truthOfWord?).getD default.verify
  maxBlobSize :=
    (((lookup "TYPEBLOB_MAX_BLOB_SIZE").bind fun text =>
      Text.natBelow? (2 ^ 64) (Text.trim text)).map UInt64.ofNat).getD default.maxBlobSize
  mode := ((lookup "TYPEBLOB_MODE").bind StorageMode.ofWord?).getD default.mode

/-- The settings of named variables. -/
def ofVariables (lookup : String → Option String) : Except Fault Settings := do
  let settings := ofVariablesUnchecked lookup
  settings.validate
  return settings

/-! ## Documents -/

/-- A field of the settings. -/
inductive Field
  | compressor
  | level
  | verify
  | maxBlobSize
  | mode
  deriving DecidableEq, Repr

namespace Field

/-- All fields in the order of documents. -/
def all : List Field :=
  [compressor, level, verify, maxBlobSize, mode]

/-- The name of a field in documents. -/
def name : Field → String
  | compressor => "compressor"
  | level => "level"
  | verify => "verify_round_trip"
  | maxBlobSize => "max_blob_size"
  | mode => "mode"

/-- The document of a field. -/
def toJson (settings : Settings) : Field → Json
  | compressor => Json.ofText settings.compressor
  | level => Json.ofInt settings.level.toInt
  | verify => Json.bool settings.verify
  | maxBlobSize => Json.ofInt settings.maxBlobSize.toNat
  | mode => settings.mode.toJson

/-- The settings with a field taken from its document. -/
def set? (settings : Settings) (json : Json) : Field → Option Settings
  | compressor => json.toText?.map fun text => { settings with compressor := text }
  | level =>
    (json.toIntBetween? (-2 ^ 31) (2 ^ 31)).map fun n => { settings with level := Int32.ofInt n }
  | verify => json.toBool?.map fun value => { settings with verify := value }
  | maxBlobSize =>
    (json.toIntBetween? 0 (2 ^ 64)).map fun n =>
      { settings with maxBlobSize := UInt64.ofNat n.toNat }
  | mode => (StorageMode.ofJson? json).map fun mode => { settings with mode := mode }

end Field

/-- The document of some fields of the settings. -/
def fieldsToJson (settings : Settings) (fields : List Field) : Json :=
  Json.ofMembers (fields.map fun field => (field.name, field.toJson settings))

/-- The document of the settings. -/
def toJson (settings : Settings) : Json :=
  settings.fieldsToJson Field.all

/-- The settings with a field taken from the members of an object, if it is there. A field that is
there twice is refused. -/
def setMember? (members : List (String × Json)) (settings : Settings) (field : Field) :
    Option Settings :=
  match members.filter fun member => member.1 == field.name with
  | [] => some settings
  | [(_, value)] => field.set? settings value
  | _ => none

/-- The settings with fields taken from the elements of an array, as far as there are any. -/
def setElements? (settings : Settings) : List Field → List Json → Option Settings
  | _, [] => some settings
  | [], _ :: _ => none
  | field :: fields, element :: elements =>
    match field.set? settings element with
    | some settings => setElements? settings fields elements
    | none => none

/-- The settings of a document: an object of fields, of which unknown ones are passed over, or an
array of the first fields. Fields that are missing have their default. -/
def ofJson? (json : Json) : Option Settings :=
  match json with
  | .array elements => setElements? default Field.all elements
  | json => do
    let members ← json.toMembers?
    Field.all.foldlM (setMember? members) default

end Settings
end ArrayBlob
