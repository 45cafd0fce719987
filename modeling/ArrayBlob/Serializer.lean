import ArrayBlob.Fault
import ArrayBlob.Json.Reader
import ArrayBlob.Json.Writer
import ArrayBlob.Text.Utf8

/-!
# Serializers

A value that is no array is stored as the byte stream that a serializer makes of it. A serializer
of JSON documents is given by how values become documents and back. Tables are kept in the order of
their keys, and of entries with the same key the last one counts.
-/

namespace ArrayBlob

/-- How values of a type become byte streams and back. -/
structure Serializer (γ : Type) where
  serialize : γ → Except Fault Bytes
  deserialize : Bytes → Except Fault γ

/-- Entries in the order of their keys. -/
abbrev Table (α : Type) := List (String × α)

namespace Table

/-- The table with an entry, in place of one with the same key. -/
def insert {α : Type} (key : String) (value : α) : Table α → Table α
  | [] => [(key, value)]
  | (first, held) :: rest =>
    if key < first then (key, value) :: (first, held) :: rest
    else if key = first then (key, value) :: rest
    else (first, held) :: insert key value rest

/-- The table of some entries. -/
def ofList {α : Type} (entries : List (String × α)) : Table α :=
  entries.foldl (fun table entry => insert entry.1 entry.2 table) []

end Table

namespace Serializer

/-- The serializer where no values other than arrays are stored. -/
def none : Serializer Empty where
  serialize := Empty.elim
  deserialize _ := .error (.unsupportedVariableType .serializerMissing)

/-- The serializer of JSON documents. -/
def ofJson {γ : Type} (toJson : γ → Except Fault Json) (ofJson? : Json → Option γ) :
    Serializer γ where
  serialize value := return Utf8.encode (← toJson value).toText
  deserialize stream :=
    match ((Utf8.decode stream).bind Json.ofString?).bind ofJson? with
    | some value => .ok value
    | Option.none => .error (.serialization .unreadable)

/-- The table of a document whose values are arrays. -/
def tableOfJson? {α : Type} (ofJson? : Json → Option α) (json : Json) :
    Option (Table (List α)) := do
  let members ← json.toMembers?
  let entries ← members.mapM fun (key, value) => do
    return (key, ← (← value.toElements?).mapM ofJson?)
  return Table.ofList entries

/-- The document of a table of lists. -/
def tableToJson {α : Type} (toJson : α → Json) (table : Table (List α)) : Json :=
  Json.ofMembers (table.map fun (key, values) => (key, Json.array (values.map toJson)))

/-- Lists of texts. -/
def strings : Serializer (List String) :=
  ofJson (fun texts => .ok (Json.array (texts.map Json.ofText)))
    fun json => json.toElements?.bind fun elements => elements.mapM Json.toText?

/-- Tables of lists of 64-bit integers. -/
def integers : Serializer (Table (List Int64)) :=
  ofJson (fun table => .ok (tableToJson (fun n => Json.ofInt n.toInt) table))
    (tableOfJson? fun json => (json.toIntBetween? (-2 ^ 63) (2 ^ 63)).map Int64.ofInt)

/-- Tables of lists of doubles. What is not finite is written as null and is not read back. -/
def doubles : Serializer (Table (List Double)) :=
  ofJson (fun table => .ok (tableToJson Json.ofDouble table)) (tableOfJson? Json.toDouble?)

/-- Pairs of a list and a number. A document has no keys that are lists, so only the empty
collection of pairs can be written. -/
def pairs : Serializer (List (List Int64 × Int64)) :=
  ofJson
    (fun pairs =>
      if pairs.isEmpty then .ok (Json.object []) else .error (.serialization .keyNotText))
    fun json => json.toMembers?.bind fun members => if members.isEmpty then some [] else Option.none

end Serializer
end ArrayBlob
