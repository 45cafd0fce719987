import ArrayBlob.Proofs.Blob.Elements
import ArrayBlob.Proofs.Text.Surrogates

/-!
# Texts in arrays

A text becomes a row of its UTF-16 units, and the row is read as the text. Any array of characters,
whatever its shape, is read as a text exactly if the surrogates among its units come in pairs, and
the row of that text then has the same bytes.
-/

namespace ArrayBlob
namespace TypedArray

variable {array : TypedArray} {text : String}

/-- The units of an array of characters. -/
def units (array : TypedArray) : List UInt16 :=
  Element.decodeAll array.data

/-! ## Writing -/

/-- The bytes of the units of a text. -/
theorem length_encodeAll_units (text : String) :
    (Element.encodeAll (Utf16.encode text.toList)).length
      = 2 * Utf16.unitCount text.toList := by
  rw [Element.length_encodeAll, Utf16.length_encode]
  rfl

/-- The row of a text, whose units are less than 64 bits can count the bytes of. -/
theorem ofText_eq_ok (small : 2 * Utf16.unitCount text.toList < Shape.limit) :
    ∃ array, ofText text = .ok array ∧ array.elementType = .char
      ∧ array.dims = [1, Utf16.unitCount text.toList]
      ∧ array.data = Element.encodeAll (Utf16.encode text.toList) := by
  have size : ElementType.char.size = 2 := rfl
  have sized : Shape.rawSize .char [1, Utf16.unitCount text.toList]
      = .ok (Element.encodeAll (Utf16.encode text.toList)).length := by
    rw [length_encodeAll_units, Nat.mul_comm, ← size]
    exact Shape.rawSize_row (by rwa [size, Nat.mul_comm])
  refine ⟨⟨_, _, _, sized⟩, ?_, rfl, rfl, rfl⟩
  rw [ofText, Utf16.length_encode, ofBytes_eq_ok sized]

/-! ## Reading -/

/-- An array of characters is read as the text that its units denote, if they denote one. -/
theorem toText_eq (characters : array.elementType = .char) :
    array.toText = match Utf16.decode array.units with
      | some chars => .ok (String.ofList chars)
      | none => .error (.serialization .loneSurrogate) :=
  if_pos characters

theorem toText_eq_ok_iff (characters : array.elementType = .char) :
    array.toText = .ok text ↔ Utf16.decode array.units = some text.toList := by
  rw [toText_eq characters]
  cases Utf16.decode array.units with
  | none => simp
  | some chars =>
    rw [Except.ok.injEq, Option.some.injEq]
    exact ⟨fun same => by rw [← same, String.toList_ofList],
      fun same => by rw [same, String.ofList_toList]⟩

theorem toText_succeeds_iff (characters : array.elementType = .char) :
    (∃ text, array.toText = .ok text) ↔ Utf16.WellPaired array.units := by
  rw [← Utf16.decode_succeeds_iff]
  constructor
  · rintro ⟨text, read⟩
    exact ⟨_, (toText_eq_ok_iff characters).1 read⟩
  · rintro ⟨chars, read⟩
    refine ⟨String.ofList chars, (toText_eq_ok_iff characters).2 ?_⟩
    rw [read, String.toList_ofList]

theorem toText_of_not_wellPaired (characters : array.elementType = .char)
    (unpaired : ¬ Utf16.WellPaired array.units) :
    array.toText = .error (.serialization .loneSurrogate) := by
  rw [toText_eq characters]
  cases read : Utf16.decode array.units with
  | none => rfl
  | some chars => exact absurd (Utf16.decode_succeeds_iff.1 ⟨chars, read⟩) unpaired

/-- The bytes of an array of characters are those of its units. -/
theorem encodeAll_units (characters : array.elementType = .char) :
    Element.encodeAll array.units = array.data := by
  have whole := array.whole_data
  rw [characters] at whole
  exact Element.encodeAll_decodeAll UInt16 whole

/-- What is read of an array is written to the bytes of the array. -/
theorem exists_ofText_of_toText (characters : array.elementType = .char)
    (read : array.toText = .ok text) :
    ∃ row, ofText text = .ok row ∧ row.data = array.data := by
  have written := Utf16.encode_of_decode ((toText_eq_ok_iff characters).1 read)
  have bytes : Element.encodeAll (Utf16.encode text.toList) = array.data := by
    rw [written, encodeAll_units characters]
  have small : 2 * Utf16.unitCount text.toList < Shape.limit := by
    rw [← length_encodeAll_units, bytes]
    obtain ⟨count, -, fits, sized⟩ := Shape.rawSize_eq_ok_iff.1 array.rawSize_eq
    rwa [sized]
  obtain ⟨row, made, -, -, data⟩ := ofText_eq_ok small
  exact ⟨row, made, data.trans bytes⟩

/-- Every text in memory makes a row of as many characters as it has units, of two bytes each, from
which the text is read again. An array of characters is read exactly if every high surrogate among
its units has a low one right behind it and every low one a high one right in front of it; otherwise
it holds half of a pair. The row of the text that is read has the bytes of the array. -/
theorem text_round_trip :
    (∀ text : String, (Utf8.encode text).length < 2 ^ 63 →
      ∃ array, ofText text = .ok array ∧ array.elementType = .char
        ∧ array.dims = [1, Utf16.unitCount text.toList]
        ∧ array.data.length = 2 * Utf16.unitCount text.toList
        ∧ array.toText = .ok text)
    ∧ ∀ array : TypedArray, array.elementType = .char →
      ((∃ text, array.toText = .ok text) ↔ Utf16.WellPaired array.units)
      ∧ (¬ Utf16.WellPaired array.units →
        array.toText = .error (.serialization .loneSurrogate))
      ∧ ∀ text, array.toText = .ok text →
        ∃ row, ofText text = .ok row ∧ row.data = array.data := by
  constructor
  · intro text inMemory
    have few := Utf16.unitCount_le text
    have small : 2 * Utf16.unitCount text.toList < Shape.limit := by
      unfold Shape.limit
      omega
    obtain ⟨array, made, type, dims, data⟩ := ofText_eq_ok small
    have read : Utf16.decode array.units = some text.toList := by
      rw [units, data, Element.decodeAll_encodeAll, Utf16.decode_encode]
    refine ⟨array, made, type, dims, ?_, (toText_eq_ok_iff type).2 read⟩
    rw [data, length_encodeAll_units]
  · intro array characters
    exact ⟨toText_succeeds_iff characters, toText_of_not_wellPaired characters,
      fun text read => exists_ofText_of_toText characters read⟩

/-- A letter and a character above the first 65536 make a row of three units. The units of the
second, in a column, are read as this character; the other way round they are no text. -/
theorem text_round_trip_column :
    (Utf8.encode "a😀").length < 2 ^ 63
      ∧ (∃ array, ofText "a😀" = .ok array ∧ array.dims = [1, 3] ∧ array.data.length = 6
        ∧ array.toText = .ok "a😀")
      ∧ ∃ column swapped row, ofBytes .char [2, 1] [0x3D, 0xD8, 0x00, 0xDE] = .ok column
        ∧ ofBytes .char [2, 1] [0x00, 0xDE, 0x3D, 0xD8] = .ok swapped
        ∧ Utf16.WellPaired column.units ∧ ¬ Utf16.WellPaired swapped.units
        ∧ column.toText = .ok "😀" ∧ swapped.toText = .error (.serialization .loneSurrogate)
        ∧ ofText "😀" = .ok row ∧ row.data = [0x3D, 0xD8, 0x00, 0xDE] := by
  have small : (Utf8.encode "a😀").length < 2 ^ 63 := by decide
  obtain ⟨writes, reads⟩ := text_round_trip
  obtain ⟨array, made, -, dims, sized, found⟩ := writes "a😀" small
  let column : TypedArray := ⟨.char, [2, 1], [0x3D, 0xD8, 0x00, 0xDE], rfl⟩
  let swapped : TypedArray := ⟨.char, [2, 1], [0x00, 0xDE, 0x3D, 0xD8], rfl⟩
  have denoted : column.toText = .ok "😀" := by decide
  obtain ⟨paired, -, rewritten⟩ := reads column rfl
  obtain ⟨-, refused, -⟩ := reads swapped rfl
  have units : swapped.units = [0xDE00, 0xD83D] := by decide
  have unpaired : ¬ Utf16.WellPaired swapped.units := by
    rw [units]
    exact Utf16.not_wellPaired_of_isLow (by decide)
  obtain ⟨row, written, data⟩ := rewritten "😀" denoted
  exact ⟨small, ⟨array, made, dims, sized, found⟩, column, swapped, row, rfl, rfl,
    paired.1 ⟨_, denoted⟩, unpaired, denoted, refused unpaired, written, data⟩

end TypedArray
end ArrayBlob
