import ArrayBlob.Proofs.Blob.Elements
import ArrayBlob.Proofs.Blob.HeaderWriting
import ArrayBlob.Proofs.Blob.StreamGate

/-!
# Arrays have the shape they say

Every way to an array goes through the one check of the data against the shape. What comes out has
as many elements as its shape describes, and bytes for exactly these; the header in a blob of the
array is made of the same shape and describes the same number of bytes.
-/

namespace ArrayBlob
namespace TypedArray

variable {elementType : ElementType} {dims : List Nat} {data : Bytes} {array : TypedArray}

/-! ## The check -/

/-- Bytes make an array exactly if the shape has a count, and they are as many as its elements take,
which are below the limit. -/
theorem ofBytes_succeeds_iff :
    (∃ array, ofBytes elementType dims data = .ok array)
      ↔ ∃ count, Shape.elementCount dims = .ok count
        ∧ count * elementType.size < Shape.limit ∧ data.length = count * elementType.size := by
  rw [← Shape.rawSize_eq_ok_iff]
  constructor
  · rintro ⟨array, made⟩
    obtain ⟨rfl, rfl, rfl⟩ := fields_of_ofBytes made
    exact array.rawSize_eq
  · intro sized
    exact ⟨_, ofBytes_eq_ok sized⟩

/-- Other bytes are refused for their shape. -/
theorem ofBytes_fails (other : ¬ ∃ array, ofBytes elementType dims data = .ok array) :
    ∃ flaw, ofBytes elementType dims data = .error (.invalidShape flaw) := by
  obtain ⟨fault, failed⟩ := fails_iff.2 other
  have category := ofBytes_failsWithin elementType dims data fault failed
  obtain ⟨flaw, rfl⟩ := Fault.category_eq_invalidShape_iff.1 (List.mem_singleton.1 category)
  exact ⟨flaw, failed⟩

/-! ## What passes it -/

/-- An array has a shape of some number of elements, and exactly these. -/
structure HasShape (array : TypedArray) (dims : List Nat) (count : Nat) : Prop where
  dims_eq : array.dims = dims
  counted : Shape.elementCount dims = .ok count
  length_data : array.data.length = count * array.elementType.size
  size_eq : array.size = count
  isEmpty_iff : array.isEmpty = true ↔ count = 0

theorem exists_hasShape (array : TypedArray) : ∃ count, HasShape array array.dims count := by
  obtain ⟨count, counted, -, sized⟩ := Shape.rawSize_eq_ok_iff.1 array.rawSize_eq
  have positive := array.elementType.size_pos
  refine ⟨count, rfl, counted, sized, ?_, ?_⟩
  · rw [size, sized, Nat.mul_div_cancel _ positive]
  · rw [isEmpty, List.isEmpty_iff_length_eq_zero, sized, Nat.mul_eq_zero]
    exact or_iff_left (Nat.ne_of_gt positive)

/-- The ways to an array, each with the shape that is asked for. -/
inductive Obtained [Exponential] : List Nat → TypedArray → Prop
  /-- Raw bytes under a shape. -/
  | bytes {elementType : ElementType} {dims : List Nat} {data : Bytes} {array : TypedArray}
      (made : ofBytes elementType dims data = .ok array) : Obtained dims array
  /-- Elements under a shape. -/
  | elements {α : Type} [Element α] {dims : List Nat} {values : List α} {array : TypedArray}
      (made : ofElements dims values = .ok array) : Obtained dims array
  /-- A single element. -/
  | scalar {α : Type} [Element α] {value : α} {array : TypedArray}
      (made : ofScalar value = .ok array) : Obtained [1, 1] array
  /-- Truth values under a shape. -/
  | bools {dims : List Nat} {values : List Bool} {array : TypedArray}
      (made : ofBools dims values = .ok array) : Obtained dims array
  /-- The row of the characters of a text. -/
  | text {text : String} {array : TypedArray} (made : ofText text = .ok array) :
      Obtained [1, (Utf16.encode text.toList).length] array
  /-- The row of the bytes of a stream. -/
  | stream {stream : Bytes} {array : TypedArray} (made : ofStream stream = .ok array) :
      Obtained [1, stream.length] array
  /-- The value of a blob, under the shape in its header. -/
  | unpacked {γ : Type} {codec : Codec γ} {blob : Bytes} {header : Header}
      {unpacked : Unpacked γ} {array : TypedArray} (read : Header.decode blob = .ok header)
      (done : codec.unpack blob = .ok unpacked) (value : unpacked.value = .array array) :
      Obtained header.dims array

/-- Whatever the way, the array has the shape that was asked for. -/
theorem Obtained.dims_eq [Exponential] (obtained : Obtained dims array) : array.dims = dims := by
  cases obtained with
  | bytes made => exact (fields_of_ofBytes made).2.1
  | elements made => exact (fields_of_ofElements made).2.1
  | scalar made => exact (fields_of_ofElements made).2.1
  | bools made => exact (fields_of_ofBytes made).2.1
  | text made => exact (fields_of_ofBytes made).2.1
  | stream made => exact (fields_of_ofBytes made).2.1
  | unpacked read done value =>
    obtain ⟨header, data, stored, again, -, made, valued, -⟩ := Codec.unpack_eq_ok done
    cases read.symm.trans again
    rw [value] at valued
    obtain ⟨rfl, -⟩ := Codec.eq_of_valueOf_array valued
    exact (fields_of_ofBytes made).2.1

theorem Obtained.exists_hasShape [Exponential] (obtained : Obtained dims array) :
    ∃ count, HasShape array dims count :=
  obtained.dims_eq ▸ array.exists_hasShape

/-! ## What is packed of it -/

/-- The blob of an array starts with a header of its type and its shape. -/
theorem exists_header_of_packArray [Exponential] {settings : Settings} {selection : Selection}
    {packed : Packed} (done : settings.packArray array selection = .ok packed) :
    ∃ header, (Header.decodeFront packed.bytes).run = some (.ok (header, header.payloadOffset))
      ∧ header.elementType = array.elementType ∧ header.dims = array.dims
      ∧ header.rawSize = .ok array.data.length := by
  obtain ⟨-, packedRaw⟩ := Settings.packArray_eq_ok done
  obtain ⟨coded?, header, -, -, made, rfl⟩ := packRaw_eq_ok packedRaw
  obtain ⟨type, -, -, dims⟩ := Header.fields_of_make made
  rw [Packed.bytes_ofChoice]
  exact ⟨header, header.decodeFront_encode _, type, dims,
    Header.rawSize_of_make made array.rawSize_eq⟩

/-- The number of elements of a shape is given exactly if the product of the dimensions in front of
the first zero, which are all if none is zero, fits 64 bits. It is zero without dimensions or with a
zero among them, and otherwise their product, whatever their order. Bytes make an array exactly if
moreover the bytes of as many elements fit 64 bits and are as many; otherwise the shape is invalid.
So every array, whichever way it was obtained, has the shape that was asked for, as many elements as
that describes, bytes for exactly these, and is empty exactly if there are none. The header that is
packed in front of an array describes as many bytes as the array has. -/
theorem shape_invariant [Exponential] :
    (∀ dims count, Shape.elementCount dims = .ok count
      ↔ (dims.takeWhile (· ≠ 0)).prod < 2 ^ 64
        ∧ count = if dims = [] ∨ 0 ∈ dims then 0 else dims.prod)
    ∧ (∀ dims other : List Nat, 0 ∉ dims → dims.Perm other →
      Shape.elementCount dims = Shape.elementCount other)
    ∧ (∀ elementType dims data,
      ((∃ array, ofBytes elementType dims data = .ok array)
        ↔ ∃ count, Shape.elementCount dims = .ok count ∧ count * elementType.size < 2 ^ 64
          ∧ data.length = count * elementType.size)
      ∧ ((¬ ∃ array, ofBytes elementType dims data = .ok array) →
        ∃ flaw, ofBytes elementType dims data = .error (.invalidShape flaw)))
    ∧ (∀ dims array, Obtained dims array → ∃ count, HasShape array dims count)
    ∧ ∀ {γ : Type} (codec : Codec γ) (array : TypedArray) (selection : Selection) (packed : Packed),
      codec.pack (.array array) selection = .ok packed →
        ∃ header, (Header.decodeFront packed.bytes).run = some (.ok (header, header.payloadOffset))
          ∧ header.elementType = array.elementType ∧ header.dims = array.dims
          ∧ header.rawSize = .ok array.data.length := by
  refine ⟨?_, ?_, ?_, ?_, ?_⟩
  · intro dims count
    exact Shape.elementCount_eq_ok_iff
  · intro dims other nonzero perm
    exact Shape.elementCount_perm nonzero perm
  · intro elementType dims data
    exact ⟨ofBytes_succeeds_iff, ofBytes_fails⟩
  · intro dims array obtained
    exact obtained.exists_hasShape
  · intro γ codec array selection packed done
    exact exists_header_of_packArray done

/-- A zero makes the count zero unless the dimensions in front of it overflow, three by two elements
are as many as two by three, a byte is no double, and a column of two truth values has two elements
and is packed behind a header that describes two bytes. -/
theorem shape_invariant_column :
    Shape.elementCount [2 ^ 40, 0, 2 ^ 40] = .ok 0
      ∧ (¬ ∃ count, Shape.elementCount [2 ^ 40, 2 ^ 40, 0] = .ok count)
      ∧ Shape.elementCount [3, 2] = Shape.elementCount [2, 3]
      ∧ (∃ flaw, ofBytes .double [1] [0] = .error (.invalidShape flaw))
      ∧ ∃ array packed header, ofBools [2, 1] [true, false] = .ok array
        ∧ HasShape array [2, 1] 2
        ∧ @Codec.pack .coarse _ Codec.plain (.array array) .uncompressed = .ok packed
        ∧ (Header.decodeFront packed.bytes).run = some (.ok (header, header.payloadOffset))
        ∧ header.rawSize = .ok 2 := by
  let exponential := Exponential.coarse
  obtain ⟨counts, orders, checks, ways, packs⟩ := shape_invariant
  have column : ∃ array packed, ofBools [2, 1] [true, false] = .ok array
      ∧ Codec.plain.pack (.array array) .uncompressed = .ok packed ∧ array.data.length = 2 :=
    ⟨_, _, rfl, rfl, rfl⟩
  obtain ⟨array, packed, made, done, sized⟩ := column
  obtain ⟨count, shaped⟩ := ways _ _ (.bools made)
  have two : count = 2 := ((counts _ _).1 shaped.counted).2.trans (by decide)
  obtain ⟨header, read, -, -, described⟩ := packs _ _ _ _ done
  refine ⟨(counts _ _).2 (by decide), ?_, orders _ _ (by decide) (by decide), ?_,
    array, packed, header, made, two ▸ shaped, done, read, sized ▸ described⟩
  · rintro ⟨count, counted⟩
    have small := ((counts _ _).1 counted).1
    revert small
    decide
  · refine (checks .double [1] [0]).2 fun fits => ?_
    obtain ⟨count, counted, -, length⟩ := (checks .double [1] [0]).1.1 fits
    obtain ⟨-, rfl⟩ := (counts _ _).1 counted
    revert length
    decide

end TypedArray
end ArrayBlob
