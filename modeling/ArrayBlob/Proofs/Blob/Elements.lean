import ArrayBlob.Proofs.Blob.Shape
import ArrayBlob.Proofs.Blob.Unpacking

/-!
# Elements and their bytes

Putting elements into an array and taking them out again are inverse to each other, for every one of
the ten types of elements: what is put in comes out, at that type and at no other, and the elements
of any bytes are written as these bytes. In between stands the one check of the number of elements
against the shape.
-/

namespace ArrayBlob
namespace Element

/-- The types of elements. -/
inductive Kind
  | double
  | single
  | int8
  | uint8
  | int16
  | uint16
  | int32
  | uint32
  | int64
  | uint64
  deriving DecidableEq, Repr

namespace Kind

/-- The elements of a type. -/
def Value : Kind → Type
  | double => Double
  | single => Single
  | int8 => Int8
  | uint8 => UInt8
  | int16 => Int16
  | uint16 => UInt16
  | int32 => Int32
  | uint32 => UInt32
  | int64 => Int64
  | uint64 => UInt64

instance (kind : Kind) : Element kind.Value :=
  match kind with
  | double => inferInstanceAs (Element Double)
  | single => inferInstanceAs (Element Single)
  | int8 => inferInstanceAs (Element Int8)
  | uint8 => inferInstanceAs (Element UInt8)
  | int16 => inferInstanceAs (Element Int16)
  | uint16 => inferInstanceAs (Element UInt16)
  | int32 => inferInstanceAs (Element Int32)
  | uint32 => inferInstanceAs (Element UInt32)
  | int64 => inferInstanceAs (Element Int64)
  | uint64 => inferInstanceAs (Element UInt64)

/-- The type that arrays of these elements have. -/
def elementType (kind : Kind) : ElementType :=
  type kind.Value

theorem elementType_injective {left right : Kind}
    (same : left.elementType = right.elementType) : left = right := by
  revert same
  cases left <;> cases right <;> decide

end Kind
end Element

namespace TypedArray

variable {α β : Type} [Element α] [Element β] {dims : List Nat} {values : List α}
  {array : TypedArray}

/-- Elements in memory make an array exactly as their bytes do. -/
theorem ofElements_eq (dims : List Nat) (small : values.length * Element.width α < 2 ^ 63) :
    ofElements dims values = ofBytes (Element.type α) dims (Element.encodeAll values) := by
  rw [ofElements, reserve_eq_ok_iff.2 small, ok_bind]

/-- An array that was made of elements has their type, the shape, and their bytes. -/
theorem fields_of_ofElements (made : ofElements dims values = .ok array) :
    array.elementType = Element.type α ∧ array.dims = dims
      ∧ array.data = Element.encodeAll values := by
  obtain ⟨⟨⟩, -, made⟩ := bind_eq_ok_iff.1 made
  exact fields_of_ofBytes made

/-- The bytes of an array are those of whole elements. -/
theorem whole_data (array : TypedArray) : array.data.length % array.elementType.size = 0 :=
  Nat.mod_eq_zero_of_dvd (Shape.size_dvd_rawSize array.rawSize_eq)

theorem toElements_of_type (same : Element.type α = array.elementType) :
    array.toElements α = .ok (Element.decodeAll array.data) :=
  if_pos same

theorem toElements_of_other_type (other : Element.type α ≠ array.elementType) :
    array.toElements α
      = .error (.unsupportedVariableType (.otherElements array.elementType (Element.type α))) :=
  if_neg other

/-- An array with some elements has their type, their bytes are its bytes, and it has as many bytes
as they take. -/
theorem fields_of_toElements (elements : array.toElements α = .ok values) :
    array.elementType = Element.type α ∧ Element.decodeAll array.data = values
      ∧ array.data.length = (Element.type α).size * values.length := by
  by_cases same : Element.type α = array.elementType
  · have whole := array.whole_data
    rw [toElements_of_type same] at elements
    cases elements
    refine ⟨same.symm, rfl, ?_⟩
    rw [← same] at whole
    rw [Element.length_decodeAll]
    exact (Nat.mul_div_cancel' (Nat.dvd_of_mod_eq_zero whole)).symm
  · rw [toElements_of_other_type same] at elements
    cases elements

/-- An array with the type and the bytes of some elements has these elements. -/
theorem toElements_encodeAll (same : Element.type α = array.elementType)
    (data : array.data = Element.encodeAll values) : array.toElements α = .ok values := by
  rw [toElements_of_type same, data, Element.decodeAll_encodeAll]

/-- The elements of an array make the array. -/
theorem ofElements_toElements (same : Element.type α = array.elementType)
    (small : array.data.length < 2 ^ 63) :
    ofElements array.dims (Element.decodeAll array.data : List α) = .ok array := by
  have width : Element.width α = array.elementType.size := congrArg ElementType.size same
  have whole : array.data.length % Element.width α = 0 := width ▸ array.whole_data
  have room : (Element.decodeAll array.data : List α).length * Element.width α < 2 ^ 63 := by
    rw [Element.length_decodeAll]
    exact Nat.lt_of_le_of_lt (Nat.div_mul_le_self _ _) small
  rw [ofElements_eq array.dims room, Element.encodeAll_decodeAll α whole, same, ofBytes_self]

/-- Elements that make an array are found in it again. It has the shape, their type and their size
for each of them, and it holds elements of no other type. And the elements of any array in memory
that has their type make this array again. -/
theorem elements_round_trip (kind : Element.Kind) :
    (∀ (dims : List Nat) (values : List kind.Value) (array : TypedArray),
      ofElements dims values = .ok array →
        array.elementType = kind.elementType ∧ array.dims = dims
          ∧ array.data.length = kind.elementType.size * values.length
          ∧ array.toElements kind.Value = .ok values
          ∧ ∀ other ≠ kind, array.toElements other.Value
            = .error (.unsupportedVariableType
              (.otherElements kind.elementType other.elementType)))
    ∧ ∀ array : TypedArray, array.elementType = kind.elementType → array.data.length < 2 ^ 63 →
      ∃ values : List kind.Value, array.toElements kind.Value = .ok values
        ∧ ofElements array.dims values = .ok array := by
  constructor
  · intro dims values array made
    obtain ⟨type, shape, data⟩ := fields_of_ofElements made
    refine ⟨type, shape, ?_, toElements_encodeAll type.symm data, ?_⟩
    · rw [data, Element.length_encodeAll]
      rfl
    · intro other different
      have differs : Element.type other.Value ≠ array.elementType := fun same =>
        different (Element.Kind.elementType_injective (same.trans type))
      rw [toElements_of_other_type differs, type]
      rfl
  · intro array type small
    exact ⟨_, toElements_of_type type.symm, ofElements_toElements type.symm small⟩

/-- Four integers of 16 bits under a shape of two rows and two columns come back with their signs,
and not as integers without a sign; their bytes under the same shape hold integers that make the
array again. -/
theorem elements_round_trip_signed :
    ∃ array values, ofElements [2, 2] ([-3, 0, 7, 32767] : List Int16) = .ok array
      ∧ array.toElements Int16 = .ok [-3, 0, 7, 32767]
      ∧ array.toElements UInt16 = .error (.unsupportedVariableType (.otherElements .int16 .uint16))
      ∧ array.elementType = .int16 ∧ array.data.length < 2 ^ 63
      ∧ array.toElements Int16 = .ok values ∧ ofElements array.dims values = .ok array := by
  obtain ⟨array, made⟩ :
      ∃ array, ofElements [2, 2] ([-3, 0, 7, 32767] : List Int16) = .ok array := ⟨_, rfl⟩
  obtain ⟨writes, reads⟩ := elements_round_trip .int16
  obtain ⟨type, -, sized, found, others⟩ := writes _ _ _ made
  have small : array.data.length < 2 ^ 63 := by
    rw [sized]
    decide
  obtain ⟨values, again, rebuilt⟩ := reads array type small
  exact ⟨array, values, made, found, others .uint16 (by decide), type, small, again, rebuilt⟩

end TypedArray
end ArrayBlob
