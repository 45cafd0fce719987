import ArrayBlob.Binary.Single
import ArrayBlob.Bytes.LittleEndian
import ArrayBlob.Element.ElementType

/-!
# Elements

The ten types whose values can be put into an array and taken out of it. Each value is a word of
the width of its element type, and every such word is a value, so storing values and reading bytes
are inverse to each other.
-/

namespace ArrayBlob

/-- A type of values that are the words of an element type. -/
class Element (α : Type) where
  type : ElementType
  word : α → Nat
  ofWord : Nat → α
  word_lt (value : α) : word value < 256 ^ type.size
  ofWord_word (value : α) : ofWord (word value) = value
  word_ofWord (n : Nat) : n < 256 ^ type.size → word (ofWord n) = n

namespace Element

instance : Element Double where
  type := .double
  word x := x.bits.toNat
  ofWord n := ⟨UInt64.ofNat n⟩
  word_lt x := x.bits.toNat_lt
  ofWord_word x := by simp
  word_ofWord n h := UInt64.toNat_ofNat_of_lt' h

instance : Element Single where
  type := .single
  word x := x.bits.toNat
  ofWord n := ⟨UInt32.ofNat n⟩
  word_lt x := x.bits.toNat_lt
  ofWord_word x := by simp
  word_ofWord n h := UInt32.toNat_ofNat_of_lt' h

instance : Element UInt8 where
  type := .uint8
  word := UInt8.toNat
  ofWord := UInt8.ofNat
  word_lt x := x.toNat_lt
  ofWord_word _ := UInt8.ofNat_toNat
  word_ofWord _ h := UInt8.toNat_ofNat_of_lt' h

instance : Element UInt16 where
  type := .uint16
  word := UInt16.toNat
  ofWord := UInt16.ofNat
  word_lt x := x.toNat_lt
  ofWord_word _ := UInt16.ofNat_toNat
  word_ofWord _ h := UInt16.toNat_ofNat_of_lt' h

instance : Element UInt32 where
  type := .uint32
  word := UInt32.toNat
  ofWord := UInt32.ofNat
  word_lt x := x.toNat_lt
  ofWord_word _ := UInt32.ofNat_toNat
  word_ofWord _ h := UInt32.toNat_ofNat_of_lt' h

instance : Element UInt64 where
  type := .uint64
  word := UInt64.toNat
  ofWord := UInt64.ofNat
  word_lt x := x.toNat_lt
  ofWord_word _ := UInt64.ofNat_toNat
  word_ofWord _ h := UInt64.toNat_ofNat_of_lt' h

instance : Element Int8 where
  type := .int8
  word x := x.toUInt8.toNat
  ofWord n := (UInt8.ofNat n).toInt8
  word_lt x := x.toUInt8.toNat_lt
  ofWord_word x := by simp
  word_ofWord n h := by simpa using UInt8.toNat_ofNat_of_lt' h

instance : Element Int16 where
  type := .int16
  word x := x.toUInt16.toNat
  ofWord n := (UInt16.ofNat n).toInt16
  word_lt x := x.toUInt16.toNat_lt
  ofWord_word x := by simp
  word_ofWord n h := by simpa using UInt16.toNat_ofNat_of_lt' h

instance : Element Int32 where
  type := .int32
  word x := x.toUInt32.toNat
  ofWord n := (UInt32.ofNat n).toInt32
  word_lt x := x.toUInt32.toNat_lt
  ofWord_word x := by simp
  word_ofWord n h := by simpa using UInt32.toNat_ofNat_of_lt' h

instance : Element Int64 where
  type := .int64
  word x := x.toUInt64.toNat
  ofWord n := (UInt64.ofNat n).toInt64
  word_lt x := x.toUInt64.toNat_lt
  ofWord_word x := by simp
  word_ofWord n h := by simpa using UInt64.toNat_ofNat_of_lt' h

/-- The number of bytes of an element. -/
def width (α : Type) [Element α] : Nat :=
  (type α).size

/-- The bytes of an element. -/
def encode {α : Type} [Element α] (value : α) : Bytes :=
  LittleEndian.encode (width α) (word value)

/-- The element with the given bytes. -/
def decode {α : Type} [Element α] (bytes : Bytes) : α :=
  ofWord (LittleEndian.decode bytes)

/-- The bytes of a list of elements. -/
def encodeAll {α : Type} [Element α] (values : List α) : Bytes :=
  values.flatMap encode

/-- The whole elements in a byte string. -/
def decodeAll {α : Type} [Element α] (bytes : Bytes) : List α :=
  (Bytes.groups (width α) bytes).map decode

@[simp]
theorem length_encode {α : Type} [Element α] (value : α) :
    (encode value).length = width α :=
  LittleEndian.length_encode _ _

@[simp]
theorem decode_encode {α : Type} [Element α] (value : α) : decode (encode value) = value := by
  unfold decode encode width
  rw [LittleEndian.decode_encode (word_lt value), ofWord_word]

theorem encode_decode {α : Type} [Element α] {bytes : Bytes} (h : bytes.length = width α) :
    encode (decode bytes : α) = bytes := by
  have hlt := LittleEndian.decode_lt bytes
  rw [h] at hlt
  unfold decode encode
  unfold width at *
  rw [word_ofWord _ hlt, ← h, LittleEndian.encode_decode]

@[simp]
theorem length_encodeAll {α : Type} [Element α] (values : List α) :
    (encodeAll values).length = width α * values.length := by
  induction values with
  | nil => simp [encodeAll]
  | cons value rest ih =>
    simp only [encodeAll, List.flatMap_cons, List.length_append, List.length_cons] at *
    rw [ih, length_encode, Nat.mul_succ, Nat.add_comm]

@[simp]
theorem length_decodeAll {α : Type} [Element α] (bytes : Bytes) :
    (decodeAll bytes : List α).length = bytes.length / width α := by
  rw [decodeAll, List.length_map, Bytes.length_groups]

theorem width_pos (α : Type) [Element α] : 0 < width α :=
  (type α).size_pos

@[simp]
theorem decodeAll_encodeAll {α : Type} [Element α] (values : List α) :
    decodeAll (encodeAll values) = values := by
  unfold decodeAll encodeAll
  rw [Bytes.groups_flatMap (width_pos α) length_encode, List.map_map]
  simp [Function.comp_def]

/-- Whole elements are written as the bytes that they were read from. -/
theorem encodeAll_decodeAll (α : Type) [Element α] {bytes : Bytes}
    (whole : bytes.length % width α = 0) : encodeAll (decodeAll bytes : List α) = bytes := by
  have each : ((Bytes.groups (width α) bytes).map decode).map (encode (α := α))
      = Bytes.groups (width α) bytes := by
    rw [List.map_map]
    conv => rhs; rw [← List.map_id (Bytes.groups (width α) bytes)]
    apply List.map_congr_left
    intro group member
    exact encode_decode (Bytes.length_of_mem_groups member)
  unfold decodeAll encodeAll
  rw [List.flatMap_def, each, Bytes.flatten_groups whole]

end Element
end ArrayBlob
