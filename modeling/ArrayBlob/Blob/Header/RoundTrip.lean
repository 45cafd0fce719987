import ArrayBlob.Blob.Header

/-!
# Reading a written header

A header in front of a payload reads back as itself, whatever the payload is. The fields are found
one after the other: each statement says what stands at the offset where the reader looks.
-/

namespace ArrayBlob

/-- A stored name is read when its bytes are those of a text. -/
theorem CompressorName.ofField_eq_ok {field : Bytes} {narrow : field.length ≤ nameWidth}
    {name : CompressorName} (stored : Bytes.untilZero field = Utf8.encode name.text) :
    ofField field narrow = .ok name := by
  have text : Utf8.decode (Bytes.untilZero field) = some name.text := by
    rw [stored, Utf8.decode_encode]
  unfold ofField
  split
  · next none =>
    rw [text] at none
    cases none
  · next found some =>
    rw [text] at some
    cases some
    rfl

/-- Dimensions that were written one behind the other read back as themselves. -/
theorem Dimensions.ofVector_encode (dimensions : Dimensions)
    (few : (dimensions.toList.flatMap (LittleEndian.encode 4)).length < 4 * dimensionLimit) :
    ofVector (dimensions.toList.flatMap (LittleEndian.encode 4)) few = .ok dimensions := by
  have restored : (Bytes.groups 4 (dimensions.toList.flatMap (LittleEndian.encode 4))).map
      LittleEndian.decode = dimensions.toList := by
    rw [Bytes.groups_flatMap (by decide) (LittleEndian.length_encode 4), List.map_map]
    conv => rhs; rw [← List.map_id dimensions.toList]
    apply List.map_congr_left
    intro dimension member
    exact LittleEndian.decode_encode
      (Nat.lt_of_lt_of_le (dimensions.lt_limit dimension member) (by decide))
  unfold ofVector
  simp only [restored]
  rw [dif_pos dimensions.lt_limit]

namespace Header

@[simp]
theorem length_encodeName (header : Header) :
    header.encodeName.length = header.revision.headerSize - commonSize - 4 := by
  unfold encodeName revision
  split
  · next none => simp [none, Revision.headerSize]
  · next name some =>
    simp only [some, Option.isSome_some, if_true, Revision.headerSize,
      Bytes.length_padTo name.length_le]
    omega

theorem length_dims (dims : List Nat) :
    (dims.flatMap (LittleEndian.encode 4)).length = 4 * dims.length := by
  induction dims with
  | nil => rfl
  | cons dimension rest ih =>
    simp only [List.flatMap_cons, List.length_append, LittleEndian.length_encode,
      List.length_cons, ih]
    omega

/-- The written form of a header ends where its payload starts. -/
theorem length_encode (header : Header) : header.encode.length = header.payloadOffset := by
  have tag := header.platform.length_tag
  unfold encode payloadOffset Revision.payloadOffset
  simp only [List.length_append, LittleEndian.length_encode, tag, length_dims, length_encodeName,
    List.length_cons, List.length_nil]
  cases header.revision <;>
    simp [blobMark, Revision.headerSize, commonSize, nameWidth, platformWidth]

/-- The written form of a header in front of a payload, part by part. -/
theorem encode_append (header : Header) (payload : Bytes) :
    header.encode ++ payload = blobMark ++ (LittleEndian.encode 2 header.revision.headerSize
      ++ (LittleEndian.encode 4 header.elementType.code ++ (header.platform.tag
      ++ ([header.platform.byteOrder.tag] ++ (header.encodeName
      ++ (LittleEndian.encode 4 header.dims.length
      ++ (header.dims.flatMap (LittleEndian.encode 4) ++ payload))))))) := by
  simp only [encode, List.append_assoc]

theorem length_blobMark : blobMark.length = 14 := rfl

theorem decodeElementType_encode (header : Header) (payload : Bytes) :
    decodeElementType (header.encode ++ payload) = .ok header.elementType := by
  have field : Bytes.field 16 4 (header.encode ++ payload)
      = LittleEndian.encode 4 header.elementType.code := by
    rw [encode_append, Bytes.field_append_of_le (by simp [length_blobMark]),
      Bytes.field_append_of_le (by simp [length_blobMark])]
    simp only [length_blobMark, LittleEndian.length_encode]
    exact Bytes.field_zero_append (LittleEndian.length_encode _ _)
  have code := header.elementType.code_lt
  unfold decodeElementType
  rw [field, LittleEndian.decodeSigned_encode (by omega), ElementType.ofCode_code]

/-- The byte order stands behind the name of the platform. -/
theorem getD_encode_byteOrder (header : Header) (payload : Bytes) :
    (header.encode ++ payload).getD 31 0 = header.platform.byteOrder.tag := by
  have tag := header.platform.length_tag
  have front : (blobMark ++ (LittleEndian.encode 2 header.revision.headerSize
      ++ (LittleEndian.encode 4 header.elementType.code
      ++ header.platform.tag))).length = 31 := by
    simp [length_blobMark, tag, platformWidth]
  have shape : header.encode ++ payload = (blobMark
      ++ (LittleEndian.encode 2 header.revision.headerSize
      ++ (LittleEndian.encode 4 header.elementType.code ++ header.platform.tag)))
      ++ (header.platform.byteOrder.tag :: (header.encodeName
      ++ (LittleEndian.encode 4 header.dims.length
      ++ (header.dims.flatMap (LittleEndian.encode 4) ++ payload)))) := by
    simp only [encode, List.append_assoc, List.cons_append, List.nil_append]
  rw [shape, List.getD_eq_getElem?_getD, List.getElem?_append_right (by omega), front]
  rfl

theorem platformOf_encode (header : Header) (payload : Bytes)
    (long : commonSize ≤ (header.encode ++ payload).length) :
    platformOf (header.encode ++ payload) long = header.platform := by
  have tag := header.platform.length_tag
  have field : Bytes.field 20 platformWidth (header.encode ++ payload) = header.platform.tag := by
    rw [encode_append, Bytes.field_append_of_le (by simp [length_blobMark]),
      Bytes.field_append_of_le (by simp [length_blobMark]),
      Bytes.field_append_of_le (by simp [length_blobMark])]
    simp only [length_blobMark, LittleEndian.length_encode]
    exact Bytes.field_zero_append tag
  unfold platformOf
  simp only [field, getD_encode_byteOrder, ByteOrder.ofTag_tag]

theorem field_revision (header : Header) (payload : Bytes) :
    Bytes.field 14 2 (header.encode ++ payload)
      = LittleEndian.encode 2 header.revision.headerSize := by
  rw [encode_append, Bytes.field_append_of_le (by simp [length_blobMark])]
  simp only [length_blobMark]
  exact Bytes.field_zero_append (LittleEndian.length_encode _ _)

theorem ofTag_encode (header : Header) (payload : Bytes) :
    Revision.ofTag (LittleEndian.decodeSigned (Bytes.field 14 2 (header.encode ++ payload)))
      = .ok header.revision := by
  have wide : 2 * header.revision.headerSize < 256 ^ 2 := by
    cases header.revision <;> decide
  rw [field_revision, LittleEndian.decodeSigned_encode wide, Revision.ofTag_headerSize]

/-- The number of dimensions and the dimensions stand where their revision says. -/
theorem encode_append_count (header : Header) (payload : Bytes) :
    ∃ front : Bytes, front.length = header.revision.countOffset ∧
      header.encode ++ payload = front ++ (LittleEndian.encode 4 header.dims.length
        ++ (header.dims.flatMap (LittleEndian.encode 4) ++ payload)) := by
  refine ⟨blobMark ++ (LittleEndian.encode 2 header.revision.headerSize
      ++ (LittleEndian.encode 4 header.elementType.code ++ (header.platform.tag
      ++ ([header.platform.byteOrder.tag] ++ header.encodeName)))), ?_, ?_⟩
  · have tag := header.platform.length_tag
    simp only [List.length_append, LittleEndian.length_encode, tag, length_encodeName,
      List.length_cons, List.length_nil, length_blobMark, Revision.countOffset]
    cases header.revision <;>
      simp only [Revision.headerSize, commonSize, nameWidth, platformWidth]
  · simp only [encode, List.append_assoc]

theorem decodeDimensions_encode (header : Header) (payload : Bytes) :
    decodeDimensions header.revision (header.encode ++ payload) = .ok header.dimensions := by
  obtain ⟨front, length, shape⟩ := encode_append_count header payload
  have few : header.dims.length < dimensionLimit := header.dimensions.length_lt
  have count : LittleEndian.decode
      (Bytes.field header.revision.countOffset 4 (header.encode ++ payload))
      = header.dims.length := by
    rw [shape, Bytes.field_append_of_le (by omega), length, Nat.sub_self,
      Bytes.field_zero_append (LittleEndian.length_encode _ _), LittleEndian.decode_encode]
    simp only [dimensionLimit] at few
    exact Nat.lt_of_lt_of_le few (by decide)
  have listed : Bytes.field header.revision.headerSize (4 * header.dims.length)
      (header.encode ++ payload) = header.dims.flatMap (LittleEndian.encode 4) := by
    have after : header.revision.headerSize = header.revision.countOffset + 4 := by
      cases header.revision <;> rfl
    rw [shape, after, Bytes.field_append_of_le (by omega), length, Nat.add_sub_cancel_left,
      Bytes.field_append_of_le (by simp), LittleEndian.length_encode, Nat.sub_self,
      Bytes.field_zero_append (length_dims _)]
  have full : header.revision.payloadOffset header.dims.length
      ≤ (header.encode ++ payload).length := by
    rw [List.length_append, length_encode]
    exact Nat.le_add_right _ _
  unfold decodeDimensions
  simp only [count, listed]
  rw [dif_pos few, if_neg (Nat.not_lt.2 full)]
  exact header.dimensions.ofVector_encode _

/-- The compressor name stands in its field, with zero bytes behind it. -/
theorem field_encode_name {header : Header} {name : CompressorName}
    (named : header.compressor = some name) (payload : Bytes) :
    Bytes.field commonSize nameWidth (header.encode ++ payload)
      = Bytes.padTo nameWidth (Utf8.encode name.text) := by
  have tag := header.platform.length_tag
  have wide := Bytes.length_padTo name.length_le
  rw [encode_append, Bytes.field_append_of_le (by simp [length_blobMark, commonSize]),
    Bytes.field_append_of_le (by simp [length_blobMark, commonSize]),
    Bytes.field_append_of_le (by simp [length_blobMark, commonSize]),
    Bytes.field_append_of_le (by simp [length_blobMark, commonSize, tag, platformWidth]),
    Bytes.field_append_of_le (by simp [length_blobMark, commonSize, tag, platformWidth])]
  simp only [length_blobMark, LittleEndian.length_encode, tag, platformWidth, commonSize,
    List.length_cons, List.length_nil, encodeName, named]
  exact Bytes.field_zero_append wide

theorem decodeCompressor_encode (header : Header) (payload : Bytes) :
    decodeCompressor header.revision (header.encode ++ payload) = .ok header.compressor := by
  unfold decodeCompressor revision
  cases named : header.compressor with
  | none => rfl
  | some name =>
    have read : decodeName (header.encode ++ payload) = .ok name := by
      apply CompressorName.ofField_eq_ok
      rw [field_encode_name named, Bytes.untilZero_padTo name.zero_notMem]
    simp only [Option.isSome_some, if_true, read, Except.map]

/-- A written header reads back as itself, whatever stands behind it. -/
theorem decode_encode (header : Header) (payload : Bytes) :
    decode (header.encode ++ payload) = .ok header := by
  have total : header.payloadOffset ≤ (header.encode ++ payload).length := by
    rw [List.length_append, length_encode]
    exact Nat.le_add_right _ _
  have fixed : header.revision.headerSize ≤ (header.encode ++ payload).length :=
    Nat.le_trans (Nat.le_add_right _ _) total
  have long : commonSize ≤ (header.encode ++ payload).length := by
    refine Nat.le_trans ?_ fixed
    cases header.revision
    · exact Nat.le_add_right commonSize 4
    · exact Nat.le_add_right_of_le (Nat.le_add_right commonSize nameWidth)
  have mark : (header.encode ++ payload).take blobMark.length = blobMark := by
    rw [encode_append]
    exact List.take_left' rfl
  unfold decode
  rw [dif_pos long, mark, ofTag_encode, decodeElementType_encode]
  simp only [ne_eq, not_true_eq_false, if_false, bind, Except.bind, pure, Except.pure,
    if_neg (Nat.not_lt.2 fixed), decodeDimensions_encode, decodeCompressor_encode,
    platformOf_encode]

end Header
end ArrayBlob
