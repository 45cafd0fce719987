import ArrayBlob.Proofs.Blob.HeaderGrammar
import ArrayBlob.Proofs.Blob.Lossy

/-!
# Packing an array again

Reading a blob without compression forgets nothing of it but the record of the platform: the bytes
in front of the record and behind it are those that the array is written as. Packing the array again
therefore gives the same blob with the record of this host, and two blobs with the same record that
hold the same array are the same blob.
-/

namespace ArrayBlob

/-! ## The bytes of a plain blob -/

/-- What stands in front of the platform record of a blob without compression. -/
def plainFront (elementType : ElementType) : Bytes :=
  blobMark ++ (LittleEndian.encode 2 Revision.plain.headerSize
    ++ LittleEndian.encode 4 elementType.code)

/-- What stands behind the platform record of a blob without compression. -/
def plainBack (dims : List Nat) (data : Bytes) : Bytes :=
  LittleEndian.encode 4 dims.length ++ (dims.flatMap (LittleEndian.encode 4) ++ data)

/-- The blob of some data without compression, with a platform record. -/
def plainBlob (elementType : ElementType) (dims : List Nat) (record data : Bytes) : Bytes :=
  plainFront elementType ++ (record ++ plainBack dims data)

/-- The record of a platform, as it stands in a blob. -/
def Platform.record (platform : Platform) : Bytes :=
  platform.tag ++ [platform.byteOrder.tag]

namespace Header

variable {blob : Bytes} {header : Header}

/-- The written form of a header without a name is that of a plain blob. -/
theorem encode_append_plain (plain : header.compressor = none) (data : Bytes) :
    header.encode ++ data
      = plainBlob header.elementType header.dims header.platform.record data := by
  simp only [encode_append, plainBlob, plainFront, plainBack, Platform.record, revision,
    encodeName, plain, Option.isSome_none, Bool.false_eq_true, if_false, List.nil_append,
    List.append_assoc]

/-- A blob whose header has no name is written from what is read of it and from its platform
record. -/
theorem eq_plainBlob_of_decode (read : decode blob = .ok header)
    (plain : header.revision = .plain) :
    blob = plainBlob header.elementType header.dims (Bytes.field 20 12 blob)
      (blob.drop header.payloadOffset) := by
  obtain ⟨mark, version, code, -, count, dims⟩ := (decode_eq_ok_iff.1 read).storedAs
  rw [payloadOffset, plain]
  rw [plain] at version count dims
  change Bytes.field 32 4 blob = _ at count
  change Bytes.field 36 _ blob = _ at dims
  have payload : Revision.plain.payloadOffset header.dims.length = 36 + 4 * header.dims.length :=
    rfl
  -- With a field of the blob in place of each part, the parts join to the blob from the back.
  rw [plainBlob, plainFront, plainBack, List.append_assoc, List.append_assoc, ← mark, ← version,
    ← code, ← count, ← dims, payload, ← Bytes.drop_eq_field_append 36,
    ← Bytes.drop_eq_field_append 32 4, ← Bytes.drop_eq_field_append 20 12,
    ← Bytes.drop_eq_field_append 16 4, ← Bytes.drop_eq_field_append 14 2,
    ← Bytes.drop_eq_field_append 0 14, List.drop_zero]

end Header

/-- A header has no name exactly if it is of the first revision. -/
theorem Header.compressor_eq_none_iff {header : Header} :
    header.compressor = none ↔ header.revision = .plain := by
  unfold revision
  cases header.compressor <;> simp

section

variable {elementType : ElementType} {dims : List Nat} {record other data : Bytes}

@[simp]
theorem length_plainFront (elementType : ElementType) : (plainFront elementType).length = 20 := by
  simp [plainFront, Header.length_blobMark]

theorem length_plainBlob (full : record.length = 12) :
    (plainBlob elementType dims record data).length = 36 + 4 * dims.length + data.length := by
  simp only [plainBlob, plainBack, List.length_append, length_plainFront,
    LittleEndian.length_encode, Header.length_dims, full]
  omega

/-- The record of a plain blob stands behind the code of the type. -/
theorem field_plainBlob (full : record.length = 12) :
    Bytes.field 20 12 (plainBlob elementType dims record data) = record := by
  rw [plainBlob, Bytes.field_append_of_le (Nat.le_of_eq (length_plainFront _)),
    length_plainFront, Nat.sub_self, Bytes.field_zero_append full]

/-- Plain blobs that differ in their records alone are equal at every other position. -/
theorem getElem?_plainBlob (full : record.length = 12) (same : other.length = 12) {index : Nat}
    (outside : index < 20 ∨ 31 < index) :
    (plainBlob elementType dims record data)[index]?
      = (plainBlob elementType dims other data)[index]? := by
  have front := length_plainFront elementType
  unfold plainBlob
  rcases outside with before | behind
  · rw [List.getElem?_append_left (by omega), List.getElem?_append_left (by omega)]
  · rw [List.getElem?_append_right (by omega), List.getElem?_append_right (by omega),
      List.getElem?_append_right (by omega), List.getElem?_append_right (by omega), full, same]

end

/-! ## Reading and packing again -/

section

variable [Exponential] {γ : Type} {codec : Codec γ} {blob : Bytes} {unpacked : Unpacked γ}
  {array : TypedArray}

/-- A blob of the first revision that is unpacked to an array is the plain blob of the array. -/
theorem Codec.eq_plainBlob_of_unpack (done : codec.unpack blob = .ok unpacked)
    (plain : unpacked.revision = .plain) (value : unpacked.value = .array array) :
    array.elementType ≠ .byteStream ∧ InRange array.dims ∧ (Bytes.field 20 12 blob).length = 12
      ∧ blob = plainBlob array.elementType array.dims (Bytes.field 20 12 blob) array.data := by
  obtain ⟨header, data, stored, read, restored, made, valued, revised, -⟩ := unpack_eq_ok done
  rw [value] at valued
  obtain ⟨rfl, flat⟩ := eq_of_valueOf_array valued
  have first : header.revision = .plain := revised.symm.trans plain
  have unnamed : header.compressorText = none :=
    Option.map_eq_none_iff.2 (Header.compressor_eq_none_iff.2 first)
  obtain ⟨rfl, -, -, -⟩ := Header.eq_of_unpackRaw_plain unnamed restored
  obtain ⟨type, dims, same⟩ := TypedArray.fields_of_ofBytes made
  have long : 36 ≤ blob.length := by
    have sized := (Header.decode_eq_ok_iff.1 read).fixed.size_le
    rw [first] at sized
    exact sized
  refine ⟨flat, dims ▸ header.dimensions.inRange, Bytes.length_field_of_le (by omega), ?_⟩
  rw [type, dims, same]
  exact Header.eq_plainBlob_of_decode read first

/-- An array whose blob is small enough is packed without compression into its plain blob. -/
theorem Settings.exists_packArray_uncompressed {settings : Settings} (on : settings.mode ≠ .off)
    (flat : array.elementType ≠ .byteStream) (range : InRange array.dims)
    (within : 36 + 4 * array.dims.length + array.data.length ≤ settings.maxBlobSize.toNat)
    (room : 36 + 4 * array.dims.length + array.data.length < 2 ^ 63) :
    ∃ packed, settings.packArray array .uncompressed = .ok packed
      ∧ packed.bytes
        = plainBlob array.elementType array.dims Platform.host.record array.data := by
  have short := range.1
  have inMemory : array.InMemory := ⟨by omega, by omega⟩
  have named : Selection.uncompressed.chosenName? none = (none : Option Coder).map Coder.name := rfl
  obtain ⟨header, made, sealed⟩ := settings.exists_seal array.elementType range named within room
  obtain ⟨type, platform, unnamed, dims⟩ := Header.fields_of_make made
  refine ⟨_, (settings.packArray_of_inMemory _ on flat inMemory).trans sealed, ?_⟩
  rw [Packed.bytes_ofChoice, Header.encode_append_plain (Option.map_eq_none_iff.1 unnamed), type,
    platform, dims]
  rfl

/-- An array that was unpacked from a blob of the first revision is packed again, without
compression, under every limit that the blob is within, and into a blob that differs from the first
in the platform record alone, which becomes that of this host. The blob is one in memory, where
nothing has `2 ^ 63` bytes or more. Blobs of the first revision with equal records are therefore
never unpacked to the same array unless they are equal. -/
theorem repacking_reproduces (codec : Codec γ) (done : codec.unpack blob = .ok unpacked)
    (plain : unpacked.revision = .plain) (value : unpacked.value = .array array) :
    (∀ settings : Settings, settings.mode ≠ .off → blob.length ≤ settings.maxBlobSize.toNat →
      blob.length < 2 ^ 63 → ∃ packed, settings.packArray array .uncompressed = .ok packed
        ∧ packed.bytes.length = blob.length
        ∧ (∀ index, index < 20 ∨ 31 < index → packed.bytes[index]? = blob[index]?)
        ∧ Bytes.field 20 12 packed.bytes = [71, 76, 78, 88, 65, 54, 52, 0, 0, 0, 0, 76])
    ∧ ∀ {δ : Type} (other : Codec δ) (again : Bytes) (unpackedAgain : Unpacked δ),
      other.unpack again = .ok unpackedAgain → unpackedAgain.revision = .plain →
        unpackedAgain.value = .array array →
          Bytes.field 20 12 again = Bytes.field 20 12 blob → again = blob := by
  obtain ⟨flat, range, full, same⟩ := Codec.eq_plainBlob_of_unpack done plain value
  have sized := congrArg List.length same
  rw [length_plainBlob full] at sized
  constructor
  · intro settings on within inMemory
    obtain ⟨packed, packedAgain, bytes⟩ :=
      Settings.exists_packArray_uncompressed on flat range (by omega) (by omega)
    have host : Platform.host.record.length = 12 := by decide
    refine ⟨packed, packedAgain, ?_, ?_, ?_⟩
    · rw [bytes, length_plainBlob host, sized]
    · intro index outside
      rw [bytes, same]
      exact getElem?_plainBlob host full outside
    · rw [bytes, field_plainBlob host]
      decide
  · intro δ other again unpackedAgain doneAgain plainAgain valueAgain record
    obtain ⟨-, -, -, sameAgain⟩ := Codec.eq_plainBlob_of_unpack doneAgain plainAgain valueAgain
    rw [sameAgain, record, ← same]

end

/-- Three bytes that were stored on a host of another name and byte order. -/
def foreignBytes : Bytes :=
  plainBlob .uint8 [3] (List.replicate 11 65 ++ [66]) [1, 2, 3]

/-- The three bytes as an array. -/
def threeBytesRow : TypedArray :=
  ⟨.uint8, [3], [1, 2, 3], rfl⟩

/-- The foreign blob is unpacked, and packing the array again puts the record of this host in place
of the foreign one. -/
theorem repacking_reproduces_foreign :
    ∃ unpacked, @Codec.unpack .coarse _ (Codec.forArrays Settings.default) foreignBytes
        = .ok unpacked
      ∧ unpacked.revision = .plain ∧ unpacked.value = .array threeBytesRow
      ∧ ∃ packed, @Settings.packArray .coarse Settings.default threeBytesRow .uncompressed
          = .ok packed
        ∧ packed.bytes[16]? = foreignBytes[16]? ∧ packed.bytes ≠ foreignBytes := by
  let exponential := Exponential.coarse
  obtain ⟨unpacked, done, plain, value⟩ : ∃ unpacked,
      (Codec.forArrays Settings.default).unpack foreignBytes = .ok unpacked
        ∧ unpacked.revision = .plain ∧ unpacked.value = .array threeBytesRow :=
    ⟨_, rfl, rfl, rfl⟩
  obtain ⟨again, -⟩ := repacking_reproduces _ done plain value
  obtain ⟨packed, packedAgain, -, outside, record⟩ :=
    again Settings.default (by decide) (by decide) (by decide)
  refine ⟨unpacked, done, plain, value, packed, packedAgain, outside 16 (by decide), ?_⟩
  intro same
  rw [same] at record
  exact absurd record (by decide)

end ArrayBlob
