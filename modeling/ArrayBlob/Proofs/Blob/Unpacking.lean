import ArrayBlob.Blob.Header.RoundTrip
import ArrayBlob.Proofs.Blob.Sealing
import ArrayBlob.Proofs.Capacity

/-!
# What unpacking does with a written header

A header in front of a payload is read back, so that what unpacking does depends on the header and
the payload alone. A plain payload of the right length is the raw data; a payload that a coder made
goes through the check of its framing and the codec of the coder.
-/

namespace ArrayBlob

/-- As many bytes as a shape describes make an array. -/
theorem TypedArray.ofBytes_eq_ok {elementType : ElementType} {dims : List Nat} {data : Bytes}
    (sized : Shape.rawSize elementType dims = .ok data.length) :
    ofBytes elementType dims data = .ok ⟨elementType, dims, data, sized⟩ := by
  unfold ofBytes
  split
  · next fault failed =>
    rw [sized] at failed
    cases failed
  · next expected again =>
    rw [sized] at again
    cases again
    rw [dif_pos rfl]

/-- An array is rebuilt from its type, its shape and its bytes. -/
theorem TypedArray.ofBytes_self (array : TypedArray) :
    ofBytes array.elementType array.dims array.data = .ok array :=
  ofBytes_eq_ok array.rawSize_eq

/-- An array has the type, the shape and the bytes that it was made of. -/
theorem TypedArray.fields_of_ofBytes {elementType : ElementType} {dims : List Nat} {data : Bytes}
    {array : TypedArray} (made : ofBytes elementType dims data = .ok array) :
    array.elementType = elementType ∧ array.dims = dims ∧ array.data = data := by
  unfold ofBytes at made
  split at made
  · cases made
  · split at made
    · cases made
      exact ⟨rfl, rfl, rfl⟩
    · cases made

/-- What is no byte stream is given back as an array in every mode. -/
theorem Codec.valueOf_array {γ : Type} (codec : Codec γ) {array : TypedArray}
    (flat : array.elementType ≠ .byteStream) : codec.valueOf array = .ok (.array array) := by
  rw [valueOf, if_neg flat]

/-- What is given back as an array is no byte stream and is the array that was stored. -/
theorem Codec.eq_of_valueOf_array {γ : Type} {codec : Codec γ} {stored array : TypedArray}
    (valued : codec.valueOf stored = .ok (.array array)) :
    stored = array ∧ array.elementType ≠ .byteStream := by
  unfold valueOf at valued
  split at valued
  · split at valued
    · obtain ⟨content, -, impossible⟩ := map_eq_ok_iff.1 valued
      cases impossible
    · cases valued
  · next flat =>
    cases valued
    exact ⟨rfl, flat⟩

/-- The payload starts where the written form of the header ends. -/
theorem Header.drop_encode_append (header : Header) (payload : Bytes) :
    (header.encode ++ payload).drop header.payloadOffset = payload :=
  List.drop_left' header.length_encode

variable [Exponential] {header : Header} {payload : Bytes}

namespace Header

/-- A plain payload of the size that the header describes is the raw data. -/
theorem unpackRaw_plain (plain : header.compressorText = none)
    (sized : header.rawSize = .ok payload.length) (room : payload.length < 2 ^ 63) :
    header.unpackRaw payload
      = .ok (payload, Statistics.uncompressed payload.length, wholeRatio) := by
  have reserved : reserve payload.length = .ok () := reserve_eq_ok_iff.2 room
  simp only [unpackRaw, sized, ok_bind, plain, ne_eq, not_true_eq_false, if_false, reserved]
  rfl

/-- Raw data behind a header without a name are the payload itself, which has the size that the
header describes. -/
theorem eq_of_unpackRaw_plain {data : Bytes} {statistics : Statistics} {ratio : Double}
    (plain : header.compressorText = none)
    (restored : header.unpackRaw payload = .ok (data, statistics, ratio)) :
    data = payload ∧ header.rawSize = .ok payload.length
      ∧ statistics = Statistics.uncompressed payload.length ∧ ratio = wholeRatio := by
  obtain ⟨rawSize, described, restored⟩ := bind_eq_ok_iff.1 restored
  rw [plain] at restored
  obtain ⟨full, restored⟩ := reject_eq_ok_iff.1 restored
  obtain ⟨⟨⟩, -, same⟩ := bind_eq_ok_iff.1 restored
  cases Decidable.not_not.1 full
  cases same
  exact ⟨rfl, described, rfl, rfl⟩

/-- The coder that a header names finds a payload to be one of raw data of the described size, and
unpacks it to these data. -/
structure Restores (header : Header) (payload : Bytes) (coder : Coder) (data : Bytes) : Prop where
  named : ∃ name, header.compressorText = some name
    ∧ Selection.ofStoredName name = .ok (.coded coder Level.fast)
  sized : header.rawSize = .ok data.length
  room : data.length < 2 ^ 63
  framed : (Selection.coded coder Level.fast).checkFraming header.elementType.layout payload
    data.length = .ok ()
  unpacked : (Selection.coded coder Level.fast).unpack header.elementType.layout payload
    data.length = .ok data

/-- Raw data that the named coder restores are what the header has behind it. -/
theorem unpackRaw_of_restores {coder : Coder} {data : Bytes}
    (restores : header.Restores payload coder data) :
    header.unpackRaw payload
      = .ok (data, ⟨coder.family, data.length, payload.length, 0⟩,
          payloadRatio payload.length data.length) := by
  obtain ⟨name, stored, found⟩ := restores.named
  have reserved : reserve data.length = .ok () := reserve_eq_ok_iff.2 restores.room
  simp only [unpackRaw, restores.sized, ok_bind, stored, found, restores.framed, reserved,
    restores.unpacked]
  rfl

/-- Raw data behind a header with a name are restored by the coder of the name. -/
theorem exists_restores {name : String} {data : Bytes} {statistics : Statistics} {ratio : Double}
    (stored : header.compressorText = some name)
    (restored : header.unpackRaw payload = .ok (data, statistics, ratio)) :
    ∃ coder, header.Restores payload coder data
      ∧ statistics = ⟨coder.family, data.length, payload.length, 0⟩
      ∧ ratio = payloadRatio payload.length data.length := by
  obtain ⟨rawSize, described, restored⟩ := bind_eq_ok_iff.1 restored
  rw [stored] at restored
  obtain ⟨selection, found, restored⟩ := bind_eq_ok_iff.1 restored
  obtain ⟨coder, -, rfl⟩ := Selection.eq_coded_of_ofStoredName found
  obtain ⟨⟨⟩, framed, restored⟩ := bind_eq_ok_iff.1 restored
  obtain ⟨⟨⟩, reserved, restored⟩ := bind_eq_ok_iff.1 restored
  obtain ⟨unpacked, made, same⟩ := bind_eq_ok_iff.1 restored
  cases same
  cases Selection.length_of_unpack made
  exact ⟨coder, ⟨⟨name, stored, found⟩, described, reserve_eq_ok_iff.1 reserved, framed, made⟩,
    rfl, rfl⟩

end Header

namespace Codec

variable {γ : Type}

/-- Unpacking reads the header that was written and goes on with the payload behind it. -/
theorem unpack_append (codec : Codec γ) (header : Header) (payload : Bytes) :
    codec.unpack (header.encode ++ payload) = (do
      let (data, statistics, ratio) ← header.unpackRaw payload
      let array ← TypedArray.ofBytes header.elementType header.dims data
      let value ← codec.valueOf array
      return ⟨value, header.revision, header.mismatch?, statistics, ratio⟩) := by
  rw [unpack, header.decode_encode payload, ok_bind, header.drop_encode_append]

/-- What was unpacked is the value of an array of the raw data behind the header, and tells how they
were stored and the revision and the platform of the header. -/
theorem unpack_eq_ok {codec : Codec γ} {blob : Bytes} {unpacked : Unpacked γ}
    (done : codec.unpack blob = .ok unpacked) :
    ∃ header data array, Header.decode blob = .ok header
      ∧ header.unpackRaw (blob.drop header.payloadOffset)
        = .ok (data, unpacked.statistics, unpacked.ratio)
      ∧ TypedArray.ofBytes header.elementType header.dims data = .ok array
      ∧ codec.valueOf array = .ok unpacked.value
      ∧ unpacked.revision = header.revision ∧ unpacked.mismatch = header.mismatch? := by
  obtain ⟨header, read, done⟩ := bind_eq_ok_iff.1 done
  obtain ⟨⟨data, statistics, ratio⟩, restored, done⟩ := bind_eq_ok_iff.1 done
  obtain ⟨array, made, done⟩ := bind_eq_ok_iff.1 done
  obtain ⟨value, valued, same⟩ := bind_eq_ok_iff.1 done
  cases same
  exact ⟨header, data, array, read, restored, made, valued, rfl, rfl⟩

/-- Unpacking gives the value of the array whose type, shape and data were restored. -/
theorem unpack_eq_map (codec : Codec γ) {array : TypedArray} {statistics : Statistics}
    {ratio : Double} (type : header.elementType = array.elementType)
    (dims : header.dims = array.dims)
    (restored : header.unpackRaw payload = .ok (array.data, statistics, ratio)) :
    codec.unpack (header.encode ++ payload) = (codec.valueOf array).map fun value =>
      ⟨value, header.revision, header.mismatch?, statistics, ratio⟩ := by
  rw [unpack_append, restored, ok_bind]
  simp only [type, dims, array.ofBytes_self, ok_bind]
  rfl

/-- Unpacking gives the array whose type, shape and data were restored, unless it is a byte
stream. -/
theorem unpack_array (codec : Codec γ) {array : TypedArray} {statistics : Statistics}
    {ratio : Double} (flat : array.elementType ≠ .byteStream)
    (type : header.elementType = array.elementType) (dims : header.dims = array.dims)
    (restored : header.unpackRaw payload = .ok (array.data, statistics, ratio)) :
    codec.unpack (header.encode ++ payload)
      = .ok ⟨.array array, header.revision, header.mismatch?, statistics, ratio⟩ := by
  rw [codec.unpack_eq_map type dims restored, codec.valueOf_array flat]
  rfl

end Codec
end ArrayBlob
