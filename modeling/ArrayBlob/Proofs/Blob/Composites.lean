import ArrayBlob.Proofs.Blob.Lossless
import ArrayBlob.Proofs.Blob.Lossy
import ArrayBlob.Proofs.Blob.StreamGate

/-!
# Values of a serializer

A value that is no array is stored as a row of the bytes that a serializer makes of it. Nothing is
asked of the serializer but that it reads back what it wrote. The value then comes back from the
codec that stored it, and from no codec that keeps byte streams out; a codec that keeps them out
does not store it either.
-/

namespace ArrayBlob

/-- What the serializer writes, it reads back. -/
def Serializer.Lawful {γ : Type} (serializer : Serializer γ) : Prop :=
  ∀ content stream, serializer.serialize content = .ok stream →
    serializer.deserialize stream = .ok content

/-! ## Byte streams as arrays -/

/-- A row of bytes has as many bytes as it says. -/
theorem Shape.rawSize_stream {size : Nat} (small : size < limit) :
    rawSize .byteStream [1, size] = .ok size := by
  have width : size * ElementType.byteStream.size = size := Nat.mul_one size
  have sized : rawSize .byteStream [1, size] = .ok (size * ElementType.byteStream.size) :=
    rawSize_row (width.symm ▸ small)
  rw [sized, width]

/-- The row of the bytes of a stream. -/
def TypedArray.streamRow (stream : Bytes) (small : stream.length < Shape.limit) : TypedArray :=
  ⟨.byteStream, [1, stream.length], stream, Shape.rawSize_stream small⟩

/-- What was packed without loss is raw data behind a header of their type and shape. -/
theorem exists_header_of_packRaw [Exponential] {settings : Settings} {selection : Selection}
    (array : TypedArray) {packed : Packed} (lossless : selection.isLossy = false)
    (done : settings.packRaw array.elementType array.dims array.data selection = .ok packed) :
    ∃ (header : Header) (payload : Bytes) (statistics : Statistics) (ratio : Double),
      packed.bytes = header.encode ++ payload
        ∧ header.elementType = array.elementType ∧ header.dims = array.dims
        ∧ header.unpackRaw payload = .ok (array.data, statistics, ratio) := by
  obtain ⟨coded?, header, chosen, room, made, rfl⟩ := packRaw_eq_ok done
  obtain ⟨type, -, -, dims⟩ := Header.fields_of_make made
  obtain ⟨ratio, restored⟩ := unpackRaw_lossless lossless array.rawSize_eq chosen made room
  exact ⟨header, _, _, ratio, Packed.bytes_ofChoice _ _ _ _ _, type, dims, restored⟩

namespace Codec

section

variable [Exponential] {γ : Type} {codec : Codec γ} {content : γ} {selection : Selection}
  {stream : Bytes} {packed : Packed}

/-! ## Storing -/

/-- With the byte stream mode, the stream of a value is packed as a row of bytes. -/
theorem pack_composite_of_serialize (opened : codec.settings.mode = .byteStream)
    (serialized : codec.serializer.serialize content = .ok stream) (selection : Selection) :
    codec.pack (.composite content) selection
      = codec.settings.packRaw .byteStream [1, stream.length] stream selection := by
  simp only [pack, opened, StorageMode.allowsStreams, decide_true, if_true, serialized]

/-- Without the byte stream mode no value of a serializer is packed. -/
theorem pack_composite_of_closed (closed : codec.settings.mode ≠ .byteStream) (content : γ)
    (selection : Selection) :
    codec.pack (.composite content) selection
      = .error (.unsupportedVariableType .compositeRefused) := by
  have refused : codec.settings.mode.allowsStreams = false := decide_eq_false closed
  simp only [pack, refused, Bool.false_eq_true, if_false]

/-- A value that the serializer does not write is not packed, whatever the mode. -/
theorem pack_composite_of_serialize_error {fault : Fault}
    (failed : codec.serializer.serialize content = .error fault) (selection : Selection) :
    ∃ flaw, codec.pack (.composite content) selection
      = .error (.unsupportedVariableType flaw) := by
  by_cases opened : codec.settings.mode = .byteStream
  · simp only [pack, opened, StorageMode.allowsStreams, decide_true, if_true, failed]
    exact ⟨_, rfl⟩
  · exact ⟨_, pack_composite_of_closed opened content selection⟩

/-- A byte stream is no data for a quantizer. -/
theorem pack_composite_quantizer (opened : codec.settings.mode = .byteStream)
    (serialized : codec.serializer.serialize content = .ok stream)
    (small : stream.length < 2 ^ 63) (mode : Mode) (level : Level) :
    codec.pack (.composite content) (.coded (.quantizer mode) level)
      = .error (.compressorArgument .notDoubles) := by
  have refused : Quantizer.compress mode ElementType.byteStream.layout stream
      = .error (.compressorArgument .notDoubles) :=
    Quantizer.compress_of_not_isDouble mode rfl small
  have fits : ¬ Shape.limit ≤ Revision.plain.blobSize [1, stream.length].length stream.length := by
    simp only [Revision.blobSize, Revision.payloadOffset, Revision.headerSize, commonSize,
      List.length_cons, List.length_nil, Shape.limit]
    omega
  have unchosen : (Selection.coded (.quantizer mode) level).chosenPayload? .byteStream
      [1, stream.length].length stream = .error (.compressorArgument .notDoubles) := by
    rw [Selection.chosenPayload?, Selection.pack, refused]
    rfl
  rw [pack_composite_of_serialize opened serialized, Settings.packRaw_eq, if_neg fits, unchosen,
    error_bind]

/-! ## Restoring -/

/-- A value that is stored without loss is restored by the codec that stored it, and refused by
every codec that keeps byte streams out. -/
theorem restored_of_pack_composite (lawful : codec.serializer.Lawful)
    (opened : codec.settings.mode = .byteStream)
    (serialized : codec.serializer.serialize content = .ok stream)
    (small : stream.length < Shape.limit) (lossless : selection.isLossy = false)
    (done : codec.pack (.composite content) selection = .ok packed) :
    ∃ header, Header.decode packed.bytes = .ok header
      ∧ header.elementType = .byteStream ∧ header.dims = [1, stream.length]
      ∧ (∃ unpacked, codec.unpack packed.bytes = .ok unpacked
        ∧ unpacked.value = .composite content)
      ∧ ∀ {δ : Type} (other : Codec δ), other.settings.mode ≠ .byteStream →
        other.unpack packed.bytes = .error (.unsupportedVariableType .streamRefused) := by
  rw [pack_composite_of_serialize opened serialized] at done
  obtain ⟨header, payload, statistics, ratio, same, type, dims, restored⟩ :=
    exists_header_of_packRaw (.streamRow stream small) lossless done
  rw [same]
  refine ⟨header, header.decode_encode payload, type, dims, ?_, ?_⟩
  · have valued : codec.valueOf (.streamRow stream small) = .ok (.composite content) := by
      have read := lawful content stream serialized
      simp only [valueOf, TypedArray.streamRow, opened, StorageMode.allowsStreams, decide_true,
        if_true, read]
      rfl
    rw [codec.unpack_eq_map type dims restored, valued]
    exact ⟨_, rfl, rfl⟩
  · intro δ other closed
    exact other.unpack_emptyStream closed rfl type dims restored

/-- A value of a lawful serializer is stored with the byte stream mode alone. What is stored without
loss has a header that describes a row of as many bytes as the serializer wrote; the codec that
stored it gives the value back, and every codec without the mode refuses it for its type. A
quantizer refuses the bytes as its argument. What the serializer does not write, and any value in
another mode, is refused for its type. -/
theorem composite_round_trip (codec : Codec γ) (lawful : codec.serializer.Lawful) (content : γ) :
    (codec.settings.mode = .byteStream →
      ∀ stream, codec.serializer.serialize content = .ok stream → stream.length < 2 ^ 32 - 16 →
        (∀ selection packed, selection.isLossy = false →
          codec.pack (.composite content) selection = .ok packed →
            ∃ header, Header.decode packed.bytes = .ok header
              ∧ header.elementType = .byteStream ∧ header.dims = [1, stream.length]
              ∧ (∃ unpacked, codec.unpack packed.bytes = .ok unpacked
                ∧ unpacked.value = .composite content)
              ∧ ∀ {δ : Type} (other : Codec δ), other.settings.mode ≠ .byteStream →
                ∃ flaw, other.unpack packed.bytes = .error (.unsupportedVariableType flaw))
        ∧ ∀ mode level, ∃ flaw,
          codec.pack (.composite content) (.coded (.quantizer mode) level)
            = .error (.compressorArgument flaw))
    ∧ (∀ selection fault, codec.serializer.serialize content = .error fault →
      ∃ flaw, codec.pack (.composite content) selection = .error (.unsupportedVariableType flaw))
    ∧ (codec.settings.mode ≠ .byteStream → ∀ selection, ∃ flaw,
      codec.pack (.composite content) selection = .error (.unsupportedVariableType flaw)) := by
  refine ⟨fun opened stream serialized small => ⟨?_, ?_⟩, ?_, ?_⟩
  · intro selection packed lossless done
    have inRange : stream.length < Shape.limit := Nat.lt_trans small (by decide)
    obtain ⟨header, read, type, dims, restored, refused⟩ :=
      restored_of_pack_composite lawful opened serialized inRange lossless done
    exact ⟨header, read, type, dims, restored, fun other closed => ⟨_, refused other closed⟩⟩
  · intro mode level
    have inMemory : stream.length < 2 ^ 63 := Nat.lt_trans small (by decide)
    exact ⟨_, pack_composite_quantizer opened serialized inMemory mode level⟩
  · intro selection fault failed
    exact pack_composite_of_serialize_error failed selection
  · intro closed selection
    exact ⟨_, pack_composite_of_closed closed content selection⟩

end

/-- A codec whose values are byte strings, which it stores as they are. -/
def forBytes : Codec Bytes :=
  ⟨{ mode := .byteStream }, ⟨.ok, .ok⟩⟩

/-- The header of a stream of three bytes. -/
def threeBytes : Header :=
  ⟨.byteStream, Platform.host, none, ⟨[1, 3], by decide, by decide⟩⟩

/-- Three bytes are stored and restored, refused by the codec for arrays alone, and no data for a
quantizer. -/
theorem composite_round_trip_bytes :
    forBytes.serializer.Lawful
      ∧ ∃ packed, @pack .coarse _ forBytes (.composite [1, 2, 3]) .uncompressed = .ok packed
        ∧ packed.bytes = threeBytes.encode ++ [1, 2, 3]
        ∧ (∃ unpacked, @unpack .coarse _ forBytes packed.bytes = .ok unpacked
          ∧ unpacked.value = .composite [1, 2, 3])
        ∧ (∃ flaw, @unpack .coarse _ (forArrays Settings.default) packed.bytes
          = .error (.unsupportedVariableType flaw))
        ∧ ∃ flaw, @pack .coarse _ forBytes (.composite [1, 2, 3])
          (.coded (.quantizer .linear) Level.fast) = .error (.compressorArgument flaw) := by
  let exponential := Exponential.coarse
  have lawful : forBytes.serializer.Lawful := by
    intro content stream serialized
    cases serialized
    rfl
  let packed : Packed :=
    ⟨threeBytes.encode ++ [1, 2, 3], .plain, Statistics.uncompressed 3, wholeRatio⟩
  have done : forBytes.pack (.composite [1, 2, 3]) .uncompressed = .ok packed := rfl
  obtain ⟨opened, -⟩ := composite_round_trip forBytes lawful [1, 2, 3]
  obtain ⟨stored, refused⟩ := opened rfl [1, 2, 3] rfl (by decide)
  obtain ⟨header, -, -, -, restored, gated⟩ := stored .uncompressed packed rfl done
  exact ⟨lawful, packed, done, rfl, restored, gated _ (by decide), refused .linear Level.fast⟩

end Codec
end ArrayBlob
