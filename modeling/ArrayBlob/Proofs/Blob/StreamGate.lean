import ArrayBlob.Proofs.Blob.Faults
import ArrayBlob.Proofs.Blob.Unpacking

/-!
# The gates of byte streams

Without the byte stream mode, packing looks at the storage class of an array and unpacking at the
type in the header. The two gates differ on one kind of array: a byte stream without bytes has the
storage class of an empty array, so that it is packed, and its blob is refused by the codec that
wrote it. Whatever else is packed without that mode is no byte stream and is not refused for its
type.
-/

namespace ArrayBlob

/-- A byte stream without bytes. -/
def TypedArray.isEmptyStream (array : TypedArray) : Bool :=
  array.elementType = .byteStream && array.isEmpty

/-- Where byte streams are not allowed, an array that is not refused is none or has no bytes. -/
theorem TypedArray.isEmptyStream_of_stored {array : TypedArray}
    (stored : array.storageClass false ≠ .unsupported) :
    array.isEmptyStream = true ↔ array.elementType = .byteStream := by
  by_cases stream : array.elementType = .byteStream
  · unfold storageClass at stored
    rw [stream] at stored
    cases empty : array.isEmpty <;> simp_all [isEmptyStream]
  · simp [isEmptyStream, stream]

section

variable [Exponential] {selection : Selection}

/-- No payload is smaller than no data. -/
theorem chosenPayload?_of_isEmpty {elementType : ElementType} {dimensionCount : Nat}
    {coded? : Option Bytes}
    (chosen : selection.chosenPayload? elementType dimensionCount [] = .ok coded?) :
    coded? = none := by
  cases coded? with
  | none => rfl
  | some payload =>
    obtain ⟨-, -, smaller⟩ := pack_of_chosenPayload? chosen
    exact absurd smaller (Nat.not_lt_zero _)

namespace Settings

variable {settings : Settings} {array : TypedArray} {packed : Packed}

/-- What packing an array gives when it succeeds: a blob of its raw data, behind a gate that it has
passed. -/
theorem packArray_eq_ok (done : settings.packArray array selection = .ok packed) :
    array.storageClass settings.mode.allowsStreams ≠ .unsupported
      ∧ settings.packRaw array.elementType array.dims array.data selection = .ok packed := by
  by_cases off : settings.mode = .off
  · rw [packArray, if_pos off] at done
    cases done
  · by_cases refused : array.storageClass settings.mode.allowsStreams = .unsupported
    · rw [packArray, if_neg off, if_pos refused] at done
      cases done
    · rw [packArray, if_neg off, if_neg refused] at done
      exact ⟨refused, done⟩

end Settings

namespace Codec

variable {γ : Type} {codec : Codec γ} {header : Header}

/-- Unpacking what is no byte stream is never refused for the type of the value. -/
theorem unpack_append_failsWithin (codec : Codec γ) (payload : Bytes)
    (flat : header.elementType ≠ .byteStream) :
    FailsWithin payloadCategories (codec.unpack (header.encode ++ payload)) := by
  rw [codec.unpack_append header payload]
  refine .bind (header.unpackRaw_failsWithin payload) fun restored _ => ?_
  refine .bind ((TypedArray.ofBytes_failsWithin _ _ _).mono (by decide)) fun array made => ?_
  obtain ⟨type, -, -⟩ := TypedArray.fields_of_ofBytes made
  rw [codec.valueOf_array (type ▸ flat)]
  exact .ok _

/-- Without the byte stream mode only arrays are packed. -/
theorem pack_eq_ok {value : Value γ} {packed : Packed}
    (closed : codec.settings.mode ≠ .byteStream)
    (done : codec.pack value selection = .ok packed) :
    ∃ array, value = .array array ∧ codec.settings.packArray array selection = .ok packed := by
  cases value with
  | array array => exact ⟨array, rfl, done⟩
  | composite content =>
    have refused : codec.settings.mode.allowsStreams = false := by
      simpa [StorageMode.allowsStreams] using closed
    simp [pack, refused] at done

/-- The blob of a byte stream is refused by every codec without the byte stream mode. -/
theorem unpack_emptyStream {array : TypedArray} {payload : Bytes} {statistics : Statistics}
    {ratio : Double} (closed : codec.settings.mode ≠ .byteStream)
    (stream : array.elementType = .byteStream) (type : header.elementType = array.elementType)
    (dims : header.dims = array.dims)
    (restored : header.unpackRaw payload = .ok (array.data, statistics, ratio)) :
    codec.unpack (header.encode ++ payload)
      = .error (.unsupportedVariableType .streamRefused) := by
  have refused : codec.settings.mode.allowsStreams = false := by
    simpa [StorageMode.allowsStreams] using closed
  rw [codec.unpack_eq_map type dims restored, valueOf, if_pos stream, refused]
  rfl

end Codec

end

/-! ## The exact condition -/

namespace Codec

/-- What a codec without the byte stream mode packs is an array. Its blob is of the type of byte
streams, and is refused by the same codec for the type of its value, exactly if the array is a byte
stream without bytes. -/
theorem streamGate_of_pack [Exponential] {γ : Type} (codec : Codec γ) (value : Value γ)
    (selection : Selection) (packed : Packed) (closed : codec.settings.mode ≠ .byteStream)
    (done : codec.pack value selection = .ok packed) :
    ∃ array header, value = .array array
      ∧ codec.settings.packArray array selection = .ok packed
      ∧ Header.decode packed.bytes = .ok header
      ∧ (header.elementType = .byteStream ↔ array.isEmptyStream = true)
      ∧ ((∃ fault, codec.unpack packed.bytes = .error fault
            ∧ fault.category = .unsupportedVariableType)
          ↔ array.isEmptyStream = true) := by
  obtain ⟨array, same, packedArray⟩ := pack_eq_ok closed done
  obtain ⟨stored, packedRaw⟩ := Settings.packArray_eq_ok packedArray
  have refused : codec.settings.mode.allowsStreams = false := by
    simpa [StorageMode.allowsStreams] using closed
  rw [refused] at stored
  have gate := TypedArray.isEmptyStream_of_stored stored
  obtain ⟨coded?, header, chosen, room, made, rfl⟩ := packRaw_eq_ok packedRaw
  obtain ⟨type, -, named, dims⟩ := Header.fields_of_make made
  rw [Packed.bytes_ofChoice]
  refine ⟨array, header, same, packedArray, header.decode_encode _, by rw [type, gate], ?_⟩
  constructor
  · rintro ⟨fault, failed, category⟩
    apply gate.2
    apply Classical.byContradiction
    intro flat
    have member := codec.unpack_append_failsWithin _ (type ▸ flat) fault failed
    rw [category] at member
    revert member
    decide
  · intro emptyStream
    have noData : array.data = [] := by
      simp only [TypedArray.isEmptyStream, TypedArray.isEmpty, Bool.and_eq_true,
        List.isEmpty_iff] at emptyStream
      exact emptyStream.2
    rw [noData] at chosen room
    cases chosenPayload?_of_isEmpty chosen
    have described : header.rawSize = .ok array.data.length := by
      rw [Header.rawSize, type, dims, array.rawSize_eq]
    have restored := Header.unpackRaw_plain named described (by rw [noData]; decide)
    exact ⟨_, unpack_emptyStream closed (gate.1 emptyStream) type dims restored, rfl⟩

/-- The codec of the default settings, which have the array mode, and of no serializer. -/
def plain : Codec Empty :=
  ⟨Settings.default, Serializer.none⟩

/-- A single byte is packed by this codec and is not refused by it. -/
theorem streamGate_of_pack_byte :
    plain.settings.mode ≠ .byteStream
      ∧ ∃ packed,
        @pack .coarse _ plain (.array ⟨.uint8, [1, 1], [7], rfl⟩) .uncompressed = .ok packed
          ∧ ¬ ∃ fault, @unpack .coarse _ plain packed.bytes = .error fault
            ∧ fault.category = .unsupportedVariableType := by
  let exponential := Exponential.coarse
  have closed : plain.settings.mode ≠ .byteStream := by decide
  refine ⟨closed, _, rfl, ?_⟩
  obtain ⟨array, -, same, -, -, -, refused⟩ :=
    streamGate_of_pack plain (.array ⟨.uint8, [1, 1], [7], rfl⟩) .uncompressed _ closed rfl
  cases same
  rw [refused]
  decide

/-- The header of the blob of an empty byte stream. -/
def emptyStreamHeader : Header :=
  ⟨.byteStream, Platform.host, none, ⟨[1, 0], by decide, by decide⟩⟩

/-- An empty byte stream is packed by this codec into a blob that it refuses to unpack. -/
theorem emptyStream_packed_and_refused :
    plain.settings.mode ≠ .byteStream
      ∧ ∃ array packed, TypedArray.ofStream [] = .ok array
        ∧ @pack .coarse _ plain (.array array) .uncompressed = .ok packed
        ∧ Header.decode packed.bytes = .ok emptyStreamHeader
        ∧ emptyStreamHeader.elementType = .byteStream
        ∧ @unpack .coarse _ plain packed.bytes
          = .error (.unsupportedVariableType .streamRefused) := by
  let exponential := Exponential.coarse
  let array : TypedArray := ⟨.byteStream, [1, 0], [], rfl⟩
  let packed : Packed :=
    ⟨emptyStreamHeader.encode ++ array.data, .plain, Statistics.uncompressed 0, wholeRatio⟩
  have closed : plain.settings.mode ≠ .byteStream := by decide
  have stream : array.elementType = .byteStream := rfl
  have restored : emptyStreamHeader.unpackRaw array.data
      = .ok (array.data, Statistics.uncompressed 0, wholeRatio) :=
    Header.unpackRaw_plain rfl rfl (by decide)
  refine ⟨closed, array, packed, rfl, rfl, ?_, rfl, ?_⟩
  · exact emptyStreamHeader.decode_encode array.data
  · exact unpack_emptyStream closed stream rfl rfl restored

end Codec
end ArrayBlob
