import ArrayBlob.Blob.Inspection
import ArrayBlob.Proofs.Blob.Faults
import ArrayBlob.Proofs.Blob.Unpacking

/-!
# Reading needs no more room than the blob justifies

A header may claim any shape, but every reader checks the payload against the claim before it
reserves anything, and a payload that passes stands for at most 255 bytes for each of its own.
Reading a blob of fewer than `2 ^ 54` bytes therefore never fails for want of room, and the data of
any blob that is read are bounded by its size.
-/

namespace ArrayBlob

/-- An operation did not fail for want of room. -/
def FindsRoom {α : Type} (outcome : Except Fault α) : Prop :=
  ∀ size, outcome ≠ .error (.allocationFailed size)

namespace FindsRoom

variable {α β : Type}

theorem ok (value : α) : FindsRoom (.ok value) :=
  fun _ failed => by cases failed

/-- An operation whose faults are of other categories finds room. -/
theorem of_failsWithin {categories : List Category} {outcome : Except Fault α}
    (within : FailsWithin categories outcome) (absent : .allocationFailed ∉ categories) :
    FindsRoom outcome :=
  fun size failed => absent (within (.allocationFailed size) failed)

theorem bind {first : Except Fault α} {next : α → Except Fault β} (before : FindsRoom first)
    (after : ∀ value, first = .ok value → FindsRoom (next value)) :
    FindsRoom (first >>= next) := by
  intro size failed
  rcases bind_eq_error_iff.1 failed with failed | ⟨value, made, failed⟩
  · exact before size failed
  · exact after value made size failed

theorem map {outcome : Except Fault α} (room : FindsRoom outcome) (rename : α → β) :
    FindsRoom (outcome.map rename) :=
  fun size failed => room size (map_eq_error_iff.1 failed)

end FindsRoom

/-- The serializer for arrays alone has no use for room. -/
theorem Serializer.findsRoom_none (data : Bytes) : FindsRoom (Serializer.none.deserialize data) :=
  fun _ failed => by cases failed

/-- A serializer of documents does not fail for want of room. -/
theorem Serializer.findsRoom_ofJson {γ : Type} (toJson : γ → Except Fault Json)
    (ofJson? : Json → Option γ) (data : Bytes) :
    FindsRoom ((Serializer.ofJson toJson ofJson?).deserialize data) := by
  intro size failed
  unfold ofJson at failed
  dsimp only at failed
  split at failed <;> cases failed

/-! ## Raw data -/

/-- Room for what a few bytes can stand for is found. -/
theorem reserve_of_le {bytes : Bytes} {rawSize : Nat} (small : bytes.length < 2 ^ 54)
    (bound : rawSize ≤ 255 * bytes.length) : reserve rawSize = .ok () :=
  reserve_eq_ok_iff.2 (by omega)

/-- Asking for that room is no reason to fail. -/
theorem reserve_failsWithin_of_le {bytes : Bytes} {rawSize : Nat} (categories : List Category)
    (small : bytes.length < 2 ^ 54) (bound : rawSize ≤ 255 * bytes.length) :
    FailsWithin categories (reserve rawSize) := by
  rw [reserve_of_le small bound]
  exact .ok _

/-- What stands behind an offset of few bytes is few bytes. -/
theorem Bytes.length_drop_lt {bytes : Bytes} {limit : Nat} (offset : Nat)
    (small : bytes.length < limit) : (bytes.drop offset).length < limit :=
  Nat.lt_of_le_of_lt (List.drop_sublist offset bytes).length_le small

section

variable [Exponential] {header : Header} {payload : Bytes}

theorem Header.unpackRaw_failsWithin_of_small (header : Header)
    (small : payload.length < 2 ^ 54) :
    FailsWithin refusalCategories (header.unpackRaw payload) := by
  apply Header.unpackRaw_failsWithin_of_steps
  · decide
  · exact (Shape.rawSize_failsWithin _ _).mono (by decide)
  · intro name selection rawSize _ _ _
    exact (selection.checkFraming_failsWithin _ payload rawSize).mono (by decide)
  · intro rawSize bound
    exact reserve_failsWithin_of_le _ small bound

/-- Raw data have the size that the header describes, which is bounded by the payload. -/
theorem Header.sizes_of_unpackRaw {data : Bytes} {statistics : Statistics} {ratio : Double}
    (restored : header.unpackRaw payload = .ok (data, statistics, ratio)) :
    header.rawSize = .ok data.length ∧ statistics.raw = data.length
      ∧ data.length ≤ 255 * payload.length := by
  cases named : header.compressorText with
  | none =>
    obtain ⟨rfl, described, rfl, -⟩ := Header.eq_of_unpackRaw_plain named restored
    exact ⟨described, rfl, by omega⟩
  | some name =>
    obtain ⟨coder, restores, rfl, -⟩ := Header.exists_restores named restored
    exact ⟨restores.sized, rfl, Selection.rawSize_le_of_checkFraming restores.framed⟩

end

/-! ## Values -/

namespace Codec

variable {γ : Type}

/-- The raw data of a value: the bytes of an array, or those that the serializer read it from. -/
def RawData (codec : Codec γ) (value : Value γ) (data : Bytes) : Prop :=
  match value with
  | .array array => array.data = data
  | .composite content => codec.serializer.deserialize data = .ok content

theorem rawData_of_valueOf {codec : Codec γ} {array : TypedArray} {value : Value γ}
    (made : codec.valueOf array = .ok value) : codec.RawData value array.data := by
  unfold valueOf at made
  split at made
  · split at made
    · obtain ⟨content, read, same⟩ := map_eq_ok_iff.1 made
      cases same
      exact read
    · cases made
  · cases made
    rfl

theorem findsRoom_valueOf {codec : Codec γ} (array : TypedArray)
    (serializer : FindsRoom (codec.serializer.deserialize array.data)) :
    FindsRoom (codec.valueOf array) := by
  unfold valueOf
  split
  · split
    · exact serializer.map _
    · exact fun _ failed => by cases failed
  · exact fun _ failed => by cases failed

variable [Exponential] {codec : Codec γ} {blob : Bytes}

/-- A small blob is unpacked without want of room, unless the serializer itself finds none. -/
theorem findsRoom_unpack (small : blob.length < 2 ^ 54)
    (serializer : ∀ data, FindsRoom (codec.serializer.deserialize data)) :
    FindsRoom (codec.unpack blob) := by
  unfold unpack
  apply FindsRoom.bind (.of_failsWithin (Header.decode_failsWithin blob) (by decide))
  intro header _
  have smaller := Bytes.length_drop_lt header.payloadOffset small
  apply FindsRoom.bind (.of_failsWithin (header.unpackRaw_failsWithin_of_small smaller) (by decide))
  intro restored _
  apply FindsRoom.bind (.of_failsWithin (TypedArray.ofBytes_failsWithin _ _ _) (by decide))
  intro array _
  apply FindsRoom.bind (findsRoom_valueOf array (serializer array.data))
  intro value _
  exact .ok _

/-- The raw data of what was unpacked are bounded by the size of the blob. -/
theorem rawData_of_unpack {unpacked : Unpacked γ} (done : codec.unpack blob = .ok unpacked) :
    ∃ data, codec.RawData unpacked.value data ∧ unpacked.statistics.raw = data.length
      ∧ data.length ≤ 255 * blob.length := by
  obtain ⟨header, data, array, -, restored, made, valued, -⟩ := unpack_eq_ok done
  obtain ⟨-, -, held⟩ := TypedArray.fields_of_ofBytes made
  obtain ⟨-, counted, bound⟩ := Header.sizes_of_unpackRaw restored
  rw [List.length_drop] at bound
  refine ⟨data, held ▸ rawData_of_valueOf valued, counted, ?_⟩
  exact Nat.le_trans bound (Nat.mul_le_mul_left _ (Nat.sub_le _ _))

end Codec

/-! ## Coding again -/

/-- A frame is refused only because the data or its body are too large for its fields. -/
theorem Frame.fault_of_encode {flavor : Flavor} {level : Level} {layout : Layout} {raw : Bytes}
    {fault : Fault} (failed : encode flavor level layout raw = .error fault) :
    ∃ size, fault = .compression (.inputExceedsFrame size)
      ∨ fault = .compression (.bodyExceedsFrame size) := by
  by_cases small : raw.length < 2 ^ 32
  · rw [encode_of_small flavor level layout small] at failed
    rcases bind_eq_error_iff.1 failed with large | ⟨header, -, impossible⟩
    · unfold Header.ofBody at large
      split at large
      · cases large
      · cases large
        exact ⟨_, .inr rfl⟩
    · cases impossible
  · unfold encode checkRawSize at failed
    rw [if_neg small] at failed
    cases failed
    exact ⟨_, .inl rfl⟩

theorem Frame.encode_failsWithin (flavor : Flavor) (level : Level) (layout : Layout)
    (raw : Bytes) : FailsWithin [.compression] (encode flavor level layout raw) := by
  intro fault failed
  obtain ⟨size, rfl | rfl⟩ := fault_of_encode failed <;> exact .head _

theorem Quantizer.encode_failsWithin [Exponential] (mode : Mode) (values : List Double) :
    FailsWithin [.compressorDomain] (Quantizer.encode mode values) := by
  rw [Quantizer.encode_eq, scalingOf]
  split
  · exact .error (.head _)
  · exact .ok _

/-- Room for the payload of raw data is found, unless the data themselves take almost all of it. -/
theorem Selection.pack_failsWithin_of_small [Exponential] (selection : Selection)
    (layout : Layout) {raw : Bytes} (small : raw.length < 2 ^ 62) :
    FailsWithin [.compression, .compressorArgument, .compressorDomain]
      (selection.pack layout raw) := by
  unfold pack
  split
  · rw [reserve_eq_ok_iff.2 (Nat.lt_trans small (by decide))]
    exact .ok _
  · next flavor level =>
    have room : reserve (Frame.largestFrame raw.length) = .ok () := by
      rw [reserve_eq_ok_iff, Frame.largestFrame, Frame.headerSize]
      omega
    rw [Frame.compress_eq, room, ok_bind]
    exact (Frame.encode_failsWithin flavor level layout raw).mono (by decide)
  · next mode _ =>
    rw [Quantizer.compress_eq, Quantizer.reserve_payloadSize (Nat.lt_trans small (by decide)),
      ok_bind]
    apply FailsWithin.bind ((Quantizer.doubleCount_failsWithin layout _).mono (by decide))
    intro _ _
    exact (Quantizer.encode_failsWithin mode _).mono (by decide)

/-! ## Inspection -/

namespace Inspection

variable {blob : Bytes} {coded : CodedPayload}

theorem findsRoom_codedPayload? (blob : Bytes) : FindsRoom (codedPayload? blob) := by
  unfold codedPayload?
  apply FindsRoom.bind (.of_failsWithin (Header.decode_failsWithin blob) (by decide))
  intro header _
  split
  · next name _ =>
    apply FindsRoom.bind (.of_failsWithin (Selection.ofStoredName_failsWithin name) (by decide))
    intro selection _
    apply FindsRoom.bind (.of_failsWithin (Shape.rawSize_failsWithin _ _) (by decide))
    intro rawSize _
    apply FindsRoom.bind
      (.of_failsWithin (selection.checkFraming_failsWithin _ _ rawSize) (by decide))
    intro _ _
    exact .ok _
  · exact .ok _

/-- The raw size of a coded payload that was found is bounded by the size of the blob. -/
theorem rawSize_le_of_codedPayload? (found : codedPayload? blob = .ok (some coded)) :
    coded.rawSize ≤ 255 * blob.length := by
  obtain ⟨header, -, found⟩ := bind_eq_ok_iff.1 found
  split at found
  · obtain ⟨selection, -, found⟩ := bind_eq_ok_iff.1 found
    obtain ⟨rawSize, -, found⟩ := bind_eq_ok_iff.1 found
    obtain ⟨⟨⟩, checked, same⟩ := bind_eq_ok_iff.1 found
    cases same
    have bound := Selection.rawSize_le_of_checkFraming checked
    rw [List.length_drop] at bound
    exact Nat.le_trans bound (Nat.mul_le_mul_left _ (Nat.sub_le _ _))
  · cases found

variable [Exponential]

/-- The raw data of a coded payload of a small blob are decoded without want of room. -/
theorem findsRoom_decode (small : blob.length < 2 ^ 54)
    (bound : coded.rawSize ≤ 255 * blob.length) : FindsRoom coded.decode := by
  rw [CodedPayload.decode, reserve_of_le small bound, ok_bind]
  exact .of_failsWithin (coded.selection.unpack_failsWithin _ _ _) (by decide)

theorem findsRoom_decodingWork (small : blob.length < 2 ^ 54) :
    FindsRoom (decodingWork blob) := by
  unfold decodingWork
  apply FindsRoom.bind (findsRoom_codedPayload? blob)
  intro coded? found
  split
  · next coded =>
    apply FindsRoom.bind (findsRoom_decode small (rawSize_le_of_codedPayload? found))
    intro data _
    exact .ok _
  · exact .ok _

theorem findsRoom_codingWork (small : blob.length < 2 ^ 54) :
    FindsRoom (codingWork blob) := by
  unfold codingWork
  apply FindsRoom.bind (findsRoom_codedPayload? blob)
  intro coded? found
  split
  · next coded =>
    have bound := rawSize_le_of_codedPayload? found
    apply FindsRoom.bind (findsRoom_decode small bound)
    intro data decoded
    obtain ⟨⟨⟩, -, unpacked⟩ := bind_eq_ok_iff.1 decoded
    have full := Selection.length_of_unpack unpacked
    apply FindsRoom.bind (.of_failsWithin
      (coded.selection.pack_failsWithin_of_small coded.layout (by omega)) (by decide))
    intro payload _
    exact .ok _
  · exact .ok _

end Inspection

/-! ## The bound -/

/-- What passes the check in front of the unpacking stands for at most 255 raw bytes for each byte
of the payload. Hence no reader of a blob of fewer than `2 ^ 54` bytes fails for want of room: not
the inspections, and not a codec, unless its serializer does so by itself, which those for arrays
alone and for documents never do. The data of any blob that is unpacked are at most 255 bytes for
each of its own, whatever the header claims. -/
theorem reading_bounded_by_blob [Exponential] :
    (∀ (selection : Selection) (layout : Layout) (payload : Bytes) (rawSize : Nat),
      selection.checkFraming layout payload rawSize = .ok () → rawSize ≤ 255 * payload.length)
    ∧ (∀ blob : Bytes, blob.length < 2 ^ 54 →
      (∀ {γ : Type} (codec : Codec γ), (∀ data, FindsRoom (codec.serializer.deserialize data)) →
          FindsRoom (codec.unpack blob))
        ∧ (∀ settings, FindsRoom (Codec.unpack ⟨settings, Serializer.none⟩ blob))
        ∧ (∀ {γ : Type} (settings : Settings) (toJson : γ → Except Fault Json)
            (ofJson? : Json → Option γ),
          FindsRoom (Codec.unpack ⟨settings, Serializer.ofJson toJson ofJson?⟩ blob))
        ∧ FindsRoom (Inspection.decodingWork blob)
        ∧ FindsRoom (Inspection.codingWork blob))
    ∧ ∀ (blob : Bytes) {γ : Type} (codec : Codec γ) (unpacked : Unpacked γ),
      codec.unpack blob = .ok unpacked →
        ∃ data, codec.RawData unpacked.value data ∧ unpacked.statistics.raw = data.length
          ∧ data.length ≤ 255 * blob.length := by
  refine ⟨?_, ?_, ?_⟩
  · intro selection layout payload rawSize checked
    exact Selection.rawSize_le_of_checkFraming checked
  · intro blob small
    refine ⟨?_, ?_, ?_, Inspection.findsRoom_decodingWork small,
      Inspection.findsRoom_codingWork small⟩
    · intro γ codec serializer
      exact codec.findsRoom_unpack small serializer
    · intro settings
      exact Codec.findsRoom_unpack small Serializer.findsRoom_none
    · intro γ settings toJson ofJson?
      exact Codec.findsRoom_unpack small (Serializer.findsRoom_ofJson toJson ofJson?)
  · intro blob γ codec unpacked done
    exact Codec.rawData_of_unpack done

/-- A header that claims a box of `2 ^ 31 - 1` by `2 ^ 31 - 1` by 3 bytes. -/
def boast : Header :=
  ⟨.uint8, Platform.host, none, ⟨[2147483647, 2147483647, 3], by decide, by decide⟩⟩

/-- The boast without a payload claims more than can be reserved and is refused before that. A
frame of 25 bytes that claims 2000 passes the check. -/
theorem reading_bounded_by_boast :
    boast.encode.length < 2 ^ 54
      ∧ boast.rawSize = .ok 13835058042397261827
      ∧ reserve 13835058042397261827 ≠ .ok ()
      ∧ FindsRoom (@Codec.unpack .coarse _ ⟨Settings.default, Serializer.none⟩ boast.encode)
      ∧ (Selection.coded (.lossless .lz4) Level.best).checkFraming ⟨1, false⟩
          [2, 1, 32, 1, 208, 7, 0, 0, 208, 7, 0, 0, 25, 0, 0, 0, 0, 0, 0, 0, 0, 0, 0, 0, 0] 2000
        = .ok ()
      ∧ 2000 ≤ 255 * 25 := by
  have small : boast.encode.length < 2 ^ 54 := by decide
  have framed : (Selection.coded (.lossless .lz4) Level.best).checkFraming ⟨1, false⟩
      [2, 1, 32, 1, 208, 7, 0, 0, 208, 7, 0, 0, 25, 0, 0, 0, 0, 0, 0, 0, 0, 0, 0, 0, 0] 2000
      = .ok () := by
    rfl
  have refused : reserve 13835058042397261827 ≠ .ok () := by
    rw [ne_eq, reserve_eq_ok_iff]
    decide
  obtain ⟨bounded, room, -⟩ := @reading_bounded_by_blob .coarse
  exact ⟨small, rfl, refused, (room boast.encode small).2.1 Settings.default, framed,
    bounded _ _ _ _ framed⟩

end ArrayBlob
