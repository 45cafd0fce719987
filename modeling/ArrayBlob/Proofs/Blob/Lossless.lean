import ArrayBlob.Proofs.Blob.Unpacking

/-!
# The lossless pipeline restores every array

An array that was packed without loss is unpacked as itself by every codec: the header tells which
payload follows it, the check in front of the unpacking accepts the payload, and the codec that the
header names restores it. Packing fails only for blobs that are too large and for dimensions that
do not fit a header.
-/

namespace ArrayBlob

section

variable [Exponential]

variable {selection : Selection} {elementType : ElementType} {dims : List Nat} {raw : Bytes}
  {coded? : Option Bytes} {header : Header}

/-- Behind its header, a payload that was chosen without loss is unpacked to the raw data, with the
statistics of its packing. -/
theorem unpackRaw_lossless (lossless : selection.isLossy = false)
    (sized : Shape.rawSize elementType dims = .ok raw.length)
    (chosen : selection.chosenPayload? elementType dims.length raw = .ok coded?)
    (made : Header.make elementType Platform.host (selection.chosenName? coded?) dims
      = .ok header)
    (room : chosenSize dims.length raw.length coded? < 2 ^ 63) :
    ∃ ratio, header.unpackRaw (coded?.getD raw)
      = .ok (raw, (Packed.ofChoice selection raw header dims.length coded?).statistics, ratio) := by
  obtain ⟨type, -, named, -⟩ := Header.fields_of_make made
  have described := Header.rawSize_of_make made sized
  cases coded? with
  | none =>
    have small : raw.length < 2 ^ 63 := Nat.lt_of_le_of_lt (Nat.le_add_left _ _) room
    exact ⟨wholeRatio, Header.unpackRaw_plain named described small⟩
  | some payload =>
    obtain ⟨⟨coder, level, rfl⟩, packed, -⟩ := pack_of_chosenPayload? chosen
    rcases Selection.cases_of_not_isLossy lossless with impossible | ⟨flavor, again, same⟩
    · cases impossible
    · cases same
      have small : raw.length < 2 ^ 63 :=
        Nat.lt_trans (Selection.length_lt_of_pack_lossless packed) (by decide)
      have stored : header.compressorText = some (Coder.lossless flavor).name := named
      have framed := Selection.checkFraming_pack_lossless Level.fast packed
      have restored := Selection.unpack_pack_lossless Level.fast packed
      rw [← type] at framed restored
      exact ⟨_, Header.unpackRaw_of_restores
        ⟨⟨_, stored, Selection.ofStoredName_name _⟩, described, small, framed, restored⟩⟩

/-- An array that is no byte stream survives packing without loss: whatever was packed is unpacked
as the array by every codec, and packing fails only for a blob that is too large or for dimensions
that do not fit 32 bits with a sign. -/
theorem unpack_packArray_lossless (settings : Settings) (array : TypedArray)
    (selection : Selection) (on : settings.mode ≠ .off)
    (flat : array.elementType ≠ .byteStream) (lossless : selection.isLossy = false) :
    (∀ packed, settings.packArray array selection = .ok packed →
      ∀ {γ : Type} (codec : Codec γ), ∃ unpacked, codec.unpack packed.bytes = .ok unpacked
        ∧ unpacked.value = .array array
        ∧ unpacked.revision = packed.revision
        ∧ unpacked.mismatch = none)
    ∧ (array.data.length < 2 ^ 32 - 16 → ∀ fault,
      settings.packArray array selection = .error fault →
        (∃ size limit, fault = .blobTooBig size limit)
        ∨ (∃ flaw, fault = .invalidShape flaw)
          ∧ (2 ^ 31 ≤ array.dims.length ∨ ∃ dimension ∈ array.dims, 2 ^ 31 ≤ dimension)) := by
  rw [settings.packArray_flat selection on flat]
  constructor
  · intro packed done γ codec
    obtain ⟨coded?, header, chosen, room, made, rfl⟩ := packRaw_eq_ok done
    obtain ⟨ratio, restored⟩ := unpackRaw_lossless lossless array.rawSize_eq chosen made room
    obtain ⟨type, platform, -, dims⟩ := Header.fields_of_make made
    have unpacked := codec.unpack_array flat type dims restored
    refine ⟨_, by rw [Packed.bytes_ofChoice]; exact unpacked, rfl, ?_, ?_⟩
    · exact (Packed.revision_ofChoice made).symm
    · simp [Header.mismatch?, platform, Platform.mismatch?]
  · intro small fault failed
    rw [Settings.packRaw_eq] at failed
    split at failed
    · cases failed
      exact .inl ⟨_, _, rfl⟩
    · rcases bind_eq_error_iff.1 failed with unmade | ⟨coded?, chosen, unsealed⟩
      · have fits : Frame.largestFrame array.data.length < 2 ^ 32 := by
          unfold Frame.largestFrame Frame.headerSize
          omega
        obtain ⟨payload, packed⟩ :=
          selection.pack_eq_ok_of_not_isLossy array.elementType.layout lossless fits
        rw [pack_of_chosenPayload?_error unmade] at packed
        cases packed
      · obtain ⟨coder?, named⟩ := chosenName?_of_chosenPayload? chosen
        rcases fault_of_seal named unsealed with ⟨size, rfl⟩ | refused | ⟨large, few⟩
        · exact .inl ⟨size, _, rfl⟩
        · exact .inr refused
        · have bound := chosenSize_le chosen
          simp only [Revision.blobSize, Revision.payloadOffset, Revision.headerSize, commonSize,
            dimensionLimit] at bound few
          omega

/-- A row of 42 equal bytes. -/
def sevens : TypedArray :=
  ⟨.uint8, [42], List.replicate 42 7, rfl⟩

set_option maxRecDepth 100000 in
theorem chosenPayload?_sevens :
    (Selection.coded (.lossless .lz4hc) Level.best).chosenPayload? sevens.elementType
        sevens.dims.length sevens.data
      = .ok (some [2, 1, 64, 1, 42, 0, 0, 0, 42, 0, 0, 0, 28, 0, 0, 0,
          31, 7, 1, 0, 16, 96, 7, 7, 7, 7, 7, 7]) := by
  cbv

end

/-- The row is packed by a codec, not stored as it is, and every codec restores it. -/
theorem unpack_packArray_sevens :
    Settings.default.mode ≠ .off ∧ sevens.elementType ≠ .byteStream
      ∧ (Selection.coded (.lossless .lz4hc) Level.best).isLossy = false
      ∧ ∃ packed,
        @Settings.packArray .coarse Settings.default sevens
            (.coded (.lossless .lz4hc) Level.best) = .ok packed
          ∧ packed.revision = .coded
          ∧ ∀ codec : Codec Unit, ∃ unpacked,
            @Codec.unpack .coarse _ codec packed.bytes = .ok unpacked
              ∧ unpacked.value = .array sevens := by
  let exponential := Exponential.coarse
  have on : Settings.default.mode ≠ .off := by decide
  have flat : sevens.elementType ≠ .byteStream := by decide
  have lossless : (Selection.coded (.lossless .lz4hc) Level.best).isLossy = false := rfl
  have small : ¬ Shape.limit ≤ Revision.plain.blobSize sevens.dims.length sevens.data.length := by
    decide
  refine ⟨on, flat, lossless, ?_⟩
  obtain ⟨restored, -⟩ := unpack_packArray_lossless Settings.default sevens _ on flat lossless
  rw [Settings.packArray_flat _ _ on flat, Settings.packRaw_eq, if_neg small,
    chosenPayload?_sevens, ok_bind] at restored ⊢
  refine ⟨_, rfl, rfl, fun codec => ?_⟩
  obtain ⟨unpacked, done, value, -⟩ := restored _ rfl codec
  exact ⟨unpacked, done, value⟩

end ArrayBlob
