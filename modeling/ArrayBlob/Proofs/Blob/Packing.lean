import ArrayBlob.Blob.Codec
import ArrayBlob.Proofs.Selection

/-!
# What packing does

Packing raw data is two steps. The first chooses the payload: the one that the codec makes, if the
blob becomes smaller with it, and otherwise none. Reading a lossless payload back never changes
the choice, because what was packed is always restored. The second step seals the chosen payload
behind a header, and it alone looks at the size limit and at the range of the dimensions.
-/

namespace ArrayBlob

/-! ## The choice of the payload -/

/-- The size of a blob with a payload of some size. -/
def Revision.blobSize (revision : Revision) (dimensionCount payloadSize : Nat) : Nat :=
  revision.payloadOffset dimensionCount + payloadSize

/-- A payload, if the blob becomes smaller with it than it is with the raw data. -/
def smallerPayload? (dimensionCount rawSize : Nat) (payload : Bytes) : Option Bytes :=
  if Revision.plain.blobSize dimensionCount rawSize
      ≤ Revision.coded.blobSize dimensionCount payload.length then none
  else some payload

/-- The first revision has no name, which takes 12 bytes. -/
theorem smallerPayload?_eq (dimensionCount rawSize : Nat) (payload : Bytes) :
    smallerPayload? dimensionCount rawSize payload
      = if payload.length + nameWidth < rawSize then some payload else none := by
  have larger : Revision.plain.blobSize dimensionCount rawSize
      ≤ Revision.coded.blobSize dimensionCount payload.length
      ↔ ¬ payload.length + nameWidth < rawSize := by
    simp only [Revision.blobSize, Revision.payloadOffset, Revision.headerSize]
    omega
  simp only [smallerPayload?, larger, ite_not]

namespace Selection

variable [Exponential]

/-- The chosen payload is that of the codec, if it is smaller. Whether lossless payloads are read
back makes no difference. -/
theorem payload?_eq (selection : Selection) (verify : Bool) (elementType : ElementType)
    (dimensionCount : Nat) (raw : Bytes) :
    selection.payload? verify elementType dimensionCount raw
      = (selection.pack elementType.layout raw).map
          (smallerPayload? dimensionCount raw.length) := by
  unfold payload? smallerPayload? Revision.blobSize
  cases packed : selection.pack elementType.layout raw with
  | error fault =>
    simp only [packed]
    rfl
  | ok payload =>
    simp only [packed, ok_bind, Except.map]
    split
    · rfl
    · next smaller =>
      by_cases checked : (verify && !selection.isLossy) = true
      · have lossless : selection.isLossy = false := by
          simp only [Bool.and_eq_true, Bool.not_eq_true'] at checked
          exact checked.2
        rcases cases_of_not_isLossy lossless with rfl | ⟨flavor, level, rfl⟩
        · -- Without compression the blob would only get a longer header.
          obtain ⟨-, -, same⟩ := bind_eq_ok_iff.1 packed
          cases same
          simp only [Revision.payloadOffset, Revision.headerSize] at smaller
          omega
        · have room : reserve raw.length = .ok () :=
            reserve_eq_ok_iff.2 (Nat.lt_trans (length_lt_of_pack_lossless packed) (by decide))
          have restored := unpack_pack_lossless level packed
          simp only [if_pos checked, room, ok_bind, restored, ne_eq, not_true_eq_false, if_false]
          rfl
      · simp only [if_neg checked]
        rfl

/-- The payload that a selection chooses for raw data. -/
def chosenPayload? (selection : Selection) (elementType : ElementType) (dimensionCount : Nat)
    (raw : Bytes) : Except Fault (Option Bytes) :=
  if selection.isUncompressed then .ok none
  else (selection.pack elementType.layout raw).map (smallerPayload? dimensionCount raw.length)

end Selection

section

variable [Exponential]

variable {selection : Selection} {elementType : ElementType} {dimensionCount : Nat} {raw : Bytes}

/-- Without compression no payload is chosen. With it the codec makes one, and it is chosen if it is
shorter than the raw data by more than a name. -/
theorem cases_of_chosenPayload? {coded? : Option Bytes}
    (chosen : selection.chosenPayload? elementType dimensionCount raw = .ok coded?) :
    selection = .uncompressed ∧ coded? = none
      ∨ ∃ coder level payload, selection = .coded coder level
        ∧ selection.pack elementType.layout raw = .ok payload
        ∧ coded? = if payload.length + nameWidth < raw.length then some payload else none := by
  cases selection with
  | uncompressed =>
    cases chosen
    exact .inl ⟨rfl, rfl⟩
  | coded coder level =>
    obtain ⟨payload, packed, kept⟩ := map_eq_ok_iff.1 chosen
    exact .inr ⟨coder, level, payload, rfl, packed, by rw [← kept, smallerPayload?_eq]⟩

/-- A chosen payload is the one of the codec and shorter than the raw data by more than a name. -/
theorem pack_of_chosenPayload? {payload : Bytes}
    (chosen : selection.chosenPayload? elementType dimensionCount raw = .ok (some payload)) :
    (∃ coder level, selection = .coded coder level)
      ∧ selection.pack elementType.layout raw = .ok payload
      ∧ payload.length + nameWidth < raw.length := by
  rcases cases_of_chosenPayload? chosen with
    ⟨-, impossible⟩ | ⟨coder, level, made, rfl, packed, kept⟩
  · cases impossible
  · split at kept
    · next smaller =>
      cases kept
      exact ⟨⟨coder, level, rfl⟩, packed, smaller⟩
    · cases kept

/-- Choosing a payload fails only when the codec fails. -/
theorem pack_of_chosenPayload?_error {fault : Fault}
    (failed : selection.chosenPayload? elementType dimensionCount raw = .error fault) :
    selection.pack elementType.layout raw = .error fault := by
  unfold Selection.chosenPayload? at failed
  split at failed
  · cases failed
  · cases packed : selection.pack elementType.layout raw with
    | error again =>
      rw [packed] at failed
      cases failed
      rfl
    | ok payload =>
      rw [packed] at failed
      cases failed

/-! ## The blob of the chosen payload -/

/-- The blob of a chosen payload behind a header. -/
def Packed.ofChoice (selection : Selection) (raw : Bytes) (header : Header) (dimensionCount : Nat) :
    Option Bytes → Packed
  | none =>
    ⟨header.encode ++ raw, .plain, Statistics.uncompressed raw.length, wholeRatio⟩
  | some payload =>
    ⟨header.encode ++ payload, .coded, ⟨selection.family, raw.length, payload.length, 0⟩,
      sizeQuotient (Revision.coded.blobSize dimensionCount payload.length)
        (Revision.plain.blobSize dimensionCount raw.length)⟩

/-- The size of the blob of a chosen payload. -/
def chosenSize (dimensionCount rawSize : Nat) : Option Bytes → Nat
  | none => Revision.plain.blobSize dimensionCount rawSize
  | some payload => Revision.coded.blobSize dimensionCount payload.length

omit [Exponential] in
theorem chosenSize_none (dimensionCount rawSize : Nat) :
    chosenSize dimensionCount rawSize none = 36 + 4 * dimensionCount + rawSize := rfl

omit [Exponential] in
theorem chosenSize_some (dimensionCount rawSize : Nat) (payload : Bytes) :
    chosenSize dimensionCount rawSize (some payload)
      = 48 + 4 * dimensionCount + payload.length := rfl

/-- The name that the header of a chosen payload records. -/
def Selection.chosenName? (selection : Selection) (coded? : Option Bytes) : Option String :=
  coded?.map fun _ => selection.name

/-- Puts a chosen payload behind a header. -/
def Settings.seal (settings : Settings) (elementType : ElementType) (dims : List Nat) (raw : Bytes)
    (selection : Selection) (coded? : Option Bytes) : Except Fault Packed :=
  if settings.maxBlobSize.toNat < chosenSize dims.length raw.length coded? then
    .error (.blobTooBig (chosenSize dims.length raw.length coded?) settings.maxBlobSize.toNat)
  else do
    let header ← Header.make elementType Platform.host (selection.chosenName? coded?) dims
    reserve (chosenSize dims.length raw.length coded?)
    return Packed.ofChoice selection raw header dims.length coded?

/-- Packing chooses a payload and seals it, unless even the size of the plain blob is out of
range. -/
theorem Settings.packRaw_eq (settings : Settings) (elementType : ElementType) (dims : List Nat)
    (raw : Bytes) (selection : Selection) :
    settings.packRaw elementType dims raw selection =
      if Shape.limit ≤ Revision.plain.blobSize dims.length raw.length then
        .error (.blobTooBig (Shape.limit - 1) settings.maxBlobSize.toNat)
      else
        selection.chosenPayload? elementType dims.length raw
          >>= settings.seal elementType dims raw selection := by
  unfold Settings.packRaw Selection.chosenPayload? Revision.blobSize
  split
  · rfl
  · simp only [Selection.payload?_eq]
    split
    · rfl
    · generalize (selection.pack elementType.layout raw).map _ = chosen
      rcases chosen with fault | _ | payload <;> rfl

/-- The blob of a chosen payload is never larger than that of the raw data. -/
theorem chosenSize_le {coded? : Option Bytes}
    (chosen : selection.chosenPayload? elementType dimensionCount raw = .ok coded?) :
    chosenSize dimensionCount raw.length coded?
      ≤ Revision.plain.blobSize dimensionCount raw.length := by
  cases coded? with
  | none => exact Nat.le_refl _
  | some payload =>
    obtain ⟨-, -, smaller⟩ := pack_of_chosenPayload? chosen
    simp only [chosenSize, Revision.blobSize, Revision.payloadOffset, Revision.headerSize]
    omega

end

/-! ## Arrays -/

/-- Only byte streams can be refused by the mode. -/
theorem TypedArray.storageClass_ne_unsupported {array : TypedArray}
    (flat : array.elementType ≠ .byteStream) (streamsAllowed : Bool) :
    array.storageClass streamsAllowed ≠ .unsupported := by
  unfold storageClass
  split
  · decide
  · split
    · next stream => exact absurd stream flat
    · split <;> decide
    · split
      · decide
      · split <;> decide

/-- Unless storing is off, an array that is no byte stream is packed as its raw data. -/
theorem Settings.packArray_flat [Exponential] (settings : Settings) {array : TypedArray}
    (selection : Selection) (on : settings.mode ≠ .off)
    (flat : array.elementType ≠ .byteStream) :
    settings.packArray array selection
      = settings.packRaw array.elementType array.dims array.data selection := by
  unfold packArray
  rw [if_neg on, if_neg (array.storageClass_ne_unsupported flat _)]

end ArrayBlob
