import ArrayBlob.Blob.Header.RoundTrip
import ArrayBlob.Proofs.Blob.Faults
import ArrayBlob.Proofs.Blob.Packing

/-!
# Headers from outside and sealed blobs

Which values make a header, what the header then says, and with which fault they are refused. Of a
sealed blob this gives the bytes, and of a blob that cannot be sealed the reason.
-/

namespace ArrayBlob

/-! ## Headers of values from outside -/

/-- Some dimensions do not fit their fields: there are too many, or one of them is too large. -/
def OutOfRange (dims : List Nat) : Prop :=
  dimensionLimit ≤ dims.length ∨ ∃ dimension ∈ dims, dimensionLimit ≤ dimension

theorem Dimensions.toList_of_ofList {dims : List Nat} {dimensions : Dimensions}
    (made : ofList dims = .ok dimensions) : dimensions.toList = dims := by
  unfold ofList at made
  split at made
  · split at made
    · cases made
      rfl
    · cases made
  · cases made

/-- Only dimensions that do not fit are refused, as an invalid shape. -/
theorem Dimensions.fault_of_ofList {dims : List Nat} {fault : Fault}
    (failed : ofList dims = .error fault) :
    (∃ flaw, fault = .invalidShape flaw) ∧ OutOfRange dims := by
  unfold ofList at failed
  split at failed
  · split at failed
    · cases failed
    · next large =>
      cases failed
      simp only [Classical.not_forall, Nat.not_lt] at large
      obtain ⟨dimension, member, above⟩ := large
      exact ⟨⟨_, rfl⟩, .inr ⟨dimension, member, above⟩⟩
  · next many =>
    cases failed
    exact ⟨⟨_, rfl⟩, .inl (Nat.le_of_not_lt many)⟩

theorem CompressorName.text_of_ofText {text : String} {name : CompressorName}
    (made : ofText text = .ok name) : name.text = text := by
  unfold ofText at made
  split at made
  · split at made
    · cases made
    · cases made
      rfl
  · cases made

namespace Header

variable {elementType : ElementType} {platform : Platform} {name? : Option String}
  {dims : List Nat} {header : Header}

/-- A header says what it was made of. -/
theorem fields_of_make (made : make elementType platform name? dims = .ok header) :
    header.elementType = elementType ∧ header.platform = platform
      ∧ header.compressorText = name? ∧ header.dims = dims := by
  obtain ⟨dimensions, listed, rest⟩ := bind_eq_ok_iff.1 made
  have same := Dimensions.toList_of_ofList listed
  cases name? with
  | none =>
    cases rest
    exact ⟨rfl, rfl, rfl, same⟩
  | some text =>
    obtain ⟨name, named, rest⟩ := bind_eq_ok_iff.1 rest
    cases rest
    exact ⟨rfl, rfl, congrArg some (CompressorName.text_of_ofText named), same⟩

/-- A header describes as many bytes as the shape that it was made of. -/
theorem rawSize_of_make {size : Nat} (made : make elementType platform name? dims = .ok header)
    (sized : Shape.rawSize elementType dims = .ok size) : header.rawSize = .ok size := by
  obtain ⟨type, -, -, listed⟩ := fields_of_make made
  rw [rawSize, type, listed, sized]

/-- The name of a coder is never refused, and neither is having no name. -/
theorem fault_of_make {coder? : Option Coder} {fault : Fault}
    (failed : make elementType platform (coder?.map Coder.name) dims = .error fault) :
    (∃ flaw, fault = .invalidShape flaw) ∧ OutOfRange dims := by
  rcases bind_eq_error_iff.1 failed with refused | ⟨dimensions, -, rest⟩
  · exact Dimensions.fault_of_ofList refused
  · cases coder? with
    | none => cases rest
    | some coder =>
      obtain ⟨name, named, -⟩ := coder.ofText_name
      simp only [Option.map_some, named, ok_bind] at rest
      cases rest

/-- A header is refused for its shape or for the name of the compressor. -/
theorem make_failsWithin (elementType : ElementType) (platform : Platform) (name? : Option String)
    (dims : List Nat) :
    FailsWithin [.invalidShape, .unknownCompressor] (make elementType platform name? dims) := by
  unfold make
  apply FailsWithin.bind
  · intro fault failed
    obtain ⟨⟨flaw, rfl⟩, -⟩ := Dimensions.fault_of_ofList failed
    exact .head _
  · intro dimensions _
    cases name? with
    | none => exact .ok _
    | some text =>
      apply FailsWithin.bind
      · unfold CompressorName.ofText
        split
        · exact .ite (fun _ => .error (.tail _ (.head _))) fun _ => .ok _
        · exact .error (.tail _ (.head _))
      · intro name _
        exact .ok _

theorem revision_eq (header : Header) :
    header.revision = if header.compressorText.isSome then .coded else .plain := by
  simp [revision, compressorText]

/-- Headers are written for a number of dimensions and dimensions below `2 ^ 31`. -/
theorem length_dims_lt (header : Header) : header.dims.length < dimensionLimit :=
  header.dimensions.length_lt

end Header

/-! ## Sealed blobs -/

section

variable {settings : Settings} {elementType : ElementType} {dims : List Nat}
  {raw : Bytes} {selection : Selection} {coded? : Option Bytes}

/-- The categories of faults with which a blob is not sealed. -/
def sealCategories : List Category :=
  [.blobTooBig, .invalidShape, .unknownCompressor, .allocationFailed]

theorem Settings.seal_failsWithin (settings : Settings) (elementType : ElementType)
    (dims : List Nat) (raw : Bytes) (selection : Selection) (coded? : Option Bytes) :
    FailsWithin sealCategories (settings.seal elementType dims raw selection coded?) := by
  unfold Settings.seal
  apply FailsWithin.reject (show Category.blobTooBig ∈ sealCategories by decide)
  intro _
  apply FailsWithin.bind ((Header.make_failsWithin _ _ _ _).mono (by decide))
  intro header _
  apply FailsWithin.bind ((reserve_failsWithin _).mono (by decide))
  intro _ _
  exact .ok _

/-- A payload is chosen only with the name of a coder. -/
theorem chosenName?_of_chosenPayload? [Exponential] {dimensionCount : Nat}
    (chosen : selection.chosenPayload? elementType dimensionCount raw = .ok coded?) :
    ∃ coder? : Option Coder, selection.chosenName? coded? = coder?.map Coder.name := by
  cases selection with
  | uncompressed =>
    cases chosen
    exact ⟨none, rfl⟩
  | coded coder level =>
    cases coded? with
    | none => exact ⟨none, rfl⟩
    | some payload => exact ⟨some coder, rfl⟩

/-- A sealed blob is within the limit and made of a header that says what was asked for and of the
chosen payload. -/
theorem seal_eq_ok {packed : Packed}
    (sealed : settings.seal elementType dims raw selection coded? = .ok packed) :
    chosenSize dims.length raw.length coded? ≤ settings.maxBlobSize.toNat
      ∧ chosenSize dims.length raw.length coded? < 2 ^ 63
      ∧ ∃ header,
        Header.make elementType Platform.host (selection.chosenName? coded?) dims = .ok header
        ∧ packed = Packed.ofChoice selection raw header dims.length coded? := by
  unfold Settings.seal at sealed
  split at sealed
  · cases sealed
  · next small =>
    obtain ⟨header, made, sealed⟩ := bind_eq_ok_iff.1 sealed
    obtain ⟨⟨⟩, room, same⟩ := bind_eq_ok_iff.1 sealed
    cases same
    exact ⟨Nat.le_of_not_lt small, reserve_eq_ok_iff.1 room, header, made, rfl⟩

/-- The faults with which a blob is not sealed: it is larger than the limit, its dimensions do not
fit the header, or there is no room for it. -/
theorem fault_of_seal {coder? : Option Coder} {fault : Fault}
    (named : selection.chosenName? coded? = coder?.map Coder.name)
    (failed : settings.seal elementType dims raw selection coded? = .error fault) :
    (∃ size, fault = .blobTooBig size settings.maxBlobSize.toNat)
      ∨ ((∃ flaw, fault = .invalidShape flaw) ∧ OutOfRange dims)
      ∨ (2 ^ 63 ≤ chosenSize dims.length raw.length coded? ∧ dims.length < dimensionLimit) := by
  unfold Settings.seal at failed
  split at failed
  · cases failed
    exact .inl ⟨_, rfl⟩
  · rw [named] at failed
    rcases bind_eq_error_iff.1 failed with refused | ⟨header, made, failed⟩
    · exact .inr (.inl (Header.fault_of_make refused))
    · rcases bind_eq_error_iff.1 failed with full | ⟨-, -, impossible⟩
      · have few := header.length_dims_lt
        rw [(Header.fields_of_make made).2.2.2] at few
        have large : ¬ chosenSize dims.length raw.length coded? < 2 ^ 63 := by
          intro small
          rw [reserve_eq_ok_iff.2 small] at full
          cases full
        exact .inr (.inr ⟨Nat.le_of_not_lt large, few⟩)
      · cases impossible

theorem Packed.bytes_ofChoice (selection : Selection) (raw : Bytes) (header : Header)
    (dimensionCount : Nat) (coded? : Option Bytes) :
    (ofChoice selection raw header dimensionCount coded?).bytes
      = header.encode ++ coded?.getD raw := by
  cases coded? <;> rfl

/-- The revision of a blob is that of its header. -/
theorem Packed.revision_ofChoice
    (made : Header.make elementType Platform.host (selection.chosenName? coded?) dims
      = .ok header) :
    (ofChoice selection raw header dims.length coded?).revision = header.revision := by
  obtain ⟨-, -, named, -⟩ := Header.fields_of_make made
  rw [Header.revision_eq, named]
  cases coded? <;> rfl

/-- The blob of a chosen payload has the size that was computed for it. -/
theorem Packed.length_ofChoice {header : Header}
    (made : Header.make elementType Platform.host (selection.chosenName? coded?) dims
      = .ok header) :
    (ofChoice selection raw header dims.length coded?).bytes.length
      = chosenSize dims.length raw.length coded? := by
  obtain ⟨-, -, named, listed⟩ := Header.fields_of_make made
  rw [bytes_ofChoice, List.length_append, header.length_encode, Header.payloadOffset,
    Header.revision_eq, named, listed]
  cases coded? <;> rfl

/-- What packing of raw data gives when it succeeds: a sealed blob of a chosen payload. -/
theorem packRaw_eq_ok [Exponential] {packed : Packed}
    (done : settings.packRaw elementType dims raw selection = .ok packed) :
    ∃ coded? header, selection.chosenPayload? elementType dims.length raw = .ok coded?
      ∧ chosenSize dims.length raw.length coded? < 2 ^ 63
      ∧ Header.make elementType Platform.host (selection.chosenName? coded?) dims = .ok header
      ∧ packed = Packed.ofChoice selection raw header dims.length coded? := by
  rw [Settings.packRaw_eq] at done
  split at done
  · cases done
  · obtain ⟨coded?, chosen, sealed⟩ := bind_eq_ok_iff.1 done
    obtain ⟨-, room, header, made, same⟩ := seal_eq_ok sealed
    exact ⟨coded?, header, chosen, room, made, same⟩

end
end ArrayBlob
