import ArrayBlob.Proofs.Blob.Reservation
import ArrayBlob.Proofs.Blob.Shape

/-!
# Why blobs are refused

A blob of arbitrary bytes is unpacked or refused for one of six reasons. Two of them are exact: the
shape is invalid exactly if a header is read whose sizes overflow, and a codec refuses its argument
only if the header names a quantizer for elements that are no doubles. The later checks that would
find the same fault again never do: data of the described size always make an array, and the guard
of a frame header leaves nothing to say against the length of a stored body.
-/

namespace ArrayBlob

/-! ## Stored bodies -/

namespace Frame

/-- The header of a verbatim frame claims as much data as there is in the body. -/
theorem Header.rawSize_of_isVerbatim {frame : Bytes} {header : Header}
    (read : Header.decode frame = .ok header) (verbatim : header.isVerbatim = true) :
    header.rawSize.toNat = header.frameSize.toNat - headerSize := by
  obtain ⟨-, held⟩ := Header.sizes_of_decode read
  rw [verbatim] at held
  simp only [canHold, Bool.not_true, Bool.false_or, Bool.and_eq_true, beq_iff_eq] at held
  exact held.2

/-- The length of a stored body is never found wrong: the guard of the header comes first. -/
theorem decode_avoids_storedBodyLength (frame : Bytes) (size : Nat) :
    Avoids (· = .compression .storedBodyLength) (decode frame size) := by
  have expanded (body : Bytes) :
      Avoids (· = .compression .storedBodyLength) (expandBlock body size) := by
    unfold expandBlock
    split
    · exact .error (by simp)
    · exact .ite (fun _ => .ok _) fun _ => .error (by simp)
  unfold decode
  apply Avoids.bind
  · unfold Header.decode
    apply Avoids.reject (by simp)
    intro _
    apply Avoids.reject (by simp)
    intro _
    apply Avoids.reject (by simp)
    intro _
    exact .ite (fun _ => .ok _) fun _ => .error (by simp)
  · intro header read
    apply Avoids.reject (by simp)
    intro raw
    apply Avoids.reject (by simp)
    intro complete
    apply Avoids.ite
    · intro verbatim
      have claimed := Header.rawSize_of_isVerbatim read verbatim
      have full : (frame.drop headerSize).length = size := by
        rw [List.length_drop]
        omega
      rw [if_neg (not_not_intro full)]
      exact .ok _
    · intro _
      apply Avoids.ite
      · intro _
        apply Avoids.bind (.of_failsWithin (reserve_failsWithin size) (by simp [Fault.category]))
        intro _ _
        apply Avoids.bind (expanded _)
        intro _ _
        exact .ok _
      · intro _
        exact expanded _

end Frame

/-! ## Quantizers in headers -/

namespace Header

/-- The codec that a header names is a quantizer. -/
def NamesQuantizer (header : Header) : Prop :=
  ∃ name mode, header.compressorText = some name ∧ Coder.ofName? name = some (.quantizer mode)

variable {header : Header}

/-- Unless a header names a quantizer for other elements than doubles, the named codec can hold the
data that the header describes. -/
theorem suits_of_ofStoredName {name : String} {selection : Selection} {rawSize : Nat}
    (suited : header.NamesQuantizer → header.elementType = .double)
    (stored : header.compressorText = some name)
    (found : Selection.ofStoredName name = .ok selection)
    (sized : header.rawSize = .ok rawSize) :
    selection.Suits header.elementType.layout rawSize := by
  obtain ⟨coder, named, rfl⟩ := Selection.eq_coded_of_ofStoredName found
  cases coder with
  | lossless flavor => trivial
  | quantizer mode =>
    have doubles := suited ⟨name, mode, stored, named⟩
    have whole := Shape.size_dvd_rawSize sized
    rw [doubles] at whole ⊢
    exact ⟨rfl, Nat.mod_eq_zero_of_dvd whole⟩

variable [Exponential] {payload : Bytes}

/-- Unpacked data make an array of the type and the shape in the header. -/
theorem ofBytes_of_unpackRaw {data : Bytes} {statistics : Statistics} {ratio : Double}
    (restored : header.unpackRaw payload = .ok (data, statistics, ratio)) :
    ∃ array, TypedArray.ofBytes header.elementType header.dims data = .ok array :=
  ⟨_, TypedArray.ofBytes_eq_ok (sizes_of_unpackRaw restored).1⟩

/-- Data that a header describes are refused for the name of the codec or for the payload. -/
theorem unpackRaw_failsWithin_of_rawSize {rawSize : Nat} (small : payload.length < 2 ^ 54)
    (sized : header.rawSize = .ok rawSize) :
    FailsWithin [.compression, .compressorArgument, .unknownCompressor]
      (header.unpackRaw payload) := by
  apply unpackRaw_failsWithin_of_steps
  · decide
  · rw [sized]
    exact .ok _
  · intro name selection rawSize _ _ _
    exact (selection.checkFraming_failsWithin _ payload rawSize).mono (by decide)
  · intro rawSize bound
    exact reserve_failsWithin_of_le _ small bound

/-- Data that suit the named codec are refused for their shape, the name or the payload. -/
theorem unpackRaw_failsWithin_of_suited (small : payload.length < 2 ^ 54)
    (suited : header.NamesQuantizer → header.elementType = .double) :
    FailsWithin [.compression, .unknownCompressor, .invalidShape] (header.unpackRaw payload) := by
  apply unpackRaw_failsWithin_of_steps
  · decide
  · exact (Shape.rawSize_failsWithin _ _).mono (by decide)
  · intro name selection rawSize stored found sized
    have suits := suits_of_ofStoredName suited stored found sized
    exact (Selection.checkFraming_failsWithin_of_suits payload suits).mono (by decide)
  · intro rawSize bound
    exact reserve_failsWithin_of_le _ small bound

end Header

/-! ## Unpacking -/

namespace Codec

/-- The codec of some settings for arrays alone. -/
def forArrays (settings : Settings) : Codec Empty :=
  ⟨settings, Serializer.none⟩

theorem valueOf_failsWithin_forArrays (settings : Settings) (array : TypedArray) :
    FailsWithin [.unsupportedVariableType] ((forArrays settings).valueOf array) := by
  unfold valueOf
  apply FailsWithin.ite
  · intro _
    apply FailsWithin.ite
    · intro _
      exact FailsWithin.map (.error (.head _)) _
    · intro _
      exact .error (.head _)
  · intro _
    exact .ok _

section

variable [Exponential] {settings : Settings} {blob : Bytes}

/-- Unpacking fails like the reading of the header, like the unpacking of the raw data behind it or
like the finding of a value for the array, and the array itself is always made. -/
theorem unpack_failsWithin_of_steps {γ : Type} {codec : Codec γ} {categories : List Category}
    (read : FailsWithin categories (Header.decode blob))
    (restored : ∀ header, Header.decode blob = .ok header →
      FailsWithin categories (header.unpackRaw (blob.drop header.payloadOffset)))
    (valued : ∀ array, FailsWithin categories (codec.valueOf array)) :
    FailsWithin categories (codec.unpack blob) := by
  unfold unpack
  apply FailsWithin.bind read
  intro header found
  apply FailsWithin.bind (restored header found)
  rintro ⟨data, statistics, ratio⟩ done
  obtain ⟨array, made⟩ := Header.ofBytes_of_unpackRaw done
  dsimp only
  rw [made, ok_bind]
  apply FailsWithin.bind (valued array)
  intro value _
  exact .ok _

/-- The categories of faults for which a blob is refused by a codec for arrays alone. -/
def refusals : List Category :=
  [.unsupportedHeader, .unsupportedVariableType, .invalidShape, .unknownCompressor,
    .compressorArgument, .compression]

theorem unpack_failsWithin_refusals (small : blob.length < 2 ^ 54) :
    FailsWithin refusals ((forArrays settings).unpack blob) := by
  apply unpack_failsWithin_of_steps
  · exact (Header.decode_failsWithin blob).mono (by decide)
  · intro header _
    exact (header.unpackRaw_failsWithin_of_small (Bytes.length_drop_lt _ small)).mono (by decide)
  · intro array
    exact (valueOf_failsWithin_forArrays settings array).mono (by decide)

/-- The shape of a blob is found invalid exactly if its header is read and describes sizes that
overflow. -/
theorem unpack_refusesShape_iff (small : blob.length < 2 ^ 54) :
    (∃ flaw, (forArrays settings).unpack blob = .error (.invalidShape flaw))
      ↔ ∃ header, Header.decode blob = .ok header
        ∧ Shape.Overflows header.elementType header.dims := by
  simp only [← Shape.rawSize_fails_iff]
  constructor
  · rintro ⟨flaw, failed⟩
    refine Classical.byContradiction fun sized => ?_
    have within : FailsWithin [.unsupportedHeader, .unsupportedVariableType, .unknownCompressor,
        .compressorArgument, .compression] ((forArrays settings).unpack blob) := by
      apply unpack_failsWithin_of_steps
      · exact (Header.decode_failsWithin blob).mono (by decide)
      · intro header read
        cases described : header.rawSize with
        | error fault => exact absurd ⟨header, read, fault, described⟩ sized
        | ok rawSize =>
          have smaller := Bytes.length_drop_lt header.payloadOffset small
          exact (Header.unpackRaw_failsWithin_of_rawSize smaller described).mono (by decide)
      · intro array
        exact (valueOf_failsWithin_forArrays settings array).mono (by decide)
    exact absurd (within _ failed) (by simp [Fault.category])
  · rintro ⟨header, read, fault, overflow⟩
    have category := Shape.rawSize_failsWithin _ _ fault overflow
    have overflow : header.rawSize = .error fault := overflow
    have failed : (forArrays settings).unpack blob = .error fault := by
      rw [unpack, read, ok_bind, Header.unpackRaw, overflow]
      rfl
    cases fault <;> simp [Fault.category] at category
    exact ⟨_, failed⟩

/-- A codec refuses its argument only if the header names a quantizer for elements that are no
doubles. -/
theorem unpack_refusesArgument {flaw : ArgumentFlaw} (small : blob.length < 2 ^ 54)
    (failed : (forArrays settings).unpack blob = .error (.compressorArgument flaw)) :
    ∃ header, Header.decode blob = .ok header ∧ header.NamesQuantizer
      ∧ header.elementType ≠ .double := by
  refine Classical.byContradiction fun suited => ?_
  have within : FailsWithin [.unsupportedHeader, .unsupportedVariableType, .unknownCompressor,
      .invalidShape, .compression] ((forArrays settings).unpack blob) := by
    apply unpack_failsWithin_of_steps
    · exact (Header.decode_failsWithin blob).mono (by decide)
    · intro header read
      have smaller := Bytes.length_drop_lt header.payloadOffset small
      refine (Header.unpackRaw_failsWithin_of_suited smaller ?_).mono (by decide)
      intro quantizer
      refine Classical.byContradiction fun other => ?_
      exact suited ⟨header, read, quantizer, other⟩
    · intro array
      exact (valueOf_failsWithin_forArrays settings array).mono (by decide)
  exact absurd (within _ failed) (by simp [Fault.category])

end

/-! ## The reasons -/

/-- The fixed part of a header with a code that no element type has. -/
def unknownType : Bytes :=
  blobMark ++ [36, 0, 1, 0, 0, 0] ++ List.replicate 16 0

/-- The header of a box whose edges have the largest dimension. -/
def box : Header :=
  ⟨.uint8, Platform.host, none, ⟨[2147483647, 2147483647, 2147483647], by decide, by decide⟩⟩

/-- The header of no bytes that a compressor is to have packed. -/
def packedBy (name : CompressorName) : Header :=
  ⟨.uint8, Platform.host, some name, ⟨[0], by decide, by decide⟩⟩

/-- The header of one byte. -/
def oneByte : Header :=
  ⟨.uint8, Platform.host, none, ⟨[1], by decide, by decide⟩⟩

/-- Some blob is refused for each of the reasons. -/
theorem exists_refused [Exponential] (settings : Settings) : ∀ category ∈ refusals, ∃ blob : Bytes,
    blob.length < 2 ^ 54 ∧ ∃ fault, (forArrays settings).unpack blob = .error fault
      ∧ fault.category = category := by
  simp only [refusals, List.forall_mem_cons, List.not_mem_nil, false_implies, implies_true,
    and_true]
  refine ⟨⟨[], ?_⟩, ⟨unknownType, ?_⟩, ⟨box.encode, ?_⟩,
    ⟨(packedBy ⟨"zstd", by decide, by decide⟩).encode, ?_⟩,
    ⟨(packedBy ⟨"QLIN16", by decide, by decide⟩).encode, ?_⟩, ⟨oneByte.encode, ?_⟩⟩
  all_goals exact ⟨by decide, _, rfl, rfl⟩

/-- A codec for arrays alone unpacks a blob of fewer than `2 ^ 54` bytes, or refuses it for one of
six reasons, each of which occurs. The shape is invalid exactly if the header is read and describes
sizes that overflow, and the argument of a codec is refused only if the header names a quantizer for
elements that are no doubles. Two later checks never fail: what was unpacked always makes an array
of the described type and shape, and the body of a verbatim frame always has the right length. -/
theorem unpack_refusals [Exponential] (settings : Settings) :
    (∀ blob : Bytes, blob.length < 2 ^ 54 →
      FailsWithin refusals ((forArrays settings).unpack blob)
      ∧ ((∃ flaw, (forArrays settings).unpack blob = .error (.invalidShape flaw))
        ↔ ∃ header, Header.decode blob = .ok header
          ∧ Shape.Overflows header.elementType header.dims)
      ∧ ∀ flaw, (forArrays settings).unpack blob = .error (.compressorArgument flaw) →
        ∃ header, Header.decode blob = .ok header ∧ header.NamesQuantizer
          ∧ header.elementType ≠ .double)
    ∧ (∀ category ∈ refusals, ∃ blob : Bytes, blob.length < 2 ^ 54
      ∧ ∃ fault, (forArrays settings).unpack blob = .error fault ∧ fault.category = category)
    ∧ (∀ (header : Header) (payload data : Bytes) (statistics : Statistics) (ratio : Double),
      header.unpackRaw payload = .ok (data, statistics, ratio) →
        ∃ array, TypedArray.ofBytes header.elementType header.dims data = .ok array)
    ∧ ∀ (frame : Bytes) (size : Nat),
      Frame.decode frame size ≠ .error (.compression .storedBodyLength) := by
  refine ⟨?_, exists_refused settings, ?_, ?_⟩
  · intro blob small
    exact ⟨unpack_failsWithin_refusals small, unpack_refusesShape_iff small,
      fun flaw failed => unpack_refusesArgument small failed⟩
  · intro header payload data statistics ratio restored
    exact Header.ofBytes_of_unpackRaw restored
  · intro frame size failed
    exact Frame.decode_avoids_storedBodyLength frame size _ failed rfl

/-- The product of two edges of the box fits 64 bits and that of all three does not, so that its
shape is refused. -/
theorem unpack_refusals_box :
    box.encode.length < 2 ^ 54 ∧ Shape.Overflows box.elementType box.dims
      ∧ ∃ flaw, @unpack .coarse _ (forArrays Settings.default) box.encode
        = .error (.invalidShape flaw) := by
  have small : box.encode.length < 2 ^ 54 := by decide
  have overflow : Shape.Overflows box.elementType box.dims := .inl ⟨3, by decide⟩
  have read : Header.decode box.encode = .ok box := by
    simpa using box.decode_encode []
  obtain ⟨refused, -⟩ := @unpack_refusals .coarse Settings.default
  exact ⟨small, overflow, (refused box.encode small).2.1.2 ⟨box, read, overflow⟩⟩

end Codec
end ArrayBlob
