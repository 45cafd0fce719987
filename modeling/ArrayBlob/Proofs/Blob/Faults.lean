import ArrayBlob.Blob.Codec
import ArrayBlob.Proofs.Capacity

/-!
# The faults of reading

The categories of faults that the steps of reading a blob can end with, from the header over the
check of a frame up to the array that is rebuilt. Behind the header none of them finds fault with
the type of the value: that is left to the mode of the codec. Room is asked for only after the
payload was found to be large enough for it.
-/

namespace ArrayBlob

theorem Fault.category_eq_unsupportedHeader_iff {fault : Fault} :
    fault.category = .unsupportedHeader ↔ ∃ flaw, fault = .unsupportedHeader flaw := by
  cases fault <;> simp [Fault.category]

theorem Fault.category_eq_invalidShape_iff {fault : Fault} :
    fault.category = .invalidShape ↔ ∃ flaw, fault = .invalidShape flaw := by
  cases fault <;> simp [Fault.category]

theorem reserve_failsWithin (size : Nat) : FailsWithin [.allocationFailed] (reserve size) :=
  .accept (.head _)

namespace Shape

theorem elementCount_failsWithin (dims : List Nat) :
    FailsWithin [.invalidShape] (elementCount dims) := by
  unfold elementCount
  apply FailsWithin.ite
  · intro _
    exact .ok _
  · intro _
    split
    · exact .ok _
    · exact .error (.head _)

/-- A shape has a size unless the size overflows. -/
theorem rawSize_failsWithin (elementType : ElementType) (dims : List Nat) :
    FailsWithin [.invalidShape] (rawSize elementType dims) := by
  unfold rawSize
  split
  · next fault failed => exact .error (elementCount_failsWithin dims fault failed)
  · exact .accept (.head _)

end Shape

/-- Bytes make an array unless they do not fit the shape. -/
theorem TypedArray.ofBytes_failsWithin (elementType : ElementType) (dims : List Nat)
    (data : Bytes) : FailsWithin [.invalidShape] (ofBytes elementType dims data) := by
  unfold ofBytes
  split
  · next fault failed => exact .error (Shape.rawSize_failsWithin elementType dims fault failed)
  · split
    · exact .ok _
    · exact .error (.head _)

namespace Header

theorem decodeElementType_failsWithin (blob : Bytes) :
    FailsWithin [.unsupportedVariableType] (decodeElementType blob) := by
  unfold decodeElementType ElementType.ofCode
  split
  · exact .ok _
  · exact .error (.head _)

theorem ofTag_failsWithin (tag : Int) :
    FailsWithin [.unsupportedHeader] (Revision.ofTag tag) := by
  unfold Revision.ofTag
  apply FailsWithin.ite
  · intro _
    exact .ok _
  · intro _
    exact .accept (.head _)

theorem decodeDimensions_failsWithin (revision : Revision) (blob : Bytes) :
    FailsWithin [.unsupportedHeader] (decodeDimensions revision blob) := by
  unfold decodeDimensions
  dsimp only
  split
  · apply FailsWithin.reject (.head _)
    intro _
    unfold Dimensions.ofVector
    dsimp only
    split
    · exact .ok _
    · exact .error (.head _)
  · exact .error (.head _)

theorem decodeName_failsWithin (blob : Bytes) :
    FailsWithin [.unsupportedHeader] (decodeName blob) := by
  unfold decodeName CompressorName.ofField
  split
  · exact .error (.head _)
  · exact .ok _

theorem decodeCompressor_failsWithin (revision : Revision) (blob : Bytes) :
    FailsWithin [.unsupportedHeader] (decodeCompressor revision blob) := by
  cases revision with
  | plain => exact .ok _
  | coded => exact (decodeName_failsWithin blob).map some

/-- The categories of faults for which a header is refused. -/
def headerCategories : List Category :=
  [.unsupportedHeader, .unsupportedVariableType]

/-- A header is refused for what it is, or for the code of its element type. -/
theorem decode_failsWithin (blob : Bytes) : FailsWithin headerCategories (decode blob) := by
  unfold decode
  split
  · apply FailsWithin.reject (.head _)
    intro _
    apply FailsWithin.bind ((ofTag_failsWithin _).mono (by decide))
    intro revision _
    apply FailsWithin.reject (.head _)
    intro _
    apply FailsWithin.bind
      ((decodeElementType_failsWithin blob).mono (by decide))
    intro elementType _
    apply FailsWithin.bind
      ((decodeDimensions_failsWithin revision blob).mono (by decide))
    intro dimensions _
    apply FailsWithin.bind
      ((decodeCompressor_failsWithin revision blob).mono (by decide))
    intro compressor _
    exact .ok _
  · exact .error (.head _)

end Header

namespace Frame

theorem Header.decode_failsWithin (frame : Bytes) :
    FailsWithin [.compression] (Header.decode frame) := by
  unfold Header.decode
  apply FailsWithin.reject (.head _)
  intro _
  apply FailsWithin.reject (.head _)
  intro _
  apply FailsWithin.reject (.head _)
  intro _
  exact .accept (.head _)

theorem expandBlock_failsWithin (body : Bytes) (size : Nat) :
    FailsWithin [.compression] (expandBlock body size) := by
  unfold expandBlock
  split
  · exact .error (.head _)
  · exact .accept (.head _)

/-- A frame that cannot be read is a flaw of compression: room for the planes of a raw size that a
frame records is always found. -/
theorem decode_failsWithin (frame : Bytes) (size : Nat) :
    FailsWithin [.compression] (decode frame size) := by
  unfold decode
  apply FailsWithin.bind (Header.decode_failsWithin frame)
  intro header _
  apply FailsWithin.reject (.head _)
  intro same
  apply FailsWithin.reject (.head _)
  intro _
  apply FailsWithin.ite
  · intro _
    apply FailsWithin.reject (.head _)
    intro _
    exact .ok _
  · intro _
    have small : size < 2 ^ 63 := by
      have := header.rawSize.toNat_lt
      omega
    rw [reserve_eq_ok_iff.2 small, ok_bind]
    apply FailsWithin.ite
    · intro _
      apply FailsWithin.bind (expandBlock_failsWithin _ size)
      intro bytes _
      exact .ok _
    · intro _
      exact expandBlock_failsWithin _ size

end Frame

namespace Quantizer

theorem requireSize_failsWithin (size count : Nat) :
    FailsWithin [.compression] (requireSize size count) :=
  .accept (.head _)

theorem doubleCount_failsWithin (layout : Layout) (size : Nat) :
    FailsWithin [.compressorArgument] (doubleCount layout size) := by
  unfold doubleCount
  apply FailsWithin.reject (.head _)
  intro _
  apply FailsWithin.reject (.head _)
  intro _
  exact .ok _

theorem decodePrelude_failsWithin (payload : Bytes) :
    FailsWithin [.compression] (decodePrelude payload) := by
  unfold decodePrelude
  apply FailsWithin.reject (.head _)
  intro _
  exact .ok _

variable [Exponential]

theorem valueOf_failsWithin (mode : Mode) (scaling : Scaling Double) (code : UInt16) :
    FailsWithin [.compression] (valueOf mode scaling code) := by
  unfold valueOf
  split
  · exact .ok _
  · exact .error (.head _)

/-- A payload that cannot be read is a flaw of compression. -/
theorem decode_failsWithin (mode : Mode) (payload : Bytes) (count : Nat) :
    FailsWithin [.compression] (decode mode payload count) := by
  unfold decode
  apply FailsWithin.bind (requireSize_failsWithin _ count)
  intro _ _
  apply FailsWithin.bind (decodePrelude_failsWithin payload)
  intro scaling _
  exact .mapM (valueOf_failsWithin mode scaling) _

/-- Reading bytes back fails for a flaw of compression or for data that are no doubles. -/
theorem decodeBytes_failsWithin (mode : Mode) (layout : Layout) (payload : Bytes) (size : Nat) :
    FailsWithin [.compression, .compressorArgument] (decodeBytes mode layout payload size) := by
  unfold decodeBytes
  apply FailsWithin.bind ((doubleCount_failsWithin layout size).mono (by simp))
  intro count _
  apply FailsWithin.bind ((decode_failsWithin mode payload count).mono (by simp))
  intro values _
  exact .ok _

/-- Whole doubles are never the reason why reading bytes back fails. -/
theorem decodeBytes_failsWithin_of_doubles {layout : Layout} {size : Nat} (mode : Mode)
    (payload : Bytes) (doubles : layout.isDouble = true) (whole : size % 8 = 0) :
    FailsWithin [.compression] (decodeBytes mode layout payload size) := by
  rw [decodeBytes, doubleCount_of_doubles ⟨doubles, whole⟩, ok_bind]
  apply FailsWithin.bind (decode_failsWithin mode payload _)
  intro values _
  exact .ok _

end Quantizer

namespace Selection

theorem ofStoredName_failsWithin (name : String) :
    FailsWithin [.unknownCompressor] (ofStoredName name) := by
  unfold ofStoredName
  split
  · exact .ok _
  · exact .error (.head _)

/-- The check of a payload and the unpacking of it fail with the same categories of faults. -/
theorem checkFraming_failsWithin (selection : Selection) (layout : Layout) (payload : Bytes)
    (rawSize : Nat) :
    FailsWithin [.compression, .compressorArgument]
      (selection.checkFraming layout payload rawSize) := by
  unfold checkFraming
  split
  · exact .accept (.head _)
  · apply FailsWithin.bind ((Frame.Header.decode_failsWithin payload).mono (by simp))
    intro header _
    apply FailsWithin.reject (.head _)
    intro _
    exact .ok _
  · apply FailsWithin.reject (.tail _ (.head _))
    intro _
    exact (Quantizer.requireSize_failsWithin _ _).mono (by simp)

/-- A selection can hold raw data of some size and layout: quantizers hold whole doubles only. -/
def Suits (layout : Layout) (rawSize : Nat) : Selection → Prop
  | coded (.quantizer _) _ => layout.isDouble = true ∧ rawSize % 8 = 0
  | _ => True

variable {selection : Selection} {layout : Layout} {payload : Bytes} {rawSize : Nat}

/-- The check finds no fault with the argument of a codec that can hold the data. -/
theorem checkFraming_failsWithin_of_suits (payload : Bytes)
    (suits : selection.Suits layout rawSize) :
    FailsWithin [.compression] (selection.checkFraming layout payload rawSize) := by
  unfold checkFraming
  split
  · exact .accept (.head _)
  · apply FailsWithin.bind (Frame.Header.decode_failsWithin payload)
    intro header _
    apply FailsWithin.reject (.head _)
    intro _
    exact .ok _
  · obtain ⟨doubles, whole⟩ := suits
    rw [if_neg (by simp [doubles, whole])]
    exact Quantizer.requireSize_failsWithin _ _

/-- What passes the check suits the codec. -/
theorem suits_of_checkFraming
    (checked : selection.checkFraming layout payload rawSize = .ok ()) :
    selection.Suits layout rawSize := by
  unfold checkFraming at checked
  split at checked
  · trivial
  · trivial
  · obtain ⟨unsuited, -⟩ := reject_eq_ok_iff.1 checked
    rw [not_or, Bool.not_eq_true', Bool.not_eq_false, ne_eq, Decidable.not_not] at unsuited
    exact unsuited

variable [Exponential]

theorem unpack_failsWithin (selection : Selection) (layout : Layout) (payload : Bytes)
    (rawSize : Nat) :
    FailsWithin [.compression, .compressorArgument]
      (selection.unpack layout payload rawSize) := by
  unfold unpack
  split
  · exact .accept (.head _)
  · exact (Frame.decode_failsWithin payload rawSize).mono (by simp)
  · exact Quantizer.decodeBytes_failsWithin _ layout payload rawSize

/-- A codec that can hold the data fails to unpack a payload for a flaw of compression alone. -/
theorem unpack_failsWithin_of_suits (payload : Bytes) (suits : selection.Suits layout rawSize) :
    FailsWithin [.compression] (selection.unpack layout payload rawSize) := by
  unfold unpack
  split
  · exact .accept (.head _)
  · exact Frame.decode_failsWithin payload rawSize
  · exact Quantizer.decodeBytes_failsWithin_of_doubles _ payload suits.1 suits.2

/-- Behind the check, a payload that cannot be unpacked is a flaw of compression. -/
theorem unpack_failsWithin_of_checkFraming
    (checked : selection.checkFraming layout payload rawSize = .ok ()) :
    FailsWithin [.compression] (selection.unpack layout payload rawSize) :=
  unpack_failsWithin_of_suits payload (suits_of_checkFraming checked)

end Selection

/-- The categories of faults between a header that was read and the raw data behind it. -/
def payloadCategories : List Category :=
  [.compression, .compressorArgument, .unknownCompressor, .invalidShape, .allocationFailed]

/-- The categories of faults for which raw data are refused before room is asked for. -/
def refusalCategories : List Category :=
  [.compression, .compressorArgument, .unknownCompressor, .invalidShape]

section

variable [Exponential]

/-- Behind a header that was read, raw data are refused for an unknown codec, for a flaw of
compression, or like one of the other steps to them fails: their size, the check of the payload, and
the room for them, which is at most 255 bytes for each byte of the payload. -/
theorem Header.unpackRaw_failsWithin_of_steps {header : Header} {payload : Bytes}
    {categories : List Category} (always : [.compression, .unknownCompressor] ⊆ categories)
    (sized : FailsWithin categories header.rawSize)
    (framed : ∀ name selection rawSize, header.compressorText = some name →
      Selection.ofStoredName name = .ok selection → header.rawSize = .ok rawSize →
        FailsWithin categories
          (selection.checkFraming header.elementType.layout payload rawSize))
    (room : ∀ rawSize ≤ 255 * payload.length, FailsWithin categories (reserve rawSize)) :
    FailsWithin categories (header.unpackRaw payload) := by
  unfold unpackRaw
  apply FailsWithin.bind sized
  intro rawSize described
  split
  · apply FailsWithin.reject (always (.head _))
    intro full
    apply FailsWithin.bind (room rawSize (by omega))
    intro _ _
    exact .ok _
  · next name stored =>
    have within {α : Type} {found : List Category} {outcome : Except Fault α}
        (failing : FailsWithin found outcome)
        (among : found ⊆ [.compression, .unknownCompressor]) : FailsWithin categories outcome :=
      failing.mono (List.Subset.trans among always)
    apply FailsWithin.bind (within (Selection.ofStoredName_failsWithin name) (by decide))
    intro selection found
    apply FailsWithin.bind (framed name selection rawSize stored found described)
    intro _ checked
    apply FailsWithin.bind (room rawSize (Selection.rawSize_le_of_checkFraming checked))
    intro _ _
    apply FailsWithin.bind
      (within (Selection.unpack_failsWithin_of_checkFraming checked) (by decide))
    intro data _
    exact .ok _

/-- Behind a header that was read, raw data are refused for their shape, for the name of the
codec, for the payload or for want of room. -/
theorem Header.unpackRaw_failsWithin (header : Header) (payload : Bytes) :
    FailsWithin payloadCategories (header.unpackRaw payload) := by
  apply Header.unpackRaw_failsWithin_of_steps
  · decide
  · exact (Shape.rawSize_failsWithin _ _).mono (by decide)
  · intro name selection rawSize _ _ _
    exact (selection.checkFraming_failsWithin _ payload rawSize).mono (by decide)
  · intro rawSize _
    exact (reserve_failsWithin rawSize).mono (by decide)

end

end ArrayBlob
