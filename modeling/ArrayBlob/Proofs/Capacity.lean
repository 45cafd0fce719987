import ArrayBlob.Proofs.Quantizer.Payload
import ArrayBlob.Selection

/-!
# How much a payload holds

The check in front of the unpacking looks at sizes alone, and what passes it stands for at most 255
raw bytes for each byte of the payload: a stored payload for itself, a frame for what its guard
allows, and a quantized payload for one double to every two bytes behind its prelude. What is
unpacked has exactly the size that was checked.
-/

namespace ArrayBlob

namespace Frame

/-- A body that can hold data stands for at most 255 raw bytes for each of its own, and for 64 more
that the header in front of it pays for. -/
theorem rawSize_le_of_canHold {verbatim : Bool} {bodySize rawSize : Nat}
    (held : canHold verbatim bodySize rawSize = true) : rawSize ≤ 255 * bodySize + 64 := by
  have bound : rawSize ≤ capacity verbatim bodySize := by
    simp only [canHold, Bool.and_eq_true, decide_eq_true_eq] at held
    exact held.1
  refine Nat.le_trans bound ?_
  unfold capacity
  split <;> omega

/-- A header is read from a frame that has room for one, and is then made of its fields: of the
current version, with a frame that has room for it and a body that can hold its data. -/
theorem Header.decode_eq_ok_iff {frame : Bytes} {header : Header} :
    Header.decode frame = .ok header ↔
      header = Header.fields frame ∧ headerSize ≤ frame.length ∧ header.version = currentVersion
        ∧ headerSize ≤ header.frameSize.toNat
        ∧ canHold header.isVerbatim header.bodySize header.rawSize.toNat = true := by
  unfold Header.decode
  dsimp only
  rw [reject_eq_ok_iff, reject_eq_ok_iff, reject_eq_ok_iff, Nat.not_lt, Nat.not_lt,
    Decidable.not_not]
  constructor
  · rintro ⟨long, version, complete, read⟩
    split at read
    · next held =>
      cases read
      exact ⟨rfl, long, version, complete, held⟩
    · cases read
  · rintro ⟨rfl, long, version, complete, held⟩
    exact ⟨long, version, complete, if_pos held⟩

/-- A header that is read claims a frame with room for it and a body that can hold its data. -/
theorem Header.sizes_of_decode {frame : Bytes} {header : Header}
    (read : Header.decode frame = .ok header) :
    headerSize ≤ header.frameSize.toNat
      ∧ canHold header.isVerbatim header.bodySize header.rawSize.toNat = true := by
  obtain ⟨-, -, -, sizes⟩ := Header.decode_eq_ok_iff.1 read
  exact sizes

/-- A frame claims at most 255 raw bytes for each byte that it claims for itself. -/
theorem Header.rawSize_le_of_decode {frame : Bytes} {header : Header}
    (read : Header.decode frame = .ok header) :
    header.rawSize.toNat ≤ 255 * header.frameSize.toNat := by
  obtain ⟨complete, held⟩ := Header.sizes_of_decode read
  have bound := rawSize_le_of_canHold held
  unfold bodySize at bound
  unfold headerSize at bound complete
  omega

theorem length_of_expandBlock {body data : Bytes} {size : Nat}
    (expanded : expandBlock body size = .ok data) : data.length = size := by
  unfold expandBlock at expanded
  split at expanded
  · cases expanded
  · split at expanded
    · next full =>
      cases expanded
      exact full
    · cases expanded

/-- A frame is decoded to as many bytes as were asked for. -/
theorem length_of_decode {frame data : Bytes} {size : Nat}
    (decoded : decode frame size = .ok data) : data.length = size := by
  obtain ⟨header, -, decoded⟩ := bind_eq_ok_iff.1 decoded
  obtain ⟨-, decoded⟩ := reject_eq_ok_iff.1 decoded
  obtain ⟨-, decoded⟩ := reject_eq_ok_iff.1 decoded
  by_cases verbatim : header.isVerbatim = true
  · rw [if_pos verbatim] at decoded
    obtain ⟨full, same⟩ := reject_eq_ok_iff.1 decoded
    cases same
    exact Decidable.not_not.1 full
  · rw [if_neg verbatim] at decoded
    split at decoded
    · obtain ⟨⟨⟩, -, decoded⟩ := bind_eq_ok_iff.1 decoded
      obtain ⟨planes, expanded, joined⟩ := bind_eq_ok_iff.1 decoded
      cases joined
      rw [Planes.length_join, length_of_expandBlock expanded]
    · exact length_of_expandBlock decoded

end Frame

namespace Quantizer

variable {payload : Bytes}

/-- The size that is required of a payload, as a number. -/
theorem requireSize_eq_ok_iff {size count : Nat} :
    requireSize size count = .ok () ↔ payloadSize count < 2 ^ 64 ∧ size = payloadSize count := by
  unfold requireSize
  split <;> simp_all

/-- Doubles are counted in data of a layout of doubles with no byte left over. -/
theorem doubleCount_eq_ok_iff {layout : Layout} {size count : Nat} :
    doubleCount layout size = .ok count ↔ layout.isDouble = true ∧ size = 8 * count := by
  unfold doubleCount
  rw [reject_eq_ok_iff, reject_eq_ok_iff, Except.ok.injEq, Bool.not_eq_true', Bool.not_eq_false,
    Decidable.not_not]
  constructor
  · rintro ⟨doubles, whole, same⟩
    exact ⟨doubles, by omega⟩
  · rintro ⟨doubles, same⟩
    exact ⟨doubles, by omega, by omega⟩

theorem doubleCount_of_doubles {layout : Layout} {size : Nat}
    (doubles : layout.isDouble = true ∧ size % 8 = 0) : doubleCount layout size = .ok (size / 8) :=
  doubleCount_eq_ok_iff.2 ⟨doubles.1, by omega⟩

/-- Data that are no whole doubles are refused as an argument. -/
theorem doubleCount_of_not_doubles {layout : Layout} {size : Nat}
    (other : ¬ (layout.isDouble = true ∧ size % 8 = 0)) :
    ∃ flaw, doubleCount layout size = .error (.compressorArgument flaw) := by
  unfold doubleCount
  split
  · exact ⟨_, rfl⟩
  · next double =>
    rw [Bool.not_eq_true', Bool.not_eq_false] at double
    rw [if_pos fun whole => other ⟨double, whole⟩]
    exact ⟨_, rfl⟩

/-- Room for the payload of data in memory is always found. -/
theorem reserve_payloadSize {size : Nat} (small : size < 2 ^ 63) :
    reserve (payloadSize (size / 8)) = .ok () := by
  rw [reserve_eq_ok_iff, payloadSize, preludeSize, codeSize]
  omega

variable [Exponential] {mode : Mode}

/-- Whole doubles in memory are compressed as they are encoded. -/
theorem compress_eq_encode (mode : Mode) {layout : Layout} {raw : Bytes} {count : Nat}
    (doubles : layout.isDouble = true) (sized : raw.length = 8 * count)
    (small : raw.length < 2 ^ 63) :
    compress mode layout raw = encode mode (Element.decodeAll raw) := by
  have counted := doubleCount_eq_ok_iff.2 ⟨doubles, sized⟩
  rw [compress_eq, reserve_payloadSize small, ok_bind, counted, ok_bind]

/-- A payload is decoded to as many doubles as were asked for. -/
theorem length_of_decode {count : Nat} {values : List Double}
    (decoded : decode mode payload count = .ok values) : values.length = count := by
  obtain ⟨⟨⟩, sized, decoded⟩ := bind_eq_ok_iff.1 decoded
  obtain ⟨scaling, -, decoded⟩ := bind_eq_ok_iff.1 decoded
  obtain ⟨-, size⟩ := requireSize_eq_ok_iff.1 sized
  rw [length_of_mapM_eq_ok decoded]
  simp only [Element.length_decodeAll, List.length_drop, size, payloadSize, preludeSize, codeSize,
    Element.width, Element.type, ElementType.size]
  omega

theorem length_of_decodeBytes {layout : Layout} {size : Nat} {data : Bytes}
    (decoded : decodeBytes mode layout payload size = .ok data) : data.length = size := by
  obtain ⟨count, counted, decoded⟩ := bind_eq_ok_iff.1 decoded
  obtain ⟨values, listed, written⟩ := bind_eq_ok_iff.1 decoded
  cases written
  rw [Element.length_encodeAll, length_of_decode listed, (doubleCount_eq_ok_iff.1 counted).2]
  rfl

end Quantizer

namespace Selection

variable {selection : Selection} {layout : Layout} {payload : Bytes} {rawSize : Nat}

/-- What passes the check in front of the unpacking stands for at most 255 bytes of raw data for
each byte of the payload. -/
theorem rawSize_le_of_checkFraming
    (checked : selection.checkFraming layout payload rawSize = .ok ()) :
    rawSize ≤ 255 * payload.length := by
  unfold checkFraming at checked
  split at checked
  · split at checked
    · omega
    · cases checked
  · obtain ⟨header, read, checked⟩ := bind_eq_ok_iff.1 checked
    have bound := Frame.Header.rawSize_le_of_decode read
    obtain ⟨agree, -⟩ := reject_eq_ok_iff.1 checked
    omega
  · obtain ⟨whole, checked⟩ := reject_eq_ok_iff.1 checked
    obtain ⟨-, size⟩ := Quantizer.requireSize_eq_ok_iff.1 checked
    simp only [Quantizer.payloadSize, Quantizer.preludeSize, Quantizer.codeSize] at size
    omega

/-- A payload is unpacked to as many bytes as were asked for. -/
theorem length_of_unpack [Exponential] {data : Bytes}
    (unpacked : selection.unpack layout payload rawSize = .ok data) : data.length = rawSize := by
  unfold unpack at unpacked
  split at unpacked
  · split at unpacked
    · next full =>
      cases unpacked
      exact full
    · cases unpacked
  · exact Frame.length_of_decode unpacked
  · exact Quantizer.length_of_decodeBytes unpacked

end Selection
end ArrayBlob
