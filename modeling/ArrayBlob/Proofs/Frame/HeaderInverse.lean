import ArrayBlob.Proofs.Capacity
import Mathlib.Data.Nat.Bitwise

/-!
# Frame headers that are read back

Writing and reading a frame header are inverse to each other on the headers that the reader admits.
Which these are is said by `Frame.Admits` in terms of the flags and of the two sizes alone: a
verbatim body has the size of its data, and a block has at least one byte for 255 bytes of data,
beside a slack of 64. A header of other sizes can be written and is refused when it is read.
-/

namespace ArrayBlob
namespace Frame

/-- A body of some size can be that of data of some size, by the flag that tells whether the body is
the data itself. -/
def Admits (flags : UInt8) (bodySize rawSize : Nat) : Prop :=
  flags.toNat.testBit 1 = true ∧ rawSize = bodySize
    ∨ flags.toNat.testBit 1 = false ∧ rawSize ≤ 255 * bodySize + 64

/-- The number in the 4 bytes of a frame from an offset on. -/
def wordAt (offset : Nat) (frame : Bytes) : Nat :=
  LittleEndian.decode (Bytes.field offset 4 frame)

namespace Header

variable {frame : Bytes} {header : Header}

/-! ## The guard on the sizes -/

/-- The flag of a verbatim body is the second bit of the flags. -/
theorem isVerbatim_eq_testBit (header : Header) :
    header.isVerbatim = header.flags.toNat.testBit 1 := by
  have masked : (header.flags &&& verbatimFlag).toNat
      = (header.flags.toNat.testBit 1).toNat * 2 ^ 1 := by
    rw [UInt8.toNat_and]
    exact Nat.and_two_pow header.flags.toNat 1
  unfold isVerbatim
  cases set : header.flags.toNat.testBit 1 with
  | false =>
    rw [set] at masked
    exact bne_eq_false_iff_eq.2 (UInt8.toNat_inj.1 masked)
  | true =>
    rw [set] at masked
    refine bne_iff_ne.2 fun zero => ?_
    rw [zero] at masked
    exact absurd masked (by decide)

/-- The guard on the sizes lets through what the flags and the sizes admit. -/
theorem canHold_iff (header : Header) (bodySize rawSize : Nat) :
    canHold header.isVerbatim bodySize rawSize = true ↔ Admits header.flags bodySize rawSize := by
  unfold canHold capacity Admits
  rw [← isVerbatim_eq_testBit]
  cases header.isVerbatim with
  | false => simp
  | true =>
    simp only [if_true, Bool.not_true, Bool.false_or, Bool.and_eq_true, decide_eq_true_eq,
      beq_iff_eq, true_and, Bool.true_eq_false, false_and, or_false]
    exact ⟨And.right, fun same => ⟨Nat.le_of_eq same, same⟩⟩

/-! ## Reading what was written -/

/-- A written header of the current version, of a frame with room for it, is read back exactly if
its sizes are admitted. They are all that is found fault with, whatever stands behind it. -/
theorem decode_encode_append (current : header.version = currentVersion)
    (complete : headerSize ≤ header.frameSize.toNat) (rest : Bytes) :
    (decode (header.encode ++ rest) = .ok header
        ↔ Admits header.flags header.bodySize header.rawSize.toNat)
      ∧ (¬ Admits header.flags header.bodySize header.rawSize.toNat →
        ∃ flaw, decode (header.encode ++ rest) = .error (.compression flaw)) := by
  have long : headerSize ≤ (header.encode ++ rest).length := by
    rw [List.length_append, length_encode]
    exact Nat.le_add_right _ _
  rw [← canHold_iff]
  unfold decode
  dsimp only
  rw [fields_encode, if_neg (Nat.not_lt.2 long), if_neg (not_not_intro current),
    if_neg (Nat.not_lt.2 complete)]
  split
  · next held => exact ⟨iff_of_true rfl held, fun refused => absurd held refused⟩
  · next refused => exact ⟨iff_of_false nofun refused, fun _ => ⟨_, rfl⟩⟩

/-- A header in front of a body whose frame is not too large. -/
theorem exists_ofBody (flags typesize : UInt8) (rawSize : UInt32) {bodySize : Nat}
    (fits : 16 + bodySize < 2 ^ 32) :
    ∃ header, ofBody flags typesize rawSize bodySize = .ok header
      ∧ header.version = currentVersion ∧ header.flags = flags ∧ header.rawSize = rawSize
      ∧ header.frameSize.toNat = headerSize + bodySize := by
  have frameSize : (UInt32.ofNat (headerSize + bodySize)).toNat = headerSize + bodySize :=
    UInt32.toNat_ofNat_of_lt' fits
  exact ⟨_, if_pos fits, rfl, rfl, rfl, frameSize⟩

/-! ## Writing what was read -/

theorem toNat_word (offset : Nat) (frame : Bytes) :
    (UInt32.ofNat (LittleEndian.decode (Bytes.field offset 4 frame))).toNat
      = wordAt offset frame :=
  UInt32.toNat_ofNat_of_lt' (LittleEndian.decode_field_lt offset 4 frame)

/-- A number in a frame is written as the bytes that it was read from. -/
theorem encode_wordAt {offset : Nat} (reaches : offset + 4 ≤ frame.length) :
    LittleEndian.encode 4 (wordAt offset frame) = Bytes.field offset 4 frame :=
  LittleEndian.encode_decode_field reaches

/-- The fields of a frame are written as the first bytes of the frame. -/
theorem encode_fields (long : headerSize ≤ frame.length) :
    (fields frame).encode = frame.take headerSize := by
  unfold headerSize at long
  have front : [frame.getD 0 0, frame.getD 1 0, frame.getD 2 0, frame.getD 3 0]
      = frame.take 4 := by
    match frame, long with
    | _ :: _ :: _ :: _ :: _, _ => rfl
  unfold encode fields
  dsimp only
  rw [toNat_word, toNat_word, toNat_word, encode_wordAt (by omega), encode_wordAt (by omega),
    encode_wordAt (by omega), front]
  -- Each field continues the bytes in front of it.
  simp only [Bytes.field, ← List.take_add]
  rfl

/-- A header is read exactly from a frame with room for one, of the current version, with a frame
size that covers the header and with sizes that are admitted. -/
theorem decode_succeeds_iff :
    (∃ header, decode frame = .ok header)
      ↔ 16 ≤ frame.length ∧ frame[0]? = some 2 ∧ 16 ≤ wordAt 12 frame
        ∧ Admits (frame.getD 2 0) (wordAt 12 frame - 16) (wordAt 4 frame) := by
  have frameSize : (fields frame).frameSize.toNat = wordAt 12 frame := toNat_word 12 frame
  have rawSize : (fields frame).rawSize.toNat = wordAt 4 frame := toNat_word 4 frame
  have version (long : 16 ≤ frame.length) :
      (fields frame).version = currentVersion ↔ frame[0]? = some 2 := by
    change frame.getD 0 0 = 2 ↔ _
    rw [List.getD_eq_getElem?_getD, List.getElem?_eq_getElem (Nat.lt_of_lt_of_le (by decide) long),
      Option.getD_some, Option.some.injEq]
  have held : canHold (fields frame).isVerbatim (fields frame).bodySize (wordAt 4 frame) = true
      ↔ Admits (frame.getD 2 0) (wordAt 12 frame - 16) (wordAt 4 frame) := by
    rw [canHold_iff, bodySize, frameSize]
    exact Iff.rfl
  simp only [decode_eq_ok_iff, exists_eq_left, frameSize, rawSize, held]
  constructor
  · rintro ⟨long, current, rest⟩
    exact ⟨long, (version long).1 current, rest⟩
  · rintro ⟨long, current, rest⟩
    exact ⟨long, (version long).2 current, rest⟩

/-- Writing and reading are inverse on the headers whose sizes are admitted. A header for any body
whose frame is below `2 ^ 32` bytes is written as 16 bytes, and these are read as the same header,
whatever follows them, exactly if the flags admit the sizes; otherwise they are refused for a flaw
of compression. In turn a header is read from bytes exactly if there are 16 of them, the first is
the current version, the stated size of the frame is at least 16, and the flags admit the size that
this leaves for the body with the stated size of the data; and then writing the header gives the
first 16 bytes again. -/
theorem decode_inverts_encode :
    (∀ (flags typesize : UInt8) (rawSize : UInt32) (bodySize : Nat), 16 + bodySize < 2 ^ 32 →
      ∃ header, ofBody flags typesize rawSize bodySize = .ok header
        ∧ header.encode.length = 16
        ∧ ∀ rest : Bytes,
          (decode (header.encode ++ rest) = .ok header ↔ Admits flags bodySize rawSize.toNat)
          ∧ (¬ Admits flags bodySize rawSize.toNat →
            ∃ flaw, decode (header.encode ++ rest) = .error (.compression flaw)))
    ∧ ∀ frame : Bytes,
      ((∃ header, decode frame = .ok header)
        ↔ 16 ≤ frame.length ∧ frame[0]? = some 2 ∧ 16 ≤ wordAt 12 frame
          ∧ Admits (frame.getD 2 0) (wordAt 12 frame - 16) (wordAt 4 frame))
      ∧ ∀ header, decode frame = .ok header → header.encode = frame.take 16 := by
  refine ⟨?_, fun frame => ⟨decode_succeeds_iff, ?_⟩⟩
  · intro flags typesize rawSize bodySize fits
    obtain ⟨header, made, current, rfl, rfl, frameSize⟩ := exists_ofBody flags typesize rawSize fits
    refine ⟨header, made, header.length_encode, fun rest => ?_⟩
    have complete : headerSize ≤ header.frameSize.toNat := by
      rw [frameSize]
      exact Nat.le_add_right _ _
    have body : header.bodySize = bodySize := by
      rw [Header.bodySize, frameSize, Nat.add_sub_cancel_left]
    rw [← body]
    exact decode_encode_append current complete rest
  · intro header read
    obtain ⟨rfl, long, -⟩ := decode_eq_ok_iff.1 read
    exact encode_fields long

/-- A block of one byte can stand for 319 bytes and not for 320, and a verbatim body of one byte for
one byte alone. -/
theorem decode_inverts_encode_one :
    16 + 1 < 2 ^ 32
      ∧ Admits 0 1 319 ∧ ¬ Admits 0 1 320 ∧ Admits 2 1 1 ∧ ¬ Admits 2 1 0
      ∧ (∃ header, ofBody 0 4 319 1 = .ok header
        ∧ decode (header.encode ++ [7]) = .ok header)
      ∧ (∃ header flaw, ofBody 0 4 320 1 = .ok header
        ∧ decode (header.encode ++ [7]) = .error (.compression flaw))
      ∧ ∃ header flaw, ofBody 2 4 0 1 = .ok header
        ∧ decode (header.encode ++ [7]) = .error (.compression flaw) := by
  have block : Admits 0 1 319 := by unfold Admits; decide
  have wide : ¬ Admits 0 1 320 := by unfold Admits; decide
  have verbatim : Admits 2 1 1 := by unfold Admits; decide
  have short : ¬ Admits 2 1 0 := by unfold Admits; decide
  obtain ⟨written, -⟩ := decode_inverts_encode
  refine ⟨by decide, block, wide, verbatim, short, ?_, ?_, ?_⟩
  · obtain ⟨header, made, -, read⟩ := written 0 4 319 1 (by decide)
    exact ⟨header, made, (read [7]).1.2 block⟩
  · obtain ⟨header, made, -, read⟩ := written 0 4 320 1 (by decide)
    obtain ⟨flaw, refused⟩ := (read [7]).2 wide
    exact ⟨header, flaw, made, refused⟩
  · obtain ⟨header, made, -, read⟩ := written 2 4 0 1 (by decide)
    obtain ⟨flaw, refused⟩ := (read [7]).2 short
    exact ⟨header, flaw, made, refused⟩

end Header
end Frame
end ArrayBlob
