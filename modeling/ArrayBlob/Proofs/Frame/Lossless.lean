import ArrayBlob.Frame.RoundTrip

/-!
# The lossless codec restores its input

Data of any content that a frame can hold has a frame, and the frame is at most a header longer
than the data, tells both sizes truthfully and is read back as the data. A reader needs neither the
layout nor the level nor the flavor that the writer used.
-/

namespace ArrayBlob
namespace Frame

variable {flavor : Flavor} {level : Level} {layout : Layout} {raw frame : Bytes}

/-- Room for the largest frame can be reserved for all data that a frame can hold. -/
theorem compress_eq_encode (fits : largestFrame raw.length < 2 ^ 32) :
    compress flavor level layout raw = encode flavor level layout raw := by
  have room : reserve (largestFrame raw.length) = .ok () :=
    reserve_eq_ok_iff.2 (Nat.lt_trans fits (by decide))
  rw [compress_eq, room, ok_bind]

theorem length_of_encode_le (encoded : encode flavor level layout raw = .ok frame) :
    frame.length ≤ largestFrame raw.length := by
  obtain ⟨kind, body, made, -, -, rfl⟩ := exists_body_of_encode encoded
  have bound := made.length_le
  rw [List.length_append, Header.length_encode, largestFrame]
  omega

/-- The header of a frame tells the size of the data twice and the size of the frame. -/
theorem header_of_encode (encoded : encode flavor level layout raw = .ok frame) :
    ∃ header, Header.decode frame = .ok header ∧ header.rawSize.toNat = raw.length
      ∧ header.blockSize.toNat = raw.length ∧ header.frameSize.toNat = frame.length := by
  obtain ⟨kind, body, made, small, room, rfl⟩ := exists_body_of_encode encoded
  refine ⟨_, decode_headerOf flavor made small room, headerOf_rawSize flavor layout kind _ small,
    headerOf_blockSize flavor layout kind _ small, ?_⟩
  rw [headerOf_frameSize flavor layout kind _ room, List.length_append, Header.length_encode]

/-- A buffer that is too short for the largest frame is refused. -/
theorem compressInto_eq_error {buffer : Bytes} (small : raw.length < 2 ^ 32)
    (short : buffer.length < largestFrame raw.length) :
    compressInto flavor level layout raw buffer
      = .error (.bufferTooSmall (largestFrame raw.length) buffer.length) := by
  unfold compressInto checkRawSize
  simp only [if_pos small, if_pos short, ok_bind]
  rfl

/-- Data that has a frame is written to the front of every buffer that is long enough. -/
theorem compressInto_eq_ok {buffer : Bytes}
    (encoded : encode flavor level layout raw = .ok frame)
    (long : largestFrame raw.length ≤ buffer.length) :
    compressInto flavor level layout raw buffer
      = .ok (frame.length, frame ++ buffer.drop frame.length) := by
  rw [compressInto_eq flavor level layout long, encoded]
  rfl

/-- Data that a frame can hold is compressed into a frame with a bounded and truthful size, from
which it is restored. A buffer is refused exactly when it is shorter than the bound, and otherwise
only its front changes, which becomes the frame. -/
theorem compress_restores (flavor : Flavor) (level : Level) (layout : Layout) (raw : Bytes)
    (fits : raw.length ≤ 2 ^ 32 - 17) :
    ∃ frame, compress flavor level layout raw = .ok frame
      ∧ frame.length ≤ raw.length + 16
      ∧ (∃ header, Header.decode frame = .ok header ∧ header.rawSize.toNat = raw.length
        ∧ header.blockSize.toNat = raw.length ∧ header.frameSize.toNat = frame.length)
      ∧ decompress frame raw.length = .ok raw
      ∧ ∀ buffer : Bytes,
        (compressInto flavor level layout raw buffer
            = .error (.bufferTooSmall (raw.length + 16) buffer.length)
          ↔ buffer.length < raw.length + 16)
        ∧ (raw.length + 16 ≤ buffer.length →
          ∃ filled, compressInto flavor level layout raw buffer = .ok (frame.length, filled)
            ∧ filled.length = buffer.length
            ∧ filled.take frame.length = frame
            ∧ filled.drop frame.length = buffer.drop frame.length) := by
  have room : largestFrame raw.length < 2 ^ 32 := by
    unfold largestFrame headerSize
    omega
  obtain ⟨frame, encoded⟩ := encode_eq_ok flavor level layout room
  have bound := length_of_encode_le encoded
  have reserved : reserve raw.length = .ok () := reserve_eq_ok_iff.2 (by omega)
  refine ⟨frame, by rw [compress_eq_encode room, encoded], bound, header_of_encode encoded, ?_, ?_⟩
  · rw [decompress, reserved, ok_bind, decode_encode encoded]
  · intro buffer
    constructor
    · constructor
      · intro refused
        rcases Nat.lt_or_ge buffer.length (raw.length + 16) with short | long
        · exact short
        · rw [compressInto_eq_ok encoded long] at refused
          cases refused
      · exact compressInto_eq_error (by omega)
    · intro long
      refine ⟨_, compressInto_eq_ok encoded long, ?_, List.take_left' rfl, List.drop_left' rfl⟩
      rw [List.length_append, List.length_drop]
      exact Nat.add_sub_cancel' (Nat.le_trans bound long)

set_option maxRecDepth 100000 in
/-- Forty equal bytes fit a frame. Theirs has 28 bytes. -/
theorem compress_restores_forty :
    (List.replicate 40 (7 : UInt8)).length ≤ 2 ^ 32 - 17
      ∧ compress .lz4hc Level.best ⟨3, false⟩ (List.replicate 40 7)
        = .ok [2, 1, 65, 3, 40, 0, 0, 0, 40, 0, 0, 0, 28, 0, 0, 0,
          31, 7, 1, 0, 14, 96, 7, 7, 7, 7, 7, 7]
      ∧ ∃ frame, compress .lz4hc Level.best ⟨3, false⟩ (List.replicate 40 7) = .ok frame
        ∧ decompress frame 40 = .ok (List.replicate 40 7) := by
  refine ⟨by decide, by cbv, ?_⟩
  obtain ⟨frame, compressed, -, -, restored, -⟩ :=
    compress_restores .lz4hc Level.best ⟨3, false⟩ (List.replicate 40 7) (by decide)
  exact ⟨frame, compressed, restored⟩

end Frame
end ArrayBlob
