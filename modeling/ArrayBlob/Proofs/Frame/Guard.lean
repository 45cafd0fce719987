import ArrayBlob.Proofs.Frame.Reading

/-!
# The guard of a frame header

A header that claims more data than a body of its size can hold is refused before the body is
looked at. The guard is a bound on sizes, and a bound could be too small: a foreign writer may make
blocks that ours would not. It is not, since no byte of a block stands for more than 255 bytes of
data, however the block was made. So a frame around a block that fills the buffer asked for is read,
whatever the bytes of its header that no check looks at.
-/

namespace ArrayBlob
namespace Frame

variable {body data : Bytes} {size : Nat}

/-- A body that is a block can hold the data that the block stands for. -/
theorem canHold_of_expandBlock (expanded : expandBlock body size = .ok data) :
    canHold false body.length size = true := by
  obtain ⟨⟨room, stands⟩, full⟩ := expandBlock_eq_ok_iff.1 expanded
  have bound := Lz4.length_of_expand stands
  unfold canHold capacity
  simp only [Bool.false_eq_true, if_false, Bool.not_false, Bool.true_or, Bool.and_true,
    decide_eq_true_eq]
  omega

/-- A block that fills a buffer is framed by every header of the current version that states the
sizes of both and does not call the body verbatim. -/
theorem framed_of_expandBlock {front : Bytes} (expanded : expandBlock body size = .ok data)
    (long : front.length = headerSize)
    (version : (Header.fields (front ++ body)).version = currentVersion)
    (packed : (Header.fields (front ++ body)).isVerbatim = false)
    (rawSize : (Header.fields (front ++ body)).rawSize.toNat = size)
    (frameSize : (Header.fields (front ++ body)).frameSize.toNat = headerSize + body.length) :
    Framed (front ++ body) size where
  read := by
    have held := canHold_of_expandBlock expanded
    have bodySize : (Header.fields (front ++ body)).bodySize = body.length := by
      rw [Header.bodySize, frameSize, Nat.add_sub_cancel_left]
    refine Header.decode_eq_ok_iff.2 ⟨rfl, ?_, version, ?_, ?_⟩
    · rw [List.length_append, long]
      exact Nat.le_add_right _ _
    · rw [frameSize]
      exact Nat.le_add_right _ _
    · rw [packed, bodySize, rawSize]
      exact held
  rawSize := rawSize
  frameSize := by rw [frameSize, List.length_append, long]

/-- A block that expands to exactly the size of its buffer is at most 255 times shorter than that,
and the guard never refuses a frame for it: every 16 bytes that state the current version, the size
of the data and that of the frame, and do not call the body verbatim, are read as a header in front
of the block. The frame is then decoded to the data, or to the data with its byte planes joined if
the header says so. Nothing is asked of the other bytes. -/
theorem guard_admits_expandable (expanded : Lz4.expand size body = .ok data)
    (full : data.length = size) :
    size ≤ 255 * body.length
      ∧ ∀ front : Bytes, front.length = headerSize →
        let frame := front ++ body
        let header := Header.fields frame
        header.version = currentVersion → header.isVerbatim = false →
        header.rawSize.toNat = size → header.frameSize.toNat = headerSize + body.length →
        Header.decode frame = .ok header
          ∧ decode frame size
            = .ok (if header.isSplit then Planes.join header.typesize.toNat data else data) := by
  have filled : expandBlock body size = .ok data :=
    expandBlock_eq_ok_iff.2 ⟨⟨size, expanded⟩, full⟩
  refine ⟨full ▸ Lz4.length_of_expand expanded, ?_⟩
  intro front long frame header version packed rawSize frameSize
  have framed : Framed frame size :=
    framed_of_expandBlock filled long version packed rawSize frameSize
  have behind : frame.drop headerSize = body := List.drop_left' long
  refine ⟨framed.read, ?_⟩
  rw [framed.decode_eq, decodeBody, packed, if_neg Bool.false_ne_true, behind, filled]
  by_cases split : header.isSplit = true
  · rw [if_pos split, if_pos split]
    rfl
  · rw [if_neg split, if_neg split]

/-- A literal and a copy of nineteen bytes make twenty bytes out of six, of which the last stands
for none. No writer of ours ends a block like that, and the header has foreign bytes in it as
well. -/
theorem guard_admits_expandable_twenty :
    let body : Bytes := [0x1F, 7, 1, 0, 0, 0]
    let front : Bytes := [2, 9, 0xF5, 4, 20, 0, 0, 0, 0xDE, 0xAD, 0xBE, 0xEF, 22, 0, 0, 0]
    Lz4.expand 20 body = .ok (List.replicate 20 7)
      ∧ 20 ≤ 255 * body.length
      ∧ Header.decode (front ++ body) = .ok (Header.fields (front ++ body))
      ∧ decode (front ++ body) 20 = .ok (Planes.join 4 (List.replicate 20 7)) := by
  intro body front
  have expanded : Lz4.expand 20 body = .ok (List.replicate 20 7) := by cbv
  obtain ⟨bound, admitted⟩ := guard_admits_expandable expanded (by decide)
  obtain ⟨read, decoded⟩ :=
    admitted front (by decide) (by decide) (by decide) (by decide) (by decide)
  have planes : (Header.fields (front ++ body)).isSplit = true := by decide
  have typesize : (Header.fields (front ++ body)).typesize.toNat = 4 := by decide
  rw [if_pos planes, typesize] at decoded
  exact ⟨expanded, bound, read, decoded⟩

end Frame
end ArrayBlob
