import ArrayBlob.Proofs.Agreement
import ArrayBlob.Proofs.Blob.Refusals
import ArrayBlob.Proofs.Lz4.Meaning

/-!
# What a frame is read as

A reader asks one thing of a frame before it looks at the body: that the header is readable and
states the size of the frame and of the data that is asked for. Such a frame is read as its body, as
what the block in the body stands for, or as that with its byte planes joined. Only some bits of a
header are read on the way. `Alike` says of two frames that they agree on those, and two such frames
are read alike, whatever their other bytes are.
-/

namespace ArrayBlob
namespace Frame

variable {frame body data : Bytes} {size : Nat}

/-! ## Frames of the right sizes -/

/-- A frame has a readable header that states the size of the frame and of its data. -/
structure Framed (frame : Bytes) (size : Nat) : Prop where
  read : Header.decode frame = .ok (Header.fields frame)
  rawSize : (Header.fields frame).rawSize.toNat = size
  frameSize : (Header.fields frame).frameSize.toNat = frame.length

/-- A header that is read consists of the fields of the frame. -/
theorem Header.eq_fields_of_decode {header : Header} (read : Header.decode frame = .ok header) :
    header = Header.fields frame :=
  (Header.decode_eq_ok_iff.1 read).1

/-- A block fills a buffer when it stands for as many bytes as there are in the buffer. -/
theorem expandBlock_eq_ok_iff :
    expandBlock body size = .ok data ↔ Lz4.StandsFor body data ∧ data.length = size := by
  unfold expandBlock
  constructor
  · intro expanded
    split at expanded
    · cases expanded
    · next bytes done =>
      split at expanded
      · next full =>
        cases expanded
        exact ⟨⟨size, done⟩, full⟩
      · cases expanded
  · rintro ⟨stands, full⟩
    have expanded : Lz4.expand size body = .ok data :=
      Lz4.expand_eq_ok_iff.2 ⟨stands, Nat.le_of_eq full⟩
    rw [expanded]
    exact if_pos full

/-- A frame is decoded to nothing unless its header states the right sizes. -/
theorem framed_of_decode (decoded : decode frame size = .ok data) : Framed frame size := by
  obtain ⟨header, read, decoded⟩ := bind_eq_ok_iff.1 decoded
  obtain ⟨rawSize, decoded⟩ := reject_eq_ok_iff.1 decoded
  obtain ⟨frameSize, -⟩ := reject_eq_ok_iff.1 decoded
  obtain rfl := Header.eq_fields_of_decode read
  exact ⟨read, Decidable.not_not.1 rawSize, Decidable.not_not.1 frameSize⟩

/-- The data of the body of a frame whose sizes are right. -/
def decodeBody (header : Header) (body : Bytes) (size : Nat) : Except Fault Bytes :=
  if header.isVerbatim then .ok body
  else if header.isSplit then
    (expandBlock body size).map (Planes.join header.typesize.toNat)
  else expandBlock body size

namespace Framed

/-- The decoding of a frame whose sizes are right is that of its body. -/
theorem decode_eq (framed : Framed frame size) :
    decode frame size = decodeBody (Header.fields frame) (frame.drop headerSize) size := by
  have raw := framed.rawSize
  have reserved : reserve size = .ok () := by
    have small := (Header.fields frame).rawSize.toNat_lt
    rw [reserve_eq_ok_iff]
    omega
  unfold decode decodeBody
  rw [framed.read, ok_bind]
  dsimp only
  rw [if_neg (not_not_intro raw), if_neg (not_not_intro framed.frameSize)]
  by_cases verbatim : (Header.fields frame).isVerbatim = true
  · have claimed := Header.rawSize_of_isVerbatim framed.read verbatim
    have full : (frame.drop headerSize).length = size := by
      rw [List.length_drop, ← framed.frameSize, ← claimed, raw]
    rw [if_pos verbatim, if_pos verbatim, if_neg (not_not_intro full)]
    rfl
  · rw [if_neg verbatim, if_neg verbatim, reserved, ok_bind]
    rfl

/-- A verbatim frame is decoded to its body. -/
theorem decode_verbatim (framed : Framed frame size)
    (verbatim : (Header.fields frame).isVerbatim = true) :
    decode frame size = .ok (frame.drop headerSize) := by
  rw [framed.decode_eq, decodeBody, if_pos verbatim]

/-- Any other frame has data when the block in its body stands for as many bytes as were asked
for. -/
theorem decode_succeeds_iff (framed : Framed frame size)
    (packed : (Header.fields frame).isVerbatim = false) :
    (∃ data, decode frame size = .ok data)
      ↔ ∃ bytes, Lz4.StandsFor (frame.drop headerSize) bytes ∧ bytes.length = size := by
  rw [framed.decode_eq, decodeBody, packed, if_neg Bool.false_ne_true]
  simp only [← expandBlock_eq_ok_iff]
  split
  · constructor
    · rintro ⟨data, joined⟩
      obtain ⟨bytes, expanded, -⟩ := map_eq_ok_iff.1 joined
      exact ⟨bytes, expanded⟩
    · rintro ⟨bytes, expanded⟩
      exact ⟨_, map_eq_ok_iff.2 ⟨bytes, expanded, rfl⟩⟩
  · exact Iff.rfl

end Framed

/-! ## Bytes that are not read -/

/-- Two frames agree on what a reader looks at. -/
structure Alike (left right : Bytes) : Prop where
  length : left.length = right.length
  version : (Header.fields left).version = (Header.fields right).version
  isVerbatim : (Header.fields left).isVerbatim = (Header.fields right).isVerbatim
  isSplit : (Header.fields left).isSplit = (Header.fields right).isSplit
  rawSize : (Header.fields left).rawSize = (Header.fields right).rawSize
  frameSize : (Header.fields left).frameSize = (Header.fields right).frameSize
  /-- The element size is that of byte planes, and read for those alone. -/
  typesize : (Header.fields left).isVerbatim = false → (Header.fields left).isSplit = true →
    (Header.fields left).typesize = (Header.fields right).typesize
  body : left.drop headerSize = right.drop headerSize

namespace Alike

variable {left right : Bytes}

/-- Steps behind the reading of a header that take the two headers alike end alike. -/
theorem decode_bind (alike : Alike left right) {α : Type} {next again : Header → Except Fault α}
    (same : next (Header.fields left) = again (Header.fields right)) :
    (Header.decode left >>= next) = (Header.decode right >>= again) := by
  have bodySize : (Header.fields left).bodySize = (Header.fields right).bodySize := by
    rw [Header.bodySize, Header.bodySize, alike.frameSize]
  unfold Header.decode
  dsimp only
  rw [alike.length, alike.version, alike.frameSize, alike.isVerbatim, bodySize, alike.rawSize]
  split
  · rfl
  · split
    · rfl
    · split
      · rfl
      · split
        · exact same
        · rfl

/-- Two frames that agree on what is read are decoded alike. -/
theorem decode (alike : Alike left right) (size : Nat) :
    Frame.decode left size = Frame.decode right size := by
  unfold Frame.decode
  apply alike.decode_bind
  dsimp only
  rw [alike.rawSize, alike.frameSize, alike.length, ← alike.isVerbatim, ← alike.isSplit,
    ← alike.body]
  by_cases verbatim : (Header.fields left).isVerbatim = true
  · rw [if_pos verbatim, if_pos verbatim]
  · by_cases split : (Header.fields left).isSplit = true
    · rw [alike.typesize (eq_false_of_ne_true verbatim) split]
    · rw [if_neg split, if_neg split]

end Alike

/-- The positions of two frames at which they may differ without being read differently. -/
inductive Unread (left right : Bytes) : Nat → Prop
  /-- The version of the block format. -/
  | blockVersion : Unread left right 1
  /-- The flags, but for the two that tell the kind of the body. -/
  | flags (kind : left.getD 2 0 &&& 3 = right.getD 2 0 &&& 3) : Unread left right 2
  /-- The element size, where no planes are joined. -/
  | typesize
      (unplaned : (Header.fields left).isVerbatim = true ∨ (Header.fields left).isSplit = false) :
      Unread left right 3
  /-- The size of a block. -/
  | blockSize {position : Nat} (start : 8 ≤ position) (stop : position ≤ 11) :
      Unread left right position

namespace Unread

variable {left right : Bytes} {position : Nat}

/-- The version, the sizes of the data and of the frame, and the body are read. -/
theorem not_of_version_or_size
    (inside : position = 0 ∨ (4 ≤ position ∧ position ≤ 7) ∨ 12 ≤ position) :
    ¬ Unread left right position := by
  intro unread
  cases unread <;> omega

/-- The flags that tell the kind of the body are read. -/
theorem kind_of_agreeBut (agree : Bytes.AgreeBut (Unread left right) left right) :
    left.getD 2 0 &&& 3 = right.getD 2 0 &&& 3 := by
  by_cases unread : Unread left right 2
  · cases unread with
    | flags kind => exact kind
    | blockSize start stop => omega
  · rw [agree.getD unread]

/-- The element size is read where planes are joined. -/
theorem not_of_planes (packed : (Header.fields left).isVerbatim = false)
    (planes : (Header.fields left).isSplit = true) : ¬ Unread left right 3 := by
  intro unread
  cases unread with
  | typesize unplaned => simp [packed, planes] at unplaned
  | blockSize start stop => omega

/-- A flag among the two that tell the kind is the same under the same kind. -/
theorem flag_of_kind {first second flag : UInt8} (low : 3 &&& flag = flag)
    (kind : first &&& 3 = second &&& 3) : (first &&& flag != 0) = (second &&& flag != 0) := by
  rw [← low, ← UInt8.and_assoc, ← UInt8.and_assoc, kind]

/-- Frames that agree but at unread positions are alike. -/
theorem alike (agree : Bytes.AgreeBut (Unread left right) left right) : Alike left right where
  length := agree.length
  version := agree.getD (not_of_version_or_size (.inl rfl))
  isVerbatim := flag_of_kind rfl (kind_of_agreeBut agree)
  isSplit := flag_of_kind rfl (kind_of_agreeBut agree)
  rawSize := by
    have field : Bytes.field 4 4 left = Bytes.field 4 4 right :=
      agree.field fun position start stop => not_of_version_or_size (by omega)
    exact congrArg (fun bytes => UInt32.ofNat (LittleEndian.decode bytes)) field
  frameSize := by
    have field : Bytes.field 12 4 left = Bytes.field 12 4 right :=
      agree.field fun position start stop => not_of_version_or_size (by omega)
    exact congrArg (fun bytes => UInt32.ofNat (LittleEndian.decode bytes)) field
  typesize packed planes := agree.getD (not_of_planes packed planes)
  body := by
    refine (agree.drop headerSize).eq fun position => not_of_version_or_size ?_
    unfold headerSize
    omega

end Unread
end Frame
end ArrayBlob
