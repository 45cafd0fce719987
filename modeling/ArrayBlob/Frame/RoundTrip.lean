import ArrayBlob.Frame.Lossless
import ArrayBlob.Lz4.Growth
import ArrayBlob.Proofs.Outcome

/-!
# Reading a written frame

The codec fills a buffer. `encode` is what it leaves there: a header and a body behind it. The body
of a frame is the data itself, the block of the data, or the block of its byte planes, and the flags
tell which. `decode_encode` says that every frame the codec writes is read back as the data it was
made of: the header claims no more than its body can hold, and the block and the planes are undone
in turn.
-/

namespace ArrayBlob
namespace Frame

/-! ## Bodies -/

/-- The bodies that stand for some data, with the kind that the flags tell. -/
inductive BodyOf (typesize : Nat) (raw : Bytes) : UInt8 → Bytes → Prop
  | verbatim : BodyOf typesize raw verbatimFlag raw
  | block (smaller : (Lz4.compress raw).length < raw.length) :
      BodyOf typesize raw 0 (Lz4.compress raw)
  | planes (smaller : (Lz4.compress (Planes.split typesize raw)).length < raw.length) :
      BodyOf typesize raw planesFlag (Lz4.compress (Planes.split typesize raw))

/-- The chosen body is one of those that stand for the data. -/
theorem bodyOf_spec (level : Level) (typesize : Nat) (raw : Bytes) :
    BodyOf typesize raw (bodyOf level typesize raw).1 (bodyOf level typesize raw).2 := by
  unfold bodyOf
  split
  · exact .verbatim
  · by_cases split : splits typesize raw.length = true
    · simp only [split, if_true]
      by_cases smaller : (Lz4.compress (Planes.split typesize raw)).length < raw.length
      · rw [if_pos smaller]
        exact .planes smaller
      · rw [if_neg smaller]
        exact .verbatim
    · simp only [split, if_false, Bool.false_eq_true]
      by_cases smaller : (Lz4.compress raw).length < raw.length
      · rw [if_pos smaller]
        exact .block smaller
      · rw [if_neg smaller]
        exact .verbatim

/-- A body is never longer than its data. -/
theorem BodyOf.length_le {typesize : Nat} {raw body : Bytes} {kind : UInt8}
    (made : BodyOf typesize raw kind body) : body.length ≤ raw.length := by
  cases made with
  | verbatim => exact Nat.le_refl _
  | block smaller => exact Nat.le_of_lt smaller
  | planes smaller => exact Nat.le_of_lt smaller

/-- The kinds of bodies. -/
def kinds : List UInt8 :=
  [verbatimFlag, 0, planesFlag]

theorem BodyOf.mem_kinds {typesize : Nat} {raw body : Bytes} {kind : UInt8}
    (made : BodyOf typesize raw kind body) : kind ∈ kinds := by
  cases made <;> decide

/-- The flavor does not touch the flags that tell the kind of a body. -/
theorem flags_kind (flavor : Flavor) : ∀ kind ∈ kinds,
    ((flavor.code <<< flagBits ||| kind) &&& verbatimFlag != 0) = (kind == verbatimFlag)
      ∧ ((flavor.code <<< flagBits ||| kind) &&& planesFlag != 0) = (kind == planesFlag) := by
  intro kind member
  simp only [kinds, List.mem_cons, List.not_mem_nil, or_false] at member
  rcases member with rfl | rfl | rfl
  · cases flavor <;> decide
  · cases flavor <;> decide
  · cases flavor <;> decide

/-! ## Writing -/

/-- The frame of raw bytes. -/
def encode (flavor : Flavor) (level : Level) (layout : Layout) (raw : Bytes) :
    Except Fault Bytes := do
  checkRawSize raw.length
  let (header, body) ← headerAndBody flavor level layout raw
  return header.encode ++ body

/-- The buffer for the byte planes of data that a frame can record is always found. -/
theorem headerAndBody_of_small (flavor : Flavor) (level : Level) (layout : Layout) {raw : Bytes}
    (small : raw.length < 2 ^ 32) :
    headerAndBody flavor level layout raw = (do
      let (kind, body) := bodyOf level (typesizeOf layout) raw
      let header ← Header.ofBody (flavor.code <<< flagBits ||| kind)
        (UInt8.ofNat (typesizeOf layout)) (UInt32.ofNat raw.length) body.length
      return (header, body)) := by
  have room : reserve raw.length = .ok () := reserve_eq_ok_iff.2 (Nat.lt_trans small (by decide))
  unfold headerAndBody
  rw [room]
  by_cases split : (!level.isNone && splits (typesizeOf layout) raw.length) = true
  · simp only [if_pos split, ok_bind]
  · simp only [if_neg split]

theorem encode_of_small (flavor : Flavor) (level : Level) (layout : Layout) {raw : Bytes}
    (small : raw.length < 2 ^ 32) :
    encode flavor level layout raw = (do
      let (kind, body) := bodyOf level (typesizeOf layout) raw
      let header ← Header.ofBody (flavor.code <<< flagBits ||| kind)
        (UInt8.ofNat (typesizeOf layout)) (UInt32.ofNat raw.length) body.length
      return header.encode ++ body) := by
  unfold encode checkRawSize
  rw [if_pos small, headerAndBody_of_small flavor level layout small]
  simp only [ok_bind, bind_assoc, pure_bind]

/-- A buffer into which a body was stored behind the place of the header, and then the header. -/
theorem writeOnto_storeAll (header : Header) {body buffer : Bytes}
    (room : headerSize + body.length ≤ buffer.length) :
    header.writeOnto (Bytes.storeAll [(headerSize, body)] buffer)
      = header.encode ++ body ++ buffer.drop (headerSize + body.length) := by
  have single : Bytes.written [(headerSize, body)] = body := List.append_nil body
  have adjacent : Bytes.Adjacent headerSize [(headerSize, body)] := ⟨rfl, trivial⟩
  have stored : Bytes.storeAll [(headerSize, body)] buffer
      = Bytes.overwrite headerSize body buffer := by
    rw [Bytes.storeAll_eq_overwrite adjacent (by rwa [single]), single]
  have front : headerSize ≤ buffer.length := Nat.le_trans (Nat.le_add_right _ _) room
  rw [stored, header.writeOnto_eq (by rwa [Bytes.length_overwrite room]),
    Bytes.drop_overwrite front, List.append_assoc]

/-- A buffer that is long enough for the largest frame gets the frame at its front and keeps what
is behind it. -/
theorem compressInto_eq (flavor : Flavor) (level : Level) (layout : Layout) {raw buffer : Bytes}
    (long : largestFrame raw.length ≤ buffer.length) :
    compressInto flavor level layout raw buffer
      = (encode flavor level layout raw).map fun frame =>
        (frame.length, frame ++ buffer.drop frame.length) := by
  unfold compressInto encode checkRawSize
  rw [if_neg (Nat.not_lt.2 long)]
  by_cases small : raw.length < 2 ^ 32
  · have bound := (bodyOf_spec level (typesizeOf layout) raw).length_le
    rw [if_pos small, headerAndBody_of_small flavor level layout small]
    generalize bodyOf level (typesizeOf layout) raw = chosen at bound
    obtain ⟨kind, body⟩ := chosen
    have room : headerSize + body.length ≤ buffer.length := by
      unfold largestFrame at long
      exact Nat.le_trans (Nat.add_le_add_left bound _) (by rwa [Nat.add_comm])
    simp only [ok_bind, bind_assoc, pure_bind]
    cases Header.ofBody (flavor.code <<< flagBits ||| kind) (UInt8.ofNat (typesizeOf layout))
        (UInt32.ofNat raw.length) body.length with
    | error fault => rfl
    | ok header =>
      simp only [ok_bind, writeOnto_storeAll header room]
      simp [pure, Except.pure, Except.map]
  · rw [if_neg small]
    rfl

/-- The buffer that the codec makes itself holds the frame and is cut off behind it. -/
theorem compress_eq (flavor : Flavor) (level : Level) (layout : Layout) (raw : Bytes) :
    compress flavor level layout raw = (do
      reserve (largestFrame raw.length)
      encode flavor level layout raw) := by
  unfold compress zeroed
  cases reserve (largestFrame raw.length) with
  | error fault => rfl
  | ok _ =>
    have long : largestFrame raw.length
        ≤ (List.replicate (largestFrame raw.length) (0 : UInt8)).length :=
      Nat.le_of_eq List.length_replicate.symm
    simp only [ok_bind, pure_bind, compressInto_eq flavor level layout long]
    cases encode flavor level layout raw with
    | error fault => rfl
    | ok frame => exact congrArg Except.ok (List.take_left' rfl)

/-- The header that the codec writes in front of a body. -/
def headerOf (flavor : Flavor) (layout : Layout) (kind : UInt8) (rawSize bodySize : Nat) :
    Header where
  version := currentVersion
  blockVersion := currentBlockVersion
  flags := flavor.code <<< flagBits ||| kind
  typesize := UInt8.ofNat (typesizeOf layout)
  rawSize := UInt32.ofNat rawSize
  blockSize := UInt32.ofNat rawSize
  frameSize := UInt32.ofNat (headerSize + bodySize)

/-- Data that fits has a frame. -/
theorem encode_eq_ok (flavor : Flavor) (level : Level) (layout : Layout) {raw : Bytes}
    (fits : largestFrame raw.length < 2 ^ 32) :
    ∃ frame, encode flavor level layout raw = .ok frame := by
  have bound := (bodyOf_spec level (typesizeOf layout) raw).length_le
  unfold largestFrame at fits
  have room : headerSize + (bodyOf level (typesizeOf layout) raw).2.length < 2 ^ 32 := by omega
  have small : raw.length < 2 ^ 32 := by omega
  rw [encode_of_small flavor level layout small]
  simp only [Header.ofBody, if_pos room, bind, Except.bind, pure, Except.pure]
  exact ⟨_, rfl⟩

/-- A frame is a header and one of the bodies that stand for its data, and the header has room for
both sizes. -/
theorem exists_body_of_encode {flavor : Flavor} {level : Level} {layout : Layout}
    {raw frame : Bytes} (encoded : encode flavor level layout raw = .ok frame) :
    ∃ kind body, BodyOf (typesizeOf layout) raw kind body ∧ raw.length < 2 ^ 32
      ∧ headerSize + body.length < 2 ^ 32
      ∧ frame = (headerOf flavor layout kind raw.length body.length).encode ++ body := by
  refine ⟨_, _, bodyOf_spec level (typesizeOf layout) raw, ?_⟩
  by_cases small : raw.length < 2 ^ 32
  · rw [encode_of_small flavor level layout small] at encoded
    unfold Header.ofBody at encoded
    by_cases room : headerSize + (bodyOf level (typesizeOf layout) raw).2.length < 2 ^ 32
    · simp only [if_pos room, bind, Except.bind, pure, Except.pure, Except.ok.injEq] at encoded
      exact ⟨small, room, encoded.symm⟩
    · simp only [if_neg room, bind, Except.bind, reduceCtorEq] at encoded
  · unfold encode checkRawSize at encoded
    simp only [if_neg small, bind, Except.bind, reduceCtorEq] at encoded

/-! ## Reading -/

theorem typesize_toNat (layout : Layout) :
    (UInt8.ofNat (typesizeOf layout)).toNat = typesizeOf layout := by
  apply UInt8.toNat_ofNat_of_lt'
  unfold typesizeOf
  split
  · next fits => exact Nat.lt_succ_of_le fits.2
  · decide

section

variable (flavor : Flavor) {layout : Layout} {kind : UInt8} {raw body : Bytes}

theorem headerOf_rawSize (layout : Layout) (kind : UInt8) (bodySize : Nat)
    (small : raw.length < 2 ^ 32) :
    (headerOf flavor layout kind raw.length bodySize).rawSize.toNat = raw.length :=
  UInt32.toNat_ofNat_of_lt' small

theorem headerOf_blockSize (layout : Layout) (kind : UInt8) (bodySize : Nat)
    (small : raw.length < 2 ^ 32) :
    (headerOf flavor layout kind raw.length bodySize).blockSize.toNat = raw.length :=
  UInt32.toNat_ofNat_of_lt' small

theorem headerOf_frameSize (layout : Layout) (kind : UInt8) (rawSize : Nat)
    (room : headerSize + body.length < 2 ^ 32) :
    (headerOf flavor layout kind rawSize body.length).frameSize.toNat
      = headerSize + body.length :=
  UInt32.toNat_ofNat_of_lt' room

/-- A body can hold the data that it stands for. -/
theorem BodyOf.canHold (made : BodyOf (typesizeOf layout) raw kind body) :
    canHold (kind == verbatimFlag) body.length raw.length = true := by
  unfold Frame.canHold capacity
  cases made with
  | verbatim => simp
  | block =>
    have := Lz4.length_le_compress raw
    simp [verbatimFlag]
    omega
  | planes =>
    have := Lz4.length_le_compress (Planes.split (typesizeOf layout) raw)
    rw [Planes.length_split] at this
    simp [verbatimFlag, planesFlag]
    omega

/-- The guard of the reader accepts the header of every frame that the writer makes. -/
theorem decode_headerOf (made : BodyOf (typesizeOf layout) raw kind body)
    (small : raw.length < 2 ^ 32) (room : headerSize + body.length < 2 ^ 32) :
    Header.decode ((headerOf flavor layout kind raw.length body.length).encode ++ body)
      = .ok (headerOf flavor layout kind raw.length body.length) := by
  have rawSize := headerOf_rawSize flavor layout kind body.length small
  have frameSize := headerOf_frameSize flavor layout kind raw.length room
  have verbatim : (headerOf flavor layout kind raw.length body.length).isVerbatim
      = (kind == verbatimFlag) := (flags_kind flavor kind made.mem_kinds).1
  have version : (headerOf flavor layout kind raw.length body.length).version = currentVersion :=
    rfl
  have held := made.canHold
  unfold Header.decode
  simp only [Header.fields_encode]
  rw [if_neg (by simp), if_neg (by simp [version]), if_neg (by omega), Header.bodySize, frameSize,
    rawSize, verbatim, Nat.add_sub_cancel_left, if_pos held]

end

/-- The frame of raw bytes decodes to the raw bytes. -/
theorem decode_encode {flavor : Flavor} {level : Level} {layout : Layout} {raw frame : Bytes}
    (encoded : encode flavor level layout raw = .ok frame) : decode frame raw.length = .ok raw := by
  obtain ⟨kind, body, made, small, room, shape⟩ := exists_body_of_encode encoded
  have read := decode_headerOf flavor made small room
  have rawSize := headerOf_rawSize flavor layout kind body.length small
  have frameSize := headerOf_frameSize flavor layout kind raw.length room
  have typesize : (headerOf flavor layout kind raw.length body.length).typesize.toNat
      = typesizeOf layout := typesize_toNat layout
  have flags := flags_kind flavor kind made.mem_kinds
  have verbatim : (headerOf flavor layout kind raw.length body.length).isVerbatim
      = (kind == verbatimFlag) := flags.1
  have split : (headerOf flavor layout kind raw.length body.length).isSplit
      = (kind == planesFlag) := flags.2
  generalize headerOf flavor layout kind raw.length body.length = header at *
  have total : frame.length = headerSize + body.length := by
    rw [shape, List.length_append, Header.length_encode]
  have behind : frame.drop headerSize = body := by
    rw [shape]
    exact List.drop_left' (Header.length_encode header)
  rw [← shape] at read
  have reserved : reserve raw.length = .ok () :=
    reserve_eq_ok_iff.2 (Nat.lt_trans small (by decide))
  unfold decode
  simp only [read, bind, Except.bind, pure, Except.pure, rawSize, frameSize, total, behind,
    verbatim, split, reserved, ne_eq, not_true_eq_false, if_false]
  cases made with
  | verbatim => simp
  | block =>
    have restored := Lz4.expand_compress raw
    simp [verbatimFlag, planesFlag, expandBlock, restored]
  | planes =>
    have restored := Lz4.expand_compress (Planes.split (typesizeOf layout) raw)
    rw [Planes.length_split] at restored
    simp [verbatimFlag, planesFlag, expandBlock, restored, typesize]

end Frame
end ArrayBlob
