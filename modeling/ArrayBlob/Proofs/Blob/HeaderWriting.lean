import ArrayBlob.Blob.Header.RoundTrip
import ArrayBlob.Proofs.Blob.HeaderReading
import ArrayBlob.Proofs.Blob.Sealing

/-!
# Writing headers into a buffer

A header is written by putting each of its parts at its offset into zeroed room behind a buffer.
The parts stand one behind the other, so that what is appended is the written form of the header,
and reading gives back the header and the offset behind it. `Header.written_and_read` adds which
values make a header.
-/

namespace ArrayBlob

/-! ## Values that make a header -/

/-- The number of dimensions and every dimension fit 32 bits with a sign. -/
def InRange (dims : List Nat) : Prop :=
  dims.length ≤ 2147483647 ∧ ∀ dimension ∈ dims, dimension ≤ 2147483647

theorem not_inRange_of_outOfRange {dims : List Nat} (out : OutOfRange dims) : ¬ InRange dims := by
  rintro ⟨few, small⟩
  rcases out with many | ⟨dimension, member, large⟩
  · exact absurd many (by unfold dimensionLimit; omega)
  · have := small dimension member
    exact absurd large (by unfold dimensionLimit; omega)

theorem Dimensions.inRange (dimensions : Dimensions) : InRange dimensions.toList :=
  ⟨Nat.le_of_lt_succ dimensions.length_lt,
    fun dimension member => Nat.le_of_lt_succ (dimensions.lt_limit dimension member)⟩

/-- Dimensions are refused, as an invalid shape, exactly when they are out of range. -/
theorem Dimensions.ofList_cases (dims : List Nat) :
    (InRange dims ∧ ∃ dimensions, ofList dims = .ok dimensions)
      ∨ ¬ InRange dims ∧ ∃ flaw, ofList dims = .error (.invalidShape flaw) := by
  cases made : ofList dims with
  | ok dimensions =>
    have same := toList_of_ofList made
    exact .inl ⟨same ▸ dimensions.inRange, dimensions, rfl⟩
  | error fault =>
    obtain ⟨⟨flaw, rfl⟩, out⟩ := fault_of_ofList made
    exact .inr ⟨not_inRange_of_outOfRange out, flaw, rfl⟩

/-- A name that a header can hold. -/
structure NameFits (name : String) : Prop where
  one_le_length : 1 ≤ (Utf8.encode name).length
  length_le : (Utf8.encode name).length ≤ 12
  noZero : '\x00' ∉ name.toList

/-- A name is refused exactly when no header can hold it. -/
theorem CompressorName.ofText_cases (text : String) :
    (NameFits text ∧ ∃ name, ofText text = .ok name)
      ∨ ¬ NameFits text ∧ ofText text = .error (.unknownCompressor text) := by
  unfold ofText
  by_cases fits : (Utf8.encode text).length ≤ nameWidth ∧ 0 ∉ Utf8.encode text
  · rw [dif_pos fits]
    by_cases empty : text.isEmpty = true
    · rw [if_pos empty]
      rw [← Utf8.length_encode_eq_zero_iff] at empty
      exact .inr ⟨fun held => absurd held.one_le_length (by omega), rfl⟩
    · rw [if_neg empty]
      rw [← Utf8.length_encode_eq_zero_iff] at empty
      exact .inl ⟨⟨Nat.pos_of_ne_zero empty, fits.1, fun zero =>
        fits.2 ((Utf8.zero_mem_encode_iff text).2 zero)⟩, _, rfl⟩
  · rw [dif_neg fits]
    refine .inr ⟨fun held => fits ⟨held.length_le, fun zero => ?_⟩, rfl⟩
    exact held.noZero ((Utf8.zero_mem_encode_iff text).1 zero)

namespace Header

variable {elementType : ElementType} {platform : Platform} {name? : Option String}
  {dims : List Nat} {text : String}

theorem make_of_not_inRange (out : ¬ InRange dims) :
    ∃ flaw, make elementType platform name? dims = .error (.invalidShape flaw) := by
  rcases Dimensions.ofList_cases dims with ⟨range, -⟩ | ⟨-, flaw, refused⟩
  · exact absurd range out
  · exact ⟨flaw, bind_eq_error_iff.2 (.inl refused)⟩

theorem make_of_not_nameFits (range : InRange dims) (unfit : ¬ NameFits text) :
    make elementType platform (some text) dims = .error (.unknownCompressor text) := by
  rcases Dimensions.ofList_cases dims with ⟨-, dimensions, listed⟩ | ⟨out, -⟩
  · rcases CompressorName.ofText_cases text with ⟨fits, -⟩ | ⟨-, refused⟩
    · exact absurd fits unfit
    · exact bind_eq_error_iff.2 (.inr ⟨dimensions, listed, bind_eq_error_iff.2 (.inl refused)⟩)
  · exact absurd range out

theorem exists_make (range : InRange dims) (fits : ∀ name ∈ name?, NameFits name) :
    ∃ header, make elementType platform name? dims = .ok header := by
  rcases Dimensions.ofList_cases dims with ⟨-, dimensions, listed⟩ | ⟨out, -⟩
  · cases name? with
    | none => exact ⟨_, bind_eq_ok_iff.2 ⟨dimensions, listed, rfl⟩⟩
    | some text =>
      rcases CompressorName.ofText_cases text with ⟨-, name, named⟩ | ⟨unfit, -⟩
      · exact ⟨_, bind_eq_ok_iff.2 ⟨dimensions, listed, bind_eq_ok_iff.2 ⟨name, named, rfl⟩⟩⟩
      · exact absurd (fits text rfl) unfit
  · exact absurd range out

/-- Values make a header exactly when the dimensions are in range and the name, if there is one,
fits its field. -/
theorem make_succeeds_iff :
    (∃ header, make elementType platform name? dims = .ok header)
      ↔ InRange dims ∧ ∀ name ∈ name?, NameFits name := by
  constructor
  · rintro ⟨header, made⟩
    have range : InRange dims := (fields_of_make made).2.2.2 ▸ header.dimensions.inRange
    refine ⟨range, ?_⟩
    rintro name ⟨⟩
    refine Classical.byContradiction fun unfit => ?_
    rw [make_of_not_nameFits range unfit] at made
    cases made
  · rintro ⟨range, fits⟩
    exact exists_make range fits

end Header

/-! ## Parts at offsets -/

namespace Bytes

/-- Bytes that are put into zeroed room leave what stands in front of it and the zero bytes on
both sides. -/
theorem overwrite_room {written bytes : Bytes} {offset room : Nat}
    (behind : written.length ≤ offset) (fits : offset + bytes.length ≤ written.length + room) :
    overwrite offset bytes (written ++ List.replicate room 0)
      = written ++ List.replicate (offset - written.length) 0 ++ bytes
        ++ List.replicate (written.length + room - (offset + bytes.length)) 0 := by
  unfold overwrite
  rw [List.take_append, List.drop_append, List.take_of_length_le behind,
    List.drop_of_length_le (by omega), List.take_replicate, List.drop_replicate, List.nil_append,
    Nat.min_eq_left (by omega)]
  congr 2
  omega

/-- The parts stand one behind the other, from a position up to a limit. -/
def InOrder (limit : Nat) : Nat → List (Nat × Bytes) → Prop
  | position, [] => position ≤ limit
  | position, part :: rest =>
    position ≤ part.1 ∧ InOrder limit (part.1 + part.2.length) rest

/-- The bytes from a position up to a limit: the parts at their offsets and zero bytes between
them. -/
def arrange (limit : Nat) : Nat → List (Nat × Bytes) → Bytes
  | position, [] => List.replicate (limit - position) 0
  | position, part :: rest =>
    List.replicate (part.1 - position) 0 ++ part.2
      ++ arrange limit (part.1 + part.2.length) rest

variable {limit position : Nat} {parts : List (Nat × Bytes)}

theorem InOrder.le (ordered : InOrder limit position parts) : position ≤ limit := by
  induction parts generalizing position with
  | nil => exact ordered
  | cons part rest ih =>
    have := ih ordered.2
    have := ordered.1
    omega

/-- Putting parts that stand in order into zeroed room arranges them. -/
theorem foldl_overwrite (buffer written : Bytes) (ordered : InOrder limit position parts)
    (reached : written.length = position) :
    parts.foldl (fun bytes part => overwrite (buffer.length + part.1) part.2 bytes)
        (buffer ++ written ++ List.replicate (limit - position) 0)
      = buffer ++ written ++ arrange limit position parts := by
  -- Behind what was written up to the position, there is zeroed room up to the limit.
  induction parts generalizing position written with
  | nil => rfl
  | cons part rest ih =>
    obtain ⟨behind, ordered⟩ := ordered
    have within := ordered.le
    have front : (buffer ++ written).length = buffer.length + position := by
      rw [List.length_append, reached]
    rw [List.foldl_cons, overwrite_room (by omega) (by omega), front]
    have left : buffer.length + position + (limit - position)
        - (buffer.length + part.1 + part.2.length) = limit - (part.1 + part.2.length) := by
      omega
    have gap : buffer.length + part.1 - (buffer.length + position) = part.1 - position := by
      omega
    have step := ih (written ++ List.replicate (part.1 - position) 0 ++ part.2) ordered (by
      simp only [List.length_append, List.length_replicate]
      omega)
    rw [left, gap]
    simpa only [List.append_assoc, arrange] using step

/-- Fields of one width that stand side by side are in order and arranged without gaps. -/
theorem arrange_fields {width : Nat} {write : Nat → Bytes}
    (full : ∀ value, (write value).length = width) (values : List Nat) (position : Nat) :
    InOrder (position + width * values.length) position
        (values.mapIdx fun index value => (position + width * index, write value))
      ∧ arrange (position + width * values.length) position
        (values.mapIdx fun index value => (position + width * index, write value))
        = values.flatMap write := by
  induction values generalizing position with
  | nil => simp [InOrder, arrange]
  | cons value rest ih =>
    have limit : position + width * (rest.length + 1) = position + width + width * rest.length := by
      rw [Nat.mul_succ]
      omega
    have shifted : (fun index value => (position + width * (index + 1), write value))
        = fun index value => (position + width + width * index, write value) := by
      funext index value
      rw [Nat.mul_succ]
      congr 1
      omega
    obtain ⟨ordered, arranged⟩ := ih (position + width)
    rw [List.mapIdx_cons, List.length_cons, limit, shifted]
    simp only [InOrder, arrange, Nat.mul_zero, Nat.add_zero, Nat.le_refl, true_and, full,
      Nat.sub_self, List.replicate_zero, List.nil_append, List.flatMap_cons, arranged, ordered]

end Bytes

namespace Header

/-! ## Headers -/

variable (header : Header)

/-- The parts of a header stand in order and make its written form. -/
theorem parts_inOrder_arranged :
    Bytes.InOrder header.payloadOffset 0 header.parts
      ∧ Bytes.arrange header.payloadOffset 0 header.parts = header.encode := by
  have tag := header.platform.length_tag
  have fields := Bytes.arrange_fields (LittleEndian.length_encode 4) header.dims
    header.revision.headerSize
  unfold parts payloadOffset Revision.payloadOffset encode encodeName
  cases named : header.compressor with
  | none =>
    have revision : header.revision = .plain := by
      simp [Header.revision, named]
    rw [revision] at fields ⊢
    obtain ⟨ordered, arranged⟩ := fields
    simp only [Option.toList_none, List.map_nil, List.append_nil, List.cons_append,
      List.nil_append, List.append_assoc, List.length_cons, List.length_nil, length_blobMark,
      LittleEndian.length_encode, tag, Bytes.InOrder, Bytes.arrange]
    refine ⟨⟨by decide, by decide, by decide, by decide, by decide, by decide, ordered⟩, ?_⟩
    rw [← arranged]
    rfl
  | some name =>
    have revision : header.revision = .coded := by
      simp [Header.revision, named]
    have short := name.length_le
    rw [revision] at fields ⊢
    obtain ⟨ordered, arranged⟩ := fields
    have room : Revision.coded.countOffset - (commonSize + (Utf8.encode name.text).length)
        = nameWidth - (Utf8.encode name.text).length := by
      rw [← Nat.sub_sub]
      rfl
    simp only [Option.toList_some, List.map_cons, List.map_nil, List.cons_append, List.nil_append,
      List.append_assoc, List.length_cons, List.length_nil, length_blobMark,
      LittleEndian.length_encode, tag, Bytes.InOrder, Bytes.arrange, room, Bytes.padTo]
    refine ⟨⟨by decide, by decide, by decide, by decide, by decide, by decide,
      Nat.add_le_add_left short commonSize, ordered⟩, ?_⟩
    rw [← arranged]
    rfl

/-- A header is written behind a buffer in its written form, and the buffer stays as it is. -/
theorem encodeOnto_eq (buffer : Bytes) : header.encodeOnto buffer = buffer ++ header.encode := by
  obtain ⟨ordered, arranged⟩ := header.parts_inOrder_arranged
  have written := Bytes.foldl_overwrite buffer [] ordered rfl
  rw [arranged, List.append_nil, Nat.sub_zero] at written
  exact written

/-- What was written is read back, with the offset behind it, whatever follows. -/
theorem decodeFront_encode (payload : Bytes) :
    (decodeFront (header.encode ++ payload)).run = some (.ok (header, header.payloadOffset)) := by
  rw [run_decodeFront, decode_encode]
  rfl

/-- Values make a header exactly when the dimensions are in range and the name, if there is one,
fits its field. Otherwise the shape is invalid if the dimensions are out of range, and the name is
unknown if only that does not fit. A header that was made says what it was made of; writing it
leaves the bytes in the buffer as they are and appends as many as its payload offset says, from
which the header and that offset are read back, whatever payload follows. -/
theorem written_and_read (elementType : ElementType) (platform : Platform)
    (name? : Option String) (dims : List Nat) :
    ((∃ header, make elementType platform name? dims = .ok header)
        ↔ InRange dims ∧ ∀ name ∈ name?, NameFits name)
      ∧ (¬ InRange dims →
        ∃ flaw, make elementType platform name? dims = .error (.invalidShape flaw))
      ∧ (InRange dims → ∀ name ∈ name?, ¬ NameFits name →
        make elementType platform name? dims = .error (.unknownCompressor name))
      ∧ ∀ header, make elementType platform name? dims = .ok header →
        (header.elementType = elementType ∧ header.platform = platform
          ∧ header.compressorText = name? ∧ header.dims = dims)
        ∧ ∀ buffer payload : Bytes, ∃ appended : Bytes,
          header.encodeOnto buffer = buffer ++ appended
          ∧ appended.length = header.payloadOffset
          ∧ (decodeFront (appended ++ payload)).run
            = some (.ok (header, header.payloadOffset)) := by
  refine ⟨?_, ?_, ?_, ?_⟩
  · exact make_succeeds_iff
  · exact make_of_not_inRange
  · rintro range name ⟨⟩ unfit
    exact make_of_not_nameFits range unfit
  · intro header made
    refine ⟨fields_of_make made, fun buffer payload => ?_⟩
    exact ⟨header.encode, header.encodeOnto_eq buffer, header.length_encode,
      header.decodeFront_encode payload⟩

end Header
end ArrayBlob
