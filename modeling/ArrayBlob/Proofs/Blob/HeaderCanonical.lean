import ArrayBlob.Proofs.Blob.HeaderGrammar
import ArrayBlob.Proofs.Blob.HeaderWriting

/-!
# Headers end where they say

Reading looks at no byte from the payload offset on and needs all bytes in front of it. So a header
is read alike from all blobs that share these bytes, and no header is read from a shorter part of
them. A header that was read is written in the same bytes again but for two places that reading
does not tell apart: the byte of the byte order, and the field of the name behind its first zero.
-/

namespace ArrayBlob
namespace Bytes

variable {bytes other : Bytes} {offset width limit index : Nat}

/-- Byte strings that agree up to a limit have the same fields in front of it. -/
theorem field_eq_of_take_eq (same : other.take limit = bytes.take limit)
    (within : offset + width ≤ limit) : field offset width other = field offset width bytes := by
  have cut (whole : Bytes) : field offset width whole = field offset width (whole.take limit) := by
    unfold field
    rw [List.drop_take, List.take_take, Nat.min_eq_left (by omega)]
  rw [cut other, same, ← cut bytes]

/-- Byte strings with an equal field are equal at every position in it. -/
theorem getElem?_eq_of_field_eq (same : field offset width other = field offset width bytes)
    (start : offset ≤ index) (inside : index < offset + width) : other[index]? = bytes[index]? := by
  have here := congrArg (fun part => part[index - offset]?) same
  simp only [getElem?_field (show index - offset < width by omega)] at here
  rwa [Nat.add_sub_cancel' start] at here

/-- What follows the first zero byte is replaced by zero bytes. -/
theorem getElem?_padTo_untilZero (inside : index < bytes.length) :
    (padTo bytes.length (untilZero bytes))[index]?
      = if 0 ∈ bytes.take index then some 0 else bytes[index]? := by
  induction bytes generalizing index with
  | nil => cases inside
  | cons byte rest ih =>
    by_cases zero : byte = 0
    · subst zero
      have cleared : padTo (rest.length + 1) (untilZero (0 :: rest))
          = List.replicate (rest.length + 1) 0 := rfl
      rw [List.length_cons] at inside ⊢
      rw [cleared, List.getElem?_replicate, if_pos inside]
      cases index <;> simp
    · have kept : padTo (rest.length + 1) (untilZero (byte :: rest))
          = byte :: padTo rest.length (untilZero rest) := by
        simp [padTo, untilZero, zero]
      rw [List.length_cons, kept]
      cases index with
      | zero => rfl
      | succ index =>
        rw [List.getElem?_cons_succ, ih (Nat.lt_of_succ_lt_succ inside)]
        simp [Ne.symm zero]

end Bytes

theorem ByteOrder.tag_ofTag (tag : UInt8) : (ofTag tag).tag = if tag = 66 then 66 else 76 := by
  unfold ofTag
  split
  · next big => rw [if_pos (big.trans (by decide))]; decide
  · next little => rw [if_neg fun same => little (same.trans (by decide))]; decide

@[simp]
theorem Dimensions.ofList_toList (dimensions : Dimensions) :
    ofList dimensions.toList = .ok dimensions := by
  rw [ofList, dif_pos dimensions.length_lt, dif_pos dimensions.lt_limit]

/-- The text of a name that fits is refused only if it is empty. -/
theorem CompressorName.ofText_text (name : CompressorName) :
    ofText name.text = if name.text = "" then .error (.unknownCompressor "") else .ok name := by
  rw [ofText, dif_pos ⟨name.length_le, name.zero_notMem⟩]
  simp only [String.isEmpty_iff]
  split
  · next empty => rw [empty]
  · rfl

theorem Dimensions.toList_inj {dimensions other : Dimensions} :
    dimensions.toList = other.toList ↔ dimensions = other := by
  cases dimensions
  cases other
  simp

namespace Header

variable {blob other : Bytes} {header : Header}

/-! ## What a header is read from -/

/-- Dimensions are read exactly when they and their number are stored at their offsets. -/
theorem decodeDimensions_eq_ok_iff {revision : Revision} {dimensions : Dimensions} :
    decodeDimensions revision blob = .ok dimensions
      ↔ LittleEndian.decode (Bytes.field revision.countOffset 4 blob) = dimensions.toList.length
        ∧ revision.payloadOffset dimensions.toList.length ≤ blob.length
        ∧ dimensions.toList = (List.range dimensions.toList.length).map fun index =>
          LittleEndian.decode (Bytes.field (revision.headerSize + 4 * index) 4 blob) := by
  refine ⟨dimensions_of_decodeDimensions, ?_⟩
  rintro ⟨counted, reached, listed⟩
  have each : ∀ index < dimensions.toList.length,
      LittleEndian.decode (Bytes.field (revision.headerSize + 4 * index) 4 blob)
        < dimensionLimit := by
    intro index below
    apply dimensions.lt_limit
    rw [listed]
    exact List.mem_map_of_mem (List.mem_range.2 below)
  obtain ⟨found, made⟩ := (decodeDimensions_succeeds_iff counted).2
    ⟨dimensions.length_lt, reached, each⟩
  obtain ⟨countedAgain, -, listedAgain⟩ := dimensions_of_decodeDimensions made
  rw [← countedAgain, counted, ← listed] at listedAgain
  rwa [Dimensions.toList_inj.1 listedAgain] at made

/-- A name is read exactly when its bytes are stored. -/
theorem decodeName_eq_ok_iff {name : CompressorName} :
    decodeName blob = .ok name
      ↔ Utf8.encode name.text = Bytes.untilZero (Bytes.field 32 12 blob) :=
  ⟨encode_of_decodeName, fun stored => CompressorName.ofField_eq_ok stored.symm⟩

/-- The same name is read from the same field. -/
theorem decodeCompressor_congr {revision : Revision} {compressor : Option CompressorName}
    (same : revision = .coded → Bytes.field 32 12 other = Bytes.field 32 12 blob)
    (made : decodeCompressor revision blob = .ok compressor) :
    decodeCompressor revision other = .ok compressor := by
  cases revision with
  | plain => exact made
  | coded =>
    obtain ⟨name, found, listed⟩ := map_eq_ok_iff.1 made
    refine map_eq_ok_iff.2 ⟨name, ?_, listed⟩
    rw [decodeName_eq_ok_iff, same rfl]
    exact decodeName_eq_ok_iff.1 found

theorem ReadFrom.payloadOffset_le (read : ReadFrom blob header) :
    header.payloadOffset ≤ blob.length :=
  (dimensions_of_decodeDimensions read.dimensions).2.1

/-- What a header is read from ends at its payload offset. -/
theorem ReadFrom.of_take_eq (read : ReadFrom blob header)
    (same : other.take header.payloadOffset = blob.take header.payloadOffset) :
    ReadFrom other header := by
  have reached : header.payloadOffset ≤ other.length := by
    have sized := congrArg List.length same
    rw [List.length_take, List.length_take, Nat.min_eq_left read.payloadOffset_le] at sized
    omega
  have size_eq := headerSize_eq header.revision
  have front : header.revision.headerSize ≤ header.payloadOffset := Nat.le_add_right _ _
  have counter : header.revision.countOffset + 4 ≤ header.payloadOffset := by
    unfold Revision.countOffset
    omega
  -- Every field that reading looks at ends in front of the payload offset.
  have part (offset width : Nat) (within : offset + width ≤ header.payloadOffset) :
      Bytes.field offset width other = Bytes.field offset width blob :=
    Bytes.field_eq_of_take_eq same within
  obtain ⟨counted, -, listed⟩ := dimensions_of_decodeDimensions read.dimensions
  refine ⟨⟨?_, ?_, size_eq, Nat.le_trans front reached⟩, ?_, ?_, ?_, ?_⟩
  · have mark := part 0 14 (by omega)
    exact take_eq_blobMark_iff.1 (mark.trans (take_eq_blobMark_iff.2 read.fixed.mark))
  · rw [part 14 2 (by omega)]
    exact read.fixed.version
  · rw [decodeElementType, part 16 4 (by omega)]
    exact read.elementType
  · refine decodeDimensions_eq_ok_iff.2
      ⟨(congrArg _ (part _ 4 counter)).trans counted, reached, ?_⟩
    refine listed.trans (List.map_congr_left fun index below => ?_)
    rw [List.mem_range] at below
    rw [part _ 4]
    change _ ≤ header.revision.headerSize + 4 * header.dimensions.toList.length
    omega
  · refine decodeCompressor_congr (fun coded => part 32 12 ?_) read.compressor
    rw [coded] at front
    exact Nat.le_trans (by decide) front
  · obtain ⟨long, placed⟩ := read.platform
    have order : other[31]? = blob[31]? :=
      Bytes.getElem?_eq_of_field_eq (part 31 1 (by omega)) (by omega) (by omega)
    refine ⟨Nat.le_trans (by unfold commonSize; omega) reached, placed.trans ?_⟩
    simp only [platformOf, List.getD_eq_getElem?_getD, order]
    congr 1
    exact (part 20 11 (by omega)).symm

/-- No header is read from a shorter part of what a header was read from, and the fault is one of
the header and not of its type. -/
theorem ReadFrom.decode_take (read : ReadFrom blob header) {size : Nat}
    (short : size < header.payloadOffset) :
    ∃ flaw, decode (blob.take size) = .error (.unsupportedHeader flaw) := by
  have sized : (blob.take size).length = size :=
    List.length_take_of_le (Nat.le_trans (Nat.le_of_lt short) read.payloadOffset_le)
  have shared {limit : Nat} (within : limit ≤ size) :
      blob.take limit = (blob.take size).take limit := by
    rw [List.take_take, Nat.min_eq_left within]
  cases outcome : decode (blob.take size) with
  | ok again =>
    -- A header of the part would be one of the whole, which has another that ends later.
    have readAgain := decode_eq_ok_iff.1 outcome
    have early := readAgain.payloadOffset_le
    rw [sized] at early
    have whole := decode_eq_ok_iff.2 (readAgain.of_take_eq (shared early))
    cases (decode_eq_ok_iff.2 read).symm.trans whole
    exact absurd short (Nat.not_lt.2 early)
  | error fault =>
    have known : ¬ fault.category = .unsupportedVariableType := by
      intro category
      obtain ⟨⟨fixedSize, fixed⟩, unknown⟩ :=
        decode_refusesType_iff.1 ⟨fault, outcome, category⟩
      have reached := fixed.size_le
      have size_eq := fixed.size_eq
      rw [sized] at reached
      have code : Bytes.field 16 4 blob = Bytes.field 16 4 (blob.take size) :=
        Bytes.field_eq_of_take_eq (shared (Nat.le_refl size)) (by omega)
      refine unknown ⟨header.elementType, ?_⟩
      rw [storedInt, ← code]
      exact code_of_decodeElementType read.elementType
    have category := decode_failsWithin (blob.take size) fault outcome
    simp only [headerCategories, List.mem_cons, List.not_mem_nil, or_false, known] at category
    obtain ⟨flaw, rfl⟩ := Fault.category_eq_unsupportedHeader_iff.1 category
    exact ⟨flaw, rfl⟩

/-! ## What a header is written as -/

/-- Bytes are the written form of the header at the start of a blob: the bytes of the header, with
`L` for a byte order that is not `B`, and zero bytes behind the first zero byte of a name. -/
structure CanonicalForm (blob : Bytes) (header : Header) (written : Bytes) : Prop where
  length : written.length = header.payloadOffset
  byteOrder : written[31]? = some (if blob[31]? = some 66 then 66 else 76)
  name : header.revision = .coded → ∀ index < 12, written[32 + index]?
    = if 0 ∈ Bytes.field 32 index blob then some 0 else blob[32 + index]?
  elsewhere : ∀ index < header.payloadOffset, index ≠ 31 →
    (header.revision = .coded → index < 32 ∨ 44 ≤ index) → written[index]? = blob[index]?

/-- A written header reads as itself. -/
theorem readFrom_encode (header : Header) : ReadFrom header.encode header := by
  have read := decode_encode header []
  rw [List.append_nil] at read
  exact decode_eq_ok_iff.1 read

/-- Blobs with the same header have the same bytes in it, but for the byte order and the name. -/
theorem StoredAs.getElem?_eq (stored : StoredAs blob header) (again : StoredAs other header)
    {index : Nat} (inside : index < header.payloadOffset) (order : index ≠ 31)
    (name : header.revision = .coded → index < 32 ∨ 44 ≤ index) : other[index]? = blob[index]? := by
  have equal {offset width : Nat} {part : Bytes} (here : Bytes.field offset width blob = part)
      (there : Bytes.field offset width other = part) (start : offset ≤ index)
      (stop : index < offset + width) : other[index]? = blob[index]? :=
    Bytes.getElem?_eq_of_field_eq (there.trans here.symm) start stop
  have counted : header.revision.countOffset + 4 = header.revision.headerSize := by
    cases header.revision <;> rfl
  -- Behind the byte order and the name, the rest of a header starts with the number of dimensions.
  have split : index < 31 ∨ header.revision.countOffset ≤ index := by
    cases revision : header.revision with
    | plain => exact (Nat.lt_or_ge index 32).imp (by omega) id
    | coded => exact (name revision).imp (by omega) id
  change index < header.revision.headerSize + 4 * header.dims.length at inside
  rcases split with early | late
  · rcases Nat.lt_or_ge index 14 with mark | _
    · exact equal stored.mark again.mark (by omega) (by omega)
    rcases Nat.lt_or_ge index 16 with version | _
    · exact equal stored.version again.version (by omega) (by omega)
    rcases Nat.lt_or_ge index 20 with code | _
    · exact equal stored.code again.code (by omega) (by omega)
    exact equal stored.tag again.tag (by omega) (by omega)
  · rcases Nat.lt_or_ge index header.revision.headerSize with count | dims
    · exact equal stored.count again.count (by omega) (by omega)
    · exact equal stored.dims again.dims dims inside

/-- The byte order that was read is written as one of its two letters. -/
theorem ReadFrom.byteOrder_encode (read : ReadFrom blob header) :
    header.encode[31]? = some (if blob[31]? = some 66 then 66 else 76) := by
  have size_eq := headerSize_eq header.revision
  have long : 31 < blob.length := Nat.lt_of_lt_of_le (by omega) read.fixed.size_le
  have wide : 31 < header.encode.length := by
    rw [header.length_encode]
    exact Nat.lt_of_lt_of_le (by omega) (Nat.le_add_right header.revision.headerSize _)
  obtain ⟨_, placed⟩ := read.platform
  have written := header.getD_encode_byteOrder []
  rw [List.append_nil, placed, List.getD_eq_getElem?_getD, List.getElem?_eq_getElem wide,
    Option.getD_some] at written
  rw [List.getElem?_eq_getElem wide, written, List.getElem?_eq_getElem long]
  simp only [platformOf, List.getD_eq_getElem?_getD, List.getElem?_eq_getElem long,
    Option.getD_some, ByteOrder.tag_ofTag, Option.some.injEq]

/-- A name that was read is written with zero bytes behind it. -/
theorem ReadFrom.name_encode (read : ReadFrom blob header) (coded : header.revision = .coded)
    {index : Nat} (inside : index < 12) :
    header.encode[32 + index]?
      = if 0 ∈ Bytes.field 32 index blob then some 0 else blob[32 + index]? := by
  obtain ⟨name, named⟩ : ∃ name, header.compressor = some name := by
    refine Option.ne_none_iff_exists'.1 fun unnamed => ?_
    rw [revision, unnamed] at coded
    cases coded
  have full : (Bytes.field 32 12 blob).length = 12 := by
    have sized := read.fixed.size_le
    rw [coded, Revision.headerSize, commonSize, nameWidth] at sized
    exact Bytes.length_field_of_le (by omega)
  have field := field_encode_name named []
  rw [List.append_nil, encode_of_decodeName
    ((compressor_of_decodeCompressor read.compressor).2 name named)] at field
  have cleared := Bytes.getElem?_padTo_untilZero (full.symm ▸ inside)
  rw [full] at cleared
  have cut : (Bytes.field 32 12 blob).take index = Bytes.field 32 index blob := by
    rw [Bytes.field, List.take_take, Nat.min_eq_left (Nat.le_of_lt inside)]
    rfl
  rw [← Bytes.getElem?_field inside header.encode, ← Bytes.getElem?_field inside blob, ← cut]
  exact (congrArg (fun part => part[index]?) field).trans cleared

/-- A header that was read is written in its canonical form. -/
theorem ReadFrom.canonicalForm (read : ReadFrom blob header) :
    CanonicalForm blob header header.encode where
  length := header.length_encode
  byteOrder := read.byteOrder_encode
  name coded _ inside := read.name_encode coded inside
  elsewhere _ inside order name :=
    read.storedAs.getElem?_eq header.readFrom_encode.storedAs inside order name

/-- Values that a header holds are refused only for an empty name. -/
theorem make_fields (header : Header) :
    make header.elementType header.platform header.compressorText header.dims
      = if header.compressorText = some "" then .error (.unknownCompressor "") else .ok header := by
  obtain ⟨elementType, platform, compressor, dimensions⟩ := header
  simp only [make, dims, compressorText, Dimensions.ofList_toList, ok_bind]
  cases compressor with
  | none => rfl
  | some name =>
    simp only [Option.map_some, CompressorName.ofText_text, Option.some.injEq]
    split
    · rfl
    · rfl

theorem run_decodeFront_eq_ok_iff {offset : Nat} :
    (decodeFront blob).run = some (.ok (header, offset))
      ↔ ReadFrom blob header ∧ offset = header.payloadOffset := by
  rw [run_decodeFront, Option.some.injEq, map_eq_ok_iff]
  constructor
  · rintro ⟨again, read, same⟩
    cases same
    exact ⟨decode_eq_ok_iff.1 read, rfl⟩
  · rintro ⟨read, rfl⟩
    exact ⟨header, decode_eq_ok_iff.2 read, rfl⟩

/-- A header that is read from a blob is read, with the offset behind it, from every byte string
that shares the bytes in front of the offset, while every shorter part of them is refused for its
header. It is written in as many bytes, which are those of the blob, except that a byte order that
is not `B` becomes `L` and that what follows the first zero byte of a name becomes zero bytes. From
these the same header is read again. It need not be one that can be made: that fails for a header
with an empty name, and only for one. -/
theorem self_delimiting_and_canonical (blob : Bytes) (header : Header) (offset : Nat)
    (decoded : (decodeFront blob).run = some (.ok (header, offset))) :
    offset ≤ blob.length
    ∧ (∀ other : Bytes, other.take offset = blob.take offset →
      (decodeFront other).run = some (.ok (header, offset)))
    ∧ (∀ size < offset, ∃ flaw,
      (decodeFront (blob.take size)).run = some (.error (.unsupportedHeader flaw)))
    ∧ header.payloadOffset = offset
    ∧ CanonicalForm blob header (header.encodeOnto [])
    ∧ (decodeFront (header.encodeOnto [])).run = some (.ok (header, offset))
    ∧ make header.elementType header.platform header.compressorText header.dims
      = (if header.compressorText = some "" then .error (.unknownCompressor "")
        else .ok header) := by
  obtain ⟨read, rfl⟩ := run_decodeFront_eq_ok_iff.1 decoded
  rw [encodeOnto_eq, List.nil_append]
  refine ⟨read.payloadOffset_le, ?_, ?_, rfl, read.canonicalForm, ?_, header.make_fields⟩
  · intro other same
    exact run_decodeFront_eq_ok_iff.2 ⟨read.of_take_eq same, rfl⟩
  · intro size short
    obtain ⟨flaw, refused⟩ := read.decode_take short
    refine ⟨flaw, ?_⟩
    rw [run_decodeFront, refused]
    rfl
  · exact run_decodeFront_eq_ok_iff.2 ⟨header.readFrom_encode, rfl⟩

/-- The header of two doubles from another platform, whose byte order is no letter and whose name
field starts with a zero byte, and a payload. -/
def unnamedBytes : Bytes :=
  blobMark ++ [48, 0, 6, 0, 0, 0] ++ List.replicate 11 65 ++ [63]
    ++ [0, 1, 2, 3, 4, 5, 6, 7, 8, 9, 10, 11] ++ [1, 0, 0, 0, 2, 0, 0, 0] ++ [7, 7, 7]

/-- The header is read, although none with an empty name can be made. It is written with the letter
`L` and a name field of zero bytes, and is read from that again. -/
theorem self_delimiting_and_canonical_unnamed :
    ∃ header, (decodeFront unnamedBytes).run = some (.ok (header, 52))
      ∧ (∃ flaw, (decodeFront (unnamedBytes.take 51)).run
        = some (.error (.unsupportedHeader flaw)))
      ∧ (header.encodeOnto [])[31]? = some 76 ∧ (header.encodeOnto [])[43]? = some 0
      ∧ (decodeFront (header.encodeOnto [])).run = some (.ok (header, 52))
      ∧ make header.elementType header.platform header.compressorText header.dims
        = .error (.unknownCompressor "") := by
  have seen : (decode unnamedBytes).toOption.map (fun header => (header.payloadOffset,
      header.compressorText, header.revision)) = some (52, some "", .coded) := by
    decide +kernel
  cases read : decode unnamedBytes with
  | error fault =>
    rw [read] at seen
    cases seen
  | ok header =>
    rw [read] at seen
    obtain ⟨offset, text, coded⟩ : header.payloadOffset = 52 ∧ header.compressorText = some ""
        ∧ header.revision = .coded := by
      simpa [Except.toOption] using seen
    have decoded : (decodeFront unnamedBytes).run = some (.ok (header, 52)) := by
      rw [run_decodeFront, read, ← offset]
      rfl
    obtain ⟨-, -, parts, -, canonical, again, made⟩ := self_delimiting_and_canonical _ _ _ decoded
    refine ⟨header, decoded, parts 51 (by decide), ?_, ?_, again, ?_⟩
    · rw [canonical.byteOrder]
      decide
    · rw [canonical.name coded 11 (by decide)]
      decide
    · rw [made, if_pos text]

end Header
end ArrayBlob
