import ArrayBlob.Proofs.Blob.Faults
import ArrayBlob.Proofs.Blob.HeaderReading

/-!
# Which blobs start with a header

The grammar of headers is stated by offsets and signed numbers alone, apart from how headers are
read: `Header.FixedPart` for what stands in front of the dimensions, and `Header.WellFormed` for all
of a header. `Header.decodeFront_accepts_wellFormed` says that reading accepts exactly this grammar
and which part of it the fault of a refused blob tells apart.
-/

namespace ArrayBlob
namespace Header

/-! ## The grammar -/

/-- The number that 4 bytes of a blob spell, with its sign. -/
def storedInt (offset : Nat) (blob : Bytes) : Int :=
  LittleEndian.decodeSigned (Bytes.field offset 4 blob)

/-- The part of a header in front of the dimensions is there, with a version that states its
size. -/
structure FixedPart (size : Nat) (blob : Bytes) : Prop where
  mark : blobMark <+: blob
  version : LittleEndian.decodeSigned (Bytes.field 14 2 blob) = size
  size_eq : size = 36 ∨ size = 48
  size_le : size ≤ blob.length

/-- The code of the element type is one of the thirteen. -/
def TypeKnown (blob : Bytes) : Prop :=
  ∃ elementType : ElementType, storedInt 16 blob = elementType.code

/-- A header with a fixed part of some size stands at the start of a blob. -/
structure WellFormed (size : Nat) (blob : Bytes) : Prop extends FixedPart size blob where
  type_known : TypeKnown blob
  count_nonneg : 0 ≤ storedInt (size - 4) blob
  dimensions_le : size + 4 * storedInt (size - 4) blob ≤ blob.length
  dimension_nonneg : ∀ index : Nat, index < storedInt (size - 4) blob →
    0 ≤ storedInt (size + 4 * index) blob
  name_text : size = 48 → ∃ text, Utf8.encode text = Bytes.untilZero (Bytes.field 32 12 blob)

/-- A header says what the fields of a blob with a fixed part of some size spell. -/
structure Spells (size : Nat) (blob : Bytes) (header : Header) : Prop where
  headerSize : header.revision.headerSize = size
  elementType : storedInt 16 blob = header.elementType.code
  platform : header.platform.tag = Bytes.field 20 11 blob
  byteOrder : header.platform.byteOrder = ByteOrder.ofTag (blob.getD 31 0)
  count : storedInt (size - 4) blob = header.dims.length
  dimensions : ∀ index dimension : Nat, header.dims[index]? = some dimension →
    storedInt (size + 4 * index) blob = dimension
  name : ∀ text ∈ header.compressorText,
    Utf8.encode text = Bytes.untilZero (Bytes.field 32 12 blob)

variable {revision : Revision} {size offset : Nat} {blob : Bytes}

theorem storedInt_nonneg_iff (reaches : offset + 4 ≤ blob.length) :
    0 ≤ storedInt offset blob
      ↔ LittleEndian.decode (Bytes.field offset 4 blob) < dimensionLimit := by
  rw [storedInt, LittleEndian.decodeSigned_nonneg_iff, Bytes.length_field_of_le reaches,
    dimensionLimit]
  omega

/-- A number below the limit is the same with a sign. -/
theorem storedInt_of_lt (reaches : offset + 4 ≤ blob.length)
    (small : LittleEndian.decode (Bytes.field offset 4 blob) < dimensionLimit) :
    storedInt offset blob = LittleEndian.decode (Bytes.field offset 4 blob) :=
  LittleEndian.decodeSigned_of_nonneg ((storedInt_nonneg_iff reaches).2 small)

/-! ## The fixed part -/

theorem ofTag_eq_ok_iff {tag : Int} :
    Revision.ofTag tag = .ok revision ↔ tag = revision.headerSize := by
  constructor
  · intro found
    unfold Revision.ofTag at found
    split at found
    · next plain =>
      cases found
      exact plain
    · split at found
      · next coded =>
        cases found
        exact coded
      · cases found
  · rintro rfl
    exact Revision.ofTag_headerSize revision

theorem headerSize_eq (revision : Revision) :
    revision.headerSize = 36 ∨ revision.headerSize = 48 := by
  cases revision with
  | plain => exact .inl rfl
  | coded => exact .inr rfl

theorem exists_revision (sized : size = 36 ∨ size = 48) :
    ∃ revision : Revision, revision.headerSize = size := by
  rcases sized with rfl | rfl
  · exact ⟨.plain, rfl⟩
  · exact ⟨.coded, rfl⟩

/-- The mark stands in front of what is read as a header. -/
theorem take_eq_blobMark_iff : blob.take blobMark.length = blobMark ↔ blobMark <+: blob := by
  rw [List.prefix_iff_eq_take, eq_comm]

/-- Behind a fixed part, the type, the dimensions and the name decide. -/
theorem decode_of_fixedPart (fixed : FixedPart revision.headerSize blob) :
    ∃ long, decode blob = (do
      let elementType ← decodeElementType blob
      let dimensions ← decodeDimensions revision blob
      let compressor ← decodeCompressor revision blob
      return ⟨elementType, platformOf blob long, compressor, dimensions⟩) := by
  have long : commonSize ≤ blob.length := by
    refine Nat.le_trans ?_ fixed.size_le
    cases revision <;> decide
  refine ⟨long, ?_⟩
  unfold decode
  rw [dif_pos long, take_eq_blobMark_iff.2 fixed.mark, ofTag_eq_ok_iff.2 fixed.version]
  simp only [ne_eq, not_true_eq_false, if_false, ok_bind, if_neg (Nat.not_lt.2 fixed.size_le)]

/-- What has no fixed part is refused for its header. -/
theorem decode_without_fixedPart (absent : ∀ size, ¬ FixedPart size blob) :
    ∃ fault, decode blob = .error fault ∧ fault.category = .unsupportedHeader := by
  unfold decode
  by_cases long : commonSize ≤ blob.length
  · rw [dif_pos long]
    by_cases marked : blob.take blobMark.length = blobMark
    · simp only [ne_eq, marked, not_true_eq_false, if_false]
      cases found : Revision.ofTag (LittleEndian.decodeSigned (Bytes.field 14 2 blob)) with
      | error fault => exact ⟨fault, rfl, by simpa using ofTag_failsWithin _ fault found⟩
      | ok revision =>
        have short : blob.length < revision.headerSize := by
          refine Nat.lt_of_not_le fun whole => absent revision.headerSize ?_
          exact ⟨take_eq_blobMark_iff.1 marked, ofTag_eq_ok_iff.1 found, headerSize_eq revision,
            whole⟩
        rw [ok_bind, if_pos short]
        exact ⟨_, rfl, rfl⟩
    · rw [if_pos marked]
      exact ⟨_, rfl, rfl⟩
  · rw [dif_neg long]
    exact ⟨_, rfl, rfl⟩

/-! ## The type, the dimensions and the name -/

theorem code_of_decodeElementType {elementType : ElementType}
    (made : decodeElementType blob = .ok elementType) :
    storedInt 16 blob = elementType.code := by
  unfold decodeElementType ElementType.ofCode at made
  split at made
  · next found code =>
    cases made
    unfold ElementType.ofCode? at code
    have same := List.find?_some code
    exact (beq_iff_eq.1 same).symm
  · cases made

theorem decodeElementType_succeeds_iff :
    (∃ elementType, decodeElementType blob = .ok elementType) ↔ TypeKnown blob := by
  constructor
  · rintro ⟨elementType, made⟩
    exact ⟨elementType, code_of_decodeElementType made⟩
  · rintro ⟨elementType, code⟩
    refine ⟨elementType, ?_⟩
    change ElementType.ofCode (storedInt 16 blob) = _
    rw [code, ElementType.ofCode_code]

/-- The numbers of a vector within the blob, each by its own offset. -/
theorem groups_field {start count : Nat} (reached : start + 4 * count ≤ blob.length) :
    Bytes.groups 4 (Bytes.field start (4 * count) blob)
      = (List.range count).map fun index => Bytes.field (start + 4 * index) 4 blob := by
  rw [Bytes.groups_eq_map, Bytes.length_field, Nat.min_eq_left (by omega),
    Nat.mul_div_cancel_left _ (by decide)]
  apply List.map_congr_left
  intro index below
  rw [List.mem_range] at below
  rw [Nat.mul_comm, Bytes.field_field (by omega)]

/-- A vector within the blob gives dimensions when none of its numbers reaches the limit. -/
theorem ofVector_succeeds_iff {start count : Nat} (reached : start + 4 * count ≤ blob.length)
    {few : (Bytes.field start (4 * count) blob).length < 4 * dimensionLimit} :
    (∃ dimensions, Dimensions.ofVector (Bytes.field start (4 * count) blob) few = .ok dimensions)
      ↔ ∀ index < count,
        LittleEndian.decode (Bytes.field (start + 4 * index) 4 blob) < dimensionLimit := by
  have listed : (∀ dimension ∈ (Bytes.groups 4 (Bytes.field start (4 * count) blob)).map
      LittleEndian.decode, dimension < dimensionLimit) ↔ ∀ index < count,
        LittleEndian.decode (Bytes.field (start + 4 * index) 4 blob) < dimensionLimit := by
    simp only [groups_field reached, List.map_map, List.forall_mem_map, List.mem_range,
      Function.comp_apply]
  rw [← listed]
  unfold Dimensions.ofVector
  constructor
  · rintro ⟨dimensions, made⟩
    dsimp only at made
    split at made
    · next small => exact small
    · cases made
  · intro small
    exact ⟨_, dif_pos small⟩

/-- Dimensions are read when their number and each of them is below the limit and they all are
within the blob. -/
theorem decodeDimensions_succeeds_iff {count : Nat}
    (stored : LittleEndian.decode (Bytes.field revision.countOffset 4 blob) = count) :
    (∃ dimensions, decodeDimensions revision blob = .ok dimensions)
      ↔ count < dimensionLimit ∧ revision.payloadOffset count ≤ blob.length
        ∧ ∀ index < count, LittleEndian.decode
          (Bytes.field (revision.headerSize + 4 * index) 4 blob) < dimensionLimit := by
  unfold decodeDimensions
  dsimp only
  subst stored
  split
  · next few =>
    split
    · next short =>
      refine iff_of_false (not_exists_error_eq_ok _) ?_
      rintro ⟨-, reached, -⟩
      exact absurd short (Nat.not_lt.2 reached)
    · next reached =>
      have reached := Nat.le_of_not_lt reached
      rw [ofVector_succeeds_iff reached]
      constructor
      · intro each
        exact ⟨few, reached, each⟩
      · rintro ⟨-, -, each⟩
        exact each
  · next many =>
    refine iff_of_false (not_exists_error_eq_ok _) ?_
    rintro ⟨few, -⟩
    exact absurd few many

/-- The dimensions that are read, and their number, are those at their offsets. -/
theorem dimensions_of_decodeDimensions {dimensions : Dimensions}
    (made : decodeDimensions revision blob = .ok dimensions) :
    LittleEndian.decode (Bytes.field revision.countOffset 4 blob) = dimensions.toList.length
      ∧ revision.payloadOffset dimensions.toList.length ≤ blob.length
      ∧ dimensions.toList = (List.range dimensions.toList.length).map fun index =>
        LittleEndian.decode (Bytes.field (revision.headerSize + 4 * index) 4 blob) := by
  unfold decodeDimensions at made
  dsimp only at made
  split at made
  · obtain ⟨reached, made⟩ := reject_eq_ok_iff.1 made
    have listed := toList_of_ofVector made
    rw [groups_field (Nat.le_of_not_lt reached), List.map_map] at listed
    have counted := congrArg List.length listed
    rw [List.length_map, List.length_range] at counted
    rw [counted]
    exact ⟨rfl, Nat.le_of_not_lt reached, listed⟩
  · cases made

/-- A name that is read has the bytes that are stored. -/
theorem encode_of_decodeName {name : CompressorName} (made : decodeName blob = .ok name) :
    Utf8.encode name.text = Bytes.untilZero (Bytes.field 32 12 blob) := by
  unfold decodeName CompressorName.ofField at made
  split at made
  · cases made
  · next text decoded =>
    cases made
    exact Utf8.encode_of_decode decoded

/-- A name is read when its bytes are those of a text. -/
theorem decodeName_succeeds_iff :
    (∃ name, decodeName blob = .ok name)
      ↔ ∃ text, Utf8.encode text = Bytes.untilZero (Bytes.field 32 12 blob) := by
  constructor
  · rintro ⟨name, made⟩
    exact ⟨name.text, encode_of_decodeName made⟩
  · rintro ⟨text, same⟩
    have decoded := Utf8.decode_encode text
    rw [same] at decoded
    unfold decodeName CompressorName.ofField
    split
    · next refused =>
      change Utf8.decode (Bytes.untilZero (Bytes.field 32 12 blob)) = none at refused
      rw [decoded] at refused
      cases refused
    · exact ⟨_, rfl⟩

/-- The name that is read is the text that is stored. -/
theorem exists_decodeName_of_encode {text : String}
    (stored : Utf8.encode text = Bytes.untilZero (Bytes.field 32 12 blob)) :
    ∃ name, decodeName blob = .ok name ∧ name.text = text := by
  obtain ⟨name, made⟩ := decodeName_succeeds_iff.2 ⟨text, stored⟩
  exact ⟨name, made, Utf8.encode_injective ((encode_of_decodeName made).trans stored.symm)⟩

theorem decodeCompressor_succeeds_iff :
    (∃ compressor, decodeCompressor revision blob = .ok compressor)
      ↔ (revision.headerSize = 48
        → ∃ text, Utf8.encode text = Bytes.untilZero (Bytes.field 32 12 blob)) := by
  cases revision with
  | plain => exact ⟨fun _ coded => absurd coded (by decide), fun _ => ⟨none, rfl⟩⟩
  | coded =>
    rw [← decodeName_succeeds_iff]
    constructor
    · rintro ⟨compressor, made⟩ -
      obtain ⟨name, found, -⟩ := map_eq_ok_iff.1 made
      exact ⟨name, found⟩
    · intro named
      obtain ⟨name, found⟩ := named rfl
      exact ⟨some name, map_eq_ok_iff.2 ⟨name, found, rfl⟩⟩

/-! ## Parts of a header that is read -/

/-- A header consists of what is read from each part of a blob. -/
structure ReadFrom (blob : Bytes) (header : Header) : Prop where
  fixed : FixedPart header.revision.headerSize blob
  elementType : decodeElementType blob = .ok header.elementType
  dimensions : decodeDimensions header.revision blob = .ok header.dimensions
  compressor : decodeCompressor header.revision blob = .ok header.compressor
  platform : ∃ long, header.platform = platformOf blob long

theorem decode_eq_ok_iff {header : Header} : decode blob = .ok header ↔ ReadFrom blob header := by
  constructor
  · intro made
    have present : ∃ size, FixedPart size blob := by
      refine Classical.byContradiction fun absent => ?_
      obtain ⟨fault, failed, -⟩ := decode_without_fixedPart (not_exists.1 absent)
      rw [made] at failed
      cases failed
    obtain ⟨size, fixed⟩ := present
    obtain ⟨revision, rfl⟩ := exists_revision fixed.size_eq
    obtain ⟨long, steps⟩ := decode_of_fixedPart fixed
    rw [steps] at made
    obtain ⟨elementType, typed, made⟩ := bind_eq_ok_iff.1 made
    obtain ⟨dimensions, listed, made⟩ := bind_eq_ok_iff.1 made
    obtain ⟨compressor, named, same⟩ := bind_eq_ok_iff.1 made
    cases same
    obtain ⟨rfl, -⟩ := compressor_of_decodeCompressor named
    exact ⟨fixed, typed, listed, named, long, rfl⟩
  · rintro ⟨fixed, typed, listed, named, long, placed⟩
    obtain ⟨_, steps⟩ := decode_of_fixedPart fixed
    rw [steps, typed, ok_bind, listed, ok_bind, named, ok_bind, ← placed]
    rfl

/-! ## Acceptance -/

/-- Behind a fixed part, a header is well-formed when its type is known and its dimensions and its
name are read. -/
theorem wellFormed_iff (fixed : FixedPart revision.headerSize blob) :
    WellFormed revision.headerSize blob ↔ TypeKnown blob
      ∧ (∃ dimensions, decodeDimensions revision blob = .ok dimensions)
      ∧ ∃ compressor, decodeCompressor revision blob = .ok compressor := by
  have counted : revision.headerSize - 4 + 4 = revision.headerSize := by
    cases revision <;> rfl
  have nonneg := storedInt_nonneg_iff (Nat.le_trans (Nat.le_of_eq counted) fixed.size_le)
  have unsigned := storedInt_of_lt (Nat.le_trans (Nat.le_of_eq counted) fixed.size_le)
  rw [decodeDimensions_succeeds_iff rfl, decodeCompressor_succeeds_iff, Revision.countOffset,
    Revision.payloadOffset]
  -- Behind its guard, the signed number is the one that is read without a sign.
  constructor
  · intro header
    have same := unsigned (nonneg.1 header.count_nonneg)
    have reached := header.dimensions_le
    refine ⟨header.type_known, ⟨nonneg.1 header.count_nonneg, by omega, ?_⟩, header.name_text⟩
    intro index below
    exact (storedInt_nonneg_iff (by omega)).1 (header.dimension_nonneg index (by omega))
  · rintro ⟨known, ⟨few, reached, each⟩, named⟩
    have same := unsigned few
    refine ⟨fixed, known, nonneg.2 few, by omega, ?_, named⟩
    intro index below
    exact (storedInt_nonneg_iff (by omega)).2 (each index (by omega))

/-- A header that is read says what the fields of the blob spell. -/
theorem spells_of_decode {header : Header} (fixed : FixedPart revision.headerSize blob)
    (made : decode blob = .ok header) : Spells revision.headerSize blob header := by
  obtain ⟨long, steps⟩ := decode_of_fixedPart fixed
  rw [steps] at made
  obtain ⟨elementType, typed, made⟩ := bind_eq_ok_iff.1 made
  obtain ⟨dimensions, listed, made⟩ := bind_eq_ok_iff.1 made
  obtain ⟨compressor, named, same⟩ := bind_eq_ok_iff.1 made
  cases same
  obtain ⟨revised, named⟩ := compressor_of_decodeCompressor named
  obtain ⟨counted, reached, each⟩ := dimensions_of_decodeDimensions listed
  have inside : revision.countOffset + 4 ≤ blob.length := by
    refine Nat.le_trans (Nat.le_of_eq ?_) fixed.size_le
    cases revision <;> rfl
  refine ⟨congrArg Revision.headerSize revised.symm, code_of_decodeElementType typed, rfl, rfl,
    ?_, ?_, ?_⟩
  · have stored := storedInt_of_lt inside (counted ▸ dimensions.length_lt)
    rw [counted] at stored
    exact stored
  · intro index dimension found
    have small := dimensions.lt_limit dimension (List.mem_of_getElem? found)
    have below : index < dimensions.toList.length := (List.getElem?_eq_some_iff.1 found).1
    have here := congrArg (fun dims => dims[index]?) each
    simp only [List.getElem?_map, List.getElem?_range below, Option.map_some] at here
    cases found.symm.trans here
    refine storedInt_of_lt ?_ small
    unfold Revision.payloadOffset at reached
    omega
  · intro text member
    obtain ⟨name, present, same⟩ := Option.map_eq_some_iff.1 member
    rw [← same]
    exact encode_of_decodeName (named name present)

/-- A field that spells a number without a sign is its written form. -/
theorem field_of_decodeSigned {offset width value : Nat} (reaches : offset + width ≤ blob.length)
    (spelled : LittleEndian.decodeSigned (Bytes.field offset width blob) = value) :
    Bytes.field offset width blob = LittleEndian.encode width value := by
  have same := LittleEndian.encode_of_decodeSigned spelled
  rw [Bytes.length_field_of_le reaches] at same
  exact same.symm

/-- Dimensions that were read are stored one behind the other. -/
theorem field_of_decodeDimensions {revision : Revision} {dimensions : Dimensions}
    (read : decodeDimensions revision blob = .ok dimensions) :
    Bytes.field revision.headerSize (4 * dimensions.toList.length) blob
      = dimensions.toList.flatMap (LittleEndian.encode 4) := by
  obtain ⟨-, reached, listed⟩ := dimensions_of_decodeDimensions read
  generalize dimensions.toList.length = count at reached listed ⊢
  unfold Revision.payloadOffset at reached
  have whole : (Bytes.field revision.headerSize (4 * count) blob).length % 4 = 0 := by
    rw [Bytes.length_field_of_le reached]
    omega
  rw [← Bytes.flatten_groups whole, groups_field reached, listed, List.flatMap_map, List.flatMap]
  congr 1
  apply List.map_congr_left
  intro index below
  rw [List.mem_range] at below
  exact (LittleEndian.encode_decode_field (by omega)).symm

/-- The fields of a blob are those of the written form of a header, but for the byte order and the
name, of which reading does not tell all forms apart. -/
structure StoredAs (blob : Bytes) (header : Header) : Prop where
  mark : Bytes.field 0 14 blob = blobMark
  version : Bytes.field 14 2 blob = LittleEndian.encode 2 header.revision.headerSize
  code : Bytes.field 16 4 blob = LittleEndian.encode 4 header.elementType.code
  tag : Bytes.field 20 11 blob = header.platform.tag
  count : Bytes.field header.revision.countOffset 4 blob
    = LittleEndian.encode 4 header.dims.length
  dims : Bytes.field header.revision.headerSize (4 * header.dims.length) blob
    = header.dims.flatMap (LittleEndian.encode 4)

/-- What is read from a blob is stored in it. -/
theorem ReadFrom.storedAs {header : Header} (read : ReadFrom blob header) :
    StoredAs blob header := by
  have spelled := spells_of_decode read.fixed (decode_eq_ok_iff.2 read)
  have reached := read.fixed.size_le
  have size_eq := headerSize_eq header.revision
  exact
    { mark := take_eq_blobMark_iff.2 read.fixed.mark
      version := field_of_decodeSigned (by omega) read.fixed.version
      code := field_of_decodeSigned (by omega) spelled.elementType
      tag := spelled.platform.symm
      count := field_of_decodeSigned (by unfold Revision.countOffset; omega) spelled.count
      dims := field_of_decodeDimensions read.dimensions }

/-- What is read from a blob with a fixed part: it is refused for its type exactly when that is
not known, and accepted exactly when the header is well-formed. -/
theorem decode_cases (fixed : FixedPart revision.headerSize blob) :
    ((∃ header, decode blob = .ok header) ↔ WellFormed revision.headerSize blob)
      ∧ (¬ TypeKnown blob →
        ∃ fault, decode blob = .error fault ∧ fault.category = .unsupportedVariableType)
      ∧ (TypeKnown blob → FailsWithin [.unsupportedHeader] (decode blob)) := by
  obtain ⟨long, steps⟩ := decode_of_fixedPart fixed
  rw [steps, wellFormed_iff fixed]
  refine ⟨⟨?_, ?_⟩, ?_, ?_⟩
  · rintro ⟨header, made⟩
    obtain ⟨elementType, typed, made⟩ := bind_eq_ok_iff.1 made
    obtain ⟨dimensions, listed, made⟩ := bind_eq_ok_iff.1 made
    obtain ⟨compressor, named, -⟩ := bind_eq_ok_iff.1 made
    exact ⟨decodeElementType_succeeds_iff.1 ⟨elementType, typed⟩, ⟨dimensions, listed⟩,
      ⟨compressor, named⟩⟩
  · rintro ⟨known, ⟨dimensions, listed⟩, ⟨compressor, named⟩⟩
    obtain ⟨elementType, typed⟩ := decodeElementType_succeeds_iff.2 known
    rw [typed, ok_bind, listed, ok_bind, named, ok_bind]
    exact ⟨_, rfl⟩
  · intro unknown
    cases typed : decodeElementType blob with
    | error fault =>
      exact ⟨fault, rfl, by simpa using decodeElementType_failsWithin blob fault typed⟩
    | ok elementType =>
      exact absurd (decodeElementType_succeeds_iff.1 ⟨elementType, typed⟩) unknown
  · intro known
    obtain ⟨elementType, typed⟩ := decodeElementType_succeeds_iff.2 known
    rw [typed, ok_bind]
    apply FailsWithin.bind (decodeDimensions_failsWithin revision blob)
    intro dimensions _
    apply FailsWithin.bind (decodeCompressor_failsWithin revision blob)
    intro compressor _
    exact .ok _

/-- A header is read exactly when a well-formed one stands at the start of the blob. -/
theorem decode_succeeds_iff :
    (∃ header, decode blob = .ok header) ↔ ∃ size, WellFormed size blob := by
  constructor
  · rintro ⟨header, made⟩
    by_cases present : ∃ size, FixedPart size blob
    · obtain ⟨size, fixed⟩ := present
      obtain ⟨revision, rfl⟩ := exists_revision fixed.size_eq
      exact ⟨_, (decode_cases fixed).1.1 ⟨header, made⟩⟩
    · obtain ⟨fault, failed, -⟩ := decode_without_fixedPart (not_exists.1 present)
      rw [made] at failed
      cases failed
  · rintro ⟨size, header⟩
    obtain ⟨revision, rfl⟩ := exists_revision header.size_eq
    exact (decode_cases header.toFixedPart).1.2 header

/-- The type is found fault with exactly when the fixed part is there and its code is unknown. -/
theorem decode_refusesType_iff :
    (∃ fault, decode blob = .error fault ∧ fault.category = .unsupportedVariableType)
      ↔ (∃ size, FixedPart size blob) ∧ ¬ TypeKnown blob := by
  constructor
  · rintro ⟨fault, failed, category⟩
    by_cases present : ∃ size, FixedPart size blob
    · refine ⟨present, fun known => ?_⟩
      obtain ⟨size, fixed⟩ := present
      obtain ⟨revision, rfl⟩ := exists_revision fixed.size_eq
      have other := (decode_cases fixed).2.2 known fault failed
      rw [category] at other
      exact absurd other (by decide)
    · obtain ⟨again, refused, other⟩ := decode_without_fixedPart (not_exists.1 present)
      rw [failed] at refused
      cases refused
      rw [category] at other
      cases other
  · rintro ⟨⟨size, fixed⟩, unknown⟩
    obtain ⟨revision, rfl⟩ := exists_revision fixed.size_eq
    exact (decode_cases fixed).2.1 unknown

/-- For every blob, reading field by field has an outcome, so that no field reaches behind the end
of the blob. It gives a header exactly when the blob starts with a well-formed one, and then this
header, with the offset behind its dimensions. It finds fault with the type exactly when the fixed
part is there and the code of the type is unknown, and with the header in every other case. -/
theorem decodeFront_accepts_wellFormed (blob : Bytes) :
    ∃ outcome, (decodeFront blob).run = some outcome
      ∧ ((∃ header payloadOffset, outcome = .ok (header, payloadOffset))
        ↔ ∃ size, WellFormed size blob)
      ∧ (∀ header payloadOffset, outcome = .ok (header, payloadOffset) →
        ∃ size, WellFormed size blob ∧ Spells size blob header
          ∧ payloadOffset = size + 4 * header.dims.length)
      ∧ ((∃ fault, outcome = .error fault ∧ fault.category = .unsupportedVariableType)
        ↔ (∃ size, FixedPart size blob) ∧ ¬ TypeKnown blob)
      ∧ ∀ fault, outcome = .error fault → fault.category ≠ .unsupportedVariableType →
        fault.category = .unsupportedHeader := by
  refine ⟨_, run_decodeFront blob, ?_, ?_, ?_, ?_⟩
  · rw [← decode_succeeds_iff]
    constructor
    · rintro ⟨header, payloadOffset, made⟩
      obtain ⟨header, read, -⟩ := map_eq_ok_iff.1 made
      exact ⟨header, read⟩
    · rintro ⟨header, read⟩
      exact ⟨header, header.payloadOffset, map_eq_ok_iff.2 ⟨header, read, rfl⟩⟩
  · intro header payloadOffset made
    obtain ⟨again, read, same⟩ := map_eq_ok_iff.1 made
    cases same
    obtain ⟨size, wellFormed⟩ := decode_succeeds_iff.1 ⟨header, read⟩
    obtain ⟨revision, rfl⟩ := exists_revision wellFormed.size_eq
    have spelled := spells_of_decode wellFormed.toFixedPart read
    refine ⟨_, wellFormed, spelled, ?_⟩
    rw [← spelled.headerSize]
    rfl
  · simp only [map_eq_error_iff]
    exact decode_refusesType_iff
  · intro fault failed other
    have within := decode_failsWithin blob fault (map_eq_error_iff.1 failed)
    simpa [headerCategories, other] using within

end Header
end ArrayBlob
