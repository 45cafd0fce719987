import ArrayBlob.Proofs.Blob.HeaderGrammar
import ArrayBlob.Proofs.Blob.Lossless
import ArrayBlob.Proofs.Frame.Reading
import ArrayBlob.Proofs.Text.LetterCase

/-!
# Bytes of a blob that are not interpreted

A blob has bytes that are parsed and then make no difference: the record of the platform, what
stands behind the name of the compressor, the case of its letters, and some fields of a frame.
`Header.Unread` lists their positions. Two blobs that agree everywhere else are read alike on every
path: the same fault, or the same value with the same revision, statistics and ratio. Only the
mismatch of the platforms tells them apart.
-/

namespace ArrayBlob

/-! ## Positions that are not interpreted -/

/-- The positions of two blobs at which they may differ without being read differently, where the
first has some header. -/
inductive Header.Unread (header : Header) (left right : Bytes) : Nat → Prop
  /-- The record of the platform. -/
  | platform {position : Nat} (start : 20 ≤ position) (stop : position ≤ 31) :
      Unread header left right position
  /-- What stands behind the first zero byte of the name. -/
  | padding {ended position : Nat} (coded : header.revision = .coded) (start : 32 ≤ ended)
      (zero : left[ended]? = some 0) (behind : ended < position) (stop : position ≤ 43) :
      Unread header left right position
  /-- A letter of another case in the name of a coder. -/
  | letterCase {name : String} {coder : Coder} {position : Nat}
      (named : header.compressorText = some name) (known : Coder.ofName? name = some coder)
      (start : 32 ≤ position) (stop : position ≤ 43)
      (same : Utf8.letter (left.getD position 0) = Utf8.letter (right.getD position 0)) :
      Unread header left right position
  /-- What is not read of a frame. -/
  | frame {name : String} {flavor : Flavor} {offset : Nat}
      (named : header.compressorText = some name)
      (known : Coder.ofName? name = some (.lossless flavor))
      (unread : Frame.Unread (left.drop header.payloadOffset) (right.drop header.payloadOffset)
        offset) :
      Unread header left right (header.payloadOffset + offset)

namespace Header

variable {header other : Header} {left right : Bytes} {position : Nat}

theorem revision_of_compressorText {name : String} (named : header.compressorText = some name) :
    header.revision = .coded := by
  rw [revision_eq, named]
  rfl

/-- The payload starts behind the platform record, and behind the name if there is one. -/
theorem le_payloadOffset (header : Header) :
    36 ≤ header.payloadOffset ∧ (header.revision = .coded → 48 ≤ header.payloadOffset) := by
  unfold payloadOffset Revision.payloadOffset
  cases header.revision with
  | plain => exact ⟨Nat.le_add_right 36 _, fun coded => absurd coded (by decide)⟩
  | coded =>
    have name : 48 ≤ Revision.coded.headerSize + 4 * header.dims.length := Nat.le_add_right 48 _
    exact ⟨by omega, fun _ => name⟩

namespace Unread

/-- A position that is not read is in the platform record, in the name or in the payload. -/
theorem position_cases (unread : header.Unread left right position) :
    (20 ≤ position ∧ position ≤ 31)
      ∨ (header.revision = .coded ∧ 32 ≤ position ∧ position ≤ 43)
      ∨ header.payloadOffset ≤ position := by
  cases unread with
  | platform start stop => exact .inl ⟨start, stop⟩
  | padding coded start zero behind stop => exact .inr (.inl ⟨coded, by omega, stop⟩)
  | letterCase named known start stop same =>
    exact .inr (.inl ⟨revision_of_compressorText named, start, stop⟩)
  | frame named known unread => exact .inr (.inr (Nat.le_add_right _ _))

/-- The bytes in front of the platform record are read. -/
theorem not_of_lt (front : position < 20) : ¬ header.Unread left right position := by
  intro unread
  have payload := header.le_payloadOffset.1
  rcases position_cases unread with ⟨start, stop⟩ | ⟨-, start, stop⟩ | start <;> omega

/-- The dimensions and their number are read. -/
theorem not_of_dimensions (start : header.revision.countOffset ≤ position)
    (stop : position < header.payloadOffset) : ¬ header.Unread left right position := by
  intro unread
  rcases position_cases unread with ⟨-, platform⟩ | ⟨coded, -, name⟩ | payload
  · have behind : 32 ≤ header.revision.countOffset := by
      cases header.revision <;> decide
    omega
  · rw [coded] at start
    have behind : 44 ≤ Revision.coded.countOffset := by decide
    omega
  · omega

/-- In the payload only a frame of the lossless codec has positions that are not read. -/
theorem exists_frame (unread : header.Unread left right position)
    (behind : header.payloadOffset ≤ position) :
    ∃ name flavor, header.compressorText = some name
      ∧ Coder.ofName? name = some (.lossless flavor)
      ∧ Frame.Unread (left.drop header.payloadOffset) (right.drop header.payloadOffset)
        (position - header.payloadOffset) := by
  obtain ⟨plain, coded⟩ := header.le_payloadOffset
  cases unread with
  | platform start stop => omega
  | padding revised start zero above stop =>
    have name := coded revised
    omega
  | letterCase named known start stop same =>
    have name := coded (revision_of_compressorText named)
    omega
  | frame named known unread =>
    rw [Nat.add_sub_cancel_left]
    exact ⟨_, _, named, known, unread⟩

/-- The payloads are the same, or frames of the lossless codec that are read alike. -/
theorem payload_of_agreeBut (agree : Bytes.AgreeBut (header.Unread left right) left right) :
    left.drop header.payloadOffset = right.drop header.payloadOffset
      ∨ ∃ name flavor, header.compressorText = some name
        ∧ Coder.ofName? name = some (.lossless flavor)
        ∧ Frame.Alike (left.drop header.payloadOffset) (right.drop header.payloadOffset) := by
  have payload := agree.drop header.payloadOffset
  by_cases framed : ∃ name flavor, header.compressorText = some name
      ∧ Coder.ofName? name = some (.lossless flavor)
  · obtain ⟨name, flavor, named, known⟩ := framed
    refine .inr ⟨name, flavor, named, known, Frame.Unread.alike (payload.mono ?_)⟩
    intro offset unread
    obtain ⟨-, -, -, -, inside⟩ := exists_frame unread (Nat.le_add_right _ _)
    rwa [Nat.add_sub_cancel_left] at inside
  · refine .inl (payload.eq fun offset unread => framed ?_)
    obtain ⟨name, flavor, named, known, -⟩ := exists_frame unread (Nat.le_add_right _ _)
    exact ⟨name, flavor, named, known⟩

/-- A position in the name that is not read is behind a zero byte, or the same letter. -/
theorem name_cases (unread : header.Unread left right position)
    (coded : header.revision = .coded) (start : 32 ≤ position) (stop : position ≤ 43) :
    (∃ ended, 32 ≤ ended ∧ ended < position ∧ left[ended]? = some 0)
      ∨ ∃ name coder, header.compressorText = some name ∧ Coder.ofName? name = some coder
        ∧ Utf8.letter (left.getD position 0) = Utf8.letter (right.getD position 0) := by
  have behind := header.le_payloadOffset.2 coded
  cases unread with
  | platform _ before => omega
  | padding _ first zero above _ => exact .inl ⟨_, first, above, zero⟩
  | letterCase named known _ _ same => exact .inr ⟨_, _, named, known, same⟩
  | frame _ _ _ => omega

/-- Names that agree look the same up to their first zero byte, to whoever does not see what the
positions of letters of another case hide. -/
theorem map_name_of_agreeBut (agree : Bytes.AgreeBut (header.Unread left right) left right)
    (coded : header.revision = .coded) {α : Type} {look : UInt8 → α}
    (apart : ∀ byte, look byte = look 0 → byte = 0)
    (blind : ∀ name coder, header.compressorText = some name → Coder.ofName? name = some coder →
      ∀ byte other, Utf8.letter byte = Utf8.letter other → look byte = look other) :
    (Bytes.untilZero (Bytes.field 32 12 left)).map look
      = (Bytes.untilZero (Bytes.field 32 12 right)).map look := by
  apply Bytes.map_untilZero_congr apart
  · rw [Bytes.length_field, Bytes.length_field, agree.length]
  · intro index
    by_cases inside : index < 12
    · rw [Bytes.getElem?_field inside, Bytes.getElem?_field inside]
      rcases agree.getElem? (32 + index) with same | unread
      · exact .inr (congrArg (Option.map look) same)
      · rcases name_cases unread coded (by omega) (by omega) with
          ⟨ended, first, before, zero⟩ | ⟨name, coder, named, known, same⟩
        · refine .inl ⟨ended - 32, by omega, ?_⟩
          rw [Bytes.getElem?_field (by omega), Nat.add_sub_cancel' first, zero]
        · exact .inr (agree.map_getElem? (blind name coder named known _ _ same))
    · rw [Bytes.field, Bytes.field, List.getElem?_take_eq_none (by omega),
        List.getElem?_take_eq_none (by omega)]
      exact .inr rfl

end Unread

/-! ## Headers of blobs that agree -/

/-- Two headers describe the same data, and their names select the same coder. -/
structure SameContent (header other : Header) : Prop where
  elementType : other.elementType = header.elementType
  dimensions : other.dimensions = header.dimensions
  selection : other.compressorText.map Selection.ofStoredName
    = header.compressorText.map Selection.ofStoredName

section

variable (agree : Bytes.AgreeBut (header.Unread left right) left right)

include agree

theorem FixedPart.of_agreeBut (fixed : FixedPart header.revision.headerSize left) :
    FixedPart header.revision.headerSize right where
  mark := by
    have front : Bytes.field 0 14 left = Bytes.field 0 14 right :=
      agree.field fun position _ stop => Unread.not_of_lt (by omega)
    exact take_eq_blobMark_iff.1 (front.symm.trans (take_eq_blobMark_iff.2 fixed.mark))
  version := by
    rw [← agree.field fun position _ stop => Unread.not_of_lt (by omega)]
    exact fixed.version
  size_eq := fixed.size_eq
  size_le := agree.length ▸ fixed.size_le

theorem decodeElementType_of_agreeBut : decodeElementType right = decodeElementType left := by
  have field : Bytes.field 16 4 left = Bytes.field 16 4 right :=
    agree.field fun position _ stop => Unread.not_of_lt (by omega)
  rw [decodeElementType, decodeElementType, field]

theorem decodeDimensions_of_agreeBut
    (read : decodeDimensions header.revision left = .ok header.dimensions) :
    decodeDimensions header.revision right = .ok header.dimensions := by
  obtain ⟨counted, -, -⟩ := dimensions_of_decodeDimensions read
  have offsets : header.revision.countOffset + 4 = header.revision.headerSize := by
    cases header.revision <;> rfl
  have payload : header.payloadOffset
      = header.revision.headerSize + 4 * header.dimensions.toList.length := rfl
  have count : Bytes.field header.revision.countOffset 4 left
      = Bytes.field header.revision.countOffset 4 right :=
    agree.field fun position start stop => Unread.not_of_dimensions start (by omega)
  have vector : Bytes.field header.revision.headerSize (4 * header.dimensions.toList.length) left
      = Bytes.field header.revision.headerSize (4 * header.dimensions.toList.length) right :=
    agree.field fun position start stop => Unread.not_of_dimensions (by omega) (by omega)
  rw [← read]
  rw [count] at counted
  unfold decodeDimensions
  simp only [count, counted, vector, agree.length]

/-- The name of a blob is read where the other one has a name, and it selects the same coder. -/
theorem exists_decodeName_of_agreeBut {name : CompressorName}
    (named : header.compressor = some name) (read : decodeName left = .ok name) :
    ∃ other, decodeName right = .ok other
      ∧ Selection.ofStoredName other.text = Selection.ofStoredName name.text := by
  have stored : header.compressorText = some name.text := by rw [compressorText, named]; rfl
  have coded := revision_of_compressorText stored
  have written := encode_of_decodeName read
  cases known : Coder.ofName? name.text with
  | none =>
    have same : (Bytes.untilZero (Bytes.field 32 12 left)).map id
        = (Bytes.untilZero (Bytes.field 32 12 right)).map id := by
      refine Unread.map_name_of_agreeBut agree coded (fun _ zero => zero) ?_
      intro text coder again found
      rw [stored] at again
      cases again
      rw [known] at found
      cases found
    rw [List.map_id, List.map_id, ← written] at same
    obtain ⟨other, found, text⟩ := exists_decodeName_of_encode same
    exact ⟨other, found, by rw [text]⟩
  | some coder =>
    have same : (Bytes.untilZero (Bytes.field 32 12 left)).map Utf8.letter
        = (Bytes.untilZero (Bytes.field 32 12 right)).map Utf8.letter :=
      Unread.map_name_of_agreeBut agree coded (fun _ => Utf8.eq_zero_of_letter)
        fun _ _ _ _ _ _ letters => letters
    rw [← written] at same
    obtain ⟨text, encoded, folded⟩ :=
      Utf8.exists_text_of_letters (Coder.foldCase_lt_of_ofName? known) same
    obtain ⟨other, found, again⟩ := exists_decodeName_of_encode encoded
    refine ⟨other, found, ?_⟩
    rw [again, Selection.ofStoredName, Selection.ofStoredName, Coder.ofName?_of_foldCase folded]
    -- The fault for an unknown name would show the case of its letters, but this name is known.
    rw [known]

/-- The compressor of a blob is read where that of the other one is, and selects the same coder. -/
theorem exists_decodeCompressor_of_agreeBut
    (read : decodeCompressor header.revision left = .ok header.compressor) :
    ∃ compressor, decodeCompressor header.revision right = .ok compressor
      ∧ (compressor.map CompressorName.text).map Selection.ofStoredName
        = header.compressorText.map Selection.ofStoredName := by
  obtain ⟨revised, names⟩ := compressor_of_decodeCompressor read
  rw [compressorText]
  cases named : header.compressor with
  | none =>
    rw [revised, named]
    exact ⟨none, rfl, rfl⟩
  | some name =>
    obtain ⟨other, found, same⟩ := exists_decodeName_of_agreeBut agree named (names name named)
    rw [revised, named]
    exact ⟨some other, map_eq_ok_iff.2 ⟨other, found, rfl⟩, congrArg some same⟩

/-- A blob that agrees with one whose header is read has a header of the same content. -/
theorem exists_decode_of_agreeBut (read : decode left = .ok header) :
    ∃ other, decode right = .ok other ∧ header.SameContent other := by
  obtain ⟨fixed, typed, listed, named, long, -⟩ := decode_eq_ok_iff.1 read
  obtain ⟨compressor, found, same⟩ := exists_decodeCompressor_of_agreeBut agree named
  have longAgain : commonSize ≤ right.length := agree.length ▸ long
  let other : Header :=
    ⟨header.elementType, platformOf right longAgain, compressor, header.dimensions⟩
  have revised : other.revision = header.revision :=
    (compressor_of_decodeCompressor found).1.symm
  refine ⟨other, decode_eq_ok_iff.2 ⟨?_, ?_, ?_, ?_, longAgain, rfl⟩, rfl, rfl, same⟩
  · rw [revised]
    exact fixed.of_agreeBut agree
  · rw [decodeElementType_of_agreeBut agree]
    exact typed
  · rw [revised]
    exact decodeDimensions_of_agreeBut agree listed
  · rw [revised]
    exact found

end

end Header

/-! ## Payloads of blobs that agree -/

/-- Frames that are read alike pass the same check. -/
theorem Frame.Alike.checkFraming {left right : Bytes} (alike : Alike left right) (flavor : Flavor)
    (level : Level) (layout : Layout) (rawSize : Nat) :
    (Selection.coded (.lossless flavor) level).checkFraming layout left rawSize
      = (Selection.coded (.lossless flavor) level).checkFraming layout right rawSize := by
  apply alike.decode_bind
  dsimp only
  rw [alike.rawSize, alike.frameSize, alike.length]

namespace Header.SameContent

variable {header other : Header} {left right : Bytes}

theorem revision (same : header.SameContent other) : other.revision = header.revision := by
  have named := congrArg Option.isSome same.selection
  rw [Option.isSome_map, Option.isSome_map] at named
  rw [revision_eq, revision_eq, named]

theorem payloadOffset (same : header.SameContent other) :
    other.payloadOffset = header.payloadOffset := by
  rw [Header.payloadOffset, Header.payloadOffset, same.revision, dims, dims, same.dimensions]

theorem rawSize (same : header.SameContent other) : other.rawSize = header.rawSize := by
  rw [Header.rawSize, Header.rawSize, same.elementType, dims, dims, same.dimensions]

/-- Under headers of the same content, payloads that are the same or frames that are read alike
restore the same raw data, or fail with the same fault. -/
theorem unpackRaw [Exponential] (same : header.SameContent other)
    (payloads : left = right ∨ ∃ name flavor, header.compressorText = some name
      ∧ Coder.ofName? name = some (.lossless flavor) ∧ Frame.Alike left right) :
    other.unpackRaw right = header.unpackRaw left := by
  have selection := same.selection
  unfold Header.unpackRaw
  rw [same.rawSize, same.elementType]
  cases named : header.compressorText with
  | none =>
    rw [named, Option.map_none, Option.map_eq_none_iff] at selection
    rcases payloads with rfl | ⟨name, -, impossible, -⟩
    · rw [selection]
    · rw [named] at impossible
      cases impossible
  | some name =>
    rw [named] at selection
    obtain ⟨again, renamed, found⟩ := Option.map_eq_some_iff.1 selection
    rw [renamed]
    dsimp only
    rw [found]
    rcases payloads with rfl | ⟨text, flavor, stored, known, alike⟩
    · rfl
    · rw [named] at stored
      cases stored
      rw [Selection.ofStoredName, known]
      simp only [ok_bind, alike.checkFraming, alike.length, Selection.unpack, alike.decode]

end Header.SameContent

/-! ## Unpacking -/

/-- Two blobs that agree but at positions that are not interpreted are read alike. If the first has
a header, the second has one too, and behind it the same raw data, whatever platform it records; and
every codec unpacks both to the same value, revision, statistics and ratio, or refuses both for the
same fault. Only the mismatch of the platform is that of the second blob. -/
theorem unpack_of_agreeBut [Exponential] {header : Header} {left right : Bytes}
    (read : Header.decode left = .ok header)
    (agree : Bytes.AgreeBut (header.Unread left right) left right) :
    ∃ other, Header.decode right = .ok other
      ∧ other.unpackRaw (right.drop other.payloadOffset)
        = header.unpackRaw (left.drop header.payloadOffset)
      ∧ ∀ {γ : Type} (codec : Codec γ), codec.unpack right
        = (codec.unpack left).map fun unpacked =>
          { unpacked with mismatch := other.mismatch? } := by
  obtain ⟨other, found, same⟩ := Header.exists_decode_of_agreeBut agree read
  have restored : other.unpackRaw (right.drop other.payloadOffset)
      = header.unpackRaw (left.drop header.payloadOffset) := by
    rw [same.payloadOffset]
    exact same.unpackRaw (Header.Unread.payload_of_agreeBut agree)
  refine ⟨other, found, restored, fun codec => ?_⟩
  have dims : other.dims = header.dims := congrArg Dimensions.toList same.dimensions
  unfold Codec.unpack
  rw [found, read, ok_bind, ok_bind, restored, same.elementType, dims, same.revision]
  -- From here on the steps are the same, up to the mismatch in the last of them.
  cases header.unpackRaw (left.drop header.payloadOffset) with
  | error fault => rfl
  | ok result =>
    dsimp only [ok_bind]
    cases TypedArray.ofBytes header.elementType header.dims result.1 with
    | error fault => rfl
    | ok array =>
      dsimp only [ok_bind]
      cases codec.valueOf array with
      | error fault => rfl
      | ok value => rfl

/-- The header of the packed row of equal bytes. -/
def sevensHeader : Header :=
  ⟨.uint8, Platform.host, some ⟨"lz4hc", by decide, by decide⟩, ⟨[42], by decide, by decide⟩⟩

/-- The blob of the row of equal bytes. -/
def sevensBlob : Bytes :=
  sevensHeader.encode ++ [2, 1, 64, 1, 42, 0, 0, 0, 42, 0, 0, 0, 28, 0, 0, 0,
    31, 7, 1, 0, 16, 96, 7, 7, 7, 7, 7, 7]

/-- The blob with another platform, a name in capitals with other bytes behind it, and a frame with
another version of its block, other flags, element size and block size. -/
def disguisedSevens : Bytes :=
  sevensBlob.take 20 ++ List.replicate 11 65 ++ [66]
    ++ [76, 90, 52, 72, 67, 0, 1, 2, 3, 4, 5, 6]
    ++ Bytes.field 44 8 sevensBlob ++ [2, 9, 252, 200, 42, 0, 0, 0, 1, 2, 3, 4]
    ++ sevensBlob.drop 64

/-- Each difference of the two blobs is at a position that is not interpreted. -/
theorem agreeBut_disguisedSevens :
    Bytes.AgreeBut (sevensHeader.Unread sevensBlob disguisedSevens) sevensBlob
      disguisedSevens where
  length := by decide
  getElem? := by
    have named : sevensHeader.compressorText = some "lz4hc" := rfl
    have known : Coder.ofName? "lz4hc" = some (.lossless .lz4hc) := by decide
    have framed {offset : Nat} (unread : Frame.Unread (sevensBlob.drop 52)
        (disguisedSevens.drop 52) offset) :
        sevensHeader.Unread sevensBlob disguisedSevens (52 + offset) := .frame named known unread
    have differences : ∀ position < 80, sevensBlob[position]? = disguisedSevens[position]?
        ∨ (20 ≤ position ∧ position ≤ 31)
        ∨ (32 ≤ position ∧ position ≤ 43 ∧ Utf8.letter (sevensBlob.getD position 0)
          = Utf8.letter (disguisedSevens.getD position 0))
        ∨ (37 < position ∧ position ≤ 43) ∨ position = 52 + 1 ∨ position = 52 + 2
        ∨ position = 52 + 3 ∨ (60 ≤ position ∧ position ≤ 63) := by
      decide +kernel
    intro position
    by_cases inside : position < 80
    · rcases differences position inside with same | ⟨start, stop⟩ | ⟨start, stop, letter⟩
        | ⟨behind, stop⟩ | rfl | rfl | rfl | ⟨start, stop⟩
      · exact .inl same
      · exact .inr (.platform start stop)
      · exact .inr (.letterCase named known start stop letter)
      · exact .inr (.padding rfl (show 32 ≤ 37 by decide) (by decide) behind stop)
      · exact .inr (framed .blockVersion)
      · exact .inr (framed (.flags (by decide)))
      · exact .inr (framed (.typesize (.inr (by decide))))
      · have size : Frame.Unread (sevensBlob.drop 52) (disguisedSevens.drop 52) (position - 52) :=
          .blockSize (by omega) (by omega)
        have unread := framed size
        rw [Nat.add_sub_cancel' (by omega)] at unread
        exact .inr unread
    · have short : sevensBlob.length = 80 ∧ disguisedSevens.length = 80 := by decide
      rw [List.getElem?_eq_none (by omega), List.getElem?_eq_none (by omega)]
      exact .inl rfl

set_option maxRecDepth 100000 in
/-- The disguised blob is unpacked to the row like the blob itself. -/
theorem unpack_of_agreeBut_disguised :
    Header.decode sevensBlob = .ok sevensHeader
      ∧ Bytes.AgreeBut (sevensHeader.Unread sevensBlob disguisedSevens) sevensBlob disguisedSevens
      ∧ sevensBlob ≠ disguisedSevens
      ∧ ∀ codec : Codec Unit, ∃ unpacked,
        @Codec.unpack .coarse _ codec disguisedSevens = .ok unpacked
          ∧ unpacked.value = .array sevens := by
  let exponential := Exponential.coarse
  have read : Header.decode sevensBlob = .ok sevensHeader := sevensHeader.decode_encode _
  have chosen := chosenPayload?_sevens
  have made : Header.make sevens.elementType Platform.host (some "lz4hc") sevens.dims
      = .ok sevensHeader := rfl
  obtain ⟨ratio, restored⟩ :=
    unpackRaw_lossless rfl sevens.rawSize_eq chosen made (by decide)
  refine ⟨read, agreeBut_disguisedSevens, by decide, fun codec => ?_⟩
  obtain ⟨other, -, -, unpacked⟩ := unpack_of_agreeBut read agreeBut_disguisedSevens
  have type : sevensHeader.elementType = sevens.elementType := rfl
  have dims : sevensHeader.dims = sevens.dims := rfl
  have flat : sevens.elementType ≠ .byteStream := by decide
  have value := codec.unpack_eq_map type dims restored
  rw [codec.valueOf_array flat] at value
  exact ⟨_, (unpacked codec).trans (congrArg _ value), rfl⟩

end ArrayBlob
