import ArrayBlob.Proofs.Blob.HeaderGrammar
import ArrayBlob.Proofs.Blob.Refusals
import ArrayBlob.Proofs.Quantizer.Domain

/-!
# All readers of a blob agree

A blob is read in several ways: it is unpacked to a value, summed up by its header, checked for its
platform, and decoded and coded again to measure the work. Each way reads the header by itself and
makes its checks in an order of its own. What decides about all of them is whether the coder that
the header names restores the payload, and so they agree on arbitrary bytes.
-/

namespace ArrayBlob

/-! ## Headers at the start of a blob -/

/-- A header that was read has its platform from the fields common to both revisions, and its
payload does not start behind the end of the blob. -/
theorem Header.platform_of_decode {blob : Bytes} {header : Header}
    (read : decode blob = .ok header) :
    header.payloadOffset ≤ blob.length ∧ checkPlatform blob = .ok header.mismatch? := by
  unfold decode at read
  split at read
  · next long =>
    obtain ⟨marked, read⟩ := reject_eq_ok_iff.1 read
    obtain ⟨revision, -, read⟩ := bind_eq_ok_iff.1 read
    obtain ⟨-, read⟩ := reject_eq_ok_iff.1 read
    obtain ⟨elementType, -, read⟩ := bind_eq_ok_iff.1 read
    obtain ⟨dimensions, listed, read⟩ := bind_eq_ok_iff.1 read
    obtain ⟨compressor, named, same⟩ := bind_eq_ok_iff.1 read
    cases same
    obtain ⟨rfl, -⟩ := compressor_of_decodeCompressor named
    obtain ⟨-, reached, -⟩ := dimensions_of_decodeDimensions listed
    refine ⟨reached, ?_⟩
    rw [checkPlatform, dif_pos long, if_pos (Decidable.not_not.1 marked)]
    rfl
  · cases read

/-- A header of the second revision names a compressor. -/
theorem Header.exists_name_of_coded {header : Header} (coded : header.revision = .coded) :
    ∃ name, header.compressorText = some name := by
  rw [revision_eq] at coded
  split at coded
  · next stored => exact Option.isSome_iff_exists.1 stored
  · cases coded

section

variable [Exponential] {header : Header} {blob payload : Bytes}

/-! ## Restored payloads -/

namespace Header

/-- If the exponential never gives a number below zero, a quantizer can code again what it
restored. The lossless codec can do so with data that a frame can hold in any case. -/
theorem Restores.exists_pack {coder : Coder} {data : Bytes}
    (restores : header.Restores payload coder data)
    (nonnegative : ∀ x : Double, ¬ (Exponential.exp x).IsBelowZero)
    (small : data.length < 2 ^ 32 - 16 ∨ header.NamesQuantizer) :
    ∃ again, (Selection.coded coder Level.fast).pack header.elementType.layout data
      = .ok again := by
  cases coder with
  | lossless flavor =>
    apply Selection.pack_eq_ok_of_not_isLossy
    · rfl
    · rcases small with small | ⟨name, mode, stored, quantizer⟩
      · unfold Frame.largestFrame Frame.headerSize
        omega
      · obtain ⟨again, named, found⟩ := restores.named
        obtain ⟨coder, lossless, same⟩ := Selection.eq_coded_of_ofStoredName found
        cases same
        cases stored.symm.trans named
        cases quantizer.symm.trans lossless
  | quantizer mode =>
    obtain ⟨count, counted, unpacked⟩ := bind_eq_ok_iff.1 restores.unpacked
    obtain ⟨values, decoded, written⟩ := bind_eq_ok_iff.1 unpacked
    obtain ⟨again, encoded⟩ :=
      Quantizer.exists_encode (Quantizer.inDomain_of_decode nonnegative decoded)
    obtain ⟨doubles, sized⟩ := Quantizer.doubleCount_eq_ok_iff.1 counted
    refine ⟨again, ?_⟩
    rw [Selection.pack, Quantizer.compress_eq_encode mode doubles sized restores.room]
    cases written
    rw [Element.decodeAll_encodeAll, encoded]

end Header

/-! ## Work on coded payloads -/

namespace Inspection

omit [Exponential] in
/-- A blob without the name of a coder gives no work. -/
theorem codedPayload?_of_plain (read : Header.decode blob = .ok header)
    (plain : header.compressorText = none) : codedPayload? blob = .ok none := by
  rw [codedPayload?, read, ok_bind, plain]
  rfl

/-- A payload that is restored passes the checks in front of the work and is decoded. -/
theorem codedPayload?_of_restores {coder : Coder} {data : Bytes}
    (read : Header.decode blob = .ok header)
    (restores : header.Restores (blob.drop header.payloadOffset) coder data) :
    ∃ coded, codedPayload? blob = .ok (some coded) ∧ coded.decode = .ok data
      ∧ coded.selection = .coded coder Level.fast ∧ coded.layout = header.elementType.layout := by
  obtain ⟨name, stored, found⟩ := restores.named
  have reserved : reserve data.length = .ok () := reserve_eq_ok_iff.2 restores.room
  refine ⟨⟨.coded coder Level.fast, header.elementType.layout, data.length,
    blob.drop header.payloadOffset⟩, ?_, ?_, rfl, rfl⟩
  · rw [codedPayload?, read, ok_bind, stored]
    dsimp only
    rw [found, ok_bind, restores.sized, ok_bind, restores.framed]
    rfl
  · rw [CodedPayload.decode, reserved, ok_bind, restores.unpacked]

/-- What is decoded of a blob with a name is restored by the coder of the name. -/
theorem exists_restores_of_decodingWork {name : String} {data? : Option Bytes}
    (read : Header.decode blob = .ok header) (stored : header.compressorText = some name)
    (done : decodingWork blob = .ok data?) :
    ∃ coder data, header.Restores (blob.drop header.payloadOffset) coder data := by
  obtain ⟨coded?, found, done⟩ := bind_eq_ok_iff.1 done
  rw [codedPayload?, read, ok_bind, stored] at found
  obtain ⟨selection, named, found⟩ := bind_eq_ok_iff.1 found
  obtain ⟨coder, -, rfl⟩ := Selection.eq_coded_of_ofStoredName named
  obtain ⟨rawSize, sized, found⟩ := bind_eq_ok_iff.1 found
  obtain ⟨⟨⟩, framed, same⟩ := bind_eq_ok_iff.1 found
  cases same
  obtain ⟨data, decoded, -⟩ := bind_eq_ok_iff.1 done
  obtain ⟨⟨⟩, reserved, unpacked⟩ := bind_eq_ok_iff.1 decoded
  cases Selection.length_of_unpack unpacked
  exact ⟨coder, data, ⟨name, stored, named⟩, sized, reserve_eq_ok_iff.1 reserved, framed, unpacked⟩

/-- What is coded again was decoded before. -/
theorem exists_decodingWork_of_codingWork {payload? : Option Bytes}
    (done : codingWork blob = .ok payload?) : ∃ data?, decodingWork blob = .ok data? := by
  obtain ⟨coded?, found, done⟩ := bind_eq_ok_iff.1 done
  rw [decodingWork, found, ok_bind]
  cases coded? with
  | none => exact ⟨none, rfl⟩
  | some coded =>
    obtain ⟨data, decoded, -⟩ := bind_eq_ok_iff.1 done
    dsimp only
    rw [decoded, ok_bind]
    exact ⟨some data, rfl⟩

theorem exists_decodingWork_of_restores {coder : Coder} {data : Bytes}
    (read : Header.decode blob = .ok header)
    (restores : header.Restores (blob.drop header.payloadOffset) coder data) :
    ∃ data?, decodingWork blob = .ok data? := by
  obtain ⟨coded, found, decoded, -⟩ := codedPayload?_of_restores read restores
  rw [decodingWork, found, ok_bind]
  dsimp only
  rw [decoded]
  exact ⟨some data, rfl⟩

theorem exists_codingWork_of_restores {coder : Coder} {data : Bytes}
    (read : Header.decode blob = .ok header)
    (restores : header.Restores (blob.drop header.payloadOffset) coder data)
    (nonnegative : ∀ x : Double, ¬ (Exponential.exp x).IsBelowZero)
    (small : data.length < 2 ^ 32 - 16 ∨ header.NamesQuantizer) :
    ∃ payload?, codingWork blob = .ok payload? := by
  obtain ⟨coded, found, decoded, selection, layout⟩ := codedPayload?_of_restores read restores
  obtain ⟨again, packed⟩ := restores.exists_pack nonnegative small
  rw [codingWork, found, ok_bind]
  dsimp only
  rw [decoded, ok_bind, selection, layout, packed]
  exact ⟨some again, rfl⟩

end Inspection

/-! ## Summaries -/

/-- A summary says of a blob what unpacking it gave. -/
structure Summary.Describes {γ : Type} (summary : Summary) (blob : Bytes)
    (unpacked : Unpacked γ) : Prop where
  revision : summary.revision = unpacked.revision
  mismatch : summary.mismatch = unpacked.mismatch
  family : summary.family = unpacked.statistics.family
  rawSize : summary.rawSize = unpacked.statistics.raw
  payloadSize : summary.payloadSize = unpacked.statistics.stored
  whole : summary.payloadOffset + summary.payloadSize = blob.length
  ratio : summary.ratio = unpacked.ratio

/-- The summary of a header with the family of its codec and the raw size of its data. -/
def Summary.ofHeader (header : Header) (blob : Bytes) (family : Family) (rawSize : Nat) :
    Summary where
  revision := header.revision
  elementType := header.elementType
  dims := header.dims
  compressor := header.compressorText
  family := family
  platform := header.platform
  mismatch := header.mismatch?
  payloadOffset := header.payloadOffset
  payloadSize := blob.length - header.payloadOffset
  rawSize := rawSize

omit [Exponential] in
theorem Summary.ofBlob_plain {rawSize : Nat} (read : Header.decode blob = .ok header)
    (plain : header.compressorText = none) (sized : header.rawSize = .ok rawSize) :
    ofBlob blob = .ok (ofHeader header blob .none rawSize) := by
  rw [ofBlob, read, ok_bind, ofHeader, plain, sized]
  rfl

theorem Summary.ofBlob_of_restores {coder : Coder} {data : Bytes}
    (read : Header.decode blob = .ok header)
    (restores : header.Restores (blob.drop header.payloadOffset) coder data) :
    ofBlob blob = .ok (ofHeader header blob coder.family data.length) := by
  obtain ⟨name, stored, found⟩ := restores.named
  rw [ofBlob, read, ok_bind, ofHeader, stored]
  dsimp only
  rw [found, restores.sized]
  rfl

namespace Codec

variable {γ : Type} {codec : Codec γ} {unpacked : Unpacked γ}

/-- A blob of a type that every mode restores is unpacked exactly if its raw data are. -/
theorem unpack_succeeds_iff (codec : Codec γ) (read : Header.decode blob = .ok header)
    (flat : header.elementType ≠ .byteStream) :
    (∃ unpacked, codec.unpack blob = .ok unpacked)
      ↔ ∃ data statistics ratio,
        header.unpackRaw (blob.drop header.payloadOffset) = .ok (data, statistics, ratio) := by
  constructor
  · rintro ⟨unpacked, done⟩
    obtain ⟨again, data, array, same, restored, -⟩ := unpack_eq_ok done
    cases read.symm.trans same
    exact ⟨data, _, _, restored⟩
  · rintro ⟨data, statistics, ratio, restored⟩
    obtain ⟨array, made⟩ := Header.ofBytes_of_unpackRaw restored
    obtain ⟨type, -, -⟩ := TypedArray.fields_of_ofBytes made
    rw [unpack, read, ok_bind, restored, ok_bind]
    dsimp only
    rw [made, ok_bind, codec.valueOf_array (type ▸ flat)]
    exact ⟨_, rfl⟩

/-- What was unpacked behind a header with a name is restored by the coder of the name. -/
theorem exists_restores_of_unpack {name : String} (read : Header.decode blob = .ok header)
    (stored : header.compressorText = some name) (done : codec.unpack blob = .ok unpacked) :
    ∃ coder data, header.Restores (blob.drop header.payloadOffset) coder data
      ∧ unpacked.statistics.raw = data.length := by
  obtain ⟨again, data, array, same, restored, -⟩ := unpack_eq_ok done
  cases read.symm.trans same
  obtain ⟨coder, restores, statistics, -⟩ := Header.exists_restores stored restored
  exact ⟨coder, data, restores, by rw [statistics]⟩

/-- Behind a header with a name, a blob of a type that every mode restores is unpacked exactly if
its payload is decoded. -/
theorem exists_decodingWork_iff (codec : Codec γ) {name : String}
    (read : Header.decode blob = .ok header) (stored : header.compressorText = some name)
    (flat : header.elementType ≠ .byteStream) :
    (∃ data?, Inspection.decodingWork blob = .ok data?)
      ↔ ∃ unpacked, codec.unpack blob = .ok unpacked := by
  constructor
  · rintro ⟨data?, done⟩
    obtain ⟨coder, data, restores⟩ :=
      Inspection.exists_restores_of_decodingWork read stored done
    exact (codec.unpack_succeeds_iff read flat).2
      ⟨data, _, _, Header.unpackRaw_of_restores restores⟩
  · rintro ⟨unpacked, done⟩
    obtain ⟨coder, data, restores, -⟩ := exists_restores_of_unpack read stored done
    exact Inspection.exists_decodingWork_of_restores read restores

/-- The summary of a blob describes what was unpacked from it. -/
theorem exists_summary_of_unpack (done : codec.unpack blob = .ok unpacked) :
    ∃ summary, Summary.ofBlob blob = .ok summary ∧ summary.Describes blob unpacked := by
  obtain ⟨header, data, array, read, restored, -, -, revision, mismatch⟩ := unpack_eq_ok done
  obtain ⟨reached, -⟩ := Header.platform_of_decode read
  have whole := Nat.add_sub_cancel' reached
  have size : (blob.drop header.payloadOffset).length = blob.length - header.payloadOffset :=
    List.length_drop
  have kind := header.revision_eq
  cases named : header.compressorText with
  | none =>
    obtain ⟨-, sized, statistics, ratio⟩ := Header.eq_of_unpackRaw_plain named restored
    rw [named] at kind
    refine ⟨_, Summary.ofBlob_plain read named sized, revision.symm, mismatch.symm, ?_, ?_, ?_,
      whole, ?_⟩
    · rw [statistics]
      rfl
    · rw [statistics]
      rfl
    · rw [statistics]
      exact size.symm
    · rw [ratio, Summary.ratio, Summary.ofHeader, kind]
      rfl
  | some name =>
    obtain ⟨coder, restores, statistics, ratio⟩ := Header.exists_restores named restored
    rw [named] at kind
    refine ⟨_, Summary.ofBlob_of_restores read restores, revision.symm, mismatch.symm, ?_, ?_, ?_,
      whole, ?_⟩
    · rw [statistics]
      rfl
    · rw [statistics]
      rfl
    · rw [statistics]
      exact size.symm
    · rw [ratio, size, Summary.ratio, Summary.ofHeader, kind]
      rfl

end Codec

end

/-! ## Agreement -/

/-- If the exponential never gives a number below zero, all readers of a blob agree. When a codec
unpacks it, it has a summary that describes what was unpacked, the check of its platform and its
ratio say the same, and its payload is decoded, and coded again if a frame can hold the data. When
its header names a coder for elements that every mode restores, its payload is decoded exactly if
the blob is unpacked. What is coded again was unpacked, and what was unpacked is coded again if a
frame can hold the data or the coder is a quantizer. -/
theorem readers_agree [Exponential]
    (nonnegative : ∀ x : Double, ¬ (Exponential.exp x).IsBelowZero) (blob : Bytes) {γ : Type}
    (codec : Codec γ) :
    (∀ unpacked, codec.unpack blob = .ok unpacked →
      (∃ summary, Summary.ofBlob blob = .ok summary ∧ summary.Describes blob unpacked)
      ∧ Header.checkPlatform blob = .ok unpacked.mismatch
      ∧ Inspection.ratio blob = .ok unpacked.ratio
      ∧ (∃ data?, Inspection.decodingWork blob = .ok data?)
      ∧ (unpacked.statistics.raw < 2 ^ 32 - 16 →
        ∃ payload?, Inspection.codingWork blob = .ok payload?))
    ∧ ∀ header, Header.decode blob = .ok header → header.revision = .coded →
      header.elementType ≠ .byteStream →
        ((∃ data?, Inspection.decodingWork blob = .ok data?)
          ↔ ∃ unpacked, codec.unpack blob = .ok unpacked)
        ∧ ((∃ payload?, Inspection.codingWork blob = .ok payload?) →
          ∃ unpacked, codec.unpack blob = .ok unpacked)
        ∧ ((∀ rawSize, header.rawSize = .ok rawSize → rawSize < 2 ^ 32 - 16)
            ∨ header.NamesQuantizer →
          (∃ unpacked, codec.unpack blob = .ok unpacked) →
            ∃ payload?, Inspection.codingWork blob = .ok payload?) := by
  constructor
  · intro unpacked done
    obtain ⟨header, -, -, read, -, -, -, -, mismatch⟩ := Codec.unpack_eq_ok done
    obtain ⟨summary, summed, describes⟩ := codec.exists_summary_of_unpack done
    refine ⟨⟨summary, summed, describes⟩, ?_, ?_, ?_⟩
    · rw [mismatch]
      exact (Header.platform_of_decode read).2
    · rw [Inspection.ratio, summed, ← describes.ratio]
      rfl
    · cases named : header.compressorText with
      | none =>
        have idle := Inspection.codedPayload?_of_plain read named
        rw [Inspection.decodingWork, Inspection.codingWork, idle]
        exact ⟨⟨none, rfl⟩, fun _ => ⟨none, rfl⟩⟩
      | some name =>
        obtain ⟨coder, data, restores, raw⟩ := codec.exists_restores_of_unpack read named done
        rw [raw]
        refine ⟨Inspection.exists_decodingWork_of_restores read restores, fun small => ?_⟩
        exact Inspection.exists_codingWork_of_restores read restores nonnegative (.inl small)
  · intro header read coded flat
    obtain ⟨name, named⟩ := Header.exists_name_of_coded coded
    have decodes := codec.exists_decodingWork_iff read named flat
    refine ⟨decodes, ?_, ?_⟩
    · rintro ⟨payload?, done⟩
      exact decodes.1 (Inspection.exists_decodingWork_of_codingWork done)
    · rintro small ⟨unpacked, done⟩
      obtain ⟨coder, data, restores, -⟩ := codec.exists_restores_of_unpack read named done
      exact Inspection.exists_codingWork_of_restores read restores nonnegative
        (small.imp_left fun small => small _ restores.sized)

/-- The header of two doubles behind a payload of the logarithmic quantizer. -/
def loggedPair : Header :=
  ⟨.double, Platform.host, some ⟨"qlog16", by decide, by decide⟩, ⟨[2], by decide, by decide⟩⟩

/-- The payload of one and of the negative zero. -/
def loggedPayload : Bytes :=
  [0, 0, 0, 0, 0, 0, 128, 63, 0, 0, 0xFA, 0xFF]

/-- No value of the coarse exponential is below zero. With it the payload is decoded, and therefore
the blob is unpacked and its data are coded again, though the coder has its name in other
letters. -/
theorem readers_agree_pair :
    (∀ x : Double, ¬ (Exponential.coarse.exp x).IsBelowZero)
      ∧ Header.decode (loggedPair.encode ++ loggedPayload) = .ok loggedPair
      ∧ loggedPair.NamesQuantizer
      ∧ @Inspection.decodingWork .coarse (loggedPair.encode ++ loggedPayload)
        = .ok (some [0, 0, 0, 0, 0, 0, 0xF0, 0x3F, 0, 0, 0, 0, 0, 0, 0, 0x80])
      ∧ (∃ unpacked, @Codec.unpack .coarse _ (Codec.forArrays Settings.default)
        (loggedPair.encode ++ loggedPayload) = .ok unpacked)
      ∧ ∃ payload?, @Inspection.codingWork .coarse (loggedPair.encode ++ loggedPayload)
        = .ok payload? := by
  have nonnegative : ∀ x : Double, ¬ (Exponential.coarse.exp x).IsBelowZero := by
    rintro x ⟨-, -, negative⟩
    revert negative
    change (if x.isNaN then Double.nan
      else if x.orderKey ≤ Exponential.lastFinite.orderKey then Double.ofNat 1
      else Double.infinity false).isNegative ≠ true
    split
    · decide
    · split
      · decide +kernel
      · decide
  have read := loggedPair.decode_encode loggedPayload
  have quantizer : loggedPair.NamesQuantizer := ⟨_, .logarithmic, rfl, by decide⟩
  have decoded : @Inspection.decodingWork .coarse (loggedPair.encode ++ loggedPayload)
      = .ok (some [0, 0, 0, 0, 0, 0, 0xF0, 0x3F, 0, 0, 0, 0, 0, 0, 0, 0x80]) := by
    decide +kernel
  obtain ⟨-, agree⟩ := @readers_agree .coarse nonnegative (loggedPair.encode ++ loggedPayload)
    _ (Codec.forArrays Settings.default)
  obtain ⟨decodes, -, codes⟩ := agree loggedPair read rfl (by decide)
  have unpacked := decodes.1 ⟨_, decoded⟩
  exact ⟨nonnegative, read, quantizer, decoded, unpacked, codes (.inr quantizer) unpacked⟩

end ArrayBlob
