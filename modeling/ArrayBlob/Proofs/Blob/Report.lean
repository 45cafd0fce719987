import ArrayBlob.Proofs.Blob.Lossless
import ArrayBlob.Proofs.Blob.Lossy
import ArrayBlob.Proofs.Blob.StreamGate

/-!
# What packing reports

Packing decides once which of two representations to store, and then says so in four places: in the
revision, in the name that the header records, in the size of the blob and in the statistics. All
four follow from the choice of the payload. Unpacking has none of them at hand but the name and the
sizes, and from these it finds the same statistics.
-/

namespace ArrayBlob

/-! ## Stored representations -/

/-- A blob is a header without a name and the raw data, and is reported as uncompressed. -/
structure Packed.StoresPlain (packed : Packed) (header : Header) (raw : Bytes) : Prop where
  revision : packed.revision = .plain
  bytes : packed.bytes = header.encode ++ raw
  unnamed : header.compressorText = none
  statistics : packed.statistics = ⟨.none, raw.length, raw.length, 0⟩

/-- A blob is a header with the name of a selection and a payload, and is reported with the family
of the selection and both sizes. The name is that of a selection of the same family. -/
structure Packed.StoresCoded (packed : Packed) (header : Header) (selection : Selection)
    (raw payload : Bytes) : Prop where
  revision : packed.revision = .coded
  bytes : packed.bytes = header.encode ++ payload
  named : header.compressorText = some selection.name
  resolved : ∃ stored, Selection.ofStoredName selection.name = .ok stored
    ∧ stored.family = selection.family ∧ stored.name = selection.name
  statistics : packed.statistics = ⟨selection.family, raw.length, payload.length, 0⟩

variable {selection : Selection} {elementType : ElementType} {dims : List Nat} {raw : Bytes}
  {coded? : Option Bytes} {header : Header}

theorem Packed.storesPlain_ofChoice
    (made : Header.make elementType Platform.host (selection.chosenName? none) dims
      = .ok header) :
    (ofChoice selection raw header dims.length none).StoresPlain header raw where
  revision := rfl
  bytes := rfl
  unnamed := by
    obtain ⟨-, -, named, -⟩ := Header.fields_of_make made
    exact named
  statistics := rfl

theorem Packed.storesCoded_ofChoice {coder : Coder} {level : Level} {payload : Bytes}
    (made : Header.make elementType Platform.host
      ((Selection.coded coder level).chosenName? (some payload)) dims = .ok header) :
    (ofChoice (.coded coder level) raw header dims.length (some payload)).StoresCoded header
      (.coded coder level) raw payload where
  revision := rfl
  bytes := rfl
  named := by
    obtain ⟨-, -, named, -⟩ := Header.fields_of_make made
    exact named
  resolved := ⟨.coded coder Level.fast, Selection.ofStoredName_name coder, rfl, rfl⟩
  statistics := rfl

section

variable [Exponential]

/-! ## The size of a blob -/

/-- The blob of a chosen payload is never larger than that of the raw data, and of the same size
only if no payload was chosen. -/
theorem chosenSize_eq_iff {dimensionCount : Nat}
    (chosen : selection.chosenPayload? elementType dimensionCount raw = .ok coded?) :
    chosenSize dimensionCount raw.length coded? = 36 + 4 * dimensionCount + raw.length
      ↔ coded? = none := by
  cases coded? with
  | none => simp [chosenSize_none]
  | some payload =>
    obtain ⟨-, -, smaller⟩ := pack_of_chosenPayload? chosen
    rw [chosenSize_some]
    simp only [reduceCtorEq, iff_false]
    unfold nameWidth at smaller
    omega

/-! ## What unpacking finds -/

/-- The statistics with which the raw data behind a header are restored are those of the packing. -/
theorem Header.statistics_of_unpackRaw {data : Bytes} {statistics : Statistics} {ratio : Double}
    (sized : Shape.rawSize elementType dims = .ok raw.length)
    (chosen : selection.chosenPayload? elementType dims.length raw = .ok coded?)
    (made : Header.make elementType Platform.host (selection.chosenName? coded?) dims
      = .ok header)
    (restored : header.unpackRaw (coded?.getD raw) = .ok (data, statistics, ratio)) :
    statistics = (Packed.ofChoice selection raw header dims.length coded?).statistics := by
  obtain ⟨-, -, named, -⟩ := Header.fields_of_make made
  cases coded? with
  | none =>
    obtain ⟨-, -, same, -⟩ := Header.eq_of_unpackRaw_plain named restored
    exact same
  | some payload =>
    obtain ⟨⟨coder, level, rfl⟩, -, -⟩ := pack_of_chosenPayload? chosen
    obtain ⟨again, restores, same, -⟩ := Header.exists_restores named restored
    have described := Header.rawSize_of_make made sized
    have size : raw.length = data.length := Except.ok.inj (described.symm.trans restores.sized)
    -- The name leads back to the coder, but at a level of its own, which no statistics show.
    obtain ⟨name, stored, found⟩ := restores.named
    cases named.symm.trans stored
    cases (Selection.ofStoredName_name coder).symm.trans found
    rw [same, ← size]
    rfl

/-- What a quantizer packs are doubles. -/
theorem Quantizer.doubles_of_compress {mode : Mode} {array : TypedArray} {payload : Bytes}
    (packed : compress mode array.elementType.layout array.data = .ok payload) :
    ∃ values, array.toElements Double = .ok values ∧ encode mode values = .ok payload := by
  rw [compress_eq] at packed
  obtain ⟨⟨⟩, -, packed⟩ := bind_eq_ok_iff.1 packed
  obtain ⟨count, counted, encoded⟩ := bind_eq_ok_iff.1 packed
  obtain ⟨isDouble, -⟩ := doubleCount_eq_ok_iff.1 counted
  have type : array.elementType = .double := of_decide_eq_true isDouble
  exact ⟨_, if_pos type.symm, encoded⟩

/-- Every codec unpacks the blob of an array, unless it is one of a byte stream. -/
theorem Codec.exists_unpack_ofChoice {γ : Type} (codec : Codec γ) {array : TypedArray}
    (flat : array.elementType ≠ .byteStream) (small : array.data.length < 2 ^ 63)
    (chosen : selection.chosenPayload? array.elementType array.dims.length array.data
      = .ok coded?)
    (made : Header.make array.elementType Platform.host (selection.chosenName? coded?) array.dims
      = .ok header)
    (room : chosenSize array.dims.length array.data.length coded? < 2 ^ 63) :
    ∃ unpacked, codec.unpack (header.encode ++ coded?.getD array.data) = .ok unpacked := by
  obtain ⟨type, -, named, listed⟩ := Header.fields_of_make made
  cases coded? with
  | none =>
    have described := Header.rawSize_of_make made array.rawSize_eq
    have restored := Header.unpackRaw_plain named described small
    exact ⟨_, codec.unpack_array flat type listed restored⟩
  | some payload =>
    obtain ⟨⟨coder, level, rfl⟩, packed, -⟩ := pack_of_chosenPayload? chosen
    cases coder with
    | lossless flavor =>
      obtain ⟨ratio, restored⟩ := unpackRaw_lossless rfl array.rawSize_eq chosen made room
      exact ⟨_, codec.unpack_array flat type listed restored⟩
    | quantizer mode =>
      -- The array that is read back is another one here, so `unpack_array` does not apply.
      obtain ⟨values, elements, encoded⟩ := Quantizer.doubles_of_compress packed
      have few : array.dims.length < dimensionLimit := listed ▸ header.length_dims_lt
      have inMemory : array.InMemory := ⟨small, by unfold dimensionLimit at few; omega⟩
      obtain ⟨unpacked, -, -, done, -⟩ :=
        codec.unpack_quantized inMemory elements encoded type listed named
      exact ⟨unpacked, done⟩

/-! ## Packing an array -/

/-- A packed array is stored in the smaller of two representations, and everything that is said of
it follows the choice. The header at the front of the blob has the type and the dimensions of the
array. Without compression the raw data stand behind it. Any other selection has made a payload, and
this is stored exactly if it is shorter than the raw data by more than 12 bytes, which the name in
the header takes; otherwise the raw data are. So the blob is never larger than with the raw data,
and as large only if it has them. Whoever unpacks the blob finds the statistics of its packing, and
every codec can do so if the array is in memory and no byte stream. -/
theorem Settings.packArray_stores_smaller {settings : Settings} {array : TypedArray}
    {packed : Packed} (done : settings.packArray array selection = .ok packed) :
    ∃ header, Header.decode packed.bytes = .ok header
      ∧ header.elementType = array.elementType ∧ header.dims = array.dims
      ∧ (selection = .uncompressed → packed.StoresPlain header array.data)
      ∧ (selection ≠ .uncompressed → ∃ payload,
        selection.pack array.elementType.layout array.data = .ok payload
        ∧ (packed.revision = .coded ↔ payload.length + 12 < array.data.length)
        ∧ (packed.revision = .coded →
          packed.StoresCoded header selection array.data payload)
        ∧ (packed.revision = .plain → packed.StoresPlain header array.data))
      ∧ packed.bytes.length ≤ 36 + 4 * array.dims.length + array.data.length
      ∧ (packed.bytes.length = 36 + 4 * array.dims.length + array.data.length
        ↔ packed.revision = .plain)
      ∧ ∀ {γ : Type} (codec : Codec γ),
        (∀ unpacked, codec.unpack packed.bytes = .ok unpacked →
          unpacked.statistics = packed.statistics)
        ∧ (array.elementType ≠ .byteStream → array.data.length < 2 ^ 63 →
          ∃ unpacked, codec.unpack packed.bytes = .ok unpacked) := by
  obtain ⟨-, done⟩ := packArray_eq_ok done
  obtain ⟨coded?, header, chosen, room, made, rfl⟩ := packRaw_eq_ok done
  obtain ⟨type, -, -, listed⟩ := Header.fields_of_make made
  have read := header.decode_encode (coded?.getD array.data)
  have size : (Packed.ofChoice selection array.data header array.dims.length coded?).bytes.length
      = chosenSize array.dims.length array.data.length coded? :=
    Packed.length_ofChoice made
  rw [size, Packed.bytes_ofChoice]
  refine ⟨header, read, type, listed, ?_, ?_, chosenSize_le chosen, ?_, ?_⟩
  · rintro rfl
    cases chosen
    exact Packed.storesPlain_ofChoice made
  · intro compressed
    rcases cases_of_chosenPayload? chosen with
      ⟨same, -⟩ | ⟨coder, level, payload, rfl, packed, rfl⟩
    · exact absurd same compressed
    · refine ⟨payload, packed, ?_⟩
      by_cases smaller : payload.length + nameWidth < array.data.length
      · rw [if_pos smaller] at made ⊢
        exact ⟨iff_of_true rfl smaller, fun _ => Packed.storesCoded_ofChoice made, nofun⟩
      · rw [if_neg smaller] at made ⊢
        exact ⟨iff_of_false nofun smaller, nofun, fun _ => Packed.storesPlain_ofChoice made⟩
  · rw [chosenSize_eq_iff chosen]
    cases coded? <;> simp [Packed.ofChoice]
  · intro γ codec
    refine ⟨?_, fun flat small => codec.exists_unpack_ofChoice flat small chosen made room⟩
    intro unpacked restored
    obtain ⟨again, data, -, readAgain, raw, -⟩ := Codec.unpack_eq_ok restored
    cases read.symm.trans readAgain
    rw [header.drop_encode_append] at raw
    exact Header.statistics_of_unpackRaw array.rawSize_eq chosen made raw

end

/-- The row of equal bytes gets smaller, which its blob says everywhere. -/
theorem Settings.packArray_stores_smaller_sevens :
    let selection := Selection.coded (.lossless .lz4hc) Level.best
    ∃ packed header payload,
      @packArray .coarse Settings.default sevens selection = .ok packed
      ∧ @Selection.pack .coarse selection sevens.elementType.layout sevens.data = .ok payload
      ∧ Header.decode packed.bytes = .ok header
      ∧ packed.StoresCoded header selection sevens.data payload
      ∧ packed.bytes.length < 36 + 4 * 1 + 42
      ∧ ∀ codec : Codec Unit, ∃ unpacked,
        @Codec.unpack .coarse _ codec packed.bytes = .ok unpacked
          ∧ unpacked.statistics = packed.statistics := by
  intro selection
  let exponential := Exponential.coarse
  have flat : sevens.elementType ≠ .byteStream := by decide
  have small : ¬ Shape.limit ≤ Revision.plain.blobSize sevens.dims.length sevens.data.length := by
    decide
  obtain ⟨packed, done, coded⟩ : ∃ packed,
      packArray Settings.default sevens selection = .ok packed ∧ packed.revision = .coded := by
    rw [packArray_flat _ _ (by decide) flat, packRaw_eq, if_neg small, chosenPayload?_sevens,
      ok_bind]
    exact ⟨_, rfl, rfl⟩
  obtain ⟨header, read, -, -, -, stores, within, full, restored⟩ := packArray_stores_smaller done
  obtain ⟨payload, made, -, stored, -⟩ := stores nofun
  refine ⟨packed, header, payload, done, made, read, stored coded, ?_, ?_⟩
  · refine Nat.lt_of_le_of_ne within fun same => ?_
    rw [full.1 same] at coded
    cases coded
  · intro codec
    obtain ⟨found, reads⟩ := restored codec
    obtain ⟨unpacked, unpackedAs⟩ := reads flat (by decide)
    exact ⟨unpacked, unpackedAs, found unpacked unpackedAs⟩

end ArrayBlob
