import ArrayBlob.Proofs.Blob.Elements
import ArrayBlob.Proofs.Blob.HeaderWriting
import ArrayBlob.Proofs.Blob.Refusals
import ArrayBlob.Proofs.Quantizer.Domain

/-!
# The lossy pipeline

What becomes of an array that is packed by a quantizer. Elements that are no doubles are refused,
however few there are, and doubles are refused if they are outside the domain of the mode. All
others are packed. A quantized payload makes the blob smaller from four elements on; up to three the
array is stored as it is. From a quantized blob every codec restores an array of the same shape,
with special values as they were and each other element as the value of its code.
-/

namespace ArrayBlob

/-- The bytes and the dimensions of an array are in memory, where no buffer has `2 ^ 63` bytes or
more. -/
structure TypedArray.InMemory (array : TypedArray) : Prop where
  data : array.data.length < 2 ^ 63
  dims : 8 * array.dims.length < 2 ^ 63

/-- An array with doubles as elements has their type and 8 bytes for each of them. -/
theorem TypedArray.doubles_of_toElements {array : TypedArray} {values : List Double}
    (elements : array.toElements Double = .ok values) :
    array.elementType = .double ∧ Element.decodeAll array.data = values
      ∧ array.data.length = 8 * values.length := by
  obtain ⟨type, same, sized⟩ := fields_of_toElements elements
  exact ⟨type, same, sized⟩

/-! ## Sealing -/

namespace Settings

variable {elementType : ElementType} {dims : List Nat} {raw : Bytes} {selection : Selection}
  {coded? : Option Bytes}

/-- Within the limit and the range of the dimensions, a payload with the name of a coder is
sealed. -/
theorem exists_seal {coder? : Option Coder} (settings : Settings) (elementType : ElementType)
    (range : InRange dims) (named : selection.chosenName? coded? = coder?.map Coder.name)
    (within : chosenSize dims.length raw.length coded? ≤ settings.maxBlobSize.toNat)
    (room : chosenSize dims.length raw.length coded? < 2 ^ 63) :
    ∃ header, Header.make elementType Platform.host (selection.chosenName? coded?) dims
        = .ok header
      ∧ settings.seal elementType dims raw selection coded?
        = .ok (Packed.ofChoice selection raw header dims.length coded?) := by
  cases made : Header.make elementType Platform.host (selection.chosenName? coded?) dims with
  | error fault =>
    rw [named] at made
    exact absurd range (not_inRange_of_outOfRange (Header.fault_of_make made).2)
  | ok header =>
    refine ⟨header, rfl, ?_⟩
    rw [Settings.seal, if_neg (Nat.not_lt.2 within), made, ok_bind, reserve_eq_ok_iff.2 room]
    rfl

/-- Dimensions out of range are refused as an invalid shape. -/
theorem seal_of_not_inRange (settings : Settings) (out : ¬ InRange dims)
    (within : chosenSize dims.length raw.length coded? ≤ settings.maxBlobSize.toNat) :
    ∃ flaw, settings.seal elementType dims raw selection coded?
      = .error (.invalidShape flaw) := by
  obtain ⟨flaw, refused⟩ : ∃ flaw,
      Header.make elementType Platform.host (selection.chosenName? coded?) dims
        = .error (.invalidShape flaw) :=
    Header.make_of_not_inRange out
  refine ⟨flaw, ?_⟩
  rw [Settings.seal, if_neg (Nat.not_lt.2 within), refused]
  rfl

end Settings

section

variable [Exponential] {mode : Mode} {values : List Double} {payload raw : Bytes}

/-! ## The choice of the payload -/

/-- Elements that are no doubles are refused, whatever their bytes. -/
theorem Quantizer.compress_of_not_isDouble {layout : Layout} (mode : Mode)
    (other : layout.isDouble = false) (small : raw.length < 2 ^ 63) :
    compress mode layout raw = .error (.compressorArgument .notDoubles) := by
  rw [compress_eq, reserve_payloadSize small, ok_bind, doubleCount, other]
  rfl

/-- The payload of some doubles makes the blob smaller exactly if there are at least four. -/
theorem smallerPayload?_encode (encoded : Quantizer.encode mode values = .ok payload)
    (dimensionCount : Nat) :
    smallerPayload? dimensionCount (8 * values.length) payload
      = if 4 ≤ values.length then some payload else none := by
  have smaller : payload.length + nameWidth < 8 * values.length ↔ 4 ≤ values.length := by
    rw [Quantizer.length_of_encode encoded, Quantizer.payloadSize, Quantizer.preludeSize,
      Quantizer.codeSize, nameWidth]
    omega
  simp only [smallerPayload?_eq, smaller]

/-- The header of the second revision, the prelude and the codes of some doubles. -/
theorem chosenSize_encode (encoded : Quantizer.encode mode values = .ok payload)
    (dimensionCount rawSize : Nat) :
    chosenSize dimensionCount rawSize (some payload)
      = 56 + 4 * dimensionCount + 2 * values.length := by
  rw [chosenSize_some, Quantizer.length_of_encode encoded, Quantizer.payloadSize,
    Quantizer.preludeSize, Quantizer.codeSize]
  omega

/-! ## Packing -/

namespace Settings

variable {settings : Settings} {array : TypedArray}

/-- An array in memory is packed in two steps. -/
theorem packArray_of_inMemory (settings : Settings) (selection : Selection)
    (on : settings.mode ≠ .off) (flat : array.elementType ≠ .byteStream)
    (inMemory : array.InMemory) :
    settings.packArray array selection
      = selection.chosenPayload? array.elementType array.dims.length array.data
        >>= settings.seal array.elementType array.dims array.data selection := by
  have fits : ¬ Shape.limit
      ≤ Revision.plain.blobSize array.dims.length array.data.length := by
    obtain ⟨data, dims⟩ := inMemory
    simp only [Shape.limit, Revision.blobSize, Revision.payloadOffset, Revision.headerSize,
      commonSize]
    omega
  rw [settings.packArray_flat selection on flat, packRaw_eq, if_neg fits]

theorem packArray_of_not_double (settings : Settings) (mode : Mode) (level : Level)
    (on : settings.mode ≠ .off) (flat : array.elementType ≠ .byteStream)
    (inMemory : array.InMemory) (other : array.elementType ≠ .double) :
    settings.packArray array (.coded (.quantizer mode) level)
      = .error (.compressorArgument .notDoubles) := by
  have single : array.elementType.layout.isDouble = false := decide_eq_false other
  have refused := Quantizer.compress_of_not_isDouble mode single inMemory.data
  rw [settings.packArray_of_inMemory _ on flat inMemory]
  unfold Selection.chosenPayload? Selection.pack
  dsimp only
  rw [refused]
  rfl

/-- Packing doubles by a quantizer seals their payload if there are at least four of them. -/
theorem packArray_doubles (settings : Settings) (mode : Mode) (level : Level)
    (on : settings.mode ≠ .off) (inMemory : array.InMemory)
    (elements : array.toElements Double = .ok values) :
    settings.packArray array (.coded (.quantizer mode) level)
      = (Quantizer.encode mode values).map
          (fun payload => if 4 ≤ values.length then some payload else none)
        >>= settings.seal array.elementType array.dims array.data
          (.coded (.quantizer mode) level) := by
  obtain ⟨type, same, sized⟩ := TypedArray.doubles_of_toElements elements
  have flat : array.elementType ≠ .byteStream := by
    rw [type]
    decide
  have double : array.elementType.layout.isDouble = true := decide_eq_true type
  have packed := Quantizer.compress_eq_encode mode double sized inMemory.data
  rw [settings.packArray_of_inMemory _ on flat inMemory]
  unfold Selection.chosenPayload? Selection.pack
  dsimp only
  rw [packed, same, sized]
  cases encoded : Quantizer.encode mode values with
  | error fault => rfl
  | ok payload =>
    have kept := smallerPayload?_encode encoded array.dims.length
    simp only [Except.map, kept]
    rfl

/-- Doubles outside the domain of the mode are refused for it, whatever the limit. -/
theorem packArray_of_not_inDomain (settings : Settings) (level : Level)
    (on : settings.mode ≠ .off) (inMemory : array.InMemory)
    (elements : array.toElements Double = .ok values)
    (outside : ¬ Quantizer.InDomain mode values) :
    settings.packArray array (.coded (.quantizer mode) level)
      = .error (.compressorDomain .negativeValue) := by
  rw [settings.packArray_doubles mode level on inMemory elements,
    Quantizer.encode_of_not_inDomain outside]
  rfl

end Settings

/-! ## Restoring -/

namespace Quantizer

/-- A payload of some doubles is read back as others: as many, with special values as they were and
each of them as the value of its code under the stored scaling. -/
structure ReadsBack (mode : Mode) (payload : Bytes) (values after : List Double) : Prop where
  encoded : encode mode values = .ok payload
  length : after.length = values.length
  special : ∀ (index : Nat) (x y : Double), values[index]? = some x → after[index]? = some y →
    RestoredAs x y
  scaled : ∃ stored, decodePrelude payload = .ok stored
    ∧ ∀ (index : Nat) (y : Double), after[index]? = some y →
      valueOf mode stored (UInt16.ofNat (codeAt payload index)) = .ok y

/-- What is read from a payload is the values of its codes, one by one. -/
theorem valueOf_codeAt_of_decode {count : Nat} {after : List Double}
    (decoded : decode mode payload count = .ok after) :
    ∃ stored, decodePrelude payload = .ok stored
      ∧ ∀ (index : Nat) (y : Double), after[index]? = some y →
        valueOf mode stored (UInt16.ofNat (codeAt payload index)) = .ok y := by
  have counted := length_of_decode decoded
  obtain ⟨⟨⟩, required, decoded⟩ := bind_eq_ok_iff.1 decoded
  obtain ⟨stored, prelude, decoded⟩ := bind_eq_ok_iff.1 decoded
  obtain ⟨-, sized⟩ := requireSize_eq_ok_iff.1 required
  refine ⟨stored, prelude, ?_⟩
  intro index y found
  have each := mapM_eq_ok_iff.1 decoded
  have below : index < count := counted ▸ (List.getElem?_eq_some_iff.1 found).1
  rw [codes_eq_map sized] at each
  have here := congrArg (fun results => results[index]?) each
  simpa only [List.getElem?_map, List.getElem?_range below, found, Option.map_some,
    Option.some.injEq] using here

/-- A payload that was written can be read back. -/
theorem exists_readsBack (encoded : encode mode values = .ok payload)
    (fits : payloadSize values.length < 2 ^ 64) :
    ∃ after, decode mode payload values.length = .ok after
      ∧ ReadsBack mode payload values after := by
  obtain ⟨scaling, -, decoded⟩ := decode_encode encoded fits
  refine ⟨_, decoded, encoded, List.length_map _, ?_, valueOf_codeAt_of_decode decoded⟩
  intro index x y found restored
  rw [List.getElem?_map, found] at restored
  cases restored
  exact scaling.restoredAs_restore _ _ _ x

end Quantizer

namespace Header

variable {header : Header}

/-- Behind a header of doubles, a quantized payload is restored to the doubles that are read. -/
theorem restores_of_decode {after : List Double} (type : header.elementType = .double)
    (named : header.compressorText = some (Coder.quantizer mode).name)
    (sized : header.rawSize = .ok (8 * after.length)) (room : 8 * after.length < 2 ^ 63)
    (decoded : Quantizer.decode mode payload after.length = .ok after) :
    header.Restores payload (.quantizer mode) (Element.encodeAll after) := by
  have full : (Element.encodeAll after).length = 8 * after.length := Element.length_encodeAll after
  have double : header.elementType.layout.isDouble = true := decide_eq_true type
  obtain ⟨⟨⟩, required, -⟩ := bind_eq_ok_iff.1 decoded
  have counted := Quantizer.doubleCount_eq_ok_iff.2 ⟨double, full⟩
  refine ⟨⟨_, named, Selection.ofStoredName_name _⟩, ?_, ?_, ?_, ?_⟩
  · rw [sized, full]
  · rwa [full]
  · have whole : (8 * after.length) % 8 = 0 := Nat.mul_mod_right 8 _
    have quotient : 8 * after.length / 8 = after.length := Nat.mul_div_cancel_left _ (by decide)
    rw [full, Selection.checkFraming, if_neg (by simp [double, whole]), quotient, required]
  · rw [Selection.unpack, Quantizer.decodeBytes, counted, ok_bind, decoded]
    rfl

end Header

/-- Behind a header that names the quantizer, every codec restores an array of the described shape
from the payload of its doubles. -/
theorem Codec.unpack_quantized {γ : Type} (codec : Codec γ) {header : Header}
    {array : TypedArray} (inMemory : array.InMemory)
    (elements : array.toElements Double = .ok values)
    (encoded : Quantizer.encode mode values = .ok payload)
    (type : header.elementType = array.elementType) (dims : header.dims = array.dims)
    (named : header.compressorText = some (Coder.quantizer mode).name) :
    ∃ unpacked restored after, codec.unpack (header.encode ++ payload) = .ok unpacked
      ∧ unpacked.value = .array restored
      ∧ restored.elementType = .double ∧ restored.dims = array.dims
      ∧ restored.toElements Double = .ok after
      ∧ Quantizer.ReadsBack mode payload values after := by
  obtain ⟨double, -, sized⟩ := TypedArray.doubles_of_toElements elements
  have small := inMemory.data
  have fits : Quantizer.payloadSize values.length < 2 ^ 64 := by
    rw [Quantizer.payloadSize, Quantizer.preludeSize, Quantizer.codeSize]
    omega
  obtain ⟨after, decoded, readsBack⟩ := Quantizer.exists_readsBack encoded fits
  have count := readsBack.length
  rw [← count] at decoded sized
  have described : header.rawSize = .ok (8 * after.length) := by
    rw [Header.rawSize, type, dims, array.rawSize_eq, sized]
  have restores := Header.restores_of_decode (type.trans double) named described (by omega) decoded
  -- What was restored has the size of the array and makes one of its shape.
  have shaped : Shape.rawSize .double array.dims = .ok (Element.encodeAll after).length := by
    rw [← dims, ← type.trans double]
    exact restores.sized
  obtain ⟨restored, rebuilt⟩ : ∃ restored,
      TypedArray.ofBytes .double array.dims (Element.encodeAll after) = .ok restored :=
    ⟨_, TypedArray.ofBytes_eq_ok shaped⟩
  obtain ⟨restoredType, restoredDims, restoredData⟩ := TypedArray.fields_of_ofBytes rebuilt
  have raw := Header.unpackRaw_of_restores restores
  rw [← restoredData] at raw
  have flat : restored.elementType ≠ .byteStream := by
    rw [restoredType]
    decide
  have unpacked := codec.unpack_array flat ((type.trans double).trans restoredType.symm)
    (dims.trans restoredDims.symm) raw
  exact ⟨_, restored, after, unpacked, rfl, restoredType, restoredDims,
    TypedArray.toElements_encodeAll restoredType.symm restoredData, readsBack⟩

/-! ## The two kinds of blobs -/

namespace Settings

variable {settings : Settings} {array : TypedArray}

/-- Doubles with a payload are packed into the blob of the chosen one. -/
theorem exists_packArray_of_encode {coded? : Option Bytes} (settings : Settings) (level : Level)
    (on : settings.mode ≠ .off) (inMemory : array.InMemory)
    (elements : array.toElements Double = .ok values)
    (encoded : Quantizer.encode mode values = .ok payload)
    (chosen : (if 4 ≤ values.length then some payload else none) = coded?)
    (range : InRange array.dims)
    (within : chosenSize array.dims.length array.data.length coded?
      ≤ settings.maxBlobSize.toNat)
    (room : chosenSize array.dims.length array.data.length coded? < 2 ^ 63) :
    ∃ header, Header.make array.elementType Platform.host
          (coded?.map fun _ => (Coder.quantizer mode).name) array.dims = .ok header
      ∧ settings.packArray array (.coded (.quantizer mode) level)
        = .ok (Packed.ofChoice (.coded (.quantizer mode) level) array.data header
            array.dims.length coded?) := by
  have named : (Selection.coded (.quantizer mode) level).chosenName? coded?
      = (coded?.map fun _ => Coder.quantizer mode).map Coder.name := by
    cases coded? <;> rfl
  obtain ⟨header, made, sealed⟩ :=
    settings.exists_seal array.elementType range named within room
  refine ⟨header, made, ?_⟩
  rw [settings.packArray_doubles mode level on inMemory elements, encoded, ← sealed, ← chosen]
  rfl

/-- Up to three doubles in the domain are stored as they are, and every codec restores the array
byte for byte. -/
theorem exists_plain_of_few (settings : Settings) (level : Level) (on : settings.mode ≠ .off)
    (inMemory : array.InMemory) (elements : array.toElements Double = .ok values)
    (inDomain : Quantizer.InDomain mode values) (range : InRange array.dims)
    (few : values.length ≤ 3)
    (within : 36 + 4 * array.dims.length + 8 * values.length ≤ settings.maxBlobSize.toNat) :
    ∃ packed, settings.packArray array (.coded (.quantizer mode) level) = .ok packed
      ∧ packed.revision = .plain
      ∧ ∀ {γ : Type} (codec : Codec γ), ∃ unpacked, codec.unpack packed.bytes = .ok unpacked
        ∧ unpacked.value = .array array := by
  obtain ⟨type, -, sized⟩ := TypedArray.doubles_of_toElements elements
  obtain ⟨payload, encoded⟩ := Quantizer.exists_encode inDomain
  have size := chosenSize_none array.dims.length array.data.length
  have short := range.1
  obtain ⟨header, made, packed⟩ := settings.exists_packArray_of_encode level on inMemory elements
    encoded (if_neg (by omega)) range (by omega) (by omega)
  obtain ⟨headerType, -, named, dims⟩ := Header.fields_of_make made
  have described := Header.rawSize_of_make made array.rawSize_eq
  have restored := Header.unpackRaw_plain named described inMemory.data
  have flat : array.elementType ≠ .byteStream := by
    rw [type]
    decide
  refine ⟨_, packed, rfl, ?_⟩
  intro γ codec
  exact ⟨_, codec.unpack_array flat headerType dims restored, rfl⟩

/-- Four or more doubles in the domain are stored as a quantized payload behind the name of the
quantizer, and every codec restores an array of their shape from it. -/
theorem exists_coded_of_many (settings : Settings) (level : Level) (on : settings.mode ≠ .off)
    (inMemory : array.InMemory) (elements : array.toElements Double = .ok values)
    (inDomain : Quantizer.InDomain mode values) (range : InRange array.dims)
    (many : 4 ≤ values.length)
    (within : 56 + 4 * array.dims.length + 2 * values.length ≤ settings.maxBlobSize.toNat) :
    ∃ packed header, settings.packArray array (.coded (.quantizer mode) level) = .ok packed
      ∧ packed.revision = .coded
      ∧ packed.bytes.length = 56 + 4 * array.dims.length + 2 * values.length
      ∧ Header.decode packed.bytes = .ok header
      ∧ header.compressorText = some (Coder.quantizer mode).name
      ∧ ∀ {γ : Type} (codec : Codec γ), ∃ unpacked restored after,
        codec.unpack packed.bytes = .ok unpacked
        ∧ unpacked.value = .array restored
        ∧ restored.elementType = .double ∧ restored.dims = array.dims
        ∧ restored.toElements Double = .ok after
        ∧ Quantizer.ReadsBack mode (packed.bytes.drop header.payloadOffset) values after := by
  obtain ⟨-, -, sized⟩ := TypedArray.doubles_of_toElements elements
  obtain ⟨payload, encoded⟩ := Quantizer.exists_encode inDomain
  have size := chosenSize_encode encoded array.dims.length array.data.length
  have small := inMemory.data
  have short := range.1
  obtain ⟨header, made, packed⟩ := settings.exists_packArray_of_encode level on inMemory elements
    encoded (if_pos many) range (by omega) (by omega)
  obtain ⟨type, -, named, dims⟩ := Header.fields_of_make made
  refine ⟨_, header, packed, rfl, ?_, header.decode_encode payload, named, ?_⟩
  · rw [Packed.length_ofChoice made, size]
  · intro γ codec
    rw [Packed.bytes_ofChoice, Option.getD_some, header.drop_encode_append]
    exact codec.unpack_quantized inMemory elements encoded type dims named

/-- Packing finds fault with the domain exactly if the doubles are outside it. -/
theorem packArray_refusesDomain_iff (settings : Settings) (level : Level)
    (on : settings.mode ≠ .off) (inMemory : array.InMemory)
    (elements : array.toElements Double = .ok values) :
    (∃ flaw, settings.packArray array (.coded (.quantizer mode) level)
        = .error (.compressorDomain flaw))
      ↔ ¬ Quantizer.InDomain mode values := by
  constructor
  · rintro ⟨flaw, failed⟩ inDomain
    obtain ⟨payload, encoded⟩ := Quantizer.exists_encode inDomain
    rw [settings.packArray_doubles mode level on inMemory elements, encoded] at failed
    exact absurd (settings.seal_failsWithin _ _ _ _ _ _ failed)
      (show Category.compressorDomain ∉ sealCategories by decide)
  · intro outside
    exact ⟨_, settings.packArray_of_not_inDomain level on inMemory elements outside⟩

/-- Doubles in the domain are refused for dimensions out of range. -/
theorem packArray_of_not_inRange (settings : Settings) (level : Level)
    (on : settings.mode ≠ .off) (inMemory : array.InMemory)
    (elements : array.toElements Double = .ok values)
    (inDomain : Quantizer.InDomain mode values) (out : ¬ InRange array.dims)
    (within : 36 + 4 * array.dims.length + 8 * values.length ≤ settings.maxBlobSize.toNat) :
    ∃ flaw, settings.packArray array (.coded (.quantizer mode) level)
      = .error (.invalidShape flaw) := by
  obtain ⟨-, -, sized⟩ := TypedArray.doubles_of_toElements elements
  obtain ⟨payload, encoded⟩ := Quantizer.exists_encode inDomain
  rw [settings.packArray_doubles mode level on inMemory elements, encoded]
  apply settings.seal_of_not_inRange out
  -- Whichever payload is chosen, its blob is not larger than that of the raw data.
  refine Nat.le_trans ?_ within
  split
  · rw [chosenSize_encode encoded]
    omega
  · rw [chosenSize_none, sized]

end Settings

end

/-! ## The pipeline -/

/-- A quantizer packs an array in memory that is no byte stream as follows, at every level. Elements
other than doubles are refused as an argument. Doubles are refused for the domain exactly if the
mode is logarithmic and a finite one is below zero. All others are packed, if the dimensions fit a
header and the blob is within the limit: up to three as they are, so that every codec restores the
array, and four or more into a blob of known size that names the quantizer, from which every codec
restores an array of the same shape, with special values as they were and each double as the value
of its code. -/
theorem packArray_quantizer [Exponential] (settings : Settings) (array : TypedArray) (mode : Mode)
    (level : Level) (on : settings.mode ≠ .off) (flat : array.elementType ≠ .byteStream)
    (inMemory : array.InMemory) :
    (array.elementType ≠ .double →
      settings.packArray array (.coded (.quantizer mode) level)
        = .error (.compressorArgument .notDoubles))
    ∧ ∀ values, array.toElements Double = .ok values →
      ((∃ flaw, settings.packArray array (.coded (.quantizer mode) level)
          = .error (.compressorDomain flaw))
        ↔ mode = .logarithmic ∧ ∃ x ∈ values, x.isFinite = true ∧ x.IsBelowZero)
      ∧ (Quantizer.InDomain mode values →
        (¬ InRange array.dims →
          36 + 4 * array.dims.length + 8 * values.length ≤ settings.maxBlobSize.toNat →
            ∃ flaw, settings.packArray array (.coded (.quantizer mode) level)
              = .error (.invalidShape flaw))
        ∧ (InRange array.dims → values.length ≤ 3 →
          36 + 4 * array.dims.length + 8 * values.length ≤ settings.maxBlobSize.toNat →
            ∃ packed, settings.packArray array (.coded (.quantizer mode) level) = .ok packed
              ∧ packed.revision = .plain
              ∧ ∀ {γ : Type} (codec : Codec γ), ∃ unpacked,
                codec.unpack packed.bytes = .ok unpacked ∧ unpacked.value = .array array)
        ∧ (InRange array.dims → 4 ≤ values.length →
          56 + 4 * array.dims.length + 2 * values.length ≤ settings.maxBlobSize.toNat →
            ∃ packed header, settings.packArray array (.coded (.quantizer mode) level) = .ok packed
              ∧ packed.revision = .coded
              ∧ packed.bytes.length = 56 + 4 * array.dims.length + 2 * values.length
              ∧ Header.decode packed.bytes = .ok header
              ∧ header.compressorText = some (Coder.quantizer mode).name
              ∧ ∀ {γ : Type} (codec : Codec γ), ∃ unpacked restored after,
                codec.unpack packed.bytes = .ok unpacked
                ∧ unpacked.value = .array restored
                ∧ restored.elementType = .double ∧ restored.dims = array.dims
                ∧ restored.toElements Double = .ok after
                ∧ Quantizer.ReadsBack mode (packed.bytes.drop header.payloadOffset) values
                  after)) := by
  constructor
  · intro other
    exact settings.packArray_of_not_double mode level on flat inMemory other
  · intro values elements
    refine ⟨?_, fun inDomain => ⟨?_, ?_, ?_⟩⟩
    · rw [settings.packArray_refusesDomain_iff level on inMemory elements,
        Quantizer.not_inDomain_iff, Quantizer.reachesBelowZero_iff]
    · intro out within
      exact settings.packArray_of_not_inRange level on inMemory elements inDomain out within
    · intro range few within
      exact settings.exists_plain_of_few level on inMemory elements inDomain range few within
    · intro range many within
      exact settings.exists_coded_of_many level on inMemory elements inDomain range many within

/-- One, minus two, the negative zero and infinity. -/
def mixedValues : List Double :=
  [⟨0x3FF0000000000000⟩, ⟨0xC000000000000000⟩, ⟨0x8000000000000000⟩, ⟨0x7FF0000000000000⟩]

/-- The square of these doubles. -/
def mixedSquare : TypedArray :=
  ⟨.double, [2, 2], Element.encodeAll mixedValues, rfl⟩

/-- The linear quantizer packs the square into 72 bytes, which every codec unpacks, and the
logarithmic one refuses it for minus two. -/
theorem packArray_quantizer_square :
    Settings.default.mode ≠ .off ∧ mixedSquare.elementType ≠ .byteStream ∧ mixedSquare.InMemory
      ∧ mixedSquare.toElements Double = .ok mixedValues
      ∧ (∃ packed, @Settings.packArray .coarse Settings.default mixedSquare
          (.coded (.quantizer .linear) Level.best) = .ok packed
        ∧ packed.bytes.length = 72
        ∧ ∀ codec : Codec Unit, ∃ unpacked restored,
          @Codec.unpack .coarse _ codec packed.bytes = .ok unpacked
            ∧ unpacked.value = .array restored ∧ restored.dims = [2, 2])
      ∧ ∃ flaw, @Settings.packArray .coarse Settings.default mixedSquare
          (.coded (.quantizer .logarithmic) Level.best) = .error (.compressorDomain flaw) := by
  let exponential := Exponential.coarse
  have on : Settings.default.mode ≠ .off := by decide
  have flat : mixedSquare.elementType ≠ .byteStream := by decide
  have inMemory : mixedSquare.InMemory := ⟨by decide, by decide⟩
  have elements : mixedSquare.toElements Double = .ok mixedValues :=
    TypedArray.toElements_encodeAll rfl rfl
  obtain ⟨-, linear⟩ :=
    packArray_quantizer Settings.default mixedSquare .linear Level.best on flat inMemory
  obtain ⟨-, logarithmic⟩ :=
    packArray_quantizer Settings.default mixedSquare .logarithmic Level.best on flat inMemory
  refine ⟨on, flat, inMemory, elements, ?_, ?_⟩
  · obtain ⟨-, packs⟩ := linear _ elements
    obtain ⟨-, -, coded⟩ := packs (by rintro ⟨⟩)
    obtain ⟨packed, header, done, -, length, -, -, restores⟩ :=
      coded ⟨by decide, by decide⟩ (by decide) (by decide)
    refine ⟨packed, done, length, fun codec => ?_⟩
    obtain ⟨unpacked, restored, after, unpack, value, -, dims, -⟩ := restores codec
    exact ⟨unpacked, restored, unpack, value, dims⟩
  · obtain ⟨refused, -⟩ := logarithmic _ elements
    exact refused.2 ⟨rfl, ⟨0xC000000000000000⟩, by decide, by decide, by decide, by decide,
      by decide⟩

end ArrayBlob
