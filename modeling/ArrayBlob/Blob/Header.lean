import ArrayBlob.Blob.Platform
import ArrayBlob.Blob.Shape
import ArrayBlob.Bytes.LittleEndian

/-!
# Blob headers

A blob starts with a mark, the size of the fixed part of its header, the code of its element type
and the record of its platform. A blob with a coded payload names its compressor next; both end
with the dimensions. The size of the fixed part tells the two revisions apart.

Headers hold only what can be written: a name fits its field, and dimensions and their number fit
32 bits with a sign. `Header.make` checks this for values from outside.
-/

namespace ArrayBlob

/-- The first bytes of every blob. -/
def blobMark : Bytes :=
  [0x6D, 0x6B, 0x53, 0x51, 0x4C, 0x69, 0x74, 0x65, 0x2E, 0x74, 0x62, 0x68, 0, 0]

/-- The number of bytes of a compressor name. -/
def nameWidth : Nat := 12

/-- The number of bytes in front of the compressor name or the dimensions. -/
def commonSize : Nat := 32

/-- The first number that a dimension cannot reach. -/
def dimensionLimit : Nat := 2 ^ 31

/-- The revisions of the header. -/
inductive Revision
  /-- The payload is the raw data. -/
  | plain
  /-- The payload was made by a named codec. -/
  | coded
  deriving DecidableEq, Repr

namespace Revision

/-- The number of a revision. -/
def number : Revision → Nat
  | plain => 1
  | coded => 2

/-- The size of the fixed part of the header, which includes the number of dimensions. -/
def headerSize : Revision → Nat
  | plain => commonSize + 4
  | coded => commonSize + nameWidth + 4

/-- The offset of the number of dimensions. -/
def countOffset (revision : Revision) : Nat :=
  revision.headerSize - 4

/-- The offset of the payload behind a number of dimensions. -/
def payloadOffset (revision : Revision) (dimensionCount : Nat) : Nat :=
  revision.headerSize + 4 * dimensionCount

/-- The revision with a version tag, which is the size of its fixed part. -/
def ofTag (tag : Int) : Except Fault Revision :=
  if tag = plain.headerSize then .ok plain
  else if tag = coded.headerSize then .ok coded
  else .error (.unsupportedHeader (.version tag))

@[simp]
theorem ofTag_headerSize (revision : Revision) : ofTag revision.headerSize = .ok revision := by
  cases revision <;> rfl

end Revision

/-- A compressor name that fits its field. -/
structure CompressorName where
  text : String
  length_le : (Utf8.encode text).length ≤ nameWidth
  zero_notMem : 0 ∉ Utf8.encode text
  deriving DecidableEq

/-- Dimensions that fit their fields. -/
structure Dimensions where
  toList : List Nat
  length_lt : toList.length < dimensionLimit
  lt_limit : ∀ dimension ∈ toList, dimension < dimensionLimit
  deriving DecidableEq

/-- What a blob says of its payload. -/
structure Header where
  elementType : ElementType
  platform : Platform
  compressor : Option CompressorName
  dimensions : Dimensions
  deriving DecidableEq

/-- The element type with a code from outside. -/
def ElementType.ofCode (code : Int) : Except Fault ElementType :=
  match ofCode? code with
  | some elementType => .ok elementType
  | none => .error (.unsupportedVariableType (.unknownCode code))

@[simp]
theorem ElementType.ofCode_code (elementType : ElementType) :
    ofCode elementType.code = .ok elementType := by
  unfold ofCode
  rw [ofCode?_code]

/-- The compressor name with a text. An empty name is refused. -/
def CompressorName.ofText (text : String) : Except Fault CompressorName :=
  if fits : (Utf8.encode text).length ≤ nameWidth ∧ 0 ∉ Utf8.encode text then
    if text.isEmpty then .error (.unknownCompressor text) else .ok ⟨text, fits.1, fits.2⟩
  else .error (.unknownCompressor text)

/-- The dimensions in a list, which must fit their fields. -/
def Dimensions.ofList (dims : List Nat) : Except Fault Dimensions :=
  if few : dims.length < dimensionLimit then
    if small : ∀ dimension ∈ dims, dimension < dimensionLimit then .ok ⟨dims, few, small⟩
    else
      let offending := (dims.find? fun dimension => dimensionLimit ≤ dimension).getD 0
      .error (.invalidShape (.dimensionRange offending))
  else .error (.invalidShape (.tooManyDimensions dims.length))

/-- The compressor name in a field. It ends in front of the first zero byte. -/
def CompressorName.ofField (field : Bytes) (narrow : field.length ≤ nameWidth) :
    Except Fault CompressorName :=
  match decoded : Utf8.decode (Bytes.untilZero field) with
  | none => .error (.unsupportedHeader .nameEncoding)
  | some text =>
    .ok
      { text := text
        length_le := by
          rw [Utf8.encode_of_decode decoded]
          exact Nat.le_trans (List.takeWhile_sublist _).length_le narrow
        zero_notMem := by
          rw [Utf8.encode_of_decode decoded]
          exact Bytes.zero_notMem_untilZero _ }

/-- The dimensions in a vector of stored numbers, none of which may be negative. -/
def Dimensions.ofVector (vector : Bytes) (few : vector.length < 4 * dimensionLimit) :
    Except Fault Dimensions :=
  let dims := (Bytes.groups 4 vector).map LittleEndian.decode
  if small : ∀ dimension ∈ dims, dimension < dimensionLimit then
    .ok
      { toList := dims
        length_lt := by
          simp only [dims, List.length_map, Bytes.length_groups]
          omega
        lt_limit := small }
  else .error (.unsupportedHeader .negativeDimension)

/-- What reading field by field ends with. There is no outcome if a field reaches behind the end of
the bytes. -/
abbrev Reading := ExceptT Fault Option

instance : MonadLift (Except Fault) Reading :=
  ⟨fun outcome => ExceptT.mk (some outcome)⟩

namespace Header

/-- The header of values from outside. -/
def make (elementType : ElementType) (platform : Platform) (compressor : Option String)
    (dims : List Nat) : Except Fault Header := do
  let dimensions ← Dimensions.ofList dims
  match compressor with
  | none => return ⟨elementType, platform, none, dimensions⟩
  | some text => return ⟨elementType, platform, some (← CompressorName.ofText text), dimensions⟩

/-- The dimensions as a list. -/
def dims (header : Header) : List Nat :=
  header.dimensions.toList

/-- The revision of a header. -/
def revision (header : Header) : Revision :=
  if header.compressor.isSome then .coded else .plain

/-- The text of the compressor name. -/
def compressorText (header : Header) : Option String :=
  header.compressor.map CompressorName.text

/-- The offset of the payload. -/
def payloadOffset (header : Header) : Nat :=
  header.revision.payloadOffset header.dims.length

/-- The number of elements. -/
def elementCount (header : Header) : Except Fault Nat :=
  Shape.elementCount header.dims

/-- The number of bytes of the elements. -/
def rawSize (header : Header) : Except Fault Nat :=
  Shape.rawSize header.elementType header.dims

/-- How the platform of a blob differs from this host. -/
def mismatch? (header : Header) : Option Platform.Mismatch :=
  header.platform.mismatch? Platform.host

/-- The field of the compressor name. -/
def encodeName (header : Header) : Bytes :=
  match header.compressor with
  | none => []
  | some name => Bytes.padTo nameWidth (Utf8.encode name.text)

/-- The written form of a header. -/
def encode (header : Header) : Bytes :=
  blobMark
    ++ LittleEndian.encode 2 header.revision.headerSize
    ++ LittleEndian.encode 4 header.elementType.code
    ++ header.platform.tag
    ++ [header.platform.byteOrder.tag]
    ++ header.encodeName
    ++ LittleEndian.encode 4 header.dims.length
    ++ header.dims.flatMap (LittleEndian.encode 4)

/-- The parts of a header, each with the offset from which it stands. Between them are zero
bytes. -/
def parts (header : Header) : List (Nat × Bytes) :=
  [(0, blobMark), (14, LittleEndian.encode 2 header.revision.headerSize),
      (16, LittleEndian.encode 4 header.elementType.code), (20, header.platform.tag),
      (31, [header.platform.byteOrder.tag])]
    ++ header.compressor.toList.map (fun name => (commonSize, Utf8.encode name.text))
    ++ [(header.revision.countOffset, LittleEndian.encode 4 header.dims.length)]
    ++ header.dims.mapIdx fun index dimension =>
      (header.revision.headerSize + 4 * index, LittleEndian.encode 4 dimension)

/-- Puts a header behind the bytes of a buffer: room of its size is made there, and then each part
is put at its offset. -/
def encodeOnto (header : Header) (buffer : Bytes) : Bytes :=
  header.parts.foldl
    (fun bytes part => Bytes.overwrite (buffer.length + part.1) part.2 bytes)
    (buffer ++ List.replicate header.payloadOffset 0)

/-- The platform record of a blob that is long enough to hold one. -/
def platformOf (blob : Bytes) (long : commonSize ≤ blob.length) : Platform where
  tag := Bytes.field 20 platformWidth blob
  byteOrder := ByteOrder.ofTag (blob.getD 31 0)
  length_tag := by
    simp only [commonSize] at long
    simp only [Bytes.length_field, platformWidth]
    omega

/-- The element type of a blob. -/
def decodeElementType (blob : Bytes) : Except Fault ElementType :=
  ElementType.ofCode (LittleEndian.decodeSigned (Bytes.field 16 4 blob))

/-- The dimensions of a blob. -/
def decodeDimensions (revision : Revision) (blob : Bytes) : Except Fault Dimensions :=
  let count := LittleEndian.decode (Bytes.field revision.countOffset 4 blob)
  let offset := revision.payloadOffset count
  if few : count < dimensionLimit then
    if blob.length < offset then
      .error (.unsupportedHeader (.truncatedDimensions count offset blob.length))
    else
      Dimensions.ofVector (Bytes.field revision.headerSize (4 * count) blob) (by
        rw [Bytes.length_field]
        omega)
  else .error (.unsupportedHeader .negativeDimensionCount)

/-- The compressor name of a blob with a coded payload. -/
def decodeName (blob : Bytes) : Except Fault CompressorName :=
  CompressorName.ofField (Bytes.field commonSize nameWidth blob) (by
    rw [Bytes.length_field]
    exact Nat.min_le_left _ _)

/-- The compressor name of a blob, if its revision has one. -/
def decodeCompressor (revision : Revision) (blob : Bytes) :
    Except Fault (Option CompressorName) :=
  match revision with
  | .plain => .ok none
  | .coded => (decodeName blob).map some

/-- The header at the start of a blob. -/
def decode (blob : Bytes) : Except Fault Header :=
  if long : commonSize ≤ blob.length then do
    if blob.take blobMark.length ≠ blobMark then throw (.unsupportedHeader .magic)
    let revision ← Revision.ofTag (LittleEndian.decodeSigned (Bytes.field 14 2 blob))
    if blob.length < revision.headerSize then throw (.unsupportedHeader .truncated)
    let elementType ← decodeElementType blob
    let dimensions ← decodeDimensions revision blob
    let compressor ← decodeCompressor revision blob
    return ⟨elementType, platformOf blob long, compressor, dimensions⟩
  else .error (.unsupportedHeader (.shortBlob blob.length))

/-- The platform record of a blob, read field by field. -/
def readPlatform (blob : Bytes) : Reading Platform := do
  let tag ← Bytes.field? 20 platformWidth blob
  let order ← Bytes.field? 31 1 blob
  return ⟨tag.1, ByteOrder.ofTag (order.1.getD 0 0), tag.2⟩

/-- The dimensions of a blob and the offset behind them, read field by field. -/
def readDimensions (revision : Revision) (blob : Bytes) : Reading (Dimensions × Nat) := do
  let number ← Bytes.field? revision.countOffset 4 blob
  let count := LittleEndian.decode number.1
  let offset := revision.payloadOffset count
  if few : count < dimensionLimit then
    if blob.length < offset then
      throw (.unsupportedHeader (.truncatedDimensions count offset blob.length))
    let vector ← Bytes.field? revision.headerSize (4 * count) blob
    let dimensions ← Dimensions.ofVector vector.1 (by
      have full := vector.2
      omega)
    return (dimensions, offset)
  else throw (.unsupportedHeader .negativeDimensionCount)

/-- The compressor name of a blob, if its revision has one, read field by field. -/
def readCompressor (revision : Revision) (blob : Bytes) : Reading (Option CompressorName) :=
  match revision with
  | .plain => return none
  | .coded => do
    let field ← Bytes.field? commonSize nameWidth blob
    let name ← CompressorName.ofField field.1 (Nat.le_of_eq field.2)
    return some name

/-- The header at the start of a blob and the offset of the payload behind it, read field by
field. -/
def decodeFront (blob : Bytes) : Reading (Header × Nat) := do
  if blob.length < commonSize then throw (.unsupportedHeader (.shortBlob blob.length))
  let mark ← Bytes.field? 0 blobMark.length blob
  if mark.1 ≠ blobMark then throw (.unsupportedHeader .magic)
  let version ← Bytes.field? 14 2 blob
  let revision ← Revision.ofTag (LittleEndian.decodeSigned version.1)
  if blob.length < revision.headerSize then throw (.unsupportedHeader .truncated)
  let code ← Bytes.field? 16 4 blob
  let elementType ← ElementType.ofCode (LittleEndian.decodeSigned code.1)
  let platform ← readPlatform blob
  let (dimensions, offset) ← readDimensions revision blob
  let compressor ← readCompressor revision blob
  return (⟨elementType, platform, compressor, dimensions⟩, offset)

/-- How the platform of a blob differs from this host, whatever follows its record. -/
def checkPlatform (blob : Bytes) : Except Fault (Option Platform.Mismatch) :=
  if long : commonSize ≤ blob.length then
    if blob.take blobMark.length = blobMark then
      .ok ((platformOf blob long).mismatch? Platform.host)
    else .error (.unsupportedHeader .magic)
  else .error (.unsupportedHeader .magic)

end Header
end ArrayBlob
