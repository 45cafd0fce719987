import ArrayBlob.Blob.Header
import ArrayBlob.Blob.TypedArray
import ArrayBlob.Serializer
import ArrayBlob.Settings

/-!
# The blob codec

Packing turns a value into a blob: an array as it is, any other value by way of the serializer. A
coded payload is kept only if the blob becomes smaller, and a lossless one only after it was read
back. Unpacking checks the payload against the header before it reserves room for the data, and
returns the value together with a mismatch of platforms, which is no fault.
-/

namespace ArrayBlob

/-- A value that can be stored: an array, or a value of the serializer. -/
inductive Value (γ : Type)
  | array (elements : TypedArray)
  | composite (content : γ)

/-- The storage class of a value. -/
def Value.storageClass {γ : Type} (value : Value γ) (streamsAllowed : Bool) : StorageClass :=
  match value with
  | .array elements => elements.storageClass streamsAllowed
  | .composite _ => .composite

/-- A blob and how it was made. -/
structure Packed where
  bytes : Bytes
  revision : Revision
  statistics : Statistics
  /-- The size of the blob as a fraction of its size without compression. -/
  ratio : Double

/-- A value and how it was stored. -/
structure Unpacked (γ : Type) where
  value : Value γ
  revision : Revision
  mismatch : Option Platform.Mismatch
  statistics : Statistics
  /-- The size of the payload as a fraction of the raw size. -/
  ratio : Double

/-- The fraction for what is stored at its own size. -/
def wholeRatio : Double :=
  Double.ofNat 1

/-- The size of a payload as a fraction of a raw size, and zero for a payload of no data. -/
def payloadRatio (payloadSize rawSize : Nat) : Double :=
  if rawSize = 0 then Double.ofNat 0 else sizeQuotient payloadSize rawSize

section

variable [Exponential]

/-- The payload of a selection, unless the blob would not become smaller. A lossless payload is
read back if that is asked for. -/
def Selection.payload? (selection : Selection) (verify : Bool) (elementType : ElementType)
    (dimensionCount : Nat) (raw : Bytes) : Except Fault (Option Bytes) := do
  let layout := elementType.layout
  let payload ← selection.pack layout raw
  let coded := Revision.coded.payloadOffset dimensionCount + payload.length
  let plain := Revision.plain.payloadOffset dimensionCount + raw.length
  if plain ≤ coded then return none
  if verify && !selection.isLossy then
    reserve raw.length
    match selection.unpack layout payload raw.length with
    | .error fault => throw (.compression (.roundTripFailed fault.message))
    | .ok restored =>
      if restored ≠ raw then throw (.compression .roundTripDiffers)
  return some payload

/-- The blob of raw data. -/
def Settings.packRaw (settings : Settings) (elementType : ElementType) (dims : List Nat)
    (raw : Bytes) (selection : Selection) : Except Fault Packed := do
  let limit := settings.maxBlobSize.toNat
  let plain := Revision.plain.payloadOffset dims.length + raw.length
  if Shape.limit ≤ plain then throw (.blobTooBig (Shape.limit - 1) limit)
  let coded? ←
    if selection.isUncompressed then pure none
    else selection.payload? settings.verify elementType dims.length raw
  let (revision, payload, name) := match coded? with
    | some payload => (Revision.coded, payload, some selection.name)
    | none => (Revision.plain, raw, none)
  let total := revision.payloadOffset dims.length + payload.length
  if limit < total then throw (.blobTooBig total limit)
  let header ← Header.make elementType Platform.host name dims
  reserve total
  let bytes := header.encode ++ payload
  match coded? with
  | some payload =>
    return ⟨bytes, revision, ⟨selection.family, raw.length, payload.length, 0⟩,
      sizeQuotient total plain⟩
  | none => return ⟨bytes, revision, Statistics.uncompressed raw.length, wholeRatio⟩

/-- The blob of an array. -/
def Settings.packArray (settings : Settings) (array : TypedArray) (selection : Selection) :
    Except Fault Packed := do
  if settings.mode = .off then throw (.unsupportedVariableType .blobsDisabled)
  if array.storageClass settings.mode.allowsStreams = .unsupported then
    throw (.unsupportedVariableType (.arrayRefused array.elementType))
  settings.packRaw array.elementType array.dims array.data selection

/-- The raw data of a blob behind its header, with the statistics and the ratio of the payload. -/
def Header.unpackRaw (header : Header) (payload : Bytes) :
    Except Fault (Bytes × Statistics × Double) := do
  let rawSize ← header.rawSize
  match header.compressorText with
  | none =>
    if payload.length ≠ rawSize then
      throw (.compression (.storedBlobLength payload.length rawSize))
    reserve rawSize
    return (payload, Statistics.uncompressed rawSize, wholeRatio)
  | some name =>
    let layout := header.elementType.layout
    let selection ← Selection.ofStoredName name
    selection.checkFraming layout payload rawSize
    reserve rawSize
    let data ← selection.unpack layout payload rawSize
    return (data, ⟨selection.family, rawSize, payload.length, 0⟩,
      payloadRatio payload.length rawSize)

end

/-- Settings and a serializer. -/
structure Codec (γ : Type) where
  settings : Settings
  serializer : Serializer γ

namespace Codec

variable [Exponential] {γ : Type}

/-- The blob of a value. -/
def pack (codec : Codec γ) (value : Value γ) (selection : Selection) : Except Fault Packed :=
  match value with
  | .array elements => codec.settings.packArray elements selection
  | .composite content =>
    if codec.settings.mode.allowsStreams then
      match codec.serializer.serialize content with
      | .error fault => .error (.unsupportedVariableType (.serializerFailed fault.message))
      | .ok stream => codec.settings.packRaw .byteStream [1, stream.length] stream selection
    else .error (.unsupportedVariableType .compositeRefused)

/-- The blob of a value with the selection of the settings. -/
def packBySettings (codec : Codec γ) (value : Value γ) : Except Fault Packed := do
  codec.pack value (← codec.settings.selection)

/-- The value of an array that was stored. A byte stream holds a value of the serializer. -/
def valueOf (codec : Codec γ) (array : TypedArray) : Except Fault (Value γ) :=
  if array.elementType = .byteStream then
    if codec.settings.mode.allowsStreams then
      (codec.serializer.deserialize array.data).map Value.composite
    else .error (.unsupportedVariableType .streamRefused)
  else .ok (.array array)

/-- The value of a blob. -/
def unpack (codec : Codec γ) (blob : Bytes) : Except Fault (Unpacked γ) := do
  let header ← Header.decode blob
  let (data, statistics, ratio) ← header.unpackRaw (blob.drop header.payloadOffset)
  let array ← TypedArray.ofBytes header.elementType header.dims data
  let value ← codec.valueOf array
  return ⟨value, header.revision, header.mismatch?, statistics, ratio⟩

end Codec
end ArrayBlob
