import ArrayBlob.Blob.Codec

/-!
# Inspection of blobs

What the header of a blob tells without restoring the value, and the work that is timed when the
cost of a blob is measured: decoding its payload, and coding the decoded data again.
-/

namespace ArrayBlob

/-- What the header of a blob tells. -/
structure Summary where
  revision : Revision
  elementType : ElementType
  dims : List Nat
  compressor : Option String
  family : Family
  platform : Platform
  mismatch : Option Platform.Mismatch
  payloadOffset : Nat
  payloadSize : Nat
  rawSize : Nat

namespace Summary

/-- The summary of a blob. -/
def ofBlob (blob : Bytes) : Except Fault Summary := do
  let header ← Header.decode blob
  let family ← match header.compressorText with
    | none => pure Family.none
    | some name => Selection.family <$> Selection.ofStoredName name
  let rawSize ← header.rawSize
  return {
    revision := header.revision
    elementType := header.elementType
    dims := header.dims
    compressor := header.compressorText
    family := family
    platform := header.platform
    mismatch := header.mismatch?
    payloadOffset := header.payloadOffset
    payloadSize := blob.length - header.payloadOffset
    rawSize := rawSize }

/-- The size of the payload as a fraction of the raw size. -/
def ratio (summary : Summary) : Double :=
  match summary.revision with
  | .plain => wholeRatio
  | .coded => payloadRatio summary.payloadSize summary.rawSize

end Summary

namespace Inspection

/-- The ratio of a blob. -/
def ratio (blob : Bytes) : Except Fault Double :=
  (Summary.ofBlob blob).map Summary.ratio

/-- A coded payload that was checked against its header. -/
structure CodedPayload where
  selection : Selection
  layout : Layout
  rawSize : Nat
  payload : Bytes

/-- The payload of a blob that is coded. -/
def codedPayload? (blob : Bytes) : Except Fault (Option CodedPayload) := do
  let header ← Header.decode blob
  let some name := header.compressorText | return none
  let selection ← Selection.ofStoredName name
  let payload := blob.drop header.payloadOffset
  let rawSize ← header.rawSize
  let layout := header.elementType.layout
  selection.checkFraming layout payload rawSize
  return some ⟨selection, layout, rawSize, payload⟩

variable [Exponential]

/-- The raw data of a coded payload. -/
def CodedPayload.decode (coded : CodedPayload) : Except Fault Bytes := do
  reserve coded.rawSize
  coded.selection.unpack coded.layout coded.payload coded.rawSize

/-- The work of decoding a blob: the raw data of a coded payload, and nothing for a plain one. -/
def decodingWork (blob : Bytes) : Except Fault (Option Bytes) := do
  let some coded ← codedPayload? blob | return none
  return some (← coded.decode)

/-- The work of coding a blob again: the new payload of the decoded data of a coded payload, and
nothing for a plain one. -/
def codingWork (blob : Bytes) : Except Fault (Option Bytes) := do
  let some coded ← codedPayload? blob | return none
  return some (← coded.selection.pack coded.layout (← coded.decode))

end Inspection
end ArrayBlob
