import ArrayBlob.Frame.Header
import ArrayBlob.Level
import ArrayBlob.Lz4.Expansion
import ArrayBlob.Lz4.Factorization
import ArrayBlob.Planes

/-!
# The lossless codec

Raw bytes become a frame whose body is the smaller of two: the data itself, or the block of the
data after its elements were split into byte planes. A frame is therefore never more than a header
larger than its data. Reading a frame checks that it describes exactly the data asked for.
-/

namespace ArrayBlob
namespace Frame

/-- The element size that a frame records: sizes that do not fit into a byte count as 1. -/
def typesizeOf (layout : Layout) : Nat :=
  if 1 ≤ layout.elementSize ∧ layout.elementSize ≤ 255 then layout.elementSize else 1

/-- Data of some size is split into byte planes: its elements have several bytes and there is at
least one of them. -/
def splits (typesize size : Nat) : Bool :=
  1 < typesize && typesize ≤ size

/-- The body of the frame of raw bytes, and the flags that tell how to read it. -/
def bodyOf (level : Level) (typesize : Nat) (raw : Bytes) : UInt8 × Bytes :=
  if level.isNone || raw.isEmpty then (verbatimFlag, raw)
  else
    let split := splits typesize raw.length
    let block := Lz4.compress (if split then Planes.split typesize raw else raw)
    if block.length < raw.length then (if split then planesFlag else 0, block)
    else (verbatimFlag, raw)

/-- Refuses data whose size a frame cannot record. -/
def checkRawSize (size : Nat) : Except Fault Unit :=
  if size < 2 ^ 32 then .ok () else .error (.compression (.inputExceedsFrame size))

/-- The size of a buffer that holds the frame of any data of some size. -/
def largestFrame (rawSize : Nat) : Nat :=
  rawSize + headerSize

/-- The header and the body of the frame of raw bytes. Byte planes are put into a buffer of their
own. -/
def headerAndBody (flavor : Flavor) (level : Level) (layout : Layout) (raw : Bytes) :
    Except Fault (Header × Bytes) := do
  let typesize := typesizeOf layout
  if !level.isNone && splits typesize raw.length then reserve raw.length
  let (kind, body) := bodyOf level typesize raw
  let flags := flavor.code <<< flagBits ||| kind
  let header ←
    Header.ofBody flags (UInt8.ofNat typesize) (UInt32.ofNat raw.length) body.length
  return (header, body)

/-- Writes the frame of raw bytes to the front of a buffer, the body behind the place of the header
and then the header. The result is the size of the frame and the buffer. -/
def compressInto (flavor : Flavor) (level : Level) (layout : Layout) (raw buffer : Bytes) :
    Except Fault (Nat × Bytes) := do
  checkRawSize raw.length
  let required := largestFrame raw.length
  if buffer.length < required then
    throw (.bufferTooSmall required buffer.length)
  let (header, body) ← headerAndBody flavor level layout raw
  let filled := Bytes.storeAll [(headerSize, body)] buffer
  return (headerSize + body.length, header.writeOnto filled)

/-- The frame of raw bytes, in a buffer of its own that is cut off behind the frame. -/
def compress (flavor : Flavor) (level : Level) (layout : Layout) (raw : Bytes) :
    Except Fault Bytes := do
  let buffer ← zeroed (largestFrame raw.length)
  let (size, filled) ← compressInto flavor level layout raw buffer
  return filled.take size

/-- The data of a block that must fill a buffer of some size. -/
def expandBlock (body : Bytes) (size : Nat) : Except Fault Bytes :=
  match Lz4.expand size body with
  | .error flaw => .error (.compression (.block flaw))
  | .ok bytes =>
    if bytes.length = size then .ok bytes
    else .error (.compression (.blockLength bytes.length size))

/-- The data of a frame that must hold a number of bytes. Byte planes are expanded into a buffer of
their own. -/
def decode (frame : Bytes) (size : Nat) : Except Fault Bytes := do
  let header ← Header.decode frame
  if header.rawSize.toNat ≠ size then
    throw (.compression (.frameRawSize header.rawSize.toNat size))
  if header.frameSize.toNat ≠ frame.length then
    throw (.compression (.frameLength header.frameSize.toNat frame.length))
  let body := frame.drop headerSize
  if header.isVerbatim then
    if body.length ≠ size then throw (.compression .storedBodyLength)
    return body
  if header.isSplit then
    reserve size
    return Planes.join header.typesize.toNat (← expandBlock body size)
  expandBlock body size

/-- The data of a frame, in a buffer of its own. -/
def decompress (frame : Bytes) (size : Nat) : Except Fault Bytes := do
  reserve size
  decode frame size

end Frame
end ArrayBlob
