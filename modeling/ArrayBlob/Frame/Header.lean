import ArrayBlob.Buffer
import ArrayBlob.Bytes.LittleEndian
import ArrayBlob.Text.Spelling

/-!
# Frame headers

A frame is 16 bytes of header and a body. The header tells how large the raw data is, how large the
frame is, and whether the body is the data itself or a compressed block. A header that claims more
raw data than a body of its size can hold is refused before anything is allocated for it.

The codec behind the frames answers to three names, its flavors. The name that a writer asked for is
kept in the flags of a frame and in the header of a blob, and makes no other difference.
-/

namespace ArrayBlob

/-- A name of the lossless codec. -/
inductive Flavor
  | blosclz
  | lz4
  | lz4hc
  deriving DecidableEq, Repr

namespace Flavor

/-- All flavors in the order of their codes. -/
def all : List Flavor :=
  [blosclz, lz4, lz4hc]

/-- The name of a flavor. -/
def name : Flavor → String
  | blosclz => "blosclz"
  | lz4 => "lz4"
  | lz4hc => "lz4hc"

/-- The code of a flavor in the flags of a frame. -/
def code : Flavor → UInt8
  | blosclz => 0
  | lz4 => 1
  | lz4hc => 2

/-- The flavor with a name, in letters of any case. -/
def ofName? (name : String) : Option Flavor :=
  all.find? fun flavor => Text.sameIgnoringCase flavor.name name

end Flavor

namespace Frame

/-- The header of a frame. -/
structure Header where
  version : UInt8
  blockVersion : UInt8
  flags : UInt8
  typesize : UInt8
  rawSize : UInt32
  blockSize : UInt32
  frameSize : UInt32
  deriving DecidableEq, Repr

/-- The number of bytes of a header. -/
def headerSize : Nat := 16

/-- The version of the frame format. -/
def currentVersion : UInt8 := 2

/-- The version of the block format. -/
def currentBlockVersion : UInt8 := 1

/-- The flag of a body that was split into byte planes. -/
def planesFlag : UInt8 := 0x01

/-- The flag of a body that is the data itself. -/
def verbatimFlag : UInt8 := 0x02

/-- The number of flag bits below the flavor. -/
def flagBits : UInt8 := 5

/-- The largest raw size that a body of some size can hold. -/
def capacity (verbatim : Bool) (bodySize : Nat) : Nat :=
  if verbatim then bodySize else 255 * bodySize + 64

/-- A body of some size can hold data of a raw size. -/
def canHold (verbatim : Bool) (bodySize rawSize : Nat) : Bool :=
  rawSize ≤ capacity verbatim bodySize && (!verbatim || rawSize == bodySize)

namespace Header

/-- The header of a frame with a body of some size. -/
def ofBody (flags typesize : UInt8) (rawSize : UInt32) (bodySize : Nat) :
    Except Fault Header :=
  if headerSize + bodySize < 2 ^ 32 then
    .ok
      { version := currentVersion
        blockVersion := currentBlockVersion
        flags := flags
        typesize := typesize
        rawSize := rawSize
        blockSize := rawSize
        frameSize := UInt32.ofNat (headerSize + bodySize) }
  else .error (.compression (.bodyExceedsFrame bodySize))

/-- The body was split into byte planes before it was compressed. -/
def isSplit (header : Header) : Bool :=
  header.flags &&& planesFlag != 0

/-- The body is the data itself. -/
def isVerbatim (header : Header) : Bool :=
  header.flags &&& verbatimFlag != 0

/-- The code of the flavor that the writer asked for. -/
def flavorCode (header : Header) : UInt8 :=
  header.flags >>> flagBits

/-- The size of the body. -/
def bodySize (header : Header) : Nat :=
  header.frameSize.toNat - headerSize

/-- The written form of a header. -/
def encode (header : Header) : Bytes :=
  [header.version, header.blockVersion, header.flags, header.typesize]
    ++ LittleEndian.encode 4 header.rawSize.toNat
    ++ LittleEndian.encode 4 header.blockSize.toNat
    ++ LittleEndian.encode 4 header.frameSize.toNat

/-- The parts of a header, each with its offset in a frame. -/
def parts (header : Header) : List (Nat × Bytes) :=
  [(0, [header.version]), (1, [header.blockVersion]), (2, [header.flags]), (3, [header.typesize]),
    (4, LittleEndian.encode 4 header.rawSize.toNat),
    (8, LittleEndian.encode 4 header.blockSize.toNat),
    (12, LittleEndian.encode 4 header.frameSize.toNat)]

/-- Writes a header into the first bytes of a buffer. -/
def writeOnto (header : Header) (buffer : Bytes) : Bytes :=
  Bytes.storeAll header.parts buffer

/-- The fields of the first 16 bytes of a frame, unchecked. -/
def fields (frame : Bytes) : Header where
  version := frame.getD 0 0
  blockVersion := frame.getD 1 0
  flags := frame.getD 2 0
  typesize := frame.getD 3 0
  rawSize := UInt32.ofNat (LittleEndian.decode (Bytes.field 4 4 frame))
  blockSize := UInt32.ofNat (LittleEndian.decode (Bytes.field 8 4 frame))
  frameSize := UInt32.ofNat (LittleEndian.decode (Bytes.field 12 4 frame))

/-- The header at the start of a frame. -/
def decode (frame : Bytes) : Except Fault Header :=
  let header := fields frame
  if frame.length < headerSize then .error (.compression (.shortFrame frame.length))
  else if header.version ≠ currentVersion then
    .error (.compression (.frameVersion header.version.toNat))
  else if header.frameSize.toNat < headerSize then
    .error (.compression (.frameBelowHeader header.frameSize.toNat))
  else if canHold header.isVerbatim header.bodySize header.rawSize.toNat then .ok header
  else .error (.compression (.frameCapacity header.bodySize header.rawSize.toNat))

@[simp]
theorem length_encode (header : Header) : header.encode.length = headerSize := by
  simp [encode, headerSize]

/-- The parts of a header are its written form. -/
theorem written_parts (header : Header) : Bytes.written header.parts = header.encode := by
  simp [Bytes.written, parts, encode]

theorem adjacent_parts (header : Header) : Bytes.Adjacent 0 header.parts := by
  simp [Bytes.Adjacent, parts]

/-- A header takes the place of the first bytes of a buffer that has room for it. -/
theorem writeOnto_eq (header : Header) {buffer : Bytes} (room : headerSize ≤ buffer.length) :
    header.writeOnto buffer = header.encode ++ buffer.drop headerSize := by
  have fits : 0 + (Bytes.written header.parts).length ≤ buffer.length := by
    rwa [written_parts, length_encode, Nat.zero_add]
  rw [writeOnto, Bytes.storeAll_eq_overwrite header.adjacent_parts fits, Bytes.overwrite_zero,
    written_parts, length_encode]

theorem decode_word (value : UInt32) :
    UInt32.ofNat (LittleEndian.decode (LittleEndian.encode 4 value.toNat)) = value := by
  rw [LittleEndian.decode_encode value.toNat_lt, UInt32.ofNat_toNat]

/-- The fields of a written header are those of the header. -/
theorem fields_encode (header : Header) (body : Bytes) :
    fields (header.encode ++ body) = header := by
  obtain ⟨version, blockVersion, flags, typesize, rawSize, blockSize, frameSize⟩ := header
  have raw := decode_word rawSize
  have block := decode_word blockSize
  have frame := decode_word frameSize
  simp only [LittleEndian.encode] at raw block frame
  simp only [fields, encode, Bytes.field, LittleEndian.encode, List.cons_append, List.nil_append,
    List.getD_cons_zero, List.getD_cons_succ, List.drop_succ_cons,
    List.drop_zero, List.take_succ_cons, List.take_zero, raw, block, frame]

end Header
end Frame
end ArrayBlob
