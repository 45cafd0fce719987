import ArrayBlob.Text.Utf8

/-!
# Platforms

Every blob records where it was written: a name of at most 11 bytes and a byte order. The record
is shown to the reader when it differs from the reader's own and never changes how the blob is read.
-/

namespace ArrayBlob

/-- The order of the bytes of a number in memory. -/
inductive ByteOrder
  | little
  | big
  deriving DecidableEq, Repr

namespace ByteOrder

/-- The byte order of this host. -/
def native : ByteOrder := little

/-- The letter of a byte order. -/
def letter : ByteOrder → Char
  | little => 'L'
  | big => 'B'

/-- The byte that records a byte order. -/
def tag (order : ByteOrder) : UInt8 :=
  UInt8.ofNat order.letter.toNat

/-- The byte order that a byte records; anything but the letter of `big` means `little`. -/
def ofTag (tag : UInt8) : ByteOrder :=
  if tag = big.tag then big else little

@[simp]
theorem ofTag_tag (order : ByteOrder) : ofTag order.tag = order := by
  cases order <;> decide

end ByteOrder

/-- The number of bytes of a platform name. -/
def platformWidth : Nat := 11

/-- The place where a blob was written. -/
structure Platform where
  tag : Bytes
  byteOrder : ByteOrder
  length_tag : tag.length = platformWidth
  deriving DecidableEq

namespace Platform

/-- The platform with a name, of which only the first 11 bytes are kept. -/
def ofName (name : String) (byteOrder : ByteOrder) : Platform where
  tag := Bytes.padTo platformWidth ((Utf8.encode name).take platformWidth)
  byteOrder := byteOrder
  length_tag := Bytes.length_padTo (List.length_take_le _ _)

/-- This host. -/
def host : Platform :=
  ofName "GLNXA64" .native

/-- The shown name: the bytes in front of the first zero byte, as text. -/
def name (platform : Platform) : String :=
  String.ofList (Utf8.decodeLossy (Bytes.untilZero platform.tag))

/-- The name and the letter of the byte order. -/
def display (platform : Platform) : String :=
  platform.name ++ " (" ++ platform.byteOrder.letter.toString ++ ")"

/-- A platform that differs from the one where its blob is read. -/
structure Mismatch where
  stored : Platform
  current : Platform
  deriving DecidableEq

/-- The wording of a mismatch. -/
def Mismatch.message (mismatch : Mismatch) : String :=
  "blob was written on " ++ mismatch.stored.display ++ ", reading on "
    ++ mismatch.current.display

/-- The mismatch of a stored platform, unless it equals the current one. -/
def mismatch? (stored current : Platform) : Option Mismatch :=
  if stored = current then none else some ⟨stored, current⟩

end Platform
end ArrayBlob
