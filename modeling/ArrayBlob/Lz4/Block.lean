import ArrayBlob.Bytes.LittleEndian

/-!
# Blocks

A block is a run of sequences and a tail. A sequence writes some bytes as they are and then copies
bytes that were written before; the tail only writes. This module holds the parts of a block and
their written form: the two lengths of a sequence share its first byte, a length of 15 or more
goes on in the bytes behind, and a copy of fewer than four bytes cannot be written.
-/

namespace ArrayBlob
namespace Lz4

/-- The length of the shortest copy. -/
def shortestCopy : Nat := 4

/-- The length from which on a length goes on behind the first byte. -/
def longLength : Nat := 15

/-- Literal bytes followed by a copy of `length` bytes from `offset` bytes before. -/
structure Sequence where
  literals : Bytes
  offset : Nat
  length : Nat
  deriving DecidableEq, Repr

/-- The parts of a block. -/
structure Block where
  sequences : List Sequence
  tail : Bytes
  deriving DecidableEq, Repr

/-- The bytes of a length that do not fit into the first byte of its sequence. -/
def lengthExtension (length : Nat) : Bytes :=
  if length < longLength then []
  else
    let excess := length - longLength
    List.replicate (excess / 255) 255 ++ [UInt8.ofNat (excess % 255)]

/-- The first byte of a sequence. -/
def token (literalCount copyLength : Nat) : UInt8 :=
  UInt8.ofNat (16 * min literalCount longLength + min copyLength longLength)

/-- The written form of a sequence. -/
def Sequence.encode (sequence : Sequence) : Bytes :=
  let extra := sequence.length - shortestCopy
  token sequence.literals.length extra ::
    (lengthExtension sequence.literals.length ++ sequence.literals
      ++ LittleEndian.encode 2 sequence.offset ++ lengthExtension extra)

/-- The written form of a tail. -/
def encodeTail (tail : Bytes) : Bytes :=
  token tail.length 0 :: (lengthExtension tail.length ++ tail)

/-- The written form of a block. -/
def Block.encode (block : Block) : Bytes :=
  block.sequences.flatMap Sequence.encode ++ encodeTail block.tail

end Lz4
end ArrayBlob
