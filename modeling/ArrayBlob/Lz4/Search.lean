/-!
# Search for repeated bytes

The search walks over the input and asks a table of 4096 slots for an earlier position whose bytes
had the same hash. A hit carries its own evidence: the candidate lies before the position, near
enough for an offset of two bytes, and four bytes agree. What the table holds therefore decides
which hits are found and never whether a hit is right.
-/

namespace ArrayBlob
namespace Lz4

/-- The byte at a position, or zero behind the end. -/
def byteAt (cells : Array UInt8) (position : Nat) : UInt8 :=
  cells.getD position 0

/-- The four bytes from a position on, as a number. -/
def word32 (cells : Array UInt8) (position : Nat) : UInt32 :=
  (byteAt cells position).toUInt32
    ||| (byteAt cells (position + 1)).toUInt32 <<< 8
    ||| (byteAt cells (position + 2)).toUInt32 <<< 16
    ||| (byteAt cells (position + 3)).toUInt32 <<< 24

/-- The eight bytes from a position on, as a number. -/
def word64 (cells : Array UInt8) (position : Nat) : UInt64 :=
  (word32 cells position).toUInt64 ||| (word32 cells (position + 4)).toUInt64 <<< 32

/-- The number of slots. -/
def slotCount : Nat := 4096

/-- The input size from which on the hash takes in more than four bytes. -/
def largeInput : Nat := 65535

/-- The slot of the bytes at a position. -/
def slot (cells : Array UInt8) (position : Nat) : Nat :=
  if cells.size < largeInput then
    ((word32 cells position * 2654435761) >>> 20).toNat
  else
    (((word64 cells position <<< 24) * 889523592379) >>> 52).toNat

/-- The table of an input of which nothing was seen. -/
def emptyTable : Array Nat :=
  Array.replicate slotCount 0

/-- The table after a position was seen. -/
def remember (cells : Array UInt8) (table : Array Nat) (position : Nat) : Array Nat :=
  table.setIfInBounds (slot cells position) position

/-- The largest distance that an offset can express. -/
def farthest : Nat := 65535

/-- The number of bytes at the end of an input where no copy may start. -/
def startMargin : Nat := 12

/-- The number of bytes at the end of an input that no copy reaches. -/
def stopMargin : Nat := 6

/-- Two positions hold the same four bytes. -/
def agreeFour (cells : Array UInt8) (left right : Nat) : Bool :=
  byteAt cells left == byteAt cells right
    && byteAt cells (left + 1) == byteAt cells (right + 1)
    && byteAt cells (left + 2) == byteAt cells (right + 2)
    && byteAt cells (left + 3) == byteAt cells (right + 3)

/-- An earlier position that holds the same four bytes as a position from `start` on. -/
structure Hit (cells : Array UInt8) (start : Nat) where
  position : Nat
  candidate : Nat
  start_le : start ≤ position
  room : position + startMargin ≤ cells.size
  candidate_lt : candidate < position
  near : position - candidate ≤ farthest
  agree : agreeFour cells candidate position = true

/-- The distance between the two positions of a hit. -/
def Hit.offset {cells : Array UInt8} {start : Nat} (hit : Hit cells start) : Nat :=
  hit.position - hit.candidate

theorem Hit.offset_pos {cells : Array UInt8} {start : Nat} (hit : Hit cells start) :
    0 < hit.offset := by
  have := hit.candidate_lt
  unfold Hit.offset
  omega

/-- The first hit from a position on, and the table after the search. Every 32 positions without a
hit the steps grow by one. -/
def search (cells : Array UInt8) (start attempt : Nat) (table : Array Nat) (position : Nat)
    (reached : start ≤ position) : Option (Hit cells start) × Array Nat :=
  if room : position + startMargin ≤ cells.size then
    let candidate := table.getD (slot cells position) 0
    let table := remember cells table position
    if found : candidate < position ∧ position - candidate ≤ farthest
        ∧ agreeFour cells candidate position = true then
      (some ⟨position, candidate, reached, room, found.1, found.2.1, found.2.2⟩, table)
    else
      search cells start (attempt + 1) table (position + (32 + attempt) / 32) (by omega)
  else (none, table)
  termination_by cells.size - position
  decreasing_by
    simp only [startMargin] at room
    omega

/-- The first position from which on the bytes up to `position` repeat those `offset` before, going
back no further than `floor`. -/
def extendBack (cells : Array UInt8) (offset floor : Nat) : Nat → Nat
  | 0 => 0
  | position + 1 =>
    if floor < position + 1 ∧ offset < position + 1
        ∧ byteAt cells (position - offset) = byteAt cells position then
      extendBack cells offset floor position
    else position + 1

/-- The first position from `position` on whose byte differs from the one `offset` before, or
where the end of the input is too near. -/
def extendForward (cells : Array UInt8) (offset position : Nat) : Nat :=
  if position + stopMargin < cells.size
      ∧ byteAt cells (position - offset) = byteAt cells position then
    extendForward cells offset (position + 1)
  else position
  termination_by cells.size - position

theorem extendBack_le (cells : Array UInt8) (offset floor position : Nat) :
    extendBack cells offset floor position ≤ position := by
  induction position with
  | zero => exact Nat.le_refl _
  | succ position ih =>
    unfold extendBack
    split <;> omega

theorem floor_le_extendBack (cells : Array UInt8) {offset floor position : Nat}
    (h : floor ≤ position) : floor ≤ extendBack cells offset floor position := by
  induction position with
  | zero => exact h
  | succ position ih =>
    unfold extendBack
    split
    · exact ih (by omega)
    · exact h

theorem le_extendForward (cells : Array UInt8) (offset position : Nat) :
    position ≤ extendForward cells offset position := by
  fun_induction extendForward cells offset position with
  | case1 position _ ih => omega
  | case2 position _ => exact Nat.le_refl _

end Lz4
end ArrayBlob
