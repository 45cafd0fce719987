import ArrayBlob.Lz4.Block
import ArrayBlob.Lz4.Search

/-!
# Factorization of an input into a block

The factorization is greedy: it takes the first hit that the search offers, lengthens it in both
directions as far as the bytes agree, writes the bytes in between as literals, and goes on behind
the copy. Inputs of fewer than 13 bytes are all tail.
-/

namespace ArrayBlob
namespace Lz4

/-- The size of the smallest input that is searched. -/
def smallestSearched : Nat := 13

/-- The sequences found from `floor` on, behind those already found in reverse, and the position
where the tail starts. The search goes on at `position`. -/
def sequencesFrom (cells : Array UInt8) (table : Array Nat) (floor position : Nat)
    (_reached : floor ≤ position) (found : List Sequence) : List Sequence × Nat :=
  match search cells position 0 table position (Nat.le_refl _) with
  | (none, _) => (found.reverse, floor)
  | (some hit, table) =>
    let start := extendBack cells hit.offset floor hit.position
    let stop := extendForward cells hit.offset (hit.position + shortestCopy)
    let sequence : Sequence :=
      ⟨(cells.extract floor start).toList, hit.offset, stop - start⟩
    sequencesFrom cells (remember cells table (stop - 2)) stop stop (Nat.le_refl _)
      (sequence :: found)
  termination_by cells.size - floor
  decreasing_by
    have room := hit.room
    have after := hit.start_le
    have forward := le_extendForward cells hit.offset (hit.position + shortestCopy)
    simp only [startMargin, shortestCopy] at *
    omega

/-- The block of an input. -/
def factor (cells : Array UInt8) : Block :=
  if cells.size < smallestSearched then ⟨[], cells.toList⟩
  else
    let (sequences, rest) :=
      sequencesFrom cells (remember cells emptyTable 0) 0 1 (by decide) []
    ⟨sequences, (cells.extract rest cells.size).toList⟩

/-- The compressed form of a byte string. -/
def compress (bytes : Bytes) : Bytes :=
  (factor bytes.toArray).encode

end Lz4
end ArrayBlob
