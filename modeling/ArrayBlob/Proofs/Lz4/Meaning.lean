import ArrayBlob.Lz4.Growth
import ArrayBlob.Proofs.Outcome

/-!
# What a block stands for

The expansion of a block is given a capacity, which only ever cuts it off: a block stands for the
same bytes under every capacity that has room for them, and fails under every other one. A block
that stands for no bytes is malformed. What a reader makes of a block can therefore be said without
the size of the buffer that it happens to use.
-/

namespace ArrayBlob
namespace Lz4

variable {capacity : Nat} {block data : Bytes} {output result : Array UInt8}

/-- An expansion keeps what was there before it and stays within its capacity. -/
theorem size_of_expandOnto_within {input : Bytes}
    (expanded : expandOnto capacity input output = .ok result) :
    output.size ≤ result.size ∧ result.size ≤ capacity := by
  fun_induction expandOnto capacity input output with
  | case5 output first input count behind read literals filled enough fits written ended =>
    have same : written = result := Except.ok.inj expanded
    have size : written.size = output.size + literals.length := size_appendList _ _
    have taken : literals.length ≤ count := List.length_take_le _ _
    rw [← same, size]
    omega
  | case11 output first input count behind read literals filled enough fits written low high
      input' shape offset nonzero extra rest readCopy length needed roomy near ih =>
    have size : written.size = output.size + literals.length := size_appendList _ _
    have grown : (copyBack offset length written).size = written.size + length :=
      size_copyBack _ _ _
    obtain ⟨kept, bounded⟩ := ih expanded
    omega
  | _ => cases expanded

/-- An expansion that succeeds does so under every capacity with room for its result. -/
theorem expandOnto_of_room {input : Bytes} {other : Nat}
    (expanded : expandOnto capacity input output = .ok result) (room : result.size ≤ other) :
    expandOnto other input output = .ok result := by
  -- Only two checks look at the capacity, and what they compare it with is part of the result.
  fun_induction expandOnto capacity input output with
  | case5 output first input count behind read literals filled enough fits written ended =>
    have same : written = result := Except.ok.inj expanded
    have size : written.size = output.size + literals.length := size_appendList _ _
    have roomy : ¬ other < filled := by
      rw [← same, size] at room
      omega
    rw [expandOnto]
    split
    · next flaw failed =>
      rw [read] at failed
      cases failed
    · next count' behind' again =>
      rw [read] at again
      cases again
      rw [if_neg enough, if_neg roomy]
      split
      · exact expanded
      · next byte one =>
        rw [ended] at one
        cases one
      · next low high rest both =>
        rw [ended] at both
        cases both
  | case11 output first input count behind read literals filled enough fits written low high
      input' shape offset nonzero extra rest readCopy length needed roomy near ih =>
    have size : written.size = output.size + literals.length := size_appendList _ _
    have grown : (copyBack offset length written).size = written.size + length :=
      size_copyBack _ _ _
    have kept := (size_of_expandOnto_within expanded).1
    have roomyBefore : ¬ other < filled := by omega
    have roomyBehind : ¬ other < needed := by omega
    rw [expandOnto]
    split
    · next flaw failed =>
      rw [read] at failed
      cases failed
    · next count' behind' again =>
      rw [read] at again
      cases again
      rw [if_neg enough, if_neg roomyBefore]
      split
      · next none =>
        rw [shape] at none
        cases none
      · next byte one =>
        rw [shape] at one
        cases one
      · next low' high' rest' both =>
        rw [shape] at both
        cases both
        rw [if_neg nonzero]
        split
        · next flaw failed =>
          rw [readCopy] at failed
          cases failed
        · next extra' rest' again =>
          rw [readCopy] at again
          cases again
          rw [if_neg roomyBehind, if_neg near]
          exact ih expanded
  | _ => cases expanded

/-- The bytes that a block stands for. -/
def StandsFor (block data : Bytes) : Prop :=
  ∃ capacity, expand capacity block = .ok data

/-- A block that stands for no bytes at all. -/
def Malformed (block : Bytes) : Prop :=
  ∀ data, ¬ StandsFor block data

/-- An expansion gives the bytes that the block stands for when it has room for them. -/
theorem expand_eq_ok_iff :
    expand capacity block = .ok data ↔ StandsFor block data ∧ data.length ≤ capacity := by
  constructor
  · intro expanded
    obtain ⟨output, done, same⟩ := map_eq_ok_iff.1 expanded
    refine ⟨⟨capacity, expanded⟩, ?_⟩
    rw [← same, Array.length_toList]
    exact (size_of_expandOnto_within done).2
  · rintro ⟨⟨other, expanded⟩, room⟩
    obtain ⟨output, done, same⟩ := map_eq_ok_iff.1 expanded
    rw [← same, Array.length_toList] at room
    exact map_eq_ok_iff.2 ⟨output, expandOnto_of_room done room, same⟩

/-- A block stands for one byte string at most. -/
theorem StandsFor.unique {other : Bytes} (first : StandsFor block data)
    (second : StandsFor block other) : data = other := by
  have wide := expand_eq_ok_iff.2 ⟨first, Nat.le_max_left data.length other.length⟩
  have again := expand_eq_ok_iff.2 ⟨second, Nat.le_max_right data.length other.length⟩
  rw [wide] at again
  exact Except.ok.inj again

end Lz4
end ArrayBlob
