import ArrayBlob.Planes
import Mathlib.Data.List.Nodup

/-!
# Byte planes as rearrangements

Grouping bytes by their place in the element only rearranges them. The buffer is filled by moves
between positions that exist, each position is the target of exactly one of them, and therefore the
order of the moves and the former content of the buffer make no difference: what results is the
transposition, whose inverse puts the elements back together.
-/

namespace ArrayBlob
namespace Planes

/-! ## Moving bytes -/

section

variable {source buffer : Array UInt8} {route : Nat × Nat} {routes : List (Nat × Nat)}

/-- A move between positions that exist changes the one it goes to and no other. -/
theorem exists_move? (taken : route.1 < source.size) (placed : route.2 < buffer.size) :
    ∃ after, move? source buffer route = some after ∧ after.size = buffer.size
      ∧ after[route.2]? = source[route.1]?
      ∧ ∀ position, position ≠ route.2 → after[position]? = buffer[position]? := by
  refine ⟨buffer.set route.2 source[route.1] placed, ?_, Array.size_set _, ?_, ?_⟩
  · rw [move?, Array.getElem?_eq_getElem taken]
    exact dif_pos placed
  · rw [Array.getElem?_set_self, Array.getElem?_eq_getElem taken]
  · intro position other
    exact Array.getElem?_set_ne placed (Ne.symm other)

/-- Moves to different positions put at each of them the byte that was moved there, and leave the
other positions as they were. -/
theorem exists_foldlM_move? (source buffer : Array UInt8) (apart : (routes.map Prod.snd).Nodup)
    (within : ∀ route ∈ routes, route.1 < source.size ∧ route.2 < buffer.size) :
    ∃ after, routes.foldlM (move? source) buffer = some after ∧ after.size = buffer.size
      ∧ (∀ route ∈ routes, after[route.2]? = source[route.1]?)
      ∧ ∀ position, position ∉ routes.map Prod.snd → after[position]? = buffer[position]? := by
  induction routes generalizing buffer with
  | nil => exact ⟨buffer, rfl, rfl, nofun, fun _ _ => rfl⟩
  | cons route rest ih =>
    rw [List.map_cons, List.nodup_cons] at apart
    rw [List.forall_mem_cons] at within
    obtain ⟨moved, step, size, target, others⟩ := exists_move? within.1.1 within.1.2
    obtain ⟨after, run, sameSize, targets, untouched⟩ :=
      ih moved apart.2 (by rw [size]; exact within.2)
    refine ⟨after, ?_, sameSize.trans size, ?_, ?_⟩
    · rw [List.foldlM_cons, step]
      exact run
    · -- No later move goes where the first one went.
      rw [List.forall_mem_cons]
      exact ⟨(untouched _ apart.1).trans target, targets⟩
    · intro position outside
      rw [List.map_cons, List.mem_cons, not_or] at outside
      exact (untouched _ outside.2).trans (others _ outside.1)

end

/-- Moves that go to every position once, each with the byte of its origin, gather the bytes of the
origins, whatever the buffer held. A buffer of another size is not filled. -/
theorem moveAll?_eq_gather {routes : List (Nat × Nat)} {origin : Nat → Nat} {bytes : Bytes}
    (targets : (routes.map Prod.snd).Perm (List.range bytes.length))
    (origins : ∀ route ∈ routes, route.1 = origin route.2)
    (named : ∀ position, position < bytes.length → origin position < bytes.length)
    (buffer : Bytes) :
    moveAll? routes bytes buffer
      = if buffer.length = bytes.length then some (gather origin bytes) else none := by
  unfold moveAll?
  by_cases fits : buffer.length = bytes.length
  · rw [if_pos fits, if_pos fits]
    have apart : (routes.map Prod.snd).Nodup := targets.nodup_iff.2 List.nodup_range
    have reached {route : Nat × Nat} (listed : route ∈ routes) : route.2 < bytes.length :=
      List.mem_range.1 (targets.mem_iff.1 (List.mem_map_of_mem listed))
    obtain ⟨after, run, size, moved, -⟩ :=
      exists_foldlM_move? bytes.toArray buffer.toArray apart fun route listed => by
        rw [List.size_toArray, List.size_toArray, fits, origins route listed]
        exact ⟨named _ (reached listed), reached listed⟩
    rw [run, Option.map_some, Option.some.injEq]
    apply List.ext_getElem
    · rw [Array.length_toList, size, List.size_toArray, fits, length_gather]
    · intro position left right
      rw [length_gather] at right
      obtain ⟨route, listed, rfl⟩ :=
        List.mem_map.1 (targets.mem_iff.2 (List.mem_range.2 right))
      have found : after.toList[route.2]? = bytes[origin route.2]? := by
        rw [Array.getElem?_toList, moved route listed, origins route listed, List.getElem?_toArray]
      rw [List.getElem?_eq_getElem left, List.getElem?_eq_getElem (named _ right)] at found
      rw [getElem_gather _ (named _ right)]
      exact Option.some.inj found
  · rw [if_neg fits, if_neg fits]

/-! ## Routes -/

theorem row_div {width place : Nat} (inside : place < width) (row : Nat) :
    (row * width + place) / width = row := by
  rw [Nat.mul_comm, Nat.mul_add_div (Nat.zero_lt_of_lt inside), Nat.div_eq_of_lt inside,
    Nat.add_zero]

theorem row_mod {width place : Nat} (inside : place < width) (row : Nat) :
    (row * width + place) % width = place := by
  rw [Nat.mul_comm, Nat.mul_add_mod, Nat.mod_eq_of_lt inside]

/-- Going through rows of some width, and in each through its places, is going through all positions
in order. -/
theorem flatMap_range_rows {α : Type} (width : Nat) (read : Nat → Nat → Nat → α) (rows : Nat) :
    ((List.range rows).flatMap fun row =>
        (List.range width).map fun place => read (row * width + place) row place)
      = (List.range (rows * width)).map fun position =>
        read position (position / width) (position % width) := by
  induction rows with
  | zero => simp
  | succ rows ih =>
    rw [List.range_succ, List.flatMap_append, ih, List.flatMap_singleton, Nat.succ_mul,
      List.range_add, List.map_append, List.map_map]
    congr 1
    apply List.map_congr_left
    intro place listed
    have inside : place < width := List.mem_range.1 listed
    rw [Function.comp_apply, row_div inside, row_mod inside]

/-- Where a byte goes when the bytes of an input of some size are grouped. -/
def destination (width size position : Nat) : Nat :=
  if width ≤ 1 then position else transpose width (size / width) position

/-- Where the byte at a position comes from when the bytes of an input of some size are grouped. -/
def origin (width size position : Nat) : Nat :=
  if width ≤ 1 then position else transpose (size / width) width position

theorem destination_origin (width size position : Nat) :
    destination width size (origin width size position) = position := by
  unfold destination origin
  by_cases narrow : width ≤ 1
  · simp only [if_pos narrow]
  · simp only [if_neg narrow, transpose_transpose]

theorem origin_destination (width size position : Nat) :
    origin width size (destination width size position) = position := by
  unfold destination origin
  by_cases narrow : width ≤ 1
  · simp only [if_pos narrow]
  · simp only [if_neg narrow, transpose_transpose]

theorem origin_lt (width : Nat) {size position : Nat} (inside : position < size) :
    origin width size position < size := by
  unfold origin
  split
  · exact inside
  · exact transpose_lt_of_le (Nat.div_mul_le_self size width) inside

theorem destination_lt (width : Nat) {size position : Nat} (inside : position < size) :
    destination width size position < size := by
  unfold destination
  split
  · exact inside
  · exact transpose_lt_of_le (Nat.mul_div_le size width) inside

/-- All bytes are moved in order, each to its destination. -/
theorem splitRoutes_eq (width size : Nat) :
    splitRoutes width size
      = (List.range size).map fun position => (position, destination width size position) := by
  unfold splitRoutes destination
  by_cases narrow : width ≤ 1
  · simp only [if_pos narrow, stayRoutes, Nat.sub_zero, List.range_eq_range']
  · simp only [if_neg narrow]
    generalize counted : size / width = count
    have table : count * width ≤ size := counted ▸ Nat.div_mul_le_self size width
    have whole : List.range size
        = List.range (count * width) ++ List.range' (count * width) (size - count * width) := by
      calc List.range size
          = List.range' 0 (count * width + (size - count * width)) := by
            rw [Nat.add_sub_cancel' table, List.range_eq_range']
        _ = _ := by rw [← List.range'_append_1, Nat.zero_add, List.range_eq_range']
    rw [whole, List.map_append, elementRoutes, stayRoutes,
      flatMap_range_rows width fun position element place => (position, place * count + element)]
    congr 1
    · apply List.map_congr_left
      intro position listed
      have inside : position < width * count := Nat.mul_comm _ _ ▸ List.mem_range.1 listed
      rw [transpose, if_pos inside]
    · apply List.map_congr_left
      intro position listed
      have behind : ¬ position < width * count := by
        rw [Nat.mul_comm]
        exact Nat.not_lt.2 (List.mem_range'_1.1 listed).1
      rw [transpose, if_neg behind]

/-- Positions that are exchanged among each other are the same positions in another order. -/
theorem map_perm_range {forth back : Nat → Nat} {size : Nat}
    (forth_lt : ∀ position, position < size → forth position < size)
    (back_lt : ∀ position, position < size → back position < size)
    (forth_back : ∀ position, forth (back position) = position)
    (back_forth : ∀ position, back (forth position) = position) :
    ((List.range size).map forth).Perm (List.range size) := by
  have injective : Function.Injective forth := Function.LeftInverse.injective back_forth
  refine (List.perm_ext_iff_of_nodup (List.nodup_range.map injective) List.nodup_range).2 ?_
  intro position
  simp only [List.mem_map, List.mem_range]
  constructor
  · rintro ⟨before, inside, rfl⟩
    exact forth_lt before inside
  · intro inside
    exact ⟨back position, back_lt position inside, forth_back position⟩

/-! ## Filling a buffer -/

theorem gather_id (bytes : Bytes) : gather (fun position => position) bytes = bytes := by
  apply List.ext_getElem (length_gather _ _)
  intro position left right
  rw [getElem_gather left right]

theorem split_eq_gather (width : Nat) (bytes : Bytes) :
    split width bytes = gather (origin width bytes.length) bytes := by
  unfold split origin
  by_cases narrow : width ≤ 1
  · simp only [if_pos narrow, gather_id]
  · simp only [if_neg narrow]

theorem join_eq_gather (width : Nat) (bytes : Bytes) :
    join width bytes = gather (destination width bytes.length) bytes := by
  unfold join destination
  by_cases narrow : width ≤ 1
  · simp only [if_pos narrow, gather_id]
  · simp only [if_neg narrow]

/-- A buffer of the size of the input is filled with the planes, and no move goes astray. -/
theorem splitOnto_eq (width : Nat) (bytes buffer : Bytes) :
    splitOnto width bytes buffer
      = if buffer.length = bytes.length then some (split width bytes) else none := by
  rw [splitOnto, split_eq_gather]
  apply moveAll?_eq_gather
  · rw [splitRoutes_eq, List.map_map]
    exact map_perm_range (fun _ => destination_lt width) (fun _ => origin_lt width)
      (destination_origin width _) (origin_destination width _)
  · intro route listed
    rw [splitRoutes_eq] at listed
    obtain ⟨position, -, rfl⟩ := List.mem_map.1 listed
    exact (origin_destination width _ position).symm
  · exact fun _ => origin_lt width

/-- A buffer of the size of the input is filled with the elements, and no move goes astray. -/
theorem joinOnto_eq (width : Nat) (bytes buffer : Bytes) :
    joinOnto width bytes buffer
      = if buffer.length = bytes.length then some (join width bytes) else none := by
  rw [joinOnto, join_eq_gather]
  apply moveAll?_eq_gather
  · rw [splitRoutes_eq, List.map_map, List.map_map]
    exact List.Perm.of_eq (List.map_id _)
  · intro route listed
    rw [splitRoutes_eq, List.map_map] at listed
    obtain ⟨position, -, rfl⟩ := List.mem_map.1 listed
    rfl
  · exact fun _ => destination_lt width

/-! ## Planes -/

theorem getElem?_gather {source : Nat → Nat} {bytes : Bytes} {position : Nat}
    (inside : position < bytes.length) (named : source position < bytes.length) :
    (gather source bytes)[position]? = bytes[source position]? := by
  rw [List.getElem?_eq_getElem ((length_gather source bytes).symm ▸ inside),
    List.getElem?_eq_getElem named, getElem_gather _ named]

/-- The bytes of the planes are those of the input in another order. -/
theorem split_perm (width : Nat) (bytes : Bytes) : (split width bytes).Perm bytes := by
  have positions : ((List.range bytes.length).map (origin width bytes.length)).Perm
      (List.range bytes.length) :=
    map_perm_range (fun _ => origin_lt width) (fun _ => destination_lt width)
      (origin_destination width _) (destination_origin width _)
  have moved := positions.map fun position => bytes.toArray.getD position 0
  rw [List.map_map] at moved
  rw [split_eq_gather]
  exact moved.trans (List.Perm.of_eq (gather_id bytes))

section

variable {width count element place position : Nat} {bytes : Bytes}

/-- The position of a byte among the planes is in the table. -/
theorem plane_lt (listed : element < count) (inside : place < width) :
    place * count + element < count * width := by
  calc place * count + element
      < (place + 1) * count := by rw [Nat.succ_mul]; exact Nat.add_lt_add_left listed _
    _ ≤ width * count := Nat.mul_le_mul_right count inside
    _ = count * width := Nat.mul_comm width count

/-- Each position of the table is that of one byte of one element. -/
theorem existsUnique_cell (inside : position < count * width) :
    ∃! cell : Nat × Nat, cell.1 < count ∧ cell.2 < width ∧ cell.2 * count + cell.1 = position := by
  have some_element : 0 < count := Nat.pos_of_ne_zero (by rintro rfl; simp at inside)
  refine ⟨(position % count, position / count), ?_, ?_⟩
  · exact ⟨Nat.mod_lt _ some_element, Nat.div_lt_of_lt_mul inside, Nat.div_add_mod' _ _⟩
  · rintro ⟨element, place⟩ ⟨listed, -, rfl⟩
    rw [row_div listed, row_mod listed]

/-- A byte of an element is found in the plane of its place, at the number of the element. -/
theorem getElem?_split (several : 2 ≤ width) (counted : bytes.length / width = count)
    (listed : element < count) (inside : place < width) :
    (split width bytes)[place * count + element]? = bytes[element * width + place]? := by
  have within := plane_lt listed inside
  have table : count * width ≤ bytes.length := counted ▸ Nat.div_mul_le_self _ _
  have reached : place * count + element < bytes.length := Nat.lt_of_lt_of_le within table
  have source : origin width bytes.length (place * count + element) = element * width + place := by
    rw [origin, if_neg (Nat.not_le.2 several), counted, transpose, if_pos within, row_mod listed,
      row_div listed]
  rw [split_eq_gather, getElem?_gather reached (origin_lt width reached), source]

/-- The bytes behind the last whole element stay. -/
theorem drop_split (several : 2 ≤ width) (counted : bytes.length / width = count) :
    (split width bytes).drop (count * width) = bytes.drop (count * width) := by
  apply List.ext_getElem?
  intro index
  rw [List.getElem?_drop, List.getElem?_drop]
  rcases Nat.lt_or_ge (count * width + index) bytes.length with reached | behind
  · have source : origin width bytes.length (count * width + index) = count * width + index := by
      rw [origin, if_neg (Nat.not_le.2 several), counted, transpose, if_neg (by omega)]
    rw [split_eq_gather, getElem?_gather reached (origin_lt width reached), source]
  · rw [List.getElem?_eq_none (by rwa [length_split]), List.getElem?_eq_none behind]

end

/-- Splitting into planes and joining them undo each other in both orders, for every input and every
width, and only rearrange the bytes. Filling a buffer byte by byte never leaves the input or the
buffer and gives the same result whatever the buffer held. Elements of one byte or none stay as they
are. Of wider elements, the byte at some place goes to the plane of this place, at the number of its
element: the positions of all of these bytes are in the table of whole elements, each position of
the table is that of one byte, and the rest, which is shorter than an element, stays. -/
theorem split_permutes_and_join_inverts (width : Nat) (bytes : Bytes) :
    join width (split width bytes) = bytes
      ∧ split width (join width bytes) = bytes
      ∧ (split width bytes).Perm bytes
      ∧ (∀ buffer : Bytes, buffer.length = bytes.length →
        splitOnto width bytes buffer = some (split width bytes)
          ∧ joinOnto width bytes buffer = some (join width bytes))
      ∧ (width ≤ 1 → split width bytes = bytes)
      ∧ (2 ≤ width → ∀ count, bytes.length / width = count →
        (∀ element place, element < count → place < width →
          place * count + element < count * width
            ∧ (split width bytes)[place * count + element]? = bytes[element * width + place]?)
        ∧ (∀ position, position < count * width → ∃! cell : Nat × Nat,
          cell.1 < count ∧ cell.2 < width ∧ cell.2 * count + cell.1 = position)
        ∧ count * width ≤ bytes.length ∧ bytes.length < count * width + width
        ∧ (split width bytes).drop (count * width) = bytes.drop (count * width)) := by
  refine ⟨join_split width bytes, split_join width bytes, split_perm width bytes, ?_, ?_, ?_⟩
  · intro buffer fits
    exact ⟨by rw [splitOnto_eq, if_pos fits], by rw [joinOnto_eq, if_pos fits]⟩
  · intro narrow
    rw [split, if_pos narrow]
  · rintro several count counted
    have rest : bytes.length < count * width + width := by
      have some_width : 0 < width := Nat.lt_of_lt_of_le (by decide) several
      rw [← counted, ← Nat.succ_mul]
      exact Nat.lt_mul_of_div_lt (Nat.lt_succ_self _) some_width
    refine ⟨?_, fun _ => existsUnique_cell, counted ▸ Nat.div_mul_le_self _ _, rest,
      drop_split several counted⟩
    intro element place listed inside
    exact ⟨plane_lt listed inside, getElem?_split several counted listed inside⟩

/-- Five bytes as elements of two: two whole elements, and a byte that stays. -/
theorem split_permutes_and_join_inverts_five :
    splitOnto 2 [1, 2, 3, 4, 9] [0, 0, 0, 0, 0] = some [1, 3, 2, 4, 9]
      ∧ joinOnto 2 [1, 3, 2, 4, 9] [7, 7, 7, 7, 7] = some [1, 2, 3, 4, 9]
      ∧ (split 2 [1, 2, 3, 4, 9])[1 * 2 + 0]? = some 2
      ∧ splitOnto 2 [1, 2, 3, 4, 9] [0, 0, 0, 0] = none := by
  obtain ⟨-, -, -, filled, -, placed⟩ := split_permutes_and_join_inverts 2 [1, 2, 3, 4, 9]
  obtain ⟨-, -, -, refilled, -⟩ := split_permutes_and_join_inverts 2 [1, 3, 2, 4, 9]
  obtain ⟨each, -⟩ := placed (by decide) 2 rfl
  refine ⟨?_, ?_, (each 0 1 (by decide) (by decide)).2, rfl⟩
  · exact (filled [0, 0, 0, 0, 0] rfl).1
  · exact (refilled [7, 7, 7, 7, 7] rfl).2

end Planes
end ArrayBlob
