import ArrayBlob.Lz4.Factorization

/-!
# The table points backwards

Every slot of the table holds a position before the one that is searched next. The search can
therefore trust the table: a search that takes each entry for an earlier position without looking
makes the same blocks.
-/

namespace ArrayBlob
namespace Lz4

/-- Every slot holds an earlier position. -/
def Backward (table : Array Nat) (position : Nat) : Prop :=
  ∀ index, table.getD index 0 < position

namespace Backward

variable {cells : Array UInt8} {table : Array Nat} {position later : Nat}

theorem emptyTable (positive : 0 < position) : Backward emptyTable position := by
  intro index
  rw [Array.getD_eq_getD_getElem?, Lz4.emptyTable, Array.getElem?_replicate]
  split <;> exact positive

theorem mono (backward : Backward table position) (order : position ≤ later) :
    Backward table later :=
  fun index => Nat.lt_of_lt_of_le (backward index) order

/-- Remembering an earlier position keeps the table backward. -/
theorem remember {entry : Nat} (backward : Backward table position) (earlier : entry < position) :
    Backward (remember cells table entry) position := by
  intro index
  have held := backward index
  rw [Array.getD_eq_getD_getElem?] at held ⊢
  rw [Lz4.remember, Array.getElem?_setIfInBounds]
  split
  · split
    · exact earlier
    · exact Nat.lt_of_le_of_lt (Nat.zero_le _) earlier
  · exact held

/-- After a search the table is backward behind the position of the hit. -/
theorem search {start attempt : Nat} {reached : start ≤ position} {hit : Hit cells start}
    {after : Array Nat} (backward : Backward table position)
    (searched : search cells start attempt table position reached = (some hit, after)) :
    Backward after (hit.position + 1) := by
  fun_induction Lz4.search cells start attempt table position reached with
  | case1 attempt table position reached room candidate table' found =>
    simp only [Prod.mk.injEq, Option.some.injEq] at searched
    obtain ⟨rfl, rfl⟩ := searched
    exact (backward.mono (Nat.le_succ _)).remember (Nat.lt_succ_self _)
  | case2 attempt table position reached room candidate table' missed ih =>
    have further : position + 1 ≤ position + (32 + attempt) / 32 := by omega
    exact ih (((backward.mono (Nat.le_succ _)).remember (Nat.lt_succ_self _)).mono further) searched
  | case3 attempt table position reached _ => cases searched

end Backward

/-! ## Trusting the table -/

/-- A position from `start` on and the one that the table holds for it. -/
structure Match (cells : Array UInt8) (start : Nat) where
  position : Nat
  candidate : Nat
  start_le : start ≤ position
  room : position + startMargin ≤ cells.size

/-- A hit without its evidence. -/
def Hit.toMatch {cells : Array UInt8} {start : Nat} (hit : Hit cells start) : Match cells start :=
  ⟨hit.position, hit.candidate, hit.start_le, hit.room⟩

theorem zero_le_first : 0 ≤ 1 := by
  decide

/-- A step of the search stays behind the start. -/
theorem start_le_step {start position attempt : Nat} (reached : start ≤ position) :
    start ≤ position + (32 + attempt) / 32 := by
  omega

/-- The search for a hit that takes the candidate for an earlier position. -/
def trustingSearch (cells : Array UInt8) (start attempt : Nat) (table : Array Nat) (position : Nat)
    (reached : start ≤ position) : Option (Match cells start) × Array Nat :=
  if room : position + startMargin ≤ cells.size then
    let candidate := table.getD (slot cells position) 0
    let table := remember cells table position
    if position - candidate ≤ farthest ∧ agreeFour cells candidate position = true then
      (some ⟨position, candidate, reached, room⟩, table)
    else
      trustingSearch cells start (attempt + 1) table (position + (32 + attempt) / 32)
        (start_le_step reached)
  else (none, table)
  termination_by cells.size - position
  decreasing_by
    simp only [startMargin] at room
    omega

/-- With a backward table, both searches give the same hit and the same table. -/
theorem trustingSearch_eq {cells : Array UInt8} {start attempt : Nat} {table : Array Nat}
    {position : Nat} {reached : start ≤ position} (backward : Backward table position) :
    trustingSearch cells start attempt table position reached
      = ((search cells start attempt table position reached).1.map Hit.toMatch,
        (search cells start attempt table position reached).2) := by
  fun_induction search cells start attempt table position reached with
  | case1 attempt table position reached room candidate table' found =>
    rw [trustingSearch, dif_pos room]
    simp only
    rw [if_pos ⟨found.2.1, found.2.2⟩]
    rfl
  | case2 attempt table position reached room candidate table' missed ih =>
    have missed' :
        ¬ (position - candidate ≤ farthest ∧ agreeFour cells candidate position = true) :=
      fun found => missed ⟨backward _, found.1, found.2⟩
    have further : position + 1 ≤ position + (32 + attempt) / 32 := by omega
    rw [trustingSearch, dif_pos room]
    simp only
    rw [if_neg missed']
    exact ih (((backward.mono (Nat.le_succ _)).remember (Nat.lt_succ_self _)).mono further)
  | case3 attempt table position reached full =>
    rw [trustingSearch, dif_neg full]
    rfl

/-- The sequences that the trusting search finds. -/
def trustingSequencesFrom (cells : Array UInt8) (table : Array Nat) (floor position : Nat)
    (_reached : floor ≤ position) (found : List Sequence) : List Sequence × Nat :=
  match trustingSearch cells position 0 table position (Nat.le_refl _) with
  | (none, _) => (found.reverse, floor)
  | (some hit, table) =>
    let offset := hit.position - hit.candidate
    let start := extendBack cells offset floor hit.position
    let stop := extendForward cells offset (hit.position + shortestCopy)
    let sequence : Sequence := ⟨(cells.extract floor start).toList, offset, stop - start⟩
    trustingSequencesFrom cells (remember cells table (stop - 2)) stop stop (Nat.le_refl _)
      (sequence :: found)
  termination_by cells.size - floor
  decreasing_by
    have room := hit.room
    have after := hit.start_le
    have forward := le_extendForward cells (hit.position - hit.candidate)
      (hit.position + shortestCopy)
    simp only [startMargin, shortestCopy] at *
    omega

/-- With a backward table, both searches find the same sequences. -/
theorem trustingSequencesFrom_eq {cells : Array UInt8} {table : Array Nat} {floor position : Nat}
    {reached : floor ≤ position} {found : List Sequence} (backward : Backward table position) :
    trustingSequencesFrom cells table floor position reached found
      = sequencesFrom cells table floor position reached found := by
  fun_induction sequencesFrom cells table floor position reached found with
  | case1 table floor position reached found table' searched =>
    rw [trustingSequencesFrom, trustingSearch_eq backward, searched]
    rfl
  | case2 table floor position reached found hit table' searched start stop sequence ih =>
    have forward : hit.position + shortestCopy ≤ stop := le_extendForward _ _ _
    have behind : Backward (remember cells table' (stop - 2)) stop := by
      simp only [shortestCopy] at forward
      exact ((backward.search searched).mono (by omega)).remember (by omega)
    rw [trustingSequencesFrom, trustingSearch_eq backward, searched]
    exact ih behind

/-- The block of an input by the trusting search. -/
def trustingFactor (cells : Array UInt8) : Block :=
  if cells.size < smallestSearched then ⟨[], cells.toList⟩
  else
    let (sequences, rest) :=
      trustingSequencesFrom cells (remember cells emptyTable 0) 0 1 zero_le_first []
    ⟨sequences, (cells.extract rest cells.size).toList⟩

/-- Comparing a candidate with the position never decides what an input is compressed to. -/
theorem trustingFactor_eq (cells : Array UInt8) : trustingFactor cells = factor cells := by
  have backward : Backward (remember cells emptyTable 0) 1 :=
    (Backward.emptyTable (by decide)).remember (by decide)
  unfold trustingFactor factor
  rw [trustingSequencesFrom_eq backward]

end Lz4
end ArrayBlob
