import ArrayBlob.Quantizer.Scaling
import Mathlib.Data.Int.Order.Basic
import Mathlib.Order.Lattice

/-!
# Bounds of a list

The bounds of a list are two of its ordinary quantities, and the others lie between them. All that
is needed of the number system is that it compares quantities like some key of theirs. If the key
tells ordinary quantities apart, the bounds depend on the set of these quantities alone.
-/

namespace ArrayBlob

/-! ## Choosing along a list -/

section

variable {α : Type} {pick : α → α → α}

/-- What is chosen along a list is one of its elements. -/
theorem foldl_pick_mem (chooses : ∀ x y, pick x y = x ∨ pick x y = y) (first : α)
    (rest : List α) : rest.foldl pick first ∈ first :: rest := by
  induction rest generalizing first with
  | nil => exact List.mem_cons_self
  | cons next rest ih =>
    rw [List.foldl_cons]
    rcases List.mem_cons.1 (ih (pick first next)) with same | later
    · rw [same]
      rcases chooses first next with left | right
      · rw [left]
        exact List.mem_cons_self
      · rw [right]
        exact List.mem_cons_of_mem _ List.mem_cons_self
    · exact List.mem_cons_of_mem _ (List.mem_cons_of_mem _ later)

/-- What is chosen along a list comes before each of its elements, if a choice comes before both
alternatives. -/
theorem foldl_pick_before (before : α → α → Prop) (refl : ∀ x, before x x)
    (trans : ∀ x y z, before x y → before y z → before x z)
    (left : ∀ x y, before (pick x y) x) (right : ∀ x y, before (pick x y) y) (first : α)
    (rest : List α) : ∀ x ∈ first :: rest, before (rest.foldl pick first) x := by
  induction rest generalizing first with
  | nil =>
    intro x member
    rw [List.mem_singleton] at member
    rw [member]
    exact refl first
  | cons next rest ih =>
    intro x member
    have chosen := ih (pick first next) _ List.mem_cons_self
    rcases List.mem_cons.1 member with rfl | later
    · exact trans _ _ _ chosen (left _ _)
    · rcases List.mem_cons.1 later with rfl | later
      · exact trans _ _ _ chosen (right _ _)
      · exact ih (pick first next) x (List.mem_cons_of_mem _ later)

end

namespace Quantity

variable {α κ : Type} [Quantity α] [LinearOrder κ] {key : α → κ}

/-- Quantities are compared by a key. -/
def ComparedBy (key : α → κ) : Prop :=
  ∀ x y : α, less x y = true ↔ key x < key y

theorem lesser_eq (x y : α) : lesser x y = x ∨ lesser x y = y := by
  unfold lesser
  split
  · exact .inr rfl
  · exact .inl rfl

theorem greater_eq (x y : α) : greater x y = x ∨ greater x y = y := by
  unfold greater
  split
  · exact .inr rfl
  · exact .inl rfl

theorem key_lesser_le (compared : ComparedBy key) (x y : α) :
    key (lesser x y) ≤ key x ∧ key (lesser x y) ≤ key y := by
  unfold lesser
  split
  · next smaller => exact ⟨((compared y x).1 smaller).le, le_refl _⟩
  · next smaller => exact ⟨le_refl _, le_of_not_gt fun below => smaller ((compared y x).2 below)⟩

theorem le_key_greater (compared : ComparedBy key) (x y : α) :
    key x ≤ key (greater x y) ∧ key y ≤ key (greater x y) := by
  unfold greater
  split
  · next larger => exact ⟨((compared x y).1 larger).le, le_refl _⟩
  · next larger => exact ⟨le_refl _, le_of_not_gt fun above => larger ((compared x y).2 above)⟩

/-- The bounds of a list are ordinary elements of it, between which its ordinary elements lie. -/
theorem bounds_spec (compared : ComparedBy key) {values : List α} {lowest highest : α}
    (found : bounds values = some (lowest, highest)) :
    (lowest ∈ values ∧ isOrdinary lowest = true)
      ∧ (highest ∈ values ∧ isOrdinary highest = true)
      ∧ ∀ x ∈ values, isOrdinary x = true → key lowest ≤ key x ∧ key x ≤ key highest := by
  unfold bounds at found
  split at found
  · cases found
  · next first rest ordinary =>
    cases found
    have listed (x : α) : x ∈ first :: rest ↔ x ∈ values ∧ isOrdinary x = true := by
      rw [← ordinary, List.mem_filter]
    refine ⟨(listed _).1 (foldl_pick_mem lesser_eq first rest),
      (listed _).1 (foldl_pick_mem greater_eq first rest), ?_⟩
    intro x member special
    have inside := (listed x).2 ⟨member, special⟩
    constructor
    · exact foldl_pick_before (fun x y => key x ≤ key y) (fun _ => le_refl _)
        (fun _ _ _ => le_trans) (fun x y => (key_lesser_le compared x y).1)
        (fun x y => (key_lesser_le compared x y).2) first rest x inside
    · exact foldl_pick_before (fun x y => key y ≤ key x) (fun _ => le_refl _)
        (fun _ _ _ below above => le_trans above below)
        (fun x y => (le_key_greater compared x y).1)
        (fun x y => (le_key_greater compared x y).2) first rest x inside

/-- There are no bounds without an ordinary quantity. -/
theorem bounds_eq_none_iff {values : List α} :
    bounds values = none ↔ ∀ x ∈ values, isOrdinary x = false := by
  simp only [← Bool.not_eq_true]
  rw [← List.filter_eq_nil_iff]
  unfold bounds
  split
  · next empty => exact iff_of_true rfl empty
  · next listed => simp [listed]

/-- Lists with the same ordinary quantities have the same bounds, if no two ordinary quantities have
the same key. -/
theorem bounds_congr (compared : ComparedBy key)
    (separated : ∀ x y : α, isOrdinary x = true → isOrdinary y = true → key x = key y → x = y)
    {left right : List α} (same : ∀ x : α, isOrdinary x = true → (x ∈ left ↔ x ∈ right)) :
    bounds left = bounds right := by
  cases found : bounds left with
  | none =>
    have special := bounds_eq_none_iff.1 found
    refine (bounds_eq_none_iff.2 fun x member => ?_).symm
    rw [← Bool.not_eq_true]
    intro ordinary
    rw [special x ((same x ordinary).2 member)] at ordinary
    cases ordinary
  | some ends =>
    obtain ⟨lowest, highest⟩ := ends
    obtain ⟨⟨lowestMem, lowestOrdinary⟩, ⟨highestMem, highestOrdinary⟩, between⟩ :=
      bounds_spec compared found
    cases again : bounds right with
    | none =>
      have special := bounds_eq_none_iff.1 again _ ((same _ lowestOrdinary).1 lowestMem)
      rw [lowestOrdinary] at special
      cases special
    | some ends =>
      obtain ⟨least, greatest⟩ := ends
      obtain ⟨⟨leastMem, leastOrdinary⟩, ⟨greatestMem, greatestOrdinary⟩, between'⟩ :=
        bounds_spec compared again
      -- Each end of one list is an element of the other, and so between the ends of that one.
      have lower := between _ ((same _ leastOrdinary).2 leastMem) leastOrdinary
      have lower' := between' _ ((same _ lowestOrdinary).1 lowestMem) lowestOrdinary
      have upper := between _ ((same _ greatestOrdinary).2 greatestMem) greatestOrdinary
      have upper' := between' _ ((same _ highestOrdinary).1 highestMem) highestOrdinary
      rw [separated _ _ lowestOrdinary leastOrdinary (lower.1.antisymm lower'.1),
        separated _ _ highestOrdinary greatestOrdinary (upper'.2.antisymm upper.2)]

end Quantity

/-- Doubles that are numbers are compared by their order keys. -/
theorem Double.comparedBy_orderKey : Quantity.ComparedBy Double.orderKey := by
  intro x y
  exact decide_eq_true_iff

end ArrayBlob
