import ArrayBlob.Blob.Shape
import Mathlib.Algebra.Group.Nat.Defs
import Mathlib.Data.List.TakeWhile

/-!
# Shapes whose sizes overflow

The element count is multiplied up dimension by dimension, and is refused as soon as a product of
the first dimensions does not fit 64 bits. `Shape.Overflows` says this of the list of dimensions
alone, and that the size in bytes fits as well; a shape has a size exactly if it does not hold. Up
to the first zero these products grow, and from there on they are zero, so that the dimensions in
front of the first zero decide whether there is a count.
-/

namespace ArrayBlob
namespace Shape

/-- The product of the first dimensions, for some number of them, does not fit 64 bits, or the
number of bytes of the elements does not. -/
def Overflows (elementType : ElementType) (dims : List Nat) : Prop :=
  (∃ count, limit ≤ (dims.take count).prod) ∨ limit ≤ dims.prod * elementType.size

variable {elementType : ElementType} {dims other : List Nat} {start : Nat}

/-- A product that fits at every step is the product of all dimensions. -/
theorem product?_eq_some {result : Nat} (fits : product? start dims = some result) :
    result = start * dims.prod := by
  induction dims generalizing start with
  | nil =>
    cases fits
    rw [List.prod_nil, Nat.mul_one]
  | cons dimension rest ih =>
    unfold product? at fits
    split at fits
    · rw [ih fits, List.prod_cons, Nat.mul_assoc]
    · cases fits

/-- There is no product exactly if it reaches the limit after some of the dimensions. -/
theorem product?_eq_none_iff (small : start < limit) :
    product? start dims = none ↔ ∃ count, limit ≤ start * (dims.take count).prod := by
  induction dims generalizing start with
  | nil =>
    refine iff_of_false (by simp [product?]) ?_
    rintro ⟨count, large⟩
    rw [List.take_nil, List.prod_nil, Nat.mul_one] at large
    exact absurd small (Nat.not_lt.2 large)
  | cons dimension rest ih =>
    unfold product?
    split
    · next next =>
      rw [ih next]
      constructor
      · rintro ⟨count, large⟩
        refine ⟨count + 1, ?_⟩
        rwa [List.take_succ_cons, List.prod_cons, ← Nat.mul_assoc]
      · rintro ⟨count, large⟩
        cases count with
        | zero =>
          rw [List.take_zero, List.prod_nil, Nat.mul_one] at large
          exact absurd small (Nat.not_lt.2 large)
        | succ count =>
          rw [List.take_succ_cons, List.prod_cons, ← Nat.mul_assoc] at large
          exact ⟨count, large⟩
    · next large =>
      refine iff_of_true rfl ⟨1, ?_⟩
      rw [List.take_succ_cons, List.take_zero, List.prod_cons, List.prod_nil, Nat.mul_one]
      exact Nat.le_of_not_lt large

/-- Without dimensions nothing overflows: there are no elements. -/
theorem not_overflows_nil : ¬ Overflows elementType [] := by
  have small : elementType.size < limit := by
    cases elementType <;> decide
  rintro (⟨count, large⟩ | large)
  · rw [List.take_nil] at large
    exact absurd large (by decide)
  · rw [List.prod_nil, Nat.one_mul] at large
    exact absurd small (Nat.not_lt.2 large)

/-- A shape has no size exactly if its sizes overflow. -/
theorem rawSize_fails_iff :
    (∃ fault, rawSize elementType dims = .error fault) ↔ Overflows elementType dims := by
  cases dims with
  | nil =>
    refine iff_of_false ?_ not_overflows_nil
    rintro ⟨fault, failed⟩
    have sized : rawSize elementType [] = .ok 0 := by
      cases elementType <;> rfl
    rw [sized] at failed
    cases failed
  | cons first rest =>
    have steps : product? 1 (first :: rest) = none
        ↔ ∃ count, limit ≤ 1 * ((first :: rest).take count).prod :=
      product?_eq_none_iff (by decide)
    simp only [Nat.one_mul] at steps
    rw [rawSize, elementCount, List.isEmpty_cons, Overflows, ← steps]
    cases product : product? 1 (first :: rest) with
    | none => exact iff_of_true ⟨_, rfl⟩ (.inl rfl)
    | some count =>
      have whole := product?_eq_some product
      rw [Nat.one_mul] at whole
      rw [← whole]
      simp only [Bool.false_eq_true, if_false, reduceCtorEq, false_or]
      split
      · next fits => exact iff_of_false (by simp) (Nat.not_le.2 fits)
      · next large => exact iff_of_true ⟨_, rfl⟩ (Nat.le_of_not_lt large)

/-! ## The element count -/

/-- The dimensions in front of the first zero, or all of them if there is none. -/
def beforeZero (dims : List Nat) : List Nat :=
  dims.takeWhile (· ≠ 0)

theorem prod_beforeZero_pos (dims : List Nat) : 0 < (beforeZero dims).prod := by
  rw [List.prod_pos_iff_forall_pos_nat]
  intro dimension member
  have nonzero := List.mem_takeWhile_imp member
  exact Nat.pos_of_ne_zero (of_decide_eq_true nonzero)

theorem beforeZero_of_zero_notMem (nonzero : 0 ∉ dims) : beforeZero dims = dims := by
  rw [beforeZero, List.takeWhile_eq_self_iff]
  intro dimension member
  exact decide_eq_true fun zero => nonzero (zero ▸ member)

/-- From zero on, nothing overflows. -/
theorem product?_zero (dims : List Nat) : product? 0 dims = some 0 := by
  induction dims with
  | nil => rfl
  | cons dimension rest ih =>
    rw [product?, Nat.zero_mul, if_pos (by decide), ih]

/-- There is a product exactly if the dimensions in front of the first zero stay below the limit. -/
theorem product?_eq (positive : 0 < start) (small : start < limit) :
    product? start dims
      = if start * (beforeZero dims).prod < limit then some (start * dims.prod) else none := by
  induction dims generalizing start with
  | nil => simp [product?, beforeZero, small]
  | cons dimension rest ih =>
    rcases Nat.eq_zero_or_pos dimension with rfl | nonzero
    · have front : beforeZero (0 :: rest) = [] := rfl
      rw [front, List.prod_nil, Nat.mul_one, if_pos small, product?, Nat.mul_zero,
        if_pos (by decide), product?_zero, List.prod_cons, Nat.zero_mul, Nat.mul_zero]
    · have front : beforeZero (dimension :: rest) = dimension :: beforeZero rest :=
        List.takeWhile_cons_of_pos (decide_eq_true (Nat.ne_of_gt nonzero))
      rw [front, List.prod_cons, List.prod_cons, ← Nat.mul_assoc, ← Nat.mul_assoc, product?]
      split
      · next next => exact ih (Nat.mul_pos positive nonzero) next
      · next large =>
        -- The dimensions that follow in front of the first zero do not make the product smaller.
        have grows := Nat.le_mul_of_pos_right (start * dimension) (prod_beforeZero_pos rest)
        rw [if_neg fun below => large (Nat.lt_of_le_of_lt grows below)]

/-- The element count, or the only fault there is. -/
theorem elementCount_eq (dims : List Nat) :
    elementCount dims = if (beforeZero dims).prod < limit
      then .ok (if dims = [] then 0 else dims.prod)
      else .error (.invalidShape .countOverflow) := by
  cases dims with
  | nil => rfl
  | cons first rest =>
    rw [elementCount, List.isEmpty_cons, product?_eq (by decide) (by decide), Nat.one_mul,
      Nat.one_mul, if_neg Bool.false_ne_true, if_neg (List.cons_ne_nil first rest)]
    by_cases small : (beforeZero (first :: rest)).prod < limit
    · rw [if_pos small, if_pos small]
    · rw [if_neg small, if_neg small]

/-- A shape has a count exactly if the dimensions in front of the first zero stay below the limit.
The count is zero if a dimension is, or if there is none, and otherwise the product. -/
theorem elementCount_eq_ok_iff {count : Nat} :
    elementCount dims = .ok count ↔ (beforeZero dims).prod < limit
      ∧ count = if dims = [] ∨ 0 ∈ dims then 0 else dims.prod := by
  have product : (if dims = [] then 0 else dims.prod)
      = if dims = [] ∨ 0 ∈ dims then 0 else dims.prod := by
    by_cases zero : 0 ∈ dims
    · have vanishes : dims.prod = 0 := List.prod_eq_zero_iff_exists_zero_nat.2 ⟨0, zero, rfl⟩
      simp [zero, vanishes]
    · simp [zero]
  rw [elementCount_eq, product]
  split
  · next small => simp [small, eq_comm]
  · next large => simp [large]

/-- The order of dimensions other than zero does not matter to the count, or to its absence. -/
theorem elementCount_perm (nonzero : 0 ∉ dims) (perm : dims.Perm other) :
    elementCount dims = elementCount other := by
  have nonzeroOther : 0 ∉ other := fun zero => nonzero (perm.mem_iff.2 zero)
  have empty : dims = [] ↔ other = [] := by
    rw [← List.length_eq_zero_iff, perm.length_eq, List.length_eq_zero_iff]
  rw [elementCount_eq, elementCount_eq, beforeZero_of_zero_notMem nonzero,
    beforeZero_of_zero_notMem nonzeroOther, perm.prod_nat]
  simp only [empty]

/-- A shape has a size exactly if it has a count and the bytes of as many elements are below the
limit. -/
theorem rawSize_eq_ok_iff {size : Nat} :
    rawSize elementType dims = .ok size ↔ ∃ count, elementCount dims = .ok count
      ∧ count * elementType.size < limit ∧ size = count * elementType.size := by
  unfold rawSize
  cases elementCount dims with
  | error fault => simp
  | ok count =>
    simp only [Except.ok.injEq, exists_eq_left']
    split
    · next small => simp [small, eq_comm]
    · next large => simp [large]

/-- A raw size is a whole number of elements. -/
theorem size_dvd_rawSize {size : Nat} (sized : rawSize elementType dims = .ok size) :
    elementType.size ∣ size := by
  obtain ⟨count, -, -, rfl⟩ := rawSize_eq_ok_iff.1 sized
  exact Nat.dvd_mul_left _ _

/-- A row has as many elements as it says. -/
theorem rawSize_row {count : Nat} (small : count * elementType.size < limit) :
    rawSize elementType [1, count] = .ok (count * elementType.size) := by
  have positive := elementType.size_pos
  have fits : count < limit := Nat.lt_of_le_of_lt (Nat.le_mul_of_pos_right count positive) small
  have counted : elementCount [1, count] = .ok count := by
    simp only [elementCount, product?, List.isEmpty_cons, Nat.one_mul, Nat.mul_one,
      Bool.false_eq_true, if_false, if_pos fits, show 1 < limit by decide, if_true]
  exact rawSize_eq_ok_iff.2 ⟨count, counted, small, rfl⟩

end Shape
end ArrayBlob
