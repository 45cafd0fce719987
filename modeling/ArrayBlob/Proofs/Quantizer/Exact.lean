import ArrayBlob.Proofs.Quantizer.Codes
import Mathlib.Data.Rat.Floor

/-!
# The law of exact scaling

Over the rational numbers, a scaling divides the interval from the smallest to the largest nonzero
number of a list into `0xFFF8` equal steps, and a number is coded by the steps up to it, rounded
down to a multiple of 8. What is lost is less than 8 steps, always downwards, and nothing at either
end of the interval. Restored numbers lie on the grid of the codes with both ends among them, so
that coding them again changes nothing.
-/

namespace ArrayBlob

namespace Scaling

variable {scaling : Scaling Rat} {lowest highest x y : Rat}

/-! ## Steps -/

/-- The number of steps up to a number, with its fraction. -/
def steps (scaling : Scaling Rat) (x : Rat) : Rat :=
  (x - scaling.offset) / scaling.scale

/-- A number lies in the interval of a scaling. -/
structure Reaches (scaling : Scaling Rat) (x : Rat) : Prop where
  nonneg : 0 ≤ scaling.steps x
  le_top : scaling.steps x ≤ topCode.toNat

/-- The mask keeps all but the three low bits of a code. -/
theorem and_stepMask {n : Nat} (small : n < 2 ^ 16) : n &&& stepMask.toNat = 8 * (n / 8) := by
  have high : (n &&& stepMask.toNat) / 2 ^ 3 = n / 2 ^ 3 &&& (2 ^ 13 - 1) := Nat.and_div_two_pow
  have low : (n &&& stepMask.toNat) % 2 ^ 3 = n % 2 ^ 3 &&& 0 := Nat.and_mod_two_pow
  rw [Nat.and_two_pow_sub_one_eq_mod] at high
  rw [Nat.and_zero] at low
  omega

/-- The whole steps up to a number in the interval are between zero and the largest code. -/
theorem Reaches.floor_mem (reaches : scaling.Reaches x) :
    0 ≤ ⌊scaling.steps x⌋ ∧ ⌊scaling.steps x⌋ ≤ topCode.toNat := by
  refine ⟨Int.floor_nonneg.2 reaches.nonneg, ?_⟩
  have below := (Int.floor_le (scaling.steps x)).trans reaches.le_top
  exact_mod_cast below

/-- The code of a number in the interval is the whole steps up to it, rounded down to a multiple
of 8. -/
theorem Reaches.toNat_stepsTo (reaches : scaling.Reaches x) :
    (scaling.stepsTo x).toNat = 8 * (⌊scaling.steps x⌋.toNat / 8) := by
  obtain ⟨nonneg, below⟩ := reaches.floor_mem
  have top : topCode.toNat = 0xFFF8 := rfl
  have small : ⌊scaling.steps x⌋.toNat < 2 ^ 16 := by omega
  have kept : min ⌊scaling.steps x⌋.toNat 0xFFFF = ⌊scaling.steps x⌋.toNat := by omega
  have whole : Quantity.wholePart ((x - scaling.offset) / scaling.scale)
      = UInt16.ofNat (min ⌊scaling.steps x⌋.toNat 0xFFFF) := rfl
  rw [stepsTo, whole, kept, UInt16.toNat_and, UInt16.toNat_ofNat_of_lt' small, and_stepMask small]

/-- The code of a number in the interval is less than 8 steps below it. -/
theorem Reaches.stepsTo_close (reaches : scaling.Reaches x) :
    ((scaling.stepsTo x).toNat : Rat) ≤ scaling.steps x
      ∧ scaling.steps x < (scaling.stepsTo x).toNat + 8 := by
  obtain ⟨nonneg, -⟩ := reaches.floor_mem
  have code := reaches.toNat_stepsTo
  have below : ((scaling.stepsTo x).toNat : Int) ≤ ⌊scaling.steps x⌋ := by omega
  have above : ⌊scaling.steps x⌋ + 1 ≤ ((scaling.stepsTo x).toNat : Int) + 8 := by omega
  constructor
  · exact_mod_cast Int.le_floor.1 below
  · refine (Int.lt_floor_add_one _).trans_le ?_
    exact_mod_cast above

theorem steps_mono (positive : 0 < scaling.scale) (ordered : x ≤ y) :
    scaling.steps x ≤ scaling.steps y :=
  div_le_div_of_nonneg_right (sub_le_sub_right ordered _) positive.le

/-- Larger numbers do not have smaller codes. -/
theorem stepsTo_mono (positive : 0 < scaling.scale) (first : scaling.Reaches x)
    (second : scaling.Reaches y) (ordered : x ≤ y) : scaling.stepsTo x ≤ scaling.stepsTo y := by
  have whole := Int.floor_mono (steps_mono positive ordered)
  rw [UInt16.le_iff_toNat_le, first.toNat_stepsTo, second.toNat_stepsTo]
  omega

/-! ## Restored numbers -/

theorem afterSteps_eq (scaling : Scaling Rat) (code : UInt16) :
    scaling.afterSteps code = code.toNat * scaling.scale + scaling.offset := rfl

/-- The steps up to a number lead back to it. -/
theorem steps_mul_scale_add (positive : 0 < scaling.scale) (x : Rat) :
    scaling.steps x * scaling.scale + scaling.offset = x := by
  rw [steps, div_mul_cancel₀ _ positive.ne', sub_add_cancel]

theorem steps_afterSteps (positive : 0 < scaling.scale) (code : UInt16) :
    scaling.steps (scaling.afterSteps code) = code.toNat := by
  rw [steps, afterSteps_eq, add_sub_cancel_right, mul_div_cancel_right₀ _ positive.ne']

/-- A number in the interval is restored as one that is less than 8 steps below it. -/
theorem Reaches.afterSteps_close (reaches : scaling.Reaches x) (positive : 0 < scaling.scale) :
    0 ≤ x - scaling.afterSteps (scaling.stepsTo x)
      ∧ x - scaling.afterSteps (scaling.stepsTo x) < 8 * scaling.scale := by
  obtain ⟨below, above⟩ := reaches.stepsTo_close
  have lost : x - scaling.afterSteps (scaling.stepsTo x)
      = (scaling.steps x - (scaling.stepsTo x).toNat) * scaling.scale := by
    have here := steps_mul_scale_add positive x
    rw [afterSteps_eq, sub_mul]
    linarith
  rw [lost]
  constructor
  · exact mul_nonneg (sub_nonneg.2 below) positive.le
  · exact mul_lt_mul_of_pos_right (by linarith) positive

/-- A number that is a possible code of steps away from the offset is restored as itself. -/
theorem afterSteps_stepsTo_of_steps (positive : 0 < scaling.scale) {code : Nat}
    (multiple : 8 ∣ code) (ordinary : code ≤ topCode.toNat) (onGrid : scaling.steps x = code) :
    scaling.afterSteps (scaling.stepsTo x) = x := by
  have reaches : scaling.Reaches x :=
    ⟨by rw [onGrid]; exact Nat.cast_nonneg code, by rw [onGrid]; exact_mod_cast ordinary⟩
  have whole : ⌊scaling.steps x⌋ = code := by
    rw [onGrid]
    exact Int.floor_natCast code
  have same : (scaling.stepsTo x).toNat = code := by
    rw [reaches.toNat_stepsTo, whole, Int.toNat_natCast]
    exact Nat.mul_div_cancel' multiple
  rw [afterSteps_eq, same, ← onGrid]
  exact steps_mul_scale_add positive x

/-! ## Intervals -/

theorem scale_of_eq (x : Rat) : (ofInterval x x).scale = 1 := by
  have point : (x - x) / Quantity.ofNat topCode.toNat = 0 := by rw [sub_self, zero_div]
  have zero : Quantity.isZero (0 : Rat) = true := by decide
  unfold ofInterval
  dsimp only
  rw [point, zero]
  rfl

theorem scale_of_lt (extent : lowest < highest) :
    (ofInterval lowest highest).scale = (highest - lowest) / topCode.toNat := by
  have positive : (0 : Rat) < (highest - lowest) / topCode.toNat :=
    div_pos (sub_pos.2 extent) (by decide)
  have nonzero : Quantity.isZero ((highest - lowest) / Quantity.ofNat topCode.toNat) = false :=
    decide_eq_false positive.ne'
  unfold ofInterval
  dsimp only
  rw [nonzero]
  rfl

theorem scale_pos (ordered : lowest ≤ highest) : 0 < (ofInterval lowest highest).scale := by
  rcases ordered.eq_or_lt with rfl | extent
  · rw [scale_of_eq]
    exact one_pos
  · rw [scale_of_lt extent]
    exact div_pos (sub_pos.2 extent) (by decide)

theorem steps_lowest (lowest highest : Rat) :
    (ofInterval lowest highest).steps lowest = 0 := by
  change (lowest - lowest) / _ = 0
  rw [sub_self, zero_div]

theorem steps_highest (extent : lowest < highest) :
    (ofInterval lowest highest).steps highest = topCode.toNat := by
  rw [steps, scale_of_lt extent]
  change (highest - lowest) / _ = _
  rw [div_div_cancel₀ (sub_pos.2 extent).ne']

/-- Both ends of an interval are restored as themselves: the number of steps is a code. -/
theorem afterSteps_stepsTo_ends (ordered : lowest ≤ highest) (isEnd : x = lowest ∨ x = highest) :
    (ofInterval lowest highest).afterSteps ((ofInterval lowest highest).stepsTo x) = x := by
  have positive := scale_pos ordered
  have first := afterSteps_stepsTo_of_steps positive (Nat.dvd_zero 8) (Nat.zero_le _)
    (by rw [steps_lowest, Nat.cast_zero])
  rcases isEnd with rfl | rfl
  · exact first
  · rcases ordered.eq_or_lt with rfl | extent
    · exact first
    · exact afterSteps_stepsTo_of_steps positive (by decide) (le_refl _) (steps_highest extent)

/-- The interval between two numbers holds all numbers between them. -/
theorem reaches_of_between (below : lowest ≤ x) (above : x ≤ highest) :
    (ofInterval lowest highest).Reaches x := by
  have positive := scale_pos (below.trans above)
  have fromLowest := steps_mono positive below
  have toHighest := steps_mono positive above
  rw [steps_lowest] at fromLowest
  refine ⟨fromLowest, toHighest.trans ?_⟩
  -- In an interval of one point the highest number is no steps away, and not at the largest code.
  rcases (below.trans above).eq_or_lt with rfl | extent
  · rw [steps_lowest]
    exact Nat.cast_nonneg _
  · rw [steps_highest extent]

end Scaling

namespace ExactScaling

variable {values : List Rat} {lowest highest x y : Rat}

/-! ## The interval of a list -/

/-- The smallest and the largest nonzero number of a list. -/
structure Extremes (values : List Rat) (lowest highest : Rat) : Prop where
  lowest_mem : lowest ∈ values
  lowest_ne : lowest ≠ 0
  highest_mem : highest ∈ values
  highest_ne : highest ≠ 0
  between : ∀ x ∈ values, x ≠ 0 → lowest ≤ x ∧ x ≤ highest

theorem isOrdinary_iff : Quantity.isOrdinary x = true ↔ x ≠ 0 := by
  change (if x = 0 then some Special.positiveZero else none).isNone = true ↔ _
  split <;> simp_all

theorem comparedBy_id : Quantity.ComparedBy (id : Rat → Rat) :=
  fun _ _ => decide_eq_true_iff

theorem Extremes.le (extremes : Extremes values lowest highest) : lowest ≤ highest :=
  (extremes.between _ extremes.highest_mem extremes.highest_ne).1

/-- The scaling of a list with a nonzero number is that of the interval between two extremes. -/
theorem exists_extremes (member : x ∈ values) (nonzero : x ≠ 0) :
    ∃ lowest highest, Extremes values lowest highest
      ∧ scaling values = Scaling.ofInterval lowest highest := by
  cases found : Quantity.bounds values with
  | none =>
    have special := Quantity.bounds_eq_none_iff.1 found x member
    rw [isOrdinary_iff.2 nonzero] at special
    cases special
  | some bounds =>
    obtain ⟨lowest, highest⟩ := bounds
    obtain ⟨⟨lowestMem, lowestNe⟩, ⟨highestMem, highestNe⟩, between⟩ :=
      Quantity.bounds_spec comparedBy_id found
    refine ⟨lowest, highest, ?_, by rw [scaling, found]; rfl⟩
    exact ⟨lowestMem, isOrdinary_iff.1 lowestNe, highestMem, isOrdinary_iff.1 highestNe,
      fun x member nonzero => between x member (isOrdinary_iff.2 nonzero)⟩

theorem Extremes.scaling_eq (extremes : Extremes values lowest highest) :
    scaling values = Scaling.ofInterval lowest highest := by
  obtain ⟨least, greatest, again, found⟩ := exists_extremes extremes.lowest_mem extremes.lowest_ne
  have lower := (again.between _ extremes.lowest_mem extremes.lowest_ne).1.antisymm
    (extremes.between _ again.lowest_mem again.lowest_ne).1
  have upper := (again.between _ extremes.highest_mem extremes.highest_ne).2.antisymm'
    (extremes.between _ again.highest_mem again.highest_ne).2
  rw [found, lower, upper]

/-- A nonzero number of a list is in the interval of its scaling. -/
theorem Extremes.reaches (extremes : Extremes values lowest highest) (member : x ∈ values)
    (nonzero : x ≠ 0) : (scaling values).Reaches x := by
  obtain ⟨below, above⟩ := extremes.between x member nonzero
  rw [extremes.scaling_eq]
  exact Scaling.reaches_of_between below above

theorem scale_pos (values : List Rat) : 0 < (scaling values).scale := by
  by_cases nonzero : ∃ x ∈ values, x ≠ 0
  · obtain ⟨x, member, nonzero⟩ := nonzero
    obtain ⟨lowest, highest, extremes, found⟩ := exists_extremes member nonzero
    rw [found]
    exact Scaling.scale_pos extremes.le
  · have special : ∀ x ∈ values, Quantity.isOrdinary x = false := by
      intro x member
      rw [← Bool.not_eq_true, isOrdinary_iff]
      exact fun other => nonzero ⟨x, member, other⟩
    rw [scaling, Quantity.bounds_eq_none_iff.2 special]
    exact one_pos

/-! ## Restored lists -/

/-- The number that is restored for one of the numbers of a list. -/
def restored (values : List Rat) (x : Rat) : Rat :=
  restore (scaling values) ((scaling values).code id x)

theorem quantized_eq_map (values : List Rat) : quantized values = values.map (restored values) :=
  List.map_map

theorem special?_zero : Quantity.special? (0 : Rat) = some .positiveZero := rfl

theorem special?_of_ne (nonzero : x ≠ 0) : Quantity.special? x = none :=
  if_neg nonzero

/-- Each number of a list has a code with a meaning. -/
theorem decode?_code (values : List Rat) (x : Rat) :
    (scaling values).decode? id ((scaling values).code id x) = some (restored values x) := by
  rw [restored, restore, Scaling.decode?_code]
  rfl

theorem restored_zero (values : List Rat) : restored values 0 = 0 := by
  rw [restored, restore, Scaling.decode?_code, Scaling.restore, special?_zero]
  rfl

theorem code_of_ne (values : List Rat) (nonzero : x ≠ 0) :
    (scaling values).code id x = (scaling values).stepsTo x := by
  rw [Scaling.code, special?_of_ne nonzero]
  rfl

theorem restored_of_ne (values : List Rat) (nonzero : x ≠ 0) :
    restored values x = (scaling values).afterSteps ((scaling values).stepsTo x) := by
  rw [restored, restore, Scaling.decode?_code, Scaling.restore, special?_of_ne nonzero]
  rfl

/-- What is restored for a nonzero number is less than 8 steps below it. -/
theorem restored_close (member : x ∈ values) (nonzero : x ≠ 0) :
    0 ≤ x - restored values x ∧ x - restored values x < 8 * (scaling values).scale := by
  obtain ⟨lowest, highest, extremes, -⟩ := exists_extremes member nonzero
  rw [restored_of_ne values nonzero]
  exact (extremes.reaches member nonzero).afterSteps_close (scale_pos values)

theorem Extremes.restored_end (extremes : Extremes values lowest highest)
    (isEnd : x = lowest ∨ x = highest) : restored values x = x := by
  have nonzero : x ≠ 0 := by
    rcases isEnd with rfl | rfl
    · exact extremes.lowest_ne
    · exact extremes.highest_ne
  rw [restored_of_ne values nonzero, extremes.scaling_eq]
  exact Scaling.afterSteps_stepsTo_ends extremes.le isEnd

/-- A number of a list with no nonzero number below it, or none above it, is restored as itself. -/
theorem restored_of_extreme (member : x ∈ values)
    (extreme : (∀ y ∈ values, y ≠ 0 → x ≤ y) ∨ ∀ y ∈ values, y ≠ 0 → y ≤ x) :
    restored values x = x := by
  by_cases zero : x = 0
  · rw [zero]
    exact restored_zero values
  · obtain ⟨lowest, highest, extremes, -⟩ := exists_extremes member zero
    obtain ⟨above, below⟩ := extremes.between x member zero
    apply extremes.restored_end
    rcases extreme with least | greatest
    · exact .inl ((least _ extremes.lowest_mem extremes.lowest_ne).antisymm above)
    · exact .inr (below.antisymm (greatest _ extremes.highest_mem extremes.highest_ne))

/-- Codes keep the order of the numbers. Only a zero is coded above larger numbers. -/
theorem code_mono (first : x ∈ values) (nonzero : x ≠ 0) (second : y ∈ values)
    (ordered : x ≤ y) : (scaling values).code id x ≤ (scaling values).code id y := by
  rw [code_of_ne values nonzero]
  by_cases zero : y = 0
  · have top : (scaling values).code id y = Special.positiveZero.code := by
      rw [zero]
      exact (Scaling.code_eq_iff _ _ _ _).2 special?_zero
    rw [top]
    exact UInt16.le_trans (Scaling.stepsTo_le _ _) (by decide)
  · obtain ⟨lowest, highest, extremes, -⟩ := exists_extremes first nonzero
    rw [code_of_ne values zero]
    exact Scaling.stepsTo_mono (scale_pos values) (extremes.reaches first nonzero)
      (extremes.reaches second zero) ordered

/-! ## Coding again -/

/-- Restoring keeps the smallest and the largest nonzero number. -/
theorem Extremes.quantized (extremes : Extremes values lowest highest) :
    Extremes (quantized values) lowest highest := by
  rw [quantized_eq_map]
  refine
    { lowest_mem := List.mem_map.2 ⟨lowest, extremes.lowest_mem, extremes.restored_end (.inl rfl)⟩
      lowest_ne := extremes.lowest_ne
      highest_mem :=
        List.mem_map.2 ⟨highest, extremes.highest_mem, extremes.restored_end (.inr rfl)⟩
      highest_ne := extremes.highest_ne
      between := ?_ }
  intro y restoredMem changed
  obtain ⟨x, member, rfl⟩ := List.mem_map.1 restoredMem
  have nonzero : x ≠ 0 := by
    rintro rfl
    exact changed (restored_zero values)
  obtain ⟨lower, -⟩ := restored_close member nonzero
  obtain ⟨-, above⟩ := extremes.between x member nonzero
  -- Rounding down never leads below the offset, which is the smallest number itself.
  refine ⟨?_, by linarith⟩
  have offset : (scaling values).offset = lowest := by
    rw [extremes.scaling_eq]
    rfl
  rw [restored_of_ne values nonzero, Scaling.afterSteps_eq, offset]
  have raised := mul_nonneg (Nat.cast_nonneg ((scaling values).stepsTo x).toNat)
    (scale_pos values).le
  linarith

/-- What was restored is restored as itself: the scaling is the same, and the number lies on the
grid of its codes. -/
theorem restored_restored (member : x ∈ values) :
    restored (quantized values) (restored values x) = restored values x := by
  -- A nonzero number can be restored as zero. Then it has the code of a zero the second time.
  by_cases zero : restored values x = 0
  · rw [zero]
    exact restored_zero _
  · have nonzero : x ≠ 0 := by
      rintro rfl
      exact zero (restored_zero values)
    obtain ⟨lowest, highest, extremes, -⟩ := exists_extremes member nonzero
    have same : scaling (quantized values) = scaling values := by
      rw [extremes.quantized.scaling_eq, extremes.scaling_eq]
    rw [restored_of_ne _ zero, same]
    rw [restored_of_ne values nonzero]
    exact Scaling.afterSteps_stepsTo_of_steps (scale_pos values)
      (Scaling.eight_dvd_stepsTo _ _) (UInt16.le_iff_toNat_le.1 (Scaling.stepsTo_le _ _))
      (Scaling.steps_afterSteps (scale_pos values) _)

theorem quantized_quantized (values : List Rat) :
    quantized (quantized values) = quantized values := by
  rw [quantized_eq_map (quantized values)]
  refine (List.map_congr_left ?_).trans (List.map_id _)
  intro y restoredMem
  rw [quantized_eq_map] at restoredMem
  obtain ⟨x, member, rfl⟩ := List.mem_map.1 restoredMem
  exact restored_restored member

/-- The law of exact scaling, for every list of rational numbers. The scale is positive. The whole
steps up to a nonzero number are within the codes, and its code is these steps, rounded down to a
multiple of 8; a zero has the code of its own. Every code is restored: a zero as zero, and any other
number as one that is at most as large and less than 8 steps below it. Among nonzero numbers the
codes keep the order, and no code of theirs is above that of a zero. The smallest and the largest
nonzero number are restored as themselves, and so is every number of a constant list. Coding and
restoring a second time changes nothing. -/
theorem restored_close_ordered_stable (values : List Rat) :
    0 < (scaling values).scale
    ∧ (∀ x ∈ values, (scaling values).decode? id ((scaling values).code id x)
        = some (restored values x))
    ∧ (0 ∈ values → (scaling values).code id 0 = Special.positiveZero.code
        ∧ restored values 0 = 0)
    ∧ (∀ x ∈ values, x ≠ 0 →
      (0 ≤ ⌊(scaling values).steps x⌋ ∧ ⌊(scaling values).steps x⌋ ≤ 0xFFF8)
      ∧ ((scaling values).code id x).toNat = 8 * (⌊(scaling values).steps x⌋.toNat / 8)
      ∧ (0 ≤ x - restored values x ∧ x - restored values x < 8 * (scaling values).scale)
      ∧ ∀ y ∈ values, x ≤ y → (scaling values).code id x ≤ (scaling values).code id y)
    ∧ (∀ x ∈ values, ((∀ y ∈ values, y ≠ 0 → x ≤ y) ∨ ∀ y ∈ values, y ≠ 0 → y ≤ x) →
      restored values x = x)
    ∧ (∀ constant, (∀ x ∈ values, x = constant) → quantized values = values)
    ∧ quantized (quantized values) = quantized values := by
  refine ⟨scale_pos values, fun x _ => decode?_code values x, fun _ => ⟨?_, restored_zero values⟩,
    ?_, fun x member extreme => restored_of_extreme member extreme, ?_, quantized_quantized values⟩
  · exact (Scaling.code_eq_iff _ _ _ _).2 special?_zero
  · intro x member nonzero
    obtain ⟨lowest, highest, extremes, -⟩ := exists_extremes member nonzero
    have reaches := extremes.reaches member nonzero
    refine ⟨reaches.floor_mem, ?_, restored_close member nonzero, ?_⟩
    · rw [code_of_ne values nonzero, reaches.toNat_stepsTo]
    · intro y second ordered
      exact code_mono member nonzero second ordered
  · intro constant same
    rw [quantized_eq_map]
    refine (List.map_congr_left ?_).trans (List.map_id _)
    intro x member
    apply restored_of_extreme member
    left
    intro y other _
    rw [same x member, same y other]

/-- Minus one, zero, one half and two thirds. One half has the code 58968 and is restored a little
smaller; the other numbers are restored as themselves, and so is the whole list that was
restored. -/
theorem restored_close_ordered_stable_four :
    (scaling [-1, 0, 1 / 2, 2 / 3]).code id (1 / 2) = 58968
      ∧ quantized [-1, 0, 1 / 2, 2 / 3] = [-1, 0, 4094 / 8191, 2 / 3]
      ∧ quantized [-1, 0, 4094 / 8191, 2 / 3] = [-1, 0, 4094 / 8191, 2 / 3]
      ∧ 1 / 2 - restored [-1, 0, 1 / 2, 2 / 3] (1 / 2)
        < 8 * (scaling [-1, 0, 1 / 2, 2 / 3]).scale := by
  obtain ⟨-, -, -, near, -, -, stable⟩ := restored_close_ordered_stable [-1, 0, 1 / 2, 2 / 3]
  obtain ⟨-, -, close, -⟩ := near (1 / 2) (by decide +kernel) (by decide +kernel)
  have first : quantized [-1, 0, 1 / 2, 2 / 3] = [-1, 0, 4094 / 8191, 2 / 3] := by
    decide +kernel
  rw [first] at stable
  exact ⟨by decide +kernel, first, stable, close.2⟩

end ExactScaling
end ArrayBlob
