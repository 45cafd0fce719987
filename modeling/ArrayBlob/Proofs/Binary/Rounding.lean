import ArrayBlob.Binary.Format
import Mathlib.Algebra.Order.Field.Power
import Mathlib.Algebra.Order.Ring.Rat
import Mathlib.Tactic.FieldSimp
import Mathlib.Tactic.Linarith
import Mathlib.Tactic.Positivity
import Mathlib.Tactic.Ring

/-!
# Rounding keeps the order

The magnitude that a ratio is rounded to depends on the ratio alone and never falls when the ratio
grows. What a rounded result can be is therefore bounded by rounding the bounds of the exact one.
Within a binade this is the order of the nearest whole numbers of last places; between two binades
lies a power of two that neither count passes.
-/

namespace ArrayBlob

/-! ## Whole numbers near to a ratio -/

section

variable {numerator denominator : Nat}

/-- A ratio is rounded to at most `k` if it is below the middle above `k`, or is that middle and
`k` is even. -/
theorem nearestEven_le_iff (positive : 0 < denominator) (k : Nat) :
    nearestEven numerator denominator ≤ k
      ↔ (numerator : ℚ) / denominator < k + 1 / 2
        ∨ (numerator : ℚ) / denominator = k + 1 / 2 ∧ k % 2 = 0 := by
  have below : (0 : ℚ) < denominator := by exact_mod_cast positive
  rw [div_lt_iff₀ below, div_eq_iff below.ne']
  have less : (numerator : ℚ) < (k + 1 / 2) * denominator
      ↔ 2 * numerator < 2 * (denominator * k) + denominator := by
    rw [← Nat.cast_lt (α := ℚ)]
    push_cast
    constructor <;> intro h <;> linarith
  have same : (numerator : ℚ) = (k + 1 / 2) * denominator
      ↔ 2 * numerator = 2 * (denominator * k) + denominator := by
    rw [← Nat.cast_inj (R := ℚ)]
    push_cast
    constructor <;> intro h <;> linarith
  rw [less, same]
  have split := Nat.div_add_mod numerator denominator
  have small := Nat.mod_lt numerator positive
  unfold nearestEven
  dsimp only
  generalize numerator / denominator = quotient at *
  generalize numerator % denominator = remainder at *
  rcases Nat.lt_trichotomy quotient k with low | rfl | high
  · have step := Nat.mul_le_mul_left denominator (Nat.succ_le_of_lt low)
    rw [Nat.mul_succ] at step
    split_ifs <;> omega
  · split_ifs <;> omega
  · have step := Nat.mul_le_mul_left denominator (Nat.succ_le_of_lt high)
    rw [Nat.mul_succ] at step
    split_ifs <;> omega

/-- The larger of two ratios is not rounded to the smaller number. -/
theorem nearestEven_mono {numerator' denominator' : Nat} (positive : 0 < denominator)
    (positive' : 0 < denominator')
    (ordered : (numerator : ℚ) / denominator ≤ (numerator' : ℚ) / denominator') :
    nearestEven numerator denominator ≤ nearestEven numerator' denominator' := by
  rw [nearestEven_le_iff positive]
  rcases (nearestEven_le_iff positive' _).1 (Nat.le_refl _) with below | ⟨middle, even⟩
  · exact .inl (lt_of_le_of_lt ordered below)
  · rw [middle] at ordered
    rcases lt_or_eq_of_le ordered with below | same
    · exact .inl below
    · exact .inr ⟨same, even⟩

/-- A whole bound of a ratio bounds the number that it is rounded to. -/
theorem nearestEven_le {k : Nat} (positive : 0 < denominator)
    (bound : (numerator : ℚ) / denominator ≤ k) : nearestEven numerator denominator ≤ k :=
  (nearestEven_le_iff positive k).2 (.inl (by linarith))

theorem le_nearestEven {k : Nat} (positive : 0 < denominator)
    (bound : (k : ℚ) ≤ (numerator : ℚ) / denominator) :
    k ≤ nearestEven numerator denominator := by
  by_contra low
  have under : nearestEven numerator denominator ≤ k - 1 := by omega
  have one_le : 1 ≤ k := by omega
  rcases (nearestEven_le_iff positive _).1 under with below | ⟨middle, -⟩
  · push_cast [Nat.cast_sub one_le] at below
    linarith
  · push_cast [Nat.cast_sub one_le] at middle
    linarith

end

/-! ## Powers of two below a ratio -/

/-- An integral power of two as a ratio of whole ones. -/
theorem two_zpow_eq (k : Int) : (2 : ℚ) ^ k = (2 ^ k.toNat : Nat) / (2 ^ (-k).toNat : Nat) := by
  rw [eq_div_iff (by positivity)]
  push_cast
  rw [← zpow_natCast, ← zpow_natCast, ← zpow_add₀ two_ne_zero]
  congr 1
  omega

section

variable {numerator denominator : Nat}

/-- A positive ratio lies between two neighbouring powers of two. -/
theorem binaryExponent_spec (above : 0 < numerator) (positive : 0 < denominator) :
    (2 : ℚ) ^ binaryExponent numerator denominator ≤ (numerator : ℚ) / denominator
      ∧ (numerator : ℚ) / denominator < 2 ^ (binaryExponent numerator denominator + 1) := by
  have below : (0 : ℚ) < denominator := by exact_mod_cast positive
  have low : (2 : ℚ) ^ (numerator.log2 : Int) ≤ numerator := by
    rw [zpow_natCast]
    exact_mod_cast Nat.log2_self_le above.ne'
  have high : (numerator : ℚ) < 2 ^ ((numerator.log2 : Int) + 1) := by
    have bound := Nat.lt_log2_self (n := numerator)
    exact_mod_cast bound
  have low' : (2 : ℚ) ^ (denominator.log2 : Int) ≤ denominator := by
    rw [zpow_natCast]
    exact_mod_cast Nat.log2_self_le positive.ne'
  have high' : (denominator : ℚ) < 2 ^ ((denominator.log2 : Int) + 1) := by
    have bound := Nat.lt_log2_self (n := denominator)
    exact_mod_cast bound
  let guess : Int := numerator.log2 - denominator.log2
  have tested : denominator * 2 ^ guess.toNat ≤ numerator * 2 ^ (-guess).toNat
      ↔ (2 : ℚ) ^ guess ≤ (numerator : ℚ) / denominator := by
    rw [two_zpow_eq, div_le_div_iff₀ (by positivity) below]
    norm_cast
    rw [Nat.mul_comm denominator]
  have lower : (2 : ℚ) ^ (guess - 1) ≤ (numerator : ℚ) / denominator := by
    rw [le_div_iff₀ below]
    calc (2 : ℚ) ^ (guess - 1) * denominator
        ≤ 2 ^ (guess - 1) * 2 ^ ((denominator.log2 : Int) + 1) := by gcongr
      _ = 2 ^ (numerator.log2 : Int) := by
          rw [← zpow_add₀ two_ne_zero]
          congr 1
          omega
      _ ≤ numerator := low
  have upper : (numerator : ℚ) / denominator < 2 ^ (guess + 1) := by
    rw [div_lt_iff₀ below]
    calc (numerator : ℚ) < 2 ^ ((numerator.log2 : Int) + 1) := high
      _ = 2 ^ (guess + 1) * 2 ^ (denominator.log2 : Int) := by
          rw [← zpow_add₀ two_ne_zero]
          congr 1
          omega
      _ ≤ 2 ^ (guess + 1) * denominator := by gcongr
  change (2 : ℚ) ^ (if _ then guess else guess - 1) ≤ _
    ∧ _ < (2 : ℚ) ^ ((if _ then guess else guess - 1) + 1)
  split_ifs with reached
  · exact ⟨tested.1 reached, upper⟩
  · refine ⟨lower, ?_⟩
    rw [sub_add_cancel]
    exact lt_of_not_ge fun reached' => reached (tested.2 reached')

/-- The exponent of a ratio is the largest one whose power of two is not above the ratio. -/
theorem le_binaryExponent_iff (above : 0 < numerator) (positive : 0 < denominator) (k : Int) :
    k ≤ binaryExponent numerator denominator
      ↔ (2 : ℚ) ^ k ≤ (numerator : ℚ) / denominator := by
  obtain ⟨lower, upper⟩ := binaryExponent_spec above positive
  constructor
  · intro small
    exact le_trans (zpow_le_zpow_right₀ one_le_two small) lower
  · intro reached
    have smaller := lt_of_le_of_lt reached upper
    rw [zpow_lt_zpow_iff_right₀ one_lt_two] at smaller
    omega

end

/-! ## Rounding to a format -/

namespace Format

variable {format : Format} {numerator denominator : Nat}

/-- The exponent of the last place that a ratio is rounded to. -/
def placeOf (format : Format) (numerator denominator : Nat) : Int :=
  max format.lowestPlace (binaryExponent numerator denominator + 1 - format.precision)

/-- The number of last places that a ratio is rounded to. -/
def countOf (format : Format) (numerator denominator : Nat) : Nat :=
  nearestEven (numerator * 2 ^ (-format.placeOf numerator denominator).toNat)
    (denominator * 2 ^ (format.placeOf numerator denominator).toNat)

theorem round_eq (above : numerator ≠ 0) :
    format.round numerator denominator
      = min format.infinity
          ((format.placeOf numerator denominator - format.lowestPlace).toNat * format.binade
            + format.countOf numerator denominator) := by
  unfold round
  rw [if_neg above]
  rfl

/-- Last places of a ratio are counted by dividing it by one of them. -/
theorem ratio_of_places (place : Int) :
    ((numerator * 2 ^ (-place).toNat : Nat) : ℚ) / (denominator * 2 ^ place.toNat : Nat)
      = (numerator : ℚ) / denominator / 2 ^ place := by
  rw [two_zpow_eq place]
  push_cast
  field_simp

theorem denominator_pos_of_places (positive : 0 < denominator) (place : Int) :
    0 < denominator * 2 ^ place.toNat :=
  Nat.mul_pos positive (Nat.two_pow_pos _)

/-- A ratio has at most as many last places as two binades have magnitudes. -/
theorem countOf_le (wide : 0 < format.precision) (above : 0 < numerator)
    (positive : 0 < denominator) :
    format.countOf numerator denominator ≤ 2 * format.binade := by
  apply nearestEven_le (denominator_pos_of_places positive _)
  obtain ⟨-, upper⟩ := binaryExponent_spec above positive
  have reached : binaryExponent numerator denominator + 1
      ≤ format.placeOf numerator denominator + format.precision := by
    unfold placeOf
    omega
  have two_binades : ((2 * format.binade : Nat) : ℚ) = 2 ^ (format.precision : Int) := by
    rw [binade, ← Nat.pow_succ', Nat.succ_eq_add_one, Nat.sub_one_add_one wide.ne', zpow_natCast]
    push_cast
    rfl
  rw [ratio_of_places, two_binades, div_le_iff₀ (by positivity), ← zpow_add₀ two_ne_zero]
  rw [add_comm] at reached
  exact le_trans upper.le (zpow_le_zpow_right₀ one_le_two (by omega))

/-- Above the lowest place, a ratio has at least as many last places as a binade has
magnitudes. -/
theorem binade_le_countOf (wide : 0 < format.precision) (above : 0 < numerator)
    (positive : 0 < denominator)
    (high : format.lowestPlace < format.placeOf numerator denominator) :
    format.binade ≤ format.countOf numerator denominator := by
  apply le_nearestEven (denominator_pos_of_places positive _)
  obtain ⟨lower, -⟩ := binaryExponent_spec above positive
  have same : format.placeOf numerator denominator + ((format.precision - 1 : Nat) : Int)
      = binaryExponent numerator denominator := by
    unfold placeOf at *
    omega
  rw [ratio_of_places, le_div_iff₀ (by positivity), binade]
  push_cast
  rw [← zpow_natCast, ← zpow_add₀ two_ne_zero, add_comm, same]
  exact lower

/-- Rounding keeps the order of ratios. -/
theorem round_mono {numerator' denominator' : Nat} (wide : 0 < format.precision)
    (positive : 0 < denominator) (positive' : 0 < denominator')
    (ordered : (numerator : ℚ) / denominator ≤ (numerator' : ℚ) / denominator') :
    format.round numerator denominator ≤ format.round numerator' denominator' := by
  rcases Nat.eq_zero_or_pos numerator with rfl | above
  · simp [round]
  have above' : 0 < numerator' := by
    by_contra none
    have zero : numerator' = 0 := by omega
    subst zero
    have low : (0 : ℚ) < (numerator : ℚ) / denominator := by positivity
    simp at ordered
    linarith
  rw [round_eq above.ne', round_eq above'.ne']
  apply min_le_min_left
  have exponents : binaryExponent numerator denominator
      ≤ binaryExponent numerator' denominator' := by
    rw [le_binaryExponent_iff above' positive']
    exact le_trans (binaryExponent_spec above positive).1 ordered
  have places : format.placeOf numerator denominator
      ≤ format.placeOf numerator' denominator' := by
    unfold placeOf
    omega
  rcases lt_or_eq_of_le places with apart | same
  · -- The next power of two separates the counts of the two places.
    have upper := countOf_le wide above positive
    have lowest : format.lowestPlace ≤ format.placeOf numerator denominator := le_max_left _ _
    have lower := binade_le_countOf wide above' positive' (lt_of_le_of_lt lowest apart)
    have steps : (format.placeOf numerator denominator - format.lowestPlace).toNat + 1
        ≤ (format.placeOf numerator' denominator' - format.lowestPlace).toNat := by
      omega
    have scaled := Nat.mul_le_mul_right format.binade steps
    rw [Nat.add_mul] at scaled
    omega
  · have counts : format.countOf numerator denominator
        ≤ format.countOf numerator' denominator' := by
      unfold countOf
      rw [← same]
      apply nearestEven_mono (denominator_pos_of_places positive _)
        (denominator_pos_of_places positive' _)
      rw [ratio_of_places, ratio_of_places]
      gcongr
    rw [same]
    exact Nat.add_le_add_left counts _

/-- A dyadic number as a ratio of whole numbers. -/
theorem ratio_of_dyadic (significand : Nat) (place : Int) :
    ((significand * 2 ^ place.toNat : Nat) : ℚ) / (2 ^ (-place).toNat : Nat)
      = significand * 2 ^ place := by
  rw [two_zpow_eq place]
  push_cast
  ring

/-- Rounding keeps the order of dyadic numbers. -/
theorem roundDyadic_mono {significand significand' : Nat} {place place' : Int}
    (wide : 0 < format.precision)
    (ordered : (significand : ℚ) * 2 ^ place ≤ significand' * 2 ^ place') :
    format.roundDyadic significand place ≤ format.roundDyadic significand' place' := by
  apply round_mono wide (Nat.two_pow_pos _) (Nat.two_pow_pos _)
  rw [ratio_of_dyadic, ratio_of_dyadic]
  exact ordered

/-! ## The numbers of a format -/

/-- The number that a finite magnitude stands for. -/
def number (format : Format) (magnitude : Nat) : ℚ :=
  format.significand magnitude * 2 ^ format.place magnitude

theorem number_nonneg (format : Format) (magnitude : Nat) : 0 ≤ format.number magnitude := by
  unfold number
  positivity

/-- The next magnitude has one last place more, or it is the first of a binade with a last place
of twice the size. -/
theorem significand_succ (format : Format) (magnitude : Nat) :
    (format.steps (magnitude + 1) = format.steps magnitude
        ∧ format.significand magnitude ≤ format.significand (magnitude + 1))
      ∨ (format.steps (magnitude + 1) = format.steps magnitude + 1
        ∧ format.significand magnitude ≤ 2 * format.significand (magnitude + 1)) := by
  have positive : 0 < format.binade := Nat.two_pow_pos _
  have split := Nat.mod_add_div magnitude format.binade
  have small := Nat.mod_lt magnitude positive
  have first : magnitude < format.binade ↔ magnitude / format.binade = 0 := by
    rw [Nat.div_eq_zero_iff]
    omega
  have first' : magnitude + 1 < format.binade ↔ (magnitude + 1) / format.binade = 0 := by
    rw [Nat.div_eq_zero_iff]
    omega
  unfold steps significand
  rcases Nat.lt_or_ge (magnitude % format.binade + 1) format.binade with inside | last
  · have next := (Nat.div_mod_unique (a := magnitude + 1) (d := magnitude / format.binade)
      (c := magnitude % format.binade + 1) positive).2 ⟨by omega, inside⟩
    refine .inl ⟨by rw [next.1], ?_⟩
    simp only [first, first', next.1, next.2]
    split_ifs <;> omega
  · have next := (Nat.div_mod_unique (a := magnitude + 1) (d := magnitude / format.binade + 1)
      (c := 0) positive).2 ⟨by rw [Nat.mul_succ]; omega, positive⟩
    simp only [first, first', next.1, next.2]
    by_cases zero : magnitude / format.binade = 0
    · rw [zero] at split ⊢
      refine .inl ⟨by simp, ?_⟩
      split_ifs <;> omega
    · refine .inr ⟨by rw [Nat.add_sub_cancel, Nat.sub_one_add_one zero], ?_⟩
      split_ifs <;> omega

/-- Larger magnitudes stand for larger numbers. -/
theorem number_mono (format : Format) : Monotone format.number := by
  apply monotone_nat_of_le_succ
  intro magnitude
  unfold number place
  rcases format.significand_succ magnitude with ⟨same, more⟩ | ⟨next, half⟩
  · rw [same]
    gcongr
  · rw [next]
    push_cast
    rw [← add_assoc, zpow_add_one₀ two_ne_zero, mul_comm _ (2 : ℚ), ← mul_assoc]
    have half' : (format.significand magnitude : ℚ)
        ≤ format.significand (magnitude + 1) * 2 := by
      exact_mod_cast (Nat.mul_comm _ 2 ▸ half)
    gcongr

/-! ## Powers of two -/

/-- A power of two in the range of doubles is a double. -/
theorem roundDyadic_power {k : Int} (low : -1022 ≤ k) (high : k ≤ 1023) :
    double.roundDyadic 1 k = (k + 1023).toNat * double.binade := by
  have ratio : ((1 * 2 ^ k.toNat : Nat) : ℚ) / (2 ^ (-k).toNat : Nat) = 2 ^ k := by
    rw [two_zpow_eq k, Nat.one_mul]
  have above : 0 < 1 * 2 ^ k.toNat := by positivity
  have positive : 0 < 2 ^ (-k).toNat := Nat.two_pow_pos _
  have exponent : binaryExponent (1 * 2 ^ k.toNat) (2 ^ (-k).toNat) = k := by
    have reached := le_binaryExponent_iff above positive k
    have passed := le_binaryExponent_iff above positive (k + 1)
    rw [ratio, zpow_le_zpow_iff_right₀ one_lt_two] at reached passed
    omega
  have lowest : double.lowestPlace = -1074 := by decide
  have precision : double.precision = 53 := rfl
  have place : double.placeOf (1 * 2 ^ k.toNat) (2 ^ (-k).toNat) = k - 52 := by
    rw [placeOf, exponent, lowest, precision]
    omega
  have count : double.countOf (1 * 2 ^ k.toNat) (2 ^ (-k).toNat) = double.binade := by
    have places := @ratio_of_places (1 * 2 ^ k.toNat) (2 ^ (-k).toNat) (k - 52)
    have binade : ((double.binade : Nat) : ℚ) = 2 ^ (52 : Int) := by
      rw [show double.binade = 2 ^ 52 from rfl, Nat.cast_pow]
      rfl
    rw [ratio, ← zpow_sub₀ two_ne_zero, sub_sub_cancel, ← binade] at places
    have exact := denominator_pos_of_places positive (k - 52)
    rw [countOf, place]
    exact Nat.le_antisymm (nearestEven_le exact places.le) (le_nearestEven exact places.ge)
  have steps : (k - 52 - -1074).toNat * double.binade + double.binade
      = (k + 1023).toNat * double.binade := by
    rw [← Nat.add_one_mul]
    congr 1
    omega
  rw [roundDyadic, round_eq above.ne', place, count, lowest, steps]
  exact Nat.min_eq_right (Nat.mul_le_mul_right _ (show (k + 1023).toNat ≤ 2047 by omega))

theorem roundDyadic_power_lt {k : Int} (low : -1022 ≤ k) (high : k ≤ 1023) :
    double.roundDyadic 1 k < double.infinity := by
  have positive : 0 < double.binade := Nat.two_pow_pos _
  rw [roundDyadic_power low high]
  exact Nat.mul_lt_mul_of_pos_right (show (k + 1023).toNat < 2047 by omega) positive

/-- The double that is a power of two stands for it. -/
theorem number_power {k : Int} (low : -1022 ≤ k) (high : k ≤ 1023) :
    double.number (double.roundDyadic 1 k) = 2 ^ k := by
  have binade : double.binade = 2 ^ 52 := rfl
  have positive : 0 < double.binade := Nat.two_pow_pos _
  have normal : ¬ (k + 1023).toNat * double.binade < double.binade := by
    rw [binade]
    omega
  rw [roundDyadic_power low high, number, significand, if_neg normal, Nat.mul_mod_left,
    Nat.add_zero, place, steps, Nat.mul_div_cancel _ positive, binade]
  have lowest : double.lowestPlace = -1074 := by decide
  rw [lowest, Nat.cast_pow, ← zpow_natCast, Nat.cast_ofNat, ← zpow_add₀ two_ne_zero]
  congr 1
  omega

end Format
end ArrayBlob
