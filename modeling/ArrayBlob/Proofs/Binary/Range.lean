import ArrayBlob.Binary.Single
import ArrayBlob.Proofs.Binary.Rounding

/-!
# Which results are finite

The magnitude of a rounded result is bounded by the power of two that bounds the exact one. An
operand that is not finite makes a sum and a product that are not finite. A double that is stored as
a single stays finite exactly below the middle between the largest single and the next power of two.
-/

namespace ArrayBlob

namespace Double

/-! ## Magnitudes -/

theorem magnitude_ofMagnitude {magnitude : Nat} (negative : Bool) (small : magnitude < 2 ^ 63) :
    (ofMagnitude negative magnitude).magnitude = magnitude := by
  unfold ofMagnitude Double.magnitude
  cases negative
  · simp only [Bool.false_eq_true, if_false, UInt64.toNat_ofNat']
    omega
  · simp only [if_true, UInt64.toNat_ofNat']
    omega

theorem magnitude_ofRatio (negative : Bool) (numerator denominator : Nat) :
    (ofRatio negative numerator denominator).magnitude
      = Format.double.round numerator denominator := by
  apply magnitude_ofMagnitude
  have bound := Format.round_le_infinity Format.double numerator denominator
  rw [Format.infinity_double] at bound
  omega

theorem magnitude_zero (negative : Bool) : (zero negative).magnitude = 0 :=
  magnitude_ofMagnitude negative (by decide)

theorem magnitude_neg (x : Double) : x.neg.magnitude = x.magnitude :=
  magnitude_ofMagnitude _ (Nat.mod_lt _ (by decide))

theorem isFinite_iff {x : Double} : x.isFinite = true ↔ x.magnitude < Format.double.infinity := by
  simp [isFinite]

theorem isFinite_nan : nan.isFinite = false := by decide

theorem isFinite_infinity (negative : Bool) : (infinity negative).isFinite = false := by
  cases negative <;> decide

/-- What is not finite is an infinity or not a number. -/
theorem isFinite_eq (x : Double) : x.isFinite = !(x.isNaN || x.isInfinite) := by
  unfold isFinite isNaN isInfinite
  rw [← Bool.decide_or, ← decide_not, decide_eq_decide]
  omega

theorem isNaN_eq_false {x : Double} (finite : x.isFinite = true) : x.isNaN = false := by
  rw [isFinite_eq] at finite
  revert finite
  cases x.isNaN <;> simp

theorem isInfinite_eq_false {x : Double} (finite : x.isFinite = true) : x.isInfinite = false := by
  rw [isFinite_eq] at finite
  revert finite
  cases x.isInfinite <;> simp

/-! ## Operands that are not finite -/

/-- A sum is finite only if both terms are. -/
theorem isFinite_of_add {x y : Double} (finite : (x + y).isFinite = true) :
    x.isFinite = true ∧ y.isFinite = true := by
  change (add x y).isFinite = true at finite
  unfold add at finite
  cases nan : x.isNaN || y.isNaN with
  | true =>
    rw [if_pos nan, isFinite_nan] at finite
    cases finite
  | false =>
    rw [if_neg (by simp [nan])] at finite
    cases left : x.isInfinite with
    | true =>
      rw [if_pos left] at finite
      split at finite
      · rw [isFinite_nan] at finite
        cases finite
      · rw [isInfinite_eq_false finite] at left
        cases left
    | false =>
      rw [if_neg (by simp [left])] at finite
      cases right : y.isInfinite with
      | true =>
        rw [if_pos right] at finite
        rw [isInfinite_eq_false finite] at right
        cases right
      | false =>
        rw [Bool.or_eq_false_iff] at nan
        rw [isFinite_eq x, isFinite_eq y, nan.1, nan.2, left, right]
        exact ⟨rfl, rfl⟩

/-- A product is finite only if both factors are. -/
theorem isFinite_of_mul {x y : Double} (finite : (x * y).isFinite = true) :
    x.isFinite = true ∧ y.isFinite = true := by
  change (mul x y).isFinite = true at finite
  unfold mul at finite
  cases nan : x.isNaN || y.isNaN with
  | true =>
    simp only [nan, if_true, isFinite_nan] at finite
    cases finite
  | false =>
    cases infinite : x.isInfinite || y.isInfinite with
    | true =>
      simp only [nan, infinite, if_true, Bool.false_eq_true, if_false] at finite
      split at finite
      · rw [isFinite_nan] at finite
        cases finite
      · rw [isFinite_infinity] at finite
        cases finite
    | false =>
      rw [Bool.or_eq_false_iff] at nan infinite
      rw [isFinite_eq x, isFinite_eq y, nan.1, nan.2, infinite.1, infinite.2]
      exact ⟨rfl, rfl⟩

/-! ## Bounds of finite results -/

/-- The number that a finite double stands for, without its sign. -/
def number (x : Double) : ℚ :=
  Format.double.number x.magnitude

theorem number_nonneg (x : Double) : 0 ≤ x.number :=
  Format.double.number_nonneg _

theorem number_eq (x : Double) : x.number = x.significand * 2 ^ x.place := rfl

/-- A double is finite and its number is at most a power of two. -/
def Bounded (x : Double) (limit : Int) : Prop :=
  x.isFinite = true ∧ x.number ≤ 2 ^ limit

/-- A bound of the magnitude is a bound of the number. -/
theorem bounded_of_magnitude_le {x : Double} {limit : Int} (low : -1022 ≤ limit)
    (high : limit ≤ 1023) (bound : x.magnitude ≤ Format.double.roundDyadic 1 limit) :
    x.Bounded limit := by
  constructor
  · rw [isFinite_iff]
    exact lt_of_le_of_lt bound (Format.roundDyadic_power_lt low high)
  · rw [← Format.number_power low high]
    exact Format.double.number_mono bound

theorem Bounded.mono {x : Double} {limit wider : Int} (bounded : x.Bounded limit)
    (order : limit ≤ wider) : x.Bounded wider :=
  ⟨bounded.1, le_trans bounded.2 (zpow_le_zpow_right₀ one_le_two order)⟩

/-- A rounded ratio is bounded by every power of two above it. -/
theorem bounded_ofRatio (negative : Bool) {numerator denominator : Nat} {limit : Int}
    (low : -1022 ≤ limit) (high : limit ≤ 1023) (positive : 0 < denominator)
    (bound : (numerator : ℚ) / denominator ≤ 2 ^ limit) :
    (ofRatio negative numerator denominator).Bounded limit := by
  apply bounded_of_magnitude_le low high
  rw [magnitude_ofRatio]
  apply Format.round_mono (by decide) positive (Nat.two_pow_pos _)
  rw [Nat.one_mul, ← two_zpow_eq]
  exact bound

/-- A rounded dyadic number is bounded by every power of two above it. -/
theorem bounded_ofDyadic (negative : Bool) {significand : Nat} {place limit : Int}
    (low : -1022 ≤ limit) (high : limit ≤ 1023)
    (bound : (significand : ℚ) * 2 ^ place ≤ 2 ^ limit) :
    (ofDyadic negative significand place).Bounded limit := by
  apply bounded_ofRatio negative low high (Nat.two_pow_pos _)
  rw [Format.ratio_of_dyadic]
  exact bound

/-- A whole number is bounded by every power of two above it. -/
theorem bounded_ofNat {n limit : Nat} (high : limit ≤ 1023) (bound : n ≤ 2 ^ limit) :
    (ofNat n).Bounded limit := by
  apply bounded_ofRatio false (by omega) (by omega) (by decide)
  rw [Nat.cast_one, div_one, zpow_natCast]
  exact_mod_cast bound

/-- A whole number is rounded to no less than a power of two below it. -/
theorem le_number_ofNat {n limit : Nat} (high : limit ≤ 1023) (bound : 2 ^ limit ≤ n) :
    2 ^ (limit : Int) ≤ (ofNat n).number := by
  rw [← Format.number_power (k := limit) (by omega) (by omega)]
  apply Format.double.number_mono
  unfold ofNat
  rw [magnitude_ofRatio]
  apply Format.round_mono (by decide) (Nat.two_pow_pos _) (by decide)
  rw [Nat.one_mul, ← two_zpow_eq, Nat.cast_one, div_one, zpow_natCast]
  exact_mod_cast bound

/-- The product of two bounded doubles is bounded by the product of the bounds. -/
theorem Bounded.mul {x y : Double} {limit limit' : Int} (left : x.Bounded limit)
    (right : y.Bounded limit') (low : -1022 ≤ limit + limit') (high : limit + limit' ≤ 1023) :
    (x * y).Bounded (limit + limit') := by
  change (Double.mul x y).Bounded _
  unfold Double.mul
  simp only [isNaN_eq_false left.1, isNaN_eq_false right.1, isInfinite_eq_false left.1,
    isInfinite_eq_false right.1, Bool.or_self, Bool.false_eq_true, if_false]
  apply bounded_ofDyadic _ low high
  calc ((x.significand * y.significand : Nat) : ℚ) * 2 ^ (x.place + y.place)
      = x.number * y.number := by
        rw [number_eq, number_eq, zpow_add₀ two_ne_zero]
        push_cast
        ring
    _ ≤ 2 ^ limit * 2 ^ limit' := by
        exact mul_le_mul left.2 right.2 y.number_nonneg (by positivity)
    _ = 2 ^ (limit + limit') := (zpow_add₀ two_ne_zero limit limit').symm

/-- The units of a double have the size of its number. -/
theorem natAbs_units (x : Double) {place : Int} (low : place ≤ x.place) :
    ((x.units place).natAbs : ℚ) * 2 ^ place = x.number := by
  have size : (x.units place).natAbs = x.significand * 2 ^ (x.place - place).toNat := by
    unfold units
    split
    · rw [Int.natAbs_neg]
      rfl
    · rfl
  rw [size, number_eq]
  push_cast
  rw [← zpow_natCast, mul_assoc, ← zpow_add₀ two_ne_zero]
  congr 2
  omega

/-- The units of a sum are at most those of its terms. -/
theorem natAbs_add_units_le (x y : Double) {place : Int} (left : place ≤ x.place)
    (right : place ≤ y.place) :
    ((x.units place + y.units place).natAbs : ℚ) * 2 ^ place ≤ x.number + y.number := by
  have triangle : ((x.units place + y.units place).natAbs : ℚ)
      ≤ (x.units place).natAbs + (y.units place).natAbs := by
    exact_mod_cast Int.natAbs_add_le (x.units place) (y.units place)
  rw [← x.natAbs_units left, ← y.natAbs_units right, ← add_mul]
  gcongr

theorem bounded_zero (negative : Bool) {limit : Int} : (zero negative).Bounded limit := by
  have none : (zero negative).magnitude = 0 := magnitude_zero negative
  constructor
  · rw [isFinite_iff, none, Format.infinity_double]
    decide
  · have nothing : (zero negative).number = 0 := by
      unfold number
      rw [none]
      simp [Format.number, Format.significand, Format.binade]
    rw [nothing]
    positivity

/-- The sum of two doubles with a bound is bounded by twice the bound. -/
theorem Bounded.add {x y : Double} {limit : Int} (left : x.Bounded limit)
    (right : y.Bounded limit) (low : -1022 ≤ limit + 1) (high : limit + 1 ≤ 1023) :
    (x + y).Bounded (limit + 1) := by
  change (Double.add x y).Bounded _
  unfold Double.add
  simp only [isNaN_eq_false left.1, isNaN_eq_false right.1, isInfinite_eq_false left.1,
    isInfinite_eq_false right.1, Bool.or_self, Bool.false_eq_true, if_false]
  split
  · exact bounded_zero _
  · apply bounded_ofDyadic _ low high
    calc ((x.units (min x.place y.place) + y.units (min x.place y.place)).natAbs : ℚ)
          * 2 ^ min x.place y.place
        ≤ x.number + y.number := x.natAbs_add_units_le y (min_le_left _ _) (min_le_right _ _)
      _ ≤ 2 ^ limit + 2 ^ limit := add_le_add left.2 right.2
      _ = 2 ^ (limit + 1) := by
          rw [zpow_add_one₀ two_ne_zero]
          ring

/-- The difference of two doubles with a bound is bounded by twice the bound. -/
theorem Bounded.sub {x y : Double} {limit : Int} (left : x.Bounded limit)
    (right : y.Bounded limit) (low : -1022 ≤ limit + 1) (high : limit + 1 ≤ 1023) :
    (x - y).Bounded (limit + 1) := by
  have opposite : y.neg.Bounded limit := by
    unfold Bounded number
    rw [isFinite_iff, magnitude_neg, ← isFinite_iff]
    exact right
  change (Double.sub x y).Bounded _
  rw [Double.sub, if_neg (by simp [isNaN_eq_false right.1])]
  exact left.add opposite low high

/-- The quotient of a bounded double by one that is not too small is bounded. -/
theorem Bounded.div {x y : Double} {limit limit' : Int} (left : x.Bounded limit)
    (right : y.isFinite = true) (large : 2 ^ limit' ≤ y.number) (low : -1022 ≤ limit - limit')
    (high : limit - limit' ≤ 1023) : (x / y).Bounded (limit - limit') := by
  have above : (0 : ℚ) < y.number := lt_of_lt_of_le (by positivity) large
  have significand : 0 < y.significand := by
    rw [number_eq] at above
    exact_mod_cast pos_of_mul_pos_left above (by positivity)
  have nonzero : y.isZero = false := by
    apply decide_eq_false
    intro zero
    simp [Double.significand, Format.significand, Format.binade, zero] at significand
  change (Double.div x y).Bounded _
  unfold Double.div
  simp only [isNaN_eq_false left.1, isNaN_eq_false right, isInfinite_eq_false left.1,
    isInfinite_eq_false right, nonzero, Bool.or_self, Bool.false_eq_true, if_false]
  have ratio := @Format.ratio_of_places x.significand y.significand (-(x.place - y.place))
  rw [neg_neg] at ratio
  apply bounded_ofRatio _ low high (Format.denominator_pos_of_places significand _)
  calc _ = (x.significand : ℚ) / y.significand / 2 ^ (-(x.place - y.place)) := ratio
    _ = x.number / y.number := by
        rw [number_eq, number_eq, zpow_neg, div_inv_eq_mul, zpow_sub₀ two_ne_zero]
        ring
    _ ≤ 2 ^ limit / 2 ^ limit' := div_le_div₀ (by positivity) left.2 (by positivity) large
    _ = 2 ^ (limit - limit') := (zpow_sub₀ two_ne_zero limit limit').symm

end Double

namespace Single

/-! ## Storing a double as a single -/

theorem magnitude_ofMagnitude {magnitude : Nat} (negative : Bool) (small : magnitude < 2 ^ 31) :
    (ofMagnitude negative magnitude).magnitude = magnitude := by
  unfold ofMagnitude Single.magnitude
  cases negative
  · simp only [Bool.false_eq_true, if_false, UInt32.toNat_ofNat']
    omega
  · simp only [if_true, UInt32.toNat_ofNat']
    omega

/-- The quiet bit stays within the payload. -/
theorem or_quietBit_lt {payload : Nat} (small : payload < 2 ^ 23) :
    payload ||| quietBit < 2 ^ 23 :=
  Nat.or_lt_two_pow small (by decide)

/-- The magnitude of the smallest double that overflows a single. It stands for the middle between
the largest single and the next power of two, which is rounded to the even of the two. -/
def firstOverflow : Nat := 0x47EFFFFFF0000000

/-- The number of a double is rounded to a finite single exactly below the first overflow. -/
theorem roundDyadic_lt_infinity_iff (x : Double) :
    Format.single.roundDyadic x.significand x.place < Format.single.infinity
      ↔ x.magnitude < firstOverflow := by
  have first : Format.single.roundDyadic (Format.double.significand firstOverflow)
      (Format.double.place firstOverflow) = Format.single.infinity := by
    decide +kernel
  have last : Format.single.roundDyadic (Format.double.significand (firstOverflow - 1))
      (Format.double.place (firstOverflow - 1)) < Format.single.infinity := by
    decide +kernel
  constructor
  · intro finite
    by_contra large
    have above : Format.single.roundDyadic (Format.double.significand firstOverflow)
          (Format.double.place firstOverflow)
        ≤ Format.single.roundDyadic x.significand x.place :=
      Format.roundDyadic_mono (by decide) (Format.double.number_mono (Nat.le_of_not_lt large))
    omega
  · intro small
    have below : Format.single.roundDyadic x.significand x.place
        ≤ Format.single.roundDyadic (Format.double.significand (firstOverflow - 1))
          (Format.double.place (firstOverflow - 1)) :=
      Format.roundDyadic_mono (by decide)
        (Format.double.number_mono (Nat.le_sub_one_of_lt small))
    omega

/-- A double is stored as a finite single exactly below the first overflow. -/
theorem magnitude_ofDouble_lt_iff (x : Double) :
    (ofDouble x).magnitude < Format.single.infinity ↔ x.magnitude < firstOverflow := by
  have bound : x.magnitude < 2 ^ 63 := Nat.mod_lt _ (by decide)
  unfold ofDouble
  split
  · next nan =>
    have large : 0x7FF0000000000000 < x.magnitude := by
      rw [← Format.infinity_double]
      exact of_decide_eq_true nan
    have payload : (x.magnitude - Format.double.infinity) / 2 ^ extraPayload < 2 ^ 23 := by
      rw [Format.infinity_double, extraPayload]
      omega
    have small := or_quietBit_lt payload
    rw [magnitude_ofMagnitude _ (by rw [Format.infinity_single]; omega), firstOverflow]
    omega
  · split
    · next infinite =>
      have same : x.magnitude = 0x7FF0000000000000 := by
        rw [← Format.infinity_double]
        exact of_decide_eq_true infinite
      rw [magnitude_ofMagnitude _ (by decide), firstOverflow]
      omega
    · have small : Format.single.roundDyadic x.significand x.place ≤ Format.single.infinity :=
        Format.round_le_infinity _ _ _
      rw [Format.infinity_single] at small
      rw [magnitude_ofMagnitude _ (lt_of_le_of_lt small (by decide))]
      exact roundDyadic_lt_infinity_iff x

/-- The largest single is below a power of two. -/
theorem number_le_of_finite {magnitude : Nat} (finite : magnitude < Format.single.infinity) :
    Format.single.number magnitude ≤ 2 ^ (128 : Int) := by
  have largest : Format.single.number (Format.single.infinity - 1) ≤ 2 ^ (128 : Int) := by
    have significand : Format.single.significand (Format.single.infinity - 1) = 2 ^ 24 - 1 := by
      decide
    have place : Format.single.place (Format.single.infinity - 1) = 104 := by decide
    rw [Format.number, significand, place]
    norm_num
  exact le_trans (Format.single.number_mono (Nat.le_sub_one_of_lt finite)) largest

/-- A finite single is a bounded double. -/
theorem bounded_toDouble {x : Single} (finite : x.magnitude < Format.single.infinity) :
    x.toDouble.Bounded 128 := by
  have number : x.isNaN = false := by
    simp only [isNaN, decide_eq_false_iff_not]
    omega
  have bounded : x.isInfinite = false := by
    simp only [isInfinite, decide_eq_false_iff_not]
    omega
  rw [toDouble, if_neg (by simp [number]), if_neg (by simp [bounded])]
  exact Double.bounded_ofDyadic _ (by decide) (by decide) (number_le_of_finite finite)

/-- Widening a single keeps it finite, and makes nothing finite. -/
theorem isFinite_toDouble_iff (x : Single) :
    x.toDouble.isFinite = true ↔ x.magnitude < Format.single.infinity := by
  have bound : x.magnitude < 2 ^ 31 := Nat.mod_lt _ (by decide)
  constructor
  · intro finite
    unfold toDouble at finite
    split at finite
    · next nan =>
      have payload : x.magnitude - Format.single.infinity < 2 ^ 23 := by
        rw [Format.infinity_single]
        omega
      have small := or_quietBit_lt payload
      rw [Double.isFinite_iff, Double.magnitude_ofMagnitude _ (by
        rw [Format.infinity_double, extraPayload]
        omega)] at finite
      omega
    · split at finite
      · rw [Double.isFinite_infinity] at finite
        cases finite
      · next number bounded =>
        simp only [isNaN, isInfinite, decide_eq_true_eq] at number bounded
        omega
  · intro finite
    exact (bounded_toDouble finite).1

end Single

/-- A double that is stored as a single stays finite exactly below the first overflow. -/
theorem Double.isFinite_stored_iff (x : Double) :
    (Single.ofDouble x).toDouble.isFinite = true ↔ x.magnitude < Single.firstOverflow := by
  rw [Single.isFinite_toDouble_iff, Single.magnitude_ofDouble_lt_iff]

/-- A double of moderate size does not overflow a single. -/
theorem Double.Bounded.lt_firstOverflow {x : Double} {limit : Int} (bounded : x.Bounded limit)
    (high : limit ≤ 127) : x.magnitude < Single.firstOverflow := by
  have overflow : (2 : ℚ) ^ (127 : Int) < Format.double.number Single.firstOverflow := by
    have significand : Format.double.significand Single.firstOverflow = 2 ^ 53 - 2 ^ 28 := by
      decide +kernel
    have place : Format.double.place Single.firstOverflow = 75 := by decide +kernel
    rw [Format.number, significand, place]
    norm_num
  by_contra large
  have above := Format.double.number_mono (Nat.le_of_not_lt large)
  have below := le_trans bounded.2 (zpow_le_zpow_right₀ one_le_two high)
  exact absurd (lt_of_lt_of_le overflow above) (not_lt_of_ge below)

/-- A double that is stored as a finite single is bounded by the range of singles. -/
theorem Double.bounded_stored {x : Double} (small : x.magnitude < Single.firstOverflow) :
    (Single.ofDouble x).toDouble.Bounded 128 :=
  Single.bounded_toDouble ((Single.magnitude_ofDouble_lt_iff x).2 small)

end ArrayBlob
