import ArrayBlob.Proofs.Binary.Range
import ArrayBlob.Proofs.Quantizer.Bounds
import ArrayBlob.Proofs.Quantizer.Payload

/-!
# Which finite values stay finite

A finite value is coded with the offset and the scale of all values as doubles, and is restored
with both as they were stored in singles. Zeros are always restored. In the linear mode the other
values share one fate: they stay finite exactly if the offset and the scale do when they are stored.
In the logarithmic mode the stored logarithms are small numbers, and a value stays finite exactly if
its restored logarithm has a finite exponential.
-/

namespace ArrayBlob

/-! ## Special values -/

namespace Double

/-- A zero is special, whatever its sign. -/
theorem special?_of_isZero {x : Double} (zero : x.isZero = true) :
    x.special? = some (if x.isNegative then .negativeZero else .positiveZero) := by
  have none : x.magnitude = 0 := of_decide_eq_true zero
  have number : x.isNaN = false := by simp [isNaN, none]
  rw [special?, number, zero]
  rfl

/-- A finite value that is no zero is ordinary. -/
theorem special?_of_isFinite {x : Double} (finite : x.isFinite = true)
    (nonzero : x.isZero = false) : x.special? = none := by
  rw [special?, isNaN_eq_false finite, isInfinite_eq_false finite, nonzero]
  rfl

/-- The ordinary doubles are the finite ones other than the zeros. -/
theorem isOrdinary_iff (x : Double) :
    Quantity.isOrdinary x = true ↔ x.isFinite = true ∧ x.isZero = false := by
  change x.special?.isNone = true ↔ _
  rw [special?, isFinite_eq]
  cases x.isNaN <;> cases x.isZero <;> cases x.isInfinite <;> simp

theorem isFinite_zero (negative : Bool) : (zero negative).isFinite = true := by
  cases negative <;> decide

end Double

/-! ## Linear values -/

/-- The value of a code is finite exactly if the offset and the scale are when they are stored. The
largest code is too small to make more of finite singles than a double can hold. -/
theorem Scaling.isFinite_afterSteps_iff (scaling : Scaling Double) (steps : UInt16) :
    (scaling.stored.afterSteps steps).isFinite = true
      ↔ scaling.offset.magnitude < Single.firstOverflow
        ∧ scaling.scale.magnitude < Single.firstOverflow := by
  change (Double.ofNat steps.toNat * scaling.stored.scale + scaling.stored.offset).isFinite = true
    ↔ _
  rw [← Double.isFinite_stored_iff, ← Double.isFinite_stored_iff]
  constructor
  · intro finite
    obtain ⟨product, offset⟩ := Double.isFinite_of_add finite
    obtain ⟨-, scale⟩ := Double.isFinite_of_mul product
    exact ⟨offset, scale⟩
  · rintro ⟨offset, scale⟩
    have small : steps.toNat ≤ 2 ^ 16 := steps.toNat_lt.le
    have offset := Double.bounded_stored ((Double.isFinite_stored_iff _).1 offset)
    have scale := Double.bounded_stored ((Double.isFinite_stored_iff _).1 scale)
    have product := (Double.bounded_ofNat (by decide) small).mul scale (by decide) (by decide)
    exact (product.add (offset.mono (by decide)) (by decide) (by decide)).1

/-! ## Logarithmic values -/

namespace Exponential

/-- What the logarithmic mode relies on: the exponential of a number is a number, which overflows
above the last double whose exponential is finite and nowhere else, and the logarithm of a positive
number is at most 1024 in size. -/
structure Laws [Exponential] : Prop where
  isNaN_exp : ∀ x : Double, x.isNaN = false → (exp x).isNaN = false
  isFinite_exp_iff : ∀ x : Double, x.isNaN = false →
    ((exp x).isFinite = true ↔ x.orderKey ≤ lastFinite.orderKey)
  bounded_log : ∀ x : Double, x.isFinite = true → x.isZero = false → x.isNegative = false →
    (log x).Bounded 10

theorem laws_coarse : @Laws coarse := by
  have one : (Double.ofNat 1).isFinite = true := by decide +kernel
  refine @Laws.mk coarse ?_ ?_ ?_
  · intro x number
    change (if x.isNaN then Double.nan
      else if x.orderKey ≤ lastFinite.orderKey then Double.ofNat 1
      else Double.infinity false).isNaN = false
    rw [number, if_neg (by decide)]
    split
    · exact Double.isNaN_eq_false one
    · decide
  · intro x number
    change (if x.isNaN then Double.nan
      else if x.orderKey ≤ lastFinite.orderKey then Double.ofNat 1
      else Double.infinity false).isFinite = true ↔ _
    rw [number, if_neg (by decide)]
    split
    · next small => exact iff_of_true one small
    · next large => exact iff_of_false (by decide) large
  · intro x _ _ _
    change (if x = ⟨0x7FEFFFFFFFFFFFFF⟩ then lastFinite
      else Double.zero false).Bounded 10
    split
    · exact Double.bounded_of_magnitude_le (by decide) (by decide) (by decide +kernel)
    · exact Double.bounded_zero false

end Exponential

/-- A double that comes before one below zero has its sign set. -/
theorem Double.isNegative_of_orderKey_le {x y : Double} (before : x.orderKey ≤ y.orderKey)
    (nonzero : y.isZero = false) (negative : y.isNegative = true) : x.isNegative = true := by
  have large : y.magnitude ≠ 0 := of_decide_eq_false nonzero
  cases sign : x.isNegative with
  | true => rfl
  | false =>
    simp only [orderKey, sign, negative, if_true, Bool.false_eq_true, if_false] at before
    omega

/-- If the lowest ordinary value is positive, so is the highest. -/
theorem Double.isNegative_of_bounds {values : List Double} {lowest highest : Double}
    (found : Quantity.bounds values = some (lowest, highest))
    (positive : lowest.isNegative = false) : highest.isNegative = false := by
  obtain ⟨⟨member, ordinary⟩, ⟨-, ordinary'⟩, between⟩ :=
    Quantity.bounds_spec Double.comparedBy_orderKey found
  obtain ⟨-, below⟩ := between lowest member ordinary
  obtain ⟨-, nonzero⟩ := (Double.isOrdinary_iff highest).1 ordinary'
  cases negative : highest.isNegative with
  | false => rfl
  | true =>
    rw [Double.isNegative_of_orderKey_le below nonzero negative] at positive
    cases positive

namespace Quantizer

variable [Exponential]

/-- The scaling of logarithms is small: they are at most 1024 in size, and their interval is divided
by the number of steps. -/
theorem bounded_scalingOf {values : List Double} {scaling : Scaling Double}
    (laws : Exponential.Laws) (scaled : scalingOf .logarithmic values = .ok scaling) :
    scaling.offset.Bounded 10 ∧ scaling.scale.Bounded 0 := by
  have one : (Double.ofNat 1).Bounded 0 := Double.bounded_ofNat (by decide) (by decide)
  unfold scalingOf reachesBelowZero at scaled
  cases found : Quantity.bounds values with
  | none =>
    rw [found] at scaled
    cases scaled
    exact ⟨Double.bounded_ofNat (by decide) (by decide), one⟩
  | some bounds =>
    obtain ⟨lowest, highest⟩ := bounds
    rw [found] at scaled
    cases positive : lowest.isNegative with
    | true =>
      simp only [positive, and_self, if_true] at scaled
      cases scaled
    | false =>
      simp only [positive, Bool.false_eq_true, and_false, if_false] at scaled
      cases scaled
      obtain ⟨⟨-, low⟩, ⟨-, high⟩, -⟩ := Quantity.bounds_spec Double.comparedBy_orderKey found
      obtain ⟨lowFinite, lowNonzero⟩ := (Double.isOrdinary_iff lowest).1 low
      obtain ⟨highFinite, highNonzero⟩ := (Double.isOrdinary_iff highest).1 high
      have offset := laws.bounded_log lowest lowFinite lowNonzero positive
      have top := laws.bounded_log highest highFinite highNonzero
        (Double.isNegative_of_bounds found positive)
      have steps : (Double.ofNat topCode.toNat).isFinite = true :=
        (@Double.bounded_ofNat _ 16 (by decide) (by decide)).1
      have large : 2 ^ ((15 : Nat) : Int) ≤ (Double.ofNat topCode.toNat).number :=
        Double.le_number_ofNat (by decide) (by decide)
      have step := (top.sub offset (by decide) (by decide)).div steps large (by decide) (by decide)
      refine ⟨offset, ?_⟩
      change (if Double.isZero _ then Double.ofNat 1 else _).Bounded 0
      split
      · exact one
      · exact step.mono (by decide)

end Quantizer

/-! ## Both modes -/

namespace Quantizer

/-- An ordinary value with a code is restored as a finite one. -/
def Survives (mode : Mode) (scaling : Scaling Double) (code : UInt16) : Prop :=
  match mode with
  | .linear =>
    scaling.offset.magnitude < Single.firstOverflow
      ∧ scaling.scale.magnitude < Single.firstOverflow
  | .logarithmic =>
    (scaling.stored.afterSteps code).orderKey ≤ Exponential.lastFinite.orderKey

section

variable [Exponential] {mode : Mode} {values : List Double} {scaling : Scaling Double}

/-- The restored logarithms of a scaling of logarithms are finite. -/
theorem isFinite_afterSteps_logarithmic (laws : Exponential.Laws)
    (scaled : scalingOf .logarithmic values = .ok scaling) (steps : UInt16) :
    (scaling.stored.afterSteps steps).isFinite = true := by
  obtain ⟨offset, scale⟩ := bounded_scalingOf laws scaled
  exact (scaling.isFinite_afterSteps_iff steps).2
    ⟨offset.lt_firstOverflow (by decide), scale.lt_firstOverflow (by decide)⟩

/-- A zero is restored as itself. -/
theorem restored_of_isZero {x : Double} (zero : x.isZero = true) :
    restored mode scaling x = Double.zero x.isNegative := by
  have special : Quantity.special? x
      = some (if x.isNegative then .negativeZero else .positiveZero) :=
    Double.special?_of_isZero zero
  unfold restored Scaling.restore
  rw [special]
  cases x.isNegative <;> rfl

/-- An ordinary value has the steps up to it as its code, and is restored from as many steps. -/
theorem restored_of_isFinite {x : Double} (finite : x.isFinite = true)
    (nonzero : x.isZero = false) :
    restored mode scaling x
      = mode.backward (scaling.stored.afterSteps (scaling.code mode.forward x)) := by
  have ordinary : Quantity.special? x = none := Double.special?_of_isFinite finite nonzero
  unfold restored Scaling.restore Scaling.code
  rw [ordinary]

/-- A finite value is restored as a finite one exactly if it is a zero or its code survives. -/
theorem isFinite_restored_iff (laws : mode = .logarithmic → Exponential.Laws)
    (scaled : scalingOf mode values = .ok scaling) {x : Double} (finite : x.isFinite = true) :
    (restored mode scaling x).isFinite = true
      ↔ x.isZero = true ∨ Survives mode scaling (scaling.code mode.forward x) := by
  cases zero : x.isZero with
  | true =>
    rw [restored_of_isZero zero, Double.isFinite_zero]
    simp
  | false =>
    rw [restored_of_isFinite finite zero]
    simp only [Bool.false_eq_true, false_or]
    cases mode with
    | linear => exact scaling.isFinite_afterSteps_iff _
    | logarithmic =>
      have number := isFinite_afterSteps_logarithmic (laws rfl) scaled
      exact (laws rfl).isFinite_exp_iff _ (Double.isNaN_eq_false (number _))

/-- In the logarithmic mode a finite value is restored as a number. -/
theorem isNaN_restored_logarithmic (laws : Exponential.Laws)
    (scaled : scalingOf .logarithmic values = .ok scaling) {x : Double}
    (finite : x.isFinite = true) : (restored .logarithmic scaling x).isNaN = false := by
  cases zero : x.isZero with
  | true =>
    rw [restored_of_isZero zero]
    exact Double.isNaN_eq_false (Double.isFinite_zero _)
  | false =>
    rw [restored_of_isFinite finite zero]
    have number := isFinite_afterSteps_logarithmic laws scaled
    exact laws.isNaN_exp _ (Double.isNaN_eq_false (number _))

/-- What can be read has a size that fits 64 bits. -/
theorem fits_of_decode {payload : Bytes} {count : Nat} {after : List Double}
    (decoded : decode mode payload count = .ok after) : payloadSize count < 2 ^ 64 := by
  obtain ⟨⟨⟩, required, -⟩ := bind_eq_ok_iff.1 decoded
  unfold requireSize at required
  split at required
  · next fits => exact fits.1
  · cases required

/-- Values that were encoded are read back one by one. A finite one stays finite exactly if it is a
zero or its code survives the storing of the scaling, and in the logarithmic mode it stays a
number. -/
theorem finite_round_trip_iff (mode : Mode) (values : List Double) (payload : Bytes)
    (laws : mode = .logarithmic → Exponential.Laws)
    (encoded : encode mode values = .ok payload) :
    (payloadSize values.length < 2 ^ 64 →
        ∃ after, decode mode payload values.length = .ok after)
      ∧ ∃ scaling, scalingOf mode values = .ok scaling
        ∧ ∀ after, decode mode payload values.length = .ok after →
          after.length = values.length
            ∧ ∀ (i : Nat) (x y : Double), values[i]? = some x → after[i]? = some y →
              x.isFinite = true →
                (y.isFinite = true
                    ↔ x.isZero = true ∨ Survives mode scaling (scaling.code mode.forward x))
                  ∧ (mode = .logarithmic → y.isNaN = false) := by
  obtain ⟨scaling, scaled, -⟩ := exists_scaling_of_encode encoded
  constructor
  · intro fits
    obtain ⟨scaling, -, decoded⟩ := decode_encode encoded fits
    exact ⟨_, decoded⟩
  · refine ⟨scaling, scaled, ?_⟩
    intro after decoded
    obtain ⟨again, same, restoredAll⟩ := decode_encode encoded (fits_of_decode decoded)
    rw [scaled] at same
    cases same
    rw [restoredAll] at decoded
    cases decoded
    refine ⟨List.length_map _, ?_⟩
    intro i x y source target finite
    rw [List.getElem?_map, source] at target
    cases target
    refine ⟨isFinite_restored_iff laws scaled finite, ?_⟩
    rintro rfl
    exact isNaN_restored_logarithmic (laws rfl) scaled finite

end

/-- The logarithm of one is stored without a loss, and one survives. -/
theorem finite_round_trip_one :
    @Exponential.Laws Exponential.coarse
      ∧ @encode .coarse .logarithmic [⟨0x3FF0000000000000⟩]
        = .ok [0, 0, 0, 0, 0, 0, 128, 63, 0, 0]
      ∧ ∃ y, @decode .coarse .logarithmic [0, 0, 0, 0, 0, 0, 128, 63, 0, 0] 1 = .ok [y]
        ∧ y.isFinite = true := by
  let exponential := Exponential.coarse
  have encoded : encode .logarithmic [⟨0x3FF0000000000000⟩]
      = .ok [0, 0, 0, 0, 0, 0, 128, 63, 0, 0] := by
    decide +kernel
  obtain ⟨decodes, scaling, scaled, finite⟩ :=
    finite_round_trip_iff .logarithmic _ _ (fun _ => Exponential.laws_coarse) encoded
  obtain ⟨after, decoded⟩ := decodes (by decide)
  obtain ⟨count, finite⟩ := finite after decoded
  obtain ⟨y, rfl⟩ := List.length_eq_one_iff.1 count
  have unitScaling : scalingOf .logarithmic [⟨0x3FF0000000000000⟩] = .ok Scaling.unit := by
    decide +kernel
  cases scaled.symm.trans unitScaling
  have survives : Survives .logarithmic Scaling.unit
      (Scaling.unit.code Mode.logarithmic.forward ⟨0x3FF0000000000000⟩) := by
    unfold Survives
    decide +kernel
  exact ⟨Exponential.laws_coarse, encoded, y, decoded,
    (finite 0 _ y rfl rfl (by decide)).1.2 (.inr survives)⟩

/-- The largest doubles are lost in both modes: their offset overflows when it is stored, and their
logarithm is stored as a larger number. -/
theorem finite_values_lost :
    (⟨0x7E37E43C8800759C⟩ : Double).isFinite = true
      ∧ @encode .coarse .linear [⟨0x7E37E43C8800759C⟩] = .ok [0, 0, 128, 127, 0, 0, 128, 63, 0, 0]
      ∧ @decode .coarse .linear [0, 0, 128, 127, 0, 0, 128, 63, 0, 0] 1
        = .ok [Double.infinity false]
      ∧ (⟨0x7FEFFFFFFFFFFFFF⟩ : Double).isFinite = true
      ∧ @encode .coarse .logarithmic [⟨0x7FEFFFFFFFFFFFFF⟩]
        = .ok [0x18, 0x72, 0x31, 0x44, 0, 0, 128, 63, 0, 0]
      ∧ @decode .coarse .logarithmic [0x18, 0x72, 0x31, 0x44, 0, 0, 128, 63, 0, 0] 1
        = .ok [Double.infinity false] := by
  refine ⟨by decide, ?_, ?_, by decide, ?_, ?_⟩ <;> decide +kernel

end Quantizer
end ArrayBlob
