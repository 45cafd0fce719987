import ArrayBlob.Proofs.Quantizer.Codes

/-!
# The domain of the quantizer

The linear mode codes any doubles. The logarithmic mode looks at the smallest ordinary value alone,
and by it refuses exactly the lists with a finite value below zero; zeros, infinities and what is no
number are never scaled and never refused. What was decoded is in the domain again, provided that
the exponential never gives a number below zero.
-/

namespace ArrayBlob

/-- A number whose sign is set and that is no zero. -/
def Double.IsBelowZero (x : Double) : Prop :=
  x.isNaN = false ∧ x.isZero = false ∧ x.isNegative = true

namespace Quantizer

/-- The doubles that a mode can code: any in the linear mode, and in the logarithmic mode those
without a finite value below zero. -/
def InDomain (mode : Mode) (values : List Double) : Prop :=
  mode = .logarithmic → ∀ x ∈ values, ¬ (x.isFinite = true ∧ x.IsBelowZero)

variable {mode : Mode} {values : List Double}

/-- The smallest ordinary value is negative exactly if some finite value is below zero. -/
theorem reachesBelowZero_iff :
    reachesBelowZero values = true ↔ ∃ x ∈ values, x.isFinite = true ∧ x.IsBelowZero := by
  unfold reachesBelowZero
  cases found : Quantity.bounds values with
  | none =>
    refine iff_of_false Bool.false_ne_true ?_
    rintro ⟨x, member, finite, -, nonzero, -⟩
    have special := Quantity.bounds_eq_none_iff.1 found x member
    rw [(Double.isOrdinary_iff x).2 ⟨finite, nonzero⟩] at special
    cases special
  | some bounds =>
    obtain ⟨lowest, highest⟩ := bounds
    obtain ⟨⟨member, ordinary⟩, -, between⟩ :=
      Quantity.bounds_spec Double.comparedBy_orderKey found
    constructor
    · intro negative
      obtain ⟨finite, nonzero⟩ := (Double.isOrdinary_iff lowest).1 ordinary
      exact ⟨lowest, member, finite, Double.isNaN_eq_false finite, nonzero, negative⟩
    · rintro ⟨x, inside, finite, -, nonzero, negative⟩
      obtain ⟨before, -⟩ := between x inside ((Double.isOrdinary_iff x).2 ⟨finite, nonzero⟩)
      exact Double.isNegative_of_orderKey_le before nonzero negative

theorem not_inDomain_iff :
    ¬ InDomain mode values ↔ mode = .logarithmic ∧ reachesBelowZero values = true := by
  simp only [InDomain, reachesBelowZero_iff, Classical.not_imp, not_forall, not_not]

variable [Exponential]

/-- Doubles in the domain of a mode are encoded. -/
theorem exists_encode (inDomain : InDomain mode values) :
    ∃ payload, encode mode values = .ok payload := by
  have scaled : scalingOf mode values
      = .ok (Scaling.ofBounds mode.forward (Quantity.bounds values)) :=
    if_neg fun refused => not_inDomain_iff.2 refused inDomain
  rw [encode_eq, scaled]
  exact ⟨_, rfl⟩

/-- Doubles outside it are refused for a negative value. -/
theorem encode_of_not_inDomain (outside : ¬ InDomain mode values) :
    encode mode values = .error (.compressorDomain .negativeValue) := by
  have refused : scalingOf mode values = .error (.compressorDomain .negativeValue) :=
    if_pos (not_inDomain_iff.1 outside)
  rw [encode_eq, refused]
  rfl

/-- The double of a code is that of a special value or the inverse of some quantity. -/
theorem valueOf_eq_ok {scaling : Scaling Double} {code : UInt16} {value : Double}
    (made : valueOf mode scaling code = .ok value) :
    (∃ special, value = Double.ofSpecial special) ∨ ∃ quantity, value = mode.backward quantity := by
  unfold valueOf Scaling.decode? at made
  split at made
  · next found =>
    cases made
    split at found
    · next special _ =>
      cases found
      exact .inl ⟨special, rfl⟩
    · split at found
      · cases found
      · cases found
        exact .inr ⟨_, rfl⟩
  · cases made

/-- If the exponential never gives a number below zero, what was decoded can be coded again. -/
theorem inDomain_of_decode {payload : Bytes} {count : Nat}
    (nonnegative : ∀ x : Double, ¬ (Exponential.exp x).IsBelowZero)
    (decoded : decode mode payload count = .ok values) : InDomain mode values := by
  rintro rfl x member ⟨finite, belowZero⟩
  obtain ⟨⟨⟩, -, decoded⟩ := bind_eq_ok_iff.1 decoded
  obtain ⟨scaling, -, decoded⟩ := bind_eq_ok_iff.1 decoded
  have listed : (Except.ok x : Except Fault Double) ∈ values.map Except.ok :=
    List.mem_map_of_mem member
  rw [← mapM_eq_ok_iff.1 decoded] at listed
  obtain ⟨code, -, made⟩ := List.mem_map.1 listed
  rcases valueOf_eq_ok made with ⟨special, rfl⟩ | ⟨quantity, rfl⟩
  · obtain ⟨-, nonzero, -⟩ := belowZero
    have scaled := Double.special?_of_isFinite finite nonzero
    rw [Double.special?_ofSpecial] at scaled
    cases scaled
  · exact nonnegative quantity belowZero

end Quantizer
end ArrayBlob
