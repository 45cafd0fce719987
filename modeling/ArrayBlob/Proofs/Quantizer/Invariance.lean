import ArrayBlob.Proofs.Quantizer.Codes

/-!
# What a scaling depends on

The scaling of a list of doubles is made of its bounds, and ordinary doubles that are equal on the
line are equal bit by bit. So it depends on the set of the ordinary doubles alone: not on their
order, not on how often they occur, and not on special values in between. The code of an element
depends on the scaling and on the element, so that it follows the element wherever the list has it.
-/

namespace ArrayBlob

/-- Numbers that are equal on the line have the same bits, unless they are zeros. -/
theorem Double.eq_of_orderKey {x y : Double} (nonzero : x.isZero = false)
    (same : x.orderKey = y.orderKey) : x = y := by
  have large : x.magnitude ≠ 0 := of_decide_eq_false nonzero
  have sign : x.isNegative = y.isNegative := by
    unfold orderKey at same
    cases left : x.isNegative <;> cases right : y.isNegative <;>
      simp only [left, right, if_true, Bool.false_eq_true, if_false] at same ⊢ <;> omega
  have magnitude : x.magnitude = y.magnitude := by
    unfold orderKey at same
    rw [sign] at same
    split at same <;> omega
  rw [← ofMagnitude_self x, ← ofMagnitude_self y, sign, magnitude]

namespace Quantizer

/-- Two lists have the same ordinary doubles, which are the finite ones other than the zeros. -/
def SameOrdinary (left right : List Double) : Prop :=
  ∀ x : Double, x.isFinite = true → x.isZero = false → (x ∈ left ↔ x ∈ right)

/-- The elements of a list in another order. -/
def reordered (values : List Double) (order : Equiv.Perm (Fin values.length)) : List Double :=
  List.ofFn fun index => values.get (order index)

variable {mode : Mode} {values left right : List Double} {payload : Bytes}

theorem SameOrdinary.bounds_eq (same : SameOrdinary left right) :
    Quantity.bounds left = Quantity.bounds right := by
  apply Quantity.bounds_congr Double.comparedBy_orderKey
  · intro x y ordinary _ equal
    exact Double.eq_of_orderKey ((Double.isOrdinary_iff x).1 ordinary).2 equal
  · intro x ordinary
    obtain ⟨finite, nonzero⟩ := (Double.isOrdinary_iff x).1 ordinary
    exact same x finite nonzero

/-- Another order leaves the set of the elements as it is. -/
theorem sameOrdinary_reordered (order : Equiv.Perm (Fin values.length)) :
    SameOrdinary values (reordered values order) := by
  intro x _ _
  rw [reordered, List.mem_ofFn, List.mem_iff_get]
  constructor
  · rintro ⟨index, here⟩
    exact ⟨order.symm index, by rw [order.apply_symm_apply]; exact here⟩
  · rintro ⟨index, here⟩
    exact ⟨order index, here⟩

/-- What is added to a list is no ordinary double, or one that the list has already. -/
def AddsNothing (added values : List Double) : Prop :=
  ∀ x ∈ added, x.isFinite = true → x.isZero = false → x ∈ values

theorem AddsNothing.sameOrdinary {front added back : List Double}
    (nothing : AddsNothing added (front ++ back)) :
    SameOrdinary (front ++ back) (front ++ added ++ back) := by
  intro x finite nonzero
  simp only [List.mem_append]
  constructor
  · rintro (before | behind)
    · exact .inl (.inl before)
    · exact .inr behind
  · rintro ((before | between) | behind)
    · exact .inl before
    · exact List.mem_append.1 (nothing x between finite nonzero)
    · exact .inr behind

section

variable [Exponential]

theorem SameOrdinary.scalingOf_eq (same : SameOrdinary left right) (mode : Mode) :
    scalingOf mode left = scalingOf mode right := by
  unfold scalingOf reachesBelowZero
  rw [same.bounds_eq]

/-- The prelude of a payload is that of the scaling of its values. -/
theorem take_of_encode {scaling : Scaling Double} (encoded : encode mode values = .ok payload)
    (scaled : scalingOf mode values = .ok scaling) :
    payload.take preludeSize = encodePrelude scaling := by
  obtain ⟨again, same, rfl⟩ := exists_scaling_of_encode encoded
  cases scaled.symm.trans same
  exact List.take_left' (length_encodePrelude scaling)

/-- Encoding fails exactly with the fault of the scaling. -/
theorem encode_eq_error_iff {fault : Fault} :
    encode mode values = .error fault ↔ scalingOf mode values = .error fault := by
  rw [encode_eq]
  cases scalingOf mode values <;> simp [Except.map]

/-- Two lists are encoded alike: they are refused with the same fault, or have payloads with the
same prelude, a code behind it for each element, and equal codes at positions that correspond. -/
structure EncodedAlike (mode : Mode) (left right : List Double) (corresponds : Nat → Nat → Prop) :
    Prop where
  refused : ∀ fault, encode mode left = .error fault ↔ encode mode right = .error fault
  prelude : ∀ first second, encode mode left = .ok first → encode mode right = .ok second →
    first.take preludeSize = second.take preludeSize
  length : ∀ first second, encode mode left = .ok first → encode mode right = .ok second →
    first.length = payloadSize left.length ∧ second.length = payloadSize right.length
  code : ∀ first second, encode mode left = .ok first → encode mode right = .ok second →
    ∀ i j, corresponds i j → codeAt first i = codeAt second j

/-- Fewer positions correspond. -/
theorem EncodedAlike.mono {wide narrow : Nat → Nat → Prop}
    (alike : EncodedAlike mode left right wide) (implied : ∀ i j, narrow i j → wide i j) :
    EncodedAlike mode left right narrow where
  refused := alike.refused
  prelude := alike.prelude
  length := alike.length
  code first second coded again i j here :=
    alike.code first second coded again i j (implied i j here)

/-- Lists with the same ordinary doubles are encoded alike, equal elements having equal codes. -/
theorem SameOrdinary.encodedAlike (same : SameOrdinary left right) (mode : Mode) :
    EncodedAlike mode left right fun i j => ∃ x, left[i]? = some x ∧ right[j]? = some x := by
  have scalings := same.scalingOf_eq mode
  refine ⟨fun fault => by rw [encode_eq_error_iff, encode_eq_error_iff, scalings], ?_, ?_, ?_⟩
  · intro first second coded again
    obtain ⟨scaling, scaled, -⟩ := exists_scaling_of_encode coded
    rw [take_of_encode coded scaled, take_of_encode again (scalings ▸ scaled)]
  · intro first second coded again
    exact ⟨length_of_encode coded, length_of_encode again⟩
  · rintro first second coded again i j ⟨x, here, there⟩
    obtain ⟨scaling, scaled, -⟩ := exists_scaling_of_encode coded
    rw [codeAt_of_encode coded scaled here, codeAt_of_encode again (scalings ▸ scaled) there]

/-- The scaling of a list depends on the set of its ordinary doubles alone, in both modes: two lists
with the same set are refused with the same fault or have the same offset and scale, and then they
have the same prelude and equal elements have equal codes, wherever they stand. So a list in another
order has the same prelude and its codes in that order, and a list to which special values or
doubles that it has already are added anywhere, or from which they are removed again, keeps its
prelude and the codes of the other elements. -/
theorem ordinary_values_determine_encoding (mode : Mode) :
    (∀ left right, SameOrdinary left right →
      scalingOf mode left = scalingOf mode right
      ∧ EncodedAlike mode left right fun i j => ∃ x, left[i]? = some x ∧ right[j]? = some x)
    ∧ (∀ (values : List Double) (order : Equiv.Perm (Fin values.length)),
      EncodedAlike mode values (reordered values order) fun i j =>
        ∃ index, i = order index ∧ j = index)
    ∧ ∀ front added back, AddsNothing added (front ++ back) →
      EncodedAlike mode (front ++ back) (front ++ added ++ back) fun i j =>
        i < front.length ∧ j = i
        ∨ front.length ≤ i ∧ i < (front ++ back).length ∧ j = i + added.length := by
  refine ⟨fun left right same => ⟨same.scalingOf_eq mode, same.encodedAlike mode⟩, ?_, ?_⟩
  · intro values order
    refine ((sameOrdinary_reordered order).encodedAlike mode).mono ?_
    rintro i j ⟨index, rfl, rfl⟩
    refine ⟨values[order index], List.getElem?_eq_getElem _, ?_⟩
    rw [reordered, List.getElem?_ofFn, dif_pos index.isLt]
    rfl
  · -- What is in front keeps its position, and what is behind moves by what was added.
    intro front added back nothing
    refine (nothing.sameOrdinary.encodedAlike mode).mono ?_
    rintro i j (⟨before, rfl⟩ | ⟨behind, inside, rfl⟩)
    · refine ⟨front[j], ?_, ?_⟩
      · rw [List.getElem?_append_left before, List.getElem?_eq_getElem before]
      · rw [List.append_assoc, List.getElem?_append_left before, List.getElem?_eq_getElem before]
    · refine ⟨(front ++ back)[i], List.getElem?_eq_getElem inside, ?_⟩
      rw [← List.getElem?_eq_getElem inside, List.getElem?_append_right behind,
        List.getElem?_append_right (by rw [List.length_append]; omega), List.length_append]
      congr 1
      omega

end

/-- One and minus two, between which not a number and a second one are inserted. -/
theorem ordinary_values_determine_encoding_pair :
    let one : Double := ⟨0x3FF0000000000000⟩
    let minusTwo : Double := ⟨0xC000000000000000⟩
    AddsNothing [Double.nan, one] ([one] ++ [minusTwo])
      ∧ ∃ first second, @encode .coarse .linear ([one] ++ [minusTwo]) = .ok first
        ∧ @encode .coarse .linear ([one] ++ [Double.nan, one] ++ [minusTwo]) = .ok second
        ∧ first.take preludeSize = second.take preludeSize
        ∧ codeAt first 0 = codeAt second 0
        ∧ codeAt first 1 = codeAt second 3 := by
  intro one minusTwo
  let exponential := Exponential.coarse
  have nothing : AddsNothing [Double.nan, one] ([one] ++ [minusTwo]) := by
    unfold AddsNothing
    decide
  have coded : encode .linear ([one] ++ [minusTwo])
      = .ok [0, 0, 0, 192, 0, 6, 64, 56, 240, 255, 0, 0] := by decide +kernel
  have again : encode .linear ([one] ++ [Double.nan, one] ++ [minusTwo])
      = .ok [0, 0, 0, 192, 0, 6, 64, 56, 240, 255, 253, 255, 240, 255, 0, 0] := by
    decide +kernel
  obtain ⟨-, -, inserted⟩ := ordinary_values_determine_encoding .linear
  have alike := inserted [one] [Double.nan, one] [minusTwo] nothing
  exact ⟨nothing, _, _, coded, again, alike.prelude _ _ coded again,
    alike.code _ _ coded again 0 0 (.inl ⟨by decide, rfl⟩),
    alike.code _ _ coded again 1 3 (.inr ⟨by decide, by decide, rfl⟩)⟩

end Quantizer
end ArrayBlob
