import ArrayBlob.Proofs.Blob.Faults
import ArrayBlob.Proofs.Quantizer.Finite

/-!
# The codes of a payload

Each element of a payload has a code of two bytes behind the prelude. The codes of the special
values are apart from the ordinary ones by the mask alone, so that what a code says of its element
does not depend on the arithmetic. Reading asks for nothing but the size and for codes that have a
meaning.
-/

namespace ArrayBlob

/-! ## Ordinary and special codes -/

theorem Special.code_injective {special other : Special} (same : special.code = other.code) :
    special = other := by
  have found := congrArg ofCode? same
  rw [ofCode?_code, ofCode?_code] at found
  exact Option.some.inj found

theorem Special.code_le_lastCode (special : Special) : special.code ≤ lastCode := by
  cases special <;> decide

namespace Scaling

variable {α : Type} [Quantity α]

theorem eight_dvd_stepsTo (scaling : Scaling α) (quantity : α) :
    8 ∣ (scaling.stepsTo quantity).toNat := by
  apply Nat.dvd_of_mod_eq_zero
  have mask : stepMask.toNat % 2 ^ 3 = 0 := by decide
  unfold stepsTo
  rw [UInt16.toNat_and]
  change _ % 2 ^ 3 = 0
  rw [Nat.and_mod_two_pow, mask, Nat.and_zero]

/-- The code of a special value is given to that value alone. -/
theorem code_eq_iff (scaling : Scaling α) (transform : α → α) (x : α) (special : Special) :
    scaling.code transform x = special.code ↔ Quantity.special? x = some special := by
  unfold code
  cases Quantity.special? x with
  | some other =>
    rw [Option.some.injEq]
    exact ⟨Special.code_injective, congrArg Special.code⟩
  | none =>
    have below := UInt16.lt_of_le_of_lt (scaling.stepsTo_le (transform x)) special.topCode_lt_code
    constructor
    · intro same
      exact absurd same (UInt16.ne_of_lt below)
    · intro impossible
      cases impossible

/-- What is not special has an ordinary code. -/
theorem code_of_ordinary (scaling : Scaling α) (transform : α → α) {x : α}
    (ordinary : Quantity.special? x = none) :
    8 ∣ (scaling.code transform x).toNat ∧ scaling.code transform x ≤ topCode := by
  unfold code
  rw [ordinary]
  exact ⟨scaling.eight_dvd_stepsTo _, scaling.stepsTo_le _⟩

theorem code_le_lastCode (scaling : Scaling α) (transform : α → α) (x : α) :
    scaling.code transform x ≤ Special.lastCode := by
  unfold code
  cases Quantity.special? x with
  | some special => exact special.code_le_lastCode
  | none => exact UInt16.le_trans (scaling.stepsTo_le _) (by decide)

end Scaling

/-! ## Codes of doubles -/

/-- What the code of a double says of it. -/
structure CodeOf (x : Double) (code : Nat) : Prop where
  positiveZero : code = 0xFFF9 ↔ x.bits = 0
  negativeZero : code = 0xFFFA ↔ x.bits = 0x8000000000000000
  positiveInfinity : code = 0xFFFB ↔ x.bits = 0x7FF0000000000000
  negativeInfinity : code = 0xFFFC ↔ x.bits = 0xFFF0000000000000
  notANumber : code = 0xFFFD ↔ x.isNaN = true
  ordinary : x.isFinite = true → x.isZero = false → 8 ∣ code ∧ code ≤ 0xFFF8
  ne_reserved : code ≠ 0xFFFE ∧ code ≠ 0xFFFF

namespace Double

variable {x : Double} {special : Special}

/-- A double is its sign and its magnitude. -/
theorem ofMagnitude_self (x : Double) : ofMagnitude x.isNegative x.magnitude = x := by
  obtain ⟨bits⟩ := x
  have bound := bits.toNat_lt
  have same : (if 2 ^ 63 ≤ bits.toNat then 2 ^ 63 + bits.toNat % 2 ^ 63
      else bits.toNat % 2 ^ 63) = bits.toNat := by
    split <;> omega
  simp only [ofMagnitude, isNegative, magnitude, decide_eq_true_eq, same, UInt64.ofNat_toNat]

/-- Each special value is that of the double that stands for it. -/
@[simp]
theorem special?_ofSpecial (special : Special) : (ofSpecial special).special? = some special := by
  cases special <;> decide

/-- The two zeros and the two infinities are the only doubles with their special values. -/
theorem eq_ofSpecial (found : x.special? = some special) (number : special ≠ .notANumber) :
    x = ofSpecial special := by
  unfold special? at found
  split at found
  · cases found
    exact absurd rfl number
  · split at found
    · next zero =>
      cases found
      have same := ofMagnitude_self x
      rw [of_decide_eq_true zero] at same
      rw [← same]
      cases x.isNegative <;> rfl
    · split at found
      · next infinite =>
        cases found
        have same := ofMagnitude_self x
        rw [of_decide_eq_true infinite] at same
        rw [← same]
        cases x.isNegative <;> rfl
      · cases found

theorem special?_eq_iff (number : special ≠ .notANumber) :
    x.special? = some special ↔ x.bits = (ofSpecial special).bits := by
  constructor
  · intro found
    rw [← eq_ofSpecial found number]
  · intro same
    have equal : x = ofSpecial special := congrArg mk same
    rw [equal, special?_ofSpecial]

theorem special?_eq_notANumber_iff : x.special? = some .notANumber ↔ x.isNaN = true := by
  unfold special?
  split
  · next invalid => exact ⟨fun _ => invalid, fun _ => rfl⟩
  · next valid =>
    refine ⟨fun found => ?_, fun invalid => absurd invalid valid⟩
    repeat' split at found
    all_goals cases found

theorem special?_of_isInfinite (infinite : x.isInfinite = true) :
    x.special? = some (if x.isNegative then .negativeInfinity else .positiveInfinity) := by
  have top : x.magnitude = Format.double.infinity := of_decide_eq_true infinite
  have number : x.isNaN = false := by simp [isNaN, top]
  have nonzero : x.isZero = false := by
    rw [isZero, top]
    decide
  rw [special?, number, nonzero, infinite]
  rfl

end Double

/-- How a double comes back if it is none of those that are scaled. -/
structure RestoredAs (x restored : Double) : Prop where
  exact_zero : x.isZero = true → restored = x
  exact_infinity : x.isInfinite = true → restored = x
  notANumber : x.isNaN = true → restored.isNaN = true

theorem Scaling.restoredAs_restore (scaling stored : Scaling Double)
    (transform inverse : Double → Double) (x : Double) :
    RestoredAs x (scaling.restore stored transform inverse x) := by
  have restored {special : Special} (found : Quantity.special? x = some special) :
      scaling.restore stored transform inverse x = Double.ofSpecial special := by
    unfold restore
    rw [found]
    rfl
  constructor
  · intro zero
    have found := Double.special?_of_isZero zero
    rw [restored found]
    exact (Double.eq_ofSpecial found (by split <;> decide)).symm
  · intro infinite
    have found := Double.special?_of_isInfinite infinite
    rw [restored found]
    exact (Double.eq_ofSpecial found (by split <;> decide)).symm
  · intro invalid
    rw [restored (Double.special?_eq_notANumber_iff.2 invalid)]
    decide

/-- Under every scaling and every transform, the code of a double says what the double is. -/
theorem Scaling.codeOf_code (scaling : Scaling Double) (transform : Double → Double) (x : Double) :
    CodeOf x (scaling.code transform x).toNat := by
  have said (special : Special) : (scaling.code transform x).toNat = special.code.toNat
      ↔ x.special? = some special := by
    rw [UInt16.toNat_inj]
    exact scaling.code_eq_iff transform x special
  have meant : (scaling.code transform x).toNat ≤ 0xFFFD :=
    UInt16.le_iff_toNat_le.1 (scaling.code_le_lastCode transform x)
  exact
    { positiveZero := (said .positiveZero).trans (Double.special?_eq_iff (by decide))
      negativeZero := (said .negativeZero).trans (Double.special?_eq_iff (by decide))
      positiveInfinity := (said .positiveInfinity).trans (Double.special?_eq_iff (by decide))
      negativeInfinity := (said .negativeInfinity).trans (Double.special?_eq_iff (by decide))
      notANumber := (said .notANumber).trans Double.special?_eq_notANumber_iff
      ordinary := by
        intro finite nonzero
        have ordinary := scaling.code_of_ordinary transform
          (Double.special?_of_isFinite finite nonzero)
        exact ⟨ordinary.1, UInt16.le_iff_toNat_le.1 ordinary.2⟩
      ne_reserved := by omega }

/-! ## Codes in payloads -/

namespace Quantizer

/-- The code of an element of a payload. -/
def codeAt (payload : Bytes) (index : Nat) : Nat :=
  LittleEndian.decode (Bytes.field (8 + 2 * index) 2 payload)

/-- The codes of a payload of the right size are those behind its prelude. -/
theorem codes_eq_map {payload : Bytes} {count : Nat}
    (sized : payload.length = payloadSize count) :
    (Element.decodeAll (payload.drop preludeSize) : List UInt16)
      = (List.range count).map fun index => UInt16.ofNat (codeAt payload index) := by
  have behind (index : Nat) : Bytes.field (index * 2) 2 (payload.drop preludeSize)
      = Bytes.field (8 + 2 * index) 2 payload := by
    rw [Bytes.field, List.drop_drop, Nat.mul_comm]
    rfl
  have counted : (payload.drop preludeSize).length / 2 = count := by
    rw [List.length_drop, sized, payloadSize, codeSize]
    omega
  unfold Element.decodeAll
  change List.map Element.decode (Bytes.groups 2 (payload.drop preludeSize)) = _
  rw [Bytes.groups_eq_map, counted, List.map_map]
  apply List.map_congr_left
  intro index _
  rw [Function.comp_apply, behind]
  rfl

theorem codeAt_lt (payload : Bytes) (index : Nat) : codeAt payload index < 2 ^ 16 :=
  LittleEndian.decode_field_lt (8 + 2 * index) 2 payload

section

variable [Exponential] {mode : Mode} {values : List Double} {payload : Bytes} {count : Nat}

/-- A code has a value unless it is one of the two that are reserved. -/
theorem valueOf_succeeds_iff {scaling : Scaling Double} {code : UInt16} :
    (∃ value, valueOf mode scaling code = .ok value) ↔ code ≤ Special.lastCode := by
  unfold valueOf Scaling.decode?
  constructor
  · rintro ⟨value, made⟩
    refine UInt16.not_lt.1 fun above => ?_
    have absent : Special.ofCode? code = none := by
      refine List.find?_eq_none.2 fun special _ same => ?_
      rw [← eq_of_beq same] at above
      exact UInt16.not_lt.2 special.code_le_lastCode above
    rw [absent] at made
    simp only [if_pos above] at made
    cases made
  · intro meant
    cases Special.ofCode? code with
    | some special => exact ⟨_, rfl⟩
    | none =>
      simp only [if_neg (UInt16.not_lt.2 meant)]
      exact ⟨_, rfl⟩

/-- Reading succeeds on a payload of the right size without a reserved code. -/
theorem decode_succeeds_iff :
    (∃ values, decode mode payload count = .ok values)
      ↔ payload.length = 8 + 2 * count ∧ 8 + 2 * count < 2 ^ 64
        ∧ ∀ index < count, codeAt payload index ≠ 0xFFFE ∧ codeAt payload index ≠ 0xFFFF := by
  have meant (index : Nat) : UInt16.ofNat (codeAt payload index) ≤ Special.lastCode
      ↔ codeAt payload index ≠ 0xFFFE ∧ codeAt payload index ≠ 0xFFFF := by
    have bound := codeAt_lt payload index
    have last : Special.lastCode.toNat = 0xFFFD := by decide
    rw [UInt16.le_iff_toNat_le, UInt16.toNat_ofNat_of_lt' bound, last]
    omega
  unfold decode
  constructor
  · rintro ⟨values, decoded⟩
    obtain ⟨⟨⟩, sized, decoded⟩ := bind_eq_ok_iff.1 decoded
    obtain ⟨scaling, -, decoded⟩ := bind_eq_ok_iff.1 decoded
    obtain ⟨small, sized⟩ := requireSize_eq_ok_iff.1 sized
    have each := mapM_succeeds_iff.1 ⟨values, decoded⟩
    simp only [codes_eq_map sized, valueOf_succeeds_iff, List.forall_mem_map, List.mem_range, meant]
      at each
    exact ⟨sized, small, each⟩
  · rintro ⟨sized, small, each⟩
    have long : ¬ payload.length < preludeSize := by
      rw [sized, preludeSize]
      omega
    rw [requireSize_eq_ok_iff.2 ⟨small, sized⟩, ok_bind, decodePrelude, if_neg long, ok_bind]
    apply mapM_succeeds_iff.2
    simp only [codes_eq_map sized, valueOf_succeeds_iff, List.forall_mem_map, List.mem_range, meant]
    exact each

/-- The code of an element in a payload that was written is its code under the scaling of the
values. -/
theorem codeAt_of_encode {scaling : Scaling Double} (encoded : encode mode values = .ok payload)
    (scaled : scalingOf mode values = .ok scaling) {index : Nat} {x : Double}
    (found : values[index]? = some x) :
    codeAt payload index = (scaling.code mode.forward x).toNat := by
  have sized := length_of_encode encoded
  obtain ⟨again, same, rfl⟩ := exists_scaling_of_encode encoded
  cases scaled.symm.trans same
  have codes := codes_eq_map sized
  rw [List.drop_left' (length_encodePrelude scaling), Element.decodeAll_encodeAll] at codes
  have below : index < values.length := (List.getElem?_eq_some_iff.1 found).1
  have here := congrArg (fun codes => codes[index]?) codes
  simp only [List.getElem?_map, found, List.getElem?_range below, Option.map_some,
    Option.some.injEq] at here
  rw [here, UInt16.toNat_ofNat_of_lt' (codeAt_lt _ index)]

/-- The code of an element in a payload that was written says what the element is. -/
theorem codeOf_codeAt (encoded : encode mode values = .ok payload) {index : Nat} {x : Double}
    (found : values[index]? = some x) : CodeOf x (codeAt payload index) := by
  obtain ⟨scaling, scaled, -⟩ := exists_scaling_of_encode encoded
  rw [codeAt_of_encode encoded scaled found]
  exact scaling.codeOf_code mode.forward x

/-- The payload of some doubles has two bytes for each of them behind 8 bytes, and each pair of
bytes says what its double is: a zero, an infinity and what is no number have one code each, and
any other double has a multiple of 8 below those. It is read back, with zeros and infinities bit by
bit and what is no number as such. In turn any bytes are read exactly if their number is right, and
representable, and none of their codes is one of the two last ones; otherwise they are refused as a
flaw of compression. -/
theorem codes_characterize_payload (mode : Mode) :
    (∀ values payload, encode mode values = .ok payload →
      payload.length = 8 + 2 * values.length
      ∧ (∀ (index : Nat) (x : Double), values[index]? = some x → CodeOf x (codeAt payload index))
      ∧ (payload.length < 2 ^ 64 → ∃ decoded,
        decode mode payload values.length = .ok decoded ∧ decoded.length = values.length
        ∧ ∀ (index : Nat) (x y : Double), values[index]? = some x → decoded[index]? = some y →
          RestoredAs x y))
    ∧ ∀ payload count,
      ((∃ values, decode mode payload count = .ok values)
        ↔ payload.length = 8 + 2 * count ∧ 8 + 2 * count < 2 ^ 64
          ∧ ∀ index < count, codeAt payload index ≠ 0xFFFE ∧ codeAt payload index ≠ 0xFFFF)
      ∧ FailsWithin [.compression] (decode mode payload count) := by
  refine ⟨fun values payload encoded => ⟨length_of_encode encoded, ?_, ?_⟩, ?_⟩
  · intro index x found
    exact codeOf_codeAt encoded found
  · intro small
    rw [length_of_encode encoded] at small
    obtain ⟨scaling, -, decoded⟩ := decode_encode encoded small
    refine ⟨_, decoded, List.length_map _, ?_⟩
    intro index x y found restored
    rw [List.getElem?_map, found] at restored
    cases restored
    exact scaling.restoredAs_restore _ _ _ x
  · intro payload count
    exact ⟨decode_succeeds_iff, decode_failsWithin mode payload count⟩

end

/-- One, the negative zero and infinity have the codes zero, `0xFFFA` and `0xFFFB`. With the last
code of all in place of the third, the payload is refused. -/
theorem codes_characterize_payload_three :
    @encode .coarse .linear
        [⟨0x3FF0000000000000⟩, ⟨0x8000000000000000⟩, ⟨0x7FF0000000000000⟩]
        = .ok [0, 0, 128, 63, 0, 0, 128, 63, 0, 0, 0xFA, 0xFF, 0xFB, 0xFF]
      ∧ CodeOf ⟨0x8000000000000000⟩ 0xFFFA
      ∧ (∃ decoded : List Double, @decode .coarse .linear
        [0, 0, 128, 63, 0, 0, 128, 63, 0, 0, 0xFA, 0xFF, 0xFB, 0xFF] 3 = .ok decoded)
      ∧ ¬ ∃ decoded : List Double, @decode .coarse .linear
        [0, 0, 128, 63, 0, 0, 128, 63, 0, 0, 0xFA, 0xFF, 0xFF, 0xFF] 3 = .ok decoded := by
  have encoded : @encode .coarse .linear
      [⟨0x3FF0000000000000⟩, ⟨0x8000000000000000⟩, ⟨0x7FF0000000000000⟩]
      = .ok [0, 0, 128, 63, 0, 0, 128, 63, 0, 0, 0xFA, 0xFF, 0xFB, 0xFF] := by
    decide +kernel
  obtain ⟨written, read⟩ := @codes_characterize_payload .coarse .linear
  obtain ⟨-, codes, restored⟩ := written _ _ encoded
  obtain ⟨decoded, done, -⟩ := restored (by decide)
  refine ⟨encoded, codes 1 _ rfl, ⟨decoded, done⟩, fun accepted => ?_⟩
  obtain ⟨-, -, unreserved⟩ := (read _ 3).1.1 accepted
  exact absurd rfl (unreserved 2 (by decide)).2

end Quantizer
end ArrayBlob
