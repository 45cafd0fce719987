import ArrayBlob.Text.Utf16
import ArrayBlob.Text.Utf8

/-!
# Units that are text

A run of units is the written form of a text exactly if its surrogates come in pairs: every high one
has a low one right behind it, and every low one has a high one right in front of it. The text is
then the only one with these units. A character takes one or two units, and never more units than it
takes bytes in UTF-8.
-/

namespace ArrayBlob
namespace Utf16

variable {unit high low : UInt16} {units front rest : List UInt16} {chars : List Char}

/-! ## Surrogates in pairs -/

/-- Every high surrogate has a low one right behind it, and every low one has a high one right in
front of it. -/
structure WellPaired (units : List UInt16) : Prop where
  followed : ∀ index high, units[index]? = some high → isHigh high = true →
    ∃ low, units[index + 1]? = some low ∧ isLow low = true
  preceded : ∀ index low, units[index]? = some low → isLow low = true →
    ∃ before high, index = before + 1 ∧ units[before]? = some high ∧ isHigh high = true

theorem isHigh_of_isLow (closes : isLow unit = true) : isHigh unit = false :=
  Bool.eq_false_iff.2 fun opens => by
    rw [isLow_of_isHigh opens] at closes
    cases closes

theorem wellPaired_single (notLow : isLow unit = false) (notHigh : isHigh unit = false) :
    WellPaired [unit] := by
  constructor
  · rintro (_ | index) found ⟨⟩ opens
    rw [notHigh] at opens
    cases opens
  · rintro (_ | index) found ⟨⟩ closes
    rw [notLow] at closes
    cases closes

theorem wellPaired_pair (opens : isHigh high = true) (closes : isLow low = true) :
    WellPaired [high, low] := by
  constructor
  · rintro (_ | _ | index) found ⟨⟩ again
    · exact ⟨low, rfl, closes⟩
    · rw [isHigh_of_isLow closes] at again
      cases again
  · rintro (_ | _ | index) found ⟨⟩ again
    · rw [isLow_of_isHigh opens] at again
      cases again
    · exact ⟨0, high, rfl, rfl, opens⟩

theorem getElem?_append_add (front rest : List UInt16) (index : Nat) :
    (front ++ rest)[front.length + index]? = rest[index]? := by
  rw [List.getElem?_append_right (Nat.le_add_right _ _), Nat.add_sub_cancel_left]

/-- What stands behind units in pairs has to be in pairs by itself. -/
theorem wellPaired_append_iff (paired : WellPaired front) :
    WellPaired (front ++ rest) ↔ WellPaired rest := by
  have shift := getElem?_append_add front rest
  constructor
  · intro whole
    constructor
    · intro index high found opens
      rw [← shift] at found
      obtain ⟨low, next, closes⟩ := whole.followed _ _ found opens
      rw [Nat.add_assoc, shift] at next
      exact ⟨low, next, closes⟩
    · intro index low found closes
      rw [← shift] at found
      obtain ⟨before, high, position, previous, opens⟩ := whole.preceded _ _ found closes
      cases index with
      | zero =>
        -- The last unit of the front would open a pair that the front does not close.
        have last : front[before]? = some high := by
          rwa [List.getElem?_append_left (by omega)] at previous
        obtain ⟨next, missing, -⟩ := paired.followed _ _ last opens
        rw [List.getElem?_eq_none (by omega)] at missing
        cases missing
      | succ index =>
        obtain rfl : before = front.length + index := by omega
        rw [shift] at previous
        exact ⟨index, high, rfl, previous, opens⟩
  · intro behind
    constructor
    · intro index high found opens
      rcases Nat.lt_or_ge index front.length with inside | outside
      · rw [List.getElem?_append_left inside] at found
        obtain ⟨low, next, closes⟩ := paired.followed _ _ found opens
        refine ⟨low, ?_, closes⟩
        rwa [List.getElem?_append_left (List.getElem?_eq_some_iff.1 next).1]
      · obtain ⟨index, rfl⟩ := Nat.exists_eq_add_of_le outside
        rw [shift] at found
        obtain ⟨low, next, closes⟩ := behind.followed _ _ found opens
        exact ⟨low, by rw [Nat.add_assoc, shift, next], closes⟩
    · intro index low found closes
      rcases Nat.lt_or_ge index front.length with inside | outside
      · rw [List.getElem?_append_left inside] at found
        obtain ⟨before, high, position, previous, opens⟩ := paired.preceded _ _ found closes
        refine ⟨before, high, position, ?_, opens⟩
        rwa [List.getElem?_append_left (by omega)]
      · obtain ⟨index, rfl⟩ := Nat.exists_eq_add_of_le outside
        rw [shift] at found
        obtain ⟨before, high, position, previous, opens⟩ := behind.preceded _ _ found closes
        exact ⟨front.length + before, high, by omega, by rw [shift, previous], opens⟩

theorem not_wellPaired_of_isLow (closes : isLow unit = true) : ¬ WellPaired (unit :: rest) := by
  intro paired
  obtain ⟨before, high, position, -, -⟩ := paired.preceded 0 unit rfl closes
  exact absurd position (Nat.zero_ne_add_one before)

theorem not_wellPaired_of_isHigh (opens : isHigh unit = true)
    (alone : ∀ next ∈ rest.head?, isLow next = false) : ¬ WellPaired (unit :: rest) := by
  intro paired
  obtain ⟨low, next, closes⟩ := paired.followed 0 unit rfl opens
  rw [List.getElem?_cons_succ, ← List.head?_eq_getElem?] at next
  rw [alone low next] at closes
  cases closes

/-! ## Decoding -/

theorem decodeOnto_succeeds_iff (decoded : List Char) (units : List UInt16) :
    (∃ chars, decodeOnto decoded units = some chars) ↔ WellPaired units := by
  fun_induction decodeOnto decoded units with
  | case1 decoded => exact iff_of_true ⟨_, rfl⟩ ⟨by simp, by simp⟩
  | case2 decoded unit rest closes =>
    exact iff_of_false (by simp) (not_wellPaired_of_isLow closes)
  | case3 decoded unit notLow opens =>
    exact iff_of_false (by simp) (not_wellPaired_of_isHigh opens (by simp))
  | case4 decoded high notLow opens low rest closes ih =>
    rw [ih]
    exact (wellPaired_append_iff (wellPaired_pair opens closes)).symm
  | case5 decoded unit notLow opens next rest notLowNext =>
    refine iff_of_false (by simp) (not_wellPaired_of_isHigh opens ?_)
    rintro other ⟨⟩
    exact Bool.eq_false_iff.2 notLowNext
  | case6 decoded unit rest notLow notHigh ih =>
    rw [ih]
    exact (wellPaired_append_iff
      (wellPaired_single (Bool.eq_false_iff.2 notLow) (Bool.eq_false_iff.2 notHigh))).symm

/-- Units are decoded exactly if their surrogates come in pairs. -/
theorem decode_succeeds_iff : (∃ chars, decode units = some chars) ↔ WellPaired units :=
  decodeOnto_succeeds_iff [] units

theorem toNat_ofNat_of_range {code : Nat}
    (range : code < 0xD800 ∨ (0xE000 ≤ code ∧ code < 0x110000)) :
    (Char.ofNat code).toNat = code := by
  have valid : code.isValidChar := by
    rcases range with below | above
    · exact .inl below
    · exact .inr ⟨by omega, above.2⟩
  rw [Char.ofNat, dif_pos valid]
  rfl

/-- A unit that is no surrogate is the one unit of its character. -/
theorem encodeChar_ofNat (notLow : isLow unit = false) (notHigh : isHigh unit = false) :
    encodeChar (Char.ofNat unit.toNat) = [unit] := by
  have bound := unit.toNat_lt
  simp only [isLow, isHigh, Bool.and_eq_false_iff, decide_eq_false_iff_not] at notLow notHigh
  have code : (Char.ofNat unit.toNat).toNat = unit.toNat :=
    toNat_ofNat_of_range (by omega)
  rw [encodeChar, code, if_pos (by omega), UInt16.ofNat_toNat]

/-- A pair of surrogates are the two units of its character. -/
theorem encodeChar_joinPair (opens : isHigh high = true) (closes : isLow low = true) :
    encodeChar (joinPair high low) = [high, low] := by
  simp only [isHigh, isLow, Bool.and_eq_true, decide_eq_true_eq] at opens closes
  have code : (joinPair high low).toNat
      = 0x10000 + (high.toNat - 0xD800) * 0x400 + (low.toNat - 0xDC00) :=
    toNat_ofNat_of_range (by omega)
  have first : 0xD800 + ((joinPair high low).toNat - 0x10000) / 0x400 = high.toNat := by omega
  have second : 0xDC00 + ((joinPair high low).toNat - 0x10000) % 0x400 = low.toNat := by omega
  rw [encodeChar, if_neg (by omega)]
  dsimp only
  rw [first, second, UInt16.ofNat_toNat, UInt16.ofNat_toNat]

theorem encode_of_decodeOnto {decoded : List Char} {units : List UInt16}
    (read : decodeOnto decoded units = some chars) :
    encode chars = encode decoded.reverse ++ units := by
  fun_induction decodeOnto decoded units with
  | case1 decoded => cases read; simp
  | case2 | case3 | case5 => cases read
  | case4 decoded high notLow opens low rest closes ih =>
    rw [ih read]
    simp [encode, encodeChar_joinPair opens closes]
  | case6 decoded unit rest notLow notHigh ih =>
    rw [ih read]
    simp [encode, encodeChar_ofNat (Bool.eq_false_iff.2 notLow) (Bool.eq_false_iff.2 notHigh)]

/-- Units that are decoded are the written form of what is read. -/
theorem encode_of_decode (read : decode units = some chars) : encode chars = units :=
  encode_of_decodeOnto read

/-! ## How many units there are -/

/-- The number of units of a text: two for a character above the first 65536 and one for any
other. -/
def unitCount : List Char → Nat
  | [] => 0
  | c :: chars => (if c.toNat < 0x10000 then 1 else 2) + unitCount chars

theorem length_encodeChar (c : Char) :
    (encodeChar c).length = if c.toNat < 0x10000 then 1 else 2 := by
  unfold encodeChar
  split <;> rfl

theorem length_encode (chars : List Char) : (encode chars).length = unitCount chars := by
  induction chars with
  | nil => rfl
  | cons c chars ih =>
    rw [encode] at ih ⊢
    rw [List.flatMap_cons, List.length_append, length_encodeChar, ih, unitCount]

/-- A character above the first 65536 takes four bytes in UTF-8, and every other at least one. -/
theorem length_encodeChar_le (c : Char) :
    (encodeChar c).length ≤ (String.utf8EncodeChar c).length := by
  rw [length_encodeChar, String.length_utf8EncodeChar]
  have positive := c.utf8Size_pos
  split
  · exact positive
  · next above =>
    have notOne : c.utf8Size ≠ 1 := by
      rw [ne_eq, Char.utf8Size_eq_one_iff, UInt32.le_iff_toNat_le]
      intro small
      exact above (Nat.lt_of_le_of_lt small (by decide))
    omega

/-- A text has no more units than bytes in UTF-8. -/
theorem unitCount_le (text : String) :
    unitCount text.toList ≤ (Utf8.encode text).length := by
  rw [← length_encode, encode, Utf8.encode_eq_flatMap]
  induction text.toList with
  | nil => exact Nat.le_refl 0
  | cons c chars ih =>
    rw [List.flatMap_cons, List.flatMap_cons, List.length_append, List.length_append]
    exact Nat.add_le_add (length_encodeChar_le c) ih

end Utf16
end ArrayBlob
