/-!
# UTF-16

Characters above the first 65536 code points are written as a pair of surrogate units, a high one
followed by a low one. A unit that is half of no pair denotes no text.
-/

namespace ArrayBlob
namespace Utf16

/-- The unit opens a surrogate pair. -/
def isHigh (unit : UInt16) : Bool :=
  0xD800 ≤ unit.toNat && unit.toNat < 0xDC00

/-- The unit closes a surrogate pair. -/
def isLow (unit : UInt16) : Bool :=
  0xDC00 ≤ unit.toNat && unit.toNat < 0xE000

/-- The units of one character. -/
def encodeChar (c : Char) : List UInt16 :=
  if c.toNat < 0x10000 then [UInt16.ofNat c.toNat]
  else
    let offset := c.toNat - 0x10000
    [UInt16.ofNat (0xD800 + offset / 0x400), UInt16.ofNat (0xDC00 + offset % 0x400)]

/-- The units of a text. -/
def encode (chars : List Char) : List UInt16 :=
  chars.flatMap encodeChar

/-- The character that a surrogate pair stands for. -/
def joinPair (high low : UInt16) : Char :=
  Char.ofNat (0x10000 + (high.toNat - 0xD800) * 0x400 + (low.toNat - 0xDC00))

/-- The text of a run of units behind an already decoded text, given in reverse. -/
def decodeOnto (decoded : List Char) : List UInt16 → Option (List Char)
  | [] => some decoded.reverse
  | unit :: rest =>
    if isLow unit then none
    else if isHigh unit then
      match rest with
      | [] => none
      | next :: rest =>
        if isLow next then decodeOnto (joinPair unit next :: decoded) rest else none
    else decodeOnto (Char.ofNat unit.toNat :: decoded) rest

/-- The text of a run of units, unless one of them is half of no pair. -/
def decode (units : List UInt16) : Option (List Char) :=
  decodeOnto [] units

/-- A character is no surrogate. -/
theorem toNat_range (c : Char) :
    c.toNat < 0xD800 ∨ (0xE000 ≤ c.toNat ∧ c.toNat < 0x110000) := by
  rcases c.valid with low | high
  · exact Or.inl low
  · exact Or.inr ⟨Nat.lt_of_lt_of_le (by decide) high.1, high.2⟩

theorem decodeOnto_single {unit : UInt16} (notLow : isLow unit = false)
    (notHigh : isHigh unit = false) (decoded : List Char) (rest : List UInt16) :
    decodeOnto decoded (unit :: rest) = decodeOnto (Char.ofNat unit.toNat :: decoded) rest := by
  rw [decodeOnto.eq_def]
  simp only [notLow, notHigh, Bool.false_eq_true, if_false]

theorem isLow_of_isHigh {unit : UInt16} (opens : isHigh unit = true) : isLow unit = false := by
  simp only [isHigh, isLow, Bool.and_eq_true, decide_eq_true_eq] at opens ⊢
  simp only [Bool.and_eq_false_iff, decide_eq_false_iff_not]
  omega

theorem decodeOnto_pair {high low : UInt16} (opens : isHigh high = true) (closes : isLow low = true)
    (decoded : List Char) (rest : List UInt16) :
    decodeOnto decoded (high :: low :: rest) = decodeOnto (joinPair high low :: decoded) rest := by
  rw [decodeOnto.eq_def]
  simp only [isLow_of_isHigh opens, opens, closes, Bool.false_eq_true, if_false, if_true]

/-- The pair of a character above the first 65536 stands for it. -/
theorem pair_of_shift {c : Char} {shift : Nat} (above : c.toNat = 0x10000 + shift)
    (small : shift < 0x100000) :
    isHigh (UInt16.ofNat (0xD800 + shift / 0x400)) = true
      ∧ isLow (UInt16.ofNat (0xDC00 + shift % 0x400)) = true
      ∧ joinPair (UInt16.ofNat (0xD800 + shift / 0x400))
          (UInt16.ofNat (0xDC00 + shift % 0x400)) = c := by
  have high : (UInt16.ofNat (0xD800 + shift / 0x400)).toNat = 0xD800 + shift / 0x400 :=
    UInt16.toNat_ofNat_of_lt' (by simp only [UInt16.size]; omega)
  have low : (UInt16.ofNat (0xDC00 + shift % 0x400)).toNat = 0xDC00 + shift % 0x400 :=
    UInt16.toNat_ofNat_of_lt' (by simp only [UInt16.size]; omega)
  refine ⟨?_, ?_, ?_⟩
  · simp only [isHigh, high, Bool.and_eq_true, decide_eq_true_eq]
    omega
  · simp only [isLow, low, Bool.and_eq_true, decide_eq_true_eq]
    omega
  · have code : 0x10000 + (0xD800 + shift / 0x400 - 0xD800) * 0x400
        + (0xDC00 + shift % 0x400 - 0xDC00) = c.toNat := by omega
    rw [joinPair, high, low, code, Char.ofNat_toNat]

/-- The units of a character are read as the character. -/
theorem decodeOnto_encodeChar (decoded : List Char) (c : Char) (rest : List UInt16) :
    decodeOnto decoded (encodeChar c ++ rest) = decodeOnto (c :: decoded) rest := by
  have range := toNat_range c
  unfold encodeChar
  by_cases plain : c.toNat < 0x10000
  · have value : (UInt16.ofNat c.toNat).toNat = c.toNat := UInt16.toNat_ofNat_of_lt' plain
    have notLow : isLow (UInt16.ofNat c.toNat) = false := by
      simp only [isLow, value, Bool.and_eq_false_iff, decide_eq_false_iff_not]
      omega
    have notHigh : isHigh (UInt16.ofNat c.toNat) = false := by
      simp only [isHigh, value, Bool.and_eq_false_iff, decide_eq_false_iff_not]
      omega
    rw [if_pos plain, List.cons_append, List.nil_append, decodeOnto_single notLow notHigh, value,
      Char.ofNat_toNat]
  · have above : c.toNat = 0x10000 + (c.toNat - 0x10000) := by omega
    obtain ⟨opens, closes, joined⟩ := pair_of_shift above (by omega)
    rw [if_neg plain]
    simp only [List.cons_append, List.nil_append]
    rw [decodeOnto_pair opens closes, joined]

theorem decodeOnto_encode (decoded chars : List Char) :
    decodeOnto decoded (encode chars) = some (decoded.reverse ++ chars) := by
  induction chars generalizing decoded with
  | nil => simp [encode, decodeOnto]
  | cons c chars ih =>
    unfold encode at *
    rw [List.flatMap_cons, decodeOnto_encodeChar, ih]
    simp

/-- The units of a text are read as the text. -/
@[simp]
theorem decode_encode (chars : List Char) : decode (encode chars) = some chars :=
  decodeOnto_encode [] chars

end Utf16
end ArrayBlob
