import ArrayBlob.Selection
import ArrayBlob.Text.Utf8

/-!
# Names in letters of any case

A name of characters below 128 is the text of its bytes, one character for each of them. Removing
the letter case of such a name is therefore done byte by byte, and which coder a stored name selects
depends on its bytes up to their case alone.
-/

namespace ArrayBlob

/-- Removing the case moves the letters `A` to `Z` and leaves every other character. -/
theorem toNat_toLower (character : Char) :
    character.toLower.toNat = if 65 ≤ character.toNat ∧ character.toNat ≤ 90
      then character.toNat + 32 else character.toNat := by
  have upper : character.val ≥ 'A'.val ∧ character.val ≤ 'Z'.val
      ↔ 65 ≤ character.toNat ∧ character.toNat ≤ 90 := by
    rw [ge_iff_le, UInt32.le_iff_toNat_le, UInt32.le_iff_toNat_le]
    exact Iff.rfl
  unfold Char.toLower
  split
  · next letter =>
    have range := upper.1 letter
    rw [if_pos range]
    change (character.val + 32).toNat = _
    rw [UInt32.toNat_add]
    change (character.toNat + 32) % 2 ^ 32 = _
    omega
  · next other => rw [if_neg fun range => other (upper.2 range)]

namespace Utf8

/-- The character of a byte, with the case of `A` to `Z` removed. -/
def letter (byte : UInt8) : Char :=
  (Char.ofUInt8 byte).toLower

theorem toNat_letter (byte : UInt8) :
    (letter byte).toNat
      = if 65 ≤ byte.toNat ∧ byte.toNat ≤ 90 then byte.toNat + 32 else byte.toNat :=
  toNat_toLower (Char.ofUInt8 byte)

/-- No other byte looks like the zero byte. -/
theorem eq_zero_of_letter {byte : UInt8} (same : letter byte = letter 0) : byte = 0 := by
  have code : (letter byte).toNat = 0 := congrArg Char.toNat same
  rw [toNat_letter] at code
  apply UInt8.toNat_inj.1
  rw [UInt8.toNat_zero]
  split at code <;> omega

theorem utf8EncodeChar_of_lt {character : Char} (small : character.toNat < 128) :
    String.utf8EncodeChar character = [UInt8.ofNat character.toNat] := by
  have size : character.utf8Size = 1 := by
    rw [Char.utf8Size_eq_one_iff, UInt32.le_iff_toNat_le]
    exact Nat.le_of_lt_succ small
  rw [String.utf8EncodeChar_eq_singleton size]
  rfl

/-- The text of the characters of some bytes below 128 is written as the bytes. -/
theorem encode_ofUInt8 {bytes : Bytes} (small : ∀ byte ∈ bytes, byte.toNat < 128) :
    encode (String.ofList (bytes.map Char.ofUInt8)) = bytes := by
  rw [encode_eq_flatMap, String.toList_ofList]
  induction bytes with
  | nil => rfl
  | cons byte rest ih =>
    rw [List.forall_mem_cons] at small
    have first : String.utf8EncodeChar (Char.ofUInt8 byte) = [byte] := by
      have narrow : (Char.ofUInt8 byte).toNat < 128 := small.1
      rw [utf8EncodeChar_of_lt narrow]
      exact congrArg (fun byte => [byte]) UInt8.ofNat_toNat
    rw [List.map_cons, List.flatMap_cons, first, ih small.2]
    rfl

/-- The case of a text that is written in bytes below 128 is removed byte by byte. -/
theorem foldCase_eq_map {text : String} (small : ∀ byte ∈ encode text, byte.toNat < 128) :
    Text.foldCase text = (encode text).map letter := by
  have same : String.ofList ((encode text).map Char.ofUInt8) = text :=
    encode_injective (encode_ofUInt8 small)
  conv => lhs; rw [← same]
  rw [Text.foldCase, String.toList_ofList, List.map_map]
  rfl

/-- A text is written in bytes below 128 when it has only such characters but for their case. -/
theorem encode_lt_of_foldCase {text : String}
    (small : ∀ character ∈ Text.foldCase text, character.toNat < 128) :
    ∀ byte ∈ encode text, byte.toNat < 128 := by
  intro byte member
  rw [encode_eq_flatMap] at member
  obtain ⟨character, listed, among⟩ := List.mem_flatMap.1 member
  have bound := small character.toLower (List.mem_map_of_mem listed)
  rw [toNat_toLower] at bound
  have narrow : character.toNat < 128 := by
    split at bound <;> omega
  rw [utf8EncodeChar_of_lt narrow, List.mem_singleton] at among
  rw [among, UInt8.toNat_ofNat_of_lt' (by simp only [UInt8.size]; omega)]
  exact narrow

/-- Bytes that are those of a text but for their case are the bytes of a text, and the two texts
differ in their case alone. -/
theorem exists_text_of_letters {text : String} {bytes : Bytes}
    (small : ∀ character ∈ Text.foldCase text, character.toNat < 128)
    (same : (encode text).map letter = bytes.map letter) :
    ∃ other, encode other = bytes ∧ Text.foldCase other = Text.foldCase text := by
  have folded := foldCase_eq_map (encode_lt_of_foldCase small)
  have narrow : ∀ byte ∈ bytes, byte.toNat < 128 := by
    intro byte member
    have bound := small (letter byte) (by
      rw [folded, same]
      exact List.mem_map_of_mem member)
    rw [toNat_letter] at bound
    split at bound <;> omega
  refine ⟨_, encode_ofUInt8 narrow, ?_⟩
  rw [folded, same, foldCase_eq_map (by rw [encode_ofUInt8 narrow]; exact narrow),
    encode_ofUInt8 narrow]

end Utf8

namespace Coder

/-- Which coder has a name does not depend on the case of the name. -/
theorem ofName?_of_foldCase {left right : String}
    (same : Text.foldCase left = Text.foldCase right) : ofName? left = ofName? right := by
  simp only [ofName?, Text.sameIgnoringCase, same]

/-- The names of coders have characters below 128 alone. -/
theorem foldCase_lt_of_ofName? {name : String} {coder : Coder} (known : ofName? name = some coder) :
    ∀ character ∈ Text.foldCase name, character.toNat < 128 := by
  have found : Text.sameIgnoringCase coder.name name = true :=
    List.find?_some (p := fun coder : Coder => Text.sameIgnoringCase coder.name name) known
  have small : (Text.foldCase coder.name).all (fun character => character.toNat < 128) = true := by
    rcases coder with flavor | mode
    · cases flavor <;> rfl
    · cases mode <;> rfl
  rw [← Text.sameIgnoringCase_iff.1 found]
  intro character member
  exact of_decide_eq_true (List.all_eq_true.1 small character member)

end Coder
end ArrayBlob
