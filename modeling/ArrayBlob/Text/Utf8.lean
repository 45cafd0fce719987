import ArrayBlob.Bytes

/-!
# UTF-8

Names are stored in UTF-8. Reading is strict where a name selects something and lenient where it is
only shown: then each longest run of bytes that starts a character without completing one, and
each byte that starts none, shows as the replacement character.
-/

namespace ArrayBlob
namespace Utf8

/-- The bytes of a text. -/
def encode (text : String) : Bytes :=
  text.toUTF8.data.toList

/-- The text whose bytes these are, if there is one. -/
def decode (bytes : Bytes) : Option String :=
  String.fromUTF8? ⟨bytes.toArray⟩

theorem decode_encode (text : String) : decode (encode text) = some text := by
  simpa [decode, encode, String.fromUTF8?, String.fromUTF8] using text.isValidUTF8

theorem encode_of_decode {bytes : Bytes} {text : String} (h : decode bytes = some text) :
    encode text = bytes := by
  simp only [decode, String.fromUTF8?] at h
  split at h
  · simp only [Option.some.injEq] at h
    simp [encode, ← h, String.fromUTF8]
  · simp at h

/-- A text is known by its bytes. -/
theorem encode_injective {left right : String} (same : encode left = encode right) :
    left = right := by
  have decoded := decode_encode left
  rw [same, decode_encode] at decoded
  exact (Option.some.inj decoded).symm

theorem encode_eq_flatMap (text : String) :
    encode text = text.toList.flatMap String.utf8EncodeChar := by
  unfold encode String.toUTF8
  rw [← String.utf8Encode_toList]
  unfold List.utf8Encode
  simp

theorem zero_mem_utf8EncodeChar (character : Char) :
    0 ∈ String.utf8EncodeChar character ↔ character = '\x00' := by
  have zero : character = '\x00' ↔ character.val.toNat = 0 := by
    rw [Char.ext_iff, ← UInt32.toNat_inj]
    rfl
  unfold String.utf8EncodeChar
  rw [zero]
  dsimp only
  generalize character.val.toNat = code
  -- A byte of a longer code has its highest bit set.
  repeat' split
  all_goals
    simp only [List.mem_cons, List.not_mem_nil, or_false, ← UInt8.toNat_inj, UInt8.toNat_ofNat',
      UInt8.toNat_zero]
    omega

/-- The only character with a zero byte is the zero character. -/
theorem zero_mem_encode_iff (text : String) : 0 ∈ encode text ↔ '\x00' ∈ text.toList := by
  simp only [encode_eq_flatMap, List.mem_flatMap, zero_mem_utf8EncodeChar, exists_eq_right]

theorem length_encode_eq_zero_iff (text : String) :
    (encode text).length = 0 ↔ text.isEmpty = true := by
  unfold encode
  simp

/-- How a byte starts a character: the bits that it contributes, the number of bytes to follow,
and the range of the first of those. -/
structure Lead where
  bits : Nat
  following : Nat
  lowest : Nat
  highest : Nat

/-- The start of a character that a byte makes, if it makes one. -/
def lead? (byte : Nat) : Option Lead :=
  if byte < 0x80 then some ⟨byte, 0, 0, 0⟩
  else if byte < 0xC2 then none
  else if byte < 0xE0 then some ⟨byte - 0xC0, 1, 0x80, 0xBF⟩
  else if byte = 0xE0 then some ⟨0, 2, 0xA0, 0xBF⟩
  else if byte = 0xED then some ⟨0xD, 2, 0x80, 0x9F⟩
  else if byte < 0xF0 then some ⟨byte - 0xE0, 2, 0x80, 0xBF⟩
  else if byte = 0xF0 then some ⟨0, 3, 0x90, 0xBF⟩
  else if byte < 0xF4 then some ⟨byte - 0xF0, 3, 0x80, 0xBF⟩
  else if byte = 0xF4 then some ⟨4, 3, 0x80, 0x8F⟩
  else none

/-- The bytes in front that can follow the start of a character. -/
def following (lead : Lead) (rest : Bytes) : List Nat :=
  match (rest.take lead.following).map UInt8.toNat with
  | [] => []
  | first :: others =>
    if lead.lowest ≤ first && first ≤ lead.highest then
      first :: others.takeWhile fun byte => 0x80 ≤ byte && byte ≤ 0xBF
    else []

/-- The text of a byte string, with a replacement character for every part that is no text. -/
def decodeLossy : Bytes → List Char
  | [] => []
  | byte :: rest =>
    match lead? byte.toNat with
    | none => '\uFFFD' :: decodeLossy rest
    | some lead =>
      let others := following lead rest
      let shown :=
        if others.length = lead.following then
          Char.ofNat (others.foldl (fun code next => 64 * code + (next - 0x80)) lead.bits)
        else '\uFFFD'
      shown :: decodeLossy (rest.drop others.length)
  termination_by bytes => bytes.length

end Utf8
end ArrayBlob
