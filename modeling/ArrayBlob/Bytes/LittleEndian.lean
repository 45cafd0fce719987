import ArrayBlob.Bytes

/-!
# Little-endian integers

Every integer of a blob is stored with its least significant byte first. Writing a number and
reading it back returns it, and reading then writing returns the bytes.
-/

namespace ArrayBlob
namespace LittleEndian

/-- The low `width` bytes of a number, least significant first. -/
def encode : Nat → Nat → Bytes
  | 0, _ => []
  | width + 1, value => UInt8.ofNat value :: encode width (value / 256)

/-- The number that a byte string spells, least significant byte first. -/
def decode : Bytes → Nat
  | [] => 0
  | byte :: rest => byte.toNat + 256 * decode rest

/-- The number that a byte string spells in two's complement. -/
def decodeSigned (bytes : Bytes) : Int :=
  Int.bmod (decode bytes) (256 ^ bytes.length)

@[simp]
theorem length_encode (width value : Nat) : (encode width value).length = width := by
  induction width generalizing value with
  | zero => rfl
  | succ width ih => simp [encode, ih]

theorem decode_lt (bytes : Bytes) : decode bytes < 256 ^ bytes.length := by
  induction bytes with
  | nil => simp [decode]
  | cons byte rest ih =>
    have := byte.toNat_lt
    simp only [decode, List.length_cons, Nat.pow_succ]
    omega

theorem decode_encode {width value : Nat} (h : value < 256 ^ width) :
    decode (encode width value) = value := by
  induction width generalizing value with
  | zero => simp_all [encode, decode]
  | succ width ih =>
    have hdiv : value / 256 < 256 ^ width := by
      rw [Nat.pow_succ] at h
      omega
    simp only [encode, decode, ih hdiv, UInt8.toNat_ofNat']
    omega

theorem encode_decode (bytes : Bytes) : encode bytes.length (decode bytes) = bytes := by
  induction bytes with
  | nil => rfl
  | cons byte rest ih =>
    have hlt := byte.toNat_lt
    have hdiv : (byte.toNat + 256 * decode rest) / 256 = decode rest := by omega
    have hbyte : UInt8.ofNat (byte.toNat + 256 * decode rest) = byte := by
      apply UInt8.toNat_inj.1
      rw [UInt8.toNat_ofNat']
      omega
    simp only [List.length_cons, encode, decode, hdiv, ih, hbyte]

/-- A field of some width spells a number that fits it. -/
theorem decode_field_lt (offset width : Nat) (bytes : Bytes) :
    decode (Bytes.field offset width bytes) < 256 ^ width := by
  have narrow : (Bytes.field offset width bytes).length ≤ width := by
    rw [Bytes.length_field]
    exact Nat.min_le_left _ _
  exact Nat.lt_of_lt_of_le (decode_lt _) (Nat.pow_le_pow_right (by decide) narrow)

/-- A field within the bytes is the written form of the number that it spells. -/
theorem encode_decode_field {offset width : Nat} {bytes : Bytes}
    (reaches : offset + width ≤ bytes.length) :
    encode width (decode (Bytes.field offset width bytes)) = Bytes.field offset width bytes := by
  have same := encode_decode (Bytes.field offset width bytes)
  rwa [Bytes.length_field_of_le reaches] at same

theorem decodeSigned_encode {width value : Nat} (h : 2 * value < 256 ^ width) :
    decodeSigned (encode width value) = value := by
  unfold decodeSigned
  rw [length_encode, decode_encode (by omega), Int.bmod_eq_of_le_mul_two] <;> omega

/-- A number that is read with a sign is not negative when its highest bit is not set. -/
theorem decodeSigned_nonneg_iff (bytes : Bytes) :
    0 ≤ decodeSigned bytes ↔ 2 * decode bytes < 256 ^ bytes.length := by
  have bound := decode_lt bytes
  unfold decodeSigned
  generalize 256 ^ bytes.length = limit at bound ⊢
  rw [Int.bmod_def, Int.emod_eq_of_lt (by omega) (by omega)]
  split <;> omega

theorem decodeSigned_of_nonneg {bytes : Bytes} (nonneg : 0 ≤ decodeSigned bytes) :
    decodeSigned bytes = decode bytes := by
  rw [decodeSigned_nonneg_iff] at nonneg
  unfold decodeSigned
  rw [Int.bmod_eq_of_le_mul_two] <;> omega

/-- Bytes that spell a number without a sign are the written form of the number. -/
theorem encode_of_decodeSigned {bytes : Bytes} {value : Nat}
    (spelled : decodeSigned bytes = value) : encode bytes.length value = bytes := by
  have nonneg : 0 ≤ decodeSigned bytes := spelled ▸ Int.natCast_nonneg value
  have same : value = decode bytes :=
    Int.ofNat.inj (spelled.symm.trans (decodeSigned_of_nonneg nonneg))
  rw [same, encode_decode]

end LittleEndian
end ArrayBlob
