import ArrayBlob.Proofs.Capacity
import ArrayBlob.Proofs.Quantizer.Domain

/-!
# The outcome of a compression

What a quantizer does with raw bytes is settled by four questions in turn: whether the bytes are
whole doubles, whether the buffer has room for the payload, whether the logarithmic mode meets a
finite value below zero, and what the payload is. The third is asked of the smallest ordinary value
alone, and here of the bits of every element.
-/

namespace ArrayBlob

/-- Eight of some raw bytes are a finite double below zero: the sign is set, the bits below it are
not all zeros, and the exponent bits are not all ones. -/
def Double.BelowZeroAt (raw : Bytes) (index : Nat) : Prop :=
  let bits := LittleEndian.decode (Bytes.field (8 * index) 8 raw)
  2 ^ 63 ≤ bits ∧ 0 < bits % 2 ^ 63 ∧ bits % 2 ^ 63 < 0x7FF0000000000000

instance (raw : Bytes) (index : Nat) : Decidable (Double.BelowZeroAt raw index) :=
  inferInstanceAs (Decidable (_ ∧ _ ∧ _))

/-- Eight bytes are the bits of their double. -/
theorem Double.toNat_bits_decode {bytes : Bytes} (full : bytes.length = 8) :
    (Element.decode bytes : Double).bits.toNat = LittleEndian.decode bytes := by
  have small := LittleEndian.decode_lt bytes
  rw [full] at small
  exact Element.word_ofWord (α := Double) _ small

/-- What the bits say of eight bytes holds of their double. -/
theorem Double.belowZeroAt_iff {raw : Bytes} {index : Nat} (inside : index < raw.length / 8) :
    BelowZeroAt raw index
      ↔ (Element.decode (Bytes.field (8 * index) 8 raw) : Double).isFinite = true
        ∧ (Element.decode (Bytes.field (8 * index) 8 raw) : Double).IsBelowZero := by
  have full : (Bytes.field (8 * index) 8 raw).length = 8 := Bytes.length_field_of_le (by omega)
  have infinity : Format.double.infinity = 0x7FF0000000000000 := by decide
  simp only [BelowZeroAt, IsBelowZero, isFinite, isNaN, isZero, isNegative, magnitude,
    toNat_bits_decode full, infinity, decide_eq_true_eq, decide_eq_false_iff_not]
  omega

/-- The doubles in raw bytes are those of their groups of eight. -/
theorem Double.mem_decodeAll_iff {raw : Bytes} {x : Double} :
    x ∈ (Element.decodeAll raw : List Double)
      ↔ ∃ index < raw.length / 8, Element.decode (Bytes.field (8 * index) 8 raw) = x := by
  unfold Element.decodeAll
  change x ∈ List.map Element.decode (Bytes.groups 8 raw) ↔ _
  simp only [Bytes.groups_eq_map, List.map_map, List.mem_map, List.mem_range, Function.comp_apply,
    Nat.mul_comm _ 8]

namespace Quantizer

/-- Some of the raw bytes of a logarithmic mode are a finite double below zero. -/
def MeetsBelowZero (mode : Mode) (raw : Bytes) : Prop :=
  mode = .logarithmic ∧ ∃ index < raw.length / 8, Double.BelowZeroAt raw index

variable {mode : Mode} {layout : Layout} {values : List Double} {raw buffer payload : Bytes}

/-- The bits decide whether the doubles are in the domain of the mode. -/
theorem meetsBelowZero_iff : MeetsBelowZero mode raw ↔ ¬ InDomain mode (Element.decodeAll raw) := by
  rw [not_inDomain_iff, reachesBelowZero_iff]
  refine and_congr_right fun _ => ⟨?_, ?_⟩
  · rintro ⟨index, inside, below⟩
    exact ⟨_, Double.mem_decodeAll_iff.2 ⟨index, inside, rfl⟩,
      (Double.belowZeroAt_iff inside).1 below⟩
  · rintro ⟨x, member, below⟩
    obtain ⟨index, inside, rfl⟩ := Double.mem_decodeAll_iff.1 member
    exact ⟨index, inside, (Double.belowZeroAt_iff inside).2 below⟩

/-- A buffer holds a payload at its front and is otherwise as before. -/
structure Holds (payload before filled : Bytes) : Prop where
  length : filled.length = before.length
  front : filled.take payload.length = payload
  rest : filled.drop payload.length = before.drop payload.length

theorem holds_append_drop (room : payload.length ≤ buffer.length) :
    Holds payload buffer (payload ++ buffer.drop payload.length) where
  length := by
    rw [List.length_append, List.length_drop]
    omega
  front := List.take_left
  rest := List.drop_left

/-! ## One outcome after the other -/

section

variable [Exponential]

/-- Bytes that are no whole doubles are refused first, whatever they and the buffer hold. -/
theorem compressInto_of_not_doubles (mode : Mode) (buffer : Bytes)
    (other : ¬ (layout.isDouble = true ∧ raw.length % 8 = 0)) :
    ∃ flaw, compressInto mode layout raw buffer = .error (.compressorArgument flaw) := by
  obtain ⟨flaw, refused⟩ := doubleCount_of_not_doubles other
  exact ⟨flaw, bind_eq_error_iff.2 (.inl refused)⟩

/-- Whole doubles are encoded. -/
theorem compressInto_of_doubles (mode : Mode) (buffer : Bytes)
    (doubles : layout.isDouble = true ∧ raw.length % 8 = 0) :
    compressInto mode layout raw buffer = encodeInto mode (Element.decodeAll raw) buffer := by
  rw [compressInto, doubleCount_of_doubles doubles, ok_bind]

/-- Without a buffer, it is the room for the payload that can be wanting. -/
theorem compress_of_doubles (doubles : layout.isDouble = true ∧ raw.length % 8 = 0)
    (encoded : encode mode (Element.decodeAll raw) = .ok payload) :
    compress mode layout raw = if payload.length < 2 ^ 63 then .ok payload
      else .error (.allocationFailed payload.length) := by
  rw [compress_eq, doubleCount_of_doubles doubles, ok_bind, encoded, reserve,
    length_of_encode encoded, length_decodeAll_doubles]
  split <;> rfl

/-- A buffer without room for the payload is refused next. -/
theorem encodeInto_of_short (mode : Mode) (short : buffer.length < payloadSize values.length) :
    encodeInto mode values buffer
      = .error (.bufferTooSmall (payloadSize values.length) buffer.length) :=
  if_pos short

/-- With room for the payload, the outcome is that of making it. -/
theorem encodeInto_of_room (mode : Mode) (room : payloadSize values.length ≤ buffer.length) :
    encodeInto mode values buffer = (encode mode values).map fun payload =>
      (payloadSize values.length, payload ++ buffer.drop (payloadSize values.length)) := by
  rw [encodeInto_eq mode room, encode_eq]
  cases scalingOf mode values <;> rfl

/-- Doubles outside the domain are refused after that. -/
theorem encodeInto_of_not_inDomain (room : payloadSize values.length ≤ buffer.length)
    (outside : ¬ InDomain mode values) :
    encodeInto mode values buffer = .error (.compressorDomain .negativeValue) := by
  rw [encodeInto_of_room mode room, encode_of_not_inDomain outside]
  rfl

/-- A payload is written to the front of the buffer. -/
theorem encodeInto_of_encode (encoded : encode mode values = .ok payload)
    (room : payload.length ≤ buffer.length) :
    ∃ filled, encodeInto mode values buffer = .ok (payload.length, filled)
      ∧ Holds payload buffer filled := by
  refine ⟨_, ?_, holds_append_drop room⟩
  rw [length_of_encode encoded] at room ⊢
  rw [encodeInto_of_room mode room, encoded]
  rfl

/-- The outcomes for doubles, each under its own condition. -/
theorem encodeInto_cases (mode : Mode) (values : List Double) (buffer : Bytes) :
    (buffer.length < payloadSize values.length ∧ encodeInto mode values buffer
        = .error (.bufferTooSmall (payloadSize values.length) buffer.length))
    ∨ (payloadSize values.length ≤ buffer.length ∧ ¬ InDomain mode values
      ∧ encodeInto mode values buffer = .error (.compressorDomain .negativeValue))
    ∨ (payloadSize values.length ≤ buffer.length ∧ InDomain mode values
      ∧ ∃ result, encodeInto mode values buffer = .ok result) := by
  rcases Nat.lt_or_ge buffer.length (payloadSize values.length) with short | room
  · exact .inl ⟨short, encodeInto_of_short mode short⟩
  · by_cases inside : InDomain mode values
    · obtain ⟨payload, encoded⟩ := exists_encode inside
      have sized := length_of_encode encoded
      obtain ⟨filled, written, -⟩ := encodeInto_of_encode encoded (sized ▸ room)
      exact .inr (.inr ⟨room, inside, _, written⟩)
    · exact .inr (.inl ⟨room, inside, encodeInto_of_not_inDomain room inside⟩)

/-- What becomes of raw bytes, for every mode, layout and buffer. They are refused as an argument
exactly if they are no whole doubles. Otherwise the buffer is refused exactly if it is shorter than
8 bytes and 2 more for each double. Otherwise the values are refused exactly if the mode is
logarithmic and one of them is finite and below zero: no zero, infinity or value that is no number
counts, whatever its sign. Otherwise the payload that a buffer of its own would hold is written to
the front of the buffer, whatever was there, and the bytes behind it stay. -/
theorem compression_outcomes (mode : Mode) (layout : Layout) (raw : Bytes) :
    (∀ buffer, (∃ flaw, compressInto mode layout raw buffer = .error (.compressorArgument flaw))
      ↔ ¬ (layout.isDouble = true ∧ raw.length % 8 = 0))
    ∧ (layout.isDouble = true ∧ raw.length % 8 = 0 →
      (∀ buffer, compressInto mode layout raw buffer
          = .error (.bufferTooSmall (8 + 2 * (raw.length / 8)) buffer.length)
        ↔ buffer.length < 8 + 2 * (raw.length / 8))
      ∧ (∀ buffer, 8 + 2 * (raw.length / 8) ≤ buffer.length →
        ((∃ flaw, compressInto mode layout raw buffer = .error (.compressorDomain flaw))
          ↔ MeetsBelowZero mode raw))
      ∧ (¬ MeetsBelowZero mode raw → ∃ payload,
        payload.length = 8 + 2 * (raw.length / 8)
        ∧ compress mode layout raw = (if payload.length < 2 ^ 63 then .ok payload
          else .error (.allocationFailed payload.length))
        ∧ ∀ buffer, payload.length ≤ buffer.length → ∃ filled,
          compressInto mode layout raw buffer = .ok (payload.length, filled)
          ∧ Holds payload buffer filled)) := by
  refine ⟨fun buffer => ⟨?_, compressInto_of_not_doubles mode buffer⟩, fun doubles => ?_⟩
  · rintro ⟨flaw, refused⟩ doubles
    rw [compressInto_of_doubles mode buffer doubles] at refused
    rcases encodeInto_cases mode _ buffer with
      ⟨-, outcome⟩ | ⟨-, -, outcome⟩ | ⟨-, -, result, outcome⟩
    all_goals
      rw [outcome] at refused
      cases refused
  -- From here on, the bytes matter by their doubles alone.
  have sized : 8 + 2 * (raw.length / 8)
      = payloadSize (Element.decodeAll raw : List Double).length := by
    rw [length_decodeAll_doubles]
    rfl
  simp only [compressInto_of_doubles mode _ doubles, meetsBelowZero_iff, not_not, sized]
  refine ⟨fun buffer => ⟨fun refused => ?_, encodeInto_of_short mode⟩,
    fun buffer room => ⟨?_, fun outside => ⟨_, encodeInto_of_not_inDomain room outside⟩⟩,
    fun inside => ?_⟩
  · rcases encodeInto_cases mode _ buffer with
      ⟨short, -⟩ | ⟨-, -, outcome⟩ | ⟨-, -, result, outcome⟩
    · exact short
    all_goals
      rw [outcome] at refused
      cases refused
  · rintro ⟨flaw, refused⟩
    rcases encodeInto_cases mode _ buffer with
      ⟨short, -⟩ | ⟨-, outside, -⟩ | ⟨-, -, result, outcome⟩
    · exact absurd short (Nat.not_lt.2 room)
    · exact outside
    · rw [outcome] at refused
      cases refused
  · obtain ⟨payload, encoded⟩ := exists_encode inside
    exact ⟨payload, length_of_encode encoded, compress_of_doubles doubles encoded,
      fun buffer room => encodeInto_of_encode encoded room⟩

end

/-- In the logarithmic mode a negative zero, negative infinity, a value that is no number with its
sign set, and one are written to the front of a buffer of twenty bytes, of which the last four stay.
One and minus one are refused, once the buffer is long enough. -/
theorem compression_outcomes_four :
    (∃ filled : Bytes,
      @compressInto .coarse .logarithmic ⟨8, true⟩
        [0, 0, 0, 0, 0, 0, 0, 0x80, 0, 0, 0, 0, 0, 0, 0xF0, 0xFF,
          0, 0, 0, 0, 0, 0, 0xF8, 0xFF, 0, 0, 0, 0, 0, 0, 0xF0, 0x3F]
        (List.replicate 20 7) = .ok (16, filled)
      ∧ filled.take 16
        = [0, 0, 0, 0, 0, 0, 128, 63, 0xFA, 0xFF, 0xFC, 0xFF, 0xFD, 0xFF, 0, 0]
      ∧ filled.drop 16 = [7, 7, 7, 7])
    ∧ (∃ flaw, @compressInto .coarse .logarithmic ⟨8, true⟩
        [0, 0, 0, 0, 0, 0, 0xF0, 0x3F, 0, 0, 0, 0, 0, 0, 0xF0, 0xBF] (List.replicate 12 7)
        = .error (.compressorDomain flaw))
    ∧ @compressInto .coarse .logarithmic ⟨8, true⟩
        [0, 0, 0, 0, 0, 0, 0xF0, 0x3F, 0, 0, 0, 0, 0, 0, 0xF0, 0xBF] (List.replicate 11 7)
        = .error (.bufferTooSmall 12 11) := by
  obtain ⟨-, accepted⟩ := @compression_outcomes .coarse .logarithmic ⟨8, true⟩
    [0, 0, 0, 0, 0, 0, 0, 0x80, 0, 0, 0, 0, 0, 0, 0xF0, 0xFF,
      0, 0, 0, 0, 0, 0, 0xF8, 0xFF, 0, 0, 0, 0, 0, 0, 0xF0, 0x3F]
  obtain ⟨-, refused⟩ := @compression_outcomes .coarse .logarithmic ⟨8, true⟩
    [0, 0, 0, 0, 0, 0, 0xF0, 0x3F, 0, 0, 0, 0, 0, 0, 0xF0, 0xBF]
  obtain ⟨-, -, written⟩ := accepted ⟨rfl, rfl⟩
  obtain ⟨short, domain, -⟩ := refused ⟨rfl, rfl⟩
  refine ⟨?_, (domain _ (by decide)).2 ⟨rfl, 1, by decide, by decide⟩, (short _).2 (by decide)⟩
  have compressed : @compress .coarse .logarithmic ⟨8, true⟩
      [0, 0, 0, 0, 0, 0, 0, 0x80, 0, 0, 0, 0, 0, 0, 0xF0, 0xFF,
        0, 0, 0, 0, 0, 0, 0xF8, 0xFF, 0, 0, 0, 0, 0, 0, 0xF0, 0x3F]
      = .ok [0, 0, 0, 0, 0, 0, 128, 63, 0xFA, 0xFF, 0xFC, 0xFF, 0xFD, 0xFF, 0, 0] := by
    decide +kernel
  obtain ⟨payload, sized, made, fill⟩ := written (by rintro ⟨-, met⟩; revert met; decide)
  rw [compressed, sized, if_pos (by decide), Except.ok.injEq] at made
  obtain ⟨filled, done, holds⟩ := fill (List.replicate 20 7) (by rw [sized]; decide)
  subst made
  exact ⟨filled, done, holds.front, holds.rest⟩

end Quantizer
end ArrayBlob
