import ArrayBlob.Proofs.Frame.Reading
import ArrayBlob.Proofs.Quantizer.Codes

/-!
# The check of a payload and its unpacking

A payload is checked before room for its data is reserved, and unpacked afterwards by code that
checks again, in another order and with other words. The two never disagree: what the check refuses
is refused by the unpacking with a fault of the same category, and what it lets through is unpacked
but for the few defects that no look at sizes can find. `Defect` lists them.
-/

namespace ArrayBlob

/-! ## Quantized payloads -/

/-- Whole doubles are read back from a payload of the right size without a reserved code. -/
theorem Quantizer.decodeBytes_succeeds_iff [Exponential] {mode : Mode} {layout : Layout}
    {payload : Bytes} {size : Nat} :
    (∃ data, decodeBytes mode layout payload size = .ok data)
      ↔ (layout.isDouble = true ∧ size % 8 = 0)
        ∧ requireSize payload.length (size / 8) = .ok ()
        ∧ ∀ index < size / 8, codeAt payload index ≠ 0xFFFE ∧ codeAt payload index ≠ 0xFFFF := by
  have decoded : (∃ values, decode mode payload (size / 8) = .ok values)
      ↔ requireSize payload.length (size / 8) = .ok ()
        ∧ ∀ index < size / 8,
          codeAt payload index ≠ 0xFFFE ∧ codeAt payload index ≠ 0xFFFF := by
    rw [decode_succeeds_iff, requireSize_eq_ok_iff, and_comm (a := payloadSize _ < _), and_assoc]
    exact Iff.rfl
  rw [← decoded]
  constructor
  · rintro ⟨data, read⟩
    obtain ⟨count, counted, read⟩ := bind_eq_ok_iff.1 read
    obtain ⟨values, listed, -⟩ := bind_eq_ok_iff.1 read
    obtain ⟨doubles, rfl⟩ := doubleCount_eq_ok_iff.1 counted
    rw [Nat.mul_div_cancel_left count (by decide)]
    exact ⟨⟨doubles, Nat.mul_mod_right 8 count⟩, values, listed⟩
  · rintro ⟨doubles, values, listed⟩
    rw [decodeBytes, doubleCount_of_doubles doubles, ok_bind, listed, ok_bind]
    exact ⟨_, rfl⟩

/-- Data that are no whole doubles are refused as an argument. -/
theorem Quantizer.decodeBytes_of_not_doubles [Exponential] (mode : Mode) {layout : Layout}
    {size : Nat} (payload : Bytes) (other : ¬ (layout.isDouble = true ∧ size % 8 = 0)) :
    ∃ fault, decodeBytes mode layout payload size = .error fault
      ∧ fault.category = .compressorArgument := by
  obtain ⟨flaw, refused⟩ := doubleCount_of_not_doubles other
  rw [decodeBytes, refused, error_bind]
  exact ⟨_, rfl, rfl⟩

namespace Selection

variable {layout : Layout} {payload : Bytes} {rawSize : Nat}

/-! ## What the check asks for -/

/-- The check of a frame asks for the right sizes in its header. -/
theorem checkFraming_lossless_iff {flavor : Flavor} {level : Level} :
    (coded (.lossless flavor) level).checkFraming layout payload rawSize = .ok ()
      ↔ Frame.Framed payload rawSize := by
  constructor
  · intro checked
    obtain ⟨header, read, checked⟩ := bind_eq_ok_iff.1 checked
    obtain ⟨agree, -⟩ := reject_eq_ok_iff.1 checked
    obtain rfl := Frame.Header.eq_fields_of_decode read
    rw [not_or, Decidable.not_not, Decidable.not_not] at agree
    exact ⟨read, agree.1, agree.2⟩
  · intro framed
    rw [checkFraming, framed.read, ok_bind]
    dsimp only
    rw [if_neg (by simp [framed.rawSize, framed.frameSize])]
    rfl

/-- The check of a quantized payload asks for whole doubles and as many codes. -/
theorem checkFraming_quantizer_iff {mode : Mode} {level : Level} :
    (coded (.quantizer mode) level).checkFraming layout payload rawSize = .ok ()
      ↔ (layout.isDouble = true ∧ rawSize % 8 = 0)
        ∧ Quantizer.requireSize payload.length (rawSize / 8) = .ok () := by
  unfold checkFraming
  dsimp only
  rw [reject_eq_ok_iff, not_or, Bool.not_eq_true', Bool.not_eq_false, ne_eq, Decidable.not_not]

/-- Data that are no whole doubles are refused as the argument of a quantizer. -/
theorem checkFraming_of_not_doubles (mode : Mode) (level : Level) (payload : Bytes)
    (other : ¬ (layout.isDouble = true ∧ rawSize % 8 = 0)) :
    (coded (.quantizer mode) level).checkFraming layout payload rawSize
      = .error (.compressorArgument .notDoubles) := by
  have unsuited : (!layout.isDouble) = true ∨ rawSize % 8 ≠ 0 := by
    cases double : layout.isDouble with
    | false => exact .inl rfl
    | true => exact .inr fun whole => other ⟨double, whole⟩
  exact if_pos unsuited

/-! ## Defects behind the check -/

/-- What is left to find fault with in a payload whose sizes are right. -/
inductive Defect (payload : Bytes) (rawSize : Nat) : Selection → Prop
  /-- The block in a frame stands for no bytes. -/
  | malformed {flavor : Flavor} {level : Level}
      (packed : (Frame.Header.fields payload).isVerbatim = false)
      (malformed : Lz4.Malformed (payload.drop Frame.headerSize)) :
      Defect payload rawSize (coded (.lossless flavor) level)
  /-- The block in a frame stands for another number of bytes. -/
  | otherLength {flavor : Flavor} {level : Level} {bytes : Bytes}
      (packed : (Frame.Header.fields payload).isVerbatim = false)
      (stands : Lz4.StandsFor (payload.drop Frame.headerSize) bytes)
      (other : bytes.length ≠ rawSize) :
      Defect payload rawSize (coded (.lossless flavor) level)
  /-- A code is one of the two that no element has. -/
  | reservedCode {mode : Mode} {level : Level} {index : Nat} (inside : index < rawSize / 8)
      (reserved : Quantizer.codeAt payload index = 0xFFFE
        ∨ Quantizer.codeAt payload index = 0xFFFF) :
      Defect payload rawSize (coded (.quantizer mode) level)

/-- A frame is defective unless it is verbatim or its block stands for as many bytes as were asked
for. -/
theorem not_defect_lossless_iff {flavor : Flavor} {level : Level} :
    ¬ (coded (.lossless flavor) level).Defect payload rawSize
      ↔ ((Frame.Header.fields payload).isVerbatim = false →
        ∃ bytes, Lz4.StandsFor (payload.drop Frame.headerSize) bytes
          ∧ bytes.length = rawSize) := by
  constructor
  · intro sound packed
    by_cases malformed : Lz4.Malformed (payload.drop Frame.headerSize)
    · exact absurd (.malformed packed malformed) sound
    · obtain ⟨bytes, stands⟩ := not_forall_not.1 malformed
      refine ⟨bytes, stands, Decidable.byContradiction fun other => ?_⟩
      exact sound (.otherLength packed stands other)
  · intro stands defect
    cases defect with
    | malformed packed malformed =>
      obtain ⟨bytes, found, -⟩ := stands packed
      exact malformed bytes found
    | otherLength packed found other =>
      obtain ⟨bytes, again, full⟩ := stands packed
      rw [found.unique again] at other
      exact other full

/-- A quantized payload is defective unless none of its codes is reserved. -/
theorem not_defect_quantizer_iff {mode : Mode} {level : Level} :
    ¬ (coded (.quantizer mode) level).Defect payload rawSize
      ↔ ∀ index < rawSize / 8, Quantizer.codeAt payload index ≠ 0xFFFE
        ∧ Quantizer.codeAt payload index ≠ 0xFFFF := by
  constructor
  · intro sound index inside
    rw [← not_or]
    exact fun reserved => sound (.reservedCode inside reserved)
  · intro meant defect
    cases defect with
    | reservedCode inside reserved => exact not_or.2 (meant _ inside) reserved

/-! ## Agreement -/

section

variable [Exponential]

/-- A payload is unpacked when it passes the check and has no defect. -/
theorem unpack_succeeds_iff (selection : Selection) :
    (∃ data, selection.unpack layout payload rawSize = .ok data)
      ↔ selection.checkFraming layout payload rawSize = .ok ()
        ∧ ¬ selection.Defect payload rawSize := by
  rcases selection with _ | ⟨flavor | mode, level⟩
  · have sound : ¬ uncompressed.Defect payload rawSize := by
      intro defect
      cases defect
    unfold unpack checkFraming
    dsimp only
    split <;> simp [sound]
  · rw [checkFraming_lossless_iff, not_defect_lossless_iff]
    change (∃ data, Frame.decode payload rawSize = .ok data) ↔ _
    constructor
    · -- What is decoded has passed the checks that decoding makes on its own.
      rintro ⟨data, decoded⟩
      have framed := Frame.framed_of_decode decoded
      exact ⟨framed, fun packed => (framed.decode_succeeds_iff packed).1 ⟨data, decoded⟩⟩
    · rintro ⟨framed, stands⟩
      by_cases verbatim : (Frame.Header.fields payload).isVerbatim = true
      · exact ⟨_, framed.decode_verbatim verbatim⟩
      · have packed := eq_false_of_ne_true verbatim
        exact (framed.decode_succeeds_iff packed).2 (stands packed)
  · rw [checkFraming_quantizer_iff, not_defect_quantizer_iff, and_assoc]
    exact Quantizer.decodeBytes_succeeds_iff

/-- What the check refuses, the unpacking refuses with a fault of the same category. -/
theorem unpack_fails_of_checkFraming {selection : Selection} {fault : Fault}
    (refused : selection.checkFraming layout payload rawSize = .error fault) :
    ∃ other, selection.unpack layout payload rawSize = .error other
      ∧ other.category = fault.category := by
  by_cases suits : selection.Suits layout rawSize
  · have category := checkFraming_failsWithin_of_suits payload suits fault refused
    cases unpacked : selection.unpack layout payload rawSize with
    | ok data =>
      have checked := ((unpack_succeeds_iff selection).1 ⟨data, unpacked⟩).1
      rw [checked] at refused
      cases refused
    | error other =>
      have same := unpack_failsWithin_of_suits payload suits other unpacked
      rw [List.mem_singleton] at category same
      exact ⟨other, rfl, same.trans category.symm⟩
  · rcases selection with _ | ⟨flavor | mode, level⟩
    · exact absurd trivial suits
    · exact absurd trivial suits
    · obtain ⟨other, failed, category⟩ :=
        Quantizer.decodeBytes_of_not_doubles mode payload suits
      rw [checkFraming_of_not_doubles mode level payload suits] at refused
      cases refused
      exact ⟨other, failed, category⟩

/-- The check of a payload and its unpacking agree, for every selection, layout and size. What the
check refuses is refused by the unpacking with a fault of the same category, so that nothing that
would be unpacked is refused beforehand. Behind a passed check the unpacking fails for a flaw of
compression alone, and exactly if the payload has a defect: the block of a frame that is not
verbatim stands for no bytes or for another number of them, or a code is reserved. A stored payload
and a verbatim frame are then unpacked to what they hold. -/
theorem checkFraming_agrees_with_unpack (selection : Selection) (layout : Layout)
    (payload : Bytes) (rawSize : Nat) :
    (∀ fault, selection.checkFraming layout payload rawSize = .error fault →
      ∃ other, selection.unpack layout payload rawSize = .error other
        ∧ other.category = fault.category)
    ∧ (selection.checkFraming layout payload rawSize = .ok () →
      FailsWithin [.compression] (selection.unpack layout payload rawSize)
      ∧ ((∃ fault, selection.unpack layout payload rawSize = .error fault)
        ↔ selection.Defect payload rawSize)
      ∧ (selection = uncompressed → selection.unpack layout payload rawSize = .ok payload)
      ∧ ∀ flavor level, selection = coded (.lossless flavor) level →
        (Frame.Header.fields payload).isVerbatim = true →
          selection.unpack layout payload rawSize = .ok (payload.drop Frame.headerSize)) := by
  refine ⟨fun fault refused => unpack_fails_of_checkFraming refused, fun checked => ?_⟩
  refine ⟨unpack_failsWithin_of_checkFraming checked, ?_, ?_, ?_⟩
  · rw [fails_iff, unpack_succeeds_iff, not_and, not_not]
    exact ⟨fun refused => refused checked, fun defect _ => defect⟩
  · rintro rfl
    unfold checkFraming at checked
    dsimp only at checked
    split at checked
    · next full => exact if_pos full
    · cases checked
  · rintro flavor level rfl verbatim
    exact (checkFraming_lossless_iff.1 checked).decode_verbatim verbatim

end

/-- Two doubles of which the second has the last code of all pass the check and are not unpacked.
With a byte less, the check refuses them, and so does the unpacking. -/
theorem checkFraming_agrees_with_unpack_reserved :
    (coded (.quantizer .linear) Level.fast).checkFraming ⟨8, true⟩
        [0, 0, 128, 63, 0, 0, 128, 63, 0, 0, 0xFF, 0xFF] 16 = .ok ()
      ∧ (∃ fault, @unpack .coarse (coded (.quantizer .linear) Level.fast) ⟨8, true⟩
        [0, 0, 128, 63, 0, 0, 128, 63, 0, 0, 0xFF, 0xFF] 16 = .error fault)
      ∧ ∃ fault, @unpack .coarse (coded (.quantizer .linear) Level.fast) ⟨8, true⟩
        [0, 0, 128, 63, 0, 0, 128, 63, 0, 0, 0xFF] 16 = .error fault
        ∧ fault.category = .compression := by
  have checked : (coded (.quantizer .linear) Level.fast).checkFraming ⟨8, true⟩
      [0, 0, 128, 63, 0, 0, 128, 63, 0, 0, 0xFF, 0xFF] 16 = .ok () := rfl
  have agreed := @checkFraming_agrees_with_unpack .coarse (coded (.quantizer .linear) Level.fast)
    ⟨8, true⟩
  obtain ⟨-, passed⟩ := agreed [0, 0, 128, 63, 0, 0, 128, 63, 0, 0, 0xFF, 0xFF] 16
  obtain ⟨refused, -⟩ := agreed [0, 0, 128, 63, 0, 0, 128, 63, 0, 0, 0xFF] 16
  refine ⟨checked, (passed checked).2.1.2 ?_, refused _ rfl⟩
  exact .reservedCode (show 1 < 16 / 8 by decide) (.inr rfl)

end Selection
end ArrayBlob
