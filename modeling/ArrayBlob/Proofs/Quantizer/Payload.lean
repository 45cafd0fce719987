import ArrayBlob.Proofs.Outcome
import ArrayBlob.Quantizer.Quantizer

/-!
# Payloads of the quantizer

A payload is a prelude and one code for each element, and a buffer that it is written to holds it at
the front. Ordinary codes and those of special values
are apart, whatever the arithmetic gives, so that every payload that was written is read back: a
special value as itself, and any other value as the value of its code under the scaling that the
prelude holds.
-/

namespace ArrayBlob

/-! ## Codes -/

theorem Special.topCode_lt_code (special : Special) : topCode < special.code := by
  cases special <;> decide

/-- An ordinary code is that of no special value. -/
theorem Special.ofCode?_of_le {code : UInt16} (ordinary : code ≤ topCode) :
    ofCode? code = none := by
  apply List.find?_eq_none.2
  intro special _ same
  have above := topCode_lt_code special
  rw [eq_of_beq same] at above
  exact UInt16.not_lt.2 ordinary above

namespace Scaling

variable {α : Type} [Quantity α]

/-- The steps up to any quantity are an ordinary code. -/
theorem stepsTo_le (scaling : Scaling α) (quantity : α) : scaling.stepsTo quantity ≤ topCode :=
  UInt16.and_le_right

/-- The quantity that is restored for one that was coded by one scaling and is decoded by
another. -/
def restore (scaling stored : Scaling α) (transform inverse : α → α) (x : α) : α :=
  match Quantity.special? x with
  | some special => Quantity.ofSpecial special
  | none => inverse (stored.afterSteps (scaling.stepsTo (transform x)))

/-- Every code has a meaning under every scaling. -/
theorem decode?_code (scaling stored : Scaling α) (transform inverse : α → α) (x : α) :
    stored.decode? inverse (scaling.code transform x)
      = some (scaling.restore stored transform inverse x) := by
  unfold decode? code restore
  cases Quantity.special? x with
  | some special => simp only [Special.ofCode?_code]
  | none =>
    have ordinary := scaling.stepsTo_le (transform x)
    have meant : ¬ Special.lastCode < scaling.stepsTo (transform x) := by
      intro above
      have contradiction := UInt16.lt_of_lt_of_le above ordinary
      revert contradiction
      decide
    simp only [Special.ofCode?_of_le ordinary, if_neg meant]

end Scaling

/-! ## Preludes -/

/-- The scaling that is left of one when its numbers are stored as singles. -/
def Scaling.stored (scaling : Scaling Double) : Scaling Double :=
  ⟨(Single.ofDouble scaling.offset).toDouble, (Single.ofDouble scaling.scale).toDouble⟩

namespace Quantizer

/-- The prelude with a scaling. -/
def encodePrelude (scaling : Scaling Double) : Bytes :=
  Element.encode (Single.ofDouble scaling.offset) ++ Element.encode (Single.ofDouble scaling.scale)

@[simp]
theorem length_encodePrelude (scaling : Scaling Double) :
    (encodePrelude scaling).length = preludeSize := by
  simp [encodePrelude, preludeSize, Element.width, Element.type, ElementType.size]

/-- A prelude is read back as the stored scaling, whatever codes follow it. -/
theorem decodePrelude_append (scaling : Scaling Double) (codes : Bytes) :
    decodePrelude (encodePrelude scaling ++ codes) = .ok scaling.stored := by
  have width (x : Single) : (Element.encode x).length = 4 := Element.length_encode x
  have long : ¬ (encodePrelude scaling ++ codes).length < preludeSize := by
    rw [List.length_append, length_encodePrelude]
    omega
  have offset : Bytes.field 0 4 (encodePrelude scaling ++ codes)
      = Element.encode (Single.ofDouble scaling.offset) := by
    rw [encodePrelude, List.append_assoc, Bytes.field_zero_append (width _)]
  have scale : Bytes.field 4 4 (encodePrelude scaling ++ codes)
      = Element.encode (Single.ofDouble scaling.scale) := by
    have behind := Nat.le_of_eq (width (Single.ofDouble scaling.offset))
    rw [encodePrelude, List.append_assoc, Bytes.field_append_of_le behind, width, Nat.sub_self,
      Bytes.field_zero_append (width _)]
  simp only [decodePrelude, if_neg long, offset, scale, Element.decode_encode]
  rfl

/-! ## Payloads -/

/-- The parts of a payload are a prelude and codes behind it. -/
theorem written_payloadParts (scaling : Scaling Double) (codes : List UInt16) :
    Bytes.written (payloadParts scaling codes)
      = encodePrelude scaling ++ Element.encodeAll codes := by
  have behind := Bytes.written_mapIdx (fun index => preludeSize + codeSize * index)
    Element.encode codes
  unfold Bytes.written at behind ⊢
  rw [payloadParts, List.flatMap_append, behind]
  simp [encodePrelude, Element.encodeAll]

theorem adjacent_payloadParts (scaling : Scaling Double) (codes : List UInt16) :
    Bytes.Adjacent 0 (payloadParts scaling codes) := by
  have width (x : Single) : (Element.encode x).length = 4 := Element.length_encode x
  refine ⟨rfl, ?_, ?_⟩
  · exact (congrArg (0 + ·) (width _)).symm
  · rw [width, width]
    exact Bytes.adjacent_mapIdx Element.length_encode preludeSize codes

theorem length_written_payloadParts (scaling : Scaling Double) (codes : List UInt16) :
    (Bytes.written (payloadParts scaling codes)).length = payloadSize codes.length := by
  rw [written_payloadParts]
  simp [payloadSize, codeSize, Element.width, Element.type, ElementType.size]

/-- The parts of a payload take the place of the first bytes of a buffer that has room for them. -/
theorem storeAll_payloadParts (scaling : Scaling Double) (codes : List UInt16) {buffer : Bytes}
    (room : payloadSize codes.length ≤ buffer.length) :
    Bytes.storeAll (payloadParts scaling codes) buffer
      = encodePrelude scaling ++ Element.encodeAll codes
        ++ buffer.drop (payloadSize codes.length) := by
  have sized := length_written_payloadParts scaling codes
  rw [Bytes.storeAll_eq_overwrite (adjacent_payloadParts scaling codes)
    (by rwa [Nat.zero_add, sized]), Bytes.overwrite_zero, sized, written_payloadParts]

theorem length_decodeAll_doubles (raw : Bytes) :
    (Element.decodeAll raw : List Double).length = raw.length / 8 :=
  Element.length_decodeAll raw

variable [Exponential] {mode : Mode} {values : List Double} {payload : Bytes}

/-- A buffer with room for a payload gets the prelude and the codes at its front and keeps what is
behind them. -/
theorem encodeInto_eq (mode : Mode) {buffer : Bytes}
    (room : payloadSize values.length ≤ buffer.length) :
    encodeInto mode values buffer = (scalingOf mode values).map fun scaling =>
      (payloadSize values.length,
        encodePrelude scaling ++ Element.encodeAll (values.map (scaling.code mode.forward))
          ++ buffer.drop (payloadSize values.length)) := by
  unfold encodeInto
  rw [if_neg (Nat.not_lt.2 room)]
  cases scalingOf mode values with
  | error fault => rfl
  | ok scaling =>
    have stored := storeAll_payloadParts scaling (values.map (scaling.code mode.forward))
      (by rwa [List.length_map])
    rw [List.length_map] at stored
    exact congrArg (fun filled => Except.ok (payloadSize values.length, filled)) stored

/-- A payload is the prelude of the scaling of its values and their codes. -/
theorem encode_eq (mode : Mode) (values : List Double) :
    encode mode values = (scalingOf mode values).map fun scaling =>
      encodePrelude scaling ++ Element.encodeAll (values.map (scaling.code mode.forward)) := by
  have room : payloadSize values.length
      ≤ (List.replicate (payloadSize values.length) (0 : UInt8)).length :=
    Nat.le_of_eq List.length_replicate.symm
  rw [encode, encodeInto_eq mode room]
  cases scalingOf mode values with
  | error fault => rfl
  | ok scaling =>
    apply congrArg Except.ok
    apply List.take_left'
    rw [← written_payloadParts, length_written_payloadParts, List.length_map]

/-- The buffer that the codec makes itself has the size of the payload. -/
theorem compress_eq (mode : Mode) (layout : Layout) (raw : Bytes) :
    compress mode layout raw = (do
      reserve (payloadSize (raw.length / 8))
      let _ ← doubleCount layout raw.length
      encode mode (Element.decodeAll raw)) := by
  simp only [compress, compressInto, zeroed, encode, bind_assoc, pure_bind,
    length_decodeAll_doubles]

theorem exists_scaling_of_encode (encoded : encode mode values = .ok payload) :
    ∃ scaling, scalingOf mode values = .ok scaling
      ∧ payload
        = encodePrelude scaling ++ Element.encodeAll (values.map (scaling.code mode.forward)) := by
  rw [encode_eq] at encoded
  cases scaled : scalingOf mode values with
  | error fault =>
    rw [scaled] at encoded
    cases encoded
  | ok scaling =>
    rw [scaled] at encoded
    exact ⟨scaling, rfl, (Except.ok.inj encoded).symm⟩

/-- The size of a payload depends on the number of values alone. -/
theorem length_of_encode (encoded : encode mode values = .ok payload) :
    payload.length = payloadSize values.length := by
  obtain ⟨scaling, -, rfl⟩ := exists_scaling_of_encode encoded
  simp [payloadSize, codeSize, Element.width, Element.type, ElementType.size]

/-- The value that is restored for one of the values of a scaling. -/
def restored (mode : Mode) (scaling : Scaling Double) (x : Double) : Double :=
  scaling.restore scaling.stored mode.forward mode.backward x

/-- Reading a payload restores each of the values on its own. -/
theorem decode_encode (encoded : encode mode values = .ok payload)
    (fits : payloadSize values.length < 2 ^ 64) :
    ∃ scaling, scalingOf mode values = .ok scaling
      ∧ decode mode payload values.length = .ok (values.map (restored mode scaling)) := by
  have sized := length_of_encode encoded
  obtain ⟨scaling, scaled, rfl⟩ := exists_scaling_of_encode encoded
  refine ⟨scaling, scaled, ?_⟩
  have required : requireSize (payloadSize values.length) values.length = .ok () :=
    if_pos ⟨fits, rfl⟩
  have behind : (encodePrelude scaling
      ++ Element.encodeAll (values.map (scaling.code mode.forward))).drop preludeSize
      = Element.encodeAll (values.map (scaling.code mode.forward)) :=
    List.drop_left' (length_encodePrelude scaling)
  rw [decode, sized, required, ok_bind, decodePrelude_append, ok_bind, behind,
    Element.decodeAll_encodeAll, List.mapM_map]
  apply mapM_eq_ok
  intro value _
  simp only [Function.comp_apply, valueOf, Scaling.decode?_code]
  rfl

end Quantizer
end ArrayBlob
