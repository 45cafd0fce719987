import ArrayBlob.Blob.Header
import ArrayBlob.Proofs.Frame.Lossless
import ArrayBlob.Selection

/-!
# Selections and their payloads

A header records a selection by the name of its coder, and the name selects the same coder again.
What a selection that loses nothing packs has the framing of its raw data and is unpacked to it.
-/

namespace ArrayBlob

namespace Coder

@[simp]
theorem ofName?_name (coder : Coder) : ofName? coder.name = some coder := by
  rcases coder with flavor | mode
  · cases flavor <;> decide
  · cases mode <;> decide

/-- The name of a coder fits its field. -/
theorem ofText_name (coder : Coder) :
    ∃ name, CompressorName.ofText coder.name = .ok name ∧ name.text = coder.name := by
  have fits : (Utf8.encode coder.name).length ≤ nameWidth ∧ 0 ∉ Utf8.encode coder.name := by
    rcases coder with flavor | mode
    · cases flavor <;> decide
    · cases mode <;> decide
  have shown : coder.name.isEmpty = false := by
    rcases coder with flavor | mode
    · cases flavor <;> decide
    · cases mode <;> decide
  refine ⟨⟨coder.name, fits.1, fits.2⟩, ?_, rfl⟩
  rw [CompressorName.ofText, dif_pos fits, shown]
  rfl

end Coder

namespace Selection

/-- The stored name of a coder selects the coder, at the fastest level. -/
theorem ofStoredName_name (coder : Coder) :
    ofStoredName coder.name = .ok (coded coder Level.fast) := by
  rw [ofStoredName, Coder.ofName?_name]

/-- A stored name selects a coder at the fastest level. -/
theorem eq_coded_of_ofStoredName {name : String} {selection : Selection}
    (found : ofStoredName name = .ok selection) :
    ∃ coder, Coder.ofName? name = some coder ∧ selection = coded coder Level.fast := by
  unfold ofStoredName at found
  split at found
  · next coder named =>
    cases found
    exact ⟨coder, named, rfl⟩
  · cases found

variable {selection : Selection} {layout : Layout} {raw payload : Bytes}

/-- A selection that loses nothing is a flavor of the lossless codec, or none at all. -/
theorem cases_of_not_isLossy (lossless : selection.isLossy = false) :
    selection = uncompressed ∨ ∃ flavor level, selection = coded (.lossless flavor) level := by
  rcases selection with _ | ⟨flavor | mode, level⟩
  · exact .inl rfl
  · exact .inr ⟨flavor, level, rfl⟩
  · cases mode <;> cases lossless

variable [Exponential]

/-- A lossless payload is a frame of its raw data. -/
theorem encode_of_pack {flavor : Flavor} {level : Level}
    (packed : (coded (.lossless flavor) level).pack layout raw = .ok payload) :
    Frame.encode flavor level layout raw = .ok payload := by
  rw [pack, Frame.compress_eq] at packed
  obtain ⟨-, -, encoded⟩ := bind_eq_ok_iff.1 packed
  exact encoded

/-- Data that a frame can hold is packed by every selection that loses nothing. -/
theorem pack_eq_ok_of_not_isLossy (selection : Selection) (layout : Layout)
    (lossless : selection.isLossy = false) (fits : Frame.largestFrame raw.length < 2 ^ 32) :
    ∃ payload, selection.pack layout raw = .ok payload := by
  rcases cases_of_not_isLossy lossless with rfl | ⟨flavor, level, rfl⟩
  · have room : reserve raw.length = .ok () := by
      apply reserve_eq_ok_iff.2
      unfold Frame.largestFrame at fits
      omega
    exact ⟨raw, by rw [pack, room]; rfl⟩
  · obtain ⟨payload, encoded⟩ := Frame.encode_eq_ok flavor level layout fits
    exact ⟨payload, by rw [pack, Frame.compress_eq_encode fits, encoded]⟩

/-- What a selection that loses nothing packs is unpacked to the raw data, whatever the level. -/
theorem unpack_pack_lossless {flavor : Flavor} {level : Level} (stored : Level)
    (packed : (coded (.lossless flavor) level).pack layout raw = .ok payload) :
    (coded (.lossless flavor) stored).unpack layout payload raw.length = .ok raw :=
  Frame.decode_encode (encode_of_pack packed)

/-- A lossless payload passes the check that runs before it is unpacked. -/
theorem checkFraming_pack_lossless {flavor : Flavor} {level : Level} (stored : Level)
    (packed : (coded (.lossless flavor) level).pack layout raw = .ok payload) :
    (coded (.lossless flavor) stored).checkFraming layout payload raw.length = .ok () := by
  obtain ⟨header, read, rawSize, -, frameSize⟩ := Frame.header_of_encode (encode_of_pack packed)
  simp only [checkFraming, read, ok_bind, rawSize, frameSize, ne_eq, not_true_eq_false, or_self,
    if_false]
  rfl

/-- A frame holds less than `2 ^ 32` bytes. -/
theorem length_lt_of_pack_lossless {flavor : Flavor} {level : Level}
    (packed : (coded (.lossless flavor) level).pack layout raw = .ok payload) :
    raw.length < 2 ^ 32 := by
  obtain ⟨-, -, -, small, -, -⟩ := Frame.exists_body_of_encode (encode_of_pack packed)
  exact small

end Selection
end ArrayBlob
