import ArrayBlob.Proofs.Blob.Lossless
import ArrayBlob.Proofs.Blob.Reservation

/-!
# Reading back and the size limit

Two settings look at a blob and never change it: whether lossless payloads are read back, and the
largest size. A codec without both makes the blob or fails; with them it makes the same blob if that
is within the limit, refuses it as too large if it is not, and fails where the other failed. What
was packed is always restored, so that reading back finds nothing.
-/

namespace ArrayBlob

/-! ## Outcomes under a limit -/

/-- How an outcome under a size limit follows from the outcome without one. -/
structure HeldTo (limit : Nat) (free held : Except Fault Packed) : Prop where
  /-- A blob within the limit is the same. -/
  within : ∀ packed, free = .ok packed → packed.bytes.length ≤ limit → held = .ok packed
  /-- A larger blob is refused with its size. -/
  beyond : ∀ packed, free = .ok packed → limit < packed.bytes.length →
    held = .error (.blobTooBig packed.bytes.length limit)
  /-- What failed without the limit fails under it. -/
  failed : ∀ fault, free = .error fault → ∃ again, held = .error again

namespace HeldTo

variable {α : Type} {limit : Nat}

theorem error (first second : Fault) : HeldTo limit (.error first) (.error second) where
  within := by
    intro packed made
    cases made
  beyond := by
    intro packed made
    cases made
  failed := fun _ _ => ⟨second, rfl⟩

/-- The same first step, followed by what is held to the limit, is held to it. -/
theorem bind {first : Except Fault α} {free held : α → Except Fault Packed}
    (after : ∀ value, first = .ok value → HeldTo limit (free value) (held value)) :
    HeldTo limit (first >>= free) (first >>= held) := by
  cases first with
  | error fault => exact .error fault fault
  | ok value => exact after value rfl

/-- The same choice between what is held to the limit is held to it. -/
theorem ite {condition : Prop} [Decidable condition] {free free' held held' : Except Fault Packed}
    (taken : condition → HeldTo limit free held)
    (skipped : ¬ condition → HeldTo limit free' held') :
    HeldTo limit (if condition then free else free') (if condition then held else held') := by
  split
  · next holds => exact taken holds
  · next fails => exact skipped fails

/-- A check of the size in front of the making of a blob holds it to the limit. -/
theorem of_check {size : Nat} {free : Except Fault Packed}
    (sized : ∀ packed, free = .ok packed → packed.bytes.length = size) :
    HeldTo limit free (if limit < size then .error (.blobTooBig size limit) else free) where
  within := by
    intro packed made small
    rw [sized packed made] at small
    rw [if_neg (Nat.not_lt.2 small), made]
  beyond := by
    intro packed made large
    rw [sized packed made] at large ⊢
    rw [if_pos large]
  failed := by
    rintro fault rfl
    split
    · exact ⟨_, rfl⟩
    · exact ⟨fault, rfl⟩

end HeldTo

/-! ## Packing under a limit -/

/-- The largest limit that settings can hold. -/
def noLimit : UInt64 := 0xFFFFFFFFFFFFFFFF

/-- The settings with another answer to whether payloads are read back, and another limit. -/
def Settings.gated (settings : Settings) (verify : Bool) (limit : UInt64) : Settings :=
  { settings with verify := verify, maxBlobSize := limit }

/-- The codec of such settings. -/
def Codec.gated {γ : Type} (codec : Codec γ) (verify : Bool) (limit : UInt64) : Codec γ :=
  { codec with settings := codec.settings.gated verify limit }

section

variable {elementType : ElementType} {dims : List Nat} {raw : Bytes} {selection : Selection}
  {coded? : Option Bytes}

namespace Settings

variable {settings : Settings}

/-- A payload is sealed under a limit as without one. -/
theorem heldTo_seal (verify : Bool) (limit : UInt64)
    (small : chosenSize dims.length raw.length coded? < 2 ^ 64) :
    HeldTo limit.toNat
      ((settings.gated false noLimit).seal elementType dims raw selection coded?)
      ((settings.gated verify limit).seal elementType dims raw selection coded?) := by
  have unlimited : ¬ noLimit.toNat < chosenSize dims.length raw.length coded? := by
    change ¬ 2 ^ 64 - 1 < _
    omega
  unfold Settings.seal gated
  rw [if_neg unlimited]
  apply HeldTo.of_check
  intro packed done
  obtain ⟨header, made, done⟩ := bind_eq_ok_iff.1 done
  obtain ⟨⟨⟩, -, same⟩ := bind_eq_ok_iff.1 done
  cases same
  exact Packed.length_ofChoice made

variable [Exponential]

theorem heldTo_packRaw (verify : Bool) (limit : UInt64) :
    HeldTo limit.toNat
      ((settings.gated false noLimit).packRaw elementType dims raw selection)
      ((settings.gated verify limit).packRaw elementType dims raw selection) := by
  simp only [packRaw_eq]
  apply HeldTo.ite
  · intro _
    exact .error _ _
  · intro fits
    -- The choice of the payload looks at neither setting.
    apply HeldTo.bind
    intro coded? chosen
    have bound := chosenSize_le chosen
    exact heldTo_seal verify limit (Nat.lt_of_le_of_lt bound (Nat.lt_of_not_le fits))

theorem heldTo_packArray (array : TypedArray) (verify : Bool) (limit : UInt64) :
    HeldTo limit.toNat
      ((settings.gated false noLimit).packArray array selection)
      ((settings.gated verify limit).packArray array selection) := by
  unfold packArray
  apply HeldTo.ite
  · intro _
    exact .error _ _
  · intro _
    apply HeldTo.ite
    · intro _
      exact .error _ _
    · intro _
      exact heldTo_packRaw verify limit

end Settings

theorem Codec.heldTo_pack [Exponential] {γ : Type} (codec : Codec γ) (value : Value γ)
    (selection : Selection) (verify : Bool) (limit : UInt64) :
    HeldTo limit.toNat ((codec.gated false noLimit).pack value selection)
      ((codec.gated verify limit).pack value selection) := by
  cases value with
  | array array => exact Settings.heldTo_packArray array verify limit
  | composite content =>
    simp only [pack, gated]
    apply HeldTo.ite
    · intro _
      cases codec.serializer.serialize content with
      | error fault => exact .error _ _
      | ok stream => exact Settings.heldTo_packRaw verify limit
    · intro _
      exact .error _ _

end

/-! ## The faults of reading back -/

/-- Reading back found that a payload cannot be unpacked, or that it is unpacked to other data. -/
def Fault.IsFromReadingBack (fault : Fault) : Prop :=
  (∃ reason, fault = .compression (.roundTripFailed reason))
    ∨ fault = .compression .roundTripDiffers

/-- All such faults are flaws of compression. -/
theorem Fault.category_of_isFromReadingBack {fault : Fault} (found : fault.IsFromReadingBack) :
    fault.category = .compression := by
  rcases found with ⟨reason, rfl⟩ | rfl <;> rfl

/-- What never ends with a flaw of compression avoids them. -/
theorem Avoids.isFromReadingBack {α : Type} {categories : List Category}
    {outcome : Except Fault α} (within : FailsWithin categories outcome)
    (absent : .compression ∉ categories) : Avoids Fault.IsFromReadingBack outcome := by
  apply Avoids.of_failsWithin within
  intro fault found
  rwa [fault.category_of_isFromReadingBack found]

theorem Frame.compress_avoids_readingBack (flavor : Flavor) (level : Level) (layout : Layout)
    (raw : Bytes) : Avoids Fault.IsFromReadingBack (compress flavor level layout raw) := by
  rw [compress_eq]
  apply Avoids.bind (.isFromReadingBack (reserve_failsWithin _) (by decide))
  intro _ _ fault failed
  obtain ⟨size, rfl | rfl⟩ := fault_of_encode failed <;> simp [Fault.IsFromReadingBack]

section

variable [Exponential]

theorem Selection.pack_avoids_readingBack (selection : Selection) (layout : Layout)
    (raw : Bytes) : Avoids Fault.IsFromReadingBack (selection.pack layout raw) := by
  unfold pack
  split
  · apply Avoids.bind (.isFromReadingBack (reserve_failsWithin _) (by decide))
    intro _ _
    exact .ok _
  · exact Frame.compress_avoids_readingBack _ _ layout raw
  · next mode _ =>
    rw [Quantizer.compress_eq]
    apply Avoids.bind (.isFromReadingBack (reserve_failsWithin _) (by decide))
    intro _ _
    apply Avoids.bind (.isFromReadingBack (Quantizer.doubleCount_failsWithin layout _) (by decide))
    intro _ _
    exact .isFromReadingBack (Quantizer.encode_failsWithin mode _) (by decide)

namespace Settings

variable (settings : Settings)

theorem packRaw_avoids_readingBack (elementType : ElementType) (dims : List Nat) (raw : Bytes)
    (selection : Selection) :
    Avoids Fault.IsFromReadingBack (settings.packRaw elementType dims raw selection) := by
  rw [packRaw_eq]
  apply Avoids.reject (by simp [Fault.IsFromReadingBack])
  intro _
  apply Avoids.bind
  · intro fault failed
    exact selection.pack_avoids_readingBack _ raw fault (pack_of_chosenPayload?_error failed)
  · intro coded? _
    exact .isFromReadingBack (settings.seal_failsWithin _ _ _ _ _) (by decide)

theorem packArray_avoids_readingBack (array : TypedArray) (selection : Selection) :
    Avoids Fault.IsFromReadingBack (settings.packArray array selection) := by
  unfold packArray
  apply Avoids.reject (by simp [Fault.IsFromReadingBack])
  intro _
  apply Avoids.reject (by simp [Fault.IsFromReadingBack])
  intro _
  exact settings.packRaw_avoids_readingBack _ _ _ selection

end Settings

theorem Codec.pack_avoids_readingBack {γ : Type} (codec : Codec γ) (value : Value γ)
    (selection : Selection) : Avoids Fault.IsFromReadingBack (codec.pack value selection) := by
  cases value with
  | array array => exact codec.settings.packArray_avoids_readingBack array selection
  | composite content =>
    unfold pack
    apply Avoids.ite
    · intro _
      split
      · exact .error (by simp [Fault.IsFromReadingBack])
      · exact codec.settings.packRaw_avoids_readingBack _ _ _ selection
    · intro _
      exact .error (by simp [Fault.IsFromReadingBack])

end

/-! ## The two settings -/

namespace Codec

/-- Reading back and the size limit never change a blob. If a codec makes one without both, it makes
the same under any limit that the blob does not exceed, and otherwise refuses it as too large, with
its size; if it fails without both, it fails. No settings make reading back fail. -/
theorem pack_gated [Exponential] {γ : Type} (codec : Codec γ) (value : Value γ)
    (selection : Selection) :
    (∀ packed, (codec.gated false noLimit).pack value selection = .ok packed →
      ∀ verify limit,
        (packed.bytes.length ≤ limit.toNat →
          (codec.gated verify limit).pack value selection = .ok packed)
        ∧ (limit.toNat < packed.bytes.length →
          (codec.gated verify limit).pack value selection
            = .error (.blobTooBig packed.bytes.length limit.toNat)))
    ∧ (∀ fault, (codec.gated false noLimit).pack value selection = .error fault →
      ∀ verify limit, ∃ again, (codec.gated verify limit).pack value selection = .error again)
    ∧ (∀ reason, codec.pack value selection ≠ .error (.compression (.roundTripFailed reason)))
    ∧ codec.pack value selection ≠ .error (.compression .roundTripDiffers) := by
  have held := codec.heldTo_pack value selection
  have avoided := codec.pack_avoids_readingBack value selection
  refine ⟨?_, ?_, ?_, ?_⟩
  · intro packed made verify limit
    exact ⟨(held verify limit).within packed made, (held verify limit).beyond packed made⟩
  · intro fault refused verify limit
    exact (held verify limit).failed fault refused
  · intro reason failed
    exact avoided _ failed (.inl ⟨reason, rfl⟩)
  · intro failed
    exact avoided _ failed (.inr rfl)

/-- The blob of the row of sevens has 80 bytes. It is the same under a limit of 80, where the
payload is read back, and is refused under 79. -/
theorem pack_gated_sevens :
    ∃ packed,
      @pack .coarse Empty (gated ⟨Settings.default, Serializer.none⟩ false noLimit)
          (.array sevens) (.coded (.lossless .lz4hc) Level.best) = .ok packed
        ∧ packed.bytes.length = 80
        ∧ @pack .coarse Empty (gated ⟨Settings.default, Serializer.none⟩ true 80)
            (.array sevens) (.coded (.lossless .lz4hc) Level.best) = .ok packed
        ∧ @pack .coarse Empty (gated ⟨Settings.default, Serializer.none⟩ true 79)
            (.array sevens) (.coded (.lossless .lz4hc) Level.best)
          = .error (.blobTooBig 80 79) := by
  let exponential := Exponential.coarse
  let codec : Codec Empty := ⟨Settings.default, Serializer.none⟩
  obtain ⟨made, -⟩ := codec.pack_gated (.array sevens) (.coded (.lossless .lz4hc) Level.best)
  have free : (codec.gated false noLimit).pack (.array sevens)
      (.coded (.lossless .lz4hc) Level.best)
      = (codec.settings.gated false noLimit).seal sevens.elementType sevens.dims sevens.data
          (.coded (.lossless .lz4hc) Level.best)
          (some [2, 1, 64, 1, 42, 0, 0, 0, 42, 0, 0, 0, 28, 0, 0, 0,
            31, 7, 1, 0, 16, 96, 7, 7, 7, 7, 7, 7]) := by
    rw [pack, Settings.packArray_flat _ _ (by decide) (by decide), Settings.packRaw_eq,
      if_neg (by decide), chosenPayload?_sevens, ok_bind]
    rfl
  rw [free] at made ⊢
  obtain ⟨within, -⟩ := made _ rfl true 80
  obtain ⟨-, beyond⟩ := made _ rfl true 79
  exact ⟨_, rfl, rfl, within (by decide), beyond (by decide)⟩

end Codec
end ArrayBlob
