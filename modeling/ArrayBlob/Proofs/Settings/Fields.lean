import ArrayBlob.Settings

/-!
# Settings field by field

Settings are known by their five fields. Taking one field over from other settings changes this
field and no other.
-/

namespace ArrayBlob
namespace Settings
namespace Field

/-- The values of a field. -/
def Value : Field → Type
  | compressor => String
  | level => Int32
  | verify => Bool
  | maxBlobSize => UInt64
  | mode => StorageMode

/-- The value of some settings in a field. -/
def get (settings : Settings) : (field : Field) → field.Value
  | compressor => settings.compressor
  | level => settings.level
  | verify => settings.verify
  | maxBlobSize => settings.maxBlobSize
  | mode => settings.mode

/-- Two settings have the same value in a field. -/
def Same (left right : Settings) (field : Field) : Prop :=
  field.get left = field.get right

/-- The second settings with the value of the first in a field. -/
def copy (source target : Settings) : Field → Settings
  | compressor => { target with compressor := source.compressor }
  | level => { target with level := source.level }
  | verify => { target with verify := source.verify }
  | maxBlobSize => { target with maxBlobSize := source.maxBlobSize }
  | mode => { target with mode := source.mode }

variable {left middle right source target : Settings} {field other : Field}

@[simp]
theorem same_refl (field : Field) (settings : Settings) : field.Same settings settings := rfl

theorem Same.trans (first : field.Same left middle) (second : field.Same middle right) :
    field.Same left right :=
  Eq.trans first second

theorem same_copy (field : Field) (source target : Settings) :
    field.Same (field.copy source target) source := by
  cases field <;> rfl

theorem same_copy_of_ne (different : other ≠ field) :
    other.Same (field.copy source target) target := by
  cases field <;> cases other <;> first | rfl | exact absurd rfl different

/-- Settings with the same values in all fields are the same. -/
theorem eq_of_same (same : ∀ field : Field, field.Same left right) : left = right := by
  obtain ⟨compressor, level, verify, maxBlobSize, mode⟩ := left
  have compressors := same .compressor
  have levels := same .level
  have checks := same .verify
  have limits := same .maxBlobSize
  have modes := same .mode
  simp only [Same, get] at compressors levels checks limits modes
  rw [compressors, levels, checks, limits, modes]

theorem mem_all (field : Field) : field ∈ all := by
  cases field <;> decide

theorem nodup_all : all.Nodup := by
  decide

end Field
end Settings
end ArrayBlob
