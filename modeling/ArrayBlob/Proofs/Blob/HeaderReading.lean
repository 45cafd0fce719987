import ArrayBlob.Blob.Header
import ArrayBlob.Proofs.Outcome

/-!
# Headers that are read field by field

No field that is asked for reaches behind the end of the blob: the guards in front of the fields
suffice, so that reading field by field always has an outcome, which is that of `Header.decode`. The
offset behind the header is the payload offset that the header itself states.
-/

namespace ArrayBlob

/-! ## Readings that stay within the bytes -/

/-- A reading stays within the bytes and ends like an operation, with a view of its result. -/
def ReadsAs {α β : Type} (reading : Reading β) (operation : Except Fault α) (view : α → β) : Prop :=
  reading.run = some (operation.map view)

namespace ReadsAs

variable {α β γ δ : Type} {seen : α → β} {view : γ → δ}

theorem ok (value : γ) : ReadsAs (pure (view value)) (.ok value) view := rfl

theorem error (fault : Fault) : ReadsAs (throw fault) (.error fault) view := rfl

/-- Two steps that read end like the two operations that the steps end like. -/
theorem bind {first : Reading β} {operation : Except Fault α} {next : β → Reading δ}
    {after : α → Except Fault γ} (before : ReadsAs first operation seen)
    (follow : ∀ value, operation = .ok value → ReadsAs (next (seen value)) (after value) view) :
    ReadsAs (first >>= next) (operation >>= after) view := by
  have run : first = ExceptT.mk (some (operation.map seen)) := before
  subst run
  cases operation with
  | error fault => exact .error fault
  | ok value => exact follow value rfl

/-- A step that reads nothing is the same step of both. -/
theorem step {first : Except Fault α} {next : α → Reading δ} {after : α → Except Fault γ}
    (follow : ∀ value, first = .ok value → ReadsAs (next value) (after value) view) :
    ReadsAs ((liftM first : Reading α) >>= next) (first >>= after) view := by
  have same : ReadsAs (liftM first : Reading α) first id := by
    cases first <;> rfl
  exact bind same follow

/-- A last step that reads nothing gives the result that is viewed. -/
theorem finish {operation : Except Fault γ} {result : γ → δ}
    (same : ∀ value, operation = .ok value → result value = view value) :
    ReadsAs ((liftM operation : Reading γ) >>= fun value => pure (result value)) operation
      view := by
  cases operation with
  | error fault => exact .error fault
  | ok value =>
    change ReadsAs (pure (result value)) _ _
    rw [same value rfl]
    exact .ok value

/-- A field that the bytes reach is read and does not end the reading. -/
theorem field {offset width : Nat} {bytes : Bytes}
    {next : {part : Bytes // part.length = width} → Reading δ} {operation : Except Fault γ}
    (reaches : offset + width ≤ bytes.length)
    (follow : ∀ full, ReadsAs (next ⟨Bytes.field offset width bytes, full⟩) operation view) :
    ReadsAs (liftM (Bytes.field? offset width bytes) >>= next) operation view := by
  obtain ⟨full, found⟩ := Bytes.field?_of_le reaches
  rw [found]
  exact follow full

/-- A check is the same check in both. -/
theorem reject {condition : Prop} [Decidable condition] {fault : Fault} {rest : Reading δ}
    {after : Except Fault γ} (passed : ¬ condition → ReadsAs rest after view) :
    ReadsAs (if condition then throw fault else rest)
      (if condition then .error fault else after) view := by
  split
  · exact .error fault
  · next fails => exact passed fails

end ReadsAs

namespace Header

theorem toList_of_ofVector {vector : Bytes} {few : vector.length < 4 * dimensionLimit}
    {dimensions : Dimensions} (made : Dimensions.ofVector vector few = .ok dimensions) :
    dimensions.toList = (Bytes.groups 4 vector).map LittleEndian.decode := by
  unfold Dimensions.ofVector at made
  dsimp only at made
  split at made
  · cases made
    rfl
  · cases made

variable {revision : Revision} {blob : Bytes}

theorem readPlatform_eq (long : commonSize ≤ blob.length) :
    readPlatform blob = pure (platformOf blob long) := by
  have order : (Bytes.field 31 1 blob).getD 0 0 = blob.getD 31 0 := by
    simp [Bytes.field, List.getD_eq_getElem?_getD, List.getElem?_drop]
  obtain ⟨_, tag⟩ : ∃ full, Bytes.field? 20 platformWidth blob = some ⟨_, full⟩ :=
    Bytes.field?_of_le (Nat.le_trans (by decide) long)
  obtain ⟨_, letter⟩ : ∃ full, Bytes.field? 31 1 blob = some ⟨_, full⟩ :=
    Bytes.field?_of_le (Nat.le_trans (by decide) long)
  unfold readPlatform platformOf
  rw [tag, letter, ← order]
  rfl

/-- The number of dimensions is read behind the guard of the fixed part, and the dimensions behind
the guard of their number. -/
theorem readDimensions_readsAs (whole : revision.headerSize ≤ blob.length) :
    ReadsAs (readDimensions revision blob) (decodeDimensions revision blob)
      fun dimensions => (dimensions, revision.payloadOffset dimensions.toList.length) := by
  have counted : revision.countOffset + 4 = revision.headerSize := by
    cases revision <;> rfl
  unfold readDimensions decodeDimensions
  apply ReadsAs.field (Nat.le_trans (Nat.le_of_eq counted) whole)
  intro _
  dsimp only
  split
  · apply ReadsAs.reject
    intro reached
    apply ReadsAs.field (Nat.le_of_not_lt reached)
    intro full
    apply ReadsAs.finish
    intro dimensions made
    rw [toList_of_ofVector made, List.length_map, Bytes.length_groups, full,
      Nat.mul_div_cancel_left _ (by decide)]
  · exact .error _

theorem readCompressor_readsAs (whole : revision.headerSize ≤ blob.length) :
    ReadsAs (readCompressor revision blob) (decodeCompressor revision blob) id := by
  cases revision with
  | plain => rfl
  | coded =>
    unfold readCompressor decodeCompressor
    apply ReadsAs.field (Nat.le_trans (by decide) whole)
    intro _
    change ReadsAs _ ((decodeName blob).map some) _
    unfold decodeName
    cases CompressorName.ofField (Bytes.field commonSize nameWidth blob) _ <;> rfl

/-- A compressor name is read exactly in the revision that has one. -/
theorem compressor_of_decodeCompressor {compressor : Option CompressorName}
    (named : decodeCompressor revision blob = .ok compressor) :
    revision = (if compressor.isSome then .coded else .plain)
      ∧ ∀ name ∈ compressor, decodeName blob = .ok name := by
  cases revision with
  | plain =>
    cases named
    exact ⟨rfl, fun name member => by cases member⟩
  | coded =>
    obtain ⟨name, found, same⟩ := map_eq_ok_iff.1 named
    cases same
    refine ⟨rfl, ?_⟩
    rintro again ⟨⟩
    exact found

/-- Reading field by field has an outcome, that of `decode`: no field reaches behind the end. -/
theorem run_decodeFront (blob : Bytes) :
    (decodeFront blob).run
      = some ((decode blob).map fun header => (header, header.payloadOffset)) := by
  change ReadsAs (decodeFront blob) (decode blob) _
  unfold decodeFront decode
  -- The first guard covers the fields common to both revisions, the second one the fixed part.
  by_cases long : commonSize ≤ blob.length
  · rw [if_neg (Nat.not_lt.2 long), dif_pos long]
    apply ReadsAs.field (Nat.le_trans (by decide) long)
    intro _
    apply ReadsAs.reject
    intro _
    apply ReadsAs.field (Nat.le_trans (by decide) long)
    intro _
    apply ReadsAs.step
    intro revision _
    apply ReadsAs.reject
    intro whole
    apply ReadsAs.field (Nat.le_trans (by decide) long)
    intro _
    apply ReadsAs.step
    intro elementType _
    rw [readPlatform_eq long, pure_bind]
    apply ReadsAs.bind (readDimensions_readsAs (Nat.le_of_not_lt whole))
    intro dimensions _
    apply ReadsAs.bind (readCompressor_readsAs (Nat.le_of_not_lt whole))
    intro compressor named
    -- The revision that was read is the one that the header gets from its name.
    have same := (compressor_of_decodeCompressor named).1
    subst same
    rfl
  · rw [if_pos (Nat.lt_of_not_le long), dif_neg long]
    exact .error _

end Header
end ArrayBlob
