import ArrayBlob.Json.RoundTrip
import ArrayBlob.Proofs.Settings.Fields

/-!
# Settings in documents

A document with some fields of some settings, in any order, is read as the settings with these
fields and the defaults in all others. So settings come back from their own document, whatever
characters the name of the compressor has and whatever numbers the level and the limit are.
-/

namespace ArrayBlob

/-! ## Single values -/

namespace Json

theorem toIntBetween?_ofInt {number lowest limit : Int} (least : lowest ≤ number)
    (below : number < limit) : (ofInt number).toIntBetween? lowest limit = some number := by
  have read : (Number.ofInt number).toInt? = some number := by
    rcases Int.lt_or_le number 0 with negative | nonneg
    · have nonzero : number.natAbs ≠ 0 := by omega
      simp only [Number.ofInt, Number.toInt?, negative, decide_true, List.isEmpty_nil,
        Option.isNone_none, Bool.and_self, if_true, if_neg nonzero, Option.some.injEq]
      omega
    · have positive : ¬ number < 0 := by omega
      simp only [Number.ofInt, Number.toInt?, positive, decide_false, List.isEmpty_nil,
        Option.isNone_none, Bool.and_self, if_true, Bool.false_eq_true, if_false,
        Option.some.injEq]
      omega
  have within : (decide (lowest ≤ number) && decide (number < limit)) = true := by
    rw [decide_eq_true least, decide_eq_true below]
    rfl
  simp only [ofInt, toIntBetween?, read, Option.filter_some, within, if_true]

@[simp]
theorem toMembers?_ofMembers (members : List (String × Json)) :
    (ofMembers members).toMembers? = some members := by
  unfold ofMembers toMembers?
  induction members with
  | nil => rfl
  | cons member rest ih => simp_all

theorem properMembers_of_forall {members : List (Option String × Json)}
    (each : ∀ member ∈ members, Proper member.2) : ProperMembers members := by
  induction members with
  | nil => trivial
  | cons member rest ih =>
    rw [List.forall_mem_cons] at each
    exact ⟨each.1, ih each.2⟩

/-- The written form of a member. -/
def writeMember (member : Option String × Json) : List Char :=
  writeString member.1 ++ ':' :: write member.2

/-- Members are written one after another, with commas in between. -/
theorem writeMembers_eq (members : List (Option String × Json)) :
    writeMembers members = [','].intercalate (members.map writeMember) := by
  induction members with
  | nil => simp [writeMembers]
  | cons member rest ih =>
    cases rest with
    | nil => simp [writeMembers, writeMember]
    | cons next rest =>
      rw [writeMembers, ih]
      simp [writeMember]

/-- The text of a value is read as the value. -/
theorem ofString?_toText {json : Json} (proper : Proper json) :
    ofString? json.toText = some json := by
  rw [ofString?, toText, String.toList_ofList, read_write proper]

end Json

@[simp]
theorem StorageMode.ofJson?_toJson (mode : StorageMode) : ofJson? mode.toJson = some mode := by
  cases mode <;> decide

namespace Settings

variable {settings start : Settings} {fields : List Field}

/-! ## Fields -/

namespace Field

theorem name_injective {left right : Field} (same : left.name = right.name) : left = right := by
  revert same
  cases left <;> cases right <;> decide

theorem proper_toJson (field : Field) (settings : Settings) :
    Json.Proper (field.toJson settings) := by
  cases field <;> simp [toJson, Json.ofText, Json.ofInt, Number.ofInt, StorageMode.toJson,
    Json.Proper]

/-- The document of a field of some settings takes the field over. -/
theorem set?_toJson (field : Field) (settings target : Settings) :
    field.set? target (field.toJson settings) = some (field.copy settings target) := by
  cases field with
  | compressor => rfl
  | level =>
    have read := Json.toIntBetween?_ofInt settings.level.le_toInt settings.level.toInt_lt
    simp only [set?, toJson, read, Option.map_some, Int32.ofInt_toInt, copy]
  | verify => rfl
  | maxBlobSize =>
    have small : (settings.maxBlobSize.toNat : Int) < 2 ^ 64 := by
      have := settings.maxBlobSize.toNat_lt
      omega
    have read := Json.toIntBetween?_ofInt (Int.natCast_nonneg settings.maxBlobSize.toNat) small
    simp only [set?, toJson, read, Option.map_some, Int.toNat_natCast, UInt64.ofNat_toNat, copy]
  | mode => simp only [set?, toJson, StorageMode.ofJson?_toJson, Option.map_some, copy]

end Field

/-! ## Objects of fields -/

/-- The members of the document of some fields. -/
def members (settings : Settings) (fields : List Field) : List (String × Json) :=
  fields.map fun field => (field.name, field.toJson settings)

theorem fieldsToJson_eq (settings : Settings) (fields : List Field) :
    settings.fieldsToJson fields = Json.ofMembers (settings.members fields) := rfl

/-- The written form of a field. -/
def Field.write (settings : Settings) (field : Field) : List Char :=
  Json.writeMember (some field.name, field.toJson settings)

/-- The object that consists of the written forms of some fields. -/
def fieldsText (settings : Settings) (fields : List Field) : String :=
  String.ofList ('\x7b' :: ([','].intercalate (fields.map (Field.write settings)) ++ ['\x7d']))

/-- The text of the document of some fields consists of their written forms. -/
theorem toText_fieldsToJson (settings : Settings) (fields : List Field) :
    (settings.fieldsToJson fields).toText = settings.fieldsText fields := by
  rw [Json.toText, fieldsToJson_eq, Json.ofMembers, Json.write, Json.writeMembers_eq, members,
    List.map_map, List.map_map]
  rfl

theorem proper_fieldsToJson (settings : Settings) (fields : List Field) :
    Json.Proper (settings.fieldsToJson fields) := by
  have each : ∀ member ∈ (settings.members fields).map
      (fun member => (some member.1, member.2)), Json.Proper member.2 := by
    simp only [members, List.map_map, List.mem_map]
    rintro member ⟨field, -, rfl⟩
    exact field.proper_toJson settings
  rw [fieldsToJson_eq, Json.ofMembers, Json.Proper]
  exact Json.properMembers_of_forall each

/-- Among distinct fields there is at most one member with the name of a field. -/
theorem filter_members (distinct : fields.Nodup) (field : Field) :
    (settings.members fields).filter (fun member => member.1 == field.name)
      = if field ∈ fields then [(field.name, field.toJson settings)] else [] := by
  have names : ((fun member : String × Json => member.1 == field.name)
      ∘ fun field => (field.name, field.toJson settings)) = fun other => other == field := by
    funext other
    rw [Function.comp_apply, Bool.eq_iff_iff, beq_iff_eq, beq_iff_eq]
    exact ⟨Field.name_injective, congrArg Field.name⟩
  rw [members, List.filter_map, names, List.filter_beq, distinct.count]
  split <;> rfl

/-- A field of the document is taken over. -/
theorem setMember?_of_mem (distinct : fields.Nodup) {field : Field} (member : field ∈ fields)
    (target : Settings) :
    setMember? (settings.members fields) target field = some (field.copy settings target) := by
  rw [setMember?, filter_members distinct, if_pos member]
  exact field.set?_toJson settings target

/-- A field that the document does not have is left. -/
theorem setMember?_of_notMem (distinct : fields.Nodup) {field : Field} (absent : field ∉ fields)
    (target : Settings) : setMember? (settings.members fields) target field = some target := by
  rw [setMember?, filter_members distinct, if_neg absent]

/-- Reading some fields one after another takes over those of them that the document has, and leaves
all others. -/
theorem foldlM_setMember? (settings : Settings) (distinct : fields.Nodup) (order : List Field)
    (start : Settings) :
    ∃ restored, order.foldlM (setMember? (settings.members fields)) start = some restored
      ∧ (∀ field ∈ order, field ∈ fields → field.Same restored settings)
      ∧ ∀ field : Field, field ∉ order ∨ field ∉ fields → field.Same restored start := by
  induction order generalizing start with
  | nil => exact ⟨start, rfl, by simp, fun field _ => field.same_refl start⟩
  | cons first order ih =>
    by_cases present : first ∈ fields
    · obtain ⟨restored, read, taken, kept⟩ := ih (first.copy settings start)
      refine ⟨restored, ?_, ?_, ?_⟩
      · rw [List.foldlM_cons, setMember?_of_mem distinct present]
        exact read
      · intro field member inDocument
        by_cases later : field ∈ order
        · exact taken field later inDocument
        · obtain rfl : field = first := (List.mem_cons.1 member).resolve_right later
          exact (kept field (.inl later)).trans (field.same_copy settings start)
      · intro field untouched
        have different : field ≠ first := by
          rintro rfl
          exact untouched.elim (fun absent => absent List.mem_cons_self)
            fun absent => absent present
        exact (kept field (untouched.imp_left (mt (List.mem_cons_of_mem first)))).trans
          (Field.same_copy_of_ne different)
    · obtain ⟨restored, read, taken, kept⟩ := ih start
      refine ⟨restored, ?_, ?_, ?_⟩
      · rw [List.foldlM_cons, setMember?_of_notMem distinct present]
        exact read
      · intro field member inDocument
        have later : field ∈ order := (List.mem_cons.1 member).resolve_left
          fun same => present (same ▸ inDocument)
        exact taken field later inDocument
      · intro field untouched
        exact kept field (untouched.imp_left (mt (List.mem_cons_of_mem first)))

/-- The document of some distinct fields is read as settings with these fields and the defaults in
all others. -/
theorem ofJson?_fieldsToJson (settings : Settings) (distinct : fields.Nodup) :
    ∃ restored, ofJson? (settings.fieldsToJson fields) = some restored
      ∧ (∀ field ∈ fields, field.Same restored settings)
      ∧ ∀ field ∉ fields, field.Same restored default := by
  obtain ⟨restored, read, taken, kept⟩ :=
    foldlM_setMember? settings distinct Field.all default
  refine ⟨restored, ?_, fun field => taken field field.mem_all,
    fun field absent => kept field (.inr absent)⟩
  have found := Json.toMembers?_ofMembers (settings.members fields)
  rw [fieldsToJson_eq]
  change (do
    let members ← (Json.ofMembers (settings.members fields)).toMembers?
    Field.all.foldlM (setMember? members) default) = some restored
  rw [found]
  exact read

/-- The object of the written forms of some fields of any settings, in any order, is read as the
settings that agree with these in the fields and have the defaults in all others. The text of the
settings is the object of all fields, and is read as the settings. -/
theorem document_restores (settings : Settings) :
    (∀ fields : List Field, fields.Nodup →
      ∃ restored, (Json.ofString? (settings.fieldsText fields)).bind ofJson? = some restored
        ∧ (∀ field ∈ fields, field.Same restored settings)
        ∧ ∀ field ∉ fields, field.Same restored default)
    ∧ settings.toJson.toText = settings.fieldsText Field.all
    ∧ (Json.ofString? settings.toJson.toText).bind ofJson? = some settings := by
  have reads : ∀ fields : List Field, fields.Nodup →
      ∃ restored, (Json.ofString? (settings.fieldsText fields)).bind ofJson? = some restored
        ∧ (∀ field ∈ fields, field.Same restored settings)
        ∧ ∀ field ∉ fields, field.Same restored default := by
    intro fields distinct
    rw [← toText_fieldsToJson, Json.ofString?_toText (settings.proper_fieldsToJson fields),
      Option.bind_some]
    exact settings.ofJson?_fieldsToJson distinct
  have whole : settings.toJson.toText = settings.fieldsText Field.all :=
    settings.toText_fieldsToJson Field.all
  refine ⟨reads, whole, ?_⟩
  obtain ⟨restored, read, taken, -⟩ := reads Field.all Field.nodup_all
  have same : restored = settings :=
    Field.eq_of_same fun field => taken field field.mem_all
  rw [whole, read, same]

/-- Settings at the ends of their ranges, with a name that has to be escaped. -/
def extremeSettings : Settings where
  compressor := "a\"b\\c\n\x01😀"
  level := -2147483648
  verify := false
  maxBlobSize := 18446744073709551615
  mode := .byteStream

/-- A document of the mode and the compressor alone leaves the level and the limit at their
defaults; the whole document restores all of them. -/
theorem document_restores_extreme :
    [Field.mode, Field.compressor].Nodup
      ∧ (∃ restored, (Json.ofString? (extremeSettings.fieldsText [.mode, .compressor])).bind ofJson?
          = some restored
        ∧ restored.mode = .byteStream ∧ restored.compressor = "a\"b\\c\n\x01😀"
        ∧ restored.level = 0 ∧ restored.maxBlobSize = 2147483647)
      ∧ (Json.ofString? extremeSettings.toJson.toText).bind ofJson? = some extremeSettings := by
  have distinct : [Field.mode, Field.compressor].Nodup := by decide
  obtain ⟨reads, -, whole⟩ := document_restores extremeSettings
  obtain ⟨restored, read, taken, kept⟩ := reads _ distinct
  refine ⟨distinct, ⟨restored, read, taken .mode (by decide), taken .compressor (by decide),
    kept .level (by decide), kept .maxBlobSize (by decide)⟩, whole⟩

end Settings
end ArrayBlob
