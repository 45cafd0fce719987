import ArrayBlob.Proofs.Blob.Composites
import ArrayBlob.Proofs.Frame.Flavors
import ArrayBlob.Proofs.Text.LetterCase
import Mathlib.Data.List.GetD

/-!
# Names and levels of the lossless codec

The lossless codec answers to several names and to nine levels that ask for compression. Whichever
of them is selected, the frame of some data is the same but for the bits of the flavor, so it has
the same size and is chosen in the same cases; the header in front of it is the same but for the
field of the name. What was asked for therefore shows at these two places and nowhere else, and
every codec restores the array from either blob.
-/

namespace ArrayBlob

/-! ## Selecting -/

/-- A level from 1 on asks for compression. -/
theorem Level.isNone_eq_false {level : Level} (coded : 1 ≤ level.toNat) : level.isNone = false :=
  decide_eq_false (Nat.ne_of_gt coded)

/-- The name of a flavor, in letters of any case, selects the flavor at every such level. -/
theorem Selection.ofName_flavor {flavor : Flavor} {name : String} {level : Level}
    (named : Text.sameIgnoringCase flavor.name name = true) (coded : 1 ≤ level.toNat) :
    ofName name level.toNat = .ok (.coded (.lossless flavor) level) := by
  have same := Text.sameIgnoringCase_iff.1 named
  have found : Coder.ofName? name = some (.lossless flavor) :=
    (Coder.ofName?_of_foldCase same.symm).trans (Coder.lossless flavor).ofName?_name
  have shown : name.isEmpty = false := by
    apply eq_false_of_ne_true
    intro empty
    rw [String.isEmpty_iff.1 empty] at same
    cases flavor <;> exact absurd same (by decide)
  simp only [ofName, Level.ofInt, Level.ofInt?_toNat, ok_bind, Level.isNone_eq_false coded, shown,
    Bool.or_self, Bool.false_eq_true, if_false, found]
  rfl

/-! ## Choosing the payload -/

section

variable {dimensionCount rawSize : Nat} {coded? again? : Option Bytes}

/-- Frames that differ in the bits of the flavor are chosen in the same cases. -/
theorem smallerPayload?_alike {left right : Bytes} (same : Frame.SameButFlavor left right) :
    Option.Rel Frame.SameButFlavor (smallerPayload? dimensionCount rawSize left)
      (smallerPayload? dimensionCount rawSize right) := by
  unfold smallerPayload?
  rw [same.length]
  split
  · exact .none
  · exact .some same

theorem chosenSize_alike (alike : Option.Rel Frame.SameButFlavor coded? again?) :
    chosenSize dimensionCount rawSize coded? = chosenSize dimensionCount rawSize again? := by
  cases alike with
  | none => rfl
  | some same => rw [chosenSize_some, chosenSize_some, same.length]

/-- Two flavors at levels that ask for compression choose the same payload but for the bits of the
flavor, or fail with the same fault. -/
theorem Selection.chosenPayload?_alike [Exponential] (flavor other : Flavor) {level again : Level}
    (same : level.isNone = again.isNone) (elementType : ElementType) (dimensionCount : Nat)
    (raw : Bytes) :
    EndAlike (Option.Rel Frame.SameButFlavor)
      ((coded (.lossless flavor) level).chosenPayload? elementType dimensionCount raw)
      ((coded (.lossless other) again).chosenPayload? elementType dimensionCount raw) :=
  (Frame.compress_alike flavor other same elementType.layout raw).map
    fun _ _ => smallerPayload?_alike

end

/-! ## Writing the header -/

/-- Two headers are the same but for a name that both have, or that neither has. -/
structure Header.SameButName (left right : Header) : Prop where
  elementType : left.elementType = right.elementType
  platform : left.platform = right.platform
  revision : left.revision = right.revision
  dims : left.dims = right.dims

namespace Header

/-- The names of any two coders make the same header but for the name, or none. -/
theorem make_alike (elementType : ElementType) (platform : Platform) (dims : List Nat)
    (coder? other? : Option Coder) (named : coder?.isSome = other?.isSome) :
    EndAlike SameButName (make elementType platform (coder?.map Coder.name) dims)
      (make elementType platform (other?.map Coder.name) dims) := by
  refine .behind fun dimensions _ => ?_
  cases coder? with
  | none =>
    cases other? with
    | none => exact .done ⟨rfl, rfl, rfl, rfl⟩
    | some other => cases named
  | some coder =>
    cases other? with
    | none => cases named
    | some other =>
      obtain ⟨left, found, -⟩ := coder.ofText_name
      obtain ⟨right, again, -⟩ := other.ofText_name
      simp only [Option.map_some, found, again, ok_bind]
      exact .done ⟨rfl, rfl, rfl, rfl⟩

variable {left right : Header}

/-- Such headers are written with the same bytes outside of the field of a name. -/
theorem SameButName.agreeBut_encode (same : left.SameButName right) :
    Bytes.AgreeBut (fun position => left.revision = .coded ∧ 32 ≤ position ∧ position ≤ 43)
      left.encode right.encode := by
  have tag := right.platform.length_tag
  have names : left.encodeName.length = right.encodeName.length := by
    rw [length_encodeName, length_encodeName, same.revision]
  have inName : ∀ position < left.encodeName.length,
      left.revision = .coded ∧ 32 ≤ 32 + position ∧ 32 + position ≤ 43 := by
    intro position inside
    rw [length_encodeName] at inside
    generalize left.revision = revision at inside ⊢
    cases revision with
    | plain => exact absurd inside (Nat.not_lt_zero position)
    | coded =>
      have narrow : position < 12 := inside
      exact ⟨rfl, by omega⟩
  unfold encode
  rw [same.elementType, same.platform, ← same.revision, same.dims]
  refine .append (.append (.append (.refl _ _) (.of_length names ?_)) (.refl _ _)) (.refl _ _)
  simpa [length_blobMark, tag, platformWidth] using inName

/-- Without a name they are written the same. -/
theorem SameButName.encode_eq (same : left.SameButName right) (plain : left.revision = .plain) :
    left.encode = right.encode := by
  refine same.agreeBut_encode.eq fun position shown => ?_
  rw [plain] at shown
  cases shown.1

/-- A byte behind a header is one of the payload. -/
theorem getD_encode_append (header : Header) (payload : Bytes) (position : Nat) :
    (header.encode ++ payload).getD (header.payloadOffset + position) 0
      = payload.getD position 0 := by
  rw [← header.length_encode, List.getD_append_right _ _ _ _ (Nat.le_add_right _ _),
    Nat.add_sub_cancel_left]

end Header

/-! ## Sealing the blob -/

/-- The positions at which two blobs of an array with some number of dimensions show what was asked
for: those of the name, and that of the flags of the frame if they differ in the flavor alone. -/
inductive ChoiceShown (dimensionCount : Nat) (left right : Bytes) : Nat → Prop
  | name {position : Nat} (start : 32 ≤ position) (stop : position ≤ 43) :
      ChoiceShown dimensionCount left right position
  | flavor
      (kind : left.getD (48 + 4 * dimensionCount + 2) 0 &&& 31
        = right.getD (48 + 4 * dimensionCount + 2) 0 &&& 31) :
      ChoiceShown dimensionCount left right (48 + 4 * dimensionCount + 2)

/-- Frames that differ in the flavor, behind headers that differ in the name, make blobs that differ
there alone. -/
theorem Header.SameButName.agreeBut_append {left right : Header} {payload other : Bytes}
    (same : left.SameButName right) (coded : left.revision = .coded)
    (frames : Frame.SameButFlavor payload other) :
    Bytes.AgreeBut
      (ChoiceShown left.dims.length (left.encode ++ payload) (right.encode ++ other))
      (left.encode ++ payload) (right.encode ++ other) := by
  have offset : left.payloadOffset = 48 + 4 * left.dims.length := by
    rw [payloadOffset, coded]
    rfl
  have offsetAgain : right.payloadOffset = 48 + 4 * left.dims.length := by
    rw [payloadOffset, ← same.revision, ← same.dims, coded]
    rfl
  refine (same.agreeBut_encode.mono fun position shown => .name shown.2.1 shown.2.2).append ?_
  refine frames.mono fun position shown => ?_
  obtain ⟨kind⟩ := shown
  rw [← left.getD_encode_append payload, ← right.getD_encode_append other, offset,
    offsetAgain] at kind
  rw [left.length_encode, offset]
  exact .flavor kind

/-- Two blobs of an array with some number of dimensions were made alike. If their payloads were
coded, they show what was asked for at these positions, and otherwise they are the same. -/
structure Packed.SameButChoice (dimensionCount : Nat) (left right : Packed) : Prop where
  revision : left.revision = right.revision
  statistics : left.statistics = right.statistics
  ratio : left.ratio = right.ratio
  bytes : Bytes.AgreeBut
    (fun position => left.revision = .coded
      ∧ ChoiceShown dimensionCount left.bytes right.bytes position) left.bytes right.bytes

section

variable {elementType : ElementType} {dims : List Nat} {raw : Bytes} {flavor other : Flavor}
  {level again : Level} {coded? again? : Option Bytes}

/-- Payloads that differ in the flavor, behind headers that differ in the name, make blobs that
differ in the choice. -/
theorem Packed.ofChoice_alike (alike : Option.Rel Frame.SameButFlavor coded? again?)
    {left right : Header} (same : left.SameButName right)
    (made : Header.make elementType Platform.host
      ((Selection.coded (.lossless flavor) level).chosenName? coded?) dims = .ok left) :
    (ofChoice (.coded (.lossless flavor) level) raw left dims.length coded?).SameButChoice
      dims.length (ofChoice (.coded (.lossless other) again) raw right dims.length again?) := by
  obtain ⟨-, -, -, listed⟩ := Header.fields_of_make made
  have revised : (ofChoice (.coded (.lossless flavor) level) raw left dims.length
      coded?).revision = left.revision := revision_ofChoice made
  cases alike with
  | none =>
    have plain : left.revision = .plain := revised.symm
    refine ⟨rfl, rfl, rfl, ?_⟩
    rw [bytes_ofChoice, bytes_ofChoice, same.encode_eq plain]
    exact .refl _ _
  | some frames =>
    have coded : left.revision = .coded := revised.symm
    have shown := same.agreeBut_append coded frames
    rw [listed] at shown
    refine ⟨rfl, ?_, ?_, shown.mono fun position unread => ⟨rfl, unread⟩⟩
    · simp only [ofChoice, frames.length]
      rfl
    · simp only [ofChoice, frames.length]

/-- Alike payloads are sealed alike, or fail with the same fault. -/
theorem Settings.seal_alike (settings : Settings)
    (alike : Option.Rel Frame.SameButFlavor coded? again?) :
    EndAlike (Packed.SameButChoice dims.length)
      (settings.seal elementType dims raw (.coded (.lossless flavor) level) coded?)
      (settings.seal elementType dims raw (.coded (.lossless other) again) again?) := by
  unfold Settings.seal
  rw [← chosenSize_alike alike]
  refine .reject fun _ => ?_
  have headers : EndAlike Header.SameButName
      (Header.make elementType Platform.host
        ((Selection.coded (.lossless flavor) level).chosenName? coded?) dims)
      (Header.make elementType Platform.host
        ((Selection.coded (.lossless other) again).chosenName? again?) dims) := by
    cases alike with
    | none => exact Header.make_alike _ _ _ none none rfl
    | some frames => exact Header.make_alike _ _ _ (some _) (some _) rfl
  refine headers.bind fun left right made _ same => .behind fun _ _ => ?_
  exact .done (Packed.ofChoice_alike alike same made)

/-- An array is packed alike under both choices, or fails with the same fault. -/
theorem Settings.packArray_alike [Exponential] (settings : Settings) {array : TypedArray}
    (on : settings.mode ≠ .off) (flat : array.elementType ≠ .byteStream) (flavor other : Flavor)
    {level again : Level} (same : level.isNone = again.isNone) :
    EndAlike (Packed.SameButChoice array.dims.length)
      (settings.packArray array (.coded (.lossless flavor) level))
      (settings.packArray array (.coded (.lossless other) again)) := by
  rw [settings.packArray_flat _ on flat, settings.packArray_flat _ on flat, packRaw_eq, packRaw_eq]
  refine .reject fun _ => ?_
  refine (Selection.chosenPayload?_alike flavor other same _ _ _).bind fun _ _ _ _ alike => ?_
  exact settings.seal_alike alike

end

/-! ## Packing and unpacking -/

/-- What was packed without loss is unpacked as the array. -/
theorem Codec.exists_unpack_of_packArray [Exponential] {γ : Type} (codec : Codec γ)
    {settings : Settings} {array : TypedArray} {selection : Selection} {packed : Packed}
    (flat : array.elementType ≠ .byteStream) (lossless : selection.isLossy = false)
    (done : settings.packArray array selection = .ok packed) :
    ∃ unpacked, codec.unpack packed.bytes = .ok unpacked ∧ unpacked.value = .array array := by
  obtain ⟨-, done⟩ := Settings.packArray_eq_ok done
  obtain ⟨header, payload, statistics, ratio, bytes, type, dims, restored⟩ :=
    exists_header_of_packRaw array lossless done
  rw [bytes]
  exact ⟨_, codec.unpack_array flat type dims restored, rfl⟩

/-- Which name the lossless codec is asked for by, and at which level from 1 on, makes no difference
but in the bits that name the flavor. All data that a frame can hold has the same frame up to these
bits, whatever the layout. With any two names, in letters of any case, every array that is no byte
stream is packed into blobs of the same revision, length, statistics and ratio, or refused for the
same fault. Coded blobs differ in the name and in the bits of the flavor at most, others not at all,
and every codec unpacks both to the array. -/
theorem lossless_choice_unseen [Exponential] (flavor other : Flavor) {level again : Level}
    (coded : 1 ≤ level.toNat) (codedAgain : 1 ≤ again.toNat) :
    (∀ (layout : Layout) (raw : Bytes), raw.length ≤ 2 ^ 32 - 17 → ∃ left right,
      Frame.compress flavor level layout raw = .ok left
        ∧ Frame.compress other again layout raw = .ok right
        ∧ Frame.SameButFlavor left right)
      ∧ ∀ name otherName : String, Text.sameIgnoringCase flavor.name name = true →
        Text.sameIgnoringCase other.name otherName = true → ∃ first second,
          Selection.ofName name level.toNat = .ok first
            ∧ Selection.ofName otherName again.toNat = .ok second
            ∧ ∀ (settings : Settings) (array : TypedArray), settings.mode ≠ .off →
              array.elementType ≠ .byteStream →
              EndAlike (fun left right : Packed => left.SameButChoice array.dims.length right
                  ∧ ∀ blob ∈ [left.bytes, right.bytes], ∀ {γ : Type} (codec : Codec γ),
                    ∃ unpacked, codec.unpack blob = .ok unpacked
                      ∧ unpacked.value = .array array)
                (settings.packArray array first) (settings.packArray array second) := by
  have same : level.isNone = again.isNone := by
    rw [Level.isNone_eq_false coded, Level.isNone_eq_false codedAgain]
  constructor
  · intro layout raw fits
    have room : Frame.largestFrame raw.length < 2 ^ 32 := by
      unfold Frame.largestFrame Frame.headerSize
      omega
    obtain ⟨left, encoded⟩ := Frame.encode_eq_ok flavor level layout room
    have compressed : Frame.compress flavor level layout raw = .ok left := by
      rw [Frame.compress_eq_encode room, encoded]
    obtain ⟨right, compressedAgain, alike⟩ :=
      (Frame.compress_alike flavor other same layout raw).exists_right compressed
    exact ⟨left, right, compressed, compressedAgain, alike⟩
  · intro name otherName named otherNamed
    refine ⟨_, _, Selection.ofName_flavor named coded,
      Selection.ofName_flavor otherNamed codedAgain, fun settings array on flat => ?_⟩
    refine (settings.packArray_alike on flat flavor other same).imp ?_
    intro left right packed packedAgain alike
    refine ⟨alike, fun blob listed γ codec => ?_⟩
    simp only [List.mem_cons, List.not_mem_nil, or_false] at listed
    rcases listed with rfl | rfl
    · exact codec.exists_unpack_of_packArray flat rfl packed
    · exact codec.exists_unpack_of_packArray flat rfl packedAgain

/-- The row of equal bytes is packed with a codec under one name, and therefore under another name
and at another level as well. -/
theorem lossless_choice_unseen_sevens :
    1 ≤ Level.best.toNat ∧ 1 ≤ Level.fast.toNat ∧ sevens.data.length ≤ 2 ^ 32 - 17
      ∧ Text.sameIgnoringCase Flavor.lz4hc.name "LZ4hc" = true
      ∧ Text.sameIgnoringCase Flavor.blosclz.name "BloscLZ" = true
      ∧ Settings.default.mode ≠ .off ∧ sevens.elementType ≠ .byteStream
      ∧ (∃ left right, Frame.compress .lz4hc Level.best ⟨1, false⟩ sevens.data = .ok left
        ∧ Frame.compress .blosclz Level.fast ⟨1, false⟩ sevens.data = .ok right
        ∧ Frame.SameButFlavor left right)
      ∧ ∃ first second left right, Selection.ofName "LZ4hc" 9 = .ok first
        ∧ Selection.ofName "BloscLZ" 1 = .ok second
        ∧ @Settings.packArray .coarse Settings.default sevens first = .ok left
        ∧ @Settings.packArray .coarse Settings.default sevens second = .ok right
        ∧ left.revision = .coded ∧ left.SameButChoice 1 right
        ∧ ∀ codec : Codec Unit, ∃ unpacked,
          @Codec.unpack .coarse _ codec right.bytes = .ok unpacked
            ∧ unpacked.value = .array sevens := by
  let exponential := Exponential.coarse
  have coded : 1 ≤ Level.best.toNat := by decide
  have codedAgain : 1 ≤ Level.fast.toNat := by decide
  have small : sevens.data.length ≤ 2 ^ 32 - 17 := by decide
  have named : Text.sameIgnoringCase Flavor.lz4hc.name "LZ4hc" = true := by decide
  have namedAgain : Text.sameIgnoringCase Flavor.blosclz.name "BloscLZ" = true := by decide
  have on : Settings.default.mode ≠ .off := by decide
  have flat : sevens.elementType ≠ .byteStream := by decide
  have inMemory : sevens.InMemory := ⟨by decide, by decide⟩
  obtain ⟨frames, blobs⟩ := lossless_choice_unseen .lz4hc .blosclz coded codedAgain
  obtain ⟨first, second, found, foundAgain, alike⟩ := blobs _ _ named namedAgain
  cases found.symm.trans (Selection.ofName_flavor named coded)
  obtain ⟨left, packed, revision⟩ : ∃ packed, Settings.default.packArray sevens
      (.coded (.lossless .lz4hc) Level.best) = .ok packed ∧ packed.revision = .coded := by
    rw [Settings.packArray_of_inMemory _ _ on flat inMemory, chosenPayload?_sevens, ok_bind]
    exact ⟨_, rfl, rfl⟩
  obtain ⟨right, packedAgain, same, restored⟩ :=
    (alike Settings.default sevens on flat).exists_right packed
  exact ⟨coded, codedAgain, small, named, namedAgain, on, flat, frames _ _ small, _, second, left,
    right, found, foundAgain, packed, packedAgain, revision, same,
    restored _ (by simp)⟩

end ArrayBlob
