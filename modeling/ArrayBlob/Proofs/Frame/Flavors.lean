import ArrayBlob.Proofs.Agreement
import ArrayBlob.Proofs.Frame.Lossless

/-!
# Frames of different flavors

The level of a packing matters only as far as it asks for compression or not, and the flavor only
for the three highest bits of the flags. Two frames that were made of the same data for different
flavors therefore differ in these bits alone, and where one of them cannot be made, the other one
cannot be made either, for the same reason.
-/

namespace ArrayBlob
namespace Frame

/-! ## The bits of the flavor -/

/-- The position at which the flavors of two frames show, if the flags differ in them alone. -/
inductive FlavorShown (left right : Bytes) : Nat → Prop
  | flags (kind : left.getD 2 0 &&& 31 = right.getD 2 0 &&& 31) : FlavorShown left right 2

/-- Two frames are the same but for the bits of the flavor. -/
def SameButFlavor (left right : Bytes) : Prop :=
  Bytes.AgreeBut (FlavorShown left right) left right

/-- The flavor is above the bits that tell the kind of the body. -/
theorem flags_low (flavor : Flavor) : ∀ kind ∈ kinds,
    (flavor.code <<< flagBits ||| kind) &&& 31 = kind := by
  intro kind member
  simp only [kinds, List.mem_cons, List.not_mem_nil, or_false] at member
  rcases member with rfl | rfl | rfl <;> cases flavor <;> decide

/-- Headers that differ in their flags alone make the same frame but for the bits in which these
differ. -/
theorem sameButFlavor_of_flags (header : Header) {flags : UInt8}
    (kind : header.flags &&& 31 = flags &&& 31) (body : Bytes) :
    SameButFlavor (header.encode ++ body) ({ header with flags := flags }.encode ++ body) where
  length := by simp only [List.length_append, Header.length_encode]
  getElem? := fun
    | 0 | 1 | _ + 3 => .inl rfl
    | 2 => .inr (.flags kind)

/-! ## Making frames -/

/-- Two levels that both ask for compression, or both do not, make the same body. -/
theorem bodyOf_of_isNone {level other : Level} (same : level.isNone = other.isNone)
    (typesize : Nat) (raw : Bytes) : bodyOf level typesize raw = bodyOf other typesize raw := by
  unfold bodyOf
  rw [same]

/-- Two flavors at such levels make the same frame but for the bits of the flavor, or none. -/
theorem encode_alike (flavor other : Flavor) {level again : Level}
    (same : level.isNone = again.isNone) (layout : Layout) (raw : Bytes) :
    EndAlike SameButFlavor (encode flavor level layout raw) (encode other again layout raw) := by
  by_cases small : raw.length < 2 ^ 32
  · have made := (bodyOf_spec again (typesizeOf layout) raw).mem_kinds
    rw [encode_of_small flavor level layout small, encode_of_small other again layout small,
      bodyOf_of_isNone same]
    generalize bodyOf again (typesizeOf layout) raw = chosen at made
    obtain ⟨kind, body⟩ := chosen
    have low : (flavor.code <<< flagBits ||| kind) &&& 31
        = (other.code <<< flagBits ||| kind) &&& 31 := by
      rw [flags_low flavor kind made, flags_low other kind made]
    dsimp only
    unfold Header.ofBody
    by_cases room : headerSize + body.length < 2 ^ 32
    · rw [if_pos room, if_pos room]
      exact .done (sameButFlavor_of_flags _ low body)
    · rw [if_neg room, if_neg room]
      exact .failed _
  · unfold encode checkRawSize
    rw [if_neg small]
    exact .failed _

/-- The same holds with a buffer of their own. -/
theorem compress_alike (flavor other : Flavor) {level again : Level}
    (same : level.isNone = again.isNone) (layout : Layout) (raw : Bytes) :
    EndAlike SameButFlavor (compress flavor level layout raw)
      (compress other again layout raw) := by
  rw [compress_eq, compress_eq]
  exact .behind fun _ _ => encode_alike flavor other same layout raw

end Frame
end ArrayBlob
