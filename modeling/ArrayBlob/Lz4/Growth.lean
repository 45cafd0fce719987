import ArrayBlob.Lz4.RoundTrip

/-!
# How far a block can expand

A byte of a block stands for at most 255 bytes of output: the two lengths of a sequence gain at most
255 from each byte that extends them, and what its first byte grants is paid for by the two bytes of
the offset. A header that claims more than that of its body cannot be honest.
-/

namespace ArrayBlob
namespace Lz4

/-- Each byte of a length adds at most 255 to it. -/
theorem length_of_readExtension_le {known length : Nat} {input rest : Bytes}
    (read : readExtension known input = .ok (length, rest)) :
    length + 255 * rest.length ≤ known + 255 * input.length := by
  induction input generalizing known with
  | nil => simp [readExtension] at read
  | cons byte input ih =>
    unfold readExtension at read
    split at read
    · have := ih read
      simp only [List.length_cons]
      omega
    · simp only [Except.ok.injEq, Prod.mk.injEq] at read
      obtain ⟨rfl, rfl⟩ := read
      have := byte.toNat_lt
      simp only [List.length_cons]
      omega

/-- A length that was read used up the bytes that it gained from. -/
theorem length_of_readLength_le {share length : Nat} {input rest : Bytes}
    (read : readLength share input = .ok (length, rest)) :
    length + 255 * rest.length ≤ share + 255 * input.length := by
  unfold readLength at read
  split at read
  · simp only [Except.ok.injEq, Prod.mk.injEq] at read
    obtain ⟨rfl, rfl⟩ := read
    exact Nat.le_refl _
  · exact length_of_readExtension_le read

theorem size_copyBack (offset count : Nat) (output : Array UInt8) :
    (copyBack offset count output).size = output.size + count := by
  induction count generalizing output with
  | zero => rfl
  | succ count ih =>
    rw [copyBack, ih, Array.size_push]
    omega

theorem size_appendList (output : Array UInt8) (bytes : Bytes) :
    (output.appendList bytes).size = output.size + bytes.length := by
  rw [Array.appendList_eq_append, ← Array.length_toList, Array.toList_appendList]
  simp

/-- No byte of a block stands for more than 255 bytes of output. -/
theorem size_of_expandOnto {capacity : Nat} {input : Bytes} {output result : Array UInt8}
    (expanded : expandOnto capacity input output = .ok result) :
    result.size ≤ output.size + 255 * input.length := by
  fun_induction expandOnto capacity input output with
  | case5 output first input count behind read literals filled enough fits written ended =>
    have read := length_of_readLength_le read
    have share := first.toNat_lt
    have size : written.size = output.size + literals.length := size_appendList _ _
    have taken : literals.length ≤ count := List.length_take_le _ _
    have same : written = result := Except.ok.inj expanded
    rw [← same, size, List.length_cons]
    omega
  | case11 output first input count behind read literals filled enough fits written low high
      input' shape offset nonzero extra rest readCopy length needed roomy near ih =>
    have read := length_of_readLength_le read
    have copy := length_of_readLength_le readCopy
    have share := first.toNat_lt
    have size : written.size = output.size + literals.length := size_appendList _ _
    have taken : literals.length ≤ count := List.length_take_le _ _
    have grown : (copyBack offset length written).size = written.size + length :=
      size_copyBack _ _ _
    have left := congrArg List.length shape
    have total := ih expanded
    simp only [List.length_drop, List.length_cons] at left ⊢
    have long : length = extra + 4 := rfl
    omega
  | _ => cases expanded

/-- What a block expands to is at most 255 times as long. -/
theorem length_of_expand {capacity : Nat} {input bytes : Bytes}
    (expanded : expand capacity input = .ok bytes) : bytes.length ≤ 255 * input.length := by
  unfold expand at expanded
  cases result : expandOnto capacity input #[] with
  | error flaw =>
    rw [result] at expanded
    cases expanded
  | ok output =>
    rw [result] at expanded
    have same : output.toList = bytes := Except.ok.inj expanded
    have bound := size_of_expandOnto result
    rw [← same, Array.length_toList]
    simpa using bound

/-- A byte string is at most 255 times as long as its compressed form. -/
theorem length_le_compress (bytes : Bytes) : bytes.length ≤ 255 * (compress bytes).length :=
  length_of_expand (expand_compress bytes)

end Lz4
end ArrayBlob
