import ArrayBlob.Lz4.Block
import ArrayBlob.Fault

/-!
# Expansion of a block

The expansion reads a written block from the front and appends to its output, which may not grow
beyond a capacity. The order of the checks decides which flaw of a malformed block is reported.
-/

namespace ArrayBlob
namespace Lz4

/-- The rest of a length that goes on behind the first byte, added to what is known of it, and the
input behind it. -/
def readExtension (known : Nat) : Bytes → Except BlockFlaw (Nat × Bytes)
  | [] => .error .missingByte
  | byte :: rest =>
    if byte = 255 then readExtension (known + 255) rest
    else .ok (known + byte.toNat, rest)

/-- A length whose share of the first byte is given, and the input behind it. -/
def readLength (share : Nat) (input : Bytes) : Except BlockFlaw (Nat × Bytes) :=
  if share < longLength then .ok (share, input) else readExtension share input

/-- Appends `count` bytes, each the one `offset` before it. -/
def copyBack (offset : Nat) : Nat → Array UInt8 → Array UInt8
  | 0, output => output
  | count + 1, output =>
    copyBack offset count (output.push (output.getD (output.size - offset) 0))

theorem length_of_readExtension {known length : Nat} {input rest : Bytes}
    (h : readExtension known input = .ok (length, rest)) : rest.length < input.length := by
  induction input generalizing known with
  | nil => simp [readExtension] at h
  | cons byte input ih =>
    unfold readExtension at h
    split at h
    · have := ih h
      simp only [List.length_cons]
      omega
    · simp only [Except.ok.injEq, Prod.mk.injEq] at h
      simp [h.2]

theorem length_of_readLength {share length : Nat} {input rest : Bytes}
    (h : readLength share input = .ok (length, rest)) : rest.length ≤ input.length := by
  unfold readLength at h
  split at h
  · simp only [Except.ok.injEq, Prod.mk.injEq] at h
    simp [h.2]
  · exact Nat.le_of_lt (length_of_readExtension h)

/-- Expands a written block behind the output so far. -/
def expandOnto (capacity : Nat) (input : Bytes) (output : Array UInt8) :
    Except BlockFlaw (Array UInt8) :=
  match input with
  | [] => .error .missingByte
  | first :: input =>
    match _h : readLength (first.toNat / 16) input with
    | .error flaw => .error flaw
    | .ok (literalCount, behind) =>
      let literals := behind.take literalCount
      let filled := output.size + literalCount
      if literals.length < literalCount then .error .literalBeyondInput
      else if capacity < filled then .error (.outputTooSmall capacity filled)
      else
        let output := output.appendList literals
        match _hrest : behind.drop literalCount with
        | [] => .ok output
        | [_] => .error .missingByte
        | low :: high :: input =>
          let offset := low.toNat + 256 * high.toNat
          if offset = 0 then .error .zeroOffset
          else
            match _hcopy : readLength (first.toNat % 16) input with
            | .error flaw => .error flaw
            | .ok (extra, rest) =>
              let length := extra + shortestCopy
              let needed := output.size + length
              if capacity < needed then .error (.outputTooSmall capacity needed)
              else if output.size < offset then .error .offsetBeyondOutput
              else expandOnto capacity rest (copyBack offset length output)
  termination_by input.length
  decreasing_by
    have hread := length_of_readLength _h
    have hcopy := length_of_readLength _hcopy
    have hdrop := congrArg List.length _hrest
    simp only [List.length_drop, List.length_cons] at *
    omega

/-- The bytes that a written block stands for, when they fit into a capacity. -/
def expand (capacity : Nat) (input : Bytes) : Except BlockFlaw Bytes :=
  (expandOnto capacity input #[]).map Array.toList

end Lz4
end ArrayBlob
