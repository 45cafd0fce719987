import ArrayBlob.Lz4.Expansion
import ArrayBlob.Lz4.Factorization

/-!
# Expansion undoes factorization

A list of sequences rebuilds a stretch of an input when its literals are the bytes of the input and
each of its copies runs over a stretch that repeats what lies before it. The factorization finds
only such sequences, whatever its table holds, and expanding their written form appends the stretch.
`expand_compress` joins the two: the compressed form of a byte string expands to the byte string.
-/

namespace ArrayBlob
namespace Lz4

/-! ## Lengths -/

/-- Full bytes of a length each add 255. -/
theorem readExtension_replicate (known count : Nat) (rest : Bytes) :
    readExtension known (List.replicate count 255 ++ rest) =
      readExtension (known + 255 * count) rest := by
  induction count generalizing known with
  | zero => simp
  | succ count ih =>
    rw [List.replicate_succ, List.cons_append, readExtension, if_pos rfl, ih]
    congr 1
    omega

/-- A written length reads back as itself. -/
theorem readLength_lengthExtension (length : Nat) (rest : Bytes) :
    readLength (min length longLength) (lengthExtension length ++ rest) = .ok (length, rest) := by
  unfold readLength lengthExtension
  by_cases short : length < longLength
  · rw [Nat.min_eq_left (Nat.le_of_lt short), if_pos short, if_pos short]
    rfl
  · rw [Nat.min_eq_right (Nat.le_of_not_lt short), if_neg (Nat.lt_irrefl _), if_neg short]
    simp only [List.append_assoc, readExtension_replicate, List.cons_append, List.nil_append]
    have small : (length - longLength) % 255 < 255 := Nat.mod_lt _ (by decide)
    have value : (UInt8.ofNat ((length - longLength) % 255)).toNat
        = (length - longLength) % 255 :=
      UInt8.toNat_ofNat_of_lt' (Nat.lt_trans small (by decide))
    have last : UInt8.ofNat ((length - longLength) % 255) ≠ 255 := by
      intro same
      rw [same] at value
      exact absurd value.symm (Nat.ne_of_lt small)
    rw [readExtension, if_neg last, value]
    congr 2
    simp only [longLength] at *
    omega

/-- The upper half of a token is the share of the literals. -/
theorem token_div (literalCount copyLength : Nat) :
    (token literalCount copyLength).toNat / 16 = min literalCount longLength := by
  unfold token
  rw [UInt8.toNat_ofNat_of_lt' (by simp only [longLength, UInt8.size]; omega)]
  simp only [longLength]
  omega

/-- The lower half of a token is the share of the copy. -/
theorem token_mod (literalCount copyLength : Nat) :
    (token literalCount copyLength).toNat % 16 = min copyLength longLength := by
  unfold token
  rw [UInt8.toNat_ofNat_of_lt' (by simp only [longLength, UInt8.size]; omega)]
  simp only [longLength]
  omega

/-! ## Copies -/

/-- The bytes from `start` up to `stop` repeat those `offset` before them. -/
def Repeats (cells : Array UInt8) (offset start stop : Nat) : Prop :=
  ∀ position, start ≤ position → position < stop →
    byteAt cells (position - offset) = byteAt cells position

/-- A prefix followed by the next byte is a longer prefix. -/
theorem push_extract {cells : Array UInt8} {position : Nat} (inside : position < cells.size) :
    (cells.extract 0 position).push (byteAt cells position) = cells.extract 0 (position + 1) := by
  apply Array.ext
  · simp
    omega
  · intro i left right
    simp only [Array.size_push, Array.size_extract] at left
    rw [Array.getElem_push]
    split
    · simp
    · next beyond =>
      have last : i = position := by
        simp only [Array.size_extract] at beyond
        omega
      subst last
      simp [byteAt, Array.getD, inside]

/-- Copying over a stretch of an input that repeats itself writes that stretch. -/
theorem copyBack_extract {cells : Array UInt8} {offset start stop : Nat}
    (positive : 0 < offset) (reach : offset ≤ start) (fits : start ≤ stop)
    (inside : stop ≤ cells.size) (repeats : Repeats cells offset start stop) :
    copyBack offset (stop - start) (cells.extract 0 start) = cells.extract 0 stop := by
  obtain ⟨count, rfl⟩ : ∃ count, stop = start + count := ⟨stop - start, by omega⟩
  rw [Nat.add_sub_cancel_left]
  clear fits
  induction count generalizing start with
  | zero => rfl
  | succ count ih =>
    have size : (cells.extract 0 start).size = start := by
      simp
      omega
    have copied : (cells.extract 0 start).getD (start - offset) 0 = byteAt cells start := by
      rw [← repeats start (Nat.le_refl _) (by omega)]
      simp only [byteAt, Array.getD, size]
      rw [dif_pos (by omega), dif_pos (by omega)]
      simp
    rw [copyBack, size, copied, push_extract (by omega)]
    rw [ih (by omega) (by omega) fun position low high => repeats position (by omega) (by omega)]
    congr 1
    omega

/-! ## Blocks -/

/-- The sequences turn the first `start` bytes of an input into its first `stop` bytes. -/
inductive Rebuilds (cells : Array UInt8) : List Sequence → Nat → Nat → Prop
  | done (position : Nat) : Rebuilds cells [] position position
  | step {start middle stop finish offset : Nat} {rest : List Sequence}
      (ordered : start ≤ middle) (long : middle + shortestCopy ≤ stop)
      (inside : stop ≤ cells.size) (positive : 0 < offset) (reach : offset ≤ middle)
      (near : offset ≤ farthest) (repeats : Repeats cells offset middle stop)
      (later : Rebuilds cells rest stop finish) :
      Rebuilds cells (⟨(cells.extract start middle).toList, offset, stop - middle⟩ :: rest)
        start finish

/-- A prefix followed by the next stretch is a longer prefix. -/
theorem extract_appendList {cells : Array UInt8} {start stop : Nat} (ordered : start ≤ stop) :
    (cells.extract 0 start).appendList (cells.extract start stop).toList
      = cells.extract 0 stop := by
  apply Array.toList_inj.1
  rw [Array.appendList_eq_append, Array.toList_appendList, ← Array.toList_append,
    Array.extract_append_extract, Nat.zero_min, Nat.max_eq_right ordered]

/-- Expanding a sequence whose parts read back and that fits appends its bytes. -/
theorem expandOnto_sequence {capacity : Nat} {first : UInt8}
    {input literals afterOffset rest : Bytes} {low high : UInt8} {extra : Nat}
    {output : Array UInt8}
    (literalsRead : readLength (first.toNat / 16) input
      = .ok (literals.length, literals ++ low :: high :: afterOffset))
    (copyRead : readLength (first.toNat % 16) afterOffset = .ok (extra, rest))
    (room : output.size + literals.length + (extra + shortestCopy) ≤ capacity)
    (positive : 0 < low.toNat + 256 * high.toNat)
    (reach : low.toNat + 256 * high.toNat ≤ output.size + literals.length) :
    expandOnto capacity (first :: input) output =
      expandOnto capacity rest (copyBack (low.toNat + 256 * high.toNat) (extra + shortestCopy)
        (output.appendList literals)) := by
  have size : (output.appendList literals).size = output.size + literals.length := by
    rw [Array.appendList_eq_append, ← Array.length_toList, Array.toList_appendList]
    simp
  rw [expandOnto]
  split
  · next flaw failed =>
    rw [literalsRead] at failed
    cases failed
  · next count behind read =>
    rw [literalsRead] at read
    cases read
    have taken : (literals ++ low :: high :: afterOffset).take literals.length = literals :=
      List.take_left' rfl
    have dropped : (literals ++ low :: high :: afterOffset).drop literals.length
        = low :: high :: afterOffset := List.drop_left' rfl
    simp only [taken, Nat.lt_irrefl, if_false]
    rw [if_neg (by omega)]
    split
    · next none => simp [dropped] at none
    · next one => simp [dropped] at one
    · next low' high' input' both =>
      rw [dropped] at both
      cases both
      rw [if_neg (by omega)]
      split
      · next flaw failed =>
        rw [copyRead] at failed
        cases failed
      · next extra' rest' read =>
        rw [copyRead] at read
        cases read
        rw [if_neg (by omega), if_neg (by omega)]

/-- Expanding the written form of sequences continues with what is behind them. -/
theorem expandOnto_sequences {cells : Array UInt8} {sequences : List Sequence} {start stop : Nat}
    (rebuilds : Rebuilds cells sequences start stop) {capacity : Nat}
    (room : cells.size ≤ capacity) (rest : Bytes) :
    expandOnto capacity (sequences.flatMap Sequence.encode ++ rest) (cells.extract 0 start)
      = expandOnto capacity rest (cells.extract 0 stop) := by
  induction rebuilds with
  | done position => rfl
  | @step start middle stop finish offset later ordered long inside positive reach near repeats
      rebuilds ih =>
    rw [List.flatMap_cons, List.append_assoc]
    generalize later.flatMap Sequence.encode ++ rest = behind at *
    rw [← ih]
    have literalCount : (cells.extract start middle).toList.length = middle - start := by
      simp
      omega
    have outputSize : (cells.extract 0 start).size = start := by
      simp
      omega
    have offsetRead :
        (UInt8.ofNat offset).toNat + 256 * (UInt8.ofNat (offset / 256)).toNat = offset := by
      simp only [farthest] at near
      rw [UInt8.toNat_ofNat', UInt8.toNat_ofNat']
      omega
    have copied := copyBack_extract positive reach (Nat.le_of_add_right_le long) inside repeats
    have written : (cells.extract 0 start).appendList (cells.extract start middle).toList
        = cells.extract 0 middle := extract_appendList ordered
    have length : stop - middle - shortestCopy + shortestCopy = stop - middle :=
      Nat.sub_add_cancel (by omega)
    simp only [Sequence.encode, LittleEndian.encode, List.cons_append, List.append_assoc,
      List.nil_append]
    generalize (cells.extract start middle).toList = literals at *
    generalize stop - middle - shortestCopy = extra at *
    generalize UInt8.ofNat offset = low at *
    generalize UInt8.ofNat (offset / 256) = high at *
    have literalsRead : readLength ((token literals.length extra).toNat / 16)
        (lengthExtension literals.length
          ++ (literals ++ low :: high :: (lengthExtension extra ++ behind)))
        = .ok (literals.length, literals ++ low :: high :: (lengthExtension extra ++ behind)) := by
      rw [token_div, readLength_lengthExtension]
    have copyRead : readLength ((token literals.length extra).toNat % 16)
        (lengthExtension extra ++ behind) = .ok (extra, behind) := by
      rw [token_mod, readLength_lengthExtension]
    rw [expandOnto_sequence literalsRead copyRead (by omega) (by omega) (by omega), offsetRead,
      length, written, copied]

/-- Expanding the written form of a tail appends it. -/
theorem expandOnto_encodeTail {capacity : Nat} (tail : Bytes) (output : Array UInt8)
    (room : output.size + tail.length ≤ capacity) :
    expandOnto capacity (encodeTail tail) output = .ok (output.appendList tail) := by
  unfold encodeTail
  rw [expandOnto]
  have read := readLength_lengthExtension tail.length tail
  rw [← token_div tail.length 0] at read
  split
  · next flaw failed =>
    rw [read] at failed
    cases failed
  · next count behind again =>
    rw [read] at again
    cases again
    have dropped : tail.drop tail.length = [] := List.drop_length
    simp only [List.take_length, Nat.lt_irrefl, if_false]
    rw [if_neg (by omega)]
    split
    · rfl
    · next one => simp [dropped] at one
    · next both => simp [dropped] at both

/-- A block whose sequences rebuild an input up to its tail expands to the input. -/
theorem expand_encode {cells : Array UInt8} {sequences : List Sequence} {finish : Nat}
    (rebuilds : Rebuilds cells sequences 0 finish) (inside : finish ≤ cells.size) :
    expand cells.size (Block.encode ⟨sequences, (cells.extract finish cells.size).toList⟩)
      = .ok cells.toList := by
  have start : (#[] : Array UInt8) = cells.extract 0 0 := by simp
  unfold expand Block.encode
  simp only
  rw [start, expandOnto_sequences rebuilds (Nat.le_refl _), expandOnto_encodeTail]
  · rw [extract_appendList inside]
    simp [Except.map]
  · simp
    omega

/-! ## The factorization rebuilds its input -/

/-- Agreement on four bytes is a repetition of that length. -/
theorem repeats_of_agreeFour {cells : Array UInt8} {offset position : Nat}
    (reach : offset ≤ position) (agree : agreeFour cells (position - offset) position = true) :
    Repeats cells offset position (position + shortestCopy) := by
  intro place low high
  simp only [agreeFour, Bool.and_eq_true, beq_iff_eq] at agree
  simp only [shortestCopy] at high
  obtain ⟨⟨⟨zero, one⟩, two⟩, three⟩ := agree
  have choice : place = position ∨ place = position + 1 ∨ place = position + 2
      ∨ place = position + 3 := by omega
  rcases choice with rfl | rfl | rfl | rfl
  · exact zero
  · rw [← one]
    congr 1
    omega
  · rw [← two]
    congr 1
    omega
  · rw [← three]
    congr 1
    omega

/-- Going back over agreeing bytes lengthens a repetition at its start. -/
theorem repeats_extendBack {cells : Array UInt8} {offset floor position stop : Nat}
    (repeats : Repeats cells offset position stop) :
    Repeats cells offset (extendBack cells offset floor position) stop := by
  induction position with
  | zero => exact repeats
  | succ position ih =>
    unfold extendBack
    split
    · next agrees =>
      apply ih
      intro place low high
      by_cases first : place = position
      · rw [first]
        exact agrees.2.2
      · exact repeats place (by omega) high
    · exact repeats

/-- Going on over agreeing bytes lengthens a repetition at its end. -/
theorem repeats_extendForward {cells : Array UInt8} {offset start position : Nat}
    (repeats : Repeats cells offset start position) :
    Repeats cells offset start (extendForward cells offset position) := by
  fun_induction extendForward cells offset position with
  | case1 position agrees ih =>
    apply ih
    intro place low high
    by_cases last : place = position
    · rw [last]
      exact agrees.2
    · exact repeats place low (by omega)
  | case2 position _ => exact repeats

/-- Going back never leaves less room in front than the offset needs. -/
theorem offset_le_extendBack {cells : Array UInt8} {offset floor position : Nat}
    (reach : offset ≤ position) : offset ≤ extendBack cells offset floor position := by
  induction position with
  | zero => exact reach
  | succ position ih =>
    unfold extendBack
    split
    · next agrees => exact ih (by omega)
    · exact reach

/-- Going on stays inside the input. -/
theorem extendForward_le {cells : Array UInt8} {offset position : Nat}
    (inside : position ≤ cells.size) : extendForward cells offset position ≤ cells.size := by
  fun_induction extendForward cells offset position with
  | case1 position agrees ih => exact ih (by omega)
  | case2 position _ => exact inside

/-- The sequences that the factorization finds from `floor` on rebuild the input from there. -/
theorem rebuilds_sequencesFrom {cells : Array UInt8} {table : Array Nat} {floor position : Nat}
    {reached : floor ≤ position} {found : List Sequence} (inside : floor ≤ cells.size) :
    ∃ sequences, (sequencesFrom cells table floor position reached found).1
        = found.reverse ++ sequences
      ∧ Rebuilds cells sequences floor
          (sequencesFrom cells table floor position reached found).2
      ∧ (sequencesFrom cells table floor position reached found).2 ≤ cells.size := by
  fun_induction sequencesFrom cells table floor position reached found with
  | case1 table floor position reached found table' searched =>
    exact ⟨[], by simp, .done floor, inside⟩
  | case2 table floor position reached found hit table' searched start stop sequence ih =>
    have room := hit.room
    have after := hit.start_le
    have positive := hit.offset_pos
    have forward : hit.position + shortestCopy ≤ stop := le_extendForward _ _ _
    simp only [startMargin, shortestCopy] at room forward
    have stopInside : stop ≤ cells.size := extendForward_le (by simp only [shortestCopy]; omega)
    obtain ⟨sequences, same, rebuilds, finishInside⟩ := ih stopInside
    refine ⟨sequence :: sequences, ?_, ?_, finishInside⟩
    · rw [same]
      simp
    · have floorStart : floor ≤ start := floor_le_extendBack cells (Nat.le_trans reached after)
      have startPosition : start ≤ hit.position := extendBack_le cells _ _ _
      have reach : hit.offset ≤ hit.position := Nat.sub_le _ _
      have candidate : hit.position - hit.offset = hit.candidate := by
        have := hit.candidate_lt
        unfold Hit.offset
        omega
      have agree := hit.agree
      rw [← candidate] at agree
      have repeats : Repeats cells hit.offset start stop :=
        repeats_extendForward (repeats_extendBack (repeats_of_agreeFour reach agree))
      exact .step floorStart (by simp only [shortestCopy]; omega) stopInside positive
        (offset_le_extendBack reach) hit.near repeats rebuilds

/-- The block of an input expands to the input. -/
theorem expand_factor (cells : Array UInt8) :
    expand cells.size (factor cells).encode = .ok cells.toList := by
  unfold factor
  split
  · have none := expand_encode (.done 0 : Rebuilds cells [] 0 0) (Nat.zero_le _)
    simpa using none
  · obtain ⟨sequences, found, rebuilds, inside⟩ := @rebuilds_sequencesFrom cells
      (remember cells emptyTable 0) 0 1 (by decide) [] (Nat.zero_le _)
    rw [List.reverse_nil, List.nil_append] at found
    rw [← found] at rebuilds
    exact expand_encode rebuilds inside

/-- The compressed form of a byte string expands to the byte string. -/
theorem expand_compress (bytes : Bytes) : expand bytes.length (compress bytes) = .ok bytes :=
  expand_factor bytes.toArray

end Lz4
end ArrayBlob
