import ArrayBlob.Bytes

/-!
# Byte planes

The filter in front of the block compressor groups the first bytes of all elements, then the second
bytes, and so on, because bytes of the same position resemble each other. Elements and planes are
the rows and the columns of one table, so grouping and restoring are the two transpositions, and
each undoes the other. Bytes behind the last whole element stay where they are.

`split` and `join` say which byte stands where. `splitOnto` and `joinOnto` fill a buffer: they go
through the elements, and in each through its bytes, and move one byte at a time. A move without a
byte to take or a place to put it ends without an outcome.
-/

namespace ArrayBlob
namespace Planes

/-- The position, in the listing of a table by rows, of the entry at a position of its listing by
columns. Positions behind the table stay. -/
def transpose (rows columns position : Nat) : Nat :=
  if position < rows * columns then position % rows * columns + position / rows else position

/-- The bytes of an input at the positions that a rearrangement names. -/
def gather (source : Nat → Nat) (bytes : Bytes) : Bytes :=
  let cells := bytes.toArray
  (List.range cells.size).map fun position => cells.getD (source position) 0

/-- Groups the bytes of elements of a width by their place in the element. -/
def split (width : Nat) (bytes : Bytes) : Bytes :=
  if width ≤ 1 then bytes else gather (transpose (bytes.length / width) width) bytes

/-- Puts bytes that are grouped by their place in the element back into elements. -/
def join (width : Nat) (bytes : Bytes) : Bytes :=
  if width ≤ 1 then bytes else gather (transpose width (bytes.length / width)) bytes

/-- Moves the byte at the first position of a route to the second, in a buffer. -/
def move? (source : Array UInt8) (buffer : Array UInt8) (route : Nat × Nat) :
    Option (Array UInt8) := do
  let byte ← source[route.1]?
  if inside : route.2 < buffer.size then some (buffer.set route.2 byte) else none

/-- The routes of the bytes of some elements to the planes, element by element. -/
def elementRoutes (width count : Nat) : List (Nat × Nat) :=
  (List.range count).flatMap fun element =>
    (List.range width).map fun place => (element * width + place, place * count + element)

/-- The routes of bytes that stay at their positions. -/
def stayRoutes (start stop : Nat) : List (Nat × Nat) :=
  (List.range' start (stop - start)).map fun position => (position, position)

/-- The routes of all bytes of an input of some size. Those in whole elements of several bytes go to
the planes, the others stay. -/
def splitRoutes (width size : Nat) : List (Nat × Nat) :=
  if width ≤ 1 then stayRoutes 0 size
  else elementRoutes width (size / width) ++ stayRoutes (size / width * width) size

/-- Moves bytes on some routes into a buffer of the size of the input. -/
def moveAll? (routes : List (Nat × Nat)) (bytes buffer : Bytes) : Option Bytes :=
  if buffer.length = bytes.length then
    (routes.foldlM (move? bytes.toArray) buffer.toArray).map Array.toList
  else none

/-- Fills a buffer with the bytes of elements of a width, grouped by their place in the element. -/
def splitOnto (width : Nat) (bytes buffer : Bytes) : Option Bytes :=
  moveAll? (splitRoutes width bytes.length) bytes buffer

/-- Fills a buffer with bytes that are grouped by their place in the element, put back into
elements. -/
def joinOnto (width : Nat) (bytes buffer : Bytes) : Option Bytes :=
  moveAll? ((splitRoutes width bytes.length).map Prod.swap) bytes buffer

theorem transpose_lt {rows columns position : Nat} (inside : position < rows * columns) :
    transpose rows columns position < rows * columns := by
  have some_row : 0 < rows := Nat.pos_of_ne_zero (by rintro rfl; simp at inside)
  have row : position % rows < rows := Nat.mod_lt _ some_row
  have column : position / rows < columns := Nat.div_lt_of_lt_mul inside
  rw [transpose, if_pos inside]
  calc position % rows * columns + position / rows
      < position % rows * columns + columns := Nat.add_lt_add_left column _
    _ = (position % rows + 1) * columns := (Nat.succ_mul _ _).symm
    _ ≤ rows * columns := Nat.mul_le_mul_right _ row

/-- The transposition of the transposed table undoes the transposition. -/
@[simp]
theorem transpose_transpose (rows columns position : Nat) :
    transpose columns rows (transpose rows columns position) = position := by
  by_cases inside : position < rows * columns
  · have moved := transpose_lt inside
    have some_row : 0 < rows := Nat.pos_of_ne_zero (by rintro rfl; simp at inside)
    have column : position / rows < columns := Nat.div_lt_of_lt_mul inside
    have some_column : 0 < columns := Nat.lt_of_le_of_lt (Nat.zero_le _) column
    rw [Nat.mul_comm] at moved
    rw [transpose, if_pos moved, transpose, if_pos inside]
    rw [Nat.mul_comm (position % rows) columns, Nat.mul_add_mod, Nat.mod_eq_of_lt column,
      Nat.mul_add_div some_column, Nat.div_eq_of_lt column, Nat.add_zero]
    rw [Nat.mul_comm]
    exact Nat.div_add_mod position rows
  · have fixed : transpose rows columns position = position := by rw [transpose, if_neg inside]
    rw [fixed, transpose, if_neg (by rwa [Nat.mul_comm])]

theorem transpose_lt_of_le {rows columns position size : Nat} (table : rows * columns ≤ size)
    (inside : position < size) : transpose rows columns position < size := by
  by_cases within : position < rows * columns
  · exact Nat.lt_of_lt_of_le (transpose_lt within) table
  · rwa [transpose, if_neg within]

@[simp]
theorem length_gather (source : Nat → Nat) (bytes : Bytes) :
    (gather source bytes).length = bytes.length := by
  simp [gather]

theorem getElem_gather {source : Nat → Nat} {bytes : Bytes} {position : Nat}
    (inside : position < (gather source bytes).length) (named : source position < bytes.length) :
    (gather source bytes)[position] = bytes[source position] := by
  simp [gather, Array.getD, named]

/-- A rearrangement is undone by one that names the positions it came from. -/
theorem gather_gather {back source : Nat → Nat} {bytes : Bytes}
    (named : ∀ position, position < bytes.length → source position < bytes.length)
    (returned : ∀ position, position < bytes.length → back position < bytes.length)
    (undone : ∀ position, source (back position) = position) :
    gather back (gather source bytes) = bytes := by
  apply List.ext_getElem
  · simp
  · intro position left right
    rw [getElem_gather left (by simpa using returned position right),
      getElem_gather _ (named _ (returned position right))]
    simp [undone]

@[simp]
theorem length_split (width : Nat) (bytes : Bytes) :
    (split width bytes).length = bytes.length := by
  unfold split
  split <;> simp

@[simp]
theorem length_join (width : Nat) (bytes : Bytes) :
    (join width bytes).length = bytes.length := by
  unfold join
  split <;> simp

theorem table_le (width : Nat) (bytes : Bytes) :
    bytes.length / width * width ≤ bytes.length :=
  Nat.div_mul_le_self _ _

@[simp]
theorem join_split (width : Nat) (bytes : Bytes) : join width (split width bytes) = bytes := by
  have table := table_le width bytes
  unfold join
  rw [length_split]
  unfold split
  by_cases narrow : width ≤ 1
  · rw [if_pos narrow, if_pos narrow]
  · rw [if_neg narrow, if_neg narrow]
    refine gather_gather (fun _ => transpose_lt_of_le table) (fun _ => transpose_lt_of_le ?_) ?_
    · rwa [Nat.mul_comm]
    · exact transpose_transpose _ _

@[simp]
theorem split_join (width : Nat) (bytes : Bytes) : split width (join width bytes) = bytes := by
  have table := table_le width bytes
  unfold split
  rw [length_join]
  unfold join
  by_cases narrow : width ≤ 1
  · rw [if_pos narrow, if_pos narrow]
  · rw [if_neg narrow, if_neg narrow]
    refine gather_gather (fun _ => transpose_lt_of_le ?_) (fun _ => transpose_lt_of_le table) ?_
    · rwa [Nat.mul_comm]
    · exact transpose_transpose _ _

end Planes
end ArrayBlob
