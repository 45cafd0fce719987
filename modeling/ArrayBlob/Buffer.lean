import ArrayBlob.Bytes
import ArrayBlob.Fault

/-!
# Buffers

A buffer of a size that comes from outside is reserved before it is filled. No buffer can have
`2 ^ 63` bytes or more, and asking for one is a fault and not a crash.

A writer that is handed a buffer fills it in place: it stores one part after the other, each from an
offset on, and passes over the other cells. Parts that stand side by side take the place of as many
bytes as they have, and the bytes in front of them and behind them are kept.
-/

namespace ArrayBlob

/-- Reserves room for a number of bytes. -/
def reserve (size : Nat) : Except Fault Unit :=
  if size < 2 ^ 63 then .ok () else .error (.allocationFailed size)

/-- A buffer of zero bytes. -/
def zeroed (size : Nat) : Except Fault Bytes := do
  reserve size
  return List.replicate size 0

@[simp]
theorem reserve_eq_ok_iff {size : Nat} : reserve size = .ok () ↔ size < 2 ^ 63 := by
  unfold reserve
  split <;> simp_all

namespace Bytes

/-- Stores bytes into the cells of a buffer, one behind the other from a position on. Those behind
its end are lost, so a writer sees first that there is room. -/
def store (position : Nat) : Bytes → Array UInt8 → Array UInt8
  | [], cells => cells
  | byte :: rest, cells => store (position + 1) rest (cells.setIfInBounds position byte)

/-- Stores parts into a buffer in turn, each from its own offset on. -/
def storeAll (parts : List (Nat × Bytes)) (buffer : Bytes) : Bytes :=
  (parts.foldl (fun cells (position, bytes) => store position bytes cells) buffer.toArray).toList

/-- The bytes of all parts, one part behind the other. -/
def written (parts : List (Nat × Bytes)) : Bytes :=
  parts.flatMap Prod.snd

/-- The parts stand side by side from an offset on. -/
def Adjacent (start : Nat) : List (Nat × Bytes) → Prop
  | [] => True
  | (position, bytes) :: rest => position = start ∧ Adjacent (start + bytes.length) rest

/-! ## Overwriting -/

variable {start : Nat} {bytes next buffer : Bytes}

theorem overwrite_nil (start : Nat) (buffer : Bytes) : overwrite start [] buffer = buffer := by
  simp [overwrite]

theorem overwrite_zero (bytes buffer : Bytes) :
    overwrite 0 bytes buffer = bytes ++ buffer.drop bytes.length := by
  simp [overwrite]

theorem length_overwrite (room : start + bytes.length ≤ buffer.length) :
    (overwrite start bytes buffer).length = buffer.length := by
  simp only [overwrite, List.length_append, List.length_take, List.length_drop]
  omega

/-- The bytes behind an offset, after some of them were overwritten from there on. -/
theorem drop_overwrite (inside : start ≤ buffer.length) :
    (overwrite start bytes buffer).drop start
      = bytes ++ buffer.drop (start + bytes.length) := by
  rw [overwrite, List.append_assoc]
  exact List.drop_left' (List.length_take_of_le inside)

/-- Overwriting with two byte strings, the second behind the first, is overwriting with both. -/
theorem overwrite_overwrite (room : start + bytes.length ≤ buffer.length) :
    overwrite (start + bytes.length) next (overwrite start bytes buffer)
      = overwrite start (bytes ++ next) buffer := by
  have split : (buffer.take start ++ bytes).length = start + bytes.length := by
    rw [List.length_append, List.length_take_of_le (by omega)]
  have front : (overwrite start bytes buffer).take (start + bytes.length)
      = buffer.take start ++ bytes := List.take_left' split
  have rest : (overwrite start bytes buffer).drop (start + bytes.length + next.length)
      = buffer.drop (start + bytes.length + next.length) := by
    rw [← List.drop_drop, overwrite, List.drop_left' split, List.drop_drop]
  calc overwrite (start + bytes.length) next (overwrite start bytes buffer)
      = (overwrite start bytes buffer).take (start + bytes.length) ++ next
        ++ (overwrite start bytes buffer).drop (start + bytes.length + next.length) := rfl
    _ = buffer.take start ++ bytes ++ next
        ++ buffer.drop (start + bytes.length + next.length) := by rw [front, rest]
    _ = overwrite start (bytes ++ next) buffer := by
        rw [overwrite, List.length_append, Nat.add_assoc, List.append_assoc (buffer.take start)]

/-! ## Storing -/

/-- Bytes that fit are stored in place of those that stood there. -/
theorem store_eq_overwrite (room : start + bytes.length ≤ buffer.length) :
    store start bytes buffer.toArray = (overwrite start bytes buffer).toArray := by
  -- The first byte overwrites one cell, and the others then overwrite those behind it.
  induction bytes generalizing start buffer with
  | nil => rw [store, overwrite_nil]
  | cons byte rest ih =>
    rw [List.length_cons] at room
    have one : buffer.toArray.setIfInBounds start byte
        = (overwrite start [byte] buffer).toArray := by
      rw [List.setIfInBounds_toArray, List.set_eq_take_append_cons_drop, if_pos (by omega),
        overwrite, List.append_assoc]
      rfl
    have inside : start + [byte].length ≤ buffer.length := by
      rw [List.length_singleton]
      omega
    have both : overwrite (start + 1) rest (overwrite start [byte] buffer)
        = overwrite start (byte :: rest) buffer := overwrite_overwrite inside
    rw [store, one, ih (by rw [length_overwrite inside]; omega), both]

/-- Parts that stand side by side and fit are stored in place of what stood there. -/
theorem storeAll_eq_overwrite {parts : List (Nat × Bytes)} (adjacent : Adjacent start parts)
    (room : start + (written parts).length ≤ buffer.length) :
    storeAll parts buffer = overwrite start (written parts) buffer := by
  induction parts generalizing start buffer with
  | nil => exact (overwrite_nil start buffer).symm
  | cons part rest ih =>
    obtain ⟨position, bytes⟩ := part
    obtain ⟨rfl, adjacent⟩ := adjacent
    have both : written ((position, bytes) :: rest) = bytes ++ written rest := List.flatMap_cons
    rw [both, List.length_append] at room
    have inside : position + bytes.length ≤ buffer.length := by omega
    have first : storeAll ((position, bytes) :: rest) buffer
        = storeAll rest (overwrite position bytes buffer) := by
      simp only [storeAll, List.foldl_cons, store_eq_overwrite inside]
    rw [first, ih adjacent (by rw [length_overwrite inside]; omega), overwrite_overwrite inside,
      both]

/-! ## Parts of one width -/

variable {α : Type} {width : Nat} {write : α → Bytes}

theorem written_mapIdx (offset : Nat → Nat) (write : α → Bytes) (values : List α) :
    written (values.mapIdx fun index value => (offset index, write value))
      = values.flatMap write := by
  induction values generalizing offset with
  | nil => rfl
  | cons value rest ih =>
    rw [List.mapIdx_cons, List.flatMap_cons, ← ih fun index => offset (index + 1)]
    rfl

/-- Parts of one width stand side by side if each starts the width behind the one before. -/
theorem adjacent_mapIdx (full : ∀ value, (write value).length = width) (start : Nat)
    (values : List α) :
    Adjacent start (values.mapIdx fun index value => (start + width * index, write value)) := by
  induction values generalizing start with
  | nil => trivial
  | cons value rest ih =>
    have behind := ih (start + width)
    simp only [Nat.add_assoc, ← Nat.mul_succ, Nat.add_comm width] at behind
    rw [List.mapIdx_cons]
    refine ⟨Nat.add_zero start, ?_⟩
    rw [full]
    exact behind

end Bytes
end ArrayBlob
