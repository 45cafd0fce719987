/-!
# Byte strings

Payloads, frames and headers are byte strings. This module fixes their representation and the
one way of cutting them up that does not depend on any format.

Sizes, bounds and places are powers with natural exponents throughout the library. They are the
built-in ones in every module, also where an algebra library offers the powers of its monoids.
-/

namespace ArrayBlob

-- The first priority chooses among the known types, the second among numerals without one.
attribute [instance (high), default_instance high + 1] instPowNat

/-- A byte string. -/
abbrev Bytes := List UInt8

namespace Bytes

/-- The consecutive groups of `width` bytes. A shorter rest at the end is left out. -/
def groups (width : Nat) (bytes : Bytes) : List Bytes :=
  let cells := bytes.toArray
  (List.range (cells.size / width)).map fun index =>
    (cells.extract (index * width) (index * width + width)).toList

/-- The bytes in front of the first zero byte, or all of them. -/
def untilZero (bytes : Bytes) : Bytes :=
  bytes.takeWhile (· != 0)

/-- The field of `width` bytes that starts at `offset`. -/
def field (offset width : Nat) (bytes : Bytes) : Bytes :=
  (bytes.drop offset).take width

/-- Extends a byte string with zero bytes up to `width`. -/
def padTo (width : Nat) (bytes : Bytes) : Bytes :=
  bytes ++ List.replicate (width - bytes.length) 0

/-- Puts some bytes into a buffer, in place of those that stand there from an offset on. -/
def overwrite (offset : Nat) (bytes buffer : Bytes) : Bytes :=
  buffer.take offset ++ bytes ++ buffer.drop (offset + bytes.length)

theorem groups_eq_map (width : Nat) (bytes : Bytes) :
    groups width bytes =
      (List.range (bytes.length / width)).map fun index => field (index * width) width bytes := by
  simp [groups, field, List.extract_eq_take_drop]

@[simp]
theorem groups_nil (width : Nat) : groups width [] = [] := by
  simp [groups]

/-- The first group is the first `width` bytes. -/
theorem groups_append {width : Nat} {group rest : Bytes} (positive : 0 < width)
    (full : group.length = width) :
    groups width (group ++ rest) = group :: groups width rest := by
  have count : (group ++ rest).length / width = rest.length / width + 1 := by
    rw [List.length_append, full, Nat.add_comm, Nat.add_div_right _ positive]
  rw [groups_eq_map, groups_eq_map, count, List.range_succ_eq_map, List.map_cons, List.map_map]
  congr 1
  · simp [field, ← full]
  · apply List.map_congr_left
    intro index _
    change List.take width (List.drop (index.succ * width) (group ++ rest)) = _
    rw [Nat.succ_mul, Nat.add_comm, ← List.drop_drop, List.drop_left' full]
    rfl

/-- Cutting up groups that were joined gives the groups. -/
theorem groups_flatMap {α : Type} {width : Nat} {write : α → Bytes} (positive : 0 < width)
    (full : ∀ value, (write value).length = width) (values : List α) :
    groups width (values.flatMap write) = values.map write := by
  induction values with
  | nil => simp
  | cons value rest ih =>
    rw [List.flatMap_cons, groups_append positive (full value), ih, List.map_cons]

/-- Joining the groups gives the bytes, when no group is short. -/
theorem flatten_groups {width : Nat} {bytes : Bytes} (whole : bytes.length % width = 0) :
    (groups width bytes).flatten = bytes := by
  have size := Nat.div_add_mod bytes.length width
  generalize bytes.length / width = count at size
  rw [whole, Nat.add_zero] at size
  clear whole
  induction count generalizing bytes with
  | zero =>
    have empty : bytes = [] := List.eq_nil_of_length_eq_zero (by omega)
    rw [empty, groups_nil, List.flatten_nil]
  | succ count ih =>
    rcases Nat.eq_zero_or_pos width with rfl | positive
    · have empty : bytes = [] := List.eq_nil_of_length_eq_zero (by omega)
      rw [empty, groups_nil, List.flatten_nil]
    · rw [Nat.mul_succ] at size
      have full : (bytes.take width).length = width := by
        rw [List.length_take]
        omega
      have rest : width * count = (bytes.drop width).length := by
        rw [List.length_drop]
        omega
      have first : groups width (bytes.take width ++ bytes.drop width)
          = bytes.take width :: groups width (bytes.drop width) := groups_append positive full
      rw [List.take_append_drop] at first
      rw [first, List.flatten_cons, ih rest, List.take_append_drop]

@[simp]
theorem length_groups (width : Nat) (bytes : Bytes) :
    (groups width bytes).length = bytes.length / width := by
  simp [groups]

@[simp]
theorem length_field (offset width : Nat) (bytes : Bytes) :
    (field offset width bytes).length = min width (bytes.length - offset) := by
  simp [field]

/-- A field within the bytes has its full width. -/
theorem length_field_of_le {offset width : Nat} {bytes : Bytes}
    (reaches : offset + width ≤ bytes.length) : (field offset width bytes).length = width := by
  rw [length_field]
  omega

/-- No group is short. -/
theorem length_of_mem_groups {width : Nat} {bytes group : Bytes}
    (member : group ∈ groups width bytes) : group.length = width := by
  rw [groups_eq_map] at member
  obtain ⟨index, listed, rfl⟩ := List.mem_map.1 member
  have whole := Nat.mul_le_mul_right width (List.mem_range.1 listed)
  have within := Nat.div_mul_le_self bytes.length width
  rw [Nat.succ_mul] at whole
  exact length_field_of_le (Nat.le_trans whole within)

/-- The field of `width` bytes that starts at `offset`, if the bytes reach that far. -/
def field? (offset width : Nat) (bytes : Bytes) : Option {part : Bytes // part.length = width} :=
  if reaches : offset + width ≤ bytes.length then
    some ⟨field offset width bytes, by rw [length_field]; omega⟩
  else none

theorem field?_of_le {offset width : Nat} {bytes : Bytes}
    (reaches : offset + width ≤ bytes.length) :
    ∃ full, field? offset width bytes = some ⟨field offset width bytes, full⟩ :=
  ⟨_, dif_pos reaches⟩

theorem field_append_of_le {front rest : Bytes} {offset width : Nat} (h : front.length ≤ offset) :
    field offset width (front ++ rest) = field (offset - front.length) width rest := by
  unfold field
  rw [List.drop_append, List.drop_of_length_le h, List.nil_append]

theorem field_zero_append {bytes rest : Bytes} {width : Nat} (h : bytes.length = width) :
    field 0 width (bytes ++ rest) = bytes := by
  unfold field
  rw [List.drop_zero, List.take_left' h]

/-- A field of a field is a field of the bytes. -/
theorem field_field {start width offset part : Nat} {bytes : Bytes}
    (within : offset + part ≤ width) :
    field offset part (field start width bytes) = field (start + offset) part bytes := by
  unfold field
  rw [List.drop_take, List.take_take, List.drop_drop, Nat.min_eq_left (by omega)]

theorem getElem?_field {offset width index : Nat} (inside : index < width) (bytes : Bytes) :
    (field offset width bytes)[index]? = bytes[offset + index]? := by
  rw [field, List.getElem?_take_of_lt inside, List.getElem?_drop]

/-- What is left of the bytes from an offset on starts with a field. -/
theorem drop_eq_field_append (offset width : Nat) (bytes : Bytes) :
    bytes.drop offset = field offset width bytes ++ bytes.drop (offset + width) := by
  rw [field, ← List.drop_drop, List.take_append_drop]

theorem zero_notMem_untilZero (bytes : Bytes) : 0 ∉ untilZero bytes := by
  induction bytes with
  | nil => simp [untilZero]
  | cons byte rest ih =>
    unfold untilZero at *
    rw [List.takeWhile_cons]
    split
    · next h =>
      simp only [bne_iff_ne] at h
      simp only [List.mem_cons, not_or]
      exact ⟨fun e => h e.symm, ih⟩
    · simp

theorem length_padTo {width : Nat} {bytes : Bytes} (h : bytes.length ≤ width) :
    (padTo width bytes).length = width := by
  simp [padTo]
  omega

theorem untilZero_padTo {width : Nat} {bytes : Bytes} (nonzero : 0 ∉ bytes) :
    untilZero (padTo width bytes) = bytes := by
  have kept : ∀ byte ∈ bytes, (byte != 0) = true := by
    intro byte member
    rw [bne_iff_ne]
    rintro rfl
    exact nonzero member
  unfold untilZero padTo
  rw [List.takeWhile_append_of_pos kept]
  cases width - bytes.length <;> simp [List.replicate_succ]

end Bytes
end ArrayBlob
