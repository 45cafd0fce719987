import ArrayBlob.Bytes

/-!
# Byte strings that agree where they are read

Two byte strings of one length agree but at some positions. What a reader takes from other positions
is then the same in both: a byte, a field, or the rest behind an offset. The bytes in front of the
first zero byte are read without their length being known, so that what stands behind the zero byte
does not matter.
-/

namespace ArrayBlob
namespace Bytes

/-- The byte strings have the same length and differ at unread positions alone. -/
structure AgreeBut (unread : Nat → Prop) (left right : Bytes) : Prop where
  length : left.length = right.length
  getElem? : ∀ position, left[position]? = right[position]? ∨ unread position

namespace AgreeBut

variable {unread : Nat → Prop} {left right : Bytes}

/-- What differs at no position is the same. -/
theorem eq (agree : AgreeBut unread left right) (read : ∀ position, ¬ unread position) :
    left = right := by
  apply List.ext_getElem?
  intro position
  exact (agree.getElem? position).resolve_right (read position)

/-- Every byte string agrees with itself. -/
theorem refl (unread : Nat → Prop) (bytes : Bytes) : AgreeBut unread bytes bytes where
  length := rfl
  getElem? _ := .inl rfl

/-- Byte strings of one length agree if no position of them is read. -/
theorem of_length (length : left.length = right.length)
    (covered : ∀ position < left.length, unread position) : AgreeBut unread left right where
  length := length
  getElem? := by
    intro position
    by_cases inside : position < left.length
    · exact .inr (covered position inside)
    · rw [List.getElem?_eq_none (by omega), List.getElem?_eq_none (by omega)]
      exact .inl rfl

/-- Byte strings that agree agree one behind the other. -/
theorem append (front : AgreeBut unread left right) {rest other : Bytes}
    (back : AgreeBut (fun position => unread (left.length + position)) rest other) :
    AgreeBut unread (left ++ rest) (right ++ other) where
  length := by rw [List.length_append, List.length_append, front.length, back.length]
  getElem? := by
    intro position
    by_cases inside : position < left.length
    · rw [List.getElem?_append_left inside, List.getElem?_append_left (front.length ▸ inside)]
      exact front.getElem? position
    · have shifted := back.getElem? (position - left.length)
      rw [Nat.add_sub_cancel' (Nat.le_of_not_lt inside)] at shifted
      rw [List.getElem?_append_right (Nat.le_of_not_lt inside),
        List.getElem?_append_right (front.length ▸ Nat.le_of_not_lt inside), ← front.length]
      exact shifted

/-- A byte that is read is the same in both. -/
theorem getD (agree : AgreeBut unread left right) {position : Nat} (read : ¬ unread position) :
    left.getD position 0 = right.getD position 0 := by
  rw [List.getD_eq_getElem?_getD, List.getD_eq_getElem?_getD,
    (agree.getElem? position).resolve_right read]

/-- Behind an offset, two byte strings agree but at the positions that are unread there. -/
theorem drop (agree : AgreeBut unread left right) (offset : Nat) :
    AgreeBut (fun position => unread (offset + position)) (left.drop offset)
      (right.drop offset) where
  length := by rw [List.length_drop, List.length_drop, agree.length]
  getElem? := by
    intro position
    rw [List.getElem?_drop, List.getElem?_drop]
    exact agree.getElem? (offset + position)

/-- A field that is read is the same in both. -/
theorem field (agree : AgreeBut unread left right) {offset width : Nat}
    (read : ∀ position, offset ≤ position → position < offset + width → ¬ unread position) :
    field offset width left = Bytes.field offset width right := by
  apply List.ext_getElem?
  intro index
  by_cases inside : index < width
  · rw [getElem?_field inside, getElem?_field inside]
    exact (agree.getElem? (offset + index)).resolve_right (read _ (by omega) (by omega))
  · rw [Bytes.field, Bytes.field, List.getElem?_take_eq_none (by omega),
      List.getElem?_take_eq_none (by omega)]

/-- Bytes that look the same, where there are any, look the same at their position. -/
theorem map_getElem? (agree : AgreeBut unread left right) {α : Type} {look : UInt8 → α}
    {position : Nat} (same : look (left.getD position 0) = look (right.getD position 0)) :
    left[position]?.map look = right[position]?.map look := by
  rw [List.getD_eq_getElem?_getD, List.getD_eq_getElem?_getD] at same
  by_cases reached : position < left.length
  · rw [List.getElem?_eq_getElem reached,
      List.getElem?_eq_getElem (agree.length ▸ reached)] at same ⊢
    exact congrArg some same
  · rw [List.getElem?_eq_none (by omega), List.getElem?_eq_none (by rw [← agree.length]; omega)]

/-- What is unread may be more. -/
theorem mono (agree : AgreeBut unread left right) {wider : Nat → Prop}
    (included : ∀ position, unread position → wider position) : AgreeBut wider left right where
  length := agree.length
  getElem? position := (agree.getElem? position).imp_right (included position)

end AgreeBut

/-- The bytes in front of the first zero byte look the same in two byte strings that look the same
but behind a zero byte, if the zero byte looks like no other. -/
theorem map_untilZero_congr {α : Type} {look : UInt8 → α}
    (apart : ∀ byte, look byte = look 0 → byte = 0) {left right : Bytes}
    (length : left.length = right.length)
    (each : ∀ position : Nat, (∃ stop < position, left[stop]? = some 0)
      ∨ left[position]?.map look = right[position]?.map look) :
    (untilZero left).map look = (untilZero right).map look := by
  -- Behind a first byte that is not zero, every position and the zero byte in front of it move by
  -- one, so that the induction goes along both byte strings.
  induction left generalizing right with
  | nil =>
    cases right with
    | nil => rfl
    | cons byte rest => cases length
  | cons byte rest ih =>
    cases right with
    | nil => cases length
    | cons other others =>
      have first : look byte = look other := by
        rcases each 0 with ⟨stop, before, -⟩ | same
        · exact absurd before (Nat.not_lt_zero stop)
        · exact Option.some.inj same
      unfold untilZero at ih ⊢
      rw [List.takeWhile_cons, List.takeWhile_cons]
      by_cases ended : byte = 0
      · subst ended
        obtain rfl := apart other first.symm
        rfl
      · have going : other ≠ 0 := by
          rintro rfl
          exact ended (apart byte first)
        rw [if_pos (bne_iff_ne.2 ended), if_pos (bne_iff_ne.2 going), List.map_cons,
          List.map_cons, first, ih (Nat.succ.inj length)]
        intro position
        rcases each (position + 1) with ⟨stop, before, found⟩ | same
        · cases stop with
          | zero => exact absurd (Option.some.inj found) ended
          | succ stop => exact .inl ⟨stop, by omega, found⟩
        · exact .inr same

end Bytes
end ArrayBlob
