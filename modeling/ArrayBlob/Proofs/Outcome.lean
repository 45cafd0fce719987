import ArrayBlob.Fault

/-!
# Steps that can fail

What a sequence of steps ends with, in terms of its first step, which faults a sequence can end
with, and when two sequences end alike. Operations are taken apart with these instead of being
unfolded step by step in every proof.
-/

namespace ArrayBlob

variable {ε α β : Type} {first : Except ε α} {next : α → Except ε β}

@[simp]
theorem ok_bind (value : α) : ((Except.ok value : Except ε α) >>= next) = next value := rfl

@[simp]
theorem error_bind (fault : ε) : ((Except.error fault : Except ε α) >>= next) = .error fault := rfl

/-- A fault is no result. -/
theorem not_exists_error_eq_ok (fault : ε) :
    ¬ ∃ value : α, (Except.error fault : Except ε α) = .ok value := by
  rintro ⟨value, made⟩
  cases made

/-- What gives no result fails. -/
theorem fails_iff : (∃ fault, first = .error fault) ↔ ¬ ∃ value, first = .ok value := by
  cases first <;> simp

/-- Two steps give a result when the first gives one from which the second gives it. -/
theorem bind_eq_ok_iff {result : β} :
    (first >>= next) = .ok result ↔ ∃ value, first = .ok value ∧ next value = .ok result := by
  cases first <;> simp

/-- Two steps fail when the first fails, or gives a result on which the second fails. -/
theorem bind_eq_error_iff {fault : ε} :
    (first >>= next) = .error fault
      ↔ first = .error fault ∨ ∃ value, first = .ok value ∧ next value = .error fault := by
  cases first <;> simp

/-- A result that is only renamed is one that was there before. -/
theorem map_eq_ok_iff {rename : α → β} {result : β} :
    first.map rename = .ok result ↔ ∃ value, first = .ok value ∧ rename value = result := by
  cases first <;> simp [Except.map]

theorem map_eq_error_iff {rename : α → β} {fault : ε} :
    first.map rename = .error fault ↔ first = .error fault := by
  cases first <;> simp [Except.map]

/-- A check in front of other steps lets their result through when it does not apply. -/
theorem reject_eq_ok_iff {condition : Prop} [Decidable condition] {fault : ε} {rest : Except ε α}
    {result : α} :
    (if condition then .error fault else rest) = .ok result
      ↔ ¬ condition ∧ rest = .ok result := by
  split <;> simp_all

/-- An operation on a list gives the results that it gives on each of the elements. -/
theorem mapM_eq_ok_iff {operation : α → Except ε β} {values : List α} {results : List β} :
    values.mapM operation = .ok results ↔ values.map operation = results.map .ok := by
  induction values generalizing results with
  | nil => cases results <;> simp [pure, Except.pure]
  | cons value rest ih =>
    rw [List.mapM_cons, bind_eq_ok_iff]
    constructor
    · rintro ⟨first, made, others⟩
      obtain ⟨found, listed, done⟩ := bind_eq_ok_iff.1 others
      cases done
      rw [List.map_cons, List.map_cons, made, ih.1 listed]
    · intro each
      cases results with
      | nil => cases each
      | cons first found =>
        obtain ⟨made, others⟩ := List.cons_eq_cons.1 each
        exact ⟨first, made, bind_eq_ok_iff.2 ⟨found, ih.2 others, rfl⟩⟩

/-- An operation that gives a result for every element gives the list of the results. -/
theorem mapM_eq_ok {operation : α → Except ε β} {result : α → β} {values : List α}
    (each : ∀ value ∈ values, operation value = .ok (result value)) :
    values.mapM operation = .ok (values.map result) := by
  rw [mapM_eq_ok_iff, List.map_map]
  exact List.map_congr_left each

/-- An operation on a list gives results when it gives one for every element. -/
theorem mapM_succeeds_iff {operation : α → Except ε β} {values : List α} :
    (∃ results, values.mapM operation = .ok results)
      ↔ ∀ value ∈ values, ∃ result, operation value = .ok result := by
  induction values with
  | nil => exact ⟨fun _ _ member => (List.not_mem_nil member).elim, fun _ => ⟨[], rfl⟩⟩
  | cons value rest ih =>
    rw [List.forall_mem_cons, ← ih, List.mapM_cons]
    constructor
    · rintro ⟨results, done⟩
      obtain ⟨first, made, done⟩ := bind_eq_ok_iff.1 done
      obtain ⟨others, listed, -⟩ := bind_eq_ok_iff.1 done
      exact ⟨⟨first, made⟩, ⟨others, listed⟩⟩
    · rintro ⟨⟨first, made⟩, ⟨others, listed⟩⟩
      rw [made, ok_bind, listed, ok_bind]
      exact ⟨_, rfl⟩

/-- There are as many results as elements. -/
theorem length_of_mapM_eq_ok {operation : α → Except ε β} {values : List α} {results : List β}
    (done : values.mapM operation = .ok results) : results.length = values.length := by
  have same := congrArg List.length (mapM_eq_ok_iff.1 done)
  rw [List.length_map, List.length_map] at same
  exact same.symm

/-- An operation fails with faults of some categories only. -/
def FailsWithin {α : Type} (categories : List Category) (outcome : Except Fault α) : Prop :=
  ∀ fault, outcome = .error fault → fault.category ∈ categories

namespace FailsWithin

variable {α β : Type} {categories wider : List Category}

theorem ok (value : α) : FailsWithin categories (.ok value) := by
  intro fault failed
  cases failed

theorem error {fault : Fault} (member : fault.category ∈ categories) :
    FailsWithin categories (.error fault : Except Fault α) := by
  intro again failed
  cases failed
  exact member

theorem mono {outcome : Except Fault α} (within : FailsWithin categories outcome)
    (included : categories ⊆ wider) : FailsWithin wider outcome :=
  fun fault failed => included (within fault failed)

/-- Two steps fail like the first, or like the second on a result of the first. -/
theorem bind {first : Except Fault α} {next : α → Except Fault β}
    (before : FailsWithin categories first)
    (after : ∀ value, first = .ok value → FailsWithin categories (next value)) :
    FailsWithin categories (first >>= next) := by
  intro fault failed
  rcases bind_eq_error_iff.1 failed with failed | ⟨value, made, failed⟩
  · exact before fault failed
  · exact after value made fault failed

/-- A result that is only renamed fails as before. -/
theorem map {outcome : Except Fault α} (within : FailsWithin categories outcome)
    (rename : α → β) : FailsWithin categories (outcome.map rename) :=
  fun fault failed => within fault (map_eq_error_iff.1 failed)

/-- A choice between two operations fails like the one that is taken. -/
theorem ite {condition : Prop} [Decidable condition] {first second : Except Fault α}
    (taken : condition → FailsWithin categories first)
    (skipped : ¬ condition → FailsWithin categories second) :
    FailsWithin categories (if condition then first else second) := by
  split
  · next holds => exact taken holds
  · next fails => exact skipped fails

/-- A check fails with its own fault, and what follows it like the rest. -/
theorem reject {condition : Prop} [Decidable condition] {fault : Fault} {rest : Except Fault α}
    (member : fault.category ∈ categories)
    (passed : ¬ condition → FailsWithin categories rest) :
    FailsWithin categories (if condition then .error fault else rest) :=
  ite (fun _ => error member) passed

/-- A test gives a result or its own fault. -/
theorem accept {condition : Prop} [Decidable condition] {value : α} {fault : Fault}
    (member : fault.category ∈ categories) :
    FailsWithin categories (if condition then .ok value else .error fault) :=
  ite (fun _ => ok value) fun _ => error member

/-- An operation on every element of a list fails like it does on one of them. -/
theorem mapM {operation : α → Except Fault β}
    (each : ∀ value, FailsWithin categories (operation value)) (values : List α) :
    FailsWithin categories (values.mapM operation) := by
  induction values with
  | nil => exact ok []
  | cons value rest ih =>
    rw [List.mapM_cons]
    exact bind (each value) fun _ _ => bind ih fun _ _ => ok _

end FailsWithin

/-- An operation does not fail with any of some faults. -/
def Avoids {α : Type} (faults : Fault → Prop) (outcome : Except Fault α) : Prop :=
  ∀ fault, outcome = .error fault → ¬ faults fault

namespace Avoids

variable {α β : Type} {faults : Fault → Prop}

theorem ok (value : α) : Avoids faults (.ok value) := by
  intro fault failed
  cases failed

theorem error {fault : Fault} (other : ¬ faults fault) :
    Avoids faults (.error fault : Except Fault α) := by
  intro again failed
  cases failed
  exact other

/-- Faults of other categories are avoided. -/
theorem of_failsWithin {categories : List Category} {outcome : Except Fault α}
    (within : FailsWithin categories outcome)
    (apart : ∀ fault, faults fault → fault.category ∉ categories) : Avoids faults outcome :=
  fun fault failed hit => apart fault hit (within fault failed)

/-- Two steps avoid what the first avoids, and the second on a result of the first. -/
theorem bind {first : Except Fault α} {next : α → Except Fault β} (before : Avoids faults first)
    (after : ∀ value, first = .ok value → Avoids faults (next value)) :
    Avoids faults (first >>= next) := by
  intro fault failed
  rcases bind_eq_error_iff.1 failed with failed | ⟨value, made, failed⟩
  · exact before fault failed
  · exact after value made fault failed

/-- A choice between two operations avoids what the one that is taken avoids. -/
theorem ite {condition : Prop} [Decidable condition] {first second : Except Fault α}
    (taken : condition → Avoids faults first) (skipped : ¬ condition → Avoids faults second) :
    Avoids faults (if condition then first else second) := by
  split
  · next holds => exact taken holds
  · next fails => exact skipped fails

/-- A check with another fault avoids what the rest avoids. -/
theorem reject {condition : Prop} [Decidable condition] {fault : Fault} {rest : Except Fault α}
    (other : ¬ faults fault) (passed : ¬ condition → Avoids faults rest) :
    Avoids faults (if condition then .error fault else rest) :=
  ite (fun _ => error other) passed

end Avoids

/-- Two operations end with the same fault, or with results that are related. -/
inductive EndAlike {α β : Type} (related : α → β → Prop) : Except Fault α → Except Fault β → Prop
  | failed (fault : Fault) : EndAlike related (.error fault) (.error fault)
  | done {left : α} {right : β} (alike : related left right) :
      EndAlike related (.ok left) (.ok right)

namespace EndAlike

variable {α β γ δ : Type} {related : α → β → Prop} {joined : γ → δ → Prop}
  {first : Except Fault α} {second : Except Fault β}

/-- Two steps end alike if the first of them do, and the second of them on related results. -/
theorem bind {next : α → Except Fault γ} {following : β → Except Fault δ}
    (before : EndAlike related first second)
    (after : ∀ left right, first = .ok left → second = .ok right → related left right →
      EndAlike joined (next left) (following right)) :
    EndAlike joined (first >>= next) (second >>= following) := by
  cases before with
  | failed fault => exact .failed fault
  | done alike => exact after _ _ rfl rfl alike

/-- Behind the same step, operations end alike if they do on its result. -/
theorem behind {next : α → Except Fault γ} {following : α → Except Fault δ}
    (after : ∀ value, first = .ok value → EndAlike joined (next value) (following value)) :
    EndAlike joined (first >>= next) (first >>= following) := by
  cases first with
  | error fault => exact .failed fault
  | ok value => exact after value rfl

/-- Results that are renamed are related if what they are renamed to is. -/
theorem map (before : EndAlike related first second) {rename : α → γ} {call : β → δ}
    (renamed : ∀ left right, related left right → joined (rename left) (call right)) :
    EndAlike joined (first.map rename) (second.map call) := by
  cases before with
  | failed fault => exact .failed fault
  | done alike => exact .done (renamed _ _ alike)

/-- The same check in front of operations that end alike. -/
theorem reject {condition : Prop} [Decidable condition] {fault : Fault}
    (passed : ¬ condition → EndAlike related first second) :
    EndAlike related (if condition then .error fault else first)
      (if condition then .error fault else second) := by
  by_cases refused : condition
  · rw [if_pos refused, if_pos refused]
    exact .failed fault
  · rw [if_neg refused, if_neg refused]
    exact passed refused

/-- What holds of related results may be added to the relation. -/
theorem imp {stronger : α → β → Prop} (before : EndAlike related first second)
    (more : ∀ left right, first = .ok left → second = .ok right → related left right →
      stronger left right) : EndAlike stronger first second := by
  cases before with
  | failed fault => exact .failed fault
  | done alike => exact .done (more _ _ rfl rfl alike)

/-- With a result of the first operation there is a related one of the second. -/
theorem exists_right (before : EndAlike related first second) {left : α}
    (made : first = .ok left) : ∃ right, second = .ok right ∧ related left right := by
  cases before with
  | failed fault => cases made
  | done alike =>
    cases made
    exact ⟨_, rfl, alike⟩

end EndAlike
end ArrayBlob
