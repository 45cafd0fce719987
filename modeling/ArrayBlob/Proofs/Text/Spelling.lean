import ArrayBlob.Bytes
import ArrayBlob.Text.Spelling
import Mathlib.Data.List.TakeWhile
import Mathlib.Data.Nat.Digits.Defs
import Mathlib.Tactic.Ring

/-!
# Numerals and blanks

What the numerals of settings are, as a grammar, and that the readers of numbers accept exactly the
numerals of the numbers in their range. Blanks around a text are dropped, however many there are.
-/

namespace ArrayBlob
namespace Text

/-! ## Numerals -/

/-- Some digits in front of others that denote a number, the first of them the highest. -/
structure Digits (chars : List Char) (n : Nat) : Prop where
  ne_nil : chars ≠ []
  isDigit : ∀ c ∈ chars, c.isDigit = true
  value : Nat.ofDigits 10 (chars.map fun c => c.toNat - '0'.toNat).reverse = n

/-- A numeral of a number that cannot be negative: digits behind an optional plus sign. -/
inductive NaturalNumeral : List Char → Nat → Prop
  | plain {chars : List Char} {n : Nat} (digits : Digits chars n) : NaturalNumeral chars n
  | plus {chars : List Char} {n : Nat} (digits : Digits chars n) : NaturalNumeral ('+' :: chars) n

/-- A numeral of a number: digits behind an optional sign. -/
inductive IntegerNumeral : List Char → Int → Prop
  | plain {chars : List Char} {n : Nat} (digits : Digits chars n) : IntegerNumeral chars n
  | plus {chars : List Char} {n : Nat} (digits : Digits chars n) : IntegerNumeral ('+' :: chars) n
  | minus {chars : List Char} {n : Nat} (digits : Digits chars n) :
      IntegerNumeral ('-' :: chars) (-n)

variable {chars : List Char} {n : Nat}

/-- Digits that are read behind a number: it is raised by a power of ten for each of them, and their
own number is added. -/
theorem digitsValue_of_isDigit (digits : ∀ c ∈ chars, c.isDigit = true) (start : Nat) :
    digitsValue chars start = some (start * 10 ^ chars.length
      + Nat.ofDigits 10 (chars.map fun c => c.toNat - '0'.toNat).reverse) := by
  induction chars generalizing start with
  | nil => simp [digitsValue]
  | cons c rest ih =>
    rw [List.forall_mem_cons] at digits
    rw [digitsValue, if_pos digits.1, ih digits.2, Option.some.injEq, List.map_cons,
      List.reverse_cons, Nat.ofDigits_append, List.length_reverse, List.length_map,
      Nat.ofDigits_singleton, List.length_cons]
    ring

theorem isDigit_of_digitsValue {start : Nat} (read : digitsValue chars start = some n) :
    ∀ c ∈ chars, c.isDigit = true := by
  induction chars generalizing start with
  | nil => simp
  | cons c rest ih =>
    rw [digitsValue] at read
    split at read
    · next first => exact List.forall_mem_cons.2 ⟨first, ih read⟩
    · cases read

theorem unsigned?_eq_some_iff : unsigned? chars = some n ↔ Digits chars n := by
  unfold unsigned?
  cases chars with
  | nil => exact iff_of_false (by simp) fun digits => digits.ne_nil rfl
  | cons c rest =>
    rw [List.isEmpty_cons, if_neg Bool.false_ne_true]
    constructor
    · intro read
      have digits := isDigit_of_digitsValue read
      rw [digitsValue_of_isDigit digits, Nat.zero_mul, Nat.zero_add, Option.some.injEq] at read
      exact ⟨List.cons_ne_nil c rest, digits, read⟩
    · intro digits
      rw [digitsValue_of_isDigit digits.isDigit, Nat.zero_mul, Nat.zero_add, digits.value]

/-- Digits start with no sign. -/
theorem not_digits_cons {sign : Char} (other : sign.isDigit = false) : ¬ Digits (sign :: chars) n :=
  fun digits => by
    rw [digits.isDigit sign List.mem_cons_self] at other
    cases other

/-- The numbers below a bound are read from their numerals and from nothing else. -/
theorem natBelow?_eq_some_iff {bound : Nat} {text : String} :
    natBelow? bound text = some n ↔ NaturalNumeral text.toList n ∧ n < bound := by
  unfold natBelow?
  rw [Option.filter_eq_some_iff, decide_eq_true_eq]
  refine and_congr_left fun _ => ?_
  split
  · next chars shape =>
    rw [unsigned?_eq_some_iff, shape]
    constructor
    · exact .plus
    · rintro (digits | digits)
      · exact absurd digits (not_digits_cons rfl)
      · exact digits
  · next chars other =>
    rw [unsigned?_eq_some_iff]
    constructor
    · exact .plain
    · intro numeral
      generalize text.toList = chars at numeral other
      cases numeral with
      | plain digits => exact digits
      | plus digits => exact absurd rfl (other _)

/-- The numbers of a range are read from their numerals and from nothing else. -/
theorem intWithin?_eq_some_iff {bound : Nat} {text : String} {number : Int} :
    intWithin? bound text = some number
      ↔ IntegerNumeral text.toList number ∧ -(bound : Int) ≤ number ∧ number < bound := by
  unfold intWithin?
  rw [Option.filter_eq_some_iff, Bool.and_eq_true, decide_eq_true_eq, decide_eq_true_eq]
  refine and_congr_left fun _ => ?_
  generalize text.toList = chars
  split
  · next chars =>
    simp only [Option.map_eq_some_iff, unsigned?_eq_some_iff]
    constructor
    · rintro ⟨n, digits, rfl⟩
      exact .plus digits
    · rintro (digits | digits)
      · exact absurd digits (not_digits_cons rfl)
      · exact ⟨_, digits, rfl⟩
  · next chars =>
    simp only [Option.map_eq_some_iff, bind, Option.bind_eq_some_iff, pure, Option.some.injEq,
      unsigned?_eq_some_iff]
    constructor
    · rintro ⟨-, ⟨n, digits, rfl⟩, rfl⟩
      exact .minus digits
    · rintro (digits | - | digits)
      · exact absurd digits (not_digits_cons rfl)
      · exact ⟨_, ⟨_, digits, rfl⟩, rfl⟩
  · next chars notPlus notMinus =>
    simp only [Option.map_eq_some_iff, unsigned?_eq_some_iff]
    constructor
    · rintro ⟨n, digits, rfl⟩
      exact .plain digits
    · intro numeral
      cases numeral with
      | plain digits => exact ⟨_, digits, rfl⟩
      | plus digits => exact absurd rfl (notPlus _)
      | minus digits => exact absurd rfl (notMinus _)

/-! ## Blanks -/

/-- A text with blanks around another. -/
def Pads (padded text : String) : Prop :=
  ∃ front back : List Char, (∀ c ∈ front, isBlank c = true) ∧ (∀ c ∈ back, isBlank c = true)
    ∧ padded.toList = front ++ (text.toList ++ back)

theorem trimChars_append {front back : List Char} (blankFront : ∀ c ∈ front, isBlank c = true)
    (blankBack : ∀ c ∈ back, isBlank c = true) (chars : List Char) :
    trimChars (front ++ (chars ++ back)) = trimChars chars := by
  have blankReverse : ∀ c ∈ back.reverse, isBlank c = true :=
    fun c member => blankBack c (List.mem_reverse.1 member)
  unfold trimChars
  rw [List.dropWhile_append_of_pos blankFront, List.dropWhile_append]
  split
  · next empty =>
    rw [List.isEmpty_iff.1 empty, List.dropWhile_eq_nil_iff.2 blankBack]
  · rw [List.reverse_append, List.dropWhile_append_of_pos blankReverse]

/-- Blanks around a text make no difference once they are dropped. -/
theorem trim_of_pads {padded text : String} (pads : Pads padded text) :
    trim padded = trim text := by
  obtain ⟨front, back, blankFront, blankBack, shape⟩ := pads
  rw [trim, trim, shape, trimChars_append blankFront blankBack]

end Text
end ArrayBlob
