/-!
# The spelling of settings

A setting is trimmed of the characters with the Unicode property White_Space, and names are compared
without regard to the case of the letters `A` to `Z`. Whole numbers are spelled in the digits `0` to
`9`, with an optional sign where the range has negative numbers. A numeral out of its range is
refused like one that is malformed.
-/

namespace ArrayBlob
namespace Text

/-! ## White space and letter case -/

/-- The character has the property White_Space. -/
def isBlank (c : Char) : Bool :=
  let code := c.toNat
  (0x09 ≤ code && code ≤ 0x0D) || code == 0x20 || code == 0x85 || code == 0xA0 || code == 0x1680
    || (0x2000 ≤ code && code ≤ 0x200A) || code == 0x2028 || code == 0x2029 || code == 0x202F
    || code == 0x205F || code == 0x3000

/-- Drops the blanks at both ends. -/
def trimChars (chars : List Char) : List Char :=
  ((chars.dropWhile isBlank).reverse.dropWhile isBlank).reverse

/-- Drops the blanks at both ends of a text. -/
def trim (text : String) : String :=
  String.ofList (trimChars text.toList)

/-- The letters of a text with the case of `A` to `Z` removed. -/
def foldCase (text : String) : List Char :=
  text.toList.map Char.toLower

/-- The two texts differ at most in the case of the letters `A` to `Z`. -/
def sameIgnoringCase (left right : String) : Bool :=
  foldCase left == foldCase right

@[simp]
theorem sameIgnoringCase_iff {left right : String} :
    sameIgnoringCase left right = true ↔ foldCase left = foldCase right := by
  simp [sameIgnoringCase]

/-! ## Decimal numerals -/

/-- The number that a run of digits spells, when every character is a digit. -/
def digitsValue : List Char → Nat → Option Nat
  | [], value => some value
  | c :: rest, value =>
    if c.isDigit then digitsValue rest (10 * value + (c.toNat - '0'.toNat)) else none

/-- The number that a non-empty run of digits spells. -/
def unsigned? (chars : List Char) : Option Nat :=
  if chars.isEmpty then none else digitsValue chars 0

/-- The number below a bound that a numeral spells; a plus sign may stand in front. -/
def natBelow? (bound : Nat) (text : String) : Option Nat :=
  let value := match text.toList with
    | '+' :: rest => unsigned? rest
    | chars => unsigned? chars
  value.filter (· < bound)

/-- The number from `-bound` to below `bound` that a numeral spells; a sign may stand in front. -/
def intWithin? (bound : Nat) (text : String) : Option Int :=
  let value : Option Int := match text.toList with
    | '+' :: rest => (unsigned? rest).map Int.ofNat
    | '-' :: rest => (unsigned? rest).map fun n => -(n : Int)
    | chars => (unsigned? chars).map Int.ofNat
  value.filter fun n => -(bound : Int) ≤ n && n < bound

end Text
end ArrayBlob
