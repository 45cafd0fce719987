import ArrayBlob.Json.Value
import ArrayBlob.Text.Utf16

/-!
# Reading JSON

The reader accepts a value with blanks around it and nothing else. Every function takes what it
reads from the front of the text and returns the rest. The depth of the recursion is bounded by the
length of the text, since every step into a value takes at least one character.
-/

namespace ArrayBlob
namespace Json

/-- The characters that may stand between the parts of a text. -/
def isSpace (c : Char) : Bool :=
  c = ' ' || c = '\t' || c = '\n' || c = '\r'

/-- Drops the blanks in front. -/
def skipSpaces (chars : List Char) : List Char :=
  chars.dropWhile isSpace

/-- The value of a decimal digit. -/
def digitValue (c : Char) : Nat :=
  c.toNat - '0'.toNat

/-- The digits in front and the rest. -/
def readDigits (chars : List Char) : List Nat × List Char :=
  ((chars.takeWhile Char.isDigit).map digitValue, chars.dropWhile Char.isDigit)

/-- The digits in front and the rest, if there is a digit. -/
def readSomeDigits (chars : List Char) : Option (List Nat × List Char) :=
  match readDigits chars with
  | ([], _) => none
  | result => some result

/-- The whole part of a number: digits of which the first is zero only if it is the last. -/
def readWhole (chars : List Char) : Option (Nat × List Char) :=
  match readDigits chars with
  | ([], _) => none
  | (0 :: _ :: _, _) => none
  | (digits, rest) => some (Number.appendDigits 0 digits, rest)

/-- The digits behind a point, or none without one. -/
def readFraction (chars : List Char) : Option (List Nat × List Char) :=
  match chars with
  | '.' :: rest => readSomeDigits rest
  | rest => some ([], rest)

/-- The digits of a power of ten, behind its optional sign. -/
def readPower (chars : List Char) : Option (Int × List Char) :=
  let signed (negative : Bool) (chars : List Char) : Option (Int × List Char) :=
    (readSomeDigits chars).map fun (digits, rest) =>
      let power : Int := Number.appendDigits 0 digits
      (if negative then -power else power, rest)
  match chars with
  | '-' :: rest => signed true rest
  | '+' :: rest => signed false rest
  | rest => signed false rest

/-- The power of ten of a number, or none without one. -/
def readExponent (chars : List Char) : Option (Option Int × List Char) :=
  match chars with
  | c :: rest =>
    if c = 'e' ∨ c = 'E' then (readPower rest).map fun (power, rest) => (some power, rest)
    else some (none, c :: rest)
  | [] => some (none, [])

/-- A number without its sign. -/
def readUnsigned (negative : Bool) (chars : List Char) : Option (Json × List Char) := do
  let (whole, rest) ← readWhole chars
  let (fraction, rest) ← readFraction rest
  let (exponent, rest) ← readExponent rest
  return (number ⟨negative, whole, fraction, exponent⟩, rest)

/-- A number. -/
def readNumber (chars : List Char) : Option (Json × List Char) :=
  match chars with
  | '-' :: rest => readUnsigned true rest
  | rest => readUnsigned false rest

/-- The value of a hexadecimal digit in letters of either case. -/
def hexValue? (c : Char) : Option Nat :=
  if c.isDigit then some (digitValue c)
  else if 'a' ≤ c ∧ c ≤ 'f' then some (c.toNat - 'a'.toNat + 10)
  else if 'A' ≤ c ∧ c ≤ 'F' then some (c.toNat - 'A'.toNat + 10)
  else none

/-- The unit of four hexadecimal digits. -/
def hexUnit? (a b c d : Char) : Option UInt16 := do
  let a ← hexValue? a
  let b ← hexValue? b
  let c ← hexValue? c
  let d ← hexValue? d
  return UInt16.ofNat (4096 * a + 256 * b + 16 * c + d)

/-- The character of an escape of one letter. -/
def simpleEscape? (c : Char) : Option Char :=
  if c = '"' ∨ c = '\\' ∨ c = '/' then some c
  else if c = 'b' then some '\x08'
  else if c = 'f' then some '\x0c'
  else if c = 'n' then some '\n'
  else if c = 'r' then some '\r'
  else if c = 't' then some '\t'
  else none

/-- The units of a string up to its closing quote, behind those already read in reverse. -/
def readUnits (units : List UInt16) : List Char → Option (List UInt16 × List Char)
  | [] => none
  | c :: rest =>
    if c = '"' then some (units.reverse, rest)
    else if c = '\\' then
      match rest with
      | [] => none
      | letter :: rest =>
        if letter = 'u' then
          match rest with
          | a :: b :: c :: d :: rest =>
            match hexUnit? a b c d with
            | some unit => readUnits (unit :: units) rest
            | none => none
          | _ => none
        else
          match simpleEscape? letter with
          | some c => readUnits ((Utf16.encodeChar c).reverse ++ units) rest
          | none => none
    else if c.toNat < 0x20 then none
    else readUnits ((Utf16.encodeChar c).reverse ++ units) rest

/-- The text of a string behind its opening quote. -/
def readString (chars : List Char) : Option (Option String × List Char) :=
  (readUnits [] chars).map fun (units, rest) =>
    ((Utf16.decode units).map String.ofList, rest)

mutual

/-- A value, with at most `depth` steps. -/
def readValue : Nat → List Char → Option (Json × List Char)
  | 0, _ => none
  | depth + 1, chars =>
    match skipSpaces chars with
    | 'n' :: 'u' :: 'l' :: 'l' :: rest => some (null, rest)
    | 't' :: 'r' :: 'u' :: 'e' :: rest => some (bool true, rest)
    | 'f' :: 'a' :: 'l' :: 's' :: 'e' :: rest => some (bool false, rest)
    | '"' :: rest => (readString rest).map fun (text, rest) => (string text, rest)
    | '[' :: rest =>
      match skipSpaces rest with
      | ']' :: rest => some (array [], rest)
      | rest => readElements depth [] rest
    | '\x7b' :: rest =>
      match skipSpaces rest with
      | '\x7d' :: rest => some (object [], rest)
      | rest => readMembers depth [] rest
    | rest => readNumber rest

/-- The elements of an array up to its end, behind those already read in reverse. -/
def readElements : Nat → List Json → List Char → Option (Json × List Char)
  | 0, _, _ => none
  | depth + 1, elements, chars =>
    match readValue depth chars with
    | none => none
    | some (element, rest) =>
      match skipSpaces rest with
      | ',' :: rest => readElements depth (element :: elements) rest
      | ']' :: rest => some (array (element :: elements).reverse, rest)
      | _ => none

/-- The members of an object up to its end, behind those already read in reverse. -/
def readMembers :
    Nat → List (Option String × Json) → List Char → Option (Json × List Char)
  | 0, _, _ => none
  | depth + 1, members, chars =>
    match skipSpaces chars with
    | '"' :: rest =>
      match readString rest with
      | none => none
      | some (name, rest) =>
        match skipSpaces rest with
        | ':' :: rest =>
          match readValue depth rest with
          | none => none
          | some (value, rest) =>
            match skipSpaces rest with
            | ',' :: rest => readMembers depth ((name, value) :: members) rest
            | '\x7d' :: rest => some (object ((name, value) :: members).reverse, rest)
            | _ => none
        | _ => none
    | _ => none

end

/-- The value of a text. -/
def read (chars : List Char) : Option Json :=
  match readValue (chars.length + 1) chars with
  | some (json, rest) => if (skipSpaces rest).isEmpty then some json else none
  | none => none

/-- The value of a text. -/
def ofString? (text : String) : Option Json :=
  read text.toList

end Json
end ArrayBlob
