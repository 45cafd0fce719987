import ArrayBlob.Json.Value

/-!
# Writing JSON

Values are written without blanks. In strings the quote, the backslash and the controls are escaped,
the controls with a letter of their own by that letter, and nothing else is.
-/

namespace ArrayBlob
namespace Json

/-- A hexadecimal digit. -/
def hexDigit (n : Nat) : Char :=
  (Nat.digitChar n).toLower

/-- The escape of a code below 65536. -/
def unitEscape (code : Nat) : List Char :=
  ['\\', 'u', hexDigit (code / 4096 % 16), hexDigit (code / 256 % 16), hexDigit (code / 16 % 16),
    hexDigit (code % 16)]

/-- The written form of a character inside a string. -/
def writeChar (c : Char) : List Char :=
  if c = '"' then ['\\', '"']
  else if c = '\\' then ['\\', '\\']
  else if c = '\x08' then ['\\', 'b']
  else if c = '\t' then ['\\', 't']
  else if c = '\n' then ['\\', 'n']
  else if c = '\x0c' then ['\\', 'f']
  else if c = '\r' then ['\\', 'r']
  else if c.toNat < 0x20 then unitEscape c.toNat
  else [c]

/-- The written form of a string. A string without a text is written as an unpaired surrogate. -/
def writeString (text : Option String) : List Char :=
  match text with
  | some text => '"' :: (text.toList.flatMap writeChar ++ ['"'])
  | none => '"' :: (unitEscape 0xD800 ++ ['"'])

/-- The written form of the digits behind a point, with the point if there are any. -/
def writeFraction : List Nat → List Char
  | [] => []
  | digit :: digits => '.' :: (digit :: digits).map Nat.digitChar

/-- The written form of a power of ten, if there is one; its sign is always written. -/
def writeExponent : Option Int → List Char
  | none => []
  | some power => 'e' :: (if power < 0 then '-' else '+') :: Nat.toDigits 10 power.natAbs

/-- The written form of a number. -/
def writeNumber (number : Number) : List Char :=
  let unsigned :=
    Nat.toDigits 10 number.whole ++ (writeFraction number.fraction ++ writeExponent number.exponent)
  if number.negative then '-' :: unsigned else unsigned

mutual

/-- The written form of a value. -/
def write : Json → List Char
  | null => ['n', 'u', 'l', 'l']
  | bool true => ['t', 'r', 'u', 'e']
  | bool false => ['f', 'a', 'l', 's', 'e']
  | number literal => writeNumber literal
  | string text => writeString text
  | array elements => '[' :: (writeElements elements ++ [']'])
  | object members => '\x7b' :: (writeMembers members ++ ['\x7d'])

/-- The written form of the elements of an array. -/
def writeElements : List Json → List Char
  | [] => []
  | [element] => write element
  | element :: next :: rest => write element ++ ',' :: writeElements (next :: rest)

/-- The written form of the members of an object. -/
def writeMembers : List (Option String × Json) → List Char
  | [] => []
  | [(name, value)] => writeString name ++ ':' :: write value
  | (name, value) :: next :: rest =>
    writeString name ++ ':' :: (write value ++ ',' :: writeMembers (next :: rest))

end

/-- The text of a value. -/
def toText (json : Json) : String :=
  String.ofList json.write

end Json
end ArrayBlob
