import ArrayBlob.Decimal

/-!
# Numbers in JSON texts

A literal keeps the parts it is written with, because whether it counts as an integer depends on its
spelling. A double is written with the fewest digits that identify it. It is read in two roundings:
the digits are gathered into a significand of 64 bits, and the significand is scaled by one power of
ten. So a double that was written may be read as one of its neighbours.
-/

namespace ArrayBlob

/-- A number as it is written: sign, whole part, digits behind the point and power of ten. -/
structure Number where
  negative : Bool
  whole : Nat
  fraction : List Nat
  exponent : Option Int
  deriving DecidableEq, Repr

namespace Number

/-- The literal of a whole number. -/
def ofInt (n : Int) : Number :=
  ⟨n < 0, n.natAbs, [], none⟩

/-- The whole number that a literal spells. One with a point or a power of ten spells none, and
neither does a negative zero. -/
def toInt? (number : Number) : Option Int :=
  if number.fraction.isEmpty && number.exponent.isNone then
    if number.negative then
      if number.whole = 0 then none else some (-(number.whole : Int))
    else some number.whole
  else none

/-- The digits of a list after those of a number. -/
def appendDigits (start : Nat) (digits : List Nat) : Nat :=
  digits.foldl (fun value digit => 10 * value + digit) start

/-- Significands stay below this bound. -/
def significandLimit : Nat := 2 ^ 64

/-- The longest run of leading digits of a number that stays below the bound, as a number, and how
many digits stand behind it. -/
def leadingDigits (n : Nat) : Nat × Nat :=
  if n < significandLimit then (n, 0)
  else
    let (leading, behind) := leadingDigits (n / 10)
    (leading, behind + 1)
termination_by n
decreasing_by
  simp only [significandLimit, Nat.not_lt] at *
  omega

/-- Appends digits to a number up to the first one that takes it to the bound. Returned with the
number is how many digits were appended. -/
def appendWithinLimit (value : Nat) : List Nat → Nat × Nat
  | [] => (value, 0)
  | digit :: digits =>
    let longer := 10 * value + digit
    if longer < significandLimit then
      let (value, appended) := appendWithinLimit longer digits
      (value, appended + 1)
    else (value, 0)

/-- The significand of a literal and its power of ten. Whole digits that do not fit into the
significand raise the power, and the digits behind the point that fit lower it. -/
def significand (number : Number) : Nat × Int :=
  let (leading, behind) := leadingDigits number.whole
  let (value, appended) := appendWithinLimit leading number.fraction
  (value, number.exponent.getD 0 + behind - appended)

/-- The greatest exponent of ten of a finite double. -/
def greatestPower : Nat := 308

/-- A power of ten. -/
def powerOfTen (exponent : Nat) : Double :=
  Double.ofNat (10 ^ exponent)

/-- The product with a power of ten, unless it is out of range. -/
def scaleUp? (x : Double) (exponent : Nat) : Option Double :=
  if exponent ≤ greatestPower then
    let scaled := x * powerOfTen exponent
    if scaled.isInfinite then none else some scaled
  else if x.isZero then some x
  else none

/-- The quotient by a power of ten. Beyond the greatest power it is taken in steps, each of them
rounded. -/
def scaleDown (x : Double) (exponent : Nat) : Double :=
  if exponent ≤ greatestPower then x / powerOfTen exponent
  else if x.isZero then x
  else scaleDown (x / powerOfTen greatestPower) (exponent - greatestPower)
termination_by exponent
decreasing_by
  simp only [greatestPower, Nat.not_le] at *
  omega

/-- The double that a literal is read as, unless it is out of range: its significand, rounded to a
double, times or over its power of ten, rounded again. Since it is rounded twice it need not be the
double nearest to the literal. -/
def toDouble? (number : Number) : Option Double :=
  let (value, exponent) := number.significand
  let magnitude :=
    if exponent < 0 then some (scaleDown (Double.ofNat value) exponent.natAbs)
    else scaleUp? (Double.ofNat value) exponent.natAbs
  magnitude.map fun x => if number.negative then x.neg else x

/-- The lowest exponent of ten that is written with a point alone. -/
def lowestPlain : Int := -5

/-- The lowest exponent of ten from which on numbers are written with a power of ten again. -/
def plainLimit : Int := 16

/-- The literal of digits whose first one has some exponent of ten. A plain literal has a digit
behind the point even where none is needed. -/
def ofScientific (negative : Bool) (digits : List Nat) (exponent : Int) : Number :=
  if exponent < lowestPlain ∨ plainLimit ≤ exponent then
    ⟨negative, digits.headD 0, digits.tail, some exponent⟩
  else if exponent < 0 then
    ⟨negative, 0, List.replicate (-exponent - 1).toNat 0 ++ digits, none⟩
  else
    let wholeCount := exponent.toNat + 1
    let padded := digits ++ List.replicate (wholeCount + 1 - digits.length) 0
    ⟨negative, appendDigits 0 (padded.take wholeCount), padded.drop wholeCount, none⟩

/-- The literal of a finite double. -/
def ofDouble (x : Double) : Number :=
  if x.isZero then ⟨x.isNegative, 0, [0], none⟩
  else
    let (digits, exponent) := Decimal.scientific (Decimal.shortest x)
    ofScientific x.isNegative digits exponent

end Number
end ArrayBlob
