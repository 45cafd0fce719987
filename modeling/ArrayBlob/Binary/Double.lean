import ArrayBlob.Binary.Format

/-!
# Doubles

A double is its 64 bits. Classification and order read the bits, and arithmetic computes the exact
result and rounds it once, so nothing here depends on the machine. An operation without a numeric
result gives the one canonical `nan`.
-/

namespace ArrayBlob

/-- A 64-bit floating-point number, by its bits. -/
structure Double where
  bits : UInt64
  deriving DecidableEq, Inhabited

namespace Double

/-- The double with a sign and a magnitude. -/
def ofMagnitude (negative : Bool) (magnitude : Nat) : Double :=
  ⟨UInt64.ofNat (if negative then 2 ^ 63 + magnitude else magnitude)⟩

/-- The sign bit is set. -/
def isNegative (x : Double) : Bool :=
  2 ^ 63 ≤ x.bits.toNat

/-- The bits below the sign. -/
def magnitude (x : Double) : Nat :=
  x.bits.toNat % 2 ^ 63

/-- The exponent bits are not all ones. -/
def isFinite (x : Double) : Bool :=
  x.magnitude < Format.double.infinity

/-- Either infinity. -/
def isInfinite (x : Double) : Bool :=
  x.magnitude = Format.double.infinity

/-- Not a number. -/
def isNaN (x : Double) : Bool :=
  Format.double.infinity < x.magnitude

/-- Either zero. -/
def isZero (x : Double) : Bool :=
  x.magnitude = 0

/-- The canonical value that is not a number. -/
def nan : Double := ⟨0x7FF8000000000000⟩

/-- Infinity with a sign. -/
def infinity (negative : Bool) : Double :=
  ofMagnitude negative Format.double.infinity

/-- Zero with a sign. -/
def zero (negative : Bool) : Double :=
  ofMagnitude negative 0

/-- The double nearest to a ratio with a sign. -/
def ofRatio (negative : Bool) (numerator denominator : Nat) : Double :=
  ofMagnitude negative (Format.double.round numerator denominator)

/-- The double nearest to a whole number. -/
def ofNat (n : Nat) : Double :=
  ofRatio false n 1

/-- The number of last places in a finite double. -/
def significand (x : Double) : Nat :=
  Format.double.significand x.magnitude

/-- The exponent of the last place of a finite double. -/
def place (x : Double) : Int :=
  Format.double.place x.magnitude

/-- The double nearest to `significand * 2 ^ place` with a sign. -/
def ofDyadic (negative : Bool) (significand : Nat) (place : Int) : Double :=
  ofMagnitude negative (Format.double.roundDyadic significand place)

/-- The same number with the other sign. -/
def neg (x : Double) : Double :=
  ofMagnitude (!x.isNegative) x.magnitude

/-- The signed number of units `2 ^ place` in a finite double whose own place is not lower. -/
def units (x : Double) (place : Int) : Int :=
  let count : Int := x.significand * 2 ^ (x.place - place).toNat
  if x.isNegative then -count else count

/-- The rounded sum. A sum that cancels is a positive zero. -/
def add (x y : Double) : Double :=
  if x.isNaN || y.isNaN then nan
  else if x.isInfinite then
    if y.isInfinite && x.isNegative != y.isNegative then nan else x
  else if y.isInfinite then y
  else if x.isZero && y.isZero then zero (x.isNegative && y.isNegative)
  else
    let place := min x.place y.place
    let sum := x.units place + y.units place
    ofDyadic (sum < 0) sum.natAbs place

/-- The rounded difference. -/
def sub (x y : Double) : Double :=
  if y.isNaN then nan else add x y.neg

/-- The rounded product. -/
def mul (x y : Double) : Double :=
  let negative := x.isNegative != y.isNegative
  if x.isNaN || y.isNaN then nan
  else if x.isInfinite || y.isInfinite then
    if x.isZero || y.isZero then nan else infinity negative
  else ofDyadic negative (x.significand * y.significand) (x.place + y.place)

/-- The rounded quotient. -/
def div (x y : Double) : Double :=
  let negative := x.isNegative != y.isNegative
  if x.isNaN || y.isNaN then nan
  else if x.isInfinite then
    if y.isInfinite then nan else infinity negative
  else if y.isInfinite then zero negative
  else if y.isZero then
    if x.isZero then nan else infinity negative
  else
    let place := x.place - y.place
    ofRatio negative (x.significand * 2 ^ place.toNat) (y.significand * 2 ^ (-place).toNat)

instance : Add Double := ⟨add⟩
instance : Sub Double := ⟨sub⟩
instance : Mul Double := ⟨mul⟩
instance : Div Double := ⟨div⟩

/-- The whole part as a 16-bit number: out of range it stops at the nearer end, and what is no
number gives zero. -/
def toUInt16 (x : Double) : UInt16 :=
  if x.isNaN || x.isNegative then 0
  else if x.isInfinite then 0xFFFF
  else
    let whole := x.significand * 2 ^ x.place.toNat / 2 ^ (-x.place).toNat
    UInt16.ofNat (min whole 0xFFFF)

/-- A whole number that orders the doubles that are numbers as they are ordered on the line. -/
def orderKey (x : Double) : Int :=
  if x.isNegative then -x.magnitude else x.magnitude

end Double
end ArrayBlob
