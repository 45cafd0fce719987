import ArrayBlob.Binary.Double

/-!
# Shortest decimal digits of a double

Among the decimals that read back as a double the shortest is chosen, and of several shortest the
nearest, a tie going to the even last digit. For each number of digits only the two neighbours of
the double on the grid of that many digits can qualify, and both are tested in exact arithmetic.
-/

namespace ArrayBlob
namespace Decimal

/-- A decimal: digits as one number, and the exponent of ten of the last of them. -/
structure Digits where
  value : Nat
  exponent : Int
  deriving DecidableEq, Repr

/-- The number of decimal digits of a number, and zero for zero. -/
def digitCount (n : Nat) : Nat :=
  if n = 0 then 0 else (Nat.toDigits 10 n).length

/-- The largest `e` such that `10 ^ e` is at most the positive ratio. -/
def decimalExponent (numerator denominator : Nat) : Int :=
  if denominator ≤ numerator then digitCount (numerator / denominator) - 1
  else -(digitCount ((denominator - 1) / numerator) : Int)

/-- A positive double and the ends of the interval of numbers that round to it, as multiples of
`1 / denominator`. -/
structure Interval where
  low : Nat
  value : Nat
  high : Nat
  denominator : Nat
  /-- The ends round to the double too. -/
  closed : Bool

/-- The interval of the numbers that round to a finite double other than zero. Below the first
double of a binade the neighbours are half as far apart. -/
def Interval.ofDouble (x : Double) : Interval :=
  let count := x.significand
  let narrow := count = Format.double.binade ∧ Format.double.lowestPlace < x.place
  let place := x.place - 2
  let up := 2 ^ place.toNat
  { low := (if narrow then 4 * count - 1 else 4 * count - 2) * up
    value := 4 * count * up
    high := (4 * count + 2) * up
    denominator := 2 ^ (-place).toNat
    closed := count % 2 = 0 }

/-- The decimal `digits * 10 ^ exponent` lies in an interval. -/
def Interval.holds (interval : Interval) (digits : Nat) (exponent : Int) : Bool :=
  let scaled := digits * 10 ^ exponent.toNat * interval.denominator
  let unit := 10 ^ (-exponent).toNat
  if interval.closed then
    interval.low * unit ≤ scaled && scaled ≤ interval.high * unit
  else
    interval.low * unit < scaled && scaled < interval.high * unit

/-- The decimal nearest to a double among its two neighbours on a grid that lie in its
interval. -/
def Interval.nearestOn (interval : Interval) (exponent : Int) : Option Nat :=
  let numerator := interval.value * 10 ^ (-exponent).toNat
  let denominator := interval.denominator * 10 ^ exponent.toNat
  let below := numerator / denominator
  let nearer := nearestEven numerator denominator
  let other := if nearer = below then below + 1 else below
  if interval.holds nearer exponent then some nearer
  else if interval.holds other exponent then some other
  else none

/-- The decimal on the coarsest of some grids that has one. -/
def Interval.firstOn (interval : Interval) (exponent : Int) : Nat → Digits
  | 0 => ⟨(interval.nearestOn exponent).getD 0, exponent⟩
  | finer + 1 =>
    match interval.nearestOn exponent with
    | some digits => ⟨digits, exponent⟩
    | none => interval.firstOn (exponent - 1) finer

/-- The number of digits that always suffice. -/
def enoughDigits : Nat := 17

/-- The shortest digits of a finite double other than zero. -/
def shortest (x : Double) : Digits :=
  let interval := Interval.ofDouble x
  interval.firstOn (decimalExponent interval.value interval.denominator) enoughDigits

/-- The digits from the first one that is not zero to the last one that is not, and the exponent of
ten of the first. -/
def scientific (digits : Digits) : List Nat × Int :=
  let written := (Nat.toDigits 10 digits.value).map fun c => c.toNat - '0'.toNat
  let exponent := digits.exponent + (written.length - 1 : Nat)
  ((written.reverse.dropWhile (· == 0)).reverse, exponent)

end Decimal
end ArrayBlob
