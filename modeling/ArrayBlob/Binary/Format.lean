import ArrayBlob.Bytes

/-!
# Binary floating-point formats

A format is fixed by its precision and the width of its exponent field. Its magnitudes are the
words without the sign bit, ordered like the numbers they stand for, with infinity as the first
word above the finite ones. `Format.round` sends an exact ratio to the magnitude nearest to it;
every conversion and every arithmetic operation of the library is an exact ratio that is rounded
this way once.
-/

namespace ArrayBlob

/-- The quotient rounded to the nearest whole number, a half going to the even neighbour. -/
def nearestEven (numerator denominator : Nat) : Nat :=
  let quotient := numerator / denominator
  let remainder := numerator % denominator
  if 2 * remainder < denominator then quotient
  else if denominator < 2 * remainder then quotient + 1
  else quotient + quotient % 2

/-- The largest `e` such that `2 ^ e` is at most the positive ratio. -/
def binaryExponent (numerator denominator : Nat) : Int :=
  let guess : Int := numerator.log2 - denominator.log2
  if denominator * 2 ^ guess.toNat ≤ numerator * 2 ^ (-guess).toNat then guess else guess - 1

/-- A binary floating-point format. -/
structure Format where
  /-- Significant bits, the implicit leading one included. -/
  precision : Nat
  /-- Bits of the exponent field. -/
  exponentBits : Nat

namespace Format

/-- The 64-bit format. -/
def double : Format := ⟨53, 11⟩

/-- The 32-bit format. -/
def single : Format := ⟨24, 8⟩

/-- The number of magnitudes that share an exponent. -/
def binade (format : Format) : Nat :=
  2 ^ (format.precision - 1)

/-- The magnitude of infinity. Those below it are finite and those above it are no numbers. -/
def infinity (format : Format) : Nat :=
  (2 ^ format.exponentBits - 1) * format.binade

/-- The exponent of the last place of the smallest positive number. -/
def lowestPlace (format : Format) : Int :=
  3 - 2 ^ (format.exponentBits - 1) - format.precision

/-- The whole number of last places in a finite magnitude. -/
def significand (format : Format) (magnitude : Nat) : Nat :=
  if magnitude < format.binade then magnitude
  else format.binade + magnitude % format.binade

/-- How far the last place of a finite magnitude lies above the lowest one. -/
def steps (format : Format) (magnitude : Nat) : Nat :=
  magnitude / format.binade - 1

/-- The exponent of the last place of a finite magnitude. -/
def place (format : Format) (magnitude : Nat) : Int :=
  format.lowestPlace + format.steps magnitude

/-- The magnitude nearest to a ratio, a tie going to the even one. A ratio that is nearer to the
first power of two out of range than to the largest finite number goes to infinity. -/
def round (format : Format) (numerator denominator : Nat) : Nat :=
  if numerator = 0 then 0
  else
    let exponent := binaryExponent numerator denominator
    let place := max format.lowestPlace (exponent + 1 - format.precision)
    let count :=
      nearestEven (numerator * 2 ^ (-place).toNat) (denominator * 2 ^ place.toNat)
    min format.infinity ((place - format.lowestPlace).toNat * format.binade + count)

/-- The magnitude nearest to `significand * 2 ^ place`. -/
def roundDyadic (format : Format) (significand : Nat) (place : Int) : Nat :=
  format.round (significand * 2 ^ place.toNat) (2 ^ (-place).toNat)

theorem round_le_infinity (format : Format) (numerator denominator : Nat) :
    format.round numerator denominator ≤ format.infinity := by
  unfold round
  split
  · exact Nat.zero_le _
  · exact Nat.min_le_left _ _

theorem infinity_double : double.infinity = 0x7FF0000000000000 := by decide

theorem infinity_single : single.infinity = 0x7F800000 := by decide

end Format
end ArrayBlob
