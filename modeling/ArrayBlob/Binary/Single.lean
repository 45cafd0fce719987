import ArrayBlob.Binary.Double

/-!
# Singles

A single is its 32 bits. Widening to a double is exact. Narrowing rounds to nearest and overflows
to infinity; of a value that is not a number both keep the sign and the leading payload bits, with
the quiet bit set.
-/

namespace ArrayBlob

/-- A 32-bit floating-point number, by its bits. -/
structure Single where
  bits : UInt32
  deriving DecidableEq, Inhabited

namespace Single

/-- The single with a sign and a magnitude. -/
def ofMagnitude (negative : Bool) (magnitude : Nat) : Single :=
  ⟨UInt32.ofNat (if negative then 2 ^ 31 + magnitude else magnitude)⟩

/-- The sign bit is set. -/
def isNegative (x : Single) : Bool :=
  2 ^ 31 ≤ x.bits.toNat

/-- The bits below the sign. -/
def magnitude (x : Single) : Nat :=
  x.bits.toNat % 2 ^ 31

/-- Not a number. -/
def isNaN (x : Single) : Bool :=
  Format.single.infinity < x.magnitude

/-- Either infinity. -/
def isInfinite (x : Single) : Bool :=
  x.magnitude = Format.single.infinity

/-- The bit that tells the quiet values that are not a number from the others. -/
def quietBit : Nat := 2 ^ 22

/-- The number of payload bits that a double has more than a single. -/
def extraPayload : Nat := 29

/-- The double with the value of a single. -/
def toDouble (x : Single) : Double :=
  if x.isNaN then
    let payload := x.magnitude - Format.single.infinity ||| quietBit
    Double.ofMagnitude x.isNegative (Format.double.infinity + payload * 2 ^ extraPayload)
  else if x.isInfinite then Double.infinity x.isNegative
  else
    Double.ofDyadic x.isNegative (Format.single.significand x.magnitude)
      (Format.single.place x.magnitude)

/-- The single nearest to a double. -/
def ofDouble (x : Double) : Single :=
  if x.isNaN then
    let payload := (x.magnitude - Format.double.infinity) / 2 ^ extraPayload ||| quietBit
    ofMagnitude x.isNegative (Format.single.infinity + payload)
  else if x.isInfinite then ofMagnitude x.isNegative Format.single.infinity
  else ofMagnitude x.isNegative (Format.single.roundDyadic x.significand x.place)

end Single
end ArrayBlob
