import ArrayBlob.Binary.Double

/-!
# Scaling between quantities and codes

An interval of quantities is divided into equal steps, and a quantity is coded by the number of
steps that it lies above the lower end. The formulas are stated for any number system, so that the
law they obey in exact arithmetic and what they do with doubles are statements about the same
definitions.

Zeros, infinities and values that are not a number are no points of an interval. The codes of the
others are kept at multiples of 8, which leaves the last seven codes free for these special values.
-/

namespace ArrayBlob

/-! ## Special values -/

/-- A value with a code of its own. -/
inductive Special
  | positiveZero
  | negativeZero
  | positiveInfinity
  | negativeInfinity
  | notANumber
  deriving DecidableEq, Repr

namespace Special

/-- All special values in the order of their codes. -/
def all : List Special :=
  [positiveZero, negativeZero, positiveInfinity, negativeInfinity, notANumber]

/-- The code of a special value. -/
def code : Special → UInt16
  | positiveZero => 0xFFF9
  | negativeZero => 0xFFFA
  | positiveInfinity => 0xFFFB
  | negativeInfinity => 0xFFFC
  | notANumber => 0xFFFD

/-- The special value with a code. -/
def ofCode? (code : UInt16) : Option Special :=
  all.find? fun special => special.code == code

/-- The largest code that has a meaning. -/
def lastCode : UInt16 := notANumber.code

@[simp]
theorem ofCode?_code (special : Special) : ofCode? special.code = some special := by
  cases special <;> decide

end Special

/-! ## Quantities and their codes -/

/-- A number system for scaling. -/
class Quantity (α : Type) extends Add α, Sub α, Mul α, Div α where
  /-- A small whole number. -/
  ofNat : Nat → α
  /-- The whole part, kept within 16 bits. -/
  wholePart : α → UInt16
  isZero : α → Bool
  less : α → α → Bool
  /-- The special value that a quantity is, if it is one. -/
  special? : α → Option Special
  /-- The quantity that stands for a special value. -/
  ofSpecial : Special → α

/-- The number of steps, which is also the largest code of an ordinary quantity. -/
def topCode : UInt16 := 0xFFF8

/-- The bits of a code that ordinary quantities use. -/
def stepMask : UInt16 := 0xFFF8

namespace Quantity

variable {α : Type} [Quantity α]

/-- The quantity is no special value. -/
def isOrdinary (x : α) : Bool :=
  (special? x).isNone

/-- The smaller of two quantities. -/
def lesser (x y : α) : α :=
  if less y x then y else x

/-- The larger of two quantities. -/
def greater (x y : α) : α :=
  if less x y then y else x

/-- The smallest and the largest ordinary quantity among some. -/
def bounds (values : List α) : Option (α × α) :=
  match values.filter isOrdinary with
  | [] => none
  | first :: rest => some (rest.foldl lesser first, rest.foldl greater first)

end Quantity

/-- The quantity with code zero and the quantity that one code unit is worth. -/
structure Scaling (α : Type) where
  offset : α
  scale : α
  deriving DecidableEq, Repr

namespace Scaling

variable {α : Type} [Quantity α]

/-- The scaling without an interval. -/
def unit : Scaling α :=
  ⟨Quantity.ofNat 0, Quantity.ofNat 1⟩

/-- The scaling of the interval between two quantities. An interval without extent has the
scale 1. -/
def ofInterval (lowest highest : α) : Scaling α :=
  let scale := (highest - lowest) / Quantity.ofNat topCode.toNat
  ⟨lowest, if Quantity.isZero scale then Quantity.ofNat 1 else scale⟩

/-- The scaling of the interval between two bounds after a transform. -/
def ofBounds (transform : α → α) : Option (α × α) → Scaling α
  | none => unit
  | some (lowest, highest) => ofInterval (transform lowest) (transform highest)

/-- The number of steps up to a quantity, at a multiple of 8. -/
def stepsTo (scaling : Scaling α) (quantity : α) : UInt16 :=
  Quantity.wholePart ((quantity - scaling.offset) / scaling.scale) &&& stepMask

/-- The quantity after a number of steps. -/
def afterSteps (scaling : Scaling α) (steps : UInt16) : α :=
  Quantity.ofNat steps.toNat * scaling.scale + scaling.offset

/-- The code of a quantity: its own for a special value, and otherwise the steps up to its
transform. -/
def code (scaling : Scaling α) (transform : α → α) (x : α) : UInt16 :=
  match Quantity.special? x with
  | some special => special.code
  | none => scaling.stepsTo (transform x)

/-- The quantity that a code stands for, where `inverse` undoes the transform. The codes above the
last special value stand for none. -/
def decode? (scaling : Scaling α) (inverse : α → α) (code : UInt16) : Option α :=
  match Special.ofCode? code with
  | some special => some (Quantity.ofSpecial special)
  | none => if Special.lastCode < code then none else some (inverse (scaling.afterSteps code))

end Scaling

/-! ## Doubles -/

/-- The special value that a double is, if it is one. -/
def Double.special? (x : Double) : Option Special :=
  if x.isNaN then some .notANumber
  else if x.isZero then some (if x.isNegative then .negativeZero else .positiveZero)
  else if x.isInfinite then some (if x.isNegative then .negativeInfinity else .positiveInfinity)
  else none

/-- The double that stands for a special value. -/
def Double.ofSpecial : Special → Double
  | .positiveZero => Double.zero false
  | .negativeZero => Double.zero true
  | .positiveInfinity => Double.infinity false
  | .negativeInfinity => Double.infinity true
  | .notANumber => Double.nan

instance : Quantity Double where
  ofNat := Double.ofNat
  wholePart := Double.toUInt16
  isZero := Double.isZero
  less x y := x.orderKey < y.orderKey
  special? := Double.special?
  ofSpecial := Double.ofSpecial

/-!
## Exact arithmetic

Over the rational numbers the formulas are free of rounding. Zero is the only special value there.
-/

namespace ExactScaling

instance : Quantity Rat where
  ofNat n := n
  wholePart x := UInt16.ofNat (min x.floor.toNat 0xFFFF)
  isZero x := x = 0
  less x y := x < y
  special? x := if x = 0 then some .positiveZero else none
  ofSpecial _ := 0

/-- The scaling of a list of rational numbers. -/
def scaling (values : List Rat) : Scaling Rat :=
  Scaling.ofBounds id (Quantity.bounds values)

/-- The codes of a list of rational numbers under its own scaling. -/
def codes (values : List Rat) : List UInt16 :=
  values.map ((scaling values).code id)

/-- The rational number that a code stands for; a code without a meaning counts as zero. -/
def restore (scaling : Scaling Rat) (code : UInt16) : Rat :=
  (scaling.decode? id code).getD 0

/-- A list of rational numbers after it was coded and restored. -/
def quantized (values : List Rat) : List Rat :=
  (codes values).map (restore (scaling values))

end ExactScaling

end ArrayBlob
