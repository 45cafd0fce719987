import ArrayBlob.Fault

/-!
# Shapes

A shape is a list of dimensions. Its element count is their product, and zero when there are none.
Counts and sizes are 64-bit quantities: the product is taken from the left and is refused as soon
as it does not fit, even when a dimension still to come is zero.
-/

namespace ArrayBlob
namespace Shape

/-- The first number that a count or a size cannot reach. -/
def limit : Nat := 2 ^ 64

/-- The product of a number and some dimensions, if no step of it reaches the limit. -/
def product? (start : Nat) : List Nat → Option Nat
  | [] => some start
  | dimension :: rest =>
    if start * dimension < limit then product? (start * dimension) rest else none

/-- The number of elements of a shape. -/
def elementCount (dims : List Nat) : Except Fault Nat :=
  if dims.isEmpty then .ok 0
  else
    match product? 1 dims with
    | some count => .ok count
    | none => .error (.invalidShape .countOverflow)

/-- The number of bytes of the elements of a shape. -/
def rawSize (type : ElementType) (dims : List Nat) : Except Fault Nat :=
  match elementCount dims with
  | .error fault => .error fault
  | .ok count =>
    if count * type.size < limit then .ok (count * type.size)
    else .error (.invalidShape .sizeOverflow)

end Shape
end ArrayBlob
