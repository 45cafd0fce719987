import ArrayBlob.Buffer
import ArrayBlob.Blob.Shape
import ArrayBlob.Element.Element
import ArrayBlob.Text.Utf16

/-!
# Typed arrays

A typed array is an element type, a shape and the bytes of its elements, exactly as many as the
shape describes. It can be built from bytes, from elements, from truth values or from text, and be
read back as elements or text of its own type. Text is stored in UTF-16 units.
-/

namespace ArrayBlob

/-- An array of elements of one type. -/
structure TypedArray where
  elementType : ElementType
  dims : List Nat
  data : Bytes
  rawSize_eq : Shape.rawSize elementType dims = .ok data.length
  deriving DecidableEq

/-- How demanding it is to store a value. -/
inductive StorageClass
  /-- There are no elements. -/
  | empty
  /-- One element, or a line of text. -/
  | simple
  /-- A row or a column. -/
  | simpleVector
  /-- Any other array. -/
  | simpleArray
  /-- The value needs a serializer. -/
  | composite
  /-- The value cannot be stored. -/
  | unsupported
  deriving DecidableEq, Repr

/-- The name of a storage class. -/
def StorageClass.name : StorageClass → String
  | empty => "Empty"
  | simple => "Simple"
  | simpleVector => "SimpleVector"
  | simpleArray => "SimpleArray"
  | composite => "Composite"
  | unsupported => "Unsupported"

namespace TypedArray

/-- The array of some bytes, which must be as many as the shape describes. -/
def ofBytes (elementType : ElementType) (dims : List Nat) (data : Bytes) :
    Except Fault TypedArray :=
  match sized : Shape.rawSize elementType dims with
  | .error fault => .error fault
  | .ok expected =>
    if fits : data.length = expected then .ok ⟨elementType, dims, data, by rw [sized, fits]⟩
    else
      let count := expected / elementType.size
      .error (.invalidShape (.dataLength count elementType dims expected data.length))

/-- The array of some elements. -/
def ofElements {α : Type} [Element α] (dims : List Nat) (values : List α) :
    Except Fault TypedArray := do
  reserve (values.length * Element.width α)
  ofBytes (Element.type α) dims (Element.encodeAll values)

/-- The array of a single element. -/
def ofScalar {α : Type} [Element α] (value : α) : Except Fault TypedArray :=
  ofElements [1, 1] [value]

/-- The array of some truth values. -/
def ofBools (dims : List Nat) (values : List Bool) : Except Fault TypedArray :=
  ofBytes .logical dims (values.map fun value => if value then 1 else 0)

/-- The row of the characters of a text. -/
def ofText (text : String) : Except Fault TypedArray :=
  let units := Utf16.encode text.toList
  ofBytes .char [1, units.length] (Element.encodeAll units)

/-- The row of the bytes of a serialized value. -/
def ofStream (stream : Bytes) : Except Fault TypedArray :=
  ofBytes .byteStream [1, stream.length] stream

/-- The number of elements. -/
def size (array : TypedArray) : Nat :=
  array.data.length / array.elementType.size

/-- There are no elements. -/
def isEmpty (array : TypedArray) : Bool :=
  array.data.isEmpty

/-- The elements of an array of their type. -/
def toElements (α : Type) [Element α] (array : TypedArray) : Except Fault (List α) :=
  if Element.type α = array.elementType then .ok (Element.decodeAll array.data)
  else
    .error (.unsupportedVariableType (.otherElements array.elementType (Element.type α)))

/-- The text of an array of characters. -/
def toText (array : TypedArray) : Except Fault String :=
  if array.elementType = .char then
    match Utf16.decode (Element.decodeAll array.data) with
    | some chars => .ok (String.ofList chars)
    | none => .error (.serialization .loneSurrogate)
  else .error (.unsupportedVariableType (.notText array.elementType))

/-- The shape is a row or a column. -/
def isVector (array : TypedArray) : Bool :=
  match array.dims with
  | [rows, columns] => min rows columns = 1
  | _ => false

/-- The storage class of an array. Byte streams can be stored only where they are allowed. -/
def storageClass (array : TypedArray) (streamsAllowed : Bool) : StorageClass :=
  if array.isEmpty then .empty
  else
    match array.elementType with
    | .byteStream => if streamsAllowed then .composite else .unsupported
    | .char => if array.size = 1 || array.isVector then .simple else .simpleArray
    | _ =>
      if array.size = 1 then .simple
      else if array.isVector then .simpleVector
      else .simpleArray

end TypedArray
end ArrayBlob
