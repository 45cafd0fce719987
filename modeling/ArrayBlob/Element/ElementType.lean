/-!
# Element types

The thirteen types that the elements of an array can have, with the code and the name each is
known by and the number of bytes it takes. A byte stream holds the serialized form of a value that
is no array. `ElementType.ofCode?_code` says that a code determines its type.
-/

namespace ArrayBlob

/-- The type of the elements of an array. -/
inductive ElementType
  | byteStream
  | logical
  | char
  | double
  | single
  | int8
  | uint8
  | int16
  | uint16
  | int32
  | uint32
  | int64
  | uint64
  deriving DecidableEq, Repr

/-- What a codec is told of the elements of its input. -/
structure Layout where
  /-- Bytes per element. -/
  elementSize : Nat
  /-- The elements are doubles. -/
  isDouble : Bool
  deriving DecidableEq, Repr

namespace ElementType

/-- All element types in the order of their codes. -/
def all : List ElementType :=
  [byteStream, logical, char, double, single, int8, uint8, int16, uint16, int32, uint32, int64,
    uint64]

/-- The code stored in a header. -/
def code : ElementType → Nat
  | byteStream => 0
  | logical => 3
  | char => 4
  | double => 6
  | single => 7
  | int8 => 8
  | uint8 => 9
  | int16 => 10
  | uint16 => 11
  | int32 => 12
  | uint32 => 13
  | int64 => 14
  | uint64 => 15

/-- The name used in messages. -/
def name : ElementType → String
  | byteStream => "opaque"
  | logical => "logical"
  | char => "char"
  | double => "double"
  | single => "single"
  | int8 => "int8"
  | uint8 => "uint8"
  | int16 => "int16"
  | uint16 => "uint16"
  | int32 => "int32"
  | uint32 => "uint32"
  | int64 => "int64"
  | uint64 => "uint64"

/-- The name used in JSON documents. -/
def documentName : ElementType → String
  | byteStream => "Opaque"
  | logical => "Logical"
  | char => "Char"
  | double => "Float64"
  | single => "Float32"
  | int8 => "Int8"
  | uint8 => "UInt8"
  | int16 => "Int16"
  | uint16 => "UInt16"
  | int32 => "Int32"
  | uint32 => "UInt32"
  | int64 => "Int64"
  | uint64 => "UInt64"

/-- The number of bytes of one element. -/
def size : ElementType → Nat
  | byteStream | logical | int8 | uint8 => 1
  | char | int16 | uint16 => 2
  | single | int32 | uint32 => 4
  | double | int64 | uint64 => 8

/-- What a codec is told of elements of this type. -/
def layout (type : ElementType) : Layout :=
  ⟨type.size, type = double⟩

/-- The type with a code. -/
def ofCode? (code : Int) : Option ElementType :=
  all.find? fun type => (type.code : Int) == code

/-- The type with a name of messages. -/
def ofName? (name : String) : Option ElementType :=
  all.find? fun type => type.name == name

@[simp]
theorem ofCode?_code (type : ElementType) : ofCode? type.code = some type := by
  cases type <;> decide

theorem code_lt (type : ElementType) : type.code < 256 := by
  cases type <;> decide

theorem size_pos (type : ElementType) : 0 < type.size := by
  cases type <;> decide

end ElementType
end ArrayBlob
