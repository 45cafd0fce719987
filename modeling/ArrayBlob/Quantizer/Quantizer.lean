import ArrayBlob.Buffer
import ArrayBlob.Binary.Exponential
import ArrayBlob.Element.Element
import ArrayBlob.Measure.Statistics
import ArrayBlob.Quantizer.Scaling

/-!
# The quantizer

Doubles become codes of 16 bits behind a prelude of two singles, the offset and the scale of the
interval that the ordinary values span. The logarithmic mode scales the logarithms of the values
and therefore refuses negative ones. The codes are chosen with the offset and the scale as doubles;
reading uses them as they were stored.
-/

namespace ArrayBlob

/-- What is scaled: the values or their logarithms. -/
inductive Mode
  | linear
  | logarithmic
  deriving DecidableEq, Repr

namespace Mode

/-- The family of a mode. -/
def family : Mode → Family
  | linear => .linear
  | logarithmic => .logarithmic

variable [Exponential]

/-- The quantity that is scaled for a value. -/
def forward : Mode → Double → Double
  | linear, x => x
  | logarithmic, x => Exponential.log x

/-- The value of a scaled quantity. -/
def backward : Mode → Double → Double
  | linear, x => x
  | logarithmic, x => Exponential.exp x

end Mode

namespace Quantizer

/-- The bytes in front of the codes. -/
def preludeSize : Nat := 8

/-- The bytes of one code. -/
def codeSize : Nat := 2

/-- The size of the payload of some elements. -/
def payloadSize (count : Nat) : Nat :=
  preludeSize + codeSize * count

/-- Refuses a payload that does not have the size of a number of elements. -/
def requireSize (size count : Nat) : Except Fault Unit :=
  if payloadSize count < 2 ^ 64 ∧ size = payloadSize count then .ok ()
  else .error (.compression (.quantizedLength size count))

/-- The number of doubles in data of some size; data of another layout is refused. -/
def doubleCount (layout : Layout) (size : Nat) : Except Fault Nat :=
  if !layout.isDouble then .error (.compressorArgument .notDoubles)
  else if size % 8 ≠ 0 then .error (.compressorArgument (.partialElement size))
  else .ok (size / 8)

/-- The parts of a payload, each with its offset: the two numbers of the prelude and the codes. -/
def payloadParts (scaling : Scaling Double) (codes : List UInt16) : List (Nat × Bytes) :=
  [(0, Element.encode (Single.ofDouble scaling.offset)),
      (4, Element.encode (Single.ofDouble scaling.scale))]
    ++ codes.mapIdx fun index code => (preludeSize + codeSize * index, Element.encode code)

/-- The scaling in the prelude of a payload. -/
def decodePrelude (payload : Bytes) : Except Fault (Scaling Double) :=
  if payload.length < preludeSize then .error (.compression (.shortQuantized payload.length))
  else
    let stored (offset : Nat) : Double :=
      (Element.decode (Bytes.field offset 4 payload) : Single).toDouble
    .ok ⟨stored 0, stored 4⟩

variable [Exponential]

/-- The smallest ordinary value among some is negative. -/
def reachesBelowZero (values : List Double) : Bool :=
  match Quantity.bounds values with
  | none => false
  | some (lowest, _) => lowest.isNegative

/-- The scaling of the ordinary values among some doubles. -/
def scalingOf (mode : Mode) (values : List Double) : Except Fault (Scaling Double) :=
  if mode = .logarithmic ∧ reachesBelowZero values then .error (.compressorDomain .negativeValue)
  else .ok (Scaling.ofBounds mode.forward (Quantity.bounds values))

/-- The double that a code stands for. -/
def valueOf (mode : Mode) (scaling : Scaling Double) (code : UInt16) : Except Fault Double :=
  match scaling.decode? mode.backward code with
  | some value => .ok value
  | none => .error (.compression (.reservedCode code.toNat))

/-- Writes the payload of some doubles to the front of a buffer, the prelude and then one code after
the other. The result is the size of the payload and the buffer. -/
def encodeInto (mode : Mode) (values : List Double) (buffer : Bytes) :
    Except Fault (Nat × Bytes) := do
  let required := payloadSize values.length
  if buffer.length < required then
    throw (.bufferTooSmall required buffer.length)
  let scaling ← scalingOf mode values
  let codes := values.map (scaling.code mode.forward)
  return (required, Bytes.storeAll (payloadParts scaling codes) buffer)

/-- The payload of some doubles, written to a buffer of its size. -/
def encode (mode : Mode) (values : List Double) : Except Fault Bytes := do
  let (size, filled) ← encodeInto mode values (List.replicate (payloadSize values.length) 0)
  return filled.take size

/-- The doubles of a payload that must hold a number of them. -/
def decode (mode : Mode) (payload : Bytes) (count : Nat) : Except Fault (List Double) := do
  requireSize payload.length count
  let scaling ← decodePrelude payload
  (Element.decodeAll (payload.drop preludeSize)).mapM (valueOf mode scaling)

/-- Writes the payload of raw bytes to the front of a buffer. The result is the size of the payload
and the buffer. -/
def compressInto (mode : Mode) (layout : Layout) (raw buffer : Bytes) :
    Except Fault (Nat × Bytes) := do
  let _ ← doubleCount layout raw.length
  encodeInto mode (Element.decodeAll raw) buffer

/-- The payload of raw bytes, in a buffer of its own that is cut off behind the payload. -/
def compress (mode : Mode) (layout : Layout) (raw : Bytes) : Except Fault Bytes := do
  let buffer ← zeroed (payloadSize (raw.length / 8))
  let (size, filled) ← compressInto mode layout raw buffer
  return filled.take size

/-- The raw bytes of a payload that must hold a number of bytes. -/
def decodeBytes (mode : Mode) (layout : Layout) (payload : Bytes) (size : Nat) :
    Except Fault Bytes := do
  let count ← doubleCount layout size
  return Element.encodeAll (← decode mode payload count)

/-- The raw bytes of a payload, in a buffer of their own. -/
def decompress (mode : Mode) (layout : Layout) (payload : Bytes) (size : Nat) :
    Except Fault Bytes := do
  reserve size
  decodeBytes mode layout payload size

end Quantizer
end ArrayBlob
