import ArrayBlob.Bytes
import ArrayBlob.Element.ElementType
import ArrayBlob.Text.Quoted

/-!
# Faults

Every operation that can fail says why by a value of `Fault`. A fault belongs to one of twelve
categories, and the categories whose text depends on the place of the failure carry a cause. The
wording of every message stands in this module alone.
-/

namespace ArrayBlob

/-- A flaw in a compressed block. -/
inductive BlockFlaw
  | missingByte
  | literalBeyondInput
  | outputTooSmall (available needed : Nat)
  | zeroOffset
  | offsetBeyondOutput
  deriving DecidableEq, Repr

/-- What is wrong with a compressed payload, or with its production. -/
inductive CompressionFlaw
  | inputExceedsFrame (size : Nat)
  | bodyExceedsFrame (size : Nat)
  | shortFrame (size : Nat)
  | frameVersion (version : Nat)
  | frameBelowHeader (declared : Nat)
  | frameCapacity (body raw : Nat)
  | frameRawSize (held expected : Nat)
  | frameLength (declared actual : Nat)
  | storedBodyLength
  | block (flaw : BlockFlaw)
  | blockLength (produced expected : Nat)
  | shortQuantized (size : Nat)
  | quantizedLength (size count : Nat)
  | reservedCode (code : Nat)
  | storedLength (size expected : Nat)
  | frameSizes (declared raw size expected : Nat)
  | storedBlobLength (size expected : Nat)
  | roundTripFailed (reason : String)
  | roundTripDiffers
  | described (text : String)
  deriving DecidableEq, Repr

/-- Why a codec refuses its input. -/
inductive ArgumentFlaw
  | notDoubles
  | partialElement (size : Nat)
  | described (text : String)
  deriving DecidableEq, Repr

/-- Why a value lies outside the domain of a codec. -/
inductive DomainFlaw
  | negativeValue
  | described (text : String)
  deriving DecidableEq, Repr

/-- What is wrong with a header. -/
inductive HeaderFlaw
  | shortBlob (size : Nat)
  | magic
  | version (tag : Int)
  | truncated
  | negativeDimensionCount
  | truncatedDimensions (count needed size : Nat)
  | negativeDimension
  | nameEncoding
  | described (text : String)
  deriving DecidableEq, Repr

/-- Why a value cannot be stored or restored with the settings in force. -/
inductive VariableFlaw
  | unknownCode (code : Int)
  | otherElements (held requested : ElementType)
  | notText (held : ElementType)
  | serializerFailed (reason : String)
  | compositeRefused
  | blobsDisabled
  | arrayRefused (type : ElementType)
  | streamRefused
  | serializerMissing
  | described (text : String)
  deriving DecidableEq, Repr

/-- Why a shape does not describe its data. -/
inductive ShapeFlaw
  | countOverflow
  | sizeOverflow
  | dataLength (count : Nat) (type : ElementType) (dims : List Nat) (expected actual : Nat)
  | tooManyDimensions (count : Nat)
  | dimensionRange (dimension : Nat)
  | described (text : String)
  deriving DecidableEq, Repr

/-- What a serializer or a text conversion stumbled over. -/
inductive SerializationFlaw
  | loneSurrogate
  | keyNotText
  | unreadable
  | described (text : String)
  deriving DecidableEq, Repr

/-- Why an operation failed. -/
inductive Fault
  | allocationFailed (requested : Nat)
  | blobTooBig (size limit : Nat)
  | compression (flaw : CompressionFlaw)
  | unknownCompressor (name : String)
  | compressorArgument (flaw : ArgumentFlaw)
  | compressorDomain (flaw : DomainFlaw)
  | unsupportedHeader (flaw : HeaderFlaw)
  | unsupportedVariableType (flaw : VariableFlaw)
  | invalidLevel (level lowest highest : Int)
  | bufferTooSmall (required provided : Nat)
  | invalidShape (flaw : ShapeFlaw)
  | serialization (flaw : SerializationFlaw)
  deriving DecidableEq, Repr

/-- The categories of faults. -/
inductive Category
  | allocationFailed
  | blobTooBig
  | compression
  | unknownCompressor
  | compressorArgument
  | compressorDomain
  | unsupportedHeader
  | unsupportedVariableType
  | invalidLevel
  | bufferTooSmall
  | invalidShape
  | serialization
  deriving DecidableEq, Repr

/-- The wording of a flaw in a block. -/
def BlockFlaw.message : BlockFlaw → String
  | missingByte => "expected another byte, found none"
  | literalBeyondInput => "literal is out of bounds of the input"
  | outputTooSmall available needed =>
    "provided output is too small for the decompressed data, actual "
      ++ s!"{available}, expected {needed}"
  | zeroOffset => "0 is not a valid match offset"
  | offsetBeyondOutput => "the offset to copy is not contained in the decompressed buffer"

/-- The upper-case hexadecimal digits of a number. -/
def upperHex (n : Nat) : String :=
  String.ofList ((Nat.toDigits 16 n).map Char.toUpper)

/-- The wording of a compression flaw. -/
def CompressionFlaw.message : CompressionFlaw → String
  | inputExceedsFrame size => s!"input of {size} bytes exceeds frame limit"
  | bodyExceedsFrame size => s!"frame body of {size} bytes too large"
  | shortFrame size => s!"frame too short: {size} bytes, header needs 16"
  | frameVersion version => s!"unsupported frame version {version}"
  | frameBelowHeader declared => s!"frame size {declared} smaller than its header"
  | frameCapacity body raw => s!"frame body of {body} bytes cannot hold {raw} bytes"
  | frameRawSize held expected => s!"frame holds {held} bytes, destination expects {expected}"
  | frameLength declared actual => s!"frame declares {declared} bytes, got {actual}"
  | storedBodyLength => "stored frame body has wrong length"
  | block flaw => "lz4 block: " ++ flaw.message
  | blockLength produced expected => s!"lz4 block produced {produced} bytes, expected {expected}"
  | shortQuantized size => s!"quantized payload too short: {size} bytes"
  | quantizedLength size count =>
    s!"quantized payload has {size} bytes, which does not hold {count} elements"
  | reservedCode code => "reserved quantizer code 0x" ++ upperHex code
  | storedLength size expected => s!"stored payload has {size} bytes, expected {expected}"
  | frameSizes declared raw size expected =>
    s!"frame of {declared} bytes describes {raw} raw bytes, expected {size} and {expected}"
  | storedBlobLength size expected =>
    s!"stored payload has {size} bytes, header describes {expected}"
  | roundTripFailed reason => "round-trip check failed: " ++ reason
  | roundTripDiffers => "round-trip check failed: decompressed data differs from the original"
  | described text => text

/-- The wording of an argument flaw. -/
def ArgumentFlaw.message : ArgumentFlaw → String
  | notDoubles => "quantizer requires float64 elements"
  | partialElement size => s!"{size} bytes is not a whole number of float64 elements"
  | described text => text

/-- The wording of a domain flaw. -/
def DomainFlaw.message : DomainFlaw → String
  | negativeValue => "log quantizer accepts non-negative values only"
  | described text => text

/-- The wording of a header flaw. -/
def HeaderFlaw.message : HeaderFlaw → String
  | shortBlob size => s!"blob of {size} bytes is shorter than a header"
  | magic => "invalid magic"
  | version tag => s!"unknown header version {tag}"
  | truncated => "truncated header"
  | negativeDimensionCount => "negative dimension count"
  | truncatedDimensions count needed size =>
    s!"truncated dimension vector: {count} dimensions need {needed} bytes, got {size}"
  | negativeDimension => "negative dimension"
  | nameEncoding => "compressor name is not UTF-8"
  | described text => text

/-- The wording of a flaw in a value. -/
def VariableFlaw.message : VariableFlaw → String
  | unknownCode code => s!"unknown element type code {code}"
  | otherElements held requested =>
    "array holds " ++ held.name ++ ", requested " ++ requested.name
  | notText held => "array holds " ++ held.name ++ ", not char"
  | serializerFailed reason => "serialization failed: " ++ reason
  | compositeRefused => "composite values require byte stream mode"
  | blobsDisabled => "typed blobs are disabled"
  | arrayRefused type => type.name ++ " arrays require byte stream mode"
  | streamRefused => "blob holds a serialized value and byte stream mode is off"
  | serializerMissing => "blob holds a serialized value and no serializer is available"
  | described text => text

/-- A list of numbers between square brackets. -/
def dimensionText (dims : List Nat) : String :=
  "[" ++ ", ".intercalate (dims.map toString) ++ "]"

/-- The wording of a flaw in a shape. -/
def ShapeFlaw.message : ShapeFlaw → String
  | countOverflow => "element count overflows"
  | sizeOverflow => "payload size overflows"
  | dataLength count type dims expected actual =>
    s!"{count} " ++ type.name ++ " elements of shape " ++ dimensionText dims
      ++ s!" need {expected} bytes, got {actual}"
  | tooManyDimensions count => s!"{count} dimensions"
  | dimensionRange dimension => s!"dimension {dimension} exceeds the header range"
  | described text => text

/-- The wording of a serialization flaw. -/
def SerializationFlaw.message : SerializationFlaw → String
  | loneSurrogate => "invalid utf-16: lone surrogate found"
  | keyNotText => "key must be a string"
  | unreadable => "the stream does not hold a value"
  | described text => text

/-- The name of a category. -/
def Category.name : Category → String
  | allocationFailed => "allocation_failed"
  | blobTooBig => "blob_too_big"
  | compression => "compression"
  | unknownCompressor => "unknown_compressor"
  | compressorArgument => "compressor_argument"
  | compressorDomain => "compressor_domain"
  | unsupportedHeader => "unsupported_header"
  | unsupportedVariableType => "unsupported_variable_type"
  | invalidLevel => "invalid_level"
  | bufferTooSmall => "buffer_too_small"
  | invalidShape => "invalid_shape"
  | serialization => "serialization"

namespace Fault

/-- The category of a fault. -/
def category : Fault → Category
  | allocationFailed _ => .allocationFailed
  | blobTooBig _ _ => .blobTooBig
  | compression _ => .compression
  | unknownCompressor _ => .unknownCompressor
  | compressorArgument _ => .compressorArgument
  | compressorDomain _ => .compressorDomain
  | unsupportedHeader _ => .unsupportedHeader
  | unsupportedVariableType _ => .unsupportedVariableType
  | invalidLevel _ _ _ => .invalidLevel
  | bufferTooSmall _ _ => .bufferTooSmall
  | invalidShape _ => .invalidShape
  | serialization _ => .serialization

/-- The message of a fault. -/
def message : Fault → String
  | allocationFailed requested => s!"allocation failed: could not allocate {requested} bytes"
  | blobTooBig size limit => s!"blob too big: {size} bytes exceeds the limit of {limit} bytes"
  | compression flaw => "compression error: " ++ flaw.message
  | unknownCompressor name => "unknown compressor: " ++ Text.quote name
  | compressorArgument flaw => "invalid compressor argument: " ++ flaw.message
  | compressorDomain flaw => "compressor domain error: " ++ flaw.message
  | unsupportedHeader flaw => "unsupported header: " ++ flaw.message
  | unsupportedVariableType flaw => "unsupported variable type: " ++ flaw.message
  | invalidLevel level lowest highest =>
    s!"invalid compression level {level}: must be in range [{lowest}, {highest}]"
  | bufferTooSmall required provided =>
    s!"buffer too small: need {required} bytes, got {provided}"
  | invalidShape flaw => "invalid shape: " ++ flaw.message
  | serialization flaw => "serialization error: " ++ flaw.message

/-- Trying the same operation again may succeed. -/
def isTransient : Fault → Bool
  | allocationFailed _ => true
  | _ => false

end Fault
end ArrayBlob
