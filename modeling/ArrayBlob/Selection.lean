import ArrayBlob.Frame.Lossless
import ArrayBlob.Quantizer.Quantizer

/-!
# Selection of a codec

A selection is either no compression or a coder with a level. It is made from a name and a level,
or from the name that a header records, and from then on decides how payloads are packed, checked
and unpacked. The check looks at sizes and framing alone, so that it can run before room for the
unpacked data is reserved.
-/

namespace ArrayBlob

/-- A way of compressing a payload. -/
inductive Coder
  | lossless (flavor : Flavor)
  | quantizer (mode : Mode)
  deriving DecidableEq, Repr

namespace Coder

/-- The name of a coder in headers. -/
def name : Coder → String
  | lossless flavor => flavor.name
  | quantizer .linear => "QLIN16"
  | quantizer .logarithmic => "QLOG16"

/-- All coders. -/
def all : List Coder :=
  [quantizer .linear, quantizer .logarithmic] ++ Flavor.all.map lossless

/-- The coder with a name, in letters of any case. -/
def ofName? (name : String) : Option Coder :=
  all.find? fun coder => Text.sameIgnoringCase coder.name name

/-- The family of a coder. -/
def family : Coder → Family
  | lossless _ => .lossless
  | quantizer mode => mode.family

end Coder

/-- How payloads are packed. -/
inductive Selection
  | uncompressed
  | coded (coder : Coder) (level : Level)
  deriving DecidableEq, Repr

namespace Selection

/-- The selection of a name and a level. Level 0 and the empty name select no compression. -/
def ofName (name : String) (level : Int) : Except Fault Selection := do
  let level ← Level.ofInt level
  if level.isNone || name.isEmpty then return uncompressed
  match Coder.ofName? name with
  | some coder => return coded coder level
  | none => throw (.unknownCompressor name)

/-- The selection of a name in a header. -/
def ofStoredName (name : String) : Except Fault Selection :=
  match Coder.ofName? name with
  | some coder => .ok (coded coder Level.fast)
  | none => .error (.unknownCompressor name)

/-- The family of the selected codec. -/
def family : Selection → Family
  | uncompressed => .none
  | coded coder _ => coder.family

/-- The selected level. -/
def level : Selection → Level
  | uncompressed => Level.none
  | coded _ level => level

/-- The name that headers record, empty without compression. -/
def name : Selection → String
  | uncompressed => ""
  | coded coder _ => coder.name

/-- No codec is selected. -/
def isUncompressed : Selection → Bool
  | uncompressed => true
  | coded _ _ => false

/-- Unpacking may not restore the payload. -/
def isLossy (selection : Selection) : Bool :=
  selection.family.isLossy

/-- The selection in words. -/
def display : Selection → String
  | uncompressed => "none"
  | coded coder level => coder.name ++ ":" ++ toString level.toNat

/-- Refuses a payload that does not have the length or the framing of some raw size. -/
def checkFraming (selection : Selection) (layout : Layout) (payload : Bytes) (rawSize : Nat) :
    Except Fault Unit :=
  match selection with
  | uncompressed =>
    if payload.length = rawSize then .ok ()
    else .error (.compression (.storedLength payload.length rawSize))
  | coded (.lossless _) _ => do
    let header ← Frame.Header.decode payload
    let raw := header.rawSize.toNat
    let declared := header.frameSize.toNat
    if raw ≠ rawSize ∨ declared ≠ payload.length then
      throw (.compression (.frameSizes declared raw payload.length rawSize))
  | coded (.quantizer _) _ =>
    if !layout.isDouble ∨ rawSize % 8 ≠ 0 then .error (.compressorArgument .notDoubles)
    else Quantizer.requireSize payload.length (rawSize / 8)

variable [Exponential]

/-- The payload of raw bytes. -/
def pack (selection : Selection) (layout : Layout) (raw : Bytes) : Except Fault Bytes :=
  match selection with
  | uncompressed => do
    reserve raw.length
    return raw
  | coded (.lossless flavor) level => Frame.compress flavor level layout raw
  | coded (.quantizer mode) _ => Quantizer.compress mode layout raw

/-- The raw bytes of a payload that must hold a number of them. -/
def unpack (selection : Selection) (layout : Layout) (payload : Bytes) (rawSize : Nat) :
    Except Fault Bytes :=
  match selection with
  | uncompressed =>
    if payload.length = rawSize then .ok payload
    else .error (.compression (.storedLength payload.length rawSize))
  | coded (.lossless _) _ => Frame.decode payload rawSize
  | coded (.quantizer mode) _ => Quantizer.decodeBytes mode layout payload rawSize

end Selection
end ArrayBlob
