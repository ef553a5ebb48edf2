import GcsSaker.WireFormat

/-!
# The wire codecs of the three services

`decode_message` of the backend, `DecodeWireMessage` of media control and
`ProtobufWireDecoder.decode` of the auth policy. The bytes before the cursor are dropped, so that
the cursor is the size of the payload less what is left of it; a double is kept as its bits, and a
message as its entries in the order of the wire.
-/

namespace GcsSaker.ProtobufWire

inductive WireValue (ι : Type*) where
  | integer (value : ι)
  | double (bits : BitVec 64)
  | bytes (raw : List UInt8)
  deriving DecidableEq

namespace WireValue

variable {ι κ : Type*}

def map (f : ι → κ) : WireValue ι → WireValue κ
  | .integer value => .integer (f value)
  | .double bits => .double bits
  | .bytes raw => .bytes raw

def asBytes : WireValue ι → Option (List UInt8)
  | .bytes raw => some raw
  | _ => none

end WireValue

/-- A decoded message: the field numbers with their values, in the order of the wire. -/
structure WireMessage (ι : Type*) where
  entries : List (ℤ × WireValue ι)
  deriving DecidableEq

/-- The list that the map holds under a field number. -/
def WireMessage.values {ι : Type*} (m : WireMessage ι) (fieldNumber : ℤ) : List (WireValue ι) :=
  m.entries.filterMap fun e => if e.1 = fieldNumber then some e.2 else none

def float64FromBytes (raw : List UInt8) : BitVec 64 := BitVec.ofNat 64 (LittleEndian.value raw)

def unterminatedVarint : String := "unterminated varint"

def fixed64Exceeds : String := "fixed64 field exceeds payload size"

def lengthExceeds : String := "length-delimited field exceeds payload size"

def unsupportedWireType (wireType : ℕ) : String := "unsupported wire type: " ++ toString wireType

/-- The loop of the three varint readers; `add` takes a group into the result at a shift. -/
def readVarint {ι : Type*} (add : ι → ℕ → ℕ → ι) : List UInt8 → ℕ → ι →
    Except String (ι × List UInt8)
  | [], _, _ => .error unterminatedVarint
  | byte :: payload, shift, result =>
    let result := add result (byte &&& 0x7F).toNat shift
    if byte &&& 0x80 = 0 then .ok (result, payload)
    else readVarint add payload (shift + 7) result

/-! ## Python -/

namespace Python

/-- Integers are unbounded. -/
def addGroup (result group shift : ℕ) : ℕ := result ||| (group <<< shift)

def decodeVarint (payload : List UInt8) : Except String (ℕ × List UInt8) :=
  readVarint addGroup payload 0 0

/-- The body of the loop of `decode_message`. -/
def decodeField (payload : List UInt8) : Except String ((ℤ × WireValue ℕ) × List UInt8) := do
  let (key, payload) ← decodeVarint payload
  let fieldNumber := key >>> 3
  match key &&& 0b111 with
  | 0 =>
    let (value, payload) ← decodeVarint payload
    return ((fieldNumber, .integer value), payload)
  | 1 =>
    if payload.length < 8 then throw fixed64Exceeds
    return ((fieldNumber, .double (float64FromBytes (payload.take 8))), payload.drop 8)
  | 2 =>
    let (length, payload) ← decodeVarint payload
    if payload.length < length then throw lengthExceeds
    return ((fieldNumber, .bytes (payload.take length)), payload.drop length)
  | wireType => throw (unsupportedWireType wireType)

def decodeMessage (payload : List UInt8) : Except String (WireMessage ℕ) :=
  (WireFormat.readFields decodeField payload.length payload).map WireMessage.mk

end Python

/-! ## Go -/

namespace Go

/-- `error` is an error that is returned; a panic ends the goroutine. -/
inductive Failure where
  | error (text : String)
  | panic (text : String)
  deriving DecidableEq

/-- A shift by 64 or more leaves nothing of a `uint64`. -/
def addGroup (result : BitVec 64) (group shift : ℕ) : BitVec 64 :=
  result ||| (BitVec.ofNat 64 group <<< shift)

def readVarint (payload : List UInt8) : Except Failure (BitVec 64 × List UInt8) :=
  (ProtobufWire.readVarint addGroup payload 0 0).mapError .error

/-- `payload[cursor:end]`, for a payload of which `payload` is left at the cursor. -/
def slice (cursor : ℕ) (stop : ℤ) (payload : List UInt8) :
    Except Failure (List UInt8 × List UInt8) :=
  if stop < cursor then .error (.panic "slice bounds out of range")
  else .ok (payload.take (stop - cursor).toNat, payload.drop (stop - cursor).toNat)

/-- The body of the loop of `DecodeWireMessage`; an `int` has 64 bits. -/
def decodeField (size : ℕ) (payload : List UInt8) :
    Except Failure ((ℤ × WireValue (BitVec 64)) × List UInt8) := do
  let (key, payload) ← readVarint payload
  let fieldNumber := (key >>> 3).toInt
  match (key &&& 0b111).toNat with
  | 0 =>
    let (value, payload) ← readVarint payload
    return ((fieldNumber, .integer value), payload)
  | 1 =>
    let cursor := size - payload.length
    if size < cursor + 8 then throw (.error fixed64Exceeds)
    return ((fieldNumber, .double (float64FromBytes (payload.take 8))), payload.drop 8)
  | 2 =>
    let (length, payload) ← readVarint payload
    let cursor := size - payload.length
    let stop := (BitVec.ofNat 64 cursor + length).toInt
    if size < stop then throw (.error lengthExceeds)
    let (raw, payload) ← slice cursor stop payload
    return ((fieldNumber, .bytes raw), payload)
  | wireType => throw (.error (unsupportedWireType wireType))

def decodeWireMessage (payload : List UInt8) : Except Failure (WireMessage (BitVec 64)) :=
  (WireFormat.readFields (decodeField payload.length) payload.length payload).map WireMessage.mk

end Go

/-! ## Kotlin -/

namespace Kotlin

/-- The decode error is an `IllegalArgumentException`. -/
inductive Thrown where
  | illegalArgument (message : String)
  | indexOutOfBounds
  deriving DecidableEq

/-- `shl` on a `Long` takes the low six bits of the shift. -/
def addGroup (result : BitVec 64) (group shift : ℕ) : BitVec 64 :=
  result ||| (BitVec.ofNat 64 group <<< (shift % 64))

def readVarint (payload : List UInt8) : Except Thrown (BitVec 64 × List UInt8) :=
  (ProtobufWire.readVarint addGroup payload 0 0).mapError .illegalArgument

/-- `ByteBuffer.wrap(payload, cursor, 8)`, read as a double, little endian. -/
def wrapDouble (payload : List UInt8) : Except Thrown (BitVec 64 × List UInt8) :=
  if payload.length < 8 then .error .indexOutOfBounds
  else .ok (float64FromBytes (payload.take 8), payload.drop 8)

/-- `payload.copyOfRange(cursor, end)`, where `end` is at most the size. -/
def copyOfRange (cursor : ℕ) (stop : ℤ) (payload : List UInt8) :
    Except Thrown (List UInt8 × List UInt8) :=
  if stop < cursor then
    .error (.illegalArgument (toString cursor ++ " > " ++ toString stop))
  else .ok (payload.take (stop - cursor).toNat, payload.drop (stop - cursor).toNat)

/-- The body of the loop of `ProtobufWireDecoder.decode`; an `Int` has 32 bits. -/
def decodeField (size : ℕ) (payload : List UInt8) :
    Except Thrown ((ℤ × WireValue (BitVec 64)) × List UInt8) := do
  let (key, payload) ← readVarint payload
  let fieldNumber := ((key.setWidth 32).sshiftRight 3).toInt
  match (key.setWidth 32 &&& 0b111).toNat with
  | 0 =>
    let (value, payload) ← readVarint payload
    return ((fieldNumber, .integer value), payload)
  | 1 =>
    let cursor := size - payload.length
    if size < (BitVec.ofNat 32 cursor + 8).toInt then throw (.illegalArgument fixed64Exceeds)
    let (value, payload) ← wrapDouble payload
    return ((fieldNumber, .double value), payload)
  | 2 =>
    let (length, payload) ← readVarint payload
    let cursor := size - payload.length
    let stop := (BitVec.ofNat 32 cursor + length.setWidth 32).toInt
    if size < stop then throw (.illegalArgument lengthExceeds)
    let (raw, payload) ← copyOfRange cursor stop payload
    return ((fieldNumber, .bytes raw), payload)
  | wireType => throw (.illegalArgument (unsupportedWireType wireType))

def decode (payload : List UInt8) : Except Thrown (WireMessage (BitVec 64)) :=
  (WireFormat.readFields (decodeField payload.length) payload.length payload).map WireMessage.mk

end Kotlin

end GcsSaker.ProtobufWire
