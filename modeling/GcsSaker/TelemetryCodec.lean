import GcsSaker.Clock
import GcsSaker.JvmText
import GcsSaker.WireFields

/-!
# The telemetry envelope on the wire

`TelemetryEnvelopePayload` of the backend, which writes and reads the envelope, and that of the
auth policy, which reads and validates it. A double is given by its bits.
-/

namespace GcsSaker.TelemetryCodec

open ProtobufWire

namespace TelemetryEnvelopeFields

@[simp] def eventID : ℕ := 1
@[simp] def orgID : ℕ := 2
@[simp] def groupID : ℕ := 3
@[simp] def assetID : ℕ := 4
@[simp] def assetKind : ℕ := 5
@[simp] def time : ℕ := 6
@[simp] def position : ℕ := 7
@[simp] def headingDeg : ℕ := 8
@[simp] def speedMps : ℕ := 9
@[simp] def batteryPercent : ℕ := 10
@[simp] def health : ℕ := 11
@[simp] def activeStreamID : ℕ := 12
@[simp] def attitudeDeg : ℕ := 13
@[simp] def gyroRadPerSec : ℕ := 14
@[simp] def accelMps2 : ℕ := 15
@[simp] def linkQualityPercent : ℕ := 16

end TelemetryEnvelopeFields

namespace TimestampedFields

@[simp] def observedUnixMillis : ℕ := 1
@[simp] def receivedUnixMillis : ℕ := 2

end TimestampedFields

namespace GeoPointFields

@[simp] def latitude : ℕ := 1
@[simp] def longitude : ℕ := 2
@[simp] def altitudeM : ℕ := 3

end GeoPointFields

namespace Vector3Fields

@[simp] def x : ℕ := 1
@[simp] def y : ℕ := 2
@[simp] def z : ℕ := 3

end Vector3Fields

/-! ## Python -/

namespace Python

open ProtobufWire.Python

structure TelemetryEnvelopePayload where
  eventID : String
  orgID : String
  groupID : String
  assetID : String
  assetKind : ℕ
  observedUnixMillis : ℕ
  receivedUnixMillis : ℕ
  latitude : BitVec 64
  longitude : BitVec 64
  altitudeM : BitVec 64
  headingDeg : BitVec 64
  speedMps : BitVec 64
  batteryPercent : BitVec 64
  health : ℕ
  activeStreamIDs : List String := []
  rollDeg : BitVec 64 := 0
  pitchDeg : BitVec 64 := 0
  yawDeg : BitVec 64 := 0
  gyroXRadPerSec : BitVec 64 := 0
  gyroYRadPerSec : BitVec 64 := 0
  gyroZRadPerSec : BitVec 64 := 0
  accelXMps2 : BitVec 64 := 0
  accelYMps2 : BitVec 64 := 0
  accelZMps2 : BitVec 64 := 0
  linkQualityPercent : BitVec 64 := 0
  deriving DecidableEq

def timestampedWire (observedUnixMillis receivedUnixMillis : ℕ) : List UInt8 :=
  encodeVarintField TimestampedFields.observedUnixMillis observedUnixMillis ++
    encodeVarintField TimestampedFields.receivedUnixMillis receivedUnixMillis

def geoPointWire (latitude longitude altitudeM : BitVec 64) : List UInt8 :=
  encodeDouble GeoPointFields.latitude latitude ++
    encodeDouble GeoPointFields.longitude longitude ++
    encodeDouble GeoPointFields.altitudeM altitudeM

def encodeVector3 (x y z : BitVec 64) : List UInt8 :=
  encodeDouble Vector3Fields.x x ++ encodeDouble Vector3Fields.y y ++
    encodeDouble Vector3Fields.z z

def decodeOptionalVector3 (decoded : Message) (fieldNumber : ℕ) :
    Except String (BitVec 64 × BitVec 64 × BitVec 64) := do
  match ← optionalMessage decoded fieldNumber with
  | none => return (0, 0, 0)
  | some message =>
    return (← singleFloat message Vector3Fields.x, ← singleFloat message Vector3Fields.y,
      ← singleFloat message Vector3Fields.z)

def optionalFloat (decoded : Message) (fieldNumber : ℕ) : Except String (BitVec 64) :=
  if decoded.values fieldNumber = [] then .ok 0 else singleFloat decoded fieldNumber

open TelemetryEnvelopeFields in
def encodeTelemetryEnvelope (source : TelemetryEnvelopePayload) : List UInt8 :=
  encodeString eventID source.eventID ++
  encodeString orgID source.orgID ++
  encodeString groupID source.groupID ++
  encodeString assetID source.assetID ++
  encodeVarintField assetKind source.assetKind ++
  encodeBytes time (timestampedWire source.observedUnixMillis source.receivedUnixMillis) ++
  encodeBytes position (geoPointWire source.latitude source.longitude source.altitudeM) ++
  encodeDouble headingDeg source.headingDeg ++
  encodeDouble speedMps source.speedMps ++
  encodeDouble batteryPercent source.batteryPercent ++
  encodeVarintField health source.health ++
  source.activeStreamIDs.flatMap (fun streamID => encodeString activeStreamID streamID) ++
  encodeBytes attitudeDeg (encodeVector3 source.rollDeg source.pitchDeg source.yawDeg) ++
  encodeBytes gyroRadPerSec
    (encodeVector3 source.gyroXRadPerSec source.gyroYRadPerSec source.gyroZRadPerSec) ++
  encodeBytes accelMps2 (encodeVector3 source.accelXMps2 source.accelYMps2 source.accelZMps2) ++
  encodeDouble linkQualityPercent source.linkQualityPercent

open TelemetryEnvelopeFields in
def decodeTelemetryEnvelope (payload : List UInt8) : Except String TelemetryEnvelopePayload := do
  let decoded ← decodeMessage payload
  let timeMessage ← singleMessage decoded time
  let positionMessage ← singleMessage decoded position
  let attitude ← decodeOptionalVector3 decoded attitudeDeg
  let gyro ← decodeOptionalVector3 decoded gyroRadPerSec
  let accel ← decodeOptionalVector3 decoded accelMps2
  return {
    eventID := ← singleString decoded eventID
    orgID := ← singleString decoded orgID
    groupID := ← singleString decoded groupID
    assetID := ← singleString decoded assetID
    assetKind := ← singleInt decoded assetKind
    observedUnixMillis := ← singleInt timeMessage TimestampedFields.observedUnixMillis
    receivedUnixMillis := ← singleInt timeMessage TimestampedFields.receivedUnixMillis
    latitude := ← singleFloat positionMessage GeoPointFields.latitude
    longitude := ← singleFloat positionMessage GeoPointFields.longitude
    altitudeM := ← singleFloat positionMessage GeoPointFields.altitudeM
    headingDeg := ← singleFloat decoded headingDeg
    speedMps := ← singleFloat decoded speedMps
    batteryPercent := ← singleFloat decoded batteryPercent
    health := ← singleInt decoded health
    activeStreamIDs := ← strings decoded activeStreamID
    rollDeg := attitude.1
    pitchDeg := attitude.2.1
    yawDeg := attitude.2.2
    gyroXRadPerSec := gyro.1
    gyroYRadPerSec := gyro.2.1
    gyroZRadPerSec := gyro.2.2
    accelXMps2 := accel.1
    accelYMps2 := accel.2.1
    accelZMps2 := accel.2.2
    linkQualityPercent := ← optionalFloat decoded linkQualityPercent }

namespace TelemetryEnvelopePayload

def toProtobufWire (x : TelemetryEnvelopePayload) : List UInt8 := encodeTelemetryEnvelope x

def fromProtobufWire (payload : List UInt8) : Except String TelemetryEnvelopePayload :=
  decodeTelemetryEnvelope payload

end TelemetryEnvelopePayload

end Python

/-! ## Kotlin -/

namespace Kotlin

open ProtobufWire.Kotlin

structure TelemetryVector3 where
  x : BitVec 64 := 0
  y : BitVec 64 := 0
  z : BitVec 64 := 0
  deriving DecidableEq

structure TelemetryEnvelopePayload where
  eventID : String
  orgID : String
  groupID : String
  assetID : String
  assetKind : BitVec 64
  observedUnixMillis : BitVec 64
  receivedUnixMillis : BitVec 64
  latitude : BitVec 64
  longitude : BitVec 64
  altitudeM : BitVec 64
  headingDeg : BitVec 64
  speedMps : BitVec 64
  batteryPercent : BitVec 64
  health : BitVec 64
  activeStreamIDs : List String
  attitudeDeg : TelemetryVector3 := {}
  gyroRadPerSec : TelemetryVector3 := {}
  accelMps2 : TelemetryVector3 := {}
  linkQualityPercent : BitVec 64 := 0
  deriving DecidableEq

def toFloat (bits : BitVec 64) : Float := Float.ofBits ⟨bits⟩

/-- `value in low..high` -/
def inRange (value low high : Float) : Bool := low ≤ value && value ≤ high

def require (condition : Bool) (message : String) : Except Thrown Unit :=
  if condition then .ok () else .error (.illegalArgument message)

def TelemetryVector3.toList (v : TelemetryVector3) : List Float :=
  [toFloat v.x, toFloat v.y, toFloat v.z]

def maxFutureSkew : ℤ := 5 * 60 * Clock.second

def TelemetryEnvelopePayload.validate (v : TelemetryEnvelopePayload) (now : ℤ) :
    Except Thrown Unit := do
  require (!JvmText.isBlank v.eventID && !JvmText.isBlank v.orgID && !JvmText.isBlank v.groupID &&
    !JvmText.isBlank v.assetID) "telemetry identity is required"
  require (0 < v.observedUnixMillis.toInt) "observed time is required"
  require (!(now + maxFutureSkew < Clock.ofUnixMilli v.observedUnixMillis.toInt))
    "observed time exceeds future skew"
  let latitude := toFloat v.latitude
  let longitude := toFloat v.longitude
  let altitudeM := toFloat v.altitudeM
  let headingDeg := toFloat v.headingDeg
  let speedMps := toFloat v.speedMps
  let batteryPercent := toFloat v.batteryPercent
  let linkQualityPercent := toFloat v.linkQualityPercent
  let numbers := [latitude, longitude, altitudeM, headingDeg, speedMps, batteryPercent] ++
    v.attitudeDeg.toList ++ v.gyroRadPerSec.toList ++ v.accelMps2.toList ++ [linkQualityPercent]
  require (numbers.all Float.isFinite) "telemetry values must be finite"
  require (inRange latitude (-90) 90 && inRange longitude (-180) 180) "position is outside WGS84"
  require (latitude != 0 || longitude != 0) "null-island position is rejected"
  require (inRange altitudeM (-500) 20000 && inRange speedMps 0 200)
    "altitude or speed is outside contract"
  require (0 ≤ headingDeg && headingDeg < 360) "heading is outside contract"
  require (inRange batteryPercent 0 100 && inRange linkQualityPercent 0 100)
    "percentage is outside contract"
  require (v.attitudeDeg.toList.all fun angle => inRange angle (-360) 360)
    "attitude is outside contract"

def optionalVector3 (decoded : Message) (fieldNumber : ℕ) : Except Thrown TelemetryVector3 :=
  match decoded.values fieldNumber with
  | [.bytes vector] => do
    let decoded ← decode vector
    return { x := ← singleDouble decoded Vector3Fields.x
             y := ← singleDouble decoded Vector3Fields.y
             z := ← singleDouble decoded Vector3Fields.z }
  | _ => .ok {}

def optionalDouble (decoded : Message) (fieldNumber : ℕ) : BitVec 64 :=
  match decoded.values fieldNumber with
  | [.double bits] => bits
  | _ => 0

open TelemetryEnvelopeFields in
/-- `TelemetryEnvelopePayload.fromWire`, up to `validate`. -/
def readWire (replace : List UInt8 → String) (payload : List UInt8) :
    Except Thrown TelemetryEnvelopePayload := do
  let decoded ← decode payload
  let timeMessage ← singleMessage decoded time
  let positionMessage ← singleMessage decoded position
  return {
    eventID := ← singleString replace decoded eventID
    orgID := ← singleString replace decoded orgID
    groupID := ← singleString replace decoded groupID
    assetID := ← singleString replace decoded assetID
    assetKind := ← singleLong decoded assetKind
    observedUnixMillis := ← singleLong timeMessage TimestampedFields.observedUnixMillis
    receivedUnixMillis := ← singleLong timeMessage TimestampedFields.receivedUnixMillis
    latitude := ← singleDouble positionMessage GeoPointFields.latitude
    longitude := ← singleDouble positionMessage GeoPointFields.longitude
    altitudeM := ← singleDouble positionMessage GeoPointFields.altitudeM
    headingDeg := ← singleDouble decoded headingDeg
    speedMps := ← singleDouble decoded speedMps
    batteryPercent := ← singleDouble decoded batteryPercent
    health := ← singleLong decoded health
    activeStreamIDs := strings replace decoded activeStreamID
    attitudeDeg := ← optionalVector3 decoded attitudeDeg
    gyroRadPerSec := ← optionalVector3 decoded gyroRadPerSec
    accelMps2 := ← optionalVector3 decoded accelMps2
    linkQualityPercent := optionalDouble decoded linkQualityPercent }

def TelemetryEnvelopePayload.fromWire (replace : List UInt8 → String) (now : ℤ)
    (payload : List UInt8) : Except Thrown TelemetryEnvelopePayload := do
  let envelope ← readWire replace payload
  envelope.validate now
  return envelope

end Kotlin

end GcsSaker.TelemetryCodec
