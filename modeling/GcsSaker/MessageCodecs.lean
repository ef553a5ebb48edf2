import GcsSaker.TelemetryCodec

/-!
# The other messages of the backend on the wire

AI overlay events, stream commands, and the requests and responses of the gateway stream.
-/

namespace GcsSaker.MessageCodecs

open ProtobufWire ProtobufWire.Python TelemetryCodec TelemetryCodec.Python

/-! ## AI overlay events -/

namespace OverlayPointFields

@[simp] def x : ℕ := 1
@[simp] def y : ℕ := 2

end OverlayPointFields

structure OverlayPointPayload where
  x : BitVec 64
  y : BitVec 64
  deriving DecidableEq

namespace OverlayPointPayload

def toProtobufWire (point : OverlayPointPayload) : List UInt8 :=
  encodeDouble OverlayPointFields.x point.x ++ encodeDouble OverlayPointFields.y point.y

def fromProtobufWire (payload : List UInt8) : Except String OverlayPointPayload := do
  let decoded ← decodeMessage payload
  return { x := ← singleFloat decoded OverlayPointFields.x
           y := ← singleFloat decoded OverlayPointFields.y }

end OverlayPointPayload

namespace AiOverlayEventFields

@[simp] def eventID : ℕ := 1
@[simp] def streamID : ℕ := 2
@[simp] def modelID : ℕ := 3
@[simp] def kind : ℕ := 4
@[simp] def label : ℕ := 5
@[simp] def confidence : ℕ := 6
@[simp] def point : ℕ := 7
@[simp] def geoAnchor : ℕ := 8
@[simp] def time : ℕ := 9

end AiOverlayEventFields

structure AiOverlayEventPayload where
  eventID : String
  streamID : String
  modelID : String
  kind : ℕ
  label : String
  confidence : BitVec 64
  points : List OverlayPointPayload
  latitude : BitVec 64
  longitude : BitVec 64
  altitudeM : BitVec 64
  observedUnixMillis : ℕ
  receivedUnixMillis : ℕ
  deriving DecidableEq

/-- `single_float(geo_anchor, …) if geo_anchor else 0` -/
def anchorFloat (geoAnchor : Option Message) (fieldNumber : ℕ) : Except String (BitVec 64) :=
  geoAnchor.elim (.ok 0) fun message => singleFloat message fieldNumber

namespace AiOverlayEventPayload

def toProtobufWire (source : AiOverlayEventPayload) : List UInt8 :=
  encodeString AiOverlayEventFields.eventID source.eventID ++
  encodeString AiOverlayEventFields.streamID source.streamID ++
  encodeString AiOverlayEventFields.modelID source.modelID ++
  encodeVarintField AiOverlayEventFields.kind source.kind ++
  encodeString AiOverlayEventFields.label source.label ++
  encodeDouble AiOverlayEventFields.confidence source.confidence ++
  source.points.flatMap (fun p => encodeBytes AiOverlayEventFields.point p.toProtobufWire) ++
  encodeBytes AiOverlayEventFields.geoAnchor
    (geoPointWire source.latitude source.longitude source.altitudeM) ++
  encodeBytes AiOverlayEventFields.time
    (timestampedWire source.observedUnixMillis source.receivedUnixMillis)

def fromProtobufWire (payload : List UInt8) : Except String AiOverlayEventPayload := do
  let decoded ← decodeMessage payload
  let geoAnchor ← optionalMessage decoded AiOverlayEventFields.geoAnchor
  let timeMessage ← singleMessage decoded AiOverlayEventFields.time
  return {
    eventID := ← singleString decoded AiOverlayEventFields.eventID
    streamID := ← singleString decoded AiOverlayEventFields.streamID
    modelID := ← singleString decoded AiOverlayEventFields.modelID
    kind := ← singleInt decoded AiOverlayEventFields.kind
    label := ← singleString decoded AiOverlayEventFields.label
    confidence := ← singleFloat decoded AiOverlayEventFields.confidence
    points := ← (bytesValues decoded AiOverlayEventFields.point).mapM
      OverlayPointPayload.fromProtobufWire
    latitude := ← anchorFloat geoAnchor GeoPointFields.latitude
    longitude := ← anchorFloat geoAnchor GeoPointFields.longitude
    altitudeM := ← anchorFloat geoAnchor GeoPointFields.altitudeM
    observedUnixMillis := ← singleInt timeMessage TimestampedFields.observedUnixMillis
    receivedUnixMillis := ← singleInt timeMessage TimestampedFields.receivedUnixMillis }

end AiOverlayEventPayload

/-! ## Stream commands -/

namespace StreamCommandFields

@[simp] def commandID : ℕ := 1
@[simp] def streamID : ℕ := 2
@[simp] def targetAssetID : ℕ := 3
@[simp] def commandType : ℕ := 4
@[simp] def payload : ℕ := 5
@[simp] def time : ℕ := 6

end StreamCommandFields

structure StreamCommandPayload where
  commandID : String
  streamID : String
  targetAssetID : String
  commandType : String
  observedUnixMillis : ℕ
  payload : List UInt8 := []
  deriving DecidableEq

namespace StreamCommandPayload

def toProtobufWire (command : StreamCommandPayload) : List UInt8 :=
  encodeString StreamCommandFields.commandID command.commandID ++
  encodeString StreamCommandFields.streamID command.streamID ++
  encodeString StreamCommandFields.targetAssetID command.targetAssetID ++
  encodeString StreamCommandFields.commandType command.commandType ++
  (if command.payload = [] then [] else encodeBytes StreamCommandFields.payload command.payload) ++
  encodeBytes StreamCommandFields.time
    (timestampedWire command.observedUnixMillis command.observedUnixMillis)

def fromProtobufWire (wire : List UInt8) : Except String StreamCommandPayload := do
  let decoded ← decodeMessage wire
  let timeMessage ← singleMessage decoded StreamCommandFields.time
  return {
    commandID := ← singleString decoded StreamCommandFields.commandID
    streamID := ← singleString decoded StreamCommandFields.streamID
    targetAssetID := ← singleString decoded StreamCommandFields.targetAssetID
    commandType := ← singleString decoded StreamCommandFields.commandType
    observedUnixMillis := ← singleInt timeMessage TimestampedFields.observedUnixMillis
    payload := ← singleOptionalBytes decoded StreamCommandFields.payload }

end StreamCommandPayload

/-! ## The gateway stream -/

/-- `GatewayAckStatus`, whose values are its numbers. -/
inductive GatewayAckStatus where
  | unspecified
  | accepted
  | rejected
  | backpressure
  | reconnect
  deriving DecidableEq

namespace GatewayAckStatus

def toInt : GatewayAckStatus → ℕ
  | .unspecified => 0
  | .accepted => 1
  | .rejected => 2
  | .backpressure => 3
  | .reconnect => 4

def ofInt : ℕ → Except String GatewayAckStatus
  | 0 => .ok .unspecified
  | 1 => .ok .accepted
  | 2 => .ok .rejected
  | 3 => .ok .backpressure
  | 4 => .ok .reconnect
  | value => .error (toString value ++ " is not a valid GatewayAckStatus")

end GatewayAckStatus

namespace GatewayPayloadKind

def telemetry : String := "telemetry"
def streamEvent : String := "stream_event"
def commandAck : String := "command_ack"
def command : String := "command"
def telemetryBatch : String := "telemetry_batch"

end GatewayPayloadKind

namespace GatewayStreamRequestFields

@[simp] def requestID : ℕ := 1
@[simp] def orgID : ℕ := 2
@[simp] def groupID : ℕ := 3
@[simp] def assetID : ℕ := 4
@[simp] def telemetry : ℕ := 10
@[simp] def streamEvent : ℕ := 11
@[simp] def commandAck : ℕ := 12

end GatewayStreamRequestFields

namespace GatewayStreamResponseFields

@[simp] def responseID : ℕ := 1
@[simp] def requestID : ℕ := 2
@[simp] def status : ℕ := 3
@[simp] def reasonCode : ℕ := 4
@[simp] def command : ℕ := 10
@[simp] def telemetryBatch : ℕ := 11

end GatewayStreamResponseFields

def requestPayloadFields : List (String × ℕ) :=
  [(GatewayPayloadKind.telemetry, GatewayStreamRequestFields.telemetry),
    (GatewayPayloadKind.streamEvent, GatewayStreamRequestFields.streamEvent),
    (GatewayPayloadKind.commandAck, GatewayStreamRequestFields.commandAck)]

def responsePayloadFields : List (String × ℕ) :=
  [(GatewayPayloadKind.command, GatewayStreamResponseFields.command),
    (GatewayPayloadKind.telemetryBatch, GatewayStreamResponseFields.telemetryBatch)]

structure GatewayStreamRequestPayload where
  kind : String
  value : List UInt8
  deriving DecidableEq

def requestPayloadField (kind : String) : Except String ℕ :=
  (requestPayloadFields.lookup kind).elim
    (.error ("unsupported gateway request payload kind: " ++ kind)) .ok

def responsePayloadField (kind : String) : Except String ℕ :=
  (responsePayloadFields.lookup kind).elim
    (.error ("unsupported gateway response payload kind: " ++ kind)) .ok

def requestPayloadFieldAndKind (decoded : Message) : Except String (ℕ × String) :=
  let present := requestPayloadFields.filter fun e => !(bytesValues decoded e.2).isEmpty
  match present with
  | [(kind, field)] => .ok (field, kind)
  | _ => .error "gateway request must contain exactly one payload"

def responsePayload (decoded : Message) : Except String (Option GatewayStreamRequestPayload) :=
  let command := bytesValues decoded GatewayStreamResponseFields.command
  let telemetryBatch := bytesValues decoded GatewayStreamResponseFields.telemetryBatch
  if command ≠ [] ∧ telemetryBatch ≠ [] then
    .error "gateway response must contain at most one payload"
  else if 1 < command.length ∨ 1 < telemetryBatch.length then
    .error "gateway response payload must not be repeated"
  else match command, telemetryBatch with
    | value :: _, _ => .ok (some ⟨GatewayPayloadKind.command, value⟩)
    | [], value :: _ => .ok (some ⟨GatewayPayloadKind.telemetryBatch, value⟩)
    | [], [] => .ok none

structure GatewayStreamRequest where
  requestID : String
  orgID : String
  groupID : String
  assetID : String
  payload : GatewayStreamRequestPayload
  deriving DecidableEq

namespace GatewayStreamRequest

def toProtobufWire (request : GatewayStreamRequest) : Except String (List UInt8) := do
  let field ← requestPayloadField request.payload.kind
  return encodeString GatewayStreamRequestFields.requestID request.requestID ++
    encodeString GatewayStreamRequestFields.orgID request.orgID ++
    encodeString GatewayStreamRequestFields.groupID request.groupID ++
    encodeString GatewayStreamRequestFields.assetID request.assetID ++
    encodeBytes field request.payload.value

def fromProtobufWire (payload : List UInt8) : Except String GatewayStreamRequest := do
  let decoded ← decodeMessage payload
  let (payloadField, payloadKind) ← requestPayloadFieldAndKind decoded
  return {
    requestID := ← singleString decoded GatewayStreamRequestFields.requestID
    orgID := ← singleString decoded GatewayStreamRequestFields.orgID
    groupID := ← singleString decoded GatewayStreamRequestFields.groupID
    assetID := ← singleString decoded GatewayStreamRequestFields.assetID
    payload := { kind := payloadKind, value := ← singleBytes decoded payloadField } }

end GatewayStreamRequest

structure GatewayStreamResponse where
  responseID : String
  requestID : String
  status : GatewayAckStatus
  reasonCode : String
  payload : Option GatewayStreamRequestPayload := none
  deriving DecidableEq

namespace GatewayStreamResponse

def encodePayload : Option GatewayStreamRequestPayload → Except String (List UInt8)
  | none => .ok []
  | some payload => do return encodeBytes (← responsePayloadField payload.kind) payload.value

def toProtobufWire (response : GatewayStreamResponse) : Except String (List UInt8) := do
  let payload ← encodePayload response.payload
  return encodeString GatewayStreamResponseFields.responseID response.responseID ++
    (if response.requestID = "" then []
      else encodeString GatewayStreamResponseFields.requestID response.requestID) ++
    encodeVarintField GatewayStreamResponseFields.status response.status.toInt ++
    encodeString GatewayStreamResponseFields.reasonCode response.reasonCode ++ payload

def fromProtobufWire (payload : List UInt8) : Except String GatewayStreamResponse := do
  let decoded ← decodeMessage payload
  return {
    responseID := ← singleString decoded GatewayStreamResponseFields.responseID
    requestID := ← optionalString decoded GatewayStreamResponseFields.requestID
    status := ← GatewayAckStatus.ofInt (← singleInt decoded GatewayStreamResponseFields.status)
    reasonCode := ← singleString decoded GatewayStreamResponseFields.reasonCode
    payload := ← responsePayload decoded }

end GatewayStreamResponse

end GcsSaker.MessageCodecs
