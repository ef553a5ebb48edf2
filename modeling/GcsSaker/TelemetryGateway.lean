import GcsSaker.FloatOrder
import GcsSaker.MediaToken

/-!
# Telemetry at the gateway

A sample is decoded, checked against the identity of its sender and against the contract, and handed
to the store. What fails a check is rejected for good; what the store does not take is answered with
backpressure, so that the device sends it again.
-/

namespace GcsSaker.TelemetryGateway

open MediaToken (isBlank)
open SessionStore (PublishSession)

structure Timestamped where
  observedUnixMillis : ℤ

structure GeoPoint where
  latitude : Float
  longitude : Float
  altitudeM : Float

structure Vector3 where
  x : Float
  y : Float
  z : Float

/-- The fields of the message that the gateway or the policy service reads. -/
structure TelemetryEnvelope where
  eventID : String
  assetID : String
  time : Option Timestamped
  position : Option GeoPoint
  headingDeg : Float
  speedMps : Float
  batteryPercent : Float
  attitudeDeg : Option Vector3
  linkQualityPercent : Float

/-- The attitude, which is zero where the message has none. -/
def TelemetryEnvelope.getAttitudeDeg (message : TelemetryEnvelope) : Vector3 :=
  message.attitudeDeg.getD ⟨0, 0, 0⟩

structure Telemetry where
  envelope : TelemetryEnvelope
  eventID : String
  assetID : String
  observedUnixMillis : ℤ
  latitude : Float
  longitude : Float
  altitudeM : Float
  headingDeg : Float
  speedMPS : Float
  batteryPercent : Float
  rollDeg : Float
  pitchDeg : Float
  yawDeg : Float
  linkQualityPercent : Float

def TelemetryEnvelope.telemetry (message : TelemetryEnvelope) (time : Timestamped)
    (position : GeoPoint) : Telemetry where
  envelope := message
  eventID := message.eventID
  assetID := message.assetID
  observedUnixMillis := time.observedUnixMillis
  latitude := position.latitude
  longitude := position.longitude
  altitudeM := position.altitudeM
  headingDeg := message.headingDeg
  speedMPS := message.speedMps
  batteryPercent := message.batteryPercent
  rollDeg := message.getAttitudeDeg.x
  pitchDeg := message.getAttitudeDeg.y
  yawDeg := message.getAttitudeDeg.z
  linkQualityPercent := message.linkQualityPercent

/-- `unmarshal` reads the message from its bytes. -/
def decodeTelemetry (unmarshal : List UInt8 → Except String TelemetryEnvelope)
    (payload : List UInt8) : Except String Telemetry :=
  match unmarshal payload with
  | .error error => .error error
  | .ok message => match message.time, message.position with
    | some time, some position =>
      if message.eventID = "" ∨ message.assetID = "" ∨ time.observedUnixMillis ≤ 0 then
        .error "required telemetry identity or timestamp is missing"
      else .ok (message.telemetry time position)
    | _, _ => .error "telemetry time and position are required"

/-! ## The contract -/

def validateTelemetryIdentityAndTime (v : Telemetry) (now : ℤ) : Option String :=
  if isBlank v.eventID || isBlank v.assetID || v.observedUnixMillis ≤ 0 then
    some "required identity or time missing"
  else if now + 300 * Clock.second < Clock.ofUnixMilli v.observedUnixMillis then
    some "observed time exceeds future skew"
  else none

def validateFiniteTelemetryValues (v : Telemetry) (_now : ℤ) : Option String :=
  if [v.latitude, v.longitude, v.altitudeM, v.headingDeg, v.speedMPS, v.batteryPercent, v.rollDeg,
      v.pitchDeg, v.yawDeg, v.linkQualityPercent].any fun value => value.isNaN || value.isInf then
    some "non-finite telemetry"
  else none

/-- `value < low || value > high` -/
def outside (low high value : Float) : Bool := decide (value < low) || decide (high < value)

def validateTelemetryPosition (v : Telemetry) (_now : ℤ) : Option String :=
  if outside (-90) 90 v.latitude || outside (-180) 180 v.longitude then
    some "position outside WGS84"
  else if v.latitude == 0 && v.longitude == 0 then some "null-island position rejected"
  else none

def validateTelemetryMotion (v : Telemetry) (_now : ℤ) : Option String :=
  if outside (-500) 20000 v.altitudeM || outside 0 200 v.speedMPS then
    some "altitude or speed outside contract"
  else none

def validateTelemetrySignal (v : Telemetry) (_now : ℤ) : Option String :=
  if decide (v.headingDeg < 0) || decide (360 ≤ v.headingDeg) || outside 0 100 v.batteryPercent ||
      outside 0 100 v.linkQualityPercent then
    some "heading or percentage outside contract"
  else none

def validateTelemetryAttitude (v : Telemetry) (_now : ℤ) : Option String :=
  if [v.rollDeg, v.pitchDeg, v.yawDeg].any (outside (-360) 360) then
    some "attitude outside contract"
  else none

/-- The error of the first check that fails. -/
def validateTelemetry (v : Telemetry) (now : ℤ) : Option String :=
  [validateTelemetryIdentityAndTime, validateFiniteTelemetryValues, validateTelemetryPosition,
    validateTelemetryMotion, validateTelemetrySignal, validateTelemetryAttitude].findSome?
      fun validate => validate v now

/-! ## The handler -/

inductive GatewayAckStatus where
  | accepted
  | rejected
  | backpressure
  | reconnect
  deriving DecidableEq

inductive GatewayPayloadKind where
  | telemetry
  | stream
  | commandAck
  | command
  | batch
  deriving DecidableEq

structure GatewayStreamRequest where
  groupID : String
  assetID : String
  kind : GatewayPayloadKind
  value : List UInt8
  deriving DecidableEq

structure GatewayIdentity where
  deviceUUID : String
  groupID : String
  credentialVersion : Int64
  policyVersion : Int64
  session : Option PublishSession
  deriving DecidableEq

structure GatewayRequestDecision where
  status : GatewayAckStatus
  reasonCode : String
  deriving DecidableEq

def samplePredatesSession (identity : GatewayIdentity) (telemetry : Telemetry) : Bool :=
  match identity.session with
  | none => false
  | some session => telemetry.observedUnixMillis < Clock.unixMilli session.createdAt

def requestMatchesIdentity (request : GatewayStreamRequest) (identity : GatewayIdentity) : Bool :=
  request.assetID = identity.deviceUUID &&
    (request.groupID = "" || request.groupID = identity.groupID)

/-- The store says why it did not take a sample, if it did not. -/
def handleGatewayRequest (unmarshal : List UInt8 → Except String TelemetryEnvelope)
    (store : Option (GatewayIdentity → Telemetry → Option String))
    (identity : Option GatewayIdentity) (request : GatewayStreamRequest) (now : ℤ) :
    GatewayRequestDecision :=
  match identity with
  | none => ⟨.rejected, "device_identity_mismatch"⟩
  | some identity =>
    if !requestMatchesIdentity request identity then ⟨.rejected, "device_identity_mismatch"⟩
    else match store with
    | none => ⟨.backpressure, "telemetry_store_failed"⟩
    | some store =>
      if request.kind ≠ .telemetry then ⟨.backpressure, "telemetry_store_failed"⟩
      else match decodeTelemetry unmarshal request.value with
      | .error _ => ⟨.rejected, "malformed_protobuf"⟩
      | .ok telemetry =>
        if telemetry.assetID ≠ identity.deviceUUID then ⟨.rejected, "device_identity_mismatch"⟩
        else if samplePredatesSession identity telemetry then
          ⟨.rejected, "device_identity_mismatch"⟩
        else match validateTelemetry telemetry now with
        | some _ => ⟨.rejected, "telemetry_semantic_invalid"⟩
        | none => match store identity telemetry with
          | some _ => ⟨.backpressure, "telemetry_store_failed"⟩
          | none => ⟨.accepted, "accepted"⟩

/-! ## What is handed to the store -/

theorem decodeTelemetry_eq_ok_iff {unmarshal : List UInt8 → Except String TelemetryEnvelope}
    {payload : List UInt8} {telemetry : Telemetry} :
    decodeTelemetry unmarshal payload = .ok telemetry ↔ ∃ message time position,
      unmarshal payload = .ok message ∧ message.time = some time ∧
      message.position = some position ∧ message.eventID ≠ "" ∧ message.assetID ≠ "" ∧
      0 < time.observedUnixMillis ∧ message.telemetry time position = telemetry := by
  unfold decodeTelemetry
  constructor
  · intro h
    split at h
    · cases h
    · rename_i message hmessage
      split at h
      · rename_i time position htime hposition
        split_ifs at h with hmissing
        rw [not_or, not_or, not_le] at hmissing
        exact ⟨message, time, position, hmessage, htime, hposition, hmissing.1, hmissing.2.1,
          hmissing.2.2, Except.ok.inj h⟩
      · cases h
  · rintro ⟨message, time, position, hmessage, htime, hposition, hevent, hasset, hobserved, rfl⟩
    have hmissing : ¬ (message.eventID = "" ∨ message.assetID = "" ∨
        time.observedUnixMillis ≤ 0) := by
      rw [not_or, not_or, not_le]
      exact ⟨hevent, hasset, hobserved⟩
    simp only [hmessage, htime, hposition, if_neg hmissing]

theorem validateTelemetry_eq_none_iff {v : Telemetry} {now : ℤ} :
    validateTelemetry v now = none ↔ validateTelemetryIdentityAndTime v now = none ∧
      validateFiniteTelemetryValues v now = none ∧ validateTelemetryPosition v now = none ∧
      validateTelemetryMotion v now = none ∧ validateTelemetrySignal v now = none ∧
      validateTelemetryAttitude v now = none := by
  rw [validateTelemetry, List.findSome?_eq_none_iff]
  simp only [List.forall_mem_cons, List.not_mem_nil, false_implies, implies_true, and_true]

/-- The sample passes every check that the gateway makes on its own. -/
structure Admitted (unmarshal : List UInt8 → Except String TelemetryEnvelope)
    (identity : GatewayIdentity) (request : GatewayStreamRequest) (telemetry : Telemetry)
    (now : ℤ) : Prop where
  identified : requestMatchesIdentity request identity = true
  kind : request.kind = .telemetry
  decoded : decodeTelemetry unmarshal request.value = .ok telemetry
  asset : telemetry.assetID = identity.deviceUUID
  session : samplePredatesSession identity telemetry = false
  valid : validateTelemetry telemetry now = none

variable {unmarshal : List UInt8 → Except String TelemetryEnvelope}
  {store : GatewayIdentity → Telemetry → Option String} {identity : GatewayIdentity}
  {request : GatewayStreamRequest} {now : ℤ}

/-- Of a sample, the gateway accepts what the store takes. -/
theorem handleGatewayRequest_of_admitted {telemetry : Telemetry}
    (h : Admitted unmarshal identity request telemetry now) :
    handleGatewayRequest unmarshal (some store) (some identity) request now =
      match store identity telemetry with
      | some _ => ⟨.backpressure, "telemetry_store_failed"⟩
      | none => ⟨.accepted, "accepted"⟩ := by
  simp only [handleGatewayRequest, h.identified, Bool.not_true, Bool.false_eq_true, if_false,
    if_neg (not_not_intro h.kind), h.decoded, if_neg (not_not_intro h.asset), h.session, h.valid]

/-- Backpressure is answered to a sample only if the store has not taken it. -/
theorem admitted_of_backpressure (hkind : request.kind = .telemetry)
    (h : (handleGatewayRequest unmarshal (some store) (some identity) request now).status =
      .backpressure) :
    ∃ telemetry error, Admitted unmarshal identity request telemetry now ∧
      store identity telemetry = some error := by
  simp only [handleGatewayRequest, if_neg (not_not_intro hkind)] at h
  split_ifs at h with hidentified
  rw [Bool.not_eq_true', Bool.not_eq_false] at hidentified
  split at h
  · cases h
  · rename_i telemetry hdecoded
    split_ifs at h with hasset hsession
    rw [Bool.not_eq_true] at hsession
    split at h
    · cases h
    · rename_i hvalid
      split at h
      · rename_i error herror
        exact ⟨telemetry, error, ⟨hidentified, hkind, hdecoded, not_not.mp hasset, hsession,
          hvalid⟩, herror⟩
      · cases h

end GcsSaker.TelemetryGateway
