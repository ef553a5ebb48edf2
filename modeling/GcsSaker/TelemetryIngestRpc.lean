import GcsSaker.CheckedSteps
import GcsSaker.ControlPolicy
import GcsSaker.JvmText
import GcsSaker.TelemetryGateway

/-!
# Telemetry at the policy service

The private call of the policy service validates the binding of the device and checks the sample
once more before it is ingested. What a sample needs, apart from its binding, is stated once.
-/

namespace GcsSaker.TelemetryIngestRpc

open Control (RegisteredDeviceStatus GroupStatus)
open TelemetryGateway (TelemetryEnvelope)

/-- The exceptions that the call tells apart. -/
inductive Failure where
  | bindingRejected (message : String)
  | permissionDenied (code : String)
  | illegalArgument (message : String)
  | runtime (message : String)
  deriving DecidableEq

def require (condition : Bool) (message : String) : Except Failure Unit :=
  if condition then .ok () else .error (.illegalArgument message)

def failedRequirement : String := "Failed requirement."

def badRequest (reason : String) : Failure := .runtime reason

/-! ## Devices and their bindings -/

structure GroupId where
  value : String
  notBlank : JvmText.isBlank value = false

theorem GroupId.value_inj {groupId groupId' : GroupId} :
    groupId.value = groupId'.value ↔ groupId = groupId' := by
  cases groupId
  cases groupId'
  rw [GroupId.mk.injEq]

instance : DecidableEq GroupId := fun groupId groupId' =>
  decidable_of_iff (groupId.value = groupId'.value) GroupId.value_inj

def newGroupId (value : String) : Except Failure GroupId :=
  if h : JvmText.isBlank value = false then .ok ⟨value, h⟩
  else .error (.illegalArgument "group id must not be blank")

structure AuthenticatedPrincipal where
  username : String
  groupId : GroupId
  notBlank : JvmText.isBlank username = false

def newAuthenticatedPrincipal (username : String) (groupId : GroupId) :
    Except Failure AuthenticatedPrincipal :=
  if h : JvmText.isBlank username = false then .ok ⟨username, groupId, h⟩
  else .error (.illegalArgument "username must not be blank")

structure RegisteredDevice where
  deviceUuid : String
  groupId : GroupId
  status : RegisteredDeviceStatus
  credentialVersion : Int64
  policyVersion : Int64
  notBlank : JvmText.isBlank deviceUuid = false
  deriving DecidableEq

structure OrganizationUnit where
  id : GroupId
  status : GroupStatus
  deriving DecidableEq

structure DeviceBinding where
  deviceUuid : String
  groupId : String
  credentialVersion : Int64
  policyVersion : Int64
  deriving DecidableEq

/-- `DeviceCredentialAuthenticationService`; without a hierarchy the group is not looked at. -/
structure Credentials where
  findByDeviceUuid : String → Option RegisteredDevice
  hierarchy : Option (List OrganizationUnit)

namespace Credentials

variable (credentials : Credentials)

def validateGroup (device : RegisteredDevice) : Except Failure Unit :=
  match credentials.hierarchy with
  | none => .ok ()
  | some groups =>
    if groups.any fun unit => unit.id = device.groupId && unit.status = .active then .ok ()
    else .error (.bindingRejected "device_group_inactive")

def validateBinding (deviceUuid : String) (groupId : GroupId)
    (credentialVersion policyVersion : Int64) : Except Failure RegisteredDevice :=
  match credentials.findByDeviceUuid deviceUuid with
  | none => .error (.bindingRejected "device_binding_invalid")
  | some device =>
    if device.status ≠ .active || device.groupId ≠ groupId ||
        device.credentialVersion ≠ credentialVersion || device.policyVersion ≠ policyVersion then
      .error (.bindingRejected "device_binding_invalid")
    else do
      credentials.validateGroup device
      .ok device

def validatedDevice (request : DeviceBinding) : Except Failure RegisteredDevice := do
  let groupId ← newGroupId request.groupId
  credentials.validateBinding request.deviceUuid groupId request.credentialVersion
    request.policyVersion

end Credentials

/-! ## The read model -/

def maxFutureSkewMillis : ℤ := 300000

def maxUuidLength : ℕ := 128

def maxEventIdLength : ℕ := 160

structure TelemetryIngestRequest where
  eventId : Option String := none
  uuid : Option String
  latitude : Option Float := none
  longitude : Option Float := none
  altitude : Option Float := none
  magneticX : Option Float := none
  magneticY : Option Float := none
  magneticZ : Option Float := none
  soc : Option String := none
  phoneBatterySOC : Option Float := none
  velocity : Option Float := none
  totalDistance : Option Float := none
  epochTime : Option ℤ := none
  observedUnixMillis : Option ℤ := none
  portDistance : Option Float := none
  batteryPercent : Option Float := none
  headingDeg : Option Float := none
  rollDeg : Option Float := none
  pitchDeg : Option Float := none
  yawDeg : Option Float := none
  linkQualityPercent : Option Float := none

structure TelemetryReadModel where
  uuid : String
  latitude : Float
  longitude : Float
  altitude : Float
  magneticX : Float
  magneticY : Float
  magneticZ : Float
  soc : String
  phoneBatterySOC : Float
  velocity : Float
  totalDistance : Float
  epochTime : String
  portDistance : Float
  groupId : GroupId
  batteryPercent : Option Float
  headingDeg : Option Float
  rollDeg : Option Float
  pitchDeg : Option Float
  yawDeg : Option Float
  linkQualityPercent : Option Float
  observedAt : Option ℤ
  eventId : Option String
  sessionId : Option String
  streamId : Option String

/-- `?.trim()?.takeIf { it.isNotEmpty() }` -/
def normalized (text : Option String) : Option String :=
  (text.map JvmText.trim).filter fun text => text ≠ ""

/-- `%02d` -/
def twoDigits (n : ℤ) : String :=
  if 0 ≤ n ∧ n < 10 then "0" ++ toString n else toString n

def formatEpochTime (epochTime : Option ℤ) : String :=
  let seconds := epochTime.getD 0
  twoDigits (seconds.tdiv 3600) ++ ":" ++ twoDigits ((seconds.tmod 3600).tdiv 60) ++ ":" ++
    twoDigits (seconds.tmod 60)

def validateTelemetryUuid (uuid : Option String) : Except Failure String :=
  match normalized uuid with
  | none => .error (badRequest "uuid is required")
  | some uuid =>
    if maxUuidLength < JvmText.length uuid then
      .error (badRequest "telemetry identity is too long")
    else .ok uuid

namespace TelemetryIngestRequest

variable (request : TelemetryIngestRequest)

def readModel (principal : AuthenticatedPrincipal) (uuid : String) : TelemetryReadModel where
  uuid := uuid
  latitude := request.latitude.getD 0
  longitude := request.longitude.getD 0
  altitude := request.altitude.getD 0
  magneticX := request.magneticX.getD 0
  magneticY := request.magneticY.getD 0
  magneticZ := request.magneticZ.getD 0
  soc := request.soc.getD "0"
  phoneBatterySOC := request.phoneBatterySOC.getD 0
  velocity := request.velocity.getD 0
  totalDistance := request.totalDistance.getD 0
  epochTime := formatEpochTime request.epochTime
  portDistance := request.portDistance.getD 0
  groupId := principal.groupId
  batteryPercent := request.batteryPercent
  headingDeg := request.headingDeg
  rollDeg := request.rollDeg
  pitchDeg := request.pitchDeg
  yawDeg := request.yawDeg
  linkQualityPercent := request.linkQualityPercent
  observedAt := request.observedUnixMillis.map Clock.ofUnixMilli
  eventId := normalized request.eventId
  sessionId := none
  streamId := none

def toReadModel (principal : AuthenticatedPrincipal) : Except Failure TelemetryReadModel := do
  let uuid ← validateTelemetryUuid request.uuid
  if (normalized request.eventId).any fun event => maxEventIdLength < JvmText.length event then
    .error (badRequest "telemetry event identity is too long")
  else .ok (request.readModel principal uuid)

/-- The request as it is copied for a device. -/
def forDevice (deviceId : String) (observed : ℤ) : TelemetryIngestRequest :=
  { request with
    uuid := some deviceId
    epochTime := some ((observed.tdiv 1000).tmod 86400) }

def toDeviceReadModel (groupId : GroupId) (deviceId : String) (now : ℤ) :
    Except Failure TelemetryReadModel :=
  match normalized (some deviceId) with
  | none => .error (badRequest "uuid is required")
  | some deviceId =>
    if (normalized request.uuid).any fun uuid => uuid ≠ deviceId then
      .error (badRequest "deviceId does not match telemetry uuid")
    else match request.observedUnixMillis with
    | none => .error (badRequest "observedUnixMillis is required")
    | some observed =>
      if observed ≤ 0 then
        .error (badRequest "observedUnixMillis must be a positive Unix timestamp")
      else if Clock.unixMilli now + maxFutureSkewMillis < observed then
        .error (badRequest "observedUnixMillis is too far in the future")
      else do
        let principal ← newAuthenticatedPrincipal deviceId groupId
        (request.forDevice deviceId observed).toReadModel principal

end TelemetryIngestRequest

/-! ## The call -/

structure DeviceTelemetryRequest where
  binding : DeviceBinding
  telemetry : Option TelemetryEnvelope
  sessionId : String
  streamId : String

/-- `value in low..high` -/
def within (low high value : Float) : Bool := decide (low ≤ value) && decide (value ≤ high)

def validateSample (sample : TelemetryEnvelope) (position : TelemetryGateway.GeoPoint) :
    Except Failure Unit := do
  require (within (-90) 90 position.latitude && within (-180) 180 position.longitude)
    failedRequirement
  require (position.latitude != 0 || position.longitude != 0) failedRequirement
  require (within (-500) 20000 position.altitudeM && within 0 200 sample.speedMps)
    failedRequirement
  require (decide (0 ≤ sample.headingDeg) && decide (sample.headingDeg < 360)) failedRequirement
  require (within 0 100 sample.batteryPercent && within 0 100 sample.linkQualityPercent)
    failedRequirement
  require ([sample.getAttitudeDeg.x, sample.getAttitudeDeg.y, sample.getAttitudeDeg.z].all
    (within (-360) 360)) failedRequirement

def ifBlankNull (text : String) : Option String := if JvmText.isBlank text then none else some text

def ingestRequest (device : RegisteredDevice) (sample : TelemetryEnvelope)
    (time : TelemetryGateway.Timestamped) (position : TelemetryGateway.GeoPoint) :
    TelemetryIngestRequest where
  eventId := some sample.eventID
  uuid := some device.deviceUuid
  latitude := some position.latitude
  longitude := some position.longitude
  altitude := some position.altitudeM
  velocity := some sample.speedMps
  observedUnixMillis := some time.observedUnixMillis
  batteryPercent := some sample.batteryPercent
  headingDeg := some sample.headingDeg
  rollDeg := some sample.getAttitudeDeg.x
  pitchDeg := some sample.getAttitudeDeg.y
  yawDeg := some sample.getAttitudeDeg.z
  linkQualityPercent := some sample.linkQualityPercent

/-- What is done with the sample of a device up to the call of `ingestion.ingest`, which is given
the result. -/
def mapSample (device : RegisteredDevice) (request : DeviceTelemetryRequest) (now : ℤ) :
    Except Failure TelemetryReadModel :=
  match request.telemetry with
  | none => .error (.illegalArgument failedRequirement)
  | some sample => do
    require (sample.assetID = device.deviceUuid) failedRequirement
    match sample.time, sample.position with
    | some time, some position =>
      require (!JvmText.isBlank sample.eventID) failedRequirement
      validateSample sample position
      let mapped ← (ingestRequest device sample time position).toDeviceReadModel device.groupId
        device.deviceUuid now
      .ok { mapped with
        sessionId := ifBlankNull request.sessionId
        streamId := ifBlankNull request.streamId }
    | _, _ => .error (.illegalArgument failedRequirement)

inductive StatusCode where
  | unauthenticated
  | permissionDenied
  | invalidArgument
  | unavailable
  deriving DecidableEq

def Failure.status : Failure → StatusCode × String
  | .bindingRejected _ => (.unauthenticated, "device_binding_invalid")
  | .permissionDenied code => (.permissionDenied, code)
  | .illegalArgument _ => (.invalidArgument, "telemetry_invalid")
  | .runtime _ => (.unavailable, "telemetry_store_failed")

def respond {α : Type} (action : Except Failure α) : Except (StatusCode × String) α :=
  action.mapError Failure.status

/-- The answer says whether the sample is stored. `ingest` is `ingestion.ingest`, which fails or
not. -/
def ingestTelemetry (credentials : Credentials) (ingest : TelemetryReadModel → Except Failure Unit)
    (request : DeviceTelemetryRequest) (now : ℤ) : Except (StatusCode × String) Bool :=
  respond do
    let device ← credentials.validatedDevice request.binding
    let mapped ← mapSample device request now
    ingest mapped
    .ok true

/-! ## When the call gets as far as ingestion -/

theorem require_eq_ok_iff {condition : Bool} {message : String} {u : Unit} :
    require condition message = .ok u ↔ condition = true := by
  cases condition with
  | false => simp only [require, Bool.false_eq_true, if_false, reduceCtorEq]
  | true => exact iff_of_true rfl rfl

theorem validateSample_eq_ok_iff {sample : TelemetryEnvelope}
    {position : TelemetryGateway.GeoPoint} {u : Unit} :
    validateSample sample position = .ok u ↔
      (within (-90) 90 position.latitude && within (-180) 180 position.longitude) = true ∧
      (position.latitude != 0 || position.longitude != 0) = true ∧
      (within (-500) 20000 position.altitudeM && within 0 200 sample.speedMps) = true ∧
      (decide (0 ≤ sample.headingDeg) && decide (sample.headingDeg < 360)) = true ∧
      (within 0 100 sample.batteryPercent && within 0 100 sample.linkQualityPercent) = true ∧
      [sample.getAttitudeDeg.x, sample.getAttitudeDeg.y, sample.getAttitudeDeg.z].all
        (within (-360) 360) = true := by
  simp only [validateSample, CheckedSteps.bind_eq_ok_iff, require_eq_ok_iff, exists_and_left,
    exists_const]

theorem normalized_some (text : String) :
    normalized (some text) = if JvmText.isBlank text then none else some (JvmText.trim text) := by
  rw [normalized, Option.map_some, Option.filter_some]
  by_cases hblank : JvmText.isBlank text = true
  · rw [if_pos hblank, (JvmText.trim_eq_empty_iff text).mpr hblank]
    rfl
  · rw [if_neg hblank, if_pos]
    rw [decide_eq_true_eq]
    exact fun hempty => hblank ((JvmText.trim_eq_empty_iff text).mp hempty)

theorem normalized_of_not_blank {text : String} (h : JvmText.isBlank text = false) :
    normalized (some text) = some (JvmText.trim text) := by
  rw [normalized_some, h]
  rfl

theorem newAuthenticatedPrincipal_of_not_blank {username : String} {groupId : GroupId}
    (h : JvmText.isBlank username = false) :
    newAuthenticatedPrincipal username groupId = .ok ⟨username, groupId, h⟩ :=
  dif_pos h

theorem validateTelemetryUuid_eq_ok_iff {uuid text : String} (h : JvmText.isBlank uuid = false) :
    validateTelemetryUuid (some uuid) = .ok text ↔
      JvmText.length (JvmText.trim uuid) ≤ maxUuidLength ∧ JvmText.trim uuid = text := by
  rw [validateTelemetryUuid, normalized_of_not_blank h]
  rw [CheckedSteps.ite_error_eq_ok_iff, not_lt, Except.ok.injEq]

theorem TelemetryIngestRequest.toReadModel_isOk_iff {request : TelemetryIngestRequest}
    {principal : AuthenticatedPrincipal} {uuid event : String} (huuid : request.uuid = some uuid)
    (hevent : request.eventId = some event) (huuidBlank : JvmText.isBlank uuid = false)
    (heventBlank : JvmText.isBlank event = false) :
    (∃ model, request.toReadModel principal = .ok model) ↔
      JvmText.length (JvmText.trim uuid) ≤ maxUuidLength ∧
      JvmText.length (JvmText.trim event) ≤ maxEventIdLength := by
  have hmodel : ∀ model, request.toReadModel principal = .ok model ↔
      JvmText.length (JvmText.trim uuid) ≤ maxUuidLength ∧
      JvmText.length (JvmText.trim event) ≤ maxEventIdLength ∧
      request.readModel principal (JvmText.trim uuid) = model := by
    intro model
    rw [toReadModel, CheckedSteps.bind_eq_ok_iff]
    simp only [huuid, hevent, validateTelemetryUuid_eq_ok_iff huuidBlank,
      normalized_of_not_blank heventBlank, Option.any_some, decide_eq_true_eq, and_assoc,
      exists_and_left, exists_eq_left', CheckedSteps.ite_error_eq_ok_iff, not_lt, Except.ok.injEq]
  simp only [hmodel, exists_and_left, exists_eq', and_true]

theorem TelemetryIngestRequest.toDeviceReadModel_isOk_iff {request : TelemetryIngestRequest}
    {groupId : GroupId} {deviceId event : String} {observed now : ℤ}
    (huuid : request.uuid = some deviceId) (hevent : request.eventId = some event)
    (hobserved : request.observedUnixMillis = some observed)
    (hdevice : JvmText.isBlank deviceId = false) (heventBlank : JvmText.isBlank event = false) :
    (∃ model, request.toDeviceReadModel groupId deviceId now = .ok model) ↔
      0 < observed ∧ observed ≤ Clock.unixMilli now + maxFutureSkewMillis ∧
      JvmText.length (JvmText.trim deviceId) ≤ maxUuidLength ∧
      JvmText.length (JvmText.trim event) ≤ maxEventIdLength := by
  have htrimmed : JvmText.isBlank (JvmText.trim deviceId) = false := by
    rw [JvmText.isBlank_trim, hdevice]
  simp only [toDeviceReadModel, huuid, hobserved, normalized_of_not_blank hdevice, Option.any_some,
    ne_eq, not_true_eq_false, decide_false, Bool.false_eq_true, if_false,
    CheckedSteps.ite_error_eq_ok_iff, not_le, not_lt, exists_and_left,
    newAuthenticatedPrincipal_of_not_blank htrimmed, CheckedSteps.bind_eq_ok_iff, Except.ok.injEq,
    exists_eq_left']
  refine and_congr_right fun _ => and_congr_right fun _ => ?_
  have hread := @toReadModel_isOk_iff (request.forDevice (JvmText.trim deviceId) observed)
    ⟨JvmText.trim deviceId, groupId, htrimmed⟩ (JvmText.trim deviceId) event rfl hevent htrimmed
    heventBlank
  rw [JvmText.trim_trim] at hread
  exact hread

/-- A sample of the device that has a time and a position gets as far as ingestion if and only if it
passes the ranges, is not from the future, and its identities are neither blank nor too long. -/
theorem mapSample_isOk_iff {device : RegisteredDevice} {request : DeviceTelemetryRequest} {now : ℤ}
    {sample : TelemetryEnvelope} {time : TelemetryGateway.Timestamped}
    {position : TelemetryGateway.GeoPoint}
    (hsample : request.telemetry = some sample) (hasset : sample.assetID = device.deviceUuid)
    (htime : sample.time = some time) (hposition : sample.position = some position) :
    (∃ model, mapSample device request now = .ok model) ↔
      JvmText.isBlank sample.eventID = false ∧ validateSample sample position = .ok () ∧
      0 < time.observedUnixMillis ∧
      time.observedUnixMillis ≤ Clock.unixMilli now + maxFutureSkewMillis ∧
      JvmText.length (JvmText.trim device.deviceUuid) ≤ maxUuidLength ∧
      JvmText.length (JvmText.trim sample.eventID) ≤ maxEventIdLength := by
  simp only [mapSample, hsample, htime, hposition, CheckedSteps.bind_eq_ok_iff, require_eq_ok_iff,
    hasset, decide_true, Bool.not_eq_true', Except.ok.injEq]
  have hmapped : JvmText.isBlank sample.eventID = false →
      ((∃ model, (ingestRequest device sample time position).toDeviceReadModel device.groupId
        device.deviceUuid now = .ok model) ↔ 0 < time.observedUnixMillis ∧
        time.observedUnixMillis ≤ Clock.unixMilli now + maxFutureSkewMillis ∧
        JvmText.length (JvmText.trim device.deviceUuid) ≤ maxUuidLength ∧
        JvmText.length (JvmText.trim sample.eventID) ≤ maxEventIdLength) := fun hevent =>
    TelemetryIngestRequest.toDeviceReadModel_isOk_iff rfl rfl rfl device.notBlank hevent
  constructor
  · rintro ⟨model, _, -, _, hevent, _, hvalid, mapped, hok, -⟩
    exact ⟨hevent, hvalid, (hmapped hevent).mp ⟨mapped, hok⟩⟩
  · rintro ⟨hevent, hvalid, hrest⟩
    obtain ⟨mapped, hok⟩ := (hmapped hevent).mpr hrest
    exact ⟨_, (), trivial, (), hevent, (), hvalid, mapped, hok, rfl⟩

theorem ingestTelemetry_eq_ok_iff {credentials : Credentials}
    {ingest : TelemetryReadModel → Except Failure Unit} {request : DeviceTelemetryRequest} {now : ℤ}
    {stored : Bool} :
    ingestTelemetry credentials ingest request now = .ok stored ↔ stored = true ∧ ∃ device mapped,
      credentials.validatedDevice request.binding = .ok device ∧
      mapSample device request now = .ok mapped ∧ ingest mapped = .ok () := by
  have hrespond : ∀ action : Except Failure Bool,
      respond action = .ok stored ↔ action = .ok stored := by
    intro action
    cases action with
    | error failure => exact iff_of_false (fun h => nomatch h) (fun h => nomatch h)
    | ok value => exact ⟨fun h => by cases h; rfl, fun h => by cases h; rfl⟩
  rw [ingestTelemetry, hrespond]
  simp only [CheckedSteps.bind_eq_ok_iff, Except.ok.injEq]
  constructor
  · rintro ⟨device, hdevice, mapped, hmapped, _, hingest, rfl⟩
    exact ⟨rfl, device, mapped, hdevice, hmapped, hingest⟩
  · rintro ⟨rfl, device, mapped, hdevice, hmapped, hingest⟩
    exact ⟨device, hdevice, mapped, hmapped, (), hingest, rfl⟩

end GcsSaker.TelemetryIngestRpc
