import GcsSaker.PasswordHasher
import Mathlib.Data.List.Sort

/-!
# Concurrent changes of a device

`DeviceLifecycleService` over `JdbcRegisteredDeviceRepository`, for the calls that change one
registered device. A call reads the row, the sensors and the streams in three statements and saves
the whole device in one transaction, which the lock of its row keeps apart from the other saves.
-/

namespace GcsSaker.Devices
open Groups (Thrown GroupId require)

/-! ## Devices -/

inductive RegisteredDeviceStatus where
  | active
  | pending
  | disabled
  deriving DecidableEq

def RegisteredDeviceStatus.name : RegisteredDeviceStatus → String
  | .active => "ACTIVE"
  | .pending => "PENDING"
  | .disabled => "DISABLED"

inductive DeviceType where
  | robot
  | drone
  | camera
  | mic
  | phone
  | edgeGateway
  deriving DecidableEq

namespace DeviceType

def name : DeviceType → String
  | .robot => "ROBOT"
  | .drone => "DRONE"
  | .camera => "CAMERA"
  | .mic => "MIC"
  | .phone => "PHONE"
  | .edgeGateway => "EDGE_GATEWAY"

def apiValue : DeviceType → String
  | .robot => "robot"
  | .drone => "drone"
  | .camera => "camera"
  | .mic => "mic"
  | .phone => "phone"
  | .edgeGateway => "edge-gateway"

def aliases : DeviceType → List String
  | .robot => ["ugv", "rover", "ground-robot", "ground_robot"]
  | .drone => ["uav", "uas"]
  | .camera => ["webcam", "cctv", "ip-camera", "ip_camera"]
  | .mic => ["microphone"]
  | .phone => ["mobile", "smartphone"]
  | .edgeGateway => ["edge_gateway", "gateway"]

end DeviceType

@[ext] structure RegisteredDeviceSensor where
  sensorId : String
  sensorType : String
  status : String
  sensorIdNotBlank : JvmText.isBlank sensorId = false
  sensorTypeNotBlank : JvmText.isBlank sensorType = false
  statusNotBlank : JvmText.isBlank status = false

instance : DecidableEq RegisteredDeviceSensor := fun sensor sensor' =>
  decidable_of_iff (sensor.sensorId = sensor'.sensorId ∧ sensor.sensorType = sensor'.sensorType ∧
    sensor.status = sensor'.status) RegisteredDeviceSensor.ext_iff.symm

@[ext] structure RegisteredDeviceStream where
  streamPath : String
  kind : String
  status : String
  streamPathNotBlank : JvmText.isBlank streamPath = false
  kindNotBlank : JvmText.isBlank kind = false
  statusNotBlank : JvmText.isBlank status = false

instance : DecidableEq RegisteredDeviceStream := fun stream stream' =>
  decidable_of_iff (stream.streamPath = stream'.streamPath ∧ stream.kind = stream'.kind ∧
    stream.status = stream'.status) RegisteredDeviceStream.ext_iff.symm

/-- A text that is not blank. -/
abbrev Label := {text : String // JvmText.isBlank text = false}

/-- The columns of `registered_devices`. -/
@[ext] structure DeviceRow where
  deviceUuid : Label
  groupId : GroupId
  displayName : Label
  credentialHash : Label
  status : RegisteredDeviceStatus
  deviceType : DeviceType
  credentialVersion : ℕ
  policyVersion : ℕ

instance : DecidableEq DeviceRow := fun row row' =>
  decidable_of_iff (row.deviceUuid.1 = row'.deviceUuid.1 ∧ row.groupId = row'.groupId ∧
    row.displayName.1 = row'.displayName.1 ∧ row.credentialHash.1 = row'.credentialHash.1 ∧
    row.status = row'.status ∧ row.deviceType = row'.deviceType ∧
    row.credentialVersion = row'.credentialVersion ∧ row.policyVersion = row'.policyVersion) (by
      rw [DeviceRow.ext_iff, Subtype.ext_iff, Subtype.ext_iff, Subtype.ext_iff])

@[ext] structure RegisteredDevice where
  row : DeviceRow
  sensors : List RegisteredDeviceSensor
  streamPaths : List RegisteredDeviceStream

instance : DecidableEq RegisteredDevice := fun device device' =>
  decidable_of_iff (device.row = device'.row ∧ device.sensors = device'.sensors ∧
    device.streamPaths = device'.streamPaths) RegisteredDevice.ext_iff.symm

/-- What a `copy` of a device sets, besides the versions. -/
structure DeviceChange where
  groupId : Option GroupId
  displayName : Option Label
  status : Option RegisteredDeviceStatus
  deviceType : Option DeviceType
  sensors : Option (List RegisteredDeviceSensor)
  streamPaths : Option (List RegisteredDeviceStream)
  credentialHash : Option Label

/-- The new policy version is the one after that of the copied device. -/
def RegisteredDevice.copy (device : RegisteredDevice) (change : DeviceChange) : RegisteredDevice where
  row :=
    { deviceUuid := device.row.deviceUuid
      groupId := change.groupId.getD device.row.groupId
      displayName := change.displayName.getD device.row.displayName
      credentialHash := change.credentialHash.getD device.row.credentialHash
      status := change.status.getD device.row.status
      deviceType := change.deviceType.getD device.row.deviceType
      credentialVersion := if change.credentialHash.isSome then device.row.credentialVersion + 1
        else device.row.credentialVersion
      policyVersion := device.row.policyVersion + 1 }
  sensors := change.sensors.getD device.sensors
  streamPaths := change.streamPaths.getD device.streamPaths

def DeviceChange.none : DeviceChange := ⟨.none, .none, .none, .none, .none, .none, .none⟩

/-! ## The service -/

/-- What the JDK answers. -/
structure Platform where
  deriveKey : DeriveKey
  lowercase : String → String
  equalsIgnoreCase : String → String → Bool

structure UpdateDeviceCommand where
  groupId : Option String
  displayName : Option String
  status : Option String
  deviceType : Option String
  sensors : Option (List RegisteredDeviceSensor)
  streamPaths : Option (List RegisteredDeviceStream)

abbrev Bytes (n : ℕ) := {bytes : List UInt8 // bytes.length = n}

/-- The random bytes of a new credential and of the salt are part of the request. -/
inductive DeviceRequest where
  | activate
  | disable
  | rotateCredential (random : Bytes 32) (salt : Bytes 16)
  | update (command : UpdateDeviceCommand)

def credentialPrefix : String := "gcs_dev_"

def generate (random : Bytes 32) : String := credentialPrefix ++ Base64.encode random.1

def newGroupId (value : String) : Except Thrown GroupId :=
  if h : JvmText.isBlank value = false then .ok ⟨value, h⟩
  else .error (.illegalArgument "group id must not be blank")

def label (message text : String) : Except Thrown Label :=
  if h : JvmText.isBlank text = false then .ok ⟨text, h⟩ else .error (.illegalArgument message)

theorem label_eq_ok_iff {message text : String} {value : Label} :
    label message text = .ok value ↔ value.1 = text := by
  unfold label
  split_ifs with h
  · rw [Except.ok.injEq, Subtype.ext_iff]
    exact eq_comm
  · apply iff_of_false id
    intro hvalue
    exact h (hvalue ▸ value.2)

theorem label_bind_eq_ok_iff {α : Type} {message text : String} {f : Label → Except Thrown α}
    {value : α} : (label message text >>= f) = .ok value ↔
      ∃ h : JvmText.isBlank text = false, f ⟨text, h⟩ = .ok value := by
  rw [CheckedSteps.bind_eq_ok_iff]
  constructor
  · rintro ⟨⟨text', h⟩, htext, hvalue⟩
    obtain rfl : text' = text := label_eq_ok_iff.1 htext
    exact ⟨h, hvalue⟩
  · rintro ⟨h, hvalue⟩
    exact ⟨⟨text, h⟩, label_eq_ok_iff.2 rfl, hvalue⟩

def newStream (streamPath kind status : String) : Except Thrown RegisteredDeviceStream := do
  let ⟨streamPath, streamPathNotBlank⟩ ← label "stream path must not be blank" streamPath
  let ⟨kind, kindNotBlank⟩ ← label "stream kind must not be blank" kind
  let ⟨status, statusNotBlank⟩ ← label "stream status must not be blank" status
  return ⟨streamPath, kind, status, streamPathNotBlank, kindNotBlank, statusNotBlank⟩

def isSegmentStart (c : Char) : Bool := ('a' ≤ c && c ≤ 'z') || ('0' ≤ c && c ≤ '9')

/-- `[a-z0-9][a-z0-9_-]{0,127}` -/
def isCanonicalSegment : List Char → Bool
  | [] => false
  | c :: rest => isSegmentStart c && decide (rest.length ≤ 127) &&
      rest.all fun d => isSegmentStart d || d == '_' || d == '-'

section Service

variable (platform : Platform)

def canonicalSegment (value name : String) : Except Thrown String := do
  let normalized := platform.lowercase (JvmText.trim value)
  require (isCanonicalSegment normalized.toList = true) (name ++ " is invalid")
  return normalized

/-- The path of `RegisteredDeviceStreamIdentity.from`. -/
def streamPathFrom (deviceUuid sensorId : String) : Except Thrown String := do
  let safeDevice ← canonicalSegment platform deviceUuid "device uuid"
  let safeSensor ← canonicalSegment platform sensorId "sensor id"
  return "raw/" ++ safeDevice ++ "/" ++ safeSensor

def canonicalStreams (deviceUuid : String) (sensors : List RegisteredDeviceSensor) :
    Except Thrown (List RegisteredDeviceStream) :=
  sensors.mapM fun sensor => do
    let path ← streamPathFrom platform deviceUuid sensor.sensorId
    newStream path "webrtc" sensor.status

def parseStatus (status : String) : Except Thrown RegisteredDeviceStatus :=
  match [RegisteredDeviceStatus.active, .pending, .disabled].find? fun entry =>
      platform.equalsIgnoreCase entry.name status with
  | some entry => .ok entry
  | none => .error (.illegalArgument "invalid device status")

def DeviceType.matches (type : DeviceType) (raw : String) : Bool :=
  let normalized := platform.lowercase (JvmText.trim raw)
  normalized == type.apiValue || normalized == platform.lowercase type.name ||
    type.aliases.contains normalized

def parseDeviceType (raw : String) : Except Thrown DeviceType :=
  match [DeviceType.robot, .drone, .camera, .mic, .phone, .edgeGateway].find? fun entry =>
      entry.matches platform raw with
  | some entry => .ok entry
  | none => .error (.illegalArgument "invalid device type")

def requireActiveSensor (status : RegisteredDeviceStatus) (sensors : List RegisteredDeviceSensor) :
    Except Thrown Unit :=
  if status ≠ .active then .ok ()
  else require (sensors.any fun sensor => platform.equalsIgnoreCase sensor.status "active")
    "active device requires at least one active sensor"

def updateStatus (status : RegisteredDeviceStatus) (device : RegisteredDevice) :
    Except Thrown DeviceChange := do
  requireActiveSensor platform status device.sensors
  return { DeviceChange.none with status := some status }

def rotateCredential (random : Bytes 32) (salt : Bytes 16) : Except Thrown DeviceChange := do
  let encoded ← PasswordHasher.standard.hash platform.deriveKey salt.1 (generate random)
  let credentialHash ← label "device credential hash must not be blank" encoded
  return { DeviceChange.none with credentialHash := some credentialHash }

/-- The streams that a command asks for, also by asking for sensors only. -/
def requestedStreams (deviceUuid : String) (command : UpdateDeviceCommand) :
    Except Thrown (Option (List RegisteredDeviceStream)) :=
  match command.streamPaths, command.sensors with
  | some streamPaths, _ => .ok (some streamPaths)
  | none, some sensors => (canonicalStreams platform deviceUuid sensors).map some
  | none, none => .ok none

def parsed {τ : Type} (parse : String → Except Thrown τ) : Option String → Except Thrown (Option τ)
  | none => .ok none
  | some text => (parse text).map some

def update (command : UpdateDeviceCommand) (current : RegisteredDevice) :
    Except Thrown DeviceChange := do
  let streamPaths ← requestedStreams platform current.row.deviceUuid.1 command
  let status ← parsed (parseStatus platform) command.status
  requireActiveSensor platform (status.getD current.row.status)
    (command.sensors.getD current.sensors)
  let groupId ← parsed newGroupId command.groupId
  let deviceType ← parsed (parseDeviceType platform) command.deviceType
  let displayName ← parsed (label "device display name must not be blank") command.displayName
  return ⟨groupId, displayName, status, deviceType, command.sensors, streamPaths, none⟩

/-- What a call changes in the device that it got. -/
def changeOf (device : RegisteredDevice) : DeviceRequest → Except Thrown DeviceChange
  | .activate => updateStatus platform .active device
  | .disable => updateStatus platform .disabled device
  | .rotateCredential random salt => rotateCredential platform random salt
  | .update command => update platform command device

end Service

/-! ## The repository -/

structure DeviceMetadataDelta (τ : Type) where
  removed : List String
  inserted : List τ
  updated : List τ

namespace DeviceMetadataDelta

variable {τ : Type} [DecidableEq τ]

def sortedBy (identity : τ → String) (rows : List τ) : List τ :=
  rows.insertionSort fun row row' => JvmText.notAfter (identity row) (identity row')

def between (identity : τ → String) (current desired : List τ) :
    Except Thrown (DeviceMetadataDelta τ) :=
  if (desired.map identity).Nodup then .ok
    { removed := (sortedBy identity (KeyedDelta.removed identity current desired)).map identity
      inserted := sortedBy identity (KeyedDelta.inserted identity current desired)
      updated := sortedBy identity (KeyedDelta.updated identity current desired) }
  else .error (.invalidContract "device_metadata_duplicate"
    "device metadata identities must be unique")

/-- The deletions, then the insertions, then the updates. -/
def applyTo (identity : τ → String) (delta : DeviceMetadataDelta τ) (table : List τ) : List τ :=
  KeyedDelta.overwrite identity delta.updated
    (KeyedDelta.delete identity delta.removed table ++ delta.inserted)

end DeviceMetadataDelta

/-- The rows of the device in the three tables. -/
structure DeviceTables where
  device : RegisteredDevice
  uniqueSensors : (device.sensors.map RegisteredDeviceSensor.sensorId).Nodup
  uniqueStreams : (device.streamPaths.map RegisteredDeviceStream.streamPath).Nodup

section Synchronize

variable {τ : Type} [DecidableEq τ] {identity : τ → String}

omit [DecidableEq τ] in
theorem sortedBy_perm (identity : τ → String) (rows : List τ) : (DeviceMetadataDelta.sortedBy identity rows).Perm rows :=
  List.perm_insertionSort _ rows

/-- The rows of the table become the desired ones. -/
theorem between_applyTo_perm {table desired : List τ} {delta : DeviceMetadataDelta τ}
    (htable : (table.map identity).Nodup)
    (h : DeviceMetadataDelta.between identity table desired = .ok delta) :
    (delta.applyTo identity table).Perm desired := by
  unfold DeviceMetadataDelta.between at h
  split_ifs at h with hdesired
  cases h
  have hall : table.filter (fun _ => decide True) = table :=
    List.filter_eq_self.2 fun _ _ => decide_eq_true trivial
  have hrest : table.filter (fun _ => decide (¬ True)) = [] :=
    List.filter_eq_nil_iff.2 fun _ _ => by decide
  have hdelta := KeyedDelta.perm_of_delta (P := fun _ => True) htable hdesired
    (List.Perm.of_eq hall.symm) (fun _ _ => trivial)
    (sortedBy_perm identity _) (sortedBy_perm identity _) (sortedBy_perm identity _)
  rw [hrest, List.nil_append] at hdelta
  exact hdelta

theorem nodup_of_between {table desired : List τ} {delta : DeviceMetadataDelta τ}
    (htable : (table.map identity).Nodup)
    (h : DeviceMetadataDelta.between identity table desired = .ok delta) :
    ((delta.applyTo identity table).map identity).Nodup := by
  have hdesired : (desired.map identity).Nodup := by
    unfold DeviceMetadataDelta.between at h
    split_ifs at h with hdesired
    exact hdesired
  exact ((between_applyTo_perm htable h).map identity).nodup_iff.2 hdesired

end Synchronize

/-- The transaction of `save`. -/
def DeviceTables.save (tables : DeviceTables) (device : RegisteredDevice) :
    Except Thrown DeviceTables :=
  match hsensors : DeviceMetadataDelta.between RegisteredDeviceSensor.sensorId
      tables.device.sensors device.sensors,
    hstreams : DeviceMetadataDelta.between RegisteredDeviceStream.streamPath
      tables.device.streamPaths device.streamPaths with
  | .ok sensors, .ok streams => .ok
    { device :=
        { row := device.row
          sensors := sensors.applyTo RegisteredDeviceSensor.sensorId tables.device.sensors
          streamPaths := streams.applyTo RegisteredDeviceStream.streamPath
            tables.device.streamPaths }
      uniqueSensors := nodup_of_between tables.uniqueSensors hsensors
      uniqueStreams := nodup_of_between tables.uniqueStreams hstreams }
  | .error thrown, _ => .error thrown
  | .ok _, .error thrown => .error thrown

theorem save_spec {tables tables' : DeviceTables} {device : RegisteredDevice}
    (h : tables.save device = .ok tables') :
    tables'.device.row = device.row ∧ tables'.device.sensors.Perm device.sensors ∧
      tables'.device.streamPaths.Perm device.streamPaths := by
  unfold DeviceTables.save at h
  split at h
  next sensors streams hsensors hstreams =>
    cases h
    exact ⟨rfl, between_applyTo_perm tables.uniqueSensors hsensors,
      between_applyTo_perm tables.uniqueStreams hstreams⟩
  next => cases h
  next => cases h

/-! ## The calls -/

/-- How far a call has come, with what it has read. -/
inductive DeviceCall where
  | reading (request : DeviceRequest)
  | attachingSensors (request : DeviceRequest) (row : DeviceRow)
  | attachingStreams (request : DeviceRequest) (row : DeviceRow)
      (sensors : List RegisteredDeviceSensor)
  | saving (request : DeviceRequest) (current : RegisteredDevice)

/-- The device that the call saves a copy of. -/
def DeviceCall.current : DeviceCall → Option RegisteredDevice
  | .saving _ current => some current
  | _ => none

def DeviceRequest.credential : DeviceRequest → Option String
  | .rotateCredential random _ => some (generate random)
  | _ => none

structure DeviceCredentialIssue where
  device : RegisteredDevice
  credential : String

/-- What a completed call saved and returned. -/
structure SavedDevice where
  change : DeviceChange
  device : RegisteredDevice
  credential : Option String

def SavedDevice.issue (saved : SavedDevice) : Option DeviceCredentialIssue :=
  saved.credential.map fun credential => ⟨saved.device, credential⟩

/-- `log` records the completed calls, in the order of their saves. -/
structure DeviceState where
  tables : DeviceTables
  calls : ℕ → Option DeviceCall
  log : List SavedDevice

def DeviceState.initial (tables : DeviceTables) : DeviceState := ⟨tables, fun _ => none, []⟩

inductive DeviceAction where
  | start (call : ℕ) (request : DeviceRequest)
  | read (call : ℕ)
  | save (call : ℕ)
  | throws (call : ℕ)

namespace DeviceState

def setCall (s : DeviceState) (call : ℕ) (phase : Option DeviceCall) : DeviceState :=
  { s with calls := Function.update s.calls call phase }

/-- The next of the three statements of `findByDeviceUuid`. -/
def read (s : DeviceState) (call : ℕ) : Option DeviceState :=
  match s.calls call with
  | some (.reading request) =>
    some (s.setCall call (some (.attachingSensors request s.tables.device.row)))
  | some (.attachingSensors request row) =>
    some (s.setCall call (some (.attachingStreams request row s.tables.device.sensors)))
  | some (.attachingStreams request row sensors) =>
    some (s.setCall call (some (.saving request ⟨row, sensors, s.tables.device.streamPaths⟩)))
  | _ => none

def save (platform : Platform) (s : DeviceState) (call : ℕ) : Option DeviceState :=
  match s.calls call with
  | some (.saving request current) =>
    match changeOf platform current request with
    | .ok change =>
      match s.tables.save (current.copy change) with
      | .ok tables => some
        { s.setCall call none with
          tables
          log := s.log ++ [⟨change, current.copy change, request.credential⟩] }
      | .error _ => none
    | .error _ => none
  | _ => none

def step (platform : Platform) (s : DeviceState) : DeviceAction → Option DeviceState
  | .start call request =>
    if (s.calls call).isNone then some (s.setCall call (some (.reading request))) else none
  | .read call => s.read call
  | .save call => s.save platform call
  | .throws call => (s.calls call).map fun _ => s.setCall call none

end DeviceState

end GcsSaker.Devices
