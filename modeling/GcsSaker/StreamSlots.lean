import GcsSaker.EcmaNumber
import GcsSaker.Machines

/-!
# Stream slots of the dashboard

The slots that the dashboard shows, what a poll of the devices makes of them, and what a user does
to one of them. A field that is `undefined` or `null` is none; the source treats both alike.
-/

namespace GcsSaker.StreamSlots

inductive DashboardStreamStatus where
  | online
  | fallback
  | offline
  | error
  | reconnecting
  | degraded
  deriving DecidableEq

inductive DashboardStreamMode where
  | eo
  | ir
  | ai
  | map
  deriving DecidableEq

inductive MediaType where
  | eo
  | ir
  | ai
  | map
  deriving DecidableEq

def modeForMediaType : MediaType → DashboardStreamMode
  | .eo => .eo
  | .ir => .ir
  | .ai => .ai
  | .map => .map

inductive DashboardGeometrySource where
  | mock
  | registry
  | telemetry
  | device
  deriving DecidableEq

structure StreamGeometry where
  lat : Float
  lng : Float
  altitudeM : Float
  batteryPercent : Option Float
  headingDeg : Float
  pitchDeg : Float
  rollDeg : Float
  yawDeg : Float
  fovDeg : Float
  source : Option DashboardGeometrySource
  deriving DecidableEq

structure StreamDeviceOption where
  id : String
  name : String
  streamPath : String
  status : DashboardStreamStatus
  mediaType : MediaType
  geometry : Option StreamGeometry
  deriving DecidableEq

structure DashboardStreamSlot where
  id : String
  title : String
  status : DashboardStreamStatus
  mode : DashboardStreamMode
  detail : String
  aiModeEnabled : Option Bool
  connectedDeviceId : Option String
  streamPath : Option String
  geometry : Option StreamGeometry
  deriving DecidableEq

/-- The path of a slot that has one; an empty path counts as none. -/
def DashboardStreamSlot.path (stream : DashboardStreamSlot) : Option String :=
  stream.streamPath.filter (· ≠ "")

def shouldPreferDeviceGeometry (geometry : Option StreamGeometry) : Bool :=
  match geometry.bind (·.source) with
  | some .telemetry => true
  | some .device => true
  | _ => false

/-! ## Merging the devices of a poll -/

/-- `devicesByStreamPath.get` -/
def deviceAt (devices : List StreamDeviceOption) (path : String) : Option StreamDeviceOption :=
  devices.find? (·.streamPath = path)

/-- The slot has a path that is the path of a device. -/
def isActive (devices : List StreamDeviceOption) (stream : DashboardStreamSlot) : Bool :=
  stream.path.any fun path => (deviceAt devices path).isSome

/-- A slot that is kept, with what its device says of it. -/
def refresh (devices : List StreamDeviceOption) (stream : DashboardStreamSlot) :
    DashboardStreamSlot :=
  match stream.path with
  | none => stream
  | some path =>
    match deviceAt devices path with
    | none => { stream with status := .offline }
    | some device =>
      { stream with
        connectedDeviceId := some (stream.connectedDeviceId.getD device.id)
        detail := device.name
        mode := modeForMediaType device.mediaType
        status := device.status
        geometry := if shouldPreferDeviceGeometry device.geometry then device.geometry
          else stream.geometry.or device.geometry }

/-- `mergeExistingStreamSlot` on the slots one after the other; a path that was seen drops a
slot. -/
def mergeExisting (devices : List StreamDeviceOption) :
    List String → List DashboardStreamSlot → List DashboardStreamSlot
  | _, [] => []
  | seen, stream :: streams =>
    match stream.path with
    | none => refresh devices stream :: mergeExisting devices seen streams
    | some path =>
      if path ∈ seen then mergeExisting devices seen streams
      else refresh devices stream :: mergeExisting devices (path :: seen) streams

def isAvailableSlot (devices : List StreamDeviceOption) (stream : DashboardStreamSlot) : Bool :=
  stream.status = .offline && !isActive devices stream

def streamSlotForDevice (device : StreamDeviceOption) (title : String) : DashboardStreamSlot where
  id := device.streamPath
  title := title
  status := device.status
  mode := modeForMediaType device.mediaType
  detail := device.name
  aiModeEnabled := none
  connectedDeviceId := some device.id
  streamPath := some device.streamPath
  geometry := device.geometry

/-- One round of the loop: the device takes the first slot that is available, or a new one. -/
def placeDevice (devices : List StreamDeviceOption) (streams : List DashboardStreamSlot)
    (device : StreamDeviceOption) : List DashboardStreamSlot :=
  match streams.findIdx? (isAvailableSlot devices) with
  | some index => streams.modify index fun stream => streamSlotForDevice device stream.title
  | none => streams ++ [streamSlotForDevice device ("스트리밍 " ++ toString (streams.length + 1))]

def discoveredDevices (streams : List DashboardStreamSlot) (devices : List StreamDeviceOption) :
    List StreamDeviceOption :=
  devices.filter fun device => device.streamPath ∉ streams.filterMap (·.path)

def placeDiscoveredDevices (streams : List DashboardStreamSlot)
    (devices : List StreamDeviceOption) : List DashboardStreamSlot :=
  (discoveredDevices streams devices).foldl (placeDevice devices) streams

/-- The slots with a device come first; the titles stay where they are. -/
def compactActiveStreams (streams : List DashboardStreamSlot)
    (devices : List StreamDeviceOption) : List DashboardStreamSlot :=
  let ordered := streams.filter (isActive devices) ++
    streams.filter fun stream => !isActive devices stream
  ordered.mapIdx fun index stream =>
    { stream with title := (streams[index]?.map (·.title)).getD stream.title }

def mergeStreamSlotsWithDevices (streams : List DashboardStreamSlot)
    (devices : List StreamDeviceOption) : List DashboardStreamSlot :=
  compactActiveStreams (placeDiscoveredDevices (mergeExisting devices [] streams) devices) devices

/-! ## What a user does -/

def connectDeviceToStreamSlot (stream : DashboardStreamSlot) (device : StreamDeviceOption) :
    DashboardStreamSlot :=
  { stream with
    connectedDeviceId := some device.id
    detail := device.name
    mode := modeForMediaType device.mediaType
    status := device.status
    streamPath := some device.streamPath
    geometry := device.geometry }

def disconnectStreamSlot (stream : DashboardStreamSlot) : DashboardStreamSlot :=
  { stream with
    connectedDeviceId := none
    detail := "스트림 미선택"
    status := .offline
    streamPath := none
    geometry := none }

def emptyStreamSlot (id title detail : String) : DashboardStreamSlot :=
  ⟨id, title, .offline, .eo, detail, none, none, none, none⟩

def CCTV_EMPTY_STREAM_ID_PREFIX : String := "cctv-empty-"

def padStart (text : String) : String :=
  String.ofList (List.replicate (2 - text.toList.length) '0' ++ text.toList)

def createEmptyCctvStreamSlot (channelNumber : ℕ) : DashboardStreamSlot :=
  emptyStreamSlot (CCTV_EMPTY_STREAM_ID_PREFIX ++ EcmaNumber.integerText channelNumber)
    ("CCTV " ++ padStart (EcmaNumber.integerText channelNumber)) "클릭하여 채널 변경"

/-- The channel that an identity names, if it has the prefix and a positive integer after it. -/
def channelNumber (streamId : String) : Option ℕ :=
  let start := CCTV_EMPTY_STREAM_ID_PREFIX.toList
  if streamId.toList.take start.length = start then
    (EcmaNumber.Number (String.ofList (streamId.toList.drop start.length))).bind fun number =>
      if number.den = 1 ∧ 1 ≤ number then some number.num.toNat else none
  else none

def ensureEditableCctvSlot (streams : List DashboardStreamSlot) (streamId : String) :
    List DashboardStreamSlot :=
  if streams.any (·.id = streamId) then streams
  else
    match channelNumber streamId with
    | none => streams
    | some channelNumber => streams ++ [createEmptyCctvStreamSlot channelNumber]

def DEFAULT_DASHBOARD_STREAMS : List DashboardStreamSlot :=
  (List.range 4).map fun index =>
    emptyStreamSlot ("stream-slot-" ++ toString (index + 1)) ("스트리밍 " ++ toString (index + 1))
      "스트림 미선택"

/-! ## Steps -/

/-- A poll, whose devices have distinct paths, or an action of the user on the slot with an
identity. -/
inductive Action where
  | poll (devices : List StreamDeviceOption) (distinct : (devices.map (·.streamPath)).Nodup)
  | connect (streamId : String) (device : StreamDeviceOption)
  | disconnect (streamId : String)
  | select (identifier : String)

/-- The slots after an action, and the identity that it selects. -/
def step (streams : List DashboardStreamSlot) : Action → List DashboardStreamSlot × Option String
  | .poll devices _ => (mergeStreamSlotsWithDevices streams devices, none)
  | .connect streamId device =>
    (streams.map fun stream =>
      if stream.id = streamId then connectDeviceToStreamSlot stream device else stream,
      if streamId = "" then none else some streamId)
  | .disconnect streamId =>
    (streams.map fun stream => if stream.id = streamId then disconnectStreamSlot stream else stream,
      none)
  | .select identifier =>
    let next := ensureEditableCctvSlot streams identifier
    (next, (next.find? fun stream =>
      stream.id = identifier || stream.streamPath = some identifier).map (·.id))

end GcsSaker.StreamSlots
