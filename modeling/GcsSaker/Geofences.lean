import GcsSaker.HexFloat
import GcsSaker.OperationalEvents
import GcsSaker.Sha256
import GcsSaker.TextOrder

/-!
# Geofences

Geofences and the two repositories that keep them, the version of the allowed area of a group, and
the evaluation of a sample against the geofences of its group.
-/

namespace GcsSaker.Geofences

open OperationalEvents (OperationalEventReadModel)
open TelemetryIngestRpc (GroupId TelemetryReadModel within)

inductive Failure where
  | illegalArgument (message : String)
  | illegalState (message : String)
  | outOfMemory
  deriving DecidableEq

structure GeoPoint where
  latitude : Float
  longitude : Float
  latitudeInRange : within (-90) 90 latitude = true
  longitudeInRange : within (-180) 180 longitude = true
  deriving DecidableEq

def newGeoPoint (latitude longitude : Float) : Except Failure GeoPoint :=
  if hlat : within (-90) 90 latitude = true then
    if hlon : within (-180) 180 longitude = true then .ok ⟨latitude, longitude, hlat, hlon⟩
    else .error (.illegalArgument "longitude must be between -180 and 180")
  else .error (.illegalArgument "latitude must be between -90 and 90")

@[ext] structure Geofence where
  id : String
  name : String
  groupId : GroupId
  polygon : List GeoPoint
  enabled : Bool
  idNotBlank : JvmText.isBlank id = false
  nameNotBlank : JvmText.isBlank name = false
  threePoints : 3 ≤ polygon.length

instance : DecidableEq Geofence := fun geofence geofence' =>
  decidable_of_iff (geofence.id = geofence'.id ∧ geofence.name = geofence'.name ∧
    geofence.groupId = geofence'.groupId ∧ geofence.polygon = geofence'.polygon ∧
    geofence.enabled = geofence'.enabled) Geofence.ext_iff.symm

/-! ## Containment -/

def onSegment (point start stop : GeoPoint) : Bool :=
  let cross := (point.latitude - start.latitude) * (stop.longitude - start.longitude) -
    (point.longitude - start.longitude) * (stop.latitude - start.latitude)
  if 1e-10 < cross.abs then false
  else
    within (min start.latitude stop.latitude) (max start.latitude stop.latitude) point.latitude &&
      within (min start.longitude stop.longitude) (max start.longitude stop.longitude)
        point.longitude

/-- The loop over the vertices, from the vertex `previous` and with `inside` so far. -/
def containsFrom (point : GeoPoint) : GeoPoint → Bool → List GeoPoint → Bool
  | _, inside, [] => inside
  | previous, inside, current :: rest =>
    if onSegment point previous current then true
    else
      let crosses := decide (point.latitude < current.latitude) !=
        decide (point.latitude < previous.latitude)
      let intersectionLongitude := (previous.longitude - current.longitude) *
        (point.latitude - current.latitude) / (previous.latitude - current.latitude) +
        current.longitude
      containsFrom point current
        (if crosses && decide (point.longitude < intersectionLongitude) then !inside else inside)
        rest

namespace Geofence

variable (geofence : Geofence)

theorem polygon_ne_nil : geofence.polygon ≠ [] := by
  intro h
  have hthree := geofence.threePoints
  rw [h] at hthree
  exact absurd hthree (by decide)

def contains (point : GeoPoint) : Bool :=
  containsFrom point (geofence.polygon.getLast geofence.polygon_ne_nil) false geofence.polygon

end Geofence

/-! ## Repositories -/

/-- The contents of a repository: the values of the map in the order in which it runs through them,
or the rows of the table with the order of its texts. -/
inductive GeofenceRepository where
  | inMemory (geofences : List Geofence)
  | jdbc (notAfter : String → String → Bool) (geofences : List Geofence)

namespace GeofenceRepository

def geofences : GeofenceRepository → List Geofence
  | .inMemory geofences => geofences
  | .jdbc _ geofences => geofences

/-- `ORDER BY name, id` -/
def byNameAndId (notAfter : String → String → Bool) (geofence geofence' : Geofence) : Prop :=
  if geofence.name = geofence'.name then notAfter geofence.id geofence'.id = true
  else notAfter geofence.name geofence'.name = true

instance {notAfter : String → String → Bool} : DecidableRel (byNameAndId notAfter) :=
  fun _ _ => by unfold byNameAndId; infer_instance

def enabledIn (groupId : GroupId) (geofences : List Geofence) : List Geofence :=
  geofences.filter fun geofence => geofence.enabled && decide (geofence.groupId = groupId)

/-- The statement is given the limit 500 and the offset 0. -/
def findEnabled (groupId : GroupId) : GeofenceRepository → List Geofence
  | .inMemory geofences => enabledIn groupId geofences
  | .jdbc notAfter geofences =>
    ((enabledIn groupId geofences).insertionSort (byNameAndId notAfter)).take 500

end GeofenceRepository

/-! ## The allowed area of a group -/

structure AllowedAreaSnapshot where
  groupId : GroupId
  version : String
  geofences : List Geofence

/-- The UTF-8 bytes of a text. No array has more elements than an `Int` can count. -/
def toByteArray (value : String) : Except Failure (List UInt8) :=
  let bytes := value.toByteArray.data.toList
  if bytes.length < 2 ^ 31 then .ok bytes else .error .outOfMemory

/-- What a field adds to the digest: its length in four bytes, and its bytes. -/
def addField (value : String) : Except Failure (List UInt8) :=
  (toByteArray value).map fun bytes => Sha256.bigEndian 4 bytes.length ++ bytes

def pointFields (point : GeoPoint) : List String :=
  [HexFloat.toHexString point.latitude, HexFloat.toHexString point.longitude]

def geofenceFields (geofence : Geofence) : List String :=
  geofence.id :: geofence.polygon.flatMap pointFields

/-- The fields in the order in which they are added. -/
def contentFields (groupId : GroupId) (enabled : List Geofence) : List String :=
  groupId.value :: enabled.flatMap geofenceFields

def content (groupId : GroupId) (enabled : List Geofence) : Except Failure (List UInt8) :=
  ((contentFields groupId enabled).mapM addField).map List.flatten

def contentVersion (groupId : GroupId) (enabled : List Geofence) : Except Failure String :=
  (content groupId enabled).map fun bytes => "sha256:" ++ Sha256.hex (Sha256.digest bytes)

/-- `AllowedAreaSnapshotService.current` -/
def current (repository : GeofenceRepository) (groupId : GroupId) :
    Except Failure AllowedAreaSnapshot :=
  let enabled := JvmText.sortedBy (·.id) (repository.findEnabled groupId)
  if enabled.isEmpty then .error (.illegalState "allowed_area_unavailable")
  else (contentVersion groupId enabled).map fun version => ⟨groupId, version, enabled⟩

/-! ## Evaluating a sample -/

/-- `outsideState` of `GeofenceTelemetryEvaluator`, by its keys. -/
abbrev OutsideState := String → Option Bool

def stateKey (telemetry : TelemetryReadModel) (geofence : Geofence) : String :=
  telemetry.groupId.value ++ ":" ++ telemetry.uuid ++ ":" ++ geofence.id

def exitEvent (id : String) (telemetry : TelemetryReadModel) (geofence : Geofence)
    (occurredAt : ℤ) : OperationalEventReadModel where
  id := id
  occurredAt := occurredAt
  severity := "warning"
  category := "geofence"
  eventType := some "geofence.exit"
  sourceService := some "auth-policy"
  source := telemetry.uuid
  message := "Device " ++ telemetry.uuid ++ " exited geofence " ++ geofence.name
  connections := 0
  latencyMs := 0
  throughputMbps := 0
  groupId := telemetry.groupId

/-- One round of the loop over the geofences, which adds an event if the device has left. -/
def evaluateGeofence (telemetry : TelemetryReadModel) (point : GeoPoint) (occurredAt : ℤ)
    (uuids : ℕ → String) (state : OutsideState × List OperationalEventReadModel)
    (geofence : Geofence) : OutsideState × List OperationalEventReadModel :=
  let key := stateKey telemetry geofence
  let outside := !geofence.contains point
  let wasOutside := (state.1 key).getD false
  (Function.update state.1 key (some outside),
    if outside && !wasOutside then
      state.2 ++ [exitEvent (uuids state.2.length) telemetry geofence occurredAt]
    else state.2)

/-- `GeofenceTelemetryEvaluator.evaluate`; without a repository or without a place for events it
does nothing. The answer lists the events that are appended; `uuids` are their fresh identities. -/
def evaluate (geofences : Option GeofenceRepository) (hasEvents : Bool) (outside : OutsideState)
    (telemetry : TelemetryReadModel) (occurredAt : ℤ) (uuids : ℕ → String) :
    Except Failure (OutsideState × List OperationalEventReadModel) :=
  match geofences, hasEvents with
  | some repository, true =>
    (newGeoPoint telemetry.latitude telemetry.longitude).map fun point =>
      (repository.findEnabled telemetry.groupId).foldl
        (evaluateGeofence telemetry point occurredAt uuids) (outside, [])
  | _, _ => .ok (outside, [])

end GcsSaker.Geofences
