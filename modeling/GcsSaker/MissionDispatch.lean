import GcsSaker.ControlPlane
import GcsSaker.RouteGeofence

/-!
# Mission dispatch

`Dispatch` validates a mission, asks for the session it names, for the right to control that
session's group and for the allowed area of the group, and last reserves the command id in Redis.
The step function interleaves the pieces of any number of calls; what a collaborator answers is
part of the action, and the log keeps every question with its answer.
-/

namespace GcsSaker.Mission

open Control (Reply)

inductive MissionError where
  | invalidMission
  | confirmation
  | commandExpired
  | sessionMismatch
  | accessDenied
  | geofenceViolation
  | geofenceVersionStale
  | duplicateCommand
  | commandLedgerUnavailable
  deriving DecidableEq

def MissionError.text : MissionError → String
  | .invalidMission => "mission_invalid"
  | .confirmation => "operator_confirmation_required"
  | .commandExpired => "mission_command_expired"
  | .sessionMismatch => "mission_session_mismatch"
  | .accessDenied => "mission_access_denied"
  | .geofenceViolation => "mission_geofence_violation"
  | .geofenceVersionStale => "mission_geofence_version_stale"
  | .duplicateCommand => "mission_command_duplicate"
  | .commandLedgerUnavailable => "mission_command_ledger_unavailable"

def altitudeAGL : String := "AGL"

def altitudeMSL : String := "MSL"

structure Waypoint where
  sequence : ℤ
  latitude : Float
  longitude : Float
  altitudeM : Float
  holdSeconds : ℤ
  action : String

structure DispatchRequest where
  missionID : String
  missionRevision : ℤ
  commandID : String
  assetUUID : String
  assetSessionID : String
  issuedAt : ℤ
  expiresAt : ℤ
  altitudeDatum : String
  geofenceVersion : String
  operatorConfirmed : Bool
  waypoints : List Waypoint

structure ActiveAssetSession where
  sessionID : String
  assetUUID : String
  groupID : String
  active : Bool
  deriving DecidableEq

structure DispatchEnvelope where
  request : DispatchRequest
  groupID : String

/-! ## Validation -/

def hasMissingIdentity (request : DispatchRequest) : Bool :=
  request.missionID == "" || decide (request.missionRevision < 1) || request.commandID == "" ||
    request.geofenceVersion == "" || request.assetUUID == "" || request.assetSessionID == ""

def hasInvalidLifetime (request : DispatchRequest) (now : ℤ) : Bool :=
  decide (now < request.issuedAt) || decide (request.expiresAt ≤ now) ||
    decide (request.expiresAt ≤ request.issuedAt) ||
    decide (Control.maxCommandLifetime < request.expiresAt - request.issuedAt)

def isValidWaypoint (waypoint : Waypoint) (expectedSequence : ℤ) : Bool :=
  decide (waypoint.sequence = expectedSequence) && decide (-90 ≤ waypoint.latitude) &&
    decide (waypoint.latitude ≤ 90) && decide (-180 ≤ waypoint.longitude) &&
    decide (waypoint.longitude ≤ 180) && decide (0 ≤ waypoint.holdSeconds) &&
    decide (waypoint.holdSeconds ≤ 3600)

def hasValidWaypoints (waypoints : List Waypoint) : Bool :=
  !(decide (waypoints.length = 0) || decide (200 < waypoints.length)) &&
    waypoints.zipIdx.all fun entry => isValidWaypoint entry.1 (entry.2 + 1)

def validateRequest (request : DispatchRequest) (now : ℤ) : Option MissionError :=
  if hasMissingIdentity request then some .invalidMission
  else if request.operatorConfirmed = false then some .confirmation
  else if hasInvalidLifetime request now then some .commandExpired
  else if request.altitudeDatum ≠ altitudeAGL ∧ request.altitudeDatum ≠ altitudeMSL then
    some .invalidMission
  else if hasValidWaypoints request.waypoints = false then some .invalidMission
  else none

/-! ## The geofence of the group -/

inductive AreaError where
  | unavailable
  | invalid
  | versionStale
  deriving DecidableEq

def AreaError.text : AreaError → String
  | .unavailable => "mission_geofence_unavailable"
  | .invalid => GeofenceError.invalid.text
  | .versionStale => MissionError.geofenceVersionStale.text

structure GeoPoint where
  latitude : Float
  longitude : Float

structure AllowedAreaSnapshot where
  groupID : String
  version : String
  polygons : List (List GeoPoint)

open Float.Model in
/-- The number that a floating-point value stands for, unless it is infinite or not a number. -/
def exactValue (x : Float) : Option ℚ :=
  match x.toModel.unpack with
  | .zero _ => some 0
  | .finite .positive m e _ => some (m * (2 : ℚ) ^ e)
  | .finite .negative m e _ => some (-(m * (2 : ℚ) ^ e))
  | .infinity _ => none
  | .notANumber => none

def GeoPoint.exact (point : GeoPoint) : Option GcsSaker.GeoPoint :=
  match exactValue point.latitude, exactValue point.longitude with
  | some latitude, some longitude => some ⟨latitude, longitude⟩
  | _, _ => none

def Waypoint.exact (waypoint : Waypoint) : Option GcsSaker.Waypoint :=
  match exactValue waypoint.latitude, exactValue waypoint.longitude with
  | some latitude, some longitude => some ⟨latitude, longitude⟩
  | _, _ => none

/-- A polygon with an infinite coordinate, or one that is not a number, is invalid. -/
def validatedArea (points : List GeoPoint) : Except AreaError Polygon :=
  match points.mapM GeoPoint.exact with
  | none => .error .invalid
  | some exact => match validatedPolygon exact with
    | .error _ => .error .invalid
    | .ok polygon => .ok polygon

/-- A waypoint that is infinite, or not a number, is inside no polygon. -/
def routeInsideArea (waypoints : List Waypoint) (polygon : Polygon) : Bool :=
  match waypoints.mapM Waypoint.exact with
  | none => false
  | some exact => routeInsidePolygon exact polygon

def routeInsideAll (waypoints : List Waypoint) : List (List GeoPoint) → Except AreaError Bool
  | [] => .ok true
  | candidate :: rest => match validatedArea candidate with
    | .error err => .error err
    | .ok polygon =>
      if routeInsideArea waypoints polygon then routeInsideAll waypoints rest else .ok false

/-- `provided` is what the provider answers for the group: `none` when there is no provider or it
fails. -/
def currentPolygons (groupID requestedVersion : String) (provided : Option AllowedAreaSnapshot) :
    Except AreaError (List (List GeoPoint)) :=
  if groupID = "" ∨ requestedVersion = "" then .error .unavailable
  else match provided with
  | none => .error .unavailable
  | some snapshot =>
    if snapshot.groupID ≠ groupID ∨ snapshot.version = "" then .error .invalid
    else if snapshot.version ≠ requestedVersion then .error .versionStale
    else if snapshot.polygons.isEmpty then .error .invalid
    else .ok snapshot.polygons

def allowsRoute (groupID requestedVersion : String) (waypoints : List Waypoint)
    (provided : Option AllowedAreaSnapshot) : Except AreaError Bool :=
  match currentPolygons groupID requestedVersion provided with
  | .error err => .error err
  | .ok polygons => routeInsideAll waypoints polygons

/-! ## What a call makes of the answers -/

def acceptSession (request : DispatchRequest) (resolved : Option ActiveAssetSession) :
    Except MissionError ActiveAssetSession :=
  match resolved with
  | none => .error .sessionMismatch
  | some session =>
    if session.active = false ∨ session.assetUUID ≠ request.assetUUID ∨
        session.sessionID ≠ request.assetSessionID then .error .sessionMismatch
    else .ok session

def acceptControl (allowed : Option Bool) : Option MissionError :=
  if allowed = some true then none else some .accessDenied

def acceptRoute (inside : Except AreaError Bool) : Option MissionError :=
  match inside with
  | .error .versionStale => some .geofenceVersionStale
  | .ok true => none
  | _ => some .geofenceViolation

/-! ## Calls under way -/

/-- What a call waits for: the resolver, the policy, the provider of areas, the reading of the
ledger's clock, and Redis. -/
inductive DispatchStage where
  | resolving
  | authorizing (session : ActiveAssetSession)
  | fencing (session : ActiveAssetSession)
  | reserving (session : ActiveAssetSession)
  | setting (session : ActiveAssetSession) (ttl : ℤ)
  deriving DecidableEq

structure DispatchCall where
  principal : String
  request : DispatchRequest
  stage : DispatchStage

inductive DispatchEvent where
  | dispatched (call : ℕ) (principal : String) (request : DispatchRequest) (now : ℤ)
  | sessionResolved (call : ℕ) (sessionID : String) (answer : Option ActiveAssetSession)
  | controlDecided (call : ℕ) (principal groupID : String) (answer : Option Bool)
  | areaProvided (call : ℕ) (groupID : String) (answer : Option AllowedAreaSnapshot)
  | returned (call : ℕ) (result : Except MissionError DispatchEnvelope) (now : ℤ)

def DispatchEvent.call : DispatchEvent → ℕ
  | .dispatched call _ _ _ => call
  | .sessionResolved call _ _ => call
  | .controlDecided call _ _ _ => call
  | .areaProvided call _ _ => call
  | .returned call _ _ => call

/-- The clock that dispatchers and Redis share, the ledger, the calls under way, and the log, latest
event first. -/
structure Desk where
  clock : ℤ
  commands : ExpiringStore ℤ String Unit
  calls : AList fun _ : ℕ => DispatchCall
  log : List DispatchEvent

inductive DispatchAction where
  | tick (now : ℤ)
  | dispatch (call : ℕ) (principal : String) (request : DispatchRequest)
  | resolveSession (call : ℕ) (answer : Option ActiveAssetSession)
  | canControl (call : ℕ) (answer : Option Bool)
  | allowedArea (call : ℕ) (answer : Option AllowedAreaSnapshot)
  | ledgerTime (call : ℕ)
  | setNX (call : ℕ) (reply : Reply)

def DispatchAction.call? : DispatchAction → Option ℕ
  | .tick _ => none
  | .dispatch call _ _ => some call
  | .resolveSession call _ => some call
  | .canControl call _ => some call
  | .allowedArea call _ => some call
  | .ledgerTime call => some call
  | .setNX call _ => some call

/-- The ledger's Redis does not execute the command, or its reply does not arrive. -/
def DispatchAction.ledgerFails : DispatchAction → Bool
  | .setNX _ reply => decide (reply ≠ .delivered)
  | _ => false

namespace Desk

def start (clock : ℤ) (commands : ExpiringStore ℤ String Unit) : Desk := ⟨clock, commands, ∅, []⟩

variable (s : Desk)

def finish (call : ℕ) (result : Except MissionError DispatchEnvelope) : Desk :=
  { s with calls := s.calls.erase call, log := .returned call result s.clock :: s.log }

def move (call : ℕ) (c : DispatchCall) (stage : DispatchStage) : Desk :=
  { s with calls := s.calls.insert call { c with stage := stage } }

def note (event : DispatchEvent) : Desk := { s with log := event :: s.log }

/-- The answer to a question moves the call on or ends it. -/
def settle (call : ℕ) (c : DispatchCall) : Except MissionError DispatchStage → Desk
  | .error err => s.finish call (.error err)
  | .ok stage => s.move call c stage

/-- `Reserve`, once its checks have given the lifetime `ttl`. -/
def reserve (digest : String → String) (call : ℕ) (c : DispatchCall) (session : ActiveAssetSession)
    (ttl : ℤ) (reply : Reply) : Desk :=
  let done := s.commands.setNX s.clock (Control.commandLedgerKey digest c.request.commandID) ()
    (s.clock + Control.setNXLifetime ttl)
  let s' : Desk := { s with commands := done.1 }
  if reply = .delivered then
    if done.2 then s'.finish call (.ok ⟨c.request, session.groupID⟩)
    else s'.finish call (.error .duplicateCommand)
  else s'.finish call (.error .commandLedgerUnavailable)

end Desk

def DispatchCall.resolved (c : DispatchCall) (answer : Option ActiveAssetSession) :
    Except MissionError DispatchStage :=
  (acceptSession c.request answer).map .authorizing

def DispatchCall.decided (session : ActiveAssetSession) (answer : Option Bool) :
    Except MissionError DispatchStage :=
  match acceptControl answer with
  | some err => .error err
  | none => .ok (.fencing session)

def DispatchCall.fenced (c : DispatchCall) (session : ActiveAssetSession)
    (answer : Option AllowedAreaSnapshot) : Except MissionError DispatchStage :=
  match acceptRoute (allowsRoute session.groupID c.request.geofenceVersion c.request.waypoints
      answer) with
  | some err => .error err
  | none => .ok (.reserving session)

def DispatchCall.timed (c : DispatchCall) (session : ActiveAssetSession) (now : ℤ) :
    Except MissionError DispatchStage :=
  match Control.reservationTTL c.request.commandID c.request.expiresAt now with
  | .error _ => .error .commandLedgerUnavailable
  | .ok ttl => .ok (.setting session ttl)

/-- One piece of one call, or a tick of the clock. An action that no call is waiting for is not
enabled. -/
def Desk.step (digest : String → String) (s : Desk) : DispatchAction → Option Desk
  | .tick now => if s.clock ≤ now then some { s with clock := now } else none
  | .dispatch call principal request =>
    if (s.calls.lookup call).isSome ∨ call ∈ s.log.map DispatchEvent.call then none
    else
      let s' := s.note (.dispatched call principal request s.clock)
      match validateRequest request s.clock with
      | some err => some (s'.finish call (.error err))
      | none => some (s'.move call ⟨principal, request, .resolving⟩ .resolving)
  | .resolveSession call answer => match s.calls.lookup call with
    | some c => match c.stage with
      | .resolving => some ((s.note (.sessionResolved call c.request.assetSessionID answer)).settle
          call c (c.resolved answer))
      | _ => none
    | none => none
  | .canControl call answer => match s.calls.lookup call with
    | some c => match c.stage with
      | .authorizing session =>
        some ((s.note (.controlDecided call c.principal session.groupID answer)).settle call c
          (DispatchCall.decided session answer))
      | _ => none
    | none => none
  | .allowedArea call answer => match s.calls.lookup call with
    | some c => match c.stage with
      | .fencing session => some ((s.note (.areaProvided call session.groupID answer)).settle call c
          (c.fenced session answer))
      | _ => none
    | none => none
  | .ledgerTime call => match s.calls.lookup call with
    | some c => match c.stage with
      | .reserving session => some (s.settle call c (c.timed session s.clock))
      | _ => none
    | none => none
  | .setNX call reply => match s.calls.lookup call with
    | some c => match c.stage with
      | .setting session ttl =>
        if reply = .lostBefore then some (s.finish call (.error .commandLedgerUnavailable))
        else some (s.reserve digest call c session ttl reply)
      | _ => none
    | none => none

end GcsSaker.Mission
