import GcsSaker.Clock

/-!
# Publish sessions in memory

A publish session with its renewal token's hash, the hash before that one, and a version that
counts the renewals. The store in memory keeps the sessions by id and, for each stream, the id of
the session saved for it last.
-/

namespace GcsSaker.SessionStore

inductive PublishSessionStatus where
  | active
  | ended
  deriving DecidableEq

def PublishSessionStatus.text : PublishSessionStatus → String
  | .active => "active"
  | .ended => "ended"

structure PublishSession where
  sessionID : String
  deviceUUID : String
  sensorID : String
  streamID : String
  path : String
  groupID : String
  credentialVersion : Int64
  devicePolicyVersion : Int64
  principalID : String
  bindingType : String
  status : PublishSessionStatus
  renewalTokenHash : List UInt8
  previousRenewalTokenHash : List UInt8
  renewalTokenVersion : Int64
  publishTokenExpiresAt : ℤ
  renewalTokenExpiresAt : ℤ
  createdAt : ℤ
  updatedAt : ℤ
  deriving DecidableEq

def PublishSession.activeAt (session : PublishSession) (now : ℤ) : Bool :=
  decide (session.status = .active) && decide (now < session.renewalTokenExpiresAt)

inductive RenewalRotationResult where
  | rotated
  | replayed
  | rejected
  deriving DecidableEq

/-- An error of a store: one of the two that callers test for, or an error of the Redis client that
is passed on as it is. -/
inductive StoreError where
  | notFound
  | unavailable
  | client
  deriving DecidableEq

def StoreError.text : StoreError → Option String
  | .notFound => some "publish session not found"
  | .unavailable => some "publish session store unavailable"
  | .client => none

/-- What a call of `RotateRenewal` asks for. -/
structure Renewal where
  expected : List UInt8
  next : List UInt8
  publishExpiry : ℤ
  renewalExpiry : ℤ
  now : ℤ
  deriving DecidableEq

/-- What `RotateRenewal` returns; `none` stands for the zero session. -/
structure Rotation where
  session : Option PublishSession
  result : RenewalRotationResult
  error : Option StoreError
  deriving DecidableEq

def PublishSession.endedAt (session : PublishSession) (now : ℤ) : PublishSession :=
  { session with status := .ended, updatedAt := now }

def PublishSession.rotated (session : PublishSession) (renewal : Renewal) : PublishSession :=
  { session with
    previousRenewalTokenHash := session.renewalTokenHash
    renewalTokenHash := renewal.next
    renewalTokenVersion := session.renewalTokenVersion + 1
    publishTokenExpiresAt := renewal.publishExpiry
    renewalTokenExpiresAt := renewal.renewalExpiry
    updatedAt := renewal.now }

structure InMemoryPublishSessionStore where
  sessions : String → Option PublishSession
  streams : String → Option String

namespace InMemoryPublishSessionStore

def empty : InMemoryPublishSessionStore := ⟨fun _ => none, fun _ => none⟩

variable (s : InMemoryPublishSessionStore)

def put (sessionID : String) (session : PublishSession) : InMemoryPublishSessionStore :=
  { s with sessions := Function.update s.sessions sessionID (some session) }

def save (session : PublishSession) : InMemoryPublishSessionStore :=
  { s.put session.sessionID session with
    streams := Function.update s.streams session.streamID (some session.sessionID) }

def find (sessionID : String) : Except StoreError PublishSession :=
  match s.sessions sessionID with
  | none => .error .notFound
  | some session => .ok session

def findByStream (streamID : String) : Except StoreError PublishSession :=
  s.find ((s.streams streamID).getD "")

def rotateRenewal (sessionID : String) (renewal : Renewal) :
    InMemoryPublishSessionStore × Rotation :=
  match s.sessions sessionID with
  | none => (s, ⟨none, .rejected, none⟩)
  | some session =>
    if session.activeAt renewal.now = false then (s, ⟨none, .rejected, none⟩)
    else if session.previousRenewalTokenHash = renewal.expected then
      (s.put sessionID (session.endedAt renewal.now),
        ⟨some (session.endedAt renewal.now), .replayed, none⟩)
    else if session.renewalTokenHash ≠ renewal.expected then (s, ⟨none, .rejected, none⟩)
    else (s.put sessionID (session.rotated renewal),
      ⟨some (session.rotated renewal), .rotated, none⟩)

def endSession (sessionID : String) (now : ℤ) : InMemoryPublishSessionStore × Option StoreError :=
  match s.sessions sessionID with
  | none => (s, some .notFound)
  | some session => (s.put sessionID (session.endedAt now), none)

end InMemoryPublishSessionStore
/-- A session issued at time 0, whose renewal token lasts an hour. -/
def sampleSession : PublishSession where
  sessionID := "ps_01"
  deviceUUID := "device-01"
  sensorID := "camera-01"
  streamID := "stream-01"
  path := "raw/device-01/camera-01"
  groupID := "co-a"
  credentialVersion := 1
  devicePolicyVersion := 1
  principalID := "principal-01"
  bindingType := "device"
  status := .active
  renewalTokenHash := [1]
  previousRenewalTokenHash := []
  renewalTokenVersion := 1
  publishTokenExpiresAt := 300 * Clock.second
  renewalTokenExpiresAt := 3600 * Clock.second
  createdAt := 0
  updatedAt := 0

end GcsSaker.SessionStore
