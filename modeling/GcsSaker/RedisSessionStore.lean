import GcsSaker.Base64
import GcsSaker.ControlPlane
import GcsSaker.Decimal
import GcsSaker.PublishSession
import Mathlib.Data.List.Sort

/-!
# Publish sessions in Redis

A session is a hash of strings under its own key, a stream's key names the session saved for it
last, and four keys hold the statistics. The scripts run as one step each. Millisecond counts are
integers here, as they are in Lua as long as they stay below `2 ^ 53`.
-/

namespace GcsSaker.SessionStore

open Control (Reply)

/-! ## Keys and hashes -/

def keyPrefix : String := "gcs-saker:publish-session:v1:"

def sessionKey (sessionID : String) : String := keyPrefix ++ sessionID

/-- `digest` gives the SHA-256 digest of a string in hexadecimal. -/
def streamIndexKey (digest : String → String) (streamID : String) : String :=
  "gcs-saker:publish-stream:v1:" ++ digest streamID

def sessionExpiryGrace : ℤ := 60 * Clock.second

inductive SessionField where
  | sessionID
  | deviceUUID
  | sensorID
  | streamID
  | path
  | groupID
  | credentialVersion
  | devicePolicyVersion
  | principalID
  | bindingType
  | status
  | renewalHash
  | previousRenewalHash
  | renewalVersion
  | publishExpires
  | renewalExpires
  | created
  | updated
  deriving DecidableEq

def SessionField.text : SessionField → String
  | .sessionID => "session_id"
  | .deviceUUID => "device_uuid"
  | .sensorID => "sensor_id"
  | .streamID => "stream_id"
  | .path => "path"
  | .groupID => "group_id"
  | .credentialVersion => "credential_version"
  | .devicePolicyVersion => "device_policy_version"
  | .principalID => "principal_id"
  | .bindingType => "binding_type"
  | .status => "status"
  | .renewalHash => "renewal_hash"
  | .previousRenewalHash => "previous_renewal_hash"
  | .renewalVersion => "renewal_version"
  | .publishExpires => "publish_expires_ms"
  | .renewalExpires => "renewal_expires_ms"
  | .created => "created_ms"
  | .updated => "updated_ms"

/-- A Redis hash with the fields of a session, any of which may be missing. -/
def SessionHash := SessionField → Option String

namespace SessionHash

/-- The value that Go reads from the map of the fields. -/
def text (h : SessionHash) (field : SessionField) : String := (h field).getD ""

def set (h : SessionHash) (field : SessionField) (value : String) : SessionHash :=
  fun field' => if field' = field then some value else h field'

end SessionHash

def millis (t : ℤ) : String := (Clock.unixMilli t).repr

def encode (v : PublishSession) : SessionHash
  | .sessionID => some v.sessionID
  | .deviceUUID => some v.deviceUUID
  | .sensorID => some v.sensorID
  | .streamID => some v.streamID
  | .path => some v.path
  | .groupID => some v.groupID
  | .credentialVersion => some v.credentialVersion.toInt.repr
  | .devicePolicyVersion => some v.devicePolicyVersion.toInt.repr
  | .principalID => some v.principalID
  | .bindingType => some v.bindingType
  | .status => some v.status.text
  | .renewalHash => some (Base64.encode v.renewalTokenHash)
  | .previousRenewalHash => some (Base64.encode v.previousRenewalTokenHash)
  | .renewalVersion => some v.renewalTokenVersion.toInt.repr
  | .publishExpires => some (millis v.publishTokenExpiresAt)
  | .renewalExpires => some (millis v.renewalTokenExpiresAt)
  | .created => some (millis v.createdAt)
  | .updated => some (millis v.updatedAt)

def decodeStatus (text : String) : Option PublishSessionStatus :=
  if text = PublishSessionStatus.active.text then some .active
  else if text = PublishSessionStatus.ended.text then some .ended
  else none

def parseMillisField (m : SessionHash) (field : SessionField) : Option ℤ :=
  (Decimal.parseInt64 (m.text field)).map fun ms => Clock.ofUnixMilli ms.toInt

def decode (m : SessionHash) : Option PublishSession := do
  let credentialVersion ← Decimal.parseInt64 (m.text .credentialVersion)
  let policyVersion ← Decimal.parseInt64 (m.text .devicePolicyVersion)
  let version ← Decimal.parseInt64 (m.text .renewalVersion)
  let current ← Base64.decode (m.text .renewalHash)
  let previous ← Base64.decode (m.text .previousRenewalHash)
  let publishExpiresAt ← parseMillisField m .publishExpires
  let renewalExpiresAt ← parseMillisField m .renewalExpires
  let createdAt ← parseMillisField m .created
  let updatedAt ← parseMillisField m .updated
  let status ← decodeStatus (m.text .status)
  some {
    sessionID := m.text .sessionID
    deviceUUID := m.text .deviceUUID
    sensorID := m.text .sensorID
    streamID := m.text .streamID
    path := m.text .path
    groupID := m.text .groupID
    credentialVersion := credentialVersion
    devicePolicyVersion := policyVersion
    principalID := m.text .principalID
    bindingType := m.text .bindingType
    status := status
    renewalTokenHash := current
    previousRenewalTokenHash := previous
    renewalTokenVersion := version
    publishTokenExpiresAt := publishExpiresAt
    renewalTokenExpiresAt := renewalExpiresAt
    createdAt := createdAt
    updatedAt := updatedAt }

/-! ## Statistics -/

/-- The four keys of the statistics: a hash of statuses, the counters of the statuses, and two
sorted sets of session ids. -/
structure StatisticsKeys where
  status : AList fun _ : String => PublishSessionStatus
  count : PublishSessionStatus → ℤ
  expiry : AList fun _ : String => ℤ
  created : AList fun _ : String => ℤ

namespace StatisticsKeys

def empty : StatisticsKeys := ⟨∅, fun _ => 0, ∅, ∅⟩

variable (k : StatisticsKeys)

/-- `HINCRBY` on the counters. -/
def addCount (status : PublishSessionStatus) (n : ℤ) : StatisticsKeys :=
  { k with count := Function.update k.count status (k.count status + n) }

/-- The body of the loop over the expired ids. -/
def drop (id : String) : StatisticsKeys :=
  let k' := match k.status.lookup id with
    | some status => k.addCount status (-1)
    | none => k
  { k' with
    status := k'.status.erase id
    expiry := k'.expiry.erase id
    created := k'.created.erase id }

/-- The order of a sorted set: by score, then by member. -/
def memberLE (a b : Σ _ : String, ℤ) : Prop := a.2 < b.2 ∨ a.2 = b.2 ∧ a.1 ≤ b.1

instance (a b : Σ _ : String, ℤ) : Decidable (memberLE a b) :=
  inferInstanceAs (Decidable (a.2 < b.2 ∨ a.2 = b.2 ∧ a.1 ≤ b.1))

def members (zset : AList fun _ : String => ℤ) : List (Σ _ : String, ℤ) :=
  zset.entries.insertionSort memberLE

/-- `ZRANGEBYSCORE expiry -inf now LIMIT 0 limit`. -/
def expired (now : ℤ) (limit : ℕ) : List String :=
  (((members k.expiry).filter fun e => decide (e.2 ≤ now)).take limit).map fun e => e.1

def prune (now : ℤ) (limit : ℕ) : StatisticsKeys := (k.expired now limit).foldl drop k

/-- The part of a script that counts a session under a new status. -/
def countStatus (id : String) (status : PublishSessionStatus) : StatisticsKeys :=
  if k.status.lookup id = some status then k
  else
    let k' := match k.status.lookup id with
      | some previous => k.addCount previous (-1)
      | none => k
    let k'' := k'.addCount status 1
    { k'' with status := k''.status.insert id status }

/-- `updateStatisticsScript`, with the times in milliseconds. -/
def update (id : String) (status : PublishSessionStatus) (expiry created now : ℤ) :
    StatisticsKeys :=
  let k' := (k.prune now 100).countStatus id status
  { k' with expiry := k'.expiry.insert id expiry, created := k'.created.insert id created }

/-- What `statisticsScript` replies: the two counters, the number of ids it dropped, the oldest
creation if there is one, the number of ids left, and whether expired ones are among them. -/
structure Snapshot where
  active : ℤ
  ended : ℤ
  expired : ℕ
  oldest : Option ℤ
  total : ℕ
  truncated : Bool
  deriving DecidableEq

/-- `statisticsScript`. -/
def snapshot (now : ℤ) (limit : ℕ) : StatisticsKeys × Snapshot :=
  let k' := k.prune now limit
  (k', {
    active := k'.count .active
    ended := k'.count .ended
    expired := (k.expired now limit).length
    oldest := (members k'.created).head?.map fun e => e.2
    total := k'.expiry.entries.length
    truncated := k'.expiry.entries.any fun e => decide (e.2 ≤ now) })

end StatisticsKeys

/-- What `SnapshotStatistics` returns. -/
structure Statistics where
  active : ℤ
  ended : ℤ
  expired : ℕ
  scanned : ℕ
  oldestAge : ℤ
  truncated : Bool
  deriving DecidableEq

def defaultStatisticsLimit : ℤ := 1000

def decodeStatistics (reply : StatisticsKeys.Snapshot) (now : ℤ) : Statistics where
  active := reply.active
  ended := reply.ended
  expired := reply.expired
  scanned := reply.total
  oldestAge := match reply.oldest with
    | some ms => if 0 < ms then now - Clock.ofUnixMilli ms else 0
    | none => 0
  truncated := reply.truncated

/-! ## The scripts of the sessions -/

/-- `HINCRBY field 1`, unless the field is no integer or the sum overflows. -/
def hincrby (field : Option String) : Option ℤ :=
  (Decimal.parseInt64 (field.getD "0")).bind fun n =>
    if n = Int64.maxValue then none else some (n.toInt + 1)

/-- The arguments of `rotateScript`; the times are in milliseconds. -/
structure RotateArgs where
  expected : String
  next : String
  publishMs : ℤ
  renewalMs : ℤ
  nowMs : ℤ
  deriving DecidableEq

/-- What `rotateScript` replies; `failed` is an error raised by Redis. -/
inductive RotateReply where
  | rotated (version : ℤ)
  | replayed
  | rejected
  | failed
  deriving DecidableEq

def RotateReply.result : RotateReply → Option RenewalRotationResult
  | .rotated _ => some .rotated
  | .replayed => some .replayed
  | .rejected => some .rejected
  | .failed => none

namespace SessionHash

def endAt (h : SessionHash) (nowMs : ℤ) : SessionHash :=
  (h.set .status PublishSessionStatus.ended.text).set .updated nowMs.repr

def rotateTo (h : SessionHash) (args : RotateArgs) (version : ℤ) : SessionHash :=
  (((((((h.set .renewalVersion version.repr).set .previousRenewalHash (h.text .renewalHash)).set
    .renewalHash args.next).set .publishExpires args.publishMs.repr).set
    .renewalExpires args.renewalMs.repr)).set .updated args.nowMs.repr)

/-- `rotateScript`, as far as it reads and writes the hash of the session. -/
def rotate (h : SessionHash) (args : RotateArgs) : SessionHash × RotateReply :=
  if h .status ≠ some PublishSessionStatus.active.text then (h, .rejected)
  else match Decimal.parse ((h .renewalExpires).getD "0") with
  | none => (h, .failed)
  | some expires =>
    if expires ≤ args.nowMs then (h, .rejected)
    else if h.text .previousRenewalHash ≠ "" ∧ h.text .previousRenewalHash = args.expected then
      (h.endAt args.nowMs, .replayed)
    else if h.text .renewalHash ≠ args.expected then (h, .rejected)
    else match hincrby (h .renewalVersion) with
      | none => (h, .failed)
      | some version => (h.rotateTo args version, .rotated version)

end SessionHash

/-- The keys of the store and the clock of Redis. -/
structure RedisState where
  clock : ℤ
  sessions : ExpiringStore ℤ String SessionHash
  streams : ExpiringStore ℤ String String
  statistics : StatisticsKeys

namespace RedisState

def empty (clock : ℤ) : RedisState :=
  ⟨clock, ExpiringStore.empty, ExpiringStore.empty, StatisticsKeys.empty⟩

variable (s : RedisState)

/-- The hash of a session, if its key exists. -/
def session (id : String) : Option SessionHash :=
  (s.sessions.live s.clock (sessionKey id)).map fun entry => entry.value

/-- Where `EXPIREAT` puts the end of a key: in whole seconds. -/
def expireAt (v : PublishSession) : ℤ :=
  (v.renewalTokenExpiresAt + sessionExpiryGrace) / Clock.second * Clock.second

/-- Where `PEXPIREAT` puts the end of a key, from the milliseconds of the renewal expiry. -/
def pexpireAt (renewalMs : ℤ) : ℤ := Clock.ofUnixMilli (renewalMs + 60000)

/-- The transaction of `Save`. -/
def saveTransaction (digest : String → String) (v : PublishSession) : RedisState :=
  { s with
    sessions := s.sessions.set (sessionKey v.sessionID) (encode v) (expireAt v)
    streams := s.streams.set (streamIndexKey digest v.streamID) v.sessionID (expireAt v) }

/-- The second `PEXPIREAT` of `rotateScript`, which needs the stream to name the session. -/
def extendStream (id streamKey : String) (renewalMs : ℤ) : RedisState :=
  if (s.streams.live s.clock streamKey).any fun entry => decide (entry.value = id) then
    { s with streams := s.streams.set streamKey id (pexpireAt renewalMs) }
  else s

/-- `rotateScript`. -/
def rotateScript (id streamKey : String) (args : RotateArgs) : RedisState × RotateReply :=
  match s.sessions.live s.clock (sessionKey id) with
  | none => (s, .rejected)
  | some entry => match entry.value.rotate args with
    | (h, .rotated version) =>
      let s' : RedisState := { s with
        sessions := s.sessions.set (sessionKey id) h (pexpireAt args.renewalMs) }
      (s'.extendStream id streamKey args.renewalMs, .rotated version)
    | (h, .replayed) =>
      ({ s with sessions := s.sessions.set (sessionKey id) h entry.expiresAt }, .replayed)
    | (_, reply) => (s, reply)

/-- `endScript`, whose reply is 0 when there is no such key. -/
def endScript (id : String) (nowMs : ℤ) : RedisState × Bool :=
  match s.sessions.live s.clock (sessionKey id) with
  | none => (s, false)
  | some entry =>
    ({ s with
      sessions := s.sessions.set (sessionKey id) (entry.value.endAt nowMs) entry.expiresAt
      statistics := s.statistics.countStatus id .ended }, true)

/-! ## The operations -/

/-- A round trip to Redis, by what becomes of it. -/
def trip {α : Type} (run : RedisState → RedisState × α) : Reply → RedisState × Option α
  | .delivered => ((run s).1, some (run s).2)
  | .lostBefore => (s, none)
  | .lostAfter => ((run s).1, none)

/-- `updateStatisticsScript` with the values of a session. -/
def recordSession (v : PublishSession) (wallClock : ℤ) : RedisState :=
  let expiry := Clock.unixMilli v.renewalTokenExpiresAt
  let created := Clock.unixMilli v.createdAt
  let now := Clock.unixMilli wallClock
  { s with statistics := s.statistics.update v.sessionID v.status expiry created now }

def updateStatistics (v : PublishSession) (wallClock : ℤ) : Reply → RedisState × Option Unit :=
  s.trip fun t => (t.recordSession v wallClock, ())

/-- What becomes of the two round trips of `Save`. -/
structure SaveReplies where
  transaction : Reply
  statistics : Reply
  deriving DecidableEq

def save (digest : String → String) (v : PublishSession) (wallClock : ℤ) (replies : SaveReplies) :
    RedisState × Option StoreError :=
  match s.trip (fun t => (t.saveTransaction digest v, ())) replies.transaction with
  | (s', none) => (s', some .client)
  | (s', some ()) => match s'.updateStatistics v wallClock replies.statistics with
    | (s'', none) => (s'', some .client)
    | (s'', some ()) => (s'', none)

def find (id : String) (reply : Reply) : Except StoreError PublishSession :=
  match (s.trip (fun t => (t, t.session id)) reply).2 with
  | none => .error .unavailable
  | some none => .error .notFound
  | some (some h) => match decode h with
    | none => .error .unavailable
    | some v => .ok v

def findByStream (digest : String → String) (streamID : String) (indexReply reply : Reply) :
    Except StoreError PublishSession :=
  match (s.trip (fun t => (t, t.streams.live t.clock (streamIndexKey digest streamID)))
      indexReply).2 with
  | none => .error .unavailable
  | some none => .error .notFound
  | some (some entry) => s.find entry.value reply

/-- What becomes of the four round trips of `RotateRenewal`. -/
structure RotateReplies where
  find : Reply
  script : Reply
  readBack : Reply
  statistics : Reply
  deriving DecidableEq

end RedisState

def Renewal.args (renewal : Renewal) : RotateArgs where
  expected := Base64.encode renewal.expected
  next := Base64.encode renewal.next
  publishMs := Clock.unixMilli renewal.publishExpiry
  renewalMs := Clock.unixMilli renewal.renewalExpiry
  nowMs := Clock.unixMilli renewal.now

namespace RedisState

variable (s : RedisState)

/-- `RotateRenewal` after its script has replied. -/
def finishRotation (id : String) (result : RenewalRotationResult) (wallClock : ℤ)
    (replies : RotateReplies) : RedisState × Rotation :=
  match s.find id replies.readBack with
  | .error err => (s, ⟨none, result, some err⟩)
  | .ok v => match s.updateStatistics v wallClock replies.statistics with
    | (s', none) => (s', ⟨some v, result, some .unavailable⟩)
    | (s', some ()) => (s', ⟨some v, result, none⟩)

def rotateRenewal (digest : String → String) (id : String) (renewal : Renewal) (wallClock : ℤ)
    (replies : RotateReplies) : RedisState × Rotation :=
  match s.find id replies.find with
  | .error .notFound => (s, ⟨none, .rejected, none⟩)
  | .error err => (s, ⟨none, .rejected, some err⟩)
  | .ok session =>
    match s.trip (fun t => t.rotateScript id (streamIndexKey digest session.streamID) renewal.args)
        replies.script with
    | (s', none) => (s', ⟨none, .rejected, some .unavailable⟩)
    | (s', some reply) => match reply.result with
      | none => (s', ⟨none, .rejected, some .unavailable⟩)
      | some result => s'.finishRotation id result wallClock replies

def endSession (id : String) (now : ℤ) (reply : Reply) : RedisState × Option StoreError :=
  match s.trip (fun t => t.endScript id (Clock.unixMilli now)) reply with
  | (s', none) => (s', some .unavailable)
  | (s', some false) => (s', some .notFound)
  | (s', some true) => (s', none)

def snapshotStatistics (now limit : ℤ) (reply : Reply) :
    RedisState × Except StoreError Statistics :=
  let limit := if limit ≤ 0 ∨ defaultStatisticsLimit < limit then defaultStatisticsLimit else limit
  match s.trip (fun t =>
      let (statistics, snapshot) := t.statistics.snapshot (Clock.unixMilli now) limit.toNat
      ({ t with statistics := statistics }, snapshot)) reply with
  | (s', none) => (s', .error .unavailable)
  | (s', some snapshot) => (s', .ok (decodeStatistics snapshot now))

/-- The session of `sampleSession` right after it was issued. -/
def storedSample : RedisState := (empty 0).saveTransaction (fun stream => stream) sampleSession

end RedisState

end GcsSaker.SessionStore
