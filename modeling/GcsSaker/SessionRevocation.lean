import GcsSaker.MediaToken

/-!
# Revoking active sessions

The observer goes over the active WebRTC sessions and kicks those whose publish session no longer
stands. It asks almost the same of a session as admission does: it does not ask whether the stream
still names the session, so it retains a publisher that a newer session has superseded.
-/

namespace GcsSaker.SessionRevocation

open MediaToken
open SessionStore (PublishSession InMemoryPublishSessionStore)
open StreamPath (ParsedStreamPath)
open UrlQuery (bytes)

/-! ## The observer -/

structure WebRTCSession where
  id : String
  state : String
  path : String
  query : String
  deriving DecidableEq

structure SessionRevocationEvent where
  reference : String
  groupID : String
  operation : String
  occurredAt : ℤ
  deriving DecidableEq

/-- What the observer works with: `decodeVerified` opens a token with its secret, `kick` and `audit`
say whether the call succeeds. -/
structure Observer where
  store : SessionLookup
  validator : Option (PublishSession → Bool)
  now : ℤ
  decodeVerified : List UInt8 → Option Payload
  hashReference : String → String
  kick : String → Bool
  audit : Option (SessionRevocationEvent → Bool)

inductive RevocationResult where
  | ignored
  | retained
  | kickFailed
  | revoked
  | auditFailed
  deriving DecidableEq

/-- What `boundSessionToken` returns. -/
inductive TokenResult where
  | unmanaged
  | invalid
  | token (payload : Payload)
  deriving DecidableEq

namespace Observer

variable (o : Observer)

def queryBytes (query : String) : List UInt8 :=
  match bytes query with
  | 63 :: rest => rest
  | query => query

/-- The action of a token for a WebRTC session in this state, and its key in the query. -/
def tokenRoute (state : String) : String × String :=
  if state = "publish" then ("publish", "publisherToken") else ("playback", "playbackToken")

def boundSessionToken (active : WebRTCSession) (parsed : ParsedStreamPath) : TokenResult :=
  match UrlQuery.parseQuery (queryBytes active.query) with
  | none => .invalid
  | some values =>
    let (action, key) := tokenRoute active.state
    let raw := UrlQuery.get values (bytes key)
    if raw = [] then .unmanaged
    else match validateForRoute o.decodeVerified raw
        ⟨action, parsed.streamID, active.path, 0, false⟩ with
      | none => .invalid
      | some payload => if payload.sessionID = "" then .unmanaged else .token payload

def sessionBindingIsCurrent (active : WebRTCSession) (token : Payload) : Bool :=
  match o.store.find token.sessionID with
  | .error _ => false
  | .ok session =>
    if session.path ≠ active.path || !session.activeAt o.now then false
    else if !matchesSession token session then false
    else match o.validator with
      | none => false
      | some validate => validate session

def recordRevocation (active : WebRTCSession) (groupID : String) : Bool :=
  match o.audit with
  | none => true
  | some record => record
    ⟨o.hashReference (active.path ++ ":" ++ active.id), groupID, "media.session.revoked", o.now⟩

/-- The session is kicked; an invalid token gives an empty group to the audit. -/
def revoke (active : WebRTCSession) (groupID : String) : RevocationResult :=
  if !o.kick active.id then .kickFailed
  else if o.recordRevocation active groupID then .revoked
  else .auditFailed

def reconcileSession (active : WebRTCSession) : RevocationResult :=
  match StreamPath.parseStreamPath active.path with
  | .error _ => .ignored
  | .ok parsed => match o.boundSessionToken active parsed with
    | .unmanaged => .ignored
    | .invalid => o.revoke active ""
    | .token token =>
      if o.sessionBindingIsCurrent active token then .retained else o.revoke active token.groupID

end Observer

/-! ## Where the observer and admission part -/

/-- Every check of the observer passes for the session that the token names. -/
structure Observer.Passes (o : Observer) (active : WebRTCSession) (token : Payload)
    (session : PublishSession) : Prop where
  found : o.store.find token.sessionID = .ok session
  path : session.path = active.path
  live : session.activeAt o.now = true
  matched : matchesSession token session = true
  bound : ∃ validate, o.validator = some validate ∧ validate session = true

/-- The stream of the session names the session. -/
def Current (store : SessionLookup) (session : PublishSession) : Prop :=
  ∃ current, store.findByStream session.streamID = .ok current ∧
    current.sessionID = session.sessionID

/-- The token that an active session presents, if it is bound to a publish session. -/
def Observer.presented (o : Observer) (active : WebRTCSession) : TokenResult :=
  match StreamPath.parseStreamPath active.path with
  | .error _ => .unmanaged
  | .ok parsed => o.boundSessionToken active parsed

/-- Admission with the observer's store and validator. -/
def Observer.server (o : Observer) : Server := ⟨some o.store, o.validator⟩

variable {o : Observer} {active : WebRTCSession} {token : Payload}

theorem sessionBindingIsCurrent_iff :
    o.sessionBindingIsCurrent active token = true ↔ ∃ session, o.Passes active token session := by
  unfold Observer.sessionBindingIsCurrent
  constructor
  · intro h
    split at h
    · cases h
    · rename_i session hfind
      split_ifs at h with hinactive hmismatch
      simp only [Bool.or_eq_true, decide_eq_true_eq, Bool.not_eq_true', not_or,
        Bool.not_eq_false, not_not] at hinactive hmismatch
      split at h
      · cases h
      · rename_i validate hvalidator
        exact ⟨session, hfind, hinactive.1, hinactive.2, hmismatch, validate, hvalidator, h⟩
  · rintro ⟨session, hfind, hpath, hlive, hmatched, validate, hvalidator, hbound⟩
    simp only [hfind, hpath, hlive, hmatched, hvalidator, hbound, ne_eq, not_true_eq_false,
      decide_false, Bool.not_true, Bool.or_self, Bool.false_eq_true, if_false]

theorem reconcileSession_eq_retained (htoken : o.presented active = .token token) :
    o.reconcileSession active = .retained ↔ ∃ session, o.Passes active token session := by
  have hrevoke : ∀ groupID, o.revoke active groupID ≠ .retained := by
    intro groupID
    unfold Observer.revoke
    split_ifs <;> exact nofun
  rw [← sessionBindingIsCurrent_iff, Observer.reconcileSession]
  unfold Observer.presented at htoken
  split at htoken
  · cases htoken
  · simp only [htoken]
    split_ifs with hcurrent
    · exact iff_of_true rfl hcurrent
    · exact iff_of_false (hrevoke _) hcurrent

theorem presented_sessionID (h : o.presented active = .token token) : token.sessionID ≠ "" := by
  unfold Observer.presented at h
  split at h
  · cases h
  · unfold Observer.boundSessionToken at h
    split at h
    · cases h
    · dsimp only at h
      split_ifs at h
      split at h
      · cases h
      · split_ifs at h with hempty
        cases h
        exact hempty

/-- Of a session that passes the observer, admission asks one thing more. -/
theorem validate_iff_current {session : PublishSession} (hid : token.sessionID ≠ "")
    (hpasses : o.Passes active token session) :
    o.server.validateActivePublishSession token o.now = true ↔ Current o.store session := by
  obtain ⟨validate, hvalidator, hvalid⟩ := hpasses.bound
  have hholds : o.server.bindingHolds session = true := by
    simp only [Server.bindingHolds, Observer.server, hvalidator, hvalid, ite_self]
  rw [Server.validateActivePublishSession_iff rfl hid]
  constructor
  · rintro ⟨session', current, hfound, hcurrent, hsame, -⟩
    obtain rfl := Except.ok.inj (hpasses.found.symm.trans hfound)
    exact ⟨current, hcurrent, hsame⟩
  · rintro ⟨current, hcurrent, hsame⟩
    exact ⟨session, current, hpasses.found, hcurrent, hsame, hholds, hpasses.live, hpasses.matched⟩

/-- When the observer agrees with admission, for every state of the store, validator, clock and
active session with a bound token: it retains only what admission would accept, if and only if the
session of the token is the current one of its stream or fails a check of the observer. -/
theorem retained_accepted_iff (htoken : o.presented active = .token token) :
    (o.reconcileSession active = .retained →
      o.server.validateActivePublishSession token o.now = true) ↔
    ∀ session, o.Passes active token session → Current o.store session := by
  have hid := presented_sessionID htoken
  rw [reconcileSession_eq_retained htoken]
  constructor
  · intro h session hpasses
    exact (validate_iff_current hid hpasses).mp (h ⟨session, hpasses⟩)
  · rintro h ⟨session, hpasses⟩
    exact (validate_iff_current hid hpasses).mpr (h session hpasses)

/-- A session on the path of a drone's camera, under the stream id of that path. -/
def cameraSession (sessionID : String) : PublishSession :=
  { SessionStore.sampleSession with
    sessionID := sessionID
    streamID := "raw.device-01.camera-01" }

def cameraToken (sessionID : String) : Payload where
  streamID := "raw.device-01.camera-01"
  action := "publish"
  path := "raw/device-01/camera-01"
  groupID := "co-a"
  sessionID := sessionID
  deviceUUID := "device-01"
  sensorID := "camera-01"
  credentialVersion := 1
  devicePolicyVersion := 1
  tokenID := "jti_01"
  expiresAt := 300

def cameraPublisher : WebRTCSession :=
  ⟨"rtc-1", "publish", "raw/device-01/camera-01", "publisherToken=first"⟩

/-- An observer a minute later, to whom the token of `cameraPublisher` names the session `ps_01`. -/
def sampleObserver (s : InMemoryPublishSessionStore) : Observer where
  store := lookup s
  validator := some fun _ => true
  now := 60 * Clock.second
  decodeVerified := fun raw => if raw = bytes "first" then some (cameraToken "ps_01") else none
  hashReference := fun reference => reference
  kick := fun _ => true
  audit := none

def firstSaved : InMemoryPublishSessionStore :=
  InMemoryPublishSessionStore.empty.save (cameraSession "ps_01")

theorem retained_accepted_current :
    (sampleObserver firstSaved).reconcileSession cameraPublisher = .retained ∧
      (sampleObserver firstSaved).server.validateActivePublishSession (cameraToken "ps_01")
        (60 * Clock.second) = true := by
  have htoken : (sampleObserver firstSaved).presented cameraPublisher =
      .token (cameraToken "ps_01") := by
    decide +kernel
  have hretained : (sampleObserver firstSaved).reconcileSession cameraPublisher = .retained := by
    decide +kernel
  refine ⟨hretained, (retained_accepted_iff htoken).mpr ?_ hretained⟩
  intro session hpasses
  obtain rfl : cameraSession "ps_01" = session := Except.ok.inj hpasses.found
  exact ⟨cameraSession "ps_01", rfl, rfl⟩

/-- The device has started a newer session on its stream: its old token is not accepted any more,
and the publisher that holds it is retained. -/
theorem superseded_retained :
    let o := sampleObserver (firstSaved.save (cameraSession "ps_02"))
    o.reconcileSession cameraPublisher = .retained ∧
      o.server.validateActivePublishSession (cameraToken "ps_01") o.now = false := by
  decide +kernel

end GcsSaker.SessionRevocation
