import GcsSaker.UrlQuery
import GcsSaker.PublishSession
import GcsSaker.StreamPath

/-!
# Media tokens

What a media token says, which sessions it matches, and when it is accepted: the session that it
names must be the one that its stream names, be active, and still be bound to its principal.
-/

namespace GcsSaker.MediaToken

open SessionStore (PublishSession StoreError InMemoryPublishSessionStore)
open StreamPath (ParsedStreamPath)

/-- `sessiontoken.TTL`. -/
def tokenTTL : ℤ := 300 * Clock.second

def unix (t : ℤ) : ℤ := t / Clock.second

structure Payload where
  streamID : String
  action : String
  path : String
  groupID : String
  sessionID : String
  deviceUUID : String
  sensorID : String
  credentialVersion : Int64
  devicePolicyVersion : Int64
  tokenID : String
  expiresAt : ℤ
  deriving DecidableEq

def matchesSession (payload : Payload) (session : PublishSession) : Bool :=
  session.deviceUUID = payload.deviceUUID && session.sensorID = payload.sensorID &&
    session.streamID = payload.streamID && session.path = payload.path &&
    session.groupID = payload.groupID && session.credentialVersion = payload.credentialVersion &&
    session.devicePolicyVersion = payload.devicePolicyVersion

def isBlank (s : String) : Bool := StreamPath.trimSpace s.toList = []

/-- The payload of the token, if one is issued; `encrypted` says whether its encryption succeeds. -/
def issueBound (secret : String) (session : PublishSession) (action tokenID : String) (now : ℤ)
    (encrypted : Bool) : Option Payload :=
  if isBlank secret || isBlank action || !session.activeAt now || tokenID = "" || !encrypted then none
  else some {
    streamID := session.streamID
    action := action
    path := session.path
    groupID := session.groupID
    sessionID := session.sessionID
    deviceUUID := session.deviceUUID
    sensorID := session.sensorID
    credentialVersion := session.credentialVersion
    devicePolicyVersion := session.devicePolicyVersion
    tokenID := tokenID
    expiresAt := unix session.publishTokenExpiresAt }

structure RouteValidation where
  action : String
  streamID : String
  streamPath : String
  now : ℤ
  enforceExpiry : Bool

/-- `decodeVerified` opens a token with the secret. -/
def validateForRoute (decodeVerified : List UInt8 → Option Payload) (token : List UInt8)
    (validation : RouteValidation) : Option Payload :=
  (decodeVerified token).bind fun payload =>
    if payload.streamID ≠ validation.streamID ∨ payload.action ≠ validation.action ∨
        payload.path ≠ validation.streamPath ∨ payload.groupID = "" ∨
        validation.enforceExpiry = true ∧ payload.expiresAt ≤ unix validation.now then none
    else some payload

/-! ## Acceptance -/

/-- What is read from the store of sessions, at one moment. -/
structure SessionLookup where
  find : String → Except StoreError PublishSession
  findByStream : String → Except StoreError PublishSession

def lookup (s : InMemoryPublishSessionStore) : SessionLookup := ⟨s.find, s.findByStream⟩

/-- The part of the server that decides on tokens. The validator says whether the binding of a
session is current. -/
structure Server where
  publishSessions : Option SessionLookup
  sessionValidator : Option (PublishSession → Bool)

namespace Server

variable (s : Server)

/-- The binding of the session is checked only if there is a validator and a credential. -/
def bindingHolds (session : PublishSession) : Bool :=
  match s.sessionValidator with
  | some validate => if 0 < session.credentialVersion then validate session else true
  | none => true

/-- The group that publishes on the stream. -/
def resolveStreamTarget (parsed : ParsedStreamPath) (now : ℤ) : Option String :=
  match s.publishSessions with
  | none => none
  | some sessions => match sessions.findByStream parsed.streamID with
    | .error _ => none
    | .ok session =>
      if !session.activeAt now || session.path ≠ parsed.path || session.groupID = "" then none
      else if !s.bindingHolds session then none
      else some session.groupID

def legacyTokenHasActiveScope (payload : Payload) (now : ℤ) : Bool :=
  match StreamPath.parseStreamPath payload.path with
  | .error _ => false
  | .ok parsed =>
    let target := if parsed.pathPrefix = "talkback" then
        StreamPath.parseStreamPath ("raw/" ++ parsed.assetID ++ "/" ++ parsed.sensorID)
      else .ok parsed
    match target with
    | .error _ => false
    | .ok target => s.resolveStreamTarget target now = some payload.groupID

def validateActivePublishSession (payload : Payload) (now : ℤ) : Bool :=
  if payload.sessionID = "" then s.legacyTokenHasActiveScope payload now
  else match s.publishSessions with
  | none => false
  | some sessions => match sessions.find payload.sessionID with
    | .error _ => false
    | .ok session => match sessions.findByStream session.streamID with
      | .error _ => false
      | .ok current =>
        if current.sessionID ≠ session.sessionID then false
        else if !s.bindingHolds session then false
        else session.activeAt now && matchesSession payload session

/-- A token that is bound to a session is accepted if and only if the session passes every check. -/
theorem validateActivePublishSession_iff {s : Server} {sessions : SessionLookup}
    (hsessions : s.publishSessions = some sessions) {payload : Payload}
    (hid : payload.sessionID ≠ "") (now : ℤ) :
    s.validateActivePublishSession payload now = true ↔ ∃ session current,
      sessions.find payload.sessionID = .ok session ∧
      sessions.findByStream session.streamID = .ok current ∧
      current.sessionID = session.sessionID ∧ s.bindingHolds session = true ∧
      session.activeAt now = true ∧ matchesSession payload session = true := by
  simp only [validateActivePublishSession, if_neg hid, hsessions]
  constructor
  · intro h
    split at h
    · cases h
    · rename_i session hfind
      split at h
      · cases h
      · rename_i current hcurrent
        split_ifs at h with hsame hholds
        rw [Bool.and_eq_true] at h
        rw [Bool.not_eq_true', Bool.not_eq_false] at hholds
        exact ⟨session, current, hfind, hcurrent, not_not.mp hsame, hholds, h⟩
  · rintro ⟨session, current, hfind, hcurrent, hsame, hholds, hactive, hmatches⟩
    simp only [hfind, hcurrent, if_neg (not_not_intro hsame), hholds, hactive, hmatches,
      Bool.not_true, Bool.false_eq_true, if_false, Bool.and_self]

end Server

end GcsSaker.MediaToken

/-!
# Sealed tokens

A token on the wire is its payload sealed under a secret. An ideal cipher opens nothing but the
tokens that were issued, and opens each of them to the payload that it was issued with.
-/

namespace GcsSaker.SealedToken

open MediaToken
open SessionStore (PublishSession)
open UrlQuery (bytes)

/-- What sealing takes from elsewhere: AES-GCM under the key of a secret, base64 and JSON. -/
structure Sealing where
  nonceSize : ℕ
  sealText (secret : String) (nonce plain additional : List UInt8) : List UInt8
  openText (secret : String) (nonce cipher additional : List UInt8) : Option (List UInt8)
  encodeToString : List UInt8 → List UInt8
  decodeString : List UInt8 → Option (List UInt8)
  marshal : Payload → List UInt8
  unmarshal : List UInt8 → Option Payload

def tokenPrefix : List UInt8 := bytes "gcs_media_v2_"

/-- `strings.TrimSpace` leaves nothing; a byte that is not part of a character is no space. -/
def isBlankText (raw : List UInt8) : Bool :=
  match String.fromUTF8? ⟨raw.toArray⟩ with
  | some text => isBlank text
  | none => false

theorem bytes_append (s t : String) : bytes (s ++ t) = bytes s ++ bytes t := by
  rw [bytes, String.toUTF8_eq_toByteArray, String.toByteArray_append, ByteArray.data_append,
    Array.toList_append]
  rfl

theorem isBlankText_bytes (s : String) : isBlankText (bytes s) = isBlank s := by
  have hutf8 : String.fromUTF8? ⟨(bytes s).toArray⟩ = some s := by
    rw [bytes, Array.toArray_toList]
    exact dif_pos s.isValidUTF8
  rw [isBlankText, hutf8]

/-- What follows the version of a token makes it no blank text. -/
theorem isBlankText_tokenPrefix_append (s : String) :
    isBlankText (tokenPrefix ++ bytes s) = false := by
  have hhead : "gcs_media_v2_".toList = 'g' :: "cs_media_v2_".toList := by decide +kernel
  rw [tokenPrefix, ← bytes_append, isBlankText_bytes, isBlank, String.toList_append, hhead,
    List.cons_append]
  exact decide_eq_false (StreamPath.trimSpace_cons_ne_nil (by decide))

variable (σ : Sealing) (secret : String)

/-- The nonce is what is read at random, unless that fails. -/
def encryptMediaToken (payload : List UInt8) (nonce : Option (List UInt8)) :
    Option (List UInt8) :=
  if isBlank secret then none
  else nonce.map fun nonce =>
    tokenPrefix ++ σ.encodeToString (nonce ++ σ.sealText secret nonce payload tokenPrefix)

def decodeVerified (token : List UInt8) : Option Payload :=
  if isBlank secret || isBlankText token then none
  else if !tokenPrefix.isPrefixOf token then none
  else match σ.decodeString (token.drop tokenPrefix.length) with
  | none => none
  | some sealed =>
    if sealed.length ≤ σ.nonceSize then none
    else (σ.openText secret (sealed.take σ.nonceSize) (sealed.drop σ.nonceSize) tokenPrefix).bind
      σ.unmarshal

/-- The payload of a token that names no session. -/
def issue (action streamID streamPath groupID : String) (now : ℤ) : Option Payload :=
  if isBlank secret || isBlank streamID || isBlank groupID then none
  else some {
    streamID := streamID
    action := action
    path := streamPath
    groupID := groupID
    sessionID := ""
    deviceUUID := ""
    sensorID := ""
    credentialVersion := 0
    devicePolicyVersion := 0
    tokenID := ""
    expiresAt := unix (now + tokenTTL) }

def validate (decodeVerified : List UInt8 → Option Payload) (token : List UInt8)
    (action streamID streamPath groupID : String) (now : ℤ) : Bool :=
  match decodeVerified token with
  | none => false
  | some payload => !(payload.streamID ≠ streamID || payload.action ≠ action ||
      payload.path ≠ streamPath || payload.groupID ≠ groupID || payload.expiresAt ≤ unix now)

/-! ## Issued tokens -/

/-- A call of `Issue` or `IssueBound`, with the nonce that it draws. -/
inductive IssueCall where
  | issue (action streamID streamPath groupID : String) (now : ℤ) (nonce : Option (List UInt8))
  | issueBound (session : PublishSession) (action tokenID : String) (now : ℤ)
      (nonce : Option (List UInt8))
  deriving DecidableEq

namespace IssueCall

def nonce : IssueCall → Option (List UInt8)
  | .issue _ _ _ _ _ nonce => nonce
  | .issueBound _ _ _ _ nonce => nonce

def payload : IssueCall → Option Payload
  | .issue action streamID streamPath groupID now _ =>
    SealedToken.issue secret action streamID streamPath groupID now
  | .issueBound session action tokenID now _ =>
    MediaToken.issueBound secret session action tokenID now true

def token (call : IssueCall) : Option (List UInt8) :=
  (call.payload secret).bind fun payload => encryptMediaToken σ secret (σ.marshal payload) call.nonce

end IssueCall

/-- One of the calls issued the token with the payload. -/
def Issued (calls : Set IssueCall) (token : List UInt8) (payload : Payload) : Prop :=
  ∃ call ∈ calls, call.token σ secret = some token ∧ call.payload secret = some payload

/-- Exactly the issued tokens are accepted, each with its own payload. -/
structure Ideal (calls : Set IssueCall) : Prop where
  produced : ∀ token payload, decodeVerified σ secret token = some payload →
    ∃ call ∈ calls, call.token σ secret = some token
  reads : ∀ call ∈ calls, ∀ token, call.token σ secret = some token →
    decodeVerified σ secret token = call.payload secret

variable {σ secret} {calls : Set IssueCall}

theorem Ideal.decodeVerified_eq_some_iff (hideal : Ideal σ secret calls) {token : List UInt8}
    {payload : Payload} :
    decodeVerified σ secret token = some payload ↔ Issued σ secret calls token payload := by
  constructor
  · intro h
    obtain ⟨call, hmem, htoken⟩ := hideal.produced token payload h
    exact ⟨call, hmem, htoken, (hideal.reads call hmem token htoken).symm.trans h⟩
  · rintro ⟨call, hmem, htoken, hpayload⟩
    exact (hideal.reads call hmem token htoken).trans hpayload

/-- A token opens to one payload, however often it was issued. -/
theorem Ideal.payload_unique (hideal : Ideal σ secret calls) {token : List UInt8}
    {payload other : Payload} (hpayload : Issued σ secret calls token payload)
    (hother : Issued σ secret calls token other) : other = payload := by
  rw [← hideal.decodeVerified_eq_some_iff] at hpayload hother
  rw [hpayload, Option.some.injEq] at hother
  exact hother.symm

/-! ## Validation -/

theorem validateForRoute_eq_some {decode : List UInt8 → Option Payload} {token : List UInt8}
    {validation : RouteValidation} {payload : Payload}
    (h : validateForRoute decode token validation = some payload) :
    decode token = some payload ∧ payload.streamID = validation.streamID ∧
      payload.action = validation.action ∧ payload.path = validation.streamPath ∧
      (validation.enforceExpiry = true → unix validation.now < payload.expiresAt) := by
  rw [validateForRoute, Option.bind_eq_some_iff] at h
  obtain ⟨opened, hopen, hchecks⟩ := h
  split_ifs at hchecks with hfails
  rw [Option.some.injEq] at hchecks
  subst hchecks
  push Not at hfails
  exact ⟨hopen, hfails.1, hfails.2.1, hfails.2.2.1, hfails.2.2.2.2⟩

theorem validate_iff {decode : List UInt8 → Option Payload} {token : List UInt8}
    {action streamID streamPath groupID : String} {now : ℤ} :
    validate decode token action streamID streamPath groupID now = true ↔ ∃ payload,
      decode token = some payload ∧ payload.streamID = streamID ∧ payload.action = action ∧
      payload.path = streamPath ∧ payload.groupID = groupID ∧ unix now < payload.expiresAt := by
  unfold validate
  cases hopen : decode token with
  | none => simp only [Bool.false_eq_true, reduceCtorEq, false_and, exists_false]
  | some payload =>
      simp only [Option.some.injEq, exists_eq_left', Bool.not_or, Bool.and_eq_true,
        Bool.not_eq_true', decide_eq_false_iff_not, not_not, not_le, and_assoc]

end GcsSaker.SealedToken
