import GcsSaker.Base64
import GcsSaker.SessionRevocation

/-!
# Media requests

What the media server asks before it lets anybody publish on a path or read from it. The answer is
204 only if the query carries one token that was issued for the action and for the stream of the
path, and the sessions still bear the token out.
-/

namespace GcsSaker.MediaMtxAuth

open MediaToken SealedToken
open SessionRevocation (Observer)
open SessionStore (PublishSession)
open StreamPath (ParsedStreamPath parseStreamPath)
open UrlQuery (bytes)

structure MediaMTXAuthRequest where
  user : String
  password : String
  action : String
  path : String
  query : String
  deriving DecidableEq

/-- A status with the detail of its error, if it has one. -/
structure Response where
  status : ℕ
  detail : Option String
  deriving DecidableEq

def noContent : Response := ⟨204, none⟩

def forbidden (detail : String) : Response := ⟨403, some detail⟩

def errPublisherAuthNotConfigured : String := "publisher authorization is not configured"

def errPublisherAuthFailed : String := "publisher authorization failed"

def errPlaybackAuthFailed : String := "playback authorization failed"

def playbackTokenQueryKey : String := "playbackToken"

def publisherTokenQueryKey : String := "publisherToken"

/-- The values of a key, in the order of the query. -/
def valuesOf (values : List (List UInt8 × List UInt8)) (key : String) : List (List UInt8) :=
  (values.filter fun pair => pair.1 = bytes key).map fun pair => pair.2

def exactQueryToken (values : List (List UInt8 × List UInt8)) (key : String) :
    Option (List UInt8) :=
  match valuesOf values key with
  | [token] => if isBlankText token then none else some token
  | _ => none

/-- The stream that a request asks for and the token that it carries. -/
def carriedToken (request : MediaMTXAuthRequest) (key : String) :
    Option (ParsedStreamPath × List UInt8) :=
  match parseStreamPath request.path with
  | .error _ => none
  | .ok parsed => match UrlQuery.parseQuery (Observer.queryBytes request.query) with
    | none => none
    | some values => (exactQueryToken values key).map fun token => (parsed, token)

/-- The clock when a token is validated, and when the sessions are looked at. -/
structure Readings where
  token : ℤ
  sessions : ℤ

structure AuthServer extends MediaToken.Server where
  publishToken : String
  mediaMTXAPIUser : String
  mediaMTXAPIPass : String
  sealing : Sealing

namespace AuthServer

variable (s : AuthServer)

def decodeVerified : List UInt8 → Option Payload :=
  SealedToken.decodeVerified s.sealing s.publishToken

def talkbackPlaybackTokenIsActive (token : Payload) (now : Readings) : Bool :=
  if token.sessionID ≠ "" then s.validateActivePublishSession token now.token
  else s.legacyTokenHasActiveScope token now.sessions

def validTalkbackPlaybackToken (parsed : ParsedStreamPath) (rawToken : List UInt8)
    (now : Readings) : Bool :=
  match validateForRoute s.decodeVerified rawToken
      ⟨"playback", parsed.streamID, parsed.path, now.token, true⟩ with
  | none => false
  | some token => s.talkbackPlaybackTokenIsActive token now

def authorizeMediaMTXPublish (request : MediaMTXAuthRequest) (now : Readings) : Response :=
  if s.publishToken = "" then forbidden errPublisherAuthNotConfigured
  else match carriedToken request publisherTokenQueryKey with
  | none => forbidden errPublisherAuthFailed
  | some (parsed, token) => match validateForRoute s.decodeVerified token
      ⟨"publish", parsed.streamID, request.path, now.token, true⟩ with
    | none => forbidden errPublisherAuthFailed
    | some payload =>
      if s.validateActivePublishSession payload now.sessions then noContent
      else forbidden errPublisherAuthFailed

def authorizeMediaMTXPlayback (request : MediaMTXAuthRequest) (now : Readings) : Response :=
  if s.publishToken = "" then forbidden errPublisherAuthNotConfigured
  else match carriedToken request playbackTokenQueryKey with
  | none => forbidden errPlaybackAuthFailed
  | some (parsed, rawToken) =>
    if parsed.pathPrefix = "talkback" then
      if s.validTalkbackPlaybackToken parsed rawToken now then noContent
      else forbidden errPlaybackAuthFailed
    else match s.resolveStreamTarget parsed now.sessions with
    | none => forbidden errPlaybackAuthFailed
    | some groupID =>
      if validate s.decodeVerified rawToken "playback" parsed.streamID request.path groupID now.token
      then noContent
      else forbidden errPlaybackAuthFailed

/-- The body is none if it is too long or is not the JSON of a request. -/
def mediaMTXAuth (method : String) (body : Option MediaMTXAuthRequest) (now : Readings) :
    Response :=
  if method ≠ "POST" then ⟨405, none⟩
  else match body with
  | none => ⟨400, some errPublisherAuthFailed⟩
  | some request =>
    if request.action = "api" then
      if s.mediaMTXAPIUser = "" || s.mediaMTXAPIPass = "" || request.user ≠ s.mediaMTXAPIUser ||
          request.password ≠ s.mediaMTXAPIPass then ⟨403, none⟩
      else noContent
    else if request.action = "publish" then s.authorizeMediaMTXPublish request now
    else if request.action = "read" ∨ request.action = "playback" then
      s.authorizeMediaMTXPlayback request now
    else ⟨403, none⟩

end AuthServer

/-! ## What a token has to say -/

variable {s : AuthServer} {calls : Set IssueCall} {request : MediaMTXAuthRequest}

/-- The query carries exactly one token under the key. It was issued with the payload and no other,
for the action and for the stream that the path parses to, and has not expired. -/
structure Carries (s : AuthServer) (calls : Set IssueCall) (request : MediaMTXAuthRequest)
    (key action : String) (now : ℤ) (parsed : ParsedStreamPath) (payload : Payload) : Prop where
  parses : parseStreamPath request.path = .ok parsed
  token : ∃ values token, UrlQuery.parseQuery (Observer.queryBytes request.query) = some values ∧
    valuesOf values key = [token] ∧ Issued s.sealing s.publishToken calls token payload ∧
    ∀ other, Issued s.sealing s.publishToken calls token other → other = payload
  action : payload.action = action
  stream : payload.streamID = parsed.streamID
  unexpired : unix now < payload.expiresAt

/-- The session that the payload names is active, agrees with the payload in everything that both
say, is still bound to its principal, and is the one that its stream names. -/
structure NamesCurrentSession (s : AuthServer) (payload : Payload) (now : ℤ)
    (session : PublishSession) : Prop where
  active : session.activeAt now = true
  device : payload.deviceUUID = session.deviceUUID
  sensor : payload.sensorID = session.sensorID
  stream : payload.streamID = session.streamID
  path : payload.path = session.path
  group : payload.groupID = session.groupID
  credentialVersion : payload.credentialVersion = session.credentialVersion
  devicePolicyVersion : payload.devicePolicyVersion = session.devicePolicyVersion
  bound : s.bindingHolds session = true
  current : ∃ sessions current, s.publishSessions = some sessions ∧
    sessions.find payload.sessionID = .ok session ∧
    sessions.findByStream payload.streamID = .ok current ∧ current.sessionID = session.sessionID

/-- The session that the stream names is active on the path and publishes for the group. -/
def IsPublisherGroup (s : AuthServer) (parsed : ParsedStreamPath) (now : ℤ) (groupID : String) :
    Prop :=
  ∃ sessions session, s.publishSessions = some sessions ∧
    sessions.findByStream parsed.streamID = .ok session ∧ session.activeAt now = true ∧
    session.path = parsed.path ∧ session.groupID = groupID ∧ s.bindingHolds session = true

/-- If the payload names a session, that session stands. -/
def SessionBearsOut (s : AuthServer) (payload : Payload) (now : ℤ) : Prop :=
  payload.sessionID ≠ "" → ∃ session, NamesCurrentSession s payload now session

/-- If the payload names no session, its group publishes on the stream of its path, or for talkback
on the camera's own stream. -/
def GroupBearsOut (s : AuthServer) (payload : Payload) (now : ℤ) : Prop :=
  payload.sessionID = "" → ∃ parsed target, parseStreamPath payload.path = .ok parsed ∧
    (if parsed.pathPrefix = "talkback" then
        parseStreamPath ("raw/" ++ parsed.assetID ++ "/" ++ parsed.sensorID)
      else .ok parsed) = .ok target ∧
    IsPublisherGroup s target now payload.groupID

/-! ## What each check gives -/

theorem exactQueryToken_eq_some {values : List (List UInt8 × List UInt8)} {key : String}
    {token : List UInt8} (h : exactQueryToken values key = some token) :
    valuesOf values key = [token] := by
  unfold exactQueryToken at h
  split at h
  · rename_i only hvalues
    split_ifs at h
    rw [Option.some.injEq] at h
    rw [hvalues, h]
  · cases h

theorem carriedToken_eq_some {key : String} {parsed : ParsedStreamPath} {token : List UInt8}
    (h : carriedToken request key = some (parsed, token)) :
    parseStreamPath request.path = .ok parsed ∧
      ∃ values, UrlQuery.parseQuery (Observer.queryBytes request.query) = some values ∧
        valuesOf values key = [token] := by
  unfold carriedToken at h
  split at h
  · cases h
  · rename_i parsed' hparsed
    split at h
    · cases h
    · rename_i values hvalues
      rw [Option.map_eq_some_iff] at h
      obtain ⟨token', htoken, heq⟩ := h
      rw [Prod.mk.injEq] at heq
      obtain ⟨rfl, rfl⟩ := heq
      exact ⟨hparsed, values, hvalues, exactQueryToken_eq_some htoken⟩

theorem resolveStreamTarget_eq_some {parsed : ParsedStreamPath} {now : ℤ} {groupID : String}
    (h : s.resolveStreamTarget parsed now = some groupID) : IsPublisherGroup s parsed now groupID := by
  unfold Server.resolveStreamTarget at h
  split at h
  · cases h
  · rename_i sessions hsessions
    split at h
    · cases h
    · rename_i session hsession
      split_ifs at h with hfails hholds
      simp only [Bool.or_eq_true, Bool.not_eq_true', decide_eq_true_eq, not_or, not_not,
        Bool.not_eq_false] at hfails hholds
      rw [Option.some.injEq] at h
      exact ⟨sessions, session, hsessions, hsession, hfails.1.1, hfails.1.2, h, hholds⟩

theorem legacyTokenHasActiveScope_bearsOut {payload : Payload} {now : ℤ}
    (h : s.legacyTokenHasActiveScope payload now = true) : GroupBearsOut s payload now := by
  intro _
  unfold Server.legacyTokenHasActiveScope at h
  cases hparsed : parseStreamPath payload.path with
  | error message =>
      rw [hparsed] at h
      cases h
  | ok parsed =>
      simp only [hparsed] at h
      refine ⟨parsed, ?_⟩
      generalize (if parsed.pathPrefix = "talkback" then
        parseStreamPath ("raw/" ++ parsed.assetID ++ "/" ++ parsed.sensorID)
        else .ok parsed) = scope at h ⊢
      cases scope with
      | error message => cases h
      | ok target =>
          exact ⟨target, rfl, rfl, resolveStreamTarget_eq_some (of_decide_eq_true h)⟩

theorem namesCurrentSession_of_validate {payload : Payload} {now : ℤ} (hid : payload.sessionID ≠ "")
    (h : s.validateActivePublishSession payload now = true) :
    ∃ session, NamesCurrentSession s payload now session := by
  cases hsessions : s.publishSessions with
  | none =>
      simp only [Server.validateActivePublishSession, if_neg hid, hsessions, Bool.false_eq_true] at h
  | some sessions =>
      rw [Server.validateActivePublishSession_iff hsessions hid] at h
      obtain ⟨session, current, hfind, hcurrent, hsame, hholds, hactive, hmatches⟩ := h
      simp only [matchesSession, Bool.and_eq_true, decide_eq_true_eq] at hmatches
      obtain ⟨⟨⟨⟨⟨⟨hdevice, hsensor⟩, hstream⟩, hpath⟩, hgroup⟩, hcredential⟩, hpolicy⟩ := hmatches
      rw [hstream] at hcurrent
      exact ⟨session, hactive, hdevice.symm, hsensor.symm, hstream.symm, hpath.symm, hgroup.symm,
        hcredential.symm, hpolicy.symm, hholds, sessions, current, hsessions, hfind, hcurrent,
        hsame⟩

theorem validateActivePublishSession_bearsOut {payload : Payload} {now : ℤ}
    (h : s.validateActivePublishSession payload now = true) :
    SessionBearsOut s payload now ∧ GroupBearsOut s payload now := by
  constructor
  · intro hid
    exact namesCurrentSession_of_validate hid h
  · intro hid
    rw [Server.validateActivePublishSession, if_pos hid] at h
    exact legacyTokenHasActiveScope_bearsOut h hid

theorem talkbackPlaybackTokenIsActive_bearsOut {payload : Payload} {now : Readings}
    (h : s.talkbackPlaybackTokenIsActive payload now = true) :
    SessionBearsOut s payload now.token ∧ GroupBearsOut s payload now.sessions := by
  unfold AuthServer.talkbackPlaybackTokenIsActive at h
  split_ifs at h with hid
  · exact ⟨fun _ => namesCurrentSession_of_validate hid h, fun hempty => absurd hempty hid⟩
  · exact ⟨fun hne => absurd hne hid, legacyTokenHasActiveScope_bearsOut h⟩

/-- What a token that opens to the payload says, once its checks have passed. -/
theorem carries_of_decodeVerified (hideal : Ideal s.sealing s.publishToken calls)
    {key action : String} {now : ℤ} {parsed : ParsedStreamPath} {token : List UInt8}
    {payload : Payload} (hcarried : carriedToken request key = some (parsed, token))
    (hopened : s.decodeVerified token = some payload) (hstream : payload.streamID = parsed.streamID)
    (haction : payload.action = action) (hexpires : unix now < payload.expiresAt) :
    Carries s calls request key action now parsed payload := by
  obtain ⟨hparsed, values, hvalues, htoken⟩ := carriedToken_eq_some hcarried
  have hissued := hideal.decodeVerified_eq_some_iff.mp hopened
  exact ⟨hparsed, ⟨values, token, hvalues, htoken, hissued,
    fun other hother => hideal.payload_unique hissued hother⟩, haction, hstream, hexpires⟩

/-! ## What an answer of 204 says -/

theorem authorizeMediaMTXPublish_eq_204 (hideal : Ideal s.sealing s.publishToken calls)
    {now : Readings} (h : (s.authorizeMediaMTXPublish request now).status = 204) :
    ∃ parsed payload,
      Carries s calls request publisherTokenQueryKey "publish" now.token parsed payload ∧
      payload.path = request.path ∧ SessionBearsOut s payload now.sessions ∧
      GroupBearsOut s payload now.sessions := by
  unfold AuthServer.authorizeMediaMTXPublish at h
  split_ifs at h with hsecret
  · exact absurd h (by decide)
  · split at h
    · exact absurd h (by decide)
    · rename_i parsed token hcarried
      split at h
      · exact absurd h (by decide)
      · rename_i payload hvalid
        split_ifs at h with hactive
        · obtain ⟨hopened, hstream, haction, hpath, hexpires⟩ := validateForRoute_eq_some hvalid
          exact ⟨parsed, payload, carries_of_decodeVerified hideal hcarried hopened hstream haction
            (hexpires rfl), hpath, validateActivePublishSession_bearsOut hactive⟩
        · exact absurd h (by decide)

theorem authorizeMediaMTXPlayback_eq_204 (hideal : Ideal s.sealing s.publishToken calls)
    {now : Readings} (h : (s.authorizeMediaMTXPlayback request now).status = 204) :
    ∃ parsed payload,
      Carries s calls request playbackTokenQueryKey "playback" now.token parsed payload ∧
      (parsed.pathPrefix ≠ "talkback" → payload.path = request.path ∧
        IsPublisherGroup s parsed now.sessions payload.groupID) ∧
      (parsed.pathPrefix = "talkback" → payload.path = parsed.path ∧
        SessionBearsOut s payload now.token ∧ GroupBearsOut s payload now.sessions) := by
  unfold AuthServer.authorizeMediaMTXPlayback at h
  split_ifs at h with hsecret
  · exact absurd h (by decide)
  · split at h
    · exact absurd h (by decide)
    · rename_i parsed token hcarried
      by_cases htalkback : parsed.pathPrefix = "talkback"
      · rw [if_pos htalkback] at h
        split_ifs at h with hvalid
        · unfold AuthServer.validTalkbackPlaybackToken at hvalid
          split at hvalid
          · cases hvalid
          · rename_i payload hroute
            obtain ⟨hopened, hstream, haction, hpath, hexpires⟩ := validateForRoute_eq_some hroute
            exact ⟨parsed, payload, carries_of_decodeVerified hideal hcarried hopened hstream
              haction (hexpires rfl), fun hnot => absurd htalkback hnot, fun _ =>
              ⟨hpath, talkbackPlaybackTokenIsActive_bearsOut hvalid⟩⟩
        · exact absurd h (by decide)
      · rw [if_neg htalkback] at h
        split at h
        · exact absurd h (by decide)
        · rename_i groupID htarget
          split_ifs at h with hvalid
          · rw [validate_iff] at hvalid
            obtain ⟨payload, hopened, hstream, haction, hpath, hgroup, hexpires⟩ := hvalid
            subst hgroup
            exact ⟨parsed, payload, carries_of_decodeVerified hideal hcarried hopened hstream
              haction hexpires, fun _ => ⟨hpath, resolveStreamTarget_eq_some htarget⟩,
              fun hpre => absurd hpre htalkback⟩
          · exact absurd h (by decide)

/-- Confinement of media tokens, for every request, every state of the sessions and every set of
tokens issued under the server's secret: a token opens nothing but the stream, the action and the
group that it was issued for, and only while the sessions bear it out. -/
theorem mediaMTXAuth_confines (hideal : Ideal s.sealing s.publishToken calls) {method : String}
    {now : Readings} (h : (s.mediaMTXAuth method (some request) now).status = 204) :
    (request.action = "publish" → ∃ parsed payload,
      Carries s calls request "publisherToken" "publish" now.token parsed payload ∧
      payload.path = request.path ∧ SessionBearsOut s payload now.sessions ∧
      GroupBearsOut s payload now.sessions) ∧
    (request.action = "read" ∨ request.action = "playback" → ∃ parsed payload,
      Carries s calls request "playbackToken" "playback" now.token parsed payload ∧
      (parsed.pathPrefix ≠ "talkback" → payload.path = request.path ∧
        IsPublisherGroup s parsed now.sessions payload.groupID) ∧
      (parsed.pathPrefix = "talkback" → payload.path = parsed.path ∧
        SessionBearsOut s payload now.token ∧ GroupBearsOut s payload now.sessions)) := by
  unfold AuthServer.mediaMTXAuth at h
  split_ifs at h with hmethod
  · exact absurd h (by decide)
  · constructor
    · intro haction
      have hapi : request.action ≠ "api" := by
        rw [haction]
        decide
      simp only [if_neg hapi, if_pos haction] at h
      exact authorizeMediaMTXPublish_eq_204 hideal h
    · intro haction
      have hothers : request.action ≠ "api" ∧ request.action ≠ "publish" := by
        cases haction with
        | inl hread =>
            rw [hread]
            decide
        | inr hplayback =>
            rw [hplayback]
            decide
      simp only [if_neg hothers.1, if_neg hothers.2, if_pos haction] at h
      exact authorizeMediaMTXPlayback_eq_204 hideal h

/-! ## A viewer of a camera -/

def sampleSession : PublishSession where
  sessionID := "ps_a"
  deviceUUID := "device-1"
  sensorID := "b"
  streamID := "raw.a.b"
  path := "raw/a/b"
  groupID := "co-a"
  credentialVersion := 1
  devicePolicyVersion := 1
  principalID := "device-1"
  bindingType := "device"
  status := .active
  renewalTokenHash := []
  previousRenewalTokenHash := []
  renewalTokenVersion := 0
  publishTokenExpiresAt := tokenTTL
  renewalTokenExpiresAt := 2 * tokenTTL
  createdAt := 0
  updatedAt := 0

def samplePayload : Payload where
  streamID := "raw.a.b"
  action := "playback"
  path := "raw/a/b"
  groupID := "co-a"
  sessionID := ""
  deviceUUID := ""
  sensorID := ""
  credentialVersion := 0
  devicePolicyVersion := 0
  tokenID := ""
  expiresAt := 300

def sampleText : List UInt8 :=
  bytes ("\x7b\"streamId\":\"raw.a.b\",\"action\":\"playback\",\"path\":\"raw/a/b\"," ++
    "\"groupId\":\"co-a\",\"exp\":300\x7d")

def sampleNonce : List UInt8 := [3, 1, 4, 1, 5, 9, 2, 6, 5, 3, 5, 8]

/-- The text under a key stream of zeros, with its tag. -/
def sampleCipher : List UInt8 := sampleText ++ List.replicate 16 7

/-- A cipher that has sealed one text. -/
def sampleSealing : Sealing where
  nonceSize := 12
  sealText _ _ plain _ := plain ++ List.replicate 16 7
  openText _ nonce cipher _ :=
    if nonce = sampleNonce ∧ cipher = sampleCipher then some sampleText else none
  encodeToString raw := bytes (Base64.encode raw)
  decodeString text :=
    if text = bytes (Base64.encode (sampleNonce ++ sampleCipher)) then
      some (sampleNonce ++ sampleCipher)
    else none
  marshal _ := sampleText
  unmarshal raw := if raw = sampleText then some samplePayload else none

def sampleCall : IssueCall := .issue "playback" "raw.a.b" "raw/a/b" "co-a" 0 (some sampleNonce)

def sampleToken : List UInt8 := tokenPrefix ++ bytes (Base64.encode (sampleNonce ++ sampleCipher))

theorem sampleCall_token : sampleCall.token sampleSealing "secret" = some sampleToken := by
  have hpayload : sampleCall.payload "secret" = some samplePayload := by decide +kernel
  have hsecret : ¬ isBlank "secret" = true := by decide +kernel
  rw [IssueCall.token, hpayload, Option.bind_some, encryptMediaToken, if_neg hsecret]
  simp only [IssueCall.nonce, sampleCall, Option.map_some, sampleSealing, sampleCipher, sampleToken]

theorem decodeVerified_sampleToken :
    SealedToken.decodeVerified sampleSealing "secret" sampleToken = some samplePayload := by
  have hsecret : isBlank "secret" = false := by decide +kernel
  have hblank : isBlankText sampleToken = false := isBlankText_tokenPrefix_append _
  have hpre : tokenPrefix.isPrefixOf sampleToken = true :=
    List.isPrefixOf_iff_prefix.2 (List.prefix_append _ _)
  have hdrop : sampleToken.drop tokenPrefix.length =
      bytes (Base64.encode (sampleNonce ++ sampleCipher)) := List.drop_left
  have hdecode : sampleSealing.decodeString (bytes (Base64.encode (sampleNonce ++ sampleCipher))) =
      some (sampleNonce ++ sampleCipher) := by
    simp only [sampleSealing, if_true]
  rw [SealedToken.decodeVerified, hsecret, hblank, hpre, hdrop, hdecode]
  decide +kernel

theorem sampleIdeal : Ideal sampleSealing "secret" {sampleCall} where
  produced := by
    intro token payload h
    refine ⟨sampleCall, rfl, ?_⟩
    unfold SealedToken.decodeVerified at h
    split_ifs at h with hblank hpre
    rw [Bool.not_eq_true', Bool.not_eq_false, List.isPrefixOf_iff_prefix] at hpre
    obtain ⟨text, rfl⟩ := hpre
    rw [List.drop_left] at h
    by_cases htext : text = bytes (Base64.encode (sampleNonce ++ sampleCipher))
    · rw [htext]
      exact sampleCall_token
    · simp only [sampleSealing, if_neg htext, reduceCtorEq] at h
  reads := by
    rintro call rfl token htoken
    rw [sampleCall_token, Option.some.injEq] at htoken
    rw [← htoken, decodeVerified_sampleToken]
    rfl

def sampleServer : AuthServer where
  publishSessions := some (lookup (SessionStore.InMemoryPublishSessionStore.empty.save sampleSession))
  sessionValidator := none
  publishToken := "secret"
  mediaMTXAPIUser := ""
  mediaMTXAPIPass := ""
  sealing := sampleSealing

def sampleRequest : MediaMTXAuthRequest where
  user := ""
  password := ""
  action := "read"
  path := "raw/a/b"
  query := "?playbackToken=gcs_media_v2_" ++ Base64.encode (sampleNonce ++ sampleCipher)

def sampleParsed : ParsedStreamPath where
  pathPrefix := "raw"
  assetID := "a"
  sensorID := "b"
  processorID := ""
  archiveDate := ""
  path := "raw/a/b"
  streamID := "raw.a.b"

theorem carriedToken_sample :
    carriedToken sampleRequest playbackTokenQueryKey = some (sampleParsed, sampleToken) := by
  have hparsed : parseStreamPath sampleRequest.path = .ok sampleParsed := by decide +kernel
  have hvalues : (UrlQuery.parseQuery (Observer.queryBytes sampleRequest.query)).map
      (valuesOf · playbackTokenQueryKey) = some [sampleToken] := by
    decide +kernel
  obtain ⟨values, hquery, htoken⟩ := Option.map_eq_some_iff.1 hvalues
  have hblank : isBlankText sampleToken = false := isBlankText_tokenPrefix_append _
  simp only [carriedToken, hparsed, hquery, exactQueryToken, htoken, hblank]
  rfl

theorem mediaMTXAuth_sample :
    (sampleServer.mediaMTXAuth "POST" (some sampleRequest) ⟨0, 0⟩).status = 204 := by
  have htarget : sampleServer.resolveStreamTarget sampleParsed 0 = some "co-a" := by
    decide +kernel
  have hvalid : validate sampleServer.decodeVerified sampleToken "playback" "raw.a.b" "raw/a/b"
      "co-a" 0 = true :=
    validate_iff.2 ⟨samplePayload, decodeVerified_sampleToken, rfl, rfl, rfl, rfl, by decide⟩
  have hread : sampleServer.mediaMTXAuth "POST" (some sampleRequest) ⟨0, 0⟩ =
      sampleServer.authorizeMediaMTXPlayback sampleRequest ⟨0, 0⟩ := by
    simp [AuthServer.mediaMTXAuth, sampleRequest]
  rw [hread, AuthServer.authorizeMediaMTXPlayback, carriedToken_sample]
  simp only [htarget]
  rw [if_neg (by decide +kernel), if_neg (by decide +kernel)]
  exact congrArg Response.status (if_pos hvalid)

theorem mediaMTXAuth_confines_sample :
    (sampleServer.mediaMTXAuth "POST" (some sampleRequest) ⟨0, 0⟩).status = 204 ∧
      ∃ parsed payload, Carries sampleServer {sampleCall} sampleRequest "playbackToken" "playback" 0
        parsed payload ∧
        (parsed.pathPrefix ≠ "talkback" → payload.path = "raw/a/b" ∧
          IsPublisherGroup sampleServer parsed 0 payload.groupID) ∧
        (parsed.pathPrefix = "talkback" → payload.path = parsed.path ∧
          SessionBearsOut sampleServer payload 0 ∧ GroupBearsOut sampleServer payload 0) :=
  ⟨mediaMTXAuth_sample,
    (mediaMTXAuth_confines sampleIdeal mediaMTXAuth_sample).2 (Or.inl rfl)⟩

end GcsSaker.MediaMtxAuth
