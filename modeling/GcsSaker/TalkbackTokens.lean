import GcsSaker.Machines
import GcsSaker.MediaToken
import Mathlib.Data.List.Nodup

/-!
# Talkback tokens

Every talkback token is bound to a session of its own that is saved under the stream, and a token is
accepted only while its session is the one that the stream names. So a token is good until the next
one is issued on its stream, to whomever and for either direction.
-/

namespace GcsSaker.TalkbackTokens

open MediaToken
open SessionStore (PublishSession InMemoryPublishSessionStore)
open StreamPath (ParsedStreamPath)

/-! ## Issuing -/

/-- A request for a token: the stream, the group and the decision it was authorised by, the clock,
and what is drawn at random on the way. -/
structure TalkbackRequest where
  parsed : ParsedStreamPath
  publisherGroupID : String
  principalID : String
  securityVersion : Int64
  now : ℤ
  sessionDraw : Option String
  tokenDraw : Option String
  encrypted : Bool
  deriving DecidableEq

namespace TalkbackRequest

variable (r : TalkbackRequest)

def sessionID : Option String := r.sessionDraw.map fun draw => "ps_" ++ draw

def session (sessionID : String) : PublishSession where
  sessionID := sessionID
  deviceUUID := "account"
  sensorID := r.parsed.sensorID
  streamID := r.parsed.streamID
  path := r.parsed.path
  groupID := r.publisherGroupID
  credentialVersion := r.securityVersion
  devicePolicyVersion := 1
  principalID := r.principalID
  bindingType := "account"
  status := .active
  renewalTokenHash := []
  previousRenewalTokenHash := []
  renewalTokenVersion := 0
  publishTokenExpiresAt := r.now + tokenTTL
  renewalTokenExpiresAt := r.now + tokenTTL
  createdAt := r.now
  updatedAt := r.now

end TalkbackRequest

variable (secret : String) (s : InMemoryPublishSessionStore)

def saveBoundTalkbackSession (r : TalkbackRequest) :
    InMemoryPublishSessionStore × Option PublishSession :=
  match r.sessionID with
  | none => (s, none)
  | some sessionID => (s.save (r.session sessionID), some (r.session sessionID))

/-- The part that both handlers share: the session is saved, then the token is issued. -/
def saveAndIssue (action : String) (r : TalkbackRequest) :
    InMemoryPublishSessionStore × Option Payload :=
  match saveBoundTalkbackSession s r with
  | (s', none) => (s', none)
  | (s', some session) => (s', r.tokenDraw.bind fun draw =>
      issueBound secret session action ("jti_" ++ draw) r.now r.encrypted)

def issueBoundTalkbackToken (r : TalkbackRequest) : InMemoryPublishSessionStore × Option Payload :=
  saveAndIssue secret s "publish" r

def withBoundTalkbackPlaybackToken (r : TalkbackRequest) :
    InMemoryPublishSessionStore × Option Payload :=
  if r.principalID = "" ∨ r.securityVersion ≤ 0 then (s, none)
  else saveAndIssue secret s "playback" r

inductive TalkbackCall where
  | publish (r : TalkbackRequest)
  | playback (r : TalkbackRequest)
  | endSession (sessionID : String) (now : ℤ)
  deriving DecidableEq

def serve : TalkbackCall → InMemoryPublishSessionStore × Option Payload
  | .publish r => issueBoundTalkbackToken secret s r
  | .playback r => withBoundTalkbackPlaybackToken secret s r
  | .endSession sessionID now => ((s.endSession sessionID now).1, none)

/-- The session that a call saves, if it saves one. -/
def TalkbackCall.saves : TalkbackCall → Option PublishSession
  | .publish r => r.sessionID.map r.session
  | .playback r =>
    if r.principalID = "" ∨ r.securityVersion ≤ 0 then none else r.sessionID.map r.session
  | .endSession _ _ => none

/-! ## What a call leaves of a session -/

/-- The ways a call can go on the store. -/
inductive Serves (s : InMemoryPublishSessionStore) (call : TalkbackCall) :
    InMemoryPublishSessionStore → Prop
  | kept (hsaves : call.saves = none) : Serves s call s
  | saved (session : PublishSession) (hsaves : call.saves = some session) :
      Serves s call (s.save session)
  | ended (sessionID : String) (now : ℤ) (hcall : call = .endSession sessionID now)
      (session : PublishSession) (hs : s.sessions sessionID = some session) :
      Serves s call (s.put sessionID (session.endedAt now))

variable {secret s}

theorem saveAndIssue_serves {action : String} {r : TalkbackRequest} {call : TalkbackCall}
    (hsaves : call.saves = r.sessionID.map r.session) :
    Serves s call (saveAndIssue secret s action r).1 := by
  unfold saveAndIssue saveBoundTalkbackSession
  cases hid : r.sessionID with
  | none => exact .kept (by rw [hsaves, hid, Option.map_none])
  | some sessionID => exact .saved _ (by rw [hsaves, hid, Option.map_some])

theorem serve_serves (secret : String) (s : InMemoryPublishSessionStore) (call : TalkbackCall) :
    Serves s call (serve secret s call).1 := by
  cases call with
  | publish r => exact saveAndIssue_serves rfl
  | playback r =>
      simp only [serve, withBoundTalkbackPlaybackToken]
      split_ifs with hdenied
      · exact .kept (if_pos hdenied)
      · exact saveAndIssue_serves (if_neg hdenied)
  | endSession sessionID now =>
      simp only [serve, InMemoryPublishSessionStore.endSession]
      cases hs : s.sessions sessionID with
      | none => exact .kept rfl
      | some session => exact .ended sessionID now rfl session hs

/-- The store holds the session, and the stream names it unless it has been superseded. -/
structure Holds (mine : PublishSession) (superseded : Prop) (s : InMemoryPublishSessionStore) :
    Prop where
  stored : s.sessions mine.sessionID = some mine
  current : ∃ other : PublishSession, s.streams mine.streamID = some other.sessionID ∧
    s.sessions other.sessionID = some other ∧
    (other.sessionID = mine.sessionID ↔ ¬ superseded)

/-- The call saves a session under the stream. -/
def TalkbackCall.SavesOn (call : TalkbackCall) (streamID : String) : Prop :=
  ∃ session, call.saves = some session ∧ session.streamID = streamID

variable {mine : PublishSession} {superseded : Prop}

theorem holds_save (hs : Holds mine superseded s) {session : PublishSession}
    (hfresh : session.sessionID ≠ mine.sessionID) :
    Holds mine (superseded ∨ session.streamID = mine.streamID) (s.save session) := by
  obtain ⟨other, hstream, hother, hiff⟩ := hs.current
  have hkept : ∀ {id}, id ≠ session.sessionID → (s.save session).sessions id = s.sessions id :=
    fun hne => Function.update_of_ne hne _ _
  have hself : (s.save session).sessions session.sessionID = some session :=
    Function.update_self _ _ _
  refine ⟨(hkept hfresh.symm).trans hs.stored, ?_⟩
  by_cases hsame : session.streamID = mine.streamID
  · refine ⟨session, ?_, hself, ?_⟩
    · rw [← hsame]
      exact Function.update_self _ _ _
    · exact iff_of_false hfresh fun hnot => hnot (Or.inr hsame)
  · have hstreams : (s.save session).streams mine.streamID = s.streams mine.streamID :=
      Function.update_of_ne (Ne.symm hsame) _ _
    rw [hstreams, hstream, or_iff_left hsame]
    by_cases hid : other.sessionID = session.sessionID
    · exact ⟨session, congrArg some hid, hself, hid ▸ hiff⟩
    · exact ⟨other, rfl, (hkept hid).trans hother, hiff⟩

theorem holds_end (hs : Holds mine superseded s) {sessionID : String} {now : ℤ}
    {session : PublishSession} (hsession : s.sessions sessionID = some session)
    (hother : sessionID ≠ mine.sessionID) :
    Holds mine superseded (s.put sessionID (session.endedAt now)) := by
  obtain ⟨current, hstream, hcurrent, hiff⟩ := hs.current
  have hkept : ∀ {id}, id ≠ sessionID →
      (s.put sessionID (session.endedAt now)).sessions id = s.sessions id :=
    fun hne => Function.update_of_ne hne _ _
  refine ⟨(hkept hother.symm).trans hs.stored, ?_⟩
  by_cases hid : current.sessionID = sessionID
  · rw [hid, hsession, Option.some.injEq] at hcurrent
    subst hcurrent
    refine ⟨session.endedAt now, hstream, ?_, hiff⟩
    rw [← hid]
    exact Function.update_self _ _ _
  · exact ⟨current, hstream, (hkept hid).trans hcurrent, hiff⟩

theorem serve_holds (secret : String) (hs : Holds mine superseded s) {call : TalkbackCall}
    (hfresh : ∀ session, call.saves = some session → session.sessionID ≠ mine.sessionID)
    (hend : ∀ now, call ≠ .endSession mine.sessionID now) :
    Holds mine (superseded ∨ call.SavesOn mine.streamID) (serve secret s call).1 := by
  have hserves := serve_serves secret s call
  generalize (serve secret s call).1 = s' at hserves ⊢
  have hnone : call.saves = none → ¬ call.SavesOn mine.streamID := by
    rintro hsaves ⟨session, hsome, -⟩
    rw [hsaves] at hsome
    cases hsome
  cases hserves with
  | kept hsaves =>
      rw [or_iff_left (hnone hsaves)]
      exact hs
  | saved session hsaves =>
      have hon : call.SavesOn mine.streamID ↔ session.streamID = mine.streamID := by
        simp only [TalkbackCall.SavesOn, hsaves, Option.some.injEq, exists_eq_left']
      rw [hon]
      exact holds_save hs (hfresh session hsaves)
  | ended sessionID now hcall session hsession =>
      subst hcall
      rw [or_iff_left (hnone rfl)]
      refine holds_end hs hsession ?_
      rintro rfl
      exact hend now rfl

theorem final_holds (secret : String) {calls : List TalkbackCall} (hs : Holds mine superseded s)
    (hfresh : ∀ call ∈ calls, ∀ session, call.saves = some session →
      session.sessionID ≠ mine.sessionID)
    (hend : ∀ now, .endSession mine.sessionID now ∉ calls) :
    Holds mine (superseded ∨ ∃ call ∈ calls, call.SavesOn mine.streamID)
      (Machines.final (serve secret) s calls) := by
  induction calls generalizing s superseded with
  | nil =>
      rw [or_iff_left (by rintro ⟨call, hmem, -⟩; cases hmem)]
      exact hs
  | cons call calls ih =>
      have hstep := serve_holds secret hs (hfresh call (List.mem_cons_self ..))
        fun now hcall => hend now (hcall ▸ List.mem_cons_self ..)
      have hrest := ih hstep (fun c hc => hfresh c (List.mem_cons_of_mem call hc))
        fun now hmem => hend now (List.mem_cons_of_mem call hmem)
      rw [or_assoc] at hrest
      simp only [List.mem_cons, exists_eq_or_imp]
      exact hrest

/-! ## Which tokens are accepted -/

/-- What an issued token says, and what is in the store when it is issued. -/
theorem saveAndIssue_eq_some {action : String} {r : TalkbackRequest} {payload : Payload}
    (h : (saveAndIssue secret s action r).2 = some payload) :
    ∃ draw, r.sessionDraw = some draw ∧
      (saveAndIssue secret s action r).1 = s.save (r.session ("ps_" ++ draw)) ∧
      payload.sessionID = "ps_" ++ draw ∧ payload.expiresAt = unix (r.now + tokenTTL) ∧
      matchesSession payload (r.session ("ps_" ++ draw)) = true := by
  unfold saveAndIssue saveBoundTalkbackSession TalkbackRequest.sessionID at h ⊢
  cases hdraw : r.sessionDraw with
  | none =>
      rw [hdraw] at h
      cases h
  | some draw =>
      simp only [hdraw, Option.map_some, Option.bind_eq_some_iff] at h
      obtain ⟨tokenDraw, -, hissued⟩ := h
      rw [issueBound, Option.ite_none_left_eq_some] at hissued
      obtain ⟨-, hpayload⟩ := hissued
      rw [Option.some.injEq] at hpayload
      subst hpayload
      refine ⟨draw, rfl, rfl, rfl, rfl, ?_⟩
      simp only [matchesSession, decide_true, Bool.and_self]

theorem serve_eq_some {call : TalkbackCall} {payload : Payload}
    (h : (serve secret s call).2 = some payload) :
    ∃ (r : TalkbackRequest) (draw : String), call.saves = some (r.session ("ps_" ++ draw)) ∧
      (serve secret s call).1 = s.save (r.session ("ps_" ++ draw)) ∧
      payload.sessionID = "ps_" ++ draw ∧ payload.expiresAt = unix (r.now + tokenTTL) ∧
      matchesSession payload (r.session ("ps_" ++ draw)) = true := by
  cases call with
  | publish r =>
      obtain ⟨draw, hdraw, hstate, hpayload⟩ := saveAndIssue_eq_some h
      refine ⟨r, draw, ?_, hstate, hpayload⟩
      rw [TalkbackCall.saves, TalkbackRequest.sessionID, hdraw, Option.map_some, Option.map_some]
  | playback r =>
      simp only [serve, withBoundTalkbackPlaybackToken] at h ⊢
      split_ifs at h ⊢ with hdenied
      obtain ⟨draw, hdraw, hstate, hpayload⟩ := saveAndIssue_eq_some h
      refine ⟨r, draw, ?_, hstate, hpayload⟩
      rw [TalkbackCall.saves, if_neg hdenied, TalkbackRequest.sessionID, hdraw, Option.map_some,
        Option.map_some]
  | endSession sessionID time => cases h

theorem sessionID_ne_empty (draw : String) : "ps_" ++ draw ≠ "" := by
  intro hempty
  have hlength := congrArg String.length hempty
  rw [String.length_append] at hlength
  have hpre : "ps_".length = 3 := by decide
  have hzero : "".length = 0 := by decide
  omega

theorem holds_saved (s : InMemoryPublishSessionStore) (session : PublishSession) :
    Holds session False (s.save session) :=
  ⟨Function.update_self _ _ _, session, Function.update_self _ _ _, Function.update_self _ _ _,
    iff_of_true rfl not_false⟩

theorem lt_of_unix_lt {a b : ℤ} (h : unix a < unix b) : a < b := by
  by_contra hle
  have hmono : unix b ≤ unix a := Int.ediv_le_ediv (by decide) (not_lt.mp hle)
  omega

/-- Under a store that holds its session, a token is accepted if and only if its session has not been
superseded. -/
theorem validate_iff (hs : Holds mine superseded s) {payload : Payload} {now : ℤ}
    {validator : Option (PublishSession → Bool)} (hid : payload.sessionID = mine.sessionID)
    (hne : payload.sessionID ≠ "") (hmatches : matchesSession payload mine = true)
    (hactive : mine.activeAt now = true) (hbinding : ∀ v, validator = some v → v mine = true) :
    (Server.mk (some (lookup s)) validator).validateActivePublishSession payload now = true ↔
      ¬ superseded := by
  obtain ⟨other, hstream, hother, hiff⟩ := hs.current
  have hfind : s.find payload.sessionID = .ok mine := by
    rw [hid, InMemoryPublishSessionStore.find, hs.stored]
  have hfindByStream : s.findByStream mine.streamID = .ok other := by
    rw [InMemoryPublishSessionStore.findByStream, hstream, Option.getD_some,
      InMemoryPublishSessionStore.find, hother]
  have hholds : ∀ sessions, (Server.mk sessions validator).bindingHolds mine = true := by
    intro sessions
    unfold Server.bindingHolds
    cases hv : validator with
    | none => rfl
    | some v => simp only [hbinding v hv, ite_self]
  rw [Server.validateActivePublishSession_iff rfl hne, ← hiff]
  constructor
  · rintro ⟨session, current, hfound, hcurrent, hsame, -⟩
    obtain rfl := Except.ok.inj (hfind.symm.trans hfound)
    obtain rfl := Except.ok.inj (hfindByStream.symm.trans hcurrent)
    exact hsame
  · intro hsame
    exact ⟨mine, other, hfind, hfindByStream, hsame, hholds _, hactive, hmatches⟩

/-- The session ids that are drawn along the calls. -/
def drawn (calls : List TalkbackCall) : List String :=
  calls.filterMap fun call => call.saves.map fun session => session.sessionID

/-- Talkback tokens, for every history of requests by any users on any streams and of ended sessions
in which no session id is drawn twice: a token that has not expired, whose session has not been ended
and whose binding is current is accepted if and only if no later request has saved a session under
its stream. -/
theorem token_accepted_iff {secret : String} {s : InMemoryPublishSessionStore}
    {before after : List TalkbackCall} {call : TalkbackCall} {payload : Payload}
    (hissued : (serve secret (Machines.final (serve secret) s before) call).2 = some payload)
    (hfresh : (drawn (before ++ call :: after)).Nodup)
    (hend : ∀ time, .endSession payload.sessionID time ∉ after)
    {validator : Option (PublishSession → Bool)}
    (hbinding : ∀ v, validator = some v → ∀ session, call.saves = some session → v session = true)
    {now : ℤ} (hnow : unix now < payload.expiresAt) :
    let held := lookup (Machines.final (serve secret) s (before ++ call :: after))
    (Server.mk (some held) validator).validateActivePublishSession payload now = true ↔
      ∀ later ∈ after, ¬ later.SavesOn payload.streamID := by
  intro held
  obtain ⟨r, draw, hsaves, hstate, hid, hexpires, hmatches⟩ := serve_eq_some hissued
  have hstream : payload.streamID = (r.session ("ps_" ++ draw)).streamID := by
    simp only [matchesSession, Bool.and_eq_true, decide_eq_true_eq] at hmatches
    exact hmatches.1.1.1.1.2.symm
  have hlater : ∀ c ∈ after, ∀ session, c.saves = some session →
      session.sessionID ≠ "ps_" ++ draw := by
    intro c hc session hsession heq
    have hmem : "ps_" ++ draw ∈ drawn after := by
      refine List.mem_filterMap.mpr ⟨c, hc, ?_⟩
      rw [hsession, Option.map_some, heq]
    rw [drawn, List.filterMap_append, List.filterMap_cons, hsaves] at hfresh
    exact (List.nodup_cons.mp hfresh.of_append_right).1 hmem
  have hfinal : Holds (r.session ("ps_" ++ draw))
      (False ∨ ∃ c ∈ after, c.SavesOn (r.session ("ps_" ++ draw)).streamID)
      (Machines.final (serve secret) s (before ++ call :: after)) := by
    rw [Machines.final_append, Machines.final, hstate]
    refine final_holds secret (holds_saved _ _) hlater fun time => ?_
    have hnot := hend time
    rw [hid] at hnot
    exact hnot
  have hne : payload.sessionID ≠ "" := by
    rw [hid]
    exact sessionID_ne_empty draw
  have hactive : (r.session ("ps_" ++ draw)).activeAt now = true := by
    rw [hexpires] at hnow
    simp only [PublishSession.activeAt, TalkbackRequest.session, decide_true, Bool.true_and]
    exact decide_eq_true (lt_of_unix_lt hnow)
  rw [validate_iff hfinal hid hne hmatches hactive fun v hv => hbinding v hv _ hsaves]
  rw [false_or, hstream]
  simp only [not_exists, not_and]

/-- A request of the given account for a token on the talkback channel of a drone's camera. -/
def sampleRequest (principalID draw : String) (now : ℤ) : TalkbackRequest where
  parsed := ⟨"talkback", "drone-01", "front", "operator", "",
    "talkback/raw/drone-01/front/operator", "talkback.raw.drone-01.front.operator"⟩
  publisherGroupID := "co-a"
  principalID := principalID
  securityVersion := 1
  now := now
  sessionDraw := some draw
  tokenDraw := some draw
  encrypted := true

/-- An operator gets a token to speak, and a second later somebody gets one to listen. -/
def speakThenListen : List TalkbackCall :=
  [.publish (sampleRequest "operator-1" "a" 0),
    .playback (sampleRequest "operator-2" "b" Clock.second)]

theorem token_accepted_last :
    ∃ payload, (serve "secret" (Machines.final (serve "secret") .empty
        [.publish (sampleRequest "operator-1" "a" 0)])
      (.playback (sampleRequest "operator-2" "b" Clock.second))).2 = some payload ∧
      (Server.mk (some (lookup (Machines.final (serve "secret") .empty speakThenListen)))
        none).validateActivePublishSession payload (2 * Clock.second) = true := by
  have hsome : (serve "secret" (Machines.final (serve "secret") .empty
      [.publish (sampleRequest "operator-1" "a" 0)])
      (.playback (sampleRequest "operator-2" "b" Clock.second))).2.isSome = true := by
    decide +kernel
  obtain ⟨payload, hissued⟩ := Option.isSome_iff_exists.mp hsome
  have hexpires : ((serve "secret" (Machines.final (serve "secret") .empty
      [.publish (sampleRequest "operator-1" "a" 0)])
      (.playback (sampleRequest "operator-2" "b" Clock.second))).2.map fun p => p.expiresAt) =
      some 301 := by
    decide +kernel
  rw [hissued, Option.map_some, Option.some.injEq] at hexpires
  refine ⟨payload, hissued, ?_⟩
  refine (@token_accepted_iff "secret" .empty [.publish (sampleRequest "operator-1" "a" 0)] []
    (.playback (sampleRequest "operator-2" "b" Clock.second)) payload hissued (by decide +kernel)
    (fun _ => List.not_mem_nil) none nofun (2 * Clock.second) ?_).mpr nofun
  rw [hexpires]
  decide

/-- Two seconds after it was issued, the token to speak is refused: the token to listen that was
issued in between has taken its stream. -/
theorem token_superseded :
    let issued := (serve "secret" .empty (.publish (sampleRequest "operator-1" "a" 0))).2
    let held := lookup (Machines.final (serve "secret") .empty speakThenListen)
    issued.map (fun payload => payload.expiresAt) = some 300 ∧
      issued.map (fun payload => (Server.mk (some held) none).validateActivePublishSession payload
        (2 * Clock.second)) = some false := by
  decide +kernel

end GcsSaker.TalkbackTokens
