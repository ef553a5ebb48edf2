import GcsSaker.RedisSessionSteps

/-!
# What failed calls leave behind

`Save` and `RotateRenewal` write the session first and the statistics afterwards, so a failure that
comes after the write is reported although the session has changed. A publisher that is told to try
again then presents a renewal token that has been exchanged already, and loses its session.
-/

namespace GcsSaker.SessionStore

open Control (Reply)

/-! ## The renewal endpoint -/

def publishAccessTTL : ℤ := 180 * Clock.second

def publishRenewalTTL : ℤ := 2700 * Clock.second

/-- A request to renew a session: what it presents, what the handler draws and asks on the way, and
what becomes of the round trips to Redis. -/
structure RenewRequest where
  sessionID : String
  raw : String
  now : ℤ
  wallClock : ℤ
  bindingCurrent : PublishSession → Bool
  nextRenewal : Option String
  issueDevice : PublishSession → Option String
  find : Reply
  replies : RedisState.RotateReplies

inductive RenewResponse where
  | renewed (publishToken renewalToken : String) (session : PublishSession)
  | unauthorized
  | unavailable (retryAfter : Option String)
  deriving DecidableEq

/-- What the handler asks of `RotateRenewal`. -/
def RenewRequest.renewal (r : RenewRequest) (hashRenewalToken : String → List UInt8)
    (nextRenewal : String) : Renewal :=
  ⟨hashRenewalToken r.raw, hashRenewalToken nextRenewal, r.now + publishAccessTTL,
    r.now + publishRenewalTTL, r.now⟩

namespace RedisState

/-- The request presents the current token of a session whose binding is no longer current. -/
def staleBinding (hashRenewalToken : String → List UInt8) (r : RenewRequest) :
    Except StoreError PublishSession → Bool
  | .ok current => decide (current.renewalTokenHash = hashRenewalToken r.raw) &&
      !r.bindingCurrent current
  | .error _ => false

def renewDevicePublishSession (digest : String → String) (hashRenewalToken : String → List UInt8)
    (s : RedisState) (r : RenewRequest) : RedisState × RenewResponse :=
  let found := s.find r.sessionID r.find
  if r.raw = "" then (s, .unauthorized)
  else if found matches .error .unavailable then (s, .unavailable (some "1"))
  else if staleBinding hashRenewalToken r found then (s, .unauthorized)
  else match r.nextRenewal with
  | none => (s, .unavailable none)
  | some nextRenewal =>
    let renewal := r.renewal hashRenewalToken nextRenewal
    let (s', rotation) := s.rotateRenewal digest r.sessionID renewal r.wallClock r.replies
    match rotation with
    | ⟨_, _, some _⟩ => (s', .unavailable (some "1"))
    | ⟨some session, .rotated, none⟩ => match r.issueDevice session with
      | none => (s', .unavailable none)
      | some publishToken => (s', .renewed publishToken nextRenewal session)
    | _ => (s', .unauthorized)

end RedisState

/-! ## What the steps of a call change -/

/-- The rotation changes the hash: it is a replay, or it exchanges the current hash. -/
def SessionHash.Changes (h : SessionHash) (args : RotateArgs) : Prop :=
  h.Open args.nowMs ∧ (h.Presents args ∨
    h.text .renewalHash = args.expected ∧ hincrby (h .renewalVersion) ≠ none)

namespace RedisState

variable {digest : String → String} {s : RedisState}

theorem rotateTo_ne (h : SessionHash) (args : RotateArgs) {version : ℤ}
    (hversion : hincrby (h .renewalVersion) = some version) : h.rotateTo args version ≠ h := by
  intro he
  obtain ⟨n, hn, hmax, rfl⟩ := hincrby_eq_some hversion
  have hfield := congrFun he .renewalVersion
  rw [SessionHash.rotateTo_version] at hfield
  rw [← hfield, Option.getD_some, Decimal.parseInt64_repr, Option.some.injEq] at hn
  have hnext := toInt_add_one hmax
  rw [hn] at hnext
  omega

/-- The script leaves the session as it was if and only if there is nothing for it to change. -/
theorem rotateScript_session_iff (s : RedisState) (id streamKey : String) (args : RotateArgs) :
    (s.rotateScript id streamKey args).1.session id = s.session id ↔
      ∀ h, s.session id = some h → ¬ h.Changes args := by
  have hcases := rotateScript_cases s id streamKey args
  generalize s.rotateScript id streamKey args = r at hcases ⊢
  cases hcases with
  | absent habsent =>
      refine iff_of_true rfl fun h hs => ?_
      rw [habsent] at hs
      cases hs
  | kept h hs reply hkeeps =>
      refine iff_of_true rfl fun h' hs' => ?_
      rw [hs, Option.some.injEq] at hs'
      subst hs'
      rintro ⟨hopen, hchange⟩
      rcases hchange with hprevious | ⟨hcurrent, hcount⟩
      · exact hkeeps.not_replay hopen hprevious
      · cases hkeeps with
        | closed hclosed => exact hclosed hopen
        | unreadable hunreadable =>
            obtain ⟨-, expires, hsome, -⟩ := hopen
            rw [hunreadable] at hsome
            cases hsome
        | mismatched hprevious hne => exact hne hcurrent
        | uncounted hprevious hnone => exact hcount hnone
  | replayed h hs expiresAt hexpires hopen hprevious =>
      refine iff_of_false (fun he => ?_) fun hnone => hnone h hs ⟨hopen, Or.inl hprevious⟩
      rw [hs, session_putSession, if_pos (ExpiringStore.live_eq_some_iff.mp hexpires).2,
        Option.some.injEq] at he
      have hstatus := SessionHash.endAt_status h args.nowMs
      rw [he, hopen.1] at hstatus
      exact absurd hstatus (by decide)
  | rotated h hs hopen hprevious hcurrent version hcount =>
      refine iff_of_false (fun he => ?_) fun hnone => hnone h hs ⟨hopen, Or.inr ⟨hcurrent, ?_⟩⟩
      · rw [hs, session_congr (extendStream_sessions _ _ _ _) (extendStream_clock _ _ _ _),
          session_putSession] at he
        split_ifs at he
        rw [Option.some.injEq] at he
        exact rotateTo_ne h args hcount he
      · rw [hcount]
        exact Option.some_ne_none version

theorem find_ne_ok {id : String} {reply : Reply} {err : StoreError}
    (h : s.find id reply = .error err) (v : PublishSession) : s.find id reply ≠ .ok v := by
  intro hv
  rw [h] at hv
  cases hv

/-- A rotation whose script is not reached leaves everything as it was. -/
theorem rotateRenewal_unexecuted {id : String} {renewal : Renewal} {wallClock : ℤ}
    {replies : RotateReplies} (hstop : (∀ v, s.find id replies.find ≠ .ok v) ∨
      replies.script = .lostBefore) :
    (s.rotateRenewal digest id renewal wallClock replies).1 = s := by
  unfold rotateRenewal
  cases hfind : s.find id replies.find with
  | error err => cases err <;> rfl
  | ok v =>
      rcases hstop with hnone | hlost
      · exact absurd hfind (hnone v)
      · simp only [hlost, trip]

/-- A rotation whose script is executed leaves the session as the script does. -/
theorem rotateRenewal_executed {id : String} {renewal : Renewal} {wallClock : ℤ}
    {replies : RotateReplies} {v : PublishSession} (hfind : s.find id replies.find = .ok v)
    (hscript : replies.script ≠ .lostBefore) (id' : String) :
    (s.rotateRenewal digest id renewal wallClock replies).1.session id' =
      (s.rotateScript id (streamIndexKey digest v.streamID) renewal.args).1.session id' := by
  have hstate := s.trip_state
    (fun t => t.rotateScript id (streamIndexKey digest v.streamID) renewal.args) hscript
  simp only [rotateRenewal, hfind]
  generalize s.trip (fun t => t.rotateScript id (streamIndexKey digest v.streamID) renewal.args)
    replies.script = r at hstate
  rw [← hstate]
  rcases r with ⟨s', _ | reply⟩
  · rfl
  · cases hresult : reply.result with
    | none => simp only [hresult]
    | some result =>
        simp only [hresult]
        obtain ⟨hsessions, -, hclock⟩ := s'.finishRotation_keys id result wallClock replies
        exact session_congr hsessions hclock id'

/-! ## When a failed call has changed nothing -/

/-- The transaction of `Save` is not executed, or it writes what is there. -/
def SaveSpared (s : RedisState) (v : PublishSession) (replies : SaveReplies) : Prop :=
  replies.transaction = .lostBefore ∨
    s.session v.sessionID = if s.clock < expireAt v then some (encode v) else none

/-- The script of `RotateRenewal` is not executed, or there is nothing for it to change. -/
def RotateSpared (s : RedisState) (id : String) (args : RotateArgs) (replies : RotateReplies) :
    Prop :=
  replies.find ≠ .delivered ∨ replies.script = .lostBefore ∨
    ∀ h v, s.session id = some h → decode h = some v → ¬ h.Changes args

theorem save_unchanged_iff (s : RedisState) (v : PublishSession) (wallClock : ℤ)
    (replies : SaveReplies) :
    (s.save digest v wallClock replies).1.session v.sessionID = s.session v.sessionID ↔
      SaveSpared s v replies := by
  rcases replies with ⟨transaction, statistics⟩
  have hwritten : (s.saveTransaction digest v).session v.sessionID =
      if s.clock < expireAt v then some (encode v) else none := session_putSession s _ _ _
  cases transaction with
  | lostBefore => exact iff_of_true rfl (Or.inl rfl)
  | lostAfter =>
      have hstate : (s.save digest v wallClock ⟨.lostAfter, statistics⟩).1.session v.sessionID =
          (s.saveTransaction digest v).session v.sessionID := rfl
      rw [hstate, hwritten, SaveSpared]
      simp only [reduceCtorEq, false_or, eq_comm]
  | delivered =>
      have hstate : (s.save digest v wallClock ⟨.delivered, statistics⟩).1.session v.sessionID =
          (s.saveTransaction digest v).session v.sessionID := by
        cases statistics <;> rfl
      rw [hstate, hwritten, SaveSpared]
      simp only [reduceCtorEq, false_or, eq_comm]

theorem rotateRenewal_unchanged_iff (s : RedisState) (id : String) (renewal : Renewal)
    (wallClock : ℤ) (replies : RotateReplies) :
    (s.rotateRenewal digest id renewal wallClock replies).1.session id = s.session id ↔
      RotateSpared s id renewal.args replies := by
  by_cases hscript : replies.script = .lostBefore
  · rw [rotateRenewal_unexecuted (Or.inr hscript)]
    exact iff_of_true rfl (Or.inr (Or.inl hscript))
  · cases hfind : s.find id replies.find with
    | error err =>
        rw [rotateRenewal_unexecuted (Or.inl (find_ne_ok hfind))]
        refine iff_of_true rfl ?_
        by_cases hdelivered : replies.find = .delivered
        · refine Or.inr (Or.inr fun h v hs hd => ?_)
          rw [hdelivered, find_delivered, hs] at hfind
          simp only [hd, reduceCtorEq] at hfind
        · exact Or.inl hdelivered
    | ok v =>
        obtain ⟨hdelivered, h, hs, hd⟩ := find_eq_ok hfind
        rw [rotateRenewal_executed hfind hscript, rotateScript_session_iff]
        constructor
        · intro hnone
          exact Or.inr (Or.inr fun h' v' hs' hd' => hnone h' hs')
        · rintro (hnot | hlost | hnone) h' hs'
          · exact absurd hdelivered hnot
          · exact absurd hlost hscript
          · rw [hs, Option.some.injEq] at hs'
            exact hnone h' v (hs' ▸ hs) (hs' ▸ hd)

/-! ## The publisher comes again -/

variable {hashRenewalToken : String → List UInt8}

/-- The handler asks for a rotation or leaves everything as it was. -/
theorem renew_state_cases (s : RedisState) (r : RenewRequest) :
    (s.renewDevicePublishSession digest hashRenewalToken r).1 = s ∨
      ∃ next, (s.renewDevicePublishSession digest hashRenewalToken r).1 =
        (s.rotateRenewal digest r.sessionID (r.renewal hashRenewalToken next) r.wallClock
          r.replies).1 := by
  unfold renewDevicePublishSession
  dsimp only
  split_ifs
  · exact Or.inl rfl
  · exact Or.inl rfl
  · exact Or.inl rfl
  · cases r.nextRenewal with
    | none => exact Or.inl rfl
    | some next =>
        refine Or.inr ⟨next, ?_⟩
        dsimp only
        split
        · rfl
        · split <;> rfl
        · rfl

/-- The session as it was presented: the token is the current one and not the one before it. -/
def PresentsCurrent (h : SessionHash) (hash : List UInt8) : Prop :=
  h.text .renewalHash = Base64.encode hash ∧
    ¬ (h.text .previousRenewalHash ≠ "" ∧ h.text .previousRenewalHash = Base64.encode hash)

/-- A rotation that does not present the previous hash leaves the status of the session. -/
theorem rotateRenewal_status {id : String} {renewal : Renewal} {wallClock : ℤ}
    {replies : RotateReplies} {h h' : SessionHash} (hs : s.session id = some h)
    (hpresents : ¬ h.Presents renewal.args)
    (hs' : (s.rotateRenewal digest id renewal wallClock replies).1.session id = some h') :
    h' .status = h .status := by
  have hsame : s.session id = some h' → h' .status = h .status := by
    intro hkept
    rw [hs, Option.some.injEq] at hkept
    rw [hkept]
  by_cases hscript : replies.script = .lostBefore
  · rw [rotateRenewal_unexecuted (Or.inr hscript)] at hs'
    exact hsame hs'
  · cases hfind : s.find id replies.find with
    | error err =>
        rw [rotateRenewal_unexecuted (Or.inl (find_ne_ok hfind))] at hs'
        exact hsame hs'
    | ok v =>
        rw [rotateRenewal_executed hfind hscript] at hs'
        have hcases := rotateScript_cases s id (streamIndexKey digest v.streamID) renewal.args
        generalize s.rotateScript id (streamIndexKey digest v.streamID) renewal.args = r
          at hcases hs'
        cases hcases with
        | absent habsent => exact hsame hs'
        | kept hash hstored reply hkeeps => exact hsame hs'
        | replayed hash hstored expiresAt hexpires hopen hprevious =>
            rw [hs, Option.some.injEq] at hstored
            exact absurd (hstored ▸ hprevious) hpresents
        | rotated hash hstored hopen hprevious hcurrent version hversion =>
            rw [session_congr (extendStream_sessions _ _ _ _) (extendStream_clock _ _ _ _),
              session_putSession] at hs'
            rw [hs, Option.some.injEq] at hstored
            split_ifs at hs'
            rw [← Option.some.inj hs', ← hstored]
            exact SessionHash.rotateTo_of_not_renewal h renewal.args version rfl

/-- Whatever becomes of a later request with the same token, the session keeps its status: it is not
ended as a replay. -/
def RetrySafe (digest : String → String) (hashRenewalToken : String → List UInt8) (s : RedisState)
    (id raw : String) (h : SessionHash) : Prop :=
  ∀ clock (r : RenewRequest) h', r.sessionID = id → r.raw = raw →
    (({ s with clock := clock } : RedisState).renewDevicePublishSession digest hashRenewalToken
      r).1.session id = some h' → h' .status = h .status

theorem retrySafe_of_session {id raw : String} {h : SessionHash} (hs : s.session id = some h)
    (hpresents : PresentsCurrent h (hashRenewalToken raw)) :
    RetrySafe digest hashRenewalToken s id raw h := by
  rintro clock r h' rfl rfl hs'
  have hlater : ∀ h'', ({ s with clock := clock } : RedisState).session r.sessionID = some h'' →
      h'' = h := by
    intro h'' hs''
    have hstored := stored_of_session hs''
    have hstored' := stored_of_session hs
    simp only [stored] at hstored hstored'
    rw [hstored', Option.some.injEq] at hstored
    exact hstored.symm
  generalize ({ s with clock := clock } : RedisState) = t at hs' hlater
  rcases renew_state_cases t r with hkept | ⟨next, hrotation⟩
  · rw [hkept] at hs'
    rw [hlater h' hs']
  · rw [hrotation] at hs'
    cases ht : t.session r.sessionID with
    | none =>
        have hspared : RotateSpared t r.sessionID (r.renewal hashRenewalToken next).args
            r.replies := by
          refine Or.inr (Or.inr fun h'' v hsome => ?_)
          rw [ht] at hsome
          cases hsome
        rw [(rotateRenewal_unchanged_iff t r.sessionID _ r.wallClock r.replies).mpr hspared, ht]
          at hs'
        cases hs'
    | some h'' =>
        have hnot : ¬ h''.Presents (r.renewal hashRenewalToken next).args := by
          rw [hlater h'' ht]
          exact hpresents.2
        rw [rotateRenewal_status ht hnot hs', hlater h'' ht]

/-- The request is turned away before it asks for a rotation, or the rotation is spared. -/
def RenewSpared (hashRenewalToken : String → List UInt8) (s : RedisState) (r : RenewRequest) :
    Prop :=
  s.find r.sessionID r.find = .error .unavailable ∨
    ∀ next, r.nextRenewal = some next →
      RotateSpared s r.sessionID (r.renewal hashRenewalToken next).args r.replies

theorem renew_unchanged_iff (s : RedisState) (r : RenewRequest)
    (hanswer : (s.renewDevicePublishSession digest hashRenewalToken r).2 =
      .unavailable (some "1")) :
    (s.renewDevicePublishSession digest hashRenewalToken r).1.session r.sessionID =
      s.session r.sessionID ↔ RenewSpared hashRenewalToken s r := by
  unfold renewDevicePublishSession at hanswer ⊢
  dsimp only at hanswer ⊢
  split_ifs at hanswer ⊢ with hraw hunavailable hstale
  · refine iff_of_true rfl (Or.inl ?_)
    split at hunavailable
    · assumption
    · cases hunavailable
  · cases hnext : r.nextRenewal with
    | none =>
        simp only [hnext] at hanswer
        cases hanswer
    | some next =>
        have hfound : ¬ s.find r.sessionID r.find = .error .unavailable := by
          intro he
          rw [he] at hunavailable
          exact hunavailable rfl
        have hiff := @rotateRenewal_unchanged_iff digest s r.sessionID
          (r.renewal hashRenewalToken next) r.wallClock r.replies
        simp only [RenewSpared, hnext, hfound, false_or, Option.some.injEq, forall_eq']
        rw [← hiff]
        split
        · rfl
        · split <;> rfl
        · rfl

/-- When the calls that fail leave the session as it was, for any state, call and replies: `Save`
and `RotateRenewal` do if and only if their write is not executed or has nothing to change, and so
does the request that is answered 503 with `Retry-After`; the publisher's session then survives its
next request with the same token. -/
theorem failed_calls_undisturbed_iff (digest : String → String)
    (hashRenewalToken : String → List UInt8) (s : RedisState) :
    (∀ v wallClock replies, (s.save digest v wallClock replies).2 ≠ none →
      ((s.save digest v wallClock replies).1.session v.sessionID = s.session v.sessionID ↔
        SaveSpared s v replies)) ∧
    (∀ id renewal wallClock replies,
      (s.rotateRenewal digest id renewal wallClock replies).2.error ≠ none →
      ((s.rotateRenewal digest id renewal wallClock replies).1.session id = s.session id ↔
        RotateSpared s id renewal.args replies)) ∧
    (∀ r s', s.renewDevicePublishSession digest hashRenewalToken r =
        (s', .unavailable (some "1")) →
      (s'.session r.sessionID = s.session r.sessionID ∧
        (∀ h, s.session r.sessionID = some h → PresentsCurrent h (hashRenewalToken r.raw) →
          RetrySafe digest hashRenewalToken s' r.sessionID r.raw h) ↔
        RenewSpared hashRenewalToken s r)) := by
  refine ⟨fun v wallClock replies _ => save_unchanged_iff s v wallClock replies,
    fun id renewal wallClock replies _ => rotateRenewal_unchanged_iff s id renewal wallClock replies,
    ?_⟩
  intro r s' hrenew
  have hiff := renew_unchanged_iff s r (congrArg Prod.snd hrenew)
  rw [hrenew] at hiff
  constructor
  · rintro ⟨hunchanged, -⟩
    exact hiff.mp hunchanged
  · intro hspared
    have hunchanged := hiff.mpr hspared
    refine ⟨hunchanged, ?_⟩
    intro h hs hpresents
    exact retrySafe_of_session (hunchanged.trans hs) hpresents

/-- The publisher of the stored session renews its token, and Redis is lost to the store before the
statistics are written; a second later the publisher comes again. -/
def lostRenewal (statistics : Reply) (now : ℤ) (nextRenewal : String) : RenewRequest where
  sessionID := "ps_01"
  raw := "first"
  now := now
  wallClock := now
  bindingCurrent := fun _ => true
  nextRenewal := some nextRenewal
  issueDevice := fun _ => some "token"
  find := .delivered
  replies := ⟨.delivered, .delivered, .delivered, statistics⟩

def sampleHash (raw : String) : List UInt8 := if raw = "first" then [1] else [2]

theorem failed_calls_undisturbed_unsent :
    (storedSample.save (fun stream => stream) sampleSession 0 ⟨.lostBefore, .delivered⟩).2 ≠ none ∧
      (storedSample.save (fun stream => stream) sampleSession 0
        ⟨.lostBefore, .delivered⟩).1.session "ps_01" = storedSample.session "ps_01" :=
  have hfails : (storedSample.save (fun stream => stream) sampleSession 0
      ⟨.lostBefore, .delivered⟩).2 ≠ none := by decide +kernel
  ⟨hfails, ((failed_calls_undisturbed_iff (fun stream => stream) sampleHash storedSample).1
    sampleSession 0 ⟨.lostBefore, .delivered⟩ hfails).mpr (Or.inl rfl)⟩

/-- The write of the statistics fails, the publisher is told to try again in a second, and what it
tries ends its session. -/
theorem failed_calls_disturb :
    let digest := fun stream : String => stream
    let (s', answer) := storedSample.renewDevicePublishSession digest sampleHash
      (lostRenewal .lostBefore Clock.second "second")
    let (s'', answer') := s'.renewDevicePublishSession digest sampleHash
      (lostRenewal .delivered (2 * Clock.second) "third")
    answer = .unavailable (some "1") ∧
      s'.session "ps_01" ≠ storedSample.session "ps_01" ∧
      answer' = .unauthorized ∧
      (s'.session "ps_01").map (fun h => h.text .status) = some "active" ∧
      (s''.session "ps_01").map (fun h => h.text .status) = some "ended" := by
  refine ⟨by decide +kernel, ?_, by decide +kernel, by decide +kernel, by decide +kernel⟩
  intro he
  have hversion := congrArg (fun o => o.map fun h : SessionHash => h.text .renewalVersion) he
  exact absurd hversion (by decide +kernel)

end RedisState

end GcsSaker.SessionStore
