import GcsSaker.SessionStatistics

/-!
# Statistics under concurrent calls

Calls of several processes, cut into their round trips and interleaved in any order. A call writes
the statistics of the session as it read it back, so the statistics agree with the sessions once
every call has returned, unless some call wrote what another one had changed in the meantime.
-/

namespace GcsSaker.SessionStore

open Control (Reply)

/-! ## Calls in flight -/

/-- Where a call stands: the round trip that it makes next, or what it returned. -/
inductive Progress where
  | saving (v : PublishSession)
  | finding (id : String) (renewal : Renewal)
  | rotating (id streamID : String) (renewal : Renewal)
  | readingBack (id : String) (result : RenewalRotationResult)
  | recording (v : PublishSession) (failure : StoreError)
  | ending (id : String) (now : ℤ)
  | returned (error : Option StoreError)
  deriving DecidableEq

/-- The session whose statistics the call is about to write. -/
def Progress.records : Progress → Option String
  | .readingBack id _ => some id
  | .recording v _ => some v.sessionID
  | _ => none

/-- One round trip of a call. -/
def Progress.advance (digest : String → String) (s : RedisState) (wallClock : ℤ) (reply : Reply) :
    Progress → Option (RedisState × Progress)
  | .saving v => match s.trip (fun t => (t.saveTransaction digest v, ())) reply with
    | (s', none) => some (s', .returned (some .client))
    | (s', some ()) => some (s', .recording v .client)
  | .finding id renewal => match s.find id reply with
    | .error .notFound => some (s, .returned none)
    | .error err => some (s, .returned (some err))
    | .ok session => some (s, .rotating id session.streamID renewal)
  | .rotating id streamID renewal =>
    match s.trip (fun t => t.rotateScript id (streamIndexKey digest streamID) renewal.args)
        reply with
    | (s', none) => some (s', .returned (some .unavailable))
    | (s', some answer) => match answer.result with
      | none => some (s', .returned (some .unavailable))
      | some result => some (s', .readingBack id result)
  | .readingBack id _ => match s.find id reply with
    | .error err => some (s, .returned (some err))
    | .ok v => some (s, .recording v .unavailable)
  | .recording v failure => match s.updateStatistics v wallClock reply with
    | (s', none) => some (s', .returned (some failure))
    | (s', some ()) => some (s', .returned none)
  | .ending id now =>
    let (s', err) := s.endSession id now reply
    some (s', .returned err)
  | .returned _ => none

/-- The round trips of a call one after the other, until it returns. -/
def Progress.finish (digest : String → String) (wallClock : ℤ) :
    List Reply → RedisState × Progress → RedisState × Progress
  | [], current => current
  | reply :: replies, (s, p) => match p.advance digest s wallClock reply with
    | none => (s, p)
    | some next => finish digest wallClock replies next

/-- The round trips of a call that nothing interrupts make up the call. -/
theorem save_eq_finish (digest : String → String) (s : RedisState) (v : PublishSession)
    (wallClock : ℤ) (replies : RedisState.SaveReplies) :
    Progress.finish digest wallClock [replies.transaction, replies.statistics] (s, .saving v) =
      ((s.save digest v wallClock replies).1,
        .returned (s.save digest v wallClock replies).2) := by
  rcases replies with ⟨transaction, statistics⟩
  cases transaction with
  | lostBefore | lostAfter => rfl
  | delivered => cases statistics <;> rfl

/-- Redis and the calls of all processes, in the order in which they were made. -/
structure Replicas where
  redis : RedisState
  calls : List Progress

inductive ReplicaAction where
  | save (v : PublishSession)
  | rotateRenewal (id : String) (renewal : Renewal)
  | endSession (id : String) (now : ℤ)
  | trip (call : ℕ) (wallClock : ℤ) (reply : Reply)
  | tick (elapsed : ℕ)
  deriving DecidableEq

namespace Replicas

def initial (clock : ℤ) : Replicas := ⟨RedisState.empty clock, []⟩

variable (digest : String → String) (r : Replicas)

def start (progress : Progress) : Replicas := { r with calls := r.calls ++ [progress] }

def step : ReplicaAction → Option Replicas
  | .save v => some (r.start (.saving v))
  | .rotateRenewal id renewal => some (r.start (.finding id renewal))
  | .endSession id now => some (r.start (.ending id now))
  | .trip call wallClock reply => do
    let progress ← r.calls[call]?
    let next ← progress.advance digest r.redis wallClock reply
    some ⟨next.1, r.calls.set call next.2⟩
  | .tick elapsed => some { r with redis := { r.redis with clock := r.redis.clock + elapsed } }

/-- Some call is about to write the statistics of the session. -/
def Pending (id : String) : Prop :=
  ∃ (call : ℕ) (p : Progress), r.calls[call]? = some p ∧ p.records = some id

end Replicas

/-- The renewal expiry in a hash, in milliseconds. -/
def SessionHash.expiresMs (h : SessionHash) : Option ℤ :=
  Decimal.parse ((h .renewalExpires).getD "0")

/-- If the call is about to write the statistics of a session, it does so with the status and the
renewal expiry that the session has in its hash. -/
def Progress.Current (s : RedisState) : Progress → Prop
  | .recording v _ => ∀ h ∈ s.session v.sessionID, h .status = some v.status.text ∧
      h.expiresMs = some (Clock.unixMilli v.renewalTokenExpiresAt)
  | _ => True

def Replicas.RecordsCurrent (r : Replicas) : ReplicaAction → Prop
  | .trip call _ _ => ∀ p ∈ r.calls[call]?, p.Current r.redis
  | _ => True

instance (s : RedisState) : ∀ p : Progress, Decidable (p.Current s)
  | .recording v _ => inferInstanceAs (Decidable (∀ h ∈ s.session v.sessionID,
      h .status = some v.status.text ∧
        h.expiresMs = some (Clock.unixMilli v.renewalTokenExpiresAt)))
  | .saving _ | .finding _ _ | .rotating _ _ _ | .readingBack _ _ | .ending _ _ | .returned _ =>
    inferInstanceAs (Decidable True)

instance (r : Replicas) : ∀ a, Decidable (r.RecordsCurrent a)
  | .trip call _ _ => inferInstanceAs (Decidable (∀ p ∈ r.calls[call]?, p.Current r.redis))
  | .save _ | .rotateRenewal _ _ | .endSession _ _ | .tick _ => inferInstanceAs (Decidable True)

/-! ## One round trip -/

/-- The ways a round trip can go that does not end its call with an error. -/
inductive Advances (digest : String → String) (s : RedisState) (wallClock : ℤ) :
    Progress → RedisState × Progress → Prop
  | saved (v : PublishSession) :
      Advances digest s wallClock (.saving v) (s.saveTransaction digest v, .recording v .client)
  | moved (p p' : Progress) (hp : p.records = none) (hp' : p'.records = none) :
      Advances digest s wallClock p (s, p')
  | rotated (id streamID : String) (renewal : Renewal) (result : RenewalRotationResult) :
      Advances digest s wallClock (.rotating id streamID renewal)
        ((s.rotateScript id (streamIndexKey digest streamID) renewal.args).1,
          .readingBack id result)
  | readBack (id : String) (result : RenewalRotationResult) (h : SessionHash) (v : PublishSession)
      (hs : s.session id = some h) (hv : decode h = some v) :
      Advances digest s wallClock (.readingBack id result) (s, .recording v .unavailable)
  | recorded (v : PublishSession) (failure : StoreError) :
      Advances digest s wallClock (.recording v failure) (s.recordSession v wallClock, .returned none)
  | ended (id : String) (now : ℤ) :
      Advances digest s wallClock (.ending id now)
        ((s.endScript id (Clock.unixMilli now)).1, .returned none)

theorem state_of_trip {α : Type} {s s' : RedisState} {run : RedisState → RedisState × α}
    {reply : Reply} {a : α} (h : s.trip run reply = (s', some a)) : s' = (run s).1 := by
  cases reply with
  | delivered =>
      simp only [RedisState.trip, Prod.mk.injEq] at h
      exact h.1.symm
  | lostBefore | lostAfter =>
      simp only [RedisState.trip, Prod.mk.injEq, reduceCtorEq, and_false] at h

theorem advance_cases {digest : String → String} {s s' : RedisState} {wallClock : ℤ}
    {reply : Reply} {p p' : Progress} (h : p.advance digest s wallClock reply = some (s', p')) :
    (∃ err, p' = .returned (some err)) ∨ Advances digest s wallClock p (s', p') := by
  cases p with
  | returned => cases h
  | saving v =>
      simp only [Progress.advance] at h
      split at h
      · cases h
        exact Or.inl ⟨_, rfl⟩
      · rename_i htrip
        cases h
        obtain rfl := state_of_trip htrip
        exact Or.inr (.saved v)
  | finding id renewal =>
      simp only [Progress.advance] at h
      split at h <;> cases h
      · exact Or.inr (.moved _ _ rfl rfl)
      · exact Or.inl ⟨_, rfl⟩
      · exact Or.inr (.moved _ _ rfl rfl)
  | rotating id streamID renewal =>
      simp only [Progress.advance] at h
      split at h
      · cases h
        exact Or.inl ⟨_, rfl⟩
      · rename_i answer htrip
        split at h <;> cases h
        · exact Or.inl ⟨_, rfl⟩
        · obtain rfl := state_of_trip htrip
          exact Or.inr (.rotated id streamID renewal _)
  | readingBack id result =>
      simp only [Progress.advance] at h
      split at h <;> cases h
      · exact Or.inl ⟨_, rfl⟩
      · rename_i hfind
        obtain ⟨-, hash, hs, hv⟩ := RedisState.find_eq_ok hfind
        exact Or.inr (.readBack id result hash _ hs hv)
  | recording v failure =>
      simp only [Progress.advance, RedisState.updateStatistics] at h
      split at h
      · cases h
        exact Or.inl ⟨_, rfl⟩
      · rename_i htrip
        cases h
        obtain rfl := state_of_trip htrip
        exact Or.inr (.recorded v failure)
  | ending id now =>
      simp only [Progress.advance, RedisState.endSession] at h
      split at h
      · cases h
        exact Or.inl ⟨_, rfl⟩
      · cases h
        exact Or.inl ⟨_, rfl⟩
      · rename_i htrip
        cases h
        obtain rfl := state_of_trip htrip
        exact Or.inr (.ended id now)

/-! ## What a round trip leaves of the statistics -/

namespace StatisticsKeys

/-- The statistics have the session with this status and this expiry. -/
structure Holds (k : StatisticsKeys) (id : String) (status : Option String) (expiry : ℤ) : Prop where
  status : (k.status.lookup id).map PublishSessionStatus.text = status
  expiry : k.expiry.lookup id = some expiry

variable {k : StatisticsKeys} {id : String} {status : Option String} {expiry : ℤ}

theorem Holds.drop (hk : k.Holds id status expiry) {id' : String} (hne : id ≠ id') :
    (k.drop id').Holds id status expiry := by
  constructor
  · rw [drop_status, AList.lookup_erase_ne hne, hk.status]
  · rw [drop_expiry, AList.lookup_erase_ne hne, hk.expiry]

/-- The expiry scan leaves an id that has not expired. -/
theorem Holds.prune (hk : k.Holds id status expiry) {now : ℤ} (hnow : now < expiry) (limit : ℕ) :
    (k.prune now limit).Holds id status expiry := by
  have hkept : ∀ id' ∈ k.expired now limit, id ≠ id' := by
    rintro id' hmem rfl
    obtain ⟨score, hscore, hle⟩ := lookup_of_mem_expired hmem
    rw [hk.expiry, Option.some.injEq] at hscore
    omega
  rw [StatisticsKeys.prune]
  generalize k.expired now limit = ids at hkept
  induction ids generalizing k with
  | nil => exact hk
  | cons id' ids ih =>
      apply ih (hk.drop (hkept id' (List.mem_cons_self ..)))
      intro id'' hmem
      exact hkept id'' (List.mem_cons_of_mem id' hmem)

theorem countStatus_lookup (k : StatisticsKeys) (id : String) (status : PublishSessionStatus) :
    (k.countStatus id status).status.lookup id = some status := by
  simp only [countStatus]
  split_ifs with hsame
  · exact hsame
  · exact AList.lookup_insert _

theorem countStatus_lookup_ne (k : StatisticsKeys) {id id' : String} (hne : id' ≠ id)
    (status : PublishSessionStatus) :
    (k.countStatus id status).status.lookup id' = k.status.lookup id' := by
  simp only [countStatus]
  split_ifs
  · rfl
  · rw [AList.lookup_insert_ne hne]
    cases k.status.lookup id <;> rfl

theorem Holds.countStatus_ne (hk : k.Holds id status expiry) {id' : String} (hne : id ≠ id')
    (status' : PublishSessionStatus) : (k.countStatus id' status').Holds id status expiry := by
  constructor
  · rw [countStatus_lookup_ne k hne, hk.status]
  · rw [countStatus_expiry, hk.expiry]

theorem Holds.countStatus (hk : k.Holds id status expiry) (status' : PublishSessionStatus) :
    (k.countStatus id status').Holds id (some status'.text) expiry := by
  constructor
  · rw [countStatus_lookup, Option.map_some]
  · rw [countStatus_expiry, hk.expiry]

theorem Holds.update_ne (hk : k.Holds id status expiry) {id' : String} (hne : id ≠ id')
    (status' : PublishSessionStatus) (expiry' created now : ℤ) (hnow : now < expiry) :
    (k.update id' status' expiry' created now).Holds id status expiry := by
  have hcounted := (hk.prune hnow 100).countStatus_ne hne status'
  refine ⟨hcounted.status, ?_⟩
  rw [update, AList.lookup_insert_ne hne, hcounted.expiry]

theorem holds_update (k : StatisticsKeys) (id : String) (status : PublishSessionStatus)
    (expiry created now : ℤ) :
    (k.update id status expiry created now).Holds id (some status.text) expiry := by
  constructor
  · rw [update, countStatus_lookup, Option.map_some]
  · rw [update, AList.lookup_insert]

end StatisticsKeys

/-! ## What a round trip leaves of the sessions -/

namespace RedisState

variable {digest : String → String} {s : RedisState}

theorem saveTransaction_session (s : RedisState) (v : PublishSession) {id : String}
    {h : SessionHash} (hs : (s.saveTransaction digest v).session id = some h) :
    id = v.sessionID ∧ h = encode v ∨ id ≠ v.sessionID ∧ s.session id = some h := by
  have hput : (s.saveTransaction digest v).session id =
      (s.putSession v.sessionID (encode v) (expireAt v)).session id := rfl
  rw [hput] at hs
  by_cases hid : id = v.sessionID
  · subst hid
    rw [session_putSession] at hs
    split_ifs at hs
    exact Or.inl ⟨rfl, (Option.some.inj hs).symm⟩
  · rw [session_putSession_of_ne s _ _ hid] at hs
    exact Or.inr ⟨hid, hs⟩

theorem rotateScript_session (s : RedisState) (id streamKey : String) (args : RotateArgs)
    {id' : String} {h : SessionHash}
    (hs : (s.rotateScript id streamKey args).1.session id' = some h) :
    ∃ h', s.session id' = some h' ∧ h .sessionID = h' .sessionID ∧ (id' ≠ id → h = h') := by
  have hcases := rotateScript_cases s id streamKey args
  generalize s.rotateScript id streamKey args = r at hcases hs
  cases hcases with
  | absent | kept => exact ⟨h, hs, rfl, fun _ => rfl⟩
  | replayed h' hs' expiresAt hexpires hopen hprevious =>
      by_cases hid : id' = id
      · subst hid
        rw [session_putSession] at hs
        split_ifs at hs
        rw [← Option.some.inj hs]
        exact ⟨h', hs', h'.endAt_of_ne args.nowMs (by decide) (by decide), absurd rfl⟩
      · rw [session_putSession_of_ne s _ _ hid] at hs
        exact ⟨h, hs, rfl, fun _ => rfl⟩
  | rotated h' hs' hopen hprevious hcurrent version hversion =>
      rw [session_congr (extendStream_sessions _ _ _ _) (extendStream_clock _ _ _ _)] at hs
      by_cases hid : id' = id
      · subst hid
        rw [session_putSession] at hs
        split_ifs at hs
        rw [← Option.some.inj hs]
        exact ⟨h', hs', SessionHash.rotateTo_of_not_renewal h' args version rfl, absurd rfl⟩
      · rw [session_putSession_of_ne s _ _ hid] at hs
        exact ⟨h, hs, rfl, fun _ => rfl⟩

theorem session_tick {elapsed : ℕ} {id : String} {h : SessionHash}
    (hs : ({ s with clock := s.clock + elapsed } : RedisState).session id = some h) :
    s.session id = some h := by
  obtain ⟨entry, hlive, rfl⟩ := session_eq_some_iff.mp hs
  obtain ⟨hkey, hlt⟩ := ExpiringStore.live_eq_some_iff.mp hlive
  refine session_eq_some_iff.mpr ⟨entry, ExpiringStore.live_eq_some_iff.mpr ⟨hkey, ?_⟩, rfl⟩
  simp only at hlt
  omega

end RedisState

theorem decode_sessionID {m : SessionHash} {v : PublishSession} (h : decode m = some v) :
    v.sessionID = m.text .sessionID := by
  simp only [decode, Option.bind_eq_bind, Option.bind_eq_some_iff, Option.some.injEq] at h
  obtain ⟨_, _, _, _, _, _, _, _, _, _, _, _, _, _, _, _, _, _, _, _, rfl⟩ := h
  rfl

/-! ## The invariant -/

namespace Replicas

/-- Every session is stored under its own id, and a session that has not expired is in the
statistics as it is in its hash or a call is about to write it there. -/
structure Agreement (now : ℤ) (r : Replicas) : Prop where
  named : ∀ id h, r.redis.session id = some h → h .sessionID = some id
  agree : ∀ id h expiry, r.redis.session id = some h → h.expiresMs = some expiry → now < expiry →
    r.Pending id ∨ r.redis.statistics.Holds id (h .status) expiry

variable {now : ℤ} {r : Replicas} {call : ℕ} {p : Progress}

theorem pending_of_records {s' : RedisState} {p' : Progress} {id : String}
    (hcall : r.calls[call]? = some p) (hp' : p'.records = some id) :
    Pending ⟨s', r.calls.set call p'⟩ id := by
  obtain ⟨hlt, -⟩ := List.getElem?_eq_some_iff.mp hcall
  exact ⟨call, p', List.getElem?_set_self hlt, hp'⟩

theorem Pending.update {s' : RedisState} {p' : Progress} {id : String} (h : r.Pending id)
    (hcall : r.calls[call]? = some p) (hkeeps : p.records ≠ some id ∨ p'.records = some id) :
    Pending ⟨s', r.calls.set call p'⟩ id := by
  obtain ⟨call', q, hq, hrecords⟩ := h
  by_cases heq : call = call'
  · subst heq
    rw [hcall, Option.some.injEq] at hq
    subst hq
    rcases hkeeps with hne | hp'
    · exact absurd hrecords hne
    · exact pending_of_records hcall hp'
  · exact ⟨call', q, (List.getElem?_set_ne heq).trans hq, hrecords⟩

theorem saved_agreement {digest : String → String} {v : PublishSession} (hr : Agreement now r)
    (hcall : r.calls[call]? = some (.saving v)) :
    Agreement now ⟨r.redis.saveTransaction digest v,
      r.calls.set call (.recording v .client)⟩ := by
  constructor
  · intro id h hs
    rcases RedisState.saveTransaction_session r.redis v hs with ⟨rfl, rfl⟩ | ⟨hne, hs⟩
    · rfl
    · exact hr.named id h hs
  · intro id h expiry hs hexpiry hnow
    rcases RedisState.saveTransaction_session r.redis v hs with ⟨rfl, rfl⟩ | ⟨hne, hs⟩
    · exact Or.inl (pending_of_records hcall rfl)
    · rcases hr.agree id h expiry hs hexpiry hnow with hpending | hholds
      · exact Or.inl (hpending.update hcall (Or.inl nofun))
      · exact Or.inr hholds

theorem rotated_agreement {digest : String → String} {id streamID : String} {renewal : Renewal}
    {result : RenewalRotationResult} (hr : Agreement now r)
    (hcall : r.calls[call]? = some (.rotating id streamID renewal)) :
    Agreement now ⟨(r.redis.rotateScript id (streamIndexKey digest streamID) renewal.args).1,
      r.calls.set call (.readingBack id result)⟩ := by
  constructor
  · intro id' h hs
    obtain ⟨h', hs', hname, -⟩ := RedisState.rotateScript_session r.redis id _ _ hs
    rw [hname]
    exact hr.named id' h' hs'
  · intro id' h expiry hs hexpiry hnow
    obtain ⟨h', hs', -, hsame⟩ := RedisState.rotateScript_session r.redis id _ _ hs
    by_cases hid : id' = id
    · subst hid
      exact Or.inl (pending_of_records hcall rfl)
    · obtain rfl := hsame hid
      rcases hr.agree id' h expiry hs' hexpiry hnow with hpending | hholds
      · exact Or.inl (hpending.update hcall (Or.inl nofun))
      · right
        simp only [RedisState.rotateScript_statistics]
        exact hholds

theorem readBack_agreement {id : String} {result : RenewalRotationResult} {h : SessionHash}
    {v : PublishSession} (hr : Agreement now r)
    (hcall : r.calls[call]? = some (.readingBack id result)) (hs : r.redis.session id = some h)
    (hv : decode h = some v) :
    Agreement now ⟨r.redis, r.calls.set call (.recording v .unavailable)⟩ := by
  have hid : v.sessionID = id := by
    rw [decode_sessionID hv, SessionHash.text_eq (hr.named id h hs)]
  refine ⟨hr.named, fun id' h' expiry hs' hexpiry hnow => ?_⟩
  rcases hr.agree id' h' expiry hs' hexpiry hnow with hpending | hholds
  · refine Or.inl (hpending.update hcall ?_)
    by_cases hid' : id' = id
    · right
      rw [Progress.records, hid, hid']
    · left
      rw [Progress.records, Ne, Option.some.injEq]
      exact Ne.symm hid'
  · exact Or.inr hholds

theorem recorded_agreement {v : PublishSession} {failure : StoreError} {wallClock : ℤ}
    (hr : Agreement now r) (hcall : r.calls[call]? = some (.recording v failure))
    (hcurrent : (Progress.recording v failure).Current r.redis)
    (hwall : Clock.unixMilli wallClock ≤ now) :
    Agreement now ⟨r.redis.recordSession v wallClock,
      r.calls.set call (.returned none)⟩ := by
  refine ⟨hr.named, fun id h expiry hs hexpiry hnow => ?_⟩
  by_cases hid : id = v.sessionID
  · subst hid
    obtain ⟨hstatus, hexpires⟩ := hcurrent h hs
    rw [hexpires, Option.some.injEq] at hexpiry
    subst hexpiry
    right
    rw [hstatus]
    exact StatisticsKeys.holds_update _ _ _ _ _ _
  · rcases hr.agree id h expiry hs hexpiry hnow with hpending | hholds
    · refine Or.inl (hpending.update hcall (Or.inl ?_))
      rw [Progress.records, Ne, Option.some.injEq]
      exact Ne.symm hid
    · exact Or.inr (hholds.update_ne hid _ _ _ _ (by omega))

theorem ended_agreement {id : String} {time : ℤ} (hr : Agreement now r)
    (hcall : r.calls[call]? = some (.ending id time)) :
    Agreement now ⟨(r.redis.endScript id (Clock.unixMilli time)).1,
      r.calls.set call (.returned none)⟩ := by
  have hkeep : ∀ {s' : RedisState} {id' : String}, r.Pending id' →
      Pending ⟨s', r.calls.set call (.returned none)⟩ id' := by
    intro s' id' hpending
    exact hpending.update hcall (Or.inl nofun)
  have hcases := RedisState.endScript_cases r.redis id (Clock.unixMilli time)
  generalize r.redis.endScript id (Clock.unixMilli time) = e at hcases
  cases hcases with
  | absent habsent =>
      refine ⟨hr.named, fun id' h expiry hs hexpiry hnow => ?_⟩
      exact (hr.agree id' h expiry hs hexpiry hnow).imp hkeep fun hholds => hholds
  | ended hold expiresAt hexpires =>
      have hs₀ := RedisState.session_eq_some_iff.mpr ⟨_, hexpires, rfl⟩
      have hsession : ∀ {id' h}, (r.redis.putSession id (hold.endAt (Clock.unixMilli time))
          expiresAt).session id' = some h →
          id' = id ∧ h = hold.endAt (Clock.unixMilli time) ∨
            id' ≠ id ∧ r.redis.session id' = some h := by
        intro id' h hs
        by_cases hid : id' = id
        · subst hid
          rw [RedisState.session_putSession] at hs
          split_ifs at hs
          exact Or.inl ⟨rfl, (Option.some.inj hs).symm⟩
        · rw [RedisState.session_putSession_of_ne _ _ _ hid] at hs
          exact Or.inr ⟨hid, hs⟩
      constructor
      · intro id' h hs
        rcases hsession hs with ⟨rfl, rfl⟩ | ⟨hne, hs⟩
        · rw [hold.endAt_of_ne _ (by decide) (by decide)]
          exact hr.named id' hold hs₀
        · exact hr.named id' h hs
      · intro id' h expiry hs hexpiry hnow
        rcases hsession hs with ⟨rfl, rfl⟩ | ⟨hne, hs⟩
        · rw [SessionHash.expiresMs, hold.endAt_of_ne _ (by decide) (by decide)] at hexpiry
          refine (hr.agree id' hold expiry hs₀ hexpiry hnow).imp hkeep fun hholds => ?_
          rw [SessionHash.endAt_status]
          exact hholds.countStatus .ended
        · refine (hr.agree id' h expiry hs hexpiry hnow).imp hkeep fun hholds => ?_
          exact hholds.countStatus_ne hne .ended

/-! ## Runs -/

/-- Some call has returned with an error. -/
def Failed (r : Replicas) : Prop := ∃ err, Progress.returned (some err) ∈ r.calls

theorem start_pending {p' : Progress} {id : String} (h : r.Pending id) :
    (r.start p').Pending id := by
  obtain ⟨call, p, hcall, hrecords⟩ := h
  exact ⟨call, p, List.getElem?_append_left (List.getElem?_eq_some_iff.mp hcall).1 ▸ hcall, hrecords⟩

theorem start_agreement (hr : Agreement now r) (p' : Progress) : Agreement now (r.start p') := by
  refine ⟨hr.named, fun id h expiry hs hexpiry hnow => ?_⟩
  exact (hr.agree id h expiry hs hexpiry hnow).imp start_pending fun hholds => hholds

theorem trip_eq_some {digest : String → String} {wallClock : ℤ} {reply : Reply} {r' : Replicas}
    (h : r.step digest (.trip call wallClock reply) = some r') :
    ∃ p s' p', r.calls[call]? = some p ∧
      p.advance digest r.redis wallClock reply = some (s', p') ∧ r' = ⟨s', r.calls.set call p'⟩ := by
  simp only [step, Option.bind_eq_bind, Option.bind_eq_some_iff, Option.some.injEq] at h
  obtain ⟨p, hp, ⟨s', p'⟩, hadvance, rfl⟩ := h
  exact ⟨p, s', p', hp, hadvance, rfl⟩

/-- A call that has returned makes no more round trips. -/
theorem failed_step {digest : String → String} {a : ReplicaAction} {r' : Replicas}
    (hfailed : r.Failed) (h : r.step digest a = some r') : r'.Failed := by
  obtain ⟨err, hmem⟩ := hfailed
  cases a with
  | save | rotateRenewal | endSession =>
      cases h
      exact ⟨err, List.mem_append_left _ hmem⟩
  | tick elapsed =>
      cases h
      exact ⟨err, hmem⟩
  | trip call wallClock reply =>
      obtain ⟨p, s', p', hcall, hadvance, rfl⟩ := trip_eq_some h
      obtain ⟨call', hcall'⟩ := List.mem_iff_getElem?.mp hmem
      have hne : call ≠ call' := by
        rintro rfl
        rw [hcall, Option.some.injEq] at hcall'
        subst hcall'
        cases hadvance
      exact ⟨err, List.mem_iff_getElem?.mpr ⟨call', (List.getElem?_set_ne hne).trans hcall'⟩⟩

theorem advances_agreement {digest : String → String} {wallClock : ℤ} {s' : RedisState}
    {p' : Progress} (hr : Agreement now r) (hcall : r.calls[call]? = some p)
    (hadvances : Advances digest r.redis wallClock p (s', p')) (hcurrent : p.Current r.redis)
    (hwall : Clock.unixMilli wallClock ≤ now) : Agreement now ⟨s', r.calls.set call p'⟩ := by
  cases hadvances with
  | saved v => exact saved_agreement hr hcall
  | moved _ _ hp hp' =>
      refine ⟨hr.named, fun id h expiry hs hexpiry hnow => ?_⟩
      refine (hr.agree id h expiry hs hexpiry hnow).imp (fun hpending => ?_) fun hholds => hholds
      refine hpending.update hcall (Or.inl ?_)
      rw [hp]
      exact nofun
  | rotated id streamID renewal result => exact rotated_agreement hr hcall
  | readBack id result h v hs hv => exact readBack_agreement hr hcall hs hv
  | recorded v failure => exact recorded_agreement hr hcall hcurrent hwall
  | ended id time => exact ended_agreement hr hcall

/-- The clock of the process that makes the round trip shows a time up to `now`. -/
def ReadsBy (now : ℤ) : ReplicaAction → Prop
  | .trip _ wallClock _ => Clock.unixMilli wallClock ≤ now
  | _ => True

instance (now : ℤ) : ∀ a, Decidable (ReadsBy now a)
  | .trip _ wallClock _ => inferInstanceAs (Decidable (Clock.unixMilli wallClock ≤ now))
  | .save _ | .rotateRenewal _ _ | .endSession _ _ | .tick _ => inferInstanceAs (Decidable True)

theorem step_agreement {digest : String → String} {a : ReplicaAction} {r' : Replicas}
    (hr : ¬ r.Failed → Agreement now r) (hcurrent : r.RecordsCurrent a) (hclock : ReadsBy now a)
    (h : r.step digest a = some r') : ¬ r'.Failed → Agreement now r' := by
  intro hnot
  have hbefore := hr fun hfailed => hnot (failed_step hfailed h)
  cases a with
  | save | rotateRenewal | endSession =>
      cases h
      exact start_agreement hbefore _
  | tick elapsed =>
      cases h
      refine ⟨fun id h hs => hbefore.named id h (RedisState.session_tick hs), ?_⟩
      intro id h expiry hs hexpiry hnow
      exact hbefore.agree id h expiry (RedisState.session_tick hs) hexpiry hnow
  | trip call wallClock reply =>
      obtain ⟨p, s', p', hcall, hadvance, rfl⟩ := trip_eq_some h
      rcases advance_cases hadvance with ⟨err, rfl⟩ | hadvances
      · refine absurd ⟨err, ?_⟩ hnot
        exact List.mem_set (List.getElem?_eq_some_iff.mp hcall).1 _
      · exact advances_agreement hbefore hcall hadvances (hcurrent p hcall) hclock

/-- Statistics under concurrent calls: in any interleaving of the round trips of saves, rotations
and ends, from an empty Redis, in which every call that writes the statistics of a session writes
what the session's hash still says, once all calls have returned without an error the status of
every session that has not expired by any clock is the same in the statistics and in its hash. -/
theorem run_statistics_agree {digest : String → String} {clock now : ℤ}
    {acts : List ReplicaAction} {r : Replicas}
    (hrun : Runs.run (step digest) (initial clock) acts = some r)
    (hcurrent : Runs.Along (step digest) RecordsCurrent (initial clock) acts)
    (hclock : ∀ a ∈ acts, ReadsBy now a) (hreturned : ∀ p ∈ r.calls, p = .returned none)
    {id : String} {h : SessionHash} {expiry : ℤ} (hs : r.redis.session id = some h)
    (hexpiry : h.expiresMs = some expiry) (hnow : now < expiry) :
    (r.redis.statistics.status.lookup id).map PublishSessionStatus.text = h .status := by
  have hinitial : ¬ (initial clock).Failed → Agreement now (initial clock) :=
    fun _ => ⟨nofun, nofun⟩
  have hfinal : ¬ r.Failed → Agreement now r :=
    Runs.run_invariant (fun _ _ _ hr hC hstep => step_agreement hr hC.1 hC.2 hstep) hinitial
      (Runs.along_and hcurrent (Runs.along_of_mem hclock _)) hrun
  have hagreement : Agreement now r := by
    apply hfinal
    rintro ⟨err, hmem⟩
    cases hreturned _ hmem
  rcases hagreement.agree id h expiry hs hexpiry hnow with ⟨call, p, hcall, hrecords⟩ | hholds
  · rw [hreturned p (List.mem_of_getElem? hcall)] at hrecords
    cases hrecords
  · exact hholds.status

/-- The calls of `sampleSession`: it is saved, renewed a second later and ended; `order` says in
which order the renewal's write of the statistics and the end come. -/
def renewedAndEnded (order : List ReplicaAction) : List ReplicaAction :=
  [.save sampleSession, .trip 0 0 .delivered, .trip 0 0 .delivered,
    .rotateRenewal "ps_01" ⟨[1], [2], 301 * Clock.second, 3601 * Clock.second, Clock.second⟩,
    .endSession "ps_01" Clock.second,
    .trip 1 Clock.second .delivered, .trip 1 Clock.second .delivered,
    .trip 1 Clock.second .delivered] ++ order

def recordLast : List ReplicaAction :=
  renewedAndEnded [.trip 2 Clock.second .delivered, .trip 1 Clock.second .delivered]

def endLast : List ReplicaAction :=
  renewedAndEnded [.trip 1 Clock.second .delivered, .trip 2 Clock.second .delivered]

/-- What a run leaves of a session: the calls, the status in the statistics, and the status and the
renewal expiry in the hash. -/
def outcome (id : String) (r : Replicas) :
    List Progress × Option PublishSessionStatus × Option (String × Option ℤ) :=
  (r.calls, r.redis.statistics.status.lookup id,
    (r.redis.session id).map fun h => (h.text .status, h.expiresMs))

theorem run_statistics_agree_end_last :
    ∃ r h, Runs.run (step fun stream => stream) (initial 0) endLast = some r ∧
      r.redis.session "ps_01" = some h ∧
      (r.redis.statistics.status.lookup "ps_01").map PublishSessionStatus.text = h .status := by
  have hsome : (Runs.run (step fun stream => stream) (initial 0) endLast).isSome = true := by
    decide +kernel
  obtain ⟨r, hr⟩ := Option.isSome_iff_exists.mp hsome
  have houtcome : (Runs.run (step fun stream => stream) (initial 0) endLast).map
      (outcome "ps_01") = some ([.returned none, .returned none, .returned none], some .ended,
        some ("ended", some 3601000)) := by
    decide +kernel
  rw [hr, Option.map_some, Option.some.injEq, outcome, Prod.mk.injEq, Prod.mk.injEq] at houtcome
  obtain ⟨hcalls, -, hsession⟩ := houtcome
  obtain ⟨h, hs, hh⟩ := Option.map_eq_some_iff.mp hsession
  refine ⟨r, h, hr, hs, ?_⟩
  refine @run_statistics_agree _ 0 3600000 endLast r hr (by decide +kernel) (by decide +kernel)
    ?_ "ps_01" h 3601000 hs (congrArg Prod.snd hh) (by decide)
  rw [hcalls]
  decide

/-- The renewal reads the session back before it is ended and writes the statistics afterwards: all
calls have succeeded, and the session, ended in its hash, is active in the statistics. -/
theorem statistics_disagree :
    (Runs.run (step fun stream => stream) (initial 0) recordLast).map (outcome "ps_01") =
      some ([.returned none, .returned none, .returned none], some .active,
        some ("ended", some 3601000)) := by
  decide +kernel

end Replicas

end GcsSaker.SessionStore
