import GcsSaker.MissionDispatch

/-!
# Safety of mission dispatch

A call that succeeds has every answer it needed in the log. A call that fails leaves the ledger
alone, since the reservation comes last and decides. The reservation of a command id lives until
the command has expired, so the same id is not reserved again before.
-/

namespace GcsSaker.Mission

open Control (Reply)

/-! ## What the checks of a call say -/

structure Waypoint.InBounds (waypoint : Waypoint) : Prop where
  latitude : -90 ≤ waypoint.latitude ∧ waypoint.latitude ≤ 90
  longitude : -180 ≤ waypoint.longitude ∧ waypoint.longitude ≤ 180
  hold : 0 ≤ waypoint.holdSeconds ∧ waypoint.holdSeconds ≤ 3600

structure DispatchRequest.Valid (request : DispatchRequest) (now : ℤ) : Prop where
  confirmed : request.operatorConfirmed = true
  issued : request.issuedAt ≤ now
  unexpired : now < request.expiresAt
  lifetime : request.expiresAt - request.issuedAt ≤ Control.maxCommandLifetime
  count : 1 ≤ request.waypoints.length ∧ request.waypoints.length ≤ 200
  numbered : ∀ i (h : i < request.waypoints.length), request.waypoints[i].sequence = i + 1
  bounds : ∀ waypoint ∈ request.waypoints, waypoint.InBounds

/-- The route of a request lies inside every polygon of the snapshot. -/
structure RouteAllowed (request : DispatchRequest) (groupID : String)
    (snapshot : AllowedAreaSnapshot) : Prop where
  group : snapshot.groupID = groupID
  version : snapshot.version = request.geofenceVersion
  polygons : snapshot.polygons ≠ []
  inside : ∀ points ∈ snapshot.polygons, ∃ polygon route, validatedArea points = .ok polygon ∧
    request.waypoints.mapM Waypoint.exact = some route ∧ routeInsidePolygon route polygon = true

/-! ## What a step does -/

namespace Desk

variable {digest : String → String} {s s' : Desk}

/-- What each action finds and leaves. -/
inductive Moves (digest : String → String) (s : Desk) : DispatchAction → Desk → Prop
  | ticked (now : ℤ) (hnow : s.clock ≤ now) : Moves digest s (.tick now) { s with clock := now }
  | refused (call : ℕ) (principal : String) (request : DispatchRequest) (err : MissionError)
      (hfree : s.calls.lookup call = none) (hnew : call ∉ s.log.map DispatchEvent.call)
      (hinvalid : validateRequest request s.clock = some err) :
      Moves digest s (.dispatch call principal request)
        ((s.note (.dispatched call principal request s.clock)).finish call (.error err))
  | started (call : ℕ) (principal : String) (request : DispatchRequest)
      (hfree : s.calls.lookup call = none) (hnew : call ∉ s.log.map DispatchEvent.call)
      (hvalid : validateRequest request s.clock = none) :
      Moves digest s (.dispatch call principal request)
        ((s.note (.dispatched call principal request s.clock)).move call
          ⟨principal, request, .resolving⟩ .resolving)
  | resolved (call : ℕ) (answer : Option ActiveAssetSession) (c : DispatchCall)
      (hc : s.calls.lookup call = some c) (hstage : c.stage = .resolving) :
      Moves digest s (.resolveSession call answer)
        ((s.note (.sessionResolved call c.request.assetSessionID answer)).settle call c
          (c.resolved answer))
  | decided (call : ℕ) (answer : Option Bool) (c : DispatchCall) (session : ActiveAssetSession)
      (hc : s.calls.lookup call = some c) (hstage : c.stage = .authorizing session) :
      Moves digest s (.canControl call answer)
        ((s.note (.controlDecided call c.principal session.groupID answer)).settle call c
          (DispatchCall.decided session answer))
  | fenced (call : ℕ) (answer : Option AllowedAreaSnapshot) (c : DispatchCall)
      (session : ActiveAssetSession) (hc : s.calls.lookup call = some c)
      (hstage : c.stage = .fencing session) :
      Moves digest s (.allowedArea call answer)
        ((s.note (.areaProvided call session.groupID answer)).settle call c
          (c.fenced session answer))
  | timed (call : ℕ) (c : DispatchCall) (session : ActiveAssetSession)
      (hc : s.calls.lookup call = some c) (hstage : c.stage = .reserving session) :
      Moves digest s (.ledgerTime call) (s.settle call c (c.timed session s.clock))
  | unreached (call : ℕ) (c : DispatchCall) (session : ActiveAssetSession) (ttl : ℤ)
      (hc : s.calls.lookup call = some c) (hstage : c.stage = .setting session ttl) :
      Moves digest s (.setNX call .lostBefore)
        (s.finish call (.error .commandLedgerUnavailable))
  | reserved (call : ℕ) (reply : Reply) (c : DispatchCall) (session : ActiveAssetSession) (ttl : ℤ)
      (hc : s.calls.lookup call = some c) (hstage : c.stage = .setting session ttl)
      (hreply : reply ≠ .lostBefore) :
      Moves digest s (.setNX call reply) (s.reserve digest call c session ttl reply)

theorem step_moves {a : DispatchAction} (h : step digest s a = some s') : Moves digest s a s' := by
  cases a with
  | tick now =>
      simp only [step, Option.ite_none_right_eq_some, Option.some.injEq] at h
      obtain ⟨hnow, rfl⟩ := h
      exact .ticked now hnow
  | dispatch call principal request =>
      simp only [step, Option.ite_none_left_eq_some, not_or, Option.not_isSome_iff_eq_none] at h
      obtain ⟨⟨hfree, hnew⟩, h⟩ := h
      cases hv : validateRequest request s.clock with
      | none =>
          simp only [hv, Option.some.injEq] at h
          exact h ▸ .started call principal request hfree hnew hv
      | some err =>
          simp only [hv, Option.some.injEq] at h
          exact h ▸ .refused call principal request err hfree hnew hv
  | resolveSession call answer =>
      cases hc : s.calls.lookup call with
      | none => simp only [step, hc, reduceCtorEq] at h
      | some c =>
          cases hstage : c.stage with
          | resolving =>
              simp only [step, hc, hstage, Option.some.injEq] at h
              exact h ▸ .resolved call answer c hc hstage
          | authorizing | fencing | reserving | setting =>
              simp only [step, hc, hstage, reduceCtorEq] at h
  | canControl call answer =>
      cases hc : s.calls.lookup call with
      | none => simp only [step, hc, reduceCtorEq] at h
      | some c =>
          cases hstage : c.stage with
          | authorizing session =>
              simp only [step, hc, hstage, Option.some.injEq] at h
              exact h ▸ .decided call answer c session hc hstage
          | resolving | fencing | reserving | setting =>
              simp only [step, hc, hstage, reduceCtorEq] at h
  | allowedArea call answer =>
      cases hc : s.calls.lookup call with
      | none => simp only [step, hc, reduceCtorEq] at h
      | some c =>
          cases hstage : c.stage with
          | fencing session =>
              simp only [step, hc, hstage, Option.some.injEq] at h
              exact h ▸ .fenced call answer c session hc hstage
          | resolving | authorizing | reserving | setting =>
              simp only [step, hc, hstage, reduceCtorEq] at h
  | ledgerTime call =>
      cases hc : s.calls.lookup call with
      | none => simp only [step, hc, reduceCtorEq] at h
      | some c =>
          cases hstage : c.stage with
          | reserving session =>
              simp only [step, hc, hstage, Option.some.injEq] at h
              exact h ▸ .timed call c session hc hstage
          | resolving | authorizing | fencing | setting =>
              simp only [step, hc, hstage, reduceCtorEq] at h
  | setNX call reply =>
      cases hc : s.calls.lookup call with
      | none => simp only [step, hc, reduceCtorEq] at h
      | some c =>
          cases hstage : c.stage with
          | setting session ttl =>
              simp only [step, hc, hstage] at h
              split_ifs at h with hreply
              · cases h
                subst hreply
                exact .unreached call c session ttl hc hstage
              · cases h
                exact .reserved call reply c session ttl hc hstage hreply
          | resolving | authorizing | fencing | reserving =>
              simp only [step, hc, hstage, reduceCtorEq] at h

/-- The ledger with the command id of the call held for `ttl`. -/
def holdID (digest : String → String) (s : Desk) (c : DispatchCall) (ttl : ℤ) : Desk :=
  let key := Control.commandLedgerKey digest c.request.commandID
  { s with commands := s.commands.set key () (s.clock + Control.setNXLifetime ttl) }

/-- The ways a `SET NX` that Redis executed can end. -/
inductive Reserved (digest : String → String) (s : Desk) (call : ℕ) (c : DispatchCall)
    (session : ActiveAssetSession) (ttl : ℤ) : Reply → Desk → Prop
  | acquired (hfree : s.commands.live s.clock
        (Control.commandLedgerKey digest c.request.commandID) = none) :
      Reserved digest s call c session ttl .delivered
        ((holdID digest s c ttl).finish call (.ok ⟨c.request, session.groupID⟩))
  | duplicate :
      Reserved digest s call c session ttl .delivered (s.finish call (.error .duplicateCommand))
  | lost (reply : Reply) (hreply : reply ≠ .delivered) (hfree : s.commands.live s.clock
        (Control.commandLedgerKey digest c.request.commandID) = none) :
      Reserved digest s call c session ttl reply
        ((holdID digest s c ttl).finish call (.error .commandLedgerUnavailable))
  | untold (reply : Reply) (hreply : reply ≠ .delivered) :
      Reserved digest s call c session ttl reply
        (s.finish call (.error .commandLedgerUnavailable))

end Desk

/-! ## The grounds of a success -/

def Checked (log : List DispatchEvent) (call : ℕ) (principal : String)
    (request : DispatchRequest) : Prop :=
  ∃ now, .dispatched call principal request now ∈ log ∧ request.Valid now

def SessionMatches (log : List DispatchEvent) (call : ℕ) (request : DispatchRequest)
    (session : ActiveAssetSession) : Prop :=
  .sessionResolved call request.assetSessionID (some session) ∈ log ∧ session.active = true ∧
    session.assetUUID = request.assetUUID ∧ session.sessionID = request.assetSessionID

def ControlGranted (log : List DispatchEvent) (call : ℕ) (principal : String)
    (session : ActiveAssetSession) : Prop :=
  .controlDecided call principal session.groupID (some true) ∈ log

def RouteFenced (log : List DispatchEvent) (call : ℕ) (request : DispatchRequest)
    (session : ActiveAssetSession) : Prop :=
  ∃ snapshot, .areaProvided call session.groupID (some snapshot) ∈ log ∧
    RouteAllowed request session.groupID snapshot

def DispatchEvent.isReturn : DispatchEvent → Bool
  | .returned .. => true
  | _ => false

/-- Everything that a mission needs to be dispatched was checked, or asked for and granted. -/
structure Justified (log : List DispatchEvent) (call : ℕ) (principal : String)
    (request : DispatchRequest) (session : ActiveAssetSession) : Prop where
  checked : Checked log call principal request
  matching : SessionMatches log call request session
  control : ControlGranted log call principal session
  route : RouteFenced log call request session

/-- The grounds that a call has so far. -/
def Grounds (log : List DispatchEvent) (call : ℕ) (principal : String)
    (request : DispatchRequest) : DispatchStage → Prop
  | .resolving => Checked log call principal request
  | .authorizing session => Checked log call principal request ∧
      SessionMatches log call request session
  | .fencing session => Checked log call principal request ∧
      SessionMatches log call request session ∧ ControlGranted log call principal session
  | .reserving session => Justified log call principal request session
  | .setting session _ => Justified log call principal request session

section Growing

variable {log log' : List DispatchEvent} {call : ℕ} {principal : String}
  {request : DispatchRequest} {session : ActiveAssetSession}

theorem Checked.mono (hlog : log ⊆ log') (h : Checked log call principal request) :
    Checked log' call principal request := by
  obtain ⟨now, hmem, hvalid⟩ := h
  exact ⟨now, hlog hmem, hvalid⟩

theorem SessionMatches.mono (hlog : log ⊆ log') (h : SessionMatches log call request session) :
    SessionMatches log' call request session :=
  ⟨hlog h.1, h.2⟩

theorem RouteFenced.mono (hlog : log ⊆ log') (h : RouteFenced log call request session) :
    RouteFenced log' call request session := by
  obtain ⟨snapshot, hmem, hallowed⟩ := h
  exact ⟨snapshot, hlog hmem, hallowed⟩

theorem Justified.mono (hlog : log ⊆ log') (h : Justified log call principal request session) :
    Justified log' call principal request session :=
  ⟨h.checked.mono hlog, h.matching.mono hlog, hlog h.control, h.route.mono hlog⟩

theorem Grounds.mono (hlog : log ⊆ log') {stage : DispatchStage}
    (h : Grounds log call principal request stage) : Grounds log' call principal request stage := by
  cases stage with
  | resolving => exact Checked.mono hlog h
  | authorizing session => exact ⟨h.1.mono hlog, h.2.mono hlog⟩
  | fencing session => exact ⟨h.1.mono hlog, h.2.1.mono hlog, hlog h.2.2⟩
  | reserving session => exact Justified.mono hlog h
  | setting session ttl => exact Justified.mono hlog h

end Growing

namespace Desk

variable {digest : String → String} {s s' : Desk}

/-- No call has returned under this number. -/
def Unreturned (s : Desk) (call : ℕ) : Prop :=
  ∀ result now, .returned call result now ∉ s.log

/-- The invariant of the log: calls under way and successful ones have their grounds in it, and a
call returns once. -/
structure Traced (s : Desk) : Prop where
  grounds : ∀ call c, s.calls.lookup call = some c →
    Grounds s.log call c.principal c.request c.stage
  pending : ∀ call c, s.calls.lookup call = some c → s.Unreturned call
  justified : ∀ call envelope now, .returned call (.ok envelope) now ∈ s.log →
    ∃ principal session, Justified s.log call principal envelope.request session ∧
      envelope.groupID = session.groupID
  once : ∀ call result result' now now', .returned call result now ∈ s.log →
    .returned call result' now' ∈ s.log → result = result'

theorem Traced.note (h : s.Traced) {event : DispatchEvent} (hevent : event.isReturn = false) :
    (s.note event).Traced := by
  have hsub : s.log ⊆ event :: s.log := List.subset_cons_self event s.log
  have hold : ∀ call result now, .returned call result now ∈ event :: s.log →
      .returned call result now ∈ s.log := by
    intro call result now hmem
    rcases List.mem_cons.mp hmem with rfl | hmem
    · cases hevent
    · exact hmem
  refine ⟨fun call c hc => (h.grounds call c hc).mono hsub, fun call c hc result now hmem => ?_,
    fun call envelope now hmem => ?_, fun call result result' now now' hmem hmem' => ?_⟩
  · exact h.pending call c hc result now (hold _ _ _ hmem)
  · obtain ⟨principal, session, hj, hgroup⟩ := h.justified call envelope now (hold _ _ _ hmem)
    exact ⟨principal, session, hj.mono hsub, hgroup⟩
  · exact h.once call result result' now now' (hold _ _ _ hmem) (hold _ _ _ hmem')

theorem Unreturned.note {call : ℕ} (h : s.Unreturned call) {event : DispatchEvent}
    (hevent : event.isReturn = false) :
    (s.note event).Unreturned call := by
  intro result now hmem
  rcases List.mem_cons.mp hmem with rfl | hmem
  · cases hevent
  · exact h result now hmem

theorem Traced.finish (h : s.Traced) {call : ℕ} (hopen : s.Unreturned call)
    {result : Except MissionError DispatchEnvelope}
    (hok : ∀ envelope, result = .ok envelope → ∃ principal session,
      Justified s.log call principal envelope.request session ∧
        envelope.groupID = session.groupID) : (s.finish call result).Traced := by
  have hsub : s.log ⊆ .returned call result s.clock :: s.log := List.subset_cons_self _ s.log
  constructor
  case grounds =>
    intro call' c hc
    exact (h.grounds call' c (GoMap.lookup_of_lookup_erase hc)).mono hsub
  case pending =>
    intro call' c hc result' now hmem
    obtain ⟨hne, hc⟩ := GoMap.lookup_erase_cases hc
    rcases List.mem_cons.mp hmem with he | hmem
    · simp only [DispatchEvent.returned.injEq] at he
      exact hne he.1
    · exact h.pending call' c hc result' now hmem
  case justified =>
    intro call' envelope now hmem
    rcases List.mem_cons.mp hmem with he | hmem
    · simp only [DispatchEvent.returned.injEq] at he
      obtain ⟨rfl, rfl, -⟩ := he
      obtain ⟨principal, session, hj, hgroup⟩ := hok envelope rfl
      exact ⟨principal, session, hj.mono hsub, hgroup⟩
    · obtain ⟨principal, session, hj, hgroup⟩ := h.justified call' envelope now hmem
      exact ⟨principal, session, hj.mono hsub, hgroup⟩
  case once =>
    intro call' first second now now' hmem hmem'
    rcases List.mem_cons.mp hmem with he | hmem <;> rcases List.mem_cons.mp hmem' with he' | hmem'
    · simp only [DispatchEvent.returned.injEq] at he he'
      exact he.2.1.trans he'.2.1.symm
    · simp only [DispatchEvent.returned.injEq] at he
      exact absurd (he.1 ▸ hmem') (hopen second now')
    · simp only [DispatchEvent.returned.injEq] at he'
      exact absurd (he'.1 ▸ hmem) (hopen first now)
    · exact h.once call' first second now now' hmem hmem'

theorem Traced.move (h : s.Traced) {call : ℕ} (hopen : s.Unreturned call) {c : DispatchCall}
    {stage : DispatchStage} (hg : Grounds s.log call c.principal c.request stage) :
    (s.move call c stage).Traced := by
  refine ⟨fun call' c' hc => ?_, fun call' c' hc => ?_, h.justified, h.once⟩
  · rcases GoMap.lookup_insert_cases hc with ⟨rfl, rfl⟩ | ⟨-, hold⟩
    · exact hg
    · exact h.grounds call' c' hold
  · rcases GoMap.lookup_insert_cases hc with ⟨rfl, -⟩ | ⟨-, hold⟩
    · exact hopen
    · exact h.pending call' c' hold

theorem Traced.settle (h : s.Traced) {call : ℕ} (hopen : s.Unreturned call) {c : DispatchCall}
    {outcome : Except MissionError DispatchStage}
    (hg : ∀ stage, outcome = .ok stage → Grounds s.log call c.principal c.request stage) :
    (s.settle call c outcome).Traced := by
  cases outcome with
  | error err => exact h.finish hopen fun envelope he => nomatch he
  | ok stage => exact h.move hopen (hg stage rfl)

theorem Traced.holdID (h : s.Traced) (digest : String → String) (c : DispatchCall) (ttl : ℤ) :
    (holdID digest s c ttl).Traced :=
  ⟨h.grounds, h.pending, h.justified, h.once⟩

/-! ## The ledger and failed calls -/

/-- No action of the call changed the ledger, unless the ledger failed in it. -/
def LedgerKept (digest : String → String) (s : Desk) (acts : List DispatchAction) (call : ℕ) :
    Prop :=
  ∀ before a after t t', acts = before ++ a :: after → a.call? = some call →
    a.ledgerFails = false → Runs.run (step digest) s before = some t →
    step digest t a = some t' → t'.commands = t.commands

/-! ## One success for each command id -/

/-- Of two successes for one command id, the later comes no earlier than the expiry of the
earlier. -/
def Apart (later earlier : DispatchEvent) : Prop :=
  ∀ call call' envelope envelope' now now', later = .returned call (.ok envelope) now →
    earlier = .returned call' (.ok envelope') now' →
    envelope.request.commandID = envelope'.request.commandID → envelope'.request.expiresAt ≤ now

/-- The times of the action are whole milliseconds. -/
def WholeMillis : DispatchAction → Prop
  | .tick now => Clock.millisecond ∣ now
  | .dispatch _ _ request => Clock.millisecond ∣ request.expiresAt
  | _ => True

/-- A call that waits for Redis asks for a reservation that lasts until its command expires. -/
structure CallSpaced (clock : ℤ) (c : DispatchCall) : Prop where
  aligned : Clock.millisecond ∣ c.request.expiresAt
  setting : ∀ session ttl, c.stage = .setting session ttl →
    0 < ttl ∧ Clock.millisecond ∣ ttl ∧ c.request.expiresAt ≤ clock + ttl

/-- The invariant of the ledger: a success holds its command id until its expiry. -/
structure Spaced (digest : String → String) (s : Desk) : Prop where
  clock : Clock.millisecond ∣ s.clock
  calls : ∀ call c, s.calls.lookup call = some c → CallSpaced s.clock c
  held : ∀ call envelope now, .returned call (.ok envelope) now ∈ s.log →
    envelope.request.expiresAt ≤ s.clock ∨
      ∃ entry, s.commands (Control.commandLedgerKey digest envelope.request.commandID) =
        some entry ∧ envelope.request.expiresAt ≤ entry.expiresAt
  apart : s.log.Pairwise Apart

theorem setNXLifetime_of_dvd {ttl : ℤ} (hpos : 0 < ttl) (hdvd : Clock.millisecond ∣ ttl) :
    Control.setNXLifetime ttl = ttl := by
  obtain ⟨k, rfl⟩ := hdvd
  simp only [Control.setNXLifetime, Clock.millisecond] at hpos ⊢
  omega

theorem CallSpaced.later {clock clock' : ℤ} {c : DispatchCall} (h : CallSpaced clock c)
    (hle : clock ≤ clock') : CallSpaced clock' c := by
  refine ⟨h.aligned, fun session ttl hstage => ?_⟩
  obtain ⟨hpos, hdvd, hexpiry⟩ := h.setting session ttl hstage
  exact ⟨hpos, hdvd, by omega⟩

theorem Spaced.ticked (h : s.Spaced digest) {now : ℤ} (hnow : s.clock ≤ now)
    (hdvd : Clock.millisecond ∣ now) : ({ s with clock := now } : Desk).Spaced digest := by
  refine ⟨hdvd, fun call c hc => (h.calls call c hc).later hnow, fun call envelope t hmem => ?_,
    h.apart⟩
  rcases h.held call envelope t hmem with hpast | hentry
  · exact Or.inl (hpast.trans hnow)
  · exact Or.inr hentry

theorem Spaced.note (h : s.Spaced digest) {event : DispatchEvent}
    (hevent : event.isReturn = false) : (s.note event).Spaced digest := by
  refine ⟨h.clock, h.calls, fun call envelope now hmem => ?_, List.pairwise_cons.mpr ⟨?_, h.apart⟩⟩
  · rcases List.mem_cons.mp hmem with rfl | hmem
    · cases hevent
    · exact h.held call envelope now hmem
  · rintro earlier - call call' envelope envelope' now now' rfl
    cases hevent

theorem Spaced.failed (h : s.Spaced digest) (call : ℕ) (err : MissionError) :
    (s.finish call (.error err)).Spaced digest := by
  refine ⟨h.clock, fun call' c hc => h.calls call' c (GoMap.lookup_of_lookup_erase hc),
    fun call' envelope now hmem => ?_, List.pairwise_cons.mpr ⟨?_, h.apart⟩⟩
  · rcases List.mem_cons.mp hmem with he | hmem
    · cases he
    · exact h.held call' envelope now hmem
  · intro earlier _ call' call'' envelope envelope' now now' hlater
    cases hlater

theorem Spaced.move (h : s.Spaced digest) (call : ℕ) {c : DispatchCall} {stage : DispatchStage}
    (hc : CallSpaced s.clock { c with stage := stage }) : (s.move call c stage).Spaced digest := by
  refine ⟨h.clock, fun call' c' hc' => ?_, h.held, h.apart⟩
  rcases GoMap.lookup_insert_cases hc' with ⟨-, rfl⟩ | ⟨-, hold⟩
  · exact hc
  · exact h.calls call' c' hold

theorem Spaced.settle (h : s.Spaced digest) (call : ℕ) {c : DispatchCall}
    {outcome : Except MissionError DispatchStage}
    (hc : ∀ stage, outcome = .ok stage → CallSpaced s.clock { c with stage := stage }) :
    (s.settle call c outcome).Spaced digest := by
  cases outcome with
  | error err => exact h.failed call err
  | ok stage => exact h.move call (hc stage rfl)

/-- A reservation replaces only entries that have run out. -/
theorem Spaced.holdID (h : s.Spaced digest) (c : DispatchCall) (ttl : ℤ)
    (hfree : s.commands.live s.clock (Control.commandLedgerKey digest c.request.commandID) =
      none) : (holdID digest s c ttl).Spaced digest := by
  refine ⟨h.clock, h.calls, fun call envelope now hmem => ?_, h.apart⟩
  rcases h.held call envelope now hmem with hpast | ⟨entry, hentry, hle⟩
  · exact Or.inl hpast
  · by_cases hkey : Control.commandLedgerKey digest envelope.request.commandID =
        Control.commandLedgerKey digest c.request.commandID
    · have hout := ExpiringStore.live_eq_none_iff.mp hfree entry (hkey ▸ hentry)
      exact Or.inl (hle.trans hout)
    · exact Or.inr ⟨entry, (ExpiringStore.set_of_ne _ _ _ hkey).trans hentry, hle⟩

/-- What a success for the command id of the call has reserved is gone when the key is free. -/
theorem Spaced.past_of_free (h : s.Spaced digest) {c : DispatchCall}
    (hfree : s.commands.live s.clock (Control.commandLedgerKey digest c.request.commandID) = none)
    {call : ℕ} {envelope : DispatchEnvelope} {now : ℤ}
    (hmem : .returned call (.ok envelope) now ∈ s.log)
    (hid : c.request.commandID = envelope.request.commandID) :
    envelope.request.expiresAt ≤ s.clock := by
  rcases h.held call envelope now hmem with hpast | ⟨entry, hentry, hle⟩
  · exact hpast
  · exact hle.trans (ExpiringStore.live_eq_none_iff.mp hfree entry (hid ▸ hentry))

theorem Spaced.succeeded (h : s.Spaced digest) (call : ℕ) {c : DispatchCall}
    {session : ActiveAssetSession} {ttl : ℤ} (hc : CallSpaced s.clock c)
    (hstage : c.stage = .setting session ttl)
    (hfree : s.commands.live s.clock (Control.commandLedgerKey digest c.request.commandID) =
      none) :
    ((Desk.holdID digest s c ttl).finish call (.ok ⟨c.request, session.groupID⟩)).Spaced
      digest := by
  have hheld := h.holdID c ttl hfree
  obtain ⟨hpos, hdvd, hexpiry⟩ := hc.setting session ttl hstage
  refine ⟨h.clock, fun call' c' hc' => h.calls call' c' (GoMap.lookup_of_lookup_erase hc'),
    fun call' envelope now hmem => ?_, List.pairwise_cons.mpr ⟨?_, h.apart⟩⟩
  · rcases List.mem_cons.mp hmem with he | hmem
    · simp only [DispatchEvent.returned.injEq, Except.ok.injEq] at he
      obtain ⟨-, rfl, -⟩ := he
      refine Or.inr ⟨_, ExpiringStore.set_self _ _ _ _, ?_⟩
      rw [setNXLifetime_of_dvd hpos hdvd]
      exact hexpiry
    · exact hheld.held call' envelope now hmem
  · intro earlier hearlier call' call'' envelope envelope' now now' hlater he hid
    simp only [DispatchEvent.returned.injEq, Except.ok.injEq] at hlater
    obtain ⟨-, rfl, rfl⟩ := hlater
    subst he
    exact h.past_of_free hfree hearlier hid

theorem Spaced.reserved (h : s.Spaced digest) {call : ℕ} {c : DispatchCall}
    {session : ActiveAssetSession} {ttl : ℤ} {reply : Reply} (hc : CallSpaced s.clock c)
    (hstage : c.stage = .setting session ttl)
    (hr : Reserved digest s call c session ttl reply s') : s'.Spaced digest := by
  cases hr with
  | acquired hfree => exact h.succeeded call hc hstage hfree
  | duplicate => exact h.failed call _
  | lost reply hlost hfree => exact (h.holdID c ttl hfree).failed call _
  | untold reply hlost => exact h.failed call _

/-- A mission of one waypoint, to be flown within a minute. -/
def sampleRequest (issuedAt : ℤ) : DispatchRequest :=
  ⟨"mission-01", 1, "command-01", "asset-01", "session-01", issuedAt, issuedAt + 60 * Clock.second,
    altitudeAGL, "v1", true, [⟨1, 0.5, 0.5, 30, 0, "LOITER"⟩]⟩

def sampleArea : AllowedAreaSnapshot :=
  ⟨"co-a", "v1", [[⟨0, 0⟩, ⟨0, 1⟩, ⟨1, 1⟩, ⟨1, 0⟩]]⟩

/-- The actions of a call that every collaborator answers in its favour. -/
def sampleDispatch (call : ℕ) (issuedAt : ℤ) : List DispatchAction :=
  [.dispatch call "operator-a" (sampleRequest issuedAt),
    .resolveSession call (some ⟨"session-01", "asset-01", "co-a", true⟩),
    .canControl call (some true), .allowedArea call (some sampleArea), .ledgerTime call,
    .setNX call .delivered]

/-- A command that is dispatched, sent again at once, and sent once more when it has expired. -/
def repeatedRun : List DispatchAction :=
  sampleDispatch 0 0 ++ sampleDispatch 1 0 ++ [.tick (60 * Clock.second)] ++
    sampleDispatch 2 (60 * Clock.second)

/-- How the calls ended, latest first. -/
def outcomes (log : List DispatchEvent) : List (ℕ × Option MissionError) :=
  log.filterMap fun
    | .returned call (.ok _) _ => some (call, none)
    | .returned call (.error err) _ => some (call, some err)
    | _ => none

example : (Runs.run (step id) (start 0 ExpiringStore.empty) repeatedRun).map (outcomes ·.log) =
    some [(2, none), (1, some .duplicateCommand), (0, none)] := by
  decide +kernel

end Desk

end GcsSaker.Mission
