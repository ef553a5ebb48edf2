import GcsSaker.StreamSlots
import GcsSaker.UserPreferences

/-!
# Polling of the stream devices

One refresh after the other asks for the devices, and the next one waits for a timer. A hidden page
lets the timers end, a visible one starts them again, and the polling ends when it is disposed of or
when the session has expired.
-/

namespace GcsSaker.StreamDevicePolling

open StreamSlots (StreamDeviceOption DashboardStreamSlot StreamGeometry mergeStreamSlotsWithDevices)
open UserPreferences (StreamPreferencesSnapshot)

/-! ## What a refresh does -/

def isSameGeometry : Option StreamGeometry → Option StreamGeometry → Bool
  | some geometry, some next =>
    geometry.lat == next.lat && geometry.lng == next.lng && geometry.altitudeM == next.altitudeM &&
      geometry.batteryPercent == next.batteryPercent && geometry.headingDeg == next.headingDeg &&
      geometry.pitchDeg == next.pitchDeg && geometry.rollDeg == next.rollDeg &&
      geometry.yawDeg == next.yawDeg && geometry.fovDeg == next.fovDeg &&
      geometry.source = next.source
  | none, none => true
  | _, _ => false

def isSameStreamDevice (device next : StreamDeviceOption) : Bool :=
  device.id = next.id && device.name = next.name && device.mediaType = next.mediaType &&
    device.status = next.status && device.streamPath = next.streamPath &&
    isSameGeometry device.geometry next.geometry

def isSameStreamSlot (stream next : DashboardStreamSlot) : Bool :=
  stream.id = next.id && stream.title = next.title && stream.status = next.status &&
    stream.mode = next.mode && stream.detail = next.detail &&
    stream.connectedDeviceId = next.connectedDeviceId && stream.streamPath = next.streamPath &&
    stream.aiModeEnabled = next.aiModeEnabled && isSameGeometry stream.geometry next.geometry

def areStreamDevicesEqual (previous next : List StreamDeviceOption) : Bool :=
  previous.length = next.length && (previous.zip next).all fun e => isSameStreamDevice e.1 e.2

def areStreamSlotsEqual (previous next : List DashboardStreamSlot) : Bool :=
  previous.length = next.length && (previous.zip next).all fun e => isSameStreamSlot e.1 e.2

/-- The names that every object inherits; none of these properties has a method `trim`. -/
def inheritedNames : List String :=
  ["constructor", "__defineGetter__", "__defineSetter__", "hasOwnProperty", "__lookupGetter__",
    "__lookupSetter__", "isPrototypeOf", "propertyIsEnumerable", "toString", "valueOf", "__proto__",
    "toLocaleString"]

/-- The devices under their aliases; none if a `TypeError` is thrown. -/
def applyStreamDeviceAliases (devices : List StreamDeviceOption)
    (aliases : List (String × String)) : Option (List StreamDeviceOption) :=
  devices.mapM fun device =>
    match aliases.lookup device.id with
    | some text =>
      let name := String.ofList (EcmaNumber.trim text.toList)
      some (if name ≠ "" then { device with name } else device)
    | none => if device.id ∈ inheritedNames then none else some device

def markOnlineStreamsDegraded (streams : List DashboardStreamSlot) : List DashboardStreamSlot :=
  streams.map fun stream =>
    if stream.status = .online then { stream with status := .degraded } else stream

/-- A call of a state setter, with the updater that it is given. -/
inductive SetterCall where
  | setStreamDevices (update : List StreamDeviceOption → List StreamDeviceOption)
  | setStreams (update : List DashboardStreamSlot → List DashboardStreamSlot)

/-- How `fetchDevices` ends: with devices, with an `AuthApiError` of status 401, in which case
`onAuthFailure` may throw itself, or with any other error. -/
inductive Answer where
  | devices (devices : List StreamDeviceOption)
  | unauthorized (onAuthFailureThrows : Bool)
  | error

inductive Outcome where
  | succeeded
  | failed
  | thrown
  deriving DecidableEq

/-- What `refreshStreamDevicesOnce` does when its request has ended. -/
structure Refreshed where
  setterCalls : List SetterCall := []
  stopPolling : Bool := false
  onAuthFailure : Bool := false
  outcome : Outcome

def refreshStreamDevicesOnce (preferences : StreamPreferencesSnapshot) (answer : Answer)
    (isCurrent : Bool) : Refreshed :=
  let failure : Refreshed :=
    if isCurrent then { setterCalls := [.setStreams markOnlineStreamsDegraded], outcome := .failed }
    else { outcome := .failed }
  match answer with
  | .devices devices =>
    match applyStreamDeviceAliases devices preferences.deviceAliases with
    | none => failure
    | some devices =>
      if isCurrent then {
        setterCalls := [
          .setStreamDevices fun current =>
            if areStreamDevicesEqual current devices then current else devices,
          .setStreams fun current =>
            let merged := mergeStreamSlotsWithDevices current devices
            if areStreamSlotsEqual current merged then current else merged]
        outcome := .succeeded }
      else { outcome := .failed }
  | .unauthorized throws =>
    if isCurrent then {
      stopPolling := true
      onAuthFailure := true
      outcome := if throws then .thrown else .failed }
    else { outcome := .failed }
  | .error => failure

/-! ## The polling -/

def STREAM_POLL_INTERVAL_MS : ℕ := 3000

def STREAM_POLL_MAX_BACKOFF_MS : ℕ := 60000

def shouldSkipStreamRefresh (isMounted stopped inFlight hidden : Bool) : Bool :=
  !isMounted || stopped || inFlight || hidden

structure Timer where
  id : ℕ
  delay : ℕ

/-- A refresh that `refreshStreams` awaits, with the preferences at its start. Its outcome is none
until its request has ended. -/
structure Request where
  id : ℕ
  preferences : StreamPreferencesSnapshot
  outcome : Option Outcome

/-- The variables of `startStreamDevicePolling`, with the page, the timers that will fire, the
refreshes that are awaited, and the calls of the state setters and of `onAuthFailure` so far. -/
structure Polling where
  latestInput : StreamPreferencesSnapshot
  hidden : Bool
  listening : Bool
  active : Bool
  stopped : Bool
  inFlight : Bool
  consecutiveFailures : ℕ
  timeoutId : Option ℕ
  timers : List Timer
  requests : List Request
  /-- The number of timers and requests so far. -/
  created : ℕ
  setterCalls : List SetterCall
  authFailures : ℕ

namespace Polling

def clearTimeout (p : Polling) : Polling :=
  match p.timeoutId with
  | none => p
  | some id => { p with timers := p.timers.filter (·.id ≠ id) }

def setTimeout (p : Polling) (delay : ℕ) : Polling :=
  { p with
    timeoutId := some p.created
    timers := p.timers ++ [{ id := p.created, delay }]
    created := p.created + 1 }

/-- `refreshStreams` until it awaits the refresh. -/
def refreshStreams (p : Polling) : Polling :=
  if shouldSkipStreamRefresh p.active p.stopped p.inFlight p.hidden then p
  else { p with
    inFlight := true
    requests := p.requests ++ [{ id := p.created, preferences := p.latestInput, outcome := none }]
    created := p.created + 1 }

/-- `refreshStreams` after the refresh. -/
def afterRefresh (p : Polling) (outcome : Outcome) : Polling :=
  let p := { p with
    inFlight := false
    consecutiveFailures := match outcome with
      | .succeeded => 0
      | .failed => p.consecutiveFailures + 1
      | .thrown => p.consecutiveFailures }
  if outcome ≠ .thrown ∧ p.active ∧ !p.stopped then
    p.setTimeout (min (STREAM_POLL_INTERVAL_MS * 2 ^ p.consecutiveFailures)
      STREAM_POLL_MAX_BACKOFF_MS)
  else p

def handleVisibilityChange (p : Polling) : Polling :=
  if p.hidden || p.stopped then p
  else { p.clearTimeout with timeoutId := none }.refreshStreams

/-- The function that `startStreamDevicePolling` returns. -/
def dispose (p : Polling) : Polling :=
  { { p with active := false }.clearTimeout with listening := false }

end Polling

def startStreamDevicePolling (latestInput : StreamPreferencesSnapshot) (hidden : Bool) : Polling :=
  Polling.refreshStreams
    { latestInput, hidden, listening := true, active := true, stopped := false, inFlight := false,
      consecutiveFailures := 0, timeoutId := none, timers := [], requests := [], created := 0,
      setterCalls := [], authFailures := 0 }

/-! ## Interleavings -/

inductive Action where
  | render (preferences : StreamPreferencesSnapshot)
  | visibilityChange (hidden : Bool)
  | fire (id : ℕ)
  | answer (id : ℕ) (answer : Answer)
  | resume (id : ℕ)
  | dispose

namespace Polling

/-- The timer fires, unless it was cleared. -/
def fire (p : Polling) (id : ℕ) : Polling :=
  if p.timers.any (·.id = id) then
    { p with timers := p.timers.filter (·.id ≠ id) }.refreshStreams
  else p

/-- The request that waits for an answer under an id. -/
def waiting (p : Polling) (id : ℕ) : Option Request :=
  p.requests.find? fun request => request.id = id ∧ request.outcome = none

/-- The request ends, and the refresh with it. -/
def answer (p : Polling) (id : ℕ) (answer : Answer) : Polling :=
  match p.waiting id with
  | none => p
  | some request =>
    let refreshed :=
      refreshStreamDevicesOnce request.preferences answer (p.active && !p.stopped)
    { p with
      stopped := p.stopped || refreshed.stopPolling
      setterCalls := p.setterCalls ++ refreshed.setterCalls
      authFailures := p.authFailures + refreshed.onAuthFailure.toNat
      requests := p.requests.map fun r =>
        if r.id = id then { r with outcome := some refreshed.outcome } else r }

/-- `refreshStreams` goes on after a refresh that has ended. -/
def resume (p : Polling) (id : ℕ) : Polling :=
  match (p.requests.find? (·.id = id)).bind (·.outcome) with
  | none => p
  | some outcome => { p with requests := p.requests.filter (·.id ≠ id) }.afterRefresh outcome

def step (p : Polling) : Action → Polling
  | .render preferences => { p with latestInput := preferences }
  | .visibilityChange hidden =>
    if p.listening then { p with hidden }.handleVisibilityChange else { p with hidden }
  | .fire id => p.fire id
  | .answer id answer => p.answer id answer
  | .resume id => p.resume id
  | .dispose => p.dispose

def run (p : Polling) (acts : List Action) : Polling := acts.foldl step p

end Polling

/-- The polling is disposed of, or a request is answered with 401. -/
def Action.Ends (p : Polling) : Action → Prop
  | .dispose => True
  | .answer id (.unauthorized _) => (p.waiting id).isSome = true
  | _ => False

/-- What should hold after what has happened. A refresh is among the requests from its request until
`refreshStreams` has gone on after it. -/
structure Sound (start : Polling) (acts : List Action) : Prop where
  oneRequest : (start.run acts).requests.length ≤ 1
  oneTimer : (start.run acts).timers.length ≤ 1
  alive : (start.run acts).active = true → (start.run acts).stopped = false →
    (start.run acts).hidden = false →
    (start.run acts).requests ≠ [] ∨ (start.run acts).timers ≠ []
  quiet : ∀ before a after, acts = before ++ a :: after → a.Ends (start.run before) →
    (start.run acts).setterCalls = (start.run before).setterCalls

/-! ## Phases -/

/-- Nothing is to come, a timer will fire, or a refresh is awaited. -/
inductive Phase where
  | idle
  | timed (timer : Timer)
  | refreshing (request : Request)

namespace Polling

def At (p : Polling) : Phase → Prop
  | .idle => p.inFlight = false ∧ p.requests = [] ∧ p.timers = []
  | .timed timer => p.inFlight = false ∧ p.requests = [] ∧ p.timers = [timer] ∧
      p.timeoutId = some timer.id
  | .refreshing request => p.inFlight = true ∧ p.requests = [request] ∧ p.timers = []

/-- The polling is to go on. -/
def Live (p : Polling) : Prop := p.active = true ∧ p.stopped = false

/-- A live polling of a visible page is not idle, one that has ended has no timer, and a refresh
throws only where it ends the polling. -/
def Fits (p : Polling) : Phase → Prop
  | .idle => p.Live → p.hidden = true
  | .timed _ => p.Live
  | .refreshing request => request.outcome = some .thrown → p.stopped = true

structure Invariant (p : Polling) : Prop where
  phase : ∃ phase, p.At phase ∧ p.Fits phase
  listening : p.listening = p.active
  reported : p.authFailures = p.stopped.toNat

/-! ## What timers and requests leave -/

/-- What only an answer and the disposal change. -/
def verdict (p : Polling) : Bool × Bool × Bool × List SetterCall × ℕ :=
  (p.listening, p.active, p.stopped, p.setterCalls, p.authFailures)

@[simp] theorem verdict_clearTimeout (p : Polling) : p.clearTimeout.verdict = p.verdict := by
  unfold clearTimeout
  split <;> rfl

@[simp] theorem verdict_refreshStreams (p : Polling) : p.refreshStreams.verdict = p.verdict := by
  unfold refreshStreams
  split <;> rfl

@[simp] theorem verdict_afterRefresh (p : Polling) (outcome : Outcome) :
    (p.afterRefresh outcome).verdict = p.verdict := by
  unfold afterRefresh
  dsimp only
  split <;> rfl

theorem verdict_visibilityChange (p : Polling) (hidden : Bool) :
    (p.step (.visibilityChange hidden)).verdict = p.verdict := by
  unfold step handleVisibilityChange
  dsimp only
  split
  · split
    · rfl
    · rw [verdict_refreshStreams]
      exact verdict_clearTimeout { p with hidden }
  · rfl

theorem verdict_fire (p : Polling) (id : ℕ) : (p.fire id).verdict = p.verdict := by
  unfold fire
  split
  · exact verdict_refreshStreams _
  · rfl

theorem verdict_resume (p : Polling) (id : ℕ) : (p.resume id).verdict = p.verdict := by
  unfold resume
  split
  · rfl
  · exact verdict_afterRefresh _ _

theorem Invariant.of_verdict {p q : Polling} (h : p.Invariant) (hverdict : q.verdict = p.verdict)
    (hphase : ∃ phase, q.At phase ∧ q.Fits phase) : q.Invariant := by
  simp only [verdict, Prod.mk.injEq] at hverdict
  obtain ⟨hlistening, hactive, hstopped, -, hreported⟩ := hverdict
  exact ⟨hphase, by rw [hlistening, hactive, h.listening],
    by rw [hreported, hstopped, h.reported]⟩

/-! ## What every step keeps -/

theorem At.refreshStreams {p : Polling} (h : p.At .idle) :
    ∃ phase, p.refreshStreams.At phase ∧ p.refreshStreams.Fits phase := by
  obtain ⟨hflight, hrequests, htimers⟩ := h
  unfold Polling.refreshStreams
  split
  next hskip =>
    refine ⟨.idle, ⟨hflight, hrequests, htimers⟩, fun hlive => ?_⟩
    simpa [shouldSkipStreamRefresh, hlive.1, hlive.2, hflight] using hskip
  next =>
    refine ⟨.refreshing { id := p.created, preferences := p.latestInput, outcome := none },
      ⟨rfl, ?_, htimers⟩, nofun⟩
    dsimp only
    rw [hrequests, List.nil_append]

theorem refreshStreams_of_inFlight {p : Polling} (h : p.inFlight = true) :
    p.refreshStreams = p := by
  unfold Polling.refreshStreams
  rw [if_pos (by simp [shouldSkipStreamRefresh, h])]

theorem clearTimeout_of_nil {p : Polling} (h : p.timers = []) :
    p.clearTimeout = { p with timers := [] } := by
  unfold clearTimeout
  split
  · rw [← h]
  · rw [h, List.filter_nil]

/-- A timer that will fire is the one that `timeoutId` is of. -/
theorem At.clearTimeout {p : Polling} {phase : Phase} (h : p.At phase) :
    p.clearTimeout = { p with timers := [] } := by
  cases phase with
  | idle => exact clearTimeout_of_nil h.2.2
  | refreshing request => exact clearTimeout_of_nil h.2.2
  | timed timer =>
      obtain ⟨-, -, htimers, hid⟩ := h
      simp [Polling.clearTimeout, htimers, hid]

theorem Invariant.render {p : Polling} (h : p.Invariant) (preferences : StreamPreferencesSnapshot) :
    (p.step (.render preferences)).Invariant := by
  obtain ⟨phase, hat, hfits⟩ := h.phase
  exact h.of_verdict rfl ⟨phase, by cases phase <;> exact hat, by cases phase <;> exact hfits⟩

theorem Invariant.visibilityChange {p : Polling} (h : p.Invariant) (hidden : Bool) :
    (p.step (.visibilityChange hidden)).Invariant := by
  refine h.of_verdict (p.verdict_visibilityChange hidden) ?_
  obtain ⟨phase, hat, hfits⟩ := h.phase
  have hat' : { p with hidden }.At phase := by cases phase <;> exact hat
  unfold step handleVisibilityChange
  dsimp only
  split
  next hlistening =>
    split
    next hskip =>
      refine ⟨phase, hat', ?_⟩
      cases phase with
      | idle =>
          intro hlive
          have hstopped : p.stopped = false := hlive.2
          simpa [hstopped] using hskip
      | timed timer => exact hfits
      | refreshing request => exact hfits
    next hskip =>
      rw [hat'.clearTimeout]
      cases phase with
      | idle => exact At.refreshStreams ⟨hat.1, hat.2.1, rfl⟩
      | timed timer => exact At.refreshStreams ⟨hat.1, hat.2.1, rfl⟩
      | refreshing request =>
          rw [refreshStreams_of_inFlight (by exact hat.1)]
          exact ⟨.refreshing request, ⟨hat.1, hat.2.1, rfl⟩, hfits⟩
  next hlistening =>
    refine ⟨phase, hat', ?_⟩
    cases phase with
    | idle => exact fun hlive => absurd (h.listening.trans hlive.1) hlistening
    | timed timer => exact hfits
    | refreshing request => exact hfits

theorem Invariant.fire {p : Polling} (h : p.Invariant) (id : ℕ) : (p.fire id).Invariant := by
  refine h.of_verdict (p.verdict_fire id) ?_
  obtain ⟨phase, hat, hfits⟩ := h.phase
  unfold Polling.fire
  split
  next hfires =>
    cases phase with
    | idle => simp [hat.2.2] at hfires
    | refreshing request => simp [hat.2.2] at hfires
    | timed timer =>
        have hid : timer.id = id := by simpa [hat.2.2.1] using hfires
        refine At.refreshStreams ⟨hat.1, hat.2.1, ?_⟩
        simp [hat.2.2.1, hid]
  next => exact ⟨phase, hat, hfits⟩

theorem Invariant.dispose {p : Polling} (h : p.Invariant) : p.dispose.Invariant := by
  obtain ⟨phase, hat, hfits⟩ := h.phase
  have hat' : { p with active := false }.At phase := by cases phase <;> exact hat
  unfold Polling.dispose
  rw [hat'.clearTimeout]
  refine ⟨?_, rfl, h.reported⟩
  cases phase with
  | idle => exact ⟨.idle, ⟨hat.1, hat.2.1, rfl⟩, fun hlive => absurd hlive.1 Bool.false_ne_true⟩
  | timed timer =>
      exact ⟨.idle, ⟨hat.1, hat.2.1, rfl⟩, fun hlive => absurd hlive.1 Bool.false_ne_true⟩
  | refreshing request => exact ⟨.refreshing request, ⟨hat.1, hat.2.1, rfl⟩, hfits⟩

theorem At.setTimeout {p : Polling} (h : p.At .idle) (hlive : p.Live) (delay : ℕ) :
    ∃ phase, (p.setTimeout delay).At phase ∧ (p.setTimeout delay).Fits phase := by
  obtain ⟨hflight, hrequests, htimers⟩ := h
  refine ⟨.timed { id := p.created, delay }, ⟨hflight, hrequests, ?_, rfl⟩, hlive⟩
  rw [Polling.setTimeout, htimers, List.nil_append]

theorem At.afterRefresh {p : Polling} {outcome : Outcome} (hrequests : p.requests = [])
    (htimers : p.timers = []) (hthrown : outcome = .thrown → p.stopped = true) :
    ∃ phase, (p.afterRefresh outcome).At phase ∧ (p.afterRefresh outcome).Fits phase := by
  unfold Polling.afterRefresh
  dsimp only
  split
  next hnext =>
    refine At.setTimeout ?_ ?_ _
    · exact ⟨rfl, hrequests, htimers⟩
    · exact ⟨hnext.2.1, (Bool.not_eq_eq_eq_not ..).1 hnext.2.2⟩
  next hend =>
    refine ⟨.idle, ⟨rfl, hrequests, htimers⟩, fun hlive => absurd ⟨fun heq => ?_, hlive.1, ?_⟩ hend⟩
    · exact Bool.false_ne_true (hlive.2.symm.trans (hthrown heq))
    · exact congrArg (!·) hlive.2

theorem refreshed_thrown {preferences : StreamPreferencesSnapshot} {answer : Answer}
    {isCurrent : Bool}
    (h : (refreshStreamDevicesOnce preferences answer isCurrent).outcome = .thrown) :
    (refreshStreamDevicesOnce preferences answer isCurrent).stopPolling = true := by
  unfold refreshStreamDevicesOnce at h ⊢
  dsimp only at h ⊢
  split at h
  next => split at h <;> split at h <;> cases h
  next =>
    split at h
    next hcurrent => rw [if_pos hcurrent]
    next => cases h
  next => split at h <;> cases h

/-- A failure of the authentication is reported where the polling is stopped for it. -/
theorem refreshed_onAuthFailure (preferences : StreamPreferencesSnapshot) (answer : Answer)
    (isCurrent : Bool) :
    (refreshStreamDevicesOnce preferences answer isCurrent).onAuthFailure =
      (refreshStreamDevicesOnce preferences answer isCurrent).stopPolling := by
  unfold refreshStreamDevicesOnce
  dsimp only
  split
  next => split <;> split <;> rfl
  next => split <;> rfl
  next => split <;> rfl

/-- A refresh that is no longer current does nothing. -/
theorem refreshed_of_not_current (preferences : StreamPreferencesSnapshot) (answer : Answer) :
    refreshStreamDevicesOnce preferences answer false = { outcome := .failed } := by
  unfold refreshStreamDevicesOnce
  dsimp only
  split
  next => split <;> rfl
  next => rfl
  next => rfl

theorem waiting_eq_some {p : Polling} {id : ℕ} {request : Request}
    (h : p.waiting id = some request) : request ∈ p.requests ∧ request.id = id := by
  have hfound := List.find?_some h
  exact ⟨List.mem_of_find?_eq_some h, (of_decide_eq_true hfound).1⟩

theorem Invariant.answer {p : Polling} (h : p.Invariant) (id : ℕ) (answer : Answer) :
    (p.answer id answer).Invariant := by
  unfold Polling.answer
  split
  next => exact h
  next request hwaiting =>
    obtain ⟨hmem, hid⟩ := waiting_eq_some hwaiting
    have hreported : p.authFailures + (refreshStreamDevicesOnce request.preferences answer
        (p.active && !p.stopped)).onAuthFailure.toNat =
        (p.stopped || (refreshStreamDevicesOnce request.preferences answer
          (p.active && !p.stopped)).stopPolling).toNat := by
      rw [refreshed_onAuthFailure, h.reported]
      cases hstopped : p.stopped with
      | false => exact Nat.zero_add _
      | true => rw [Bool.not_true, Bool.and_false, refreshed_of_not_current]; rfl
    refine ⟨?_, h.listening, hreported⟩
    obtain ⟨phase, hat, hfits⟩ := h.phase
    cases phase with
    | idle => simp [hat.2.1] at hmem
    | timed timer => simp [hat.2.1] at hmem
    | refreshing awaited =>
        obtain ⟨hflight, hrequests, htimers⟩ := hat
        rw [hrequests, List.mem_singleton] at hmem
        subst hmem
        let refreshed :=
          refreshStreamDevicesOnce request.preferences answer (p.active && !p.stopped)
        refine ⟨.refreshing { request with outcome := some refreshed.outcome },
          ⟨hflight, ?_, htimers⟩, ?_⟩
        · simp [hrequests, hid, refreshed]
        · intro hthrown
          dsimp only
          rw [refreshed_thrown (Option.some.inj hthrown), Bool.or_true]

theorem Invariant.resume {p : Polling} (h : p.Invariant) (id : ℕ) : (p.resume id).Invariant := by
  refine h.of_verdict (p.verdict_resume id) ?_
  obtain ⟨phase, hat, hfits⟩ := h.phase
  unfold Polling.resume
  split
  next => exact ⟨phase, hat, hfits⟩
  next outcome hended =>
    obtain ⟨request, hfind, houtcome⟩ := Option.bind_eq_some_iff.1 hended
    have hmem := List.mem_of_find?_eq_some hfind
    have hfound := List.find?_some hfind
    have hid : request.id = id := of_decide_eq_true hfound
    cases phase with
    | idle => simp [hat.2.1] at hmem
    | timed timer => simp [hat.2.1] at hmem
    | refreshing awaited =>
        obtain ⟨-, hrequests, htimers⟩ := hat
        rw [hrequests, List.mem_singleton] at hmem
        subst hmem
        refine At.afterRefresh ?_ htimers fun hthrown => hfits (hthrown ▸ houtcome)
        simp [hrequests, hid]

theorem Invariant.step {p : Polling} (h : p.Invariant) (a : Action) : (p.step a).Invariant := by
  cases a with
  | render preferences => exact h.render preferences
  | visibilityChange hidden => exact h.visibilityChange hidden
  | fire id => exact h.fire id
  | answer id answer => exact h.answer id answer
  | resume id => exact h.resume id
  | dispose => exact h.dispose

theorem Invariant.run {p : Polling} (h : p.Invariant) (acts : List Action) :
    (p.run acts).Invariant := by
  induction acts generalizing p with
  | nil => exact h
  | cons a acts ih => exact ih (h.step a)

end Polling

theorem startStreamDevicePolling_invariant (latestInput : StreamPreferencesSnapshot)
    (hidden : Bool) : (startStreamDevicePolling latestInput hidden).Invariant := by
  cases hidden with
  | true => exact ⟨⟨.idle, ⟨rfl, rfl, rfl⟩, fun _ => rfl⟩, rfl, rfl⟩
  | false => exact ⟨⟨.refreshing _, ⟨rfl, rfl, rfl⟩, nofun⟩, rfl, rfl⟩

/-! ## The end of the polling -/

namespace Polling

theorem dispose_ended (p : Polling) : (p.dispose.active && !p.dispose.stopped) = false ∧
    p.dispose.setterCalls = p.setterCalls := by
  have hverdict := verdict_clearTimeout { p with active := false }
  simp only [verdict, Prod.mk.injEq] at hverdict
  obtain ⟨-, hactive, -, hcalls, -⟩ := hverdict
  refine ⟨?_, hcalls⟩
  unfold dispose
  dsimp only
  rw [hactive, Bool.false_and]

/-- A polling that has ended stays so, and calls no state setter. -/
theorem ended_step {p : Polling} (h : (p.active && !p.stopped) = false) (a : Action) :
    ((p.step a).active && !(p.step a).stopped) = false ∧
      (p.step a).setterCalls = p.setterCalls := by
  have of_verdict : ∀ {q : Polling}, q.verdict = p.verdict →
      (q.active && !q.stopped) = false ∧ q.setterCalls = p.setterCalls := by
    intro q hverdict
    simp only [verdict, Prod.mk.injEq] at hverdict
    obtain ⟨-, hactive, hstopped, hcalls, -⟩ := hverdict
    exact ⟨by rw [hactive, hstopped, h], hcalls⟩
  cases a with
  | render preferences => exact of_verdict rfl
  | visibilityChange hidden => exact of_verdict (p.verdict_visibilityChange hidden)
  | fire id => exact of_verdict (p.verdict_fire id)
  | resume id => exact of_verdict (p.verdict_resume id)
  | dispose => exact p.dispose_ended
  | answer id answer =>
      unfold step Polling.answer
      dsimp only
      split
      next => exact ⟨h, rfl⟩
      next request =>
        rw [h, refreshed_of_not_current]
        exact ⟨by rw [Bool.or_false, h], List.append_nil _⟩

theorem ended_run {p : Polling} (h : (p.active && !p.stopped) = false) (acts : List Action) :
    (p.run acts).setterCalls = p.setterCalls := by
  induction acts generalizing p with
  | nil => rfl
  | cons a acts ih =>
      obtain ⟨hended, hcalls⟩ := ended_step h a
      exact (ih hended).trans hcalls

/-- The disposal and an answer with 401 end the polling, and call no state setter either. -/
theorem ended_of_ends {p : Polling} {a : Action} (h : a.Ends p) :
    ((p.step a).active && !(p.step a).stopped) = false ∧
      (p.step a).setterCalls = p.setterCalls := by
  cases hlive : p.active && !p.stopped with
  | false => exact ended_step hlive a
  | true =>
      cases a with
      | dispose => exact p.dispose_ended
      | answer id answer =>
          cases answer with
          | unauthorized throws =>
              obtain ⟨request, hwaiting⟩ := Option.isSome_iff_exists.1 h
              have hstep : p.step (.answer id (.unauthorized throws)) =
                  p.answer id (.unauthorized throws) := rfl
              rw [hstep, Polling.answer, hwaiting]
              dsimp only
              rw [hlive]
              exact ⟨by simp [refreshStreamDevicesOnce], List.append_nil _⟩
          | devices devices => cases h
          | error => cases h
      | render preferences => cases h
      | visibilityChange hidden => cases h
      | fire id => cases h
      | resume id => cases h

end Polling

/-- Over every interleaving the polling has one request and one timer at most, a live one of a
visible page has one of the two, and nothing is set once it has ended. -/
theorem polling_sound (latestInput : StreamPreferencesSnapshot) (hidden : Bool)
    (acts : List Action) : Sound (startStreamDevicePolling latestInput hidden) acts := by
  have hinv := (startStreamDevicePolling_invariant latestInput hidden).run acts
  obtain ⟨phase, hat, hfits⟩ := hinv.phase
  refine ⟨?_, ?_, fun hactive hstopped hvisible => ?_, fun before a after hacts hends => ?_⟩
  · cases phase with
    | idle => simp [hat.2.1]
    | timed timer => simp [hat.2.1]
    | refreshing request => simp [hat.2.1]
  · cases phase with
    | idle => simp [hat.2.2]
    | timed timer => simp [hat.2.2.1]
    | refreshing request => simp [hat.2.2]
  · cases phase with
    | idle => exact absurd (hvisible.symm.trans (hfits ⟨hactive, hstopped⟩)) Bool.false_ne_true
    | timed timer => exact .inr (by simp [hat.2.2.1])
    | refreshing request => exact .inl (by simp [hat.2.1])
  · obtain ⟨hended, hcalls⟩ := Polling.ended_of_ends hends
    rw [hacts, Polling.run, List.foldl_append, List.foldl_cons]
    exact (Polling.ended_run hended after).trans hcalls

theorem authFailure_reported_once (latestInput : StreamPreferencesSnapshot) (hidden : Bool)
    (acts : List Action) :
    ((startStreamDevicePolling latestInput hidden).run acts).authFailures ≤ 1 := by
  rw [((startStreamDevicePolling_invariant latestInput hidden).run acts).reported]
  exact Bool.toNat_le _

end GcsSaker.StreamDevicePolling
