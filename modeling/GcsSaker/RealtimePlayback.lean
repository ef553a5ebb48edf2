import GcsSaker.Runs
import Mathlib.Data.List.Induction

/-!
# Realtime playback of a stream

The state of a player that prefers WebRTC, retries it after a delay, and falls back to HLS.
-/

namespace GcsSaker.RealtimePlayback

inductive RealtimePlayerMode where
  | loading
  | webrtc
  | reconnecting
  | hls
  | offline
  | error
  deriving DecidableEq

inductive StreamRuntimeStatus where
  | registered
  | online
  | offline
  | unknown
  deriving DecidableEq

structure StreamPlaybackUrls where
  webrtc : Option String
  hls : Option String

structure StreamPlaybackResponse where
  streamId : String
  status : StreamRuntimeStatus
  playbackUrls : StreamPlaybackUrls

/-- The value is neither null nor empty. -/
def isPresent : Option String → Bool
  | some url => url ≠ ""
  | none => false

/-! ## URLs -/

/-- What is read of an object of the class `URL`. -/
structure Url where
  href : String
  origin : String
  protocol : String
  hostname : String
  pathname : String
  search : String
  hash : String

/-- The page and the URL parser of a browser. -/
structure Browser where
  /-- `window.location.href`, none where there is no window. -/
  href : Option String
  /-- `new URL(url, base)`, none if a `TypeError` is thrown. -/
  parse : String → Option String → Option Url
  /-- The URL after its `protocol` was set. -/
  withProtocol : Url → String → Url

def LOCAL_MEDIA_HOSTS : List String := ["localhost", "127.0.0.1", "::1"]

section

variable (browser : Browser)

/-- none if a `TypeError` is thrown. -/
def normalizeBrowserMediaUrl (url : Option String) (pageHref : Option String) :
    Option (Option String) :=
  match url.filter (· ≠ ""), browser.href with
  | some media, some href => do
    let pageUrl ← browser.parse (pageHref.getD href) none
    let mediaUrl ← browser.parse media (some pageUrl.href)
    let isLocalMediaUrl := mediaUrl.hostname ∈ LOCAL_MEDIA_HOSTS
    let isLocalPage := pageUrl.hostname ∈ LOCAL_MEDIA_HOSTS
    if isLocalMediaUrl ∧ ¬isLocalPage then
      return some (pageUrl.origin ++ mediaUrl.pathname ++ mediaUrl.search ++ mediaUrl.hash)
    else if pageUrl.protocol = "https:" ∧ mediaUrl.protocol = "http:" ∧
        mediaUrl.hostname = pageUrl.hostname then
      return some (browser.withProtocol mediaUrl "https:").href
    else return url
  | _, _ => return url

def normalizePlaybackResponse (playback : StreamPlaybackResponse) :
    Option StreamPlaybackResponse := do
  let webrtc ← normalizeBrowserMediaUrl browser playback.playbackUrls.webrtc none
  let hls ← normalizeBrowserMediaUrl browser playback.playbackUrls.hls none
  return { playback with playbackUrls := { webrtc, hls } }

end

/-! ## Reconnecting -/

def getNextWebRTCRetryDelay (completedAttempts : ℕ) (delaysMs : List Float) : Option Float :=
  delaysMs[completedAttempts]?

def shouldFallbackAfterWebRTCRetry (completedAttempts : ℕ) (delaysMs : List Float) : Bool :=
  (getNextWebRTCRetryDelay completedAttempts delaysMs).isNone

/-! ## The reducer -/

inductive RealtimePlaybackAction where
  | loading
  | loaded (playback : StreamPlaybackResponse)
  | useWebRTC
  | useHLS (reason : String)
  | scheduleWebRTCRetry (reason : String) (reconnectDelaysMs : List Float)
  | retryWebRTC
  | offline (playback : StreamPlaybackResponse)
  | error (message : String) (streamStatus : Option StreamRuntimeStatus)

structure RealtimePlaybackState where
  mode : RealtimePlayerMode
  streamStatus : StreamRuntimeStatus
  errorMessage : Option String
  playback : Option StreamPlaybackResponse
  fallbackReason : String
  reconnectDelayMs : Option Float
  webrtcRetryAttempt : ℕ

def initialRealtimePlaybackState : RealtimePlaybackState where
  mode := .loading
  streamStatus := .unknown
  errorMessage := none
  playback := none
  fallbackReason := "WebRTC failed. Playing HLS fallback."
  reconnectDelayMs := none
  webrtcRetryAttempt := 0

/-- `state.playback?.playbackUrls.hls`, where it is looked at as a condition. -/
def RealtimePlaybackState.hasHls (state : RealtimePlaybackState) : Bool :=
  isPresent (state.playback.bind (·.playbackUrls.hls))

def loadedState (browser : Browser) (state : RealtimePlaybackState)
    (playback : StreamPlaybackResponse) : Option RealtimePlaybackState := do
  let normalizedPlayback ← normalizePlaybackResponse browser playback
  let webrtc ← normalizeBrowserMediaUrl browser playback.playbackUrls.webrtc none
  let hasWebRtcUrl := isPresent webrtc
  return { state with
    mode := if hasWebRtcUrl then .webrtc else .hls
    streamStatus := playback.status
    errorMessage := none
    playback := normalizedPlayback
    reconnectDelayMs := none
    webrtcRetryAttempt := 0
    fallbackReason := if hasWebRtcUrl then initialRealtimePlaybackState.fallbackReason
      else "WebRTC URL is unavailable. Playing HLS fallback." }

/-- The same fields are set when HLS is asked for and when no retry is left. -/
def fallbackState (state : RealtimePlaybackState) (reason : String) : RealtimePlaybackState :=
  { state with
    mode := if state.hasHls then .hls else .error
    errorMessage := if state.hasHls then none else some reason
    fallbackReason := reason
    reconnectDelayMs := none }

def scheduleWebRtcRetryState (state : RealtimePlaybackState) (reason : String)
    (reconnectDelaysMs : List Float) : RealtimePlaybackState :=
  if !state.hasHls ||
      shouldFallbackAfterWebRTCRetry state.webrtcRetryAttempt reconnectDelaysMs then
    fallbackState state reason
  else { state with
    mode := .reconnecting
    errorMessage := some reason
    fallbackReason := reason
    reconnectDelayMs := getNextWebRTCRetryDelay state.webrtcRetryAttempt reconnectDelaysMs }

/-- none if a `TypeError` is thrown. -/
def realtimePlaybackReducer (browser : Browser) (state : RealtimePlaybackState) :
    RealtimePlaybackAction → Option RealtimePlaybackState
  | .loading => some initialRealtimePlaybackState
  | .loaded playback => loadedState browser state playback
  | .useWebRTC => some { state with
      mode := .webrtc
      errorMessage := none
      reconnectDelayMs := none
      webrtcRetryAttempt := 0 }
  | .useHLS reason => some (fallbackState state reason)
  | .scheduleWebRTCRetry reason reconnectDelaysMs =>
    some (scheduleWebRtcRetryState state reason reconnectDelaysMs)
  | .retryWebRTC => some { state with
      mode := .webrtc
      errorMessage := none
      reconnectDelayMs := none
      webrtcRetryAttempt := state.webrtcRetryAttempt + 1 }
  | .offline playback => some { state with
      mode := .offline
      streamStatus := playback.status
      errorMessage := none
      playback := some playback
      reconnectDelayMs := none }
  | .error message streamStatus => some { state with
      mode := .error
      streamStatus := streamStatus.getD state.streamStatus
      errorMessage := some message }

/-- The state after some actions, none if one of them throws. -/
def run (browser : Browser) (acts : List RealtimePlaybackAction) : Option RealtimePlaybackState :=
  Runs.run (realtimePlaybackReducer browser) initialRealtimePlaybackState acts

/-! ## What should hold -/

def RealtimePlaybackAction.isRetry : RealtimePlaybackAction → Bool
  | .retryWebRTC => true
  | _ => false

/-- The action starts the count of retries again. -/
def RealtimePlaybackAction.restarts : RealtimePlaybackAction → Bool
  | .loading => true
  | .loaded _ => true
  | .useWebRTC => true
  | _ => false

/-- The number of retries since the last action that starts the count again. -/
def retries (acts : List RealtimePlaybackAction) : ℕ :=
  (acts.reverse.takeWhile (!·.restarts)).countP (·.isRetry)

/-- There is a delay while the player waits for a retry, and an HLS URL where it plays HLS. -/
structure Coherent (state : RealtimePlaybackState) : Prop where
  delay : state.reconnectDelayMs.isSome = true ↔ state.mode = .reconnecting
  hls : state.mode = .hls → state.hasHls = true

/-- What should hold of every state that is reached by actions. -/
structure Sound (acts : List RealtimePlaybackAction) (state : RealtimePlaybackState) : Prop where
  coherent : Coherent state
  attempts : state.webrtcRetryAttempt ≤ retries acts

/-- An error does not come while the player waits for a retry, and what is loaded has a URL. -/
def Allowed (browser : Browser) (state : RealtimePlaybackState) : RealtimePlaybackAction → Prop
  | .error _ _ => state.mode ≠ .reconnecting
  | .loaded playback => ∀ normalized, normalizePlaybackResponse browser playback = some normalized →
      isPresent normalized.playbackUrls.webrtc = true ∨ isPresent normalized.playbackUrls.hls = true
  | _ => True

/-! ## One action -/

theorem loadedState_eq_some {browser : Browser} {state next : RealtimePlaybackState}
    {playback : StreamPlaybackResponse} (h : loadedState browser state playback = some next) :
    ∃ normalized, normalizePlaybackResponse browser playback = some normalized ∧
      next.playback = some normalized ∧ next.reconnectDelayMs = none ∧
      next.webrtcRetryAttempt = 0 ∧
      next.mode = if isPresent normalized.playbackUrls.webrtc then .webrtc else .hls := by
  simp only [loadedState, Option.bind_eq_bind, Option.bind_eq_some_iff, Option.pure_def,
    Option.some.injEq] at h
  obtain ⟨normalized, hnormalized, webrtc, hwebrtc, rfl⟩ := h
  refine ⟨normalized, hnormalized, rfl, rfl, rfl, ?_⟩
  simp only [normalizePlaybackResponse, Option.bind_eq_bind, Option.bind_eq_some_iff,
    Option.pure_def, Option.some.injEq] at hnormalized
  obtain ⟨webrtc', hwebrtc', hls, -, rfl⟩ := hnormalized
  rw [hwebrtc, Option.some.injEq] at hwebrtc'
  rw [hwebrtc']

/-- The URLs are read in the same way a second time. -/
theorem loadedState_ne_none {browser : Browser} (state : RealtimePlaybackState)
    {playback normalized : StreamPlaybackResponse}
    (h : normalizePlaybackResponse browser playback = some normalized) :
    loadedState browser state playback ≠ none := by
  have hwebrtc := h
  simp only [normalizePlaybackResponse, Option.bind_eq_bind, Option.bind_eq_some_iff] at hwebrtc
  obtain ⟨webrtc, hwebrtc, -⟩ := hwebrtc
  simp [loadedState, h, hwebrtc]

theorem coherent_of_no_delay {state : RealtimePlaybackState}
    (hdelay : state.reconnectDelayMs = none) (hmode : state.mode ≠ .reconnecting) :
    Coherent state ↔ (state.mode = .hls → state.hasHls = true) := by
  refine ⟨fun h => h.hls, fun h => ⟨iff_of_false ?_ hmode, h⟩⟩
  rw [hdelay]
  exact Bool.false_ne_true

theorem coherent_of_other {state : RealtimePlaybackState} (hdelay : state.reconnectDelayMs = none)
    (hmode : state.mode ≠ .reconnecting) (hhls : state.mode ≠ .hls) : Coherent state :=
  (coherent_of_no_delay hdelay hmode).2 fun h => absurd h hhls

theorem coherent_fallbackState (state : RealtimePlaybackState) (reason : String) :
    Coherent (fallbackState state reason) := by
  refine (coherent_of_no_delay rfl ?_).2 fun h => ?_
  · unfold fallbackState
    dsimp only
    split <;> exact nofun
  · by_contra hhls
    have hmode : (fallbackState state reason).mode = .error := if_neg hhls
    cases hmode.symm.trans h

theorem coherent_scheduleWebRtcRetryState (state : RealtimePlaybackState) (reason : String)
    (reconnectDelaysMs : List Float) :
    Coherent (scheduleWebRtcRetryState state reason reconnectDelaysMs) := by
  unfold scheduleWebRtcRetryState
  split
  next => exact coherent_fallbackState state reason
  next hretry =>
    rw [Bool.or_eq_true, not_or, shouldFallbackAfterWebRTCRetry, Option.isNone_iff_eq_none]
      at hretry
    exact ⟨iff_of_true (Option.isSome_iff_ne_none.2 hretry.2) rfl, nofun⟩

/-- What an action leaves is coherent if and only if the action is allowed. -/
theorem coherent_iff_allowed {browser : Browser} {state next : RealtimePlaybackState}
    {action : RealtimePlaybackAction} (h : Coherent state)
    (hnext : realtimePlaybackReducer browser state action = some next) :
    Coherent next ↔ Allowed browser state action := by
  cases action with
  | loading =>
      obtain rfl := Option.some.inj hnext
      exact iff_of_true (coherent_of_other rfl (by rintro ⟨⟩) (by rintro ⟨⟩)) trivial
  | useWebRTC =>
      obtain rfl := Option.some.inj hnext
      exact iff_of_true (coherent_of_other rfl (by rintro ⟨⟩) (by rintro ⟨⟩)) trivial
  | retryWebRTC =>
      obtain rfl := Option.some.inj hnext
      exact iff_of_true (coherent_of_other rfl (by rintro ⟨⟩) (by rintro ⟨⟩)) trivial
  | offline playback =>
      obtain rfl := Option.some.inj hnext
      exact iff_of_true (coherent_of_other rfl (by rintro ⟨⟩) (by rintro ⟨⟩)) trivial
  | useHLS reason =>
      obtain rfl := Option.some.inj hnext
      exact iff_of_true (coherent_fallbackState state reason) trivial
  | scheduleWebRTCRetry reason reconnectDelaysMs =>
      obtain rfl := Option.some.inj hnext
      exact iff_of_true (coherent_scheduleWebRtcRetryState state reason reconnectDelaysMs) trivial
  | error message streamStatus =>
      -- The delay of a scheduled retry is left as it is.
      obtain rfl := Option.some.inj hnext
      rw [Allowed, ne_eq, ← h.delay]
      constructor
      · intro hcoherent hdelay
        cases hcoherent.delay.1 hdelay
      · exact fun hdelay => ⟨iff_of_false hdelay (by rintro ⟨⟩), by rintro ⟨⟩⟩
  | loaded playback =>
      have hloaded : loadedState browser state playback = some next := hnext
      obtain ⟨normalized, hnormalized, hplayback, hdelay, -, hmode⟩ := loadedState_eq_some hloaded
      have hhls : next.hasHls = isPresent normalized.playbackUrls.hls := by
        rw [RealtimePlaybackState.hasHls, hplayback, Option.bind_some]
      have hallowed : Allowed browser state (.loaded playback) ↔
          isPresent normalized.playbackUrls.webrtc = true ∨ next.hasHls = true := by
        rw [Allowed, hnormalized, hhls]
        simp only [Option.some.injEq, forall_eq']
      rw [hallowed]
      cases hwebrtc : isPresent normalized.playbackUrls.webrtc with
      | true =>
          have hmode' : next.mode = .webrtc := hmode.trans (if_pos hwebrtc)
          refine iff_of_true ((coherent_of_no_delay hdelay ?_).2 ?_) (.inl rfl) <;>
            · rw [hmode']
              rintro ⟨⟩
      | false =>
          have hmode' : next.mode = .hls := hmode.trans (if_neg (by rw [hwebrtc]; rintro ⟨⟩))
          rw [coherent_of_no_delay hdelay (by rw [hmode']; rintro ⟨⟩), hmode',
            or_iff_right Bool.false_ne_true]
          exact forall_prop_of_true rfl

/-- Only a response whose URLs cannot be read throws. -/
theorem allowed_of_thrown {browser : Browser} {state : RealtimePlaybackState}
    {action : RealtimePlaybackAction}
    (h : realtimePlaybackReducer browser state action = none) : Allowed browser state action := by
  cases action with
  | loaded playback =>
      intro normalized hnormalized
      exact absurd h (loadedState_ne_none state hnormalized)
  | error message streamStatus => cases h
  | _ => trivial

/-! ## Runs -/

theorem retries_concat (acts : List RealtimePlaybackAction) (action : RealtimePlaybackAction) :
    retries (acts ++ [action]) =
      if action.restarts then 0 else retries acts + action.isRetry.toNat := by
  rw [retries, List.reverse_append, List.reverse_singleton, List.singleton_append,
    List.takeWhile_cons]
  cases action.restarts with
  | true => rfl
  | false =>
      rw [Bool.not_false, if_pos rfl, List.countP_cons, if_neg Bool.false_ne_true]
      cases action.isRetry <;> rfl

theorem reducer_attempt {browser : Browser} {state next : RealtimePlaybackState}
    {action : RealtimePlaybackAction}
    (h : realtimePlaybackReducer browser state action = some next) :
    next.webrtcRetryAttempt =
      if action.restarts then 0 else state.webrtcRetryAttempt + action.isRetry.toNat := by
  cases action with
  | loaded playback =>
      have hloaded : loadedState browser state playback = some next := h
      obtain ⟨-, -, -, -, hattempt, -⟩ := loadedState_eq_some hloaded
      exact hattempt
  | scheduleWebRTCRetry reason reconnectDelaysMs =>
      obtain rfl := Option.some.inj h
      unfold scheduleWebRtcRetryState
      split <;> rfl
  | loading =>
      obtain rfl := Option.some.inj h
      rfl
  | useWebRTC =>
      obtain rfl := Option.some.inj h
      rfl
  | useHLS reason =>
      obtain rfl := Option.some.inj h
      rfl
  | retryWebRTC =>
      obtain rfl := Option.some.inj h
      rfl
  | offline playback =>
      obtain rfl := Option.some.inj h
      rfl
  | error message streamStatus =>
      obtain rfl := Option.some.inj h
      rfl

/-- The retries are counted exactly. -/
theorem run_attempt {browser : Browser} {acts : List RealtimePlaybackAction}
    {state : RealtimePlaybackState} (h : run browser acts = some state) :
    state.webrtcRetryAttempt = retries acts := by
  induction acts using List.reverseRecOn generalizing state with
  | nil =>
      obtain rfl := Option.some.inj h
      rfl
  | append_singleton acts action ih =>
      rw [run, Runs.run_append, Option.bind_eq_some_iff] at h
      obtain ⟨before, hbefore, h⟩ := h
      rw [Runs.run_cons, Option.bind_eq_some_iff] at h
      obtain ⟨after, hafter, h⟩ := h
      obtain rfl := Option.some.inj h
      rw [reducer_attempt hafter, ih hbefore, retries_concat]

/-- Every state that is reached is sound if and only if no error comes while the player waits for a
retry and everything that is loaded has a URL. -/
theorem sound_iff (browser : Browser) (acts : List RealtimePlaybackAction) :
    (∀ before, before <+: acts → ∀ state, run browser before = some state → Sound before state) ↔
      Runs.Along (realtimePlaybackReducer browser) (Allowed browser) initialRealtimePlaybackState
        acts := by
  have hcoherent : Coherent initialRealtimePlaybackState := coherent_of_other rfl nofun nofun
  rw [← Runs.forall_before_iff_along (fun _ _ _ h hnext => coherent_iff_allowed h hnext)
    (fun _ _ hthrown => allowed_of_thrown hthrown) hcoherent]
  refine forall₄_congr fun before hbefore state hrun => ⟨fun h => h.coherent, fun h => ⟨h, ?_⟩⟩
  exact Nat.le_of_eq (run_attempt hrun)

/-! ## Unsound runs -/

def pageUrl : Url where
  href := "https://gcs.example.test/"
  origin := "https://gcs.example.test"
  protocol := "https:"
  hostname := "gcs.example.test"
  pathname := "/"
  search := ""
  hash := ""

def mediaUrl : Url where
  href := "https://media.example.test/index.m3u8"
  origin := "https://media.example.test"
  protocol := "https:"
  hostname := "media.example.test"
  pathname := "/index.m3u8"
  search := ""
  hash := ""

/-- A page with one medium. -/
def page : Browser where
  href := some pageUrl.href
  parse url _ := [pageUrl, mediaUrl].find? (·.href = url)
  withProtocol url protocol := { url with protocol }

def playbackOf (webrtc hls : Option String) : StreamPlaybackResponse where
  streamId := "raw.local.webcam"
  status := .online
  playbackUrls := { webrtc, hls }

def errorWhileReconnecting : List RealtimePlaybackAction :=
  [.loaded (playbackOf none (some mediaUrl.href)),
    .scheduleWebRTCRetry "WebRTC disconnected" [500], .error "Playback API request failed" none]

def loadedWithoutUrls : List RealtimePlaybackAction := [.loaded (playbackOf none none)]

/-- An error keeps the delay of a retry, and HLS is played where nothing has a URL. -/
theorem playback_unsound :
    (¬∀ state, run page errorWhileReconnecting = some state →
      Sound errorWhileReconnecting state) ∧
    ¬∀ state, run page loadedWithoutUrls = some state → Sound loadedWithoutUrls state := by
  constructor
  · intro h
    have hdelay := (h _ rfl).coherent.delay
    exact absurd (hdelay.1 rfl) nofun
  · intro h
    have hhls := (h _ rfl).coherent.hls
    exact absurd (hhls rfl) nofun

end GcsSaker.RealtimePlayback
