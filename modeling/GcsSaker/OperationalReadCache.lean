import GcsSaker.OperationalPages
import GcsSaker.RefreshSessionStore
import GcsSaker.Runs
import GcsSaker.Sha256
import Mathlib.Algebra.Order.Ring.Unbundled.Rat

/-!
# The cache of stream sessions

`RedisOperationalReadRepository` keeps the first page of stream sessions under a key of the role and
the group of the reader, for a short time, and a second time for longer, to fall back on when the
delegate fails. A session that is recorded deletes the pages of two roles of its group. Redis may
refuse any single command.
-/

namespace GcsSaker.OperationalReadCache

open Groups (AuthenticatedPrincipal GroupId Thrown UserRole)
open OperationalReads (InMemoryOperationalReadRepository StreamSessionReadModel)
open RefreshSessions (roleName)

/-! ## What the cache is given -/

/-- Durations are in milliseconds. The values of doubles are rational numbers, and how their
products are rounded is left out. -/
structure RedisCachePolicy where
  keyPrefix : String
  ttl : ℤ
  staleKeyPrefix : String := keyPrefix ++ "stale:"
  staleTtl : ℤ := 12 * ttl
  ttlJitterRatio : ℚ := 0

namespace RedisCachePolicy

variable (policy : RedisCachePolicy)

def cacheable : Bool := decide (0 < policy.ttl)

def staleCacheable : Bool := decide (0 < policy.staleTtl)

def jitteredTtl (jitter : ℚ) : ℤ :=
  if !policy.cacheable || policy.ttlJitterRatio ≤ 0 then policy.ttl
  else
    let boundedJitter := max 0 (min jitter 1)
    let maxJitterMillis := max (policy.ttl * policy.ttlJitterRatio).floor 0
    policy.ttl + (maxJitterMillis * boundedJitter).floor

def OPERATIONAL_READ : RedisCachePolicy where
  keyPrefix := "gcs:ops-read:"
  ttl := 3000
  staleTtl := 30000
  ttlJitterRatio := 1 / 5

end RedisCachePolicy

/-- A repository with states in `σ`. -/
structure OperationalReadRepository (σ : Type) where
  recordStreamSession : StreamSessionReadModel → σ → Except Thrown StreamSessionReadModel × σ
  streamSessionsFor : σ → AuthenticatedPrincipal → ℤ → ℤ →
    Except Thrown (List StreamSessionReadModel)

/-- Readers of one role and group get the same answers, and a session that is recorded changes the
answers of none but those that its group concerns. -/
structure OperationalReadRepository.Lawful {σ : Type} (repository : OperationalReadRepository σ)
    (concerns : GroupId → AuthenticatedPrincipal → Prop) : Prop where
  sameScope : ∀ state principal principal', principal.role = principal'.role →
    principal.groupId = principal'.groupId →
      repository.streamSessionsFor state principal = repository.streamSessionsFor state principal'
  recorded : ∀ session state recorded,
    (repository.recordStreamSession session state).1 = .ok recorded →
      recorded.groupId = session.groupId
  unconcerned : ∀ session state principal, ¬ concerns session.groupId principal →
    repository.streamSessionsFor (repository.recordStreamSession session state).2 principal =
      repository.streamSessionsFor state principal
  failed : ∀ session state cause,
    (repository.recordStreamSession session state).1 = .error cause →
      (repository.recordStreamSession session state).2 = state

/-- The mapper of pages to texts; nothing is read where it throws. -/
structure ObjectMapper (Text : Type) where
  writeValueAsString : List StreamSessionReadModel → Text
  readValue : Text → Option (List StreamSessionReadModel)

def ObjectMapper.Lawful {Text : Type} (objectMapper : ObjectMapper Text) : Prop :=
  ∀ sessions, objectMapper.readValue (objectMapper.writeValueAsString sessions) = some sessions

/-- The commands of a call that fail. -/
structure Outages where
  get : Bool := false
  set : Bool := false
  getStale : Bool := false
  setStale : Bool := false
  deleteOperator : Bool := false
  deleteAdmin : Bool := false
  delegate : Option Thrown := none

structure State (σ Text : Type) where
  now : ℤ
  store : ExpiringStore ℤ String Text
  delegate : σ

structure RedisOperationalReadRepository (σ Text : Type) where
  delegate : OperationalReadRepository σ
  objectMapper : ObjectMapper Text
  policy : RedisCachePolicy

namespace RedisOperationalReadRepository

def DEFAULT_STREAM_SESSION_PAGE_SIZE : ℤ := 200

/-! ## Keys -/

def raw (groupId : GroupId) (role : UserRole) : String :=
  "stream-sessions|" ++ roleName role ++ "|" ++ groupId.value

def digest (groupId : GroupId) (role : UserRole) : String :=
  Sha256.hex (Sha256.digest (raw groupId role).toByteArray.data.toList)

def removePrefix (text start : String) : String :=
  if start.toList.isPrefixOf text.toList then String.ofList (text.toList.drop start.toList.length)
  else text

variable {σ Text : Type} (repository : RedisOperationalReadRepository σ Text)

def streamSessionCacheKey (groupId : GroupId) (role : UserRole) : String :=
  repository.policy.keyPrefix ++ digest groupId role

def staleCacheKey (key : String) : String :=
  repository.policy.staleKeyPrefix ++ removePrefix key repository.policy.keyPrefix

/-- The key of a reader. -/
def keyOf (principal : AuthenticatedPrincipal) : String :=
  repository.streamSessionCacheKey principal.groupId principal.role

/-! ## Calls -/

variable (outages : Outages) (state : State σ Text)

def readCachedStreamSessions (key : String) (outage : Bool) :
    Option (List StreamSessionReadModel) :=
  if outage then none
  else (state.store.live state.now key).bind fun entry =>
    repository.objectMapper.readValue entry.value

def writeCachedStreamSessions (key : String) (sessions : List StreamSessionReadModel)
    (jitter : ℚ) : ExpiringStore ℤ String Text :=
  let payload := repository.objectMapper.writeValueAsString sessions
  if outages.set then state.store
  else
    let store := state.store.set key payload (state.now + repository.policy.jitteredTtl jitter)
    if repository.policy.staleCacheable && !outages.setStale then
      store.set (repository.staleCacheKey key) payload (state.now + repository.policy.staleTtl)
    else store

def invalidateStreamSessionCache (groupId : GroupId) : ExpiringStore ℤ String Text :=
  let store := if outages.deleteOperator then state.store
    else state.store.erase (repository.streamSessionCacheKey groupId .operator)
  if outages.deleteAdmin then store
  else store.erase (repository.streamSessionCacheKey groupId .admin)

/-- What the delegate answers, unless it cannot be reached. -/
def delegateStreamSessionsFor (principal : AuthenticatedPrincipal) (limit offset : ℤ) :
    Except Thrown (List StreamSessionReadModel) :=
  match outages.delegate with
  | some cause => .error cause
  | none => repository.delegate.streamSessionsFor state.delegate principal limit offset

def recordStreamSession (session : StreamSessionReadModel) :
    Except Thrown StreamSessionReadModel × State σ Text :=
  match outages.delegate with
  | some cause => (.error cause, state)
  | none =>
    let (result, delegate) := repository.delegate.recordStreamSession session state.delegate
    match result with
    | .error cause => (.error cause, { state with delegate })
    | .ok recorded => (.ok recorded, { state with
        delegate
        store := repository.invalidateStreamSessionCache outages state recorded.groupId })

/-- A page that is not the first one of the default size is not kept. -/
def passesBy (limit offset : ℤ) : Bool :=
  !repository.policy.cacheable || limit ≠ DEFAULT_STREAM_SESSION_PAGE_SIZE || offset ≠ 0

def streamSessionsFor (principal : AuthenticatedPrincipal) (limit offset : ℤ) (jitter : ℚ) :
    Except Thrown (List StreamSessionReadModel) × State σ Text :=
  let answer := repository.delegateStreamSessionsFor outages state principal limit offset
  if repository.passesBy limit offset then (answer, state)
  else
    let key := repository.keyOf principal
    match repository.readCachedStreamSessions state key outages.get with
    | some sessions => (.ok sessions, state)
    | none =>
      match answer with
      | .ok sessions => (.ok sessions, { state with
          store := repository.writeCachedStreamSessions outages state key sessions jitter })
      | .error cause =>
        match repository.readCachedStreamSessions state (repository.staleCacheKey key)
          outages.getStale with
        | some sessions => (.ok sessions, state)
        | none => (.error cause, state)

/-! ## Runs -/

inductive Action where
  | pass (duration : ℕ)
  | recordStreamSession (session : StreamSessionReadModel) (outages : Outages)
  | streamSessionsFor (principal : AuthenticatedPrincipal) (limit offset : ℤ) (jitter : ℚ)
    (outages : Outages)

def Action.reader : Action → Option AuthenticatedPrincipal
  | .streamSessionsFor principal _ _ _ _ => some principal
  | _ => none

def next (state : State σ Text) : Action → State σ Text
  | .pass duration => { state with now := state.now + duration }
  | .recordStreamSession session outages =>
    (repository.recordStreamSession outages state session).2
  | .streamSessionsFor principal limit offset jitter outages =>
    (repository.streamSessionsFor outages state principal limit offset jitter).2

def step (state : State σ Text) (action : Action) : Option (State σ Text) :=
  some (repository.next state action)

/-- A call for sessions gets what the delegate would answer. -/
def Transparent (state : State σ Text) : Action → Prop
  | .streamSessionsFor principal limit offset jitter outages =>
    (repository.streamSessionsFor outages state principal limit offset jitter).1 =
      repository.delegateStreamSessionsFor outages state principal limit offset
  | _ => True

/-- The pages that are kept for readers whom a recorded session concerns are among the two that are
deleted, and the delegate answers the calls for pages that are kept. -/
def Covered (concerns : GroupId → AuthenticatedPrincipal → Prop) (state : State σ Text) :
    Action → Prop
  | .pass _ => True
  | .recordStreamSession session outages => outages.delegate = none →
    ∀ principal, concerns session.groupId principal → ∀ entry,
      state.store.live state.now (repository.keyOf principal) = some entry →
        repository.keyOf principal = repository.streamSessionCacheKey session.groupId .operator ∧
          outages.deleteOperator = false ∨
        repository.keyOf principal = repository.streamSessionCacheKey session.groupId .admin ∧
          outages.deleteAdmin = false
  | .streamSessionsFor principal limit offset _ outages =>
    repository.passesBy limit offset = false → ∃ sessions,
      repository.delegateStreamSessionsFor outages state principal limit offset = .ok sessions

/-- Readers of different roles or groups have different digests. -/
def DigestsDistinct (readers : List AuthenticatedPrincipal) : Prop :=
  ∀ principal ∈ readers, ∀ principal' ∈ readers,
    digest principal.groupId principal.role = digest principal'.groupId principal'.role →
      principal.role = principal'.role ∧ principal.groupId = principal'.groupId

/-- The pages that are kept are what the delegate would answer. -/
def Coherent (readers : List AuthenticatedPrincipal) (state : State σ Text) : Prop :=
  ∀ principal ∈ readers, ∀ entry sessions,
    state.store.live state.now (repository.keyOf principal) = some entry →
      repository.objectMapper.readValue entry.value = some sessions →
        repository.delegate.streamSessionsFor state.delegate principal
          DEFAULT_STREAM_SESSION_PAGE_SIZE 0 = .ok sessions

/-! ## Keys of readers -/

theorem length_digest (groupId : GroupId) (role : UserRole) :
    (digest groupId role).toList.length = 64 := by
  rw [digest, Sha256.length_hex, Sha256.length_digest]

theorem append_digest_inj {start start' : String} {groupId groupId' : GroupId}
    {role role' : UserRole} (h : start ++ digest groupId role = start' ++ digest groupId' role') :
    start = start' ∧ digest groupId role = digest groupId' role' := by
  have hlist := congrArg String.toList h
  rw [String.toList_append, String.toList_append] at hlist
  have hlength : (digest groupId role).toList.length = (digest groupId' role').toList.length := by
    rw [length_digest, length_digest]
  obtain ⟨hstart, hdigest⟩ := List.append_inj' hlist hlength
  exact ⟨String.toList_injective hstart, String.toList_injective hdigest⟩

theorem removePrefix_append (start text : String) : removePrefix (start ++ text) start = text := by
  have hstart : start.toList.isPrefixOf (start.toList ++ text.toList) = true :=
    List.isPrefixOf_iff_prefix.2 (List.prefix_append _ _)
  rw [removePrefix, String.toList_append, if_pos hstart, List.drop_left, String.ofList_toList]

theorem staleCacheKey_keyOf (principal : AuthenticatedPrincipal) :
    repository.staleCacheKey (repository.keyOf principal) =
      repository.policy.staleKeyPrefix ++ digest principal.groupId principal.role := by
  rw [staleCacheKey, keyOf, streamSessionCacheKey, removePrefix_append]

/-! ## Coherence -/

section Coherence

variable {repository : RedisOperationalReadRepository σ Text}
variable {concerns : GroupId → AuthenticatedPrincipal → Prop}
variable {readers : List AuthenticatedPrincipal} {state : State σ Text} {outages : Outages}
variable {principal : AuthenticatedPrincipal} {limit offset : ℤ}

theorem coherent_empty (now : ℤ) (delegate : σ) :
    repository.Coherent readers ⟨now, ExpiringStore.empty, delegate⟩ := by
  intro principal _ entry sessions hlive
  cases (ExpiringStore.live_eq_some_iff.1 hlive).1

theorem readCached_eq_some {key : String} {outage : Bool} {sessions : List StreamSessionReadModel}
    (h : repository.readCachedStreamSessions state key outage = some sessions) :
    ∃ entry, state.store.live state.now key = some entry ∧
      repository.objectMapper.readValue entry.value = some sessions := by
  rw [readCachedStreamSessions] at h
  split_ifs at h
  exact Option.bind_eq_some_iff.1 h

theorem passesBy_eq_false (h : repository.passesBy limit offset = false) :
    limit = DEFAULT_STREAM_SESSION_PAGE_SIZE ∧ offset = 0 := by
  simp only [passesBy, Bool.or_eq_false_iff, decide_eq_false_iff_not, not_not] at h
  exact ⟨h.1.2, h.2⟩

/-- The entries after a page is kept are entries with the page under a key of its reader, or entries
of before. -/
theorem live_writeCached {sessions : List StreamSessionReadModel} {jitter : ℚ} {key : String}
    {entry : StoreEntry ℤ Text}
    (h : (repository.writeCachedStreamSessions outages state (repository.keyOf principal) sessions
      jitter).live state.now key = some entry) :
    ((key = repository.keyOf principal ∨
        key = repository.staleCacheKey (repository.keyOf principal)) ∧
      entry.value = repository.objectMapper.writeValueAsString sessions) ∨
    state.store.live state.now key = some entry := by
  unfold writeCachedStreamSessions at h
  dsimp only at h
  split_ifs at h
  · exact .inr h
  · rcases ExpiringStore.live_set h with ⟨hkey, hvalue⟩ | hbefore
    · exact .inl ⟨.inr hkey, hvalue⟩
    · rcases ExpiringStore.live_set hbefore with ⟨hkey, hvalue⟩ | hbefore
      · exact .inl ⟨.inl hkey, hvalue⟩
      · exact .inr hbefore
  · rcases ExpiringStore.live_set h with ⟨hkey, hvalue⟩ | hbefore
    · exact .inl ⟨.inl hkey, hvalue⟩
    · exact .inr hbefore

theorem coherent_write (hmapper : repository.objectMapper.Lawful)
    (hlawful : repository.delegate.Lawful concerns) (hdistinct : DigestsDistinct readers)
    (h : repository.Coherent readers state) (hreader : principal ∈ readers)
    {sessions : List StreamSessionReadModel}
    (hanswer : repository.delegate.streamSessionsFor state.delegate principal
      DEFAULT_STREAM_SESSION_PAGE_SIZE 0 = .ok sessions) (jitter : ℚ) :
    repository.Coherent readers { state with
      store := repository.writeCachedStreamSessions outages state (repository.keyOf principal)
        sessions jitter } := by
  intro other hother entry page hlive hpage
  rcases live_writeCached hlive with ⟨hkey, hvalue⟩ | hbefore
  · have hdigest : digest other.groupId other.role = digest principal.groupId principal.role := by
      rcases hkey with hkey | hkey
      · exact (append_digest_inj hkey).2
      · rw [staleCacheKey_keyOf] at hkey
        exact (append_digest_inj hkey).2
    obtain ⟨hrole, hgroup⟩ := hdistinct other hother principal hreader hdigest
    rw [hvalue, hmapper, Option.some.injEq] at hpage
    rw [hlawful.sameScope state.delegate other principal hrole hgroup, ← hpage]
    exact hanswer
  · exact h other hother entry page hbefore hpage

/-- What is left of the entries when pages are deleted. -/
theorem live_invalidate {groupId : GroupId} {key : String} {entry : StoreEntry ℤ Text}
    (h : (repository.invalidateStreamSessionCache outages state groupId).live state.now key =
      some entry) :
    state.store.live state.now key = some entry ∧
      ¬ (key = repository.streamSessionCacheKey groupId .operator ∧
        outages.deleteOperator = false) ∧
      ¬ (key = repository.streamSessionCacheKey groupId .admin ∧ outages.deleteAdmin = false) := by
  unfold invalidateStreamSessionCache at h
  dsimp only at h
  split_ifs at h with hadmin hoperator hoperator
  · exact ⟨h, fun hkey => Bool.false_ne_true (hkey.2.symm.trans hoperator),
      fun hkey => Bool.false_ne_true (hkey.2.symm.trans hadmin)⟩
  · obtain ⟨hne, hlive⟩ := ExpiringStore.live_erase h
    exact ⟨hlive, fun hkey => hne hkey.1,
      fun hkey => Bool.false_ne_true (hkey.2.symm.trans hadmin)⟩
  · obtain ⟨hne, hlive⟩ := ExpiringStore.live_erase h
    exact ⟨hlive, fun hkey => Bool.false_ne_true (hkey.2.symm.trans hoperator),
      fun hkey => hne hkey.1⟩
  · obtain ⟨hne, hbefore⟩ := ExpiringStore.live_erase h
    obtain ⟨hne', hlive⟩ := ExpiringStore.live_erase hbefore
    exact ⟨hlive, fun hkey => hne' hkey.1, fun hkey => hne hkey.1⟩

theorem coherent_record (hlawful : repository.delegate.Lawful concerns)
    (h : repository.Coherent readers state) {session : StreamSessionReadModel}
    (hcovered : repository.Covered concerns state (.recordStreamSession session outages)) :
    repository.Coherent readers (repository.recordStreamSession outages state session).2 := by
  unfold recordStreamSession
  cases houtage : outages.delegate with
  | some cause => exact h
  | none =>
      dsimp only
      cases hresult : (repository.delegate.recordStreamSession session state.delegate).1 with
      | error cause =>
          dsimp only
          rw [hlawful.failed session state.delegate cause hresult]
          exact h
      | ok recorded =>
          intro principal hreader entry page hlive hpage
          dsimp only at hlive ⊢
          rw [hlawful.recorded session state.delegate recorded hresult] at hlive
          obtain ⟨hbefore, hoperator, hadmin⟩ := live_invalidate hlive
          have hunconcerned : ¬ concerns session.groupId principal := fun hconcerned =>
            (hcovered houtage principal hconcerned entry hbefore).elim hoperator hadmin
          rw [hlawful.unconcerned session state.delegate principal hunconcerned]
          exact h principal hreader entry page hbefore hpage

theorem coherent_pass (h : repository.Coherent readers state) (duration : ℕ) :
    repository.Coherent readers { state with now := state.now + duration } := by
  intro principal hreader entry page hlive hpage
  have hlater : state.now ≤ state.now + duration := by omega
  exact h principal hreader entry page (ExpiringStore.live_mono hlater hlive) hpage

theorem streamSessionsFor_miss (hpasses : repository.passesBy limit offset = false)
    (hread : repository.readCachedStreamSessions state (repository.keyOf principal)
      outages.get = none) {sessions : List StreamSessionReadModel}
    (hanswer : repository.delegateStreamSessionsFor outages state principal limit offset =
      .ok sessions) (jitter : ℚ) :
    repository.streamSessionsFor outages state principal limit offset jitter =
      (.ok sessions, { state with
        store := repository.writeCachedStreamSessions outages state (repository.keyOf principal)
          sessions jitter }) := by
  unfold streamSessionsFor
  dsimp only
  rw [hpasses, hread, hanswer]
  rfl

/-- A call for sessions keeps the coherence, and gets what the delegate would answer. -/
theorem streamSessionsFor_spec (hmapper : repository.objectMapper.Lawful)
    (hlawful : repository.delegate.Lawful concerns) (hdistinct : DigestsDistinct readers)
    (h : repository.Coherent readers state) (hreader : principal ∈ readers) (jitter : ℚ)
    (hcovered : repository.Covered concerns state
      (.streamSessionsFor principal limit offset jitter outages)) :
    (repository.streamSessionsFor outages state principal limit offset jitter).1 =
        repository.delegateStreamSessionsFor outages state principal limit offset ∧
      repository.Coherent readers
        (repository.streamSessionsFor outages state principal limit offset jitter).2 := by
  cases hpasses : repository.passesBy limit offset with
  | true =>
      unfold streamSessionsFor
      dsimp only
      rw [hpasses]
      exact ⟨rfl, h⟩
  | false =>
      obtain ⟨sessions, hanswer⟩ := hcovered hpasses
      obtain ⟨rfl, rfl⟩ := passesBy_eq_false hpasses
      have hdelegate : repository.delegate.streamSessionsFor state.delegate principal
          DEFAULT_STREAM_SESSION_PAGE_SIZE 0 = .ok sessions := by
        rw [delegateStreamSessionsFor] at hanswer
        cases houtage : outages.delegate with
        | some cause => rw [houtage] at hanswer; cases hanswer
        | none => rwa [houtage] at hanswer
      cases hread : repository.readCachedStreamSessions state (repository.keyOf principal)
          outages.get with
      | some page =>
          obtain ⟨entry, hlive, hpage⟩ := readCached_eq_some hread
          have hkept := h principal hreader entry page hlive hpage
          unfold streamSessionsFor
          dsimp only
          rw [hpasses, hread, hanswer]
          exact ⟨hkept.symm.trans hdelegate, h⟩
      | none =>
          rw [streamSessionsFor_miss hpasses hread hanswer]
          exact ⟨hanswer.symm, coherent_write hmapper hlawful hdistinct h hreader hdelegate jitter⟩

/-! ## All runs -/

/-- From a cache without pages, a run whose steps are covered is transparent. -/
theorem transparent_of_covered (hmapper : repository.objectMapper.Lawful)
    (hlawful : repository.delegate.Lawful concerns) (actions : List Action)
    (hdistinct : DigestsDistinct (actions.filterMap Action.reader)) (now : ℤ) (delegate : σ)
    (hcovered : Runs.Along repository.step (repository.Covered concerns)
      ⟨now, ExpiringStore.empty, delegate⟩ actions) :
    Runs.Along repository.step repository.Transparent ⟨now, ExpiringStore.empty, delegate⟩
      actions := by
  have hstep : ∀ state action, repository.Coherent (actions.filterMap Action.reader) state →
      repository.Covered concerns state action ∧ action ∈ actions →
      repository.Transparent state action ∧
        repository.Coherent (actions.filterMap Action.reader) (repository.next state action) := by
    rintro state action hcoherent ⟨hstep, hmem⟩
    cases action with
    | pass duration => exact ⟨trivial, coherent_pass hcoherent duration⟩
    | recordStreamSession session outages =>
        exact ⟨trivial, coherent_record hlawful hcoherent hstep⟩
    | streamSessionsFor principal limit offset jitter outages =>
        have hreader : principal ∈ actions.filterMap Action.reader :=
          List.mem_filterMap.2 ⟨_, hmem, rfl⟩
        exact streamSessionsFor_spec hmapper hlawful hdistinct hcoherent hreader jitter hstep
  have hkept : ∀ state action state',
      repository.Coherent (actions.filterMap Action.reader) state →
      repository.Covered concerns state action ∧ action ∈ actions →
      repository.step state action = some state' →
      repository.Coherent (actions.filterMap Action.reader) state' := by
    intro state action state' hcoherent hcovers hstate'
    obtain rfl := Option.some.inj hstate'
    exact (hstep state action hcoherent hcovers).2
  exact Runs.along_of_invariant hkept (fun state action h hC => (hstep state action h hC).1)
    (coherent_empty now delegate) (Runs.along_and hcovered (Runs.along_of_mem (fun _ h => h) _))

end Coherence

end RedisOperationalReadRepository

/-! ## The repository in memory -/

section InMemory

open OperationalReads.InMemoryOperationalReadRepository (filterReadable)

variable (hierarchy : Option (Except Thrown Groups.OrganizationHierarchy))

def repositoryOf (history : List StreamSessionReadModel) : InMemoryOperationalReadRepository :=
  ⟨fun _ => none, hierarchy, history⟩

/-- The states are the recorded sessions. -/
def inMemory : OperationalReadRepository (List StreamSessionReadModel) where
  recordStreamSession session history :=
    let repository := (repositoryOf hierarchy history).recordStreamSession session
    (.ok session, repository.streamSessionHistory)
  streamSessionsFor history principal limit offset :=
    (repositoryOf hierarchy history).streamSessionsFor principal limit offset

/-- A reader may read the group, or the hierarchy cannot be read. -/
def concerns (groupId : GroupId) (principal : AuthenticatedPrincipal) : Prop :=
  Groups.InMemoryOperationalReadRepository.canRead hierarchy principal groupId ≠ .ok false

variable {hierarchy}

theorem canRead_congr {principal principal' : AuthenticatedPrincipal}
    (hrole : principal.role = principal'.role) (hgroup : principal.groupId = principal'.groupId)
    (groupId : GroupId) :
    Groups.InMemoryOperationalReadRepository.canRead hierarchy principal groupId =
      Groups.InMemoryOperationalReadRepository.canRead hierarchy principal' groupId := by
  unfold Groups.InMemoryOperationalReadRepository.canRead
  rw [hrole, hgroup]

theorem filterReadable_congr {repository repository' : InMemoryOperationalReadRepository}
    {principal principal' : AuthenticatedPrincipal} (h : ∀ groupId,
      Groups.InMemoryOperationalReadRepository.canRead repository.hierarchy principal groupId =
        Groups.InMemoryOperationalReadRepository.canRead repository'.hierarchy principal' groupId)
    (history : List StreamSessionReadModel) :
    repository.filterReadable principal StreamSessionReadModel.groupId history =
      repository'.filterReadable principal' StreamSessionReadModel.groupId history := by
  induction history with
  | nil => rfl
  | cons session history ih => rw [filterReadable, filterReadable, h, ih]

theorem filterReadable_concat {repository repository' : InMemoryOperationalReadRepository}
    {principal : AuthenticatedPrincipal} {session : StreamSessionReadModel}
    (hhierarchy : repository'.hierarchy = repository.hierarchy)
    (h : Groups.InMemoryOperationalReadRepository.canRead repository.hierarchy principal
      session.groupId = .ok false) (history : List StreamSessionReadModel) :
    repository'.filterReadable principal StreamSessionReadModel.groupId (history ++ [session]) =
      repository.filterReadable principal StreamSessionReadModel.groupId history := by
  induction history with
  | nil =>
      change filterReadable repository' principal _ [session] = .ok []
      rw [filterReadable, hhierarchy, h]
      rfl
  | cons first history ih => rw [List.cons_append, filterReadable, filterReadable, ih, hhierarchy]

/-- The sessions that are read are taken of those that the reader may read. -/
theorem streamSessionsFor_congr {history history' : List StreamSessionReadModel}
    {principal principal' : AuthenticatedPrincipal}
    (h : (repositoryOf hierarchy history).filterReadable principal StreamSessionReadModel.groupId
        history = (repositoryOf hierarchy history').filterReadable principal'
          StreamSessionReadModel.groupId history') :
    (inMemory hierarchy).streamSessionsFor history principal =
      (inMemory hierarchy).streamSessionsFor history' principal' := by
  funext limit offset
  exact congrArg (fun readable => readable >>= fun sessions => OperationalReads.drop offset
    ((InMemoryOperationalReadRepository.latestSessions sessions).insertionSort
      OperationalReads.byStatusAndStreamId) >>= OperationalReads.take limit) h

theorem lawful_inMemory : (inMemory hierarchy).Lawful (concerns hierarchy) where
  sameScope _ _ _ hrole hgroup :=
    streamSessionsFor_congr (filterReadable_congr (canRead_congr hrole hgroup) _)
  recorded _ _ _ h := congrArg StreamSessionReadModel.groupId (Except.ok.inj h).symm
  unconcerned session history principal h := by
    have hunread : Groups.InMemoryOperationalReadRepository.canRead hierarchy principal
        session.groupId = .ok false := Decidable.not_not.1 h
    have hhierarchy : (repositoryOf hierarchy (history ++ [session])).hierarchy =
        (repositoryOf hierarchy history).hierarchy := rfl
    exact streamSessionsFor_congr (filterReadable_concat hhierarchy hunread history)
  failed _ _ _ h := by cases h

end InMemory

section Sample

open RedisOperationalReadRepository (Action)

def sampleReader (role : UserRole) : AuthenticatedPrincipal :=
  ⟨"reader", role, OperationalReads.sampleGroup, 1, .refl false, Nat.one_pos⟩

def sampleSession : StreamSessionReadModel :=
  OperationalReads.sampleSession "cam-1" "connected" 5

/-- The texts of the pages are the pages. -/
def sampleCache :
    RedisOperationalReadRepository (List StreamSessionReadModel) (List StreamSessionReadModel) where
  delegate := inMemory none
  objectMapper := ⟨id, some⟩
  policy := .OPERATIONAL_READ

def sampleState : State (List StreamSessionReadModel) (List StreamSessionReadModel) :=
  ⟨0, ExpiringStore.empty, []⟩

/-- A reader of the role asks before and after a session is recorded. -/
def sampleRun (role : UserRole) : List Action :=
  [.streamSessionsFor (sampleReader role) 200 0 0 {}, .recordStreamSession sampleSession {},
    .streamSessionsFor (sampleReader role) 200 0 0 {}]

def sampleKept : State (List StreamSessionReadModel) (List StreamSessionReadModel) where
  now := 0
  store := sampleCache.writeCachedStreamSessions {} sampleState
    (sampleCache.keyOf (sampleReader .operator)) [] 0
  delegate := []

theorem next_sampleState :
    sampleCache.next sampleState (.streamSessionsFor (sampleReader .operator) 200 0 0 {}) =
      sampleKept :=
  congrArg Prod.snd (RedisOperationalReadRepository.streamSessionsFor_miss rfl rfl rfl 0)

/-- The page stands under the key of the operator, and a second time under a key of no reader. -/
theorem live_sampleKept {principal : AuthenticatedPrincipal}
    {entry : StoreEntry ℤ (List StreamSessionReadModel)}
    (h : sampleKept.store.live sampleKept.now (sampleCache.keyOf principal) = some entry) :
    sampleCache.keyOf principal = sampleCache.keyOf (sampleReader .operator) := by
  have hlive : (sampleCache.writeCachedStreamSessions {} sampleState
      (sampleCache.keyOf (sampleReader .operator)) [] 0).live sampleState.now
        (sampleCache.keyOf principal) = some entry := h
  rcases RedisOperationalReadRepository.live_writeCached hlive with ⟨hkey | hkey, -⟩ | hbefore
  · exact hkey
  · rw [RedisOperationalReadRepository.staleCacheKey_keyOf] at hkey
    have hstart := (RedisOperationalReadRepository.append_digest_inj hkey).1
    exact absurd hstart (by decide)
  · cases (ExpiringStore.live_eq_some_iff.1 hbefore).1

theorem covered_sampleRun : Runs.Along sampleCache.step (sampleCache.Covered (concerns none))
    sampleState (sampleRun .operator) := by
  refine Runs.along_cons (congrArg some next_sampleState) (fun _ => ⟨[], rfl⟩) ?_
  refine ⟨fun _ principal _ entry hlive => .inl ⟨live_sampleKept hlive, rfl⟩, ?_⟩
  rintro _ hnext
  obtain rfl := Option.some.inj hnext
  exact ⟨fun _ => ⟨[sampleSession], rfl⟩, fun _ _ => trivial⟩

theorem transparent_of_covered_sample :
    Runs.Along sampleCache.step sampleCache.Transparent sampleState (sampleRun .operator) := by
  refine RedisOperationalReadRepository.transparent_of_covered (fun _ => rfl) lawful_inMemory
    (sampleRun .operator) ?_ 0 [] covered_sampleRun
  have hreaders : (sampleRun .operator).filterMap Action.reader =
      [sampleReader .operator, sampleReader .operator] := rfl
  rw [hreaders]
  intro principal hprincipal principal' hprincipal' _
  simp only [List.mem_cons, List.not_mem_nil, or_false, or_self] at hprincipal hprincipal'
  rw [hprincipal, hprincipal']
  exact ⟨rfl, rfl⟩

def sampleRecorded (role : UserRole) :
    State (List StreamSessionReadModel) (List StreamSessionReadModel) :=
  sampleCache.next (sampleCache.next sampleState
    (.streamSessionsFor (sampleReader role) 200 0 0 {})) (.recordStreamSession sampleSession {})

theorem stale_sampleRecorded {role : UserRole} (hrole : role ∈ [UserRole.viewer, .groupAdmin]) :
    (sampleCache.streamSessionsFor {} (sampleRecorded role) (sampleReader role) 200 0 0).1 ≠
      sampleCache.delegateStreamSessionsFor {} (sampleRecorded role) (sampleReader role) 200 0 := by
  revert role
  decide +kernel

/-- A viewer and a group administrator of the group go on to get the page from before. -/
theorem not_transparent_sample :
    ¬ Runs.Along sampleCache.step sampleCache.Transparent sampleState (sampleRun .viewer) ∧
      ¬ Runs.Along sampleCache.step sampleCache.Transparent sampleState
        (sampleRun .groupAdmin) := by
  have hnot : ∀ role ∈ [UserRole.viewer, .groupAdmin],
      ¬ Runs.Along sampleCache.step sampleCache.Transparent sampleState (sampleRun role) := by
    rintro role hrole ⟨-, hrecord⟩
    obtain ⟨-, hread⟩ := hrecord _ rfl
    exact stale_sampleRecorded hrole (hread _ rfl).1
  exact ⟨hnot _ List.mem_cons_self, hnot _ (List.mem_cons_of_mem _ List.mem_cons_self)⟩

end Sample

end GcsSaker.OperationalReadCache
