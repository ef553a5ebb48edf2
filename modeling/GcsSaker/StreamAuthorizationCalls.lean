import GcsSaker.EventLog
import GcsSaker.Runs
import GcsSaker.Sha256
import GcsSaker.StreamAuthorizationCache

/-!
# Calls of the authorization cache at the same time

A call of `AuthorizeStream` reads the clock, looks its key up under the lock, asks the inner
authorizer and stores the decision under the lock again. Any number of calls are under way, and
each step may come between those of others.
-/

namespace GcsSaker.StreamAuthorization

open EventLog (Always)
open Runs (run)

/-- The arguments of a call and the time at which it starts. -/
structure Request where
  authorization : String
  target : StreamAccessTarget
  now : ℤ
  deriving DecidableEq

/-- What `cacheKey` hashes. -/
def material (authorization : String) (target : StreamAccessTarget) : String :=
  authorization ++ "\x00" ++ target.streamID ++ "\x00" ++ target.path ++ "\x00" ++
    target.publisherGroupID ++ "\x00" ++ target.action

namespace Request

variable (request : Request)

def material : String := StreamAuthorization.material request.authorization request.target

def key (digest : String → String) : String :=
  cacheKey digest request.authorization request.target

def fields : List (List Char) :=
  [request.authorization.toList, request.target.streamID.toList, request.target.path.toList,
    request.target.publisherGroupID.toList, request.target.action.toList]

/-- No field has a NUL. -/
def Plain : Prop := ∀ field ∈ request.fields, '\x00' ∉ field

end Request

inductive Stage where
  | started
  | asking
  | storing (answer : Answer)
  | answered

structure Call where
  request : Request
  stage : Stage

/-- A decision was stored, or a call was answered with a stored one. -/
inductive Event where
  | filled (request : Request) (answer : Answer)
  | hit (request : Request) (decision : StreamAccessDecision)

/-- The log is a record of the model. -/
structure Service where
  cache : CachedAuthorizer
  calls : List Call
  log : List Event

inductive Action where
  | start (request : Request)
  | lookup (call : ℕ)
  | answer (call : ℕ) (answer : Answer)
  | store (call : ℕ) (scan : List String)

namespace Service

variable (digest : String → String) (service : Service)

def initial (ttl maxEntries : ℤ) : Service := ⟨⟨ttl, ∅, maxEntries⟩, [], []⟩

def moveTo (call : ℕ) (request : Request) (stage : Stage) : Service :=
  { service with calls := service.calls.set call ⟨request, stage⟩ }

/-- The loop of `evictOldestLocked` comes by every key that is left. -/
def step : Action → Option Service
  | .start request =>
    -- without a time to live the inner authorizer alone is asked
    let stage := if service.cache.ttl ≤ 0 then .answered else .started
    some { service with calls := service.calls ++ [⟨request, stage⟩] }
  | .lookup call =>
    match service.calls[call]? with
    | some ⟨request, .started⟩ =>
      match service.cache.lookupLocked (request.key digest) request.now with
      | (cache, some entry) =>
        some { service.moveTo call request .answered with
          cache, log := .hit request entry.decision :: service.log }
      | (cache, none) => some { service.moveTo call request .asking with cache }
    | _ => none
  | .answer call answer =>
    match service.calls[call]? with
    | some ⟨request, .asking⟩ =>
      if cacheable answer ∧
          request.now < storedExpiry service.cache.ttl request.now answer.1 then
        some (service.moveTo call request (.storing answer))
      else some (service.moveTo call request .answered)
    | _ => none
  | .store call scan =>
    match service.calls[call]? with
    | some ⟨request, .storing answer⟩ =>
      if scan.Perm (service.cache.pruneLocked request.now).entries.keys then
        some { service.moveTo call request .answered with
          cache := service.cache.storeLocked (request.key digest) request.now answer.1 scan
          log := .filled request answer :: service.log }
      else none
    | _ => none

end Service

/-! ## What the cache should do -/

/-- The call that filled the entry of the key last, with the answer it was given. -/
def filler (digest : String → String) (key : String) : List Event → Option (Request × Answer)
  | [] => none
  | .filled request answer :: log =>
    if request.key digest = key then some (request, answer) else filler digest key log
  | .hit _ _ :: log => filler digest key log

/-- An answer from the cache is the decision of the call that filled the entry; it is given to calls
that start in time, and to the fields that the decision was made for. -/
def RightHit (digest : String → String) (ttl : ℤ) : Event → List Event → Prop
  | .hit request decision, log =>
    ∃ filling answer, filler digest (request.key digest) log = some (filling, answer) ∧
      decision = answer.1 ∧ request.now < filling.now + ttl ∧
      (∀ expiresAt ∈ answer.1.expiresAt, request.now < expiresAt) ∧
      (filling.Plain ∨ request.Plain → filling.authorization = request.authorization ∧
        filling.target = request.target)
  | .filled _ _, _ => True

/-! ## Keys -/

section Keys

variable {α : Type*} [DecidableEq α]

theorem count_intercalate (x : α) {fields : List (List α)} (h : fields ≠ []) :
    ([x].intercalate fields).count x + 1 =
      fields.length + (fields.map (List.count x)).sum := by
  induction fields with
  | nil => exact absurd rfl h
  | cons field fields ih =>
      cases fields with
      | nil =>
          simp only [List.intercalate_singleton, List.length_singleton, List.map_singleton,
            List.sum_singleton]
          omega
      | cons next fields =>
          have hrest := ih (List.cons_ne_nil _ _)
          rw [List.intercalate_cons_cons, List.count_append, List.count_append,
            List.count_singleton_self, List.length_cons, List.map_cons, List.sum_cons]
          omega

/-- Fields without the separator are told from any others by what they are joined to. -/
theorem intercalate_inj {x : α} {fields fields' : List (List α)} (hne : fields ≠ [])
    (hlength : fields.length = fields'.length) (hplain : ∀ field ∈ fields, x ∉ field)
    (h : [x].intercalate fields = [x].intercalate fields') : fields = fields' := by
  have hne' : fields' ≠ [] := by
    rintro rfl
    exact hne (List.length_eq_zero_iff.1 hlength)
  have hsum : (fields.map (List.count x)).sum = 0 := by
    rw [List.sum_eq_zero_iff_forall_eq_nat]
    intro n hn
    obtain ⟨field, hfield, rfl⟩ := List.mem_map.1 hn
    exact List.count_eq_zero.2 (hplain field hfield)
  have hcount := count_intercalate x hne
  have hcount' := count_intercalate x hne'
  rw [h] at hcount
  have hsum' : (fields'.map (List.count x)).sum = 0 := by omega
  have hplain' : ∀ field ∈ fields', x ∉ field := fun field hfield =>
    List.count_eq_zero.1 (List.sum_eq_zero_iff_forall_eq_nat.1 hsum' _ (List.mem_map_of_mem hfield))
  rw [← List.splitOn_intercalate x hplain hne, h, List.splitOn_intercalate x hplain' hne']

end Keys

theorem toList_material (request : Request) :
    request.material.toList = ['\x00'].intercalate request.fields := by
  simp only [Request.material, material, Request.fields, String.toList_append,
    List.intercalate_cons_cons, List.intercalate_singleton, List.append_assoc]
  rfl

theorem target_eq_of_material {request request' : Request} (hplain : request.Plain)
    (h : request.material = request'.material) :
    request.authorization = request'.authorization ∧ request.target = request'.target := by
  have hlists := congrArg String.toList h
  rw [toList_material, toList_material] at hlists
  have hfields : request.fields = request'.fields :=
    intercalate_inj (List.cons_ne_nil _ _) rfl hplain hlists
  obtain ⟨authorization, ⟨streamID, path, publisherGroupID, action⟩, now⟩ := request
  obtain ⟨authorization', ⟨streamID', path', publisherGroupID', action'⟩, now'⟩ := request'
  simp only [Request.fields, List.cons.injEq, String.toList_inj, and_true] at hfields
  obtain ⟨hauthorization, hstream, hpath, hgroup, haction⟩ := hfields
  refine ⟨hauthorization, ?_⟩
  dsimp only
  rw [hstream, hpath, hgroup, haction]

/-! ## Capacity -/

namespace CachedAuthorizer

variable {c : CachedAuthorizer} {key : String} {now : ℤ}

def size (c : CachedAuthorizer) : ℕ := c.entries.keys.length

theorem size_pruneLocked_le (now : ℤ) : (c.pruneLocked now).size ≤ c.size :=
  GoMap.length_sweep_le _ _

theorem oldestEntry_mem {scan : List String} (hscan : scan ≠ [])
    (hkeys : ∀ key ∈ scan, key ∈ c.entries.keys) : (c.oldestEntry scan).1 ∈ c.entries.keys := by
  have hbest : ("", Clock.zeroTime).1 ∈ c.entries.keys ∨ ("", Clock.zeroTime).1 = "" ∧ scan ≠ [] :=
    .inr ⟨rfl, hscan⟩
  clear hscan
  rw [oldestEntry]
  -- The best key so far is stored, or no key has been met and one is still to come.
  generalize ("", Clock.zeroTime) = best at hbest ⊢
  induction scan generalizing best with
  | nil => exact hbest.resolve_right fun hempty => hempty.2 rfl
  | cons key scan ih =>
      have hkey := hkeys key (List.mem_cons_self ..)
      obtain ⟨entry, hentry⟩ := Option.isSome_iff_exists.1 (AList.lookup_isSome.2 hkey)
      rw [List.foldl_cons, hentry]
      refine ih (fun k hk => hkeys k (List.mem_cons_of_mem key hk)) _ (.inl ?_)
      dsimp only
      split_ifs with hbetter
      · exact hkey
      · exact hbest.resolve_right fun hempty => hbetter (.inl hempty.1)

/-- After an eviction there is room for one more entry. -/
theorem size_evictOldestLocked_lt {scan : List String} (hscan : scan.Perm c.entries.keys)
    (hmax : 0 < c.maxEntries) (hle : (c.size : ℤ) ≤ c.maxEntries) :
    ((c.evictOldestLocked scan).size : ℤ) < c.maxEntries := by
  have hlength : c.entries.entries.length = c.size := (List.length_map ..).symm
  rw [evictOldestLocked, hlength]
  split_ifs with hroom
  · exact hroom.resolve_left (not_le.2 hmax)
  · have hpos : 0 < c.size := by
      have := not_lt.1 fun hlt => hroom (.inr hlt)
      omega
    have hne : scan ≠ [] := by
      rintro rfl
      have := hscan.length_eq
      rw [size, ← this] at hpos
      exact Nat.lt_irrefl 0 hpos
    have herase := GoMap.length_erase_of_mem
      (oldestEntry_mem hne fun key hkey => hscan.mem_iff.1 hkey)
    change ((c.entries.erase (c.oldestEntry scan).1).keys.length : ℤ) < c.maxEntries
    rw [size] at hle
    omega

theorem size_storeLocked_le {decision : StreamAccessDecision} {scan : List String}
    (hscan : scan.Perm (c.pruneLocked now).entries.keys) (hmax : 0 < c.maxEntries)
    (hle : (c.size : ℤ) ≤ c.maxEntries) :
    ((c.storeLocked key now decision scan).size : ℤ) ≤ c.maxEntries := by
  rw [storeLocked]
  dsimp only
  split_ifs
  · have hpruned : ((c.pruneLocked now).size : ℤ) ≤ c.maxEntries :=
      (Int.ofNat_le.2 (size_pruneLocked_le now)).trans hle
    have hroom : (((c.pruneLocked now).evictOldestLocked scan).size : ℤ) < c.maxEntries :=
      size_evictOldestLocked_lt hscan hmax hpruned
    have hinsert := GoMap.length_insert_le ((c.pruneLocked now).evictOldestLocked scan).entries key
      ⟨decision, storedExpiry c.ttl now decision⟩
    rw [size] at hroom
    change ((((c.pruneLocked now).evictOldestLocked scan).entries.insert key
      ⟨decision, storedExpiry c.ttl now decision⟩).keys.length : ℤ) ≤ c.maxEntries
    omega
  · exact hle

theorem size_lookupLocked_le : ((c.lookupLocked key now).1.size : ℤ) ≤ c.size := by
  rw [lookupLocked]
  split
  next => exact le_rfl
  next =>
    split_ifs
    · exact le_rfl
    · exact Int.ofNat_le.2 (GoMap.length_erase_le _ _)

theorem maxEntries_storeLocked {decision : StreamAccessDecision} {scan : List String} :
    (c.storeLocked key now decision scan).maxEntries = c.maxEntries := by
  rw [storeLocked]
  dsimp only
  split_ifs
  · rw [evictOldestLocked]
    split <;> rfl
  · rfl

theorem maxEntries_lookupLocked : (c.lookupLocked key now).1.maxEntries = c.maxEntries := by
  rw [lookupLocked]
  split
  next => rfl
  next => split_ifs <;> rfl

end CachedAuthorizer

/-! ## The invariant -/

theorem storedExpiry_le (ttl now : ℤ) (decision : StreamAccessDecision) :
    storedExpiry ttl now decision ≤ now + ttl ∧
      ∀ expiresAt ∈ decision.expiresAt, storedExpiry ttl now decision ≤ expiresAt := by
  rw [storedExpiry]
  cases decision.expiresAt with
  | none => exact ⟨le_rfl, fun expiresAt hmem => nomatch hmem⟩
  | some own =>
      dsimp only
      split_ifs with hown
      · refine ⟨hown.le, fun expiresAt hmem => ?_⟩
        rw [Option.mem_some_iff.1 hmem]
      · refine ⟨le_rfl, fun expiresAt hmem => ?_⟩
        rw [← Option.mem_some_iff.1 hmem]
        exact not_lt.1 hown

/-- Every entry is the decision of the call that filled it last. -/
structure Sound (digest : String → String) (ttl maxEntries : ℤ) (texts : Set String)
    (service : Service) : Prop where
  ttl_eq : service.cache.ttl = ttl
  maxEntries_eq : service.cache.maxEntries = maxEntries
  size_le : (service.cache.size : ℤ) ≤ maxEntries
  calls : ∀ call ∈ service.calls, call.request.material ∈ texts
  storing : ∀ request answer, ⟨request, .storing answer⟩ ∈ service.calls →
    request.now < storedExpiry ttl request.now answer.1
  entries : ∀ key entry, service.cache.entries.lookup key = some entry →
    ∃ filling answer, filler digest key service.log = some (filling, answer) ∧
      filling.material ∈ texts ∧ entry = ⟨answer.1, storedExpiry ttl filling.now answer.1⟩
  right : Always (RightHit digest ttl) service.log

section Steps

variable {digest : String → String} {ttl maxEntries : ℤ} {texts : Set String}
  {service service' : Service}

theorem filler_key {key : String} {log : List Event} {filling : Request} {answer : Answer}
    (h : filler digest key log = some (filling, answer)) : filling.key digest = key := by
  induction log with
  | nil => exact nomatch h
  | cons event log ih =>
      cases event with
      | filled request answer' =>
          rw [filler] at h
          split_ifs at h with hkey
          · rw [Option.some.injEq, Prod.mk.injEq] at h
            rw [← h.1]
            exact hkey
          · exact ih h
      | hit request decision => exact ih h

theorem initial_sound (hmax : 0 < maxEntries) :
    Sound digest ttl maxEntries texts (.initial ttl maxEntries) where
  ttl_eq := rfl
  maxEntries_eq := rfl
  size_le := hmax.le
  calls call hcall := absurd hcall List.not_mem_nil
  storing request answer hcall := absurd hcall List.not_mem_nil
  entries key entry hlookup := by
    rw [Service.initial, AList.lookup_empty] at hlookup
    exact nomatch hlookup
  right := trivial

theorem lt_of_lookupLocked {c c' : CachedAuthorizer} {key : String} {now : ℤ}
    {entry : CachedDecision} (h : c.lookupLocked key now = (c', some entry)) :
    now < entry.expiresAt := by
  rw [CachedAuthorizer.lookupLocked] at h
  split at h
  next => cases (Prod.mk.inj h).2
  next stored _ =>
    split_ifs at h with hlt
    · rw [← Option.some.inj (Prod.mk.inj h).2]
      exact hlt
    · cases (Prod.mk.inj h).2

/-- A call goes on to another stage. -/
theorem Sound.moveTo (h : Sound digest ttl maxEntries texts service) {call : ℕ}
    {request : Request} {stage stage' : Stage}
    (hcall : service.calls[call]? = some ⟨request, stage⟩)
    (hstoring : ∀ answer, stage' = .storing answer →
      request.now < storedExpiry ttl request.now answer.1) :
    Sound digest ttl maxEntries texts (service.moveTo call request stage') where
  ttl_eq := h.ttl_eq
  maxEntries_eq := h.maxEntries_eq
  size_le := h.size_le
  calls other hother := by
    rcases List.mem_or_eq_of_mem_set hother with hold | rfl
    · exact h.calls other hold
    · exact h.calls ⟨request, stage⟩ (List.mem_of_getElem? hcall)
  storing other answer hother := by
    rcases List.mem_or_eq_of_mem_set hother with hold | heq
    · exact h.storing other answer hold
    · rw [Call.mk.injEq] at heq
      rw [heq.1]
      exact hstoring answer heq.2.symm
  entries := h.entries
  right := h.right

theorem Sound.start (h : Sound digest ttl maxEntries texts service) {request : Request}
    (htext : request.material ∈ texts) {stage : Stage}
    (hstage : ∀ answer, stage ≠ .storing answer) :
    Sound digest ttl maxEntries texts
      { service with calls := service.calls ++ [⟨request, stage⟩] } where
  ttl_eq := h.ttl_eq
  maxEntries_eq := h.maxEntries_eq
  size_le := h.size_le
  calls call hcall := by
    rcases List.mem_append.1 hcall with hold | hnew
    · exact h.calls call hold
    · rw [List.mem_singleton.1 hnew]
      exact htext
  storing other answer hother := by
    rcases List.mem_append.1 hother with hold | hnew
    · exact h.storing other answer hold
    · have heq := List.mem_singleton.1 hnew
      rw [Call.mk.injEq] at heq
      exact absurd heq.2.symm (hstage answer)
  entries := h.entries
  right := h.right

/-- An answer from the cache is right. -/
theorem Sound.hit (h : Sound digest ttl maxEntries texts service)
    (hdigest : Set.InjOn digest texts) {request : Request} (htext : request.material ∈ texts)
    {cache : CachedAuthorizer} {entry : CachedDecision}
    (hlookup : service.cache.lookupLocked (request.key digest) request.now = (cache, some entry)) :
    Sound digest ttl maxEntries texts
      { service with cache, log := .hit request entry.decision :: service.log } := by
  obtain ⟨rfl, hentry⟩ := CachedAuthorizer.lookupLocked_hit hlookup
  have hlt := lt_of_lookupLocked hlookup
  obtain ⟨filling, answer, hfiller, hfilling, rfl⟩ := h.entries _ _ hentry
  obtain ⟨hle, hown⟩ := storedExpiry_le ttl filling.now answer.1
  have hmaterial : filling.material = request.material :=
    hdigest hfilling htext (filler_key hfiller)
  refine ⟨h.ttl_eq, h.maxEntries_eq, h.size_le, h.calls, h.storing, h.entries, ?_, h.right⟩
  refine ⟨filling, answer, hfiller, rfl, hlt.trans_le hle,
    fun expiresAt hmem => hlt.trans_le (hown expiresAt hmem), ?_⟩
  rintro (hplain | hplain)
  · exact target_eq_of_material hplain hmaterial
  · obtain ⟨hauthorization, htarget⟩ := target_eq_of_material hplain hmaterial.symm
    exact ⟨hauthorization.symm, htarget.symm⟩

theorem Sound.miss (h : Sound digest ttl maxEntries texts service) {key : String} {now : ℤ}
    {cache : CachedAuthorizer} (hlookup : service.cache.lookupLocked key now = (cache, none)) :
    Sound digest ttl maxEntries texts { service with cache } := by
  obtain ⟨httl, hkept⟩ := CachedAuthorizer.lookupLocked_miss hlookup
  have hcache : cache = (service.cache.lookupLocked key now).1 := by rw [hlookup]
  refine ⟨httl.trans h.ttl_eq, ?_, ?_, h.calls, h.storing,
    fun k entry hentry => h.entries k entry (hkept k entry hentry), h.right⟩
  · rw [hcache]
    exact CachedAuthorizer.maxEntries_lookupLocked.trans h.maxEntries_eq
  · rw [hcache]
    exact CachedAuthorizer.size_lookupLocked_le.trans h.size_le

theorem Sound.store (h : Sound digest ttl maxEntries texts service) (hmax : 0 < maxEntries)
    {request : Request} {answer : Answer} (htext : request.material ∈ texts)
    (hlt : request.now < storedExpiry ttl request.now answer.1) {scan : List String}
    (hscan : scan.Perm (service.cache.pruneLocked request.now).entries.keys) :
    Sound digest ttl maxEntries texts
      { service with
        cache := service.cache.storeLocked (request.key digest) request.now answer.1 scan
        log := .filled request answer :: service.log } where
  ttl_eq := (CachedAuthorizer.storeLocked_ttl _ _).trans h.ttl_eq
  maxEntries_eq := CachedAuthorizer.maxEntries_storeLocked.trans h.maxEntries_eq
  size_le := by
    have hmax' : 0 < service.cache.maxEntries := h.maxEntries_eq ▸ hmax
    have hle : (service.cache.size : ℤ) ≤ service.cache.maxEntries := h.maxEntries_eq ▸ h.size_le
    have hsize := @CachedAuthorizer.size_storeLocked_le service.cache (request.key digest)
      request.now answer.1 scan hscan hmax' hle
    rw [h.maxEntries_eq] at hsize
    exact hsize
  calls := h.calls
  storing := h.storing
  entries key entry hentry := by
    have hnow : request.now < storedExpiry service.cache.ttl request.now answer.1 :=
      h.ttl_eq.symm ▸ hlt
    by_cases hkey : request.key digest = key
    · subst hkey
      rw [CachedAuthorizer.lookup_storeLocked_self scan hnow, Option.some.injEq] at hentry
      refine ⟨request, answer, ?_, htext, ?_⟩
      · rw [filler, if_pos rfl]
      · rw [← hentry, h.ttl_eq]
    · have hold : service.cache.entries.lookup key = some entry := by
        rcases CachedAuthorizer.lookup_storeLocked hentry with ⟨heq, -⟩ | ⟨-, hold⟩
        · exact absurd heq.symm hkey
        · exact hold
      rw [filler, if_neg hkey]
      exact h.entries key entry hold
  right := ⟨trivial, h.right⟩

theorem Sound.step (h : Sound digest ttl maxEntries texts service) (hmax : 0 < maxEntries)
    (hdigest : Set.InjOn digest texts) {action : Action}
    (htext : ∀ request, action = .start request → request.material ∈ texts)
    (hstep : service.step digest action = some service') :
    Sound digest ttl maxEntries texts service' := by
  cases action with
  | start request =>
      rw [Service.step, Option.some.injEq] at hstep
      rw [← hstep]
      refine h.start (htext request rfl) fun answer => ?_
      split <;> exact Stage.noConfusion
  | lookup call =>
      rw [Service.step] at hstep
      split at hstep
      next request hcall =>
        have hrequest := h.calls _ (List.mem_of_getElem? hcall)
        split at hstep
        next cache entry hlookup =>
          rw [← Option.some.inj hstep]
          have hmoved : Sound digest ttl maxEntries texts
              (service.moveTo call request .answered) :=
            h.moveTo hcall fun answer => Stage.noConfusion
          exact hmoved.hit hdigest hrequest hlookup
        next cache hlookup =>
          rw [← Option.some.inj hstep]
          have hmoved : Sound digest ttl maxEntries texts (service.moveTo call request .asking) :=
            h.moveTo hcall fun answer => Stage.noConfusion
          exact hmoved.miss hlookup
      next => exact nomatch hstep
  | answer call answer =>
      rw [Service.step] at hstep
      split at hstep
      next request hcall =>
        split_ifs at hstep with hstores
        · rw [← Option.some.inj hstep]
          refine h.moveTo hcall fun answer' heq => ?_
          rw [← Stage.storing.inj heq, ← h.ttl_eq]
          exact hstores.2
        · rw [← Option.some.inj hstep]
          exact h.moveTo hcall fun answer => Stage.noConfusion
      next => exact nomatch hstep
  | store call scan =>
      rw [Service.step] at hstep
      split at hstep
      next request answer hcall =>
        split_ifs at hstep with hscan
        rw [← Option.some.inj hstep]
        have hmem := List.mem_of_getElem? hcall
        have hmoved : Sound digest ttl maxEntries texts (service.moveTo call request .answered) :=
          h.moveTo hcall fun answer => Stage.noConfusion
        exact hmoved.store hmax (h.calls _ hmem) (h.storing _ _ hmem) hscan
      next => exact nomatch hstep

end Steps

/-- In every run the cache keeps to its capacity, and what it answers is right. The digests of what
the calls hash differ; the inner authorizer answers as it likes. -/
theorem cache_right (digest : String → String) (ttl maxEntries : ℤ) (hmax : 0 < maxEntries)
    (texts : Set String) (hdigest : Set.InjOn digest texts) (actions : List Action)
    (htexts : ∀ request, .start request ∈ actions → request.material ∈ texts) (service : Service)
    (hrun : run (Service.step digest) (.initial ttl maxEntries) actions = some service) :
    (service.cache.entries.keys.length : ℤ) ≤ maxEntries ∧
      Always (RightHit digest ttl) service.log := by
  have hstep : ∀ s action s', Sound digest ttl maxEntries texts s →
      (∀ request, action = .start request → request.material ∈ texts) →
        s.step digest action = some s' → Sound digest ttl maxEntries texts s' :=
    fun s action s' hs htext hstep => hs.step hmax hdigest htext hstep
  have hallowed : ∀ action ∈ actions,
      ∀ request, action = .start request → request.material ∈ texts := by
    rintro action hmem request rfl
    exact htexts request hmem
  have hsound := Runs.run_invariant hstep (initial_sound hmax) (Runs.along_of_mem hallowed _) hrun
  exact ⟨hsound.size_le, hsound.right⟩

def sha256Hex (text : String) : String :=
  Sha256.hex (Sha256.digest text.toByteArray.data.toList)

def viewerAt (seconds : ℤ) : Request := ⟨"Bearer viewer", sampleTarget, seconds * Clock.second⟩

/-- Two calls fill the entry one after the other, and a third is answered with it. -/
def overlapping : List Action :=
  [.start (viewerAt 0), .start (viewerAt 1), .lookup 0, .lookup 1, .answer 1 allowedCall.answer,
    .store 1 [], .answer 0 allowedCall.answer, .store 0 [(viewerAt 0).key sha256Hex],
    .start (viewerAt 30), .lookup 2]

theorem cache_right_overlapping :
    ∃ service, run (Service.step sha256Hex) (.initial (60 * Clock.second) 1) overlapping =
        some service ∧
      service.log.length = 3 ∧ (service.cache.entries.keys.length : ℤ) ≤ 1 ∧
        Always (RightHit sha256Hex (60 * Clock.second)) service.log := by
  have hlength : (run (Service.step sha256Hex) (.initial (60 * Clock.second) 1) overlapping).map
      (·.log.length) = some 3 := by
    decide +kernel
  obtain ⟨service, hrun, hlength⟩ := Option.map_eq_some_iff.1 hlength
  refine ⟨service, hrun, hlength, cache_right sha256Hex (60 * Clock.second) 1 (by decide)
    {(viewerAt 0).material} (Set.injOn_singleton ..) overlapping (fun request hmem => ?_) service
    hrun⟩
  simp only [overlapping, List.mem_cons, Action.start.injEq, reduceCtorEq, List.not_mem_nil,
    or_false, false_or] at hmem
  rcases hmem with rfl | rfl | rfl
  · rfl
  · rfl
  · rfl

end GcsSaker.StreamAuthorization
