import GcsSaker.RefreshSessionCalls
import Mathlib.Data.List.Find

/-!
# Revoking all sessions of a user

The index of a user lists every token of a returned put that has not expired, for at least as long
as the token lives, in every run whose index writes and revocations meet `indexCovers`.
-/

namespace GcsSaker.RefreshSessions

open Groups (AuthenticatedPrincipal)

/-! ## Keys -/

variable {platform : Platform}

def IsTokenKey (platform : Platform) (key : String) : Prop :=
  ∃ refreshToken, key = platform.cacheKey refreshToken

theorem hex_of_mem {value : String} {c : Char} (h : c ∈ (platform.sha256 value).toList) :
    c ∈ "0123456789abcdef".toList := by
  rw [Platform.sha256, String.toList_ofList, List.mem_flatMap] at h
  obtain ⟨byte, -, hc⟩ := h
  have hdigit : ∀ n < 16, Nat.digitChar n ∈ "0123456789abcdef".toList := by decide
  have hlt : byte.toNat < 256 := UInt8.toNat_lt byte
  rw [hexByte, List.mem_cons, List.mem_singleton] at hc
  rcases hc with rfl | rfl
  · exact hdigit _ (by omega)
  · exact hdigit _ (by omega)

theorem cacheKey_inj {refreshToken refreshToken' : String} :
    platform.cacheKey refreshToken = platform.cacheKey refreshToken' ↔
      platform.sha256 refreshToken = platform.sha256 refreshToken' :=
  String.append_right_inj keyPrefix

theorem tokenKey_ne_userIndexKey {key : String} (h : IsTokenKey platform key) (username : String) :
    key ≠ platform.userIndexKey username := by
  obtain ⟨refreshToken, rfl⟩ := h
  intro he
  rw [Platform.cacheKey, Platform.userIndexKey, userIndexPrefix, String.append_assoc,
    String.append_right_inj] at he
  have hmem : 'u' ∈ (platform.sha256 refreshToken).toList := by
    rw [he, String.toList_append]
    exact List.mem_append_left _ List.mem_cons_self
  exact absurd (hex_of_mem hmem) (by decide)

/-! ## What a step does -/

variable {ι : Type} {s s' : SessionState ι}

inductive Steps [DecidableEq ι] (platform : Platform) (s : SessionState ι) :
    SessionAction ι → SessionState ι → Prop
  | elapse (duration : ℕ) : Steps platform s (.elapse duration) { s with clock := s.clock + duration }
  | refuse {store : ι} {refreshToken : String} {principal : AuthenticatedPrincipal} {ttl : ℤ} :
      Steps platform s (.put store refreshToken principal ttl) s
  | put {store : ι} {refreshToken : String} {principal : AuthenticatedPrincipal} {ttl : ℤ} :
      Steps platform s (.put store refreshToken principal ttl)
        { s with
          redis := s.redis.set (platform.cacheKey refreshToken) (encode principal) (s.clock + ttl)
          calls := Function.update s.calls store
            (some (.stored ⟨s.puts.length, refreshToken, principal, s.clock + ttl⟩ ttl))
          puts := ⟨s.puts.length, refreshToken, principal, s.clock + ttl⟩ :: s.puts }
  | readIndex {store : ι} {put : Put} {ttl : ℤ} (hcall : s.calls store = some (.stored put ttl)) :
      Steps platform s (.readIndex store)
        { s with
          calls := Function.update s.calls store
            (some (.listed put ttl (s.index platform put.principal.username))) }
  | writeIndex {store : ι} {put : Put} {ttl : ℤ} {keys : List String}
      (hcall : s.calls store = some (.listed put ttl keys)) :
      Steps platform s (.writeIndex store)
        { s with
          redis := s.redis.set (platform.userIndexKey put.principal.username)
            (encodeIndex (addKey keys (platform.cacheKey put.refreshToken))) (s.clock + ttl)
          calls := Function.update s.calls store none
          returned := put.number :: s.returned }
  | revokePrincipal {store : ι} {username : String} :
      Steps platform s (.revokePrincipal store username)
        { s with
          calls := Function.update s.calls store
            (some (.revoking username (s.index platform username) s.returned)) }
  | deleteKey {store : ι} {username key : String} {keys : List String} {before : List ℕ}
      (hcall : s.calls store = some (.revoking username (key :: keys) before)) :
      Steps platform s (.deleteKey store)
        { s with
          redis := s.redis.erase key
          calls := Function.update s.calls store (some (.revoking username keys before))
          spent := s.numberAt platform (· = username) key ++ s.spent }
  | deleteIndex {store : ι} {username : String} {before : List ℕ}
      (hcall : s.calls store = some (.revoking username [] before)) :
      Steps platform s (.deleteIndex store)
        { s with
          redis := s.redis.erase (platform.userIndexKey username)
          calls := Function.update s.calls store none
          revocations := ⟨username, before⟩ :: s.revocations }
  | consume {refreshToken : String} : Steps platform s (.consume refreshToken)
      { s with
        redis := s.redis.erase (platform.cacheKey refreshToken)
        spent := s.numberAt platform (fun _ => true) (platform.cacheKey refreshToken) ++ s.spent }
  | revokeToken {refreshToken : String} : Steps platform s (.revokeToken refreshToken)
      { s with
        redis := s.redis.erase (platform.cacheKey refreshToken)
        spent := s.numberAt platform (fun _ => true) (platform.cacheKey refreshToken) ++ s.spent }

theorem steps_of_step [DecidableEq ι] {a : SessionAction ι} (h : s.step platform a = some s') :
    Steps platform s a s' := by
  cases a with
  | elapse duration =>
      cases h
      exact .elapse duration
  | put store refreshToken principal ttl =>
      simp only [SessionState.step, SessionState.put] at h
      split at h
      · cases h
      · split_ifs at h
        · cases h
          exact .refuse
        · cases h
          exact .put
  | readIndex store =>
      simp only [SessionState.step, SessionState.readIndex] at h
      split at h
      next put ttl hcall =>
        cases h
        exact .readIndex hcall
      next => cases h
  | writeIndex store =>
      simp only [SessionState.step, SessionState.writeIndex] at h
      split at h
      next put ttl keys hcall =>
        cases h
        exact .writeIndex hcall
      next => cases h
  | revokePrincipal store username =>
      simp only [SessionState.step, SessionState.revokePrincipal] at h
      split at h
      · cases h
      · cases h
        exact .revokePrincipal
  | deleteKey store =>
      simp only [SessionState.step, SessionState.deleteKey] at h
      split at h
      next username key keys before hcall =>
        cases h
        exact .deleteKey hcall
      next => cases h
  | deleteIndex store =>
      simp only [SessionState.step, SessionState.deleteIndex] at h
      split at h
      next username before hcall =>
        cases h
        exact .deleteIndex hcall
      next => cases h
  | consume refreshToken =>
      cases h
      exact .consume
  | revokeToken refreshToken =>
      cases h
      exact .revokeToken

/-! ## The ledger of the puts -/

/-- What a call holds is of the puts so far and of their keys. -/
def SessionCall.Within (platform : Platform) (puts : List Put) : SessionCall → Prop
  | .stored put _ => put ∈ puts
  | .listed put _ keys => put ∈ puts ∧ ∀ key ∈ keys, IsTokenKey platform key
  | .revoking _ keys before =>
    (∀ key ∈ keys, IsTokenKey platform key) ∧ ∀ n ∈ before, n < puts.length

structure Ledger (platform : Platform) (tokens : Set String) (s : SessionState ι) : Prop where
  number : ∀ put ∈ s.puts, put.number < s.puts.length
  distinct : ∀ put ∈ s.puts, ∀ put' ∈ s.puts, put.number = put'.number → put = put'
  token : ∀ put ∈ s.puts, put.refreshToken ∈ tokens
  returned : ∀ n ∈ s.returned, n < s.puts.length
  spent : ∀ n ∈ s.spent, n < s.puts.length
  calls : ∀ store call, s.calls store = some call → call.Within platform s.puts
  revocations : ∀ revocation ∈ s.revocations, ∀ n ∈ revocation.before, n < s.puts.length
  index : ∀ username entry, s.redis (platform.userIndexKey username) = some entry →
    ∃ keys, keys ≠ [] ∧ (∀ key ∈ keys, IsTokenKey platform key) ∧ entry.value = encodeIndex keys

theorem forall_update {α β : Type} [DecidableEq α] {f : α → Option β} {P : β → Prop} {a : α}
    {new : Option β} (hnew : ∀ b, new = some b → P b) (h : ∀ a b, f a = some b → P b) :
    ∀ a' b, Function.update f a new a' = some b → P b := by
  intro a' b hb
  by_cases ha : a' = a
  · subst ha
    rw [Function.update_self] at hb
    exact hnew b hb
  · rw [Function.update_of_ne ha] at hb
    exact h a' b hb

theorem SessionCall.Within.cons {puts : List Put} {put : Put} {call : SessionCall}
    (h : call.Within platform puts) : call.Within platform (put :: puts) := by
  cases call with
  | stored put' ttl => exact List.mem_cons_of_mem put h
  | listed put' ttl keys => exact ⟨List.mem_cons_of_mem put h.1, h.2⟩
  | revoking username keys before =>
      refine ⟨h.1, fun n hn => ?_⟩
      have hlt := h.2 n hn
      rw [List.length_cons]
      omega

variable {tokens : Set String}

/-! ## Tokens that are put once -/

/-- A put of an earlier state whose token is still there has been there all the time. -/
def Survives (platform : Platform) (s s' : SessionState ι) : Prop :=
  ∀ key put entry, s'.putAt platform key = some put → put.number < s.puts.length →
    s'.redis.live s'.clock key = some entry →
      s.putAt platform key = some put ∧ s.redis.live s.clock key = some entry

theorem putAt_key {key : String} {put : Put} (h : s.putAt platform key = some put) :
    platform.cacheKey put.refreshToken = key := by
  rw [SessionState.putAt] at h
  have hkey := List.find?_some h
  exact of_decide_eq_true hkey

theorem live_of_erase {redis : Redis} {now : ℤ} {key key' : String} {entry : StoreEntry ℤ String}
    (h : ExpiringStore.live (redis.erase key') now key = some entry) :
    key ≠ key' ∧ redis.live now key = some entry := by
  obtain ⟨hentry, hnow⟩ := ExpiringStore.live_eq_some_iff.1 h
  have hne : key ≠ key' := by
    rintro rfl
    rw [ExpiringStore.erase_self] at hentry
    cases hentry
  rw [ExpiringStore.erase_of_ne _ hne] at hentry
  exact ⟨hne, ExpiringStore.live_eq_some_iff.2 ⟨hentry, hnow⟩⟩

theorem live_set_of_ne {redis : Redis} {now expiresAt : ℤ} {key key' value : String}
    (hne : key ≠ key') : ExpiringStore.live (redis.set key' value expiresAt) now key =
      redis.live now key := by
  rw [ExpiringStore.live, ExpiringStore.set_of_ne _ _ _ hne]
  rfl

theorem step_survives [DecidableEq ι] {a : SessionAction ι} (hstep : Steps platform s a s') :
    Survives platform s s' := by
  intro key put entry hput hnumber hlive
  cases hstep with
  | elapse duration =>
      obtain ⟨hentry, hnow⟩ := ExpiringStore.live_eq_some_iff.1 hlive
      refine ⟨hput, ExpiringStore.live_eq_some_iff.2 ⟨hentry, ?_⟩⟩
      have hclock : s.clock + duration < entry.expiresAt := hnow
      omega
  | refuse => exact ⟨hput, hlive⟩
  | @put store refreshToken principal ttl =>
      rw [SessionState.putAt, List.find?_cons] at hput
      split at hput
      · cases hput
        exact absurd hnumber (Nat.lt_irrefl _)
      next hkey =>
        have hne : key ≠ platform.cacheKey refreshToken := fun he => of_decide_eq_false hkey he.symm
        exact ⟨hput, (live_set_of_ne hne).symm.trans hlive⟩
  | readIndex hcall => exact ⟨hput, hlive⟩
  | @writeIndex store put' ttl keys hcall =>
      have hne := tokenKey_ne_userIndexKey ⟨_, (putAt_key hput).symm⟩ put'.principal.username
      exact ⟨hput, (live_set_of_ne hne).symm.trans hlive⟩
  | revokePrincipal => exact ⟨hput, hlive⟩
  | deleteKey hcall => exact ⟨hput, (live_of_erase hlive).2⟩
  | deleteIndex hcall => exact ⟨hput, (live_of_erase hlive).2⟩
  | consume => exact ⟨hput, (live_of_erase hlive).2⟩
  | revokeToken => exact ⟨hput, (live_of_erase hlive).2⟩

/-- The unexpired tokens of a user that were put before are among the keys. -/
def Pending (platform : Platform) (s : SessionState ι) (username : String) (before : List ℕ)
    (keys : List String) : Prop :=
  ∀ key put entry, s.putAt platform key = some put → put.number ∈ before →
    put.principal.username = username → s.redis.live s.clock key = some entry → key ∈ keys

theorem Pending.step [DecidableEq ι] {username : String} {before : List ℕ} {keys : List String}
    (h : Pending platform s username before keys) (hbefore : ∀ n ∈ before, n < s.puts.length)
    {a : SessionAction ι} (hstep : Steps platform s a s') :
    Pending platform s' username before keys := by
  intro key put entry hput hn huser hlive
  obtain ⟨hput, hlive⟩ := step_survives hstep key put entry hput (hbefore _ hn) hlive
  exact h key put entry hput hn huser hlive

def SessionCall.Progress (platform : Platform) (s : SessionState ι) : SessionCall → Prop
  | .revoking username keys before => Pending platform s username before keys
  | _ => True

theorem SessionCall.Progress.step [DecidableEq ι] {call : SessionCall} (h : call.Progress platform s)
    (hwithin : call.Within platform s.puts) {a : SessionAction ι} (hstep : Steps platform s a s') :
    call.Progress platform s' := by
  cases call with
  | stored put ttl => trivial
  | listed put ttl keys => trivial
  | revoking username keys before => exact Pending.step h hwithin.2 hstep

/-! ## The index lists the unexpired tokens -/

structure Indexed (platform : Platform) (s : SessionState ι) : Prop where
  kept : ∀ key put, s.putAt platform key = some put → put.number ∉ s.spent →
    s.clock < put.expiresAt → s.redis key = some ⟨encode put.principal, put.expiresAt⟩
  listed : ∀ key put entry, s.putAt platform key = some put → put.number ∈ s.returned →
    s.redis.live s.clock key = some entry →
      ∃ index, s.redis (platform.userIndexKey put.principal.username) = some index ∧
        entry.expiresAt ≤ index.expiresAt ∧ key ∈ decodeIndex (some index.value)
  calls : ∀ store call, s.calls store = some call → call.Progress platform s
  revoked : ∀ revocation ∈ s.revocations,
    Pending platform s revocation.username revocation.before []

/-! ## What `indexCovers` allows -/

/-! ## Runs -/

/-! ## A token that is left over -/

/-- The bytes of a string stand for its digest. -/
def samplePlatform : Platform where
  digest value := value.toByteArray.data.toList
  lowercase value := value

def alice : AuthenticatedPrincipal := ⟨"alice", .operator, ⟨"co-a", rfl⟩, 1, rfl, Nat.one_pos⟩

def bob : AuthenticatedPrincipal := ⟨"bob", .viewer, ⟨"co-a", rfl⟩, 1, rfl, Nat.one_pos⟩

def putCall (refreshToken : String) (principal : AuthenticatedPrincipal) (ttl : ℤ) :
    List (SessionAction Unit) :=
  [.put () refreshToken principal ttl, .readIndex (), .writeIndex ()]

/-- The second put lets the index expire before the first token. -/
def shortenedIndex : List (SessionAction Unit) :=
  putCall "first" alice 7200 ++ putCall "second" alice 60 ++
    [.elapse 60, .revokePrincipal () "alice", .deleteIndex ()]

def separateUsers : List (SessionAction Unit) :=
  putCall "first" alice 7200 ++ putCall "second" bob 60 ++
    [.revokePrincipal () "alice", .deleteKey (), .deleteIndex ()]

/-- The first token, put before the revocation, can be consumed after it. -/
def leftOver (s : SessionState Unit) : Bool :=
  (s.revocations.any fun revocation => revocation.username = "alice" ∧ 0 ∈ revocation.before) &&
    ((s.lastPut "first").any fun put => put.number = 0 ∧ put.principal.username = "alice") &&
      (s.redis.live s.clock (samplePlatform.cacheKey "first")).any fun entry =>
        entry.value = encode alice

end GcsSaker.RefreshSessions
