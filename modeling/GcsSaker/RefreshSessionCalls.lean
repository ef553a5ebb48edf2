import GcsSaker.RefreshSessionStore
import GcsSaker.Runs

/-!
# Calls of the refresh session stores

Several stores work on one Redis. `putRefreshSession` and `revokePrincipalSessions` hold the monitor
of their store and are several commands, between which other stores go on; `consumeRefreshSession`
and `revokeRefreshSession` are one command. The state also tells which puts there were, which of
them returned, and which tokens were consumed or revoked since.
-/

namespace GcsSaker.RefreshSessions

open Groups (AuthenticatedPrincipal Thrown)

/-- A put that has set the key of its token. -/
structure Put where
  number : ℕ
  refreshToken : String
  principal : AuthenticatedPrincipal
  expiresAt : ℤ

/-- Where a call stands that holds the monitor of its store. -/
inductive SessionCall where
  | stored (put : Put) (ttl : ℤ)
  | listed (put : Put) (ttl : ℤ) (keys : List String)
  | revoking (username : String) (keys : List String) (before : List ℕ)

/-- A `revokePrincipalSessions` that returned, with the puts that had returned before it. -/
structure Revocation where
  username : String
  before : List ℕ

structure SessionState (ι : Type) where
  clock : ℤ
  redis : Redis
  calls : ι → Option SessionCall
  puts : List Put
  returned : List ℕ
  spent : List ℕ
  revocations : List Revocation

inductive SessionAction (ι : Type) where
  | elapse (duration : ℕ)
  | put (store : ι) (refreshToken : String) (principal : AuthenticatedPrincipal) (ttl : ℤ)
  | readIndex (store : ι)
  | writeIndex (store : ι)
  | revokePrincipal (store : ι) (username : String)
  | deleteKey (store : ι)
  | deleteIndex (store : ι)
  | consume (refreshToken : String)
  | revokeToken (refreshToken : String)

namespace SessionState

section Commands

variable {ι : Type} (platform : Platform)

def initial (clock : ℤ) : SessionState ι where
  clock := clock
  redis := ExpiringStore.empty
  calls _ := none
  puts := []
  returned := []
  spent := []
  revocations := []

variable (s : SessionState ι)

/-- The last put under a key. -/
def putAt (key : String) : Option Put :=
  s.puts.find? fun put => platform.cacheKey put.refreshToken = key

/-- The last put of a token. -/
def lastPut (refreshToken : String) : Option Put :=
  s.puts.find? fun put => put.refreshToken = refreshToken

def get (key : String) : Option String := s.redis.get s.clock key

/-- What the index of a user lists. -/
def index (username : String) : List String := decodeIndex (s.get (platform.userIndexKey username))

/-- The number of the last put under a key, if it was for a user that `P` allows. -/
def numberAt (P : String → Bool) (key : String) : List ℕ :=
  ((s.putAt platform key).toList.filter fun put => P put.principal.username).map Put.number

def consumeRefreshSession (refreshToken : String) :
    SessionState ι × Except Thrown (Option AuthenticatedPrincipal) :=
  let key := platform.cacheKey refreshToken
  match s.redis.getAndDelete s.clock key with
  | (redis, encoded) =>
    ({ s with redis := redis, spent := s.numberAt platform (fun _ => true) key ++ s.spent },
      encoded.elim (.ok none) decode)

theorem consume_result (refreshToken : String) :
    (s.consumeRefreshSession platform refreshToken).2 =
      (s.get (platform.cacheKey refreshToken)).elim (.ok none) decode := rfl

def revokeRefreshSession (refreshToken : String) : SessionState ι :=
  let key := platform.cacheKey refreshToken
  { s with
    redis := s.redis.erase key
    spent := s.numberAt platform (fun _ => true) key ++ s.spent }

/-! ## What the calls are for -/

/-- No token put for the user before a revocation can be consumed after it, and an unexpired token
of anyone else can, unless it was consumed or revoked itself. -/
structure RevokesAll : Prop where
  revoked : ∀ revocation ∈ s.revocations, ∀ refreshToken put,
    s.lastPut refreshToken = some put → put.number ∈ revocation.before →
      put.principal.username = revocation.username →
        (s.consumeRefreshSession platform refreshToken).2 = .ok none
  others : ∀ refreshToken put, s.lastPut refreshToken = some put → put.number ∉ s.spent →
    s.clock < put.expiresAt →
      (s.consumeRefreshSession platform refreshToken).2 = decode (encode put.principal)

/-- The index that is written lists every unexpired token that it listed, and none of its tokens
outlives it. A token that a revocation deletes is expired or its user's, and the index that it
deletes lists no unexpired token. -/
def indexCovers : SessionAction ι → Bool
  | .writeIndex store => match s.calls store with
    | some (.listed put ttl keys) =>
      let written := addKey keys (platform.cacheKey put.refreshToken)
      (s.index platform put.principal.username ++ written).all fun key =>
        (s.redis.live s.clock key).all fun entry =>
          key ∈ written ∧ entry.expiresAt ≤ s.clock + ttl
    | _ => true
  | .deleteKey store => match s.calls store with
    | some (.revoking username (key :: _) _) =>
      (s.get key).isNone || (s.putAt platform key).all fun put => put.principal.username = username
    | _ => true
  | .deleteIndex store => match s.calls store with
    | some (.revoking username [] _) => (s.index platform username).all fun key => (s.get key).isNone
    | _ => true
  | _ => true

end Commands

/-! ## The calls that hold the monitor -/

variable {ι : Type} [DecidableEq ι] (platform : Platform) (s : SessionState ι)

def put (store : ι) (refreshToken : String) (principal : AuthenticatedPrincipal) (ttl : ℤ) :
    Option (SessionState ι) :=
  match s.calls store with
  | some _ => none
  | none =>
    if ttl ≤ 0 then some s
    else
      let put : Put := ⟨s.puts.length, refreshToken, principal, s.clock + ttl⟩
      some { s with
        redis := s.redis.set (platform.cacheKey refreshToken) (encode principal) (s.clock + ttl)
        calls := Function.update s.calls store (some (.stored put ttl))
        puts := put :: s.puts }

def readIndex (store : ι) : Option (SessionState ι) :=
  match s.calls store with
  | some (.stored put ttl) =>
    let keys := s.index platform put.principal.username
    some { s with calls := Function.update s.calls store (some (.listed put ttl keys)) }
  | _ => none

def writeIndex (store : ι) : Option (SessionState ι) :=
  match s.calls store with
  | some (.listed put ttl keys) =>
    let written := addKey keys (platform.cacheKey put.refreshToken)
    some { s with
      redis := s.redis.set (platform.userIndexKey put.principal.username) (encodeIndex written)
        (s.clock + ttl)
      calls := Function.update s.calls store none
      returned := put.number :: s.returned }
  | _ => none

def revokePrincipal (store : ι) (username : String) : Option (SessionState ι) :=
  match s.calls store with
  | some _ => none
  | none =>
    let call := SessionCall.revoking username (s.index platform username) s.returned
    some { s with calls := Function.update s.calls store (some call) }

def deleteKey (store : ι) : Option (SessionState ι) :=
  match s.calls store with
  | some (.revoking username (key :: keys) before) =>
    some { s with
      redis := s.redis.erase key
      calls := Function.update s.calls store (some (.revoking username keys before))
      spent := s.numberAt platform (· = username) key ++ s.spent }
  | _ => none

def deleteIndex (store : ι) : Option (SessionState ι) :=
  match s.calls store with
  | some (.revoking username [] before) =>
    some { s with
      redis := s.redis.erase (platform.userIndexKey username)
      calls := Function.update s.calls store none
      revocations := ⟨username, before⟩ :: s.revocations }
  | _ => none

def step : SessionAction ι → Option (SessionState ι)
  | .elapse duration => some { s with clock := s.clock + duration }
  | .put store refreshToken principal ttl => s.put platform store refreshToken principal ttl
  | .readIndex store => s.readIndex platform store
  | .writeIndex store => s.writeIndex platform store
  | .revokePrincipal store username => s.revokePrincipal platform store username
  | .deleteKey store => s.deleteKey platform store
  | .deleteIndex store => s.deleteIndex platform store
  | .consume refreshToken => some (s.consumeRefreshSession platform refreshToken).1
  | .revokeToken refreshToken => some (s.revokeRefreshSession platform refreshToken)

end SessionState

/-- The tokens of an action. -/
def SessionAction.token? {ι : Type} : SessionAction ι → Option String
  | .put _ refreshToken _ _ => some refreshToken
  | .consume refreshToken => some refreshToken
  | .revokeToken refreshToken => some refreshToken
  | _ => none

end GcsSaker.RefreshSessions
