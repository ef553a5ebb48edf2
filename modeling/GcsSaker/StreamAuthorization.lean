import GcsSaker.GoMap
import GcsSaker.Clock

/-!
# Stream authorization and its cache

The policy client's reading of a stream decision, the cache in front of it and the check that the
dashboard handlers make on its answer. A call carries the answer the inner authorizer gives should
it be asked, and the order in which the eviction loop happens to range over the map. `digest` is
the hexadecimal SHA-256 of a string; nothing below depends on which function it is.
-/

namespace GcsSaker.StreamAuthorization

inductive StreamError where
  | accessDenied
  | authenticationRequired
  | other (message : String)
  | wrap (message : String) (cause : StreamError)
  | join (left right : StreamError)
  deriving DecidableEq

/-- `errors.Is(err, domain.ErrStreamAccessDenied)`. -/
def StreamError.isAccessDenied : StreamError → Bool
  | .accessDenied => true
  | .authenticationRequired => false
  | .other _ => false
  | .wrap _ cause => cause.isAccessDenied
  | .join left right => left.isAccessDenied || right.isAccessDenied

structure StreamAccessTarget where
  streamID : String
  path : String
  publisherGroupID : String
  action : String
  deriving DecidableEq

structure StreamAccessDecision where
  streamID : String
  allowed : Bool
  reason : String
  principalID : String
  groupID : String
  expiresAt : Option ℤ
  policyVersion : String
  principalVersion : String
  securityVersion : ℤ
  deriving DecidableEq

/-- The zero `StreamAccessDecision`. -/
def zeroDecision : StreamAccessDecision := ⟨"", false, "", "", "", none, "", "", 0⟩

def denyStream (streamID reason : String) : StreamAccessDecision :=
  { zeroDecision with streamID := streamID, allowed := false, reason := reason }

abbrev Answer := StreamAccessDecision × Option StreamError

/-- `decodeStreamDecision`; `body` is what the JSON decoder leaves in the decision, with its
error if it has one. -/
def decodeStreamDecision (status : ℕ) (body : StreamAccessDecision × Option String)
    (streamID : String) : Answer :=
  if status = 401 then
    (denyStream streamID "authentication required", some .authenticationRequired)
  else if status = 403 then (denyStream streamID "stream access denied", some .accessDenied)
  else if status < 200 ∨ 300 ≤ status then
    (zeroDecision, some (.other ("auth-policy stream access returned status " ++ toString status)))
  else match body.2 with
    | some message => (body.1, some (.other message))
    | none => if body.1.allowed then (body.1, none) else (body.1, some .accessDenied)

structure CachedDecision where
  decision : StreamAccessDecision
  expiresAt : ℤ
  deriving DecidableEq

structure CachedAuthorizer where
  ttl : ℤ
  entries : AList fun _ : String => CachedDecision
  maxEntries : ℤ

def defaultAuthorizationCacheMaxEntries : ℤ := 4096

def newCachedAuthorizer (ttl : ℤ) : CachedAuthorizer :=
  ⟨ttl, ∅, defaultAuthorizationCacheMaxEntries⟩

def cacheKey (digest : String → String) (authorization : String) (target : StreamAccessTarget) :
    String :=
  digest (authorization ++ "\x00" ++ target.streamID ++ "\x00" ++ target.path ++ "\x00" ++
    target.publisherGroupID ++ "\x00" ++ target.action)

/-- One call of `AuthorizeStream`, its start time `now`, the answer of the inner authorizer and
the order `scan` in which `evictOldestLocked` meets the keys of the map. -/
structure AuthorizeCall where
  authorization : String
  target : StreamAccessTarget
  now : ℤ
  answer : Answer
  scan : List String

def AuthorizeCall.key (digest : String → String) (call : AuthorizeCall) : String :=
  cacheKey digest call.authorization call.target

/-- Only a success and a denial go on to the cache; every other error is handed back as it is. -/
def cacheable (answer : Answer) : Bool :=
  match answer.2 with
  | none => true
  | some err => err.isAccessDenied

/-- When an entry made at `now` ends: after `ttl`, or with the decision if that comes first. -/
def storedExpiry (ttl now : ℤ) (decision : StreamAccessDecision) : ℤ :=
  match decision.expiresAt with
  | none => now + ttl
  | some expiresAt => if expiresAt < now + ttl then expiresAt else now + ttl

namespace CachedAuthorizer

variable (c : CachedAuthorizer)

def pruneLocked (now : ℤ) : CachedAuthorizer :=
  { c with entries := GoMap.sweep (fun _ entry => decide (entry.expiresAt ≤ now)) c.entries }

/-- The key that the loop of `evictOldestLocked` has settled on after meeting the keys of `scan`,
with its expiry. -/
def oldestEntry (scan : List String) : String × ℤ :=
  scan.foldl (fun best key => match c.entries.lookup key with
    | none => best
    | some entry =>
      if best.1 = "" ∨ entry.expiresAt < best.2 then (key, entry.expiresAt) else best)
    ("", Clock.zeroTime)

def evictOldestLocked (scan : List String) : CachedAuthorizer :=
  if c.maxEntries ≤ 0 ∨ (c.entries.entries.length : ℤ) < c.maxEntries then c
  else { c with entries := c.entries.erase (c.oldestEntry scan).1 }

/-- The first critical section: a fresh entry is returned, a stale one is deleted. -/
def lookupLocked (key : String) (now : ℤ) : CachedAuthorizer × Option CachedDecision :=
  match c.entries.lookup key with
  | none => (c, none)
  | some entry =>
    if now < entry.expiresAt then (c, some entry)
    else ({ c with entries := c.entries.erase key }, none)

/-- The second critical section, entered only when the decision outlives `now`. -/
def storeLocked (key : String) (now : ℤ) (decision : StreamAccessDecision) (scan : List String) :
    CachedAuthorizer :=
  let expiresAt := storedExpiry c.ttl now decision
  if now < expiresAt then
    let evicted := (c.pruneLocked now).evictOldestLocked scan
    { evicted with entries := evicted.entries.insert key ⟨decision, expiresAt⟩ }
  else c

def authorizeStream (digest : String → String) (call : AuthorizeCall) :
    CachedAuthorizer × Answer :=
  if c.ttl ≤ 0 then (c, call.answer)
  else match c.lookupLocked (call.key digest) call.now with
    | (c', some entry) => (c', (entry.decision, none))
    | (c', none) =>
      if cacheable call.answer then
        (c'.storeLocked (call.key digest) call.now call.answer.1 call.scan, call.answer)
      else (c', call.answer)

/-- The call is answered without asking the inner authorizer. -/
def answersFromCache (digest : String → String) (call : AuthorizeCall) : Bool :=
  decide (0 < c.ttl) && (c.lookupLocked (call.key digest) call.now).2.isSome

/-- The call asks the inner authorizer and stores its decision. -/
def fillsEntry (digest : String → String) (call : AuthorizeCall) : Bool :=
  decide (0 < c.ttl) && (c.lookupLocked (call.key digest) call.now).2.isNone &&
    cacheable call.answer && decide (call.now < storedExpiry c.ttl call.now call.answer.1)

end CachedAuthorizer

/-- `Server.requireStreamAccess`: the target is resolved, the authorizer is asked, and of its
answer only the error is kept. -/
def requireStreamAccess (target : Except StreamError StreamAccessTarget)
    (authorize : StreamAccessTarget → Answer) : Option StreamError :=
  match target with
  | .error err => some err
  | .ok target => (authorize target).2

/-- A call together with the answer it got. -/
structure Exchange where
  call : AuthorizeCall
  answer : Answer
  fromCache : Bool
  filled : Bool

/-- The cache and the exchanges so far, the latest first. -/
structure Served where
  cache : CachedAuthorizer
  history : List Exchange

def serve (digest : String → String) (s : Served) (call : AuthorizeCall) : Served :=
  let served := s.cache.authorizeStream digest call
  ⟨served.1, ⟨call, served.2, s.cache.answersFromCache digest call,
    s.cache.fillsEntry digest call⟩ :: s.history⟩

/-- The exchanges of a sequence of calls on an initially empty cache. -/
def serveAll (digest : String → String) (ttl maxEntries : ℤ) (calls : List AuthorizeCall) :
    Served :=
  calls.foldl (serve digest) ⟨⟨ttl, ∅, maxEntries⟩, []⟩

end GcsSaker.StreamAuthorization
