import GcsSaker.Clock
import GcsSaker.RefreshSessionCalls

/-!
# Login sessions

Calls of `AuthSessionService` over one user table, one hierarchy of groups and the refresh sessions
in Redis. A call reads the clock, the users and the groups one after the other, so that users may
change, sessions end and other calls go on between any two of its steps. JWTs are unforgeable: a
verifier accepts only what was signed here. The principal cache decides nothing and is left out.
-/

namespace GcsSaker.AuthSessions

open Groups (AuthUser AuthenticatedPrincipal GroupId Thrown UserRole require)
open RefreshSessions (SessionAction SessionState makeGroupId makePrincipal roleName roleOf)

/-! ## Tokens -/

/-- The claims of a token, where they may be missing as the code reads them. -/
structure Claims where
  issuer : String
  subject : String
  role : Option String
  groupId : Option String
  securityVersion : Option ℤ
  tokenUse : String
  sessionExpiresAt : Option ℤ
  expiresAt : Option ℤ

/-- `Instant.getEpochSecond` -/
def epochSecond (t : ℤ) : ℤ := t / Clock.second

def ofEpochSecond (seconds : ℤ) : ℤ := seconds * Clock.second

structure VerifiedAccessToken where
  principal : AuthenticatedPrincipal
  remainingTtl : ℤ

structure VerifiedRefreshToken where
  principal : AuthenticatedPrincipal
  sessionExpiresAt : ℤ
  remainingTtl : ℤ

/-- The roles are names in ASCII. -/
def uppercase (text : String) : String := String.ofList (text.toList.map Char.toUpper)

def lowercase (text : String) : String := String.ofList (text.toList.map Char.toLower)

/-- `UserRole.valueOf` -/
def valueOf (name : String) : Except Thrown UserRole :=
  match roleOf name with
  | some role => .ok role
  | none => .error (.illegalArgument
      ("No enum constant kr.co.a4ai.gcssaker.authpolicy.domain.UserRole." ++ name))

def principalFromVerifiedToken (decoded : Claims) : Except Thrown AuthenticatedPrincipal := do
  let role ← decoded.role.elim (.ok .viewer) fun text => valueOf (uppercase text)
  match decoded.groupId with
  | none => .error (.illegalArgument "group_id claim is required")
  | some groupId => do
    let groupId ← makeGroupId groupId
    makePrincipal decoded.subject role groupId (decoded.securityVersion.getD 1)

/-- `numericDate` is the second that the JWT library writes for a date. -/
structure JwtTokenService where
  issuer : String
  accessTokenTtl : ℤ
  refreshTokenTtl : ℤ
  absoluteSessionTtl : ℤ
  numericDate : ℤ → ℤ
  issuerNotBlank : JvmText.isBlank issuer = false
  accessTokenTtlPositive : 0 < accessTokenTtl
  refreshTokenTtlPositive : 0 < refreshTokenTtl
  refreshTokenTtl_le : refreshTokenTtl ≤ absoluteSessionTtl

namespace JwtTokenService

variable (service : JwtTokenService)

def issueToken (principal : AuthenticatedPrincipal) (tokenUse : String) (expiresAt : ℤ)
    (sessionExpiresAt : Option ℤ) : Claims where
  issuer := service.issuer
  subject := principal.username
  role := some (lowercase (roleName principal.role))
  groupId := some principal.groupId.value
  securityVersion := some principal.securityVersion
  tokenUse := tokenUse
  sessionExpiresAt := sessionExpiresAt.map epochSecond
  expiresAt := some (service.numericDate expiresAt)

def issueAccessToken (now : ℤ) (principal : AuthenticatedPrincipal) : Claims :=
  service.issueToken principal "access" (now + service.accessTokenTtl) none

/-- The end of the session, which a login sets and a refresh keeps. -/
def deadline (now : ℤ) (sessionExpiresAt : Option ℤ) : ℤ :=
  sessionExpiresAt.getD (now + service.absoluteSessionTtl)

def issueRefreshToken (now : ℤ) (principal : AuthenticatedPrincipal)
    (sessionExpiresAt : Option ℤ) : Except Thrown Claims := do
  let deadline := service.deadline now sessionExpiresAt
  require (now < deadline) "session is expired"
  return service.issueToken principal "refresh" (min (now + service.refreshTokenTtl) deadline)
    (some deadline)

def verifyAccessTokenWithTtl (now : ℤ) (decoded : Claims) : Except Thrown VerifiedAccessToken :=
  match decoded.expiresAt with
  | none => .error (.illegalArgument "exp claim is required")
  | some seconds => do
    let remainingTtl := ofEpochSecond seconds - now
    require (0 < remainingTtl) "access token is expired"
    let principal ← principalFromVerifiedToken decoded
    return ⟨principal, remainingTtl⟩

def verifyRefreshTokenWithTtl (now : ℤ) (decoded : Claims) : Except Thrown VerifiedRefreshToken :=
  match decoded.expiresAt with
  | none => .error (.illegalArgument "exp claim is required")
  | some seconds => do
    let expiresAt := ofEpochSecond seconds
    let sessionExpiresAt := (decoded.sessionExpiresAt.map ofEpochSecond).getD expiresAt
    require (now < sessionExpiresAt) "session is expired"
    let remainingTtl := min expiresAt sessionExpiresAt - now
    require (0 < remainingTtl) "refresh token is expired"
    let principal ← principalFromVerifiedToken decoded
    return ⟨principal, sessionExpiresAt, remainingTtl⟩

def accessTokenExpiresInMinutes : ℤ := service.accessTokenTtl / (60 * Clock.second)

end JwtTokenService

/-! ## Calls -/

/-- What `issueTokens` has issued. The record also tells which refresh token the pair was issued
for, if it is not of a login, and at which time the deadline of its session was set. -/
structure TokenPair where
  accessToken : String
  access : Claims
  refreshToken : String
  refresh : Claims
  principal : AuthenticatedPrincipal
  parent : Option String
  loginAt : ℤ

/-- The claims of a string that was signed here. -/
def TokenPair.claimsOf (pair : TokenPair) (token : String) : Option Claims :=
  if token = pair.accessToken then some pair.access
  else if token = pair.refreshToken then some pair.refresh
  else none

structure IssuedTokenSet where
  accessToken : String
  refreshToken : String
  expiresInMinutes : ℤ
  refreshExpiresInSeconds : ℤ
  principal : AuthenticatedPrincipal

/-- A refresh goes on with the pair of its token and the end of its session. -/
abbrev Origin : Type := TokenPair × ℤ

/-- What a call reads the user for. -/
inductive Purpose where
  | login (username password : String) (mfaCode : Option String)
  | refresh (origin : Origin) (principal : AuthenticatedPrincipal)
  | access (principal : AuthenticatedPrincipal)

def Purpose.username : Purpose → String
  | .login username _ _ => username
  | .refresh _ principal => principal.username
  | .access principal => principal.username

/-- How far a call has come. `refused` is a return of null or one of the errors of the service, and
`failed` an error of anything that it calls. -/
inductive Stage where
  | refresh (refreshToken : String)
  | access (accessToken : String)
  | consuming (refreshToken : String) (parent : TokenPair) (verified : VerifiedRefreshToken)
  | finding (purpose : Purpose)
  | checking (purpose : Purpose) (user : AuthUser)
  | issuing (principal : AuthenticatedPrincipal) (origin : Option Origin)
  | accessIssued (principal : AuthenticatedPrincipal) (origin : Option Origin)
      (accessToken : String) (issuedAt : ℤ)
  | refreshIssued (pair : TokenPair)
  | putting (put : ℕ) (tokens : IssuedTokenSet)
  | returned (tokens : IssuedTokenSet)
  | verified (principal : AuthenticatedPrincipal)
  | refused (thrown : Option Thrown)
  | failed

namespace Stage

/-- The token was taken for good. -/
def passed : Stage → Bool
  | .issuing _ _ => true
  | .accessIssued _ _ _ _ => true
  | .refreshIssued _ => true
  | .putting _ _ => true
  | .returned _ => true
  | .verified _ => true
  | _ => false

def finished : Stage → Bool
  | .returned _ => true
  | .verified _ => true
  | .refused _ => true
  | .failed => true
  | _ => false

end Stage

inductive Request where
  | login (username password : String) (mfaCode : Option String)
  | refresh (refreshToken : String)
  | verifyAccessToken (accessToken : String)

def Request.start : Request → Stage
  | .login username password mfaCode => .finding (.login username password mfaCode)
  | .refresh refreshToken => .refresh refreshToken
  | .verifyAccessToken accessToken => .access accessToken

structure AuthSessionService where
  tokenService : JwtTokenService
  verifyPassword : String → String → Bool
  verifyMfa : AuthenticatedPrincipal → Option String → Bool
  platform : RefreshSessions.Platform

def principalOf (user : AuthUser) : AuthenticatedPrincipal where
  username := user.username
  role := user.role
  groupId := user.groupId
  securityVersion := user.securityVersion
  usernameNotBlank := user.usernameNotBlank
  securityVersionPositive := user.securityVersionPositive

instance : DecidableEq AuthenticatedPrincipal := fun principal principal' =>
  decidable_of_iff (principal.username = principal'.username ∧ principal.role = principal'.role ∧
    principal.groupId = principal'.groupId ∧
    principal.securityVersion = principal'.securityVersion) (by
      cases principal
      cases principal'
      simp only [AuthenticatedPrincipal.mk.injEq])

/-- `groups` are those of the current hierarchy, the active ones. -/
structure AuthState (ι : Type) where
  users : String → Option AuthUser
  groups : GroupId → Bool
  sessions : SessionState ι
  pairs : List TokenPair
  calls : ℕ → Option Stage

namespace AuthState

variable {ι : Type} (service : AuthSessionService) (s : AuthState ι)

def initial (users : String → Option AuthUser) (groups : GroupId → Bool) (clock : ℤ) :
    AuthState ι where
  users := users
  groups := groups
  sessions := SessionState.initial clock
  pairs := []
  calls _ := none

def moveTo (call : ℕ) (stage : Stage) : AuthState ι :=
  { s with calls := Function.update s.calls call (some stage) }

/-- A string was signed here, for this issuer and this use. -/
def verify (tokenUse token : String) : Option (TokenPair × Claims) :=
  s.pairs.findSome? fun pair =>
    ((pair.claimsOf token).filter fun decoded =>
      decoded.issuer = service.tokenService.issuer ∧ decoded.tokenUse = tokenUse).map (pair, ·)

/-- The verifier of the library may also refuse, as it reads a clock of its own. -/
def verifyRefreshToken (now : ℤ) (accepted : Bool) (refreshToken : String) : Stage :=
  match s.verify service "refresh" refreshToken, accepted with
  | some (parent, decoded), true =>
    match JwtTokenService.verifyRefreshTokenWithTtl now decoded with
    | .ok verified => .consuming refreshToken parent verified
    | .error thrown => .refused (some thrown)
  | _, _ => .failed

def verifyAccessToken (now : ℤ) (accepted : Bool) (accessToken : String) : Stage :=
  match s.verify service "access" accessToken, accepted with
  | some (_, decoded), true =>
    match JwtTokenService.verifyAccessTokenWithTtl now decoded with
    | .ok verified => .finding (.access verified.principal)
    | .error thrown => .refused (some thrown)
  | _, _ => .failed

def find (purpose : Purpose) : Stage :=
  match s.users purpose.username with
  | some user => .checking purpose user
  | none =>
    match purpose with
    | .access _ => .refused (some (.illegalArgument "user is not active"))
    | _ => .refused none

/-- Where the hierarchy is not available, no group counts as active. -/
def isGroupActive (available : Bool) (groupId : GroupId) : Bool := available && s.groups groupId

def canAuthenticate (available : Bool) (user : AuthUser) : Bool :=
  user.active && (user.role = .admin || s.isGroupActive available user.groupId)

def check (available : Bool) (user : AuthUser) : Purpose → Stage
  | .login _ password mfaCode =>
    if s.canAuthenticate available user ∧ service.verifyPassword password user.passwordHash ∧
        service.verifyMfa (principalOf user) mfaCode then .issuing (principalOf user) none
    else .refused none
  | .refresh origin principal =>
    if s.canAuthenticate available user ∧ user.securityVersion = principal.securityVersion then
      .issuing (principalOf user) (some origin)
    else .refused none
  | .access principal =>
    if s.canAuthenticate available user ∧ user.securityVersion = principal.securityVersion then
      .verified (principalOf user)
    else .refused (some (.illegalArgument "access token security version is stale"))

end AuthState

/-- What was stored for the token has to be what was signed. -/
def authoritativePrincipal (parent : TokenPair) (verified : VerifiedRefreshToken) :
    Except Thrown (Option AuthenticatedPrincipal) → Stage
  | .ok (some stored) =>
    if stored = verified.principal then
      .finding (.refresh (parent, verified.sessionExpiresAt) stored)
    else .refused none
  | .ok none => .refused none
  | .error thrown => .refused (some thrown)

/-! ## Steps -/

/-- `release` is a command of Redis that fails under the monitor of a store, which is left. -/
inductive Action (ι : Type) where
  | save (user : AuthUser)
  | update (user : AuthUser)
  | setGroup (groupId : GroupId) (active : Bool)
  | session (action : SessionAction ι)
  | release (store : ι)
  | start (call : ℕ) (request : Request)
  | verifyRefreshToken (call : ℕ) (now : ℤ) (accepted : Bool)
  | verifyAccessToken (call : ℕ) (now : ℤ) (accepted : Bool)
  | consume (call : ℕ)
  | find (call : ℕ)
  | check (call : ℕ) (available : Bool)
  | issueAccessToken (call : ℕ) (now : ℤ) (accessToken : String)
  | issueRefreshToken (call : ℕ) (now : ℤ) (refreshToken : String)
  | put (call : ℕ) (store : ι) (now : ℤ) (accepted : Bool)
  | finish (call : ℕ)
  | fail (call : ℕ)

/-- The pair of a login, or of a refresh that goes on with an earlier one. -/
def newPair (service : AuthSessionService) (principal : AuthenticatedPrincipal)
    (origin : Option Origin) (accessToken : String) (issuedAt : ℤ) (refreshToken : String) (now : ℤ)
    (refresh : Claims) : TokenPair where
  accessToken := accessToken
  access := service.tokenService.issueAccessToken issuedAt principal
  refreshToken := refreshToken
  refresh := refresh
  principal := principal
  parent := origin.map fun origin => origin.1.refreshToken
  loginAt := origin.elim now fun origin => origin.1.loginAt

/-- The commands of the sessions that are not steps of a call here. -/
def isOutside {ι : Type} : SessionAction ι → Bool
  | .put _ _ _ _ => false
  | .consume _ => false
  | _ => true

namespace AuthState

variable {ι : Type} [DecidableEq ι] (service : AuthSessionService) (s : AuthState ι)

/-- A user is added, or changed without lowering the security version. -/
def save (user : AuthUser) : Option (AuthState ι) :=
  match s.users user.username with
  | some _ => none
  | none => some { s with users := Function.update s.users user.username (some user) }

def update (user : AuthUser) : Option (AuthState ι) :=
  match s.users user.username with
  | none => none
  | some current =>
    if current.id = user.id ∧ current.securityVersion ≤ user.securityVersion then
      some { s with users := Function.update s.users user.username (some user) }
    else none

def consume (call : ℕ) : Option (AuthState ι) :=
  match s.calls call with
  | some (.consuming refreshToken parent verified) =>
    match s.sessions.consumeRefreshSession service.platform refreshToken with
    | (sessions, stored) =>
      some { s.moveTo call (authoritativePrincipal parent verified stored) with sessions }
  | _ => none

/-- A random id is in every token, so that no two tokens are the same. -/
def isNew (token : String) : Prop := ∀ pair ∈ s.pairs, pair.claimsOf token = none

instance {s : AuthState ι} {token : String} : Decidable (s.isNew token) :=
  inferInstanceAs (Decidable (∀ pair ∈ s.pairs, _))

def issueRefreshToken (call : ℕ) (now : ℤ) (refreshToken : String) : Option (AuthState ι) :=
  match s.calls call with
  | some (.accessIssued principal origin accessToken issuedAt) =>
    if s.isNew accessToken ∧ s.isNew refreshToken ∧ accessToken ≠ refreshToken then
      match service.tokenService.issueRefreshToken now principal (origin.map Prod.snd) with
      | .error thrown => some (s.moveTo call (.refused (some thrown)))
      | .ok refresh =>
        let pair := newPair service principal origin accessToken issuedAt refreshToken now refresh
        some { s.moveTo call (.refreshIssued pair) with pairs := pair :: s.pairs }
    else none
  | _ => none

def put (call : ℕ) (store : ι) (now : ℤ) (accepted : Bool) : Option (AuthState ι) :=
  match s.calls call, accepted with
  | some (.refreshIssued pair), true =>
    match JwtTokenService.verifyRefreshTokenWithTtl now pair.refresh with
    | .error thrown => some (s.moveTo call (.refused (some thrown)))
    | .ok verified =>
      let tokens : IssuedTokenSet :=
        { accessToken := pair.accessToken, refreshToken := pair.refreshToken
          expiresInMinutes := service.tokenService.accessTokenExpiresInMinutes
          refreshExpiresInSeconds := epochSecond verified.remainingTtl
          principal := pair.principal }
      let sessions := s.sessions.put service.platform store pair.refreshToken pair.principal
        verified.remainingTtl
      sessions.map fun sessions =>
        { s.moveTo call (.putting s.sessions.puts.length tokens) with sessions }
  | some (.refreshIssued _), false => some (s.moveTo call .failed)
  | _, _ => none

def step : Action ι → Option (AuthState ι)
  | .save user => s.save user
  | .update user => s.update user
  | .setGroup groupId active => some { s with groups := Function.update s.groups groupId active }
  | .session action =>
    if isOutside action then
      (s.sessions.step service.platform action).map fun sessions => { s with sessions }
    else none
  | .release store =>
    let calls := Function.update s.sessions.calls store none
    some { s with sessions := { s.sessions with calls } }
  | .start call request =>
    match s.calls call with
    | some _ => none
    | none => some (s.moveTo call request.start)
  | .verifyRefreshToken call now accepted =>
    match s.calls call with
    | some (.refresh refreshToken) =>
      some (s.moveTo call (s.verifyRefreshToken service now accepted refreshToken))
    | _ => none
  | .verifyAccessToken call now accepted =>
    match s.calls call with
    | some (.access accessToken) =>
      some (s.moveTo call (s.verifyAccessToken service now accepted accessToken))
    | _ => none
  | .consume call => s.consume service call
  | .find call =>
    match s.calls call with
    | some (.finding purpose) => some (s.moveTo call (s.find purpose))
    | _ => none
  | .check call available =>
    match s.calls call with
    | some (.checking purpose user) =>
      some (s.moveTo call (s.check service available user purpose))
    | _ => none
  | .issueAccessToken call now accessToken =>
    match s.calls call with
    | some (.issuing principal origin) =>
      some (s.moveTo call (.accessIssued principal origin accessToken now))
    | _ => none
  | .issueRefreshToken call now refreshToken => s.issueRefreshToken service call now refreshToken
  | .put call store now accepted => s.put service call store now accepted
  | .finish call =>
    match s.calls call with
    | some (.putting put tokens) =>
      if put ∈ s.sessions.returned then some (s.moveTo call (.returned tokens)) else none
    | _ => none
  | .fail call =>
    match s.calls call with
    | some stage => if stage.finished then none else some (s.moveTo call .failed)
    | none => none

end AuthState

/-- The refresh token that an action issues. -/
def Action.token? {ι : Type} : Action ι → Option String
  | .issueRefreshToken _ _ refreshToken => some refreshToken
  | _ => none

end GcsSaker.AuthSessions
