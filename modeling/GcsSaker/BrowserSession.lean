import GcsSaker.AuthModels
import GcsSaker.Runs
import Mathlib.Data.Rat.Floor

/-!
# The session of a browser

The store of the session that all requests of a page share, and the requests that write it when
they are answered: logins, logouts and refreshes. The session that a user has begun or ended last
is a record of the model, and so is the number of changes of it.
-/

namespace GcsSaker.BrowserSession

open Groups (UserRole)

structure AuthCapabilities where
  canView : Bool
  canControl : Bool
  canManage : Bool
  canSendTalkback : Bool
  canPublish : Bool
  canManageMembers : Bool
  canManageDevices : Bool
  deriving DecidableEq

structure AuthenticatedUser where
  username : String
  role : UserRole
  groupId : String
  securityVersion : ℕ
  capabilities : AuthCapabilities
  deriving DecidableEq

/-- What `parseTokenResponse` lets through. -/
structure TokenResponse where
  access_token : String
  expires_in_minutes : ℚ
  username : String
  role : UserRole
  group_id : String
  securityVersion : ℕ
  capabilities : AuthCapabilities
  hasToken : access_token ≠ ""
  expiresLater : 0 < expires_in_minutes
  hasUsername : username ≠ ""
  hasGroup : group_id ≠ ""
  deriving DecidableEq

def TokenResponse.user (token : TokenResponse) : AuthenticatedUser :=
  ⟨token.username, token.role, token.group_id, token.securityVersion, token.capabilities⟩

/-! ## The store -/

/-- A promise of a refresh is the number of its request. -/
structure AuthSessionState where
  accessToken : Option String
  accessTokenExpiresAt : Option ℤ
  refreshInFlight : Option ℕ
  user : Option AuthenticatedUser
  deriving DecidableEq

def EMPTY_AUTH_SESSION : AuthSessionState := ⟨none, none, none, none⟩

/-- `new Date(…).toISOString()`, which throws beyond the last day of a date. -/
def expiresAt (token : TokenResponse) (now : ℤ) : Option ℤ :=
  let time := ⌊(now : ℚ) + token.expires_in_minutes * 60000⌋
  if |time| ≤ 8640000000000000 then some time else none

namespace AuthSessionState

variable (store : AuthSessionState)

/-- `persistTokenResponse`, none if it throws. -/
def persist (token : TokenResponse) (now : ℤ) : Option AuthSessionState :=
  (expiresAt token now).map fun time =>
    { store with
      accessToken := some token.access_token
      accessTokenExpiresAt := some time
      user := some token.user }

/-- `getStoredAccessToken` does not answer with the token any more. -/
def isExpired (now : ℤ) : Bool :=
  !(store.accessToken.isSome && store.accessTokenExpiresAt.any (now < ·))

/-- What `getStoredAccessToken` leaves. -/
def readToken (now : ℤ) : AuthSessionState :=
  if store.isExpired now then { store with accessToken := none, accessTokenExpiresAt := none }
  else store

end AuthSessionState

/-! ## Requests -/

/-- A refresh is running until it is answered, and settled when its promise is. -/
inductive Stage where
  | running
  | answered
  | settled
  deriving DecidableEq

structure Refresh where
  epoch : ℕ
  stage : Stage
  deriving DecidableEq

/-- A refused refresh is answered with a status that is not ok; one that failed has no answer, or
none that can be parsed. -/
inductive Answer where
  | token (token : TokenResponse)
  | refused
  | failed

/-- The tokens that refreshes started since the login have brought, and whether a refusal of one of
them or the end of its time has taken the last token away. -/
inductive Session where
  | unknown
  | loggedOut
  | loggedIn (login : TokenResponse) (renewals : List TokenResponse) (lost : Bool)
  deriving DecidableEq

structure Browser where
  store : AuthSessionState
  logins : ℕ
  logouts : ℕ
  refreshes : List Refresh
  session : Session
  epoch : ℕ

inductive Action where
  | startLogin
  | loginAnswered (token : Option TokenResponse) (now : ℤ)
  | logout
  | logoutAnswered
  | refreshOnce
  | refreshAnswered (refresh : ℕ) (answer : Answer) (now : ℤ)
  | refreshSettled (refresh : ℕ)
  | readToken (now : ℤ)

namespace Session

/-- A refresh that was started in the session has brought a token. -/
def renew (token : TokenResponse) : Session → Session
  | .loggedIn login renewals _ => .loggedIn login (token :: renewals) false
  | session => session

def lose : Session → Session
  | .loggedIn login renewals _ => .loggedIn login renewals true
  | session => session

end Session

namespace Browser

def initial : Browser := ⟨EMPTY_AUTH_SESSION, 0, 0, [], .unknown, 0⟩

variable (browser : Browser)

/-- The answer of a login; `login` waits for it and persists the token. -/
def loginAnswered (token : Option TokenResponse) (now : ℤ) : Option Browser :=
  match browser.logins with
  | 0 => none
  | logins + 1 =>
    match token.bind fun token => (browser.store.persist token now).map fun store =>
      (token, store) with
    | none => some { browser with logins }
    | some (token, store) =>
      some { browser with
        store, logins
        session := .loggedIn token [] false
        epoch := browser.epoch + 1 }

/-- `logout` clears the store and sends the request. -/
def logout : Browser :=
  { browser with
    store := EMPTY_AUTH_SESSION
    logouts := browser.logouts + 1
    session := .loggedOut
    epoch := browser.epoch + 1 }

/-- The `finally` of `logoutRequest`. -/
def logoutAnswered : Option Browser :=
  match browser.logouts with
  | 0 => none
  | logouts + 1 => some { browser with store := EMPTY_AUTH_SESSION, logouts }

/-- `refreshSessionOnce`, by a call that met a 401 or by a page without a token. -/
def refreshOnce : Browser :=
  match browser.store.refreshInFlight with
  | some _ => browser
  | none =>
    { browser with
      store := { browser.store with refreshInFlight := some browser.refreshes.length }
      refreshes := browser.refreshes ++ [⟨browser.epoch, .running⟩] }

def answer (refresh : Refresh) (now : ℤ) : Answer → Browser
  | .token token =>
    match browser.store.persist token now with
    | none => browser
    | some store =>
      { browser with
        store
        session := if refresh.epoch = browser.epoch then browser.session.renew token
          else browser.session }
  | .refused =>
    { browser with
      store := EMPTY_AUTH_SESSION
      session := if refresh.epoch = browser.epoch then browser.session.lose else browser.session }
  | .failed => browser

def refreshAnswered (refresh : ℕ) (answer : Answer) (now : ℤ) : Option Browser :=
  match browser.refreshes[refresh]? with
  | some ⟨epoch, .running⟩ =>
    some { browser.answer ⟨epoch, .running⟩ now answer with
      refreshes := browser.refreshes.set refresh ⟨epoch, .answered⟩ }
  | _ => none

/-- The `finally` of `refreshSessionOnce`. -/
def refreshSettled (refresh : ℕ) : Option Browser :=
  match browser.refreshes[refresh]? with
  | some ⟨epoch, .answered⟩ =>
    some { browser with
      store := if browser.store.refreshInFlight = some refresh then
          { browser.store with refreshInFlight := none }
        else browser.store
      refreshes := browser.refreshes.set refresh ⟨epoch, .settled⟩ }
  | _ => none

def readToken (now : ℤ) : Browser :=
  { browser with
    store := browser.store.readToken now
    session := if browser.store.isExpired now then browser.session.lose else browser.session }

def step (browser : Browser) : Action → Option Browser
  | .startLogin => some { browser with logins := browser.logins + 1 }
  | .loginAnswered token now => browser.loginAnswered token now
  | .logout => some browser.logout
  | .logoutAnswered => browser.logoutAnswered
  | .refreshOnce => some browser.refreshOnce
  | .refreshAnswered refresh answer now => browser.refreshAnswered refresh answer now
  | .refreshSettled refresh => browser.refreshSettled refresh
  | .readToken now => some (browser.readToken now)

end Browser

end GcsSaker.BrowserSession
