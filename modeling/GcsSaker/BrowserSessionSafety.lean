import GcsSaker.BrowserSession

/-!
# The session of a browser is safe

As long as no request is answered into a session that it was not made for, the store has no token
after a logout, the token of the session after a login, and one refresh at most is running.
-/

namespace GcsSaker.BrowserSession

open Runs (run Along)

/-! ## Safety -/

def Refresh.isRunning (refresh : Refresh) : Bool := refresh.stage = .running

namespace AuthSessionState

/-- The store has the token and the user of a response. -/
def Holds (store : AuthSessionState) (token : TokenResponse) : Prop :=
  store.accessToken = some token.access_token ∧ store.user = some token.user

instance {store : AuthSessionState} {token : TokenResponse} : Decidable (store.Holds token) :=
  inferInstanceAs (Decidable (_ ∧ _))

end AuthSessionState

def Session.isLoggedIn : Session → Bool
  | .loggedIn _ _ _ => true
  | _ => false

/-- What the store has in a session. -/
def Session.Agrees (store : AuthSessionState) : Session → Prop
  | .unknown => True
  | .loggedOut => store.accessToken = none
  | .loggedIn login renewals lost =>
    if lost then store.accessToken = none else ∃ token ∈ login :: renewals, store.Holds token

namespace Browser

structure Safe (browser : Browser) : Prop where
  agrees : browser.session.Agrees browser.store
  oneRefresh : browser.refreshes.countP Refresh.isRunning ≤ 1

/-- What is asked of a step: no logout is answered after a later login, no refresh brings a token
into another session than its own or into none, none is refused in a later login, and none is
started that the store does not know of. -/
def InSession (browser : Browser) : Action → Prop
  | .logoutAnswered => browser.session.isLoggedIn = false
  | .refreshOnce => browser.store.refreshInFlight = none →
      browser.refreshes.countP Refresh.isRunning = 0
  | .refreshAnswered refresh (.token _) _ =>
    ∀ request ∈ browser.refreshes[refresh]?,
      request.epoch = browser.epoch ∧ browser.session ≠ .loggedOut
  | .refreshAnswered refresh .refused _ =>
    ∀ request ∈ browser.refreshes[refresh]?,
      browser.session.isLoggedIn = true → request.epoch = browser.epoch
  | _ => True

instance {browser : Browser} : ∀ action, Decidable (browser.InSession action)
  | .startLogin => inferInstanceAs (Decidable True)
  | .loginAnswered _ _ => inferInstanceAs (Decidable True)
  | .logout => inferInstanceAs (Decidable True)
  | .logoutAnswered => inferInstanceAs (Decidable (_ = false))
  | .refreshOnce => inferInstanceAs (Decidable (_ = none → _ = 0))
  | .refreshAnswered _ (.token _) _ => inferInstanceAs (Decidable (∀ request ∈ _, _ ∧ _ ≠ _))
  | .refreshAnswered _ .refused _ => inferInstanceAs (Decidable (∀ request ∈ _, _ = true → _))
  | .refreshAnswered _ .failed _ => inferInstanceAs (Decidable True)
  | .refreshSettled _ => inferInstanceAs (Decidable True)
  | .readToken _ => inferInstanceAs (Decidable True)

end Browser

/-! ## Stores -/

variable {store store' : AuthSessionState} {token : TokenResponse} {now : ℤ}

theorem AuthSessionState.persist_holds (h : store.persist token now = some store') :
    store'.Holds token := by
  obtain ⟨time, -, rfl⟩ := Option.map_eq_some_iff.1 h
  exact ⟨rfl, rfl⟩

/-- A session agrees with a store by its token and its user. -/
theorem Session.agrees_congr (htoken : store'.accessToken = store.accessToken)
    (huser : store'.user = store.user) {session : Session} (h : session.Agrees store) :
    session.Agrees store' := by
  cases session with
  | unknown => trivial
  | loggedOut => exact htoken.trans h
  | loggedIn login renewals lost =>
      unfold Session.Agrees AuthSessionState.Holds at h ⊢
      rwa [htoken, huser]

theorem Session.agrees_renew {session : Session} (hholds : store.Holds token)
    (hout : session ≠ .loggedOut) : (session.renew token).Agrees store := by
  cases session with
  | unknown => trivial
  | loggedOut => exact absurd rfl hout
  | loggedIn login renewals lost =>
      exact ⟨token, List.mem_cons_of_mem login (List.mem_cons_self ..), hholds⟩

/-- A session that lost its token agrees with a store that has none. -/
theorem Session.agrees_lose (h : store.accessToken = none) (session : Session) :
    session.lose.Agrees store := by
  cases session with
  | unknown => trivial
  | loggedOut => exact h
  | loggedIn login renewals lost => exact h

theorem Session.agrees_of_not_loggedIn (h : store.accessToken = none) {session : Session}
    (hsession : session.isLoggedIn = false) : session.Agrees store := by
  cases session with
  | unknown => trivial
  | loggedOut => exact h
  | loggedIn login renewals lost => exact absurd hsession.symm Bool.false_ne_true

/-! ## Steps -/

theorem countP_set_le {refreshes : List Refresh} {index : ℕ} {refresh : Refresh}
    (h : refresh.isRunning = false) :
    (refreshes.set index refresh).countP Refresh.isRunning ≤
      refreshes.countP Refresh.isRunning := by
  induction refreshes generalizing index with
  | nil => exact le_rfl
  | cons first refreshes ih =>
      cases index with
      | zero =>
          rw [List.set_cons_zero, List.countP_cons, List.countP_cons, h, if_neg Bool.false_ne_true]
          omega
      | succ index =>
          rw [List.set_cons_succ, List.countP_cons, List.countP_cons]
          have hrest := @ih index
          omega

namespace Browser

variable {browser browser' : Browser}

theorem Safe.loginAnswered (h : browser.Safe) {token : Option TokenResponse}
    (hstep : browser.loginAnswered token now = some browser') : browser'.Safe := by
  unfold Browser.loginAnswered at hstep
  cases hlogins : browser.logins with
  | zero =>
      rw [hlogins] at hstep
      cases hstep
  | succ logins =>
      rw [hlogins] at hstep
      dsimp only at hstep
      split at hstep
      next =>
        cases hstep
        exact ⟨h.agrees, h.oneRefresh⟩
      next token' store hpersist =>
        cases hstep
        obtain ⟨token, -, hpersist⟩ := Option.bind_eq_some_iff.1 hpersist
        obtain ⟨store', hpersist, heq⟩ := Option.map_eq_some_iff.1 hpersist
        cases heq
        have hholds := AuthSessionState.persist_holds hpersist
        exact ⟨⟨token', List.mem_cons_self .., hholds⟩, h.oneRefresh⟩

theorem Safe.logoutAnswered (h : browser.Safe) (hin : browser.InSession .logoutAnswered)
    (hstep : browser.logoutAnswered = some browser') : browser'.Safe := by
  unfold Browser.logoutAnswered at hstep
  cases hlogouts : browser.logouts with
  | zero =>
      rw [hlogouts] at hstep
      cases hstep
  | succ logouts =>
      rw [hlogouts] at hstep
      cases hstep
      exact ⟨Session.agrees_of_not_loggedIn rfl hin, h.oneRefresh⟩

theorem Safe.refreshOnce (h : browser.Safe) (hin : browser.InSession .refreshOnce) :
    browser.refreshOnce.Safe := by
  unfold Browser.refreshOnce
  split
  next => exact h
  next hnone =>
    refine ⟨Session.agrees_congr rfl rfl h.agrees, ?_⟩
    have hidle : browser.refreshes.countP Refresh.isRunning = 0 := hin hnone
    rw [List.countP_append, hidle]
    exact le_rfl

/-- What an answer makes of the session and the store. -/
theorem agrees_answer (h : browser.Safe) {refresh : ℕ} {epoch : ℕ} {answer : Answer}
    (hrefresh : browser.refreshes[refresh]? = some ⟨epoch, .running⟩)
    (hin : browser.InSession (.refreshAnswered refresh answer now)) :
    (browser.answer ⟨epoch, .running⟩ now answer).session.Agrees
      (browser.answer ⟨epoch, .running⟩ now answer).store := by
  cases answer with
  | token token =>
      obtain ⟨hepoch, hout⟩ := hin ⟨epoch, .running⟩ hrefresh
      unfold Browser.answer
      dsimp only at hepoch ⊢
      split
      next => exact h.agrees
      next store hpersist =>
        rw [if_pos hepoch]
        exact Session.agrees_renew (AuthSessionState.persist_holds hpersist) hout
  | refused =>
      unfold Browser.answer
      dsimp only
      split_ifs with hepoch
      · exact Session.agrees_lose rfl browser.session
      · apply Session.agrees_of_not_loggedIn rfl
        rw [← Bool.not_eq_true]
        exact fun hsession => hepoch (hin ⟨epoch, .running⟩ hrefresh hsession)
  | failed => exact h.agrees

theorem Safe.refreshAnswered (h : browser.Safe) {refresh : ℕ} {answer : Answer}
    (hin : browser.InSession (.refreshAnswered refresh answer now))
    (hstep : browser.refreshAnswered refresh answer now = some browser') : browser'.Safe := by
  unfold Browser.refreshAnswered at hstep
  split at hstep
  next epoch hrefresh =>
    cases hstep
    exact ⟨agrees_answer h hrefresh hin, (countP_set_le rfl).trans h.oneRefresh⟩
  next => cases hstep

theorem Safe.refreshSettled (h : browser.Safe) {refresh : ℕ}
    (hstep : browser.refreshSettled refresh = some browser') : browser'.Safe := by
  unfold Browser.refreshSettled at hstep
  split at hstep
  next epoch hrefresh =>
    cases hstep
    refine ⟨?_, (countP_set_le rfl).trans h.oneRefresh⟩
    dsimp only
    split_ifs
    · exact Session.agrees_congr rfl rfl h.agrees
    · exact h.agrees
  next => cases hstep

theorem Safe.readToken (h : browser.Safe) (now : ℤ) : (browser.readToken now).Safe := by
  refine ⟨?_, h.oneRefresh⟩
  unfold Browser.readToken AuthSessionState.readToken
  dsimp only
  split_ifs
  · exact Session.agrees_lose rfl browser.session
  · exact h.agrees

theorem Safe.step (h : browser.Safe) {action : Action} (hin : browser.InSession action)
    (hstep : browser.step action = some browser') : browser'.Safe := by
  cases action with
  | startLogin =>
      cases hstep
      exact ⟨h.agrees, h.oneRefresh⟩
  | loginAnswered token now => exact h.loginAnswered hstep
  | logout =>
      cases hstep
      exact ⟨rfl, h.oneRefresh⟩
  | logoutAnswered => exact h.logoutAnswered hin hstep
  | refreshOnce =>
      cases hstep
      exact h.refreshOnce hin
  | refreshAnswered refresh answer now => exact h.refreshAnswered hin hstep
  | refreshSettled refresh => exact h.refreshSettled hstep
  | readToken now =>
      cases hstep
      exact h.readToken now

end Browser

/-- In every run whose steps stay in their sessions, every state is safe. -/
theorem browser_session_safe {actions : List Action} {browser : Browser}
    (hin : Along Browser.step Browser.InSession .initial actions)
    (hrun : run Browser.step .initial actions = some browser) : browser.Safe := by
  have hinitial : Browser.initial.Safe := ⟨trivial, Nat.zero_le 1⟩
  exact Runs.run_invariant (fun _ _ _ h hin hstep => h.step hin hstep) hinitial hin hrun

/-! ## Runs -/

def tokenOf (access_token username : String) (hasToken : access_token ≠ "")
    (hasUsername : username ≠ "") : TokenResponse where
  access_token := access_token
  expires_in_minutes := 30
  username := username
  role := .operator
  group_id := "co-a"
  securityVersion := 1
  capabilities := ⟨true, true, false, true, true, false, false⟩
  hasToken := hasToken
  expiresLater := by decide
  hasUsername := hasUsername
  hasGroup := by decide

def firstToken : TokenResponse := tokenOf "first" "operator01" (by decide) (by decide)

def secondToken : TokenResponse := tokenOf "second" "operator02" (by decide) (by decide)

/-- The store has a token of the session whenever a login is the last change of it. -/
def Session.Claimed (store : AuthSessionState) : Session → Prop
  | .loggedIn login renewals _ => ∃ token ∈ login :: renewals, store.Holds token
  | session => session.Agrees store

instance {store : AuthSessionState} : ∀ session : Session, Decidable (session.Claimed store)
  | .unknown => inferInstanceAs (Decidable True)
  | .loggedOut => inferInstanceAs (Decidable (_ = none))
  | .loggedIn login renewals _ =>
    inferInstanceAs (Decidable (∃ token ∈ login :: renewals, store.Holds token))

/-- A refresh that is started after the login is refused. -/
def refusedRefresh : List Action :=
  [.startLogin, .loginAnswered (some firstToken) 0, .refreshOnce, .refreshAnswered 0 .refused 1]

/-- A refresh brings a token after the logout. -/
def lateToken : List Action :=
  [.startLogin, .loginAnswered (some firstToken) 0, .refreshOnce, .logout,
    .refreshAnswered 0 (.token firstToken) 1]

/-- The logout is answered after the next login. -/
def lateLogout : List Action :=
  [.startLogin, .loginAnswered (some firstToken) 0, .logout, .startLogin,
    .loginAnswered (some secondToken) 1, .logoutAnswered]

/-- The logout makes the store forget a refresh that is running. -/
def forgottenRefresh : List Action :=
  [.startLogin, .loginAnswered (some firstToken) 0, .refreshOnce, .logout, .refreshOnce]

/-- A login whose token is renewed and refused later, a logout and another login. -/
def safeRun : List Action :=
  [.startLogin, .loginAnswered (some firstToken) 0, .refreshOnce,
    .refreshAnswered 0 (.token secondToken) 1, .refreshSettled 0, .refreshOnce,
    .refreshAnswered 1 .refused 2, .refreshSettled 1, .logout, .logoutAnswered, .startLogin,
    .loginAnswered (some secondToken) 3, .readToken 4]

theorem browser_session_safe_run :
    ∃ browser, run Browser.step .initial safeRun = some browser ∧ browser.Safe := by
  have hsome : (run Browser.step .initial safeRun).isSome = true := by decide +kernel
  obtain ⟨browser, hrun⟩ := Option.isSome_iff_exists.1 hsome
  exact ⟨browser, hrun, browser_session_safe (by decide +kernel) hrun⟩

theorem browser_session_safe_counterexample :
    (∃ browser, run Browser.step .initial refusedRefresh = some browser ∧
      ¬browser.session.Claimed browser.store) ∧
    (∃ browser, run Browser.step .initial lateToken = some browser ∧
      ¬browser.session.Claimed browser.store) ∧
    (∃ browser, run Browser.step .initial lateLogout = some browser ∧
      ¬browser.session.Claimed browser.store) ∧
    ∃ browser, run Browser.step .initial forgottenRefresh = some browser ∧
      1 < browser.refreshes.countP Refresh.isRunning := by
  have hreached : ∀ (actions : List Action) (p : Browser → Prop) [DecidablePred p],
      ((run Browser.step .initial actions).any fun browser => p browser) = true →
        ∃ browser, run Browser.step .initial actions = some browser ∧ p browser := by
    intro actions p _ hany
    obtain ⟨browser, hrun, hp⟩ := (Option.any_eq_true _ _).1 hany
    exact ⟨browser, hrun, of_decide_eq_true hp⟩
  exact ⟨hreached _ _ (by decide +kernel), hreached _ _ (by decide +kernel),
    hreached _ _ (by decide +kernel), hreached _ _ (by decide +kernel)⟩

end GcsSaker.BrowserSession
