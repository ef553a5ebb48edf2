import GcsSaker.AuthSessions
import GcsSaker.RefreshRevocation

/-!
# What login sessions are for, and their steps

What should hold of the tokens of a login, what each step of a call does, and what is kept of the
tokens that were issued: their claims are those of a principal, no two of them are the same, and a
refresh goes on with a pair that was issued, within its session.
-/

namespace GcsSaker.AuthSessions

open Groups (AuthUser AuthenticatedPrincipal GroupId Thrown UserRole require_eq_ok_iff)
open RefreshSessions (SessionAction SessionState makeGroupId_value makePrincipal_self roleName)
open CheckedSteps (check_bind_eq_ok_iff)

variable {ι : Type}

/-! ## What the sessions are for -/

/-- Why a token must not be taken. -/
inductive Reason where
  | versionExceeded
  | userInactive
  | groupInactive (groupId : GroupId)

namespace Reason

def AppliesTo (principal : AuthenticatedPrincipal) (user : AuthUser) : Reason → Prop
  | .versionExceeded => principal.securityVersion < user.securityVersion
  | .userInactive => user.active = false
  | .groupInactive groupId => user.role ≠ .admin ∧ user.groupId = groupId

/-- The reason is there for the user that is stored. -/
def Holds (s : AuthState ι) (principal : AuthenticatedPrincipal) (reason : Reason) : Prop :=
  (∃ user, s.users principal.username = some user ∧ reason.AppliesTo principal user) ∧
    ∀ groupId, reason = .groupInactive groupId → s.groups groupId = false

end Reason

def TokenPair.EndsBy (pair : TokenPair) (deadline : ℤ) : Prop :=
  ∀ decoded ∈ [pair.access, pair.refresh], ∀ seconds ∈ decoded.expiresAt,
    ofEpochSecond seconds ≤ deadline

/-- The call has started with one of the tokens of the pair. -/
def TokenPair.PresentedTo (pair : TokenPair) (stage : Stage) : Prop :=
  stage = .access pair.accessToken ∨ stage = .refresh pair.refreshToken

def AuthState.Refused (s : AuthState ι) (call : ℕ) : Prop :=
  ∀ stage ∈ s.calls call, stage.passed = false

/-- No refresh token has two successors. Every token ends at most `absoluteSessionTtl` after the
login of its chain. A call that starts with a token is refused if there is a reason for it until
the call has returned, and a security version that is exceeded stays so. -/
structure SessionSafe [DecidableEq ι] (service : AuthSessionService) (s : AuthState ι) :
    Prop where
  oneSuccessor : (s.pairs.filterMap TokenPair.parent).Nodup
  chained : ∀ pair ∈ s.pairs, ∀ refreshToken ∈ pair.parent,
    ∃ parent ∈ s.pairs, parent.refreshToken = refreshToken ∧ parent.loginAt = pair.loginAt
  bounded : ∀ pair ∈ s.pairs,
    pair.EndsBy (pair.loginAt + service.tokenService.absoluteSessionTtl)
  rejected : ∀ pair ∈ s.pairs, ∀ call stage, s.calls call = some stage → pair.PresentedTo stage →
    ∀ (reason : Reason) acts s',
      Runs.Along (AuthState.step service) (fun t _ => reason.Holds t pair.principal) s acts →
        Runs.run (AuthState.step service) s acts = some s' → s'.Refused call
  outdated : ∀ pair ∈ s.pairs, ∀ call stage, s.calls call = some stage → pair.PresentedTo stage →
    Reason.versionExceeded.Holds s pair.principal → ∀ acts s',
      Runs.run (AuthState.step service) s acts = some s' → s'.Refused call

/-- Where a pair is issued, its access token, which is signed before the refresh token, ends with
the session. -/
def AuthState.accessEndsInSession (service : AuthSessionService) (s : AuthState ι) :
    Action ι → Bool
  | .issueRefreshToken call now _ =>
    match s.calls call with
    | some (.accessIssued _ origin _ issuedAt) =>
      let tokens := service.tokenService
      let loginAt := origin.elim now fun origin => origin.1.loginAt
      now < tokens.deadline now (origin.map Prod.snd) →
        ofEpochSecond (tokens.numericDate (issuedAt + tokens.accessTokenTtl)) ≤
          loginAt + tokens.absoluteSessionTtl
    | _ => true
  | _ => true

/-! ## What a step does -/

variable {service : AuthSessionService} {s s' : AuthState ι}

/-- A step of one call that changes nothing else. -/
inductive Advances (service : AuthSessionService) (s : AuthState ι) : Stage → Stage → Prop
  | verifyRefreshToken (now : ℤ) (accepted : Bool) (refreshToken : String) :
      Advances service s (.refresh refreshToken)
        (s.verifyRefreshToken service now accepted refreshToken)
  | verifyAccessToken (now : ℤ) (accepted : Bool) (accessToken : String) :
      Advances service s (.access accessToken)
        (s.verifyAccessToken service now accepted accessToken)
  | find (purpose : Purpose) : Advances service s (.finding purpose) (s.find purpose)
  | check (available : Bool) (purpose : Purpose) (user : AuthUser) :
      Advances service s (.checking purpose user) (s.check service available user purpose)
  | issueAccessToken (principal : AuthenticatedPrincipal) (origin : Option Origin)
      (accessToken : String) (now : ℤ) :
      Advances service s (.issuing principal origin)
        (.accessIssued principal origin accessToken now)
  | finish (put : ℕ) (tokens : IssuedTokenSet) :
      Advances service s (.putting put tokens) (.returned tokens)
  | refuse (stage : Stage) (thrown : Thrown) : Advances service s stage (.refused (some thrown))
  | fail (stage : Stage) : Advances service s stage .failed

inductive Steps [DecidableEq ι] (service : AuthSessionService) (s : AuthState ι) :
    Action ι → AuthState ι → Prop
  | users {a : Action ι} {users : String → Option AuthUser}
      (h : ∀ username current, s.users username = some current →
        ∃ user, users username = some user ∧ current.securityVersion ≤ user.securityVersion)
      (hends : s.accessEndsInSession service a = true) : Steps service s a { s with users }
  | setGroup (groupId : GroupId) (active : Bool) :
      Steps service s (.setGroup groupId active)
        { s with groups := Function.update s.groups groupId active }
  | session {action : SessionAction ι} {sessions : SessionState ι} (h : isOutside action = true)
      (hsession : RefreshSessions.Steps service.platform s.sessions action sessions) :
      Steps service s (.session action) { s with sessions }
  | release (store : ι) :
      Steps service s (.release store)
        { s with
          sessions := { s.sessions with calls := Function.update s.sessions.calls store none } }
  | start {call : ℕ} (request : Request) (hcall : s.calls call = none) :
      Steps service s (.start call request) (s.moveTo call request.start)
  | advance {a : Action ι} {call : ℕ} {stage stage' : Stage} (hcall : s.calls call = some stage)
      (h : Advances service s stage stage') (hends : s.accessEndsInSession service a = true) :
      Steps service s a (s.moveTo call stage')
  | consume {call : ℕ} {refreshToken : String} {parent : TokenPair}
      {verified : VerifiedRefreshToken}
      (hcall : s.calls call = some (.consuming refreshToken parent verified)) :
      Steps service s (.consume call)
        { s.moveTo call (authoritativePrincipal parent verified
            (s.sessions.consumeRefreshSession service.platform refreshToken).2) with
          sessions := (s.sessions.consumeRefreshSession service.platform refreshToken).1 }
  | issue {call : ℕ} {principal : AuthenticatedPrincipal} {origin : Option Origin}
      {accessToken refreshToken : String} {issuedAt now : ℤ} {refresh : Claims}
      (hcall : s.calls call = some (.accessIssued principal origin accessToken issuedAt))
      (haccess : s.isNew accessToken) (hrefresh : s.isNew refreshToken)
      (hne : accessToken ≠ refreshToken)
      (hissued : service.tokenService.issueRefreshToken now principal (origin.map Prod.snd) =
        .ok refresh) :
      Steps service s (.issueRefreshToken call now refreshToken)
        { s.moveTo call (.refreshIssued
            (newPair service principal origin accessToken issuedAt refreshToken now refresh)) with
          pairs := newPair service principal origin accessToken issuedAt refreshToken now refresh ::
            s.pairs }
  | put {call : ℕ} {store : ι} {now : ℤ} {pair : TokenPair} {ttl : ℤ} {tokens : IssuedTokenSet}
      {sessions : SessionState ι} (hcall : s.calls call = some (.refreshIssued pair))
      (hput : RefreshSessions.Steps service.platform s.sessions
        (.put store pair.refreshToken pair.principal ttl) sessions) :
      Steps service s (.put call store now true)
        { s.moveTo call (.putting s.sessions.puts.length tokens) with sessions }

theorem save_versions {user : AuthUser} (h : s.users user.username = none) (username : String)
    (current : AuthUser) (hcurrent : s.users username = some current) :
    ∃ user', Function.update s.users user.username (some user) username = some user' ∧
      current.securityVersion ≤ user'.securityVersion := by
  have hne : username ≠ user.username := by
    rintro rfl
    rw [h] at hcurrent
    cases hcurrent
  rw [Function.update_of_ne hne]
  exact ⟨current, hcurrent, Nat.le_refl _⟩

theorem update_versions {user current : AuthUser} (h : s.users user.username = some current)
    (hle : current.securityVersion ≤ user.securityVersion) (username : String)
    (current' : AuthUser) (hcurrent : s.users username = some current') :
    ∃ user', Function.update s.users user.username (some user) username = some user' ∧
      current'.securityVersion ≤ user'.securityVersion := by
  by_cases hname : username = user.username
  · subst hname
    rw [h] at hcurrent
    cases hcurrent
    exact ⟨user, Function.update_self .., hle⟩
  · rw [Function.update_of_ne hname]
    exact ⟨current', hcurrent, Nat.le_refl _⟩

theorem accessEndsInSession_of_error {call : ℕ} {principal : AuthenticatedPrincipal}
    {origin : Option Origin} {accessToken refreshToken : String} {issuedAt now : ℤ}
    {thrown : Thrown}
    (hcall : s.calls call = some (.accessIssued principal origin accessToken issuedAt))
    (h : service.tokenService.issueRefreshToken now principal (origin.map Prod.snd) =
      .error thrown) :
    s.accessEndsInSession service (.issueRefreshToken call now refreshToken) = true := by
  rw [AuthState.accessEndsInSession, hcall]
  refine decide_eq_true fun hnow => ?_
  rw [JwtTokenService.issueRefreshToken, require_eq_ok_iff.2 hnow] at h
  cases h

theorem steps_of_step [DecidableEq ι] {a : Action ι} (h : s.step service a = some s') :
    Steps service s a s' := by
  cases a with
  | save user =>
      simp only [AuthState.step, AuthState.save] at h
      split at h
      · cases h
      next hnone =>
        cases h
        exact .users (save_versions hnone) rfl
  | update user =>
      simp only [AuthState.step, AuthState.update] at h
      split at h
      · cases h
      next current hcurrent =>
        split_ifs at h with hle
        cases h
        exact .users (update_versions hcurrent hle.2) rfl
  | setGroup groupId active =>
      cases h
      exact .setGroup groupId active
  | session action =>
      simp only [AuthState.step] at h
      split_ifs at h with houtside
      obtain ⟨sessions, hsessions, rfl⟩ := Option.map_eq_some_iff.1 h
      exact .session houtside (RefreshSessions.steps_of_step hsessions)
  | release store =>
      cases h
      exact .release store
  | start call request =>
      simp only [AuthState.step] at h
      split at h
      · cases h
      next hnone =>
        cases h
        exact .start request hnone
  | verifyRefreshToken call now accepted =>
      simp only [AuthState.step] at h
      split at h
      next refreshToken hcall =>
        cases h
        exact .advance hcall (.verifyRefreshToken now accepted refreshToken) rfl
      next => cases h
  | verifyAccessToken call now accepted =>
      simp only [AuthState.step] at h
      split at h
      next accessToken hcall =>
        cases h
        exact .advance hcall (.verifyAccessToken now accepted accessToken) rfl
      next => cases h
  | consume call =>
      simp only [AuthState.step, AuthState.consume] at h
      split at h
      next refreshToken parent verified hcall =>
        cases h
        exact .consume hcall
      next => cases h
  | find call =>
      simp only [AuthState.step] at h
      split at h
      next purpose hcall =>
        cases h
        exact .advance hcall (.find purpose) rfl
      next => cases h
  | check call available =>
      simp only [AuthState.step] at h
      split at h
      next purpose user hcall =>
        cases h
        exact .advance hcall (.check available purpose user) rfl
      next => cases h
  | issueAccessToken call now accessToken =>
      simp only [AuthState.step] at h
      split at h
      next principal origin hcall =>
        cases h
        exact .advance hcall (.issueAccessToken principal origin accessToken now) rfl
      next => cases h
  | issueRefreshToken call now refreshToken =>
      simp only [AuthState.step, AuthState.issueRefreshToken] at h
      split at h
      next principal origin accessToken issuedAt hcall =>
        split_ifs at h with hnew
        split at h
        next thrown hthrown =>
          cases h
          exact .advance hcall (.refuse _ thrown) (accessEndsInSession_of_error hcall hthrown)
        next refresh hissued =>
          cases h
          exact .issue hcall hnew.1 hnew.2.1 hnew.2.2 hissued
      next => cases h
  | put call store now accepted =>
      simp only [AuthState.step, AuthState.put] at h
      split at h
      next pair hcall =>
        split at h
        next thrown hthrown =>
          cases h
          exact .advance hcall (.refuse _ thrown) rfl
        next verified hverified =>
          obtain ⟨sessions, hsessions, rfl⟩ := Option.map_eq_some_iff.1 h
          exact .put hcall (RefreshSessions.steps_of_step hsessions)
      next pair hcall =>
        cases h
        exact .advance hcall (.fail _) rfl
      next => cases h
  | finish call =>
      simp only [AuthState.step] at h
      split at h
      next put tokens hcall =>
        split_ifs at h
        cases h
        exact .advance hcall (.finish put tokens) rfl
      next => cases h
  | fail call =>
      simp only [AuthState.step] at h
      split at h
      next stage hcall =>
        split_ifs at h
        cases h
        exact .advance hcall (.fail stage) rfl
      next => cases h

/-! ## Signed tokens -/

theorem valueOf_roleName (role : UserRole) :
    valueOf (uppercase (lowercase (roleName role))) = .ok role := by
  cases role
  all_goals decide

theorem principalFromVerifiedToken_issueToken (tokens : JwtTokenService)
    (principal : AuthenticatedPrincipal) (tokenUse : String) (expiresAt : ℤ)
    (sessionExpiresAt : Option ℤ) :
    principalFromVerifiedToken (tokens.issueToken principal tokenUse expiresAt sessionExpiresAt) =
      .ok principal := by
  simp only [principalFromVerifiedToken, JwtTokenService.issueToken, Option.elim_some,
    valueOf_roleName, makeGroupId_value, Option.getD_some, bind, Except.bind, makePrincipal_self]

theorem ofEpochSecond_epochSecond_le (t : ℤ) : ofEpochSecond (epochSecond t) ≤ t :=
  Int.ediv_mul_le t (by decide)

/-- What is read from a refresh token is its principal, and an end of the session that is no later
than the one that was written. -/
theorem verified_issueToken {tokens : JwtTokenService} {principal : AuthenticatedPrincipal}
    {expiresAt deadline now : ℤ} {verified : VerifiedRefreshToken}
    (h : JwtTokenService.verifyRefreshTokenWithTtl now
      (tokens.issueToken principal "refresh" expiresAt (some deadline)) = .ok verified) :
    verified.principal = principal ∧ verified.sessionExpiresAt ≤ deadline := by
  simp only [JwtTokenService.verifyRefreshTokenWithTtl, principalFromVerifiedToken_issueToken] at h
  simp only [JwtTokenService.issueToken, Option.map_some, Option.getD_some] at h
  obtain ⟨-, h⟩ := check_bind_eq_ok_iff.1 h
  obtain ⟨-, h⟩ := check_bind_eq_ok_iff.1 h
  cases h
  exact ⟨rfl, ofEpochSecond_epochSecond_le deadline⟩

theorem verifiedAccess_issueToken {tokens : JwtTokenService} {principal : AuthenticatedPrincipal}
    {expiresAt now : ℤ} {verified : VerifiedAccessToken}
    (h : JwtTokenService.verifyAccessTokenWithTtl now
      (tokens.issueToken principal "access" expiresAt none) = .ok verified) :
    verified.principal = principal := by
  simp only [JwtTokenService.verifyAccessTokenWithTtl, principalFromVerifiedToken_issueToken] at h
  simp only [JwtTokenService.issueToken] at h
  obtain ⟨-, h⟩ := check_bind_eq_ok_iff.1 h
  cases h
  rfl

/-- The claims of a pair are of its principal, and its refresh token ends with the session. -/
structure TokenPair.Sound (service : AuthSessionService) (pair : TokenPair) : Prop where
  access : ∃ issuedAt, pair.access = service.tokenService.issueAccessToken issuedAt pair.principal
  refresh : ∃ expiresAt deadline,
    pair.refresh = service.tokenService.issueToken pair.principal "refresh" expiresAt
      (some deadline) ∧
    expiresAt ≤ deadline ∧ deadline ≤ pair.loginAt + service.tokenService.absoluteSessionTtl
  differ : pair.accessToken ≠ pair.refreshToken

/-- A refresh goes on with a pair that was issued, within its session. -/
def Within (service : AuthSessionService) (pairs : List TokenPair) (origin : Origin) : Prop :=
  origin.1 ∈ pairs ∧ origin.2 ≤ origin.1.loginAt + service.tokenService.absoluteSessionTtl

def Stage.Sound (service : AuthSessionService) (pairs : List TokenPair) : Stage → Prop
  | .consuming refreshToken parent signed =>
    parent.refreshToken = refreshToken ∧ signed.principal = parent.principal ∧
      Within service pairs (parent, signed.sessionExpiresAt)
  | .finding (.refresh origin _) => Within service pairs origin
  | .checking (.refresh origin _) _ => Within service pairs origin
  | .issuing _ origin => ∀ o ∈ origin, Within service pairs o
  | .accessIssued _ origin _ _ => ∀ o ∈ origin, Within service pairs o
  | .refreshIssued pair => pair ∈ pairs
  | _ => True

structure Genuine (service : AuthSessionService) (s : AuthState ι) : Prop where
  pairs : ∀ pair ∈ s.pairs, pair.Sound service
  distinct : ∀ pair ∈ s.pairs, ∀ pair' ∈ s.pairs, ∀ token, pair.claimsOf token ≠ none →
    pair'.claimsOf token ≠ none → pair = pair'
  chained : ∀ pair ∈ s.pairs, ∀ refreshToken ∈ pair.parent,
    ∃ parent ∈ s.pairs, parent.refreshToken = refreshToken ∧ parent.loginAt = pair.loginAt
  calls : ∀ call stage, s.calls call = some stage → stage.Sound service s.pairs

theorem claimsOf_accessToken (pair : TokenPair) :
    pair.claimsOf pair.accessToken = some pair.access := if_pos rfl

theorem TokenPair.Sound.claimsOf_refreshToken {pair : TokenPair} (h : pair.Sound service) :
    pair.claimsOf pair.refreshToken = some pair.refresh := by
  rw [TokenPair.claimsOf, if_neg h.differ.symm, if_pos rfl]

theorem claimsOf_cases {pair : TokenPair} {token : String} {decoded : Claims}
    (h : pair.claimsOf token = some decoded) :
    token = pair.accessToken ∧ decoded = pair.access ∨
      token = pair.refreshToken ∧ decoded = pair.refresh := by
  unfold TokenPair.claimsOf at h
  split_ifs at h with haccess hrefresh
  · exact .inl ⟨haccess, (Option.some.inj h).symm⟩
  · exact .inr ⟨hrefresh, (Option.some.inj h).symm⟩

theorem mem_of_verify {tokenUse token : String} {pair : TokenPair} {decoded : Claims}
    (h : s.verify service tokenUse token = some (pair, decoded)) :
    pair ∈ s.pairs ∧ pair.claimsOf token = some decoded ∧ decoded.tokenUse = tokenUse := by
  obtain ⟨pair', hpair, h⟩ := List.exists_of_findSome?_eq_some h
  obtain ⟨decoded', hdecoded, he⟩ := Option.map_eq_some_iff.1 h
  cases he
  obtain ⟨hclaims, huse⟩ := Option.filter_eq_some_iff.1 hdecoded
  exact ⟨hpair, hclaims, (of_decide_eq_true huse).2⟩

theorem verify_refresh (h : Genuine service s) {token : String} {pair : TokenPair}
    {decoded : Claims} (hverify : s.verify service "refresh" token = some (pair, decoded)) :
    pair ∈ s.pairs ∧ token = pair.refreshToken ∧ decoded = pair.refresh := by
  obtain ⟨hpair, hclaims, huse⟩ := mem_of_verify hverify
  refine ⟨hpair, (claimsOf_cases hclaims).resolve_left ?_⟩
  rintro ⟨-, rfl⟩
  obtain ⟨issuedAt, haccess⟩ := (h.pairs pair hpair).access
  rw [haccess] at huse
  have hsame : "access" = "refresh" := huse
  exact absurd hsame (by decide)

theorem verify_access (h : Genuine service s) {token : String} {pair : TokenPair}
    {decoded : Claims} (hverify : s.verify service "access" token = some (pair, decoded)) :
    pair ∈ s.pairs ∧ token = pair.accessToken ∧ decoded = pair.access := by
  obtain ⟨hpair, hclaims, huse⟩ := mem_of_verify hverify
  refine ⟨hpair, (claimsOf_cases hclaims).resolve_right ?_⟩
  rintro ⟨-, rfl⟩
  obtain ⟨expiresAt, deadline, hrefresh, -⟩ := (h.pairs pair hpair).refresh
  rw [hrefresh] at huse
  have hsame : "refresh" = "access" := huse
  exact absurd hsame (by decide)

/-! ## The stages of a call -/

section Stages

variable {pairs : List TokenPair} {stage stage' : Stage}

theorem sound_start (request : Request) : request.start.Sound service pairs := by
  cases request <;> trivial

theorem Within.cons {origin : Origin} (h : Within service pairs origin) (pair : TokenPair) :
    Within service (pair :: pairs) origin := ⟨List.mem_cons_of_mem pair h.1, h.2⟩

theorem Stage.Sound.cons (h : stage.Sound service pairs) (pair : TokenPair) :
    stage.Sound service (pair :: pairs) := by
  cases stage with
  | consuming refreshToken parent verified => exact ⟨h.1, h.2.1, h.2.2.cons pair⟩
  | finding purpose =>
      cases purpose with
      | refresh origin principal => exact Within.cons h pair
      | _ => trivial
  | checking purpose user =>
      cases purpose with
      | refresh origin principal => exact Within.cons h pair
      | _ => trivial
  | issuing principal origin => exact fun o ho => (h o ho).cons pair
  | accessIssued principal origin accessToken issuedAt => exact fun o ho => (h o ho).cons pair
  | refreshIssued pair' => exact List.mem_cons_of_mem pair h
  | _ => trivial

theorem sound_verifyRefreshToken (h : Genuine service s) (now : ℤ) (accepted : Bool)
    (refreshToken : String) :
    (s.verifyRefreshToken service now accepted refreshToken).Sound service s.pairs := by
  unfold AuthState.verifyRefreshToken
  split
  next parent decoded hverify =>
    obtain ⟨hpair, rfl, rfl⟩ := verify_refresh h hverify
    obtain ⟨expiresAt, deadline, hrefresh, -, hle⟩ := (h.pairs parent hpair).refresh
    split
    next verified hverified =>
      rw [hrefresh] at hverified
      obtain ⟨hprincipal, hsession⟩ := verified_issueToken hverified
      exact ⟨rfl, hprincipal, hpair, hsession.trans hle⟩
    next => trivial
  next => trivial

theorem sound_verifyAccessToken (now : ℤ) (accepted : Bool) (accessToken : String) :
    (s.verifyAccessToken service now accepted accessToken).Sound service pairs := by
  unfold AuthState.verifyAccessToken
  split
  · split <;> trivial
  · trivial

theorem sound_find {purpose : Purpose} (h : (Stage.finding purpose).Sound service pairs) :
    (s.find purpose).Sound service pairs := by
  unfold AuthState.find
  split
  next user hfound =>
    cases purpose with
    | refresh origin principal => exact h
    | _ => trivial
  · split <;> trivial

theorem sound_check {available : Bool} {purpose : Purpose} {user : AuthUser}
    (h : (Stage.checking purpose user).Sound service pairs) :
    (s.check service available user purpose).Sound service pairs := by
  cases purpose with
  | login username password mfaCode =>
      simp only [AuthState.check]
      split
      · exact fun o ho => nomatch ho
      · trivial
  | refresh origin principal =>
      simp only [AuthState.check]
      split
      · exact fun o ho => Option.mem_some_iff.1 ho ▸ h
      · trivial
  | access principal =>
      simp only [AuthState.check]
      split <;> trivial

theorem Advances.sound (h : Genuine service s) (hstage : stage.Sound service s.pairs)
    (hadvance : Advances service s stage stage') : stage'.Sound service s.pairs := by
  cases hadvance with
  | verifyRefreshToken now accepted refreshToken =>
      exact sound_verifyRefreshToken h now accepted refreshToken
  | verifyAccessToken now accepted accessToken =>
      exact sound_verifyAccessToken now accepted accessToken
  | find purpose => exact sound_find hstage
  | check available purpose user => exact sound_check hstage
  | issueAccessToken principal origin accessToken now => exact hstage
  | finish put tokens => trivial
  | refuse stage thrown => trivial
  | fail stage => trivial

theorem sound_authoritativePrincipal {parent : TokenPair} {verified : VerifiedRefreshToken}
    (h : Within service pairs (parent, verified.sessionExpiresAt))
    (stored : Except Thrown (Option AuthenticatedPrincipal)) :
    (authoritativePrincipal parent verified stored).Sound service pairs := by
  unfold authoritativePrincipal
  split
  · split
    · exact h
    · trivial
  · trivial
  · trivial

end Stages

/-! ## What was issued -/

theorem forall_moveTo {P : Stage → Prop} {call : ℕ} {stage : Stage} (hstage : P stage)
    (h : ∀ call stage, s.calls call = some stage → P stage) :
    ∀ call' stage', (s.moveTo call stage).calls call' = some stage' → P stage' :=
  RefreshSessions.forall_update (fun _ he => Option.some.inj he ▸ hstage) h

theorem issued_eq {tokens : JwtTokenService} {now : ℤ} {principal : AuthenticatedPrincipal}
    {sessionExpiresAt : Option ℤ} {refresh : Claims}
    (h : tokens.issueRefreshToken now principal sessionExpiresAt = .ok refresh) :
    now < tokens.deadline now sessionExpiresAt ∧
      refresh = tokens.issueToken principal "refresh"
        (min (now + tokens.refreshTokenTtl) (tokens.deadline now sessionExpiresAt))
        (some (tokens.deadline now sessionExpiresAt)) := by
  obtain ⟨hnow, h⟩ := check_bind_eq_ok_iff.1 h
  cases h
  exact ⟨require_eq_ok_iff.1 hnow, rfl⟩

section Issue

variable {principal : AuthenticatedPrincipal} {origin : Option Origin}
  {accessToken refreshToken : String} {issuedAt now : ℤ} {refresh : Claims}

theorem deadline_le (horigin : ∀ o ∈ origin, Within service s.pairs o) :
    service.tokenService.deadline now (origin.map Prod.snd) ≤
      (newPair service principal origin accessToken issuedAt refreshToken now refresh).loginAt +
        service.tokenService.absoluteSessionTtl := by
  cases origin with
  | none => exact Int.le_refl _
  | some o => exact (horigin o rfl).2

theorem newPair_sound (horigin : ∀ o ∈ origin, Within service s.pairs o)
    (hne : accessToken ≠ refreshToken)
    (h : service.tokenService.issueRefreshToken now principal (origin.map Prod.snd) =
      .ok refresh) :
    (newPair service principal origin accessToken issuedAt refreshToken now refresh).Sound
      service where
  access := ⟨issuedAt, rfl⟩
  refresh := ⟨_, _, (issued_eq h).2, Int.min_le_right _ _, deadline_le horigin⟩
  differ := hne

theorem newPair_distinct {pair : TokenPair} {token : String} (haccess : s.isNew accessToken)
    (hrefresh : s.isNew refreshToken) (hpair : pair ∈ s.pairs)
    (hnew : (newPair service principal origin accessToken issuedAt refreshToken now
      refresh).claimsOf token ≠ none) : pair.claimsOf token = none := by
  obtain ⟨decoded, hdecoded⟩ := Option.ne_none_iff_exists'.1 hnew
  rcases claimsOf_cases hdecoded with ⟨rfl, -⟩ | ⟨rfl, -⟩
  · exact haccess pair hpair
  · exact hrefresh pair hpair

end Issue

theorem step_genuine [DecidableEq ι] {a : Action ι} (h : Genuine service s)
    (hstep : Steps service s a s') : Genuine service s' := by
  cases hstep with
  | users husers hends => exact ⟨h.pairs, h.distinct, h.chained, h.calls⟩
  | setGroup groupId active => exact ⟨h.pairs, h.distinct, h.chained, h.calls⟩
  | session houtside hsession => exact ⟨h.pairs, h.distinct, h.chained, h.calls⟩
  | release store => exact ⟨h.pairs, h.distinct, h.chained, h.calls⟩
  | start request hcall =>
      exact ⟨h.pairs, h.distinct, h.chained, forall_moveTo (sound_start request) h.calls⟩
  | advance hcall hadvance hends =>
      have hsound := hadvance.sound h (h.calls _ _ hcall)
      exact ⟨h.pairs, h.distinct, h.chained, forall_moveTo hsound h.calls⟩
  | consume hcall =>
      have hsound := sound_authoritativePrincipal (h.calls _ _ hcall).2.2
      exact ⟨h.pairs, h.distinct, h.chained, forall_moveTo (hsound _) h.calls⟩
  | put hcall hput => exact ⟨h.pairs, h.distinct, h.chained, forall_moveTo trivial h.calls⟩
  | @issue call principal origin accessToken refreshToken issuedAt now refresh hcall haccess
      hrefresh hne hissued =>
      have horigin : ∀ o ∈ origin, Within service s.pairs o := h.calls _ _ hcall
      refine ⟨?_, ?_, ?_, ?_⟩
      · exact List.forall_mem_cons.2 ⟨newPair_sound horigin hne hissued, h.pairs⟩
      · intro pair hpair pair' hpair' token htoken htoken'
        rcases List.mem_cons.1 hpair with rfl | hold
        · rcases List.mem_cons.1 hpair' with rfl | hold'
          · rfl
          · exact absurd (newPair_distinct haccess hrefresh hold' htoken) htoken'
        · rcases List.mem_cons.1 hpair' with rfl | hold'
          · exact absurd (newPair_distinct haccess hrefresh hold htoken') htoken
          · exact h.distinct pair hold pair' hold' token htoken htoken'
      · intro pair hpair token htoken
        rcases List.mem_cons.1 hpair with rfl | hold
        · obtain ⟨o, rfl, rfl⟩ := Option.map_eq_some_iff.1 htoken
          exact ⟨o.1, List.mem_cons_of_mem _ (horigin o rfl).1, rfl, rfl⟩
        · obtain ⟨parent, hparent, hsame⟩ := h.chained pair hold token htoken
          exact ⟨parent, List.mem_cons_of_mem _ hparent, hsame⟩
      · exact forall_moveTo List.mem_cons_self fun call' stage hstage =>
          (h.calls call' stage hstage).cons _

end GcsSaker.AuthSessions
