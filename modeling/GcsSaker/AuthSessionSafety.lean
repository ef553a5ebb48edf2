import GcsSaker.AuthSessionSteps
import GcsSaker.Custody

/-!
# The safety of login sessions

A refresh token is put away once and consumed once, so that it yields one pair of tokens at most.
Refresh tokens end with the session of the login, access tokens when they are issued early enough.
What was issued before a change of the user is compared with the user as it is stored, in every call
that starts after the change.
-/

namespace GcsSaker.AuthSessions

open Groups (AuthUser AuthenticatedPrincipal GroupId Thrown)
open RefreshSessions (Platform Redis SessionAction SessionState cacheKey_inj
  tokenKey_ne_userIndexKey)

variable {ι : Type} {service : AuthSessionService} {s s' : AuthState ι}

/-! ## The custody of the refresh tokens -/

/-- The refresh token that the call has yet to put away. -/
def Stage.owes : Stage → Option String
  | .refreshIssued pair => some pair.refreshToken
  | _ => none

/-- The refresh token that the call has consumed and will issue a pair for. -/
def Stage.takes : Stage → Option String
  | .finding (.refresh origin _) => some origin.1.refreshToken
  | .checking (.refresh origin _) _ => some origin.1.refreshToken
  | .issuing _ origin => origin.map fun origin => origin.1.refreshToken
  | .accessIssued _ origin _ _ => origin.map fun origin => origin.1.refreshToken
  | _ => none

section Custody

variable {platform : Platform} {tokens : Set String}

def storedTokens (platform : Platform) (tokens : Set String) (redis : Redis) : Set String :=
  {t | t ∈ tokens ∧ redis (platform.cacheKey t) ≠ none}

def issuedTokens (pairs : List TokenPair) : Set String :=
  {t | ∃ pair ∈ pairs, pair.refreshToken = t}

def custody (platform : Platform) (tokens : Set String) (s : AuthState ι) :
    Custody ℕ String where
  issued := issuedTokens s.pairs
  owed call := (s.calls call).bind Stage.owes
  stored := storedTokens platform tokens s.sessions.redis
  taken call := (s.calls call).bind Stage.takes
  exchanged := s.pairs.filterMap TokenPair.parent

theorem bind_update {α : Type} (f : ℕ → Option Stage) (call : ℕ) (stage : Stage)
    (g : Stage → Option α) :
    (fun call' => (Function.update f call (some stage) call').bind g) =
      Function.update (fun call' => (f call').bind g) call (g stage) := by
  funext call'
  by_cases hcall : call' = call
  · subst hcall
    rw [Function.update_self, Function.update_self, Option.bind_some]
  · rw [Function.update_of_ne hcall, Function.update_of_ne hcall]

theorem custody_moved (platform : Platform) (tokens : Set String) (s : AuthState ι) (call : ℕ)
    (stage : Stage) (sessions : SessionState ι) (pairs : List TokenPair) :
    custody platform tokens { s.moveTo call stage with sessions, pairs } =
      { (custody platform tokens s).hold call stage.owes stage.takes with
        issued := issuedTokens pairs
        stored := storedTokens platform tokens sessions.redis
        exchanged := pairs.filterMap TokenPair.parent } := by
  simp only [custody, AuthState.moveTo, bind_update, Custody.hold]

theorem custody_moveTo (call : ℕ) (stage : Stage) :
    custody platform tokens (s.moveTo call stage) =
      { (custody platform tokens s).hold call stage.owes stage.takes with
        stored := storedTokens platform tokens s.sessions.redis } :=
  custody_moved platform tokens s call stage s.sessions s.pairs

/-! ## Redis -/

section Redis

variable {redis : Redis} {t : String}

theorem storedTokens_erase_subset (key : String) :
    storedTokens platform tokens (redis.erase key) ⊆ storedTokens platform tokens redis := by
  rintro t ⟨ht, hredis⟩
  refine ⟨ht, fun hnone => hredis ?_⟩
  by_cases hkey : platform.cacheKey t = key
  · rw [hkey, ExpiringStore.erase_self]
  · rw [ExpiringStore.erase_of_ne _ hkey, hnone]

theorem storedTokens_set_index (username value : String) (expiresAt : ℤ) :
    storedTokens platform tokens (redis.set (platform.userIndexKey username) value expiresAt) =
      storedTokens platform tokens redis := by
  ext t
  have hne : platform.cacheKey t ≠ platform.userIndexKey username :=
    tokenKey_ne_userIndexKey ⟨t, rfl⟩ username
  exact and_congr_right fun _ => by rw [ExpiringStore.set_of_ne _ _ _ hne]

theorem cacheKey_eq_iff (hdigest : Set.InjOn platform.sha256 tokens) {t t' : String}
    (ht : t ∈ tokens) (ht' : t' ∈ tokens) : platform.cacheKey t' = platform.cacheKey t ↔ t' = t :=
  cacheKey_inj.trans (hdigest.eq_iff ht' ht)

theorem storedTokens_set (hdigest : Set.InjOn platform.sha256 tokens) (ht : t ∈ tokens)
    (redis : Redis) (value : String) (expiresAt : ℤ) :
    storedTokens platform tokens (redis.set (platform.cacheKey t) value expiresAt) =
      insert t (storedTokens platform tokens redis) := by
  ext t'
  by_cases he : t' = t
  · subst he
    refine iff_of_true ⟨ht, ?_⟩ (Set.mem_insert t' _)
    rw [ExpiringStore.set_self]
    exact Option.some_ne_none _
  · rw [Set.mem_insert_iff, or_iff_right he]
    refine and_congr_right fun ht' => ?_
    rw [ExpiringStore.set_of_ne _ _ _ (mt (cacheKey_eq_iff hdigest ht ht').1 he)]

theorem storedTokens_erase (hdigest : Set.InjOn platform.sha256 tokens) (ht : t ∈ tokens)
    (redis : Redis) :
    storedTokens platform tokens (redis.erase (platform.cacheKey t)) =
      storedTokens platform tokens redis \ {t} := by
  ext t'
  by_cases he : t' = t
  · subst he
    refine iff_of_false (fun h => h.2 ?_) fun h => h.2 rfl
    exact ExpiringStore.erase_self redis _
  · have hiff : t' ∈ storedTokens platform tokens redis \ {t} ↔
        t' ∈ storedTokens platform tokens redis := and_iff_left he
    rw [hiff]
    refine and_congr_right fun ht' => ?_
    rw [ExpiringStore.erase_of_ne _ (mt (cacheKey_eq_iff hdigest ht ht').1 he)]

theorem storedTokens_outside [DecidableEq ι] {sessions sessions' : SessionState ι}
    {action : SessionAction ι} (houtside : isOutside action = true)
    (h : RefreshSessions.Steps platform sessions action sessions') :
    storedTokens platform tokens sessions'.redis ⊆ storedTokens platform tokens sessions.redis := by
  cases h with
  | elapse duration => exact Set.Subset.refl _
  | refuse => cases houtside
  | put => cases houtside
  | readIndex hcall => exact Set.Subset.refl _
  | writeIndex hcall => exact (storedTokens_set_index ..).subset
  | revokePrincipal => exact Set.Subset.refl _
  | deleteKey hcall => exact storedTokens_erase_subset _
  | deleteIndex hcall => exact storedTokens_erase_subset _
  | consume => cases houtside
  | revokeToken => exact storedTokens_erase_subset _

/-- Only a token that is stored is consumed with a principal. -/
theorem stored_of_consume {sessions : SessionState ι} {principal : AuthenticatedPrincipal}
    (h : (sessions.consumeRefreshSession platform t).2 = .ok (some principal)) :
    sessions.redis (platform.cacheKey t) ≠ none := by
  intro hnone
  have hlive : sessions.redis.live sessions.clock (platform.cacheKey t) = none := by
    rw [ExpiringStore.live, hnone, Option.filter_none]
  rw [SessionState.consume_result, SessionState.get, RefreshSessions.Redis.get, hlive] at h
  cases h

end Redis

/-! ## Steps of the custody -/

theorem Advances.custody {stage stage' : Stage} (h : Advances service s stage stage') :
    (stage'.owes = none ∨ stage'.owes = stage.owes) ∧
      (stage'.takes = none ∨ stage'.takes = stage.takes) := by
  cases h with
  | verifyRefreshToken now accepted refreshToken =>
      unfold AuthState.verifyRefreshToken
      split
      · split <;> exact ⟨.inl rfl, .inl rfl⟩
      · exact ⟨.inl rfl, .inl rfl⟩
  | verifyAccessToken now accepted accessToken =>
      unfold AuthState.verifyAccessToken
      split
      · split <;> exact ⟨.inl rfl, .inl rfl⟩
      · exact ⟨.inl rfl, .inl rfl⟩
  | find purpose =>
      unfold AuthState.find
      split
      · cases purpose <;> exact ⟨.inl rfl, .inr rfl⟩
      · split <;> exact ⟨.inl rfl, .inl rfl⟩
  | check available purpose user =>
      cases purpose with
      | refresh origin principal =>
          simp only [AuthState.check]
          split
          · exact ⟨.inl rfl, .inr rfl⟩
          · exact ⟨.inl rfl, .inl rfl⟩
      | _ =>
          simp only [AuthState.check]
          split <;> exact ⟨.inl rfl, .inl rfl⟩
  | issueAccessToken principal origin accessToken now => exact ⟨.inl rfl, .inr rfl⟩
  | finish put tokens => exact ⟨.inl rfl, .inl rfl⟩
  | refuse stage thrown => exact ⟨.inl rfl, .inl rfl⟩
  | fail stage => exact ⟨.inl rfl, .inl rfl⟩

theorem authoritativePrincipal_custody (parent : TokenPair) (verified : VerifiedRefreshToken)
    (stored : Except Thrown (Option AuthenticatedPrincipal)) :
    (authoritativePrincipal parent verified stored).owes = none ∧
      ((authoritativePrincipal parent verified stored).takes = none ∨
        (authoritativePrincipal parent verified stored).takes = some parent.refreshToken ∧
          ∃ principal, stored = .ok (some principal)) := by
  unfold authoritativePrincipal
  split
  next principal =>
    split
    · exact ⟨rfl, .inr ⟨rfl, principal, rfl⟩⟩
    · exact ⟨rfl, .inl rfl⟩
  · exact ⟨rfl, .inl rfl⟩
  · exact ⟨rfl, .inl rfl⟩

theorem issuedTokens_newPair {principal : AuthenticatedPrincipal} {origin : Option Origin}
    {accessToken refreshToken : String} {issuedAt now : ℤ} {refresh : Claims} :
    issuedTokens (newPair service principal origin accessToken issuedAt refreshToken now refresh ::
      s.pairs) = insert refreshToken (issuedTokens s.pairs) := by
  ext t
  constructor
  · rintro ⟨pair, hpair, rfl⟩
    rcases List.mem_cons.1 hpair with rfl | hold
    · exact Set.mem_insert _ _
    · exact Set.mem_insert_of_mem _ ⟨pair, hold, rfl⟩
  · rintro (rfl | ⟨pair, hpair, rfl⟩)
    · exact ⟨_, List.mem_cons_self, rfl⟩
    · exact ⟨pair, List.mem_cons_of_mem _ hpair, rfl⟩

theorem not_issued_of_isNew (h : Genuine service s) {token : String} (hnew : s.isNew token) :
    token ∉ issuedTokens s.pairs := by
  rintro ⟨pair, hpair, rfl⟩
  have hclaims := (h.pairs pair hpair).claimsOf_refreshToken
  rw [hnew pair hpair] at hclaims
  cases hclaims

/-- Every step moves the custody of the refresh tokens. -/
theorem step_custody [DecidableEq ι] (hdigest : Set.InjOn service.platform.sha256 tokens)
    (h : Genuine service s) (htokens : issuedTokens s.pairs ⊆ tokens) {a : Action ι}
    (hstep : Steps service s a s') :
    Custody.Move (custody service.platform tokens s) (custody service.platform tokens s') := by
  cases hstep with
  | users husers hends => exact .lose (Set.Subset.refl _)
  | setGroup groupId active => exact .lose (Set.Subset.refl _)
  | session houtside hsession => exact .lose (storedTokens_outside houtside hsession)
  | release store => exact .lose (Set.Subset.refl _)
  | start request hcall =>
      rw [custody_moveTo]
      refine .settle (Set.Subset.refl _) ?_ ?_
      · cases request <;> exact .inl rfl
      · cases request <;> exact .inl rfl
  | @advance _ call stage stage' hcall hadvance hends =>
      rw [custody_moveTo]
      have howed : (custody service.platform tokens s).owed call = stage.owes :=
        congrArg (Option.bind · Stage.owes) hcall
      have htaken : (custody service.platform tokens s).taken call = stage.takes :=
        congrArg (Option.bind · Stage.takes) hcall
      refine .settle (Set.Subset.refl _) ?_ ?_
      · rw [howed]
        exact hadvance.custody.1
      · rw [htaken]
        exact hadvance.custody.2
  | @consume call refreshToken parent verified hcall =>
      obtain ⟨rfl, -, hwithin⟩ := h.calls _ _ hcall
      have ht : parent.refreshToken ∈ tokens := htokens ⟨parent, hwithin.1, rfl⟩
      obtain ⟨howes, htakes⟩ := authoritativePrincipal_custody parent verified
        (s.sessions.consumeRefreshSession service.platform parent.refreshToken).2
      have hmoved := custody_moved service.platform tokens s call
        (authoritativePrincipal parent verified
          (s.sessions.consumeRefreshSession service.platform parent.refreshToken).2)
        (s.sessions.consumeRefreshSession service.platform parent.refreshToken).1 s.pairs
      rw [howes] at hmoved
      refine hmoved.symm ▸ ?_
      rcases htakes with htakes | ⟨htakes, principal, hstored⟩
      · rw [htakes]
        exact .settle (storedTokens_erase_subset _) (.inl rfl) (.inl rfl)
      · -- what is taken is what was stored
        rw [htakes]
        have herase := storedTokens_erase hdigest ht s.sessions.redis
        exact herase.symm ▸ .take ⟨ht, stored_of_consume hstored⟩
  | @issue call principal origin accessToken refreshToken issuedAt now refresh hcall haccess
      hrefresh hne hissued =>
      have hmoved := custody_moved service.platform tokens s call
        (.refreshIssued
          (newPair service principal origin accessToken issuedAt refreshToken now refresh))
        s.sessions
        (newPair service principal origin accessToken issuedAt refreshToken now refresh :: s.pairs)
      have htaken : (custody service.platform tokens s).taken call =
          origin.map fun origin => origin.1.refreshToken :=
        congrArg (Option.bind · Stage.takes) hcall
      have hexchanged : (newPair service principal origin accessToken issuedAt refreshToken now
          refresh :: s.pairs).filterMap TokenPair.parent =
            ((custody service.platform tokens s).taken call).toList ++
              s.pairs.filterMap TokenPair.parent := by
        rw [htaken]
        cases origin <;> rfl
      rw [issuedTokens_newPair, hexchanged] at hmoved
      exact hmoved.symm ▸ .exchange (not_issued_of_isNew h hrefresh)
  | @put call store now pair ttl tokenSet sessions hcall hput =>
      have hmoved := custody_moved service.platform tokens s call
        (.putting s.sessions.puts.length tokenSet) sessions s.pairs
      refine hmoved.symm ▸ ?_
      have howed : (custody service.platform tokens s).owed call = some pair.refreshToken :=
        congrArg (Option.bind · Stage.owes) hcall
      have ht : pair.refreshToken ∈ tokens := htokens ⟨pair, h.calls _ _ hcall, rfl⟩
      cases hput with
      | refuse => exact .settle (Set.Subset.refl _) (.inl rfl) (.inl rfl)
      | put =>
          have hset := storedTokens_set hdigest ht s.sessions.redis
          rw [hset]
          exact .store howed

end Custody

/-! ## The ends of the tokens -/

theorem pairs_subset [DecidableEq ι] {a : Action ι} (hstep : Steps service s a s') :
    s.pairs ⊆ s'.pairs := by
  cases hstep with
  | issue => exact List.subset_cons_self _ _
  | _ => exact List.Subset.refl _

/-- The library rounds a date down to the second. -/
def RoundsDown (tokens : JwtTokenService) : Prop := ∀ t, ofEpochSecond (tokens.numericDate t) ≤ t

/-- A refresh token always ends with the session, so that the access token decides. -/
theorem TokenPair.Sound.endsBy_iff {pair : TokenPair} (h : pair.Sound service)
    (hdate : RoundsDown service.tokenService) :
    pair.EndsBy (pair.loginAt + service.tokenService.absoluteSessionTtl) ↔
      ∀ seconds ∈ pair.access.expiresAt,
        ofEpochSecond seconds ≤ pair.loginAt + service.tokenService.absoluteSessionTtl := by
  obtain ⟨expiresAt, deadline, hrefresh, hle, hdeadline⟩ := h.refresh
  constructor
  · intro hends
    exact hends pair.access List.mem_cons_self
  · intro haccess
    refine List.forall_mem_cons.2 ⟨haccess, List.forall_mem_singleton.2 ?_⟩
    rw [hrefresh]
    rintro seconds ⟨⟩
    calc ofEpochSecond (service.tokenService.numericDate expiresAt) ≤ expiresAt := hdate expiresAt
      _ ≤ deadline := hle
      _ ≤ pair.loginAt + service.tokenService.absoluteSessionTtl := hdeadline

/-- Where a pair is issued, the condition says that its tokens end with the session. -/
theorem accessEndsInSession_iff [DecidableEq ι] {call : ℕ} {principal : AuthenticatedPrincipal}
    {origin : Option Origin} {accessToken refreshToken : String} {issuedAt now : ℤ}
    {refresh : Claims} (h : Genuine service s) (hdate : RoundsDown service.tokenService)
    (hcall : s.calls call = some (.accessIssued principal origin accessToken issuedAt))
    (hne : accessToken ≠ refreshToken)
    (hissued : service.tokenService.issueRefreshToken now principal (origin.map Prod.snd) =
      .ok refresh) :
    s.accessEndsInSession service (.issueRefreshToken call now refreshToken) = true ↔
      (newPair service principal origin accessToken issuedAt refreshToken now refresh).EndsBy
        ((newPair service principal origin accessToken issuedAt refreshToken now refresh).loginAt +
          service.tokenService.absoluteSessionTtl) := by
  have hsound : (newPair service principal origin accessToken issuedAt refreshToken now
      refresh).Sound service := newPair_sound (h.calls _ _ hcall) hne hissued
  rw [hsound.endsBy_iff hdate, AuthState.accessEndsInSession, hcall]
  simp only [decide_eq_true_eq]
  constructor
  · rintro hends seconds ⟨⟩
    exact hends (issued_eq hissued).1
  · intro hends hnow
    exact hends _ rfl

def Bounded (service : AuthSessionService) (s : AuthState ι) : Prop :=
  ∀ pair ∈ s.pairs, pair.EndsBy (pair.loginAt + service.tokenService.absoluteSessionTtl)

theorem step_bounded [DecidableEq ι] {a : Action ι} (h : Genuine service s)
    (hdate : RoundsDown service.tokenService) (hbounded : Bounded service s)
    (hstep : Steps service s a s') :
    Bounded service s' ↔ s.accessEndsInSession service a = true := by
  cases hstep with
  | issue hcall haccess hrefresh hne hissued =>
      rw [accessEndsInSession_iff h hdate hcall hne hissued]
      exact List.forall_mem_cons.trans (and_iff_left hbounded)
  | users husers hends => exact iff_of_true hbounded hends
  | advance hcall hadvance hends => exact iff_of_true hbounded hends
  | _ => exact iff_of_true hbounded rfl

/-! ## Refusals -/

def Purpose.principal? : Purpose → Option AuthenticatedPrincipal
  | .login _ _ _ => none
  | .refresh _ principal => some principal
  | .access principal => some principal

/-- The call has a token of the pair, and what it has read so far is a reason to refuse it. -/
def Refusing (reason : Reason) (pair : TokenPair) : Stage → Prop
  | .access accessToken => accessToken = pair.accessToken
  | .refresh refreshToken => refreshToken = pair.refreshToken
  | .consuming _ _ verified => verified.principal = pair.principal
  | .finding purpose => purpose.principal? = some pair.principal
  | .checking purpose user =>
    purpose.principal? = some pair.principal ∧ reason.AppliesTo pair.principal user
  | .refused _ => True
  | .failed => True
  | _ => False

section Refusal

variable {reason : Reason} {pair : TokenPair} {stage stage' : Stage}

theorem Refusing.passed (h : Refusing reason pair stage) : stage.passed = false := by
  cases stage with
  | issuing => exact h.elim
  | accessIssued => exact h.elim
  | refreshIssued => exact h.elim
  | putting => exact h.elim
  | returned => exact h.elim
  | verified => exact h.elim
  | _ => rfl

theorem refusing_of_presented (h : pair.PresentedTo stage) : Refusing reason pair stage := by
  rcases h with rfl | rfl
  · rfl
  · rfl

theorem eq_of_refreshToken (h : Genuine service s) {pair' : TokenPair} (hpair : pair ∈ s.pairs)
    (hpair' : pair' ∈ s.pairs) (ht : pair.refreshToken = pair'.refreshToken) : pair = pair' := by
  refine h.distinct pair hpair pair' hpair' pair.refreshToken ?_ ?_
  · rw [(h.pairs pair hpair).claimsOf_refreshToken]
    exact Option.some_ne_none _
  · rw [ht, (h.pairs pair' hpair').claimsOf_refreshToken]
    exact Option.some_ne_none _

theorem eq_of_accessToken (h : Genuine service s) {pair' : TokenPair} (hpair : pair ∈ s.pairs)
    (hpair' : pair' ∈ s.pairs) (ht : pair.accessToken = pair'.accessToken) : pair = pair' := by
  refine h.distinct pair hpair pair' hpair' pair.accessToken ?_ ?_
  · rw [claimsOf_accessToken]
    exact Option.some_ne_none _
  · rw [ht, claimsOf_accessToken]
    exact Option.some_ne_none _

theorem refusing_verifyRefreshToken (h : Genuine service s) (hpair : pair ∈ s.pairs) (now : ℤ)
    (accepted : Bool) :
    Refusing reason pair (s.verifyRefreshToken service now accepted pair.refreshToken) := by
  unfold AuthState.verifyRefreshToken
  split
  next pair' decoded hverify =>
    obtain ⟨hpair', ht, rfl⟩ := verify_refresh h hverify
    obtain rfl := eq_of_refreshToken h hpair hpair' ht
    obtain ⟨expiresAt, deadline, hrefresh, -⟩ := (h.pairs pair hpair).refresh
    split
    next verified hverified =>
      rw [hrefresh] at hverified
      exact (verified_issueToken hverified).1
    next => trivial
  next => trivial

theorem refusing_verifyAccessToken (h : Genuine service s) (hpair : pair ∈ s.pairs) (now : ℤ)
    (accepted : Bool) :
    Refusing reason pair (s.verifyAccessToken service now accepted pair.accessToken) := by
  unfold AuthState.verifyAccessToken
  split
  next pair' decoded hverify =>
    obtain ⟨hpair', ht, rfl⟩ := verify_access h hverify
    obtain rfl := eq_of_accessToken h hpair hpair' ht
    obtain ⟨issuedAt, haccess⟩ := (h.pairs pair hpair).access
    split
    next verified hverified =>
      rw [haccess] at hverified
      exact congrArg some (verifiedAccess_issueToken hverified)
    next => trivial
  next => trivial

theorem username_of_principal? {purpose : Purpose} {principal : AuthenticatedPrincipal}
    (h : purpose.principal? = some principal) : purpose.username = principal.username := by
  cases purpose with
  | login => cases h
  | _ => exact congrArg AuthenticatedPrincipal.username (Option.some.inj h)

/-- The user who is found is the one that there is a reason against. -/
theorem refusing_find (hholds : reason.Holds s pair.principal) {purpose : Purpose}
    (h : purpose.principal? = some pair.principal) : Refusing reason pair (s.find purpose) := by
  obtain ⟨⟨user, huser, happlies⟩, -⟩ := hholds
  unfold AuthState.find
  rw [username_of_principal? h, huser]
  exact ⟨h, happlies⟩

theorem not_authenticated (hholds : reason.Holds s pair.principal) {user : AuthUser}
    (happlies : reason.AppliesTo pair.principal user) (available : Bool) :
    ¬(s.canAuthenticate available user = true ∧
      user.securityVersion = pair.principal.securityVersion) := by
  rintro ⟨hcan, hversion⟩
  rw [AuthState.canAuthenticate, Bool.and_eq_true, Bool.or_eq_true] at hcan
  cases reason with
  | versionExceeded =>
      have hlt : pair.principal.securityVersion < user.securityVersion := happlies
      omega
  | userInactive => exact absurd (happlies.symm.trans hcan.1) Bool.false_ne_true
  | groupInactive groupId =>
      obtain ⟨hrole, hgroup⟩ := happlies
      have hinactive := hholds.2 groupId rfl
      have hactive := hcan.2.resolve_left fun hadmin => hrole (of_decide_eq_true hadmin)
      rw [AuthState.isGroupActive, hgroup, hinactive, Bool.and_false] at hactive
      cases hactive

theorem refusing_check (hholds : reason.Holds s pair.principal) {purpose : Purpose}
    {user : AuthUser} (h : purpose.principal? = some pair.principal)
    (happlies : reason.AppliesTo pair.principal user) (available : Bool) :
    Refusing reason pair (s.check service available user purpose) := by
  have hnot := not_authenticated hholds happlies available
  cases purpose with
  | login => cases h
  | refresh origin principal =>
      obtain rfl := Option.some.inj h
      rw [AuthState.check, if_neg hnot]
      trivial
  | access principal =>
      obtain rfl := Option.some.inj h
      rw [AuthState.check, if_neg hnot]
      trivial

theorem Advances.refusing (h : Genuine service s) (hpair : pair ∈ s.pairs)
    (hholds : reason.Holds s pair.principal) (hstage : Refusing reason pair stage)
    (hadvance : Advances service s stage stage') : Refusing reason pair stage' := by
  cases hadvance with
  | verifyRefreshToken now accepted refreshToken =>
      obtain rfl : refreshToken = pair.refreshToken := hstage
      exact refusing_verifyRefreshToken h hpair now accepted
  | verifyAccessToken now accepted accessToken =>
      obtain rfl : accessToken = pair.accessToken := hstage
      exact refusing_verifyAccessToken h hpair now accepted
  | find purpose => exact refusing_find hholds hstage
  | check available purpose user => exact refusing_check hholds hstage.1 hstage.2 available
  | issueAccessToken => exact hstage.elim
  | finish => exact hstage.elim
  | refuse => trivial
  | fail => trivial

theorem refusing_authoritativePrincipal {parent : TokenPair} {verified : VerifiedRefreshToken}
    (h : verified.principal = pair.principal)
    (stored : Except Thrown (Option AuthenticatedPrincipal)) :
    Refusing reason pair (authoritativePrincipal parent verified stored) := by
  unfold authoritativePrincipal
  split
  · split
    next he => exact congrArg some (he.trans h)
    next => trivial
  · trivial
  · trivial

/-- A step leaves every other call where it is. -/
theorem moveTo_of_ne {call call' : ℕ} (hne : call ≠ call') :
    (s.moveTo call' stage).calls call = s.calls call := Function.update_of_ne hne ..

theorem moveTo_self (call : ℕ) : (s.moveTo call stage).calls call = some stage :=
  Function.update_self ..

theorem step_refusing [DecidableEq ι] {a : Action ι} {call : ℕ} (h : Genuine service s)
    (hpair : pair ∈ s.pairs) (hholds : reason.Holds s pair.principal)
    (hcall : s.calls call = some stage) (hstage : Refusing reason pair stage)
    (hstep : Steps service s a s') :
    ∃ stage', s'.calls call = some stage' ∧ Refusing reason pair stage' := by
  cases hstep with
  | users => exact ⟨stage, hcall, hstage⟩
  | setGroup => exact ⟨stage, hcall, hstage⟩
  | session => exact ⟨stage, hcall, hstage⟩
  | release => exact ⟨stage, hcall, hstage⟩
  | @start call' request hnone =>
      have hne : call ≠ call' := by
        rintro rfl
        rw [hcall] at hnone
        cases hnone
      exact ⟨stage, (moveTo_of_ne hne).trans hcall, hstage⟩
  | @advance _ call' stage₁ stage₂ hcall' hadvance hends =>
      by_cases he : call = call'
      · subst he
        obtain rfl : stage = stage₁ := Option.some.inj (hcall.symm.trans hcall')
        exact ⟨stage₂, moveTo_self call, hadvance.refusing h hpair hholds hstage⟩
      · exact ⟨stage, (moveTo_of_ne he).trans hcall, hstage⟩
  | @consume call' refreshToken parent verified hcall' =>
      by_cases he : call = call'
      · subst he
        obtain rfl := Option.some.inj (hcall.symm.trans hcall')
        exact ⟨_, moveTo_self call, refusing_authoritativePrincipal hstage _⟩
      · exact ⟨stage, (moveTo_of_ne he).trans hcall, hstage⟩
  | @issue call' principal origin accessToken refreshToken issuedAt now refresh hcall' =>
      by_cases he : call = call'
      · subst he
        obtain rfl := Option.some.inj (hcall.symm.trans hcall')
        exact hstage.elim
      · exact ⟨stage, (moveTo_of_ne he).trans hcall, hstage⟩
  | @put call' store now pair' ttl tokenSet sessions hcall' =>
      by_cases he : call = call'
      · subst he
        obtain rfl := Option.some.inj (hcall.symm.trans hcall')
        exact hstage.elim
      · exact ⟨stage, (moveTo_of_ne he).trans hcall, hstage⟩

/-- Security versions never fall. -/
theorem step_versionExceeded [DecidableEq ι] {a : Action ι} {principal : AuthenticatedPrincipal}
    (h : Reason.versionExceeded.Holds s principal) (hstep : Steps service s a s') :
    Reason.versionExceeded.Holds s' principal := by
  cases hstep with
  | users husers hends =>
      obtain ⟨⟨current, hcurrent, hlt⟩, -⟩ := h
      obtain ⟨user, huser, hle⟩ := husers principal.username current hcurrent
      exact ⟨⟨user, huser, Nat.lt_of_lt_of_le hlt hle⟩, nofun⟩
  | _ => exact ⟨h.1, nofun⟩

end Refusal

/-! ## Runs -/

section Runs

variable {tokens : Set String}

/-- What every step keeps. -/
structure Kept (service : AuthSessionService) (tokens : Set String) (s : AuthState ι) : Prop where
  genuine : Genuine service s
  issued : issuedTokens s.pairs ⊆ tokens
  custody : (custody service.platform tokens s).Sound

theorem initial_kept (users : String → Option AuthUser) (groups : GroupId → Bool) (clock : ℤ) :
    Kept service tokens (AuthState.initial users groups clock : AuthState ι) where
  genuine :=
    { pairs := fun _ hpair => absurd hpair List.not_mem_nil
      distinct := fun _ hpair => absurd hpair List.not_mem_nil
      chained := fun _ hpair => absurd hpair List.not_mem_nil
      calls := fun _ _ hcall => by cases hcall }
  issued := by
    rintro t ⟨pair, hpair, -⟩
    exact absurd hpair List.not_mem_nil
  custody :=
    { owed_issued := fun _ _ ht => by cases ht
      stored_issued := fun _ ht => absurd rfl ht.2
      taken_issued := fun _ _ ht => by cases ht
      exchanged_issued := fun _ ht => absurd ht List.not_mem_nil
      owed_unique := fun _ _ _ ht => by cases ht
      taken_unique := fun _ _ _ ht => by cases ht
      owed_elsewhere := fun _ _ ht => by cases ht
      stored_elsewhere := fun _ ht => absurd rfl ht.2
      taken_elsewhere := fun _ _ ht => by cases ht
      exchanged_nodup := List.nodup_nil }

theorem step_kept [DecidableEq ι] (hdigest : Set.InjOn service.platform.sha256 tokens)
    {a : Action ι} (h : Kept service tokens s) (ha : ∀ t ∈ a.token?, t ∈ tokens)
    (hstep : Steps service s a s') : Kept service tokens s' where
  genuine := step_genuine h.genuine hstep
  issued := by
    cases hstep with
    | issue =>
        rw [issuedTokens_newPair]
        exact Set.insert_subset (ha _ rfl) h.issued
    | _ => exact h.issued
  custody := h.custody.move (step_custody hdigest h.genuine h.issued hstep)

theorem run_pairs_subset [DecidableEq ι] {acts : List (Action ι)}
    (hrun : Runs.run (AuthState.step service) s acts = some s') : s.pairs ⊆ s'.pairs := by
  have hstep : ∀ (t : AuthState ι) (a : Action ι) (t' : AuthState ι), s.pairs ⊆ t.pairs →
      t.step service a = some t' → s.pairs ⊆ t'.pairs :=
    fun t a t' h hstep => List.Subset.trans h (pairs_subset (steps_of_step hstep))
  exact Runs.run_invariant_of_step hstep (List.Subset.refl _) hrun

/-- A call that starts with a token of the pair is refused, as long as there is a reason. -/
theorem run_refused [DecidableEq ι] {reason : Reason} {pair : TokenPair} {call : ℕ}
    {stage : Stage} {acts : List (Action ι)} (h : Genuine service s) (hpair : pair ∈ s.pairs)
    (hcall : s.calls call = some stage) (hpresented : pair.PresentedTo stage)
    (hholds : Runs.Along (AuthState.step service) (fun t _ => reason.Holds t pair.principal) s acts)
    (hrun : Runs.run (AuthState.step service) s acts = some s') : s'.Refused call := by
  have hstep : ∀ (t : AuthState ι) (a : Action ι) (t' : AuthState ι),
      Genuine service t ∧ pair ∈ t.pairs ∧
        (∃ stage, t.calls call = some stage ∧ Refusing reason pair stage) →
      reason.Holds t pair.principal → t.step service a = some t' →
      Genuine service t' ∧ pair ∈ t'.pairs ∧
        ∃ stage, t'.calls call = some stage ∧ Refusing reason pair stage := by
    rintro t a t' ⟨hgenuine, hmem, stage, hstage, hrefusing⟩ hreason hstep
    have hsteps := steps_of_step hstep
    exact ⟨step_genuine hgenuine hsteps, pairs_subset hsteps hmem,
      step_refusing hgenuine hmem hreason hstage hrefusing hsteps⟩
  obtain ⟨-, -, stage', hstage', hrefusing⟩ := Runs.run_invariant hstep
    ⟨h, hpair, stage, hcall, refusing_of_presented hpresented⟩ hholds hrun
  intro stage'' hstage''
  obtain rfl : stage' = stage'' := Option.some.inj (hstage'.symm.trans hstage'')
  exact hrefusing.passed

theorem along_versionExceeded [DecidableEq ι] {principal : AuthenticatedPrincipal}
    {acts : List (Action ι)} (h : Reason.versionExceeded.Holds s principal) :
    Runs.Along (AuthState.step service)
      (fun t _ => Reason.versionExceeded.Holds t principal) s acts := by
  induction acts generalizing s with
  | nil => trivial
  | cons a acts ih => exact ⟨h, fun t ht => ih (step_versionExceeded h (steps_of_step ht))⟩

theorem safe_of_kept [DecidableEq ι] (h : Kept service tokens s) (hbounded : Bounded service s) :
    SessionSafe service s where
  oneSuccessor := h.custody.exchanged_nodup
  chained := h.genuine.chained
  bounded := hbounded
  rejected _ hpair _ _ hcall hpresented _ _ _ hholds hrun :=
    run_refused h.genuine hpair hcall hpresented hholds hrun
  outdated _ hpair _ _ hcall hpresented hexceeded _ _ hrun :=
    run_refused h.genuine hpair hcall hpresented (along_versionExceeded hexceeded) hrun

/-- All tokens of a run end with their sessions if and only if each access token is issued early
enough: what was issued stays among the pairs. -/
theorem run_bounded_iff [DecidableEq ι] (hdate : RoundsDown service.tokenService)
    {acts : List (Action ι)} (h : Genuine service s) (hbounded : Bounded service s)
    (hrun : Runs.run (AuthState.step service) s acts = some s') :
    Bounded service s' ↔ Runs.Along (AuthState.step service)
      (fun t a => t.accessEndsInSession service a = true) s acts := by
  induction acts generalizing s with
  | nil =>
      obtain rfl : s = s' := Option.some.inj hrun
      exact iff_of_true hbounded trivial
  | cons a acts ih =>
      rw [Runs.run_cons, Option.bind_eq_some_iff] at hrun
      obtain ⟨t, ht, hrun⟩ := hrun
      have hsteps := steps_of_step ht
      have hone := step_bounded h hdate hbounded hsteps
      have hgenuine := step_genuine h hsteps
      constructor
      · intro hends
        have hfirst : Bounded service t := fun pair hpair =>
          hends pair (run_pairs_subset hrun hpair)
        refine ⟨hone.1 hfirst, fun t' ht' => ?_⟩
        obtain rfl : t = t' := Option.some.inj (ht.symm.trans ht')
        exact (ih hgenuine hfirst hrun).1 hends
      · rintro ⟨hends, hrest⟩
        exact (ih hgenuine (hone.2 hends) hrun).2 (hrest t ht)

/-- The sessions are safe in every state of a run if and only if each pair is issued early enough
for its access token to end with the session. -/
theorem session_safe_iff [DecidableEq ι] (hdate : RoundsDown service.tokenService)
    (hdigest : Set.InjOn service.platform.sha256 tokens) {users : String → Option AuthUser}
    {groups : GroupId → Bool} {clock : ℤ} {acts : List (Action ι)}
    (htokens : ∀ a ∈ acts, ∀ t ∈ a.token?, t ∈ tokens)
    (hrun : Runs.run (AuthState.step service) (AuthState.initial users groups clock) acts =
      some s) :
    SessionSafe service s ↔ Runs.Along (AuthState.step service)
      (fun t a => t.accessEndsInSession service a = true)
      (AuthState.initial users groups clock) acts := by
  have hinitial : Kept service tokens (AuthState.initial users groups clock : AuthState ι) :=
    initial_kept users groups clock
  have hkept : Kept service tokens s :=
    Runs.run_invariant (fun t a t' h ha hstep => step_kept hdigest h ha (steps_of_step hstep))
      hinitial (Runs.along_of_mem htokens _) hrun
  have hempty : Bounded service (AuthState.initial users groups clock : AuthState ι) :=
    fun _ hpair => absurd hpair List.not_mem_nil
  have hends := run_bounded_iff hdate hinitial.genuine hempty hrun
  exact ⟨fun hsafe => hends.1 hsafe.bounded, fun halong => safe_of_kept hkept (hends.2 halong)⟩

end Runs

/-! ## A token that outlives its session -/

def minutes (n : ℤ) : ℤ := n * (60 * Clock.second)

/-- Access, refresh and session of 30, 120 and 480 minutes; the bytes of a string stand for its
digest. -/
def sampleService : AuthSessionService where
  tokenService :=
    { issuer := "gcs-saker"
      accessTokenTtl := minutes 30
      refreshTokenTtl := minutes 120
      absoluteSessionTtl := minutes 480
      numericDate := epochSecond
      issuerNotBlank := by decide
      accessTokenTtlPositive := by decide
      refreshTokenTtlPositive := by decide
      refreshTokenTtl_le := by decide }
  verifyPassword password hash := password = hash
  verifyMfa _ _ := true
  platform := RefreshSessions.samplePlatform

def sampleUser : AuthUser where
  id := 1
  username := "operator01"
  email := "operator01@example.test"
  passwordHash := "secret"
  companyId := 1
  role := .operator
  groupId := ⟨"co-a", by decide⟩
  active := true
  securityVersion := 1
  usernameNotBlank := by decide
  emailNotBlank := by decide
  passwordHashNotBlank := by decide
  securityVersionPositive := Nat.one_pos

def sampleStart : AuthState Unit :=
  AuthState.initial (Function.update (fun _ => none) "operator01" (some sampleUser))
    (fun _ => true) 0

/-- The steps of a login or a refresh from the reading of the user. -/
def issueSteps (call : ℕ) (now : ℤ) (accessToken refreshToken : String) : List (Action Unit) :=
  [.find call, .check call true, .issueAccessToken call now accessToken,
    .issueRefreshToken call now refreshToken, .put call () now true, .session (.readIndex ()),
    .session (.writeIndex ()), .finish call]

def loginSteps : List (Action Unit) :=
  .start 0 (.login "operator01" "secret" none) :: issueSteps 0 0 "access0" "refresh0"

def refreshSteps (call : ℕ) (now : ℤ) (refreshToken accessToken refreshToken' : String) :
    List (Action Unit) :=
  [.start call (.refresh refreshToken), .verifyRefreshToken call now true, .consume call] ++
    issueSteps call now accessToken refreshToken'

/-- Every refresh is in time, and the last one ten minutes before the end of the session. -/
def lateRefresh : List (Action Unit) :=
  loginSteps ++ refreshSteps 1 (minutes 100) "refresh0" "access1" "refresh1" ++
    refreshSteps 2 (minutes 200) "refresh1" "access2" "refresh2" ++
    refreshSteps 3 (minutes 300) "refresh2" "access3" "refresh3" ++
    refreshSteps 4 (minutes 400) "refresh3" "access4" "refresh4" ++
    refreshSteps 5 (minutes 470) "refresh4" "access5" "refresh5"

/-- The call has returned a pair whose access token is good for 500 minutes. -/
def outlives (s : AuthState Unit) : Bool :=
  s.pairs.any fun pair => pair.loginAt = 0 ∧ pair.access.expiresAt = some (500 * 60)

theorem session_safe_counterexample : ∃ s : AuthState Unit,
    Runs.run (AuthState.step sampleService) sampleStart lateRefresh = some s ∧
      ¬ SessionSafe sampleService s := by
  have hrun : (Runs.run (AuthState.step sampleService) sampleStart lateRefresh).any outlives =
      true := by decide +kernel
  obtain ⟨s, hs, houtlives⟩ := (Option.any_eq_true _ _).1 hrun
  refine ⟨s, hs, fun hsafe => ?_⟩
  obtain ⟨pair, hpair, hlate⟩ := List.any_eq_true.1 houtlives
  obtain ⟨hlogin, hexpires⟩ := of_decide_eq_true hlate
  have hends := hsafe.bounded pair hpair pair.access List.mem_cons_self _ hexpires
  rw [hlogin] at hends
  exact absurd hends (by decide)

def promptRefresh : List (Action Unit) :=
  loginSteps ++ refreshSteps 1 (minutes 100) "refresh0" "access1" "refresh1"

theorem sampleTokens_injOn :
    Set.InjOn sampleService.platform.sha256 {t | t ∈ ["refresh0", "refresh1"]} := by
  have hall : ∀ t ∈ ["refresh0", "refresh1"], ∀ t' ∈ ["refresh0", "refresh1"],
      sampleService.platform.sha256 t = sampleService.platform.sha256 t' → t = t' := by
    decide +kernel
  intro t ht t' ht' he
  exact hall t ht t' ht' he

theorem session_safe_prompt : ∃ s : AuthState Unit,
    Runs.run (AuthState.step sampleService) sampleStart promptRefresh = some s ∧
      SessionSafe sampleService s := by
  have hrun : (Runs.run (AuthState.step sampleService) sampleStart promptRefresh).isSome =
      true := by decide +kernel
  obtain ⟨s, hs⟩ := Option.isSome_iff_exists.1 hrun
  have htokens : ∀ a ∈ promptRefresh, ∀ t ∈ a.token?,
      t ∈ {t | t ∈ ["refresh0", "refresh1"]} := by
    simp [promptRefresh, loginSteps, refreshSteps, issueSteps, Action.token?]
  have hdate : RoundsDown sampleService.tokenService := ofEpochSecond_epochSecond_le
  have hsafe := (session_safe_iff hdate sampleTokens_injOn htokens hs).2 (by decide +kernel)
  exact ⟨s, hs, hsafe⟩

end GcsSaker.AuthSessions
