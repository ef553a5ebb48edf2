import GcsSaker.ClosureMaintenance
import GcsSaker.GroupInvalidation

/-!
# What a change of a group leaves when it throws

The users of the subtree are invalidated one after another, before the group is written. A call that
throws on the way does not take that back: a first part of the users has the next security version,
sessions of theirs may be gone, and the group is as it was.
-/

namespace GcsSaker.Groups

open RefreshSessions (Redis Redis.get decodeIndex)

/-! ## The group -/

section Group

variable {tables tables' : Tables} {unit : OrganizationUnit} {environment : ℕ → Attempt}

theorem updateWork_groups (h : updateWork unit tables = .ok tables') :
    tables'.organizationGroups =
      KeyedDelta.overwrite OrganizationUnit.id [unit] tables.organizationGroups := by
  rw [updateWork] at h
  split_ifs at h
  obtain ⟨scope, -, h⟩ := CheckedSteps.bind_eq_ok_iff.1 h
  obtain ⟨groups, hgroups, h⟩ := CheckedSteps.bind_eq_ok_iff.1 h
  obtain ⟨closure, -, h⟩ := CheckedSteps.bind_eq_ok_iff.1 h
  cases h
  exact (update_eq_ok hgroups).2.2

/-- An attempt commits without an answer. -/
def CommitUnanswered (environment : ℕ → Attempt) : Prop :=
  ∃ attempt < MAX_ATTEMPTS, ∃ failure, (environment attempt).outcome = .failsAfterCommit failure

theorem attempts_of_answered {work : Tables → Except WorkError Tables}
    (henvironment : ¬ CommitUnanswered environment) {left : ℕ} {thrown : Thrown}
    (h : (attempts work environment left tables).2 = .error thrown) :
    (attempts work environment left tables).1 = tables := by
  induction left with
  | zero => rfl
  | succ left ih =>
      have hretry : ∀ decision : Option Thrown,
          (orRetry decision (attempts work environment left) tables).2 = .error thrown →
            (orRetry decision (attempts work environment left) tables).1 = tables := by
        intro decision h
        cases decision with
        | some thrown => rfl
        | none => exact ih h
      have hlt : MAX_ATTEMPTS - (left + 1) < MAX_ATTEMPTS := by
        unfold MAX_ATTEMPTS
        omega
      rw [attempts] at h ⊢
      cases hresult : work tables with
      | ok changed =>
          rw [hresult] at h
          cases houtcome : (environment (MAX_ATTEMPTS - (left + 1))).outcome with
          | completes =>
              rw [houtcome] at h
              cases h
          | failsBeforeCommit failure =>
              rw [houtcome] at h
              exact hretry _ h
          | failsAfterCommit failure => exact absurd ⟨_, hlt, failure, houtcome⟩ henvironment
      | error error =>
          rw [hresult] at h
          cases houtcome : (environment (MAX_ATTEMPTS - (left + 1))).outcome with
          | completes =>
              rw [houtcome] at h
              cases error with
              | thrown thrown => rfl
              | dataIntegrityViolation => exact hretry _ h
          | failsBeforeCommit failure =>
              rw [houtcome] at h
              exact hretry _ h
          | failsAfterCommit failure => exact absurd ⟨_, hlt, failure, houtcome⟩ henvironment

namespace OrganizationHierarchyRepository

def Unconfirmed (environment : ℕ → Attempt) : OrganizationHierarchyRepository → Prop
  | inMemory _ => False
  | jdbc _ => CommitUnanswered environment

theorem update_of_thrown {groups groups' : OrganizationHierarchyRepository} {thrown : Thrown}
    (h : groups.update environment unit = (groups', .error thrown)) :
    groups' = groups ∨ (groups.Unconfirmed environment ∧
      groups'.units = KeyedDelta.overwrite OrganizationUnit.id [unit] groups.units) := by
  cases groups with
  | inMemory groups =>
      rw [update] at h
      cases hupdate : groups.update unit with
      | ok changed =>
          rw [hupdate] at h
          cases h
      | error thrown =>
          rw [hupdate] at h
          cases h
          exact Or.inl rfl
  | jdbc tables =>
      rw [update, Prod.mk.injEq] at h
      obtain ⟨rfl, hthrown⟩ := h
      by_cases hunanswered : CommitUnanswered environment
      · have hwork : ∀ t t', (t = tables ∨ t.organizationGroups =
            KeyedDelta.overwrite OrganizationUnit.id [unit] tables.organizationGroups) →
            updateWork unit t = .ok t' → (t' = tables ∨ t'.organizationGroups =
              KeyedDelta.overwrite OrganizationUnit.id [unit] tables.organizationGroups) ∧
                True := by
          rintro t t' (rfl | ht) hwork
          · exact ⟨Or.inr (updateWork_groups hwork), trivial⟩
          · refine ⟨Or.inr ?_, trivial⟩
            rw [updateWork_groups hwork, ht, KeyedDelta.overwrite_overwrite]
        rcases (attempts_spec hwork (Or.inl rfl)).1 with hsame | hchanged
        · exact Or.inl (congrArg jdbc hsame)
        · exact Or.inr ⟨hunanswered, hchanged⟩
      · exact Or.inl (congrArg jdbc (attempts_of_answered hunanswered hthrown))

end OrganizationHierarchyRepository

end Group

/-! ## The sessions -/

/-- The keys that a revocation may delete. -/
def RefreshSessionStore.Concerns (store : RefreshSessionStore) (redis : Redis)
    (username key : String) : Prop :=
  match store with
  | .stateless => False
  | .redis platform => key = platform.userIndexKey username ∨
      key ∈ decodeIndex ((redis (platform.userIndexKey username)).map StoreEntry.value)

/-- Sessions of the usernames may be gone; nothing else has changed. -/
def RefreshSessionStore.Revoked (store : RefreshSessionStore) (usernames : List String)
    (before after : Redis) : Prop :=
  ∀ key, after key = before key ∨
    (after key = none ∧ ∃ username ∈ usernames, store.Concerns before username key)

section Sessions

variable {store : RefreshSessionStore} {redis before between after : Redis}
variable {usernames usernames' : List String}

theorem RefreshSessionStore.Revoked.refl : store.Revoked usernames redis redis :=
  fun _ => Or.inl rfl

theorem RefreshSessionStore.Concerns.of_revoked {username key : String}
    (h : store.Concerns between username key) (hrevoked : store.Revoked usernames before between) :
    store.Concerns before username key := by
  cases store with
  | stateless => exact h
  | redis platform =>
      rcases h with hindex | hlisted
      · exact Or.inl hindex
      · rcases hrevoked (platform.userIndexKey username) with hsame | ⟨hgone, -⟩
        · rw [hsame] at hlisted
          exact Or.inr hlisted
        · rw [hgone] at hlisted
          exact (List.not_mem_nil hlisted).elim

theorem RefreshSessionStore.Revoked.trans (h : store.Revoked usernames before between)
    (h' : store.Revoked usernames' between after) :
    store.Revoked (usernames ++ usernames') before after := by
  intro key
  rcases h' key with hsame | ⟨hgone, username, hmem, hconcerns⟩
  · rw [hsame]
    rcases h key with hsame | ⟨hgone, username, hmem, hconcerns⟩
    · exact Or.inl hsame
    · exact Or.inr ⟨hgone, username, List.mem_append_left _ hmem, hconcerns⟩
  · exact Or.inr ⟨hgone, username, List.mem_append_right _ hmem, hconcerns.of_revoked h⟩

/-- Only these keys may be gone. -/
def Erased (keys : List String) (before after : Redis) : Prop :=
  ∀ key, after key = before key ∨ (after key = none ∧ key ∈ keys)

theorem Erased.trans {keys keys' : List String} (h : Erased keys before between)
    (h' : Erased keys' between after) : Erased (keys ++ keys') before after := by
  intro key
  rcases h' key with hsame | ⟨hgone, hmem⟩
  · rw [hsame]
    rcases h key with hsame | ⟨hgone, hmem⟩
    · exact Or.inl hsame
    · exact Or.inr ⟨hgone, List.mem_append_left _ hmem⟩
  · exact Or.inr ⟨hgone, List.mem_append_right _ hmem⟩

theorem Erased.mono {keys keys' : List String} (h : Erased keys before after)
    (hkeys : keys ⊆ keys') : Erased keys' before after :=
  fun key => (h key).imp_right fun ⟨hgone, hmem⟩ => ⟨hgone, hkeys hmem⟩

theorem erased_erase (key : String) : Erased [key] redis (redis.erase key) := by
  intro key'
  by_cases hkey : key' = key
  · subst hkey
    exact Or.inr ⟨ExpiringStore.erase_self redis key', List.mem_singleton_self key'⟩
  · exact Or.inl (ExpiringStore.erase_of_ne redis hkey)

variable {circumstances : Circumstances} {accounts : Accounts}

theorem delete_erased (key : String) :
    (RefreshSessionStore.delete circumstances accounts key).1.users = accounts.users ∧
      Erased [key] accounts.refreshSessions
        (RefreshSessionStore.delete circumstances accounts key).1.refreshSessions := by
  rw [RefreshSessionStore.delete]
  cases circumstances.command accounts.sent with
  | answered => exact ⟨rfl, erased_erase key⟩
  | refused thrown => exact ⟨rfl, fun _ => Or.inl rfl⟩
  | unanswered thrown => exact ⟨rfl, erased_erase key⟩

theorem deleteAll_erased (circumstances : Circumstances) (accounts : Accounts)
    (keys : List String) :
    (StoppedPasses.run (RefreshSessionStore.delete circumstances) keys accounts).1.users =
        accounts.users ∧
      Erased keys accounts.refreshSessions
        (StoppedPasses.run (RefreshSessionStore.delete circumstances) keys
          accounts).1.refreshSessions := by
  obtain ⟨done, hpart, ⟨husers, herased⟩, -⟩ := StoppedPasses.run_relates
    (RefreshSessionStore.delete circumstances)
    (R := fun keys s t => t.users = s.users ∧ Erased keys s.refreshSessions t.refreshSessions)
    (fun s => ⟨rfl, fun _ => Or.inl rfl⟩)
    (fun h h' => ⟨h'.1.trans h.1, h.2.trans h'.2⟩)
    (fun s key => Or.inl (delete_erased key)) keys accounts
  exact ⟨husers, herased.mono hpart.subset⟩

theorem mem_decodeIndex_of_get {platform : RefreshSessions.Platform} {username key : String}
    {now : ℤ} (h : key ∈ decodeIndex (redis.get now (platform.userIndexKey username))) :
    key ∈ decodeIndex ((redis (platform.userIndexKey username)).map StoreEntry.value) := by
  rw [Redis.get] at h
  cases hlive : redis.live now (platform.userIndexKey username) with
  | none =>
      rw [hlive] at h
      exact (List.not_mem_nil h).elim
  | some entry =>
      rw [hlive] at h
      rw [(ExpiringStore.live_eq_some_iff.1 hlive).1]
      exact h

theorem revokePrincipalSessions_revoked (store : RefreshSessionStore)
    (circumstances : Circumstances) (accounts : Accounts) (username : String) :
    (store.revokePrincipalSessions circumstances accounts username).1.users = accounts.users ∧
      store.Revoked [username] accounts.refreshSessions
        (store.revokePrincipalSessions circumstances accounts username).1.refreshSessions := by
  cases store with
  | stateless => exact ⟨rfl, .refl⟩
  | redis platform =>
      rw [RefreshSessionStore.revokePrincipalSessions]
      cases hread : (circumstances.command accounts.sent).read (accounts.refreshSessions.get
          (circumstances.clock accounts.sent) (platform.userIndexKey username)) with
      | error thrown => exact ⟨rfl, .refl⟩
      | ok index =>
          obtain ⟨husers, herased⟩ := deleteAll_erased circumstances accounts.send
            (RefreshSessionStore.revokedKeys platform index username)
          refine ⟨husers, fun key => (herased key).imp_right fun ⟨hgone, hmem⟩ => ⟨hgone, ?_⟩⟩
          refine ⟨username, List.mem_singleton_self username, ?_⟩
          rw [RefreshSessionStore.revokedKeys, List.mem_append, mem_foldl_add] at hmem
          rcases hmem with (hnil | hlisted) | hindex
          · exact (List.not_mem_nil hnil).elim
          · rw [Fate.eq_of_read hread] at hlisted
            exact Or.inr (mem_decodeIndex_of_get hlisted)
          · exact Or.inl (List.mem_singleton.1 hindex)

end Sessions

/-! ## The users -/

def AuthUserRepository.invalidated (repository : AuthUserRepository) (user : AuthUser) : AuthUser :=
  repository.row user.nextVersion

@[simp] theorem AuthUserRepository.username_invalidated (repository : AuthUserRepository)
    (user : AuthUser) : (repository.invalidated user).username = user.username := by
  cases repository
  all_goals rfl

/-- These users have the next security version, and their sessions may be gone. -/
structure Invalidated (stores : LifecycleStores) (users : List AuthUser) (before after : Accounts) :
    Prop where
  versions : after.users = before.users.overwrite (users.map stores.userRepository.invalidated)
  sessions : stores.refreshSessionStore.Revoked (users.map AuthUser.username)
    before.refreshSessions after.refreshSessions

section Users

variable {stores : LifecycleStores} {circumstances : Circumstances}
variable {before between after : Accounts} {users users' : List AuthUser}

theorem AuthUsers.overwrite_nil (table : AuthUsers) : table.overwrite [] = table := by
  cases table with
  | mk rows unique =>
      rw [AuthUsers.overwrite]
      congr 1
      exact KeyedDelta.overwrite_nil rows

theorem AuthUsers.overwrite_overwrite (table : AuthUsers) {rows rows' : List AuthUser}
    (hn : ((rows ++ rows').map AuthUser.username).Nodup) :
    (table.overwrite rows).overwrite rows' = table.overwrite (rows ++ rows') := by
  cases table with
  | mk table unique =>
      simp only [AuthUsers.overwrite, AuthUsers.mk.injEq]
      exact KeyedDelta.overwrite_append hn table

theorem Invalidated.refl : Invalidated stores [] before before :=
  ⟨(AuthUsers.overwrite_nil before.users).symm, .refl⟩

theorem map_username_invalidated (users : List AuthUser) :
    (users.map stores.userRepository.invalidated).map AuthUser.username =
      users.map AuthUser.username := by
  rw [List.map_map]
  exact List.map_congr_left fun user _ => stores.userRepository.username_invalidated user

theorem Invalidated.trans (h : Invalidated stores users before between)
    (h' : Invalidated stores users' between after)
    (hn : ((users ++ users').map AuthUser.username).Nodup) :
    Invalidated stores (users ++ users') before after where
  versions := by
    rw [h'.versions, h.versions, AuthUsers.overwrite_overwrite, List.map_append]
    rw [← List.map_append, map_username_invalidated]
    exact hn
  sessions := by
    rw [List.map_append]
    exact h.sessions.trans h'.sessions

/-- The body of the loop. -/
def invalidateUser {υ : Type} (collaborators : Collaborators υ) (others : υ) (user : AuthUser) :
    υ × Except Thrown Unit :=
  match collaborators.update others user.nextVersion with
  | (others, .error thrown) => (others, .error thrown)
  | (others, .ok ()) => collaborators.revokePrincipalSessions others user.username

theorem invalidateUsers_eq_run {υ : Type} (collaborators : Collaborators υ) (users : List AuthUser)
    (others : υ) : GroupLifecycleService.invalidateUsers collaborators users others =
      StoppedPasses.run (invalidateUser collaborators) users others := by
  induction users generalizing others with
  | nil => rfl
  | cons user users ih =>
      rw [GroupLifecycleService.invalidateUsers, StoppedPasses.run, invalidateUser]
      rcases collaborators.update others user.nextVersion with ⟨others, thrown | ⟨⟩⟩
      · rfl
      · dsimp only
        rcases collaborators.revokePrincipalSessions others user.username with ⟨others, thrown | ⟨⟩⟩
        · rfl
        · exact ih others

theorem update_invalidated (repository : AuthUserRepository) (circumstances : Circumstances)
    (before : Accounts) (user : AuthUser) :
    let result := repository.update circumstances before user.nextVersion
    result.1.refreshSessions = before.refreshSessions ∧
      (result.1.users = before.users.overwrite [repository.invalidated user] ∨
        (result.2 ≠ .ok () ∧ result.1.users = before.users)) := by
  intro result
  simp only [result, AuthUserRepository.update]
  cases repository with
  | inMemory =>
      dsimp only
      cases before.users.findByUsername user.nextVersion.username with
      | none => exact ⟨rfl, Or.inr ⟨nofun, rfl⟩⟩
      | some current =>
          dsimp only
          split_ifs
          · exact ⟨rfl, Or.inl rfl⟩
          · exact ⟨rfl, Or.inr ⟨nofun, rfl⟩⟩
  | jdbc platform =>
      dsimp only
      split_ifs
      · cases circumstances.command before.sent with
        | answered => exact ⟨rfl, Or.inl rfl⟩
        | refused thrown => exact ⟨rfl, Or.inr ⟨nofun, rfl⟩⟩
        | unanswered thrown => exact ⟨rfl, Or.inl rfl⟩
      · exact ⟨rfl, Or.inr ⟨nofun, rfl⟩⟩

theorem invalidateUser_spec (user : AuthUser) :
    let result := invalidateUser (collaborators stores circumstances) before user
    Invalidated stores [user] before result.1 ∨
      (result.2 ≠ .ok () ∧ Invalidated stores [] before result.1) := by
  have hupdate := update_invalidated stores.userRepository circumstances before user
  intro result
  simp only [result, invalidateUser, collaborators]
  rcases hresult : stores.userRepository.update circumstances before user.nextVersion with
    ⟨updated, thrown | ⟨⟩⟩
  · rw [hresult] at hupdate
    dsimp only at hupdate ⊢
    obtain ⟨hsessions, husers | ⟨-, husers⟩⟩ := hupdate
    · exact Or.inl ⟨husers, hsessions ▸ .refl⟩
    · refine Or.inr ⟨nofun, ?_, hsessions ▸ .refl⟩
      rw [husers, List.map_nil, AuthUsers.overwrite_nil]
  · rw [hresult] at hupdate
    dsimp only at hupdate ⊢
    obtain ⟨hsessions, husers⟩ := hupdate
    obtain ⟨hsame, hrevoked⟩ := revokePrincipalSessions_revoked stores.refreshSessionStore
      circumstances updated user.username
    refine Or.inl ⟨?_, ?_⟩
    · rw [hsame, husers.resolve_right fun h => h.1 rfl]
      rfl
    · rw [hsessions] at hrevoked
      exact hrevoked

theorem invalidateUsers_spec (stores : LifecycleStores) (circumstances : Circumstances)
    (before : Accounts) (hn : (users.map AuthUser.username).Nodup) :
    let result := GroupLifecycleService.invalidateUsers (collaborators stores circumstances) users
      before
    ∃ done, done <+: users ∧ Invalidated stores done before result.1 ∧
      (result.2 = .ok () → done = users) := by
  intro result
  simp only [result, invalidateUsers_eq_run]
  obtain ⟨done, hpart, hdone, hall⟩ := StoppedPasses.run_relates
    (invalidateUser (collaborators stores circumstances))
    (R := fun users s t => (users.map AuthUser.username).Nodup → Invalidated stores users s t)
    (fun s _ => .refl)
    (fun h h' hn => by
      have hsplit := hn
      rw [List.map_append, List.nodup_append] at hsplit
      exact (h hsplit.1).trans (h' hsplit.2.1) hn)
    (fun s user => (invalidateUser_spec user).imp (fun h _ => h) fun h => ⟨h.1, fun _ => h.2⟩)
    users before
  exact ⟨done, hpart, hdone (hn.sublist (hpart.sublist.map AuthUser.username)), hall⟩

end Users

/-! ## The call -/

namespace LifecycleStores

/-- The group that the call is to write and the users that it is to invalidate first, once the
checks have passed and the users have been read. -/
def plan (stores : LifecycleStores) (circumstances : Circumstances)
    (principal : AuthenticatedPrincipal) (change : GroupChange) :
    Except Thrown (OrganizationUnit × List AuthUser) := do
  let (updated, invalidates) ← change.checks stores circumstances principal
  if invalidates then
    let users ← stores.userRepository.list circumstances stores.accounts
    return (updated, users.filter (GroupLifecycleService.inSubtree
      (stores.groups.current circumstances.current) change.groupId))
  else return (updated, [])

variable {stores : LifecycleStores} {circumstances : Circumstances}
variable {principal : AuthenticatedPrincipal} {change : GroupChange}

theorem change_eq : stores.change circumstances principal change =
    match stores.plan circumstances principal change with
    | .error thrown => (stores, .error thrown)
    | .ok (updated, users) =>
      match GroupLifecycleService.invalidateUsers (collaborators stores circumstances) users
          stores.accounts with
      | (accounts, .error thrown) => ({ stores with accounts }, .error thrown)
      | (accounts, .ok ()) =>
        match stores.groups.update circumstances.attempts updated with
        | (groups, .error thrown) => ({ stores with groups, accounts }, .error thrown)
        | (groups, .ok ()) => ({ stores with groups, accounts }, .ok updated) := by
  rw [LifecycleStores.change, plan]
  rcases change.checks stores circumstances principal with thrown | ⟨updated, invalidates⟩
  · rfl
  · cases invalidates with
    | false => rfl
    | true =>
        change stores.write circumstances change.groupId updated true = _
        rw [write, if_pos rfl, invalidateSubtreeUsers]
        cases stores.userRepository.list circumstances stores.accounts with
        | error thrown => rfl
        | ok users => rfl

theorem plan_users_nodup {updated : OrganizationUnit} {users : List AuthUser}
    (h : stores.plan circumstances principal change = .ok (updated, users)) :
    (users.map AuthUser.username).Nodup := by
  obtain ⟨⟨unit, invalidates⟩, -, h⟩ := CheckedSteps.bind_eq_ok_iff.1 h
  cases invalidates with
  | false =>
      cases h
      exact List.nodup_nil
  | true =>
      obtain ⟨listed, hlist, h⟩ := CheckedSteps.bind_eq_ok_iff.1 h
      cases h
      rw [AuthUserRepository.eq_rows_of_list hlist]
      exact stores.accounts.users.unique.sublist (List.filter_sublist.map AuthUser.username)

end LifecycleStores

/-- What a call that throws leaves: everything as it was, if it did not come to the loop; else the
users of a first part of the loop are invalidated and the group is as it was, unless all are and a
commit of the group went unanswered. -/
theorem group_change_interrupted {stores after : LifecycleStores} {circumstances : Circumstances}
    {principal : AuthenticatedPrincipal} {change : GroupChange} {thrown : Thrown}
    (h : stores.change circumstances principal change = (after, .error thrown)) :
    (∀ thrown', stores.plan circumstances principal change = .error thrown' → after = stores) ∧
      ∀ updated users, stores.plan circumstances principal change = .ok (updated, users) →
        ∃ done, done <+: users ∧ Invalidated stores done stores.accounts after.accounts ∧
          (after.groups = stores.groups ∨
            (stores.groups.Unconfirmed circumstances.attempts ∧ done = users ∧
              after.groups.units =
                KeyedDelta.overwrite OrganizationUnit.id [updated] stores.groups.units)) := by
  rw [LifecycleStores.change_eq] at h
  constructor
  · intro thrown' hplan
    rw [hplan] at h
    exact (congrArg Prod.fst h).symm
  · intro updated users hplan
    rw [hplan] at h
    dsimp only at h
    obtain ⟨done, hpart, hdone, hall⟩ := invalidateUsers_spec stores circumstances
      stores.accounts (LifecycleStores.plan_users_nodup hplan)
    refine ⟨done, hpart, ?_⟩
    rcases hresult : GroupLifecycleService.invalidateUsers (collaborators stores circumstances)
        users stores.accounts with ⟨accounts, thrown' | ⟨⟩⟩
    · rw [hresult] at h hdone
      cases h
      exact ⟨hdone, Or.inl rfl⟩
    · rw [hresult] at h hdone hall
      dsimp only at h
      rcases hupdate : stores.groups.update circumstances.attempts updated with
        ⟨groups, thrown' | ⟨⟩⟩
      · rw [hupdate] at h
        cases h
        refine ⟨hdone, (OrganizationHierarchyRepository.update_of_thrown hupdate).imp_right ?_⟩
        exact fun ⟨hunconfirmed, hunits⟩ => ⟨hunconfirmed, hall rfl, hunits⟩
      · rw [hupdate] at h
        cases h

/-! ## A call that is interrupted -/

def companyUser : AuthUser :=
  ⟨2, "viewer", "viewer@example.test", "hash", 1, .viewer, company.id, true, 1, rfl, rfl, rfl,
    Nat.one_pos⟩

/-- The sessions are in Redis; the digest of a string is empty. -/
def interruptedStores : LifecycleStores where
  groups := .inMemory sampleStores.groups
  userRepository := .inMemory
  refreshSessionStore := .redis ⟨fun _ => [], fun text => text⟩
  accounts := ⟨⟨[companyUser], List.nodup_singleton _⟩, ExpiringStore.empty, 0⟩

/-- Redis refuses the first command that it is sent. -/
def withoutRedis : Circumstances where
  listAll _ := .answered
  current := .answered
  list := .answered
  hasActiveInGroup := .ok false
  command _ := .refused (.runtime "Unable to connect to Redis")
  clock _ := 0
  attempts _ := ⟨.completes, false⟩

theorem group_change_interrupted_sample :
    let after := (interruptedStores.change withoutRedis systemAdministrator
      (.deactivate company.id)).1
    (∃ done, done <+: [companyUser] ∧
      Invalidated interruptedStores done interruptedStores.accounts after.accounts) ∧
        after.groups = interruptedStores.groups := by
  have hthrown : (interruptedStores.change withoutRedis systemAdministrator
      (.deactivate company.id)).2 = .error (.runtime "Unable to connect to Redis") := by decide
  have hplan : interruptedStores.plan withoutRedis systemAdministrator (.deactivate company.id) =
      .ok ({ company with status := .inactive }, [companyUser]) := by decide
  obtain ⟨done, hpart, hdone, hgroups⟩ :=
    (group_change_interrupted (Prod.ext rfl hthrown)).2 _ _ hplan
  exact ⟨⟨done, hpart, hdone⟩, hgroups.resolve_right fun h => h.1⟩

theorem group_change_not_atomic :
    ¬ ∀ (stores after : LifecycleStores) (circumstances : Circumstances)
      (principal : AuthenticatedPrincipal) (change : GroupChange) (thrown : Thrown),
      stores.change circumstances principal change = (after, .error thrown) →
        after.groups = stores.groups ∧
          after.accounts.users.rows.map AuthUser.securityVersion =
            stores.accounts.users.rows.map AuthUser.securityVersion ∧
          after.accounts.refreshSessions = stores.accounts.refreshSessions := by
  intro h
  have hthrown : (interruptedStores.change withoutRedis systemAdministrator
      (.deactivate company.id)).2 = .error (.runtime "Unable to connect to Redis") := by decide
  obtain ⟨-, hversions, -⟩ := h interruptedStores _ withoutRedis systemAdministrator
    (.deactivate company.id) _ (Prod.ext rfl hthrown)
  exact absurd hversions (by decide)

end GcsSaker.Groups
