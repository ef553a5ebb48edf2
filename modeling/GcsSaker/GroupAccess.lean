import GcsSaker.GroupVisibility
import GcsSaker.LifecycleInvariants

/-!
# Who may see, hear and manage a group

Two services of the policy answer for a principal and a group: `GroupPolicyService` decides on
streams and talkback, `GroupAccessService` lists capabilities. Each decision reads the active
hierarchy.
-/

namespace GcsSaker.Groups
open ParentMap InMemoryOrganizationHierarchyRepository

inductive Permission where
  | viewStream
  | publishStream
  | controlAsset
  | sendTalkback
  | manageGroupMembers
  | manageGroupDevices
  | managePolicy
deriving DecidableEq

inductive StreamRouteScope where
  | sameGroup
  | descendantGroups
  | crossGroup
deriving DecidableEq

structure StreamRoutePolicy where
  viewerGroupId : GroupId
  publisherGroupId : GroupId
  scope : StreamRouteScope
  expiresAt : Option ℤ

def StreamRoutePolicy.isActive (policy : StreamRoutePolicy) (now : ℤ) : Bool :=
  match policy.expiresAt with
  | none => true
  | some expiresAt => decide (now < expiresAt)

def activeFor (policies : List StreamRoutePolicy) (viewerGroupId : GroupId) (now : ℤ) :
    List StreamRoutePolicy :=
  (policies.filter fun policy => policy.viewerGroupId = viewerGroupId).filter
    fun policy => policy.isActive now

structure StreamAccessDecision where
  allowed : Bool
  reason : String
deriving DecidableEq

def allow (reason : String) : StreamAccessDecision := ⟨true, reason⟩

def deny (reason : String) : StreamAccessDecision := ⟨false, reason⟩

/-! ## The decisions -/

namespace GroupPolicyService

def activeScopeDenial (hierarchy : OrganizationHierarchy) (principal : AuthenticatedPrincipal)
    (targetGroupId : GroupId) : Option StreamAccessDecision :=
  if ¬contains hierarchy.units principal.groupId then
    some (deny "principal group is inactive or unknown")
  else if ¬contains hierarchy.units targetGroupId then
    some (deny "target group is inactive or unknown")
  else none

def routeDecision (hierarchy : OrganizationHierarchy) (publisherGroupId : GroupId)
    (policy : StreamRoutePolicy) : Option StreamAccessDecision :=
  match policy.scope with
  | .sameGroup =>
    if policy.publisherGroupId = publisherGroupId then
      some (allow "explicit same-group route policy") else none
  | .descendantGroups =>
    if policy.publisherGroupId = publisherGroupId ∨
        hierarchy.isAncestor policy.publisherGroupId publisherGroupId then
      some (allow "explicit descendant route policy") else none
  | .crossGroup =>
    if policy.publisherGroupId = publisherGroupId then
      some (allow "active cross-group route policy") else none

def routePolicyDecision (hierarchy : OrganizationHierarchy) (policies : List StreamRoutePolicy)
    (principal : AuthenticatedPrincipal) (publisherGroupId : GroupId) (now : ℤ) :
    Option StreamAccessDecision :=
  (activeFor policies principal.groupId now).findSome? (routeDecision hierarchy publisherGroupId)

def isDiscovery (path : String) : Bool :=
  path == "control/stream-list" || path == "control/ice-servers"

def canViewStream (hierarchy : OrganizationHierarchy) (policies : List StreamRoutePolicy)
    (now : ℤ) (principal : AuthenticatedPrincipal) (path : String) (publisherGroupId : GroupId) :
    StreamAccessDecision :=
  match activeScopeDenial hierarchy principal publisherGroupId with
  | some denial => denial
  | none =>
    if principal.role = .admin then deny "system administrator has no media access"
    else if isDiscovery path then
      allow "authenticated discovery; each stream is scoped separately"
    else if principal.groupId = publisherGroupId then allow "same group stream"
    else match routePolicyDecision hierarchy policies principal publisherGroupId now with
      | some decision => decision
      | none =>
        if principal.role = .groupAdmin ∧ hierarchy.isAncestor principal.groupId publisherGroupId then
          allow "group admin can view descendant group stream"
        else deny "stream is outside principal group scope"

def canSendTalkback (hierarchy : OrganizationHierarchy) (principal : AuthenticatedPrincipal)
    (targetGroupId : GroupId) : StreamAccessDecision :=
  match activeScopeDenial hierarchy principal targetGroupId with
  | some denial => denial
  | none =>
    if principal.role = .admin then deny "system administrator has no media access"
    else if principal.groupId = targetGroupId ∧
        (principal.role = .operator ∨ principal.role = .groupAdmin) then allow "same group talkback"
    else deny "talkback target is outside principal operational scope"

def permissionsFor : UserRole → List Permission
  | .viewer => [.viewStream]
  | .operator => [.viewStream, .publishStream, .controlAsset, .sendTalkback]
  | .groupAdmin => [.viewStream, .publishStream, .controlAsset, .sendTalkback, .manageGroupMembers,
      .manageGroupDevices]
  | .admin => [.manageGroupMembers, .manageGroupDevices, .managePolicy]

end GroupPolicyService

structure GroupAccess where
  canView : Bool
  canControl : Bool
  canManage : Bool
  canSendTalkback : Bool
  canPublish : Bool
  canManageMembers : Bool
  canManageDevices : Bool
deriving DecidableEq

namespace GroupAccessService

def deniedGroupAccess : GroupAccess := ⟨false, false, false, false, false, false, false⟩

def systemAdministratorGroupAccess : GroupAccess := ⟨true, false, true, false, false, true, true⟩

def descendantGroupAdminAccess : GroupAccess := ⟨true, false, false, false, false, false, false⟩

def ownGroupAccess (principal : AuthenticatedPrincipal) : GroupAccess :=
  if principal.role = .admin then systemAdministratorGroupAccess
  else
    let canOperate : Bool := principal.role = .operator ∨ principal.role = .groupAdmin
    let canManage : Bool := principal.role = .groupAdmin
    ⟨true, canOperate, canManage, canOperate, canOperate, canManage, canManage⟩

def accessFor (hierarchy : OrganizationHierarchy) (principal : AuthenticatedPrincipal)
    (groupId : GroupId) : GroupAccess :=
  if ¬contains hierarchy.units groupId then deniedGroupAccess
  else if principal.role = .admin then systemAdministratorGroupAccess
  else if principal.groupId = groupId then ownGroupAccess principal
  else if principal.role = .groupAdmin ∧ hierarchy.isAncestor principal.groupId groupId then
    descendantGroupAdminAccess
  else deniedGroupAccess

end GroupAccessService

/-! ## How they agree -/

section Agreement

open GroupPolicyService GroupAccessService

variable {hierarchy : OrganizationHierarchy} {policies : List StreamRoutePolicy} {now : ℤ}
  {principal : AuthenticatedPrincipal} {path : String} {groupId : GroupId}

/-- A route policy reaches its publishing group and, where it says so, the groups below it. -/
def Covers (hierarchy : OrganizationHierarchy) (policy : StreamRoutePolicy) (groupId : GroupId) :
    Prop :=
  policy.publisherGroupId = groupId ∨
    (policy.scope = .descendantGroups ∧ hierarchy.isAncestor policy.publisherGroupId groupId = true)

theorem routeDecision_isSome_iff {policy : StreamRoutePolicy} :
    (routeDecision hierarchy groupId policy).isSome ↔ Covers hierarchy policy groupId := by
  unfold routeDecision Covers
  cases hscope : policy.scope with
  | sameGroup => simp [Option.isSome_ite]
  | descendantGroups => simp [Option.isSome_ite]
  | crossGroup => simp [Option.isSome_ite]

theorem routeDecision_allowed {policy : StreamRoutePolicy} {decision : StreamAccessDecision}
    (h : routeDecision hierarchy groupId policy = some decision) : decision.allowed = true := by
  unfold routeDecision at h
  split at h
  all_goals
    rw [Option.ite_none_right_eq_some, Option.some.injEq] at h
    rw [← h.2]
    rfl

theorem routePolicyDecision_isSome_iff :
    (routePolicyDecision hierarchy policies principal groupId now).isSome ↔
      ∃ policy ∈ activeFor policies principal.groupId now, Covers hierarchy policy groupId := by
  rw [routePolicyDecision, List.findSome?_isSome_iff]
  simp only [routeDecision_isSome_iff]

theorem activeScopeDenial_eq_none_iff : activeScopeDenial hierarchy principal groupId = none ↔
    contains hierarchy.units principal.groupId ∧ contains hierarchy.units groupId := by
  rw [activeScopeDenial]
  by_cases hown : contains hierarchy.units principal.groupId
  · by_cases htarget : contains hierarchy.units groupId
    · simp [hown, htarget]
    · simp [hown, htarget]
  · simp [hown]

theorem activeScopeDenial_allowed {denial : StreamAccessDecision}
    (h : activeScopeDenial hierarchy principal groupId = some denial) : denial.allowed = false := by
  rw [activeScopeDenial] at h
  split_ifs at h
  · rw [← Option.some.inj h]
    rfl
  · rw [← Option.some.inj h]
    rfl

theorem canView_iff : (accessFor hierarchy principal groupId).canView = true ↔
    contains hierarchy.units groupId ∧ (principal.role = .admin ∨ principal.groupId = groupId ∨
      (principal.role = .groupAdmin ∧ hierarchy.isAncestor principal.groupId groupId = true)) := by
  rw [accessFor]
  by_cases hknown : contains hierarchy.units groupId
  · rw [if_neg (not_not.2 hknown)]
    by_cases hadmin : principal.role = .admin
    · rw [if_pos hadmin]
      exact iff_of_true rfl ⟨hknown, .inl hadmin⟩
    rw [if_neg hadmin]
    by_cases hown : principal.groupId = groupId
    · rw [if_pos hown, ownGroupAccess, if_neg hadmin]
      exact iff_of_true rfl ⟨hknown, .inr (.inl hown)⟩
    rw [if_neg hown]
    by_cases hbelow : principal.role = .groupAdmin ∧
        hierarchy.isAncestor principal.groupId groupId = true
    · rw [if_pos hbelow]
      exact iff_of_true rfl ⟨hknown, .inr (.inr hbelow)⟩
    · rw [if_neg hbelow]
      refine iff_of_false Bool.false_ne_true ?_
      rintro ⟨-, h | h | h⟩
      · exact hadmin h
      · exact hown h
      · exact hbelow h
  · rw [if_pos hknown]
    exact iff_of_false Bool.false_ne_true fun h => hknown h.1

theorem canViewStream_allowed_iff :
    (canViewStream hierarchy policies now principal path groupId).allowed = true ↔
      contains hierarchy.units principal.groupId ∧ principal.role ≠ .admin ∧
        ((accessFor hierarchy principal groupId).canView = true ∨
          (contains hierarchy.units groupId ∧ (isDiscovery path = true ∨
            ∃ policy ∈ activeFor policies principal.groupId now, Covers hierarchy policy groupId))) := by
  rw [canViewStream, canView_iff, ← routePolicyDecision_isSome_iff]
  cases hscope : activeScopeDenial hierarchy principal groupId with
  | some denial =>
      refine iff_of_false (by rw [activeScopeDenial_allowed hscope]; exact Bool.false_ne_true) ?_
      rintro ⟨hown, -, h⟩
      have hknown : contains hierarchy.units groupId := h.elim And.left And.left
      rw [activeScopeDenial_eq_none_iff.2 ⟨hown, hknown⟩] at hscope
      cases hscope
  | none =>
      obtain ⟨hown, hknown⟩ := activeScopeDenial_eq_none_iff.1 hscope
      dsimp only
      by_cases hadmin : principal.role = .admin
      · rw [if_pos hadmin]
        exact iff_of_false Bool.false_ne_true fun h => h.2.1 hadmin
      rw [if_neg hadmin]
      by_cases hdiscovery : isDiscovery path = true
      · rw [if_pos hdiscovery]
        exact iff_of_true rfl ⟨hown, hadmin, .inr ⟨hknown, .inl hdiscovery⟩⟩
      rw [if_neg hdiscovery]
      by_cases hsame : principal.groupId = groupId
      · rw [if_pos hsame]
        exact iff_of_true rfl ⟨hown, hadmin, .inl ⟨hknown, .inr (.inl hsame)⟩⟩
      rw [if_neg hsame]
      cases hroute : routePolicyDecision hierarchy policies principal groupId now with
      | some decision =>
          obtain ⟨policy, -, hdecision⟩ := List.exists_of_findSome?_eq_some hroute
          exact iff_of_true (routeDecision_allowed hdecision)
            ⟨hown, hadmin, .inr ⟨hknown, .inr rfl⟩⟩
      | none =>
          dsimp only
          by_cases hbelow : principal.role = .groupAdmin ∧
              hierarchy.isAncestor principal.groupId groupId = true
          · rw [if_pos hbelow]
            exact iff_of_true rfl ⟨hown, hadmin, .inl ⟨hknown, .inr (.inr hbelow)⟩⟩
          · rw [if_neg hbelow]
            refine iff_of_false Bool.false_ne_true ?_
            rintro ⟨-, -, ⟨-, h | h | h⟩ | ⟨-, h | h⟩⟩
            · exact hadmin h
            · exact hsame h
            · exact hbelow h
            · exact hdiscovery h
            · cases h

theorem canSendTalkback_allowed_iff :
    (canSendTalkback hierarchy principal groupId).allowed = true ↔
      contains hierarchy.units groupId ∧ principal.groupId = groupId ∧
        (principal.role = .operator ∨ principal.role = .groupAdmin) := by
  rw [canSendTalkback]
  cases hscope : activeScopeDenial hierarchy principal groupId with
  | some denial =>
      refine iff_of_false (by rw [activeScopeDenial_allowed hscope]; exact Bool.false_ne_true) ?_
      rintro ⟨hknown, rfl, -⟩
      rw [activeScopeDenial_eq_none_iff.2 ⟨hknown, hknown⟩] at hscope
      cases hscope
  | none =>
      obtain ⟨-, hknown⟩ := activeScopeDenial_eq_none_iff.1 hscope
      dsimp only
      split_ifs with hadmin hsame
      · refine iff_of_false Bool.false_ne_true ?_
        rintro ⟨-, -, h | h⟩
        · rw [hadmin] at h
          cases h
        · rw [hadmin] at h
          cases h
      · exact iff_of_true rfl ⟨hknown, hsame⟩
      · exact iff_of_false Bool.false_ne_true fun h => hsame h.2

end Agreement

/-! ## After a group is deactivated -/

section Deactivated

open GroupPolicyService GroupAccessService

variable {υ : Type} {collaborators : Collaborators υ} {stores : Stores υ}
  {groups : InMemoryOrganizationHierarchyRepository} {groupId : GroupId}

/-- The active groups are a hierarchy, and the group is among the others. -/
structure Deactivated (groupId : GroupId) (groups : InMemoryOrganizationHierarchyRepository) :
    Prop where
  valid : ValidHierarchy (activeUnits groups.units)
  inactive : ∃ unit, unitOf groups.units groupId = some unit ∧ unit.status = .inactive

theorem deactivated_change {call : LifecycleCall} {unit : OrganizationUnit}
    (h : Deactivated groupId groups) (hcall : call ≠ .activate groupId)
    (hchange : Change groups call unit) : Deactivated groupId (groups.put unit) := by
  refine ⟨hchange.validHierarchy h.valid, ?_⟩
  obtain ⟨old, hold, hstatus⟩ := h.inactive
  obtain ⟨hmem, hid⟩ := KeyedDelta.find_some hold
  rw [unitOf_put]
  by_cases hsame : groupId = unit.id
  · rw [if_pos hsame]
    refine ⟨unit, rfl, ?_⟩
    cases hchange with
    | created hnew =>
        exact absurd (hsame ▸ hid ▸ List.mem_map_of_mem hmem) hnew
    | updated hcurrent hunit hkept =>
        have heq := hcurrent.symm.trans ((hunit ▸ hsame) ▸ hold)
        rw [hkept, Option.some.inj heq, hstatus]
    | @activated other current hcurrent =>
        have hother := (KeyedDelta.find_some hcurrent).2
        exact absurd (congrArg LifecycleCall.activate (hother.symm.trans hsame.symm)) hcall
    | deactivated => rfl
  · rw [if_neg hsame]
    exact ⟨old, hold, hstatus⟩

theorem deactivated_step (h : Deactivated groupId stores.groups)
    {call : AuthenticatedPrincipal × LifecycleCall} (hcall : call.2 ≠ .activate groupId) :
    Deactivated groupId (lifecycleStep collaborators stores call).1.groups := by
  rcases @lifecycleStep_spec _ collaborators stores call with
    ⟨_, -, hgroups⟩ | ⟨unit, -, -, hchange, hgroups⟩
  · rwa [hgroups]
  · rw [hgroups]
    exact deactivated_change h hcall hchange

/-- No group whose line of parents meets a deactivated group is active. -/
theorem not_contains_of_climb (h : Deactivated groupId groups) {id : GroupId} {n : ℕ}
    (hup : climb (parentOf groups.units) n id = some groupId) :
    ¬contains (activeUnits groups.units) id := by
  intro hid
  rw [climb_activeUnits groups.unique h.valid.toForest hid] at hup
  have hactive := contains_of_climb h.valid.parents hid hup
  obtain ⟨unit, hunit, hsame⟩ := List.mem_map.1 hactive
  obtain ⟨hmem, hstatus⟩ := mem_activeUnits.1 hunit
  obtain ⟨old, hold, hinactive⟩ := h.inactive
  have heq : unitOf groups.units groupId = some unit :=
    (KeyedDelta.find_eq_some_iff groups.unique).2 ⟨hmem, hsame⟩
  rw [Option.some.inj (heq.symm.trans hold), hinactive] at hstatus
  cases hstatus

theorem deactivated_of_ok {principal : AuthenticatedPrincipal} {unit : OrganizationUnit}
    (hvalid : ValidHierarchy (activeUnits stores.groups.units))
    (hok : (lifecycleStep collaborators stores (principal, .deactivate groupId)).2 = .ok unit) :
    Deactivated groupId
      (lifecycleStep collaborators stores (principal, .deactivate groupId)).1.groups := by
  rcases @lifecycleStep_spec _ collaborators stores
    (principal, .deactivate groupId) with ⟨_, hthrown, -⟩ | ⟨written, -, -, hchange, hgroups⟩
  · rw [hok] at hthrown
    cases hthrown
  · rw [hgroups]
    refine ⟨hchange.validHierarchy hvalid, ?_⟩
    cases hchange with
    | @deactivated _ current hcurrent =>
        refine ⟨{ current with status := .inactive }, ?_, rfl⟩
        rw [unitOf_put, if_pos (KeyedDelta.find_some hcurrent).2.symm]

theorem denied_of_not_contains {hierarchy : OrganizationHierarchy} {id : GroupId}
    (hid : ¬contains hierarchy.units id) (policies : List StreamRoutePolicy) (now : ℤ)
    (principal : AuthenticatedPrincipal) (path : String) (target : GroupId)
    (hconcerned : principal.groupId = id ∨ target = id) :
    (canViewStream hierarchy policies now principal path target).allowed = false ∧
      (canSendTalkback hierarchy principal target).allowed = false := by
  refine ⟨?_, ?_⟩
  · rw [← Bool.not_eq_true, canViewStream_allowed_iff, canView_iff]
    rintro ⟨hown, -, h⟩
    rcases hconcerned with rfl | rfl
    · exact hid hown
    · exact hid (h.elim And.left And.left)
  · rw [← Bool.not_eq_true, canSendTalkback_allowed_iff]
    rintro ⟨hknown, hown, -⟩
    rcases hconcerned with rfl | rfl
    · exact hid (hown ▸ hknown)
    · exact hid hknown

/-- Once a group has been deactivated, and for as long as nobody activates it, whatever else is
created, changed, activated or deactivated: nobody sees a stream of the group or of one below it or
speaks to it, nobody of such a group sees or speaks to anything, and nobody has any capability for
such a group, the system administrator included. -/
theorem deactivated_denied_run (collaborators : Collaborators υ) (stores : Stores υ)
    (hvalid : ValidHierarchy (activeUnits stores.groups.units))
    (before after : List (AuthenticatedPrincipal × LifecycleCall))
    (administrator : AuthenticatedPrincipal) (groupId : GroupId) (unit : OrganizationUnit)
    (hok : (lifecycleStep collaborators
      (Machines.final (lifecycleStep collaborators) stores before)
      (administrator, .deactivate groupId)).2 = .ok unit)
    (hafter : ∀ call ∈ after, call.2 ≠ .activate groupId) :
    let reached := Machines.final (lifecycleStep collaborators) stores
      (before ++ (administrator, .deactivate groupId) :: after)
    ∃ hierarchy, reached.groups.current = .ok hierarchy ∧
      ∀ id n, climb (parentOf reached.groups.units) n id = some groupId →
        (∀ principal, accessFor hierarchy principal id = deniedGroupAccess) ∧
        ∀ policies now principal path target, principal.groupId = id ∨ target = id →
          (canViewStream hierarchy policies now principal path target).allowed = false ∧
            (canSendTalkback hierarchy principal target).allowed = false := by
  intro reached
  have hstart : ValidHierarchy (activeUnits
      (Machines.final (lifecycleStep collaborators) stores before).groups.units) :=
    Machines.final_invariant (C := fun _ _ => True)
      (fun s call hs _ => lifecycleStep_validHierarchy collaborators s call hs) hvalid
      (Machines.along_of_forall (fun _ _ _ => trivial) stores)
  have hreached : Deactivated groupId reached.groups := by
    simp only [reached, Machines.final_append, Machines.final]
    exact Machines.final_invariant (C := fun _ call => call.2 ≠ .activate groupId)
      (fun s _ hs hcall => @deactivated_step _ collaborators s groupId hs _ hcall)
      (deactivated_of_ok hstart hok)
      (Machines.along_of_forall (fun _ call hcall => hafter call hcall) _)
  obtain ⟨hierarchy, hcurrent⟩ := OrganizationHierarchy.exists_of_eq_ok_iff.2 hreached.valid
  refine ⟨hierarchy, hcurrent, fun id n hup => ?_⟩
  have hid : ¬contains hierarchy.units id := by
    rw [OrganizationHierarchy.of_eq_ok_iff.1 hcurrent]
    exact not_contains_of_climb hreached hup
  exact ⟨fun principal => if_pos hid, denied_of_not_contains hid⟩

/-- The company is deactivated and the battalion renamed. -/
theorem deactivated_denied_run_sample : ∃ hierarchy,
    (Machines.final (lifecycleStep quiet) sampleStores
      [(systemAdministrator, .deactivate company.id),
        (systemAdministrator, .update battalion.id ⟨some "First", none, false⟩)]).groups.current =
          .ok hierarchy ∧
      accessFor hierarchy systemAdministrator company.id = deniedGroupAccess := by
  obtain ⟨hierarchy, hcurrent, hdenied⟩ := deactivated_denied_run quiet sampleStores
    sampleStores_valid [] [(systemAdministrator, .update battalion.id ⟨some "First", none, false⟩)]
    systemAdministrator company.id { company with status := .inactive } (by decide) fun call hcall => by
      rw [List.mem_singleton.1 hcall]
      exact LifecycleCall.noConfusion
  exact ⟨hierarchy, hcurrent, (hdenied company.id 0 rfl).1 systemAdministrator⟩

end Deactivated

end GcsSaker.Groups
