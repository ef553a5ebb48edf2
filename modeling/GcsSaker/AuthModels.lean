import GcsSaker.GroupHierarchy

/-!
# Users and their administration

Principals, users and the two guards of `GroupAdministrationPolicy`.
-/

namespace GcsSaker.Groups

inductive UserRole where
  | viewer
  | operator
  | groupAdmin
  | admin
  deriving DecidableEq

def UserRole.canBeIssuedByGroupAdmin (role : UserRole) : Bool :=
  role = .viewer ∨ role = .operator

structure AuthenticatedPrincipal where
  username : String
  role : UserRole
  groupId : GroupId
  securityVersion : ℕ
  usernameNotBlank : JvmText.isBlank username = false
  securityVersionPositive : 0 < securityVersion

@[ext] structure AuthUser where
  id : ℕ
  username : String
  email : String
  passwordHash : String
  companyId : ℕ
  role : UserRole
  groupId : GroupId
  active : Bool
  securityVersion : ℕ
  usernameNotBlank : JvmText.isBlank username = false
  emailNotBlank : JvmText.isBlank email = false
  passwordHashNotBlank : JvmText.isBlank passwordHash = false
  securityVersionPositive : 0 < securityVersion

instance : DecidableEq AuthUser := fun user user' =>
  decidable_of_iff (user.id = user'.id ∧ user.username = user'.username ∧
    user.email = user'.email ∧ user.passwordHash = user'.passwordHash ∧
    user.companyId = user'.companyId ∧ user.role = user'.role ∧ user.groupId = user'.groupId ∧
    user.active = user'.active ∧ user.securityVersion = user'.securityVersion)
    AuthUser.ext_iff.symm

/-- The user with the next security version, which the sessions issued before do not have. -/
def AuthUser.nextVersion (user : AuthUser) : AuthUser :=
  { user with
    securityVersion := user.securityVersion + 1
    securityVersionPositive := Nat.succ_pos user.securityVersion }

def canManageGroup (principal : AuthenticatedPrincipal) (targetGroupId : GroupId) : Bool :=
  principal.role = .admin ∨ (principal.role = .groupAdmin ∧ principal.groupId = targetGroupId)

def requireGroupManagement (principal : AuthenticatedPrincipal) (targetGroupId : GroupId) :
    Except Thrown Unit :=
  if canManageGroup principal targetGroupId then .ok ()
  else .error (.permissionDenied "group_management_scope_required"
    "group management scope required")

def requireSystemAdministrator (principal : AuthenticatedPrincipal) : Except Thrown Unit :=
  if principal.role = .admin then .ok ()
  else .error (.permissionDenied "system_administrator_required" "system administrator required")

@[simp] theorem requireSystemAdministrator_eq_ok_iff {principal : AuthenticatedPrincipal} :
    requireSystemAdministrator principal = .ok () ↔ principal.role = .admin := by
  by_cases h : principal.role = .admin
  · exact iff_of_true (if_pos h) h
  · rw [requireSystemAdministrator, if_neg h]
    exact iff_of_false (by simp only [reduceCtorEq, not_false_eq_true]) h

end GcsSaker.Groups
