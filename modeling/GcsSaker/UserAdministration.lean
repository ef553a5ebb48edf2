import GcsSaker.GroupLifecycle
import GcsSaker.PasswordHasher

/-!
# Concurrent changes of users

Instances of `GroupMemberAdministrationService` and `GroupLifecycleService` work on one `auth_users`
table through `JdbcAuthUserRepository`. A call reads whole users, and writes them back later: in a
statement of its own, or in the transaction of `replaceGroupAdmin`, whose rows stay locked and
unseen until it commits. A call may throw anywhere, which rolls its transaction back.
-/

namespace GcsSaker.Groups

structure GroupMemberUpdate where
  role : Option UserRole
  active : Option Bool
  password : Option String

abbrev PasswordHash := {hash : String // JvmText.isBlank hash = false}

/-! ## Changes of a user -/

/-- What a `copy` of a user sets, besides the security version. -/
structure UserChange where
  role : Option UserRole
  groupId : Option GroupId
  active : Option Bool
  passwordHash : Option PasswordHash

namespace AuthUser

def hash (user : AuthUser) : PasswordHash := ⟨user.passwordHash, user.passwordHashNotBlank⟩

/-- The columns of the change, and the next security version. -/
def copy (user : AuthUser) (change : UserChange) : AuthUser :=
  { user.nextVersion with
    role := change.role.getD user.role
    groupId := change.groupId.getD user.groupId
    active := change.active.getD user.active
    passwordHash := (change.passwordHash.getD user.hash).1
    passwordHashNotBlank := (change.passwordHash.getD user.hash).2 }

end AuthUser

def UserChange.none : UserChange := ⟨.none, .none, .none, .none⟩

/-- The change that makes a user the administrator of the group. -/
def UserChange.appointed (groupId : GroupId) : UserChange :=
  ⟨some .groupAdmin, some groupId, some true, .none⟩

/-- `AuthUserSql.demoteGroupAdmin`. -/
def UserChange.demoted : UserChange := ⟨some .operator, .none, .none, .none⟩

/-! ## The table -/

/-- What the JDK answers. -/
structure Platform where
  deriveKey : DeriveKey
  lowercase : String → String
  lowercase_notBlank : ∀ text, JvmText.isBlank text = false →
    JvmText.isBlank (lowercase text) = false

/-- The rows of `auth_users`, in the order of their usernames. -/
structure AuthUsers where
  rows : List AuthUser
  unique : (rows.map AuthUser.username).Nodup

namespace AuthUsers

def findByUsername (users : AuthUsers) (username : String) : Option AuthUser :=
  KeyedDelta.find AuthUser.username username users.rows

/-- The table with the rows of the same usernames overwritten. -/
def overwrite (users : AuthUsers) (rows : List AuthUser) : AuthUsers where
  rows := KeyedDelta.overwrite AuthUser.username rows users.rows
  unique := by
    rw [KeyedDelta.map_key_overwrite]
    exact users.unique

/-- The row that `AuthUserSql.update` writes for a user. -/
def updateRow (platform : Platform) (user : AuthUser) : AuthUser :=
  { user with
    email := platform.lowercase user.email
    emailNotBlank := platform.lowercase_notBlank user.email user.emailNotBlank }

/-- The statement meets one row. -/
def Updatable (users : AuthUsers) (user : AuthUser) : Prop :=
  ∃ row ∈ users.rows, row.id = user.id ∧ row.username = user.username

instance {users : AuthUsers} {user : AuthUser} : Decidable (users.Updatable user) :=
  inferInstanceAs (Decidable (∃ row ∈ users.rows, _))

/-- The rows that `AuthUserSql.demoteGroupAdmin` looks for. -/
def Demotable (groupId : GroupId) (username : String) (row : AuthUser) : Prop :=
  row.groupId = groupId ∧ row.role = .groupAdmin ∧ row.username ≠ username

instance {groupId : GroupId} {username : String} {row : AuthUser} :
    Decidable (Demotable groupId username row) :=
  inferInstanceAs (Decidable (_ ∧ _ ∧ _))

end AuthUsers

/-! ## The calls -/

/-- `changeGroup` is a `GroupLifecycleService.update` that gives the group a new parent, or a
`deactivate`; its checks of the groups have passed. -/
inductive UserRequest where
  | updateMember (principal : AuthenticatedPrincipal) (groupId : GroupId) (username : String)
      (command : GroupMemberUpdate) (salt : List UInt8)
  | replaceGroupAdmin (principal : AuthenticatedPrincipal) (groupId : GroupId) (username : String)
  | changeGroup (principal : AuthenticatedPrincipal) (groupId : GroupId)

/-- The services whose methods are synchronized. -/
inductive Monitor where
  | members (service : ℕ)
  | groups (service : ℕ)
  deriving DecidableEq

/-- A row in an open transaction, with the change that made it. -/
structure WrittenUser where
  row : AuthUser
  change : UserChange

/-- How far a call has come. The rows in it are the ones it has read. -/
inductive UserCall where
  | finding (groupId : GroupId) (username : String) (command : GroupMemberUpdate)
      (salt : List UInt8)
  | updating (current : AuthUser) (change : UserChange)
  | replacing (groupId : GroupId) (username : String)
  | found (groupId : GroupId) (target : AuthUser)
  | demoting (groupId : GroupId) (target : AuthUser) (todo : List String)
      (written : List WrittenUser)
  | committing (written : List WrittenUser)
  | listing (groupId : GroupId)
  | invalidating (users : List AuthUser)

namespace UserCall

def start : UserRequest → Except Thrown UserCall
  | .updateMember principal groupId username command salt => do
    requireGroupManagement principal groupId
    return .finding groupId username command salt
  | .replaceGroupAdmin principal groupId username => do
    requireSystemAdministrator principal
    return .replacing groupId username
  | .changeGroup principal groupId => do
    requireSystemAdministrator principal
    return .listing groupId

/-- The rows of the open transaction. -/
def written : UserCall → List WrittenUser
  | .demoting _ _ _ written => written
  | .committing written => written
  | _ => []

/-- The row that the next write of the call goes over, as the call read it, and its change. -/
def next : UserCall → Option (AuthUser × UserChange)
  | .updating current change => some (current, change)
  | .demoting groupId target [] _ => some (target, .appointed groupId)
  | .invalidating (user :: _) => some (user, .none)
  | _ => none

end UserCall

def hashPassword (platform : Platform) (salt : List UInt8) (password : String) :
    Except Thrown PasswordHash :=
  match h : PasswordHasher.standard.hash platform.deriveKey salt password with
  | .ok encoded => .ok ⟨encoded, PasswordHasher.isBlank_hash h⟩
  | .error thrown => .error thrown

def nextPasswordHash (platform : Platform) (salt : List UInt8) :
    Option String → Except Thrown (Option PasswordHash)
  | none => .ok none
  | some password =>
    if JvmText.length password < 12 then
      .error (.invalidContract "password_too_short" "password must be at least 12 characters")
    else (hashPassword platform salt password).map some

/-- What `GroupMemberAdministrationService.update` changes in the user it found. -/
def memberChange (platform : Platform) (groupId : GroupId) (command : GroupMemberUpdate)
    (salt : List UInt8) (current : AuthUser) : Except Thrown UserChange :=
  if current.groupId ≠ groupId then
    .error (.resourceNotFound "group_member_not_found" "user not found")
  else if current.role = .admin ∨ current.role = .groupAdmin then
    .error (.stateConflict "administrator_replacement_required"
      "administrator accounts require the replacement flow")
  else if (command.role.getD current.role).canBeIssuedByGroupAdmin = false then
    .error (.invalidContract "group_member_role_invalid" "member role must be viewer or operator")
  else do
    let passwordHash ← nextPasswordHash platform salt command.password
    return ⟨command.role, none, command.active, passwordHash⟩

/-! ## The steps -/

/-- `log` records the changes of the table, in their order. -/
structure UserState where
  users : AuthUsers
  calls : ℕ → Option UserCall
  locks : String → Option ℕ
  monitors : Monitor → Option ℕ
  log : List (String × UserChange)

def UserState.initial (users : AuthUsers) : UserState where
  users := users
  calls _ := none
  locks _ := none
  monitors _ := none
  log := []

inductive UserAction where
  | start (call : ℕ) (monitor : Option Monitor) (request : UserRequest)
  | find (call : ℕ)
  | list (call : ℕ) (hierarchy : Except Thrown OrganizationHierarchy)
  | demote (call : ℕ)
  | demoteRow (call : ℕ) (username : String)
  | write (call : ℕ)
  | commit (call : ℕ)
  | leave (call : ℕ)
  | throws (call : ℕ)

/-- The monitor that a request needs: that of the service instance it is made to. -/
def UserRequest.Synchronized : UserRequest → Option Monitor → Prop
  | .updateMember .., some (.members _) => True
  | .replaceGroupAdmin .., none => True
  | .changeGroup .., some (.groups _) => True
  | _, _ => False

instance : ∀ request monitor, Decidable (UserRequest.Synchronized request monitor)
  | .updateMember .., some (.members _) => inferInstanceAs (Decidable True)
  | .updateMember .., some (.groups _) => inferInstanceAs (Decidable False)
  | .updateMember .., none => inferInstanceAs (Decidable False)
  | .replaceGroupAdmin .., none => inferInstanceAs (Decidable True)
  | .replaceGroupAdmin .., some _ => inferInstanceAs (Decidable False)
  | .changeGroup .., some (.groups _) => inferInstanceAs (Decidable True)
  | .changeGroup .., some (.members _) => inferInstanceAs (Decidable False)
  | .changeGroup .., none => inferInstanceAs (Decidable False)

namespace UserState

def setCall (s : UserState) (call : ℕ) (phase : UserCall) : UserState :=
  { s with calls := Function.update s.calls call (some phase) }

/-- The call returns or throws: its locks are released, and its monitor. -/
def endCall (s : UserState) (call : ℕ) : UserState :=
  { s with
    calls := Function.update s.calls call none
    locks := fun username => if s.locks username = some call then none else s.locks username
    monitors := fun monitor => if s.monitors monitor = some call then none else s.monitors monitor }

def lock (s : UserState) (call : ℕ) (username : String) : UserState :=
  { s with locks := Function.update s.locks username (some call) }

/-- The rows reach the table. -/
def store (s : UserState) (written : List WrittenUser) : UserState :=
  { s with
    users := s.users.overwrite (written.map WrittenUser.row)
    log := s.log ++ written.map fun w => (w.row.username, w.change) }

/-- `monitor` is the one that the call has to hold, if any. -/
def start (s : UserState) (call : ℕ) (monitor : Option Monitor) (request : UserRequest) :
    Option UserState :=
  match s.calls call, UserCall.start request with
  | none, .ok phase =>
    if request.Synchronized monitor ∧ ∀ m ∈ monitor, s.monitors m = none then
      some { s.setCall call phase with
        monitors := fun m => if m ∈ monitor then some call else s.monitors m }
    else none
  | _, _ => none

def find (platform : Platform) (s : UserState) (call : ℕ) : Option UserState :=
  match s.calls call with
  | some (.finding groupId username command salt) =>
    (s.users.findByUsername username).bind fun current =>
      match memberChange platform groupId command salt current with
      | .ok change => some (s.setCall call (.updating current change))
      | .error _ => none
  | some (.replacing groupId username) =>
    (s.users.findByUsername username).bind fun target =>
      if target.role = .viewer ∨ target.role = .operator then
        some (s.setCall call (.found groupId target))
      else none
  | _ => none

/-- `users.list()`, of which the subtree in the hierarchy is taken. -/
def list (s : UserState) (call : ℕ) (hierarchy : Except Thrown OrganizationHierarchy) :
    Option UserState :=
  match s.calls call with
  | some (.listing groupId) => some (s.setCall call (.invalidating
      (s.users.rows.filter (GroupLifecycleService.inSubtree hierarchy groupId))))
  | _ => none

/-- `demoteGroupAdmin` begins: the rows that match now are to be visited. -/
def demote (s : UserState) (call : ℕ) : Option UserState :=
  match s.calls call with
  | some (.found groupId target) => some (s.setCall call (.demoting groupId target
      ((s.users.rows.filter (AuthUsers.Demotable groupId target.username)).map AuthUser.username)
      []))
  | _ => none

/-- A row is demoted once nobody else has it locked, if it still matches then. -/
def demoteRow (s : UserState) (call : ℕ) (username : String) : Option UserState :=
  match s.calls call with
  | some (.demoting groupId target todo written) =>
    if username ∈ todo ∧ s.locks username = none then
      (s.users.findByUsername username).map fun row =>
        if AuthUsers.Demotable groupId target.username row then
          (s.lock call username).setCall call (.demoting groupId target (todo.erase username)
            (written ++ [⟨row.copy .demoted, .demoted⟩]))
        else s.setCall call (.demoting groupId target (todo.erase username) written)
    else none
  | _ => none

/-- `JdbcAuthUserRepository.update` of the user that the call read, as soon as nobody has the row
locked. The update of the target in `replaceGroupAdmin` belongs to its transaction. -/
def write (platform : Platform) (s : UserState) (call : ℕ) : Option UserState :=
  match s.calls call with
  | some phase =>
    phase.next.bind fun (current, change) =>
      let user := current.copy change
      if s.users.Updatable user ∧ s.locks user.username = none then
        let new : WrittenUser := ⟨AuthUsers.updateRow platform user, change⟩
        match phase with
        | .demoting _ _ _ written =>
          some ((s.lock call user.username).setCall call (.committing (written ++ [new])))
        | .invalidating (_ :: rest) => some ((s.store [new]).setCall call (.invalidating rest))
        | _ => some ((s.store [new]).endCall call)
      else none
  | none => none

def commit (s : UserState) (call : ℕ) : Option UserState :=
  match s.calls call with
  | some (.committing written) => some ((s.store written).endCall call)
  | _ => none

def leave (s : UserState) (call : ℕ) : Option UserState :=
  match s.calls call with
  | some (.invalidating []) => some (s.endCall call)
  | _ => none

def throws (s : UserState) (call : ℕ) : Option UserState :=
  (s.calls call).map fun _ => s.endCall call

def step (platform : Platform) (s : UserState) : UserAction → Option UserState
  | .start call monitor request => s.start call monitor request
  | .find call => s.find platform call
  | .list call hierarchy => s.list call hierarchy
  | .demote call => s.demote call
  | .demoteRow call username => s.demoteRow call username
  | .write call => s.write platform call
  | .commit call => s.commit call
  | .leave call => s.leave call
  | .throws call => s.throws call

end UserState

end GcsSaker.Groups
