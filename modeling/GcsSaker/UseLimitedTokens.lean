import GcsSaker.KeyedRows
import GcsSaker.Machines
import GcsSaker.PostgresColumns
import GcsSaker.RefreshSessionStore
import Mathlib.Data.List.Sort

/-!
# Tokens that may be used a limited number of times

Device provisioning tokens and signup registration tokens, as their services issue them, and the
repositories of both, in memory and on Postgres. The code for the two kinds is the same but for
what is said of `TokenKind`. Every statement is one step.
-/

namespace GcsSaker.UseLimitedTokens

open Groups (GroupId Thrown UserRole require)
open KeyedDelta (find)
open PostgresColumns (varchar textParameter timestamptz)

inductive TokenStatus where
  | active
  | exhausted
  | revoked
  | expired
  deriving DecidableEq

inductive TokenKind where
  | deviceProvisioning
  | signupRegistration
  deriving DecidableEq

structure SignupDetails where
  companyId : ℤ
  role : UserRole
  deriving DecidableEq

namespace TokenKind

def Details : TokenKind → Type
  | .deviceProvisioning => Unit
  | .signupRegistration => SignupDetails

instance : ∀ kind : TokenKind, DecidableEq kind.Details
  | .deviceProvisioning => inferInstanceAs (DecidableEq Unit)
  | .signupRegistration => inferInstanceAs (DecidableEq SignupDetails)

end TokenKind

structure TokenRecord (kind : TokenKind) where
  tokenId : String
  tokenHash : String
  groupId : GroupId
  label : String
  status : TokenStatus
  maxUses : ℤ
  usedCount : ℤ
  expiresAt : ℤ
  createdBy : String
  createdAt : ℤ
  lastUsedAt : Option ℤ
  revokedAt : Option ℤ
  revokedBy : Option String
  details : kind.Details
  deriving DecidableEq

def TokenRecord.activeAt {kind : TokenKind} (record : TokenRecord kind) (now : ℤ) : Bool :=
  record.status = .active && record.usedCount < record.maxUses && now < record.expiresAt

namespace TokenKind

/-- What `init` requires of a record. -/
def init : (kind : TokenKind) → TokenRecord kind → Except Thrown Unit
  | .deviceProvisioning, record => do
    require (JvmText.isBlank record.tokenId = false)
      "device provisioning token id must not be blank"
    require (JvmText.isBlank record.tokenHash = false)
      "device provisioning token hash must not be blank"
    require (JvmText.isBlank record.label = false)
      "device provisioning token label must not be blank"
    require (0 < record.maxUses) "device provisioning token max uses is out of range"
    require (0 ≤ record.usedCount ∧ record.usedCount ≤ record.maxUses)
      "device provisioning token used count is invalid"
    require (JvmText.isBlank record.createdBy = false)
      "device provisioning token creator must not be blank"
  | .signupRegistration, _ => .ok ()

/-- The status that `consume` in memory gives to a token that is not exhausted. -/
def statusAfterUse : TokenKind → TokenStatus → TokenStatus
  | .deviceProvisioning, _ => .active
  | .signupRegistration, status => status

end TokenKind

/-! ## Issue -/

structure IssueCommand (kind : TokenKind) where
  groupId : String
  label : String
  ttlMinutes : ℤ
  maxUses : ℤ
  createdBy : String
  details : kind.Details

namespace TokenKind

def validateIssueCommand : (kind : TokenKind) → IssueCommand kind → Except Thrown Unit
  | .deviceProvisioning, command => do
    require (JvmText.isBlank command.groupId = false)
      "device provisioning group id must not be blank"
    require (JvmText.isBlank command.label = false)
      "device provisioning token label must not be blank"
    require (5 ≤ command.ttlMinutes ∧ command.ttlMinutes ≤ 1440)
      "device provisioning token ttl is out of range"
    require (1 ≤ command.maxUses ∧ command.maxUses ≤ 100)
      "device provisioning token max uses is out of range"
    require (JvmText.isBlank command.createdBy = false)
      "device provisioning token creator must not be blank"
  | .signupRegistration, command => do
    require (0 < SignupDetails.companyId command.details) "company id must be positive"
    require (JvmText.isBlank command.groupId = false) "group id must not be blank"
    require (JvmText.isBlank command.label = false) "label must not be blank"
    require ((SignupDetails.role command.details).canBeIssuedByGroupAdmin = true)
      "administrator signup tokens are not allowed"
    require (5 ≤ command.ttlMinutes ∧ command.ttlMinutes ≤ 10080)
      "ttl minutes must be between 5 and 10080"
    require (1 ≤ command.maxUses ∧ command.maxUses ≤ 100) "max uses must be between 1 and 100"

def groupNotFound : TokenKind → String
  | .deviceProvisioning => "device provisioning group does not exist"
  | .signupRegistration => "group does not exist"

def issuedLabel : TokenKind → String → String
  | .deviceProvisioning, label => label
  | .signupRegistration, label => JvmText.trim label

end TokenKind

/-- The record that `issue` saves, with the groups that it knows if it is told of them. -/
def issue {kind : TokenKind} (command : IssueCommand kind) (known : Option (GroupId → Bool))
    (tokenId tokenHash : String) (now : ℤ) : Except Thrown (TokenRecord kind) := do
  kind.validateIssueCommand command
  let groupId ← RefreshSessions.makeGroupId (JvmText.trim command.groupId)
  require (known.all (· groupId) = true) kind.groupNotFound
  let record : TokenRecord kind :=
    { tokenId, tokenHash, groupId
      label := kind.issuedLabel command.label
      status := .active
      maxUses := command.maxUses
      usedCount := 0
      expiresAt := now + command.ttlMinutes * (60 * Clock.second)
      createdBy := command.createdBy
      createdAt := now
      lastUsedAt := none
      revokedAt := none
      revokedBy := none
      details := command.details }
  kind.init record
  .ok record

variable {kind : TokenKind}

/-! ## In memory -/

/-- The records in the order in which their identities came in. -/
abbrev Tokens (kind : TokenKind) := List (TokenRecord kind)

namespace InMemory

def activeCandidates (tokens : Tokens kind) (now : ℤ) (limit : ℕ) : List (TokenRecord kind) :=
  (tokens.filter (·.activeAt now)).take limit

def save (tokens : Tokens kind) (record : TokenRecord kind) : Tokens kind :=
  KeyedRows.put TokenRecord.tokenId tokens record

def consume (tokens : Tokens kind) (tokenId : String) (now : ℤ) : Tokens kind × Bool :=
  match (find TokenRecord.tokenId tokenId tokens).filter (·.activeAt now) with
  | none => (tokens, false)
  | some current =>
    let nextUsedCount := current.usedCount + 1
    (KeyedRows.put TokenRecord.tokenId tokens { current with
      usedCount := nextUsedCount
      status := if current.maxUses ≤ nextUsedCount then .exhausted
        else kind.statusAfterUse current.status
      lastUsedAt := some now }, true)

def revoke (tokens : Tokens kind) (tokenId revokedBy : String) (now : ℤ) : Tokens kind × Bool :=
  match (find TokenRecord.tokenId tokenId tokens).filter (·.status = .active) with
  | none => (tokens, false)
  | some current =>
    (KeyedRows.put TokenRecord.tokenId tokens { current with
      status := .revoked
      revokedAt := some now
      revokedBy := some revokedBy }, true)

end InMemory

/-! ## On Postgres -/

/-- The lengths of the columns that differ between the two tables. -/
structure TokenColumns where
  tokenId : ℕ
  groupId : ℕ
  label : ℕ
  createdBy : ℕ
  revokedBy : ℕ

namespace TokenKind

def columns : TokenKind → TokenColumns
  | .deviceProvisioning => ⟨128, 64, 128, 128, 128⟩
  | .signupRegistration => ⟨64, 128, 255, 255, 255⟩

/-- The group of a device token is a foreign key, and the role of a signup token is checked. -/
def accepts : (kind : TokenKind) → kind.Details → Bool → Bool
  | .deviceProvisioning, _, groupExists => groupExists
  | .signupRegistration, details, _ => details.role.canBeIssuedByGroupAdmin

/-- The order of tokens that were created at the same time: by `token_id`, or none at all. -/
def atSameTime : TokenKind → (String → String → Bool) → String → String → Bool
  | .deviceProvisioning, notAfter => notAfter
  | .signupRegistration, _ => fun _ _ => true

end TokenKind

/-- How the database compares texts, and the order in which it comes upon the rows of a table. -/
structure Database (kind : TokenKind) where
  notAfter : String → String → Bool
  scan : List (TokenRecord kind) → List (TokenRecord kind)
  scan_perm : ∀ rows, (scan rows).Perm rows

def groupColumn (limit : ℕ) (groupId : GroupId) : Option GroupId :=
  (varchar limit groupId.value).bind fun value =>
    if h : JvmText.isBlank value = false then some ⟨value, h⟩ else none

namespace Sql

/-- The row of a record, none if a column does not take its value or a check fails. -/
def row (record : TokenRecord kind) (groupExists : Bool) : Option (TokenRecord kind) := do
  let tokenId ← varchar kind.columns.tokenId record.tokenId
  let tokenHash ← varchar 255 record.tokenHash
  let groupId ← groupColumn kind.columns.groupId record.groupId
  let label ← varchar kind.columns.label record.label
  let expiresAt ← timestamptz PostgresColumns.microsecond record.expiresAt
  let createdBy ← varchar kind.columns.createdBy record.createdBy
  let createdAt ← timestamptz PostgresColumns.microsecond record.createdAt
  if 0 < record.maxUses ∧ 0 ≤ record.usedCount ∧ record.usedCount ≤ record.maxUses ∧
      kind.accepts record.details groupExists = true then
    some { record with
      tokenId, tokenHash, groupId, label, expiresAt, createdBy, createdAt
      lastUsedAt := none, revokedAt := none, revokedBy := none }
  else none

/-- `INSERT`, which fails for a `token_id` that the table has. -/
def save (rows : Tokens kind) (record : TokenRecord kind) (groupExists : Bool) :
    Option (Tokens kind) :=
  (row record groupExists).bind fun row =>
    if (find TokenRecord.tokenId row.tokenId rows).isSome then none else some (rows ++ [row])

/-- `ORDER BY created_at DESC`, and `token_id ASC` for device tokens. -/
def newerFirst (database : Database kind) (row row' : TokenRecord kind) : Prop :=
  row'.createdAt < row.createdAt ∨ row'.createdAt = row.createdAt ∧
    kind.atSameTime database.notAfter row.tokenId row'.tokenId = true

instance {database : Database kind} : DecidableRel (newerFirst database) :=
  fun _ _ => inferInstanceAs (Decidable (_ ∨ _ ∧ _))

def activeCandidates (database : Database kind) (rows : Tokens kind) (now : ℤ) (limit : ℕ) :
    Option (List (TokenRecord kind)) :=
  (timestamptz PostgresColumns.microsecond now).map fun now =>
    (((database.scan rows).filter fun row =>
      row.status = .active && row.usedCount < row.maxUses && now < row.expiresAt).insertionSort
        (newerFirst database)).take limit

/-- `UPDATE`, and whether it changed one row. -/
def update (matching : TokenRecord kind → Bool) (set : TokenRecord kind → TokenRecord kind)
    (rows : Tokens kind) : Tokens kind × Bool :=
  let updated := KeyedRows.updateWhere matching set rows
  (updated.1, updated.2 = 1)

def consume (rows : Tokens kind) (tokenId : String) (now : ℤ) : Option (Tokens kind × Bool) := do
  let now ← timestamptz PostgresColumns.microsecond now
  let tokenId ← textParameter tokenId
  some (update (fun row => row.tokenId = tokenId && row.status = .active &&
      row.usedCount < row.maxUses && now < row.expiresAt)
    (fun row => { row with
      usedCount := row.usedCount + 1
      status := if row.maxUses ≤ row.usedCount + 1 then .exhausted else row.status
      lastUsedAt := some now }) rows)

def revoke (rows : Tokens kind) (tokenId revokedBy : String) (now : ℤ) :
    Option (Tokens kind × Bool) := do
  let now ← timestamptz PostgresColumns.microsecond now
  let revokedBy ← varchar kind.columns.revokedBy revokedBy
  let tokenId ← textParameter tokenId
  some (update (fun row => row.tokenId = tokenId && row.status = .active)
    (fun row => { row with
      status := .revoked
      revokedAt := some now
      revokedBy := some revokedBy }) rows)

end Sql

/-! ## Calls -/

/-- What a repository is asked; a token is saved while its group is there or not. -/
inductive Call (kind : TokenKind) where
  | save (record : TokenRecord kind) (groupExists : Bool)
  | consume (tokenId : String) (now : ℤ)
  | revoke (tokenId revokedBy : String) (now : ℤ)
  | activeCandidates (now : ℤ) (limit : ℕ)
  deriving DecidableEq

inductive Answer (kind : TokenKind) where
  | saved (record : TokenRecord kind)
  | consumed (success : Bool)
  | revoked (success : Bool)
  | candidates (records : List (TokenRecord kind))
  | failed
  deriving DecidableEq

def InMemory.step (tokens : Tokens kind) : Call kind → Tokens kind × Answer kind
  | .save record _ => (save tokens record, .saved record)
  | .consume tokenId now => (consume tokens tokenId now).map id .consumed
  | .revoke tokenId revokedBy now => (revoke tokens tokenId revokedBy now).map id .revoked
  | .activeCandidates now limit => (tokens, .candidates (activeCandidates tokens now limit))

/-- A statement that fails changes nothing. -/
def Sql.step (database : Database kind) (rows : Tokens kind) (call : Call kind) :
    Tokens kind × Answer kind :=
  let result := match call with
    | .save record groupExists =>
      (save rows record groupExists).map fun rows => (rows, Answer.saved record)
    | .consume tokenId now => (consume rows tokenId now).map (Prod.map id .consumed)
    | .revoke tokenId revokedBy now => (revoke rows tokenId revokedBy now).map (Prod.map id .revoked)
    | .activeCandidates now limit =>
      (activeCandidates database rows now limit).map fun found => (rows, .candidates found)
  result.getD (rows, .failed)

/-- The two repositories of each kind. -/
inductive Repository (kind : TokenKind) where
  | inMemory
  | jdbc (database : Database kind)

def Repository.step : Repository kind → Tokens kind → Call kind → Tokens kind × Answer kind
  | .inMemory => InMemory.step
  | .jdbc database => Sql.step database

end GcsSaker.UseLimitedTokens
