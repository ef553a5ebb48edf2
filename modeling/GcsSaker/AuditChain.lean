import GcsSaker.HashChains
import GcsSaker.OperationalEvents
import GcsSaker.Runs
import GcsSaker.Sha256
import GcsSaker.TelemetryReads

/-!
# The audit chain

`JdbcOperationalEventWriter` and the hash chain of the audit events, on Postgres. Every statement
of a call is one step. The first one takes the row of the chain's head, and the call holds it until
its transaction ends.
-/

namespace GcsSaker.AuditChain

open OperationalEvents (OperationalEventReadModel)
open PostgresColumns (nullable textParameter timestamptz varchar)

structure Platform where
  instantText : ℤ → String
  doubleText : Float → String
  lowercase : String → String
  lowercase_lowercase : ∀ text, lowercase (lowercase text) = lowercase text

namespace AuditHashChain

def GENESIS_HASH : String := String.ofList (List.replicate 64 '0')

def auditCategories : List String := ["security", "audit"]

def isAudit (event : OperationalEventReadModel) : Bool := event.category ∈ auditCategories

def encode (values : List (Option String)) : String :=
  String.join (values.map fun value =>
    let normalized := value.getD ""
    toString normalized.toByteArray.size ++ ":" ++ normalized)

def digest (value : String) : String :=
  Sha256.hex (Sha256.digest value.toByteArray.data.toList)

variable (platform : Platform)

def canonical (event : OperationalEventReadModel) (previousHash : String) : String :=
  encode [
    some previousHash,
    some event.id,
    some (platform.instantText event.occurredAt),
    some event.severity,
    some event.category,
    event.eventType,
    event.sourceService,
    some event.source,
    some event.message,
    some (toString event.connections),
    some (toString event.latencyMs),
    some (platform.doubleText event.throughputMbps),
    some event.groupId.value,
    event.streamId,
    event.connectionId,
    event.icePath,
    event.relayFallbackReason,
    event.traceId,
    event.actorId,
    event.operation,
    event.result,
    event.errorCode,
    event.clockStatus,
    event.receivedAt.map platform.instantText,
    event.timeSource,
    event.clockDriftMs.map toString,
    event.clockMeasuredAt.map platform.instantText]

def chain (event : OperationalEventReadModel) (previousHash : String) :
    OperationalEventReadModel :=
  { event with
    previousHash := some previousHash
    eventHash := some (digest (canonical platform event previousHash)) }

/-- `toByteArray(US_ASCII)`: any other character becomes a question mark. -/
def asciiBytes (text : String) : List UInt8 :=
  text.toList.map fun c => if c.toNat < 128 then UInt8.ofNat c.toNat else 63

def verify (event : OperationalEventReadModel) : Bool :=
  match event.previousHash, event.eventHash with
  | some previousHash, some eventHash =>
    asciiBytes eventHash = asciiBytes (digest (canonical platform event previousHash))
  | _, _ => false

end AuditHashChain

/-! ## The tables -/

structure AuditHead where
  lastHash : String
  eventCount : ℤ

/-- The events in the order in which their rows were inserted, and the row of the head. -/
structure Storage where
  operationalEvents : List OperationalEventReadModel
  auditHead : Option AuditHead

/-- As the migrations leave empty tables. -/
def Storage.initial : Storage := ⟨[], some ⟨AuditHashChain.GENESIS_HASH, 0⟩⟩

inductive AuditAppendErrorCode where
  | incomplete
  | storageFailed
  | lockTimeout
  | interrupted
  | headMissing
  deriving DecidableEq

/-- An exception of the database: whether Spring classes it as a failed lock, and the state of
every `SQLException` among the exception and its causes. -/
structure DataAccessError where
  pessimisticLocking : Bool
  causes : List (Option String)
  deriving DecidableEq

inductive Failure where
  | auditAppend (errorCode : AuditAppendErrorCode)
  | dataAccess (error : DataAccessError)
  | other
  deriving DecidableEq

/-- What a statement raises that the data make fail; no such state is retried. -/
def Failure.data : Failure := .dataAccess ⟨false, []⟩

namespace Sql

def severities : List String := ["info", "warn", "error"]

def categories : List String := ["api", "signaling", "network", "stream", "security", "audit"]

variable (platform : Platform)

/-- The row of an event, none if a column does not take its value or a check fails. -/
def row (event : OperationalEventReadModel) : Option OperationalEventReadModel := do
  let id ← varchar 128 event.id
  let occurredAt ← timestamptz Clock.millisecond event.occurredAt
  let severity ← varchar 32 (platform.lowercase event.severity)
  let category ← varchar 64 event.category
  let eventType ← nullable (varchar 64) event.eventType
  let sourceService ← nullable (varchar 64) event.sourceService
  let source ← varchar 128 event.source
  let message ← varchar 1024 event.message
  let groupId ← TelemetryReads.groupColumn event.groupId
  let streamId ← nullable (varchar 128) event.streamId
  let connectionId ← nullable (varchar 128) event.connectionId
  let icePath ← nullable (varchar 32) event.icePath
  let relayFallbackReason ← nullable (varchar 255) event.relayFallbackReason
  let traceId ← nullable (varchar 64) event.traceId
  let actorId ← nullable (varchar 128) event.actorId
  let operation ← nullable (varchar 128) event.operation
  let result ← nullable (varchar 32) event.result
  let errorCode ← nullable (varchar 128) event.errorCode
  let clockStatus ← nullable (varchar 32) event.clockStatus
  let previousHash ← nullable (varchar 64) event.previousHash
  let eventHash ← nullable (varchar 64) event.eventHash
  let receivedAt ← nullable (timestamptz PostgresColumns.microsecond) event.receivedAt
  let timeSource ← nullable (varchar 160) event.timeSource
  let clockMeasuredAt ← nullable (timestamptz PostgresColumns.microsecond) event.clockMeasuredAt
  if severity ∈ severities ∧ category ∈ categories then
    some { event with
      id, occurredAt, severity, category, eventType, sourceService, source, message, groupId
      streamId, connectionId, icePath, relayFallbackReason, traceId, actorId, operation, result
      errorCode, clockStatus, previousHash, eventHash, receivedAt, timeSource, clockMeasuredAt }
  else none

/-- Whether `ux_operational_audit_previous_hash` has an entry for the row. -/
def forks (events : List OperationalEventReadModel) (row : OperationalEventReadModel) : Bool :=
  let indexed (event : OperationalEventReadModel) :=
    AuditHashChain.isAudit event && event.eventHash.isSome && event.previousHash.isSome
  indexed row && events.any fun event => indexed event && event.previousHash = row.previousHash

end Sql

namespace Storage

variable (platform : Platform) (storage : Storage)

def lockAuditHead : Except Failure String :=
  match storage.auditHead with
  | some head => .ok head.lastHash
  | none => .error .data

def existsById (id : String) : Except Failure Bool :=
  match textParameter id with
  | some id => .ok (storage.operationalEvents.any (·.id = id))
  | none => .error .data

/-- `Timestamp.from`, for which the milliseconds have to fit 64 bits. -/
def representable (instant : ℤ) : Bool :=
  -2 ^ 63 ≤ Clock.unixMilli instant && Clock.unixMilli instant < 2 ^ 63

/-- The table after an `INSERT`, and how many rows it has added. -/
def insert (event : OperationalEventReadModel) : Except Failure (Storage × ℕ) :=
  if ([some event.occurredAt, event.receivedAt, event.clockMeasuredAt].all fun instant =>
      instant.all representable) = false then .error .other
  else match Sql.row platform event with
    | none => .error .data
    | some row =>
      if storage.operationalEvents.any (·.id = row.id) then .ok (storage, 0)
      else if Sql.forks storage.operationalEvents row then .error .data
      else .ok
        ({ storage with operationalEvents := storage.operationalEvents ++ [row] }, 1)

/-- The table after an `UPDATE`, and how many rows it has changed. -/
def advanceAuditHead (eventHash : Option String) : Except Failure (Storage × ℕ) :=
  match storage.auditHead with
  | none => .ok (storage, 0)
  | some head => match eventHash.bind (varchar 64) with
    | none => .error .data
    | some lastHash =>
      if head.eventCount + 1 < 2 ^ 63 then
        .ok ({ storage with auditHead := some ⟨lastHash, head.eventCount + 1⟩ }, 1)
      else .error .data

end Storage

/-! ## One call -/

inductive AuditAppendOutcome where
  | appended
  | duplicate
  deriving DecidableEq

/-- How far an attempt of a call has come. -/
inductive Phase where
  | ready
  | locked (previousHash : String)
  | absent (previousHash : String)
  | inserted (appended : OperationalEventReadModel)
  | finished (outcome : AuditAppendOutcome)
  | returned (outcome : AuditAppendOutcome)
  | thrown (failure : Failure)

def truncatedTo (unit instant : ℤ) : ℤ := instant / unit * unit

variable (platform : Platform)

def normalizeStoragePrecision (event : OperationalEventReadModel) : OperationalEventReadModel :=
  { event with
    severity := platform.lowercase event.severity
    occurredAt := truncatedTo Clock.millisecond event.occurredAt
    receivedAt := event.receivedAt.map (truncatedTo PostgresColumns.microsecond)
    clockMeasuredAt := event.clockMeasuredAt.map (truncatedTo PostgresColumns.microsecond) }

/-- What is inserted for an event after the head with the hash. -/
def appendedEvent (event : OperationalEventReadModel) (previousHash : String) :
    OperationalEventReadModel :=
  let persisted := normalizeStoragePrecision platform event
  if AuditHashChain.isAudit persisted then AuditHashChain.chain platform persisted previousHash
  else persisted

/-- The next statement of `appendOwned`. -/
def appendOwned (event : OperationalEventReadModel) (storage : Storage) :
    Phase → Except Failure (Storage × Phase)
  | .ready => do
    let previousHash ← storage.lockAuditHead
    return (storage, .locked previousHash)
  | .locked previousHash => do
    if ← storage.existsById event.id then return (storage, .finished .duplicate)
    else return (storage, .absent previousHash)
  | .absent previousHash => do
    let appended := appendedEvent platform event previousHash
    let (storage, inserted) ← storage.insert platform appended
    if inserted = 0 then return (storage, .finished .duplicate)
    else if AuditHashChain.isAudit event then return (storage, .inserted appended)
    else return (storage, .finished .appended)
  | .inserted appended => do
    let (storage, advanced) ← storage.advanceAuditHead appended.eventHash
    if advanced ≠ 1 then throw (.auditAppend .headMissing)
    else return (storage, .finished .appended)
  | phase => return (storage, phase)

structure Call where
  event : OperationalEventReadModel
  attempt : ℕ
  phase : Phase

namespace AuditAppendTransactions

def MAX_ATTEMPTS : ℕ := 3

def MAX_TRANSACTION_CAUSE_DEPTH : ℕ := 8

def RETRYABLE_TRANSACTION_SQL_STATES : List String := ["55P03", "40P01", "40001"]

def isRetryableDatabaseTransactionFailure (error : DataAccessError) : Bool :=
  error.pessimisticLocking || (error.causes.take MAX_TRANSACTION_CAUSE_DEPTH).any fun sqlState =>
    sqlState.any (· ∈ RETRYABLE_TRANSACTION_SQL_STATES)

/-- Where a call goes on that has caught `failure`; its pause before the next attempt may be
interrupted. -/
def caught (call : Call) (failure : Failure) (interrupted : Bool) : Call :=
  match failure with
  | .dataAccess error =>
    if isRetryableDatabaseTransactionFailure error = false then
      { call with phase := .thrown (.auditAppend .storageFailed) }
    else if call.attempt = MAX_ATTEMPTS - 1 then
      { call with phase := .thrown (.auditAppend .lockTimeout) }
    else if interrupted then { call with phase := .thrown (.auditAppend .interrupted) }
    else { call with attempt := call.attempt + 1, phase := .ready }
  | failure => { call with phase := .thrown failure }

end AuditAppendTransactions

/-! ## All calls -/

/-- What has been committed, the transaction that holds the row of the head with what it sees of
the tables, and the calls. -/
structure System where
  committed : Storage
  transaction : Option (ℕ × Storage)
  calls : ℕ → Option Call

inductive Action where
  | appendIfAbsent (call : ℕ) (event : OperationalEventReadModel)
  | statement (call : ℕ)
  | fail (call : ℕ) (failure : Failure) (interrupted : Bool)
  | unconfirmed (call : ℕ) (failure : Failure) (interrupted : Bool)

def Action.call : Action → ℕ
  | .appendIfAbsent call _ => call
  | .statement call => call
  | .fail call _ _ => call
  | .unconfirmed call _ _ => call

def Phase.ended : Phase → Bool
  | .returned _ => true
  | .thrown _ => true
  | _ => false

namespace System

def initial : System := ⟨.initial, none, fun _ => none⟩

variable (s : System) (n : ℕ)

def setCall (call : Call) : System := { s with calls := Function.update s.calls n (some call) }

/-- What the next statement of a call works on, none while another one holds the row. -/
def visible : Option Storage :=
  match s.transaction with
  | none => some s.committed
  | some (holder, storage) => if holder = n then some storage else none

def rollback : System :=
  { s with transaction := s.transaction.filter fun transaction => transaction.1 ≠ n }

def commit : Option System :=
  match s.transaction with
  | some (holder, storage) =>
    if holder = n then some { s with committed := storage, transaction := none } else none
  | none => none

/-- The next statement of a call, or its commit. -/
def statement (call : Call) : Option System :=
  match call.phase with
  | .finished outcome =>
    (s.commit n).map fun s => s.setCall n { call with phase := .returned outcome }
  | phase => (s.visible n).map fun storage =>
    match appendOwned platform call.event storage phase with
    | .ok (storage, phase) =>
      { s.setCall n { call with phase } with transaction := some (n, storage) }
    | .error failure =>
      (s.rollback n).setCall n (AuditAppendTransactions.caught call failure false)

/-- A commit that takes effect and raises an exception nevertheless. -/
def unconfirmed (call : Call) (failure : Failure) (interrupted : Bool) : Option System :=
  match call.phase with
  | .finished _ =>
    (s.commit n).map fun s => s.setCall n (AuditAppendTransactions.caught call failure interrupted)
  | _ => none

/-- The call, if it has not ended. -/
def running : Option Call := (s.calls n).filter fun call => !call.phase.ended

def step : Action → Option System
  | .appendIfAbsent n event =>
    if (s.calls n).isNone then some (s.setCall n ⟨event, 0, .ready⟩) else none
  | .statement n => (s.running n).bind fun call => s.statement platform n call
  | .fail n failure interrupted => (s.running n).map fun call =>
    (s.rollback n).setCall n (AuditAppendTransactions.caught call failure interrupted)
  | .unconfirmed n failure interrupted =>
    (s.running n).bind fun call => s.unconfirmed n call failure interrupted

end System

end GcsSaker.AuditChain
