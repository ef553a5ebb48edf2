import GcsSaker.DedupStore
import GcsSaker.PostgresColumns
import GcsSaker.TelemetryIngestRpc

/-!
# Telemetry read models

`upsertTelemetry` of the two repositories of the policy service: the maps in memory, and the
statement `upsertTelemetryAndHistoryPostgres` with the trigger on its tables.
-/

namespace GcsSaker.TelemetryReads

open PostgresColumns (varchar nullable timestamptz)
open TelemetryIngestRpc (GroupId RegisteredDevice TelemetryReadModel)

deriving instance DecidableEq for TelemetryReadModel

inductive Failure where
  | permissionDenied (code message : String)
  | telemetryStorageUnavailable
  deriving DecidableEq

def ownershipConflict : Failure :=
  .permissionDenied "telemetry_ownership_conflict" "telemetry write is not permitted"

structure TelemetryHistoryReadModel where
  recordedAt : ℤ
  telemetry : TelemetryReadModel
  deriving DecidableEq

/-- A call of `upsertTelemetry` with what it reads beside the repository: the registered devices,
the clock and a fresh identity. -/
structure UpsertCall where
  telemetry : TelemetryReadModel
  devices : String → Option RegisteredDevice
  now : ℤ
  newLegacyEventId : String

/-- `current.observedAt > telemetry.observedAt` where both are there. -/
def isNewer (current telemetry : TelemetryReadModel) : Bool :=
  match current.observedAt, telemetry.observedAt with
  | some stored, some observed => decide (observed < stored)
  | _, _ => false

/-! ## In memory -/

structure InMemoryRepository where
  eventIds : List String
  telemetryByUuid : String → Option TelemetryReadModel
  telemetryHistory : String → List TelemetryHistoryReadModel

namespace InMemoryRepository

def empty : InMemoryRepository := ⟨[], fun _ => none, fun _ => []⟩

variable (repository : InMemoryRepository)

def validateOwnership (devices : String → Option RegisteredDevice) (sample : TelemetryReadModel) :
    Except Failure Unit :=
  let device := devices sample.uuid
  let owner := (device.map (·.groupId)).or
    ((repository.telemetryByUuid sample.uuid).map (·.groupId))
  if owner.any (· ≠ sample.groupId) || device.any (·.status ≠ .active) then
    .error ownershipConflict
  else .ok ()

/-- Both maps after a sample that is not ignored. -/
def put (now : ℤ) (telemetry : TelemetryReadModel) : InMemoryRepository :=
  { repository with
    telemetryByUuid := Function.update repository.telemetryByUuid telemetry.uuid <|
      match repository.telemetryByUuid telemetry.uuid with
      | some current => some (if isNewer current telemetry then current else telemetry)
      | none => some telemetry
    telemetryHistory := Function.update repository.telemetryHistory telemetry.uuid
      (repository.telemetryHistory telemetry.uuid ++ [⟨now, telemetry⟩]) }

def upsertTelemetry (call : UpsertCall) :
    InMemoryRepository × Except Failure TelemetryReadModel :=
  match repository.validateOwnership call.devices call.telemetry with
  | .error failure => (repository, .error failure)
  | .ok () =>
    match call.telemetry.eventId with
    | none => (repository.put call.now call.telemetry, .ok call.telemetry)
    | some id =>
      if id ∈ repository.eventIds then (repository, .ok call.telemetry)
      else
        ({ repository with eventIds := id :: repository.eventIds }.put call.now call.telemetry,
          .ok call.telemetry)

end InMemoryRepository

/-! ## On Postgres -/

def groupColumn (groupId : GroupId) : Option GroupId :=
  (varchar 64 groupId.value).bind fun value =>
    if h : JvmText.isBlank value = false then some ⟨value, h⟩ else none

/-- The columns that `telemetry_latest` and `telemetry_history` share, none if one of them does not
take its value. -/
def storedRow (telemetry : TelemetryReadModel) : Option TelemetryReadModel := do
  let eventId ← nullable (varchar 160) telemetry.eventId
  let uuid ← varchar 128 telemetry.uuid
  let soc ← varchar 32 telemetry.soc
  let epochTime ← varchar 32 telemetry.epochTime
  let groupId ← groupColumn telemetry.groupId
  let observedAt ← nullable (timestamptz PostgresColumns.microsecond) telemetry.observedAt
  let sessionId ← nullable (varchar 128) telemetry.sessionId
  let streamId ← nullable (varchar 256) telemetry.streamId
  some { telemetry with eventId, uuid, soc, epochTime, groupId, observedAt, sessionId, streamId }

/-- `enforce_telemetry_identity_ownership`: whether the trigger lets the row through. -/
def enforceTelemetryIdentityOwnership (device : Option RegisteredDevice)
    (latest : Option TelemetryReadModel) (row : TelemetryReadModel) : Bool :=
  match device with
  | some device => !(device.groupId ≠ row.groupId || device.status ≠ .active)
  | none => match latest with
    | some latest => !decide (latest.groupId ≠ row.groupId)
    | none => true

/-- The `history` in the order in which the rows were inserted. -/
structure Tables where
  telemetryLatest : String → Option TelemetryReadModel
  telemetryHistory : List TelemetryHistoryReadModel

inductive StatementError where
  | data
  | ownership
  deriving DecidableEq

namespace Tables

def empty : Tables := ⟨fun _ => none, []⟩

variable (tables : Tables)

/-- The unique index on `event_id`; it takes any number of nulls. -/
def hasEvent (row : TelemetryReadModel) : Bool :=
  row.eventId.any fun id => tables.telemetryHistory.any (·.telemetry.eventId = some id)

def insertHistory (row : TelemetryHistoryReadModel) : Tables :=
  { tables with telemetryHistory := tables.telemetryHistory ++ [row] }

/-- `INSERT … ON CONFLICT (uuid) DO UPDATE … WHERE …` -/
def upsertLatest (row : TelemetryReadModel) : Tables :=
  { tables with
    telemetryLatest := Function.update tables.telemetryLatest row.uuid <|
      match tables.telemetryLatest row.uuid with
      | none => some row
      | some current =>
        match current.observedAt, row.observedAt with
        | none, _ => some row
        | _, none => some row
        | some stored, some excluded => if stored ≤ excluded then some row else some current }

/-- The statement: the row goes into the history unless its event is there, and then into the
latest rows. The trigger runs before the conflict is looked for. -/
def upsertTelemetryAndHistoryPostgres (call : UpsertCall) (persisted : TelemetryReadModel) :
    Except StatementError Tables :=
  match storedRow persisted,
    timestamptz Clock.millisecond (persisted.observedAt.getD call.now) with
  | some row, some recordedAt =>
    if row.eventId = none then .error .data
    else if enforceTelemetryIdentityOwnership (call.devices row.uuid)
        (tables.telemetryLatest row.uuid) row then
      let inserted := !tables.hasEvent row
      let tables := if inserted then tables.insertHistory ⟨recordedAt, row⟩ else tables
      .ok (if persisted.eventId = none || inserted then tables.upsertLatest row else tables)
    else .error .ownership
  | _, _ => .error .data

def persisted (call : UpsertCall) : TelemetryReadModel :=
  match call.telemetry.eventId with
  | none => { call.telemetry with eventId := some call.newLegacyEventId }
  | some _ => call.telemetry

/-- `OperationalReadJdbcWriter.replaceTelemetry`; what fails is rolled back. -/
def replaceTelemetry (call : UpsertCall) : Tables × Except Failure TelemetryReadModel :=
  match tables.upsertTelemetryAndHistoryPostgres call (persisted call) with
  | .ok tables => (tables, .ok (persisted call))
  | .error .ownership => (tables, .error ownershipConflict)
  | .error .data => (tables, .error .telemetryStorageUnavailable)

end Tables

/-! ## What a call does -/

/-- The ownership check of both repositories, given the latest sample. -/
def owns (device : Option RegisteredDevice) (latest : Option TelemetryReadModel)
    (sample : TelemetryReadModel) : Bool :=
  ((device.map (·.groupId)).or (latest.map (·.groupId))).all (· = sample.groupId) &&
    device.all (·.status = .active)

/-- The latest sample after one more. -/
def newest (latest : Option TelemetryReadModel) (sample : TelemetryReadModel) :
    TelemetryReadModel :=
  match latest with
  | some current => if isNewer current sample then current else sample
  | none => sample

/-- The row that the statement proposes for the history, none if a column does not take it. -/
def historyRow (call : UpsertCall) : Option TelemetryHistoryReadModel :=
  (storedRow (Tables.persisted call)).bind fun row =>
    (timestamptz Clock.millisecond ((Tables.persisted call).observedAt.getD call.now)).map
      fun recordedAt => ⟨recordedAt, row⟩

theorem enforceTelemetryIdentityOwnership_eq (device : Option RegisteredDevice)
    (latest : Option TelemetryReadModel) (row : TelemetryReadModel) :
    enforceTelemetryIdentityOwnership device latest row = owns device latest row := by
  cases device with
  | none => cases latest <;> simp [enforceTelemetryIdentityOwnership, owns]
  | some device => simp [enforceTelemetryIdentityOwnership, owns]

namespace InMemoryRepository

variable (repository : InMemoryRepository)

theorem validateOwnership_eq (devices : String → Option RegisteredDevice)
    (sample : TelemetryReadModel) :
    repository.validateOwnership devices sample =
      if owns (devices sample.uuid) (repository.telemetryByUuid sample.uuid) sample then .ok ()
      else .error ownershipConflict := by
  cases hdevice : devices sample.uuid with
  | none =>
      cases hlatest : repository.telemetryByUuid sample.uuid with
      | none => simp [validateOwnership, owns, hdevice, hlatest]
      | some latest =>
          by_cases hg : latest.groupId = sample.groupId <;>
            simp [validateOwnership, owns, hdevice, hlatest, hg]
  | some device =>
      by_cases hg : device.groupId = sample.groupId <;>
        by_cases hs : device.status = .active <;>
          simp [validateOwnership, owns, hdevice, hg, hs]

theorem put_eq (now : ℤ) (sample : TelemetryReadModel) :
    repository.put now sample =
      { repository with
        telemetryByUuid := Function.update repository.telemetryByUuid sample.uuid
          (some (newest (repository.telemetryByUuid sample.uuid) sample))
        telemetryHistory := Function.update repository.telemetryHistory sample.uuid
          (repository.telemetryHistory sample.uuid ++ [⟨now, sample⟩]) } := by
  unfold put newest
  cases repository.telemetryByUuid sample.uuid <;> rfl

/-- The event of the sample has been ingested before. -/
def Known (sample : TelemetryReadModel) : Prop :=
  ∃ id ∈ sample.eventId, id ∈ repository.eventIds

theorem upsertTelemetry_of_not_owns {call : UpsertCall}
    (h : owns (call.devices call.telemetry.uuid)
      (repository.telemetryByUuid call.telemetry.uuid) call.telemetry = false) :
    repository.upsertTelemetry call = (repository, .error ownershipConflict) := by
  rw [upsertTelemetry, validateOwnership_eq, h]
  rfl

theorem upsertTelemetry_of_known {call : UpsertCall}
    (h : owns (call.devices call.telemetry.uuid)
      (repository.telemetryByUuid call.telemetry.uuid) call.telemetry = true)
    (hknown : repository.Known call.telemetry) :
    repository.upsertTelemetry call = (repository, .ok call.telemetry) := by
  obtain ⟨id, hid, hmem⟩ := hknown
  rw [Option.mem_def] at hid
  simp only [upsertTelemetry, validateOwnership_eq, h, if_true, hid, hmem]

theorem upsertTelemetry_of_new {call : UpsertCall}
    (h : owns (call.devices call.telemetry.uuid)
      (repository.telemetryByUuid call.telemetry.uuid) call.telemetry = true)
    (hnew : ¬repository.Known call.telemetry) :
    repository.upsertTelemetry call =
      ({ repository with
          eventIds := call.telemetry.eventId.toList ++ repository.eventIds }.put call.now
          call.telemetry, .ok call.telemetry) := by
  simp only [upsertTelemetry, validateOwnership_eq, h, if_true]
  cases hid : call.telemetry.eventId with
  | none => rfl
  | some id =>
      have hmem : id ∉ repository.eventIds := fun hmem => hnew ⟨id, hid, hmem⟩
      simp only [if_neg hmem, Option.toList_some, List.singleton_append]

end InMemoryRepository

namespace Tables

variable (tables : Tables)

theorem upsertLatest_eq (row : TelemetryReadModel) :
    tables.upsertLatest row =
      { tables with
        telemetryLatest := Function.update tables.telemetryLatest row.uuid
          (some (newest (tables.telemetryLatest row.uuid) row)) } := by
  unfold upsertLatest newest isNewer
  cases tables.telemetryLatest row.uuid with
  | none => rfl
  | some current =>
      cases hstored : current.observedAt with
      | none => simp [hstored]
      | some stored =>
          cases hrow : row.observedAt with
          | none => simp [hstored]
          | some observed =>
              by_cases hlt : observed < stored
              · simp [hstored, hlt, not_le.2 hlt]
              · simp [hstored, hlt, not_lt.1 hlt]

theorem persisted_of_none {call : UpsertCall} (h : call.telemetry.eventId = none) :
    persisted call = { call.telemetry with eventId := some call.newLegacyEventId } := by
  rw [persisted, h]

theorem persisted_of_ne_none {call : UpsertCall} (h : call.telemetry.eventId ≠ none) :
    persisted call = call.telemetry := by
  obtain ⟨id, hid⟩ := Option.ne_none_iff_exists'.1 h
  rw [persisted, hid]

theorem persisted_eventId_ne_none (call : UpsertCall) : (persisted call).eventId ≠ none := by
  by_cases h : call.telemetry.eventId = none
  · rw [persisted_of_none h]
    exact Option.some_ne_none _
  · rwa [persisted_of_ne_none h]

theorem storedRow_eventId {telemetry row : TelemetryReadModel} (h : storedRow telemetry = some row)
    (hid : telemetry.eventId ≠ none) : row.eventId ≠ none := by
  obtain ⟨id, hid⟩ := Option.ne_none_iff_exists'.1 hid
  simp only [storedRow, hid, nullable, Option.bind_eq_bind, Option.bind_eq_some_iff,
    Option.map_eq_some_iff] at h
  obtain ⟨_, ⟨stored, -, rfl⟩, _, -, _, -, _, -, _, -, _, -, _, -, _, -, hrow⟩ := h
  rw [← Option.some.inj hrow]
  exact Option.some_ne_none stored

theorem replaceTelemetry_of_none {call : UpsertCall} (h : historyRow call = none) :
    tables.replaceTelemetry call = (tables, .error .telemetryStorageUnavailable) := by
  have hstatement : tables.upsertTelemetryAndHistoryPostgres call (persisted call) =
      .error .data := by
    unfold historyRow at h
    unfold upsertTelemetryAndHistoryPostgres
    cases hrow : storedRow (persisted call) with
    | none => rfl
    | some row =>
        cases hat : timestamptz Clock.millisecond
            ((persisted call).observedAt.getD call.now) with
        | none => rfl
        | some recordedAt => simp [hrow, hat] at h
  rw [replaceTelemetry, hstatement]

/-- The call by the row that it proposes. -/
theorem replaceTelemetry_of_some {call : UpsertCall} {row : TelemetryHistoryReadModel}
    (h : historyRow call = some row) :
    tables.replaceTelemetry call =
      if owns (call.devices row.telemetry.uuid) (tables.telemetryLatest row.telemetry.uuid)
          row.telemetry then
        (if tables.hasEvent row.telemetry then tables
          else (tables.insertHistory row).upsertLatest row.telemetry, .ok (persisted call))
      else (tables, .error ownershipConflict) := by
  simp only [historyRow, Option.bind_eq_some_iff, Option.map_eq_some_iff] at h
  obtain ⟨stored, hrow, recordedAt, hat, rfl⟩ := h
  have hid := storedRow_eventId hrow (persisted_eventId_ne_none call)
  have hpersisted : decide ((persisted call).eventId = none) = false :=
    decide_eq_false (persisted_eventId_ne_none call)
  simp only [replaceTelemetry, upsertTelemetryAndHistoryPostgres, hrow, hat, if_neg hid,
    enforceTelemetryIdentityOwnership_eq, hpersisted, Bool.false_or]
  cases owns (call.devices stored.uuid) (tables.telemetryLatest stored.uuid) stored with
  | false => rfl
  | true => cases tables.hasEvent stored <;> rfl

end Tables

end GcsSaker.TelemetryReads
