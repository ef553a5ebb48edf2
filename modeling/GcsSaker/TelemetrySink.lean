import GcsSaker.Runs
import GcsSaker.TelemetryUpsert
import Mathlib.Order.Interval.Finset.Nat

/-!
# Flushing the telemetry queue

A flush drains a batch from the front of the queue and hands it to the database. A batch that fails
goes back to the front, so that the next flush draws it again: what waits behind it is stored only
if some later call draws a batch that the database takes.
-/

namespace GcsSaker

open TelemetryUpsert
open TelemetryBufferRecord (ofLatitude)

/-- The name of the session's dialect, as the sink tells them apart. -/
inductive TelemetrySqlDialect where
  | postgresql
  | mysql
  | mariadb
  | other (name : String)
  deriving DecidableEq

namespace LegacyDbTelemetryBulkSink

/-- What a flush leaves, how many records from the front it has committed, and what it returns. -/
structure Outcome where
  table : Table
  history : List HistoryRow
  committed : ℕ
  result : Except StoreError ℕ

/-- The bulk insert into the history table. -/
def insert_history (db : Engine) (history : List HistoryRow) (batch : List TelemetryBulkPayload) :
    Except StoreError (List HistoryRow) :=
  if ∀ row ∈ TelemetryBulkBatch.history_rows batch, db.takesHistory row = true then
    .ok (history ++ TelemetryBulkBatch.history_rows batch)
  else .error .databaseError

/-- `upsert_telemetry` of one record after the other; each one is committed by itself. -/
def upsert_each (db : Engine) : Table → List TelemetryBufferRecord → Table × ℕ × Option StoreError
  | t, [] => (t, 0, none)
  | t, record :: records =>
    match db._upsert_orm t record.telemetry with
    | .error e => (t, 0, some e)
    | .ok t' =>
      let (t'', committed, e) := upsert_each db t' records
      (t'', committed + 1, e)

def flush (db : Engine) (dialect : TelemetrySqlDialect) (t : Table) (history : List HistoryRow)
    (records : List TelemetryBufferRecord) : Outcome :=
  if records.isEmpty then ⟨t, history, 0, .ok 0⟩
  else match TelemetryBulkBatch.from_records records with
    | .error message => ⟨t, history, 0, .error (.valueError message)⟩
    | .ok batch => match dialect with
      | .postgresql =>
        match (build_latest_bulk_upsert batch).bind (db.execute_postgres t) with
        | .error e => ⟨t, history, 0, .error e⟩
        | .ok t' => match insert_history db history batch with
          | .error e => ⟨t, history, 0, .error e⟩
          | .ok history' => ⟨t', history', batch.length, .ok batch.length⟩
      | .other _ =>
        let (t', committed, e) := upsert_each db t records
        ⟨t', history, committed, match e with
          | some e => .error e
          | none => .ok records.length⟩
      | _ =>
        match (build_latest_bulk_upsert batch).bind (db.execute_mysql t) with
        | .error e => ⟨t, history, 0, .error e⟩
        | .ok t' => ⟨t', history, batch.length, .ok batch.length⟩

/-! ## What a flush stores -/

def HistoryTaken (db : Engine) (records : List TelemetryBufferRecord) : Prop :=
  ∀ r ∈ records, db.takesHistory (TelemetryBulkPayload.ofRecord r).to_history_row = true

instance (db : Engine) (records : List TelemetryBufferRecord) :
    Decidable (HistoryTaken db records) := inferInstanceAs (Decidable (∀ _ ∈ _, _))

/-- The records that the row loop gets through. -/
def loopPrefix (db : Engine) (records : List TelemetryBufferRecord) : List TelemetryBufferRecord :=
  records.takeWhile fun r => db.Takes ⟨r.telemetry.uuid.join, r.telemetry.fields⟩

/-- How many records from the front a flush of `records` stores: all or none in one statement, and
as far as the row loop gets elsewhere. A batch with a record that has no key stores nothing. -/
def stores (db : Engine) (dialect : TelemetrySqlDialect) (records : List TelemetryBufferRecord) :
    ℕ :=
  match dialect with
  | .postgresql =>
    if db.BulkTakes records ∧ HistoryTaken db records then records.length else 0
  | .other _ => if ∀ r ∈ records, r.key ≠ "" then (loopPrefix db records).length else 0
  | _ => if db.RowsTake records then records.length else 0

variable (db : Engine)

theorem loopPrefix_length_le (records : List TelemetryBufferRecord) :
    (loopPrefix db records).length ≤ records.length :=
  (List.takeWhile_prefix _).length_le

theorem stores_le (dialect : TelemetrySqlDialect) (records : List TelemetryBufferRecord) :
    stores db dialect records ≤ records.length := by
  have hloop := loopPrefix_length_le db records
  unfold stores
  split <;> split_ifs <;> omega

@[simp] theorem stores_nil (dialect : TelemetrySqlDialect) : stores db dialect [] = 0 :=
  Nat.le_zero.1 (stores_le db dialect [])

/-- A flush commits what `stores` says, and returns when that is the whole batch. -/
def Agrees (outcome : Outcome) (stored length : ℕ) : Prop :=
  outcome.committed = stored ∧
    ((outcome.result = .ok length ∧ stored = length) ∨
      (∃ e, outcome.result = .error e) ∧ stored ≠ length)

section

variable {records : List TelemetryBufferRecord} (hn : 0 ≠ records.length) (t : Table)
  (history : List HistoryRow)

include hn

end

end LegacyDbTelemetryBulkSink

/-! ## The buffered sink -/

/-- `upsert_telemetry` in a session of the dialect. -/
def upsert_telemetry (db : Engine) (dialect : TelemetrySqlDialect) (t : Table)
    (telemetry : TelemetryCreate) : Except StoreError Table :=
  if dialect = .postgresql then db._upsert_postgres t telemetry else db._upsert_orm t telemetry

/-- `BufferedTelemetrySink` over `LegacyDbTelemetryBulkSink` and the buffer in memory. -/
structure BufferedTelemetrySink where
  db : Engine
  dialect : TelemetrySqlDialect
  max_pending_history : ℕ
  max_pending_history_pos : 0 < max_pending_history
  auto_flush_max_items : ℤ

/-- The buffer and the database, with the records accepted so far and the numbers, in the order of
acceptance, of those that were stored. -/
structure TelemetryState where
  buffer : InMemoryTelemetryWriteBuffer
  table : Table
  history : List HistoryRow
  accepted : List TelemetryBufferRecord
  stored : Finset ℕ

namespace TelemetryState

def initial (table : Table) (history : List HistoryRow) : TelemetryState where
  buffer := .empty
  table := table
  history := history
  accepted := []
  stored := ∅

/-- The number of the record at the front of the queue. -/
def front (s : TelemetryState) : ℕ := s.accepted.length - s.buffer.history.length

end TelemetryState

namespace BufferedTelemetrySink

open LegacyDbTelemetryBulkSink

variable (sink : BufferedTelemetrySink)

/-- The batch that a `flush_once` hands to the database. -/
def batch (s : TelemetryState) (max_items : ℤ) : List TelemetryBufferRecord :=
  (s.buffer.drain_history max_items).1

/-- The state after `flush_once` and what it returns or raises. -/
def flush_once (s : TelemetryState) (max_items : ℤ) : TelemetryState × Except StoreError ℕ :=
  let (records, buffer) := s.buffer.drain_history max_items
  if records.isEmpty then ({ s with buffer := buffer }, .ok 0)
  else
    let outcome := flush sink.db sink.dialect s.table s.history records
    let stored := s.stored ∪ Finset.Ico s.front (s.front + outcome.committed)
    match outcome.result with
    | .error e =>
      (⟨buffer.restore_history_front records, outcome.table, outcome.history, s.accepted, stored⟩,
        .error e)
    | .ok flushed_count =>
      (⟨if flushed_count ≠ records.length then
          buffer.restore_history_front (records.drop flushed_count)
        else buffer, outcome.table, outcome.history, s.accepted, stored⟩, .ok flushed_count)

/-- The state after `upsert`; a full buffer refuses the telemetry and changes nothing. -/
def upsert (s : TelemetryState) (telemetry : TelemetryCreate) (now : IsoDatetime.Datetime) :
    TelemetryState :=
  let record := TelemetryBufferRecord.create telemetry now
  match s.buffer.append_history sink.max_pending_history record with
  | none => s
  | some buffer =>
    let s' := { s with buffer := buffer.put_latest record, accepted := s.accepted ++ [record] }
    if 0 < sink.auto_flush_max_items ∧
        sink.auto_flush_max_items ≤ (s'.buffer.pending_history_count : ℤ) then
      (sink.flush_once s' sink.auto_flush_max_items).1
    else s'

inductive Call where
  | upsert (telemetry : TelemetryCreate) (now : IsoDatetime.Datetime)
  | flush_once (max_items : ℤ)

def call (s : TelemetryState) : Call → TelemetryState
  | .upsert telemetry now => sink.upsert s telemetry now
  | .flush_once max_items => (sink.flush_once s max_items).1

def calls (s : TelemetryState) (cs : List Call) : TelemetryState := cs.foldl sink.call s

def flushed (s : TelemetryState) (max_items : ℤ) : TelemetryState :=
  (sink.flush_once s max_items).1

/-- The state after the first `i` of an unending sequence of `flush_once`. -/
def flushes (s : TelemetryState) (max_items : ℕ → ℤ) : ℕ → TelemetryState :=
  Progress.after sink.flushed s max_items

/-! ## What a call preserves -/

/-- The queue is the end of what was accepted, only accepted records are stored, and what has left
the queue is stored. -/
structure Consistent (s : TelemetryState) : Prop where
  queue : s.buffer.history <:+ s.accepted
  stored : ∀ p ∈ s.stored, p < s.accepted.length
  gone : ∀ p < s.front, p ∈ s.stored

/-! ## Records that wait -/

/-- `upsert_telemetry` could store the record by itself, whatever the table holds. -/
def Storable (record : TelemetryBufferRecord) : Prop :=
  ∀ t, ∃ t', upsert_telemetry sink.db sink.dialect t record.telemetry = .ok t'

/-- Some accepted record could be stored, and is not. -/
def Waiting (s : TelemetryState) : Prop :=
  ∃ p record, s.accepted[p]? = some record ∧ sink.Storable record ∧ p ∉ s.stored

/-- Every storable record that was accepted is stored after finitely many of the calls. -/
def StoresAll (s : TelemetryState) (max_items : ℕ → ℤ) : Prop :=
  ∀ p record, s.accepted[p]? = some record → sink.Storable record →
    ∃ n, p ∈ (sink.flushes s max_items n).stored

/-- The part that the database takes of the batch at the front of the queue reaches a record that
was not stored yet. -/
def Reaches (s : TelemetryState) (max_items : ℤ) : Prop :=
  ∃ k < stores sink.db sink.dialect (batch s max_items), s.front + k ∉ s.stored

/-- As long as a storable record waits, some later call draws a batch of which a new record is
stored. -/
def Unblocked (s : TelemetryState) (max_items : ℕ → ℤ) : Prop :=
  ∀ i, sink.Waiting (sink.flushes s max_items i) →
    ∃ j, i ≤ j ∧ sink.Reaches (sink.flushes s max_items j) (max_items j)

/-- A sample without a `uuid`, then one of a device. -/
def poisonedCalls : List Call :=
  [.upsert (.blank none) (ofLatitude "" 0).received_at,
    .upsert (ofLatitude "rear" 36.5).telemetry
      (ofLatitude "rear" 36.5).received_at]

end BufferedTelemetrySink

end GcsSaker
