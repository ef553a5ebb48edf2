import GcsSaker.TelemetryUpsert

/-!
# Interleaved upserts and flushes

Any number of threads call `upsert` and `flush_once` of one `BufferedTelemetrySink`. An operation of
the buffer holds its lock and is one step; between the steps of a call others take theirs. The bulk
sink stores a prefix of the batch that it is given and returns its length, or raises and stores
nothing.
-/

namespace GcsSaker.TelemetryFlushes

open KeyedWrites (writeAll)
open TelemetryUpsert (Engine Table)

structure Config where
  db : Engine
  max_pending_history : ℕ
  has_bulk_sink : Bool
  auto_flush_max_items : ℤ

/-- How a call ends: a full buffer, an upsert that returns, the count of `flush_once`, or the
exception of the bulk sink. -/
inductive Outcome where
  | full
  | accepted
  | flushed (count : ℕ)
  | raised
  deriving DecidableEq

/-- The next step of a call. -/
inductive Stage where
  | append_history (record : TelemetryBufferRecord)
  | put_latest (record : TelemetryBufferRecord)
  | check_pending
  | drain_history (max_items : ℤ)
  | flush (records : List TelemetryBufferRecord)
  | restore_history_front (records : List TelemetryBufferRecord) (outcome : Outcome)
  | returned (outcome : Outcome)

namespace Stage

/-- The records that a call has drained and neither stored nor put back. -/
def held : Stage → List TelemetryBufferRecord
  | .flush records => records
  | .restore_history_front records _ => records
  | _ => []

/-- The call is in `flush_once`. -/
def flushing : Stage → Bool
  | .drain_history _ => true
  | .flush _ => true
  | .restore_history_front _ _ => true
  | _ => false

theorem held_of_not_flushing {stage : Stage} (h : stage.flushing = false) : stage.held = [] := by
  cases stage with
  | append_history record => rfl
  | put_latest record => rfl
  | check_pending => rfl
  | drain_history max_items => rfl
  | flush records => cases h
  | restore_history_front records outcome => cases h
  | returned outcome => rfl

end Stage

/-- The calls are numbered in the order in which they begin. `accepted` and `stored` list the
records whose `append_history` succeeded and those that the bulk sink has stored, in order. -/
structure State where
  buffer : InMemoryTelemetryWriteBuffer
  calls : List Stage
  accepted : List TelemetryBufferRecord
  stored : List TelemetryBufferRecord
  latest : Table

inductive Action where
  | upsert (record : TelemetryBufferRecord)
  | flush_once (max_items : ℤ)
  | step (call : ℕ)
  | sink (call : ℕ) (stored : Option ℕ)

namespace State

def initial (latest : Table) : State := ⟨.empty, [], [], [], latest⟩

variable (cfg : Config) (s : State)

def advance (call : ℕ) (stage : Stage) : State := { s with calls := s.calls.set call stage }

/-- Whether an upsert goes on with `flush_once`. -/
def checkPending : Stage :=
  if cfg.has_bulk_sink = true ∧ 0 < cfg.auto_flush_max_items ∧
      cfg.auto_flush_max_items ≤ (s.buffer.pending_history_count : ℤ) then
    .drain_history cfg.auto_flush_max_items
  else .returned .accepted

/-- One step of a call other than that of the bulk sink. -/
def callStep (call : ℕ) : Stage → Option State
  | .append_history record =>
    match s.buffer.append_history cfg.max_pending_history record with
    | none => some (s.advance call (.returned .full))
    | some buffer => some { s.advance call (.put_latest record) with
        buffer := buffer
        accepted := s.accepted ++ [record] }
  | .put_latest record =>
    some { s.advance call .check_pending with buffer := s.buffer.put_latest record }
  | .check_pending => some (s.advance call (s.checkPending cfg))
  | .drain_history max_items =>
    if cfg.has_bulk_sink = false then some (s.advance call (.returned (.flushed 0)))
    else
      let (records, buffer) := s.buffer.drain_history max_items
      if records.isEmpty then
        some { s.advance call (.returned (.flushed 0)) with buffer := buffer }
      else some { s.advance call (.flush records) with buffer := buffer }
  | .restore_history_front records outcome =>
    some { s.advance call (.returned outcome) with
      buffer := s.buffer.restore_history_front records }
  | .flush _ => none
  | .returned _ => none

/-- The bulk sink stores the first `count` of the records. -/
def store (call : ℕ) (records : List TelemetryBufferRecord) (count : ℕ) : State :=
  { s.advance call (if count ≠ records.length then
        .restore_history_front (records.drop count) (.flushed count)
      else .returned (.flushed count)) with
    stored := s.stored ++ records.take count
    latest := writeAll TelemetryBufferRecord.key
      (fun r _ => cfg.db.proposed (Engine.insertRow r)) s.latest (records.take count) }

def sinkStep (call : ℕ) (records : List TelemetryBufferRecord) : Option ℕ → Option State
  | none => some (s.advance call (.restore_history_front records .raised))
  | some count => if count ≤ records.length then some (s.store cfg call records count) else none

def step : Action → Option State
  | .upsert record => some { s with calls := s.calls ++ [.append_history record] }
  | .flush_once max_items => some { s with calls := s.calls ++ [.drain_history max_items] }
  | .step call => s.calls[call]?.bind (s.callStep cfg call)
  | .sink call stored =>
    match s.calls[call]? with
    | some (.flush records) => s.sinkStep cfg call records stored
    | _ => none

/-- The records in flight, call by call. -/
def inFlight : List TelemetryBufferRecord := s.calls.flatMap Stage.held

/-- No record waits and no flush is running. -/
def Quiet : Prop := s.buffer.history = [] ∧ ∀ stage ∈ s.calls, stage.flushing = false

/-- At most one flush is running. -/
def OneFlush : Prop := s.calls.countP Stage.flushing ≤ 1

instance : Decidable s.OneFlush := inferInstanceAs (Decidable (_ ≤ _))

end State

end GcsSaker.TelemetryFlushes
