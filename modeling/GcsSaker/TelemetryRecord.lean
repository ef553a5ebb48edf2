import GcsSaker.CheckedSteps
import GcsSaker.IsoDatetime

/-!
# Buffered telemetry and its rows

A `TelemetryCreate` remembers which of its fields were set, possibly to null: the row of the latest
table has the set columns only, the row of the history table has null where nothing was set.
-/

namespace GcsSaker

open IsoDatetime (Datetime)

/-- The columns of `telemetry_realtime` besides `uuid`, in the order of `LATEST_ROW_COLUMNS`. -/
inductive TelemetryColumn where
  | latitude
  | longitude
  | altitude
  | magneticX
  | magneticY
  | magneticZ
  | soc
  | phoneBatterySOC
  | velocity
  | totalDistance
  | epochTime
  | portDistance
  deriving DecidableEq

namespace TelemetryColumn

/-- `LATEST_ROW_COLUMNS` without `uuid`. -/
def LATEST_ROW_COLUMNS : List TelemetryColumn :=
  [latitude, longitude, altitude, magneticX, magneticY, magneticZ, soc, phoneBatterySOC, velocity,
    totalDistance, epochTime, portDistance]

theorem mem_LATEST_ROW_COLUMNS (c : TelemetryColumn) : c ∈ LATEST_ROW_COLUMNS := by
  cases c <;> decide

/-- The name in `TelemetryStorageColumns`, which is the field's alias and the key of the column. -/
def storageName : TelemetryColumn → String
  | latitude => "latitude"
  | longitude => "longitude"
  | altitude => "altitude"
  | magneticX => "magneticX"
  | magneticY => "magneticY"
  | magneticZ => "magneticZ"
  | soc => "soc"
  | phoneBatterySOC => "phoneBatterySOC"
  | velocity => "velocity"
  | totalDistance => "totalDistance"
  | epochTime => "epochTime"
  | portDistance => "portDistance"

/-- The attribute of `TelemetryCreate` and of the mapped class `Telemetry`. -/
def attributeName : TelemetryColumn → String
  | magneticX => "magnetic_x"
  | magneticY => "magnetic_y"
  | magneticZ => "magnetic_z"
  | phoneBatterySOC => "phone_battery_soc"
  | totalDistance => "total_distance"
  | epochTime => "epoch_time"
  | portDistance => "port_distance"
  | c => c.storageName

/-- What a field of `TelemetryCreate` holds when it is not null. -/
inductive Kind where
  | number
  | text
  | integer
  deriving DecidableEq

def kind : TelemetryColumn → Kind
  | soc => .text
  | epochTime => .integer
  | _ => .number

instance {p : TelemetryColumn → Prop} [DecidablePred p] : Decidable (∀ c, p c) :=
  decidable_of_iff (∀ c ∈ LATEST_ROW_COLUMNS, p c)
    ⟨fun h c => h c (mem_LATEST_ROW_COLUMNS c), fun h c _ => h c⟩

end TelemetryColumn

inductive TelemetryValue where
  | null
  | number (x : Float)
  | text (s : String)
  | integer (n : ℤ)
  deriving DecidableEq

/-- A value that the field's type allows; every field is optional. -/
def TelemetryValue.fits : TelemetryValue → TelemetryColumn.Kind → Bool
  | .null, _ => true
  | .number _, .number => true
  | .text _, .text => true
  | .integer _, .integer => true
  | _, _ => false

/-- `none` stands for a field that was not set. -/
structure TelemetryCreate where
  uuid : Option (Option String)
  fields : TelemetryColumn → Option TelemetryValue
  typed : ∀ c v, fields c = some v → v.fits c.kind = true

namespace TelemetryCreate

def blank (uuid : Option (Option String)) : TelemetryCreate where
  uuid := uuid
  fields := fun _ => none
  typed := by simp

def set (telemetry : TelemetryCreate) (c : TelemetryColumn) (v : TelemetryValue)
    (hv : v.fits c.kind = true) : TelemetryCreate where
  uuid := telemetry.uuid
  fields := Function.update telemetry.fields c (some v)
  typed := by
    intro d w hw
    by_cases hd : d = c
    · subst hd
      rw [Function.update_self, Option.some.injEq] at hw
      exact hw ▸ hv
    · rw [Function.update_of_ne hd] at hw
      exact telemetry.typed d w hw

@[ext] theorem ext {telemetry telemetry' : TelemetryCreate}
    (huuid : telemetry.uuid = telemetry'.uuid) (hfields : telemetry.fields = telemetry'.fields) :
    telemetry = telemetry' := by
  cases telemetry
  cases telemetry'
  cases huuid
  cases hfields
  rfl

/-- The field is in `model_fields_set`. -/
def isSet (telemetry : TelemetryCreate) (c : TelemetryColumn) : Prop :=
  (telemetry.fields c).isSome = true

instance (telemetry : TelemetryCreate) (c : TelemetryColumn) : Decidable (telemetry.isSet c) :=
  inferInstanceAs (Decidable (_ = true))

theorem not_isSet_iff {telemetry : TelemetryCreate} {c : TelemetryColumn} :
    ¬telemetry.isSet c ↔ telemetry.fields c = none := by
  rw [isSet, Option.not_isSome_iff_eq_none]

end TelemetryCreate

structure TelemetryBufferRecord where
  key : String
  telemetry : TelemetryCreate
  received_at : Datetime

/-- `TelemetryBufferRecord.create`: the key is `telemetry.uuid or ""`. -/
def TelemetryBufferRecord.create (telemetry : TelemetryCreate) (now : Datetime) :
    TelemetryBufferRecord where
  key := telemetry.uuid.join.getD ""
  telemetry := telemetry
  received_at := now

/-- The record was made by `create`. -/
def TelemetryBufferRecord.IsCreated (record : TelemetryBufferRecord) : Prop :=
  record = create record.telemetry record.received_at

theorem TelemetryBufferRecord.isCreated_iff {record : TelemetryBufferRecord} :
    record.IsCreated ↔ record.key = record.telemetry.uuid.join.getD "" := by
  constructor
  · intro h
    exact congrArg key h
  · intro h
    obtain ⟨key, telemetry, received_at⟩ := record
    simp only at h
    rw [IsCreated, create, h]

/-- A record of one device that sets its latitude only. -/
def TelemetryBufferRecord.ofLatitude (uuid : String) (x : Float) : TelemetryBufferRecord :=
  .create ((TelemetryCreate.blank (some (some uuid))).set .latitude (.number x) rfl)
    ⟨2026, 7, 1, 9, 0, 0, 0, by decide⟩

/-! ## Rows -/

/-- A row of the latest table as a dictionary: the `uuid` and the columns that it has. -/
structure LatestRow where
  uuid : String
  columns : TelemetryColumn → Option TelemetryValue

structure HistoryRow where
  stream_uuid : String
  latitude : TelemetryValue
  longitude : TelemetryValue
  altitude : TelemetryValue
  velocity : TelemetryValue
  epochTime : TelemetryValue
  received_at : Datetime
  deriving DecidableEq

structure TelemetryBulkPayload where
  uuid : String
  telemetry : TelemetryCreate
  received_at : Datetime

namespace TelemetryBulkPayload

def from_record (record : TelemetryBufferRecord) : Except String TelemetryBulkPayload :=
  if record.key = "" then .error "telemetry uuid is required for bulk persistence"
  else .ok ⟨record.key, record.telemetry, record.received_at⟩

def to_latest_row (payload : TelemetryBulkPayload) : LatestRow where
  uuid := payload.uuid
  columns := payload.telemetry.fields

def to_history_row (payload : TelemetryBulkPayload) : HistoryRow where
  stream_uuid := payload.uuid
  latitude := (payload.telemetry.fields .latitude).getD .null
  longitude := (payload.telemetry.fields .longitude).getD .null
  altitude := (payload.telemetry.fields .altitude).getD .null
  velocity := (payload.telemetry.fields .velocity).getD .null
  epochTime := (payload.telemetry.fields .epochTime).getD .null
  received_at := payload.received_at

/-- The payload of a record whose key is not empty. -/
def ofRecord (record : TelemetryBufferRecord) : TelemetryBulkPayload :=
  ⟨record.key, record.telemetry, record.received_at⟩

theorem from_record_eq_ok_iff {record : TelemetryBufferRecord} {payload : TelemetryBulkPayload} :
    from_record record = .ok payload ↔ record.key ≠ "" ∧ payload = ofRecord record := by
  unfold from_record
  split_ifs with h
  · simp only [h, ne_eq, not_true_eq_false, false_and]
  · simp only [Except.ok.injEq, ne_eq, h, not_false_eq_true, true_and, ofRecord, eq_comm]

end TelemetryBulkPayload

/-- The payloads of a `TelemetryBulkBatch`. -/
def TelemetryBulkBatch.from_records (records : List TelemetryBufferRecord) :
    Except String (List TelemetryBulkPayload) :=
  records.mapM TelemetryBulkPayload.from_record

namespace TelemetryBulkBatch

open TelemetryBulkPayload

def latest_rows (batch : List TelemetryBulkPayload) : List LatestRow := batch.map to_latest_row

def history_rows (batch : List TelemetryBulkPayload) : List HistoryRow :=
  batch.map to_history_row

/-- A batch is made of records that all have a key. -/
theorem from_records_eq_ok_iff {records : List TelemetryBufferRecord}
    {batch : List TelemetryBulkPayload} :
    from_records records = .ok batch ↔
      (∀ r ∈ records, r.key ≠ "") ∧ batch = records.map ofRecord := by
  rw [from_records]
  exact CheckedSteps.mapM_eq_ok_iff fun r payload => from_record_eq_ok_iff

theorem from_records_of_not_keyed {records : List TelemetryBufferRecord}
    (h : ¬∀ r ∈ records, r.key ≠ "") :
    from_records records = .error "telemetry uuid is required for bulk persistence" := by
  induction records with
  | nil => exact absurd (fun r hr => (List.not_mem_nil hr).elim) h
  | cons r records ih =>
      have hcons : from_records (r :: records) = (from_record r).bind fun payload =>
          (from_records records).bind fun batch => .ok (payload :: batch) := by
        rw [from_records, List.mapM_cons]
        rfl
      rw [hcons]
      by_cases hkey : r.key = ""
      · rw [from_record, if_pos hkey]
        rfl
      · have hrest : ¬∀ r ∈ records, r.key ≠ "" :=
          fun hrest => h (List.forall_mem_cons.2 ⟨hkey, hrest⟩)
        rw [from_record, if_neg hkey, ih hrest]
        rfl

end TelemetryBulkBatch

end GcsSaker

/-!
# The write buffer in memory

The records that wait for the database are a queue: they are drained from its front, and what
could not be stored is put back there.
-/

namespace GcsSaker

/-- `InMemoryTelemetryWriteBuffer`; its bound is the argument of `append_history`. -/
structure InMemoryTelemetryWriteBuffer where
  latest : String → Option TelemetryBufferRecord
  history : List TelemetryBufferRecord

namespace InMemoryTelemetryWriteBuffer

def empty : InMemoryTelemetryWriteBuffer := ⟨fun _ => none, []⟩

def put_latest (buffer : InMemoryTelemetryWriteBuffer) (record : TelemetryBufferRecord) :
    InMemoryTelemetryWriteBuffer :=
  { buffer with latest := Function.update buffer.latest record.key (some record) }

/-- `none` is `TelemetryBufferFullError`. -/
def append_history (max_pending_history : ℕ) (buffer : InMemoryTelemetryWriteBuffer)
    (record : TelemetryBufferRecord) : Option InMemoryTelemetryWriteBuffer :=
  if max_pending_history ≤ buffer.history.length then none
  else some { buffer with history := buffer.history ++ [record] }

def latest_for (buffer : InMemoryTelemetryWriteBuffer) (key : String) :
    Option TelemetryBufferRecord :=
  buffer.latest key

/-- The records drained and the buffer that is left. -/
def drain_history (buffer : InMemoryTelemetryWriteBuffer) (max_items : ℤ) :
    List TelemetryBufferRecord × InMemoryTelemetryWriteBuffer :=
  if max_items ≤ 0 then ([], buffer)
  else (buffer.history.take max_items.toNat,
    { buffer with history := buffer.history.drop max_items.toNat })

def restore_history_front (buffer : InMemoryTelemetryWriteBuffer)
    (records : List TelemetryBufferRecord) : InMemoryTelemetryWriteBuffer :=
  ⟨buffer.latest, records.reverse.foldl (fun queue record => record :: queue) buffer.history⟩

def pending_history_count (buffer : InMemoryTelemetryWriteBuffer) : ℕ := buffer.history.length

variable (buffer : InMemoryTelemetryWriteBuffer)

@[simp] theorem put_latest_history (record : TelemetryBufferRecord) :
    (buffer.put_latest record).history = buffer.history := rfl

theorem append_history_eq_some_iff {max_pending_history : ℕ} {record : TelemetryBufferRecord}
    {buffer' : InMemoryTelemetryWriteBuffer} :
    buffer.append_history max_pending_history record = some buffer' ↔
      buffer.history.length < max_pending_history ∧
        buffer' = ⟨buffer.latest, buffer.history ++ [record]⟩ := by
  unfold append_history
  split_ifs with hfull
  · simp only [false_iff, not_and]
    intro hlt
    omega
  · simp only [Option.some.injEq, Nat.lt_of_not_le hfull, true_and]
    exact eq_comm

theorem drain_history_append (max_items : ℤ) :
    (buffer.drain_history max_items).1 ++ (buffer.drain_history max_items).2.history =
      buffer.history := by
  unfold drain_history
  split_ifs with h
  · rfl
  · exact List.take_append_drop _ _

theorem drain_history_of_pos {max_items : ℤ} (h : 0 < max_items) :
    buffer.drain_history max_items = (buffer.history.take max_items.toNat,
      ⟨buffer.latest, buffer.history.drop max_items.toNat⟩) :=
  if_neg (Int.not_le.2 h)

@[simp] theorem drain_history_latest (max_items : ℤ) :
    (buffer.drain_history max_items).2.latest = buffer.latest := by
  unfold drain_history
  split_ifs <;> rfl

@[simp] theorem restore_history_front_history (records : List TelemetryBufferRecord) :
    (buffer.restore_history_front records).history = records ++ buffer.history := by
  rw [restore_history_front, List.foldl_reverse]
  exact List.foldr_cons_eq_append'

@[simp] theorem restore_history_front_latest (records : List TelemetryBufferRecord) :
    (buffer.restore_history_front records).latest = buffer.latest := rfl

end InMemoryTelemetryWriteBuffer

end GcsSaker
