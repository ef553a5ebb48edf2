import GcsSaker.Machines
import GcsSaker.TelemetryRecord

/-!
# The write buffer in Redis

The buffer in Redis keeps every record as JSON. What is read back has all fields set, those that
were never set to null, so the rows of a record survive only when it sets every field.
-/

namespace GcsSaker

open IsoDatetime (Datetime)
open TelemetryColumn (LATEST_ROW_COLUMNS)

/-- A value of `json.loads`; `json.dumps` writes it as text that is read back as itself. -/
inductive JsonValue where
  | null
  | number (x : Float)
  | integer (n : ℤ)
  | string (s : String)
  | object (members : List (String × JsonValue))

/-- What a float holds after the dump and the text: null is `none`. Finite numbers are carried. -/
structure FloatCodec where
  carried : Float → Option Float
  carried_of_isFinite : ∀ x, x.isFinite = true → carried x = some x

namespace JsonValue

/-- `payload[name]`. -/
def get (v : JsonValue) (name : String) : Except String JsonValue :=
  match v with
  | .object members => match members.lookup name with
    | some v => .ok v
    | none => .error name
  | _ => .error name

def text : JsonValue → Except String String
  | .string s => .ok s
  | _ => .error "str"

end JsonValue

namespace TelemetryCreate

/-- `model_dump(mode="json")` of one value. -/
def dumpValue (codec : FloatCodec) : TelemetryValue → JsonValue
  | .null => .null
  | .number x => match codec.carried x with
    | some y => .number y
    | none => .null
  | .text s => .string s
  | .integer n => .integer n

def dumpUuid : Option String → JsonValue
  | some uuid => .string uuid
  | none => .null

/-- `model_dump(mode="json", by_alias=True)`: every field, set or not. -/
def model_dump (codec : FloatCodec) (telemetry : TelemetryCreate) : List (String × JsonValue) :=
  ("uuid", dumpUuid telemetry.uuid.join) :: LATEST_ROW_COLUMNS.map fun c =>
    (c.storageName, dumpValue codec ((telemetry.fields c).getD .null))

/-- The value of a field that is present, of the field's type. -/
def readValue : TelemetryColumn.Kind → JsonValue → Option TelemetryValue
  | _, .null => some .null
  | .number, .number x => some (.number x)
  | .number, .integer n => some (.number (Float.ofInt n))
  | .integer, .integer n => some (.integer n)
  | .text, .string s => some (.text s)
  | _, _ => none

theorem fits_of_readValue {kind : TelemetryColumn.Kind} {j : JsonValue} {v : TelemetryValue}
    (h : readValue kind j = some v) : v.fits kind = true := by
  cases kind <;> cases j <;> simp only [readValue, Option.some.injEq, reduceCtorEq] at h <;>
    subst h <;> rfl

/-- A field by its alias or else by its name; the outer `none` is a validation error, the inner one
a field that is not set. -/
def readField (members : List (String × JsonValue)) (c : TelemetryColumn) :
    Option (Option TelemetryValue) :=
  match (members.lookup c.storageName).or (members.lookup c.attributeName) with
  | none => some none
  | some j => (readValue c.kind j).map some

def readUuid (members : List (String × JsonValue)) : Option (Option (Option String)) :=
  match members.lookup "uuid" with
  | none => some none
  | some .null => some (some none)
  | some (.string uuid) => some (some (some uuid))
  | some _ => none

def model_validate (members : List (String × JsonValue)) : Except String TelemetryCreate :=
  match readUuid members with
  | none => .error "uuid"
  | some uuid =>
    if ∀ c, (readField members c).isSome = true then
      .ok {
        uuid := uuid
        fields := fun c => (readField members c).join
        typed := by
          intro c v hv
          rw [Option.join_eq_some_iff] at hv
          unfold readField at hv
          split at hv
          · simp only [Option.some.injEq, reduceCtorEq] at hv
          · simp only [Option.map_eq_some_iff, Option.some.injEq, exists_eq_right] at hv
            exact fits_of_readValue hv }
    else .error "telemetry"

end TelemetryCreate

def serialize_record (codec : FloatCodec) (record : TelemetryBufferRecord) : JsonValue :=
  .object [("key", .string record.key), ("received_at", .string record.received_at.isoformat),
    ("telemetry", .object (record.telemetry.model_dump codec))]

def deserialize_record (payload : JsonValue) : Except String TelemetryBufferRecord := do
  let key ← (← payload.get "key").text
  let received_at ← (← payload.get "received_at").text
  match Datetime.fromisoformat received_at, ← payload.get "telemetry" with
  | some received_at, .object members =>
    let telemetry ← TelemetryCreate.model_validate members
    return ⟨key, telemetry, received_at⟩
  | _, _ => .error "telemetry"

/-! ## What comes back -/

namespace TelemetryCreate

/-- What a value is when it is read back. -/
def carriedValue (codec : FloatCodec) : TelemetryValue → TelemetryValue
  | .number x => match codec.carried x with
    | some y => .number y
    | none => .null
  | v => v

theorem fits_carriedValue (codec : FloatCodec) {v : TelemetryValue} {kind : TelemetryColumn.Kind}
    (hv : v.fits kind = true) : (carriedValue codec v).fits kind = true := by
  cases v with
  | number x =>
      cases hx : codec.carried x with
      | none => simp only [carriedValue, hx, TelemetryValue.fits]
      | some y =>
          simp only [carriedValue, hx]
          cases kind with
          | number => rfl
          | text => cases hv
          | integer => cases hv
  | null => exact hv
  | text s => exact hv
  | integer n => exact hv

theorem readValue_dumpValue (codec : FloatCodec) {v : TelemetryValue}
    {kind : TelemetryColumn.Kind} (hv : v.fits kind = true) :
    readValue kind (dumpValue codec v) = some (carriedValue codec v) := by
  cases v with
  | null => cases kind <;> rfl
  | number x =>
      cases kind with
      | number =>
          cases hx : codec.carried x with
          | none => simp only [dumpValue, carriedValue, hx, readValue]
          | some y => simp only [dumpValue, carriedValue, hx, readValue]
      | text => cases hv
      | integer => cases hv
  | text s =>
      cases kind with
      | text => rfl
      | number => cases hv
      | integer => cases hv
  | integer n =>
      cases kind with
      | integer => rfl
      | number => cases hv
      | text => cases hv

/-- The telemetry that is read back: every field is set, those that were not set to null. -/
def reread (codec : FloatCodec) (telemetry : TelemetryCreate) : TelemetryCreate where
  uuid := some telemetry.uuid.join
  fields := fun c => some (carriedValue codec ((telemetry.fields c).getD .null))
  typed := by
    intro c v hv
    rw [Option.some.injEq] at hv
    rw [← hv]
    apply fits_carriedValue
    cases hc : telemetry.fields c with
    | none => rfl
    | some w => exact telemetry.typed c w hc

theorem lookup_model_dump (codec : FloatCodec) (telemetry : TelemetryCreate)
    (c : TelemetryColumn) :
    (telemetry.model_dump codec).lookup c.storageName =
      some (dumpValue codec ((telemetry.fields c).getD .null)) := by
  cases c <;> rfl

theorem readField_model_dump (codec : FloatCodec) (telemetry : TelemetryCreate)
    (c : TelemetryColumn) :
    readField (telemetry.model_dump codec) c =
      some (some (carriedValue codec ((telemetry.fields c).getD .null))) := by
  have hfits : ((telemetry.fields c).getD .null).fits c.kind = true := by
    cases hc : telemetry.fields c with
    | none => rfl
    | some v => exact telemetry.typed c v hc
  rw [readField, lookup_model_dump, Option.some_or]
  simp only [readValue_dumpValue codec hfits, Option.map_some]

theorem readUuid_model_dump (codec : FloatCodec) (telemetry : TelemetryCreate) :
    readUuid (telemetry.model_dump codec) = some (some telemetry.uuid.join) := by
  cases hu : telemetry.uuid.join with
  | none => simp only [readUuid, model_dump, hu, dumpUuid, List.lookup_cons_self]
  | some uuid => simp only [readUuid, model_dump, hu, dumpUuid, List.lookup_cons_self]

theorem model_validate_model_dump (codec : FloatCodec) (telemetry : TelemetryCreate) :
    model_validate (telemetry.model_dump codec) = .ok (telemetry.reread codec) := by
  have hall : ∀ c, (readField (telemetry.model_dump codec) c).isSome = true := by
    intro c
    rw [readField_model_dump, Option.isSome_some]
  simp only [model_validate, readUuid_model_dump, if_pos hall, Except.ok.injEq]
  apply TelemetryCreate.ext
  · rfl
  · funext c
    simp only [readField_model_dump, Option.join_some, reread]

/-- Every field is set, and every float survives: such telemetry is read back with its fields. -/
def Survives (codec : FloatCodec) (telemetry : TelemetryCreate) : Prop :=
  ∀ c, ∃ v, telemetry.fields c = some v ∧ ∀ x, v = .number x → codec.carried x = some x

theorem carriedValue_eq_iff (codec : FloatCodec) (v : TelemetryValue) :
    carriedValue codec v = v ↔ ∀ x, v = .number x → codec.carried x = some x := by
  cases v with
  | number x =>
      simp only [TelemetryValue.number.injEq, forall_eq']
      cases hx : codec.carried x with
      | none => simp only [carriedValue, hx, reduceCtorEq]
      | some y => simp only [carriedValue, hx, TelemetryValue.number.injEq, Option.some.injEq]
  | null => simp only [carriedValue, reduceCtorEq, false_implies, implies_true]
  | text s => simp only [carriedValue, reduceCtorEq, false_implies, implies_true]
  | integer n => simp only [carriedValue, reduceCtorEq, false_implies, implies_true]

theorem reread_fields_eq_iff (codec : FloatCodec) (telemetry : TelemetryCreate) :
    (telemetry.reread codec).fields = telemetry.fields ↔ telemetry.Survives codec := by
  constructor
  · intro h c
    have hc : some (carriedValue codec ((telemetry.fields c).getD .null)) = telemetry.fields c :=
      congrFun h c
    cases hv : telemetry.fields c with
    | none => simp only [hv, reduceCtorEq] at hc
    | some v =>
        rw [hv, Option.getD_some, Option.some.injEq] at hc
        exact ⟨v, rfl, (carriedValue_eq_iff codec v).1 hc⟩
  · intro h
    funext c
    obtain ⟨v, hv, hcarried⟩ := h c
    have hc : carriedValue codec v = v := (carriedValue_eq_iff codec v).2 hcarried
    simp only [reread, hv, Option.getD_some, hc]

end TelemetryCreate

/-- The record that is read back from what `serialize_record` writes. -/
def TelemetryBufferRecord.reread (codec : FloatCodec) (record : TelemetryBufferRecord) :
    TelemetryBufferRecord :=
  ⟨record.key, record.telemetry.reread codec, record.received_at⟩

theorem deserialize_record_serialize_record (codec : FloatCodec)
    (record : TelemetryBufferRecord) :
    deserialize_record (serialize_record codec record) = .ok (record.reread codec) := by
  have hkey : (serialize_record codec record).get "key" = .ok (.string record.key) := rfl
  have hreceived : (serialize_record codec record).get "received_at" =
      .ok (.string record.received_at.isoformat) := rfl
  have htelemetry : (serialize_record codec record).get "telemetry" =
      .ok (.object (record.telemetry.model_dump codec)) := rfl
  simp only [deserialize_record, hkey, hreceived, htelemetry, JsonValue.text,
    Datetime.fromisoformat_isoformat, TelemetryCreate.model_validate_model_dump, bind,
    Except.bind, pure, Except.pure]
  rfl

/-! ## The buffer -/

/-- The strings and the lists of a Redis server. -/
structure RedisListClient where
  values : String → Option JsonValue
  lists : String → List JsonValue

namespace RedisListClient

variable (client : RedisListClient)

def set (name : String) (value : JsonValue) : RedisListClient :=
  ⟨Function.update client.values name (some value), client.lists⟩

def rpush (name : String) (value : JsonValue) : RedisListClient :=
  ⟨client.values, Function.update client.lists name (client.lists name ++ [value])⟩

/-- Up to `count` values from the head; a list that is not there gives none. -/
def lpop (name : String) (count : ℕ) : Option (List JsonValue) × RedisListClient :=
  if (client.lists name).isEmpty then (none, client)
  else (some ((client.lists name).take count),
    ⟨client.values, Function.update client.lists name ((client.lists name).drop count)⟩)

/-- Each value in turn becomes the head of the list. -/
def lpush (name : String) (values : List JsonValue) : RedisListClient :=
  ⟨client.values, Function.update client.lists name
    (values.foldl (fun list value => value :: list) (client.lists name))⟩

end RedisListClient

structure RedisTelemetryBufferConfig where
  key_prefix : String

namespace RedisTelemetryBufferConfig

variable (config : RedisTelemetryBufferConfig)

def history_queue_key : String := config.key_prefix ++ ":" ++ "history"

def latest_key (stream_key : String) : String :=
  config.key_prefix ++ ":" ++ "latest" ++ ":" ++ stream_key

theorem latest_key_injective {key key' : String}
    (h : config.latest_key key = config.latest_key key') : key = key' := by
  have hl := congrArg String.toList h
  simp only [latest_key, String.toList_append, List.append_cancel_left_eq] at hl
  exact String.toList_inj.1 hl

end RedisTelemetryBufferConfig

namespace RedisTelemetryWriteBuffer

variable (config : RedisTelemetryBufferConfig) (codec : FloatCodec) (client : RedisListClient)

def put_latest (record : TelemetryBufferRecord) : RedisListClient :=
  client.set (config.latest_key record.key) (serialize_record codec record)

def append_history (record : TelemetryBufferRecord) : RedisListClient :=
  client.rpush config.history_queue_key (serialize_record codec record)

def latest_for (key : String) : Except String (Option TelemetryBufferRecord) :=
  match client.values (config.latest_key key) with
  | none => .ok none
  | some value => (deserialize_record value).map some

/-- `popped_values`. -/
def popped_values (values : Option (List JsonValue)) : List JsonValue := values.getD []

def drain_history (max_items : ℤ) : Except String (List TelemetryBufferRecord) × RedisListClient :=
  if max_items ≤ 0 then (.ok [], client)
  else
    let (values, client) := client.lpop config.history_queue_key max_items.toNat
    ((popped_values values).mapM deserialize_record, client)

def restore_history_front (records : List TelemetryBufferRecord) : RedisListClient :=
  let serialized := records.reverse.map (serialize_record codec)
  if serialized.isEmpty then client else client.lpush config.history_queue_key serialized

@[simp] theorem append_history_lists (record : TelemetryBufferRecord) :
    (append_history config codec client record).lists config.history_queue_key =
      client.lists config.history_queue_key ++ [serialize_record codec record] := by
  simp only [append_history, RedisListClient.rpush, Function.update_self]

@[simp] theorem restore_history_front_values (records : List TelemetryBufferRecord) :
    (restore_history_front config codec client records).values = client.values := by
  unfold restore_history_front
  dsimp only
  split_ifs <;> rfl

@[simp] theorem restore_history_front_lists (records : List TelemetryBufferRecord) :
    (restore_history_front config codec client records).lists config.history_queue_key =
      records.map (serialize_record codec) ++ client.lists config.history_queue_key := by
  have hpushed : (records.reverse.map (serialize_record codec)).foldl
        (fun list value => value :: list) (client.lists config.history_queue_key) =
      records.map (serialize_record codec) ++ client.lists config.history_queue_key := by
    rw [List.map_reverse, List.foldl_reverse]
    exact List.foldr_cons_eq_append'
  unfold restore_history_front
  dsimp only
  split_ifs with hempty
  · rw [List.isEmpty_iff, List.map_eq_nil_iff, List.reverse_eq_nil_iff] at hempty
    rw [hempty, List.map_nil, List.nil_append]
  · simp only [RedisListClient.lpush, Function.update_self, hpushed]

/-- What is popped is read back; the rest stays in the list. -/
theorem drain_history_of_pos {max_items : ℤ} (h : 0 < max_items) :
    (drain_history config client max_items).1 =
        ((client.lists config.history_queue_key).take max_items.toNat).mapM deserialize_record ∧
      (drain_history config client max_items).2.values = client.values ∧
      (drain_history config client max_items).2.lists config.history_queue_key =
        (client.lists config.history_queue_key).drop max_items.toNat := by
  rw [drain_history, if_neg (Int.not_le.2 h), RedisListClient.lpop]
  by_cases hempty : client.lists config.history_queue_key = []
  · rw [if_pos (List.isEmpty_iff.2 hempty), hempty]
    refine ⟨?_, rfl, ?_⟩
    · rw [List.take_nil]
      rfl
    · rw [List.drop_nil, ← hempty]
  · rw [if_neg fun he => hempty (List.isEmpty_iff.1 he)]
    exact ⟨rfl, rfl, Function.update_self ..⟩

end RedisTelemetryWriteBuffer

end GcsSaker
