import GcsSaker.DeviceLifecycle
import GcsSaker.PostgresColumns

/-!
# The metadata tables

`JdbcRegisteredDeviceMetadataDao.synchronize`: the sensors and the streams of a device that are
stored are compared with the desired ones, and the difference is deleted, inserted and updated. The
two tables have the same shape. The row of the device, which their rows refer to, has been written
before in the same transaction. `ORDER BY` is left out: nothing below depends on the order.
-/

namespace GcsSaker.Devices

open Groups (Thrown)
open PostgresColumns (Fits varchar varchar_of_fits varchar_eq_some_iff clipped clipped_of_le
  textParameter)

structure MetadataRow where
  deviceUuid : String
  identity : String
  kind : String
  status : String
  createdAt : ℤ
  updatedAt : ℤ
  deriving DecidableEq

/-- The primary key. -/
def MetadataRow.key (row : MetadataRow) : String × String := (row.deviceUuid, row.identity)

/-- What a table holds of a device, with the constructor and the lengths of the columns. -/
structure MetadataKind (τ : Type) where
  identity : τ → String
  kind : τ → String
  status : τ → String
  make : String → String → String → Except Thrown τ
  make_eq_ok_iff : ∀ i k s x, make i k s = .ok x ↔ identity x = i ∧ kind x = k ∧ status x = s
  exists_make_iff : ∀ i k s, (∃ x, make i k s = .ok x) ↔
    JvmText.isBlank i = false ∧ JvmText.isBlank k = false ∧ JvmText.isBlank s = false
  identityLimit : ℕ
  kindLimit : ℕ
  statusLimit : ℕ

def newSensor (sensorId sensorType status : String) : Except Thrown RegisteredDeviceSensor := do
  let ⟨sensorId, sensorIdNotBlank⟩ ← label "sensor id must not be blank" sensorId
  let ⟨sensorType, sensorTypeNotBlank⟩ ← label "sensor type must not be blank" sensorType
  let ⟨status, statusNotBlank⟩ ← label "sensor status must not be blank" status
  return ⟨sensorId, sensorType, status, sensorIdNotBlank, sensorTypeNotBlank, statusNotBlank⟩

theorem newSensor_eq_ok_iff (i k s : String) (x : RegisteredDeviceSensor) :
    newSensor i k s = .ok x ↔ x.sensorId = i ∧ x.sensorType = k ∧ x.status = s := by
  simp only [newSensor, label_bind_eq_ok_iff, pure, Except.pure, Except.ok.injEq]
  constructor
  · rintro ⟨_, _, _, rfl⟩
    exact ⟨rfl, rfl, rfl⟩
  · rintro ⟨rfl, rfl, rfl⟩
    exact ⟨x.sensorIdNotBlank, x.sensorTypeNotBlank, x.statusNotBlank, rfl⟩

theorem exists_newSensor_iff (i k s : String) : (∃ x, newSensor i k s = .ok x) ↔
    JvmText.isBlank i = false ∧ JvmText.isBlank k = false ∧ JvmText.isBlank s = false := by
  simp only [newSensor_eq_ok_iff]
  constructor
  · rintro ⟨x, rfl, rfl, rfl⟩
    exact ⟨x.sensorIdNotBlank, x.sensorTypeNotBlank, x.statusNotBlank⟩
  · rintro ⟨hi, hk, hs⟩
    exact ⟨⟨i, k, s, hi, hk, hs⟩, rfl, rfl, rfl⟩

theorem newStream_eq_ok_iff (i k s : String) (x : RegisteredDeviceStream) :
    newStream i k s = .ok x ↔ x.streamPath = i ∧ x.kind = k ∧ x.status = s := by
  simp only [newStream, label_bind_eq_ok_iff, pure, Except.pure, Except.ok.injEq]
  constructor
  · rintro ⟨_, _, _, rfl⟩
    exact ⟨rfl, rfl, rfl⟩
  · rintro ⟨rfl, rfl, rfl⟩
    exact ⟨x.streamPathNotBlank, x.kindNotBlank, x.statusNotBlank, rfl⟩

theorem exists_newStream_iff (i k s : String) : (∃ x, newStream i k s = .ok x) ↔
    JvmText.isBlank i = false ∧ JvmText.isBlank k = false ∧ JvmText.isBlank s = false := by
  simp only [newStream_eq_ok_iff]
  constructor
  · rintro ⟨x, rfl, rfl, rfl⟩
    exact ⟨x.streamPathNotBlank, x.kindNotBlank, x.statusNotBlank⟩
  · rintro ⟨hi, hk, hs⟩
    exact ⟨⟨i, k, s, hi, hk, hs⟩, rfl, rfl, rfl⟩

namespace MetadataKind

def sensors : MetadataKind RegisteredDeviceSensor where
  identity := RegisteredDeviceSensor.sensorId
  kind := RegisteredDeviceSensor.sensorType
  status := RegisteredDeviceSensor.status
  make := newSensor
  make_eq_ok_iff := newSensor_eq_ok_iff
  exists_make_iff := exists_newSensor_iff
  identityLimit := 128
  kindLimit := 64
  statusLimit := 32

def streams : MetadataKind RegisteredDeviceStream where
  identity := RegisteredDeviceStream.streamPath
  kind := RegisteredDeviceStream.kind
  status := RegisteredDeviceStream.status
  make := newStream
  make_eq_ok_iff := newStream_eq_ok_iff
  exists_make_iff := exists_newStream_iff
  identityLimit := 256
  kindLimit := 32
  statusLimit := 32

end MetadataKind

/-! ## The statements -/

def dataAccessException : Thrown := .runtime "DataAccessException"

def orDataAccess {α : Type} : Option α → Except Thrown α
  | some value => .ok value
  | none => .error dataAccessException

theorem orDataAccess_eq_ok_iff {α : Type} {value? : Option α} {value : α} :
    orDataAccess value? = .ok value ↔ value? = some value := by
  cases value? with
  | none => exact iff_of_false (fun h => nomatch h) fun h => nomatch h
  | some value' => rw [orDataAccess, Except.ok.injEq, Option.some.injEq]

inductive MetadataWrite where
  | delete (identity : String)
  | insert (identity kind status : String)
  | update (identity kind status : String)
  deriving DecidableEq

def MetadataWrite.identity : MetadataWrite → String
  | .delete identity => identity
  | .insert identity _ _ => identity
  | .update identity _ _ => identity

section Statements

variable {τ : Type} (kind : MetadataKind τ) (deviceUuid : String) (now : ℤ)

/-- The rows of the device, none if one of them is not what the constructor takes. -/
def select (table : List MetadataRow) : Except Thrown (List τ) := do
  let uuid ← orDataAccess (textParameter deviceUuid)
  (table.filter (·.deviceUuid = uuid)).mapM fun row => kind.make row.identity row.kind row.status

/-- One statement of a batch, none where it fails. -/
def write (table : List MetadataRow) : MetadataWrite → Option (List MetadataRow)
  | .delete identity => do
    let uuid ← textParameter deviceUuid
    let identity ← textParameter identity
    some (table.filter fun row => row.key ≠ (uuid, identity))
  | .insert identity rowKind status => do
    let uuid ← varchar 128 deviceUuid
    let identity ← varchar kind.identityLimit identity
    let rowKind ← varchar kind.kindLimit rowKind
    let status ← varchar kind.statusLimit status
    if (uuid, identity) ∈ table.map MetadataRow.key then none
    else some (table ++ [⟨uuid, identity, rowKind, status, now, now⟩])
  | .update identity rowKind status => do
    let rowKind ← varchar kind.kindLimit rowKind
    let status ← varchar kind.statusLimit status
    let uuid ← textParameter deviceUuid
    let identity ← textParameter identity
    some (table.map fun row =>
      if row.key = (uuid, identity) then { row with kind := rowKind, status, updatedAt := now }
      else row)

/-- The three batches, in their order. -/
def DeviceMetadataDelta.writes (delta : DeviceMetadataDelta τ) : List MetadataWrite :=
  delta.removed.map .delete ++
    delta.inserted.map (fun x => .insert (kind.identity x) (kind.kind x) (kind.status x)) ++
      delta.updated.map fun x => .update (kind.identity x) (kind.kind x) (kind.status x)

def writeAll (table : List MetadataRow) (writes : List MetadataWrite) :
    Option (List MetadataRow) :=
  writes.foldlM (write kind deviceUuid now) table

end Statements

structure MetadataTables where
  registeredDeviceSensors : List MetadataRow
  registeredDeviceStreams : List MetadataRow
  deriving DecidableEq

def JdbcRegisteredDeviceMetadataDao.synchronize (tables : MetadataTables) (deviceUuid : String)
    (desiredSensors : List RegisteredDeviceSensor) (desiredStreams : List RegisteredDeviceStream)
    (now : ℤ) : Except Thrown MetadataTables := do
  let currentSensors ← select .sensors deviceUuid tables.registeredDeviceSensors
  let sensors ← DeviceMetadataDelta.between RegisteredDeviceSensor.sensorId currentSensors
    desiredSensors
  let currentStreams ← select .streams deviceUuid tables.registeredDeviceStreams
  let streams ← DeviceMetadataDelta.between RegisteredDeviceStream.streamPath currentStreams
    desiredStreams
  let registeredDeviceSensors ← orDataAccess <|
    writeAll .sensors deviceUuid now tables.registeredDeviceSensors (sensors.writes .sensors)
  let registeredDeviceStreams ← orDataAccess <|
    writeAll .streams deviceUuid now tables.registeredDeviceStreams (streams.writes .streams)
  return { registeredDeviceSensors, registeredDeviceStreams }

/-! ## Running the batches -/

section Batches

variable {τ : Type} {kind : MetadataKind τ} {deviceUuid : String} {now : ℤ}
variable {table table' : List MetadataRow}

/-- The columns of the table take the texts as they are. -/
structure MetadataKind.Takes (kind : MetadataKind τ) (x : τ) : Prop where
  identity : Fits kind.identityLimit (kind.identity x)
  status : Fits kind.statusLimit (kind.status x)
  kind : Fits kind.kindLimit (kind.kind x)

/-- The columns take the texts, without the spaces that are too many. -/
structure MetadataKind.Admits (kind : MetadataKind τ) (x : τ) : Prop where
  status : (varchar kind.statusLimit (kind.status x)).isSome = true
  kind : (varchar kind.kindLimit (kind.kind x)).isSome = true

def insertedRow (kind : MetadataKind τ) (deviceUuid : String) (now : ℤ) (x : τ) : MetadataRow :=
  ⟨deviceUuid, clipped kind.identityLimit (kind.identity x),
    clipped kind.kindLimit (kind.kind x), clipped kind.statusLimit (kind.status x), now, now⟩

def updatedRow (kind : MetadataKind τ) (now : ℤ) (x : τ) (row : MetadataRow) : MetadataRow :=
  { row with
    kind := clipped kind.kindLimit (kind.kind x)
    status := clipped kind.statusLimit (kind.status x)
    updatedAt := now }

theorem textParameter_of_fits {limit : ℕ} {text : String} (h : Fits limit text) :
    textParameter text = some text := if_neg h.2

theorem isSome_of_fits {limit : ℕ} {text : String} (h : Fits limit text) :
    (varchar limit text).isSome = true := by
  rw [varchar_of_fits h]
  rfl

theorem MetadataKind.Takes.admits {x : τ} (h : kind.Takes x) : kind.Admits x :=
  ⟨isSome_of_fits h.status, isSome_of_fits h.kind⟩

theorem write_delete_iff (huuid : Fits 128 deviceUuid) {identity : String} :
    write kind deviceUuid now table (.delete identity) = some table' ↔
      textParameter identity = some identity ∧
        table' = table.filter fun row => row.key ≠ (deviceUuid, identity) := by
  simp only [write, textParameter_of_fits huuid, Option.bind_eq_bind, Option.bind_some,
    Option.bind_eq_some_iff]
  constructor
  · rintro ⟨text, htext, h⟩
    obtain rfl := PostgresColumns.text_of_textParameter htext
    exact ⟨htext, (Option.some.inj h).symm⟩
  · rintro ⟨htext, rfl⟩
    exact ⟨identity, htext, rfl⟩

/-- The primary key takes no second row. -/
theorem write_insert_iff (huuid : Fits 128 deviceUuid) {x : τ} :
    write kind deviceUuid now table (.insert (kind.identity x) (kind.kind x) (kind.status x)) =
        some table' ↔
      (varchar kind.identityLimit (kind.identity x)).isSome = true ∧ kind.Admits x ∧
        (insertedRow kind deviceUuid now x).key ∉ table.map MetadataRow.key ∧
        table' = table ++ [insertedRow kind deviceUuid now x] := by
  simp only [write, varchar_of_fits huuid, Option.bind_eq_bind, Option.bind_some,
    Option.bind_eq_some_iff]
  constructor
  · rintro ⟨i, hi, k, hk, s, hs, h⟩
    obtain ⟨hi', rfl⟩ := varchar_eq_some_iff.1 hi
    obtain ⟨hk', rfl⟩ := varchar_eq_some_iff.1 hk
    obtain ⟨hs', rfl⟩ := varchar_eq_some_iff.1 hs
    split_ifs at h with hmem
    exact ⟨hi', ⟨hs', hk'⟩, hmem, (Option.some.inj h).symm⟩
  · rintro ⟨hi, h, hmem, rfl⟩
    exact ⟨_, varchar_eq_some_iff.2 ⟨hi, rfl⟩, _, varchar_eq_some_iff.2 ⟨h.kind, rfl⟩, _,
      varchar_eq_some_iff.2 ⟨h.status, rfl⟩, if_neg hmem⟩

theorem write_update_iff (huuid : Fits 128 deviceUuid) {x : τ} :
    write kind deviceUuid now table (.update (kind.identity x) (kind.kind x) (kind.status x)) =
        some table' ↔
      textParameter (kind.identity x) = some (kind.identity x) ∧ kind.Admits x ∧
        table' = table.map fun row =>
          if row.key = (deviceUuid, kind.identity x) then updatedRow kind now x row else row := by
  simp only [write, textParameter_of_fits huuid, Option.bind_eq_bind, Option.bind_some,
    Option.bind_eq_some_iff]
  constructor
  · rintro ⟨k, hk, s, hs, i, hi, h⟩
    obtain ⟨hk', rfl⟩ := varchar_eq_some_iff.1 hk
    obtain ⟨hs', rfl⟩ := varchar_eq_some_iff.1 hs
    obtain rfl := PostgresColumns.text_of_textParameter hi
    exact ⟨hi, ⟨hs', hk'⟩, (Option.some.inj h).symm⟩
  · rintro ⟨hi, h, rfl⟩
    exact ⟨_, varchar_eq_some_iff.2 ⟨h.kind, rfl⟩, _, varchar_eq_some_iff.2 ⟨h.status, rfl⟩, _, hi,
      rfl⟩

theorem writeAll_cons_iff {w : MetadataWrite} {writes : List MetadataWrite} :
    writeAll kind deviceUuid now table (w :: writes) = some table' ↔
      ∃ mid, write kind deviceUuid now table w = some mid ∧
        writeAll kind deviceUuid now mid writes = some table' := by
  rw [writeAll, List.foldlM_cons]
  exact Option.bind_eq_some_iff

theorem writeAll_append_iff {writes writes' : List MetadataWrite} :
    writeAll kind deviceUuid now table (writes ++ writes') = some table' ↔
      ∃ mid, writeAll kind deviceUuid now table writes = some mid ∧
        writeAll kind deviceUuid now mid writes' = some table' := by
  rw [writeAll, List.foldlM_append]
  exact Option.bind_eq_some_iff

/-- The rows that the deletions leave. -/
def kept (deviceUuid : String) (removed : List String) (table : List MetadataRow) :
    List MetadataRow :=
  table.filter fun row => ¬ (row.deviceUuid = deviceUuid ∧ row.identity ∈ removed)

theorem writeAll_deletes_iff (huuid : Fits 128 deviceUuid) {removed : List String} :
    writeAll kind deviceUuid now table (removed.map .delete) = some table' ↔
      (∀ identity ∈ removed, textParameter identity = some identity) ∧
        table' = kept deviceUuid removed table := by
  induction removed generalizing table with
  | nil =>
      have hall : kept deviceUuid [] table = table :=
        List.filter_eq_self.2 fun row _ => decide_eq_true fun h => List.not_mem_nil h.2
      rw [hall]
      exact ⟨fun h => ⟨fun _ hx => (List.not_mem_nil hx).elim, (Option.some.inj h).symm⟩,
        fun h => congrArg some h.2.symm⟩
  | cons identity removed ih =>
      have hsplit : kept deviceUuid removed
          (table.filter fun row => row.key ≠ (deviceUuid, identity)) =
            kept deviceUuid (identity :: removed) table := by
        rw [kept, kept, List.filter_filter]
        refine List.filter_congr fun row _ => ?_
        rw [← Bool.decide_and]
        refine decide_eq_decide.2 ?_
        rw [MetadataRow.key, ne_eq, Prod.mk.injEq, List.mem_cons]
        tauto
      rw [List.map_cons, writeAll_cons_iff, List.forall_mem_cons, ← hsplit]
      constructor
      · rintro ⟨mid, hfirst, hrest⟩
        obtain ⟨htext, rfl⟩ := (write_delete_iff huuid).1 hfirst
        obtain ⟨htexts, rfl⟩ := ih.1 hrest
        exact ⟨⟨htext, htexts⟩, rfl⟩
      · rintro ⟨⟨htext, htexts⟩, rfl⟩
        exact ⟨_, (write_delete_iff huuid).2 ⟨htext, rfl⟩, ih.2 ⟨htexts, rfl⟩⟩

theorem writeAll_inserts_iff (huuid : Fits 128 deviceUuid) {inserted : List τ}
    (htable : (table.map MetadataRow.key).Nodup) :
    writeAll kind deviceUuid now table
        (inserted.map fun x => .insert (kind.identity x) (kind.kind x) (kind.status x)) =
        some table' ↔
      (∀ x ∈ inserted, (varchar kind.identityLimit (kind.identity x)).isSome = true ∧
        kind.Admits x) ∧
        ((table ++ inserted.map (insertedRow kind deviceUuid now)).map MetadataRow.key).Nodup ∧
        table' = table ++ inserted.map (insertedRow kind deviceUuid now) := by
  induction inserted generalizing table with
  | nil =>
      rw [List.map_nil, List.map_nil, List.append_nil]
      exact ⟨fun h => ⟨fun _ hx => (List.not_mem_nil hx).elim, htable, (Option.some.inj h).symm⟩,
        fun h => congrArg some h.2.2.symm⟩
  | cons x inserted ih =>
      rw [List.map_cons, writeAll_cons_iff, List.forall_mem_cons, List.map_cons,
        List.append_cons table]
      constructor
      · rintro ⟨mid, hfirst, hrest⟩
        obtain ⟨hidentity, hx, hnew, rfl⟩ := (write_insert_iff huuid).1 hfirst
        have hmid : ((table ++ [insertedRow kind deviceUuid now x]).map MetadataRow.key).Nodup := by
          rw [List.map_append, List.map_singleton, List.nodup_append]
          refine ⟨htable, List.nodup_singleton _, fun key hkey key' hkey' heq => hnew ?_⟩
          rw [List.mem_singleton.1 hkey'] at heq
          exact heq ▸ hkey
        obtain ⟨hadmits, hnodup, rfl⟩ := (ih hmid).1 hrest
        exact ⟨⟨⟨hidentity, hx⟩, hadmits⟩, hnodup, rfl⟩
      · rintro ⟨⟨⟨hidentity, hx⟩, hadmits⟩, hnodup, rfl⟩
        have hmid : ((table ++ [insertedRow kind deviceUuid now x]).map MetadataRow.key).Nodup := by
          rw [List.map_append] at hnodup
          exact hnodup.of_append_left
        have hnew : (insertedRow kind deviceUuid now x).key ∉ table.map MetadataRow.key := by
          rw [List.map_append, List.nodup_append] at hmid
          exact fun hmem => hmid.2.2 _ hmem _ (List.mem_map_of_mem List.mem_cons_self) rfl
        exact ⟨_, (write_insert_iff huuid).2 ⟨hidentity, hx, hnew, rfl⟩,
          (ih hmid).2 ⟨hadmits, hnodup, rfl⟩⟩

/-- What the updates make of a row. -/
def edited (kind : MetadataKind τ) (deviceUuid : String) (now : ℤ) (updated : List τ)
    (row : MetadataRow) : MetadataRow :=
  updated.foldl (fun row x =>
    if row.key = (deviceUuid, kind.identity x) then updatedRow kind now x row else row) row

theorem writeAll_updates_iff (huuid : Fits 128 deviceUuid) {updated : List τ} :
    writeAll kind deviceUuid now table
        (updated.map fun x => .update (kind.identity x) (kind.kind x) (kind.status x)) =
        some table' ↔
      (∀ x ∈ updated, textParameter (kind.identity x) = some (kind.identity x) ∧ kind.Admits x) ∧
        table' = table.map (edited kind deviceUuid now updated) := by
  induction updated generalizing table with
  | nil =>
      have hmap : table.map (edited kind deviceUuid now []) = table := List.map_id table
      rw [hmap]
      exact ⟨fun h => ⟨fun _ hx => (List.not_mem_nil hx).elim, (Option.some.inj h).symm⟩,
        fun h => congrArg some h.2.symm⟩
  | cons x updated ih =>
      have hmap : table.map (edited kind deviceUuid now (x :: updated)) =
          (table.map fun row => if row.key = (deviceUuid, kind.identity x) then
            updatedRow kind now x row else row).map (edited kind deviceUuid now updated) := by
        rw [List.map_map]
        rfl
      rw [List.map_cons, writeAll_cons_iff, List.forall_mem_cons, hmap]
      constructor
      · rintro ⟨mid, hfirst, hrest⟩
        obtain ⟨htext, hx, rfl⟩ := (write_update_iff huuid).1 hfirst
        obtain ⟨hadmits, rfl⟩ := ih.1 hrest
        exact ⟨⟨⟨htext, hx⟩, hadmits⟩, rfl⟩
      · rintro ⟨⟨⟨htext, hx⟩, hadmits⟩, rfl⟩
        exact ⟨_, (write_update_iff huuid).2 ⟨htext, hx, rfl⟩, ih.2 ⟨hadmits, rfl⟩⟩

theorem edited_key (updated : List τ) (row : MetadataRow) :
    (edited kind deviceUuid now updated row).key = row.key := by
  induction updated generalizing row with
  | nil => rfl
  | cons x updated ih =>
      refine (ih _).trans ?_
      dsimp only
      split_ifs <;> rfl

theorem edited_of_forall_ne {updated : List τ} {row : MetadataRow}
    (h : ∀ x ∈ updated, row.key ≠ (deviceUuid, kind.identity x)) :
    edited kind deviceUuid now updated row = row := by
  induction updated with
  | nil => rfl
  | cons x updated ih =>
      obtain ⟨hx, hrest⟩ := List.forall_mem_cons.1 h
      rw [edited, List.foldl_cons, if_neg hx]
      exact ih hrest

/-- A row is updated once, by the element that has its identity. -/
theorem edited_of_mem {updated : List τ} (hunique : (updated.map kind.identity).Nodup) {x : τ}
    (hx : x ∈ updated) {row : MetadataRow} (hrow : row.key = (deviceUuid, kind.identity x)) :
    edited kind deviceUuid now updated row = updatedRow kind now x row := by
  induction updated with
  | nil => cases hx
  | cons y updated ih =>
      rw [List.map_cons, List.nodup_cons] at hunique
      rw [edited, List.foldl_cons]
      rcases List.mem_cons.1 hx with rfl | hx
      · rw [if_pos hrow]
        refine edited_of_forall_ne fun y hy hkey => hunique.1 ?_
        have hsame : kind.identity x = kind.identity y :=
          (Prod.mk.inj (hrow.symm.trans hkey)).2
        exact hsame ▸ List.mem_map_of_mem hy
      · rw [if_neg]
        · exact ih hunique.2 hx
        · intro hkey
          have hsame : kind.identity x = kind.identity y :=
            (Prod.mk.inj (hrow.symm.trans hkey)).2
          exact hunique.1 (hsame ▸ List.mem_map_of_mem hx)

end Batches

/-! ## The rows of a device -/

section Rows

variable {τ : Type} {kind : MetadataKind τ} {deviceUuid : String}
variable {table : List MetadataRow} {current : List τ}

/-- The row stores the element for the device. -/
structure MetadataRow.Holds (row : MetadataRow) (kind : MetadataKind τ) (deviceUuid : String)
    (x : τ) : Prop where
  deviceUuid : row.deviceUuid = deviceUuid
  identity : kind.identity x = row.identity
  status : kind.status x = row.status
  kind : kind.kind x = row.kind

theorem MetadataRow.Holds.unique {row : MetadataRow} {x y : τ} (hx : row.Holds kind deviceUuid x)
    (hy : row.Holds kind deviceUuid y) : x = y := by
  have hmakex := (kind.make_eq_ok_iff _ _ _ x).2 ⟨hx.identity, hx.kind, hx.status⟩
  have hmakey := (kind.make_eq_ok_iff _ _ _ y).2 ⟨hy.identity, hy.kind, hy.status⟩
  exact Except.ok.inj (hmakex.symm.trans hmakey)

theorem MetadataRow.Holds.key {row : MetadataRow} {x : τ} (hx : row.Holds kind deviceUuid x) :
    row.key = (deviceUuid, kind.identity x) := Prod.ext hx.deviceUuid hx.identity.symm

theorem insertedRow_holds (now : ℤ) {x : τ} (hx : kind.Takes x) :
    (insertedRow kind deviceUuid now x).Holds kind deviceUuid x :=
  ⟨rfl, (clipped_of_le hx.identity.1).symm, (clipped_of_le hx.status.1).symm,
    (clipped_of_le hx.kind.1).symm⟩

theorem updatedRow_holds (now : ℤ) {x : τ} (hx : kind.Takes x) {row : MetadataRow}
    (hrow : row.key = (deviceUuid, kind.identity x)) :
    (updatedRow kind now x row).Holds kind deviceUuid x :=
  ⟨(Prod.mk.inj hrow).1, (Prod.mk.inj hrow).2.symm, (clipped_of_le hx.status.1).symm,
    (clipped_of_le hx.kind.1).symm⟩

theorem select_eq (huuid : Fits 128 deviceUuid) :
    select kind deviceUuid table = (table.filter (·.deviceUuid = deviceUuid)).mapM
      fun row => kind.make row.identity row.kind row.status := by
  rw [select, textParameter_of_fits huuid]
  rfl

theorem make_eq_ok_iff_holds {row : MetadataRow}
    (hrow : row ∈ table.filter (·.deviceUuid = deviceUuid)) {x : τ} :
    kind.make row.identity row.kind row.status = .ok x ↔ row.Holds kind deviceUuid x := by
  rw [List.mem_filter, decide_eq_true_iff] at hrow
  rw [kind.make_eq_ok_iff]
  exact ⟨fun h => ⟨hrow.2, h.1, h.2.2, h.2.1⟩, fun h => ⟨h.identity, h.kind, h.status⟩⟩

theorem mem_select (huuid : Fits 128 deviceUuid) (h : select kind deviceUuid table = .ok current)
    {x : τ} : x ∈ current ↔ ∃ row ∈ table, row.Holds kind deviceUuid x := by
  rw [select_eq huuid] at h
  rw [CheckedSteps.mem_of_mapM_eq_ok h]
  constructor
  · rintro ⟨row, hrow, hx⟩
    exact ⟨row, List.mem_of_mem_filter hrow, (make_eq_ok_iff_holds hrow).1 hx⟩
  · rintro ⟨row, hrow, hx⟩
    have hmem : row ∈ table.filter (·.deviceUuid = deviceUuid) :=
      List.mem_filter.2 ⟨hrow, decide_eq_true hx.deviceUuid⟩
    exact ⟨row, hmem, (make_eq_ok_iff_holds hmem).2 hx⟩

/-- A row of the device was read as an element. -/
theorem exists_holds_of_select (huuid : Fits 128 deviceUuid)
    (h : select kind deviceUuid table = .ok current) {row : MetadataRow} (hrow : row ∈ table)
    (hdevice : row.deviceUuid = deviceUuid) : ∃ x ∈ current, row.Holds kind deviceUuid x := by
  have hmem : row ∈ table.filter (·.deviceUuid = deviceUuid) :=
    List.mem_filter.2 ⟨hrow, decide_eq_true hdevice⟩
  have hread := h
  rw [select_eq huuid] at hread
  obtain ⟨x, hx⟩ := CheckedSteps.exists_mapM_eq_ok_iff.1 ⟨current, hread⟩ row hmem
  have hholds := (make_eq_ok_iff_holds hmem).1 hx
  exact ⟨x, (mem_select huuid h).2 ⟨row, hrow, hholds⟩, hholds⟩

theorem mem_current_of_mem_keys (huuid : Fits 128 deviceUuid)
    (h : select kind deviceUuid table = .ok current) {i : String}
    (hi : (deviceUuid, i) ∈ table.map MetadataRow.key) : i ∈ current.map kind.identity := by
  obtain ⟨row, hrow, hkey⟩ := List.mem_map.1 hi
  obtain ⟨x, hx, hholds⟩ := exists_holds_of_select huuid h hrow (Prod.mk.inj hkey).1
  have hidentity : kind.identity x = i := hholds.identity.trans (Prod.mk.inj hkey).2
  exact hidentity ▸ List.mem_map_of_mem hx

theorem nodup_of_select (huuid : Fits 128 deviceUuid) (htable : (table.map MetadataRow.key).Nodup)
    (h : select kind deviceUuid table = .ok current) : (current.map kind.identity).Nodup := by
  rw [select_eq huuid] at h
  have hidentities := CheckedSteps.map_of_mapM_eq_ok (g := kind.identity)
    (k := MetadataRow.identity) (fun row x hx => ((kind.make_eq_ok_iff _ _ _ x).1 hx).1) h
  rw [hidentities, List.nodup_map_iff_inj_on ((htable.of_map _).filter _)]
  intro row hrow row' hrow' hsame
  rw [List.mem_filter, decide_eq_true_iff] at hrow hrow'
  exact List.inj_on_of_nodup_map htable hrow.1 hrow'.1
    (Prod.ext (hrow.2.trans hrow'.2.symm) hsame)

/-- A table whose rows of the device store `desired`, under distinct keys, is read as `desired`. -/
theorem select_of_holds (huuid : Fits 128 deviceUuid) {desired : List τ}
    (htable : (table.map MetadataRow.key).Nodup) (hdesired : desired.Nodup)
    (hrows : ∀ row ∈ table, row.deviceUuid = deviceUuid →
      ∃ x ∈ desired, row.Holds kind deviceUuid x)
    (hall : ∀ x ∈ desired, ∃ row ∈ table, row.Holds kind deviceUuid x) :
    ∃ listed, select kind deviceUuid table = .ok listed ∧ listed.Perm desired := by
  obtain ⟨listed, hlisted⟩ : ∃ listed, select kind deviceUuid table = .ok listed := by
    rw [select_eq huuid, CheckedSteps.exists_mapM_eq_ok_iff]
    intro row hrow
    have hmem := hrow
    rw [List.mem_filter, decide_eq_true_iff] at hmem
    obtain ⟨x, -, hx⟩ := hrows row hmem.1 hmem.2
    exact ⟨x, (make_eq_ok_iff_holds hrow).2 hx⟩
  refine ⟨listed, hlisted, ?_⟩
  rw [List.perm_ext_iff_of_nodup ((nodup_of_select huuid htable hlisted).of_map _) hdesired]
  intro x
  rw [mem_select huuid hlisted]
  constructor
  · rintro ⟨row, hrow, hx⟩
    obtain ⟨y, hy, hrowy⟩ := hrows row hrow hx.deviceUuid
    rwa [hx.unique hrowy]
  · exact hall x

end Rows

end GcsSaker.Devices
