import GcsSaker.KeyedRows
import GcsSaker.MetadataSynchronization

/-!
# The repository of the registered devices

`RegisteredDeviceRepository` with its two implementations, a map in memory and the tables of a
database, and what both keep of a device that is saved. A save in the database is one transaction
over three tables; it may fail before its commit, or after it, where the caller sees an error
although the device has been stored.
-/

namespace GcsSaker.Devices

open Groups (Thrown)
open KeyedDelta (find)
open KeyedRows (put find_put)
open PostgresColumns (Fits varchar varchar_eq_some_iff isBlank_of_varchar textParameter clipped
  clipped_of_le)

/-- A random UUID as the JDK writes it: 36 hexadecimal digits and hyphens. -/
abbrev UuidText := {text : String // text.length = 36 ∧
  text.toList.all fun c => c.isDigit || ('a' ≤ c && c ≤ 'f') || c == '-'}

theorem UuidText.fits (uuid : UuidText) : Fits 128 uuid.1 := by
  refine ⟨by rw [uuid.2.1]; decide, fun hmem => ?_⟩
  exact absurd (List.all_eq_true.1 uuid.2.2 _ hmem) (by decide)

/-! ## What a repository keeps -/

/-- A stored device has the versions and the status that were saved, and a sensor of each saved
status that the column does not clip. -/
structure Mirrors (saved stored : RegisteredDevice) : Prop where
  deviceUuid : stored.row.deviceUuid.1 = saved.row.deviceUuid.1
  status : stored.row.status = saved.row.status
  credentialVersion : stored.row.credentialVersion = saved.row.credentialVersion
  policyVersion : stored.row.policyVersion = saved.row.policyVersion
  sensors : ∀ sensor ∈ saved.sensors, sensor.status.length ≤ 32 →
    ∃ sensor' ∈ stored.sensors, sensor'.status = sensor.status

theorem Mirrors.refl (device : RegisteredDevice) : Mirrors device device :=
  ⟨rfl, rfl, rfl, rfl, fun sensor h _ => ⟨sensor, h, rfl⟩⟩

abbrev StoredDevices := String → Option RegisteredDevice

/-- The device has been stored, and no other has changed. -/
def Saved (device : RegisteredDevice) (before after : StoredDevices) : Prop :=
  (∃ stored, after device.row.deviceUuid.1 = some stored ∧ Mirrors device stored) ∧
    ∀ uuid, uuid ≠ device.row.deviceUuid.1 → after uuid = before uuid

/-- A repository with contents in `σ`; an outcome says what becomes of a call on its way. -/
structure RegisteredDeviceRepository (σ : Type) where
  Outcome : Type
  findByDeviceUuid : Outcome → σ → String → Except Thrown (Option RegisteredDevice)
  save : Outcome → σ → RegisteredDevice → σ × Except Thrown RegisteredDevice
  stored : σ → StoredDevices
  Valid : σ → Prop
  /-- The identifiers that the repository keeps apart. -/
  Accepts : String → Prop
  /-- The answer to a save that took effect was lost. -/
  Unconfirmed : Outcome → Prop
  accepts_uuid : ∀ uuid : UuidText, Accepts uuid.1
  stored_uuid : ∀ s uuid device, Valid s → stored s uuid = some device →
    device.row.deviceUuid.1 = uuid ∧ Accepts uuid
  find_spec : ∀ o s uuid found, findByDeviceUuid o s uuid = .ok found → stored s uuid = found
  save_spec : ∀ o s device, Valid s → Accepts device.row.deviceUuid.1 →
    Valid (save o s device).1 ∧
      ((save o s device).2 = .ok device ∧ Saved device (stored s) (stored (save o s device).1) ∨
        ∃ thrown, (save o s device).2 = .error thrown ∧
          (stored (save o s device).1 = stored s ∨
            Unconfirmed o ∧ Saved device (stored s) (stored (save o s device).1)))

def RegisteredDevice.key (device : RegisteredDevice) : String := device.row.deviceUuid.1

theorem saved_put (devices : List RegisteredDevice) (device : RegisteredDevice) :
    Saved device (fun uuid => find RegisteredDevice.key uuid devices)
      fun uuid => find RegisteredDevice.key uuid (put RegisteredDevice.key devices device) := by
  refine ⟨⟨device, ?_, Mirrors.refl device⟩, fun uuid hne => ?_⟩
  · exact (find_put devices device _).trans (if_pos rfl)
  · exact (find_put devices device uuid).trans (if_neg fun h => hne h.symm)

def InMemoryRegisteredDeviceRepository : RegisteredDeviceRepository (List RegisteredDevice) where
  Outcome := Unit
  findByDeviceUuid _ devices uuid := .ok (find RegisteredDevice.key uuid devices)
  save _ devices device := (put RegisteredDevice.key devices device, .ok device)
  stored devices uuid := find RegisteredDevice.key uuid devices
  Valid _ := True
  Accepts _ := True
  Unconfirmed _ := False
  accepts_uuid _ := trivial
  stored_uuid _ _ _ _ h := ⟨(KeyedDelta.find_some h).2, trivial⟩
  find_spec _ _ _ _ h := Except.ok.inj h
  save_spec _ devices device _ _ := ⟨trivial, Or.inl ⟨rfl, saved_put devices device⟩⟩

/-! ## The tables -/

structure DeviceDatabase where
  organizationGroups : List String
  registeredDevices : List DeviceRow
  metadata : MetadataTables

def DeviceRow.key (row : DeviceRow) : String := row.deviceUuid.1

/-- What a column stores of a text that is not blank. -/
def column (limit : ℕ) (text : Label) : Option Label :=
  match h : varchar limit text.1 with
  | some stored => some ⟨stored, (isBlank_of_varchar h).trans text.2⟩
  | none => none

namespace JdbcRegisteredDeviceRepository

/-- The foreign key of the group is checked. -/
def upsert (database : DeviceDatabase) (row : DeviceRow) : Option (List DeviceRow) := do
  let deviceUuid ← column 128 row.deviceUuid
  let groupId ← column 64 ⟨row.groupId.value, row.groupId.notBlank⟩
  let displayName ← column 128 row.displayName
  let credentialHash ← column 255 row.credentialHash
  if groupId.1 ∈ database.organizationGroups then
    some (put DeviceRow.key database.registeredDevices
      { row with deviceUuid, groupId := ⟨groupId.1, groupId.2⟩, displayName, credentialHash })
  else none

def write (now : ℤ) (database : DeviceDatabase) (device : RegisteredDevice) :
    Except Thrown DeviceDatabase := do
  let registeredDevices ← orDataAccess (upsert database device.row)
  let metadata ← JdbcRegisteredDeviceMetadataDao.synchronize database.metadata
    device.row.deviceUuid.1 device.sensors device.streamPaths now
  return { database with registeredDevices, metadata }

inductive Ending where
  | completes
  | failsBeforeCommit
  | failsAfterCommit
  deriving DecidableEq

structure Served where
  now : ℤ
  ending : Ending

def save (served : Served) (database : DeviceDatabase) (device : RegisteredDevice) :
    DeviceDatabase × Except Thrown RegisteredDevice :=
  match served.ending, write served.now database device with
  | .failsBeforeCommit, _ => (database, .error dataAccessException)
  | _, .error thrown => (database, .error thrown)
  | .failsAfterCommit, .ok database' => (database', .error dataAccessException)
  | .completes, .ok database' => (database', .ok device)

/-- `JdbcRegisteredDeviceMetadataDao.attach` for one device. -/
def attach (database : DeviceDatabase) (row : DeviceRow) : Except Thrown RegisteredDevice := do
  let sensors ← select .sensors row.key database.metadata.registeredDeviceSensors
  let streamPaths ← select .streams row.key database.metadata.registeredDeviceStreams
  return ⟨row, sensors, streamPaths⟩

def read (database : DeviceDatabase) (deviceUuid : String) :
    Except Thrown (Option RegisteredDevice) := do
  let uuid ← orDataAccess (textParameter deviceUuid)
  (find DeviceRow.key uuid database.registeredDevices).mapM (attach database)

def findByDeviceUuid (served : Served) (database : DeviceDatabase) (deviceUuid : String) :
    Except Thrown (Option RegisteredDevice) :=
  if served.ending = .completes then read database deviceUuid else .error dataAccessException

def stored (database : DeviceDatabase) (deviceUuid : String) : Option RegisteredDevice :=
  match read database deviceUuid with
  | .ok found => found
  | .error _ => none

/-! ### The tables keep what a repository keeps -/

structure Valid (database : DeviceDatabase) : Prop where
  uuids : ∀ row ∈ database.registeredDevices, Fits 128 row.key
  sensors : ReadableRows database.metadata.registeredDeviceSensors
  streams : ReadableRows database.metadata.registeredDeviceStreams

theorem column_eq_some {limit : ℕ} {text stored : Label} (h : column limit text = some stored) :
    stored.1 = clipped limit text.1 ∧ Fits limit stored.1 := by
  unfold column at h
  split at h
  next text' htext =>
    cases h
    exact ⟨(varchar_eq_some_iff.1 htext).2, PostgresColumns.fits_of_varchar htext⟩
  next => cases h

theorem upsert_eq_some {database : DeviceDatabase} {row : DeviceRow} {rows : List DeviceRow}
    (h : upsert database row = some rows) (huuid : Fits 128 row.key) :
    ∃ row' : DeviceRow, rows = put DeviceRow.key database.registeredDevices row' ∧
      row'.key = row.key ∧ row'.status = row.status ∧
      row'.credentialVersion = row.credentialVersion ∧ row'.policyVersion = row.policyVersion := by
  obtain ⟨deviceUuid, hdevice, h⟩ := Option.bind_eq_some_iff.1 h
  obtain ⟨groupId, -, h⟩ := Option.bind_eq_some_iff.1 h
  obtain ⟨displayName, -, h⟩ := Option.bind_eq_some_iff.1 h
  obtain ⟨credentialHash, -, h⟩ := Option.bind_eq_some_iff.1 h
  split_ifs at h
  cases h
  refine ⟨_, rfl, ?_, rfl, rfl, rfl⟩
  exact (column_eq_some hdevice).1.trans (clipped_of_le huuid.1)

theorem attach_eq_ok {database : DeviceDatabase} (hvalid : Valid database) {row : DeviceRow}
    (huuid : Fits 128 row.key) : ∃ sensors streamPaths,
      select .sensors row.key database.metadata.registeredDeviceSensors = .ok sensors ∧
      attach database row = .ok ⟨row, sensors, streamPaths⟩ := by
  obtain ⟨sensors, hsensors⟩ := exists_select .sensors huuid hvalid.sensors
  obtain ⟨streamPaths, hstreamPaths⟩ := exists_select .streams huuid hvalid.streams
  refine ⟨sensors, streamPaths, hsensors, ?_⟩
  rw [attach, hsensors]
  change (select .streams row.key _ >>= fun _ => _) = _
  rw [hstreamPaths]
  rfl

theorem read_eq {deviceUuid : String} (huuid : Fits 128 deviceUuid) (database : DeviceDatabase) :
    read database deviceUuid =
      (find DeviceRow.key deviceUuid database.registeredDevices).mapM (attach database) := by
  rw [read, textParameter_of_fits huuid]
  rfl

theorem stored_of_find {database : DeviceDatabase} (hvalid : Valid database) {deviceUuid : String}
    (huuid : Fits 128 deviceUuid) {row : DeviceRow}
    (h : find DeviceRow.key deviceUuid database.registeredDevices = some row) :
    ∃ sensors streamPaths,
      select .sensors deviceUuid database.metadata.registeredDeviceSensors = .ok sensors ∧
      stored database deviceUuid = some ⟨row, sensors, streamPaths⟩ := by
  obtain rfl : row.key = deviceUuid := (KeyedDelta.find_some h).2
  obtain ⟨sensors, streamPaths, hsensors, hattach⟩ := attach_eq_ok hvalid huuid
  refine ⟨sensors, streamPaths, hsensors, ?_⟩
  rw [stored, read_eq huuid, h]
  change (match some <$> attach database row with | .ok found => found | .error _ => none) = _
  rw [hattach]
  rfl

theorem row_of_attach {database : DeviceDatabase} {row : DeviceRow} {device : RegisteredDevice}
    (h : attach database row = .ok device) : device.row = row := by
  obtain ⟨sensors, -, h⟩ := CheckedSteps.bind_eq_ok_iff.1 h
  obtain ⟨streamPaths, -, h⟩ := CheckedSteps.bind_eq_ok_iff.1 h
  cases h
  rfl

theorem stored_eq_some {database : DeviceDatabase} (hvalid : Valid database) {deviceUuid : String}
    {device : RegisteredDevice} (h : stored database deviceUuid = some device) :
    device.row.deviceUuid.1 = deviceUuid ∧ Fits 128 deviceUuid := by
  unfold stored at h
  split at h
  next found hread =>
    subst h
    obtain ⟨uuid, huuid, hfound⟩ := CheckedSteps.bind_eq_ok_iff.1 hread
    obtain rfl := PostgresColumns.text_of_textParameter (orDataAccess_eq_ok_iff.1 huuid)
    cases hfind : find DeviceRow.key uuid database.registeredDevices with
    | none =>
        rw [hfind] at hfound
        cases hfound
    | some row =>
        rw [hfind] at hfound
        obtain ⟨device', hattach, hdevice⟩ := CheckedSteps.bind_eq_ok_iff.1
          ((map_eq_pure_bind some (attach database row)).symm.trans hfound)
        obtain rfl : device' = device := Option.some.inj (Except.ok.inj hdevice)
        obtain ⟨hmem, hkey⟩ := KeyedDelta.find_some hfind
        rw [row_of_attach hattach]
        exact ⟨hkey, hkey ▸ hvalid.uuids row hmem⟩
  next => cases h

/-- Another device is read as before, whatever was written for this one. -/
theorem read_congr {database : DeviceDatabase} {row : DeviceRow} {metadata : MetadataTables}
    {deviceUuid uuid : String} (hne : uuid ≠ deviceUuid) (hkey : row.key = deviceUuid)
    (hsensors : metadata.registeredDeviceSensors.filter (·.deviceUuid ≠ deviceUuid) =
      database.metadata.registeredDeviceSensors.filter (·.deviceUuid ≠ deviceUuid))
    (hstreams : metadata.registeredDeviceStreams.filter (·.deviceUuid ≠ deviceUuid) =
      database.metadata.registeredDeviceStreams.filter (·.deviceUuid ≠ deviceUuid)) :
    read { database with
      registeredDevices := put DeviceRow.key database.registeredDevices row, metadata } uuid =
        read database uuid := by
  unfold read
  cases htext : textParameter uuid with
  | none => rfl
  | some text =>
      obtain rfl := PostgresColumns.text_of_textParameter htext
      have hfind : find DeviceRow.key text (put DeviceRow.key database.registeredDevices row) =
          find DeviceRow.key text database.registeredDevices :=
        (find_put _ row text).trans (if_neg fun h => hne (h.symm.trans hkey))
      change (find DeviceRow.key text (put DeviceRow.key database.registeredDevices row)).mapM _ =
        (find DeviceRow.key text database.registeredDevices).mapM _
      rw [hfind]
      cases hrow : find DeviceRow.key text database.registeredDevices with
      | none => rfl
      | some other =>
          have hother : other.key ≠ deviceUuid := (KeyedDelta.find_some hrow).2 ▸ hne
          change some <$> attach _ other = some <$> attach database other
          unfold attach
          rw [select_congr hother hsensors, select_congr hother hstreams]

theorem write_spec {now : ℤ} {database database' : DeviceDatabase} {device : RegisteredDevice}
    (hvalid : Valid database) (huuid : Fits 128 device.row.deviceUuid.1)
    (h : write now database device = .ok database') :
    Valid database' ∧ Saved device (stored database) (stored database') := by
  obtain ⟨rows, hrows, h⟩ := CheckedSteps.bind_eq_ok_iff.1 h
  obtain ⟨metadata, hmetadata, h⟩ := CheckedSteps.bind_eq_ok_iff.1 h
  cases h
  obtain ⟨row, rfl, hkey, hstatus, hcredential, hpolicy⟩ :=
    upsert_eq_some (orDataAccess_eq_ok_iff.1 hrows) huuid
  obtain ⟨hsensors, hstreams⟩ :=
    rewritten_of_synchronize huuid hvalid.sensors hvalid.streams hmetadata
  have hvalid' : Valid { database with
      registeredDevices := put DeviceRow.key database.registeredDevices row, metadata } := by
    refine ⟨fun row' hrow' => ?_, hsensors.rows, hstreams.rows⟩
    rcases KeyedRows.mem_put hrow' with rfl | hold
    · rw [hkey]
      exact huuid
    · exact hvalid.uuids row' hold
  refine ⟨hvalid', ⟨?_, ?_⟩⟩
  · have hfind : find DeviceRow.key device.row.deviceUuid.1
        (put DeviceRow.key database.registeredDevices row) = some row :=
      (find_put _ row _).trans (if_pos hkey)
    obtain ⟨sensors, streamPaths, hread, hstored⟩ := stored_of_find hvalid' huuid hfind
    refine ⟨_, hstored, hkey, hstatus, hcredential, hpolicy, fun sensor hsensor hlength => ?_⟩
    obtain ⟨stored, hmem, hdevice, hsame⟩ := hsensors.statuses sensor hsensor hlength
    obtain ⟨sensor', hsensor', hholds⟩ := exists_holds_of_select huuid hread hmem hdevice
    exact ⟨sensor', hsensor', hholds.status.trans hsame⟩
  · intro uuid hne
    rw [stored, read_congr hne hkey hsensors.others hstreams.others]
    rfl

theorem save_spec (served : Served) (database : DeviceDatabase) (device : RegisteredDevice)
    (hvalid : Valid database) (huuid : Fits 128 device.row.deviceUuid.1) :
    Valid (save served database device).1 ∧
      ((save served database device).2 = .ok device ∧
          Saved device (stored database) (stored (save served database device).1) ∨
        ∃ thrown, (save served database device).2 = .error thrown ∧
          (stored (save served database device).1 = stored database ∨
            served.ending = .failsAfterCommit ∧
              Saved device (stored database) (stored (save served database device).1))) := by
  obtain ⟨now, ending⟩ := served
  cases hwrite : write now database device with
  | error thrown =>
      have hsave : ∃ thrown', save ⟨now, ending⟩ database device = (database, .error thrown') := by
        cases ending
        case failsBeforeCommit => exact ⟨_, rfl⟩
        all_goals exact ⟨thrown, by rw [save, hwrite]⟩
      obtain ⟨thrown', hsave⟩ := hsave
      rw [hsave]
      exact ⟨hvalid, Or.inr ⟨thrown', rfl, Or.inl rfl⟩⟩
  | ok database' =>
      obtain ⟨hvalid', hsaved⟩ := write_spec hvalid huuid hwrite
      cases ending with
      | completes =>
          have hsave : save ⟨now, .completes⟩ database device = (database', .ok device) := by
            rw [save, hwrite]
          rw [hsave]
          exact ⟨hvalid', Or.inl ⟨rfl, hsaved⟩⟩
      | failsBeforeCommit => exact ⟨hvalid, Or.inr ⟨_, rfl, Or.inl rfl⟩⟩
      | failsAfterCommit =>
          have hsave : save ⟨now, .failsAfterCommit⟩ database device =
              (database', .error dataAccessException) := by
            rw [save, hwrite]
          rw [hsave]
          exact ⟨hvalid', Or.inr ⟨_, rfl, Or.inr ⟨rfl, hsaved⟩⟩⟩

theorem find_spec {served : Served} {database : DeviceDatabase} {deviceUuid : String}
    {found : Option RegisteredDevice}
    (h : findByDeviceUuid served database deviceUuid = .ok found) :
    stored database deviceUuid = found := by
  unfold findByDeviceUuid at h
  split_ifs at h
  rw [stored, h]

end JdbcRegisteredDeviceRepository

def jdbcRegisteredDeviceRepository : RegisteredDeviceRepository DeviceDatabase where
  Outcome := JdbcRegisteredDeviceRepository.Served
  findByDeviceUuid := JdbcRegisteredDeviceRepository.findByDeviceUuid
  save := JdbcRegisteredDeviceRepository.save
  stored := JdbcRegisteredDeviceRepository.stored
  Valid := JdbcRegisteredDeviceRepository.Valid
  Accepts uuid := Fits 128 uuid
  Unconfirmed served := served.ending = .failsAfterCommit
  accepts_uuid := UuidText.fits
  stored_uuid _ _ _ hvalid h := JdbcRegisteredDeviceRepository.stored_eq_some hvalid h
  find_spec _ _ _ _ h := JdbcRegisteredDeviceRepository.find_spec h
  save_spec := JdbcRegisteredDeviceRepository.save_spec

/-! ## The wiring -/

inductive Persistence where
  | inMemory
  | jdbc

def Persistence.Contents : Persistence → Type
  | .inMemory => List RegisteredDevice
  | .jdbc => DeviceDatabase

/-- `DevicePolicyConfiguration.registeredDeviceRepository` -/
def registeredDeviceRepository : (mode : Persistence) → RegisteredDeviceRepository mode.Contents
  | .inMemory => InMemoryRegisteredDeviceRepository
  | .jdbc => jdbcRegisteredDeviceRepository

end GcsSaker.Devices
