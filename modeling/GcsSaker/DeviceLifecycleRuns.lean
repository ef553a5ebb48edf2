import GcsSaker.DeviceUpdateSafety
import GcsSaker.Machines
import GcsSaker.RegisteredDevices

/-!
# Sequential calls of the device lifecycle

`DeviceLifecycleService` over a repository of many devices, one call after the other, succeeding or
throwing. An active device keeps an active sensor, every successful call raises the policy version
and only a rotation the credential version, both up to the largest `Long`, and a call that throws
has changed nothing unless its save took effect and the answer to it was lost.
-/

namespace GcsSaker.Devices

open Groups (Thrown)
open Machines (final)
open PostgresColumns (textParameter)

/-! ## The service -/

structure RegisterDeviceCommand where
  groupId : String
  displayName : String
  deviceType : Option String
  sensors : List RegisteredDeviceSensor
  streamPaths : List RegisteredDeviceStream

/-- The random values that a registration draws are part of the call. -/
inductive LifecycleCall where
  | register (command : RegisterDeviceCommand) (generated : ℕ → UuidText) (random : Bytes 32)
      (salt : Bytes 16)
  | change (deviceUuid : String) (request : DeviceRequest)

def LifecycleCall.credential : LifecycleCall → Option String
  | .register _ _ random _ => some (generate random)
  | .change _ request => request.credential

def UUID_GENERATION_ATTEMPTS : ℕ := 3

def deviceNotFound (deviceUuid : String) : Thrown := .runtime ("device not found: " ++ deviceUuid)

section Service

variable (platform : Platform) (find : ℕ → String → Except Thrown (Option RegisteredDevice))

/-- The attempts that are left. -/
def uniqueDeviceUuidLoop (generated : ℕ → UuidText) : ℕ → ℕ → Except Thrown UuidText
  | 0, _ => .error (.illegalState "device uuid generation failed")
  | left + 1, attempt => do
    let found ← find attempt (generated attempt).1
    if found.isNone then .ok (generated attempt)
    else uniqueDeviceUuidLoop generated left (attempt + 1)

def uniqueDeviceUuid (generated : ℕ → UuidText) : Except Thrown UuidText :=
  uniqueDeviceUuidLoop find generated UUID_GENERATION_ATTEMPTS 0

def newStreams (command : RegisterDeviceCommand) (deviceUuid : String) :
    Except Thrown (List RegisteredDeviceStream) :=
  if command.streamPaths.isEmpty then canonicalStreams platform deviceUuid command.sensors
  else .ok command.streamPaths

def newDevice (command : RegisterDeviceCommand) (deviceUuid : String) (random : Bytes 32)
    (salt : Bytes 16) : Except Thrown RegisteredDevice := do
  let streamPaths ← newStreams platform command deviceUuid
  let groupId ← newGroupId command.groupId
  let encoded ← PasswordHasher.standard.hash platform.deriveKey salt.1 (generate random)
  let deviceType ← parsed (parseDeviceType platform) command.deviceType
  let deviceUuid ← label "device uuid must not be blank" deviceUuid
  let displayName ← label "device display name must not be blank" command.displayName
  let credentialHash ← label "device credential hash must not be blank" encoded
  let row : DeviceRow := ⟨deviceUuid, groupId, displayName, credentialHash, .pending,
    deviceType.getD .drone, 1, 1⟩
  return ⟨row, command.sensors, streamPaths⟩

/-- The device that a call saves. -/
def prepare : LifecycleCall → Except Thrown RegisteredDevice
  | .register command generated random salt => do
    let deviceUuid ← uniqueDeviceUuid find generated
    newDevice platform command deviceUuid.1 random salt
  | .change deviceUuid request => do
    let found ← find 0 deviceUuid
    match found with
    | none => .error (deviceNotFound deviceUuid)
    | some device =>
      let change ← changeOf platform device request
      return device.copy change

end Service

/-- A call, and what becomes of its reads and of its save on their way. -/
structure ServedCall (ω : Type) where
  call : LifecycleCall
  reads : ℕ → ω
  write : ω

section Runs

variable {σ : Type} (platform : Platform) (repository : RegisteredDeviceRepository σ)

def lifecycleStep (s : σ) (served : ServedCall repository.Outcome) :
    σ × Except Thrown (RegisteredDevice × Option String) :=
  match prepare platform
      (fun attempt => repository.findByDeviceUuid (served.reads attempt) s) served.call with
  | .error thrown => (s, .error thrown)
  | .ok device =>
    let saved := repository.save served.write s device
    (saved.1, saved.2.map fun device => (device, served.call.credential))

end Runs

/-! ## What the calls keep -/

/-- A counter as a Kotlin `Long`. -/
def asLong (n : ℕ) : ℤ := (BitVec.ofNat 64 n).toInt

def Long.MAX_VALUE : ℤ := 2 ^ 63 - 1

theorem asLong_eq (n : ℕ) :
    asLong n =
      if n % 2 ^ 64 < 2 ^ 63 then ((n % 2 ^ 64 : ℕ) : ℤ) else (n % 2 ^ 64 : ℕ) - 2 ^ 64 := by
  rw [asLong, BitVec.toInt_eq_toNat_cond, BitVec.toNat_ofNat]
  split_ifs <;> omega

theorem asLong_succ {n : ℕ} (h : asLong n < Long.MAX_VALUE) : asLong (n + 1) = asLong n + 1 := by
  unfold Long.MAX_VALUE at h
  rw [asLong_eq] at h ⊢
  rw [asLong_eq]
  split_ifs at h ⊢ <;> omega

def RegisteredDevice.credentialVersion (device : RegisteredDevice) : ℤ :=
  asLong device.row.credentialVersion

def RegisteredDevice.policyVersion (device : RegisteredDevice) : ℤ :=
  asLong device.row.policyVersion

/-- An active device has a sensor that is active. -/
def HasActiveSensor (platform : Platform) (device : RegisteredDevice) : Prop :=
  device.row.status = .active →
    ∃ sensor ∈ device.sensors, platform.equalsIgnoreCase sensor.status "active" = true

def AllHaveActiveSensor (platform : Platform) (stored : StoredDevices) : Prop :=
  ∀ uuid device, stored uuid = some device → HasActiveSensor platform device

/-- What a call that succeeds does to the stored devices. -/
def Succeeded (before after : StoredDevices) : LifecycleCall → Prop
  | .register .. => ∃ uuid device, before uuid = none ∧ after uuid = some device ∧
      device.credentialVersion = 1 ∧ device.policyVersion = 1 ∧
      ∀ other, other ≠ uuid → after other = before other
  | .change uuid request => ∃ old new, before uuid = some old ∧ after uuid = some new ∧
      (old.policyVersion < Long.MAX_VALUE → old.policyVersion < new.policyVersion) ∧
      (request.credential = none → new.credentialVersion = old.credentialVersion) ∧
      (request.credential ≠ none → old.credentialVersion < Long.MAX_VALUE →
        new.credentialVersion = old.credentialVersion + 1) ∧
      ∀ other, other ≠ uuid → after other = before other

/-! ## One call -/

section Call

variable {platform : Platform} {device : RegisteredDevice}

theorem requireActiveSensor_eq_ok {status : RegisteredDeviceStatus}
    {sensors : List RegisteredDeviceSensor}
    (h : requireActiveSensor platform status sensors = .ok ()) (hstatus : status = .active) :
    ∃ sensor ∈ sensors, platform.equalsIgnoreCase sensor.status "active" = true := by
  rw [requireActiveSensor, if_neg (not_not.2 hstatus), Groups.require_eq_ok_iff,
    List.any_eq_true] at h
  exact h

/-- A changed copy keeps an active sensor, whatever the request sets and leaves. -/
theorem changeOf_hasActiveSensor {request : DeviceRequest} {change : DeviceChange}
    (hdevice : HasActiveSensor platform device)
    (h : changeOf platform device request = .ok change) :
    HasActiveSensor platform (device.copy change) := by
  cases request with
  | activate =>
      obtain ⟨hsensor, hchange⟩ := CheckedSteps.check_bind_eq_ok_iff.1 h
      cases hchange
      exact fun hstatus => requireActiveSensor_eq_ok hsensor hstatus
  | disable =>
      obtain ⟨hsensor, hchange⟩ := CheckedSteps.check_bind_eq_ok_iff.1 h
      cases hchange
      exact fun hstatus => requireActiveSensor_eq_ok hsensor hstatus
  | rotateCredential random salt =>
      obtain ⟨encoded, -, h⟩ := CheckedSteps.bind_eq_ok_iff.1 h
      obtain ⟨hash, -, hchange⟩ := CheckedSteps.bind_eq_ok_iff.1 h
      cases hchange
      exact hdevice
  | update command =>
      obtain ⟨streamPaths, -, h⟩ := CheckedSteps.bind_eq_ok_iff.1 h
      obtain ⟨status, -, h⟩ := CheckedSteps.bind_eq_ok_iff.1 h
      obtain ⟨hsensor, h⟩ := CheckedSteps.check_bind_eq_ok_iff.1 h
      obtain ⟨groupId, -, h⟩ := CheckedSteps.bind_eq_ok_iff.1 h
      obtain ⟨deviceType, -, h⟩ := CheckedSteps.bind_eq_ok_iff.1 h
      obtain ⟨displayName, -, hchange⟩ := CheckedSteps.bind_eq_ok_iff.1 h
      cases hchange
      exact fun hstatus => requireActiveSensor_eq_ok hsensor hstatus

theorem newDevice_eq_ok {command : RegisterDeviceCommand} {deviceUuid : String}
    {random : Bytes 32} {salt : Bytes 16}
    (h : newDevice platform command deviceUuid random salt = .ok device) :
    device.row.deviceUuid.1 = deviceUuid ∧ device.row.status = .pending ∧
      device.row.credentialVersion = 1 ∧ device.row.policyVersion = 1 := by
  obtain ⟨streamPaths, -, h⟩ := CheckedSteps.bind_eq_ok_iff.1 h
  obtain ⟨groupId, -, h⟩ := CheckedSteps.bind_eq_ok_iff.1 h
  obtain ⟨encoded, -, h⟩ := CheckedSteps.bind_eq_ok_iff.1 h
  obtain ⟨deviceType, -, h⟩ := CheckedSteps.bind_eq_ok_iff.1 h
  obtain ⟨uuid, huuid, h⟩ := CheckedSteps.bind_eq_ok_iff.1 h
  obtain ⟨displayName, -, h⟩ := CheckedSteps.bind_eq_ok_iff.1 h
  obtain ⟨credentialHash, -, h⟩ := CheckedSteps.bind_eq_ok_iff.1 h
  cases h
  exact ⟨label_eq_ok_iff.1 huuid, rfl, rfl, rfl⟩

/-- An identifier is taken only if no device was found under it. -/
theorem uniqueDeviceUuidLoop_eq_ok
    {find : ℕ → String → Except Thrown (Option RegisteredDevice)} {generated : ℕ → UuidText}
    {left attempt : ℕ} {uuid : UuidText}
    (h : uniqueDeviceUuidLoop find generated left attempt = .ok uuid) :
    ∃ read, find read uuid.1 = .ok none := by
  induction left generalizing attempt with
  | zero => cases h
  | succ left ih =>
      obtain ⟨found, hfound, h⟩ := CheckedSteps.bind_eq_ok_iff.1 h
      split_ifs at h with hnone
      · cases h
        rw [Option.isNone_iff_eq_none.1 hnone] at hfound
        exact ⟨attempt, hfound⟩
      · exact ih h

/-- What a call saves, given what it has read. -/
def Prepared (platform : Platform) (stored : StoredDevices) (device : RegisteredDevice) :
    LifecycleCall → Prop
  | .register .. => (∃ uuid : UuidText, device.row.deviceUuid.1 = uuid.1) ∧
      stored device.row.deviceUuid.1 = none ∧ device.row.status = .pending ∧
      device.row.credentialVersion = 1 ∧ device.row.policyVersion = 1
  | .change uuid request => ∃ current change, stored uuid = some current ∧
      changeOf platform current request = .ok change ∧ device = current.copy change

theorem prepare_eq_ok {find : ℕ → String → Except Thrown (Option RegisteredDevice)}
    {stored : StoredDevices}
    (hfind : ∀ read uuid found, find read uuid = .ok found → stored uuid = found)
    {call : LifecycleCall} (h : prepare platform find call = .ok device) :
    Prepared platform stored device call := by
  cases call with
  | register command generated random salt =>
      obtain ⟨uuid, huuid, h⟩ := CheckedSteps.bind_eq_ok_iff.1 h
      obtain ⟨hdevice, hstatus, hcredential, hpolicy⟩ := newDevice_eq_ok h
      obtain ⟨read, hread⟩ := uniqueDeviceUuidLoop_eq_ok huuid
      exact ⟨⟨uuid, hdevice⟩, hdevice ▸ hfind read uuid.1 none hread, hstatus, hcredential, hpolicy⟩
  | change uuid request =>
      obtain ⟨found, hfound, h⟩ := CheckedSteps.bind_eq_ok_iff.1 h
      cases found with
      | none => cases h
      | some current =>
          obtain ⟨change, hchange, h⟩ := CheckedSteps.bind_eq_ok_iff.1 h
          exact ⟨current, change, hfind 0 uuid _ hfound, hchange, (Except.ok.inj h).symm⟩

end Call

/-! ## Every sequence -/

section Sequences

variable {σ : Type} {platform : Platform} {repository : RegisteredDeviceRepository σ}
variable {s : σ} {device : RegisteredDevice} {before after : StoredDevices}

theorem Prepared.accepts {call : LifecycleCall} (hvalid : repository.Valid s)
    (h : Prepared platform (repository.stored s) device call) :
    repository.Accepts device.row.deviceUuid.1 := by
  cases call with
  | register =>
      obtain ⟨⟨uuid, huuid⟩, -⟩ := h
      rw [huuid]
      exact repository.accepts_uuid uuid
  | change uuid request =>
      obtain ⟨current, change, hcurrent, -, rfl⟩ := h
      obtain ⟨hsame, haccepts⟩ := repository.stored_uuid s uuid current hvalid hcurrent
      change repository.Accepts current.row.deviceUuid.1
      rwa [hsame]

theorem Prepared.hasActiveSensor {call : LifecycleCall}
    (hactive : AllHaveActiveSensor platform before)
    (h : Prepared platform before device call) : HasActiveSensor platform device := by
  cases call with
  | register =>
      obtain ⟨-, -, hstatus, -⟩ := h
      intro hdevice
      rw [hstatus] at hdevice
      cases hdevice
  | change uuid request =>
      obtain ⟨current, change, hcurrent, hchange, rfl⟩ := h
      exact changeOf_hasActiveSensor (hactive uuid current hcurrent) hchange

/-- What `String.equals` documents: texts that are equal but for case have the same length. -/
def ComparesLengths (platform : Platform) : Prop :=
  ∀ text text', platform.equalsIgnoreCase text text' = true →
    JvmText.length text = JvmText.length text'

theorem Saved.allHaveActiveSensor (hplatform : ComparesLengths platform)
    (hactive : AllHaveActiveSensor platform before) (hdevice : HasActiveSensor platform device)
    (h : Saved device before after) : AllHaveActiveSensor platform after := by
  obtain ⟨⟨stored, hstored, hmirrors⟩, hothers⟩ := h
  intro uuid found hfound
  by_cases hsame : uuid = device.row.deviceUuid.1
  · subst hsame
    obtain rfl : stored = found := Option.some.inj (hstored.symm.trans hfound)
    intro hstatus
    obtain ⟨sensor, hsensor, hequals⟩ := hdevice (hmirrors.status ▸ hstatus)
    have hlength : sensor.status.length ≤ 32 :=
      (JvmText.length_le_length _).trans ((hplatform _ _ hequals).trans_le (by decide))
    obtain ⟨sensor', hsensor', hkept⟩ := hmirrors.sensors sensor hsensor hlength
    exact ⟨sensor', hsensor', hkept ▸ hequals⟩
  · exact hactive uuid found (hothers uuid hsame ▸ hfound)

theorem Prepared.succeeded {call : LifecycleCall} (hvalid : repository.Valid s)
    (h : Prepared platform (repository.stored s) device call)
    (hsaved : Saved device (repository.stored s) after) :
    Succeeded (repository.stored s) after call := by
  obtain ⟨⟨stored, hstored, hmirrors⟩, hothers⟩ := hsaved
  cases call with
  | register =>
      obtain ⟨-, hnew, -, hcredential, hpolicy⟩ := h
      refine ⟨_, stored, hnew, hstored, ?_, ?_, hothers⟩
      · rw [RegisteredDevice.credentialVersion, hmirrors.credentialVersion, hcredential]
        rfl
      · rw [RegisteredDevice.policyVersion, hmirrors.policyVersion, hpolicy]
        rfl
  | change uuid request =>
      obtain ⟨current, change, hcurrent, hchange, rfl⟩ := h
      obtain ⟨rfl, -⟩ := repository.stored_uuid s uuid current hvalid hcurrent
      refine ⟨current, stored, hcurrent, hstored, ?_, ?_, ?_, hothers⟩
      · intro hmax
        have hpolicy : stored.policyVersion = asLong (current.row.policyVersion + 1) :=
          congrArg asLong hmirrors.policyVersion
        rw [hpolicy, asLong_succ hmax]
        exact Int.lt_succ _
      · intro hrequest
        have hcredential : change.credentialHash = none := by
          obtain ⟨-, hnone⟩ | ⟨credential, hash, hsome, -⟩ := changeOf_credential hchange
          · exact hnone
          · rw [hrequest] at hsome
            cases hsome
        refine congrArg asLong (hmirrors.credentialVersion.trans ?_)
        rw [RegisteredDevice.copy, hcredential]
        rfl
      · intro hrequest hmax
        obtain ⟨hnone, -⟩ | ⟨credential, hash, -, hhash, -⟩ := changeOf_credential hchange
        · exact absurd hnone hrequest
        · have hcredential : stored.credentialVersion =
              asLong (current.row.credentialVersion + 1) := by
            refine congrArg asLong (hmirrors.credentialVersion.trans ?_)
            rw [RegisteredDevice.copy, hhash]
            rfl
          rw [hcredential, asLong_succ hmax]
          rfl

/-- The call succeeded, or it threw and nothing has changed, or its change has been stored and only
the answer to the save was lost. -/
def Answered (repository : RegisteredDeviceRepository σ) (s : σ)
    (served : ServedCall repository.Outcome)
    (next : σ × Except Thrown (RegisteredDevice × Option String)) : Prop :=
  (∃ answer, next.2 = .ok answer ∧
    Succeeded (repository.stored s) (repository.stored next.1) served.call) ∨
  ∃ thrown, next.2 = .error thrown ∧ (repository.stored next.1 = repository.stored s ∨
    repository.Unconfirmed served.write ∧
      Succeeded (repository.stored s) (repository.stored next.1) served.call)

structure LifecycleInvariant (platform : Platform) (repository : RegisteredDeviceRepository σ)
    (s : σ) : Prop where
  valid : repository.Valid s
  active : AllHaveActiveSensor platform (repository.stored s)

theorem lifecycleStep_spec (hplatform : ComparesLengths platform)
    (hs : LifecycleInvariant platform repository s) (served : ServedCall repository.Outcome) :
    LifecycleInvariant platform repository (lifecycleStep platform repository s served).1 ∧
      Answered repository s served (lifecycleStep platform repository s served) := by
  obtain ⟨hvalid, hactive⟩ := hs
  cases hprepare : prepare platform
      (fun attempt => repository.findByDeviceUuid (served.reads attempt) s) served.call with
  | error thrown =>
      have hstep : lifecycleStep platform repository s served = (s, .error thrown) := by
        rw [lifecycleStep, hprepare]
      rw [hstep]
      exact ⟨⟨hvalid, hactive⟩, Or.inr ⟨thrown, rfl, Or.inl rfl⟩⟩
  | ok device =>
      have hprepared := prepare_eq_ok (fun read uuid found =>
        repository.find_spec (served.reads read) s uuid found) hprepare
      have hdevice := hprepared.hasActiveSensor hactive
      have hstep : lifecycleStep platform repository s served =
          ((repository.save served.write s device).1, (repository.save served.write s device).2.map
            fun device => (device, served.call.credential)) := by
        rw [lifecycleStep, hprepare]
      obtain ⟨hvalid', ⟨hok, hsaved⟩ | ⟨thrown, herror, hafter⟩⟩ :=
        repository.save_spec served.write s device hvalid (hprepared.accepts hvalid)
      · rw [hstep, hok]
        exact ⟨⟨hvalid', hsaved.allHaveActiveSensor hplatform hactive hdevice⟩,
          Or.inl ⟨_, rfl, hprepared.succeeded hvalid hsaved⟩⟩
      · rw [hstep, herror]
        rcases hafter with hsame | ⟨hlost, hsaved⟩
        · exact ⟨⟨hvalid', hsame ▸ hactive⟩, Or.inr ⟨thrown, rfl, Or.inl hsame⟩⟩
        · exact ⟨⟨hvalid', hsaved.allHaveActiveSensor hplatform hactive hdevice⟩,
            Or.inr ⟨thrown, rfl, Or.inr ⟨hlost, hprepared.succeeded hvalid hsaved⟩⟩⟩

theorem final_lifecycleInvariant (hplatform : ComparesLengths platform)
    (hs : LifecycleInvariant platform repository s)
    (calls : List (ServedCall repository.Outcome)) :
    LifecycleInvariant platform repository
      (final (lifecycleStep platform repository) s calls) := by
  have hstep : ∀ t served, LifecycleInvariant platform repository t → True →
      LifecycleInvariant platform repository (lifecycleStep platform repository t served).1 :=
    fun t served ht _ => (lifecycleStep_spec hplatform ht served).1
  exact Machines.final_invariant hstep hs (Machines.along_of_forall (fun _ _ _ => trivial) s)

end Sequences

/-- After any sequence of calls an active device has an active sensor, and the next call, if it
succeeds, raises the policy version and, as a rotation only, the credential version. -/
theorem device_lifecycle {platform : Platform} (hplatform : ComparesLengths platform)
    (mode : Persistence) {first : mode.Contents}
    (hvalid : (registeredDeviceRepository mode).Valid first)
    (hactive : AllHaveActiveSensor platform ((registeredDeviceRepository mode).stored first))
    (calls : List (ServedCall (registeredDeviceRepository mode).Outcome)) :
    let s := final (lifecycleStep platform (registeredDeviceRepository mode)) first calls
    AllHaveActiveSensor platform ((registeredDeviceRepository mode).stored s) ∧
      ∀ served, Answered (registeredDeviceRepository mode) s served
        (lifecycleStep platform (registeredDeviceRepository mode) s served) := by
  have hkept := final_lifecycleInvariant hplatform ⟨hvalid, hactive⟩ calls
  exact ⟨hkept.active, fun served => (lifecycleStep_spec hplatform hkept served).2⟩

theorem samplePlatform_comparesLengths : ComparesLengths samplePlatform := by
  intro text text' h
  rw [eq_of_beq h]

def roverUuid : UuidText := ⟨"1b4e28ba-2fa1-41d2-883f-0016d3cca427", by decide, by decide⟩

def roverCommand : RegisterDeviceCommand where
  groupId := "alpha"
  displayName := "Rover"
  deviceType := none
  sensors := [frontSensor]
  streamPaths := []

def roverRandom : Bytes 32 := ⟨List.replicate 32 7, List.length_replicate⟩

def roverSalt : Bytes 16 := ⟨List.replicate 16 9, List.length_replicate⟩

def undisturbed (call : LifecycleCall) : ServedCall JdbcRegisteredDeviceRepository.Served :=
  ⟨call, fun _ => ⟨0, .completes⟩, ⟨0, .completes⟩⟩

/-- A device is registered, activated and given a new credential. -/
def roverCalls : List (ServedCall JdbcRegisteredDeviceRepository.Served) :=
  [undisturbed (.register roverCommand (fun _ => roverUuid) roverRandom roverSalt),
    undisturbed (.change roverUuid.1 .activate),
    undisturbed (.change roverUuid.1 (.rotateCredential roverRandom roverSalt))]

def noDevices : DeviceDatabase := ⟨["alpha"], [], ⟨[], []⟩⟩

theorem stored_noDevices (uuid : String) :
    jdbcRegisteredDeviceRepository.stored noDevices uuid = none := by
  change JdbcRegisteredDeviceRepository.stored noDevices uuid = none
  unfold JdbcRegisteredDeviceRepository.stored JdbcRegisteredDeviceRepository.read
  cases textParameter uuid <;> rfl

theorem readableRows_nil : ReadableRows [] :=
  ⟨⟨List.nodup_nil, fun _ h => (List.not_mem_nil h).elim⟩, fun _ h => (List.not_mem_nil h).elim⟩

theorem device_lifecycle_sample :
    let s := final (lifecycleStep samplePlatform jdbcRegisteredDeviceRepository) noDevices
      roverCalls
    ((jdbcRegisteredDeviceRepository.stored s roverUuid.1).map fun device =>
        (device.row.status, device.policyVersion, device.credentialVersion)) =
        some (.active, 3, 2) ∧
      AllHaveActiveSensor samplePlatform (jdbcRegisteredDeviceRepository.stored s) ∧
      ∀ served, Answered jdbcRegisteredDeviceRepository s served
        (lifecycleStep samplePlatform jdbcRegisteredDeviceRepository s served) := by
  have hvalid : JdbcRegisteredDeviceRepository.Valid noDevices :=
    ⟨fun _ h => (List.not_mem_nil h).elim, readableRows_nil, readableRows_nil⟩
  have hactive : AllHaveActiveSensor samplePlatform
      (jdbcRegisteredDeviceRepository.stored noDevices) := by
    intro uuid device hdevice
    rw [stored_noDevices] at hdevice
    cases hdevice
  exact ⟨by decide +kernel,
    device_lifecycle samplePlatform_comparesLengths .jdbc hvalid hactive roverCalls⟩

def disable (uuid : String) : ServedCall InMemoryRegisteredDeviceRepository.Outcome :=
  ⟨.change uuid .disable, fun _ => Unit.unit, Unit.unit⟩

/-- A disabled device that was disabled another `n` times. -/
def disabledDevice (n : ℕ) : RegisteredDevice :=
  { sampleTables.device with
    row := { sampleTables.device.row with status := .disabled, policyVersion := n + 1 } }

theorem lifecycleStep_disable (n : ℕ) :
    lifecycleStep samplePlatform InMemoryRegisteredDeviceRepository [disabledDevice n]
        (disable "uav-1") =
      ([disabledDevice (n + 1)], .ok (disabledDevice (n + 1), none)) := rfl

theorem final_disable (m n : ℕ) :
    final (lifecycleStep samplePlatform InMemoryRegisteredDeviceRepository) [disabledDevice m]
        (List.replicate n (disable "uav-1")) = [disabledDevice (m + n)] := by
  induction n generalizing m with
  | zero => rfl
  | succ n ih =>
      rw [List.replicate_succ, Machines.final, lifecycleStep_disable, ih, Nat.add_right_comm]
      rfl

def storedDevice : DeviceDatabase :=
  ⟨["alpha"], [sampleTables.device.row], ⟨[⟨"uav-1", "front", "camera", "active", 0, 0⟩], []⟩⟩

/-- The last of `2 ^ 63 - 1` calls takes the policy version to the lowest `Long`, and a call whose
commit is not confirmed throws although it has disabled the device. -/
theorem device_lifecycle_counterexample :
    (∃ calls answer old new,
      let s := final (lifecycleStep samplePlatform InMemoryRegisteredDeviceRepository)
        [disabledDevice 0] calls
      let next := lifecycleStep samplePlatform InMemoryRegisteredDeviceRepository s
        (disable "uav-1")
      next.2 = .ok answer ∧ InMemoryRegisteredDeviceRepository.stored s "uav-1" = some old ∧
        InMemoryRegisteredDeviceRepository.stored next.1 "uav-1" = some new ∧
        new.policyVersion < old.policyVersion) ∧
      ∃ thrown,
        let next := lifecycleStep samplePlatform jdbcRegisteredDeviceRepository storedDevice
          ⟨.change "uav-1" .disable, fun _ => ⟨0, .completes⟩, ⟨0, .failsAfterCommit⟩⟩
        next.2 = .error thrown ∧ jdbcRegisteredDeviceRepository.stored next.1 ≠
          jdbcRegisteredDeviceRepository.stored storedDevice := by
  constructor
  · refine ⟨List.replicate (2 ^ 63 - 2) (disable "uav-1"), (disabledDevice (2 ^ 63 - 2 + 1), none),
      disabledDevice (2 ^ 63 - 2), disabledDevice (2 ^ 63 - 2 + 1), ?_⟩
    rw [final_disable, Nat.zero_add]
    dsimp only
    rw [lifecycleStep_disable]
    exact ⟨rfl, rfl, rfl, by decide⟩
  · have hbefore : (jdbcRegisteredDeviceRepository.stored storedDevice "uav-1").map
        (·.row.status) = some .active := by decide +kernel
    refine ⟨dataAccessException, rfl, fun h => ?_⟩
    rw [← h] at hbefore
    exact absurd hbefore (by decide +kernel)

end GcsSaker.Devices
