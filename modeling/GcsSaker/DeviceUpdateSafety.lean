import GcsSaker.DeviceLifecycle
import GcsSaker.KeyedRows
import GcsSaker.Runs

/-!
# Lost updates of a device

As long as every device that is saved is a change of the device that is stored, each of its columns
and its metadata have what was last asked for, the policy version rose with every call and the
credential that was issued last is the one that the stored hash accepts.
-/

namespace GcsSaker.Devices

/-! ## What is kept -/

/-- The sensors, in whatever order they are stored. -/
def sensorsOf (tables : DeviceTables) : Multiset RegisteredDeviceSensor := tables.device.sensors

def streamsOf (tables : DeviceTables) : Multiset RegisteredDeviceStream := tables.device.streamPaths

structure DeviceKept (first tables : DeviceTables) (changes : List DeviceChange) : Prop where
  groupId : RowEdits.ColumnKept (·.device.row.groupId) DeviceChange.groupId first tables changes
  displayName : RowEdits.ColumnKept (·.device.row.displayName) DeviceChange.displayName first tables
    changes
  status : RowEdits.ColumnKept (·.device.row.status) DeviceChange.status first tables changes
  deviceType : RowEdits.ColumnKept (·.device.row.deviceType) DeviceChange.deviceType first tables
    changes
  credentialHash : RowEdits.ColumnKept (·.device.row.credentialHash) DeviceChange.credentialHash
    first tables changes
  sensors : RowEdits.ColumnKept sensorsOf (fun change => change.sensors.map (↑)) first tables changes
  streamPaths : RowEdits.ColumnKept streamsOf (fun change => change.streamPaths.map (↑)) first tables
    changes
  policyVersion : RowEdits.CounterKept (·.device.row.policyVersion) first tables changes

/-- The stored hash accepts the credential, and its version is the one that was returned. -/
structure IssueMatches (platform : Platform) (row : DeviceRow) (issue : DeviceCredentialIssue) :
    Prop where
  hash : PasswordHasher.standard.verify platform.deriveKey issue.credential row.credentialHash.1 =
    .ok true
  version : issue.device.row.credentialVersion = row.credentialVersion

/-- No completed change has been undone by another that did not intend it, each has raised the
policy version, and the credential that was returned last is in force. -/
structure NoLostUpdate (platform : Platform) (first : DeviceTables) (s : DeviceState) : Prop where
  kept : DeviceKept first s.tables (s.log.map SavedDevice.change)
  issued : ∀ issue ∈ RowEdits.lastWanted SavedDevice.issue s.log,
    IssueMatches platform s.tables.device.row issue

/-- A device that is saved was read as it is stored now. -/
def SavesCurrent (s : DeviceState) (action : DeviceAction) : Prop :=
  match action with
  | .save call => ∀ current ∈ (s.calls call).bind DeviceCall.current, current = s.tables.device
  | _ => True

instance (s : DeviceState) : ∀ action, Decidable (SavesCurrent s action)
  | .save call => inferInstanceAs (Decidable
      (∀ current ∈ (s.calls call).bind DeviceCall.current, current = s.tables.device))
  | .start .. | .read _ | .throws _ => inferInstanceAs (Decidable True)

/-! ## One save -/

variable {platform : Platform} {first tables tables' : DeviceTables}

theorem DeviceKept.save {changes : List DeviceChange} {change : DeviceChange}
    (h : DeviceKept first tables changes)
    (hsave : tables.save (tables.device.copy change) = .ok tables') :
    DeviceKept first tables' (changes ++ [change]) := by
  obtain ⟨hrow, hsensors, hstreams⟩ := save_spec hsave
  have hsensorsOf : sensorsOf tables' = (change.sensors.map (↑)).getD (sensorsOf tables) := by
    apply (Multiset.coe_eq_coe.2 hsensors).trans
    rw [RegisteredDevice.copy]
    cases change.sensors with
    | none => rfl
    | some sensors => rfl
  have hstreamsOf : streamsOf tables' = (change.streamPaths.map (↑)).getD (streamsOf tables) := by
    apply (Multiset.coe_eq_coe.2 hstreams).trans
    rw [RegisteredDevice.copy]
    cases change.streamPaths with
    | none => rfl
    | some streamPaths => rfl
  constructor
  · apply h.groupId.concat
    rw [hrow]
    rfl
  · apply h.displayName.concat
    rw [hrow]
    rfl
  · apply h.status.concat
    rw [hrow]
    rfl
  · apply h.deviceType.concat
    rw [hrow]
    rfl
  · apply h.credentialHash.concat
    rw [hrow]
    rfl
  · exact h.sensors.concat hsensorsOf
  · exact h.streamPaths.concat hstreamsOf
  · apply h.policyVersion.concat
    rw [hrow]
    exact Nat.lt_succ_self _

/-- Only a rotation changes the credential, to one that its hash accepts. -/
theorem changeOf_credential {device : RegisteredDevice} {request : DeviceRequest}
    {change : DeviceChange} (h : changeOf platform device request = .ok change) :
    (request.credential = none ∧ change.credentialHash = none) ∨
      ∃ credential hash, request.credential = some credential ∧
        change.credentialHash = some hash ∧
        PasswordHasher.standard.verify platform.deriveKey credential hash.1 = .ok true := by
  cases request with
  | activate =>
      obtain ⟨-, hchange⟩ := CheckedSteps.check_bind_eq_ok_iff.1 h
      cases hchange
      exact Or.inl ⟨rfl, rfl⟩
  | disable =>
      obtain ⟨-, hchange⟩ := CheckedSteps.check_bind_eq_ok_iff.1 h
      cases hchange
      exact Or.inl ⟨rfl, rfl⟩
  | rotateCredential random salt =>
      obtain ⟨encoded, hencoded, h⟩ := CheckedSteps.bind_eq_ok_iff.1 h
      obtain ⟨hash, hhash, hchange⟩ := CheckedSteps.bind_eq_ok_iff.1 h
      cases hchange
      refine Or.inr ⟨generate random, hash, rfl, rfl, ?_⟩
      rw [label_eq_ok_iff.1 hhash]
      exact PasswordHasher.verify_hash hencoded
  | update command =>
      obtain ⟨streamPaths, -, h⟩ := CheckedSteps.bind_eq_ok_iff.1 h
      obtain ⟨status, -, h⟩ := CheckedSteps.bind_eq_ok_iff.1 h
      obtain ⟨-, h⟩ := CheckedSteps.check_bind_eq_ok_iff.1 h
      obtain ⟨groupId, -, h⟩ := CheckedSteps.bind_eq_ok_iff.1 h
      obtain ⟨deviceType, -, h⟩ := CheckedSteps.bind_eq_ok_iff.1 h
      obtain ⟨displayName, -, hchange⟩ := CheckedSteps.bind_eq_ok_iff.1 h
      cases hchange
      exact Or.inl ⟨rfl, rfl⟩

theorem IssueMatches.of_same {row row' : DeviceRow} {issue : DeviceCredentialIssue}
    (h : IssueMatches platform row issue) (hhash : row'.credentialHash = row.credentialHash)
    (hversion : row'.credentialVersion = row.credentialVersion) :
    IssueMatches platform row' issue where
  hash := by
    rw [hhash]
    exact h.hash
  version := h.version.trans hversion.symm

theorem NoLostUpdate.save {s : DeviceState} (h : NoLostUpdate platform first s) {call : ℕ}
    {request : DeviceRequest} {change : DeviceChange}
    (hchange : changeOf platform s.tables.device request = .ok change)
    (hsave : s.tables.save (s.tables.device.copy change) = .ok tables') :
    NoLostUpdate platform first
      { s.setCall call none with
        tables := tables'
        log := s.log ++ [⟨change, s.tables.device.copy change, request.credential⟩] } where
  kept := by
    rw [List.map_append]
    exact h.kept.save hsave
  issued := by
    obtain ⟨hrow, -, -⟩ := save_spec hsave
    rw [RowEdits.lastWanted_concat]
    intro issue hissue
    obtain ⟨hcredential, hhash⟩ | ⟨credential, hash, hcredential, hhash, hverify⟩ :=
      changeOf_credential hchange
    · rw [SavedDevice.issue, hcredential, Option.map_none, Option.none_or] at hissue
      apply (h.issued issue hissue).of_same
      · rw [hrow, RegisteredDevice.copy, hhash]
        rfl
      · rw [hrow, RegisteredDevice.copy, hhash]
        rfl
    · rw [SavedDevice.issue, hcredential, Option.map_some, Option.some_or] at hissue
      cases hissue
      constructor
      · rw [hrow, RegisteredDevice.copy, hhash]
        exact hverify
      · rw [hrow]

/-! ## Every interleaving -/

/-! ## A change that is lost -/

def samplePlatform : Platform where
  deriveKey _ salt _ _ := .ok salt
  lowercase text := text
  equalsIgnoreCase text text' := text == text'

def sampleTables : DeviceTables where
  device :=
    { row := ⟨⟨"uav-1", .refl false⟩, ⟨"alpha", .refl false⟩, ⟨"Scout", .refl false⟩,
        ⟨"hash", .refl false⟩, .active, .drone, 1, 1⟩
      sensors := [⟨"front", "camera", "active", .refl false, .refl false, .refl false⟩]
      streamPaths := [] }
  uniqueSensors := List.nodup_singleton _
  uniqueStreams := List.nodup_nil

def renameDevice : DeviceRequest := .update ⟨none, some "Scout 2", none, none, none, none⟩

/-- The device is renamed, and disabled after it was read for that. -/
def overlappingCalls : List DeviceAction :=
  [.start 0 renameDevice, .read 0, .read 0, .read 0,
    .start 1 .disable, .read 1, .read 1, .read 1, .save 1, .save 0]

/-- The same calls, one after the other. -/
def separateCalls : List DeviceAction :=
  [.start 0 renameDevice, .read 0, .read 0, .read 0, .save 0,
    .start 1 .disable, .read 1, .read 1, .read 1, .save 1]

end GcsSaker.Devices
