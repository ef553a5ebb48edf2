import GcsSaker.TelemetryReads

/-!
# Telemetry of other devices

Both repositories are stores that take every event identity once, whichever device it comes from.
The samples of other devices leave what is kept of a device as it is exactly as long as no event
identity that the device brings has been taken from another one.
-/

namespace GcsSaker.TelemetryReads

open DedupStore (Deduplicates Reading)
open Machines (Along final)
open TelemetryIngestRpc (GroupId TelemetryReadModel)

/-- What is kept of a device: its latest sample and its history. -/
abbrev View := Option TelemetryReadModel × List TelemetryHistoryReadModel

def View.add (view : View) (row : TelemetryHistoryReadModel) : View :=
  (some (newest view.1 row.telemetry), view.2 ++ [row])

def events (history : List TelemetryHistoryReadModel) : List String :=
  history.filterMap (·.telemetry.eventId)

theorem mem_events_concat {history : List TelemetryHistoryReadModel}
    {row : TelemetryHistoryReadModel} {id : String} :
    id ∈ events (history ++ [row]) ↔ id ∈ events history ∨ id ∈ row.telemetry.eventId := by
  simp [events]

namespace InMemoryRepository

/-- The repository after a sequence of calls. -/
def after (calls : List UpsertCall) : InMemoryRepository := final upsertTelemetry empty calls

def view (repository : InMemoryRepository) (uuid : String) : View :=
  (repository.telemetryByUuid uuid, repository.telemetryHistory uuid)

/-- No event of a sample of the device that passes the ownership check has been taken from another
device. -/
def Undisturbed (uuid : String) (repository : InMemoryRepository) (call : UpsertCall) : Prop :=
  call.telemetry.uuid = uuid →
    owns (call.devices uuid) (repository.telemetryByUuid uuid) call.telemetry = true →
      ∀ id ∈ call.telemetry.eventId, id ∈ repository.eventIds → id ∈ events (repository.telemetryHistory uuid)

instance {uuid : String} {repository : InMemoryRepository} {call : UpsertCall} :
    Decidable (Undisturbed uuid repository call) :=
  inferInstanceAs (Decidable (_ → _ → ∀ _ ∈ call.telemetry.eventId, _ → _))

def reading : Reading InMemoryRepository UpsertCall String String View where
  key call := call.telemetry.uuid
  id call := call.telemetry.eventId
  taken repository := {id | id ∈ repository.eventIds}
  entry := view
  held view := {id | id ∈ events view.2}
  take stored call :=
    if owns (call.devices call.telemetry.uuid) stored.1 call.telemetry then
      some (stored.add ⟨call.now, call.telemetry⟩)
    else none

theorem undisturbed_eq (uuid : String) : Undisturbed uuid = reading.Undisturbed uuid := by
  funext repository call
  refine propext (forall_congr' fun hkey => ?_)
  subst hkey
  simp only [reading, view, ne_eq, ite_eq_right_iff, reduceCtorEq, imp_false, not_not]
  rfl

theorem view_put (repository : InMemoryRepository) (now : ℤ) (sample : TelemetryReadModel)
    (uuid : String) :
    (repository.put now sample).view uuid =
      if sample.uuid = uuid then (repository.view uuid).add ⟨now, sample⟩
      else repository.view uuid := by
  rw [put_eq]
  split_ifs with h
  · subst h
    simp only [view, View.add, Function.update_self]
  · simp only [view, Function.update_of_ne (Ne.symm h)]

theorem deduplicates : Deduplicates upsertTelemetry reading where
  other repository call uuid hkey := by
    cases howns : owns (call.devices call.telemetry.uuid)
        (repository.telemetryByUuid call.telemetry.uuid) call.telemetry with
    | false => rw [upsertTelemetry_of_not_owns repository howns]
    | true =>
        by_cases hknown : repository.Known call.telemetry
        · rw [upsertTelemetry_of_known repository howns hknown]
        · rw [upsertTelemetry_of_new repository howns hknown]
          exact (view_put _ _ _ _).trans (if_neg hkey)
  passed repository call hpass := by
    cases howns : owns (call.devices call.telemetry.uuid)
        (repository.telemetryByUuid call.telemetry.uuid) call.telemetry with
    | false =>
        rw [upsertTelemetry_of_not_owns repository howns]
        exact ⟨rfl, rfl⟩
    | true =>
        rcases hpass with hnone | hknown
        · exact absurd ((if_pos howns).symm.trans hnone) (Option.some_ne_none _)
        · rw [upsertTelemetry_of_known repository howns hknown]
          exact ⟨rfl, rfl⟩
  taken repository call stored htake hnew := by
    have hknown : ¬repository.Known call.telemetry := fun ⟨id, hid, hmem⟩ => hnew id hid hmem
    simp only [reading, view, Option.ite_none_right_eq_some, Option.some.injEq] at htake
    rw [upsertTelemetry_of_new repository htake.1 hknown, ← htake.2]
    constructor
    · exact (view_put _ _ _ _).trans (if_pos rfl)
    · ext id
      simp only [put_eq, reading, Set.mem_ofPred_eq, List.mem_append, Option.mem_toList,
        Set.mem_union]
      exact or_comm
  held stored call stored' htake := by
    simp only [reading, Option.ite_none_right_eq_some, Option.some.injEq] at htake
    rw [← htake.2]
    exact Set.ext fun id => mem_events_concat

theorem alone (uuid : String) : DedupStore.Alone reading uuid empty empty where
  entry := rfl
  taken := rfl
  held := subset_rfl

end InMemoryRepository

namespace Tables

def after (calls : List UpsertCall) : Tables := final replaceTelemetry empty calls

def view (tables : Tables) (uuid : String) : View :=
  (tables.telemetryLatest uuid, tables.telemetryHistory.filter (·.telemetry.uuid = uuid))

/-- The device whose rows a call is about. -/
def device (call : UpsertCall) : String :=
  ((historyRow call).map (·.telemetry.uuid)).getD call.telemetry.uuid

/-- No event of a row of the device that passes the trigger has been taken from another device. -/
def Undisturbed (uuid : String) (tables : Tables) (call : UpsertCall) : Prop :=
  ∀ row ∈ historyRow call, row.telemetry.uuid = uuid →
    owns (call.devices uuid) (tables.telemetryLatest uuid) row.telemetry = true →
      tables.hasEvent row.telemetry → ∃ id ∈ row.telemetry.eventId, id ∈ events (tables.view uuid).2

instance {uuid : String} {tables : Tables} {call : UpsertCall} :
    Decidable (Undisturbed uuid tables call) :=
  inferInstanceAs (Decidable (∀ _ ∈ historyRow call, _ → _ → _ → _))

def reading : Reading Tables UpsertCall String String View where
  key := device
  id call := (historyRow call).bind (·.telemetry.eventId)
  taken tables := {id | id ∈ events tables.telemetryHistory}
  entry := view
  held view := {id | id ∈ events view.2}
  take stored call := (historyRow call).bind fun row =>
    if owns (call.devices row.telemetry.uuid) stored.1 row.telemetry then some (stored.add row)
    else none

theorem hasEvent_iff (tables : Tables) (row : TelemetryReadModel) :
    tables.hasEvent row = true ↔
      ∃ id ∈ row.eventId, id ∈ events tables.telemetryHistory := by
  cases hid : row.eventId with
  | none => simp [hasEvent, hid]
  | some id => simp [hasEvent, hid, events]

theorem undisturbed_eq (uuid : String) : Undisturbed uuid = reading.Undisturbed uuid := by
  funext tables call
  simp only [Undisturbed, Reading.Undisturbed, reading, device, hasEvent_iff]
  cases hrow : historyRow call with
  | none => simp
  | some row =>
      cases hid : row.telemetry.eventId with
      | none => simp [hid]
      | some id =>
          simp only [Option.mem_def, Option.some.injEq, forall_eq', Option.map_some,
            Option.getD_some, Option.bind_some, hid, exists_eq_left', view]
          refine propext (forall_congr' fun hkey => ?_)
          rw [hkey]
          by_cases howns : owns (call.devices uuid) (tables.telemetryLatest uuid) row.telemetry <;>
            simp [howns]

theorem view_insert (tables : Tables) (row : TelemetryHistoryReadModel) (uuid : String) :
    ((tables.insertHistory row).upsertLatest row.telemetry).view uuid =
      if row.telemetry.uuid = uuid then (tables.view uuid).add row else tables.view uuid := by
  rw [upsertLatest_eq]
  split_ifs with h
  · subst h
    simp [view, View.add, insertHistory]
  · simp [view, insertHistory, Function.update_of_ne (Ne.symm h), h]

theorem deduplicates : Deduplicates replaceTelemetry reading where
  other tables call uuid hkey := by
    cases hrow : historyRow call with
    | none => rw [replaceTelemetry_of_none tables hrow]
    | some row =>
        have hother : row.telemetry.uuid ≠ uuid := by
          simpa only [reading, device, hrow, Option.map_some, Option.getD_some] using hkey
        rw [replaceTelemetry_of_some tables hrow]
        split_ifs
        · rfl
        · exact (view_insert tables row uuid).trans (if_neg hother)
        · rfl
  passed tables call hpass := by
    cases hrow : historyRow call with
    | none =>
        rw [replaceTelemetry_of_none tables hrow]
        exact ⟨rfl, rfl⟩
    | some row =>
        simp only [Reading.Passes, reading, device, hrow, Option.map_some, Option.getD_some,
          Option.bind_some, ite_eq_right_iff, reduceCtorEq, imp_false, Set.mem_ofPred_eq,
          ← hasEvent_iff, view] at hpass
        rw [replaceTelemetry_of_some tables hrow]
        split_ifs with howns hknown
        · exact ⟨rfl, rfl⟩
        · exact absurd hpass (not_or.2 ⟨not_not.2 howns, hknown⟩)
        · exact ⟨rfl, rfl⟩
  taken tables call stored htake hnew := by
    simp only [reading, Option.bind_eq_some_iff, Option.ite_none_right_eq_some,
      Option.some.injEq, device] at htake
    obtain ⟨row, hrow, howns, rfl⟩ := htake
    simp only [hrow, Option.map_some, Option.getD_some, view] at howns
    have hknown : ¬tables.hasEvent row.telemetry = true := by
      rw [hasEvent_iff]
      rintro ⟨id, hid, hmem⟩
      refine hnew id ?_ hmem
      simpa only [reading, hrow, Option.bind_some] using hid
    rw [replaceTelemetry_of_some tables hrow, if_pos howns, if_neg hknown]
    simp only [reading, device, hrow, Option.map_some, Option.getD_some, Option.bind_some]
    constructor
    · exact (view_insert tables row _).trans (if_pos rfl)
    · exact Set.ext fun id => mem_events_concat
  held stored call stored' htake := by
    simp only [reading, Option.bind_eq_some_iff, Option.ite_none_right_eq_some,
      Option.some.injEq] at htake
    obtain ⟨row, hrow, -, rfl⟩ := htake
    simp only [reading, hrow, Option.bind_some]
    exact Set.ext fun id => mem_events_concat

theorem alone (uuid : String) : DedupStore.Alone reading uuid empty empty where
  entry := rfl
  taken := rfl
  held := subset_rfl

end Tables

/-! ## Interference -/

/-- For either repository and any device, the samples of the other devices do not matter to what
is kept of the device exactly as long as they do not disturb it. -/
theorem devices_do_not_interfere (uuid : String) (calls calls' : List UpsertCall) :
    ((InMemoryRepository.after calls).view uuid =
        (InMemoryRepository.after (calls.filter (·.telemetry.uuid = uuid))).view uuid ↔
      Along InMemoryRepository.upsertTelemetry (InMemoryRepository.Undisturbed uuid) .empty
        calls) ∧
    ((Tables.after calls).view uuid =
        (Tables.after (calls.filter (Tables.device · = uuid))).view uuid ↔
      Along Tables.replaceTelemetry (Tables.Undisturbed uuid) .empty calls) ∧
    (calls.filter (·.telemetry.uuid = uuid) = calls'.filter (·.telemetry.uuid = uuid) →
      Along InMemoryRepository.upsertTelemetry (InMemoryRepository.Undisturbed uuid) .empty
        calls →
      Along InMemoryRepository.upsertTelemetry (InMemoryRepository.Undisturbed uuid) .empty
        calls' →
      (InMemoryRepository.after calls).view uuid =
        (InMemoryRepository.after calls').view uuid) ∧
    (calls.filter (Tables.device · = uuid) = calls'.filter (Tables.device · = uuid) →
      Along Tables.replaceTelemetry (Tables.Undisturbed uuid) .empty calls →
      Along Tables.replaceTelemetry (Tables.Undisturbed uuid) .empty calls' →
      (Tables.after calls).view uuid = (Tables.after calls').view uuid) := by
  rw [InMemoryRepository.undisturbed_eq, Tables.undisturbed_eq]
  have hmemory := InMemoryRepository.alone uuid
  have htables := Tables.alone uuid
  exact ⟨InMemoryRepository.deduplicates.final_eq_iff hmemory,
    Tables.deduplicates.final_eq_iff htables,
    InMemoryRepository.deduplicates.final_eq_of_undisturbed hmemory,
    Tables.deduplicates.final_eq_of_undisturbed htables⟩

/-- A sample of nothing but its device, its group and its event. -/
def sample (uuid : String) (groupId : GroupId) (eventId : String) : TelemetryReadModel where
  uuid := uuid
  latitude := 0
  longitude := 0
  altitude := 0
  magneticX := 0
  magneticY := 0
  magneticZ := 0
  soc := "0"
  phoneBatterySOC := 0
  velocity := 0
  totalDistance := 0
  epochTime := "00:00:00"
  portDistance := 0
  groupId := groupId
  batteryPercent := none
  headingDeg := none
  rollDeg := none
  pitchDeg := none
  yawDeg := none
  linkQualityPercent := none
  observedAt := none
  eventId := some eventId
  sessionId := none
  streamId := none

def sampleCall (uuid : String) (groupId : GroupId) (eventId : String) : UpsertCall :=
  ⟨sample uuid groupId eventId, fun _ => none, 0, "legacy:0"⟩

def alpha : GroupId := ⟨"alpha", .refl false⟩

def bravo : GroupId := ⟨"bravo", .refl false⟩

/-- A device of another group that sends the event first suppresses the sample. -/
theorem devices_do_not_interfere_counterexample :
    ∃ calls calls' : List UpsertCall,
      calls.filter (·.telemetry.uuid = "a") = calls'.filter (·.telemetry.uuid = "a") ∧
      calls.filter (Tables.device · = "a") = calls'.filter (Tables.device · = "a") ∧
      (InMemoryRepository.after calls).telemetryByUuid "a" ≠
        (InMemoryRepository.after calls').telemetryByUuid "a" ∧
      (Tables.after calls).telemetryLatest "a" ≠ (Tables.after calls').telemetryLatest "a" := by
  refine ⟨[sampleCall "b" bravo "e", sampleCall "a" alpha "e"], [sampleCall "a" alpha "e"], rfl,
    ?_, ?_, ?_⟩
  · rfl
  · decide
  · decide

/-- Two devices whose events differ, in either order. -/
theorem devices_do_not_interfere_sample :
    (InMemoryRepository.after [sampleCall "b" bravo "1", sampleCall "a" alpha "2"]).view "a" =
        (InMemoryRepository.after [sampleCall "a" alpha "2", sampleCall "b" bravo "1"]).view "a" ∧
      (Tables.after [sampleCall "b" bravo "1", sampleCall "a" alpha "2"]).view "a" =
        (Tables.after [sampleCall "a" alpha "2", sampleCall "b" bravo "1"]).view "a" := by
  obtain ⟨-, -, hmemory, htables⟩ := devices_do_not_interfere "a"
    [sampleCall "b" bravo "1", sampleCall "a" alpha "2"]
    [sampleCall "a" alpha "2", sampleCall "b" bravo "1"]
  exact ⟨hmemory rfl (by decide) (by decide), htables rfl (by decide) (by decide)⟩

end GcsSaker.TelemetryReads
