import GcsSaker.AllowedAreaVersion
import GcsSaker.TelemetryAlerts
import GcsSaker.TelemetryIsolation

/-!
# Ingestion of telemetry

`TelemetryIngestionService.ingest` writes a sample and evaluates it afterwards, whatever the
repository made of it. So a redelivered sample is evaluated and published again, and one that comes
late takes the place of the newer one in the state of the alerts.
-/

namespace GcsSaker.TelemetryIngestion

open Geofences (GeofenceRepository OutsideState stateKey)
open Machines (Along)
open OperationalEvents (OperationalEventReadModel)
open TelemetryAlerts (Engine MapOperation TelemetryAlertThresholds key ruleKey)
open TelemetryIngestRpc (TelemetryReadModel within)
open TelemetryReads (InMemoryRepository UpsertCall isNewer newest owns)

structure TelemetryIngestionService where
  /-- The evaluator has geofences and a place for events. -/
  geofencing : Bool
  thresholds : TelemetryAlertThresholds

/-- A call with what it reads: the geofences, the clock and fresh identities. -/
structure IngestCall where
  upsert : UpsertCall
  geofences : GeofenceRepository
  identified : geofences.Identified
  now : ℤ
  geofenceUuids : ℕ → String
  alertUuids : ℕ → String

def IngestCall.sample (call : IngestCall) : TelemetryReadModel := call.upsert.telemetry

structure Ingestion where
  repository : InMemoryRepository
  outsideState : OutsideState
  events : List OperationalEventReadModel
  alerts : Engine
  published : List TelemetryReadModel

inductive Failure where
  | store (failure : TelemetryReads.Failure)
  | geofence (failure : Geofences.Failure)
  deriving DecidableEq

/-- `TelemetryAlertRuleEngine.evaluate`, with nothing between its operations. -/
def evaluateAlerts (thresholds : TelemetryAlertThresholds) (uuids : ℕ → String) (engine : Engine)
    (telemetry : TelemetryReadModel) (receivedAt : ℤ) : Engine :=
  (TelemetryAlerts.evaluate thresholds telemetry receivedAt).zipIdx.foldl
    (fun engine operation => engine.perform (uuids operation.2) operation.1) engine

/-- The repository that is given some samples to begin with. -/
def seeded (telemetry : List TelemetryReadModel) : InMemoryRepository where
  eventIds := []
  telemetryByUuid uuid := telemetry.reverse.find? (·.uuid = uuid)
  telemetryHistory uuid := (telemetry.reverse.find? (·.uuid = uuid)).toList.map (⟨0, ·⟩)

namespace Ingestion

def initial (repository : InMemoryRepository) : Ingestion :=
  ⟨repository, fun _ => none, [], .initial, []⟩

variable (service : TelemetryIngestionService) (ingestion : Ingestion) (call : IngestCall)

def ingest : Ingestion × Except Failure TelemetryReadModel :=
  match ingestion.repository.upsertTelemetry call.upsert with
  | (repository, .error failure) => ({ ingestion with repository }, .error (.store failure))
  | (repository, .ok stored) =>
    match Geofences.evaluate (if service.geofencing then some call.geofences else none)
        service.geofencing ingestion.outsideState stored call.now call.geofenceUuids with
    | .error failure => ({ ingestion with repository }, .error (.geofence failure))
    | .ok (outsideState, events) =>
      ({ repository, outsideState
         events := ingestion.events ++ events
         alerts := evaluateAlerts service.thresholds call.alertUuids ingestion.alerts stored call.now
         published := ingestion.published ++ [stored] }, .ok stored)

end Ingestion

/-! ## What the effects write -/

section Effects

variable {engine : Engine}

/-- The cell of `activeRules` that an operation writes. -/
def ruleCell : MapOperation → Option String
  | .see _ _ => none
  | .activate deviceKey _ rule _ => some (ruleKey deviceKey rule)
  | .deactivate deviceKey rule => some (ruleKey deviceKey rule)

theorem activeRules_perform {operation : MapOperation} {cell uuid : String}
    (h : ruleCell operation ≠ some cell) :
    (engine.perform uuid operation).activeRules cell = engine.activeRules cell := by
  cases operation with
  | see deviceKey state => rfl
  | activate deviceKey groupId rule occurredAt =>
      have hne : cell ≠ ruleKey deviceKey rule := fun heq => h (congrArg some heq.symm)
      rw [Engine.perform, Engine.raise]
      split
      · rfl
      · exact Function.update_of_ne hne ..
  | deactivate deviceKey rule =>
      have hne : cell ≠ ruleKey deviceKey rule := fun heq => h (congrArg some heq.symm)
      exact Function.update_of_ne hne ..

theorem devices_perform {operation : MapOperation} {uuid : String}
    (h : (ruleCell operation).isSome) :
    (engine.perform uuid operation).devices = engine.devices := by
  cases operation with
  | see deviceKey state => exact absurd h Bool.false_ne_true
  | activate deviceKey groupId rule occurredAt =>
      rw [Engine.perform, Engine.raise]
      split <;> rfl
  | deactivate deviceKey rule => rfl

theorem activeRules_foldl {operations : List (MapOperation × ℕ)} {uuids : ℕ → String}
    {cell : String} (h : ∀ operation ∈ operations, ruleCell operation.1 ≠ some cell) :
    (operations.foldl (fun engine operation => engine.perform (uuids operation.2) operation.1)
      engine).activeRules cell = engine.activeRules cell := by
  induction operations generalizing engine with
  | nil => rfl
  | cons operation operations ih =>
      rw [List.foldl_cons, ih fun o ho => h o (List.mem_cons_of_mem operation ho),
        activeRules_perform (h operation (List.mem_cons_self ..))]

theorem devices_foldl {operations : List (MapOperation × ℕ)} {uuids : ℕ → String}
    (h : ∀ operation ∈ operations, (ruleCell operation.1).isSome) :
    (operations.foldl (fun engine operation => engine.perform (uuids operation.2) operation.1)
      engine).devices = engine.devices := by
  induction operations generalizing engine with
  | nil => rfl
  | cons operation operations ih =>
      rw [List.foldl_cons, ih fun o ho => h o (List.mem_cons_of_mem operation ho),
        devices_perform (h operation (List.mem_cons_self ..))]

theorem ruleCell_evaluateRule (telemetry : TelemetryReadModel)
    (rule : TelemetryAlerts.AlertRule) (breached : Bool) (occurredAt : ℤ) :
    ruleCell (TelemetryAlerts.evaluateRule telemetry rule breached occurredAt) =
      some (ruleKey (key telemetry) rule) := by
  cases breached <;> rfl

variable (thresholds : TelemetryAlertThresholds) (uuids : ℕ → String)
  (telemetry : TelemetryReadModel) (receivedAt : ℤ)

/-- After its first operation an evaluation writes to the rules of its device only. -/
theorem evaluate_eq_cons : ∃ operations,
    TelemetryAlerts.evaluate thresholds telemetry receivedAt =
      .see (key telemetry) ⟨telemetry.groupId, telemetry.observedAt.getD receivedAt⟩ ::
        operations ∧
    ∀ operation ∈ operations, ∃ rule, ruleCell operation = some (ruleKey (key telemetry) rule) := by
  refine ⟨_, rfl, fun operation hmem => ?_⟩
  simp only [List.mem_cons, List.not_mem_nil, or_false] at hmem
  rcases hmem with rfl | rfl | rfl | rfl
  · exact ⟨_, ruleCell_evaluateRule ..⟩
  · exact ⟨_, ruleCell_evaluateRule ..⟩
  · exact ⟨_, ruleCell_evaluateRule ..⟩
  · exact ⟨_, rfl⟩

theorem devices_evaluateAlerts :
    (evaluateAlerts thresholds uuids engine telemetry receivedAt).devices =
      Function.update engine.devices (key telemetry)
        (some ⟨telemetry.groupId, telemetry.observedAt.getD receivedAt⟩) := by
  obtain ⟨operations, hevaluate, hcells⟩ := evaluate_eq_cons thresholds telemetry receivedAt
  rw [evaluateAlerts, hevaluate, List.zipIdx_cons, List.foldl_cons, devices_foldl]
  · rfl
  · intro operation hmem
    obtain ⟨rule, hcell⟩ := hcells _ (List.fst_mem_of_mem_zipIdx hmem)
    rw [hcell]
    rfl

theorem activeRules_evaluateAlerts {deviceKey : String} (h : deviceKey ≠ key telemetry)
    (rule : TelemetryAlerts.AlertRule) :
    (evaluateAlerts thresholds uuids engine telemetry receivedAt).activeRules
      (ruleKey deviceKey rule) = engine.activeRules (ruleKey deviceKey rule) := by
  obtain ⟨operations, hevaluate, hcells⟩ := evaluate_eq_cons thresholds telemetry receivedAt
  rw [evaluateAlerts, hevaluate, List.zipIdx_cons, List.foldl_cons, activeRules_foldl]
  · rfl
  · intro operation hmem hcell
    obtain ⟨rule', hcell'⟩ := hcells _ (List.fst_mem_of_mem_zipIdx hmem)
    rw [hcell', Option.some.injEq, TelemetryAlerts.ruleKey_inj] at hcell
    exact h hcell.1.symm

/-- The cells of the geofences that were found are all that an evaluation writes. -/
theorem outsideState_foldl {found : List Geofences.Geofence} {point : Geofences.GeoPoint}
    {outside : OutsideState × List OperationalEventReadModel} {cell : String}
    (h : ∀ geofence ∈ found, stateKey telemetry geofence ≠ cell) :
    (found.foldl (Geofences.evaluateGeofence telemetry point receivedAt uuids) outside).1 cell =
      outside.1 cell := by
  induction found generalizing outside with
  | nil => rfl
  | cons geofence found ih =>
      rw [List.foldl_cons, ih fun g hg => h g (List.mem_cons_of_mem geofence hg)]
      exact Function.update_of_ne (h geofence (List.mem_cons_self ..)).symm ..

end Effects

theorem length_of_isUuid {text : String} (h : Geofences.isUuid text = true) :
    text.toList.length = 36 := of_decide_eq_true (Bool.and_eq_true_iff.1 h).1

/-- Identities of geofences are of one length, so the group can be read off the key. -/
theorem stateKey_ne {telemetry telemetry' : TelemetryReadModel}
    {geofence geofence' : Geofences.Geofence} (huuid : telemetry.uuid = telemetry'.uuid)
    (hgroup : telemetry.groupId ≠ telemetry'.groupId)
    (h : Geofences.isUuid geofence.id = true) (h' : Geofences.isUuid geofence'.id = true) :
    stateKey telemetry geofence ≠ stateKey telemetry' geofence' := by
  intro heq
  have hlists := congrArg String.toList heq
  simp only [stateKey, String.toList_append, huuid] at hlists
  have hids := (List.append_inj' hlists
    ((length_of_isUuid h).trans (length_of_isUuid h').symm)).1
  have hvalue := List.append_cancel_right (List.append_cancel_right
    (List.append_cancel_right hids))
  exact hgroup (TelemetryIngestRpc.GroupId.value_inj.1 (String.toList_injective hvalue))

theorem key_ne {telemetry telemetry' : TelemetryReadModel}
    (huuid : telemetry.uuid = telemetry'.uuid) (hgroup : telemetry.groupId ≠ telemetry'.groupId) :
    key telemetry ≠ key telemetry' := by
  intro heq
  have hlists := congrArg String.toList heq
  simp only [key, String.toList_append, huuid] at hlists
  have hvalue := List.append_cancel_right (List.append_cancel_right hlists)
  exact hgroup (TelemetryIngestRpc.GroupId.value_inj.1 (String.toList_injective hvalue))

theorem uuid_eq_of_key_eq {telemetry telemetry' : TelemetryReadModel}
    (hkey : key telemetry = key telemetry') (hgroup : telemetry.groupId = telemetry'.groupId) :
    telemetry.uuid = telemetry'.uuid := by
  have hlists := congrArg String.toList hkey
  simp only [key, hgroup, String.toList_append, List.append_assoc, List.append_cancel_left_eq]
    at hlists
  exact String.toList_injective hlists

/-! ## What ingestion should do -/

/-- The alerts and geofences of the device of a sample are in the same state. -/
structure SameState (telemetry : TelemetryReadModel) (ingestion ingestion' : Ingestion) :
    Prop where
  devices : ingestion'.alerts.devices (key telemetry) = ingestion.alerts.devices (key telemetry)
  activeRules : ∀ rule, ingestion'.alerts.activeRules (ruleKey (key telemetry) rule) =
    ingestion.alerts.activeRules (ruleKey (key telemetry) rule)
  outsideState : ∀ geofence : Geofences.Geofence, Geofences.isUuid geofence.id = true →
    ingestion'.outsideState (stateKey telemetry geofence) =
      ingestion.outsideState (stateKey telemetry geofence)

namespace Ingestion

variable (service : TelemetryIngestionService) (ingestion : Ingestion) (call : IngestCall)

/-- An event that was ingested before changes nothing, and an older sample leaves what was computed
from the stored one. -/
structure FollowsStore : Prop where
  duplicate : ingestion.repository.Known call.sample → (ingestion.ingest service call).1 = ingestion
  late : ∀ latest, ingestion.repository.telemetryByUuid call.sample.uuid = some latest →
    latest ∈ ingestion.published → isNewer latest call.sample = true →
      SameState latest ingestion (ingestion.ingest service call).1

/-- The repository takes the sample, and a point can be made of its coordinates. -/
def TakesEffect : Prop :=
  owns (call.upsert.devices call.sample.uuid)
      (ingestion.repository.telemetryByUuid call.sample.uuid) call.sample = true ∧
    (service.geofencing = true →
      within (-90) 90 call.sample.latitude = true ∧ within (-180) 180 call.sample.longitude = true)

/-- The stored sample of the device and its group is newer, and was evaluated. -/
def Late : Prop :=
  ∃ latest, ingestion.repository.telemetryByUuid call.sample.uuid = some latest ∧
    latest ∈ ingestion.published ∧ isNewer latest call.sample = true ∧
      latest.groupId = call.sample.groupId

def Timely : Prop :=
  ingestion.TakesEffect service call →
    ¬ingestion.repository.Known call.sample ∧ ¬ingestion.Late call

/-! ## What a call does -/

variable {service ingestion call}

theorem evaluate_of_inRange (outside : OutsideState)
    (h : service.geofencing = true →
      within (-90) 90 call.sample.latitude = true ∧
        within (-180) 180 call.sample.longitude = true) :
    ∃ outside' events,
      Geofences.evaluate (if service.geofencing then some call.geofences else none)
          service.geofencing outside call.sample call.now call.geofenceUuids =
        .ok (outside', events) ∧
      ∀ cell, (∀ geofence ∈ call.geofences.findEnabled call.sample.groupId,
        stateKey call.sample geofence ≠ cell) → outside' cell = outside cell := by
  cases hservice : service.geofencing with
  | false => exact ⟨outside, [], rfl, fun _ _ => rfl⟩
  | true =>
      obtain ⟨hlat, hlon⟩ := h hservice
      have hevaluate : Geofences.evaluate (some call.geofences) true outside call.sample call.now
          call.geofenceUuids =
          .ok ((call.geofences.findEnabled call.sample.groupId).foldl
            (Geofences.evaluateGeofence call.sample
              ⟨call.sample.latitude, call.sample.longitude, hlat, hlon⟩ call.now
              call.geofenceUuids) (outside, [])) := by
        simp only [Geofences.evaluate, Geofences.newGeoPoint, dif_pos hlat, dif_pos hlon,
          Except.map]
      exact ⟨_, _, hevaluate, fun cell hcell => outsideState_foldl _ _ _ hcell⟩

theorem evaluate_of_outOfRange (outside : OutsideState) (hservice : service.geofencing = true)
    (h : ¬(within (-90) 90 call.sample.latitude = true ∧
      within (-180) 180 call.sample.longitude = true)) :
    ∃ failure, Geofences.evaluate (if service.geofencing then some call.geofences else none)
      service.geofencing outside call.sample call.now call.geofenceUuids = .error failure := by
  rw [hservice]
  simp only [if_true, Geofences.evaluate, Geofences.newGeoPoint]
  split_ifs with hlat hlon
  · exact absurd ⟨hlat, hlon⟩ h
  · exact ⟨_, rfl⟩
  · exact ⟨_, rfl⟩

theorem upsertTelemetry_snd {repository : InMemoryRepository} {upsert : UpsertCall}
    (h : owns (upsert.devices upsert.telemetry.uuid)
      (repository.telemetryByUuid upsert.telemetry.uuid) upsert.telemetry = true) :
    (repository.upsertTelemetry upsert).2 = .ok upsert.telemetry := by
  by_cases hknown : repository.Known upsert.telemetry
  · rw [repository.upsertTelemetry_of_known h hknown]
  · rw [repository.upsertTelemetry_of_new h hknown]

/-- A call that does not get to its effects changes the repository only. -/
theorem ingest_of_not_takesEffect (h : ¬ingestion.TakesEffect service call) :
    (ingestion.ingest service call).1 =
      { ingestion with repository := (ingestion.repository.upsertTelemetry call.upsert).1 } := by
  unfold ingest
  cases howns : owns (call.upsert.devices call.sample.uuid)
      (ingestion.repository.telemetryByUuid call.sample.uuid) call.sample with
  | false => rw [ingestion.repository.upsertTelemetry_of_not_owns howns]
  | true =>
      have hstored := upsertTelemetry_snd howns
      have hrange : ¬(service.geofencing = true → _) := fun hrange => h ⟨howns, hrange⟩
      obtain ⟨hservice, hrange⟩ := Classical.not_imp.1 hrange
      obtain ⟨failure, hfailure⟩ :=
        evaluate_of_outOfRange ingestion.outsideState hservice hrange
      rw [← Prod.mk.eta (p := ingestion.repository.upsertTelemetry call.upsert), hstored]
      dsimp only
      rw [show call.upsert.telemetry = call.sample from rfl, hfailure]

/-- What a call leaves that gets to its effects. -/
theorem ingest_of_takesEffect (h : ingestion.TakesEffect service call) :
    ∃ outside events,
      (ingestion.ingest service call).1 =
        { repository := (ingestion.repository.upsertTelemetry call.upsert).1
          outsideState := outside
          events := ingestion.events ++ events
          alerts := evaluateAlerts service.thresholds call.alertUuids ingestion.alerts call.sample
            call.now
          published := ingestion.published ++ [call.sample] } ∧
      ∀ cell, (∀ geofence ∈ call.geofences.findEnabled call.sample.groupId,
        stateKey call.sample geofence ≠ cell) → outside cell = ingestion.outsideState cell := by
  obtain ⟨outside, events, hevaluate, hcells⟩ :=
    evaluate_of_inRange ingestion.outsideState h.2
  refine ⟨outside, events, ?_, hcells⟩
  unfold ingest
  rw [← Prod.mk.eta (p := ingestion.repository.upsertTelemetry call.upsert),
    upsertTelemetry_snd h.1]
  dsimp only
  rw [show call.upsert.telemetry = call.sample from rfl, hevaluate]

/-! ## The run -/

/-- The engine has last seen the stored sample of each device, once that was evaluated. -/
structure Tracked (service : TelemetryIngestionService) (ingestion : Ingestion) : Prop where
  uuid : ∀ uuid latest, ingestion.repository.telemetryByUuid uuid = some latest →
    latest.uuid = uuid
  inRange : service.geofencing = true → ∀ telemetry ∈ ingestion.published,
    within (-90) 90 telemetry.latitude = true ∧ within (-180) 180 telemetry.longitude = true
  lastSeen : ∀ uuid latest, ingestion.repository.telemetryByUuid uuid = some latest →
    latest ∈ ingestion.published → ∀ observedAt ∈ latest.observedAt,
      ∀ state ∈ ingestion.alerts.devices (key latest), state.groupId = latest.groupId →
        state.lastSeenAt = observedAt

theorem upsertTelemetry_fst_of_known {repository : InMemoryRepository} {upsert : UpsertCall}
    (h : repository.Known upsert.telemetry) : (repository.upsertTelemetry upsert).1 = repository := by
  cases howns : owns (upsert.devices upsert.telemetry.uuid)
      (repository.telemetryByUuid upsert.telemetry.uuid) upsert.telemetry with
  | false => rw [repository.upsertTelemetry_of_not_owns howns]
  | true => rw [repository.upsertTelemetry_of_known howns h]

theorem telemetryByUuid_of_new {repository : InMemoryRepository} {upsert : UpsertCall}
    (howns : owns (upsert.devices upsert.telemetry.uuid)
      (repository.telemetryByUuid upsert.telemetry.uuid) upsert.telemetry = true)
    (hnew : ¬repository.Known upsert.telemetry) :
    (repository.upsertTelemetry upsert).1.telemetryByUuid =
      Function.update repository.telemetryByUuid upsert.telemetry.uuid
        (some (newest (repository.telemetryByUuid upsert.telemetry.uuid) upsert.telemetry)) := by
  rw [repository.upsertTelemetry_of_new howns hnew, InMemoryRepository.put_eq]

/-- The sample that is stored after a new one is the new one, or one that is newer. -/
theorem newest_cases (stored : Option TelemetryReadModel) (sample : TelemetryReadModel) :
    newest stored sample = sample ∨
      ∃ latest, stored = some latest ∧ isNewer latest sample = true ∧
        newest stored sample = latest := by
  cases stored with
  | none => exact .inl rfl
  | some latest =>
      cases hnewer : isNewer latest sample with
      | false => exact .inl (by rw [newest, hnewer]; rfl)
      | true => exact .inr ⟨latest, rfl, hnewer, by rw [newest, hnewer]; rfl⟩

theorem isNewer_iff {latest sample : TelemetryReadModel} :
    isNewer latest sample = true ↔
      ∃ stored ∈ latest.observedAt, ∃ observed ∈ sample.observedAt, observed < stored := by
  unfold isNewer
  cases latest.observedAt with
  | none => simp
  | some stored => cases sample.observedAt <;> simp

/-- A sample that was stored before, or the one of the call. -/
theorem telemetryByUuid_cases {repository : InMemoryRepository} {upsert : UpsertCall}
    {uuid : String} {latest : TelemetryReadModel}
    (h : (repository.upsertTelemetry upsert).1.telemetryByUuid uuid = some latest) :
    repository.telemetryByUuid uuid = some latest ∨
      uuid = upsert.telemetry.uuid ∧ latest = upsert.telemetry := by
  cases howns : owns (upsert.devices upsert.telemetry.uuid)
      (repository.telemetryByUuid upsert.telemetry.uuid) upsert.telemetry with
  | false =>
      rw [repository.upsertTelemetry_of_not_owns howns] at h
      exact .inl h
  | true =>
      by_cases hknown : repository.Known upsert.telemetry
      · rw [upsertTelemetry_fst_of_known hknown] at h
        exact .inl h
      · rw [telemetryByUuid_of_new howns hknown] at h
        by_cases huuid : uuid = upsert.telemetry.uuid
        · subst huuid
          rw [Function.update_self, Option.some.injEq] at h
          rcases newest_cases (repository.telemetryByUuid upsert.telemetry.uuid)
            upsert.telemetry with hsample | ⟨stored, hstored, -, hnewest⟩
          · exact .inr ⟨rfl, h.symm.trans hsample⟩
          · exact .inl (hstored.trans (congrArg some (hnewest.symm.trans h)))
        · rw [Function.update_of_ne huuid] at h
          exact .inl h

theorem Tracked.of_not_takesEffect (h : Tracked service ingestion)
    (hno : ¬ingestion.TakesEffect service call) :
    Tracked service (ingestion.ingest service call).1 := by
  rw [ingest_of_not_takesEffect hno]
  refine ⟨fun uuid latest hlatest => ?_, h.inRange, fun uuid latest hlatest hmem => ?_⟩
  · rcases telemetryByUuid_cases hlatest with hstored | ⟨huuid, hsample⟩
    · exact h.uuid uuid latest hstored
    · rw [hsample, huuid]
  · cases howns : owns (call.upsert.devices call.sample.uuid)
        (ingestion.repository.telemetryByUuid call.sample.uuid) call.sample with
    | false =>
        rw [ingestion.repository.upsertTelemetry_of_not_owns howns] at hlatest
        exact h.lastSeen uuid latest hlatest hmem
    | true =>
        rcases telemetryByUuid_cases hlatest with hstored | ⟨-, rfl⟩
        · exact h.lastSeen uuid latest hstored hmem
        · -- what was published had a point, so this sample would have had its effects
          exact absurd ⟨howns, fun hservice => h.inRange hservice _ hmem⟩ hno

theorem Tracked.of_takesEffect (h : Tracked service ingestion)
    (heffect : ingestion.TakesEffect service call) (hnew : ¬ingestion.repository.Known call.sample)
    (htimely : ¬ingestion.Late call) : Tracked service (ingestion.ingest service call).1 := by
  obtain ⟨outside, events, hingest, -⟩ := ingest_of_takesEffect heffect
  rw [hingest]
  refine ⟨fun uuid latest hlatest => ?_, fun hservice telemetry hmem => ?_,
    fun uuid latest hlatest hmem observedAt hobserved state hstate hgroup => ?_⟩
  · rcases telemetryByUuid_cases hlatest with hstored | ⟨huuid, hsample⟩
    · exact h.uuid uuid latest hstored
    · rw [hsample, huuid]
  · rcases List.mem_append.1 hmem with hold | hsample
    · exact h.inRange hservice telemetry hold
    · rw [List.mem_singleton.1 hsample]
      exact heffect.2 hservice
  · dsimp only at hlatest hstate hmem
    rw [devices_evaluateAlerts] at hstate
    by_cases hsample : latest = call.sample
    · rw [hsample, Function.update_self, Option.mem_def, Option.some.injEq] at hstate
      rw [hsample, Option.mem_def] at hobserved
      rw [← hstate, hobserved, Option.getD_some]
    · have hpublished : latest ∈ ingestion.published := by
        rcases List.mem_append.1 hmem with hold | hlast
        · exact hold
        · exact absurd (List.mem_singleton.1 hlast) hsample
      have hstored : ingestion.repository.telemetryByUuid uuid = some latest :=
        (telemetryByUuid_cases hlatest).resolve_right fun hcall => hsample hcall.2
      by_cases hkey : key latest = key call.sample
      · rw [hkey, Function.update_self, Option.mem_def, Option.some.injEq] at hstate
        have hsame : latest.groupId = call.sample.groupId := by rw [← hgroup, ← hstate]
        have huuid : uuid = call.sample.uuid :=
          (h.uuid uuid latest hstored).symm.trans (uuid_eq_of_key_eq hkey hsame)
        subst huuid
        have hnewest : newest (ingestion.repository.telemetryByUuid call.sample.uuid)
            call.sample = latest := by
          rw [telemetryByUuid_of_new heffect.1 hnew] at hlatest
          change Function.update _ call.sample.uuid _ _ = _ at hlatest
          rw [Function.update_self] at hlatest
          exact Option.some.inj hlatest
        rcases newest_cases _ call.sample with hcall | ⟨stored, -, hnewer, heq⟩
        · exact absurd (hnewest.symm.trans hcall) hsample
        · rw [← heq.symm.trans hnewest] at hstored hpublished hsame
          exact absurd ⟨stored, hstored, hpublished, hnewer, hsame⟩ htimely
      · rw [Function.update_of_ne hkey] at hstate
        exact h.lastSeen uuid latest hstored hpublished observedAt hobserved state hstate hgroup

theorem Tracked.ingest (h : Tracked service ingestion) (htimely : ingestion.Timely service call) :
    Tracked service (ingestion.ingest service call).1 := by
  by_cases heffect : ingestion.TakesEffect service call
  · obtain ⟨hnew, hlate⟩ := htimely heffect
    exact h.of_takesEffect heffect hnew hlate
  · exact h.of_not_takesEffect heffect

theorem FollowsStore.timely (h : Tracked service ingestion)
    (hfollows : ingestion.FollowsStore service call) : ingestion.Timely service call := by
  intro heffect
  obtain ⟨outside, events, hingest, -⟩ := ingest_of_takesEffect heffect
  refine ⟨fun hknown => ?_, ?_⟩
  · have hpublished := congrArg published (hfollows.duplicate hknown)
    rw [hingest] at hpublished
    have hlength := congrArg List.length hpublished
    rw [List.length_append, List.length_singleton] at hlength
    omega
  · rintro ⟨latest, hstored, hpublished, hnewer, hgroup⟩
    have hkey : key latest = key call.sample := by
      rw [key, key, hgroup, h.uuid _ latest hstored]
    have hdevices := (hfollows.late latest hstored hpublished hnewer).devices
    rw [hingest, devices_evaluateAlerts, hkey, Function.update_self] at hdevices
    obtain ⟨stored, hs, observed, ho, hlt⟩ := isNewer_iff.1 hnewer
    rw [Option.mem_def] at ho
    have hseen := h.lastSeen _ latest hstored hpublished stored hs _
      (hkey ▸ hdevices.symm) hgroup.symm
    rw [ho, Option.getD_some] at hseen
    exact hlt.ne hseen

theorem Timely.followsStore (h : Tracked service ingestion)
    (htimely : ingestion.Timely service call) : ingestion.FollowsStore service call := by
  by_cases heffect : ingestion.TakesEffect service call
  · obtain ⟨hnew, hlate⟩ := htimely heffect
    obtain ⟨outside, events, hingest, hcells⟩ := ingest_of_takesEffect heffect
    refine ⟨fun hknown => absurd hknown hnew, fun latest hstored hpublished hnewer => ?_⟩
    have huuid := h.uuid _ latest hstored
    have hgroup : latest.groupId ≠ call.sample.groupId :=
      fun hgroup => hlate ⟨latest, hstored, hpublished, hnewer, hgroup⟩
    have hkey := key_ne huuid hgroup
    rw [hingest]
    refine ⟨?_, fun rule => ?_, fun geofence hid => ?_⟩
    · exact (congrFun (devices_evaluateAlerts ..) _).trans (Function.update_of_ne hkey ..)
    · exact activeRules_evaluateAlerts _ _ _ _ hkey rule
    · apply hcells
      intro found hfound
      exact stateKey_ne huuid.symm hgroup.symm
        (call.identified.isUuid call.sample.groupId found hfound) hid
  · have hingest := ingest_of_not_takesEffect heffect
    refine ⟨fun hknown => ?_, fun latest _ _ _ => ?_⟩
    · rw [hingest, upsertTelemetry_fst_of_known hknown]
    · rw [hingest]
      exact ⟨rfl, fun _ => rfl, fun _ _ => rfl⟩

theorem tracked_initial (service : TelemetryIngestionService) (telemetry : List TelemetryReadModel) :
    Tracked service (initial (seeded telemetry)) where
  uuid uuid latest h := by
    have hfound : telemetry.reverse.find? (·.uuid = uuid) = some latest := h
    simpa using List.find?_some hfound
  inRange _ _ h := nomatch h
  lastSeen _ _ _ h := nomatch h

end Ingestion

/-- Every call does what it should to its effects if and only if none that gets to them brings a
known event or a sample older than the stored one of its device. -/
theorem effects_follow_store (service : TelemetryIngestionService)
    (telemetry : List TelemetryReadModel) (calls : List IngestCall) :
    Along (Ingestion.ingest service) (Ingestion.FollowsStore service)
        (.initial (seeded telemetry)) calls ↔
      Along (Ingestion.ingest service) (Ingestion.Timely service)
        (.initial (seeded telemetry)) calls := by
  have hiff : ∀ ingestion call, Ingestion.Tracked service ingestion →
      (Ingestion.FollowsStore service ingestion call ↔ Ingestion.Timely service ingestion call) :=
    fun ingestion call h => ⟨fun hfollows => hfollows.timely h, fun htimely => htimely.followsStore h⟩
  have hstep : ∀ ingestion call, Ingestion.Tracked service ingestion →
      Ingestion.Timely service ingestion call →
        Ingestion.Tracked service (ingestion.ingest service call).1 :=
    fun ingestion call h htimely => h.ingest htimely
  exact Machines.along_congr hiff hstep (Ingestion.tracked_initial service telemetry)

def callAt (eventId : String) (seconds : ℤ) : IngestCall where
  upsert := ⟨{ TelemetryReads.sample "device-001" TelemetryReads.alpha eventId with
    observedAt := some (seconds * Clock.second) }, fun _ => none, 0, ""⟩
  geofences := .inMemory []
  identified := by decide
  now := 60 * Clock.second
  geofenceUuids := toString
  alertUuids := toString

/-- A redelivered sample is published again, and a late one replaces the time last seen. -/
theorem effects_follow_store_counterexample :
    ¬Along (Ingestion.ingest ⟨false, {}⟩) (Ingestion.FollowsStore ⟨false, {}⟩)
        (.initial (seeded [])) [callAt "1" 10, callAt "1" 10] ∧
      ¬Along (Ingestion.ingest ⟨false, {}⟩) (Ingestion.FollowsStore ⟨false, {}⟩)
        (.initial (seeded [])) [callAt "1" 10, callAt "2" 5] := by
  constructor
  · rintro ⟨-, hagain, -⟩
    have hpublished := congrArg (·.published.length) (hagain.duplicate ⟨"1", rfl, by decide⟩)
    exact absurd hpublished (by decide)
  · rintro ⟨-, hlate, -⟩
    have hdevices := (hlate.late (callAt "1" 10).sample (by decide) (by decide) (by decide)).devices
    exact absurd hdevices (by decide)

end GcsSaker.TelemetryIngestion
