import GcsSaker.AlarmLatches
import GcsSaker.TelemetryAlertSafety
import GcsSaker.TelemetryIngestion

/-!
# The delivery of alerts

Both evaluators of samples record the state of a device and append the alert afterwards. An append
that throws ends the call, and the state stays recorded, so later samples of the same breach are
taken for reported. As long as no append fails, every breach has its alert.
-/

namespace GcsSaker.AlertDelivery

open AlarmLatches (Alerted Check InBreach Kept Record due)
open Geofences (Geofence GeofenceRepository OutsideState evaluateGeofence exitEvent
  newGeoPoint stateKey)
open Machines (Along final)
open OperationalEvents (OperationalEventReadModel)
open TelemetryAlerts (ALERT_RULES AlertRule Engine MapOperation TelemetryAlertThresholds alertEvent
  evaluateRule key ruleKey)
open TelemetryIngestRpc (GroupId TelemetryReadModel)
open TelemetryIngestion (evaluateAlerts)

/-- A call of `evaluate` with fresh identities for its events; `appends n` says whether an append
succeeds that comes after `n` others of the call. -/
structure EvaluateCall where
  telemetry : TelemetryReadModel
  receivedAt : ℤ
  uuids : ℕ → String
  appends : ℕ → Bool

structure Device where
  groupId : GroupId
  uuid : String
  deriving DecidableEq

def deviceOf (telemetry : TelemetryReadModel) : Device := ⟨telemetry.groupId, telemetry.uuid⟩

/-- The alerts that a call appended, with what they are for, and whether the call returned
normally. -/
structure Outcome (σ β : Type) where
  state : σ
  appended : List (β × OperationalEventReadModel)
  returned : Bool

/-! ## The calls -/

/-- The operations of `TelemetryAlertRuleEngine.evaluate`, after `count` appends. -/
def evaluateRules (call : EvaluateCall) :
    List (MapOperation × ℕ) → Engine → ℕ → Outcome Engine AlertRule
  | [], engine, _ => ⟨engine, [], true⟩
  | (.activate deviceKey groupId rule occurredAt, index) :: operations, engine, count =>
    if engine.activeRules (ruleKey deviceKey rule) then
      evaluateRules call operations engine count
    else if call.appends count then
      let rest := evaluateRules call operations
        (engine.raise deviceKey groupId rule occurredAt (call.uuids index)) (count + 1)
      { rest with
        appended := (rule, alertEvent (call.uuids index) groupId rule occurredAt) :: rest.appended }
    else ⟨engine.setRuleState deviceKey rule true, [], false⟩
  | (operation, index) :: operations, engine, count =>
    evaluateRules call operations (engine.perform (call.uuids index) operation) count

/-- The loop of `GeofenceTelemetryEvaluator.evaluate`, after `count` appends. -/
def evaluateGeofences (call : EvaluateCall) (point : Geofences.GeoPoint) :
    List Geofence → OutsideState → ℕ → Outcome OutsideState Geofence
  | [], state, _ => ⟨state, [], true⟩
  | geofence :: geofences, state, count =>
    let key := stateKey call.telemetry geofence
    let outside := !geofence.contains point
    let wasOutside := (state key).getD false
    let put := Function.update state key (some outside)
    if outside && !wasOutside then
      if call.appends count then
        let rest := evaluateGeofences call point geofences put (count + 1)
        { rest with
          appended := (geofence, exitEvent (call.uuids count) call.telemetry geofence
            call.receivedAt) :: rest.appended }
      else ⟨put, [], false⟩
    else evaluateGeofences call point geofences put count

/-! ## Runs of calls -/

/-- An evaluator, and what its calls saw and appended; the latest call is the first. -/
structure Monitor (σ β : Type) where
  state : σ
  log : List (Record (Device × β))

/-- The state after a call, in which `view` tells the state of the device. -/
def Monitor.after {σ β : Type} (monitor : Monitor σ β) (call : EvaluateCall)
    (view : β → Option Bool) (outcome : Outcome σ β) : Monitor σ β × Bool :=
  (⟨outcome.state,
    ⟨fun alarm => if deviceOf call.telemetry = alarm.1 then view alarm.2 else none,
      outcome.appended.map fun alert => (deviceOf call.telemetry, alert.1)⟩ :: monitor.log⟩,
    outcome.returned)

/-- The sample breaches the rule; no sample breaches the rule of the timeout. -/
def breached (thresholds : TelemetryAlertThresholds) (telemetry : TelemetryReadModel) :
    AlertRule → Bool
  | .batteryLow => telemetry.batteryPercent.any fun it => it < thresholds.batteryLowPercent
  | .tiltAbnormal => (telemetry.rollDeg.toList ++ telemetry.pitchDeg.toList).any
      fun it => thresholds.tiltAbnormalDeg < it.abs
  | .linkQualityLow =>
    telemetry.linkQualityPercent.any fun it => it < thresholds.linkQualityLowPercent
  | .telemetryTimeout => false

abbrev RuleMonitor := Monitor Engine AlertRule

abbrev GeofenceMonitor := Monitor OutsideState Geofence

namespace RuleMonitor

def initial : RuleMonitor := ⟨.initial, []⟩

def step (thresholds : TelemetryAlertThresholds) (monitor : RuleMonitor) (call : EvaluateCall) :
    RuleMonitor × Bool :=
  monitor.after call (fun rule => some (breached thresholds call.telemetry rule))
    (evaluateRules call (TelemetryAlerts.evaluate thresholds call.telemetry call.receivedAt).zipIdx
      monitor.state 0)

/-- The rules that the sample breaches and that are not active. -/
def dueRules (thresholds : TelemetryAlertThresholds) (monitor : RuleMonitor)
    (telemetry : TelemetryReadModel) : List AlertRule :=
  ALERT_RULES.filter fun rule =>
    breached thresholds telemetry rule && !monitor.state.activeRules (ruleKey (key telemetry) rule)

/-- No append fails that the call comes to. -/
def AppendsSucceed (thresholds : TelemetryAlertThresholds) (monitor : RuleMonitor)
    (call : EvaluateCall) : Prop :=
  ∀ n < (monitor.dueRules thresholds call.telemetry).length, call.appends n = true

instance {thresholds : TelemetryAlertThresholds} {monitor : RuleMonitor} {call : EvaluateCall} :
    Decidable (monitor.AppendsSucceed thresholds call) :=
  inferInstanceAs (Decidable (∀ n < _, _))

end RuleMonitor

namespace GeofenceMonitor

def initial : GeofenceMonitor := ⟨fun _ => none, []⟩

/-- A sample whose coordinates are no point ends the call before it reads the geofences. -/
def step (repository : GeofenceRepository) (monitor : GeofenceMonitor) (call : EvaluateCall) :
    GeofenceMonitor × Bool :=
  match newGeoPoint call.telemetry.latitude call.telemetry.longitude with
  | .error _ => monitor.after call (fun _ => none) ⟨monitor.state, [], false⟩
  | .ok point => monitor.after call (fun geofence => some (!geofence.contains point))
      (evaluateGeofences call point (repository.findEnabled call.telemetry.groupId)
        monitor.state 0)

/-- The geofences that the device is outside of and is not yet known to be. -/
def dueGeofences (repository : GeofenceRepository) (monitor : GeofenceMonitor)
    (telemetry : TelemetryReadModel) : List Geofence :=
  match newGeoPoint telemetry.latitude telemetry.longitude with
  | .error _ => []
  | .ok point => (repository.findEnabled telemetry.groupId).filter fun geofence =>
      !geofence.contains point && !(monitor.state (stateKey telemetry geofence)).getD false

/-- No append fails that the call comes to. -/
def AppendsSucceed (repository : GeofenceRepository) (monitor : GeofenceMonitor)
    (call : EvaluateCall) : Prop :=
  ∀ n < (monitor.dueGeofences repository call.telemetry).length, call.appends n = true

instance {repository : GeofenceRepository} {monitor : GeofenceMonitor} {call : EvaluateCall} :
    Decidable (monitor.AppendsSucceed repository call) :=
  inferInstanceAs (Decidable (∀ n < _, _))

end GeofenceMonitor

/-! ## The calls as passes -/

/-- `TelemetryReadModel.key` of the samples of the device. -/
def Device.key (device : Device) : String := device.groupId.value ++ ":" ++ device.uuid

def ruleCell (alarm : Device × AlertRule) : String := ruleKey alarm.1.key alarm.2

def geofenceCell (alarm : Device × Geofence) : String := alarm.1.key ++ ":" ++ alarm.2.id

def ruleChecks (thresholds : TelemetryAlertThresholds) (telemetry : TelemetryReadModel)
    (rules : List AlertRule) : List (Check (Device × AlertRule)) :=
  rules.map fun rule => ⟨(deviceOf telemetry, rule), breached thresholds telemetry rule⟩

def geofenceChecks (telemetry : TelemetryReadModel) (point : Geofences.GeoPoint)
    (geofences : List Geofence) : List (Check (Device × Geofence)) :=
  geofences.map fun geofence => ⟨(deviceOf telemetry, geofence), !geofence.contains point⟩

/-- The state of the map, as the evaluation reads it. -/
def outsideOf (state : OutsideState) (cell : String) : Bool := (state cell).getD false

section Passes

variable (thresholds : TelemetryAlertThresholds) (call : EvaluateCall)

/-- A call stores the sample and evaluates each rule. -/
theorem evaluateRules_evaluate (engine : Engine) :
    evaluateRules call
        (TelemetryAlerts.evaluate thresholds call.telemetry call.receivedAt).zipIdx engine 0 =
      evaluateRules call
        ((ALERT_RULES.map fun rule => evaluateRule call.telemetry rule
          (breached thresholds call.telemetry rule) call.receivedAt).zipIdx 1)
        (engine.perform (call.uuids 0) (.see (key call.telemetry)
          ⟨call.telemetry.groupId, call.telemetry.observedAt.getD call.receivedAt⟩)) 0 := rfl

/-- The rules of a call are checked as latched alarms. -/
theorem evaluateRules_eq_pass (rules : List AlertRule) (index : ℕ) (engine : Engine) (count : ℕ) :
    let outcome := evaluateRules call ((rules.map fun rule => evaluateRule call.telemetry rule
      (breached thresholds call.telemetry rule) call.receivedAt).zipIdx index) engine count
    let pass := AlarmLatches.pass ruleCell call.appends
      (ruleChecks thresholds call.telemetry rules) engine.activeRules count
    outcome.state.activeRules = pass.standing ∧
      outcome.appended.map (fun alert => (deviceOf call.telemetry, alert.1)) = pass.sounded := by
  induction rules generalizing index engine count with
  | nil => exact ⟨rfl, rfl⟩
  | cons rule rules ih =>
      dsimp only at ih ⊢
      have hcell : ruleCell (deviceOf call.telemetry, rule) = ruleKey (key call.telemetry) rule := rfl
      rw [List.map_cons, List.zipIdx_cons, ruleChecks, List.map_cons, AlarmLatches.pass]
      dsimp only
      rw [hcell]
      cases hbad : breached thresholds call.telemetry rule with
      | false =>
          rw [if_neg fun hand => Bool.false_ne_true hand.1]
          exact ih (index + 1) (engine.perform (call.uuids index)
            (.deactivate (key call.telemetry) rule)) count
      | true =>
          rw [evaluateRule, if_pos rfl, evaluateRules]
          cases hactive : engine.activeRules (ruleKey (key call.telemetry) rule) with
          | true =>
              have hsame : Function.update engine.activeRules (ruleKey (key call.telemetry) rule)
                  true = engine.activeRules := by
                rw [← hactive, Function.update_eq_self]
              rw [if_pos rfl, if_neg fun hand => Bool.true_eq_false_eq_False hand.2, hsame]
              exact ih (index + 1) engine count
          | false =>
              have hnew : true = true ∧ false = false := ⟨rfl, rfl⟩
              rw [if_neg Bool.false_ne_true, if_pos hnew]
              cases hsucceeds : call.appends count with
              | false => exact ⟨rfl, rfl⟩
              | true =>
                  rw [if_pos rfl, if_pos rfl]
                  have hrest := ih (index + 1) (engine.raise (key call.telemetry)
                    call.telemetry.groupId rule call.receivedAt (call.uuids index)) (count + 1)
                  rw [TelemetryAlerts.raise_of_not_active hactive] at hrest ⊢
                  exact ⟨hrest.1, congrArg (List.cons _) hrest.2⟩

theorem outsideOf_update (state : OutsideState) (cell : String) (outside : Bool) :
    outsideOf (Function.update state cell (some outside)) =
      Function.update (outsideOf state) cell outside := by
  funext k
  unfold outsideOf
  simp only [Function.update_apply]
  split <;> rfl

/-- The geofences of a call are checked as latched alarms. -/
theorem evaluateGeofences_eq_pass (point : Geofences.GeoPoint) (geofences : List Geofence)
    (state : OutsideState) (count : ℕ) :
    let outcome := evaluateGeofences call point geofences state count
    let pass := AlarmLatches.pass geofenceCell call.appends
      (geofenceChecks call.telemetry point geofences) (outsideOf state) count
    outsideOf outcome.state = pass.standing ∧
      outcome.appended.map (fun alert => (deviceOf call.telemetry, alert.1)) = pass.sounded := by
  induction geofences generalizing state count with
  | nil => exact ⟨rfl, rfl⟩
  | cons geofence geofences ih =>
      dsimp only at ih ⊢
      have hcell : geofenceCell (deviceOf call.telemetry, geofence) =
          stateKey call.telemetry geofence := rfl
      have hread : (state (stateKey call.telemetry geofence)).getD false =
          outsideOf state (stateKey call.telemetry geofence) := rfl
      have hput := outsideOf_update state (stateKey call.telemetry geofence)
        (!geofence.contains point)
      rw [evaluateGeofences, geofenceChecks, List.map_cons, AlarmLatches.pass]
      dsimp only
      rw [hcell, hread]
      by_cases hnew : (!geofence.contains point) = true ∧
          outsideOf state (stateKey call.telemetry geofence) = false
      · rw [if_pos hnew, if_pos (by rw [hnew.1, hnew.2]; rfl)]
        rw [hnew.1] at hput ⊢
        cases hsucceeds : call.appends count with
        | false => exact ⟨hput, rfl⟩
        | true =>
            rw [if_pos rfl, if_pos rfl]
            have hrest := ih (Function.update state (stateKey call.telemetry geofence) (some true))
              (count + 1)
            rw [hput] at hrest
            exact ⟨hrest.1, congrArg (List.cons _) hrest.2⟩
      · have hold : ¬(!geofence.contains point &&
            !outsideOf state (stateKey call.telemetry geofence)) = true := by
          intro hboth
          obtain ⟨hoff, hfresh⟩ := Bool.and_eq_true_iff.1 hboth
          exact hnew ⟨hoff, by rwa [Bool.not_eq_true'] at hfresh⟩
        rw [if_neg hnew, if_neg hold, ← hput]
        exact ih _ count

end Passes

/-! ## No alert is lost -/

/-- No two devices of the samples share their key. -/
def KeysApart (calls : List EvaluateCall) : Prop :=
  ∀ call ∈ calls, ∀ call' ∈ calls,
    key call.telemetry = key call'.telemetry → deviceOf call.telemetry = deviceOf call'.telemetry

instance {calls : List EvaluateCall} : Decidable (KeysApart calls) :=
  inferInstanceAs (Decidable (∀ call ∈ calls, ∀ call' ∈ calls, _ → _))

/-- The devices that the samples are of. -/
def devicesOf (calls : List EvaluateCall) : Set Device :=
  {device | ∃ call ∈ calls, deviceOf call.telemetry = device}

section Kept

variable {thresholds : TelemetryAlertThresholds} {repository : GeofenceRepository}
  {calls : List EvaluateCall} {call : EvaluateCall}

def RuleMonitor.Sound (calls : List EvaluateCall) (monitor : RuleMonitor) : Prop :=
  Kept ruleCell {alarm | alarm.1 ∈ devicesOf calls} monitor.state.activeRules monitor.log

def GeofenceMonitor.Sound (repository : GeofenceRepository) (calls : List EvaluateCall)
    (monitor : GeofenceMonitor) : Prop :=
  Kept geofenceCell
    {alarm | alarm.1 ∈ devicesOf calls ∧ alarm.2 ∈ repository.enabled alarm.1.groupId}
    (outsideOf monitor.state) monitor.log

theorem KeysApart.device_eq (h : KeysApart calls) {device device' : Device}
    (hdevice : device ∈ devicesOf calls) (hdevice' : device' ∈ devicesOf calls)
    (hkey : device.key = device'.key) : device = device' := by
  obtain ⟨call, hcall, rfl⟩ := hdevice
  obtain ⟨call', hcall', rfl⟩ := hdevice'
  exact h call hcall call' hcall' hkey

theorem KeysApart.ruleCell_injOn (h : KeysApart calls) :
    Set.InjOn ruleCell {alarm | alarm.1 ∈ devicesOf calls} := by
  rintro ⟨device, rule⟩ hdevice ⟨device', rule'⟩ hdevice' heq
  obtain ⟨hkey, hrule⟩ := TelemetryAlerts.ruleKey_inj.1 heq
  exact Prod.ext (h.device_eq hdevice hdevice' hkey) hrule

/-- Identities of geofences are of one length, so the device can be read off the key. -/
theorem KeysApart.geofenceCell_injOn (h : KeysApart calls) (hidentified : repository.Identified) :
    Set.InjOn geofenceCell
      {alarm | alarm.1 ∈ devicesOf calls ∧ alarm.2 ∈ repository.enabled alarm.1.groupId} := by
  rintro ⟨device, geofence⟩ ⟨hdevice, hgeofence⟩ ⟨device', geofence'⟩ ⟨hdevice', hgeofence'⟩ heq
  have hmem : geofence ∈ repository.geofences := List.mem_of_mem_filter hgeofence
  have hmem' : geofence' ∈ repository.geofences := List.mem_of_mem_filter hgeofence'
  have hlists := congrArg String.toList heq
  simp only [geofenceCell, String.toList_append] at hlists
  obtain ⟨hkeys, hids⟩ := List.append_inj' hlists
    ((TelemetryIngestion.length_of_isUuid (hidentified.2 _ hmem)).trans
      (TelemetryIngestion.length_of_isUuid (hidentified.2 _ hmem')).symm)
  have hkey : device.key = device'.key := String.toList_injective (List.append_cancel_right hkeys)
  have hid : geofence.id = geofence'.id := String.toList_injective hids
  exact Prod.ext (h.device_eq hdevice hdevice' hkey)
    (List.inj_on_of_nodup_map hidentified.1 hmem hmem' hid)

theorem length_due_rules (monitor : RuleMonitor) :
    (due ruleCell (ruleChecks thresholds call.telemetry ALERT_RULES)
      monitor.state.activeRules).length = (monitor.dueRules thresholds call.telemetry).length := by
  rw [due, ruleChecks, List.length_map, List.filter_map, List.length_map]
  rfl

theorem RuleMonitor.step_sound (hkeys : KeysApart calls) (hcall : call ∈ calls)
    {monitor : RuleMonitor} (h : monitor.Sound calls)
    (hsucceed : monitor.AppendsSucceed thresholds call) :
    RuleMonitor.Sound calls (monitor.step thresholds call).1 := by
  have hdevice : deviceOf call.telemetry ∈ devicesOf calls := ⟨call, hcall, rfl⟩
  obtain ⟨hstanding, hsounded⟩ := evaluateRules_eq_pass thresholds call ALERT_RULES 1
    (monitor.state.perform (call.uuids 0) (.see (key call.telemetry)
      ⟨call.telemetry.groupId, call.telemetry.observedAt.getD call.receivedAt⟩)) 0
  rw [step, evaluateRules_evaluate]
  change Kept _ _ (evaluateRules _ _ _ _).state.activeRules (⟨_, List.map _ _⟩ :: _)
  rw [hstanding, hsounded]
  refine Kept.pass h hkeys.ruleCell_injOn ?_ ?_ ?_ ?_
  · intro check hcheck
    obtain ⟨rule, -, rfl⟩ := List.mem_map.1 hcheck
    exact hdevice
  · rw [ruleChecks, List.map_map]
    exact List.Nodup.map (fun rule rule' heq => (Prod.ext_iff.1 heq).2) (by decide)
  · rintro ⟨device, rule⟩ - bad
    rw [ruleChecks, List.mem_map]
    dsimp only
    constructor
    · intro hview
      split at hview
      next hsame =>
        rw [Option.some.injEq] at hview
        exact ⟨rule, by cases rule <;> decide, by rw [hsame, hview]⟩
      next => exact nomatch hview
    · rintro ⟨rule', -, heq⟩
      rw [Check.mk.injEq, Prod.mk.injEq] at heq
      obtain ⟨⟨hsame, rfl⟩, hbad⟩ := heq
      rw [if_pos hsame, hbad]
  · intro n hn
    exact hsucceed n (by rwa [← length_due_rules])

theorem GeofenceMonitor.step_sound (hkeys : KeysApart calls) (hidentified : repository.Identified)
    (hwhole : ∀ call ∈ calls, repository.Whole call.telemetry.groupId) (hcall : call ∈ calls)
    {monitor : GeofenceMonitor} (h : monitor.Sound repository calls)
    (hsucceed : monitor.AppendsSucceed repository call) :
    GeofenceMonitor.Sound repository calls (monitor.step repository call).1 := by
  have hdevice : deviceOf call.telemetry ∈ devicesOf calls := ⟨call, hcall, rfl⟩
  have hcells := hkeys.geofenceCell_injOn hidentified
  have hfound : ∀ geofence, geofence ∈ repository.findEnabled call.telemetry.groupId ↔
      geofence ∈ repository.enabled call.telemetry.groupId :=
    fun geofence => (GeofenceRepository.findEnabled_perm (hwhole call hcall)).mem_iff
  unfold AppendsSucceed dueGeofences at hsucceed
  unfold step
  cases hpoint : newGeoPoint call.telemetry.latitude call.telemetry.longitude with
  | error failure =>
      -- the device is nowhere, so nothing is looked at
      refine Kept.unseen h fun alarm => ?_
      dsimp only
      split <;> rfl
  | ok point =>
      rw [hpoint] at hsucceed
      dsimp only at hsucceed ⊢
      obtain ⟨hstanding, hsounded⟩ := evaluateGeofences_eq_pass call point
        (repository.findEnabled call.telemetry.groupId) monitor.state 0
      change Kept _ _ (outsideOf (evaluateGeofences _ _ _ _ _).state) (⟨_, List.map _ _⟩ :: _)
      rw [hstanding, hsounded]
      refine Kept.pass h hcells ?_ ?_ ?_ ?_
      · intro check hcheck
        obtain ⟨geofence, hgeofence, rfl⟩ := List.mem_map.1 hcheck
        exact ⟨hdevice, (hfound geofence).1 hgeofence⟩
      · rw [geofenceChecks, List.map_map]
        exact List.Nodup.map (fun geofence geofence' heq => (Prod.ext_iff.1 heq).2)
          (List.Nodup.of_map _ (hidentified.nodup call.telemetry.groupId))
      · rintro ⟨device, geofence⟩ ⟨-, hgeofence⟩ bad
        rw [geofenceChecks, List.mem_map]
        dsimp only at hgeofence ⊢
        constructor
        · intro hview
          split at hview
          next hsame =>
            rw [Option.some.injEq] at hview
            rw [← hsame] at hgeofence
            exact ⟨geofence, (hfound geofence).2 hgeofence, by rw [hsame, hview]⟩
          next => exact nomatch hview
        · rintro ⟨geofence', -, heq⟩
          rw [Check.mk.injEq, Prod.mk.injEq] at heq
          obtain ⟨⟨hsame, rfl⟩, hbad⟩ := heq
          rw [if_pos hsame, hbad]
      · intro n hn
        refine hsucceed n ?_
        rw [due, geofenceChecks, List.length_map, List.filter_map, List.length_map] at hn
        exact hn

/-- What is known of the devices comes from the samples. -/
def Monitor.Seen {σ β : Type} (calls : List EvaluateCall) (monitor : Monitor σ β) : Prop :=
  ∀ record ∈ monitor.log, ∀ alarm, record.view alarm ≠ none → alarm.1 ∈ devicesOf calls

theorem Monitor.after_seen {σ β : Type} {monitor : Monitor σ β} (h : monitor.Seen calls)
    (hcall : call ∈ calls) (view : β → Option Bool) (outcome : Outcome σ β) :
    (monitor.after call view outcome).1.Seen calls := by
  intro record hrecord alarm hview
  rcases List.mem_cons.1 hrecord with rfl | hold
  · dsimp only at hview
    split at hview
    next hsame => exact ⟨call, hcall, hsame⟩
    next => exact absurd rfl hview
  · exact h record hold alarm hview

theorem RuleMonitor.final_seen :
    (final (RuleMonitor.step thresholds) .initial calls).Seen calls := by
  have hinitial : RuleMonitor.initial.Seen calls :=
    fun _ hrecord => absurd hrecord List.not_mem_nil
  refine Machines.final_invariant (fun monitor call h hcall => ?_) hinitial
    (Machines.along_of_forall (fun _ _ hcall => hcall) _)
  exact Monitor.after_seen h hcall _ _

theorem GeofenceMonitor.final_seen :
    (final (GeofenceMonitor.step repository) .initial calls).Seen calls := by
  have hinitial : GeofenceMonitor.initial.Seen calls :=
    fun _ hrecord => absurd hrecord List.not_mem_nil
  refine Machines.final_invariant (fun monitor call h hcall => ?_) hinitial
    (Machines.along_of_forall (fun _ _ hcall => hcall) _)
  unfold step
  split
  · exact Monitor.after_seen h hcall _ _
  · exact Monitor.after_seen h hcall _ _

theorem Monitor.Seen.device {σ β : Type} {monitor : Monitor σ β} (h : monitor.Seen calls)
    {device : Device} {subject : β} (hbreach : InBreach (device, subject) monitor.log) :
    device ∈ devicesOf calls := by
  obtain ⟨record, hrecord, hview⟩ := List.exists_of_findSome?_eq_some hbreach
  exact h record hrecord (device, subject) (by rw [hview]; exact Option.some_ne_none true)

theorem RuleMonitor.final_sound (hkeys : KeysApart calls)
    (hsucceed : Along (RuleMonitor.step thresholds)
      (fun monitor call => monitor.AppendsSucceed thresholds call) .initial calls) :
    RuleMonitor.Sound calls (final (RuleMonitor.step thresholds) .initial calls) :=
  Machines.final_invariant
    (fun _ _ h hstep => step_sound hkeys hstep.2 h hstep.1) AlarmLatches.kept_nil
    (Machines.along_and hsucceed (Machines.along_of_forall (fun _ _ hcall => hcall) _))

theorem GeofenceMonitor.final_sound (hkeys : KeysApart calls)
    (hidentified : repository.Identified)
    (hwhole : ∀ call ∈ calls, repository.Whole call.telemetry.groupId)
    (hsucceed : Along (GeofenceMonitor.step repository)
      (fun monitor call => monitor.AppendsSucceed repository call) .initial calls) :
    GeofenceMonitor.Sound repository calls
      (final (GeofenceMonitor.step repository) .initial calls) :=
  Machines.final_invariant
    (fun _ _ h hstep => step_sound hkeys hidentified hwhole hstep.2 h hstep.1)
    AlarmLatches.kept_nil
    (Machines.along_and hsucceed (Machines.along_of_forall (fun _ _ hcall => hcall) _))

end Kept

/-- If no append fails, no two devices share their key and the query gives all geofences that are
enabled, then a device that breaches a rule, or is outside of a geofence of its group, has had its
alert since it last did not. -/
theorem alerts_delivered (thresholds : TelemetryAlertThresholds) (repository : GeofenceRepository)
    (hidentified : repository.Identified) (calls : List EvaluateCall) (hkeys : KeysApart calls)
    (hwhole : ∀ call ∈ calls, repository.Whole call.telemetry.groupId)
    (hrules : Along (RuleMonitor.step thresholds)
      (fun monitor call => monitor.AppendsSucceed thresholds call) .initial calls)
    (hgeofences : Along (GeofenceMonitor.step repository)
      (fun monitor call => monitor.AppendsSucceed repository call) .initial calls) :
    (∀ device rule,
      InBreach (device, rule) (final (RuleMonitor.step thresholds) .initial calls).log →
        Alerted (device, rule) (final (RuleMonitor.step thresholds) .initial calls).log) ∧
    ∀ device : Device, ∀ geofence ∈ repository.enabled device.groupId,
      InBreach (device, geofence) (final (GeofenceMonitor.step repository) .initial calls).log →
        Alerted (device, geofence) (final (GeofenceMonitor.step repository) .initial calls).log := by
  constructor
  · intro device rule hbreach
    exact (RuleMonitor.final_sound hkeys hrules).alerted _
      (RuleMonitor.final_seen.device hbreach) hbreach
  · intro device geofence hgeofence hbreach
    exact (GeofenceMonitor.final_sound hkeys hidentified hwhole hgeofences).alerted _
      ⟨GeofenceMonitor.final_seen.device hbreach, hgeofence⟩ hbreach

/-- A sample with a low battery, from a place outside of the geofences; `succeeds` says whether
appends do. -/
def lowAndOutside (succeeds : Bool) : EvaluateCall where
  telemetry := { TelemetryReads.sample "device-001" TelemetryReads.alpha "" with
    latitude := 10
    longitude := 10
    batteryPercent := some 10 }
  receivedAt := 0
  uuids := toString
  appends _ := succeeds

def oneGeofence : GeofenceRepository :=
  .inMemory [Geofences.numberedGeofence "area" (.refl false) 0]

/-- The appends of the first sample fail, and the second one is taken for reported. -/
theorem alerts_delivered_counterexample :
    (Machines.trace (RuleMonitor.step {}) .initial
        [lowAndOutside false, lowAndOutside true]).map Prod.snd = [false, true] ∧
    InBreach (⟨TelemetryReads.alpha, "device-001"⟩, AlertRule.batteryLow)
      (final (RuleMonitor.step {}) .initial [lowAndOutside false, lowAndOutside true]).log ∧
    ¬Alerted (⟨TelemetryReads.alpha, "device-001"⟩, AlertRule.batteryLow)
      (final (RuleMonitor.step {}) .initial [lowAndOutside false, lowAndOutside true]).log ∧
    (Machines.trace (GeofenceMonitor.step oneGeofence) .initial
        [lowAndOutside false, lowAndOutside true]).map Prod.snd = [false, true] ∧
    ∃ geofence ∈ oneGeofence.enabled TelemetryReads.alpha,
      InBreach (⟨TelemetryReads.alpha, "device-001"⟩, geofence)
        (final (GeofenceMonitor.step oneGeofence) .initial
          [lowAndOutside false, lowAndOutside true]).log ∧
      ¬Alerted (⟨TelemetryReads.alpha, "device-001"⟩, geofence)
        (final (GeofenceMonitor.step oneGeofence) .initial
          [lowAndOutside false, lowAndOutside true]).log := by
  decide +kernel

theorem alerts_delivered_sample :
    Alerted (⟨TelemetryReads.alpha, "device-001"⟩, AlertRule.batteryLow)
      (final (RuleMonitor.step {}) .initial [lowAndOutside true, lowAndOutside false]).log ∧
    ∀ geofence ∈ oneGeofence.enabled TelemetryReads.alpha,
      Alerted (⟨TelemetryReads.alpha, "device-001"⟩, geofence)
        (final (GeofenceMonitor.step oneGeofence) .initial
          [lowAndOutside true, lowAndOutside false]).log := by
  obtain ⟨hrules, hgeofences⟩ := alerts_delivered {} oneGeofence (by decide +kernel)
    [lowAndOutside true, lowAndOutside false] (by decide +kernel) (fun _ _ => trivial)
    (by decide +kernel) (by decide +kernel)
  refine ⟨hrules _ _ (by decide +kernel), fun geofence hgeofence => ?_⟩
  refine hgeofences ⟨TelemetryReads.alpha, "device-001"⟩ geofence hgeofence ?_
  have hall : ∀ geofence ∈ oneGeofence.enabled TelemetryReads.alpha,
      InBreach (⟨TelemetryReads.alpha, "device-001"⟩, geofence)
        (final (GeofenceMonitor.step oneGeofence) .initial
          [lowAndOutside true, lowAndOutside false]).log := by decide +kernel
  exact hall geofence hgeofence

end GcsSaker.AlertDelivery
