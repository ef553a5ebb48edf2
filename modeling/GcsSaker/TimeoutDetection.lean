import GcsSaker.TelemetryAlertSafety
import GcsSaker.TelemetryIngestion

/-!
# The detection of silences

Samples are evaluated one after the other, and then a scan passes the devices. The engine remembers
the sample that it has evaluated last, and not the one that was observed last.
-/

namespace GcsSaker.TelemetryAlerts

open TelemetryIngestRpc (TelemetryReadModel)
open TelemetryIngestion (evaluateAlerts)

/-- A call of `evaluate`, with fresh identities for the events that it may append. -/
structure Evaluation where
  telemetry : TelemetryReadModel
  receivedAt : ℤ
  uuids : ℕ → String

def Evaluation.observedAt (evaluation : Evaluation) : ℤ :=
  evaluation.telemetry.observedAt.getD evaluation.receivedAt

/-- The evaluations of the samples of a device. -/
def ofDevice (deviceKey : String) (evaluations : List Evaluation) : List Evaluation :=
  evaluations.filter fun evaluation => key evaluation.telemetry = deviceKey

namespace Engine

def evaluateAll (thresholds : TelemetryAlertThresholds) (evaluations : List Evaluation)
    (engine : Engine) : Engine :=
  evaluations.foldl (fun engine evaluation =>
    evaluateAlerts thresholds evaluation.uuids engine evaluation.telemetry evaluation.receivedAt)
    engine

/-- The scan goes on for some steps, unless it waits for the next device. -/
def settle (uuid : String) : ℕ → Engine → Engine
  | 0, engine => engine
  | steps + 1, engine => match engine.scanStep uuid with
    | some next => settle uuid steps next
    | none => engine

/-- One round of the loop of `evaluateTimeouts`: the visit, and the steps that follow it. -/
def evaluateTimeout (thresholds : TelemetryAlertThresholds) (now : ℤ) (engine : Engine)
    (visited : String × String) : Engine :=
  match engine.visit thresholds visited.1 now with
  | some visiting => visiting.settle visited.2 (ALERT_RULES.length + 3)
  | none => engine

/-- `evaluateTimeouts`, with nothing between its steps. The loop comes by the devices in the order
of `visits`, which has a fresh identity for each. -/
def evaluateTimeouts (thresholds : TelemetryAlertThresholds) (now : ℤ)
    (visits : List (String × String)) (engine : Engine) : Engine :=
  visits.foldl (evaluateTimeout thresholds now) engine

/-- The loop comes by every device once. -/
structure Visits (engine : Engine) (visits : List (String × String)) : Prop where
  nodup : (visits.map Prod.fst).Nodup
  mem_iff : ∀ deviceKey, deviceKey ∈ visits.map Prod.fst ↔ (engine.devices deviceKey).isSome

end Engine

/-- An alert for the silence of the device is appended on the way from `engine` to `engine'`. -/
def Reported (engine engine' : Engine) (deviceKey : String) : Prop :=
  ∃ log, engine'.log = log ++ engine.log ∧ log.any (isAlert deviceKey .telemetryTimeout) = true

/-- What has happened from `engine` to `engine'` does not concern the silence of the device. -/
structure Untouched (deviceKey : String) (engine engine' : Engine) : Prop where
  scan : engine'.scan = .idle
  devices : engine'.devices deviceKey = engine.devices deviceKey
  activeRules : engine'.activeRules (ruleKey deviceKey .telemetryTimeout) =
    engine.activeRules (ruleKey deviceKey .telemetryTimeout)
  log : ∃ log, engine'.log = log ++ engine.log ∧
    log.any (isAlert deviceKey .telemetryTimeout) = false

/-! ## A round of a scan -/

section Rounds

variable {thresholds : TelemetryAlertThresholds} {engine engine' engine'' : Engine}
  {deviceKey uuid : String} {now : ℤ}

/-- `clearDeviceRules`, for some of the rules. -/
def Engine.clearRules (deviceKey : String) (rules : List AlertRule) (engine : Engine) : Engine :=
  rules.foldl (fun engine rule => engine.setRuleState deviceKey rule false) engine

theorem settle_clearing (rules : List AlertRule) (engine : Engine) :
    ({ engine with scan := .clearing deviceKey rules }).settle uuid (rules.length + 1) =
      { engine.clearRules deviceKey rules with scan := .idle } := by
  induction rules generalizing engine with
  | nil => rfl
  | cons rule rules ih => exact ih (engine.setRuleState deviceKey rule false)

theorem clearRules_log (rules : List AlertRule) (engine : Engine) :
    (engine.clearRules deviceKey rules).log = engine.log := by
  induction rules generalizing engine with
  | nil => rfl
  | cons rule rules ih => exact ih (engine.setRuleState deviceKey rule false)

theorem clearRules_devices (rules : List AlertRule) (engine : Engine) :
    (engine.clearRules deviceKey rules).devices = engine.devices := by
  induction rules generalizing engine with
  | nil => rfl
  | cons rule rules ih => exact ih (engine.setRuleState deviceKey rule false)

theorem clearRules_activeRules {other : String} (h : other ≠ deviceKey) (rule : AlertRule)
    (rules : List AlertRule) (engine : Engine) :
    (engine.clearRules deviceKey rules).activeRules (ruleKey other rule) =
      engine.activeRules (ruleKey other rule) := by
  induction rules generalizing engine with
  | nil => rfl
  | cons cleared rules ih =>
      rw [Engine.clearRules, List.foldl_cons]
      refine (ih (engine.setRuleState deviceKey cleared false)).trans ?_
      rw [setRuleState_apply, if_neg fun hand => h hand.1]

theorem raise_devices {groupId : TelemetryIngestRpc.GroupId} {rule : AlertRule} :
    (engine.raise deviceKey groupId rule now uuid).devices = engine.devices := by
  rw [Engine.raise]
  split <;> rfl

/-- What `raise` does does not depend on the scan. -/
theorem raise_of_scan (engine : Engine) (deviceKey : String) (groupId : TelemetryIngestRpc.GroupId)
    (rule : AlertRule) (occurredAt : ℤ) (uuid : String) (stage stage' : ScanStage) :
    { ({ engine with scan := stage }).raise deviceKey groupId rule occurredAt uuid with
        scan := stage' } =
      { engine.raise deviceKey groupId rule occurredAt uuid with scan := stage' } := by
  cases hactive : engine.activeRules (ruleKey deviceKey rule) with
  | true =>
      have hactive' : ({ engine with scan := stage }).activeRules (ruleKey deviceKey rule) = true :=
        hactive
      rw [raise_of_active hactive, raise_of_active hactive']
  | false =>
      have hactive' : ({ engine with scan := stage }).activeRules (ruleKey deviceKey rule) =
          false := hactive
      rw [raise_of_not_active hactive, raise_of_not_active hactive']
      rfl

theorem visit_of_some {state : DeviceState} (hidle : engine.scan = .idle)
    (hdevice : engine.devices deviceKey = some state) :
    engine.visit thresholds deviceKey now =
      some (if thresholds.telemetryTimeout < now - state.lastSeenAt then
        { engine with scan := .found deviceKey state now }.record (.met deviceKey)
      else engine) := by
  rw [Engine.visit, hidle, hdevice]

theorem settle_idle (hidle : engine.scan = .idle) (steps : ℕ) :
    engine.settle uuid steps = engine := by
  cases steps with
  | zero => rfl
  | succ steps => rw [Engine.settle, Engine.scanStep, hidle]

/-- A device that is not stored, or was seen in time, is passed by. -/
theorem evaluateTimeout_of_seen (hidle : engine.scan = .idle)
    (hseen : ∀ state, engine.devices deviceKey = some state →
      ¬thresholds.telemetryTimeout < now - state.lastSeenAt) :
    engine.evaluateTimeout thresholds now (deviceKey, uuid) = engine := by
  cases hdevice : engine.devices deviceKey with
  | none => rw [Engine.evaluateTimeout, Engine.visit, hidle, hdevice]
  | some state =>
      rw [Engine.evaluateTimeout, visit_of_some hidle hdevice, if_neg (hseen state hdevice)]
      exact settle_idle hidle _

theorem settle_activated {state : DeviceState}
    (hdevice : engine.devices deviceKey = some state) :
    ({ engine with scan := .activated deviceKey state }).settle uuid (ALERT_RULES.length + 2) =
      { ({ engine with devices := Function.update engine.devices deviceKey none }.record
          (.timedOut deviceKey)).clearRules deviceKey ALERT_RULES with scan := .idle } := by
  rw [Engine.settle, Engine.scanStep]
  dsimp only
  rw [if_pos hdevice]
  have hcleared := @settle_clearing deviceKey uuid ALERT_RULES
    ({ engine with devices := Function.update engine.devices deviceKey none }.record
      (.timedOut deviceKey))
  exact hcleared

/-- A device that is overdue gets its alert, is removed, and its rules are cleared. -/
theorem evaluateTimeout_of_overdue {state : DeviceState} (hidle : engine.scan = .idle)
    (hdevice : engine.devices deviceKey = some state)
    (hlate : thresholds.telemetryTimeout < now - state.lastSeenAt) : ∃ raised : Engine,
    raised = (engine.record (.met deviceKey)).raise deviceKey state.groupId .telemetryTimeout now
        uuid ∧
      engine.evaluateTimeout thresholds now (deviceKey, uuid) =
        { ({ raised with devices := Function.update raised.devices deviceKey none }.record
            (.timedOut deviceKey)).clearRules deviceKey ALERT_RULES with scan := .idle } := by
  refine ⟨_, rfl, ?_⟩
  have hstored : ((engine.record (.met deviceKey)).raise deviceKey state.groupId .telemetryTimeout
      now uuid).devices deviceKey = some state := by
    rw [raise_devices]
    exact hdevice
  rw [Engine.evaluateTimeout, visit_of_some hidle hdevice, if_pos hlate]
  have hactivated := @settle_activated _ deviceKey uuid state hstored
  have hfound := raise_of_scan (engine.record (.met deviceKey)) deviceKey state.groupId
    .telemetryTimeout now uuid (.found deviceKey state now) (.activated deviceKey state)
  have hstep := congrArg (Engine.settle uuid (ALERT_RULES.length + 2)) hfound
  exact hstep.trans hactivated

theorem raise_log_of_ne (engine : Engine) {groupId : TelemetryIngestRpc.GroupId} {rule : AlertRule} {other : String}
    (h : other ≠ deviceKey) : ∃ log,
      (engine.raise deviceKey groupId rule now uuid).log = log ++ engine.log ∧
        log.any (isAlert other .telemetryTimeout) = false := by
  rw [Engine.raise]
  split
  · exact ⟨[], rfl, rfl⟩
  · refine ⟨[_], rfl, ?_⟩
    rw [List.any_cons, List.any_nil, Bool.or_false]
    exact decide_eq_false fun hand => h hand.1.symm

theorem raise_activeRules_of_ne {groupId : TelemetryIngestRpc.GroupId} {rule rule' : AlertRule}
    {other : String} (h : other ≠ deviceKey) :
    (engine.raise deviceKey groupId rule now uuid).activeRules (ruleKey other rule') =
      engine.activeRules (ruleKey other rule') := by
  rw [Engine.raise]
  split
  · rfl
  · exact (setRuleState_apply ..).trans (if_neg fun hand => h hand.1)

namespace Untouched

theorem refl (hidle : engine.scan = .idle) : Untouched deviceKey engine engine :=
  ⟨hidle, rfl, rfl, [], rfl, rfl⟩

theorem trans (h : Untouched deviceKey engine engine')
    (h' : Untouched deviceKey engine' engine'') : Untouched deviceKey engine engine'' := by
  obtain ⟨log, hlog, hquiet⟩ := h.log
  obtain ⟨log', hlog', hquiet'⟩ := h'.log
  refine ⟨h'.scan, h'.devices.trans h.devices, h'.activeRules.trans h.activeRules,
    log' ++ log, ?_, ?_⟩
  · rw [hlog', hlog, List.append_assoc]
  · rw [List.any_append, hquiet', hquiet]
    rfl

theorem evaluateTimeout {visited : String × String} (hidle : engine.scan = .idle)
    (hne : deviceKey ≠ visited.1) :
    Untouched deviceKey engine (engine.evaluateTimeout thresholds now visited) := by
  obtain ⟨other, uuid⟩ := visited
  by_cases hlate : ∃ state, engine.devices other = some state ∧
      thresholds.telemetryTimeout < now - state.lastSeenAt
  · obtain ⟨state, hdevice, hlate⟩ := hlate
    obtain ⟨raised, hraised, hround⟩ :=
      @evaluateTimeout_of_overdue thresholds engine other uuid now state hidle hdevice hlate
    obtain ⟨log, hlog, hquiet⟩ := @raise_log_of_ne other uuid now
      (engine.record (.met other)) state.groupId .telemetryTimeout deviceKey hne
    rw [← hraised] at hlog
    rw [hround]
    refine ⟨rfl, ?_, ?_, .timedOut other :: (log ++ [.met other]), ?_, ?_⟩
    · dsimp only
      rw [clearRules_devices, Engine.record]
      dsimp only
      rw [Function.update_of_ne hne, hraised, raise_devices]
      rfl
    · dsimp only
      rw [clearRules_activeRules hne, Engine.record]
      dsimp only
      rw [hraised, raise_activeRules_of_ne hne]
      rfl
    · dsimp only
      rw [clearRules_log, Engine.record]
      dsimp only
      rw [hlog, Engine.record, List.cons_append, List.append_assoc]
      rfl
    · rw [List.any_cons, List.any_append, hquiet]
      rfl
  · rw [evaluateTimeout_of_seen hidle fun state hdevice hlate' => hlate ⟨state, hdevice, hlate'⟩]
    exact refl hidle

theorem evaluateTimeouts {visits : List (String × String)} (hidle : engine.scan = .idle)
    (hne : deviceKey ∉ visits.map Prod.fst) :
    Untouched deviceKey engine (engine.evaluateTimeouts thresholds now visits) := by
  induction visits generalizing engine with
  | nil => exact refl hidle
  | cons visited visits ih =>
      rw [List.map_cons, List.mem_cons, not_or] at hne
      have hround : Untouched deviceKey engine (engine.evaluateTimeout thresholds now visited) :=
        Untouched.evaluateTimeout hidle hne.1
      exact hround.trans (ih hround.scan hne.2)

end Untouched

theorem reported_iff {log : List Event} (hlog : engine'.log = log ++ engine.log) :
    Reported engine engine' deviceKey ↔ log.any (isAlert deviceKey .telemetryTimeout) = true := by
  constructor
  · rintro ⟨log', hlog', halert⟩
    rw [hlog, List.append_left_inj] at hlog'
    rw [hlog']
    exact halert
  · exact fun halert => ⟨log, hlog, halert⟩

/-- The device is overdue, and its alert is not standing. -/
def Due (timeout now : ℤ) (engine : Engine) (deviceKey : String) : Prop :=
  (∃ state, engine.devices deviceKey = some state ∧ timeout < now - state.lastSeenAt) ∧
    engine.activeRules (ruleKey deviceKey .telemetryTimeout) = false

/-- A round at the device appends its alert if it is due. -/
theorem evaluateTimeout_log (hidle : engine.scan = .idle) : ∃ log,
    (engine.evaluateTimeout thresholds now (deviceKey, uuid)).log = log ++ engine.log ∧
      (log.any (isAlert deviceKey .telemetryTimeout) = true ↔
        Due thresholds.telemetryTimeout now engine deviceKey) := by
  by_cases hlate : ∃ state, engine.devices deviceKey = some state ∧
      thresholds.telemetryTimeout < now - state.lastSeenAt
  · obtain ⟨state, hdevice, hoverdue⟩ := hlate
    obtain ⟨raised, hraised, hround⟩ :=
      @evaluateTimeout_of_overdue thresholds engine deviceKey uuid now state hidle hdevice hoverdue
    have hround : (engine.evaluateTimeout thresholds now (deviceKey, uuid)).log =
        .timedOut deviceKey :: raised.log := by
      rw [hround]
      dsimp only
      rw [clearRules_log]
      rfl
    cases hactive : engine.activeRules (ruleKey deviceKey .telemetryTimeout) with
    | true =>
        have hactive' : (engine.record (.met deviceKey)).activeRules
            (ruleKey deviceKey .telemetryTimeout) = true := hactive
        rw [raise_of_active hactive'] at hraised
        refine ⟨[.timedOut deviceKey, .met deviceKey], ?_, ?_⟩
        · rw [hround, hraised]
          rfl
        · exact iff_of_false Bool.false_ne_true fun hdue => absurd (hdue.2.symm.trans hactive) (by decide)
    | false =>
        have hactive' : (engine.record (.met deviceKey)).activeRules
            (ruleKey deviceKey .telemetryTimeout) = false := hactive
        rw [raise_of_not_active hactive'] at hraised
        refine ⟨[.timedOut deviceKey, .alert deviceKey .telemetryTimeout
          (alertEvent uuid state.groupId .telemetryTimeout now), .met deviceKey], ?_, ?_⟩
        · rw [hround, hraised]
          rfl
        · refine iff_of_true ?_ ⟨⟨state, hdevice, hoverdue⟩, hactive⟩
          simp only [List.any_cons, isAlert, and_self, decide_true, Bool.true_or, Bool.or_true]
  · refine ⟨[], ?_, iff_of_false Bool.false_ne_true fun hdue => hlate hdue.1⟩
    rw [evaluateTimeout_of_seen hidle fun state hdevice hoverdue =>
      hlate ⟨state, hdevice, hoverdue⟩]
    rfl

theorem evaluateTimeout_scan (hidle : engine.scan = .idle) :
    (engine.evaluateTimeout thresholds now (deviceKey, uuid)).scan = .idle := by
  by_cases hlate : ∃ state, engine.devices deviceKey = some state ∧
      thresholds.telemetryTimeout < now - state.lastSeenAt
  · obtain ⟨state, hdevice, hoverdue⟩ := hlate
    obtain ⟨raised, -, hround⟩ :=
      @evaluateTimeout_of_overdue thresholds engine deviceKey uuid now state hidle hdevice hoverdue
    rw [hround]
  · rw [evaluateTimeout_of_seen hidle fun state hdevice hoverdue =>
      hlate ⟨state, hdevice, hoverdue⟩]
    exact hidle

/-- A scan reports the devices that are due, and no others. -/
theorem reported_evaluateTimeouts {visits : List (String × String)} (hidle : engine.scan = .idle)
    (hvisits : engine.Visits visits) :
    Reported engine (engine.evaluateTimeouts thresholds now visits) deviceKey ↔
      Due thresholds.telemetryTimeout now engine deviceKey := by
  by_cases hmem : deviceKey ∈ visits.map Prod.fst
  · obtain ⟨⟨deviceKey, uuid⟩, hvisited, rfl⟩ := List.mem_map.1 hmem
    obtain ⟨before, after, rfl⟩ := List.append_of_mem hvisited
    have hnodup := hvisits.nodup
    rw [List.map_append, List.map_cons, List.nodup_append] at hnodup
    obtain ⟨-, hafter, hdisjoint⟩ := hnodup
    have hbefore : deviceKey ∉ before.map Prod.fst :=
      fun hin => hdisjoint _ hin _ (List.mem_cons_self ..) rfl
    have hquiet : Untouched deviceKey engine (engine.evaluateTimeouts thresholds now before) :=
      .evaluateTimeouts hidle hbefore
    generalize hreached : engine.evaluateTimeouts thresholds now before = reached at hquiet
    obtain ⟨log, hlog, hdue⟩ :=
      @evaluateTimeout_log thresholds reached deviceKey uuid now hquiet.scan
    have hround := @evaluateTimeout_scan thresholds reached deviceKey uuid now hquiet.scan
    generalize hnext : reached.evaluateTimeout thresholds now (deviceKey, uuid) = next
      at hlog hround
    have hquiet' : Untouched deviceKey next (next.evaluateTimeouts thresholds now after) :=
      .evaluateTimeouts hround (List.nodup_cons.1 hafter).1
    have hscan : engine.evaluateTimeouts thresholds now (before ++ (deviceKey, uuid) :: after) =
        next.evaluateTimeouts thresholds now after := by
      rw [Engine.evaluateTimeouts, List.foldl_append, List.foldl_cons, ← hnext, ← hreached]
      rfl
    obtain ⟨pre, hpre, hpreQuiet⟩ := hquiet.log
    obtain ⟨post, hpost, hpostQuiet⟩ := hquiet'.log
    rw [hlog, hpre] at hpost
    rw [hscan, reported_iff (hpost.trans (by simp only [List.append_assoc] : _ =
      (post ++ (log ++ pre)) ++ engine.log)), List.any_append, List.any_append, hpreQuiet,
      hpostQuiet, Bool.false_or, Bool.or_false, hdue, Due, Due, hquiet.devices, hquiet.activeRules]
  · have hquiet : Untouched deviceKey engine (engine.evaluateTimeouts thresholds now visits) :=
      .evaluateTimeouts hidle hmem
    obtain ⟨log, hlog, hnone⟩ := hquiet.log
    rw [reported_iff hlog, hnone]
    refine iff_of_false Bool.false_ne_true ?_
    rintro ⟨⟨state, hdevice, -⟩, -⟩
    rw [hvisits.mem_iff, hdevice] at hmem
    exact hmem rfl

end Rounds

/-! ## Evaluations before a scan -/

section Evaluations

variable {thresholds : TelemetryAlertThresholds} {deviceKey : String}

theorem perform_scan (engine : Engine) (operation : MapOperation) (uuid : String) :
    (engine.perform uuid operation).scan = engine.scan := by
  cases operation with
  | see deviceKey state => rfl
  | activate deviceKey groupId rule occurredAt =>
      rw [Engine.perform, Engine.raise]
      split <;> rfl
  | deactivate deviceKey rule => rfl

theorem evaluateAlerts_scan (uuids : ℕ → String) (engine : Engine) (telemetry : TelemetryReadModel)
    (receivedAt : ℤ) :
    (evaluateAlerts thresholds uuids engine telemetry receivedAt).scan = engine.scan := by
  rw [evaluateAlerts]
  generalize (evaluate thresholds telemetry receivedAt).zipIdx = operations
  induction operations generalizing engine with
  | nil => rfl
  | cons operation operations ih => rw [List.foldl_cons, ih, perform_scan]

/-- The last operation of an evaluation takes the alert for a timeout back. -/
theorem evaluateAlerts_timeout (uuids : ℕ → String) (engine : Engine)
    (telemetry : TelemetryReadModel) (receivedAt : ℤ) :
    (evaluateAlerts thresholds uuids engine telemetry receivedAt).activeRules
      (ruleKey (key telemetry) .telemetryTimeout) = false := by
  simp only [evaluateAlerts, evaluate, List.zipIdx_cons, List.zipIdx_nil, List.foldl_cons,
    List.foldl_nil]
  exact (setRuleState_apply ..).trans (if_pos ⟨rfl, rfl⟩)

theorem evaluateAll_append (evaluations : List Evaluation) (evaluation : Evaluation)
    (engine : Engine) :
    engine.evaluateAll thresholds (evaluations ++ [evaluation]) =
      evaluateAlerts thresholds evaluation.uuids (engine.evaluateAll thresholds evaluations)
        evaluation.telemetry evaluation.receivedAt := by
  rw [Engine.evaluateAll, List.foldl_append, List.foldl_cons, List.foldl_nil]
  rfl

theorem evaluateAll_scan (evaluations : List Evaluation) (engine : Engine) :
    (engine.evaluateAll thresholds evaluations).scan = engine.scan := by
  induction evaluations using List.reverseRecOn with
  | nil => rfl
  | append_singleton evaluations evaluation ih =>
      rw [evaluateAll_append, evaluateAlerts_scan, ih]

/-- The engine knows the device by its sample that was evaluated last, with no standing alert. -/
theorem evaluateAll_device {evaluations : List Evaluation} {engine : Engine} {last : ℤ}
    (hlast : ((ofDevice deviceKey evaluations).map Evaluation.observedAt).getLast? = some last) :
    (∃ state, (engine.evaluateAll thresholds evaluations).devices deviceKey = some state ∧
      state.lastSeenAt = last) ∧
    (engine.evaluateAll thresholds evaluations).activeRules
      (ruleKey deviceKey .telemetryTimeout) = false := by
  induction evaluations using List.reverseRecOn with
  | nil => exact nomatch hlast
  | append_singleton evaluations evaluation ih =>
      rw [evaluateAll_append]
      rw [ofDevice, List.filter_append, List.map_append] at hlast
      by_cases hown : key evaluation.telemetry = deviceKey
      · subst hown
        rw [List.filter_singleton, decide_eq_true rfl, cond_true, List.map_singleton,
          List.getLast?_append, List.getLast?_singleton, Option.some_or, Option.some.injEq] at hlast
        refine ⟨⟨⟨evaluation.telemetry.groupId, evaluation.observedAt⟩, ?_, hlast⟩, evaluateAlerts_timeout ..⟩
        rw [TelemetryIngestion.devices_evaluateAlerts, Function.update_self]
        rfl
      · rw [List.filter_singleton, decide_eq_false hown, cond_false, List.map_nil,
          List.append_nil] at hlast
        have hne : deviceKey ≠ key evaluation.telemetry := Ne.symm hown
        rw [TelemetryIngestion.devices_evaluateAlerts, Function.update_of_ne hne,
          TelemetryIngestion.activeRules_evaluateAlerts _ _ _ _ hne]
        exact ih hlast

/-- A device is reported just if its last evaluated sample is too old. -/
theorem reported_iff_last {evaluations : List Evaluation} {engine : Engine} {last now : ℤ}
    {visits : List (String × String)} (hidle : engine.scan = .idle)
    (hvisits : (engine.evaluateAll thresholds evaluations).Visits visits)
    (hlast : ((ofDevice deviceKey evaluations).map Evaluation.observedAt).getLast? = some last) :
    Reported (engine.evaluateAll thresholds evaluations)
        ((engine.evaluateAll thresholds evaluations).evaluateTimeouts thresholds now visits)
        deviceKey ↔
      thresholds.telemetryTimeout < now - last := by
  have hscan : (engine.evaluateAll thresholds evaluations).scan = .idle :=
    (evaluateAll_scan evaluations engine).trans hidle
  obtain ⟨⟨state, hdevice, hseen⟩, hquiet⟩ := @evaluateAll_device thresholds _ _ engine _ hlast
  rw [reported_evaluateTimeouts hscan hvisits, Due, and_iff_left hquiet]
  constructor
  · rintro ⟨state', hstate', hlate⟩
    rw [hdevice, Option.some.injEq] at hstate'
    rw [← hseen, hstate']
    exact hlate
  · exact fun hlate => ⟨state, hdevice, hseen.symm ▸ hlate⟩

end Evaluations

/-- A scan after some evaluations, with samples of other devices among them, reports the device
just when the greatest time of its samples is too old, if and only if the sample evaluated last is
in time or they are all too old. -/
theorem timeout_detection (thresholds : TelemetryAlertThresholds) (engine : Engine)
    (hidle : engine.scan = .idle) (evaluations : List Evaluation) (deviceKey : String)
    (visits : List (String × String))
    (hvisits : (engine.evaluateAll thresholds evaluations).Visits visits) (now greatest last : ℤ)
    (hgreatest : ((ofDevice deviceKey evaluations).map Evaluation.observedAt).max? = some greatest)
    (hlast : ((ofDevice deviceKey evaluations).map Evaluation.observedAt).getLast? = some last) :
    (Reported (engine.evaluateAll thresholds evaluations)
          ((engine.evaluateAll thresholds evaluations).evaluateTimeouts thresholds now visits)
          deviceKey ↔
        thresholds.telemetryTimeout < now - greatest) ↔
      now - last ≤ thresholds.telemetryTimeout ∨
        ∀ evaluation ∈ ofDevice deviceKey evaluations,
          thresholds.telemetryTimeout < now - evaluation.observedAt := by
  obtain ⟨hgreatestMem, hbound⟩ := List.max?_eq_some_iff.1 hgreatest
  have hle : last ≤ greatest := hbound last (List.mem_of_getLast? hlast)
  rw [reported_iff_last hidle hvisits hlast]
  constructor
  · intro hsame
    by_cases hlate : thresholds.telemetryTimeout < now - last
    · refine .inr fun evaluation hmem => ?_
      have hobserved : evaluation.observedAt ≤ greatest := hbound _ (List.mem_map_of_mem hmem)
      have := hsame.1 hlate
      omega
    · exact .inl (not_lt.1 hlate)
  · rintro (hrecent | hlate)
    · constructor
      · omega
      · omega
    · obtain ⟨evaluation, hmem, hobserved⟩ := List.mem_map.1 hgreatestMem
      have := hlate evaluation hmem
      constructor
      · omega
      · omega

/-- A sample of the device 001 of the group `alpha` that is received when it is observed. -/
def observation (observedAt : ℤ) : Evaluation where
  telemetry := TelemetryReads.sample "device-001" TelemetryReads.alpha ""
  receivedAt := observedAt
  uuids := toString

theorem observation_visits (first second : ℤ) :
    (Engine.initial.evaluateAll {} [observation first, observation second]).Visits
      [("alpha:device-001", "1")] where
  nodup := List.nodup_singleton _
  mem_iff deviceKey := by
    change _ ↔ ((evaluateAlerts _ _ (evaluateAlerts _ _ _ _ _) _ _).devices deviceKey).isSome = true
    rw [TelemetryIngestion.devices_evaluateAlerts, TelemetryIngestion.devices_evaluateAlerts,
      List.map_singleton, List.mem_singleton]
    change _ ↔ (Function.update (Function.update (fun _ => none) "alpha:device-001" _)
      "alpha:device-001" _ deviceKey).isSome = true
    rw [Function.update_idem]
    by_cases hkey : deviceKey = "alpha:device-001"
    · rw [hkey, Function.update_self]
      exact iff_of_true rfl rfl
    · rw [Function.update_of_ne hkey]
      exact iff_of_false hkey Bool.false_ne_true

/-- The device was observed ten seconds before the scan, but its first sample came last. -/
theorem timeout_detection_counterexample :
    (Engine.initial.evaluateAll {} [observation (100 * Clock.second), observation 0]).Visits
        [("alpha:device-001", "1")] ∧
      ¬(Reported (Engine.initial.evaluateAll {} [observation (100 * Clock.second), observation 0])
            ((Engine.initial.evaluateAll {}
              [observation (100 * Clock.second), observation 0]).evaluateTimeouts {}
                (110 * Clock.second) [("alpha:device-001", "1")]) "alpha:device-001" ↔
          30 * Clock.second < 110 * Clock.second - 100 * Clock.second) := by
  refine ⟨observation_visits .., fun hsame => ?_⟩
  have hreported := (@reported_iff_last {} "alpha:device-001"
    [observation (100 * Clock.second), observation 0] .initial 0 (110 * Clock.second) _ rfl
    (observation_visits ..) (by decide)).2 (by decide)
  exact absurd (hsame.1 hreported) (by decide)

theorem timeout_detection_sample :
    (Reported (Engine.initial.evaluateAll {}
            [observation 0, observation (100 * Clock.second)])
          ((Engine.initial.evaluateAll {}
            [observation 0, observation (100 * Clock.second)]).evaluateTimeouts {}
              (110 * Clock.second) [("alpha:device-001", "1")]) "alpha:device-001" ↔
        30 * Clock.second < 110 * Clock.second - 100 * Clock.second) :=
  (timeout_detection {} .initial rfl [observation 0, observation (100 * Clock.second)]
    "alpha:device-001" [("alpha:device-001", "1")] (observation_visits ..) (110 * Clock.second)
    (100 * Clock.second) (100 * Clock.second) (by decide) (by decide)).2 (.inl (by decide))

end GcsSaker.TelemetryAlerts
