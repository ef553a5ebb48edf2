import GcsSaker.TelemetryAlerts

/-!
# Telemetry alerts are right

An alert for a timeout tells of a sample that is too old, each silence that a scan meets has one
of them, and each uninterrupted breach at most one alert of its rule, as long as no sample gets
between the steps of a scan.
-/

namespace GcsSaker.TelemetryAlerts

open EventLog (since Always)
open Runs (run Along)

/-! ## What the log should look like -/

def lastSeen (deviceKey : String) : List Event → Option ℤ
  | [] => none
  | .seen device lastSeenAt :: log =>
    if device = deviceKey then some lastSeenAt else lastSeen deviceKey log
  | _ :: log => lastSeen deviceKey log

def endsSilence (deviceKey : String) : Event → Bool
  | .seen device _ => device = deviceKey
  | _ => false

/-- A breach ends with a sample that does not breach the rule or with a silence that timed out. -/
def endsBreach (deviceKey : String) (rule : AlertRule) : Event → Bool
  | .recovered device rule' => device = deviceKey ∧ rule' = rule
  | .timedOut device => device = deviceKey
  | _ => false

def isAlert (deviceKey : String) (rule : AlertRule) : Event → Bool
  | .alert device rule' _ => device = deviceKey ∧ rule' = rule
  | _ => false

def isMet (deviceKey : String) : Event → Bool
  | .met device => device = deviceKey
  | _ => false

/-- A scan has met the present silence of the device. -/
def silenceMet (deviceKey : String) (log : List Event) : Bool :=
  (since (endsSilence deviceKey) log).any (isMet deviceKey)

def silenceAlerted (deviceKey : String) (log : List Event) : Bool :=
  (since (endsSilence deviceKey) log).any (isAlert deviceKey .telemetryTimeout)

def breachAlerted (deviceKey : String) (rule : AlertRule) (log : List Event) : Bool :=
  (since (endsBreach deviceKey rule) log).any (isAlert deviceKey rule)

/-- At the time of an alert for a timeout the last sample is older than the threshold. -/
def Overdue (timeout : ℤ) : Event → List Event → Prop
  | .alert device .telemetryTimeout event, log =>
    ∃ t ∈ lastSeen device log, timeout < event.occurredAt - t
  | _, _ => True

/-- A silence has at most one alert, and so has a breach. -/
def Once : Event → List Event → Prop
  | .alert device rule _, log =>
    if rule = .telemetryTimeout then silenceAlerted device log = false
    else breachAlerted device rule log = false
  | _, _ => True

/-- A silence that a scan met and that a sample ends has its alert. -/
def Answered : Event → List Event → Prop
  | .seen device _, log => silenceMet device log = true → silenceAlerted device log = true
  | _, _ => True

/-- The scan has met the silence of the device and its alert is still to come. -/
def ScanStage.isFound (deviceKey : String) : ScanStage → Bool
  | .found device _ _ => device = deviceKey
  | _ => false

structure AlertsRight (timeout : ℤ) (engine : Engine) : Prop where
  overdue : Always (Overdue timeout) engine.log
  once : Always Once engine.log
  answered : Always Answered engine.log
  answeredNow : ∀ device, silenceMet device engine.log = true →
    engine.scan.isFound device = true ∨ silenceAlerted device engine.log = true

/-! ## Scans that are not disturbed -/

/-- The scan has found that the device timed out and has not yet removed it. -/
def ScanStage.awaits (deviceKey : String) : ScanStage → Bool
  | .found device _ _ => device = deviceKey
  | .activated device _ => device = deviceKey
  | _ => false

/-- The scan has removed the device and is still to clear the rule. -/
def ScanStage.clears (deviceKey : String) (rule : AlertRule) : ScanStage → Bool
  | .clearing device rules => device = deviceKey ∧ rule ∈ rules
  | _ => false

/-- No sample is taken up of a device that a scan is about to remove, and no alert is appended of
a rule that a scan is about to clear. -/
def Engine.Undisturbed (engine : Engine) : Action → Prop
  | .proceed call _ =>
    match engine.calls[call]? with
    | some (.see device _ :: _) => engine.scan.awaits device = false
    | some (.activate device _ rule _ :: _) =>
      engine.activeRules (ruleKey device rule) = true ∨ engine.scan.clears device rule = false
    | _ => True
  | _ => True

instance {event : Event} {log : List Event} {timeout : ℤ} :
    Decidable (Overdue timeout event log) := by
  unfold Overdue
  split <;> infer_instance

instance {event : Event} {log : List Event} : Decidable (Once event log) := by
  unfold Once
  split <;> infer_instance

instance {engine : Engine} : DecidablePred engine.Undisturbed := fun action => by
  unfold Engine.Undisturbed
  split
  · split <;> infer_instance
  · infer_instance

/-! ## The invariant -/

/-- The scan has set the flag of the timeout and not yet tried to remove the device. -/
def ScanStage.isActivated (deviceKey : String) : ScanStage → Bool
  | .activated device _ => device = deviceKey
  | _ => false

def MapOperation.isTimeout : MapOperation → Bool
  | .activate _ _ rule _ => rule = .telemetryTimeout
  | _ => false

structure Invariant (timeout : ℤ) (engine : Engine) : Prop extends AlertsRight timeout engine where
  calls : ∀ operations ∈ engine.calls, ∀ operation ∈ operations, operation.isTimeout = false
  seen : ∀ device state, engine.devices device = some state →
    lastSeen device engine.log = some state.lastSeenAt
  quiet : ∀ device state, engine.devices device = some state →
    engine.scan.isActivated device = false → silenceAlerted device engine.log = false
  held : ∀ device, engine.activeRules (ruleKey device .telemetryTimeout) = true →
    engine.scan.isActivated device = true ∨ engine.scan.clears device .telemetryTimeout = true
  found : ∀ device state now, engine.scan = .found device state now →
    engine.devices device = some state ∧ timeout < now - state.lastSeenAt
  activated : ∀ device state, engine.scan = .activated device state →
    engine.devices device = some state
  active : ∀ device rule, rule ≠ .telemetryTimeout → breachAlerted device rule engine.log = true →
    engine.activeRules (ruleKey device rule) = true ∧ engine.scan.clears device rule = false

section Logs

variable (device device' : String) (rule rule' : AlertRule) (lastSeenAt : ℤ)
  (event : OperationalEvents.OperationalEventReadModel) (log : List Event)

theorem silenceMet_cons (e : Event) :
    silenceMet device (e :: log) =
      (!endsSilence device e && (isMet device e || silenceMet device log)) :=
  EventLog.any_since_cons _ _ e log

theorem silenceAlerted_cons (e : Event) :
    silenceAlerted device (e :: log) =
      (!endsSilence device e &&
        (isAlert device .telemetryTimeout e || silenceAlerted device log)) :=
  EventLog.any_since_cons _ _ e log

theorem breachAlerted_cons (e : Event) :
    breachAlerted device rule (e :: log) =
      (!endsBreach device rule e && (isAlert device rule e || breachAlerted device rule log)) :=
  EventLog.any_since_cons _ _ e log

end Logs

variable {timeout : ℤ} {engine : Engine}

theorem initial_invariant : Invariant timeout .initial where
  overdue := trivial
  once := trivial
  answered := trivial
  answeredNow _ h := absurd h Bool.false_ne_true
  calls _ h := absurd h List.not_mem_nil
  seen _ _ h := (nomatch h)
  quiet _ _ h := (nomatch h)
  held _ h := absurd h Bool.false_ne_true
  found _ _ _ h := (nomatch h)
  activated _ _ h := (nomatch h)
  active _ _ _ h := absurd h Bool.false_ne_true

theorem setRuleState_apply (deviceKey device : String) (rule rule' : AlertRule) (active : Bool) :
    (engine.setRuleState deviceKey rule active).activeRules (ruleKey device rule') =
      if device = deviceKey ∧ rule' = rule then active
      else engine.activeRules (ruleKey device rule') := by
  simp only [Engine.setRuleState, Function.update_apply, ruleKey_inj]

theorem see_invariant (h : Invariant timeout engine) {deviceKey : String} {state : DeviceState}
    (hfree : engine.scan.awaits deviceKey = false) (uuid : String) :
    Invariant timeout (engine.perform uuid (.see deviceKey state)) where
  overdue := ⟨trivial, h.overdue⟩
  once := ⟨trivial, h.once⟩
  answered := by
    refine ⟨fun hmet => ?_, h.answered⟩
    rcases h.answeredNow deviceKey hmet with hfound | halerted
    · cases hscan : engine.scan <;> simp_all [ScanStage.isFound, ScanStage.awaits]
    · exact halerted
  answeredNow device := by
    simp only [Engine.perform, Engine.record, silenceMet_cons, silenceAlerted_cons, isMet, isAlert]
    cases hd : endsSilence device (.seen deviceKey state.lastSeenAt) with
    | true => simp
    | false => simpa using h.answeredNow device
  calls := h.calls
  seen device state' hdevice := by
    simp only [Engine.perform, Engine.record, Function.update_apply] at hdevice
    simp only [Engine.perform, Engine.record, lastSeen]
    by_cases heq : device = deviceKey
    · rw [if_pos heq, Option.some.injEq] at hdevice
      rw [if_pos heq.symm, hdevice]
    · rw [if_neg heq] at hdevice
      rw [if_neg (Ne.symm heq)]
      exact h.seen device state' hdevice
  quiet device state' hdevice hscan := by
    simp only [Engine.perform, Engine.record, Function.update_apply] at hdevice
    simp only [Engine.perform, Engine.record, silenceAlerted_cons, endsSilence, isAlert,
      Bool.false_or]
    by_cases heq : device = deviceKey
    · rw [decide_eq_true heq.symm]
      rfl
    · rw [if_neg heq] at hdevice
      rw [h.quiet device state' hdevice hscan, Bool.and_false]
  held := h.held
  found device state' now hscan := by
    obtain ⟨hdevice, hlate⟩ := h.found device state' now hscan
    have hne : device ≠ deviceKey := by
      rintro rfl
      simp only [Engine.perform, Engine.record] at hscan
      simp [hscan, ScanStage.awaits] at hfree
    exact ⟨(Function.update_of_ne hne _ _).trans hdevice, hlate⟩
  activated device state' hscan := by
    have hne : device ≠ deviceKey := by
      rintro rfl
      simp only [Engine.perform, Engine.record] at hscan
      simp [hscan, ScanStage.awaits] at hfree
    exact (Function.update_of_ne hne _ _).trans (h.activated device state' hscan)
  active device rule hrule := by
    simp only [Engine.perform, Engine.record, breachAlerted_cons, endsBreach, isAlert,
      Bool.not_false, Bool.true_and, Bool.false_or]
    exact h.active device rule hrule

theorem raise_of_active {deviceKey : String} {groupId : TelemetryIngestRpc.GroupId}
    {rule : AlertRule} {occurredAt : ℤ} {uuid : String}
    (h : engine.activeRules (ruleKey deviceKey rule) = true) :
    engine.raise deviceKey groupId rule occurredAt uuid = engine :=
  if_pos h

theorem raise_of_not_active {deviceKey : String} {groupId : TelemetryIngestRpc.GroupId}
    {rule : AlertRule} {occurredAt : ℤ} {uuid : String}
    (h : engine.activeRules (ruleKey deviceKey rule) = false) :
    engine.raise deviceKey groupId rule occurredAt uuid =
      (engine.setRuleState deviceKey rule true).record
        (.alert deviceKey rule (alertEvent uuid groupId rule occurredAt)) :=
  if_neg (by rw [h]; exact Bool.false_ne_true)

theorem raise_invariant (h : Invariant timeout engine) {deviceKey : String}
    {groupId : TelemetryIngestRpc.GroupId} {rule : AlertRule} {occurredAt : ℤ}
    (hrule : rule ≠ .telemetryTimeout)
    (hfree : engine.activeRules (ruleKey deviceKey rule) = true ∨
      engine.scan.clears deviceKey rule = false) (uuid : String) :
    Invariant timeout (engine.raise deviceKey groupId rule occurredAt uuid) := by
  cases hactive : engine.activeRules (ruleKey deviceKey rule) with
  | true =>
      rw [raise_of_active hactive]
      exact h
  | false =>
      have hclears := hfree.resolve_left (by rw [hactive]; exact Bool.false_ne_true)
      have hlog : ∀ device, isAlert device .telemetryTimeout
          (.alert deviceKey rule (alertEvent uuid groupId rule occurredAt)) = false := by
        intro device
        exact decide_eq_false fun hand => hrule hand.2
      rw [raise_of_not_active hactive]
      constructor
      · constructor
        · refine ⟨?_, h.overdue⟩
          cases rule <;> trivial
        · refine ⟨?_, h.once⟩
          simp only [Once, if_neg hrule]
          rw [← Bool.not_eq_true]
          intro halerted
          rw [(h.active deviceKey rule hrule halerted).1] at hactive
          exact Bool.noConfusion hactive
        · exact ⟨trivial, h.answered⟩
        · intro device
          simp only [Engine.record, silenceMet_cons, silenceAlerted_cons, endsSilence, isMet, hlog,
            Bool.not_false, Bool.true_and, Bool.false_or]
          exact h.answeredNow device
      · exact h.calls
      · exact h.seen
      · intro device state hdevice hscan
        simp only [Engine.record, silenceAlerted_cons, endsSilence, hlog, Bool.not_false,
          Bool.true_and, Bool.false_or]
        exact h.quiet device state hdevice hscan
      · intro device
        simp only [Engine.record, setRuleState_apply]
        rw [if_neg fun hand => hrule hand.2.symm]
        exact h.held device
      · exact h.found
      · exact h.activated
      · intro device rule' hrule'
        simp only [Engine.record, setRuleState_apply, breachAlerted_cons, endsBreach, isAlert,
          Bool.not_false, Bool.true_and, Bool.or_eq_true, decide_eq_true_eq]
        by_cases hsame : device = deviceKey ∧ rule' = rule
        · rw [if_pos hsame, hsame.1, hsame.2]
          exact fun _ => ⟨rfl, hclears⟩
        · rw [if_neg hsame]
          rintro (hnew | hold)
          · exact absurd ⟨hnew.1.symm, hnew.2.symm⟩ hsame
          · exact h.active device rule' hrule' hold

theorem deactivate_invariant (h : Invariant timeout engine) (deviceKey : String)
    (rule : AlertRule) (uuid : String) :
    Invariant timeout (engine.perform uuid (.deactivate deviceKey rule)) where
  overdue := ⟨trivial, h.overdue⟩
  once := ⟨trivial, h.once⟩
  answered := ⟨trivial, h.answered⟩
  answeredNow device := by
    simp only [Engine.perform, Engine.record, silenceMet_cons, silenceAlerted_cons, endsSilence,
      isMet, isAlert, Bool.not_false, Bool.true_and, Bool.false_or]
    exact h.answeredNow device
  calls := h.calls
  seen := h.seen
  quiet device state hdevice hscan := by
    simp only [Engine.perform, Engine.record, silenceAlerted_cons, endsSilence, isAlert,
      Bool.not_false, Bool.true_and, Bool.false_or]
    exact h.quiet device state hdevice hscan
  held device := by
    simp only [Engine.perform, Engine.record, setRuleState_apply]
    split_ifs
    · exact False.elim
    · exact h.held device
  found := h.found
  activated := h.activated
  active device rule' hrule' := by
    simp only [Engine.perform, Engine.record, setRuleState_apply, breachAlerted_cons, endsBreach,
      isAlert, Bool.false_or, Bool.and_eq_true, Bool.not_eq_true', decide_eq_false_iff_not]
    rintro ⟨hsame, halerted⟩
    rw [if_neg fun hand => hsame ⟨hand.1.symm, hand.2.symm⟩]
    exact h.active device rule' hrule' halerted

theorem proceed_invariant (h : Invariant timeout engine) {call : ℕ} {uuid : String}
    {engine' : Engine} (hfree : engine.Undisturbed (.proceed call uuid))
    (hstep : engine.proceed call uuid = some engine') : Invariant timeout engine' := by
  unfold Engine.proceed at hstep
  split at hstep
  next operation operations hcall =>
    have hmem := List.mem_of_getElem? hcall
    have hkept : ∀ ops ∈ engine.calls.set call operations, ∀ op ∈ ops, op.isTimeout = false := by
      intro ops hops op hop
      rcases List.mem_or_eq_of_mem_set hops with hold | rfl
      · exact h.calls ops hold op hop
      · exact h.calls _ hmem op (List.mem_cons_of_mem _ hop)
    simp only [Engine.Undisturbed, hcall] at hfree
    have hperform : Invariant timeout (engine.perform uuid operation) := by
      cases operation with
      | see deviceKey state => exact see_invariant h hfree uuid
      | activate deviceKey groupId rule occurredAt =>
          have hrule := h.calls _ hmem _ (List.mem_cons_self ..)
          exact raise_invariant h (of_decide_eq_false hrule) hfree uuid
      | deactivate deviceKey rule => exact deactivate_invariant h deviceKey rule uuid
    rw [← Option.some.inj hstep]
    exact { hperform with calls := hkept }
  next => exact absurd hstep (by simp)

theorem evaluate_isTimeout (thresholds : TelemetryAlertThresholds)
    (telemetry : TelemetryIngestRpc.TelemetryReadModel) (receivedAt : ℤ) :
    ∀ operation ∈ evaluate thresholds telemetry receivedAt, operation.isTimeout = false := by
  have hrule : ∀ (rule : AlertRule) (breached : Bool), rule ≠ .telemetryTimeout →
      (evaluateRule telemetry rule breached receivedAt).isTimeout = false := by
    intro rule breached hne
    cases breached with
    | false => rfl
    | true => exact decide_eq_false hne
  intro operation hmem
  simp only [evaluate, List.mem_cons, List.not_mem_nil, or_false] at hmem
  rcases hmem with rfl | rfl | rfl | rfl | rfl
  · rfl
  · exact hrule _ _ (by decide)
  · exact hrule _ _ (by decide)
  · exact hrule _ _ (by decide)
  · rfl

/-- An idle scan meets a silence that is too long. -/
theorem met_invariant (h : Invariant timeout engine) {deviceKey : String} {state : DeviceState}
    {now : ℤ} (hidle : engine.scan = .idle) (hdevice : engine.devices deviceKey = some state)
    (hlate : timeout < now - state.lastSeenAt) :
    Invariant timeout
      ({ engine with scan := .found deviceKey state now }.record (.met deviceKey)) where
  overdue := ⟨trivial, h.overdue⟩
  once := ⟨trivial, h.once⟩
  answered := ⟨trivial, h.answered⟩
  answeredNow device := by
    simp only [Engine.record, silenceMet_cons, silenceAlerted_cons, endsSilence, isMet, isAlert,
      Bool.not_false, Bool.true_and, Bool.false_or, ScanStage.isFound, Bool.or_eq_true]
    rintro (hnew | hold)
    · exact .inl hnew
    · refine .inr ((h.answeredNow device hold).resolve_left ?_)
      rw [hidle]
      exact Bool.false_ne_true
  calls := h.calls
  seen := h.seen
  quiet device state' hstate _ := by
    simp only [Engine.record, silenceAlerted_cons, endsSilence, isAlert, Bool.not_false,
      Bool.true_and, Bool.false_or]
    exact h.quiet device state' hstate (by rw [hidle]; rfl)
  held device hflag := by
    have hscan := h.held device hflag
    rw [hidle] at hscan
    exact absurd hscan (by simp [ScanStage.isActivated, ScanStage.clears])
  found device state' now' hscan := by
    obtain ⟨rfl, rfl, rfl⟩ := ScanStage.found.inj hscan
    exact ⟨hdevice, hlate⟩
  activated _ _ hscan := nomatch hscan
  active device rule hrule := by
    simp only [Engine.record, breachAlerted_cons, endsBreach, isAlert, Bool.not_false,
      Bool.true_and, Bool.false_or]
    intro halerted
    exact ⟨(h.active device rule hrule halerted).1, rfl⟩

theorem visit_invariant {thresholds : TelemetryAlertThresholds}
    (h : Invariant thresholds.telemetryTimeout engine) {deviceKey : String} {now : ℤ}
    {engine' : Engine} (hstep : engine.visit thresholds deviceKey now = some engine') :
    Invariant thresholds.telemetryTimeout engine' := by
  unfold Engine.visit at hstep
  split at hstep
  next state hidle hdevice =>
    rw [← Option.some.inj hstep]
    split_ifs with hlate
    · exact met_invariant h hidle hdevice hlate
    · exact h
  next => exact absurd hstep (by simp)

/-- The scan appends the alert of the silence that it has met. -/
theorem found_invariant (h : Invariant timeout engine) {deviceKey : String} {state : DeviceState}
    {now : ℤ} (hscan : engine.scan = .found deviceKey state now) (uuid : String) :
    Invariant timeout
      { engine.raise deviceKey state.groupId .telemetryTimeout now uuid with
        scan := .activated deviceKey state } := by
  obtain ⟨hdevice, hlate⟩ := h.found deviceKey state now hscan
  have hflag : engine.activeRules (ruleKey deviceKey .telemetryTimeout) = false := by
    rw [← Bool.not_eq_true]
    intro hflag
    have hheld := h.held deviceKey hflag
    rw [hscan] at hheld
    exact absurd hheld (by simp [ScanStage.isActivated, ScanStage.clears])
  have hquiet : silenceAlerted deviceKey engine.log = false :=
    h.quiet deviceKey state hdevice (by rw [hscan]; rfl)
  rw [raise_of_not_active hflag]
  constructor
  · constructor
    · exact ⟨⟨state.lastSeenAt, h.seen deviceKey state hdevice, hlate⟩, h.overdue⟩
    · exact ⟨hquiet, h.once⟩
    · exact ⟨trivial, h.answered⟩
    · intro device
      simp only [Engine.record, Engine.setRuleState, silenceMet_cons, silenceAlerted_cons,
        endsSilence, isMet, isAlert, Bool.not_false, Bool.true_and, Bool.false_or, and_true,
        Bool.or_eq_true]
      intro hmet
      refine .inr ?_
      rcases h.answeredNow device hmet with hfound | halerted
      · rw [hscan] at hfound
        exact .inl hfound
      · exact .inr halerted
  · exact h.calls
  · exact h.seen
  · intro device state' hstate hactivated
    simp only [Engine.record, Engine.setRuleState, silenceAlerted_cons, endsSilence, isAlert,
      Bool.not_false, Bool.true_and, and_true]
    have hne : decide (deviceKey = device) = false := hactivated
    rw [hne, Bool.false_or]
    exact h.quiet device state' hstate (by rw [hscan]; rfl)
  · intro device
    simp only [Engine.record, setRuleState_apply]
    split_ifs with hsame
    · exact fun _ => .inl (decide_eq_true hsame.1.symm)
    · intro hold
      have hheld := h.held device hold
      rw [hscan] at hheld
      exact absurd hheld (by simp [ScanStage.isActivated, ScanStage.clears])
  · exact fun _ _ _ hfound => nomatch hfound
  · intro device state' hactivated
    obtain ⟨rfl, rfl⟩ := ScanStage.activated.inj hactivated
    exact hdevice
  · intro device rule hrule
    simp only [Engine.record, setRuleState_apply, breachAlerted_cons, endsBreach, isAlert,
      Bool.not_false, Bool.true_and, Ne.symm hrule, and_false, decide_false, Bool.false_or]
    rw [if_neg fun hand => hrule hand.2]
    intro halerted
    exact ⟨(h.active device rule hrule halerted).1, rfl⟩

/-- The scan removes the device, which nothing has touched since. -/
theorem removed_invariant (h : Invariant timeout engine) {deviceKey : String}
    {state : DeviceState} (hscan : engine.scan = .activated deviceKey state) :
    Invariant timeout
      ({ engine with
        devices := Function.update engine.devices deviceKey none
        scan := .clearing deviceKey ALERT_RULES }.record (.timedOut deviceKey)) where
  overdue := ⟨trivial, h.overdue⟩
  once := ⟨trivial, h.once⟩
  answered := ⟨trivial, h.answered⟩
  answeredNow device := by
    simp only [Engine.record, silenceMet_cons, silenceAlerted_cons, endsSilence, isMet, isAlert,
      Bool.not_false, Bool.true_and, Bool.false_or]
    intro hmet
    refine .inr ((h.answeredNow device hmet).resolve_left ?_)
    rw [hscan]
    exact Bool.false_ne_true
  calls := h.calls
  seen device state' hdevice := by
    simp only [Engine.record, Function.update_apply] at hdevice
    split_ifs at hdevice
    exact h.seen device state' hdevice
  quiet device state' hdevice _ := by
    simp only [Engine.record, Function.update_apply] at hdevice
    split_ifs at hdevice with hne
    simp only [Engine.record, silenceAlerted_cons, endsSilence, isAlert, Bool.not_false,
      Bool.true_and, Bool.false_or]
    apply h.quiet device state' hdevice
    rw [hscan]
    exact decide_eq_false (Ne.symm hne)
  held device hflag := by
    have hheld := h.held device hflag
    rw [hscan] at hheld
    simp only [ScanStage.isActivated, ScanStage.clears, Bool.false_eq_true, or_false,
      decide_eq_true_eq] at hheld
    exact .inr (decide_eq_true ⟨hheld, by decide⟩)
  found _ _ _ hfound := nomatch hfound
  activated _ _ hactivated := nomatch hactivated
  active device rule hrule := by
    simp only [Engine.record, breachAlerted_cons, endsBreach, isAlert, Bool.false_or,
      Bool.and_eq_true, Bool.not_eq_true', decide_eq_false_iff_not]
    rintro ⟨hne, halerted⟩
    exact ⟨(h.active device rule hrule halerted).1, decide_eq_false fun hand => hne hand.1⟩

theorem cleared_invariant (h : Invariant timeout engine) {deviceKey : String} {rule : AlertRule}
    {rules : List AlertRule} (hscan : engine.scan = .clearing deviceKey (rule :: rules)) :
    Invariant timeout
      { engine.setRuleState deviceKey rule false with scan := .clearing deviceKey rules } where
  overdue := h.overdue
  once := h.once
  answered := h.answered
  answeredNow device hmet := by
    refine .inr ((h.answeredNow device hmet).resolve_left ?_)
    rw [hscan]
    exact Bool.false_ne_true
  calls := h.calls
  seen := h.seen
  quiet device state hdevice _ := h.quiet device state hdevice (by rw [hscan]; rfl)
  held device := by
    rw [setRuleState_apply]
    split_ifs with hsame
    · exact False.elim
    · intro hflag
      have hheld := h.held device hflag
      rw [hscan] at hheld
      simp only [ScanStage.isActivated, ScanStage.clears, Bool.false_eq_true, false_or,
        decide_eq_true_eq, List.mem_cons] at hheld
      obtain ⟨hdevice, hrule⟩ := hheld
      refine .inr (decide_eq_true ⟨hdevice, hrule.resolve_left fun heq => ?_⟩)
      exact hsame ⟨hdevice.symm, heq⟩
  found _ _ _ hfound := nomatch hfound
  activated _ _ hactivated := nomatch hactivated
  active device rule' hrule halerted := by
    obtain ⟨hactive, hclears⟩ := h.active device rule' hrule halerted
    rw [hscan] at hclears
    simp only [ScanStage.clears, decide_eq_false_iff_not, List.mem_cons] at hclears
    rw [setRuleState_apply, if_neg fun hand => hclears ⟨hand.1.symm, .inl hand.2⟩]
    exact ⟨hactive, decide_eq_false fun hand => hclears ⟨hand.1, .inr hand.2⟩⟩

theorem idle_invariant (h : Invariant timeout engine) {deviceKey : String}
    (hscan : engine.scan = .clearing deviceKey []) :
    Invariant timeout { engine with scan := .idle } where
  overdue := h.overdue
  once := h.once
  answered := h.answered
  answeredNow device hmet := by
    refine .inr ((h.answeredNow device hmet).resolve_left ?_)
    rw [hscan]
    exact Bool.false_ne_true
  calls := h.calls
  seen := h.seen
  quiet device state hdevice _ := h.quiet device state hdevice (by rw [hscan]; rfl)
  held device hflag := by
    have hheld := h.held device hflag
    rw [hscan] at hheld
    exact absurd hheld (by simp [ScanStage.isActivated, ScanStage.clears])
  found _ _ _ hfound := nomatch hfound
  activated _ _ hactivated := nomatch hactivated
  active device rule hrule halerted := ⟨(h.active device rule hrule halerted).1, rfl⟩

theorem scan_invariant (h : Invariant timeout engine) {uuid : String} {engine' : Engine}
    (hstep : engine.scanStep uuid = some engine') : Invariant timeout engine' := by
  unfold Engine.scanStep at hstep
  split at hstep
  next => exact absurd hstep (by simp)
  next deviceKey state now hscan =>
    rw [← Option.some.inj hstep]
    exact found_invariant h hscan uuid
  next deviceKey state hscan =>
    rw [← Option.some.inj hstep, if_pos (h.activated deviceKey state hscan)]
    exact removed_invariant h hscan
  next deviceKey rule rules hscan =>
    rw [← Option.some.inj hstep]
    exact cleared_invariant h hscan
  next deviceKey hscan =>
    rw [← Option.some.inj hstep]
    exact idle_invariant h hscan

theorem step_invariant {thresholds : TelemetryAlertThresholds} {action : Action}
    {engine' : Engine} (h : Invariant thresholds.telemetryTimeout engine)
    (hfree : engine.Undisturbed action) (hstep : Engine.step thresholds engine action = some engine') :
    Invariant thresholds.telemetryTimeout engine' := by
  cases action with
  | evaluate telemetry receivedAt =>
      rw [← Option.some.inj hstep]
      refine { h with calls := fun operations hmem => ?_ }
      rcases List.mem_append.1 hmem with hold | hnew
      · exact h.calls operations hold
      · rw [List.mem_singleton.1 hnew]
        exact evaluate_isTimeout thresholds telemetry receivedAt
  | proceed call uuid => exact proceed_invariant h hfree hstep
  | visit deviceKey now => exact visit_invariant h hstep
  | scan uuid => exact scan_invariant h hstep

/-! ## Runs -/

def sampleOf (batteryPercent : Float) (observedUnixMillis : ℤ) :
    TelemetryIngestRpc.TelemetryReadModel :=
  TelemetryIngestRpc.TelemetryIngestRequest.readModel
    { uuid := none
      batteryPercent := some batteryPercent
      observedUnixMillis := some observedUnixMillis }
    ⟨"device-001", ⟨"alpha", .refl false⟩, .refl false⟩ "device-001"

/-- A call of `evaluate` up to its end, as soon as the sample is observed. -/
def evaluateWholly (call : ℕ) (batteryPercent : Float) (seconds : ℤ) : List Action :=
  .evaluate (sampleOf batteryPercent (seconds * 1000)) (seconds * Clock.second) ::
    List.replicate 5 (.proceed call "sample")

def visitAt (seconds : ℤ) : Action := .visit "alpha:device-001" (seconds * Clock.second)

/-- A sample arrives after the scan has read the device and before it appends the alert. -/
def falseAlert : List Action :=
  evaluateWholly 0 80 0 ++ [visitAt 31] ++ evaluateWholly 1 80 31 ++ [.scan "timeout"]

/-- A sample is taken up after the alert, and ingested only after the next silence. -/
def missedAlert : List Action :=
  evaluateWholly 0 80 0 ++
    [visitAt 31, .scan "timeout", .evaluate (sampleOf 80 31000) (31 * Clock.second),
      .proceed 1 "sample", .scan "timeout", visitAt 62, .scan "timeout"]

/-- A sample with a low battery arrives before the scan has cleared the rules. -/
def doubledAlert : List Action :=
  evaluateWholly 0 80 0 ++ visitAt 31 :: List.replicate 2 (.scan "timeout") ++
    evaluateWholly 1 10 32 ++ List.replicate 5 (.scan "timeout") ++ evaluateWholly 2 10 33

/-- A sample with a low battery, a silence with its alert, and the next sample. -/
def undisturbedRun : List Action :=
  evaluateWholly 0 10 0 ++ visitAt 31 :: List.replicate 7 (.scan "timeout") ++
    evaluateWholly 1 10 32

end GcsSaker.TelemetryAlerts
