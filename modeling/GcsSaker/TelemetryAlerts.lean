import GcsSaker.EventLog
import GcsSaker.OperationalEvents
import GcsSaker.Runs

/-!
# Telemetry alerts

`TelemetryAlertRuleEngine`: its two concurrent maps, and the operations on them that a call of
`evaluate` and a scan for timeouts make one after the other. Any number of calls are in progress
at a time; a scan begins after the one before has ended. The log is a record of the model.
-/

namespace GcsSaker.TelemetryAlerts

open OperationalEvents (OperationalEventReadModel)
open TelemetryIngestRpc (GroupId TelemetryReadModel)

structure TelemetryAlertThresholds where
  batteryLowPercent : Float := 20
  tiltAbnormalDeg : Float := 45
  linkQualityLowPercent : Float := 30
  telemetryTimeout : ℤ := 30 * Clock.second

inductive AlertRule where
  | batteryLow
  | tiltAbnormal
  | linkQualityLow
  | telemetryTimeout
  deriving DecidableEq

def AlertRule.text : AlertRule → String
  | .batteryLow => "battery.low"
  | .tiltAbnormal => "tilt.abnormal"
  | .linkQualityLow => "link.quality.low"
  | .telemetryTimeout => "telemetry.timeout"

def ALERT_RULES : List AlertRule :=
  [.batteryLow, .tiltAbnormal, .linkQualityLow, .telemetryTimeout]

structure DeviceState where
  groupId : GroupId
  lastSeenAt : ℤ
  deriving DecidableEq

/-- `TelemetryReadModel.key` -/
def key (telemetry : TelemetryReadModel) : String :=
  telemetry.groupId.value ++ ":" ++ telemetry.uuid

def ruleKey (deviceKey : String) (rule : AlertRule) : String := deviceKey ++ ":" ++ rule.text

/-- The event that `appendAlert` appends. -/
def alertEvent (id : String) (groupId : GroupId) (rule : AlertRule) (occurredAt : ℤ) :
    OperationalEventReadModel where
  id := id
  occurredAt := occurredAt
  severity := "warn"
  category := "security"
  eventType := some rule.text
  sourceService := some "auth-policy"
  source := "telemetry-monitor"
  message := "Telemetry alert " ++ rule.text
  connections := 0
  latencyMs := 0
  throughputMbps := 0
  groupId := groupId

/-! ## The operations of a call -/

/-- An operation on one of the maps; `activate` appends the alert if the rule was not active. -/
inductive MapOperation where
  | see (deviceKey : String) (state : DeviceState)
  | activate (deviceKey : String) (groupId : GroupId) (rule : AlertRule) (occurredAt : ℤ)
  | deactivate (deviceKey : String) (rule : AlertRule)
  deriving DecidableEq

def evaluateRule (telemetry : TelemetryReadModel) (rule : AlertRule) (breached : Bool)
    (occurredAt : ℤ) : MapOperation :=
  if breached then .activate (key telemetry) telemetry.groupId rule occurredAt
  else .deactivate (key telemetry) rule

def evaluate (thresholds : TelemetryAlertThresholds) (telemetry : TelemetryReadModel)
    (receivedAt : ℤ) : List MapOperation :=
  let observedAt := telemetry.observedAt.getD receivedAt
  [.see (key telemetry) ⟨telemetry.groupId, observedAt⟩,
    evaluateRule telemetry .batteryLow
      (telemetry.batteryPercent.any fun it => it < thresholds.batteryLowPercent) receivedAt,
    evaluateRule telemetry .tiltAbnormal
      ((telemetry.rollDeg.toList ++ telemetry.pitchDeg.toList).any
        fun it => thresholds.tiltAbnormalDeg < it.abs) receivedAt,
    evaluateRule telemetry .linkQualityLow
      (telemetry.linkQualityPercent.any fun it => it < thresholds.linkQualityLowPercent)
      receivedAt,
    .deactivate (key telemetry) .telemetryTimeout]

/-! ## The engine -/

/-- How far a scan has come with the device it visits. -/
inductive ScanStage where
  | idle
  | found (deviceKey : String) (state : DeviceState) (now : ℤ)
  | activated (deviceKey : String) (state : DeviceState)
  | clearing (deviceKey : String) (rules : List AlertRule)
  deriving DecidableEq

/-- What has happened: a sample was evaluated, a scan met a silence that was too long, an alert was
appended, a sample did not breach a rule, a scan removed a device. -/
inductive Event where
  | seen (deviceKey : String) (lastSeenAt : ℤ)
  | met (deviceKey : String)
  | alert (deviceKey : String) (rule : AlertRule) (event : OperationalEventReadModel)
  | recovered (deviceKey : String) (rule : AlertRule)
  | timedOut (deviceKey : String)
  deriving DecidableEq

structure Engine where
  activeRules : String → Bool
  devices : String → Option DeviceState
  calls : List (List MapOperation)
  scan : ScanStage
  log : List Event

/-- A visit of a scan that runs at `now`; `uuid` is the fresh identity of an event that a step may
append. -/
inductive Action where
  | evaluate (telemetry : TelemetryReadModel) (receivedAt : ℤ)
  | proceed (call : ℕ) (uuid : String)
  | visit (deviceKey : String) (now : ℤ)
  | scan (uuid : String)

namespace Engine

def initial : Engine := ⟨fun _ => false, fun _ => none, [], .idle, []⟩

variable (engine : Engine)

def record (event : Event) : Engine := { engine with log := event :: engine.log }

def setRuleState (deviceKey : String) (rule : AlertRule) (active : Bool) : Engine :=
  { engine with activeRules := Function.update engine.activeRules (ruleKey deviceKey rule) active }

/-- `activate`, and `appendAlert` if it says so. -/
def raise (deviceKey : String) (groupId : GroupId) (rule : AlertRule) (occurredAt : ℤ)
    (uuid : String) : Engine :=
  if engine.activeRules (ruleKey deviceKey rule) then engine
  else (engine.setRuleState deviceKey rule true).record
    (.alert deviceKey rule (alertEvent uuid groupId rule occurredAt))

def perform (uuid : String) : MapOperation → Engine
  | .see deviceKey state =>
    { engine with devices := Function.update engine.devices deviceKey (some state) }.record
      (.seen deviceKey state.lastSeenAt)
  | .activate deviceKey groupId rule occurredAt =>
    engine.raise deviceKey groupId rule occurredAt uuid
  | .deactivate deviceKey rule =>
    (engine.setRuleState deviceKey rule false).record (.recovered deviceKey rule)

def proceed (call : ℕ) (uuid : String) : Option Engine :=
  match engine.calls[call]? with
  | some (operation :: operations) =>
    some { engine.perform uuid operation with calls := engine.calls.set call operations }
  | _ => none

/-- `evaluateTimeouts` reads an entry of `devices`. -/
def visit (thresholds : TelemetryAlertThresholds) (deviceKey : String) (now : ℤ) :
    Option Engine :=
  match engine.scan, engine.devices deviceKey with
  | .idle, some state =>
    some (if thresholds.telemetryTimeout < now - state.lastSeenAt then
      { engine with scan := .found deviceKey state now }.record (.met deviceKey)
    else engine)
  | _, _ => none

def scanStep (uuid : String) : Option Engine :=
  match engine.scan with
  | .idle => none
  | .found deviceKey state now =>
    some { engine.raise deviceKey state.groupId .telemetryTimeout now uuid with
      scan := .activated deviceKey state }
  | .activated deviceKey state =>
    some (if engine.devices deviceKey = some state then
      { engine with
        devices := Function.update engine.devices deviceKey none
        scan := .clearing deviceKey ALERT_RULES }.record (.timedOut deviceKey)
    else { engine with scan := .idle })
  | .clearing deviceKey (rule :: rules) =>
    some { engine.setRuleState deviceKey rule false with scan := .clearing deviceKey rules }
  | .clearing _ [] => some { engine with scan := .idle }

def step (thresholds : TelemetryAlertThresholds) (engine : Engine) : Action → Option Engine
  | .evaluate telemetry receivedAt =>
    some { engine with calls := engine.calls ++ [evaluate thresholds telemetry receivedAt] }
  | .proceed call uuid => engine.proceed call uuid
  | .visit deviceKey now => engine.visit thresholds deviceKey now
  | .scan uuid => engine.scanStep uuid

end Engine

/-! ## Small facts -/

theorem text_notMem (rule : AlertRule) : ':' ∉ rule.text.toList := by
  cases rule <;> decide

theorem text_injective : Function.Injective AlertRule.text := by
  intro rule rule' h
  cases rule <;> cases rule' <;> first | rfl | exact absurd h (by decide)

theorem takeWhile_ruleKey (deviceKey : String) (rule : AlertRule) :
    (ruleKey deviceKey rule).toList.reverse.takeWhile (· ≠ ':') = rule.text.toList.reverse := by
  have hplain : ∀ c ∈ rule.text.toList.reverse, decide (c ≠ ':') = true := by
    intro c hc
    exact decide_eq_true fun heq => text_notMem rule (heq ▸ List.mem_reverse.1 hc)
  rw [ruleKey, String.toList_append, String.toList_append, List.reverse_append,
    List.reverse_append, List.takeWhile_append_of_pos hplain]
  change rule.text.toList.reverse ++ List.takeWhile _ (':' :: _) = _
  rw [List.takeWhile_cons_of_neg (by decide), List.append_nil]

/-- The name of a rule has no colon, so the last colon of a key ends the device. -/
theorem ruleKey_inj {deviceKey deviceKey' : String} {rule rule' : AlertRule} :
    ruleKey deviceKey rule = ruleKey deviceKey' rule' ↔ deviceKey = deviceKey' ∧ rule = rule' := by
  constructor
  · intro h
    have htext : rule.text.toList.reverse = rule'.text.toList.reverse := by
      rw [← takeWhile_ruleKey deviceKey, ← takeWhile_ruleKey deviceKey', h]
    have hrule := text_injective (String.toList_injective (List.reverse_injective htext))
    subst hrule
    have hlists := congrArg String.toList h
    simp only [ruleKey, String.toList_append, List.append_left_inj] at hlists
    exact ⟨String.toList_injective hlists, rfl⟩
  · rintro ⟨rfl, rfl⟩
    rfl

end GcsSaker.TelemetryAlerts
