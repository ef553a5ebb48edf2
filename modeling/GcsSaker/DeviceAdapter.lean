import GcsSaker.ControlCommand
import GcsSaker.FloatOrder

/-!
# The device adapter

The adapter that a vehicle runs between the command stream and its actuator. Every operation makes
at most one actuator call; `works` says whether that call, should it be made, succeeds. `perform`
runs one operation and logs it, so a log holds the whole history of an adapter, the latest event
first.
-/

namespace GcsSaker.Control

inductive ActuatorCall where
  | stop
  | motion (forward right up yaw : Float)
  | camera (pan tilt : Float)
  | returnHome
  | emergencyStop
  deriving DecidableEq

/-- `errRange`, `errUnsupported`, or whatever error the actuator returned. -/
inductive AdapterError where
  | range
  | unsupported
  | actuator
  deriving DecidableEq

inductive ControlAckStatus where
  | unspecified
  | accepted
  | applied
  | rejected
  | expired
  | duplicate
  deriving DecidableEq

inductive ControlErrorCode where
  | unspecified
  | none
  | unauthorized
  | leaseMismatch
  | sequenceRejected
  | expired
  | unsupported
  | parameterRange
  | deviceUnavailable
  | internal
  deriving DecidableEq

structure ControlCommandAck where
  commandId : String
  controlSessionId : String
  deviceId : String
  sequence : ℕ
  status : ControlAckStatus
  errorCode : ControlErrorCode
  appliedUnixMillis : ℤ
  deviceUnixMillis : ℤ
  deriving DecidableEq

def maxHeartbeatGap : ℤ := 3 * Clock.second

structure Adapter where
  hasActuator : Bool
  sessionID : String
  leaseExpires : ℤ
  lastHeartbeat : ℤ
  stopped : Bool
  deriving DecidableEq

/-- What an operation leaves behind: the adapter, the actuator call it made and its error. -/
structure Outcome where
  adapter : Adapter
  call : Option ActuatorCall
  err : Option AdapterError
  deriving DecidableEq

def actuatorError (works : Bool) : Option AdapterError :=
  if works then none else some .actuator

def validAxes (values : List Float) : Bool :=
  values.all fun value => !(value.isNaN || value.isInf || decide (value < -1) || decide (value > 1))

def errorCode : AdapterError → ControlErrorCode
  | .range => .parameterRange
  | .unsupported => .unsupported
  | .actuator => .deviceUnavailable

def acknowledgement (command : Option ControlCommandEnvelope) (now : ℤ) : ControlCommandAck :=
  match command with
  | none => ⟨"", "", "", 0, .unspecified, .unspecified, Clock.unixMilli now, Clock.unixMilli now⟩
  | some command => ⟨command.commandId, command.controlSessionId, command.deviceId,
      command.sequence, .unspecified, .unspecified, Clock.unixMilli now, Clock.unixMilli now⟩

def reject (ack : ControlCommandAck) (code : ControlErrorCode) : ControlCommandAck :=
  { ack with status := .rejected, errorCode := code }

namespace Adapter

def new (hasActuator : Bool) : Adapter :=
  ⟨hasActuator, "", Clock.zeroTime, Clock.zeroTime, true⟩

variable (a : Adapter)

def beginLease (sessionID : String) (expiresAt now : ℤ) : Adapter × Bool :=
  if a.hasActuator = false ∨ sessionID = "" ∨ expiresAt ≤ now then (a, false)
  else (⟨a.hasActuator, sessionID, expiresAt, now, false⟩, true)

def heartbeat (sessionID : String) (now : ℤ) : Adapter × Bool :=
  if a.stopped ∨ sessionID ≠ a.sessionID ∨ a.leaseExpires ≤ now then (a, false)
  else ({ a with lastHeartbeat := now }, true)

def stopLocked (works : Bool) : Outcome :=
  ⟨{ a with stopped := true }, some .stop, actuatorError works⟩

def commandAllowed (command : ControlCommandEnvelope) (now : ℤ) : Bool :=
  !a.stopped && decide (command.controlSessionId = a.sessionID) &&
    decide (now < a.leaseExpires) && decide (Clock.unixMilli now < command.expiresUnixMillis)

def apply (command : ControlCommandEnvelope) (works : Bool) : Outcome :=
  match command.commandType with
  | .stop => a.stopLocked works
  | .motion => match command.getMotion with
    | none => ⟨a, none, some .range⟩
    | some axes =>
      if validAxes [axes.forward, axes.right, axes.up, axes.yaw] then
        ⟨a, some (.motion axes.forward axes.right axes.up axes.yaw), actuatorError works⟩
      else ⟨a, none, some .range⟩
  | .cameraPanTilt => match command.getCamera with
    | none => ⟨a, none, some .range⟩
    | some camera =>
      if validAxes [camera.pan, camera.tilt] then
        ⟨a, some (.camera camera.pan camera.tilt), actuatorError works⟩
      else ⟨a, none, some .range⟩
  | .returnHome => ⟨a, some .returnHome, actuatorError works⟩
  | .emergencyStop =>
      ⟨{ a with stopped := true }, some .emergencyStop, actuatorError works⟩
  | .unspecified => ⟨a, none, some .unsupported⟩
  | .unrecognized _ => ⟨a, none, some .unsupported⟩

/-- `Execute`, with the state and the actuator call beside the acknowledgement. A nil command is
never allowed. -/
def execute (command : Option ControlCommandEnvelope) (now : ℤ) (works : Bool) :
    Adapter × Option ActuatorCall × ControlCommandAck :=
  let ack := acknowledgement command now
  match command with
  | none => (a, none, reject ack .leaseMismatch)
  | some command =>
    if a.commandAllowed command now then
      let outcome := a.apply command works
      match outcome.err with
      | some err => (outcome.adapter, outcome.call, reject ack (errorCode err))
      | none => (outcome.adapter, outcome.call, { ack with status := .applied, errorCode := .none })
    else (a, none, reject ack .leaseMismatch)

/-- The lease has run out or the last heartbeat is too old. -/
def failSafeDue (now : ℤ) : Bool :=
  decide (maxHeartbeatGap < now - a.lastHeartbeat) || decide (a.leaseExpires ≤ now)

def checkFailSafe (now : ℤ) (works : Bool) : Outcome :=
  if a.stopped || !a.failSafeDue now then ⟨a, none, none⟩ else a.stopLocked works

def disconnect (works : Bool) : Outcome :=
  if a.stopped then ⟨a, none, none⟩ else a.stopLocked works

end Adapter

inductive Operation where
  | beginLease (sessionID : String) (expiresAt now : ℤ)
  | heartbeat (sessionID : String) (now : ℤ)
  | execute (command : Option ControlCommandEnvelope) (now : ℤ) (works : Bool)
  | checkFailSafe (now : ℤ) (works : Bool)
  | disconnect (works : Bool)
  deriving DecidableEq

/-- An operation with the actuator call it made, if any, whether that call succeeded, and whether
the operation was accepted: a lease begun, a heartbeat taken, a command applied, no error. -/
structure Event where
  operation : Operation
  call : Option ActuatorCall
  worked : Bool
  accepted : Bool
  deriving DecidableEq

structure AdapterRun where
  adapter : Adapter
  log : List Event
  deriving DecidableEq

def perform (r : AdapterRun) (operation : Operation) : AdapterRun :=
  match operation with
  | .beginLease sessionID expiresAt now =>
      let done := r.adapter.beginLease sessionID expiresAt now
      ⟨done.1, ⟨operation, none, true, done.2⟩ :: r.log⟩
  | .heartbeat sessionID now =>
      let done := r.adapter.heartbeat sessionID now
      ⟨done.1, ⟨operation, none, true, done.2⟩ :: r.log⟩
  | .execute command now works =>
      let done := r.adapter.execute command now works
      ⟨done.1, ⟨operation, done.2.1, works, decide (done.2.2.status = .applied)⟩ :: r.log⟩
  | .checkFailSafe now works =>
      let done := r.adapter.checkFailSafe now works
      ⟨done.adapter, ⟨operation, done.call, works, done.err.isNone⟩ :: r.log⟩
  | .disconnect works =>
      let done := r.adapter.disconnect works
      ⟨done.adapter, ⟨operation, done.call, works, done.err.isNone⟩ :: r.log⟩

/-- The run of a new adapter, with its history. -/
def runAdapter (hasActuator : Bool) (operations : List Operation) : AdapterRun :=
  operations.foldl perform ⟨Adapter.new hasActuator, []⟩

/-- A finite number between minus one and one. -/
def UnitAxis (value : Float) : Prop := value.isFinite = true ∧ -1 ≤ value ∧ value ≤ 1

theorem validAxes_iff (values : List Float) :
    validAxes values = true ↔ ∀ value ∈ values, UnitAxis value := by
  have hone : Float.isNaN 1 = false := by decide +kernel
  have hneg : Float.isNaN (-1) = false := by decide +kernel
  simp only [validAxes, List.all_eq_true, Bool.not_eq_true', Bool.or_eq_false_iff,
    decide_eq_false_iff_not]
  refine forall₂_congr fun value _ => ?_
  constructor
  · rintro ⟨⟨⟨hn, hi⟩, hlow⟩, hhigh⟩
    exact ⟨(FloatOrder.isFinite_iff value).mpr ⟨hn, hi⟩, FloatOrder.le_of_not_lt hn hneg hlow,
      FloatOrder.le_of_not_lt hone hn hhigh⟩
  · rintro ⟨hf, hlow, hhigh⟩
    obtain ⟨hn, hi⟩ := (FloatOrder.isFinite_iff value).mp hf
    exact ⟨⟨⟨hn, hi⟩, FloatOrder.not_lt_of_le hlow⟩, FloatOrder.not_lt_of_le hhigh⟩

end GcsSaker.Control
