import GcsSaker.ControlPlane

/-!
# Storing a telemetry event once

`StoreTelemetry` reserves the event in Redis, hands it to the policy service and then marks it as
stored, or gives the reservation back. Any number of calls on any number of gateways take their
steps in any order; a Redis command is one step, and its reply may be lost.
-/

namespace GcsSaker.TelemetryStore

open Control (Reply)

def gatewayTelemetryEventKeyPrefix : String := "gcs-saker:gateway:v1:telemetry-event:"

def gatewayTelemetryPendingTTL : ℤ := 30 * Clock.second

def gatewayTelemetryStoredTTL : ℤ := 7 * 24 * 3600 * Clock.second

/-- A telemetry event, with the device it comes from. -/
structure Sample where
  deviceUUID : String
  eventID : String
  deriving DecidableEq

def Sample.key (v : Sample) : String :=
  gatewayTelemetryEventKeyPrefix ++ v.deviceUUID ++ ":" ++ v.eventID

/-! ## Persisting -/

/-- What comes back from the policy service: `Stored` over the private RPC, the status over HTTP. -/
structure PersistAnswer where
  rpc : Except String Bool
  http : Except String ℕ

def ingestBoundTelemetry : Except String Bool → Option String
  | .error error => some error
  | .ok stored => if stored then none else some "telemetry storage not acknowledged"

def ingestDeviceTelemetry : Except String ℕ → Option String
  | .error error => some error
  | .ok status =>
    if status < 200 ∨ 300 ≤ status then
      some ("auth-policy telemetry ingest returned status " ++ toString status)
    else none

/-- `persistTelemetry`; `credentials` is the device of the credentials in the context. -/
def persistTelemetry (rpc : Bool) (credentials : String) (v : Sample) (answer : PersistAnswer) :
    Option String :=
  if rpc then ingestBoundTelemetry answer.rpc
  else if v.deviceUUID ≠ credentials then some "authenticated device changed"
  else ingestDeviceTelemetry answer.http

/-! ## Calls -/

/-- How far a call has come; a call that holds the reservation knows since when. -/
inductive Stage where
  | entered
  | refused
  | reserved (since : ℤ)
  | persisting (since : ℤ)
  | releasing (since : ℤ) (error : String)
  | committing (since : ℤ)
  | returned (error : Option String)
  deriving DecidableEq

namespace Stage

def since : Stage → Option ℤ
  | .reserved since => some since
  | .persisting since => some since
  | .releasing since _ => some since
  | .committing since => some since
  | _ => none

def isPersisting : Stage → Bool
  | .persisting _ => true
  | _ => false

end Stage

/-- A call of `StoreTelemetry` on a gateway with or without the private RPC. -/
structure Call where
  rpc : Bool
  credentials : String
  sample : Sample
  stage : Stage
  deriving DecidableEq

/-- The value of a key. The call that wrote it is not part of what Redis holds. -/
structure Mark where
  text : String
  writer : ℕ
  deriving DecidableEq

/-- The calls are numbered in the order in which they begin; `persisted` lists the events whose
`persistTelemetry` has succeeded, the latest first. -/
structure Gateways where
  now : ℤ
  marks : ExpiringStore ℤ String Mark
  calls : List Call
  persisted : List Sample

/-- A step of a call, with what it meets. -/
inductive CallAction where
  | reserve (reply : Reply) (error : String)
  | read (reply : Reply)
  | persist
  | finish (answer : PersistAnswer)
  | release (reply : Reply) (error : String)
  | commit (reply : Reply) (error : String)

inductive Action where
  | tick (now : ℤ)
  | enter (rpc : Bool) (credentials : Option String) (sample : Sample)
  | call (call : ℕ) (action : CallAction)

namespace Gateways

def initial (now : ℤ) : Gateways := ⟨now, ExpiringStore.empty, [], []⟩

variable (s : Gateways)

/-- The call goes on to a stage. -/
def advance (call : ℕ) (c : Call) (stage : Stage) : Gateways :=
  { s with calls := s.calls.set call { c with stage := stage } }

/-- The marks after a command that leaves them as `marks`, unless it is lost before it runs. -/
def apply (reply : Reply) (marks : ExpiringStore ℤ String Mark) : Gateways :=
  match reply with
  | .lostBefore => s
  | _ => { s with marks := marks }

def enter (rpc : Bool) (credentials : Option String) (v : Sample) : Gateways :=
  match credentials with
  | none => { s with calls :=
      s.calls ++ [⟨rpc, "", v, .returned (some "gateway credentials missing")⟩] }
  | some credentials => { s with calls := s.calls ++ [⟨rpc, credentials, v, .entered⟩] }

def reserveCall (call : ℕ) (c : Call) (reply : Reply) (error : String) : Gateways :=
  let (marks, acquired) := s.marks.setNX s.now c.sample.key ⟨"pending", call⟩
    (s.now + gatewayTelemetryPendingTTL)
  (s.apply reply marks).advance call c <|
    match reply with
    | .delivered => if acquired then .reserved s.now else .refused
    | _ => .returned (some ("reserve telemetry event: " ++ error))

/-- The result of a call that did not get the reservation, by the state it reads. -/
def readResult (reply : Reply) (state : Option String) : Option String :=
  match reply, state with
  | .delivered, some "stored" => none
  | _, _ => some "telemetry event is already being stored"

def readCall (call : ℕ) (c : Call) (reply : Reply) : Gateways :=
  s.advance call c (.returned (readResult reply
    ((s.marks.live s.now c.sample.key).map fun e => e.value.text)))

def finishCall (call : ℕ) (c : Call) (since : ℤ) (answer : PersistAnswer) : Gateways :=
  match persistTelemetry c.rpc c.credentials c.sample answer with
  | some error => s.advance call c (.releasing since error)
  | none => { s with persisted := c.sample :: s.persisted }.advance call c (.committing since)

def releaseCall (call : ℕ) (c : Call) (failure : String) (reply : Reply) (error : String) :
    Gateways :=
  (s.apply reply (s.marks.erase c.sample.key)).advance call c (.returned (some (match reply with
    | .delivered => failure
    | _ => failure ++ "\n" ++ "release telemetry reservation: " ++ error)))

def commitCall (call : ℕ) (c : Call) (reply : Reply) (error : String) : Gateways :=
  (s.apply reply (s.marks.set c.sample.key ⟨"stored", call⟩
    (s.now + gatewayTelemetryStoredTTL))).advance call c (.returned (match reply with
    | .delivered => none
    | _ => some ("commit telemetry event idempotency: " ++ error)))

/-- One step of a call of `StoreTelemetry`, in the stage it is in. -/
def callStep (call : ℕ) (c : Call) (action : CallAction) : Option Gateways :=
  match c.stage, action with
  | .entered, .reserve reply error => some (s.reserveCall call c reply error)
  | .refused, .read reply => some (s.readCall call c reply)
  | .reserved since, .persist => some (s.advance call c (.persisting since))
  | .persisting since, .finish answer => some (s.finishCall call c since answer)
  | .releasing _ failure, .release reply error => some (s.releaseCall call c failure reply error)
  | .committing _, .commit reply error => some (s.commitCall call c reply error)
  | _, _ => none

def step : Action → Option Gateways
  | .tick now => if s.now ≤ now then some { s with now := now } else none
  | .enter rpc credentials v => some (s.enter rpc credentials v)
  | .call call action => s.calls[call]?.bind fun c => s.callStep call c action

end Gateways

end GcsSaker.TelemetryStore
