import GcsSaker.ControlCommand

/-!
# The command transport

`CommandTransport.publish` validates a command, reserves its idempotency id, has its sequence
number accepted and hands the wire form to the MQTT client. The ledgers and the client are
collaborators: what they answer is a field of the transport. The checks that the Redis ledgers
make before they ask Redis are here too, under the names of the lifetimes they compute.
-/

namespace GcsSaker.Control

inductive CommandError where
  | invalid
  | expired
  | duplicate
  | sequenceRejected
  | unavailable
  deriving DecidableEq

inductive CommandLedgerError where
  | unavailable
  | expired
  | invalid
  deriving DecidableEq

def commandTimeout : ℤ := 5 * Clock.second

def maxCommandBytes : ℕ := 16 * 1024

def maxCommandLifetime : ℤ := 300 * Clock.second

def validateCommand (route : InternalRoute) (command : Option ControlCommandEnvelope) (now : ℤ) :
    Option CommandError :=
  match command with
  | none => some .invalid
  | some command =>
    if command.commandId = "" ∨ command.idempotencyId = "" ∨ command.sequence = 0 then
      some .invalid
    else if command.deviceId ≠ route.deviceID ∨ command.controlSessionId = "" then some .invalid
    else
      let issued := Clock.ofUnixMilli command.issuedUnixMillis
      let expires := Clock.ofUnixMilli command.expiresUnixMillis
      if expires ≤ now ∨ expires - issued ≤ 0 ∨ commandTimeout < expires - issued then
        some .expired
      else none

/-- The lifetime that `RedisCommandLedger.Reserve` gives the reservation, or its refusal. -/
def reservationTTL (commandID : String) (expiresAt now : ℤ) : Except CommandLedgerError ℤ :=
  let ttl := expiresAt - now
  if ttl ≤ 0 then .error .expired
  else if commandID = "" ∨ maxCommandLifetime < ttl then .error .invalid
  else .ok ttl

/-- The lifetime in milliseconds that `RedisSequenceLedger.Accept` gives the counter, or its
refusal. -/
def sequenceTTL (sessionID : String) (sequence : ℕ) (expiresAt now : ℤ) :
    Except CommandError ℤ :=
  if sessionID = "" ∨ sequence = 0 then .error .unavailable
  else
    let ttl := expiresAt - now
    if ttl ≤ 0 ∨ commandTimeout < ttl then .error .expired
    else .ok (Clock.milliseconds ttl)

/-- `acceptSequenceScript`: the next counter value, if `sequence` is the one that follows. -/
def acceptSequenceScript (current : Option ℕ) (sequence : ℕ) : Option ℕ :=
  if sequence = current.getD 0 + 1 then some sequence else none

def reserveCommand (reserved : Except CommandLedgerError Bool) : Option CommandError :=
  match reserved with
  | .error _ => some .unavailable
  | .ok false => some .duplicate
  | .ok true => none

def acceptSequence (accepted : Except CommandError Bool) : Option CommandError :=
  match accepted with
  | .error _ => some .unavailable
  | .ok false => some .sequenceRejected
  | .ok true => none

structure CommandTransport where
  client : Option (String → List UInt8 → Bool)
  idempotency : String → ℤ → Except CommandLedgerError Bool
  sequences : String → ℕ → ℤ → Except CommandError Bool

namespace CommandTransport

variable (t : CommandTransport) (marshal : ControlCommandEnvelope → Option (List UInt8))

def publishWire (topic : String) (command : ControlCommandEnvelope) : Option CommandError :=
  match marshal command, t.client with
  | some wire, some client =>
    if maxCommandBytes < wire.length then some .unavailable
    else if client topic wire then none
    else some .unavailable
  | _, _ => some .unavailable

def publish (route : InternalRoute) (command : Option ControlCommandEnvelope) (now : ℤ) :
    Option CommandError :=
  match validateCommand route command now, command with
  | some err, _ => some err
  | none, none => some .invalid
  | none, some command =>
    let expiresAt := Clock.ofUnixMilli command.expiresUnixMillis
    (reserveCommand (t.idempotency command.idempotencyId expiresAt)).or <|
      (acceptSequence (t.sequences command.controlSessionId command.sequence expiresAt)).or <|
        t.publishWire marshal route.commandTopic command

end CommandTransport

theorem acceptSequenceScript_eq_some_iff {current : Option ℕ} {sequence next : ℕ} :
    acceptSequenceScript current sequence = some next ↔
      next = sequence ∧ sequence = current.getD 0 + 1 := by
  unfold acceptSequenceScript
  split_ifs with h
  · simp only [Option.some.injEq, h, and_true, eq_comm]
  · simp only [h, and_false]

/-- The route of the sample commands and runs. -/
def sampleRoute : InternalRoute :=
  ⟨"device-01", "co-a", "publish-01", "gcs/device/device-01/publish-01/command"⟩

end GcsSaker.Control
