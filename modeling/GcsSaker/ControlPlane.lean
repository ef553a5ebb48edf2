import GcsSaker.CommandTransport
import GcsSaker.ExpiringStore
import GcsSaker.GoMap
import GcsSaker.Runs

/-!
# The control plane

Any number of `ControlApplication` instances share one Redis and one MQTT broker. Calls of
`CreateSession` and `SubmitCommand` are taken apart where the code can be interrupted: at every
reading of the clock, every call to a collaborator, every Redis round trip and every critical
section. `step` takes one such piece of one call, or lets time pass. Redis runs a command at the
instant of its step and keeps an entry until the lifetime given with it is over; its keys are
prefixed by what they are for, so each prefix has a store of its own.
-/

namespace GcsSaker.Control

def leaseKey (digest : String → String) (deviceID : String) : String :=
  "gcs-saker:control-lease:v1:" ++ digest deviceID

def sequenceKey (digest : String → String) (sessionID : String) : String :=
  "gcs-saker:control-sequence:v1:" ++ digest sessionID

def commandLedgerKey (digest : String → String) (commandID : String) : String :=
  "gcs:mission-command:v1:" ++ digest commandID

def opaqueSegment (segment : String) : Bool :=
  decide (8 ≤ segment.length) && decide (segment.length ≤ 128) &&
    segment.toList.all fun c => c.isAlphanum || c == '_' || c == '-'

inductive LeaseError where
  | unavailable
  | invalid
  deriving DecidableEq

/-- The lifetime that `RedisLeaseStore.Acquire` gives the lease, or its refusal. -/
def leaseTTL (deviceID controlSessionID : String) (expiresAt now : ℤ) : Except LeaseError ℤ :=
  let ttl := expiresAt - now
  if opaqueSegment deviceID = false ∨ opaqueSegment controlSessionID = false ∨ ttl ≤ 0 ∨
      30 * Clock.second < ttl then .error .invalid
  else .ok ttl

/-- The lifetime that `SetNX` passes on to Redis: whole milliseconds, and at least one. -/
def setNXLifetime (ttl : ℤ) : ℤ :=
  max Clock.millisecond (ttl / Clock.millisecond * Clock.millisecond)

/-- A Redis round trip may be lost before the command runs or after it. -/
inductive Reply where
  | delivered
  | lostBefore
  | lostAfter
  deriving DecidableEq

inductive CreateStage where
  | resolving
  | authorized (route : InternalRoute)
  | acquired (route : InternalRoute)
  deriving DecidableEq

/-- A call of `CreateSession` in progress on the instance `app`. -/
structure CreateCall (ι : Type*) where
  app : ι
  request : SessionRequest
  startedAt : ℤ
  sessionID : String
  stage : CreateStage
  deriving DecidableEq

def CreateCall.expiresAt {ι : Type*} (c : CreateCall ι) : ℤ := c.startedAt + controlLeaseDuration

/-- How far a call of `SubmitCommand` that took a sequence number has come. -/
inductive SubmitStage where
  | counted
  | live
  | authorized
  | built (command : ControlCommandEnvelope)
  | validated (command : ControlCommandEnvelope)
  | reserving (command : ControlCommandEnvelope) (ttl : ℤ)
  | reserved (command : ControlCommandEnvelope)
  | accepting (command : ControlCommandEnvelope) (milliseconds : ℤ)
  | accepted (command : ControlCommandEnvelope)
  deriving DecidableEq

def SubmitStage.command? : SubmitStage → Option ControlCommandEnvelope
  | .counted => none
  | .live => none
  | .authorized => none
  | .built command => some command
  | .validated command => some command
  | .reserving command _ => some command
  | .reserved command => some command
  | .accepting command _ => some command
  | .accepted command => some command

/-- The sequence ledger has accepted the number of the call. -/
def SubmitStage.isAccepted : SubmitStage → Bool
  | .accepted _ => true
  | _ => false

/-- A call of `SubmitCommand` in progress, with the session state it read. -/
structure SubmitCall (ι : Type*) where
  app : ι
  sessionID : String
  state : ControlSessionState
  request : CommandRequest
  stage : SubmitStage
  deriving DecidableEq

/-- What a call learns between two pieces: the time only, the answer of the policy client (an
error counts as a refusal), or what `newID` gave. -/
inductive Answer where
  | time
  | policy (allowed : Bool)
  | newID (id : Option String)
  deriving DecidableEq

/-- The pieces of `SubmitCommand` that touch nothing shared. The outer `none` means that the call
is not waiting for such an answer, the inner one that it returns with an error. -/
def SubmitCall.next {ι : Type*} (c : SubmitCall ι) (now : ℤ) (answer : Answer) :
    Option (Option SubmitStage) :=
  match c.stage, answer with
  | .counted, .time => some (if now < c.state.expiresAt then some .live else none)
  | .live, .policy allowed => some (if allowed then some .authorized else none)
  | .authorized, .newID none => some none
  | .authorized, .newID (some commandID) => some <|
      match buildControlCommand ⟨commandID, c.sessionID, c.state.deviceID, c.request, now⟩ with
      | .error _ => none
      | .ok command => some (.built command)
  | .built command, .time => some <|
      match validateCommand c.state.route (some command) now with
      | some _ => none
      | none => some (.validated command)
  | .validated command, .time => some <|
      match reservationTTL command.idempotencyId
          (Clock.ofUnixMilli command.expiresUnixMillis) now with
      | .error _ => none
      | .ok ttl => some (.reserving command ttl)
  | .reserved command, .time => some <|
      match sequenceTTL command.controlSessionId command.sequence
          (Clock.ofUnixMilli command.expiresUnixMillis) now with
      | .error _ => none
      | .ok milliseconds => some (.accepting command milliseconds)
  | _, _ => none

inductive PlaneEvent (ι : Type*) where
  | acquired (app : ι) (sessionID deviceID : String) (expiresAt : ℤ)
  | accepted (sessionID : String) (sequence : ℕ)
  | refused (sessionID : String) (sequence : ℕ)
  | published (app : ι) (command : ControlCommandEnvelope) (now : ℤ)
  deriving DecidableEq

/-- The whole system: the session maps of the instances, the calls in progress, the three kinds of
Redis keys, the session ids that `newID` has given, and a log of what happened, latest first. -/
structure Plane (ι : Type*) where
  clock : ℤ
  sessions : ι → AList fun _ : String => ControlSessionState
  creating : AList fun _ : ℕ => CreateCall ι
  submitting : AList fun _ : ℕ => SubmitCall ι
  leases : ExpiringStore ℤ String String
  sequences : ExpiringStore ℤ String ℕ
  reservations : ExpiringStore ℤ String Unit
  issued : List String
  log : List (PlaneEvent ι)

inductive Action (ι : Type*) where
  | tick (now : ℤ)
  | create (app : ι) (call : ℕ) (request : SessionRequest) (newID : Option String)
  | authorizeCreate (call : ℕ) (route : Option InternalRoute) (allowed : Bool)
  | acquire (call : ℕ) (reply : Reply)
  | storeSession (call : ℕ)
  | submit (app : ι) (call : ℕ) (sessionID : String) (request : CommandRequest)
  | proceed (call : ℕ) (answer : Answer)
  | reserve (call : ℕ) (reply : Reply)
  | acceptSequence (call : ℕ) (reply : Reply)
  | handOver (call : ℕ) (wire : Option (List UInt8)) (connected : Bool)
  deriving DecidableEq

/-- One run of `acceptSequenceScript`: the store it leaves and its reply, `none` for the error
that Redis raises on a lifetime of no milliseconds. -/
def runSequenceScript (store : ExpiringStore ℤ String ℕ) (now : ℤ) (key : String) (sequence : ℕ)
    (milliseconds : ℤ) : ExpiringStore ℤ String ℕ × Option Bool :=
  match acceptSequenceScript ((store.live now key).map (·.value)) sequence with
  | none => (store, some false)
  | some next =>
    if milliseconds ≤ 0 then (store, none)
    else (store.set key next (now + milliseconds * Clock.millisecond), some true)

def pruneExpiredLocked (now : ℤ) (sessions : AList fun _ : String => ControlSessionState) :
    AList fun _ : String => ControlSessionState :=
  GoMap.sweep (fun _ state => decide (state.expiresAt ≤ now)) sessions

namespace Plane

variable {ι : Type*}

def initial (clock : ℤ) : Plane ι :=
  ⟨clock, fun _ => ∅, ∅, ∅, ExpiringStore.empty, ExpiringStore.empty, ExpiringStore.empty, [], []⟩

variable (s : Plane ι)

def endCreate (call : ℕ) : Plane ι := { s with creating := s.creating.erase call }

def endSubmit (call : ℕ) : Plane ι := { s with submitting := s.submitting.erase call }

def moveCreate (call : ℕ) (c : CreateCall ι) (stage : CreateStage) : Plane ι :=
  { s with creating := s.creating.insert call { c with stage := stage } }

def moveSubmit (call : ℕ) (c : SubmitCall ι) (stage : SubmitStage) : Plane ι :=
  { s with submitting := s.submitting.insert call { c with stage := stage } }

/-- `Acquire`, once its checks have given the lifetime `ttl`. -/
def acquireLease (digest : String → String) (call : ℕ) (c : CreateCall ι) (route : InternalRoute)
    (ttl : ℤ) (reply : Reply) : Plane ι :=
  let done := s.leases.setNX s.clock (leaseKey digest c.request.deviceID) c.sessionID
    (s.clock + setNXLifetime ttl)
  if done.2 then
    let s' : Plane ι := { s with
      leases := done.1
      log := .acquired c.app c.sessionID c.request.deviceID c.expiresAt :: s.log }
    if reply = .delivered then s'.moveCreate call c (.acquired route) else s'.endCreate call
  else s.endCreate call

/-- The last critical section of `CreateSession`. -/
def putSession [DecidableEq ι] (c : CreateCall ι) (route : InternalRoute) : Plane ι :=
  let sessions := pruneExpiredLocked c.startedAt (s.sessions c.app)
  let stored := if maxControlSessions ≤ sessions.entries.length then sessions
    else sessions.insert c.sessionID (newSessionState c.request route c.startedAt)
  { s with sessions := Function.update s.sessions c.app stored }

/-- The critical section of `SubmitCommand`, for a request that carries the expected number. -/
def countCommand [DecidableEq ι] (app : ι) (call : ℕ) (sessionID : String)
    (state : ControlSessionState) (request : CommandRequest) : Plane ι :=
  let state' := { state with nextSequence := state.nextSequence + 1 }
  { s with
    sessions := Function.update s.sessions app ((s.sessions app).insert sessionID state')
    submitting := s.submitting.insert call ⟨app, sessionID, state', request, .counted⟩ }

/-- `Reserve`, once its checks have given the lifetime `ttl`. -/
def reserveID (digest : String → String) (call : ℕ) (c : SubmitCall ι)
    (command : ControlCommandEnvelope) (ttl : ℤ) (reply : Reply) : Plane ι :=
  let done := s.reservations.setNX s.clock (commandLedgerKey digest command.idempotencyId) ()
    (s.clock + setNXLifetime ttl)
  let s' : Plane ι := { s with reservations := done.1 }
  if done.2 = true ∧ reply = .delivered then s'.moveSubmit call c (.reserved command)
  else s'.endSubmit call

/-- `Accept`, once its checks have given the lifetime. -/
def acceptNumber (digest : String → String) (call : ℕ) (c : SubmitCall ι)
    (command : ControlCommandEnvelope) (milliseconds : ℤ) (reply : Reply) : Plane ι :=
  match runSequenceScript s.sequences s.clock (sequenceKey digest command.controlSessionId)
      command.sequence milliseconds with
  | (_, none) => s.endSubmit call
  | (_, some false) =>
    if reply = .delivered then
      ({ s with log := .refused command.controlSessionId command.sequence :: s.log }).endSubmit call
    else s.endSubmit call
  | (sequences, some true) =>
    let s' : Plane ι := { s with
      sequences := sequences
      log := .accepted command.controlSessionId command.sequence :: s.log }
    if reply = .delivered then s'.moveSubmit call c (.accepted command) else s'.endSubmit call

variable [DecidableEq ι]

/-- One piece of one call, or a tick of the clock. An action that no call is waiting for is not
enabled. -/
def step (digest : String → String) (s : Plane ι) : Action ι → Option (Plane ι)
  | .tick now => if s.clock ≤ now then some { s with clock := now } else none
  | .create app call request newID =>
    match s.creating.lookup call, newID with
    | some _, _ => none
    | none, none => some s
    | none, some sessionID => some { s with
        creating := s.creating.insert call ⟨app, request, s.clock, sessionID, .resolving⟩
        issued := sessionID :: s.issued }
  | .authorizeCreate call route allowed =>
    match s.creating.lookup call with
    | some c => match c.stage, route, allowed with
      | .resolving, some route, true => some (s.moveCreate call c (.authorized route))
      | .resolving, _, _ => some (s.endCreate call)
      | _, _, _ => none
    | none => none
  | .acquire call reply =>
    match s.creating.lookup call with
    | some c => match c.stage with
      | .authorized route =>
        match leaseTTL c.request.deviceID c.sessionID c.expiresAt c.startedAt with
        | .error _ => some (s.endCreate call)
        | .ok ttl =>
          if reply = .lostBefore then some (s.endCreate call)
          else some (s.acquireLease digest call c route ttl reply)
      | _ => none
    | none => none
  | .storeSession call =>
    match s.creating.lookup call with
    | some c => match c.stage with
      | .acquired route => some ((s.putSession c route).endCreate call)
      | _ => none
    | none => none
  | .submit app call sessionID request =>
    match s.submitting.lookup call, (s.sessions app).lookup sessionID with
    | some _, _ => none
    | none, none => some s
    | none, some state =>
      if request.sequence = state.nextSequence then
        some (s.countCommand app call sessionID state request)
      else some s
  | .proceed call answer =>
    match s.submitting.lookup call with
    | some c => (c.next s.clock answer).map fun
      | some stage => s.moveSubmit call c stage
      | none => s.endSubmit call
    | none => none
  | .reserve call reply =>
    match s.submitting.lookup call with
    | some c => match c.stage with
      | .reserving command ttl =>
        if reply = .lostBefore then some (s.endSubmit call)
        else some (s.reserveID digest call c command ttl reply)
      | _ => none
    | none => none
  | .acceptSequence call reply =>
    match s.submitting.lookup call with
    | some c => match c.stage with
      | .accepting command milliseconds =>
        if reply = .lostBefore then some (s.endSubmit call)
        else some (s.acceptNumber digest call c command milliseconds reply)
      | _ => none
    | none => none
  | .handOver call wire connected =>
    match s.submitting.lookup call with
    | some c => match c.stage with
      | .accepted command =>
        if connected = true ∧ (wire.any fun bytes => decide (bytes.length ≤ maxCommandBytes)) then
          some (({ s with log := .published c.app command s.clock :: s.log }).endSubmit call)
        else some (s.endSubmit call)
      | _ => none
    | none => none

end Plane

/-- The actions of a `CreateSession` call for `device-01` that is allowed and takes no time. -/
def sampleSession (app : Bool) (call : ℕ) (sessionID : String) : List (Action Bool) :=
  [.create app call ⟨"device-01", "publish-01"⟩ (some sessionID),
    .authorizeCreate call (some sampleRoute) true, .acquire call .delivered, .storeSession call]

/-- The actions of a `SubmitCommand` call that go before the policy call. -/
def sampleSubmit (app : Bool) (call : ℕ) (sessionID command : String) (sequence : ℕ) :
    List (Action Bool) :=
  [.submit app call sessionID ⟨command, sequence, "idempotency-" ++ toString sequence, 0, 0⟩,
    .proceed call .time]

/-- The actions from the policy call to the sequence ledger, when nothing goes wrong. -/
def sampleAccept (call : ℕ) : List (Action Bool) :=
  [.proceed call (.policy true), .proceed call (.newID (some "cmd_01")), .proceed call .time,
    .proceed call .time, .reserve call .delivered, .proceed call .time,
    .acceptSequence call .delivered]

def sampleHandOver (call : ℕ) : Action Bool := .handOver call (some [0]) true

end GcsSaker.Control
