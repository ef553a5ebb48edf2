import GcsSaker.AuthModels
import GcsSaker.Runs

/-!
# Fan-out of telemetry

`TelemetryWebSocketHub` and its subscribers. Servlet threads, publishers and one sender for each
subscriber take turns; a thread is the list of what it has still to do. `close` of a subscriber
holds its monitor for several steps, and the sender, which takes from the queue without it, may
take its turn between any two of them. The numbers that the metrics were told are counted here.
-/

namespace GcsSaker.TelemetryFanOut

open Groups (AuthenticatedPrincipal GroupId)

structure TelemetryWebSocketHub where
  queueCapacity : ℕ := 64
  maxConnections : ℕ := 256
  maxConnectionsPerPrincipal : ℕ := 4
  capacityPositive : 0 < queueCapacity := by decide
  connectionsPositive : 0 < maxConnections := by decide
  perPrincipalPositive : 0 < maxConnectionsPerPrincipal := by decide

/-! ## Subscribers -/

/-- How far `close` has come; the monitor is held from `entered` to `discarded`. -/
inductive CloseStage where
  | isOpen
  | entered
  | cancelled
  | discarded
  | cleared
  deriving DecidableEq

/-- Where the sender is. After a failure it waits for a thread of its own, which removes the
subscriber, and goes on or ends. -/
inductive SenderStage where
  | notStarted
  | looping
  | taking
  | holding (message : String)
  | sending (message : String)
  | failing (thread : ℕ) (goesOn : Bool)
  | done
  deriving DecidableEq

structure TelemetrySubscriber where
  sessionId : String
  principal : AuthenticatedPrincipal
  queue : List String
  closing : CloseStage
  sender : SenderStage
  interrupted : Bool
  queued : ℕ
  dequeued : ℕ
  discarded : ℕ

def newSubscriber (sessionId : String) (principal : AuthenticatedPrincipal) :
    TelemetrySubscriber :=
  ⟨sessionId, principal, [], .isOpen, .notStarted, false, 0, 0, 0⟩

/-- `task.cancel(true)` interrupts a sender that was started. -/
def TelemetrySubscriber.interrupt (subscriber : TelemetrySubscriber) : TelemetrySubscriber :=
  { subscriber with interrupted := subscriber.interrupted || subscriber.sender ≠ .notStarted }

/-! ## The hub -/

/-- An entry of the map of subscribers. -/
structure Registration where
  sessionId : String
  number : ℕ
  username : String
  deriving DecidableEq

/-- What a thread does in one step. `visit` is a round of `publish`, `close` enters the monitor,
and the three after it are the rest of it. -/
inductive Operation where
  | remove (sessionId : String)
  | close (number : ℕ)
  | cancel (number : ℕ)
  | discard (number : ℕ)
  | clear (number : ℕ)
  | disconnected
  | connected
  | start (number : ℕ)
  | visit (number : ℕ) (groupId : GroupId) (isAncestor : GroupId → GroupId → Bool)
      (message : String)
  | shutdownNow

structure Metrics where
  connected : ℕ
  disconnected : ℕ
  rejected : ℕ
  backpressured : ℕ
  sent : ℕ
  failed : ℕ
  deriving DecidableEq

/-- The subscribers by their numbers, those that are registered, and the threads. -/
structure Hub where
  subscribers : List TelemetrySubscriber
  registered : List Registration
  threads : List (List Operation)
  isShutdown : Bool
  metrics : Metrics

inductive SendOutcome where
  | sent
  | notOpen
  | failed
  | interrupted
  deriving DecidableEq

/-- A publisher visits the subscribers in the order in which the map shows them. -/
inductive Action where
  | connect (sessionId : String) (principal : AuthenticatedPrincipal)
  | sessionEnds (sessionId : String)
  | publish (groupId : GroupId) (isAncestor : GroupId → GroupId → Bool) (message : String)
      (numbers : List ℕ)
  | closeHub
  | proceed (thread : ℕ)
  | check (number : ℕ)
  | take (number : ℕ)
  | countDequeued (number : ℕ)
  | send (number : ℕ) (outcome : SendOutcome)
  | resume (number : ℕ)

/-- The role and the group let the principal see telemetry of a group. -/
def canView (principal : AuthenticatedPrincipal) (groupId : GroupId)
    (isAncestor : GroupId → GroupId → Bool) : Bool :=
  principal.groupId = groupId ||
    (principal.role = .groupAdmin && isAncestor principal.groupId groupId)

namespace Hub

def initial : Hub := ⟨[], [], [], false, ⟨0, 0, 0, 0, 0, 0⟩⟩

variable (config : TelemetryWebSocketHub) (hub : Hub)

def set (number : ℕ) (subscriber : TelemetrySubscriber) : Hub :=
  { hub with subscribers := hub.subscribers.set number subscriber }

def spawn (operations : List Operation) : Hub :=
  { hub with threads := hub.threads ++ [operations] }

def find (sessionId : String) : Option Registration :=
  hub.registered.find? (·.sessionId = sessionId)

def connections (username : String) : ℕ := hub.registered.countP (·.username = username)

/-- The admission, with the subscriber that is replaced; none if a limit is reached. -/
def admitSubscriber (sessionId : String) (principal : AuthenticatedPrincipal) :
    Option (Hub × Option Registration) :=
  let previous := hub.find sessionId
  let atLimit := previous.isNone && (config.maxConnections ≤ hub.registered.length ||
    config.maxConnectionsPerPrincipal ≤ hub.connections principal.username)
  if atLimit then none
  else some ({ hub with
    subscribers := hub.subscribers ++ [newSubscriber sessionId principal]
    registered := hub.registered.filter (·.sessionId ≠ sessionId) ++
      [⟨sessionId, hub.subscribers.length, principal.username⟩] }, previous)

/-- `afterConnectionEstablished` of an authenticated session. -/
def connect (sessionId : String) (principal : AuthenticatedPrincipal) : Hub :=
  if principal.role = .admin then hub
  else
    match hub.admitSubscriber config sessionId principal with
    | none => { hub with metrics := { hub.metrics with rejected := hub.metrics.rejected + 1 } }
    | some (admitted, previous) =>
      admitted.spawn ((match previous with
        | none => []
        | some previous => [.close previous.number, .disconnected]) ++
          [.connected, .start hub.subscribers.length])

/-- `offer`, unless the monitor is held: the hub, and whether the queue took the message. -/
def offer (number : ℕ) (subscriber : TelemetrySubscriber) (message : String) :
    Option (Hub × Bool) :=
  match subscriber.closing with
  | .isOpen =>
    if subscriber.queue.length < config.queueCapacity then
      some (hub.set number { subscriber with
        queue := subscriber.queue ++ [message]
        queued := subscriber.queued + 1 }, true)
    else
      some ({ hub with
        metrics := { hub.metrics with backpressured := hub.metrics.backpressured + 1 } }, false)
  | .cleared => some (hub, false)
  | _ => none

/-- One operation of a thread, and what it has to do next because of it; none while it has to wait
for a monitor. -/
def perform : Operation → Option (Hub × List Operation)
  | .remove sessionId =>
    match hub.find sessionId with
    | none => some (hub, [])
    | some removed =>
      some ({ hub with registered := hub.registered.filter (·.sessionId ≠ sessionId) },
        [.close removed.number, .disconnected])
  | .close number =>
    hub.subscribers[number]?.bind fun subscriber =>
      match subscriber.closing with
      | .isOpen => some (hub.set number { subscriber with closing := .entered }, [.cancel number])
      | .cleared => some (hub, [])
      | _ => none
  | .cancel number =>
    hub.subscribers[number]?.bind fun subscriber =>
      if subscriber.closing = .entered then
        some (hub.set number { subscriber.interrupt with closing := .cancelled },
          [.discard number])
      else none
  | .discard number =>
    hub.subscribers[number]?.bind fun subscriber =>
      if subscriber.closing = .cancelled then
        some (hub.set number { subscriber with
          closing := .discarded
          discarded := subscriber.discarded + subscriber.queue.length }, [.clear number])
      else none
  | .clear number =>
    hub.subscribers[number]?.bind fun subscriber =>
      if subscriber.closing = .discarded then
        some (hub.set number { subscriber with closing := .cleared, queue := [] }, [])
      else none
  | .disconnected =>
    some ({ hub with
      metrics := { hub.metrics with disconnected := hub.metrics.disconnected + 1 } }, [])
  | .connected =>
    some ({ hub with metrics := { hub.metrics with connected := hub.metrics.connected + 1 } }, [])
  | .start number =>
    hub.subscribers[number]?.bind fun subscriber =>
      match subscriber.closing with
      | .isOpen =>
        -- a pool that was shut down rejects the task
        some (if hub.isShutdown then hub else hub.set number { subscriber with sender := .looping },
          [])
      | .cleared => some (hub, [])
      | _ => none
  | .visit number groupId isAncestor message =>
    hub.subscribers[number]?.bind fun subscriber =>
      if canView subscriber.principal groupId isAncestor then
        (hub.offer config number subscriber message).map fun (hub, taken) =>
          (hub, if taken then [] else [.remove subscriber.sessionId])
      else some (hub, [])
  | .shutdownNow =>
    some ({ hub with
      subscribers := hub.subscribers.map (·.interrupt)
      isShutdown := true }, [])

def proceed (thread : ℕ) : Option Hub :=
  match hub.threads[thread]? with
  | some (operation :: operations) =>
    (hub.perform config operation).map fun (hub, next) =>
      { hub with threads := hub.threads.set thread (next ++ operations) }
  | _ => none

/-! ## Senders -/

def check (subscriber : TelemetrySubscriber) : Option TelemetrySubscriber :=
  match subscriber.sender with
  | .looping =>
    some { subscriber with sender := if subscriber.closing = .isOpen then .taking else .done }
  | _ => none

/-- `queue.take()`, which an interrupt ends. -/
def take (subscriber : TelemetrySubscriber) : Option TelemetrySubscriber :=
  match subscriber.sender with
  | .taking =>
    if subscriber.interrupted then some { subscriber with sender := .done }
    else
      match subscriber.queue with
      | [] => none
      | message :: queue => some { subscriber with queue, sender := .holding message }
  | _ => none

def countDequeued (subscriber : TelemetrySubscriber) : Option TelemetrySubscriber :=
  match subscriber.sender with
  | .holding message =>
    some { subscriber with dequeued := subscriber.dequeued + 1, sender := .sending message }
  | _ => none

/-- What becomes of the message, and of the sender. -/
def send (number : ℕ) (subscriber : TelemetrySubscriber) (outcome : SendOutcome) : Option Hub :=
  match subscriber.sender, outcome with
  | .sending _, .sent =>
    some { hub.set number { subscriber with sender := .looping } with
      metrics := { hub.metrics with sent := hub.metrics.sent + 1 } }
  | .sending _, .notOpen =>
    some ((hub.set number { subscriber with sender := .failing hub.threads.length true }).spawn
      [.remove subscriber.sessionId])
  | .sending _, .failed =>
    some { (hub.set number { subscriber with sender := .failing hub.threads.length false }).spawn
        [.remove subscriber.sessionId] with
      metrics := { hub.metrics with failed := hub.metrics.failed + 1 } }
  | .sending _, .interrupted => some (hub.set number { subscriber with sender := .done })
  | _, _ => none

/-- The thread that removed the subscriber has come to its end. -/
def resume (subscriber : TelemetrySubscriber) : Option TelemetrySubscriber :=
  match subscriber.sender with
  | .failing thread goesOn =>
    if hub.threads[thread]?.any List.isEmpty then
      some { subscriber with sender := if goesOn then .looping else .done }
    else none
  | _ => none

/-- A step of one sender. -/
def senderStep (number : ℕ) (act : TelemetrySubscriber → Option TelemetrySubscriber) :
    Option Hub :=
  (hub.subscribers[number]?.bind act).map fun subscriber => hub.set number subscriber

def step (config : TelemetryWebSocketHub) (hub : Hub) : Action → Option Hub
  | .connect sessionId principal => some (hub.connect config sessionId principal)
  | .sessionEnds sessionId => some (hub.spawn [.remove sessionId])
  | .publish groupId isAncestor message numbers =>
    some (hub.spawn (numbers.map fun number => .visit number groupId isAncestor message))
  | .closeHub =>
    some (hub.spawn ((hub.registered.map fun entry => .remove entry.sessionId) ++ [.shutdownNow]))
  | .proceed thread => hub.proceed config thread
  | .check number => hub.senderStep number check
  | .take number => hub.senderStep number take
  | .countDequeued number => hub.senderStep number countDequeued
  | .send number outcome =>
    hub.subscribers[number]?.bind fun subscriber => hub.send number subscriber outcome
  | .resume number => hub.senderStep number hub.resume

end Hub

end GcsSaker.TelemetryFanOut
