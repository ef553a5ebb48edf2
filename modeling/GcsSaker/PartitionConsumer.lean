import GcsSaker.MqttTopic
import GcsSaker.Runs
import Mathlib.Algebra.Order.Ring.Int

/-!
# The partitioned consumer of telemetry messages

A bounded queue takes the messages as they arrive, one dispatcher moves them into the bounded
channel of their session's partition, and one worker for each partition hands them to the handler.
The steps of the dispatcher, of the workers and of the handler calls, the cancellation and the loss
of the connection come in any order.
-/

namespace GcsSaker.PartitionConsumer

open MqttTopic (Topic telemetryTopic sessionFromTopic)

structure Message where
  topic : String
  retained : Bool
  deriving DecidableEq

/-- An accepted message, with its number in the order of arrival. -/
structure Entry where
  serial : ℕ
  message : Message
  deriving DecidableEq

/-! ## Handlers -/

/-- What a handler call does in one step: something of no interest here, a successful publication,
the acknowledgement of its message, or its return. -/
inductive HandlerEvent where
  | working
  | published (topic : String) (wire : List UInt8)
  | acked
  | returned (error : Option String)
  deriving DecidableEq

/-- A message handler as a machine: each step goes by an input of its surroundings. -/
structure Handler (ι κ : Type) where
  enter : Message → κ
  next : κ → ι → κ × HandlerEvent

structure GatewayResponse where
  accepted : Bool
  reasonCode : String
  deriving DecidableEq

/-- What `deliver` meets on its way: the result of `Handle` (`none` for an error), the encoded
response (`none` for an error), and whether the publication is confirmed in time. -/
structure DeliverInput where
  handled : Option GatewayResponse
  encoded : GatewayResponse → Option (List UInt8)
  confirmed : Bool

/-- Where a call of `deliver` stands. -/
inductive DeliverStage where
  | entered (message : Message)
  | answering (binding : Topic) (retained : Bool)
  | publishing (binding : Topic) (response : GatewayResponse)
  | acknowledging
  | acknowledged
  deriving DecidableEq

def rejectedResponse : GatewayResponse := ⟨false, "mqtt_message_rejected"⟩

def deliver : Handler DeliverInput DeliverStage where
  enter := .entered
  next
    | .entered message, _ => match telemetryTopic message.topic with
      | none => (.acknowledging, .working)
      | some binding => (.answering binding message.retained, .working)
    | .answering binding retained, input =>
      (.publishing binding (if retained then rejectedResponse
        else input.handled.getD rejectedResponse), .working)
    | .publishing binding response, input => match input.encoded response with
      | none => (.publishing binding response, .returned (some "mqtt_result_encode_failed"))
      | some wire => match MqttTopic.new binding.deviceUUID binding.publishSession .result with
        | none => (.publishing binding response, .returned (some "mqtt_result_topic_invalid"))
        | some resultTopic =>
          if input.confirmed then (.acknowledging, .published resultTopic.toString wire)
          else (.publishing binding response, .returned (some "mqtt_result_publish_failed"))
    | .acknowledging, _ => (.acknowledged, .acked)
    | .acknowledged, _ => (.acknowledged, .returned none)

/-! ## The consumer -/

structure Config where
  workerCount : ℤ
  partitionCapacity : ℤ
  queueCapacity : ℕ

namespace Config

variable (c : Config)

def workers : ℕ := if c.workerCount ≤ 0 then 4 else c.workerCount.toNat

def capacity : ℕ := if c.partitionCapacity ≤ 0 then 16 else c.partitionCapacity.toNat

end Config

def partitionHash (sessionID : List UInt8) : UInt32 :=
  sessionID.foldl (fun hash byte => (hash ^^^ byte.toUInt32) * 16777619) 2166136261

/-- `partitionIndex`, which divides by the count as a `uint32`. -/
def partitionIndex (sessionID : List Char) (count : ℕ) : Option ℕ :=
  if UInt32.ofNat count = 0 then none
  else some (partitionHash (String.ofList sessionID).toUTF8.data.toList % UInt32.ofNat count).toNat

inductive Dispatcher where
  | waiting
  | sending (e : Entry) (partition : ℕ)
  | stopped (error : Option String)
  deriving DecidableEq

inductive Worker (κ : Type) where
  | idle
  | handling (e : Entry) (call : κ)
  | exited
  deriving DecidableEq

/-- What has happened: a message is handed to the handler, a step of its call, or the dispatcher
acknowledges a message without a telemetry topic. -/
inductive Event where
  | handed (e : Entry)
  | acted (e : Entry) (event : HandlerEvent)
  | rejected (e : Entry)
  deriving DecidableEq

/-- The log has the latest event first. -/
structure Consumer (κ : Type) where
  arrived : ℕ
  queue : List Entry
  dispatcher : Dispatcher
  channels : ℕ → List Entry
  workers : ℕ → Worker κ
  failures : List String
  cancelled : Bool
  workersCancelled : Bool
  lost : Bool
  log : List Event

inductive Action (ι : Type) where
  | enqueue (message : Message)
  | receive
  | send
  | dropOnCancel
  | stop
  | stopOnLoss
  | stopOnFailure
  | take (partition : ℕ)
  | act (partition : ℕ) (input : ι)
  | exit (partition : ℕ)
  | cancel
  | lose
  deriving DecidableEq

namespace Consumer

variable {ι κ : Type}

def initial : Consumer κ where
  arrived := 0
  queue := []
  dispatcher := .waiting
  channels := fun _ => []
  workers := fun _ => .idle
  failures := []
  cancelled := false
  workersCancelled := false
  lost := false
  log := []

variable (c : Config) (handler : Handler ι κ) (s : Consumer κ)

/-- `enqueueMessage`, when the queue takes the message. -/
def enqueue (message : Message) : Option (Consumer κ) :=
  if s.queue.length < c.queueCapacity then
    some { s with
      arrived := s.arrived + 1
      queue := s.queue ++ [⟨s.arrived, message⟩] }
  else none

/-- The dispatcher takes the next message; one without a telemetry topic is acknowledged. -/
def receive : Option (Consumer κ) :=
  match s.dispatcher, s.queue with
  | .waiting, e :: queue => match sessionFromTopic e.message.topic with
    | none => some { s with queue := queue, log := .rejected e :: s.log }
    | some sessionID => (partitionIndex sessionID c.workers).map fun partition =>
      { s with queue := queue, dispatcher := .sending e partition }
  | _, _ => none

def send : Option (Consumer κ) :=
  match s.dispatcher with
  | .sending e partition =>
    if (s.channels partition).length < c.capacity then
      some { s with
        dispatcher := .waiting
        channels := Function.update s.channels partition (s.channels partition ++ [e]) }
    else none
  | _ => none

/-- `dispatch` gives a message up when the context is done. -/
def dropOnCancel : Option (Consumer κ) :=
  match s.dispatcher with
  | .sending _ _ => if s.cancelled then some { s with dispatcher := .waiting } else none
  | _ => none

/-- The run returns, and with it the workers are told to end. -/
def stopWith (error : Option String) : Consumer κ :=
  { s with dispatcher := .stopped error, workersCancelled := true }

def stop : Option (Consumer κ) :=
  match s.dispatcher with
  | .waiting => if s.cancelled then some (s.stopWith none) else none
  | _ => none

def stopOnLoss : Option (Consumer κ) :=
  match s.dispatcher with
  | .stopped _ => none
  | _ => if s.lost then some { s.stopWith (some "mqtt_connection_lost") with lost := false } else none

def stopOnFailure : Option (Consumer κ) :=
  match s.dispatcher, s.failures with
  | .stopped _, _ => none
  | _, [] => none
  | _, failure :: failures => some { s.stopWith (some failure) with failures := failures }

/-- A worker hands the next message of its channel to the handler. -/
def take (partition : ℕ) : Option (Consumer κ) :=
  match s.workers partition, s.channels partition with
  | .idle, e :: channel =>
    if partition < c.workers then
      some { s with
        channels := Function.update s.channels partition channel
        workers := Function.update s.workers partition (.handling e (handler.enter e.message))
        log := .handed e :: s.log }
    else none
  | _, _ => none

/-- One step of the handler call of a worker, which goes on or, after an error, ends. -/
def act (partition : ℕ) (input : ι) : Option (Consumer κ) :=
  match s.workers partition with
  | .handling e call =>
    let next := handler.next call input
    let s' := { s with log := .acted e next.2 :: s.log }
    match next.2 with
    | .returned none =>
      some { s' with workers := Function.update s.workers partition .idle }
    | .returned (some error) =>
      some { s' with
        workers := Function.update s.workers partition .exited
        failures := if s.failures.length < c.workers then s.failures ++ [error] else s.failures }
    | _ => some { s' with workers := Function.update s.workers partition (.handling e next.1) }
  | _ => none

def exit (partition : ℕ) : Option (Consumer κ) :=
  match s.workers partition with
  | .idle =>
    if s.workersCancelled then
      some { s with workers := Function.update s.workers partition .exited }
    else none
  | _ => none

def step : Action ι → Option (Consumer κ)
  | .enqueue message => s.enqueue c message
  | .receive => s.receive c
  | .send => s.send c
  | .dropOnCancel => s.dropOnCancel
  | .stop => s.stop
  | .stopOnLoss => s.stopOnLoss
  | .stopOnFailure => s.stopOnFailure
  | .take partition => s.take c handler partition
  | .act partition input => s.act c handler partition input
  | .exit partition => s.exit partition
  | .cancel => some { s with cancelled := true, workersCancelled := true }
  | .lose => some { s with lost := true }

end Consumer

end GcsSaker.PartitionConsumer
