import Mathlib.Data.List.Basic

/-!
# MQTT topics

A topic names a device, a publish session and a channel.
-/

namespace GcsSaker.MqttTopic

inductive Channel where
  | telemetry
  | result
  | command
  | commandAck
  deriving DecidableEq

def Channel.text : Channel → String
  | .telemetry => "telemetry"
  | .result => "result"
  | .command => "command"
  | .commandAck => "command_ack"

/-- `validChannel`: the channel of this name, if there is one. -/
def validChannel (name : List Char) : Option Channel :=
  [Channel.telemetry, .result, .command, .commandAck].find? fun channel =>
    decide (channel.text.toList = name)

def isNameChar (c : Char) : Bool := c.isAlphanum || c = '_' || c = '-'

/-- `^[A-Za-z0-9][A-Za-z0-9_-]{0,127}$` -/
def devicePattern : List Char → Bool
  | [] => false
  | c :: rest => c.isAlphanum && decide (rest.length ≤ 127) && rest.all isNameChar

/-- `^ps_[A-Za-z0-9_-]{1,96}$` -/
def sessionPattern : List Char → Bool
  | 'p' :: 's' :: '_' :: rest =>
    decide (1 ≤ rest.length) && decide (rest.length ≤ 96) && rest.all isNameChar
  | _ => false

structure Topic where
  deviceUUID : List Char
  publishSession : List Char
  channel : Channel
  deriving DecidableEq

def new (deviceUUID publishSession : List Char) (channel : Channel) : Option Topic :=
  if devicePattern deviceUUID && sessionPattern publishSession then
    some ⟨deviceUUID, publishSession, channel⟩
  else none

def parse (raw : String) : Option Topic :=
  match raw.toList.splitOn '/' with
  | [gcs, device, deviceUUID, publishSession, channel] =>
    if gcs = "gcs".toList ∧ device = "device".toList then
      (validChannel channel).bind (new deviceUUID publishSession)
    else none
  | _ => none

def Topic.toString (t : Topic) : String :=
  String.ofList (['/'].intercalate
    ["gcs".toList, "device".toList, t.deviceUUID, t.publishSession, t.channel.text.toList])

/-- A topic on which devices send telemetry. -/
def telemetryTopic (raw : String) : Option Topic :=
  (parse raw).filter fun topic => decide (topic.channel = .telemetry)

def sessionFromTopic (topic : String) : Option (List Char) :=
  (telemetryTopic topic).map fun binding => binding.publishSession

example : sessionFromTopic "gcs/device/device-01/ps_a/telemetry" = some "ps_a".toList := by
  decide +kernel

end GcsSaker.MqttTopic
