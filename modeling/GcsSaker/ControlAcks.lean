import GcsSaker.CheckedSteps
import GcsSaker.ControlPlane
import GcsSaker.MqttTopic
import GcsSaker.PublishSession

/-!
# Acknowledgements of control commands

A command goes out on the topic of a route, which `RouteResolver` takes from the publish session.
An acknowledgement comes in on a topic of the same device and session: its topic is compared with
the route and its payload with the topic and the control session.
-/

namespace GcsSaker.ControlAcks
open MqttTopic Control SessionStore

/-! ## Topics as texts -/

theorem isNameChar_of_isAlphanum {c : Char} (h : c.isAlphanum = true) : isNameChar c = true := by
  rw [isNameChar, h]
  rfl

theorem devicePattern_names {deviceUUID : List Char} (h : devicePattern deviceUUID = true) :
    ∀ c ∈ deviceUUID, isNameChar c = true := by
  cases deviceUUID with
  | nil => cases h
  | cons c rest =>
      rw [devicePattern, Bool.and_eq_true, Bool.and_eq_true, List.all_eq_true] at h
      obtain ⟨⟨hfirst, -⟩, hrest⟩ := h
      exact List.forall_mem_cons.2 ⟨isNameChar_of_isAlphanum hfirst, hrest⟩

theorem sessionPattern_names {publishSession : List Char}
    (h : sessionPattern publishSession = true) : ∀ c ∈ publishSession, isNameChar c = true := by
  unfold sessionPattern at h
  split at h
  next rest =>
    rw [Bool.and_eq_true, List.all_eq_true] at h
    have hstart : isNameChar 'p' = true ∧ isNameChar 's' = true ∧ isNameChar '_' = true := by
      decide
    simp only [List.forall_mem_cons]
    exact ⟨hstart.1, hstart.2.1, hstart.2.2, h.2⟩
  next => cases h

theorem slash_notMem_of_names {name : List Char} (h : ∀ c ∈ name, isNameChar c = true) :
    '/' ∉ name := by
  intro hmem
  have hslash := h '/' hmem
  revert hslash
  decide

theorem slash_notMem_text (channel : Channel) : '/' ∉ channel.text.toList := by
  cases channel with
  | telemetry => decide
  | result => decide
  | command => decide
  | commandAck => decide

theorem validChannel_text (channel : Channel) :
    validChannel channel.text.toList = some channel := by
  cases channel with
  | telemetry => decide
  | result => decide
  | command => decide
  | commandAck => decide

theorem text_of_validChannel {name : List Char} {channel : Channel}
    (h : validChannel name = some channel) : channel.text.toList = name := by
  rw [validChannel] at h
  have hname := List.find?_some h
  exact of_decide_eq_true hname

theorem new_eq_some_iff {deviceUUID publishSession : List Char} {channel : Channel}
    {topic : Topic} : new deviceUUID publishSession channel = some topic ↔
      (devicePattern deviceUUID = true ∧ sessionPattern publishSession = true) ∧
        ⟨deviceUUID, publishSession, channel⟩ = topic := by
  rw [new, Option.ite_none_right_eq_some, Bool.and_eq_true, Option.some.injEq]

/-- A topic that `New` builds is read back from its text. -/
theorem parse_toString_of_new {deviceUUID publishSession : List Char} {channel : Channel}
    {topic : Topic} (h : new deviceUUID publishSession channel = some topic) :
    parse topic.toString = some topic := by
  obtain ⟨⟨hdevice, hsession⟩, rfl⟩ := new_eq_some_iff.1 h
  have hsplit : (['/'].intercalate ["gcs".toList, "device".toList, deviceUUID, publishSession,
      channel.text.toList]).splitOn '/' =
        ["gcs".toList, "device".toList, deviceUUID, publishSession, channel.text.toList] := by
    apply List.splitOn_intercalate '/' ?_ (List.cons_ne_nil _ _)
    simp only [List.forall_mem_cons]
    exact ⟨by decide, by decide, slash_notMem_of_names (devicePattern_names hdevice),
      slash_notMem_of_names (sessionPattern_names hsession), slash_notMem_text channel,
      fun _ h => (List.not_mem_nil h).elim⟩
  rw [parse, Topic.toString, String.toList_ofList, hsplit]
  change (if "gcs".toList = "gcs".toList ∧ "device".toList = "device".toList then _ else _) = _
  rw [if_pos ⟨rfl, rfl⟩, validChannel_text, Option.bind_some, h]

/-- A text that `Parse` accepts is the text of its topic, which `New` builds. -/
theorem new_of_parse {raw : String} {topic : Topic} (h : parse raw = some topic) :
    topic.toString = raw ∧
      new topic.deviceUUID topic.publishSession topic.channel = some topic := by
  unfold parse at h
  split at h
  next gcs device deviceUUID publishSession name hparts =>
    rw [Option.ite_none_right_eq_some, Option.bind_eq_some_iff] at h
    obtain ⟨⟨rfl, rfl⟩, channel, hchannel, hnew⟩ := h
    have hname := text_of_validChannel hchannel
    obtain ⟨-, rfl⟩ := new_eq_some_iff.1 hnew
    refine ⟨?_, hnew⟩
    rw [Topic.toString, hname, ← hparts, List.intercalate_splitOn, String.ofList_toList]
  next => cases h

/-! ## Routes -/

structure RouteRequest where
  deviceID : String
  publishSession : String
  now : ℤ
  deriving DecidableEq

inductive RouteError where
  | routeUnavailable
  | sessionStale
  | deviceMismatch
  deriving DecidableEq

def RouteError.text : RouteError → String
  | .routeUnavailable => "control_route_unavailable"
  | .sessionStale => "control_session_stale"
  | .deviceMismatch => "control_device_mismatch"

/-- The resolver, with what `Find` answers during the call, or no store at all. -/
structure RouteResolver where
  sessions : Option (String → Except StoreError PublishSession)

def RouteResolver.resolve (r : RouteResolver) (request : RouteRequest) :
    Except RouteError InternalRoute :=
  match r.sessions with
  | none => .error .routeUnavailable
  | some find =>
    if opaqueSegment request.deviceID = false ∨ opaqueSegment request.publishSession = false then
      .error .routeUnavailable
    else match find request.publishSession with
      | .error _ => .error .routeUnavailable
      | .ok session =>
        if session.activeAt request.now = false then .error .sessionStale
        else if session.deviceUUID ≠ request.deviceID then .error .deviceMismatch
        else if session.groupID = "" then .error .routeUnavailable
        else match new session.deviceUUID.toList session.sessionID.toList .command with
          | none => .error .routeUnavailable
          | some commandTopic =>
            .ok ⟨request.deviceID, session.groupID, session.sessionID, commandTopic.toString⟩

/-- What a route that is returned says. -/
structure Routed (request : RouteRequest) (session : PublishSession) (route : InternalRoute) :
    Prop where
  active : session.activeAt request.now = true
  requested : route.deviceID = request.deviceID
  deviceID : route.deviceID = session.deviceUUID
  groupID : route.groupID = session.groupID
  grouped : route.groupID ≠ ""
  publishSession : route.publishSession = session.sessionID
  commandTopic : parse route.commandTopic =
    some ⟨route.deviceID.toList, route.publishSession.toList, .command⟩

theorem RouteResolver.resolve_routed {r : RouteResolver} {request : RouteRequest}
    {route : InternalRoute} (h : r.resolve request = .ok route) :
    ∃ find session, r.sessions = some find ∧ find request.publishSession = .ok session ∧
      Routed request session route := by
  unfold RouteResolver.resolve at h
  split at h
  next => cases h
  next find hfind =>
    rw [CheckedSteps.ite_error_eq_ok_iff] at h
    obtain ⟨-, h⟩ := h
    split at h
    next => cases h
    next session hsession =>
      simp only [CheckedSteps.ite_error_eq_ok_iff, not_not, Bool.not_eq_false] at h
      obtain ⟨hactive, hdevice, hgroup, h⟩ := h
      split at h
      next => cases h
      next topic htopic =>
        cases h
        obtain ⟨-, hfields⟩ := new_eq_some_iff.1 htopic
        refine ⟨find, session, hfind, hsession, hactive, rfl, hdevice.symm, rfl, hgroup, rfl, ?_⟩
        rw [parse_toString_of_new htopic, ← hfields, hdevice]

/-! ## Acknowledgements -/

/-- `ControlCommandAck` as the protobuf library reads it; enumerations are open, so they are
carried by their numbers. -/
structure ControlCommandAck where
  commandId : String
  controlSessionId : String
  deviceId : String
  sequence : UInt64
  status : Int32
  errorCode : Int32
  appliedUnixMillis : Int64
  deviceUnixMillis : Int64
  deriving DecidableEq

def errAckInvalid : String := "control_ack_invalid"

section Decoding

-- `proto.Unmarshal` into an empty acknowledgement
variable (unmarshal : List UInt8 → Option ControlCommandAck)

def decodeAck (topic : String) (payload : List UInt8) : Except String ControlCommandAck :=
  match parse topic with
  | none => .error errAckInvalid
  | some binding =>
    if binding.channel ≠ .commandAck ∨ payload.length = 0 ∨ maxCommandBytes < payload.length then
      .error errAckInvalid
    else match unmarshal payload with
      | none => .error errAckInvalid
      | some ack =>
        if ack.deviceId.toList ≠ binding.deviceUUID ∨ ack.controlSessionId = "" ∨
            ack.commandId = "" ∨ ack.sequence = 0 then .error errAckInvalid
        else .ok ack

def decodeBoundAck (route : InternalRoute) (controlSessionID topic : String)
    (payload : List UInt8) : Except String ControlCommandAck :=
  match parse topic with
  | none => .error errAckInvalid
  | some binding =>
    if binding.deviceUUID ≠ route.deviceID.toList ∨
        binding.publishSession ≠ route.publishSession.toList then .error errAckInvalid
    else match decodeAck unmarshal topic payload with
      | .error _ => .error errAckInvalid
      | .ok ack =>
        if ack.deviceId ≠ route.deviceID ∨ ack.controlSessionId ≠ controlSessionID then
          .error errAckInvalid
        else .ok ack

variable {unmarshal}

theorem decodeAck_ok {topic : String} {payload : List UInt8} {ack : ControlCommandAck}
    (h : decodeAck unmarshal topic payload = .ok ack) :
    ∃ binding, parse topic = some binding ∧ binding.channel = .commandAck ∧
      ack.deviceId.toList = binding.deviceUUID ∧ unmarshal payload = some ack := by
  unfold decodeAck at h
  split at h
  next => cases h
  next binding hbinding =>
    rw [CheckedSteps.ite_error_eq_ok_iff, not_or, not_ne_iff] at h
    obtain ⟨⟨hchannel, -⟩, h⟩ := h
    split at h
    next => cases h
    next read hread =>
      rw [CheckedSteps.ite_error_eq_ok_iff, not_or, not_ne_iff] at h
      obtain ⟨⟨hdevice, -⟩, h⟩ := h
      cases h
      exact ⟨binding, hbinding, hchannel, hdevice, hread⟩

/-- The topic and the names that an accepted acknowledgement is bound to. -/
structure Bound (route : InternalRoute) (controlSessionID topic : String)
    (ack : ControlCommandAck) : Prop where
  topic : topic =
    Topic.toString ⟨route.deviceID.toList, route.publishSession.toList, .commandAck⟩
  deviceId : ack.deviceId = route.deviceID
  controlSessionId : ack.controlSessionId = controlSessionID

theorem decodeBoundAck_bound {route : InternalRoute} {controlSessionID topic : String}
    {payload : List UInt8} {ack : ControlCommandAck}
    (h : decodeBoundAck unmarshal route controlSessionID topic payload = .ok ack) :
    Bound route controlSessionID topic ack := by
  unfold decodeBoundAck at h
  split at h
  next => cases h
  next binding hbinding =>
    rw [CheckedSteps.ite_error_eq_ok_iff, not_or, not_ne_iff, not_ne_iff] at h
    obtain ⟨⟨hdevice, hsession⟩, h⟩ := h
    split at h
    next => cases h
    next read hread =>
      rw [CheckedSteps.ite_error_eq_ok_iff, not_or, not_ne_iff, not_ne_iff] at h
      obtain ⟨⟨hack, hcontrol⟩, h⟩ := h
      cases h
      obtain ⟨same, hsame, hchannel, -⟩ := decodeAck_ok hread
      cases hbinding.symm.trans hsame
      refine ⟨?_, hack, hcontrol⟩
      rw [← hdevice, ← hsession, ← hchannel]
      exact (new_of_parse hbinding).1.symm

end Decoding

/-- Topics and their texts determine each other, a command goes to the topic of the device and the
session of its route, and an acknowledgement is taken from no other device or session. -/
theorem ack_binding (unmarshal : List UInt8 → Option ControlCommandAck) :
    (∀ deviceUUID publishSession channel topic,
      new deviceUUID publishSession channel = some topic →
        parse topic.toString = some topic) ∧
    (∀ raw topic, parse raw = some topic → topic.toString = raw) ∧
    (∀ (r : RouteResolver) request route, r.resolve request = .ok route →
      parse route.commandTopic =
        some ⟨route.deviceID.toList, route.publishSession.toList, .command⟩) ∧
    ∀ route controlSessionID topic payload ack,
      decodeBoundAck unmarshal route controlSessionID topic payload = .ok ack →
        Bound route controlSessionID topic ack := by
  refine ⟨fun _ _ _ _ => parse_toString_of_new, fun _ _ h => (new_of_parse h).1, ?_,
    fun _ _ _ _ _ => decodeBoundAck_bound⟩
  intro r request route h
  obtain ⟨_, _, -, -, hrouted⟩ := r.resolve_routed h
  exact hrouted.commandTopic

/-- `command_id`, `control_session_id`, `device_id` and `sequence` on the wire. -/
def samplePayload : List UInt8 :=
  [10, 3] ++ "cmd".toUTF8.toList ++ [18, 3] ++ "ctl".toUTF8.toList ++
    [26, 9] ++ "device-01".toUTF8.toList ++ [32, 7]

def sampleAck : ControlCommandAck := ⟨"cmd", "ctl", "device-01", 7, 0, 0, 0, 0⟩

theorem ack_binding_sample :
    Bound ⟨"device-01", "group", "ps_0123", "gcs/device/device-01/ps_0123/command"⟩ "ctl"
      "gcs/device/device-01/ps_0123/command_ack" sampleAck :=
  (ack_binding fun payload => if payload = samplePayload then some sampleAck else none).2.2.2
    _ _ _ samplePayload _ (by decide +kernel)

end GcsSaker.ControlAcks
