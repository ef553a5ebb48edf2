import GcsSaker.Clock

/-!
# Control commands

The command envelope of the control contract, the requests of the control application and the
policy target it sends, and the building of an envelope from a request. Sequence numbers are
natural numbers: a session lives for thirty seconds and never nears the end of `uint64`.
-/

namespace GcsSaker.Control

inductive ControlCommandType where
  | unspecified
  | stop
  | motion
  | cameraPanTilt
  | returnHome
  | emergencyStop
  | unrecognized (number : ℤ)
  deriving DecidableEq

structure MotionAxes where
  forward : Float
  right : Float
  up : Float
  yaw : Float
  deriving DecidableEq

structure CameraPanTilt where
  pan : Float
  tilt : Float
  deriving DecidableEq

/-- The `parameters` oneof. Either wrapper may hold a nil message. -/
inductive CommandParameters where
  | motion (motion : Option MotionAxes)
  | camera (camera : Option CameraPanTilt)
  deriving DecidableEq

structure ControlCommandEnvelope where
  commandId : String
  controlSessionId : String
  deviceId : String
  sequence : ℕ
  commandType : ControlCommandType
  issuedUnixMillis : ℤ
  expiresUnixMillis : ℤ
  idempotencyId : String
  parameters : Option CommandParameters
  deriving DecidableEq

def ControlCommandEnvelope.getMotion (command : ControlCommandEnvelope) : Option MotionAxes :=
  match command.parameters with
  | some (.motion motion) => motion
  | _ => none

def ControlCommandEnvelope.getCamera (command : ControlCommandEnvelope) : Option CameraPanTilt :=
  match command.parameters with
  | some (.camera camera) => camera
  | _ => none

/-- `ControlCommandType_value`; a name that is not in the map gives the zero value. -/
def controlCommandTypeValue : List (String × ControlCommandType) :=
  [("CONTROL_COMMAND_TYPE_UNSPECIFIED", .unspecified), ("CONTROL_COMMAND_TYPE_STOP", .stop),
    ("CONTROL_COMMAND_TYPE_MOTION", .motion),
    ("CONTROL_COMMAND_TYPE_CAMERA_PAN_TILT", .cameraPanTilt),
    ("CONTROL_COMMAND_TYPE_RETURN_HOME", .returnHome),
    ("CONTROL_COMMAND_TYPE_EMERGENCY_STOP", .emergencyStop)]

inductive ControlError where
  | denied
  | conflict
  | unavailable
  deriving DecidableEq

structure SessionRequest where
  deviceID : String
  publishSession : String
  deriving DecidableEq

structure CommandRequest where
  command : String
  sequence : ℕ
  idempotencyID : String
  forward : Float
  right : Float
  deriving DecidableEq

structure InternalRoute where
  deviceID : String
  groupID : String
  publishSession : String
  commandTopic : String
  deriving DecidableEq

structure ControlPolicyTarget where
  action : String
  deviceID : String
  groupID : String
  command : String
  controlSessionID : String
  highRiskConfirmed : Bool
  leaseExpiresAt : ℤ
  deriving DecidableEq

structure ControlSessionState where
  deviceID : String
  publishSession : String
  route : InternalRoute
  expiresAt : ℤ
  nextSequence : ℕ
  deriving DecidableEq

def controlLeaseDuration : ℤ := 30 * Clock.second

def maxControlSessions : ℕ := 1024

/-- The session that `CreateSession` stores for a request made at `now`. -/
def newSessionState (request : SessionRequest) (route : InternalRoute) (now : ℤ) :
    ControlSessionState :=
  ⟨request.deviceID, request.publishSession, route, now + controlLeaseDuration, 1⟩

/-- The target of the policy call in `CreateSession`; what it leaves out has its zero value. -/
def acquireTarget (request : SessionRequest) (route : InternalRoute) : ControlPolicyTarget :=
  ⟨"acquire", request.deviceID, route.groupID, "STOP", "", false, Clock.zeroTime⟩

/-- The target of the policy call in `SubmitCommand`. -/
def commandTarget (state : ControlSessionState) (sessionID : String) (request : CommandRequest) :
    ControlPolicyTarget :=
  ⟨"command", state.deviceID, state.route.groupID, request.command, sessionID, false,
    state.expiresAt⟩

structure ControlCommandInput where
  commandID : String
  sessionID : String
  deviceID : String
  request : CommandRequest
  now : ℤ
  deriving DecidableEq

def commandTypeOf (command : String) : ControlCommandType :=
  (controlCommandTypeValue.lookup ("CONTROL_COMMAND_TYPE_" ++ command)).getD .unspecified

def buildControlCommand (input : ControlCommandInput) :
    Except ControlError ControlCommandEnvelope :=
  let typeValue := commandTypeOf input.request.command
  if typeValue = .unspecified then .error .denied
  else .ok
    { commandId := input.commandID
      controlSessionId := input.sessionID
      deviceId := input.deviceID
      sequence := input.request.sequence
      commandType := typeValue
      issuedUnixMillis := Clock.unixMilli input.now
      expiresUnixMillis := Clock.unixMilli (input.now + 2 * Clock.second)
      idempotencyId := input.request.idempotencyID
      parameters :=
        if typeValue = .motion then
          some (.motion (some ⟨input.request.forward, input.request.right, 0, 0⟩))
        else none }

/-- The five command names that give a type, each its own. -/
theorem commandTypeOf_eq (command : String) : commandTypeOf command =
    if command = "STOP" then .stop
    else if command = "MOTION" then .motion
    else if command = "CAMERA_PAN_TILT" then .cameraPanTilt
    else if command = "RETURN_HOME" then .returnHome
    else if command = "EMERGENCY_STOP" then .emergencyStop
    else .unspecified := by
  have key : ∀ name full : String, "CONTROL_COMMAND_TYPE_" ++ name = full →
      ("CONTROL_COMMAND_TYPE_" ++ command == full) = decide (command = name) := by
    rintro name full rfl
    rw [Bool.eq_iff_iff, beq_iff_eq, decide_eq_true_eq]
    exact String.append_right_inj "CONTROL_COMMAND_TYPE_"
  simp only [commandTypeOf, controlCommandTypeValue, List.lookup_cons, List.lookup_nil,
    key "UNSPECIFIED" "CONTROL_COMMAND_TYPE_UNSPECIFIED" (by decide),
    key "STOP" "CONTROL_COMMAND_TYPE_STOP" (by decide),
    key "MOTION" "CONTROL_COMMAND_TYPE_MOTION" (by decide),
    key "CAMERA_PAN_TILT" "CONTROL_COMMAND_TYPE_CAMERA_PAN_TILT" (by decide),
    key "RETURN_HOME" "CONTROL_COMMAND_TYPE_RETURN_HOME" (by decide),
    key "EMERGENCY_STOP" "CONTROL_COMMAND_TYPE_EMERGENCY_STOP" (by decide)]
  by_cases hu : command = "UNSPECIFIED"
  · subst hu
    rfl
  · rw [decide_eq_false hu]
    split_ifs with hs hm hc hr he
    · simp only [decide_eq_true hs, Option.getD_some]
    · simp only [decide_eq_false hs, decide_eq_true hm, Option.getD_some]
    · simp only [decide_eq_false hs, decide_eq_false hm, decide_eq_true hc, Option.getD_some]
    · simp only [decide_eq_false hs, decide_eq_false hm, decide_eq_false hc, decide_eq_true hr,
        Option.getD_some]
    · simp only [decide_eq_false hs, decide_eq_false hm, decide_eq_false hc, decide_eq_false hr,
        decide_eq_true he, Option.getD_some]
    · simp only [decide_eq_false hs, decide_eq_false hm, decide_eq_false hc, decide_eq_false hr,
        decide_eq_false he, Option.getD_none]

/-- What a built envelope says: everything is the input's, and parameters go with motion only. -/
theorem buildControlCommand_ok {input : ControlCommandInput} {command : ControlCommandEnvelope}
    (h : buildControlCommand input = .ok command) :
    commandTypeOf input.request.command ≠ .unspecified ∧
      command =
        { commandId := input.commandID
          controlSessionId := input.sessionID
          deviceId := input.deviceID
          sequence := input.request.sequence
          commandType := commandTypeOf input.request.command
          issuedUnixMillis := Clock.unixMilli input.now
          expiresUnixMillis := Clock.unixMilli (input.now + 2 * Clock.second)
          idempotencyId := input.request.idempotencyID
          parameters :=
            if commandTypeOf input.request.command = .motion then
              some (.motion (some ⟨input.request.forward, input.request.right, 0, 0⟩))
            else none } := by
  by_cases ht : commandTypeOf input.request.command = .unspecified
  · simp only [buildControlCommand, if_pos ht, reduceCtorEq] at h
  · simp only [buildControlCommand, if_neg ht, Except.ok.injEq] at h
    exact ⟨ht, h.symm⟩

end GcsSaker.Control
