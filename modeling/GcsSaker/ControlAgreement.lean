import GcsSaker.CommandTransport
import GcsSaker.DeviceAdapter

/-!
# Agreement of the command sender and the device

The control application builds an envelope and the transport checks it; the device adapter checks
its parameters again. The sender attaches parameters to motion commands only and bounds no axis,
so the device refuses every camera command and every motion whose axes it does not allow, and
nothing else.
-/

namespace GcsSaker.Control

/-- The adapter can act on the command: its type is known and its parameters are there and in
range. -/
def Actionable (command : ControlCommandEnvelope) : Prop :=
  match command.commandType with
  | .stop => True
  | .emergencyStop => True
  | .returnHome => True
  | .motion => ∃ axes, command.getMotion = some axes ∧
      ∀ value ∈ [axes.forward, axes.right, axes.up, axes.yaw], UnitAxis value
  | .cameraPanTilt => ∃ camera, command.getCamera = some camera ∧
      ∀ value ∈ [camera.pan, camera.tilt], UnitAxis value
  | .unspecified => False
  | .unrecognized _ => False

/-- The acknowledgement blames the command itself. -/
def ControlCommandAck.BlamesParameters (ack : ControlCommandAck) : Prop :=
  ack.errorCode = .parameterRange ∨ ack.errorCode = .unsupported

/-- `apply` blames the command exactly when it is not actionable. -/
theorem apply_err (a : Adapter) (command : ControlCommandEnvelope) (works : Bool) :
    (Actionable command ∧ (a.apply command works).err = actuatorError works) ∨
      (¬ Actionable command ∧ ((a.apply command works).err = some .range ∨
        (a.apply command works).err = some .unsupported)) := by
  unfold Actionable Adapter.apply
  cases command.commandType with
  | stop => exact Or.inl ⟨trivial, rfl⟩
  | emergencyStop => exact Or.inl ⟨trivial, rfl⟩
  | returnHome => exact Or.inl ⟨trivial, rfl⟩
  | unspecified => exact Or.inr ⟨not_false, Or.inr rfl⟩
  | unrecognized number => exact Or.inr ⟨not_false, Or.inr rfl⟩
  | motion =>
      cases command.getMotion with
      | none => exact Or.inr ⟨fun ⟨_, h, _⟩ => (Option.some_ne_none _ h.symm).elim, Or.inl rfl⟩
      | some axes =>
          by_cases hv : validAxes [axes.forward, axes.right, axes.up, axes.yaw] = true
          · simp only [if_pos hv]
            exact Or.inl ⟨⟨axes, rfl, (validAxes_iff _).mp hv⟩, trivial⟩
          · simp only [if_neg hv]
            refine Or.inr ⟨?_, Or.inl trivial⟩
            rintro ⟨axes', h, hu⟩
            obtain rfl := Option.some.inj h
            exact hv ((validAxes_iff _).mpr hu)
  | cameraPanTilt =>
      cases command.getCamera with
      | none => exact Or.inr ⟨fun ⟨_, h, _⟩ => (Option.some_ne_none _ h.symm).elim, Or.inl rfl⟩
      | some camera =>
          by_cases hv : validAxes [camera.pan, camera.tilt] = true
          · simp only [if_pos hv]
            exact Or.inl ⟨⟨camera, rfl, (validAxes_iff _).mp hv⟩, trivial⟩
          · simp only [if_neg hv]
            refine Or.inr ⟨?_, Or.inl trivial⟩
            rintro ⟨camera', h, hu⟩
            obtain rfl := Option.some.inj h
            exact hv ((validAxes_iff _).mpr hu)

/-- Once a command is allowed, its acknowledgement depends on its parameters and the actuator. -/
theorem execute_blamesParameters_iff {a : Adapter} {command : ControlCommandEnvelope} {now : ℤ}
    (hallow : a.commandAllowed command now = true) (works : Bool) :
    (a.execute (some command) now works).2.2.BlamesParameters ↔ ¬ Actionable command := by
  simp only [Adapter.execute, if_pos hallow, ControlCommandAck.BlamesParameters]
  rcases apply_err a command works with ⟨hact, herr⟩ | ⟨hact, herr | herr⟩
  · rw [herr]
    cases works with
    | true => simp [actuatorError, hact]
    | false => simp [actuatorError, hact, errorCode, reject]
  · simp [herr, hact, errorCode, reject]
  · simp [herr, hact, errorCode, reject]

theorem unitAxis_zero : UnitAxis 0 := by
  unfold UnitAxis
  decide +kernel

/-- What the sender attaches suits the device unless it is a camera command, or a motion command
with an axis out of range. -/
theorem actionable_of_build_iff {input : ControlCommandInput} {command : ControlCommandEnvelope}
    (hbuild : buildControlCommand input = .ok command) :
    Actionable command ↔ input.request.command ≠ "CAMERA_PAN_TILT" ∧
      (input.request.command = "MOTION" →
        UnitAxis input.request.forward ∧ UnitAxis input.request.right) := by
  obtain ⟨hknown, rfl⟩ := buildControlCommand_ok hbuild
  have htype := commandTypeOf_eq input.request.command
  generalize commandTypeOf input.request.command = typeValue at hknown htype ⊢
  split_ifs at htype with hs hm hc hr he
  · subst htype
    simp [Actionable, hs]
  · subst htype
    simp [Actionable, ControlCommandEnvelope.getMotion, hm, unitAxis_zero]
  · subst htype
    simp [Actionable, ControlCommandEnvelope.getCamera, hc]
  · subst htype
    simp [Actionable, hr]
  · subst htype
    simp [Actionable, he]
  · exact absurd htype hknown

/-- The command was built from `input`, the transport `t` accepted it at `sent`, and the adapter
holds the session of the command and neither has run out at `now`. -/
structure Delivered (input : ControlCommandInput) (command : ControlCommandEnvelope)
    (t : CommandTransport) (marshal : ControlCommandEnvelope → Option (List UInt8))
    (route : InternalRoute) (sent : ℤ) (a : Adapter) (now : ℤ) : Prop where
  built : buildControlCommand input = .ok command
  published : t.publish marshal route (some command) sent = none
  allowed : a.commandAllowed command now = true

/-- A delivered command is never refused for its type or parameters exactly when it is no camera
command and a motion command's axes are in range. -/
theorem delivered_accepted_iff {input : ControlCommandInput} {command : ControlCommandEnvelope}
    {t : CommandTransport} {marshal : ControlCommandEnvelope → Option (List UInt8)}
    {route : InternalRoute} {sent : ℤ} {a : Adapter} {now : ℤ}
    (h : Delivered input command t marshal route sent a now) (works : Bool) :
    ¬ (a.execute (some command) now works).2.2.BlamesParameters ↔
      input.request.command ≠ "CAMERA_PAN_TILT" ∧
        (input.request.command = "MOTION" →
          UnitAxis input.request.forward ∧ UnitAxis input.request.right) := by
  rw [execute_blamesParameters_iff h.allowed, not_not, actionable_of_build_iff h.built]

/-- An operator's request for session `control-01` of device `device-01`. -/
def sampleInput (command : String) : ControlCommandInput :=
  ⟨"cmd_01", "control-01", "device-01", ⟨command, 1, "idempotency-01", 0.5, 0⟩, 0⟩

/-- Ledgers and a client with which nothing goes wrong. -/
def workingTransport : CommandTransport :=
  ⟨some fun _ _ => true, fun _ _ => .ok true, fun _ _ _ => .ok true⟩

/-- A device that has just begun the lease of `control-01`. -/
def leasedAdapter : Adapter :=
  ((Adapter.new true).beginLease "control-01" (30 * Clock.second) 0).1

/-- What the sender makes of the sample request. -/
def sampleCommand (type : ControlCommandType) (parameters : Option CommandParameters) :
    ControlCommandEnvelope :=
  ⟨"cmd_01", "control-01", "device-01", 1, type, 0, 2000, "idempotency-01", parameters⟩

theorem sample_delivered {name : String} {type : ControlCommandType}
    {parameters : Option CommandParameters}
    (hbuild : buildControlCommand (sampleInput name) = .ok (sampleCommand type parameters)) :
    Delivered (sampleInput name) (sampleCommand type parameters) workingTransport
      (fun _ => some [0]) sampleRoute 0 leasedAdapter Clock.second := by
  refine ⟨hbuild, ?_, ?_⟩
  · have hvalid : validateCommand sampleRoute (some (sampleCommand type parameters)) 0 = none := by
      simp [validateCommand, sampleCommand, sampleRoute, Clock.ofUnixMilli, Clock.millisecond,
        commandTimeout, Clock.second]
    simp only [CommandTransport.publish, hvalid]
    rfl
  · simp [Adapter.commandAllowed, sampleCommand, leasedAdapter, Adapter.beginLease, Adapter.new,
      Clock.unixMilli, Clock.millisecond, Clock.second]

theorem delivered_accepted_iff_motion :
    ¬ (leasedAdapter.execute (some (sampleCommand .motion (some (.motion (some ⟨0.5, 0, 0, 0⟩)))))
      Clock.second true).2.2.BlamesParameters :=
  (delivered_accepted_iff (@sample_delivered "MOTION" _ _ (by decide +kernel)) true).mpr
    ⟨by decide, fun _ => by unfold UnitAxis; decide +kernel⟩

/-- A camera command is built and published, and the device refuses it for want of parameters. -/
theorem cameraCommand_refused :
    Delivered (sampleInput "CAMERA_PAN_TILT") (sampleCommand .cameraPanTilt none) workingTransport
      (fun _ => some [0]) sampleRoute 0 leasedAdapter Clock.second ∧
    (leasedAdapter.execute (some (sampleCommand .cameraPanTilt none)) Clock.second
      true).2.2.errorCode = .parameterRange :=
  ⟨sample_delivered (by decide +kernel), by decide +kernel⟩

end GcsSaker.Control
