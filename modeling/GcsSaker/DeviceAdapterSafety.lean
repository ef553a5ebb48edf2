import GcsSaker.DeviceAdapter

/-!
# Authorised actuation and the fail-safe of the device adapter

Two trace properties of every adapter run. Motion, camera and return-home calls reach the actuator
only for a command that the latest lease covers, and none is made between a halt and the next
lease. The fail-safe rests on the `stopped` flag, which is set before the actuator answers: a halt
that fails still sets it, and the checks after it find nothing to do. `failSafeHolds_iff` says
exactly when the checks of a run can be trusted.
-/

namespace GcsSaker.Control

def ActuatorCall.isHalt : ActuatorCall → Bool
  | .stop => true
  | .emergencyStop => true
  | .motion .. => false
  | .camera .. => false
  | .returnHome => false

namespace Event

variable (e : Event)

/-- A `Stop` or `EmergencyStop` call was made, successful or not. -/
def halts : Bool := e.call.any fun call => call.isHalt

/-- A `Motion`, `Camera` or `ReturnHome` call was made, successful or not. -/
def actuates : Bool := e.call.any fun call => !call.isHalt

/-- A lease began. -/
def leases : Bool :=
  match e.operation with
  | .beginLease _ _ _ => e.accepted
  | _ => false

def disconnects : Bool :=
  match e.operation with
  | .disconnect _ => true
  | _ => false

end Event

/-- The actuator call that a command asks for, its axes those of the command and in range. -/
def ActuationOf (command : ControlCommandEnvelope) : ActuatorCall → Prop
  | .motion forward right up yaw => command.commandType = .motion ∧
      command.getMotion = some ⟨forward, right, up, yaw⟩ ∧
      UnitAxis forward ∧ UnitAxis right ∧ UnitAxis up ∧ UnitAxis yaw
  | .camera pan tilt => command.commandType = .cameraPanTilt ∧
      command.getCamera = some ⟨pan, tilt⟩ ∧ UnitAxis pan ∧ UnitAxis tilt
  | .returnHome => command.commandType = .returnHome
  | .stop => False
  | .emergencyStop => False

/-- Session and expiry of the latest lease that began. -/
def latestLease : List Event → Option (String × ℤ)
  | [] => none
  | e :: older => match e.operation with
    | .beginLease sessionID expiresAt _ =>
      if e.accepted then some (sessionID, expiresAt) else latestLease older
    | _ => latestLease older

/-- Since the latest lease began, the actuator was told to halt or the connection closed. -/
def HaltedSinceLease : List Event → Prop
  | [] => False
  | e :: older => e.halts = true ∨ e.disconnects = true ∨
      (e.leases = false ∧ HaltedSinceLease older)

/-- Every motion, camera and return-home call of the history was made by `Execute` for a command of
the latest lease, before the lease and the command ran out, with the command's own axes, all in
range, and with no halt since that lease began. -/
def ActuationsAuthorised : List Event → Prop
  | [] => True
  | e :: older => (∀ call, e.call = some call → call.isHalt = false →
      ∃ command now works expiresAt, e.operation = .execute (some command) now works ∧
        latestLease older = some (command.controlSessionId, expiresAt) ∧ now < expiresAt ∧
        now < Clock.ofUnixMilli command.expiresUnixMillis ∧ ActuationOf command call ∧
        ¬ HaltedSinceLease older) ∧ ActuationsAuthorised older

/-- The last motion, camera or return-home call that succeeded has been followed by a stop or
emergency stop that succeeded. -/
def AtRest : List Event → Prop
  | [] => True
  | e :: older => (e.halts = true ∧ e.worked = true) ∨
      (¬ (e.actuates = true ∧ e.worked = true) ∧ AtRest older)

instance AtRest.decidable : DecidablePred AtRest
  | [] => inferInstanceAs (Decidable True)
  | e :: older =>
      have := AtRest.decidable older
      inferInstanceAs (Decidable ((e.halts = true ∧ e.worked = true) ∨
        (¬ (e.actuates = true ∧ e.worked = true) ∧ AtRest older)))

/-- Since the latest lease began, a stop or emergency stop has failed. -/
def HaltFailedSinceLease : List Event → Prop
  | [] => False
  | e :: older => (e.halts = true ∧ e.worked = false) ∨
      (e.leases = false ∧ HaltFailedSinceLease older)

/-! ## What one operation can do -/

/-- A lease begins, and nothing is said to the actuator. -/
def StepLeases (r : AdapterRun) (e : Event) (a : Adapter) : Prop :=
  ∃ sessionID expiresAt now, e.operation = .beginLease sessionID expiresAt now ∧
    e.accepted = true ∧ e.call = none ∧
    a = ⟨r.adapter.hasActuator, sessionID, expiresAt, now, false⟩

/-- No call is made, and lease and flag stay; a disconnect is quiet on a stopped adapter only. -/
def StepQuiet (r : AdapterRun) (e : Event) (a : Adapter) : Prop :=
  e.leases = false ∧ e.call = none ∧ a.stopped = r.adapter.stopped ∧
    a.sessionID = r.adapter.sessionID ∧ a.leaseExpires = r.adapter.leaseExpires ∧
    (e.disconnects = true → r.adapter.stopped = true)

/-- A running adapter is stopped, whether or not the actuator obeys. -/
def StepHalts (r : AdapterRun) (e : Event) (a : Adapter) : Prop :=
  e.leases = false ∧ e.halts = true ∧ e.actuates = false ∧ r.adapter.stopped = false ∧
    a.stopped = true

/-- An allowed command moves the vehicle. -/
def StepActuates (r : AdapterRun) (e : Event) (a : Adapter) : Prop :=
  ∃ command now works call, e.operation = .execute (some command) now works ∧
    r.adapter.commandAllowed command now = true ∧ e.call = some call ∧
    ActuationOf command call ∧ a = r.adapter

theorem actuationOf_isHalt {command : ControlCommandEnvelope} {call : ActuatorCall}
    (h : ActuationOf command call) : call.isHalt = false := by
  cases call with
  | motion => rfl
  | camera => rfl
  | returnHome => rfl
  | stop => exact h.elim
  | emergencyStop => exact h.elim

/-- `apply` either stays quiet, halts, or makes the call its command asks for. -/
theorem apply_cases (a : Adapter) (command : ControlCommandEnvelope) (works : Bool) :
    ((a.apply command works).call = none ∧ (a.apply command works).adapter = a ∧
      (a.apply command works).err ≠ none) ∨
    ((∃ call, (a.apply command works).call = some call ∧ call.isHalt = true) ∧
      (a.apply command works).adapter.stopped = true ∧
      (a.apply command works).err = actuatorError works) ∨
    ((∃ call, (a.apply command works).call = some call ∧ ActuationOf command call) ∧
      (a.apply command works).adapter = a ∧ (a.apply command works).err = actuatorError works) := by
  unfold Adapter.apply
  cases ht : command.commandType with
  | stop => exact Or.inr (Or.inl ⟨⟨_, rfl, rfl⟩, rfl, rfl⟩)
  | emergencyStop => exact Or.inr (Or.inl ⟨⟨_, rfl, rfl⟩, rfl, rfl⟩)
  | returnHome => exact Or.inr (Or.inr ⟨⟨_, rfl, ht⟩, rfl, rfl⟩)
  | unspecified => exact Or.inl ⟨rfl, rfl, by simp⟩
  | unrecognized number => exact Or.inl ⟨rfl, rfl, by simp⟩
  | motion =>
      cases hm : command.getMotion with
      | none => exact Or.inl ⟨rfl, rfl, by simp⟩
      | some axes =>
          by_cases hv : validAxes [axes.forward, axes.right, axes.up, axes.yaw] = true
          · simp only [if_pos hv]
            have hu := (validAxes_iff _).mp hv
            refine Or.inr (Or.inr ⟨⟨_, rfl, ht, hm, ?_⟩, trivial, trivial⟩)
            exact ⟨hu _ (by simp), hu _ (by simp), hu _ (by simp), hu _ (by simp)⟩
          · simp only [if_neg hv]
            exact Or.inl ⟨trivial, trivial, by simp⟩
  | cameraPanTilt =>
      cases hc : command.getCamera with
      | none => exact Or.inl ⟨rfl, rfl, by simp⟩
      | some camera =>
          by_cases hv : validAxes [camera.pan, camera.tilt] = true
          · simp only [if_pos hv]
            have hu := (validAxes_iff _).mp hv
            exact Or.inr (Or.inr ⟨⟨_, rfl, ht, hc, hu _ (by simp), hu _ (by simp)⟩,
              trivial, trivial⟩)
          · simp only [if_neg hv]
            exact Or.inl ⟨trivial, trivial, by simp⟩

/-- What `Execute` does to the state and the actuator is what `apply` does, if it gets there. -/
theorem execute_eq (a : Adapter) (command : Option ControlCommandEnvelope) (now : ℤ)
    (works : Bool) :
    (∃ c, command = some c ∧ a.commandAllowed c now = true ∧
      (a.execute command now works).1 = (a.apply c works).adapter ∧
      (a.execute command now works).2.1 = (a.apply c works).call) ∨
    ((a.execute command now works).1 = a ∧ (a.execute command now works).2.1 = none) := by
  cases command with
  | none => exact Or.inr ⟨rfl, rfl⟩
  | some c =>
      by_cases hc : a.commandAllowed c now = true
      · refine Or.inl ⟨c, rfl, hc, ?_, ?_⟩
        all_goals
          simp only [Adapter.execute, if_pos hc]
          cases (a.apply c works).err <;> rfl
      · refine Or.inr ⟨?_, ?_⟩
        all_goals simp only [Adapter.execute, if_neg hc]

theorem not_stopped_of_commandAllowed {a : Adapter} {command : ControlCommandEnvelope} {now : ℤ}
    (h : a.commandAllowed command now = true) :
    a.stopped = false ∧ command.controlSessionId = a.sessionID ∧ now < a.leaseExpires ∧
      Clock.unixMilli now < command.expiresUnixMillis := by
  simpa only [Adapter.commandAllowed, Bool.and_eq_true, Bool.not_eq_true', decide_eq_true_eq,
    and_assoc] using h

/-- The inversion of `perform`: every operation logs one event and does one of four things. -/
theorem perform_cases (r : AdapterRun) (operation : Operation) :
    ∃ e, (perform r operation).log = e :: r.log ∧ e.operation = operation ∧
      (StepLeases r e (perform r operation).adapter ∨ StepQuiet r e (perform r operation).adapter ∨
        StepHalts r e (perform r operation).adapter ∨
        StepActuates r e (perform r operation).adapter) := by
  cases operation with
  | beginLease sessionID expiresAt now =>
      refine ⟨_, rfl, rfl, ?_⟩
      by_cases h : r.adapter.hasActuator = false ∨ sessionID = "" ∨ expiresAt ≤ now
      · refine Or.inr (Or.inl ?_)
        simp only [perform, Adapter.beginLease, if_pos h]
        exact ⟨rfl, rfl, rfl, rfl, rfl, fun hd => by cases hd⟩
      · refine Or.inl ?_
        simp only [perform, Adapter.beginLease, if_neg h]
        exact ⟨sessionID, expiresAt, now, rfl, rfl, rfl, rfl⟩
  | heartbeat sessionID now =>
      refine ⟨_, rfl, rfl, Or.inr (Or.inl ?_)⟩
      by_cases h : r.adapter.stopped ∨ sessionID ≠ r.adapter.sessionID ∨
          r.adapter.leaseExpires ≤ now
      · simp only [perform, Adapter.heartbeat, if_pos h]
        exact ⟨rfl, rfl, rfl, rfl, rfl, fun hd => by cases hd⟩
      · simp only [perform, Adapter.heartbeat, if_neg h]
        exact ⟨rfl, rfl, rfl, rfl, rfl, fun hd => by cases hd⟩
  | execute command now works =>
      refine ⟨_, rfl, rfl, ?_⟩
      rcases execute_eq r.adapter command now works with
        ⟨c, rfl, hallow, hadapter, hcall⟩ | ⟨ha, hc⟩
      · obtain ⟨hrun, -⟩ := not_stopped_of_commandAllowed hallow
        rcases apply_cases r.adapter c works with ⟨h, ha, -⟩ | ⟨⟨call, h, hk⟩, ha, -⟩ |
          ⟨⟨call, h, hk⟩, ha, -⟩
        · refine Or.inr (Or.inl ⟨rfl, hcall.trans h, ?_⟩)
          simp only [perform, hadapter, ha]
          exact ⟨trivial, trivial, trivial, fun hd => by cases hd⟩
        · refine Or.inr (Or.inr (Or.inl ⟨rfl, ?_, ?_, hrun, ?_⟩))
          · simp only [Event.halts, hcall, h, Option.any_some, hk]
          · simp only [Event.actuates, hcall, h, Option.any_some, hk, Bool.not_true]
          · simp only [perform, hadapter, ha]
        · refine Or.inr (Or.inr (Or.inr ⟨c, now, works, call, rfl, hallow, hcall.trans h, hk, ?_⟩))
          simp only [perform, hadapter, ha]
      · refine Or.inr (Or.inl ⟨rfl, hc, ?_⟩)
        simp only [perform, ha]
        exact ⟨trivial, trivial, trivial, fun hd => by cases hd⟩
  | checkFailSafe now works =>
      refine ⟨_, rfl, rfl, ?_⟩
      by_cases h : (r.adapter.stopped || !r.adapter.failSafeDue now) = true
      · refine Or.inr (Or.inl ?_)
        simp only [perform, Adapter.checkFailSafe, if_pos h]
        exact ⟨rfl, rfl, rfl, rfl, rfl, fun hd => by cases hd⟩
      · refine Or.inr (Or.inr (Or.inl ?_))
        have hrun : r.adapter.stopped = false := by
          simp only [Bool.or_eq_true, not_or, Bool.not_eq_true] at h
          exact h.1
        simp only [perform, Adapter.checkFailSafe, if_neg h]
        exact ⟨rfl, rfl, rfl, hrun, rfl⟩
  | disconnect works =>
      refine ⟨_, rfl, rfl, ?_⟩
      cases h : r.adapter.stopped with
      | true =>
          refine Or.inr (Or.inl ?_)
          simp only [perform, Adapter.disconnect, h, if_true]
          exact ⟨rfl, rfl, rfl, rfl, rfl, fun _ => h⟩
      | false =>
          refine Or.inr (Or.inr (Or.inl ?_))
          simp only [perform, Adapter.disconnect, h, Bool.false_eq_true, if_false]
          exact ⟨rfl, rfl, rfl, h, rfl⟩

theorem StepLeases.leases {r : AdapterRun} {e : Event} {a : Adapter} (h : StepLeases r e a) :
    e.leases = true := by
  obtain ⟨sessionID, expiresAt, now, hop, hacc, -, -⟩ := h
  simp only [Event.leases, hop, hacc]

theorem StepActuates.leases {r : AdapterRun} {e : Event} {a : Adapter} (h : StepActuates r e a) :
    e.leases = false ∧ e.disconnects = false ∧ e.halts = false := by
  obtain ⟨command, now, works, call, hop, -, hcall, hk, -⟩ := h
  refine ⟨?_, ?_, ?_⟩
  · simp only [Event.leases, hop]
  · simp only [Event.disconnects, hop]
  · simp only [Event.halts, hcall, Option.any_some, actuationOf_isHalt hk]

theorem latestLease_of_not_leases {e : Event} (older : List Event) (h : e.leases = false) :
    latestLease (e :: older) = latestLease older := by
  cases hop : e.operation with
  | beginLease sessionID expiresAt now =>
      have hacc : e.accepted = false := by simpa only [Event.leases, hop] using h
      simp only [latestLease, hop, hacc, Bool.false_eq_true, if_false]
  | heartbeat => simp only [latestLease, hop]
  | execute => simp only [latestLease, hop]
  | checkFailSafe => simp only [latestLease, hop]
  | disconnect => simp only [latestLease, hop]

theorem halts_eq_false_of_call {e : Event} (h : e.call = none) :
    e.halts = false ∧ e.actuates = false := by
  simp only [Event.halts, Event.actuates, h, Option.any_none, and_self]

/-! ## Authorised actuation -/

/-- While the adapter runs, its session and expiry are those of the latest lease and nothing has
halted it since. -/
structure SafeRun (r : AdapterRun) : Prop where
  running : r.adapter.stopped = false →
    latestLease r.log = some (r.adapter.sessionID, r.adapter.leaseExpires) ∧
      ¬ HaltedSinceLease r.log
  authorised : ActuationsAuthorised r.log

theorem perform_safeRun {r : AdapterRun} (hr : SafeRun r) (operation : Operation) :
    SafeRun (perform r operation) := by
  obtain ⟨e, hlog, hop, hstep⟩ := perform_cases r operation
  rcases hstep with hs | hs | hs | hs
  · have hl := hs.leases
    obtain ⟨sessionID, expiresAt, now, hbegin, hacc, hcall, ha⟩ := hs
    refine ⟨fun _ => ?_, ?_⟩
    · rw [hlog, ha]
      refine ⟨by simp only [latestLease, hbegin, hacc, if_true], ?_⟩
      rintro (hh | hh | hh)
      · rw [(halts_eq_false_of_call hcall).1] at hh
        cases hh
      · simp only [Event.disconnects, hbegin, Bool.false_eq_true] at hh
      · rw [hl] at hh
        cases hh.1
    · rw [hlog]
      refine ⟨fun call hc => ?_, hr.authorised⟩
      rw [hcall] at hc
      cases hc
  · obtain ⟨hl, hcall, hstop, hid, hexp, hdis⟩ := hs
    refine ⟨fun hrun => ?_, ?_⟩
    · rw [hstop] at hrun
      obtain ⟨hlease, hhalt⟩ := hr.running hrun
      rw [hlog, latestLease_of_not_leases _ hl, hid, hexp]
      refine ⟨hlease, ?_⟩
      rintro (hh | hh | hh)
      · rw [(halts_eq_false_of_call hcall).1] at hh
        cases hh
      · rw [hdis hh] at hrun
        cases hrun
      · exact hhalt hh.2
    · rw [hlog]
      refine ⟨fun call hc => ?_, hr.authorised⟩
      rw [hcall] at hc
      cases hc
  · obtain ⟨-, hhalts, -, -, hstop⟩ := hs
    refine ⟨fun hrun => ?_, ?_⟩
    · rw [hstop] at hrun
      cases hrun
    · rw [hlog]
      refine ⟨fun call hc hk => ?_, hr.authorised⟩
      simp only [Event.halts, hc, Option.any_some, hk, Bool.false_eq_true] at hhalts
  · obtain ⟨hl, hdis, hhalts⟩ := hs.leases
    obtain ⟨command, now, works, call, hexec, hallow, hcall, hact, ha⟩ := hs
    obtain ⟨hrun, hid, hlease, hcmd⟩ := not_stopped_of_commandAllowed hallow
    obtain ⟨hlatest, hhalt⟩ := hr.running hrun
    refine ⟨fun _ => ?_, ?_⟩
    · rw [hlog, latestLease_of_not_leases _ hl, ha]
      refine ⟨hlatest, ?_⟩
      rintro (hh | hh | hh)
      · rw [hhalts] at hh
        cases hh
      · rw [hdis] at hh
        cases hh
      · exact hhalt hh.2
    · rw [hlog]
      refine ⟨fun call' hc _ => ?_, hr.authorised⟩
      obtain rfl : call = call' := Option.some.inj (hcall.symm.trans hc)
      exact ⟨command, now, works, r.adapter.leaseExpires, hexec, by rw [hlatest, hid], hlease,
        Clock.lt_ofUnixMilli_of_unixMilli_lt hcmd, hact, hhalt⟩

theorem runAdapter_safeRun (hasActuator : Bool) (operations : List Operation) :
    SafeRun (runAdapter hasActuator operations) := by
  refine List.foldlRecOn operations perform ?_ fun r hr operation _ => perform_safeRun hr operation
  exact ⟨fun h => Bool.noConfusion h, trivial⟩

/-- In every run of an adapter the vehicle moves only on the authority of the latest lease, for a
live command with axes in range, and never between a halt and the next lease. -/
theorem actuations_authorised (hasActuator : Bool) (operations : List Operation) :
    ActuationsAuthorised (runAdapter hasActuator operations).log :=
  (runAdapter_safeRun hasActuator operations).authorised

/-! ## The fail-safe -/

/-- The `stopped` flag of a running adapter hides no failed halt, and that of a stopped one is
either true to the vehicle or covers a halt that failed. -/
structure FlagAccounted (r : AdapterRun) : Prop where
  running : r.adapter.stopped = false → ¬ HaltFailedSinceLease r.log
  stopped : r.adapter.stopped = true → AtRest r.log ∨ HaltFailedSinceLease r.log

theorem atRest_cons_of_call {e : Event} {older : List Event} (h : e.call = none) :
    AtRest (e :: older) ↔ AtRest older := by
  obtain ⟨hh, ha⟩ := halts_eq_false_of_call h
  simp only [AtRest, hh, ha, Bool.false_eq_true, false_and, not_false_eq_true, true_and, false_or]

theorem haltFailedSinceLease_cons_of_call {e : Event} {older : List Event} (h : e.call = none)
    (hl : e.leases = false) : HaltFailedSinceLease (e :: older) ↔ HaltFailedSinceLease older := by
  obtain ⟨hh, -⟩ := halts_eq_false_of_call h
  simp only [HaltFailedSinceLease, hh, hl, Bool.false_eq_true, false_and, false_or, true_and]

theorem perform_flagAccounted {r : AdapterRun} (hr : FlagAccounted r) (operation : Operation) :
    FlagAccounted (perform r operation) := by
  obtain ⟨e, hlog, -, hstep⟩ := perform_cases r operation
  rcases hstep with hs | hs | hs | hs
  · have hl := hs.leases
    obtain ⟨sessionID, expiresAt, now, -, -, hcall, ha⟩ := hs
    refine ⟨fun _ => ?_, fun hstop => ?_⟩
    · rw [hlog]
      rintro (⟨hh, -⟩ | ⟨hh, -⟩)
      · rw [(halts_eq_false_of_call hcall).1] at hh
        cases hh
      · rw [hl] at hh
        cases hh
    · rw [ha] at hstop
      cases hstop
  · obtain ⟨hl, hcall, hstop, -, -, -⟩ := hs
    refine ⟨fun hrun => ?_, fun hrun => ?_⟩
    · rw [hlog, haltFailedSinceLease_cons_of_call hcall hl]
      exact hr.running (hstop ▸ hrun)
    · rw [hlog, haltFailedSinceLease_cons_of_call hcall hl, atRest_cons_of_call hcall]
      exact hr.stopped (hstop ▸ hrun)
  · obtain ⟨-, hhalts, -, -, hstop⟩ := hs
    refine ⟨fun hrun => ?_, fun _ => ?_⟩
    · rw [hstop] at hrun
      cases hrun
    · rw [hlog]
      cases hw : e.worked with
      | true => exact Or.inl (Or.inl ⟨hhalts, hw⟩)
      | false => exact Or.inr (Or.inl ⟨hhalts, hw⟩)
  · obtain ⟨-, -, hhalts⟩ := hs.leases
    obtain ⟨command, now, works, call, -, hallow, -, -, ha⟩ := hs
    obtain ⟨hrun, -⟩ := not_stopped_of_commandAllowed hallow
    refine ⟨fun _ => ?_, fun hstop => ?_⟩
    · rw [hlog]
      rintro (⟨hh, -⟩ | ⟨-, hh⟩)
      · rw [hhalts] at hh
        cases hh
      · exact hr.running hrun hh
    · rw [ha, hrun] at hstop
      cases hstop

theorem runAdapter_flagAccounted (hasActuator : Bool) (operations : List Operation) :
    FlagAccounted (runAdapter hasActuator operations) := by
  refine List.foldlRecOn operations perform ?_ fun r hr operation _ =>
    perform_flagAccounted hr operation
  exact ⟨fun h => Bool.noConfusion h, fun _ => Or.inl trivial⟩

/-- One due check: it may report no error exactly when it leaves the vehicle at rest, unless a
failed halt hides behind the flag. -/
theorem checkFailSafe_honest_iff {r : AdapterRun} (hr : FlagAccounted r) {now : ℤ} (works : Bool)
    (hdue : r.adapter.failSafeDue now = true) :
    ((r.adapter.checkFailSafe now works).err = none →
      AtRest (perform r (.checkFailSafe now works)).log) ↔
    ¬ (HaltFailedSinceLease r.log ∧ ¬ AtRest r.log) := by
  cases hstop : r.adapter.stopped with
  | true =>
      have hcheck : r.adapter.checkFailSafe now works = ⟨r.adapter, none, none⟩ := by
        simp only [Adapter.checkFailSafe, hstop, Bool.true_or, if_true]
      have hlog : AtRest (perform r (.checkFailSafe now works)).log ↔ AtRest r.log := by
        simp only [perform, hcheck]
        exact atRest_cons_of_call rfl
      rw [hcheck, hlog]
      constructor
      · exact fun h hbad => hbad.2 (h rfl)
      · intro h _
        rcases hr.stopped hstop with hrest | hfail
        · exact hrest
        · exact not_not.mp fun hn => h ⟨hfail, hn⟩
  | false =>
      have hcheck : r.adapter.checkFailSafe now works = r.adapter.stopLocked works := by
        simp only [Adapter.checkFailSafe, hstop, hdue, Bool.not_true, Bool.or_self,
          Bool.false_eq_true, if_false]
      refine ⟨fun _ hbad => hr.running hstop hbad.1, fun _ herr => ?_⟩
      cases works with
      | true =>
          simp only [perform, hcheck]
          exact Or.inl ⟨rfl, rfl⟩
      | false =>
          rw [hcheck] at herr
          cases herr

/-- Whenever a check that is due reports no error, the vehicle is at rest. -/
def FailSafeHolds (hasActuator : Bool) (operations : List Operation) : Prop :=
  ∀ before now works after, operations = before ++ .checkFailSafe now works :: after →
    (runAdapter hasActuator before).adapter.failSafeDue now = true →
    ((runAdapter hasActuator before).adapter.checkFailSafe now works).err = none →
    AtRest (runAdapter hasActuator (before ++ [.checkFailSafe now works])).log

/-- No check that is due comes while a halt has failed since the latest lease began and the
vehicle has not been halted since it last moved. -/
def NoHaltOutstanding (hasActuator : Bool) (operations : List Operation) : Prop :=
  ∀ before now works after, operations = before ++ .checkFailSafe now works :: after →
    (runAdapter hasActuator before).adapter.failSafeDue now = true →
    ¬ (HaltFailedSinceLease (runAdapter hasActuator before).log ∧
      ¬ AtRest (runAdapter hasActuator before).log)

/-- In every run the fail-safe can be trusted exactly when no due check comes behind a failed
halt under the current lease. -/
theorem failSafeHolds_iff (hasActuator : Bool) (operations : List Operation) :
    FailSafeHolds hasActuator operations ↔ NoHaltOutstanding hasActuator operations := by
  unfold FailSafeHolds NoHaltOutstanding
  refine forall_congr' fun before => forall_congr' fun now => forall_congr' fun works =>
    forall_congr' fun after => forall_congr' fun _ => forall_congr' fun hdue => ?_
  have hlast : runAdapter hasActuator (before ++ [.checkFailSafe now works]) =
      perform (runAdapter hasActuator before) (.checkFailSafe now works) := by
    simp only [runAdapter, List.foldl_append, List.foldl_cons, List.foldl_nil]
  rw [hlast]
  exact checkFailSafe_honest_iff (runAdapter_flagAccounted hasActuator before) works hdue

/-- A motion that succeeds, a fail-safe stop that fails, and a second check a second later. -/
def failedStopOperations : List Operation :=
  let motion : ControlCommandEnvelope := ⟨"command-01", "control-01", "device-01", 1, .motion, 0,
    30000, "idempotency-01", some (.motion (some ⟨1, 0, 0, 0⟩))⟩
  [.beginLease "control-01" (30 * Clock.second) 0,
    .execute (some motion) Clock.second true,
    .checkFailSafe (5 * Clock.second) false,
    .checkFailSafe (6 * Clock.second) true]

/-- The second check reports no error although the vehicle still moves. -/
theorem failedStop_not_retried : ¬ FailSafeHolds true failedStopOperations := by
  intro h
  have hrest := h (failedStopOperations.take 3) (6 * Clock.second) true [] rfl
    (by decide +kernel) (by decide +kernel)
  exact absurd hrest (by decide +kernel)

end GcsSaker.Control
