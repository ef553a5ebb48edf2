import GcsSaker.ControlPlaneSteps

/-!
# Lease exclusion and stale commands

A control session keeps the expiry that its creation computed before the policy round trip, while
the Redis lease starts to run when it is set. The lease therefore outlives the session, and of all
the sessions of a device at most one is live. A command is checked against the session's expiry
once, before the policy call: it can be published after that expiry, and never is if time does not
reach the expiry while the call is under way.
-/

namespace GcsSaker.Control

variable {ι : Type*}

/-- A device held by a control session until it expires. -/
structure Claim (ι : Type*) where
  deviceID : String
  app : ι
  sessionID : String
  expiresAt : ℤ

def ControlSessionState.claim (state : ControlSessionState) (app : ι) (sessionID : String) :
    Claim ι :=
  ⟨state.deviceID, app, sessionID, state.expiresAt⟩

def CreateCall.claim (c : CreateCall ι) : Claim ι :=
  ⟨c.request.deviceID, c.app, c.sessionID, c.expiresAt⟩

def SubmitCall.claim (c : SubmitCall ι) : Claim ι := c.state.claim c.app c.sessionID

/-- The claims of the stored sessions, of those about to be stored, and of the sessions whose
commands are under way. -/
inductive Plane.Claims (s : Plane ι) : Claim ι → Prop
  | session (app : ι) (sessionID : String) (state : ControlSessionState)
      (h : (s.sessions app).lookup sessionID = some state) : s.Claims (state.claim app sessionID)
  | creating (call : ℕ) (c : CreateCall ι) (route : InternalRoute)
      (h : s.creating.lookup call = some c) (hstage : c.stage = .acquired route) :
      s.Claims c.claim
  | submitting (call : ℕ) (c : SubmitCall ι) (h : s.submitting.lookup call = some c) :
      s.Claims c.claim

/-- The instance, session and expiry of the latest acquisition of a device. -/
def lastAcquired (deviceID : String) : List (PlaneEvent ι) → Option (ι × String × ℤ)
  | [] => none
  | .acquired app sessionID device expiresAt :: older =>
    if device = deviceID then some (app, sessionID, expiresAt) else lastAcquired deviceID older
  | .accepted _ _ :: older => lastAcquired deviceID older
  | .refused _ _ :: older => lastAcquired deviceID older
  | .published _ _ _ :: older => lastAcquired deviceID older

/-- At most one control session of a device is live, over all instances. -/
def Plane.LeaseExclusive (s : Plane ι) : Prop :=
  ∀ app app' sessionID sessionID' state state',
    (s.sessions app).lookup sessionID = some state →
    (s.sessions app').lookup sessionID' = some state' →
    state.deviceID = state'.deviceID → s.clock < state.expiresAt → s.clock < state'.expiresAt →
    app = app' ∧ sessionID = sessionID'

/-- Every command was handed to the MQTT client for the session that had last acquired its device,
by the instance of that session and before its expiry. -/
def Timely : List (PlaneEvent ι) → Prop
  | [] => True
  | .acquired _ _ _ _ :: older => Timely older
  | .accepted _ _ :: older => Timely older
  | .refused _ _ :: older => Timely older
  | .published app command now :: older =>
    (∃ expiresAt, lastAcquired command.deviceId older =
      some (app, command.controlSessionId, expiresAt) ∧ now < expiresAt) ∧ Timely older

/-- The clock does not reach the expiry of a session one of whose commands is past its expiry check
and has not been handed over yet. -/
def TickSpares (s : Plane ι) : Action ι → Prop
  | .tick now => ∀ e ∈ s.submitting.entries, e.2.stage ≠ .counted → now < e.2.state.expiresAt
  | _ => True

instance (s : Plane ι) : ∀ a : Action ι, Decidable (TickSpares s a)
  | .tick _ => inferInstanceAs (Decidable (∀ e ∈ s.submitting.entries, _))
  | .create .. => inferInstanceAs (Decidable True)
  | .authorizeCreate .. => inferInstanceAs (Decidable True)
  | .acquire .. => inferInstanceAs (Decidable True)
  | .storeSession .. => inferInstanceAs (Decidable True)
  | .submit .. => inferInstanceAs (Decidable True)
  | .proceed .. => inferInstanceAs (Decidable True)
  | .reserve .. => inferInstanceAs (Decidable True)
  | .acceptSequence .. => inferInstanceAs (Decidable True)
  | .handOver .. => inferInstanceAs (Decidable True)

/-- The invariant of exclusion: whoever claims a device at this time was the last to acquire it,
and the lease key is set until the claim ends. -/
structure Plane.ClaimsHeld (digest : String → String) (s : Plane ι) : Prop where
  started : ∀ call c, s.creating.lookup call = some c → c.startedAt ≤ s.clock
  held : ∀ k, s.Claims k → s.clock < k.expiresAt →
    lastAcquired k.deviceID s.log = some (k.app, k.sessionID, k.expiresAt) ∧
      ∃ entry, s.leases (leaseKey digest k.deviceID) = some entry ∧ k.expiresAt ≤ entry.expiresAt

namespace Plane

variable {digest : String → String} {s s' : Plane ι}

theorem claims_of_subset
    (hsessions : ∀ app sessionID state, (s'.sessions app).lookup sessionID = some state →
      s.Claims (state.claim app sessionID))
    (hcreating : ∀ call c route, s'.creating.lookup call = some c → c.stage = .acquired route →
      s.Claims c.claim)
    (hsubmitting : ∀ call c, s'.submitting.lookup call = some c → s.Claims c.claim) :
    ∀ k, s'.Claims k → s.Claims k := by
  rintro k (⟨app, sessionID, state, h⟩ | ⟨call, c, route, h, hstage⟩ | ⟨call, c, h⟩)
  · exact hsessions app sessionID state h
  · exact hcreating call c route h hstage
  · exact hsubmitting call c h

theorem ClaimsHeld.frame (h : s.ClaimsHeld digest) (hclock : s.clock ≤ s'.clock)
    (hleases : s'.leases = s.leases)
    (hlog : ∀ deviceID, lastAcquired deviceID s'.log = lastAcquired deviceID s.log)
    (hstarted : ∀ call c, s'.creating.lookup call = some c → c.startedAt ≤ s'.clock)
    (hclaims : ∀ k, s'.Claims k → s.Claims k) : s'.ClaimsHeld digest := by
  refine ⟨hstarted, fun k hk hlive => ?_⟩
  rw [hlog, hleases]
  exact h.held k (hclaims k hk) (hclock.trans_lt hlive)

theorem started_of_insert {call : ℕ} {c : CreateCall ι} (h : s.ClaimsHeld digest)
    (hs' : s'.creating = s.creating.insert call c) (hclock : s'.clock = s.clock)
    (hc : c.startedAt ≤ s.clock) :
    ∀ k c', s'.creating.lookup k = some c' → c'.startedAt ≤ s'.clock := by
  intro k c' hc'
  rw [hs'] at hc'
  rw [hclock]
  rcases GoMap.lookup_insert_cases hc' with ⟨-, rfl⟩ | ⟨-, hold⟩
  · exact hc
  · exact h.started k c' hold

theorem started_of_erase {call : ℕ} (h : s.ClaimsHeld digest)
    (hs' : s'.creating = s.creating.erase call) (hclock : s'.clock = s.clock) :
    ∀ k c', s'.creating.lookup k = some c' → c'.startedAt ≤ s'.clock := by
  intro k c' hc'
  rw [hs'] at hc'
  rw [hclock]
  exact h.started k c' (GoMap.lookup_of_lookup_erase hc')

theorem setNXLifetime_lease : setNXLifetime controlLeaseDuration = controlLeaseDuration := by
  decide

/-- An acquisition: the lease key was free, so nobody else claims the device at this time. -/
theorem acquired_claimsHeld (h : s.ClaimsHeld digest) {call : ℕ} {c : CreateCall ι}
    (hc : s.creating.lookup call = some c)
    (hfree : s.leases.live s.clock (leaseKey digest c.request.deviceID) = none)
    (hleases : s'.leases = s.leases.set (leaseKey digest c.request.deviceID) c.sessionID
      (s.clock + setNXLifetime controlLeaseDuration))
    (hlog : s'.log = .acquired c.app c.sessionID c.request.deviceID c.expiresAt :: s.log)
    (hclock : s'.clock = s.clock)
    (hstarted : ∀ call c, s'.creating.lookup call = some c → c.startedAt ≤ s'.clock)
    (hclaims : ∀ k, s'.Claims k → s.Claims k ∨ k = c.claim) : s'.ClaimsHeld digest := by
  refine ⟨hstarted, fun k hk hlive => ?_⟩
  rw [hclock] at hlive
  rw [hlog, hleases]
  rcases hclaims k hk with hold | rfl
  · obtain ⟨hlast, entry, hentry, hle⟩ := h.held k hold hlive
    have hkey : leaseKey digest k.deviceID ≠ leaseKey digest c.request.deviceID := by
      intro he
      have := ExpiringStore.live_eq_none_iff.mp hfree entry (he ▸ hentry)
      omega
    have hdevice : c.request.deviceID ≠ k.deviceID := fun he => hkey (by rw [he])
    exact ⟨by simp only [lastAcquired, if_neg hdevice, hlast], entry,
      by rw [ExpiringStore.set_of_ne _ _ _ hkey, hentry], hle⟩
  · have hstart := h.started call c hc
    refine ⟨by simp only [lastAcquired, CreateCall.claim, if_true], _,
      ExpiringStore.set_self _ _ _ _, ?_⟩
    simp only [setNXLifetime_lease, CreateCall.claim, CreateCall.expiresAt]
    omega

theorem initial_claimsHeld (digest : String → String) (clock : ℤ) :
    (initial clock : Plane ι).ClaimsHeld digest := by
  refine ⟨fun call c h => ?_, ?_⟩
  · simp only [initial, AList.lookup_empty, reduceCtorEq] at h
  · rintro k (⟨app, sessionID, state, h⟩ | ⟨call, c, route, h, hstage⟩ | ⟨call, c, h⟩)
    all_goals simp only [initial, AList.lookup_empty, reduceCtorEq] at h

theorem ClaimsHeld.leaseExclusive (h : s.ClaimsHeld digest) : s.LeaseExclusive := by
  intro app app' sessionID sessionID' state state' hs hs' hdevice hlive hlive'
  have hlast := (h.held _ (.session app sessionID state hs) hlive).1
  have hlast' := (h.held _ (.session app' sessionID' state' hs') hlive').1
  simp only [ControlSessionState.claim] at hlast hlast'
  rw [hdevice, hlast'] at hlast
  simp only [Option.some.injEq, Prod.mk.injEq] at hlast
  exact ⟨hlast.1.symm, hlast.2.1.symm⟩

/-- The invariant of timeliness: a call past its expiry check is still within its session. -/
structure InTime (digest : String → String) (s : Plane ι) : Prop where
  claims : s.ClaimsHeld digest
  consistent : s.Consistent
  pending : ∀ call c, s.submitting.lookup call = some c → c.stage ≠ .counted →
    s.clock < c.state.expiresAt
  timely : Timely s.log

/-- What is handed over in time was handed over for the latest acquisition of its device. -/
theorem InTime.published (h : s.InTime digest) {call : ℕ} {c : SubmitCall ι}
    {command : ControlCommandEnvelope} (hc : s.submitting.lookup call = some c)
    (hstage : c.stage = .accepted command) :
    Timely (.published c.app command s.clock :: s.log) := by
  have hlive := h.pending call c hc (by rw [hstage]; exact SubmitStage.noConfusion)
  obtain ⟨hsession, hdevice, -⟩ := h.consistent call c hc command (by rw [hstage]; rfl)
  obtain ⟨hlast, -⟩ := h.claims.held _ (.submitting call c hc) hlive
  refine ⟨⟨c.state.expiresAt, ?_, hlive⟩, h.timely⟩
  rw [hdevice, hsession]
  exact hlast

theorem initial_inTime (digest : String → String) (clock : ℤ) :
    (initial clock : Plane ι).InTime digest := by
  refine ⟨initial_claimsHeld digest clock, fun call c hc => ?_, fun call c hc => ?_, trivial⟩
  all_goals simp only [initial, AList.lookup_empty, reduceCtorEq] at hc

variable [DecidableEq ι]

/-- A submitted command claims what its session claims. -/
theorem step_claims_submitting {a : Action ι} (hstep : step digest s a = some s') {call : ℕ}
    {c : SubmitCall ι} (hc : s'.submitting.lookup call = some c) : s.Claims c.claim := by
  cases step_call hstep hc with
  | same c hold => exact .submitting call c hold
  | counted app sessionID state request hstate hseq => exact .session app sessionID state hstate
  | moved c stage hold hlive hconsistent => exact .submitting call c hold

theorem step_claimsHeld {a : Action ι} (h : s.ClaimsHeld digest)
    (hstep : step digest s a = some s') : s'.ClaimsHeld digest := by
  have hsubmit : ∀ call c, s'.submitting.lookup call = some c → s.Claims c.claim :=
    fun call c hc => step_claims_submitting hstep hc
  cases step_moves hstep with
  | ticked now hnow =>
      exact h.frame hnow rfl (fun _ => rfl) (fun call c hc => (h.started call c hc).trans hnow)
        (claims_of_subset (fun app sessionID state hk => .session app sessionID state hk)
          (fun call c route hk hstage => .creating call c route hk hstage) hsubmit)
  | started app call request sessionID hfree =>
      refine h.frame le_rfl rfl (fun _ => rfl) (started_of_insert h rfl rfl le_rfl)
        (claims_of_subset (fun app sessionID state hk => .session app sessionID state hk)
          (fun call c route hk hstage => ?_) hsubmit)
      rcases GoMap.lookup_insert_cases hk with ⟨-, rfl⟩ | ⟨-, hold⟩
      · cases hstage
      · exact .creating call c route hold hstage
  | authorized call c route hc =>
      refine h.frame le_rfl rfl (fun _ => rfl) (started_of_insert h rfl rfl (h.started call c hc))
        (claims_of_subset (fun app sessionID state hk => .session app sessionID state hk)
          (fun call c route hk hstage => ?_) hsubmit)
      rcases GoMap.lookup_insert_cases hk with ⟨-, rfl⟩ | ⟨-, hold⟩
      · cases hstage
      · exact .creating call c route hold hstage
  | createEnded a call =>
      refine h.frame le_rfl rfl (fun _ => rfl) (started_of_erase h rfl rfl)
        (claims_of_subset (fun app sessionID state hk => .session app sessionID state hk)
          (fun call c route hk hstage => ?_) hsubmit)
      exact .creating call c route (GoMap.lookup_of_lookup_erase hk) hstage
  | acquired call reply c route hc hstage hfree t hs' s' ht =>
      subst hs'
      rcases ht with rfl | rfl
      · refine acquired_claimsHeld h hc hfree rfl rfl rfl
          (started_of_insert h rfl rfl (h.started call c hc)) ?_
        rintro k (⟨app, sessionID, state, hk⟩ | ⟨call', c', route', hk, hstage'⟩ | ⟨call', c', hk⟩)
        · exact Or.inl (.session app sessionID state hk)
        · rcases GoMap.lookup_insert_cases hk with ⟨-, rfl⟩ | ⟨-, hold⟩
          · exact Or.inr rfl
          · exact Or.inl (.creating call' c' route' hold hstage')
        · exact Or.inl (hsubmit call' c' hk)
      · refine acquired_claimsHeld h hc hfree rfl rfl rfl (started_of_erase h rfl rfl) ?_
        rintro k (⟨app, sessionID, state, hk⟩ | ⟨call', c', route', hk, hstage'⟩ | ⟨call', c', hk⟩)
        · exact Or.inl (.session app sessionID state hk)
        · exact Or.inl (.creating call' c' route' (GoMap.lookup_of_lookup_erase hk) hstage')
        · exact Or.inl (hsubmit call' c' hk)
  | stored call c route hc hstage =>
      refine h.frame le_rfl rfl (fun _ => rfl) (started_of_erase h rfl rfl)
        (claims_of_subset (fun app sessionID state hk => ?_)
          (fun call' c' route' hk hstage' => ?_) hsubmit)
      · rcases lookup_putSession hk with hold | ⟨rfl, rfl, rfl⟩
        · exact .session app sessionID state hold
        · exact .creating call c route hc hstage
      · exact .creating call' c' route' (GoMap.lookup_of_lookup_erase hk) hstage'
  | counted app call sessionID request state hfree hstate hseq =>
      refine h.frame le_rfl rfl (fun _ => rfl) h.started
        (claims_of_subset (fun app' sessionID' state' hk => ?_)
          (fun call' c' route' hk hstage => .creating call' c' route' hk hstage) hsubmit)
      rcases lookup_countCommand hk with ⟨hold, -⟩ | ⟨rfl, rfl, rfl⟩
      · exact .session app' sessionID' state' hold
      · exact .session app' sessionID' state hstate
  | accepted call reply c command milliseconds hc hstage hseq t hs' s' ht =>
      subst hs'
      rcases ht with rfl | rfl
      all_goals
        exact h.frame le_rfl rfl (fun _ => rfl) h.started
          (claims_of_subset (fun app sessionID state hk => .session app sessionID state hk)
            (fun call c route hk hstage => .creating call c route hk hstage) hsubmit)
  | refused call reply c command milliseconds hc hstage hseq log hlog =>
      refine h.frame le_rfl rfl (fun _ => ?_) h.started
        (claims_of_subset (fun app sessionID state hk => .session app sessionID state hk)
          (fun call c route hk hstage => .creating call c route hk hstage) hsubmit)
      rcases hlog with rfl | rfl <;> rfl
  | _ =>
      exact h.frame le_rfl rfl (fun _ => rfl) h.started
        (claims_of_subset (fun app sessionID state hk => .session app sessionID state hk)
          (fun call c route hk hstage => .creating call c route hk hstage) hsubmit)

/-- Lease exclusion, at every instant of every interleaving over any number of instances. -/
theorem run_leaseExclusive {digest : String → String} {clock : ℤ} {acts : List (Action ι)}
    {s : Plane ι} (hrun : Runs.run (step digest) (initial clock) acts = some s) :
    s.LeaseExclusive :=
  (Runs.run_invariant_of_step (fun _ _ _ h => step_claimsHeld h)
    (initial_claimsHeld digest clock) hrun).leaseExclusive

/-- A device acquired by one instance and, when that lease is over, by another. -/
theorem run_leaseExclusive_twice : ∃ s, Runs.run (step id) (initial 0)
    (sampleSession true 0 "cs_00000001" ++ [.tick controlLeaseDuration] ++
      sampleSession false 0 "cs_00000002") = some s ∧ s.LeaseExclusive := by
  obtain ⟨s, hs⟩ := Option.isSome_iff_exists.mp (show (Runs.run (step id) (initial 0)
    (sampleSession true 0 "cs_00000001" ++ [.tick controlLeaseDuration] ++
      sampleSession false 0 "cs_00000002")).isSome = true by decide +kernel)
  exact ⟨s, hs, run_leaseExclusive hs⟩

/-! ## Stale commands -/

theorem step_inTime {a : Action ι} (h : s.InTime digest) (hspare : TickSpares s a)
    (hstep : step digest s a = some s') : s'.InTime digest := by
  refine ⟨step_claimsHeld h.claims hstep, step_consistent h.consistent hstep,
    fun call c hc hstage => ?_, ?_⟩
  · rcases step_clock hstep with ⟨now, rfl, rfl⟩ | hclock
    · exact hspare ⟨call, c⟩ (AList.mem_lookup_iff.mp hc) hstage
    · rw [hclock]
      cases step_call hstep hc with
      | same c hold => exact h.pending call c hold hstage
      | counted app sessionID state request hstate hseq => exact (hstage rfl).elim
      | moved c stage hold hlive hconsistent =>
          by_cases hcounted : c.stage = .counted
          · exact hlive hcounted
          · exact h.pending call c hold hcounted
  · rcases step_log hstep with hlog | ⟨_, _, _, _, hlog⟩ | ⟨_, _, hlog⟩ | ⟨_, _, hlog⟩ |
      ⟨call, c, command, hc, hstage, hlog⟩
    all_goals rw [hlog]
    · exact h.timely
    · exact h.timely
    · exact h.timely
    · exact h.timely
    · exact h.published hc hstage

/-- If time never reaches the expiry of a session while one of its commands is between its expiry
check and the MQTT client, no command is stale. -/
theorem run_timely {digest : String → String} {clock : ℤ} {acts : List (Action ι)} {s : Plane ι}
    (hspare : Runs.Along (step digest) TickSpares (initial clock) acts)
    (hrun : Runs.run (step digest) (initial clock) acts = some s) : Timely s.log :=
  (Runs.run_invariant (fun _ _ _ h => step_inTime h) (initial_inTime digest clock) hspare
    hrun).timely

/-- A stop command that is a second under way. -/
def promptRun : List (Action Bool) :=
  sampleSession true 0 "cs_00000001" ++ sampleSubmit true 0 "cs_00000001" "STOP" 1 ++
    [.tick Clock.second] ++ sampleAccept 0 ++ [sampleHandOver 0]

theorem run_timely_prompt : ∃ s, Runs.run (step id) (initial 0) promptRun = some s ∧
    Timely s.log := by
  obtain ⟨s, hs⟩ := Option.isSome_iff_exists.mp
    (show (Runs.run (step id) (initial 0) promptRun).isSome = true by decide +kernel)
  exact ⟨s, hs, run_timely (by decide +kernel) hs⟩

/-- A motion command submitted a second before its session expires, whose policy call takes two
seconds, while another instance acquires the device. -/
def staleRun : List (Action Bool) :=
  sampleSession true 0 "cs_00000001" ++ [.tick (29 * Clock.second)] ++
    sampleSubmit true 0 "cs_00000001" "MOTION" 1 ++ [.tick (31 * Clock.second)] ++
    sampleSession false 0 "cs_00000002" ++ sampleAccept 0 ++ [sampleHandOver 0]

instance Timely.decidable : DecidablePred (Timely (ι := Bool))
  | [] => inferInstanceAs (Decidable True)
  | .acquired _ _ _ _ :: older => Timely.decidable older
  | .accepted _ _ :: older => Timely.decidable older
  | .refused _ _ :: older => Timely.decidable older
  | .published app command now :: older =>
      have := Timely.decidable older
      match h : lastAcquired command.deviceId older with
      | none => isFalse fun ht => by
          obtain ⟨_, hl, -⟩ := ht.1
          rw [h] at hl
          cases hl
      | some (app', sessionID, expiresAt) =>
          decidable_of_iff ((app' = app ∧ sessionID = command.controlSessionId ∧ now < expiresAt) ∧
            Timely older) (by
              simp only [Timely, h, Option.some.injEq, Prod.mk.injEq]
              refine and_congr_left' ⟨?_, ?_⟩
              · rintro ⟨rfl, rfl, hn⟩
                exact ⟨expiresAt, ⟨rfl, rfl, rfl⟩, hn⟩
              · rintro ⟨_, ⟨rfl, rfl, rfl⟩, hn⟩
                exact ⟨rfl, rfl, hn⟩)

theorem staleRun_not_timely : ∃ s, Runs.run (step id) (initial 0) staleRun = some s ∧
    ¬ Timely s.log := by
  refine ⟨(Runs.run (step id) (initial 0) staleRun).get (by decide +kernel), by simp, ?_⟩
  decide +kernel

end Plane
end GcsSaker.Control
