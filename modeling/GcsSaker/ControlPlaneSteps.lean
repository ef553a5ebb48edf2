import GcsSaker.ControlPlane

/-!
# What one step of the control plane can do

`Moves` lists the outcomes of a step, each with the conditions under which it comes about. Every
invariant of the control plane is proved by cases on it, so that no proof looks into `step` again.
-/

namespace GcsSaker.Control

variable {ι : Type*} [DecidableEq ι]

/-- The step `s → s'` taken by an action, told by what became of the call it belongs to. -/
inductive Moves (digest : String → String) (s : Plane ι) : Action ι → Plane ι → Prop
  | ticked (now : ℤ) (hnow : s.clock ≤ now) : Moves digest s (.tick now) { s with clock := now }
  | createRefused (app : ι) (call : ℕ) (request : SessionRequest) :
      Moves digest s (.create app call request none) s
  | started (app : ι) (call : ℕ) (request : SessionRequest) (sessionID : String)
      (hfree : s.creating.lookup call = none) :
      Moves digest s (.create app call request (some sessionID)) { s with
        creating := s.creating.insert call ⟨app, request, s.clock, sessionID, .resolving⟩
        issued := sessionID :: s.issued }
  | authorized (call : ℕ) (c : CreateCall ι) (route : InternalRoute)
      (hc : s.creating.lookup call = some c) :
      Moves digest s (.authorizeCreate call (some route) true)
        (s.moveCreate call c (.authorized route))
  | createEnded (a : Action ι) (call : ℕ) : Moves digest s a (s.endCreate call)
  | acquired (call : ℕ) (reply : Reply) (c : CreateCall ι) (route : InternalRoute)
      (hc : s.creating.lookup call = some c) (hstage : c.stage = .authorized route)
      (hfree : s.leases.live s.clock (leaseKey digest c.request.deviceID) = none)
      (s' : Plane ι)
      (hs' : s' = { s with
        leases := s.leases.set (leaseKey digest c.request.deviceID) c.sessionID
          (s.clock + setNXLifetime controlLeaseDuration)
        log := .acquired c.app c.sessionID c.request.deviceID c.expiresAt :: s.log })
      (t : Plane ι) (ht : t = s'.moveCreate call c (.acquired route) ∨ t = s'.endCreate call) :
      Moves digest s (.acquire call reply) t
  | stored (call : ℕ) (c : CreateCall ι) (route : InternalRoute)
      (hc : s.creating.lookup call = some c) (hstage : c.stage = .acquired route) :
      Moves digest s (.storeSession call) ((s.putSession c route).endCreate call)
  | submitRefused (app : ι) (call : ℕ) (sessionID : String) (request : CommandRequest) :
      Moves digest s (.submit app call sessionID request) s
  | counted (app : ι) (call : ℕ) (sessionID : String) (request : CommandRequest)
      (state : ControlSessionState) (hfree : s.submitting.lookup call = none)
      (hstate : (s.sessions app).lookup sessionID = some state)
      (hseq : request.sequence = state.nextSequence) :
      Moves digest s (.submit app call sessionID request)
        (s.countCommand app call sessionID state request)
  | proceeded (call : ℕ) (answer : Answer) (c : SubmitCall ι) (stage : SubmitStage)
      (hc : s.submitting.lookup call = some c) (hnext : c.next s.clock answer = some (some stage)) :
      Moves digest s (.proceed call answer) (s.moveSubmit call c stage)
  | returned (call : ℕ) (answer : Answer) (c : SubmitCall ι)
      (hc : s.submitting.lookup call = some c) (hnext : c.next s.clock answer = some none) :
      Moves digest s (.proceed call answer) (s.endSubmit call)
  | reserved (call : ℕ) (reply : Reply) (c : SubmitCall ι) (command : ControlCommandEnvelope)
      (ttl : ℤ) (hc : s.submitting.lookup call = some c) (hstage : c.stage = .reserving command ttl)
      (reservations : ExpiringStore ℤ String Unit) :
      Moves digest s (.reserve call reply)
        (({ s with reservations := reservations }).moveSubmit call c (.reserved command))
  | notReserved (call : ℕ) (reply : Reply) (c : SubmitCall ι) (command : ControlCommandEnvelope)
      (ttl : ℤ) (hc : s.submitting.lookup call = some c) (hstage : c.stage = .reserving command ttl)
      (reservations : ExpiringStore ℤ String Unit)
      (hwhy : reply ≠ .delivered ∨
        s.reservations.live s.clock (commandLedgerKey digest command.idempotencyId) ≠ none) :
      Moves digest s (.reserve call reply)
        (({ s with reservations := reservations }).endSubmit call)
  | accepted (call : ℕ) (reply : Reply) (c : SubmitCall ι) (command : ControlCommandEnvelope)
      (milliseconds : ℤ) (hc : s.submitting.lookup call = some c)
      (hstage : c.stage = .accepting command milliseconds)
      (hseq : command.sequence =
        ((s.sequences.live s.clock (sequenceKey digest command.controlSessionId)).map
          (·.value)).getD 0 + 1)
      (s' : Plane ι)
      (hs' : s' = { s with
        sequences := s.sequences.set (sequenceKey digest command.controlSessionId)
          command.sequence (s.clock + milliseconds * Clock.millisecond)
        log := .accepted command.controlSessionId command.sequence :: s.log })
      (t : Plane ι) (ht : t = s'.moveSubmit call c (.accepted command) ∨ t = s'.endSubmit call) :
      Moves digest s (.acceptSequence call reply) t
  | refused (call : ℕ) (reply : Reply) (c : SubmitCall ι) (command : ControlCommandEnvelope)
      (milliseconds : ℤ) (hc : s.submitting.lookup call = some c)
      (hstage : c.stage = .accepting command milliseconds)
      (hseq : command.sequence ≠
        ((s.sequences.live s.clock (sequenceKey digest command.controlSessionId)).map
          (·.value)).getD 0 + 1)
      (log : List (PlaneEvent ι))
      (hlog : log = s.log ∨
        log = .refused command.controlSessionId command.sequence :: s.log) :
      Moves digest s (.acceptSequence call reply) (({ s with log := log }).endSubmit call)
  | notAccepted (call : ℕ) (reply : Reply) (c : SubmitCall ι) (command : ControlCommandEnvelope)
      (milliseconds : ℤ) (hc : s.submitting.lookup call = some c)
      (hstage : c.stage = .accepting command milliseconds)
      (hwhy : reply = .lostBefore ∨ milliseconds ≤ 0) :
      Moves digest s (.acceptSequence call reply) (s.endSubmit call)
  | handedOver (call : ℕ) (wire : Option (List UInt8)) (connected : Bool) (c : SubmitCall ι)
      (command : ControlCommandEnvelope) (hc : s.submitting.lookup call = some c)
      (hstage : c.stage = .accepted command) :
      Moves digest s (.handOver call wire connected)
        (({ s with log := .published c.app command s.clock :: s.log }).endSubmit call)
  | dropped (call : ℕ) (wire : Option (List UInt8)) (connected : Bool) (c : SubmitCall ι)
      (command : ControlCommandEnvelope) (hc : s.submitting.lookup call = some c)
      (hstage : c.stage = .accepted command) :
      Moves digest s (.handOver call wire connected) (s.endSubmit call)

namespace Plane

variable {digest : String → String} {s s' : Plane ι}

theorem leaseTTL_ok {deviceID sessionID : String} {startedAt ttl : ℤ}
    (h : leaseTTL deviceID sessionID (startedAt + controlLeaseDuration) startedAt = .ok ttl) :
    ttl = controlLeaseDuration := by
  simp only [leaseTTL] at h
  split_ifs at h
  rw [Except.ok.injEq] at h
  omega

theorem acquireLease_moves {call : ℕ} {reply : Reply} {c : CreateCall ι} {route : InternalRoute}
    (hc : s.creating.lookup call = some c) (hstage : c.stage = .authorized route) {ttl : ℤ}
    (httl : ttl = controlLeaseDuration) :
    Moves digest s (.acquire call reply) (s.acquireLease digest call c route ttl reply) := by
  subst httl
  rcases hset : s.leases.setNX s.clock (leaseKey digest c.request.deviceID) c.sessionID
    (s.clock + setNXLifetime controlLeaseDuration) with ⟨leases, won⟩
  cases won with
  | true =>
      obtain ⟨hfree, rfl⟩ := ExpiringStore.setNX_acquired hset
      simp only [acquireLease, hset, if_true]
      split_ifs with hreply
      · exact .acquired call reply c route hc hstage hfree _ rfl _ (Or.inl rfl)
      · exact .acquired call reply c route hc hstage hfree _ rfl _ (Or.inr rfl)
  | false =>
      simp only [acquireLease, hset, Bool.false_eq_true, if_false]
      exact .createEnded _ call

theorem reserveID_moves {call : ℕ} {reply : Reply} {c : SubmitCall ι}
    {command : ControlCommandEnvelope} {ttl : ℤ} (hc : s.submitting.lookup call = some c)
    (hstage : c.stage = .reserving command ttl) :
    Moves digest s (.reserve call reply) (s.reserveID digest call c command ttl reply) := by
  rcases hset : s.reservations.setNX s.clock (commandLedgerKey digest command.idempotencyId) ()
    (s.clock + setNXLifetime ttl) with ⟨reservations, won⟩
  simp only [reserveID, hset]
  split_ifs with h
  · exact .reserved call reply c command ttl hc hstage reservations
  · refine .notReserved call reply c command ttl hc hstage reservations ?_
    by_cases hreply : reply = .delivered
    · have hwon : won = false := by
        simpa only [hreply, and_true, Bool.not_eq_true] using h
      refine Or.inr fun hlive => ?_
      simp only [ExpiringStore.setNX, hlive, Prod.mk.injEq, hwon, Bool.true_eq_false,
        and_false] at hset
    · exact Or.inl hreply

theorem acceptNumber_moves {call : ℕ} {reply : Reply} {c : SubmitCall ι}
    {command : ControlCommandEnvelope} {milliseconds : ℤ} (hc : s.submitting.lookup call = some c)
    (hstage : c.stage = .accepting command milliseconds) :
    Moves digest s (.acceptSequence call reply)
      (s.acceptNumber digest call c command milliseconds reply) := by
  simp only [acceptNumber, runSequenceScript]
  cases hscript : acceptSequenceScript ((s.sequences.live s.clock
    (sequenceKey digest command.controlSessionId)).map (·.value)) command.sequence with
  | none =>
      have hseq : command.sequence ≠ ((s.sequences.live s.clock
          (sequenceKey digest command.controlSessionId)).map (·.value)).getD 0 + 1 := by
        intro he
        rw [acceptSequenceScript, if_pos he] at hscript
        cases hscript
      simp only
      split_ifs with hreply
      · exact .refused call reply c command milliseconds hc hstage hseq _ (Or.inr rfl)
      · exact .refused call reply c command milliseconds hc hstage hseq s.log (Or.inl rfl)
  | some next =>
      obtain ⟨rfl, hseq⟩ := acceptSequenceScript_eq_some_iff.mp hscript
      by_cases hms : milliseconds ≤ 0
      · simp only [if_pos hms]
        exact .notAccepted call reply c command milliseconds hc hstage (Or.inr hms)
      · simp only [if_neg hms]
        split_ifs with hreply
        · exact .accepted call reply c command milliseconds hc hstage hseq _ rfl _ (Or.inl rfl)
        · exact .accepted call reply c command milliseconds hc hstage hseq _ rfl _ (Or.inr rfl)

theorem authorizeCreate_moves {call : ℕ} {route : Option InternalRoute} {allowed : Bool}
    (h : step digest s (.authorizeCreate call route allowed) = some s') :
    Moves digest s (.authorizeCreate call route allowed) s' := by
  cases hc : s.creating.lookup call with
  | none => simp only [step, hc, reduceCtorEq] at h
  | some c =>
      cases hstage : c.stage with
      | resolving =>
          rcases route with _ | route
          · simp only [step, hc, hstage, Option.some.injEq] at h
            exact h ▸ .createEnded _ call
          · cases allowed with
            | true =>
                simp only [step, hc, hstage, Option.some.injEq] at h
                exact h ▸ .authorized call c route hc
            | false =>
                simp only [step, hc, hstage, Option.some.injEq] at h
                exact h ▸ .createEnded _ call
      | authorized r => simp only [step, hc, hstage, reduceCtorEq] at h
      | acquired r => simp only [step, hc, hstage, reduceCtorEq] at h

theorem acquire_moves {call : ℕ} {reply : Reply}
    (h : step digest s (.acquire call reply) = some s') :
    Moves digest s (.acquire call reply) s' := by
  cases hc : s.creating.lookup call with
  | none => simp only [step, hc, reduceCtorEq] at h
  | some c =>
      cases hstage : c.stage with
      | resolving => simp only [step, hc, hstage, reduceCtorEq] at h
      | acquired route => simp only [step, hc, hstage, reduceCtorEq] at h
      | authorized route =>
          simp only [step, hc, hstage] at h
          cases httl : leaseTTL c.request.deviceID c.sessionID c.expiresAt c.startedAt with
          | error err =>
              simp only [httl, Option.some.injEq] at h
              exact h ▸ .createEnded _ call
          | ok ttl =>
              simp only [httl] at h
              split_ifs at h with hreply
              · exact Option.some.inj h ▸ .createEnded _ call
              · exact Option.some.inj h ▸ acquireLease_moves hc hstage (leaseTTL_ok httl)

theorem submit_moves {app : ι} {call : ℕ} {sessionID : String} {request : CommandRequest}
    (h : step digest s (.submit app call sessionID request) = some s') :
    Moves digest s (.submit app call sessionID request) s' := by
  cases hfree : s.submitting.lookup call with
  | some c => simp only [step, hfree, reduceCtorEq] at h
  | none =>
      cases hstate : (s.sessions app).lookup sessionID with
      | none =>
          simp only [step, hfree, hstate, Option.some.injEq] at h
          exact h ▸ .submitRefused app call sessionID request
      | some state =>
          simp only [step, hfree, hstate] at h
          split_ifs at h with hseq
          · exact Option.some.inj h ▸
              .counted app call sessionID request state hfree hstate hseq
          · exact Option.some.inj h ▸ .submitRefused app call sessionID request

theorem proceed_moves {call : ℕ} {answer : Answer}
    (h : step digest s (.proceed call answer) = some s') :
    Moves digest s (.proceed call answer) s' := by
  cases hc : s.submitting.lookup call with
  | none => simp only [step, hc, reduceCtorEq] at h
  | some c =>
      simp only [step, hc, Option.map_eq_some_iff] at h
      obtain ⟨outcome, hnext, rfl⟩ := h
      cases outcome with
      | some stage => exact .proceeded call answer c stage hc hnext
      | none => exact .returned call answer c hc hnext

theorem reserve_moves {call : ℕ} {reply : Reply}
    (h : step digest s (.reserve call reply) = some s') :
    Moves digest s (.reserve call reply) s' := by
  cases hc : s.submitting.lookup call with
  | none => simp only [step, hc, reduceCtorEq] at h
  | some c =>
      simp only [step, hc] at h
      split at h
      · rename_i command ttl hstage
        split_ifs at h with hreply
        · have hlost : reply ≠ .delivered := by
            rw [hreply]
            exact Reply.noConfusion
          exact Option.some.inj h ▸ .notReserved call reply c command ttl hc hstage s.reservations
            (Or.inl hlost)
        · exact Option.some.inj h ▸ reserveID_moves hc hstage
      · cases h

theorem acceptSequence_moves {call : ℕ} {reply : Reply}
    (h : step digest s (.acceptSequence call reply) = some s') :
    Moves digest s (.acceptSequence call reply) s' := by
  cases hc : s.submitting.lookup call with
  | none => simp only [step, hc, reduceCtorEq] at h
  | some c =>
      simp only [step, hc] at h
      split at h
      · rename_i command milliseconds hstage
        split_ifs at h with hreply
        · exact Option.some.inj h ▸
            .notAccepted call reply c command milliseconds hc hstage (Or.inl hreply)
        · exact Option.some.inj h ▸ acceptNumber_moves hc hstage
      · cases h

theorem handOver_moves {call : ℕ} {wire : Option (List UInt8)} {connected : Bool}
    (h : step digest s (.handOver call wire connected) = some s') :
    Moves digest s (.handOver call wire connected) s' := by
  cases hc : s.submitting.lookup call with
  | none => simp only [step, hc, reduceCtorEq] at h
  | some c =>
      simp only [step, hc] at h
      split at h
      · rename_i command hstage
        split_ifs at h with hsent
        · exact Option.some.inj h ▸ .handedOver call wire connected c command hc hstage
        · exact Option.some.inj h ▸ .dropped call wire connected c command hc hstage
      · cases h

/-- The inversion of `step`. -/
theorem step_moves {a : Action ι} (h : step digest s a = some s') : Moves digest s a s' := by
  cases a with
  | tick now =>
      simp only [step] at h
      split_ifs at h with hnow
      exact Option.some.inj h ▸ .ticked now hnow
  | create app call request newID =>
      cases hfree : s.creating.lookup call with
      | some c => simp only [step, hfree, reduceCtorEq] at h
      | none =>
          cases newID with
          | none =>
              simp only [step, hfree, Option.some.injEq] at h
              exact h ▸ .createRefused app call request
          | some sessionID =>
              simp only [step, hfree, Option.some.injEq] at h
              exact h ▸ .started app call request sessionID hfree
  | authorizeCreate call route allowed => exact authorizeCreate_moves h
  | acquire call reply => exact acquire_moves h
  | storeSession call =>
      cases hc : s.creating.lookup call with
      | none => simp only [step, hc, reduceCtorEq] at h
      | some c =>
          simp only [step, hc] at h
          split at h
          · rename_i route hstage
            exact Option.some.inj h ▸ .stored call c route hc hstage
          · cases h
  | submit app call sessionID request => exact submit_moves h
  | proceed call answer => exact proceed_moves h
  | reserve call reply => exact reserve_moves h
  | acceptSequence call reply => exact acceptSequence_moves h
  | handOver call wire connected => exact handOver_moves h

/-! ## The session maps after a critical section -/

theorem lookup_pruneExpiredLocked {now : ℤ} {sessions : AList fun _ : String => ControlSessionState}
    {sessionID : String} {state : ControlSessionState}
    (h : (pruneExpiredLocked now sessions).lookup sessionID = some state) :
    sessions.lookup sessionID = some state := GoMap.lookup_of_lookup_sweep h

/-- A session found after the last critical section of `CreateSession` was there before, or is the
new one. -/
theorem lookup_putSession {c : CreateCall ι} {route : InternalRoute} {app : ι} {sessionID : String}
    {state : ControlSessionState}
    (h : ((s.putSession c route).sessions app).lookup sessionID = some state) :
    (s.sessions app).lookup sessionID = some state ∨
      (app = c.app ∧ sessionID = c.sessionID ∧
        state = newSessionState c.request route c.startedAt) := by
  by_cases happ : app = c.app
  · subst happ
    simp only [putSession, Function.update_self] at h
    split_ifs at h
    · exact Or.inl (lookup_pruneExpiredLocked h)
    · rcases GoMap.lookup_insert_cases h with ⟨hid, hst⟩ | ⟨-, hold⟩
      · exact Or.inr ⟨rfl, hid, hst⟩
      · exact Or.inl (lookup_pruneExpiredLocked hold)
  · simp only [putSession, Function.update_of_ne happ] at h
    exact Or.inl h

/-- A session found after the critical section of `SubmitCommand` was there before, or is the one
whose number has moved on. -/
theorem lookup_countCommand {app app' : ι} {call : ℕ} {sessionID sessionID' : String}
    {state state' : ControlSessionState} {request : CommandRequest}
    (h : ((s.countCommand app call sessionID state request).sessions app').lookup sessionID' =
      some state') :
    (s.sessions app').lookup sessionID' = some state' ∧ ¬ (app' = app ∧ sessionID' = sessionID) ∨
      (app' = app ∧ sessionID' = sessionID ∧
        state' = { state with nextSequence := state.nextSequence + 1 }) := by
  by_cases happ : app' = app
  · subst happ
    simp only [countCommand, Function.update_self] at h
    rcases GoMap.lookup_insert_cases h with ⟨hid, hst⟩ | ⟨hid, hold⟩
    · exact Or.inr ⟨rfl, hid, hst⟩
    · exact Or.inl ⟨hold, fun hk => hid hk.2⟩
  · simp only [countCommand, Function.update_of_ne happ] at h
    exact Or.inl ⟨h, fun hk => happ hk.1⟩

end Plane

/-! ## The commands of the calls in progress -/

section Consistency

variable {ι : Type*}

/-- The command of a call, once built, names the session and the device of the call and carries
its number. -/
def SubmitCall.Consistent (c : SubmitCall ι) : Prop :=
  ∀ command ∈ c.stage.command?, command.controlSessionId = c.sessionID ∧
    command.deviceId = c.state.deviceID ∧ command.sequence = c.request.sequence

theorem SubmitCall.Consistent.move {c : SubmitCall ι} (h : c.Consistent) {stage : SubmitStage}
    (hstage : stage.command? = c.stage.command?) :
    SubmitCall.Consistent { c with stage := stage } := by
  intro command hcommand
  change command ∈ stage.command? at hcommand
  rw [hstage] at hcommand
  exact h command hcommand

/-- A call that goes on has not just been counted, and before the first policy call its session
was checked to be live. -/
theorem SubmitCall.next_some {c : SubmitCall ι} {now : ℤ} {answer : Answer} {stage : SubmitStage}
    (h : c.next now answer = some (some stage)) :
    (c.stage = .counted → now < c.state.expiresAt) ∧ stage ≠ .counted ∧
      c.stage.isAccepted = false ∧ stage.isAccepted = false ∧
      (c.Consistent → SubmitCall.Consistent { c with stage := stage }) := by
  have hnone : ∀ stage : SubmitStage, stage.command? = none →
      SubmitCall.Consistent { c with stage := stage } := by
    intro stage hstage command hcommand
    change command ∈ stage.command? at hcommand
    rw [hstage] at hcommand
    cases hcommand
  rcases hstage : c.stage with _ | _ | _ | command | command | ⟨command, ttl⟩ | command |
    ⟨command, ms⟩ | command
  all_goals
    rcases answer with _ | allowed | id
    all_goals simp only [SubmitCall.next, hstage, Option.some.injEq, reduceCtorEq] at h
  · split_ifs at h with hlive
    cases h
    exact ⟨fun _ => hlive, by simp, rfl, rfl, fun _ => hnone _ rfl⟩
  · split_ifs at h
    cases h
    exact ⟨by simp, by simp, rfl, rfl, fun _ => hnone _ rfl⟩
  · rcases id with _ | commandID
    · simp only [Option.some.injEq, reduceCtorEq] at h
    · simp only [Option.some.injEq] at h
      split at h
      · cases h
      · rename_i command hbuild
        cases h
        obtain ⟨-, rfl⟩ := buildControlCommand_ok hbuild
        refine ⟨by simp, by simp, rfl, rfl, fun _ command hcommand => ?_⟩
        obtain rfl := Option.mem_some.mp hcommand
        exact ⟨rfl, rfl, rfl⟩
  all_goals
    split at h
    · cases h
    · cases h
      exact ⟨by simp, by simp, rfl, rfl, fun hc => hc.move (by rw [hstage]; rfl)⟩

def Plane.Consistent (s : Plane ι) : Prop :=
  ∀ call c, s.submitting.lookup call = some c → c.Consistent

/-- What a call in progress after a step can be: the call it was, a call that has just taken its
number, or a call that has gone on. -/
inductive CallMoves (s : Plane ι) (call : ℕ) : SubmitCall ι → Prop
  | same (c : SubmitCall ι) (hc : s.submitting.lookup call = some c) : CallMoves s call c
  | counted (app : ι) (sessionID : String) (state : ControlSessionState)
      (request : CommandRequest) (hstate : (s.sessions app).lookup sessionID = some state)
      (hseq : request.sequence = state.nextSequence) :
      CallMoves s call ⟨app, sessionID, { state with nextSequence := state.nextSequence + 1 },
        request, .counted⟩
  | moved (c : SubmitCall ι) (stage : SubmitStage) (hc : s.submitting.lookup call = some c)
      (hlive : c.stage = .counted → s.clock < c.state.expiresAt)
      (hconsistent : c.Consistent → SubmitCall.Consistent { c with stage := stage }) :
      CallMoves s call { c with stage := stage }

namespace Plane

variable {s : Plane ι}

theorem callMoves_of_erase {call k : ℕ} {c : SubmitCall ι}
    (h : (s.submitting.erase call).lookup k = some c) : CallMoves s k c :=
  .same c (GoMap.lookup_of_lookup_erase h)

theorem callMoves_of_insert {call k : ℕ} {c c' : SubmitCall ι}
    (h : (s.submitting.insert call c').lookup k = some c) (hmoves : CallMoves s call c') :
    CallMoves s k c := by
  rcases GoMap.lookup_insert_cases h with ⟨rfl, rfl⟩ | ⟨-, hold⟩
  · exact hmoves
  · exact .same c hold

theorem callMoves_stage {call : ℕ} {c : SubmitCall ι} {stage stage' : SubmitStage}
    (hc : s.submitting.lookup call = some c) (hstage : c.stage = stage) (hne : stage ≠ .counted)
    (hcommand : stage'.command? = stage.command?) :
    CallMoves s call { c with stage := stage' } :=
  .moved c stage' hc (fun h => absurd (hstage.symm.trans h) hne)
    fun h => h.move (by rw [hstage, hcommand])

end Plane
end Consistency

namespace Plane

variable {digest : String → String} {s s' : Plane ι}

theorem step_call {a : Action ι} (hstep : step digest s a = some s') {call : ℕ}
    {c : SubmitCall ι} (h : s'.submitting.lookup call = some c) : CallMoves s call c := by
  cases step_moves hstep with
  | ticked now hnow => exact .same c h
  | createRefused app call request => exact .same c h
  | started app call request sessionID hfree => exact .same c h
  | authorized call c route hc => exact .same _ h
  | createEnded a call => exact .same c h
  | acquired call reply c route hc hstage hfree t hs' s' ht =>
      subst hs'
      rcases ht with rfl | rfl <;> exact .same _ h
  | stored call c route hc hstage => exact .same _ h
  | submitRefused app call sessionID request => exact .same c h
  | counted app call sessionID request state hfree hstate hseq =>
      exact callMoves_of_insert h (.counted app sessionID state request hstate hseq)
  | proceeded call answer c stage hc hnext =>
      obtain ⟨hlive, -, -, -, hconsistent⟩ := SubmitCall.next_some hnext
      exact callMoves_of_insert h (.moved c stage hc hlive hconsistent)
  | returned call answer c hc hnext => exact callMoves_of_erase h
  | reserved call reply c command ttl hc hstage reservations =>
      exact callMoves_of_insert h (callMoves_stage hc hstage SubmitStage.noConfusion rfl)
  | notReserved call reply c command ttl hc hstage reservations hwhy => exact callMoves_of_erase h
  | accepted call reply c command milliseconds hc hstage hseq t hs' s' ht =>
      subst hs'
      rcases ht with rfl | rfl
      · exact callMoves_of_insert h (callMoves_stage hc hstage SubmitStage.noConfusion rfl)
      · exact callMoves_of_erase h
  | refused call reply c command milliseconds hc hstage hseq log hlog => exact callMoves_of_erase h
  | notAccepted call reply c command milliseconds hc hstage hwhy => exact callMoves_of_erase h
  | handedOver call wire connected c command hc hstage => exact callMoves_of_erase h
  | dropped call wire connected c command hc hstage => exact callMoves_of_erase h

theorem step_consistent {a : Action ι} (h : s.Consistent) (hstep : step digest s a = some s') :
    s'.Consistent := by
  intro call c hc
  cases step_call hstep hc with
  | same c hold => exact h call c hold
  | counted app sessionID state request hstate hseq =>
      intro command hcommand
      cases hcommand
  | moved c stage hold hlive hconsistent => exact hconsistent (h call c hold)

/-- Time passes in ticks only. -/
theorem step_clock {a : Action ι} (hstep : step digest s a = some s') :
    (∃ now, a = .tick now ∧ s' = { s with clock := now }) ∨ s'.clock = s.clock := by
  cases step_moves hstep with
  | ticked now hnow => exact Or.inl ⟨now, rfl, rfl⟩
  | acquired call reply c route hc hstage hfree t hs' s' ht =>
      subst hs'
      rcases ht with rfl | rfl <;> exact Or.inr rfl
  | accepted call reply c command milliseconds hc hstage hseq t hs' s' ht =>
      subst hs'
      rcases ht with rfl | rfl <;> exact Or.inr rfl
  | _ => exact Or.inr rfl

/-- A command is handed over by a call whose number has been accepted. -/
theorem step_log {a : Action ι} (hstep : step digest s a = some s') : s'.log = s.log ∨
    (∃ app sessionID deviceID expiresAt,
      s'.log = .acquired app sessionID deviceID expiresAt :: s.log) ∨
    (∃ sessionID sequence, s'.log = .accepted sessionID sequence :: s.log) ∨
    (∃ sessionID sequence, s'.log = .refused sessionID sequence :: s.log) ∨
    ∃ call c command, s.submitting.lookup call = some c ∧ c.stage = .accepted command ∧
      s'.log = .published c.app command s.clock :: s.log := by
  cases step_moves hstep with
  | acquired call reply c route hc hstage hfree t hs' s' ht =>
      subst hs'
      rcases ht with rfl | rfl <;> exact Or.inr (Or.inl ⟨_, _, _, _, rfl⟩)
  | accepted call reply c command milliseconds hc hstage hseq t hs' s' ht =>
      subst hs'
      rcases ht with rfl | rfl <;> exact Or.inr (Or.inr (Or.inl ⟨_, _, rfl⟩))
  | refused call reply c command milliseconds hc hstage hseq log hlog =>
      rcases hlog with rfl | rfl
      · exact Or.inl rfl
      · exact Or.inr (Or.inr (Or.inr (Or.inl ⟨_, _, rfl⟩)))
  | handedOver call wire connected c command hc hstage =>
      exact Or.inr (Or.inr (Or.inr (Or.inr ⟨call, c, command, hc, hstage, rfl⟩)))
  | _ => exact Or.inl rfl

end Plane
end GcsSaker.Control
