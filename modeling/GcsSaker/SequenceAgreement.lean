import GcsSaker.CommandSequence

/-!
# Agreement of the two sequence counters

While a session's commands all succeed, in the order of their numbers and before the ledger key of
the one before runs out, the number that the application expects is the one after the last that the
ledger accepted. One number that is handed out and not accepted, or one pause longer than the life
of a command, and the ledger refuses every later command of the session.
-/

namespace GcsSaker.Control

variable {ι : Type*}

/-- What a piece of `SubmitCommand` needs to go on: a live session, the policy's consent, an id and
a known command, a valid command, and time left for either ledger. -/
def SubmitCall.passes (c : SubmitCall ι) (now : ℤ) (answer : Answer) : Bool :=
  match c.stage, answer with
  | .counted, _ => decide (now < c.state.expiresAt)
  | .live, .policy allowed => allowed
  | .authorized, .newID id => id.isSome && decide (commandTypeOf c.request.command ≠ .unspecified)
  | .built command, _ => (validateCommand c.state.route (some command) now).isNone
  | .validated command, _ => (reservationTTL command.idempotencyId
      (Clock.ofUnixMilli command.expiresUnixMillis) now).toBool
  | .reserved command, _ => (sequenceTTL command.controlSessionId command.sequence
      (Clock.ofUnixMilli command.expiresUnixMillis) now).toBool
  | _, _ => true

/-- At least a millisecond is left of the command's life. -/
def SubmitStage.hasLifetime : SubmitStage → Bool
  | .accepting _ milliseconds => decide (0 < milliseconds)
  | _ => true

/-- The steps of a session's commands succeed: every piece passes, the idempotency id is new and its
reservation is confirmed, and the sequence ledger is asked in the order of the numbers, from the
second on while the key of the session is set. -/
def SubmitSucceeds (digest : String → String) (sessionID : String) (s : Plane ι) :
    Action ι → Prop
  | .proceed call answer => ∀ e ∈ s.submitting.entries, e.1 = call → e.2.sessionID = sessionID →
      e.2.passes s.clock answer = true
  | .reserve call reply => ∀ e ∈ s.submitting.entries, e.1 = call → e.2.sessionID = sessionID →
      reply = .delivered ∧ ∀ command ∈ e.2.stage.command?,
        s.reservations.live s.clock (commandLedgerKey digest command.idempotencyId) = none
  | .acceptSequence call reply => ∀ e ∈ s.submitting.entries, e.1 = call →
      e.2.sessionID = sessionID → reply ≠ .lostBefore ∧ e.2.stage.hasLifetime = true ∧
        (e.2.request.sequence = 1 ∨
          s.sequences.live s.clock (sequenceKey digest sessionID) ≠ none) ∧
        ∀ e' ∈ s.submitting.entries, e'.2.sessionID = sessionID → e'.2.stage.isAccepted = false →
          e.2.request.sequence ≤ e'.2.request.sequence
  | _ => True

instance (digest : String → String) (sessionID : String) (s : Plane ι) :
    ∀ a : Action ι, Decidable (SubmitSucceeds digest sessionID s a)
  | .proceed call answer => inferInstanceAs (Decidable (∀ e ∈ s.submitting.entries, e.1 = call →
      e.2.sessionID = sessionID → e.2.passes s.clock answer = true))
  | .reserve call reply => inferInstanceAs (Decidable (∀ e ∈ s.submitting.entries, e.1 = call →
      e.2.sessionID = sessionID → reply = .delivered ∧ ∀ command ∈ e.2.stage.command?,
        s.reservations.live s.clock (commandLedgerKey digest command.idempotencyId) = none))
  | .acceptSequence call reply => inferInstanceAs (Decidable (∀ e ∈ s.submitting.entries,
      e.1 = call → e.2.sessionID = sessionID → reply ≠ .lostBefore ∧
        e.2.stage.hasLifetime = true ∧ (e.2.request.sequence = 1 ∨
          s.sequences.live s.clock (sequenceKey digest sessionID) ≠ none) ∧
        ∀ e' ∈ s.submitting.entries, e'.2.sessionID = sessionID → e'.2.stage.isAccepted = false →
          e.2.request.sequence ≤ e'.2.request.sequence))
  | .tick .. => inferInstanceAs (Decidable True)
  | .create .. => inferInstanceAs (Decidable True)
  | .authorizeCreate .. => inferInstanceAs (Decidable True)
  | .acquire .. => inferInstanceAs (Decidable True)
  | .storeSession .. => inferInstanceAs (Decidable True)
  | .submit .. => inferInstanceAs (Decidable True)
  | .handOver .. => inferInstanceAs (Decidable True)

/-- No command of the session was refused for its number, and with none under way the application
expects the number after the last that the ledger accepted. -/
def Plane.SequencesAgree (sessionID : String) (s : Plane ι) : Prop :=
  (∀ n, .refused sessionID n ∉ s.log) ∧
    ((∀ e ∈ s.submitting.entries, e.2.sessionID ≠ sessionID) →
      ∀ app state, (s.sessions app).lookup sessionID = some state →
        state.nextSequence = lastAccepted sessionID s.log + 1)

/-- A piece that passes does not end its call. -/
theorem SubmitCall.next_ne_none {c : SubmitCall ι} {now : ℤ} {answer : Answer}
    (h : c.passes now answer = true) : c.next now answer ≠ some none := by
  intro hnext
  rcases hstage : c.stage with _ | _ | _ | command | command | ⟨command, ttl⟩ | command |
    ⟨command, ms⟩ | command
  all_goals
    rcases answer with _ | allowed | id
    all_goals simp only [SubmitCall.next, hstage, Option.some.injEq, reduceCtorEq] at hnext
  all_goals simp only [SubmitCall.passes, hstage] at h
  · rw [decide_eq_true_eq] at h
    simp only [if_pos h, reduceCtorEq] at hnext
  · simp only [h, if_true, reduceCtorEq] at hnext
  · rw [Bool.and_eq_true, decide_eq_true_eq] at h
    obtain ⟨hsome, hknown⟩ := h
    rcases id with _ | commandID
    · cases hsome
    · simp only [buildControlCommand, if_neg hknown, Option.some.injEq, reduceCtorEq] at hnext
  · rw [Option.isNone_iff_eq_none] at h
    simp only [h, reduceCtorEq] at hnext
  · cases hr : reservationTTL command.idempotencyId
      (Clock.ofUnixMilli command.expiresUnixMillis) now with
    | error err =>
        rw [hr] at h
        cases h
    | ok ttl => simp only [hr, reduceCtorEq] at hnext
  · cases hr : sequenceTTL command.controlSessionId command.sequence
      (Clock.ofUnixMilli command.expiresUnixMillis) now with
    | error err =>
        rw [hr] at h
        cases h
    | ok ttl => simp only [hr, reduceCtorEq] at hnext

namespace Plane

/-- A call with number `n` is on its way to the sequence ledger. -/
def Waiting (sessionID : String) (s : Plane ι) (n : ℕ) : Prop :=
  ∃ call c, s.submitting.lookup call = some c ∧ c.sessionID = sessionID ∧
    c.stage.isAccepted = false ∧ c.request.sequence = n

/-- Number `n` has been handed out, or one after it has. -/
def HandedOut (sessionID : String) (s : Plane ι) (n : ℕ) : Prop :=
  (∃ n', n < n' ∧ s.Waiting sessionID n') ∨
    ∃ app state, (s.sessions app).lookup sessionID = some state ∧ n < state.nextSequence

/-- The invariant of agreement: every number that was handed out and not accepted is on its way. -/
structure Gapless (digest : String → String) (sessionID : String) (s : Plane ι) : Prop where
  numbered : s.Numbered digest
  consistent : s.Consistent
  waiting : ∀ n, lastAccepted sessionID s.log < n → s.HandedOut sessionID n →
    s.Waiting sessionID n
  unrefused : ∀ n, .refused sessionID n ∉ s.log

variable {digest : String → String} {sessionID : String} {s s' : Plane ι}

theorem Gapless.sequencesAgree (h : s.Gapless digest sessionID) : s.SequencesAgree sessionID := by
  refine ⟨h.unrefused, fun hquiet app state hstate => ?_⟩
  have hnext := h.numbered.session_next app sessionID state hstate
  by_contra hne
  obtain ⟨call, c, hc, hid, -, -⟩ := h.waiting (lastAccepted sessionID s.log + 1)
    (Nat.lt_succ_self _) (Or.inr ⟨app, state, hstate, by omega⟩)
  exact hquiet ⟨call, c⟩ (AList.mem_lookup_iff.mp hc) hid

/-- In turn and with the key set, a number is the one that the ledger's script asks for. -/
theorem Gapless.accepts (h : s.Gapless digest sessionID) {call : ℕ} {c : SubmitCall ι}
    (hc : s.submitting.lookup call = some c) (hid : c.sessionID = sessionID)
    (hstage : c.stage.isAccepted = false)
    (hkey : c.request.sequence = 1 ∨
      s.sequences.live s.clock (sequenceKey digest sessionID) ≠ none)
    (hturn : ∀ e' ∈ s.submitting.entries, e'.2.sessionID = sessionID →
      e'.2.stage.isAccepted = false → c.request.sequence ≤ e'.2.request.sequence) :
    c.request.sequence =
      ((s.sequences.live s.clock (sequenceKey digest sessionID)).map (·.value)).getD 0 + 1 := by
  subst hid
  have habove : lastAccepted c.sessionID s.log < c.request.sequence := by
    by_contra hle
    rw [(h.numbered.call_accepted call c hc).mpr (not_lt.mp hle)] at hstage
    cases hstage
  have hnext : c.request.sequence = lastAccepted c.sessionID s.log + 1 := by
    by_contra hne
    obtain ⟨k, d, hd, hdid, hdstage, hdseq⟩ := h.waiting (lastAccepted c.sessionID s.log + 1)
      (Nat.lt_succ_self _)
      (Or.inl ⟨c.request.sequence, by omega, call, c, hc, rfl, hstage, rfl⟩)
    have hle := hturn ⟨k, d⟩ (AList.mem_lookup_iff.mp hd) hdid hdstage
    simp only [hdseq] at hle
    omega
  have hcounter := h.numbered.counter c.sessionID (h.numbered.call_issued call c hc)
  cases hlive : s.sequences.live s.clock (sequenceKey digest c.sessionID) with
  | none =>
      rcases hkey with hone | hset
      · simpa only [Option.map_none, Option.getD_none, Nat.zero_add] using hone
      · exact (hset hlive).elim
  | some e =>
      simp only [(ExpiringStore.live_eq_some_iff.mp hlive).1, Option.map_some,
        Option.getD_some] at hcounter
      simp only [Option.map_some, Option.getD_some]
      omega

theorem initial_gapless (digest : String → String) (sessionID : String) (clock : ℤ) :
    (initial clock : Plane ι).Gapless digest sessionID := by
  refine ⟨initial_numbered digest clock, initial_consistent clock, fun n _ hn => ?_,
    fun n hn => absurd hn List.not_mem_nil⟩
  rcases hn with ⟨n', -, call, c, hc, -⟩ | ⟨app, state, hstate, -⟩
  · simp only [initial, AList.lookup_empty, reduceCtorEq] at hc
  · simp only [initial, AList.lookup_empty, reduceCtorEq] at hstate

theorem waiting_of_kept {n k : ℕ} {c : SubmitCall ι}
    (hkept : s'.submitting.lookup k = s.submitting.lookup k)
    (hc : s.submitting.lookup k = some c) (hid : c.sessionID = sessionID)
    (hstage : c.stage.isAccepted = false) (hseq : c.request.sequence = n) :
    s'.Waiting sessionID n :=
  ⟨k, c, hkept.trans hc, hid, hstage, hseq⟩

theorem waiting_of_insert {n call : ℕ} {c : SubmitCall ι} {stage : SubmitStage}
    (hs' : s'.submitting = s.submitting.insert call { c with stage := stage })
    (hid : c.sessionID = sessionID) (hstage : stage.isAccepted = false)
    (hseq : c.request.sequence = n) : s'.Waiting sessionID n :=
  ⟨call, { c with stage := stage }, by rw [hs', AList.lookup_insert], hid, hstage, hseq⟩

/-- A call whose number is still on its way is not one whose number has been accepted. -/
theorem ne_of_accepted {k call : ℕ} {d c : SubmitCall ι} (hd : s.submitting.lookup k = some d)
    (hdstage : d.stage.isAccepted = false) (hc : s.submitting.lookup call = some c)
    (hstage : c.stage.isAccepted = true) : k ≠ call := by
  rintro rfl
  obtain rfl := Option.some.inj (hd.symm.trans hc)
  rw [hstage] at hdstage
  cases hdstage

variable [DecidableEq ι]

/-- A number on its way stays on its way until the ledger accepts it. -/
theorem step_waiting {a : Action ι} (h : s.Gapless digest sessionID)
    (hC : SubmitSucceeds digest sessionID s a) (hstep : step digest s a = some s') {n : ℕ}
    (hw : s.Waiting sessionID n) :
    s'.Waiting sessionID n ∨ lastAccepted sessionID s'.log = n := by
  obtain ⟨k, d, hd, hid, hdstage, hseq⟩ := hw
  have hmem : (⟨k, d⟩ : Sigma fun _ : ℕ => SubmitCall ι) ∈ s.submitting.entries :=
    AList.mem_lookup_iff.mp hd
  cases step_moves hstep with
  | acquired call reply c route hc hstage hfree t hs' s' ht =>
      subst hs'
      rcases ht with rfl | rfl <;> exact Or.inl ⟨k, d, hd, hid, hdstage, hseq⟩
  | counted app call id request state hfree hstate hs =>
      have hk : k ≠ call := by
        rintro rfl
        rw [hfree] at hd
        cases hd
      exact Or.inl (waiting_of_kept (AList.lookup_insert_ne hk) hd hid hdstage hseq)
  | proceeded call answer c stage hc hnext =>
      by_cases hk : k = call
      · subst hk
        obtain rfl := Option.some.inj (hd.symm.trans hc)
        obtain ⟨-, -, -, hnew, -⟩ := SubmitCall.next_some hnext
        exact Or.inl (waiting_of_insert rfl hid hnew hseq)
      · exact Or.inl (waiting_of_kept (AList.lookup_insert_ne hk) hd hid hdstage hseq)
  | returned call answer c hc hnext =>
      by_cases hk : k = call
      · subst hk
        obtain rfl := Option.some.inj (hd.symm.trans hc)
        exact (SubmitCall.next_ne_none (hC ⟨k, d⟩ hmem rfl hid) hnext).elim
      · exact Or.inl (waiting_of_kept (AList.lookup_erase_ne hk) hd hid hdstage hseq)
  | reserved call reply c command ttl hc hstage reservations =>
      by_cases hk : k = call
      · subst hk
        obtain rfl := Option.some.inj (hd.symm.trans hc)
        exact Or.inl (waiting_of_insert rfl hid rfl hseq)
      · exact Or.inl (waiting_of_kept (AList.lookup_insert_ne hk) hd hid hdstage hseq)
  | notReserved call reply c command ttl hc hstage reservations hwhy =>
      by_cases hk : k = call
      · subst hk
        obtain rfl := Option.some.inj (hd.symm.trans hc)
        obtain ⟨hreply, hfree⟩ := hC ⟨k, d⟩ hmem rfl hid
        rcases hwhy with hlost | hlive
        · exact (hlost hreply).elim
        · exact (hlive (hfree command (by rw [hstage]; rfl))).elim
      · exact Or.inl (waiting_of_kept (AList.lookup_erase_ne hk) hd hid hdstage hseq)
  | accepted call reply c command milliseconds hc hstage hs t hs' s' ht =>
      subst hs'
      by_cases hk : k = call
      · subst hk
        obtain rfl := Option.some.inj (hd.symm.trans hc)
        obtain ⟨hcid, -, hnum⟩ := h.consistent k d hc command (by rw [hstage]; rfl)
        have hlast : lastAccepted sessionID
            (.accepted command.controlSessionId command.sequence :: s.log) = n := by
          rw [lastAccepted_cons, if_pos (hcid.trans hid), hnum, hseq]
        rcases ht with rfl | rfl <;> exact Or.inr hlast
      · rcases ht with rfl | rfl
        · exact Or.inl (waiting_of_kept (AList.lookup_insert_ne hk) hd hid hdstage hseq)
        · exact Or.inl (waiting_of_kept (AList.lookup_erase_ne hk) hd hid hdstage hseq)
  | refused call reply c command milliseconds hc hstage hs log hlog =>
      by_cases hk : k = call
      · subst hk
        obtain rfl := Option.some.inj (hd.symm.trans hc)
        obtain ⟨hcid, -, hnum⟩ := h.consistent k d hc command (by rw [hstage]; rfl)
        obtain ⟨-, -, hkey, hturn⟩ := hC ⟨k, d⟩ hmem rfl hid
        rw [hcid, hnum, hid] at hs
        exact (hs (h.accepts hd hid hdstage hkey hturn)).elim
      · exact Or.inl (waiting_of_kept (AList.lookup_erase_ne hk) hd hid hdstage hseq)
  | notAccepted call reply c command milliseconds hc hstage hwhy =>
      by_cases hk : k = call
      · subst hk
        obtain rfl := Option.some.inj (hd.symm.trans hc)
        obtain ⟨hreply, hlife, -, -⟩ := hC ⟨k, d⟩ hmem rfl hid
        simp only [hstage, SubmitStage.hasLifetime, decide_eq_true_eq] at hlife
        rcases hwhy with hlost | hms
        · exact (hreply hlost).elim
        · omega
      · exact Or.inl (waiting_of_kept (AList.lookup_erase_ne hk) hd hid hdstage hseq)
  | handedOver call wire connected c command hc hstage =>
      have hk : k ≠ call := ne_of_accepted hd hdstage hc (by rw [hstage]; rfl)
      exact Or.inl (waiting_of_kept (AList.lookup_erase_ne hk) hd hid hdstage hseq)
  | dropped call wire connected c command hc hstage =>
      have hk : k ≠ call := ne_of_accepted hd hdstage hc (by rw [hstage]; rfl)
      exact Or.inl (waiting_of_kept (AList.lookup_erase_ne hk) hd hid hdstage hseq)
  | _ => exact Or.inl ⟨k, d, hd, hid, hdstage, hseq⟩

/-- A stored session after a step was stored before it, is new, or has just handed out a number. -/
theorem step_session {a : Action ι} (hstep : step digest s a = some s') {app : ι} {id : String}
    {state' : ControlSessionState} (h : (s'.sessions app).lookup id = some state') :
    (s.sessions app).lookup id = some state' ∨ state'.nextSequence = 1 ∨
      ∃ state, (s.sessions app).lookup id = some state ∧
        state'.nextSequence = state.nextSequence + 1 ∧ s'.Waiting id state.nextSequence := by
  cases step_moves hstep with
  | acquired call reply c route hc hstage hfree t hs' s' ht =>
      subst hs'
      rcases ht with rfl | rfl <;> exact Or.inl h
  | stored call c route hc hstage =>
      rcases lookup_putSession h with hold | ⟨-, -, rfl⟩
      · exact Or.inl hold
      · exact Or.inr (Or.inl rfl)
  | counted app' call id' request state hfree hstate hseq =>
      rcases lookup_countCommand h with ⟨hold, -⟩ | ⟨rfl, rfl, rfl⟩
      · exact Or.inl hold
      · exact Or.inr (Or.inr ⟨state, hstate, rfl, call, _, AList.lookup_insert _, rfl, rfl, hseq⟩)
  | accepted call reply c command milliseconds hc hstage hs t hs' s' ht =>
      subst hs'
      rcases ht with rfl | rfl <;> exact Or.inl h
  | _ => exact Or.inl h

/-- What is handed out after a step was handed out before it, or goes out with it. -/
theorem step_handedOut {a : Action ι} (h : s.Gapless digest sessionID)
    (hstep : step digest s a = some s') {n : ℕ} (hn : lastAccepted sessionID s'.log < n)
    (hout : s'.HandedOut sessionID n) : s.HandedOut sessionID n ∨ s'.Waiting sessionID n := by
  rcases hout with ⟨n', hlt, call, c', hc', hid, hstage, hseq⟩ | ⟨app, state', hstate', hlt⟩
  · cases step_call hstep hc' with
    | same c hold => exact Or.inl (Or.inl ⟨n', hlt, call, c', hold, hid, hstage, hseq⟩)
    | counted app id state request hstate hs =>
        subst hid
        exact Or.inl (Or.inr ⟨app, state, hstate, by simp only at hseq; omega⟩)
    | moved c stage hold hlive hconsistent =>
        refine Or.inl (Or.inl ⟨n', hlt, call, c, hold, hid, ?_, hseq⟩)
        by_contra hacc
        rw [Bool.not_eq_false] at hacc
        have hle := (h.numbered.call_accepted call c hold).mp hacc
        have hmono := step_lastAccepted h.numbered h.consistent hstep sessionID
        simp only at hid hseq
        rw [hid, hseq] at hle
        omega
  · rcases step_session hstep hstate' with hold | hone | ⟨state, hold, hnext, hw⟩
    · exact Or.inl (Or.inr ⟨app, state', hold, hlt⟩)
    · omega
    · by_cases he : n = state.nextSequence
      · exact Or.inr (he ▸ hw)
      · exact Or.inl (Or.inr ⟨app, state, hold, by omega⟩)

theorem step_unrefused {a : Action ι} (h : s.Gapless digest sessionID)
    (hC : SubmitSucceeds digest sessionID s a) (hstep : step digest s a = some s') (n : ℕ) :
    .refused sessionID n ∉ s'.log := by
  have hold := h.unrefused n
  cases step_moves hstep with
  | acquired call reply c route hc hstage hfree t hs' s' ht =>
      subst hs'
      rcases ht with rfl | rfl <;> exact List.not_mem_cons_of_ne_of_not_mem (by simp) hold
  | accepted call reply c command milliseconds hc hstage hs t hs' s' ht =>
      subst hs'
      rcases ht with rfl | rfl <;> exact List.not_mem_cons_of_ne_of_not_mem (by simp) hold
  | refused call reply c command milliseconds hc hstage hs log hlog =>
      rcases hlog with rfl | rfl
      · exact hold
      · refine List.not_mem_cons_of_ne_of_not_mem (fun he => ?_) hold
        obtain ⟨hcid, -, hnum⟩ := h.consistent call c hc command (by rw [hstage]; rfl)
        have hid : c.sessionID = sessionID := by
          rw [PlaneEvent.refused.injEq] at he
          rw [← hcid, he.1]
        obtain ⟨-, -, hkey, hturn⟩ := hC ⟨call, c⟩ (AList.mem_lookup_iff.mp hc) rfl hid
        rw [hcid, hnum, hid] at hs
        exact hs (h.accepts hc hid (by rw [hstage]; rfl) hkey hturn)
  | handedOver call wire connected c command hc hstage =>
      exact List.not_mem_cons_of_ne_of_not_mem (by simp) hold
  | _ => exact hold

theorem step_gapless {a : Action ι} (h : s.Gapless digest sessionID)
    (hC : FreshIDs digest s a ∧ SubmitSucceeds digest sessionID s a)
    (hstep : step digest s a = some s') : s'.Gapless digest sessionID := by
  refine ⟨step_numbered h.numbered h.consistent hC.1 hstep, step_consistent h.consistent hstep,
    fun n hn hout => ?_, step_unrefused h hC.2 hstep⟩
  have hmono := step_lastAccepted h.numbered h.consistent hstep sessionID
  rcases step_handedOut h hstep hn hout with hold | hw
  · rcases step_waiting h hC.2 hstep (h.waiting n (hmono.trans_lt hn) hold) with hw | hlast
    · exact hw
    · omega
  · exact hw

/-- In every run in which the commands of a session succeed, its two counters agree. -/
theorem run_sequencesAgree {digest : String → String} {sessionID : String} {clock : ℤ}
    {acts : List (Action ι)} {s : Plane ι}
    (hC : Runs.Along (step digest)
      (fun s a => FreshIDs digest s a ∧ SubmitSucceeds digest sessionID s a) (initial clock) acts)
    (hrun : Runs.run (step digest) (initial clock) acts = some s) : s.SequencesAgree sessionID :=
  (Runs.run_invariant (fun _ _ _ h => step_gapless h) (initial_gapless digest sessionID clock) hC
    hrun).sequencesAgree

/-- Two commands of a session, the second `pause` after the first. -/
def pausedRun (pause : ℤ) : List (Action Bool) :=
  sampleSession true 0 "cs_00000001" ++ sampleSubmit true 1 "cs_00000001" "MOTION" 1 ++
    sampleAccept 1 ++ [sampleHandOver 1, .tick pause] ++
    sampleSubmit true 1 "cs_00000001" "STOP" 2 ++ sampleAccept 1

theorem run_sequencesAgree_second : ∃ s, Runs.run (step id) (initial 0)
    (pausedRun Clock.second) = some s ∧ s.SequencesAgree "cs_00000001" := by
  obtain ⟨s, hs⟩ := Option.isSome_iff_exists.mp
    (show (Runs.run (step id) (initial 0) (pausedRun Clock.second)).isSome = true by decide +kernel)
  exact ⟨s, hs, run_sequencesAgree (by decide +kernel) hs⟩

/-- After a pause of three seconds the ledger has forgotten the first command and refuses the
second. -/
theorem pausedRun_refused : ∃ s, Runs.run (step id) (initial 0)
    (pausedRun (3 * Clock.second)) = some s ∧ ¬ s.SequencesAgree "cs_00000001" := by
  refine ⟨(Runs.run (step id) (initial 0) (pausedRun (3 * Clock.second))).get (by decide +kernel),
    by simp, fun h => h.1 2 ?_⟩
  decide +kernel

end Plane
end GcsSaker.Control
