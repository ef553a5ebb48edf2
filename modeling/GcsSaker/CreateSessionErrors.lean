import GcsSaker.LeaseExclusion

/-!
# What a failed CreateSession leaves

There is no way to give a lease back. A call of `CreateSession` that fails before the lease store
has granted it the lease writes no lease, whatever the other calls do meanwhile. One that fails
afterwards, because the reply was lost or the session table is full, leaves its own lease behind,
for the thirty seconds of its lifetime.
-/

namespace GcsSaker.Control

variable {ι : Type*}

/-- The call of `CreateSession` that an action is a step of. -/
def Action.creating? : Action ι → Option ℕ
  | .create _ call _ _ => some call
  | .authorizeCreate call _ _ => some call
  | .acquire call _ => some call
  | .storeSession call => some call
  | _ => none

/-- The steps from the first of the call to its last, `a`, with what the others do in between. -/
def CreateCall.trace (c : CreateCall ι) (call : ℕ) (acts : List (Action ι)) (a : Action ι) :
    List (Action ι) :=
  .create c.app call c.request (some c.sessionID) :: acts ++ [a]

namespace Plane

variable {digest : String → String} {s s' t t' : Plane ι}

/-- The session table of an instance has no room once the expired sessions are gone. -/
def TableFull (s : Plane ι) (c : CreateCall ι) : Prop :=
  maxControlSessions ≤ (pruneExpiredLocked c.startedAt (s.sessions c.app)).entries.length

instance (s : Plane ι) (c : CreateCall ι) : Decidable (s.TableFull c) :=
  inferInstanceAs (Decidable (_ ≤ _))

/-- The error that a call of `CreateSession` returns at this step, if it ends there with one. -/
def createError (digest : String → String) (s : Plane ι) : Action ι → Option ControlError
  | .create _ _ _ newID => if newID = none then some .unavailable else none
  | .authorizeCreate call route allowed =>
    (s.creating.lookup call).bind fun c =>
      if c.stage = .resolving ∧ (route = none ∨ allowed = false) then some .denied else none
  | .acquire call reply =>
    (s.creating.lookup call).bind fun c => match c.stage with
      | .authorized _ =>
        match leaseTTL c.request.deviceID c.sessionID c.expiresAt c.startedAt with
        | .error _ => some .unavailable
        | .ok ttl =>
          if reply ≠ .delivered then some .unavailable
          else if (s.leases.setNX s.clock (leaseKey digest c.request.deviceID) c.sessionID
            (s.clock + setNXLifetime ttl)).2 then none
          else some .conflict
      | _ => none
  | .storeSession call =>
    (s.creating.lookup call).bind fun c => match c.stage with
      | .acquired _ => if s.TableFull c then some .unavailable else none
      | _ => none
  | _ => none

/-- The lease that the call `c` has in `s'` and did not have in `s`. -/
structure Granted (digest : String → String) (c : CreateCall ι) (s s' : Plane ι) : Prop where
  free : s.leases.live s.clock (leaseKey digest c.request.deviceID) = none
  leases : s'.leases = s.leases.set (leaseKey digest c.request.deviceID) c.sessionID
    (s.clock + controlLeaseDuration)

/-! ## One step -/

/-- What a step makes of a call that is under way before and after it. -/
inductive CreateMoves (digest : String → String) (call : ℕ) (s s' : Plane ι) (a : Action ι)
    (c : CreateCall ι) : CreateCall ι → Prop
  | same (hleases : a.creating? = some call → s'.leases = s.leases) :
      CreateMoves digest call s s' a c c
  | authorized (route : InternalRoute) (hstage : c.stage = .resolving)
      (hleases : s'.leases = s.leases) :
      CreateMoves digest call s s' a c { c with stage := .authorized route }
  | granted (reply : Reply) (route : InternalRoute) (haction : a = .acquire call reply)
      (hstage : c.stage = .authorized route) (hgranted : Granted digest c s s') :
      CreateMoves digest call s s' a c { c with stage := .acquired route }

/-- A step that leaves the calls and the leases alone. -/
theorem createMoves_frame {call : ℕ} {a : Action ι} {c c' : CreateCall ι}
    (hcreating : s'.creating = s.creating) (hleases : s'.leases = s.leases)
    (hc : s.creating.lookup call = some c) (hc' : s'.creating.lookup call = some c') :
    CreateMoves digest call s s' a c c' := by
  rw [hcreating, hc, Option.some.injEq] at hc'
  exact hc' ▸ .same fun _ => hleases

theorem createMoves_of_erase {call call' : ℕ} {a : Action ι} {c c' : CreateCall ι}
    (hcreating : s'.creating = s.creating.erase call') (hleases : s'.leases = s.leases)
    (hc : s.creating.lookup call = some c) (hc' : s'.creating.lookup call = some c') :
    CreateMoves digest call s s' a c c' := by
  rw [hcreating] at hc'
  have hold := GoMap.lookup_of_lookup_erase hc'
  rw [hc, Option.some.injEq] at hold
  exact hold ▸ .same fun _ => hleases

variable [DecidableEq ι]

theorem authorizeCreate_resolving {call : ℕ} {route : Option InternalRoute} {allowed : Bool}
    (h : step digest s (.authorizeCreate call route allowed) = some s') :
    ∃ c, s.creating.lookup call = some c ∧ c.stage = .resolving := by
  cases hc : s.creating.lookup call with
  | none => simp only [step, hc, reduceCtorEq] at h
  | some c =>
      refine ⟨c, rfl, ?_⟩
      cases hstage : c.stage with
      | resolving => rfl
      | authorized r => simp only [step, hc, hstage, reduceCtorEq] at h
      | acquired r => simp only [step, hc, hstage, reduceCtorEq] at h

theorem step_createMoves {call : ℕ} {a : Action ι} {c c' : CreateCall ι}
    (hstep : step digest s a = some s') (hc : s.creating.lookup call = some c)
    (hc' : s'.creating.lookup call = some c') : CreateMoves digest call s s' a c c' := by
  cases step_moves hstep with
  | started app call' request sessionID hfree =>
      rcases GoMap.lookup_insert_cases hc' with ⟨rfl, -⟩ | ⟨hne, hold⟩
      · rw [hc] at hfree
        cases hfree
      · rw [hc, Option.some.injEq] at hold
        exact hold ▸ .same fun _ => rfl
  | authorized call' c₁ route hc₁ =>
      rcases GoMap.lookup_insert_cases hc' with ⟨rfl, rfl⟩ | ⟨hne, hold⟩
      · rw [hc, Option.some.injEq] at hc₁
        subst hc₁
        obtain ⟨c₂, hc₂, hstage⟩ := authorizeCreate_resolving hstep
        rw [hc, Option.some.injEq] at hc₂
        exact .authorized route (hc₂ ▸ hstage) rfl
      · rw [hc, Option.some.injEq] at hold
        exact hold ▸ .same fun _ => rfl
  | createEnded a call' => exact createMoves_of_erase rfl rfl hc hc'
  | acquired call' reply c₁ route hc₁ hstage hfree u hu s' ht =>
      subst hu
      rcases ht with rfl | rfl
      · rcases GoMap.lookup_insert_cases hc' with ⟨rfl, rfl⟩ | ⟨hne, hold⟩
        · rw [hc, Option.some.injEq] at hc₁
          subst hc₁
          exact .granted reply route rfl hstage ⟨hfree, rfl⟩
        · rw [hc, Option.some.injEq] at hold
          exact hold ▸ .same fun hown => absurd (Option.some.inj hown).symm hne
      · obtain ⟨hne, hold⟩ := GoMap.lookup_erase_cases hc'
        rw [hc, Option.some.injEq] at hold
        exact hold ▸ .same fun hown => absurd (Option.some.inj hown).symm hne
  | stored call' c₁ route hc₁ hstage => exact createMoves_of_erase rfl rfl hc hc'
  | accepted call' reply c₁ command milliseconds hc₁ hstage hseq u hu s' ht =>
      subst hu
      rcases ht with rfl | rfl <;> exact createMoves_frame rfl rfl hc hc'
  | _ => exact createMoves_frame rfl rfl hc hc'

theorem acquireLease_error {call : ℕ} {reply : Reply} {c : CreateCall ι} {route : InternalRoute}
    (hstage : c.stage = .authorized route) (hc : s.creating.lookup call = some c)
    (herror : createError digest s (.acquire call reply) ≠ none)
    (hstep : step digest s (.acquire call reply) = some s') :
    s'.leases = s.leases ∨ reply = .lostAfter ∧ Granted digest c s s' := by
  simp only [createError, hc, Option.bind_some, hstage] at herror
  simp only [step, hc, hstage] at hstep
  cases httl : leaseTTL c.request.deviceID c.sessionID c.expiresAt c.startedAt with
  | error err =>
      simp only [httl, Option.some.injEq] at hstep
      exact Or.inl (hstep ▸ rfl)
  | ok ttl =>
      cases leaseTTL_ok httl
      simp only [httl] at hstep herror
      rcases hset : s.leases.setNX s.clock (leaseKey digest c.request.deviceID) c.sessionID
        (s.clock + setNXLifetime controlLeaseDuration) with ⟨leases, won⟩
      split_ifs at hstep with hlost
      · exact Or.inl (Option.some.inj hstep ▸ rfl)
      · simp only [acquireLease, hset, Option.some.injEq] at hstep
        cases won with
        | false =>
            simp only [Bool.false_eq_true, if_false] at hstep
            exact Or.inl (hstep ▸ rfl)
        | true =>
            obtain ⟨hfree, rfl⟩ := ExpiringStore.setNX_acquired hset
            simp only [if_true] at hstep
            cases reply with
            | delivered => simp [hset] at herror
            | lostBefore => exact absurd rfl hlost
            | lostAfter => exact Or.inr ⟨rfl, hfree, hstep ▸ rfl⟩

/-- The step at which a call returns an error writes no lease, but for the one whose reply was
lost. A call that had its lease returns an error only for want of room. -/
theorem error_step {call : ℕ} {a : Action ι} {c : CreateCall ι}
    (hc : s.creating.lookup call = some c) (hown : a.creating? = some call)
    (herror : createError digest s a ≠ none) (hstep : step digest s a = some s') :
    (s'.leases = s.leases ∧
      ((∀ route, c.stage ≠ .acquired route) ∨ a = .storeSession call ∧ s.TableFull c)) ∨
    (a = .acquire call .lostAfter ∧ (∀ route, c.stage ≠ .acquired route) ∧
      Granted digest c s s') := by
  cases a with
  | create app call' request newID =>
      cases hown
      simp only [step, hc, reduceCtorEq] at hstep
  | authorizeCreate call' route allowed =>
      cases hown
      obtain ⟨c₁, hc₁, hstage⟩ := authorizeCreate_resolving hstep
      rw [hc, Option.some.injEq] at hc₁
      refine Or.inl ⟨?_, Or.inl fun route h => ?_⟩
      · cases step_moves hstep with
        | authorized call' c₁ route hc₁ => rfl
        | createEnded a call' => rfl
      · rw [hc₁, hstage] at h
        cases h
  | acquire call' reply =>
      cases hown
      cases hstage : c.stage with
      | resolving =>
          simp only [createError, hc, Option.bind_some, hstage, ne_eq, not_true] at herror
      | acquired route =>
          simp only [createError, hc, Option.bind_some, hstage, ne_eq, not_true] at herror
      | authorized route =>
          have hnot : ∀ other, CreateStage.authorized route ≠ .acquired other :=
            fun _ => CreateStage.noConfusion
          rcases acquireLease_error hstage hc herror hstep with hsame | ⟨rfl, hgranted⟩
          · exact Or.inl ⟨hsame, Or.inl hnot⟩
          · exact Or.inr ⟨rfl, hnot, hgranted⟩
  | storeSession call' =>
      cases hown
      refine Or.inl ⟨?_, Or.inr ⟨rfl, ?_⟩⟩
      · cases step_moves hstep with
        | createEnded a call' => rfl
        | stored call' c₁ route hc₁ hstage => rfl
      · simp only [createError, hc, Option.bind_some] at herror
        split at herror
        · by_contra hroom
          exact herror (if_neg hroom)
        · exact absurd rfl herror
  | tick now => cases hown
  | submit app call' sessionID request => cases hown
  | proceed call' answer => cases hown
  | reserve call' reply => cases hown
  | acceptSequence call' reply => cases hown
  | handOver call' wire connected => cases hown

/-! ## A whole call -/

/-- The step writes no lease if it belongs to the call. -/
def KeepsLeases (digest : String → String) (call : ℕ) (s : Plane ι) (a : Action ι) : Prop :=
  a.creating? = some call → ∀ s', step digest s a = some s' → s'.leases = s.leases

/-- One step of the call in the run writes a lease, its own, and the others write none. -/
def OneGrant (digest : String → String) (call : ℕ) (c : CreateCall ι) (s : Plane ι)
    (acts : List (Action ι)) (t t' : Plane ι) : Prop :=
  ∃ before reply after, acts = before ++ .acquire call reply :: after ∧
    Runs.run (step digest) s before = some t ∧ step digest t (.acquire call reply) = some t' ∧
    Runs.Along (step digest) (KeepsLeases digest call) s before ∧
    Runs.Along (step digest) (KeepsLeases digest call) t' after ∧ Granted digest c t t'

theorem keepsLeases_of_eq {call : ℕ} {a : Action ι} (hstep : step digest s a = some s')
    (hleases : a.creating? = some call → s'.leases = s.leases) : KeepsLeases digest call s a := by
  intro hown u hu
  rw [hstep, Option.some.injEq] at hu
  exact hu ▸ hleases hown

/-- A call that is under way all along is so after the first step. -/
theorem open_after {call : ℕ} {acts : List (Action ι)} {c' : CreateCall ι}
    (hrun : Runs.run (step digest) s acts = some s')
    (hopen : Runs.Along (step digest) (fun u _ => (u.creating.lookup call).isSome) s acts)
    (hc' : s'.creating.lookup call = some c') : ∃ c, s.creating.lookup call = some c := by
  cases acts with
  | nil =>
      cases hrun
      exact ⟨c', hc'⟩
  | cons a acts => exact Option.isSome_iff_exists.1 hopen.1

theorem OneGrant.cons {call : ℕ} {c : CreateCall ι} {a : Action ι} {acts : List (Action ι)}
    (hstep : step digest s a = some s') (ha : KeepsLeases digest call s a)
    (h : OneGrant digest call c s' acts t t') : OneGrant digest call c s (a :: acts) t t' := by
  obtain ⟨before, reply, after, rfl, hrun, hgrant, hbefore, hafter, hgranted⟩ := h
  refine ⟨a :: before, reply, after, rfl, ?_, hgrant, Runs.along_cons hstep ha hbefore, hafter,
    hgranted⟩
  rw [Runs.run_cons, hstep]
  exact hrun

theorem OneGrant.snoc {call : ℕ} {c : CreateCall ι} {a : Action ι} {acts : List (Action ι)}
    (hrun : Runs.run (step digest) s acts = some s') (ha : KeepsLeases digest call s' a)
    (h : OneGrant digest call c s acts t t') : OneGrant digest call c s (acts ++ [a]) t t' := by
  obtain ⟨before, reply, after, rfl, hbefore, hgrant, hkeep, hafter, hgranted⟩ := h
  refine ⟨before, reply, after ++ [a], by rw [List.append_assoc, List.cons_append], hbefore, hgrant,
    hkeep, Runs.along_append ?_ hafter ⟨ha, fun _ _ => trivial⟩, hgranted⟩
  rw [Runs.run_append, hbefore, Option.bind_some, Runs.run_cons, hgrant] at hrun
  exact hrun

/-- A call that has its lease writes no other. -/
theorem call_run_acquired {call : ℕ} {acts : List (Action ι)} {c c' : CreateCall ι}
    {route : InternalRoute} (hrun : Runs.run (step digest) s acts = some s')
    (hopen : Runs.Along (step digest) (fun u _ => (u.creating.lookup call).isSome) s acts)
    (hc : s.creating.lookup call = some c) (hc' : s'.creating.lookup call = some c')
    (hstage : c.stage = .acquired route) :
    c' = c ∧ Runs.Along (step digest) (KeepsLeases digest call) s acts := by
  induction acts generalizing s with
  | nil =>
      cases hrun
      exact ⟨Option.some.inj (hc'.symm.trans hc), trivial⟩
  | cons a acts ih =>
      rw [Runs.run_cons, Option.bind_eq_some_iff] at hrun
      obtain ⟨u, hu, hrun⟩ := hrun
      obtain ⟨cu, hcu⟩ := open_after hrun (hopen.2 u hu) hc'
      cases step_createMoves hu hc hcu with
      | same hleases =>
          obtain ⟨he, halong⟩ := ih hrun (hopen.2 u hu) hcu
          exact ⟨he, Runs.along_cons hu (keepsLeases_of_eq hu hleases) halong⟩
      | authorized route' hresolving hleases =>
          rw [hstage] at hresolving
          cases hresolving
      | granted reply route' haction hauthorized hgranted =>
          rw [hstage] at hauthorized
          cases hauthorized

/-- A call without its lease either goes on without, or is granted it by one of its steps. -/
theorem call_run {call : ℕ} {acts : List (Action ι)} {c c' : CreateCall ι}
    (hrun : Runs.run (step digest) s acts = some s')
    (hopen : Runs.Along (step digest) (fun u _ => (u.creating.lookup call).isSome) s acts)
    (hc : s.creating.lookup call = some c) (hc' : s'.creating.lookup call = some c')
    (hstage : ∀ route, c.stage ≠ .acquired route) :
    (Runs.Along (step digest) (KeepsLeases digest call) s acts ∧
        ∀ route, c'.stage ≠ .acquired route) ∨
      (∃ route, c'.stage = .acquired route) ∧
        ∃ t t', OneGrant digest call c' s acts t t' := by
  induction acts generalizing s c with
  | nil =>
      cases hrun
      rw [hc', Option.some.injEq] at hc
      exact Or.inl ⟨trivial, hc ▸ hstage⟩
  | cons a acts ih =>
      rw [Runs.run_cons, Option.bind_eq_some_iff] at hrun
      obtain ⟨u, hu, hrun⟩ := hrun
      obtain ⟨cu, hcu⟩ := open_after hrun (hopen.2 u hu) hc'
      have hgo : KeepsLeases digest call s a → (∀ route, cu.stage ≠ .acquired route) →
          (Runs.Along (step digest) (KeepsLeases digest call) s (a :: acts) ∧
            ∀ route, c'.stage ≠ .acquired route) ∨
          (∃ route, c'.stage = .acquired route) ∧
            ∃ t t', OneGrant digest call c' s (a :: acts) t t' := by
        intro hkeep hcu'
        rcases ih hrun (hopen.2 u hu) hcu hcu' with ⟨halong, hnot⟩ | ⟨hstage', t, t', hgrant⟩
        · exact Or.inl ⟨Runs.along_cons hu hkeep halong, hnot⟩
        · exact Or.inr ⟨hstage', t, t', hgrant.cons hu hkeep⟩
      cases step_createMoves hu hc hcu with
      | same hleases => exact hgo (keepsLeases_of_eq hu hleases) hstage
      | authorized route hresolving hleases =>
          exact hgo (keepsLeases_of_eq hu fun _ => hleases) fun _ => CreateStage.noConfusion
      | granted reply route haction hauthorized hgranted =>
          obtain ⟨rfl, halong⟩ := call_run_acquired hrun (hopen.2 u hu) hcu hc' rfl
          subst haction
          exact Or.inr ⟨⟨route, rfl⟩, s, u, [], reply, acts, rfl, rfl, hu, trivial, halong,
            hgranted.free, hgranted.leases⟩

/-- A call of `CreateSession` that begins in `s₀` and returns an error at the step `a` from `s`.
Between its steps `acts` has steps of other calls. -/
structure FailedCall (digest : String → String) (call : ℕ) (c : CreateCall ι) (s₀ : Plane ι)
    (acts : List (Action ι)) (s : Plane ι) (a : Action ι) (s' : Plane ι) : Prop where
  run : Runs.run (step digest) s₀
    (.create c.app call c.request (some c.sessionID) :: acts) = some s
  current : s.creating.lookup call = some c
  underWay : ∀ s₁, step digest s₀ (.create c.app call c.request (some c.sessionID)) = some s₁ →
    Runs.Along (step digest) (fun u _ => (u.creating.lookup call).isSome) s₁ acts
  own : a.creating? = some call
  error : createError digest s a ≠ none
  last : step digest s a = some s'

theorem create_started {app : ι} {call : ℕ} {request : SessionRequest} {sessionID : String}
    (h : step digest s (.create app call request (some sessionID)) = some s') :
    s'.leases = s.leases ∧
      s'.creating.lookup call = some ⟨app, request, s.clock, sessionID, .resolving⟩ := by
  cases hfree : s.creating.lookup call with
  | some c => simp only [step, hfree, reduceCtorEq] at h
  | none =>
      simp only [step, hfree, Option.some.injEq] at h
      subst h
      exact ⟨rfl, AList.lookup_insert _⟩

theorem create_refused {app : ι} {call : ℕ} {request : SessionRequest}
    (h : step digest s (.create app call request none) = some s') : s' = s := by
  cases hfree : s.creating.lookup call with
  | some c => simp only [step, hfree, reduceCtorEq] at h
  | none =>
      simp only [step, hfree, Option.some.injEq] at h
      exact h.symm

/-- A failed call has written no lease, or has failed after its lease was granted. -/
theorem FailedCall.leases {call : ℕ} {c : CreateCall ι} {s₀ : Plane ι} {acts : List (Action ι)}
    {a : Action ι} (h : FailedCall digest call c s₀ acts s a s') :
    Runs.Along (step digest) (KeepsLeases digest call) s₀ (c.trace call acts a) ∨
      (a = .acquire call .lostAfter ∨ a = .storeSession call ∧ s.TableFull c) ∧
        ∃ t t', OneGrant digest call c s₀ (c.trace call acts a) t t' := by
  have hrun := h.run
  rw [Runs.run_cons, Option.bind_eq_some_iff] at hrun
  obtain ⟨s₁, hbegin, hrun⟩ := hrun
  obtain ⟨hleases, hc₁⟩ := create_started hbegin
  have hkeep : KeepsLeases digest call s₀ (.create c.app call c.request (some c.sessionID)) :=
    keepsLeases_of_eq hbegin fun _ => hleases
  have hspan := call_run hrun (h.underWay s₁ hbegin) hc₁ h.current
    fun _ => CreateStage.noConfusion
  rcases error_step h.current h.own h.error h.last with ⟨hsame, hstage⟩ | ⟨rfl, hnot, hgranted⟩
  · have hkeeps : KeepsLeases digest call s a := keepsLeases_of_eq h.last fun _ => hsame
    rcases hspan with ⟨halong, -⟩ | ⟨⟨route, hroute⟩, t, t', hgrant⟩
    · exact Or.inl (Runs.along_append h.run (Runs.along_cons hbegin hkeep halong)
        (Runs.along_cons h.last hkeeps trivial))
    · rcases hstage with hnot | hfull
      · exact absurd hroute (hnot route)
      · exact Or.inr ⟨Or.inr hfull, t, t', (hgrant.cons hbegin hkeep).snoc h.run hkeeps⟩
  · rcases hspan with ⟨halong, -⟩ | ⟨⟨route, hroute⟩, -⟩
    · exact Or.inr ⟨Or.inl rfl, s, s', _, .lostAfter, [], rfl, h.run, h.last,
        Runs.along_cons hbegin hkeep halong, trivial, hgranted⟩
    · exact absurd hroute (hnot route)

theorem OneGrant.granted {call : ℕ} {c : CreateCall ι} {acts : List (Action ι)}
    (h : OneGrant digest call c s acts t t') : Granted digest c t t' := by
  obtain ⟨_, _, _, -, -, -, -, -, hgranted⟩ := h
  exact hgranted

/-- No step removes a lease before its time: a key is written only where nothing live is. -/
theorem step_lease {key : String} {entry : StoreEntry ℤ String} {a : Action ι}
    (h : s.leases key = some entry ∨ entry.expiresAt ≤ s.clock)
    (hstep : step digest s a = some s') :
    s'.leases key = some entry ∨ entry.expiresAt ≤ s'.clock := by
  have hsame : s'.leases = s.leases → s.clock ≤ s'.clock →
      s'.leases key = some entry ∨ entry.expiresAt ≤ s'.clock := by
    intro hleases hclock
    rw [hleases]
    exact h.imp_right fun hover => hover.trans hclock
  cases step_moves hstep with
  | ticked now hnow => exact hsame rfl hnow
  | acquired call reply c route hc hstage hfree u hu s' ht =>
      have hset : s'.clock = s.clock ∧ s'.leases = s.leases.set
          (leaseKey digest c.request.deviceID) c.sessionID
          (s.clock + setNXLifetime controlLeaseDuration) := by
        subst hu
        rcases ht with rfl | rfl <;> exact ⟨rfl, rfl⟩
      rw [hset.1, hset.2]
      by_cases hkey : key = leaseKey digest c.request.deviceID
      · subst hkey
        exact Or.inr (h.elim (ExpiringStore.live_eq_none_iff.1 hfree entry) id)
      · rw [ExpiringStore.set_of_ne _ _ _ hkey]
        exact h
  | accepted call reply c command milliseconds hc hstage hseq u hu s' ht =>
      subst hu
      rcases ht with rfl | rfl <;> exact hsame rfl le_rfl
  | _ => exact hsame rfl le_rfl

/-- The lease that was granted is there exactly until its thirty seconds are over. -/
theorem Granted.live_iff {c : CreateCall ι} {later : List (Action ι)} {u : Plane ι}
    (h : Granted digest c t t') (hrun : Runs.run (step digest) t' later = some u) :
    u.leases.live u.clock (leaseKey digest c.request.deviceID) =
        some ⟨c.sessionID, t.clock + controlLeaseDuration⟩ ↔
      u.clock < t.clock + controlLeaseDuration := by
  have hthere : t'.leases (leaseKey digest c.request.deviceID) =
      some ⟨c.sessionID, t.clock + controlLeaseDuration⟩ := by
    rw [h.leases, ExpiringStore.set_self]
  have hlasts := Runs.run_invariant_of_step (fun _ _ _ hinv hstep => step_lease hinv hstep)
    (Or.inl hthere) hrun
  rw [ExpiringStore.live_eq_some_iff]
  constructor
  · intro hlive
    exact hlive.2
  · intro hclock
    exact ⟨hlasts.resolve_right (not_le.2 hclock), hclock⟩

/-- Where the device is free and the ids are opaque, `Acquire` grants the lease. -/
theorem step_acquire_free {call : ℕ} {c : CreateCall ι} {route : InternalRoute}
    (hc : s.creating.lookup call = some c) (hstage : c.stage = .authorized route)
    (hsegments : leaseTTL c.request.deviceID c.sessionID c.expiresAt c.startedAt =
      .ok controlLeaseDuration)
    (hfree : s.leases.live s.clock (leaseKey digest c.request.deviceID) = none) :
    createError digest s (.acquire call .delivered) = none ∧
      step digest s (.acquire call .delivered) = some (moveCreate
        { s with
          leases := s.leases.set (leaseKey digest c.request.deviceID) c.sessionID
            (s.clock + controlLeaseDuration)
          log := .acquired c.app c.sessionID c.request.deviceID c.expiresAt :: s.log }
        call c (.acquired route)) := by
  have hset : s.leases.setNX s.clock (leaseKey digest c.request.deviceID) c.sessionID
      (s.clock + setNXLifetime controlLeaseDuration) =
        (s.leases.set (leaseKey digest c.request.deviceID) c.sessionID
          (s.clock + controlLeaseDuration), true) := by
    rw [setNXLifetime_lease, ExpiringStore.setNX, hfree]
  constructor
  · simp only [createError, hc, Option.bind_some, hstage, hsegments, hset, ne_eq, not_true, if_false,
      if_true]
  · simp only [step, hc, hstage, hsegments, reduceCtorEq, if_false, acquireLease, hset, if_true]

theorem leaseTTL_of_segments {deviceID sessionID : String} {startedAt : ℤ}
    (hdevice : opaqueSegment deviceID = true) (hsession : opaqueSegment sessionID = true) :
    leaseTTL deviceID sessionID (startedAt + controlLeaseDuration) startedAt =
      .ok controlLeaseDuration := by
  have hduration : controlLeaseDuration = 30 * Clock.second := rfl
  have hpositive : 0 < controlLeaseDuration := by decide
  have hspan : startedAt + controlLeaseDuration - startedAt = controlLeaseDuration := by omega
  simp only [leaseTTL, hspan, hdevice, hsession, Bool.true_eq_false, false_or]
  rw [if_neg (by omega)]

/-- A call that returns an error writes no lease with any of its steps, unless the reply of the
lease store was lost or the session table was full. Then it has written its own lease, once, which
stays for its thirty seconds. A call for a device without a live lease gets it. -/
theorem create_error_leases (digest : String → String) :
    (∀ (s s' : Plane ι) app call request,
      step digest s (.create app call request none) = some s' → s' = s) ∧
    (∀ (s₀ s s' : Plane ι) call c acts a, FailedCall digest call c s₀ acts s a s' →
      Runs.Along (step digest) (KeepsLeases digest call) s₀ (c.trace call acts a) ∨
        (a = .acquire call .lostAfter ∨ a = .storeSession call ∧ s.TableFull c) ∧
          ∃ t t', OneGrant digest call c s₀ (c.trace call acts a) t t' ∧
            ∀ later u, Runs.run (step digest) t' later = some u →
              (u.leases.live u.clock (leaseKey digest c.request.deviceID) =
                  some ⟨c.sessionID, t.clock + controlLeaseDuration⟩ ↔
                u.clock < t.clock + controlLeaseDuration)) ∧
    ∀ (s : Plane ι) call c route, s.creating.lookup call = some c →
      c.stage = .authorized route → opaqueSegment c.request.deviceID = true →
      opaqueSegment c.sessionID = true →
      s.leases.live s.clock (leaseKey digest c.request.deviceID) = none →
        createError digest s (.acquire call .delivered) = none ∧
          ∃ s', step digest s (.acquire call .delivered) = some s' ∧ Granted digest c s s' := by
  refine ⟨fun _ _ _ _ _ => create_refused, ?_, ?_⟩
  · intro s₀ s s' call c acts a h
    rcases h.leases with hkeeps | ⟨hwhy, t, t', hgrant⟩
    · exact Or.inl hkeeps
    · exact Or.inr ⟨hwhy, t, t', hgrant, fun _ _ hrun => hgrant.granted.live_iff hrun⟩
  · intro s call c route hc hstage hdevice hsession hfree
    obtain ⟨herror, hstep⟩ :=
      step_acquire_free hc hstage (leaseTTL_of_segments hdevice hsession) hfree
    exact ⟨herror, _, hstep, hfree, rfl⟩

/-! ## A full table -/

def fillDevice (n : ℕ) : String := "device-0" ++ n.repr

def fillSession (n : ℕ) : String := "session-" ++ n.repr

/-- The steps of the `n`-th call, up to the lease. -/
def fillAcquire (n : ℕ) : List (Action Bool) :=
  [.create true 0 ⟨fillDevice n, "publish-01"⟩ (some (fillSession n)),
    .authorizeCreate 0 (some sampleRoute) true, .acquire 0 .delivered]

/-- One session for each of `n` devices. -/
def fillRun : ℕ → List (Action Bool)
  | 0 => []
  | n + 1 => fillRun n ++ (fillAcquire n ++ [.storeSession 0])

/-- What the plane is after the first `n` sessions. -/
structure Filled (n : ℕ) (s : Plane Bool) : Prop where
  clock : s.clock = 0
  idle : s.creating.lookup 0 = none
  stored : (s.sessions true).keys.length = n
  unexpired : ∀ sessionID state, (s.sessions true).lookup sessionID = some state →
    0 < state.expiresAt
  fresh : ∀ m, n ≤ m → fillSession m ∉ (s.sessions true).keys
  free : ∀ m, n ≤ m → s.leases.live 0 (leaseKey id (fillDevice m)) = none

theorem repr_injective {m n : ℕ} (h : m.repr = n.repr) : m = n := by
  rw [Nat.repr_eq_ofList_toDigits, Nat.repr_eq_ofList_toDigits, String.ofList_inj] at h
  rw [← Nat.ofDigitChars_toDigits (b := 10) (n := m) (by decide) (by decide), h,
    Nat.ofDigitChars_toDigits (by decide) (by decide)]

theorem opaqueSegment_append_repr {start : String} {n : ℕ} (hlength : start.length = 8)
    (hstart : start.toList.all (fun c => c.isAlphanum || c == '_' || c == '-') = true)
    (hn : n < 10 ^ 4) : opaqueSegment (start ++ n.repr) = true := by
  have hshort : n.repr.length ≤ 4 := (Nat.length_repr_le_iff (by decide)).2 hn
  have hdigits : n.repr.toList.all (fun c => c.isAlphanum || c == '_' || c == '-') = true := by
    rw [List.all_eq_true]
    intro c hc
    rw [Nat.toList_repr] at hc
    rw [Char.isAlphanum, Nat.isDigit_of_mem_toDigits (by decide) (by decide) hc, Bool.or_true]
    rfl
  rw [opaqueSegment, String.length_append, String.toList_append, List.all_append, hstart, hdigits,
    hlength]
  simp only [Bool.and_true, Bool.and_eq_true, decide_eq_true_eq]
  omega

def fillCall (n : ℕ) : CreateCall Bool :=
  ⟨true, ⟨fillDevice n, "publish-01"⟩, 0, fillSession n, .acquired sampleRoute⟩

/-- What the first steps of the `n`-th call make of a plane. -/
structure FillAcquired (n : ℕ) (s s' : Plane Bool) : Prop where
  run : Runs.run (step id) s (fillAcquire n) = some s'
  current : s'.creating.lookup 0 = some (fillCall n)
  clock : s'.clock = 0
  sessions : s'.sessions = s.sessions
  leases : s'.leases = s.leases.set (leaseKey id (fillDevice n)) (fillSession n)
    controlLeaseDuration

theorem Filled.acquired {n : ℕ} {s : Plane Bool} (h : Filled n s) (hn : n < 10 ^ 4) :
    ∃ s', FillAcquired n s s' := by
  let c : CreateCall Bool :=
    ⟨true, ⟨fillDevice n, "publish-01"⟩, s.clock, fillSession n, .resolving⟩
  let s₁ : Plane Bool := { s with
    creating := s.creating.insert 0 c
    issued := fillSession n :: s.issued }
  let s₂ := s₁.moveCreate 0 c (.authorized sampleRoute)
  have hstart : step id s (.create true 0 ⟨fillDevice n, "publish-01"⟩ (some (fillSession n))) =
      some s₁ := by
    simp only [step, h.idle]
    rfl
  have hc₁ : s₁.creating.lookup 0 = some c := AList.lookup_insert _
  have hauthorize : step id s₁ (.authorizeCreate 0 (some sampleRoute) true) = some s₂ := by
    simp only [step, hc₁]
    rfl
  have hc₂ : s₂.creating.lookup 0 = some { c with stage := .authorized sampleRoute } :=
    AList.lookup_insert _
  have hsegments : leaseTTL (fillDevice n) (fillSession n) (s.clock + controlLeaseDuration) s.clock =
      .ok controlLeaseDuration :=
    leaseTTL_of_segments (opaqueSegment_append_repr rfl (by decide) hn)
      (opaqueSegment_append_repr rfl (by decide) hn)
  have hfree : s₂.leases.live s₂.clock (leaseKey id (fillDevice n)) = none := by
    have hlive := h.free n le_rfl
    rw [← h.clock] at hlive
    exact hlive
  obtain ⟨-, hacquire⟩ := step_acquire_free hc₂ rfl hsegments hfree
  let s₃ := moveCreate { s₂ with
      leases := s₂.leases.set (leaseKey id (fillDevice n)) (fillSession n)
        (s.clock + controlLeaseDuration)
      log := .acquired true (fillSession n) (fillDevice n) (s.clock + controlLeaseDuration) ::
        s₂.log }
    0 { c with stage := .authorized sampleRoute } (.acquired sampleRoute)
  refine ⟨s₃, ?_, ?_, h.clock, rfl, ?_⟩
  · rw [fillAcquire, Runs.run_cons, hstart, Option.bind_some, Runs.run_cons, hauthorize,
      Option.bind_some, Runs.run_cons, hacquire]
    rfl
  · rw [fillCall, ← h.clock]
    exact AList.lookup_insert _
  · change s.leases.set _ _ _ = _
    rw [h.clock, zero_add]

theorem acquire_current {call : ℕ} {reply : Reply} {s s' : Plane Bool}
    (h : step id s (.acquire call reply) = some s') : (s.creating.lookup call).isSome = true := by
  cases hc : s.creating.lookup call with
  | none => simp only [step, hc, reduceCtorEq] at h
  | some c => rfl

/-- The steps of a call between its first and its last. -/
def fillSteps : List (Action Bool) :=
  [.authorizeCreate 0 (some sampleRoute) true, .acquire 0 .delivered]

theorem FillAcquired.underWay {n : ℕ} {s s' : Plane Bool} (h : FillAcquired n s s') :
    ∀ s₁, step id s (.create true 0 ⟨fillDevice n, "publish-01"⟩ (some (fillSession n))) = some s₁ →
      Runs.Along (step id) (fun u _ => (u.creating.lookup 0).isSome) s₁ fillSteps := by
  intro s₁ hbegin
  have hrun := h.run
  rw [fillAcquire, Runs.run_cons, hbegin, Option.bind_some, Runs.run_cons,
    Option.bind_eq_some_iff] at hrun
  obtain ⟨s₂, hauthorize, hrun⟩ := hrun
  rw [Runs.run_cons, Option.bind_eq_some_iff] at hrun
  obtain ⟨s₃, hacquire, -⟩ := hrun
  have hfirst : (s₁.creating.lookup 0).isSome = true := by
    rw [(create_started hbegin).2]
    rfl
  exact Runs.along_cons hauthorize hfirst
    (Runs.along_cons hacquire (acquire_current hacquire) trivial)

theorem prune_filled {n : ℕ} {s : Plane Bool} (h : Filled n s) :
    pruneExpiredLocked 0 (s.sessions true) = s.sessions true :=
  GoMap.sweep_eq_self fun sessionID state hlookup =>
    decide_eq_false (not_le.2 (h.unexpired sessionID state hlookup))

theorem Filled.full {s s' : Plane Bool} (h : Filled maxControlSessions s)
    (hsessions : s'.sessions = s.sessions) : s'.TableFull (fillCall maxControlSessions) := by
  change maxControlSessions ≤ (pruneExpiredLocked 0 (s'.sessions true)).entries.length
  rw [hsessions, prune_filled h, ← List.length_map Sigma.fst]
  exact h.stored.ge

theorem Filled.next {n : ℕ} {s s' : Plane Bool} (h : Filled n s) (hn : n < maxControlSessions)
    (hacquired : FillAcquired n s s') :
    Filled (n + 1) ((s'.putSession (fillCall n) sampleRoute).endCreate 0) := by
  have hroom : ¬ maxControlSessions ≤ (s.sessions true).entries.length := by
    rw [← List.length_map Sigma.fst]
    exact not_le.2 (h.stored.trans_lt hn)
  have hnew : fillSession n ∉ (s.sessions true).keys := h.fresh n le_rfl
  have htable : ((s'.putSession (fillCall n) sampleRoute).endCreate 0).sessions true =
      (s.sessions true).insert (fillSession n)
        (newSessionState ⟨fillDevice n, "publish-01"⟩ sampleRoute 0) := by
    change Function.update s'.sessions true _ true = _
    rw [Function.update_self]
    change (if maxControlSessions ≤ (pruneExpiredLocked 0 (s'.sessions true)).entries.length then _
      else AList.insert _ _ (pruneExpiredLocked 0 (s'.sessions true))) = _
    rw [hacquired.sessions, prune_filled h, if_neg hroom]
    rfl
  have hkeys : (((s'.putSession (fillCall n) sampleRoute).endCreate 0).sessions true).keys =
      fillSession n :: (s.sessions true).keys := by
    rw [htable, AList.keys_insert, List.erase_of_not_mem hnew]
  refine ⟨hacquired.clock, AList.lookup_erase _ _, ?_, ?_, ?_, ?_⟩
  · rw [hkeys, List.length_cons, h.stored]
  · intro sessionID state hlookup
    rw [htable] at hlookup
    rcases GoMap.lookup_insert_cases hlookup with ⟨-, rfl⟩ | ⟨-, hold⟩
    · change (0 : ℤ) < 0 + controlLeaseDuration
      decide
    · exact h.unexpired sessionID state hold
  · intro m hm hmem
    rw [hkeys, List.mem_cons] at hmem
    rcases hmem with he | hmem
    · have hsame := repr_injective ((String.append_right_inj _).1 he)
      omega
    · exact h.fresh m (by omega) hmem
  · intro m hm
    have hne : leaseKey id (fillDevice m) ≠ leaseKey id (fillDevice n) := by
      intro he
      have hsame := repr_injective
        ((String.append_right_inj _).1 ((String.append_right_inj _).1 he))
      omega
    change ExpiringStore.live s'.leases 0 _ = none
    rw [hacquired.leases, ExpiringStore.live, ExpiringStore.set_of_ne _ _ _ hne]
    exact h.free m (by omega)

theorem filled (n : ℕ) (hn : n ≤ maxControlSessions) :
    ∃ s, Runs.run (step id) (initial 0) (fillRun n) = some s ∧ Filled n s := by
  induction n with
  | zero =>
      refine ⟨_, rfl, rfl, AList.lookup_empty _, rfl, ?_, ?_, ?_⟩
      · intro sessionID state hlookup
        cases hlookup
      · intro m _
        exact List.not_mem_nil
      · intro m _
        rfl
  | succ n ih =>
      obtain ⟨s, hrun, hs⟩ := ih (by omega)
      have hsmall : n < 10 ^ 4 := lt_of_lt_of_le hn (by decide)
      obtain ⟨s', hacquired⟩ := hs.acquired hsmall
      refine ⟨_, ?_, hs.next hn hacquired⟩
      rw [fillRun, Runs.run_append, hrun, Option.bind_some, Runs.run_append, hacquired.run,
        Option.bind_some, Runs.run_cons]
      simp only [step, hacquired.current]
      rfl

/-- The call for which there is no room after the sessions of `fillRun`. -/
theorem full_failedCall : ∃ s₀ s s' : Plane Bool,
    Runs.run (step id) (initial 0) (fillRun maxControlSessions) = some s₀ ∧
      FailedCall id 0 (fillCall maxControlSessions) s₀ fillSteps s (.storeSession 0) s' ∧
      s'.leases.live s'.clock (leaseKey id (fillDevice maxControlSessions)) =
        some ⟨fillSession maxControlSessions, controlLeaseDuration⟩ := by
  obtain ⟨s₀, hrun, hs⟩ := filled maxControlSessions le_rfl
  obtain ⟨s, hacquired⟩ := hs.acquired (by decide)
  have hlast : step id s (.storeSession 0) =
      some ((s.putSession (fillCall maxControlSessions) sampleRoute).endCreate 0) := by
    simp only [step, hacquired.current]
    rfl
  have herror : createError id s (.storeSession 0) = some .unavailable := by
    simp only [createError, hacquired.current, Option.bind_some]
    exact if_pos (hs.full hacquired.sessions)
  refine ⟨s₀, s, _, hrun, ⟨hacquired.run, hacquired.current, hacquired.underWay, rfl, ?_, hlast⟩,
    ?_⟩
  · rw [herror]
    exact Option.some_ne_none _
  · change s.leases.live s.clock _ = _
    rw [hacquired.clock, hacquired.leases, ExpiringStore.live_eq_some_iff]
    exact ⟨ExpiringStore.set_self _ _ _ _, by decide⟩

/-- After an error no lease is live that names the session of the call. -/
def LeasesRestored (digest : String → String) : Prop :=
  ∀ clock before (s₀ s s' : Plane Bool) call c acts a,
    Runs.run (step digest) (initial clock) before = some s₀ →
    FailedCall digest call c s₀ acts s a s' →
    ∀ entry, s'.leases.live s'.clock (leaseKey digest c.request.deviceID) = some entry →
      entry.value ≠ c.sessionID

/-- The session table is full, and the lease stays without a session. -/
theorem create_error_counterexample : ¬ LeasesRestored id := by
  intro hrestored
  obtain ⟨s₀, s, s', hrun, hfailed, hlive⟩ := full_failedCall
  exact hrestored 0 _ s₀ s s' 0 _ _ _ hrun hfailed _ hlive rfl

theorem create_error_leases_full : ∃ s₀ s s' : Plane Bool,
    FailedCall id 0 (fillCall maxControlSessions) s₀ fillSteps s (.storeSession 0) s' ∧
      (Runs.Along (step id) (KeepsLeases id 0) s₀
          ((fillCall maxControlSessions).trace 0 fillSteps (.storeSession 0)) ∨
        ∃ t t', OneGrant id 0 (fillCall maxControlSessions) s₀
          ((fillCall maxControlSessions).trace 0 fillSteps (.storeSession 0)) t t') := by
  obtain ⟨s₀, s, s', -, hfailed, -⟩ := full_failedCall
  refine ⟨s₀, s, s', hfailed, ?_⟩
  rcases (create_error_leases id).2.1 s₀ s s' 0 _ _ _ hfailed with hkeeps | ⟨-, t, t', hgrant, -⟩
  · exact Or.inl hkeeps
  · exact Or.inr ⟨t, t', hgrant⟩

end Plane
end GcsSaker.Control
