import GcsSaker.ControlPlaneSteps

/-!
# The two sequence counters of a control session

The application counts the numbers it has handed out, the sequence ledger the numbers it has
accepted. `Numbered` is what holds of both in every run: numbers are handed out once, and the
ledger accepts them one after the other from one on. A number that is handed out and never
accepted, or a ledger key that runs out in between, leaves the counters apart for good; and what
is accepted in order may still overtake on the way to the broker.
-/

namespace GcsSaker.Control

variable {ι : Type*}

/-- The number that the sequence ledger has accepted last for a session, zero if none. -/
def lastAccepted (sessionID : String) : List (PlaneEvent ι) → ℕ
  | [] => 0
  | .accepted session sequence :: older =>
    if session = sessionID then sequence else lastAccepted sessionID older
  | .acquired _ _ _ _ :: older => lastAccepted sessionID older
  | .refused _ _ :: older => lastAccepted sessionID older
  | .published _ _ _ :: older => lastAccepted sessionID older

/-- The numbers of the commands of a session in the order of the MQTT client's calls, the latest
first. -/
def publishedSequences (sessionID : String) : List (PlaneEvent ι) → List ℕ
  | [] => []
  | .published _ command _ :: older =>
    if command.controlSessionId = sessionID then
      command.sequence :: publishedSequences sessionID older
    else publishedSequences sessionID older
  | .acquired _ _ _ _ :: older => publishedSequences sessionID older
  | .accepted _ _ :: older => publishedSequences sessionID older
  | .refused _ _ :: older => publishedSequences sessionID older

/-- `newID` gives session ids whose digests are new. -/
def FreshIDs (digest : String → String) (s : Plane ι) : Action ι → Prop
  | .create _ _ _ newID => ∀ sessionID ∈ newID, ∀ id ∈ s.issued, digest id ≠ digest sessionID
  | _ => True

instance (digest : String → String) (s : Plane ι) : ∀ a : Action ι, Decidable (FreshIDs digest s a)
  | .create _ _ _ newID =>
      inferInstanceAs
        (Decidable (∀ sessionID ∈ newID, ∀ id ∈ s.issued, digest id ≠ digest sessionID))
  | .tick .. => inferInstanceAs (Decidable True)
  | .authorizeCreate .. => inferInstanceAs (Decidable True)
  | .acquire .. => inferInstanceAs (Decidable True)
  | .storeSession .. => inferInstanceAs (Decidable True)
  | .submit .. => inferInstanceAs (Decidable True)
  | .proceed .. => inferInstanceAs (Decidable True)
  | .reserve .. => inferInstanceAs (Decidable True)
  | .acceptSequence .. => inferInstanceAs (Decidable True)
  | .handOver .. => inferInstanceAs (Decidable True)

/-- No command, number or map entry of the session id has been seen yet. -/
structure Plane.Unused (s : Plane ι) (sessionID : String) : Prop where
  sessions : ∀ app, (s.sessions app).lookup sessionID = none
  calls : ∀ call c, s.submitting.lookup call = some c → c.sessionID ≠ sessionID
  accepted : lastAccepted sessionID s.log = 0

/-- The invariant of the sequence numbers. -/
structure Plane.Numbered (digest : String → String) (s : Plane ι) : Prop where
  issued_injective : ∀ id ∈ s.issued, ∀ id' ∈ s.issued, digest id = digest id' → id = id'
  creating_issued : ∀ call c, s.creating.lookup call = some c → c.sessionID ∈ s.issued
  creating_unused : ∀ call c, s.creating.lookup call = some c → s.Unused c.sessionID
  creating_unique : ∀ call call' c c', s.creating.lookup call = some c →
    s.creating.lookup call' = some c' → c'.sessionID = c.sessionID → call' = call
  session_issued : ∀ app sessionID state, (s.sessions app).lookup sessionID = some state →
    sessionID ∈ s.issued
  session_unique : ∀ app app' sessionID state state',
    (s.sessions app).lookup sessionID = some state →
    (s.sessions app').lookup sessionID = some state' → app' = app
  session_next : ∀ app sessionID state, (s.sessions app).lookup sessionID = some state →
    lastAccepted sessionID s.log < state.nextSequence
  call_issued : ∀ call c, s.submitting.lookup call = some c → c.sessionID ∈ s.issued
  call_below : ∀ call c app state, s.submitting.lookup call = some c →
    (s.sessions app).lookup c.sessionID = some state → c.request.sequence < state.nextSequence
  call_accepted : ∀ call c, s.submitting.lookup call = some c →
    (c.stage.isAccepted = true ↔ c.request.sequence ≤ lastAccepted c.sessionID s.log)
  call_unique : ∀ call call' c c', s.submitting.lookup call = some c →
    s.submitting.lookup call' = some c' → c'.sessionID = c.sessionID →
    c'.request.sequence = c.request.sequence → call' = call
  counter : ∀ sessionID ∈ s.issued,
    ((s.sequences (sequenceKey digest sessionID)).map (·.value)).getD 0 =
      lastAccepted sessionID s.log
  counter_issued : ∀ key e, s.sequences key = some e →
    ∃ sessionID ∈ s.issued, key = sequenceKey digest sessionID
  log_issued : ∀ sessionID, lastAccepted sessionID s.log ≠ 0 → sessionID ∈ s.issued

/-- A step after which every call in progress is one of before, with the same number and as
accepted as it was, and all else that `Numbered` speaks of is as it was. -/
structure Plane.Unnumbered (s s' : Plane ι) : Prop where
  sessions : s'.sessions = s.sessions
  sequences : s'.sequences = s.sequences
  issued : s'.issued = s.issued
  log : ∀ sessionID, lastAccepted sessionID s'.log = lastAccepted sessionID s.log
  creating : ∀ call c', s'.creating.lookup call = some c' →
    ∃ c, s.creating.lookup call = some c ∧ c'.sessionID = c.sessionID
  submitting : ∀ call c', s'.submitting.lookup call = some c' →
    ∃ c, s.submitting.lookup call = some c ∧ c'.sessionID = c.sessionID ∧
      c'.request = c.request ∧ c'.stage.isAccepted = c.stage.isAccepted

namespace Plane

variable {digest : String → String} {s s' : Plane ι}

theorem sequenceKey_inj {id id' : String} (h : sequenceKey digest id = sequenceKey digest id') :
    digest id = digest id' :=
  (String.append_right_inj "gcs-saker:control-sequence:v1:").mp h

theorem Numbered.unnumbered (h : s.Numbered digest) (hs : s.Unnumbered s') :
    s'.Numbered digest := by
  have hunused : ∀ id, s.Unused id → s'.Unused id := by
    intro id hid
    refine ⟨fun app => hs.sessions ▸ hid.sessions app, fun call c' hc' => ?_,
      (hs.log id).trans hid.accepted⟩
    obtain ⟨c, hc, hsession, -, -⟩ := hs.submitting call c' hc'
    exact hsession ▸ hid.calls call c hc
  refine
    { issued_injective := hs.issued ▸ h.issued_injective
      creating_issued := fun call c' hc' => ?_
      creating_unused := fun call c' hc' => ?_
      creating_unique := fun call k c' k' hc' hk' hid => ?_
      session_issued := fun app id state hst => hs.issued ▸ h.session_issued app id state
        (hs.sessions ▸ hst)
      session_unique := fun app app' id state state' hst hst' => h.session_unique app app' id state
        state' (hs.sessions ▸ hst) (hs.sessions ▸ hst')
      session_next := fun app id state hst => hs.log id ▸ h.session_next app id state
        (hs.sessions ▸ hst)
      call_issued := fun call c' hc' => ?_
      call_below := fun call c' app state hc' hst => ?_
      call_accepted := fun call c' hc' => ?_
      call_unique := fun call k c' k' hc' hk' hid hseq => ?_
      counter := fun id hid => ?_
      counter_issued := fun key e he => ?_
      log_issued := fun id hid => hs.issued ▸ h.log_issued id (hs.log id ▸ hid) }
  · obtain ⟨c, hc, hid⟩ := hs.creating call c' hc'
    rw [hs.issued, hid]
    exact h.creating_issued call c hc
  · obtain ⟨c, hc, hid⟩ := hs.creating call c' hc'
    exact hunused _ (hid ▸ h.creating_unused call c hc)
  · obtain ⟨c, hc, he⟩ := hs.creating call c' hc'
    obtain ⟨d, hd, he'⟩ := hs.creating k k' hk'
    exact h.creating_unique call k c d hc hd (by rw [← he, ← he', hid])
  · obtain ⟨c, hc, hid, -, -⟩ := hs.submitting call c' hc'
    rw [hs.issued, hid]
    exact h.call_issued call c hc
  · obtain ⟨c, hc, hid, hreq, -⟩ := hs.submitting call c' hc'
    rw [hs.sessions, hid] at hst
    exact hreq ▸ h.call_below call c app state hc hst
  · obtain ⟨c, hc, hid, hreq, hacc⟩ := hs.submitting call c' hc'
    rw [hacc, hreq, hid, hs.log]
    exact h.call_accepted call c hc
  · obtain ⟨c, hc, he, hreq, -⟩ := hs.submitting call c' hc'
    obtain ⟨d, hd, he', hreq', -⟩ := hs.submitting k k' hk'
    exact h.call_unique call k c d hc hd (by rw [← he, ← he', hid]) (by rw [← hreq, ← hreq', hseq])
  · rw [hs.sequences, hs.log]
    exact h.counter id (hs.issued ▸ hid)
  · rw [hs.issued]
    exact h.counter_issued key e (hs.sequences ▸ he)

/-- A new id: nothing has been counted for it. -/
theorem Numbered.unused_of_not_issued (h : s.Numbered digest) {id : String} (hid : id ∉ s.issued) :
    s.Unused id := by
  refine ⟨fun app => ?_, fun call c hc he => hid (he ▸ h.call_issued call c hc), ?_⟩
  · cases hst : (s.sessions app).lookup id with
    | none => rfl
    | some state => exact (hid (h.session_issued app id state hst)).elim
  · by_contra hne
    exact hid (h.log_issued id hne)

theorem Numbered.started (h : s.Numbered digest) {call : ℕ} {c : CreateCall ι}
    (hfresh : ∀ id ∈ s.issued, digest id ≠ digest c.sessionID)
    (hs' : s' = { s with
      creating := s.creating.insert call c
      issued := c.sessionID :: s.issued }) : s'.Numbered digest := by
  subst hs'
  have hnew : c.sessionID ∉ s.issued := fun hmem => hfresh _ hmem rfl
  have hkey : s.sequences (sequenceKey digest c.sessionID) = none := by
    cases he : s.sequences (sequenceKey digest c.sessionID) with
    | none => rfl
    | some e =>
        obtain ⟨id, hid, hk⟩ := h.counter_issued _ e he
        exact (hfresh id hid (sequenceKey_inj hk.symm)).elim
  refine
    { issued_injective := ?_
      creating_issued := fun k d hd => ?_
      creating_unused := fun k d hd => ?_
      creating_unique := fun k k' d d' hd hd' hid => ?_
      session_issued := fun app id state hst => List.mem_cons_of_mem _
        (h.session_issued app id state hst)
      session_unique := h.session_unique
      session_next := h.session_next
      call_issued := fun k d hd => List.mem_cons_of_mem _ (h.call_issued k d hd)
      call_below := h.call_below
      call_accepted := h.call_accepted
      call_unique := h.call_unique
      counter := fun id hid => ?_
      counter_issued := fun key e he => ?_
      log_issued := fun id hid => List.mem_cons_of_mem _ (h.log_issued id hid) }
  · intro id hid id' hid' he
    rcases List.mem_cons.mp hid with rfl | hid <;> rcases List.mem_cons.mp hid' with rfl | hid'
    · rfl
    · exact (hfresh id' hid' he.symm).elim
    · exact (hfresh id hid he).elim
    · exact h.issued_injective id hid id' hid' he
  · rcases GoMap.lookup_insert_cases hd with ⟨-, rfl⟩ | ⟨-, hold⟩
    · exact List.mem_cons_self
    · exact List.mem_cons_of_mem _ (h.creating_issued k d hold)
  · have hu : s.Unused d.sessionID := by
      rcases GoMap.lookup_insert_cases hd with ⟨-, rfl⟩ | ⟨-, hold⟩
      · exact h.unused_of_not_issued hnew
      · exact h.creating_unused k d hold
    exact ⟨hu.sessions, hu.calls, hu.accepted⟩
  · rcases GoMap.lookup_insert_cases hd with ⟨rfl, rfl⟩ | ⟨-, hold⟩ <;>
      rcases GoMap.lookup_insert_cases hd' with ⟨rfl, rfl⟩ | ⟨-, hold'⟩
    · rfl
    · exact (hnew (hid ▸ h.creating_issued k' d' hold')).elim
    · exact (hnew (hid ▸ h.creating_issued k d hold)).elim
    · exact h.creating_unique k k' d d' hold hold' hid
  · rcases List.mem_cons.mp hid with rfl | hid
    · rw [hkey, (h.unused_of_not_issued hnew).accepted]
      rfl
    · exact h.counter id hid
  · obtain ⟨id, hid, hk⟩ := h.counter_issued key e he
    exact ⟨id, List.mem_cons_of_mem _ hid, hk⟩

/-- The ledger accepts a number: it is the one after the last, and whoever else is in progress has
a larger number or was accepted before. -/
theorem Numbered.accepted_next (h : s.Numbered digest) {call : ℕ} {c : SubmitCall ι}
    (hc : s.submitting.lookup call = some c) (hstage : c.stage.isAccepted = false)
    (hseq : c.request.sequence =
      ((s.sequences.live s.clock (sequenceKey digest c.sessionID)).map (·.value)).getD 0 + 1) :
    c.request.sequence = lastAccepted c.sessionID s.log + 1 := by
  have habove : lastAccepted c.sessionID s.log < c.request.sequence := by
    by_contra hle
    rw [(h.call_accepted call c hc).mpr (not_lt.mp hle)] at hstage
    cases hstage
  have hcounter := h.counter c.sessionID (h.call_issued call c hc)
  cases hlive : s.sequences.live s.clock (sequenceKey digest c.sessionID) with
  | none =>
      simp only [hlive, Option.map_none, Option.getD_none] at hseq
      omega
  | some e =>
      simp only [hlive, Option.map_some, Option.getD_some] at hseq
      simp only [(ExpiringStore.live_eq_some_iff.mp hlive).1, Option.map_some,
        Option.getD_some] at hcounter
      omega

/-- The number that the ledger accepts from a call is the next one of its session. -/
theorem Numbered.accepting_next (h : s.Numbered digest) (hcons : s.Consistent) {call : ℕ}
    {c : SubmitCall ι} {command : ControlCommandEnvelope} {milliseconds : ℤ}
    (hc : s.submitting.lookup call = some c) (hstage : c.stage = .accepting command milliseconds)
    (hseq : command.sequence =
      ((s.sequences.live s.clock (sequenceKey digest command.controlSessionId)).map
        (·.value)).getD 0 + 1) :
    command.controlSessionId = c.sessionID ∧ command.sequence = c.request.sequence ∧
      c.request.sequence = lastAccepted c.sessionID s.log + 1 := by
  obtain ⟨hid, -, hnum⟩ := hcons call c hc command (by rw [hstage]; rfl)
  rw [hid, hnum] at hseq
  exact ⟨hid, hnum, h.accepted_next hc (by rw [hstage]; rfl) hseq⟩

theorem lastAccepted_cons (id id' : String) (n : ℕ) (log : List (PlaneEvent ι)) :
    lastAccepted id' (.accepted id n :: log) = if id = id' then n else lastAccepted id' log := rfl

theorem publishedSequences_cons (id : String) (app : ι) (command : ControlCommandEnvelope) (now : ℤ)
    (log : List (PlaneEvent ι)) : publishedSequences id (.published app command now :: log) =
      if command.controlSessionId = id then command.sequence :: publishedSequences id log
      else publishedSequences id log := rfl

theorem Numbered.accepted (h : s.Numbered digest) {call : ℕ} {c : SubmitCall ι} {expiresAt : ℤ}
    (hc : s.submitting.lookup call = some c)
    (hnext : c.request.sequence = lastAccepted c.sessionID s.log + 1)
    (hsessions : s'.sessions = s.sessions) (hcreating : s'.creating = s.creating)
    (hissued : s'.issued = s.issued)
    (hsequences : s'.sequences =
      s.sequences.set (sequenceKey digest c.sessionID) c.request.sequence expiresAt)
    (hlog : s'.log = .accepted c.sessionID c.request.sequence :: s.log)
    (hsubmitting : ∀ k d', s'.submitting.lookup k = some d' → ∃ d,
      s.submitting.lookup k = some d ∧ d'.sessionID = d.sessionID ∧ d'.request = d.request ∧
        ((k = call ∧ d'.stage.isAccepted = true) ∨
          (k ≠ call ∧ d'.stage.isAccepted = d.stage.isAccepted))) :
    s'.Numbered digest := by
  have hlast : ∀ id, lastAccepted id s'.log =
      if c.sessionID = id then c.request.sequence else lastAccepted id s.log := fun id => by
    rw [hlog, lastAccepted_cons]
  have hissuedc := h.call_issued call c hc
  refine
    { issued_injective := hissued ▸ h.issued_injective
      creating_issued := fun k d hd => hissued ▸ h.creating_issued k d (hcreating ▸ hd)
      creating_unused := fun k d hd => ?_
      creating_unique := fun k k' d d' hd hd' => h.creating_unique k k' d d' (hcreating ▸ hd)
        (hcreating ▸ hd')
      session_issued := fun app id state hst => hissued ▸ h.session_issued app id state
        (hsessions ▸ hst)
      session_unique := fun app app' id state state' hst hst' => h.session_unique app app' id state
        state' (hsessions ▸ hst) (hsessions ▸ hst')
      session_next := fun app id state hst => ?_
      call_issued := fun k d' hd' => ?_
      call_below := fun k d' app state hd' hst => ?_
      call_accepted := fun k d' hd' => ?_
      call_unique := fun k l d' e' hd' he' hid hseq => ?_
      counter := fun id hid => ?_
      counter_issued := fun key e he => ?_
      log_issued := fun id hid => ?_ }
  · have hu := h.creating_unused k d (hcreating ▸ hd)
    have hne : c.sessionID ≠ d.sessionID := hu.calls call c hc
    refine ⟨fun app => hsessions ▸ hu.sessions app, fun l e' he' => ?_, ?_⟩
    · obtain ⟨e, he, hid, -⟩ := hsubmitting l e' he'
      exact hid ▸ hu.calls l e he
    · rw [hlast, if_neg hne, hu.accepted]
  · rw [hsessions] at hst
    rw [hlast]
    split_ifs with hid
    · subst hid
      exact h.call_below call c app state hc hst
    · exact h.session_next app id state hst
  · obtain ⟨d, hd, hid, -⟩ := hsubmitting k d' hd'
    rw [hissued, hid]
    exact h.call_issued k d hd
  · obtain ⟨d, hd, hid, hreq, -⟩ := hsubmitting k d' hd'
    rw [hsessions, hid] at hst
    exact hreq ▸ h.call_below k d app state hd hst
  · obtain ⟨d, hd, hid, hreq, ⟨rfl, hacc⟩ | ⟨hk, hacc⟩⟩ := hsubmitting k d' hd'
    · obtain rfl := Option.some.inj (hc.symm.trans hd)
      rw [hacc, hlast, hid, hreq, if_pos rfl]
      exact iff_of_true rfl le_rfl
    · rw [hacc, hlast, hid, hreq, h.call_accepted k d hd]
      split_ifs with hs
      · have hne : d.request.sequence ≠ c.request.sequence := fun he =>
          hk (h.call_unique call k c d hc hd hs.symm he)
        rw [← hs]
        omega
      · rfl
  · obtain ⟨d, hd, hdid, hdreq, -⟩ := hsubmitting k d' hd'
    obtain ⟨e, he, heid, hereq, -⟩ := hsubmitting l e' he'
    exact h.call_unique k l d e hd he (by rw [← hdid, ← heid, hid])
      (by rw [← hdreq, ← hereq, hseq])
  · rw [hissued] at hid
    rw [hsequences, hlast]
    by_cases hs : c.sessionID = id
    · rw [← hs, ExpiringStore.set_self, if_pos rfl]
      rfl
    · have hkey : sequenceKey digest id ≠ sequenceKey digest c.sessionID := fun he =>
        hs (h.issued_injective id hid c.sessionID hissuedc (sequenceKey_inj he)).symm
      rw [ExpiringStore.set_of_ne _ _ _ hkey, if_neg hs]
      exact h.counter id hid
  · rw [hissued]
    rw [hsequences] at he
    by_cases hk : key = sequenceKey digest c.sessionID
    · exact ⟨c.sessionID, hissuedc, hk⟩
    · rw [ExpiringStore.set_of_ne _ _ _ hk] at he
      exact h.counter_issued key e he
  · rw [hissued]
    rw [hlast] at hid
    by_cases hs : c.sessionID = id
    · exact hs ▸ hissuedc
    · rw [if_neg hs] at hid
      exact h.log_issued id hid

theorem creating_of_erase {call : ℕ} (hs' : s'.creating = s.creating.erase call) :
    ∀ k c', s'.creating.lookup k = some c' →
      ∃ c, s.creating.lookup k = some c ∧ c'.sessionID = c.sessionID := by
  intro k c' hc'
  rw [hs'] at hc'
  exact ⟨c', GoMap.lookup_of_lookup_erase hc', rfl⟩

theorem creating_of_insert {call : ℕ} {c : CreateCall ι} {stage : CreateStage}
    (hc : s.creating.lookup call = some c)
    (hs' : s'.creating = s.creating.insert call { c with stage := stage }) :
    ∀ k c', s'.creating.lookup k = some c' →
      ∃ c, s.creating.lookup k = some c ∧ c'.sessionID = c.sessionID := by
  intro k c' hc'
  rw [hs'] at hc'
  rcases GoMap.lookup_insert_cases hc' with ⟨rfl, rfl⟩ | ⟨-, hold⟩
  · exact ⟨c, hc, rfl⟩
  · exact ⟨c', hold, rfl⟩

theorem submitting_of_erase {call : ℕ} (hs' : s'.submitting = s.submitting.erase call) :
    ∀ k c', s'.submitting.lookup k = some c' → ∃ c, s.submitting.lookup k = some c ∧
      c'.sessionID = c.sessionID ∧ c'.request = c.request ∧
        c'.stage.isAccepted = c.stage.isAccepted := by
  intro k c' hc'
  rw [hs'] at hc'
  exact ⟨c', GoMap.lookup_of_lookup_erase hc', rfl, rfl, rfl⟩

theorem submitting_of_insert {call : ℕ} {c : SubmitCall ι} {stage : SubmitStage}
    (hc : s.submitting.lookup call = some c) (hstage : c.stage.isAccepted = stage.isAccepted)
    (hs' : s'.submitting = s.submitting.insert call { c with stage := stage }) :
    ∀ k c', s'.submitting.lookup k = some c' → ∃ c, s.submitting.lookup k = some c ∧
      c'.sessionID = c.sessionID ∧ c'.request = c.request ∧
        c'.stage.isAccepted = c.stage.isAccepted := by
  intro k c' hc'
  rw [hs'] at hc'
  rcases GoMap.lookup_insert_cases hc' with ⟨rfl, rfl⟩ | ⟨-, hold⟩
  · exact ⟨c, hc, rfl, rfl, hstage.symm⟩
  · exact ⟨c', hold, rfl, rfl, rfl⟩

theorem initial_numbered (digest : String → String) (clock : ℤ) :
    (initial clock : Plane ι).Numbered digest := by
  refine
    { issued_injective := fun id hid => absurd hid List.not_mem_nil
      creating_issued := fun call c hc => ?_
      creating_unused := fun call c hc => ?_
      creating_unique := fun call call' c c' hc => ?_
      session_issued := fun app id state hst => ?_
      session_unique := fun app app' id state state' hst => ?_
      session_next := fun app id state hst => ?_
      call_issued := fun call c hc => ?_
      call_below := fun call c app state hc => ?_
      call_accepted := fun call c hc => ?_
      call_unique := fun call call' c c' hc => ?_
      counter := fun id hid => absurd hid List.not_mem_nil
      counter_issued := fun key e he => ?_
      log_issued := fun id hid => (hid rfl).elim }
  all_goals
    first
    | simp only [initial, AList.lookup_empty, reduceCtorEq] at hc
    | simp only [initial, AList.lookup_empty, reduceCtorEq] at hst
    | cases he

theorem initial_consistent (clock : ℤ) : (initial clock : Plane ι).Consistent := by
  intro call c hc
  simp only [initial, AList.lookup_empty, reduceCtorEq] at hc

variable [DecidableEq ι]

theorem Numbered.stored (h : s.Numbered digest) {call : ℕ} {c : CreateCall ι}
    {route : InternalRoute} (hc : s.creating.lookup call = some c) :
    ((s.putSession c route).endCreate call).Numbered digest := by
  have hu := h.creating_unused call c hc
  refine
    { issued_injective := h.issued_injective
      creating_issued := fun k d hd => h.creating_issued k d (GoMap.lookup_of_lookup_erase hd)
      creating_unused := fun k d hd => ?_
      creating_unique := fun k k' d d' hd hd' => h.creating_unique k k' d d'
        (GoMap.lookup_of_lookup_erase hd) (GoMap.lookup_of_lookup_erase hd')
      session_issued := fun app id state hst => ?_
      session_unique := fun app app' id state state' hst hst' => ?_
      session_next := fun app id state hst => ?_
      call_issued := h.call_issued
      call_below := fun k d app state hd hst => ?_
      call_accepted := h.call_accepted
      call_unique := h.call_unique
      counter := h.counter
      counter_issued := h.counter_issued
      log_issued := h.log_issued }
  · obtain ⟨hk, hd⟩ := GoMap.lookup_erase_cases hd
    have hud := h.creating_unused k d hd
    refine ⟨fun app => ?_, hud.calls, hud.accepted⟩
    cases hst : (((s.putSession c route).endCreate call).sessions app).lookup d.sessionID with
    | none => rfl
    | some state =>
        rcases lookup_putSession hst with hold | ⟨-, hid, -⟩
        · rw [hud.sessions app] at hold
          cases hold
        · exact (hk (h.creating_unique call k c d hc hd hid)).elim
  · rcases lookup_putSession hst with hold | ⟨-, rfl, -⟩
    · exact h.session_issued app id state hold
    · exact h.creating_issued call c hc
  · rcases lookup_putSession hst with hold | ⟨rfl, rfl, -⟩ <;>
      rcases lookup_putSession hst' with hold' | ⟨rfl, hid, -⟩
    · exact h.session_unique app app' id state state' hold hold'
    · rw [hid, hu.sessions app] at hold
      cases hold
    · rw [hu.sessions app'] at hold'
      cases hold'
    · rfl
  · rcases lookup_putSession hst with hold | ⟨-, rfl, rfl⟩
    · exact h.session_next app id state hold
    · exact lt_of_eq_of_lt hu.accepted Nat.one_pos
  · rcases lookup_putSession hst with hold | ⟨-, hid, -⟩
    · exact h.call_below k d app state hd hold
    · exact (hu.calls k d hd hid).elim

theorem Numbered.counted (h : s.Numbered digest) {app : ι} {call : ℕ} {id : String}
    {state : ControlSessionState} {request : CommandRequest}
    (hstate : (s.sessions app).lookup id = some state)
    (hseq : request.sequence = state.nextSequence) :
    (s.countCommand app call id state request).Numbered digest := by
  have hissued := h.session_issued app id state hstate
  have hnext := h.session_next app id state hstate
  refine
    { issued_injective := h.issued_injective
      creating_issued := h.creating_issued
      creating_unused := fun k d hd => ?_
      creating_unique := h.creating_unique
      session_issued := fun app' id' state' hst => ?_
      session_unique := fun app₁ app₂ id' st₁ st₂ hst₁ hst₂ => ?_
      session_next := fun app' id' state' hst => ?_
      call_issued := fun k d hd => ?_
      call_below := fun k d app' state' hd hst => ?_
      call_accepted := fun k d hd => ?_
      call_unique := fun k l d e hd he hid hs => ?_
      counter := h.counter
      counter_issued := h.counter_issued
      log_issued := h.log_issued }
  · have hud := h.creating_unused k d hd
    have hne : id ≠ d.sessionID := by
      rintro rfl
      rw [hud.sessions app] at hstate
      cases hstate
    refine ⟨fun app' => ?_, fun l e he => ?_, hud.accepted⟩
    · cases hst : ((s.countCommand app call id state request).sessions app').lookup d.sessionID with
      | none => rfl
      | some state' =>
          rcases lookup_countCommand hst with ⟨hold, -⟩ | ⟨-, hid, -⟩
          · rw [hud.sessions app'] at hold
            cases hold
          · exact (hne hid.symm).elim
    · rcases GoMap.lookup_insert_cases he with ⟨-, rfl⟩ | ⟨-, hold⟩
      · exact hne
      · exact hud.calls l e hold
  · rcases lookup_countCommand hst with ⟨hold, -⟩ | ⟨-, rfl, -⟩
    · exact h.session_issued app' id' state' hold
    · exact hissued
  · rcases lookup_countCommand hst₁ with ⟨hold₁, -⟩ | ⟨rfl, rfl, -⟩ <;>
      rcases lookup_countCommand hst₂ with ⟨hold₂, -⟩ | ⟨rfl, hid, -⟩
    · exact h.session_unique app₁ app₂ id' st₁ st₂ hold₁ hold₂
    · exact h.session_unique app₁ app₂ id' st₁ state hold₁ (hid ▸ hstate)
    · exact h.session_unique app₁ app₂ id' state st₂ hstate hold₂
    · rfl
  · rcases lookup_countCommand hst with ⟨hold, -⟩ | ⟨-, rfl, rfl⟩
    · exact h.session_next app' id' state' hold
    · exact hnext.trans (Nat.lt_succ_self _)
  · rcases GoMap.lookup_insert_cases hd with ⟨-, rfl⟩ | ⟨-, hold⟩
    · exact hissued
    · exact h.call_issued k d hold
  · rcases GoMap.lookup_insert_cases hd with ⟨-, rfl⟩ | ⟨-, hold⟩ <;>
      rcases lookup_countCommand hst with ⟨hst, hne⟩ | ⟨rfl, hid, rfl⟩
    · exact (hne ⟨h.session_unique app app' id state state' hstate hst, rfl⟩).elim
    · exact hseq.trans_lt (Nat.lt_succ_self _)
    · exact h.call_below k d app' state' hold hst
    · exact (h.call_below k d app' state hold (hid ▸ hstate)).trans (Nat.lt_succ_self _)
  · rcases GoMap.lookup_insert_cases hd with ⟨-, rfl⟩ | ⟨-, hold⟩
    · refine iff_of_false Bool.false_ne_true (not_le.mpr ?_)
      exact hnext.trans_eq hseq.symm
    · exact h.call_accepted k d hold
  · have hbelow : ∀ k d, s.submitting.lookup k = some d → d.sessionID = id →
        d.request.sequence ≠ request.sequence := by
      rintro k d hold rfl
      have := h.call_below k d app state hold hstate
      omega
    rcases GoMap.lookup_insert_cases hd with ⟨rfl, rfl⟩ | ⟨-, hold⟩ <;>
      rcases GoMap.lookup_insert_cases he with ⟨rfl, rfl⟩ | ⟨-, hold'⟩
    · rfl
    · exact (hbelow l e hold' hid hs).elim
    · exact (hbelow k d hold hid.symm hs.symm).elim
    · exact h.call_unique k l d e hold hold' hid hs

theorem step_numbered {a : Action ι} (h : s.Numbered digest) (hcons : s.Consistent)
    (hfresh : FreshIDs digest s a) (hstep : step digest s a = some s') : s'.Numbered digest := by
  have hcreating : ∀ call c', s.creating.lookup call = some c' →
      ∃ c, s.creating.lookup call = some c ∧ c'.sessionID = c.sessionID :=
    fun call c hc => ⟨c, hc, rfl⟩
  have hsubmitting : ∀ call c', s.submitting.lookup call = some c' →
      ∃ c, s.submitting.lookup call = some c ∧ c'.sessionID = c.sessionID ∧
        c'.request = c.request ∧ c'.stage.isAccepted = c.stage.isAccepted :=
    fun call c hc => ⟨c, hc, rfl, rfl, rfl⟩
  cases step_moves hstep with
  | ticked now hnow =>
      exact h.unnumbered ⟨rfl, rfl, rfl, fun _ => rfl, hcreating, hsubmitting⟩
  | createRefused app call request => exact h
  | started app call request sessionID hfree => exact h.started (hfresh sessionID rfl) rfl
  | authorized call c route hc =>
      exact h.unnumbered ⟨rfl, rfl, rfl, fun _ => rfl, creating_of_insert hc rfl, hsubmitting⟩
  | createEnded a call =>
      exact h.unnumbered ⟨rfl, rfl, rfl, fun _ => rfl, creating_of_erase rfl, hsubmitting⟩
  | acquired call reply c route hc hstage hfree t hs' s' ht =>
      subst hs'
      rcases ht with rfl | rfl
      · exact h.unnumbered ⟨rfl, rfl, rfl, fun _ => rfl, creating_of_insert hc rfl, hsubmitting⟩
      · exact h.unnumbered ⟨rfl, rfl, rfl, fun _ => rfl, creating_of_erase rfl, hsubmitting⟩
  | stored call c route hc hstage => exact h.stored hc
  | submitRefused app call sessionID request => exact h
  | counted app call sessionID request state hfree hstate hseq => exact h.counted hstate hseq
  | proceeded call answer c stage hc hnext =>
      obtain ⟨-, -, hold, hnew, -⟩ := SubmitCall.next_some hnext
      exact h.unnumbered ⟨rfl, rfl, rfl, fun _ => rfl, hcreating,
        submitting_of_insert hc (hold.trans hnew.symm) rfl⟩
  | returned call answer c hc hnext =>
      exact h.unnumbered ⟨rfl, rfl, rfl, fun _ => rfl, hcreating, submitting_of_erase rfl⟩
  | reserved call reply c command ttl hc hstage reservations =>
      exact h.unnumbered ⟨rfl, rfl, rfl, fun _ => rfl, hcreating,
        submitting_of_insert hc (by rw [hstage]; rfl) rfl⟩
  | notReserved call reply c command ttl hc hstage reservations hwhy =>
      exact h.unnumbered ⟨rfl, rfl, rfl, fun _ => rfl, hcreating, submitting_of_erase rfl⟩
  | accepted call reply c command milliseconds hc hstage hseq t hs' s' ht =>
      subst hs'
      obtain ⟨hid, hnum, hnext⟩ := h.accepting_next hcons hc hstage hseq
      rcases ht with rfl | rfl
      · refine h.accepted hc hnext rfl rfl rfl (by rw [hid, hnum]; rfl) (by rw [hid, hnum]; rfl)
          fun k d' hd' => ?_
        rcases GoMap.lookup_insert_cases hd' with ⟨rfl, rfl⟩ | ⟨hk, hold⟩
        · exact ⟨c, hc, rfl, rfl, Or.inl ⟨rfl, rfl⟩⟩
        · exact ⟨d', hold, rfl, rfl, Or.inr ⟨hk, rfl⟩⟩
      · refine h.accepted hc hnext rfl rfl rfl (by rw [hid, hnum]; rfl) (by rw [hid, hnum]; rfl)
          fun k d' hd' => ?_
        obtain ⟨hk, hold⟩ := GoMap.lookup_erase_cases hd'
        exact ⟨d', hold, rfl, rfl, Or.inr ⟨hk, rfl⟩⟩
  | refused call reply c command milliseconds hc hstage hseq log hlog =>
      refine h.unnumbered ⟨rfl, rfl, rfl, fun _ => ?_, hcreating, submitting_of_erase rfl⟩
      rcases hlog with rfl | rfl <;> rfl
  | notAccepted call reply c command milliseconds hc hstage hwhy =>
      exact h.unnumbered ⟨rfl, rfl, rfl, fun _ => rfl, hcreating, submitting_of_erase rfl⟩
  | handedOver call wire connected c command hc hstage =>
      exact h.unnumbered ⟨rfl, rfl, rfl, fun _ => rfl, hcreating, submitting_of_erase rfl⟩
  | dropped call wire connected c command hc hstage =>
      exact h.unnumbered ⟨rfl, rfl, rfl, fun _ => rfl, hcreating, submitting_of_erase rfl⟩

/-- The ledger never goes back. -/
theorem step_lastAccepted {a : Action ι} (h : s.Numbered digest) (hcons : s.Consistent)
    (hstep : step digest s a = some s') (sessionID : String) :
    lastAccepted sessionID s.log ≤ lastAccepted sessionID s'.log := by
  cases step_moves hstep with
  | accepted call reply c command milliseconds hc hstage hseq t hs' s' ht =>
      subst hs'
      obtain ⟨hid, hnum, hnext⟩ := h.accepting_next hcons hc hstage hseq
      have hle : lastAccepted sessionID s.log ≤ lastAccepted sessionID
          (.accepted command.controlSessionId command.sequence :: s.log) := by
        rw [lastAccepted_cons, hid, hnum]
        split_ifs with hs
        · subst hs
          omega
        · exact le_rfl
      rcases ht with rfl | rfl <;> exact hle
  | acquired call reply c route hc hstage hfree t hs' s' ht =>
      subst hs'
      rcases ht with rfl | rfl <;> exact le_rfl
  | refused call reply c command milliseconds hc hstage hseq log hlog =>
      rcases hlog with rfl | rfl <;> exact le_rfl
  | _ => exact le_rfl

end Plane
end GcsSaker.Control

/-!
# The order of commands on the wire

Acceptance by the sequence ledger and the hand-over to the MQTT client are two steps, and between
them a later command of the same session may pass. Where none does, the numbers on the wire
strictly increase.
-/

namespace GcsSaker.Control

variable {ι : Type*}

/-- A command is handed over only when no earlier command of its session is waiting between the
sequence ledger and the MQTT client. -/
def HandOverInOrder (sessionID : String) (s : Plane ι) : Action ι → Prop
  | .handOver call _ _ => ∀ e ∈ s.submitting.entries, e.1 = call → e.2.sessionID = sessionID →
      ∀ e' ∈ s.submitting.entries, e'.2.sessionID = sessionID → e'.2.stage.isAccepted = true →
        e.2.request.sequence ≤ e'.2.request.sequence
  | _ => True

instance (sessionID : String) (s : Plane ι) :
    ∀ a : Action ι, Decidable (HandOverInOrder sessionID s a)
  | .handOver call _ _ => inferInstanceAs (Decidable (∀ e ∈ s.submitting.entries, e.1 = call →
      e.2.sessionID = sessionID → ∀ e' ∈ s.submitting.entries, e'.2.sessionID = sessionID →
        e'.2.stage.isAccepted = true → e.2.request.sequence ≤ e'.2.request.sequence))
  | .tick .. => inferInstanceAs (Decidable True)
  | .create .. => inferInstanceAs (Decidable True)
  | .authorizeCreate .. => inferInstanceAs (Decidable True)
  | .acquire .. => inferInstanceAs (Decidable True)
  | .storeSession .. => inferInstanceAs (Decidable True)
  | .submit .. => inferInstanceAs (Decidable True)
  | .proceed .. => inferInstanceAs (Decidable True)
  | .reserve .. => inferInstanceAs (Decidable True)
  | .acceptSequence .. => inferInstanceAs (Decidable True)

/-- The sequence numbers of a session's commands strictly increase in the order in which they are
handed to the MQTT client. -/
def Plane.WireOrdered (sessionID : String) (s : Plane ι) : Prop :=
  (publishedSequences sessionID s.log).Pairwise (· > ·)

namespace Plane

/-- The invariant of wire order: what is accepted and not yet handed over is after everything that
was handed over. -/
structure Ordered (digest : String → String) (sessionID : String) (s : Plane ι) : Prop where
  numbered : s.Numbered digest
  consistent : s.Consistent
  published_le : ∀ n ∈ publishedSequences sessionID s.log, n ≤ lastAccepted sessionID s.log
  accepted_gt : ∀ call c, s.submitting.lookup call = some c → c.sessionID = sessionID →
    c.stage.isAccepted = true → ∀ n ∈ publishedSequences sessionID s.log, n < c.request.sequence
  wireOrdered : s.WireOrdered sessionID

theorem initial_ordered (digest : String → String) (sessionID : String) (clock : ℤ) :
    (initial clock : Plane ι).Ordered digest sessionID := by
  refine ⟨initial_numbered digest clock, initial_consistent clock,
    fun n hn => absurd hn List.not_mem_nil, fun call c hc => ?_, List.Pairwise.nil⟩
  simp only [initial, AList.lookup_empty, reduceCtorEq] at hc

variable [DecidableEq ι] {digest : String → String} {sessionID : String} {s s' : Plane ι}

/-- A call that is accepted after a step was accepted before it, or has just got a number beyond
all that were accepted before. -/
theorem step_accepted {a : Action ι} (h : s.Numbered digest)
    (hstep : step digest s a = some s') {call : ℕ} {c' : SubmitCall ι}
    (hc' : s'.submitting.lookup call = some c') (hacc : c'.stage.isAccepted = true) :
    (∃ c, s.submitting.lookup call = some c ∧ c.sessionID = c'.sessionID ∧
      c.request = c'.request ∧ c.stage.isAccepted = true) ∨
    lastAccepted c'.sessionID s.log < c'.request.sequence := by
  cases step_call hstep hc' with
  | same c hold => exact Or.inl ⟨c', hold, rfl, rfl, hacc⟩
  | counted app id state request hstate hseq => cases hacc
  | moved c stage hold hlive hconsistent =>
      cases hold' : c.stage.isAccepted with
      | true => exact Or.inl ⟨c, hold, rfl, rfl, hold'⟩
      | false =>
          refine Or.inr (not_le.mp fun hle => ?_)
          rw [(h.call_accepted call c hold).mpr hle] at hold'
          cases hold'

theorem Ordered.frame {a : Action ι} (h : s.Ordered digest sessionID)
    (hfresh : FreshIDs digest s a) (hstep : step digest s a = some s')
    (hlog : publishedSequences sessionID s'.log = publishedSequences sessionID s.log) :
    s'.Ordered digest sessionID := by
  have hlast := step_lastAccepted h.numbered h.consistent hstep sessionID
  refine ⟨step_numbered h.numbered h.consistent hfresh hstep, step_consistent h.consistent hstep,
    fun n hn => ?_, fun call c' hc' hid hacc n hn => ?_, ?_⟩
  · exact (h.published_le n (hlog ▸ hn)).trans hlast
  · rw [hlog] at hn
    rcases step_accepted h.numbered hstep hc' hacc with ⟨c, hc, he, hreq, hold⟩ | hnew
    · exact hreq ▸ h.accepted_gt call c hc (he.trans hid) hold n hn
    · exact (h.published_le n hn).trans_lt (hid ▸ hnew)
  · unfold WireOrdered
    rw [hlog]
    exact h.wireOrdered

theorem step_ordered {a : Action ι} (h : s.Ordered digest sessionID)
    (hC : FreshIDs digest s a ∧ HandOverInOrder sessionID s a)
    (hstep : step digest s a = some s') : s'.Ordered digest sessionID := by
  obtain ⟨hfresh, horder⟩ := hC
  cases step_moves hstep with
  | acquired call reply c route hc hstage hfree t hs' s' ht =>
      subst hs'
      rcases ht with rfl | rfl <;> exact h.frame hfresh hstep rfl
  | accepted call reply c command milliseconds hc hstage hseq t hs' s' ht =>
      subst hs'
      rcases ht with rfl | rfl <;> exact h.frame hfresh hstep rfl
  | refused call reply c command milliseconds hc hstage hseq log hlog =>
      rcases hlog with rfl | rfl <;> exact h.frame hfresh hstep rfl
  | handedOver call wire connected c command hc hstage =>
      obtain ⟨hid, -, hnum⟩ := h.consistent call c hc command (by rw [hstage]; rfl)
      by_cases hs : c.sessionID = sessionID
      · have hlog : publishedSequences sessionID (.published c.app command s.clock :: s.log) =
            c.request.sequence :: publishedSequences sessionID s.log := by
          rw [publishedSequences_cons, if_pos (hid.trans hs), hnum]
        have hacc : c.stage.isAccepted = true := by rw [hstage]; rfl
        have hle : c.request.sequence ≤ lastAccepted sessionID s.log :=
          hs ▸ (h.numbered.call_accepted call c hc).mp hacc
        have hgt := h.accepted_gt call c hc hs hacc
        refine ⟨step_numbered h.numbered h.consistent hfresh hstep,
          step_consistent h.consistent hstep, fun n hn => ?_, fun k d hd hds hdacc n hn => ?_, ?_⟩
        · change n ∈ publishedSequences sessionID (.published c.app command s.clock :: s.log) at hn
          rw [hlog] at hn
          rcases List.mem_cons.mp hn with rfl | hn
          · exact hle
          · exact h.published_le n hn
        · obtain ⟨hk, hold⟩ := GoMap.lookup_erase_cases hd
          change n ∈ publishedSequences sessionID (.published c.app command s.clock :: s.log) at hn
          rw [hlog] at hn
          rcases List.mem_cons.mp hn with rfl | hn
          · have hfirst := horder ⟨call, c⟩ (AList.mem_lookup_iff.mp hc) rfl hs ⟨k, d⟩
              (AList.mem_lookup_iff.mp hold) hds hdacc
            refine lt_of_le_of_ne hfirst fun he => hk ?_
            exact h.numbered.call_unique call k c d hc hold (hds.trans hs.symm) he.symm
          · exact h.accepted_gt k d hold hds hdacc n hn
        · change (publishedSequences sessionID
            (.published c.app command s.clock :: s.log)).Pairwise (· > ·)
          rw [hlog]
          exact List.pairwise_cons.mpr ⟨hgt, h.wireOrdered⟩
      · refine h.frame hfresh hstep ?_
        change publishedSequences sessionID (.published c.app command s.clock :: s.log) = _
        rw [publishedSequences_cons, if_neg fun he => hs (hid.symm.trans he)]
  | _ => exact h.frame hfresh hstep rfl

/-- In every run in which no command passes an earlier one of its session between the ledger and
the MQTT client, the numbers on the wire strictly increase. -/
theorem run_wireOrdered {digest : String → String} {sessionID : String} {clock : ℤ}
    {acts : List (Action ι)} {s : Plane ι}
    (hC : Runs.Along (step digest)
      (fun s a => FreshIDs digest s a ∧ HandOverInOrder sessionID s a) (initial clock) acts)
    (hrun : Runs.run (step digest) (initial clock) acts = some s) : s.WireOrdered sessionID :=
  (Runs.run_invariant (fun _ _ _ h => step_ordered h) (initial_ordered digest sessionID clock) hC
    hrun).wireOrdered

/-- Two commands submitted at once, and handed over in the order given. -/
def concurrentRun (first second : ℕ) : List (Action Bool) :=
  sampleSession true 0 "cs_00000001" ++ sampleSubmit true 1 "cs_00000001" "MOTION" 1 ++
    sampleSubmit true 2 "cs_00000001" "STOP" 2 ++ sampleAccept 1 ++ sampleAccept 2 ++
    [sampleHandOver first, sampleHandOver second]

theorem run_wireOrdered_concurrent : ∃ s, Runs.run (step id) (initial 0) (concurrentRun 1 2) =
    some s ∧ s.WireOrdered "cs_00000001" := by
  obtain ⟨s, hs⟩ := Option.isSome_iff_exists.mp
    (show (Runs.run (step id) (initial 0) (concurrentRun 1 2)).isSome = true by decide +kernel)
  exact ⟨s, hs, run_wireOrdered (by decide +kernel) hs⟩

/-- The stop command goes on the wire first, and the older motion command after it. -/
theorem overtaken_not_wireOrdered : ∃ s, Runs.run (step id) (initial 0) (concurrentRun 2 1) =
    some s ∧ ¬ s.WireOrdered "cs_00000001" := by
  refine ⟨(Runs.run (step id) (initial 0) (concurrentRun 2 1)).get (by decide +kernel), by simp, ?_⟩
  unfold WireOrdered
  decide +kernel

end Plane
end GcsSaker.Control
