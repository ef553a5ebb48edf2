import GcsSaker.RateLimitFilter

/-!
# The rate limiter keeps its limits

If every poll takes the entry that was peeked, a key is admitted only while there is room, no window
is opened a second time and no counter overflows, then each window has its limit, the tracked keys
have theirs, and an expired window is removed by the calls that come later.
-/

namespace GcsSaker.RateLimitFilter

open Runs (run Along)

/-! ## What the limiter should do -/

/-- The window is in the map. -/
def State.Tracked (state : State) (window : WindowExpiry) : Prop :=
  (state.windows.lookup window.key).map WindowCounter.resetAtMillis = some window.resetAtMillis

instance {state : State} : DecidablePred state.Tracked :=
  fun _ => inferInstanceAs (Decidable (_ = _))

/-- The entry that the call adds to the queue next. -/
def Call.adding (call : Call) : Option WindowExpiry :=
  match call.stage with
  | .add next => some ⟨call.key, next.resetAtMillis⟩
  | _ => none

/-- The entry that the call has taken from the queue and whose window it removes next. -/
def Call.removing (call : Call) : Option WindowExpiry :=
  match call.stage with
  | .remove _ expiry => some expiry
  | _ => none

/-- The call has come past the clean-up. -/
def Call.cleaned (call : Call) : Bool :=
  match call.stage with
  | .peek _ | .poll _ _ | .remove _ _ => false
  | _ => true

/-- The number of calls that were counted in the window and allowed. -/
def State.allowedIn (state : State) (window : WindowExpiry) : ℕ :=
  state.counted.countP fun counted => counted.window = window ∧ counted.allowed

structure LimitsKept (limiter : FixedWindowRateLimiter) (state : State) : Prop where
  requests : ∀ window, state.allowedIn window ≤ limiter.maxRequests.toInt.toNat
  trackedKeys : state.windows.keys.length ≤ limiter.maxTrackedKeys.toInt.toNat
  accounted : ∀ window, state.Tracked window → window ∈ state.expirations ∨
    ∃ call ∈ state.calls, call.adding = some window ∨ call.removing = some window

/-- Windows of the queue that have expired, and so have all before them, are removed once enough
later calls have come past the clean-up. -/
def ExpiredRemoved (state later : State) : Prop :=
  ∀ ahead behind, state.expirations = ahead ++ behind →
    (∀ expiry ∈ ahead, expiry.resetAtMillis ≤ state.clock) →
    ahead.length ≤ MAX_EXPIRY_CLEANUP_PER_REQUEST *
      (later.calls.drop state.calls.length).countP Call.cleaned →
    ∀ expiry ∈ ahead, later.Tracked expiry → ∃ call ∈ later.calls, call.removing = some expiry

/-! ## Orderly steps -/

/-- A call was counted in the window. -/
def State.Used (state : State) (window : WindowExpiry) : Prop :=
  ∃ counted ∈ state.counted, counted.window = window

instance {state : State} : DecidablePred state.Used :=
  fun _ => inferInstanceAs (Decidable (∃ _ ∈ _, _))

/-- A poll takes no entry of a tracked window but the one that was peeked; a key is admitted while
there is room; a window that is opened was not open before; a counter that is raised can be. -/
def State.Orderly (limiter : FixedWindowRateLimiter) (state : State) : Action → Prop
  | .proceed index =>
    match state.calls[index]? with
    | some ⟨_, _, .poll _ expiry⟩ =>
      ∀ polled ∈ state.expirations.head?, polled = expiry ∨ ¬state.Tracked polled
    | some ⟨key, nowMillis, .compute⟩ =>
      match state.windows.lookup key with
      | none => state.windows.keys.length < limiter.maxTrackedKeys.toInt ∧
          ¬state.Used ⟨key, nowMillis + limiter.windowMillis⟩
      | some current =>
        if current.resetAtMillis ≤ nowMillis then
          ¬state.Used ⟨key, nowMillis + limiter.windowMillis⟩
        else current.count ≠ Int32.maxValue
    | _ => True
  | _ => True

instance {limiter : FixedWindowRateLimiter} {state : State} :
    DecidablePred (state.Orderly limiter) := fun action => by
  unfold State.Orderly
  split
  · split
    · infer_instance
    · split <;> infer_instance
    · infer_instance
  · infer_instance

/-! ## The invariant -/

/-- The entry that the call at the index adds next. -/
def State.addingAt (state : State) (index : ℕ) : Option WindowExpiry :=
  state.calls[index]?.bind Call.adding

/-- What holds of the windows and the counted calls. -/
structure WindowsRight (limiter : FixedWindowRateLimiter) (state : State) : Prop where
  trackedKeys : state.windows.keys.length ≤ limiter.maxTrackedKeys.toInt.toNat
  count : ∀ key current, state.windows.lookup key = some current → current.count.toInt =
    state.counted.countP fun counted => counted.window = ⟨key, current.resetAtMillis⟩
  allowed : ∀ window, state.allowedIn window =
    min (state.counted.countP fun counted => counted.window = window)
      limiter.maxRequests.toInt.toNat

/-- What holds of the queue and the calls. -/
structure QueueRight (limiter : FixedWindowRateLimiter) (state : State) : Prop where
  accounted : ∀ window, state.Tracked window → window ∈ state.expirations ∨
    ∃ call ∈ state.calls, call.adding = some window ∨ call.removing = some window
  queue : state.expirations = state.queued.drop state.polled
  polled : state.polled ≤ state.queued.length
  nodup : state.queued.Nodup
  used : ∀ expiry ∈ state.queued, state.Used expiry
  fresh : ∀ index expiry, state.addingAt index = some expiry →
    expiry ∉ state.queued ∧ state.Used expiry
  single : ∀ index index' expiry, state.addingAt index = some expiry →
    state.addingAt index' = some expiry → index = index'
  denies : limiter.maxRequests ≤ 0 →
    state.queued = [] ∧ ∀ call ∈ state.calls, ∃ decision, call.stage = .ended decision

variable {limiter : FixedWindowRateLimiter} {state : State} {index : ℕ} {call : Call}

theorem initial_windowsRight (start : ℤ) : WindowsRight limiter (.initial start) where
  trackedKeys := Nat.zero_le _
  count _ _ h := nomatch h
  allowed _ := (Nat.zero_min _).symm

theorem initial_queueRight (start : ℤ) : QueueRight limiter (.initial start) where
  accounted _ h := nomatch h
  queue := rfl
  polled := Nat.le_refl _
  nodup := List.nodup_nil
  used _ h := absurd h List.not_mem_nil
  fresh _ _ h := nomatch h
  single _ _ _ h := nomatch h
  denies _ := ⟨rfl, fun _ h => absurd h List.not_mem_nil⟩

/-! ## What the operations do to the windows -/

theorem lookup_removeExpired {windows : Windows} {expiry : WindowExpiry} {key : String}
    {current : WindowCounter} (h : (removeExpired windows expiry).lookup key = some current) :
    windows.lookup key = some current ∧
      (⟨key, current.resetAtMillis⟩ : WindowExpiry) ≠ expiry := by
  unfold removeExpired at h
  split at h
  next found hfound =>
    split at h
    next hother =>
      refine ⟨h, ?_⟩
      rintro rfl
      rw [h, Option.some.injEq] at hfound
      exact hother (by rw [hfound])
    next =>
      obtain ⟨hne, hlookup⟩ := GoMap.lookup_erase_cases h
      refine ⟨hlookup, ?_⟩
      rintro rfl
      exact hne rfl
  next hnone =>
    refine ⟨h, ?_⟩
    rintro rfl
    exact nomatch h.symm.trans hnone

theorem length_removeExpired_le (windows : Windows) (expiry : WindowExpiry) :
    (removeExpired windows expiry).keys.length ≤ windows.keys.length := by
  unfold removeExpired
  split
  · split
    · exact Nat.le_refl _
    · exact GoMap.length_erase_le ..
  · exact Nat.le_refl _

theorem WindowsRight.removeExpired (h : WindowsRight limiter state) (expiry : WindowExpiry)
    (stage : Stage) :
    WindowsRight limiter { state.moveTo index call stage with
      windows := removeExpired state.windows expiry } where
  trackedKeys := Nat.le_trans (length_removeExpired_le ..) h.trackedKeys
  count key current hlookup := h.count key current (lookup_removeExpired hlookup).1
  allowed := h.allowed

theorem toInt_succ {count : Int32} (h : count ≠ Int32.maxValue) :
    (count + 1).toInt = count.toInt + 1 := by
  have hne : count.toInt ≠ Int32.maxValue.toInt := fun heq => h (Int32.toInt_inj.1 heq)
  rw [Int32.toInt_maxValue] at hne
  have hlt := count.toInt_lt
  have hle := count.le_toInt
  have hone : (1 : Int32).toInt = 1 := rfl
  rw [Int32.toInt_add, hone]
  apply Int.bmod_eq_of_le
  · omega
  · omega

theorem orderly_compute (hcall : state.calls[index]? = some call) (hstage : call.stage = .compute)
    (horderly : state.Orderly limiter (.proceed index)) :
    match state.windows.lookup call.key with
    | none => state.windows.keys.length < limiter.maxTrackedKeys.toInt ∧
        ¬state.Used ⟨call.key, call.nowMillis + limiter.windowMillis⟩
    | some current =>
      if current.resetAtMillis ≤ call.nowMillis then
        ¬state.Used ⟨call.key, call.nowMillis + limiter.windowMillis⟩
      else current.count ≠ Int32.maxValue := by
  obtain ⟨key, nowMillis, stage⟩ := call
  dsimp only at hstage
  subst hstage
  simp only [State.Orderly, hcall] at horderly
  exact horderly

theorem countP_of_not_used {window : WindowExpiry} (h : ¬state.Used window) :
    state.counted.countP (fun counted => counted.window = window) = 0 := by
  rw [List.countP_eq_zero]
  intro counted hcounted
  rw [decide_eq_true_iff]
  exact fun heq => h ⟨counted, hcounted, heq⟩

/-- What `compute` does, by cases: it opens a window that no call was counted in, or it raises the
counter of the window. -/
theorem nextWindow_cases (hcall : state.calls[index]? = some call)
    (hstage : call.stage = .compute) (horderly : state.Orderly limiter (.proceed index)) :
    (∃ next : WindowCounter,
      limiter.nextWindow call.nowMillis (state.windows.lookup call.key) = (next, true) ∧
      next.count = 1 ∧ ¬state.Used ⟨call.key, next.resetAtMillis⟩) ∨
    ∃ current : WindowCounter, state.windows.lookup call.key = some current ∧
      current.count ≠ Int32.maxValue ∧
      limiter.nextWindow call.nowMillis (state.windows.lookup call.key) =
        ({ current with count := current.count + 1 }, false) := by
  have horder := orderly_compute hcall hstage horderly
  cases hlookup : state.windows.lookup call.key with
  | none =>
      rw [hlookup] at horder
      exact .inl ⟨⟨1, call.nowMillis + limiter.windowMillis⟩, rfl, rfl, horder.2⟩
  | some current =>
      rw [hlookup] at horder
      dsimp only at horder
      by_cases hexpired : current.resetAtMillis ≤ call.nowMillis
      · rw [if_pos hexpired] at horder
        exact .inl ⟨⟨1, call.nowMillis + limiter.windowMillis⟩, if_pos hexpired, rfl, horder⟩
      · rw [if_neg hexpired] at horder
        exact .inr ⟨current, rfl, horder, if_neg hexpired⟩

/-- The counter that `compute` stores counts the call. -/
theorem WindowsRight.count_nextWindow (h : WindowsRight limiter state)
    (hcall : state.calls[index]? = some call) (hstage : call.stage = .compute)
    (horderly : state.Orderly limiter (.proceed index)) {next : WindowCounter} {created : Bool}
    (hnext : limiter.nextWindow call.nowMillis (state.windows.lookup call.key) = (next, created)) :
    next.count.toInt = (state.counted.countP
      fun counted => counted.window = ⟨call.key, next.resetAtMillis⟩) + 1 := by
  rcases nextWindow_cases hcall hstage horderly with
    ⟨opened, hopened, hcount, hunused⟩ | ⟨current, hlookup, hmax, hraised⟩
  · rw [hnext, Prod.mk.injEq] at hopened
    rw [hopened.1, countP_of_not_used hunused, hcount]
    rfl
  · rw [hnext, Prod.mk.injEq] at hraised
    rw [hraised.1, toInt_succ hmax, h.count call.key current hlookup]

theorem length_insert_nextWindow (h : WindowsRight limiter state)
    (hcall : state.calls[index]? = some call) (hstage : call.stage = .compute)
    (horderly : state.Orderly limiter (.proceed index)) (next : WindowCounter) :
    (state.windows.insert call.key next).keys.length ≤ limiter.maxTrackedKeys.toInt.toNat := by
  by_cases hmem : call.key ∈ state.windows
  · rw [GoMap.length_insert_of_mem (AList.mem_keys.1 hmem)]
    exact h.trackedKeys
  · have hroom : state.windows.keys.length < limiter.maxTrackedKeys.toInt := by
      have horder := orderly_compute hcall hstage horderly
      rw [AList.lookup_eq_none.2 hmem] at horder
      exact horder.1
    have hle := GoMap.length_insert_le state.windows call.key next
    omega

theorem WindowsRight.computeNext (h : WindowsRight limiter state)
    (hcall : state.calls[index]? = some call) (hstage : call.stage = .compute)
    (horderly : state.Orderly limiter (.proceed index)) :
    WindowsRight limiter (state.computeNext limiter index call) := by
  obtain ⟨⟨next, created⟩, hnext⟩ : ∃ next,
    limiter.nextWindow call.nowMillis (state.windows.lookup call.key) = next := ⟨_, rfl⟩
  have hcount := h.count_nextWindow hcall hstage horderly hnext
  unfold State.computeNext
  rw [hnext]
  dsimp only
  constructor
  · exact length_insert_nextWindow h hcall hstage horderly next
  · intro key current hlookup
    dsimp only at hlookup ⊢
    rw [List.countP_cons]
    rcases GoMap.lookup_insert_cases hlookup with ⟨rfl, rfl⟩ | ⟨hne, hold⟩
    · rw [decide_eq_true rfl, if_pos rfl, hcount]
      rfl
    · rw [if_neg (by rw [decide_eq_true_iff]; exact fun heq => hne (congrArg WindowExpiry.key heq).symm)]
      exact h.count key current hold
  · intro window
    have hallowed := h.allowed window
    unfold State.allowedIn at hallowed ⊢
    dsimp only
    rw [List.countP_cons, List.countP_cons, hallowed]
    by_cases hwindow : (⟨call.key, next.resetAtMillis⟩ : WindowExpiry) = window
    · subst hwindow
      simp only [true_and, decide_true, if_true]
      unfold FixedWindowRateLimiter.decision
      by_cases hle : next.count ≤ limiter.maxRequests
      · rw [if_pos hle]
        rw [Int32.le_iff_toInt_le] at hle
        simp only [decide_true, if_true]
        omega
      · rw [if_neg hle]
        rw [Int32.le_iff_toInt_le] at hle
        simp only [RateLimitDecision.denied, Bool.false_eq_true, decide_false, if_false]
        omega
    · simp only [hwindow, false_and, decide_false, Bool.false_eq_true, if_false, Nat.add_zero]

/-! ## What the operations do to the queue and the calls -/

theorem mem_moveTo (hcall : state.calls[index]? = some call) (stage : Stage) {other : Call}
    (hother : other ∈ state.calls) :
    other = call ∨ other ∈ (state.moveTo index call stage).calls := by
  obtain ⟨index', hindex'⟩ := List.mem_iff_getElem?.1 hother
  by_cases heq : index = index'
  · subst heq
    rw [hcall, Option.some.injEq] at hindex'
    exact .inl hindex'.symm
  · refine .inr (List.mem_iff_getElem?.2 ⟨index', ?_⟩)
    rw [State.moveTo, List.getElem?_set_ne heq]
    exact hindex'

theorem self_mem_moveTo (hcall : state.calls[index]? = some call) (stage : Stage) :
    { call with stage } ∈ (state.moveTo index call stage).calls :=
  List.mem_of_getElem? (List.getElem?_set_self (List.getElem?_eq_some_iff.1 hcall).1)

theorem addingAt_moveTo (hcall : state.calls[index]? = some call) (stage : Stage) (index' : ℕ) :
    (state.moveTo index call stage).addingAt index' =
      if index = index' then ({ call with stage } : Call).adding else state.addingAt index' := by
  unfold State.addingAt State.moveTo
  split_ifs with heq
  · subst heq
    rw [List.getElem?_set_self (List.getElem?_eq_some_iff.1 hcall).1]
    rfl
  · rw [List.getElem?_set_ne heq]

theorem QueueRight.positive (h : QueueRight limiter state)
    (hcall : state.calls[index]? = some call) (hlive : ∀ decision, call.stage ≠ .ended decision) :
    ¬limiter.maxRequests ≤ 0 := by
  intro hnone
  obtain ⟨decision, hended⟩ := (h.denies hnone).2 call (List.mem_of_getElem? hcall)
  exact hlive decision hended

/-- A call that holds no entry goes on, and neither the map nor the queue changes. -/
theorem QueueRight.moveTo (h : QueueRight limiter state)
    (hcall : state.calls[index]? = some call) (hlive : ∀ decision, call.stage ≠ .ended decision)
    (hfree : call.adding = none ∧ call.removing = none) {stage : Stage}
    (hnext : ({ call with stage } : Call).adding = none) :
    QueueRight limiter (state.moveTo index call stage) where
  accounted window htracked := by
    rcases h.accounted window htracked with hqueue | ⟨other, hother, hheld⟩
    · exact .inl hqueue
    · rcases mem_moveTo hcall stage hother with rfl | hmem
      · rw [hfree.1, hfree.2] at hheld
        exact hheld.elim nofun nofun
      · exact .inr ⟨other, hmem, hheld⟩
  queue := h.queue
  polled := h.polled
  nodup := h.nodup
  used := h.used
  fresh index' expiry hadding := by
    rw [addingAt_moveTo hcall, hnext] at hadding
    split_ifs at hadding
    exact h.fresh index' expiry hadding
  single first second expiry hfirst hsecond := by
    rw [addingAt_moveTo hcall, hnext] at hfirst hsecond
    split_ifs at hfirst hsecond
    exact h.single first second expiry hfirst hsecond
  denies hnone := absurd hnone (h.positive hcall hlive)

theorem adding_nextRound (call : Call) (rounds : ℕ) :
    ({ call with stage := nextRound rounds } : Call).adding = none := by
  cases rounds <;> rfl

theorem tracked_iff {window : WindowExpiry} :
    state.Tracked window ↔ ∃ current, state.windows.lookup window.key = some current ∧
      current.resetAtMillis = window.resetAtMillis :=
  Option.map_eq_some_iff

theorem orderly_poll {rounds : ℕ} {expiry polled : WindowExpiry}
    (hcall : state.calls[index]? = some call) (hstage : call.stage = .poll rounds expiry)
    (horderly : state.Orderly limiter (.proceed index))
    (hpolled : polled ∈ state.expirations.head?) (htracked : state.Tracked polled) :
    polled = expiry := by
  obtain ⟨key, nowMillis, stage⟩ := call
  dsimp only at hstage
  subst hstage
  simp only [State.Orderly, hcall] at horderly
  exact (horderly polled hpolled).resolve_right fun hnot => hnot htracked

theorem QueueRight.poll (h : QueueRight limiter state) {rounds : ℕ} {expiry : WindowExpiry}
    (hcall : state.calls[index]? = some call) (hstage : call.stage = .poll rounds expiry)
    (horderly : state.Orderly limiter (.proceed index)) :
    QueueRight limiter { state.moveTo index call (.remove rounds expiry) with
      expirations := state.expirations.tail
      polled := if state.expirations = [] then state.polled else state.polled + 1 } := by
  have hmoved : QueueRight limiter (state.moveTo index call (.remove rounds expiry)) := by
    refine h.moveTo hcall (fun decision => ?_) ?_ rfl
    · rw [hstage]
      exact nofun
    · simp only [Call.adding, Call.removing, hstage, and_self]
  refine { hmoved with accounted := fun window htracked => ?_, queue := ?_, polled := ?_ }
  · rcases h.accounted window htracked with hqueue | ⟨other, hother, hheld⟩
    · cases hexpirations : state.expirations with
      | nil =>
          rw [hexpirations] at hqueue
          exact absurd hqueue List.not_mem_nil
      | cons first rest =>
          rw [hexpirations] at hqueue
          rcases List.mem_cons.1 hqueue with rfl | hrest
          · have hfirst : window ∈ state.expirations.head? := by rw [hexpirations]; rfl
            have hpeeked := orderly_poll hcall hstage horderly hfirst htracked
            refine .inr ⟨_, self_mem_moveTo hcall (.remove rounds expiry), .inr ?_⟩
            rw [hpeeked]
            rfl
          · exact .inl hrest
    · rcases mem_moveTo hcall (.remove rounds expiry) hother with rfl | hmem
      · simp only [Call.adding, Call.removing, hstage] at hheld
        exact hheld.elim nofun nofun
      · exact .inr ⟨other, hmem, hheld⟩
  · have hqueue := h.queue
    dsimp only
    split_ifs with hempty
    · rw [hempty] at hqueue ⊢
      exact hqueue
    · rw [hqueue, List.tail_drop]
      rfl
  · have hqueue := h.queue
    have hpolled := h.polled
    dsimp only
    split_ifs with hempty
    · exact hpolled
    · rw [hqueue, List.drop_eq_nil_iff, Nat.not_le] at hempty
      exact hempty

theorem QueueRight.remove (h : QueueRight limiter state) {rounds : ℕ} {expiry : WindowExpiry}
    (hcall : state.calls[index]? = some call) (hstage : call.stage = .remove rounds expiry) :
    QueueRight limiter { state.moveTo index call (nextRound rounds) with
      windows := removeExpired state.windows expiry } where
  accounted window htracked := by
    obtain ⟨current, hlookup, hreset⟩ := tracked_iff.1 htracked
    obtain ⟨hold, hne⟩ := lookup_removeExpired hlookup
    rcases h.accounted window (tracked_iff.2 ⟨current, hold, hreset⟩) with
      hqueue | ⟨other, hother, hheld⟩
    · exact .inl hqueue
    · rcases mem_moveTo hcall (nextRound rounds) hother with rfl | hmem
      · simp only [Call.adding, Call.removing, hstage, Option.some.injEq] at hheld
        refine absurd (hheld.resolve_left nofun) fun heq => hne ?_
        rw [heq, hreset]
      · exact .inr ⟨other, hmem, hheld⟩
  queue := h.queue
  polled := h.polled
  nodup := h.nodup
  used := h.used
  fresh index' expiry' hadding := by
    have hmoved := addingAt_moveTo hcall (nextRound rounds) index'
    rw [adding_nextRound] at hmoved
    have hsome := hmoved.symm.trans hadding
    split_ifs at hsome
    exact h.fresh index' expiry' hsome
  single first second expiry' hfirst hsecond := by
    have hmoved := addingAt_moveTo hcall (nextRound rounds)
    rw [adding_nextRound] at hmoved
    have hsome := (hmoved first).symm.trans hfirst
    have hsome' := (hmoved second).symm.trans hsecond
    split_ifs at hsome hsome'
    exact h.single first second expiry' hsome hsome'
  denies hnone := by
    refine absurd hnone (h.positive hcall fun decision => ?_)
    rw [hstage]
    exact nofun

theorem used_cons {window : WindowExpiry} (h : state.Used window) (counted : Counted) :
    ({ state with counted := counted :: state.counted }).Used window := by
  obtain ⟨other, hother, hwindow⟩ := h
  exact ⟨other, List.mem_cons_of_mem counted hother, hwindow⟩

/-- A call is counted in a window that was tracked before. -/
theorem QueueRight.recount (h : QueueRight limiter state) {windows : Windows} {counted : Counted}
    (htracked : ∀ window,
      ({ state with windows, counted := counted :: state.counted }).Tracked window →
        state.Tracked window) :
    QueueRight limiter { state with windows, counted := counted :: state.counted } where
  accounted window hwindow := h.accounted window (htracked window hwindow)
  queue := h.queue
  polled := h.polled
  nodup := h.nodup
  used expiry hqueued := used_cons (h.used expiry hqueued) counted
  fresh index expiry hadding :=
    ⟨(h.fresh index expiry hadding).1, used_cons (h.fresh index expiry hadding).2 counted⟩
  single := h.single
  denies := h.denies

theorem QueueRight.computeNext (h : QueueRight limiter state)
    (hcall : state.calls[index]? = some call) (hstage : call.stage = .compute)
    (horderly : state.Orderly limiter (.proceed index)) :
    QueueRight limiter (state.computeNext limiter index call) := by
  have hlive : ∀ decision, call.stage ≠ .ended decision := by
    rw [hstage]
    exact fun _ => nofun
  -- what was accounted for before still is
  have hold : ∀ (stage : Stage) (window : WindowExpiry), state.Tracked window →
      window ∈ state.expirations ∨ ∃ other ∈ (state.moveTo index call stage).calls,
        other.adding = some window ∨ other.removing = some window := by
    intro stage window htracked
    rcases h.accounted window htracked with hqueue | ⟨other, hother, hheld⟩
    · exact .inl hqueue
    · rcases mem_moveTo hcall stage hother with rfl | hmem
      · simp only [Call.adding, Call.removing, hstage] at hheld
        exact hheld.elim nofun nofun
      · exact .inr ⟨other, hmem, hheld⟩
  unfold State.computeNext
  rcases nextWindow_cases hcall hstage horderly with
    ⟨next, hnext, -, hunused⟩ | ⟨current, hlookup, -, hnext⟩
  · rw [hnext]
    dsimp only
    rw [if_pos rfl]
    have hadding := addingAt_moveTo hcall (.add next)
    constructor
    · intro window htracked
      obtain ⟨current, hcurrent, hreset⟩ := tracked_iff.1 htracked
      rcases GoMap.lookup_insert_cases hcurrent with ⟨hkey, rfl⟩ | ⟨-, hkept⟩
      · refine .inr ⟨_, self_mem_moveTo hcall (.add current), .inl ?_⟩
        simp only [Call.adding, Option.some.injEq]
        rw [← hkey, hreset]
      · exact hold (.add next) window (tracked_iff.2 ⟨current, hkept, hreset⟩)
    · exact h.queue
    · exact h.polled
    · exact h.nodup
    · exact fun expiry hqueued => used_cons (h.used expiry hqueued) _
    · intro index' expiry hsome
      replace hsome := (hadding index').symm.trans hsome
      split_ifs at hsome with hindex
      · simp only [Call.adding, Option.some.injEq] at hsome
        subst hsome
        exact ⟨fun hqueued => hunused (h.used _ hqueued), _, List.mem_cons_self .., rfl⟩
      · exact ⟨(h.fresh index' expiry hsome).1, used_cons (h.fresh index' expiry hsome).2 _⟩
    · intro first second expiry hfirst hsecond
      replace hfirst := (hadding first).symm.trans hfirst
      replace hsecond := (hadding second).symm.trans hsecond
      split_ifs at hfirst hsecond with hindex hindex' hindex'
      · exact hindex.symm.trans hindex'
      · simp only [Call.adding, Option.some.injEq] at hfirst
        subst hfirst
        exact absurd (h.fresh second _ hsecond).2 hunused
      · simp only [Call.adding, Option.some.injEq] at hsecond
        subst hsecond
        exact absurd (h.fresh first _ hfirst).2 hunused
      · exact h.single first second expiry hfirst hsecond
    · exact fun hnone => absurd hnone (h.positive hcall hlive)
  · rw [hnext]
    dsimp only
    rw [if_neg Bool.false_ne_true]
    refine (h.moveTo hcall hlive ?_ rfl).recount ?_
    · simp only [Call.adding, Call.removing, hstage, and_self]
    · intro window htracked
      obtain ⟨counter, hcounter, hreset⟩ := tracked_iff.1 htracked
      refine tracked_iff.2 ?_
      rcases GoMap.lookup_insert_cases hcounter with ⟨hkey, rfl⟩ | ⟨-, hkept⟩
      · exact ⟨current, by rw [hkey]; exact hlookup, hreset⟩
      · exact ⟨counter, hkept, hreset⟩

theorem QueueRight.add (h : QueueRight limiter state) {next : WindowCounter}
    (hcall : state.calls[index]? = some call) (hstage : call.stage = .add next)
    (decision : RateLimitDecision) :
    QueueRight limiter { state.moveTo index call (.ended decision) with
      expirations := state.expirations ++ [⟨call.key, next.resetAtMillis⟩]
      queued := state.queued ++ [⟨call.key, next.resetAtMillis⟩] } := by
  have hself : state.addingAt index = some ⟨call.key, next.resetAtMillis⟩ := by
    simp only [State.addingAt, hcall, Option.bind_some, Call.adding, hstage]
  have hadding : ∀ index' expiry,
      (state.moveTo index call (.ended decision)).addingAt index' = some expiry →
        index ≠ index' ∧ state.addingAt index' = some expiry := by
    intro index' expiry hsome
    rw [addingAt_moveTo hcall] at hsome
    split_ifs at hsome with hindex
    · exact nomatch hsome
    · exact ⟨hindex, hsome⟩
  constructor
  · intro window htracked
    rcases h.accounted window htracked with hqueue | ⟨other, hother, hheld⟩
    · exact .inl (List.mem_append_left _ hqueue)
    · rcases mem_moveTo hcall (.ended decision) hother with rfl | hmem
      · simp only [Call.adding, Call.removing, hstage, Option.some.injEq] at hheld
        rw [← hheld.resolve_right nofun]
        exact .inl (List.mem_append_right _ (List.mem_singleton_self _))
      · exact .inr ⟨other, hmem, hheld⟩
  · dsimp only
    rw [h.queue]
    exact (List.drop_append_of_le_length h.polled).symm
  · exact Nat.le_trans h.polled (List.length_append ▸ Nat.le_add_right _ _)
  · refine List.nodup_append.2 ⟨h.nodup, List.nodup_singleton _, ?_⟩
    intro expiry hexpiry expiry' hexpiry' heq
    rw [List.mem_singleton.1 hexpiry'] at heq
    rw [heq] at hexpiry
    exact (h.fresh index _ hself).1 hexpiry
  · intro expiry hexpiry
    rcases List.mem_append.1 hexpiry with hqueued | hnew
    · exact h.used expiry hqueued
    · rw [List.mem_singleton.1 hnew]
      exact (h.fresh index _ hself).2
  · intro index' expiry hsome
    obtain ⟨hindex, hother⟩ := hadding index' expiry hsome
    refine ⟨fun hexpiry => ?_, (h.fresh index' expiry hother).2⟩
    rcases List.mem_append.1 hexpiry with hqueued | hnew
    · exact (h.fresh index' expiry hother).1 hqueued
    · rw [List.mem_singleton.1 hnew] at hother
      exact hindex (h.single index index' _ hself hother)
  · intro first second expiry hfirst hsecond
    exact h.single first second expiry (hadding first expiry hfirst).2
      (hadding second expiry hsecond).2
  · refine fun hnone => absurd hnone (h.positive hcall fun decision => ?_)
    rw [hstage]
    exact nofun

/-! ## A step -/

structure Invariant (limiter : FixedWindowRateLimiter) (state : State) : Prop where
  windows : WindowsRight limiter state
  queue : QueueRight limiter state

theorem addingAt_concat {started : Call} (hstarted : started.adding = none) {expiry : WindowExpiry}
    (h : ({ state with calls := state.calls ++ [started] }).addingAt index = some expiry) :
    state.addingAt index = some expiry := by
  unfold State.addingAt at h ⊢
  dsimp only at h
  rw [List.getElem?_append] at h
  split_ifs at h with hindex
  · exact h
  · rw [List.getElem?_singleton] at h
    split_ifs at h
    · rw [Option.bind_some, hstarted] at h
      exact nomatch h
    · exact nomatch h

theorem Invariant.tryAcquire (h : Invariant limiter state) {started : Call}
    (hstage : started.stage = if limiter.maxRequests ≤ 0 then .ended (.denied limiter.windowSeconds)
      else nextRound MAX_EXPIRY_CLEANUP_PER_REQUEST) :
    Invariant limiter { state with calls := state.calls ++ [started] } := by
  have hstarted : started.adding = none := by
    unfold Call.adding
    rw [hstage]
    split_ifs <;> rfl
  refine ⟨⟨h.windows.trackedKeys, h.windows.count, h.windows.allowed⟩, ?_⟩
  constructor
  · intro window htracked
    rcases h.queue.accounted window htracked with hqueue | ⟨other, hother, hheld⟩
    · exact .inl hqueue
    · exact .inr ⟨other, List.mem_append_left _ hother, hheld⟩
  · exact h.queue.queue
  · exact h.queue.polled
  · exact h.queue.nodup
  · exact h.queue.used
  · exact fun index expiry hadding => h.queue.fresh index expiry (addingAt_concat hstarted hadding)
  · exact fun index index' expiry hadding hadding' => h.queue.single index index' expiry
      (addingAt_concat hstarted hadding) (addingAt_concat hstarted hadding')
  · intro hnone
    obtain ⟨hqueued, hended⟩ := h.queue.denies hnone
    refine ⟨hqueued, fun other hother => ?_⟩
    rcases List.mem_append.1 hother with hold | hnew
    · exact hended other hold
    · rw [List.mem_singleton.1 hnew, hstage, if_pos hnone]
      exact ⟨_, rfl⟩

/-- The stages in which a call only reads. -/
def Stage.isReading : Stage → Bool
  | .peek _ | .containsKey | .size => true
  | _ => false

theorem Invariant.read (h : Invariant limiter state) (hcall : state.calls[index]? = some call)
    (hreading : call.stage.isReading = true) {stage : Stage}
    (hnext : ({ call with stage } : Call).adding = none) :
    Invariant limiter (state.moveTo index call stage) := by
  refine ⟨⟨h.windows.trackedKeys, h.windows.count, h.windows.allowed⟩,
    h.queue.moveTo hcall (fun decision hended => ?_) ?_ hnext⟩
  · rw [hended] at hreading
    exact nomatch hreading
  · unfold Call.adding Call.removing
    split
    next hstage =>
      rw [hstage] at hreading
      exact nomatch hreading
    next =>
      split
      next hstage =>
        rw [hstage] at hreading
        exact nomatch hreading
      next => exact ⟨rfl, rfl⟩

theorem Invariant.operate (h : Invariant limiter state) (hcall : state.calls[index]? = some call)
    (horderly : state.Orderly limiter (.proceed index)) {state' : State}
    (hstep : state.operate limiter index call = some state') : Invariant limiter state' := by
  unfold State.operate at hstep
  split at hstep
  next rounds hstage =>
    have hreading : call.stage.isReading = true := by rw [hstage]; rfl
    split at hstep
    · rw [← Option.some.inj hstep]
      exact h.read hcall hreading rfl
    · split_ifs at hstep
      · rw [← Option.some.inj hstep]
        exact h.read hcall hreading rfl
      · rw [← Option.some.inj hstep]
        exact h.read hcall hreading rfl
  next rounds expiry hstage =>
    rw [← Option.some.inj hstep]
    exact ⟨⟨h.windows.trackedKeys, h.windows.count, h.windows.allowed⟩,
      h.queue.poll hcall hstage horderly⟩
  next rounds expiry hstage =>
    rw [← Option.some.inj hstep]
    exact ⟨h.windows.removeExpired expiry _, h.queue.remove hcall hstage⟩
  next hstage =>
    rw [← Option.some.inj hstep]
    refine h.read hcall (by rw [hstage]; rfl) ?_
    split_ifs <;> rfl
  next hstage =>
    have hreading : call.stage.isReading = true := by rw [hstage]; rfl
    split_ifs at hstep
    · rw [← Option.some.inj hstep]
      exact h.read hcall hreading rfl
    · rw [← Option.some.inj hstep]
      exact h.read hcall hreading rfl
  next hstage =>
    rw [← Option.some.inj hstep]
    exact ⟨h.windows.computeNext hcall hstage horderly,
      h.queue.computeNext hcall hstage horderly⟩
  next next hstage =>
    rw [← Option.some.inj hstep]
    exact ⟨⟨h.windows.trackedKeys, h.windows.count, h.windows.allowed⟩,
      h.queue.add hcall hstage _⟩
  next => exact nomatch hstep

theorem Invariant.step (h : Invariant limiter state) {action : Action}
    (horderly : state.Orderly limiter action) {state' : State}
    (hstep : state.step limiter action = some state') : Invariant limiter state' := by
  cases action with
  | tick nowMillis =>
      rw [State.step] at hstep
      split_ifs at hstep
      rw [← Option.some.inj hstep]
      exact ⟨⟨h.windows.trackedKeys, h.windows.count, h.windows.allowed⟩, ⟨h.queue.accounted,
        h.queue.queue, h.queue.polled, h.queue.nodup, h.queue.used, h.queue.fresh, h.queue.single,
        h.queue.denies⟩⟩
  | tryAcquire key =>
      rw [← Option.some.inj hstep]
      exact h.tryAcquire rfl
  | proceed index =>
      rw [State.step] at hstep
      split at hstep
      next call hcall => exact h.operate hcall horderly hstep
      next => exact nomatch hstep

theorem Invariant.limitsKept (h : Invariant limiter state) : LimitsKept limiter state where
  requests window := by
    rw [h.windows.allowed]
    exact Nat.min_le_right ..
  trackedKeys := h.windows.trackedKeys
  accounted := h.queue.accounted

/-! ## Expired windows go -/

/-- The entries that the clean-up of the call has polled at least, unless it met the end of what had
expired. -/
def Call.rounds (call : Call) : ℕ :=
  match call.stage with
  | .peek rounds | .poll rounds _ => MAX_EXPIRY_CLEANUP_PER_REQUEST - (rounds + 1)
  | .remove rounds _ => MAX_EXPIRY_CLEANUP_PER_REQUEST - rounds
  | _ => MAX_EXPIRY_CLEANUP_PER_REQUEST

theorem rounds_le (call : Call) : call.rounds ≤ MAX_EXPIRY_CLEANUP_PER_REQUEST := by
  unfold Call.rounds
  split
  · exact Nat.sub_le ..
  · exact Nat.sub_le ..
  · exact Nat.sub_le ..
  · exact Nat.le_refl _

theorem rounds_of_cleaned (h : call.cleaned = true) :
    call.rounds = MAX_EXPIRY_CLEANUP_PER_REQUEST := by
  unfold Call.cleaned at h
  unfold Call.rounds
  split at h
  · exact nomatch h
  · exact nomatch h
  · exact nomatch h
  · rfl

theorem rounds_le_of_cleaned (h : call.cleaned = true) (other : Call) :
    other.rounds ≤ call.rounds := by
  rw [rounds_of_cleaned h]
  exact rounds_le other

/-- The first `count` entries of the queue of `state` were polled, or the calls that came later have
polled as many entries as their rounds are. -/
structure Progress (state : State) (count : ℕ) (later : State) : Prop where
  clock : state.clock ≤ later.clock
  started : ∀ call ∈ later.calls.drop state.calls.length, state.clock ≤ call.nowMillis
  calls : state.calls.length ≤ later.calls.length
  queued : state.queued <+: later.queued
  polled : state.polled ≤ later.polled
  rounds : state.polled + count ≤ later.polled ∨
    state.polled + ((later.calls.drop state.calls.length).map Call.rounds).sum ≤ later.polled

theorem Progress.refl (state : State) (count : ℕ) : Progress state count state where
  clock := le_refl _
  started call hcall := by
    rw [List.drop_length] at hcall
    exact absurd hcall List.not_mem_nil
  calls := Nat.le_refl _
  queued := List.prefix_rfl
  polled := Nat.le_refl _
  rounds := by
    rw [List.drop_length]
    exact .inr (Nat.le_refl _)

theorem sum_rounds_set {calls : List Call} {started index : ℕ} {call moved : Call}
    (hcall : calls[index]? = some call) :
    (((calls.set index moved).drop started).map Call.rounds).sum +
        (if started ≤ index then call.rounds else 0) =
      ((calls.drop started).map Call.rounds).sum +
        (if started ≤ index then moved.rounds else 0) := by
  induction calls generalizing started index with
  | nil => exact nomatch hcall
  | cons first rest ih =>
      cases index with
      | zero =>
          rw [List.getElem?_cons_zero, Option.some.injEq] at hcall
          subst hcall
          cases started with
          | zero =>
              simp only [List.set_cons_zero, List.drop_zero, List.map_cons, List.sum_cons,
                Nat.le_refl, if_true]
              omega
          | succ started => rfl
      | succ index =>
          rw [List.getElem?_cons_succ] at hcall
          rw [List.set_cons_succ]
          cases started with
          | zero =>
              have hrest := @ih 0 index hcall
              simp only [List.drop_zero, Nat.zero_le, if_true, List.map_cons, List.sum_cons]
                at hrest ⊢
              omega
          | succ started =>
              simp only [List.drop_succ_cons, Nat.succ_le_succ_iff]
              exact ih hcall

section Removal

variable {count : ℕ} {later : State}

/-- A call goes on to another stage. -/
theorem Progress.moveTo (h : Progress state count later)
    (hcall : later.calls[index]? = some call) {stage : Stage} {next : State}
    (hcalls : next.calls = later.calls.set index { call with stage })
    (hclock : next.clock = later.clock) (hqueued : later.queued <+: next.queued)
    (hpolled : later.polled ≤ next.polled)
    (hrounds : state.calls.length ≤ index → later.polled < state.polled + count →
      state.polled + count ≤ next.polled ∨
        ({ call with stage } : Call).rounds + later.polled ≤ call.rounds + next.polled) :
    Progress state count next where
  clock := h.clock.trans_eq hclock.symm
  started moved hmoved := by
    rw [hcalls, List.drop_set] at hmoved
    split_ifs at hmoved with hindex
    · exact h.started moved hmoved
    · rcases List.mem_or_eq_of_mem_set hmoved with hold | rfl
      · exact h.started moved hold
      · refine h.started call (List.mem_of_getElem? (i := index - state.calls.length) ?_)
        rw [List.getElem?_drop, Nat.add_sub_cancel' (Nat.not_lt.1 hindex)]
        exact hcall
  calls := by
    rw [hcalls, List.length_set]
    exact h.calls
  queued := h.queued.trans hqueued
  polled := h.polled.trans hpolled
  rounds := by
    rcases h.rounds with hdone | hsum
    · exact .inl (hdone.trans hpolled)
    · by_cases hlate : later.polled < state.polled + count
      · have hset := @sum_rounds_set later.calls state.calls.length index call { call with stage }
          hcall
        rw [← hcalls] at hset
        by_cases hindex : state.calls.length ≤ index
        · rw [if_pos hindex, if_pos hindex] at hset
          rcases hrounds hindex hlate with hdone | hmore
          · exact .inl hdone
          · right
            omega
        · rw [if_neg hindex, if_neg hindex] at hset
          right
          omega
      · exact .inl ((Nat.not_lt.1 hlate).trans hpolled)

/-- While some of the first entries are left, the first one of the queue is of them. -/
theorem Progress.head (h : Progress state count later) (hqueue : QueueRight limiter state)
    (hlater : QueueRight limiter later) (hcount : count ≤ state.expirations.length)
    (hleft : later.polled < state.polled + count) :
    ∃ expiry ∈ state.expirations.take count, later.expirations.head? = some expiry := by
  obtain ⟨offset, hoffset⟩ := Nat.exists_eq_add_of_le h.polled
  have hshort : offset < state.expirations.length := by omega
  obtain ⟨expiry, hentry⟩ : ∃ expiry, state.expirations[offset]? = some expiry :=
    ⟨_, List.getElem?_eq_getElem hshort⟩
  refine ⟨expiry, ?_, ?_⟩
  · refine List.mem_of_getElem? (i := offset) ?_
    rw [List.getElem?_take_of_lt (by omega)]
    exact hentry
  · obtain ⟨added, hadded⟩ := h.queued
    rw [hqueue.queue, List.getElem?_drop, ← hoffset] at hentry
    have hlt := (List.getElem?_eq_some_iff.1 hentry).1
    rw [hlater.queue, List.head?_drop, ← hadded, List.getElem?_append_left hlt, hentry]

variable (hqueue : QueueRight limiter state) (hcount : count ≤ state.expirations.length)
  (hexpired : ∀ expiry ∈ state.expirations.take count, expiry.resetAtMillis ≤ state.clock)

include hqueue hcount hexpired

/-- A call that came later does not leave the clean-up while some of the first entries are left. -/
theorem Progress.operate (h : Progress state count later) (hlater : QueueRight limiter later)
    (hcall : later.calls[index]? = some call) {next : State}
    (hstep : later.operate limiter index call = some next) : Progress state count next := by
  have hstarted : state.calls.length ≤ index → state.clock ≤ call.nowMillis := by
    intro hindex
    refine h.started call (List.mem_of_getElem? (i := index - state.calls.length) ?_)
    rw [List.getElem?_drop, Nat.add_sub_cancel' hindex]
    exact hcall
  -- the stages after the clean-up have all of the rounds
  have hmove : ∀ (stage : Stage) (next : State),
      next.calls = later.calls.set index { call with stage } → next.clock = later.clock →
      later.queued <+: next.queued → next.polled = later.polled →
      ({ call with stage } : Call).rounds ≤ call.rounds → Progress state count next := by
    intro stage next hcalls hclock hqueued hpolled hrounds
    exact h.moveTo hcall hcalls hclock hqueued hpolled.ge fun _ _ => .inr (by omega)
  unfold State.operate at hstep
  split at hstep
  next rounds hstage =>
    have hleave : ∀ next : State, (∀ expiry ∈ later.expirations.head?,
        call.nowMillis < expiry.resetAtMillis) →
        next = later.moveTo index call .containsKey → Progress state count next := by
      rintro next hlive rfl
      refine h.moveTo hcall rfl rfl List.prefix_rfl (Nat.le_refl _) fun hindex hleft => ?_
      obtain ⟨expiry, hfirst, hhead⟩ := h.head hqueue hlater hcount hleft
      have hlt := hlive expiry hhead
      have hle := hexpired expiry hfirst
      have hnow := hstarted hindex
      omega
    split at hstep
    next hempty =>
      refine hleave next (fun expiry hhead => ?_) (Option.some.inj hstep).symm
      rw [hempty] at hhead
      exact nomatch hhead
    next expiry hhead =>
      split_ifs at hstep with hlive
      · refine hleave next (fun expiry' hhead' => ?_) (Option.some.inj hstep).symm
        rw [hhead, Option.mem_some_iff] at hhead'
        rw [← hhead']
        exact hlive
      · rw [← Option.some.inj hstep]
        refine hmove (.poll rounds expiry) _ rfl rfl List.prefix_rfl rfl ?_
        simp only [Call.rounds, hstage, Nat.le_refl]
  next rounds expiry hstage =>
    rw [← Option.some.inj hstep]
    refine h.moveTo hcall rfl rfl List.prefix_rfl ?_ fun hindex hleft => ?_
    · dsimp only
      split_ifs
      · exact Nat.le_refl _
      · exact Nat.le_succ _
    · obtain ⟨first, -, hhead⟩ := h.head hqueue hlater hcount hleft
      have hnonempty : later.expirations ≠ [] := by
        intro hempty
        rw [hempty] at hhead
        exact nomatch hhead
      right
      dsimp only
      rw [if_neg hnonempty]
      simp only [Call.rounds, hstage]
      omega
  next rounds expiry hstage =>
    rw [← Option.some.inj hstep]
    refine hmove (nextRound rounds) _ rfl rfl List.prefix_rfl rfl ?_
    cases rounds with
    | zero => simp only [nextRound, Call.rounds, hstage, Nat.sub_zero, Nat.le_refl]
    | succ rounds => simp only [nextRound, Call.rounds, hstage, Nat.le_refl]
  next hstage =>
    rw [← Option.some.inj hstep]
    have hcleaned : call.cleaned = true := by simp only [Call.cleaned, hstage]
    exact hmove _ _ rfl rfl List.prefix_rfl rfl (rounds_le_of_cleaned hcleaned _)
  next hstage =>
    have hcleaned : call.cleaned = true := by simp only [Call.cleaned, hstage]
    split_ifs at hstep
    · rw [← Option.some.inj hstep]
      exact hmove _ _ rfl rfl List.prefix_rfl rfl (rounds_le_of_cleaned hcleaned _)
    · rw [← Option.some.inj hstep]
      exact hmove .compute _ rfl rfl List.prefix_rfl rfl (rounds_le_of_cleaned hcleaned _)
  next hstage =>
    have hcleaned : call.cleaned = true := by simp only [Call.cleaned, hstage]
    rw [← Option.some.inj hstep]
    exact hmove _ _ rfl rfl List.prefix_rfl rfl (rounds_le_of_cleaned hcleaned _)
  next next hstage =>
    have hcleaned : call.cleaned = true := by simp only [Call.cleaned, hstage]
    rw [← Option.some.inj hstep]
    exact hmove _ _ rfl rfl (List.prefix_append ..) rfl (rounds_le_of_cleaned hcleaned _)
  next => exact nomatch hstep

theorem Progress.step (h : Progress state count later) (hlater : QueueRight limiter later)
    {action : Action} {next : State} (hstep : later.step limiter action = some next) :
    Progress state count next := by
  cases action with
  | tick nowMillis =>
      rw [State.step] at hstep
      split_ifs at hstep with hle
      rw [← Option.some.inj hstep]
      exact { h with clock := h.clock.trans hle }
  | tryAcquire key =>
      rw [← Option.some.inj hstep]
      refine { h with started := fun call hcall => ?_, calls := ?_, rounds := ?_ }
      · rw [List.drop_append_of_le_length h.calls] at hcall
        rcases List.mem_append.1 hcall with hold | hnew
        · exact h.started call hold
        · rw [List.mem_singleton.1 hnew]
          exact h.clock
      · dsimp only
        rw [List.length_append]
        exact h.calls.trans (Nat.le_add_right ..)
      · dsimp only
        rw [List.drop_append_of_le_length h.calls, List.map_append, List.sum_append]
        by_cases hnone : limiter.maxRequests ≤ 0
        · have hempty := (hqueue.denies hnone).1
          rw [hqueue.queue, hempty, List.drop_nil, List.length_nil, Nat.le_zero] at hcount
          rw [hcount]
          exact .inl h.polled
        · rw [if_neg hnone]
          exact h.rounds
  | proceed index =>
      rw [State.step] at hstep
      split at hstep
      next call hcall => exact h.operate hqueue hcount hexpired hlater hcall hstep
      next => exact nomatch hstep

end Removal

/-- The calls that are past the clean-up have all of their rounds. -/
theorem countP_cleaned_le (calls : List Call) :
    MAX_EXPIRY_CLEANUP_PER_REQUEST * calls.countP Call.cleaned ≤ (calls.map Call.rounds).sum := by
  induction calls with
  | nil => exact Nat.le_refl _
  | cons call calls ih =>
      rw [List.countP_cons, List.map_cons, List.sum_cons, Nat.mul_add]
      cases hcleaned : call.cleaned with
      | true =>
          rw [rounds_of_cleaned hcleaned, if_pos rfl]
          omega
      | false =>
          rw [if_neg Bool.false_ne_true]
          omega

theorem Progress.polled_all {count : ℕ} {later : State} (h : Progress state count later)
    (hcount : count ≤ MAX_EXPIRY_CLEANUP_PER_REQUEST *
      (later.calls.drop state.calls.length).countP Call.cleaned) :
    state.polled + count ≤ later.polled := by
  rcases h.rounds with hdone | hsum
  · exact hdone
  · have hle := countP_cleaned_le (later.calls.drop state.calls.length)
    omega

/-- An entry that was polled is not added again. -/
theorem Progress.not_queued {count : ℕ} {later : State} (h : Progress state count later)
    (hqueue : QueueRight limiter state) (hlater : QueueRight limiter later)
    (hall : state.polled + count ≤ later.polled) {expiry : WindowExpiry}
    (hexpiry : expiry ∈ state.expirations.take count) :
    expiry ∉ later.expirations ∧ ∀ call ∈ later.calls, call.adding ≠ some expiry := by
  obtain ⟨offset, hoffset⟩ := List.mem_iff_getElem?.1 hexpiry
  have hlt : offset < count := by
    have hshort := (List.getElem?_eq_some_iff.1 hoffset).1
    rw [List.length_take] at hshort
    omega
  rw [List.getElem?_take_of_lt hlt, hqueue.queue, List.getElem?_drop] at hoffset
  obtain ⟨added, hadded⟩ := h.queued
  have hindex : later.queued[state.polled + offset]? = some expiry := by
    rw [← hadded, List.getElem?_append_left (List.getElem?_eq_some_iff.1 hoffset).1, hoffset]
  constructor
  · intro hmem
    rw [hlater.queue] at hmem
    obtain ⟨offset', hoffset'⟩ := List.mem_iff_getElem?.1 hmem
    rw [List.getElem?_drop] at hoffset'
    have hsame := (List.getElem?_inj (List.getElem?_eq_some_iff.1 hindex).1 hlater.nodup).1
      (hindex.trans hoffset'.symm)
    omega
  · intro call hcall hadding
    obtain ⟨index, hindex'⟩ := List.mem_iff_getElem?.1 hcall
    have hfresh := (hlater.fresh index expiry (by
      rw [State.addingAt, hindex', Option.bind_some, hadding])).1
    exact hfresh (List.mem_of_getElem? hindex)

theorem run_invariant {actions : List Action} {state' : State} (h : Invariant limiter state)
    (hrun : run (State.step limiter) state actions = some state')
    (horderly : Along (State.step limiter) (State.Orderly limiter) state actions) :
    Invariant limiter state' :=
  Runs.run_invariant (fun _ _ _ h hstep hnext => h.step hstep hnext) h horderly hrun

theorem expiredRemoved_of_run {later : List Action} {state' : State} (h : Invariant limiter state)
    (hrun : run (State.step limiter) state later = some state')
    (horderly : Along (State.step limiter) (State.Orderly limiter) state later) :
    ExpiredRemoved state state' := by
  intro ahead behind hqueue hexpired hcount expiry hexpiry htracked
  have htake : state.expirations.take ahead.length = ahead := by
    rw [hqueue, List.take_left]
  have hlength : ahead.length ≤ state.expirations.length := by
    rw [hqueue, List.length_append]
    exact Nat.le_add_right ..
  have hinvariant := run_invariant h hrun horderly
  have hstep : ∀ (later : State) (action : Action) (next : State),
      Invariant limiter later ∧ Progress state ahead.length later →
      later.Orderly limiter action → later.step limiter action = some next →
      Invariant limiter next ∧ Progress state ahead.length next := by
    intro later action next hlater hstep hnext
    exact ⟨hlater.1.step hstep hnext,
      hlater.2.step h.queue hlength (by rw [htake]; exact hexpired) hlater.1.queue hnext⟩
  have hprogress := Runs.run_invariant hstep ⟨h, Progress.refl state ahead.length⟩ horderly hrun
  obtain ⟨hgone, hnew⟩ := hprogress.2.not_queued h.queue hinvariant.queue
    (hprogress.2.polled_all hcount) (by rw [htake]; exact hexpiry)
  rcases hinvariant.queue.accounted expiry htracked with hqueued | ⟨call, hcall, hheld⟩
  · exact absurd hqueued hgone
  · exact ⟨call, hcall, hheld.resolve_left (hnew call hcall)⟩

/-- In every run of orderly steps the limits are kept, and whatever calls come later, an expired
window is removed by them. -/
theorem limiter_right (limiter : FixedWindowRateLimiter) (start : ℤ) (actions later : List Action)
    (state state' : State)
    (hrun : run (State.step limiter) (.initial start) actions = some state)
    (horderly : Along (State.step limiter) (State.Orderly limiter) (.initial start) actions)
    (hlater : run (State.step limiter) state later = some state')
    (horderly' : Along (State.step limiter) (State.Orderly limiter) state later) :
    LimitsKept limiter state' ∧ ExpiredRemoved state state' := by
  have hinitial : Invariant limiter (.initial start) :=
    ⟨initial_windowsRight start, initial_queueRight start⟩
  have hstate := run_invariant hinitial hrun horderly
  exact ⟨(run_invariant hstate hlater horderly').limitsKept,
    expiredRemoved_of_run hstate hlater horderly'⟩

/-! ## Runs -/

/-- One request and one key in a second. -/
def oneOfEach : FixedWindowRateLimiter := ⟨1, Clock.second, 1⟩

def proceed (index steps : ℕ) : List Action := List.replicate steps (.proceed index)

/-- Two calls peek the entry of the first window; the second of them polls the entry of the window
that the first one opens. A later call of another key is refused. -/
def lostEntry : List Action :=
  .tryAcquire "a" :: proceed 0 5 ++
    [.tick 1000, .tryAcquire "a", .tryAcquire "a", .proceed 1, .proceed 2] ++ proceed 1 7 ++
    proceed 2 5 ++ [.tick 1000000, .tryAcquire "c"] ++ proceed 3 3

/-- Two calls see that there is room for one key. -/
def bothAdmitted : List Action :=
  [.tryAcquire "a", .tryAcquire "b"] ++ proceed 0 3 ++ proceed 1 3 ++ [.proceed 0, .proceed 1]

/-- A call reads the clock and opens its window again after it has expired and was removed. -/
def openedTwice : List Action :=
  [.tryAcquire "a", .tryAcquire "a"] ++ proceed 0 3 ++ proceed 1 5 ++
    [.tick 1000, .tryAcquire "c"] ++ proceed 2 3 ++ [.proceed 0]

theorem limiter_right_counterexample :
    (∃ state ∈ run (State.step oneOfEach) (.initial 0) lostEntry,
      state.Tracked ⟨"a", 2000⟩ ∧ 2000 ≤ state.clock ∧ state.expirations = [] ∧
        state.calls.map (fun call => (call.key, call.stage)) =
          [("a", .ended ⟨true, 0⟩), ("a", .ended ⟨true, 0⟩), ("a", .ended (.denied 1)),
            ("c", .ended (.denied 1))]) ∧
    (∃ state ∈ run (State.step oneOfEach) (.initial 0) bothAdmitted,
      oneOfEach.maxTrackedKeys.toInt < state.windows.keys.length) ∧
    ∃ state ∈ run (State.step oneOfEach) (.initial 0) openedTwice,
      oneOfEach.maxRequests.toInt < state.allowedIn ⟨"a", 1000⟩ := by
  decide +kernel

def toExpiry : List Action := .tryAcquire "a" :: proceed 0 5 ++ [.tick 1000]

def otherKey : List Action := .tryAcquire "b" :: proceed 1 7

/-- The window of a key has expired. -/
def expired : State :=
  (run (State.step oneOfEach) (.initial 0) toExpiry).get (by decide +kernel)

/-- A call of another key has come and gone. -/
def followed : State :=
  (run (State.step oneOfEach) expired otherKey).get (by decide +kernel)

theorem limiter_right_sample :
    LimitsKept oneOfEach followed ∧ expired.Tracked ⟨"a", 1000⟩ ∧
      ¬followed.Tracked ⟨"a", 1000⟩ := by
  have hexpired : run (State.step oneOfEach) (.initial 0) toExpiry = some expired := by
    unfold expired
    rw [Option.some_get]
  have hfollowed : run (State.step oneOfEach) expired otherKey = some followed := by
    unfold followed
    rw [Option.some_get]
  obtain ⟨hkept, hremoved⟩ := limiter_right oneOfEach 0 toExpiry otherKey expired followed
    hexpired (by decide +kernel) hfollowed (by decide +kernel)
  refine ⟨hkept, by decide +kernel, fun htracked => ?_⟩
  have hclean : ∀ call ∈ followed.calls, call.removing ≠ some ⟨"a", 1000⟩ := by decide +kernel
  obtain ⟨call, hcall, hremoving⟩ := hremoved [⟨"a", 1000⟩] [] (by decide +kernel)
    (by decide +kernel) (by decide +kernel) ⟨"a", 1000⟩ (List.mem_singleton_self _) htracked
  exact hclean call hcall hremoving

end GcsSaker.RateLimitFilter
