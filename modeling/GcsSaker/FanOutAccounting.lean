import GcsSaker.TelemetryFanOut

/-!
# Accounting of the fan-out

Every message that a subscriber queued is counted as dequeued or as discarded, or is in the queue,
and every subscriber that is registered is counted as connected, once all threads have come to
their ends. The limits of connections hold until a session identity is registered again for a
principal that has reached its own.
-/

namespace GcsSaker.TelemetryFanOut

open Groups (AuthenticatedPrincipal GroupId)
open Runs (run Along)

/-! ## What should hold -/

def SenderStage.held : SenderStage → ℕ
  | .holding _ => 1
  | _ => 0

namespace Hub

def Bounded (config : TelemetryWebSocketHub) (hub : Hub) : Prop :=
  hub.registered.length ≤ config.maxConnections ∧
    ∀ username, hub.connections username ≤ config.maxConnectionsPerPrincipal

/-- No thread has anything left to do, and no sender has a message that it did not count. -/
def Quiescent (hub : Hub) : Prop :=
  (∀ operations ∈ hub.threads, operations = []) ∧
    ∀ subscriber ∈ hub.subscribers, subscriber.sender.held = 0

structure Accounted (hub : Hub) : Prop where
  connections : (hub.metrics.connected : ℤ) - hub.metrics.disconnected = hub.registered.length
  messages : ∀ subscriber ∈ hub.subscribers,
    subscriber.queued = subscriber.dequeued + subscriber.discarded + subscriber.queue.length

/-- A session identity that another principal has registered is not given to a principal that has
reached its limit. -/
def Admissible (config : TelemetryWebSocketHub) (hub : Hub) : Action → Prop
  | .connect sessionId principal => principal.role ≠ .admin →
    ∀ previous ∈ hub.find sessionId, previous.username ≠ principal.username →
      hub.connections principal.username < config.maxConnectionsPerPrincipal
  | _ => True

end Hub

/-! ## Subscribers -/

namespace TelemetrySubscriber

/-- While `close` stands between counting the queue and emptying it, its messages are counted. -/
def uncounted (subscriber : TelemetrySubscriber) : ℕ :=
  if subscriber.closing = .discarded then 0 else subscriber.queue.length

structure Sound (subscriber : TelemetrySubscriber) : Prop where
  balanced : subscriber.queued =
    subscriber.dequeued + subscriber.discarded + subscriber.uncounted + subscriber.sender.held
  stopped : subscriber.closing = .cancelled ∨ subscriber.closing = .discarded →
    subscriber.sender = .taking → subscriber.interrupted = true

variable {subscriber subscriber' : TelemetrySubscriber}

theorem sound_new (sessionId : String) (principal : AuthenticatedPrincipal) :
    (newSubscriber sessionId principal).Sound := by
  constructor
  · rfl
  · intro h
    rcases h with h | h <;> cases h

theorem Sound.interrupt (h : subscriber.Sound) : subscriber.interrupt.Sound := by
  refine ⟨h.balanced, fun hclosing hsender => ?_⟩
  unfold TelemetrySubscriber.interrupt
  rw [h.stopped hclosing hsender, Bool.true_or]

theorem Sound.enter (h : subscriber.Sound) (hopen : subscriber.closing = .isOpen) :
    { subscriber with closing := .entered : TelemetrySubscriber }.Sound := by
  have hbalanced := h.balanced
  simp only [uncounted, hopen, reduceCtorEq, if_false] at hbalanced
  refine ⟨?_, fun hclosing => ?_⟩
  · simpa only [uncounted, reduceCtorEq, if_false] using hbalanced
  · rcases hclosing with hclosing | hclosing <;> cases hclosing

theorem Sound.cancel (h : subscriber.Sound) (hentered : subscriber.closing = .entered) :
    { subscriber.interrupt with closing := .cancelled : TelemetrySubscriber }.Sound := by
  have hbalanced := h.balanced
  simp only [uncounted, hentered, reduceCtorEq, if_false] at hbalanced
  refine ⟨?_, fun _ hsender => ?_⟩
  · simpa only [uncounted, TelemetrySubscriber.interrupt, reduceCtorEq, if_false] using hbalanced
  · have htaking : subscriber.sender = .taking := hsender
    simp only [TelemetrySubscriber.interrupt, htaking, ne_eq, reduceCtorEq, not_false_eq_true,
      decide_true, Bool.or_true]

theorem Sound.discard (h : subscriber.Sound) (hcancelled : subscriber.closing = .cancelled) :
    { subscriber with
      closing := .discarded
      discarded := subscriber.discarded + subscriber.queue.length : TelemetrySubscriber }.Sound := by
  have hbalanced := h.balanced
  simp only [uncounted, hcancelled, reduceCtorEq, if_false] at hbalanced
  refine ⟨?_, fun _ => h.stopped (.inl hcancelled)⟩
  simp only [uncounted, if_true]
  omega

theorem Sound.clear (h : subscriber.Sound) (hdiscarded : subscriber.closing = .discarded) :
    { subscriber with closing := .cleared, queue := [] : TelemetrySubscriber }.Sound := by
  have hbalanced := h.balanced
  simp only [uncounted, hdiscarded, if_true] at hbalanced
  refine ⟨?_, fun hclosing => ?_⟩
  · simpa only [uncounted, reduceCtorEq, if_false, List.length_nil] using hbalanced
  · rcases hclosing with hclosing | hclosing <;> cases hclosing

theorem Sound.offer (h : subscriber.Sound) (hopen : subscriber.closing = .isOpen)
    (message : String) :
    { subscriber with
      queue := subscriber.queue ++ [message]
      queued := subscriber.queued + 1 : TelemetrySubscriber }.Sound := by
  have hbalanced := h.balanced
  simp only [uncounted, hopen, reduceCtorEq, if_false] at hbalanced
  refine ⟨?_, h.stopped⟩
  simp only [uncounted, hopen, reduceCtorEq, if_false, List.length_append, List.length_singleton]
  omega

/-- A sender that does not hold a message may go wherever it holds none, but to take one only
while the subscriber is open. -/
theorem Sound.sender (h : subscriber.Sound) {sender : SenderStage}
    (hheld : subscriber.sender.held = 0) (hheld' : sender.held = 0)
    (htaking : sender = .taking → subscriber.closing = .isOpen) :
    { subscriber with sender : TelemetrySubscriber }.Sound := by
  have hbalanced := h.balanced
  rw [hheld] at hbalanced
  refine ⟨?_, fun hclosing hsender => ?_⟩
  · dsimp only
    rw [hheld']
    exact hbalanced
  · have hopen := htaking hsender
    rcases hclosing with hclosing | hclosing <;>
      exact absurd (hopen.symm.trans hclosing) (by decide)

theorem Sound.check (h : subscriber.Sound) (hstep : Hub.check subscriber = some subscriber') :
    subscriber'.Sound := by
  unfold Hub.check at hstep
  split at hstep
  next hsender =>
    cases hstep
    have hheld : subscriber.sender.held = 0 := by rw [hsender]; rfl
    apply h.sender hheld
    · split_ifs <;> rfl
    · intro htaking
      by_contra hclosed
      rw [if_neg hclosed] at htaking
      cases htaking
  next => cases hstep

theorem Sound.take (h : subscriber.Sound) (hstep : Hub.take subscriber = some subscriber') :
    subscriber'.Sound := by
  unfold Hub.take at hstep
  split at hstep
  next hsender =>
    have hheld : subscriber.sender.held = 0 := by rw [hsender]; rfl
    split_ifs at hstep with hinterrupted
    · cases hstep
      exact h.sender hheld rfl fun htaking => nomatch htaking
    · -- nothing has interrupted the sender, so the queue has not been counted as discarded
      have hclosing : subscriber.closing ≠ .discarded := fun hdiscarded =>
        hinterrupted (h.stopped (.inr hdiscarded) hsender)
      have hbalanced := h.balanced
      rw [uncounted, if_neg hclosing, hheld] at hbalanced
      split at hstep
      next => cases hstep
      next message queue hqueue =>
        cases hstep
        rw [hqueue, List.length_cons] at hbalanced
        refine ⟨?_, fun _ hsender => nomatch hsender⟩
        simp only [uncounted, if_neg hclosing, SenderStage.held]
        omega
  next => cases hstep

theorem Sound.countDequeued (h : subscriber.Sound)
    (hstep : Hub.countDequeued subscriber = some subscriber') : subscriber'.Sound := by
  unfold Hub.countDequeued at hstep
  split at hstep
  next message hsender =>
    cases hstep
    have hbalanced := h.balanced
    rw [hsender] at hbalanced
    refine ⟨?_, fun _ hsender => nomatch hsender⟩
    simp only [uncounted, SenderStage.held] at hbalanced ⊢
    omega
  next => cases hstep

end TelemetrySubscriber

/-! ## Threads -/

def isConnected : Operation → Bool
  | .connected => true
  | _ => false

def isDisconnected : Operation → Bool
  | .disconnected => true
  | _ => false

def isStart (number : ℕ) : Operation → Bool
  | .start number' => number' = number
  | _ => false

/-- How many operations of a kind the threads have still to do. -/
def pending (kind : Operation → Bool) (threads : List (List Operation)) : ℕ :=
  threads.flatten.countP kind

theorem pending_append (kind : Operation → Bool) (threads : List (List Operation))
    (operations : List Operation) :
    pending kind (threads ++ [operations]) = pending kind threads + operations.countP kind := by
  rw [pending, List.flatten_append, List.countP_append, List.flatten_singleton]
  rfl

theorem pending_set (kind : Operation → Bool) {threads : List (List Operation)} {thread : ℕ}
    {operations : List Operation} (h : threads[thread]? = some operations)
    (operations' : List Operation) :
    pending kind (threads.set thread operations') + operations.countP kind =
      pending kind threads + operations'.countP kind := by
  unfold pending
  induction threads generalizing thread with
  | nil => cases h
  | cons first threads ih =>
      cases thread with
      | zero =>
          rw [List.getElem?_cons_zero, Option.some.injEq] at h
          rw [List.set_cons_zero, List.flatten_cons, List.flatten_cons, List.countP_append,
            List.countP_append, h]
          omega
      | succ thread =>
          have hrest := @ih thread h
          rw [List.set_cons_succ, List.flatten_cons, List.flatten_cons, List.countP_append,
            List.countP_append]
          omega

theorem pending_eq_zero {kind : Operation → Bool} {threads : List (List Operation)}
    (h : ∀ operations ∈ threads, operations = []) : pending kind threads = 0 := by
  rw [pending, List.flatten_eq_nil_iff.2 h, List.countP_nil]

/-! ## Registrations -/

/-- The entry of a session identity and the entries of all others. -/
theorem perm_of_find {registered : List Registration} {sessionId : String} {entry : Registration}
    (h : (registered.map (·.sessionId)).Nodup)
    (hfind : registered.find? (·.sessionId = sessionId) = some entry) :
    registered.Perm (entry :: registered.filter (·.sessionId ≠ sessionId)) := by
  induction registered with
  | nil => cases hfind
  | cons first registered ih =>
      rw [List.map_cons, List.nodup_cons] at h
      by_cases hfirst : first.sessionId = sessionId
      · simp only [List.find?_cons, hfirst, decide_true, Option.some.injEq] at hfind
        have hrest : registered.filter (·.sessionId ≠ sessionId) = registered := by
          rw [List.filter_eq_self]
          intro other hother
          apply decide_eq_true
          intro heq
          exact h.1 (List.mem_map.2 ⟨other, hother, heq.trans hfirst.symm⟩)
        rw [List.filter_cons_of_neg (by simpa using hfirst), hrest, hfind]
      · simp only [List.find?_cons, hfirst, decide_false] at hfind
        rw [List.filter_cons_of_pos (by simpa using hfirst)]
        exact ((ih h.2 hfind).cons first).trans (List.Perm.swap ..)

theorem filter_eq_of_find_none {registered : List Registration} {sessionId : String}
    (hfind : registered.find? (·.sessionId = sessionId) = none) :
    registered.filter (·.sessionId ≠ sessionId) = registered := by
  rw [List.filter_eq_self]
  intro entry hentry
  simpa using List.find?_eq_none.1 hfind entry hentry

/-! ## The invariant -/

namespace Hub

/-- A sender was started for the subscriber. -/
def started (hub : Hub) (number : ℕ) : ℕ :=
  match hub.subscribers[number]? with
  | some subscriber => if subscriber.sender = .notStarted then 0 else 1
  | none => 0

structure Invariant (hub : Hub) : Prop where
  keys : (hub.registered.map (·.sessionId)).Nodup
  sound : ∀ subscriber ∈ hub.subscribers, subscriber.Sound
  balance : hub.metrics.connected + pending isConnected hub.threads =
    hub.registered.length + hub.metrics.disconnected + pending isDisconnected hub.threads
  clearing : ∀ number subscriber, hub.subscribers[number]? = some subscriber →
    subscriber.closing = .discarded → ∃ operations ∈ hub.threads, .clear number ∈ operations
  starts : ∀ number, pending (isStart number) hub.threads + hub.started number ≤ 1
  fresh : ∀ number, hub.subscribers.length ≤ number → pending (isStart number) hub.threads = 0

/-- What an operation does to what the invariant speaks of. -/
structure Performed (hub : Hub) (operation : Operation) (hub' : Hub) (next : List Operation) :
    Prop where
  threads : hub'.threads = hub.threads
  registered : hub'.registered.Sublist hub.registered
  sound : ∀ subscriber ∈ hub'.subscribers, subscriber.Sound
  balance : hub'.metrics.connected + next.countP isConnected + hub.registered.length +
      hub.metrics.disconnected + [operation].countP isDisconnected =
    hub.metrics.connected + [operation].countP isConnected + hub'.registered.length +
      hub'.metrics.disconnected + next.countP isDisconnected
  clearing : ∀ number subscriber', hub'.subscribers[number]? = some subscriber' →
    subscriber'.closing = .discarded → .clear number ∈ next ∨
      operation ≠ .clear number ∧ ∃ subscriber, hub.subscribers[number]? = some subscriber ∧
        subscriber.closing = .discarded
  starts : ∀ number, next.countP (isStart number) + hub'.started number ≤
    [operation].countP (isStart number) + hub.started number
  length : hub'.subscribers.length = hub.subscribers.length

variable {config : TelemetryWebSocketHub} {hub hub' : Hub}

theorem started_set {number : ℕ} {subscriber subscriber' : TelemetrySubscriber}
    (h : hub.subscribers[number]? = some subscriber)
    (hsender : subscriber'.sender = .notStarted ↔ subscriber.sender = .notStarted)
    (number' : ℕ) : (hub.set number subscriber').started number' = hub.started number' := by
  unfold started Hub.set
  dsimp only
  by_cases hnumber : number = number'
  · subst hnumber
    have hlt := (List.getElem?_eq_some_iff.1 h).1
    rw [List.getElem?_set_self hlt, h]
    dsimp only
    rw [if_congr hsender rfl rfl]
  · rw [List.getElem?_set_ne hnumber]

theorem sound_set (h : ∀ subscriber ∈ hub.subscribers, subscriber.Sound) {number : ℕ}
    {subscriber' : TelemetrySubscriber} (hsound : subscriber'.Sound) :
    ∀ subscriber ∈ (hub.set number subscriber').subscribers, subscriber.Sound := by
  intro subscriber hmem
  rcases List.mem_or_eq_of_mem_set hmem with hold | rfl
  · exact h subscriber hold
  · exact hsound

theorem clearing_set {number : ℕ} {subscriber subscriber' : TelemetrySubscriber}
    (h : hub.subscribers[number]? = some subscriber) {number' : ℕ}
    {changed : TelemetrySubscriber}
    (hget : (hub.set number subscriber').subscribers[number']? = some changed) :
    number' = number ∧ changed = subscriber' ∨
      number' ≠ number ∧ hub.subscribers[number']? = some changed := by
  by_cases hnumber : number = number'
  · subst hnumber
    have hlt := (List.getElem?_eq_some_iff.1 h).1
    unfold Hub.set at hget
    rw [List.getElem?_set_self hlt, Option.some.injEq] at hget
    exact .inl ⟨rfl, hget.symm⟩
  · unfold Hub.set at hget
    rw [List.getElem?_set_ne hnumber] at hget
    exact .inr ⟨Ne.symm hnumber, hget⟩

/-- An operation that writes to one subscriber. -/
theorem performed_set (h : hub.Invariant) {operation : Operation} {next : List Operation}
    {number : ℕ} {subscriber subscriber' : TelemetrySubscriber}
    (hget : hub.subscribers[number]? = some subscriber) (hsound : subscriber'.Sound)
    (hsender : subscriber'.sender = .notStarted ↔ subscriber.sender = .notStarted)
    (hclosing : subscriber'.closing = .discarded → .clear number ∈ next ∨
      operation ≠ .clear number ∧ subscriber.closing = .discarded)
    (hclear : ∀ number' ≠ number, operation ≠ .clear number')
    (hconnected : next.countP isConnected = [operation].countP isConnected)
    (hdisconnected : next.countP isDisconnected = [operation].countP isDisconnected)
    (hstart : ∀ number', next.countP (isStart number') = 0) :
    Performed hub operation (hub.set number subscriber') next where
  threads := rfl
  registered := List.Sublist.refl _
  sound := sound_set h.sound hsound
  balance := by
    rw [hconnected, hdisconnected]
    change hub.metrics.connected + _ + _ + _ + _ = hub.metrics.connected + _ + _ + _ + _
    rfl
  clearing number' changed hchanged hdiscarded := by
    rcases clearing_set hget hchanged with ⟨rfl, rfl⟩ | ⟨hnumber, hold⟩
    · rcases hclosing hdiscarded with hnext | ⟨hne, hbefore⟩
      · exact .inl hnext
      · exact .inr ⟨hne, subscriber, hget, hbefore⟩
    · exact .inr ⟨hclear number' hnumber, changed, hold, hdiscarded⟩
  starts number' := by
    rw [started_set hget hsender, hstart]
    omega
  length := List.length_set

/-- An operation that writes to no subscriber. -/
theorem performed_of_subscribers (h : hub.Invariant) {operation : Operation}
    {next : List Operation} (hsubscribers : hub'.subscribers = hub.subscribers)
    (hthreads : hub'.threads = hub.threads)
    (hregistered : hub'.registered.Sublist hub.registered)
    (hbalance : hub'.metrics.connected + next.countP isConnected + hub.registered.length +
        hub.metrics.disconnected + [operation].countP isDisconnected =
      hub.metrics.connected + [operation].countP isConnected + hub'.registered.length +
        hub'.metrics.disconnected + next.countP isDisconnected)
    (hclear : ∀ number subscriber, hub.subscribers[number]? = some subscriber →
      subscriber.closing = .discarded → operation ≠ .clear number)
    (hstart : ∀ number, next.countP (isStart number) = 0) :
    Performed hub operation hub' next where
  threads := hthreads
  registered := hregistered
  sound := hsubscribers ▸ h.sound
  balance := hbalance
  clearing number changed hchanged hdiscarded := by
    rw [hsubscribers] at hchanged
    exact .inr ⟨hclear number changed hchanged hdiscarded, changed, hchanged, hdiscarded⟩
  starts number := by
    have hsame : hub'.started number = hub.started number := by
      unfold started
      rw [hsubscribers]
    rw [hstart, hsame]
    omega
  length := by rw [hsubscribers]

/-- An operation that finds nothing to do. -/
theorem performed_unchanged (h : hub.Invariant) {operation : Operation} {next : List Operation}
    (hclear : ∀ number, operation ≠ .clear number)
    (hconnected : next.countP isConnected = [operation].countP isConnected)
    (hdisconnected : next.countP isDisconnected = [operation].countP isDisconnected)
    (hstart : ∀ number, next.countP (isStart number) = 0) : Performed hub operation hub next := by
  refine performed_of_subscribers h rfl rfl (List.Sublist.refl _) ?_
    (fun number _ _ _ => hclear number) hstart
  rw [hconnected, hdisconnected]

theorem performed_remove (h : hub.Invariant) {sessionId : String} {next : List Operation}
    (hperform : hub.perform config (.remove sessionId) = some (hub', next)) :
    Performed hub (.remove sessionId) hub' next := by
  unfold perform at hperform
  dsimp only at hperform
  split at hperform
  next hnone =>
    cases hperform
    exact performed_unchanged h (fun _ heq => nomatch heq) rfl rfl fun _ => rfl
  next removed hfind =>
    cases hperform
    have hperm := perm_of_find h.keys hfind
    refine performed_of_subscribers h rfl rfl ?_ ?_ (fun _ _ _ _ heq => nomatch heq) fun _ => rfl
    · exact List.filter_sublist
    · have hlength := hperm.length_eq
      rw [List.length_cons] at hlength
      simp only [List.countP_cons, List.countP_nil, isConnected, isDisconnected,
        Bool.false_eq_true, if_false, if_true]
      omega

theorem performed_close (h : hub.Invariant) {number : ℕ} {next : List Operation}
    (hperform : hub.perform config (.close number) = some (hub', next)) :
    Performed hub (.close number) hub' next := by
  unfold perform at hperform
  obtain ⟨subscriber, hget, hperform⟩ := Option.bind_eq_some_iff.1 hperform
  have hsound := h.sound subscriber (List.mem_of_getElem? hget)
  split at hperform
  next hopen =>
    cases hperform
    exact performed_set h hget (hsound.enter hopen) Iff.rfl (fun hclosing => nomatch hclosing)
      (fun _ _ heq => nomatch heq) rfl rfl fun _ => rfl
  next =>
    cases hperform
    exact performed_unchanged h (fun _ heq => nomatch heq) rfl rfl fun _ => rfl
  next => cases hperform

theorem performed_cancel (h : hub.Invariant) {number : ℕ} {next : List Operation}
    (hperform : hub.perform config (.cancel number) = some (hub', next)) :
    Performed hub (.cancel number) hub' next := by
  unfold perform at hperform
  obtain ⟨subscriber, hget, hperform⟩ := Option.bind_eq_some_iff.1 hperform
  split_ifs at hperform with hentered
  cases hperform
  have hsound := h.sound subscriber (List.mem_of_getElem? hget)
  exact performed_set h hget (hsound.cancel hentered) Iff.rfl (fun hclosing => nomatch hclosing)
    (fun _ _ heq => nomatch heq) rfl rfl fun _ => rfl

theorem performed_discard (h : hub.Invariant) {number : ℕ} {next : List Operation}
    (hperform : hub.perform config (.discard number) = some (hub', next)) :
    Performed hub (.discard number) hub' next := by
  unfold perform at hperform
  obtain ⟨subscriber, hget, hperform⟩ := Option.bind_eq_some_iff.1 hperform
  split_ifs at hperform with hcancelled
  cases hperform
  have hsound := h.sound subscriber (List.mem_of_getElem? hget)
  exact performed_set h hget (hsound.discard hcancelled) Iff.rfl
    (fun _ => .inl (List.mem_singleton_self _)) (fun _ _ heq => nomatch heq) rfl rfl fun _ => rfl

theorem performed_clear (h : hub.Invariant) {number : ℕ} {next : List Operation}
    (hperform : hub.perform config (.clear number) = some (hub', next)) :
    Performed hub (.clear number) hub' next := by
  unfold perform at hperform
  obtain ⟨subscriber, hget, hperform⟩ := Option.bind_eq_some_iff.1 hperform
  split_ifs at hperform with hdiscarded
  cases hperform
  have hsound := h.sound subscriber (List.mem_of_getElem? hget)
  refine performed_set h hget (hsound.clear hdiscarded) Iff.rfl (fun hclosing => nomatch hclosing)
    (fun number' hne heq => hne ?_) rfl rfl fun _ => rfl
  cases heq
  rfl

theorem performed_visit (h : hub.Invariant) {number : ℕ} {groupId : GroupId}
    {isAncestor : GroupId → GroupId → Bool} {message : String} {next : List Operation}
    (hperform : hub.perform config (.visit number groupId isAncestor message) =
      some (hub', next)) :
    Performed hub (.visit number groupId isAncestor message) hub' next := by
  unfold perform at hperform
  obtain ⟨subscriber, hget, hperform⟩ := Option.bind_eq_some_iff.1 hperform
  have hsound := h.sound subscriber (List.mem_of_getElem? hget)
  split_ifs at hperform
  · obtain ⟨⟨offered, taken⟩, hoffer, heq⟩ := Option.map_eq_some_iff.1 hperform
    cases heq
    unfold offer at hoffer
    split at hoffer
    next hopen =>
      split_ifs at hoffer
      · cases hoffer
        exact performed_set h hget (hsound.offer hopen message) Iff.rfl
          (fun hclosing => nomatch hopen.symm.trans hclosing) (fun _ _ heq => nomatch heq) rfl rfl
          fun _ => rfl
      · cases hoffer
        exact performed_of_subscribers h rfl rfl (List.Sublist.refl _) rfl
          (fun _ _ _ _ heq => nomatch heq) fun _ => rfl
    next =>
      cases hoffer
      exact performed_unchanged h (fun _ heq => nomatch heq) rfl rfl fun _ => rfl
    next => cases hoffer
  · cases hperform
    exact performed_unchanged h (fun _ heq => nomatch heq) rfl rfl fun _ => rfl

theorem sender_of_started_eq_zero {number : ℕ} {subscriber : TelemetrySubscriber}
    (hget : hub.subscribers[number]? = some subscriber) (h : hub.started number = 0) :
    subscriber.sender = .notStarted := by
  unfold started at h
  rw [hget] at h
  by_contra hstarted
  dsimp only at h
  rw [if_neg hstarted] at h
  cases h

theorem started_le_one (hub : Hub) (number : ℕ) : hub.started number ≤ 1 := by
  unfold started
  split
  · split_ifs <;> omega
  · omega

/-- A sender is started at most once, so no message is lost by it. -/
theorem performed_start (h : hub.Invariant) {number : ℕ} {next : List Operation}
    (hidle : hub.started number = 0)
    (hperform : hub.perform config (.start number) = some (hub', next)) :
    Performed hub (.start number) hub' next := by
  unfold perform at hperform
  obtain ⟨subscriber, hget, hperform⟩ := Option.bind_eq_some_iff.1 hperform
  have hsound := h.sound subscriber (List.mem_of_getElem? hget)
  have hsender := sender_of_started_eq_zero hget hidle
  have hunchanged : Performed hub (.start number) hub [] :=
    performed_unchanged h (fun _ heq => nomatch heq) rfl rfl fun _ => rfl
  split at hperform
  next hopen =>
    split_ifs at hperform
    · cases hperform
      exact hunchanged
    · cases hperform
      have hheld : subscriber.sender.held = 0 := by rw [hsender]; rfl
      refine ⟨rfl, List.Sublist.refl _,
        sound_set h.sound (hsound.sender hheld rfl fun heq => nomatch heq), rfl,
        fun number' changed hchanged hdiscarded => ?_, fun number' => ?_, List.length_set⟩
      · rcases clearing_set hget hchanged with ⟨-, rfl⟩ | ⟨-, hold⟩
        · exact nomatch hopen.symm.trans hdiscarded
        · exact .inr ⟨fun heq => (nomatch heq), changed, hold, hdiscarded⟩
      · by_cases hnumber : number = number'
        · subst hnumber
          have hone := started_le_one (hub.set number { subscriber with sender := .looping }) number
          simp only [List.countP_nil, List.countP_singleton, isStart, decide_true, if_true]
          omega
        · have hsame : (hub.set number { subscriber with sender := .looping }).started number' =
              hub.started number' := by
            unfold started Hub.set
            dsimp only
            rw [List.getElem?_set_ne hnumber]
          rw [hsame, List.countP_nil]
          omega
  next =>
    cases hperform
    exact hunchanged
  next => cases hperform

theorem getElem?_map_interrupt {number : ℕ} {changed : TelemetrySubscriber}
    (h : (hub.subscribers.map (·.interrupt))[number]? = some changed) :
    ∃ subscriber, hub.subscribers[number]? = some subscriber ∧ subscriber.interrupt = changed := by
  rw [List.getElem?_map] at h
  exact Option.map_eq_some_iff.1 h

theorem performed_shutdownNow (h : hub.Invariant) {next : List Operation}
    (hperform : hub.perform config .shutdownNow = some (hub', next)) :
    Performed hub .shutdownNow hub' next := by
  cases hperform
  refine ⟨rfl, List.Sublist.refl _, fun changed hmem => ?_, rfl,
    fun number changed hchanged hdiscarded => ?_, fun number => ?_, List.length_map _⟩
  · obtain ⟨subscriber, hsubscriber, rfl⟩ := List.mem_map.1 hmem
    exact (h.sound subscriber hsubscriber).interrupt
  · obtain ⟨subscriber, hget, rfl⟩ := getElem?_map_interrupt hchanged
    exact .inr ⟨fun heq => (nomatch heq), subscriber, hget, hdiscarded⟩
  · have hsame : ({ hub with
        subscribers := hub.subscribers.map (·.interrupt)
        isShutdown := true } : Hub).started number = hub.started number := by
      unfold started
      dsimp only
      rw [List.getElem?_map]
      cases hub.subscribers[number]? <;> rfl
    rw [hsame, List.countP_nil]
    omega

theorem perform_performed (h : hub.Invariant) {operation : Operation} {next : List Operation}
    (hidle : ∀ number, operation = .start number → hub.started number = 0)
    (hperform : hub.perform config operation = some (hub', next)) :
    Performed hub operation hub' next := by
  cases operation with
  | remove sessionId => exact performed_remove h hperform
  | close number => exact performed_close h hperform
  | cancel number => exact performed_cancel h hperform
  | discard number => exact performed_discard h hperform
  | clear number => exact performed_clear h hperform
  | disconnected =>
      cases hperform
      refine performed_of_subscribers h rfl rfl (List.Sublist.refl _) ?_
        (fun _ _ _ _ heq => nomatch heq) fun _ => rfl
      simp only [List.countP_nil, List.countP_singleton, isConnected, isDisconnected,
        Bool.false_eq_true, if_false, if_true]
      omega
  | connected =>
      cases hperform
      refine performed_of_subscribers h rfl rfl (List.Sublist.refl _) ?_
        (fun _ _ _ _ heq => nomatch heq) fun _ => rfl
      simp only [List.countP_nil, List.countP_singleton, isConnected, isDisconnected,
        Bool.false_eq_true, if_false, if_true]
  | start number => exact performed_start h (hidle number rfl) hperform
  | visit number groupId isAncestor message => exact performed_visit h hperform
  | shutdownNow => exact performed_shutdownNow h hperform

/-! ## Steps -/

theorem started_of_length_le {number : ℕ} (h : hub.subscribers.length ≤ number) :
    hub.started number = 0 := by
  unfold started
  rw [List.getElem?_eq_none h]

/-- What a thread has still to do after an operation that gave it more to do. -/
theorem pending_next (kind : Operation → Bool) {threads : List (List Operation)} {thread : ℕ}
    {operation : Operation} {operations : List Operation}
    (h : threads[thread]? = some (operation :: operations)) (next : List Operation) :
    pending kind (threads.set thread (next ++ operations)) + [operation].countP kind =
      pending kind threads + next.countP kind := by
  have hset := pending_set kind h (next ++ operations)
  rw [List.countP_append, List.countP_cons] at hset
  rw [List.countP_singleton]
  omega

/-- An operation of a thread is kept when another one is done. -/
theorem mem_threads_set {threads : List (List Operation)} {thread : ℕ} {operation done : Operation}
    {operations next : List Operation} (h : threads[thread]? = some (done :: operations))
    (hne : done ≠ operation) (hmem : ∃ operations ∈ threads, operation ∈ operations) :
    ∃ operations' ∈ threads.set thread (next ++ operations), operation ∈ operations' := by
  obtain ⟨found, hfound, hin⟩ := hmem
  obtain ⟨other, hother⟩ := List.mem_iff_getElem?.1 hfound
  by_cases heq : thread = other
  · subst heq
    rw [h, Option.some.injEq] at hother
    rw [← hother] at hin
    have hlt := (List.getElem?_eq_some_iff.1 h).1
    refine ⟨next ++ operations, List.mem_of_getElem? (List.getElem?_set_self hlt), ?_⟩
    exact List.mem_append_right next ((List.mem_cons.1 hin).resolve_left (Ne.symm hne))
  · exact ⟨found, List.mem_of_getElem? ((List.getElem?_set_ne heq).trans hother), hin⟩

theorem pending_head (kind : Operation → Bool) {threads : List (List Operation)} {thread : ℕ}
    {operation : Operation} {operations : List Operation}
    (h : threads[thread]? = some (operation :: operations)) :
    [operation].countP kind ≤ pending kind threads := by
  have hrest := pending_next kind h []
  rw [List.countP_nil] at hrest
  omega

theorem proceed_cases (h : hub.Invariant) {thread : ℕ}
    (hstep : hub.proceed config thread = some hub') :
    ∃ operation operations performed next,
      hub.threads[thread]? = some (operation :: operations) ∧
        Performed hub operation performed next ∧
        hub' = { performed with threads := performed.threads.set thread (next ++ operations) } := by
  unfold proceed at hstep
  split at hstep
  next operation operations hthread =>
    obtain ⟨⟨performed, next⟩, hperform, rfl⟩ := Option.map_eq_some_iff.1 hstep
    have hidle : ∀ number, operation = .start number → hub.started number = 0 := by
      rintro number rfl
      have hstarts := h.starts number
      have hpending := pending_head (isStart number) hthread
      simp only [List.countP_singleton, isStart, decide_true, if_true] at hpending
      omega
    exact ⟨operation, operations, performed, next, hthread, perform_performed h hidle hperform, rfl⟩
  next => cases hstep

theorem proceed_invariant (h : hub.Invariant) {thread : ℕ}
    (hstep : hub.proceed config thread = some hub') : hub'.Invariant := by
  obtain ⟨operation, operations, performed, next, hthread, hp, rfl⟩ := proceed_cases h hstep
  have hcount := fun kind => pending_next kind hthread next
  refine ⟨h.keys.sublist (hp.registered.map _), hp.sound, ?_,
    fun number changed hchanged hdiscarded => ?_, fun number => ?_, fun number hlength => ?_⟩
  · have hbalance := h.balance
    have hperformed := hp.balance
    have hconnected := hcount isConnected
    have hdisconnected := hcount isDisconnected
    dsimp only
    rw [hp.threads]
    omega
  · dsimp only
    rw [hp.threads]
    rcases hp.clearing number changed hchanged hdiscarded with
      hnext | ⟨hne, subscriber, hget, hbefore⟩
    · have hlt := (List.getElem?_eq_some_iff.1 hthread).1
      exact ⟨next ++ operations, List.mem_of_getElem? (List.getElem?_set_self hlt),
        List.mem_append_left operations hnext⟩
    · exact mem_threads_set hthread hne (h.clearing number subscriber hget hbefore)
  · have hstarts := h.starts number
    have hperformed := hp.starts number
    have hstart := hcount (isStart number)
    have hsame : ({ performed with
        threads := performed.threads.set thread (next ++ operations) } : Hub).started number =
          performed.started number := rfl
    dsimp only at hsame ⊢
    rw [hsame, hp.threads]
    omega
  · have hold : hub.subscribers.length ≤ number := hp.length ▸ hlength
    have hfresh := h.fresh number hold
    have hperformed := hp.starts number
    have hstart := hcount (isStart number)
    have hnone := started_of_length_le hold
    have hfirst := pending_head (isStart number) hthread
    dsimp only
    rw [hp.threads]
    omega

theorem Invariant.metrics (h : hub.Invariant) {metrics : Metrics}
    (hconnected : metrics.connected = hub.metrics.connected)
    (hdisconnected : metrics.disconnected = hub.metrics.disconnected) :
    { hub with metrics : Hub }.Invariant := by
  refine ⟨h.keys, h.sound, ?_, h.clearing, h.starts, h.fresh⟩
  have hbalance := h.balance
  dsimp only
  rw [hconnected, hdisconnected]
  exact hbalance

/-- A thread that does not count connections or start senders by itself. -/
theorem Invariant.spawn (h : hub.Invariant) {operations : List Operation}
    (hconnected : operations.countP isConnected = 0)
    (hdisconnected : operations.countP isDisconnected = 0)
    (hstart : ∀ number, operations.countP (isStart number) = 0) :
    (hub.spawn operations).Invariant := by
  refine ⟨h.keys, h.sound, ?_, fun number subscriber hget hdiscarded => ?_, fun number => ?_,
    fun number hlength => ?_⟩
  · unfold Hub.spawn
    rw [pending_append, pending_append, hconnected, hdisconnected]
    exact h.balance
  · obtain ⟨found, hfound, hin⟩ := h.clearing number subscriber hget hdiscarded
    exact ⟨found, List.mem_append_left _ hfound, hin⟩
  · unfold Hub.spawn
    rw [pending_append, hstart]
    exact h.starts number
  · unfold Hub.spawn
    rw [pending_append, hstart, h.fresh number hlength]

/-- A step of a sender that was started. -/
theorem Invariant.set (h : hub.Invariant) {number : ℕ}
    {subscriber subscriber' : TelemetrySubscriber}
    (hget : hub.subscribers[number]? = some subscriber) (hsound : subscriber'.Sound)
    (hsender : subscriber'.sender = .notStarted ↔ subscriber.sender = .notStarted)
    (hclosing : subscriber'.closing = subscriber.closing) :
    (hub.set number subscriber').Invariant := by
  refine ⟨h.keys, sound_set h.sound hsound, h.balance,
    fun number' changed hchanged hdiscarded => ?_, fun number' => ?_, fun number' hlength => ?_⟩
  · rcases clearing_set hget hchanged with ⟨rfl, rfl⟩ | ⟨-, hold⟩
    · exact h.clearing number' subscriber hget (hclosing.symm.trans hdiscarded)
    · exact h.clearing number' changed hold hdiscarded
  · rw [started_set hget hsender]
    exact h.starts number'
  · apply h.fresh number'
    unfold Hub.set at hlength
    rwa [List.length_set] at hlength

/-- What a sender does to its subscriber, once it was started. -/
structure Moved (subscriber subscriber' : TelemetrySubscriber) : Prop where
  sound : subscriber.Sound → subscriber'.Sound
  closing : subscriber'.closing = subscriber.closing
  before : subscriber.sender ≠ .notStarted
  after : subscriber'.sender ≠ .notStarted

variable {subscriber subscriber' : TelemetrySubscriber}

theorem moved_check (hstep : check subscriber = some subscriber') :
    Moved subscriber subscriber' := by
  have hsound : subscriber.Sound → subscriber'.Sound := fun h => h.check hstep
  unfold check at hstep
  split at hstep
  next hsender =>
    cases hstep
    refine ⟨hsound, rfl, fun heq => (nomatch hsender.symm.trans heq), ?_⟩
    dsimp only
    split_ifs <;> exact fun heq => nomatch heq
  next => cases hstep

theorem moved_take (hstep : take subscriber = some subscriber') :
    Moved subscriber subscriber' := by
  have hsound : subscriber.Sound → subscriber'.Sound := fun h => h.take hstep
  unfold take at hstep
  split at hstep
  next hsender =>
    have hbefore : subscriber.sender ≠ .notStarted := fun heq => nomatch hsender.symm.trans heq
    split_ifs at hstep
    · cases hstep
      exact ⟨hsound, rfl, hbefore, fun heq => nomatch heq⟩
    · split at hstep
      next => cases hstep
      next =>
        cases hstep
        exact ⟨hsound, rfl, hbefore, fun heq => nomatch heq⟩
  next => cases hstep

theorem moved_countDequeued (hstep : countDequeued subscriber = some subscriber') :
    Moved subscriber subscriber' := by
  have hsound : subscriber.Sound → subscriber'.Sound := fun h => h.countDequeued hstep
  unfold countDequeued at hstep
  split at hstep
  next message hsender =>
    cases hstep
    exact ⟨hsound, rfl, fun heq => (nomatch hsender.symm.trans heq), fun heq => nomatch heq⟩
  next => cases hstep

theorem moved_resume (hstep : hub.resume subscriber = some subscriber') :
    Moved subscriber subscriber' := by
  unfold resume at hstep
  split at hstep
  next thread goesOn hsender =>
    by_cases hended : hub.threads[thread]?.any List.isEmpty = true
    · rw [if_pos hended] at hstep
      cases hstep
      have hheld : subscriber.sender.held = 0 := by rw [hsender]; rfl
      refine ⟨fun h => h.sender hheld ?_ ?_, rfl, fun heq => (nomatch hsender.symm.trans heq), ?_⟩
      · cases goesOn <;> rfl
      · cases goesOn <;> exact fun heq => nomatch heq
      · cases goesOn <;> exact fun heq => nomatch heq
    · rw [if_neg hended] at hstep
      cases hstep
  next => cases hstep

theorem senderStep_invariant (h : hub.Invariant) {number : ℕ}
    {act : TelemetrySubscriber → Option TelemetrySubscriber}
    (hact : ∀ subscriber subscriber', act subscriber = some subscriber' →
      Moved subscriber subscriber')
    (hstep : hub.senderStep number act = some hub') : hub'.Invariant := by
  obtain ⟨moved, hbind, rfl⟩ := Option.map_eq_some_iff.1 hstep
  obtain ⟨before, hget, hmove⟩ := Option.bind_eq_some_iff.1 hbind
  have hmoved := hact before moved hmove
  have hsound := hmoved.sound (h.sound before (List.mem_of_getElem? hget))
  exact h.set hget hsound (iff_of_false hmoved.after hmoved.before) hmoved.closing

theorem send_invariant (h : hub.Invariant) {number : ℕ} {outcome : SendOutcome}
    (hget : hub.subscribers[number]? = some subscriber)
    (hstep : hub.send number subscriber outcome = some hub') : hub'.Invariant := by
  -- the message that is sent has been counted
  have hset : ∀ (message : String) (sender : SenderStage), subscriber.sender = .sending message →
      sender.held = 0 → sender ≠ .notStarted → sender ≠ .taking →
      (hub.set number { subscriber with sender }).Invariant := by
    intro message sender hsender hheld' hstarted htaking
    have hheld : subscriber.sender.held = 0 := by rw [hsender]; rfl
    have hsound := (h.sound subscriber (List.mem_of_getElem? hget)).sender hheld hheld'
      fun heq => absurd heq htaking
    refine h.set hget hsound (iff_of_false hstarted ?_) rfl
    rw [hsender]
    exact fun heq => nomatch heq
  unfold send at hstep
  split at hstep
  next message hsender =>
    cases hstep
    have hlooping := hset message .looping hsender rfl (fun heq => nomatch heq)
      fun heq => nomatch heq
    exact hlooping.metrics rfl rfl
  next message hsender =>
    cases hstep
    have hfailing := hset message (.failing hub.threads.length true) hsender rfl
      (fun heq => nomatch heq) fun heq => nomatch heq
    exact hfailing.spawn rfl rfl fun _ => rfl
  next message hsender =>
    cases hstep
    have hfailing := hset message (.failing hub.threads.length false) hsender rfl
      (fun heq => nomatch heq) fun heq => nomatch heq
    have hspawn : (spawn _ [.remove subscriber.sessionId]).Invariant :=
      hfailing.spawn rfl rfl fun _ => rfl
    exact hspawn.metrics rfl rfl
  next message hsender =>
    cases hstep
    exact hset message .done hsender rfl (fun heq => nomatch heq) fun heq => nomatch heq
  next => cases hstep

/-! ## Connections -/

theorem keys_register {registered : List Registration} (entry : Registration)
    (h : (registered.map (·.sessionId)).Nodup) :
    ((registered.filter (·.sessionId ≠ entry.sessionId) ++ [entry]).map (·.sessionId)).Nodup := by
  rw [List.map_append, List.nodup_append]
  refine ⟨h.sublist (List.filter_sublist.map _), List.nodup_singleton _, ?_⟩
  intro other hother sessionId hsessionId heq
  obtain ⟨kept, hkept, rfl⟩ := List.mem_map.1 hother
  have hne : kept.sessionId ≠ entry.sessionId := by simpa using (List.mem_filter.1 hkept).2
  exact hne (heq.trans (List.mem_singleton.1 hsessionId))

theorem started_append (subscriber : TelemetrySubscriber) (hidle : subscriber.sender = .notStarted)
    (hsame : hub'.subscribers = hub.subscribers ++ [subscriber]) (number : ℕ) :
    hub'.started number = hub.started number := by
  unfold started
  rw [hsame]
  rcases lt_trichotomy number hub.subscribers.length with hlt | rfl | hgt
  · rw [List.getElem?_append_left hlt]
  · rw [List.getElem?_concat_length, List.getElem?_eq_none le_rfl]
    dsimp only
    rw [if_pos hidle]
  · rw [List.getElem?_eq_none (by rw [List.length_append, List.length_singleton]; omega),
      List.getElem?_eq_none (by omega)]

/-- The subscriber that was registered before gives its place in the count to the new one. -/
theorem admitted_invariant (h : hub.Invariant) (sessionId : String)
    (principal : AuthenticatedPrincipal) {closing : List Operation}
    (hcount : closing.countP isDisconnected + (hub.registered.filter
      (·.sessionId ≠ sessionId)).length = hub.registered.length)
    (hconnected : closing.countP isConnected = 0)
    (hstart : ∀ number, closing.countP (isStart number) = 0) :
    (spawn { hub with
      subscribers := hub.subscribers ++ [newSubscriber sessionId principal]
      registered := hub.registered.filter (·.sessionId ≠ sessionId) ++
        [⟨sessionId, hub.subscribers.length, principal.username⟩] }
      (closing ++ [.connected, .start hub.subscribers.length])).Invariant := by
  have hpending : ∀ number, List.countP (isStart number)
      (closing ++ [.connected, .start hub.subscribers.length]) =
        if hub.subscribers.length = number then 1 else 0 := by
    intro number
    rw [List.countP_append, hstart]
    by_cases hnumber : hub.subscribers.length = number
    · simp [isStart, hnumber]
    · simp [isStart, hnumber]
  have hkeys := keys_register ⟨sessionId, hub.subscribers.length, principal.username⟩
    h.keys
  refine ⟨hkeys, fun subscriber hmem => ?_, ?_, fun number subscriber hget hdiscarded =>
    ?_, fun number => ?_, fun number hlength => ?_⟩
  · rcases List.mem_append.1 hmem with hold | hnew
    · exact h.sound subscriber hold
    · rw [List.mem_singleton.1 hnew]
      exact TelemetrySubscriber.sound_new sessionId principal
  · have hbalance := h.balance
    unfold Hub.spawn
    rw [pending_append, pending_append, List.countP_append, List.countP_append, hconnected]
    simp only [List.countP_cons, List.countP_nil, isConnected, isDisconnected, List.length_append,
      List.length_singleton, Bool.false_eq_true, if_false, if_true]
    omega
  · have hold : hub.subscribers[number]? = some subscriber := by
      unfold Hub.spawn at hget
      dsimp only at hget
      rw [List.getElem?_append] at hget
      split_ifs at hget with hlt
      · exact hget
      · rw [List.mem_singleton.1 (List.mem_of_getElem? hget)] at hdiscarded
        cases hdiscarded
    obtain ⟨found, hfound, hin⟩ := h.clearing number subscriber hold hdiscarded
    exact ⟨found, List.mem_append_left _ hfound, hin⟩
  · have hstarts := h.starts number
    unfold Hub.spawn
    rw [pending_append, hpending, started_append (newSubscriber sessionId principal) rfl rfl]
    split_ifs with hnumber
    · have hfresh := h.fresh number hnumber.le
      have hnone := started_of_length_le hnumber.le
      dsimp only
      omega
    · exact hstarts
  · unfold Hub.spawn at hlength ⊢
    rw [List.length_append, List.length_singleton] at hlength
    rw [pending_append, hpending, if_neg (by omega), h.fresh number (by omega)]

theorem connect_invariant (h : hub.Invariant) (sessionId : String)
    (principal : AuthenticatedPrincipal) : (hub.connect config sessionId principal).Invariant := by
  unfold connect
  split_ifs
  · exact h
  · unfold admitSubscriber
    dsimp only
    split_ifs
    · exact h.metrics rfl rfl
    · cases hfind : hub.find sessionId with
      | none =>
          have hfilter := filter_eq_of_find_none hfind
          apply admitted_invariant h sessionId principal
          · rw [hfilter]
            exact Nat.zero_add _
          · rfl
          · exact fun _ => rfl
      | some previous =>
          have hlength := (perm_of_find h.keys hfind).length_eq
          rw [List.length_cons] at hlength
          apply admitted_invariant h sessionId principal
          · rw [hlength]
            exact Nat.add_comm ..
          · rfl
          · exact fun _ => rfl

theorem countP_eq_zero {kind : Operation → Bool} {operations : List Operation}
    (h : ∀ operation ∈ operations, kind operation = false) : operations.countP kind = 0 := by
  rw [List.countP_eq_zero]
  intro operation hmem heq
  rw [h operation hmem] at heq
  cases heq

theorem publish_invariant (h : hub.Invariant) (groupId : GroupId)
    (isAncestor : GroupId → GroupId → Bool) (message : String) (numbers : List ℕ) :
    (hub.spawn (numbers.map fun number =>
      .visit number groupId isAncestor message)).Invariant := by
  apply h.spawn
  · apply countP_eq_zero
    intro operation hmem
    obtain ⟨number, -, rfl⟩ := List.mem_map.1 hmem
    rfl
  · apply countP_eq_zero
    intro operation hmem
    obtain ⟨number, -, rfl⟩ := List.mem_map.1 hmem
    rfl
  · intro number
    apply countP_eq_zero
    intro operation hmem
    obtain ⟨number, -, rfl⟩ := List.mem_map.1 hmem
    rfl

theorem closeHub_invariant (h : hub.Invariant) : (hub.spawn ((hub.registered.map fun entry =>
    .remove entry.sessionId) ++ [.shutdownNow])).Invariant := by
  have hnone : ∀ kind : Operation → Bool, (∀ sessionId, kind (.remove sessionId) = false) →
      kind .shutdownNow = false → List.countP kind ((hub.registered.map fun entry =>
        .remove entry.sessionId) ++ [.shutdownNow]) = 0 := by
    intro kind hremove hshutdown
    apply countP_eq_zero
    intro operation hmem
    rcases List.mem_append.1 hmem with hmap | hlast
    · obtain ⟨entry, -, rfl⟩ := List.mem_map.1 hmap
      exact hremove entry.sessionId
    · rw [List.mem_singleton.1 hlast]
      exact hshutdown
  apply h.spawn
  · exact hnone isConnected (fun _ => rfl) rfl
  · exact hnone isDisconnected (fun _ => rfl) rfl
  · exact fun number => hnone (isStart number) (fun _ => rfl) rfl

theorem initial_invariant : initial.Invariant := by
  refine ⟨List.nodup_nil, fun subscriber hmem => ?_, rfl, fun number subscriber hget => ?_,
    fun number => Nat.zero_le 1, fun _ _ => rfl⟩
  · exact absurd hmem List.not_mem_nil
  · cases hget

theorem step_invariant (h : hub.Invariant) {action : Action}
    (hstep : step config hub action = some hub') : hub'.Invariant := by
  cases action with
  | connect sessionId principal =>
      cases hstep
      exact connect_invariant h sessionId principal
  | sessionEnds sessionId =>
      cases hstep
      exact h.spawn rfl rfl fun _ => rfl
  | publish groupId isAncestor message numbers =>
      cases hstep
      exact publish_invariant h groupId isAncestor message numbers
  | closeHub =>
      cases hstep
      exact closeHub_invariant h
  | proceed thread => exact proceed_invariant h hstep
  | check number => exact senderStep_invariant h (fun _ _ => moved_check) hstep
  | take number => exact senderStep_invariant h (fun _ _ => moved_take) hstep
  | countDequeued number => exact senderStep_invariant h (fun _ _ => moved_countDequeued) hstep
  | send number outcome =>
      obtain ⟨subscriber, hget, hsend⟩ := Option.bind_eq_some_iff.1 hstep
      exact send_invariant h hget hsend
  | resume number => exact senderStep_invariant h (fun _ _ => moved_resume) hstep

theorem Invariant.accounted (h : hub.Invariant) (hquiescent : hub.Quiescent) : hub.Accounted := by
  constructor
  · have hbalance := h.balance
    rw [pending_eq_zero hquiescent.1, pending_eq_zero hquiescent.1] at hbalance
    omega
  · intro subscriber hmem
    obtain ⟨number, hget⟩ := List.mem_iff_getElem?.1 hmem
    have hclosing : subscriber.closing ≠ .discarded := by
      intro hdiscarded
      obtain ⟨operations, hthread, hin⟩ := h.clearing number subscriber hget hdiscarded
      rw [hquiescent.1 operations hthread] at hin
      exact List.not_mem_nil hin
    have hbalanced := (h.sound subscriber hmem).balanced
    rw [TelemetrySubscriber.uncounted, if_neg hclosing, hquiescent.2 subscriber hmem] at hbalanced
    exact hbalanced

/-! ## Limits -/

theorem Bounded.sublist (h : hub.Bounded config) (hsub : hub'.registered.Sublist hub.registered) :
    hub'.Bounded config :=
  ⟨hsub.length_le.trans h.1, fun username => hsub.countP_le.trans (h.2 username)⟩

theorem step_registered (h : hub.Invariant) {action : Action}
    (hconnect : ∀ sessionId principal, action ≠ .connect sessionId principal)
    (hstep : step config hub action = some hub') :
    hub'.registered.Sublist hub.registered := by
  have hsender : ∀ {number act}, hub.senderStep number act = some hub' →
      hub'.registered.Sublist hub.registered := by
    intro number act hstep
    obtain ⟨moved, -, rfl⟩ := Option.map_eq_some_iff.1 hstep
    exact List.Sublist.refl _
  cases action with
  | connect sessionId principal => exact absurd rfl (hconnect sessionId principal)
  | sessionEnds sessionId => cases hstep; exact List.Sublist.refl _
  | publish groupId isAncestor message numbers => cases hstep; exact List.Sublist.refl _
  | closeHub => cases hstep; exact List.Sublist.refl _
  | proceed thread =>
      obtain ⟨operation, operations, performed, next, -, hp, rfl⟩ := proceed_cases h hstep
      exact hp.registered
  | check number => exact hsender hstep
  | take number => exact hsender hstep
  | countDequeued number => exact hsender hstep
  | send number outcome =>
      obtain ⟨subscriber, -, hsend⟩ := Option.bind_eq_some_iff.1 hstep
      unfold send at hsend
      split at hsend <;> cases hsend <;> exact List.Sublist.refl _
  | resume number => exact hsender hstep

theorem countP_register (registered : List Registration) (entry : Registration)
    (username : String) : List.countP (·.username = username) (registered ++ [entry]) =
      List.countP (·.username = username) registered +
        if entry.username = username then 1 else 0 := by
  rw [List.countP_append, List.countP_singleton]
  simp only [decide_eq_true_eq]

/-- The subscriber that is replaced gives up its place in the share of its own principal only. -/
theorem replace_bounded (h : hub.Invariant) (hbounded : hub.Bounded config) {sessionId : String}
    {previous : Registration} (hfind : hub.find sessionId = some previous) {entry : Registration}
    (hregistered : hub'.registered =
      hub.registered.filter (·.sessionId ≠ sessionId) ++ [entry]) :
    hub'.Bounded config ↔ (previous.username ≠ entry.username →
      hub.connections entry.username < config.maxConnectionsPerPrincipal) := by
  have hperm := perm_of_find h.keys hfind
  have hshare : ∀ username, hub'.connections username +
      (if previous.username = username then 1 else 0) = hub.connections username +
        if entry.username = username then 1 else 0 := by
    intro username
    have hcount : hub.connections username = List.countP (·.username = username)
        (hub.registered.filter (·.sessionId ≠ sessionId)) +
          if previous.username = username then 1 else 0 := by
      rw [connections, hperm.countP_eq, List.countP_cons]
      simp only [decide_eq_true_eq]
    rw [hcount, connections, hregistered, countP_register]
    omega
  constructor
  · intro hbounded' hne
    have hentry := hshare entry.username
    have hle := hbounded'.2 entry.username
    rw [if_neg hne, if_pos rfl] at hentry
    omega
  · intro hshort
    constructor
    · have hlength := hperm.length_eq
      have hmax := hbounded.1
      rw [List.length_cons] at hlength
      rw [hregistered, List.length_append, List.length_singleton]
      omega
    · intro username
      have husername := hshare username
      have hle := hbounded.2 username
      by_cases hentry : entry.username = username
      · subst hentry
        by_cases hne : previous.username = entry.username
        · rw [if_pos hne, if_pos rfl] at husername
          omega
        · have hlt := hshort hne
          rw [if_neg hne, if_pos rfl] at husername
          omega
      · rw [if_neg hentry] at husername
        omega

theorem connect_of_find {sessionId : String} {principal : AuthenticatedPrincipal}
    (hrole : principal.role ≠ .admin) {previous : Registration}
    (hfind : hub.find sessionId = some previous) :
    (hub.connect config sessionId principal).registered =
      hub.registered.filter (·.sessionId ≠ sessionId) ++
        [⟨sessionId, hub.subscribers.length, principal.username⟩] := by
  unfold connect admitSubscriber
  rw [if_neg hrole, hfind]
  rfl

/-- A session identity that is not registered is checked against both limits. -/
theorem bounded_of_find_none (hbounded : hub.Bounded config) {sessionId : String}
    (principal : AuthenticatedPrincipal) (hfind : hub.find sessionId = none) :
    (hub.connect config sessionId principal).Bounded config := by
  have hfilter := filter_eq_of_find_none hfind
  unfold connect admitSubscriber
  rw [hfind]
  dsimp only
  split_ifs with hrole hlimit
  · exact hbounded
  · exact hbounded
  · simp only [Option.isNone_none, Bool.true_and, Bool.or_eq_true, decide_eq_true_eq, not_or,
      not_le] at hlimit
    unfold Hub.spawn Bounded connections
    rw [hfilter, List.length_append, List.length_singleton]
    refine ⟨hlimit.1, fun username => ?_⟩
    rw [countP_register]
    split_ifs with husername
    · rw [← husername]
      exact hlimit.2
    · exact hbounded.2 username

theorem connect_bounded (h : hub.Invariant) (hbounded : hub.Bounded config) (sessionId : String)
    (principal : AuthenticatedPrincipal) :
    (hub.connect config sessionId principal).Bounded config ↔
      hub.Admissible config (.connect sessionId principal) := by
  change _ ↔ (principal.role ≠ .admin → ∀ previous ∈ hub.find sessionId,
    previous.username ≠ principal.username →
      hub.connections principal.username < config.maxConnectionsPerPrincipal)
  by_cases hrole : principal.role = .admin
  · have hsame : hub.connect config sessionId principal = hub := if_pos hrole
    rw [hsame]
    exact iff_of_true hbounded fun hne => absurd hrole hne
  · rw [forall_prop_of_true hrole]
    cases hfind : hub.find sessionId with
    | none =>
        exact iff_of_true (bounded_of_find_none hbounded principal hfind) fun _ hmem => nomatch hmem
    | some previous =>
        rw [replace_bounded h hbounded hfind (connect_of_find hrole hfind)]
        simp only [Option.mem_some_iff, forall_eq']

theorem step_bounded (h : hub.Invariant) (hbounded : hub.Bounded config) (action : Action) :
    (∀ hub', step config hub action = some hub' → hub'.Bounded config) ↔
      hub.Admissible config action := by
  by_cases hconnect : ∃ sessionId principal, action = .connect sessionId principal
  · obtain ⟨sessionId, principal, rfl⟩ := hconnect
    rw [← connect_bounded h hbounded]
    simp only [step, Option.some.injEq, forall_eq']
  · have hother : ∀ sessionId principal, action ≠ .connect sessionId principal :=
      fun sessionId principal heq => hconnect ⟨sessionId, principal, heq⟩
    refine iff_of_true (fun hub' hstep => hbounded.sublist (step_registered h hother hstep)) ?_
    cases action
    case connect sessionId principal => exact absurd rfl (hother sessionId principal)
    all_goals trivial

theorem run_invariant {actions : List Action}
    (hrun : run (step config) initial actions = some hub) : hub.Invariant :=
  Runs.run_invariant_of_step (fun _ _ _ h hstep => step_invariant h hstep) initial_invariant hrun

def alice : AuthenticatedPrincipal :=
  ⟨"alice", .viewer, ⟨"A", .refl false⟩, 1, .refl false, Nat.one_pos⟩

def bob : AuthenticatedPrincipal :=
  ⟨"bob", .viewer, ⟨"A", .refl false⟩, 1, .refl false, Nat.one_pos⟩

end Hub

end GcsSaker.TelemetryFanOut
