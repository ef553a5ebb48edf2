import GcsSaker.PartitionConsumer

/-!
# The order of the partitioned consumer

The messages of a partition wait in one line: those handed to the handler, then the channel, the
message the dispatcher holds and the queue. A step adds the message that has just arrived at the end
of the line, or takes messages out of it, and never changes the order in it.
-/

namespace GcsSaker.PartitionConsumer

open MqttTopic (telemetryTopic sessionFromTopic)

def Entry.session (e : Entry) : Option (List Char) := sessionFromTopic e.message.topic

/-- The partition to which the dispatcher sends an entry. -/
def Config.partitionOf (c : Config) (e : Entry) : Option ℕ :=
  e.session.bind fun sessionID => partitionIndex sessionID c.workers

theorem Config.partitionOf_of_session {c : Config} {e e' : Entry} (h : e.session = e'.session) :
    c.partitionOf e = c.partitionOf e' := by
  rw [Config.partitionOf, Config.partitionOf, h]

def Dispatcher.held : Dispatcher → List Entry
  | .sending e _ => [e]
  | _ => []

namespace Event

def entry : Event → Entry
  | .handed e => e
  | .acted e _ => e
  | .rejected e => e

def handedEntry : Event → Option Entry
  | .handed e => some e
  | _ => none

/-- The entry that the event acknowledges. -/
def acks : Event → Option Entry
  | .acted e .acked => some e
  | .rejected e => some e
  | _ => none

end Event

/-- What becomes of a worker after a step of its call. -/
def Worker.after {κ : Type} (e : Entry) (next : κ) : HandlerEvent → Worker κ
  | .returned none => .idle
  | .returned (some _) => .exited
  | _ => .handling e next

theorem Worker.after_eq_handling {κ : Type} {e e' : Entry} {next call : κ} {event : HandlerEvent}
    (h : Worker.after e next event = .handling e' call) : e = e' ∧ next = call := by
  cases event with
  | returned error => cases error <;> simp only [Worker.after, reduceCtorEq] at h
  | working => simpa only [Worker.after, Worker.handling.injEq] using h
  | published topic wire => simpa only [Worker.after, Worker.handling.injEq] using h
  | acked => simpa only [Worker.after, Worker.handling.injEq] using h

/-- The entry that a worker handles after one of the workers has changed. -/
theorem Worker.update_handling {κ : Type} {workers : ℕ → Worker κ} {p p' : ℕ} {worker : Worker κ}
    {e : Entry} {call : κ} (h : Function.update workers p worker p' = .handling e call) :
    (p' = p ∧ worker = .handling e call) ∨ workers p' = .handling e call := by
  by_cases hp : p' = p
  · subst hp
    exact .inl ⟨rfl, by rwa [Function.update_self] at h⟩
  · exact .inr (by rwa [Function.update_of_ne hp] at h)

namespace Consumer

variable {ι κ : Type}

/-! ## What a step does -/

/-- The shapes of a step. -/
inductive Moves (c : Config) (handler : Handler ι κ) (s : Consumer κ) : Consumer κ → Prop where
  | arrived (message : Message) : Moves c handler s
      { s with
        arrived := s.arrived + 1
        queue := s.queue ++ [⟨s.arrived, message⟩] }
  | rejected {e : Entry} {queue : List Entry} (hq : s.queue = e :: queue)
      (he : e.session = none) : Moves c handler s
      { s with queue := queue, log := .rejected e :: s.log }
  | routed {e : Entry} {queue : List Entry} {p : ℕ} (hd : s.dispatcher = .waiting)
      (hq : s.queue = e :: queue) (hp : c.partitionOf e = some p) : Moves c handler s
      { s with queue := queue, dispatcher := .sending e p }
  | sent {e : Entry} {p : ℕ} (hd : s.dispatcher = .sending e p) : Moves c handler s
      { s with
        dispatcher := .waiting
        channels := Function.update s.channels p (s.channels p ++ [e]) }
  | aside {d : Dispatcher} {failures : List String} {cancelled workersCancelled lost : Bool}
      (hd : d = s.dispatcher ∨ d.held = []) : Moves c handler s
      { s with
        dispatcher := d
        failures := failures
        cancelled := cancelled
        workersCancelled := workersCancelled
        lost := lost }
  | taken {p : ℕ} {e : Entry} {channel : List Entry} (hw : s.workers p = .idle)
      (hc : s.channels p = e :: channel) : Moves c handler s
      { s with
        channels := Function.update s.channels p channel
        workers := Function.update s.workers p (.handling e (handler.enter e.message))
        log := .handed e :: s.log }
  | acted {p : ℕ} {e : Entry} {call : κ} (input : ι) (failures : List String)
      (hw : s.workers p = .handling e call) : Moves c handler s
      { s with
        workers := Function.update s.workers p
          (.after e (handler.next call input).1 (handler.next call input).2)
        failures := failures
        log := .acted e (handler.next call input).2 :: s.log }
  | exited {p : ℕ} (hw : s.workers p = .idle) : Moves c handler s
      { s with workers := Function.update s.workers p .exited }

section Steps

variable {c : Config} {handler : Handler ι κ} {s s' : Consumer κ}

theorem receive_moves (h : s.receive c = some s') : Moves c handler s s' := by
  rw [receive] at h
  cases hd : s.dispatcher with
  | waiting =>
      cases hq : s.queue with
      | nil => simp only [hd, hq, reduceCtorEq] at h
      | cons e queue =>
          cases he : sessionFromTopic e.message.topic with
          | none =>
              have hm : Moves c handler s _ := .rejected hq he
              simp only [hd, hq, he, Option.some.injEq] at h
              simpa only [hd, h] using hm
          | some sessionID =>
              simp only [hd, hq, he, Option.map_eq_some_iff] at h
              obtain ⟨p, hp, rfl⟩ := h
              refine .routed hd hq ?_
              rw [Config.partitionOf, Entry.session, he]
              exact hp
  | sending e p => simp only [hd, reduceCtorEq] at h
  | stopped error => simp only [hd, reduceCtorEq] at h

theorem send_moves (h : s.send c = some s') : Moves c handler s s' := by
  rw [send] at h
  cases hd : s.dispatcher with
  | sending e p =>
      simp only [hd, Option.ite_none_right_eq_some, Option.some.injEq] at h
      exact h.2 ▸ .sent hd
  | waiting => simp only [hd, reduceCtorEq] at h
  | stopped error => simp only [hd, reduceCtorEq] at h

theorem dropOnCancel_moves (h : s.dropOnCancel = some s') : Moves c handler s s' := by
  rw [dropOnCancel] at h
  cases hd : s.dispatcher with
  | sending e p =>
      simp only [hd, Option.ite_none_right_eq_some, Option.some.injEq] at h
      exact h.2 ▸ .aside (.inr rfl)
  | waiting => simp only [hd, reduceCtorEq] at h
  | stopped error => simp only [hd, reduceCtorEq] at h

theorem stop_moves (h : s.stop = some s') : Moves c handler s s' := by
  rw [stop] at h
  cases hd : s.dispatcher with
  | waiting =>
      simp only [hd, Option.ite_none_right_eq_some, Option.some.injEq] at h
      exact h.2 ▸ .aside (.inr rfl)
  | sending e p => simp only [hd, reduceCtorEq] at h
  | stopped error => simp only [hd, reduceCtorEq] at h

theorem stopOnLoss_moves (h : s.stopOnLoss = some s') : Moves c handler s s' := by
  rw [stopOnLoss] at h
  cases hd : s.dispatcher with
  | stopped error => simp only [hd, reduceCtorEq] at h
  | waiting =>
      simp only [hd, Option.ite_none_right_eq_some, Option.some.injEq] at h
      exact h.2 ▸ .aside (.inr rfl)
  | sending e p =>
      simp only [hd, Option.ite_none_right_eq_some, Option.some.injEq] at h
      exact h.2 ▸ .aside (.inr rfl)

theorem stopOnFailure_moves (h : s.stopOnFailure = some s') : Moves c handler s s' := by
  rw [stopOnFailure] at h
  cases hf : s.failures with
  | nil => cases hd : s.dispatcher <;> simp only [hd, hf, reduceCtorEq] at h
  | cons failure failures =>
      cases hd : s.dispatcher with
      | stopped error => simp only [hd, reduceCtorEq] at h
      | waiting =>
          simp only [hd, hf, Option.some.injEq] at h
          exact h ▸ .aside (.inr rfl)
      | sending e p =>
          simp only [hd, hf, Option.some.injEq] at h
          exact h ▸ .aside (.inr rfl)

theorem take_moves {p : ℕ} (h : s.take c handler p = some s') : Moves c handler s s' := by
  rw [take] at h
  cases hw : s.workers p with
  | idle =>
      cases hc : s.channels p with
      | nil => simp only [hw, hc, reduceCtorEq] at h
      | cons e channel =>
          simp only [hw, hc, Option.ite_none_right_eq_some, Option.some.injEq] at h
          exact h.2 ▸ .taken hw hc
  | handling e call => simp only [hw, reduceCtorEq] at h
  | exited => simp only [hw, reduceCtorEq] at h

theorem act_moves {p : ℕ} {input : ι} (h : s.act c handler p input = some s') :
    Moves c handler s s' := by
  rw [act] at h
  cases hw : s.workers p with
  | handling e call =>
      have hm (failures : List String) : Moves c handler s _ := .acted input failures hw
      simp only [hw] at h
      cases he : (handler.next call input).2 with
      | returned error =>
          cases error with
          | none =>
              simp only [he, Option.some.injEq] at h
              simpa only [he, Worker.after, h] using hm s.failures
          | some error =>
              simp only [he, Option.some.injEq] at h
              rw [← h]
              simpa only [he, Worker.after] using
                hm (if s.failures.length < c.workers then s.failures ++ [error] else s.failures)
      | working =>
          simp only [he, Option.some.injEq] at h
          simpa only [he, Worker.after, h] using hm s.failures
      | published topic wire =>
          simp only [he, Option.some.injEq] at h
          simpa only [he, Worker.after, h] using hm s.failures
      | acked =>
          simp only [he, Option.some.injEq] at h
          simpa only [he, Worker.after, h] using hm s.failures
  | idle => simp only [hw, reduceCtorEq] at h
  | exited => simp only [hw, reduceCtorEq] at h

theorem exit_moves {p : ℕ} (h : s.exit p = some s') : Moves c handler s s' := by
  rw [exit] at h
  cases hw : s.workers p with
  | idle =>
      simp only [hw, Option.ite_none_right_eq_some, Option.some.injEq] at h
      exact h.2 ▸ .exited hw
  | handling e call => simp only [hw, reduceCtorEq] at h
  | exited => simp only [hw, reduceCtorEq] at h

theorem step_moves {a : Action ι} (h : s.step c handler a = some s') : Moves c handler s s' := by
  cases a with
  | enqueue message =>
      rw [step, enqueue, Option.ite_none_right_eq_some, Option.some.injEq] at h
      exact h.2 ▸ .arrived message
  | receive => exact receive_moves h
  | send => exact send_moves h
  | dropOnCancel => exact dropOnCancel_moves h
  | stop => exact stop_moves h
  | stopOnLoss => exact stopOnLoss_moves h
  | stopOnFailure => exact stopOnFailure_moves h
  | take p => exact take_moves h
  | act p input => exact act_moves h
  | exit p => exact exit_moves h
  | cancel =>
      rw [step, Option.some.injEq] at h
      exact h ▸ .aside (.inl rfl)
  | lose =>
      rw [step, Option.some.injEq] at h
      exact h ▸ .aside (.inl rfl)

end Steps

/-! ## The line of a partition -/

/-- The messages handed to the handler, the first one first. -/
def handed (s : Consumer κ) : List Entry := (s.log.filterMap Event.handedEntry).reverse

def inPartition (c : Config) (p : ℕ) (e : Entry) : Bool := decide (c.partitionOf e = some p)

theorem inPartition_iff {c : Config} {p : ℕ} {e : Entry} :
    inPartition c p e = true ↔ c.partitionOf e = some p := decide_eq_true_iff

/-- The messages of a partition, in the order in which they arrived. -/
def line (c : Config) (s : Consumer κ) (p : ℕ) : List Entry :=
  s.handed.filter (inPartition c p) ++ (s.channels p ++
    (s.dispatcher.held.filter (inPartition c p) ++ s.queue.filter (inPartition c p)))

/-- Every message is where its partition wants it. -/
structure Placed (c : Config) (s : Consumer κ) : Prop where
  channels : ∀ {p e}, e ∈ s.channels p → c.partitionOf e = some p
  sending : ∀ {p e}, s.dispatcher = .sending e p → c.partitionOf e = some p
  handling : ∀ {p e call}, s.workers p = .handling e call → c.partitionOf e = some p
  handed : ∀ {e}, e ∈ s.handed → ∃ p, c.partitionOf e = some p

section Lines

variable {c : Config} {handler : Handler ι κ} {s s' : Consumer κ}

theorem placed_initial : Placed c (initial (κ := κ)) where
  channels h := nomatch h
  sending h := nomatch h
  handling h := nomatch h
  handed h := nomatch h

theorem placed_moves (hp : Placed c s) (h : Moves c handler s s') : Placed c s' := by
  obtain ⟨hchannels, hsending, hhandling, hhanded⟩ := hp
  cases h with
  | arrived message => exact ⟨hchannels, hsending, hhandling, hhanded⟩
  | rejected hq he => exact ⟨hchannels, hsending, hhandling, hhanded⟩
  | routed hd hq hpart =>
      refine ⟨hchannels, fun h => ?_, hhandling, hhanded⟩
      cases h
      exact hpart
  | @sent e p hd =>
      refine ⟨fun {p' e'} h => ?_, (nomatch ·), hhandling, hhanded⟩
      by_cases hpp : p' = p
      · subst hpp
        simp only [Function.update_self, List.mem_append, List.mem_singleton] at h
        rcases h with h | rfl
        · exact hchannels h
        · exact hsending hd
      · exact hchannels (by simpa only [Function.update_of_ne hpp] using h)
  | aside hd =>
      refine ⟨hchannels, fun h => ?_, hhandling, hhanded⟩
      rcases hd with rfl | hd
      · exact hsending h
      · simp only at h
        simp only [h, Dispatcher.held, reduceCtorEq] at hd
  | @taken p e channel hw hc =>
      have he : c.partitionOf e = some p := hchannels (hc ▸ List.mem_cons_self)
      refine ⟨fun {p' e'} h => ?_, hsending, fun {p' e' call'} h => ?_, fun {e'} h => ?_⟩
      · by_cases hpp : p' = p
        · subst hpp
          simp only [Function.update_self] at h
          exact hchannels (hc ▸ List.mem_cons_of_mem e h)
        · exact hchannels (by simpa only [Function.update_of_ne hpp] using h)
      · rcases Worker.update_handling h with ⟨rfl, heq⟩ | h
        · exact (Worker.handling.inj heq).1 ▸ he
        · exact hhandling h
      · simp only [Consumer.handed, List.filterMap_cons, Event.handedEntry, List.reverse_cons,
          List.mem_append, List.mem_singleton] at h
        rcases h with h | rfl
        · exact hhanded h
        · exact ⟨p, he⟩
  | @acted p e call input failures hw =>
      refine ⟨hchannels, hsending, fun {p' e' call'} h => ?_, hhanded⟩
      rcases Worker.update_handling h with ⟨rfl, heq⟩ | h
      · exact (Worker.after_eq_handling heq).1 ▸ hhandling hw
      · exact hhandling h
  | @exited p hw =>
      refine ⟨hchannels, hsending, fun {p' e' call'} h => ?_, hhanded⟩
      rcases Worker.update_handling h with ⟨-, heq⟩ | h
      · cases heq
      · exact hhandling h

/-- A step adds to the lines at most the message that arrives with it. -/
theorem line_moves (hp : Placed c s) (h : Moves c handler s s') :
    (s'.arrived = s.arrived ∧ ∀ p, (line c s' p).Sublist (line c s p)) ∨
      ∃ message, s'.arrived = s.arrived + 1 ∧
        ∀ p, (line c s' p).Sublist (line c s p ++ [⟨s.arrived, message⟩]) := by
  cases h with
  | arrived message =>
      refine .inr ⟨message, rfl, fun p => ?_⟩
      simp only [line, handed, List.filter_append, List.append_assoc]
      exact ((((List.filter_sublist).append_left _).append_left _).append_left _).append_left _
  | @rejected e queue hq he =>
      refine .inl ⟨rfl, fun p => ?_⟩
      have hn : inPartition c p e = false := by
        rw [inPartition, Config.partitionOf, he]
        rfl
      simp only [line, handed, hq, List.filter_cons_of_neg (hn ▸ Bool.false_ne_true),
        List.filterMap_cons, Event.handedEntry]
      exact List.Sublist.refl _
  | @routed e queue p hd hq hpart =>
      refine .inl ⟨rfl, fun p' => ?_⟩
      simp only [line, handed, hd, hq, Dispatcher.held, List.filter_nil, List.nil_append,
        ← List.filter_append, List.singleton_append]
      exact List.Sublist.refl _
  | @sent e p hd =>
      refine .inl ⟨rfl, fun p' => ?_⟩
      have he : c.partitionOf e = some p := hp.sending hd
      by_cases hpp : p' = p
      · subst hpp
        simp only [line, handed, hd, Dispatcher.held, Function.update_self, List.filter_nil,
          List.nil_append, List.append_assoc, List.filter_singleton, inPartition_iff.mpr he]
        exact List.Sublist.refl _
      · simp only [line, handed, Dispatcher.held, Function.update_of_ne hpp, List.filter_nil,
          List.nil_append]
        exact (((List.sublist_append_right _ _)).append_left _).append_left _
  | @aside d failures cancelled workersCancelled lost hd =>
      refine .inl ⟨rfl, fun p => ?_⟩
      rcases hd with rfl | hd
      · exact List.Sublist.refl _
      · simp only [line, handed, hd, List.filter_nil, List.nil_append]
        exact ((List.sublist_append_right _ _).append_left _).append_left _
  | @taken p e channel hw hc =>
      refine .inl ⟨rfl, fun p' => ?_⟩
      have he : c.partitionOf e = some p := hp.channels (hc ▸ List.mem_cons_self)
      simp only [line, handed, List.filterMap_cons, Event.handedEntry, List.reverse_cons,
        List.filter_append, List.append_assoc]
      by_cases hpp : p' = p
      · subst hpp
        simp only [Function.update_self, hc, List.filter_singleton, inPartition_iff.mpr he]
        exact List.Sublist.refl _
      · have hn : inPartition c p' e = false := by
          rw [inPartition, he, decide_eq_false_iff_not, Option.some.injEq]
          exact Ne.symm hpp
        simp only [Function.update_of_ne hpp, List.filter_singleton, hn]
        exact List.Sublist.refl _
  | acted input failures hw => exact .inl ⟨rfl, fun p => List.Sublist.refl _⟩
  | exited hw => exact .inl ⟨rfl, fun p => List.Sublist.refl _⟩

/-- The lines are in the order of arrival and no two messages have the same number. -/
structure InLine (c : Config) (s : Consumer κ) : Prop where
  sorted : ∀ p, (line c s p).Pairwise fun e e' => e.serial < e'.serial
  arrived : ∀ {p e}, e ∈ line c s p → e.serial < s.arrived
  unique : ∀ {p p' e e'}, e ∈ line c s p → e' ∈ line c s p' → e.serial = e'.serial → e = e'

theorem inLine_initial : InLine c (initial (κ := κ)) where
  sorted _ := List.Pairwise.nil
  arrived h := nomatch h
  unique h := nomatch h

theorem inLine_moves (hp : Placed c s) (hl : InLine c s) (h : Moves c handler s s') :
    InLine c s' := by
  rcases line_moves hp h with ⟨ha, hs⟩ | ⟨message, ha, hs⟩
  · refine ⟨fun p => (hl.sorted p).sublist (hs p), fun he => ?_, fun he he' => ?_⟩
    · rw [ha]
      exact hl.arrived ((hs _).subset he)
    · exact hl.unique ((hs _).subset he) ((hs _).subset he')
  · have hmem {p : ℕ} {e : Entry} (he : e ∈ line c s' p) :
        e ∈ line c s p ∨ e = ⟨s.arrived, message⟩ := by
      simpa only [List.mem_append, List.mem_singleton] using (hs p).subset he
    refine ⟨fun p => List.Pairwise.sublist (hs p) ?_, fun he => ?_, fun he he' hserial => ?_⟩
    · rw [List.pairwise_append]
      refine ⟨hl.sorted p, List.pairwise_singleton _ _, fun e he e' he' => ?_⟩
      rw [List.mem_singleton.mp he']
      exact hl.arrived he
    · rw [ha]
      rcases hmem he with he | rfl
      · exact Nat.lt_succ_of_lt (hl.arrived he)
      · exact Nat.lt_succ_self _
    · rcases hmem he with he | rfl
      · rcases hmem he' with he' | rfl
        · exact hl.unique he he' hserial
        · exact absurd hserial (Nat.ne_of_lt (hl.arrived he))
      · rcases hmem he' with he' | rfl
        · exact absurd hserial.symm (Nat.ne_of_lt (hl.arrived he'))
        · rfl

end Lines

/-! ## Failures -/

/-- After the failure of a call the log says nothing more about its partition. -/
def SilentAfterFailure (c : Config) (log : List Event) : Prop :=
  log.Pairwise fun later earlier => ∀ e error, earlier = .acted e (.returned (some error)) →
    c.partitionOf later.entry ≠ c.partitionOf e

structure Silenced (c : Config) (s : Consumer κ) : Prop where
  silent : SilentAfterFailure c s.log
  exited : ∀ {e error}, .acted e (.returned (some error)) ∈ s.log →
    ∃ p, c.partitionOf e = some p ∧ s.workers p = .exited

section Failures

variable {c : Config} {handler : Handler ι κ} {s s' : Consumer κ}

theorem silenced_initial : Silenced c (initial (κ := κ)) where
  silent := List.Pairwise.nil
  exited h := nomatch h

/-- A worker that has not exited has no failed call in its partition. -/
theorem Silenced.ne (hs : Silenced c s) {p : ℕ} (hw : s.workers p ≠ .exited) {e : Entry}
    {error : String} (h : .acted e (.returned (some error)) ∈ s.log) :
    some p ≠ c.partitionOf e := by
  obtain ⟨p', hp', hw'⟩ := hs.exited h
  intro hp
  rw [hp', Option.some.injEq] at hp
  exact hw (hp ▸ hw')

/-- An event of a worker that has not exited breaks no silence. -/
theorem Silenced.cons (hs : Silenced c s) {p : ℕ} (hw : s.workers p ≠ .exited) {event : Event}
    (he : c.partitionOf event.entry = some p) : SilentAfterFailure c (event :: s.log) := by
  refine List.pairwise_cons.mpr ⟨fun earlier hm e error h => ?_, hs.silent⟩
  rw [he]
  exact hs.ne hw (h ▸ hm)

theorem Silenced.exited_update (hs : Silenced c s) {p : ℕ} (hw : s.workers p ≠ .exited)
    (worker : Worker κ) {e : Entry} {error : String}
    (h : .acted e (.returned (some error)) ∈ s.log) :
    ∃ p', c.partitionOf e = some p' ∧ Function.update s.workers p worker p' = .exited := by
  obtain ⟨p', hp', hw'⟩ := hs.exited h
  have hpp : p' ≠ p := by
    rintro rfl
    exact hw hw'
  exact ⟨p', hp', by rw [Function.update_of_ne hpp, hw']⟩

theorem silenced_moves (hp : Placed c s) (hs : Silenced c s) (h : Moves c handler s s') :
    Silenced c s' := by
  cases h with
  | arrived message => exact ⟨hs.silent, hs.exited⟩
  | @rejected e queue hq he =>
      refine ⟨List.pairwise_cons.mpr ⟨fun earlier hm e' error h => ?_, hs.silent⟩, fun h => ?_⟩
      · obtain ⟨p, hp', -⟩ := hs.exited (h ▸ hm)
        rw [hp', Event.entry, Config.partitionOf, he, Option.bind_none]
        exact Option.some_ne_none p ∘ Eq.symm
      · exact hs.exited (by simpa only [List.mem_cons, reduceCtorEq, false_or] using h)
  | routed hd hq hpart => exact ⟨hs.silent, hs.exited⟩
  | sent hd => exact ⟨hs.silent, hs.exited⟩
  | aside hd => exact ⟨hs.silent, hs.exited⟩
  | @taken p e channel hw hc =>
      have hi : s.workers p ≠ .exited := by simp only [hw, ne_eq, reduceCtorEq, not_false_eq_true]
      refine ⟨hs.cons hi (hp.channels (hc ▸ List.mem_cons_self)), fun h => ?_⟩
      exact hs.exited_update hi _ (by simpa only [List.mem_cons, reduceCtorEq, false_or] using h)
  | @acted p e call input failures hw =>
      have hi : s.workers p ≠ .exited := by simp only [hw, ne_eq, reduceCtorEq, not_false_eq_true]
      refine ⟨hs.cons hi (hp.handling hw), fun {e' error} h => ?_⟩
      rcases List.mem_cons.mp h with h | h
      · obtain ⟨rfl, hr⟩ := Event.acted.inj h
        refine ⟨p, hp.handling hw, ?_⟩
        rw [← hr]
        exact Function.update_self ..
      · exact hs.exited_update hi _ h
  | @exited p hw =>
      have hi : s.workers p ≠ .exited := by simp only [hw, ne_eq, reduceCtorEq, not_false_eq_true]
      exact ⟨hs.silent, hs.exited_update hi _⟩

end Failures

/-! ## Acknowledgements -/

/-- The result of the message of `e` has been published on the result topic of its session. -/
def Published (e : Entry) (log : List Event) : Prop :=
  ∃ binding topic wire, telemetryTopic e.message.topic = some binding ∧
    MqttTopic.new binding.deviceUUID binding.publishSession .result = some topic ∧
    .acted e (.published topic.toString wire) ∈ log

/-- Every acknowledged message with a telemetry topic has its result published before. -/
def AckedAfterPublished (log : List Event) : Prop :=
  ∀ event older e, event :: older <:+ log → event.acks = some e →
    (telemetryTopic e.message.topic).isSome → Published e older

theorem Published.mono {e : Entry} {log : List Event} (h : Published e log) (event : Event) :
    Published e (event :: log) := by
  obtain ⟨binding, topic, wire, hb, ht, hm⟩ := h
  exact ⟨binding, topic, wire, hb, ht, List.mem_cons_of_mem event hm⟩

theorem ackedAfterPublished_cons {event : Event} {log : List Event} (hl : AckedAfterPublished log)
    (h : ∀ e, event.acks = some e → (telemetryTopic e.message.topic).isSome → Published e log) :
    AckedAfterPublished (event :: log) := by
  intro event' older e hs
  rcases List.suffix_cons_iff.mp hs with heq | hs
  · obtain ⟨rfl, rfl⟩ := List.cons.inj heq
    exact h e
  · exact hl event' older e hs

/-- What has happened when a call of `deliver` stands at a stage. -/
def Reached (e : Entry) (log : List Event) : DeliverStage → Prop
  | .entered message => message = e.message
  | .answering binding _ => telemetryTopic e.message.topic = some binding
  | .publishing binding _ => telemetryTopic e.message.topic = some binding
  | .acknowledging => (telemetryTopic e.message.topic).isSome → Published e log
  | .acknowledged => True

theorem Reached.mono {e : Entry} {log : List Event} {stage : DeliverStage}
    (h : Reached e log stage) (event : Event) : Reached e (event :: log) stage := by
  cases stage with
  | acknowledging => exact fun hv => (h hv).mono event
  | entered message => exact h
  | answering binding retained => exact h
  | publishing binding response => exact h
  | acknowledged => trivial

/-- A step of `deliver` acknowledges only what is published, and reaches its next stage. -/
theorem deliver_next {e : Entry} {log : List Event} {stage : DeliverStage} (input : DeliverInput)
    (h : Reached e log stage) :
    ((deliver.next stage input).2 = .acked → stage = .acknowledging) ∧
      Reached e (.acted e (deliver.next stage input).2 :: log) (deliver.next stage input).1 := by
  cases stage with
  | entered message =>
      cases ht : telemetryTopic message.topic with
      | none =>
          simp only [deliver, ht, reduceCtorEq, false_implies, true_and]
          intro hv
          rw [← h, ht] at hv
          cases hv
      | some binding =>
          simp only [deliver, ht, reduceCtorEq, false_implies, true_and]
          exact h ▸ ht
  | answering binding retained => exact ⟨nofun, h⟩
  | publishing binding response =>
      cases hw : input.encoded response with
      | none => exact ⟨by simp only [deliver, hw, reduceCtorEq, false_implies],
          by simpa only [deliver, hw] using h.mono _⟩
      | some wire =>
          cases ht : MqttTopic.new binding.deviceUUID binding.publishSession .result with
          | none => exact ⟨by simp only [deliver, hw, ht, reduceCtorEq, false_implies],
              by simpa only [deliver, hw, ht] using h.mono _⟩
          | some topic =>
              cases hc : input.confirmed with
              | false => exact ⟨by simp only [deliver, hw, ht, hc, Bool.false_eq_true, ↓reduceIte,
                  reduceCtorEq, false_implies], by simpa only [deliver, hw, ht, hc,
                  Bool.false_eq_true, ↓reduceIte] using h.mono _⟩
              | true =>
                  simp only [deliver, hw, ht, hc, ↓reduceIte, reduceCtorEq, false_implies, true_and]
                  exact fun _ => ⟨binding, topic, wire, h, ht, List.mem_cons_self⟩
  | acknowledging => exact ⟨fun _ => rfl, trivial⟩
  | acknowledged => exact ⟨nofun, trivial⟩

structure Answered (s : Consumer DeliverStage) : Prop where
  acked : AckedAfterPublished s.log
  reached : ∀ {p e stage}, s.workers p = .handling e stage → Reached e s.log stage

section Answers

variable {c : Config} {s s' : Consumer DeliverStage}

theorem answered_initial : Answered (initial (κ := DeliverStage)) where
  acked event older e hs := by
    have := List.suffix_nil.mp hs
    cases this
  reached h := nomatch h

theorem answered_moves (ha : Answered s) (h : Moves c deliver s s') : Answered s' := by
  cases h with
  | arrived message => exact ⟨ha.acked, ha.reached⟩
  | @rejected e queue hq he =>
      refine ⟨ackedAfterPublished_cons ha.acked fun e' he' hv => ?_,
        fun h => (ha.reached h).mono _⟩
      obtain rfl := Option.some.inj he'
      have hn : telemetryTopic e.message.topic = none := by
        simpa only [Entry.session, sessionFromTopic, Option.map_eq_none_iff] using he
      rw [hn] at hv
      cases hv
  | routed hd hq hpart => exact ⟨ha.acked, ha.reached⟩
  | sent hd => exact ⟨ha.acked, ha.reached⟩
  | aside hd => exact ⟨ha.acked, ha.reached⟩
  | @taken p e channel hw hc =>
      refine ⟨ackedAfterPublished_cons ha.acked (fun _ => nofun), fun {p' e' stage} h => ?_⟩
      rcases Worker.update_handling h with ⟨rfl, heq⟩ | h
      · obtain ⟨rfl, rfl⟩ := Worker.handling.inj heq
        rfl
      · exact (ha.reached h).mono _
  | @acted p e stage input failures hw =>
      obtain ⟨hacked, hnext⟩ := deliver_next input (ha.reached hw)
      refine ⟨ackedAfterPublished_cons ha.acked fun e' he' => ?_, fun {p' e' stage'} h => ?_⟩
      · cases hevent : (deliver.next stage input).2 with
        | acked =>
            rw [hevent] at he'
            obtain rfl := Option.some.inj he'
            have hr := ha.reached hw
            rw [hacked hevent] at hr
            exact hr
        | working => simp only [hevent, Event.acks, reduceCtorEq] at he'
        | published topic wire => simp only [hevent, Event.acks, reduceCtorEq] at he'
        | returned error => simp only [hevent, Event.acks, reduceCtorEq] at he'
      · rcases Worker.update_handling h with ⟨rfl, heq⟩ | h
        · obtain ⟨rfl, rfl⟩ := Worker.after_eq_handling heq
          exact hnext
        · exact (ha.reached h).mono _
  | @exited p hw =>
      refine ⟨ha.acked, fun {p' e' stage} h => ?_⟩
      rcases Worker.update_handling h with ⟨-, heq⟩ | h
      · cases heq
      · exact ha.reached h

end Answers

/-! ## Runs -/

section Runs

variable {c : Config} {handler : Handler ι κ} {s : Consumer κ} {acts : List (Action ι)}

/-- The messages of a session are handed to the handler in the order in which they arrived. -/
def HandedInOrder (s : Consumer κ) : Prop :=
  ∀ sessionID, (s.handed.filter fun e => decide (e.session = some sessionID)).Pairwise
    fun e e' => e.serial < e'.serial

/-- The calls under way of one session are one. -/
def OneAtATime (s : Consumer κ) : Prop :=
  ∀ p p' e e' call call', s.workers p = .handling e call → s.workers p' = .handling e' call' →
    e.session = e'.session → p = p'

theorem run_inLine (h : Runs.run (step c handler) initial acts = some s) :
    Placed c s ∧ InLine c s ∧ Silenced c s := by
  have hstep (s : Consumer κ) (a : Action ι) (s' : Consumer κ)
      (hs : Placed c s ∧ InLine c s ∧ Silenced c s) (ha : step c handler s a = some s') :
      Placed c s' ∧ InLine c s' ∧ Silenced c s' := by
    have hm := step_moves ha
    exact ⟨placed_moves hs.1 hm, inLine_moves hs.1 hs.2.1 hm, silenced_moves hs.1 hs.2.2 hm⟩
  exact Runs.run_invariant_of_step hstep ⟨placed_initial, inLine_initial, silenced_initial⟩ h

theorem run_answered {s : Consumer DeliverStage} {acts : List (Action DeliverInput)}
    (h : Runs.run (step c deliver) initial acts = some s) : Answered s :=
  Runs.run_invariant_of_step (fun _ _ _ hs ha => answered_moves hs (step_moves ha))
    answered_initial h

theorem mem_line_of_handed {p : ℕ} {e : Entry} (he : e ∈ s.handed) (hp : c.partitionOf e = some p) :
    e ∈ line c s p :=
  List.mem_append_left _ (List.mem_filter.mpr ⟨he, inPartition_iff.mpr hp⟩)

theorem handed_sorted (hl : InLine c s) (p : ℕ) :
    (s.handed.filter (inPartition c p)).Pairwise fun e e' => e.serial < e'.serial :=
  (hl.sorted p).sublist (List.sublist_append_left _ _)

theorem handedInOrder_of_inLine (hp : Placed c s) (hl : InLine c s) : HandedInOrder s := by
  intro sessionID
  by_cases hc : ∃ p, partitionIndex sessionID c.workers = some p
  · obtain ⟨p, hc⟩ := hc
    refine (handed_sorted hl p).sublist (List.monotone_filter_right _ fun e he => ?_)
    rw [inPartition_iff, Config.partitionOf, of_decide_eq_true he]
    exact hc
  · have hnone : s.handed.filter (fun e => decide (e.session = some sessionID)) = [] := by
      refine List.filter_eq_nil_iff.mpr fun e he hsession => hc ?_
      obtain ⟨p, hpart⟩ := hp.handed he
      rw [Config.partitionOf, of_decide_eq_true hsession] at hpart
      exact ⟨p, hpart⟩
    rw [hnone]
    exact List.Pairwise.nil

/-- Entries that each partition lists in order are distinct. -/
theorem serial_nodup {l : List Entry} (hp : ∀ e ∈ l, ∃ p, c.partitionOf e = some p)
    (hu : ∀ e ∈ l, ∀ e' ∈ l, e.serial = e'.serial → e = e')
    (hs : ∀ p, (l.filter (inPartition c p)).Pairwise fun e e' => e.serial < e'.serial) :
    (l.map Entry.serial).Nodup := by
  induction l with
  | nil => exact List.nodup_nil
  | cons e l ih =>
      obtain ⟨p, hpart⟩ := hp e List.mem_cons_self
      have hne (e' : Entry) (he' : e' ∈ l) : e.serial ≠ e'.serial := by
        intro hserial
        have heq := hu e List.mem_cons_self e' (List.mem_cons_of_mem e he') hserial
        have hlater := hs p
        rw [List.filter_cons_of_pos (inPartition_iff.mpr hpart), List.pairwise_cons] at hlater
        have hlt := hlater.1 e' (List.mem_filter.mpr ⟨he', inPartition_iff.mpr (heq ▸ hpart)⟩)
        exact absurd hserial (Nat.ne_of_lt hlt)
      refine List.nodup_cons.mpr ⟨fun hm => ?_, ih (fun e' he' => ?_) (fun e₁ h₁ e₂ h₂ => ?_)
        fun p => ?_⟩
      · obtain ⟨e', he', hserial⟩ := List.mem_map.mp hm
        exact hne e' he' hserial.symm
      · exact hp e' (List.mem_cons_of_mem e he')
      · exact hu e₁ (List.mem_cons_of_mem e h₁) e₂ (List.mem_cons_of_mem e h₂)
      · exact (hs p).sublist ((List.sublist_cons_self e l).filter _)

theorem handed_nodup (hp : Placed c s) (hl : InLine c s) : (s.handed.map Entry.serial).Nodup := by
  refine serial_nodup (fun e he => hp.handed he) (fun e he e' he' hserial => ?_) (handed_sorted hl)
  obtain ⟨p, hpart⟩ := hp.handed he
  obtain ⟨p', hpart'⟩ := hp.handed he'
  exact hl.unique (mem_line_of_handed he hpart) (mem_line_of_handed he' hpart') hserial

theorem oneAtATime_of_placed (hp : Placed c s) : OneAtATime s := by
  intro p p' e e' call call' hw hw' hsession
  have hpart := hp.handling hw
  rw [Config.partitionOf_of_session hsession, hp.handling hw', Option.some.injEq] at hpart
  exact hpart.symm

/-- In every run the messages of a session are handed to the handler in the order of their arrival
and one at a time, none of them twice, and nothing of a partition is handed or acknowledged after
the failure of one of its calls; with `deliver` the result is published before the
acknowledgement. -/
theorem partitions_in_order (c : Config) :
    (∀ (ι κ : Type) (handler : Handler ι κ) (acts : List (Action ι)) (s : Consumer κ),
      Runs.run (step c handler) initial acts = some s →
        HandedInOrder s ∧ OneAtATime s ∧ (s.handed.map Entry.serial).Nodup ∧
          SilentAfterFailure c s.log) ∧
    ∀ (acts : List (Action DeliverInput)) (s : Consumer DeliverStage),
      Runs.run (step c deliver) initial acts = some s → AckedAfterPublished s.log := by
  refine ⟨fun ι κ handler acts s h => ?_, fun acts s h => (run_answered h).acked⟩
  obtain ⟨hp, hl, hs⟩ := run_inLine h
  exact ⟨handedInOrder_of_inLine hp hl, oneAtATime_of_placed hp, handed_nodup hp hl, hs.silent⟩

def sampleInput : DeliverInput := ⟨some ⟨true, ""⟩, fun _ => some [], true⟩

/-- Two messages of one session, the first of them delivered while the second one waits. -/
def sampleRun : List (Action DeliverInput) :=
  [.enqueue ⟨"gcs/device/device-01/ps_a/telemetry", false⟩, .receive, .send,
    .enqueue ⟨"gcs/device/device-01/ps_a/telemetry", false⟩, .receive, .send, .take 0,
    .act 0 sampleInput, .act 0 sampleInput, .act 0 sampleInput, .act 0 sampleInput,
    .act 0 sampleInput, .take 0]

theorem partitions_in_order_sample :
    ∃ s, Runs.run (step ⟨0, 0, 2⟩ deliver) initial sampleRun = some s ∧
      s.handed.map Entry.serial = [0, 1] ∧ HandedInOrder s ∧ AckedAfterPublished s.log := by
  obtain ⟨s, hs, hh⟩ : ∃ s, Runs.run (step ⟨0, 0, 2⟩ deliver) initial sampleRun = some s ∧
      s.handed.map Entry.serial = [0, 1] := by
    refine ⟨(Runs.run (step ⟨0, 0, 2⟩ deliver) initial sampleRun).get (by decide +kernel),
      (Option.some_get _).symm, by decide +kernel⟩
  exact ⟨s, hs, hh, ((partitions_in_order ⟨0, 0, 2⟩).1 _ _ deliver sampleRun s hs).1,
    (partitions_in_order ⟨0, 0, 2⟩).2 sampleRun s hs⟩

end Runs

end Consumer

end GcsSaker.PartitionConsumer
