import GcsSaker.Runs
import GcsSaker.TelemetryRecord

/-!
# The bound of the telemetry queue

`append_history` refuses a record when the queue is full, and a batch that could not be stored goes
back to the front of the queue whatever it holds by then. The bulk sink may return any number, or
raise: what it returns decides only how much of the batch goes back.
-/

namespace GcsSaker.TelemetryBounds

open TelemetryBufferRecord (ofLatitude)

structure Config where
  max_pending_history : ℕ
  has_bulk_sink : Bool
  auto_flush_max_items : ℤ

/-- `interrupted` is an exception that is no `Exception`, which `flush_once` does not catch. -/
inductive SinkOutcome where
  | returned (flushed_count : ℤ)
  | raised
  | interrupted
  deriving DecidableEq

/-- The slice `records[start:]`. -/
def sliceFrom {α : Type} (records : List α) (start : ℤ) : List α :=
  records.drop (if 0 ≤ start then start else records.length + start).toNat

/-- What goes back to the queue. -/
def SinkOutcome.unstored (records : List TelemetryBufferRecord) :
    SinkOutcome → List TelemetryBufferRecord
  | .returned flushed_count =>
    if flushed_count ≠ records.length then sliceFrom records flushed_count else []
  | .raised => records
  | .interrupted => []

theorem SinkOutcome.length_unstored_le (records : List TelemetryBufferRecord)
    (outcome : SinkOutcome) : (outcome.unstored records).length ≤ records.length := by
  cases outcome with
  | returned flushed_count =>
      rw [unstored]
      split_ifs with h
      · exact (List.drop_sublist _ _).length_le
      · exact Nat.zero_le _
  | raised => exact Nat.le_refl _
  | interrupted => exact Nat.zero_le _

/-! ## One call after the other -/

/-- What a call raises: the buffer is full, or what the bulk sink raises. -/
inductive Raised where
  | full
  | sink
  | interrupt
  deriving DecidableEq

section Calls

variable (cfg : Config) (sink : List TelemetryBufferRecord → SinkOutcome)

/-- The buffer after `flush_once`, and the flushed count that it returns. -/
def flush_once (buffer : InMemoryTelemetryWriteBuffer) (max_items : ℤ) :
    InMemoryTelemetryWriteBuffer × Except Raised ℤ :=
  if cfg.has_bulk_sink = false then (buffer, .ok 0)
  else
    let (records, drained) := buffer.drain_history max_items
    if records.isEmpty then (drained, .ok 0)
    else
      let outcome := sink records
      (drained.restore_history_front (outcome.unstored records), match outcome with
        | .returned flushed_count => .ok flushed_count
        | .raised => .error .sink
        | .interrupted => .error .interrupt)

/-- The buffer after `upsert`, which returns nothing new. -/
def upsert (buffer : InMemoryTelemetryWriteBuffer) (record : TelemetryBufferRecord) :
    InMemoryTelemetryWriteBuffer × Except Raised Unit :=
  match buffer.append_history cfg.max_pending_history record with
  | none => (buffer, .error .full)
  | some appended =>
    let buffer := appended.put_latest record
    if cfg.has_bulk_sink = true ∧ 0 < cfg.auto_flush_max_items ∧
        cfg.auto_flush_max_items ≤ (buffer.pending_history_count : ℤ) then
      let (buffer, result) := flush_once cfg sink buffer cfg.auto_flush_max_items
      (buffer, result.map fun _ => ())
    else (buffer, .ok ())

variable {cfg sink} {buffer buffer' : InMemoryTelemetryWriteBuffer}
  {record : TelemetryBufferRecord}

theorem flush_once_raised {max_items : ℤ} {e : Raised}
    (h : flush_once cfg sink buffer max_items = (buffer', .error e)) :
    buffer'.latest = buffer.latest ∧
      ((e = .sink ∧ buffer'.history = buffer.history) ∨
        (e = .interrupt ∧ buffer'.history = (buffer.drain_history max_items).2.history)) := by
  have hqueue := buffer.drain_history_append max_items
  have hlatest := buffer.drain_history_latest max_items
  unfold flush_once at h
  split at h
  · cases h
  · dsimp only at h
    split at h
    · cases h
    · cases houtcome : sink (buffer.drain_history max_items).1 with
      | returned flushed_count => rw [houtcome] at h; cases h
      | raised =>
          rw [houtcome] at h
          cases h
          refine ⟨hlatest, .inl ⟨rfl, ?_⟩⟩
          rw [InMemoryTelemetryWriteBuffer.restore_history_front_history]
          exact hqueue
      | interrupted =>
          rw [houtcome] at h
          cases h
          exact ⟨hlatest, .inr ⟨rfl, rfl⟩⟩

/-- What an upsert that raises has left. A full queue changes nothing; otherwise the record is
accepted, and it stands at the end of the queue unless an interrupted flush has taken it along. -/
def Leaves (cfg : Config) (buffer : InMemoryTelemetryWriteBuffer) (record : TelemetryBufferRecord)
    (buffer' : InMemoryTelemetryWriteBuffer) : Raised → Prop
  | .full => buffer' = buffer
  | .sink => buffer'.history = buffer.history ++ [record] ∧
      buffer'.latest = Function.update buffer.latest record.key (some record)
  | .interrupt =>
      buffer'.history = (buffer.history ++ [record]).drop cfg.auto_flush_max_items.toNat ∧
        buffer'.latest = Function.update buffer.latest record.key (some record)

theorem upsert_raised {e : Raised} (h : upsert cfg sink buffer record = (buffer', .error e)) :
    Leaves cfg buffer record buffer' e := by
  unfold upsert at h
  cases happend : buffer.append_history cfg.max_pending_history record with
  | none =>
      rw [happend] at h
      cases h
      rfl
  | some appended =>
      obtain ⟨-, rfl⟩ := buffer.append_history_eq_some_iff.1 happend
      rw [happend] at h
      dsimp only at h
      split at h
      · next hauto =>
          generalize hflush : flush_once cfg sink _ _ = flushed at h
          obtain ⟨flushed, result⟩ := flushed
          cases result with
          | ok flushed_count => cases h
          | error raised =>
              cases h
              obtain ⟨hlatest, ⟨rfl, hhistory⟩ | ⟨rfl, hhistory⟩⟩ := flush_once_raised hflush
              · exact ⟨hhistory, hlatest⟩
              · rw [InMemoryTelemetryWriteBuffer.drain_history_of_pos _ hauto.2.1] at hhistory
                exact ⟨hhistory, hlatest⟩
      · cases h

end Calls

/-- A bulk sink that is down, with a flush after every record. -/
def downConfig : Config := ⟨10, true, 1⟩

theorem upsert_raised_sample : Leaves downConfig .empty (ofLatitude "front" 1)
    (upsert downConfig (fun _ => .raised) .empty (ofLatitude "front" 1)).1 .sink := by
  have hraised : upsert downConfig (fun _ => .raised) .empty (ofLatitude "front" 1) =
      ((upsert downConfig (fun _ => .raised) .empty (ofLatitude "front" 1)).1, .error .sink) := rfl
  exact upsert_raised hraised

/-- The upsert raises, and its record waits in the queue. -/
theorem upsert_raised_accepted :
    ¬∀ (cfg : Config) (sink : List TelemetryBufferRecord → SinkOutcome)
      (buffer buffer' : InMemoryTelemetryWriteBuffer) (record : TelemetryBufferRecord) (e : Raised),
      upsert cfg sink buffer record = (buffer', .error e) →
        buffer'.history = buffer.history ∧ buffer'.latest = buffer.latest := by
  intro h
  obtain ⟨hhistory, -⟩ := h downConfig (fun _ => .raised) .empty _ (ofLatitude "front" 1) .sink rfl
  cases hhistory

/-! ## Calls of many threads -/

/-- The next step of a call; an operation of the buffer holds its lock and is one step. -/
inductive Stage where
  | append_history (record : TelemetryBufferRecord)
  | put_latest (record : TelemetryBufferRecord)
  | check_pending
  | drain_history (max_items : ℤ)
  | flush (records : List TelemetryBufferRecord)
  | restore_history_front (records : List TelemetryBufferRecord)
  | returned

/-- How many records a call has drained and may put back. -/
def Stage.held : Stage → ℕ
  | .flush records => records.length
  | .restore_history_front records => records.length
  | _ => 0

structure State where
  buffer : InMemoryTelemetryWriteBuffer
  calls : List Stage

inductive Action where
  | upsert (record : TelemetryBufferRecord)
  | flush_once (max_items : ℤ)
  | step (call : ℕ)
  | sink (call : ℕ) (outcome : SinkOutcome)

namespace State

def initial : State := ⟨.empty, []⟩

variable (cfg : Config) (s : State)

def advance (call : ℕ) (stage : Stage) : State := { s with calls := s.calls.set call stage }

def checkPending : Stage :=
  if cfg.has_bulk_sink = true ∧ 0 < cfg.auto_flush_max_items ∧
      cfg.auto_flush_max_items ≤ (s.buffer.pending_history_count : ℤ) then
    .drain_history cfg.auto_flush_max_items
  else .returned

/-- One step of a call other than that of the bulk sink. -/
def callStep (call : ℕ) : Stage → Option State
  | .append_history record =>
    match s.buffer.append_history cfg.max_pending_history record with
    | none => some (s.advance call .returned)
    | some buffer => some { s.advance call (.put_latest record) with buffer := buffer }
  | .put_latest record =>
    some { s.advance call .check_pending with buffer := s.buffer.put_latest record }
  | .check_pending => some (s.advance call (s.checkPending cfg))
  | .drain_history max_items =>
    if cfg.has_bulk_sink = false then some (s.advance call .returned)
    else
      let (records, buffer) := s.buffer.drain_history max_items
      some { s.advance call (if records.isEmpty then .returned else .flush records) with
        buffer := buffer }
  | .restore_history_front records =>
    some { s.advance call .returned with buffer := s.buffer.restore_history_front records }
  | .flush _ => none
  | .returned => none

def step : Action → Option State
  | .upsert record => some { s with calls := s.calls ++ [.append_history record] }
  | .flush_once max_items => some { s with calls := s.calls ++ [.drain_history max_items] }
  | .step call => s.calls[call]?.bind (s.callStep cfg call)
  | .sink call outcome =>
    match s.calls[call]? with
    | some (.flush records) =>
      some (s.advance call (.restore_history_front (outcome.unstored records)))
    | _ => none

def pending : ℕ := s.buffer.history.length

def inFlight : ℕ := (s.calls.map Stage.held).sum

/-- The most records that are in flight together in the states of a run. -/
def peak : List Action → State → ℕ
  | [], s => s.inFlight
  | a :: acts, s => max s.inFlight ((s.step cfg a).elim 0 (peak acts))

/-- A batch that is put back finds room for it. -/
def HasRoom (s : State) : Action → Prop
  | .step call => ∀ records, s.calls[call]? = some (.restore_history_front records) →
    s.pending + records.length ≤ cfg.max_pending_history
  | _ => True

/-! ## What a step does to the numbers -/

variable {cfg s} {s' : State}

theorem inFlight_advance {call : ℕ} {c : Stage} (hcall : s.calls[call]? = some c) (stage : Stage) :
    (s.advance call stage).inFlight + c.held = s.inFlight + stage.held := by
  obtain ⟨hlt, hget⟩ := List.getElem?_eq_some_iff.1 hcall
  have hself : s.calls = s.calls.take call ++ c :: s.calls.drop (call + 1) := by
    conv_lhs => rw [← List.set_getElem_self hlt, hget]
    rw [List.set_eq_take_append_cons_drop, if_pos hlt]
  have hset : s.calls.set call stage =
      s.calls.take call ++ stage :: s.calls.drop (call + 1) := by
    rw [List.set_eq_take_append_cons_drop, if_pos hlt]
  rw [inFlight, inFlight, advance, hset]
  conv_rhs => rw [hself]
  simp only [List.map_append, List.map_cons, List.sum_append, List.sum_cons]
  omega

/-- An append finds room, a drained batch is in flight, and what is put back was so. -/
inductive Counts (cfg : Config) (s : State) : Action → State → Prop where
  | kept {a : Action} {s' : State} (hpending : s'.pending = s.pending)
      (hflight : s'.inFlight ≤ s.inFlight) : Counts cfg s a s'
  | appended {a : Action} {s' : State} (hroom : s.pending < cfg.max_pending_history)
      (hpending : s'.pending = s.pending + 1) (hflight : s'.inFlight = s.inFlight) :
      Counts cfg s a s'
  | drained {a : Action} {s' : State} (hpending : s'.pending ≤ s.pending)
      (hflight : s'.pending + s'.inFlight = s.pending + s.inFlight) : Counts cfg s a s'
  | restored {call : ℕ} {s' : State} {records : List TelemetryBufferRecord}
      (hcall : s.calls[call]? = some (.restore_history_front records))
      (hpending : s'.pending = s.pending + records.length)
      (hflight : s'.inFlight + records.length = s.inFlight) : Counts cfg s (.step call) s'

theorem held_checkPending : (s.checkPending cfg).held = 0 := by
  unfold checkPending
  split_ifs <;> rfl

theorem callStep_counts {call : ℕ} {c : Stage} (hcall : s.calls[call]? = some c)
    (h : s.callStep cfg call c = some s') : Counts cfg s (.step call) s' := by
  have hflight := fun stage => inFlight_advance hcall stage
  cases c with
  | append_history record =>
      have hstage : ∀ stage : Stage, stage.held = 0 →
          (s.advance call stage).inFlight = s.inFlight := fun stage hheld =>
        (hflight stage).trans (congrArg (s.inFlight + ·) hheld)
      cases happend : s.buffer.append_history cfg.max_pending_history record with
      | none =>
          simp only [callStep, happend, Option.some.injEq] at h
          exact h ▸ .kept rfl (hstage .returned rfl).le
      | some buffer =>
          obtain ⟨hroom, rfl⟩ := s.buffer.append_history_eq_some_iff.1 happend
          simp only [callStep, happend, Option.some.injEq] at h
          refine h ▸ .appended hroom ?_ (hstage (.put_latest record) rfl)
          exact List.length_append
  | put_latest record =>
      simp only [callStep, Option.some.injEq] at h
      exact h ▸ .kept rfl (hflight .check_pending).le
  | check_pending =>
      simp only [callStep, Option.some.injEq] at h
      have hnext := hflight (s.checkPending cfg)
      rw [held_checkPending] at hnext
      exact h ▸ .kept rfl hnext.le
  | drain_history max_items =>
      by_cases hsink : cfg.has_bulk_sink = false
      · simp only [callStep, hsink, if_true, Option.some.injEq] at h
        exact h ▸ .kept rfl (hflight .returned).le
      · simp only [callStep, hsink, Bool.true_eq_false, if_false, Option.some.injEq] at h
        subst h
        have hqueue := congrArg List.length (s.buffer.drain_history_append max_items)
        rw [List.length_append] at hqueue
        have hheld : (if (s.buffer.drain_history max_items).1.isEmpty then Stage.returned
            else .flush (s.buffer.drain_history max_items).1).held =
              (s.buffer.drain_history max_items).1.length := by
          split
          · next hempty => rw [List.isEmpty_iff.1 hempty]; rfl
          · rfl
        have hnext := hflight (if (s.buffer.drain_history max_items).1.isEmpty then Stage.returned
          else .flush (s.buffer.drain_history max_items).1)
        rw [hheld] at hnext
        refine .drained ?_ ?_
        · change (s.buffer.drain_history max_items).2.history.length ≤ s.buffer.history.length
          omega
        · change (s.buffer.drain_history max_items).2.history.length + (s.advance call _).inFlight =
            s.buffer.history.length + s.inFlight
          simp only [Stage.held, Nat.add_zero] at hnext
          omega
  | flush records => simp only [callStep, reduceCtorEq] at h
  | restore_history_front records =>
      simp only [callStep, Option.some.injEq] at h
      refine h ▸ .restored hcall ?_ (hflight .returned)
      change (s.buffer.restore_history_front records).history.length = _
      rw [InMemoryTelemetryWriteBuffer.restore_history_front_history, List.length_append]
      exact Nat.add_comm _ _
  | returned => simp only [callStep, reduceCtorEq] at h

theorem inFlight_entered (stage : Stage) (hstage : stage.held = 0) :
    inFlight { s with calls := s.calls ++ [stage] } = s.inFlight := by
  rw [inFlight, List.map_append, List.sum_append, List.map_singleton, List.sum_singleton, hstage,
    Nat.add_zero, inFlight]

theorem step_counts {a : Action} (h : s.step cfg a = some s') : Counts cfg s a s' := by
  cases a with
  | upsert record =>
      simp only [step, Option.some.injEq] at h
      exact h ▸ .kept rfl (inFlight_entered _ rfl).le
  | flush_once max_items =>
      simp only [step, Option.some.injEq] at h
      exact h ▸ .kept rfl (inFlight_entered _ rfl).le
  | step call =>
      obtain ⟨c, hcall, hstep⟩ := Option.bind_eq_some_iff.1 h
      exact callStep_counts hcall hstep
  | sink call outcome =>
      unfold step at h
      dsimp only at h
      split at h
      · next records hcall =>
          simp only [Option.some.injEq] at h
          have hnext := inFlight_advance hcall (.restore_history_front (outcome.unstored records))
          have hle := outcome.length_unstored_le records
          simp only [Stage.held] at hnext
          refine h ▸ .kept rfl ?_
          omega
      · cases h

/-! ## All interleavings -/

theorem pending_le_of_peak {acts : List Action} {n : ℕ} (hpeak : peak cfg acts s ≤ n)
    (hs : s.pending + s.inFlight ≤ cfg.max_pending_history + n)
    (hrun : Runs.run (step cfg) s acts = some s') : s'.pending ≤ cfg.max_pending_history + n := by
  induction acts generalizing s with
  | nil =>
      rw [Runs.run_nil, Option.some.injEq] at hrun
      subst hrun
      omega
  | cons a acts ih =>
      rw [Runs.run_cons, Option.bind_eq_some_iff] at hrun
      obtain ⟨t, ht, hrun⟩ := hrun
      rw [peak, ht, Option.elim_some, max_le_iff] at hpeak
      refine ih hpeak.2 ?_ hrun
      cases step_counts ht with
      | kept hpending hflight => omega
      | appended hroom hpending hflight => omega
      | drained hpending hflight => omega
      | restored hcall hpending hflight => omega

def Bounded (cfg : Config) (s : State) : Prop := s.pending ≤ cfg.max_pending_history

/-- From a state within the bound, the step ends within it. -/
def KeepsBound (cfg : Config) (s : State) (a : Action) : Prop :=
  ∀ s', s.step cfg a = some s' → Bounded cfg s'

theorem keepsBound_iff {a : Action} (hs : Bounded cfg s) :
    KeepsBound cfg s a ↔ HasRoom cfg s a := by
  constructor
  · intro h
    cases a with
    | step call =>
        intro records hcall
        have hstep : s.step cfg (.step call) = some { s.advance call .returned with
            buffer := s.buffer.restore_history_front records } := by
          rw [step, hcall]
          rfl
        have hbound := h _ hstep
        unfold Bounded pending at hbound
        rw [InMemoryTelemetryWriteBuffer.restore_history_front_history, List.length_append,
          Nat.add_comm] at hbound
        exact hbound
    | _ => trivial
  · intro hroom s' hstep
    unfold Bounded at hs ⊢
    cases step_counts hstep with
    | kept hpending hflight => omega
    | appended hroom hpending hflight => omega
    | drained hpending hflight => omega
    | restored hcall hpending hflight =>
        have hfits := hroom _ hcall
        omega

/-- The queue exceeds its bound at most by what was in flight together, and it stays within the
bound just when every batch that is put back finds room. -/
theorem pending_bounded {acts : List Action} {s : State}
    (hrun : Runs.run (step cfg) initial acts = some s) :
    s.pending ≤ cfg.max_pending_history + peak cfg acts initial ∧
      (Runs.Along (step cfg) (KeepsBound cfg) initial acts ↔
        Runs.Along (step cfg) (HasRoom cfg) initial acts) := by
  have hbounded : Bounded cfg initial := Nat.zero_le _
  refine ⟨pending_le_of_peak (Nat.le_refl _) (Nat.zero_le _) hrun, ?_⟩
  exact Runs.along_congr (fun s a (hs : Bounded cfg s) => keepsBound_iff hs)
    (fun s a s' hs hroom hstep => (keepsBound_iff hs).2 hroom s' hstep) hbounded

end State

/-! ## A batch that finds no room -/

def smallConfig : Config := ⟨1, true, 0⟩

/-- A record is drained, another takes its place, and the flush of the first one fails. -/
def refilledQueue : List Action :=
  [.upsert (ofLatitude "front" 1), .step 0, .step 0, .flush_once 1, .step 1,
    .upsert (ofLatitude "rear" 2), .step 2, .sink 1 .raised, .step 1]

theorem pending_bounded_sample : ∃ s : State,
    s.pending ≤ smallConfig.max_pending_history + State.peak smallConfig refilledQueue .initial ∧
      (Runs.Along (State.step smallConfig) (State.KeepsBound smallConfig) .initial refilledQueue ↔
        Runs.Along (State.step smallConfig) (State.HasRoom smallConfig) .initial
          refilledQueue) := by
  have hruns : ∃ s, Runs.run (State.step smallConfig) .initial refilledQueue = some s := ⟨_, rfl⟩
  obtain ⟨s, hrun⟩ := hruns
  exact ⟨s, State.pending_bounded hrun⟩

theorem pending_exceeds : ¬∀ (cfg : Config) (acts : List Action) (s : State),
    0 < cfg.max_pending_history → Runs.run (State.step cfg) .initial acts = some s →
      s.pending ≤ cfg.max_pending_history := by
  intro h
  have htwo : 2 ≤ 1 := h smallConfig refilledQueue _ Nat.one_pos rfl
  omega

end GcsSaker.TelemetryBounds
