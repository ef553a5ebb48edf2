import GcsSaker.Runs
import GcsSaker.TelemetryFlushes
import Mathlib.Algebra.Order.Group.Multiset
import Mathlib.Tactic.Abel

/-!
# No telemetry is lost or stored twice

Every accepted record is in the queue, in flight or stored, under all interleavings. Batches that
are in flight together may be stored in the wrong order, and then an older sample stays in the
latest table; when every batch continues the order of acceptance of its devices, the last one does.
-/

namespace GcsSaker.TelemetryFlushes

open KeyedWrites (writeAll having)
open TelemetryUpsert (Engine Table)
open TelemetryBufferRecord (ofLatitude)

namespace State

variable {cfg : Config} {s s' : State}

/-! ## What a step does -/

/-- The shapes of a step. -/
inductive Moves (cfg : Config) (s : State) : Action → State → Prop where
  | entered {a : Action} {stage : Stage} (hstage : stage.held = []) :
      Moves cfg s a { s with calls := s.calls ++ [stage] }
  | accepted {call : ℕ} {record : TelemetryBufferRecord} {latest : String →
      Option TelemetryBufferRecord} (hcall : s.calls[call]? = some (.append_history record)) :
      Moves cfg s (.step call) { s.advance call (.put_latest record) with
        buffer := ⟨latest, s.buffer.history ++ [record]⟩
        accepted := s.accepted ++ [record] }
  | moved {call : ℕ} {c stage : Stage} {buffer : InMemoryTelemetryWriteBuffer}
      (hcall : s.calls[call]? = some c) (hc : c.held = []) (hstage : stage.held = [])
      (hbuffer : buffer.history = s.buffer.history) :
      Moves cfg s (.step call) { s.advance call stage with buffer := buffer }
  | drained {call : ℕ} {max_items : ℤ} {records : List TelemetryBufferRecord}
      {buffer : InMemoryTelemetryWriteBuffer}
      (hcall : s.calls[call]? = some (.drain_history max_items))
      (hbuffer : records ++ buffer.history = s.buffer.history) :
      Moves cfg s (.step call) { s.advance call (.flush records) with buffer := buffer }
  | restored {call : ℕ} {records : List TelemetryBufferRecord} {outcome : Outcome}
      {buffer : InMemoryTelemetryWriteBuffer}
      (hcall : s.calls[call]? = some (.restore_history_front records outcome))
      (hbuffer : buffer.history = records ++ s.buffer.history) :
      Moves cfg s (.step call) { s.advance call (.returned outcome) with buffer := buffer }
  | stored {call count : ℕ} {records : List TelemetryBufferRecord}
      (hcall : s.calls[call]? = some (.flush records)) (hcount : count ≤ records.length) :
      Moves cfg s (.sink call (some count)) (s.store cfg call records count)
  | raised {call : ℕ} {records : List TelemetryBufferRecord}
      (hcall : s.calls[call]? = some (.flush records)) :
      Moves cfg s (.sink call none) (s.advance call (.restore_history_front records .raised))

theorem held_checkPending (cfg : Config) (s : State) : (s.checkPending cfg).held = [] := by
  unfold checkPending
  split_ifs <;> rfl

theorem callStep_moves {call : ℕ} {c : Stage} (hcall : s.calls[call]? = some c)
    (h : s.callStep cfg call c = some s') : Moves cfg s (.step call) s' := by
  cases c with
  | append_history record =>
      cases ha : s.buffer.append_history cfg.max_pending_history record with
      | none =>
          simp only [callStep, ha, Option.some.injEq] at h
          exact h ▸ .moved hcall rfl rfl rfl
      | some buffer =>
          obtain ⟨-, rfl⟩ := s.buffer.append_history_eq_some_iff.1 ha
          simp only [callStep, ha, Option.some.injEq] at h
          exact h ▸ .accepted hcall
  | put_latest record =>
      simp only [callStep, Option.some.injEq] at h
      exact h ▸ .moved hcall rfl rfl rfl
  | check_pending =>
      simp only [callStep, Option.some.injEq] at h
      exact h ▸ .moved hcall rfl (held_checkPending cfg s) rfl
  | drain_history max_items =>
      have hbuffer := s.buffer.drain_history_append max_items
      by_cases hsink : cfg.has_bulk_sink = false
      · simp only [callStep, hsink, if_true, Option.some.injEq] at h
        exact h ▸ .moved hcall rfl rfl rfl
      · by_cases hempty : (s.buffer.drain_history max_items).1.isEmpty = true
        · simp only [callStep, hsink, hempty, if_true, if_false, Bool.true_eq_false,
            Option.some.injEq] at h
          rw [List.isEmpty_iff.1 hempty, List.nil_append] at hbuffer
          exact h ▸ .moved hcall rfl rfl hbuffer
        · simp only [callStep, hsink, hempty, if_false, Bool.true_eq_false, Bool.false_eq_true,
            Option.some.injEq] at h
          exact h ▸ .drained hcall hbuffer
  | flush records => simp only [callStep, reduceCtorEq] at h
  | restore_history_front records outcome =>
      simp only [callStep, Option.some.injEq] at h
      exact h ▸ .restored hcall (s.buffer.restore_history_front_history records)
  | returned outcome => simp only [callStep, reduceCtorEq] at h

theorem step_moves {a : Action} (h : s.step cfg a = some s') : Moves cfg s a s' := by
  cases a with
  | upsert record =>
      simp only [step, Option.some.injEq] at h
      exact h ▸ .entered rfl
  | flush_once max_items =>
      simp only [step, Option.some.injEq] at h
      exact h ▸ .entered rfl
  | step call =>
      obtain ⟨c, hcall, hstep⟩ := Option.bind_eq_some_iff.1 h
      exact callStep_moves hcall hstep
  | sink call stored =>
      cases hcall : s.calls[call]? with
      | none => simp only [step, hcall, reduceCtorEq] at h
      | some c =>
          cases c with
          | flush records =>
              simp only [step, hcall] at h
              cases stored with
              | none =>
                  simp only [sinkStep, Option.some.injEq] at h
                  exact h ▸ .raised hcall
              | some count =>
                  simp only [sinkStep] at h
                  split_ifs at h with hcount
                  exact Option.some.inj h ▸ .stored hcall hcount
          | append_history record => simp only [step, hcall, reduceCtorEq] at h
          | put_latest record => simp only [step, hcall, reduceCtorEq] at h
          | check_pending => simp only [step, hcall, reduceCtorEq] at h
          | drain_history max_items => simp only [step, hcall, reduceCtorEq] at h
          | restore_history_front records outcome => simp only [step, hcall, reduceCtorEq] at h
          | returned outcome => simp only [step, hcall, reduceCtorEq] at h

/-! ## Where the records are -/

/-- The records in flight around those of one call, which are all that there are when no other
flush is running. -/
theorem inFlight_split {call : ℕ} {c : Stage} (hcall : s.calls[call]? = some c) :
    ∃ before after, s.inFlight = before ++ c.held ++ after ∧
      (∀ (t : State) (stage : Stage), t.calls = s.calls.set call stage →
        t.inFlight = before ++ stage.held ++ after) ∧
      (s.OneFlush → c.flushing = true → before = [] ∧ after = []) := by
  obtain ⟨hlt, hget⟩ := List.getElem?_eq_some_iff.1 hcall
  have hset : ∀ stage, s.calls.set call stage =
      s.calls.take call ++ stage :: s.calls.drop (call + 1) := by
    intro stage
    rw [List.set_eq_take_append_cons_drop, if_pos hlt]
  have hself : s.calls = s.calls.take call ++ c :: s.calls.drop (call + 1) := by
    rw [← hset, ← hget, List.set_getElem_self]
  refine ⟨(s.calls.take call).flatMap Stage.held, (s.calls.drop (call + 1)).flatMap Stage.held,
    ?_, ?_, ?_⟩
  · conv_lhs => rw [inFlight, hself]
    rw [List.flatMap_append, List.flatMap_cons, List.append_assoc]
  · intro t stage ht
    rw [inFlight, ht, hset, List.flatMap_append, List.flatMap_cons, List.append_assoc]
  · intro hone hflushing
    unfold OneFlush at hone
    rw [hself, List.countP_append, List.countP_cons_of_pos hflushing] at hone
    have hnone : ∀ l : List Stage, l.countP Stage.flushing = 0 → l.flatMap Stage.held = [] := by
      intro l hl
      rw [List.countP_eq_zero] at hl
      rw [List.flatMap_eq_nil_iff]
      exact fun stage hstage => Stage.held_of_not_flushing (Bool.eq_false_iff.2 (hl stage hstage))
    exact ⟨hnone _ (by omega), hnone _ (by omega)⟩

theorem inFlight_entered (stage : Stage) (hstage : stage.held = []) :
    inFlight { s with calls := s.calls ++ [stage] } = s.inFlight := by
  rw [inFlight, List.flatMap_append, List.flatMap_singleton, hstage, List.append_nil, inFlight]

@[simp] theorem advance_accepted (call : ℕ) (stage : Stage) :
    (s.advance call stage).accepted = s.accepted := rfl

@[simp] theorem advance_stored (call : ℕ) (stage : Stage) :
    (s.advance call stage).stored = s.stored := rfl

@[simp] theorem advance_buffer (call : ℕ) (stage : Stage) :
    (s.advance call stage).buffer = s.buffer := rfl

/-- After a batch was stored the call holds what is left of it. -/
theorem inFlight_store {call count : ℕ} {records before after : List TelemetryBufferRecord}
    (hset : ∀ (t : State) (stage : Stage), t.calls = s.calls.set call stage →
      t.inFlight = before ++ stage.held ++ after) :
    (s.store cfg call records count).inFlight = before ++ records.drop count ++ after := by
  rw [hset _ _ rfl]
  split_ifs with hcount
  · rfl
  · rw [not_not.1 hcount, List.drop_length]
    rfl

/-- Every accepted record is stored, in flight or in the queue, and only once. -/
def Conserved (s : State) : Prop :=
  (s.accepted : Multiset TelemetryBufferRecord) = s.stored + s.inFlight + s.buffer.history

/-- They are so in the order of acceptance. -/
def Ordered (s : State) : Prop := s.stored ++ s.inFlight ++ s.buffer.history = s.accepted

theorem conserved_of_moves {a : Action} (hs : s.Conserved) (h : Moves cfg s a s') :
    s'.Conserved := by
  unfold Conserved at hs ⊢
  cases h with
  | entered hstage =>
      rw [inFlight_entered _ hstage]
      exact hs
  | accepted hcall =>
      obtain ⟨before, after, hin, hset, -⟩ := inFlight_split hcall
      rw [hset _ _ rfl]
      simp only [hin, Stage.held, ← Multiset.coe_add, List.append_nil, advance_stored] at hs ⊢
      rw [hs]
      abel
  | moved hcall hc hstage hbuffer =>
      obtain ⟨before, after, hin, hset, -⟩ := inFlight_split hcall
      rw [hset _ _ rfl, hstage, hbuffer, ← hc, ← hin]
      exact hs
  | drained hcall hbuffer =>
      obtain ⟨before, after, hin, hset, -⟩ := inFlight_split hcall
      rw [hset _ _ rfl]
      simp only [hin, Stage.held, ← hbuffer, ← Multiset.coe_add, List.append_nil, advance_stored,
        advance_accepted] at hs ⊢
      rw [hs]
      abel
  | restored hcall hbuffer =>
      obtain ⟨before, after, hin, hset, -⟩ := inFlight_split hcall
      rw [hset _ _ rfl]
      simp only [hin, Stage.held, hbuffer, ← Multiset.coe_add, List.append_nil, advance_stored,
        advance_accepted] at hs ⊢
      rw [hs]
      abel
  | @stored call count records hcall hcount =>
      obtain ⟨before, after, hin, hset, -⟩ := inFlight_split hcall
      rw [inFlight_store hset]
      have hbatch : (records : Multiset TelemetryBufferRecord) =
          records.take count + records.drop count := by
        rw [Multiset.coe_add, List.take_append_drop]
      simp only [hin, Stage.held, store, ← Multiset.coe_add, hbatch, advance_accepted,
        advance_buffer] at hs ⊢
      rw [hs]
      abel
  | raised hcall =>
      obtain ⟨before, after, hin, hset, -⟩ := inFlight_split hcall
      rw [hset _ _ rfl]
      rw [hin] at hs
      exact hs

theorem ordered_of_moves {a : Action} (hs : s.Ordered) (hone : s.OneFlush)
    (h : Moves cfg s a s') : s'.Ordered := by
  unfold Ordered at hs ⊢
  cases h with
  | entered hstage =>
      rw [inFlight_entered _ hstage]
      exact hs
  | accepted hcall =>
      obtain ⟨before, after, hin, hset, -⟩ := inFlight_split hcall
      rw [hset _ _ rfl]
      rw [hin] at hs
      simp only [Stage.held, advance_stored, ← hs, List.append_assoc]
  | moved hcall hc hstage hbuffer =>
      obtain ⟨before, after, hin, hset, -⟩ := inFlight_split hcall
      rw [hset _ _ rfl, hstage, hbuffer, ← hc, ← hin]
      exact hs
  | drained hcall hbuffer =>
      obtain ⟨before, after, hin, hset, halone⟩ := inFlight_split hcall
      obtain ⟨rfl, rfl⟩ := halone hone rfl
      rw [hset _ _ rfl]
      rw [hin, ← hbuffer] at hs
      simpa only [Stage.held, List.append_nil, List.nil_append, List.append_assoc, advance_stored,
        advance_accepted] using hs
  | restored hcall hbuffer =>
      obtain ⟨before, after, hin, hset, halone⟩ := inFlight_split hcall
      obtain ⟨rfl, rfl⟩ := halone hone rfl
      rw [hset _ _ rfl, hbuffer]
      rw [hin] at hs
      simpa only [Stage.held, List.append_nil, List.nil_append, List.append_assoc, advance_stored,
        advance_accepted] using hs
  | @stored call count records hcall hcount =>
      obtain ⟨before, after, hin, hset, halone⟩ := inFlight_split hcall
      obtain ⟨rfl, rfl⟩ := halone hone rfl
      rw [inFlight_store hset]
      rw [hin, Stage.held, ← List.take_append_drop count records] at hs
      simpa only [store, List.append_nil, List.nil_append, List.append_assoc, advance_accepted,
        advance_buffer] using hs
  | raised hcall =>
      obtain ⟨before, after, hin, hset, -⟩ := inFlight_split hcall
      rw [hset _ _ rfl]
      rw [hin] at hs
      exact hs

theorem conserved_initial (latest : Table) : (initial latest).Conserved := rfl

theorem ordered_initial (latest : Table) : (initial latest).Ordered := rfl

/-! ## The last sample of a device -/

/-- What is stored of each device are the first of its accepted records, in order. -/
def InOrder (s : State) : Prop :=
  ∀ key, having TelemetryBufferRecord.key key s.stored <+:
    having TelemetryBufferRecord.key key s.accepted

/-- When a batch is stored, then every record accepted earlier for one of its devices was stored
before: what is stored of the device continues the order of acceptance. -/
def Continues (s : State) : Action → Prop
  | .sink call (some count) => ∀ records, s.calls[call]? = some (.flush records) →
      ∀ r ∈ records.take count,
        having TelemetryBufferRecord.key r.key (s.stored ++ records.take count) <+:
          having TelemetryBufferRecord.key r.key s.accepted
  | _ => True

theorem inOrder_of_moves {a : Action} (hs : s.InOrder) (hcontinues : s.Continues a)
    (h : Moves cfg s a s') : s'.InOrder := by
  intro key
  cases h with
  | entered hstage => exact hs key
  | @accepted call record latest hcall =>
      have hpre : having TelemetryBufferRecord.key key s.accepted <+:
          having TelemetryBufferRecord.key key (s.accepted ++ [record]) := by
        rw [KeyedWrites.having_append]
        exact List.prefix_append _ _
      exact (hs key).trans hpre
  | moved hcall hc hstage hbuffer => exact hs key
  | drained hcall hbuffer => exact hs key
  | restored hcall hbuffer => exact hs key
  | @stored call count records hcall hcount =>
      by_cases hkey : ∃ r ∈ records.take count, r.key = key
      · obtain ⟨r, hr, rfl⟩ := hkey
        exact hcontinues records hcall r hr
      · have hnone : having TelemetryBufferRecord.key key (records.take count) = [] := by
          rw [List.eq_nil_iff_forall_not_mem]
          intro r hr
          obtain ⟨hmem, hk⟩ := (KeyedWrites.mem_having _).1 hr
          exact hkey ⟨r, hmem, hk⟩
        have hsame := hs key
        simp only [store, KeyedWrites.having_append, hnone, List.append_nil, advance_accepted]
        exact hsame
  | raised hcall => exact hs key

/-- The latest table is what the stored records wrote, one after the other. -/
def Written (latest : Table) (cfg : Config) (s : State) : Prop :=
  s.latest = writeAll TelemetryBufferRecord.key
    (fun r _ => cfg.db.proposed (Engine.insertRow r)) latest s.stored

theorem written_initial (latest : Table) (cfg : Config) :
    Written latest cfg (initial latest) := rfl

theorem written_of_moves {latest : Table} {a : Action} (hs : Written latest cfg s)
    (h : Moves cfg s a s') : Written latest cfg s' := by
  cases h with
  | entered hstage => exact hs
  | accepted hcall => exact hs
  | moved hcall hc hstage hbuffer => exact hs
  | drained hcall hbuffer => exact hs
  | restored hcall hbuffer => exact hs
  | @stored call count records hcall hcount =>
      unfold Written at hs ⊢
      simp only [store, KeyedWrites.writeAll_append, hs]
  | raised hcall => exact hs

theorem inFlight_of_quiet (h : s.Quiet) : s.inFlight = [] := by
  rw [inFlight, List.flatMap_eq_nil_iff]
  exact fun stage hstage => Stage.held_of_not_flushing (h.2 stage hstage)

/-- The latest row of each device is the one of the last record accepted for it. -/
def LastWins (cfg : Config) (s : State) : Prop :=
  ∀ key record, (having TelemetryBufferRecord.key key s.accepted).getLast? = some record →
    s.latest key = some (cfg.db.proposed (Engine.insertRow record))

theorem lastWins_of_quiet {latest : Table} (hquiet : s.Quiet) (hconserved : s.Conserved)
    (horder : s.InOrder) (hwritten : Written latest cfg s) : LastWins cfg s := by
  intro key record hlast
  have hperm : s.accepted.Perm s.stored := by
    rw [← Multiset.coe_eq_coe, hconserved, inFlight_of_quiet hquiet, hquiet.1]
    simp only [Multiset.coe_nil, add_zero]
  have hall : having TelemetryBufferRecord.key key s.stored =
      having TelemetryBufferRecord.key key s.accepted :=
    (horder key).eq_of_length (hperm.filter _).length_eq.symm
  rw [hwritten, KeyedWrites.writeAll_overwrite, hall, hlast]
  rfl

/-- In every run in which each batch that is stored continues the order of acceptance of its
devices, the last sample of each device is in the latest table whenever no record waits and no
flush is running. -/
theorem last_sample_wins {latest : Table} {acts : List Action}
    (hcontinues : Runs.Along (step cfg) Continues (initial latest) acts)
    (h : Runs.run (step cfg) (initial latest) acts = some s) (hquiet : s.Quiet) :
    LastWins cfg s := by
  have hconserved : s.Conserved := Runs.run_invariant_of_step
    (fun s a s' hs hstep => conserved_of_moves hs (step_moves hstep)) (conserved_initial latest) h
  have horder : s.InOrder := Runs.run_invariant
    (fun s a s' hs hc hstep => inOrder_of_moves hs hc (step_moves hstep))
    (fun key => List.prefix_refl _) hcontinues h
  have hwritten : Written latest cfg s := Runs.run_invariant_of_step
    (fun s a s' hs hstep => written_of_moves hs (step_moves hstep))
    (written_initial latest cfg) h
  exact lastWins_of_quiet hquiet hconserved horder hwritten

/-- With one flush at a time every batch continues the order of acceptance. -/
theorem continues_of_oneFlush (hs : s.Ordered) (hone : s.OneFlush) (a : Action) :
    s.Continues a := by
  cases a with
  | upsert record => trivial
  | flush_once max_items => trivial
  | step call => trivial
  | sink call stored =>
      cases stored with
      | none => trivial
      | some count =>
          intro records hcall r hr
          obtain ⟨before, after, hin, -, halone⟩ := inFlight_split hcall
          obtain ⟨rfl, rfl⟩ := halone hone rfl
          have hpre : s.stored ++ records.take count <+: s.accepted := by
            refine ⟨records.drop count ++ s.buffer.history, ?_⟩
            rw [Ordered, hin, Stage.held, ← List.take_append_drop count records] at hs
            simpa only [List.append_nil, List.nil_append, List.append_assoc] using hs
          exact hpre.filter _

theorem along_continues (hs : s.Ordered) {acts : List Action}
    (hone : Runs.Along (step cfg) (fun s _ => s.OneFlush) s acts) :
    Runs.Along (step cfg) Continues s acts := by
  induction acts generalizing s with
  | nil => trivial
  | cons a acts ih =>
      refine ⟨continues_of_oneFlush hs hone.1 a, fun s' hs' => ?_⟩
      exact ih (ordered_of_moves hs hone.1 (step_moves hs')) (hone.2 s' hs')

/-! ## Runs of two samples -/

/-- The bulk sink stores the whole batch or nothing. -/
def Atomic (s : State) : Action → Prop
  | .sink call (some count) => ∀ stage ∈ s.calls[call]?, count = stage.held.length
  | _ => True

instance (s : State) : ∀ a, Decidable (s.Atomic a)
  | .upsert _ => inferInstanceAs (Decidable True)
  | .flush_once _ => inferInstanceAs (Decidable True)
  | .step _ => inferInstanceAs (Decidable True)
  | .sink _ none => inferInstanceAs (Decidable True)
  | .sink _ (some _) => inferInstanceAs (Decidable (∀ _ ∈ _, _))

def twoSamplesConfig : Config := ⟨Engine.numbers, 10000, true, 0⟩

/-- Two samples of one device are accepted, as the calls 0 and 1. -/
def twoSamples : List Action :=
  [.upsert (ofLatitude "front" 35.5), .step 0, .step 0, .step 0,
    .upsert (ofLatitude "front" 36.5), .step 1, .step 1, .step 1]

/-- Both are drained together; the sink stores the first, and the second is put back. -/
def partialFlush : List Action :=
  twoSamples ++ [.flush_once 10, .step 2, .sink 2 (some 1), .step 2]

/-- One flush stores each of them. -/
def flushedInTurn : List Action :=
  twoSamples ++ [.flush_once 1, .step 2, .sink 2 (some 1), .flush_once 1, .step 3,
    .sink 3 (some 1)]

theorem last_sample_wins_flushedInTurn :
    ∃ s, Runs.run (step twoSamplesConfig) (initial fun _ => none) flushedInTurn = some s ∧
      LastWins twoSamplesConfig s :=
  ⟨_, rfl, @last_sample_wins twoSamplesConfig _ _ flushedInTurn
    (along_continues (ordered_initial _) (by decide)) rfl ⟨rfl, by decide⟩⟩

/-- Two flushes hold one of them each, and the newer one is stored first. -/
def flushedTogether : List Action :=
  twoSamples ++ [.flush_once 1, .step 2, .flush_once 1, .step 3, .sink 3 (some 1),
    .sink 2 (some 1)]

theorem older_sample_wins :
    ¬∀ (cfg : Config) (latest : Table) (acts : List Action) (s : State),
      Runs.Along (step cfg) Atomic (initial latest) acts →
      Runs.run (step cfg) (initial latest) acts = some s → s.Quiet → LastWins cfg s := by
  intro h
  have hlast := h twoSamplesConfig (fun _ => none) flushedTogether _ (by decide) rfl
    ⟨rfl, by decide⟩ "front" (ofLatitude "front" 36.5) rfl
  have hrow := congrFun (Option.some.inj hlast) .latitude
  have hvalue : TelemetryValue.number 35.5 = .number 36.5 := hrow
  revert hvalue
  decide +kernel

end State

end GcsSaker.TelemetryFlushes
