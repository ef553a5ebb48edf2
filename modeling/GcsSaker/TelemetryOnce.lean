import GcsSaker.TelemetryStore

/-!
# A telemetry event is stored once

The pending mark of a call stays in Redis for as long as the call holds it, so no two calls hold one
event at a time. Only its holder removes a pending mark, and nobody removes one that says stored.
-/

namespace GcsSaker.TelemetryStore

namespace Stage

/-- The call has come past a successful `persistTelemetry`, or returns without an error. -/
def isDone : Stage → Bool
  | .committing _ => true
  | .returned none => true
  | _ => false

end Stage

/-- The call that takes the step. -/
def Action.actor : Action → Option ℕ
  | .call i _ => some i
  | _ => none

namespace Gateways

variable {s s' : Gateways}

/-- The event has a mark that has not expired and says stored. -/
def StoredMark (s : Gateways) (v : Sample) : Prop :=
  ∃ e, s.marks.live s.now v.key = some e ∧ e.value.text = "stored"

/-! ## What a step does -/

/-- No device UUID has a colon, and time does not reach the end of a reservation while its call is
still under way. -/
def Prompt (s : Gateways) : Action → Prop
  | .tick now => ∀ c ∈ s.calls, ∀ since ∈ c.stage.since, now < since + gatewayTelemetryPendingTTL
  | .enter _ _ v => ':' ∉ v.deviceUUID.toList
  | .call _ _ => True

instance (s : Gateways) : ∀ a, Decidable (Prompt s a)
  | .tick now => inferInstanceAs (Decidable (∀ c ∈ s.calls, ∀ since ∈ c.stage.since,
      now < since + gatewayTelemetryPendingTTL))
  | .enter _ _ v => inferInstanceAs (Decidable (':' ∉ v.deviceUUID.toList))
  | .call _ _ => inferInstanceAs (Decidable True)

/-- The shapes of a step, by the call that takes it. -/
inductive Moves (s : Gateways) : Option ℕ → Gateways → Prop where
  | ticked {now : ℤ} (hn : ∀ c ∈ s.calls, ∀ since ∈ c.stage.since,
      now < since + gatewayTelemetryPendingTTL) : Moves s none { s with now := now }
  | entered {c : Call} (hv : ':' ∉ c.sample.deviceUUID.toList) (hs : c.stage.since = none)
      (hd : c.stage.isDone = false) : Moves s none { s with calls := s.calls ++ [c] }
  | moved {call : ℕ} {c : Call} {stage : Stage} (hc : s.calls[call]? = some c)
      (hs : stage.since = none ∨ stage.since = c.stage.since)
      (hd : stage.isDone = true → s.StoredMark c.sample) :
      Moves s (some call) (s.advance call c stage)
  | reserved {call : ℕ} {c : Call} {stage : Stage} (hc : s.calls[call]? = some c)
      (hl : s.marks.live s.now c.sample.key = none)
      (hs : stage.since = none ∨ stage.since = some s.now) (hd : stage.isDone = false) :
      Moves s (some call) ((s.apply .delivered (s.marks.set c.sample.key ⟨"pending", call⟩
        (s.now + gatewayTelemetryPendingTTL))).advance call c stage)
  | persisted {call : ℕ} {c : Call} {since : ℤ} (hc : s.calls[call]? = some c)
      (hs : c.stage.since = some since) : Moves s (some call)
      ({ s with persisted := c.sample :: s.persisted }.advance call c (.committing since))
  | released {call : ℕ} {c : Call} {since : ℤ} {error : String} (hc : s.calls[call]? = some c)
      (hs : c.stage.since = some since) : Moves s (some call)
      ((s.apply .delivered (s.marks.erase c.sample.key)).advance call c (.returned (some error)))
  | committed {call : ℕ} {c : Call} {since : ℤ} {error : Option String}
      (hc : s.calls[call]? = some c) (hs : c.stage.since = some since)
      (hd : c.stage.isDone = true) : Moves s (some call)
      ((s.apply .delivered (s.marks.set c.sample.key ⟨"stored", call⟩
        (s.now + gatewayTelemetryStoredTTL))).advance call c (.returned error))

section Steps

variable {call : ℕ} {c : Call}

theorem reserveCall_moves (hc : s.calls[call]? = some c) (reply : Control.Reply) (error : String) :
    Moves s (some call) (s.reserveCall call c reply error) := by
  rw [reserveCall, ExpiringStore.setNX]
  cases hl : s.marks.live s.now c.sample.key with
  | some e =>
      have hm (stage : Stage) (hs : stage.since = none) (hd : stage.isDone = false) :
          Moves s (some call) (s.advance call c stage) :=
        .moved hc (.inl hs) (fun h => absurd h (hd ▸ Bool.false_ne_true))
      cases reply with
      | delivered => exact hm .refused rfl rfl
      | lostBefore => exact hm _ rfl rfl
      | lostAfter => exact hm _ rfl rfl
  | none =>
      cases reply with
      | delivered => exact .reserved hc hl (.inr rfl) rfl
      | lostBefore => exact .moved hc (.inl rfl) nofun
      | lostAfter => exact .reserved hc hl (.inl rfl) rfl

theorem text_of_readResult {text : String}
    (h : (Stage.returned (readResult .delivered (some text))).isDone = true) :
    text = "stored" := by
  by_contra he
  have hr : readResult .delivered (some text) =
      some "telemetry event is already being stored" := by
    rw [readResult]
    exact fun _ h => he (Option.some.inj h)
  rw [hr] at h
  cases h

theorem readCall_moves (hc : s.calls[call]? = some c) (reply : Control.Reply) :
    Moves s (some call) (s.readCall call c reply) := by
  refine .moved hc (.inl rfl) fun h => ?_
  cases reply with
  | lostBefore => cases h
  | lostAfter => cases h
  | delivered =>
      cases hl : s.marks.live s.now c.sample.key with
      | none =>
          rw [hl] at h
          cases h
      | some e =>
          refine ⟨e, hl, ?_⟩
          rw [hl, Option.map_some] at h
          exact text_of_readResult h

theorem finishCall_moves {since : ℤ} (hc : s.calls[call]? = some c)
    (hs : c.stage = .persisting since) (answer : PersistAnswer) :
    Moves s (some call) (s.finishCall call c since answer) := by
  rw [finishCall]
  cases persistTelemetry c.rpc c.credentials c.sample answer with
  | some error => exact .moved hc (.inr (hs ▸ rfl)) nofun
  | none => exact .persisted hc (hs ▸ rfl)

theorem releaseCall_moves {since : ℤ} {failure : String} (hc : s.calls[call]? = some c)
    (hs : c.stage = .releasing since failure) (reply : Control.Reply) (error : String) :
    Moves s (some call) (s.releaseCall call c failure reply error) := by
  have hsince : c.stage.since = some since := by rw [hs, Stage.since]
  cases reply with
  | lostBefore => exact .moved hc (.inl rfl) nofun
  | delivered => exact .released hc hsince
  | lostAfter => exact .released hc hsince

theorem commitCall_moves {since : ℤ} (hc : s.calls[call]? = some c)
    (hs : c.stage = .committing since) (reply : Control.Reply) (error : String) :
    Moves s (some call) (s.commitCall call c reply error) := by
  have hsince : c.stage.since = some since := by rw [hs, Stage.since]
  have hdone : c.stage.isDone = true := by rw [hs, Stage.isDone]
  cases reply with
  | lostBefore => exact .moved hc (.inl rfl) nofun
  | delivered => exact .committed hc hsince hdone
  | lostAfter => exact .committed hc hsince hdone

theorem callStep_moves {action : CallAction} (hc : s.calls[call]? = some c)
    (h : s.callStep call c action = some s') : Moves s (some call) s' := by
  unfold callStep at h
  split at h
  · exact Option.some.inj h ▸ reserveCall_moves hc _ _
  · exact Option.some.inj h ▸ readCall_moves hc _
  · rename_i hs
    exact Option.some.inj h ▸ .moved hc (.inr (hs ▸ rfl)) nofun
  · rename_i hs
    exact Option.some.inj h ▸ finishCall_moves hc hs _
  · rename_i hs
    exact Option.some.inj h ▸ releaseCall_moves hc hs _ _
  · rename_i hs
    exact Option.some.inj h ▸ commitCall_moves hc hs _ _
  · cases h

end Steps

theorem step_moves {a : Action} (hp : Prompt s a) (h : s.step a = some s') :
    Moves s a.actor s' := by
  cases a with
  | tick now =>
      rw [step, Option.ite_none_right_eq_some, Option.some.injEq] at h
      exact h.2 ▸ .ticked hp
  | enter rpc credentials v =>
      obtain rfl := Option.some.inj h
      cases credentials with
      | none => exact .entered hp rfl rfl
      | some credentials => exact .entered hp rfl rfl
  | call i action =>
      obtain ⟨c, hc, h⟩ := Option.bind_eq_some_iff.mp h
      exact callStep_moves hc h

/-! ## The invariant -/

/-- A call that holds its event has the pending mark of the event; what a call has done, and what a
stored mark says, has been persisted. -/
structure Once (s : Gateways) : Prop where
  device : ∀ {call : ℕ} {c : Call}, s.calls[call]? = some c → ':' ∉ c.sample.deviceUUID.toList
  holds : ∀ {call : ℕ} {c : Call} {since : ℤ}, s.calls[call]? = some c →
    c.stage.since = some since →
      s.marks c.sample.key = some ⟨⟨"pending", call⟩, since + gatewayTelemetryPendingTTL⟩ ∧
        s.now < since + gatewayTelemetryPendingTTL
  done : ∀ {call : ℕ} {c : Call}, s.calls[call]? = some c → c.stage.isDone = true →
    c.sample ∈ s.persisted
  stored : ∀ {key e}, s.marks key = some e → e.value.text = "stored" →
    ∃ v ∈ s.persisted, ':' ∉ v.deviceUUID.toList ∧ v.key = key

/-- Calls that hold one event are one call. -/
theorem Once.call_eq (ho : Once s) {call call' : ℕ} {c c' : Call} {since since' : ℤ}
    (hc : s.calls[call]? = some c) (hc' : s.calls[call']? = some c')
    (hs : c.stage.since = some since) (hs' : c'.stage.since = some since')
    (hk : c.sample.key = c'.sample.key) : call = call' := by
  have hm := (ho.holds hc hs).1
  rw [hk, (ho.holds hc' hs').1] at hm
  simp only [Option.some.injEq, StoreEntry.mk.injEq, Mark.mk.injEq, true_and] at hm
  exact hm.1.symm

/-- The calls after one of them has gone on to another stage. -/
theorem calls_set {call i : ℕ} {c c' : Call} {stage : Stage}
    (h : (s.calls.set call { c with stage := stage })[i]? = some c') :
    (i = call ∧ c' = { c with stage := stage }) ∨ (i ≠ call ∧ s.calls[i]? = some c') := by
  by_cases hi : i = call
  · subst hi
    refine .inl ⟨rfl, ?_⟩
    obtain ⟨hlt, rfl⟩ := List.getElem?_eq_some_iff.mp h
    rw [List.getElem_set_self]
  · rw [List.getElem?_set_ne (Ne.symm hi)] at h
    exact .inr ⟨hi, h⟩

/-- A call goes on while the marks and the list of persisted events become others: the marks of the
other holders are as before, and the call has what its new stage needs. -/
theorem Once.advance (ho : Once s) {call : ℕ} {c : Call} (hc : s.calls[call]? = some c)
    {marks : ExpiringStore ℤ String Mark} {persisted : List Sample} {stage : Stage}
    (hother : ∀ {i c' since}, i ≠ call → s.calls[i]? = some c' → c'.stage.since = some since →
      marks c'.sample.key = s.marks c'.sample.key)
    (hself : ∀ {since}, stage.since = some since →
      marks c.sample.key = some ⟨⟨"pending", call⟩, since + gatewayTelemetryPendingTTL⟩ ∧
        s.now < since + gatewayTelemetryPendingTTL)
    (hdone : stage.isDone = true → c.sample ∈ persisted)
    (hmono : ∀ v ∈ s.persisted, v ∈ persisted)
    (hstored : ∀ {key e}, marks key = some e → e.value.text = "stored" →
      s.marks key = some e ∨ (key = c.sample.key ∧ c.sample ∈ s.persisted)) :
    Once (Gateways.advance ⟨s.now, marks, s.calls, persisted⟩ call c stage) where
  device h := by
    rcases calls_set h with ⟨-, rfl⟩ | ⟨-, h⟩
    · exact @ho.device call c hc
    · exact ho.device h
  holds h hs := by
    rcases calls_set h with ⟨rfl, rfl⟩ | ⟨hi, h⟩
    · exact hself hs
    · obtain ⟨hm, hn⟩ := ho.holds h hs
      exact ⟨(hother hi h hs).trans hm, hn⟩
  done h hd := by
    rcases calls_set h with ⟨-, rfl⟩ | ⟨-, h⟩
    · exact hdone hd
    · exact hmono _ (ho.done h hd)
  stored h ht := by
    rcases hstored h ht with h | ⟨rfl, hv⟩
    · obtain ⟨v, hv, hvk⟩ := ho.stored h ht
      exact ⟨v, hmono v hv, hvk⟩
    · exact ⟨c.sample, hmono _ hv, ho.device hc, rfl⟩

/-- No other call holds the event of a call that holds it. -/
theorem Once.key_ne (ho : Once s) {call : ℕ} {c : Call} {since : ℤ}
    (hc : s.calls[call]? = some c) (hs : c.stage.since = some since) {i : ℕ} {c' : Call}
    {since' : ℤ} (hi : i ≠ call) (hc' : s.calls[i]? = some c') (hs' : c'.stage.since = some since') :
    c'.sample.key ≠ c.sample.key :=
  fun hk => hi (ho.call_eq hc' hc hs' hs hk)

/-! ## What a call may rely on -/

/-- At most one `persistTelemetry` is under way for an event. -/
def OnePersisting (s : Gateways) : Prop :=
  ∀ (call call' : ℕ) (c c' : Call), s.calls[call]? = some c → s.calls[call']? = some c' →
    c.stage.isPersisting = true → c'.stage.isPersisting = true → c.sample = c'.sample →
    call = call'

/-- A call that has returned without an error has its event persisted. -/
def NilAfterPersisted (s : Gateways) : Prop :=
  ∀ c ∈ s.calls, c.stage = .returned none → c.sample ∈ s.persisted

/-- The step starts no `persistTelemetry` of an event that has a stored mark. -/
def StartsUnstored (s : Gateways) (a : Action) : Prop :=
  ∀ (call : ℕ) (c : Call), a = .call call .persist → s.calls[call]? = some c → ¬ s.StoredMark c.sample

/-- A call that returns without an error with this step leaves its event with a stored mark. -/
def NilMarked (s s' : Gateways) : Prop :=
  ∀ (call : ℕ) (c : Call), s'.calls[call]? = some c → c.stage = .returned none →
    s.calls[call]? = some c ∨ s'.StoredMark c.sample

/-- The step leaves a mark that has not expired as it is, unless it is the pending mark of the call
that takes the step. -/
def MarksKept (s : Gateways) (a : Action) (s' : Gateways) : Prop :=
  ∀ key e, s.marks.live s.now key = some e →
    e.value.text = "stored" ∨ a.actor ≠ some e.value.writer → s'.marks key = some e

def sampleEvent : Sample := ⟨"device-01", "event:1"⟩

/-- Two calls with one event and a third one after the first has returned; the second one meets the
reservation of the first. -/
def sampleRun : List Action :=
  [.enter true (some "device-01") sampleEvent, .enter true (some "device-01") sampleEvent,
    .call 0 (.reserve .delivered ""), .call 1 (.reserve .delivered ""), .call 0 .persist,
    .call 1 (.read .delivered), .tick Clock.second, .call 0 (.finish ⟨.ok true, .ok 0⟩),
    .call 0 (.commit .delivered ""), .enter true (some "device-01") sampleEvent,
    .call 2 (.reserve .delivered ""), .call 2 (.read .delivered)]

end Gateways

end GcsSaker.TelemetryStore

/-!
# Reservations and contexts

A call of `StoreTelemetry` sends its commands with the context of its request. While the context is
live Redis answers; once it is done the client refuses the command before it is sent, also the one
that gives the reservation back or marks the event as stored.
-/

namespace GcsSaker.TelemetryStore

open Control (Reply)
open Runs (Along)

/-- The gateways, and the calls whose context is done. -/
structure Requests where
  gateways : Gateways
  done : ℕ → Bool

/-- A step of a call; what Redis replies is settled by the context. -/
inductive Work where
  | reserve (error : String)
  | read
  | persist
  | finish (answer : PersistAnswer)
  | release (error : String)
  | commit (error : String)

def Work.under (reply : Reply) : Work → CallAction
  | .reserve error => .reserve reply error
  | .read => .read reply
  | .persist => .persist
  | .finish answer => .finish answer
  | .release error => .release reply error
  | .commit error => .commit reply error

inductive RequestAction where
  | tick (now : ℤ)
  | enter (rpc : Bool) (credentials : Option String) (sample : Sample)
  | cancel (call : ℕ)
  | work (call : ℕ) (work : Work)

namespace Requests

def initial (now : ℤ) : Requests := ⟨.initial now, fun _ => false⟩

variable (s : Requests)

def reply (call : ℕ) : Reply := if s.done call then .lostBefore else .delivered

def step : RequestAction → Option Requests
  | .tick now => (s.gateways.step (.tick now)).map fun gateways => { s with gateways }
  | .enter rpc credentials v =>
    (s.gateways.step (.enter rpc credentials v)).map fun gateways => { s with gateways }
  | .cancel call => some { s with done := Function.update s.done call true }
  | .work call work =>
    (s.gateways.step (.call call (work.under (s.reply call)))).map fun gateways =>
      { s with gateways }

end Requests

namespace Gateways

variable (s : Gateways)

/-- Nothing keeps a call from reserving the event. -/
def Free (v : Sample) : Prop := s.marks.live s.now v.key = none

/-- The call has still to give its reservation back. -/
def Releasing (call : ℕ) (v : Sample) : Prop :=
  ∃ c ∈ s.calls[call]?, c.sample = v ∧ ∃ since error, c.stage = .releasing since error

/-- The call has still to mark the event as stored. -/
def Committing (call : ℕ) (v : Sample) : Prop :=
  ∃ c ∈ s.calls[call]?, c.sample = v ∧ ∃ since, c.stage = .committing since

end Gateways

/-- A call whose `persistTelemetry` failed leaves the event free when it returns, and one whose
`persistTelemetry` succeeded leaves it marked as stored. -/
def SettlesReservation (s : Requests) : RequestAction → Prop
  | .work call (.release error) => ∀ v s', s.gateways.Releasing call v →
      s.step (.work call (.release error)) = some s' → s'.gateways.Free v
  | .work call (.commit error) => ∀ v s', s.gateways.Committing call v →
      s.step (.work call (.commit error)) = some s' → s'.gateways.StoredMark v
  | _ => True

/-- The context is live when the command is sent, unless the key already is as it should be. -/
def SentInTime (s : Requests) : RequestAction → Prop
  | .work call (.release _) => ∀ v, s.gateways.Releasing call v →
      s.done call = false ∨ s.gateways.Free v
  | .work call (.commit _) => ∀ v, s.gateways.Committing call v →
      s.done call = false ∨ s.gateways.StoredMark v
  | _ => True

section Steps

variable {s s' : Requests} {call : ℕ} {v : Sample} {error : String}

/-- The command that gives the reservation back leaves the event free just if it is sent, or
nothing was to do. -/
theorem release_free (h : s.gateways.Releasing call v) :
    (∀ s', s.step (.work call (.release error)) = some s' → s'.gateways.Free v) ↔
      s.done call = false ∨ s.gateways.Free v := by
  obtain ⟨c, hcall, rfl, since, failure, hstage⟩ := h
  have hstep : s.step (.work call (.release error)) =
      some ⟨s.gateways.releaseCall call c failure (s.reply call) error, s.done⟩ := by
    rw [Requests.step, Gateways.step, Option.mem_def.1 hcall, Option.bind_some]
    unfold Gateways.callStep
    rw [hstage]
    rfl
  rw [hstep]
  simp only [Option.some.injEq, forall_eq']
  cases hdone : s.done call with
  | true =>
      rw [Requests.reply, hdone]
      exact (or_iff_right Bool.noConfusion).symm
  | false =>
      rw [Requests.reply, hdone]
      refine iff_of_true ?_ (.inl rfl)
      rw [Gateways.Free, ExpiringStore.live]
      change (ExpiringStore.erase _ _ _).filter _ = none
      rw [ExpiringStore.erase_self]
      rfl

theorem commit_stored (h : s.gateways.Committing call v) :
    (∀ s', s.step (.work call (.commit error)) = some s' → s'.gateways.StoredMark v) ↔
      s.done call = false ∨ s.gateways.StoredMark v := by
  obtain ⟨c, hcall, rfl, since, hstage⟩ := h
  have hstep : s.step (.work call (.commit error)) =
      some ⟨s.gateways.commitCall call c (s.reply call) error, s.done⟩ := by
    rw [Requests.step, Gateways.step, Option.mem_def.1 hcall, Option.bind_some]
    unfold Gateways.callStep
    rw [hstage]
    rfl
  rw [hstep]
  simp only [Option.some.injEq, forall_eq']
  cases hdone : s.done call with
  | true =>
      rw [Requests.reply, hdone]
      exact (or_iff_right Bool.noConfusion).symm
  | false =>
      rw [Requests.reply, hdone]
      refine iff_of_true ⟨_, ExpiringStore.live_eq_some_iff.2 ⟨ExpiringStore.set_self .., ?_⟩, rfl⟩
        (.inl rfl)
      change s.gateways.now < s.gateways.now + gatewayTelemetryStoredTTL
      have hpos : 0 < gatewayTelemetryStoredTTL := by decide
      omega

theorem settlesReservation_iff (s : Requests) (action : RequestAction) :
    SettlesReservation s action ↔ SentInTime s action := by
  cases action with
  | tick now => exact Iff.rfl
  | enter rpc credentials v => exact Iff.rfl
  | cancel call => exact Iff.rfl
  | work call work =>
      cases work with
      | reserve error => exact Iff.rfl
      | read => exact Iff.rfl
      | persist => exact Iff.rfl
      | finish answer => exact Iff.rfl
      | release error =>
          refine forall_congr' fun v => ?_
          rw [forall_comm]
          exact forall_congr' fun hreleasing => release_free hreleasing
      | commit error =>
          refine forall_congr' fun v => ?_
          rw [forall_comm]
          exact forall_congr' fun hcommitting => commit_stored hcommitting

end Steps

/-- In every run, whatever the calls do between the steps of each other, the calls settle their
reservations if and only if each command that does is sent in time. -/
theorem reservations_settled (now : ℤ) (actions : List RequestAction) :
    Along Requests.step SettlesReservation (.initial now) actions ↔
      Along Requests.step SentInTime (.initial now) actions :=
  @Runs.along_congr _ _ _ _ _ (fun _ => True) (fun s action _ => settlesReservation_iff s action)
    (fun _ _ _ _ _ _ => trivial) _ _ trivial

def position : Sample := ⟨"device-001", "event-1"⟩

/-- The connection of the device drops while the sample is persisted, which fails with it. -/
def dropped : List RequestAction :=
  [.enter false (some "device-001") position, .work 0 (.reserve ""), .work 0 .persist, .cancel 0,
    .work 0 (.finish ⟨.error "", .error "context canceled"⟩), .work 0 (.release "context canceled")]

/-- The same event is sent again, over a connection of its own. -/
def resent : List RequestAction :=
  [.enter false (some "device-001") position, .work 1 (.reserve ""), .work 1 .read]

/-- The reservation stays, and the event that is sent again is refused; nor is an event marked whose
connection drops after it was persisted. -/
theorem reservations_settled_counterexample :
    ¬Along Requests.step SettlesReservation (.initial 0) dropped ∧
      (Runs.run Requests.step (.initial 0) (dropped ++ resent)).map
          (fun s => s.gateways.calls[1]?.map Call.stage) =
        some (some (.returned (some "telemetry event is already being stored"))) ∧
      ¬Along Requests.step SettlesReservation (.initial 0)
        [.enter false (some "device-001") position, .work 0 (.reserve ""), .work 0 .persist,
          .work 0 (.finish ⟨.error "", .ok 200⟩), .cancel 0, .work 0 (.commit "context canceled")] := by
  refine ⟨fun h => ?_, rfl, fun h => ?_⟩
  · have hlast := (((((h.2 _ rfl).2 _ rfl).2 _ rfl).2 _ rfl).2 _ rfl).1
    have hfree := hlast position _ ⟨_, rfl, rfl, _, _, rfl⟩ rfl
    exact nomatch hfree
  · have hlast := (((((h.2 _ rfl).2 _ rfl).2 _ rfl).2 _ rfl).2 _ rfl).1
    obtain ⟨e, hlive, htext⟩ := hlast position _ ⟨_, rfl, rfl, _, rfl⟩ rfl
    have hpending : e.value.text = "pending" := by
      rw [← Option.some.inj hlive]
    exact absurd (hpending.symm.trans htext) (by decide)

end GcsSaker.TelemetryStore
