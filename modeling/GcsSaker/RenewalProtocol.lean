import GcsSaker.Machines
import GcsSaker.RedisSessionSteps

/-!
# The renewal protocol

Any order of rotate and end scripts on the sessions in Redis. A rotation moves the presented hash
from current to previous and puts a new one in its place; as no hash is used for two renewals, a
presented hash is exchanged at most once. A session that has ended stays so.
-/

namespace GcsSaker.SessionStore

/-- A call of one of the two scripts, or a new time on the clock of Redis. -/
inductive ScriptCall where
  | rotate (id streamKey : String) (args : RotateArgs)
  | finish (id : String) (nowMs : ℤ)
  | tick (clock : ℤ)
  deriving DecidableEq

inductive ScriptAnswer where
  | rotation (reply : RotateReply)
  | finished (found : Bool)
  | ticked
  deriving DecidableEq

namespace RedisState

def runScript (s : RedisState) : ScriptCall → RedisState × ScriptAnswer
  | .rotate id streamKey args =>
    ((s.rotateScript id streamKey args).1, .rotation (s.rotateScript id streamKey args).2)
  | .finish id nowMs => ((s.endScript id nowMs).1, .finished (s.endScript id nowMs).2)
  | .tick clock => ({ s with clock := clock }, .ticked)

end RedisState

/-- The hash that the call presents and has exchanged for the next one, if it is a rotation of the
session that was answered `rotated`. -/
def exchanged? (id : String) : ScriptCall × ScriptAnswer → Option String
  | (.rotate id' _ args, .rotation (.rotated _)) => if id' = id then some args.expected else none
  | _ => none

/-- The call ended the session: by an end script that found it, or as a replay. -/
def endsSession (id : String) : ScriptCall × ScriptAnswer → Bool
  | (.rotate id' _ _, .rotation .replayed) => decide (id' = id)
  | (.finish id' _, .finished true) => decide (id' = id)
  | _ => false

/-- The hash that a rotation of the session would put in place. -/
def nextHash? (id : String) : ScriptCall → Option String
  | .rotate id' _ args => if id' = id then some args.next else none
  | _ => none

/-- The renewal hashes that a session has or is given: its current one, then those of the calls. -/
def renewalHashes (s : RedisState) (id : String) (calls : List ScriptCall) : List String :=
  ((s.stored id).map fun h => h.text .renewalHash).toList ++ calls.filterMap (nextHash? id)

/-- The version of a session's renewal token, which Redis takes for 0 when it is not set. -/
def SessionHash.version (h : SessionHash) : Option Int64 :=
  Decimal.parseInt64 ((h .renewalVersion).getD "0")

/-- What one rotation of a session does, by the hash that it presents. -/
structure RotatesByHash (s : RedisState) (id streamKey : String) (args : RotateArgs) : Prop where
  rotated : ∀ version, (s.rotateScript id streamKey args).2 = .rotated version →
    ∃ h h' n n', s.session id = some h ∧ (s.rotateScript id streamKey args).1.stored id = some h' ∧
      h.version = some n ∧ h'.version = some n' ∧ n'.toInt = n.toInt + 1 ∧
      h.text .renewalHash = args.expected ∧ h'.text .previousRenewalHash = args.expected ∧
      h'.text .renewalHash = args.next
  replayed : ∀ h, s.session id = some h → h.Open args.nowMs → h.Presents args →
    (s.rotateScript id streamKey args).2 = .replayed ∧
      ∃ h', (s.rotateScript id streamKey args).1.session id = some h' ∧
        h' .status = some PublishSessionStatus.ended.text
  otherwise : ∀ h, s.session id = some h → h.text .renewalHash ≠ args.expected →
    ¬ h.Presents args → (s.rotateScript id streamKey args).1 = s

namespace RedisState

theorem rotatesByHash (s : RedisState) (id streamKey : String) (args : RotateArgs) :
    RotatesByHash s id streamKey args := by
  have hcases := rotateScript_cases s id streamKey args
  constructor
  case rotated =>
    intro version hreply
    generalize s.rotateScript id streamKey args = r at hcases hreply ⊢
    cases hcases with
    | absent habsent => cases hreply
    | kept h hs reply hkeeps =>
        subst hreply
        cases hkeeps
    | replayed h hs expiresAt hexpires hopen hprevious => cases hreply
    | rotated h hs hopen hprevious hcurrent version' hversion =>
        obtain ⟨n, hn, hmax, rfl⟩ := hincrby_eq_some hversion
        refine ⟨h, h.rotateTo args (n + 1).toInt, n, n + 1, hs, ?_, hn, ?_, toInt_add_one hmax,
          hcurrent, ?_, ?_⟩
        · rw [stored, extendStream_sessions]
          exact stored_putSession s id _ _
        · rw [SessionHash.version, SessionHash.rotateTo_version, Option.getD_some,
            Decimal.parseInt64_repr]
        · rw [SessionHash.text_eq (SessionHash.rotateTo_previous h args _), hcurrent]
        · exact SessionHash.text_eq (SessionHash.rotateTo_renewalHash h args _)
  case replayed =>
    intro h hs hopen hprevious
    generalize s.rotateScript id streamKey args = r at hcases ⊢
    cases hcases with
    | absent habsent =>
        rw [hs] at habsent
        cases habsent
    | kept h' hs' reply hkeeps =>
        rw [hs, Option.some.injEq] at hs'
        subst hs'
        exact absurd hprevious (hkeeps.not_replay hopen)
    | replayed h' hs' expiresAt hexpires hopen' hprevious' =>
        refine ⟨rfl, h'.endAt args.nowMs, ?_, SessionHash.endAt_status h' args.nowMs⟩
        apply session_eq_some_iff.mpr
        refine ⟨⟨_, expiresAt⟩, ?_, rfl⟩
        rw [ExpiringStore.live_eq_some_iff] at hexpires ⊢
        exact ⟨ExpiringStore.set_self _ _ _ _, hexpires.2⟩
    | rotated h' hs' hopen' hnot hcurrent version hversion =>
        rw [hs, Option.some.injEq] at hs'
        subst hs'
        exact absurd hprevious hnot
  case otherwise =>
    intro h hs hcurrent hprevious
    generalize s.rotateScript id streamKey args = r at hcases ⊢
    cases hcases with
    | absent habsent => rfl
    | kept h' hs' reply hkeeps => rfl
    | replayed h' hs' expiresAt hexpires hopen hpresents =>
        rw [hs, Option.some.injEq] at hs'
        subst hs'
        exact absurd hpresents hprevious
    | rotated h' hs' hopen hnot hcurrent' version hversion =>
        rw [hs, Option.some.injEq] at hs'
        subst hs'
        exact absurd hcurrent' hcurrent

/-- What one call does to the hash of a session: it keeps it, ends it, or exchanges the renewal
hash. -/
inductive Touches (s : RedisState) (id : String) (call : ScriptCall)
    (r : RedisState × ScriptAnswer) : Prop
  | kept (hstored : r.1.stored id = s.stored id) (hexchanged : exchanged? id (call, r.2) = none)
      (hends : endsSession id (call, r.2) = false)
  | ended (h : SessionHash) (hold : s.stored id = some h) (nowMs : ℤ)
      (hstored : r.1.stored id = some (h.endAt nowMs))
      (hexchanged : exchanged? id (call, r.2) = none)
  | exchanged (h : SessionHash) (hold : s.stored id = some h) (args : RotateArgs) (version : ℤ)
      (hopen : h.Open args.nowMs) (hstored : r.1.stored id = some (h.rotateTo args version))
      (hexchanged : exchanged? id (call, r.2) = some (h.text .renewalHash))
      (hnext : nextHash? id call = some args.next) (hends : endsSession id (call, r.2) = false)

theorem rotate_touches (s : RedisState) (id id' streamKey : String) (args : RotateArgs) :
    Touches s id (.rotate id' streamKey args) (s.runScript (.rotate id' streamKey args)) := by
  have hcases := rotateScript_cases s id' streamKey args
  simp only [runScript]
  generalize s.rotateScript id' streamKey args = r at hcases ⊢
  cases hcases with
  | absent habsent => exact .kept rfl rfl rfl
  | kept h hs reply hkeeps =>
      rcases hkeeps.reply_cases with rfl | rfl
      · exact .kept rfl rfl rfl
      · exact .kept rfl rfl rfl
  | replayed h hs expiresAt hexpires hopen hprevious =>
      by_cases hid : id = id'
      · subst hid
        exact .ended h (stored_of_session hs) args.nowMs (stored_putSession s id _ _) rfl
      · have hends : decide (id' = id) = false := decide_eq_false (Ne.symm hid)
        exact .kept (stored_putSession_of_ne s _ _ hid) rfl hends
  | rotated h hs hopen hprevious hcurrent version hversion =>
      have hstream : ∀ t : RedisState,
          (t.extendStream id' streamKey args.renewalMs).stored id = t.stored id := by
        intro t
        rw [stored, extendStream_sessions, stored]
      by_cases hid : id = id'
      · subst hid
        refine .exchanged h (stored_of_session hs) args version hopen ?_ ?_ (if_pos rfl) rfl
        · exact (hstream _).trans (stored_putSession s id _ _)
        · rw [hcurrent]
          exact if_pos rfl
      · refine .kept ?_ (if_neg (Ne.symm hid)) rfl
        exact (hstream _).trans (stored_putSession_of_ne s _ _ hid)

theorem finish_touches (s : RedisState) (id id' : String) (nowMs : ℤ) :
    Touches s id (.finish id' nowMs) (s.runScript (.finish id' nowMs)) := by
  have hcases := endScript_cases s id' nowMs
  simp only [runScript]
  generalize s.endScript id' nowMs = r at hcases ⊢
  cases hcases with
  | absent habsent => exact .kept rfl rfl rfl
  | ended h expiresAt hexpires =>
      by_cases hid : id = id'
      · subst hid
        have hold := stored_of_session (session_eq_some_iff.mpr ⟨_, hexpires, rfl⟩)
        exact .ended h hold nowMs (stored_putSession s id _ _) rfl
      · have hends : decide (id' = id) = false := decide_eq_false (Ne.symm hid)
        exact .kept (stored_putSession_of_ne s _ _ hid) rfl hends

theorem runScript_touches (s : RedisState) (id : String) (call : ScriptCall) :
    Touches s id call (s.runScript call) := by
  cases call with
  | rotate id' streamKey args => exact rotate_touches s id id' streamKey args
  | finish id' nowMs => exact finish_touches s id id' nowMs
  | tick clock => exact .kept rfl rfl rfl

/-! ## Each hash is exchanged once -/

/-- A call that keeps the renewal hash leaves the hashes of the remaining calls; an exchange takes
the first of them away. -/
theorem renewalHashes_cons {s : RedisState} {id : String} {call : ScriptCall}
    {calls : List ScriptCall} :
    (exchanged? id (call, (s.runScript call).2) = none ∧
      (renewalHashes (s.runScript call).1 id calls).Sublist (renewalHashes s id (call :: calls))) ∨
    ∃ hash, exchanged? id (call, (s.runScript call).2) = some hash ∧
      renewalHashes s id (call :: calls) = hash :: renewalHashes (s.runScript call).1 id calls := by
  have hkept : ∀ l : List String, (l ++ calls.filterMap (nextHash? id)).Sublist
      (l ++ (call :: calls).filterMap (nextHash? id)) := by
    intro l
    apply List.Sublist.append (List.Sublist.refl l)
    exact (List.sublist_cons_self call calls).filterMap _
  have htouches := runScript_touches s id call
  generalize s.runScript call = r at htouches ⊢
  cases htouches with
  | kept hstored hexchanged hends =>
      refine Or.inl ⟨hexchanged, ?_⟩
      rw [renewalHashes, hstored]
      exact hkept _
  | ended h hold nowMs hstored hexchanged =>
      refine Or.inl ⟨hexchanged, ?_⟩
      have hsame : (h.endAt nowMs).text .renewalHash = h.text .renewalHash := by
        rw [SessionHash.text, SessionHash.endAt_of_ne h nowMs (by decide) (by decide),
          SessionHash.text]
      rw [renewalHashes, renewalHashes, hstored, hold, Option.map_some, Option.map_some, hsame]
      exact hkept _
  | exchanged h hold args version hopen hstored hexchanged hnext hends =>
      refine Or.inr ⟨_, hexchanged, ?_⟩
      rw [renewalHashes, renewalHashes, hstored, hold, List.filterMap_cons_some hnext,
        Option.map_some, Option.map_some,
        SessionHash.text_eq (SessionHash.rotateTo_renewalHash h args version)]
      rfl

/-- The presented hashes that a run exchanges are different renewal hashes. -/
theorem exchanged_nodup {id : String} {calls : List ScriptCall} {s : RedisState}
    (hfresh : (renewalHashes s id calls).Nodup) :
    ((Machines.trace runScript s calls).filterMap (exchanged? id)).Nodup ∧
      (Machines.trace runScript s calls).filterMap (exchanged? id) ⊆ renewalHashes s id calls := by
  induction calls generalizing s with
  | nil => exact ⟨List.nodup_nil, List.nil_subset _⟩
  | cons call calls ih =>
      rw [Machines.trace]
      rcases renewalHashes_cons with ⟨hnone, hsub⟩ | ⟨hash, hsome, hcons⟩
      · obtain ⟨hnodup, hmem⟩ := ih (hfresh.sublist hsub)
        rw [List.filterMap_cons_none hnone]
        exact ⟨hnodup, List.Subset.trans hmem hsub.subset⟩
      · rw [hcons, List.nodup_cons] at hfresh
        obtain ⟨hnodup, hmem⟩ := ih hfresh.2
        rw [List.filterMap_cons_some hsome, hcons]
        refine ⟨List.nodup_cons.mpr ⟨fun hin => hfresh.1 (hmem hin), hnodup⟩, ?_⟩
        exact List.cons_subset_cons hash hmem

/-! ## What has ended stays so -/

/-- The session's key holds no active session. -/
def Closed (id : String) (s : RedisState) : Prop :=
  ∀ h, s.stored id = some h → h .status ≠ some PublishSessionStatus.active.text

theorem closed_of_ended {id : String} {s : RedisState} {h : SessionHash} {nowMs : ℤ}
    (hs : s.stored id = some (h.endAt nowMs)) : s.Closed id := by
  intro h' hs'
  rw [hs, Option.some.injEq] at hs'
  rw [← hs', SessionHash.endAt_status]
  decide

theorem runScript_closed {s : RedisState} {id : String} (hclosed : s.Closed id)
    (call : ScriptCall) : (s.runScript call).1.Closed id ∧
      exchanged? id (call, (s.runScript call).2) = none := by
  have htouches := runScript_touches s id call
  generalize s.runScript call = r at htouches ⊢
  cases htouches with
  | kept hstored hexchanged hends =>
      refine ⟨fun h hs => hclosed h ?_, hexchanged⟩
      rw [← hstored, hs]
  | ended h hold nowMs hstored hexchanged => exact ⟨closed_of_ended hstored, hexchanged⟩
  | exchanged h hold args version hopen hstored hexchanged hnext hends =>
      exact absurd hopen.1 (hclosed h hold)

theorem closed_of_endsSession {s : RedisState} {id : String} {call : ScriptCall}
    (hends : endsSession id (call, (s.runScript call).2) = true) :
    (s.runScript call).1.Closed id := by
  have htouches := runScript_touches s id call
  generalize s.runScript call = r at htouches hends ⊢
  cases htouches with
  | kept hstored hexchanged hfalse =>
      rw [hends] at hfalse
      cases hfalse
  | ended h hold nowMs hstored hexchanged => exact closed_of_ended hstored
  | exchanged h hold args version hopen hstored hexchanged hnext hfalse =>
      rw [hends] at hfalse
      cases hfalse

/-- The renewal protocol, for any session in any state of Redis and any order of scripts in which no
renewal hash is used twice: a hash is exchanged at most once, every rotation goes by the hash it
presents, and nothing is exchanged after the session has ended. -/
theorem run_renewals {s : RedisState} {id : String} {calls : List ScriptCall}
    (hfresh : (renewalHashes s id calls).Nodup) :
    (∀ hash, ((Machines.trace runScript s calls).filterMap (exchanged? id)).count hash ≤ 1) ∧
    (∀ before streamKey args after, calls = before ++ .rotate id streamKey args :: after →
      RotatesByHash (Machines.final runScript s before) id streamKey args) ∧
    (∀ before call after t, calls = before ++ call :: after →
      t = Machines.final runScript s before →
      endsSession id (call, (t.runScript call).2) = true →
      ∀ e ∈ Machines.trace runScript (t.runScript call).1 after, exchanged? id e = none) := by
  refine ⟨List.nodup_iff_count_le_one.mp (exchanged_nodup hfresh).1, ?_, ?_⟩
  · intro before streamKey args after _
    exact rotatesByHash _ id streamKey args
  · intro before call after t _ _ hends
    exact @Machines.trace_forall _ _ _ runScript (Closed id)
      (fun call' answer => exchanged? id (call', answer) = none)
      (fun _ call' hclosed => runScript_closed hclosed call') _ _ (closed_of_endsSession hends)

/-- A rotation of the stored session one second after it was issued. -/
def sampleRotate (expected next : List UInt8) : ScriptCall :=
  .rotate "ps_01" (streamIndexKey (fun stream => stream) "stream-01")
    (Renewal.args ⟨expected, next, 301 * Clock.second, 3601 * Clock.second, Clock.second⟩)

/-- The publisher renews its token, somebody presents the old token once more, and the publisher
comes back with its new one. -/
def stolenCalls : List ScriptCall :=
  [sampleRotate [1] [2], sampleRotate [1] [3], sampleRotate [2] [4]]

example : (Machines.trace runScript storedSample stolenCalls).map (fun e => e.2) =
    [.rotation (.rotated 2), .rotation .replayed, .rotation .rejected] := by
  decide +kernel

theorem run_renewals_stolen :
    (∀ hash, ((Machines.trace runScript storedSample stolenCalls).filterMap
      (exchanged? "ps_01")).count hash ≤ 1) ∧
    (∀ before streamKey args after, stolenCalls = before ++ .rotate "ps_01" streamKey args :: after →
      RotatesByHash (Machines.final runScript storedSample before) "ps_01" streamKey args) ∧
    (∀ before call after t, stolenCalls = before ++ call :: after →
      t = Machines.final runScript storedSample before →
      endsSession "ps_01" (call, (t.runScript call).2) = true →
      ∀ e ∈ Machines.trace runScript (t.runScript call).1 after, exchanged? "ps_01" e = none) :=
  run_renewals (by decide +kernel)

end RedisState

end GcsSaker.SessionStore
