import GcsSaker.Machines
import GcsSaker.RedisSessionSteps

/-!
# The two session stores agree

While no key has run out, the store in Redis holds the encoded sessions of the store in memory and
the same stream index, so both give the same answers. The stores part only where a version cannot be
raised: Redis refuses the increment that overflows in Go.
-/

namespace GcsSaker.SessionStore

/-! ## Sessions and their hashes -/

/-- A time that a count of milliseconds carries without loss. -/
def WholeMillis (t : ℤ) : Prop :=
  Clock.millisecond ∣ t ∧ Int64.minValue.toInt ≤ Clock.unixMilli t ∧
    Clock.unixMilli t ≤ Int64.maxValue.toInt

instance (t : ℤ) : Decidable (WholeMillis t) :=
  inferInstanceAs (Decidable (Clock.millisecond ∣ t ∧ _ ∧ _))

structure PublishSession.Aligned (v : PublishSession) : Prop where
  publish : WholeMillis v.publishTokenExpiresAt
  renewal : WholeMillis v.renewalTokenExpiresAt
  created : WholeMillis v.createdAt
  updated : WholeMillis v.updatedAt

structure Renewal.Aligned (r : Renewal) : Prop where
  publish : WholeMillis r.publishExpiry
  renewal : WholeMillis r.renewalExpiry
  now : WholeMillis r.now

theorem WholeMillis.ofUnixMilli_unixMilli {t : ℤ} (h : WholeMillis t) :
    Clock.ofUnixMilli (Clock.unixMilli t) = t := by
  obtain ⟨⟨k, rfl⟩, -⟩ := h
  simp only [Clock.ofUnixMilli, Clock.unixMilli, Clock.millisecond]
  omega

theorem parseMillisField_encode {m : SessionHash} {field : SessionField} {t : ℤ}
    (hm : m field = some (millis t)) (ht : WholeMillis t) : parseMillisField m field = some t := by
  have hint : (Int64.ofInt (Clock.unixMilli t)).toInt = Clock.unixMilli t :=
    Int64.toInt_ofInt_of_le ht.2.1 (Int.lt_add_one_of_le ht.2.2)
  have hparse := Decimal.parseInt64_repr (Int64.ofInt (Clock.unixMilli t))
  rw [hint] at hparse
  rw [parseMillisField, SessionHash.text_eq hm, millis, hparse, Option.map_some, hint,
    ht.ofUnixMilli_unixMilli]

theorem decodeStatus_text (status : PublishSessionStatus) :
    decodeStatus status.text = some status := by
  cases status <;> decide

/-- A session survives its encoding. -/
theorem decode_encode {v : PublishSession} (hv : v.Aligned) : decode (encode v) = some v := by
  have htext : ∀ field value, encode v field = some value → (encode v).text field = value :=
    fun _ _ h => SessionHash.text_eq h
  rw [decode, htext .credentialVersion _ rfl, htext .devicePolicyVersion _ rfl,
    htext .renewalVersion _ rfl, htext .renewalHash _ rfl, htext .previousRenewalHash _ rfl,
    htext .status _ rfl, @parseMillisField_encode (encode v) .publishExpires _ rfl hv.publish,
    @parseMillisField_encode (encode v) .renewalExpires _ rfl hv.renewal,
    @parseMillisField_encode (encode v) .created _ rfl hv.created,
    @parseMillisField_encode (encode v) .updated _ rfl hv.updated]
  simp only [Decimal.parseInt64_repr, Base64.decode_encode, decodeStatus_text,
    Option.bind_eq_bind, Option.bind_some]
  rfl

/-! ## Calls of a store -/

inductive StoreCall where
  | save (v : PublishSession)
  | find (id : String)
  | findByStream (streamID : String)
  | rotateRenewal (id : String) (renewal : Renewal)
  | endSession (id : String) (now : ℤ)
  deriving DecidableEq

/-- A call, with the time on the clock of Redis and on the wall clock of the process. -/
structure TimedCall where
  clock : ℤ
  wallClock : ℤ
  call : StoreCall
  deriving DecidableEq

inductive StoreAnswer where
  | saved (error : Option StoreError)
  | found (result : Except StoreError PublishSession)
  | rotated (result : RenewalRotationResult) (error : Option StoreError)
  | ended (error : Option StoreError)

def InMemoryPublishSessionStore.serve (s : InMemoryPublishSessionStore) (a : TimedCall) :
    InMemoryPublishSessionStore × StoreAnswer :=
  match a.call with
  | .save v => (s.save v, .saved none)
  | .find id => (s, .found (s.find id))
  | .findByStream streamID => (s, .found (s.findByStream streamID))
  | .rotateRenewal id renewal =>
    let (s', rotation) := s.rotateRenewal id renewal
    (s', .rotated rotation.result rotation.error)
  | .endSession id now =>
    let (s', err) := s.endSession id now
    (s', .ended err)

/-- A call while Redis executes every command and every reply arrives. -/
def RedisState.serve (digest : String → String) (s : RedisState) (a : TimedCall) :
    RedisState × StoreAnswer :=
  let s := { s with clock := a.clock }
  match a.call with
  | .save v =>
    let (s', err) := s.save digest v a.wallClock ⟨.delivered, .delivered⟩
    (s', .saved err)
  | .find id => (s, .found (s.find id .delivered))
  | .findByStream streamID =>
    (s, .found (s.findByStream digest streamID .delivered .delivered))
  | .rotateRenewal id renewal =>
    let (s', rotation) := s.rotateRenewal digest id renewal a.wallClock
      ⟨.delivered, .delivered, .delivered, .delivered⟩
    (s', .rotated rotation.result rotation.error)
  | .endSession id now =>
    let (s', err) := s.endSession id now .delivered
    (s', .ended err)

/-- The clock of Redis is before the end of every key. -/
structure RedisState.KeysLive (s : RedisState) : Prop where
  sessions : ∀ k entry, s.sessions k = some entry → s.clock < entry.expiresAt
  streams : ∀ k entry, s.streams k = some entry → s.clock < entry.expiresAt

/-- Whole milliseconds, ids and expected hashes that are not empty, and streams among `streams`. -/
def StoreCall.Proper (streams : Set String) : StoreCall → Prop
  | .save v => v.Aligned ∧ v.sessionID ≠ "" ∧ v.streamID ∈ streams
  | .find _ => True
  | .findByStream streamID => streamID ∈ streams
  | .rotateRenewal _ renewal => renewal.Aligned ∧ renewal.expected ≠ []
  | .endSession _ now => WholeMillis now

/-- What the comparison of the stores takes for granted of a call: it is proper, the clock does not
go back, and it is before the end of every key when the call comes and when it returns. -/
structure Allowed (digest : String → String) (streams : Set String)
    (s : InMemoryPublishSessionStore × RedisState) (a : TimedCall) : Prop where
  proper : a.call.Proper streams
  forward : s.2.clock ≤ a.clock
  before : RedisState.KeysLive { s.2 with clock := a.clock }
  after : (s.2.serve digest a).1.KeysLive

/-- The version of a session that is to be renewed can still be raised. -/
def Countable (s : InMemoryPublishSessionStore × RedisState) (a : TimedCall) : Prop :=
  match a.call with
  | .rotateRenewal id _ => ∀ v ∈ s.1.sessions id, v.renewalTokenVersion ≠ Int64.maxValue
  | _ => True

instance (s : InMemoryPublishSessionStore × RedisState) :
    ∀ a : TimedCall, Decidable (Countable s a)
  | ⟨_, _, .rotateRenewal id _⟩ =>
    inferInstanceAs (Decidable (∀ v ∈ s.1.sessions id, v.renewalTokenVersion ≠ Int64.maxValue))
  | ⟨_, _, .save _⟩ => inferInstanceAs (Decidable True)
  | ⟨_, _, .find _⟩ => inferInstanceAs (Decidable True)
  | ⟨_, _, .findByStream _⟩ => inferInstanceAs (Decidable True)
  | ⟨_, _, .endSession _ _⟩ => inferInstanceAs (Decidable True)

/-- The keys in Redis hold what the store in memory holds. -/
structure Holds (digest : String → String) (streams : Set String)
    (m : InMemoryPublishSessionStore) (s : RedisState) : Prop where
  sessions : ∀ id, s.stored id = (m.sessions id).map encode
  streams : ∀ streamID ∈ streams,
    (s.streams (streamIndexKey digest streamID)).map (fun entry => entry.value) =
      m.streams streamID
  aligned : ∀ id v, m.sessions id = some v → v.Aligned
  unnamed : m.sessions "" = none

namespace InMemoryPublishSessionStore

variable (m : InMemoryPublishSessionStore)

theorem put_self (id : String) (v : PublishSession) : (m.put id v).sessions id = some v := by
  simp only [put, Function.update_self]

theorem put_of_ne {id id' : String} (v : PublishSession) (hne : id' ≠ id) :
    (m.put id v).sessions id' = m.sessions id' := by
  simp only [put, Function.update_of_ne hne]

end InMemoryPublishSessionStore

open RedisState

variable {digest : String → String} {streams : Set String} {m : InMemoryPublishSessionStore}
  {s : RedisState}

theorem RedisState.KeysLive.session_eq (hlive : s.KeysLive) (id : String) : s.session id = s.stored id := by
  rw [session, ExpiringStore.live_eq_self (hlive.sessions _), stored]

theorem RedisState.find_of_holds (h : Holds digest streams m s) (hlive : s.KeysLive) (id : String) :
    s.find id .delivered = m.find id := by
  rw [find_delivered, hlive.session_eq, h.sessions, InMemoryPublishSessionStore.find]
  cases hm : m.sessions id with
  | none => rfl
  | some v =>
      rw [Option.map_some]
      simp only [decode_encode (h.aligned id v hm)]

theorem Holds.put {v : PublishSession} (h : Holds digest streams m s) {id : String} (hid : id ≠ "")
    (hv : v.Aligned) (expiresAt : ℤ) :
    Holds digest streams (m.put id v) (s.putSession id (encode v) expiresAt) := by
  refine ⟨fun id' => ?_, h.streams, fun id' v' hv' => ?_, ?_⟩
  · by_cases he : id' = id
    · subst he
      rw [stored_putSession, m.put_self, Option.map_some]
    · rw [stored_putSession_of_ne _ _ _ he, m.put_of_ne v he]
      exact h.sessions id'
  · by_cases he : id' = id
    · subst he
      rw [m.put_self, Option.some.injEq] at hv'
      exact hv' ▸ hv
    · rw [m.put_of_ne v he] at hv'
      exact h.aligned id' v' hv'
  · rw [m.put_of_ne v (Ne.symm hid)]
    exact h.unnamed

theorem RedisState.extendStream_values (s : RedisState) (id streamKey : String) (renewalMs : ℤ) (k : String) :
    ((s.extendStream id streamKey renewalMs).streams k).map (fun entry => entry.value) =
      (s.streams k).map fun entry => entry.value := by
  unfold extendStream
  split_ifs with hnamed
  · by_cases hk : k = streamKey
    · subst hk
      obtain ⟨entry, hlive, hvalue⟩ := (Option.any_eq_true _ _).mp hnamed
      rw [ExpiringStore.live_eq_some_iff] at hlive
      rw [decide_eq_true_iff] at hvalue
      simp only [ExpiringStore.set_self, hlive.1, Option.map_some, hvalue]
    · simp only [ExpiringStore.set_of_ne _ _ _ hk]
  · rfl

/-- Longer lives for stream keys are not seen by the comparison. -/
theorem Holds.extendStream (h : Holds digest streams m s) (id streamKey : String) (renewalMs : ℤ) :
    Holds digest streams m (s.extendStream id streamKey renewalMs) := by
  refine ⟨fun id' => ?_, fun streamID hstream => ?_, h.aligned, h.unnamed⟩
  · rw [stored, extendStream_sessions]
    exact h.sessions id'
  · rw [extendStream_values]
    exact h.streams streamID hstream

theorem Holds.recordSession (h : Holds digest streams m s) (v : PublishSession) (wallClock : ℤ) :
    Holds digest streams m (s.recordSession v wallClock) :=
  ⟨h.sessions, h.streams, h.aligned, h.unnamed⟩

/-! ## One call -/

theorem Holds.save (h : Holds digest streams m s) {v : PublishSession} (hv : v.Aligned)
    (hid : v.sessionID ≠ "") (hstream : v.streamID ∈ streams)
    (hdigest : Set.InjOn digest streams) :
    Holds digest streams (m.save v) (s.saveTransaction digest v) := by
  have hput := h.put hid hv (expireAt v)
  refine ⟨hput.sessions, fun streamID hs => ?_, hput.aligned, hput.unnamed⟩
  have hkey : streamIndexKey digest streamID = streamIndexKey digest v.streamID ↔
      streamID = v.streamID := streamIndexKey_inj.trans (hdigest.eq_iff hs hstream)
  simp only [saveTransaction, InMemoryPublishSessionStore.save]
  by_cases he : streamID = v.streamID
  · subst he
    rw [ExpiringStore.set_self, Function.update_self, Option.map_some]
  · rw [ExpiringStore.set_of_ne _ _ _ (hkey.not.mpr he), Function.update_of_ne he]
    exact h.streams streamID hs

/-- The replies of a call whose round trips all succeed. -/
def delivered : RotateReplies := ⟨.delivered, .delivered, .delivered, .delivered⟩

theorem RedisState.KeysLive.of_finishRotation {id : String} {result : RenewalRotationResult}
    {wallClock : ℤ} (h : (s.finishRotation id result wallClock delivered).1.KeysLive) :
    s.KeysLive := by
  obtain ⟨hsessions, hstreams, hclock⟩ := s.finishRotation_keys id result wallClock delivered
  refine ⟨fun k entry hk => ?_, fun k entry hk => ?_⟩
  · rw [← hclock]
    exact h.sessions k entry (hsessions ▸ hk)
  · rw [← hclock]
    exact h.streams k entry (hstreams ▸ hk)

/-- The read back and the statistics do not disturb a rotation. -/
theorem Holds.finishRotation (h : Holds digest streams m s) {id : String} {v : PublishSession}
    (hm : m.sessions id = some v) (result : RenewalRotationResult) (wallClock : ℤ)
    (hlive : (s.finishRotation id result wallClock delivered).1.KeysLive) :
    Holds digest streams m (s.finishRotation id result wallClock delivered).1 ∧
      (s.finishRotation id result wallClock delivered).2 = ⟨some v, result, none⟩ := by
  have hfind : s.find id .delivered = .ok v := by
    rw [find_of_holds h hlive.of_finishRotation, InMemoryPublishSessionStore.find, hm]
  simp only [RedisState.finishRotation, delivered, hfind, updateStatistics, trip]
  exact ⟨h.recordSession v wallClock, trivial⟩

theorem RedisState.rotateRenewal_of_script {id : String} {v : PublishSession} {renewal : Renewal}
    {wallClock : ℤ} {t : RedisState} {reply : RotateReply} {result : RenewalRotationResult}
    (hfind : s.find id .delivered = .ok v)
    (hscript : s.rotateScript id (streamIndexKey digest v.streamID) renewal.args = (t, reply))
    (hresult : reply.result = some result) :
    s.rotateRenewal digest id renewal wallClock delivered =
      t.finishRotation id result wallClock delivered := by
  rw [rotateRenewal, show delivered.find = .delivered from rfl, hfind]
  simp only [trip, delivered, hscript, hresult]

/-- A rotation in memory and one in Redis have the same result and leave the same sessions. -/
structure SameRotation (digest : String → String) (streams : Set String)
    (inMemory : InMemoryPublishSessionStore × Rotation) (inRedis : RedisState × Rotation) :
    Prop where
  holds : Holds digest streams inMemory.1 inRedis.1
  result : inMemory.2.result = inRedis.2.result
  error : inMemory.2.error = inRedis.2.error

namespace InMemoryPublishSessionStore

variable {id : String} {v : PublishSession} {renewal : Renewal}

end InMemoryPublishSessionStore

open InMemoryPublishSessionStore

/-! ## Every sequence of calls -/

/-- Both stores, side by side. -/
def serveBoth (digest : String → String) (s : InMemoryPublishSessionStore × RedisState)
    (a : TimedCall) : (InMemoryPublishSessionStore × RedisState) × (StoreAnswer × StoreAnswer) :=
  Machines.pair InMemoryPublishSessionStore.serve (RedisState.serve digest) s a

/-! ## Calls whose keys outlive them -/

/-- No key ends before `t` or at `t`. -/
structure RedisState.KeysUntil (s : RedisState) (t : ℤ) : Prop where
  sessions : ∀ k entry, s.sessions k = some entry → t < entry.expiresAt
  streams : ∀ k entry, s.streams k = some entry → t < entry.expiresAt

/-- The expiries that a call asks for are after `t`. -/
def StoreCall.Outlives (t : ℤ) : StoreCall → Prop
  | .save v => t < expireAt v
  | .rotateRenewal _ renewal => t < pexpireAt (Clock.unixMilli renewal.renewalExpiry)
  | _ => True

instance (t : ℤ) : ∀ call : StoreCall, Decidable (call.Outlives t)
  | .save v => inferInstanceAs (Decidable (t < expireAt v))
  | .rotateRenewal _ _ => inferInstanceAs (Decidable (t < pexpireAt _))
  | .find _ => inferInstanceAs (Decidable True)
  | .findByStream _ => inferInstanceAs (Decidable True)
  | .endSession _ _ => inferInstanceAs (Decidable True)

namespace RedisState

variable {t : ℤ}

theorem KeysUntil.rotateScript (h : s.KeysUntil t) {id streamKey : String} {args : RotateArgs}
    (ht : t < pexpireAt args.renewalMs) : (s.rotateScript id streamKey args).1.KeysUntil t := by
  have hcases := rotateScript_cases s id streamKey args
  generalize s.rotateScript id streamKey args = r at hcases ⊢
  cases hcases with
  | absent habsent => exact h
  | kept hash hs reply hkeeps => exact h
  | replayed hash hs expiresAt hexpires hopen hprevious =>
      have hold := h.sessions _ _ (ExpiringStore.live_eq_some_iff.mp hexpires).1
      exact ⟨ExpiringStore.forall_set h.sessions hold, h.streams⟩
  | rotated hash hs hopen hprevious hcurrent version hcount =>
      refine ⟨?_, ?_⟩
      · rw [extendStream_sessions]
        exact ExpiringStore.forall_set h.sessions ht
      · unfold extendStream
        split_ifs
        · exact ExpiringStore.forall_set h.streams ht
        · exact h.streams

theorem KeysUntil.finishRotation (h : s.KeysUntil t) (id : String) (result : RenewalRotationResult)
    (wallClock : ℤ) : (s.finishRotation id result wallClock delivered).1.KeysUntil t := by
  obtain ⟨hsessions, hstreams, -⟩ := s.finishRotation_keys id result wallClock delivered
  refine ⟨?_, ?_⟩
  · rw [hsessions]
    exact h.sessions
  · rw [hstreams]
    exact h.streams

theorem KeysUntil.endScript (h : s.KeysUntil t) (id : String) (nowMs : ℤ) :
    (s.endScript id nowMs).1.KeysUntil t := by
  have hcases := endScript_cases s id nowMs
  generalize s.endScript id nowMs = r at hcases ⊢
  cases hcases with
  | absent habsent => exact h
  | ended hash expiresAt hexpires =>
      have hold := h.sessions _ _ (ExpiringStore.live_eq_some_iff.mp hexpires).1
      exact ⟨ExpiringStore.forall_set h.sessions hold, h.streams⟩

theorem KeysUntil.save (h : s.KeysUntil t) {v : PublishSession} (ht : t < expireAt v) :
    (s.saveTransaction digest v).KeysUntil t :=
  ⟨ExpiringStore.forall_set h.sessions ht, ExpiringStore.forall_set h.streams ht⟩

theorem KeysUntil.rotateRenewal (h : s.KeysUntil t) {id : String} {renewal : Renewal}
    (ht : t < pexpireAt (Clock.unixMilli renewal.renewalExpiry)) (wallClock : ℤ) :
    (s.rotateRenewal digest id renewal wallClock delivered).1.KeysUntil t := by
  cases hfind : s.find id .delivered with
  | error err =>
      rw [RedisState.rotateRenewal, show delivered.find = .delivered from rfl, hfind]
      cases err <;> exact h
  | ok v =>
      generalize hr : s.rotateScript id (streamIndexKey digest v.streamID) renewal.args = r
      have hscript : r.1.KeysUntil t := hr ▸ h.rotateScript ht
      rcases r with ⟨s', reply⟩
      cases hreply : reply.result with
      | none =>
          rw [RedisState.rotateRenewal, show delivered.find = .delivered from rfl, hfind]
          simp only [trip, delivered, hr, hreply]
          exact hscript
      | some result =>
          rw [rotateRenewal_of_script hfind hr hreply]
          exact hscript.finishRotation id result wallClock

theorem KeysUntil.endSession (h : s.KeysUntil t) (id : String) (now : ℤ) :
    (s.endSession id now .delivered).1.KeysUntil t := by
  have hscript := h.endScript id (Clock.unixMilli now)
  simp only [RedisState.endSession, trip]
  generalize s.endScript id (Clock.unixMilli now) = r at hscript
  rcases r with ⟨s', _ | _⟩ <;> exact hscript

theorem KeysUntil.serve (h : s.KeysUntil t) {a : TimedCall} (ht : a.call.Outlives t) :
    (s.serve digest a).1.KeysUntil t := by
  rcases a with ⟨clock, wallClock, call⟩
  have hat : KeysUntil { s with clock := clock } t := ⟨h.sessions, h.streams⟩
  cases call with
  | save v =>
      have hsaved : (saveTransaction { s with clock := clock } digest v).KeysUntil t := hat.save ht
      exact ⟨hsaved.sessions, hsaved.streams⟩
  | find id => exact hat
  | findByStream streamID => exact hat
  | rotateRenewal id renewal => exact hat.rotateRenewal ht wallClock
  | endSession id now => exact hat.endSession id now

end RedisState

/-- Calls in the order of their times, all at `t` at the latest, whose keys live beyond `t`. -/
def InOrder (streams : Set String) (t : ℤ) : ℤ → List TimedCall → Prop
  | _, [] => True
  | clock, a :: acts => a.call.Proper streams ∧ clock ≤ a.clock ∧ a.clock ≤ t ∧
      a.call.Outlives t ∧ InOrder streams t a.clock acts

/-- A renewal of the sample session a second after it was issued. -/
def sampleRenewal : Renewal := ⟨[1], [2], 301 * Clock.second, 3601 * Clock.second, Clock.second⟩

def renewedCalls : List TimedCall :=
  [⟨0, 0, .save sampleSession⟩, ⟨Clock.second, 0, .rotateRenewal "ps_01" sampleRenewal⟩,
    ⟨2 * Clock.second, 0, .findByStream "stream-01"⟩,
    ⟨3 * Clock.second, 0, .endSession "ps_01" (3 * Clock.second)⟩,
    ⟨4 * Clock.second, 0, .find "ps_01"⟩]

/-- The sample session with the largest version there is, and its renewal. -/
def fullCalls : List TimedCall :=
  [⟨0, 0, .save { sampleSession with renewalTokenVersion := Int64.maxValue }⟩,
    ⟨Clock.second, 0, .rotateRenewal "ps_01" sampleRenewal⟩]

def StoreAnswer.rotation? : StoreAnswer → Option (RenewalRotationResult × Option StoreError)
  | .rotated result error => some (result, error)
  | _ => none

end GcsSaker.SessionStore
