import GcsSaker.RedisSessionStore

/-!
# What the session scripts do

The ways a rotation can go on the hash of a session and on the state of Redis, and what the scripts
leave of the other sessions.
-/

namespace GcsSaker.SessionStore

theorem sessionKey_injective : Function.Injective sessionKey :=
  fun _ _ h => (String.append_right_inj keyPrefix).mp h

theorem streamIndexKey_inj {digest : String → String} {streamID streamID' : String} :
    streamIndexKey digest streamID = streamIndexKey digest streamID' ↔
      digest streamID = digest streamID' :=
  String.append_right_inj _

theorem toInt_add_one {n : Int64} (hn : n ≠ Int64.maxValue) : (n + 1).toInt = n.toInt + 1 := by
  have hlt : n.toInt < Int64.maxValue.toInt :=
    lt_of_le_of_ne (Int64.toInt_le n) fun h => hn (Int64.toInt_inj.mp h)
  have hmin := Int64.minValue_le_toInt n
  have hmax : Int64.maxValue.toInt = 9223372036854775807 := by decide
  have hlow : Int64.minValue.toInt = -9223372036854775808 := by decide
  rw [Int64.toInt_add, Int64.toInt_one]
  apply Int.bmod_eq_of_le <;> omega

theorem hincrby_eq_some {field : Option String} {version : ℤ} (h : hincrby field = some version) :
    ∃ n, Decimal.parseInt64 (field.getD "0") = some n ∧ n ≠ Int64.maxValue ∧
      version = (n + 1).toInt := by
  simp only [hincrby, Option.bind_eq_some_iff, Option.ite_none_left_eq_some, Option.some.injEq] at h
  obtain ⟨n, hn, hmax, rfl⟩ := h
  exact ⟨n, hn, hmax, (toInt_add_one hmax).symm⟩

namespace SessionHash

@[simp] theorem set_self (h : SessionHash) (field : SessionField) (value : String) :
    h.set field value field = some value := by
  simp only [set, if_true]

theorem set_of_ne (h : SessionHash) {field field' : SessionField} (value : String)
    (hne : field' ≠ field) : h.set field value field' = h field' := by
  simp only [set, if_neg hne]

theorem text_eq {h : SessionHash} {field : SessionField} {value : String}
    (hf : h field = some value) : h.text field = value := by
  rw [text, hf, Option.getD_some]

theorem endAt_status (h : SessionHash) (nowMs : ℤ) :
    h.endAt nowMs .status = some PublishSessionStatus.ended.text := by
  rw [endAt, set_of_ne _ _ (by decide), set_self]

/-- Ending a session changes its status and the time of its update only. -/
theorem endAt_of_ne (h : SessionHash) (nowMs : ℤ) {field : SessionField}
    (hstatus : field ≠ .status) (hupdated : field ≠ .updated) :
    h.endAt nowMs field = h field := by
  rw [endAt, set_of_ne _ _ hupdated, set_of_ne _ _ hstatus]

theorem rotateTo_renewalHash (h : SessionHash) (args : RotateArgs) (version : ℤ) :
    h.rotateTo args version .renewalHash = some args.next := by
  simp only [rotateTo, set, reduceCtorEq, if_false, if_true]

theorem rotateTo_previous (h : SessionHash) (args : RotateArgs) (version : ℤ) :
    h.rotateTo args version .previousRenewalHash = some (h.text .renewalHash) := by
  simp only [rotateTo, set, reduceCtorEq, if_false, if_true]

theorem rotateTo_version (h : SessionHash) (args : RotateArgs) (version : ℤ) :
    h.rotateTo args version .renewalVersion = some version.repr := by
  simp only [rotateTo, set, reduceCtorEq, if_false, if_true]

/-- The fields that a rotation leaves alone. -/
def isRenewalField : SessionField → Bool
  | .renewalVersion => true
  | .previousRenewalHash => true
  | .renewalHash => true
  | .publishExpires => true
  | .renewalExpires => true
  | .updated => true
  | _ => false

theorem rotateTo_of_not_renewal (h : SessionHash) (args : RotateArgs) (version : ℤ)
    {field : SessionField} (hf : isRenewalField field = false) :
    h.rotateTo args version field = h field := by
  have hne : ∀ f, isRenewalField f = true → field ≠ f := by
    rintro f hf' rfl
    exact absurd (hf.symm.trans hf') Bool.false_ne_true
  rw [rotateTo, set_of_ne _ _ (hne _ rfl), set_of_ne _ _ (hne _ rfl), set_of_ne _ _ (hne _ rfl),
    set_of_ne _ _ (hne _ rfl), set_of_ne _ _ (hne _ rfl), set_of_ne _ _ (hne _ rfl)]

/-- An active session whose renewal has not expired at the time of the call. -/
def Open (h : SessionHash) (nowMs : ℤ) : Prop :=
  h .status = some PublishSessionStatus.active.text ∧
    ∃ expires, Decimal.parse ((h .renewalExpires).getD "0") = some expires ∧ nowMs < expires

/-- The call presents the hash before the current one. -/
def Presents (h : SessionHash) (args : RotateArgs) : Prop :=
  h.text .previousRenewalHash ≠ "" ∧ h.text .previousRenewalHash = args.expected

/-- The replies of `rotateScript` that leave the hash alone. -/
inductive Keeps (h : SessionHash) (args : RotateArgs) : RotateReply → Prop
  | closed (hclosed : ¬ h.Open args.nowMs) : Keeps h args .rejected
  | unreadable (hunreadable : Decimal.parse ((h .renewalExpires).getD "0") = none) :
      Keeps h args .failed
  | mismatched (hprevious : ¬ h.Presents args) (hcurrent : h.text .renewalHash ≠ args.expected) :
      Keeps h args .rejected
  | uncounted (hprevious : ¬ h.Presents args) (hversion : hincrby (h .renewalVersion) = none) :
      Keeps h args .failed

/-- The ways `rotateScript` can go on a hash. -/
inductive Rotates (h : SessionHash) (args : RotateArgs) : SessionHash × RotateReply → Prop
  | kept (reply : RotateReply) (hkeeps : h.Keeps args reply) : Rotates h args (h, reply)
  | replayed (hopen : h.Open args.nowMs) (hprevious : h.Presents args) :
      Rotates h args (h.endAt args.nowMs, .replayed)
  | rotated (hopen : h.Open args.nowMs) (hprevious : ¬ h.Presents args)
      (hcurrent : h.text .renewalHash = args.expected) (version : ℤ)
      (hversion : hincrby (h .renewalVersion) = some version) :
      Rotates h args (h.rotateTo args version, .rotated version)

theorem Keeps.not_replay {h : SessionHash} {args : RotateArgs} {reply : RotateReply}
    (hkeeps : h.Keeps args reply) (hopen : h.Open args.nowMs) : ¬ h.Presents args := by
  cases hkeeps with
  | closed hclosed => exact absurd hopen hclosed
  | unreadable hunreadable =>
      obtain ⟨-, expires, hsome, -⟩ := hopen
      rw [hunreadable] at hsome
      cases hsome
  | mismatched hprevious hcurrent => exact hprevious
  | uncounted hprevious hversion => exact hprevious

theorem Keeps.reply_cases {h : SessionHash} {args : RotateArgs} {reply : RotateReply}
    (hkeeps : h.Keeps args reply) : reply = .rejected ∨ reply = .failed := by
  cases hkeeps with
  | closed | mismatched => exact Or.inl rfl
  | unreadable | uncounted => exact Or.inr rfl

theorem rotate_cases (h : SessionHash) (args : RotateArgs) : Rotates h args (h.rotate args) := by
  unfold rotate
  by_cases hstatus : h .status = some PublishSessionStatus.active.text
  · rw [if_neg (not_not_intro hstatus)]
    cases hexpires : Decimal.parse ((h .renewalExpires).getD "0") with
    | none => exact .kept .failed (.unreadable hexpires)
    | some expires =>
        simp only
        split_ifs with hpast hprevious hcurrent
        · refine .kept .rejected (.closed ?_)
          rintro ⟨-, expires', hsome, hlt⟩
          rw [hexpires, Option.some.injEq] at hsome
          omega
        · exact .replayed ⟨hstatus, expires, hexpires, by omega⟩ hprevious
        · exact .kept .rejected (.mismatched hprevious hcurrent)
        · cases hversion : hincrby (h .renewalVersion) with
          | none => exact .kept .failed (.uncounted hprevious hversion)
          | some version =>
              exact .rotated ⟨hstatus, expires, hexpires, by omega⟩ hprevious
                (not_not.mp hcurrent) version hversion
  · rw [if_pos hstatus]
    exact .kept .rejected (.closed fun hopen => hstatus hopen.1)

end SessionHash

namespace RedisState

variable {s : RedisState}

/-- The hash that a session's key holds, expired or not. -/
def stored (s : RedisState) (id : String) : Option SessionHash :=
  (s.sessions (sessionKey id)).map fun entry => entry.value

theorem session_eq_some_iff {id : String} {h : SessionHash} :
    s.session id = some h ↔
      ∃ entry, s.sessions.live s.clock (sessionKey id) = some entry ∧ entry.value = h := by
  rw [session, Option.map_eq_some_iff]

theorem session_eq_none_iff {id : String} :
    s.session id = none ↔ s.sessions.live s.clock (sessionKey id) = none := by
  rw [session, Option.map_eq_none_iff]

theorem stored_of_session {id : String} {h : SessionHash} (hs : s.session id = some h) :
    s.stored id = some h := by
  obtain ⟨entry, hlive, rfl⟩ := session_eq_some_iff.mp hs
  rw [stored, (ExpiringStore.live_eq_some_iff.mp hlive).1, Option.map_some]

/-- The state with another hash and another end for a session's key. -/
def putSession (s : RedisState) (id : String) (h : SessionHash) (expiresAt : ℤ) : RedisState :=
  { s with sessions := s.sessions.set (sessionKey id) h expiresAt }

theorem stored_putSession (s : RedisState) (id : String) (h : SessionHash) (expiresAt : ℤ) :
    (s.putSession id h expiresAt).stored id = some h := by
  simp only [stored, putSession, ExpiringStore.set_self, Option.map_some]

theorem stored_putSession_of_ne (s : RedisState) {id id' : String} (h : SessionHash)
    (expiresAt : ℤ) (hne : id' ≠ id) : (s.putSession id h expiresAt).stored id' = s.stored id' := by
  simp only [stored, putSession, ExpiringStore.set_of_ne _ _ _ (sessionKey_injective.ne hne)]

theorem session_congr {s s' : RedisState} (hsessions : s'.sessions = s.sessions)
    (hclock : s'.clock = s.clock) (id : String) : s'.session id = s.session id := by
  rw [session, session, hsessions, hclock]

theorem session_putSession (s : RedisState) (id : String) (h : SessionHash) (expiresAt : ℤ) :
    (s.putSession id h expiresAt).session id = if s.clock < expiresAt then some h else none := by
  rw [session, ExpiringStore.live, putSession]
  simp only [ExpiringStore.set_self, Option.filter_some, decide_eq_true_eq]
  split_ifs <;> rfl

theorem session_putSession_of_ne (s : RedisState) {id id' : String} (h : SessionHash)
    (expiresAt : ℤ) (hne : id' ≠ id) : (s.putSession id h expiresAt).session id' = s.session id' := by
  have hkey : (s.putSession id h expiresAt).sessions (sessionKey id') =
      s.sessions (sessionKey id') :=
    ExpiringStore.set_of_ne _ _ _ (sessionKey_injective.ne hne)
  rw [session, ExpiringStore.live, hkey]
  rfl

theorem extendStream_sessions (s : RedisState) (id streamKey : String) (renewalMs : ℤ) :
    (s.extendStream id streamKey renewalMs).sessions = s.sessions := by
  unfold extendStream
  split_ifs <;> rfl

theorem extendStream_statistics (s : RedisState) (id streamKey : String) (renewalMs : ℤ) :
    (s.extendStream id streamKey renewalMs).statistics = s.statistics := by
  unfold extendStream
  split_ifs <;> rfl

theorem extendStream_clock (s : RedisState) (id streamKey : String) (renewalMs : ℤ) :
    (s.extendStream id streamKey renewalMs).clock = s.clock := by
  unfold extendStream
  split_ifs <;> rfl

/-- The ways `rotateScript` can go. -/
inductive Rotates (s : RedisState) (id streamKey : String) (args : RotateArgs) :
    RedisState × RotateReply → Prop
  | absent (habsent : s.session id = none) : Rotates s id streamKey args (s, .rejected)
  | kept (h : SessionHash) (hs : s.session id = some h) (reply : RotateReply)
      (hkeeps : h.Keeps args reply) : Rotates s id streamKey args (s, reply)
  | replayed (h : SessionHash) (hs : s.session id = some h) (expiresAt : ℤ)
      (hexpires : s.sessions.live s.clock (sessionKey id) = some ⟨h, expiresAt⟩)
      (hopen : h.Open args.nowMs) (hprevious : h.Presents args) :
      Rotates s id streamKey args (s.putSession id (h.endAt args.nowMs) expiresAt, .replayed)
  | rotated (h : SessionHash) (hs : s.session id = some h) (hopen : h.Open args.nowMs)
      (hprevious : ¬ h.Presents args) (hcurrent : h.text .renewalHash = args.expected)
      (version : ℤ) (hversion : hincrby (h .renewalVersion) = some version) :
      Rotates s id streamKey args
        ((s.putSession id (h.rotateTo args version) (pexpireAt args.renewalMs)).extendStream id
          streamKey args.renewalMs, .rotated version)

theorem rotateScript_cases (s : RedisState) (id streamKey : String) (args : RotateArgs) :
    Rotates s id streamKey args (s.rotateScript id streamKey args) := by
  unfold rotateScript
  cases hlive : s.sessions.live s.clock (sessionKey id) with
  | none => exact .absent (session_eq_none_iff.mpr hlive)
  | some entry =>
      have hs : s.session id = some entry.value := session_eq_some_iff.mpr ⟨entry, hlive, rfl⟩
      have hrotates := SessionHash.rotate_cases entry.value args
      generalize hr : entry.value.rotate args = r at hrotates
      simp only [hr]
      cases hrotates with
      | kept reply hkeeps =>
          have hkept : Rotates s id streamKey args (s, reply) := .kept entry.value hs reply hkeeps
          rcases hkeeps.reply_cases with rfl | rfl <;> exact hkept
      | replayed hopen hprevious =>
          exact .replayed entry.value hs entry.expiresAt hlive hopen hprevious
      | rotated hopen hprevious hcurrent version hversion =>
          exact .rotated entry.value hs hopen hprevious hcurrent version hversion

/-- The ways `endScript` can go. -/
inductive Ends (s : RedisState) (id : String) (nowMs : ℤ) : RedisState × Bool → Prop
  | absent (habsent : s.session id = none) : Ends s id nowMs (s, false)
  | ended (h : SessionHash) (expiresAt : ℤ)
      (hexpires : s.sessions.live s.clock (sessionKey id) = some ⟨h, expiresAt⟩) :
      Ends s id nowMs ({ s.putSession id (h.endAt nowMs) expiresAt with
        statistics := s.statistics.countStatus id .ended }, true)

theorem endScript_cases (s : RedisState) (id : String) (nowMs : ℤ) :
    Ends s id nowMs (s.endScript id nowMs) := by
  unfold endScript
  cases hlive : s.sessions.live s.clock (sessionKey id) with
  | none => exact .absent (session_eq_none_iff.mpr hlive)
  | some entry => exact .ended entry.value entry.expiresAt hlive

theorem trip_state {α : Type} (s : RedisState) (run : RedisState → RedisState × α)
    {reply : Control.Reply} (hreply : reply ≠ .lostBefore) : (s.trip run reply).1 = (run s).1 := by
  cases reply with
  | lostBefore => exact absurd rfl hreply
  | delivered | lostAfter => rfl

theorem find_delivered (s : RedisState) (id : String) :
    s.find id .delivered = match s.session id with
      | none => .error .notFound
      | some h => match decode h with
        | none => .error .unavailable
        | some v => .ok v := by
  simp only [find, trip]
  cases s.session id with
  | none => rfl
  | some h => cases decode h <;> rfl

theorem find_of_not_delivered {id : String} {reply : Control.Reply} (hreply : reply ≠ .delivered) :
    s.find id reply = .error .unavailable := by
  cases reply with
  | delivered => exact absurd rfl hreply
  | lostBefore | lostAfter => rfl

theorem find_eq_ok {id : String} {reply : Control.Reply} {v : PublishSession}
    (hfind : s.find id reply = .ok v) :
    reply = .delivered ∧ ∃ h, s.session id = some h ∧ decode h = some v := by
  have hreply : reply = .delivered := by
    by_contra hne
    rw [find_of_not_delivered hne] at hfind
    cases hfind
  subst hreply
  rw [find_delivered] at hfind
  cases hs : s.session id with
  | none =>
      rw [hs] at hfind
      cases hfind
  | some h =>
      simp only [hs] at hfind
      cases hd : decode h with
      | none =>
          rw [hd] at hfind
          cases hfind
      | some v' =>
          simp only [hd, Except.ok.injEq] at hfind
          exact ⟨rfl, h, rfl, hfind ▸ hd⟩

/-- The read back and the statistics of a rotation leave the sessions and the streams alone. -/
theorem finishRotation_keys (s : RedisState) (id : String) (result : RenewalRotationResult)
    (wallClock : ℤ) (replies : RotateReplies) :
    (s.finishRotation id result wallClock replies).1.sessions = s.sessions ∧
      (s.finishRotation id result wallClock replies).1.streams = s.streams ∧
      (s.finishRotation id result wallClock replies).1.clock = s.clock := by
  unfold finishRotation
  cases s.find id replies.readBack with
  | error err => exact ⟨rfl, rfl, rfl⟩
  | ok v =>
      simp only [updateStatistics]
      cases replies.statistics <;> exact ⟨rfl, rfl, rfl⟩

end RedisState
end GcsSaker.SessionStore
