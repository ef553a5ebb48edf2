import GcsSaker.UseLimitedTokens
import GcsSaker.UseLimits
import Mathlib

/-!
# Tokens are used no more than they allow

To each token its repository is a ticket: what the calls that name the token are answered, and what
becomes of its record, is what the ticket says, whichever calls come between. Postgres reads the
clock in microseconds, which keeps the order of the instants.
-/

namespace GcsSaker.UseLimitedTokens

open Groups (require_eq_ok_iff)
open KeyedDelta (find find_some find_eq_none_iff find_eq_some_iff)
open KeyedRows (put find_put nodup_put)
open Machines (Along final trace)
open PostgresColumns (Fits varchar varchar_of_fits isBlank_of_varchar toMicros timestamptz
  text_of_textParameter)
open UseLimits (Event Kept Ticket uses)

variable {kind : TokenKind}

/-! ## What should hold -/

/-- A record as it is issued. Its identity is a UUID, which fits the columns of both tables. -/
structure Issued (record : TokenRecord kind) : Prop where
  tokenId : Fits 64 record.tokenId
  valid : kind.init record = .ok ()
  active : record.status = .active
  unused : record.usedCount = 0
  maxUses : 0 < record.maxUses

/-- The event of a token that a call and its answer are. -/
def eventOf (tokenId : String) : Call kind × Answer kind → Option (Event ℤ × Bool)
  | (.consume tokenId' now, .consumed success) =>
    if tokenId' = tokenId then some (.use now, success) else none
  | (.revoke tokenId' _ _, .revoked success) =>
    if tokenId' = tokenId then some (.withdraw, success) else none
  | _ => none

/-- What the calls that name a token were answered, from a state of the repository on. -/
def history (repository : Repository kind) (tokenId : String) (tokens : Tokens kind)
    (calls : List (Call kind)) : List (Event ℤ × Bool) :=
  (trace repository.step tokens calls).filterMap (eventOf tokenId)

/-- The token is used as its record says, and its row in the end tells how often. -/
structure UseLimited (repository : Repository kind) (tokens : Tokens kind)
    (record : TokenRecord kind) (calls : List (Call kind)) : Prop where
  kept : Kept record.maxUses record.expiresAt (history repository record.tokenId tokens calls)
  stored : ∃ stored,
    find TokenRecord.tokenId record.tokenId (final repository.step tokens calls) = some stored ∧
      stored.maxUses = record.maxUses ∧
        stored.usedCount = uses (history repository record.tokenId tokens calls) ∧
          (stored.status = .exhausted ↔ stored.usedCount = stored.maxUses)

/-- Tokens are saved as they are issued. A map would replace a token of the same identity. -/
def Repository.Admissible (repository : Repository kind) (tokens : Tokens kind) : Call kind → Prop
  | .save record _ => Issued record ∧
    match repository with
    | .inMemory => ∀ token ∈ tokens, token.tokenId ≠ record.tokenId
    | .jdbc _ => True
  | _ => True

/-- What the services save is issued so. -/
theorem issued_issue {command : IssueCommand kind} {known : Option (Groups.GroupId → Bool)}
    {tokenId tokenHash : String} (htokenId : Fits 64 tokenId) {now : ℤ} {record : TokenRecord kind}
    (h : issue command known tokenId tokenHash now = .ok record) : Issued record := by
  unfold issue at h
  obtain ⟨hvalid, h⟩ := CheckedSteps.check_bind_eq_ok_iff.1 h
  obtain ⟨groupId, -, h⟩ := CheckedSteps.bind_eq_ok_iff.1 h
  obtain ⟨-, h⟩ := CheckedSteps.check_bind_eq_ok_iff.1 h
  obtain ⟨hinit, h⟩ := CheckedSteps.check_bind_eq_ok_iff.1 h
  cases h
  refine ⟨htokenId, hinit, rfl, rfl, ?_⟩
  cases kind with
  | deviceProvisioning =>
      unfold TokenKind.validateIssueCommand at hvalid
      simp only [CheckedSteps.check_bind_eq_ok_iff, require_eq_ok_iff] at hvalid
      exact hvalid.2.2.2.1.1
  | signupRegistration =>
      unfold TokenKind.validateIssueCommand at hvalid
      simp only [CheckedSteps.check_bind_eq_ok_iff, require_eq_ok_iff] at hvalid
      exact hvalid.2.2.2.2.2.1

/-! ## Tickets -/

def stage : TokenStatus → UseLimits.Stage
  | .active => .active
  | .exhausted => .spent
  | .revoked => .withdrawn
  | .expired => .withdrawn

def ticket (record : TokenRecord kind) : Ticket ℤ :=
  ⟨record.maxUses, record.expiresAt, record.usedCount, stage record.status⟩

theorem stage_eq_active_iff (status : TokenStatus) : stage status = .active ↔ status = .active := by
  cases status <;> simp only [stage, reduceCtorEq]

/-- What one call does to the token that it names. -/
structure Asked (tokens : Tokens kind) (tokenId : String) (event : Event ℤ)
    (result : Tokens kind × Bool) : Prop where
  missing : find TokenRecord.tokenId tokenId tokens = none → result = (tokens, false)
  present : ∀ current, find TokenRecord.tokenId tokenId tokens = some current →
    (UseLimits.step (ticket current) event = (ticket current, false) ∧ result = (tokens, false)) ∨
      ∃ changed, changed.tokenId = tokenId ∧
        (kind.init current = .ok () → kind.init changed = .ok ()) ∧
          UseLimits.step (ticket current) event = (ticket changed, true) ∧
            result = (put TokenRecord.tokenId tokens changed, true)

theorem statusAfterUse_active (kind : TokenKind) :
    kind.statusAfterUse .active = .active := by
  cases kind <;> rfl

theorem status_of_activeAt {record : TokenRecord kind} {now : ℤ}
    (h : record.activeAt now = true) : record.status = .active := by
  simp only [TokenRecord.activeAt, Bool.and_eq_true, decide_eq_true_eq] at h
  exact h.1.1

theorem ticket_use {current changed : TokenRecord kind}
    (hmaxUses : changed.maxUses = current.maxUses) (hexpires : changed.expiresAt = current.expiresAt)
    (hused : changed.usedCount = current.usedCount + 1)
    (hstatus : changed.status =
      if current.maxUses ≤ current.usedCount + 1 then .exhausted else .active) :
    (ticket current).use = ticket changed := by
  unfold Ticket.use ticket
  rw [hmaxUses, hexpires, hused, hstatus, apply_ite stage]
  rfl

/-- A use of a token that is active, and one of a token that is not. -/
theorem step_use (record : TokenRecord kind) (now : ℤ) :
    UseLimits.step (ticket record) (.use now) =
      if record.activeAt now = true then ((ticket record).use, true) else (ticket record, false) := by
  unfold UseLimits.step TokenRecord.activeAt
  simp only [ticket, stage_eq_active_iff, Bool.and_eq_true, decide_eq_true_eq, and_assoc]

theorem step_withdraw (record : TokenRecord kind) :
    UseLimits.step (ticket record) .withdraw =
      if record.status = .active then ({ ticket record with stage := .withdrawn }, true)
      else (ticket record, false) := by
  unfold UseLimits.step
  simp only [ticket, stage_eq_active_iff]

/-- The check of a record is about nothing but its texts and its counts. -/
theorem init_of_counts {current changed : TokenRecord kind} (h : kind.init current = .ok ())
    (htexts : changed.tokenId = current.tokenId ∧ changed.tokenHash = current.tokenHash ∧
      changed.label = current.label ∧ changed.createdBy = current.createdBy)
    (hmaxUses : changed.maxUses = current.maxUses)
    (hused : current.usedCount ≤ changed.usedCount ∧
      (current.usedCount ≤ current.maxUses → changed.usedCount ≤ changed.maxUses)) :
    kind.init changed = .ok () := by
  cases kind with
  | deviceProvisioning =>
      simp only [TokenKind.init, CheckedSteps.check_bind_eq_ok_iff, require_eq_ok_iff] at h ⊢
      obtain ⟨htokenId, htokenHash, hlabel, hcreatedBy⟩ := htexts
      obtain ⟨hid, hhash, hlabelNotBlank, hpositive, hcount, hcreator⟩ := h
      rw [htokenId, htokenHash, hlabel, hcreatedBy, hmaxUses]
      have hle := hused.2 hcount.2
      exact ⟨hid, hhash, hlabelNotBlank, hpositive, ⟨hcount.1.trans hused.1, hmaxUses ▸ hle⟩,
        hcreator⟩
  | signupRegistration => rfl

theorem inMemory_consume (tokens : Tokens kind) (tokenId : String) (now : ℤ) :
    Asked tokens tokenId (.use now) (InMemory.consume tokens tokenId now) := by
  refine ⟨fun hnone => ?_, fun current hfind => ?_⟩
  · rw [InMemory.consume, hnone, Option.filter_none]
  · rw [step_use, InMemory.consume, hfind]
    by_cases hactive : current.activeAt now = true
    · rw [Option.filter_some, if_pos hactive, if_pos hactive]
      refine .inr ⟨_, ?_, fun hvalid => ?_, ?_, rfl⟩
      · exact (find_some hfind).2
      · simp only [TokenRecord.activeAt, Bool.and_eq_true, decide_eq_true_eq] at hactive
        refine init_of_counts hvalid ⟨rfl, rfl, rfl, rfl⟩ rfl ⟨?_, fun _ => ?_⟩
        · exact Int.le_add_one (le_refl _)
        · exact hactive.1.2
      · refine Prod.ext (ticket_use rfl rfl rfl ?_) rfl
        rw [status_of_activeAt hactive, statusAfterUse_active]
    · rw [Option.filter_some, if_neg hactive, if_neg hactive]
      exact .inl ⟨rfl, rfl⟩

theorem inMemory_revoke (tokens : Tokens kind) (tokenId revokedBy : String) (now : ℤ) :
    Asked tokens tokenId .withdraw (InMemory.revoke tokens tokenId revokedBy now) := by
  refine ⟨fun hnone => ?_, fun current hfind => ?_⟩
  · rw [InMemory.revoke, hnone, Option.filter_none]
  · rw [step_withdraw, InMemory.revoke, hfind]
    by_cases hactive : current.status = .active
    · rw [Option.filter_some, if_pos (decide_eq_true hactive), if_pos hactive]
      refine .inr ⟨_, ?_, fun hvalid => ?_, rfl, rfl⟩
      · exact (find_some hfind).2
      · exact init_of_counts hvalid ⟨rfl, rfl, rfl, rfl⟩ rfl ⟨le_refl _, id⟩
    · rw [Option.filter_some, if_neg hactive]
      refine .inl ⟨rfl, ?_⟩
      rw [decide_eq_false hactive]
      rfl

/-! ## Statements -/

theorem update_of_find {tokens : Tokens kind} {tokenId : String}
    (hnodup : (tokens.map TokenRecord.tokenId).Nodup) {current : TokenRecord kind}
    (hfind : find TokenRecord.tokenId tokenId tokens = some current)
    {matching : TokenRecord kind → Bool} {set : TokenRecord kind → TokenRecord kind}
    (hmatching : ∀ r ∈ tokens, matching r = true → r.tokenId = tokenId)
    (hset : (set current).tokenId = tokenId) :
    Sql.update matching set tokens =
      if matching current = true then (put TokenRecord.tokenId tokens (set current), true)
      else (tokens, false) := by
  unfold Sql.update
  split_ifs with hcurrent
  · rw [KeyedRows.updateWhere_of_find hnodup hfind hmatching hcurrent hset]
    rfl
  · rw [KeyedRows.updateWhere_of_forall]
    · rfl
    · intro r hmem
      by_contra hr
      rw [Bool.not_eq_false] at hr
      have heq : some r = some current :=
        ((find_eq_some_iff hnodup).2 ⟨hmem, hmatching r hmem hr⟩).symm.trans hfind
      exact hcurrent (Option.some.inj heq ▸ hr)

theorem update_of_find_none {tokens : Tokens kind} {tokenId : String}
    (hfind : find TokenRecord.tokenId tokenId tokens = none)
    {matching : TokenRecord kind → Bool}
    (hmatching : ∀ r ∈ tokens, matching r = true → r.tokenId = tokenId)
    (set : TokenRecord kind → TokenRecord kind) :
    Sql.update matching set tokens = (tokens, false) := by
  unfold Sql.update
  rw [KeyedRows.updateWhere_of_forall]
  · rfl
  · intro r hmem
    by_contra hr
    rw [Bool.not_eq_false] at hr
    apply find_eq_none_iff.1 hfind
    rw [← hmatching r hmem hr]
    exact List.mem_map_of_mem hmem

theorem toPrecision_toMicros (t : ℤ) :
    PostgresColumns.toPrecision PostgresColumns.microsecond (toMicros t) = toMicros t := by
  apply PostgresColumns.toPrecision_of_dvd (by decide)
  have hepoch : PostgresColumns.microsecond ∣ PostgresColumns.epoch := by decide
  exact Int.dvd_sub (Int.dvd_mul_left ..) hepoch

theorem toMicros_of_timestamptz {now now' : ℤ}
    (h : timestamptz PostgresColumns.microsecond now = some now') : now' = toMicros now := by
  unfold timestamptz at h
  split_ifs at h
  rw [toPrecision_toMicros] at h
  exact (Option.some.inj h).symm

/-- The statement does what `consume` in memory does. -/
theorem update_consume {tokens : Tokens kind} (hnodup : (tokens.map TokenRecord.tokenId).Nodup)
    (tokenId : String) (now : ℤ) :
    Sql.update (fun row => row.tokenId = tokenId && row.status = .active &&
        row.usedCount < row.maxUses && now < row.expiresAt)
      (fun row => { row with
        usedCount := row.usedCount + 1
        status := if row.maxUses ≤ row.usedCount + 1 then .exhausted else row.status
        lastUsedAt := some now }) tokens = InMemory.consume tokens tokenId now := by
  have hmatching : ∀ r ∈ tokens, (r.tokenId = tokenId && r.status = .active &&
      r.usedCount < r.maxUses && now < r.expiresAt) = true → r.tokenId = tokenId := by
    intro r _ hr
    simp only [Bool.and_eq_true, decide_eq_true_eq] at hr
    exact hr.1.1.1
  cases hfind : find TokenRecord.tokenId tokenId tokens with
  | none => rw [update_of_find_none hfind hmatching, InMemory.consume, hfind, Option.filter_none]
  | some current =>
      have hid := (find_some hfind).2
      have hcurrent : (current.tokenId = tokenId && current.status = .active &&
          current.usedCount < current.maxUses && now < current.expiresAt) =
            current.activeAt now := by
        rw [decide_eq_true hid, Bool.true_and]
        rfl
      rw [update_of_find hnodup hfind hmatching hid, hcurrent, InMemory.consume, hfind,
        Option.filter_some]
      by_cases hactive : current.activeAt now = true
      · rw [if_pos hactive, if_pos hactive]
        dsimp only
        rw [status_of_activeAt hactive, statusAfterUse_active]
      · rw [if_neg hactive, if_neg hactive]

theorem update_revoke {tokens : Tokens kind} (hnodup : (tokens.map TokenRecord.tokenId).Nodup)
    (tokenId revokedBy : String) (now : ℤ) :
    Sql.update (fun row => row.tokenId = tokenId && row.status = .active)
      (fun row => { row with
        status := .revoked
        revokedAt := some now
        revokedBy := some revokedBy }) tokens = InMemory.revoke tokens tokenId revokedBy now := by
  have hmatching : ∀ r ∈ tokens,
      (r.tokenId = tokenId && r.status = .active) = true → r.tokenId = tokenId := by
    intro r _ hr
    simp only [Bool.and_eq_true, decide_eq_true_eq] at hr
    exact hr.1
  cases hfind : find TokenRecord.tokenId tokenId tokens with
  | none => rw [update_of_find_none hfind hmatching, InMemory.revoke, hfind, Option.filter_none]
  | some current =>
      have hid := (find_some hfind).2
      rw [update_of_find hnodup hfind hmatching hid, InMemory.revoke, hfind, Option.filter_some,
        decide_eq_true hid, Bool.true_and]
      by_cases hactive : current.status = .active
      · rw [if_pos (decide_eq_true hactive), if_pos (decide_eq_true hactive)]
      · rw [decide_eq_false hactive]
        rfl

theorem sql_consume {tokens : Tokens kind} (hnodup : (tokens.map TokenRecord.tokenId).Nodup)
    {tokenId : String} {now : ℤ} {result : Tokens kind × Bool}
    (h : Sql.consume tokens tokenId now = some result) :
    Asked tokens tokenId (.use (toMicros now)) result := by
  obtain ⟨now', hnow, h⟩ := Option.bind_eq_some_iff.1 h
  obtain ⟨tokenId', htokenId, h⟩ := Option.bind_eq_some_iff.1 h
  rw [toMicros_of_timestamptz hnow, text_of_textParameter htokenId, update_consume hnodup,
    Option.some.injEq] at h
  exact h ▸ inMemory_consume tokens tokenId (toMicros now)

theorem sql_revoke {tokens : Tokens kind} (hnodup : (tokens.map TokenRecord.tokenId).Nodup)
    {tokenId revokedBy : String} {now : ℤ} {result : Tokens kind × Bool}
    (h : Sql.revoke tokens tokenId revokedBy now = some result) :
    Asked tokens tokenId .withdraw result := by
  obtain ⟨now', -, h⟩ := Option.bind_eq_some_iff.1 h
  obtain ⟨revokedBy', -, h⟩ := Option.bind_eq_some_iff.1 h
  obtain ⟨tokenId', htokenId, h⟩ := Option.bind_eq_some_iff.1 h
  rw [text_of_textParameter htokenId, update_revoke hnodup, Option.some.injEq] at h
  exact h ▸ inMemory_revoke tokens tokenId revokedBy' now'

/-! ## Steps -/

namespace Repository

/-- How the repository reads the clock. -/
def instant : Repository kind → ℤ → ℤ
  | .inMemory => id
  | .jdbc _ => toMicros

def row : Repository kind → TokenRecord kind → Bool → Option (TokenRecord kind)
  | .inMemory, record, _ => some record
  | .jdbc _, record, groupExists => Sql.row record groupExists

end Repository

/-- A call changes nothing, adds a row, or asks something of one token. -/
theorem step_cases (repository : Repository kind) {tokens : Tokens kind}
    (hnodup : (tokens.map TokenRecord.tokenId).Nodup) {call : Call kind}
    (h : repository.Admissible tokens call) :
    ((repository.step tokens call).1 = tokens ∧
      (∀ tokenId, eventOf tokenId (call, (repository.step tokens call).2) = none) ∧
        ∀ record, (repository.step tokens call).2 ≠ .saved record) ∨
    (∃ record groupExists row, call = .save record groupExists ∧
      repository.row record groupExists = some row ∧
        find TokenRecord.tokenId row.tokenId tokens = none ∧
          repository.step tokens call = (put TokenRecord.tokenId tokens row, .saved record)) ∨
    ∃ tokenId event success, Asked tokens tokenId (event.map repository.instant)
        ((repository.step tokens call).1, success) ∧
      ∀ tokenId', eventOf tokenId' (call, (repository.step tokens call).2) =
        if tokenId = tokenId' then some (event, success) else none := by
  cases repository with
  | inMemory =>
      cases call with
      | save record groupExists =>
          refine .inr (.inl ⟨record, groupExists, record, rfl, rfl, ?_, rfl⟩)
          rw [find_eq_none_iff]
          intro hmem
          obtain ⟨token, htoken, heq⟩ := List.mem_map.1 hmem
          exact h.2 token htoken heq
      | consume tokenId now =>
          exact .inr (.inr ⟨tokenId, .use now, _, inMemory_consume tokens tokenId now, fun _ => rfl⟩)
      | revoke tokenId revokedBy now =>
          exact .inr (.inr ⟨tokenId, .withdraw, _, inMemory_revoke tokens tokenId revokedBy now,
            fun _ => rfl⟩)
      | activeCandidates now limit => exact .inl ⟨rfl, fun _ => rfl, fun _ heq => nomatch heq⟩
  | jdbc database =>
      cases call with
      | save record groupExists =>
          cases hsave : Sql.save tokens record groupExists with
          | none =>
              have hstep : (Repository.jdbc database).step tokens (.save record groupExists) =
                  (tokens, .failed) := by
                simp only [Repository.step, Sql.step, hsave, Option.map_none, Option.getD_none]
              rw [hstep]
              exact .inl ⟨rfl, fun _ => rfl, fun _ heq => nomatch heq⟩
          | some rows =>
              obtain ⟨row, hrow, hinsert⟩ := Option.bind_eq_some_iff.1 hsave
              have hnone : find TokenRecord.tokenId row.tokenId tokens = none := by
                by_contra hsome
                rw [if_pos (Option.isSome_iff_ne_none.2 hsome)] at hinsert
                cases hinsert
              refine .inr (.inl ⟨record, groupExists, row, rfl, hrow, hnone, ?_⟩)
              rw [hnone, Option.isSome_none, if_neg Bool.false_ne_true, Option.some.injEq] at hinsert
              rw [KeyedRows.put_of_find_none hnone, hinsert]
              simp only [Repository.step, Sql.step, hsave, Option.map_some, Option.getD_some]
      | consume tokenId now =>
          cases hconsume : Sql.consume tokens tokenId now with
          | none =>
              have hstep : (Repository.jdbc database).step tokens (.consume tokenId now) =
                  (tokens, .failed) := by
                simp only [Repository.step, Sql.step, hconsume, Option.map_none, Option.getD_none]
              rw [hstep]
              exact .inl ⟨rfl, fun _ => rfl, fun _ heq => nomatch heq⟩
          | some result =>
              have hstep : (Repository.jdbc database).step tokens (.consume tokenId now) =
                  (result.1, .consumed result.2) := by
                simp only [Repository.step, Sql.step, hconsume, Option.map_some, Option.getD_some]
                rfl
              rw [hstep]
              exact .inr (.inr ⟨tokenId, .use now, result.2, sql_consume hnodup hconsume,
                fun _ => rfl⟩)
      | revoke tokenId revokedBy now =>
          cases hrevoke : Sql.revoke tokens tokenId revokedBy now with
          | none =>
              have hstep : (Repository.jdbc database).step tokens (.revoke tokenId revokedBy now) =
                  (tokens, .failed) := by
                simp only [Repository.step, Sql.step, hrevoke, Option.map_none, Option.getD_none]
              rw [hstep]
              exact .inl ⟨rfl, fun _ => rfl, fun _ heq => nomatch heq⟩
          | some result =>
              have hstep : (Repository.jdbc database).step tokens (.revoke tokenId revokedBy now) =
                  (result.1, .revoked result.2) := by
                simp only [Repository.step, Sql.step, hrevoke, Option.map_some, Option.getD_some]
                rfl
              rw [hstep]
              exact .inr (.inr ⟨tokenId, .withdraw, result.2, sql_revoke hnodup hrevoke,
                fun _ => rfl⟩)
      | activeCandidates now limit =>
          cases hfound : Sql.activeCandidates database tokens now limit with
          | none =>
              have hstep : (Repository.jdbc database).step tokens (.activeCandidates now limit) =
                  (tokens, .failed) := by
                simp only [Repository.step, Sql.step, hfound, Option.map_none, Option.getD_none]
              rw [hstep]
              exact .inl ⟨rfl, fun _ => rfl, fun _ heq => nomatch heq⟩
          | some found =>
              have hstep : (Repository.jdbc database).step tokens (.activeCandidates now limit) =
                  (tokens, .candidates found) := by
                simp only [Repository.step, Sql.step, hfound, Option.map_some, Option.getD_some]
              rw [hstep]
              exact .inl ⟨rfl, fun _ => rfl, fun _ heq => nomatch heq⟩

section Run

variable {repository : Repository kind} {tokens : Tokens kind} {call : Call kind}

theorem Asked.nodup {tokenId : String} {event : Event ℤ} {result : Tokens kind × Bool}
    (h : Asked tokens tokenId event result) (hnodup : (tokens.map TokenRecord.tokenId).Nodup) :
    (result.1.map TokenRecord.tokenId).Nodup := by
  cases hfind : find TokenRecord.tokenId tokenId tokens with
  | none =>
      rw [h.missing hfind]
      exact hnodup
  | some current =>
      rcases h.present current hfind with ⟨-, hresult⟩ | ⟨changed, -, -, -, hresult⟩
      · rw [hresult]
        exact hnodup
      · rw [hresult]
        exact nodup_put hnodup changed

theorem step_nodup (hnodup : (tokens.map TokenRecord.tokenId).Nodup)
    (h : repository.Admissible tokens call) :
    ((repository.step tokens call).1.map TokenRecord.tokenId).Nodup := by
  rcases step_cases repository hnodup h with
    ⟨hsame, -⟩ | ⟨record, groupExists, row, -, -, -, hstep⟩ | ⟨tokenId, event, success, hasked, -⟩
  · rw [hsame]
    exact hnodup
  · rw [hstep]
    exact nodup_put hnodup row
  · exact hasked.nodup hnodup

end Run

/-! ## Saved tokens -/

theorem row_of_issued {record row : TokenRecord kind} (h : Issued record) {groupExists : Bool}
    (hrow : Sql.row record groupExists = some row) :
    row.tokenId = record.tokenId ∧
      ticket row = UseLimits.issue record.maxUses (toMicros record.expiresAt) := by
  obtain ⟨tokenId, htokenId, hrow⟩ := Option.bind_eq_some_iff.1 hrow
  obtain ⟨tokenHash, -, hrow⟩ := Option.bind_eq_some_iff.1 hrow
  obtain ⟨groupId, -, hrow⟩ := Option.bind_eq_some_iff.1 hrow
  obtain ⟨label, -, hrow⟩ := Option.bind_eq_some_iff.1 hrow
  obtain ⟨expiresAt, hexpires, hrow⟩ := Option.bind_eq_some_iff.1 hrow
  obtain ⟨createdBy, -, hrow⟩ := Option.bind_eq_some_iff.1 hrow
  obtain ⟨createdAt, -, hrow⟩ := Option.bind_eq_some_iff.1 hrow
  split_ifs at hrow
  cases hrow
  have hfits : Fits kind.columns.tokenId record.tokenId := by
    refine ⟨h.tokenId.1.trans ?_, h.tokenId.2⟩
    cases kind <;> decide
  rw [varchar_of_fits hfits, Option.some.injEq] at htokenId
  refine ⟨htokenId.symm, ?_⟩
  simp only [ticket, UseLimits.issue, h.active, h.unused, toMicros_of_timestamptz hexpires]
  rfl

theorem Repository.row_of_issued (repository : Repository kind) {record row : TokenRecord kind}
    (h : Issued record) {groupExists : Bool}
    (hrow : repository.row record groupExists = some row) :
    row.tokenId = record.tokenId ∧
      ticket row = UseLimits.issue record.maxUses (repository.instant record.expiresAt) := by
  cases repository with
  | inMemory =>
      cases hrow
      refine ⟨rfl, ?_⟩
      simp only [ticket, UseLimits.issue, h.active, h.unused]
      rfl
  | jdbc database => exact UseLimitedTokens.row_of_issued h hrow

theorem init_row {record row : TokenRecord kind} (h : kind.init record = .ok ())
    {groupExists : Bool} (hrow : Sql.row record groupExists = some row) :
    kind.init row = .ok () := by
  obtain ⟨tokenId, htokenId, hrow⟩ := Option.bind_eq_some_iff.1 hrow
  obtain ⟨tokenHash, htokenHash, hrow⟩ := Option.bind_eq_some_iff.1 hrow
  obtain ⟨groupId, -, hrow⟩ := Option.bind_eq_some_iff.1 hrow
  obtain ⟨label, hlabel, hrow⟩ := Option.bind_eq_some_iff.1 hrow
  obtain ⟨expiresAt, -, hrow⟩ := Option.bind_eq_some_iff.1 hrow
  obtain ⟨createdBy, hcreatedBy, hrow⟩ := Option.bind_eq_some_iff.1 hrow
  obtain ⟨createdAt, -, hrow⟩ := Option.bind_eq_some_iff.1 hrow
  split_ifs at hrow
  cases hrow
  cases kind with
  | deviceProvisioning =>
      simp only [TokenKind.init, CheckedSteps.check_bind_eq_ok_iff, require_eq_ok_iff] at h ⊢
      rw [isBlank_of_varchar htokenId, isBlank_of_varchar htokenHash, isBlank_of_varchar hlabel,
        isBlank_of_varchar hcreatedBy]
      exact h
  | signupRegistration => rfl

/-- No copy of a record and no row that is read fails its check. -/
theorem final_valid (repository : Repository kind) {calls : List (Call kind)}
    (h : Along repository.step repository.Admissible [] calls) :
    ∀ token ∈ final repository.step [] calls, kind.init token = .ok () := by
  have hput : ∀ (tokens : Tokens kind) (token : TokenRecord kind),
      (∀ other ∈ tokens, kind.init other = .ok ()) → kind.init token = .ok () →
        ∀ other ∈ put TokenRecord.tokenId tokens token, kind.init other = .ok () := by
    intro tokens token hvalid htoken other hmem
    rcases KeyedRows.mem_put hmem with heq | hold
    · exact heq ▸ htoken
    · exact hvalid other hold
  have hkeep : ∀ (tokens : Tokens kind) (call : Call kind),
      (tokens.map TokenRecord.tokenId).Nodup ∧ (∀ token ∈ tokens, kind.init token = .ok ()) →
        repository.Admissible tokens call →
          ((repository.step tokens call).1.map TokenRecord.tokenId).Nodup ∧
            ∀ token ∈ (repository.step tokens call).1, kind.init token = .ok () := by
    rintro tokens call ⟨hnodup, hvalid⟩ hcall
    refine ⟨step_nodup hnodup hcall, ?_⟩
    rcases step_cases repository hnodup hcall with
      ⟨hsame, -⟩ | ⟨record, groupExists, row, rfl, hrow, -, hstep⟩ | ⟨tokenId, event, success, hasked, -⟩
    · rw [hsame]
      exact hvalid
    · rw [hstep]
      apply hput tokens row hvalid
      cases repository with
      | inMemory =>
          cases hrow
          exact hcall.1.valid
      | jdbc database => exact init_row hcall.1.valid hrow
    · cases hfind : find TokenRecord.tokenId tokenId tokens with
      | none =>
          rw [(Prod.mk.inj (hasked.missing hfind)).1]
          exact hvalid
      | some current =>
          rcases hasked.present current hfind with
            ⟨-, hresult⟩ | ⟨changed, -, hchanged, -, hresult⟩
          · rw [(Prod.mk.inj hresult).1]
            exact hvalid
          · rw [(Prod.mk.inj hresult).1]
            exact hput tokens changed hvalid (hchanged (hvalid current (find_some hfind).1))
  have hempty : (([] : Tokens kind).map TokenRecord.tokenId).Nodup ∧
      ∀ token ∈ ([] : Tokens kind), kind.init token = .ok () :=
    ⟨List.nodup_nil, fun _ hmem => absurd hmem List.not_mem_nil⟩
  exact (Machines.final_invariant hkeep hempty h).2

end GcsSaker.UseLimitedTokens

/-!
# The repositories of tokens agree

Postgres answers as the map does when the instants are rounded to microseconds, as long as its
columns take what is saved and no token is saved twice. Which of the active tokens are listed first
is the one thing in which they differ.
-/

namespace GcsSaker.UseLimitedTokens

open KeyedDelta (find find_some)
open Machines (Along final trace)
open PostgresColumns (toMicros timestamptz varchar textParameter)
open UseLimits (Event Kept uses)

variable {kind : TokenKind}

/-! ## What should hold -/

def TokenRecord.rounded (record : TokenRecord kind) : TokenRecord kind :=
  { record with expiresAt := toMicros record.expiresAt, createdAt := toMicros record.createdAt }

def Call.rounded : Call kind → Call kind
  | .save record groupExists => .save record.rounded groupExists
  | .consume tokenId now => .consume tokenId (toMicros now)
  | .revoke tokenId revokedBy now => .revoke tokenId revokedBy (toMicros now)
  | .activeCandidates now limit => .activeCandidates (toMicros now) limit

/-- The columns take what they are given, with its instants rounded, and the token is a new one. -/
def Storable (rows : Tokens kind) : Call kind → Prop
  | .save record groupExists =>
    Sql.row record groupExists = some record.rounded ∧
      find TokenRecord.tokenId record.tokenId rows = none
  | .consume tokenId now =>
    timestamptz PostgresColumns.microsecond now = some (toMicros now) ∧
      textParameter tokenId = some tokenId
  | .revoke tokenId revokedBy now =>
    timestamptz PostgresColumns.microsecond now = some (toMicros now) ∧
      varchar kind.columns.revokedBy revokedBy = some revokedBy ∧
        textParameter tokenId = some tokenId
  | .activeCandidates now _ =>
    timestamptz PostgresColumns.microsecond now = some (toMicros now)

instance {rows : Tokens kind} : ∀ call, Decidable (Storable rows call)
  | .save _ _ => inferInstanceAs (Decidable (_ ∧ _))
  | .consume _ _ => inferInstanceAs (Decidable (_ ∧ _))
  | .revoke _ _ _ => inferInstanceAs (Decidable (_ ∧ _ ∧ _))
  | .activeCandidates _ _ => inferInstanceAs (Decidable (_ = _))

/-- The answers of the map and of Postgres to a call and to what it is when rounded. Lists of
candidates that are not cut off have the same tokens. -/
def Alike : Call kind × Answer kind → Call kind × Answer kind → Prop
  | (_, .saved record), (_, .saved record') => record = record'.rounded
  | (_, .candidates found), (.activeCandidates _ limit, .candidates found') =>
    found.length = found'.length ∧ (found'.length < limit → found.Perm found')
  | (_, answer), (_, answer') => answer = answer'

/-! ## Steps -/

/-! ## Two tokens -/

def sampleDatabase : Database .deviceProvisioning :=
  ⟨JvmText.notAfter, id, fun _ => List.Perm.refl _⟩

/-- A device token for one use within five minutes. -/
def sampleToken (tokenId : String) (now : ℤ) : TokenRecord .deviceProvisioning :=
  { tokenId
    tokenHash := "hash"
    groupId := ⟨"alpha", .refl false⟩
    label := "drone"
    status := .active
    maxUses := 1
    usedCount := 0
    expiresAt := now + 300 * Clock.second
    createdBy := "admin"
    createdAt := now
    lastUsedAt := none
    revokedAt := none
    revokedBy := none
    details := () }

def firstToken : TokenRecord .deviceProvisioning :=
  sampleToken "00000000-0000-4000-8000-000000000001" 0

def secondToken : TokenRecord .deviceProvisioning :=
  sampleToken "00000000-0000-4000-8000-000000000002" Clock.second

theorem issued_firstToken : Issued firstToken := ⟨by decide +kernel, rfl, rfl, rfl, by decide⟩

theorem final_valid_sample :
    ∃ token ∈ final InMemory.step [] [.save firstToken true, .consume firstToken.tokenId 7],
      token.usedCount = 1 ∧ TokenKind.deviceProvisioning.init token = .ok () := by
  obtain ⟨token, hmem, hused⟩ :
      ∃ token ∈ final InMemory.step [] [.save firstToken true, .consume firstToken.tokenId 7],
        token.usedCount = 1 := by decide +kernel
  have hcalls : Along InMemory.step (Repository.Admissible .inMemory) []
      [.save firstToken true, .consume firstToken.tokenId 7] :=
    ⟨⟨issued_firstToken, fun _ h => absurd h List.not_mem_nil⟩, trivial, trivial⟩
  exact ⟨token, hmem, hused, final_valid .inMemory hcalls token hmem⟩

end GcsSaker.UseLimitedTokens
