import GcsSaker.Machines
import GcsSaker.RedisSessionSteps
import GcsSaker.ValueCounts

/-!
# The statistics of the sessions

The counters always hold the numbers of ids under each status. The status hash and the two sorted
sets have the same ids as long as every session that is ended is still in the statistics: `endScript`
writes the status hash only, so an id that the expiry scan has taken out comes back there for good.
-/

namespace GcsSaker.SessionStore

open Control (Reply)
open ValueCounts

namespace StatisticsKeys

/-- The counters hold the number of ids under each status. -/
def Counted (k : StatisticsKeys) : Prop :=
  ∀ status, k.count status = (valueCount k.status status : ℤ)

/-- The status hash and the two sorted sets have the same ids. -/
structure Indexed (k : StatisticsKeys) : Prop where
  expiry : ∀ id, id ∈ k.status ↔ id ∈ k.expiry
  created : ∀ id, id ∈ k.created ↔ id ∈ k.expiry

variable (k : StatisticsKeys)

theorem addCount_count (status status' : PublishSessionStatus) (n : ℤ) :
    (k.addCount status n).count status' =
      k.count status' + if status = status' then n else 0 := by
  simp only [addCount, Function.update_apply]
  by_cases h : status = status'
  · rw [if_pos h.symm, if_pos h, h]
  · rw [if_neg (Ne.symm h), if_neg h, add_zero]

/-! ## What is taken out and what is put in -/

theorem drop_status (id : String) : (k.drop id).status = k.status.erase id := by
  simp only [drop]
  cases k.status.lookup id <;> rfl

theorem drop_expiry (id : String) : (k.drop id).expiry = k.expiry.erase id := by
  simp only [drop]
  cases k.status.lookup id <;> rfl

theorem drop_created (id : String) : (k.drop id).created = k.created.erase id := by
  simp only [drop]
  cases k.status.lookup id <;> rfl

theorem countStatus_expiry (id : String) (status : PublishSessionStatus) :
    (k.countStatus id status).expiry = k.expiry := by
  simp only [countStatus]
  split_ifs
  · rfl
  · cases k.status.lookup id <;> rfl

theorem countStatus_created (id : String) (status : PublishSessionStatus) :
    (k.countStatus id status).created = k.created := by
  simp only [countStatus]
  split_ifs
  · rfl
  · cases k.status.lookup id <;> rfl

theorem mem_countStatus (id id' : String) (status : PublishSessionStatus) :
    id' ∈ (k.countStatus id status).status ↔ id' = id ∨ id' ∈ k.status := by
  simp only [countStatus]
  split_ifs with hsame
  · have hmem : id ∈ k.status := by
      rw [← AList.lookup_isSome, hsame, Option.isSome_some]
    constructor
    · exact Or.inr
    · rintro (rfl | h)
      · exact hmem
      · exact h
  · have hstatus : ∀ k' : StatisticsKeys, k'.status = k.status →
        (id' ∈ k'.status.insert id status ↔ id' = id ∨ id' ∈ k.status) := by
      intro k' hk'
      rw [hk', AList.mem_insert]
    cases k.status.lookup id with
    | none => exact hstatus (k.addCount status 1) rfl
    | some previous => exact hstatus ((k.addCount previous (-1)).addCount status 1) rfl

variable {k}

theorem Counted.drop (hk : k.Counted) (id : String) : (k.drop id).Counted := by
  intro status
  rw [drop_status]
  cases hlookup : k.status.lookup id with
  | none =>
      have hcount : (k.drop id).count status = k.count status := by
        simp only [StatisticsKeys.drop, hlookup]
      rw [hcount, valueCount_erase_of_none hlookup, hk]
  | some previous =>
      have hcount : (k.drop id).count status = (k.addCount previous (-1)).count status := by
        simp only [StatisticsKeys.drop, hlookup]
      have herase := valueCount_erase hlookup status
      rw [hcount, addCount_count, hk]
      split_ifs at herase ⊢ <;> omega

theorem Counted.countStatus (hk : k.Counted) (id : String) (status : PublishSessionStatus) :
    (k.countStatus id status).Counted := by
  intro status'
  by_cases hsame : k.status.lookup id = some status
  · simp only [StatisticsKeys.countStatus, if_pos hsame]
    exact hk status'
  · cases hlookup : k.status.lookup id with
    | none =>
        have hcounted : k.countStatus id status =
            { k.addCount status 1 with status := k.status.insert id status } := by
          rw [hlookup] at hsame
          simp only [StatisticsKeys.countStatus, hlookup, if_neg hsame]
          rfl
        rw [hcounted, valueCount_insert, valueCount_erase_of_none hlookup]
        simp only [addCount_count, hk status']
        split_ifs <;> omega
    | some previous =>
        have hcounted : k.countStatus id status =
            { (k.addCount previous (-1)).addCount status 1 with
              status := k.status.insert id status } := by
          rw [hlookup] at hsame
          simp only [StatisticsKeys.countStatus, hlookup, if_neg hsame]
          rfl
        have herase := valueCount_erase hlookup status'
        rw [hcounted, valueCount_insert]
        simp only [addCount_count, hk status']
        split_ifs at herase ⊢ <;> omega

theorem Indexed.drop (hk : k.Indexed) (id : String) : (k.drop id).Indexed := by
  constructor
  · intro id'
    rw [drop_status, drop_expiry, AList.mem_erase, AList.mem_erase, hk.expiry]
  · intro id'
    rw [drop_created, drop_expiry, AList.mem_erase, AList.mem_erase, hk.created]

/-- What dropping an id keeps, the expiry scan keeps. -/
theorem prune_invariant {P : StatisticsKeys → Prop} (hdrop : ∀ k id, P k → P (k.drop id))
    (hk : P k) (now : ℤ) (limit : ℕ) : P (k.prune now limit) := by
  rw [prune]
  generalize k.expired now limit = ids
  induction ids generalizing k with
  | nil => exact hk
  | cons id ids ih => exact ih (hdrop k id hk)

theorem Counted.prune (hk : k.Counted) (now : ℤ) (limit : ℕ) : (k.prune now limit).Counted :=
  prune_invariant (fun _ id h => h.drop id) hk now limit

theorem Indexed.prune (hk : k.Indexed) (now : ℤ) (limit : ℕ) : (k.prune now limit).Indexed :=
  prune_invariant (fun _ id h => h.drop id) hk now limit

theorem Counted.update (hk : k.Counted) (id : String) (status : PublishSessionStatus)
    (expiry created now : ℤ) : (k.update id status expiry created now).Counted :=
  (hk.prune now 100).countStatus id status

theorem Indexed.update (hk : k.Indexed) (id : String) (status : PublishSessionStatus)
    (expiry created now : ℤ) : (k.update id status expiry created now).Indexed := by
  have hpruned := hk.prune now 100
  constructor
  · intro id'
    simp only [StatisticsKeys.update, AList.mem_insert, mem_countStatus, countStatus_expiry,
      hpruned.expiry]
  · intro id'
    simp only [StatisticsKeys.update, AList.mem_insert, countStatus_created, countStatus_expiry,
      hpruned.created]

/-- Counting an id that is there already leaves the ids as they are. -/
theorem Indexed.countStatus (hk : k.Indexed) {id : String} (hid : id ∈ k.status)
    (status : PublishSessionStatus) : (k.countStatus id status).Indexed := by
  constructor
  · intro id'
    rw [mem_countStatus, countStatus_expiry, ← hk.expiry]
    constructor
    · rintro (rfl | h)
      · exact hid
      · exact h
    · exact Or.inr
  · intro id'
    rw [countStatus_created, countStatus_expiry, hk.created]

/-- Active and ended ids make up all the ids that a snapshot scans. -/
theorem snapshot_add (hcounted : k.Counted) (hindexed : k.Indexed) (now : ℤ) (limit : ℕ) :
    (k.snapshot now limit).2.active + (k.snapshot now limit).2.ended =
      ((k.snapshot now limit).2.total : ℤ) := by
  have hcounts := hcounted.prune now limit
  have htwo : ∀ status : PublishSessionStatus, status = .active ∨ status = .ended := by
    rintro (_ | _)
    · exact Or.inl rfl
    · exact Or.inr rfl
  have hsum := valueCount_add PublishSessionStatus.noConfusion htwo (k.prune now limit).status
  have hlength := length_eq_of_mem_iff (hindexed.prune now limit).expiry
  calc (k.prune now limit).count .active + (k.prune now limit).count .ended
      = (valueCount (k.prune now limit).status .active : ℤ) +
          (valueCount (k.prune now limit).status .ended : ℤ) := by rw [hcounts, hcounts]
    _ = ((k.prune now limit).expiry.entries.length : ℤ) := by
        rw [← Nat.cast_add, hsum, hlength]

/-! ## The expiry scan gets everywhere -/

theorem prune_expiry (k : StatisticsKeys) (now : ℤ) (limit : ℕ) :
    (k.prune now limit).expiry = (k.expired now limit).foldl (fun m id => m.erase id) k.expiry := by
  rw [prune]
  generalize k.expired now limit = ids
  induction ids generalizing k with
  | nil => rfl
  | cons id ids ih => rw [List.foldl_cons, ih, drop_expiry, List.foldl_cons]

theorem foldl_erase_length (ids : List String) (m : AList fun _ : String => ℤ) :
    (ids.foldl (fun m id => m.erase id) m).entries.length ≤ m.entries.length := by
  induction ids generalizing m with
  | nil => exact le_rfl
  | cons id ids ih => exact (ih (m.erase id)).trans (length_erase_le m id)

theorem foldl_erase_lookup (ids : List String) (m : AList fun _ : String => ℤ) (id : String) :
    (ids.foldl (fun m id => m.erase id) m).lookup id = none ∨
      (ids.foldl (fun m id => m.erase id) m).lookup id = m.lookup id := by
  induction ids generalizing m with
  | nil => exact Or.inr rfl
  | cons id' ids ih =>
      rcases ih (m.erase id') with hnone | hkept
      · exact Or.inl hnone
      · by_cases hid : id = id'
        · subst hid
          rw [AList.lookup_erase] at hkept
          exact Or.inl hkept
        · rw [AList.lookup_erase_ne hid] at hkept
          exact Or.inr hkept

/-- The ids that a scan takes out are those whose score has passed. -/
theorem lookup_of_mem_expired {id : String} {now : ℤ} {limit : ℕ}
    (h : id ∈ k.expired now limit) : ∃ score, k.expiry.lookup id = some score ∧ score ≤ now := by
  simp only [expired, List.mem_map] at h
  obtain ⟨e, he, rfl⟩ := h
  obtain ⟨hmem, hscore⟩ := List.mem_filter.mp (List.mem_of_mem_take he)
  exact ⟨e.2, AList.mem_lookup_iff.mpr ((List.mem_insertionSort _).mp hmem),
    of_decide_eq_true hscore⟩

theorem expired_ne_nil {id : String} {score now : ℤ} {limit : ℕ}
    (hid : k.expiry.lookup id = some score) (hscore : score ≤ now) (hlimit : 0 < limit) :
    k.expired now limit ≠ [] := by
  have hmem : (⟨id, score⟩ : Σ _ : String, ℤ) ∈
      (members k.expiry).filter fun e => decide (e.2 ≤ now) := by
    refine List.mem_filter.mpr ⟨?_, decide_eq_true hscore⟩
    exact (List.mem_insertionSort _).mpr (AList.mem_lookup_iff.mp hid)
  have hlength := List.length_pos_of_mem hmem
  intro hnil
  have hzero := congrArg List.length hnil
  rw [expired, List.length_map, List.length_take, List.length_nil] at hzero
  omega

/-- A scan at a time when some id has expired takes out at least one id. -/
theorem prune_length_lt {id : String} {score now : ℤ} {limit : ℕ}
    (hid : k.expiry.lookup id = some score) (hscore : score ≤ now) (hlimit : 0 < limit) :
    (k.prune now limit).expiry.entries.length < k.expiry.entries.length := by
  rw [prune_expiry]
  have hne := expired_ne_nil hid hscore hlimit
  have hmem := fun id' => @lookup_of_mem_expired k id' now limit
  generalize k.expired now limit = ids at hne hmem
  cases ids with
  | nil => exact absurd rfl hne
  | cons id' ids =>
      obtain ⟨score', hlookup, -⟩ := hmem id' (List.mem_cons_self ..)
      have hfirst : id' ∈ k.expiry := by
        rw [← AList.lookup_isSome, hlookup, Option.isSome_some]
      exact (foldl_erase_length ids _).trans_lt (length_erase_lt hfirst)

theorem prune_lookup (k : StatisticsKeys) (id : String) (now : ℤ) (limit : ℕ) :
    (k.prune now limit).expiry.lookup id = none ∨
      (k.prune now limit).expiry.lookup id = k.expiry.lookup id := by
  rw [prune_expiry]
  exact foldl_erase_lookup _ _ _

end StatisticsKeys

/-! ## Calls on the store -/

/-- A call of the store, or a new time on the clock of Redis. -/
inductive StatisticsCall where
  | save (v : PublishSession) (wallClock : ℤ) (replies : RedisState.SaveReplies)
  | rotateRenewal (id : String) (renewal : Renewal) (wallClock : ℤ)
      (replies : RedisState.RotateReplies)
  | endSession (id : String) (now : ℤ) (reply : Reply)
  | snapshotStatistics (now limit : ℤ) (reply : Reply)
  | tick (clock : ℤ)

namespace RedisState

variable (digest : String → String) (s : RedisState)

/-- The state after a call, and the statistics that it returns. -/
def perform : StatisticsCall → RedisState × Option Statistics
  | .save v wallClock replies => ((s.save digest v wallClock replies).1, none)
  | .rotateRenewal id renewal wallClock replies =>
    ((s.rotateRenewal digest id renewal wallClock replies).1, none)
  | .endSession id now reply => ((s.endSession id now reply).1, none)
  | .snapshotStatistics now limit reply =>
    ((s.snapshotStatistics now limit reply).1, (s.snapshotStatistics now limit reply).2.toOption)
  | .tick clock => ({ s with clock := clock }, none)

/-- A session whose key is alive is ended only while the statistics have its id. -/
def EndsCounted : StatisticsCall → Prop
  | .endSession id _ reply => reply = .lostBefore ∨ s.session id = none ∨ id ∈ s.statistics.status
  | _ => True

instance (s : RedisState) : ∀ call, Decidable (s.EndsCounted call)
  | .endSession id _ reply => inferInstanceAs
      (Decidable (reply = .lostBefore ∨ s.session id = none ∨ id ∈ s.statistics.status))
  | .save _ _ _ => inferInstanceAs (Decidable True)
  | .rotateRenewal _ _ _ _ => inferInstanceAs (Decidable True)
  | .snapshotStatistics _ _ _ => inferInstanceAs (Decidable True)
  | .tick _ => inferInstanceAs (Decidable True)

/-- The ways a call can go on the statistics; `counted` says that an id that is ended is there. -/
inductive Tallies (counted : Prop) (k : StatisticsKeys) : StatisticsKeys → Prop
  | kept : Tallies counted k k
  | recorded (id : String) (status : PublishSessionStatus) (expiry created now : ℤ) :
      Tallies counted k (k.update id status expiry created now)
  | pruned (now : ℤ) (limit : ℕ) : Tallies counted k (k.prune now limit)
  | ended (id : String) (hid : counted → id ∈ k.status) : Tallies counted k (k.countStatus id .ended)

variable {counted : Prop}

theorem updateStatistics_tallies (s : RedisState) (v : PublishSession) (wallClock : ℤ)
    (reply : Reply) :
    Tallies counted s.statistics (s.updateStatistics v wallClock reply).1.statistics := by
  cases reply with
  | lostBefore => exact .kept
  | delivered | lostAfter => exact .recorded _ _ _ _ _

theorem save_tallies (digest : String → String) (s : RedisState) (v : PublishSession)
    (wallClock : ℤ) (replies : SaveReplies) :
    Tallies counted s.statistics (s.save digest v wallClock replies).1.statistics := by
  rcases replies with ⟨transaction, statistics⟩
  cases transaction with
  | lostBefore | lostAfter => exact .kept
  | delivered =>
      cases statistics with
      | lostBefore => exact .kept
      | delivered | lostAfter => exact .recorded _ _ _ _ _

theorem rotateScript_statistics (s : RedisState) (id streamKey : String) (args : RotateArgs) :
    (s.rotateScript id streamKey args).1.statistics = s.statistics := by
  have hcases := rotateScript_cases s id streamKey args
  generalize s.rotateScript id streamKey args = r at hcases ⊢
  cases hcases with
  | absent | kept | replayed => rfl
  | rotated => rw [extendStream_statistics, putSession]

theorem finishRotation_tallies (s : RedisState) (id : String) (result : RenewalRotationResult)
    (wallClock : ℤ) (replies : RotateReplies) :
    Tallies counted s.statistics
      (s.finishRotation id result wallClock replies).1.statistics := by
  simp only [finishRotation]
  cases s.find id replies.readBack with
  | error err => exact .kept
  | ok v =>
      have hwritten : Tallies counted s.statistics
          (s.updateStatistics v wallClock replies.statistics).1.statistics :=
        updateStatistics_tallies s v wallClock replies.statistics
      simp only
      generalize s.updateStatistics v wallClock replies.statistics = r at hwritten ⊢
      rcases r with ⟨s', _ | _⟩
      · exact hwritten
      · exact hwritten

theorem rotateRenewal_tallies (digest : String → String) (s : RedisState) (id : String)
    (renewal : Renewal) (wallClock : ℤ) (replies : RotateReplies) :
    Tallies counted s.statistics
      (s.rotateRenewal digest id renewal wallClock replies).1.statistics := by
  simp only [rotateRenewal]
  cases s.find id replies.find with
  | error err => cases err <;> exact .kept
  | ok v =>
      have htrip : (s.trip (fun t => t.rotateScript id (streamIndexKey digest v.streamID)
          renewal.args) replies.script).1.statistics = s.statistics := by
        by_cases hscript : replies.script = .lostBefore
        · rw [hscript]
          rfl
        · rw [s.trip_state _ hscript, rotateScript_statistics]
      simp only
      generalize s.trip (fun t => t.rotateScript id (streamIndexKey digest v.streamID)
        renewal.args) replies.script = r at htrip ⊢
      rw [← htrip]
      rcases r with ⟨s', _ | reply⟩
      · exact .kept
      · simp only
        cases reply.result with
        | none => exact .kept
        | some result => exact finishRotation_tallies s' id result wallClock replies

theorem endSession_tallies (s : RedisState) (id : String) (now : ℤ) (reply : Reply) :
    Tallies (s.EndsCounted (.endSession id now reply)) s.statistics
      (s.endSession id now reply).1.statistics := by
  have hcases := endScript_cases s id (Clock.unixMilli now)
  have hstate : (s.endSession id now reply).1 =
      (s.trip (fun t => t.endScript id (Clock.unixMilli now)) reply).1 := by
    simp only [endSession]
    generalize s.trip (fun t => t.endScript id (Clock.unixMilli now)) reply = r
    rcases r with ⟨s', _ | _ | _⟩ <;> rfl
  rw [hstate]
  by_cases hreply : reply = .lostBefore
  · rw [hreply]
    exact .kept
  · rw [s.trip_state _ hreply]
    generalize s.endScript id (Clock.unixMilli now) = r at hcases
    cases hcases with
    | absent habsent => exact .kept
    | ended h expiresAt hexpires =>
        refine .ended id fun hcounted => ?_
        rcases hcounted with hlost | hnone | hid
        · exact absurd hlost hreply
        · rw [session_eq_none_iff, hexpires] at hnone
          cases hnone
        · exact hid

theorem perform_tallies (digest : String → String) (s : RedisState) (call : StatisticsCall) :
    Tallies (s.EndsCounted call) s.statistics (s.perform digest call).1.statistics := by
  cases call with
  | save v wallClock replies => exact save_tallies digest s v wallClock replies
  | rotateRenewal id renewal wallClock replies =>
      exact rotateRenewal_tallies digest s id renewal wallClock replies
  | endSession id now reply => exact endSession_tallies s id now reply
  | snapshotStatistics now limit reply =>
      cases reply with
      | lostBefore => exact .kept
      | delivered | lostAfter => exact .pruned _ _
  | tick clock => exact .kept

theorem perform_counted (digest : String → String) {s : RedisState} (hs : s.statistics.Counted)
    (call : StatisticsCall) : (s.perform digest call).1.statistics.Counted := by
  have htallies := perform_tallies digest s call
  generalize (s.perform digest call).1.statistics = k at htallies
  cases htallies with
  | kept => exact hs
  | recorded id status expiry created now => exact hs.update id status expiry created now
  | pruned now limit => exact hs.prune now limit
  | ended id hid => exact hs.countStatus id .ended

theorem perform_indexed (digest : String → String) {s : RedisState} {call : StatisticsCall}
    (hs : s.statistics.Indexed) (hcounted : s.EndsCounted call) :
    (s.perform digest call).1.statistics.Indexed := by
  have htallies := perform_tallies digest s call
  generalize (s.perform digest call).1.statistics = k at htallies
  cases htallies with
  | kept => exact hs
  | recorded id status expiry created now => exact hs.update id status expiry created now
  | pruned now limit => exact hs.prune now limit
  | ended id hid => exact hs.countStatus (hid hcounted) .ended

/-! ## Runs -/

def scanCall (scan : ℤ × ℤ) : StatisticsCall := .snapshotStatistics scan.1 scan.2 .delivered

theorem perform_scan (digest : String → String) (s : RedisState) (scan : ℤ × ℤ) :
    ∃ limit, 0 < limit ∧ (s.perform digest (scanCall scan)).1.statistics =
      s.statistics.prune (Clock.unixMilli scan.1) limit := by
  refine ⟨_, ?_, rfl⟩
  split_ifs with h
  · decide
  · omega

theorem scans_absent (digest : String → String) {s : RedisState} {id : String}
    (scans : List (ℤ × ℤ)) (hid : s.statistics.expiry.lookup id = none) :
    (Machines.final (perform digest) s (scans.map scanCall)).statistics.expiry.lookup id = none := by
  induction scans generalizing s with
  | nil => exact hid
  | cons scan scans ih =>
      obtain ⟨limit, -, hscan⟩ := perform_scan digest s scan
      apply ih
      rw [hscan]
      rcases s.statistics.prune_lookup id (Clock.unixMilli scan.1) limit with h | h
      · exact h
      · exact h.trans hid

/-- An id is gone after as many scans from its expiry on as there are ids. -/
theorem scans_prune (digest : String → String) {s : RedisState} {id : String} {score : ℤ}
    {scans : List (ℤ × ℤ)} (hid : s.statistics.expiry.lookup id = some score)
    (hscans : ∀ scan ∈ scans, score ≤ Clock.unixMilli scan.1)
    (hlength : s.statistics.expiry.entries.length ≤ scans.length) :
    (Machines.final (perform digest) s (scans.map scanCall)).statistics.expiry.lookup id = none := by
  induction scans generalizing s with
  | nil =>
      have hempty : s.statistics.expiry.entries = [] :=
        List.eq_nil_of_length_eq_zero (Nat.le_zero.mp hlength)
      have hmem := AList.mem_lookup_iff.mp hid
      rw [hempty] at hmem
      cases hmem
  | cons scan scans ih =>
      obtain ⟨limit, hlimit, hscan⟩ := perform_scan digest s scan
      have hscore := hscans scan (List.mem_cons_self ..)
      rw [List.map_cons, Machines.final]
      rcases s.statistics.prune_lookup id (Clock.unixMilli scan.1) limit with hnone | hsame
      · apply scans_absent
        rw [hscan, hnone]
      · have hlt := StatisticsKeys.prune_length_lt hid hscore hlimit
        rw [List.length_cons] at hlength
        apply ih
        · rw [hscan, hsame, hid]
        · exact fun scan' h => hscans scan' (List.mem_cons_of_mem scan h)
        · rw [hscan]
          omega

theorem along_scans (digest : String → String) (s : RedisState) (scans : List (ℤ × ℤ)) :
    Machines.Along (perform digest) EndsCounted s (scans.map scanCall) := by
  refine Machines.along_of_forall (fun s' call hcall => ?_) s
  obtain ⟨scan, -, rfl⟩ := List.mem_map.mp hcall
  exact trivial

theorem final_counted (digest : String → String) {s : RedisState} (hs : s.statistics.Counted)
    (calls : List StatisticsCall) :
    (Machines.final (perform digest) s calls).statistics.Counted :=
  @Machines.final_invariant _ _ _ (perform digest) (fun _ _ => True)
    (fun t => t.statistics.Counted) (fun _ call h _ => perform_counted digest h call) s calls hs
    (Machines.along_of_forall (fun _ _ _ => trivial) s)

theorem final_indexed (digest : String → String) {s : RedisState} {calls : List StatisticsCall}
    (hs : s.statistics.Indexed) (hcalls : Machines.Along (perform digest) EndsCounted s calls) :
    (Machines.final (perform digest) s calls).statistics.Indexed :=
  @Machines.final_invariant _ _ _ (perform digest) EndsCounted (fun t => t.statistics.Indexed)
    (fun _ _ h hcall => perform_indexed digest h hcall) s calls hs hcalls

theorem empty_counted (clock : ℤ) : (empty clock).statistics.Counted := fun _ => rfl

theorem empty_indexed (clock : ℤ) : (empty clock).statistics.Indexed :=
  ⟨fun _ => Iff.rfl, fun _ => Iff.rfl⟩

/-- The statistics after any calls, whatever becomes of their round trips and whatever the clocks
say: the counters hold the numbers of ids. If moreover every session that was ended was still in the
statistics, then the three keys have the same ids, a snapshot's active and ended ids are all it
scans, and every id is gone after enough scans from some time on. -/
theorem run_statistics (digest : String → String) (clock : ℤ) (calls : List StatisticsCall) :
    let s := Machines.final (perform digest) (empty clock) calls
    s.statistics.Counted ∧
    (Machines.Along (perform digest) EndsCounted (empty clock) calls →
      s.statistics.Indexed ∧
      (∀ now limit statistics, (s.snapshotStatistics now limit .delivered).2 = .ok statistics →
        statistics.active + statistics.ended = statistics.scanned) ∧
      ∀ id ∈ s.statistics.status, ∃ score, ∀ scans : List (ℤ × ℤ),
        (∀ scan ∈ scans, score ≤ Clock.unixMilli scan.1) →
        s.statistics.expiry.entries.length ≤ scans.length →
        id ∉ (Machines.final (perform digest) s (scans.map scanCall)).statistics.status) := by
  intro s
  have hcounted : s.statistics.Counted := final_counted digest (empty_counted clock) calls
  refine ⟨hcounted, ?_⟩
  intro hcalls
  have hindexed : s.statistics.Indexed := final_indexed digest (empty_indexed clock) hcalls
  refine ⟨hindexed, ?_, ?_⟩
  · intro now limit statistics hsnapshot
    rw [← Except.ok.inj hsnapshot]
    exact StatisticsKeys.snapshot_add hcounted hindexed _ _
  · intro id hid
    obtain ⟨score, hscore⟩ := Option.isSome_iff_exists.mp
      (AList.lookup_isSome.mpr ((hindexed.expiry id).mp hid))
    refine ⟨score, ?_⟩
    intro scans hscans hlength
    have hafter := final_indexed digest hindexed (along_scans digest s scans)
    rw [hafter.expiry, ← AList.lookup_eq_none]
    exact scans_prune digest hscore hscans hlength

/-- The session of `sampleSession` is saved and ended at the given time; the statistics are read as
its renewal expires. -/
def endedBefore (time : ℤ) : List StatisticsCall :=
  [.save sampleSession 0 ⟨.delivered, .delivered⟩, .tick time, .endSession "ps_01" time .delivered,
    scanCall (3600 * Clock.second, 0)]

theorem run_statistics_ended :
    (Machines.final (perform fun stream => stream) (empty 0)
      (endedBefore (60 * Clock.second))).statistics.Indexed :=
  ((run_statistics (fun stream => stream) 0 (endedBefore (60 * Clock.second))).2
    (by decide +kernel)).1

/-- The publisher ends its session in the minute in which the key outlives the renewal, after the
scan that takes the id out. -/
def endedInGrace : List StatisticsCall :=
  [.save sampleSession 0 ⟨.delivered, .delivered⟩, scanCall (3600 * Clock.second, 0),
    .tick (3601 * Clock.second), .endSession "ps_01" (3601 * Clock.second) .delivered]

/-- The id comes back into the status hash only: a snapshot counts one ended session among the none
that it scans, and no later scan takes the id out. -/
theorem statistics_part :
    let s := Machines.final (perform fun stream => stream) (empty 0) endedInGrace
    "ps_01" ∈ s.statistics.status ∧ "ps_01" ∉ s.statistics.expiry ∧
      (s.perform (fun stream => stream) (scanCall (7200 * Clock.second, 0))).2 =
        some ⟨0, 1, 0, 0, 0, false⟩ ∧
      "ps_01" ∈ (s.perform (fun stream => stream)
        (scanCall (7200 * Clock.second, 0))).1.statistics.status := by
  decide +kernel

end RedisState
end GcsSaker.SessionStore
