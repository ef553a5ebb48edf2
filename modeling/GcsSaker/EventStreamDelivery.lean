import GcsSaker.AuditChainSafety
import GcsSaker.OperationalEventStream
import GcsSaker.Watermarks
import Mathlib.Data.String.Basic

/-!
# What the event stream delivers

The stream follows the order of the instants and ids of the events, which is not the order in which
they are appended. An event that its cursor has passed by the time that it is appended is never
written; any other one of the query is written exactly once.
-/

namespace GcsSaker.EventStream

open AuditChain (Platform Storage System appendedEvent appendOwned storedAs_of_row truncatedTo)
open CheckedSteps (bind_eq_ok_iff)
open Groups (AuthenticatedPrincipal)
open OperationalEvents (OperationalEventReadModel)
open PostgresColumns (fits_of_varchar textParameter timestamptz timestamptz_of_dvd toMicros_of_dvd)
open Runs (run run_invariant_of_step)
open Watermarks (mem_pending mem_taken moved pending pending_moved)

variable {platform : Platform}

/-! ## The rows -/

/-- The rows of the table differ in their ids and can be compared with again. -/
structure Comparable (rows : List OperationalEventReadModel) : Prop where
  ids : (rows.map (·.id)).Nodup
  instants : ∀ row ∈ rows, timestampParameter row.occurredAt = some row.occurredAt
  texts : ∀ row ∈ rows, textParameter row.id = some row.id

theorem Comparable.concat {rows : List OperationalEventReadModel} {row : OperationalEventReadModel}
    (h : Comparable rows) (hid : ∀ stored ∈ rows, stored.id ≠ row.id)
    (hinstant : timestampParameter row.occurredAt = some row.occurredAt)
    (htext : textParameter row.id = some row.id) : Comparable (rows ++ [row]) where
  ids := by
    rw [List.map_append, List.nodup_append]
    refine ⟨h.ids, List.nodup_singleton _, ?_⟩
    intro id hmem id' hmem' heq
    obtain ⟨stored, hstored, rfl⟩ := List.mem_map.1 hmem
    rw [List.map_singleton, List.mem_singleton] at hmem'
    exact hid stored hstored (heq.trans hmem')
  instants := by
    intro stored hstored
    rcases List.mem_append.1 hstored with hold | hnew
    · exact h.instants stored hold
    · rw [List.mem_singleton.1 hnew]
      exact hinstant
  texts := by
    intro stored hstored
    rcases List.mem_append.1 hstored with hold | hnew
    · exact h.texts stored hold
    · rw [List.mem_singleton.1 hnew]
      exact htext

/-- An instant of whole milliseconds that is stored can be compared with. -/
theorem timestampParameter_of_stored {instant stored : ℤ}
    (hrepresentable : Storage.representable (truncatedTo Clock.millisecond instant) = true)
    (h : timestamptz Clock.millisecond (truncatedTo Clock.millisecond instant) = some stored) :
    timestampParameter stored = some stored := by
  obtain rfl := AuditChain.eq_of_timestamptz_truncatedTo (Or.inl rfl) h
  have hmicros : PostgresColumns.microsecond ∣ truncatedTo Clock.millisecond instant := by
    simp only [truncatedTo, Clock.millisecond, PostgresColumns.microsecond]
    omega
  have hepoch : PostgresColumns.microsecond ∣
      truncatedTo Clock.millisecond instant - PostgresColumns.epoch := by
    simp only [truncatedTo, PostgresColumns.epoch, Clock.second, Clock.millisecond,
      PostgresColumns.microsecond]
    omega
  unfold timestamptz at h
  split_ifs at h with hrange
  rw [toMicros_of_dvd hmicros] at hrange
  rw [timestampParameter, if_pos hrepresentable]
  exact timestamptz_of_dvd (by decide) hmicros hepoch hrange

theorem occurredAt_appendedEvent (event : OperationalEventReadModel) (previousHash : String) :
    (appendedEvent platform event previousHash).occurredAt =
      truncatedTo Clock.millisecond event.occurredAt := by
  unfold appendedEvent
  dsimp only
  split_ifs
  all_goals rfl

/-- An insert adds at most one row, which keeps the rows comparable. -/
theorem Comparable.insert {storage storage' : Storage} {event : OperationalEventReadModel}
    {previousHash : String} {count : ℕ} (h : Comparable storage.operationalEvents)
    (hinsert : storage.insert platform (appendedEvent platform event previousHash) =
      .ok (storage', count)) :
    Comparable storage'.operationalEvents ∧
      storage.operationalEvents <+: storage'.operationalEvents := by
  unfold Storage.insert at hinsert
  split_ifs at hinsert with hinstants
  split at hinsert
  next => cases hinsert
  next row hrow =>
    split_ifs at hinsert with hduplicate
    · cases hinsert
      exact ⟨h, List.prefix_refl _⟩
    · cases hinsert
      have hstored := storedAs_of_row hrow
      rw [Bool.not_eq_false, List.all_cons, Bool.and_eq_true] at hinstants
      have hrepresentable : Storage.representable
          (appendedEvent platform event previousHash).occurredAt = true := hinstants.1
      have hoccurredAt := hstored.occurredAt
      rw [occurredAt_appendedEvent] at hrepresentable hoccurredAt
      refine ⟨h.concat ?_ (timestampParameter_of_stored hrepresentable hoccurredAt) ?_,
        List.prefix_append _ _⟩
      · intro stored hmem heq
        exact hduplicate (List.any_eq_true.2 ⟨stored, hmem, decide_eq_true heq⟩)
      · rw [textParameter, if_neg (fits_of_varchar hstored.id).2]

theorem operationalEvents_advanceAuditHead {storage storage' : Storage} {eventHash : Option String}
    {count : ℕ} (h : storage.advanceAuditHead eventHash = .ok (storage', count)) :
    storage'.operationalEvents = storage.operationalEvents := by
  unfold Storage.advanceAuditHead at h
  split at h
  next =>
    cases h
    rfl
  next =>
    split at h
    next => cases h
    next =>
      split_ifs at h
      cases h
      rfl

theorem Comparable.appendOwned {storage storage' : Storage} {event : OperationalEventReadModel}
    {phase phase' : AuditChain.Phase} (h : Comparable storage.operationalEvents)
    (hphase : ∀ outcome, phase ≠ .finished outcome)
    (hok : appendOwned platform event storage phase = .ok (storage', phase')) :
    Comparable storage'.operationalEvents ∧
      storage.operationalEvents <+: storage'.operationalEvents := by
  have hsame : Comparable storage.operationalEvents ∧
      storage.operationalEvents <+: storage.operationalEvents := ⟨h, List.prefix_refl _⟩
  cases phase with
  | ready =>
      obtain ⟨previousHash, -, hrest⟩ := bind_eq_ok_iff.1 hok
      cases hrest
      exact hsame
  | locked previousHash =>
      obtain ⟨stored, -, hrest⟩ := bind_eq_ok_iff.1 hok
      split_ifs at hrest
      all_goals
        cases hrest
        exact hsame
  | absent previousHash =>
      obtain ⟨⟨inserted, count⟩, hinsert, hrest⟩ := bind_eq_ok_iff.1 hok
      have hinserted := h.insert hinsert
      simp only at hrest
      split_ifs at hrest
      all_goals
        cases hrest
        exact hinserted
  | inserted appended =>
      obtain ⟨⟨advanced, count⟩, hadvance, hrest⟩ := bind_eq_ok_iff.1 hok
      have hadvanced := operationalEvents_advanceAuditHead hadvance
      simp only at hrest
      split_ifs at hrest
      cases hrest
      rw [hadvanced]
      exact hsame
  | finished outcome => exact absurd rfl (hphase outcome)
  | returned outcome =>
      cases hok
      exact hsame
  | thrown failure =>
      cases hok
      exact hsame

/-- What has been committed and what a transaction sees of the table, which has all of it. -/
structure Tabled (s : System) : Prop where
  committed : Comparable s.committed.operationalEvents
  transaction : ∀ n storage, s.transaction = some (n, storage) →
    Comparable storage.operationalEvents ∧
      s.committed.operationalEvents <+: storage.operationalEvents

theorem tabled_initial : Tabled .initial where
  committed := {
    ids := List.nodup_nil
    instants := fun _ hrow => absurd hrow List.not_mem_nil
    texts := fun _ hrow => absurd hrow List.not_mem_nil }
  transaction _ _ h := nomatch h

section System

variable {s s' : System} {n : ℕ}

theorem Tabled.visible (h : Tabled s) {storage : Storage} (hvisible : s.visible n = some storage) :
    Comparable storage.operationalEvents ∧
      s.committed.operationalEvents <+: storage.operationalEvents := by
  unfold System.visible at hvisible
  split at hvisible
  next =>
    obtain rfl := Option.some.inj hvisible
    exact ⟨h.committed, List.prefix_refl _⟩
  next holder held htransaction =>
    split_ifs at hvisible
    obtain rfl := Option.some.inj hvisible
    exact h.transaction holder held htransaction

theorem Tabled.rolledBack (h : Tabled s) (call : AuditChain.Call) :
    Tabled ((s.rollback n).setCall n call) where
  committed := h.committed
  transaction m storage htransaction :=
    h.transaction m storage (AuditChain.rollback_transaction.1 htransaction).1

theorem Tabled.commit (h : Tabled s) {t : System} (hcommit : s.commit n = some t)
    (call : AuditChain.Call) : Tabled (t.setCall n call) ∧
      s.committed.operationalEvents <+: t.committed.operationalEvents := by
  unfold System.commit at hcommit
  split at hcommit
  next holder storage htransaction =>
    split_ifs at hcommit
    obtain rfl := Option.some.inj hcommit
    obtain ⟨hcomparable, hextends⟩ := h.transaction holder storage htransaction
    exact ⟨⟨hcomparable, fun _ _ hnone => nomatch hnone⟩, hextends⟩
  next => cases hcommit

theorem Tabled.statement (h : Tabled s) {call : AuditChain.Call}
    (hstep : s.statement platform n call = some s') :
    Tabled s' ∧ s.committed.operationalEvents <+: s'.committed.operationalEvents := by
  unfold System.statement at hstep
  split at hstep
  next outcome _ =>
    obtain ⟨t, hcommit, rfl⟩ := Option.map_eq_some_iff.1 hstep
    exact h.commit hcommit _
  next hfinished =>
    obtain ⟨storage, hvisible, rfl⟩ := Option.map_eq_some_iff.1 hstep
    obtain ⟨hcomparable, hextends⟩ := h.visible hvisible
    split
    next storage' phase' hok =>
      obtain ⟨hcomparable', hextends'⟩ := hcomparable.appendOwned hfinished hok
      refine ⟨⟨h.committed, fun m other hother => ?_⟩, List.prefix_refl _⟩
      obtain rfl := congrArg Prod.snd (Option.some.inj hother)
      exact ⟨hcomparable', hextends.trans hextends'⟩
    next failure _ => exact ⟨h.rolledBack _, List.prefix_refl _⟩

/-- The appenders only add rows. -/
theorem Tabled.step (h : Tabled s) {action : AuditChain.Action}
    (hstep : s.step platform action = some s') :
    Tabled s' ∧ s.committed.operationalEvents <+: s'.committed.operationalEvents := by
  cases action with
  | appendIfAbsent n event =>
      simp only [System.step] at hstep
      split_ifs at hstep
      obtain rfl := Option.some.inj hstep
      exact ⟨⟨h.committed, h.transaction⟩, List.prefix_refl _⟩
  | statement n =>
      obtain ⟨call, -, hstep⟩ := Option.bind_eq_some_iff.1 hstep
      exact h.statement hstep
  | fail n failure interrupted =>
      obtain ⟨call, -, rfl⟩ := Option.map_eq_some_iff.1 hstep
      exact ⟨h.rolledBack _, List.prefix_refl _⟩
  | unconfirmed n failure interrupted =>
      obtain ⟨call, -, hstep⟩ := Option.bind_eq_some_iff.1 hstep
      unfold System.unconfirmed at hstep
      split at hstep
      next =>
        obtain ⟨t, hcommit, rfl⟩ := Option.map_eq_some_iff.1 hstep
        exact h.commit hcommit _
      next => cases hstep

end System

/-! ## The queries -/

section Queries

variable {κ : Type} {server : Server κ} {principal : AuthenticatedPrincipal}
  {query : OperationalEventQuery} {filter : Filter} {cursor : OperationalEventCursor}
  {mark : ℤ ×ₗ κ} {rows : List OperationalEventReadModel} {row : OperationalEventReadModel}
  {limit : ℕ}

/-- A cursor as it is compared with the rows, none where the statement fails. -/
def cursorKey (server : Server κ) (cursor : OperationalEventCursor) : Option (ℤ ×ₗ κ) := do
  let occurredAt ← timestampParameter cursor.occurredAt
  let id ← textParameter cursor.id
  return orderKey server occurredAt id

def selected (server : Server κ) (filter : Filter) (rows : List OperationalEventReadModel) :
    List OperationalEventReadModel :=
  rows.filter fun row => filter.selects server row

theorem mem_selected :
    row ∈ selected server filter rows ↔ row ∈ rows ∧ filter.selects server row = true :=
  List.mem_filter

theorem rowKey_inj {row' : OperationalEventReadModel} (h : rowKey server row = rowKey server row') :
    row.id = row'.id :=
  server.collation_injective (congrArg Prod.snd (toLex.injective h))

theorem Comparable.keys (h : Comparable rows) :
    ((selected server filter rows).map (rowKey server)).Nodup := by
  have hids := h.ids
  rw [List.Nodup, List.pairwise_map] at hids ⊢
  exact (hids.sublist List.filter_sublist).imp fun hne heq => hne (rowKey_inj heq)

/-- The cursor of a row is compared as the row is. -/
theorem Comparable.cursorKey (h : Comparable rows) (hrow : row ∈ rows)
    (hcursor : toCursor row = some cursor) :
    cursorKey server cursor = some (rowKey server row) := by
  unfold toCursor at hcursor
  split_ifs at hcursor
  obtain rfl := Option.some.inj hcursor
  simp only [EventStream.cursorKey, h.instants row hrow, h.texts row hrow, Option.bind_eq_bind,
    Option.bind_some, Option.pure_def, rowKey]

variable [LinearOrder κ]

theorem andAfterWatermark_eq (occurredAt : ℤ) (id : String) :
    andAfterWatermark server occurredAt id row =
      decide (orderKey server occurredAt id < rowKey server row) := by
  have hlt : orderKey server occurredAt id < rowKey server row ↔ occurredAt < row.occurredAt ∨
      occurredAt = row.occurredAt ∧ server.collation id < server.collation row.id :=
    Prod.Lex.toLex_lt_toLex
  rw [andAfterWatermark, decide_eq_decide.2 hlt, Bool.decide_or, Bool.decide_and,
    decide_eq_decide.2 (eq_comm (a := row.occurredAt))]

/-- The tail of the stream is read by a watermark. -/
theorem eventsAfter_eq (hfilter : Filter.append platform principal query = some filter)
    (hmark : cursorKey server cursor = some mark) :
    eventsAfter server platform principal query rows cursor limit =
      some ((pending (rowKey server) mark (selected server filter rows)).take limit) := by
  obtain ⟨occurredAt, hoccurredAt, hmark⟩ := Option.bind_eq_some_iff.1 hmark
  obtain ⟨id, hid, hmark⟩ := Option.bind_eq_some_iff.1 hmark
  obtain rfl := Option.some.inj hmark
  have hfiltered : (rows.filter fun row =>
      filter.selects server row && andAfterWatermark server occurredAt id row) =
      (selected server filter rows).filter fun row =>
        orderKey server occurredAt id < rowKey server row := by
    rw [selected, List.filter_filter]
    refine List.filter_congr fun row _ => ?_
    rw [andAfterWatermark_eq, Bool.and_comm]
  simp only [eventsAfter, hfilter, hoccurredAt, hid, hfiltered, Option.bind_eq_bind,
    Option.bind_some, Option.pure_def, pending]

end Queries

/-! ## The stream -/

section Stream

variable {κ : Type} [LinearOrder κ] {server : Server κ} {principal : AuthenticatedPrincipal}
  {query : OperationalEventQuery} {filter : Filter} {cursor cursor' : OperationalEventCursor}
  {mark : ℤ ×ₗ κ} {s s' : State}

/-- The next batch of a stream with the cursor. -/
def nextBatch (server : Server κ) (filter : Filter) (mark : ℤ ×ₗ κ)
    (rows : List OperationalEventReadModel) : List OperationalEventReadModel :=
  (pending (rowKey server) mark (selected server filter rows)).take BATCH_LIMIT

theorem mem_nextBatch {rows : List OperationalEventReadModel} {row : OperationalEventReadModel}
    (h : Comparable rows) : row ∈ nextBatch server filter mark rows ↔
      row ∈ selected server filter rows ∧ mark < rowKey server row ∧
        rowKey server row ≤ moved (rowKey server) mark (nextBatch server filter mark rows) :=
  mem_taken h.keys

theorem pending_nextBatch {rows : List OperationalEventReadModel} (h : Comparable rows) :
    pending (rowKey server) (moved (rowKey server) mark (nextBatch server filter mark rows))
        (selected server filter rows) =
      (pending (rowKey server) mark (selected server filter rows)).drop BATCH_LIMIT :=
  pending_moved h.keys BATCH_LIMIT

/-- What the stream has written are rows of the query up to its cursor. -/
structure Follows (server : Server κ) (filter : Filter) (mark : ℤ ×ₗ κ) (s : State) : Prop where
  cursor : ∃ cursor, s.stream = .following cursor ∧ cursorKey server cursor = some mark
  written : ∀ row ∈ s.written,
    row ∈ selected server filter s.operationalEvents ∧ rowKey server row ≤ mark
  distinct : s.written.Nodup

theorem Follows.of_rows (h : Follows server filter mark s) (hstream : s'.stream = s.stream)
    (hwritten : s'.written = s.written) (hrows : s.operationalEvents <+: s'.operationalEvents) :
    Follows server filter mark s' where
  cursor := by
    rw [hstream]
    exact h.cursor
  written := by
    intro row hrow
    rw [hwritten] at hrow
    obtain ⟨hselected, hkey⟩ := h.written row hrow
    obtain ⟨hstored, hselects⟩ := mem_selected.1 hselected
    exact ⟨mem_selected.2 ⟨hrows.subset hstored, hselects⟩, hkey⟩
  distinct := by
    rw [hwritten]
    exact h.distinct

theorem toCursor_eq_none {event : OperationalEventReadModel} (h : toCursor event = none) :
    JvmText.isBlank event.id = true := by
  unfold toCursor at h
  split_ifs at h with hblank
  exact Bool.eq_true_of_not_eq_false hblank

theorem nextBatch_nodup {rows : List OperationalEventReadModel} (h : Comparable rows) :
    (nextBatch server filter mark rows).Nodup :=
  (Watermarks.pending_nodup mark h.keys).sublist (List.take_sublist BATCH_LIMIT _)

/-- The batch is written, and the stream goes on from its last event. -/
theorem Follows.batched (h : Follows server filter mark s) (hrows : Comparable s.operationalEvents)
    (hsame : s'.operationalEvents = s.operationalEvents)
    (hwritten : s'.written = s.written ++ nextBatch server filter mark s.operationalEvents)
    (hcursor : ∃ cursor, s'.stream = .following cursor ∧ cursorKey server cursor =
      some (moved (rowKey server) mark (nextBatch server filter mark s.operationalEvents))) :
    Follows server filter
      (moved (rowKey server) mark (nextBatch server filter mark s.operationalEvents)) s' where
  cursor := hcursor
  written := by
    intro row hrow
    rw [hwritten] at hrow
    rw [hsame]
    rcases List.mem_append.1 hrow with hold | hnew
    · obtain ⟨hselected, hkey⟩ := h.written row hold
      exact ⟨hselected, hkey.trans (Watermarks.le_moved BATCH_LIMIT)⟩
    · obtain ⟨hselected, -, hkey⟩ := (mem_nextBatch hrows).1 hnew
      exact ⟨hselected, hkey⟩
  distinct := by
    rw [hwritten, List.nodup_append]
    refine ⟨h.distinct, nextBatch_nodup hrows, ?_⟩
    rintro row hold _ hnew rfl
    exact (h.written row hold).2.not_gt ((mem_nextBatch hrows).1 hnew).2.1

theorem Follows.writeBatch (h : Follows server filter mark s)
    (hrows : Comparable s.operationalEvents)
    (hfilter : Filter.append platform principal query = some filter)
    (hstep : step server platform principal query s .writeBatch = some s') :
    s'.appenders = s.appenders ∧
      s'.written = s.written ++ nextBatch server filter mark s.operationalEvents ∧
      (s'.stream = .failed ∧ (∃ row ∈ s.operationalEvents, JvmText.isBlank row.id = true) ∨
        ∃ cursor, s'.stream = .following cursor ∧ cursorKey server cursor =
          some (moved (rowKey server) mark
            (nextBatch server filter mark s.operationalEvents))) := by
  obtain ⟨cursor, hcursor, hmark⟩ := h.cursor
  have hevents : eventsAfter server platform principal query s.operationalEvents cursor
      BATCH_LIMIT = some (nextBatch server filter mark s.operationalEvents) :=
    eventsAfter_eq hfilter hmark
  simp only [step, hcursor, State.writeBatch, hevents, Option.some.injEq] at hstep
  subst hstep
  refine ⟨rfl, rfl, ?_⟩
  cases hlast : (nextBatch server filter mark s.operationalEvents).getLast? with
  | none =>
      rw [moved, hlast]
      exact .inr ⟨cursor, rfl, hmark⟩
  | some event =>
      have hstored := (mem_selected.1
        ((mem_nextBatch hrows).1 (List.mem_of_getLast? hlast)).1).1
      rw [moved, hlast]
      cases hnext : toCursor event with
      | none => exact .inl ⟨by simp only [hnext], event, hstored, toCursor_eq_none hnext⟩
      | some next =>
          exact .inr ⟨next, by simp only [hnext], hrows.cursorKey hstored hnext⟩

instance : Std.Total fun row row' => rowKey server row' ≤ rowKey server row :=
  ⟨fun row row' => le_total (rowKey server row') (rowKey server row)⟩

instance : IsTrans OperationalEventReadModel fun row row' =>
    rowKey server row' ≤ rowKey server row := ⟨fun _ _ _ h h' => h'.trans h⟩

/-- The rows of the query, the latest first. -/
def latest (server : Server κ) (filter : Filter) (rows : List OperationalEventReadModel) :
    List OperationalEventReadModel :=
  (selected server filter rows).insertionSort fun row row' => rowKey server row' ≤ rowKey server row

theorem eventPageFor_eq_some {rows : List OperationalEventReadModel} {limit : ℕ}
    {page : OperationalEventPage}
    (h : eventPageFor server platform principal query rows limit = some page) :
    ∃ filter, Filter.append platform principal query = some filter ∧
      page.events = (latest server filter rows).take limit := by
  obtain ⟨filter, hfilter, h⟩ := Option.bind_eq_some_iff.1 h
  refine ⟨filter, hfilter, ?_⟩
  have htake : ((latest server filter rows).take (limit + 1)).take limit =
      (latest server filter rows).take limit := by
    rw [List.take_take, Nat.min_eq_left (Nat.le_succ limit)]
  rw [← htake]
  dsimp only at h
  split at h
  next event _ =>
    split_ifs at h
    · obtain ⟨nextCursor, -, h⟩ := Option.bind_eq_some_iff.1 h
      obtain rfl := Option.some.inj h
      rfl
    · obtain rfl := Option.some.inj h
      rfl
  next =>
    obtain rfl := Option.some.inj h
    rfl

theorem mem_latest {rows : List OperationalEventReadModel} {row : OperationalEventReadModel} :
    row ∈ latest server filter rows ↔ row ∈ selected server filter rows :=
  List.mem_insertionSort _

theorem le_head_of_mem_latest {rows page : List OperationalEventReadModel}
    {event row : OperationalEventReadModel} {limit : ℕ}
    (hpage : page = (latest server filter rows).take limit) (hhead : page.head? = some event)
    (hrow : row ∈ page) : rowKey server row ≤ rowKey server event := by
  have hsorted : page.Pairwise fun row row' => rowKey server row' ≤ rowKey server row := by
    rw [hpage]
    exact (List.pairwise_insertionSort _ _).sublist (List.take_sublist limit _)
  obtain ⟨rest, rfl⟩ := List.head?_eq_some_iff.1 hhead
  rcases List.mem_cons.1 hrow with rfl | hrest
  · exact le_rfl
  · exact (List.pairwise_cons.1 hsorted).1 row hrest

theorem latest_nodup {rows : List OperationalEventReadModel} (h : Comparable rows) :
    (latest server filter rows).Nodup := by
  rw [latest, (List.perm_insertionSort _ _).nodup_iff]
  exact (List.Nodup.of_map (·.id) h.ids).filter _

/-- The first page is written, and the stream goes on from the latest event. -/
theorem follows_writeInitialPage (hrows : Comparable s.operationalEvents) (hnew : s.written = [])
    (hstep : step server platform principal query s .writeInitialPage = some s') :
    s'.appenders = s.appenders ∧ (s'.stream = .failed ∨
      ∃ filter, Filter.append platform principal query = some filter ∧
        (s'.stream = .started ∧ s'.written = [] ∨
          ∃ mark, Follows server filter mark s')) := by
  simp only [step] at hstep
  split_ifs at hstep
  obtain rfl := Option.some.inj hstep
  unfold State.writeInitialPage
  split
  next => exact ⟨rfl, .inl rfl⟩
  next page hpage =>
    refine ⟨rfl, ?_⟩
    obtain ⟨filter, hfilter, hevents⟩ := eventPageFor_eq_some hpage
    cases hhead : page.events.head? with
    | none =>
        refine .inr ⟨filter, hfilter, .inl ⟨rfl, ?_⟩⟩
        rw [hnew, List.head?_eq_none_iff.1 hhead]
        rfl
    | some event =>
        cases hcursor : toCursor event with
        | none => exact .inl (by simp only [hcursor])
        | some cursor =>
            have hpage : ∀ row ∈ page.events, row ∈ selected server filter s.operationalEvents := by
              intro row hrow
              rw [hevents] at hrow
              exact mem_latest.1 (List.mem_of_mem_take hrow)
            have hevent := (mem_selected.1 (hpage event (List.mem_of_head? hhead))).1
            refine .inr ⟨filter, hfilter, .inr ⟨rowKey server event, ?_, ?_, ?_⟩⟩
            · exact ⟨cursor, by simp only [hcursor], hrows.cursorKey hevent hcursor⟩
            · intro row hrow
              rw [hnew, List.nil_append, List.mem_reverse] at hrow
              exact ⟨hpage row hrow, le_head_of_mem_latest hevents hhead hrow⟩
            · rw [hnew, List.nil_append, List.nodup_reverse, hevents]
              exact (latest_nodup hrows).sublist (List.take_sublist _ _)

/-! ## Runs -/

/-- A stream without a cursor has written nothing, and one with a cursor follows it. -/
structure Reached (server : Server κ) (platform : Platform) (principal : AuthenticatedPrincipal)
    (query : OperationalEventQuery) (s : State) : Prop where
  tabled : Tabled s.appenders
  unwritten : s.stream = .unopened ∨ s.stream = .opened ∨ s.stream = .started → s.written = []
  bound : s.stream = .started → ∃ filter, Filter.append platform principal query = some filter
  following : ∀ cursor mark, s.stream = .following cursor → cursorKey server cursor = some mark →
    ∃ filter, Filter.append platform principal query = some filter ∧ Follows server filter mark s

theorem reached_initial : Reached server platform principal query .initial where
  tabled := tabled_initial
  unwritten _ := rfl
  bound h := nomatch h
  following _ _ h := nomatch h

theorem Reached.rows (h : Reached server platform principal query s) :
    Comparable s.operationalEvents := h.tabled.committed

theorem Reached.of_follows (htabled : Tabled s.appenders)
    (hfilter : Filter.append platform principal query = some filter)
    (h : Follows server filter mark s) : Reached server platform principal query s := by
  obtain ⟨cursor, hcursor, hmark⟩ := h.cursor
  refine ⟨htabled, fun hstream => ?_, fun hstream => ⟨filter, hfilter⟩, ?_⟩
  · rw [hcursor] at hstream
    rcases hstream with h | h | h
    all_goals cases h
  · intro other mark' hother hmark'
    obtain rfl := Stream.following.inj (hcursor.symm.trans hother)
    obtain rfl := Option.some.inj (hmark.symm.trans hmark')
    exact ⟨filter, hfilter, h⟩

theorem Reached.of_failed (htabled : Tabled s.appenders) (h : s.stream = .failed) :
    Reached server platform principal query s := by
  refine ⟨htabled, fun hstream => ?_, fun hstream => ?_, fun cursor mark hstream => ?_⟩
  · rw [h] at hstream
    rcases hstream with h | h | h
    all_goals cases h
  · rw [h] at hstream
    cases hstream
  · rw [h] at hstream
    cases hstream

/-- The statement succeeds only if the cursor can be compared with. -/
theorem cursorKey_of_eventsAfter {rows events : List OperationalEventReadModel} {limit : ℕ}
    (h : eventsAfter server platform principal query rows cursor limit = some events) :
    ∃ mark, cursorKey server cursor = some mark := by
  obtain ⟨filter, -, h⟩ := Option.bind_eq_some_iff.1 h
  obtain ⟨occurredAt, hoccurredAt, h⟩ := Option.bind_eq_some_iff.1 h
  obtain ⟨id, hid, -⟩ := Option.bind_eq_some_iff.1 h
  refine ⟨orderKey server occurredAt id, ?_⟩
  simp only [cursorKey, hoccurredAt, hid, Option.bind_eq_bind, Option.bind_some, Option.pure_def]

theorem operationalEvents_of_appenders (h : s'.appenders = s.appenders) :
    s'.operationalEvents = s.operationalEvents := by
  rw [State.operationalEvents, h, State.operationalEvents]

theorem Reached.writeBatch (h : Reached server platform principal query s)
    (hstep : step server platform principal query s .writeBatch = some s') :
    Reached server platform principal query s' ∧ s'.appenders = s.appenders := by
  cases hstream : s.stream with
  | following cursor =>
      cases hevents : eventsAfter server platform principal query s.operationalEvents cursor
        BATCH_LIMIT with
      | none =>
          simp only [step, hstream, State.writeBatch, hevents, Option.some.injEq] at hstep
          subst hstep
          exact ⟨.of_failed h.tabled rfl, rfl⟩
      | some events =>
          obtain ⟨mark, hmark⟩ := cursorKey_of_eventsAfter hevents
          obtain ⟨filter, hfilter, hfollows⟩ := h.following cursor mark hstream hmark
          obtain ⟨happenders, hwritten, hnext⟩ :=
            hfollows.writeBatch h.rows hfilter hstep
          have htabled : Tabled s'.appenders := by
            rw [happenders]
            exact h.tabled
          rcases hnext with ⟨hfailed, -⟩ | hcursor
          · exact ⟨.of_failed htabled hfailed, happenders⟩
          · exact ⟨.of_follows htabled hfilter (hfollows.batched h.rows
              (operationalEvents_of_appenders happenders) hwritten hcursor), happenders⟩
  | unopened => simp only [step, hstream, reduceCtorEq] at hstep
  | opened => simp only [step, hstream, reduceCtorEq] at hstep
  | started => simp only [step, hstream, reduceCtorEq] at hstep
  | failed => simp only [step, hstream, reduceCtorEq] at hstep

theorem Reached.step (h : Reached server platform principal query s) {action : Action}
    (hstep : step server platform principal query s action = some s') :
    Reached server platform principal query s' ∧ s.operationalEvents <+: s'.operationalEvents := by
  cases action with
  | appender action =>
      obtain ⟨appenders, happenders, rfl⟩ := Option.map_eq_some_iff.1 hstep
      obtain ⟨htabled, hrows⟩ := h.tabled.step happenders
      refine ⟨⟨htabled, h.unwritten, h.bound, fun cursor mark hcursor hmark => ?_⟩, hrows⟩
      obtain ⟨filter, hfilter, hfollows⟩ := h.following cursor mark hcursor hmark
      exact ⟨filter, hfilter, hfollows.of_rows rfl rfl hrows⟩
  | body =>
      simp only [EventStream.step] at hstep
      split_ifs at hstep with hunopened
      obtain rfl := Option.some.inj hstep
      exact ⟨⟨h.tabled, fun _ => h.unwritten (.inl hunopened), nofun, nofun⟩, List.prefix_refl _⟩
  | writeInitialPage =>
      have hopened : s.stream = .opened := by
        by_contra hnot
        rw [EventStream.step, if_neg hnot] at hstep
        cases hstep
      obtain ⟨happenders, hnext⟩ := follows_writeInitialPage h.rows
        (h.unwritten (.inr (.inl hopened))) hstep
      have htabled : Tabled s'.appenders := by
        rw [happenders]
        exact h.tabled
      have hsame : s.operationalEvents <+: s'.operationalEvents := by
        rw [operationalEvents_of_appenders happenders]
      rcases hnext with hfailed | ⟨filter, hfilter, ⟨hstarted, hwritten⟩ | ⟨mark, hfollows⟩⟩
      · exact ⟨.of_failed htabled hfailed, hsame⟩
      · refine ⟨⟨htabled, fun _ => hwritten, fun _ => ⟨filter, hfilter⟩, ?_⟩, hsame⟩
        intro cursor mark hcursor
        rw [hstarted] at hcursor
        cases hcursor
      · exact ⟨.of_follows htabled hfilter hfollows, hsame⟩
  | now instant =>
      simp only [EventStream.step] at hstep
      split_ifs at hstep with hstarted
      obtain rfl := Option.some.inj hstep
      obtain ⟨filter, hfilter⟩ := h.bound hstarted
      have hwritten := h.unwritten (.inr (.inr hstarted))
      refine ⟨⟨h.tabled, fun _ => hwritten, nofun, ?_⟩, List.prefix_refl _⟩
      · intro cursor mark hcursor hmark
        refine ⟨filter, hfilter, ⟨cursor, hcursor, hmark⟩, ?_, ?_⟩
        · intro row hrow
          rw [hwritten] at hrow
          cases hrow
        · rw [hwritten]
          exact List.nodup_nil
  | writeBatch =>
      obtain ⟨hreached, happenders⟩ := h.writeBatch hstep
      refine ⟨hreached, ?_⟩
      rw [operationalEvents_of_appenders happenders]

/-- From a state in which the stream followed a cursor it has written, of the rows that were stored
then, those that its cursor has passed. -/
structure Since (server : Server κ) (filter : Filter) (start : State) (mark : ℤ ×ₗ κ) (s : State)
    (mark' : ℤ ×ₗ κ) : Prop where
  follows : Follows server filter mark' s
  later : mark ≤ mark'
  written : ∀ row ∈ selected server filter start.operationalEvents,
    row ∈ s.written ↔
      row ∈ start.written ∨ mark < rowKey server row ∧ rowKey server row ≤ mark'

variable {start : State} {mark' : ℤ ×ₗ κ}

theorem Since.refl (h : Follows server filter mark s) : Since server filter s mark s mark where
  follows := h
  later := le_rfl
  written row _ := by
    rw [or_iff_left]
    exact fun hkey => hkey.1.not_ge hkey.2

theorem Since.writeBatch (h : Since server filter start mark s mark')
    (hrows : Comparable s.operationalEvents)
    (hstart : start.operationalEvents <+: s.operationalEvents)
    (happenders : s'.appenders = s.appenders)
    (hwritten : s'.written = s.written ++ nextBatch server filter mark' s.operationalEvents)
    (hcursor : ∃ cursor, s'.stream = .following cursor ∧ cursorKey server cursor =
      some (moved (rowKey server) mark' (nextBatch server filter mark' s.operationalEvents))) :
    Since server filter start mark s'
      (moved (rowKey server) mark' (nextBatch server filter mark' s.operationalEvents)) where
  follows := h.follows.batched hrows (operationalEvents_of_appenders happenders) hwritten hcursor
  later := h.later.trans (Watermarks.le_moved BATCH_LIMIT)
  written row hrow := by
    obtain ⟨hstored, hselects⟩ := mem_selected.1 hrow
    have hselected : row ∈ selected server filter s.operationalEvents :=
      mem_selected.2 ⟨hstart.subset hstored, hselects⟩
    have hmoved : mark' ≤
        moved (rowKey server) mark' (nextBatch server filter mark' s.operationalEvents) :=
      Watermarks.le_moved BATCH_LIMIT
    rw [hwritten, List.mem_append, h.written row hrow, mem_nextBatch hrows, or_assoc,
      and_iff_right hselected]
    refine or_congr_right ⟨?_, ?_⟩
    · rintro (⟨hafter, hpassed⟩ | ⟨hafter, hpassed⟩)
      · exact ⟨hafter, hpassed.trans hmoved⟩
      · exact ⟨h.later.trans_lt hafter, hpassed⟩
    · rintro ⟨hafter, hpassed⟩
      rcases le_or_gt (rowKey server row) mark' with hle | hgt
      · exact .inl ⟨hafter, hle⟩
      · exact .inr ⟨hgt, hpassed⟩

/-- A stream with a cursor only reads on. -/
theorem Follows.action (h : Follows server filter mark s) {action : Action}
    (hstep : step server platform principal query s action = some s') :
    (∃ appending, action = .appender appending) ∨ action = .writeBatch := by
  obtain ⟨cursor, hcursor, -⟩ := h.cursor
  cases action with
  | appender appending => exact .inl ⟨appending, rfl⟩
  | body => simp only [step, hcursor, reduceCtorEq, if_false] at hstep
  | writeInitialPage => simp only [step, hcursor, reduceCtorEq, if_false] at hstep
  | now instant => simp only [step, hcursor, reduceCtorEq, if_false] at hstep
  | writeBatch => exact .inr rfl

/-- What a run keeps that starts where the stream follows a cursor; no id may be blank. -/
structure FollowedOn (server : Server κ) (filter : Filter) (start : State) (mark : ℤ ×ₗ κ)
    (s : State) : Prop where
  rows : start.operationalEvents <+: s.operationalEvents
  since : (∀ row ∈ s.operationalEvents, JvmText.isBlank row.id = false) →
    ∃ mark', Since server filter start mark s mark'

theorem FollowedOn.step (h : FollowedOn server filter start mark s)
    (hreached : Reached server platform principal query s)
    (hfilter : Filter.append platform principal query = some filter) {action : Action}
    (hstep : EventStream.step server platform principal query s action = some s') :
    FollowedOn server filter start mark s' := by
  obtain ⟨-, hrows⟩ := hreached.step hstep
  refine ⟨h.rows.trans hrows, fun hids => ?_⟩
  have hids' : ∀ row ∈ s.operationalEvents, JvmText.isBlank row.id = false :=
    fun row hrow => hids row (hrows.subset hrow)
  obtain ⟨mark', hsince⟩ := h.since hids'
  rcases hsince.follows.action hstep with ⟨appending, rfl⟩ | rfl
  · obtain ⟨appenders, -, rfl⟩ := Option.map_eq_some_iff.1 hstep
    exact ⟨mark', hsince.follows.of_rows rfl rfl hrows, hsince.later, hsince.written⟩
  · obtain ⟨happenders, hwritten, hnext⟩ :=
      hsince.follows.writeBatch hreached.rows hfilter hstep
    rcases hnext with ⟨-, row, hrow, hblank⟩ | hcursor
    · rw [hids' row hrow] at hblank
      cases hblank
    · exact ⟨_, hsince.writeBatch hreached.rows h.rows happenders hwritten hcursor⟩

theorem FollowedOn.run (h : FollowedOn server filter start mark s)
    (hreached : Reached server platform principal query s)
    (hfilter : Filter.append platform principal query = some filter) {actions : List Action}
    (hrun : run (EventStream.step server platform principal query) s actions = some s') :
    Reached server platform principal query s' ∧ FollowedOn server filter start mark s' := by
  have hinvariant : ∀ s action s', Reached server platform principal query s ∧
      FollowedOn server filter start mark s →
        EventStream.step server platform principal query s action = some s' →
          Reached server platform principal query s' ∧ FollowedOn server filter start mark s' :=
    fun _ _ _ h hstep => ⟨(h.1.step hstep).1, h.2.step h.1 hfilter hstep⟩
  exact run_invariant_of_step hinvariant ⟨hreached, h⟩ hrun

/-- Enough batches write all that stands after the cursor. -/
theorem Follows.drained (h : Follows server filter mark s)
    (hreached : Reached server platform principal query s)
    (hfilter : Filter.append platform principal query = some filter)
    (hids : ∀ row ∈ s.operationalEvents, JvmText.isBlank row.id = false) {n : ℕ}
    (hn : (pending (rowKey server) mark (selected server filter s.operationalEvents)).length ≤
      n * BATCH_LIMIT) :
    ∃ t mark', run (EventStream.step server platform principal query) s
        (List.replicate n .writeBatch) = some t ∧
      t.operationalEvents = s.operationalEvents ∧ Follows server filter mark' t ∧
        ∀ row ∈ selected server filter s.operationalEvents, rowKey server row ≤ mark' := by
  induction n generalizing s mark with
  | zero =>
      refine ⟨s, mark, rfl, rfl, h, fun row hrow => not_lt.1 fun hafter => ?_⟩
      rw [Nat.zero_mul, Nat.le_zero, List.length_eq_zero_iff] at hn
      exact absurd (hn ▸ mem_pending.2 ⟨hrow, hafter⟩) List.not_mem_nil
  | succ n ih =>
      obtain ⟨cursor, hcursor, hmark⟩ := h.cursor
      have hstep : EventStream.step server platform principal query s .writeBatch =
          some (s.writeBatch server platform principal query cursor) := by
        simp only [EventStream.step, hcursor]
      obtain ⟨happenders, hwritten, hnext⟩ :=
        h.writeBatch hreached.rows hfilter hstep
      have hrows := operationalEvents_of_appenders happenders
      rcases hnext with ⟨-, row, hrow, hblank⟩ | hnext
      · rw [hids row hrow] at hblank
        cases hblank
      · have hfollows := h.batched hreached.rows hrows hwritten hnext
        obtain ⟨t, mark', hrun, hsame, hlast, hpassed⟩ := ih hfollows (hreached.step hstep).1
          (by rw [hrows]; exact hids) (by
            rw [hrows, pending_nextBatch hreached.rows, List.length_drop]
            rw [Nat.add_one_mul] at hn
            omega)
        rw [hrows] at hsame hpassed
        refine ⟨t, mark', ?_, hsame, hlast, hpassed⟩
        rw [List.replicate_succ, Runs.run_cons, hstep]
        exact hrun

theorem Reached.run {actions : List Action}
    (hrun : run (EventStream.step server platform principal query) .initial actions = some s) :
    Reached server platform principal query s := by
  have hstep : ∀ s action s', Reached server platform principal query s →
      EventStream.step server platform principal query s action = some s' →
        Reached server platform principal query s' := fun _ _ _ h hstep => (h.step hstep).1
  exact run_invariant_of_step hstep reached_initial hrun

end Stream

def sampleServer : Server String where
  lower text := text
  collation text := text
  collation_injective := Function.injective_id
  organizationGroupClosure := []

def viewer : AuthenticatedPrincipal where
  username := "viewer"
  role := .viewer
  groupId := ⟨"co-a", .refl false⟩
  securityVersion := 1
  usernameNotBlank := .refl false
  securityVersionPositive := Nat.one_pos

def apiEvent (id : String) (occurredAt : ℤ) : OperationalEventReadModel where
  id
  occurredAt
  severity := "info"
  category := "api"
  source := "test"
  message := "signal"
  connections := 1
  latencyMs := 1
  throughputMbps := 1.0
  groupId := ⟨"co-a", .refl false⟩

/-- A call that appends an event outside the audit chain: the head, the id, the row, the commit. -/
def appending (n : ℕ) (event : OperationalEventReadModel) : List Action :=
  .appender (.appendIfAbsent n event) :: List.replicate 4 (.appender (.statement n))

/-- A stream that is opened on an empty table, and an event afterwards. -/
def openedBefore (event : OperationalEventReadModel) : List Action :=
  [.body, .writeInitialPage, .now (1500 * Clock.millisecond)] ++ appending 0 event

def viewerFilter : Filter := ⟨"co-a", .viewer, none, none, none, none⟩

theorem append_viewer : Filter.append AuditChain.samplePlatform viewer {} = some viewerFilter := rfl

/-- A stream that is opened on an empty table, and the earlier of two events after the later one
has been written. -/
def earlierEventLast : List Action :=
  openedBefore (apiEvent "evt-1" (2000 * Clock.millisecond)) ++ [.writeBatch] ++
    appending 1 (apiEvent "evt-2" (1800 * Clock.millisecond))

end GcsSaker.EventStream
