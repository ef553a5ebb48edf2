import GcsSaker.GroupVisibility
import GcsSaker.Slices
import GcsSaker.TextOrder

/-!
# Pages of assets and of stream sessions

A page of the repository in memory against the statements of the database, which order what a
principal may see and then cut the page out. In memory a page of assets is cut out first and
sorted afterwards, and the sessions are sorted by their status. So the pages in memory are those of
the statements for contents only that already stand in the order of the statements.
-/

namespace GcsSaker.OperationalReads

open Grouping (groupBy)
open Groups
open Slices (slice)

structure AssetReadModel where
  id : Int32
  cid : String
  uuid : String
  companyId : Int32
  type : String
  name : String
  description : Option String
  imageUrl : Option String
  status : String
  createdAt : ℤ
  updatedAt : ℤ
  groupId : GroupId
  deriving DecidableEq

structure StreamSessionReadModel where
  streamId : String
  sessionId : Option String
  status : String
  source : String
  startedAt : ℤ
  lastHeartbeatAt : ℤ
  stoppedAt : Option ℤ
  groupId : GroupId
  deriving DecidableEq

def streamOf (session : StreamSessionReadModel) : GroupId × String :=
  (session.groupId, session.streamId)

/-! ## Lists in Kotlin -/

def requireCount (n : ℤ) : Except Thrown Unit :=
  require (n ≥ 0) s!"Requested element count {n} is less than zero."

def drop {α : Type} (n : ℤ) (xs : List α) : Except Thrown (List α) := do
  requireCount n
  return xs.drop n.toNat

def take {α : Type} (n : ℤ) (xs : List α) : Except Thrown (List α) := do
  requireCount n
  return xs.take n.toNat

/-- The first of the elements whose value is not below another's. -/
def maxBy {α : Type} (selector : α → ℤ) : List α → Option α
  | [] => none
  | x :: xs => some (xs.foldl (fun best y => if selector best < selector y then y else best) x)

/-! ## The repository in memory -/

def byUuid (asset asset' : AssetReadModel) : Prop := JvmText.notAfter asset.uuid asset'.uuid = true

instance : DecidableRel byUuid := fun _ _ => inferInstanceAs (Decidable (_ = true))

def byStatusAndStreamId (session session' : StreamSessionReadModel) : Prop :=
  if session.status = session'.status then
    JvmText.notAfter session.streamId session'.streamId = true
  else JvmText.notAfter session.status session'.status = true

instance : DecidableRel byStatusAndStreamId := fun session session' =>
  inferInstanceAs (Decidable (if session.status = session'.status then _ else _))

/-- `hierarchy` is what `current()` gives where there is a repository of groups. -/
structure InMemoryOperationalReadRepository where
  assetsByGateway : String → Option (List AssetReadModel)
  hierarchy : Option (Except Thrown OrganizationHierarchy)
  streamSessionHistory : List StreamSessionReadModel

namespace InMemoryOperationalReadRepository

variable (repository : InMemoryOperationalReadRepository) (principal : AuthenticatedPrincipal)

/-- `filter { canRead(principal, it.groupId) }` -/
def filterReadable {α : Type} (groupId : α → GroupId) : List α → Except Thrown (List α)
  | [] => .ok []
  | x :: xs => do
    let readable ← Groups.InMemoryOperationalReadRepository.canRead repository.hierarchy principal
      (groupId x)
    let rest ← filterReadable groupId xs
    return if readable then x :: rest else rest

def assetsForGateway (gatewayUuid : String) (limit offset : ℤ) :
    Except Thrown (List AssetReadModel) := do
  let assets ← repository.filterReadable principal AssetReadModel.groupId
    ((repository.assetsByGateway gatewayUuid).getD [])
  let dropped ← drop offset assets
  let taken ← take limit dropped
  return taken.insertionSort byUuid

def recordStreamSession (session : StreamSessionReadModel) : InMemoryOperationalReadRepository :=
  { repository with streamSessionHistory := repository.streamSessionHistory ++ [session] }

/-- The latest session of every stream, the streams in the order in which they came first. -/
def latestSessions (sessions : List StreamSessionReadModel) : List StreamSessionReadModel :=
  (groupBy streamOf sessions).filterMap fun group =>
    maxBy StreamSessionReadModel.lastHeartbeatAt group.2.reverse

def streamSessionsFor (limit offset : ℤ) : Except Thrown (List StreamSessionReadModel) := do
  let sessions ← repository.filterReadable principal StreamSessionReadModel.groupId
    repository.streamSessionHistory
  let dropped ← drop offset ((latestSessions sessions).insertionSort byStatusAndStreamId)
  take limit dropped

end InMemoryOperationalReadRepository

/-! ## The statements -/

def byHeartbeatAndStreamId (session session' : StreamSessionReadModel) : Prop :=
  session.lastHeartbeatAt > session'.lastHeartbeatAt ∨
    session.lastHeartbeatAt = session'.lastHeartbeatAt ∧
      JvmText.notAfter session.streamId session'.streamId = true

instance : DecidableRel byHeartbeatAndStreamId := fun _ _ => inferInstanceAs (Decidable (_ ∨ _))

/-- One of the orders of the selected rows that `ORDER BY` allows: it leaves open how rows stand
that it does not tell apart. -/
structure OrderedBy {α : Type} (order : α → α → Prop) (selected rows : List α) : Prop where
  perm : rows.Perm selected
  sorted : rows.Pairwise order

/-- Every page that is read is cut by `LIMIT` and `OFFSET` out of one order of the selected rows. -/
def Paged {α : Type} (order : α → α → Prop) (selected : List α)
    (read : ℕ → ℕ → Except Thrown (List α)) : Prop :=
  ∃ rows, OrderedBy order selected rows ∧
    ∀ limit offset, read limit offset = .ok (slice limit offset rows)

namespace OperationalReadSql

/-- The rows of the gateway that the statement orders. -/
def selectAssetsByGateway (organizationGroupClosure : List GroupClosureRelation)
    (gatewayAssets : List AssetReadModel) (principal : AuthenticatedPrincipal) :
    List AssetReadModel :=
  gatewayAssets.filter fun asset =>
    OperationalReadSql.selectTelemetryBase organizationGroupClosure principal asset.groupId

/-- The rows of rank 1: no session of the stream has a later heartbeat, and none of the sessions
inserted later has the same. -/
def latestAmong (before : List StreamSessionReadModel) :
    List StreamSessionReadModel → List StreamSessionReadModel
  | [] => []
  | session :: later =>
    if (∀ session' ∈ before, streamOf session' = streamOf session →
          session'.lastHeartbeatAt ≤ session.lastHeartbeatAt) ∧
        ∀ session' ∈ later, streamOf session' = streamOf session →
          session'.lastHeartbeatAt < session.lastHeartbeatAt then
      session :: latestAmong (before ++ [session]) later
    else latestAmong (before ++ [session]) later

/-- The view, over the rows of `stream_sessions` in the order of their ids. -/
def operationalStreamSessionLatest (streamSessions : List StreamSessionReadModel) :
    List StreamSessionReadModel :=
  latestAmong [] streamSessions

def selectLatestStreamSessions (organizationGroupClosure : List GroupClosureRelation)
    (streamSessions : List StreamSessionReadModel) (principal : AuthenticatedPrincipal) :
    List StreamSessionReadModel :=
  (operationalStreamSessionLatest streamSessions).filter fun session =>
    OperationalReadSql.selectTelemetryBase organizationGroupClosure principal session.groupId

end OperationalReadSql

/-! ## What a page in memory is -/

section Pages

variable {repository : InMemoryOperationalReadRepository} {principal : AuthenticatedPrincipal}
variable {limit offset : ℕ}

theorem drop_natCast {α : Type} (n : ℕ) (xs : List α) : drop n xs = .ok (xs.drop n) := by
  rw [drop, requireCount, require, if_pos (Int.natCast_nonneg n)]
  rfl

theorem take_natCast {α : Type} (n : ℕ) (xs : List α) : take n xs = .ok (xs.take n) := by
  rw [take, requireCount, require, if_pos (Int.natCast_nonneg n)]
  rfl

theorem assetsForGateway_eq {gatewayUuid : String} {assets : List AssetReadModel}
    (h : repository.filterReadable principal AssetReadModel.groupId
      ((repository.assetsByGateway gatewayUuid).getD []) = .ok assets) :
    repository.assetsForGateway principal gatewayUuid limit offset =
      .ok ((slice limit offset assets).insertionSort byUuid) := by
  rw [InMemoryOperationalReadRepository.assetsForGateway, h]
  simp only [bind, Except.bind, drop_natCast, take_natCast]
  rfl

theorem streamSessionsFor_eq {sessions : List StreamSessionReadModel}
    (h : repository.filterReadable principal StreamSessionReadModel.groupId
      repository.streamSessionHistory = .ok sessions) :
    repository.streamSessionsFor principal limit offset = .ok (slice limit offset
      ((InMemoryOperationalReadRepository.latestSessions sessions).insertionSort
        byStatusAndStreamId)) := by
  rw [InMemoryOperationalReadRepository.streamSessionsFor, h]
  simp only [bind, Except.bind, drop_natCast, take_natCast]
  rfl

end Pages

/-! ## The latest session of a stream -/

section MaxBy

variable {α : Type} {f : α → ℤ} {x : α} {front back : List α}

theorem foldl_best_of_le (h : ∀ y ∈ back, f y ≤ f x) :
    back.foldl (fun best y => if f best < f y then y else best) x = x := by
  induction back with
  | nil => rfl
  | cons y back ih =>
      obtain ⟨hy, hback⟩ := List.forall_mem_cons.1 h
      rw [List.foldl_cons, if_neg (not_lt.2 hy), ih hback]

theorem foldl_best_lt {bound : ℤ} (hx : f x < bound) (h : ∀ y ∈ front, f y < bound) :
    f (front.foldl (fun best y => if f best < f y then y else best) x) < bound := by
  induction front generalizing x with
  | nil => exact hx
  | cons y front ih =>
      obtain ⟨hy, hfront⟩ := List.forall_mem_cons.1 h
      refine ih ?_ hfront
      dsimp only
      split_ifs
      · exact hy
      · exact hx

theorem maxBy_append (hfront : ∀ y ∈ front, f y < f x) (hback : ∀ y ∈ back, f y ≤ f x) :
    maxBy f (front ++ x :: back) = some x := by
  cases front with
  | nil => exact congrArg some (foldl_best_of_le hback)
  | cons z front =>
      obtain ⟨hz, hfront⟩ := List.forall_mem_cons.1 hfront
      rw [List.cons_append, maxBy, List.foldl_append, List.foldl_cons,
        if_pos (foldl_best_lt hz hfront), foldl_best_of_le hback]

theorem exists_max {xs : List α} (h : xs ≠ []) : ∃ front x back, xs = front ++ x :: back ∧
    (∀ y ∈ front, f y < f x) ∧ ∀ y ∈ back, f y ≤ f x := by
  induction xs with
  | nil => exact absurd rfl h
  | cons z xs ih =>
      by_cases hxs : xs = []
      · subst hxs
        exact ⟨[], z, [], rfl, by simp, by simp⟩
      · obtain ⟨front, x, back, rfl, hfront, hback⟩ := ih hxs
        rcases lt_or_ge (f z) (f x) with hz | hz
        · exact ⟨z :: front, x, back, rfl, List.forall_mem_cons.2 ⟨hz, hfront⟩, hback⟩
        · refine ⟨[], z, front ++ x :: back, rfl, by simp, fun y hy => ?_⟩
          rcases List.mem_append.1 hy with hy | hy
          · exact (hfront y hy).le.trans hz
          · rcases List.mem_cons.1 hy with rfl | hy
            · exact hz
            · exact (hback y hy).trans hz

theorem maxBy_eq_some_iff {xs : List α} : maxBy f xs = some x ↔ ∃ front back,
    xs = front ++ x :: back ∧ (∀ y ∈ front, f y < f x) ∧ ∀ y ∈ back, f y ≤ f x := by
  constructor
  · intro h
    have hne : xs ≠ [] := by
      rintro rfl
      cases h
    obtain ⟨front, x', back, hxs, hfront, hback⟩ := exists_max (f := f) hne
    have hmax := maxBy_append hfront hback
    rw [← hxs, h] at hmax
    obtain rfl := Option.some.inj hmax
    exact ⟨front, back, hxs, hfront, hback⟩
  · rintro ⟨front, back, rfl, hfront, hback⟩
    exact maxBy_append hfront hback

end MaxBy

section Latest

variable {sessions before : List StreamSessionReadModel} {session session' : StreamSessionReadModel}

open InMemoryOperationalReadRepository (latestSessions)
open OperationalReadSql (latestAmong operationalStreamSessionLatest)

theorem mem_latestSessions : session ∈ latestSessions sessions ↔
    maxBy StreamSessionReadModel.lastHeartbeatAt
      (sessions.filter fun session' => streamOf session' = streamOf session).reverse =
        some session := by
  rw [latestSessions, List.mem_filterMap]
  constructor
  · rintro ⟨⟨stream, members⟩, hgroup, hmax⟩
    obtain ⟨-, hmembers⟩ := Grouping.mem_groupBy.1 hgroup
    obtain ⟨front, back, hsplit, -⟩ := maxBy_eq_some_iff.1 hmax
    have hmem : session ∈ members := by
      rw [← List.mem_reverse, hsplit]
      exact List.mem_append_right front (List.mem_cons_self ..)
    rw [hmembers, List.mem_filter] at hmem
    obtain rfl : streamOf session = stream := of_decide_eq_true hmem.2
    rw [hmembers] at hmax
    exact hmax
  · intro hmax
    obtain ⟨front, back, hsplit, -⟩ := maxBy_eq_some_iff.1 hmax
    have hmem : session ∈ sessions.filter fun session' => streamOf session' = streamOf session := by
      rw [← List.mem_reverse, hsplit]
      exact List.mem_append_right front (List.mem_cons_self ..)
    refine ⟨(streamOf session, _), Grouping.mem_groupBy.2 ⟨?_, rfl⟩, hmax⟩
    exact List.mem_map_of_mem (f := streamOf) (List.mem_filter.1 hmem).1

theorem nodup_latestSessions (sessions : List StreamSessionReadModel) :
    ((latestSessions sessions).map streamOf).Nodup := by
  have hsub : ∀ groups : List ((GroupId × String) × List StreamSessionReadModel),
      (∀ group ∈ groups, ∀ session ∈ group.2, streamOf session = group.1) →
        ((groups.filterMap fun group =>
          maxBy StreamSessionReadModel.lastHeartbeatAt group.2.reverse).map streamOf).Sublist
            (groups.map Prod.fst) := by
    intro groups hgroups
    induction groups with
    | nil => exact .slnil
    | cons group groups ih =>
        obtain ⟨hgroup, hrest⟩ := List.forall_mem_cons.1 hgroups
        rw [List.map_cons, List.filterMap_cons]
        cases hmax : maxBy StreamSessionReadModel.lastHeartbeatAt group.2.reverse with
        | none => exact (ih hrest).cons _
        | some session =>
            obtain ⟨front, back, hsplit, -⟩ := maxBy_eq_some_iff.1 hmax
            have hmem : session ∈ group.2 := by
              rw [← List.mem_reverse, hsplit]
              exact List.mem_append_right front (List.mem_cons_self ..)
            rw [List.map_cons, hgroup session hmem]
            exact (ih hrest).cons_cons _
  refine (Grouping.nodup_firsts (sessions.map streamOf)).sublist ?_
  rw [← Grouping.map_fst_groupBy]
  refine hsub _ fun ⟨stream, members⟩ hgroup session hsession => ?_
  rw [(Grouping.mem_groupBy.1 hgroup).2] at hsession
  exact of_decide_eq_true (List.mem_filter.1 hsession).2

/-- A session has rank 1 if none before it has a later heartbeat and all after it earlier ones. -/
theorem mem_latestAmong : session ∈ latestAmong before sessions ↔ ∃ front back,
    sessions = front ++ session :: back ∧
      (∀ session' ∈ before ++ front, streamOf session' = streamOf session →
        session'.lastHeartbeatAt ≤ session.lastHeartbeatAt) ∧
      ∀ session' ∈ back, streamOf session' = streamOf session →
        session'.lastHeartbeatAt < session.lastHeartbeatAt := by
  induction sessions generalizing before with
  | nil => simp [latestAmong]
  | cons head later ih =>
      have hlater : session ∈ latestAmong (before ++ [head]) later ↔ ∃ front back,
          head :: later = head :: front ++ session :: back ∧
            (∀ session' ∈ before ++ head :: front, streamOf session' = streamOf session →
              session'.lastHeartbeatAt ≤ session.lastHeartbeatAt) ∧
            ∀ session' ∈ back, streamOf session' = streamOf session →
              session'.lastHeartbeatAt < session.lastHeartbeatAt := by
        rw [ih]
        simp only [List.cons_append, List.cons.injEq, true_and, List.append_assoc,
          List.nil_append]
      have hhere : session ∈ latestAmong before (head :: later) ↔
          (session = head ∧ (∀ session' ∈ before, streamOf session' = streamOf head →
              session'.lastHeartbeatAt ≤ head.lastHeartbeatAt) ∧
            ∀ session' ∈ later, streamOf session' = streamOf head →
              session'.lastHeartbeatAt < head.lastHeartbeatAt) ∨
          session ∈ latestAmong (before ++ [head]) later := by
        rw [latestAmong]
        split_ifs with h
        · rw [List.mem_cons, and_iff_left h]
        · exact (or_iff_right fun h' => h h'.2).symm
      rw [hhere, hlater]
      constructor
      · rintro (⟨rfl, hbefore, hafter⟩ | ⟨front, back, hsplit, hbefore, hafter⟩)
        · exact ⟨[], later, rfl, by rwa [List.append_nil], hafter⟩
        · exact ⟨head :: front, back, hsplit, hbefore, hafter⟩
      · rintro ⟨front, back, hsplit, hbefore, hafter⟩
        cases front with
        | nil =>
            obtain ⟨rfl, rfl⟩ := List.cons.inj hsplit
            rw [List.append_nil] at hbefore
            exact .inl ⟨rfl, hbefore, hafter⟩
        | cons first front =>
            obtain ⟨rfl, -⟩ := List.cons.inj hsplit
            exact .inr ⟨front, back, hsplit, hbefore, hafter⟩

theorem nodup_latestAmong : ((latestAmong before sessions).map streamOf).Nodup := by
  induction sessions generalizing before with
  | nil => exact List.nodup_nil
  | cons head later ih =>
      rw [latestAmong]
      split_ifs with h
      · rw [List.map_cons, List.nodup_cons]
        refine ⟨fun hmem => ?_, ih⟩
        obtain ⟨session, hsession, hstream⟩ := List.mem_map.1 hmem
        obtain ⟨front, back, rfl, hbefore, -⟩ := mem_latestAmong.1 hsession
        have hle := hbefore head (by simp) hstream.symm
        exact absurd (h.2 session (by simp) hstream) (not_lt.2 hle)
      · exact ih

theorem mem_operationalStreamSessionLatest : session ∈ operationalStreamSessionLatest sessions ↔
    session ∈ latestSessions sessions := by
  rw [operationalStreamSessionLatest, mem_latestAmong, mem_latestSessions, maxBy_eq_some_iff]
  simp only [List.nil_append]
  constructor
  · rintro ⟨front, back, rfl, hbefore, hafter⟩
    refine ⟨(back.filter fun session' => streamOf session' = streamOf session).reverse,
      (front.filter fun session' => streamOf session' = streamOf session).reverse, ?_, ?_, ?_⟩
    · simp [List.filter_append]
    · intro session' hmem
      obtain ⟨hmem, hstream⟩ := List.mem_filter.1 (List.mem_reverse.1 hmem)
      exact hafter session' hmem (of_decide_eq_true hstream)
    · intro session' hmem
      obtain ⟨hmem, hstream⟩ := List.mem_filter.1 (List.mem_reverse.1 hmem)
      exact hbefore session' hmem (of_decide_eq_true hstream)
  · rintro ⟨later, earlier, hsplit, hlater, hearlier⟩
    have hfilter : sessions.filter (fun session' => streamOf session' = streamOf session) =
        earlier.reverse ++ session :: later.reverse := by
      rw [← List.reverse_inj, hsplit]
      simp
    obtain ⟨front, rest, rfl, hfront, hrest⟩ := List.filter_eq_append_iff.1 hfilter
    obtain ⟨between, back, rfl, hbetween, -, hback⟩ := List.filter_eq_cons_iff.1 hrest
    refine ⟨front ++ between, back, by simp, fun session' hmem hstream => ?_,
      fun session' hmem hstream => ?_⟩
    · rcases List.mem_append.1 hmem with hmem | hmem
      · refine hearlier session' (List.mem_reverse.1 ?_)
        rw [← hfront]
        exact List.mem_filter.2 ⟨hmem, decide_eq_true hstream⟩
      · exact absurd (decide_eq_true hstream) (hbetween session' hmem)
    · refine hlater session' (List.mem_reverse.1 ?_)
      rw [← hback]
      exact List.mem_filter.2 ⟨hmem, decide_eq_true hstream⟩

/-- The groups of the repository and the ranks of the view find the same sessions. -/
theorem latestSessions_perm (sessions : List StreamSessionReadModel) :
    (latestSessions sessions).Perm (operationalStreamSessionLatest sessions) := by
  refine (List.perm_ext_iff_of_nodup ?_ ?_).2 fun session =>
    mem_operationalStreamSessionLatest.symm
  · exact (nodup_latestSessions sessions).of_map streamOf
  · exact nodup_latestAmong.of_map streamOf

end Latest

/-! ## What is visible -/

section Visible

variable {repository : InMemoryOperationalReadRepository} {principal : AuthenticatedPrincipal}
variable {before sessions : List StreamSessionReadModel} {readable : GroupId → Bool}

open OperationalReadSql (latestAmong operationalStreamSessionLatest)

theorem filterReadable_eq_filter {α : Type} (h : ∀ groupId,
    Groups.InMemoryOperationalReadRepository.canRead repository.hierarchy principal groupId =
      .ok (readable groupId)) (groupId : α → GroupId) (xs : List α) :
    repository.filterReadable principal groupId xs =
      .ok (xs.filter fun x => readable (groupId x)) := by
  induction xs with
  | nil => rfl
  | cons x xs ih =>
      rw [InMemoryOperationalReadRepository.filterReadable, h, ih, List.filter_cons]
      rfl

/-- The rank of a session is the same where whole streams have been left out. -/
theorem latestAmong_filter {p : StreamSessionReadModel → Bool}
    (hp : ∀ session session', streamOf session' = streamOf session → p session' = p session) :
    latestAmong (before.filter p) (sessions.filter p) = (latestAmong before sessions).filter p := by
  have hall : ∀ (sessions : List StreamSessionReadModel) (session : StreamSessionReadModel)
      (holds : StreamSessionReadModel → Prop), p session = true →
        ((∀ session' ∈ sessions.filter p, streamOf session' = streamOf session → holds session') ↔
          ∀ session' ∈ sessions, streamOf session' = streamOf session → holds session') := by
    intro sessions session holds hsession
    constructor
    · intro h session' hmem hstream
      exact h session' (List.mem_filter.2 ⟨hmem, (hp _ _ hstream).trans hsession⟩) hstream
    · intro h session' hmem
      exact h session' (List.mem_filter.1 hmem).1
  induction sessions generalizing before with
  | nil => rfl
  | cons head later ih =>
      have hrest := @ih (before ++ [head])
      by_cases hhead : p head = true
      · rw [List.filter_append, List.filter_cons_of_pos hhead, List.filter_nil] at hrest
        rw [List.filter_cons_of_pos hhead, latestAmong, latestAmong, hrest]
        simp only [hall _ head _ hhead]
        split_ifs
        · rw [List.filter_cons_of_pos hhead]
        · rfl
      · rw [List.filter_append, List.filter_cons_of_neg hhead, List.filter_nil,
          List.append_nil] at hrest
        rw [List.filter_cons_of_neg hhead, latestAmong, hrest]
        split_ifs
        · rw [List.filter_cons_of_neg hhead]
        · rfl

/-- The repository in memory shows the rows that the statements select. -/
theorem selected_eq_readable {tables : Tables} {hierarchy : OrganizationHierarchy}
    (principal : AuthenticatedPrincipal) (hclosure : ClosureConsistent tables)
    (hcurrent : JdbcOrganizationHierarchyRepository.current tables = .ok hierarchy)
    (hhierarchy : repository.hierarchy = some (.ok hierarchy)) :
    (∀ assets, repository.filterReadable principal AssetReadModel.groupId assets =
      .ok (OperationalReadSql.selectAssetsByGateway tables.organizationGroupClosure assets
        principal)) ∧
    ∃ sessions, repository.filterReadable principal StreamSessionReadModel.groupId
        repository.streamSessionHistory = .ok sessions ∧
      operationalStreamSessionLatest sessions =
        OperationalReadSql.selectLatestStreamSessions tables.organizationGroupClosure
          repository.streamSessionHistory principal := by
  have hread := hclosure.canRead_current hcurrent principal
  rw [← hhierarchy] at hread
  refine ⟨fun assets => filterReadable_eq_filter hread _ assets, _,
    filterReadable_eq_filter hread _ _, ?_⟩
  refine @latestAmong_filter [] _ _ fun session session' hstream => ?_
  have hgroup : session'.groupId = session.groupId := congrArg Prod.fst hstream
  rw [hgroup]

end Visible

/-! ## The whole -/

section Orders

instance : Std.Total byStatusAndStreamId := by
  refine ⟨fun session session' => ?_⟩
  unfold byStatusAndStreamId
  by_cases h : session.status = session'.status
  · rw [if_pos h, if_pos h.symm]
    exact JvmText.notAfterUnits_total _ _
  · rw [if_neg h, if_neg (Ne.symm h)]
    exact JvmText.notAfterUnits_total _ _

instance : IsTrans StreamSessionReadModel byStatusAndStreamId := by
  refine ⟨fun a b c hab hbc => ?_⟩
  unfold byStatusAndStreamId at *
  by_cases hsame : a.status = b.status
  · rw [if_pos hsame] at hab
    by_cases hsame' : b.status = c.status
    · rw [if_pos hsame'] at hbc
      rw [if_pos (hsame.trans hsame')]
      exact JvmText.notAfterUnits_trans hab hbc
    · rw [if_neg hsame'] at hbc
      rwa [hsame, if_neg hsame']
  · rw [if_neg hsame] at hab
    by_cases hsame' : b.status = c.status
    · rwa [← hsame', if_neg hsame]
    · rw [if_neg hsame'] at hbc
      have hne : a.status ≠ c.status := by
        intro heq
        rw [← heq] at hbc
        exact hsame (JvmText.notAfter_antisymm hab hbc)
      rw [if_neg hne]
      exact JvmText.notAfterUnits_trans hab hbc

end Orders

theorem paged_iff_exists {α : Type} {order : α → α → Prop} {selected : List α}
    {read : ℕ → ℕ → Except Thrown (List α)} {page : ℕ → ℕ → List α}
    (h : ∀ limit offset, read limit offset = .ok (page limit offset)) :
    Paged order selected read ↔ ∃ rows : List α, rows.Perm selected ∧ rows.Pairwise order ∧
      ∀ limit offset, page limit offset = slice limit offset rows := by
  constructor
  · rintro ⟨rows, hrows, hread⟩
    refine ⟨rows, hrows.perm, hrows.sorted, fun limit offset => ?_⟩
    exact Except.ok.inj ((h limit offset).symm.trans (hread limit offset))
  · rintro ⟨rows, hperm, hsorted, hpage⟩
    refine ⟨rows, ⟨hperm, hsorted⟩, fun limit offset => ?_⟩
    rw [h, hpage]

open InMemoryOperationalReadRepository (latestSessions) in
/-- The pages of assets are those of the visible assets in the order of their identifiers exactly
if the repository holds them in this order. The pages of sessions are those of the latest visible
sessions in the order of their heartbeats exactly if the order by status, stream and first arrival
is such an order. The statements select the same rows on a database with a complete closure. -/
theorem paged_iff (repository : InMemoryOperationalReadRepository)
    (principal : AuthenticatedPrincipal) (gatewayUuid : String) (assets : List AssetReadModel)
    (sessions : List StreamSessionReadModel)
    (hassets : repository.filterReadable principal AssetReadModel.groupId
      ((repository.assetsByGateway gatewayUuid).getD []) = .ok assets)
    (hsessions : repository.filterReadable principal StreamSessionReadModel.groupId
      repository.streamSessionHistory = .ok sessions) :
    (Paged byUuid assets (fun limit offset =>
        repository.assetsForGateway principal gatewayUuid limit offset) ↔
      assets.Pairwise byUuid) ∧
    (Paged byHeartbeatAndStreamId (OperationalReadSql.operationalStreamSessionLatest sessions)
        (fun limit offset => repository.streamSessionsFor principal limit offset) ↔
      (latestSessions sessions).Pairwise fun session session' =>
        if byStatusAndStreamId session session' then byHeartbeatAndStreamId session session'
        else byHeartbeatAndStreamId session' session) ∧
    ∀ tables hierarchy, ClosureConsistent tables →
      JdbcOrganizationHierarchyRepository.current tables = .ok hierarchy →
      repository.hierarchy = some (.ok hierarchy) →
        OperationalReadSql.selectAssetsByGateway tables.organizationGroupClosure
            ((repository.assetsByGateway gatewayUuid).getD []) principal = assets ∧
          OperationalReadSql.selectLatestStreamSessions tables.organizationGroupClosure
              repository.streamSessionHistory principal =
            OperationalReadSql.operationalStreamSessionLatest sessions := by
  refine ⟨?_, ?_, fun tables hierarchy hclosure hcurrent hhierarchy => ?_⟩
  · rw [paged_iff_exists fun limit offset => assetsForGateway_eq hassets]
    exact Slices.exists_sorted_slices_iff fun _ _ => rfl
  · rw [paged_iff_exists fun limit offset => streamSessionsFor_eq hsessions,
      ← Slices.pairwise_insertionSort_iff]
    refine Slices.exists_slices_sorted_iff (fun _ _ => rfl) ?_
    exact (List.perm_insertionSort _ _).trans (latestSessions_perm sessions)
  · obtain ⟨hselected, sessions', hsessions', hlatest⟩ :=
      selected_eq_readable principal hclosure hcurrent hhierarchy
    obtain rfl := Except.ok.inj (hsessions'.symm.trans hsessions)
    exact ⟨Except.ok.inj ((hselected _).symm.trans hassets), hlatest.symm⟩

def sampleGroup : GroupId := ⟨"co-a", .refl false⟩

def sampleAdministrator : AuthenticatedPrincipal :=
  ⟨"admin", .admin, sampleGroup, 1, .refl false, Nat.one_pos⟩

def sampleAsset (uuid : String) : AssetReadModel where
  id := 1
  cid := "cid"
  uuid := uuid
  companyId := 1
  type := "camera"
  name := uuid
  description := none
  imageUrl := none
  status := "active"
  createdAt := 0
  updatedAt := 0
  groupId := sampleGroup

def sampleSession (streamId status : String) (lastHeartbeatAt : ℤ) : StreamSessionReadModel where
  streamId := streamId
  sessionId := none
  status := status
  source := "mediamtx"
  startedAt := 0
  lastHeartbeatAt := lastHeartbeatAt
  stoppedAt := none
  groupId := sampleGroup

def sampleRepository (uuids : List String) (sessions : List StreamSessionReadModel) :
    InMemoryOperationalReadRepository :=
  ⟨fun _ => some (uuids.map sampleAsset), none, sessions⟩

def sampleSessions : List StreamSessionReadModel :=
  [sampleSession "cam-1" "connected" 5, sampleSession "cam-2" "connected" 3]

theorem paged_iff_sample :
    Paged byUuid (["a", "b"].map sampleAsset) (fun limit offset =>
      (sampleRepository ["a", "b"] sampleSessions).assetsForGateway sampleAdministrator "gateway"
        limit offset) ∧
    Paged byHeartbeatAndStreamId
      (OperationalReadSql.operationalStreamSessionLatest sampleSessions) (fun limit offset =>
        (sampleRepository ["a", "b"] sampleSessions).streamSessionsFor sampleAdministrator limit
          offset) := by
  have hpages := paged_iff (sampleRepository ["a", "b"] sampleSessions) sampleAdministrator
    "gateway" (["a", "b"].map sampleAsset) sampleSessions (by decide) (by decide)
  exact ⟨hpages.1.2 (by decide), hpages.2.1.2 (by decide)⟩

def disorderedSessions : List StreamSessionReadModel :=
  [sampleSession "cam-1" "connected" 3, sampleSession "cam-2" "disconnected" 5]

/-- The first page of one row shows the asset that was stored first, and the disconnected session
stands after the connected one though its heartbeat is later. -/
theorem paged_iff_unsorted :
    (sampleRepository ["b", "a"] []).assetsForGateway sampleAdministrator "gateway" 1 0 =
        .ok [sampleAsset "b"] ∧
      ¬ Paged byUuid (["b", "a"].map sampleAsset) (fun limit offset =>
        (sampleRepository ["b", "a"] []).assetsForGateway sampleAdministrator "gateway" limit
          offset) ∧
      (sampleRepository [] disorderedSessions).streamSessionsFor sampleAdministrator 1 0 =
        .ok [sampleSession "cam-1" "connected" 3] ∧
      ¬ Paged byHeartbeatAndStreamId
        (OperationalReadSql.operationalStreamSessionLatest disorderedSessions) (fun limit offset =>
          (sampleRepository [] disorderedSessions).streamSessionsFor sampleAdministrator limit
            offset) := by
  refine ⟨by decide, fun h => ?_, by decide, fun h => ?_⟩
  · have hassets : (sampleRepository ["b", "a"] []).filterReadable sampleAdministrator
        AssetReadModel.groupId (["b", "a"].map sampleAsset) =
          .ok (["b", "a"].map sampleAsset) := by decide
    rw [paged_iff_exists fun limit offset => assetsForGateway_eq hassets] at h
    have hsorted := (Slices.exists_sorted_slices_iff fun _ _ => rfl).1 h
    exact absurd hsorted (by decide)
  · have hsessions : (sampleRepository [] disorderedSessions).filterReadable sampleAdministrator
        StreamSessionReadModel.groupId disorderedSessions = .ok disorderedSessions := by decide
    rw [paged_iff_exists fun limit offset => streamSessionsFor_eq hsessions] at h
    have hsorted := (Slices.exists_slices_sorted_iff (fun _ _ => rfl)
      ((List.perm_insertionSort _ _).trans (latestSessions_perm _))).1 h
    exact absurd hsorted (by decide)

end GcsSaker.OperationalReads
