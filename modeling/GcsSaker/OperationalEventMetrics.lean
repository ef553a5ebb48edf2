import GcsSaker.OperationalEventPages
import GcsSaker.OperationalPages
import Mathlib.Data.List.MinMax

/-!
# Metrics of operational events

`toOperationalEventMetrics` over the events of a query, and what the statements of
`JdbcOperationalEventMetricsReader` answer for the rows that the same query selects. In memory the
connections are added up in 32 bits and the sessions are grouped by the text
`streamId|connectionId`; the server adds up in 64 bits, groups by both columns and answers with no
more than 500 sessions.
-/

namespace GcsSaker.EventMetrics

open EventPages (eventKey)
open Grouping (firsts groupBy mem_groupBy)
open OperationalEvents (OperationalEventReadModel)
open OperationalReads (OrderedBy)

structure OperationalEventSeverityCount where
  severity : String
  count : ℕ
  deriving DecidableEq

structure OperationalEventIcePathCount where
  icePath : String
  count : ℕ
  deriving DecidableEq

structure OperationalStreamSessionMetric where
  streamId : String
  connectionId : Option String
  lastOccurredAt : ℤ
  eventCount : ℕ
  averageLatencyMs : Option Float
  averageThroughputMbps : Option Float
  icePath : Option String
  relayFallbackReason : Option String
  deriving DecidableEq

/-- The number of events of a list on the JVM fits 32 bits. -/
structure OperationalEventMetrics where
  totalEvents : ℕ
  totalConnections : ℤ
  minLatencyMs : Option Int64
  avgLatencyMs : Option Float
  maxLatencyMs : Option Int64
  avgThroughputMbps : Option Float
  severityCounts : List OperationalEventSeverityCount
  icePathCounts : List OperationalEventIcePathCount
  streamSessions : List OperationalStreamSessionMetric
  deriving DecidableEq

def OperationalEventMetrics.empty : OperationalEventMetrics where
  totalEvents := 0
  totalConnections := 0
  minLatencyMs := none
  avgLatencyMs := none
  maxLatencyMs := none
  avgThroughputMbps := none
  severityCounts := []
  icePathCounts := []
  streamSessions := []

/-! ## Lists in Kotlin -/

/-- `sumOf` of integers of 32 bits. -/
def sumOf {α : Type} (selector : α → Int32) (xs : List α) : Int32 :=
  xs.foldl (fun sum x => sum + selector x) 0

/-- Not a number for an empty list. -/
def average (xs : List Float) : Float := xs.foldl (fun sum x => sum + x) 0.0 / Float.ofNat xs.length

def averageOfLongs (xs : List Int64) : Float := average (xs.map Int64.toFloat)

/-- The first of the elements whose key is not below another's. -/
def maxWith {α κ : Type} [LinearOrder κ] (key : α → κ) (xs : List α) : Option α := xs.argmax key

def minOf (xs : List Int64) : Option Int64 :=
  xs.head?.map fun x => xs.foldl (fun least y => if y < least then y else least) x

def maxOf (xs : List Int64) : Option Int64 :=
  xs.head?.map fun x => xs.foldl (fun greatest y => if greatest < y then y else greatest) x

/-- `groupingBy { it }.eachCount()` -/
def eachCount (keys : List String) : List (String × ℕ) :=
  (groupBy id keys).map fun group => (group.1, group.2.length)

/-! ## The calculator -/

def isPresent (text : Option String) : Bool := text.any fun text => !JvmText.isBlank text

def streamKey (event : OperationalEventReadModel) : String :=
  event.streamId.getD "null" ++ "|" ++ event.connectionId.getD ""

/-- None where `maxWith` or `requireNotNull` throws. -/
def toStreamSessionMetric (events : List OperationalEventReadModel) :
    Option OperationalStreamSessionMetric := do
  let newest ← maxWith (eventKey JvmText.codeUnits) events
  let streamId ← newest.streamId
  return {
    streamId
    connectionId := newest.connectionId
    lastOccurredAt := newest.occurredAt
    eventCount := events.length
    averageLatencyMs :=
      (some (averageOfLongs (events.map (·.latencyMs)))).filter fun value => !value.isNaN
    averageThroughputMbps :=
      (some (average (events.map (·.throughputMbps)))).filter fun value => !value.isNaN
    icePath := newest.icePath
    relayFallbackReason := newest.relayFallbackReason }

def byLastOccurredAt (session session' : OperationalStreamSessionMetric) : Prop :=
  session'.lastOccurredAt ≤ session.lastOccurredAt

instance : DecidableRel byLastOccurredAt := fun _ _ => inferInstanceAs (Decidable (_ ≤ _))

instance : Std.Total byLastOccurredAt :=
  ⟨fun session session' => le_total session'.lastOccurredAt session.lastOccurredAt⟩

instance : IsTrans OperationalStreamSessionMetric byLastOccurredAt :=
  ⟨fun _ _ _ h h' => le_trans h' h⟩

def toStreamSessionMetrics (events : List OperationalEventReadModel) :
    Option (List OperationalStreamSessionMetric) := do
  let sessions ← (groupBy streamKey (events.filter fun event => isPresent event.streamId)).mapM
    fun group => toStreamSessionMetric group.2
  return sessions.insertionSort byLastOccurredAt

def toSeverityCounts (events : List OperationalEventReadModel) :
    List OperationalEventSeverityCount :=
  JvmText.sortedBy OperationalEventSeverityCount.severity
    ((eachCount (events.map (·.severity))).map fun (severity, count) => ⟨severity, count⟩)

def toIcePathCounts (events : List OperationalEventReadModel) :
    List OperationalEventIcePathCount :=
  JvmText.sortedBy OperationalEventIcePathCount.icePath
    ((eachCount (events.filterMap fun event =>
      event.icePath.filter fun icePath => !JvmText.isBlank icePath)).map
        fun (icePath, count) => ⟨icePath, count⟩)

/-- None where the source throws. -/
def toOperationalEventMetrics (events : List OperationalEventReadModel) :
    Option OperationalEventMetrics :=
  if events = [] then some .empty
  else do
    let streamSessions ← toStreamSessionMetrics events
    return {
      totalEvents := events.length
      totalConnections := (sumOf (·.connections) events).toInt
      minLatencyMs := minOf (events.map (·.latencyMs))
      avgLatencyMs := some (averageOfLongs (events.map (·.latencyMs)))
      maxLatencyMs := maxOf (events.map (·.latencyMs))
      avgThroughputMbps := some (average (events.map (·.throughputMbps)))
      severityCounts := toSeverityCounts events
      icePathCounts := toIcePathCounts events
      streamSessions }

/-! ## The statements -/

/-- The columns that the sessions are grouped by. -/
def sessionOf (event : OperationalEventReadModel) : Option String × Option String :=
  (event.streamId, event.connectionId)

/-- What the server makes of `AVG`. -/
structure Averages where
  ofBigints : List Int64 → Float
  ofDoubles : List Float → Float

section Statements

variable {κ : Type} [LinearOrder κ] (collation : String → κ) (averages : Averages)

/-- The row of a group; the columns of its latest event are taken as they are. -/
def sessionRow (group : (Option String × Option String) × List OperationalEventReadModel) :
    OperationalStreamSessionMetric where
  streamId := group.1.1.getD ""
  connectionId := group.1.2
  lastOccurredAt := (group.2.map (·.occurredAt)).max?.getD 0
  eventCount := group.2.length
  averageLatencyMs := some (averages.ofBigints (group.2.map (·.latencyMs)))
  averageThroughputMbps := some (averages.ofDoubles (group.2.map (·.throughputMbps)))
  icePath := (maxWith (eventKey collation) group.2).bind (·.icePath)
  relayFallbackReason := (maxWith (eventKey collation) group.2).bind (·.relayFallbackReason)

/-- `selectStreamSessionsBase` with its groups, before they are ordered. -/
def selectStreamSessions (rows : List OperationalEventReadModel) :
    List OperationalStreamSessionMetric :=
  (groupBy sessionOf (rows.filter fun row => row.streamId.any fun streamId => streamId ≠ "")).map
    (sessionRow collation averages)

def SESSION_LIMIT : ℕ := 500

/-- The answers to the statements over the rows that a query selects. Sessions whose last events
are of one instant may stand in any order. -/
structure MetricsFor (rows : List OperationalEventReadModel) (metrics : OperationalEventMetrics) :
    Prop where
  totalEvents : metrics.totalEvents = rows.length
  totalConnections : metrics.totalConnections = (rows.map (·.connections.toInt)).sum
  minLatencyMs : metrics.minLatencyMs = minOf (rows.map (·.latencyMs))
  maxLatencyMs : metrics.maxLatencyMs = maxOf (rows.map (·.latencyMs))
  avgLatencyMs : metrics.avgLatencyMs =
    if rows = [] then none else some (averages.ofBigints (rows.map (·.latencyMs)))
  avgThroughputMbps : metrics.avgThroughputMbps =
    if rows = [] then none else some (averages.ofDoubles (rows.map (·.throughputMbps)))
  severityCounts : metrics.severityCounts =
    ((eachCount (rows.map (·.severity))).map fun (severity, count) =>
      OperationalEventSeverityCount.mk severity count).insertionSort
        fun count count' => collation count.severity ≤ collation count'.severity
  icePathCounts : metrics.icePathCounts =
    ((eachCount (rows.filterMap fun row => row.icePath.filter fun icePath => icePath ≠ "")).map
      fun (icePath, count) => OperationalEventIcePathCount.mk icePath count).insertionSort
        fun count count' => collation count.icePath ≤ collation count'.icePath
  streamSessions : ∃ sessions,
    OrderedBy byLastOccurredAt (selectStreamSessions collation averages rows) sessions ∧
      metrics.streamSessions = sessions.take SESSION_LIMIT

/-- An answer that the statements allow. -/
def answerFor (rows : List OperationalEventReadModel) : OperationalEventMetrics where
  totalEvents := rows.length
  totalConnections := (rows.map (·.connections.toInt)).sum
  minLatencyMs := minOf (rows.map (·.latencyMs))
  avgLatencyMs := if rows = [] then none else some (averages.ofBigints (rows.map (·.latencyMs)))
  maxLatencyMs := maxOf (rows.map (·.latencyMs))
  avgThroughputMbps :=
    if rows = [] then none else some (averages.ofDoubles (rows.map (·.throughputMbps)))
  severityCounts :=
    ((eachCount (rows.map (·.severity))).map fun (severity, count) =>
      OperationalEventSeverityCount.mk severity count).insertionSort
        fun count count' => collation count.severity ≤ collation count'.severity
  icePathCounts :=
    ((eachCount (rows.filterMap fun row => row.icePath.filter fun icePath => icePath ≠ "")).map
      fun (icePath, count) => OperationalEventIcePathCount.mk icePath count).insertionSort
        fun count count' => collation count.icePath ≤ collation count'.icePath
  streamSessions := ((selectStreamSessions collation averages rows).insertionSort
    byLastOccurredAt).take SESSION_LIMIT

theorem metricsFor_answerFor (rows : List OperationalEventReadModel) :
    MetricsFor collation averages rows (answerFor collation averages rows) where
  totalEvents := rfl
  totalConnections := rfl
  minLatencyMs := rfl
  maxLatencyMs := rfl
  avgLatencyMs := rfl
  avgThroughputMbps := rfl
  severityCounts := rfl
  icePathCounts := rfl
  streamSessions :=
    ⟨_, ⟨List.perm_insertionSort _ _, List.pairwise_insertionSort _ _⟩, rfl⟩

end Statements

/-! ## Sums and counts -/

theorem toInt_sumOf {α : Type} (selector : α → Int32) (xs : List α) :
    (sumOf selector xs).toInt = (xs.map fun x => (selector x).toInt).sum.bmod (2 ^ 32) := by
  have hacc : ∀ acc : Int32, (xs.foldl (fun sum x => sum + selector x) acc).toInt =
      (acc.toInt + (xs.map fun x => (selector x).toInt).sum).bmod (2 ^ 32) := by
    induction xs with
    | nil =>
        intro acc
        rw [List.foldl_nil, List.map_nil, List.sum_nil, Int.add_zero]
        exact (Int32.toInt_bmod acc).symm
    | cons x xs ih =>
        intro acc
        rw [List.foldl_cons, ih, Int32.toInt_add, List.map_cons, List.sum_cons, Int.bmod_add_bmod,
          Int.add_assoc]
  rw [sumOf, hacc]
  exact congrArg (Int.bmod · (2 ^ 32)) (Int.zero_add _)

/-- A sum that fits 32 bits is exact. -/
theorem toInt_sumOf_of_fits {α : Type} {selector : α → Int32} {xs : List α}
    (h : -2 ^ 31 ≤ (xs.map fun x => (selector x).toInt).sum)
    (h' : (xs.map fun x => (selector x).toInt).sum < 2 ^ 31) :
    (sumOf selector xs).toInt = (xs.map fun x => (selector x).toInt).sum := by
  rw [toInt_sumOf]
  exact Int.bmod_eq_of_le (by omega) (by omega)

theorem maxWith_spec {α κ : Type} [LinearOrder κ] {key : α → κ} {xs : List α} {m : α}
    (h : maxWith key xs = some m) : m ∈ xs ∧ ∀ y ∈ xs, key y ≤ key m :=
  ⟨List.argmax_mem h, fun _ hy => List.le_of_mem_argmax hy h⟩

theorem exists_maxWith {α κ : Type} [LinearOrder κ] (key : α → κ) {xs : List α} (h : xs ≠ []) :
    ∃ m, maxWith key xs = some m :=
  Option.ne_none_iff_exists'.1 (mt List.argmax_eq_none.1 h)

/-- The different keys with how often they occur. -/
def counts {κ : Type} [DecidableEq κ] (keys : List κ) : List (κ × ℕ) :=
  keys.dedup.map fun key => (key, keys.count key)

theorem firsts_perm_dedup {κ : Type} [DecidableEq κ] (keys : List κ) :
    (firsts keys).Perm keys.dedup := by
  refine (List.perm_ext_iff_of_nodup (Grouping.nodup_firsts keys) (List.nodup_dedup keys)).2 ?_
  intro key
  rw [Grouping.mem_firsts, List.mem_dedup]

theorem groupBy_perm_counts {α κ : Type} [DecidableEq κ] (key : α → κ) (xs : List α) :
    ((groupBy key xs).map fun group => (group.1, group.2.length)).Perm (counts (xs.map key)) := by
  rw [Grouping.groupBy_eq, List.map_map]
  refine List.Perm.trans (List.Perm.of_eq ?_) ((firsts_perm_dedup _).map _)
  refine List.map_congr_left fun k _ => Prod.ext rfl ?_
  rw [List.count_eq_countP, List.countP_map, List.countP_eq_length_filter]
  rfl

theorem eachCount_perm (keys : List String) : (eachCount keys).Perm (counts keys) := by
  have h := groupBy_perm_counts id keys
  rwa [List.map_id] at h

theorem sum_eachCount (keys : List String) : ((eachCount keys).map Prod.snd).sum = keys.length := by
  rw [eachCount, List.map_map]
  exact Grouping.sum_length_groupBy id keys

theorem toSeverityCounts_perm (events : List OperationalEventReadModel) :
    ((toSeverityCounts events).map fun count => (count.severity, count.count)).Perm
      (counts (events.map (·.severity))) := by
  refine ((JvmText.sortedBy_perm _ _).map _).trans ?_
  rw [List.map_map]
  exact (List.Perm.of_eq (List.map_id _)).trans (eachCount_perm _)

theorem toIcePathCounts_perm (events : List OperationalEventReadModel) :
    ((toIcePathCounts events).map fun count => (count.icePath, count.count)).Perm
      (counts (events.filterMap fun event =>
        event.icePath.filter fun icePath => !JvmText.isBlank icePath)) := by
  refine ((JvmText.sortedBy_perm _ _).map _).trans ?_
  rw [List.map_map]
  exact (List.Perm.of_eq (List.map_id _)).trans (eachCount_perm _)

theorem sum_toSeverityCounts (events : List OperationalEventReadModel) :
    ((toSeverityCounts events).map (·.count)).sum = events.length := by
  have hperm : (toSeverityCounts events).Perm ((eachCount (events.map (·.severity))).map
      fun (severity, count) => ⟨severity, count⟩) := JvmText.sortedBy_perm _ _
  rw [(hperm.map fun count => count.count).sum_eq, List.map_map]
  exact (sum_eachCount _).trans (List.length_map _)

/-! ## Sessions -/

section Sessions

variable {events rows : List OperationalEventReadModel} {event : OperationalEventReadModel}
variable {κ : Type} [LinearOrder κ] {collation : String → κ} {averages : Averages}

def withStream (events : List OperationalEventReadModel) : List OperationalEventReadModel :=
  events.filter fun event => isPresent event.streamId

/-- No two sessions of the events have one text `streamId|connectionId`. -/
def KeysDistinct (events : List OperationalEventReadModel) : Prop :=
  ∀ event ∈ withStream events, ∀ event' ∈ withStream events,
    streamKey event = streamKey event' → sessionOf event = sessionOf event'

/-- The text of a session. -/
def sessionText (session : Option String × Option String) : String :=
  session.1.getD "null" ++ "|" ++ session.2.getD ""

theorem streamKey_eq : streamKey = fun event => sessionText (sessionOf event) := rfl

/-- What a session is on both sides, apart from what is taken of its latest event. -/
def summary (session : OperationalStreamSessionMetric) :
    String × Option String × ℤ × ℕ :=
  (session.streamId, session.connectionId, session.lastOccurredAt, session.eventCount)

/-- The metric of the events of one session, which the server sees alike. -/
theorem map_toStreamSessionMetric {streamId : String} {connectionId : Option String}
    (hne : events ≠ [])
    (hsame : ∀ event ∈ events, sessionOf event = (some streamId, connectionId)) :
    (toStreamSessionMetric events).map summary =
      some (summary (sessionRow collation averages ((some streamId, connectionId), events))) := by
  obtain ⟨newest, hnewest⟩ := exists_maxWith (eventKey JvmText.codeUnits) hne
  obtain ⟨hmem, hmax⟩ := maxWith_spec hnewest
  obtain ⟨hstream, hconnection⟩ := Prod.mk.inj (hsame newest hmem)
  have hlast : (events.map (·.occurredAt)).max? = some newest.occurredAt := by
    rw [List.max?_eq_some_iff]
    refine ⟨List.mem_map_of_mem hmem, fun instant hinstant => ?_⟩
    obtain ⟨event, hevent, rfl⟩ := List.mem_map.1 hinstant
    rcases Prod.Lex.toLex_le_toLex.1 (hmax event hevent) with hlt | ⟨heq, -⟩
    · exact hlt.le
    · exact heq.le
  unfold toStreamSessionMetric
  rw [hnewest, Option.bind_eq_bind, Option.bind_some, hstream, Option.bind_eq_bind,
    Option.bind_some, Option.pure_def, Option.map_some, summary, summary, sessionRow, hlast,
    hconnection, Option.getD_some, Option.getD_some]

theorem groupBy_streamKey (hdistinct : KeysDistinct events) :
    (groupBy streamKey (withStream events)).map Prod.snd =
      (groupBy sessionOf (withStream events)).map Prod.snd := by
  rw [KeysDistinct, streamKey_eq] at hdistinct
  rw [streamKey_eq, Grouping.groupBy_comp sessionText sessionOf hdistinct, List.map_map]
  rfl

theorem mapM_of_map {α β γ : Type} {f : α → Option β} {g : β → γ} {h : α → γ} {xs : List α}
    (hmap : ∀ x ∈ xs, (f x).map g = some (h x)) :
    ∃ ys, xs.mapM f = some ys ∧ ys.map g = xs.map h := by
  induction xs with
  | nil => exact ⟨[], rfl, rfl⟩
  | cons x xs ih =>
      obtain ⟨hx, hrest⟩ := List.forall_mem_cons.1 hmap
      obtain ⟨y, hy, hgy⟩ := Option.map_eq_some_iff.1 hx
      obtain ⟨ys, hys, hgys⟩ := ih hrest
      refine ⟨y :: ys, ?_, by rw [List.map_cons, List.map_cons, hgy, hgys]⟩
      rw [List.mapM_cons, hy, hys]
      rfl

variable (collation averages) in
/-- In memory the sessions are the groups of the server. -/
theorem map_summary_toStreamSessionMetrics (hdistinct : KeysDistinct events) :
    ∃ sessions, toStreamSessionMetrics events = some sessions ∧
      sessions.Pairwise byLastOccurredAt ∧
      (sessions.map summary).Perm ((groupBy sessionOf (withStream events)).map fun group =>
        summary (sessionRow collation averages group)) := by
  have hmetrics : ∀ group ∈ groupBy sessionOf (withStream events),
      (toStreamSessionMetric group.2).map summary =
        some (summary (sessionRow collation averages group)) := by
    rintro ⟨⟨streamId, connectionId⟩, events'⟩ hgroup
    obtain ⟨hkey, rfl⟩ := mem_groupBy.1 hgroup
    obtain ⟨event, hevent, heq⟩ := List.mem_map.1 hkey
    obtain ⟨present, hpresent, -⟩ := (Option.any_eq_true _ _).1 (List.mem_filter.1 hevent).2
    obtain rfl : some present = streamId := hpresent.symm.trans (congrArg Prod.fst heq)
    refine map_toStreamSessionMetric (List.ne_nil_of_mem
      (List.mem_filter.2 ⟨hevent, decide_eq_true heq⟩)) fun event' hevent' => ?_
    exact of_decide_eq_true (List.mem_filter.1 hevent').2
  obtain ⟨sessions, hsessions, hmap⟩ := mapM_of_map hmetrics
  refine ⟨sessions.insertionSort byLastOccurredAt, ?_, ?_, ?_⟩
  · have hvalues : (groupBy streamKey (withStream events)).mapM
        (fun group => toStreamSessionMetric group.2) = some sessions := by
      change (groupBy streamKey (withStream events)).mapM (toStreamSessionMetric ∘ Prod.snd) = _
      rw [← List.mapM_map, groupBy_streamKey hdistinct, List.mapM_map]
      exact hsessions
    exact (congrArg (Option.bind · _) hvalues)
  · exact List.pairwise_insertionSort _ _
  · rw [← hmap]
    exact (List.perm_insertionSort _ _).map summary

/-- The events of the sessions are those with a stream. -/
theorem exists_toStreamSessionMetrics (events : List OperationalEventReadModel) :
    ∃ sessions, toStreamSessionMetrics events = some sessions ∧
      (sessions.map (·.eventCount)).sum = (withStream events).length := by
  have hcount : ∀ group ∈ groupBy streamKey (withStream events),
      (toStreamSessionMetric group.2).map (·.eventCount) = some group.2.length := by
    rintro ⟨key, events'⟩ hgroup
    obtain ⟨hkey, rfl⟩ := mem_groupBy.1 hgroup
    obtain ⟨event, hevent, heq⟩ := List.mem_map.1 hkey
    have hne : (withStream events).filter (fun event => streamKey event = key) ≠ [] :=
      List.ne_nil_of_mem (List.mem_filter.2 ⟨hevent, decide_eq_true heq⟩)
    obtain ⟨newest, hnewest⟩ := exists_maxWith (eventKey JvmText.codeUnits) hne
    have hmem := List.mem_of_mem_filter (maxWith_spec hnewest).1
    obtain ⟨streamId, hstream, -⟩ := (Option.any_eq_true _ _).1 (List.mem_filter.1 hmem).2
    unfold toStreamSessionMetric
    rw [hnewest, Option.bind_eq_bind, Option.bind_some, hstream, Option.bind_eq_bind,
      Option.bind_some, Option.pure_def, Option.map_some]
  obtain ⟨sessions, hsessions, hmap⟩ := mapM_of_map hcount
  refine ⟨sessions.insertionSort byLastOccurredAt, ?_, ?_⟩
  · exact congrArg (Option.bind · _) hsessions
  · rw [((List.perm_insertionSort byLastOccurredAt sessions).map _).sum_eq, hmap]
    exact Grouping.sum_length_groupBy streamKey (withStream events)

end Sessions

/-! ## The aggregates -/

/-- The sum of the connections fits 32 bits. -/
def ConnectionsFit (events : List OperationalEventReadModel) : Prop :=
  -2 ^ 31 ≤ (events.map (·.connections.toInt)).sum ∧
    (events.map (·.connections.toInt)).sum < 2 ^ 31

/-- No event has a text of nothing but white space. -/
def EmptyWhereBlank (field : OperationalEventReadModel → Option String)
    (events : List OperationalEventReadModel) : Prop :=
  ∀ event ∈ events, ∀ text ∈ field event, JvmText.isBlank text = true → text = ""

/-- The metrics are the aggregates of the events. -/
structure Aggregates (events : List OperationalEventReadModel) (metrics : OperationalEventMetrics) :
    Prop where
  totalEvents : metrics.totalEvents = events.length
  totalConnections : ConnectionsFit events →
    metrics.totalConnections = (events.map (·.connections.toInt)).sum
  sum_severityCounts : (metrics.severityCounts.map (·.count)).sum = metrics.totalEvents
  severityCounts : (metrics.severityCounts.map fun count => (count.severity, count.count)).Perm
    (counts (events.map (·.severity)))
  icePathCounts : (metrics.icePathCounts.map fun count => (count.icePath, count.count)).Perm
    (counts (events.filterMap fun event =>
      event.icePath.filter fun icePath => !JvmText.isBlank icePath))
  sum_streamSessions : (metrics.streamSessions.map (·.eventCount)).sum = (withStream events).length
  streamSessions : KeysDistinct events →
    (metrics.streamSessions.map fun session =>
      ((some session.streamId, session.connectionId), session.eventCount)).Perm
        (counts ((withStream events).map sessionOf))

/-- The metrics have the totals and the groups of the answers of the server, of whose sessions the
latest are seen. -/
structure SameAs (events : List OperationalEventReadModel)
    (metrics answers : OperationalEventMetrics) : Prop where
  totalEvents : metrics.totalEvents = answers.totalEvents
  totalConnections : ConnectionsFit events → metrics.totalConnections = answers.totalConnections
  minLatencyMs : metrics.minLatencyMs = answers.minLatencyMs
  maxLatencyMs : metrics.maxLatencyMs = answers.maxLatencyMs
  severityCounts : metrics.severityCounts.Perm answers.severityCounts
  icePathCounts : EmptyWhereBlank (·.icePath) events →
    metrics.icePathCounts.Perm answers.icePathCounts
  streamSessions : KeysDistinct events → EmptyWhereBlank (·.streamId) events →
    ∃ sessions : List OperationalStreamSessionMetric,
      (metrics.streamSessions.map summary).Perm (sessions.map summary) ∧
        sessions.Pairwise byLastOccurredAt ∧
        answers.streamSessions = sessions.take SESSION_LIMIT

theorem exists_toOperationalEventMetrics {events : List OperationalEventReadModel}
    {sessions : List OperationalStreamSessionMetric}
    (h : toStreamSessionMetrics events = some sessions) :
    ∃ metrics, toOperationalEventMetrics events = some metrics ∧
      metrics.totalEvents = events.length ∧
      metrics.totalConnections = (sumOf (·.connections) events).toInt ∧
      metrics.minLatencyMs = minOf (events.map (·.latencyMs)) ∧
      metrics.maxLatencyMs = maxOf (events.map (·.latencyMs)) ∧
      metrics.severityCounts = toSeverityCounts events ∧
      metrics.icePathCounts = toIcePathCounts events ∧ metrics.streamSessions = sessions := by
  unfold toOperationalEventMetrics
  split_ifs with hempty
  · subst hempty
    obtain rfl := Option.some.inj h
    exact ⟨.empty, rfl, rfl, rfl, rfl, rfl, rfl, rfl, rfl⟩
  · rw [h]
    exact ⟨_, rfl, rfl, rfl, rfl, rfl, rfl, rfl, rfl⟩

theorem ne_empty_eq {text : String} (h : JvmText.isBlank text = true → text = "") :
    decide (text ≠ "") = !JvmText.isBlank text := by
  rw [Bool.eq_iff_iff, decide_eq_true_iff, Bool.not_eq_true', Bool.eq_false_iff]
  refine ⟨mt h, fun hblank hempty => hblank ?_⟩
  rw [hempty]
  rfl

theorem filter_withStream {events : List OperationalEventReadModel}
    (h : EmptyWhereBlank (·.streamId) events) :
    (events.filter fun event => event.streamId.any fun streamId => streamId ≠ "") =
      withStream events := by
  refine List.filter_congr fun event hevent => ?_
  rw [isPresent]
  cases hstream : event.streamId with
  | none => rfl
  | some streamId =>
      rw [Option.any_some, Option.any_some, ne_empty_eq (h event hevent streamId hstream)]

theorem filterMap_icePath {events : List OperationalEventReadModel}
    (h : EmptyWhereBlank (·.icePath) events) :
    (events.filterMap fun event => event.icePath.filter fun icePath => icePath ≠ "") =
      events.filterMap fun event => event.icePath.filter fun icePath =>
        !JvmText.isBlank icePath := by
  refine List.filterMap_congr fun event hevent => ?_
  cases hice : event.icePath with
  | none => rfl
  | some icePath =>
      rw [Option.filter_some, Option.filter_some, ne_empty_eq (h event hevent icePath hice)]

/-- A metric for every session, with the number of its events. -/
theorem sessions_perm_counts {events : List OperationalEventReadModel}
    {sessions : List OperationalStreamSessionMetric} (hdistinct : KeysDistinct events)
    (h : toStreamSessionMetrics events = some sessions) :
    (sessions.map fun session =>
      ((some session.streamId, session.connectionId), session.eventCount)).Perm
        (counts ((withStream events).map sessionOf)) := by
  obtain ⟨sessions', hsessions, -, hperm⟩ :=
    map_summary_toStreamSessionMetrics JvmText.codeUnits ⟨averageOfLongs, average⟩ hdistinct
  obtain rfl := Option.some.inj (h.symm.trans hsessions)
  have hkeys := hperm.map fun session : String × Option String × ℤ × ℕ =>
    ((some session.1, session.2.1), session.2.2.2)
  rw [List.map_map, List.map_map] at hkeys
  refine (hkeys.trans (List.Perm.of_eq ?_)).trans
    (groupBy_perm_counts sessionOf (withStream events))
  refine List.map_congr_left fun group hgroup => ?_
  obtain ⟨event, hevent, heq⟩ := List.mem_map.1 (mem_groupBy.1 hgroup).1
  obtain ⟨streamId, hstream, -⟩ := (Option.any_eq_true _ _).1 (List.mem_filter.1 hevent).2
  have hsome : group.1.1 = some streamId := (congrArg Prod.fst heq).symm.trans hstream
  refine Prod.ext (Prod.ext ?_ rfl) rfl
  change some (group.1.1.getD "") = group.1.1
  rw [hsome, Option.getD_some]

/-- Every list of events has its metrics, the aggregates of the events, as the server answers. -/
theorem metrics_exact (events : List OperationalEventReadModel) :
    ∃ metrics, toOperationalEventMetrics events = some metrics ∧ Aggregates events metrics ∧
      ∀ {κ : Type} [LinearOrder κ] (collation : String → κ) (averages : Averages)
        (answers : OperationalEventMetrics),
        MetricsFor collation averages events answers → SameAs events metrics answers := by
  obtain ⟨sessions, hsessions, hsum⟩ := exists_toStreamSessionMetrics events
  obtain ⟨metrics, hmetrics, htotal, hconnections, hmin, hmax, hseverity, hice, hstream⟩ :=
    exists_toOperationalEventMetrics hsessions
  have hfits : ConnectionsFit events →
      metrics.totalConnections = (events.map (·.connections.toInt)).sum := fun h =>
    hconnections.trans (toInt_sumOf_of_fits h.1 h.2)
  refine ⟨metrics, hmetrics, ⟨htotal, hfits, ?_, ?_, ?_, ?_, fun hdistinct => ?_⟩, ?_⟩
  · rw [hseverity, htotal]
    exact sum_toSeverityCounts events
  · rw [hseverity]
    exact toSeverityCounts_perm events
  · rw [hice]
    exact toIcePathCounts_perm events
  · rw [hstream]
    exact hsum
  · rw [hstream]
    exact sessions_perm_counts hdistinct hsessions
  · intro κ _ collation averages answers hanswers
    refine ⟨htotal.trans hanswers.totalEvents.symm, fun h =>
      (hfits h).trans hanswers.totalConnections.symm, hmin.trans hanswers.minLatencyMs.symm,
      hmax.trans hanswers.maxLatencyMs.symm, ?_, fun h => ?_, fun hdistinct h => ?_⟩
    · rw [hseverity, hanswers.severityCounts]
      exact (JvmText.sortedBy_perm _ _).trans (List.perm_insertionSort _ _).symm
    · rw [hice, hanswers.icePathCounts, filterMap_icePath h]
      exact (JvmText.sortedBy_perm _ _).trans (List.perm_insertionSort _ _).symm
    · obtain ⟨sessions', hsessions', -, hperm⟩ :=
        map_summary_toStreamSessionMetrics collation averages hdistinct
      obtain rfl := Option.some.inj (hsessions.symm.trans hsessions')
      obtain ⟨rows, ⟨hrows, hsorted⟩, htake⟩ := hanswers.streamSessions
      refine ⟨rows, ?_, hsorted, htake⟩
      rw [hstream]
      refine hperm.trans ((hrows.map summary).trans (List.Perm.of_eq ?_)).symm
      rw [selectStreamSessions, filter_withStream h, List.map_map]
      rfl

def sessionEvent (occurredAt : ℤ) (severity : String) (streamId connectionId : Option String)
    (connections : Int32) : OperationalEventReadModel where
  id := "evt-" ++ toString occurredAt
  occurredAt := occurredAt
  severity := severity
  category := "stream"
  source := "media-gateway"
  message := "heartbeat"
  connections := connections
  latencyMs := 20
  throughputMbps := 4.0
  groupId := ⟨"platform", by decide⟩
  streamId := streamId
  connectionId := connectionId

def sampleEvents : List OperationalEventReadModel :=
  [sessionEvent 1 "INFO" (some "cam-1") (some "conn-1") 2,
    sessionEvent 2 "WARN" (some "cam-2") none 3,
    sessionEvent 3 "INFO" (some "cam-1") (some "conn-1") 1, sessionEvent 4 "INFO" none none 5]

def sampleAverages : Averages := ⟨averageOfLongs, average⟩

theorem metrics_exact_sample :
    ∃ metrics, toOperationalEventMetrics sampleEvents = some metrics ∧
      metrics.totalConnections = 11 ∧
      (metrics.severityCounts.map fun count => (count.severity, count.count)).Perm
        [("INFO", 3), ("WARN", 1)] ∧
      (metrics.streamSessions.map fun session =>
        ((some session.streamId, session.connectionId), session.eventCount)).Perm
          [((some "cam-1", some "conn-1"), 2), ((some "cam-2", none), 1)] ∧
      metrics.totalConnections =
        (answerFor JvmText.codeUnits sampleAverages sampleEvents).totalConnections := by
  obtain ⟨metrics, hmetrics, haggregates, hsame⟩ := metrics_exact sampleEvents
  have hfit : ConnectionsFit sampleEvents := by
    unfold ConnectionsFit
    decide
  have hdistinct : KeysDistinct sampleEvents := by
    unfold KeysDistinct
    decide +kernel
  have hcounts : (counts (sampleEvents.map (·.severity))).Perm [("INFO", 3), ("WARN", 1)] := by
    decide +kernel
  have hsessions : (counts ((withStream sampleEvents).map sessionOf)).Perm
      [((some "cam-1", some "conn-1"), 2), ((some "cam-2", none), 1)] := by decide +kernel
  refine ⟨metrics, hmetrics, (haggregates.totalConnections hfit).trans (by decide),
    haggregates.severityCounts.trans hcounts,
    (haggregates.streamSessions hdistinct).trans hsessions, ?_⟩
  exact (hsame JvmText.codeUnits sampleAverages _
    (metricsFor_answerFor JvmText.codeUnits sampleAverages sampleEvents)).totalConnections hfit

/-- Events of one connection too many for 32 bits, and of 501 streams. -/
def overflowing : List OperationalEventReadModel :=
  [sessionEvent 1 "INFO" none none 2147483647, sessionEvent 2 "INFO" none none 1]

def separated : List OperationalEventReadModel :=
  [sessionEvent 1 "INFO" (some "a|b") (some "c") 1, sessionEvent 2 "INFO" (some "a") (some "b|c") 1]

def blankStream : List OperationalEventReadModel := [sessionEvent 1 "INFO" (some " ") none 1]

def streamNamed (n : ℕ) : OperationalEventReadModel :=
  sessionEvent n "INFO" (some (String.ofList (List.replicate (n + 1) 'a'))) none 1

def manyStreams : List OperationalEventReadModel := (List.range 501).map streamNamed

theorem streamNamed_isPresent (n : ℕ) : isPresent (streamNamed n).streamId = true := by
  change (!(String.ofList (List.replicate (n + 1) 'a')).toList.all JvmText.isWhitespace) = true
  rw [String.toList_ofList, List.replicate_succ, List.all_cons]
  rfl

theorem streamNamed_injective {m n : ℕ}
    (h : (streamNamed m).streamId = (streamNamed n).streamId) : m = n := by
  have hlength := congrArg List.length (String.ofList_injective (Option.some.inj h))
  rw [List.length_replicate, List.length_replicate] at hlength
  exact Nat.succ.inj hlength

theorem withStream_manyStreams : withStream manyStreams = manyStreams := by
  refine List.filter_eq_self.2 fun event hevent => ?_
  obtain ⟨n, -, rfl⟩ := List.mem_map.1 hevent
  exact streamNamed_isPresent n

theorem keysDistinct_manyStreams : KeysDistinct manyStreams := by
  intro event hevent event' hevent' hkey
  rw [withStream_manyStreams] at hevent hevent'
  obtain ⟨m, -, rfl⟩ := List.mem_map.1 hevent
  obtain ⟨n, -, rfl⟩ := List.mem_map.1 hevent'
  have hstream : String.ofList (List.replicate (m + 1) 'a') =
      String.ofList (List.replicate (n + 1) 'a') := by
    have h := congrArg String.toList hkey
    simp only [streamKey, streamNamed, sessionEvent, Option.getD_some, Option.getD_none,
      String.toList_append] at h
    exact String.toList_injective (List.append_cancel_right (List.append_cancel_right h))
  exact Prod.ext (congrArg some hstream) rfl

/-- Every one of the streams has its metric in memory. -/
theorem length_manyStreams {sessions : List OperationalStreamSessionMetric}
    (h : toStreamSessionMetrics manyStreams = some sessions) : sessions.length = 501 := by
  have hlength := (sessions_perm_counts keysDistinct_manyStreams h).length_eq
  rw [List.length_map, withStream_manyStreams, counts, List.length_map] at hlength
  have hnodup : (manyStreams.map sessionOf).Nodup := by
    rw [manyStreams, List.map_map]
    refine List.Nodup.map (fun m n heq => ?_) List.nodup_range
    exact streamNamed_injective (congrArg Prod.fst heq)
  rw [hlength, List.dedup_eq_self.2 hnodup, List.length_map, manyStreams, List.length_map,
    List.length_range]

/-- A sum that does not fit, two sessions of one text, a stream of nothing but white space, and more
sessions than the server answers with. -/
theorem metrics_inexact :
    ((toOperationalEventMetrics overflowing).map (·.totalConnections) = some (-2147483648) ∧
      (overflowing.map (·.connections.toInt)).sum = 2147483648) ∧
    ((toOperationalEventMetrics separated).map (·.streamSessions.length) = some 1 ∧
      (counts ((withStream separated).map sessionOf)).length = 2) ∧
    ((toOperationalEventMetrics blankStream).map (·.streamSessions) = some [] ∧
      (answerFor JvmText.codeUnits sampleAverages blankStream).streamSessions.length = 1) ∧
    (toOperationalEventMetrics manyStreams).map (·.streamSessions.length) = some 501 ∧
      ∀ answers, MetricsFor JvmText.codeUnits sampleAverages manyStreams answers →
        answers.streamSessions.length ≤ 500 := by
  refine ⟨⟨by decide +kernel, by decide⟩, ⟨by decide +kernel, by decide +kernel⟩,
    ⟨by decide +kernel, by decide +kernel⟩, ?_, fun answers hanswers => ?_⟩
  · obtain ⟨sessions, hsessions, -⟩ := exists_toStreamSessionMetrics manyStreams
    obtain ⟨metrics, hmetrics, -, -, -, -, -, -, hstream⟩ :=
      exists_toOperationalEventMetrics hsessions
    rw [hmetrics, Option.map_some, hstream, length_manyStreams hsessions]
  · obtain ⟨sessions, -, htake⟩ := hanswers.streamSessions
    rw [htake]
    exact List.length_take_le _ _

end GcsSaker.EventMetrics
