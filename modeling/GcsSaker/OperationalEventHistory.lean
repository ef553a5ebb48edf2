import GcsSaker.Slices
import Mathlib.Data.Finset.Basic

/-!
# The history of operational events on the dashboard

Events are merged by their ids, sorted by their times and cut to the newest ones with every event or
batch of events that arrives. What is left at the end does not depend on how they arrived.
-/

namespace GcsSaker.OperationalEventHistory

open Slices (Newest)

inductive OperationalEventSeverity where
  | info
  | warn
  | error
  deriving DecidableEq

inductive OperationalEventCategory where
  | api
  | signaling
  | network
  | stream
  | security
  deriving DecidableEq

structure OperationalEvent where
  id : String
  occurredAt : String
  severity : OperationalEventSeverity
  category : OperationalEventCategory
  eventType : Option String
  sourceService : Option String
  source : String
  message : String
  connections : Float
  latencyMs : Float
  throughputMbps : Float
  streamId : Option String
  connectionId : Option String
  icePath : Option String
  relayFallbackReason : Option String
  deriving DecidableEq

def OPERATIONAL_EVENT_HISTORY_LIMIT : ℕ := 500

/-- `byId.set(event.id, event)`: an event that is known keeps its place. -/
def setById (byId : List OperationalEvent) (event : OperationalEvent) : List OperationalEvent :=
  if byId.any (·.id = event.id) then
    byId.map fun known => if known.id = event.id then event else known
  else byId ++ [event]

section

variable (getTime : String → Option ℤ)

/-- `compare(left, right) <= 0`, where `new Date(occurredAt).getTime()` is none for `NaN`, and a
difference with `NaN` counts as zero. -/
def notAfter (left right : OperationalEvent) : Bool :=
  match getTime right.occurredAt, getTime left.occurredAt with
  | some right, some left => right - left ≤ 0
  | _, _ => true

def mergeOperationalEvents (previous incoming : List OperationalEvent) : List OperationalEvent :=
  let byId := incoming.foldl setById (previous.foldl setById [])
  (byId.mergeSort (notAfter getTime)).take OPERATIONAL_EVENT_HISTORY_LIMIT

/-- What `appendEvent` makes of the events that are shown. -/
def appendEvent (current : List OperationalEvent) (event : OperationalEvent) :
    List OperationalEvent :=
  mergeOperationalEvents getTime current [event]

/-- The time of an event that has one. -/
def time (event : OperationalEvent) : ℤ := (getTime event.occurredAt).getD 0

/-- The events have valid and distinct times, and one content for each id. -/
structure Consistent (events : Set OperationalEvent) : Prop where
  valid : ∀ event ∈ events, (getTime event.occurredAt).isSome = true
  times : ∀ event ∈ events, ∀ other ∈ events,
    getTime event.occurredAt = getTime other.occurredAt → event = other
  contents : ∀ event ∈ events, ∀ other ∈ events, event.id = other.id → event = other

end

/-! ## Merging by ids -/

theorem setById_of_consistent {byId : List OperationalEvent} {event : OperationalEvent}
    (h : ∀ known ∈ byId, known.id = event.id → known = event) :
    setById byId event = if event ∈ byId then byId else byId ++ [event] := by
  unfold setById
  by_cases hmem : event ∈ byId
  · have hknown : byId.any (·.id = event.id) = true :=
      List.any_eq_true.2 ⟨event, hmem, decide_eq_true rfl⟩
    rw [if_pos hknown, if_pos hmem]
    refine (List.map_congr_left fun known hin => ?_).trans (List.map_id' byId)
    split
    next hid => exact (h known hin hid).symm
    next => rfl
  · have hnew : ¬byId.any (·.id = event.id) = true := by
      intro hany
      obtain ⟨known, hin, hid⟩ := List.any_eq_true.1 hany
      exact hmem (h known hin (of_decide_eq_true hid) ▸ hin)
    rw [if_neg hnew, if_neg hmem]

/-- Events with one content for each id are merged as a set. -/
theorem foldl_setById {events byId : List OperationalEvent}
    (h : ∀ event ∈ byId ++ events, ∀ other ∈ byId ++ events,
      event.id = other.id → event = other) (hnodup : byId.Nodup) :
    (events.foldl setById byId).Nodup ∧
      ∀ event, event ∈ events.foldl setById byId ↔ event ∈ byId ∨ event ∈ events := by
  induction events generalizing byId with
  | nil => exact ⟨hnodup, fun event => by simp⟩
  | cons event events ih =>
      have hset := @setById_of_consistent byId event fun known hin =>
        h known (by simp [hin]) event (by simp)
      have hmem : ∀ other, other ∈ setById byId event ↔ other ∈ byId ∨ other = event := by
        intro other
        rw [hset]
        split
        next hin => exact ⟨.inl, fun hor => hor.elim (fun hold => hold) fun heq => heq ▸ hin⟩
        next => rw [List.mem_append, List.mem_singleton]
      have hnodup' : (setById byId event).Nodup := by
        rw [hset]
        split
        next => exact hnodup
        next hout => exact List.nodup_append.2 ⟨hnodup, List.nodup_singleton event,
          fun known hin other hother heq => hout (List.mem_singleton.1 hother ▸ heq ▸ hin)⟩
      have hsame : ∀ other, other ∈ setById byId event ++ events ↔
          other ∈ byId ++ event :: events := by
        intro other
        rw [List.mem_append, List.mem_append, List.mem_cons, hmem, or_assoc]
      obtain ⟨hdistinct, hall⟩ := ih (fun known hin other hother =>
        h known ((hsame known).1 hin) other ((hsame other).1 hother)) hnodup'
      refine ⟨hdistinct, fun other => ?_⟩
      rw [List.foldl_cons, hall, hmem, List.mem_cons, or_assoc]

/-! ## Sorting by times -/

variable {getTime : String → Option ℤ}

/-- The comparison of events with valid times. -/
def newestFirst (getTime : String → Option ℤ) (left right : OperationalEvent) : Bool :=
  time getTime right ≤ time getTime left

theorem notAfter_of_valid {left right : OperationalEvent}
    (hleft : (getTime left.occurredAt).isSome = true)
    (hright : (getTime right.occurredAt).isSome = true) :
    notAfter getTime left right = newestFirst getTime left right := by
  obtain ⟨l, hl⟩ := Option.isSome_iff_exists.1 hleft
  obtain ⟨r, hr⟩ := Option.isSome_iff_exists.1 hright
  simp only [notAfter, newestFirst, time, hl, hr, Option.getD_some]
  exact decide_eq_decide.2 ⟨Int.le_of_sub_nonpos, Int.sub_nonpos_of_le⟩

/-- Distinct events with distinct valid times are sorted from the newest to the oldest. -/
theorem mergeSort_sorted {events : List OperationalEvent}
    (h : Consistent getTime {event | event ∈ events}) (hnodup : events.Nodup) :
    (events.mergeSort (notAfter getTime)).Pairwise fun x y => time getTime y < time getTime x := by
  have hcongr : events.mergeSort (notAfter getTime) = events.mergeSort (newestFirst getTime) := by
    have hagree : ∀ left ∈ events, ∀ right ∈ events,
        notAfter getTime left right = newestFirst getTime (id left) (id right) :=
      fun left hleft right hright =>
        notAfter_of_valid (h.valid left hleft) (h.valid right hright)
    simpa only [List.map_id] using List.map_mergeSort hagree
  have hsorted := List.pairwise_mergeSort
    (fun a b c (hab : newestFirst getTime a b = true) hbc => decide_eq_true
      (le_trans (of_decide_eq_true hbc) (of_decide_eq_true hab)))
    (fun a b => by
      rw [Bool.or_eq_true, newestFirst, newestFirst, decide_eq_true_eq, decide_eq_true_eq]
      exact le_total _ _) events
  have hdistinct : (events.mergeSort (newestFirst getTime)).Nodup :=
    (List.mergeSort_perm events _).nodup_iff.2 hnodup
  rw [hcongr]
  refine (hsorted.and hdistinct).imp_of_mem fun hx hy hpair => ?_
  have hx' := (List.mergeSort_perm events _).subset hx
  have hy' := (List.mergeSort_perm events _).subset hy
  refine lt_of_le_of_ne (of_decide_eq_true hpair.1) fun heq => hpair.2 ?_
  obtain ⟨l, hl⟩ := Option.isSome_iff_exists.1 (h.valid _ hx')
  obtain ⟨r, hr⟩ := Option.isSome_iff_exists.1 (h.valid _ hy')
  rw [time, time, hl, hr, Option.getD_some, Option.getD_some] at heq
  exact h.times _ hx' _ hy' (by rw [hl, hr, heq])

/-! ## Histories -/

/-- A batch is merged into the newest of the events before it. -/
theorem newest_mergeOperationalEvents {events : Set OperationalEvent}
    (h : Consistent getTime events) {seen : Set OperationalEvent}
    {history incoming : List OperationalEvent}
    (hhistory : Newest (time getTime) OPERATIONAL_EVENT_HISTORY_LIMIT seen history)
    (hseen : seen ⊆ events) (hincoming : ∀ event ∈ incoming, event ∈ events) :
    Newest (time getTime) OPERATIONAL_EVENT_HISTORY_LIMIT (seen ∪ {event | event ∈ incoming})
      (mergeOperationalEvents getTime history incoming) := by
  have hall : ∀ event ∈ history ++ incoming, event ∈ events := fun event hmem =>
    (List.mem_append.1 hmem).elim (fun hin => hseen (hhistory.subset event hin)) (hincoming event)
  have hcontents : ∀ event ∈ [] ++ (history ++ incoming), ∀ other ∈ [] ++ (history ++ incoming),
      event.id = other.id → event = other := fun event hmem other hother =>
    h.contents event (hall event hmem) other (hall other hother)
  obtain ⟨hnodup, hmem⟩ := foldl_setById hcontents List.nodup_nil
  rw [List.foldl_append] at hnodup hmem
  have hmem' : ∀ event, event ∈ incoming.foldl setById (history.foldl setById []) ↔
      event ∈ history ∨ event ∈ incoming := by
    intro event
    rw [hmem, List.mem_append, or_iff_right List.not_mem_nil]
  have hconsistent : Consistent getTime
      {event | event ∈ incoming.foldl setById (history.foldl setById [])} := by
    have hsub : ∀ event ∈ incoming.foldl setById (history.foldl setById []), event ∈ events :=
      fun event hin => hall event (List.mem_append.2 ((hmem' event).1 hin))
    exact ⟨fun event hin => h.valid event (hsub event hin),
      fun event hin other hother => h.times event (hsub event hin) other (hsub other hother),
      fun event hin other hother => h.contents event (hsub event hin) other (hsub other hother)⟩
  refine hhistory.merge (fun event => ?_) (mergeSort_sorted hconsistent hnodup)
  rw [List.mem_mergeSort, hmem']
  rfl

theorem newest_foldl {events : Set OperationalEvent} (h : Consistent getTime events)
    {seen : Set OperationalEvent} {history : List OperationalEvent}
    (hhistory : Newest (time getTime) OPERATIONAL_EVENT_HISTORY_LIMIT seen history)
    (hseen : seen ⊆ events) {batches : List (List OperationalEvent)}
    (hbatches : ∀ event ∈ batches.flatten, event ∈ events) :
    Newest (time getTime) OPERATIONAL_EVENT_HISTORY_LIMIT
      (seen ∪ {event | event ∈ batches.flatten})
      (batches.foldl (mergeOperationalEvents getTime) history) := by
  induction batches generalizing seen history with
  | nil => simpa using hhistory
  | cons batch batches ih =>
      have hbatch : ∀ event ∈ batch, event ∈ events := fun event hin =>
        hbatches event (by simp [hin])
      have hnext := ih (newest_mergeOperationalEvents h hhistory hseen hbatch)
        (Set.union_subset hseen hbatch) fun event hin => hbatches event (by
          rw [List.flatten_cons]
          exact List.mem_append_right _ hin)
      rw [Set.union_assoc] at hnext
      have hflatten : {event | event ∈ (batch :: batches).flatten} =
          {event | event ∈ batch} ∪ {event | event ∈ batches.flatten} := by
        ext event
        rw [List.flatten_cons]
        exact List.mem_append
      rw [hflatten]
      exact hnext

/-- However the events arrive, the newest of them are left, the newest first. -/
theorem history_order_independent {events : Finset OperationalEvent}
    (h : Consistent getTime events) :
    ∃ history, Newest (time getTime) OPERATIONAL_EVENT_HISTORY_LIMIT (events : Set _) history ∧
      ∀ batches : List (List OperationalEvent),
        (∀ event, event ∈ batches.flatten ↔ event ∈ events) →
        batches.foldl (mergeOperationalEvents getTime) [] = history := by
  have hnewest : ∀ batches : List (List OperationalEvent),
      (∀ event, event ∈ batches.flatten ↔ event ∈ events) →
      Newest (time getTime) OPERATIONAL_EVENT_HISTORY_LIMIT (events : Set _)
        (batches.foldl (mergeOperationalEvents getTime) []) := by
    intro batches hbatches
    have hfold := newest_foldl h Newest.nil (Set.empty_subset _) fun event hin =>
      (hbatches event).1 hin
    have hsame : ∅ ∪ {event | event ∈ batches.flatten} = (events : Set OperationalEvent) := by
      ext event
      rw [Set.empty_union]
      exact hbatches event
    rwa [hsame] at hfold
  have hone : ∀ event, event ∈ [events.toList].flatten ↔ event ∈ events := fun event => by
    rw [List.flatten_singleton, Finset.mem_toList]
  exact ⟨_, hnewest _ hone, fun batches hbatches =>
    (hnewest batches hbatches).unique (hnewest _ hone)⟩

def eventAt (id occurredAt : String) : OperationalEvent where
  id := id
  occurredAt := occurredAt
  severity := .info
  category := .stream
  eventType := none
  sourceService := none
  source := ""
  message := ""
  connections := 0
  latencyMs := 0
  throughputMbps := 0
  streamId := none
  connectionId := none
  icePath := none
  relayFallbackReason := none

/-- The beginnings of two years. -/
def yearStart (text : String) : Option ℤ :=
  if text = "2025" then some 1735689600000 else if text = "2026" then some 1767225600000 else none

def twoEvents : Finset OperationalEvent := {eventAt "a" "2025", eventAt "b" "2026"}

theorem twoEvents_consistent : Consistent yearStart twoEvents := by
  have hevents : ∀ event ∈ twoEvents, event = eventAt "a" "2025" ∨ event = eventAt "b" "2026" :=
    fun event hmem => by simpa [twoEvents] using hmem
  constructor
  · intro event hmem
    rcases hevents event hmem with rfl | rfl <;> rfl
  · intro event hmem other hother
    rcases hevents event hmem with rfl | rfl <;> rcases hevents other hother with rfl | rfl
    · exact fun _ => rfl
    · exact fun h => absurd h (by decide)
    · exact fun h => absurd h (by decide)
    · exact fun _ => rfl
  · intro event hmem other hother
    rcases hevents event hmem with rfl | rfl <;> rcases hevents other hother with rfl | rfl
    · exact fun _ => rfl
    · exact fun h => absurd h (by decide)
    · exact fun h => absurd h (by decide)
    · exact fun _ => rfl

theorem history_order_independent_sample :
    ∃ history, Newest (time yearStart) OPERATIONAL_EVENT_HISTORY_LIMIT (twoEvents : Set _) history ∧
      [[eventAt "a" "2025"], [eventAt "b" "2026"], [eventAt "a" "2025"]].foldl
        (mergeOperationalEvents yearStart) [] = history := by
  obtain ⟨history, hnewest, hfold⟩ := history_order_independent twoEvents_consistent
  refine ⟨history, hnewest, hfold _ fun event => ?_⟩
  simp only [twoEvents, Finset.mem_insert, Finset.mem_singleton, List.flatten_cons,
    List.flatten_nil, List.mem_append, List.mem_singleton, List.not_mem_nil, or_false]
  tauto

end GcsSaker.OperationalEventHistory
