import GcsSaker.Base64
import GcsSaker.CursorPages
import GcsSaker.EventStreamDelivery
import GcsSaker.InstantText
import GcsSaker.TextOrder
import GcsSaker.WireFields
import Mathlib.Data.Int.ConditionallyCompleteOrder

/-!
# Pages of operational events

A page of `OperationalEventRepository` in memory and on Postgres, and the text of the cursor that
the next request sends back. A reader who follows the cursors gets every event of the query once,
the latest first, unless the last event of a page has a blank id: no cursor can be made of it, and
the page fails.
-/

namespace GcsSaker.EventPages

open CursorPages (Followed exists_followed_store)
open EventStream (Comparable Filter OperationalEventCursor OperationalEventPage
  OperationalEventQuery Server rowKey searchedColumns timestampParameter toCursor)
open Groups (AuthenticatedPrincipal)
open OperationalEvents (OperationalEventReadModel)
open PostgresColumns (textParameter)
open ProtobufWire (utf8Decode utf8Encode utf8Decode_utf8Encode)
open Watermarks (pending)

structure OperationalEventPageLimit where
  value : ℕ
  inRange : 1 ≤ value ∧ value ≤ 100

/-- `malformed` is what the JVM makes of bytes that are not a text in UTF-8. -/
structure Platform extends AuditChain.Platform where
  equalsIgnoreCase : String → String → Bool
  malformed : List UInt8 → String

/-! ## The text of a cursor -/

def encode (cursor : OperationalEventCursor) : String :=
  Base64.encode (utf8Encode (InstantText.format cursor.occurredAt ++ "|" ++ cursor.id))

/-- The two parts of a text at the first bar. -/
def splitAtBar (text : String) : Option (String × String) :=
  match text.toList.dropWhile (· ≠ '|') with
  | [] => none
  | _ :: rest => some (String.ofList (text.toList.takeWhile (· ≠ '|')), String.ofList rest)

variable (platform : Platform)

/-- A text that cannot be read is no cursor. -/
def decode (raw : Option String) : Option OperationalEventCursor := do
  let raw ← raw.filter fun raw => !JvmText.isBlank raw
  let bytes ← Base64.decodeUrl raw
  let (instant, id) ← splitAtBar ((utf8Decode bytes).getD (platform.malformed bytes))
  let occurredAt ← InstantText.parse instant
  if h : JvmText.isBlank id = false then some ⟨occurredAt, id, h⟩ else none

/-! ## The pages -/

section Pages

variable {κ : Type} [LinearOrder κ] (collation : String → κ)

/-- What the events are compared by. -/
def eventKey (event : OperationalEventReadModel) : ℤ ×ₗ κ :=
  toLex (event.occurredAt, collation event.id)

def isAfterCursor (occurredAt : ℤ) (id : String) (event : OperationalEventReadModel) : Bool :=
  decide (event.occurredAt < occurredAt) ||
    (decide (event.occurredAt = occurredAt) && decide (collation event.id < collation id))

/-- The latest events first. -/
def descending (events : List OperationalEventReadModel) : List OperationalEventReadModel :=
  events.insertionSort fun event event' => eventKey collation event' ≤ eventKey collation event

/-- The page of the events that have been fetched, one more than fit if there are more; none where
the check of the cursor fails. -/
def pageOf (limit : ℕ) (fetched : List OperationalEventReadModel) : Option OperationalEventPage :=
  match (fetched.take limit).getLast? with
  | none => some ⟨fetched.take limit, none⟩
  | some event =>
    if fetched.length > limit then
      (toCursor event).map fun cursor => ⟨fetched.take limit, some cursor⟩
    else some ⟨fetched.take limit, none⟩

end Pages

namespace OperationalEventRepository

/-- `events` is what `eventsFor` finds. Strings are compared by their code units. -/
def eventPageFor (events : List OperationalEventReadModel) (limit : OperationalEventPageLimit)
    (after : Option OperationalEventCursor) : Option OperationalEventPage :=
  pageOf limit.value ((descending JvmText.codeUnits (events.filter fun event =>
    after.all fun cursor =>
      isAfterCursor JvmText.codeUnits cursor.occurredAt cursor.id event)).take (limit.value + 1))

end OperationalEventRepository

variable (principal : AuthenticatedPrincipal) (query : OperationalEventQuery)

namespace InMemoryOperationalEventRepository

def matchesQuery (event : OperationalEventReadModel) (rawQuery : String) : Bool :=
  let normalizedQuery := platform.lowercase (JvmText.trim rawQuery)
  (searchedColumns event).any fun text =>
    decide (normalizedQuery.toList <:+: (platform.lowercase text).toList)

def isSelected (event : OperationalEventReadModel) : Bool :=
  (decide (event.groupId.value = principal.groupId.value) || decide (principal.role = .admin)) &&
  query.query.all (fun query => JvmText.isBlank query || matchesQuery platform event query) &&
  query.severity.all (fun severity =>
    JvmText.isBlank severity || platform.equalsIgnoreCase event.severity severity) &&
  query.fromInstant.all (fun instant => decide (instant ≤ event.occurredAt)) &&
  query.toInstant.all (fun instant => decide (event.occurredAt ≤ instant))

def eventsFor (events : List OperationalEventReadModel) : List OperationalEventReadModel :=
  descending JvmText.codeUnits (events.filter (isSelected platform principal query))

def eventPageFor (events : List OperationalEventReadModel) (limit : OperationalEventPageLimit)
    (after : Option OperationalEventCursor) : Option OperationalEventPage :=
  OperationalEventRepository.eventPageFor (eventsFor platform principal query events) limit after

end InMemoryOperationalEventRepository

namespace JdbcOperationalEventRepository

variable {κ : Type} [LinearOrder κ] (server : Server κ)

def cursorParameters : Option OperationalEventCursor → Option (Option (ℤ × String))
  | none => some none
  | some cursor => do
    let occurredAt ← timestampParameter cursor.occurredAt
    let id ← textParameter cursor.id
    return some (occurredAt, id)

/-- None where the statement or the check of the cursor fails. -/
def eventPageFor (operationalEvents : List OperationalEventReadModel)
    (limit : OperationalEventPageLimit) (after : Option OperationalEventCursor) :
    Option OperationalEventPage := do
  let filter ← Filter.append platform.toPlatform principal query
  let position ← cursorParameters after
  pageOf limit.value ((descending server.collation (operationalEvents.filter fun row =>
    filter.selects server row && position.all fun (occurredAt, id) =>
      isAfterCursor server.collation occurredAt id row)).take (limit.value + 1))

end JdbcOperationalEventRepository

/-- The events of a page and the text of its cursor, for the cursor that a request has sent. -/
def pageAt (eventPageFor : Option OperationalEventCursor → Option OperationalEventPage)
    (position : Option String) : Option (List OperationalEventReadModel × Option String) :=
  (eventPageFor (decode platform position)).map fun page =>
    (page.events, page.nextCursor.map encode)

/-! ## Cursors -/

variable {platform}

theorem splitAtBar_append {front : String} (h : '|' ∉ front.toList) (id : String) :
    splitAtBar (front ++ "|" ++ id) = some (front, id) := by
  have htext : (front ++ "|" ++ id).toList = front.toList ++ '|' :: id.toList := by
    rw [String.toList_append, String.toList_append, List.append_assoc]
    rfl
  have hfront : ∀ c ∈ front.toList, decide (c ≠ '|') = true := by
    intro c hc
    exact decide_eq_true fun heq => h (heq ▸ hc)
  unfold splitAtBar
  rw [htext, List.takeWhile_append_of_pos hfront, List.dropWhile_append_of_pos hfront]
  simp only [ne_eq, not_true_eq_false, decide_false, Bool.false_eq_true, not_false_eq_true,
    List.dropWhile_cons_of_neg, List.takeWhile_cons_of_neg, List.append_nil, String.ofList_toList]

theorem isBlank_encode (bytes : List UInt8) (h : bytes ≠ []) :
    JvmText.isBlank (Base64.encode bytes) = false := by
  have hall : ∀ n < 64, JvmText.isWhitespace (Base64.sextetChar n) = false := by decide +kernel
  rw [JvmText.isBlank, Bool.eq_false_iff]
  intro hblank
  rw [Base64.encode, String.toList_ofList, List.all_map, List.all_eq_true] at hblank
  have hnil : Base64.sextets (bytes.map UInt8.toNat) = [] := by
    refine List.eq_nil_iff_forall_not_mem.2 fun n hn => ?_
    have hwhite := hblank n hn
    rw [Function.comp_apply, hall n (Base64.sextets_toNat_lt bytes n hn)] at hwhite
    cases hwhite
  refine h (Base64.encode_eq_empty_iff.1 ?_)
  rw [Base64.encode, hnil]
  rfl

/-- A cursor that has been encoded is decoded to itself. -/
theorem decode_encode {cursor : OperationalEventCursor}
    (h : InstantText.InRange cursor.occurredAt) :
    decode platform (some (encode cursor)) = some cursor := by
  have hbar : '|' ∉ (InstantText.format cursor.occurredAt).toList := by
    intro hmem
    exact absurd (InstantText.plain_format _ _ hmem) (by decide)
  have hbytes : utf8Encode (InstantText.format cursor.occurredAt ++ "|" ++ cursor.id) ≠ [] := by
    intro hnil
    have htext := congrArg utf8Decode hnil
    rw [utf8Decode_utf8Encode] at htext
    have hsplit := splitAtBar_append hbar cursor.id
    rw [Option.some.inj (htext.trans (show utf8Decode [] = some "" by decide))] at hsplit
    cases hsplit
  have hblank : (some (encode cursor)).filter (fun raw => !JvmText.isBlank raw) =
      some (encode cursor) := by
    rw [Option.filter_some_pos]
    rw [encode, isBlank_encode _ hbytes]
    rfl
  unfold decode
  rw [hblank]
  refine Option.bind_eq_some_iff.2 ⟨_, rfl, ?_⟩
  refine Option.bind_eq_some_iff.2 ⟨_, Base64.decodeUrl_encode _, ?_⟩
  rw [utf8Decode_utf8Encode]
  refine Option.bind_eq_some_iff.2 ⟨_, splitAtBar_append hbar cursor.id, ?_⟩
  refine Option.bind_eq_some_iff.2 ⟨_, InstantText.parse_format h, ?_⟩
  exact dif_pos cursor.idNotBlank

/-! ## Pages -/

section Follow

variable {κ : Type} [LinearOrder κ] {collation : String → κ}
variable {rows : List OperationalEventReadModel} {row event : OperationalEventReadModel}
variable {cursor : OperationalEventCursor} {limit : ℕ}

/-- The keys turned around, and a mark before all of them. -/
def mark (collation : String → κ) (event : OperationalEventReadModel) : WithBot (ℤ ×ₗ κ)ᵒᵈ :=
  (OrderDual.toDual (eventKey collation event) : (ℤ ×ₗ κ)ᵒᵈ)

omit [LinearOrder κ] in
theorem mark_injective (hcollation : Function.Injective collation)
    (h : mark collation event = mark collation row) : event.id = row.id := by
  have hkey : eventKey collation event = eventKey collation row :=
    OrderDual.toDual.injective (WithBot.coe_injective h)
  exact hcollation (congrArg (fun key => (ofLex key).2) hkey)

omit [LinearOrder κ] in
theorem nodup_mark (hcollation : Function.Injective collation) (hids : (rows.map (·.id)).Nodup) :
    (rows.map (mark collation)).Nodup := by
  rw [List.Nodup, List.pairwise_map] at hids ⊢
  exact hids.imp fun hne heq => hne (mark_injective hcollation heq)

theorem descending_eq (events : List OperationalEventReadModel) :
    descending collation events =
      events.insertionSort fun event event' => mark collation event ≤ mark collation event' := by
  have h := List.map_insertionSort (fun event event' => eventKey collation event' ≤
    eventKey collation event) (fun event event' => mark collation event ≤ mark collation event')
    id events fun event _ event' _ => by
      rw [mark, id, id, mark, WithBot.coe_le_coe, OrderDual.toDual_le_toDual]
  rwa [List.map_id, List.map_id] at h

theorem isAfterCursor_iff :
    isAfterCursor collation row.occurredAt row.id event = true ↔
      mark collation row < mark collation event := by
  rw [mark, mark, WithBot.coe_lt_coe, OrderDual.toDual_lt_toDual, eventKey, eventKey,
    Prod.Lex.toLex_lt_toLex, isAfterCursor, Bool.or_eq_true, Bool.and_eq_true, decide_eq_true_iff,
    decide_eq_true_iff, decide_eq_true_iff]

theorem toCursor_of_notBlank (h : JvmText.isBlank event.id = false) :
    toCursor event = some ⟨event.occurredAt, event.id, h⟩ := dif_pos h

theorem pageOf_of_le {fetched : List OperationalEventReadModel} (h : fetched.length ≤ limit) :
    pageOf limit fetched = some ⟨fetched, none⟩ := by
  unfold pageOf
  rw [List.take_of_length_le h]
  split
  · rfl
  · rw [if_neg h.not_gt]

/-- The last row of a page that is full makes its cursor. -/
theorem pageOf_of_lt {fetched : List OperationalEventReadModel} (h : limit < fetched.length)
    (hlast : (fetched.take limit).getLast? = some event)
    (hblank : JvmText.isBlank event.id = false) :
    pageOf limit fetched =
      some ⟨fetched.take limit, some ⟨event.occurredAt, event.id, hblank⟩⟩ := by
  unfold pageOf
  rw [hlast]
  dsimp only
  rw [if_pos h, toCursor_of_notBlank hblank]
  rfl

/-- What both repositories promise of a page. -/
def Reads (collation : String → κ) (rows : List OperationalEventReadModel) (limit : ℕ)
    (eventPageFor : Option OperationalEventCursor → Option OperationalEventPage) : Prop :=
  ∀ after, (∀ cursor ∈ after, ∃ row ∈ rows, toCursor row = some cursor) →
    eventPageFor after = pageOf limit ((descending collation (rows.filter fun event =>
      after.all fun cursor =>
        isAfterCursor collation cursor.occurredAt cursor.id event)).take (limit + 1))

/-- A request without a cursor, or with the cursor of a row, and the mark that it stands for. -/
def Stands (collation : String → κ) (rows : List OperationalEventReadModel)
    (position : Option String) (m : WithBot (ℤ ×ₗ κ)ᵒᵈ) : Prop :=
  position = none ∧ m = ⊥ ∨ ∃ row ∈ rows, ∃ cursor, toCursor row = some cursor ∧
    position = some (encode cursor) ∧ m = mark collation row

theorem fields_of_toCursor (h : toCursor row = some cursor) :
    cursor.occurredAt = row.occurredAt ∧ cursor.id = row.id := by
  unfold toCursor at h
  split_ifs at h
  cases h
  exact ⟨rfl, rfl⟩

/-- The page of a request is made of the rows after its mark. -/
theorem pageAt_of_stands
    {eventPageFor : Option OperationalEventCursor → Option OperationalEventPage}
    (hrange : ∀ row ∈ rows, InstantText.InRange row.occurredAt)
    (hreads : Reads collation rows limit eventPageFor) {position : Option String}
    {m : WithBot (ℤ ×ₗ κ)ᵒᵈ} (hstands : Stands collation rows position m) :
    pageAt platform eventPageFor position =
      (pageOf limit ((pending (mark collation) m rows).take (limit + 1))).map fun page =>
        (page.events, page.nextCursor.map encode) := by
  have hpage : eventPageFor (decode platform position) =
      pageOf limit ((pending (mark collation) m rows).take (limit + 1)) := by
    rcases hstands with ⟨rfl, rfl⟩ | ⟨row, hmem, cursor, hcursor, rfl, rfl⟩
    · refine (hreads none fun cursor hcursor => absurd hcursor nofun).trans ?_
      rw [descending_eq, pending]
      congr 3
    · obtain ⟨hinstant, hid⟩ := fields_of_toCursor hcursor
      rw [decode_encode (hinstant ▸ hrange row hmem)]
      refine (hreads (some cursor) fun cursor' hcursor' =>
        ⟨row, hmem, hcursor.trans hcursor'⟩).trans ?_
      rw [descending_eq, pending]
      congr 3
      refine List.filter_congr fun event _ => ?_
      rw [Option.all_some, hinstant, hid, Bool.eq_iff_iff, isAfterCursor_iff, decide_eq_true_iff]
  rw [pageAt, hpage]

theorem exists_followed
    {eventPageFor : Option OperationalEventCursor → Option OperationalEventPage}
    (hcollation : Function.Injective collation) (hlimit : 0 < limit)
    (hids : (rows.map (·.id)).Nodup)
    (hblank : ∀ row ∈ rows, JvmText.isBlank row.id = false)
    (hrange : ∀ row ∈ rows, InstantText.InRange row.occurredAt)
    (hreads : Reads collation rows limit eventPageFor) :
    ∃ pages, Followed (fun _ => pageAt platform eventPageFor) 0 none pages ∧
      pages.flatten.Perm rows ∧
      pages.flatten.Pairwise fun event event' =>
        eventKey collation event' < eventKey collation event := by
  obtain ⟨pages, hpages, hperm, hsorted⟩ := exists_followed_store
    (fun _ position m => Stands collation rows position m)
    (fun _ fetched => (pageOf limit fetched).map fun page =>
      (page.events, page.nextCursor.map encode))
    (nodup_mark hcollation hids) hlimit
    (fun _ _ _ hstands => pageAt_of_stands hrange hreads hstands)
    (fun _ fetched hlength => by rw [pageOf_of_le hlength]; rfl)
    (fun _ fetched hlength event hmem hlast => by
      have hcursor := toCursor_of_notBlank (hblank event hmem)
      refine ⟨_, ?_, .inr ⟨event, hmem, _, hcursor, rfl, rfl⟩⟩
      rw [pageOf_of_lt hlength hlast (hblank event hmem)]
      rfl)
    (.inl ⟨rfl, rfl⟩) fun event _ => WithBot.bot_lt_coe _
  refine ⟨pages, hpages, hperm, hsorted.imp fun {event event'} h => ?_⟩
  rwa [mark, mark, WithBot.coe_lt_coe, OrderDual.toDual_lt_toDual] at h

end Follow

/-! ## The repositories -/

theorem reads_eventPageFor (events : List OperationalEventReadModel)
    (limit : OperationalEventPageLimit) : Reads JvmText.codeUnits events limit.value
      (OperationalEventRepository.eventPageFor events limit) :=
  fun _ _ => rfl

variable {principal : AuthenticatedPrincipal} {query : OperationalEventQuery}

theorem eventsFor_perm (events : List OperationalEventReadModel) :
    (InMemoryOperationalEventRepository.eventsFor platform principal query events).Perm
      (events.filter (InMemoryOperationalEventRepository.isSelected platform principal query)) :=
  List.perm_insertionSort _ _

section Postgres

variable {κ : Type} [LinearOrder κ] {server : Server κ} {filter : Filter}
variable {rows : List OperationalEventReadModel} {row : OperationalEventReadModel}

/-- What is stored can be compared with again. -/
theorem cursorParameters_toCursor {cursor : OperationalEventCursor} (hrows : Comparable rows)
    (hmem : row ∈ rows) (h : toCursor row = some cursor) :
    JdbcOperationalEventRepository.cursorParameters (some cursor) =
      some (some (cursor.occurredAt, cursor.id)) := by
  obtain ⟨hinstant, hid⟩ := fields_of_toCursor h
  rw [JdbcOperationalEventRepository.cursorParameters, hinstant, hid, hrows.instants row hmem,
    hrows.texts row hmem]
  rfl

theorem reads_jdbc (limit : OperationalEventPageLimit) (hrows : Comparable rows)
    (hfilter : Filter.append platform.toPlatform principal query = some filter) :
    Reads server.collation (rows.filter (filter.selects server)) limit.value
      (JdbcOperationalEventRepository.eventPageFor platform principal query server rows limit) := by
  intro after hafter
  unfold JdbcOperationalEventRepository.eventPageFor
  rw [hfilter, Option.bind_eq_bind, Option.bind_some, List.filter_filter]
  cases after with
  | none =>
      simp only [JdbcOperationalEventRepository.cursorParameters, Option.bind_eq_bind,
        Option.bind_some, Option.all_none, Bool.and_true, Bool.true_and]
  | some cursor =>
      obtain ⟨row, hmem, hcursor⟩ := hafter cursor rfl
      rw [cursorParameters_toCursor hrows (List.mem_filter.1 hmem).1 hcursor]
      simp only [Option.bind_eq_bind, Option.bind_some, Option.all_some, Bool.and_comm]

/-- The server's instants are instants of the JVM. -/
theorem inRange_of_timestampParameter {t t' : ℤ} (h : timestampParameter t = some t') :
    InstantText.InRange t := by
  unfold timestampParameter PostgresColumns.timestamptz at h
  split_ifs at h with hrepresentable hrange
  simp only [PostgresColumns.lowest, PostgresColumns.beyond, PostgresColumns.epoch,
    PostgresColumns.toMicros, PostgresColumns.microsecond, Clock.second] at hrange
  simp only [InstantText.InRange, InstantText.MIN_SECOND, InstantText.MAX_SECOND, Clock.second]
  omega

end Postgres

/-- The cursor of a page is read back, and who follows the cursors of either repository gets the
events of the query once, the latest first. -/
theorem eventPages_followed (platform : Platform) (limit : OperationalEventPageLimit) :
    (∀ cursor : OperationalEventCursor, InstantText.InRange cursor.occurredAt →
      decode platform (some (encode cursor)) = some cursor) ∧
    (∀ events : List OperationalEventReadModel, (events.map (·.id)).Nodup →
      (∀ event ∈ events, JvmText.isBlank event.id = false ∧
        InstantText.InRange event.occurredAt) →
      ∀ principal query, ∃ pages,
        Followed (fun _ => pageAt platform (InMemoryOperationalEventRepository.eventPageFor
          platform principal query events limit)) 0 none pages ∧
        pages.flatten.Perm (events.filter
          (InMemoryOperationalEventRepository.isSelected platform principal query)) ∧
        pages.flatten.Pairwise fun event event' =>
          eventKey JvmText.codeUnits event' < eventKey JvmText.codeUnits event) ∧
    ∀ (κ : Type) [LinearOrder κ] (server : Server κ) (rows : List OperationalEventReadModel),
      Comparable rows → (∀ row ∈ rows, JvmText.isBlank row.id = false) →
      ∀ principal query filter,
        Filter.append platform.toPlatform principal query = some filter → ∃ pages,
          Followed (fun _ => pageAt platform (JdbcOperationalEventRepository.eventPageFor
            platform principal query server rows limit)) 0 none pages ∧
          pages.flatten.Perm (rows.filter (filter.selects server)) ∧
          pages.flatten.Pairwise fun row row' => rowKey server row' < rowKey server row := by
  refine ⟨fun cursor => decode_encode, ?_, ?_⟩
  · intro events hids hevents principal query
    have hperm := @eventsFor_perm platform principal query events
    have hmem : ∀ event ∈ InMemoryOperationalEventRepository.eventsFor platform principal query
        events, event ∈ events :=
      fun event h => (List.mem_filter.1 (hperm.subset h)).1
    have hnodup : ((InMemoryOperationalEventRepository.eventsFor platform principal query
        events).map (·.id)).Nodup := by
      rw [(hperm.map _).nodup_iff]
      exact hids.sublist (List.filter_sublist.map _)
    obtain ⟨pages, hpages, hall, hsorted⟩ := exists_followed JvmText.codeUnits_injective
      limit.inRange.1 hnodup (fun event h => (hevents event (hmem event h)).1)
      (fun event h => (hevents event (hmem event h)).2) (reads_eventPageFor _ limit)
    exact ⟨pages, hpages, hall.trans hperm, hsorted⟩
  · intro κ _ server rows hrows hblank principal query filter hfilter
    have hmem : ∀ row ∈ rows.filter (filter.selects server), row ∈ rows :=
      fun row h => (List.mem_filter.1 h).1
    exact exists_followed server.collation_injective limit.inRange.1
      (hrows.ids.sublist (List.filter_sublist.map _))
      (fun row h => hblank row (hmem row h))
      (fun row h => inRange_of_timestampParameter (hrows.instants row (hmem row h)))
      (reads_jdbc limit hrows hfilter)

def samplePlatform : Platform where
  toPlatform := AuditChain.samplePlatform
  equalsIgnoreCase text text' := text = text'
  malformed _ := "\uFFFD"

def sampleEvents : List OperationalEventReadModel :=
  [EventStream.apiEvent "evt-1" (1000 * Clock.second),
    EventStream.apiEvent "evt|2" (1000 * Clock.second),
    EventStream.apiEvent "evt-3" (2000 * Clock.second)]

/-- Three events on pages of one, two of them of the same instant. -/
theorem eventPages_followed_sample :
    (∃ pages, Followed (fun _ => pageAt samplePlatform
        (InMemoryOperationalEventRepository.eventPageFor samplePlatform EventStream.viewer {}
          sampleEvents ⟨1, by decide⟩)) 0 none pages ∧ pages.flatten.Perm sampleEvents) ∧
    ∃ pages, Followed (fun _ => pageAt samplePlatform
        (JdbcOperationalEventRepository.eventPageFor samplePlatform EventStream.viewer {}
          EventStream.sampleServer sampleEvents ⟨1, by decide⟩)) 0 none pages ∧
      pages.flatten.Perm sampleEvents := by
  have hblank : ∀ event ∈ sampleEvents, JvmText.isBlank event.id = false := by decide +kernel
  have hrange : ∀ event ∈ sampleEvents, InstantText.InRange event.occurredAt := by decide +kernel
  obtain ⟨-, hmemory, hpostgres⟩ := eventPages_followed samplePlatform ⟨1, by decide⟩
  obtain ⟨pages, hpages, hperm, -⟩ := hmemory sampleEvents (by decide +kernel)
    (fun event h => ⟨hblank event h, hrange event h⟩) EventStream.viewer {}
  obtain ⟨pages', hpages', hperm', -⟩ := hpostgres String EventStream.sampleServer sampleEvents
    ⟨by decide +kernel, by decide +kernel, by decide +kernel⟩ hblank EventStream.viewer {}
    EventStream.viewerFilter EventStream.append_viewer
  exact ⟨⟨pages, hpages, hperm⟩, pages', hpages', hperm'⟩

/-- The first of two pages ends with an event of a blank id, and fails. -/
theorem eventPages_followed_negative :
    (([EventStream.apiEvent " " (2000 * Clock.second),
      EventStream.apiEvent "evt-1" (1000 * Clock.second)]).map (·.id)).Nodup ∧
    ¬ ∃ pages, Followed (fun _ => pageAt samplePlatform
        (InMemoryOperationalEventRepository.eventPageFor samplePlatform EventStream.viewer {}
          [EventStream.apiEvent " " (2000 * Clock.second),
            EventStream.apiEvent "evt-1" (1000 * Clock.second)] ⟨1, by decide⟩)) 0 none pages := by
  refine ⟨by decide, ?_⟩
  rintro ⟨pages, hpages⟩
  have hfails : (pageAt samplePlatform (InMemoryOperationalEventRepository.eventPageFor
      samplePlatform EventStream.viewer {} [EventStream.apiEvent " " (2000 * Clock.second),
        EventStream.apiEvent "evt-1" (1000 * Clock.second)] ⟨1, by decide⟩) none).isNone =
      true := by
    decide +kernel
  refine CursorPages.not_followed (fun rows cursor h => ?_) hpages
  rw [h] at hfails
  cases hfails

end GcsSaker.EventPages
