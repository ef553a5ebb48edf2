import GcsSaker.AuditChain
import GcsSaker.AuthModels
import GcsSaker.GroupClosure
import Mathlib.Data.Prod.Lex

/-!
# The stream of operational events

`OperationalEventStreamWriter` and the queries of `JdbcOperationalEventRepository` that it makes, on
Postgres, while `JdbcOperationalEventWriter` appends events. A stream that is open reads the first
page, then the clock if the page was empty, and polls from then on. A query sees what has been
committed. The loop that waits between the polls is left out: it decides when a poll is made and
when the stream ends.
-/

namespace GcsSaker.EventStream

open AuditChain (Platform System)
open Groups (AuthenticatedPrincipal GroupClosureRelation)
open OperationalEvents (OperationalEventReadModel)
open PostgresColumns (nullable textParameter timestamptz)

structure OperationalEventQuery where
  query : Option String := none
  severity : Option String := none
  fromInstant : Option ℤ := none
  toInstant : Option ℤ := none

@[ext] structure OperationalEventCursor where
  occurredAt : ℤ
  id : String
  idNotBlank : JvmText.isBlank id = false

instance : DecidableEq OperationalEventCursor := fun cursor cursor' =>
  decidable_of_iff (cursor.occurredAt = cursor'.occurredAt ∧ cursor.id = cursor'.id)
    OperationalEventCursor.ext_iff.symm

/-- None if the cursor's check fails. -/
def toCursor (event : OperationalEventReadModel) : Option OperationalEventCursor :=
  if h : JvmText.isBlank event.id = false then some ⟨event.occurredAt, event.id, h⟩ else none

/-- What the server makes of texts, and its closure table: a deterministic collation sorts by
`collation`, which tells any two texts apart. -/
structure Server (κ : Type) where
  lower : String → String
  collation : String → κ
  collation_injective : Function.Injective collation
  organizationGroupClosure : List GroupClosureRelation

/-! ## The conditions of the queries -/

/-- `LIKE`, with the backslash as the escape character. -/
def like : List Char → List Char → Bool
  | [], text => text.isEmpty
  | '%' :: pattern, text => text.tails.any (like pattern)
  | '_' :: pattern, text => match text with
    | [] => false
    | _ :: text => like pattern text
  | '\\' :: c :: pattern, text => text.head? == some c && like pattern text.tail
  | c :: pattern, text => text.head? == some c && like pattern text.tail

/-- The parameters of the conditions. -/
structure Filter where
  groupId : String
  role : Groups.UserRole
  severity : Option String
  fromInstant : Option ℤ
  toInstant : Option ℤ
  likeQuery : Option String

/-- An instant that is compared with a column. -/
def timestampParameter (instant : ℤ) : Option ℤ :=
  if AuditChain.Storage.representable instant then timestamptz PostgresColumns.microsecond instant
  else none

/-- `OperationalEventFilterAppender`: none where the statement fails. -/
def Filter.append (platform : Platform) (principal : AuthenticatedPrincipal)
    (query : OperationalEventQuery) : Option Filter := do
  let groupId ← textParameter principal.groupId.value
  let severity ← nullable textParameter
    ((query.severity.filter fun severity => !JvmText.isBlank severity).map platform.lowercase)
  let fromInstant ← nullable timestampParameter query.fromInstant
  let toInstant ← nullable timestampParameter query.toInstant
  let likeQuery ← nullable textParameter
    ((query.query.filter fun query => !JvmText.isBlank query).map fun query =>
      "%" ++ platform.lowercase (JvmText.trim query) ++ "%")
  return { groupId, role := principal.role, severity, fromInstant, toInstant, likeQuery }

/-- The columns that are searched for a text. -/
def searchedColumns (row : OperationalEventReadModel) : List String := [
  row.source,
  row.message,
  row.category,
  row.eventType.getD "",
  row.sourceService.getD "",
  row.streamId.getD "",
  row.connectionId.getD "",
  row.icePath.getD "",
  row.relayFallbackReason.getD ""]

section Queries

variable {κ : Type} (server : Server κ)

def Filter.selects (filter : Filter) (row : OperationalEventReadModel) : Bool :=
  (decide (row.groupId.value = filter.groupId) || decide (filter.role = .admin) ||
    (decide (filter.role = .groupAdmin) && server.organizationGroupClosure.any fun relation =>
      relation.ancestor.value = filter.groupId && relation.descendant.value = row.groupId.value)) &&
  filter.severity.all (fun severity => row.severity = severity) &&
  filter.fromInstant.all (fun instant => row.occurredAt ≥ instant) &&
  filter.toInstant.all (fun instant => row.occurredAt ≤ instant) &&
  filter.likeQuery.all fun pattern => (searchedColumns row).any fun text =>
    like pattern.toList (server.lower text).toList

variable [LinearOrder κ]

/-- What the rows are ordered by, and a cursor as it is compared with them. -/
def orderKey (occurredAt : ℤ) (id : String) : ℤ ×ₗ κ := toLex (occurredAt, server.collation id)

def rowKey (row : OperationalEventReadModel) : ℤ ×ₗ κ := orderKey server row.occurredAt row.id

def andAfterWatermark (occurredAt : ℤ) (id : String) (row : OperationalEventReadModel) : Bool :=
  decide (row.occurredAt > occurredAt) ||
    (decide (row.occurredAt = occurredAt) &&
      decide (server.collation row.id > server.collation id))

/-! ## The repository -/

/-- `OperationalEventPageLimit`. -/
structure OperationalEventPage where
  events : List OperationalEventReadModel
  nextCursor : Option OperationalEventCursor

variable (platform : Platform) (principal : AuthenticatedPrincipal)
  (query : OperationalEventQuery) (operationalEvents : List OperationalEventReadModel)

/-- None where the statement fails. -/
def eventsAfter (cursor : OperationalEventCursor) (limit : ℕ) :
    Option (List OperationalEventReadModel) := do
  let filter ← Filter.append platform principal query
  let occurredAt ← timestampParameter cursor.occurredAt
  let id ← textParameter cursor.id
  return ((operationalEvents.filter fun row =>
    filter.selects server row && andAfterWatermark server occurredAt id row).insertionSort
      fun row row' => rowKey server row ≤ rowKey server row').take limit

/-- The latest events of the query, without a cursor to go on from; none where the statement or the
cursor of the next page fails. -/
def eventPageFor (limit : ℕ) : Option OperationalEventPage := do
  let filter ← Filter.append platform principal query
  let pageWithExtra := ((operationalEvents.filter fun row =>
    filter.selects server row).insertionSort
      fun row row' => rowKey server row' ≤ rowKey server row).take (limit + 1)
  let events := pageWithExtra.take limit
  match events.getLast? with
  | some event =>
    if pageWithExtra.length > limit then
      let nextCursor ← toCursor event
      return ⟨events, some nextCursor⟩
    else return ⟨events, none⟩
  | none => return ⟨events, none⟩

end Queries

/-! ## The stream -/

def BATCH_LIMIT : ℕ := 100

def INITIAL_LIMIT : ℕ := 10

def STREAM_START_CURSOR_ID : String := "!"

inductive Stream where
  | unopened
  | opened
  | started
  | following (cursor : OperationalEventCursor)
  | failed
  deriving DecidableEq

/-- The appenders with the tables, the stream, and the events that it has written. -/
structure State where
  appenders : System
  stream : Stream
  written : List OperationalEventReadModel

namespace State

def initial : State := ⟨.initial, .unopened, []⟩

def operationalEvents (s : State) : List OperationalEventReadModel :=
  s.appenders.committed.operationalEvents

variable {κ : Type} [LinearOrder κ] (server : Server κ) (platform : Platform)
  (principal : AuthenticatedPrincipal) (query : OperationalEventQuery) (s : State)

def writeInitialPage : State :=
  match eventPageFor server platform principal query s.operationalEvents INITIAL_LIMIT with
  | none => { s with stream := .failed }
  | some page =>
    { s with
      written := s.written ++ page.events.reverse
      stream := match page.events.head? with
        | none => .started
        | some event => match toCursor event with
          | none => .failed
          | some cursor => .following cursor }

def writeBatch (cursor : OperationalEventCursor) : State :=
  match eventsAfter server platform principal query s.operationalEvents cursor BATCH_LIMIT with
  | none => { s with stream := .failed }
  | some events =>
    { s with
      written := s.written ++ events
      stream := match events.getLast? with
        | none => .following cursor
        | some event => match toCursor event with
          | none => .failed
          | some cursor => .following cursor }

end State

inductive Action where
  | appender (action : AuditChain.Action)
  | body
  | writeInitialPage
  | now (instant : ℤ)
  | writeBatch

variable {κ : Type} [LinearOrder κ] (server : Server κ) (platform : Platform)
  (principal : AuthenticatedPrincipal) (query : OperationalEventQuery)

def step (s : State) : Action → Option State
  | .appender action =>
    (s.appenders.step platform action).map fun appenders => { s with appenders }
  | .body => if s.stream = .unopened then some { s with stream := .opened } else none
  | .writeInitialPage =>
    if s.stream = .opened then some (s.writeInitialPage server platform principal query) else none
  | .now instant =>
    if s.stream = .started then
      some { s with stream := .following ⟨instant, STREAM_START_CURSOR_ID, by decide⟩ }
    else none
  | .writeBatch => match s.stream with
    | .following cursor => some (s.writeBatch server platform principal query cursor)
    | _ => none

end GcsSaker.EventStream
