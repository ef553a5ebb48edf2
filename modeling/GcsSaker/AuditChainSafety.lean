import GcsSaker.AuditChain

/-!
# The audit chain holds

Whatever the order of the statements of the calls, and whichever of them fail, the committed audit
events form one chain that the row of the head ends. `verify` accepts what is stored of an event
unless a column has cut spaces off the end of one of its texts: the hash is taken before the cut.
-/

namespace GcsSaker.AuditChain

open CheckedSteps (bind_eq_ok_iff)
open HashChains (Chain)
open OperationalEvents (OperationalEventReadModel)
open PostgresColumns (Cut Fits eq_of_nullable eq_of_timestamptz eq_of_varchar eq_of_varchar_of_lt
  nullable text_of_textParameter timestamptz varchar varchar_of_fits)

variable {platform : Platform} {event row : OperationalEventReadModel}
  {storage storage' : Storage} {s s' : System} {n : ℕ} {action : Action}

/-! ## What is stored of an event -/

def texts (event : OperationalEventReadModel) : List (ℕ × Option String) := [
  (128, some event.id),
  (64, event.eventType),
  (64, event.sourceService),
  (128, some event.source),
  (1024, some event.message),
  (64, some event.groupId.value),
  (128, event.streamId),
  (128, event.connectionId),
  (32, event.icePath),
  (255, event.relayFallbackReason),
  (64, event.traceId),
  (128, event.actorId),
  (128, event.operation),
  (32, event.result),
  (128, event.errorCode),
  (32, event.clockStatus),
  (160, event.timeSource)]

/-- No column cuts the text of the event that it stores. The severity and the category are not
among the texts: the checks of their columns pass no text that was cut. -/
def Uncut (event : OperationalEventReadModel) : Prop :=
  ∀ column ∈ texts event, ∀ text ∈ column.2, ¬ Cut column.1 text

instance : Decidable (Uncut event) :=
  inferInstanceAs (Decidable (∀ column ∈ texts event, ∀ text ∈ column.2, ¬ Cut column.1 text))

/-- What the columns of `row` hold of `event`. -/
structure StoredAs (platform : Platform) (event row : OperationalEventReadModel) : Prop where
  id : varchar 128 event.id = some row.id
  occurredAt : timestamptz Clock.millisecond event.occurredAt = some row.occurredAt
  severity : varchar 32 (platform.lowercase event.severity) = some row.severity
  category : varchar 64 event.category = some row.category
  eventType : nullable (varchar 64) event.eventType = some row.eventType
  sourceService : nullable (varchar 64) event.sourceService = some row.sourceService
  source : varchar 128 event.source = some row.source
  message : varchar 1024 event.message = some row.message
  connections : row.connections = event.connections
  latencyMs : row.latencyMs = event.latencyMs
  throughputMbps : row.throughputMbps = event.throughputMbps
  groupId : TelemetryReads.groupColumn event.groupId = some row.groupId
  streamId : nullable (varchar 128) event.streamId = some row.streamId
  connectionId : nullable (varchar 128) event.connectionId = some row.connectionId
  icePath : nullable (varchar 32) event.icePath = some row.icePath
  relayFallbackReason :
    nullable (varchar 255) event.relayFallbackReason = some row.relayFallbackReason
  traceId : nullable (varchar 64) event.traceId = some row.traceId
  actorId : nullable (varchar 128) event.actorId = some row.actorId
  operation : nullable (varchar 128) event.operation = some row.operation
  result : nullable (varchar 32) event.result = some row.result
  errorCode : nullable (varchar 128) event.errorCode = some row.errorCode
  clockStatus : nullable (varchar 32) event.clockStatus = some row.clockStatus
  previousHash : nullable (varchar 64) event.previousHash = some row.previousHash
  eventHash : nullable (varchar 64) event.eventHash = some row.eventHash
  receivedAt :
    nullable (timestamptz PostgresColumns.microsecond) event.receivedAt = some row.receivedAt
  timeSource : nullable (varchar 160) event.timeSource = some row.timeSource
  clockDriftMs : row.clockDriftMs = event.clockDriftMs
  clockMeasuredAt : nullable (timestamptz PostgresColumns.microsecond) event.clockMeasuredAt =
    some row.clockMeasuredAt
  severityChecked : row.severity ∈ Sql.severities
  categoryChecked : row.category ∈ Sql.categories

theorem storedAs_of_row (h : Sql.row platform event = some row) : StoredAs platform event row := by
  unfold Sql.row at h
  obtain ⟨_, hid, h⟩ := Option.bind_eq_some_iff.1 h
  obtain ⟨_, hoccurredAt, h⟩ := Option.bind_eq_some_iff.1 h
  obtain ⟨_, hseverity, h⟩ := Option.bind_eq_some_iff.1 h
  obtain ⟨_, hcategory, h⟩ := Option.bind_eq_some_iff.1 h
  obtain ⟨_, heventType, h⟩ := Option.bind_eq_some_iff.1 h
  obtain ⟨_, hsourceService, h⟩ := Option.bind_eq_some_iff.1 h
  obtain ⟨_, hsource, h⟩ := Option.bind_eq_some_iff.1 h
  obtain ⟨_, hmessage, h⟩ := Option.bind_eq_some_iff.1 h
  obtain ⟨_, hgroupId, h⟩ := Option.bind_eq_some_iff.1 h
  obtain ⟨_, hstreamId, h⟩ := Option.bind_eq_some_iff.1 h
  obtain ⟨_, hconnectionId, h⟩ := Option.bind_eq_some_iff.1 h
  obtain ⟨_, hicePath, h⟩ := Option.bind_eq_some_iff.1 h
  obtain ⟨_, hrelayFallbackReason, h⟩ := Option.bind_eq_some_iff.1 h
  obtain ⟨_, htraceId, h⟩ := Option.bind_eq_some_iff.1 h
  obtain ⟨_, hactorId, h⟩ := Option.bind_eq_some_iff.1 h
  obtain ⟨_, hoperation, h⟩ := Option.bind_eq_some_iff.1 h
  obtain ⟨_, hresult, h⟩ := Option.bind_eq_some_iff.1 h
  obtain ⟨_, herrorCode, h⟩ := Option.bind_eq_some_iff.1 h
  obtain ⟨_, hclockStatus, h⟩ := Option.bind_eq_some_iff.1 h
  obtain ⟨_, hpreviousHash, h⟩ := Option.bind_eq_some_iff.1 h
  obtain ⟨_, heventHash, h⟩ := Option.bind_eq_some_iff.1 h
  obtain ⟨_, hreceivedAt, h⟩ := Option.bind_eq_some_iff.1 h
  obtain ⟨_, htimeSource, h⟩ := Option.bind_eq_some_iff.1 h
  obtain ⟨_, hclockMeasuredAt, h⟩ := Option.bind_eq_some_iff.1 h
  split_ifs at h with hchecks
  obtain rfl := Option.some.inj h
  exact {
    id := hid, occurredAt := hoccurredAt, severity := hseverity, category := hcategory
    eventType := heventType, sourceService := hsourceService, source := hsource
    message := hmessage, connections := rfl, latencyMs := rfl, throughputMbps := rfl
    groupId := hgroupId, streamId := hstreamId, connectionId := hconnectionId
    icePath := hicePath, relayFallbackReason := hrelayFallbackReason, traceId := htraceId
    actorId := hactorId, operation := hoperation, result := hresult, errorCode := herrorCode
    clockStatus := hclockStatus, previousHash := hpreviousHash, eventHash := heventHash
    receivedAt := hreceivedAt, timeSource := htimeSource, clockDriftMs := rfl
    clockMeasuredAt := hclockMeasuredAt
    severityChecked := hchecks.1, categoryChecked := hchecks.2 }

theorem StoredAs.category_eq (h : StoredAs platform event row) : row.category = event.category := by
  have hlength : ∀ category ∈ Sql.categories, category.length < 64 := by decide
  exact eq_of_varchar_of_lt h.category (hlength _ h.categoryChecked)

theorem StoredAs.severity_eq (h : StoredAs platform event row) :
    row.severity = platform.lowercase event.severity := by
  have hlength : ∀ severity ∈ Sql.severities, severity.length < 32 := by decide
  exact eq_of_varchar_of_lt h.severity (hlength _ h.severityChecked)

theorem StoredAs.isAudit_eq (h : StoredAs platform event row) :
    AuditHashChain.isAudit row = AuditHashChain.isAudit event := by
  rw [AuditHashChain.isAudit, AuditHashChain.isAudit, h.category_eq]

theorem eq_of_nullable_varchar {limit : ℕ} {value stored : Option String}
    (h : nullable (varchar limit) value = some stored) (hcut : ∀ text ∈ value, ¬ Cut limit text) :
    stored = value :=
  eq_of_nullable h fun text htext _ hstored => eq_of_varchar hstored (hcut text htext)

theorem eq_of_groupColumn {groupId stored : TelemetryIngestRpc.GroupId}
    (h : TelemetryReads.groupColumn groupId = some stored) (hcut : ¬ Cut 64 groupId.value) :
    stored = groupId := by
  obtain ⟨value, hvalue, h⟩ := Option.bind_eq_some_iff.1 h
  split_ifs at h with hblank
  obtain rfl := Option.some.inj h
  exact TelemetryIngestRpc.GroupId.value_inj.1 (eq_of_varchar hvalue hcut)

theorem eq_of_timestamptz_truncatedTo {unit instant stored : ℤ}
    (hunit : unit = Clock.millisecond ∨ unit = PostgresColumns.microsecond)
    (h : timestamptz unit (truncatedTo unit instant) = some stored) :
    stored = truncatedTo unit instant := by
  refine eq_of_timestamptz ?_ ?_ ?_ h
  · rcases hunit with rfl | rfl <;> decide
  · rcases hunit with rfl | rfl <;>
      simp only [truncatedTo, Clock.millisecond, PostgresColumns.microsecond] <;> omega
  · rcases hunit with rfl | rfl <;>
      simp only [truncatedTo, PostgresColumns.epoch, Clock.second, Clock.millisecond,
        PostgresColumns.microsecond] <;> omega

theorem eq_of_nullable_truncatedTo {instant stored : Option ℤ}
    (h : nullable (timestamptz PostgresColumns.microsecond)
      (instant.map (truncatedTo PostgresColumns.microsecond)) = some stored) :
    stored = instant.map (truncatedTo PostgresColumns.microsecond) := by
  refine eq_of_nullable h fun value hvalue value' hvalue' => ?_
  obtain ⟨instant, -, rfl⟩ := Option.map_eq_some_iff.1 hvalue
  exact eq_of_timestamptz_truncatedTo (Or.inr rfl) hvalue'

/-- The hash was taken over what the row holds. -/
theorem StoredAs.canonical_eq {previousHash : String}
    (h : StoredAs platform
      (AuditHashChain.chain platform (normalizeStoragePrecision platform event) previousHash) row)
    (huncut : Uncut event) : AuditHashChain.canonical platform row previousHash =
      AuditHashChain.canonical platform (normalizeStoragePrecision platform event) previousHash := by
  simp only [Uncut, texts, List.forall_mem_cons] at huncut
  obtain ⟨hid, heventType, hsourceService, hsource, hmessage, hgroupId, hstreamId, hconnectionId,
    hicePath, hrelayFallbackReason, htraceId, hactorId, hoperation, hresult, herrorCode,
    hclockStatus, htimeSource, -⟩ := huncut
  have hid : row.id = event.id := eq_of_varchar h.id (hid _ rfl)
  have hoccurredAt : row.occurredAt = truncatedTo Clock.millisecond event.occurredAt :=
    eq_of_timestamptz_truncatedTo (Or.inl rfl) h.occurredAt
  have hseverity : row.severity = platform.lowercase event.severity :=
    h.severity_eq.trans (platform.lowercase_lowercase event.severity)
  have hcategory : row.category = event.category := h.category_eq
  have heventType : row.eventType = event.eventType := eq_of_nullable_varchar h.eventType heventType
  have hsourceService : row.sourceService = event.sourceService :=
    eq_of_nullable_varchar h.sourceService hsourceService
  have hsource : row.source = event.source := eq_of_varchar h.source (hsource _ rfl)
  have hmessage : row.message = event.message := eq_of_varchar h.message (hmessage _ rfl)
  have hconnections : row.connections = event.connections := h.connections
  have hlatencyMs : row.latencyMs = event.latencyMs := h.latencyMs
  have hthroughputMbps : row.throughputMbps = event.throughputMbps := h.throughputMbps
  have hgroupId : row.groupId = event.groupId := eq_of_groupColumn h.groupId (hgroupId _ rfl)
  have hstreamId : row.streamId = event.streamId := eq_of_nullable_varchar h.streamId hstreamId
  have hconnectionId : row.connectionId = event.connectionId :=
    eq_of_nullable_varchar h.connectionId hconnectionId
  have hicePath : row.icePath = event.icePath := eq_of_nullable_varchar h.icePath hicePath
  have hrelayFallbackReason : row.relayFallbackReason = event.relayFallbackReason :=
    eq_of_nullable_varchar h.relayFallbackReason hrelayFallbackReason
  have htraceId : row.traceId = event.traceId := eq_of_nullable_varchar h.traceId htraceId
  have hactorId : row.actorId = event.actorId := eq_of_nullable_varchar h.actorId hactorId
  have hoperation : row.operation = event.operation := eq_of_nullable_varchar h.operation hoperation
  have hresult : row.result = event.result := eq_of_nullable_varchar h.result hresult
  have herrorCode : row.errorCode = event.errorCode := eq_of_nullable_varchar h.errorCode herrorCode
  have hclockStatus : row.clockStatus = event.clockStatus :=
    eq_of_nullable_varchar h.clockStatus hclockStatus
  have hreceivedAt :
      row.receivedAt = event.receivedAt.map (truncatedTo PostgresColumns.microsecond) :=
    eq_of_nullable_truncatedTo h.receivedAt
  have htimeSource : row.timeSource = event.timeSource :=
    eq_of_nullable_varchar h.timeSource htimeSource
  have hclockDriftMs : row.clockDriftMs = event.clockDriftMs := h.clockDriftMs
  have hclockMeasuredAt :
      row.clockMeasuredAt = event.clockMeasuredAt.map (truncatedTo PostgresColumns.microsecond) :=
    eq_of_nullable_truncatedTo h.clockMeasuredAt
  unfold AuditHashChain.canonical
  rw [hid, hoccurredAt, hseverity, hcategory, heventType, hsourceService, hsource, hmessage,
    hconnections, hlatencyMs, hthroughputMbps, hgroupId, hstreamId, hconnectionId, hicePath,
    hrelayFallbackReason, htraceId, hactorId, hoperation, hresult, herrorCode, hclockStatus,
    hreceivedAt, htimeSource, hclockDriftMs, hclockMeasuredAt]
  rfl

theorem fits_digest (value : String) : Fits 64 (AuditHashChain.digest value) := by
  constructor
  · rw [AuditHashChain.digest, ← String.length_toList, Sha256.length_hex, Sha256.length_digest]
  · intro hmem
    have hdigit := Sha256.hexDigit_of_mem_hex hmem
    revert hdigit
    decide

/-- The row of an audit event names the head it was chained to, and its own hash. -/
theorem StoredAs.hashes {previousHash : String}
    (h : StoredAs platform
      (AuditHashChain.chain platform (normalizeStoragePrecision platform event) previousHash) row)
    (hfits : Fits 64 previousHash) :
    row.previousHash = some previousHash ∧ row.eventHash = some (AuditHashChain.digest
      (AuditHashChain.canonical platform (normalizeStoragePrecision platform event)
        previousHash)) := by
  have hprevious := h.previousHash
  have hhash := h.eventHash
  simp only [AuditHashChain.chain, nullable, varchar_of_fits hfits, varchar_of_fits (fits_digest _),
    Option.map_some, Option.some.injEq] at hprevious hhash
  exact ⟨hprevious.symm, hhash.symm⟩

theorem StoredAs.verify_eq_true {previousHash : String}
    (h : StoredAs platform
      (AuditHashChain.chain platform (normalizeStoragePrecision platform event) previousHash) row)
    (hfits : Fits 64 previousHash) (huncut : Uncut event) :
    AuditHashChain.verify platform row = true := by
  obtain ⟨hprevious, hhash⟩ := h.hashes hfits
  simp only [AuditHashChain.verify, hprevious, hhash, h.canonical_eq huncut, decide_true]

/-! ## One transaction -/

def auditEvents (storage : Storage) : List OperationalEventReadModel :=
  storage.operationalEvents.filter AuditHashChain.isAudit

/-- The stored audit events form one chain from the genesis hash to the hash in the head. -/
def Chained (storage : Storage) : Prop :=
  ∃ head, storage.auditHead = some head ∧
    Chain OperationalEventReadModel.previousHash OperationalEventReadModel.eventHash
      AuditHashChain.GENESIS_HASH (auditEvents storage) head.lastHash ∧
    head.eventCount = (auditEvents storage).length

structure Consistent (storage : Storage) : Prop where
  chained : Chained storage
  fits : ∀ head ∈ storage.auditHead, Fits 64 head.lastHash

def Absent (event : OperationalEventReadModel) (storage : Storage) : Prop :=
  ∀ stored ∈ storage.operationalEvents, stored.id ≠ event.id

/-- `storage'` has the row of `event` after those of `storage`, whose head moves to an audit event
and stays for any other. -/
def Extended (platform : Platform) (event : OperationalEventReadModel)
    (storage storage' : Storage) : Prop :=
  Absent event storage ∧ ∃ head row head', storage.auditHead = some head ∧
    Sql.row platform (appendedEvent platform event head.lastHash) = some row ∧
    storage' = ⟨storage.operationalEvents ++ [row], some head'⟩ ∧
    if AuditHashChain.isAudit event = true then
      row.eventHash = some head'.lastHash ∧ head'.eventCount = head.eventCount + 1
    else head' = head

/-- What the holder of the head sees, after the statements up to the phase, of the tables that it
found as `committed`. -/
def Working (platform : Platform) (event : OperationalEventReadModel)
    (committed storage : Storage) : Phase → Prop
  | .locked previousHash => storage = committed ∧
    ∃ head, committed.auditHead = some head ∧ head.lastHash = previousHash
  | .absent previousHash => storage = committed ∧ Absent event committed ∧
    ∃ head, committed.auditHead = some head ∧ head.lastHash = previousHash
  | .inserted appended => AuditHashChain.isAudit event = true ∧ Absent event committed ∧
    ∃ head row, committed.auditHead = some head ∧
      appended = appendedEvent platform event head.lastHash ∧
      Sql.row platform appended = some row ∧
      storage = { committed with operationalEvents := committed.operationalEvents ++ [row] }
  | .finished .appended => Extended platform event committed storage
  | .finished .duplicate => storage = committed
  | _ => False

theorem insert_eq_ok {count : ℕ} (h : storage.insert platform event = .ok (storage', count)) :
    count = 0 ∧ storage' = storage ∨ count = 1 ∧ ∃ row, Sql.row platform event = some row ∧
      storage' = { storage with operationalEvents := storage.operationalEvents ++ [row] } := by
  unfold Storage.insert at h
  split at h
  next => cases h
  next =>
    split at h
    next => cases h
    next row hrow =>
      split_ifs at h
      · cases h
        exact Or.inl ⟨rfl, rfl⟩
      · cases h
        exact Or.inr ⟨rfl, row, hrow, rfl⟩

theorem advanceAuditHead_eq_ok {head : AuditHead} {eventHash : Option String} {count : ℕ}
    (h : storage.advanceAuditHead eventHash = .ok (storage', count))
    (hhead : storage.auditHead = some head) :
    count = 1 ∧ ∃ lastHash, eventHash.bind (varchar 64) = some lastHash ∧
      storage' = { storage with auditHead := some ⟨lastHash, head.eventCount + 1⟩ } := by
  unfold Storage.advanceAuditHead at h
  rw [hhead] at h
  simp only at h
  split at h
  next => cases h
  next lastHash hlastHash =>
    split_ifs at h
    cases h
    exact ⟨rfl, lastHash, hlastHash, rfl⟩

theorem appendedEvent_of_isAudit (haudit : AuditHashChain.isAudit event = true)
    (previousHash : String) : appendedEvent platform event previousHash =
      AuditHashChain.chain platform (normalizeStoragePrecision platform event) previousHash :=
  if_pos haudit

theorem isAudit_appendedEvent (previousHash : String) :
    AuditHashChain.isAudit (appendedEvent platform event previousHash) =
      AuditHashChain.isAudit event := by
  cases haudit : AuditHashChain.isAudit event with
  | true =>
      rw [appendedEvent_of_isAudit haudit]
      exact haudit
  | false =>
      have hpersisted :
          ¬ AuditHashChain.isAudit (normalizeStoragePrecision platform event) = true :=
        Bool.eq_false_iff.1 haudit
      unfold appendedEvent
      rw [if_neg hpersisted]
      exact haudit

/-- What one statement of `appendOwned` does for the holder of the head. -/
theorem Working.appendOwned {committed : Storage} {phase phase' : Phase}
    (h : Working platform event committed storage phase ∨ storage = committed ∧ phase = .ready)
    (hfinished : ∀ outcome, phase ≠ .finished outcome)
    (hok : appendOwned platform event storage phase = .ok (storage', phase')) :
    Working platform event committed storage' phase' := by
  cases phase with
  | ready =>
      obtain ⟨rfl, -⟩ := h.resolve_left id
      obtain ⟨previousHash, hlock, hrest⟩ := bind_eq_ok_iff.1 hok
      cases hrest
      unfold Storage.lockAuditHead at hlock
      split at hlock
      next head hhead =>
        cases hlock
        exact ⟨rfl, head, hhead, rfl⟩
      next => cases hlock
  | locked previousHash =>
      obtain ⟨rfl, hhead⟩ := h.resolve_right (by rintro ⟨-, h⟩; cases h)
      obtain ⟨stored, hexists, hrest⟩ := bind_eq_ok_iff.1 hok
      unfold Storage.existsById at hexists
      split at hexists
      next id hid =>
        cases hexists
        rw [text_of_textParameter hid] at hrest
        split_ifs at hrest with hstored
        · cases hrest
          rfl
        · cases hrest
          refine ⟨rfl, fun stored hmem heq => hstored ?_, hhead⟩
          exact List.any_eq_true.2 ⟨stored, hmem, decide_eq_true heq⟩
      next => cases hexists
  | absent previousHash =>
      obtain ⟨rfl, habsent, head, hhead, rfl⟩ := h.resolve_right (by rintro ⟨-, h⟩; cases h)
      obtain ⟨⟨inserted, count⟩, hinsert, hrest⟩ := bind_eq_ok_iff.1 hok
      rcases insert_eq_ok hinsert with ⟨rfl, rfl⟩ | ⟨rfl, row, hrow, rfl⟩
      · cases hrest
        rfl
      · simp only [one_ne_zero, if_false] at hrest
        split_ifs at hrest with haudit
        · cases hrest
          exact ⟨haudit, habsent, head, row, hhead, rfl, hrow, rfl⟩
        · cases hrest
          refine ⟨habsent, head, row, head, hhead, hrow, ?_, ?_⟩
          · rw [hhead]
          · rw [if_neg haudit]
  | inserted appended =>
      obtain ⟨haudit, habsent, head, row, hhead, rfl, hrow, rfl⟩ :=
        h.resolve_right (by rintro ⟨-, h⟩; cases h)
      obtain ⟨⟨advanced, count⟩, hadvance, hrest⟩ := bind_eq_ok_iff.1 hok
      obtain ⟨rfl, lastHash, hlastHash, rfl⟩ := advanceAuditHead_eq_ok hadvance hhead
      simp only [ne_eq, not_true_eq_false, if_false] at hrest
      cases hrest
      refine ⟨habsent, head, row, ⟨lastHash, head.eventCount + 1⟩, hhead, hrow, rfl, ?_⟩
      rw [if_pos haudit]
      refine ⟨?_, rfl⟩
      -- The row holds the same column of the hash as the head does.
      obtain ⟨hash, hhash, hcolumn⟩ := Option.bind_eq_some_iff.1 hlastHash
      have hstored := (storedAs_of_row hrow).eventHash
      rw [hhash, nullable, hcolumn] at hstored
      exact (Option.some.inj hstored).symm
  | finished outcome => exact absurd rfl (hfinished outcome)
  | returned outcome => exact (h.resolve_right (by rintro ⟨-, h⟩; cases h)).elim
  | thrown failure => exact (h.resolve_right (by rintro ⟨-, h⟩; cases h)).elim

theorem auditEvents_concat (head head' : Option AuditHead) (events : List OperationalEventReadModel)
    (row : OperationalEventReadModel) : auditEvents ⟨events ++ [row], head'⟩ =
      auditEvents ⟨events, head⟩ ++ if AuditHashChain.isAudit row = true then [row] else [] := by
  rw [auditEvents, List.filter_append, List.filter_singleton, Bool.cond_eq_ite]
  rfl

theorem Extended.unchanged (h : Extended platform event storage storage')
    (hother : AuditHashChain.isAudit event = false) :
    storage'.auditHead = storage.auditHead ∧ auditEvents storage' = auditEvents storage := by
  obtain ⟨-, head, row, head', hhead, hrow, rfl, hmoved⟩ := h
  rw [if_neg (Bool.eq_false_iff.1 hother)] at hmoved
  subst hmoved
  refine ⟨hhead.symm, ?_⟩
  have hrow : AuditHashChain.isAudit row = false := by
    rw [(storedAs_of_row hrow).isAudit_eq, isAudit_appendedEvent, hother]
  rw [auditEvents_concat storage.auditHead, if_neg (Bool.eq_false_iff.1 hrow), List.append_nil]

/-- An audit event adds a link to the chain, which `verify` accepts if nothing of it was cut. -/
theorem Extended.linked (h : Extended platform event storage storage')
    (hconsistent : Consistent storage) (haudit : AuditHashChain.isAudit event = true) :
    ∃ head row head', storage.auditHead = some head ∧ storage'.auditHead = some head' ∧
      auditEvents storage' = auditEvents storage ++ [row] ∧
      row.previousHash = some head.lastHash ∧ row.eventHash = some head'.lastHash ∧
      head'.eventCount = head.eventCount + 1 ∧ Fits 64 head'.lastHash ∧
      (Uncut event → AuditHashChain.verify platform row = true) := by
  obtain ⟨-, head, row, head', hhead, hrow, rfl, hmoved⟩ := h
  rw [if_pos haudit] at hmoved
  obtain ⟨heventHash, hcount⟩ := hmoved
  have haudited : AuditHashChain.isAudit row = true := by
    rw [(storedAs_of_row hrow).isAudit_eq, isAudit_appendedEvent, haudit]
  have hfits := hconsistent.fits head hhead
  have hstored := storedAs_of_row hrow
  rw [appendedEvent_of_isAudit haudit] at hstored
  obtain ⟨hprevious, hhash⟩ := hstored.hashes hfits
  refine ⟨head, row, head', hhead, rfl, ?_, hprevious, heventHash, hcount, ?_, ?_⟩
  · rw [auditEvents_concat storage.auditHead, if_pos haudited]
  · have hlast := Option.some.inj (heventHash.symm.trans hhash)
    rw [hlast]
    exact fits_digest _
  · exact hstored.verify_eq_true hfits

theorem Consistent.extended (h : Consistent storage)
    (hextended : Extended platform event storage storage') : Consistent storage' := by
  obtain ⟨head, hhead, hchain, hcount⟩ := h.chained
  cases haudit : AuditHashChain.isAudit event with
  | false =>
      obtain ⟨hsame, hevents⟩ := hextended.unchanged haudit
      constructor
      · exact ⟨head, hsame.trans hhead, hevents ▸ hchain, hevents ▸ hcount⟩
      · rw [hsame]
        exact h.fits
  | true =>
      obtain ⟨_, row, head', hhead₁, hhead', hevents, hprevious, hhash, hnext, hfits, -⟩ :=
        hextended.linked h haudit
      obtain rfl := Option.some.inj (hhead.symm.trans hhead₁)
      constructor
      · refine ⟨head', hhead', ?_, ?_⟩
        · rw [hevents]
          exact hchain.concat hprevious hhash
        · rw [hevents, hnext, hcount, List.length_append, List.length_singleton]
          push_cast
          rfl
      · intro last hlast
        rw [hhead', Option.mem_some_iff] at hlast
        exact hlast ▸ hfits

def Verified (platform : Platform) (storage : Storage) : Prop :=
  ∀ row ∈ auditEvents storage, AuditHashChain.verify platform row = true

theorem Verified.extended (h : Verified platform storage) (hconsistent : Consistent storage)
    (huncut : AuditHashChain.isAudit event = true → Uncut event)
    (hextended : Extended platform event storage storage') : Verified platform storage' := by
  cases haudit : AuditHashChain.isAudit event with
  | false =>
      rw [Verified, (hextended.unchanged haudit).2]
      exact h
  | true =>
      obtain ⟨_, row, _, -, -, hevents, -, -, -, -, hverify⟩ := hextended.linked hconsistent haudit
      intro stored hstored
      rw [hevents, List.mem_append, List.mem_singleton] at hstored
      rcases hstored with hstored | rfl
      · exact h stored hstored
      · exact hverify (huncut haudit)

/-! ## All calls -/

/-- The call is waiting for the head, or has ended. -/
def Phase.Outside : Phase → Prop
  | .ready => True
  | .returned _ => True
  | .thrown _ => True
  | _ => False

/-- Only the call that holds the head is past its first statement, and it has worked on what it
found when it took the head. -/
structure Invariant (platform : Platform) (s : System) : Prop where
  consistent : Consistent s.committed
  inside : ∀ n storage, s.transaction = some (n, storage) →
    ∃ call, s.calls n = some call ∧ Working platform call.event s.committed storage call.phase
  outside : ∀ n call, s.calls n = some call → (∀ storage, s.transaction ≠ some (n, storage)) →
    call.phase.Outside

theorem invariant_initial : Invariant platform .initial where
  consistent := {
    chained := ⟨_, rfl, rfl, rfl⟩
    fits := by
      intro head hhead
      obtain rfl := Option.some.inj hhead
      decide +kernel }
  inside _ _ h := by cases h
  outside _ _ h := by cases h

/-- One call goes on while the transactions of the others stay as they are. -/
theorem Invariant.moved {call : Call} (h : Invariant platform s)
    (hcalls : s'.calls = Function.update s.calls n (some call))
    (hothers : ∀ m ≠ n, ∀ storage,
      s'.transaction = some (m, storage) ↔ s.transaction = some (m, storage))
    (hconsistent : Consistent s'.committed)
    (hcommitted : ∀ m ≠ n, ∀ storage, s.transaction = some (m, storage) →
      s'.committed = s.committed)
    (hinside : ∀ storage, s'.transaction = some (n, storage) →
      Working platform call.event s'.committed storage call.phase)
    (houtside : (∀ storage, s'.transaction ≠ some (n, storage)) → call.phase.Outside) :
    Invariant platform s' where
  consistent := hconsistent
  inside m storage hm := by
    rcases eq_or_ne m n with rfl | hne
    · refine ⟨call, ?_, hinside storage hm⟩
      rw [hcalls, Function.update_self]
    · have hold := (hothers m hne storage).1 hm
      obtain ⟨other, hother, hworking⟩ := h.inside m storage hold
      refine ⟨other, ?_, ?_⟩
      · rw [hcalls, Function.update_of_ne hne, hother]
      · rw [hcommitted m hne storage hold]
        exact hworking
  outside m other hm hnone := by
    rcases eq_or_ne m n with rfl | hne
    · rw [hcalls, Function.update_self] at hm
      exact Option.some.inj hm ▸ houtside hnone
    · rw [hcalls, Function.update_of_ne hne] at hm
      exact h.outside m other hm fun storage hold => hnone storage ((hothers m hne storage).2 hold)

theorem caught_outside (call : Call) (failure : Failure) (interrupted : Bool) :
    (AuditAppendTransactions.caught call failure interrupted).phase.Outside := by
  unfold AuditAppendTransactions.caught
  split
  next =>
    split_ifs
    all_goals trivial
  next => trivial

theorem event_caught (call : Call) (failure : Failure) (interrupted : Bool) :
    (AuditAppendTransactions.caught call failure interrupted).event = call.event := by
  unfold AuditAppendTransactions.caught
  split
  next =>
    split_ifs
    all_goals rfl
  next => rfl

theorem rollback_transaction {m : ℕ} : (s.rollback n).transaction = some (m, storage) ↔
    s.transaction = some (m, storage) ∧ m ≠ n := by
  rw [System.rollback, Option.filter_eq_some_iff, decide_eq_true_eq]

theorem Invariant.rolledBack (h : Invariant platform s) {call : Call}
    (houtside : call.phase.Outside) : Invariant platform ((s.rollback n).setCall n call) := by
  refine h.moved rfl (fun m hne storage => ?_) h.consistent (fun _ _ _ _ => rfl)
    (fun storage hn => ?_) fun _ => houtside
  · exact rollback_transaction.trans (and_iff_left hne)
  · exact absurd rfl (rollback_transaction.1 hn).2

/-- A commit ends the transaction of its call and adds at most the row of its event. -/
theorem Invariant.committed (h : Invariant platform s) {call call' : Call} {t : System}
    {outcome : AuditAppendOutcome} (hcall : s.calls n = some call)
    (hphase : call.phase = .finished outcome) (hcommit : s.commit n = some t)
    (houtside : call'.phase.Outside) : Invariant platform (t.setCall n call') ∧
      (t.committed = s.committed ∨ Extended platform call.event s.committed t.committed) := by
  unfold System.commit at hcommit
  split at hcommit
  next holder storage htransaction =>
    split_ifs at hcommit with hholder
    subst hholder
    obtain rfl := Option.some.inj hcommit
    obtain ⟨_, hsame, hworking⟩ := h.inside holder storage htransaction
    obtain rfl := Option.some.inj (hcall.symm.trans hsame)
    rw [hphase] at hworking
    have hchange : storage = s.committed ∨ Extended platform call.event s.committed storage := by
      cases outcome with
      | appended => exact Or.inr hworking
      | duplicate => exact Or.inl hworking
    refine ⟨h.moved rfl (fun m hne other => ?_) ?_ (fun m hne other hother => ?_)
      (fun other hother => ?_) fun _ => houtside, hchange⟩
    · rw [htransaction]
      refine iff_of_false (by rintro ⟨⟩) fun hother => hne ?_
      exact (congrArg Prod.fst (Option.some.inj hother)).symm
    · rcases hchange with rfl | hextended
      · exact h.consistent
      · exact h.consistent.extended hextended
    · rw [htransaction] at hother
      exact absurd (congrArg Prod.fst (Option.some.inj hother)).symm hne
    · cases hother
  next => cases hcommit

/-- A statement works on what its call has found and written so far. -/
theorem Invariant.working (h : Invariant platform s) {call : Call} (hcall : s.calls n = some call)
    (hended : call.phase.ended = false) (hvisible : s.visible n = some storage) :
    (Working platform call.event s.committed storage call.phase ∨
      storage = s.committed ∧ call.phase = .ready) ∧
    ∀ m ≠ n, ∀ other, s.transaction ≠ some (m, other) := by
  unfold System.visible at hvisible
  split at hvisible
  next htransaction =>
    obtain rfl := Option.some.inj hvisible
    have hnone : ∀ m other, s.transaction ≠ some (m, other) := by
      intro m other hother
      rw [htransaction] at hother
      cases hother
    refine ⟨Or.inr ⟨rfl, ?_⟩, fun m _ => hnone m⟩
    have houtside := h.outside n call hcall (hnone n)
    revert hended houtside
    cases call.phase with
    | ready => exact fun _ _ => rfl
    | returned outcome => exact fun hended _ => absurd hended Bool.noConfusion
    | thrown failure => exact fun hended _ => absurd hended Bool.noConfusion
    | locked previousHash => exact fun _ houtside => houtside.elim
    | absent previousHash => exact fun _ houtside => houtside.elim
    | inserted appended => exact fun _ houtside => houtside.elim
    | finished outcome => exact fun _ houtside => houtside.elim
  next holder held htransaction =>
    split_ifs at hvisible with hholder
    subst hholder
    obtain rfl := Option.some.inj hvisible
    obtain ⟨_, hsame, hworking⟩ := h.inside holder held htransaction
    obtain rfl := Option.some.inj (hcall.symm.trans hsame)
    refine ⟨Or.inl hworking, fun m hne other hother => hne ?_⟩
    rw [htransaction] at hother
    exact (congrArg Prod.fst (Option.some.inj hother)).symm

theorem Invariant.statement (h : Invariant platform s) {call : Call} (hcall : s.calls n = some call)
    (hended : call.phase.ended = false) (hstep : s.statement platform n call = some s') :
    Invariant platform s' ∧
      (s'.committed = s.committed ∨ Extended platform call.event s.committed s'.committed) := by
  unfold System.statement at hstep
  split at hstep
  next outcome hphase =>
    obtain ⟨t, hcommit, rfl⟩ := Option.map_eq_some_iff.1 hstep
    exact h.committed hcall hphase hcommit trivial
  next hfinished =>
    obtain ⟨storage, hvisible, rfl⟩ := Option.map_eq_some_iff.1 hstep
    obtain ⟨hworking, hothers⟩ := h.working hcall hended hvisible
    split
    next storage' phase' hok =>
      refine ⟨h.moved rfl (fun m hne other => ?_) h.consistent (fun _ _ _ _ => rfl)
        (fun other hother => ?_) (fun hnone => absurd rfl (hnone storage')), Or.inl rfl⟩
      · refine iff_of_false (fun hother => hne ?_) (hothers m hne other)
        exact (congrArg Prod.fst (Option.some.inj hother)).symm
      · obtain rfl := congrArg Prod.snd (Option.some.inj hother)
        exact Working.appendOwned hworking hfinished hok
    next failure _ => exact ⟨h.rolledBack (caught_outside call failure false), Or.inl rfl⟩

theorem running_eq_some {call : Call} (h : s.running n = some call) :
    s.calls n = some call ∧ call.phase.ended = false := by
  rw [System.running, Option.filter_eq_some_iff, Bool.not_eq_true'] at h
  exact h

/-- Every step keeps the invariant, and what it commits is at most the row of the event of its
call. -/
theorem Invariant.step (h : Invariant platform s) (hstep : s.step platform action = some s') :
    Invariant platform s' ∧ (s'.committed = s.committed ∨
      ∃ call, s.calls action.call = some call ∧
        Extended platform call.event s.committed s'.committed) := by
  cases action with
  | appendIfAbsent n event =>
      simp only [System.step] at hstep
      split_ifs at hstep with hnew
      obtain rfl := Option.some.inj hstep
      have hnone : s.calls n = none := Option.isNone_iff_eq_none.1 hnew
      have hidle : ∀ storage, s.transaction ≠ some (n, storage) := by
        intro storage htransaction
        obtain ⟨call, hcall, -⟩ := h.inside n storage htransaction
        rw [hnone] at hcall
        cases hcall
      exact ⟨h.moved rfl (fun _ _ _ => Iff.rfl) h.consistent (fun _ _ _ _ => rfl)
        (fun storage hstorage => absurd hstorage (hidle storage)) fun _ => trivial, Or.inl rfl⟩
  | statement n =>
      obtain ⟨call, hrunning, hstep⟩ := Option.bind_eq_some_iff.1 hstep
      obtain ⟨hcall, hended⟩ := running_eq_some hrunning
      obtain ⟨hinvariant, hchange⟩ := h.statement hcall hended hstep
      exact ⟨hinvariant, hchange.imp_right fun hextended => ⟨call, hcall, hextended⟩⟩
  | fail n failure interrupted =>
      obtain ⟨call, -, rfl⟩ := Option.map_eq_some_iff.1 hstep
      exact ⟨h.rolledBack (caught_outside call failure interrupted), Or.inl rfl⟩
  | unconfirmed n failure interrupted =>
      obtain ⟨call, hrunning, hstep⟩ := Option.bind_eq_some_iff.1 hstep
      obtain ⟨hcall, -⟩ := running_eq_some hrunning
      unfold System.unconfirmed at hstep
      split at hstep
      next outcome hphase =>
        obtain ⟨t, hcommit, rfl⟩ := Option.map_eq_some_iff.1 hstep
        obtain ⟨hinvariant, hchange⟩ :=
          h.committed hcall hphase hcommit (caught_outside call failure interrupted)
        exact ⟨hinvariant, hchange.imp_right fun hextended => ⟨call, hcall, hextended⟩⟩
      next => cases hstep

theorem commit_calls {t : System} (h : s.commit n = some t) : t.calls = s.calls := by
  unfold System.commit at h
  split at h
  next =>
    split_ifs at h
    obtain rfl := Option.some.inj h
    rfl
  next => cases h

/-- A step changes the one call, which keeps its event. -/
theorem calls_step (hstep : s.step platform action = some s') :
    ∃ call', s'.calls = Function.update s.calls action.call (some call') ∧
      (action = .appendIfAbsent action.call call'.event ∨
        ∃ call, s.calls action.call = some call ∧ call'.event = call.event) := by
  cases action with
  | appendIfAbsent n event =>
      simp only [System.step] at hstep
      split_ifs at hstep
      obtain rfl := Option.some.inj hstep
      exact ⟨_, rfl, Or.inl rfl⟩
  | statement n =>
      obtain ⟨call, hrunning, hstep⟩ := Option.bind_eq_some_iff.1 hstep
      obtain ⟨hcall, -⟩ := running_eq_some hrunning
      unfold System.statement at hstep
      split at hstep
      next outcome _ =>
        obtain ⟨t, hcommit, rfl⟩ := Option.map_eq_some_iff.1 hstep
        refine ⟨{ call with phase := .returned outcome }, ?_, Or.inr ⟨call, hcall, rfl⟩⟩
        rw [System.setCall, commit_calls hcommit]
        rfl
      next =>
        obtain ⟨storage, -, rfl⟩ := Option.map_eq_some_iff.1 hstep
        split
        next => exact ⟨_, rfl, Or.inr ⟨call, hcall, rfl⟩⟩
        next => exact ⟨_, rfl, Or.inr ⟨call, hcall, event_caught _ _ _⟩⟩
  | fail n failure interrupted =>
      obtain ⟨call, hrunning, rfl⟩ := Option.map_eq_some_iff.1 hstep
      obtain ⟨hcall, -⟩ := running_eq_some hrunning
      exact ⟨_, rfl, Or.inr ⟨call, hcall, event_caught _ _ _⟩⟩
  | unconfirmed n failure interrupted =>
      obtain ⟨call, hrunning, hstep⟩ := Option.bind_eq_some_iff.1 hstep
      obtain ⟨hcall, -⟩ := running_eq_some hrunning
      unfold System.unconfirmed at hstep
      split at hstep
      next =>
        obtain ⟨t, hcommit, rfl⟩ := Option.map_eq_some_iff.1 hstep
        refine ⟨_, ?_, Or.inr ⟨call, hcall, event_caught call failure interrupted⟩⟩
        rw [System.setCall, commit_calls hcommit]
        rfl
      next => cases hstep

/-! ## Runs -/

/-- An audit event that is appended is not cut. -/
def Action.Uncut : Action → Prop
  | .appendIfAbsent _ event => AuditHashChain.isAudit event = true → AuditChain.Uncut event
  | _ => True

instance : ∀ action : Action, Decidable action.Uncut
  | .appendIfAbsent _ event =>
    inferInstanceAs (Decidable (AuditHashChain.isAudit event = true → AuditChain.Uncut event))
  | .statement _ => inferInstanceAs (Decidable True)
  | .fail _ _ _ => inferInstanceAs (Decidable True)
  | .unconfirmed _ _ _ => inferInstanceAs (Decidable True)

structure UncutInvariant (platform : Platform) (s : System) : Prop where
  invariant : Invariant platform s
  uncut : ∀ n call, s.calls n = some call → AuditHashChain.isAudit call.event = true →
    Uncut call.event
  verified : Verified platform s.committed

theorem uncutInvariant_initial : UncutInvariant platform .initial where
  invariant := invariant_initial
  uncut _ _ h := by cases h
  verified _ h := by cases h

theorem UncutInvariant.step (h : UncutInvariant platform s) (huncut : action.Uncut)
    (hstep : s.step platform action = some s') : UncutInvariant platform s' := by
  obtain ⟨hinvariant, hchange⟩ := h.invariant.step hstep
  refine ⟨hinvariant, fun m call hcall => ?_, ?_⟩
  · obtain ⟨call', hcalls, hevent⟩ := calls_step hstep
    rw [hcalls] at hcall
    rcases eq_or_ne m action.call with rfl | hne
    · rw [Function.update_self] at hcall
      obtain rfl := Option.some.inj hcall
      rcases hevent with hnew | ⟨old, hold, heq⟩
      · rw [hnew] at huncut
        exact huncut
      · rw [heq]
        exact h.uncut action.call old hold
    · rw [Function.update_of_ne hne] at hcall
      exact h.uncut m call hcall
  · rcases hchange with hsame | ⟨call, hcall, hextended⟩
    · rw [hsame]
      exact h.verified
    · exact h.verified.extended h.invariant.consistent (h.uncut action.call call hcall) hextended

/-- What a step that starts from `s` may commit: one row after the others, none for an id that is
stored, and nothing that touches the chain for an event that is not audited. -/
structure Keeps (s s' : System) (n : ℕ) : Prop where
  inOrder : s'.committed = s.committed ∨ ∃ row,
    s'.committed.operationalEvents = s.committed.operationalEvents ++ [row]
  stored : ∀ call, s.calls n = some call →
    (∃ stored ∈ s.committed.operationalEvents, stored.id = call.event.id) →
      s'.committed = s.committed
  other : ∀ call, s.calls n = some call → AuditHashChain.isAudit call.event = false →
    s'.committed.auditHead = s.committed.auditHead ∧
      auditEvents s'.committed = auditEvents s.committed

theorem Invariant.keeps (h : Invariant platform s) (hstep : s.step platform action = some s') :
    Keeps s s' action.call := by
  rcases (h.step hstep).2 with hsame | ⟨call, hcall, hextended⟩
  · exact ⟨Or.inl hsame, fun _ _ _ => hsame, fun _ _ _ => by rw [hsame]; exact ⟨rfl, rfl⟩⟩
  · constructor
    · obtain ⟨-, head, row, head', -, -, hrows, -⟩ := hextended
      exact Or.inr ⟨row, congrArg Storage.operationalEvents hrows⟩
    · rintro call' hcall' ⟨stored, hmem, hid⟩
      obtain rfl := Option.some.inj (hcall.symm.trans hcall')
      exact absurd hid (hextended.1 stored hmem)
    · intro call' hcall'
      obtain rfl := Option.some.inj (hcall.symm.trans hcall')
      exact hextended.unchanged

/-- In every interleaving of the statements of the calls, whichever of them fail, the committed
audit events form one chain that the head ends, and where no audit event is cut `verify` accepts
each of them. -/
theorem audit_chain (platform : Platform) (actions : List Action) (s : System)
    (hrun : Runs.run (System.step platform) .initial actions = some s) :
    Chained s.committed ∧
      (∀ action s', s.step platform action = some s' → Keeps s s' action.call) ∧
      (Runs.Along (System.step platform) (fun _ action => action.Uncut) .initial actions →
        Verified platform s.committed) := by
  have hinvariant : Invariant platform s :=
    Runs.run_invariant_of_step (fun _ _ _ h hstep => (h.step hstep).1) invariant_initial hrun
  refine ⟨hinvariant.consistent.chained, fun action s' hstep => hinvariant.keeps hstep,
    fun huncut => ?_⟩
  have huncutInvariant : UncutInvariant platform s :=
    Runs.run_invariant (fun _ _ _ h huncut hstep => h.step huncut hstep) uncutInvariant_initial
      huncut hrun
  exact huncutInvariant.verified

/-- A platform as far as the event below asks of it. -/
def samplePlatform : Platform where
  instantText _ := "1970-01-01T00:00:00Z"
  doubleText _ := "0.0"
  lowercase text := text
  lowercase_lowercase _ := rfl

def sampleEvent (id result : String) : OperationalEventReadModel where
  id
  occurredAt := 0
  severity := "info"
  category := "security"
  source := "media lifecycle"
  message := "media lifecycle"
  connections := 0
  latencyMs := 0
  throughputMbps := 0.0
  groupId := ⟨"security", by decide⟩
  result := some result

/-- The call with the number and the id: the head, the id, the row, the head again, the commit. -/
def appending (n : ℕ) (event : OperationalEventReadModel) : List Action :=
  .appendIfAbsent n event :: List.replicate 5 (.statement n)

/-- The second call waits for the head until its lock times out, and tries again. -/
def overlappingCalls : List Action :=
  .appendIfAbsent 1 (sampleEvent "audit-media-0-2" "observed") ::
    (appending 0 (sampleEvent "audit-media-0-1" "observed")).take 3 ++
    .fail 1 (.dataAccess ⟨false, [some "55P03"]⟩) false :: List.replicate 3 (.statement 0) ++
    List.replicate 5 (.statement 1)

theorem audit_chain_sample : ∃ s,
    Runs.run (System.step samplePlatform) .initial overlappingCalls = some s ∧
      (auditEvents s.committed).map (·.id) = ["audit-media-0-1", "audit-media-0-2"] ∧
      Chained s.committed ∧ Verified samplePlatform s.committed ∧
      ∀ action s', s.step samplePlatform action = some s' → Keeps s s' action.call := by
  have hevents : (Runs.run (System.step samplePlatform) .initial overlappingCalls).map
      (fun s => (auditEvents s.committed).map (·.id)) =
      some ["audit-media-0-1", "audit-media-0-2"] := by decide +kernel
  obtain ⟨s, hrun, hids⟩ := Option.map_eq_some_iff.1 hevents
  obtain ⟨hchained, hkeeps, hverified⟩ := audit_chain samplePlatform overlappingCalls s hrun
  have huncut : Runs.Along (System.step samplePlatform) (fun _ action => action.Uncut) .initial
      overlappingCalls := Runs.along_of_mem (by decide +kernel) _
  exact ⟨s, hrun, hids, hchained, hverified huncut, hkeeps⟩

def paddedEvent : OperationalEventReadModel :=
  sampleEvent "audit-media-0-1" ("observed" ++ String.ofList (List.replicate 32 ' '))

theorem audit_chain_counterexample :
    ¬ ∀ (platform : Platform) (actions : List Action) (s : System),
      Runs.run (System.step platform) .initial actions = some s →
        Chained s.committed ∧
          (∀ action s', s.step platform action = some s' → Keeps s s' action.call) ∧
          Verified platform s.committed := by
  intro hclaim
  have hrejected : (Runs.run (System.step samplePlatform) .initial (appending 0 paddedEvent)).map
      (fun s => (auditEvents s.committed).map (AuditHashChain.verify samplePlatform)) =
      some [false] := by decide +kernel
  obtain ⟨s, hrun, hverify⟩ := Option.map_eq_some_iff.1 hrejected
  obtain ⟨-, -, hverified⟩ := hclaim samplePlatform (appending 0 paddedEvent) s hrun
  obtain ⟨row, hrow, hfalse⟩ := List.mem_map.1 (hverify ▸ List.mem_singleton_self false)
  rw [hverified row hrow] at hfalse
  cases hfalse

end GcsSaker.AuditChain
