import GcsSaker.TelemetryIsolation
import Mathlib.Data.List.Pairwise

/-!
# The two telemetry repositories agree

Postgres gives a sample without an event a fresh identity and stores what its columns take. Up to
the fresh identities the repositories hold the same after any sequence of samples that the columns
take as they are. With distinct events and times the latest sample is the one observed last.
-/

namespace GcsSaker.TelemetryReads

open Machines (Along final)
open PostgresColumns (Fits)
open TelemetryIngestRpc (GroupId TelemetryReadModel)

/-! ## What the columns take as it is -/

structure Fitting (call : UpsertCall) : Prop where
  eventId : ∀ id ∈ (Tables.persisted call).eventId, Fits 160 id
  uuid : Fits 128 call.telemetry.uuid
  soc : Fits 32 call.telemetry.soc
  epochTime : Fits 32 call.telemetry.epochTime
  groupId : Fits 64 call.telemetry.groupId.value
  sessionId : ∀ id ∈ call.telemetry.sessionId, Fits 128 id
  streamId : ∀ id ∈ call.telemetry.streamId, Fits 256 id
  observedAt : ∀ t ∈ call.telemetry.observedAt,
    Clock.millisecond ∣ t ∧ PostgresColumns.lowest ≤ t ∧ t < PostgresColumns.beyond
  now : PostgresColumns.lowest ≤ PostgresColumns.toMicros call.now ∧
    PostgresColumns.toMicros call.now < PostgresColumns.beyond

theorem persisted_eq (call : UpsertCall) :
    Tables.persisted call =
      { call.telemetry with eventId := (Tables.persisted call).eventId } := by
  by_cases h : call.telemetry.eventId = none
  · rw [Tables.persisted_of_none h]
  · rw [Tables.persisted_of_ne_none h]

theorem persisted_observedAt (call : UpsertCall) :
    (Tables.persisted call).observedAt = call.telemetry.observedAt := by
  rw [persisted_eq]

theorem groupColumn_of_fits {groupId : GroupId} (h : Fits 64 groupId.value) :
    groupColumn groupId = some groupId := by
  rw [groupColumn, PostgresColumns.varchar_of_fits h, Option.bind_some, dif_pos groupId.notBlank]

theorem timestamptz_of_millisecond {unit t : ℤ} (hunit : 0 < unit)
    (hdvd : unit ∣ Clock.millisecond) (ht : Clock.millisecond ∣ t)
    (hrange : PostgresColumns.lowest ≤ t ∧ t < PostgresColumns.beyond) :
    PostgresColumns.timestamptz unit t = some t := by
  have hmicros : PostgresColumns.microsecond ∣ Clock.millisecond := by decide
  have hepoch : Clock.millisecond ∣ PostgresColumns.epoch := by decide
  exact PostgresColumns.timestamptz_of_dvd hunit (hmicros.trans ht)
    (hdvd.trans (Int.dvd_sub ht hepoch)) hrange

theorem Fitting.storedRow {call : UpsertCall} (h : Fitting call) :
    storedRow (Tables.persisted call) = some (Tables.persisted call) := by
  have htext : ∀ {limit : ℕ} {text : Option String}, (∀ id ∈ text, Fits limit id) →
      PostgresColumns.nullable (PostgresColumns.varchar limit) text = some text :=
    fun hfits => PostgresColumns.nullable_of_forall fun id hid =>
      PostgresColumns.varchar_of_fits (hfits id hid)
  have htime : PostgresColumns.nullable
      (PostgresColumns.timestamptz PostgresColumns.microsecond) call.telemetry.observedAt =
        some call.telemetry.observedAt :=
    PostgresColumns.nullable_of_forall fun t ht =>
      timestamptz_of_millisecond (by decide) (by decide) (h.observedAt t ht).1
        (h.observedAt t ht).2
  have hevent := htext h.eventId
  rw [persisted_eq] at hevent ⊢
  simp only [TelemetryReads.storedRow, hevent, PostgresColumns.varchar_of_fits h.uuid,
    PostgresColumns.varchar_of_fits h.soc, PostgresColumns.varchar_of_fits h.epochTime,
    groupColumn_of_fits h.groupId, htime, htext h.sessionId, htext h.streamId,
    Option.bind_eq_bind, Option.bind_some]

theorem Fitting.historyRow {call : UpsertCall} (h : Fitting call) :
    ∃ recordedAt, historyRow call = some ⟨recordedAt, Tables.persisted call⟩ := by
  rw [TelemetryReads.historyRow, h.storedRow, persisted_observedAt, Option.bind_some]
  cases htime : call.telemetry.observedAt with
  | none =>
      refine ⟨PostgresColumns.toPrecision Clock.millisecond
        (PostgresColumns.toMicros call.now), ?_⟩
      rw [Option.getD_none, PostgresColumns.timestamptz, if_pos h.now, Option.map_some]
  | some t =>
      obtain ⟨hdvd, hrange⟩ := h.observedAt t htime
      refine ⟨t, ?_⟩
      rw [Option.getD_some, timestamptz_of_millisecond (by decide) dvd_rfl hdvd hrange,
        Option.map_some]

/-! ## Fresh identities -/

/-- The identities that Postgres gives to the samples without an event. -/
def legacyIds (calls : List UpsertCall) : List String :=
  (calls.filter (·.telemetry.eventId = none)).map (·.newLegacyEventId)

def Fresh (calls : List UpsertCall) : Prop :=
  (legacyIds calls).Nodup ∧
    ∀ call ∈ calls, ∀ id ∈ call.telemetry.eventId, id ∉ legacyIds calls

instance {calls : List UpsertCall} : Decidable (Fresh calls) :=
  inferInstanceAs (Decidable (_ ∧ ∀ call ∈ calls, ∀ id ∈ call.telemetry.eventId, ¬_))

/-- The sample without its identity where that is a fresh one. -/
def forget (legacy : List String) (telemetry : TelemetryReadModel) : TelemetryReadModel :=
  if ∃ id ∈ telemetry.eventId, id ∈ legacy then { telemetry with eventId := none } else telemetry

section Forget

variable (legacy : List String) (telemetry : TelemetryReadModel)

@[simp] theorem forget_uuid : (forget legacy telemetry).uuid = telemetry.uuid := by
  rw [forget]
  split_ifs <;> rfl

@[simp] theorem forget_groupId : (forget legacy telemetry).groupId = telemetry.groupId := by
  rw [forget]
  split_ifs <;> rfl

@[simp] theorem forget_observedAt :
    (forget legacy telemetry).observedAt = telemetry.observedAt := by
  rw [forget]
  split_ifs <;> rfl

theorem newest_forget (latest : Option TelemetryReadModel) :
    newest (latest.map (forget legacy)) (forget legacy telemetry) =
      forget legacy (newest latest telemetry) := by
  cases latest with
  | none => rfl
  | some current =>
      simp only [Option.map_some, newest, isNewer, forget_observedAt]
      exact (apply_ite (forget legacy) _ _ _).symm

theorem owns_forget (device : Option TelemetryIngestRpc.RegisteredDevice)
    (latest : Option TelemetryReadModel) :
    owns device (latest.map (forget legacy)) (forget legacy telemetry) =
      owns device latest telemetry := by
  rw [owns, Option.map_map, forget_groupId]
  have hgroup : (fun t : TelemetryReadModel => t.groupId) ∘ forget legacy = (·.groupId) :=
    funext fun t => forget_groupId legacy t
  rw [hgroup, owns]

end Forget

theorem mem_legacyIds {calls : List UpsertCall} {call : UpsertCall} (hmem : call ∈ calls)
    (hid : call.telemetry.eventId = none) : call.newLegacyEventId ∈ legacyIds calls :=
  List.mem_map.2 ⟨call, List.mem_filter.2 ⟨hmem, decide_eq_true hid⟩, rfl⟩

theorem forget_persisted {calls : List UpsertCall} (hfresh : Fresh calls) {call : UpsertCall}
    (hmem : call ∈ calls) : forget (legacyIds calls) (Tables.persisted call) = call.telemetry := by
  by_cases hid : call.telemetry.eventId = none
  · rw [Tables.persisted_of_none hid, forget, if_pos ⟨_, rfl, mem_legacyIds hmem hid⟩, ← hid]
  · rw [Tables.persisted_of_ne_none hid, forget, if_neg]
    rintro ⟨id, hevent, hlegacy⟩
    exact hfresh.2 call hmem id hevent hlegacy

/-! ## The simulation -/

/-- The repositories hold the same, up to the fresh identities. -/
structure Agree (legacy : List String) (memory : InMemoryRepository) (tables : Tables) :
    Prop where
  latest : ∀ uuid, memory.telemetryByUuid uuid =
    (tables.telemetryLatest uuid).map (forget legacy)
  history : ∀ uuid, (memory.telemetryHistory uuid).map (·.telemetry) =
    (tables.view uuid).2.map fun row => forget legacy row.telemetry
  taken : ∀ id, id ∉ legacy → (id ∈ memory.eventIds ↔ id ∈ events tables.telemetryHistory)

theorem agree_empty (legacy : List String) :
    Agree legacy InMemoryRepository.empty Tables.empty where
  latest _ := rfl
  history _ := rfl
  taken _ _ := Iff.rfl

theorem Agree.insert {legacy : List String} {memory : InMemoryRepository} {tables : Tables}
    (h : Agree legacy memory tables) {call : UpsertCall} {recordedAt : ℤ}
    (hforget : forget legacy (Tables.persisted call) = call.telemetry)
    (hid : ∀ id, id ∉ legacy →
      (id ∈ call.telemetry.eventId ↔ id ∈ (Tables.persisted call).eventId)) :
    Agree legacy
      ({ memory with eventIds := call.telemetry.eventId.toList ++ memory.eventIds }.put call.now
        call.telemetry)
      ((tables.insertHistory ⟨recordedAt, Tables.persisted call⟩).upsertLatest
        (Tables.persisted call)) where
  latest uuid := by
    rw [InMemoryRepository.put_eq, Tables.upsertLatest_eq, ← hforget]
    simp only [Tables.insertHistory, forget_uuid, Function.update_apply]
    split_ifs with hu
    · rw [h.latest, newest_forget, Option.map_some]
    · exact h.latest uuid
  history uuid := by
    have htables : (((tables.insertHistory ⟨recordedAt, Tables.persisted call⟩).upsertLatest
        (Tables.persisted call)).view uuid).2 =
        if (Tables.persisted call).uuid = uuid then
          (tables.view uuid).2 ++ [⟨recordedAt, Tables.persisted call⟩]
        else (tables.view uuid).2 := by
      have hview := Tables.view_insert tables ⟨recordedAt, Tables.persisted call⟩ uuid
      rw [hview]
      split_ifs <;> rfl
    have huuid : call.telemetry.uuid = (Tables.persisted call).uuid := by
      rw [← hforget, forget_uuid]
    rw [InMemoryRepository.put_eq, htables]
    simp only [Function.update_apply, huuid]
    by_cases hu : (Tables.persisted call).uuid = uuid
    · subst hu
      rw [if_pos rfl, if_pos rfl, List.map_append, List.map_append, ← h.history]
      simp only [List.map_cons, List.map_nil, hforget]
    · rw [if_neg (Ne.symm hu), if_neg hu]
      exact h.history uuid
  taken id hlegacy := by
    rw [InMemoryRepository.put_eq, Tables.upsertLatest_eq]
    change id ∈ call.telemetry.eventId.toList ++ memory.eventIds ↔
      id ∈ events (tables.telemetryHistory ++ [⟨recordedAt, Tables.persisted call⟩])
    rw [List.mem_append, mem_events_concat, Option.mem_toList, h.taken id hlegacy]
    exact or_comm.trans (or_congr Iff.rfl (hid id hlegacy))

theorem Agree.hasEvent_iff {legacy : List String} {memory : InMemoryRepository} {tables : Tables}
    (h : Agree legacy memory tables) {call : UpsertCall}
    (hexplicit : ∀ id ∈ call.telemetry.eventId, id ∉ legacy)
    (hnew : call.telemetry.eventId = none →
      call.newLegacyEventId ∉ events tables.telemetryHistory) :
    tables.hasEvent (Tables.persisted call) = true ↔ memory.Known call.telemetry := by
  rw [Tables.hasEvent_iff, InMemoryRepository.Known]
  by_cases hid : call.telemetry.eventId = none
  · rw [Tables.persisted_of_none hid, hid]
    simpa using hnew hid
  · rw [Tables.persisted_of_ne_none hid]
    exact exists_congr fun id => and_congr_right fun hevent =>
      (h.taken id (hexplicit id hevent)).symm

/-- A call keeps the agreement and takes at most its own identity. -/
theorem Agree.step {legacy : List String} {memory : InMemoryRepository} {tables : Tables}
    (h : Agree legacy memory tables) {call : UpsertCall} (hfits : Fitting call)
    (hforget : forget legacy (Tables.persisted call) = call.telemetry)
    (hexplicit : ∀ id ∈ call.telemetry.eventId, id ∉ legacy)
    (hlegacy : call.telemetry.eventId = none → call.newLegacyEventId ∈ legacy)
    (hnew : call.telemetry.eventId = none →
      call.newLegacyEventId ∉ events tables.telemetryHistory) :
    Agree legacy (memory.upsertTelemetry call).1 (tables.replaceTelemetry call).1 ∧
      ∀ id ∈ events (tables.replaceTelemetry call).1.telemetryHistory,
        id ∈ events tables.telemetryHistory ∨ id ∈ (Tables.persisted call).eventId := by
  obtain ⟨recordedAt, hrow⟩ := hfits.historyRow
  have huuid : (Tables.persisted call).uuid = call.telemetry.uuid := by
    rw [← hforget, forget_uuid]
  have howns : owns (call.devices (Tables.persisted call).uuid)
      (tables.telemetryLatest (Tables.persisted call).uuid) (Tables.persisted call) =
      owns (call.devices call.telemetry.uuid) (memory.telemetryByUuid call.telemetry.uuid)
        call.telemetry := by
    rw [h.latest, ← owns_forget legacy, hforget, huuid]
  have hknown := h.hasEvent_iff hexplicit hnew
  rw [Tables.replaceTelemetry_of_some tables hrow]
  simp only [howns]
  by_cases hpass : owns (call.devices call.telemetry.uuid)
      (memory.telemetryByUuid call.telemetry.uuid) call.telemetry = true
  · rw [if_pos hpass]
    by_cases hk : memory.Known call.telemetry
    · rw [InMemoryRepository.upsertTelemetry_of_known memory hpass hk, if_pos (hknown.2 hk)]
      exact ⟨h, fun id hid => .inl hid⟩
    · rw [InMemoryRepository.upsertTelemetry_of_new memory hpass hk, if_neg (mt hknown.1 hk)]
      refine ⟨h.insert hforget fun id hid => ?_, fun id hid => ?_⟩
      · by_cases hevent : call.telemetry.eventId = none
        · have hne : call.newLegacyEventId ≠ id := fun heq => hid (heq ▸ hlegacy hevent)
          rw [Tables.persisted_of_none hevent, hevent]
          simpa using hne
        · rw [Tables.persisted_of_ne_none hevent]
      · rw [Tables.upsertLatest_eq] at hid
        exact mem_events_concat.1 hid
  · rw [if_neg hpass,
      InMemoryRepository.upsertTelemetry_of_not_owns memory (Bool.eq_false_iff.2 hpass)]
    exact ⟨h, fun id hid => .inl hid⟩

/-- No fresh identity of the calls to come is in the history. -/
def Unused (tables : Tables) (calls : List UpsertCall) : Prop :=
  ∀ id ∈ legacyIds calls, id ∉ events tables.telemetryHistory

theorem legacyIds_cons (call : UpsertCall) (calls : List UpsertCall) :
    legacyIds (call :: calls) =
      if call.telemetry.eventId = none then call.newLegacyEventId :: legacyIds calls
      else legacyIds calls := by
  by_cases h : call.telemetry.eventId = none
  · rw [if_pos h, legacyIds, List.filter_cons_of_pos (by exact decide_eq_true h), List.map_cons, legacyIds]
  · rw [if_neg h, legacyIds, List.filter_cons_of_neg (by simpa using h), legacyIds]

theorem unused_step {legacy : List String} {tables tables' : Tables} {call : UpsertCall}
    {calls : List UpsertCall} (hunused : Unused tables (call :: calls))
    (hnodup : (legacyIds (call :: calls)).Nodup)
    (hexplicit : ∀ id ∈ call.telemetry.eventId, id ∉ legacy)
    (hsub : ∀ id ∈ legacyIds calls, id ∈ legacy)
    (htaken : ∀ id ∈ events tables'.telemetryHistory,
      id ∈ events tables.telemetryHistory ∨ id ∈ (Tables.persisted call).eventId) :
    Unused tables' calls := by
  intro id hid hmem
  rw [Unused, legacyIds_cons] at hunused
  rw [legacyIds_cons] at hnodup
  rcases htaken id hmem with hold | hnew
  · refine hunused id ?_ hold
    split_ifs
    · exact List.mem_cons_of_mem _ hid
    · exact hid
  · by_cases hevent : call.telemetry.eventId = none
    · rw [Tables.persisted_of_none hevent, Option.mem_def, Option.some.injEq] at hnew
      rw [if_pos hevent, hnew] at hnodup
      exact (List.nodup_cons.1 hnodup).1 hid
    · rw [Tables.persisted_of_ne_none hevent] at hnew
      exact hexplicit id hnew (hsub id hid)

theorem Agree.final {all : List UpsertCall} (hfresh : Fresh all) {calls : List UpsertCall}
    {memory : InMemoryRepository} {tables : Tables} (h : Agree (legacyIds all) memory tables)
    (hunused : Unused tables calls) (hnodup : (legacyIds calls).Nodup) (hsub : calls ⊆ all)
    (hfits : ∀ call ∈ calls, Fitting call) :
    Agree (legacyIds all) (final InMemoryRepository.upsertTelemetry memory calls)
      (final Tables.replaceTelemetry tables calls) := by
  induction calls generalizing memory tables with
  | nil => exact h
  | cons call calls ih =>
      have hmem : call ∈ all := hsub (List.mem_cons_self ..)
      have hexplicit := hfresh.2 call hmem
      have hnew : call.telemetry.eventId = none →
          call.newLegacyEventId ∉ events tables.telemetryHistory := by
        intro hevent
        apply hunused
        rw [legacyIds_cons, if_pos hevent]
        exact List.mem_cons_self ..
      obtain ⟨hagree, htaken⟩ := h.step (hfits call (List.mem_cons_self ..))
        (forget_persisted hfresh hmem) hexplicit (mem_legacyIds hmem) hnew
      have hrest : calls ⊆ all := fun c hc => hsub (List.mem_cons_of_mem call hc)
      have hlegacy : ∀ id ∈ legacyIds calls, id ∈ legacyIds all := by
        intro id hid
        obtain ⟨c, hc, rfl⟩ := List.mem_map.1 hid
        obtain ⟨hmem, hevent⟩ := List.mem_filter.1 hc
        exact mem_legacyIds (hrest hmem) (of_decide_eq_true hevent)
      apply ih hagree (unused_step hunused hnodup hexplicit hlegacy htaken)
      · rw [legacyIds_cons] at hnodup
        split_ifs at hnodup
        · exact (List.nodup_cons.1 hnodup).2
        · exact hnodup
      · exact hrest
      · exact fun c hc => hfits c (List.mem_cons_of_mem call hc)

/-! ## The sample observed last -/

/-- The call passes the ownership check. -/
def PassesOwnership (repository : InMemoryRepository) (call : UpsertCall) : Prop :=
  owns (call.devices call.telemetry.uuid) (repository.telemetryByUuid call.telemetry.uuid)
    call.telemetry = true

instance {repository : InMemoryRepository} {call : UpsertCall} :
    Decidable (PassesOwnership repository call) :=
  inferInstanceAs (Decidable (_ = true))

/-- The events of two calls differ, and so do their times if they are of one device. -/
def Distinct (call call' : UpsertCall) : Prop :=
  (∀ id ∈ call.telemetry.eventId, id ∉ call'.telemetry.eventId) ∧
    (call.telemetry.uuid = call'.telemetry.uuid →
      call.telemetry.observedAt ≠ call'.telemetry.observedAt)

instance {call call' : UpsertCall} : Decidable (Distinct call call') :=
  inferInstanceAs (Decidable ((∀ _ ∈ call.telemetry.eventId, _) ∧ (_ → ¬_)))

/-- The sample comes from a call for the device, and no call for it brought a later one. -/
def ObservedLast (calls : List UpsertCall) (uuid : String) (latest : TelemetryReadModel) : Prop :=
  (∃ call ∈ calls, call.telemetry = latest ∧ latest.uuid = uuid) ∧
    ∀ call ∈ calls, call.telemetry.uuid = uuid →
      ∀ t ∈ call.telemetry.observedAt, ∀ u ∈ latest.observedAt, t ≤ u

structure LatestOf (calls : List UpsertCall) (repository : InMemoryRepository) : Prop where
  events : ∀ id ∈ repository.eventIds, ∃ call ∈ calls, id ∈ call.telemetry.eventId
  kept : ∀ uuid latest, repository.telemetryByUuid uuid = some latest →
    ObservedLast calls uuid latest
  absent : ∀ uuid, repository.telemetryByUuid uuid = none →
    ∀ call ∈ calls, call.telemetry.uuid ≠ uuid

theorem isNewer_iff {current telemetry : TelemetryReadModel} :
    isNewer current telemetry = true ↔
      ∃ t ∈ telemetry.observedAt, ∃ u ∈ current.observedAt, t < u := by
  unfold isNewer
  cases current.observedAt <;> cases telemetry.observedAt <;> simp

theorem LatestOf.newest {calls : List UpsertCall} {repository : InMemoryRepository}
    (h : LatestOf calls repository) (htimed : ∀ call ∈ calls, call.telemetry.observedAt ≠ none)
    (call : UpsertCall) :
    ObservedLast (calls ++ [call]) call.telemetry.uuid
      (newest (repository.telemetryByUuid call.telemetry.uuid) call.telemetry) := by
  have hself : ∃ c ∈ calls ++ [call], c.telemetry = call.telemetry ∧
      call.telemetry.uuid = call.telemetry.uuid :=
    ⟨call, List.mem_append_right _ (List.mem_singleton_self call), rfl, rfl⟩
  cases hlatest : repository.telemetryByUuid call.telemetry.uuid with
  | none =>
      refine ⟨hself, fun c hc huuid t ht u hu => ?_⟩
      rcases List.mem_append.1 hc with hold | hnew
      · exact absurd huuid (h.absent _ hlatest c hold)
      · rw [List.mem_singleton.1 hnew] at ht
        exact le_of_eq (Option.some.inj (ht.symm.trans hu))
  | some current =>
      obtain ⟨⟨source, hsource, hcurrent, huuid⟩, hlast⟩ := h.kept _ _ hlatest
      obtain ⟨v, hv⟩ := Option.ne_none_iff_exists'.1 (hcurrent ▸ htimed source hsource)
      simp only [TelemetryReads.newest]
      split_ifs with hnewer
      · refine ⟨⟨source, List.mem_append_left _ hsource, hcurrent, huuid⟩, ?_⟩
        intro c hc huuid t ht u hu
        rcases List.mem_append.1 hc with hold | hnew
        · exact hlast c hold huuid t ht u hu
        · obtain ⟨t', ht', u', hu', hlt⟩ := isNewer_iff.1 hnewer
          rw [List.mem_singleton.1 hnew] at ht
          rw [Option.some.inj (ht.symm.trans ht'), Option.some.inj (hu.symm.trans hu')]
          exact hlt.le
      · refine ⟨hself, fun c hc huuid t ht u hu => ?_⟩
        have hle : v ≤ u := not_lt.1 fun hlt => hnewer (isNewer_iff.2 ⟨u, hu, v, hv, hlt⟩)
        rcases List.mem_append.1 hc with hold | hnew
        · exact (hlast c hold huuid t ht v hv).trans hle
        · rw [List.mem_singleton.1 hnew] at ht
          exact le_of_eq (Option.some.inj (ht.symm.trans hu))

theorem LatestOf.step {calls : List UpsertCall} {repository : InMemoryRepository}
    (h : LatestOf calls repository) (htimed : ∀ call ∈ calls, call.telemetry.observedAt ≠ none)
    {call : UpsertCall} (hpass : PassesOwnership repository call)
    (hdistinct : ∀ c ∈ calls, Distinct c call) :
    LatestOf (calls ++ [call]) (repository.upsertTelemetry call).1 := by
  have hnew : ¬repository.Known call.telemetry := by
    rintro ⟨id, hid, hmem⟩
    obtain ⟨c, hc, hcid⟩ := h.events id hmem
    exact (hdistinct c hc).1 id hcid hid
  rw [InMemoryRepository.upsertTelemetry_of_new repository hpass hnew,
    InMemoryRepository.put_eq]
  constructor
  · intro id hid
    rcases List.mem_append.1 hid with hown | hold
    · exact ⟨call, List.mem_append_right _ (List.mem_singleton_self call),
        Option.mem_toList.1 hown⟩
    · obtain ⟨c, hc, hcid⟩ := h.events id hold
      exact ⟨c, List.mem_append_left _ hc, hcid⟩
  · intro uuid latest hlatest
    simp only [Function.update_apply] at hlatest
    split_ifs at hlatest with hu
    · rw [hu, ← Option.some.inj hlatest]
      exact h.newest htimed call
    · obtain ⟨⟨source, hsource, heq, huuid⟩, hlast⟩ := h.kept uuid latest hlatest
      refine ⟨⟨source, List.mem_append_left _ hsource, heq, huuid⟩, fun c hc hcu => ?_⟩
      rcases List.mem_append.1 hc with hold | hnew
      · exact hlast c hold hcu
      · exact absurd (List.mem_singleton.1 hnew ▸ hcu).symm hu
  · intro uuid hnone c hc
    simp only [Function.update_apply] at hnone
    split_ifs at hnone with hu
    rcases List.mem_append.1 hc with hold | hnew
    · exact h.absent uuid hnone c hold
    · rw [List.mem_singleton.1 hnew]
      exact Ne.symm hu

theorem LatestOf.final {rest done : List UpsertCall} {repository : InMemoryRepository}
    (h : LatestOf done repository)
    (hpass : Along InMemoryRepository.upsertTelemetry PassesOwnership repository rest)
    (htimed : ∀ call ∈ done ++ rest, call.telemetry.observedAt ≠ none)
    (hdistinct : (done ++ rest).Pairwise Distinct) :
    LatestOf (done ++ rest) (final InMemoryRepository.upsertTelemetry repository rest) := by
  induction rest generalizing done repository with
  | nil =>
      rw [List.append_nil]
      exact h
  | cons call rest ih =>
      have hnext := h.step (fun c hc => htimed c (List.mem_append_left _ hc)) hpass.1
        fun c hc => (List.pairwise_append.1 hdistinct).2.2 c hc call (List.mem_cons_self ..)
      rw [List.append_cons] at htimed hdistinct ⊢
      exact ih hnext hpass.2 htimed hdistinct

instance : Std.Symm Distinct where
  symm _ _ h :=
    ⟨fun id hid hid' => h.1 id hid' hid, fun huuid heq => h.2 huuid.symm heq.symm⟩

/-- Only one sample of a device is observed last. -/
theorem observedLast_unique {calls : List UpsertCall} {uuid : String}
    {latest latest' : TelemetryReadModel}
    (htimed : ∀ call ∈ calls, call.telemetry.observedAt ≠ none)
    (hdistinct : calls.Pairwise Distinct) (h : ObservedLast calls uuid latest)
    (h' : ObservedLast calls uuid latest') : latest = latest' := by
  obtain ⟨⟨call, hcall, rfl, huuid⟩, hlast⟩ := h
  obtain ⟨⟨call', hcall', rfl, huuid'⟩, hlast'⟩ := h'
  obtain ⟨t, ht⟩ := Option.ne_none_iff_exists'.1 (htimed call hcall)
  obtain ⟨t', ht'⟩ := Option.ne_none_iff_exists'.1 (htimed call' hcall')
  by_contra hne
  have hcalls : call ≠ call' := fun heq => hne (heq ▸ rfl)
  have htimes := (hdistinct.forall hcall hcall' hcalls).2 (huuid.trans huuid'.symm)
  apply htimes
  rw [ht, ht', Option.some.injEq]
  exact le_antisymm (hlast' call hcall huuid t ht t' ht') (hlast call' hcall' huuid' t' ht' t ht)

theorem latest_iff_observedLast {calls : List UpsertCall}
    (hpass : Along InMemoryRepository.upsertTelemetry PassesOwnership .empty calls)
    (htimed : ∀ call ∈ calls, call.telemetry.observedAt ≠ none)
    (hdistinct : calls.Pairwise Distinct) (uuid : String) (latest : TelemetryReadModel) :
    (InMemoryRepository.after calls).telemetryByUuid uuid = some latest ↔
      ObservedLast calls uuid latest := by
  have hempty : LatestOf [] InMemoryRepository.empty :=
    ⟨fun id hid => absurd hid List.not_mem_nil, fun uuid latest h => (nomatch h),
      fun uuid h call hcall => absurd hcall List.not_mem_nil⟩
  have hlatest := hempty.final hpass htimed hdistinct
  constructor
  · exact hlatest.kept uuid latest
  · intro hlast
    cases hstored : (InMemoryRepository.after calls).telemetryByUuid uuid with
    | none =>
        obtain ⟨⟨call, hcall, rfl, huuid⟩, -⟩ := hlast
        exact absurd huuid (hlatest.absent uuid hstored call hcall)
    | some stored =>
        rw [observedLast_unique htimed hdistinct (hlatest.kept uuid stored hstored) hlast]

/-! ## Agreement -/

/-- After any samples that the columns take as they are, the two repositories hold the same latest
samples and the same histories. With distinct events and times the latest sample of a device is the
one observed last. -/
theorem telemetry_repositories_agree (calls : List UpsertCall)
    (hfits : ∀ call ∈ calls, Fitting call) (hfresh : Fresh calls) :
    (∀ uuid, (InMemoryRepository.after calls).telemetryByUuid uuid =
        ((Tables.after calls).telemetryLatest uuid).map (forget (legacyIds calls)) ∧
      ((InMemoryRepository.after calls).telemetryHistory uuid).map (·.telemetry) =
        ((Tables.after calls).view uuid).2.map fun row =>
          forget (legacyIds calls) row.telemetry) ∧
    (Along InMemoryRepository.upsertTelemetry PassesOwnership .empty calls →
      (∀ call ∈ calls, call.telemetry.observedAt ≠ none) → calls.Pairwise Distinct →
      ∀ uuid latest, ObservedLast calls uuid latest ↔
        ((Tables.after calls).telemetryLatest uuid).map (forget (legacyIds calls)) =
          some latest) := by
  have hunused : Unused Tables.empty calls := fun id _ hmem => absurd hmem List.not_mem_nil
  have hagree := (agree_empty (legacyIds calls)).final hfresh hunused hfresh.1
    (List.Subset.refl calls) hfits
  refine ⟨fun uuid => ⟨hagree.latest uuid, hagree.history uuid⟩, ?_⟩
  intro hpass htimed hdistinct uuid latest
  rw [← latest_iff_observedLast hpass htimed hdistinct, InMemoryRepository.after,
    hagree.latest uuid]
  rfl

/-- In memory a text of any length is kept; on Postgres the columns bound it. -/
theorem telemetry_repositories_agree_counterexample :
    let soc := "111111111111111111111111111111111"
    let call : UpsertCall := { sampleCall "a" alpha "e" with
      telemetry := { sample "a" alpha "e" with soc := soc } }
    PassesOwnership .empty call ∧ Fresh [call] ∧
      (InMemoryRepository.after [call]).telemetryByUuid "a" = some call.telemetry ∧
      (Tables.after [call]).telemetryLatest "a" = none ∧
      (InMemoryRepository.after [call]).telemetryHistory "a" = [⟨0, call.telemetry⟩] ∧
      (Tables.after [call]).telemetryHistory = [] := by
  decide

/-- A sample of one millisecond, and after it an earlier one. -/
def outOfOrder : List UpsertCall :=
  [{ sampleCall "a" alpha "1" with
      telemetry := { sample "a" alpha "1" with observedAt := some 1000000 } },
    { sampleCall "a" alpha "2" with
      telemetry := { sample "a" alpha "2" with observedAt := some 0 } }]

theorem telemetry_repositories_agree_outOfOrder :
    ObservedLast outOfOrder "a" { sample "a" alpha "1" with observedAt := some 1000000 } := by
  have hfits : ∀ call ∈ outOfOrder, Fitting call := by
    rintro call (_ | ⟨_, _ | ⟨_, h⟩⟩)
    · constructor <;> decide
    · constructor <;> decide
    · cases h
  exact ((telemetry_repositories_agree outOfOrder hfits (by decide)).2 (by decide) (by decide)
    (by decide) "a" _).2 (by decide)

end GcsSaker.TelemetryReads
