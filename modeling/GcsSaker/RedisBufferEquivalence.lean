import GcsSaker.RedisTelemetryBuffer

/-!
# The buffer in Redis against the buffer in memory

Both buffers take the same operations. They give the same rows exactly for records that set every
field, or that have no key and so no rows at all.
-/

namespace GcsSaker.RedisBufferEquivalence

open TelemetryBulkPayload (ofRecord)

inductive Operation where
  | append_history (record : TelemetryBufferRecord)
  | put_latest (record : TelemetryBufferRecord)
  | drain_history (max_items : ℤ)
  | restore_history_front (records : List TelemetryBufferRecord)
  | restore_drained (from_index : ℕ)
  | latest_for (key : String)

/-- The records that an operation is given. -/
def Operation.records : Operation → List TelemetryBufferRecord
  | .append_history record => [record]
  | .put_latest record => [record]
  | .restore_history_front records => records
  | _ => []

/-- The latest rows and the history rows of a batch. -/
abbrev Rows := Except String (List LatestRow × List HistoryRow)

def rows (records : List TelemetryBufferRecord) : Rows :=
  (TelemetryBulkBatch.from_records records).map fun batch =>
    (TelemetryBulkBatch.latest_rows batch, TelemetryBulkBatch.history_rows batch)

inductive Answer where
  | done
  | full
  | drained (batch : Rows)
  | latest (record : Option Rows)
  | raised (message : String)

/-- The two buffers under comparison. -/
structure Buffers where
  config : RedisTelemetryBufferConfig
  codec : FloatCodec
  max_pending_history : ℕ
  max_pending_history_pos : 0 < max_pending_history

/-- The buffer in memory and the batch that was drained last. -/
structure Memory where
  buffer : InMemoryTelemetryWriteBuffer
  drained : List TelemetryBufferRecord

structure Redis where
  client : RedisListClient
  drained : List TelemetryBufferRecord

def Memory.initial : Memory := ⟨.empty, []⟩

def Redis.initial : Redis := ⟨⟨fun _ => none, fun _ => []⟩, []⟩

variable (b : Buffers)

def Memory.step (s : Memory) : Operation → Memory × Answer
  | .append_history record =>
    match s.buffer.append_history b.max_pending_history record with
    | none => (s, .full)
    | some buffer => (⟨buffer, s.drained⟩, .done)
  | .put_latest record => (⟨s.buffer.put_latest record, s.drained⟩, .done)
  | .drain_history max_items =>
    let (records, buffer) := s.buffer.drain_history max_items
    (⟨buffer, records⟩, .drained (rows records))
  | .restore_history_front records =>
    (⟨s.buffer.restore_history_front records, s.drained⟩, .done)
  | .restore_drained from_index =>
    (⟨s.buffer.restore_history_front (s.drained.drop from_index), s.drained⟩, .done)
  | .latest_for key => (s, .latest ((s.buffer.latest_for key).map fun record => rows [record]))

open RedisTelemetryWriteBuffer in
def Redis.step (s : Redis) : Operation → Redis × Answer
  | .append_history record =>
    (⟨append_history b.config b.codec s.client record, s.drained⟩, .done)
  | .put_latest record => (⟨put_latest b.config b.codec s.client record, s.drained⟩, .done)
  | .drain_history max_items =>
    match drain_history b.config s.client max_items with
    | (.ok records, client) => (⟨client, records⟩, .drained (rows records))
    | (.error message, client) => (⟨client, s.drained⟩, .raised message)
  | .restore_history_front records =>
    (⟨restore_history_front b.config b.codec s.client records, s.drained⟩, .done)
  | .restore_drained from_index =>
    (⟨restore_history_front b.config b.codec s.client (s.drained.drop from_index), s.drained⟩,
      .done)
  | .latest_for key =>
    match latest_for b.config s.client key with
    | .ok record => (s, .latest (record.map fun record => rows [record]))
    | .error message => (s, .raised message)

/-- The queue in memory has room for what is appended. -/
def BelowBound (s : Memory) : Operation → Prop
  | .append_history _ => s.buffer.history.length < b.max_pending_history
  | _ => True

/-- Every sequence of operations that stays below the bound has the same answers from both. -/
def Agree (ops : List Operation) : Prop :=
  Machines.Along (Machines.pair (Memory.step b) (Redis.step b)) (fun s op => BelowBound b s.1 op)
      (Memory.initial, Redis.initial) ops →
    Machines.trace (Memory.step b) Memory.initial ops =
      Machines.trace (Redis.step b) Redis.initial ops

/-! ## Records that stand for each other -/

/-- A record whose rows survive the text: one that sets every field, or one that has no rows. -/
def Good (record : TelemetryBufferRecord) : Prop :=
  record.key = "" ∨ record.telemetry.Survives b.codec

/-- The record `r'` was read back from the text of `r`. -/
structure Same (r r' : TelemetryBufferRecord) : Prop where
  key : r'.key = r.key
  received_at : r'.received_at = r.received_at
  fields : r.key = "" ∨ r'.telemetry.fields = r.telemetry.fields ∧ r.telemetry.Survives b.codec

/-- The text `j` stands for the record `r`. -/
def Stands (r : TelemetryBufferRecord) (j : JsonValue) : Prop :=
  ∃ r', deserialize_record j = .ok r' ∧ Same b r r'

variable {b}

theorem stands_serialize_record {r : TelemetryBufferRecord} (hr : Good b r) :
    Stands b r (serialize_record b.codec r) := by
  refine ⟨r.reread b.codec, deserialize_record_serialize_record b.codec r, rfl, rfl, ?_⟩
  rcases hr with hkey | hsurvives
  · exact .inl hkey
  · exact .inr ⟨(TelemetryCreate.reread_fields_eq_iff b.codec r.telemetry).2 hsurvives, hsurvives⟩

/-- A record that was read back can be written again. -/
theorem stands_of_same {r r' : TelemetryBufferRecord} (h : Same b r r') :
    Stands b r (serialize_record b.codec r') := by
  refine ⟨r'.reread b.codec, deserialize_record_serialize_record b.codec r', h.key,
    h.received_at, ?_⟩
  rcases h.fields with hkey | ⟨hfields, hsurvives⟩
  · exact .inl hkey
  · have hsurvives' : r'.telemetry.Survives b.codec := by
      intro c
      rw [hfields]
      exact hsurvives c
    refine .inr ⟨?_, hsurvives⟩
    exact ((TelemetryCreate.reread_fields_eq_iff b.codec r'.telemetry).2 hsurvives').trans hfields

theorem rows_of_keyed {records : List TelemetryBufferRecord} (h : ∀ r ∈ records, r.key ≠ "") :
    rows records = .ok (TelemetryBulkBatch.latest_rows (records.map ofRecord),
      TelemetryBulkBatch.history_rows (records.map ofRecord)) := by
  rw [rows, TelemetryBulkBatch.from_records_eq_ok_iff.2 ⟨h, rfl⟩]
  rfl

theorem rows_of_not_keyed {records : List TelemetryBufferRecord}
    (h : ¬∀ r ∈ records, r.key ≠ "") :
    rows records = .error "telemetry uuid is required for bulk persistence" := by
  rw [rows, TelemetryBulkBatch.from_records_of_not_keyed h]
  rfl

theorem keyed_of_same {records records' : List TelemetryBufferRecord}
    (h : List.Forall₂ (Same b) records records') :
    (∀ r ∈ records', r.key ≠ "") ↔ ∀ r ∈ records, r.key ≠ "" := by
  induction h with
  | nil => exact Iff.rfl
  | cons hsame _ ih => rw [List.forall_mem_cons, List.forall_mem_cons, hsame.key, ih]

/-- Records that were read back have the rows of those that were written. -/
theorem rows_of_same {records records' : List TelemetryBufferRecord}
    (h : List.Forall₂ (Same b) records records') : rows records' = rows records := by
  by_cases hkeyed : ∀ r ∈ records, r.key ≠ ""
  · rw [rows_of_keyed hkeyed, rows_of_keyed ((keyed_of_same h).2 hkeyed)]
    have hpayloads : TelemetryBulkBatch.latest_rows (records'.map ofRecord) =
          TelemetryBulkBatch.latest_rows (records.map ofRecord) ∧
        TelemetryBulkBatch.history_rows (records'.map ofRecord) =
          TelemetryBulkBatch.history_rows (records.map ofRecord) := by
      induction h with
      | nil => exact ⟨rfl, rfl⟩
      | @cons r r' records records' hsame _ ih =>
          rw [List.forall_mem_cons] at hkeyed
          obtain ⟨hlatest, hhistory⟩ := ih hkeyed.2
          have hfields : r'.telemetry.fields = r.telemetry.fields :=
            (hsame.fields.resolve_left hkeyed.1).1
          constructor
          · refine List.cons_eq_cons.2 ⟨?_, hlatest⟩
            simp only [TelemetryBulkPayload.to_latest_row, ofRecord, hsame.key, hfields]
          · refine List.cons_eq_cons.2 ⟨?_, hhistory⟩
            simp only [TelemetryBulkPayload.to_history_row, ofRecord, hsame.key, hfields,
              hsame.received_at]
    rw [hpayloads.1, hpayloads.2]
  · rw [rows_of_not_keyed hkeyed, rows_of_not_keyed (mt (keyed_of_same h).1 hkeyed)]

theorem mapM_deserialize_record {records : List TelemetryBufferRecord} {values : List JsonValue}
    (h : List.Forall₂ (Stands b) records values) :
    ∃ records', values.mapM deserialize_record = .ok records' ∧
      List.Forall₂ (Same b) records records' := by
  induction h with
  | nil => exact ⟨[], rfl, .nil⟩
  | cons hstands _ ih =>
      obtain ⟨r', hr', hsame⟩ := hstands
      obtain ⟨records', hrecords', hall⟩ := ih
      refine ⟨r' :: records', ?_, .cons hsame hall⟩
      rw [List.mapM_cons, hr', hrecords']
      rfl

/-! ## The simulation -/

/-- Redis holds texts that stand for the records in memory. -/
structure Related (b : Buffers) (s : Memory) (t : Redis) : Prop where
  history : List.Forall₂ (Stands b) s.buffer.history (t.client.lists b.config.history_queue_key)
  latest : ∀ key,
    Option.Rel (Stands b) (s.buffer.latest key) (t.client.values (b.config.latest_key key))
  drained : List.Forall₂ (Same b) s.drained t.drained

theorem related_initial (b : Buffers) : Related b Memory.initial Redis.initial :=
  ⟨.nil, fun _ => .none, .nil⟩

theorem related_restore {s : Memory} {t : Redis} (h : Related b s t)
    {records records' : List TelemetryBufferRecord}
    (hrecords : List.Forall₂ (Stands b) records (records'.map (serialize_record b.codec))) :
    Related b ⟨s.buffer.restore_history_front records, s.drained⟩
      ⟨RedisTelemetryWriteBuffer.restore_history_front b.config b.codec t.client records',
        t.drained⟩ := by
  refine ⟨?_, fun key => ?_, h.drained⟩
  · rw [InMemoryTelemetryWriteBuffer.restore_history_front_history,
      RedisTelemetryWriteBuffer.restore_history_front_lists]
    exact List.rel_append hrecords h.history
  · rw [InMemoryTelemetryWriteBuffer.restore_history_front_latest,
      RedisTelemetryWriteBuffer.restore_history_front_values]
    exact h.latest key

theorem related_put_latest {s : Memory} {t : Redis} (h : Related b s t)
    {record : TelemetryBufferRecord} (hrecord : Good b record) :
    Related b ⟨s.buffer.put_latest record, s.drained⟩
      ⟨RedisTelemetryWriteBuffer.put_latest b.config b.codec t.client record, t.drained⟩ := by
  refine ⟨h.history, fun key => ?_, h.drained⟩
  rw [InMemoryTelemetryWriteBuffer.put_latest, RedisTelemetryWriteBuffer.put_latest,
    RedisListClient.set]
  by_cases hkey : key = record.key
  · subst hkey
    simp only [Function.update_self]
    exact .some (stands_serialize_record hrecord)
  · have hredis : b.config.latest_key key ≠ b.config.latest_key record.key :=
      fun he => hkey (b.config.latest_key_injective he)
    simp only [Function.update_of_ne hkey, Function.update_of_ne hredis]
    exact h.latest key

theorem forall₂_serialize {records : List TelemetryBufferRecord}
    (h : ∀ r ∈ records, Good b r) :
    List.Forall₂ (Stands b) records (records.map (serialize_record b.codec)) := by
  rw [List.forall₂_map_right_iff, List.forall₂_same]
  exact fun r hr => stands_serialize_record (h r hr)

theorem forall₂_serialize_of_same {records records' : List TelemetryBufferRecord}
    (h : List.Forall₂ (Same b) records records') :
    List.Forall₂ (Stands b) records (records'.map (serialize_record b.codec)) := by
  rw [List.forall₂_map_right_iff]
  exact h.imp fun r r' => stands_of_same

theorem related_append_history {s : Memory} {t : Redis} (h : Related b s t)
    {record : TelemetryBufferRecord} (hrecord : Good b record)
    (hbound : s.buffer.history.length < b.max_pending_history) :
    Related b (s.step b (.append_history record)).1 (t.step b (.append_history record)).1 ∧
      (s.step b (.append_history record)).2 = (t.step b (.append_history record)).2 := by
  have happend : s.buffer.append_history b.max_pending_history record =
      some ⟨s.buffer.latest, s.buffer.history ++ [record]⟩ :=
    s.buffer.append_history_eq_some_iff.2 ⟨hbound, rfl⟩
  simp only [Memory.step, happend, Redis.step, and_true]
  refine ⟨?_, h.latest, h.drained⟩
  rw [RedisTelemetryWriteBuffer.append_history_lists]
  exact List.rel_append h.history (.cons (stands_serialize_record hrecord) .nil)

theorem related_drain_history {s : Memory} {t : Redis} (h : Related b s t) (max_items : ℤ) :
    Related b (s.step b (.drain_history max_items)).1 (t.step b (.drain_history max_items)).1 ∧
      (s.step b (.drain_history max_items)).2 = (t.step b (.drain_history max_items)).2 := by
  by_cases hpos : 0 < max_items
  · obtain ⟨hread, hvalues, hlists⟩ :=
      RedisTelemetryWriteBuffer.drain_history_of_pos b.config t.client hpos
    obtain ⟨records', hrecords', hsame⟩ :=
      mapM_deserialize_record (List.forall₂_take max_items.toNat h.history)
    rw [hrecords'] at hread
    have hdrained : RedisTelemetryWriteBuffer.drain_history b.config t.client max_items =
        (.ok records', (RedisTelemetryWriteBuffer.drain_history b.config t.client
          max_items).2) := Prod.ext hread rfl
    simp only [Memory.step, Redis.step, s.buffer.drain_history_of_pos hpos]
    rw [hdrained]
    refine ⟨⟨?_, fun key => ?_, hsame⟩, congrArg Answer.drained (rows_of_same hsame).symm⟩
    · rw [hlists]
      exact List.forall₂_drop max_items.toNat h.history
    · rw [hvalues]
      exact h.latest key
  · have hle : max_items ≤ 0 := Int.not_lt.1 hpos
    simp only [Memory.step, Redis.step, InMemoryTelemetryWriteBuffer.drain_history,
      RedisTelemetryWriteBuffer.drain_history, if_pos hle, and_true]
    exact ⟨h.history, h.latest, .nil⟩

theorem related_latest_for {s : Memory} {t : Redis} (h : Related b s t) (key : String) :
    Related b (s.step b (.latest_for key)).1 (t.step b (.latest_for key)).1 ∧
      (s.step b (.latest_for key)).2 = (t.step b (.latest_for key)).2 := by
  have hkey := h.latest key
  simp only [Memory.step, Redis.step, InMemoryTelemetryWriteBuffer.latest_for,
    RedisTelemetryWriteBuffer.latest_for]
  generalize s.buffer.latest key = held at hkey ⊢
  generalize t.client.values (b.config.latest_key key) = text at hkey ⊢
  cases hkey with
  | none => exact ⟨h, rfl⟩
  | some hstands =>
      obtain ⟨r', hr', hsame⟩ := hstands
      simp only [hr', Except.map, Option.map_some]
      refine ⟨h, congrArg (fun rows => Answer.latest (some rows)) ?_⟩
      exact (rows_of_same (.cons hsame .nil)).symm

/-- One operation on good records keeps the buffers related and has one answer. -/
theorem step_related {s : Memory} {t : Redis} {op : Operation} (h : Related b s t)
    (hbound : BelowBound b s op) (hgood : ∀ r ∈ op.records, Good b r) :
    Related b (s.step b op).1 (t.step b op).1 ∧ (s.step b op).2 = (t.step b op).2 := by
  cases op with
  | append_history record =>
      exact related_append_history h (hgood record List.mem_cons_self) hbound
  | put_latest record =>
      exact ⟨related_put_latest h (hgood record List.mem_cons_self), rfl⟩
  | drain_history max_items => exact related_drain_history h max_items
  | restore_history_front records =>
      exact ⟨related_restore h (forall₂_serialize hgood), rfl⟩
  | restore_drained from_index =>
      exact ⟨related_restore h
        (forall₂_serialize_of_same (List.forall₂_drop from_index h.drained)), rfl⟩
  | latest_for key => exact related_latest_for h key

/-- What the two buffers answer when one record is appended and drained. -/
theorem traces_of_probe (b : Buffers) (r : TelemetryBufferRecord) :
    Machines.trace (Memory.step b) Memory.initial [.append_history r, .drain_history 1] =
        [(.append_history r, .done), (.drain_history 1, .drained (rows [r]))] ∧
      Machines.trace (Redis.step b) Redis.initial [.append_history r, .drain_history 1] =
        [(.append_history r, .done),
          (.drain_history 1, .drained (rows [r.reread b.codec]))] := by
  constructor
  · have happend : InMemoryTelemetryWriteBuffer.empty.append_history b.max_pending_history r =
        some ⟨InMemoryTelemetryWriteBuffer.empty.latest, [r]⟩ :=
      InMemoryTelemetryWriteBuffer.empty.append_history_eq_some_iff.2
        ⟨b.max_pending_history_pos, rfl⟩
    simp only [Machines.trace, Memory.step, Memory.initial, happend]
    rfl
  · let client := RedisTelemetryWriteBuffer.append_history b.config b.codec
      Redis.initial.client r
    have hlist : client.lists b.config.history_queue_key = [serialize_record b.codec r] :=
      RedisTelemetryWriteBuffer.append_history_lists b.config b.codec Redis.initial.client r
    have hread : (RedisTelemetryWriteBuffer.drain_history b.config client 1).1 =
        .ok [r.reread b.codec] := by
      rw [(RedisTelemetryWriteBuffer.drain_history_of_pos b.config client Int.one_pos).1, hlist]
      have hone : [serialize_record b.codec r].take (1 : ℤ).toNat =
          [serialize_record b.codec r] := rfl
      rw [hone, List.mapM_cons, deserialize_record_serialize_record]
      rfl
    have hdrained : RedisTelemetryWriteBuffer.drain_history b.config client 1 =
        (.ok [r.reread b.codec],
          (RedisTelemetryWriteBuffer.drain_history b.config client 1).2) := Prod.ext hread rfl
    simp only [Machines.trace, Redis.step]
    rw [hdrained]

theorem good_of_rows {r : TelemetryBufferRecord} (h : rows [r] = rows [r.reread b.codec]) :
    Good b r := by
  by_cases hkey : r.key = ""
  · exact .inl hkey
  · have hkey' : (r.reread b.codec).key ≠ "" := hkey
    rw [rows_of_keyed (List.forall_mem_singleton.2 hkey),
      rows_of_keyed (List.forall_mem_singleton.2 hkey')] at h
    have hlatest := (Prod.mk.inj (Except.ok.inj h)).1
    have hrow := (List.cons.inj hlatest).1
    have hcolumns : r.telemetry.fields = (r.telemetry.reread b.codec).fields :=
      congrArg LatestRow.columns hrow
    exact .inr ((TelemetryCreate.reread_fields_eq_iff b.codec r.telemetry).1 hcolumns.symm)

/-- All sequences of operations on the records of a set have the same rows from both buffers exactly
when each of these records sets every field and its floats survive, or has no key. -/
theorem agree_iff (b : Buffers) (S : Set TelemetryBufferRecord) :
    (∀ ops : List Operation, (∀ op ∈ ops, ∀ r ∈ op.records, r ∈ S) → Agree b ops) ↔
      ∀ r ∈ S, r.key = "" ∨ r.telemetry.Survives b.codec := by
  constructor
  · intro h r hr
    have hrecords : ∀ op ∈ [Operation.append_history r, .drain_history 1],
        ∀ r' ∈ op.records, r' ∈ S := by
      simp only [List.mem_cons, List.not_mem_nil, or_false, forall_eq_or_imp, forall_eq,
        Operation.records, false_implies, implies_true, and_true]
      exact hr
    have htrace := h _ hrecords ⟨b.max_pending_history_pos, trivial, trivial⟩
    rw [(traces_of_probe b r).1, (traces_of_probe b r).2] at htrace
    simp only [List.cons.injEq, Prod.mk.injEq, Answer.drained.injEq, true_and, and_true] at htrace
    exact good_of_rows htrace
  · intro h ops hops hbound
    have hgood : Machines.Along (Machines.pair (Memory.step b) (Redis.step b))
        (fun _ op => ∀ r ∈ op.records, Good b r) (Memory.initial, Redis.initial) ops :=
      Machines.along_of_forall (fun _ op hop r hr => h r (hops op hop r hr)) _
    have hstep : ∀ (s : Memory) (t : Redis) (op : Operation), Related b s t →
        (BelowBound b s op ∧ ∀ r ∈ op.records, Good b r) →
        Related b (s.step b op).1 (t.step b op).1 ∧ (s.step b op).2 = (t.step b op).2 :=
      fun s t op hrelated hC => step_related hrelated hC.1 hC.2
    exact Machines.trace_eq_of_simulation hstep (related_initial b)
      (Machines.along_and hbound hgood)

/-- A sample that sets its latitude only: Redis gives back its other fields as null. -/
theorem unset_fields_become_null :
    ¬∀ (b : Buffers) (ops : List Operation), Agree b ops := by
  intro h
  let b : Buffers := ⟨⟨"gcs-saker:telemetry-buffer"⟩, ⟨some, fun _ _ => rfl⟩, 10000, by decide⟩
  have htrace := h b [.append_history (.ofLatitude "front" 35.5), .drain_history 1]
    ⟨b.max_pending_history_pos, trivial, trivial⟩
  rw [(traces_of_probe b _).1, (traces_of_probe b _).2] at htrace
  simp only [List.cons.injEq, Prod.mk.injEq, Answer.drained.injEq, true_and, and_true] at htrace
  rcases good_of_rows htrace with hkey | hsurvives
  · revert hkey
    decide
  · obtain ⟨v, hv, -⟩ := hsurvives .altitude
    cases hv

end GcsSaker.RedisBufferEquivalence
