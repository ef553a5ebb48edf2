import GcsSaker.KeyedWrites
import GcsSaker.TelemetryRecord

/-!
# Upserts into the latest table

The bulk statements write every column of every row, what was not set as null; the row loop writes
the columns that were set, one record after the other. On PostgreSQL the two leave the same table
exactly for the batches of `BulkAgrees`.
-/

namespace GcsSaker.TelemetryUpsert

open TelemetryColumn (LATEST_ROW_COLUMNS)
open KeyedWrites (writeAll)
open TelemetryBufferRecord (ofLatitude)

/-- What the database takes: which keys, what a column stores of a value, and which history rows.
Every column but the key is nullable. -/
structure Engine where
  takesKey : String → Bool
  stored : TelemetryColumn → TelemetryValue → Option TelemetryValue
  stored_null : ∀ c, stored c .null = some .null
  takesHistory : HistoryRow → Bool

abbrev Row := TelemetryColumn → TelemetryValue

abbrev Table := String → Option Row

inductive StoreError where
  | valueError (message : String)
  | attributeError (name : String)
  | compileError
  | databaseError
  | runtimeError (message : String)
  deriving DecidableEq

/-- A row of `values`; a `uuid` that is missing or null is `none`. -/
structure InsertRow where
  uuid : Option String
  columns : TelemetryColumn → Option TelemetryValue

/-- An insert whose conflicts on `uuid` update the columns `update` from the proposed row. -/
structure Insert where
  rows : List InsertRow
  update : List TelemetryColumn

/-! ## Building the statements -/

/-- The attribute of the namespace `excluded`, which holds the columns under their keys. -/
def excluded (name : String) : Except StoreError TelemetryColumn :=
  match LATEST_ROW_COLUMNS.find? fun c => c.storageName = name with
  | some c => .ok c
  | none => .error (.attributeError name)

def LatestRow.toInsert (row : LatestRow) : InsertRow := ⟨some row.uuid, row.columns⟩

def build_latest_bulk_upsert (batch : List TelemetryBulkPayload) : Except StoreError Insert :=
  (LATEST_ROW_COLUMNS.mapM fun c => excluded c.storageName).map fun update =>
    ⟨(TelemetryBulkBatch.latest_rows batch).map LatestRow.toInsert, update⟩

/-- `_build_postgres_telemetry_upsert` of `model_dump(exclude_unset=True)`. -/
def _build_postgres_telemetry_upsert (telemetry : TelemetryCreate) : Except StoreError Insert :=
  ((LATEST_ROW_COLUMNS.filter telemetry.isSet).mapM fun c => excluded c.attributeName).bind
    fun update =>
      if update.isEmpty then
        .error (.valueError "set parameter dictionary must not be empty")
      else .ok ⟨[⟨telemetry.uuid.join, telemetry.fields⟩], update⟩

theorem excluded_storageName (c : TelemetryColumn) : excluded c.storageName = .ok c := by
  cases c <;> rfl

theorem excluded_attributeName_eq_ok_iff {c d : TelemetryColumn} :
    excluded c.attributeName = .ok d ↔ c.attributeName = c.storageName ∧ d = c := by
  have hname : excluded c.attributeName = .ok c ∧ c.attributeName = c.storageName ∨
      excluded c.attributeName = .error (.attributeError c.attributeName) ∧
        c.attributeName ≠ c.storageName := by
    cases c <;> first | exact .inl ⟨rfl, rfl⟩ | exact .inr ⟨rfl, by decide⟩
  rcases hname with ⟨hok, hn⟩ | ⟨herror, hn⟩
  · rw [hok, Except.ok.injEq]
    exact ⟨fun h => ⟨hn, h.symm⟩, fun h => h.2.symm⟩
  · rw [herror]
    exact ⟨fun h => (nomatch h), fun h => absurd h.1 hn⟩

theorem build_latest_bulk_upsert_eq (batch : List TelemetryBulkPayload) :
    build_latest_bulk_upsert batch =
      .ok ⟨(TelemetryBulkBatch.latest_rows batch).map LatestRow.toInsert, LATEST_ROW_COLUMNS⟩ := by
  have hname : ∀ c d : TelemetryColumn, excluded c.storageName = .ok d ↔ True ∧ d = id c := by
    intro c d
    rw [excluded_storageName, Except.ok.injEq, true_and, id_eq, eq_comm]
  rw [build_latest_bulk_upsert,
    (CheckedSteps.mapM_eq_ok_iff hname).2 ⟨fun c _ => trivial, (List.map_id _).symm⟩]
  rfl

theorem mem_setColumns (telemetry : TelemetryCreate) (c : TelemetryColumn) :
    c ∈ LATEST_ROW_COLUMNS.filter telemetry.isSet ↔ telemetry.isSet c := by
  rw [List.mem_filter, decide_eq_true_iff]
  exact ⟨And.right, fun h => ⟨TelemetryColumn.mem_LATEST_ROW_COLUMNS c, h⟩⟩

/-- The statement of one record can be built when some field is set, and each that is set has the
name of its column. -/
theorem build_postgres_telemetry_upsert_eq_ok_iff {telemetry : TelemetryCreate} {ins : Insert} :
    _build_postgres_telemetry_upsert telemetry = .ok ins ↔
      (∃ c, telemetry.isSet c) ∧ (∀ c, telemetry.isSet c → c.attributeName = c.storageName) ∧
        ins = ⟨[⟨telemetry.uuid.join, telemetry.fields⟩],
          LATEST_ROW_COLUMNS.filter telemetry.isSet⟩ := by
  have hmem := mem_setColumns telemetry
  have hempty : (LATEST_ROW_COLUMNS.filter telemetry.isSet).isEmpty = true ↔
      ¬∃ c, telemetry.isSet c := by
    rw [List.isEmpty_iff, List.eq_nil_iff_forall_not_mem]
    simp only [hmem, not_exists]
  have hname : ∀ c d : TelemetryColumn, excluded c.attributeName = .ok d ↔
      c.attributeName = c.storageName ∧ d = id c := fun c d => excluded_attributeName_eq_ok_iff
  rw [_build_postgres_telemetry_upsert]
  constructor
  · intro h
    obtain ⟨update, hm, hins⟩ := CheckedSteps.bind_eq_ok_iff.1 h
    obtain ⟨hnamed, rfl⟩ := (CheckedSteps.mapM_eq_ok_iff hname).1 hm
    rw [List.map_id] at hins
    split_ifs at hins with he
    refine ⟨not_not.1 fun hn => he (hempty.2 hn), fun c hc => hnamed c ((hmem c).2 hc), ?_⟩
    exact (Except.ok.inj hins).symm
  · rintro ⟨hset, hnamed, rfl⟩
    refine CheckedSteps.bind_eq_ok_iff.2 ⟨_, (CheckedSteps.mapM_eq_ok_iff hname).2
      ⟨fun c hc => hnamed c ((hmem c).1 hc), (List.map_id _).symm⟩, ?_⟩
    exact if_neg fun he => hempty.1 he hset

/-! ## Executing them -/

/-- The rows of one `values` have the columns of its first row. -/
def SameColumns : List InsertRow → Prop
  | [] => True
  | first :: rest => ∀ row ∈ rest, ∀ c, (row.columns c).isSome = (first.columns c).isSome

instance : DecidablePred SameColumns
  | [] => inferInstanceAs (Decidable True)
  | _ :: _ => inferInstanceAs (Decidable (∀ _ ∈ _, _))

namespace Engine

variable (db : Engine)

/-- The columns of a row that is about to be stored are all taken. -/
def TakesColumns (columns : TelemetryColumn → Option TelemetryValue) : Prop :=
  ∀ c, ∀ v ∈ columns c, (db.stored c v).isSome = true

instance (columns : TelemetryColumn → Option TelemetryValue) :
    Decidable (db.TakesColumns columns) :=
  inferInstanceAs (Decidable (∀ _, _))

def Takes (row : InsertRow) : Prop :=
  row.uuid.any db.takesKey = true ∧ db.TakesColumns row.columns

instance (row : InsertRow) : Decidable (db.Takes row) := inferInstanceAs (Decidable (_ ∧ _))

/-- The proposed row: null in the columns that the statement does not name. -/
def proposed (row : InsertRow) : Row := fun c => ((row.columns c).bind (db.stored c)).getD .null

/-- What a row of the statement leaves, given the row that is there. -/
def conflict (update : List TelemetryColumn) (row : InsertRow) : Option Row → Row
  | none => db.proposed row
  | some old => fun c => if c ∈ update then db.proposed row c else old c

def keyOf (row : InsertRow) : String := row.uuid.getD ""

/-- `INSERT ... ON CONFLICT (uuid) DO UPDATE`. Without rows SQLAlchemy sends an insert of default
values, which has no key; a statement may not meet one key twice. -/
def execute_postgres (t : Table) (ins : Insert) : Except StoreError Table :=
  if ins.rows.isEmpty then .error .databaseError
  else if ¬SameColumns ins.rows then .error .compileError
  else if ¬∀ row ∈ ins.rows, db.Takes row then .error .databaseError
  else if ¬(ins.rows.map keyOf).Nodup then .error .databaseError
  else .ok (writeAll keyOf (db.conflict ins.update) t ins.rows)

/-- `INSERT ... ON DUPLICATE KEY UPDATE`, which applies its rows in order. -/
def execute_mysql (t : Table) (ins : Insert) : Except StoreError Table :=
  if ins.rows.isEmpty then .error .databaseError
  else if ¬SameColumns ins.rows then .error .compileError
  else if ¬∀ row ∈ ins.rows, db.Takes row then .error .databaseError
  else .ok (writeAll keyOf (db.conflict ins.update) t ins.rows)

/-- `TelemetryRepository._upsert_postgres`. -/
def _upsert_postgres (t : Table) (telemetry : TelemetryCreate) : Except StoreError Table :=
  (_build_postgres_telemetry_upsert telemetry).bind fun ins =>
    (db.execute_postgres t ins).bind fun t' =>
      match t' (telemetry.uuid.join.getD "") with
      | some _ => .ok t'
      | none => .error (.runtimeError "telemetry upsert did not return a row")

/-- `TelemetryRepository._upsert_orm`: the set attributes of the row that is found, else a row with
all of them. -/
def _upsert_orm (t : Table) (telemetry : TelemetryCreate) : Except StoreError Table :=
  let row : InsertRow := ⟨telemetry.uuid.join, telemetry.fields⟩
  if db.Takes row then
    .ok (KeyedWrites.write keyOf (db.conflict (LATEST_ROW_COLUMNS.filter telemetry.isSet)) t row)
  else .error .databaseError

@[simp] theorem conflict_all (row : InsertRow) (old : Option Row) :
    db.conflict LATEST_ROW_COLUMNS row old = db.proposed row := by
  cases old with
  | none => rfl
  | some old =>
      funext c
      exact if_pos (TelemetryColumn.mem_LATEST_ROW_COLUMNS c)

theorem proposed_of_not_isSet {uuid : Option String} {telemetry : TelemetryCreate}
    {c : TelemetryColumn} (hc : ¬telemetry.isSet c) :
    db.proposed ⟨uuid, telemetry.fields⟩ c = .null := by
  have hnone : telemetry.fields c = none := TelemetryCreate.not_isSet_iff.1 hc
  simp only [proposed, hnone, Option.bind_none, Option.getD_none]

/-- Updating the set columns gives the proposed row when the others were null. -/
theorem conflict_set_eq_proposed_iff {uuid : Option String} {telemetry : TelemetryCreate}
    {old : Option Row} :
    db.conflict (LATEST_ROW_COLUMNS.filter telemetry.isSet) ⟨uuid, telemetry.fields⟩ old =
        db.proposed ⟨uuid, telemetry.fields⟩ ↔
      ∀ row, old = some row → ∀ c, ¬telemetry.isSet c → row c = .null := by
  have hmem := mem_setColumns telemetry
  cases old with
  | none => simp only [conflict, reduceCtorEq, false_implies, implies_true]
  | some row =>
      simp only [conflict, hmem, Option.some.injEq, forall_eq']
      constructor
      · intro h c hc
        have hcol := congrFun h c
        rwa [if_neg hc, db.proposed_of_not_isSet hc] at hcol
      · intro h
        funext c
        by_cases hc : telemetry.isSet c
        · rw [if_pos hc]
        · rw [if_neg hc, h c hc, db.proposed_of_not_isSet hc]

/-- `upsert_telemetry` on PostgreSQL stores the telemetry by itself. -/
structure Upsertable (telemetry : TelemetryCreate) : Prop where
  some_field : ∃ c, telemetry.isSet c
  named : ∀ c, telemetry.isSet c → c.attributeName = c.storageName
  taken : db.Takes ⟨telemetry.uuid.join, telemetry.fields⟩

theorem execute_mysql_eq_ok_iff {t t' : Table} {ins : Insert} :
    db.execute_mysql t ins = .ok t' ↔
      ins.rows ≠ [] ∧ SameColumns ins.rows ∧ (∀ row ∈ ins.rows, db.Takes row) ∧
        t' = writeAll keyOf (db.conflict ins.update) t ins.rows := by
  unfold execute_mysql
  by_cases h0 : ins.rows = []
  · rw [if_pos (List.isEmpty_iff.2 h0)]
    simp only [reduceCtorEq, h0, ne_eq, not_true_eq_false, false_and]
  rw [if_neg fun h => h0 (List.isEmpty_iff.1 h)]
  by_cases h1 : SameColumns ins.rows
  swap
  · rw [if_pos h1]
    simp only [reduceCtorEq, h1, false_and, and_false]
  rw [if_neg (not_not.2 h1)]
  by_cases h2 : ∀ row ∈ ins.rows, db.Takes row
  · rw [if_neg (not_not.2 h2), Except.ok.injEq]
    exact ⟨fun h => ⟨h0, h1, h2, h.symm⟩, fun h => h.2.2.2.symm⟩
  · rw [if_pos h2]
    simp only [reduceCtorEq, h2, false_and, and_false]

/-- On PostgreSQL the rows of a statement must also have distinct keys. -/
theorem execute_postgres_eq (t : Table) (ins : Insert) :
    db.execute_postgres t ins = (db.execute_mysql t ins).bind fun t' =>
      if (ins.rows.map keyOf).Nodup then .ok t' else .error .databaseError := by
  unfold execute_postgres execute_mysql
  split_ifs <;> rfl

theorem execute_postgres_eq_ok_iff {t t' : Table} {ins : Insert} :
    db.execute_postgres t ins = .ok t' ↔
      ins.rows ≠ [] ∧ SameColumns ins.rows ∧ (∀ row ∈ ins.rows, db.Takes row) ∧
        (ins.rows.map keyOf).Nodup ∧
        t' = writeAll keyOf (db.conflict ins.update) t ins.rows := by
  rw [execute_postgres_eq]
  constructor
  · intro h
    obtain ⟨t₁, hm, hkeys⟩ := CheckedSteps.bind_eq_ok_iff.1 h
    obtain ⟨h0, h1, h2, rfl⟩ := db.execute_mysql_eq_ok_iff.1 hm
    split_ifs at hkeys with h3
    exact ⟨h0, h1, h2, h3, (Except.ok.inj hkeys).symm⟩
  · rintro ⟨h0, h1, h2, h3, rfl⟩
    exact CheckedSteps.bind_eq_ok_iff.2
      ⟨_, db.execute_mysql_eq_ok_iff.2 ⟨h0, h1, h2, rfl⟩, if_pos h3⟩

theorem upsert_postgres_eq_ok_iff {t t' : Table} {telemetry : TelemetryCreate} :
    db._upsert_postgres t telemetry = .ok t' ↔
      db.Upsertable telemetry ∧
        t' = KeyedWrites.write keyOf (db.conflict (LATEST_ROW_COLUMNS.filter telemetry.isSet)) t
          ⟨telemetry.uuid.join, telemetry.fields⟩ := by
  constructor
  · intro h
    obtain ⟨ins, hb, hexecuted⟩ := CheckedSteps.bind_eq_ok_iff.1 h
    obtain ⟨hset, hnamed, rfl⟩ := build_postgres_telemetry_upsert_eq_ok_iff.1 hb
    obtain ⟨t₁, he, hreturned⟩ := CheckedSteps.bind_eq_ok_iff.1 hexecuted
    obtain ⟨-, -, htaken, -, rfl⟩ := db.execute_postgres_eq_ok_iff.1 he
    refine ⟨⟨hset, hnamed, htaken _ List.mem_cons_self⟩, ?_⟩
    split at hreturned
    · exact (Except.ok.inj hreturned).symm
    · simp only [reduceCtorEq] at hreturned
  · rintro ⟨⟨hset, hnamed, htaken⟩, rfl⟩
    have he := (@execute_postgres_eq_ok_iff db t _ ⟨[⟨telemetry.uuid.join, telemetry.fields⟩],
        LATEST_ROW_COLUMNS.filter telemetry.isSet⟩).2
      ⟨List.cons_ne_nil _ _, fun row hrow => (List.not_mem_nil hrow).elim,
        List.forall_mem_singleton.2 htaken, List.nodup_singleton _, rfl⟩
    rw [_upsert_postgres, build_postgres_telemetry_upsert_eq_ok_iff.2 ⟨hset, hnamed, rfl⟩]
    simp only [Except.bind, he]
    rw [KeyedWrites.writeAll_cons, KeyedWrites.writeAll_nil,
      show telemetry.uuid.join.getD "" = keyOf ⟨telemetry.uuid.join, telemetry.fields⟩ from rfl,
      KeyedWrites.write_at]

/-- The bulk statement for a list of records. -/
def bulk_upsert (records : List TelemetryBufferRecord) (t : Table) : Except StoreError Table :=
  match TelemetryBulkBatch.from_records records with
  | .error message => .error (.valueError message)
  | .ok batch => (build_latest_bulk_upsert batch).bind (db.execute_postgres t)

/-- The bulk statement for MySQL and MariaDB. -/
def mysql_bulk_upsert (records : List TelemetryBufferRecord) (t : Table) :
    Except StoreError Table :=
  match TelemetryBulkBatch.from_records records with
  | .error message => .error (.valueError message)
  | .ok batch => (build_latest_bulk_upsert batch).bind (db.execute_mysql t)

/-- `upsert` on PostgreSQL of one record after the other. -/
def row_loop (records : List TelemetryBufferRecord) (t : Table) : Except StoreError Table :=
  records.foldlM (fun t record => db._upsert_postgres t record.telemetry) t

/-! ## The bulk statement against the row loop -/

/-- The row of a buffered record in a statement. -/
def insertRow (record : TelemetryBufferRecord) : InsertRow :=
  ⟨some record.key, record.telemetry.fields⟩

theorem insertRow_of_isCreated {r : TelemetryBufferRecord} (hr : r.IsCreated) (hkey : r.key ≠ "") :
    (⟨r.telemetry.uuid.join, r.telemetry.fields⟩ : InsertRow) = insertRow r := by
  rw [TelemetryBufferRecord.isCreated_iff] at hr
  cases hu : r.telemetry.uuid.join with
  | none =>
      rw [hu, Option.getD_none] at hr
      exact absurd hr hkey
  | some uuid =>
      rw [hu, Option.getD_some] at hr
      rw [insertRow, hr]

/-- All records set the same fields. -/
def SameFields (records : List TelemetryBufferRecord) : Prop :=
  ∀ r ∈ records, ∀ r' ∈ records, ∀ c, r.telemetry.isSet c ↔ r'.telemetry.isSet c

theorem sameColumns_map_insertRow {records : List TelemetryBufferRecord} :
    SameColumns (records.map insertRow) ↔ SameFields records := by
  cases records with
  | nil => simp only [List.map_nil, SameColumns, SameFields, List.not_mem_nil, false_implies,
      implies_true]
  | cons first rest =>
      have hsame : ∀ r : TelemetryBufferRecord, ∀ c,
          (((insertRow r).columns c).isSome = ((insertRow first).columns c).isSome) ↔
            (r.telemetry.isSet c ↔ first.telemetry.isSet c) := by
        intro r c
        exact Bool.eq_iff_iff
      simp only [List.map_cons, SameColumns, List.forall_mem_map, hsame]
      constructor
      · intro h
        have hfirst : ∀ r ∈ first :: rest, ∀ c,
            r.telemetry.isSet c ↔ first.telemetry.isSet c := by
          intro r hr c
          rcases List.mem_cons.1 hr with rfl | hr
          · exact Iff.rfl
          · exact h r hr c
        intro r hr r' hr' c
        exact (hfirst r hr c).trans (hfirst r' hr' c).symm
      · intro h r hr c
        exact h r (List.mem_cons_of_mem first hr) first List.mem_cons_self c

/-- What a bulk statement needs of its records. -/
structure RowsTake (records : List TelemetryBufferRecord) : Prop where
  nonempty : records ≠ []
  keyed : ∀ r ∈ records, r.key ≠ ""
  same_fields : SameFields records
  taken : ∀ r ∈ records, db.Takes (insertRow r)

/-- What it needs of them on PostgreSQL. -/
structure BulkTakes (records : List TelemetryBufferRecord) : Prop extends RowsTake db records where
  distinct : (records.map TelemetryBufferRecord.key).Nodup

instance (records : List TelemetryBufferRecord) : Decidable (SameFields records) :=
  inferInstanceAs (Decidable (∀ _ ∈ _, ∀ _ ∈ _, ∀ _, _))

instance (records : List TelemetryBufferRecord) : Decidable (db.RowsTake records) :=
  decidable_of_iff (records.isEmpty = false ∧ (∀ r ∈ records, r.key ≠ "") ∧ SameFields records ∧
      ∀ r ∈ records, db.Takes (insertRow r))
    ⟨fun ⟨hne, hkeyed, hsame, htaken⟩ => ⟨List.isEmpty_eq_false_iff.1 hne, hkeyed, hsame, htaken⟩,
      fun h => ⟨List.isEmpty_eq_false_iff.2 h.nonempty, h.keyed, h.same_fields, h.taken⟩⟩

instance (records : List TelemetryBufferRecord) : Decidable (db.BulkTakes records) :=
  decidable_of_iff (db.RowsTake records ∧ (records.map TelemetryBufferRecord.key).Nodup)
    ⟨fun ⟨hrows, hdistinct⟩ => ⟨hrows, hdistinct⟩, fun h => ⟨h.toRowsTake, h.distinct⟩⟩

theorem rows_of_records (records : List TelemetryBufferRecord) :
    (TelemetryBulkBatch.latest_rows (records.map TelemetryBulkPayload.ofRecord)).map
      LatestRow.toInsert = records.map insertRow := by
  rw [TelemetryBulkBatch.latest_rows, List.map_map, List.map_map]
  rfl

theorem keys_of_records (records : List TelemetryBufferRecord) :
    (records.map insertRow).map keyOf = records.map TelemetryBufferRecord.key := by
  rw [List.map_map]
  rfl

theorem writeAll_of_records (t : Table) (records : List TelemetryBufferRecord) :
    writeAll keyOf (db.conflict LATEST_ROW_COLUMNS) t (records.map insertRow) =
      writeAll TelemetryBufferRecord.key (fun r _ => db.proposed (insertRow r)) t records := by
  rw [KeyedWrites.writeAll_map]
  congr 1
  funext r old
  exact db.conflict_all _ old

/-- A bulk statement of records without a key is not built. -/
theorem from_records_ne_error {records : List TelemetryBufferRecord} {message : String}
    (h : TelemetryBulkBatch.from_records records = .error message) :
    ¬∀ r ∈ records, r.key ≠ "" :=
  CheckedSteps.not_of_eq_error h fun hkeyed =>
    ⟨_, TelemetryBulkBatch.from_records_eq_ok_iff.2 ⟨hkeyed, rfl⟩⟩

theorem mysql_bulk_upsert_eq_ok_iff {records : List TelemetryBufferRecord} {t t' : Table} :
    db.mysql_bulk_upsert records t = .ok t' ↔
      db.RowsTake records ∧
        t' = writeAll TelemetryBufferRecord.key (fun r _ => db.proposed (insertRow r)) t
          records := by
  cases hb : TelemetryBulkBatch.from_records records with
  | error message =>
      simp only [mysql_bulk_upsert, hb, reduceCtorEq, false_iff]
      exact fun h => from_records_ne_error hb h.1.keyed
  | ok batch =>
      obtain ⟨hkeyed, rfl⟩ := TelemetryBulkBatch.from_records_eq_ok_iff.1 hb
      simp only [mysql_bulk_upsert, hb, build_latest_bulk_upsert_eq, Except.bind]
      rw [execute_mysql_eq_ok_iff]
      simp only [rows_of_records, writeAll_of_records, sameColumns_map_insertRow,
        List.forall_mem_map, ne_eq, List.map_eq_nil_iff]
      constructor
      · rintro ⟨hne, hsame, htaken, ht'⟩
        exact ⟨⟨hne, hkeyed, hsame, htaken⟩, ht'⟩
      · rintro ⟨⟨hne, -, hsame, htaken⟩, ht'⟩
        exact ⟨hne, hsame, htaken, ht'⟩

/-- The bulk statement on PostgreSQL is the one on MySQL with a check of the keys after it. -/
theorem bulk_upsert_eq (records : List TelemetryBufferRecord) (t : Table) :
    db.bulk_upsert records t = (db.mysql_bulk_upsert records t).bind fun t' =>
      if (records.map TelemetryBufferRecord.key).Nodup then .ok t' else .error .databaseError := by
  cases hb : TelemetryBulkBatch.from_records records with
  | error message =>
      rw [bulk_upsert, mysql_bulk_upsert, hb]
      rfl
  | ok batch =>
      obtain ⟨-, rfl⟩ := TelemetryBulkBatch.from_records_eq_ok_iff.1 hb
      simp only [bulk_upsert, mysql_bulk_upsert, hb, build_latest_bulk_upsert_eq]
      refine (db.execute_postgres_eq t _).trans ?_
      rw [rows_of_records, keys_of_records]
      rfl

theorem bulk_upsert_eq_ok_iff {records : List TelemetryBufferRecord} {t t' : Table} :
    db.bulk_upsert records t = .ok t' ↔
      db.BulkTakes records ∧
        t' = writeAll TelemetryBufferRecord.key (fun r _ => db.proposed (insertRow r)) t
          records := by
  rw [bulk_upsert_eq]
  constructor
  · intro h
    obtain ⟨t₁, hrows, hkeys⟩ := CheckedSteps.bind_eq_ok_iff.1 h
    obtain ⟨htakes, rfl⟩ := db.mysql_bulk_upsert_eq_ok_iff.1 hrows
    split_ifs at hkeys with hdistinct
    exact ⟨⟨htakes, hdistinct⟩, (Except.ok.inj hkeys).symm⟩
  · rintro ⟨⟨htakes, hdistinct⟩, rfl⟩
    exact CheckedSteps.bind_eq_ok_iff.2
      ⟨_, db.mysql_bulk_upsert_eq_ok_iff.2 ⟨htakes, rfl⟩, if_pos hdistinct⟩

theorem row_loop_eq_ok_iff {records : List TelemetryBufferRecord} {t t' : Table}
    (hcreated : ∀ r ∈ records, r.IsCreated) (hkeys : ∀ r ∈ records, r.key ≠ "") :
    db.row_loop records t = .ok t' ↔
      (∀ r ∈ records, db.Upsertable r.telemetry) ∧
        t' = writeAll TelemetryBufferRecord.key (fun r =>
          db.conflict (LATEST_ROW_COLUMNS.filter r.telemetry.isSet) (insertRow r)) t records := by
  have hfold : records.foldl (fun t r => KeyedWrites.write keyOf
        (db.conflict (LATEST_ROW_COLUMNS.filter r.telemetry.isSet)) t
        ⟨r.telemetry.uuid.join, r.telemetry.fields⟩) t =
      writeAll TelemetryBufferRecord.key (fun r =>
        db.conflict (LATEST_ROW_COLUMNS.filter r.telemetry.isSet) (insertRow r)) t records := by
    apply List.foldl_ext
    intro t r hr
    rw [insertRow_of_isCreated (hcreated r hr) (hkeys r hr)]
    rfl
  have hstep : ∀ (t : Table) (r : TelemetryBufferRecord) (t' : Table),
      db._upsert_postgres t r.telemetry = .ok t' ↔
        db.Upsertable r.telemetry ∧ t' = KeyedWrites.write keyOf
          (db.conflict (LATEST_ROW_COLUMNS.filter r.telemetry.isSet)) t
          ⟨r.telemetry.uuid.join, r.telemetry.fields⟩ :=
    fun t r t' => db.upsert_postgres_eq_ok_iff
  rw [row_loop, ← hfold]
  exact CheckedSteps.foldlM_eq_ok_iff hstep

/-- Both ways succeed, and leave the same table. -/
def Refines (records : List TelemetryBufferRecord) (t : Table) : Prop :=
  ∃ t', db.bulk_upsert records t = .ok t' ∧ db.row_loop records t = .ok t'

/-- The batches for which they do. -/
structure BulkAgrees (records : List TelemetryBufferRecord) (t : Table) : Prop where
  nonempty : records ≠ []
  distinct : (records.map TelemetryBufferRecord.key).Nodup
  same_fields : SameFields records
  some_field : ∀ r ∈ records, ∃ c, r.telemetry.isSet c
  named : ∀ r ∈ records, ∀ c, r.telemetry.isSet c → c.attributeName = c.storageName
  taken : ∀ r ∈ records, db.Takes (insertRow r)
  untouched : ∀ r ∈ records, ∀ row, t r.key = some row →
    ∀ c, ¬r.telemetry.isSet c → row c = .null

/-- The bulk statement and the row loop both succeed and leave the same table exactly when the
batch is not empty, no `uuid` is repeated, all records set the same fields and at least one, each
set field bears the name of its column, the database takes every value, and the rows that are
there already have null wherever a record leaves its field unset. -/
theorem refines_iff {records : List TelemetryBufferRecord} {t : Table}
    (hcreated : ∀ r ∈ records, r.IsCreated) (hkeys : ∀ r ∈ records, r.key ≠ "") :
    db.Refines records t ↔ db.BulkAgrees records t := by
  have hagree : (records.map TelemetryBufferRecord.key).Nodup →
      (writeAll TelemetryBufferRecord.key (fun r =>
          db.conflict (LATEST_ROW_COLUMNS.filter r.telemetry.isSet) (insertRow r)) t records =
        writeAll TelemetryBufferRecord.key (fun r _ => db.proposed (insertRow r)) t records ↔
      ∀ r ∈ records, ∀ row, t r.key = some row → ∀ c, ¬r.telemetry.isSet c → row c = .null) := by
    intro hn
    rw [KeyedWrites.writeAll_congr _ _ _ _ hn]
    exact forall₂_congr fun r _ => db.conflict_set_eq_proposed_iff
  constructor
  · rintro ⟨t', hbulk, hloop⟩
    obtain ⟨htakes, rfl⟩ := db.bulk_upsert_eq_ok_iff.1 hbulk
    obtain ⟨hups, heq⟩ := (db.row_loop_eq_ok_iff hcreated hkeys).1 hloop
    exact ⟨htakes.nonempty, htakes.distinct, htakes.same_fields, fun r hr => (hups r hr).some_field,
      fun r hr => (hups r hr).named, htakes.taken, (hagree htakes.distinct).1 heq.symm⟩
  · intro h
    refine ⟨_, db.bulk_upsert_eq_ok_iff.2
      ⟨⟨⟨h.nonempty, hkeys, h.same_fields, h.taken⟩, h.distinct⟩, rfl⟩,
      (db.row_loop_eq_ok_iff hcreated hkeys).2 ⟨fun r hr => ?_, ?_⟩⟩
    · refine ⟨h.some_field r hr, h.named r hr, ?_⟩
      rw [insertRow_of_isCreated (hcreated r hr) (hkeys r hr)]
      exact h.taken r hr
    · exact ((hagree h.distinct).2 h.untouched).symm

/-- A database that takes every key and every number. -/
def numbers : Engine where
  takesKey _ := true
  stored
    | _, .null => some .null
    | _, .number x => some (.number x)
    | _, .integer n => some (.number (Float.ofInt n))
    | _, .text _ => none
  stored_null _ := rfl
  takesHistory _ := true

theorem refines_two_devices :
    numbers.Refines [ofLatitude "front" 35.5, ofLatitude "rear" 36.5] fun _ => none := by
  have hmem : ∀ r ∈ [ofLatitude "front" 35.5, ofLatitude "rear" 36.5],
      ∃ uuid x, r = ofLatitude uuid x ∧ uuid ≠ "" := by
    simp only [List.mem_cons, List.not_mem_nil, or_false]
    rintro r (rfl | rfl)
    · exact ⟨_, _, rfl, by decide⟩
    · exact ⟨_, _, rfl, by decide⟩
  have hset : ∀ uuid x c, (ofLatitude uuid x).telemetry.isSet c ↔ c = .latitude := by
    intro uuid x c
    cases c <;> simp [ofLatitude, TelemetryBufferRecord.create, TelemetryCreate.isSet,
      TelemetryCreate.set, TelemetryCreate.blank, Function.update]
  refine (numbers.refines_iff (fun r hr => ?_) (fun r hr => ?_)).2
    ⟨List.cons_ne_nil _ _, by decide, ?_, ?_, ?_, by decide, ?_⟩
  · obtain ⟨uuid, x, rfl, -⟩ := hmem r hr
    rfl
  · obtain ⟨uuid, x, rfl, hne⟩ := hmem r hr
    exact hne
  · intro r hr r' hr' c
    obtain ⟨uuid, x, rfl, -⟩ := hmem r hr
    obtain ⟨uuid', x', rfl, -⟩ := hmem r' hr'
    rw [hset, hset]
  · intro r hr
    obtain ⟨uuid, x, rfl, -⟩ := hmem r hr
    exact ⟨.latitude, (hset uuid x .latitude).2 rfl⟩
  · intro r hr c hc
    obtain ⟨uuid, x, rfl, -⟩ := hmem r hr
    rw [(hset uuid x c).1 hc]
    rfl
  · intro r hr row hrow
    cases hrow

/-- Two samples of one device: the bulk statement fails. -/
theorem bulk_repeated_device :
    ¬∀ (db : Engine) (records : List TelemetryBufferRecord) (t : Table),
      (∀ r ∈ records, r.IsCreated) → (∀ r ∈ records, r.key ≠ "") → db.Refines records t := by
  intro h
  have hr := h numbers [ofLatitude "front" 35.5, ofLatitude "front" 36.5] (fun _ => none)
    (List.forall_mem_cons.2 ⟨rfl, List.forall_mem_singleton.2 rfl⟩) (by decide)
  obtain ⟨t', hbulk, -⟩ := hr
  have hdistinct := (numbers.bulk_upsert_eq_ok_iff.1 hbulk).1.distinct
  revert hdistinct
  decide

end Engine

end GcsSaker.TelemetryUpsert
