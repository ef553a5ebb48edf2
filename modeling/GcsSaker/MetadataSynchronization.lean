import GcsSaker.DeviceMetadata

/-!
# Synchronizing the metadata of a device

The batches of `DeviceMetadataDelta.between` leave the desired rows of a device and the rows of all
other devices, write no row that is as desired and insert none whose key is there. What they do is
known exactly also where a column clips a text.
-/

namespace GcsSaker.Devices

open PostgresColumns (Fits varchar varchar_eq_some_iff textParameter clipped clipped_of_le)

/-! ## The difference -/

section Difference

variable {τ : Type} [DecidableEq τ] {kind : MetadataKind τ} {deviceUuid : String} {now : ℤ}
variable {table table' : List MetadataRow} {current desired : List τ}
variable {delta : DeviceMetadataDelta τ}

/-- Distinct keys, and identities that came in as texts. -/
structure StoredRows (table : List MetadataRow) : Prop where
  unique : (table.map MetadataRow.key).Nodup
  texts : ∀ row ∈ table, textParameter row.identity = some row.identity

/-- The difference of two readings of the device, by membership. -/
structure DeviceMetadataDelta.IsBetween (delta : DeviceMetadataDelta τ) (kind : MetadataKind τ)
    (current desired : List τ) : Prop where
  desiredUnique : (desired.map kind.identity).Nodup
  insertedUnique : (delta.inserted.map kind.identity).Nodup
  updatedUnique : (delta.updated.map kind.identity).Nodup
  mem_removed : ∀ i, i ∈ delta.removed ↔
    i ∈ current.map kind.identity ∧ i ∉ desired.map kind.identity
  mem_inserted : ∀ x, x ∈ delta.inserted ↔ x ∈ desired ∧ kind.identity x ∉ current.map kind.identity
  mem_updated : ∀ x, x ∈ delta.updated ↔
    x ∈ desired ∧ kind.identity x ∈ current.map kind.identity ∧ x ∉ current

theorem between_eq_ok_iff {identity : τ → String} :
    (∃ delta, DeviceMetadataDelta.between identity current desired = .ok delta) ↔
      (desired.map identity).Nodup := by
  unfold DeviceMetadataDelta.between
  split_ifs with hdesired
  · exact iff_of_true ⟨_, rfl⟩ hdesired
  · refine iff_of_false (fun h => ?_) hdesired
    obtain ⟨delta, h⟩ := h
    cases h

theorem isBetween_of_between (hcurrent : (current.map kind.identity).Nodup)
    (h : DeviceMetadataDelta.between kind.identity current desired = .ok delta) :
    delta.IsBetween kind current desired := by
  unfold DeviceMetadataDelta.between at h
  split_ifs at h with hdesired
  cases h
  have hsorted {rows : List τ} : (DeviceMetadataDelta.sortedBy kind.identity rows).Perm rows :=
    sortedBy_perm kind.identity rows
  constructor
  · exact hdesired
  · exact (hsorted.map _).nodup_iff.2 (hdesired.sublist (List.filter_sublist.map _))
  · exact (hsorted.map _).nodup_iff.2 (hdesired.sublist (List.filter_sublist.map _))
  · intro i
    rw [(hsorted.map _).mem_iff, KeyedDelta.removed, List.mem_map, List.mem_map]
    constructor
    · rintro ⟨x, hx, rfl⟩
      rw [List.mem_filter, decide_eq_true_iff] at hx
      exact ⟨⟨x, hx.1, rfl⟩, hx.2⟩
    · rintro ⟨⟨x, hx, rfl⟩, hnot⟩
      exact ⟨x, List.mem_filter.2 ⟨hx, decide_eq_true hnot⟩, rfl⟩
  · intro x
    rw [hsorted.mem_iff, KeyedDelta.inserted, List.mem_filter, decide_eq_true_iff]
  · intro x
    rw [hsorted.mem_iff, KeyedDelta.mem_updated hcurrent]

/-- The rows after the deletions and the insertions. -/
def grown (kind : MetadataKind τ) (deviceUuid : String) (now : ℤ) (table : List MetadataRow)
    (delta : DeviceMetadataDelta τ) : List MetadataRow :=
  kept deviceUuid delta.removed table ++ delta.inserted.map (insertedRow kind deviceUuid now)

/-- The rows after the three batches. -/
def applied (kind : MetadataKind τ) (deviceUuid : String) (now : ℤ) (table : List MetadataRow)
    (delta : DeviceMetadataDelta τ) : List MetadataRow :=
  (grown kind deviceUuid now table delta).map (edited kind deviceUuid now delta.updated)

omit [DecidableEq τ] in
/-- The rows of other devices stay, in their order. -/
theorem filter_applied : (applied kind deviceUuid now table delta).filter
    (·.deviceUuid ≠ deviceUuid) = table.filter (·.deviceUuid ≠ deviceUuid) := by
  have hdevice : ∀ row : MetadataRow,
      (edited kind deviceUuid now delta.updated row).deviceUuid = row.deviceUuid :=
    fun row => congrArg Prod.fst (edited_key delta.updated row)
  have hinserted : (delta.inserted.map (insertedRow kind deviceUuid now)).filter
      (·.deviceUuid ≠ deviceUuid) = [] := by
    refine List.filter_eq_nil_iff.2 fun row hrow hne => of_decide_eq_true hne ?_
    obtain ⟨x, -, rfl⟩ := List.mem_map.1 hrow
    rfl
  have hkept : (kept deviceUuid delta.removed table).filter (·.deviceUuid ≠ deviceUuid) =
      table.filter (·.deviceUuid ≠ deviceUuid) := by
    rw [kept, List.filter_filter]
    refine List.filter_congr fun row _ => ?_
    rw [← Bool.decide_and]
    exact decide_eq_decide.2 ⟨And.left, fun hne => ⟨hne, fun heq => hne heq.1⟩⟩
  have hedited : ∀ row ∈ table.filter (·.deviceUuid ≠ deviceUuid),
      edited kind deviceUuid now delta.updated row = id row := by
    intro row hrow
    rw [List.mem_filter, decide_eq_true_iff] at hrow
    exact edited_of_forall_ne fun x _ hkey => hrow.2 (Prod.mk.inj hkey).1
  rw [applied, List.filter_map]
  simp only [Function.comp_def, hdevice]
  rw [grown, List.filter_append, hinserted, hkept, List.append_nil, List.map_congr_left hedited,
    List.map_id]

/-- What `table` becomes where the device is to have the rows of `desired`. -/
structure Synchronized (kind : MetadataKind τ) (deviceUuid : String) (now : ℤ)
    (table : List MetadataRow) (desired : List τ) (delta : DeviceMetadataDelta τ)
    (table' : List MetadataRow) : Prop where
  written : writeAll kind deviceUuid now table (delta.writes kind) = some table'
  leaves : ∃ listed, select kind deviceUuid table' = .ok listed ∧ listed.Perm desired
  others : table'.filter (·.deviceUuid ≠ deviceUuid) = table.filter (·.deviceUuid ≠ deviceUuid)
  unchanged : ∀ x ∈ desired, ∀ row ∈ table, row.Holds kind deviceUuid x →
    row ∈ table' ∧ ∀ w ∈ delta.writes kind, w.identity ≠ kind.identity x
  fresh : ∀ before i k s after, delta.writes kind = before ++ .insert i k s :: after →
    ∃ mid, writeAll kind deviceUuid now table before = some mid ∧
      (deviceUuid, i) ∉ mid.map MetadataRow.key

/-- The difference was taken between what the table had for the device and `desired`. -/
structure Compared (kind : MetadataKind τ) (deviceUuid : String) (table : List MetadataRow)
    (current desired : List τ) (delta : DeviceMetadataDelta τ) : Prop where
  stored : StoredRows table
  uuid : Fits 128 deviceUuid
  read : select kind deviceUuid table = .ok current
  between : delta.IsBetween kind current desired

omit [DecidableEq τ] in
theorem exists_of_insert_mem_writes {i k s : String}
    (h : MetadataWrite.insert i k s ∈ delta.writes kind) : ∃ x ∈ delta.inserted,
      MetadataWrite.insert (kind.identity x) (kind.kind x) (kind.status x) = .insert i k s := by
  rw [DeviceMetadataDelta.writes, List.mem_append, List.mem_append, List.mem_map, List.mem_map,
    List.mem_map] at h
  obtain (⟨j, -, hj⟩ | hx) | ⟨x, -, hxi⟩ := h
  · cases hj
  · exact hx
  · cases hxi

omit [DecidableEq τ] in
theorem map_key_applied : (applied kind deviceUuid now table delta).map MetadataRow.key =
    (grown kind deviceUuid now table delta).map MetadataRow.key := by
  rw [applied, List.map_map]
  exact List.map_congr_left fun row _ => edited_key delta.updated row

namespace Compared

variable (h : Compared kind deviceUuid table current desired delta)

include h

omit [DecidableEq τ]

theorem eq_of_identity_eq {x y : τ} (hx : x ∈ desired) (hy : y ∈ desired)
    (hsame : kind.identity x = kind.identity y) : x = y :=
  List.inj_on_of_nodup_map h.between.desiredUnique hx hy hsame

/-- An identity that was read is the text of a stored row. -/
theorem text_of_mem_current {i : String} (hi : i ∈ current.map kind.identity) :
    textParameter i = some i := by
  obtain ⟨x, hx, rfl⟩ := List.mem_map.1 hi
  obtain ⟨row, hrow, hholds⟩ := (mem_select h.uuid h.read).1 hx
  rw [hholds.identity]
  exact h.stored.texts row hrow

/-- The batches run exactly where the columns take what is inserted and updated and the inserted
rows, as the columns clip them, differ from each other and from those that stay. -/
theorem writeAll_iff (now : ℤ) {table' : List MetadataRow} :
    writeAll kind deviceUuid now table (delta.writes kind) = some table' ↔
      (∀ x ∈ delta.inserted, (varchar kind.identityLimit (kind.identity x)).isSome = true ∧
        kind.Admits x) ∧
        ((grown kind deviceUuid now table delta).map MetadataRow.key).Nodup ∧
        (∀ x ∈ delta.updated, kind.Admits x) ∧
        table' = applied kind deviceUuid now table delta := by
  have hremoved : ∀ i ∈ delta.removed, textParameter i = some i :=
    fun i hi => h.text_of_mem_current ((h.between.mem_removed i).1 hi).1
  have hupdated : ∀ x ∈ delta.updated, textParameter (kind.identity x) = some (kind.identity x) :=
    fun x hx => h.text_of_mem_current ((h.between.mem_updated x).1 hx).2.1
  have hkept : ((kept deviceUuid delta.removed table).map MetadataRow.key).Nodup :=
    h.stored.unique.sublist (List.filter_sublist.map _)
  rw [DeviceMetadataDelta.writes, writeAll_append_iff]
  constructor
  · rintro ⟨mid', hmid', hupdates⟩
    obtain ⟨mid, hdeletes, hinserts⟩ := writeAll_append_iff.1 hmid'
    obtain ⟨-, rfl⟩ := (writeAll_deletes_iff h.uuid).1 hdeletes
    obtain ⟨hadmits, hnodup, rfl⟩ := (writeAll_inserts_iff h.uuid hkept).1 hinserts
    obtain ⟨hedits, rfl⟩ := (writeAll_updates_iff h.uuid).1 hupdates
    exact ⟨hadmits, hnodup, fun x hx => (hedits x hx).2, rfl⟩
  · rintro ⟨hadmits, hnodup, hedits, rfl⟩
    refine ⟨_, writeAll_append_iff.2 ⟨_, (writeAll_deletes_iff h.uuid).2 ⟨hremoved, rfl⟩,
      (writeAll_inserts_iff h.uuid hkept).2 ⟨hadmits, hnodup, rfl⟩⟩, ?_⟩
    exact (writeAll_updates_iff h.uuid).2 ⟨fun x hx => ⟨hupdated x hx, hedits x hx⟩, rfl⟩

/-- Identities that fit their column are not clipped, and so stay apart. -/
theorem nodup_grown (now : ℤ) (htakes : ∀ x ∈ desired, kind.Takes x) :
    ((grown kind deviceUuid now table delta).map MetadataRow.key).Nodup := by
  have hkeys : (delta.inserted.map (insertedRow kind deviceUuid now)).map MetadataRow.key =
      (delta.inserted.map kind.identity).map (Prod.mk deviceUuid) := by
    rw [List.map_map, List.map_map]
    refine List.map_congr_left fun x hx => ?_
    exact (insertedRow_holds now (htakes x ((h.between.mem_inserted x).1 hx).1)).key
  rw [grown, List.map_append, hkeys]
  refine List.Nodup.append (h.stored.unique.sublist (List.filter_sublist.map _))
    (h.between.insertedUnique.map fun _ _ => Prod.mk_right_inj.1) ?_
  intro key hkept hkey
  obtain ⟨i, hi, rfl⟩ := List.mem_map.1 hkey
  obtain ⟨x, hx, rfl⟩ := List.mem_map.1 hi
  refine ((h.between.mem_inserted x).1 hx).2 (mem_current_of_mem_keys h.uuid h.read ?_)
  exact (List.filter_sublist.map MetadataRow.key).subset hkept

theorem writeAll_applied (now : ℤ) (htakes : ∀ x ∈ desired, kind.Takes x) :
    writeAll kind deviceUuid now table (delta.writes kind) =
      some (applied kind deviceUuid now table delta) := by
  refine (h.writeAll_iff now).2 ⟨fun x hx => ?_, h.nodup_grown now htakes, fun x hx => ?_, rfl⟩
  · have hx := htakes x ((h.between.mem_inserted x).1 hx).1
    exact ⟨isSome_of_fits hx.identity, hx.admits⟩
  · exact (htakes x ((h.between.mem_updated x).1 hx).1).admits

theorem edited_of_notMem {x : τ} (hx : x ∈ desired) (hnot : x ∉ delta.updated) {row : MetadataRow}
    (hrow : row.key = (deviceUuid, kind.identity x)) :
    edited kind deviceUuid now delta.updated row = row := by
  refine edited_of_forall_ne fun y hy hkey => hnot ?_
  have hsame : kind.identity x = kind.identity y := (Prod.mk.inj (hrow.symm.trans hkey)).2
  exact h.eq_of_identity_eq hx ((h.between.mem_updated y).1 hy).1 hsame ▸ hy

/-- A stored row whose identity is desired is not deleted. -/
theorem mem_kept {x : τ} (hx : x ∈ desired) {row : MetadataRow} (hrow : row ∈ table)
    (hidentity : kind.identity x = row.identity) : row ∈ kept deviceUuid delta.removed table := by
  refine List.mem_filter.2 ⟨hrow, decide_eq_true fun hremoved => ?_⟩
  exact ((h.between.mem_removed _).1 hremoved.2).2 (hidentity ▸ List.mem_map_of_mem hx)

/-- The row of an element that is to be updated is there when the updates begin. -/
theorem exists_kept_of_mem_updated {x : τ} (hx : x ∈ delta.updated) :
    ∃ row ∈ kept deviceUuid delta.removed table, row.key = (deviceUuid, kind.identity x) := by
  obtain ⟨hdesired, hcurrent, -⟩ := (h.between.mem_updated x).1 hx
  obtain ⟨old, hold, hsame⟩ := List.mem_map.1 hcurrent
  obtain ⟨row, hrow, hholds⟩ := (mem_select h.uuid h.read).1 hold
  refine ⟨row, h.mem_kept hdesired hrow (hsame.symm.trans hholds.identity), ?_⟩
  rw [hholds.key, hsame]

theorem unchanged_mem_applied {x : τ} (hx : x ∈ desired) {row : MetadataRow} (hrow : row ∈ table)
    (hholds : row.Holds kind deviceUuid x) : row ∈ applied kind deviceUuid now table delta := by
  have hnot : x ∉ delta.updated := fun hupdated =>
    ((h.between.mem_updated x).1 hupdated).2.2 ((mem_select h.uuid h.read).2 ⟨row, hrow, hholds⟩)
  refine List.mem_map.2 ⟨row, List.mem_append_left _ (h.mem_kept hx hrow hholds.identity), ?_⟩
  exact h.edited_of_notMem hx hnot hholds.key

/-- A desired element has a row: the stored one, one that was inserted, or one that was updated. -/
theorem exists_mem_applied
    (hnodup : ((grown kind deviceUuid now table delta).map MetadataRow.key).Nodup) {x : τ}
    (hx : x ∈ desired) : ∃ row ∈ applied kind deviceUuid now table delta,
      row.Holds kind deviceUuid x ∨ row = insertedRow kind deviceUuid now x ∨
        ∃ old : MetadataRow, old.key = (deviceUuid, kind.identity x) ∧
          row = updatedRow kind now x old := by
  by_cases hcurrent : kind.identity x ∈ current.map kind.identity
  · by_cases hx' : x ∈ current
    · obtain ⟨row, hrow, hholds⟩ := (mem_select h.uuid h.read).1 hx'
      exact ⟨row, h.unchanged_mem_applied hx hrow hholds, Or.inl hholds⟩
    · have hupdated : x ∈ delta.updated := (h.between.mem_updated x).2 ⟨hx, hcurrent, hx'⟩
      obtain ⟨old, hold, hkey⟩ := h.exists_kept_of_mem_updated hupdated
      refine ⟨updatedRow kind now x old, List.mem_map.2 ⟨old, List.mem_append_left _ hold, ?_⟩,
        Or.inr (Or.inr ⟨old, hkey, rfl⟩)⟩
      exact edited_of_mem h.between.updatedUnique hupdated hkey
  · have hinserted : x ∈ delta.inserted := (h.between.mem_inserted x).2 ⟨hx, hcurrent⟩
    refine ⟨insertedRow kind deviceUuid now x, List.mem_map.2
      ⟨_, List.mem_append_right _ (List.mem_map_of_mem hinserted), ?_⟩, Or.inr (Or.inl rfl)⟩
    -- an update is addressed to a row that was there before the insertion
    refine edited_of_forall_ne fun y hy hkey => ?_
    obtain ⟨row, hrow, hrowKey⟩ := h.exists_kept_of_mem_updated hy
    rw [grown, List.map_append] at hnodup
    refine List.disjoint_of_nodup_append hnodup (List.mem_map_of_mem hrow) ?_
    rw [hrowKey, ← hkey]
    exact List.mem_map_of_mem (List.mem_map_of_mem hinserted)

theorem exists_holds_applied (htakes : ∀ x ∈ desired, kind.Takes x) {x : τ} (hx : x ∈ desired) :
    ∃ row ∈ applied kind deviceUuid now table delta, row.Holds kind deviceUuid x := by
  obtain ⟨row, hrow, hholds | rfl | ⟨old, hkey, rfl⟩⟩ :=
    h.exists_mem_applied (h.nodup_grown now htakes) hx
  · exact ⟨row, hrow, hholds⟩
  · exact ⟨_, hrow, insertedRow_holds now (htakes x hx)⟩
  · exact ⟨_, hrow, updatedRow_holds now (htakes x hx) hkey⟩

/-- The rows of the device are those of the desired elements. -/
theorem holds_of_mem_applied (htakes : ∀ x ∈ desired, kind.Takes x) {row : MetadataRow}
    (hrow : row ∈ applied kind deviceUuid now table delta) (hdevice : row.deviceUuid = deviceUuid) :
    ∃ x ∈ desired, row.Holds kind deviceUuid x := by
  obtain ⟨x, hx, hidentity⟩ : ∃ x ∈ desired, kind.identity x = row.identity := by
    obtain ⟨row₀, hrow₀, rfl⟩ := List.mem_map.1 hrow
    have hkey : (edited kind deviceUuid now delta.updated row₀).key = row₀.key := edited_key _ row₀
    have hdevice₀ : row₀.deviceUuid = deviceUuid := (congrArg Prod.fst hkey).symm.trans hdevice
    rw [show (edited kind deviceUuid now delta.updated row₀).identity = row₀.identity from
      congrArg Prod.snd hkey]
    rcases List.mem_append.1 hrow₀ with hkept | hinserted
    · rw [kept, List.mem_filter, decide_eq_true_iff] at hkept
      obtain ⟨old, hold, hholds⟩ := exists_holds_of_select h.uuid h.read hkept.1 hdevice₀
      have hi : row₀.identity ∈ current.map kind.identity :=
        hholds.identity ▸ List.mem_map_of_mem hold
      by_contra hnone
      refine hkept.2 ⟨hdevice₀, (h.between.mem_removed _).2 ⟨hi, fun hmem => hnone ?_⟩⟩
      exact List.mem_map.1 hmem
    · obtain ⟨x, hx, rfl⟩ := List.mem_map.1 hinserted
      have hdesired : x ∈ desired := ((h.between.mem_inserted x).1 hx).1
      exact ⟨x, hdesired, (insertedRow_holds now (htakes x hdesired)).identity⟩
  obtain ⟨row', hrow', hholds⟩ := h.exists_holds_applied htakes hx
  have hnodup : ((applied kind deviceUuid now table delta).map MetadataRow.key).Nodup := by
    rw [map_key_applied]
    exact h.nodup_grown now htakes
  have hkey : row'.key = row.key := by rw [hholds.key, hidentity, ← hdevice]; rfl
  rw [← List.inj_on_of_nodup_map hnodup hrow' hrow hkey]
  exact ⟨x, hx, hholds⟩

/-- No statement names the identity of a row that is as desired. -/
theorem identity_ne_of_mem_writes {x : τ} (hx : x ∈ desired) (hx' : x ∈ current) {w : MetadataWrite}
    (hw : w ∈ delta.writes kind) : w.identity ≠ kind.identity x := by
  rw [DeviceMetadataDelta.writes, List.mem_append, List.mem_append, List.mem_map, List.mem_map,
    List.mem_map] at hw
  obtain (⟨i, hi, rfl⟩ | ⟨y, hy, rfl⟩) | ⟨y, hy, rfl⟩ := hw
  · rintro rfl
    exact ((h.between.mem_removed _).1 hi).2 (List.mem_map_of_mem hx)
  · intro hsame
    refine ((h.between.mem_inserted y).1 hy).2 ?_
    rw [show kind.identity y = kind.identity x from hsame]
    exact List.mem_map_of_mem hx'
  · intro hsame
    have hmem := (h.between.mem_updated y).1 hy
    exact hmem.2.2 (h.eq_of_identity_eq hmem.1 hx hsame ▸ hx')

theorem leaves (now : ℤ) (htakes : ∀ x ∈ desired, kind.Takes x) :
    ∃ listed, select kind deviceUuid (applied kind deviceUuid now table delta) = .ok listed ∧
      listed.Perm desired := by
  refine select_of_holds h.uuid ?_ (h.between.desiredUnique.of_map _)
    (fun _ => h.holds_of_mem_applied htakes) fun _ => h.exists_holds_applied htakes
  rw [map_key_applied]
  exact h.nodup_grown now htakes

theorem synchronized (now : ℤ) (htakes : ∀ x ∈ desired, kind.Takes x) :
    Synchronized kind deviceUuid now table desired delta
      (applied kind deviceUuid now table delta) where
  written := h.writeAll_applied now htakes
  leaves := h.leaves now htakes
  others := filter_applied
  unchanged x hx row hrow hholds := ⟨h.unchanged_mem_applied hx hrow hholds,
    fun _ => h.identity_ne_of_mem_writes hx ((mem_select h.uuid h.read).2 ⟨row, hrow, hholds⟩)⟩
  fresh before i k s after hwrites := by
    have hmem : MetadataWrite.insert i k s ∈ delta.writes kind := by
      rw [hwrites]
      exact List.mem_append_right _ List.mem_cons_self
    obtain ⟨x, hx, hwrite⟩ := exists_of_insert_mem_writes hmem
    obtain ⟨rfl, rfl, rfl⟩ := MetadataWrite.insert.inj hwrite
    have hrun := h.writeAll_applied now htakes
    rw [hwrites, writeAll_append_iff] at hrun
    obtain ⟨mid, hmid, hrest⟩ := hrun
    obtain ⟨next, hnext, -⟩ := writeAll_cons_iff.1 hrest
    obtain ⟨-, -, hnew, -⟩ := (write_insert_iff h.uuid).1 hnext
    refine ⟨mid, hmid, ?_⟩
    rwa [(insertedRow_holds now (htakes x ((h.between.mem_inserted x).1 hx).1)).key] at hnew

end Compared

/-! ### Whatever is clipped -/

/-- The texts of a row are not blank, so that it can be read. -/
def MetadataRow.Readable (row : MetadataRow) : Prop :=
  JvmText.isBlank row.identity = false ∧ JvmText.isBlank row.kind = false ∧
    JvmText.isBlank row.status = false

structure ReadableRows (table : List MetadataRow) : Prop extends StoredRows table where
  readable : ∀ row ∈ table, row.Readable

omit [DecidableEq τ] in
theorem exists_select (kind : MetadataKind τ) (huuid : Fits 128 deviceUuid)
    (hrows : ReadableRows table) : ∃ current, select kind deviceUuid table = .ok current := by
  rw [select_eq huuid, CheckedSteps.exists_mapM_eq_ok_iff]
  intro row hrow
  exact (kind.exists_make_iff _ _ _).2 (hrows.readable row (List.mem_of_mem_filter hrow))

omit [DecidableEq τ] in
/-- What is read for a device depends on its rows only. -/
theorem select_congr {other : String} (hne : other ≠ deviceUuid)
    (hothers : table'.filter (·.deviceUuid ≠ deviceUuid) =
      table.filter (·.deviceUuid ≠ deviceUuid)) :
    select kind other table' = select kind other table := by
  have hfilter : ∀ (rows : List MetadataRow) (uuid : String), uuid = other →
      rows.filter (·.deviceUuid = uuid) =
        (rows.filter (·.deviceUuid ≠ deviceUuid)).filter (·.deviceUuid = uuid) := by
    intro rows uuid huuid
    rw [List.filter_filter]
    refine List.filter_congr fun row _ => ?_
    rw [← Bool.decide_and]
    exact decide_eq_decide.2 ⟨fun h => ⟨h, fun h' => hne (huuid ▸ h ▸ h')⟩, And.left⟩
  unfold select
  cases htext : textParameter other with
  | none => rfl
  | some uuid =>
      have huuid := PostgresColumns.text_of_textParameter htext
      change (table'.filter (·.deviceUuid = uuid)).mapM _ =
        (table.filter (·.deviceUuid = uuid)).mapM _
      rw [hfilter table' uuid huuid, hothers, ← hfilter table uuid huuid]

omit [DecidableEq τ] in
theorem isBlank_clipped {limit : ℕ} {text : String} (hblank : JvmText.isBlank text = false)
    (hadmits : (varchar limit text).isSome = true) :
    JvmText.isBlank (clipped limit text) = false := by
  rw [PostgresColumns.isBlank_of_varchar (varchar_eq_some_iff.2 ⟨hadmits, rfl⟩), hblank]

omit [DecidableEq τ] in
theorem MetadataKind.notBlank (kind : MetadataKind τ) (x : τ) :
    JvmText.isBlank (kind.identity x) = false ∧ JvmText.isBlank (kind.kind x) = false ∧
      JvmText.isBlank (kind.status x) = false :=
  (kind.exists_make_iff _ _ _).1 ⟨x, (kind.make_eq_ok_iff _ _ _ x).2 ⟨rfl, rfl, rfl⟩⟩

omit [DecidableEq τ] in
theorem edited_readable {updated : List τ} (hadmits : ∀ x ∈ updated, kind.Admits x)
    {row : MetadataRow} (hrow : row.Readable) :
    (edited kind deviceUuid now updated row).Readable := by
  induction updated generalizing row with
  | nil => exact hrow
  | cons x updated ih =>
      obtain ⟨hx, hrest⟩ := List.forall_mem_cons.1 hadmits
      refine ih hrest ?_
      dsimp only
      split_ifs
      · obtain ⟨-, hkind, hstatus⟩ := kind.notBlank x
        exact ⟨hrow.1, isBlank_clipped hkind hx.kind, isBlank_clipped hstatus hx.status⟩
      · exact hrow

/-- What becomes of a table also where a column clips a text. -/
structure Rewritten (kind : MetadataKind τ) (deviceUuid : String) (table : List MetadataRow)
    (desired : List τ) (table' : List MetadataRow) : Prop where
  rows : ReadableRows table'
  others : table'.filter (·.deviceUuid ≠ deviceUuid) = table.filter (·.deviceUuid ≠ deviceUuid)
  statuses : ∀ x ∈ desired, (kind.status x).length ≤ kind.statusLimit →
    ∃ row ∈ table', row.deviceUuid = deviceUuid ∧ row.status = kind.status x

omit [DecidableEq τ] in
theorem Compared.rewritten (h : Compared kind deviceUuid table current desired delta)
    (hrows : ReadableRows table)
    (hrun : writeAll kind deviceUuid now table (delta.writes kind) = some table') :
    Rewritten kind deviceUuid table desired table' := by
  obtain ⟨hinserted, hnodup, hupdated, rfl⟩ := (h.writeAll_iff now).1 hrun
  refine ⟨⟨⟨?_, ?_⟩, ?_⟩, filter_applied, ?_⟩
  · rw [map_key_applied]
    exact hnodup
  · intro row hrow
    obtain ⟨row₀, hrow₀, rfl⟩ := List.mem_map.1 hrow
    rw [show (edited kind deviceUuid now delta.updated row₀).identity = row₀.identity from
      congrArg Prod.snd (edited_key _ row₀)]
    rcases List.mem_append.1 hrow₀ with hkept | hnew
    · exact h.stored.texts row₀ (List.mem_of_mem_filter hkept)
    · obtain ⟨x, hx, rfl⟩ := List.mem_map.1 hnew
      exact textParameter_of_fits (PostgresColumns.fits_of_varchar
        (varchar_eq_some_iff.2 ⟨(hinserted x hx).1, rfl⟩))
  · intro row hrow
    obtain ⟨row₀, hrow₀, rfl⟩ := List.mem_map.1 hrow
    refine edited_readable hupdated ?_
    rcases List.mem_append.1 hrow₀ with hkept | hnew
    · exact hrows.readable row₀ (List.mem_of_mem_filter hkept)
    · obtain ⟨x, hx, rfl⟩ := List.mem_map.1 hnew
      obtain ⟨hidentity, hkind, hstatus⟩ := kind.notBlank x
      exact ⟨isBlank_clipped hidentity (hinserted x hx).1,
        isBlank_clipped hkind (hinserted x hx).2.kind,
        isBlank_clipped hstatus (hinserted x hx).2.status⟩
  · intro x hx hlength
    obtain ⟨row, hrow, hholds | rfl | ⟨old, hkey, rfl⟩⟩ := h.exists_mem_applied hnodup hx
    · exact ⟨row, hrow, hholds.deviceUuid, hholds.status.symm⟩
    · exact ⟨_, hrow, rfl, clipped_of_le hlength⟩
    · exact ⟨_, hrow, (Prod.mk.inj hkey).1, clipped_of_le hlength⟩

theorem compared_of_between (hstored : StoredRows table) (huuid : Fits 128 deviceUuid)
    (hread : select kind deviceUuid table = .ok current)
    (h : DeviceMetadataDelta.between kind.identity current desired = .ok delta) :
    Compared kind deviceUuid table current desired delta :=
  ⟨hstored, huuid, hread, isBetween_of_between (nodup_of_select huuid hstored.unique hread) h⟩

end Difference

/-! ## Both tables -/

/-- A synchronization that takes effect, whatever the columns clip. -/
theorem rewritten_of_synchronize {tables tables' : MetadataTables} {deviceUuid : String}
    {desiredSensors : List RegisteredDeviceSensor} {desiredStreams : List RegisteredDeviceStream}
    {now : ℤ} (huuid : Fits 128 deviceUuid) (hsensors : ReadableRows tables.registeredDeviceSensors)
    (hstreams : ReadableRows tables.registeredDeviceStreams)
    (h : JdbcRegisteredDeviceMetadataDao.synchronize tables deviceUuid desiredSensors
      desiredStreams now = .ok tables') :
    Rewritten .sensors deviceUuid tables.registeredDeviceSensors desiredSensors
        tables'.registeredDeviceSensors ∧
      Rewritten .streams deviceUuid tables.registeredDeviceStreams desiredStreams
        tables'.registeredDeviceStreams := by
  obtain ⟨currentSensors, hreadSensors, h⟩ := CheckedSteps.bind_eq_ok_iff.1 h
  obtain ⟨sensorDelta, hsensorDelta, h⟩ := CheckedSteps.bind_eq_ok_iff.1 h
  obtain ⟨currentStreams, hreadStreams, h⟩ := CheckedSteps.bind_eq_ok_iff.1 h
  obtain ⟨streamDelta, hstreamDelta, h⟩ := CheckedSteps.bind_eq_ok_iff.1 h
  obtain ⟨sensorTable, hsensorTable, h⟩ := CheckedSteps.bind_eq_ok_iff.1 h
  obtain ⟨streamTable, hstreamTable, h⟩ := CheckedSteps.bind_eq_ok_iff.1 h
  cases h
  have hsensorCompared : Compared .sensors deviceUuid tables.registeredDeviceSensors currentSensors
      desiredSensors sensorDelta :=
    compared_of_between hsensors.toStoredRows huuid hreadSensors hsensorDelta
  have hstreamCompared : Compared .streams deviceUuid tables.registeredDeviceStreams currentStreams
      desiredStreams streamDelta :=
    compared_of_between hstreams.toStoredRows huuid hreadStreams hstreamDelta
  exact ⟨hsensorCompared.rewritten hsensors (orDataAccess_eq_ok_iff.1 hsensorTable),
    hstreamCompared.rewritten hstreams (orDataAccess_eq_ok_iff.1 hstreamTable)⟩

/-- Desired rows with unique identities whose texts fit the columns are what the device has
afterwards; a row that was as desired is not written, and no insertion meets a row of its key. -/
theorem metadata_synchronized {tables : MetadataTables} {deviceUuid : String}
    {sensors desiredSensors : List RegisteredDeviceSensor}
    {streams desiredStreams : List RegisteredDeviceStream} (now : ℤ) (huuid : Fits 128 deviceUuid)
    (hsensorRows : StoredRows tables.registeredDeviceSensors)
    (hstreamRows : StoredRows tables.registeredDeviceStreams)
    (hsensors : select .sensors deviceUuid tables.registeredDeviceSensors = .ok sensors)
    (hstreams : select .streams deviceUuid tables.registeredDeviceStreams = .ok streams)
    (hdesiredSensors : (desiredSensors.map RegisteredDeviceSensor.sensorId).Nodup)
    (hdesiredStreams : (desiredStreams.map RegisteredDeviceStream.streamPath).Nodup)
    (htakesSensors : ∀ sensor ∈ desiredSensors, MetadataKind.sensors.Takes sensor)
    (htakesStreams : ∀ stream ∈ desiredStreams, MetadataKind.streams.Takes stream) :
    ∃ tables' sensorDelta streamDelta,
      DeviceMetadataDelta.between RegisteredDeviceSensor.sensorId sensors desiredSensors =
        .ok sensorDelta ∧
      DeviceMetadataDelta.between RegisteredDeviceStream.streamPath streams desiredStreams =
        .ok streamDelta ∧
      JdbcRegisteredDeviceMetadataDao.synchronize tables deviceUuid desiredSensors desiredStreams
        now = .ok tables' ∧
      Synchronized .sensors deviceUuid now tables.registeredDeviceSensors desiredSensors sensorDelta
        tables'.registeredDeviceSensors ∧
      Synchronized .streams deviceUuid now tables.registeredDeviceStreams desiredStreams streamDelta
        tables'.registeredDeviceStreams := by
  obtain ⟨sensorDelta, hsensorDelta⟩ := between_eq_ok_iff.2 hdesiredSensors
  obtain ⟨streamDelta, hstreamDelta⟩ := between_eq_ok_iff.2 hdesiredStreams
  have hsensorTable : Compared .sensors deviceUuid tables.registeredDeviceSensors sensors
      desiredSensors sensorDelta := compared_of_between hsensorRows huuid hsensors hsensorDelta
  have hstreamTable : Compared .streams deviceUuid tables.registeredDeviceStreams streams
      desiredStreams streamDelta := compared_of_between hstreamRows huuid hstreams hstreamDelta
  have hsensorRun := hsensorTable.synchronized now htakesSensors
  have hstreamRun := hstreamTable.synchronized now htakesStreams
  refine ⟨⟨applied .sensors deviceUuid now tables.registeredDeviceSensors sensorDelta,
    applied .streams deviceUuid now tables.registeredDeviceStreams streamDelta⟩, sensorDelta,
    streamDelta, hsensorDelta, hstreamDelta, ?_, hsensorRun, hstreamRun⟩
  simp only [JdbcRegisteredDeviceMetadataDao.synchronize, hsensors, hsensorDelta, hstreams,
    hstreamDelta, hsensorRun.written, hstreamRun.written, orDataAccess, bind, Except.bind, pure,
    Except.pure]

def cameraSensor (sensorId status : String) (hsensorId : JvmText.isBlank sensorId = false)
    (hstatus : JvmText.isBlank status = false) : RegisteredDeviceSensor :=
  ⟨sensorId, "camera", status, hsensorId, by decide, hstatus⟩

def frontSensor : RegisteredDeviceSensor := cameraSensor "front" "active" (by decide) (by decide)

def rearSensor (status : String) (hstatus : JvmText.isBlank status = false) :
    RegisteredDeviceSensor := cameraSensor "rear" status (by decide) hstatus

def topSensor : RegisteredDeviceSensor := cameraSensor "top" "active" (by decide) (by decide)

def sensorTable : List MetadataRow :=
  [⟨"rover-1", "front", "camera", "active", 1, 1⟩, ⟨"rover-1", "left", "camera", "active", 1, 1⟩,
    ⟨"rover-1", "rear", "camera", "active", 1, 1⟩, ⟨"rover-2", "left", "camera", "active", 2, 2⟩]

def leftSensor : RegisteredDeviceSensor := cameraSensor "left" "active" (by decide) (by decide)

theorem metadata_synchronized_sample :
    ∃ tables' sensorDelta streamDelta,
      DeviceMetadataDelta.between RegisteredDeviceSensor.sensorId
        [frontSensor, leftSensor, rearSensor "active" (by decide)]
        [rearSensor "inactive" (by decide), topSensor, frontSensor] = .ok sensorDelta ∧
      DeviceMetadataDelta.between RegisteredDeviceStream.streamPath [] [] = .ok streamDelta ∧
      JdbcRegisteredDeviceMetadataDao.synchronize ⟨sensorTable, []⟩ "rover-1"
        [rearSensor "inactive" (by decide), topSensor, frontSensor] [] 3 = .ok tables' ∧
      Synchronized .sensors "rover-1" 3 sensorTable
        [rearSensor "inactive" (by decide), topSensor, frontSensor] sensorDelta
        tables'.registeredDeviceSensors ∧
      Synchronized .streams "rover-1" 3 [] [] streamDelta tables'.registeredDeviceStreams := by
  have hfront : MetadataKind.sensors.Takes frontSensor := ⟨by decide, by decide, by decide⟩
  have htop : MetadataKind.sensors.Takes topSensor := ⟨by decide, by decide, by decide⟩
  have hrear : MetadataKind.sensors.Takes (rearSensor "inactive" (by decide)) :=
    ⟨by decide, by decide, by decide⟩
  refine metadata_synchronized 3 (by decide) ⟨by decide, by decide⟩ ⟨by decide, by decide⟩ rfl rfl
    (by decide) (by decide) ?_ fun _ h => nomatch h
  intro sensor hsensor
  rcases List.mem_cons.1 hsensor with rfl | hsensor
  · exact hrear
  rcases List.mem_cons.1 hsensor with rfl | hsensor
  · exact htop
  · rwa [List.mem_singleton.1 hsensor]

/-- As many characters as the column for the type of a sensor takes. -/
def longType : String := String.ofList (List.replicate 64 'a')

def longSensor (sensorType : String) (h : JvmText.isBlank sensorType = false) :
    RegisteredDeviceSensor := ⟨"front", sensorType, "active", by decide, h, by decide⟩

/-- A longer type fails, and a space beyond the column is cut off. -/
theorem metadata_synchronized_too_long :
    JdbcRegisteredDeviceMetadataDao.synchronize ⟨[], []⟩ "rover-1"
        [longSensor (longType ++ "a") (by decide)] [] 0 = .error dataAccessException ∧
      ∃ tables', JdbcRegisteredDeviceMetadataDao.synchronize ⟨[], []⟩ "rover-1"
          [longSensor (longType ++ " ") (by decide)] [] 0 = .ok tables' ∧
        ¬ ∃ listed, select .sensors "rover-1" tables'.registeredDeviceSensors = .ok listed ∧
          listed.Perm [longSensor (longType ++ " ") (by decide)] := by
  refine ⟨rfl, ⟨[⟨"rover-1", "front", longType, "active", 0, 0⟩], []⟩, rfl, ?_⟩
  rintro ⟨listed, hlisted, hperm⟩
  obtain rfl : [longSensor longType (by decide)] = listed := Except.ok.inj hlisted
  have hmem := hperm.mem_iff.1 List.mem_cons_self
  have htype := congrArg RegisteredDeviceSensor.sensorType (List.mem_singleton.1 hmem)
  exact absurd htype (by decide)

end GcsSaker.Devices
