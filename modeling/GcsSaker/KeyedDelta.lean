import Mathlib.Data.List.Perm.Basic
import Mathlib.Data.List.Perm.Lattice

/-!
# The difference between two sets of keyed rows

A part of a table is to become `desired`. `removed`, `inserted` and `updated` are the rows that a
table which holds `actual` there has too many, has not, and has under the same key with other
contents. Deleting, inserting and overwriting them leaves `desired` on that part of the table and
the rows of the rest as they were.
-/

namespace GcsSaker.KeyedDelta

variable {κ ρ : Type*} [DecidableEq κ] (key : ρ → κ)

def find (k : κ) (rows : List ρ) : Option ρ := rows.find? fun r => key r = k

def removed (actual desired : List ρ) : List ρ := actual.filter fun r => key r ∉ desired.map key

def inserted (actual desired : List ρ) : List ρ := desired.filter fun r => key r ∉ actual.map key

def updated [DecidableEq ρ] (actual desired : List ρ) : List ρ :=
  desired.filter fun r => key r ∈ actual.map key ∧ find key (key r) actual ≠ some r

def delete (ks : List κ) (table : List ρ) : List ρ := table.filter fun r => key r ∉ ks

def overwrite (rows table : List ρ) : List ρ := table.map fun r => (find key (key r) rows).getD r

/-! ## Looking a row up -/

variable {key}

theorem find_some {rows : List ρ} {k : κ} {r : ρ} (h : find key k rows = some r) :
    r ∈ rows ∧ key r = k := ⟨List.mem_of_find?_eq_some h, by simpa using List.find?_some h⟩

theorem find_eq_none_iff {rows : List ρ} {k : κ} : find key k rows = none ↔ k ∉ rows.map key := by
  rw [find, List.find?_eq_none, List.mem_map]
  constructor
  · rintro h ⟨r, hr, hk⟩
    exact h r hr (decide_eq_true hk)
  · intro h r hr hk
    exact h ⟨r, hr, of_decide_eq_true hk⟩

theorem find_eq_some_iff {rows : List ρ} (hn : (rows.map key).Nodup) {k : κ} {r : ρ} :
    find key k rows = some r ↔ r ∈ rows ∧ key r = k := by
  refine ⟨find_some, ?_⟩
  rintro ⟨hr, rfl⟩
  cases hfind : find key (key r) rows with
  | none => exact absurd (List.mem_map_of_mem hr) (find_eq_none_iff.1 hfind)
  | some r' =>
      obtain ⟨hr', hk⟩ := find_some hfind
      rw [List.inj_on_of_nodup_map hn hr' hr hk]

theorem mem_updated [DecidableEq ρ] {actual desired : List ρ} (hn : (actual.map key).Nodup) {r : ρ} :
    r ∈ updated key actual desired ↔ r ∈ desired ∧ key r ∈ actual.map key ∧ r ∉ actual := by
  rw [updated, List.mem_filter, decide_eq_true_iff, ne_eq, find_eq_some_iff hn]
  simp only [and_true]

/-! ## Applying the difference -/

theorem key_overwrite (rows : List ρ) (r : ρ) : key ((find key (key r) rows).getD r) = key r := by
  cases hfind : find key (key r) rows with
  | none => rfl
  | some r' => exact (find_some hfind).2

theorem map_key_overwrite (rows table : List ρ) :
    (overwrite key rows table).map key = table.map key := by
  rw [overwrite, List.map_map]
  exact List.map_congr_left fun r _ => key_overwrite rows r

theorem mem_overwrite {rows table : List ρ} (hrows : (rows.map key).Nodup) {r : ρ} :
    r ∈ overwrite key rows table ↔
      (r ∈ rows ∧ key r ∈ table.map key) ∨ (r ∈ table ∧ key r ∉ rows.map key) := by
  rw [overwrite, List.mem_map]
  constructor
  · rintro ⟨r', hr', rfl⟩
    cases hfind : find key (key r') rows with
    | none => exact Or.inr ⟨hr', find_eq_none_iff.1 hfind⟩
    | some new =>
        obtain ⟨hnew, hk⟩ := find_some hfind
        refine Or.inl ⟨hnew, ?_⟩
        rw [Option.getD_some, hk]
        exact List.mem_map_of_mem hr'
  · rintro (⟨hr, hk⟩ | ⟨hr, hk⟩)
    · obtain ⟨old, hold, hkey⟩ := List.mem_map.1 hk
      refine ⟨old, hold, ?_⟩
      rw [(find_eq_some_iff hrows).2 ⟨hr, hkey.symm⟩, Option.getD_some]
    · refine ⟨r, hr, ?_⟩
      rw [find_eq_none_iff.2 hk, Option.getD_none]

theorem delete_nil (table : List ρ) : delete key [] table = table :=
  List.filter_eq_self.2 fun _ _ => decide_eq_true List.not_mem_nil

theorem delete_append (ks ks' : List κ) (table : List ρ) :
    delete key (ks ++ ks') table = delete key ks' (delete key ks table) := by
  rw [delete, delete, delete, List.filter_filter]
  refine List.filter_congr fun r _ => ?_
  simp only [List.mem_append, not_or, Bool.decide_and, Bool.and_comm]

theorem overwrite_nil (table : List ρ) : overwrite key [] table = table := List.map_id _

theorem overwrite_overwrite (rows table : List ρ) :
    overwrite key rows (overwrite key rows table) = overwrite key rows table := by
  rw [overwrite, overwrite, List.map_map]
  refine List.map_congr_left fun r _ => ?_
  have hkey : key ((find key (key r) rows).getD r) = key r := key_overwrite rows r
  rw [Function.comp_apply, hkey]
  cases find key (key r) rows with
  | none => rfl
  | some new => rfl

/-- Over distinct keys the order of the overwritings does not matter. -/
theorem overwrite_append {rows rows' : List ρ} (hn : ((rows ++ rows').map key).Nodup)
    (table : List ρ) :
    overwrite key rows' (overwrite key rows table) = overwrite key (rows ++ rows') table := by
  rw [overwrite, overwrite, overwrite, List.map_map]
  refine List.map_congr_left fun r _ => ?_
  have hfind : find key (key r) (rows ++ rows') =
      (find key (key r) rows).or (find key (key r) rows') := List.find?_append
  have hkey : key ((find key (key r) rows).getD r) = key r := key_overwrite rows r
  rw [Function.comp_apply, hkey, hfind]
  cases hrow : find key (key r) rows with
  | none => rfl
  | some new =>
      have hother : find key (key r) rows' = none := by
        rw [find_eq_none_iff]
        intro hk
        rw [List.map_append] at hn
        obtain ⟨hnew, hsame⟩ := find_some hrow
        exact List.disjoint_of_nodup_append hn (hsame ▸ List.mem_map_of_mem hnew) hk
      rw [hother]
      rfl

section Perm

variable {P : κ → Prop} [DecidablePred P] {table actual desired rem ins upd : List ρ}

theorem mem_delete_removed (hactual : actual.Perm (table.filter fun r => P (key r)))
    (hrem : rem.Perm (removed key actual desired)) {r : ρ} :
    r ∈ delete key (rem.map key) table ↔ r ∈ table ∧ (P (key r) → key r ∈ desired.map key) := by
  rw [delete, List.mem_filter, decide_eq_true_iff, (hrem.map key).mem_iff]
  refine and_congr_right fun hr => ?_
  rw [removed, List.mem_map, not_exists]
  constructor
  · intro h hp
    by_contra hk
    have hra : r ∈ actual := hactual.mem_iff.2 (List.mem_filter.2 ⟨hr, decide_eq_true hp⟩)
    exact h r ⟨List.mem_filter.2 ⟨hra, decide_eq_true hk⟩, rfl⟩
  · rintro h r' ⟨hr', hk⟩
    rw [List.mem_filter, decide_eq_true_iff, hactual.mem_iff, List.mem_filter,
      decide_eq_true_iff, hk] at hr'
    exact hr'.2 (h hr'.1.2)

/-- Rows that are inserted meet no row of their key. -/
theorem key_inserted_notMem (hactual : actual.Perm (table.filter fun r => P (key r)))
    (hP : ∀ r ∈ desired, P (key r)) (hins : ins.Perm (inserted key actual desired)) {ks : List κ}
    {r : ρ} (hr : r ∈ ins) : key r ∉ (delete key ks table).map key := by
  rw [hins.mem_iff, inserted, List.mem_filter, decide_eq_true_iff] at hr
  intro hk
  obtain ⟨old, hold, hkey⟩ := List.mem_map.1 hk
  refine hr.2 (List.mem_map.2 ⟨old, hactual.mem_iff.2 (List.mem_filter.2 ⟨?_, ?_⟩), hkey⟩)
  · exact List.mem_of_mem_filter hold
  · exact decide_eq_true (hkey ▸ hP r hr.1)

variable [DecidableEq ρ]

/-- The rows of the table whose keys have `P` become `desired`; the others stay. -/
theorem perm_of_delta (htable : (table.map key).Nodup) (hdesired : (desired.map key).Nodup)
    (hactual : actual.Perm (table.filter fun r => P (key r))) (hP : ∀ r ∈ desired, P (key r))
    (hrem : rem.Perm (removed key actual desired)) (hins : ins.Perm (inserted key actual desired))
    (hupd : upd.Perm (updated key actual desired)) :
    (overwrite key upd (delete key (rem.map key) table ++ ins)).Perm
      ((table.filter fun r => ¬ P (key r)) ++ desired) := by
  have hact : ∀ {r}, r ∈ actual ↔ r ∈ table ∧ P (key r) := by
    intro r
    rw [hactual.mem_iff, List.mem_filter, decide_eq_true_iff]
  have hactualKeys : (actual.map key).Nodup :=
    (hactual.map key).nodup_iff.2 (htable.sublist (List.filter_sublist.map key))
  have hupdKeys : (upd.map key).Nodup :=
    (hupd.map key).nodup_iff.2 (hdesired.sublist (List.filter_sublist.map key))
  have hmemIns : ∀ {r}, r ∈ ins ↔ r ∈ desired ∧ key r ∉ actual.map key := by
    intro r
    rw [hins.mem_iff, inserted, List.mem_filter, decide_eq_true_iff]
  have hmemUpd : ∀ {r}, r ∈ upd ↔ r ∈ desired ∧ key r ∈ actual.map key ∧ r ∉ actual := by
    intro r
    rw [hupd.mem_iff, mem_updated hactualKeys]
  have hinsKeys : (ins.map key).Nodup :=
    (hins.map key).nodup_iff.2 (hdesired.sublist (List.filter_sublist.map key))
  have hfreshKeys : ((delete key (rem.map key) table ++ ins).map key).Nodup := by
    rw [List.map_append]
    refine List.Nodup.append (htable.sublist (List.filter_sublist.map key)) hinsKeys ?_
    intro k hkept hk
    obtain ⟨r, hr, rfl⟩ := List.mem_map.1 hk
    exact key_inserted_notMem hactual hP hins hr hkept
  have hrest : ((table.filter fun r => ¬ P (key r)) ++ desired).Nodup := by
    refine List.Nodup.append (htable.of_map key |>.filter _) (hdesired.of_map key) ?_
    intro r hr hd
    rw [List.mem_filter, decide_eq_true_iff] at hr
    exact hr.2 (hP r hd)
  have hall : (overwrite key upd (delete key (rem.map key) table ++ ins)).Nodup := by
    refine List.Nodup.of_map key ?_
    rw [map_key_overwrite]
    exact hfreshKeys
  rw [List.perm_ext_iff_of_nodup hall hrest]
  intro r
  rw [mem_overwrite hupdKeys, List.mem_append, List.mem_append, List.map_append,
    List.mem_append, mem_delete_removed hactual hrem, List.mem_filter, decide_eq_true_iff]
  constructor
  · rintro (⟨hr, -⟩ | ⟨⟨hr, hk⟩ | hr, hnot⟩)
    · exact Or.inr (hmemUpd.1 hr).1
    · by_cases hp : P (key r)
      · -- a row that stays on the part has its key among the desired ones, with the same contents
        obtain ⟨d, hd, hkey⟩ := List.mem_map.1 (hk hp)
        by_cases hda : d ∈ actual
        · rw [List.inj_on_of_nodup_map hactualKeys hda (hact.2 ⟨hr, hp⟩) hkey] at hd
          exact Or.inr hd
        · have hdu : d ∈ upd :=
            hmemUpd.2 ⟨hd, hkey ▸ List.mem_map_of_mem (hact.2 ⟨hr, hp⟩), hda⟩
          exact absurd (hkey ▸ List.mem_map_of_mem hdu) hnot
      · exact Or.inl ⟨hr, hp⟩
    · exact Or.inr (hmemIns.1 hr).1
  · rintro (⟨hr, hp⟩ | hr)
    · refine Or.inr ⟨Or.inl ⟨hr, fun h => absurd h hp⟩, fun hk => ?_⟩
      obtain ⟨d, hd, hkey⟩ := List.mem_map.1 hk
      exact hp (hkey ▸ hP d (hmemUpd.1 hd).1)
    · by_cases hk : key r ∈ actual.map key
      · by_cases hra : r ∈ actual
        · refine Or.inr ⟨Or.inl ⟨(hact.1 hra).1, fun _ => List.mem_map_of_mem hr⟩, fun hku => ?_⟩
          obtain ⟨d, hd, hkey⟩ := List.mem_map.1 hku
          have hdr : d = r := List.inj_on_of_nodup_map hdesired (hmemUpd.1 hd).1 hr hkey
          exact (hmemUpd.1 hd).2.2 (hdr ▸ hra)
        · obtain ⟨old, hold, hkey⟩ := List.mem_map.1 hk
          refine Or.inl ⟨hmemUpd.2 ⟨hr, hk, hra⟩, Or.inl (List.mem_map.2 ⟨old, ?_, hkey⟩)⟩
          rw [mem_delete_removed hactual hrem]
          exact ⟨(hact.1 hold).1, fun _ => hkey ▸ List.mem_map_of_mem hr⟩
      · refine Or.inr ⟨Or.inr (hmemIns.2 ⟨hr, hk⟩), fun hku => ?_⟩
        obtain ⟨d, hd, hkey⟩ := List.mem_map.1 hku
        exact hk (hkey ▸ (hmemUpd.1 hd).2.1)

end Perm

end GcsSaker.KeyedDelta
