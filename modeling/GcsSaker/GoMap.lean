import Mathlib.Data.List.AList

/-!
# Maps that are swept while they are ranged over

`AList` stands for a map of the program. `sweep doomed m` ranges over the entries of `m` and
deletes from the map each one that is `doomed`, as a loop with a `delete` in its body does.
-/

namespace GcsSaker.GoMap

variable {κ ν : Type*} [DecidableEq κ]

def sweep (doomed : κ → ν → Bool) (m : AList fun _ : κ => ν) : AList fun _ : κ => ν :=
  m.entries.foldl (fun acc e => if doomed e.1 e.2 then acc.erase e.1 else acc) m

open scoped Classical in
theorem lookup_foldl_erase (doomed : κ → ν → Bool) (l : List (Σ _ : κ, ν))
    (m : AList fun _ : κ => ν) (k : κ) :
    (l.foldl (fun acc e => if doomed e.1 e.2 then acc.erase e.1 else acc) m).lookup k =
      if ∃ v, ⟨k, v⟩ ∈ l ∧ doomed k v then none else m.lookup k := by
  induction l generalizing m with
  | nil => simp
  | cons e l ih =>
      rw [List.foldl_cons, ih]
      by_cases hl : ∃ v, ⟨k, v⟩ ∈ l ∧ doomed k v
      · obtain ⟨v, hv, hd⟩ := hl
        rw [if_pos ⟨v, hv, hd⟩, if_pos ⟨v, List.mem_cons_of_mem _ hv, hd⟩]
      · rw [if_neg hl]
        by_cases he : k = e.1 ∧ doomed e.1 e.2
        · obtain ⟨rfl, hd⟩ := he
          rw [if_pos hd, AList.lookup_erase, if_pos ⟨e.2, List.mem_cons_self, hd⟩]
        · have hcons : ¬ ∃ v, ⟨k, v⟩ ∈ e :: l ∧ doomed k v := by
            rintro ⟨v, hv, hd⟩
            rcases List.mem_cons.mp hv with rfl | hv
            · exact he ⟨rfl, hd⟩
            · exact hl ⟨v, hv, hd⟩
          rw [if_neg hcons]
          by_cases hd : doomed e.1 e.2
          · rw [if_pos hd, AList.lookup_erase_ne (fun hk => he ⟨hk, hd⟩)]
          · rw [if_neg hd]

/-- What is left after a sweep: exactly the entries that were not doomed. -/
theorem lookup_sweep (doomed : κ → ν → Bool) (m : AList fun _ : κ => ν) (k : κ) :
    (sweep doomed m).lookup k = (m.lookup k).filter fun v => !doomed k v := by
  rw [sweep, lookup_foldl_erase]
  cases hm : m.lookup k with
  | none => simp
  | some v =>
      have hmem : ∀ w, ⟨k, w⟩ ∈ m.entries ↔ w = v := by
        intro w
        rw [← AList.mem_lookup_iff, hm, Option.mem_some_iff, eq_comm]
      simp only [hmem, exists_eq_left]
      by_cases hd : doomed k v <;> simp [Option.filter, hd]

/-- A sweep that finds nothing doomed leaves the map as it is. -/
theorem sweep_eq_self {doomed : κ → ν → Bool} {m : AList fun _ : κ => ν}
    (h : ∀ k v, m.lookup k = some v → doomed k v = false) : sweep doomed m = m := by
  have hfold : ∀ l : List (Σ _ : κ, ν), (∀ e ∈ l, doomed e.1 e.2 = false) →
      l.foldl (fun acc e => if doomed e.1 e.2 then acc.erase e.1 else acc) m = m := by
    intro l hl
    induction l with
    | nil => rfl
    | cons e l ih =>
        rw [List.foldl_cons, if_neg (by rw [hl e List.mem_cons_self]; exact Bool.false_ne_true)]
        exact ih fun e' he' => hl e' (List.mem_cons_of_mem e he')
  apply hfold
  intro e he
  exact h e.1 e.2 (AList.mem_lookup_iff.2 he)

theorem lookup_of_lookup_sweep {doomed : κ → ν → Bool} {m : AList fun _ : κ => ν} {k : κ} {v : ν}
    (h : (sweep doomed m).lookup k = some v) : m.lookup k = some v := by
  rw [lookup_sweep, Option.filter_eq_some_iff] at h
  exact h.1

theorem lookup_of_lookup_erase {m : AList fun _ : κ => ν} {k k' : κ} {v : ν}
    (h : (m.erase k').lookup k = some v) : m.lookup k = some v := by
  by_cases hk : k = k'
  · rw [hk, AList.lookup_erase] at h
    cases h
  · rwa [AList.lookup_erase_ne hk] at h

theorem lookup_insert_cases {m : AList fun _ : κ => ν} {k k' : κ} {v v' : ν}
    (h : (m.insert k' v').lookup k = some v) :
    (k = k' ∧ v = v') ∨ (k ≠ k' ∧ m.lookup k = some v) := by
  by_cases hk : k = k'
  · subst hk
    rw [AList.lookup_insert, Option.some.injEq] at h
    exact Or.inl ⟨rfl, h.symm⟩
  · rw [AList.lookup_insert_ne hk] at h
    exact Or.inr ⟨hk, h⟩

theorem lookup_erase_cases {m : AList fun _ : κ => ν} {k k' : κ} {v : ν}
    (h : (m.erase k').lookup k = some v) : k ≠ k' ∧ m.lookup k = some v := by
  refine ⟨?_, lookup_of_lookup_erase h⟩
  rintro rfl
  rw [AList.lookup_erase] at h
  cases h

theorem length_erase_le (m : AList fun _ : κ => ν) (k : κ) :
    (m.erase k).keys.length ≤ m.keys.length := by
  rw [AList.keys_erase]
  exact (List.erase_sublist ..).length_le

theorem length_erase_of_mem {m : AList fun _ : κ => ν} {k : κ} (h : k ∈ m.keys) :
    (m.erase k).keys.length + 1 = m.keys.length := by
  have hpos := List.length_pos_of_mem h
  rw [AList.keys_erase, List.length_erase_of_mem h]
  omega

theorem length_insert_le (m : AList fun _ : κ => ν) (k : κ) (v : ν) :
    (m.insert k v).keys.length ≤ m.keys.length + 1 := by
  rw [AList.keys_insert, List.length_cons]
  exact Nat.succ_le_succ (List.erase_sublist ..).length_le

theorem length_insert_of_mem {m : AList fun _ : κ => ν} {k : κ} (h : k ∈ m.keys) (v : ν) :
    (m.insert k v).keys.length = m.keys.length := by
  rw [AList.keys_insert, List.length_cons, ← AList.keys_erase]
  exact length_erase_of_mem h

theorem length_sweep_le (doomed : κ → ν → Bool) (m : AList fun _ : κ => ν) :
    (sweep doomed m).keys.length ≤ m.keys.length := by
  have hfold : ∀ (l : List (Σ _ : κ, ν)) (m : AList fun _ : κ => ν),
      (l.foldl (fun acc e => if doomed e.1 e.2 then acc.erase e.1 else acc) m).keys.length ≤
        m.keys.length := by
    intro l
    induction l with
    | nil => exact fun m => Nat.le_refl _
    | cons e l ih =>
        intro m
        rw [List.foldl_cons]
        refine Nat.le_trans (ih _) ?_
        split
        · exact length_erase_le m e.1
        · exact Nat.le_refl _
  exact hfold m.entries m

end GcsSaker.GoMap
