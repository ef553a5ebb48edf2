import GcsSaker.KeyedDelta
import Mathlib.Data.List.GetD

/-!
# Rows with a key

A list of rows that differ in their keys, as the values of a map that keeps the order of its
insertions, or as a table with a primary key. `put` replaces the row of a key in its place or adds
one, and `updateWhere` changes all rows that meet a condition and counts them.
-/

namespace GcsSaker.KeyedRows

open KeyedDelta (find find_some find_eq_none_iff find_eq_some_iff)

variable {κ ρ : Type*} [DecidableEq κ] (key : ρ → κ)

def put (rows : List ρ) (row : ρ) : List ρ :=
  if (find key (key row) rows).isSome then rows.map fun r => if key r = key row then row else r
  else rows ++ [row]

def updateWhere (p : ρ → Bool) (f : ρ → ρ) (rows : List ρ) : List ρ × ℕ :=
  (rows.map fun r => if p r then f r else r, rows.countP p)

variable {key} {rows : List ρ} {row : ρ} {k : κ}

theorem put_of_find_none (h : find key (key row) rows = none) :
    put key rows row = rows ++ [row] := by
  rw [put, h]
  rfl

theorem put_of_find {r : ρ} (h : find key (key row) rows = some r) :
    put key rows row = rows.map fun r => if key r = key row then row else r := by
  rw [put, h]
  rfl

theorem map_key_replace (rows : List ρ) (row : ρ) :
    (rows.map fun r => if key r = key row then row else r).map key = rows.map key := by
  rw [List.map_map]
  apply List.map_congr_left
  intro r _
  rw [Function.comp_apply, apply_ite key]
  split_ifs with h
  · exact h.symm
  · rfl

theorem nodup_put (hnodup : (rows.map key).Nodup) (row : ρ) :
    ((put key rows row).map key).Nodup := by
  cases h : find key (key row) rows with
  | none =>
      rw [put_of_find_none h, List.map_append, List.map_singleton, List.nodup_append]
      refine ⟨hnodup, List.nodup_singleton _, ?_⟩
      intro k hk k' hk' heq
      rw [heq, List.mem_singleton.1 hk'] at hk
      exact find_eq_none_iff.1 h hk
  | some r =>
      rw [put_of_find h, map_key_replace]
      exact hnodup

theorem mem_put {r : ρ} (h : r ∈ put key rows row) : r = row ∨ r ∈ rows := by
  cases hfind : find key (key row) rows with
  | none =>
      rw [put_of_find_none hfind, List.mem_append, List.mem_singleton] at h
      exact h.symm
  | some r' =>
      rw [put_of_find hfind] at h
      obtain ⟨old, hold, rfl⟩ := List.mem_map.1 h
      split_ifs
      · exact .inl rfl
      · exact .inr hold

theorem find_replace (rows : List ρ) (row : ρ) (k : κ) :
    find key k (rows.map fun r => if key r = key row then row else r) =
      if key row = k then (find key k rows).map fun _ => row else find key k rows := by
  induction rows with
  | nil =>
      split_ifs <;> rfl
  | cons first rows ih =>
      unfold find at ih ⊢
      rw [List.map_cons, List.find?_cons, List.find?_cons]
      by_cases hfirst : key first = key row
      · rw [if_pos hfirst, hfirst]
        by_cases hk : key row = k
        · simp only [hk, decide_true, if_true, Option.map_some]
        · simp only [hk, decide_false, if_false]
          rw [ih, if_neg hk]
      · rw [if_neg hfirst]
        by_cases hk : key first = k
        · have hne : key row ≠ k := fun h => hfirst (hk.trans h.symm)
          simp only [hk, decide_true, if_neg hne]
        · simp only [hk, decide_false]
          exact ih

theorem find_put (rows : List ρ) (row : ρ) (k : κ) :
    find key k (put key rows row) = if key row = k then some row else find key k rows := by
  cases h : find key (key row) rows with
  | none =>
      have happend : find key k (rows ++ [row]) =
          (find key k rows).or (if key row = k then some row else none) := by
        rw [find, List.find?_append, List.find?_singleton]
        simp only [decide_eq_true_eq]
        rfl
      rw [put_of_find_none h, happend]
      split_ifs with hk
      · rw [← hk, h, Option.none_or]
      · rw [Option.or_none]
  | some r =>
      rw [put_of_find h, find_replace]
      split_ifs with hk
      · rw [← hk, h, Option.map_some]
      · rfl

/-- Of the rows with distinct keys, a condition on the key picks one. -/
theorem updateWhere_of_find (hnodup : (rows.map key).Nodup) (h : find key k rows = some row)
    {p : ρ → Bool} {f : ρ → ρ} (hp : ∀ r ∈ rows, p r = true → key r = k) (hrow : p row = true)
    (hf : key (f row) = k) : updateWhere p f rows = (put key rows (f row), 1) := by
  have heq : ∀ r ∈ rows, key r = k → r = row := fun r hmem hkey =>
    Option.some.inj (((find_eq_some_iff hnodup).2 ⟨hmem, hkey⟩).symm.trans h)
  have hiff : ∀ r ∈ rows, p r = true ↔ key r = k := fun r hmem =>
    ⟨hp r hmem, fun hkey => (heq r hmem hkey).symm ▸ hrow⟩
  rw [put_of_find (hf.symm ▸ h)]
  refine Prod.ext (List.map_congr_left fun r hmem => ?_) ?_
  · rw [hf]
    by_cases hkey : key r = k
    · rw [if_pos ((hiff r hmem).2 hkey), if_pos hkey, heq r hmem hkey]
    · rw [if_neg fun hr => hkey (hp r hmem hr), if_neg hkey]
  · have hone : (rows.map key).count k = 1 := by
      apply List.count_eq_one_of_mem hnodup
      rw [← (find_some h).2]
      exact List.mem_map_of_mem (find_some h).1
    rw [List.count, List.countP_map] at hone
    rw [updateWhere, ← hone]
    apply List.countP_congr
    intro r hmem
    rw [hiff r hmem, Function.comp_apply, beq_iff_eq]

theorem updateWhere_of_forall {p : ρ → Bool} (hp : ∀ r ∈ rows, p r = false) (f : ρ → ρ) :
    updateWhere p f rows = (rows, 0) := by
  refine Prod.ext ?_ ?_
  · rw [updateWhere]
    dsimp only
    conv_rhs => rw [← List.map_id rows]
    apply List.map_congr_left
    intro r hmem
    rw [hp r hmem]
    rfl
  · exact List.countP_eq_zero.2 fun r hmem hr => Bool.false_ne_true ((hp r hmem).symm.trans hr)

end GcsSaker.KeyedRows

/-!
# Columns under a sequence of edits

An edit wants values for some columns of a row and leaves the others. A column is kept when it has
the last value that an edit wanted for it, or the one it began with, and a counter is kept when it
rose at least once for every edit.
-/

namespace GcsSaker.RowEdits

variable {ρ ε γ : Type*}

/-- The last value that an edit of the list wants. -/
def lastWanted (wants : ε → Option γ) (edits : List ε) : Option γ :=
  (edits.filterMap wants).getLast?

theorem lastWanted_concat (wants : ε → Option γ) (edits : List ε) (e : ε) :
    lastWanted wants (edits ++ [e]) = (wants e).or (lastWanted wants edits) := by
  rw [lastWanted, List.filterMap_append]
  cases h : wants e with
  | none => rw [List.filterMap_cons_none h, List.filterMap_nil, List.append_nil, Option.none_or,
      lastWanted]
  | some v => rw [List.filterMap_cons_some h, List.filterMap_nil, List.getLast?_concat,
      Option.some_or]

/-- The column has the last value wanted for it. -/
def ColumnKept (column : ρ → γ) (wants : ε → Option γ) (first row : ρ) (edits : List ε) : Prop :=
  column row = (lastWanted wants edits).getD (column first)

instance {column : ρ → γ} {wants : ε → Option γ} {first row : ρ} {edits : List ε} [DecidableEq γ] :
    Decidable (ColumnKept column wants first row edits) :=
  inferInstanceAs (Decidable (_ = _))

def CounterKept (counter : ρ → ℕ) (first row : ρ) (edits : List ε) : Prop :=
  counter first + edits.length ≤ counter row

variable {column : ρ → γ} {wants : ε → Option γ} {counter : ρ → ℕ} {first row row' : ρ}
  {edits : List ε}

/-- An edit of the row as it stands keeps the column. -/
theorem ColumnKept.concat (h : ColumnKept column wants first row edits) {e : ε}
    (hrow : column row' = (wants e).getD (column row)) :
    ColumnKept column wants first row' (edits ++ [e]) := by
  unfold ColumnKept at h ⊢
  rw [lastWanted_concat, hrow, h]
  cases wants e with
  | none => rfl
  | some v => rfl

theorem counterKept_nil : CounterKept counter first first ([] : List ε) := Nat.le_refl _

theorem CounterKept.concat (h : CounterKept counter first row edits) {e : ε}
    (hrow : counter row < counter row') : CounterKept counter first row' (edits ++ [e]) := by
  unfold CounterKept at h ⊢
  rw [List.length_append, List.length_singleton]
  omega

end GcsSaker.RowEdits
