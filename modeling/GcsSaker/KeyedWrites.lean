import Mathlib.Data.List.Nodup

/-!
# Writes to a keyed table

A table is a partial map from keys to rows. `write key row t r` puts at `key r` the row that
`row r` makes of what is there. `writeAll` writes the records of a list one after the other: over
distinct keys each record meets the original table, and writes that overwrite leave at each key
the row of the last record that has it.
-/

namespace GcsSaker.KeyedWrites

variable {κ ρ ν : Type*} [DecidableEq κ]

def write (key : ρ → κ) (row : ρ → Option ν → ν) (t : κ → Option ν) (r : ρ) : κ → Option ν :=
  Function.update t (key r) (some (row r (t (key r))))

def writeAll (key : ρ → κ) (row : ρ → Option ν → ν) (t : κ → Option ν) (rs : List ρ) :
    κ → Option ν :=
  rs.foldl (write key row) t

variable (key : ρ → κ) (row row' : ρ → Option ν → ν) (t : κ → Option ν)

@[simp] theorem write_at (r : ρ) : write key row t r (key r) = some (row r (t (key r))) := by
  rw [write, Function.update_self]

theorem write_other (r : ρ) {k : κ} (hk : key r ≠ k) : write key row t r k = t k := by
  rw [write, Function.update_of_ne hk.symm]

@[simp] theorem writeAll_nil : writeAll key row t [] = t := rfl

@[simp] theorem writeAll_cons (r : ρ) (rs : List ρ) :
    writeAll key row t (r :: rs) = writeAll key row (write key row t r) rs := rfl

theorem writeAll_append (rs rs' : List ρ) :
    writeAll key row t (rs ++ rs') = writeAll key row (writeAll key row t rs) rs' := by
  rw [writeAll, List.foldl_append]
  rfl

theorem writeAll_map {ρ' : Type*} (f : ρ' → ρ) (rs : List ρ') :
    writeAll key row t (rs.map f) = writeAll (key ∘ f) (fun r => row (f r)) t rs := by
  rw [writeAll, List.foldl_map]
  rfl

theorem writeAll_other {rs : List ρ} {k : κ} (hk : ∀ r ∈ rs, key r ≠ k) :
    writeAll key row t rs k = t k := by
  induction rs generalizing t with
  | nil => rfl
  | cons r rs ih =>
      rw [writeAll_cons, ih _ fun r' hr' => hk r' (List.mem_cons_of_mem r hr'),
        write_other key row t r (hk r List.mem_cons_self)]

/-- Over distinct keys every record meets the row of the original table. -/
theorem writeAll_at {rs : List ρ} (hn : (rs.map key).Nodup) {r : ρ} (hr : r ∈ rs) :
    writeAll key row t rs (key r) = some (row r (t (key r))) := by
  induction rs generalizing t with
  | nil => cases hr
  | cons r' rs ih =>
      rw [List.map_cons, List.nodup_cons] at hn
      rw [writeAll_cons]
      rcases List.mem_cons.1 hr with rfl | hr
      · have hother : ∀ r' ∈ rs, key r' ≠ key r :=
          fun r' hr' he => hn.1 (he ▸ List.mem_map_of_mem hr')
        rw [writeAll_other key row _ hother, write_at]
      · have hne : key r' ≠ key r := fun he => hn.1 (he ▸ List.mem_map_of_mem hr)
        rw [ih _ hn.2 hr, write_other key row t r' hne]

theorem writeAll_congr {rs : List ρ} (hn : (rs.map key).Nodup) :
    writeAll key row t rs = writeAll key row' t rs ↔
      ∀ r ∈ rs, row r (t (key r)) = row' r (t (key r)) := by
  constructor
  · intro h r hr
    have hk := congrFun h (key r)
    rw [writeAll_at key row t hn hr, writeAll_at key row' t hn hr] at hk
    exact Option.some.inj hk
  · intro h
    funext k
    by_cases hk : ∃ r ∈ rs, key r = k
    · obtain ⟨r, hr, rfl⟩ := hk
      rw [writeAll_at key row t hn hr, writeAll_at key row' t hn hr, h r hr]
    · have hother : ∀ r ∈ rs, key r ≠ k := fun r hr he => hk ⟨r, hr, he⟩
      rw [writeAll_other key row t hother, writeAll_other key row' t hother]

/-- The records of a key, in the order of the list. -/
def having (k : κ) (rs : List ρ) : List ρ := rs.filter fun r => key r = k

theorem having_append (k : κ) (rs rs' : List ρ) :
    having key k (rs ++ rs') = having key k rs ++ having key k rs' := List.filter_append ..

theorem mem_having {k : κ} {rs : List ρ} {r : ρ} :
    r ∈ having key k rs ↔ r ∈ rs ∧ key r = k := by
  rw [having, List.mem_filter, decide_eq_true_iff]

theorem having_cons (k : κ) (r : ρ) (rs : List ρ) :
    having key k (r :: rs) = if key r = k then r :: having key k rs else having key k rs := by
  by_cases hk : key r = k
  · rw [if_pos hk, having, List.filter_cons_of_pos (by simp [hk]), having]
  · rw [if_neg hk, having, List.filter_cons_of_neg (by simp [hk]), having]

theorem having_eq_nil {k : κ} {rs : List ρ} (h : ∀ r ∈ rs, key r ≠ k) : having key k rs = [] :=
  List.filter_eq_nil_iff.2 fun r hr he => h r hr (of_decide_eq_true he)

theorem having_eq_singleton {rs : List ρ} (hn : (rs.map key).Nodup) {r : ρ} (hr : r ∈ rs) :
    having key (key r) rs = [r] := by
  induction rs with
  | nil => cases hr
  | cons r' rs ih =>
      rw [List.map_cons, List.nodup_cons] at hn
      rw [having_cons]
      rcases List.mem_cons.1 hr with rfl | hr
      · rw [if_pos rfl, having_eq_nil]
        intro r' hr' he
        exact hn.1 (he ▸ List.mem_map_of_mem hr')
      · rw [if_neg, ih hn.2 hr]
        intro he
        exact hn.1 (he ▸ List.mem_map_of_mem hr)

/-- Writes that overwrite leave the row of the last record of the key. -/
theorem writeAll_overwrite (new : ρ → ν) (rs : List ρ) (k : κ) :
    writeAll key (fun r _ => new r) t rs k =
      (((having key k rs).getLast?).map new).or (t k) := by
  induction rs generalizing t with
  | nil => rfl
  | cons r rs ih =>
      rw [writeAll_cons, ih, having_cons]
      by_cases hk : key r = k
      · subst hk
        rw [if_pos rfl, write_at, List.getLast?_cons]
        cases (having key (key r) rs).getLast? with
        | none => rfl
        | some r' => rfl
      · rw [if_neg hk, write_other key _ t r hk]

end GcsSaker.KeyedWrites
