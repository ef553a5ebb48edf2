import Mathlib.Data.List.AList
import Mathlib.Data.List.Perm.Basic

/-!
# How many keys hold a value

The number of entries of an association list with a given value, and what inserting and erasing an
entry make of it.
-/

namespace GcsSaker.ValueCounts

variable {α β γ : Type*}

/-- The number of keys that hold the value. -/
def valueCount [DecidableEq β] (m : AList fun _ : α => β) (b : β) : ℕ :=
  m.entries.countP fun e => decide (e.2 = b)

/-- Where there are two values, their counts add up to the number of keys. -/
theorem valueCount_add [DecidableEq β] {b c : β} (hne : b ≠ c) (htwo : ∀ d, d = b ∨ d = c)
    (m : AList fun _ : α => β) : valueCount m b + valueCount m c = m.entries.length := by
  rw [List.length_eq_countP_add_countP (fun e => decide (e.2 = b)), valueCount, valueCount]
  congr 1
  refine List.countP_congr fun e _ => ?_
  rcases htwo e.2 with hb | hc
  · simp only [hb, hne, decide_false, decide_true, not_true_eq_false]
  · simp only [hc, Ne.symm hne, decide_true, decide_false, Bool.not_eq_true]

theorem keys_length (m : AList fun _ : α => β) : m.keys.length = m.entries.length :=
  List.length_map _

/-- Association lists with the same keys have the same length. -/
theorem length_eq_of_mem_iff {m : AList fun _ : α => β} {m' : AList fun _ : α => γ}
    (h : ∀ a, a ∈ m ↔ a ∈ m') : m.entries.length = m'.entries.length := by
  have hperm : m.keys.Perm m'.keys := (List.perm_ext_iff_of_nodup m.keys_nodup m'.keys_nodup).mpr h
  rw [← keys_length, ← keys_length, hperm.length_eq]

variable [DecidableEq α]

theorem length_erase_lt {m : AList fun _ : α => β} {a : α} (ha : a ∈ m) :
    (m.erase a).entries.length < m.entries.length := by
  rw [← keys_length, ← keys_length, AList.keys_erase, List.length_erase_of_mem ha]
  have hpos : 0 < m.keys.length := List.length_pos_of_mem ha
  omega

theorem length_erase_le (m : AList fun _ : α => β) (a : α) :
    (m.erase a).entries.length ≤ m.entries.length := by
  rw [← keys_length, ← keys_length, AList.keys_erase]
  exact List.length_erase_le

variable [DecidableEq β]

/-- Erasing an entry takes one from the count of its value. -/
theorem valueCount_erase {m : AList fun _ : α => β} {a : α} {c : β} (h : m.lookup a = some c)
    (b : β) : valueCount (m.erase a) b + (if c = b then 1 else 0) = valueCount m b := by
  have hmem : a ∈ m.entries.keys := by
    rw [← AList.keys, ← AList.mem_keys, ← AList.lookup_isSome, h, Option.isSome_some]
  obtain ⟨c', l, l', hfirst, hentries, herase⟩ := List.exists_of_kerase hmem
  have hvalue : c' = c := by
    have hin : (⟨a, c'⟩ : Σ _ : α, β) ∈ m.entries := by
      rw [hentries]
      exact List.mem_append_right l (List.mem_cons_self ..)
    have hlookup : m.lookup a = some c' := AList.mem_lookup_iff.mpr hin
    rw [h, Option.some.injEq] at hlookup
    exact hlookup.symm
  have herased : (m.erase a).entries = l ++ l' := herase
  rw [valueCount, valueCount, herased, hentries, List.countP_append, List.countP_append,
    List.countP_cons, hvalue]
  simp only [decide_eq_true_eq]
  omega

theorem valueCount_erase_of_none {m : AList fun _ : α => β} {a : α} (h : m.lookup a = none)
    (b : β) : valueCount (m.erase a) b = valueCount m b := by
  have hnot : a ∉ m.entries.keys := AList.lookup_eq_none.mp h
  have herased : (m.erase a).entries = m.entries := List.kerase_of_notMem_keys hnot
  rw [valueCount, herased, valueCount]

theorem valueCount_insert (m : AList fun _ : α => β) (a : α) (c b : β) :
    valueCount (m.insert a c) b = valueCount (m.erase a) b + if c = b then 1 else 0 := by
  have herased : (m.erase a).entries = m.entries.kerase a := rfl
  rw [valueCount, AList.entries_insert, List.countP_cons, valueCount, herased]
  simp only [decide_eq_true_eq]

end GcsSaker.ValueCounts
