import Mathlib.Order.Lattice
import Mathlib.Data.List.Basic

/-!
# The intervals of a sorted list

`intervals l` lists the pairs of consecutive entries of `l`. In a sorted list they cover everything
between the least and the greatest entry, and no entry lies strictly inside one.
-/

namespace GcsSaker

variable {α : Type*}

def intervals (l : List α) : List (α × α) := l.zip l.tail

theorem intervals_cons_cons (x y : α) (l : List α) :
    intervals (x :: y :: l) = (x, y) :: intervals (y :: l) := rfl

theorem mem_of_mem_intervals {l : List α} {i : α × α} (hi : i ∈ intervals l) :
    i.1 ∈ l ∧ i.2 ∈ l := by
  obtain ⟨h1, h2⟩ := List.of_mem_zip hi
  exact ⟨h1, List.mem_of_mem_tail h2⟩

variable [LinearOrder α]

theorem exists_interval {l : List α} (hl : l.Pairwise (· ≤ ·)) {a b t : α} (ha : a ∈ l)
    (hb : b ∈ l) (hab : a < b) (hat : a ≤ t) (htb : t ≤ b) :
    ∃ i ∈ intervals l, i.1 ≤ t ∧ t ≤ i.2 := by
  induction l generalizing a with
  | nil => cases ha
  | cons x l ih =>
      obtain ⟨hx, hl⟩ := List.pairwise_cons.mp hl
      cases l with
      | nil =>
          rw [List.mem_singleton.mp ha, List.mem_singleton.mp hb] at hab
          exact (lt_irrefl x hab).elim
      | cons y l =>
          rw [intervals_cons_cons]
          rcases le_or_gt t y with hty | hyt
          · have hxa : x ≤ a := by
              rcases List.mem_cons.mp ha with rfl | ha
              · exact le_rfl
              · exact hx a ha
            exact ⟨(x, y), List.mem_cons_self, hxa.trans hat, hty⟩
          · have hyb : y < b := hyt.trans_le htb
            have hb' : b ∈ y :: l := by
              rcases List.mem_cons.mp hb with rfl | hb
              · exact absurd (hx y List.mem_cons_self) (not_le.mpr hyb)
              · exact hb
            obtain ⟨i, hi, hit⟩ := ih hl List.mem_cons_self hb' hyb hyt.le
            exact ⟨i, List.mem_cons_of_mem _ hi, hit⟩

theorem le_or_le_of_mem_intervals {l : List α} (hl : l.Pairwise (· ≤ ·)) {i : α × α}
    (hi : i ∈ intervals l) {c : α} (hc : c ∈ l) : c ≤ i.1 ∨ i.2 ≤ c := by
  induction l with
  | nil => cases hc
  | cons x l ih =>
      obtain ⟨hx, hl⟩ := List.pairwise_cons.mp hl
      cases l with
      | nil => cases hi
      | cons y l =>
          rw [intervals_cons_cons] at hi
          rcases List.mem_cons.mp hi with rfl | hrest
          · rcases List.mem_cons.mp hc with rfl | hc
            · exact Or.inl le_rfl
            · rcases List.mem_cons.mp hc with rfl | hc
              · exact Or.inr le_rfl
              · exact Or.inr ((List.pairwise_cons.mp hl).1 c hc)
          · rcases List.mem_cons.mp hc with rfl | hc
            · exact Or.inl (hx i.1 (mem_of_mem_intervals hrest).1)
            · exact ih hl hrest hc

end GcsSaker
