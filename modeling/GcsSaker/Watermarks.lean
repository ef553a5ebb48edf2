import Mathlib.Data.List.Sort

/-!
# Following a watermark

A reader follows a growing store by the keys of its elements. It takes what stands after its
watermark, the smallest keys first and a limited number at a time, and sets the watermark to the
last key it has taken. So it takes an element once, if the watermark has not passed the key of the
element by the time that it is stored, and never otherwise.
-/

namespace GcsSaker.Watermarks

variable {ε κ : Type*} (key : ε → κ)

/-- The watermark after some elements have been taken. -/
def moved (mark : κ) (taken : List ε) : κ := (taken.getLast?.map key).getD mark

variable {key} {mark : κ} {store : List ε} {e : ε}

theorem moved_concat (taken : List ε) : moved key mark (taken ++ [e]) = key e := by
  rw [moved, List.getLast?_concat, Option.map_some, Option.getD_some]

theorem moved_eq_or (key : ε → κ) (mark : κ) (taken : List ε) :
    moved key mark taken = mark ∨ ∃ e ∈ taken, moved key mark taken = key e := by
  rcases List.eq_nil_or_concat taken with rfl | ⟨front, last, rfl⟩
  · exact .inl rfl
  · rw [List.concat_eq_append]
    exact .inr ⟨last, List.mem_append_right _ (List.mem_singleton_self last), moved_concat front⟩

/-- The elements after the watermark, in the order of their keys. -/
def pending [LinearOrder κ] (key : ε → κ) (mark : κ) (store : List ε) : List ε :=
  (store.filter fun e => mark < key e).insertionSort fun e e' => key e ≤ key e'

variable [LinearOrder κ] {limit : ℕ}

instance total_key : Std.Total fun e e' : ε => key e ≤ key e' := ⟨fun e e' => le_total (key e) (key e')⟩

instance trans_key : IsTrans ε fun e e' => key e ≤ key e' := ⟨fun _ _ _ h h' => h.trans h'⟩

theorem mem_pending : e ∈ pending key mark store ↔ e ∈ store ∧ mark < key e := by
  rw [pending, List.mem_insertionSort, List.mem_filter, decide_eq_true_iff]

theorem pending_perm : (pending key mark store).Perm (store.filter fun e => mark < key e) :=
  List.perm_insertionSort _ _

/-- A mark below every key leaves the whole store. -/
theorem pending_perm_store (h : ∀ e ∈ store, mark < key e) : (pending key mark store).Perm store :=
  pending_perm.trans (List.Perm.of_eq (List.filter_eq_self.2 fun e he => decide_eq_true (h e he)))

/-- Elements of different keys stand in a strict order. -/
theorem pending_sorted (mark : κ) (hkeys : (store.map key).Nodup) :
    (pending key mark store).Pairwise fun e e' => key e < key e' := by
  have hsorted : (pending key mark store).Pairwise fun e e' => key e ≤ key e' :=
    List.pairwise_insertionSort _ _
  have hdistinct : ((pending key mark store).map key).Nodup := by
    rw [(pending_perm.map key).nodup_iff]
    exact hkeys.sublist (List.filter_sublist.map key)
  rw [List.Nodup, List.pairwise_map] at hdistinct
  exact (hsorted.and hdistinct).imp fun h => lt_of_le_of_ne h.1 h.2

theorem pending_nodup (mark : κ) (hkeys : (store.map key).Nodup) :
    (pending key mark store).Nodup :=
  (pending_sorted mark hkeys).imp fun h heq => h.ne (congrArg key heq)

theorem le_moved_of_mem {taken : List ε} (hsorted : taken.Pairwise fun e e' => key e < key e')
    (he : e ∈ taken) : key e ≤ moved key mark taken := by
  rcases List.eq_nil_or_concat taken with rfl | ⟨front, last, rfl⟩
  · exact absurd he List.not_mem_nil
  · rw [List.concat_eq_append] at hsorted he ⊢
    rw [moved_concat]
    rcases List.mem_append.1 he with hfront | hlast
    · exact ((List.pairwise_append.1 hsorted).2.2 e hfront last (List.mem_singleton_self last)).le
    · rw [List.mem_singleton.1 hlast]

theorem le_moved (limit : ℕ) : mark ≤ moved key mark ((pending key mark store).take limit) := by
  rcases moved_eq_or key mark ((pending key mark store).take limit)
    with hsame | ⟨e, he, hlast⟩
  · exact hsame.ge
  · rw [hlast]
    exact (mem_pending.1 (List.mem_of_mem_take he)).2.le

/-- What a reader takes is what its watermark passes. -/
theorem mem_taken (hkeys : (store.map key).Nodup) :
    e ∈ (pending key mark store).take limit ↔ e ∈ store ∧ mark < key e ∧
      key e ≤ moved key mark ((pending key mark store).take limit) := by
  have hsorted := pending_sorted mark hkeys
  rw [← List.take_append_drop limit (pending key mark store), List.pairwise_append] at hsorted
  obtain ⟨hfront, -, hlater⟩ := hsorted
  constructor
  · intro he
    obtain ⟨hstored, hafter⟩ := mem_pending.1 (List.mem_of_mem_take he)
    exact ⟨hstored, hafter, le_moved_of_mem hfront he⟩
  · rintro ⟨hstored, hafter, hpassed⟩
    have hpending := mem_pending.2 ⟨hstored, hafter⟩
    rw [← List.take_append_drop limit (pending key mark store)] at hpending
    rcases List.mem_append.1 hpending with htaken | hleft
    · exact htaken
    · rcases moved_eq_or key mark ((pending key mark store).take limit)
        with hsame | ⟨last, hlast, heq⟩
      · rw [hsame] at hpassed
        exact absurd hafter hpassed.not_gt
      · rw [heq] at hpassed
        exact absurd (hlater last hlast e hleft) hpassed.not_gt

/-- What has not been taken stands after the new watermark. -/
theorem pending_moved (hkeys : (store.map key).Nodup) (limit : ℕ) :
    pending key (moved key mark ((pending key mark store).take limit)) store =
      (pending key mark store).drop limit := by
  have hnodup := pending_nodup mark hkeys
  have hsame : ∀ e, e ∈ pending key (moved key mark ((pending key mark store).take limit)) store ↔
      e ∈ (pending key mark store).drop limit := by
    intro e
    have hsplit : e ∈ pending key mark store ↔
        e ∈ (pending key mark store).take limit ∨ e ∈ (pending key mark store).drop limit := by
      rw [← List.mem_append, List.take_append_drop]
    have hdisjoint := List.disjoint_of_nodup_append
      ((List.take_append_drop limit (pending key mark store)).symm ▸ hnodup)
    rw [mem_pending]
    constructor
    · rintro ⟨hstored, hafter⟩
      have hpending := hsplit.1 (mem_pending.2 ⟨hstored, (le_moved limit).trans_lt hafter⟩)
      rcases hpending with htaken | hleft
      · exact absurd ((mem_taken hkeys).1 htaken).2.2 hafter.not_ge
      · exact hleft
    · intro hleft
      obtain ⟨hstored, hafter⟩ := mem_pending.1 (hsplit.2 (.inr hleft))
      refine ⟨hstored, lt_of_not_ge fun hpassed => ?_⟩
      exact hdisjoint ((mem_taken hkeys).2 ⟨hstored, hafter, hpassed⟩) hleft
  have hperm := (List.perm_ext_iff_of_nodup (pending_nodup _ hkeys)
    (hnodup.sublist (List.drop_sublist _ _))).2 hsame
  refine hperm.eq_of_pairwise ?_ (pending_sorted _ hkeys)
    ((pending_sorted mark hkeys).sublist (List.drop_sublist _ _))
  intro a b _ _ hab hba
  exact absurd hab hba.not_gt

end GcsSaker.Watermarks
