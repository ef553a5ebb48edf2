import Mathlib.Algebra.GroupWithZero.Nat
import Mathlib.Data.List.Dedup
import Mathlib.Data.List.Induction

/-!
# Groups of a list

`groupBy` puts the elements of a list into groups by a key. The groups stand in the order in which
their keys came first, and the elements of a group in the order of the list.
-/

namespace GcsSaker.Grouping

variable {α κ : Type*} [DecidableEq κ]

/-- The element goes to the end of its group, and a new group to the end of the groups. -/
def add (k : κ) (x : α) : List (κ × List α) → List (κ × List α)
  | [] => [(k, [x])]
  | group :: groups =>
    if group.1 = k then (group.1, group.2 ++ [x]) :: groups else group :: add k x groups

def groupBy (key : α → κ) (xs : List α) : List (κ × List α) :=
  xs.foldl (fun groups x => add (key x) x groups) []

/-- The different keys, each where it comes first. -/
def firsts (keys : List κ) : List κ := keys.reverse.dedup.reverse

theorem nodup_firsts (keys : List κ) : (firsts keys).Nodup :=
  List.nodup_reverse.2 (List.nodup_dedup _)

@[simp] theorem mem_firsts {k : κ} {keys : List κ} : k ∈ firsts keys ↔ k ∈ keys := by
  rw [firsts, List.mem_reverse, List.mem_dedup, List.mem_reverse]

theorem firsts_concat (keys : List κ) (k : κ) :
    firsts (keys ++ [k]) = if k ∈ keys then firsts keys else firsts keys ++ [k] := by
  rw [firsts, List.reverse_append, List.reverse_singleton, List.singleton_append]
  split_ifs with h
  · rw [List.dedup_cons_of_mem (List.mem_reverse.2 h), firsts]
  · rw [List.dedup_cons_of_notMem (mt List.mem_reverse.1 h), List.reverse_cons, firsts]

variable {key : α → κ} {xs : List α} {x : α} {k : κ}

theorem add_of_notMem {keys : List κ} {elements : κ → List α} (h : k ∉ keys) :
    add k x (keys.map fun k => (k, elements k)) =
      (keys.map fun k => (k, elements k)) ++ [(k, [x])] := by
  induction keys with
  | nil => rfl
  | cons k' keys ih =>
      obtain ⟨hne, hrest⟩ := not_or.1 (mt List.mem_cons.2 h)
      rw [List.map_cons, add, if_neg (Ne.symm hne), ih hrest, List.cons_append]

theorem add_of_mem {keys : List κ} {elements : κ → List α} (hnodup : keys.Nodup) (h : k ∈ keys) :
    add k x (keys.map fun k => (k, elements k)) =
      keys.map fun k' => (k', if k' = k then elements k' ++ [x] else elements k') := by
  induction keys with
  | nil => exact absurd h List.not_mem_nil
  | cons k' keys ih =>
      obtain ⟨hnot, hrest⟩ := List.nodup_cons.1 hnodup
      rw [List.map_cons, List.map_cons, add]
      by_cases heq : k' = k
      · rw [if_pos heq, if_pos heq]
        refine congrArg _ (List.map_congr_left fun k'' hk => ?_)
        have hne : k'' ≠ k := fun hk' => hnot (heq.trans hk'.symm ▸ hk)
        rw [if_neg hne]
      · rw [if_neg heq, if_neg heq, ih hrest ((List.mem_cons.1 h).resolve_left (Ne.symm heq))]

theorem groupBy_eq (key : α → κ) (xs : List α) :
    groupBy key xs = (firsts (xs.map key)).map fun k => (k, xs.filter fun x => key x = k) := by
  induction xs using List.reverseRecOn with
  | nil => rfl
  | append_singleton xs x ih =>
      rw [groupBy, List.foldl_concat, ← groupBy, ih, List.map_append, List.map_singleton,
        firsts_concat]
      split_ifs with h
      · rw [add_of_mem (nodup_firsts _) (mem_firsts.2 h)]
        refine List.map_congr_left fun k _ => ?_
        rw [List.filter_append, List.filter_singleton]
        by_cases hk : k = key x
        · rw [if_pos hk, decide_eq_true hk.symm, cond_true]
        · rw [if_neg hk, decide_eq_false (Ne.symm hk), cond_false, List.append_nil]
      · have hnone : xs.filter (fun y => key y = key x) = [] := by
          refine List.filter_eq_nil_iff.2 fun y hy heq => h ?_
          exact List.mem_map.2 ⟨y, hy, of_decide_eq_true heq⟩
        rw [add_of_notMem (mt mem_firsts.1 h), List.map_append, List.map_singleton,
          List.filter_append, hnone, List.filter_singleton, decide_eq_true rfl, cond_true,
          List.nil_append]
        congr 1
        refine List.map_congr_left fun k hk => ?_
        have hne : key x ≠ k := fun heq => h (heq ▸ mem_firsts.1 hk)
        rw [List.filter_append, List.filter_singleton, decide_eq_false hne, cond_false,
          List.append_nil]

theorem mem_groupBy {ys : List α} :
    (k, ys) ∈ groupBy key xs ↔ k ∈ xs.map key ∧ ys = xs.filter fun x => key x = k := by
  rw [groupBy_eq, List.mem_map]
  simp only [mem_firsts, Prod.mk.injEq]
  constructor
  · rintro ⟨k, hk, rfl, rfl⟩
    exact ⟨hk, rfl⟩
  · rintro ⟨hk, rfl⟩
    exact ⟨k, hk, rfl, rfl⟩

theorem lookup_map_mem [BEq κ] [LawfulBEq κ] {keys : List κ} {elements : κ → List α} :
    (keys.map fun k => (k, elements k)).lookup k =
      if k ∈ keys then some (elements k) else none := by
  induction keys with
  | nil => rfl
  | cons k' keys ih =>
      rw [List.map_cons, List.lookup_cons, ih]
      by_cases h : k = k'
      · rw [h, beq_self_eq_true, if_pos List.mem_cons_self]
      · simp only [beq_eq_false_iff_ne.2 h, List.mem_cons, or_iff_right h]

/-- A key without a group has no elements. -/
theorem getD_lookup_groupBy [BEq κ] [LawfulBEq κ] (key : α → κ) (xs : List α) (k : κ) :
    ((groupBy key xs).lookup k).getD [] = xs.filter fun x => key x = k := by
  rw [groupBy_eq, lookup_map_mem]
  split_ifs with h
  · rfl
  · refine (List.filter_eq_nil_iff.2 fun x hx heq => h ?_).symm
    exact mem_firsts.2 (List.mem_map.2 ⟨x, hx, of_decide_eq_true heq⟩)

/-- The elements of different keys, one key after the other, are the elements of these keys. -/
theorem flatMap_filter_perm (key : α → κ) (xs : List α) {keys : List κ} (h : keys.Nodup) :
    (keys.flatMap fun k => xs.filter fun x => key x = k).Perm
      (xs.filter fun x => key x ∈ keys) := by
  induction keys with
  | nil => simp only [List.flatMap_nil, List.not_mem_nil, decide_false, List.filter_false,
      List.Perm.refl]
  | cons k keys ih =>
      obtain ⟨hk, hkeys⟩ := List.nodup_cons.1 h
      have hsplit := List.filter_append_perm (fun x => decide (key x = k))
        (xs.filter fun x => key x ∈ k :: keys)
      have hhead : (xs.filter fun x => key x ∈ k :: keys).filter (fun x => key x = k) =
          xs.filter fun x => key x = k := by
        rw [List.filter_filter]
        refine List.filter_congr fun x _ => ?_
        rw [← Bool.decide_and]
        exact decide_eq_decide.2 (and_iff_left_of_imp fun hx => hx ▸ List.mem_cons_self)
      have htail : (xs.filter fun x => key x ∈ k :: keys).filter (fun x => !decide (key x = k)) =
          xs.filter fun x => key x ∈ keys := by
        rw [List.filter_filter]
        refine List.filter_congr fun x _ => ?_
        rw [← decide_not, ← Bool.decide_and]
        refine decide_eq_decide.2 ⟨fun hx => (List.mem_cons.1 hx.2).resolve_left hx.1, fun hx => ?_⟩
        exact ⟨fun heq => hk (heq ▸ hx), List.mem_cons_of_mem _ hx⟩
      rw [hhead, htail] at hsplit
      rw [List.flatMap_cons]
      exact ((ih hkeys).append_left _).trans hsplit

theorem map_fst_groupBy (key : α → κ) (xs : List α) :
    (groupBy key xs).map Prod.fst = firsts (xs.map key) := by
  rw [groupBy_eq, List.map_map]
  exact List.map_id _

theorem sum_length_add (k : κ) (x : α) (groups : List (κ × List α)) :
    ((add k x groups).map fun group => group.2.length).sum =
      (groups.map fun group => group.2.length).sum + 1 := by
  induction groups with
  | nil => rfl
  | cons group groups ih =>
      rw [add]
      split_ifs
      · rw [List.map_cons, List.map_cons, List.sum_cons, List.sum_cons, List.length_append,
          List.length_singleton]
        omega
      · rw [List.map_cons, List.map_cons, List.sum_cons, List.sum_cons, ih, Nat.add_assoc]

/-- Every element stands in one group. -/
theorem sum_length_groupBy (key : α → κ) (xs : List α) :
    ((groupBy key xs).map fun group => group.2.length).sum = xs.length := by
  induction xs using List.reverseRecOn with
  | nil => rfl
  | append_singleton xs x ih =>
      rw [groupBy, List.foldl_concat, ← groupBy, sum_length_add, ih, List.length_append,
        List.length_singleton]

variable {κ' : Type*} [DecidableEq κ'] {f : κ → κ'}

theorem firsts_map {keys : List κ} (hinj : ∀ k ∈ keys, ∀ k' ∈ keys, f k = f k' → k = k') :
    firsts (keys.map f) = (firsts keys).map f := by
  induction keys using List.reverseRecOn with
  | nil => rfl
  | append_singleton keys k ih =>
      have hfront := ih fun k hk k' hk' =>
        hinj k (List.mem_append_left _ hk) k' (List.mem_append_left _ hk')
      have hmem : f k ∈ keys.map f ↔ k ∈ keys := by
        refine ⟨fun h => ?_, List.mem_map_of_mem⟩
        obtain ⟨k', hk', heq⟩ := List.mem_map.1 h
        rwa [← hinj k' (List.mem_append_left _ hk') k (List.mem_append_right _
          (List.mem_singleton_self k)) heq]
      rw [List.map_append, List.map_singleton, firsts_concat, firsts_concat, hfront]
      simp only [hmem]
      split_ifs
      · rfl
      · rw [List.map_append, List.map_singleton]

/-- Keys that tell the same elements apart make the same groups. -/
theorem groupBy_comp (f : κ → κ') (key : α → κ)
    (hinj : ∀ x ∈ xs, ∀ y ∈ xs, f (key x) = f (key y) → key x = key y) :
    groupBy (fun x => f (key x)) xs = (groupBy key xs).map fun group => (f group.1, group.2) := by
  have hkeys : firsts (xs.map fun x => f (key x)) = (firsts (xs.map key)).map f := by
    rw [← firsts_map, List.map_map]
    · rfl
    · intro k hk k' hk' heq
      obtain ⟨x, hx, rfl⟩ := List.mem_map.1 hk
      obtain ⟨y, hy, rfl⟩ := List.mem_map.1 hk'
      exact hinj x hx y hy heq
  rw [groupBy_eq, groupBy_eq, hkeys, List.map_map, List.map_map]
  refine List.map_congr_left fun k hk => ?_
  obtain ⟨y, hy, rfl⟩ := List.mem_map.1 (mem_firsts.1 hk)
  refine Prod.ext rfl (List.filter_congr fun x hx => decide_eq_decide.2 ?_)
  exact ⟨hinj x hx y hy, congrArg f⟩

end GcsSaker.Grouping
