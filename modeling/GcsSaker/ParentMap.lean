import GcsSaker.Grouping
import Mathlib.Data.Fintype.Card

/-!
# Parent maps

`parent x` is the parent of `x`, if it has one. `climb parent n x` is the ancestor `n` levels above
`x`, and `x` is `Grounded` when its line of ancestors ends. A grounded node has each of its
ancestors on one level only, and among finitely many nodes its line is no longer than their number.
Giving a node a new parent keeps all nodes grounded exactly when the new parent is not below the
node.

The nodes of a `Forest` are listed. A fold gives each node a value from the values of its children,
and walking down from the roots meets every node once.
-/

namespace GcsSaker.ParentMap

variable {ι : Type*} {parent parent' : ι → Option ι}

def climb (parent : ι → Option ι) : ℕ → ι → Option ι
  | 0, x => some x
  | n + 1, x => (parent x).bind (climb parent n)

@[simp] theorem climb_zero (x : ι) : climb parent 0 x = some x := rfl

theorem climb_succ (n : ℕ) (x : ι) :
    climb parent (n + 1) x = (parent x).bind (climb parent n) := rfl

theorem climb_add (m n : ℕ) (x : ι) :
    climb parent (m + n) x = (climb parent m x).bind (climb parent n) := by
  induction m generalizing x with
  | zero => rw [Nat.zero_add, climb_zero, Option.bind_some]
  | succ m ih =>
      rw [Nat.succ_add, climb_succ, climb_succ, Option.bind_assoc]
      congr 1
      exact funext ih

theorem climb_one (x : ι) : climb parent 1 x = parent x := by
  rw [climb_succ]
  exact Option.bind_fun_some (parent x)

theorem climb_succ_eq (n : ℕ) (x : ι) :
    climb parent (n + 1) x = (climb parent n x).bind parent := by
  rw [climb_add]
  congr 1
  exact funext climb_one

theorem climb_none_of_le {x : ι} {m n : ℕ} (hm : climb parent m x = none) (hmn : m ≤ n) :
    climb parent n x = none := by
  obtain ⟨k, rfl⟩ := Nat.exists_eq_add_of_le hmn
  rw [climb_add, hm, Option.bind_none]

/-- Only the parents of the nodes on the way matter. -/
theorem climb_congr {x : ι} (h : ∀ n a, climb parent n x = some a → parent' a = parent a) (n : ℕ) :
    climb parent' n x = climb parent n x := by
  induction n with
  | zero => rfl
  | succ n ih =>
      rw [climb_succ_eq, climb_succ_eq, ih]
      cases ha : climb parent n x with
      | none => rfl
      | some a => exact h n a ha

theorem climb_mono (h : ∀ y p, parent' y = some p → parent y = some p) {n : ℕ} {x a : ι}
    (ha : climb parent' n x = some a) : climb parent n x = some a := by
  induction n generalizing x with
  | zero => exact ha
  | succ n ih =>
      rw [climb_succ, Option.bind_eq_some_iff] at ha
      obtain ⟨p, hp, ha⟩ := ha
      rw [climb_succ, h x p hp, Option.bind_some]
      exact ih ha

theorem exists_climb_iff {x a : ι} :
    (∃ n, climb parent n x = some a) ↔
      Relation.ReflTransGen (fun y p => parent y = some p) x a := by
  constructor
  · rintro ⟨n, hn⟩
    induction n generalizing a with
    | zero =>
        cases hn
        exact Relation.ReflTransGen.refl
    | succ n ih =>
        rw [climb_succ_eq, Option.bind_eq_some_iff] at hn
        obtain ⟨y, hy, hp⟩ := hn
        exact Relation.ReflTransGen.tail (ih hy) hp
  · intro h
    induction h with
    | refl => exact ⟨0, rfl⟩
    | tail _ hp ih =>
        obtain ⟨n, hn⟩ := ih
        exact ⟨n + 1, by rw [climb_succ_eq, hn, Option.bind_some, hp]⟩

/-! ## Lines that end -/

def Grounded (parent : ι → Option ι) (x : ι) : Prop := ∃ n, climb parent n x = none

theorem Grounded.of_climb {x a : ι} {n : ℕ} (hx : Grounded parent x)
    (ha : climb parent n x = some a) : Grounded parent a := by
  obtain ⟨m, hm⟩ := hx
  refine ⟨m, ?_⟩
  have hlong : climb parent (n + m) x = none := climb_none_of_le hm (Nat.le_add_left m n)
  rwa [climb_add, ha] at hlong

theorem Grounded.of_parent {x p : ι} (hp : parent x = some p) (h : Grounded parent p) :
    Grounded parent x := by
  obtain ⟨n, hn⟩ := h
  exact ⟨n + 1, by rw [climb_succ, hp, Option.bind_some, hn]⟩

theorem grounded_of_parent_eq_none {x : ι} (h : parent x = none) : Grounded parent x :=
  ⟨1, by rw [climb_one, h]⟩

theorem Grounded.anti {x : ι} (h : ∀ y p, parent' y = some p → parent y = some p)
    (hx : Grounded parent x) : Grounded parent' x := by
  obtain ⟨n, hn⟩ := hx
  refine ⟨n, ?_⟩
  cases ha : climb parent' n x with
  | none => rfl
  | some a =>
      rw [climb_mono h ha] at hn
      cases hn

theorem climb_mul_of_loop {a : ι} {k : ℕ} (h : climb parent k a = some a) (j : ℕ) :
    climb parent (k * j) a = some a := by
  induction j with
  | zero => rfl
  | succ j ih => rw [Nat.mul_succ, climb_add, ih, Option.bind_some, h]

/-- A grounded node is not its own ancestor. -/
theorem Grounded.climb_ne {a : ι} {k : ℕ} (ha : Grounded parent a) (hk : 0 < k) :
    climb parent k a ≠ some a := by
  intro hloop
  obtain ⟨n, hn⟩ := ha
  have hround := climb_mul_of_loop hloop n
  rw [climb_none_of_le hn (Nat.le_mul_of_pos_left n hk)] at hround
  cases hround

theorem level_unique {x a : ι} {m n : ℕ} (h : ∀ k, climb parent (k + 1) a ≠ some a)
    (hm : climb parent m x = some a) (hn : climb parent n x = some a) : m = n := by
  wlog hle : m ≤ n generalizing m n
  · exact (this hn hm (Nat.le_of_not_le hle)).symm
  obtain ⟨k, rfl⟩ := Nat.exists_eq_add_of_le hle
  rw [climb_add, hm, Option.bind_some] at hn
  cases k with
  | zero => rfl
  | succ k => exact absurd hn (h k)

theorem Grounded.level_unique {x a : ι} {m n : ℕ} (hx : Grounded parent x)
    (hm : climb parent m x = some a) (hn : climb parent n x = some a) : m = n :=
  ParentMap.level_unique (fun k => (hx.of_climb hm).climb_ne (Nat.succ_pos k)) hm hn

/-- Without a loop a line through the nodes of `S` has at most as many levels as `S` has nodes. -/
theorem climb_card {x : ι} {S : Finset ι}
    (hloop : ∀ n a, climb parent n x = some a → ∀ k, climb parent (k + 1) a ≠ some a)
    (hS : ∀ n a, climb parent n x = some a → a ∈ S) : climb parent S.card x = none := by
  by_contra hne
  obtain ⟨top, htop⟩ := Option.ne_none_iff_exists'.1 hne
  have hsome : ∀ i : Fin (S.card + 1), ∃ a, climb parent i x = some a := by
    intro i
    refine Option.ne_none_iff_exists'.1 fun hi => ?_
    rw [climb_none_of_le hi (Nat.lt_succ_iff.1 i.isLt)] at htop
    cases htop
  choose node hnode using hsome
  have hinj : Function.Injective node := by
    intro i j hij
    exact Fin.ext (level_unique (hloop i _ (hnode i)) (hnode i) (hij ▸ hnode j))
  have hcard := Finset.card_le_card_of_injOn node
    (s := Finset.univ) (t := S) (fun i _ => hS i (node i) (hnode i)) hinj.injOn
  rw [Finset.card_univ, Fintype.card_fin] at hcard
  omega

theorem Grounded.climb_card {x : ι} {S : Finset ι} (hx : Grounded parent x)
    (hS : ∀ n a, climb parent n x = some a → a ∈ S) : climb parent S.card x = none :=
  ParentMap.climb_card (fun _ _ ha k => (hx.of_climb ha).climb_ne (Nat.succ_pos k)) hS

/-! ## Forests of listed nodes -/

section Forest

variable {nodes : List ι} {x y a b : ι} {n : ℕ}

/-- The nodes are distinct, every parent is one of them, and none is its own ancestor. -/
structure Forest (nodes : List ι) (parent : ι → Option ι) : Prop where
  nodup : nodes.Nodup
  parent_mem : ∀ x p, parent x = some p → p ∈ nodes
  acyclic : ∀ x n, climb parent (n + 1) x ≠ some x

def roots (nodes : List ι) (parent : ι → Option ι) : List ι := nodes.filter (parent · = none)

theorem mem_roots : y ∈ roots nodes parent ↔ y ∈ nodes ∧ parent y = none := by
  rw [roots, List.mem_filter, decide_eq_true_iff]

namespace Forest

theorem climb_mem (h : Forest nodes parent) (hy : y ∈ nodes) (ha : climb parent n y = some a) :
    a ∈ nodes := by
  cases n with
  | zero =>
      cases ha
      exact hy
  | succ n =>
      rw [climb_succ_eq, Option.bind_eq_some_iff] at ha
      obtain ⟨c, -, hc⟩ := ha
      exact h.parent_mem c a hc

/-- Two nodes above one node are the same if they have the same parent. -/
theorem eq_of_climb (h : Forest nodes parent) {m : ℕ} (ha : climb parent m y = some a)
    (hb : climb parent n y = some b) (hparent : parent a = parent b) : a = b := by
  wlog hle : m ≤ n generalizing a b m n
  · exact (this hb ha hparent.symm (Nat.le_of_not_le hle)).symm
  obtain ⟨k, rfl⟩ := Nat.exists_eq_add_of_le hle
  rw [climb_add, ha, Option.bind_some] at hb
  cases k with
  | zero => exact Option.some.inj hb
  | succ k =>
      rw [climb_succ, Option.bind_eq_some_iff] at hb
      obtain ⟨p, hp, hb⟩ := hb
      refine absurd ?_ (h.acyclic p k)
      rw [climb_succ_eq, hb, Option.bind_some, ← hparent, hp]

end Forest

variable [DecidableEq ι]

def children (nodes : List ι) (parent : ι → Option ι) (x : ι) : List ι :=
  nodes.filter (parent · = some x)

theorem mem_children : y ∈ children nodes parent x ↔ y ∈ nodes ∧ parent y = some x := by
  rw [children, List.mem_filter, decide_eq_true_iff]

namespace Forest

theorem level_lt (h : Forest nodes parent) (hy : y ∈ nodes) (ha : climb parent n y = some a) :
    n < nodes.length := by
  by_contra hle
  have hend : climb parent nodes.toFinset.card y = none :=
    climb_card (fun _ _ _ => h.acyclic _) fun _ _ hb => List.mem_toFinset.2 (h.climb_mem hy hb)
  rw [List.toFinset_card_of_nodup h.nodup] at hend
  rw [climb_none_of_le hend (Nat.le_of_not_lt hle)] at ha
  cases ha

/-- What holds of a node once it holds of its children holds of every node. -/
theorem induction_children (h : Forest nodes parent) {P : ι → Prop}
    (hstep : ∀ x ∈ nodes, (∀ c ∈ children nodes parent x, P c) → P x) : ∀ x ∈ nodes, P x := by
  have hlevels : ∀ n, ∀ x ∈ nodes,
      (∀ y ∈ nodes, ∀ k, climb parent k y = some x → k < n) → P x := by
    intro n
    induction n with
    | zero => exact fun x hx hlt => absurd (hlt x hx 0 rfl) (Nat.lt_irrefl 0)
    | succ n ih =>
        intro x hx hlt
        refine hstep x hx fun c hc => ?_
        obtain ⟨hcmem, hparent⟩ := mem_children.1 hc
        refine ih c hcmem fun y hy k hk => Nat.lt_of_succ_lt_succ (hlt y hy (k + 1) ?_)
        rw [climb_succ_eq, hk, Option.bind_some, hparent]
  exact fun x hx => hlevels nodes.length x hx fun y hy k hk => h.level_lt hy hk

end Forest

/-! ### Folding -/

section Fold

variable {β : Type*} {make : ι → List β → β} {deep : β}

/-- The value of a node from the values of its children, `n` levels deep. -/
def fold (nodes : List ι) (parent : ι → Option ι) (make : ι → List β → β) (deep : β) : ℕ → ι → β
  | 0, _ => deep
  | n + 1, x => make x ((children nodes parent x).map (fold nodes parent make deep n))

theorem fold_succ : fold nodes parent make deep (n + 1) x =
    make x ((children nodes parent x).map (fold nodes parent make deep n)) := rfl

theorem fold_stable {m : ℕ} (hx : x ∈ nodes)
    (hlt : ∀ y ∈ nodes, ∀ k, climb parent k y = some x → k < m) (hmn : m ≤ n) :
    fold nodes parent make deep n x = fold nodes parent make deep m x := by
  induction m generalizing n x with
  | zero => exact absurd (hlt x hx 0 rfl) (Nat.lt_irrefl 0)
  | succ m ih =>
      obtain ⟨n, rfl⟩ := Nat.exists_eq_succ_of_ne_zero (Nat.ne_zero_of_lt hmn)
      rw [fold_succ, fold_succ]
      congr 1
      refine List.map_congr_left fun c hc => ?_
      obtain ⟨hcmem, hparent⟩ := mem_children.1 hc
      refine ih hcmem (fun y hy k hk => Nat.lt_of_succ_lt_succ (hlt y hy (k + 1) ?_))
        (Nat.le_of_succ_le_succ hmn)
      rw [climb_succ_eq, hk, Option.bind_some, hparent]

theorem Forest.fold_of_le (h : Forest nodes parent) (hx : x ∈ nodes) (hn : nodes.length ≤ n) :
    fold nodes parent make deep n x = fold nodes parent make deep nodes.length x :=
  fold_stable hx (fun _ hy _ hk => h.level_lt hy hk) hn

/-- As many levels as there are nodes are enough. -/
theorem Forest.fold_eq (h : Forest nodes parent) (hx : x ∈ nodes) :
    fold nodes parent make deep nodes.length x =
      make x ((children nodes parent x).map (fold nodes parent make deep nodes.length)) := by
  rw [← h.fold_of_le hx (Nat.le_succ _), fold_succ]

end Fold

/-! ### What is below a node -/

/-- The node and all nodes below it, each in front of those below it. -/
def below (nodes : List ι) (parent : ι → Option ι) (x : ι) : List ι :=
  fold nodes parent (fun x lists => x :: lists.flatten) [] nodes.length x

namespace Forest

theorem below_eq (h : Forest nodes parent) (hx : x ∈ nodes) :
    below nodes parent x = x :: (children nodes parent x).flatMap (below nodes parent) := by
  rw [below, h.fold_eq hx]
  rfl

theorem mem_below (h : Forest nodes parent) (hx : x ∈ nodes) :
    y ∈ below nodes parent x ↔ y ∈ nodes ∧ ∃ n, climb parent n y = some x := by
  have hall : ∀ x ∈ nodes, (y ∈ below nodes parent x ↔
      y ∈ nodes ∧ ∃ n, climb parent n y = some x) := by
    refine h.induction_children fun x hx ih => ?_
    rw [h.below_eq hx, List.mem_cons, List.mem_flatMap]
    constructor
    · rintro (rfl | ⟨c, hc, hy⟩)
      · exact ⟨hx, 0, rfl⟩
      · obtain ⟨hmem, n, hn⟩ := (ih c hc).1 hy
        refine ⟨hmem, n + 1, ?_⟩
        rw [climb_succ_eq, hn, Option.bind_some, (mem_children.1 hc).2]
    · rintro ⟨hmem, n, hn⟩
      cases n with
      | zero => exact .inl (Option.some.inj hn)
      | succ n =>
          rw [climb_succ_eq, Option.bind_eq_some_iff] at hn
          obtain ⟨c, hc, hparent⟩ := hn
          have hchild := mem_children.2 ⟨h.climb_mem hmem hc, hparent⟩
          exact .inr ⟨c, hchild, (ih c hchild).2 ⟨hmem, n, hc⟩⟩
  exact hall x hx

/-- Nodes with the same parent have no node below both of them. -/
theorem pairwise_disjoint_below (h : Forest nodes parent) {siblings : List ι}
    (hsiblings : siblings.Sublist nodes)
    (hparent : ∀ a ∈ siblings, ∀ b ∈ siblings, parent a = parent b) :
    siblings.Pairwise (Function.onFun List.Disjoint (below nodes parent)) := by
  refine (h.nodup.sublist hsiblings).imp_of_mem fun {a b} ha hb hne y hya hyb => hne ?_
  obtain ⟨-, m, hm⟩ := (h.mem_below (hsiblings.subset ha)).1 hya
  obtain ⟨-, n, hn⟩ := (h.mem_below (hsiblings.subset hb)).1 hyb
  exact h.eq_of_climb hm hn (hparent a ha b hb)

theorem nodup_below (h : Forest nodes parent) : ∀ x ∈ nodes, (below nodes parent x).Nodup := by
  refine h.induction_children fun x hx ih => ?_
  rw [h.below_eq hx, List.nodup_cons, List.nodup_flatMap]
  refine ⟨fun hmem => ?_, ih, h.pairwise_disjoint_below List.filter_sublist fun a ha b hb => ?_⟩
  · obtain ⟨c, hc, hxc⟩ := List.mem_flatMap.1 hmem
    obtain ⟨hcmem, hparent⟩ := mem_children.1 hc
    obtain ⟨-, n, hn⟩ := (h.mem_below hcmem).1 hxc
    refine h.acyclic x n ?_
    rw [climb_succ_eq, hn, Option.bind_some, hparent]
  · rw [(mem_children.1 ha).2, (mem_children.1 hb).2]

theorem exists_root (h : Forest nodes parent) (hy : y ∈ nodes) :
    ∃ r ∈ roots nodes parent, ∃ n, climb parent n y = some r := by
  by_contra hnone
  have hall : ∀ n, ∃ a, climb parent n y = some a := by
    intro n
    induction n with
    | zero => exact ⟨y, rfl⟩
    | succ n ih =>
        obtain ⟨a, ha⟩ := ih
        obtain ⟨p, hp⟩ : ∃ p, parent a = some p := by
          refine Option.ne_none_iff_exists'.1 fun hroot => hnone ?_
          exact ⟨a, mem_roots.2 ⟨h.climb_mem hy ha, hroot⟩, n, ha⟩
        exact ⟨p, by rw [climb_succ_eq, ha, Option.bind_some, hp]⟩
  obtain ⟨a, ha⟩ := hall nodes.length
  exact absurd (h.level_lt hy ha) (Nat.lt_irrefl _)

/-- Every node is below exactly one root, and is met there once. -/
theorem flatMap_below_perm (h : Forest nodes parent) :
    ((roots nodes parent).flatMap (below nodes parent)).Perm nodes := by
  have hroots : (roots nodes parent).Sublist nodes := List.filter_sublist
  refine (List.perm_ext_iff_of_nodup ?_ h.nodup).2 fun y => ?_
  · rw [List.nodup_flatMap]
    refine ⟨fun r hr => h.nodup_below r (hroots.subset hr),
      h.pairwise_disjoint_below hroots fun a ha b hb => ?_⟩
    rw [(mem_roots.1 ha).2, (mem_roots.1 hb).2]
  · rw [List.mem_flatMap]
    constructor
    · rintro ⟨r, hr, hy⟩
      exact ((h.mem_below (hroots.subset hr)).1 hy).1
    · intro hy
      obtain ⟨r, hr, hn⟩ := h.exists_root hy
      exact ⟨r, hr, (h.mem_below (hroots.subset hr)).2 ⟨hy, hn⟩⟩

/-- Every node is a root or one of the children of one node. -/
theorem roots_append_children_perm (h : Forest nodes parent) :
    (roots nodes parent ++ nodes.flatMap (children nodes parent)).Perm nodes := by
  have hkeys : (nodes.map some).Nodup := h.nodup.map (Option.some_injective ι)
  have hchildren := Grouping.flatMap_filter_perm parent nodes hkeys
  rw [List.flatMap_map] at hchildren
  refine List.Perm.trans (.append_left _ (hchildren.trans (.of_eq ?_)))
    (List.filter_append_perm (parent · = none) nodes)
  refine List.filter_congr fun x _ => ?_
  rw [← decide_not]
  refine decide_eq_decide.2 ⟨fun hx hnone => ?_, fun hx => ?_⟩
  · obtain ⟨p, -, hp⟩ := List.mem_map.1 hx
    rw [hnone] at hp
    cases hp
  · obtain ⟨p, hp⟩ := Option.ne_none_iff_exists'.1 hx
    exact List.mem_map.2 ⟨p, h.parent_mem x p hp, hp.symm⟩

end Forest

end Forest

/-! ## A new parent -/

section Update

variable [DecidableEq ι] {x : ι} {p : ι}

theorem climb_update_of_forall_ne {y : ι} {q : Option ι}
    (h : ∀ n, climb parent n y ≠ some x) (n : ℕ) :
    climb (Function.update parent x q) n y = climb parent n y := by
  refine climb_congr (fun m a ha => ?_) n
  have hax : a ≠ x := fun hax => h m (hax ▸ ha)
  exact Function.update_of_ne hax q parent

/-- A node that is given its descendant as a parent is its own ancestor from then on. -/
theorem climb_update_loop {n : ℕ} (hn : climb parent n p = some x)
    (hfirst : ∀ m < n, climb parent m p ≠ some x) :
    climb (Function.update parent x (some p)) (n + 1) x = some x := by
  rw [climb_succ, Function.update_self, Option.bind_some]
  have hpath : ∀ m ≤ n, climb (Function.update parent x (some p)) m p = climb parent m p := by
    intro m hm
    induction m with
    | zero => rfl
    | succ m ih =>
        rw [climb_succ_eq, climb_succ_eq, ih (by omega)]
        cases ha : climb parent m p with
        | none => rfl
        | some a =>
            have hax : a ≠ x := fun hax => hfirst m (by omega) (hax ▸ ha)
            exact Function.update_of_ne hax (some p) parent
  rw [hpath n le_rfl, hn]

/-- A new parent that grounds its node grounds all nodes. -/
theorem grounded_update_of_self {q : Option ι} (h : ∀ y, Grounded parent y)
    (hx : Grounded (Function.update parent x q) x) (y : ι) :
    Grounded (Function.update parent x q) y := by
  obtain ⟨n, hn⟩ := h y
  induction n generalizing y with
  | zero => cases hn
  | succ n ih =>
      by_cases hyx : y = x
      · exact hyx ▸ hx
      · have hsame : Function.update parent x q y = parent y := Function.update_of_ne hyx q parent
        cases hparent : parent y with
        | none => exact grounded_of_parent_eq_none (hsame.trans hparent)
        | some p =>
            rw [climb_succ, hparent, Option.bind_some] at hn
            exact Grounded.of_parent (hsame.trans hparent) (ih p hn)

theorem grounded_update_iff (h : ∀ y, Grounded parent y) :
    (∀ y, Grounded (Function.update parent x (some p)) y) ↔
      ∀ n, climb parent n p ≠ some x := by
  constructor
  · intro hall n hn
    have hex : ∃ m, climb parent m p = some x := ⟨n, hn⟩
    classical
    have hloop := climb_update_loop (Nat.find_spec hex) fun m hm => Nat.find_min hex hm
    exact (hall x).climb_ne (Nat.succ_pos _) hloop
  · intro hfree
    have hp : Grounded (Function.update parent x (some p)) p := by
      obtain ⟨n, hn⟩ := h p
      exact ⟨n, by rw [climb_update_of_forall_ne hfree, hn]⟩
    exact grounded_update_of_self h (Grounded.of_parent (Function.update_self x (some p) parent) hp)

/-- A node that becomes a root grounds what was below it. -/
theorem grounded_update_none (h : ∀ y, Grounded parent y) (y : ι) :
    Grounded (Function.update parent x none) y :=
  grounded_update_of_self h (grounded_of_parent_eq_none (Function.update_self x none parent)) y

end Update

end GcsSaker.ParentMap
