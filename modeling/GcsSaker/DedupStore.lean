import GcsSaker.Machines
import Mathlib.Data.Set.Insert

/-!
# Stores that take every identity once

A store keeps one entry for each key and remembers the identities that it has taken. An item goes
to the entry of its key, unless the entry refuses it or its identity has been taken before, from
whatever key. The items of other keys leave the entry of a key as it is exactly as long as none of
them takes an identity that this key brings later.
-/

namespace GcsSaker.DedupStore

open Machines (final Along)

variable {σ α β κ ι ν : Type*}

/-- How a machine is read as such a store. `held` lists the identities that an entry holds. -/
structure Reading (σ α κ ι ν : Type*) where
  key : α → κ
  id : α → Option ι
  taken : σ → Set ι
  entry : σ → κ → ν
  held : ν → Set ι
  take : ν → α → Option ν

namespace Reading

variable (R : Reading σ α κ ι ν)

/-- The item changes nothing. -/
def Passes (s : σ) (x : α) : Prop :=
  R.take (R.entry s (R.key x)) x = none ∨ ∃ i ∈ R.id x, i ∈ R.taken s

/-- No identity of an item that the entry of the key would take has been taken from another key. -/
def Undisturbed (k : κ) (s : σ) (x : α) : Prop :=
  R.key x = k → R.take (R.entry s k) x ≠ none →
    ∀ i ∈ R.id x, i ∈ R.taken s → i ∈ R.held (R.entry s k)

end Reading

/-- The machine does what its reading says. -/
structure Deduplicates (step : σ → α → σ × β) (R : Reading σ α κ ι ν) : Prop where
  other : ∀ s x k, R.key x ≠ k → R.entry (step s x).1 k = R.entry s k
  passed : ∀ s x, R.Passes s x →
    R.entry (step s x).1 (R.key x) = R.entry s (R.key x) ∧ R.taken (step s x).1 = R.taken s
  taken : ∀ s x e, R.take (R.entry s (R.key x)) x = some e → (∀ i ∈ R.id x, i ∉ R.taken s) →
    R.entry (step s x).1 (R.key x) = e ∧ R.taken (step s x).1 = R.taken s ∪ {i | i ∈ R.id x}
  held : ∀ e x e', R.take e x = some e' → R.held e' = R.held e ∪ {i | i ∈ R.id x}

/-- The two machines hold the same for the key, and the second has taken only what it holds. -/
structure Alone (R : Reading σ α κ ι ν) (k : κ) (s t : σ) : Prop where
  entry : R.entry s k = R.entry t k
  taken : R.taken t = R.held (R.entry t k)
  held : R.held (R.entry s k) ⊆ R.taken s

namespace Deduplicates

variable {step : σ → α → σ × β} {R : Reading σ α κ ι ν} (h : Deduplicates step R)
include h

/-- What an item does to the entry of its key and to the identities taken. -/
theorem effect (s : σ) (x : α) :
    (R.Passes s x ∧ R.entry (step s x).1 (R.key x) = R.entry s (R.key x) ∧
      R.taken (step s x).1 = R.taken s) ∨
    (∃ e, R.take (R.entry s (R.key x)) x = some e ∧ (∀ i ∈ R.id x, i ∉ R.taken s) ∧
      R.entry (step s x).1 (R.key x) = e ∧
      R.taken (step s x).1 = R.taken s ∪ {i | i ∈ R.id x}) := by
  by_cases hp : R.Passes s x
  · exact .inl ⟨hp, h.passed s x hp⟩
  · obtain ⟨htake, hnew⟩ := not_or.1 hp
    obtain ⟨e, he⟩ := Option.ne_none_iff_exists'.1 htake
    have hfresh : ∀ i ∈ R.id x, i ∉ R.taken s := fun i hid hseen => hnew ⟨i, hid, hseen⟩
    exact .inr ⟨e, he, hfresh, h.taken s x e he hfresh⟩

theorem taken_mono {i : ι} {s : σ} (x : α) (hi : i ∈ R.taken s) : i ∈ R.taken (step s x).1 := by
  obtain ⟨-, -, htaken⟩ | ⟨e, -, -, -, htaken⟩ := h.effect s x
  · rw [htaken]
    exact hi
  · rw [htaken]
    exact .inl hi

theorem held_mono {k : κ} {i : ι} {s : σ} (x : α) (hi : i ∈ R.held (R.entry s k)) :
    i ∈ R.held (R.entry (step s x).1 k) := by
  by_cases hk : R.key x = k
  · subst hk
    obtain ⟨-, hentry, -⟩ | ⟨e, htake, -, hentry, -⟩ := h.effect s x
    · rw [hentry]
      exact hi
    · rw [hentry, h.held _ x e htake]
      exact .inl hi
  · rw [h.other s x k hk]
    exact hi

/-- An identity that was taken from another key is never held by this one. -/
theorem lost_step {k : κ} {i : ι} {s : σ} (x : α)
    (hi : i ∈ R.taken s ∧ i ∉ R.held (R.entry s k)) :
    i ∈ R.taken (step s x).1 ∧ i ∉ R.held (R.entry (step s x).1 k) := by
  refine ⟨h.taken_mono x hi.1, ?_⟩
  by_cases hk : R.key x = k
  · subst hk
    obtain ⟨-, hentry, -⟩ | ⟨e, htake, hnew, hentry, -⟩ := h.effect s x
    · rw [hentry]
      exact hi.2
    · rw [hentry, h.held _ x e htake]
      rintro (hheld | hid)
      · exact hi.2 hheld
      · exact hnew i hid hi.1
  · rw [h.other s x k hk]
    exact hi.2

theorem alone_other {k : κ} {s t : σ} {x : α} (hs : Alone R k s t) (hk : R.key x ≠ k) :
    Alone R k (step s x).1 t where
  entry := (h.other s x k hk).trans hs.entry
  taken := hs.taken
  held := by
    rw [h.other s x k hk]
    exact fun i hi => h.taken_mono x (hs.held hi)

/-- An undisturbed item of the key does the same in both machines. -/
theorem alone_same {s t : σ} {x : α} (hs : Alone R (R.key x) s t)
    (hx : R.Undisturbed (R.key x) s x) : Alone R (R.key x) (step s x).1 (step t x).1 := by
  have hheld := hs.held
  rw [hs.entry, ← hs.taken] at hheld
  obtain ⟨hpass, hentry, htaken⟩ | ⟨e, htake, hnew, hentry, htaken⟩ := h.effect s x
  · have hpass' : R.Passes t x := by
      rcases hpass with hnone | ⟨i, hid, hseen⟩
      · exact .inl (hs.entry ▸ hnone)
      · by_cases hnone : R.take (R.entry s (R.key x)) x = none
        · exact .inl (hs.entry ▸ hnone)
        · refine .inr ⟨i, hid, ?_⟩
          rw [hs.taken, ← hs.entry]
          exact hx rfl hnone i hid hseen
    obtain ⟨hentry', htaken'⟩ := h.passed t x hpass'
    exact ⟨by rw [hentry, hentry', hs.entry], by rw [htaken', hentry', hs.taken],
      by rw [hentry, htaken]; exact hs.held⟩
  · have hnew' : ∀ i ∈ R.id x, i ∉ R.taken t := fun i hid hseen => hnew i hid (hheld hseen)
    have htake' : R.take (R.entry t (R.key x)) x = some e := hs.entry ▸ htake
    obtain ⟨hentry', htaken'⟩ := h.taken t x e htake' hnew'
    refine ⟨by rw [hentry, hentry'], ?_, ?_⟩
    · rw [htaken', hentry', h.held _ x e htake', hs.taken]
    · rw [hentry, htaken, h.held _ x e htake]
      exact Set.union_subset_union_left _ hs.held

/-- A disturbed item is lost, but not where its key is alone. -/
theorem lost_of_disturbed {s t : σ} {x : α} (hs : Alone R (R.key x) s t)
    (hx : ¬R.Undisturbed (R.key x) s x) :
    ∃ i, (i ∈ R.taken (step s x).1 ∧ i ∉ R.held (R.entry (step s x).1 (R.key x))) ∧
      i ∈ R.held (R.entry (step t x).1 (R.key x)) := by
  simp only [Reading.Undisturbed, not_forall] at hx
  obtain ⟨-, htake, i, hid, hseen, hlost⟩ := hx
  refine ⟨i, h.lost_step x ⟨hseen, hlost⟩, ?_⟩
  obtain ⟨hpass, -, -⟩ | ⟨e, htake', -, hentry, -⟩ := h.effect t x
  · rcases hpass with hnone | ⟨j, hjd, hj⟩
    · exact absurd (hs.entry ▸ hnone) htake
    · -- an item has at most one identity, and the second machine has taken only what it holds
      have hji : j = i := Option.some.inj (hjd.symm.trans hid)
      rw [hs.taken, ← hs.entry, hji] at hj
      exact absurd hj hlost
  · rw [hentry, h.held _ x e htake']
    exact .inr hid

/-- Once an identity is lost the entry is never again what the items of its key alone make of
it. -/
theorem final_ne_of_lost {k : κ} {i : ι} {s t : σ}
    (hi : i ∈ R.taken s ∧ i ∉ R.held (R.entry s k)) (ht : i ∈ R.held (R.entry t k))
    (xs ys : List α) :
    R.entry (final step s xs) k ≠ R.entry (final step t ys) k := by
  have hs : ∀ xs s, i ∈ R.taken s ∧ i ∉ R.held (R.entry s k) →
      i ∉ R.held (R.entry (final step s xs) k) := by
    intro xs
    induction xs with
    | nil => exact fun s hi => hi.2
    | cons x xs ih => exact fun s hi => ih _ (h.lost_step x hi)
  have ht' : ∀ ys t, i ∈ R.held (R.entry t k) → i ∈ R.held (R.entry (final step t ys) k) := by
    intro ys
    induction ys with
    | nil => exact fun t ht => ht
    | cons y ys ih => exact fun t ht => ih _ (h.held_mono y ht)
  intro heq
  exact hs xs s hi (heq ▸ ht' ys t ht)

/-- The items of other keys do not matter to the entry of a key exactly as long as none of its own
items is disturbed. -/
theorem final_eq_iff [DecidableEq κ] {k : κ} {s t : σ} {xs : List α} (hs : Alone R k s t) :
    R.entry (final step s xs) k = R.entry (final step t (xs.filter fun x => R.key x = k)) k ↔
      Along step (R.Undisturbed k) s xs := by
  induction xs generalizing s t with
  | nil => exact iff_of_true hs.entry trivial
  | cons x xs ih =>
      by_cases hk : R.key x = k
      · subst hk
        rw [List.filter_cons_of_pos (by exact decide_eq_true rfl)]
        by_cases hx : R.Undisturbed (R.key x) s x
        · exact (ih (h.alone_same hs hx)).trans ⟨fun hrest => ⟨hx, hrest⟩, And.right⟩
        · obtain ⟨i, hlost, hheld⟩ := h.lost_of_disturbed hs hx
          exact iff_of_false (h.final_ne_of_lost hlost hheld xs _) fun halong => hx halong.1
      · rw [List.filter_cons_of_neg (by simpa using hk)]
        exact (ih (h.alone_other hs hk)).trans
          ⟨fun hrest => ⟨fun hkey => absurd hkey hk, hrest⟩, And.right⟩

/-- Two undisturbed lists with the same items of a key make the same of its entry. -/
theorem final_eq_of_undisturbed [DecidableEq κ] {k : κ} {s : σ} {xs ys : List α}
    (hs : Alone R k s s) (hsame : xs.filter (R.key · = k) = ys.filter (R.key · = k))
    (hxs : Along step (R.Undisturbed k) s xs) (hys : Along step (R.Undisturbed k) s ys) :
    R.entry (final step s xs) k = R.entry (final step s ys) k := by
  rw [(h.final_eq_iff hs).2 hxs, (h.final_eq_iff hs).2 hys, hsame]

end Deduplicates

end GcsSaker.DedupStore
