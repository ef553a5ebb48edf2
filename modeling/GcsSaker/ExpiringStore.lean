import Mathlib.Order.Lattice
import Mathlib.Tactic.Common

/-!
# A keyed store whose entries expire

Each key holds at most one value together with the instant from which it is gone. `get` and
`setNX` read the store at a given instant; an entry past its expiry is as good as absent, and a
write replaces whatever the key held.
-/

namespace GcsSaker

structure StoreEntry (τ ν : Type*) where
  value : ν
  expiresAt : τ
  deriving DecidableEq

/-- A store with keys in `κ`, values in `ν` and instants in `τ`. -/
def ExpiringStore (τ κ ν : Type*) := κ → Option (StoreEntry τ ν)

namespace ExpiringStore

variable {τ κ ν : Type*}

def empty : ExpiringStore τ κ ν := fun _ => none

section Write

variable [DecidableEq κ]

def set (store : ExpiringStore τ κ ν) (k : κ) (value : ν) (expiresAt : τ) :
    ExpiringStore τ κ ν :=
  fun k' => if k' = k then some ⟨value, expiresAt⟩ else store k'

@[simp] theorem set_self (store : ExpiringStore τ κ ν) (k : κ) (value : ν) (expiresAt : τ) :
    store.set k value expiresAt k = some ⟨value, expiresAt⟩ := by
  simp only [set, if_true]

theorem set_of_ne (store : ExpiringStore τ κ ν) {k k' : κ} (value : ν) (expiresAt : τ)
    (hk : k' ≠ k) : store.set k value expiresAt k' = store k' := by
  simp only [set, if_neg hk]

theorem forall_set {P : StoreEntry τ ν → Prop} {store : ExpiringStore τ κ ν}
    (h : ∀ k e, store k = some e → P e) {k' : κ} {value : ν} {expiresAt : τ}
    (hnew : P ⟨value, expiresAt⟩) : ∀ k e, store.set k' value expiresAt k = some e → P e := by
  intro k e hk
  by_cases he : k = k'
  · subst he
    rw [set_self, Option.some.injEq] at hk
    exact hk ▸ hnew
  · rw [set_of_ne _ _ _ he] at hk
    exact h k e hk

def erase (store : ExpiringStore τ κ ν) (k : κ) : ExpiringStore τ κ ν :=
  fun k' => if k' = k then none else store k'

@[simp] theorem erase_self (store : ExpiringStore τ κ ν) (k : κ) : store.erase k k = none := by
  simp only [erase, if_true]

theorem erase_of_ne (store : ExpiringStore τ κ ν) {k k' : κ} (hk : k' ≠ k) :
    store.erase k k' = store k' := by
  simp only [erase, if_neg hk]

end Write

variable [LinearOrder τ]

/-- The entry of `k` if it has not expired at `now`. -/
def live (store : ExpiringStore τ κ ν) (now : τ) (k : κ) : Option (StoreEntry τ ν) :=
  (store k).filter fun entry => now < entry.expiresAt

theorem live_eq_some_iff {store : ExpiringStore τ κ ν} {now : τ} {k : κ} {e : StoreEntry τ ν} :
    store.live now k = some e ↔ store k = some e ∧ now < e.expiresAt := by
  simp only [live, Option.filter_eq_some_iff, decide_eq_true_eq]

theorem live_eq_none_iff {store : ExpiringStore τ κ ν} {now : τ} {k : κ} :
    store.live now k = none ↔ ∀ e, store k = some e → e.expiresAt ≤ now := by
  simp only [live, Option.filter_eq_none_iff, decide_eq_true_eq, not_lt]

theorem live_eq_self {store : ExpiringStore τ κ ν} {now : τ} {k : κ}
    (h : ∀ e, store k = some e → now < e.expiresAt) : store.live now k = store k := by
  cases hk : store k with
  | none =>
      apply live_eq_none_iff.mpr
      intro e he
      rw [hk] at he
      cases he
  | some entry => exact live_eq_some_iff.mpr ⟨hk, h entry hk⟩

/-- What is live later is live now. -/
theorem live_mono {store : ExpiringStore τ κ ν} {now later : τ} (h : now ≤ later) {k : κ}
    {e : StoreEntry τ ν} (he : store.live later k = some e) : store.live now k = some e := by
  obtain ⟨hk, hlt⟩ := live_eq_some_iff.1 he
  exact live_eq_some_iff.2 ⟨hk, h.trans_lt hlt⟩

variable [DecidableEq κ]

theorem live_set {store : ExpiringStore τ κ ν} {now expiresAt : τ} {k k' : κ} {value : ν}
    {e : StoreEntry τ ν} (h : (store.set k value expiresAt).live now k' = some e) :
    k' = k ∧ e.value = value ∨ store.live now k' = some e := by
  obtain ⟨hk, hlt⟩ := live_eq_some_iff.1 h
  by_cases hkey : k' = k
  · subst hkey
    rw [set_self, Option.some.injEq] at hk
    exact .inl ⟨rfl, hk ▸ rfl⟩
  · rw [set_of_ne _ _ _ hkey] at hk
    exact .inr (live_eq_some_iff.2 ⟨hk, hlt⟩)

theorem live_erase {store : ExpiringStore τ κ ν} {now : τ} {k k' : κ} {e : StoreEntry τ ν}
    (h : (store.erase k).live now k' = some e) : k' ≠ k ∧ store.live now k' = some e := by
  obtain ⟨hk, hlt⟩ := live_eq_some_iff.1 h
  have hkey : k' ≠ k := by
    rintro rfl
    rw [erase_self] at hk
    cases hk
  rw [erase_of_ne _ hkey] at hk
  exact ⟨hkey, live_eq_some_iff.2 ⟨hk, hlt⟩⟩

/-- Set the key if it holds nothing at `now`, and tell whether it was set. -/
def setNX (store : ExpiringStore τ κ ν) (now : τ) (k : κ) (value : ν) (expiresAt : τ) :
    ExpiringStore τ κ ν × Bool :=
  match store.live now k with
  | some _ => (store, false)
  | none => (store.set k value expiresAt, true)

/-- What a successful `setNX` has done: nothing live was there, and the new entry is. -/
theorem setNX_acquired {store store' : ExpiringStore τ κ ν} {now : τ} {k : κ} {value : ν}
    {expiresAt : τ} (h : store.setNX now k value expiresAt = (store', true)) :
    store.live now k = none ∧ store' = store.set k value expiresAt := by
  unfold setNX at h
  cases hl : store.live now k with
  | some e =>
      simp only [hl] at h
      cases h
  | none =>
      simp only [hl, Prod.mk.injEq, and_true] at h
      exact ⟨rfl, h.symm⟩

end ExpiringStore
end GcsSaker
