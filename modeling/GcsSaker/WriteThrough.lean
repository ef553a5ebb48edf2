import Mathlib.Data.List.Basic

/-!
# Caches that writes refill

A cache keeps answers of a store that changes by one write at a time. The write changes the store
first and puts the keys that it owes afterwards, one after the other; in between, an owed key may
still hold the answer from before.
-/

namespace GcsSaker.WriteThrough

variable {κ ν : Type*}

/-- The store answers the value now, or it did before a write that has yet to put the key. -/
def Current (now before : κ → Option ν) (owed : List κ) (k : κ) (v : ν) : Prop :=
  now k = some v ∨ (before k = some v ∧ k ∈ owed)

def Coherent (now before : κ → Option ν) (owed : List κ) (cached : κ → Option ν) : Prop :=
  ∀ k v, cached k = some v → Current now before owed k v

/-- What is cached and no longer answered after a write is under a key that the write puts. -/
def Covers (cached after : κ → Option ν) (owed : List κ) : Prop :=
  ∀ k v, cached k = some v → after k = some v ∨ k ∈ owed

variable {now before after cached : κ → Option ν} {owed : List κ} {k : κ} {v : ν}

/-- Without a key that is owed only the answers of now are cached. -/
theorem Coherent.eq_now (h : Coherent now before [] cached) (hcached : cached k = some v) :
    now k = some v :=
  (h k v hcached).resolve_right fun hbefore => List.not_mem_nil hbefore.2

theorem Coherent.settle (h : Coherent now before [] cached) : Coherent now now [] cached :=
  fun _ _ hcached => .inl (h.eq_now hcached)

/-- A write is made. -/
theorem Coherent.change (h : Coherent now now [] cached) (hcovers : Covers cached after owed) :
    Coherent after now owed cached := by
  intro k v hcached
  exact (hcovers k v hcached).imp_right fun howed => ⟨h.eq_now hcached, howed⟩

section Puts

variable [DecidableEq κ]

/-- A value that is current is put by somebody else than the write. -/
theorem Coherent.fill (h : Coherent now before owed cached) (hv : Current now before owed k v) :
    Coherent now before owed (Function.update cached k (some v)) := by
  intro k' v' hcached
  by_cases hk : k' = k
  · subst hk
    rw [Function.update_self, Option.some.injEq] at hcached
    exact hcached ▸ hv
  · rw [Function.update_of_ne hk] at hcached
    exact h k' v' hcached

/-- The write puts the first of the keys that it owes. -/
theorem Coherent.put (h : Coherent now before (k :: owed) cached) (hv : now k = some v) :
    Coherent now before owed (Function.update cached k (some v)) := by
  intro k' v' hcached
  by_cases hk : k' = k
  · subst hk
    rw [Function.update_self, Option.some.injEq] at hcached
    exact .inl (hcached ▸ hv)
  · rw [Function.update_of_ne hk] at hcached
    refine (h k' v' hcached).imp_right fun ⟨hbefore, howed⟩ => ⟨hbefore, ?_⟩
    exact (List.mem_cons.1 howed).resolve_left hk

end Puts

end GcsSaker.WriteThrough
