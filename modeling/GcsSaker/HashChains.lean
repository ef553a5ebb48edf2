import Mathlib.Data.List.Basic

/-!
# Hash chains

Entries that name the entry before them by its hash. `Chain` says that a list of entries leads
from one hash to another.
-/

namespace GcsSaker.HashChains

variable {α κ : Type*} {previous hash : α → Option κ}

def Chain (previous hash : α → Option κ) : κ → List α → κ → Prop
  | first, [], last => first = last
  | first, entry :: entries, last =>
    previous entry = some first ∧
      ∃ next, hash entry = some next ∧ Chain previous hash next entries last

theorem chain_nil {first last : κ} : Chain previous hash first [] last ↔ first = last := Iff.rfl

theorem chain_cons {first last : κ} {entry : α} {entries : List α} :
    Chain previous hash first (entry :: entries) last ↔ previous entry = some first ∧
      ∃ next, hash entry = some next ∧ Chain previous hash next entries last := Iff.rfl

theorem chain_append {first last : κ} {entries entries' : List α} :
    Chain previous hash first (entries ++ entries') last ↔
      ∃ middle, Chain previous hash first entries middle ∧
        Chain previous hash middle entries' last := by
  induction entries generalizing first with
  | nil => simp only [List.nil_append, chain_nil, exists_eq_left']
  | cons entry entries ih =>
      rw [List.cons_append, chain_cons]
      simp only [ih, chain_cons]
      constructor
      · rintro ⟨hprevious, next, hnext, middle, hfront, hback⟩
        exact ⟨middle, ⟨hprevious, next, hnext, hfront⟩, hback⟩
      · rintro ⟨middle, ⟨hprevious, next, hnext, hfront⟩, hback⟩
        exact ⟨hprevious, next, hnext, middle, hfront, hback⟩

/-- A chain grows by an entry that names the hash it has led to. -/
theorem Chain.concat {first last next : κ} {entries : List α} {entry : α}
    (h : Chain previous hash first entries last) (hprevious : previous entry = some last)
    (hhash : hash entry = some next) : Chain previous hash first (entries ++ [entry]) next :=
  chain_append.2 ⟨last, h, hprevious, next, hhash, rfl⟩

end GcsSaker.HashChains
