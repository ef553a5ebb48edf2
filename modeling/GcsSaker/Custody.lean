import Mathlib.Data.Set.Insert
import Mathlib.Tactic.Common

/-!
# Tokens that are exchanged once

A token is issued to a holder who puts it away, taken out of the store by a holder, and exchanged
there for the next one. In between it may be lost. As long as what is issued is new, a token is in
one place only, and is exchanged at most once.
-/

namespace GcsSaker

/-- Holders in `κ` with tokens in `τ`: what each has yet to put away, the store, what each has taken
out, and what was exchanged. -/
structure Custody (κ τ : Type*) where
  issued : Set τ
  owed : κ → Option τ
  stored : Set τ
  taken : κ → Option τ
  exchanged : List τ

namespace Custody

variable {κ τ : Type*}

/-- Every token is issued, and in one place. -/
structure Sound (c : Custody κ τ) : Prop where
  owed_issued : ∀ k t, c.owed k = some t → t ∈ c.issued
  stored_issued : c.stored ⊆ c.issued
  taken_issued : ∀ k t, c.taken k = some t → t ∈ c.issued
  exchanged_issued : ∀ t ∈ c.exchanged, t ∈ c.issued
  owed_unique : ∀ k k' t, c.owed k = some t → c.owed k' = some t → k = k'
  taken_unique : ∀ k k' t, c.taken k = some t → c.taken k' = some t → k = k'
  owed_elsewhere : ∀ k t, c.owed k = some t →
    t ∉ c.stored ∧ (∀ k', c.taken k' ≠ some t) ∧ t ∉ c.exchanged
  stored_elsewhere : ∀ t ∈ c.stored, (∀ k, c.taken k ≠ some t) ∧ t ∉ c.exchanged
  taken_elsewhere : ∀ k t, c.taken k = some t → t ∉ c.exchanged
  exchanged_nodup : c.exchanged.Nodup

variable {c c' : Custody κ τ}

theorem Sound.lose (h : c.Sound) {stored : Set τ} (hsub : stored ⊆ c.stored) :
    Sound { c with stored } where
  owed_issued := h.owed_issued
  stored_issued := hsub.trans h.stored_issued
  taken_issued := h.taken_issued
  exchanged_issued := h.exchanged_issued
  owed_unique := h.owed_unique
  taken_unique := h.taken_unique
  owed_elsewhere k t ht :=
    ⟨fun hmem => (h.owed_elsewhere k t ht).1 (hsub hmem), (h.owed_elsewhere k t ht).2⟩
  stored_elsewhere t ht := h.stored_elsewhere t (hsub ht)
  taken_elsewhere := h.taken_elsewhere
  exchanged_nodup := h.exchanged_nodup

variable [DecidableEq κ]

/-- What the holder has yet to put away and what it has taken out. -/
def hold (c : Custody κ τ) (k : κ) (owed taken : Option τ) : Custody κ τ :=
  { c with owed := Function.update c.owed k owed, taken := Function.update c.taken k taken }

inductive Move (c : Custody κ τ) : Custody κ τ → Prop
  | lose {stored : Set τ} (h : stored ⊆ c.stored) : Move c { c with stored }
  | settle {k : κ} {owed taken : Option τ} {stored : Set τ} (h : stored ⊆ c.stored)
      (howed : owed = none ∨ owed = c.owed k) (htaken : taken = none ∨ taken = c.taken k) :
      Move c { c.hold k owed taken with stored }
  | store {k : κ} {t : τ} (h : c.owed k = some t) :
      Move c { c.hold k none none with stored := insert t c.stored }
  | take {k : κ} {t : τ} (h : t ∈ c.stored) :
      Move c { c.hold k none (some t) with stored := c.stored \ {t} }
  | exchange {k : κ} {t : τ} (h : t ∉ c.issued) :
      Move c { c.hold k (some t) none with
        issued := insert t c.issued
        exchanged := (c.taken k).toList ++ c.exchanged }

theorem eq_of_update {f : κ → Option τ} {k k' : κ} {v : Option τ} {t : τ}
    (h : Function.update f k v k' = some t) : k' = k ∧ v = some t ∨ k' ≠ k ∧ f k' = some t := by
  by_cases hk : k' = k
  · subst hk
    rw [Function.update_self] at h
    exact .inl ⟨rfl, h⟩
  · rw [Function.update_of_ne hk] at h
    exact .inr ⟨hk, h⟩

/-- A holder whose new value is its old one or nothing holds nothing new. -/
theorem eq_of_settled {f : κ → Option τ} {k k' : κ} {v : Option τ} {t : τ}
    (hv : v = none ∨ v = f k) (h : Function.update f k v k' = some t) : f k' = some t := by
  rcases eq_of_update h with ⟨rfl, hvalue⟩ | ⟨-, hkept⟩
  · rcases hv with rfl | rfl
    · cases hvalue
    · exact hvalue
  · exact hkept

theorem Sound.settle (h : c.Sound) {k : κ} {owed taken : Option τ}
    (howed : owed = none ∨ owed = c.owed k) (htaken : taken = none ∨ taken = c.taken k) :
    (c.hold k owed taken).Sound where
  owed_issued k' t ht := h.owed_issued k' t (eq_of_settled howed ht)
  stored_issued := h.stored_issued
  taken_issued k' t ht := h.taken_issued k' t (eq_of_settled htaken ht)
  exchanged_issued := h.exchanged_issued
  owed_unique k₁ k₂ t h₁ h₂ :=
    h.owed_unique k₁ k₂ t (eq_of_settled howed h₁) (eq_of_settled howed h₂)
  taken_unique k₁ k₂ t h₁ h₂ :=
    h.taken_unique k₁ k₂ t (eq_of_settled htaken h₁) (eq_of_settled htaken h₂)
  owed_elsewhere k' t ht := by
    obtain ⟨hstored, htaken', hexchanged⟩ := h.owed_elsewhere k' t (eq_of_settled howed ht)
    exact ⟨hstored, fun k'' ht' => htaken' k'' (eq_of_settled htaken ht'), hexchanged⟩
  stored_elsewhere t ht :=
    ⟨fun k' ht' => (h.stored_elsewhere t ht).1 k' (eq_of_settled htaken ht'),
      (h.stored_elsewhere t ht).2⟩
  taken_elsewhere k' t ht := h.taken_elsewhere k' t (eq_of_settled htaken ht)
  exchanged_nodup := h.exchanged_nodup

theorem Sound.store (h : c.Sound) {k : κ} {t : τ} (ht : c.owed k = some t) :
    Sound { c.hold k none none with stored := insert t c.stored } := by
  have hsettled := h.settle (k := k) (Or.inl rfl) (Or.inl rfl)
  have helsewhere := h.owed_elsewhere k t ht
  have hsettle : ∀ {f : κ → Option τ} {k' t'}, Function.update f k none k' = some t' →
      f k' = some t' := eq_of_settled (Or.inl rfl)
  refine { hsettled with stored_issued := ?_, owed_elsewhere := ?_, stored_elsewhere := ?_ }
  · exact Set.insert_subset (h.owed_issued k t ht) h.stored_issued
  · intro k' t' ht'
    refine ⟨?_, (hsettled.owed_elsewhere k' t' ht').2⟩
    -- the holder of the token has put it away, and no one else had it
    rintro (rfl | hmem)
    · rcases eq_of_update ht' with ⟨-, hnone⟩ | ⟨hne, hkept⟩
      · cases hnone
      · exact hne (h.owed_unique k' k t' hkept ht)
    · exact (h.owed_elsewhere k' t' (hsettle ht')).1 hmem
  · rintro t' (rfl | hmem)
    · exact ⟨fun k' ht' => helsewhere.2.1 k' (hsettle ht'), helsewhere.2.2⟩
    · exact hsettled.stored_elsewhere t' hmem

theorem Sound.take (h : c.Sound) {k : κ} {t : τ} (ht : t ∈ c.stored) :
    Sound { c.hold k none (some t) with stored := c.stored \ {t} } where
  owed_issued k' t' ht' := h.owed_issued k' t' (eq_of_settled (Or.inl rfl) ht')
  stored_issued := fun _ ht' => h.stored_issued ht'.1
  taken_issued k' t' ht' := by
    rcases eq_of_update ht' with ⟨-, he⟩ | ⟨-, hkept⟩
    · exact Option.some.inj he ▸ h.stored_issued ht
    · exact h.taken_issued k' t' hkept
  exchanged_issued := h.exchanged_issued
  owed_unique k₁ k₂ t' h₁ h₂ :=
    h.owed_unique k₁ k₂ t' (eq_of_settled (Or.inl rfl) h₁) (eq_of_settled (Or.inl rfl) h₂)
  taken_unique k₁ k₂ t' h₁ h₂ := by
    -- no one had taken what is still in the store
    rcases eq_of_update h₁ with ⟨rfl, he₁⟩ | ⟨-, hkept₁⟩
    · rcases eq_of_update h₂ with ⟨rfl, -⟩ | ⟨-, hkept₂⟩
      · rfl
      · exact absurd (he₁ ▸ hkept₂) ((h.stored_elsewhere t ht).1 k₂)
    · rcases eq_of_update h₂ with ⟨rfl, he₂⟩ | ⟨-, hkept₂⟩
      · exact absurd (he₂ ▸ hkept₁) ((h.stored_elsewhere t ht).1 k₁)
      · exact h.taken_unique k₁ k₂ t' hkept₁ hkept₂
  owed_elsewhere k' t' ht' := by
    obtain ⟨hstored, htaken, hexchanged⟩ := h.owed_elsewhere k' t' (eq_of_settled (Or.inl rfl) ht')
    refine ⟨fun hmem => hstored hmem.1, fun k'' ht'' => ?_, hexchanged⟩
    rcases eq_of_update ht'' with ⟨-, he⟩ | ⟨-, hkept⟩
    · exact hstored (Option.some.inj he ▸ ht)
    · exact htaken k'' hkept
  stored_elsewhere t' ht' := by
    refine ⟨fun k' htaken => ?_, (h.stored_elsewhere t' ht'.1).2⟩
    rcases eq_of_update htaken with ⟨-, he⟩ | ⟨-, hkept⟩
    · exact ht'.2 (Option.some.inj he).symm
    · exact (h.stored_elsewhere t' ht'.1).1 k' hkept
  taken_elsewhere k' t' ht' := by
    rcases eq_of_update ht' with ⟨-, he⟩ | ⟨-, hkept⟩
    · exact Option.some.inj he ▸ (h.stored_elsewhere t ht).2
    · exact h.taken_elsewhere k' t' hkept
  exchanged_nodup := h.exchanged_nodup

theorem Sound.exchange (h : c.Sound) {k : κ} {t : τ} (hnew : t ∉ c.issued) :
    Sound { c.hold k (some t) none with
      issued := insert t c.issued
      exchanged := (c.taken k).toList ++ c.exchanged } := by
  have hsettle : ∀ {k' t'}, Function.update c.taken k none k' = some t' → c.taken k' = some t' :=
    eq_of_settled (Or.inl rfl)
  have hexchanged : ∀ t' ∈ (c.taken k).toList ++ c.exchanged, t' ∈ c.issued := by
    intro t' ht'
    rcases List.mem_append.1 ht' with hmem | hmem
    · exact h.taken_issued k t' (Option.mem_toList.1 hmem)
    · exact h.exchanged_issued t' hmem
  have hnone : t ∉ c.stored ∧ (∀ k', c.taken k' ≠ some t) ∧
      t ∉ (c.taken k).toList ++ c.exchanged :=
    ⟨fun hmem => hnew (h.stored_issued hmem), fun k' hk' => hnew (h.taken_issued k' t hk'),
      fun hmem => hnew (hexchanged t hmem)⟩
  have hlater : ∀ {t'}, c.taken k ≠ some t' → t' ∉ c.exchanged →
      t' ∉ (c.taken k).toList ++ c.exchanged := by
    intro t' htaken hmem ht'
    exact (List.mem_append.1 ht').elim (fun hk => htaken (Option.mem_toList.1 hk)) hmem
  constructor
  case owed_issued =>
    intro k' t' ht'
    rcases eq_of_update ht' with ⟨-, he⟩ | ⟨-, hkept⟩
    · exact Set.mem_insert_iff.2 (Or.inl (Option.some.inj he).symm)
    · exact Set.mem_insert_of_mem t (h.owed_issued k' t' hkept)
  case stored_issued => exact h.stored_issued.trans (Set.subset_insert t c.issued)
  case taken_issued =>
    exact fun k' t' ht' => Set.mem_insert_of_mem t (h.taken_issued k' t' (hsettle ht'))
  case exchanged_issued => exact fun t' ht' => Set.mem_insert_of_mem t (hexchanged t' ht')
  case owed_unique =>
    intro k₁ k₂ t' h₁ h₂
    rcases eq_of_update h₁ with ⟨rfl, he₁⟩ | ⟨-, hkept₁⟩
    · rcases eq_of_update h₂ with ⟨rfl, -⟩ | ⟨-, hkept₂⟩
      · rfl
      · exact absurd (h.owed_issued k₂ t (he₁ ▸ hkept₂)) hnew
    · rcases eq_of_update h₂ with ⟨rfl, he₂⟩ | ⟨-, hkept₂⟩
      · exact absurd (h.owed_issued k₁ t (he₂ ▸ hkept₁)) hnew
      · exact h.owed_unique k₁ k₂ t' hkept₁ hkept₂
  case taken_unique =>
    exact fun k₁ k₂ t' h₁ h₂ => h.taken_unique k₁ k₂ t' (hsettle h₁) (hsettle h₂)
  case owed_elsewhere =>
    intro k' t' ht'
    rcases eq_of_update ht' with ⟨-, he⟩ | ⟨-, hkept⟩
    · obtain rfl := Option.some.inj he
      exact ⟨hnone.1, fun k'' ht'' => hnone.2.1 k'' (hsettle ht''), hnone.2.2⟩
    · obtain ⟨hstored, htaken, hmem⟩ := h.owed_elsewhere k' t' hkept
      exact ⟨hstored, fun k'' ht'' => htaken k'' (hsettle ht''), hlater (htaken k) hmem⟩
  case stored_elsewhere =>
    intro t' ht'
    obtain ⟨htaken, hmem⟩ := h.stored_elsewhere t' ht'
    exact ⟨fun k' ht'' => htaken k' (hsettle ht''), hlater (htaken k) hmem⟩
  case taken_elsewhere =>
    intro k' t' ht'
    rcases eq_of_update ht' with ⟨-, he⟩ | ⟨hne, hkept⟩
    · cases he
    · refine hlater (fun htaken => hne (h.taken_unique k' k t' hkept htaken)) ?_
      exact h.taken_elsewhere k' t' hkept
  case exchanged_nodup =>
    cases htaken : c.taken k with
    | none => exact h.exchanged_nodup
    | some t' => exact List.nodup_cons.2 ⟨h.taken_elsewhere k t' htaken, h.exchanged_nodup⟩

theorem Sound.move (h : c.Sound) (hmove : Move c c') : c'.Sound := by
  cases hmove with
  | lose hsub => exact h.lose hsub
  | settle hsub howed htaken => exact (h.lose hsub).settle howed htaken
  | store ht => exact h.store ht
  | take ht => exact h.take ht
  | exchange hnew => exact h.exchange hnew

end Custody
end GcsSaker
