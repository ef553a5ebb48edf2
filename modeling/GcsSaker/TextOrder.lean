import GcsSaker.JvmText
import Mathlib.Data.List.Sort

/-!
# The order of strings on the JVM

Comparing UTF-16 code units orders strings totally, so a list sorted by a key that tells its
elements apart does not depend on the order in which they came.
-/

namespace GcsSaker.JvmText

theorem notAfterUnits_total (us vs : List ℕ) :
    notAfterUnits us vs = true ∨ notAfterUnits vs us = true := by
  induction us generalizing vs with
  | nil => exact .inl rfl
  | cons u us ih =>
      cases vs with
      | nil => exact .inr rfl
      | cons v vs =>
          rcases lt_trichotomy u v with hlt | rfl | hgt
          · exact .inl (by simp [notAfterUnits, hlt])
          · simpa [notAfterUnits] using ih vs
          · exact .inr (by simp [notAfterUnits, hgt])

theorem notAfterUnits_cons_iff {u v : ℕ} {us vs : List ℕ} :
    notAfterUnits (u :: us) (v :: vs) = true ↔
      u < v ∨ u = v ∧ notAfterUnits us vs = true := by
  simp [notAfterUnits]

theorem notAfterUnits_trans {us vs ws : List ℕ} (h : notAfterUnits us vs = true)
    (h' : notAfterUnits vs ws = true) : notAfterUnits us ws = true := by
  induction us generalizing vs ws with
  | nil => rfl
  | cons u us ih =>
      cases vs with
      | nil => exact absurd h Bool.false_ne_true
      | cons v vs =>
          cases ws with
          | nil => exact absurd h' Bool.false_ne_true
          | cons w ws =>
              rw [notAfterUnits_cons_iff] at h h' ⊢
              rcases h with hlt | ⟨rfl, hrest⟩
              · rcases h' with hlt' | ⟨rfl, -⟩
                · exact .inl (hlt.trans hlt')
                · exact .inl hlt
              · rcases h' with hlt' | ⟨rfl, hrest'⟩
                · exact .inl hlt'
                · exact .inr ⟨rfl, ih hrest hrest'⟩

theorem notAfterUnits_antisymm {us vs : List ℕ} (h : notAfterUnits us vs = true)
    (h' : notAfterUnits vs us = true) : us = vs := by
  induction us generalizing vs with
  | nil =>
      cases vs with
      | nil => rfl
      | cons v vs => exact absurd h' Bool.false_ne_true
  | cons u us ih =>
      cases vs with
      | nil => exact absurd h Bool.false_ne_true
      | cons v vs =>
          rw [notAfterUnits_cons_iff] at h h'
          rcases h with hlt | ⟨rfl, hrest⟩
          · omega
          · rw [ih hrest (h'.resolve_left (lt_irrefl u)).2]

theorem valid_char (c : Char) :
    c.toNat < 0xD800 ∨ 0xDFFF < c.toNat ∧ c.toNat < 0x110000 := c.valid

theorem codeUnits_injective : Function.Injective codeUnits := by
  have hlists : ∀ cs cs' : List Char,
      (cs.flatMap fun c => if c.toNat < 0x10000 then [c.toNat]
        else [0xD800 + (c.toNat - 0x10000) / 0x400, 0xDC00 + (c.toNat - 0x10000) % 0x400]) =
      (cs'.flatMap fun c => if c.toNat < 0x10000 then [c.toNat]
        else [0xD800 + (c.toNat - 0x10000) / 0x400, 0xDC00 + (c.toNat - 0x10000) % 0x400]) →
      cs = cs' := by
    intro cs
    induction cs with
    | nil =>
        intro cs' h
        cases cs' with
        | nil => rfl
        | cons c' cs' =>
            rw [List.flatMap_cons] at h
            split_ifs at h <;> exact absurd h (by simp)
    | cons c cs ih =>
        intro cs' h
        cases cs' with
        | nil =>
            rw [List.flatMap_cons] at h
            split_ifs at h <;> exact absurd h (by simp)
        | cons c' cs' =>
            have hc := valid_char c
            have hc' := valid_char c'
            rw [List.flatMap_cons, List.flatMap_cons] at h
            split_ifs at h with hb hb' hb' <;>
              simp only [List.cons_append, List.nil_append, List.cons.injEq] at h
            · rw [Char.toNat_inj.1 h.1, ih cs' h.2]
            · omega
            · omega
            · have hnat : c.toNat = c'.toNat := by omega
              rw [Char.toNat_inj.1 hnat, ih cs' h.2.2]
  intro s s' h
  exact String.toList_injective (hlists s.toList s'.toList h)

theorem notAfter_antisymm {s s' : String} (h : notAfter s s' = true) (h' : notAfter s' s = true) :
    s = s' :=
  codeUnits_injective (notAfterUnits_antisymm h h')

section Sorting

variable {α : Type*} (key : α → String)

def sortedBy (l : List α) : List α := l.insertionSort fun a b => notAfter (key a) (key b)

instance : Std.Total fun a b : α => notAfter (key a) (key b) = true :=
  ⟨fun _ _ => notAfterUnits_total _ _⟩

instance : IsTrans α fun a b : α => notAfter (key a) (key b) = true :=
  ⟨fun _ _ _ => notAfterUnits_trans⟩

theorem sortedBy_perm (l : List α) : (sortedBy key l).Perm l := List.perm_insertionSort _ l

theorem pairwise_sortedBy (l : List α) :
    (sortedBy key l).Pairwise fun a b => notAfter (key a) (key b) = true :=
  List.pairwise_insertionSort _ l

/-- Sorting two lists by a key that tells the elements of the first apart makes the same of them
when they have the same elements. -/
theorem sortedBy_eq_of_perm {l l' : List α} (hkey : Set.InjOn key {a | a ∈ l})
    (h : l.Perm l') : sortedBy key l = sortedBy key l' := by
  apply List.Perm.eq_of_pairwise _ (pairwise_sortedBy key l) (pairwise_sortedBy key l')
  · exact ((sortedBy_perm key l).trans h).trans (sortedBy_perm key l').symm
  · intro a b ha hb hab hba
    exact hkey ((sortedBy_perm key l).subset ha) (h.symm.subset ((sortedBy_perm key l').subset hb))
      (notAfter_antisymm hab hba)

theorem sortedBy_map {β : Type*} (key : β → String) (f : α → β) (l : List α) :
    (sortedBy (fun a => key (f a)) l).map f = sortedBy key (l.map f) :=
  List.map_insertionSort _ _ f l fun _ _ _ _ => Iff.rfl

end Sorting

end GcsSaker.JvmText
