import Mathlib.Data.List.Infix

/-!
# Prefix codes

A writer whose texts can be told from what follows them. Such a text can be read back from any list
that begins with it, and nothing can be read from less than the whole text.
-/

namespace GcsSaker.PrefixCodes

variable {α α' β γ : Type*}

def PrefixFree (write : α → List γ) : Prop :=
  ∀ a a' rest rest', write a ++ rest = write a' ++ rest' → a = a' ∧ rest = rest'

variable {write : α → List γ} {write' : α' → List γ}

theorem PrefixFree.comp (h : PrefixFree write) {f : β → α} (hf : Function.Injective f) :
    PrefixFree fun b => write (f b) := by
  intro b b' rest rest' heq
  obtain ⟨hab, hrest⟩ := h _ _ _ _ heq
  exact ⟨hf hab, hrest⟩

theorem PrefixFree.literal (text : List γ) (h : PrefixFree write) :
    PrefixFree fun a => text ++ write a := by
  intro a a' rest rest' heq
  rw [List.append_assoc, List.append_assoc] at heq
  exact h a a' rest rest' (List.append_cancel_left heq)

theorem PrefixFree.closed (h : PrefixFree write) (text : List γ) :
    PrefixFree fun a => write a ++ text := by
  intro a a' rest rest' heq
  rw [List.append_assoc, List.append_assoc] at heq
  obtain ⟨rfl, htail⟩ := h a a' _ _ heq
  exact ⟨rfl, List.append_cancel_left htail⟩

theorem PrefixFree.pair (h : PrefixFree write) (h' : PrefixFree write') :
    PrefixFree fun p : α × α' => write p.1 ++ write' p.2 := by
  rintro ⟨a, b⟩ ⟨a', b'⟩ rest rest' heq
  rw [List.append_assoc, List.append_assoc] at heq
  obtain ⟨rfl, htail⟩ := h _ _ _ _ heq
  obtain ⟨rfl, hrest⟩ := h' _ _ _ _ htail
  exact ⟨rfl, hrest⟩

/-- The texts of a list, one after the other, up to a letter that no text begins with. -/
theorem PrefixFree.terminated (h : PrefixFree write) {stop : γ}
    (hstop : ∀ a, ∃ c text, write a = c :: text ∧ c ≠ stop) :
    PrefixFree fun as : List α => as.flatMap write ++ [stop] := by
  intro as
  induction as with
  | nil =>
      intro as' rest rest' heq
      cases as' with
      | nil => exact ⟨rfl, (List.cons.inj heq).2⟩
      | cons a' as' =>
          obtain ⟨c, text, hwrite, hne⟩ := hstop a'
          simp only [List.flatMap_nil, List.flatMap_cons, hwrite, List.cons_append] at heq
          exact absurd (List.cons.inj heq).1.symm hne
  | cons a as ih =>
      intro as' rest rest' heq
      cases as' with
      | nil =>
          obtain ⟨c, text, hwrite, hne⟩ := hstop a
          simp only [List.flatMap_nil, List.flatMap_cons, hwrite, List.cons_append] at heq
          exact absurd (List.cons.inj heq).1 hne
      | cons a' as' =>
          simp only [List.flatMap_cons, List.append_assoc] at heq
          obtain ⟨rfl, htail⟩ := h _ _ _ _ heq
          rw [← List.append_assoc, ← List.append_assoc] at htail
          obtain ⟨rfl, hrest⟩ := ih as' rest rest' htail
          exact ⟨rfl, hrest⟩

open scoped Classical in
/-- The reader of the texts, whatever follows them. -/
noncomputable def read (write : α → List γ) (text : List γ) : Option α :=
  if h : ∃ a, write a <+: text then some h.choose else none

theorem read_append (h : PrefixFree write) (a : α) (rest : List γ) :
    read write (write a ++ rest) = some a := by
  have hex : ∃ a', write a' <+: write a ++ rest := ⟨a, List.prefix_append _ _⟩
  rw [read, dif_pos hex]
  obtain ⟨rest', hrest⟩ := hex.choose_spec
  rw [(h _ _ _ _ hrest).1]

/-- Less than the whole text reads as nothing. -/
theorem read_take (h : PrefixFree write) {a : α} {n : ℕ} (hn : n < (write a).length) :
    read write ((write a).take n) = none := by
  have hnone : ¬ ∃ a', write a' <+: (write a).take n := by
    rintro ⟨a', ha'⟩
    obtain ⟨rest, hrest⟩ := ha'.trans (List.take_prefix n _)
    obtain ⟨rfl, -⟩ := h a' a rest [] (hrest.trans (List.append_nil _).symm)
    have hlength := ha'.length_le
    rw [List.length_take] at hlength
    omega
  rw [read, dif_neg hnone]

end GcsSaker.PrefixCodes
