import GcsSaker.Watermarks

/-!
# Pages that are followed by cursors

A page takes a limited number of the rows after a cursor and has a cursor to go on from if there are
more. A reader who follows the cursors, page after page, has read every row once when there is no
cursor left. `page` tells the answer to the request of each number, none of which has to be made
under the same circumstances as another.
-/

namespace GcsSaker.CursorPages

open Watermarks (moved pending mem_pending pending_moved pending_perm_store pending_sorted)

variable {m : Type → Type} [Pure m] {α τ : Type}

/-- The pages that a reader gets who starts with a request and follows the cursors to the end. -/
inductive Followed (page : ℕ → Option τ → m (List α × Option τ)) :
    ℕ → Option τ → List (List α) → Prop
  | last {i : ℕ} {position : Option τ} {rows : List α} (h : page i position = pure (rows, none)) :
      Followed page i position [rows]
  | next {i : ℕ} {position : Option τ} {rows : List α} {cursor : τ} {pages : List (List α)}
      (h : page i position = pure (rows, some cursor))
      (hrest : Followed page (i + 1) (some cursor) pages) : Followed page i position (rows :: pages)

variable {page : ℕ → Option τ → m (List α × Option τ)} {limit : ℕ}

/-- Each page is the front of what is left, and its cursor stands for the rest. -/
theorem exists_followed (left : ℕ → Option τ → List α → Prop) (hlimit : 0 < limit)
    (hlast : ∀ i position rows, left i position rows → rows.length ≤ limit →
      page i position = pure (rows, none))
    (hnext : ∀ i position rows, left i position rows → limit < rows.length →
      ∃ cursor, page i position = pure (rows.take limit, some cursor) ∧
        left (i + 1) (some cursor) (rows.drop limit))
    {i : ℕ} {position : Option τ} {rows : List α} (h : left i position rows) :
    ∃ pages, Followed page i position pages ∧ pages.flatten = rows := by
  induction hlength : rows.length using Nat.strong_induction_on generalizing i position rows with
  | _ length ih =>
      rcases le_or_gt rows.length limit with hle | hlt
      · exact ⟨[rows], .last (hlast i position rows h hle), List.flatten_singleton⟩
      · obtain ⟨cursor, hpage, hleft⟩ := hnext i position rows h hlt
        have hshorter : (rows.drop limit).length < length := by
          rw [List.length_drop]
          omega
        obtain ⟨pages, hpages, hflatten⟩ := ih _ hshorter hleft rfl
        refine ⟨rows.take limit :: pages, .next hpage hpages, ?_⟩
        rw [List.flatten_cons, hflatten, List.take_append_drop]

theorem exists_last_of_take {rows : List α} (hlimit : 0 < limit) (h : limit < rows.length) :
    ∃ last ∈ rows, (rows.take limit).getLast? = some last := by
  have hne : rows.take limit ≠ [] := by
    intro hnil
    have hlength := congrArg List.length hnil
    rw [List.length_take, min_eq_left h.le] at hlength
    exact absurd hlength hlimit.ne'
  exact ⟨_, List.mem_of_mem_take (List.getLast_mem hne), List.getLast?_eq_some_getLast hne⟩

section Fetched

variable {κ : Type*} [LinearOrder κ] {key : α → κ} {store : List α}

/-- The cursor of a page is the key of its last row, and a row that was fetched beyond the page
tells that there is one. A reader who starts before the first key reads the whole store in
order. -/
theorem exists_followed_store (stands : ℕ → Option τ → κ → Prop)
    (pageOf : ℕ → List α → m (List α × Option τ)) (hkeys : (store.map key).Nodup)
    (hlimit : 0 < limit)
    (hpage : ∀ i position mark, stands i position mark →
      page i position = pageOf i ((pending key mark store).take (limit + 1)))
    (hlast : ∀ i rows, rows.length ≤ limit → pageOf i rows = pure (rows, none))
    (hnext : ∀ i rows, limit < rows.length → ∀ last ∈ store,
      (rows.take limit).getLast? = some last →
      ∃ cursor, pageOf i rows = pure (rows.take limit, some cursor) ∧
        stands (i + 1) (some cursor) (key last))
    {i : ℕ} {position : Option τ} {mark : κ} (h : stands i position mark)
    (hfirst : ∀ row ∈ store, mark < key row) :
    ∃ pages, Followed page i position pages ∧ pages.flatten.Perm store ∧
      pages.flatten.Pairwise fun row row' => key row < key row' := by
  have hpages : ∃ pages, Followed page i position pages ∧
      pages.flatten = pending key mark store := by
    refine exists_followed
      (fun i position rows => ∃ mark, stands i position mark ∧ rows = pending key mark store)
      hlimit ?_ ?_ ⟨mark, h, rfl⟩
    · rintro i position _ ⟨mark, hstands, rfl⟩ hlength
      rw [hpage i position mark hstands,
        List.take_of_length_le (hlength.trans (Nat.le_succ limit)), hlast i _ hlength]
    · rintro i position _ ⟨mark, hstands, rfl⟩ hlength
      have hfetched : limit < ((pending key mark store).take (limit + 1)).length := by
        rw [List.length_take]
        omega
      obtain ⟨last, hmem, hlast⟩ := exists_last_of_take hlimit hfetched
      have hstored : last ∈ store := (mem_pending.1 (List.mem_of_mem_take hmem)).1
      obtain ⟨cursor, hcursor, hmoved⟩ := hnext i _ hfetched last hstored hlast
      rw [List.take_take, min_eq_left (Nat.le_succ limit)] at hlast hcursor
      refine ⟨cursor, (hpage i position mark hstands).trans hcursor, key last, hmoved, ?_⟩
      have hkey : moved key mark ((pending key mark store).take limit) = key last := by
        rw [moved, hlast, Option.map_some, Option.getD_some]
      rw [← hkey, pending_moved hkeys]
  obtain ⟨pages, hpages, hflatten⟩ := hpages
  exact ⟨pages, hpages, hflatten ▸ pending_perm_store hfirst, hflatten ▸ pending_sorted mark hkeys⟩

end Fetched

/-- A reader cannot start with a page that fails. -/
theorem not_followed {i : ℕ} {position : Option τ} {pages : List (List α)}
    (h : ∀ rows cursor, page i position ≠ pure (rows, cursor)) :
    ¬ Followed page i position pages := by
  rintro (hlast | ⟨hnext, -⟩)
  · exact h _ _ hlast
  · exact h _ _ hnext

end GcsSaker.CursorPages
