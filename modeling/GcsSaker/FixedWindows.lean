import Mathlib.Data.Int.Order.Basic
import Mathlib.Data.List.Count

/-!
# Fixed windows

The calls to a limiter, the latest first, each with whether it was allowed. The first call that is
allowed opens a window for its key; the calls until its end are of this window, and an allowed one
after it opens the next.
-/

namespace GcsSaker.FixedWindows

structure Call (κ : Type*) where
  key : κ
  now : ℤ
  allowed : Bool

variable {κ : Type*} {window now now' : ℤ}

section Calls

variable {call : Call κ} {calls : List (Call κ)}

/-- The first of the calls opened a window that has not ended. -/
def Running (window now : ℤ) (calls : List (Call κ)) : Prop :=
  ∃ first ∈ calls.getLast?, now < first.now + window

instance : Decidable (Running window now calls) :=
  match h : calls.getLast? with
  | none => .isFalse fun hrunning => by
      obtain ⟨first, hfirst, -⟩ := hrunning
      rw [h] at hfirst
      exact nomatch hfirst
  | some first => decidable_of_iff (now < first.now + window) (by
      rw [Running, h]
      simp only [Option.mem_def, Option.some.injEq, exists_eq_left'])

def allowedCalls (calls : List (Call κ)) : ℕ := calls.countP Call.allowed

theorem Running.mono (h : Running window now' calls) (hle : now ≤ now') :
    Running window now calls := by
  obtain ⟨first, hfirst, hlt⟩ := h
  exact ⟨first, hfirst, by omega⟩

theorem not_running_nil : ¬Running window now ([] : List (Call κ)) := by
  rintro ⟨first, hfirst, -⟩
  exact nomatch hfirst

theorem getLast?_cons_of_running (h : Running window now calls) :
    (call :: calls).getLast? = calls.getLast? := by
  obtain ⟨first, hfirst, -⟩ := h
  cases calls with
  | nil => exact nomatch hfirst
  | cons next calls => exact List.getLast?_cons_cons

theorem allowedCalls_cons :
    allowedCalls (call :: calls) = allowedCalls calls + if call.allowed then 1 else 0 :=
  List.countP_cons ..

end Calls

variable [DecidableEq κ] {key : κ} {call : Call κ} {log : List (Call κ)} {limit : ℕ}

/-- The calls of the last window of the key. -/
def ofWindow (window : ℤ) (key : κ) : List (Call κ) → List (Call κ)
  | [] => []
  | call :: log =>
    if call.key ≠ key then ofWindow window key log
    else if Running window call.now (ofWindow window key log) then
      call :: ofWindow window key log
    else if call.allowed then [call]
    else ofWindow window key log

theorem ofWindow_of_ne (h : call.key ≠ key) :
    ofWindow window key (call :: log) = ofWindow window key log := by
  rw [ofWindow, if_pos h]

theorem ofWindow_of_running (h : Running window call.now (ofWindow window call.key log)) :
    ofWindow window call.key (call :: log) = call :: ofWindow window call.key log := by
  rw [ofWindow, if_neg (not_not.2 rfl), if_pos h]

theorem ofWindow_of_opening (h : ¬Running window call.now (ofWindow window call.key log))
    (hallowed : call.allowed = true) : ofWindow window call.key (call :: log) = [call] := by
  rw [ofWindow, if_neg (not_not.2 rfl), if_neg h, if_pos hallowed]

theorem ofWindow_of_refused (h : ¬Running window call.now (ofWindow window call.key log))
    (hrefused : call.allowed = false) :
    ofWindow window call.key (call :: log) = ofWindow window call.key log := by
  rw [ofWindow, if_neg (not_not.2 rfl), if_neg h,
    if_neg (by rw [hrefused]; exact Bool.false_ne_true)]

/-- Of each window the first calls are allowed, as many as `limit`, and no others. -/
def Limited (window : ℤ) (limit : ℕ) (log : List (Call κ)) : Prop :=
  ∀ key, allowedCalls (ofWindow window key log) = min (ofWindow window key log).length limit

theorem limited_nil : Limited window limit ([] : List (Call κ)) := fun _ => (Nat.zero_min _).symm

/-- A call in a running window should be allowed if fewer than `limit` were before it. -/
theorem Limited.cons (h : Limited window limit log) (hlimit : 0 < limit)
    (hanswer : Running window call.now (ofWindow window call.key log) →
      (call.allowed = true ↔ (ofWindow window call.key log).length < limit)) :
    Limited window limit (call :: log) := by
  intro key
  by_cases hkey : call.key = key
  · subst hkey
    by_cases hrunning : Running window call.now (ofWindow window call.key log)
    · have hbefore := h call.key
      have hiff := hanswer hrunning
      rw [ofWindow_of_running hrunning, allowedCalls_cons, List.length_cons]
      split
      next hallowed => have := hiff.1 hallowed; omega
      next hrefused => have := mt hiff.2 hrefused; omega
    · cases hallowed : call.allowed with
      | true =>
          rw [ofWindow_of_opening hrunning hallowed, allowedCalls_cons, hallowed, if_pos rfl,
            List.length_singleton]
          change 0 + 1 = _
          omega
      | false =>
          rw [ofWindow_of_refused hrunning hallowed]
          exact h call.key
  · rw [ofWindow_of_ne hkey]
    exact h key

theorem Limited.allowedCalls_le (h : Limited window limit log) (key : κ) :
    allowedCalls (ofWindow window key log) ≤ limit := by
  rw [h key]
  exact Nat.min_le_right _ _

end GcsSaker.FixedWindows
