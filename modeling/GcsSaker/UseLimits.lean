import GcsSaker.Machines
import Mathlib.Data.List.Pairwise
import Mathlib.Order.Lattice

/-!
# Tickets that may be used a limited number of times

A ticket is used until its limit is reached, its time is over or it is withdrawn, and every request
is answered with whether it had an effect. `Kept` says of the answers alone what a limit is for.
-/

namespace GcsSaker.UseLimits

open Machines (final trace)

inductive Stage where
  | active
  | spent
  | withdrawn
  deriving DecidableEq

structure Ticket (τ : Type*) where
  limit : ℤ
  expiresAt : τ
  used : ℤ
  stage : Stage

inductive Event (τ : Type*) where
  | use (now : τ)
  | withdraw
  deriving DecidableEq

variable {τ : Type*}

def issue (limit : ℤ) (expiresAt : τ) : Ticket τ := ⟨limit, expiresAt, 0, .active⟩

/-- A use that was answered with success. -/
def isUse : Event τ × Bool → Bool
  | (.use _, answer) => answer
  | (.withdraw, _) => false

def uses (history : List (Event τ × Bool)) : ℕ := history.countP isUse

/-- A reading of the clock that keeps the order of the instants. -/
def Event.map {υ : Type*} (f : τ → υ) : Event τ → Event υ
  | .use now => .use (f now)
  | .withdraw => .withdraw

theorem isUse_map {υ : Type*} (f : τ → υ) (e : Event τ × Bool) :
    isUse (e.1.map f, e.2) = isUse e := by
  obtain ⟨event, answer⟩ := e
  cases event <;> rfl

theorem uses_map {υ : Type*} (f : τ → υ) (history : List (Event τ × Bool)) :
    uses (history.map fun e => (e.1.map f, e.2)) = uses history := by
  unfold uses
  rw [List.countP_map]
  exact congrArg (List.countP · history) (funext fun e => isUse_map f e)

structure Kept [LT τ] (limit : ℤ) (expiresAt : τ) (history : List (Event τ × Bool)) : Prop where
  uses_le : uses history ≤ limit
  before_expiry : ∀ now, (.use now, true) ∈ history → now < expiresAt
  none_after_withdrawal : history.Pairwise fun e e' => e = (.withdraw, true) → isUse e' = false

structure Ticket.Sound (ticket : Ticket τ) : Prop where
  used_le : ticket.used ≤ ticket.limit
  spent_iff : ticket.stage = .spent ↔ ticket.used = ticket.limit

def Ticket.use (ticket : Ticket τ) : Ticket τ :=
  { ticket with
    used := ticket.used + 1
    stage := if ticket.limit ≤ ticket.used + 1 then .spent else .active }

variable [LinearOrder τ]

def step (ticket : Ticket τ) : Event τ → Ticket τ × Bool
  | .use now =>
    if ticket.stage = .active ∧ ticket.used < ticket.limit ∧ now < ticket.expiresAt then
      (ticket.use, true)
    else (ticket, false)
  | .withdraw =>
    if ticket.stage = .active then ({ ticket with stage := .withdrawn }, true)
    else (ticket, false)

theorem step_cases (ticket : Ticket τ) (event : Event τ) :
    (∃ now, event = .use now ∧ ticket.used < ticket.limit ∧ now < ticket.expiresAt ∧
      ticket.stage = .active ∧ step ticket event = (ticket.use, true)) ∨
      (event = .withdraw ∧ ticket.stage = .active ∧
        step ticket event = ({ ticket with stage := .withdrawn }, true)) ∨
        step ticket event = (ticket, false) := by
  cases event with
  | use now =>
      by_cases h : ticket.stage = .active ∧ ticket.used < ticket.limit ∧ now < ticket.expiresAt
      · exact .inl ⟨now, rfl, h.2.1, h.2.2, h.1, if_pos h⟩
      · exact .inr (.inr (if_neg h))
  | withdraw =>
      by_cases h : ticket.stage = .active
      · exact .inr (.inl ⟨rfl, h, if_pos h⟩)
      · exact .inr (.inr (if_neg h))

variable (ticket : Ticket τ)

theorem Ticket.Sound.step {ticket : Ticket τ} (h : ticket.Sound) (event : Event τ) :
    (step ticket event).1.Sound := by
  have hused := h.used_le
  rcases step_cases ticket event with ⟨now, -, hlt, -, -, hstep⟩ | ⟨-, hactive, hstep⟩ | hstep
  · rw [hstep]
    refine ⟨?_, ?_⟩
    · simp only [Ticket.use]
      omega
    · simp only [Ticket.use]
      split_ifs with hlimit
      · simp only [true_iff]
        omega
      · exact iff_of_false (fun hspent => nomatch hspent) (by omega)
  · rw [hstep]
    refine ⟨hused, iff_of_false (fun hspent => nomatch hspent) fun hfull => ?_⟩
    exact nomatch hactive.symm.trans (h.spent_iff.2 hfull)
  · rw [hstep]
    exact h

/-! ## Runs -/

theorem Ticket.Sound.final {ticket : Ticket τ} (h : ticket.Sound) (events : List (Event τ)) :
    (final UseLimits.step ticket events).Sound := by
  induction events generalizing ticket with
  | nil => exact h
  | cons event events ih => exact ih (h.step event)

theorem Kept.of_map {υ : Type*} [LinearOrder υ] {f : τ → υ} (hf : Monotone f) {limit : ℤ}
    {expiresAt : τ} {history : List (Event τ × Bool)}
    (h : Kept limit (f expiresAt) (history.map fun e => (e.1.map f, e.2))) :
    Kept limit expiresAt history := by
  refine ⟨?_, fun now hmem => ?_, ?_⟩
  · rw [← uses_map f]
    exact h.uses_le
  · have hlt := h.before_expiry (f now) (List.mem_map.2 ⟨_, hmem, rfl⟩)
    exact lt_of_not_ge fun hle => absurd hlt (not_lt_of_ge (hf hle))
  · refine (List.pairwise_map.1 h.none_after_withdrawal).imp fun {e e'} hquiet hwithdraw => ?_
    rw [← isUse_map f e']
    apply hquiet
    rw [hwithdraw]
    rfl

end GcsSaker.UseLimits
