import Mathlib.Data.List.Basic

/-!
# Event logs

A log lists what has happened, the latest first. `since` cuts off everything from the last event
that ends an episode, and `Always` asks a property of every event and of what had happened
before it.
-/

namespace GcsSaker.EventLog

variable {ε : Type*}

/-- What has happened after the last event that `ends` holds of. -/
def since (ends : ε → Bool) (log : List ε) : List ε := log.takeWhile fun e => !ends e

def Always (P : ε → List ε → Prop) : List ε → Prop
  | [] => True
  | e :: log => P e log ∧ Always P log

instance alwaysDecidable {P : ε → List ε → Prop} [∀ e log, Decidable (P e log)] :
    ∀ log, Decidable (Always P log)
  | [] => inferInstanceAs (Decidable True)
  | e :: log =>
    have : Decidable (Always P log) := alwaysDecidable log
    inferInstanceAs (Decidable (P e log ∧ Always P log))

/-- Whether an episode has had an event, after one more. -/
theorem any_since_cons (ends p : ε → Bool) (e : ε) (log : List ε) :
    (since ends (e :: log)).any p = (!ends e && (p e || (since ends log).any p)) := by
  cases h : ends e with
  | false => rw [since, List.takeWhile_cons_of_pos (by simp [h]), List.any_cons]; rfl
  | true => rw [since, List.takeWhile_cons_of_neg (by simp [h])]; rfl

end GcsSaker.EventLog
