import Mathlib.Algebra.Order.Ring.Nat
import Mathlib.Data.List.Basic

/-!
# Moments in UTC as ISO 8601 text

`isoformat` writes a moment as Python's `datetime.isoformat` writes an aware one in UTC, and
`fromisoformat` reads that text back. The microseconds are left out when they are zero.
-/

namespace GcsSaker.IsoDatetime

def isLeap (year : ℕ) : Bool := year % 4 = 0 && (year % 100 ≠ 0 || year % 400 = 0)

def daysInMonth (year month : ℕ) : ℕ :=
  if month = 2 then (if isLeap year then 29 else 28)
  else if month = 4 ∨ month = 6 ∨ month = 9 ∨ month = 11 then 30 else 31

def Valid (year month day hour minute second microsecond : ℕ) : Prop :=
  (1 ≤ year ∧ year < 10000) ∧ (1 ≤ month ∧ month ≤ 12) ∧
    (1 ≤ day ∧ day ≤ daysInMonth year month) ∧ hour < 24 ∧ minute < 60 ∧ second < 60 ∧
    microsecond < 1000000

instance (year month day hour minute second microsecond : ℕ) :
    Decidable (Valid year month day hour minute second microsecond) :=
  inferInstanceAs (Decidable (_ ∧ _))

structure Datetime where
  year : ℕ
  month : ℕ
  day : ℕ
  hour : ℕ
  minute : ℕ
  second : ℕ
  microsecond : ℕ
  valid : Valid year month day hour minute second microsecond
  deriving DecidableEq

/-! ## Numbers of a fixed width -/

def digitChar (n : ℕ) : Char := Char.ofNat (48 + n % 10)

def digitOf (c : Char) : Option ℕ := if c.isDigit then some (c.toNat - 48) else none

/-- The last `width` digits of a number. -/
def padded : ℕ → ℕ → List Char
  | 0, _ => []
  | width + 1, n => padded width (n / 10) ++ [digitChar n]

/-- The number that digits write; anything but a digit is refused. -/
def number (cs : List Char) : Option ℕ :=
  cs.foldlM (fun n c => (digitOf c).map fun d => n * 10 + d) 0

theorem digitOf_digitChar (n : ℕ) : digitOf (digitChar n) = some (n % 10) := by
  have h : ∀ d < 10, digitOf (Char.ofNat (48 + d)) = some d := by decide
  exact h (n % 10) (Nat.mod_lt n (by decide))

@[simp] theorem length_padded (width n : ℕ) : (padded width n).length = width := by
  induction width generalizing n with
  | zero => rfl
  | succ width ih => rw [padded, List.length_append, ih, List.length_singleton]

theorem number_padded (width n : ℕ) (hn : n < 10 ^ width) : number (padded width n) = some n := by
  induction width generalizing n with
  | zero =>
      have h0 : n = 0 := by simpa using hn
      subst h0
      rfl
  | succ width ih =>
      have hlt : n / 10 < 10 ^ width := by
        rw [Nat.pow_succ] at hn
        exact Nat.div_lt_of_lt_mul (by rwa [Nat.mul_comm])
      have h := ih (n / 10) hlt
      rw [number] at h ⊢
      rw [padded, List.foldlM_append, h]
      simp only [List.foldlM_cons, List.foldlM_nil, digitOf_digitChar, Option.map_some,
        Option.bind_eq_bind, Option.bind_some, Option.pure_def, Option.some.injEq]
      omega

/-! ## The text of a moment -/

namespace Datetime

def isoformat (m : Datetime) : String :=
  String.ofList (padded 4 m.year ++ '-' :: padded 2 m.month ++ '-' :: padded 2 m.day ++
    'T' :: padded 2 m.hour ++ ':' :: padded 2 m.minute ++ ':' :: padded 2 m.second ++
    (if m.microsecond = 0 then [] else '.' :: padded 6 m.microsecond) ++ "+00:00".toList)

/-- The next `width` characters as a number, and what follows the character `sep` after them. -/
def field (width : ℕ) (sep : Char) (cs : List Char) : Option (ℕ × List Char) :=
  match cs.drop width with
  | c :: rest => if c = sep then (number (cs.take width)).map (·, rest) else none
  | [] => none

def fromisoformat (text : String) : Option Datetime := do
  let (year, cs) ← field 4 '-' text.toList
  let (month, cs) ← field 2 '-' cs
  let (day, cs) ← field 2 'T' cs
  let (hour, cs) ← field 2 ':' cs
  let (minute, cs) ← field 2 ':' cs
  let second ← number (cs.take 2)
  let (microsecond, cs) ← match cs.drop 2 with
    | '.' :: cs => (number (cs.take 6)).map (·, cs.drop 6)
    | cs => some (0, cs)
  if cs ≠ "+00:00".toList then none
  else if h : Valid year month day hour minute second microsecond then
    some ⟨year, month, day, hour, minute, second, microsecond, h⟩
  else none

theorem field_padded (width : ℕ) (sep : Char) (n : ℕ) (hn : n < 10 ^ width) (cs : List Char) :
    field width sep (padded width n ++ sep :: cs) = some (n, cs) := by
  have hlen : (padded width n).length = width := length_padded width n
  rw [field, List.drop_left' hlen, List.take_left' hlen]
  simp only [if_pos, number_padded width n hn, Option.map_some]

theorem daysInMonth_le (year month : ℕ) : daysInMonth year month ≤ 31 := by
  unfold daysInMonth
  split_ifs <;> decide

/-- The microseconds as they are written, with the offset after them; `k` reads the rest. -/
theorem fraction_padded (microsecond : ℕ) (h : microsecond < 1000000)
    (k : ℕ × List Char → Option Datetime) :
    (match (if microsecond = 0 then [] else '.' :: padded 6 microsecond) ++ "+00:00".toList with
      | '.' :: cs => (number (cs.take 6)).map (·, cs.drop 6) >>= k
      | cs => some (0, cs) >>= k) = k (microsecond, "+00:00".toList) := by
  by_cases h0 : microsecond = 0
  · rw [if_pos h0, h0]
    rfl
  · have hlen : (padded 6 microsecond).length = 6 := length_padded 6 microsecond
    rw [if_neg h0, List.cons_append]
    simp only [List.take_left' hlen, List.drop_left' hlen, number_padded 6 microsecond h,
      Option.map_some]
    rfl

/-- What is written is read back. -/
theorem fromisoformat_isoformat (m : Datetime) : fromisoformat m.isoformat = some m := by
  obtain ⟨⟨-, hyear⟩, ⟨-, hmonth⟩, ⟨-, hday⟩, hhour, hminute, hsecond, hmicrosecond⟩ := m.valid
  have hdays := daysInMonth_le m.year m.month
  have htext : m.isoformat.toList = padded 4 m.year ++ '-' :: (padded 2 m.month ++
      '-' :: (padded 2 m.day ++ 'T' :: (padded 2 m.hour ++ ':' :: (padded 2 m.minute ++
      ':' :: (padded 2 m.second ++ ((if m.microsecond = 0 then []
        else '.' :: padded 6 m.microsecond) ++ "+00:00".toList)))))) := by
    simp only [isoformat, String.toList_ofList, List.append_assoc, List.cons_append]
  have hlen : (padded 2 m.second).length = 2 := length_padded 2 m.second
  rw [fromisoformat, htext]
  refine Option.bind_eq_some_iff.mpr ⟨_, field_padded 4 '-' m.year (by omega) _, ?_⟩
  refine Option.bind_eq_some_iff.mpr ⟨_, field_padded 2 '-' m.month (by omega) _, ?_⟩
  refine Option.bind_eq_some_iff.mpr ⟨_, field_padded 2 'T' m.day (by omega) _, ?_⟩
  refine Option.bind_eq_some_iff.mpr ⟨_, field_padded 2 ':' m.hour (by omega) _, ?_⟩
  refine Option.bind_eq_some_iff.mpr ⟨_, field_padded 2 ':' m.minute (by omega) _, ?_⟩
  refine Option.bind_eq_some_iff.mpr ⟨m.second, ?_, ?_⟩
  · rw [List.take_left' hlen]
    exact number_padded 2 m.second (by omega)
  · rw [List.drop_left' hlen]
    refine (fraction_padded m.microsecond hmicrosecond _).trans ?_
    simp only [ne_eq, not_true_eq_false, if_false, dif_pos m.valid]

end Datetime

end GcsSaker.IsoDatetime
