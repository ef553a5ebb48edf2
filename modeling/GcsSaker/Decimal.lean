import Mathlib.Algebra.Order.Ring.Int

/-!
# Decimal numerals

Integers are printed in base ten and read back with an optional sign. Reading a 64-bit number
fails when the value is out of range.
-/

namespace GcsSaker.Decimal

def digitsValue (digits : List Char) : Option ℕ :=
  if !digits.isEmpty && digits.all Char.isDigit then some (Nat.ofDigitChars 10 digits 0) else none

def parse (s : String) : Option ℤ :=
  match s.toList with
  | '-' :: digits => (digitsValue digits).map fun n : ℕ => -(n : ℤ)
  | '+' :: digits => (digitsValue digits).map fun n : ℕ => (n : ℤ)
  | digits => (digitsValue digits).map fun n : ℕ => (n : ℤ)

def parseInt64 (s : String) : Option Int64 :=
  (parse s).bind fun n =>
    if Int64.minValue.toInt ≤ n ∧ n ≤ Int64.maxValue.toInt then some (Int64.ofInt n) else none

theorem digitsValue_toDigits (n : ℕ) : digitsValue (Nat.toDigits 10 n) = some n := by
  have hempty : (Nat.toDigits 10 n).isEmpty = false :=
    List.isEmpty_eq_false_iff.mpr Nat.toDigits_ne_nil
  have hdigits : (Nat.toDigits 10 n).all Char.isDigit = true :=
    List.all_eq_true.mpr fun c hc => Nat.isDigit_of_mem_toDigits (by decide) (by decide) hc
  rw [digitsValue, hempty, hdigits, Bool.not_false, Bool.and_self, if_pos rfl,
    Nat.ofDigitChars_ten_toDigits]

theorem parse_natRepr (n : ℕ) : parse n.repr = some (n : ℤ) := by
  have hhead : ∀ c rest, Nat.toDigits 10 n = c :: rest → c.isDigit = true := by
    intro c rest h
    apply Nat.isDigit_of_mem_toDigits (by decide) (by decide) (h ▸ List.mem_cons_self)
  have hvalue := digitsValue_toDigits n
  unfold parse
  rw [Nat.toList_repr]
  split
  · rename_i digits h
    exact absurd (hhead '-' digits h) (by decide)
  · rename_i digits h
    exact absurd (hhead '+' digits h) (by decide)
  · rw [hvalue, Option.map_some]

theorem parse_repr (n : ℤ) : parse n.repr = some n := by
  rw [Int.repr_eq_if]
  split_ifs with hn
  · rw [parse_natRepr, Int.toNat_of_nonneg hn]
  · have hneg : parse ("-" ++ (-n).toNat.repr) =
        (digitsValue (Nat.toDigits 10 (-n).toNat)).map fun k : ℕ => -(k : ℤ) := by
      unfold parse
      rw [String.toList_append, Nat.toList_repr]
      rfl
    rw [hneg, digitsValue_toDigits, Option.map_some, Option.some.injEq]
    omega

theorem parseInt64_repr (n : Int64) : parseInt64 n.toInt.repr = some n := by
  rw [parseInt64, parse_repr, Option.bind_some,
    if_pos ⟨Int64.minValue_le_toInt n, Int64.toInt_le n⟩, Int64.ofInt_toInt]

theorem toString_int32_inj {n n' : Int32} (h : toString n = toString n') : n = n' := by
  have hparse : parse n.toInt.repr = parse n'.toInt.repr := congrArg _ h
  rw [parse_repr, parse_repr, Option.some.injEq] at hparse
  exact Int32.toInt_inj.1 hparse

theorem toString_int64_inj {n n' : Int64} (h : toString n = toString n') : n = n' := by
  have hparse : parse n.toInt.repr = parse n'.toInt.repr := congrArg _ h
  rw [parse_repr, parse_repr, Option.some.injEq] at hparse
  exact Int64.toInt_inj.1 hparse

end GcsSaker.Decimal
