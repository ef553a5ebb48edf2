import GcsSaker.Decimal
import Mathlib.Algebra.Order.Floor.Semifield
import Mathlib.Data.Int.Log
import Mathlib.Data.Rat.Floor

/-!
# Numbers of ECMAScript

`Number` of a string, as the double nearest to what the string says, and the text of a positive
integer: its shortest digits that are read back as the same double, with an exponent from 10²¹ on.
-/

namespace GcsSaker.EcmaNumber

/-! ## Rounding -/

/-- To the nearest integer, and to an even one from halfway. -/
def roundEven (q : ℚ) : ℤ :=
  let rest := q - ⌊q⌋
  if rest < 1 / 2 then ⌊q⌋
  else if 1 / 2 < rest then ⌊q⌋ + 1
  else if 2 ∣ ⌊q⌋ then ⌊q⌋ else ⌊q⌋ + 1

/-- The double nearest to a number, none if that is an infinity. -/
def rounded (q : ℚ) : Option ℚ :=
  let exponent : ℤ := max (-1074) (Int.log 2 |q| - 52)
  let double := (roundEven (q / (2 : ℚ) ^ exponent) : ℚ) * (2 : ℚ) ^ exponent
  if |double| < 2 ^ 1024 then some double else none

theorem abs_roundEven_sub_le (q : ℚ) : |(roundEven q : ℚ) - q| ≤ 1 / 2 := by
  have hfloor := Int.floor_le q
  have hceil := Int.lt_floor_add_one q
  simp only [roundEven, abs_le]
  split_ifs
  all_goals
    push_cast
    constructor <;> linarith

theorem le_roundEven {n : ℤ} {q : ℚ} (h : (n : ℚ) ≤ q) : n ≤ roundEven q := by
  have hfloor : n ≤ ⌊q⌋ := Int.le_floor.2 h
  simp only [roundEven]
  split_ifs <;> omega

/-- The distance between the doubles around a number. -/
def spacing (q : ℚ) : ℚ := (2 : ℚ) ^ max (-1074) (Int.log 2 |q| - 52)

theorem spacing_pos (q : ℚ) : 0 < spacing q := zpow_pos two_pos _

theorem log_abs_lt {q : ℚ} {k : ℤ} (hk : 0 < k) (h : |q| < (2 : ℚ) ^ k) : Int.log 2 |q| < k := by
  rcases (abs_nonneg q).eq_or_lt with hzero | hpos
  · rw [← hzero, Int.log_zero_right]
    exact hk
  · exact (Int.lt_zpow_iff_log_lt one_lt_two hpos).1 (by exact_mod_cast h)

theorem spacing_eq {q : ℚ} {k : ℤ} (hk : 0 < k) (h : |q| < (2 : ℚ) ^ k) :
    ∃ n : ℕ, (2 : ℚ) ^ (k - 53) = (2 : ℚ) ^ n * spacing q := by
  have hlog := log_abs_lt hk h
  have hexponent : max (-1074) (Int.log 2 |q| - 52) ≤ k - 53 := by omega
  refine ⟨(k - 53 - max (-1074) (Int.log 2 |q| - 52)).toNat, ?_⟩
  rw [spacing, ← zpow_natCast, ← zpow_add₀ two_ne_zero, Int.toNat_of_nonneg (by omega),
    sub_add_cancel]

theorem spacing_le {q : ℚ} {k : ℤ} (hk : 0 < k) (h : |q| < (2 : ℚ) ^ k) :
    spacing q ≤ (2 : ℚ) ^ (k - 53) := by
  obtain ⟨n, hn⟩ := spacing_eq hk h
  rw [hn]
  exact le_mul_of_one_le_left (spacing_pos q).le (one_le_pow₀ one_le_two)

theorem abs_round_sub_le (q : ℚ) :
    |(roundEven (q / spacing q) : ℚ) * spacing q - q| ≤ spacing q / 2 := by
  have hpos := spacing_pos q
  have hsplit : (roundEven (q / spacing q) : ℚ) * spacing q - q =
      ((roundEven (q / spacing q) : ℚ) - q / spacing q) * spacing q := by
    rw [sub_mul, div_mul_cancel₀ q hpos.ne']
  rw [hsplit, abs_mul, abs_of_pos hpos]
  calc |(roundEven (q / spacing q) : ℚ) - q / spacing q| * spacing q
      ≤ 1 / 2 * spacing q := mul_le_mul_of_nonneg_right (abs_roundEven_sub_le _) hpos.le
    _ = spacing q / 2 := by ring

/-- The double nearest to a number below `2 ^ k` is at most half a unit in the last place away, and
is not below a multiple of that unit unless the number is. -/
theorem rounded_near {q : ℚ} {k : ℤ} (hk : 0 < k) (hmax : k < 1024) (h : |q| < (2 : ℚ) ^ k) :
    ∃ double, rounded q = some double ∧ |double - q| ≤ (2 : ℚ) ^ (k - 53) / 2 ∧
      ∀ n : ℤ, (n : ℚ) * (2 : ℚ) ^ (k - 53) ≤ q → (n : ℚ) * (2 : ℚ) ^ (k - 53) ≤ double := by
  have hpos := spacing_pos q
  have hspacing := spacing_le hk h
  have hround := abs_round_sub_le q
  have hnear : |(roundEven (q / spacing q) : ℚ) * spacing q - q| ≤ (2 : ℚ) ^ (k - 53) / 2 := by
    linarith
  have hfits : |(roundEven (q / spacing q) : ℚ) * spacing q| < 2 ^ 1024 := by
    have hunit : (2 : ℚ) ^ (k - 53) ≤ (2 : ℚ) ^ k := zpow_le_zpow_right₀ one_le_two (by omega)
    have hrange : (2 : ℚ) ^ (k + 1) ≤ (2 : ℚ) ^ (1024 : ℤ) :=
      zpow_le_zpow_right₀ one_le_two (by omega)
    rw [zpow_add_one₀ two_ne_zero] at hrange
    have htriangle := abs_sub_abs_le_abs_sub ((roundEven (q / spacing q) : ℚ) * spacing q) q
    have hunits : (0 : ℚ) < (2 : ℚ) ^ (k - 53) := zpow_pos two_pos _
    refine lt_of_lt_of_le ?_ (hrange.trans_eq (zpow_natCast 2 1024))
    linarith
  refine ⟨_, if_pos hfits, hnear, fun n hn => ?_⟩
  obtain ⟨m, hm⟩ := spacing_eq hk h
  rw [hm, ← mul_assoc] at hn ⊢
  have hgrid : ((n * 2 ^ m : ℤ) : ℚ) ≤ q / spacing q := by
    rw [le_div_iff₀ hpos]
    push_cast
    exact hn
  have hle : ((n * 2 ^ m : ℤ) : ℚ) ≤ roundEven (q / spacing q) := by
    exact_mod_cast le_roundEven hgrid
  push_cast at hle
  exact mul_le_mul_of_nonneg_right hle hpos.le

/-! ## Reading -/

def isWhiteSpace (c : Char) : Bool :=
  c.toNat ∈ [0x09, 0x0A, 0x0B, 0x0C, 0x0D, 0x20, 0xA0, 0x1680, 0x2028, 0x2029, 0x202F, 0x205F,
    0x3000, 0xFEFF] || (0x2000 ≤ c.toNat && c.toNat ≤ 0x200A)

def trim (chars : List Char) : List Char :=
  ((chars.dropWhile isWhiteSpace).reverse.dropWhile isWhiteSpace).reverse

/-- The value of a digit in a base up to sixteen. -/
def digit (c : Char) : ℕ :=
  if c.isDigit then c.toNat - '0'.toNat else 10 + (c.toLower.toNat - 'a'.toNat)

def isDigitIn (base : ℕ) (c : Char) : Bool :=
  (c.isDigit || ('a' ≤ c.toLower && c.toLower ≤ 'f')) && digit c < base

def radixInteger (base : ℕ) (digits : List Char) : Option ℚ :=
  if !digits.isEmpty && digits.all (isDigitIn base) then
    some ((digits.foldl (fun value c => base * value + digit c) 0 : ℕ) : ℚ)
  else none

def exponentPart : List Char → Option ℤ
  | [] => some 0
  | c :: rest =>
    if c = 'e' ∨ c = 'E' then
      match rest with
      | '+' :: digits => (Decimal.digitsValue digits).map Int.ofNat
      | '-' :: digits => (Decimal.digitsValue digits).map fun n => -Int.ofNat n
      | digits => (Decimal.digitsValue digits).map Int.ofNat
    else none

def unsignedDecimal (chars : List Char) : Option ℚ :=
  let whole := chars.takeWhile Char.isDigit
  let (fraction, rest) := match chars.dropWhile Char.isDigit with
    | '.' :: rest => (rest.takeWhile Char.isDigit, rest.dropWhile Char.isDigit)
    | rest => ([], rest)
  (Decimal.digitsValue (whole ++ fraction)).bind fun value =>
    (exponentPart rest).map fun exponent =>
      (value : ℚ) * (10 : ℚ) ^ (exponent - (fraction.length : ℤ))

/-- What a numeral says before it is rounded. -/
def numeral : List Char → Option ℚ
  | [] => some 0
  | '0' :: 'x' :: digits => radixInteger 16 digits
  | '0' :: 'X' :: digits => radixInteger 16 digits
  | '0' :: 'o' :: digits => radixInteger 8 digits
  | '0' :: 'O' :: digits => radixInteger 8 digits
  | '0' :: 'b' :: digits => radixInteger 2 digits
  | '0' :: 'B' :: digits => radixInteger 2 digits
  | '-' :: chars => (unsignedDecimal chars).map fun q => -q
  | '+' :: chars => unsignedDecimal chars
  | chars => unsignedDecimal chars

/-- `Number`, none if it is not finite. -/
def Number (text : String) : Option ℚ := (numeral (trim text.toList)).bind rounded

example : Number " 0x1F\n" = some 31 := by decide +kernel

example : Number "9007199254740993e0" = some 9007199254740992 := by decide +kernel

/-! ## Printing -/

/-- The digits next to an integer, without the last `zeros` of its places. -/
def candidates (n zeros : ℕ) : List ℕ :=
  let below := n / 10 ^ zeros
  let low := n - below * 10 ^ zeros
  let high := (below + 1) * 10 ^ zeros - n
  if low < high ∨ (low = high ∧ 2 ∣ below) then [below, below + 1] else [below + 1, below]

/-- The fewest digits that are read back as the integer, with the zeros after them. -/
def shortest (n : ℕ) : Option (ℕ × ℕ) :=
  (List.range (Nat.toDigits 10 n).length).reverse.findSome? fun zeros =>
    ((candidates n zeros).find? fun digits =>
      rounded (digits * 10 ^ zeros : ℕ) = some (n : ℚ)).map fun digits => (digits, zeros)

/-- `Number.prototype.toString` of a double that is a positive integer. -/
def integerText (n : ℕ) : String :=
  let (value, zeros) := (shortest n).getD (n, 0)
  let digits := Nat.toDigits 10 value
  let places := digits.length + zeros
  if places ≤ 21 then String.ofList (digits ++ List.replicate zeros '0')
  else
    let mantissa := match (digits.reverse.dropWhile (· = '0')).reverse with
      | first :: second :: rest => first :: '.' :: second :: rest
      | short => short
    String.ofList mantissa ++ "e+" ++ toString (places - 1)

example : integerText (2 ^ 60) = "1152921504606847000" := by decide +kernel

example : integerText (12345 * 10 ^ 20) = "1.2345e+24" := by decide +kernel

end GcsSaker.EcmaNumber
