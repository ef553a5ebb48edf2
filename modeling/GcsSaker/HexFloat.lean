import GcsSaker.Decimal
import GcsSaker.FloatOrder
import Mathlib

/-!
# Hexadecimal floating-point numerals

`Double.toHexString` spells the bits of a number, so two finite numbers with the same spelling have
the same bits. The spelling of a finite number has an `x` in it.
-/

namespace GcsSaker.HexFloat

/-! ## The fields of a number -/

def bits (x : Float) : ℕ := x.toBits.toNat

def signBit (x : Float) : Bool := decide (2 ^ 63 ≤ bits x)

def exponentBits (x : Float) : ℕ := bits x / 2 ^ 52 % 2 ^ 11

def fractionBits (x : Float) : ℕ := bits x % 2 ^ 52

theorem bits_lt (x : Float) : bits x < 2 ^ 64 := x.toBits.toNat_lt

theorem toBits_eq_of_fields {x y : Float} (hs : signBit x = signBit y)
    (he : exponentBits x = exponentBits y) (hf : fractionBits x = fractionBits y) :
    x.toBits = y.toBits := by
  apply UInt64.toNat_inj.1
  change bits x = bits y
  have hx := bits_lt x
  have hy := bits_lt y
  have hsign : 2 ^ 63 ≤ bits x ↔ 2 ^ 63 ≤ bits y := decide_eq_decide.1 hs
  simp only [exponentBits, fractionBits] at he hf
  omega

theorem exponentBits_of_isFinite {x : Float} (h : x.isFinite = true) : exponentBits x ≠ 2047 := by
  intro he
  change Float.Model.UnpackedFloat.isFinite x.toModel.unpack = true at h
  have hexp : @Float.Model.UnpackedFloat.unpackExponent
      Float.Model.Format.binary64 x.toModel.toBits.toBitVec = -1#_ := by
    apply BitVec.eq_of_toNat_eq
    rw [Float.Model.UnpackedFloat.unpackExponent, BitVec.toNat_cast, BitVec.extractLsb_toNat,
      Nat.shiftRight_eq_div_pow]
    exact he
  rw [Float.Model.unpack, Float.Model.UnpackedFloat.unpack] at h
  simp only [hexp, if_true] at h
  split at h <;> exact absurd h Bool.false_ne_true

/-! ## The numeral -/

/-- The last `n` hexadecimal digits of a number, the most significant first. -/
def hexDigits : ℕ → ℕ → List Char
  | 0, _ => []
  | n + 1, value => hexDigits n (value / 16) ++ [Nat.digitChar (value % 16)]

/-- The thirteen digits of the fraction without the zeros at the end, of which one stays if there
is nothing else. -/
def fractionDigits (fraction : ℕ) : List Char :=
  if fraction = 0 then ['0'] else (hexDigits 13 fraction).rdropWhile (· = '0')

def exponent (x : Float) : ℤ :=
  if exponentBits x = 0 then if fractionBits x = 0 then 0 else -1022
  else (exponentBits x : ℤ) - 1023

def magnitude (x : Float) : List Char :=
  '0' :: 'x' :: (if exponentBits x = 0 then '0' else '1') :: '.' ::
    (fractionDigits (fractionBits x) ++ 'p' :: (exponent x).repr.toList)

def toHexString (x : Float) : String :=
  if x.isNaN then "NaN"
  else String.ofList ((if signBit x then ['-'] else []) ++
    if exponentBits x = 2047 then "Infinity".toList else magnitude x)

example : toHexString 1 = "0x1.0p0" := by decide +kernel

example : toHexString (-37.5) = "-0x1.2cp5" := by decide +kernel

/-! ## Reading the numeral back -/

theorem digitChar_injOn : ∀ d < 16, ∀ d' < 16, Nat.digitChar d = Nat.digitChar d' → d = d' := by
  decide

theorem hexDigits_length (n value : ℕ) : (hexDigits n value).length = n := by
  induction n generalizing value with
  | zero => rfl
  | succ n ih => rw [hexDigits, List.length_append, ih, List.length_singleton]

theorem hexDigits_inj {n value value' : ℕ} (h : value < 16 ^ n) (h' : value' < 16 ^ n)
    (heq : hexDigits n value = hexDigits n value') : value = value' := by
  induction n generalizing value value' with
  | zero => omega
  | succ n ih =>
      simp only [hexDigits] at heq
      obtain ⟨hinit, hlast⟩ := List.append_inj' heq rfl
      have hdiv := ih (by omega) (by omega) hinit
      have hmod := digitChar_injOn (value % 16) (by omega) (value' % 16) (by omega)
        (List.singleton_inj.1 hlast)
      omega

theorem mem_hexDigits {n value : ℕ} {c : Char} (h : c ∈ hexDigits n value) :
    ∃ d < 16, c = Nat.digitChar d := by
  induction n generalizing value with
  | zero => exact absurd h List.not_mem_nil
  | succ n ih =>
      rcases List.mem_append.1 h with hinit | hlast
      · exact ih hinit
      · exact ⟨value % 16, Nat.mod_lt _ (by omega), List.mem_singleton.1 hlast⟩

/-- A list is known from its length and what is left when the zeros at its end are dropped. -/
theorem rdropWhile_inj {l l' : List Char} (hlength : l.length = l'.length)
    (h : l.rdropWhile (· = '0') = l'.rdropWhile (· = '0')) : l = l' := by
  have hzeros : ∀ l : List Char, l.rtakeWhile (· = '0') =
      List.replicate (l.rtakeWhile (· = '0')).length '0' := by
    intro l
    refine List.eq_replicate_of_mem fun c hc => ?_
    have hzero := List.mem_rtakeWhile_imp hc
    exact of_decide_eq_true hzero
  have hsplit := List.rdropWhile_append_rtakeWhile (p := (· = '0')) (l := l)
  have hsplit' := List.rdropWhile_append_rtakeWhile (p := (· = '0')) (l := l')
  have hlen := congrArg List.length hsplit
  have hlen' := congrArg List.length hsplit'
  rw [List.length_append] at hlen hlen'
  rw [← hsplit, ← hsplit', h, hzeros l, hzeros l']
  rw [h] at hlen
  congr 2
  omega

theorem rdropWhile_ne_zero (l : List Char) : l.rdropWhile (· = '0') ≠ ['0'] := by
  intro h
  have hne : l.rdropWhile (· = '0') ≠ [] := by
    rw [h]
    exact List.cons_ne_nil _ _
  have hlast := List.rdropWhile_last_not (· = '0') l hne
  simp only [h, List.getLast_singleton, decide_true, not_true_eq_false] at hlast

theorem fractionDigits_inj {f f' : ℕ} (hf : f < 2 ^ 52) (hf' : f' < 2 ^ 52)
    (h : fractionDigits f = fractionDigits f') : f = f' := by
  unfold fractionDigits at h
  split_ifs at h with hz hz'
  · rw [hz, hz']
  · exact absurd h.symm (rdropWhile_ne_zero _)
  · exact absurd h (rdropWhile_ne_zero _)
  · have hlength : (hexDigits 13 f).length = (hexDigits 13 f').length := by
      rw [hexDigits_length, hexDigits_length]
    exact hexDigits_inj (by omega) (by omega) (rdropWhile_inj hlength h)

theorem notMem_fractionDigits {c : Char} (hc : ∀ d < 16, c ≠ Nat.digitChar d) (f : ℕ) :
    c ∉ fractionDigits f := by
  intro h
  unfold fractionDigits at h
  split_ifs at h
  · exact hc 0 (by omega) (List.mem_singleton.1 h)
  · obtain ⟨d, hd, heq⟩ := mem_hexDigits ((List.rdropWhile_prefix (· = '0') _).subset h)
    exact hc d hd heq

theorem repr_injective {m n : ℤ} (h : m.repr = n.repr) : m = n :=
  Option.some.inj (by rw [← Decimal.parse_repr m, h, Decimal.parse_repr])

theorem p_notMem_repr (n : ℤ) : 'p' ∉ n.repr.toList := by
  have hnat : ∀ k : ℕ, 'p' ∉ k.repr.toList := by
    intro k h
    rw [Nat.toList_repr] at h
    exact absurd (Nat.isDigit_of_mem_toDigits (by decide) (by decide) h) (by decide)
  rw [Int.repr_eq_if]
  split_ifs
  · exact hnat _
  · rw [String.toList_append]
    intro h
    rcases List.mem_append.1 h with hsign | hdigits
    · exact absurd hsign (by decide)
    · exact hnat _ hdigits

theorem toHexString_of_isFinite {x : Float} (h : x.isFinite = true) :
    (toHexString x).toList = (if signBit x then ['-'] else []) ++ magnitude x := by
  have hnan := ((FloatOrder.isFinite_iff x).1 h).1
  rw [toHexString, hnan, if_neg Bool.false_ne_true, if_neg (exponentBits_of_isFinite h),
    String.toList_ofList]

theorem magnitude_inj {x y : Float} (h : magnitude x = magnitude y) :
    exponentBits x = exponentBits y ∧ fractionBits x = fractionBits y := by
  simp only [magnitude, List.cons.injEq, true_and] at h
  obtain ⟨hlead, hrest⟩ := h
  have hfree : ∀ d < 16, 'p' ≠ Nat.digitChar d := by decide
  obtain ⟨hdigits, -, hexponent⟩ := (List.append_cons_inj_of_notMem
    (notMem_fractionDigits hfree (fractionBits y)) (p_notMem_repr (exponent y))).1 hrest.symm
  have hf : fractionBits x = fractionBits y :=
    fractionDigits_inj (Nat.mod_lt _ (by omega)) (Nat.mod_lt _ (by omega)) hdigits.symm
  have hexp := repr_injective (String.toList_injective hexponent)
  have hzero : exponentBits x = 0 ↔ exponentBits y = 0 := by
    by_cases hx : exponentBits x = 0 <;> by_cases hy : exponentBits y = 0 <;>
      simp [hx, hy] at hlead ⊢
  refine ⟨?_, hf⟩
  unfold exponent at hexp
  split_ifs at hexp <;> omega

/-- Finite numbers with the same numeral have the same bits. -/
theorem toHexString_inj {x y : Float} (hx : x.isFinite = true) (hy : y.isFinite = true) :
    toHexString x = toHexString y ↔ x.toBits = y.toBits := by
  constructor
  · intro h
    have hlists := congrArg String.toList h
    rw [toHexString_of_isFinite hx, toHexString_of_isFinite hy] at hlists
    have hsign : signBit x = signBit y := by
      cases hsx : signBit x <;> cases hsy : signBit y <;>
        simp [hsx, hsy, magnitude] at hlists ⊢
    rw [hsign, List.append_cancel_left_eq] at hlists
    obtain ⟨he, hf⟩ := magnitude_inj hlists
    exact toBits_eq_of_fields hsign he hf
  · intro h
    have hbits : x = y := by
      cases x with | _ mx => cases y with | _ my =>
      cases mx; cases my; cases h; rfl
    rw [hbits]

theorem x_mem_toHexString {x : Float} (h : x.isFinite = true) : 'x' ∈ (toHexString x).toList := by
  rw [toHexString_of_isFinite h]
  apply List.mem_append_right
  exact List.mem_cons_of_mem _ (List.mem_cons_self ..)

end GcsSaker.HexFloat
