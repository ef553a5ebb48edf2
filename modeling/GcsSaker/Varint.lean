import Mathlib.Data.List.Basic
import Mathlib.Algebra.Order.Ring.Nat

/-!
# Integers in bytes

A varint is a non-empty list of seven-bit groups, the lowest first; every byte but its last has the
high bit set. `split` takes the varint off the front of a byte string. A fixed-width integer is a
given number of bytes, the lowest first.
-/

namespace GcsSaker

/-- The seven-bit groups of a varint, the lowest first. -/
inductive Varint where
  | last (group : Fin 128)
  | more (group : Fin 128) (rest : Varint)
  deriving DecidableEq

namespace Varint

def value : Varint → ℕ
  | .last group => group
  | .more group rest => group + 128 * rest.value

def spell : Varint → List UInt8
  | .last group => [UInt8.ofNat group]
  | .more group rest => UInt8.ofNat (group + 128) :: rest.spell

def length : Varint → ℕ
  | .last _ => 1
  | .more _ rest => rest.length + 1

/-- The shortest varint of a number. -/
def ofNat (n : ℕ) : Varint :=
  if n < 128 then .last (Fin.ofNat 128 n) else .more (Fin.ofNat 128 n) (ofNat (n / 128))
termination_by n
decreasing_by omega

/-- The varint at the front of the bytes and the bytes after it, unless they end inside it. -/
def split : List UInt8 → Option (Varint × List UInt8)
  | [] => none
  | byte :: bytes =>
    if byte.toNat < 128 then some (.last (Fin.ofNat 128 byte.toNat), bytes)
    else (split bytes).map fun r => (.more (Fin.ofNat 128 byte.toNat) r.1, r.2)

theorem length_spell (v : Varint) : v.spell.length = v.length := by
  induction v with
  | last group => rfl
  | more group rest ih => rw [spell, List.length_cons, ih, length]

theorem length_pos (v : Varint) : 0 < v.length := by
  cases v with
  | last group => exact Nat.one_pos
  | more group rest => exact Nat.succ_pos _

theorem spell_append_ne_nil (v : Varint) (bytes : List UInt8) : v.spell ++ bytes ≠ [] := by
  cases v with
  | last group => exact List.cons_ne_nil _ _
  | more group rest => exact List.cons_ne_nil _ _

theorem value_ofNat (n : ℕ) : (ofNat n).value = n := by
  induction n using ofNat.induct with
  | case1 n h =>
      rw [ofNat, if_pos h, value, Fin.val_ofNat, Nat.mod_eq_of_lt h]
  | case2 n h ih =>
      rw [ofNat, if_neg h, value, ih, Fin.val_ofNat]
      exact Nat.mod_add_div n 128

theorem toNat_ofNat_of_lt {n : ℕ} (h : n < 256) : (UInt8.ofNat n).toNat = n := by
  rw [UInt8.toNat_ofNat']
  exact Nat.mod_eq_of_lt h

theorem split_spell (v : Varint) (bytes : List UInt8) : split (v.spell ++ bytes) = some (v, bytes) := by
  induction v with
  | last group =>
      have hg := group.isLt
      have hb : (UInt8.ofNat group.val).toNat = group.val := toNat_ofNat_of_lt (by omega)
      have hv : Fin.ofNat 128 group.val = group := Fin.ext (Nat.mod_eq_of_lt hg)
      rw [spell, List.singleton_append, split, hb, if_pos hg, hv]
  | more group rest ih =>
      have hg := group.isLt
      have hb : (UInt8.ofNat (group.val + 128)).toNat = group.val + 128 :=
        toNat_ofNat_of_lt (by omega)
      have hv : Fin.ofNat 128 (group.val + 128) = group := by
        apply Fin.ext
        rw [Fin.val_ofNat]
        omega
      rw [spell, List.cons_append, split, hb, if_neg (by omega), ih, hv]
      rfl

theorem spell_of_split {bytes rest : List UInt8} {v : Varint} (h : split bytes = some (v, rest)) :
    bytes = v.spell ++ rest := by
  induction bytes generalizing v with
  | nil => cases h
  | cons byte bytes ih =>
      have hlt := byte.toNat_lt
      rw [split] at h
      split_ifs at h with hb
      · cases h
        rw [spell, Fin.val_ofNat, Nat.mod_eq_of_lt hb, UInt8.ofNat_toNat]
        rfl
      · obtain ⟨⟨w, rest'⟩, hw, he⟩ := Option.map_eq_some_iff.mp h
        cases he
        have hg : byte.toNat % 128 + 128 = byte.toNat := by omega
        rw [spell, Fin.val_ofNat, hg, UInt8.ofNat_toNat, List.cons_append, ← ih hw]

theorem length_of_split {bytes rest : List UInt8} {v : Varint} (h : split bytes = some (v, rest)) :
    bytes.length = v.length + rest.length := by
  rw [spell_of_split h, List.length_append, length_spell]

end Varint

/-! ## Fixed width -/

namespace LittleEndian

def spell : ℕ → ℕ → List UInt8
  | 0, _ => []
  | width + 1, n => UInt8.ofNat n :: spell width (n / 256)

def value : List UInt8 → ℕ
  | [] => 0
  | byte :: bytes => byte.toNat + 256 * value bytes

@[simp] theorem length_spell (width n : ℕ) : (spell width n).length = width := by
  induction width generalizing n with
  | zero => rfl
  | succ width ih => rw [spell, List.length_cons, ih]

theorem value_spell (width n : ℕ) : value (spell width n) = n % 256 ^ width := by
  induction width generalizing n with
  | zero => rw [spell, value, pow_zero, Nat.mod_one]
  | succ width ih =>
      rw [spell, value, ih, UInt8.toNat_ofNat', pow_succ' 256 width, Nat.mod_mul]

end LittleEndian

end GcsSaker
