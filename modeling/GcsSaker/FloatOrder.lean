import Mathlib.Data.Ordering.Basic
import Mathlib.Tactic.Common

/-!
# Comparing floating-point numbers

`Float` compares as IEEE 754 prescribes, so a NaN is neither below nor above anything. Away from
NaN the order is total, which is what range checks written with `<` rely on.
-/

namespace GcsSaker.FloatOrder

open Float.Model

theorem compare_fields_swap (e e' : Int) (m m' : Nat) :
    (compare e' e).then (compare m' m) = ((compare e e').then (compare m m')).swap := by
  rw [Ordering.swap_then, Int.compare_swap, Nat.compare_swap]

theorem compare_swap (a b : UnpackedFloat) :
    b.compare a = (a.compare b).map Ordering.swap := by
  cases a with
  | notANumber => cases b <;> rfl
  | infinity s => cases s <;> rcases b with ⟨⟨⟩⟩ | _ | ⟨⟨⟩⟩ | ⟨⟨⟩⟩ <;> rfl
  | zero s => rcases b with ⟨⟨⟩⟩ | _ | ⟨⟨⟩⟩ | ⟨⟨⟩⟩ <;> rfl
  | finite s m e hm =>
      cases b with
      | notANumber => cases s <;> rfl
      | infinity t => cases s <;> cases t <;> rfl
      | zero t => cases s <;> rfl
      | finite t m' e' hm' =>
          cases s with
          | negative => cases t with
            | negative => exact congrArg (fun o => some o.swap) (compare_fields_swap e e' m m')
            | positive => rfl
          | positive => cases t with
            | negative => rfl
            | positive => exact congrArg some (compare_fields_swap e e' m m')

theorem compare_eq_none_iff (a b : UnpackedFloat) :
    a.compare b = none ↔ a = .notANumber ∨ b = .notANumber := by
  rcases a with ⟨⟨⟩⟩ | _ | ⟨⟨⟩⟩ | ⟨⟨⟩⟩ <;> rcases b with ⟨⟨⟩⟩ | _ | ⟨⟨⟩⟩ | ⟨⟨⟩⟩ <;>
    first
      | exact iff_of_true rfl (Or.inl rfl)
      | exact iff_of_true rfl (Or.inr rfl)
      | exact iff_of_false nofun fun h => h.elim nofun nofun

theorem unpack_ne_notANumber {x : Float} (hx : x.isNaN = false) :
    x.toModel.unpack ≠ .notANumber := by
  intro h
  have hn : x.isNaN = true := by
    change UnpackedFloat.isNaN x.toModel.unpack = true
    rw [h]
    rfl
  rw [hx] at hn
  cases hn

theorem le_iff (x y : Float) :
    x ≤ y ↔ UnpackedFloat.le x.toModel.unpack y.toModel.unpack = true :=
  decide_eq_true_iff (p := x.toModel ≤ y.toModel)

theorem lt_iff (x y : Float) :
    x < y ↔ UnpackedFloat.lt x.toModel.unpack y.toModel.unpack = true :=
  decide_eq_true_iff (p := x.toModel < y.toModel)

/-- Two numbers of which neither is a NaN are comparable. -/
theorem le_of_not_lt {x y : Float} (hx : x.isNaN = false) (hy : y.isNaN = false)
    (h : ¬ x < y) : y ≤ x := by
  rw [lt_iff, UnpackedFloat.lt] at h
  rw [le_iff, UnpackedFloat.le, compare_swap]
  cases hc : x.toModel.unpack.compare y.toModel.unpack with
  | none =>
      rcases (compare_eq_none_iff _ _).mp hc with hn | hn
      · exact absurd hn (unpack_ne_notANumber hx)
      · exact absurd hn (unpack_ne_notANumber hy)
  | some o =>
      rw [hc] at h
      cases o with
      | lt => exact absurd rfl h
      | eq => rfl
      | gt => rfl

theorem not_lt_of_le {x y : Float} (h : y ≤ x) : ¬ x < y := by
  rw [le_iff, UnpackedFloat.le, compare_swap] at h
  rw [lt_iff, UnpackedFloat.lt]
  cases hc : x.toModel.unpack.compare y.toModel.unpack with
  | none => simp
  | some o =>
      rw [hc] at h
      cases o with
      | lt => cases h
      | eq => simp
      | gt => simp

theorem lt_of_not_le {x y : Float} (hx : x.isNaN = false) (hy : y.isNaN = false)
    (h : ¬ y ≤ x) : x < y := by
  by_contra hlt
  exact h (le_of_not_lt hx hy hlt)

theorem isFinite_iff (x : Float) :
    x.isFinite = true ↔ x.isNaN = false ∧ x.isInf = false := by
  change UnpackedFloat.isFinite x.toModel.unpack = true ↔
    UnpackedFloat.isNaN x.toModel.unpack = false ∧ UnpackedFloat.isInf x.toModel.unpack = false
  cases x.toModel.unpack with
  | notANumber => exact iff_of_false nofun fun h => nomatch h.1
  | infinity s => exact iff_of_false nofun fun h => nomatch h.2
  | zero s => exact iff_of_true rfl ⟨rfl, rfl⟩
  | finite s m e hm => exact iff_of_true rfl ⟨rfl, rfl⟩

/-- What lies between two finite numbers is finite. -/
theorem isFinite_of_between {x low high : Float} (hlow : low.isFinite = true)
    (hhigh : high.isFinite = true) (h : low ≤ x) (h' : x ≤ high) : x.isFinite = true := by
  rw [le_iff, UnpackedFloat.le] at h h'
  change UnpackedFloat.isFinite low.toModel.unpack = true at hlow
  change UnpackedFloat.isFinite high.toModel.unpack = true at hhigh
  change UnpackedFloat.isFinite x.toModel.unpack = true
  generalize low.toModel.unpack = l at hlow h
  generalize high.toModel.unpack = u at hhigh h'
  generalize x.toModel.unpack = v at h h' ⊢
  cases v with
  | notANumber => rcases l with ⟨⟨⟩⟩ | _ | ⟨⟨⟩⟩ | ⟨⟨⟩⟩ <;> cases h
  | infinity s =>
      cases s with
      | negative => rcases l with ⟨⟨⟩⟩ | _ | ⟨⟨⟩⟩ | ⟨⟨⟩⟩ <;> first
          | exact absurd hlow Bool.false_ne_true
          | exact absurd h Bool.false_ne_true
      | positive => rcases u with ⟨⟨⟩⟩ | _ | ⟨⟨⟩⟩ | ⟨⟨⟩⟩ <;> first
          | exact absurd hhigh Bool.false_ne_true
          | exact absurd h' Bool.false_ne_true
  | zero s => rfl
  | finite s m e hm => rfl

end GcsSaker.FloatOrder
