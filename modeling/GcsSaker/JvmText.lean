import Mathlib.Algebra.BigOperators.Group.List.Basic
import Mathlib.Algebra.Order.Ring.Nat
import Mathlib.Data.List.DropRight

/-!
# Strings in Kotlin

White space, blankness, trimming, length, fields and lines of a `String` on the JVM. White space
lies in the basic plane, so that it is the same for a `Char` and for a code point.
-/

namespace GcsSaker.JvmText

/-- `Char.isWhitespace`: a space of Unicode, or one of the separators among the control characters. -/
def isWhitespace (c : Char) : Bool :=
  (0x09 ≤ c.toNat && c.toNat ≤ 0x0D) || (0x1C ≤ c.toNat && c.toNat ≤ 0x20) ||
    c.toNat == 0xA0 || c.toNat == 0x1680 || (0x2000 ≤ c.toNat && c.toNat ≤ 0x200A) ||
    c.toNat == 0x2028 || c.toNat == 0x2029 || c.toNat == 0x202F || c.toNat == 0x205F ||
    c.toNat == 0x3000

def isBlank (s : String) : Bool := s.toList.all isWhitespace

def trim (s : String) : String :=
  String.ofList ((s.toList.dropWhile isWhitespace).reverse.dropWhile isWhitespace).reverse

/-- The number of UTF-16 code units. -/
def length (s : String) : ℕ := (s.toList.map fun c => if c.toNat < 0x10000 then 1 else 2).sum

def codeUnits (s : String) : List ℕ :=
  s.toList.flatMap fun c =>
    if c.toNat < 0x10000 then [c.toNat]
    else [0xD800 + (c.toNat - 0x10000) / 0x400, 0xDC00 + (c.toNat - 0x10000) % 0x400]

def notAfterUnits : List ℕ → List ℕ → Bool
  | [], _ => true
  | _ :: _, [] => false
  | u :: us, v :: vs => decide (u < v) || (decide (u = v) && notAfterUnits us vs)

/-- `compareTo` of a `String` compares UTF-16 code units. -/
def notAfter (s s' : String) : Bool := notAfterUnits (codeUnits s) (codeUnits s')

theorem length_le_length (s : String) : s.length ≤ length s := by
  have hunits : ∀ n ∈ s.toList.map fun c => if c.toNat < 0x10000 then 1 else 2, 1 ≤ n := by
    intro n hn
    obtain ⟨c, -, rfl⟩ := List.mem_map.1 hn
    split_ifs <;> omega
  have hlength := List.length_le_sum_of_one_le _ hunits
  rwa [List.length_map, String.length_toList] at hlength

theorem toList_trim (s : String) :
    (trim s).toList = (s.toList.dropWhile isWhitespace).rdropWhile isWhitespace :=
  String.toList_ofList

theorem trim_eq_empty_iff (s : String) : trim s = "" ↔ isBlank s = true := by
  rw [← String.toList_inj, toList_trim, isBlank, List.all_eq_true]
  constructor
  · intro h c hc
    rw [String.toList_empty, List.rdropWhile_eq_nil_iff] at h
    rw [← List.takeWhile_append_dropWhile (p := isWhitespace) (l := s.toList),
      List.mem_append] at hc
    cases hc with
    | inl hbefore => exact List.mem_takeWhile_imp hbefore
    | inr hafter => exact h c hafter
  · intro h
    rw [List.dropWhile_eq_nil_iff.mpr h]
    rfl

theorem dropWhile_rdropWhile_dropWhile {α : Type*} (p : α → Bool) (l : List α) :
    ((l.dropWhile p).rdropWhile p).dropWhile p = (l.dropWhile p).rdropWhile p := by
  rw [List.dropWhile_eq_self_iff]
  intro hlength
  have hpre : (l.dropWhile p).rdropWhile p <+: l.dropWhile p :=
    List.rdropWhile_prefix p _
  rw [hpre.getElem hlength]
  exact List.dropWhile_get_zero_not p l (hlength.trans_le hpre.length_le)

theorem trim_trim (s : String) : trim (trim s) = trim s := by
  rw [← String.toList_inj, toList_trim, toList_trim, dropWhile_rdropWhile_dropWhile,
    List.rdropWhile_idempotent]

theorem isBlank_trim (s : String) : isBlank (trim s) = isBlank s := by
  rw [Bool.eq_iff_iff, ← trim_eq_empty_iff, trim_trim, trim_eq_empty_iff]

/-! ## Fields and lines -/

def joinToString (separator : Char) (fields : List String) : String :=
  String.ofList ([separator].intercalate (fields.map String.toList))

def split (separator : Char) (s : String) : List String :=
  (s.toList.splitOn separator).map String.ofList

theorem split_joinToString (separator : Char) {fields : List String} (hne : fields ≠ [])
    (h : ∀ field ∈ fields, separator ∉ field.toList) :
    split separator (joinToString separator fields) = fields := by
  have hplain : ∀ chars ∈ fields.map String.toList, separator ∉ chars := by
    intro chars hchars
    obtain ⟨field, hfield, rfl⟩ := List.mem_map.1 hchars
    exact h field hfield
  have hmap : fields.map String.toList ≠ [] := by
    rw [ne_eq, List.map_eq_nil_iff]
    exact hne
  rw [split, joinToString, String.toList_ofList, List.splitOn_intercalate separator hplain hmap,
    List.map_map]
  calc fields.map (String.ofList ∘ String.toList) = fields.map id :=
        List.map_congr_left fun field _ => String.ofList_toList
    _ = fields := List.map_id fields

/-- Every line break as a line feed. -/
def lineFeeds : List Char → List Char
  | [] => []
  | '\r' :: '\n' :: rest => '\n' :: lineFeeds rest
  | '\r' :: rest => '\n' :: lineFeeds rest
  | c :: rest => c :: lineFeeds rest

def lineSequence (s : String) : List String :=
  ((lineFeeds s.toList).splitOn '\n').map String.ofList

theorem mem_intercalate {separator c : Char} {parts : List (List Char)}
    (h : c ∈ [separator].intercalate parts) : c = separator ∨ ∃ part ∈ parts, c ∈ part := by
  induction parts with
  | nil =>
      rw [List.intercalate_nil] at h
      exact absurd h List.not_mem_nil
  | cons part parts ih =>
      cases parts with
      | nil =>
          rw [List.intercalate_singleton] at h
          exact Or.inr ⟨part, List.mem_cons_self, h⟩
      | cons next parts =>
          rw [List.intercalate_cons_cons, List.mem_append, List.mem_append, List.mem_singleton] at h
          rcases h with (hpart | hsep) | hrest
          · exact Or.inr ⟨part, List.mem_cons_self, hpart⟩
          · exact Or.inl hsep
          · obtain hsep | ⟨other, hother, hc⟩ := ih hrest
            · exact Or.inl hsep
            · exact Or.inr ⟨other, List.mem_cons_of_mem part hother, hc⟩

end GcsSaker.JvmText
