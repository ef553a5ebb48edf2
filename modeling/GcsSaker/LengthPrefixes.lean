import Mathlib.Algebra.BigOperators.Group.List.Basic
import Mathlib.Algebra.GroupWithZero.Nat
import Mathlib.Algebra.Order.Group.Nat

/-!
# Length prefixes

Texts that are written one after the other, each behind a header with its size, can be read back,
whatever the texts contain: a header ends where it says, and the size says where the text ends.
Sizes may count something else than the letters of the text, such as the bytes of their encoding,
as long as every letter counts.
-/

namespace GcsSaker.LengthPrefixes

variable {α : Type*} (weight : α → ℕ) (header : ℕ → List α)

def size (text : List α) : ℕ := (text.map weight).sum

def frame (text : List α) : List α := header (size weight text) ++ text

def frames (texts : List (List α)) : List α := texts.flatMap (frame weight header)

/-- A header of a valid size is told from what follows it. -/
structure Delimited (valid : ℕ → Prop) : Prop where
  nonempty : ∀ n, header n ≠ []
  inj : ∀ n n' rest rest', valid n → valid n' → header n ++ rest = header n' ++ rest' →
    n = n' ∧ rest = rest'

variable {weight : α → ℕ} {header : ℕ → List α} {valid : ℕ → Prop}

theorem size_append (text text' : List α) :
    size weight (text ++ text') = size weight text + size weight text' := by
  rw [size, size, size, List.map_append, List.sum_append]

theorem eq_nil_of_size (hweight : ∀ a, 0 < weight a) {text : List α} (h : size weight text = 0) :
    text = [] := by
  cases text with
  | nil => rfl
  | cons a text =>
      have ha := hweight a
      rw [size, List.map_cons, List.sum_cons] at h
      omega

theorem append_inj_of_size (hweight : ∀ a, 0 < weight a) {text text' rest rest' : List α}
    (hsize : size weight text = size weight text') (h : text ++ rest = text' ++ rest') :
    text = text' ∧ rest = rest' := by
  rcases List.append_eq_append_iff.1 h with ⟨more, rfl, rfl⟩ | ⟨more, rfl, rfl⟩
  · rw [size_append] at hsize
    obtain rfl : more = [] := eq_nil_of_size hweight (by omega)
    exact ⟨(List.append_nil _).symm, rfl⟩
  · rw [size_append] at hsize
    obtain rfl : more = [] := eq_nil_of_size hweight (by omega)
    exact ⟨List.append_nil _, rfl⟩

theorem frame_append_inj (hheader : Delimited header valid) (hweight : ∀ a, 0 < weight a)
    {text text' rest rest' : List α} (hvalid : valid (size weight text))
    (hvalid' : valid (size weight text'))
    (h : frame weight header text ++ rest = frame weight header text' ++ rest') :
    text = text' ∧ rest = rest' := by
  rw [frame, frame, List.append_assoc, List.append_assoc] at h
  obtain ⟨hsize, hrest⟩ := hheader.inj _ _ _ _ hvalid hvalid' h
  exact append_inj_of_size hweight hsize hrest

theorem frames_inj (hheader : Delimited header valid) (hweight : ∀ a, 0 < weight a)
    {texts texts' : List (List α)} (hvalid : ∀ text ∈ texts, valid (size weight text))
    (hvalid' : ∀ text ∈ texts', valid (size weight text))
    (h : frames weight header texts = frames weight header texts') : texts = texts' := by
  have hne : ∀ (text rest : List α), frame weight header text ++ rest ≠ [] := by
    intro text rest hnil
    exact hheader.nonempty _ (List.append_eq_nil_iff.1 (List.append_eq_nil_iff.1 hnil).1).1
  induction texts generalizing texts' with
  | nil =>
      cases texts' with
      | nil => rfl
      | cons text' texts' => exact absurd h.symm (hne text' _)
  | cons text texts ih =>
      cases texts' with
      | nil => exact absurd h (hne text _)
      | cons text' texts' =>
          obtain ⟨hhead, htail⟩ := List.forall_mem_cons.1 hvalid
          obtain ⟨hhead', htail'⟩ := List.forall_mem_cons.1 hvalid'
          obtain ⟨rfl, hrest⟩ := frame_append_inj hheader hweight hhead hhead' h
          rw [ih htail htail' hrest]

/-- Decimal numerals end at a letter that is no digit. -/
def decimal (separator : Char) (n : ℕ) : List Char := Nat.toDigits 10 n ++ [separator]

theorem delimited_decimal {separator : Char} (hseparator : separator.isDigit = false) :
    Delimited (decimal separator) fun _ => True := by
  have htake : ∀ (n : ℕ) (rest : List Char),
      (decimal separator n ++ rest).takeWhile (· ≠ separator) = Nat.toDigits 10 n := by
    intro n rest
    have hdigits : ∀ c ∈ Nat.toDigits 10 n, decide (c ≠ separator) = true := by
      intro c hc
      refine decide_eq_true fun heq => ?_
      have hdigit := Nat.isDigit_of_mem_toDigits (by decide) (by decide) hc
      rw [heq, hseparator] at hdigit
      cases hdigit
    rw [decimal, List.append_assoc, List.takeWhile_append_of_pos hdigits, List.singleton_append,
      List.takeWhile_cons_of_neg (by simp), List.append_nil]
  constructor
  case nonempty =>
    intro n hnil
    exact absurd (List.append_eq_nil_iff.1 hnil).2 (List.cons_ne_nil _ _)
  case inj =>
    intro n n' rest rest' _ _ h
    have hdigits : Nat.toDigits 10 n = Nat.toDigits 10 n' := by
      rw [← htake n rest, h, htake]
    have hn : n = n' := by
      rw [← Nat.ofDigitChars_ten_toDigits (n := n), hdigits, Nat.ofDigitChars_ten_toDigits]
    subst hn
    exact ⟨rfl, List.append_cancel_left h⟩

/-! ## Bytes of a text -/

theorem utf8ByteSize_eq_size (text : String) :
    text.toByteArray.size = size Char.utf8Size text.toList := by
  have hencode : ∀ cs : List Char, cs.utf8Encode.size = size Char.utf8Size cs := by
    intro cs
    induction cs with
    | nil => rfl
    | cons c cs ih =>
        rw [List.utf8Encode_cons, ByteArray.size_append, ih, size, size, List.map_cons,
          List.sum_cons, List.utf8Encode_singleton, List.size_toByteArray,
          String.length_utf8EncodeChar]
  rw [← String.utf8Encode_toList, hencode]

end GcsSaker.LengthPrefixes
