import GcsSaker.Clock
import GcsSaker.JvmText

/-!
# Columns of PostgreSQL

What a column stores of a value, or nothing where the statement fails. A `VARCHAR(limit)` takes a
longer text only if nothing but spaces stands beyond the limit. An instant is rounded to
microseconds by the driver and to the precision of the column by the server.
-/

namespace GcsSaker.PostgresColumns

def varchar (limit : ℕ) (text : String) : Option String :=
  if Char.ofNat 0 ∈ text.toList then none
  else if (text.toList.drop limit).all (· = ' ') then
    some (String.ofList (text.toList.take limit))
  else none

/-- A text that is compared with a column. -/
def textParameter (text : String) : Option String :=
  if Char.ofNat 0 ∈ text.toList then none else some text

def nullable {α : Type*} (column : α → Option α) : Option α → Option (Option α)
  | none => some none
  | some value => (column value).map some

def microsecond : ℤ := 1000

/-- Midnight of January 1st, 2000, from which the server counts. -/
def epoch : ℤ := 946684800 * Clock.second

def lowest : ℤ := epoch - 211813488000000000 * microsecond

def beyond : ℤ := epoch + 9223371331200000000 * microsecond

/-- The driver rounds halves up. -/
def toMicros (t : ℤ) : ℤ := (t + 500) / microsecond * microsecond

/-- The server rounds halves away from its epoch. -/
def toPrecision (unit t : ℤ) : ℤ :=
  if epoch ≤ t then epoch + (t - epoch + unit / 2) / unit * unit
  else epoch - (epoch - t + unit / 2) / unit * unit

def timestamptz (unit t : ℤ) : Option ℤ :=
  if lowest ≤ toMicros t ∧ toMicros t < beyond then some (toPrecision unit (toMicros t)) else none

/-- The text fits and the column stores it as it is. -/
def Fits (limit : ℕ) (text : String) : Prop := text.length ≤ limit ∧ Char.ofNat 0 ∉ text.toList

instance {limit : ℕ} {text : String} : Decidable (Fits limit text) :=
  inferInstanceAs (Decidable (_ ∧ _))

theorem varchar_of_fits {limit : ℕ} {text : String} (h : Fits limit text) :
    varchar limit text = some text := by
  have hlength : text.toList.length ≤ limit := by
    rw [String.length_toList]
    exact h.1
  rw [varchar, if_neg h.2, List.drop_of_length_le hlength, List.take_of_length_le hlength,
    String.ofList_toList]
  rfl

/-- The text is longer than the column, which cuts the spaces at its end off. -/
def Cut (limit : ℕ) (text : String) : Prop :=
  limit < text.length ∧ (text.toList.drop limit).all (· = ' ') = true

instance {limit : ℕ} {text : String} : Decidable (Cut limit text) :=
  inferInstanceAs (Decidable (_ ∧ _))

theorem varchar_eq_some {limit : ℕ} {text stored : String} (h : varchar limit text = some stored) :
    Char.ofNat 0 ∉ text.toList ∧ (text.toList.drop limit).all (· = ' ') = true ∧
      stored = String.ofList (text.toList.take limit) := by
  unfold varchar at h
  split_ifs at h with hnul hspaces
  exact ⟨hnul, hspaces, (Option.some.inj h).symm⟩

/-- What a column holds fits it. -/
theorem fits_of_varchar {limit : ℕ} {text stored : String} (h : varchar limit text = some stored) :
    Fits limit stored := by
  obtain ⟨hnul, -, rfl⟩ := varchar_eq_some h
  constructor
  · rw [String.length_ofList, List.length_take]
    exact Nat.min_le_left _ _
  · rw [String.toList_ofList]
    exact fun hmem => hnul (List.mem_of_mem_take hmem)

/-- Nothing but spaces is cut off a text. -/
theorem isBlank_of_varchar {limit : ℕ} {text stored : String}
    (h : varchar limit text = some stored) :
    JvmText.isBlank stored = JvmText.isBlank text := by
  unfold varchar at h
  split_ifs at h with hzero hspaces
  cases h
  have hrest : (text.toList.drop limit).all JvmText.isWhitespace = true := by
    rw [List.all_eq_true] at hspaces ⊢
    intro c hc
    rw [of_decide_eq_true (hspaces c hc)]
    rfl
  have hsplit := List.take_append_drop limit text.toList
  rw [JvmText.isBlank, JvmText.isBlank, String.toList_ofList, ← hsplit, List.all_append, hsplit,
    hrest, Bool.and_true]

/-- What a column holds of a text that it takes. -/
def clipped (limit : ℕ) (text : String) : String := String.ofList (text.toList.take limit)

theorem clipped_of_le {limit : ℕ} {text : String} (h : text.length ≤ limit) :
    clipped limit text = text := by
  rw [clipped, List.take_of_length_le (by rwa [String.length_toList]), String.ofList_toList]

theorem varchar_eq_some_iff {limit : ℕ} {text stored : String} :
    varchar limit text = some stored ↔
      (varchar limit text).isSome = true ∧ stored = clipped limit text := by
  constructor
  · intro h
    exact ⟨Option.isSome_iff_exists.2 ⟨stored, h⟩, (varchar_eq_some h).2.2⟩
  · rintro ⟨h, rfl⟩
    obtain ⟨stored, hstored⟩ := Option.isSome_iff_exists.1 h
    rw [hstored, (varchar_eq_some hstored).2.2, clipped]

theorem eq_of_varchar {limit : ℕ} {text stored : String} (h : varchar limit text = some stored)
    (hcut : ¬ Cut limit text) : stored = text := by
  obtain ⟨-, hspaces, rfl⟩ := varchar_eq_some h
  exact clipped_of_le (not_lt.1 fun hlt => hcut ⟨hlt, hspaces⟩)

/-- A text that the column does not fill has not been cut. -/
theorem eq_of_varchar_of_lt {limit : ℕ} {text stored : String}
    (h : varchar limit text = some stored) (hlt : stored.length < limit) : stored = text := by
  refine eq_of_varchar h fun hcut => ?_
  obtain ⟨-, -, rfl⟩ := varchar_eq_some h
  rw [String.length_ofList, List.length_take, String.length_toList] at hlt
  have := hcut.1
  omega

theorem eq_of_nullable {α : Type*} {column : α → Option α} {value stored : Option α}
    (h : nullable column value = some stored)
    (hcolumn : ∀ v ∈ value, ∀ v', column v = some v' → v' = v) : stored = value := by
  cases value with
  | none => exact (Option.some.inj h).symm
  | some v =>
      obtain ⟨v', hv', rfl⟩ := Option.map_eq_some_iff.1 h
      rw [hcolumn v rfl v' hv']

theorem text_of_textParameter {text text' : String} (h : textParameter text = some text') :
    text' = text := by
  unfold textParameter at h
  split_ifs at h
  exact (Option.some.inj h).symm

theorem nullable_of_forall {α : Type*} {column : α → Option α} {value : Option α}
    (h : ∀ v ∈ value, column v = some v) : nullable column value = some value := by
  cases value with
  | none => rfl
  | some v => rw [nullable, h v rfl, Option.map_some]

theorem toMicros_of_dvd {t : ℤ} (h : microsecond ∣ t) : toMicros t = t := by
  obtain ⟨n, rfl⟩ := h
  simp only [toMicros, microsecond]
  omega

theorem toPrecision_of_dvd {unit t : ℤ} (hunit : 0 < unit) (h : unit ∣ t - epoch) :
    toPrecision unit t = t := by
  obtain ⟨n, hn⟩ := h
  have hhalf : 0 ≤ unit / 2 ∧ unit / 2 < unit := by omega
  have hround : ∀ m : ℤ, (unit * m + unit / 2) / unit = m := by
    intro m
    rw [Int.add_comm, Int.add_mul_ediv_left _ _ (by omega : unit ≠ 0),
      Int.ediv_eq_zero_of_lt hhalf.1 hhalf.2, Int.zero_add]
  unfold toPrecision
  split_ifs with he
  · rw [hn, hround, Int.mul_comm, ← hn]
    omega
  · have hback : epoch - t = unit * (-n) := by
      rw [Int.mul_neg, ← hn]
      omega
    rw [hback, hround, Int.mul_comm, Int.mul_neg, ← hn]
    omega

theorem timestamptz_of_dvd {unit t : ℤ} (hunit : 0 < unit) (hmicros : microsecond ∣ t)
    (hdvd : unit ∣ t - epoch) (hrange : lowest ≤ t ∧ t < beyond) :
    timestamptz unit t = some t := by
  rw [timestamptz, toMicros_of_dvd hmicros, if_pos hrange, toPrecision_of_dvd hunit hdvd]

theorem eq_of_timestamptz {unit t stored : ℤ} (hunit : 0 < unit) (hmicros : microsecond ∣ t)
    (hdvd : unit ∣ t - epoch) (h : timestamptz unit t = some stored) : stored = t := by
  unfold timestamptz at h
  split_ifs at h
  rw [toMicros_of_dvd hmicros, toPrecision_of_dvd hunit hdvd] at h
  exact (Option.some.inj h).symm

end GcsSaker.PostgresColumns
