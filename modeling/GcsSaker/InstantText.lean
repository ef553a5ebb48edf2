import GcsSaker.Clock
import GcsSaker.IsoDatetime
import Mathlib.Data.Nat.Digits.Lemmas

/-!
# The text of an instant on the JVM

`format` is `Instant.toString` and `parse` is `Instant.parse`, over nanoseconds since 1970. A year
of more than four digits has a sign, and the nanoseconds are written in groups of three digits.
Parsing takes more texts than are written: an offset, letters in lower case, a fraction of any
length up to nine digits, midnight as the end of a day and a leap second.
-/

namespace GcsSaker.InstantText

open IsoDatetime (length_padded number number_padded padded)
open IsoDatetime.Datetime (field field_padded)

/-! ## Dates -/

structure LocalDate where
  year : ℤ
  month : ℕ
  dayOfMonth : ℕ
  deriving DecidableEq

def isLeapYear (year : ℤ) : Bool := year % 4 = 0 && (year % 100 ≠ 0 || year % 400 = 0)

def lengthOfMonth (year : ℤ) (month : ℕ) : ℕ :=
  if month = 2 then (if isLeapYear year then 29 else 28)
  else if month = 4 ∨ month = 6 ∨ month = 9 ∨ month = 11 then 30 else 31

namespace LocalDate

def Valid (date : LocalDate) : Prop :=
  (1 ≤ date.month ∧ date.month ≤ 12) ∧
    1 ≤ date.dayOfMonth ∧ date.dayOfMonth ≤ lengthOfMonth date.year date.month

instance {date : LocalDate} : Decidable date.Valid := inferInstanceAs (Decidable (_ ∧ _))

/-- The days from the first of January 1970. -/
def toEpochDay (date : LocalDate) : ℤ :=
  365 * date.year + (date.year + 3) / 4 - (date.year + 99) / 100 + (date.year + 399) / 400 +
    (367 * date.month - 362) / 12 + (date.dayOfMonth - 1) -
    (if date.month ≤ 2 then 0 else if isLeapYear date.year then 1 else 2) - 719528

/-- The days of the years from March to February before one. -/
def daysBefore (year : ℤ) : ℤ := 365 * year + year / 4 - year / 100 + year / 400

/-- The days from the first of March in the year 0, as a year from March to February and the day
in it. -/
def marchDate (day : ℤ) : ℤ × ℕ :=
  let estimate := (400 * (day % 146097) + 591) / 146097
  let year := if day % 146097 < daysBefore estimate then estimate - 1 else estimate
  (day / 146097 * 400 + year, (day % 146097 - daysBefore year).toNat)

def ofMarchDate (year : ℤ) (day : ℕ) : LocalDate :=
  let month := (day * 5 + 2) / 153
  let dayOfMonth := day - (month * 306 + 5) / 10 + 1
  if month < 10 then ⟨year, month + 3, dayOfMonth⟩ else ⟨year + 1, month - 9, dayOfMonth⟩

def ofEpochDay (epochDay : ℤ) : LocalDate :=
  ofMarchDate (marchDate (epochDay + 719468)).1 (marchDate (epochDay + 719468)).2

theorem isLeapYear_iff {year : ℤ} :
    isLeapYear year = true ↔ year % 4 = 0 ∧ (year % 100 ≠ 0 ∨ year % 400 = 0) := by
  rw [isLeapYear, Bool.and_eq_true, Bool.or_eq_true, decide_eq_true_iff, decide_eq_true_iff,
    decide_eq_true_iff]

theorem daysBefore_add_cycles (cycles year : ℤ) :
    daysBefore (cycles * 400 + year) = cycles * 146097 + daysBefore year := by
  unfold daysBefore
  omega

/-- A year from March to February has a 366th day if its February has a 29th. -/
theorem daysBefore_succ (year : ℤ) :
    daysBefore (year + 1) =
      daysBefore year + (if isLeapYear (year + 1) = true then 366 else 365) := by
  rw [ite_cond_congr (propext isLeapYear_iff)]
  unfold daysBefore
  split_ifs with hleap
  · omega
  · omega

/-- The leap days are spread over the years of a cycle. -/
theorem daysBefore_bounds {year : ℤ} (h : 0 ≤ year) (h' : year ≤ 400) :
    146097 * year - 591 ≤ 400 * daysBefore year ∧
      400 * daysBefore year ≤ 146097 * year + 288 := by
  unfold daysBefore
  obtain ⟨century, hcentury⟩ : ∃ century, century = year / 100 := ⟨_, rfl⟩
  have hlow : 0 ≤ century := by omega
  have hhigh : century ≤ 4 := by omega
  rw [← hcentury]
  interval_cases century
  all_goals omega

/-- The year that `marchDate` finds in a cycle. -/
theorem daysBefore_estimate {cycle : ℤ} (h : 0 ≤ cycle) (h' : cycle < 146097) {year : ℤ}
    (hyear : year = if cycle < daysBefore ((400 * cycle + 591) / 146097)
      then (400 * cycle + 591) / 146097 - 1 else (400 * cycle + 591) / 146097) :
    daysBefore year ≤ cycle ∧ cycle < daysBefore (year + 1) := by
  have hwhole : daysBefore 400 = 146097 := by decide
  obtain ⟨estimate, hestimate⟩ : ∃ estimate, estimate = (400 * cycle + 591) / 146097 := ⟨_, rfl⟩
  have hlow : 0 ≤ estimate := by omega
  have hhigh : estimate ≤ 400 := by omega
  have hbounds := daysBefore_bounds hlow hhigh
  rw [← hestimate] at hyear
  split_ifs at hyear with hover
  · have hpos : 0 ≤ estimate - 1 := by
      rcases eq_or_lt_of_le hlow with hzero | hpos
      · rw [← hzero] at hover
        exact absurd hover h.not_gt
      · omega
    have hbefore := daysBefore_bounds hpos (by omega)
    rw [hyear, Int.sub_add_cancel]
    exact ⟨by omega, hover⟩
  · have hne : estimate ≠ 400 := by
      rintro rfl
      omega
    have hafter := daysBefore_bounds (show 0 ≤ estimate + 1 by omega) (by omega)
    rw [hyear]
    exact ⟨not_lt.1 hover, by omega⟩

theorem marchDate_spec (day : ℤ) :
    day = daysBefore (marchDate day).1 + (marchDate day).2 ∧
      (marchDate day).2 < if isLeapYear ((marchDate day).1 + 1) = true then 366 else 365 := by
  have hcycle := Int.emod_nonneg day (show (146097 : ℤ) ≠ 0 by decide)
  have hcycle' := Int.emod_lt_of_pos day (show (0 : ℤ) < 146097 by decide)
  have hday := Int.mul_ediv_add_emod day 146097
  obtain ⟨year, hyear⟩ : ∃ year, year = if day % 146097 < daysBefore
      ((400 * (day % 146097) + 591) / 146097) then (400 * (day % 146097) + 591) / 146097 - 1
      else (400 * (day % 146097) + 591) / 146097 := ⟨_, rfl⟩
  have hdate : marchDate day =
      (day / 146097 * 400 + year, (day % 146097 - daysBefore year).toNat) := by
    rw [marchDate, hyear]
  obtain ⟨hbefore, hafter⟩ := daysBefore_estimate hcycle hcycle' hyear
  have hsucc := daysBefore_succ (day / 146097 * 400 + year)
  have hnext := daysBefore_add_cycles (day / 146097) (year + 1)
  rw [← add_assoc] at hnext
  rw [hdate, daysBefore_add_cycles]
  rw [hnext, daysBefore_add_cycles] at hsucc
  split_ifs at hsucc ⊢
  · omega
  · omega

theorem leapDays_eq (year : ℤ) :
    365 * year + (year + 3) / 4 - (year + 99) / 100 + (year + 399) / 400 -
      (if isLeapYear year = true then 1 else 2) = daysBefore year - 1 := by
  rw [ite_cond_congr (propext isLeapYear_iff)]
  unfold daysBefore
  split_ifs with hleap
  · omega
  · omega

/-- What is left of a year from March to February after a number of days is a date. -/
theorem ofMarchDate_spec {year : ℤ} {day : ℕ}
    (h : day < if isLeapYear (year + 1) = true then 366 else 365) :
    (ofMarchDate year day).Valid ∧
      (ofMarchDate year day).toEpochDay = daysBefore year + day - 719468 := by
  have hleap := leapDays_eq year
  have hmonth : (day * 5 + 2) / 153 < 12 := by
    split_ifs at h
    · omega
    · omega
  obtain ⟨month, heq⟩ : ∃ month, month = (day * 5 + 2) / 153 := ⟨_, rfl⟩
  unfold ofMarchDate
  dsimp only
  rw [← heq] at hmonth ⊢
  by_cases hspring : month < 10
  · rw [if_pos hspring]
    unfold toEpochDay Valid lengthOfMonth
    rw [if_neg (show ¬ month + 3 = 2 by omega), if_neg (show ¬ month + 3 ≤ 2 by omega)]
    dsimp only
    interval_cases month
    all_goals
      refine ⟨⟨⟨by decide, by decide⟩, by omega, ?_⟩, ?_⟩
      · norm_num
        omega
      · omega
  · rw [if_neg hspring]
    unfold toEpochDay Valid lengthOfMonth daysBefore
    rw [if_pos (show month - 9 ≤ 2 by omega)]
    dsimp only
    split_ifs at h with hfebruary
    all_goals
      interval_cases month
      all_goals
        refine ⟨⟨⟨by decide, by decide⟩, by omega, ?_⟩, ?_⟩
        · norm_num [hfebruary]
          omega
        · omega

theorem valid_ofEpochDay (day : ℤ) : (ofEpochDay day).Valid :=
  (ofMarchDate_spec (marchDate_spec (day + 719468)).2).1

theorem toEpochDay_ofEpochDay (day : ℤ) : (ofEpochDay day).toEpochDay = day := by
  obtain ⟨hday, hlt⟩ := marchDate_spec (day + 719468)
  rw [ofEpochDay, (ofMarchDate_spec hlt).2, ← hday, Int.add_sub_cancel]

end LocalDate

/-! ## Printing -/

def yearText (year : ℤ) : List Char :=
  (if year < 0 then ['-'] else if 9999 < year then ['+'] else []) ++
    padded (max 4 (Nat.digits 10 year.natAbs).length) year.natAbs

def fractionText (nano : ℕ) : List Char :=
  if nano = 0 then []
  else if nano % 1000000 = 0 then '.' :: padded 3 (nano / 1000000)
  else if nano % 1000 = 0 then '.' :: padded 6 (nano / 1000)
  else '.' :: padded 9 nano

def format (instant : ℤ) : String :=
  let seconds := instant / Clock.second
  let date := LocalDate.ofEpochDay (seconds / 86400)
  let secondOfDay := (seconds % 86400).toNat
  String.ofList (yearText date.year ++ '-' :: (padded 2 date.month ++
    '-' :: (padded 2 date.dayOfMonth ++ 'T' :: (padded 2 (secondOfDay / 3600) ++
    ':' :: (padded 2 (secondOfDay / 60 % 60) ++ ':' :: (padded 2 (secondOfDay % 60) ++
    (fractionText (instant % Clock.second).toNat ++ ['Z'])))))))

/-! ## Parsing -/

/-- The digits at the front of a text, unless they are too few or too many. -/
def digits (least most : ℕ) (cs : List Char) : Option (List Char × List Char) :=
  let front := cs.takeWhile Char.isDigit
  if least ≤ front.length ∧ front.length ≤ most then some (front, cs.dropWhile Char.isDigit)
  else none

/-- A year of four digits, or a sign and more of them; a negative one may have four. -/
def parseYear : List Char → Option (ℤ × List Char)
  | '-' :: cs => do
    let (front, cs) ← digits 4 10 cs
    let year ← number front
    if year = 0 then none else some (-year, cs)
  | '+' :: cs => do
    let (front, cs) ← digits 5 10 cs
    let year ← number front
    return (year, cs)
  | cs => do
    let (front, cs) ← digits 4 4 cs
    let year ← number front
    return (year, cs)

def parseFraction : List Char → Option (ℕ × List Char)
  | '.' :: cs => do
    let (front, cs) ← digits 0 9 cs
    let fraction ← number front
    return (fraction * 10 ^ (9 - front.length), cs)
  | cs => some (0, cs)

/-- Hours and minutes, and seconds after them if there are any, up to 18 hours. -/
def offsetSeconds (cs : List Char) : Option ℤ := do
  let (hours, cs) ← field 2 ':' cs
  let (front, cs) ← digits 2 2 cs
  let minutes ← number front
  let seconds ← match cs with
    | [] => some 0
    | ':' :: cs => (digits 2 2 cs).bind fun (front, cs) => if cs = [] then number front else none
    | _ => none
  if minutes < 60 ∧ seconds < 60 ∧ hours * 3600 + minutes * 60 + seconds ≤ 64800 then
    some ((hours * 3600 + minutes * 60 + seconds : ℕ) : ℤ)
  else none

def parseOffset : List Char → Option ℤ
  | ['Z'] => some 0
  | ['z'] => some 0
  | '+' :: cs => offsetSeconds cs
  | '-' :: cs => (offsetSeconds cs).map fun seconds => -seconds
  | _ => none

def MIN_SECOND : ℤ := -31557014167219200

def MAX_SECOND : ℤ := 31556889864403199

def ofEpochSecond (seconds : ℤ) (nano : ℕ) : Option ℤ :=
  if MIN_SECOND ≤ seconds ∧ seconds ≤ MAX_SECOND then some (seconds * Clock.second + nano)
  else none

/-- The end of a day is the start of the next one, and a leap second is the second before it. -/
def ofFields (date : LocalDate) (hour minute second nano : ℕ) (offset : ℤ) : Option ℤ :=
  let atEnd := hour = 24 ∧ minute = 0 ∧ second = 0 ∧ nano = 0
  let hour := if atEnd then 0 else hour
  let second := if hour = 23 ∧ minute = 59 ∧ second = 60 then 59 else second
  if date.Valid ∧ hour < 24 ∧ minute < 60 ∧ second < 60 then
    ofEpochSecond ((date.toEpochDay + if atEnd then 1 else 0) * 86400 +
      (hour * 3600 + minute * 60 + second : ℕ) - offset) nano
  else none

def parse (text : String) : Option ℤ := do
  let (year, cs) ← parseYear text.toList
  let cs ← match cs with
    | '-' :: cs => some cs
    | _ => none
  let (month, cs) ← field 2 '-' cs
  let (dayOfMonth, cs) ← field 2 'T' cs <|> field 2 't' cs
  let (hour, cs) ← field 2 ':' cs
  let (minute, cs) ← field 2 ':' cs
  let (front, cs) ← digits 2 2 cs
  let second ← number front
  let (nano, cs) ← parseFraction cs
  let offset ← parseOffset cs
  ofFields ⟨year, month, dayOfMonth⟩ hour minute second nano offset

/-- The instants that there are. -/
def InRange (instant : ℤ) : Prop :=
  MIN_SECOND ≤ instant / Clock.second ∧ instant / Clock.second ≤ MAX_SECOND

instance {instant : ℤ} : Decidable (InRange instant) := inferInstanceAs (Decidable (_ ∧ _))

/-! ## What is printed is parsed -/

theorem isDigit_of_mem_padded {width n : ℕ} {c : Char} (h : c ∈ padded width n) :
    c.isDigit = true := by
  induction width generalizing n with
  | zero => exact absurd h List.not_mem_nil
  | succ width ih =>
      rcases List.mem_append.1 h with hfront | hlast
      · exact ih hfront
      · have hall : ∀ d < 10, (Char.ofNat (48 + d)).isDigit = true := by decide
        rw [List.mem_singleton.1 hlast]
        exact hall (n % 10) (Nat.mod_lt n (by decide))

theorem digits_padded {least most width : ℕ} (hleast : least ≤ width) (hmost : width ≤ most)
    (n : ℕ) {c : Char} (hc : c.isDigit = false) (cs : List Char) :
    digits least most (padded width n ++ c :: cs) = some (padded width n, c :: cs) := by
  have hall : ∀ d ∈ padded width n, d.isDigit = true := fun d => isDigit_of_mem_padded
  have htake : (padded width n ++ c :: cs).takeWhile Char.isDigit = padded width n := by
    rw [List.takeWhile_append_of_pos hall, List.takeWhile_cons_of_neg (by rw [hc]; decide),
      List.append_nil]
  have hdrop : (padded width n ++ c :: cs).dropWhile Char.isDigit = c :: cs := by
    rw [List.dropWhile_append_of_pos hall, List.dropWhile_cons_of_neg (by rw [hc]; decide)]
  rw [digits, htake, hdrop, length_padded, if_pos ⟨hleast, hmost⟩]

/-- Digits are read as a number where they end. -/
theorem digits_padded_bind {β : Type} {least most width n : ℕ} (hleast : least ≤ width)
    (hmost : width ≤ most) (hn : n < 10 ^ width) {c : Char} (hc : c.isDigit = false)
    (cs : List Char) (k : ℕ → List Char → List Char → Option β) :
    ((digits least most (padded width n ++ c :: cs)).bind fun (front, cs) =>
      (number front).bind fun value => k value front cs) = k n (padded width n) (c :: cs) := by
  rw [digits_padded hleast hmost n hc, Option.bind_some]
  dsimp only
  rw [number_padded width n hn, Option.bind_some]

theorem isDigit_head {width n : ℕ} {c : Char} {cs rest : List Char} (hwidth : 0 < width)
    (h : padded width n ++ rest = c :: cs) : c.isDigit = true := by
  rcases List.append_eq_cons_iff.1 h with ⟨hnil, -⟩ | ⟨front, hfront, -⟩
  · have hlength := congrArg List.length hnil
    rw [length_padded] at hlength
    exact absurd hlength hwidth.ne'
  · exact isDigit_of_mem_padded (hfront ▸ List.mem_cons_self)

theorem parseYear_padded {n : ℕ} (hn : n < 10 ^ 4) (cs : List Char) :
    parseYear (padded 4 n ++ '-' :: cs) = some ((n : ℤ), '-' :: cs) := by
  have hdigits := @digits_padded_bind (ℤ × List Char) 4 4 4 n le_rfl le_rfl hn '-'
    (by decide) cs fun value _ cs => some ((value : ℤ), cs)
  unfold parseYear
  split
  · rename_i heq
    exact absurd (isDigit_head (by decide) heq) (by decide)
  · rename_i heq
    exact absurd (isDigit_head (by decide) heq) (by decide)
  · exact hdigits

theorem parseYear_yearText {year : ℤ} (h : year.natAbs < 10 ^ 10) (cs : List Char) :
    parseYear (yearText year ++ '-' :: cs) = some (year, '-' :: cs) := by
  have hdigits : year.natAbs < 10 ^ max 4 (Nat.digits 10 year.natAbs).length :=
    (Nat.lt_base_pow_length_digits (by decide)).trans_le
      (Nat.pow_le_pow_right (by decide) (le_max_right _ _))
  have hmost : max 4 (Nat.digits 10 year.natAbs).length ≤ 10 :=
    max_le (by decide) ((Nat.digits_length_le_iff (by decide) _).2 h)
  unfold yearText
  split_ifs with hneg hlong
  · refine (digits_padded_bind (le_max_left _ _) hmost hdigits
      (show '-'.isDigit = false by decide) cs fun value _ cs =>
        if value = 0 then none else some (-(value : ℤ), cs)).trans ?_
    rw [if_neg (by omega), Int.ofNat_natAbs_of_nonpos hneg.le, neg_neg]
  · have hleast : 5 ≤ max 4 (Nat.digits 10 year.natAbs).length :=
      le_max_of_le_right ((Nat.lt_digits_length_iff (by decide) _).2 (by omega))
    refine (digits_padded_bind hleast hmost hdigits
      (show '-'.isDigit = false by decide) cs fun value _ cs => some ((value : ℤ), cs)).trans ?_
    rw [Int.natAbs_of_nonneg (not_lt.1 hneg)]
  · have hwidth : max 4 (Nat.digits 10 year.natAbs).length = 4 :=
      max_eq_left ((Nat.digits_length_le_iff (by decide) _).2 (by omega))
    rw [hwidth, List.nil_append, parseYear_padded (by omega),
      Int.natAbs_of_nonneg (not_lt.1 hneg)]

theorem parseFraction_padded {width n : ℕ} (hwidth : width ≤ 9) (hn : n < 10 ^ width) :
    parseFraction ('.' :: padded width n ++ ['Z']) = some (n * 10 ^ (9 - width), ['Z']) := by
  have hdigits := digits_padded_bind (Nat.zero_le _) hwidth hn (show 'Z'.isDigit = false by decide)
    [] fun value front cs => some (value * 10 ^ (9 - front.length), cs)
  rw [length_padded] at hdigits
  exact hdigits

theorem parseFraction_fractionText {nano : ℕ} (h : nano < 1000000000) :
    parseFraction (fractionText nano ++ ['Z']) = some (nano, ['Z']) := by
  unfold fractionText
  split_ifs with hzero hmillis hmicros
  · rw [hzero]
    rfl
  · rw [parseFraction_padded (by decide) (by omega),
      show nano / 1000000 * 10 ^ (9 - 3) = nano by omega]
  · rw [parseFraction_padded (by decide) (by omega),
      show nano / 1000 * 10 ^ (9 - 6) = nano by omega]
  · rw [parseFraction_padded (by decide) (by omega), Nat.sub_self, Nat.pow_zero, Nat.mul_one]

/-- The year of an instant has at most ten digits. -/
theorem natAbs_year_lt {instant : ℤ} (h : InRange instant) :
    (LocalDate.ofEpochDay (instant / Clock.second / 86400)).year.natAbs < 10 ^ 10 := by
  obtain ⟨hlow, hhigh⟩ := h
  unfold MIN_SECOND at hlow
  unfold MAX_SECOND at hhigh
  generalize instant / Clock.second = seconds at *
  obtain ⟨hday, hlt⟩ := LocalDate.marchDate_spec (seconds / 86400 + 719468)
  have hyear : (LocalDate.ofEpochDay (seconds / 86400)).year =
        (LocalDate.marchDate (seconds / 86400 + 719468)).1 ∨
      (LocalDate.ofEpochDay (seconds / 86400)).year =
        (LocalDate.marchDate (seconds / 86400 + 719468)).1 + 1 := by
    unfold LocalDate.ofEpochDay LocalDate.ofMarchDate
    dsimp only
    split_ifs
    · exact .inl rfl
    · exact .inr rfl
  unfold LocalDate.daysBefore at hday
  split_ifs at hlt
  · omega
  · omega

/-- The characters of instants. -/
def plain (c : Char) : Bool := c.isDigit || c ∈ ['-', '+', 'T', ':', '.', 'Z']

theorem plain_padded (width n : ℕ) : ∀ c ∈ padded width n, plain c = true := by
  intro c hc
  rw [plain, isDigit_of_mem_padded hc, Bool.true_or]

theorem plain_yearText (year : ℤ) : ∀ c ∈ yearText year, plain c = true := by
  refine List.forall_mem_append.2 ⟨?_, plain_padded _ _⟩
  split_ifs
  all_goals exact List.all_eq_true.1 rfl

theorem plain_fractionText (nano : ℕ) : ∀ c ∈ fractionText nano, plain c = true := by
  unfold fractionText
  split_ifs
  · exact List.all_eq_true.1 rfl
  all_goals exact List.forall_mem_cons.2 ⟨by decide, plain_padded _ _⟩

theorem plain_format (instant : ℤ) : ∀ c ∈ (format instant).toList, plain c = true := by
  have hpadded := plain_padded 2
  unfold format
  dsimp only
  rw [String.toList_ofList]
  simp only [List.forall_mem_append, List.forall_mem_cons]
  exact ⟨plain_yearText _, by decide, hpadded _, by decide, hpadded _, by decide, hpadded _,
    by decide, hpadded _, by decide, hpadded _, plain_fractionText _, by decide,
    List.forall_mem_nil _⟩

theorem ofFields_of_valid {date : LocalDate} {secondOfDay nano : ℕ} (hdate : date.Valid)
    (hsecond : secondOfDay < 86400) :
    ofFields date (secondOfDay / 3600) (secondOfDay / 60 % 60) (secondOfDay % 60) nano 0 =
      ofEpochSecond (date.toEpochDay * 86400 + secondOfDay) nano := by
  have hsum : secondOfDay / 3600 * 3600 + secondOfDay / 60 % 60 * 60 + secondOfDay % 60 =
      secondOfDay := by omega
  have hend : ¬ (secondOfDay / 3600 = 24 ∧ secondOfDay / 60 % 60 = 0 ∧ secondOfDay % 60 = 0 ∧
      nano = 0) := by omega
  have hleap : ¬ (secondOfDay / 3600 = 23 ∧ secondOfDay / 60 % 60 = 59 ∧ secondOfDay % 60 = 60) :=
    by omega
  unfold ofFields
  dsimp only
  rw [if_neg hend, if_neg hend, if_neg hleap,
    if_pos ⟨hdate, by omega, by omega, by omega⟩, hsum, add_zero, sub_zero]

theorem field_or_field {n : ℕ} (hn : n < 10 ^ 2) (cs : List Char) :
    (field 2 'T' (padded 2 n ++ 'T' :: cs) <|> field 2 't' (padded 2 n ++ 'T' :: cs)) =
      some (n, cs) := by
  rw [field_padded 2 'T' n hn]
  rfl

theorem fractionText_head (nano : ℕ) :
    ∃ c cs, fractionText nano ++ ['Z'] = c :: cs ∧ c.isDigit = false := by
  unfold fractionText
  split_ifs
  · exact ⟨'Z', [], rfl, by decide⟩
  · exact ⟨'.', _, rfl, by decide⟩
  · exact ⟨'.', _, rfl, by decide⟩
  · exact ⟨'.', _, rfl, by decide⟩

/-- What is printed of an instant is parsed to the instant. -/
theorem parse_format {instant : ℤ} (h : InRange instant) :
    parse (format instant) = some instant := by
  have hsecond : (instant / Clock.second % 86400).toNat < 86400 := by omega
  have hnano : (instant % Clock.second).toNat < 1000000000 := by
    unfold Clock.second
    omega
  have hyear := natAbs_year_lt h
  have hvalid := LocalDate.valid_ofEpochDay (instant / Clock.second / 86400)
  have hday := LocalDate.toEpochDay_ofEpochDay (instant / Clock.second / 86400)
  unfold parse format
  dsimp only
  rw [String.toList_ofList]
  generalize LocalDate.ofEpochDay (instant / Clock.second / 86400) = date at *
  have hmonth : date.month < 10 ^ 2 := hvalid.1.2.trans_lt (by decide)
  have hdayOfMonth : date.dayOfMonth < 10 ^ 2 := by
    refine hvalid.2.2.trans_lt ?_
    unfold lengthOfMonth
    split_ifs
    all_goals decide
  refine Option.bind_eq_some_iff.2 ⟨_, parseYear_yearText hyear _, ?_⟩
  refine Option.bind_eq_some_iff.2 ⟨_, rfl, ?_⟩
  refine Option.bind_eq_some_iff.2 ⟨_, field_padded 2 '-' _ hmonth _, ?_⟩
  refine Option.bind_eq_some_iff.2 ⟨_, field_or_field hdayOfMonth _, ?_⟩
  refine Option.bind_eq_some_iff.2 ⟨_, field_padded 2 ':' _ (by omega) _, ?_⟩
  refine Option.bind_eq_some_iff.2 ⟨_, field_padded 2 ':' _ (by omega) _, ?_⟩
  have hfraction := parseFraction_fractionText hnano
  obtain ⟨c, cs, hhead, hc⟩ := fractionText_head (instant % Clock.second).toNat
  rw [hhead] at hfraction ⊢
  refine Option.bind_eq_some_iff.2 ⟨_, digits_padded le_rfl le_rfl _ hc cs, ?_⟩
  refine Option.bind_eq_some_iff.2 ⟨_, number_padded 2 _ (by omega), ?_⟩
  refine Option.bind_eq_some_iff.2 ⟨_, hfraction, ?_⟩
  refine Option.bind_eq_some_iff.2 ⟨0, rfl, ?_⟩
  refine (ofFields_of_valid hvalid hsecond).trans ?_
  have hseconds : date.toEpochDay * 86400 + ((instant / Clock.second % 86400).toNat : ℤ) =
      instant / Clock.second := by
    rw [hday]
    omega
  rw [hseconds, ofEpochSecond, if_pos ⟨h.1, h.2⟩, Option.some.injEq]
  unfold Clock.second
  omega

example : format (-62167219200 * Clock.second - 1000) = "-0001-12-31T23:59:59.999999Z" := by
  decide +kernel

end GcsSaker.InstantText
