import GcsSaker.ProtobufWire
import Mathlib.Tactic.Ring

/-!
# What the wire decoders read

The three decoders read fields of one format, but take the groups of a varint in integers of their
own: unbounded, modulo `2 ^ 64`, or with shifts that wrap around and keys and lengths cut to 32
bits. Each takes off the fields of its reading, and here is when two of them fail otherwise.
-/

namespace GcsSaker.ProtobufWire

open WireFormat

/-! ## Varints -/

/-- The result of the loop over the groups of a varint. -/
def foldGroups {ι : Type*} (add : ι → ℕ → ℕ → ι) : Varint → ℕ → ι → ι
  | .last group, shift, result => add result group shift
  | .more group rest, shift, result => foldGroups add rest (shift + 7) (add result group shift)

theorem toNat_and_0x7F (byte : UInt8) : (byte &&& 0x7F).toNat = byte.toNat % 128 := by
  rw [UInt8.toNat_and]
  exact Nat.and_two_pow_sub_one_eq_mod byte.toNat 7

theorem and_0x80_eq_zero_iff (byte : UInt8) : byte &&& 0x80 = 0 ↔ byte.toNat < 128 := by
  have hall : ∀ i : Fin 256, UInt8.ofNat i &&& 0x80 = 0 ↔ i.val < 128 := by decide +kernel
  have h := hall ⟨byte.toNat, byte.toNat_lt⟩
  rwa [UInt8.ofNat_toNat] at h

theorem readVarint_eq {ι : Type*} (add : ι → ℕ → ℕ → ι) (payload : List UInt8) (shift : ℕ)
    (result : ι) : readVarint add payload shift result = match Varint.split payload with
      | none => .error unterminatedVarint
      | some (v, rest) => .ok (foldGroups add v shift result, rest) := by
  induction payload generalizing shift result with
  | nil => rfl
  | cons byte payload ih =>
      rw [readVarint, Varint.split]
      simp only [and_0x80_eq_zero_iff, toNat_and_0x7F]
      by_cases h : byte.toNat < 128
      · rw [if_pos h, if_pos h]
        rfl
      · rw [if_neg h, if_neg h, ih]
        cases hs : Varint.split payload with
        | none => rfl
        | some r => rfl

theorem or_shiftLeft {result shift : ℕ} (h : result < 2 ^ shift) (group : ℕ) :
    result ||| (group <<< shift) = group * 2 ^ shift + result := by
  rw [Nat.or_comm, ← Nat.shiftLeft_add_eq_or_of_lt h, Nat.shiftLeft_eq]

theorem group_add_lt {result shift : ℕ} (h : result < 2 ^ shift) (group : Fin 128) :
    group.val * 2 ^ shift + result < 2 ^ (shift + 7) := by
  calc group.val * 2 ^ shift + result < group * 2 ^ shift + 2 ^ shift := Nat.add_lt_add_left h _
    _ = (group + 1) * 2 ^ shift := (Nat.succ_mul _ _).symm
    _ ≤ 128 * 2 ^ shift := Nat.mul_le_mul_right _ group.isLt
    _ = 2 ^ (shift + 7) := by ring

theorem fold_python (v : Varint) (shift : ℕ) {result : ℕ} (h : result < 2 ^ shift) :
    foldGroups Python.addGroup v shift result = result + v.value * 2 ^ shift := by
  induction v generalizing shift result with
  | last group =>
      rw [foldGroups, Python.addGroup, or_shiftLeft h, Nat.add_comm]
      rfl
  | more group rest ih =>
      rw [foldGroups, Python.addGroup, or_shiftLeft h, ih (shift + 7) (group_add_lt h group),
        Varint.value]
      ring

theorem python_value (v : Varint) : foldGroups Python.addGroup v 0 0 = v.value := by
  rw [fold_python v 0 Nat.one_pos, Nat.zero_add, pow_zero, Nat.mul_one]

theorem ofNat_shiftLeft (group shift : ℕ) :
    BitVec.ofNat 64 group <<< shift = BitVec.ofNat 64 (group <<< shift) := by
  apply BitVec.eq_of_toNat_eq
  rw [BitVec.toNat_shiftLeft, BitVec.toNat_ofNat, BitVec.toNat_ofNat]
  exact Nat.mod_two_pow_shiftLeft_mod_two_pow

theorem go_addGroup (result group shift : ℕ) : Go.addGroup (BitVec.ofNat 64 result) group shift =
    BitVec.ofNat 64 (Python.addGroup result group shift) := by
  rw [Go.addGroup, ofNat_shiftLeft, ← BitVec.ofNat_or, Python.addGroup]

theorem fold_go (v : Varint) (shift result : ℕ) :
    foldGroups Go.addGroup v shift (BitVec.ofNat 64 result) =
      BitVec.ofNat 64 (foldGroups Python.addGroup v shift result) := by
  induction v generalizing shift result with
  | last group => exact go_addGroup result group shift
  | more group rest ih => rw [foldGroups, go_addGroup, ih, foldGroups]

theorem go_value (v : Varint) : foldGroups Go.addGroup v 0 0 = BitVec.ofNat 64 v.value := by
  have h := fold_go v 0 0
  rwa [python_value] at h

/-- The `Long` that the groups of a varint make from a shift on. -/
def jvmLong : Varint → ℕ → BitVec 64
  | .last group, shift => BitVec.ofNat 64 group <<< (shift % 64)
  | .more group rest, shift => BitVec.ofNat 64 group <<< (shift % 64) ||| jvmLong rest (shift + 7)

theorem jvmGroup_eq {group shift : ℕ} (h : group * 2 ^ shift < 2 ^ 64) :
    BitVec.ofNat 64 group <<< (shift % 64) = BitVec.ofNat 64 (group * 2 ^ shift) := by
  rw [ofNat_shiftLeft, Nat.shiftLeft_eq]
  by_cases hg : group = 0
  · rw [hg, Nat.zero_mul, Nat.zero_mul]
  · have hpow : 2 ^ shift < 2 ^ 64 :=
      lt_of_le_of_lt (Nat.le_mul_of_pos_left _ (Nat.pos_of_ne_zero hg)) h
    have hs : shift < 64 := (Nat.pow_lt_pow_iff_right Nat.one_lt_two).mp hpow
    rw [Nat.mod_eq_of_lt hs]

/-- Where the varint fits in 64 bits no shift wraps around. -/
theorem jvmLong_eq (v : Varint) (shift : ℕ) (h : v.value * 2 ^ shift < 2 ^ 64) :
    jvmLong v shift = BitVec.ofNat 64 (v.value * 2 ^ shift) := by
  induction v generalizing shift with
  | last group => exact jvmGroup_eq h
  | more group rest ih =>
      have hsplit : (Varint.more group rest).value * 2 ^ shift =
          rest.value * 2 ^ (shift + 7) + group.val * 2 ^ shift := by
        rw [Varint.value]
        ring
      rw [hsplit] at h ⊢
      have hrest : rest.value * 2 ^ (shift + 7) < 2 ^ 64 := by omega
      have hgroup : group.val * 2 ^ shift < 2 ^ 64 := by omega
      have hlt : group.val * 2 ^ shift < 2 ^ (shift + 7) :=
        lt_of_le_of_lt (Nat.le_add_right _ _) (group_add_lt (Nat.two_pow_pos shift) group)
      rw [jvmLong, jvmGroup_eq hgroup, ih (shift + 7) hrest, ← BitVec.ofNat_or,
        ← Nat.shiftLeft_eq rest.value, or_shiftLeft hlt, Nat.shiftLeft_eq]

theorem fold_kotlin (v : Varint) (shift : ℕ) (result : BitVec 64) :
    foldGroups Kotlin.addGroup v shift result = result ||| jvmLong v shift := by
  induction v generalizing shift result with
  | last group => rfl
  | more group rest ih =>
      rw [foldGroups, ih, Kotlin.addGroup, jvmLong, BitVec.or_assoc]

theorem kotlin_value (v : Varint) : foldGroups Kotlin.addGroup v 0 0 = jvmLong v 0 := by
  rw [fold_kotlin]
  exact BitVec.zero_or

/-! ## Fields -/

def Datum.toValue {ι : Type*} (integer : Varint → ι) : Datum → WireValue ι
  | .varint groups => .integer (integer groups)
  | .fixed64 raw _ => .double (float64FromBytes raw)
  | .delimited _ content => .bytes content

/-- Keys and lengths as they stand. -/
def natural : Reading where
  wireType v := v.value % 8
  size v := v.value

/-- Keys and lengths modulo `2 ^ 64`. -/
def uint64 : Reading where
  wireType v := v.value % 8
  size v := v.value % 2 ^ 64

/-- Keys and lengths as the low bits of a `Long` whose shifts wrap around. -/
def jvm : Reading where
  wireType v := (jvmLong v 0).toNat % 8
  size v := (jvmLong v 0).toNat % 2 ^ 32

def Python.entry (f : Field) : ℤ × WireValue ℕ :=
  ((f.key.value / 8 : ℕ), Datum.toValue Varint.value f.datum)

def Go.entry (f : Field) : ℤ × WireValue (BitVec 64) :=
  ((BitVec.ofNat 64 f.key.value >>> 3).toInt,
    Datum.toValue (fun v => BitVec.ofNat 64 v.value) f.datum)

def Kotlin.entry (f : Field) : ℤ × WireValue (BitVec 64) :=
  ((((jvmLong f.key 0).setWidth 32).sshiftRight 3).toInt,
    Datum.toValue (fun v => jvmLong v 0) f.datum)

theorem Python.decodeVarint_eq (payload : List UInt8) :
    decodeVarint payload = match Varint.split payload with
      | none => .error unterminatedVarint
      | some (v, rest) => .ok (v.value, rest) := by
  rw [decodeVarint, readVarint_eq]
  simp only [python_value]

theorem Go.readVarint_eq (payload : List UInt8) :
    readVarint payload = match Varint.split payload with
      | none => .error (.error unterminatedVarint)
      | some (v, rest) => .ok (BitVec.ofNat 64 v.value, rest) := by
  have h := go_value
  rw [readVarint, ProtobufWire.readVarint_eq]
  cases Varint.split payload with
  | none => rfl
  | some r => simp only [Except.mapError, h]

theorem Kotlin.readVarint_eq (payload : List UInt8) :
    readVarint payload = match Varint.split payload with
      | none => .error (.illegalArgument unterminatedVarint)
      | some (v, rest) => .ok (jvmLong v 0, rest) := by
  rw [readVarint, ProtobufWire.readVarint_eq]
  cases Varint.split payload with
  | none => rfl
  | some r => simp only [Except.mapError, kotlin_value]

theorem python_follows (payload : List UInt8) :
    Follows natural Python.entry Python.decodeField payload := by
  rw [Follows, Python.decodeField, Python.decodeVarint_eq, Reading.next]
  cases hs : Varint.split payload with
  | none => rfl
  | some k =>
      obtain ⟨key, rest⟩ := k
      have hkey : key.value >>> 3 = key.value / 8 := Nat.shiftRight_eq_div_pow _ 3
      have htype : key.value &&& 0b111 = natural.wireType key :=
        Nat.and_two_pow_sub_one_eq_mod _ 3
      simp only [bind, Except.bind, Option.bind_some, hkey, htype]
      rcases natural.wireType key with _ | _ | _ | t
      · rw [Python.decodeVarint_eq]
        cases hv : Varint.split rest with
        | none => simp only [Reading.datum, hv]; rfl
        | some v => simp only [Reading.datum, hv]; rfl
      · by_cases hl : rest.length < 8
        · simp only [Reading.datum, Nat.zero_add, if_pos hl, dif_neg (Nat.not_le.mpr hl)]
          rfl
        · simp only [Reading.datum, Nat.zero_add, if_neg hl, dif_pos (Nat.not_lt.mp hl)]
          rfl
      · rw [Python.decodeVarint_eq]
        cases hv : Varint.split rest with
        | none => simp only [Reading.datum, hv]; rfl
        | some v =>
            by_cases hl : v.2.length < v.1.value
            · have hn : ¬ natural.size v.1 ≤ v.2.length := Nat.not_le.mpr hl
              simp only [Reading.datum, hv, Option.bind_some, if_pos hl, if_neg hn]
              rfl
            · have hn : natural.size v.1 ≤ v.2.length := Nat.not_lt.mp hl
              simp only [Reading.datum, hv, Option.bind_some, if_neg hl, if_pos hn]
              rfl
      · rfl

/-- An end that overflows lies before the cursor. -/
theorem toInt_cursor_add {w cursor : ℕ} (hc : 2 * cursor < 2 ^ w) (length : BitVec w) :
    (BitVec.ofNat w cursor + length).toInt =
      if 2 * (cursor + length.toNat) < 2 ^ w then ((cursor + length.toNat : ℕ) : ℤ)
      else ((cursor + length.toNat : ℕ) : ℤ) - 2 ^ w := by
  have hlt := length.isLt
  have hw : ((2 ^ w : ℕ) : ℤ) = 2 ^ w := Nat.cast_pow 2 w
  rw [BitVec.toInt_eq_toNat_cond, BitVec.toNat_add, BitVec.toNat_ofNat, Nat.mod_add_mod, hw]
  by_cases hx : cursor + length.toNat < 2 ^ w
  · rw [Nat.mod_eq_of_lt hx]
  · have hmod : (cursor + length.toNat) % 2 ^ w = cursor + length.toNat - 2 ^ w := by
      rw [Nat.mod_eq_sub_mod (Nat.not_lt.mp hx), Nat.mod_eq_of_lt (by omega)]
    rw [hmod, if_pos (by omega), if_neg (by omega), ← hw]
    omega

/-- An end is at the denoted length, beyond the payload or, after an overflow, before the cursor. -/
theorem stop_cases {w size : ℕ} (hw : 2 * size < 2 ^ w) {rest : List UInt8}
    (hr : rest.length ≤ size) (length : BitVec w) {stop : ℤ}
    (hstop : (BitVec.ofNat w (size - rest.length) + length).toInt = stop) :
    (length.toNat ≤ rest.length ∧ ¬ size < stop ∧ ¬ stop < (size - rest.length : ℕ) ∧
      (stop - (size - rest.length : ℕ)).toNat = length.toNat) ∨
    (rest.length < length.toNat ∧ 2 * (size - rest.length + length.toNat) < 2 ^ w ∧
      size < stop) ∨
    (rest.length < length.toNat ∧ 2 ^ w ≤ 2 * (size - rest.length + length.toNat) ∧
      ¬ size < stop ∧ stop < (size - rest.length : ℕ)) := by
  have hlt := length.isLt
  have hpow : ((2 ^ w : ℕ) : ℤ) = 2 ^ w := Nat.cast_pow 2 w
  rw [toInt_cursor_add (by omega)] at hstop
  split_ifs at hstop with h
  · by_cases hl : length.toNat ≤ rest.length
    · refine Or.inl ⟨hl, ?_, ?_, ?_⟩ <;> omega
    · exact Or.inr (Or.inl ⟨Nat.lt_of_not_le hl, h, by omega⟩)
  · refine Or.inr (Or.inr ⟨?_, Nat.le_of_not_lt h, ?_, ?_⟩) <;> omega

/-- The end of a double is beyond the payload when bytes are missing, unless it overflows. -/
theorem lt_doubleEnd_iff {size : ℕ} (hsize : size < 2 ^ 31) {rest : List UInt8}
    (hr : rest.length ≤ size) :
    (size : ℤ) < (BitVec.ofNat 32 (size - rest.length) + 8).toInt ↔
      rest.length < 8 ∧ size - rest.length + 8 < 2 ^ 31 := by
  have height : (8 : BitVec 32).toNat = 8 := rfl
  rcases stop_cases (by omega) hr (8 : BitVec 32) rfl with ⟨hl, hn, -⟩ | ⟨hl, hlt, hn⟩ |
    ⟨-, hle, hn, -⟩
  · exact iff_of_false hn fun h => by omega
  · exact iff_of_true hn ⟨by omega, by omega⟩
  · exact iff_of_false hn fun h => by omega

theorem go_wireType (key : Varint) :
    (BitVec.ofNat 64 key.value &&& 0b111).toNat = uint64.wireType key := by
  rw [BitVec.toNat_and, BitVec.toNat_ofNat]
  have h : (key.value % 2 ^ 64) &&& 7 = key.value % 2 ^ 64 % 8 :=
    Nat.and_two_pow_sub_one_eq_mod _ 3
  exact h.trans (Nat.mod_mod_of_dvd _ (by decide))

theorem kotlin_wireType (key : Varint) :
    ((jvmLong key 0).setWidth 32 &&& 0b111).toNat = jvm.wireType key := by
  rw [BitVec.toNat_and, BitVec.toNat_setWidth]
  have h : ((jvmLong key 0).toNat % 2 ^ 32) &&& 7 = (jvmLong key 0).toNat % 2 ^ 32 % 8 :=
    Nat.and_two_pow_sub_one_eq_mod _ 3
  exact h.trans (Nat.mod_mod_of_dvd _ (by decide))

section

variable {size : ℕ} (hsize : size < 2 ^ 31) {payload : List UInt8} (hp : payload.length ≤ size)

include hsize hp

theorem go_follows : Follows uint64 Go.entry (Go.decodeField size) payload := by
  rw [Follows, Go.decodeField, Go.readVarint_eq, Reading.next]
  cases hs : Varint.split payload with
  | none => rfl
  | some k =>
      obtain ⟨key, rest⟩ := k
      have hkl := Varint.length_of_split hs
      simp only [bind, Except.bind, Option.bind_some, go_wireType]
      rcases uint64.wireType key with _ | _ | _ | t
      · rw [Go.readVarint_eq]
        cases hv : Varint.split rest with
        | none => simp only [Reading.datum, hv]; rfl
        | some v => simp only [Reading.datum, hv]; rfl
      · by_cases hl : 8 ≤ rest.length
        · have hn : ¬ size < size - rest.length + 8 := by omega
          simp only [Reading.datum, Nat.zero_add, if_neg hn, dif_pos hl]
          rfl
        · have hn : size < size - rest.length + 8 := by omega
          simp only [Reading.datum, Nat.zero_add, if_pos hn, dif_neg hl]
          rfl
      · rw [Go.readVarint_eq]
        cases hv : Varint.split rest with
        | none => simp only [Reading.datum, hv]; rfl
        | some v =>
            have hvl := Varint.length_of_split hv
            have hsz : uint64.size v.1 = (BitVec.ofNat 64 v.1.value).toNat :=
              (BitVec.toNat_ofNat _ _).symm
            simp only [Reading.datum, hv, Option.bind_some, hsz]
            generalize hstop : (BitVec.ofNat 64 (size - v.2.length) + _).toInt = stop
            rcases stop_cases (by omega) (by omega) _ hstop with ⟨hl, hn, hb, ht⟩ |
              ⟨hl, -, hn⟩ | ⟨hl, -, hn, hb⟩
            · simp only [if_neg hn, if_pos hl, Go.slice, if_neg hb, ht]
              rfl
            · simp only [if_pos hn, if_neg (Nat.not_le.mpr hl)]
              rfl
            · simp only [if_neg hn, if_neg (Nat.not_le.mpr hl), Go.slice, if_pos hb]
              rfl
      · rfl

theorem kotlin_follows : Follows jvm Kotlin.entry (Kotlin.decodeField size) payload := by
  rw [Follows, Kotlin.decodeField, Kotlin.readVarint_eq, Reading.next]
  cases hs : Varint.split payload with
  | none => rfl
  | some k =>
      obtain ⟨key, rest⟩ := k
      have hkl := Varint.length_of_split hs
      simp only [bind, Except.bind, Option.bind_some, kotlin_wireType]
      rcases jvm.wireType key with _ | _ | _ | t
      · rw [Kotlin.readVarint_eq]
        cases hv : Varint.split rest with
        | none => simp only [Reading.datum, hv]; rfl
        | some v => simp only [Reading.datum, hv]; rfl
      · by_cases hl : 8 ≤ rest.length
        · have hn : ¬ (size : ℤ) < (BitVec.ofNat 32 (size - rest.length) + 8).toInt :=
            fun h => Nat.not_lt.mpr hl ((lt_doubleEnd_iff hsize (by omega)).1 h).1
          simp only [Reading.datum, Nat.zero_add, if_neg hn, dif_pos hl, Kotlin.wrapDouble,
            if_neg (Nat.not_lt.mpr hl)]
          rfl
        · simp only [Reading.datum, Nat.zero_add, dif_neg hl, Kotlin.wrapDouble,
            if_pos (Nat.lt_of_not_le hl)]
          split_ifs <;> rfl
      · rw [Kotlin.readVarint_eq]
        cases hv : Varint.split rest with
        | none => simp only [Reading.datum, hv]; rfl
        | some v =>
            have hvl := Varint.length_of_split hv
            have hsz : jvm.size v.1 = ((jvmLong v.1 0).setWidth 32).toNat :=
              (BitVec.toNat_setWidth _ _).symm
            simp only [Reading.datum, hv, Option.bind_some, hsz]
            generalize hstop : (BitVec.ofNat 32 (size - v.2.length) + _).toInt = stop
            rcases stop_cases (by omega) (by omega) _ hstop with ⟨hl, hn, hb, ht⟩ |
              ⟨hl, -, hn⟩ | ⟨hl, -, hn, hb⟩
            · simp only [if_neg hn, if_pos hl, Kotlin.copyOfRange, if_neg hb, ht]
              rfl
            · simp only [if_pos hn, if_neg (Nat.not_le.mpr hl)]
              rfl
            · simp only [if_neg hn, if_neg (Nat.not_le.mpr hl), Kotlin.copyOfRange, if_pos hb]
              rfl
      · rfl

/-- Go panics on a length that takes the cursor past the largest `int`, and on nothing else. -/
theorem go_panic_iff : (∃ text, Go.decodeField size payload = .error (.panic text)) ↔
    ∃ (key length : Varint) (rest : List UInt8), payload = key.spell ++ (length.spell ++ rest) ∧
      uint64.wireType key = 2 ∧ 2 ^ 63 ≤ size - rest.length + length.value % 2 ^ 64 := by
  constructor
  · rintro ⟨text, h⟩
    rw [Go.decodeField, Go.readVarint_eq] at h
    cases hs : Varint.split payload with
    | none => simp only [hs, bind, Except.bind, Except.error.injEq, reduceCtorEq] at h
    | some k =>
        have hkl := Varint.length_of_split hs
        simp only [hs, bind, Except.bind, go_wireType] at h
        split at h
        · rw [Go.readVarint_eq] at h
          cases hv : Varint.split k.2 with
          | none => simp [hv] at h
          | some v => simp [hv, pure, Except.pure] at h
        · split_ifs at h
          · simp [throw, throwThe, MonadExceptOf.throw] at h
          · simp [pure, Except.pure] at h
        · rename_i hty
          rw [Go.readVarint_eq] at h
          cases hv : Varint.split k.2 with
          | none => simp [hv] at h
          | some v =>
              have hvl := Varint.length_of_split hv
              simp only [hv] at h
              generalize hstop : (BitVec.ofNat 64 (size - v.2.length) + _).toInt = stop at h
              rcases stop_cases (by omega) (by omega) _ hstop with ⟨hl, hn, hb, ht⟩ |
                ⟨hl, -, hn⟩ | ⟨hl, hle, hn, hb⟩
              · simp [hn, Go.slice, hb, pure, Except.pure] at h
              · simp [hn, throw, throwThe, MonadExceptOf.throw] at h
              · rw [BitVec.toNat_ofNat] at hle
                refine ⟨k.1, v.1, v.2, ?_, hty, by omega⟩
                rw [Varint.spell_of_split hs, Varint.spell_of_split hv]
        · simp [throw, throwThe, MonadExceptOf.throw] at h
  · rintro ⟨key, length, rest, rfl, hty, hle⟩
    rw [List.length_append, List.length_append] at hp
    rw [Go.decodeField, Go.readVarint_eq, Varint.split_spell]
    simp only [bind, Except.bind, go_wireType, hty, Go.readVarint_eq, Varint.split_spell]
    generalize hstop : (BitVec.ofNat 64 (size - rest.length) + _).toInt = stop
    have hcases := stop_cases (by omega) (by omega) _ hstop
    rw [BitVec.toNat_ofNat] at hcases
    rcases hcases with ⟨hl, -⟩ | ⟨-, hlt, -⟩ | ⟨-, -, hn, hb⟩
    · omega
    · omega
    · simp only [if_neg hn, Go.slice, if_pos hb]
      exact ⟨_, rfl⟩

/-- `cursor + 8` overflows within eight bytes of the largest `Int`. -/
theorem kotlin_outOfBounds_iff : Kotlin.decodeField size payload = .error .indexOutOfBounds ↔
    ∃ (key : Varint) (rest : List UInt8), payload = key.spell ++ rest ∧ jvm.wireType key = 1 ∧
      2 ^ 31 ≤ size - rest.length + 8 := by
  constructor
  · intro h
    rw [Kotlin.decodeField, Kotlin.readVarint_eq] at h
    cases hs : Varint.split payload with
    | none => simp only [hs, bind, Except.bind, Except.error.injEq, reduceCtorEq] at h
    | some k =>
        have hkl := Varint.length_of_split hs
        simp only [hs, bind, Except.bind, kotlin_wireType] at h
        split at h
        · rw [Kotlin.readVarint_eq] at h
          cases hv : Varint.split k.2 with
          | none => simp [hv] at h
          | some v => simp [hv, pure, Except.pure] at h
        · rename_i hty
          refine ⟨k.1, k.2, Varint.spell_of_split hs, hty, ?_⟩
          by_contra hlt
          by_cases hl : k.2.length < 8
          · rw [if_pos ((lt_doubleEnd_iff hsize (by omega)).2 ⟨hl, by omega⟩)] at h
            simp [throw, throwThe, MonadExceptOf.throw] at h
          · split_ifs at h
            · simp [throw, throwThe, MonadExceptOf.throw] at h
            · simp [Kotlin.wrapDouble, hl, pure, Except.pure] at h
        · rw [Kotlin.readVarint_eq] at h
          cases hv : Varint.split k.2 with
          | none => simp [hv] at h
          | some v =>
              simp only [hv] at h
              split_ifs at h
              · simp [throw, throwThe, MonadExceptOf.throw] at h
              · unfold Kotlin.copyOfRange at h
                split_ifs at h
                · simp at h
                · simp [pure, Except.pure] at h
        · simp [throw, throwThe, MonadExceptOf.throw] at h
  · rintro ⟨key, rest, rfl, hty, hle⟩
    rw [List.length_append] at hp
    have hl : rest.length < 8 := by omega
    have hn : ¬ (size : ℤ) < (BitVec.ofNat 32 (size - rest.length) + 8).toInt :=
      fun h => Nat.not_lt.mpr hle ((lt_doubleEnd_iff hsize (by omega)).1 h).2
    rw [Kotlin.decodeField, Kotlin.readVarint_eq, Varint.split_spell]
    simp only [bind, Except.bind, kotlin_wireType, hty, if_neg hn, Kotlin.wrapDouble, if_pos hl]

end

end GcsSaker.ProtobufWire
