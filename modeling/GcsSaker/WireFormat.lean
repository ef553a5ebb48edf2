import GcsSaker.Varint

/-!
# Messages of keyed fields

A field is a key, whose low three bits are the kind of its datum, and the datum: a varint, eight
bytes, or a length with that many bytes. Readers differ in how they take the groups of a key and of
a length; a `Reading` is one way to take them. `readFields` reads field after field up to the end.
-/

namespace GcsSaker.WireFormat

inductive Datum where
  | varint (groups : Varint)
  | fixed64 (bytes : List UInt8) (sized : bytes.length = 8)
  | delimited (length : Varint) (content : List UInt8)
  deriving DecidableEq

namespace Datum

def wireType : Datum → ℕ
  | .varint _ => 0
  | .fixed64 .. => 1
  | .delimited .. => 2

def spell : Datum → List UInt8
  | .varint groups => groups.spell
  | .fixed64 bytes _ => bytes
  | .delimited length content => length.spell ++ content

end Datum

structure Field where
  key : Varint
  datum : Datum
  deriving DecidableEq

def Field.spell (f : Field) : List UInt8 := f.key.spell ++ f.datum.spell

def spell (fields : List Field) : List UInt8 := fields.flatMap Field.spell

@[simp] theorem spell_nil : spell [] = [] := rfl

@[simp] theorem spell_cons (f : Field) (fields : List Field) :
    spell (f :: fields) = f.spell ++ spell fields := rfl

theorem Field.length_spell_pos (f : Field) : 0 < f.spell.length := by
  rw [Field.spell, List.length_append, Varint.length_spell]
  exact Nat.add_pos_left f.key.length_pos _

/-- How a reader takes the groups of a key and of a length. -/
structure Reading where
  wireType : Varint → ℕ
  size : Varint → ℕ

namespace Reading

variable (ρ : Reading)

/-- The length denotes as many bytes as follow it. -/
def Measures : Datum → Prop
  | .delimited length content => ρ.size length = content.length
  | _ => True

def Fits (f : Field) : Prop := ρ.wireType f.key = f.datum.wireType ∧ ρ.Measures f.datum

/-- The bytes are fields, one after the other. -/
def IsMessage (bytes : List UInt8) : Prop :=
  ∃ fields, (∀ f ∈ fields, ρ.Fits f) ∧ bytes = spell fields

def datum : ℕ → List UInt8 → Option (Datum × List UInt8)
  | 0, bytes => (Varint.split bytes).map fun r => (.varint r.1, r.2)
  | 1, bytes =>
    if h : 8 ≤ bytes.length then
      some (.fixed64 (bytes.take 8) (List.length_take_of_le h), bytes.drop 8)
    else none
  | 2, bytes => (Varint.split bytes).bind fun r =>
    if ρ.size r.1 ≤ r.2.length then
      some (.delimited r.1 (r.2.take (ρ.size r.1)), r.2.drop (ρ.size r.1))
    else none
  | _, _ => none

/-- The field at the front of the bytes and the bytes after it. -/
def next (bytes : List UInt8) : Option (Field × List UInt8) :=
  (Varint.split bytes).bind fun k => (ρ.datum (ρ.wireType k.1) k.2).map fun d => (⟨k.1, d.1⟩, d.2)

variable {ρ}

theorem datum_spell (d : Datum) (hd : ρ.Measures d) (rest : List UInt8) :
    ρ.datum d.wireType (d.spell ++ rest) = some (d, rest) := by
  cases d with
  | varint groups =>
      rw [Datum.wireType, Datum.spell, datum, Varint.split_spell]
      rfl
  | fixed64 bytes sized =>
      have hle : 8 ≤ (bytes ++ rest).length := by
        rw [List.length_append]
        omega
      have ht : (bytes ++ rest).take 8 = bytes := by rw [← sized, List.take_left]
      have hdrop : (bytes ++ rest).drop 8 = rest := by rw [← sized, List.drop_left]
      simp only [Datum.wireType, Datum.spell, datum, dif_pos hle, ht, hdrop]
  | delimited length content =>
      have hsize : ρ.size length = content.length := hd
      rw [Datum.wireType, Datum.spell, List.append_assoc, datum, Varint.split_spell]
      simp only [Option.bind_some, hsize, List.length_append, Nat.le_add_right, if_true,
        List.take_left, List.drop_left]

theorem datum_inv {wireType : ℕ} {bytes rest : List UInt8} {d : Datum}
    (h : ρ.datum wireType bytes = some (d, rest)) :
    wireType = d.wireType ∧ ρ.Measures d ∧ bytes = d.spell ++ rest := by
  unfold datum at h
  split at h
  · obtain ⟨⟨v, r⟩, hv, he⟩ := Option.map_eq_some_iff.mp h
    cases he
    exact ⟨rfl, trivial, Varint.spell_of_split hv⟩
  · split_ifs at h with hle
    cases h
    exact ⟨rfl, trivial, (List.take_append_drop 8 bytes).symm⟩
  · obtain ⟨⟨v, r⟩, hv, h⟩ := Option.bind_eq_some_iff.mp h
    split_ifs at h with hle
    cases h
    refine ⟨rfl, (List.length_take_of_le hle).symm, ?_⟩
    rw [Datum.spell, List.append_assoc, List.take_append_drop, Varint.spell_of_split hv]
  · cases h

/-- A byte string starts with one field at most. -/
theorem next_eq_some_iff {bytes rest : List UInt8} {f : Field} :
    ρ.next bytes = some (f, rest) ↔ ρ.Fits f ∧ bytes = f.spell ++ rest := by
  constructor
  · intro h
    obtain ⟨⟨key, r⟩, hkey, h⟩ := Option.bind_eq_some_iff.mp h
    obtain ⟨⟨d, r'⟩, hd, he⟩ := Option.map_eq_some_iff.mp h
    cases he
    obtain ⟨hty, hm, hr⟩ := datum_inv hd
    refine ⟨⟨hty, hm⟩, ?_⟩
    rw [Varint.spell_of_split hkey, Field.spell, List.append_assoc]
    exact congrArg (key.spell ++ ·) hr
  · rintro ⟨⟨hty, hm⟩, rfl⟩
    rw [next, Field.spell, List.append_assoc, Varint.split_spell]
    simp only [Option.bind_some, hty, datum_spell f.datum hm rest, Option.map_some]

end Reading

/-! ## Reading to the end -/

variable {ε α : Type*}

/-- The loop over the bytes that are left, for at most so many fields. -/
def readFields (read : List UInt8 → Except ε (α × List UInt8)) :
    ℕ → List UInt8 → Except ε (List α)
  | _, [] => .ok []
  | 0, _ :: _ => .ok []
  | n + 1, byte :: bytes =>
    match read (byte :: bytes) with
    | .error e => .error e
    | .ok (entry, rest) => (readFields read n rest).map (entry :: ·)

/-- `read` takes off the field that the reading finds, and shows it through `view`. -/
def Follows (ρ : Reading) (view : Field → α) (read : List UInt8 → Except ε (α × List UInt8))
    (bytes : List UInt8) : Prop :=
  (read bytes).toOption = (ρ.next bytes).map fun r => (view r.1, r.2)

variable {ρ : Reading} {view : Field → α} {read : List UInt8 → Except ε (α × List UInt8)}

theorem Follows.ok_iff {bytes rest : List UInt8} {entry : α} (h : Follows ρ view read bytes) :
    read bytes = .ok (entry, rest) ↔
      ∃ f, ρ.Fits f ∧ bytes = f.spell ++ rest ∧ entry = view f := by
  have hok : read bytes = .ok (entry, rest) ↔ (read bytes).toOption = some (entry, rest) := by
    cases read bytes with
    | error e => simp only [Except.toOption, reduceCtorEq]
    | ok r => simp only [Except.toOption, Except.ok.injEq, Option.some.injEq]
  rw [hok, h, Option.map_eq_some_iff]
  constructor
  · rintro ⟨⟨f, r⟩, hf, he⟩
    cases he
    obtain ⟨hfits, hb⟩ := Reading.next_eq_some_iff.mp hf
    exact ⟨f, hfits, hb, rfl⟩
  · rintro ⟨f, hfits, hb, rfl⟩
    exact ⟨(f, rest), Reading.next_eq_some_iff.mpr ⟨hfits, hb⟩, rfl⟩

@[simp] theorem readFields_nil (n : ℕ) : readFields read n [] = .ok [] := by
  cases n with
  | zero => rfl
  | succ n => rfl

theorem readFields_succ_ok_iff {n : ℕ} {bytes : List UInt8} (hb : bytes ≠ [])
    {entries : List α} : readFields read (n + 1) bytes = .ok entries ↔ ∃ entry rest entries',
      read bytes = .ok (entry, rest) ∧ readFields read n rest = .ok entries' ∧
        entries = entry :: entries' := by
  obtain ⟨byte, tail, rfl⟩ := List.exists_cons_of_ne_nil hb
  rw [readFields]
  cases hr : read (byte :: tail) with
  | error e => simp only [reduceCtorEq, false_and, exists_false]
  | ok r =>
      cases hs : readFields read n r.2 with
      | error e =>
          constructor
          · intro h
            simp only [hs, Except.map, reduceCtorEq] at h
          · rintro ⟨entry, rest, entries', he, h, rfl⟩
            cases he
            simp only [hs, reduceCtorEq] at h
      | ok entries' =>
          simp only [hs, Except.map, Except.ok.injEq]
          constructor
          · rintro rfl
            exact ⟨r.1, r.2, entries', rfl, hs, rfl⟩
          · rintro ⟨entry, rest, es, he, h, rfl⟩
            cases he
            rw [hs, Except.ok.injEq] at h
            rw [h]

theorem readFields_succ_error_iff {n : ℕ} {bytes : List UInt8} (hb : bytes ≠ []) {e : ε} :
    readFields read (n + 1) bytes = .error e ↔ read bytes = .error e ∨
      ∃ entry rest, read bytes = .ok (entry, rest) ∧ readFields read n rest = .error e := by
  obtain ⟨byte, tail, rfl⟩ := List.exists_cons_of_ne_nil hb
  rw [readFields]
  cases hr : read (byte :: tail) with
  | error e' => simp only [Except.error.injEq, reduceCtorEq, false_and, exists_false, or_false]
  | ok r =>
      simp only [reduceCtorEq, false_or, Except.ok.injEq]
      cases hs : readFields read n r.2 with
      | error e' =>
          simp only [Except.map, Except.error.injEq]
          constructor
          · rintro rfl
            exact ⟨r.1, r.2, rfl, hs⟩
          · rintro ⟨entry, rest, rfl, h⟩
            rw [hs, Except.error.injEq] at h
            exact h
      | ok entries' =>
          simp only [Except.map, reduceCtorEq, false_iff, not_exists, not_and]
          rintro entry rest rfl h
          simp only [hs, reduceCtorEq] at h

theorem spell_ne_nil {f : Field} {fields : List Field} : spell (f :: fields) ≠ [] := by
  have hpos := f.length_spell_pos
  intro h
  rw [spell_cons, List.append_eq_nil_iff] at h
  rw [h.1] at hpos
  exact absurd hpos (lt_irrefl _)

theorem length_rest_lt (f : Field) (rest : List UInt8) : rest.length < (f.spell ++ rest).length := by
  have hpos := f.length_spell_pos
  rw [List.length_append]
  omega

theorem nil_eq_spell_iff {fields : List Field} : [] = spell fields ↔ fields = [] := by
  cases fields with
  | nil => simp only [spell_nil]
  | cons f fields => simp only [spell_ne_nil.symm, reduceCtorEq]

section

variable {size : ℕ} (hread : ∀ bytes, bytes.length ≤ size → Follows ρ view read bytes)

include hread

/-- What the loop accepts is exactly the messages of the reading. -/
theorem readFields_ok_iff {n : ℕ} {bytes : List UInt8} (hn : bytes.length ≤ n)
    (hsize : bytes.length ≤ size) {entries : List α} : readFields read n bytes = .ok entries ↔
      ∃ fields, (∀ f ∈ fields, ρ.Fits f) ∧ bytes = spell fields ∧ entries = fields.map view := by
  induction n generalizing bytes entries with
  | zero =>
      cases List.length_eq_zero_iff.mp (Nat.le_zero.mp hn)
      simp only [readFields_nil, nil_eq_spell_iff, Except.ok.injEq]
      constructor
      · rintro rfl
        exact ⟨[], fun f hf => absurd hf List.not_mem_nil, rfl, rfl⟩
      · rintro ⟨fields, -, rfl, rfl⟩
        rfl
  | succ n ih =>
      by_cases hb : bytes = []
      · subst hb
        rw [readFields_nil, ← @readFields_nil ε α read n]
        exact @ih [] (Nat.zero_le n) hsize entries
      rw [readFields_succ_ok_iff hb]
      constructor
      · rintro ⟨entry, rest, entries', hr, hs, rfl⟩
        obtain ⟨f, hf, rfl, rfl⟩ := (hread bytes hsize).ok_iff.mp hr
        have hlt := length_rest_lt f rest
        obtain ⟨fields, hfields, rfl, rfl⟩ := (ih (by omega) (by omega)).mp hs
        exact ⟨f :: fields, List.forall_mem_cons.mpr ⟨hf, hfields⟩, rfl, rfl⟩
      · rintro ⟨fields, hfields, rfl, rfl⟩
        cases fields with
        | nil => exact absurd rfl hb
        | cons f fields =>
            obtain ⟨hf, hfields⟩ := List.forall_mem_cons.mp hfields
            have hlt := length_rest_lt f (spell fields)
            rw [spell_cons] at hn hsize
            refine ⟨view f, spell fields, fields.map view, ?_, ?_, rfl⟩
            · exact (hread _ hsize).ok_iff.mpr ⟨f, hf, rfl, rfl⟩
            · exact (ih (by omega) (by omega)).mpr ⟨fields, hfields, rfl, rfl⟩

/-- The loop fails with what the first field that cannot be read fails with. -/
theorem readFields_error_iff {n : ℕ} {bytes : List UInt8} (hn : bytes.length ≤ n)
    (hsize : bytes.length ≤ size) {e : ε} : readFields read n bytes = .error e ↔
      ∃ fields rest, (∀ f ∈ fields, ρ.Fits f) ∧ bytes = spell fields ++ rest ∧ rest ≠ [] ∧
        read rest = .error e := by
  induction n generalizing bytes with
  | zero =>
      cases List.length_eq_zero_iff.mp (Nat.le_zero.mp hn)
      simp only [readFields_nil, reduceCtorEq, false_iff, not_exists, not_and]
      intro fields rest _ h hne
      exact absurd (List.append_eq_nil_iff.mp h.symm).2 hne
  | succ n ih =>
      by_cases hb : bytes = []
      · subst hb
        rw [readFields_nil, ← @readFields_nil ε α read n]
        exact @ih [] (Nat.zero_le n) hsize
      rw [readFields_succ_error_iff hb]
      constructor
      · rintro (hr | ⟨entry, rest, hr, hs⟩)
        · exact ⟨[], bytes, fun f hf => absurd hf List.not_mem_nil, rfl, hb, hr⟩
        · obtain ⟨f, hf, rfl, rfl⟩ := (hread bytes hsize).ok_iff.mp hr
          have hlt := length_rest_lt f rest
          obtain ⟨fields, last, hfields, rfl, hne, he⟩ := (ih (by omega) (by omega)).mp hs
          refine ⟨f :: fields, last, List.forall_mem_cons.mpr ⟨hf, hfields⟩, ?_, hne, he⟩
          rw [spell_cons, List.append_assoc]
      · rintro ⟨fields, last, hfields, rfl, hne, he⟩
        cases fields with
        | nil => exact Or.inl he
        | cons f fields =>
            obtain ⟨hf, hfields⟩ := List.forall_mem_cons.mp hfields
            have hlt := length_rest_lt f (spell fields ++ last)
            rw [spell_cons, List.append_assoc] at hn hsize ⊢
            refine Or.inr ⟨view f, spell fields ++ last, ?_, ?_⟩
            · exact (hread _ hsize).ok_iff.mpr ⟨f, hf, rfl, rfl⟩
            · exact (ih (by omega) (by omega)).mpr ⟨fields, last, hfields, rfl, hne, he⟩

end

end GcsSaker.WireFormat
