import GcsSaker.WireFields
import Mathlib.Data.List.Forall2

/-!
# Serializations of proto3 messages

A serialization is a list of fields in any order. A field may be left out or occur again: a scalar
has the value of its last occurrence or else the default, the occurrences of a message are merged,
and a repeated field has all its values. Keys, lengths and integers may be spelled with more groups
than they need.
-/

namespace GcsSaker.Proto3

open WireFormat ProtobufWire

/-! ## Fields on the wire -/

theorem exists_of_mem_left {α β : Type} {R : α → β → Prop} {as : List α} {bs : List β}
    (h : List.Forall₂ R as bs) {a : α} (ha : a ∈ as) : ∃ b ∈ bs, R a b := by
  induction h with
  | nil => cases ha
  | @cons a' b as bs hab _ ih =>
      rcases List.mem_cons.1 ha with rfl | ha
      · exact ⟨b, List.mem_cons_self, hab⟩
      · obtain ⟨b', hb', hR⟩ := ih ha
        exact ⟨b', List.mem_cons_of_mem b hb', hR⟩

theorem exists_of_mem_right {α β : Type} {R : α → β → Prop} {as : List α} {bs : List β}
    (h : List.Forall₂ R as bs) {b : β} (hb : b ∈ bs) : ∃ a ∈ as, R a b :=
  exists_of_mem_left (R := flip R) (List.Forall₂.flip h) hb

/-- The field has the number and the value. -/
def Spells (entry : ℕ × WireValue ℕ) (f : Field) : Prop :=
  f.key.value = entry.1 * 8 + f.datum.wireType ∧ match entry.2, f.datum with
    | .integer value, .varint groups => groups.value = value
    | .double bits, .fixed64 bytes _ => bytes = LittleEndian.spell 8 bits.toNat
    | .bytes raw, .delimited length content => length.value = raw.length ∧ content = raw
    | _, _ => False

def Encodes (entries : List (ℕ × WireValue ℕ)) (raw : List UInt8) : Prop :=
  ∃ fields, List.Forall₂ Spells entries fields ∧ raw = spell fields

theorem spells_toField (entry : ℕ × WireValue ℕ) : Spells entry (toField entry) := by
  obtain ⟨n, value⟩ := entry
  cases value with
  | integer value => exact ⟨Varint.value_ofNat _, Varint.value_ofNat _⟩
  | double bits => exact ⟨Varint.value_ofNat _, rfl⟩
  | bytes raw => exact ⟨Varint.value_ofNat _, Varint.value_ofNat _, rfl⟩

theorem encodes_written (entries : List (ℕ × WireValue ℕ)) : Encodes entries (written entries) := by
  refine ⟨entries.map toField, ?_, rfl⟩
  induction entries with
  | nil => exact List.Forall₂.nil
  | cons entry entries ih => exact List.Forall₂.cons (spells_toField entry) ih

/-- A spelled field is one of the format, which the decoder shows as its number and value. -/
theorem python_entry_of_spells {entry : ℕ × WireValue ℕ} {f : Field} (h : Spells entry f) :
    natural.Fits f ∧ Python.entry f = ((entry.1 : ℤ), entry.2) := by
  obtain ⟨n, value⟩ := entry
  obtain ⟨key, datum⟩ := f
  obtain ⟨hkey, hdatum⟩ := h
  have hkey' : key.value = n * 8 + datum.wireType := hkey
  have hlt : datum.wireType < 8 := by
    cases datum with
    | varint groups => exact Nat.succ_pos _
    | fixed64 bytes sized => exact Nat.lt_of_sub_eq_succ rfl
    | delimited length content => exact Nat.lt_of_sub_eq_succ rfl
  have htype : key.value % 8 = datum.wireType := by omega
  have hnumber : ((key.value / 8 : ℕ) : ℤ) = (n : ℤ) := by omega
  cases datum with
  | varint groups =>
      cases value with
      | integer value => exact ⟨⟨htype, trivial⟩, Prod.ext hnumber (congrArg WireValue.integer hdatum)⟩
      | double bits => exact hdatum.elim
      | bytes raw => exact hdatum.elim
  | fixed64 bytes sized =>
      cases value with
      | integer value => exact hdatum.elim
      | double bits =>
          have hbits : float64FromBytes bytes = bits := by
            rw [show bytes = LittleEndian.spell 8 bits.toNat from hdatum]
            exact float64FromBytes_spell bits
          exact ⟨⟨htype, trivial⟩, Prod.ext hnumber (congrArg WireValue.double hbits)⟩
      | bytes raw => exact hdatum.elim
  | delimited length content =>
      cases value with
      | integer value => exact hdatum.elim
      | double bits => exact hdatum.elim
      | bytes raw =>
          obtain ⟨hlength, hcontent⟩ := hdatum
          refine ⟨⟨htype, ?_⟩, Prod.ext hnumber (congrArg WireValue.bytes hcontent)⟩
          exact hlength.trans (congrArg List.length hcontent.symm)

theorem python_decode_encodes {entries : List (ℕ × WireValue ℕ)} {raw : List UInt8}
    (h : Encodes entries raw) : Python.decodeMessage raw = .ok (messageOf entries) := by
  obtain ⟨fields, hspells, rfl⟩ := h
  apply (python_ok_iff _ _).mpr
  refine ⟨fields, ?_, rfl, ?_⟩
  · induction hspells with
    | nil =>
        intro f hf
        cases hf
    | cons hf _ ih => exact List.forall_mem_cons.2 ⟨(python_entry_of_spells hf).1, ih⟩
  · induction hspells with
    | nil => rfl
    | cons hf _ ih => exact congrArg₂ List.cons (python_entry_of_spells hf).2.symm ih

/-- The field number and the integer are in the range that a schema gives them. -/
def InRange (entry : ℕ × WireValue ℕ) : Prop :=
  entry.1 < 2 ^ 28 ∧ ∀ value, entry.2 = .integer value → value < 2 ^ 64

/-- A field that spells an entry in range is small, and Kotlin shows it as the same value. -/
theorem kotlin_entry_of_spells {entry : ℕ × WireValue ℕ} {f : Field} (h : Spells entry f)
    (hrange : InRange entry) :
    Small f ∧ Kotlin.entry f = ((entry.1 : ℤ), entry.2.map (BitVec.ofNat 64)) := by
  obtain ⟨n, value⟩ := entry
  obtain ⟨key, datum⟩ := f
  obtain ⟨hnumber, hinteger⟩ := hrange
  have hn : n < 2 ^ 28 := hnumber
  have hkey : key.value = n * 8 + datum.wireType := h.1
  obtain ⟨-, hentry⟩ := python_entry_of_spells h
  have hwire : Datum.toValue Varint.value datum = value := congrArg Prod.snd hentry
  have htype : datum.wireType < 8 := by
    cases datum with
    | varint groups => exact Nat.succ_pos _
    | fixed64 bytes sized => exact Nat.lt_of_sub_eq_succ rfl
    | delimited length content => exact Nat.lt_of_sub_eq_succ rfl
  have hlt : key.value < 2 ^ 31 := by omega
  have hnum : (Kotlin.entry ⟨key, datum⟩).1 = (n : ℤ) := by
    have hk : (Kotlin.entry ⟨key, datum⟩).1 = ((key.value / 8 : ℕ) : ℤ) := kotlin_number hlt
    rw [hk]
    omega
  cases datum with
  | varint groups =>
      have hg : groups.value < 2 ^ 64 := hinteger _ hwire.symm
      refine ⟨⟨hlt, hg⟩, Prod.ext hnum ?_⟩
      rw [← hwire]
      exact congrArg WireValue.integer (jvmLong_of_lt hg)
  | fixed64 bytes sized => exact ⟨⟨hlt, trivial⟩, Prod.ext hnum (hwire ▸ rfl)⟩
  | delimited length content => exact ⟨⟨hlt, trivial⟩, Prod.ext hnum (hwire ▸ rfl)⟩

theorem kotlin_decode_encodes {entries : List (ℕ × WireValue ℕ)} {raw : List UInt8}
    (h : Encodes entries raw) (hlen : raw.length < 2 ^ 31)
    (hrange : ∀ entry ∈ entries, InRange entry) : Kotlin.decode raw =
      .ok ⟨entries.map fun entry => ((entry.1 : ℤ), entry.2.map (BitVec.ofNat 64))⟩ := by
  obtain ⟨fields, hspells, rfl⟩ := h
  apply (kotlin_ok_iff ⟨spell fields, hlen⟩ _).mpr
  refine ⟨fields, ?_, rfl, ?_⟩
  · intro f hf
    obtain ⟨entry, hentry, hspell⟩ := exists_of_mem_right hspells hf
    exact (fits_of_small hlen hf (python_entry_of_spells hspell).1
      (kotlin_entry_of_spells hspell (hrange entry hentry)).1).2
  · clear hlen
    induction hspells with
    | nil => rfl
    | cons hf _ ih =>
        rw [List.forall_mem_cons] at hrange
        exact congrArg₂ List.cons (kotlin_entry_of_spells hf hrange.1).2.symm (ih hrange.2)

/-- Bytes within a message are no more than the message. -/
theorem length_le_of_encodes {entries : List (ℕ × WireValue ℕ)} {raw : List UInt8}
    (h : Encodes entries raw) {n : ℕ} {content : List UInt8} (hmem : (n, .bytes content) ∈ entries) :
    content.length ≤ raw.length := by
  obtain ⟨fields, hspells, rfl⟩ := h
  obtain ⟨⟨key, datum⟩, hf, hspell⟩ := exists_of_mem_left hspells hmem
  cases datum with
  | varint groups => exact hspell.2.elim
  | fixed64 bytes sized => exact hspell.2.elim
  | delimited length bytes =>
      have hcontent : bytes = content := hspell.2.2
      rw [← hcontent]
      exact content_length_le hf rfl

/-! ## Messages -/

/-- One occurrence of a field of a message. -/
structure Item {φ : Type} (Value : φ → Type) where
  field : φ
  value : Value field

/-- The numbers of the fields, and the values on the wire that a value may have. -/
structure Schema {φ : Type} (Value : φ → Type) where
  number : φ → ℕ
  injective : Function.Injective number
  Spelled : ∀ field, Value field → WireValue ℕ → Prop

section

variable {φ : Type} [DecidableEq φ] {Value : φ → Type}

def occurrences (field : φ) (items : List (Item Value)) : List (Value field) :=
  items.filterMap fun item => if h : item.field = field then some (h ▸ item.value) else none

theorem occurrences_cons_self (item : Item Value) (items : List (Item Value)) :
    occurrences item.field (item :: items) = item.value :: occurrences item.field items := by
  rw [occurrences, List.filterMap_cons, dif_pos rfl]
  rfl

theorem occurrences_cons_of_ne {field : φ} {item : Item Value} (h : item.field ≠ field)
    (items : List (Item Value)) : occurrences field (item :: items) = occurrences field items := by
  rw [occurrences, List.filterMap_cons, dif_neg h]
  rfl

namespace Schema

variable (schema : Schema Value)

def SpelledItem (item : Item Value) (entry : ℕ × WireValue ℕ) : Prop :=
  entry.1 = schema.number item.field ∧ schema.Spelled item.field item.value entry.2

def Serializes (items : List (Item Value)) (raw : List UInt8) : Prop :=
  ∃ entries, List.Forall₂ schema.SpelledItem items entries ∧ Encodes entries raw

variable {schema}

/-- Under the number of a field stand its occurrences, in their order. -/
theorem occurrences_spelled {items : List (Item Value)} {entries : List (ℕ × WireValue ℕ)}
    (h : List.Forall₂ schema.SpelledItem items entries) (field : φ) :
    List.Forall₂ (schema.Spelled field) (occurrences field items)
      (valuesUnder entries (schema.number field)) := by
  induction h with
  | nil => exact List.Forall₂.nil
  | @cons item entry items entries hitem _ ih =>
      obtain ⟨n, value⟩ := entry
      obtain ⟨hnumber, hspelled⟩ := hitem
      have hn : n = schema.number item.field := hnumber
      rw [valuesUnder_cons]
      by_cases hfield : item.field = field
      · subst hfield
        rw [if_pos hn, occurrences_cons_self]
        exact List.Forall₂.cons hspelled ih
      · have hne : n ≠ schema.number field := by
          rw [hn]
          exact schema.injective.ne hfield
        rw [if_neg hne, occurrences_cons_of_ne hfield]
        exact ih

/-- Numbers and integers of the schema are in the range of the format. -/
structure Ranged (schema : Schema Value) : Prop where
  number : ∀ field, schema.number field < 2 ^ 28
  integer : ∀ field value k, schema.Spelled field value (.integer k) → k < 2 ^ 64

omit [DecidableEq φ] in
theorem inRange_of_spelled (hschema : schema.Ranged) {items : List (Item Value)}
    {entries : List (ℕ × WireValue ℕ)} (h : List.Forall₂ schema.SpelledItem items entries) :
    ∀ entry ∈ entries, InRange entry := by
  intro entry hentry
  obtain ⟨item, -, hnumber, hspelled⟩ := exists_of_mem_right h hentry
  constructor
  · rw [hnumber]
    exact hschema.number item.field
  · intro k hk
    rw [hk] at hspelled
    exact hschema.integer item.field item.value k hspelled

end Schema

end

end GcsSaker.Proto3
