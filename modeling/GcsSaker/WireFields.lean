import GcsSaker.WireAgreement

/-!
# Writing fields and reading them back

The `encode_*` functions of `wire.py`, the accessors of `wire_helpers.py` and those of the Kotlin
`DecodedWireMessage`. An `encode_*` function is modelled by the bytes that it appends.
-/

namespace GcsSaker.ProtobufWire

open WireFormat

def utf8Encode (s : String) : List UInt8 := s.toByteArray.data.toList

def utf8Decode (raw : List UInt8) : Option String := String.fromUTF8? ⟨raw.toArray⟩

theorem utf8Decode_utf8Encode (s : String) : utf8Decode (utf8Encode s) = some s := by
  have hb : (⟨s.toByteArray.data.toList.toArray⟩ : ByteArray) = s.toByteArray := rfl
  rw [utf8Decode, utf8Encode, hb, String.fromUTF8?, dif_pos s.isValidUTF8]
  rfl

namespace Python

/-! ## Encoding -/

def encodeVarint (value : ℕ) : List UInt8 :=
  if 0x7F < value then UInt8.ofNat ((value &&& 0x7F) ||| 0x80) :: encodeVarint (value >>> 7)
  else [UInt8.ofNat value]
termination_by value
decreasing_by
  rw [Nat.shiftRight_eq_div_pow]
  omega

def encodeString (fieldNumber : ℕ) (value : String) : List UInt8 :=
  encodeVarint (fieldNumber <<< 3 ||| 2) ++ encodeVarint (utf8Encode value).length ++
    utf8Encode value

def encodeBytes (fieldNumber : ℕ) (value : List UInt8) : List UInt8 :=
  encodeVarint (fieldNumber <<< 3 ||| 2) ++ encodeVarint value.length ++ value

def encodeDouble (fieldNumber : ℕ) (value : BitVec 64) : List UInt8 :=
  encodeVarint (fieldNumber <<< 3 ||| 1) ++ LittleEndian.spell 8 value.toNat

def encodeVarintField (fieldNumber value : ℕ) : List UInt8 :=
  encodeVarint (fieldNumber <<< 3 ||| 0) ++ encodeVarint value

/-! ## `DecodedWireMessage` and `wire_helpers.py` -/

abbrev Message : Type := WireMessage ℕ

def bytesValues (decoded : Message) (fieldNumber : ℕ) : List (List UInt8) :=
  (decoded.values fieldNumber).filterMap WireValue.asBytes

def decodeUtf8 (raw : List UInt8) : Except String String :=
  (utf8Decode raw).elim (.error "'utf-8' codec can't decode bytes") .ok

def strings (decoded : Message) (fieldNumber : ℕ) : Except String (List String) :=
  (bytesValues decoded fieldNumber).mapM decodeUtf8

def mustContain (fieldNumber : ℕ) (what : String) : String :=
  "field " ++ toString fieldNumber ++ " must contain " ++ what

def optionalMessage (decoded : Message) (fieldNumber : ℕ) : Except String (Option Message) :=
  match bytesValues decoded fieldNumber with
  | [] => .ok none
  | [value] => (decodeMessage value).map some
  | _ => .error (mustContain fieldNumber "at most one message")

def singleMessage (decoded : Message) (fieldNumber : ℕ) : Except String Message :=
  match bytesValues decoded fieldNumber with
  | [value] => decodeMessage value
  | _ => .error (mustContain fieldNumber "exactly one message")

def singleString (decoded : Message) (fieldNumber : ℕ) : Except String String := do
  match ← strings decoded fieldNumber with
  | [value] => return value
  | _ => throw (mustContain fieldNumber "exactly one string")

def optionalString (decoded : Message) (fieldNumber : ℕ) : Except String String := do
  match ← strings decoded fieldNumber with
  | [] => return ""
  | [value] => return value
  | _ => throw (mustContain fieldNumber "at most one string")

def singleInt (decoded : Message) (fieldNumber : ℕ) : Except String ℕ :=
  match decoded.values fieldNumber with
  | [.integer value] => .ok value
  | _ => .error (mustContain fieldNumber "exactly one integer")

def singleFloat (decoded : Message) (fieldNumber : ℕ) : Except String (BitVec 64) :=
  match decoded.values fieldNumber with
  | [.double bits] => .ok bits
  | _ => .error (mustContain fieldNumber "exactly one float")

def singleBytes (decoded : Message) (fieldNumber : ℕ) : Except String (List UInt8) :=
  match bytesValues decoded fieldNumber with
  | [value] => .ok value
  | _ => .error (mustContain fieldNumber "exactly one bytes value")

def singleOptionalBytes (decoded : Message) (fieldNumber : ℕ) : Except String (List UInt8) :=
  match bytesValues decoded fieldNumber with
  | [] => .ok []
  | [value] => .ok value
  | _ => .error (mustContain fieldNumber "at most one bytes value")

end Python

/-! ## The accessors of `DecodedWireMessage` in Kotlin -/

namespace Kotlin

abbrev Message : Type := WireMessage (BitVec 64)

def mustContain (fieldNumber : ℕ) (what : String) : Thrown :=
  .illegalArgument ("field " ++ toString fieldNumber ++ " must contain exactly one " ++ what)

/-- `toString(Charsets.UTF_8)`; `replace` is what it makes of malformed bytes. -/
def decodeUtf8 (replace : List UInt8 → String) (raw : List UInt8) : String :=
  (utf8Decode raw).getD (replace raw)

def singleString (replace : List UInt8 → String) (decoded : Message) (fieldNumber : ℕ) :
    Except Thrown String :=
  match decoded.values fieldNumber with
  | [.bytes raw] => .ok (decodeUtf8 replace raw)
  | _ => .error (mustContain fieldNumber "string")

def singleLong (decoded : Message) (fieldNumber : ℕ) : Except Thrown (BitVec 64) :=
  match decoded.values fieldNumber with
  | [.integer value] => .ok value
  | _ => .error (mustContain fieldNumber "integer")

def singleDouble (decoded : Message) (fieldNumber : ℕ) : Except Thrown (BitVec 64) :=
  match decoded.values fieldNumber with
  | [.double bits] => .ok bits
  | _ => .error (mustContain fieldNumber "double")

def strings (replace : List UInt8 → String) (decoded : Message) (fieldNumber : ℕ) : List String :=
  ((decoded.values fieldNumber).filterMap WireValue.asBytes).map (decodeUtf8 replace)

def singleMessage (decoded : Message) (fieldNumber : ℕ) : Except Thrown Message :=
  match decoded.values fieldNumber with
  | [.bytes raw] => decode raw
  | _ => .error (mustContain fieldNumber "message")

end Kotlin

/-! ## What is written is read -/

/-- The field that an `encode_*` function appends for a field number and a value. -/
def toField (item : ℕ × WireValue ℕ) : Field :=
  match item.2 with
  | .integer value => ⟨Varint.ofNat (item.1 * 8), .varint (Varint.ofNat value)⟩
  | .double bits => ⟨Varint.ofNat (item.1 * 8 + 1),
      .fixed64 (LittleEndian.spell 8 bits.toNat) (LittleEndian.length_spell 8 bits.toNat)⟩
  | .bytes raw => ⟨Varint.ofNat (item.1 * 8 + 2), .delimited (Varint.ofNat raw.length) raw⟩

def written (items : List (ℕ × WireValue ℕ)) : List UInt8 := spell (items.map toField)

theorem written_append (items items' : List (ℕ × WireValue ℕ)) :
    written (items ++ items') = written items ++ written items' := by
  rw [written, List.map_append, spell, List.flatMap_append]
  rfl

theorem written_flatMap {α : Type*} (items : α → List (ℕ × WireValue ℕ)) (xs : List α) :
    xs.flatMap (fun x => written (items x)) = written (xs.flatMap items) := by
  induction xs with
  | nil => rfl
  | cons x xs ih => rw [List.flatMap_cons, List.flatMap_cons, written_append, ih]

namespace Python

theorem encodeVarint_eq (value : ℕ) : encodeVarint value = (Varint.ofNat value).spell := by
  induction value using encodeVarint.induct with
  | case1 value h ih =>
      have hand : value &&& 0x7F = value % 128 := Nat.and_two_pow_sub_one_eq_mod value 7
      have hor : value % 128 ||| 0x80 = 1 * 2 ^ 7 + value % 128 :=
        @or_shiftLeft _ 7 (Nat.mod_lt value (Nat.two_pow_pos 7)) 1
      rw [encodeVarint, if_pos h, ih, hand, hor, Nat.shiftRight_eq_div_pow, Nat.add_comm]
      conv_rhs => rw [Varint.ofNat, if_neg (by omega)]
      rfl
  | case2 value h =>
      rw [encodeVarint, if_neg h, Varint.ofNat, if_pos (by omega), Varint.spell, Fin.val_ofNat,
        Nat.mod_eq_of_lt (by omega)]

theorem key_eq (fieldNumber : ℕ) {wireType : ℕ} (h : wireType < 8) :
    fieldNumber <<< 3 ||| wireType = fieldNumber * 8 + wireType := by
  rw [← Nat.shiftLeft_add_eq_or_of_lt h, Nat.shiftLeft_eq]

theorem encodeBytes_eq (fieldNumber : ℕ) (value : List UInt8) :
    encodeBytes fieldNumber value = written [(fieldNumber, .bytes value)] := by
  rw [encodeBytes, key_eq fieldNumber (by omega), encodeVarint_eq, encodeVarint_eq,
    List.append_assoc]
  exact (List.append_nil _).symm

theorem encodeString_eq (fieldNumber : ℕ) (value : String) :
    encodeString fieldNumber value = written [(fieldNumber, .bytes (utf8Encode value))] :=
  encodeBytes_eq fieldNumber (utf8Encode value)

theorem encodeDouble_eq (fieldNumber : ℕ) (value : BitVec 64) :
    encodeDouble fieldNumber value = written [(fieldNumber, .double value)] := by
  rw [encodeDouble, key_eq fieldNumber (by omega), encodeVarint_eq]
  exact (List.append_nil _).symm

theorem encodeVarintField_eq (fieldNumber value : ℕ) :
    encodeVarintField fieldNumber value = written [(fieldNumber, .integer value)] := by
  rw [encodeVarintField, key_eq fieldNumber (by omega), encodeVarint_eq, encodeVarint_eq]
  exact (List.append_nil _).symm

end Python

theorem float64FromBytes_spell (bits : BitVec 64) :
    float64FromBytes (LittleEndian.spell 8 bits.toNat) = bits := by
  rw [float64FromBytes, LittleEndian.value_spell]
  apply BitVec.eq_of_toNat_eq
  rw [BitVec.toNat_ofNat]
  have hlt := bits.isLt
  omega

theorem natural_fits_toField (item : ℕ × WireValue ℕ) : natural.Fits (toField item) := by
  obtain ⟨n, value⟩ := item
  cases value with
  | integer value =>
      refine ⟨?_, trivial⟩
      change (Varint.ofNat (n * 8)).value % 8 = 0
      rw [Varint.value_ofNat]
      omega
  | double bits =>
      refine ⟨?_, trivial⟩
      change (Varint.ofNat (n * 8 + 1)).value % 8 = 1
      rw [Varint.value_ofNat]
      omega
  | bytes raw =>
      refine ⟨?_, Varint.value_ofNat _⟩
      change (Varint.ofNat (n * 8 + 2)).value % 8 = 2
      rw [Varint.value_ofNat]
      omega

theorem python_entry_toField (item : ℕ × WireValue ℕ) :
    Python.entry (toField item) = ((item.1 : ℤ), item.2) := by
  obtain ⟨n, value⟩ := item
  cases value with
  | integer value =>
      simp only [Python.entry, toField, Varint.value_ofNat, Datum.toValue, Prod.mk.injEq,
        Nat.cast_inj, and_true]
      omega
  | double bits =>
      simp only [Python.entry, toField, Varint.value_ofNat, Datum.toValue, Prod.mk.injEq,
        Nat.cast_inj, float64FromBytes_spell, and_true]
      omega
  | bytes raw =>
      simp only [Python.entry, toField, Varint.value_ofNat, Datum.toValue, Prod.mk.injEq,
        Nat.cast_inj, and_true]
      omega

/-- The message of the items. -/
def messageOf (items : List (ℕ × WireValue ℕ)) : Python.Message :=
  ⟨items.map fun item => ((item.1 : ℤ), item.2)⟩

theorem python_decode_written (items : List (ℕ × WireValue ℕ)) :
    Python.decodeMessage (written items) = .ok (messageOf items) := by
  refine (python_ok_iff _ _).mpr ⟨items.map toField, ?_, rfl, ?_⟩
  · intro f hf
    obtain ⟨item, -, rfl⟩ := List.mem_map.mp hf
    exact natural_fits_toField item
  · rw [messageOf, List.map_map]
    exact List.map_congr_left fun item _ => (python_entry_toField item).symm

theorem small_toField {item : ℕ × WireValue ℕ} (hnumber : item.1 < 2 ^ 28)
    (hinteger : ∀ value, item.2 = .integer value → value < 2 ^ 64) : Small (toField item) := by
  obtain ⟨n, value⟩ := item
  have hn : n < 2 ^ 28 := hnumber
  cases value with
  | integer value =>
      refine ⟨?_, ?_⟩
      · change (Varint.ofNat (n * 8)).value < 2 ^ 31
        rw [Varint.value_ofNat]
        omega
      · change (Varint.ofNat value).value < 2 ^ 64
        rw [Varint.value_ofNat]
        exact hinteger value rfl
  | double bits =>
      refine ⟨?_, trivial⟩
      change (Varint.ofNat (n * 8 + 1)).value < 2 ^ 31
      rw [Varint.value_ofNat]
      omega
  | bytes raw =>
      refine ⟨?_, trivial⟩
      change (Varint.ofNat (n * 8 + 2)).value < 2 ^ 31
      rw [Varint.value_ofNat]
      omega

theorem kotlin_value_toField {item : ℕ × WireValue ℕ}
    (hinteger : ∀ value, item.2 = .integer value → value < 2 ^ 64) :
    (Kotlin.entry (toField item)).2 = item.2.map (BitVec.ofNat 64) := by
  obtain ⟨n, value⟩ := item
  cases value with
  | integer value =>
      have hlt : (Varint.ofNat value).value < 2 ^ 64 := by
        rw [Varint.value_ofNat]
        exact hinteger value rfl
      change WireValue.integer (jvmLong (Varint.ofNat value) 0) = _
      rw [jvmLong_of_lt hlt, Varint.value_ofNat]
      rfl
  | double bits => exact congrArg WireValue.double (float64FromBytes_spell bits)
  | bytes raw => rfl

theorem kotlin_decode_written {items : List (ℕ × WireValue ℕ)}
    (hlen : (written items).length < 2 ^ 31) (hnumber : ∀ item ∈ items, item.1 < 2 ^ 28)
    (hinteger : ∀ item ∈ items, ∀ value, item.2 = .integer value → value < 2 ^ 64) :
    Kotlin.decode (written items) =
      .ok ⟨items.map fun item => ((item.1 : ℤ), item.2.map (BitVec.ofNat 64))⟩ := by
  have hsmall : ∀ item ∈ items, Small (toField item) := fun item hitem =>
    small_toField (hnumber item hitem) (hinteger item hitem)
  refine (kotlin_ok_iff ⟨written items, hlen⟩ _).mpr ⟨items.map toField, ?_, rfl, ?_⟩
  · intro f hf
    obtain ⟨item, hitem, rfl⟩ := List.mem_map.mp hf
    exact (fits_of_small hlen hf (natural_fits_toField item) (hsmall item hitem)).2
  · rw [List.map_map]
    apply List.map_congr_left
    intro item hitem
    have hnum : (Kotlin.entry (toField item)).1 = (Python.entry (toField item)).1 :=
      kotlin_number (hsmall item hitem).1
    rw [python_entry_toField] at hnum
    exact (Prod.ext hnum (kotlin_value_toField (hinteger item hitem))).symm

/-! ## Looking values up -/

/-- The values that were written under a field number. -/
def valuesUnder (items : List (ℕ × WireValue ℕ)) (fieldNumber : ℕ) : List (WireValue ℕ) :=
  items.filterMap fun item => if item.1 = fieldNumber then some item.2 else none

@[simp] theorem valuesUnder_nil (fieldNumber : ℕ) : valuesUnder [] fieldNumber = [] := rfl

@[simp] theorem valuesUnder_cons (n : ℕ) (value : WireValue ℕ) (items : List (ℕ × WireValue ℕ))
    (fieldNumber : ℕ) : valuesUnder ((n, value) :: items) fieldNumber =
      if n = fieldNumber then value :: valuesUnder items fieldNumber
      else valuesUnder items fieldNumber := by
  rw [valuesUnder, List.filterMap_cons]
  split_ifs with h
  · rfl
  · rfl

@[simp] theorem valuesUnder_append (items items' : List (ℕ × WireValue ℕ)) (fieldNumber : ℕ) :
    valuesUnder (items ++ items') fieldNumber =
      valuesUnder items fieldNumber ++ valuesUnder items' fieldNumber :=
  List.filterMap_append

@[simp] theorem valuesUnder_map {α : Type*} (n : ℕ) (value : α → WireValue ℕ) (xs : List α)
    (fieldNumber : ℕ) : valuesUnder (xs.map fun x => (n, value x)) fieldNumber =
      if n = fieldNumber then xs.map value else [] := by
  rw [valuesUnder, List.filterMap_map]
  split_ifs with h
  · simp [h]
  · simp [h]

@[simp] theorem values_messageOf (items : List (ℕ × WireValue ℕ)) (fieldNumber : ℕ) :
    (messageOf items).values fieldNumber = valuesUnder items fieldNumber := by
  rw [WireMessage.values, messageOf, List.filterMap_map, valuesUnder]
  apply List.filterMap_congr
  intro item _
  simp only [Function.comp_apply, Nat.cast_inj]

theorem values_kotlin (items : List (ℕ × WireValue ℕ)) (fieldNumber : ℕ) :
    (⟨items.map fun item => ((item.1 : ℤ), item.2.map (BitVec.ofNat 64))⟩ :
      Kotlin.Message).values fieldNumber =
        (valuesUnder items fieldNumber).map (WireValue.map (BitVec.ofNat 64)) := by
  rw [← values_messageOf]
  refine (values_map (BitVec.ofNat 64) ?_ _).symm
  rw [messageOf, List.map_map]
  rfl

end GcsSaker.ProtobufWire
