import GcsSaker.WireReadings

/-!
# Agreement of the wire decoders

The decoders agree on a payload whose keys and varints are small where it is a message, and on a
payload that is no message in any of the three readings as long as none of them fails otherwise.
-/

namespace GcsSaker.ProtobufWire

open WireFormat

/-- A byte string that fits in a JVM array, and so in all three services. -/
abbrev Payload : Type := {bytes : List UInt8 // bytes.length < 2 ^ 31}

/-- All accept, with the same values in the same order under every field number. Every length
prefix denotes what the field consumes, and every key the same field. -/
def AcceptedAlike (payload : List UInt8) (python : WireMessage ℕ) (go kotlin : WireMessage (BitVec 64)) :
    Prop :=
  (∀ n, (go.values n).map (WireValue.map BitVec.toNat) = python.values n ∧
    (kotlin.values n).map (WireValue.map BitVec.toNat) = python.values n) ∧
  ∃ fields, payload = spell fields ∧ python.entries = fields.map Python.entry ∧
    go.entries = fields.map Go.entry ∧ kotlin.entries = fields.map Kotlin.entry ∧
    ∀ f ∈ fields, natural.Measures f.datum ∧ (Go.entry f).1 = (Python.entry f).1 ∧
      (Kotlin.entry f).1 = (Python.entry f).1

/-- All three refuse the payload with their decode error, or all three accept it alike. -/
def OneFormat (payload : Payload) : Prop :=
  (∃ python go kotlin, Python.decodeMessage payload.1 = .error python ∧
    Go.decodeWireMessage payload.1 = .error (.error go) ∧
    Kotlin.decode payload.1 = .error (.illegalArgument kotlin)) ∨
  ∃ python go kotlin, Python.decodeMessage payload.1 = .ok python ∧
    Go.decodeWireMessage payload.1 = .ok go ∧ Kotlin.decode payload.1 = .ok kotlin ∧
    AcceptedAlike payload.1 python go kotlin

/-! ## The condition -/

/-- The key fits in a positive `Int` and a varint in 64 bits. -/
def Small (f : Field) : Prop :=
  f.key.value < 2 ^ 31 ∧ match f.datum with
    | .varint groups => groups.value < 2 ^ 64
    | _ => True

/-- After fields that Go reads, a length takes the cursor past the largest `int`. -/
def GoOverrun (payload : List UInt8) : Prop :=
  ∃ (fields : List Field) (key length : Varint) (rest : List UInt8),
    (∀ f ∈ fields, uint64.Fits f) ∧
    payload = spell fields ++ (key.spell ++ (length.spell ++ rest)) ∧ uint64.wireType key = 2 ∧
    2 ^ 63 ≤ payload.length - rest.length + length.value % 2 ^ 64

/-- After fields that Kotlin reads, a double begins within eight bytes of the largest `Int`. -/
def KotlinOverrun (payload : List UInt8) : Prop :=
  ∃ (fields : List Field) (key : Varint) (rest : List UInt8),
    (∀ f ∈ fields, jvm.Fits f) ∧ payload = spell fields ++ (key.spell ++ rest) ∧
    jvm.wireType key = 1 ∧ 2 ^ 31 ≤ payload.length - rest.length + 8

/-- The payload is a message with small keys and varints, or no message as the integers stand, nor
modulo `2 ^ 64`, nor as a `Long` makes them, and none of the decoders overruns. -/
def ReadAlike (payload : Payload) : Prop :=
  (∃ fields, payload.1 = spell fields ∧ ∀ f ∈ fields, natural.Fits f ∧ Small f) ∨
  (¬ natural.IsMessage payload.1 ∧ ¬ uint64.IsMessage payload.1 ∧ ¬ jvm.IsMessage payload.1 ∧
    ¬ GoOverrun payload.1 ∧ ¬ KotlinOverrun payload.1)

/-! ## What each decoder accepts -/

theorem map_mk_ok_iff {ι ε : Type*} {r : Except ε (List (ℤ × WireValue ι))} {m : WireMessage ι} :
    r.map WireMessage.mk = .ok m ↔ r = .ok m.entries := by
  cases r with
  | error e => simp only [Except.map, reduceCtorEq]
  | ok entries =>
      simp only [Except.map, Except.ok.injEq]
      constructor
      · rintro rfl
        rfl
      · rintro rfl
        rfl

theorem map_mk_error_iff {ι ε : Type*} {r : Except ε (List (ℤ × WireValue ι))} {e : ε} :
    r.map WireMessage.mk = .error e ↔ r = .error e := by
  cases r with
  | error e' => simp only [Except.map, Except.error.injEq]
  | ok entries => simp only [Except.map, reduceCtorEq]

theorem python_ok_iff (payload : List UInt8) (m : WireMessage ℕ) :
    Python.decodeMessage payload = .ok m ↔ ∃ fields, (∀ f ∈ fields, natural.Fits f) ∧
      payload = spell fields ∧ m.entries = fields.map Python.entry := by
  rw [Python.decodeMessage, map_mk_ok_iff]
  exact readFields_ok_iff (fun bytes _ => python_follows bytes) le_rfl le_rfl

theorem go_ok_iff (payload : Payload) (m : WireMessage (BitVec 64)) :
    Go.decodeWireMessage payload.1 = .ok m ↔ ∃ fields, (∀ f ∈ fields, uint64.Fits f) ∧
      payload.1 = spell fields ∧ m.entries = fields.map Go.entry := by
  rw [Go.decodeWireMessage, map_mk_ok_iff]
  exact readFields_ok_iff (fun bytes hb => go_follows payload.2 hb) le_rfl le_rfl

theorem kotlin_ok_iff (payload : Payload) (m : WireMessage (BitVec 64)) :
    Kotlin.decode payload.1 = .ok m ↔ ∃ fields, (∀ f ∈ fields, jvm.Fits f) ∧
      payload.1 = spell fields ∧ m.entries = fields.map Kotlin.entry := by
  rw [Kotlin.decode, map_mk_ok_iff]
  exact readFields_ok_iff (fun bytes hb => kotlin_follows payload.2 hb) le_rfl le_rfl

theorem go_panics_iff (payload : Payload) :
    (∃ text, Go.decodeWireMessage payload.1 = .error (.panic text)) ↔ GoOverrun payload.1 := by
  have herr : ∀ text, Go.decodeWireMessage payload.1 = .error (.panic text) ↔
      ∃ fields rest, (∀ f ∈ fields, uint64.Fits f) ∧ payload.1 = spell fields ++ rest ∧
        rest ≠ [] ∧ Go.decodeField payload.1.length rest = .error (.panic text) := by
    intro text
    rw [Go.decodeWireMessage, map_mk_error_iff]
    exact readFields_error_iff (fun bytes hb => go_follows payload.2 hb) le_rfl le_rfl
  constructor
  · rintro ⟨text, h⟩
    obtain ⟨fields, rest, hf, hp, -, hr⟩ := (herr text).mp h
    have hle : rest.length ≤ payload.1.length := by
      rw [hp, List.length_append]
      exact Nat.le_add_left _ _
    obtain ⟨key, length, rest', rfl, hty, hov⟩ := (go_panic_iff payload.2 hle).mp ⟨text, hr⟩
    exact ⟨fields, key, length, rest', hf, hp, hty, hov⟩
  · rintro ⟨fields, key, length, rest, hf, hp, hty, hov⟩
    have hle : (key.spell ++ (length.spell ++ rest)).length ≤ payload.1.length := by
      rw [hp, @List.length_append _ (spell fields)]
      exact Nat.le_add_left _ _
    obtain ⟨text, hr⟩ := (go_panic_iff payload.2 hle).mpr ⟨key, length, rest, rfl, hty, hov⟩
    exact ⟨text, (herr text).mpr ⟨fields, _, hf, hp, key.spell_append_ne_nil _, hr⟩⟩

theorem kotlin_throws_iff (payload : Payload) :
    Kotlin.decode payload.1 = .error .indexOutOfBounds ↔ KotlinOverrun payload.1 := by
  have herr : Kotlin.decode payload.1 = .error .indexOutOfBounds ↔
      ∃ fields rest, (∀ f ∈ fields, jvm.Fits f) ∧ payload.1 = spell fields ++ rest ∧
        rest ≠ [] ∧ Kotlin.decodeField payload.1.length rest = .error .indexOutOfBounds := by
    rw [Kotlin.decode, map_mk_error_iff]
    exact readFields_error_iff (fun bytes hb => kotlin_follows payload.2 hb) le_rfl le_rfl
  rw [herr]
  constructor
  · rintro ⟨fields, rest, hf, hp, -, hr⟩
    have hle : rest.length ≤ payload.1.length := by
      rw [hp, List.length_append]
      exact Nat.le_add_left _ _
    obtain ⟨key, rest', rfl, hty, hov⟩ := (kotlin_outOfBounds_iff payload.2 hle).mp hr
    exact ⟨fields, key, rest', hf, hp, hty, hov⟩
  · rintro ⟨fields, key, rest, hf, hp, hty, hov⟩
    have hle : (key.spell ++ rest).length ≤ payload.1.length := by
      rw [hp, @List.length_append _ (spell fields)]
      exact Nat.le_add_left _ _
    exact ⟨fields, _, hf, hp, key.spell_append_ne_nil _,
      (kotlin_outOfBounds_iff payload.2 hle).mpr ⟨key, rest, rfl, hty, hov⟩⟩

/-! ## Small fields -/

theorem content_length_le {fields : List Field} {f : Field} (hf : f ∈ fields) {length : Varint}
    {content : List UInt8} (hd : f.datum = .delimited length content) :
    content.length ≤ (spell fields).length := by
  induction fields with
  | nil => cases hf
  | cons g fields ih =>
      rw [spell_cons, List.length_append]
      rcases List.mem_cons.mp hf with rfl | hf
      · rw [Field.spell, hd, Datum.spell, List.length_append, List.length_append]
        omega
      · exact Nat.le_trans (ih hf) (Nat.le_add_left _ _)

theorem jvmLong_of_lt {v : Varint} (h : v.value < 2 ^ 64) : jvmLong v 0 = BitVec.ofNat 64 v.value := by
  have hj := jvmLong_eq v 0 (by rwa [pow_zero, Nat.mul_one])
  rwa [pow_zero, Nat.mul_one] at hj

theorem go_number {key : Varint} (h : key.value < 2 ^ 31) :
    (BitVec.ofNat 64 key.value >>> 3).toInt = ((key.value / 8 : ℕ) : ℤ) := by
  rw [BitVec.toInt_eq_toNat_cond, BitVec.toNat_ushiftRight, BitVec.toNat_ofNat,
    Nat.shiftRight_eq_div_pow, Nat.mod_eq_of_lt (by omega), if_pos (by omega)]

theorem kotlin_number {key : Varint} (h : key.value < 2 ^ 31) :
    (((jvmLong key 0).setWidth 32).sshiftRight 3).toInt = ((key.value / 8 : ℕ) : ℤ) := by
  have hcast : (((jvmLong key 0).setWidth 32).toInt) = (key.value : ℤ) := by
    rw [jvmLong_of_lt (by omega), BitVec.toInt_eq_toNat_cond, BitVec.toNat_setWidth,
      BitVec.toNat_ofNat, Nat.mod_mod_of_dvd _ (by decide), Nat.mod_eq_of_lt (by omega),
      if_pos (by omega)]
  rw [BitVec.toInt_sshiftRight, hcast, Int.shiftRight_eq_div_pow]
  rfl

theorem small_toValue {f : Field} (h : Small f) (integer : Varint → BitVec 64)
    (hi : ∀ v : Varint, v.value < 2 ^ 64 → integer v = BitVec.ofNat 64 v.value) :
    (Datum.toValue integer f.datum).map BitVec.toNat = Datum.toValue Varint.value f.datum := by
  obtain ⟨key, d⟩ := f
  cases d with
  | varint groups =>
      have hg : groups.value < 2 ^ 64 := h.2
      rw [Datum.toValue, WireValue.map, hi groups hg, BitVec.toNat_ofNat, Nat.mod_eq_of_lt hg]
      rfl
  | fixed64 raw sized => rfl
  | delimited length content => rfl

theorem measures_of_natural {d : Datum} (hm : natural.Measures d)
    (hlen : ∀ length content, d = .delimited length content → content.length < 2 ^ 31) :
    uint64.Measures d ∧ jvm.Measures d := by
  cases d with
  | varint groups => exact ⟨trivial, trivial⟩
  | fixed64 raw sized => exact ⟨trivial, trivial⟩
  | delimited length content =>
      have hle := hlen length content rfl
      have hv : length.value = content.length := hm
      have hj : jvm.size length = (BitVec.ofNat 64 length.value).toNat % 2 ^ 32 :=
        congrArg (fun x : BitVec 64 => x.toNat % 2 ^ 32) (jvmLong_of_lt (by omega))
      refine ⟨?_, ?_⟩
      · rw [Reading.Measures, ← hv]
        exact Nat.mod_eq_of_lt (by omega)
      · rw [Reading.Measures, hj, BitVec.toNat_ofNat, hv, Nat.mod_mod_of_dvd _ (by decide)]
        exact Nat.mod_eq_of_lt (by omega)

/-- The readings of a small field are one. -/
theorem fits_of_small {fields : List Field} (hlen : (spell fields).length < 2 ^ 31) {f : Field}
    (hf : f ∈ fields) (hfits : natural.Fits f) (hsmall : Small f) :
    uint64.Fits f ∧ jvm.Fits f := by
  have hkey := hsmall.1
  have hty : jvm.wireType f.key = natural.wireType f.key := by
    have hj : jvm.wireType f.key = (BitVec.ofNat 64 f.key.value).toNat % 8 :=
      congrArg (fun x : BitVec 64 => x.toNat % 8) (jvmLong_of_lt (by omega))
    rw [hj, BitVec.toNat_ofNat, Nat.mod_mod_of_dvd _ (by decide)]
    rfl
  obtain ⟨hgo, hkotlin⟩ := measures_of_natural hfits.2 fun length content hd =>
    lt_of_le_of_lt (content_length_le hf hd) hlen
  exact ⟨⟨hfits.1, hgo⟩, ⟨hty.trans hfits.1, hkotlin⟩⟩

/-! ## Values under a field number -/

theorem mem_values_iff {ι : Type*} {m : WireMessage ι} {n : ℤ} {v : WireValue ι} :
    v ∈ m.values n ↔ (n, v) ∈ m.entries := by
  rw [WireMessage.values, List.mem_filterMap]
  constructor
  · rintro ⟨e, he, hv⟩
    split_ifs at hv with hn
    cases hv
    rw [← hn]
    exact he
  · intro h
    exact ⟨(n, v), h, if_pos rfl⟩

theorem values_map {ι κ : Type*} (g : ι → κ) {m : WireMessage ι} {m' : WireMessage κ}
    (h : m.entries.map (fun e => (e.1, e.2.map g)) = m'.entries) (n : ℤ) :
    (m.values n).map (WireValue.map g) = m'.values n := by
  rw [WireMessage.values, WireMessage.values, ← h, List.filterMap_map, List.map_filterMap]
  apply List.filterMap_congr
  intro e _
  rw [Function.comp_apply, Option.map_if]

theorem kotlin_number_lt (f : Field) : (Kotlin.entry f).1 < 2 ^ 28 := by
  have hlt : ((jvmLong f.key 0).setWidth 32).toInt < 2 ^ 31 := BitVec.toInt_lt
  rw [Kotlin.entry, BitVec.toInt_sshiftRight, Int.shiftRight_eq_div_pow]
  omega

/-- Alike values are those of small fields. -/
theorem small_of_alike {payload : List UInt8} {python : WireMessage ℕ}
    {go kotlin : WireMessage (BitVec 64)} (h : AcceptedAlike payload python go kotlin)
    {fields : List Field} (he : python.entries = fields.map Python.entry) {f : Field}
    (hf : f ∈ fields) : Small f := by
  obtain ⟨hsame, fields', -, -, -, hkotlin, -⟩ := h
  have hmem : (Python.entry f).2 ∈ python.values (Python.entry f).1 := by
    rw [mem_values_iff, he]
    exact List.mem_map_of_mem hf
  constructor
  · rw [← (hsame _).2] at hmem
    obtain ⟨w, hw, -⟩ := List.mem_map.mp hmem
    rw [mem_values_iff, hkotlin] at hw
    obtain ⟨g, -, hg⟩ := List.mem_map.mp hw
    have hlt := kotlin_number_lt g
    rw [hg] at hlt
    have hnum : ((f.key.value / 8 : ℕ) : ℤ) < 2 ^ 28 := hlt
    omega
  · rw [← (hsame _).1] at hmem
    obtain ⟨w, -, hw⟩ := List.mem_map.mp hmem
    cases hd : f.datum with
    | fixed64 raw sized => trivial
    | delimited length content => trivial
    | varint groups =>
        have hv : w.map BitVec.toNat = .integer groups.value := by
          rw [hw, Python.entry, hd]
          rfl
        cases w with
        | double bits => cases hv
        | bytes raw => cases hv
        | integer x =>
            rw [WireValue.map, WireValue.integer.injEq] at hv
            exact lt_of_eq_of_lt hv.symm x.isLt

theorem alike_of_small {payload : List UInt8} {fields : List Field} (hp : payload = spell fields)
    (h : ∀ f ∈ fields, natural.Fits f ∧ Small f) :
    AcceptedAlike payload ⟨fields.map Python.entry⟩ ⟨fields.map Go.entry⟩
      ⟨fields.map Kotlin.entry⟩ := by
  refine ⟨fun n => ⟨values_map BitVec.toNat ?_ n, values_map BitVec.toNat ?_ n⟩,
    fields, hp, rfl, rfl, rfl, fun f hf => ⟨(h f hf).1.2, ?_, ?_⟩⟩
  · rw [List.map_map]
    refine List.map_congr_left fun f hf => ?_
    exact Prod.ext (go_number (h f hf).2.1) (small_toValue (h f hf).2 _ fun v _ => rfl)
  · rw [List.map_map]
    refine List.map_congr_left fun f hf => ?_
    exact Prod.ext (kotlin_number (h f hf).2.1)
      (small_toValue (h f hf).2 _ fun v hv => jvmLong_of_lt hv)
  · exact go_number (h f hf).2.1
  · exact kotlin_number (h f hf).2.1

/-! ## The agreement -/

theorem readAlike_of_oneFormat {payload : Payload} (h : OneFormat payload) : ReadAlike payload := by
  rcases h with ⟨e, e', e'', hpython, hgo, hkotlin⟩ | ⟨m, m', m'', hpython, hgo, hkotlin, halike⟩
  · refine Or.inr ⟨?_, ?_, ?_, ?_, ?_⟩
    · rintro ⟨fields, hf, hp⟩
      have hok := (python_ok_iff payload.1 ⟨_⟩).mpr ⟨fields, hf, hp, rfl⟩
      rw [hpython] at hok
      cases hok
    · rintro ⟨fields, hf, hp⟩
      have hok := (go_ok_iff payload ⟨_⟩).mpr ⟨fields, hf, hp, rfl⟩
      rw [hgo] at hok
      cases hok
    · rintro ⟨fields, hf, hp⟩
      have hok := (kotlin_ok_iff payload ⟨_⟩).mpr ⟨fields, hf, hp, rfl⟩
      rw [hkotlin] at hok
      cases hok
    · rw [← go_panics_iff, hgo]
      rintro ⟨text, ht⟩
      cases ht
    · rw [← kotlin_throws_iff, hkotlin]
      intro ht
      cases ht
  · obtain ⟨fields, hf, hp, he⟩ := (python_ok_iff payload.1 m).mp hpython
    exact Or.inl ⟨fields, hp, fun f hmem => ⟨hf f hmem, small_of_alike halike he hmem⟩⟩

theorem oneFormat_of_readAlike {payload : Payload} (h : ReadAlike payload) : OneFormat payload := by
  rcases h with ⟨fields, hp, hf⟩ | ⟨hpython, hgo, hkotlin, hpanic, hthrow⟩
  · have hfits := fun f hmem => fits_of_small (hp ▸ payload.2) hmem (hf f hmem).1 (hf f hmem).2
    refine Or.inr ⟨_, _, _, ?_, ?_, ?_, alike_of_small hp hf⟩
    · exact (python_ok_iff payload.1 _).mpr ⟨fields, fun f hmem => (hf f hmem).1, hp, rfl⟩
    · exact (go_ok_iff payload _).mpr ⟨fields, fun f hmem => (hfits f hmem).1, hp, rfl⟩
    · exact (kotlin_ok_iff payload _).mpr ⟨fields, fun f hmem => (hfits f hmem).2, hp, rfl⟩
  · refine Or.inl ?_
    cases hm : Python.decodeMessage payload.1 with
    | ok m =>
        obtain ⟨fields, hf, hp, -⟩ := (python_ok_iff payload.1 m).mp hm
        exact absurd ⟨fields, hf, hp⟩ hpython
    | error python =>
        cases hm' : Go.decodeWireMessage payload.1 with
        | ok m =>
            obtain ⟨fields, hf, hp, -⟩ := (go_ok_iff payload m).mp hm'
            exact absurd ⟨fields, hf, hp⟩ hgo
        | error failure =>
            cases hm'' : Kotlin.decode payload.1 with
            | ok m =>
                obtain ⟨fields, hf, hp, -⟩ := (kotlin_ok_iff payload m).mp hm''
                exact absurd ⟨fields, hf, hp⟩ hkotlin
            | error thrown =>
                cases failure with
                | panic text => exact absurd ((go_panics_iff payload).mp ⟨text, hm'⟩) hpanic
                | error go =>
                    cases thrown with
                    | indexOutOfBounds =>
                        exact absurd ((kotlin_throws_iff payload).mp hm'') hthrow
                    | illegalArgument kotlin => exact ⟨python, go, kotlin, rfl, rfl, rfl⟩

/-- The decoders agree on a byte string exactly when they read it alike. -/
theorem oneFormat_iff_readAlike (payload : Payload) : OneFormat payload ↔ ReadAlike payload :=
  ⟨readAlike_of_oneFormat, oneFormat_of_readAlike⟩

/-- A string of `2 ^ 64 - 1` bytes in field 1: Go panics on the slice. -/
def overlongString : Payload :=
  ⟨[0x0A, 0xFF, 0xFF, 0xFF, 0xFF, 0xFF, 0xFF, 0xFF, 0xFF, 0xFF, 0x01], by decide⟩

theorem overlongString_not_oneFormat :
    Go.decodeWireMessage overlongString.1 = .error (.panic "slice bounds out of range") ∧
      ¬ OneFormat overlongString := by
  have hgo : Go.decodeWireMessage overlongString.1 =
      .error (.panic "slice bounds out of range") := by decide +kernel
  refine ⟨hgo, ?_⟩
  rintro (⟨e, e', e'', -, h, -⟩ | ⟨m, m', m'', -, h, -⟩)
  · rw [hgo] at h
    cases h
  · rw [hgo] at h
    cases h

end GcsSaker.ProtobufWire
