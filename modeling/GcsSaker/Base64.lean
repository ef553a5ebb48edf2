import GcsSaker.CheckedSteps
import Mathlib.Data.List.TakeWhile

/-!
# Base64

Three bytes make four characters; one or two bytes at the end make two or three. Bits left over in
the last character are dropped when decoding. `encode` and `decode` are Go's, unpadded and with the
URL alphabet, and skip line breaks. `encodePadded` and `decodePadded` are Java's basic ones, which
fill the last four characters with `=`. `decodeUrl` is Java's for the URL alphabet.
-/

namespace GcsSaker.Base64

def alphabet : List Char :=
  "ABCDEFGHIJKLMNOPQRSTUVWXYZabcdefghijklmnopqrstuvwxyz0123456789-_".toList

def sextetChar (n : ℕ) : Char := alphabet.getD n 'A'

def charSextet (c : Char) : Option ℕ := alphabet.idxOf? c

/-- The sextets of a list of bytes, both as numbers. -/
def sextets : List ℕ → List ℕ
  | [] => []
  | [a] => [a / 4, a % 4 * 16]
  | [a, b] => [a / 4, a % 4 * 16 + b / 16, b % 16 * 4]
  | a :: b :: c :: rest =>
    a / 4 :: (a % 4 * 16 + b / 16) :: (b % 16 * 4 + c / 64) :: c % 64 :: sextets rest

/-- The bytes of a list of sextets, unless a single one is left over. -/
def octets : List ℕ → Option (List ℕ)
  | [] => some []
  | [_] => none
  | [p, q] => some [p * 4 + q / 16]
  | [p, q, r] => some [p * 4 + q / 16, q % 16 * 16 + r / 4]
  | p :: q :: r :: s :: rest => (octets rest).map fun bytes =>
    (p * 4 + q / 16) :: (q % 16 * 16 + r / 4) :: (r % 4 * 64 + s) :: bytes

def encode (bytes : List UInt8) : String :=
  String.ofList ((sextets (bytes.map UInt8.toNat)).map sextetChar)

def isLineBreak (c : Char) : Bool := c == '\r' || c == '\n'

def decode (text : String) : Option (List UInt8) :=
  ((text.toList.filter fun c => !isLineBreak c).mapM charSextet).bind fun values =>
    (octets values).map fun bytes => bytes.map UInt8.ofNat

def basicAlphabet : List Char :=
  "ABCDEFGHIJKLMNOPQRSTUVWXYZabcdefghijklmnopqrstuvwxyz0123456789+/".toList

def basicChar (n : ℕ) : Char := basicAlphabet.getD n 'A'

def basicSextet (c : Char) : Option ℕ := basicAlphabet.idxOf? c

/-- What fills the last unit of `length` characters. -/
def padding (length : ℕ) : List Char :=
  if length % 4 = 2 then ['=', '='] else if length % 4 = 3 then ['='] else []

def encodePadded (bytes : List UInt8) : String :=
  let chars := (sextets (bytes.map UInt8.toNat)).map basicChar
  String.ofList (chars ++ padding chars.length)

/-- Java reads unpadded text too. -/
def decodePadded (text : String) : Option (List UInt8) :=
  let chars := text.toList.takeWhile (· ≠ '=')
  let rest := text.toList.dropWhile (· ≠ '=')
  if rest = [] ∨ rest = padding chars.length then
    (chars.mapM basicSextet).bind fun values =>
      (octets values).map fun bytes => bytes.map UInt8.ofNat
  else none

/-- Java reads padded text too. -/
def decodeUrl (text : String) : Option (List UInt8) :=
  let chars := text.toList.takeWhile (· ≠ '=')
  let rest := text.toList.dropWhile (· ≠ '=')
  if rest = [] ∨ rest = padding chars.length then
    (chars.mapM charSextet).bind fun values =>
      (octets values).map fun bytes => bytes.map UInt8.ofNat
  else none

theorem charSextet_sextetChar {n : ℕ} (hn : n < 64) : charSextet (sextetChar n) = some n := by
  have hall : ∀ k < 64, charSextet (sextetChar k) = some k := by decide +kernel
  exact hall n hn

theorem sextetChar_not_lineBreak {n : ℕ} (hn : n < 64) : isLineBreak (sextetChar n) = false := by
  have hall : ∀ k < 64, isLineBreak (sextetChar k) = false := by decide +kernel
  exact hall n hn

theorem sextets_lt {bytes : List ℕ} (h : ∀ b ∈ bytes, b < 256) : ∀ n ∈ sextets bytes, n < 64 := by
  induction bytes using sextets.induct with
  | case1 =>
      intro n hn
      cases hn
  | case2 a =>
      have ha := h a List.mem_cons_self
      simp only [sextets, List.forall_mem_cons, List.not_mem_nil, false_implies, implies_true,
        and_true]
      omega
  | case3 a b =>
      have ha := h a List.mem_cons_self
      have hb := h b (by simp)
      simp only [sextets, List.forall_mem_cons, List.not_mem_nil, false_implies, implies_true,
        and_true]
      omega
  | case4 a b c rest ih =>
      simp only [List.forall_mem_cons] at h
      obtain ⟨ha, hb, hc, hrest⟩ := h
      simp only [sextets, List.forall_mem_cons]
      exact ⟨by omega, by omega, by omega, by omega, ih hrest⟩

theorem octets_sextets {bytes : List ℕ} (h : ∀ b ∈ bytes, b < 256) :
    octets (sextets bytes) = some bytes := by
  induction bytes using sextets.induct with
  | case1 => rfl
  | case2 a =>
      simp only [sextets, octets, Option.some.injEq, List.cons.injEq, and_true]
      omega
  | case3 a b =>
      have hb := h b (by simp)
      simp only [sextets, octets, Option.some.injEq, List.cons.injEq, and_true]
      omega
  | case4 a b c rest ih =>
      simp only [List.forall_mem_cons] at h
      obtain ⟨ha, hb, hc, hrest⟩ := h
      simp only [sextets, octets, ih hrest, Option.map_some, Option.some.injEq, List.cons.injEq,
        and_true]
      omega

theorem mapM_charSextet {values : List ℕ} (h : ∀ n ∈ values, n < 64) :
    (values.map sextetChar).mapM charSextet = some values :=
  CheckedSteps.mapM_map_pure fun n hn => charSextet_sextetChar (h n hn)

theorem ofNat_octets (bytes : List UInt8) :
    (octets (sextets (bytes.map UInt8.toNat))).map (fun values => values.map UInt8.ofNat) =
      some bytes := by
  have hbytes : ∀ b ∈ bytes.map UInt8.toNat, b < 256 := by
    intro b hb
    obtain ⟨x, -, rfl⟩ := List.mem_map.mp hb
    exact x.toNat_lt
  rw [octets_sextets hbytes, Option.map_some, List.map_map, Option.some.injEq]
  calc bytes.map (UInt8.ofNat ∘ UInt8.toNat) = bytes.map id :=
        List.map_congr_left fun b _ => UInt8.ofNat_toNat
    _ = bytes := List.map_id bytes

theorem sextets_toNat_lt (bytes : List UInt8) :
    ∀ n ∈ sextets (bytes.map UInt8.toNat), n < 64 := by
  apply sextets_lt
  intro b hb
  obtain ⟨x, -, rfl⟩ := List.mem_map.mp hb
  exact x.toNat_lt

/-- What was encoded is decoded to itself. -/
theorem decode_encode (bytes : List UInt8) : decode (encode bytes) = some bytes := by
  have hsextets := sextets_toNat_lt bytes
  have hfilter : ((sextets (bytes.map UInt8.toNat)).map sextetChar).filter
      (fun c => !isLineBreak c) = (sextets (bytes.map UInt8.toNat)).map sextetChar := by
    apply List.filter_eq_self.mpr
    intro c hc
    obtain ⟨n, hn, rfl⟩ := List.mem_map.mp hc
    rw [sextetChar_not_lineBreak (hsextets n hn), Bool.not_false]
  rw [decode, encode, String.toList_ofList, hfilter, mapM_charSextet hsextets, Option.bind_some,
    ofNat_octets]

theorem decodeUrl_encode (bytes : List UInt8) : decodeUrl (encode bytes) = some bytes := by
  have hlt := sextets_toNat_lt bytes
  have hplain : ∀ c ∈ (sextets (bytes.map UInt8.toNat)).map sextetChar,
      decide (c ≠ '=') = true := by
    have hall : ∀ k < 64, sextetChar k ≠ '=' := by decide +kernel
    intro c hc
    obtain ⟨n, hn, rfl⟩ := List.mem_map.mp hc
    exact decide_eq_true (hall n (hlt n hn))
  unfold decodeUrl encode
  simp only
  rw [String.toList_ofList, List.takeWhile_eq_self_iff.2 hplain,
    List.dropWhile_eq_nil_iff.2 hplain, if_pos (Or.inl rfl), mapM_charSextet hlt,
    Option.bind_some, ofNat_octets]

theorem basicSextet_basicChar {n : ℕ} (hn : n < 64) : basicSextet (basicChar n) = some n := by
  have hall : ∀ k < 64, basicSextet (basicChar k) = some k := by decide +kernel
  exact hall n hn

theorem basicChar_ne {n : ℕ} (hn : n < 64) : basicChar n ≠ '=' ∧ basicChar n ≠ '$' := by
  have hall : ∀ k < 64, basicChar k ≠ '=' ∧ basicChar k ≠ '$' := by decide +kernel
  exact hall n hn

theorem padding_span (length : ℕ) :
    (padding length).takeWhile (· ≠ '=') = [] ∧
      (padding length).dropWhile (· ≠ '=') = padding length := by
  unfold padding
  split_ifs
  · exact ⟨rfl, rfl⟩
  · exact ⟨rfl, rfl⟩
  · exact ⟨rfl, rfl⟩

theorem decodePadded_encodePadded (bytes : List UInt8) :
    decodePadded (encodePadded bytes) = some bytes := by
  have hlt := sextets_toNat_lt bytes
  have hplain : ∀ c ∈ (sextets (bytes.map UInt8.toNat)).map basicChar,
      decide (c ≠ '=') = true := by
    intro c hc
    obtain ⟨n, hn, rfl⟩ := List.mem_map.mp hc
    exact decide_eq_true (basicChar_ne (hlt n hn)).1
  have hvalues : ((sextets (bytes.map UInt8.toNat)).map basicChar).mapM basicSextet =
      some (sextets (bytes.map UInt8.toNat)) :=
    CheckedSteps.mapM_map_pure fun n hn => basicSextet_basicChar (hlt n hn)
  obtain ⟨htake, hdrop⟩ := padding_span ((sextets (bytes.map UInt8.toNat)).map basicChar).length
  unfold decodePadded encodePadded
  simp only
  rw [String.toList_ofList, List.takeWhile_append_of_pos hplain,
    List.dropWhile_append_of_pos hplain, htake, hdrop, List.append_nil, if_pos (Or.inr rfl),
    hvalues, Option.bind_some, ofNat_octets]

/-- No character of an encoding separates fields. -/
theorem notMem_encodePadded (bytes : List UInt8) : '$' ∉ (encodePadded bytes).toList := by
  unfold encodePadded
  simp only
  rw [String.toList_ofList, List.mem_append, not_or]
  constructor
  · intro hc
    obtain ⟨n, hn, hdollar⟩ := List.mem_map.mp hc
    exact (basicChar_ne (sextets_toNat_lt bytes n hn)).2 hdollar
  · unfold padding
    split_ifs
    · decide
    · decide
    · decide

theorem encode_injective : Function.Injective encode := by
  intro bytes bytes' h
  have hdecode := congrArg decode h
  rwa [decode_encode, decode_encode, Option.some.injEq] at hdecode

theorem encode_eq_empty_iff {bytes : List UInt8} : encode bytes = "" ↔ bytes = [] :=
  ⟨fun h => encode_injective (h.trans (show "" = encode [] by decide)),
    fun h => h ▸ (by decide)⟩

end GcsSaker.Base64
