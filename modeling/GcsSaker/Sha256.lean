import Mathlib.Algebra.Group.Nat.Defs
import Mathlib.Data.List.Basic

/-!
# SHA-256

The digest of a sequence of bytes, and its spelling in lower-case hexadecimal digits.
-/

namespace GcsSaker.Sha256

/-- The eight words of the chaining state. -/
structure Words where
  a : UInt32
  b : UInt32
  c : UInt32
  d : UInt32
  e : UInt32
  f : UInt32
  g : UInt32
  h : UInt32

def Words.toList (s : Words) : List UInt32 := [s.a, s.b, s.c, s.d, s.e, s.f, s.g, s.h]

def Words.add (s t : Words) : Words :=
  ⟨s.a + t.a, s.b + t.b, s.c + t.c, s.d + t.d, s.e + t.e, s.f + t.f, s.g + t.g, s.h + t.h⟩

def initial : Words :=
  ⟨0x6a09e667, 0xbb67ae85, 0x3c6ef372, 0xa54ff53a, 0x510e527f, 0x9b05688c, 0x1f83d9ab, 0x5be0cd19⟩

def constants : List UInt32 :=
  [0x428a2f98, 0x71374491, 0xb5c0fbcf, 0xe9b5dba5, 0x3956c25b, 0x59f111f1, 0x923f82a4, 0xab1c5ed5,
    0xd807aa98, 0x12835b01, 0x243185be, 0x550c7dc3, 0x72be5d74, 0x80deb1fe, 0x9bdc06a7, 0xc19bf174,
    0xe49b69c1, 0xefbe4786, 0x0fc19dc6, 0x240ca1cc, 0x2de92c6f, 0x4a7484aa, 0x5cb0a9dc, 0x76f988da,
    0x983e5152, 0xa831c66d, 0xb00327c8, 0xbf597fc7, 0xc6e00bf3, 0xd5a79147, 0x06ca6351, 0x14292967,
    0x27b70a85, 0x2e1b2138, 0x4d2c6dfc, 0x53380d13, 0x650a7354, 0x766a0abb, 0x81c2c92e, 0x92722c85,
    0xa2bfe8a1, 0xa81a664b, 0xc24b8b70, 0xc76c51a3, 0xd192e819, 0xd6990624, 0xf40e3585, 0x106aa070,
    0x19a4c116, 0x1e376c08, 0x2748774c, 0x34b0bcb5, 0x391c0cb3, 0x4ed8aa4a, 0x5b9cca4f, 0x682e6ff3,
    0x748f82ee, 0x78a5636f, 0x84c87814, 0x8cc70208, 0x90befffa, 0xa4506ceb, 0xbef9a3f7, 0xc67178f2]

def rotr (n x : UInt32) : UInt32 := (x >>> n) ||| (x <<< (32 - n))

def smallSigma0 (x : UInt32) : UInt32 := rotr 7 x ^^^ rotr 18 x ^^^ (x >>> 3)

def smallSigma1 (x : UInt32) : UInt32 := rotr 17 x ^^^ rotr 19 x ^^^ (x >>> 10)

def bigSigma0 (x : UInt32) : UInt32 := rotr 2 x ^^^ rotr 13 x ^^^ rotr 22 x

def bigSigma1 (x : UInt32) : UInt32 := rotr 6 x ^^^ rotr 11 x ^^^ rotr 25 x

def choose (x y z : UInt32) : UInt32 := (x &&& y) ^^^ (~~~x &&& z)

def majority (x y z : UInt32) : UInt32 := (x &&& y) ^^^ (x &&& z) ^^^ (y &&& z)

def round (s : Words) (constant word : UInt32) : Words :=
  let t := s.h + bigSigma1 s.e + choose s.e s.f s.g + constant + word
  ⟨t + bigSigma0 s.a + majority s.a s.b s.c, s.a, s.b, s.c, s.d + t, s.e, s.f, s.g⟩

/-- The rounds of a block; `window` holds the next sixteen words of the message schedule. -/
def rounds : List UInt32 → List UInt32 → Words → Words
  | constant :: rest, word :: window, s =>
    let next := smallSigma1 (window.getD 13 0) + window.getD 8 0 + smallSigma0 (window.getD 0 0) +
      word
    rounds rest (window ++ [next]) (round s constant word)
  | _, _, s => s

/-- Four bytes a word, the most significant first. -/
def words : List UInt8 → List UInt32
  | w :: x :: y :: z :: rest =>
    (w.toUInt32 <<< 24 ||| x.toUInt32 <<< 16 ||| y.toUInt32 <<< 8 ||| z.toUInt32) :: words rest
  | _ => []

def compress (s : Words) (block : List UInt8) : Words :=
  s.add (rounds constants (words block) s)

def blocks : ℕ → List UInt8 → List (List UInt8)
  | 0, _ => []
  | n + 1, bytes => bytes.take 64 :: blocks n (bytes.drop 64)

/-- The last `n` bytes of a number, the most significant first. -/
def bigEndian : ℕ → ℕ → List UInt8
  | 0, _ => []
  | n + 1, value => bigEndian n (value / 256) ++ [UInt8.ofNat value]

def padded (message : List UInt8) : List UInt8 :=
  message ++ 0x80 :: List.replicate ((119 - message.length % 64) % 64) 0 ++
    bigEndian 8 (8 * message.length)

def digest (message : List UInt8) : List UInt8 :=
  ((blocks ((padded message).length / 64) (padded message)).foldl compress initial).toList.flatMap
    fun word => bigEndian 4 word.toNat

def hexByte (byte : UInt8) : List Char :=
  [Nat.digitChar (byte.toNat / 16), Nat.digitChar (byte.toNat % 16)]

def hex (bytes : List UInt8) : String := String.ofList (bytes.flatMap hexByte)

/-- HMAC with the digest. -/
def hmac (key message : List UInt8) : List UInt8 :=
  let short := if 64 < key.length then digest key else key
  let block := short ++ List.replicate (64 - short.length) 0
  digest (block.map (· ^^^ 0x5c) ++ digest (block.map (· ^^^ 0x36) ++ message))

example : hex (digest [97, 98, 99]) =
    "ba7816bf8f01cfea414140de5dae2223b00361a396177a9cb410ff61f20015ad" := by
  decide +kernel

example : hex (digest []) =
    "e3b0c44298fc1c149afbf4c8996fb92427ae41e4649b934ca495991b7852b855" := by
  decide +kernel

example : hex (hmac [74, 101, 102, 101] [119, 104, 97, 116, 32, 100, 111, 32, 121, 97, 32, 119, 97,
    110, 116, 32, 102, 111, 114, 32, 110, 111, 116, 104, 105, 110, 103, 63]) =
    "5bdcc146bf60754e6a042426089575c75a003f089d2739839dec58b964ec3843" := by
  decide +kernel

theorem length_bigEndian (n value : ℕ) : (bigEndian n value).length = n := by
  induction n generalizing value with
  | zero => rfl
  | succ n ih => rw [bigEndian, List.length_append, ih, List.length_singleton]

theorem bigEndian_inj {n value value' : ℕ} (h : value < 256 ^ n) (h' : value' < 256 ^ n)
    (heq : bigEndian n value = bigEndian n value') : value = value' := by
  induction n generalizing value value' with
  | zero => omega
  | succ n ih =>
      simp only [bigEndian] at heq
      obtain ⟨hinit, hlast⟩ := List.append_inj' heq rfl
      have hdiv := ih (by omega) (by omega) hinit
      have hmod := congrArg UInt8.toNat (List.singleton_inj.1 hlast)
      simp only [UInt8.toNat_ofNat'] at hmod
      omega

theorem hexByte_inj {byte byte' : UInt8} (h : hexByte byte = hexByte byte') : byte = byte' := by
  have hdigit : ∀ d < 16, ∀ d' < 16, Nat.digitChar d = Nat.digitChar d' → d = d' := by decide
  have hb := byte.toNat_lt
  have hb' := byte'.toNat_lt
  simp only [hexByte, List.cons.injEq, and_true] at h
  have hhigh := hdigit _ (by omega) _ (by omega) h.1
  have hlow := hdigit _ (by omega) _ (by omega) h.2
  apply UInt8.toNat_inj.1
  omega

theorem hex_injective : Function.Injective hex := by
  have hlists : ∀ bytes bytes' : List UInt8, bytes.flatMap hexByte = bytes'.flatMap hexByte →
      bytes = bytes' := by
    intro bytes
    induction bytes with
    | nil =>
        intro bytes' h
        cases bytes' with
        | nil => rfl
        | cons byte' bytes' => exact absurd h (by simp [hexByte])
    | cons byte bytes ih =>
        intro bytes' h
        cases bytes' with
        | nil => exact absurd h (by simp [hexByte])
        | cons byte' bytes' =>
            rw [List.flatMap_cons, List.flatMap_cons] at h
            obtain ⟨hhead, htail⟩ := List.append_inj h rfl
            rw [hexByte_inj hhead, ih bytes' htail]
  intro bytes bytes' h
  exact hlists bytes bytes' (String.ofList_injective h)

theorem hexDigit_of_mem_hex {bytes : List UInt8} {c : Char} (h : c ∈ (hex bytes).toList) :
    c ∈ "0123456789abcdef".toList := by
  have hdigit : ∀ n : Fin 16, Nat.digitChar n ∈ "0123456789abcdef".toList := by decide
  rw [hex, String.toList_ofList] at h
  obtain ⟨byte, -, hbyte⟩ := List.mem_flatMap.1 h
  have hlt : byte.toNat < 256 := byte.toNat_lt
  simp only [hexByte, List.mem_cons, List.not_mem_nil, or_false] at hbyte
  rcases hbyte with rfl | rfl
  · exact hdigit ⟨byte.toNat / 16, by omega⟩
  · exact hdigit ⟨byte.toNat % 16, by omega⟩

theorem length_hex (bytes : List UInt8) : (hex bytes).toList.length = 2 * bytes.length := by
  rw [hex, String.toList_ofList]
  induction bytes with
  | nil => rfl
  | cons byte bytes ih =>
      rw [List.flatMap_cons, List.length_append, ih, List.length_cons, hexByte]
      simp only [List.length_cons, List.length_nil]
      omega

theorem length_digest (message : List UInt8) : (digest message).length = 32 := by
  simp only [digest, Words.toList, List.flatMap_cons, List.flatMap_nil, List.length_append,
    length_bigEndian, List.length_nil]

end GcsSaker.Sha256
