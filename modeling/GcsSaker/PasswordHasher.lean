import GcsSaker.Base64
import GcsSaker.Decimal
import GcsSaker.GroupHierarchy

/-!
# Password hashes

`PasswordHasher` writes the scheme, the number of iterations, the salt and the derived key with `$`
between them. PBKDF2 itself is the platform's: `deriveKey` stands for it and may throw.
-/

namespace GcsSaker

/-- The password, the salt, the iterations and the length of the key in bits. -/
abbrev DeriveKey := String → List UInt8 → ℤ → ℕ → Except Groups.Thrown (List UInt8)

structure PasswordHasher where
  iterations : ℕ
  keyLength : ℕ
  isInt : iterations < 2 ^ 31

namespace PasswordHasher

def standard : PasswordHasher := ⟨210000, 256, by decide⟩

def scheme : String := "pbkdf2-sha256"

def joinFields (fields : List String) : String :=
  String.ofList (['$'].intercalate (fields.map String.toList))

def splitFields (encoded : String) : List String :=
  (encoded.toList.splitOn '$').map String.ofList

def toIntOrNull (text : String) : Option ℤ :=
  (Decimal.parse text).filter fun n => -2 ^ 31 ≤ n ∧ n < 2 ^ 31

def hash (hasher : PasswordHasher) (deriveKey : DeriveKey) (salt : List UInt8) (password : String) :
    Except Groups.Thrown String := do
  Groups.require (JvmText.isBlank password = false) "password must not be blank"
  let derived ← deriveKey password salt hasher.iterations hasher.keyLength
  return joinFields [scheme, hasher.iterations.repr, Base64.encodePadded salt,
    Base64.encodePadded derived]

def verify (hasher : PasswordHasher) (deriveKey : DeriveKey) (password encoded : String) :
    Except Groups.Thrown Bool :=
  match splitFields encoded with
  | [name, iterations, salt, expected] =>
    if name ≠ scheme then .ok false
    else match toIntOrNull iterations, Base64.decodePadded salt, Base64.decodePadded expected with
      | some iterations, some salt, some expected => do
        let actual ← deriveKey password salt iterations hasher.keyLength
        return decide (expected = actual)
      | _, _, _ => .ok false
  | _ => .ok false

theorem splitFields_joinFields {fields : List String} (hne : fields ≠ [])
    (h : ∀ field ∈ fields, '$' ∉ field.toList) : splitFields (joinFields fields) = fields :=
  JvmText.split_joinToString '$' hne h

theorem toIntOrNull_repr {n : ℕ} (hn : n < 2 ^ 31) : toIntOrNull n.repr = some (n : ℤ) := by
  have hrange : -2 ^ 31 ≤ (n : ℤ) ∧ (n : ℤ) < 2 ^ 31 := by omega
  rw [toIntOrNull, Decimal.parse_natRepr, Option.filter_some, if_pos (decide_eq_true hrange)]

theorem notMem_natRepr (n : ℕ) : '$' ∉ n.repr.toList := by
  rw [Nat.toList_repr]
  intro h
  exact absurd (Nat.isDigit_of_mem_toDigits (by decide) (by decide) h) (by decide)

theorem hash_eq_ok_iff {hasher : PasswordHasher} {deriveKey : DeriveKey} {salt : List UInt8}
    {password encoded : String} :
    hasher.hash deriveKey salt password = .ok encoded ↔
      JvmText.isBlank password = false ∧ ∃ derived,
        deriveKey password salt hasher.iterations hasher.keyLength = .ok derived ∧
          joinFields [scheme, hasher.iterations.repr, Base64.encodePadded salt,
            Base64.encodePadded derived] = encoded := by
  rw [hash, CheckedSteps.check_bind_eq_ok_iff, Groups.require_eq_ok_iff,
    CheckedSteps.bind_eq_ok_iff]
  simp only [pure, Except.pure, Except.ok.injEq]

/-- A hash is not blank: it begins with the scheme. -/
theorem isBlank_hash {hasher : PasswordHasher} {deriveKey : DeriveKey} {salt : List UInt8}
    {password encoded : String} (h : hasher.hash deriveKey salt password = .ok encoded) :
    JvmText.isBlank encoded = false := by
  obtain ⟨-, derived, -, rfl⟩ := hash_eq_ok_iff.1 h
  rw [JvmText.isBlank, joinFields, String.toList_ofList, List.map_cons, List.map_cons,
    List.intercalate_cons_cons, List.all_append, List.all_append]
  have hscheme : scheme.toList.all JvmText.isWhitespace = false := by decide
  rw [hscheme, Bool.false_and, Bool.false_and]

/-- The password that was hashed verifies against its hash, whatever the salt. -/
theorem verify_hash {hasher : PasswordHasher} {deriveKey : DeriveKey} {salt : List UInt8}
    {password encoded : String} (h : hasher.hash deriveKey salt password = .ok encoded) :
    hasher.verify deriveKey password encoded = .ok true := by
  obtain ⟨-, derived, hderived, rfl⟩ := hash_eq_ok_iff.1 h
  have hfields : ∀ field ∈ [scheme, hasher.iterations.repr, Base64.encodePadded salt,
      Base64.encodePadded derived], '$' ∉ field.toList := by
    simp only [List.forall_mem_cons, List.not_mem_nil, false_implies, implies_true, and_true]
    exact ⟨by decide, notMem_natRepr _, Base64.notMem_encodePadded salt,
      Base64.notMem_encodePadded derived⟩
  rw [verify, splitFields_joinFields (List.cons_ne_nil _ _) hfields]
  simp only [ne_eq, not_true_eq_false, if_false, toIntOrNull_repr hasher.isInt,
    Base64.decodePadded_encodePadded, hderived]
  exact congrArg Except.ok (decide_eq_true rfl)

end PasswordHasher

end GcsSaker
