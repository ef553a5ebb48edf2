import GcsSaker.AuthModels
import GcsSaker.Decimal
import GcsSaker.ExpiringStore

/-!
# Refresh sessions in Redis

`RedisRefreshSessionStore` keeps the principal of a refresh token under a key of the token, and the
keys of a user's tokens, one a line, under a key of the user. Redis is a store of strings whose
keys expire; each command is one step.
-/

namespace GcsSaker.RefreshSessions

open Groups (AuthenticatedPrincipal GroupId Thrown UserRole)

/-! ## Keys -/

/-- The SHA-256 digest of a string in UTF-8, and its lower case. -/
structure Platform where
  digest : String → List UInt8
  lowercase : String → String

def keyPrefix : String := "gcs-saker:auth-policy:refresh-session:"

def userIndexPrefix : String := keyPrefix ++ "user:"

/-- `"%02x".format(it)` -/
def hexByte (byte : UInt8) : List Char :=
  [Nat.digitChar (byte.toNat / 16), Nat.digitChar (byte.toNat % 16)]

namespace Platform

variable (platform : Platform)

def sha256 (value : String) : String := String.ofList ((platform.digest value).flatMap hexByte)

def cacheKey (refreshToken : String) : String := keyPrefix ++ platform.sha256 refreshToken

def userIndexKey (username : String) : String :=
  userIndexPrefix ++ platform.sha256 (platform.lowercase (JvmText.trim username))

end Platform

/-! ## Values -/

def encodeIndex (keys : List String) : String := JvmText.joinToString '\n' keys

/-- The set of the keys in the index, in their order; a key that stands twice is listed twice. -/
def decodeIndex (value : Option String) : List String :=
  value.elim [] fun text => (JvmText.lineSequence text).filter fun line =>
    keyPrefix.toList.isPrefixOf line.toList

/-- `decodeIndex(…) + tokenKey` -/
def addKey (keys : List String) (tokenKey : String) : List String :=
  if tokenKey ∈ keys then keys else keys ++ [tokenKey]

def roleName : UserRole → String
  | .viewer => "VIEWER"
  | .operator => "OPERATOR"
  | .groupAdmin => "GROUP_ADMIN"
  | .admin => "ADMIN"

/-- `UserRole.valueOf`, or nothing where it throws. -/
def roleOf (name : String) : Option UserRole :=
  [UserRole.viewer, .operator, .groupAdmin, .admin].find? fun role => roleName role = name

def encode (principal : AuthenticatedPrincipal) : String :=
  JvmText.joinToString '\t' [principal.username, roleName principal.role, principal.groupId.value,
    principal.securityVersion.repr]

/-- The constructor of `GroupId`. -/
def makeGroupId (value : String) : Except Thrown GroupId :=
  if h : JvmText.isBlank value = false then .ok ⟨value, h⟩
  else .error (.illegalArgument "group id must not be blank")

/-- The constructor of `AuthenticatedPrincipal`. -/
def makePrincipal (username : String) (role : UserRole) (groupId : GroupId)
    (securityVersion : ℤ) : Except Thrown AuthenticatedPrincipal :=
  if h : JvmText.isBlank username = false then
    if hversion : 0 < securityVersion.toNat then
      .ok ⟨username, role, groupId, securityVersion.toNat, h, hversion⟩
    else .error (.illegalArgument "security version must be positive")
  else .error (.illegalArgument "username must not be blank")

def decodeParts (username role groupId : String) (securityVersion : ℤ) :
    Except Thrown (Option AuthenticatedPrincipal) :=
  match roleOf role with
  | none => .ok none
  | some role => do
    let groupId ← makeGroupId groupId
    some <$> makePrincipal username role groupId securityVersion

def toLongOrNull (text : String) : Option ℤ :=
  (Decimal.parse text).filter fun n => -2 ^ 63 ≤ n ∧ n < 2 ^ 63

def decode (value : String) : Except Thrown (Option AuthenticatedPrincipal) :=
  match JvmText.split '\t' value with
  | [username, role, groupId] => decodeParts username role groupId 1
  | [username, role, groupId, securityVersion] =>
    decodeParts username role groupId ((toLongOrNull securityVersion).getD 1)
  | _ => .ok none

theorem roleOf_roleName (role : UserRole) : roleOf (roleName role) = some role := by
  cases role
  all_goals decide

theorem makeGroupId_value (groupId : GroupId) : makeGroupId groupId.value = .ok groupId :=
  dif_pos groupId.notBlank

theorem makePrincipal_self (principal : AuthenticatedPrincipal) :
    makePrincipal principal.username principal.role principal.groupId principal.securityVersion =
      .ok principal := by
  rw [makePrincipal, dif_pos principal.usernameNotBlank]
  exact dif_pos principal.securityVersionPositive

/-- What is written for a principal is read as that principal, if no name has a tab in it. -/
theorem decode_encode {principal : AuthenticatedPrincipal}
    (husername : '\t' ∉ principal.username.toList)
    (hgroup : '\t' ∉ principal.groupId.value.toList)
    (hversion : principal.securityVersion < 2 ^ 63) :
    decode (encode principal) = .ok (some principal) := by
  have hrole : '\t' ∉ (roleName principal.role).toList := by
    cases principal.role
    all_goals decide
  have hdigits : '\t' ∉ principal.securityVersion.repr.toList := by
    rw [Nat.toList_repr]
    intro htab
    exact absurd (Nat.isDigit_of_mem_toDigits (by decide) (by decide) htab) (by decide)
  have hplain : ∀ field ∈ [principal.username, roleName principal.role, principal.groupId.value,
      principal.securityVersion.repr], '\t' ∉ field.toList := by
    simp only [List.forall_mem_cons, List.not_mem_nil, false_imp_iff, implies_true, and_true]
    exact ⟨husername, hrole, hgroup, hdigits⟩
  have hlong : toLongOrNull principal.securityVersion.repr =
      some (principal.securityVersion : ℤ) := by
    rw [toLongOrNull, Decimal.parse_natRepr]
    apply Option.filter_eq_some_iff.2 ⟨rfl, _⟩
    apply decide_eq_true
    omega
  rw [decode, encode, JvmText.split_joinToString '\t' (List.cons_ne_nil _ _) hplain]
  simp only [decodeParts, roleOf_roleName, hlong, Option.getD_some, makeGroupId_value, bind,
    Except.bind, makePrincipal_self]
  rfl

/-! ## Commands -/

/-- Redis with the instants of its clock. -/
abbrev Redis : Type := ExpiringStore ℤ String String

def Redis.get (redis : Redis) (now : ℤ) (key : String) : Option String :=
  (redis.live now key).map fun entry => entry.value

def Redis.getAndDelete (redis : Redis) (now : ℤ) (key : String) : Redis × Option String :=
  (redis.erase key, redis.get now key)

end GcsSaker.RefreshSessions
