import GcsSaker.PasswordHasher
import GcsSaker.TokenUseSafety

/-!
# Redeeming a token

A text that is handed in is compared with the hashes of one page of the active tokens, in the order
of the repository, and the first token that matches is consumed. The page has a thousand tokens: in
memory the first ones that came in, on Postgres the newest ones.
-/

namespace GcsSaker.UseLimitedTokens

open Groups (GroupId Thrown UserRole)
open KeyedDelta (find find_eq_some_iff)
open KeyedRows (put)
open Machines (Along final)
open PostgresColumns (textParameter timestamptz toMicros)

variable {kind : TokenKind}

/-! ## The services -/

/-- The default of `limit`. -/
def candidateLimit : ℕ := 1000

def dataAccessException : Thrown := .runtime "DataAccessException"

def firstOrNull (verify : TokenRecord kind → Except Thrown Bool) :
    List (TokenRecord kind) → Except Thrown (Option (TokenRecord kind))
  | [] => .ok none
  | candidate :: rest => do
    if ← verify candidate then .ok (some candidate) else firstOrNull verify rest

/-- What both services do with a text: the token that it used, if any. -/
def redeem (repository : Repository kind) (verify : String → Except Thrown Bool)
    (tokens : Tokens kind) (now : ℤ) :
    Tokens kind × Except Thrown (Option (TokenRecord kind)) :=
  match (repository.step tokens (.activeCandidates now candidateLimit)).2 with
  | .candidates found =>
    match firstOrNull (fun candidate => verify candidate.tokenHash) found with
    | .error thrown => (tokens, .error thrown)
    | .ok none => (tokens, .ok none)
    | .ok (some matched) =>
      match repository.step tokens (.consume matched.tokenId now) with
      | (tokens, .consumed true) => (tokens, .ok (some matched))
      | (tokens, .consumed false) => (tokens, .ok none)
      | (tokens, _) => (tokens, .error dataAccessException)
  | _ => (tokens, .error dataAccessException)

structure DeviceProvisioningTokenService where
  repository : Repository .deviceProvisioning
  passwordHasher : PasswordHasher
  deriveKey : DeriveKey

def DeviceProvisioningTokenService.consume (service : DeviceProvisioningTokenService)
    (tokens : Tokens .deviceProvisioning) (rawToken : String) (now : ℤ) :
    Tokens .deviceProvisioning × Except Thrown (Option GroupId) :=
  if JvmText.isBlank rawToken then (tokens, .ok none)
  else
    (redeem service.repository (service.passwordHasher.verify service.deriveKey rawToken) tokens
      now).map id (Except.map (Option.map TokenRecord.groupId))

structure SignupInvite where
  code : String
  companyId : ℤ
  groupId : GroupId
  role : UserRole

/-- The boundary with a transaction of the data source takes a missing result for an error. -/
inductive SignupTransactionBoundary where
  | direct
  | transaction

structure SignupRegistrationTokenService where
  repository : Repository .signupRegistration
  passwordHasher : PasswordHasher
  deriveKey : DeriveKey
  transactionBoundary : SignupTransactionBoundary

namespace SignupRegistrationTokenService

variable (service : SignupRegistrationTokenService) {α : Type}

/-- What is stored after an exception: a transaction takes back what its statements did. -/
def afterThrow (before after : Tokens .signupRegistration) : Tokens .signupRegistration :=
  match service.transactionBoundary, service.repository with
  | .transaction, .jdbc _ => before
  | _, _ => after

def execute (before : Tokens .signupRegistration)
    (result : Tokens .signupRegistration × Except Thrown (Option α)) :
    Tokens .signupRegistration × Except Thrown (Option α) :=
  match result.2, service.transactionBoundary with
  | .error thrown, _ => (service.afterThrow before result.1, .error thrown)
  | .ok none, .transaction =>
    (result.1, .error (.illegalState "signup transaction returned no result"))
  | _, _ => result

def useInvite (tokens : Tokens .signupRegistration) (code : String) (now : ℤ)
    (action : SignupInvite → Except Thrown α) :
    Tokens .signupRegistration × Except Thrown (Option α) :=
  service.execute tokens <|
    if JvmText.isBlank code then (tokens, .ok none)
    else
      (redeem service.repository (service.passwordHasher.verify service.deriveKey code) tokens
        now).map id fun redeemed => do
          match ← redeemed with
          | none => .ok none
          | some record =>
            let value ← action ⟨code, SignupDetails.companyId record.details, record.groupId,
              SignupDetails.role record.details⟩
            .ok (some value)

end SignupRegistrationTokenService

/-! ## What is stored -/

def Repository.Takes : Repository kind → String → Prop
  | .inMemory, _ => True
  | .jdbc _, text => textParameter text = some text

/-- Distinct identities, as texts of the database where there is one. -/
structure Repository.Stored (repository : Repository kind) (tokens : Tokens kind) : Prop where
  unique : (tokens.map TokenRecord.tokenId).Nodup
  takes : ∀ token ∈ tokens, repository.Takes token.tokenId

/-- All active tokens, in the order in which the repository lists them. -/
def Repository.actives (repository : Repository kind) (tokens : Tokens kind) (now : ℤ) :
    Option (List (TokenRecord kind)) :=
  match repository with
  | .inMemory => some (tokens.filter (·.activeAt now))
  | .jdbc database => (timestamptz PostgresColumns.microsecond now).map fun now =>
      ((database.scan tokens).filter (·.activeAt now)).insertionSort (Sql.newerFirst database)

def TokenRecord.usedAt (record : TokenRecord kind) (now : ℤ) : TokenRecord kind :=
  { record with
    usedCount := record.usedCount + 1
    status := if record.maxUses ≤ record.usedCount + 1 then .exhausted else .active
    lastUsedAt := some now }

/-- Of the active tokens `record` is the only one whose hash the text verifies against. -/
structure HeldBy (repository : Repository kind) (verify : String → Except Thrown Bool)
    (tokens : Tokens kind) (now : ℤ) (found : List (TokenRecord kind)) (record : TokenRecord kind) :
    Prop where
  stored : repository.Stored tokens
  actives : repository.actives tokens now = some found
  mem : record ∈ found
  verified : ∀ candidate ∈ found, verify candidate.tokenHash = .ok (decide (candidate = record))

section Redeem

variable {repository : Repository kind} {tokens : Tokens kind} {now : ℤ}
variable {found : List (TokenRecord kind)} {record : TokenRecord kind}

theorem step_activeCandidates (h : repository.actives tokens now = some found) (limit : ℕ) :
    repository.step tokens (.activeCandidates now limit) =
      (tokens, .candidates (found.take limit)) := by
  cases repository with
  | inMemory =>
      obtain rfl := Option.some.inj h
      rfl
  | jdbc database =>
      obtain ⟨now', hnow, hfound⟩ := Option.map_eq_some_iff.1 h
      have hpage : Sql.activeCandidates database tokens now limit = some (found.take limit) := by
        rw [Sql.activeCandidates, hnow, Option.map_some, ← hfound]
        rfl
      simp only [Repository.step, Sql.step, hpage, Option.map_some, Option.getD_some]

theorem mem_actives (h : repository.actives tokens now = some found) :
    record ∈ found ↔ record ∈ tokens ∧ record.activeAt (repository.instant now) = true := by
  cases repository with
  | inMemory =>
      obtain rfl := Option.some.inj h
      exact List.mem_filter
  | jdbc database =>
      obtain ⟨now', hnow, rfl⟩ := Option.map_eq_some_iff.1 h
      obtain rfl := toMicros_of_timestamptz hnow
      rw [List.mem_insertionSort, List.mem_filter, (database.scan_perm tokens).mem_iff]
      rfl

theorem inMemory_consume_of_active (hunique : (tokens.map TokenRecord.tokenId).Nodup)
    (hmem : record ∈ tokens) (hactive : record.activeAt now = true) :
    InMemory.consume tokens record.tokenId now =
      (put TokenRecord.tokenId tokens (record.usedAt now), true) := by
  rw [InMemory.consume, (find_eq_some_iff hunique).2 ⟨hmem, rfl⟩, Option.filter_some,
    if_pos hactive]
  dsimp only
  rw [status_of_activeAt hactive, statusAfterUse_active]
  rfl

theorem step_consume (hstored : repository.Stored tokens)
    (h : repository.actives tokens now = some found) (hmem : record ∈ found) :
    repository.step tokens (.consume record.tokenId now) =
      (put TokenRecord.tokenId tokens (record.usedAt (repository.instant now)),
        .consumed true) := by
  obtain ⟨hin, hactive⟩ := (mem_actives h).1 hmem
  have huse := inMemory_consume_of_active hstored.unique hin hactive
  cases repository with
  | inMemory =>
      change (InMemory.consume tokens record.tokenId now).map id Answer.consumed = _
      rw [show now = Repository.inMemory.instant now from rfl, huse]
      rfl
  | jdbc database =>
      obtain ⟨now', hnow, -⟩ := Option.map_eq_some_iff.1 h
      obtain rfl := toMicros_of_timestamptz hnow
      have hconsume : Sql.consume tokens record.tokenId now =
          some (InMemory.consume tokens record.tokenId (toMicros now)) := by
        have htext : textParameter record.tokenId = some record.tokenId := hstored.takes record hin
        rw [Sql.consume, hnow, htext]
        exact congrArg some (update_consume hstored.unique record.tokenId (toMicros now))
      have hjdbc : InMemory.consume tokens record.tokenId (toMicros now) =
          (put TokenRecord.tokenId tokens (record.usedAt (toMicros now)), true) := huse
      simp only [Repository.step, Sql.step, hconsume, Option.map_some, Option.getD_some, hjdbc]
      rfl

theorem firstOrNull_eq {verify : TokenRecord kind → Except Thrown Bool}
    {p : TokenRecord kind → Bool} (h : ∀ candidate ∈ found, verify candidate = .ok (p candidate)) :
    firstOrNull verify found = .ok (found.find? p) := by
  induction found with
  | nil => rfl
  | cons candidate rest ih =>
      obtain ⟨hfirst, hrest⟩ := List.forall_mem_cons.1 h
      rw [firstOrNull, hfirst, List.find?_cons]
      cases hp : p candidate with
      | true => rfl
      | false => exact ih hrest

theorem find?_eq_self (page : List (TokenRecord kind)) (record : TokenRecord kind) :
    (page.find? fun candidate => decide (candidate = record)) =
      if record ∈ page then some record else none := by
  by_cases hpage : record ∈ page
  · rw [if_pos hpage]
    cases hfind : page.find? fun candidate => decide (candidate = record) with
    | none =>
        have hnot := List.find?_eq_none.1 hfind record hpage
        exact absurd (decide_eq_true rfl) hnot
    | some candidate =>
        have hsame : decide (candidate = record) = true := List.find?_some (p := (· = record)) hfind
        rw [of_decide_eq_true hsame]
  · rw [if_neg hpage, List.find?_eq_none]
    intro candidate hcandidate heq
    exact hpage (of_decide_eq_true heq ▸ hcandidate)

/-- The token is used if it is on the page, and nothing happens otherwise. -/
theorem HeldBy.redeem_eq {verify : String → Except Thrown Bool}
    (h : HeldBy repository verify tokens now found record) :
    redeem repository verify tokens now =
      if record ∈ found.take candidateLimit then
        (put TokenRecord.tokenId tokens (record.usedAt (repository.instant now)), .ok (some record))
      else (tokens, .ok none) := by
  have hfirst : firstOrNull (fun candidate => verify candidate.tokenHash)
      (found.take candidateLimit) =
        .ok (if record ∈ found.take candidateLimit then some record else none) := by
    rw [firstOrNull_eq fun candidate hc => h.verified candidate (List.mem_of_mem_take hc),
      find?_eq_self]
  rw [redeem, step_activeCandidates h.actives]
  dsimp only
  rw [hfirst]
  by_cases hpage : record ∈ found.take candidateLimit
  · rw [if_pos hpage, if_pos hpage]
    dsimp only
    rw [step_consume h.stored h.actives h.mem]
  · rw [if_neg hpage, if_neg hpage]

end Redeem

/-! ## What the calls leave stored -/

theorem Repository.takes_of_row {repository : Repository kind} {record row : TokenRecord kind}
    {groupExists : Bool} (h : repository.row record groupExists = some row) :
    repository.Takes row.tokenId := by
  cases repository with
  | inMemory => trivial
  | jdbc database =>
      obtain ⟨tokenId, htokenId, h⟩ := Option.bind_eq_some_iff.1 h
      obtain ⟨tokenHash, -, h⟩ := Option.bind_eq_some_iff.1 h
      obtain ⟨groupId, -, h⟩ := Option.bind_eq_some_iff.1 h
      obtain ⟨label, -, h⟩ := Option.bind_eq_some_iff.1 h
      obtain ⟨expiresAt, -, h⟩ := Option.bind_eq_some_iff.1 h
      obtain ⟨createdBy, -, h⟩ := Option.bind_eq_some_iff.1 h
      obtain ⟨createdAt, -, h⟩ := Option.bind_eq_some_iff.1 h
      split_ifs at h
      cases h
      exact if_neg (PostgresColumns.fits_of_varchar htokenId).2

theorem Repository.Stored.put {repository : Repository kind} {tokens : Tokens kind}
    {token : TokenRecord kind} (h : repository.Stored tokens)
    (htoken : repository.Takes token.tokenId) :
    repository.Stored (put TokenRecord.tokenId tokens token) := by
  refine ⟨KeyedRows.nodup_put h.unique token, fun other hmem => ?_⟩
  rcases KeyedRows.mem_put hmem with heq | hold
  · exact heq ▸ htoken
  · exact h.takes other hold

/-- Every run of a repository leaves such tokens. -/
theorem final_stored (repository : Repository kind) {calls : List (Call kind)}
    (h : Along repository.step repository.Admissible [] calls) :
    repository.Stored (final repository.step [] calls) := by
  have hkeep : ∀ (tokens : Tokens kind) (call : Call kind), repository.Stored tokens →
      repository.Admissible tokens call → repository.Stored (repository.step tokens call).1 := by
    intro tokens call hstored hcall
    rcases step_cases repository hstored.unique hcall with
      ⟨hsame, -⟩ | ⟨record, groupExists, row, -, hrow, -, hstep⟩ |
        ⟨tokenId, event, success, hasked, -⟩
    · rw [hsame]
      exact hstored
    · rw [hstep]
      exact hstored.put (Repository.takes_of_row hrow)
    · cases hfind : find TokenRecord.tokenId tokenId tokens with
      | none =>
          rw [(Prod.mk.inj (hasked.missing hfind)).1]
          exact hstored
      | some current =>
          obtain ⟨hin, hid⟩ := KeyedDelta.find_some hfind
          rcases hasked.present current hfind with
            ⟨-, hresult⟩ | ⟨changed, hchanged, -, -, hresult⟩
          · rw [(Prod.mk.inj hresult).1]
            exact hstored
          · rw [(Prod.mk.inj hresult).1]
            refine hstored.put ?_
            rw [hchanged, ← hid]
            exact hstored.takes current hin
  have hempty : repository.Stored ([] : Tokens kind) :=
    ⟨List.nodup_nil, fun _ hmem => absurd hmem List.not_mem_nil⟩
  exact Machines.final_invariant hkeep hempty h

/-! ## Both services -/

/-- The answer of a call that used no token. -/
def SignupRegistrationTokenService.noResult (service : SignupRegistrationTokenService) {α : Type} :
    Except Thrown (Option α) :=
  match service.transactionBoundary with
  | .direct => .ok none
  | .transaction => .error (.illegalState "signup transaction returned no result")

/-- A text redeems the one active token that holds its hash if it is not blank and the token is among
the first thousand that the repository lists; otherwise the tokens stay as they are. -/
theorem redemption :
    (∀ (service : DeviceProvisioningTokenService) tokens rawToken now found record,
      HeldBy service.repository (service.passwordHasher.verify service.deriveKey rawToken) tokens
        now found record →
      service.consume tokens rawToken now =
        if JvmText.isBlank rawToken = false ∧ record ∈ found.take 1000 then
          (put TokenRecord.tokenId tokens (record.usedAt (service.repository.instant now)),
            .ok (some record.groupId))
        else (tokens, .ok none)) ∧
    ∀ (service : SignupRegistrationTokenService) tokens code now found record (α : Type)
      (action : SignupInvite → Except Thrown α),
      HeldBy service.repository (service.passwordHasher.verify service.deriveKey code) tokens
        now found record →
      service.useInvite tokens code now action =
        if JvmText.isBlank code = false ∧ record ∈ found.take 1000 then
          let used :=
            put TokenRecord.tokenId tokens (record.usedAt (service.repository.instant now))
          match action ⟨code, SignupDetails.companyId record.details, record.groupId,
              SignupDetails.role record.details⟩ with
          | .ok value => (used, .ok (some value))
          | .error thrown => (service.afterThrow tokens used, .error thrown)
        else (tokens, service.noResult) := by
  have hlimit : candidateLimit = 1000 := rfl
  constructor
  · intro service tokens rawToken now found record h
    rw [DeviceProvisioningTokenService.consume]
    by_cases hblank : JvmText.isBlank rawToken = true
    · rw [if_pos hblank, if_neg fun hboth => Bool.false_ne_true (hboth.1.symm.trans hblank)]
    · rw [if_neg hblank, h.redeem_eq, hlimit]
      by_cases hpage : record ∈ found.take 1000
      · rw [if_pos hpage, if_pos ⟨Bool.eq_false_of_not_eq_true hblank, hpage⟩]
        rfl
      · rw [if_neg hpage, if_neg fun hboth => hpage hboth.2]
        rfl
  · intro service tokens code now found record α action h
    have hnone : service.execute tokens (tokens, (.ok none : Except Thrown (Option α))) =
        (tokens, service.noResult) := by
      rw [SignupRegistrationTokenService.execute, SignupRegistrationTokenService.noResult]
      cases service.transactionBoundary <;> rfl
    rw [SignupRegistrationTokenService.useInvite]
    by_cases hblank : JvmText.isBlank code = true
    · rw [if_pos hblank, if_neg fun hboth => Bool.false_ne_true (hboth.1.symm.trans hblank), hnone]
    · rw [if_neg hblank, h.redeem_eq, hlimit]
      by_cases hpage : record ∈ found.take 1000
      · rw [if_pos hpage, if_pos ⟨Bool.eq_false_of_not_eq_true hblank, hpage⟩]
        simp only [Prod.map, id, bind, Except.bind]
        cases action ⟨code, SignupDetails.companyId record.details, record.groupId,
            SignupDetails.role record.details⟩ with
        | ok value =>
            rw [SignupRegistrationTokenService.execute]
        | error thrown => rfl
      · rw [if_neg hpage, if_neg fun hboth => hpage hboth.2]
        exact hnone

/-! ## A crowd of tokens -/

def heldToken : String := "gcs_boot_AAECAwQFBgcICQoLDA0ODxAREhMUFRYXGBkaGxwdHh8"

def heldHash : String :=
  "pbkdf2-sha256$210000$AAECAwQFBgcICQoLDA0ODw==$Gbc2gZx4xEGAu8xjx4gqZJFrlDo5UPetcFa/ltE7U6s="

def otherHash : String :=
  "pbkdf2-sha256$210000$AAECAwQFBgcICQoLDA0ODw==$5IWwUuVCuT82yXAwpuPVTe6ad/QVxpVAreW0BN/0PNI="

/-- What PBKDF2 derives from the sample token and the salt of both hashes. -/
def heldKey : List UInt8 := [25, 183, 54, 129, 156, 120, 196, 65, 128, 187, 204, 99, 199, 136, 42,
  100, 145, 107, 148, 58, 57, 80, 247, 173, 112, 86, 191, 150, 209, 59, 83, 171]

def heldDerivation : DeriveKey := fun password _ _ _ =>
  .ok (if password = heldToken then heldKey else [])

/-- The higher the number, the older the token; number 1000 has the hash of the sample. -/
def crowdToken (details : kind.Details) (n : ℕ) : TokenRecord kind where
  tokenId := n.repr
  tokenHash := if n = 1000 then heldHash else otherHash
  groupId := Groups.battalion.id
  label := "field"
  status := .active
  maxUses := 1
  usedCount := 0
  expiresAt := Clock.second
  createdBy := "admin01"
  createdAt := -n * Clock.second
  lastUsedAt := none
  revokedAt := none
  revokedBy := none
  details := details

def crowdDatabase (kind : TokenKind) : Database kind where
  notAfter := JvmText.notAfter
  scan := id
  scan_perm := List.Perm.refl

section Crowd

variable {details : kind.Details} {m n : ℕ} {ns : List ℕ}

theorem crowdToken_injective (h : crowdToken details m = crowdToken details n) : m = n := by
  have hcreated : -(m : ℤ) * Clock.second = -(n : ℤ) * Clock.second :=
    congrArg TokenRecord.createdAt h
  have hsecond : Clock.second ≠ 0 := by decide
  have hneg := Int.eq_of_mul_eq_mul_right hsecond hcreated
  omega

theorem verify_heldHash :
    PasswordHasher.standard.verify heldDerivation heldToken heldHash = .ok true := by decide +kernel

theorem verify_otherHash :
    PasswordHasher.standard.verify heldDerivation heldToken otherHash = .ok false := by
  decide +kernel

theorem verify_crowdToken :
    PasswordHasher.standard.verify heldDerivation heldToken (crowdToken details n).tokenHash =
      .ok (decide (crowdToken details n = crowdToken details 1000)) := by
  by_cases hn : n = 1000
  · subst hn
    rw [decide_eq_true rfl]
    exact verify_heldHash
  · rw [decide_eq_false fun h => hn (crowdToken_injective h), crowdToken, if_neg hn]
    exact verify_otherHash

theorem takes_natRepr (n : ℕ) : textParameter n.repr = some n.repr := by
  refine if_neg fun hnul => ?_
  rw [Nat.toList_repr] at hnul
  exact absurd (Nat.isDigit_of_mem_toDigits (by decide) (by decide) hnul) (by decide)

/-- On Postgres a crowd is listed by its numbers. -/
theorem heldBy_crowd (hns : ns.Pairwise (· < ·)) (hmem : 1000 ∈ ns) :
    HeldBy (.jdbc (crowdDatabase kind))
      (PasswordHasher.standard.verify heldDerivation heldToken) (ns.map (crowdToken details)) 0
      (ns.map (crowdToken details)) (crowdToken details 1000) := by
  have hnow : timestamptz PostgresColumns.microsecond 0 = some 0 := by decide
  refine ⟨⟨?_, ?_⟩, ?_, List.mem_map_of_mem hmem, ?_⟩
  · rw [List.map_map]
    refine List.Nodup.map (fun m n h => ?_) (hns.imp Nat.ne_of_lt)
    have hparse : Decimal.parse m.repr = Decimal.parse n.repr := congrArg Decimal.parse h
    rw [Decimal.parse_natRepr, Decimal.parse_natRepr, Option.some.injEq] at hparse
    exact Int.ofNat.inj hparse
  · rw [List.forall_mem_map]
    exact fun n _ => takes_natRepr n
  · have hactive : ∀ token ∈ ns.map (crowdToken details), token.activeAt 0 = true := by
      rw [List.forall_mem_map]
      exact fun n _ => rfl
    have hsorted : (ns.map (crowdToken details)).Pairwise
        (Sql.newerFirst (crowdDatabase kind)) := by
      refine List.pairwise_map.2 (hns.imp fun {m n} hlt => .inl ?_)
      have hsecond : 0 < Clock.second := by decide
      exact Int.mul_lt_mul_of_pos_right (by omega) hsecond
    rw [Repository.actives, hnow, Option.map_some]
    refine congrArg some ?_
    change ((ns.map (crowdToken details)).filter (·.activeAt 0)).insertionSort _ = _
    rw [List.filter_eq_self.2 hactive, hsorted.insertionSort_eq]
  · rw [List.forall_mem_map]
    exact fun n _ => verify_crowdToken

end Crowd

def deviceToken : ℕ → TokenRecord .deviceProvisioning := crowdToken ()

def signupToken : ℕ → TokenRecord .signupRegistration :=
  @crowdToken .signupRegistration ⟨1, .viewer⟩

def crowdService : DeviceProvisioningTokenService :=
  ⟨.jdbc (crowdDatabase .deviceProvisioning), PasswordHasher.standard, heldDerivation⟩

def crowdSignup : SignupRegistrationTokenService :=
  ⟨.jdbc (crowdDatabase .signupRegistration), PasswordHasher.standard, heldDerivation,
    .transaction⟩

theorem redemption_sample :
    crowdService.consume [deviceToken 1000] heldToken 0 =
      ([(deviceToken 1000).usedAt 0], .ok (some Groups.battalion.id)) ∧
    crowdSignup.useInvite [signupToken 1000] heldToken 0
        (fun invite => .ok invite.companyId) =
      ([(signupToken 1000).usedAt 0], .ok (some 1)) := by
  have hblank : JvmText.isBlank heldToken = false := by decide
  have hsingle : ([1000] : List ℕ).Pairwise (· < ·) := List.pairwise_singleton _ _
  constructor
  · have h := redemption.1 crowdService [deviceToken 1000] heldToken 0 [deviceToken 1000]
      (deviceToken 1000) (heldBy_crowd hsingle (List.mem_singleton_self 1000))
    rw [if_pos ⟨hblank, List.mem_cons_self⟩] at h
    exact h
  · have h := redemption.2 crowdSignup [signupToken 1000] heldToken 0
      [signupToken 1000] (signupToken 1000) ℤ
      (fun invite => .ok invite.companyId)
      (heldBy_crowd hsingle (List.mem_singleton_self 1000))
    rw [if_pos ⟨hblank, List.mem_cons_self⟩] at h
    exact h

/-- With a thousand newer tokens on Postgres the token is not found. -/
theorem redemption_crowded :
    ¬ ∀ (service : DeviceProvisioningTokenService) tokens rawToken now found record,
      HeldBy service.repository (service.passwordHasher.verify service.deriveKey rawToken) tokens
        now found record →
      service.consume tokens rawToken now =
        (put TokenRecord.tokenId tokens (record.usedAt (service.repository.instant now)),
          .ok (some record.groupId)) := by
  intro h
  let crowd := (List.range 1001).map deviceToken
  have hheld : HeldBy crowdService.repository
      (crowdService.passwordHasher.verify crowdService.deriveKey heldToken) crowd 0 crowd
      (deviceToken 1000) :=
    heldBy_crowd List.pairwise_lt_range (List.mem_range.2 (by decide))
  have hfound := h crowdService crowd heldToken 0 crowd (deviceToken 1000) hheld
  have hpage : deviceToken 1000 ∉ crowd.take candidateLimit := by
    rw [← List.map_take, List.take_range]
    intro hmem
    obtain ⟨n, hn, hsame⟩ := List.mem_map.1 hmem
    obtain rfl := crowdToken_injective hsame
    exact absurd (List.mem_range.1 hn) (by decide)
  have hblank : ¬ JvmText.isBlank heldToken = true := by decide
  rw [DeviceProvisioningTokenService.consume, if_neg hblank] at hfound
  rw [hheld.redeem_eq, if_neg hpage] at hfound
  exact nomatch (Prod.mk.inj hfound).2

end GcsSaker.UseLimitedTokens
