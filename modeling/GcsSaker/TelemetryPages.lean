import GcsSaker.AuditEncoding
import GcsSaker.CursorPages
import GcsSaker.EventStreamDelivery
import GcsSaker.OperationalPages
import GcsSaker.RefreshSessionStore

/-!
# Pages of telemetry

`TelemetryPageService` over the repository in memory or on Postgres, with the cursors of
`JwtTelemetryCursorCodec`. A cursor is a signed token that lives for ten minutes and names the
identity that it was issued to by a digest. A reader who follows the cursors in time gets every
sample once, and nobody else can go on from them.
-/

namespace GcsSaker.TelemetryPages

open AuditChain.AuditHashChain (Collision digest)
open CheckedSteps (bind_eq_ok_iff)
open CursorPages (Followed exists_followed_store)
open EventStream (Server)
open Groups (AuthenticatedPrincipal Thrown)
open OperationalReads (InMemoryOperationalReadRepository)
open PostgresColumns (nullable textParameter)
open TelemetryIngestRpc (TelemetryReadModel)
open Watermarks (pending)

namespace TelemetryPageLimits

def DEFAULT_SIZE : ℕ := 100
def MAX_SIZE : ℕ := 500
def MAX_CURSOR_LENGTH : ℕ := 2048
def MAX_UUID_LENGTH : ℕ := 128
def CURSOR_TTL_SECONDS : ℤ := 600
def CURSOR_PURPOSE : String := "telemetry-page-v1"

end TelemetryPageLimits

open TelemetryPageLimits

structure TelemetryPageSize where
  value : ℕ
  inRange : 1 ≤ value ∧ value ≤ MAX_SIZE

def TelemetryPageSize.fetchLimit (size : TelemetryPageSize) : ℕ := size.value + 1

def isPosition (uuid : String) : Bool :=
  !JvmText.isBlank uuid && decide (JvmText.length uuid ≤ MAX_UUID_LENGTH)

structure TelemetryPageQuery where
  size : TelemetryPageSize
  afterUuid : Option String
  position : afterUuid.all isPosition = true

def newTelemetryPageQuery (size : TelemetryPageSize) (afterUuid : Option String) :
    Except Thrown TelemetryPageQuery :=
  if h : afterUuid.all isPosition = true then .ok ⟨size, afterUuid, h⟩
  else .error (.invalidContract "telemetry_page_position_invalid" "page position is invalid")

structure TelemetryPageCommand where
  size : TelemetryPageSize
  cursor : Option String

structure TelemetryPage where
  items : List TelemetryReadModel
  nextCursor : Option String

/-! ## Cursors -/

/-- The claims of a token, where they are of the type that is asked for. Times are in seconds. -/
structure DecodedJWT where
  issuer : Option String
  audience : List String
  tokenUse : Option String
  pageScope : Option String
  afterUuid : Option String
  issuedAt : Option ℤ
  notBefore : Option ℤ
  expiresAt : Option ℤ

/-- The library with the secret: `claimsOf` reads a token whose signature is right. -/
structure Jwt where
  sign : DecodedJWT → String
  claimsOf : String → Option DecodedJWT
  claimsOf_sign : ∀ claims, claimsOf (sign claims) = some claims
  sign_notBlank : ∀ claims, JvmText.isBlank (sign claims) = false

def epochSecond (t : ℤ) : ℤ := t / Clock.second

/-- What `scopeDigest` hashes. -/
def scope (principal : AuthenticatedPrincipal) : String :=
  String.join (([principal.username, principal.groupId.value,
    RefreshSessions.roleName principal.role, toString principal.securityVersion]).map fun text =>
      toString text.toByteArray.size ++ ":" ++ text)

def scopeDigest (principal : AuthenticatedPrincipal) : String := digest (scope principal)

structure JwtTelemetryCursorCodec where
  jwt : Jwt
  issuer : String
  issuerNotBlank : JvmText.isBlank issuer = false

namespace JwtTelemetryCursorCodec

variable (codec : JwtTelemetryCursorCodec) (now : ℤ) (principal : AuthenticatedPrincipal)

def invalid {α : Type} : Except Thrown α :=
  .error (.invalidContract "telemetry_cursor_invalid" "cursor is invalid or expired")

def claims (afterUuid : String) : DecodedJWT where
  issuer := some codec.issuer
  audience := [CURSOR_PURPOSE]
  tokenUse := some CURSOR_PURPOSE
  pageScope := some (scopeDigest principal)
  afterUuid := some afterUuid
  issuedAt := some (epochSecond now)
  notBefore := none
  expiresAt := some (epochSecond (now + CURSOR_TTL_SECONDS * Clock.second))

def encode (afterUuid : String) : Except Thrown String := do
  let _ ← newTelemetryPageQuery ⟨DEFAULT_SIZE, by decide⟩ (some afterUuid)
  return codec.jwt.sign (codec.claims now principal afterUuid)

/-- `JWTVerifier.verify` with the demands of the codec; none is a `JWTVerificationException`. -/
def verify (cursor : String) : Option DecodedJWT := do
  let decoded ← codec.jwt.claimsOf cursor
  if decoded.issuer = some codec.issuer ∧ CURSOR_PURPOSE ∈ decoded.audience ∧
      decoded.tokenUse = some CURSOR_PURPOSE ∧
      decoded.expiresAt.any (fun expires => epochSecond now < expires) ∧
      decoded.issuedAt.all (fun issued => issued ≤ epochSecond now) ∧
      decoded.notBefore.all (fun start => start ≤ epochSecond now) then
    some decoded
  else none

/-- The scope and the position of a cursor. -/
def verifiedPosition (cursor : String) : Except Thrown (String × String) :=
  match codec.verify now cursor with
  | none => invalid
  | some decoded =>
    match decoded.issuedAt, decoded.expiresAt, decoded.pageScope, decoded.afterUuid with
    | some issued, some expires, some scope, some after =>
      if expires ≤ issued ∨ expires - issued > CURSOR_TTL_SECONDS then invalid
      else .ok (scope, after)
    | _, _, _, _ => invalid

def decode (cursor : String) : Except Thrown String :=
  if JvmText.isBlank cursor = true ∨ JvmText.length cursor > MAX_CURSOR_LENGTH then invalid
  else do
    let (scope, after) ← codec.verifiedPosition now cursor
    if scope ≠ scopeDigest principal then
      .error (.permissionDenied "telemetry_cursor_scope_mismatch"
        "cursor does not belong to the current identity")
    else do
      let _ ← newTelemetryPageQuery ⟨DEFAULT_SIZE, by decide⟩ (some after)
      return after

end JwtTelemetryCursorCodec

/-! ## The rows of a page -/

def groupOf (telemetry : TelemetryReadModel) : Groups.GroupId :=
  ⟨telemetry.groupId.value, telemetry.groupId.notBlank⟩

section Rows

variable {κ : Type} [LinearOrder κ] (collation : String → κ)

/-- The rows after a position in the order of their uuids, one more than fit on the page. -/
def fetched (query : TelemetryPageQuery) (rows : List TelemetryReadModel) :
    List TelemetryReadModel :=
  ((rows.filter fun row =>
      query.afterUuid.all fun uuid => decide (collation uuid < collation row.uuid)).insertionSort
    fun row row' => collation row.uuid ≤ collation row'.uuid).take query.size.fetchLimit

end Rows

/-- Strings are compared by their code units. -/
def InMemoryOperationalReadRepository.telemetryPageFor
    (repository : InMemoryOperationalReadRepository) (telemetryByUuid : List TelemetryReadModel)
    (principal : AuthenticatedPrincipal) (query : TelemetryPageQuery) :
    Except Thrown (List TelemetryReadModel) := do
  let readable ← repository.filterReadable principal groupOf telemetryByUuid
  return fetched JvmText.codeUnits query readable

inductive TelemetryReadScope where
  | ownGroup
  | policyFiltered
  deriving DecidableEq

def TelemetryReadScope.forRole : Groups.UserRole → TelemetryReadScope
  | .viewer => .ownGroup
  | .operator => .ownGroup
  | .groupAdmin => .policyFiltered
  | .admin => .policyFiltered

section Postgres

variable {κ : Type} [LinearOrder κ] (server : Server κ)

/-- The condition of `TelemetryPageStatement` on a row, its position apart. -/
def TelemetryPageStatement.forPrincipal (principal : AuthenticatedPrincipal)
    (row : TelemetryReadModel) : Bool :=
  Groups.OperationalReadSql.selectTelemetryBase server.organizationGroupClosure principal
      (groupOf row) &&
    (TelemetryReadScope.forRole principal.role ≠ .ownGroup ||
      decide (row.groupId.value = principal.groupId.value))

def JdbcTelemetryPageReader.read (telemetryLatest : List TelemetryReadModel)
    (principal : AuthenticatedPrincipal) (query : TelemetryPageQuery) :
    Except Thrown (List TelemetryReadModel) :=
  if (textParameter principal.groupId.value).isSome ∧
      (nullable textParameter query.afterUuid).isSome then
    .ok (fetched server.collation query
      (telemetryLatest.filter (TelemetryPageStatement.forPrincipal server principal)))
  else .error (.runtime "telemetry page is unavailable")

end Postgres

/-! ## The service -/

/-- The page of the rows that have been fetched, one more than fit if there are more. -/
def pageOf (codec : JwtTelemetryCursorCodec) (issuedAt : ℤ) (principal : AuthenticatedPrincipal)
    (size : TelemetryPageSize) (rows : List TelemetryReadModel) : Except Thrown TelemetryPage :=
  let items := rows.take size.value
  if rows.length > size.value then
    match items.getLast? with
    | none => .error (.runtime "List is empty.")
    | some last => do
      let next ← codec.encode issuedAt principal last.uuid
      return ⟨items, some next⟩
  else .ok ⟨items, none⟩

/-- The clock is read for the cursor of the request and for the one of the next page. -/
def readPage (codec : JwtTelemetryCursorCodec)
    (telemetryPageFor : AuthenticatedPrincipal → TelemetryPageQuery →
      Except Thrown (List TelemetryReadModel))
    (decodedAt issuedAt : ℤ) (principal : AuthenticatedPrincipal) (command : TelemetryPageCommand) :
    Except Thrown TelemetryPage := do
  let position ← command.cursor.mapM fun cursor => codec.decode decodedAt principal cursor
  let query ← newTelemetryPageQuery command.size position
  let rows ← telemetryPageFor principal query
  pageOf codec issuedAt principal command.size rows

/-- The answer to the request of each number, at the times at which the clock is read for it. -/
def pageAt (codec : JwtTelemetryCursorCodec)
    (telemetryPageFor : AuthenticatedPrincipal → TelemetryPageQuery →
      Except Thrown (List TelemetryReadModel))
    (decodedAt issuedAt : ℕ → ℤ) (principal : AuthenticatedPrincipal) (size : TelemetryPageSize)
    (i : ℕ) (cursor : Option String) :
    Except Thrown (List TelemetryReadModel × Option String) :=
  (readPage codec telemetryPageFor (decodedAt i) (issuedAt i) principal ⟨size, cursor⟩).map
    fun page => (page.items, page.nextCursor)

/-! ## Who a cursor is for -/

variable {codec : JwtTelemetryCursorCodec} {principal principal' : AuthenticatedPrincipal}
variable {uuid cursor : String} {now issued : ℤ}

/-- What the scope of a cursor tells apart. -/
def SameIdentity (principal principal' : AuthenticatedPrincipal) : Prop :=
  principal.username = principal'.username ∧ principal.groupId = principal'.groupId ∧
    principal.role = principal'.role ∧ principal.securityVersion = principal'.securityVersion

theorem roleName_injective : Function.Injective RefreshSessions.roleName := by
  intro role role' h
  cases role <;> cases role' <;> first | rfl | exact absurd h (by decide)

theorem scope_eq (principal : AuthenticatedPrincipal) :
    scope principal = AuditChain.AuditHashChain.encode [some principal.username,
      some principal.groupId.value, some (RefreshSessions.roleName principal.role),
      some (toString principal.securityVersion)] := rfl

theorem sameIdentity_of_scope (h : scope principal = scope principal') :
    SameIdentity principal principal' := by
  rw [scope_eq, scope_eq] at h
  have hfields := AuditChain.AuditHashChain.encode_inj h
  simp only [List.map_cons, List.map_nil, Option.getD_some, List.cons.injEq, and_true] at hfields
  obtain ⟨husername, hgroup, hrole, hversion⟩ := hfields
  have hparse := congrArg Decimal.parse hversion
  rw [show toString principal.securityVersion = principal.securityVersion.repr from rfl,
    show toString principal'.securityVersion = principal'.securityVersion.repr from rfl,
    Decimal.parse_natRepr, Decimal.parse_natRepr, Option.some.injEq, Nat.cast_inj] at hparse
  exact ⟨husername, Groups.GroupId.ext hgroup, roleName_injective hrole, hparse⟩

theorem newTelemetryPageQuery_some {size : TelemetryPageSize} (h : isPosition uuid = true) :
    newTelemetryPageQuery size (some uuid) = .ok ⟨size, some uuid, h⟩ := dif_pos h

theorem encode_eq_ok_iff : codec.encode issued principal uuid = .ok cursor ↔
    isPosition uuid = true ∧ codec.jwt.sign (codec.claims issued principal uuid) = cursor := by
  by_cases h : isPosition uuid = true
  · rw [JwtTelemetryCursorCodec.encode, newTelemetryPageQuery_some h]
    exact ⟨fun hok => ⟨h, Except.ok.inj hok⟩, fun hok => congrArg Except.ok hok.2⟩
  · have hfails : codec.encode issued principal uuid =
        .error (.invalidContract "telemetry_page_position_invalid" "page position is invalid") := by
      rw [JwtTelemetryCursorCodec.encode, newTelemetryPageQuery,
        dif_neg (show ¬ (some uuid).all isPosition = true from h)]
      rfl
    rw [hfails]
    exact ⟨nofun, fun hok => absurd hok.1 h⟩

theorem epochSecond_add (t seconds : ℤ) :
    epochSecond (t + seconds * Clock.second) = epochSecond t + seconds :=
  Int.add_mul_ediv_right t seconds (by decide)

/-- Whatever passes was signed with the position and the scope that are read. -/
theorem verifiedPosition_of_sign {scope after : String}
    (h : codec.verifiedPosition now (codec.jwt.sign (codec.claims issued principal uuid)) =
      .ok (scope, after)) : scope = scopeDigest principal ∧ after = uuid := by
  unfold JwtTelemetryCursorCodec.verifiedPosition at h
  split at h
  · cases h
  · rename_i decoded hverify
    rw [JwtTelemetryCursorCodec.verify, codec.jwt.claimsOf_sign, Option.bind_eq_bind,
      Option.bind_some] at hverify
    split_ifs at hverify
    cases hverify
    dsimp only [JwtTelemetryCursorCodec.claims] at h
    split_ifs at h
    · cases h
    · cases h
      exact ⟨rfl, rfl⟩

/-- A token that was signed here passes while it is fresh. -/
theorem verifiedPosition_sign (hissued : epochSecond issued ≤ epochSecond now)
    (hfresh : epochSecond now < epochSecond issued + CURSOR_TTL_SECONDS) :
    codec.verifiedPosition now (codec.jwt.sign (codec.claims issued principal uuid)) =
      .ok (scopeDigest principal, uuid) := by
  have hexpires := epochSecond_add issued CURSOR_TTL_SECONDS
  have hverify : codec.verify now (codec.jwt.sign (codec.claims issued principal uuid)) =
      some (codec.claims issued principal uuid) := by
    rw [JwtTelemetryCursorCodec.verify, codec.jwt.claimsOf_sign, Option.bind_eq_bind,
      Option.bind_some]
    refine if_pos ⟨rfl, List.mem_singleton_self _, rfl, decide_eq_true ?_, decide_eq_true hissued,
      rfl⟩
    rwa [hexpires]
  unfold JwtTelemetryCursorCodec.verifiedPosition
  rw [hverify]
  dsimp only [JwtTelemetryCursorCodec.claims]
  rw [hexpires, if_neg]
  unfold CURSOR_TTL_SECONDS
  omega

/-- An accepted cursor has the scope of the principal. -/
theorem decode_eq_ok_iff : codec.decode now principal cursor = .ok uuid ↔
    JvmText.isBlank cursor = false ∧ JvmText.length cursor ≤ MAX_CURSOR_LENGTH ∧
      codec.verifiedPosition now cursor = .ok (scopeDigest principal, uuid) ∧
      isPosition uuid = true := by
  unfold JwtTelemetryCursorCodec.decode
  by_cases hlength : JvmText.isBlank cursor = true ∨ JvmText.length cursor > MAX_CURSOR_LENGTH
  · rw [if_pos hlength]
    refine ⟨nofun, fun ⟨hblank, hle, _⟩ => ?_⟩
    rcases hlength with hblank' | hgt
    · exact absurd hblank' (Bool.eq_false_iff.1 hblank)
    · exact absurd hle hgt.not_ge
  · obtain ⟨hblank, hle⟩ := not_or.1 hlength
    rw [if_neg hlength, bind_eq_ok_iff]
    constructor
    · rintro ⟨⟨scope, after⟩, hposition, hrest⟩
      dsimp only at hrest
      split_ifs at hrest with hscope
      obtain ⟨query, hquery, hafter⟩ := bind_eq_ok_iff.1 hrest
      unfold newTelemetryPageQuery at hquery
      split_ifs at hquery with hvalid
      cases hafter
      exact ⟨Bool.eq_false_iff.2 hblank, not_lt.1 hle, not_not.1 hscope ▸ hposition, hvalid⟩
    · rintro ⟨-, -, hposition, hvalid⟩
      refine ⟨_, hposition, ?_⟩
      dsimp only
      rw [if_neg (not_not.2 rfl), newTelemetryPageQuery_some hvalid]
      rfl

/-- A cursor is refused for every other identity, unless the digests of the two collide. -/
theorem decode_of_other (hencode : codec.encode issued principal uuid = .ok cursor)
    (hother : ¬ SameIdentity principal principal')
    (hsafe : ¬ Collision (scope principal) (scope principal')) :
    ∃ thrown, codec.decode now principal' cursor = .error thrown := by
  obtain ⟨-, rfl⟩ := encode_eq_ok_iff.1 hencode
  cases hdecode : codec.decode now principal'
      (codec.jwt.sign (codec.claims issued principal uuid)) with
  | error thrown => exact ⟨thrown, rfl⟩
  | ok after =>
      obtain ⟨-, -, hposition, -⟩ := decode_eq_ok_iff.1 hdecode
      obtain ⟨hdigest, -⟩ := verifiedPosition_of_sign hposition
      exact absurd ⟨fun heq => hother (sameIdentity_of_scope heq), hdigest.symm⟩ hsafe

/-! ## Following the cursors -/

section Follow

variable {κ : Type} [LinearOrder κ] {collation : String → κ} {size : TelemetryPageSize}
variable {rows : List TelemetryReadModel} {row : TelemetryReadModel}
variable {telemetryPageFor : AuthenticatedPrincipal → TelemetryPageQuery →
  Except Thrown (List TelemetryReadModel)}
variable {decodedAt issuedAt : ℕ → ℤ} {query : TelemetryPageQuery}

/-- The keys, and a mark before all of them. -/
def mark (collation : String → κ) (row : TelemetryReadModel) : WithBot κ := collation row.uuid

/-- The mark of a query. -/
def queryMark (collation : String → κ) (query : TelemetryPageQuery) : WithBot κ :=
  query.afterUuid.elim ⊥ fun uuid => collation uuid

theorem fetched_eq (query : TelemetryPageQuery) (rows : List TelemetryReadModel) :
    fetched collation query rows =
      (pending (mark collation) (queryMark collation query) rows).take query.size.fetchLimit := by
  have hfilter : ∀ row : TelemetryReadModel,
      (query.afterUuid.all fun uuid => decide (collation uuid < collation row.uuid)) =
        decide (queryMark collation query < mark collation row) := by
    intro row
    unfold queryMark mark
    cases query.afterUuid with
    | none => exact (decide_eq_true (WithBot.bot_lt_coe _)).symm
    | some uuid => exact decide_eq_decide.2 WithBot.coe_lt_coe.symm
  have hsort := List.map_insertionSort
    (fun row row' : TelemetryReadModel => collation row.uuid ≤ collation row'.uuid)
    (fun row row' => mark collation row ≤ mark collation row') id
    (rows.filter fun row => decide (queryMark collation query < mark collation row))
    fun _ _ _ _ => WithBot.coe_le_coe.symm
  rw [List.map_id, List.map_id] at hsort
  simp only [fetched, hfilter]
  rw [hsort, pending]

/-- The reads of the pages that can be asked for find the rows. -/
def Reads (collation : String → κ) (rows : List TelemetryReadModel)
    (principal : AuthenticatedPrincipal)
    (telemetryPageFor : AuthenticatedPrincipal → TelemetryPageQuery →
      Except Thrown (List TelemetryReadModel)) : Prop :=
  ∀ query, (∀ uuid ∈ query.afterUuid, ∃ row ∈ rows, row.uuid = uuid) →
    telemetryPageFor principal query = .ok (fetched collation query rows)

/-- A cursor is used before its second of expiry. -/
def WithinLifetime (decodedAt issuedAt : ℕ → ℤ) : Prop :=
  ∀ i, epochSecond (issuedAt i) ≤ epochSecond (decodedAt (i + 1)) ∧
    epochSecond (decodedAt (i + 1)) < epochSecond (issuedAt i) + CURSOR_TTL_SECONDS

/-- The positions of the rows can be sent back. -/
def Positions (codec : JwtTelemetryCursorCodec) (principal : AuthenticatedPrincipal)
    (issuedAt : ℕ → ℤ) (rows : List TelemetryReadModel) : Prop :=
  ∀ row ∈ rows, isPosition row.uuid = true ∧ ∀ i,
    JvmText.length (codec.jwt.sign (codec.claims (issuedAt i) principal row.uuid)) ≤
      MAX_CURSOR_LENGTH

/-- The first request, or one with the cursor that the request before it got for a row. -/
inductive Stands (codec : JwtTelemetryCursorCodec) (principal : AuthenticatedPrincipal)
    (issuedAt : ℕ → ℤ) (collation : String → κ) (rows : List TelemetryReadModel) :
    ℕ → Option String → WithBot κ → Prop
  | first (i : ℕ) : Stands codec principal issuedAt collation rows i none ⊥
  | next (i : ℕ) (row : TelemetryReadModel) (h : row ∈ rows) :
      Stands codec principal issuedAt collation rows (i + 1)
        (some (codec.jwt.sign (codec.claims (issuedAt i) principal row.uuid))) (mark collation row)

theorem decode_sign (h : isPosition uuid = true)
    (hlength : JvmText.length (codec.jwt.sign (codec.claims issued principal uuid)) ≤
      MAX_CURSOR_LENGTH)
    (hissued : epochSecond issued ≤ epochSecond now)
    (hfresh : epochSecond now < epochSecond issued + CURSOR_TTL_SECONDS) :
    codec.decode now principal (codec.jwt.sign (codec.claims issued principal uuid)) = .ok uuid :=
  decode_eq_ok_iff.2 ⟨codec.jwt.sign_notBlank _, hlength, verifiedPosition_sign hissued hfresh, h⟩

/-- The rows of a request are those after its mark. -/
theorem rows_of_stands (hpositions : Positions codec principal issuedAt rows)
    (hlifetime : WithinLifetime decodedAt issuedAt)
    (hreads : Reads collation rows principal telemetryPageFor) {i : ℕ} {position : Option String}
    {m : WithBot κ} (hstands : Stands codec principal issuedAt collation rows i position m) :
    ∃ after query, position.mapM (fun cursor => codec.decode (decodedAt i) principal cursor) =
        .ok after ∧ newTelemetryPageQuery size after = .ok query ∧
      telemetryPageFor principal query =
        .ok ((pending (mark collation) m rows).take (size.value + 1)) := by
  cases hstands with
  | first =>
      refine ⟨none, ⟨size, none, rfl⟩, rfl, rfl, ?_⟩
      rw [hreads _ fun uuid huuid => absurd huuid (Option.not_mem_none uuid), fetched_eq]
      rfl
  | next i row hrow =>
      obtain ⟨hposition, hlength⟩ := hpositions row hrow
      obtain ⟨hissued, hfresh⟩ := hlifetime i
      refine ⟨some row.uuid, ⟨size, some row.uuid, hposition⟩, ?_,
        newTelemetryPageQuery_some hposition, ?_⟩
      · rw [Option.mapM_some, decode_sign hposition (hlength i) hissued hfresh]
        rfl
      · rw [hreads _ fun uuid huuid => ⟨row, hrow, Option.some.inj huuid⟩, fetched_eq]
        rfl

theorem pageOf_of_le (h : rows.length ≤ size.value) :
    pageOf codec issued principal size rows = .ok ⟨rows, none⟩ := by
  unfold pageOf
  dsimp only
  rw [if_neg h.not_gt, List.take_of_length_le h]

/-- The last row of a page that is full makes its cursor. -/
theorem pageOf_of_lt {last : TelemetryReadModel} (h : size.value < rows.length)
    (hlast : (rows.take size.value).getLast? = some last) (hvalid : isPosition last.uuid = true) :
    pageOf codec issued principal size rows = .ok ⟨rows.take size.value,
      some (codec.jwt.sign (codec.claims issued principal last.uuid))⟩ := by
  unfold pageOf
  dsimp only
  rw [if_pos h, hlast]
  dsimp only
  rw [encode_eq_ok_iff.2 ⟨hvalid, rfl⟩]
  rfl

theorem pageAt_of_stands (hpositions : Positions codec principal issuedAt rows)
    (hlifetime : WithinLifetime decodedAt issuedAt)
    (hreads : Reads collation rows principal telemetryPageFor) {i : ℕ} {position : Option String}
    {m : WithBot κ} (hstands : Stands codec principal issuedAt collation rows i position m) :
    pageAt codec telemetryPageFor decodedAt issuedAt principal size i position =
      (pageOf codec (issuedAt i) principal size
        ((pending (mark collation) m rows).take (size.value + 1))).map
          fun page => (page.items, page.nextCursor) := by
  obtain ⟨after, query, hafter, hquery, hrows⟩ :=
    rows_of_stands hpositions hlifetime hreads hstands
  have hpage : readPage codec telemetryPageFor (decodedAt i) (issuedAt i) principal
      ⟨size, position⟩ = pageOf codec (issuedAt i) principal size
        ((pending (mark collation) m rows).take (size.value + 1)) := by
    unfold readPage
    dsimp only
    rw [hafter]
    change (newTelemetryPageQuery size after >>= fun query =>
      telemetryPageFor principal query >>= pageOf codec (issuedAt i) principal size) = _
    rw [hquery]
    change (telemetryPageFor principal query >>= pageOf codec (issuedAt i) principal size) = _
    rw [hrows]
    rfl
  rw [pageAt, hpage]

theorem exists_followed (hcollation : Function.Injective collation)
    (huuids : (rows.map (·.uuid)).Nodup)
    (hpositions : Positions codec principal issuedAt rows)
    (hlifetime : WithinLifetime decodedAt issuedAt)
    (hreads : Reads collation rows principal telemetryPageFor) :
    ∃ pages, Followed (pageAt codec telemetryPageFor decodedAt issuedAt principal size) 0 none
        pages ∧
      pages.flatten.Perm rows ∧
      pages.flatten.Pairwise fun row row' => collation row.uuid < collation row'.uuid := by
  have hkeys : (rows.map (mark collation)).Nodup := by
    rw [List.Nodup, List.pairwise_map] at huuids ⊢
    exact huuids.imp fun hne heq => hne (hcollation (WithBot.coe_injective heq))
  obtain ⟨pages, hpages, hperm, hsorted⟩ := exists_followed_store
    (Stands codec principal issuedAt collation rows)
    (fun i fetched => (pageOf codec (issuedAt i) principal size fetched).map fun page =>
      (page.items, page.nextCursor))
    hkeys size.inRange.1
    (fun _ _ _ hstands => pageAt_of_stands hpositions hlifetime hreads hstands)
    (fun _ fetched hlength => by rw [pageOf_of_le hlength]; rfl)
    (fun i fetched hlength last hmem hlast => by
      refine ⟨_, ?_, .next i last hmem⟩
      rw [pageOf_of_lt hlength hlast (hpositions last hmem).1]
      rfl)
    (.first 0) fun row _ => WithBot.bot_lt_coe _
  exact ⟨pages, hpages, hperm, hsorted.imp fun h => WithBot.coe_lt_coe.1 h⟩

end Follow

/-! ## The repositories -/

theorem reads_memory {repository : InMemoryOperationalReadRepository}
    {telemetryByUuid readable : List TelemetryReadModel}
    (h : repository.filterReadable principal groupOf telemetryByUuid = .ok readable) :
    Reads JvmText.codeUnits readable principal
      (InMemoryOperationalReadRepository.telemetryPageFor repository telemetryByUuid) := by
  intro query _
  rw [InMemoryOperationalReadRepository.telemetryPageFor, h]
  rfl

theorem sublist_of_filterReadable {α : Type} {repository : InMemoryOperationalReadRepository}
    {groupId : α → Groups.GroupId} {xs readable : List α}
    (h : repository.filterReadable principal groupId xs = .ok readable) : readable.Sublist xs := by
  induction xs generalizing readable with
  | nil =>
      cases h
      exact List.Sublist.refl _
  | cons x xs ih =>
      obtain ⟨visible, -, hrest⟩ := bind_eq_ok_iff.1 h
      obtain ⟨rest, hxs, hreadable⟩ := bind_eq_ok_iff.1 hrest
      cases hreadable
      split_ifs
      · exact (ih hxs).cons_cons x
      · exact (ih hxs).cons x

section Postgres

variable {κ : Type} [LinearOrder κ] {server : Server κ} {rows : List TelemetryReadModel}

omit [LinearOrder κ] in
/-- The second condition on the group of a row demands nothing that the first does not. -/
theorem forPrincipal_eq (row : TelemetryReadModel) :
    TelemetryPageStatement.forPrincipal server principal row =
      Groups.OperationalReadSql.selectTelemetryBase server.organizationGroupClosure principal
        (groupOf row) := by
  unfold TelemetryPageStatement.forPrincipal Groups.OperationalReadSql.selectTelemetryBase
  by_cases hgroup : row.groupId.value = principal.groupId.value
  · rw [decide_eq_true hgroup, Bool.or_true, Bool.and_true]
  · cases hrole : principal.role <;> simp [TelemetryReadScope.forRole, groupOf, hgroup]

theorem reads_postgres (hgroup : (textParameter principal.groupId.value).isSome = true)
    (htexts : ∀ row ∈ rows, textParameter row.uuid = some row.uuid) :
    Reads server.collation (rows.filter fun row =>
        Groups.OperationalReadSql.selectTelemetryBase server.organizationGroupClosure principal
          (groupOf row)) principal (JdbcTelemetryPageReader.read server rows) := by
  intro query hquery
  have hparameter : (nullable textParameter query.afterUuid).isSome = true := by
    cases hafter : query.afterUuid with
    | none => rfl
    | some uuid =>
        obtain ⟨row, hrow, rfl⟩ := hquery uuid hafter
        rw [nullable, htexts row (List.mem_filter.1 hrow).1]
        rfl
  unfold JdbcTelemetryPageReader.read
  rw [if_pos ⟨hgroup, hparameter⟩, show TelemetryPageStatement.forPrincipal server principal = _
    from funext forPrincipal_eq]

end Postgres

/-- Who follows the cursors in time gets every sample that he may read once, in the order of the
uuids, and nobody else's identity is taken for his. -/
theorem telemetryPages_followed (codec : JwtTelemetryCursorCodec)
    (principal : AuthenticatedPrincipal) (size : TelemetryPageSize) (decodedAt issuedAt : ℕ → ℤ)
    (hlifetime : WithinLifetime decodedAt issuedAt) :
    (∀ (repository : InMemoryOperationalReadRepository)
        (telemetryByUuid readable : List TelemetryReadModel),
      (telemetryByUuid.map (·.uuid)).Nodup → Positions codec principal issuedAt telemetryByUuid →
      repository.filterReadable principal groupOf telemetryByUuid = .ok readable → ∃ pages,
        Followed (pageAt codec
          (InMemoryOperationalReadRepository.telemetryPageFor repository telemetryByUuid)
          decodedAt issuedAt principal size) 0 none pages ∧
        pages.flatten.Perm readable ∧
        pages.flatten.Pairwise fun row row' =>
          JvmText.codeUnits row.uuid < JvmText.codeUnits row'.uuid) ∧
    (∀ (κ : Type) [LinearOrder κ] (server : Server κ) (rows : List TelemetryReadModel),
      (rows.map (·.uuid)).Nodup → Positions codec principal issuedAt rows →
      (∀ row ∈ rows, textParameter row.uuid = some row.uuid) →
      (textParameter principal.groupId.value).isSome = true → ∃ pages,
        Followed (pageAt codec (JdbcTelemetryPageReader.read server rows) decodedAt issuedAt
          principal size) 0 none pages ∧
        pages.flatten.Perm (rows.filter fun row => Groups.OperationalReadSql.selectTelemetryBase
          server.organizationGroupClosure principal (groupOf row)) ∧
        pages.flatten.Pairwise fun row row' =>
          server.collation row.uuid < server.collation row'.uuid) ∧
    ∀ principal' issued now uuid cursor, codec.encode issued principal uuid = .ok cursor →
      ¬ SameIdentity principal principal' → ¬ Collision (scope principal) (scope principal') →
        ∃ thrown, codec.decode now principal' cursor = .error thrown := by
  refine ⟨?_, ?_, fun principal' issued now uuid cursor => decode_of_other⟩
  · intro repository telemetryByUuid readable huuids hpositions hreadable
    have hsublist := sublist_of_filterReadable hreadable
    exact exists_followed JvmText.codeUnits_injective (huuids.sublist (hsublist.map _))
      (fun row hrow => hpositions row (hsublist.subset hrow)) hlifetime (reads_memory hreadable)
  · intro κ _ server rows huuids hpositions htexts hgroup
    exact exists_followed server.collation_injective
      (huuids.sublist (List.filter_sublist.map _))
      (fun row hrow => hpositions row (List.mem_filter.1 hrow).1) hlifetime
      (reads_postgres hgroup htexts)

/-! ## Tokens without a secret -/

/-- A character of a claim, free of dots. -/
def escape (c : Char) : List Char :=
  if c = '.' then ['~', '-'] else if c = '~' then ['~', '~'] else [c]

def unescape : List Char → List Char
  | [] => []
  | '~' :: '-' :: chars => '.' :: unescape chars
  | '~' :: '~' :: chars => '~' :: unescape chars
  | c :: chars => c :: unescape chars

theorem unescape_flatMap (chars : List Char) : unescape (chars.flatMap escape) = chars := by
  induction chars with
  | nil => rfl
  | cons c chars ih =>
      rw [List.flatMap_cons, escape]
      split_ifs with hdot htilde
      · rw [List.cons_append, List.cons_append, List.nil_append, unescape, ih, hdot]
      · rw [List.cons_append, List.cons_append, List.nil_append, unescape, ih, htilde]
      · rw [List.cons_append, List.nil_append, unescape, ih]
        · rintro rest rfl
          exact absurd rfl htilde
        · rintro rest rfl
          exact absurd rfl htilde

theorem notMem_escape (c : Char) : '.' ∉ escape c := by
  unfold escape
  split_ifs with hdot
  · decide
  · decide
  · rw [List.mem_singleton]
    exact fun heq => hdot heq.symm

/-- A claim that may be missing. -/
def claimText : Option String → String
  | none => ""
  | some text => String.ofList ('=' :: text.toList.flatMap escape)

def readClaim (text : String) : Option String :=
  match text.toList with
  | [] => none
  | _ :: chars => some (String.ofList (unescape chars))

theorem readClaim_claimText (claim : Option String) : readClaim (claimText claim) = claim := by
  cases claim with
  | none => rfl
  | some text =>
      unfold readClaim claimText
      rw [String.toList_ofList]
      dsimp only
      rw [unescape_flatMap, String.ofList_toList]

theorem notMem_claimText (claim : Option String) : '.' ∉ (claimText claim).toList := by
  cases claim with
  | none => decide
  | some text =>
      rw [claimText, String.toList_ofList, List.mem_cons, not_or]
      refine ⟨by decide, fun hmem => ?_⟩
      obtain ⟨c, -, hc⟩ := List.mem_flatMap.1 hmem
      exact notMem_escape c hc

def instantText (seconds : Option ℤ) : String := claimText (seconds.map Int.repr)

def readInstant (text : String) : Option ℤ := (readClaim text).bind Decimal.parse

theorem readInstant_instantText (seconds : Option ℤ) :
    readInstant (instantText seconds) = seconds := by
  rw [readInstant, instantText, readClaim_claimText]
  cases seconds with
  | none => rfl
  | some n => exact Decimal.parse_repr n

def plainFields (claims : DecodedJWT) : List String :=
  claimText claims.issuer :: claimText claims.tokenUse :: claimText claims.pageScope ::
    claimText claims.afterUuid :: instantText claims.issuedAt :: instantText claims.notBefore ::
    instantText claims.expiresAt :: claims.audience.map fun audience => claimText (some audience)

def readPlainFields : List String → Option DecodedJWT
  | issuer :: tokenUse :: pageScope :: afterUuid :: issuedAt :: notBefore :: expiresAt ::
      audience =>
    (audience.mapM readClaim).map fun audience =>
      { issuer := readClaim issuer
        audience
        tokenUse := readClaim tokenUse
        pageScope := readClaim pageScope
        afterUuid := readClaim afterUuid
        issuedAt := readInstant issuedAt
        notBefore := readInstant notBefore
        expiresAt := readInstant expiresAt }
  | _ => none

theorem readPlainFields_plainFields (claims : DecodedJWT) :
    readPlainFields (plainFields claims) = some claims := by
  have haudience : (claims.audience.map fun audience => claimText (some audience)).mapM readClaim =
      some claims.audience :=
    CheckedSteps.mapM_map_pure fun text _ => readClaim_claimText (some text)
  simp only [plainFields, readPlainFields, readClaim_claimText, readInstant_instantText,
    haudience, Option.map_some]

/-- Anybody can make such tokens, which read as the ones of the library do. -/
def plainJwt : Jwt where
  sign claims := "t." ++ JvmText.joinToString '.' (plainFields claims)
  claimsOf token := readPlainFields (JvmText.split '.' (String.ofList (token.toList.drop 2)))
  claimsOf_sign := by
    intro claims
    have hplain : ∀ field ∈ plainFields claims, '.' ∉ field.toList := by
      simp only [plainFields, List.forall_mem_cons, instantText]
      refine ⟨notMem_claimText _, notMem_claimText _, notMem_claimText _, notMem_claimText _,
        notMem_claimText _, notMem_claimText _, notMem_claimText _, fun field hfield => ?_⟩
      obtain ⟨audience, -, rfl⟩ := List.mem_map.1 hfield
      exact notMem_claimText _
    have hdrop : String.ofList (("t." ++ JvmText.joinToString '.' (plainFields claims)).toList.drop
        2) = JvmText.joinToString '.' (plainFields claims) := by
      rw [String.toList_append]
      exact String.ofList_toList
    have hsplit : JvmText.split '.' (JvmText.joinToString '.' (plainFields claims)) =
        plainFields claims := JvmText.split_joinToString '.' (List.cons_ne_nil _ _) hplain
    rw [hdrop, hsplit, readPlainFields_plainFields]
  sign_notBlank := by
    intro claims
    rw [JvmText.isBlank, String.toList_append, List.all_append]
    rfl

theorem withinLifetime_const (t : ℤ) : WithinLifetime (fun _ => t) fun _ => t := by
  intro i
  exact ⟨le_rfl, lt_add_of_pos_right _ (by decide)⟩

def sampleCodec : JwtTelemetryCursorCodec := ⟨plainJwt, "fixture", by decide⟩

def sampleTelemetry (uuid : String) : TelemetryReadModel where
  uuid
  latitude := 0
  longitude := 0
  altitude := 0
  magneticX := 0
  magneticY := 0
  magneticZ := 0
  soc := "80"
  phoneBatterySOC := 0
  velocity := 0
  totalDistance := 0
  epochTime := "00:00:00"
  portDistance := 0
  groupId := ⟨"co-a", .refl false⟩
  batteryPercent := none
  headingDeg := none
  rollDeg := none
  pitchDeg := none
  yawDeg := none
  linkQualityPercent := none
  observedAt := none
  eventId := none
  sessionId := none
  streamId := none

/-- Of two samples on pages of one both are read, and another user cannot go on. -/
theorem telemetryPages_followed_sample :
    (∃ pages, Followed (pageAt sampleCodec
        (InMemoryOperationalReadRepository.telemetryPageFor ⟨fun _ => none, none, []⟩
          [sampleTelemetry "b", sampleTelemetry "a"])
        (fun _ => 0) (fun _ => 0) EventStream.viewer ⟨1, by decide⟩) 0 none pages ∧
      pages.flatten.Perm [sampleTelemetry "b", sampleTelemetry "a"]) ∧
    (∃ pages, Followed (pageAt sampleCodec (JdbcTelemetryPageReader.read EventStream.sampleServer
          [sampleTelemetry "b", sampleTelemetry "a"])
        (fun _ => 0) (fun _ => 0) EventStream.viewer ⟨1, by decide⟩) 0 none pages ∧
      pages.flatten.Perm [sampleTelemetry "b", sampleTelemetry "a"]) ∧
    ∃ thrown, sampleCodec.decode 0 OperationalReads.sampleAdministrator
      (sampleCodec.jwt.sign (sampleCodec.claims 0 EventStream.viewer "a")) = .error thrown := by
  have hvalid : ∀ row ∈ [sampleTelemetry "b", sampleTelemetry "a"],
      isPosition row.uuid = true ∧ JvmText.length (sampleCodec.jwt.sign
        (sampleCodec.claims 0 EventStream.viewer row.uuid)) ≤ MAX_CURSOR_LENGTH := by
    decide +kernel
  have hpositions : Positions sampleCodec EventStream.viewer (fun _ => 0)
      [sampleTelemetry "b", sampleTelemetry "a"] :=
    fun row hrow => ⟨(hvalid row hrow).1, fun _ => (hvalid row hrow).2⟩
  obtain ⟨hmemory, hpostgres, hbound⟩ := telemetryPages_followed sampleCodec EventStream.viewer
    ⟨1, by decide⟩ (fun _ => 0) (fun _ => 0) (withinLifetime_const 0)
  obtain ⟨pages, hpages, hperm, -⟩ := hmemory ⟨fun _ => none, none, []⟩
    [sampleTelemetry "b", sampleTelemetry "a"] _ (by decide) hpositions rfl
  obtain ⟨pages', hpages', hperm', -⟩ := hpostgres String EventStream.sampleServer
    [sampleTelemetry "b", sampleTelemetry "a"] (by decide) hpositions (by decide) (by decide)
  refine ⟨⟨pages, hpages, hperm⟩, ⟨pages', hpages', hperm'⟩, ?_⟩
  refine hbound OperationalReads.sampleAdministrator 0 0 "a" _
    (encode_eq_ok_iff.2 ⟨by decide +kernel, rfl⟩) (fun h => absurd h.1 (by decide)) fun h => ?_
  exact absurd h.2 (by decide +kernel)

/-- The first of two pages ends with a sample of a blank uuid, and fails. -/
theorem telemetryPages_followed_negative :
    (([sampleTelemetry " ", sampleTelemetry "a"]).map (·.uuid)).Nodup ∧
    (∀ row ∈ [sampleTelemetry " ", sampleTelemetry "a"],
      1 ≤ JvmText.length row.uuid ∧ JvmText.length row.uuid ≤ MAX_UUID_LENGTH) ∧
    WithinLifetime (fun _ => 0) (fun _ => 0) ∧
    ¬ ∃ pages, Followed (pageAt sampleCodec
        (InMemoryOperationalReadRepository.telemetryPageFor ⟨fun _ => none, none, []⟩
          [sampleTelemetry " ", sampleTelemetry "a"])
        (fun _ => 0) (fun _ => 0) EventStream.viewer ⟨1, by decide⟩) 0 none pages := by
  refine ⟨by decide, by decide, withinLifetime_const 0, ?_⟩
  rintro ⟨pages, hpages⟩
  have hfails : pageAt sampleCodec
      (InMemoryOperationalReadRepository.telemetryPageFor ⟨fun _ => none, none, []⟩
        [sampleTelemetry " ", sampleTelemetry "a"])
      (fun _ => 0) (fun _ => 0) EventStream.viewer ⟨1, by decide⟩ 0 none =
        .error (.invalidContract "telemetry_page_position_invalid" "page position is invalid") :=
    rfl
  refine CursorPages.not_followed (fun rows cursor h => ?_) hpages
  rw [hfails] at h
  cases h

end GcsSaker.TelemetryPages
