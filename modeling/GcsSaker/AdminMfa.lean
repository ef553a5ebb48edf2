import GcsSaker.AuthModels
import GcsSaker.Clock
import GcsSaker.Runs
import GcsSaker.Sha256

/-!
# The second factor of administrators

`TotpAdminMfaVerifier` over `JdbcRecoveryCodeStore`, for calls that overlap in any way. A call runs
without a pause from one `consume` to the next, and a `consume` is one insertion into a table whose
key is the hash. An insertion that fails may have been made all the same.
-/

namespace GcsSaker.AdminMfa

open Groups (AuthenticatedPrincipal)

def sha256 (value : String) : String :=
  Sha256.hex (Sha256.digest value.toByteArray.data.toList)

/-- `matches(Regex("[0-9a-f]{64}"))` -/
def isRecoveryHash (hash : String) : Bool :=
  hash.toList.length = 64 && hash.toList.all (· ∈ "0123456789abcdef".toList)

structure TotpAdminMfaVerifier where
  secret : List UInt8
  approvedRecoveryHashes : Finset String
  secretSize : 20 ≤ secret.length
  enoughRecoveryCodes : 2 ≤ approvedRecoveryHashes.card
  recoveryHashes : ∀ hash ∈ approvedRecoveryHashes, isRecoveryHash hash = true

/-- `matches(Regex("[0-9]{6}"))` -/
def isSixDigits (supplied : String) : Bool :=
  supplied.toList.length = 6 && supplied.toList.all (· ∈ "0123456789".toList)

/-- What a consumed hash stands for. -/
inductive Use where
  | totp (username : String) (counter : ℤ)
  | recovery (code : String)
  deriving DecidableEq

def Use.hash : Use → String
  | .totp username counter => sha256 ("totp:" ++ username ++ ":" ++ toString counter)
  | .recovery code => sha256 code

/-- Where a call stands: before an insertion, with the offsets that `any` still has to try after it,
or at its end. A call that returns true has a use, unless it is no administrator's. -/
inductive Phase where
  | consuming (use : Use) (offsets : List ℤ)
  | accepted (use : Option Use)
  | refused
  | thrown
  deriving DecidableEq

/-- A call with what it was given and the time that it read. -/
structure Call where
  principal : AuthenticatedPrincipal
  code : Option String
  now : ℤ
  phase : Phase

def Call.supplied (call : Call) : String := JvmText.trim (call.code.getD "")

/-- `clock.instant().epochSecond / 30`, which rounds towards zero. -/
def Call.currentCounter (call : Call) : ℤ := (call.now / Clock.second).tdiv 30

/-- The rows of `admin_mfa_recovery_use`, and the calls. -/
structure State where
  recoveryUse : List String
  calls : ℕ → Option Call

inductive Action where
  | verify (call : ℕ) (principal : AuthenticatedPrincipal) (code : Option String) (now : ℤ)
  | consume (call : ℕ)
  | fail (call : ℕ) (inserted : Bool)

def Action.call : Action → ℕ
  | .verify call _ _ _ => call
  | .consume call => call
  | .fail call _ => call

namespace TotpAdminMfaVerifier

variable (hmacSha1 : List UInt8 → List UInt8 → List UInt8) (verifier : TotpAdminMfaVerifier)

def totp (counter : ℤ) : String :=
  let digest := hmacSha1 verifier.secret (Sha256.bigEndian 8 (BitVec.ofInt 64 counter).toNat)
  let offset := (digest.getLastD 0 &&& 0x0f).toNat
  let int := ((digest.drop offset).take 4).foldl (fun n byte => n * 256 + byte.toNat) 0
  let binary := int &&& 0x7fffffff
  String.ofList ((toString (binary % 1000000)).toList.leftpad 6 '0')

/-- `any` over the offsets, up to its next insertion. -/
def verifyTotp (username supplied : String) (currentCounter : ℤ) : List ℤ → Phase
  | [] => .refused
  | offset :: offsets =>
    if verifier.totp hmacSha1 (currentCounter + offset) = supplied then
      .consuming (.totp username (currentCounter + offset)) offsets
    else verifyTotp username supplied currentCounter offsets

/-- A call up to its first insertion. -/
def verify (call : Call) : Phase :=
  if call.principal.role ≠ .admin then .accepted none
  else if isSixDigits call.supplied then
    verifier.verifyTotp hmacSha1 call.principal.username call.supplied call.currentCounter
      [-1, 0, 1]
  else if sha256 call.supplied ∈ verifier.approvedRecoveryHashes then
    .consuming (.recovery call.supplied) []
  else .refused

/-- A call goes on after an insertion that found its key in the table. -/
def duplicate (call : Call) (use : Use) (offsets : List ℤ) : Phase :=
  match use with
  | .totp username _ =>
    verifier.verifyTotp hmacSha1 username call.supplied call.currentCounter offsets
  | .recovery _ => .refused

end TotpAdminMfaVerifier

namespace State

def moved (s : State) (i : ℕ) (call : Call) (phase : Phase) : State :=
  { s with calls := Function.update s.calls i (some { call with phase }) }

def inserted (s : State) (use : Use) : State := { s with recoveryUse := use.hash :: s.recoveryUse }

variable (hmacSha1 : List UInt8 → List UInt8 → List UInt8) (verifier : TotpAdminMfaVerifier)

def step (s : State) : Action → Option State
  | .verify i principal code now =>
    let call : Call := { principal, code, now, phase := .refused }
    if s.calls i = none then some (s.moved i call (verifier.verify hmacSha1 call)) else none
  | .consume i => do
    let call ← s.calls i
    match call.phase with
    | .consuming use offsets =>
      if use.hash ∈ s.recoveryUse then
        some (s.moved i call (verifier.duplicate hmacSha1 call use offsets))
      else some ((s.inserted use).moved i call (.accepted (some use)))
    | _ => none
  | .fail i inserted => do
    let call ← s.calls i
    match call.phase with
    | .consuming use _ =>
      if inserted = true ∧ use.hash ∉ s.recoveryUse then
        some ((s.inserted use).moved i call .thrown)
      else some (s.moved i call .thrown)
    | _ => none

end State

/-! ## What a step can do -/

section Steps

variable {hmacSha1 : List UInt8 → List UInt8 → List UInt8} {verifier : TotpAdminMfaVerifier}
variable {s s' : State} {a : Action}

/-- A call begins, or it goes on from an insertion: the key was there, or it has been inserted and
the call returns true, or the insertion has failed with or without its row. -/
theorem step_cases (h : s.step hmacSha1 verifier a = some s') :
    (∃ call, s.calls a.call = none ∧ s' = s.moved a.call call (verifier.verify hmacSha1 call)) ∨
    ∃ call use offsets, s.calls a.call = some call ∧ call.phase = .consuming use offsets ∧
      (s' = s.moved a.call call (verifier.duplicate hmacSha1 call use offsets) ∨
        use.hash ∉ s.recoveryUse ∧ s' = (s.inserted use).moved a.call call (.accepted (some use)) ∨
        s' = s.moved a.call call .thrown ∨
        use.hash ∉ s.recoveryUse ∧ s' = (s.inserted use).moved a.call call .thrown) := by
  cases a with
  | verify i principal code now =>
      simp only [State.step] at h
      split_ifs at h with hnone
      exact .inl ⟨_, hnone, (Option.some.inj h).symm⟩
  | consume i =>
      obtain ⟨call, hcall, h⟩ := Option.bind_eq_some_iff.1 h
      cases hphase : call.phase with
      | consuming use offsets =>
          simp only [hphase] at h
          refine .inr ⟨call, use, offsets, hcall, hphase, ?_⟩
          split_ifs at h with hmem
          · exact .inl (Option.some.inj h).symm
          · exact .inr (.inl ⟨hmem, (Option.some.inj h).symm⟩)
      | accepted use => simp [hphase] at h
      | refused => simp [hphase] at h
      | thrown => simp [hphase] at h
  | fail i inserted =>
      obtain ⟨call, hcall, h⟩ := Option.bind_eq_some_iff.1 h
      cases hphase : call.phase with
      | consuming use offsets =>
          simp only [hphase] at h
          refine .inr ⟨call, use, offsets, hcall, hphase, ?_⟩
          split_ifs at h with hinserted
          · exact .inr (.inr (.inr ⟨hinserted.2, (Option.some.inj h).symm⟩))
          · exact .inr (.inr (.inl (Option.some.inj h).symm))
      | accepted use => simp [hphase] at h
      | refused => simp [hphase] at h
      | thrown => simp [hphase] at h

end Steps

/-! ## What a call may use -/

section Granted

variable (hmacSha1 : List UInt8 → List UInt8 → List UInt8) (verifier : TotpAdminMfaVerifier)

/-- The code is the one-time code of a counter within one step of the clock of the call, or an
approved recovery code. -/
inductive Granted (call : Call) : Use → Prop
  | totp {counter : ℤ} (digits : isSixDigits call.supplied = true)
    (code : verifier.totp hmacSha1 counter = call.supplied)
    (low : call.currentCounter - 1 ≤ counter) (high : counter ≤ call.currentCounter + 1) :
    Granted call (.totp call.principal.username counter)
  | recovery (digits : isSixDigits call.supplied = false)
    (approved : sha256 call.supplied ∈ verifier.approvedRecoveryHashes) :
    Granted call (.recovery call.supplied)

/-- What the phase of a call says about its principal and its code. -/
inductive Lawful (call : Call) : Phase → Prop
  | consuming {use : Use} {offsets : List ℤ} (admin : call.principal.role = .admin)
    (granted : Granted hmacSha1 verifier call use)
    (near : ∀ offset ∈ offsets, -1 ≤ offset ∧ offset ≤ 1) : Lawful call (.consuming use offsets)
  | exempt (role : call.principal.role ≠ .admin) : Lawful call (.accepted none)
  | accepted {use : Use} (admin : call.principal.role = .admin)
    (granted : Granted hmacSha1 verifier call use) : Lawful call (.accepted (some use))
  | refused (admin : call.principal.role = .admin) : Lawful call .refused
  | thrown {use : Use} (admin : call.principal.role = .admin)
    (granted : Granted hmacSha1 verifier call use) : Lawful call .thrown

variable {hmacSha1 : List UInt8 → List UInt8 → List UInt8} {verifier : TotpAdminMfaVerifier}
variable {call : Call} {offsets : List ℤ}

theorem verifyTotp_lawful (hadmin : call.principal.role = .admin)
    (hdigits : isSixDigits call.supplied = true)
    (hoffsets : ∀ offset ∈ offsets, -1 ≤ offset ∧ offset ≤ 1) :
    Lawful hmacSha1 verifier call (verifier.verifyTotp hmacSha1 call.principal.username
      call.supplied call.currentCounter offsets) := by
  induction offsets with
  | nil => exact .refused hadmin
  | cons offset offsets ih =>
      obtain ⟨hoffset, hrest⟩ := List.forall_mem_cons.1 hoffsets
      rw [TotpAdminMfaVerifier.verifyTotp]
      split_ifs with htotp
      · exact .consuming hadmin (.totp hdigits htotp (by omega) (by omega)) hrest
      · exact ih hrest

theorem verify_lawful (call : Call) :
    Lawful hmacSha1 verifier call (verifier.verify hmacSha1 call) := by
  rw [TotpAdminMfaVerifier.verify]
  split_ifs with hrole hdigits hrecovery
  · exact .exempt hrole
  · exact verifyTotp_lawful (not_not.1 hrole) hdigits (by decide)
  · exact .consuming (not_not.1 hrole) (.recovery (Bool.eq_false_iff.2 hdigits) hrecovery)
      fun _ h => absurd h List.not_mem_nil
  · exact .refused (not_not.1 hrole)

theorem duplicate_lawful {use : Use} (h : Lawful hmacSha1 verifier call (.consuming use offsets)) :
    Lawful hmacSha1 verifier call (verifier.duplicate hmacSha1 call use offsets) := by
  cases h with
  | consuming hadmin hgranted hoffsets =>
      cases hgranted with
      | totp hdigits => exact verifyTotp_lawful hadmin hdigits hoffsets
      | recovery => exact .refused hadmin

/-- A wrong code is refused before any insertion. -/
theorem Lawful.eq_refused {phase : Phase} (h : Lawful hmacSha1 verifier call phase)
    (hadmin : call.principal.role = .admin) (hwrong : ∀ use, ¬ Granted hmacSha1 verifier call use) :
    phase = .refused := by
  cases h with
  | consuming _ hgranted => exact absurd hgranted (hwrong _)
  | exempt hrole => exact absurd hadmin hrole
  | accepted _ hgranted => exact absurd hgranted (hwrong _)
  | refused => rfl
  | thrown _ hgranted => exact absurd hgranted (hwrong _)

end Granted

/-! ## The invariant -/

section Invariant

variable (hmacSha1 : List UInt8 → List UInt8 → List UInt8) (verifier : TotpAdminMfaVerifier)

/-- The table had the rows `before` when the first call began. -/
structure Invariant (before : List String) (s : State) : Prop where
  lawful : ∀ i call, s.calls i = some call → Lawful hmacSha1 verifier call call.phase
  recorded : ∀ i call use, s.calls i = some call → call.phase = .accepted (some use) →
    use.hash ∈ s.recoveryUse
  once : ∀ i j call call' use use', s.calls i = some call → s.calls j = some call' →
    call.phase = .accepted (some use) → call'.phase = .accepted (some use') →
      use.hash = use'.hash → i = j
  attributed : ∀ hash ∈ s.recoveryUse, hash ∈ before ∨ ∃ i call use, s.calls i = some call ∧
    Granted hmacSha1 verifier call use ∧ use.hash = hash ∧
      (call.phase = .accepted (some use) ∨ call.phase = .thrown)

variable {hmacSha1 : List UInt8 → List UInt8 → List UInt8} {verifier : TotpAdminMfaVerifier}
variable {before : List String} {s s' : State} {i : ℕ} {call : Call} {phase : Phase} {use : Use}
variable {offsets : List ℤ}

theorem Granted.withPhase (h : Granted hmacSha1 verifier call use) (phase : Phase) :
    Granted hmacSha1 verifier { call with phase } use := by
  cases h with
  | totp digits code low high => exact .totp digits code low high
  | recovery digits approved => exact .recovery digits approved

theorem Lawful.withPhase (h : Lawful hmacSha1 verifier call phase) :
    Lawful hmacSha1 verifier { call with phase } phase := by
  cases h with
  | consuming admin granted near => exact .consuming admin (granted.withPhase _) near
  | exempt role => exact .exempt role
  | accepted admin granted => exact .accepted admin (granted.withPhase _)
  | refused admin => exact .refused admin
  | thrown admin granted => exact .thrown admin (granted.withPhase _)

theorem calls_moved (s : State) (i j : ℕ) (call : Call) (phase : Phase) :
    (s.moved i call phase).calls j = if j = i then some { call with phase } else s.calls j :=
  Function.update_apply ..

/-- A call that moves was not at its end. -/
def Unfinished (s : State) (i : ℕ) : Prop :=
  ∀ call, s.calls i = some call → ∃ use offsets, call.phase = .consuming use offsets

theorem Unfinished.ne (hi : Unfinished s i) {j : ℕ} {call : Call} (hj : s.calls j = some call)
    (hphase : ∀ use offsets, call.phase ≠ .consuming use offsets) : j ≠ i := by
  rintro rfl
  obtain ⟨use, offsets, hconsuming⟩ := hi call hj
  exact hphase use offsets hconsuming

/-- A call moves without an insertion, and not to its successful end. -/
theorem Invariant.moved (h : Invariant hmacSha1 verifier before s) (hi : Unfinished s i)
    (hlawful : Lawful hmacSha1 verifier call phase) (hphase : ∀ use, phase ≠ .accepted (some use)) :
    Invariant hmacSha1 verifier before (s.moved i call phase) := by
  have hother : ∀ {j call' use}, (s.moved i call phase).calls j = some call' →
      call'.phase = .accepted (some use) → j ≠ i ∧ s.calls j = some call' := by
    intro j call' use hj haccepted
    rw [calls_moved] at hj
    split_ifs at hj with heq
    · obtain rfl := Option.some.inj hj
      exact absurd haccepted (hphase use)
    · exact ⟨heq, hj⟩
  constructor
  case lawful =>
    intro j call' hj
    rw [calls_moved] at hj
    split_ifs at hj
    · obtain rfl := Option.some.inj hj
      exact hlawful.withPhase
    · exact h.lawful j call' hj
  case recorded =>
    intro j call' use hj haccepted
    exact h.recorded j call' use (hother hj haccepted).2 haccepted
  case once =>
    intro j j' call' call'' use use' hj hj' haccepted haccepted'
    exact h.once j j' call' call'' use use' (hother hj haccepted).2 (hother hj' haccepted').2
      haccepted haccepted'
  case attributed =>
    intro hash hmem
    refine (h.attributed hash hmem).imp_right ?_
    rintro ⟨j, call', use, hj, hgranted, hhash, hend⟩
    have hne : j ≠ i := hi.ne hj fun use' offsets hconsuming => by simp [hconsuming] at hend
    exact ⟨j, call', use, by rw [calls_moved, if_neg hne, hj], hgranted, hhash, hend⟩

/-- A call inserts a hash that was not there, and ends. -/
theorem Invariant.inserted (h : Invariant hmacSha1 verifier before s)
    (hcall : s.calls i = some call) (hconsuming : call.phase = .consuming use offsets)
    (hnew : use.hash ∉ s.recoveryUse)
    (hphase : phase = .accepted (some use) ∨ phase = .thrown) :
    Invariant hmacSha1 verifier before ((s.inserted use).moved i call phase) := by
  have hlawful := h.lawful i call hcall
  rw [hconsuming] at hlawful
  obtain ⟨hadmin, hgranted⟩ : call.principal.role = .admin ∧
      Granted hmacSha1 verifier call use := by
    cases hlawful with
    | consuming admin granted => exact ⟨admin, granted⟩
  have hi : Unfinished s i := by
    intro call' hcall'
    obtain rfl := Option.some.inj (hcall.symm.trans hcall')
    exact ⟨use, offsets, hconsuming⟩
  have hcases : ∀ {j call' use'}, ((s.inserted use).moved i call phase).calls j = some call' →
      call'.phase = .accepted (some use') →
        (j = i ∧ use' = use) ∨ (s.calls j = some call' ∧ use'.hash ∈ s.recoveryUse) := by
    intro j call' use' hj haccepted
    rw [calls_moved] at hj
    split_ifs at hj with heq
    · obtain rfl := Option.some.inj hj
      rcases hphase with rfl | rfl
      · cases haccepted
        exact .inl ⟨heq, rfl⟩
      · cases haccepted
    · exact .inr ⟨hj, h.recorded j call' use' hj haccepted⟩
  constructor
  case lawful =>
    intro j call' hj
    rw [calls_moved] at hj
    split_ifs at hj
    · obtain rfl := Option.some.inj hj
      rcases hphase with rfl | rfl
      · exact .accepted hadmin (hgranted.withPhase _)
      · exact .thrown hadmin (hgranted.withPhase _)
    · exact h.lawful j call' hj
  case recorded =>
    intro j call' use' hj haccepted
    rcases hcases hj haccepted with ⟨-, rfl⟩ | ⟨-, hmem⟩
    · exact List.mem_cons_self ..
    · exact List.mem_cons_of_mem _ hmem
  case once =>
    intro j j' call' call'' use' use'' hj hj' haccepted haccepted' hhash
    rcases hcases hj haccepted with ⟨rfl, rfl⟩ | ⟨hold, hmem⟩
    · rcases hcases hj' haccepted' with ⟨rfl, -⟩ | ⟨-, hmem'⟩
      · rfl
      · exact absurd (hhash ▸ hmem') hnew
    · rcases hcases hj' haccepted' with ⟨rfl, rfl⟩ | ⟨hold', -⟩
      · exact absurd (hhash ▸ hmem) hnew
      · exact h.once j j' call' call'' use' use'' hold hold' haccepted haccepted' hhash
  case attributed =>
    intro hash hmem
    rcases List.mem_cons.1 hmem with rfl | hmem
    · refine .inr ⟨i, { call with phase }, use, ?_, hgranted.withPhase phase, rfl, hphase⟩
      rw [calls_moved, if_pos rfl]
    · refine (h.attributed hash hmem).imp_right ?_
      rintro ⟨j, call', use', hj, hgranted', hhash, hend⟩
      have hne : j ≠ i := hi.ne hj fun use' offsets hconsuming' => by simp [hconsuming'] at hend
      refine ⟨j, call', use', ?_, hgranted', hhash, hend⟩
      rw [calls_moved, if_neg hne]
      exact hj

theorem verifyTotp_ne_accepted (username supplied : String) (currentCounter : ℤ)
    (offsets : List ℤ) (use : Option Use) :
    verifier.verifyTotp hmacSha1 username supplied currentCounter offsets ≠ .accepted use := by
  induction offsets with
  | nil => exact Phase.noConfusion
  | cons offset offsets ih =>
      rw [TotpAdminMfaVerifier.verifyTotp]
      split_ifs
      · exact Phase.noConfusion
      · exact ih

theorem verify_ne_accepted (call : Call) (use : Use) :
    verifier.verify hmacSha1 call ≠ .accepted (some use) := by
  rw [TotpAdminMfaVerifier.verify]
  split_ifs
  · simp
  · exact verifyTotp_ne_accepted _ _ _ _ _
  · simp
  · simp

theorem Invariant.step {a : Action} (h : Invariant hmacSha1 verifier before s)
    (hstep : s.step hmacSha1 verifier a = some s') : Invariant hmacSha1 verifier before s' := by
  rcases step_cases hstep with ⟨call, hnone, rfl⟩ | ⟨call, use, offsets, hcall, hphase, hmove⟩
  · refine h.moved (fun call' hcall' => ?_) (verify_lawful call) (verify_ne_accepted call)
    rw [hnone] at hcall'
    cases hcall'
  · have hi : Unfinished s a.call := by
      intro call' hcall'
      obtain rfl := Option.some.inj (hcall.symm.trans hcall')
      exact ⟨use, offsets, hphase⟩
    have hlawful := h.lawful _ call hcall
    rw [hphase] at hlawful
    rcases hmove with rfl | ⟨hnew, rfl⟩ | rfl | ⟨hnew, rfl⟩
    · refine h.moved hi (duplicate_lawful hlawful) fun use' => ?_
      cases use with
      | totp username counter => exact verifyTotp_ne_accepted _ _ _ _ _
      | recovery code => exact Phase.noConfusion
    · exact h.inserted hcall hphase hnew (.inl rfl)
    · refine h.moved hi ?_ fun use' => Phase.noConfusion
      cases hlawful with
      | consuming admin granted => exact .thrown admin granted
    · exact h.inserted hcall hphase hnew (.inr rfl)

theorem invariant_of_run {before : List String} {acts : List Action}
    (hrun : Runs.run (State.step hmacSha1 verifier) ⟨before, fun _ => none⟩ acts = some s) :
    Invariant hmacSha1 verifier before s := by
  refine Runs.run_invariant_of_step (fun s a s' h hstep => h.step hstep) ?_ hrun
  constructor
  · intro i call hcall
    cases hcall
  · intro i call use hcall
    cases hcall
  · intro i j call call' use use' hcall
    cases hcall
  · exact fun hash hmem => .inl hmem

end Invariant

/-! ## The whole -/

/-- However the calls overlap: a call of an administrator that returns true was given a one-time
code of now or an approved recovery code, no two calls return true for the same counter of a user
or the same recovery code, and a wrong code is refused without an insertion. Every row that the
calls have inserted stands for a right code. -/
theorem verify_accepts_once (hmacSha1 : List UInt8 → List UInt8 → List UInt8)
    (verifier : TotpAdminMfaVerifier) (before : List String) (acts : List Action) (s : State)
    (hrun : Runs.run (State.step hmacSha1 verifier) ⟨before, fun _ => none⟩ acts = some s) :
    (∀ i call accepted, s.calls i = some call → call.principal.role = .admin →
      call.phase = .accepted accepted →
        ∃ use, accepted = some use ∧ Granted hmacSha1 verifier call use) ∧
    (∀ i j call call' use, s.calls i = some call → s.calls j = some call' →
      call.phase = .accepted (some use) → call'.phase = .accepted (some use) → i = j) ∧
    (∀ i call, s.calls i = some call → call.principal.role = .admin →
      (∀ use, ¬ Granted hmacSha1 verifier call use) → call.phase = .refused) ∧
    (∀ a s' call, s.step hmacSha1 verifier a = some s' → s'.calls a.call = some call →
      call.principal.role = .admin → (∀ use, ¬ Granted hmacSha1 verifier call use) →
        s'.recoveryUse = s.recoveryUse) ∧
    ∀ hash ∈ s.recoveryUse, hash ∈ before ∨ ∃ i call use, s.calls i = some call ∧
      Granted hmacSha1 verifier call use ∧ use.hash = hash ∧
        (call.phase = .accepted (some use) ∨ call.phase = .thrown) := by
  have h := invariant_of_run hrun
  refine ⟨fun i call accepted hcall hadmin hphase => ?_,
    fun i j call call' use hi hj hphase hphase' =>
      h.once i j call call' use use hi hj hphase hphase' rfl,
    fun i call hcall hadmin hwrong => (h.lawful i call hcall).eq_refused hadmin hwrong,
    fun a s' call hstep hcall hadmin hwrong => ?_, h.attributed⟩
  · have hlawful := h.lawful i call hcall
    rw [hphase] at hlawful
    cases hlawful with
    | exempt role => exact absurd hadmin role
    | accepted admin granted => exact ⟨_, rfl, granted⟩
  · rcases step_cases hstep with ⟨call', -, rfl⟩ | ⟨call', use, offsets, hcall', hphase, hmove⟩
    · rfl
    · have hlawful := h.lawful _ call' hcall'
      rw [hphase] at hlawful
      have hgranted : Granted hmacSha1 verifier call' use := by
        cases hlawful with
        | consuming admin granted => exact granted
      have hsame : ∃ phase, call = { call' with phase } := by
        rcases hmove with rfl | ⟨-, rfl⟩ | rfl | ⟨-, rfl⟩ <;>
          rw [calls_moved, if_pos rfl] at hcall <;>
          exact ⟨_, (Option.some.inj hcall).symm⟩
      obtain ⟨phase, rfl⟩ := hsame
      exact absurd (hgranted.withPhase phase) (hwrong use)

/-! ## A code that is given twice -/

/-- What the function gives under the secret of the sample for the counters 0, 1 and 2. -/
def sampleHmacSha1 (_ message : List UInt8) : List UInt8 :=
  if message = Sha256.bigEndian 8 0 then
      [0xcc, 0x93, 0xcf, 0x18, 0x50, 0x8d, 0x94, 0x93, 0x4c, 0x64, 0xb6, 0x5d, 0x8b, 0xa7,
        0x66, 0x7f, 0xb7, 0xcd, 0xe4, 0xb0]
  else if message = Sha256.bigEndian 8 1 then
      [0x75, 0xa4, 0x8a, 0x19, 0xd4, 0xcb, 0xe1, 0x00, 0x64, 0x4e, 0x8a, 0xc1, 0x39, 0x7e,
        0xea, 0x74, 0x7a, 0x2d, 0x33, 0xab]
  else
      [0x0b, 0xac, 0xb7, 0xfa, 0x08, 0x2f, 0xef, 0x30, 0x78, 0x22, 0x11, 0x93, 0x8b, 0xc1,
        0xc5, 0xe7, 0x04, 0x16, 0xff, 0x44]

def sampleVerifier : TotpAdminMfaVerifier where
  secret := "12345678901234567890".toByteArray.data.toList
  approvedRecoveryHashes :=
    {"d0a21383c4ba1f0d094db24607e997414584ad4df205bbbfddd1fdda6f3ef806",
      "35fc649d46ff06200d9d3dfdc1dc27b5c07cd07e4bbb4aa208d1e2d25df90fa9"}
  secretSize := by decide +kernel
  enoughRecoveryCodes := by decide +kernel
  recoveryHashes := by decide +kernel

def sampleAdministrator : AuthenticatedPrincipal :=
  ⟨"admin", .admin, ⟨"co-a", .refl false⟩, 1, .refl false, Nat.one_pos⟩

/-- The code of the counter 1 is given twice in the minute from the epoch on. -/
def replay : List Action := [
  .verify 0 sampleAdministrator (some "287082") (59 * Clock.second),
  .verify 1 sampleAdministrator (some " 287082 ") (59 * Clock.second),
  .consume 0,
  .consume 1]

theorem verify_accepts_once_replay :
    ∃ s, Runs.run (State.step sampleHmacSha1 sampleVerifier) ⟨[], fun _ => none⟩ replay = some s ∧
      (s.calls 0).map Call.phase = some (.accepted (some (.totp "admin" 1))) ∧
      (s.calls 1).map Call.phase = some .refused ∧
      ∀ i j call call' use, s.calls i = some call → s.calls j = some call' →
        call.phase = .accepted (some use) → call'.phase = .accepted (some use) → i = j := by
  have hphases : (Runs.run (State.step sampleHmacSha1 sampleVerifier) ⟨[], fun _ => none⟩
      replay).map (fun s => ((s.calls 0).map Call.phase, (s.calls 1).map Call.phase)) =
        some (some (.accepted (some (.totp "admin" 1))), some .refused) := by decide +kernel
  obtain ⟨s, hrun, hphase⟩ := Option.map_eq_some_iff.1 hphases
  obtain ⟨hfirst, hsecond⟩ := Prod.mk.inj hphase
  exact ⟨s, hrun, hfirst, hsecond, (verify_accepts_once _ _ _ _ s hrun).2.1⟩

end GcsSaker.AdminMfa
