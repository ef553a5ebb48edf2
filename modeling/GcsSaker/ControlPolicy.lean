import GcsSaker.CommandTransport

/-!
# The control policy path

A control decision is made in four layers: the policy of the auth-policy service, its controller,
the HTTP client of media-control and the adapter that the control application is given. The first
two are `ControlLeasePolicy` and `AuthPolicyService.access`, the others `authorizeControl` under
the names of the client and of the adapter.
-/

namespace GcsSaker.Control

/-! ## The policy -/

inductive UserRole where
  | viewer
  | operator
  | groupAdmin
  | admin
  deriving DecidableEq

inductive GroupStatus where
  | active
  | inactive
  deriving DecidableEq

inductive RegisteredDeviceStatus where
  | active
  | pending
  | disabled
  deriving DecidableEq

/-- A group id, which is never blank. -/
structure GroupId where
  value : String
  notBlank : (value.toList.all Char.isWhitespace) = false
  deriving DecidableEq

structure AuthenticatedPrincipal where
  username : String
  role : UserRole
  groupId : GroupId
  securityVersion : ℤ
  deriving DecidableEq

structure RegisteredDevice where
  deviceUuid : String
  groupId : GroupId
  status : RegisteredDeviceStatus
  deriving DecidableEq

structure OrganizationUnit where
  id : GroupId
  status : GroupStatus
  deriving DecidableEq

inductive ControlPolicyCommand where
  | motion
  | stop
  | cameraPanTilt
  | returnHome
  | emergencyStop
  deriving DecidableEq

def ControlPolicyCommand.valueOf : String → Option ControlPolicyCommand
  | "MOTION" => some .motion
  | "STOP" => some .stop
  | "CAMERA_PAN_TILT" => some .cameraPanTilt
  | "RETURN_HOME" => some .returnHome
  | "EMERGENCY_STOP" => some .emergencyStop
  | _ => none

inductive ControlDenialCode where
  | roleForbidden
  | groupInactive
  | deviceInactive
  | crossGroup
  | staleIdentity
  | leaseConflict
  | leaseMismatch
  | leaseExpired
  | highRiskConfirmationRequired
  deriving DecidableEq

/-- The code's name in lower case. -/
def ControlDenialCode.lowercase : ControlDenialCode → String
  | .roleForbidden => "role_forbidden"
  | .groupInactive => "group_inactive"
  | .deviceInactive => "device_inactive"
  | .crossGroup => "cross_group"
  | .staleIdentity => "stale_identity"
  | .leaseConflict => "lease_conflict"
  | .leaseMismatch => "lease_mismatch"
  | .leaseExpired => "lease_expired"
  | .highRiskConfirmationRequired => "high_risk_confirmation_required"

structure ActiveControlLease where
  controlSessionId : String
  deviceUuid : String
  username : String
  expiresAt : ℤ
  deriving DecidableEq

structure ControlPolicyRequest where
  principal : AuthenticatedPrincipal
  device : RegisteredDevice
  groupStatus : GroupStatus
  authoritativeSecurityVersion : ℤ
  command : ControlPolicyCommand
  highRiskConfirmed : Bool
  now : ℤ
  deriving DecidableEq

inductive ControlPolicyDecision where
  | allowed
  | denied (code : ControlDenialCode)
  deriving DecidableEq

namespace ControlLeasePolicy

/-- The denial on role, group, device, identity or confirmation, if there is one. -/
def authorizeBoundary (request : ControlPolicyRequest) : Option ControlDenialCode :=
  if request.principal.role ≠ .operator ∧ request.principal.role ≠ .groupAdmin then
    some .roleForbidden
  else if request.groupStatus ≠ .active then some .groupInactive
  else if request.device.status ≠ .active then some .deviceInactive
  else if request.principal.groupId ≠ request.device.groupId then some .crossGroup
  else if request.principal.securityVersion ≠ request.authoritativeSecurityVersion then
    some .staleIdentity
  else if request.command = .returnHome ∧ request.highRiskConfirmed = false then
    some .highRiskConfirmationRequired
  else none

def authorizeAcquisition (request : ControlPolicyRequest)
    (currentLease : Option ActiveControlLease) : ControlPolicyDecision :=
  match authorizeBoundary request, currentLease with
  | some code, _ => .denied code
  | none, none => .allowed
  | none, some lease =>
    if request.now < lease.expiresAt ∧ lease.username ≠ request.principal.username then
      .denied .leaseConflict
    else .allowed

def authorizeCommand (request : ControlPolicyRequest) (lease : ActiveControlLease)
    (controlSessionId : String) : ControlPolicyDecision :=
  match authorizeBoundary request with
  | some code => .denied code
  | none =>
    if lease.expiresAt ≤ request.now then .denied .leaseExpired
    else if lease.controlSessionId ≠ controlSessionId ∨
        lease.deviceUuid ≠ request.device.deviceUuid ∨
        lease.username ≠ request.principal.username then .denied .leaseMismatch
    else .allowed

end ControlLeasePolicy

/-! ## The controller -/

structure ControlLeaseRequest where
  controlSessionId : String
  deviceId : String
  username : String
  expiresUnixMillis : ℤ
  deriving DecidableEq

def ControlLeaseRequest.toDomain (lease : ControlLeaseRequest) : ActiveControlLease :=
  ⟨lease.controlSessionId, lease.deviceId, lease.username,
    Clock.ofUnixMilli lease.expiresUnixMillis⟩

structure ControlAccessRequest where
  action : String
  deviceId : String
  command : String
  highRiskConfirmed : Bool
  nowUnixMillis : ℤ
  controlSessionId : Option String
  lease : Option ControlLeaseRequest
  deriving DecidableEq

structure ControlAccessResponse where
  allowed : Bool
  reason : String
  groupId : Option String
  deriving DecidableEq

def ControlPolicyDecision.toResponse (decision : ControlPolicyDecision) (groupId : String) :
    ControlAccessResponse :=
  match decision with
  | .allowed => ⟨true, "allowed", some groupId⟩
  | .denied code => ⟨false, code.lowercase, some groupId⟩

/-- What the controller finds in the stores of the auth-policy service. `requirePrincipal` gives
nothing where the service throws its unauthorized error. -/
structure AuthPolicyService where
  requirePrincipal : Option String → Option AuthenticatedPrincipal
  findByDeviceUuid : String → Option RegisteredDevice
  listAll : List OrganizationUnit

namespace AuthPolicyService

variable (service : AuthPolicyService)

def groupStatus (groupId : GroupId) : GroupStatus :=
  match service.listAll.find? fun unit => decide (unit.id = groupId) with
  | some unit => unit.status
  | none => .inactive

/-- `ControlPolicyController.access`; `none` is the unauthorized error. -/
def access (authorization : Option String) (request : ControlAccessRequest) :
    Option ControlAccessResponse :=
  (service.requirePrincipal authorization).map fun principal =>
    match service.findByDeviceUuid request.deviceId with
    | none => ⟨false, "device_not_found", none⟩
    | some device =>
      match ControlPolicyCommand.valueOf request.command with
      | none => ⟨false, "unsupported_command", some device.groupId.value⟩
      | some command =>
        let policyRequest : ControlPolicyRequest :=
          ⟨principal, device, service.groupStatus principal.groupId, principal.securityVersion,
            command, request.highRiskConfirmed, Clock.ofUnixMilli request.nowUnixMillis⟩
        if request.action = "acquire" then
          (ControlLeasePolicy.authorizeAcquisition policyRequest
            (request.lease.map ControlLeaseRequest.toDomain)).toResponse device.groupId.value
        else if request.action = "command" then
          match request.lease with
          | none => ⟨false, "lease_required", some device.groupId.value⟩
          | some lease =>
            (ControlLeasePolicy.authorizeCommand policyRequest lease.toDomain
              (request.controlSessionId.getD "")).toResponse device.groupId.value
        else ⟨false, "unsupported_action", some device.groupId.value⟩

end AuthPolicyService

/-! ## The client and the adapter -/

structure ControlLeaseTarget where
  controlSessionID : String
  deviceID : String
  username : String
  expiresAt : ℤ
  deriving DecidableEq

structure ControlAccessTarget where
  action : String
  deviceID : String
  command : String
  controlSessionID : String
  highRiskConfirmed : Bool
  now : ℤ
  lease : Option ControlLeaseTarget
  deriving DecidableEq

structure ControlAccessDecision where
  allowed : Bool
  reason : String
  groupID : String
  deriving DecidableEq

/-- The payload of the client as the controller reads it: an empty session id and a missing lease
are left out. -/
def ControlAccessTarget.payload (target : ControlAccessTarget) : ControlAccessRequest where
  action := target.action
  deviceId := target.deviceID
  command := target.command
  highRiskConfirmed := target.highRiskConfirmed
  nowUnixMillis := Clock.unixMilli target.now
  controlSessionId := if target.controlSessionID = "" then none else some target.controlSessionID
  lease := target.lease.map fun lease =>
    ⟨lease.controlSessionID, lease.deviceID, lease.username, Clock.unixMilli lease.expiresAt⟩

/-- A status and the decision in the body, if the body can be decoded. -/
structure HttpResponse where
  statusCode : ℕ
  body : Option ControlAccessDecision
  deriving DecidableEq

/-- The authorization header that the client sets. -/
def authorizationHeader (authorization : String) : Option String :=
  if authorization = "" then none else some authorization

/-- The response to the payload, as the client decodes it; a null group id becomes the empty
string. -/
def AuthPolicyService.post (service : AuthPolicyService) (authorization : String)
    (payload : ControlAccessRequest) : HttpResponse :=
  match service.access (authorizationHeader authorization) payload with
  | none => ⟨401, none⟩
  | some response => ⟨200, some ⟨response.allowed, response.reason, response.groupId.getD ""⟩⟩

/-- `Client.AuthorizeControl` over the round trip `post`, whose error is that of `postJSON`. -/
def clientAuthorizeControl (post : String → ControlAccessRequest → Except String HttpResponse)
    (authorization : String) (target : ControlAccessTarget) :
    ControlAccessDecision × Option String :=
  match post authorization target.payload with
  | .error err => (⟨false, "", ""⟩, some err)
  | .ok response =>
    if response.statusCode = 401 ∨ response.statusCode = 403 then
      (⟨false, "", ""⟩, some "control authorization denied")
    else if response.statusCode < 200 ∨ 300 ≤ response.statusCode then
      (⟨false, "", ""⟩, some "control authorization unavailable")
    else match response.body with
      | none => (⟨false, "", ""⟩, some "control authorization denied")
      | some decision =>
        if decision.allowed then (decision, none)
        else (decision, some "control authorization denied")

/-- What `controlPolicyAdapter` makes of the application's target. -/
def ControlPolicyTarget.toAccessTarget (target : ControlPolicyTarget) (now : ℤ) :
    ControlAccessTarget :=
  ⟨target.action, target.deviceID, target.command, target.controlSessionID,
    target.highRiskConfirmed, now, none⟩

/-- `controlPolicyAdapter.AuthorizeControl`. -/
def adapterAuthorizeControl (post : String → ControlAccessRequest → Except String HttpResponse)
    (authorization : String) (target : ControlPolicyTarget) (now : ℤ) : Bool × Option String :=
  let answer := clientAuthorizeControl post authorization (target.toAccessTarget now)
  (answer.2.isNone && answer.1.allowed && decide (answer.1.groupID = target.groupID), answer.2)

/-! ## What each layer decides -/

namespace ControlLeasePolicy

end ControlLeasePolicy

theorem ControlPolicyDecision.toResponse_allowed_iff (decision : ControlPolicyDecision)
    (groupId : String) : (decision.toResponse groupId).allowed = true ↔ decision = .allowed := by
  cases decision with
  | allowed => simp only [toResponse]
  | denied code => simp only [toResponse, Bool.false_eq_true, reduceCtorEq]

/-- The controller allows a command exactly when the policy allows it on the lease it was sent. -/
theorem AuthPolicyService.access_command_allowed_iff (service : AuthPolicyService)
    (authorization : Option String) (request : ControlAccessRequest)
    (haction : request.action = "command") :
    (∃ response, service.access authorization request = some response ∧
      response.allowed = true) ↔
    ∃ principal device command lease,
      service.requirePrincipal authorization = some principal ∧
      service.findByDeviceUuid request.deviceId = some device ∧
      ControlPolicyCommand.valueOf request.command = some command ∧
      request.lease = some lease ∧
      ControlLeasePolicy.authorizeCommand
        ⟨principal, device, service.groupStatus principal.groupId, principal.securityVersion,
          command, request.highRiskConfirmed, Clock.ofUnixMilli request.nowUnixMillis⟩
        lease.toDomain (request.controlSessionId.getD "") = .allowed := by
  have hacquire : request.action ≠ "acquire" := by
    rw [haction]
    decide
  unfold access
  simp only [if_neg hacquire, if_pos haction]
  cases service.requirePrincipal authorization with
  | none => simp
  | some principal =>
      cases service.findByDeviceUuid request.deviceId with
      | none => simp
      | some device =>
          cases ControlPolicyCommand.valueOf request.command with
          | none => simp
          | some command =>
              cases request.lease with
              | none => simp
              | some lease =>
                  simp only [Option.map_some, Option.some.injEq, exists_eq_left',
                    ControlPolicyDecision.toResponse_allowed_iff]
                  constructor
                  · exact fun h => ⟨principal, device, command, lease, rfl, rfl, rfl, rfl, h⟩
                  · rintro ⟨_, _, _, _, rfl, rfl, rfl, rfl, h⟩
                    exact h

/-- The client reports no error exactly on a success status with a decision to allow. -/
theorem clientAuthorizeControl_eq_none_iff
    (post : String → ControlAccessRequest → Except String HttpResponse) (authorization : String)
    (target : ControlAccessTarget) :
    (clientAuthorizeControl post authorization target).2 = none ↔
      ∃ statusCode decision, post authorization target.payload = .ok ⟨statusCode, some decision⟩ ∧
        200 ≤ statusCode ∧ statusCode < 300 ∧ decision.allowed = true ∧
        (clientAuthorizeControl post authorization target).1 = decision := by
  unfold clientAuthorizeControl
  cases post authorization target.payload with
  | error err => simp
  | ok response =>
      rcases response with ⟨statusCode, body⟩
      by_cases hdenied : statusCode = 401 ∨ statusCode = 403
      · simp only [if_pos hdenied, reduceCtorEq, Except.ok.injEq, HttpResponse.mk.injEq, false_iff]
        rintro ⟨_, _, ⟨rfl, -⟩, hlow, hhigh, -⟩
        omega
      · by_cases hrange : statusCode < 200 ∨ 300 ≤ statusCode
        · simp only [if_neg hdenied, if_pos hrange, reduceCtorEq, Except.ok.injEq,
            HttpResponse.mk.injEq, false_iff]
          rintro ⟨_, _, ⟨rfl, -⟩, hlow, hhigh, -⟩
          omega
        · push Not at hrange
          simp only [if_neg hdenied, if_neg (not_or.mpr ⟨not_lt.mpr hrange.1, not_le.mpr hrange.2⟩)]
          cases body with
          | none => simp
          | some decision =>
              cases hallowed : decision.allowed with
              | true => simp [hallowed, hrange]
              | false => simp [hallowed]

end GcsSaker.Control

/-!
# Who may command a device

The policy authorizes a command on a lease of the operator. The application knows that lease, for
it is the control session, but the adapter between it and the policy client drops it, and the
confirmation of a high-risk command is never set. So the composed path authorizes no command at
all: it is right about the operators who are not entitled, and wrong about those who are.
-/

namespace GcsSaker.Control

/-- The path from the application's target to the policy, over a network that delivers. -/
def AuthPolicyService.authorizeControl (service : AuthPolicyService) (authorization : String)
    (target : ControlPolicyTarget) (now : ℤ) : Bool × Option String :=
  adapterAuthorizeControl (fun authorization payload => .ok (service.post authorization payload))
    authorization target now

/-- A command submitted at `now` on a session that `CreateSession` made at `createdAt` for the
operator of `createdWith`. -/
structure SessionCommand where
  createdWith : String
  creation : SessionRequest
  route : InternalRoute
  createdAt : ℤ
  sessionID : String
  authorization : String
  request : CommandRequest
  now : ℤ
  deriving DecidableEq

def SessionCommand.session (c : SessionCommand) : ControlSessionState :=
  newSessionState c.creation c.route c.createdAt

/-- The answer of the composed path to the policy call of `SubmitCommand`. -/
def SessionCommand.authorized (service : AuthPolicyService) (c : SessionCommand) : Bool :=
  (service.authorizeControl c.authorization (commandTarget c.session c.sessionID c.request)
    c.now).1

/-- The operator is an active one of the device's group, the device is active, and the operator
holds the live session on which a known command is submitted. -/
structure SessionCommand.EntitledAs (service : AuthPolicyService) (c : SessionCommand)
    (principal : AuthenticatedPrincipal) (device : RegisteredDevice) : Prop where
  authenticated : service.requirePrincipal (authorizationHeader c.authorization) = some principal
  role : principal.role = .operator ∨ principal.role = .groupAdmin
  groupActive : service.groupStatus principal.groupId = .active
  registered : service.findByDeviceUuid c.creation.deviceID = some device
  deviceActive : device.status = .active
  sameGroup : principal.groupId = device.groupId
  routed : c.route.groupID = device.groupId.value
  creator : (service.requirePrincipal (authorizationHeader c.createdWith)).map (·.username) =
    some principal.username
  acquired : (service.authorizeControl c.createdWith (acquireTarget c.creation c.route)
    c.createdAt).1 = true
  started : c.createdAt ≤ c.now
  live : c.now < c.session.expiresAt
  supported : ControlPolicyCommand.valueOf c.request.command ≠ none

def SessionCommand.Entitled (service : AuthPolicyService) (c : SessionCommand) : Prop :=
  ∃ principal device, c.EntitledAs service principal device

/-- A target reaches the policy as a command only with a lease. -/
theorem AuthPolicyService.authorizeControl_command_eq_false (service : AuthPolicyService)
    (authorization : String) {target : ControlPolicyTarget} (haction : target.action = "command")
    (now : ℤ) : (service.authorizeControl authorization target now).1 = false := by
  refine Bool.eq_false_iff.mpr fun hallowed => ?_
  simp only [authorizeControl, adapterAuthorizeControl, Bool.and_eq_true,
    Option.isNone_iff_eq_none, clientAuthorizeControl_eq_none_iff] at hallowed
  obtain ⟨⟨⟨statusCode, decision, hpost, -, -, hdecision, -⟩, -⟩, -⟩ := hallowed
  rw [Except.ok.injEq, post] at hpost
  have haccess := service.access_command_allowed_iff
    (authorizationHeader authorization) (target.toAccessTarget now).payload haction
  cases hanswer : service.access (authorizationHeader authorization)
      (target.toAccessTarget now).payload with
  | none =>
      rw [hanswer] at hpost
      cases hpost
  | some response =>
      rw [hanswer] at hpost
      simp only [HttpResponse.mk.injEq, Option.some.injEq] at hpost
      have hresponse : response.allowed = true := by
        rw [← hdecision, ← hpost.2]
      obtain ⟨_, _, _, lease, -, -, -, hlease, -⟩ := haccess.mp ⟨response, hanswer, hresponse⟩
      cases hlease

/-- The composed path decides rightly exactly on the commands that are not entitled. -/
theorem SessionCommand.authorized_rightly_iff (service : AuthPolicyService) (c : SessionCommand) :
    (c.authorized service = true ↔ c.Entitled service) ↔ ¬ c.Entitled service := by
  have hfalse : c.authorized service = false :=
    service.authorizeControl_command_eq_false c.authorization rfl c.now
  rw [hfalse]
  simp only [Bool.false_eq_true, false_iff]

def sampleGroup : GroupId := ⟨"co-a", by decide +kernel⟩

/-- One operator, one drone and their group, all active. -/
def sampleService : AuthPolicyService where
  requirePrincipal authorization :=
    if authorization = some "Bearer operator-a" then some ⟨"operator-a", .operator, sampleGroup, 1⟩
    else none
  findByDeviceUuid deviceUuid :=
    if deviceUuid = "device-01" then some ⟨"device-01", sampleGroup, .active⟩ else none
  listAll := [⟨sampleGroup, .active⟩]

/-- The operator stops the drone a second after taking control of it. -/
def sampleStop : SessionCommand :=
  ⟨"Bearer operator-a", ⟨"device-01", "publish-01"⟩, sampleRoute, 0, "cs_00000001",
    "Bearer operator-a", ⟨"STOP", 1, "idempotency-01", 0, 0⟩, Clock.second⟩

theorem sampleStop_entitled : sampleStop.Entitled sampleService := by
  refine ⟨⟨"operator-a", .operator, sampleGroup, 1⟩, ⟨"device-01", sampleGroup, .active⟩, ?_⟩
  exact
    { authenticated := by decide +kernel
      role := Or.inl rfl
      groupActive := by decide +kernel
      registered := by decide +kernel
      deviceActive := rfl
      sameGroup := rfl
      routed := rfl
      creator := by decide +kernel
      acquired := by decide +kernel
      started := by decide
      live := by decide
      supported := by decide +kernel }

/-- The entitled operator is refused, for want of a lease. -/
theorem sampleStop_refused : sampleStop.Entitled sampleService ∧
    ¬ (sampleStop.authorized sampleService = true ↔ sampleStop.Entitled sampleService) := by
  refine ⟨sampleStop_entitled, fun h => ?_⟩
  have hrefused : sampleStop.authorized sampleService = false := by decide +kernel
  rw [h.mpr sampleStop_entitled] at hrefused
  cases hrefused

end GcsSaker.Control
