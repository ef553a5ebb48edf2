import GcsSaker.TelemetryIngestRpc
import GcsSaker.TelemetryStore

/-!
# One contract for telemetry

The gateway and the policy service check a sample twice, in two languages. They agree on the ranges,
on NaN, on the null island and on the future, but the policy service also limits the lengths of the
identities and counts more characters as blank. A sample that only the policy service refuses is
answered with backpressure whenever it is sent.
-/

namespace GcsSaker.TelemetryContract

open TelemetryGateway TelemetryIngestRpc
open TelemetryStore (ingestBoundTelemetry)

/-! ## The two readings of a range -/

theorem within_of_not_outside {low high value : Float} (hvalue : value.isNaN = false)
    (h : outside low high value = false) (hlow : low.isNaN = false := by decide +kernel)
    (hhigh : high.isNaN = false := by decide +kernel) : within low high value = true := by
  rw [outside, Bool.or_eq_false_iff, decide_eq_false_iff_not, decide_eq_false_iff_not] at h
  rw [within, Bool.and_eq_true, decide_eq_true_eq, decide_eq_true_eq]
  exact ⟨FloatOrder.le_of_not_lt hvalue hlow h.1, FloatOrder.le_of_not_lt hhigh hvalue h.2⟩

theorem isNaN_of_validateFiniteTelemetryValues {v : Telemetry} {now : ℤ}
    (h : validateFiniteTelemetryValues v now = none) :
    (v.latitude.isNaN = false ∧ v.longitude.isNaN = false ∧ v.altitudeM.isNaN = false) ∧
      v.headingDeg.isNaN = false ∧ v.speedMPS.isNaN = false ∧ v.batteryPercent.isNaN = false ∧
      (v.rollDeg.isNaN = false ∧ v.pitchDeg.isNaN = false ∧ v.yawDeg.isNaN = false) ∧
      v.linkQualityPercent.isNaN = false := by
  simp only [validateFiniteTelemetryValues, List.any_cons, List.any_nil, Bool.or_false,
    ite_eq_right_iff, reduceCtorEq, imp_false, Bool.not_eq_true, Bool.or_eq_false_iff] at h
  obtain ⟨⟨h1, -⟩, ⟨h2, -⟩, ⟨h3, -⟩, ⟨h4, -⟩, ⟨h5, -⟩, ⟨h6, -⟩, ⟨h7, -⟩, ⟨h8, -⟩, ⟨h9, -⟩,
    h10, -⟩ := h
  exact ⟨⟨h1, h2, h3⟩, h4, h5, h6, ⟨h7, h8, h9⟩, h10⟩

/-- What the gateway lets through is in the ranges of the policy service. -/
theorem validateSample_of_validateTelemetry {message : TelemetryEnvelope} {time : Timestamped}
    {position : TelemetryGateway.GeoPoint} {now : ℤ}
    (h : validateTelemetry (message.telemetry time position) now = none) :
    validateSample message position = .ok () := by
  obtain ⟨-, hfinite, hposition, hmotion, hsignal, hattitude⟩ := validateTelemetry_eq_none_iff.mp h
  obtain ⟨⟨hlat, hlon, halt⟩, hheading, hspeed, hbattery, ⟨hroll, hpitch, hyaw⟩, hlink⟩ :=
    isNaN_of_validateFiniteTelemetryValues hfinite
  simp only [validateTelemetryPosition, validateTelemetryMotion, validateTelemetrySignal,
    validateTelemetryAttitude, List.any_cons, List.any_nil, Bool.or_false, ite_eq_right_iff,
    reduceCtorEq, imp_false, Bool.not_eq_true, Bool.or_eq_false_iff, decide_eq_false_iff_not,
    ite_eq_iff, and_false, false_or] at hposition hmotion hsignal hattitude
  obtain ⟨⟨houtLat, houtLon⟩, hisland⟩ := hposition
  obtain ⟨houtAlt, houtSpeed⟩ := hmotion
  obtain ⟨⟨⟨hnegative, hfull⟩, houtBattery⟩, houtLink⟩ := hsignal
  obtain ⟨houtRoll, houtPitch, houtYaw⟩ := hattitude
  rw [validateSample_eq_ok_iff]
  refine ⟨?_, ?_, ?_, ?_, ?_, ?_⟩
  · rw [Bool.and_eq_true]
    exact ⟨within_of_not_outside hlat houtLat,
      within_of_not_outside hlon houtLon⟩
  · rw [bne, bne, ← Bool.not_and]
    exact congrArg not hisland
  · rw [Bool.and_eq_true]
    exact ⟨within_of_not_outside halt houtAlt, within_of_not_outside hspeed houtSpeed⟩
  · rw [Bool.and_eq_true, decide_eq_true_eq, decide_eq_true_eq]
    exact ⟨FloatOrder.le_of_not_lt hheading (by decide +kernel) hnegative,
      FloatOrder.lt_of_not_le hheading (by decide +kernel) hfull⟩
  · rw [Bool.and_eq_true]
    exact ⟨within_of_not_outside hbattery houtBattery, within_of_not_outside hlink houtLink⟩
  · simp only [List.all_cons, List.all_nil, Bool.and_true, Bool.and_eq_true]
    exact ⟨within_of_not_outside hroll houtRoll, within_of_not_outside hpitch houtPitch,
      within_of_not_outside hyaw houtYaw⟩

/-- The identity and the time as the gateway has checked them, at this moment and at every later
one. -/
theorem validateTelemetryIdentityAndTime_eq_none_iff {v : Telemetry} {now : ℤ} :
    validateTelemetryIdentityAndTime v now = none ↔
      (MediaToken.isBlank v.eventID = false ∧ MediaToken.isBlank v.assetID = false ∧
        0 < v.observedUnixMillis) ∧
      v.observedUnixMillis ≤ Clock.unixMilli now + maxFutureSkewMillis := by
  have hskew : now + 300 * Clock.second < Clock.ofUnixMilli v.observedUnixMillis ↔
      ¬ v.observedUnixMillis ≤ Clock.unixMilli now + maxFutureSkewMillis := by
    simp only [Clock.second, Clock.ofUnixMilli, Clock.unixMilli, Clock.millisecond,
      maxFutureSkewMillis]
    omega
  rw [validateTelemetryIdentityAndTime, ite_eq_iff, ite_eq_iff, hskew]
  simp only [reduceCtorEq, and_false, false_or, and_true, Bool.not_eq_true, Bool.or_eq_false_iff,
    decide_eq_false_iff_not, not_le, not_lt, and_assoc]

theorem validateTelemetry_later {v : Telemetry} {now later : ℤ}
    (h : validateTelemetry v now = none) (hlater : now ≤ later) :
    validateTelemetry v later = none := by
  rw [validateTelemetry_eq_none_iff, validateTelemetryIdentityAndTime_eq_none_iff] at h ⊢
  obtain ⟨⟨hidentity, htime⟩, hrest⟩ := h
  have hmono : Clock.unixMilli now ≤ Clock.unixMilli later :=
    Int.ediv_le_ediv (by decide) hlater
  exact ⟨⟨hidentity, by omega⟩, hrest⟩

/-! ## Attempts -/

/-- What becomes of the reservation of an event, or the state that its holder has left. -/
inductive Reservation where
  | failed (error : String)
  | acquired
  | held (state : Option String)
  deriving DecidableEq

/-- An attempt to store a sample, with what it meets: whether its context has credentials, Redis,
the network, ingestion, and Redis once more. -/
structure Attempt where
  now : ℤ
  credentialed : Bool
  reservation : Reservation
  lost : Option String
  ingest : TelemetryReadModel → Except Failure Unit
  unreleased : Option String
  uncommitted : Option String

/-- The binding of the session, or of the identity if it has no session. -/
def bindingOf (identity : GatewayIdentity) : DeviceBinding :=
  match identity.session with
  | none =>
    ⟨identity.deviceUUID, identity.groupID, identity.credentialVersion, identity.policyVersion⟩
  | some session =>
    ⟨session.deviceUUID, session.groupID, session.credentialVersion, session.devicePolicyVersion⟩

def rpcRequest (identity : GatewayIdentity) (telemetry : Telemetry) : DeviceTelemetryRequest where
  binding := bindingOf identity
  telemetry := some telemetry.envelope
  sessionId := (identity.session.map fun session => session.sessionID).getD ""
  streamId := (identity.session.map fun session => session.streamID).getD ""

namespace Attempt

variable (attempt : Attempt) (credentials : Credentials)
  (unmarshal : List UInt8 → Except String TelemetryEnvelope) (identity : GatewayIdentity)
  (request : GatewayStreamRequest) (telemetry : Telemetry)

def persistTelemetry : Option String :=
  ingestBoundTelemetry <| match attempt.lost with
    | some error => .error error
    | none => (ingestTelemetry credentials attempt.ingest (rpcRequest identity telemetry)
      attempt.now).mapError fun status => status.2

def storeTelemetry : Option String :=
  if !attempt.credentialed then some "gateway credentials missing"
  else match attempt.reservation with
  | .failed error => some ("reserve telemetry event: " ++ error)
  | .held (some "stored") => none
  | .held _ => some "telemetry event is already being stored"
  | .acquired => match attempt.persistTelemetry credentials identity telemetry with
    | some error => some (match attempt.unreleased with
      | none => error
      | some unreleased => error ++ "\n" ++ "release telemetry reservation: " ++ unreleased)
    | none => attempt.uncommitted.map fun error =>
      "commit telemetry event idempotency: " ++ error

def answer : GatewayRequestDecision :=
  handleGatewayRequest unmarshal (some (attempt.storeTelemetry credentials)) (some identity) request
    attempt.now

theorem persistTelemetry_eq_none
    (h : attempt.persistTelemetry credentials identity telemetry = none) :
    ∃ device mapped, credentials.validatedDevice (bindingOf identity) = .ok device ∧
      mapSample device (rpcRequest identity telemetry) attempt.now = .ok mapped := by
  unfold persistTelemetry ingestBoundTelemetry at h
  cases hlost : attempt.lost with
  | some error => simp only [hlost, reduceCtorEq] at h
  | none =>
      cases hanswer : ingestTelemetry credentials attempt.ingest (rpcRequest identity telemetry)
          attempt.now with
      | error status => simp only [hlost, hanswer, Except.mapError, reduceCtorEq] at h
      | ok stored =>
          obtain ⟨-, device, mapped, hdevice, hmapped, -⟩ := ingestTelemetry_eq_ok_iff.mp hanswer
          exact ⟨device, mapped, hdevice, hmapped⟩

theorem storeTelemetry_eq_none
    (h : attempt.storeTelemetry credentials identity telemetry = none) :
    attempt.reservation = .held (some "stored") ∨
      attempt.persistTelemetry credentials identity telemetry = none := by
  unfold storeTelemetry at h
  split_ifs at h
  split at h
  · cases h
  · rename_i hheld
    exact Or.inl hheld
  · cases h
  · split at h
    · cases h
    · rename_i hpersisted
      exact Or.inr hpersisted

/-- The attempt brings the sample to ingestion, which takes it. -/
def Stores : Prop :=
  ∃ telemetry device mapped, Admitted unmarshal identity request telemetry attempt.now ∧
    attempt.credentialed = true ∧ attempt.reservation = .acquired ∧
    credentials.validatedDevice (bindingOf identity) = .ok device ∧
    mapSample device (rpcRequest identity telemetry) attempt.now = .ok mapped ∧
    attempt.ingest mapped = .ok ()

end Attempt

/-! ## The contract -/

/-- The identities that the policy service takes. -/
structure Ingestible (eventID deviceUuid : String) : Prop where
  named : JvmText.isBlank eventID = false
  event : JvmText.length (JvmText.trim eventID) ≤ maxEventIdLength
  device : JvmText.length (JvmText.trim deviceUuid) ≤ maxUuidLength

variable {credentials : Credentials} {unmarshal : List UInt8 → Except String TelemetryEnvelope}
  {identity : GatewayIdentity} {request : GatewayStreamRequest} {telemetry : Telemetry}
  {device : RegisteredDevice} {now : ℤ}

/-- The sample gets as far as ingestion, and if it is answered with backpressure, then a later
attempt can still store it. -/
structure KeepsContract (credentials : Credentials)
    (unmarshal : List UInt8 → Except String TelemetryEnvelope) (identity : GatewayIdentity)
    (request : GatewayStreamRequest) (telemetry : Telemetry) (device : RegisteredDevice)
    (now : ℤ) : Prop where
  passes : ∃ mapped, mapSample device (rpcRequest identity telemetry) now = .ok mapped
  retried : ∀ attempt : Attempt, attempt.now = now →
    (attempt.answer credentials unmarshal identity request).status = .backpressure →
    ∃ retry : Attempt, now < retry.now ∧ retry.Stores credentials unmarshal identity request

/-- What the gateway accepts of a device goes on to ingestion if and only if its identities suit the
policy service. -/
theorem mapSample_isOk_iff_ingestible
    (hdecoded : decodeTelemetry unmarshal request.value = .ok telemetry)
    (hvalid : validateTelemetry telemetry now = none)
    (hasset : telemetry.assetID = device.deviceUuid) :
    (∃ mapped, mapSample device (rpcRequest identity telemetry) now = .ok mapped) ↔
      Ingestible telemetry.eventID device.deviceUuid := by
  obtain ⟨message, time, position, -, htime, hposition, -, -, hobserved, rfl⟩ :=
    decodeTelemetry_eq_ok_iff.mp hdecoded
  have hskew := (validateTelemetryIdentityAndTime_eq_none_iff.mp
    (validateTelemetry_eq_none_iff.mp hvalid).1).2
  rw [mapSample_isOk_iff rfl hasset htime hposition]
  constructor
  · rintro ⟨hnamed, -, -, -, hdevice, hevent⟩
    exact ⟨hnamed, hevent, hdevice⟩
  · intro h
    exact ⟨h.named, validateSample_of_validateTelemetry hvalid, hobserved, hskew, h.device, h.event⟩

/-- One contract for telemetry, for every sample that the gateway decodes and validates and every
device whose binding the policy service accepts: the sample gets as far as ingestion, and is not
answered with backpressure for good, if and only if its event id is not blank on the JVM, has at
most 160 UTF-16 code units, and the uuid of the device has at most 128. -/
theorem keepsContract_iff (hkind : request.kind = .telemetry)
    (hdecoded : decodeTelemetry unmarshal request.value = .ok telemetry)
    (hvalid : validateTelemetry telemetry now = none)
    (hbound : credentials.validatedDevice (bindingOf identity) = .ok device)
    (hasset : telemetry.assetID = device.deviceUuid) :
    KeepsContract credentials unmarshal identity request telemetry device now ↔
      Ingestible telemetry.eventID device.deviceUuid := by
  constructor
  · intro h
    exact (mapSample_isOk_iff_ingestible hdecoded hvalid hasset).mp h.passes
  · intro h
    refine ⟨(mapSample_isOk_iff_ingestible hdecoded hvalid hasset).mpr h, ?_⟩
    rintro attempt rfl hbackpressure
    obtain ⟨other, error, hadmitted, -⟩ := admitted_of_backpressure hkind hbackpressure
    obtain rfl := Except.ok.inj (hdecoded.symm.trans hadmitted.decoded)
    have hlater := validateTelemetry_later hvalid (Int.le_add_one le_rfl)
    obtain ⟨mapped, hmapped⟩ := (mapSample_isOk_iff_ingestible hdecoded hlater hasset).mpr h
    exact ⟨⟨attempt.now + 1, true, .acquired, none, fun _ => .ok (), none, none⟩,
      Int.lt_add_one_iff.mpr le_rfl, telemetry, device, mapped, ⟨hadmitted.identified, hkind,
      hdecoded, hadmitted.asset, hadmitted.session, hlater⟩, rfl, rfl, hbound, hmapped, rfl⟩

/-- A sample that the gateway lets through and the policy service does not is answered with
backpressure at every later attempt, unless its event is marked as stored, and none stores it. -/
theorem backpressure_forever (hadmitted : Admitted unmarshal identity request telemetry now)
    (hbound : credentials.validatedDevice (bindingOf identity) = .ok device)
    (hasset : telemetry.assetID = device.deviceUuid)
    (hnot : ¬ Ingestible telemetry.eventID device.deviceUuid) {attempt : Attempt}
    (hlater : now ≤ attempt.now) :
    ¬ attempt.Stores credentials unmarshal identity request ∧
      (attempt.reservation ≠ .held (some "stored") →
        (attempt.answer credentials unmarshal identity request).status = .backpressure) := by
  have hvalid := validateTelemetry_later hadmitted.valid hlater
  have hmapped : ¬ ∃ mapped, mapSample device (rpcRequest identity telemetry) attempt.now =
      .ok mapped := by
    rw [mapSample_isOk_iff_ingestible hadmitted.decoded hvalid hasset]
    exact hnot
  constructor
  · rintro ⟨other, otherDevice, mapped, hother, -, -, hotherBound, hok, -⟩
    obtain rfl := Except.ok.inj (hadmitted.decoded.symm.trans hother.decoded)
    obtain rfl := Except.ok.inj (hbound.symm.trans hotherBound)
    exact hmapped ⟨mapped, hok⟩
  · intro hheld
    have hfails : attempt.storeTelemetry credentials identity telemetry ≠ none := by
      intro hnone
      cases attempt.storeTelemetry_eq_none credentials identity telemetry hnone with
      | inl hstored => exact hheld hstored
      | inr hpersisted =>
          obtain ⟨other, mapped, hother, hok⟩ :=
            attempt.persistTelemetry_eq_none credentials identity telemetry hpersisted
          obtain rfl := Except.ok.inj (hbound.symm.trans hother)
          exact hmapped ⟨mapped, hok⟩
    obtain ⟨error, herror⟩ := Option.ne_none_iff_exists'.mp hfails
    have hnow : Admitted unmarshal identity request telemetry attempt.now :=
      ⟨hadmitted.identified, hadmitted.kind, hadmitted.decoded, hadmitted.asset, hadmitted.session,
        hvalid⟩
    rw [Attempt.answer, handleGatewayRequest_of_admitted hnow, herror]

/-! ## A drone over Daegu -/

def sampleMessage (eventID : String) : TelemetryEnvelope where
  eventID := eventID
  assetID := "device-1"
  time := some ⟨1722067200000⟩
  position := some ⟨35.8714, 128.6014, 42.5⟩
  headingDeg := 123.4
  speedMps := 2.1
  batteryPercent := 78.5
  attitudeDeg := some ⟨1.2, -0.4, 123.4⟩
  linkQualityPercent := 91

def sampleTelemetry (eventID : String) : Telemetry :=
  (sampleMessage eventID).telemetry ⟨1722067200000⟩ ⟨35.8714, 128.6014, 42.5⟩

def sampleGroup : GroupId := ⟨"co-a", .refl false⟩

def sampleDevice : RegisteredDevice where
  deviceUuid := "device-1"
  groupId := sampleGroup
  status := .active
  credentialVersion := 1
  policyVersion := 1
  notBlank := by decide +kernel

def sampleCredentials : Credentials where
  findByDeviceUuid deviceUuid := if deviceUuid = "device-1" then some sampleDevice else none
  hierarchy := some [⟨sampleGroup, .active⟩]

def sampleIdentity : GatewayIdentity := ⟨"device-1", "co-a", 1, 1, none⟩

def sampleRequest : GatewayStreamRequest := ⟨"co-a", "device-1", .telemetry, []⟩

def sampleNow : ℤ := Clock.ofUnixMilli 1722067200000

theorem keepsContract_sample :
    KeepsContract sampleCredentials (fun _ => .ok (sampleMessage "event-1")) sampleIdentity
      sampleRequest (sampleTelemetry "event-1") sampleDevice sampleNow :=
  (keepsContract_iff rfl rfl (by decide +kernel) rfl rfl).mpr
    ⟨by decide +kernel, by decide +kernel, by decide +kernel⟩

/-- One letter more than the policy service takes. -/
def longEventID : String := String.ofList (List.replicate 161 'e')

theorem toList_longEventID :
    (sampleTelemetry longEventID).eventID.toList = 'e' :: List.replicate 160 'e' :=
  String.toList_ofList

theorem validateTelemetry_longEventID :
    validateTelemetry (sampleTelemetry longEventID) sampleNow = none := by
  have hevent : MediaToken.isBlank (sampleTelemetry longEventID).eventID = false := by
    rw [MediaToken.isBlank, toList_longEventID]
    exact decide_eq_false <| StreamPath.trimSpace_cons_ne_nil (by decide)
  have hidentity :
      validateTelemetryIdentityAndTime (sampleTelemetry longEventID) sampleNow = none := by
    rw [validateTelemetryIdentityAndTime, hevent]
    decide +kernel
  rw [validateTelemetry, List.findSome?_cons, hidentity]
  decide +kernel

/-- A sample whose event id is one letter too long, at the first attempt. -/
theorem backpressure_forever_long_eventID :
    (Attempt.answer ⟨sampleNow, true, .acquired, none, fun _ => .ok (), none, none⟩
      sampleCredentials (fun _ => .ok (sampleMessage longEventID)) sampleIdentity
        sampleRequest).status = .backpressure := by
  have hdecoded : decodeTelemetry (fun _ => .ok (sampleMessage longEventID)) sampleRequest.value =
      .ok (sampleTelemetry longEventID) :=
    decodeTelemetry_eq_ok_iff.mpr ⟨sampleMessage longEventID, _, _, rfl, rfl, rfl,
      by decide +kernel, by decide +kernel, by decide +kernel, rfl⟩
  have hnot : ¬ Ingestible longEventID sampleDevice.deviceUuid := by
    intro h
    have hevent := h.event
    have hlist : longEventID.toList = 'e' :: List.replicate 160 'e' := toList_longEventID
    rw [JvmText.length, JvmText.toList_trim, hlist] at hevent
    exact absurd hevent (by decide +kernel)
  exact (backpressure_forever ⟨by decide +kernel, rfl, hdecoded, rfl, rfl,
    validateTelemetry_longEventID⟩ rfl rfl hnot le_rfl).2 Reservation.noConfusion

/-- The gateway lets the sample through, and the policy service does not. -/
theorem long_eventID_refused :
    decodeTelemetry (fun _ => .ok (sampleMessage longEventID)) sampleRequest.value =
      .ok (sampleTelemetry longEventID) ∧
    validateTelemetry (sampleTelemetry longEventID) sampleNow = none ∧
    sampleCredentials.validatedDevice (bindingOf sampleIdentity) = .ok sampleDevice ∧
    ¬ KeepsContract sampleCredentials (fun _ => .ok (sampleMessage longEventID)) sampleIdentity
      sampleRequest (sampleTelemetry longEventID) sampleDevice sampleNow := by
  have hdecoded : decodeTelemetry (fun _ => .ok (sampleMessage longEventID)) sampleRequest.value =
      .ok (sampleTelemetry longEventID) :=
    decodeTelemetry_eq_ok_iff.mpr ⟨sampleMessage longEventID, _, _, rfl, rfl, rfl,
      by decide +kernel, by decide +kernel, by decide +kernel, rfl⟩
  refine ⟨hdecoded, validateTelemetry_longEventID, rfl, ?_⟩
  intro h
  have hevent := ((mapSample_isOk_iff_ingestible hdecoded validateTelemetry_longEventID rfl).mp
    h.passes).event
  rw [JvmText.length, JvmText.toList_trim, toList_longEventID] at hevent
  exact absurd hevent (by decide +kernel)

end GcsSaker.TelemetryContract
