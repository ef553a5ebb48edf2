import GcsSaker.CodecRoundTrip
import GcsSaker.EcmaNumber
import GcsSaker.TelemetryIngestRpc
import GcsSaker.TelemetryRecord

/-!
# The legacy clock text of a telemetry envelope

Both languages turn the instant of an observation into an `epochTime` text: Kotlin from the seconds
of the day, the backend from an integer that `to_legacy_telemetry` gives in seconds and
`response_snapshot` takes for milliseconds. Quotients of the backend are doubles.
-/

namespace GcsSaker.TelemetryCodec

open IsoDatetime (padded)
open TelemetryIngestRpc (twoDigits)

/-! ## Python -/

namespace Python

/-- `a / b`, an error where the quotient is too large for a double. -/
def trueDivision (a b : ℤ) : Except String ℚ :=
  match EcmaNumber.rounded (a / b) with
  | some quotient => .ok quotient
  | none => .error "integer division result too large for a float"

/-- `int` of a double -/
def truncate (value : ℚ) : ℤ := if 0 ≤ value then ⌊value⌋ else ⌈value⌉

def legacyEpochSeconds (unixMillis : ℤ) : Except String ℤ := do
  let seconds ← trueDivision unixMillis 1000
  return truncate seconds % 86400

open Kotlin (toFloat) in
def TelemetryEnvelopePayload.toLegacyTelemetry (envelope : TelemetryEnvelopePayload) :
    Except String TelemetryCreate := do
  let epochTime ← legacyEpochSeconds envelope.observedUnixMillis
  let create := TelemetryCreate.blank (some (some envelope.assetID))
    |>.set .latitude (.number (toFloat envelope.latitude)) rfl
    |>.set .longitude (.number (toFloat envelope.longitude)) rfl
    |>.set .altitude (.number (toFloat envelope.altitudeM)) rfl
    |>.set .magneticX (.number (toFloat envelope.headingDeg)) rfl
    |>.set .velocity (.number (toFloat envelope.speedMps)) rfl
    |>.set .phoneBatterySOC (.number (toFloat envelope.batteryPercent)) rfl
    |>.set .epochTime (.integer epochTime) rfl
  return create

def formatEpochSeconds (epochVal : ℚ) : String :=
  let sec := truncate epochVal
  let h := sec / 3600
  let m := sec % 3600 / 60
  let s := sec % 60
  twoDigits h ++ ":" ++ twoDigits m ++ ":" ++ twoDigits s

def formatEpochMillis : TelemetryValue → Except String TelemetryValue
  | .integer epochVal => do
    let seconds ← trueDivision epochVal 1000
    return .text (formatEpochSeconds seconds)
  | _ => .ok .null

structure TelemetryResponse where
  uuid : Option String
  fields : TelemetryColumn → TelemetryValue

def TelemetryResponse.epochTime (response : TelemetryResponse) : TelemetryValue :=
  response.fields .epochTime

/-- `TelemetryIngestCommand.response_snapshot`: the alias `epochTime` goes before the `epoch_time`
of the dump. -/
def responseSnapshot (payload : TelemetryCreate) : Except String TelemetryResponse := do
  let dump := fun c => (payload.fields c).getD .null
  let epochTime ← formatEpochMillis (dump .epochTime)
  return ⟨payload.uuid.join, Function.update dump .epochTime epochTime⟩

end Python

/-! ## Kotlin -/

namespace Kotlin

def legacyEpochTime (unixMillis : ℤ) : String :=
  let seconds := (unixMillis.tdiv 1000).tmod 86400
  let hours := seconds.tdiv 3600
  let minutes := (seconds.tmod 3600).tdiv 60
  let remainingSeconds := seconds.tmod 60
  twoDigits hours ++ ":" ++ twoDigits minutes ++ ":" ++ twoDigits remainingSeconds

open TelemetryIngestRpc (Failure TelemetryReadModel newGroupId) in
def TelemetryEnvelopePayload.toReadModel (envelope : TelemetryEnvelopePayload) :
    Except Failure TelemetryReadModel := do
  let groupId ← newGroupId envelope.groupID
  return {
    uuid := envelope.assetID
    latitude := toFloat envelope.latitude
    longitude := toFloat envelope.longitude
    altitude := toFloat envelope.altitudeM
    magneticX := toFloat envelope.headingDeg
    magneticY := 0
    magneticZ := 0
    soc := "0"
    phoneBatterySOC := toFloat envelope.batteryPercent
    velocity := toFloat envelope.speedMps
    totalDistance := 0
    epochTime := legacyEpochTime envelope.observedUnixMillis.toInt
    portDistance := 0
    groupId := groupId
    batteryPercent := some (toFloat envelope.batteryPercent)
    headingDeg := some (toFloat envelope.headingDeg)
    rollDeg := some (toFloat envelope.attitudeDeg.x)
    pitchDeg := some (toFloat envelope.attitudeDeg.y)
    yawDeg := some (toFloat envelope.attitudeDeg.z)
    linkQualityPercent := some (toFloat envelope.linkQualityPercent)
    observedAt := some (Clock.ofUnixMilli envelope.observedUnixMillis.toInt)
    eventId := none
    sessionId := none
    streamId := none }

end Kotlin

/-! ## Texts of a time of day -/

/-- Hours, minutes and seconds of a second of the day. -/
def clockText (second : ℕ) : String :=
  String.ofList (padded 2 (second / 3600) ++ ':' :: (padded 2 (second % 3600 / 60) ++
    ':' :: padded 2 (second % 60)))

/-- The text is the time of day in UTC at which a number of milliseconds since the epoch ends. -/
def IsTimeOfDay (text : String) (unixMillis : ℕ) : Prop :=
  ∃ day hour minute second milli, hour < 24 ∧ minute < 60 ∧ second < 60 ∧ milli < 1000 ∧
    unixMillis = (((day * 24 + hour) * 60 + minute) * 60 + second) * 1000 + milli ∧
    text = String.ofList (padded 2 hour ++ ':' :: (padded 2 minute ++ ':' :: padded 2 second))

theorem clockText_isTimeOfDay (unixMillis : ℕ) :
    IsTimeOfDay (clockText (unixMillis / 1000 % 86400)) unixMillis :=
  ⟨unixMillis / 1000 / 86400, unixMillis / 1000 % 86400 / 3600,
    unixMillis / 1000 % 86400 % 3600 / 60, unixMillis / 1000 % 86400 % 60, unixMillis % 1000,
    by omega, by omega, by omega, by omega, by omega, rfl⟩

theorem padded_injective {m n : ℕ} (hm : m < 100) (hn : n < 100)
    (h : padded 2 m = padded 2 n) : m = n := by
  have hnumber := congrArg IsoDatetime.number h
  rw [IsoDatetime.number_padded 2 m hm, IsoDatetime.number_padded 2 n hn] at hnumber
  exact Option.some.inj hnumber

theorem clockText_injective {s t : ℕ} (hs : s < 86400) (ht : t < 86400)
    (h : clockText s = clockText t) : s = t := by
  have hlength (m n : ℕ) : (padded 2 m).length = (padded 2 n).length := by
    rw [IsoDatetime.length_padded, IsoDatetime.length_padded]
  obtain ⟨hhour, hrest⟩ := List.append_inj (String.ofList_injective h) (hlength _ _)
  obtain ⟨hminute, hrest⟩ := List.append_inj (List.cons.inj hrest).2 (hlength _ _)
  have hsecond := (List.cons.inj hrest).2
  have h₁ := padded_injective (by omega) (by omega) hhour
  have h₂ := padded_injective (by omega) (by omega) hminute
  have h₃ := padded_injective (by omega) (by omega) hsecond
  omega

theorem twoDigits_eq_padded {n : ℕ} (h : n < 100) : twoDigits n = String.ofList (padded 2 n) := by
  have hall : ∀ n ∈ List.range 100, twoDigits (n : ℕ) = String.ofList (padded 2 n) := by
    decide +kernel
  exact hall n (List.mem_range.2 h)

theorem clockText_eq {second : ℕ} (h : second < 86400) :
    clockText second = twoDigits (second / 3600 : ℕ) ++ ":" ++
      twoDigits (second % 3600 / 60 : ℕ) ++ ":" ++ twoDigits (second % 60 : ℕ) := by
  rw [twoDigits_eq_padded (by omega), twoDigits_eq_padded (by omega),
    twoDigits_eq_padded (by omega), clockText]
  apply String.toList_injective
  simp

/-- Kotlin tells the time of day. -/
theorem Kotlin.legacyEpochTime_eq (unixMillis : ℕ) :
    legacyEpochTime unixMillis = clockText (unixMillis / 1000 % 86400) := by
  rw [clockText_eq (by omega)]
  rfl

/-! ## Quotients as doubles -/

namespace Python

theorem truncate_eq {value : ℚ} {n : ℕ} (hlow : (n : ℚ) ≤ value) (hhigh : value < n + 1) :
    truncate value = n := by
  have hnonneg : 0 ≤ value := le_trans (Nat.cast_nonneg n) hlow
  rw [truncate, if_pos hnonneg, Int.floor_eq_iff]
  exact ⟨by exact_mod_cast hlow, by exact_mod_cast hhigh⟩

theorem trueDivision_eq (k : ℕ) {r : ℕ} (bits : ℤ) (hr : r < 1000) (hbits : 0 < bits)
    (hmax : bits < 1024) (h : (k + 1 : ℚ) ≤ 2 ^ bits) :
    ∃ value, trueDivision (1000 * k + r : ℕ) 1000 = .ok value ∧
      |value - (k + r / 1000)| ≤ (2 : ℚ) ^ (bits - 53) / 2 ∧
      ∀ n : ℤ, (n : ℚ) * (2 : ℚ) ^ (bits - 53) ≤ k + r / 1000 →
        (n : ℚ) * (2 : ℚ) ^ (bits - 53) ≤ value := by
  have hr' : (r : ℚ) < 1000 := by exact_mod_cast hr
  have hquotient : ((1000 * k + r : ℕ) : ℤ) / (1000 : ℤ) = (k + r / 1000 : ℚ) := by
    push_cast
    field_simp
  have hnonneg : (0 : ℚ) ≤ k + r / 1000 := by positivity
  have hlt : |(k + r / 1000 : ℚ)| < 2 ^ bits := by
    rw [abs_of_nonneg hnonneg]
    refine lt_of_lt_of_le ?_ h
    linarith
  obtain ⟨value, hvalue, hnear, hgrid⟩ := EcmaNumber.rounded_near hbits hmax hlt
  refine ⟨value, ?_, hnear, hgrid⟩
  unfold trueDivision
  rw [hquotient, hvalue]

/-- Of a second of the day, divided once more, only the whole thousands are left. -/
theorem trueDivision_second {second : ℕ} (h : second < 86400) :
    ∃ value, trueDivision second 1000 = .ok value ∧
      truncate value = (second / 1000 : ℕ) := by
  have hsplit := Nat.div_add_mod second 1000
  have hr : second % 1000 < 1000 := Nat.mod_lt _ (by norm_num)
  have hk : second / 1000 < 127 := by omega
  generalize second / 1000 = k at hsplit hk ⊢
  generalize second % 1000 = r at hsplit hr
  subst hsplit
  have hk' : (k : ℚ) < 127 := by exact_mod_cast hk
  have hr' : (r : ℚ) + 1 ≤ 1000 := by exact_mod_cast hr
  obtain ⟨value, hvalue, hnear, hgrid⟩ := trueDivision_eq k 7 hr (by norm_num) (by norm_num)
    (by norm_num; linarith)
  have hr'' : (0 : ℚ) ≤ r := Nat.cast_nonneg r
  have hlow := hgrid (k * 2 ^ 46) (by
    norm_num
    linarith)
  norm_num at hlow hnear
  rw [abs_le] at hnear
  exact ⟨value, hvalue, truncate_eq (by linarith) (by linarith)⟩

/-- A `Long` of milliseconds loses at most one second, and none if the seconds are even. -/
theorem trueDivision_millis {unixMillis : ℕ} (h : unixMillis < 2 ^ 63) :
    ∃ value, trueDivision unixMillis 1000 = .ok value ∧
      ((unixMillis / 1000 : ℕ) : ℤ) - 1 ≤ truncate value ∧
      truncate value ≤ (unixMillis / 1000 : ℕ) + 1 ∧
      (2 ∣ unixMillis / 1000 → ((unixMillis / 1000 : ℕ) : ℤ) ≤ truncate value) := by
  have hsplit := Nat.div_add_mod unixMillis 1000
  have hr : unixMillis % 1000 < 1000 := Nat.mod_lt _ (by norm_num)
  have hk : unixMillis / 1000 + 1 ≤ 2 ^ 54 := by omega
  generalize unixMillis / 1000 = k at hsplit hk ⊢
  generalize unixMillis % 1000 = r at hsplit hr
  subst hsplit
  have hk' : (k : ℚ) + 1 ≤ 2 ^ 54 := by exact_mod_cast hk
  have hr' : (r : ℚ) + 1 ≤ 1000 := by exact_mod_cast hr
  have hr'' : (0 : ℚ) ≤ r := Nat.cast_nonneg r
  obtain ⟨value, hvalue, hnear, hgrid⟩ := trueDivision_eq k 54 hr (by norm_num) (by norm_num)
    (by exact_mod_cast hk')
  norm_num at hnear
  rw [abs_le] at hnear
  have hnonneg : 0 ≤ value := by
    have hzero := hgrid 0 (by norm_num; positivity)
    rwa [Int.cast_zero, zero_mul] at hzero
  refine ⟨value, hvalue, ?_, ?_, ?_⟩
  · rw [truncate, if_pos hnonneg, Int.le_floor]
    push_cast
    linarith
  · rw [truncate, if_pos hnonneg, ← Int.lt_add_one_iff, Int.floor_lt]
    push_cast
    linarith
  · rintro ⟨half, rfl⟩
    have hlow := hgrid half (by
      norm_num
      linarith)
    norm_num at hlow
    rw [truncate, if_pos hnonneg, Int.le_floor]
    push_cast
    linarith

/-- The seconds of the day, as doubles round them, and when a thousandth of them is the whole. -/
theorem legacyEpochSeconds_eq {unixMillis : ℕ} (h : unixMillis < 2 ^ 63) :
    ∃ second < 86400, legacyEpochSeconds unixMillis = .ok (second : ℕ) ∧
      (second / 1000 = unixMillis / 1000 % 86400 ↔ unixMillis / 1000 % 86400 = 0) := by
  obtain ⟨value, hvalue, hlow, hhigh, heven⟩ := trueDivision_millis h
  have hepoch : legacyEpochSeconds unixMillis = .ok (truncate value % 86400) := by
    rw [legacyEpochSeconds, hvalue]
    rfl
  generalize unixMillis / 1000 = k at hlow hhigh heven ⊢
  generalize truncate value = t at hlow hhigh heven hepoch
  obtain ⟨second, hsecond⟩ := Int.eq_ofNat_of_zero_le (show 0 ≤ t % 86400 by omega)
  refine ⟨second, by omega, hsecond ▸ hepoch, ?_, ?_⟩
  · intro hsame
    obtain hday | hday | hday : t / 86400 = k / 86400 ∨ t / 86400 = k / 86400 + 1 ∨
        t / 86400 + 1 = k / 86400 := by omega
    all_goals omega
  · intro hzero
    have := heven (by omega)
    omega

theorem formatEpochMillis_eq {second : ℕ} (h : second < 86400) :
    formatEpochMillis (.integer second) = .ok (.text (clockText (second / 1000))) := by
  obtain ⟨value, hvalue, htruncate⟩ := trueDivision_second h
  rw [formatEpochMillis, hvalue, clockText_eq (by omega)]
  simp only [bind, Except.bind, pure, Except.pure, formatEpochSeconds, htruncate]
  rfl

theorem toLegacyTelemetry_epochTime {envelope : TelemetryEnvelopePayload} {second : ℤ}
    (h : legacyEpochSeconds envelope.observedUnixMillis = .ok second) :
    ∃ telemetry, envelope.toLegacyTelemetry = .ok telemetry ∧
      telemetry.fields .epochTime = some (.integer second) := by
  rw [TelemetryEnvelopePayload.toLegacyTelemetry, h]
  exact ⟨_, rfl, rfl⟩

theorem responseSnapshot_epochTime {payload : TelemetryCreate} {second : ℕ}
    (hsecond : second < 86400) (h : payload.fields .epochTime = some (.integer second)) :
    ∃ response, responseSnapshot payload = .ok response ∧
      response.epochTime = .text (clockText (second / 1000)) := by
  simp only [responseSnapshot, h, Option.getD_some, formatEpochMillis_eq hsecond]
  refine ⟨_, rfl, ?_⟩
  simp only [TelemetryResponse.epochTime, Function.update_self]

/-- The backend tells the time of day in the first second of a day only. -/
theorem epochTime_eq_iff {x : TelemetryEnvelopePayload} (h : x.observedUnixMillis < 2 ^ 63) :
    (∃ telemetry response, x.toLegacyTelemetry = .ok telemetry ∧
      responseSnapshot telemetry = .ok response ∧
      response.epochTime = .text (clockText (x.observedUnixMillis / 1000 % 86400))) ↔
    x.observedUnixMillis / 1000 % 86400 = 0 := by
  obtain ⟨second, hlt, hepoch, hiff⟩ := legacyEpochSeconds_eq h
  obtain ⟨telemetry, htelemetry, hfield⟩ := toLegacyTelemetry_epochTime hepoch
  obtain ⟨response, hresponse, htext⟩ := responseSnapshot_epochTime hlt hfield
  rw [← hiff]
  constructor
  · rintro ⟨telemetry', response', htelemetry', hresponse', htext'⟩
    rw [htelemetry, Except.ok.injEq] at htelemetry'
    subst htelemetry'
    rw [hresponse, Except.ok.injEq] at hresponse'
    subst hresponse'
    rw [htext, TelemetryValue.text.injEq] at htext'
    exact clockText_injective (by omega) (by omega) htext'
  · intro hsecond
    exact ⟨telemetry, response, htelemetry, hresponse, by rw [htext, hsecond]⟩

end Python

/-! ## Agreement -/

open CodecRoundTrip (SameEnvelope)
open TelemetryIngestRpc (TelemetryReadModel newGroupId)

theorem Kotlin.toReadModel_epochTime {envelope : Kotlin.TelemetryEnvelopePayload}
    {model : TelemetryReadModel} (h : envelope.toReadModel = .ok model) :
    model.epochTime = legacyEpochTime envelope.observedUnixMillis.toInt := by
  rw [TelemetryEnvelopePayload.toReadModel] at h
  cases hgroup : newGroupId envelope.groupID with
  | error e => simp only [hgroup, bind, Except.bind, reduceCtorEq] at h
  | ok groupId =>
      simp only [hgroup, bind, Except.bind, pure, Except.pure, Except.ok.injEq] at h
      rw [← h]

theorem observed_lt_of_sameEnvelope {x : Python.TelemetryEnvelopePayload}
    {y : Kotlin.TelemetryEnvelopePayload} (h : SameEnvelope x y) :
    x.observedUnixMillis < 2 ^ 63 := by
  have hlt := y.observedUnixMillis.toInt_lt
  rw [h.observedUnixMillis] at hlt
  exact_mod_cast hlt

theorem model_epochTime_eq {x : Python.TelemetryEnvelopePayload}
    {y : Kotlin.TelemetryEnvelopePayload} {model : TelemetryReadModel} (hsame : SameEnvelope x y)
    (hmodel : y.toReadModel = .ok model) :
    model.epochTime = clockText (x.observedUnixMillis / 1000 % 86400) := by
  rw [Kotlin.toReadModel_epochTime hmodel, hsame.observedUnixMillis, Kotlin.legacyEpochTime_eq]

/-- The two texts are one, and the time of day, exactly in the first second of a day. -/
theorem legacy_clocks_agree_iff {x : Python.TelemetryEnvelopePayload}
    {y : Kotlin.TelemetryEnvelopePayload} {model : TelemetryReadModel}
    (hsame : SameEnvelope x y) (hmodel : y.toReadModel = .ok model) :
    (∃ telemetry response, x.toLegacyTelemetry = .ok telemetry ∧
      Python.responseSnapshot telemetry = .ok response ∧
      response.epochTime = .text model.epochTime ∧
      IsTimeOfDay model.epochTime x.observedUnixMillis) ↔
    x.observedUnixMillis / 1000 % 86400 = 0 := by
  rw [← Python.epochTime_eq_iff (observed_lt_of_sameEnvelope hsame),
    model_epochTime_eq hsame hmodel]
  constructor
  · rintro ⟨telemetry, response, htelemetry, hresponse, htext, -⟩
    exact ⟨telemetry, response, htelemetry, hresponse, htext⟩
  · rintro ⟨telemetry, response, htelemetry, hresponse, htext⟩
    exact ⟨telemetry, response, htelemetry, hresponse, htext,
      clockText_isTimeOfDay x.observedUnixMillis⟩

def Python.envelopeAt (unixMillis : ℕ) : Python.TelemetryEnvelopePayload where
  eventID := "event-1"
  orgID := "org-1"
  groupID := "group-1"
  assetID := "device-1"
  assetKind := 4
  observedUnixMillis := unixMillis
  receivedUnixMillis := unixMillis
  latitude := 0x4041ef8a0902de01
  longitude := 0x4060133e425aee63
  altitudeM := 0
  headingDeg := 0
  speedMps := 0
  batteryPercent := 0
  health := 1

def Kotlin.envelopeAt (unixMillis : BitVec 64) : Kotlin.TelemetryEnvelopePayload where
  eventID := "event-1"
  orgID := "org-1"
  groupID := "group-1"
  assetID := "device-1"
  assetKind := 4
  observedUnixMillis := unixMillis
  receivedUnixMillis := unixMillis
  latitude := 0x4041ef8a0902de01
  longitude := 0x4060133e425aee63
  altitudeM := 0
  headingDeg := 0
  speedMps := 0
  batteryPercent := 0
  health := 1
  activeStreamIDs := []

theorem envelopeAt_same {unixMillis : ℕ} (h : unixMillis < 2 ^ 63) :
    SameEnvelope (Python.envelopeAt unixMillis) (Kotlin.envelopeAt (.ofNat 64 unixMillis)) := by
  constructor
  all_goals first
    | rfl
    | exact CodecRoundTrip.toInt_ofNat_of_lt h

theorem Kotlin.envelopeAt_toReadModel (unixMillis : BitVec 64) :
    ∃ model, (Kotlin.envelopeAt unixMillis).toReadModel = .ok model := by
  have hgroup : newGroupId "group-1" = .ok ⟨"group-1", by decide +kernel⟩ :=
    dif_pos (by decide +kernel)
  rw [TelemetryEnvelopePayload.toReadModel, envelopeAt, hgroup]
  exact ⟨_, rfl⟩

theorem legacy_clocks_agree_iff_sample :
    ∃ model telemetry response,
      (Kotlin.envelopeAt 86400000).toReadModel = .ok model ∧
      (Python.envelopeAt 86400000).toLegacyTelemetry = .ok telemetry ∧
      Python.responseSnapshot telemetry = .ok response ∧
      response.epochTime = .text model.epochTime ∧ IsTimeOfDay model.epochTime 86400000 := by
  obtain ⟨model, hmodel⟩ := Kotlin.envelopeAt_toReadModel 86400000
  obtain ⟨telemetry, response, htelemetry, hresponse, htext, htime⟩ :=
    (legacy_clocks_agree_iff (envelopeAt_same (by norm_num)) hmodel).2 (by decide)
  exact ⟨model, telemetry, response, hmodel, htelemetry, hresponse, htext, htime⟩

/-- One second after midnight: `"00:00:01"` and `"00:00:00"`. -/
theorem legacy_clocks_differ :
    ¬ ∀ (x : Python.TelemetryEnvelopePayload) (y : Kotlin.TelemetryEnvelopePayload)
      (model : TelemetryReadModel), SameEnvelope x y → 0 < x.observedUnixMillis →
      y.toReadModel = .ok model →
      ∃ telemetry response, x.toLegacyTelemetry = .ok telemetry ∧
        Python.responseSnapshot telemetry = .ok response ∧
        response.epochTime = .text model.epochTime ∧
        IsTimeOfDay model.epochTime x.observedUnixMillis := by
  intro h
  obtain ⟨model, hmodel⟩ := Kotlin.envelopeAt_toReadModel 1000
  have hsame := envelopeAt_same (show 1000 < 2 ^ 63 by norm_num)
  obtain ⟨telemetry, response, htelemetry, hresponse, htext, -⟩ :=
    h _ _ model hsame (by decide) hmodel
  rw [model_epochTime_eq hsame hmodel] at htext
  have hzero := (Python.epochTime_eq_iff (observed_lt_of_sameEnvelope hsame)).1
    ⟨telemetry, response, htelemetry, hresponse, htext⟩
  exact absurd hzero (by decide)

end GcsSaker.TelemetryCodec
