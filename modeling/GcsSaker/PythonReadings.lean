import GcsSaker.EnvelopeSerialization

/-!
# What the backend reads of a serialization

`decode_telemetry_envelope` asks for one occurrence of most fields. It reads a serialization as the
value that it denotes just when `PythonReadable` holds of it.
-/

namespace GcsSaker.EnvelopeSerialization

open ProtobufWire Proto3 TelemetryCodec CodecRoundTrip

section PythonAccessors

open ProtobufWire.Python TelemetryCodec.Python

variable {entries : List (ℕ × WireValue ℕ)} {n : ℕ}

theorem singleString_reads_iff {texts : List String} {s : String}
    (h : valuesUnder entries n = texts.map fun s => .bytes (utf8Encode s))
    (hs : s = lastOf "" texts) : singleString (messageOf entries) n = .ok s ↔ texts.length = 1 := by
  rw [singleString, strings_messageOf h, hs, ← eq_singleton_lastOf_iff ""]
  rcases texts with _ | ⟨t, _ | ⟨t', rest⟩⟩
  · simp [bind, Except.bind, throw, throwThe, MonadExceptOf.throw]
  · simp [bind, Except.bind, pure, Except.pure, lastOf]
  · simp [bind, Except.bind, throw, throwThe, MonadExceptOf.throw]

theorem singleInt_reads_iff {α : Type} {f : α → BitVec 64} {values : List α} {default : α} {k : ℕ}
    (h : valuesUnder entries n = values.map fun v => .integer (f v).toNat)
    (hk : (k : ℤ) = (f (lastOf default values)).toInt) :
    singleInt (messageOf entries) n = .ok k ↔ values.length = 1 := by
  rw [singleInt, values_messageOf, h]
  rcases values with _ | ⟨v, _ | ⟨v', rest⟩⟩
  · simp
  · have hv : (f v).toNat = k := by
      have hk' : (k : ℤ) = (f v).toInt := hk
      rw [BitVec.toInt_eq_toNat_cond] at hk'
      split_ifs at hk'
      · omega
      · omega
    simp [hv]
  · simp

theorem singleFloat_reads_iff {values : List (BitVec 64)} {bits : BitVec 64}
    (h : valuesUnder entries n = values.map .double) (hbits : bits = lastOf 0 values) :
    singleFloat (messageOf entries) n = .ok bits ↔ values.length = 1 := by
  rw [singleFloat, values_messageOf, h, hbits]
  rcases values with _ | ⟨v, _ | ⟨v', rest⟩⟩
  · simp
  · simp [lastOf]
  · simp

theorem optionalFloat_reads_iff {values : List (BitVec 64)} {bits : BitVec 64}
    (h : valuesUnder entries n = values.map .double) (hbits : bits = lastOf 0 values) :
    optionalFloat (messageOf entries) n = .ok bits ↔ values.length ≤ 1 := by
  rw [optionalFloat, values_messageOf, singleFloat, values_messageOf, h, hbits]
  rcases values with _ | ⟨v, _ | ⟨v', rest⟩⟩
  · simp [lastOf]
  · simp [lastOf]
  · simp

theorem bytesValues_of_spelled {α : Type} {Spelled : α → List UInt8 → Prop} {subs : List α}
    (h : List.Forall₂ (fun sub wire => ∃ raw, Spelled sub raw ∧ wire = .bytes raw) subs
      (valuesUnder entries n)) :
    List.Forall₂ Spelled subs (bytesValues (messageOf entries) n) := by
  rw [bytesValues_messageOf]
  generalize valuesUnder entries n = values at h
  induction h with
  | nil => exact List.Forall₂.nil
  | cons hsub _ ih =>
      obtain ⟨raw, hraw, rfl⟩ := hsub
      exact List.Forall₂.cons hraw ih

/-- A submessage is read if there is one of them and its fields are. -/
theorem singleMessage_reads_iff {φ : Type} {Value : φ → Type} {schema : Schema Value}
    {subs : List (List (Item Value))} {P : Message → Prop} {Q : List (Item Value) → Prop}
    (h : List.Forall₂ (fun sub wire => ∃ raw, schema.Serializes sub raw ∧ wire = .bytes raw) subs
      (valuesUnder entries n))
    (hPQ : ∀ sub inner, subs = [sub] → List.Forall₂ schema.SpelledItem sub inner →
      (P (messageOf inner) ↔ Q sub)) :
    (∃ m, singleMessage (messageOf entries) n = .ok m ∧ P m) ↔ ∃ sub, subs = [sub] ∧ Q sub := by
  rw [singleMessage]
  have hraws := bytesValues_of_spelled h
  generalize bytesValues (messageOf entries) n = raws at hraws
  cases hraws with
  | nil => simp
  | @cons sub raw _ _ hsub hrest =>
      cases hrest with
      | nil =>
          obtain ⟨inner, hinner, hencodes⟩ := hsub
          simpa [python_decode_encodes hencodes] using hPQ sub inner rfl hinner
      | cons _ _ => simp

theorem singleFloats_reads_iff {items : List AxisItem} {inner : List (ℕ × WireValue ℕ)}
    (hinner : List.Forall₂ vector3.SpelledItem items inner) {x y z : BitVec 64}
    (haxes : (⟨x, y, z⟩ : Kotlin.TelemetryVector3) = axesOf items) :
    (singleFloat (messageOf inner) 1 = .ok x ∧ singleFloat (messageOf inner) 2 = .ok y ∧
        singleFloat (messageOf inner) 3 = .ok z) ↔ EachAxisOnce items := by
  obtain ⟨hx, hy, hz⟩ := vector_entries hinner
  obtain ⟨hxv, hyv, hzv⟩ := Kotlin.TelemetryVector3.mk.inj haxes
  rw [singleFloat_reads_iff hx hxv, singleFloat_reads_iff hy hyv, singleFloat_reads_iff hz hzv]
  rfl

theorem decodeOptionalVector3_reads_iff {vectors : List (List AxisItem)}
    (h : List.Forall₂ (fun vector wire => ∃ raw, vector3.Serializes vector raw ∧ wire = .bytes raw)
      vectors (valuesUnder entries n)) {x y z : BitVec 64}
    (haxes : (⟨x, y, z⟩ : Kotlin.TelemetryVector3) = axesOf vectors.flatten) :
    decodeOptionalVector3 (messageOf entries) n = .ok (x, y, z) ↔ OptionalVector vectors := by
  have hraws := bytesValues_of_spelled h
  rw [decodeOptionalVector3, optionalMessage]
  generalize bytesValues (messageOf entries) n = raws at hraws
  cases hraws with
  | nil =>
      have hzero : (⟨x, y, z⟩ : Kotlin.TelemetryVector3) = ⟨0, 0, 0⟩ := haxes
      cases hzero
      exact iff_of_true rfl (Or.inl rfl)
  | @cons vector raw _ _ hsub hrest =>
      cases hrest with
      | nil =>
          obtain ⟨inner, hinner, hencodes⟩ := hsub
          rw [List.flatten_cons, List.flatten_nil, List.append_nil] at haxes
          have hvector : OptionalVector [vector] ↔ EachAxisOnce vector := by
            simp [OptionalVector]
          rw [hvector, ← singleFloats_reads_iff hinner haxes, CheckedSteps.bind_eq_ok_iff]
          simp only [python_decode_encodes hencodes, Except.map, Except.ok.injEq, exists_eq_left', CheckedSteps.bind_eq_ok_iff,
            pure, Except.pure, Prod.mk.injEq]
          constructor
          · rintro ⟨a, ha, b, hb, c, hc, rfl, rfl, rfl⟩
            exact ⟨ha, hb, hc⟩
          · rintro ⟨ha, hb, hc⟩
            exact ⟨x, ha, y, hb, z, hc, rfl, rfl, rfl⟩
      | cons _ _ =>
          apply iff_of_false
          · intro herror
            cases herror
          · simp [OptionalVector]

/-- What the backend reads of an envelope. -/
structure PythonReads (decoded : Message) (y : TelemetryEnvelopePayload) : Prop where
  time : ∃ message, singleMessage decoded 6 = .ok message ∧
    singleInt message 1 = .ok y.observedUnixMillis ∧
    singleInt message 2 = .ok y.receivedUnixMillis
  position : ∃ message, singleMessage decoded 7 = .ok message ∧
    singleFloat message 1 = .ok y.latitude ∧ singleFloat message 2 = .ok y.longitude ∧
    singleFloat message 3 = .ok y.altitudeM
  attitudeDeg : decodeOptionalVector3 decoded 13 = .ok (y.rollDeg, y.pitchDeg, y.yawDeg)
  gyroRadPerSec : decodeOptionalVector3 decoded 14 =
    .ok (y.gyroXRadPerSec, y.gyroYRadPerSec, y.gyroZRadPerSec)
  accelMps2 : decodeOptionalVector3 decoded 15 = .ok (y.accelXMps2, y.accelYMps2, y.accelZMps2)
  eventID : singleString decoded 1 = .ok y.eventID
  orgID : singleString decoded 2 = .ok y.orgID
  groupID : singleString decoded 3 = .ok y.groupID
  assetID : singleString decoded 4 = .ok y.assetID
  assetKind : singleInt decoded 5 = .ok y.assetKind
  headingDeg : singleFloat decoded 8 = .ok y.headingDeg
  speedMps : singleFloat decoded 9 = .ok y.speedMps
  batteryPercent : singleFloat decoded 10 = .ok y.batteryPercent
  health : singleInt decoded 11 = .ok y.health
  activeStreamIDs : strings decoded 12 = .ok y.activeStreamIDs
  linkQualityPercent : optionalFloat decoded 16 = .ok y.linkQualityPercent

theorem pythonReads_of_eq_ok {payload : List UInt8} {m : Message} {y : TelemetryEnvelopePayload}
    (hm : decodeMessage payload = .ok m) (h : decodeTelemetryEnvelope payload = .ok y) :
    PythonReads m y := by
  simp only [decodeTelemetryEnvelope, hm, CheckedSteps.bind_eq_ok_iff, Except.ok.injEq,
    exists_eq_left', pure, Except.pure] at h
  obtain ⟨time, htime, position, hposition, attitude, hattitude, gyro, hgyro, accel, haccel,
    eventID, heventID, orgID, horgID, groupID, hgroupID, assetID, hassetID, assetKind, hassetKind,
    observed, hobserved, received, hreceived, latitude, hlatitude, longitude, hlongitude,
    altitude, haltitude, heading, hheading, speed, hspeed, battery, hbattery, health, hhealth,
    streams, hstreams, link, hlink, rfl⟩ := h
  exact ⟨⟨time, htime, hobserved, hreceived⟩, ⟨position, hposition, hlatitude, hlongitude,
    haltitude⟩, hattitude, hgyro, haccel, heventID, horgID, hgroupID, hassetID, hassetKind,
    hheading, hspeed, hbattery, hhealth, hstreams, hlink⟩

theorem eq_ok_of_pythonReads {payload : List UInt8} {m : Message} {y : TelemetryEnvelopePayload}
    (hm : decodeMessage payload = .ok m) (h : PythonReads m y) :
    decodeTelemetryEnvelope payload = .ok y := by
  obtain ⟨time, htime, hobserved, hreceived⟩ := h.time
  obtain ⟨position, hposition, hlatitude, hlongitude, haltitude⟩ := h.position
  rw [decodeTelemetryEnvelope]
  simp [bind, Except.bind, pure, Except.pure, hm, htime, hposition, h.attitudeDeg,
    h.gyroRadPerSec, h.accelMps2, h.eventID, h.orgID, h.groupID, h.assetID, h.assetKind,
    hobserved, hreceived, hlatitude, hlongitude, haltitude, h.headingDeg, h.speedMps,
    h.batteryPercent, h.health, h.activeStreamIDs, h.linkQualityPercent]

end PythonAccessors

/-- The payload with this value, if no integer of it is negative. -/
def pythonOf (value : TelemetryEnvelope) : Python.TelemetryEnvelopePayload where
  eventID := value.eventID
  orgID := value.orgID
  groupID := value.groupID
  assetID := value.assetID
  assetKind := value.assetKind.toInt.toNat
  observedUnixMillis := value.observedUnixMillis.toInt.toNat
  receivedUnixMillis := value.receivedUnixMillis.toInt.toNat
  latitude := value.position.x
  longitude := value.position.y
  altitudeM := value.position.z
  headingDeg := value.headingDeg
  speedMps := value.speedMps
  batteryPercent := value.batteryPercent
  health := value.health.toInt.toNat
  activeStreamIDs := value.activeStreamIDs
  rollDeg := value.attitudeDeg.x
  pitchDeg := value.attitudeDeg.y
  yawDeg := value.attitudeDeg.z
  gyroXRadPerSec := value.gyroRadPerSec.x
  gyroYRadPerSec := value.gyroRadPerSec.y
  gyroZRadPerSec := value.gyroRadPerSec.z
  accelXMps2 := value.accelMps2.x
  accelYMps2 := value.accelMps2.y
  accelZMps2 := value.accelMps2.z
  linkQualityPercent := value.linkQualityPercent

theorem samePython_pythonOf {items : List EnvelopeItem} (h : PythonReadable items) :
    SamePython (valueOf items) (pythonOf (valueOf items)) := by
  constructor
  case assetKind => exact Int.toNat_of_nonneg h.assetKind
  case observedUnixMillis => exact Int.toNat_of_nonneg h.observedUnixMillis
  case receivedUnixMillis => exact Int.toNat_of_nonneg h.receivedUnixMillis
  case health => exact Int.toNat_of_nonneg h.health
  all_goals rfl

section Python

open ProtobufWire.Python TelemetryCodec.Python

variable {items : List EnvelopeItem} {entries : List (ℕ × WireValue ℕ)}
  {y : TelemetryEnvelopePayload}

theorem time_reads_iff (h : List.Forall₂ envelope.SpelledItem items entries)
    (hsame : SamePython (valueOf items) y) :
    (∃ m, singleMessage (messageOf entries) 6 = .ok m ∧ singleInt m 1 = .ok y.observedUnixMillis ∧
        singleInt m 2 = .ok y.receivedUnixMillis) ↔
      ∃ time, times items = [time] ∧ Once TimestampedField.observedUnixMillis time ∧
        Once TimestampedField.receivedUnixMillis time := by
  apply singleMessage_reads_iff (envelope_entries h).time
  intro time inner htimes hinner
  obtain ⟨hobserved, hreceived⟩ := timestamp_entries hinner
  have hflatten : (times items).flatten = time := by
    rw [htimes, List.flatten_cons, List.flatten_nil, List.append_nil]
  have hobservedSame := hsame.observedUnixMillis
  have hreceivedSame := hsame.receivedUnixMillis
  rw [valueOf, hflatten] at hobservedSame hreceivedSame
  rw [singleInt_reads_iff hobserved hobservedSame, singleInt_reads_iff hreceived hreceivedSame]
  rfl

theorem position_reads_iff (h : List.Forall₂ envelope.SpelledItem items entries)
    (hsame : SamePython (valueOf items) y) :
    (∃ m, singleMessage (messageOf entries) 7 = .ok m ∧ singleFloat m 1 = .ok y.latitude ∧
        singleFloat m 2 = .ok y.longitude ∧ singleFloat m 3 = .ok y.altitudeM) ↔
      ∃ position, positions items = [position] ∧ EachAxisOnce position := by
  apply singleMessage_reads_iff (envelope_entries h).position
  intro position inner hpositions hinner
  have hflatten : (positions items).flatten = position := by
    rw [hpositions, List.flatten_cons, List.flatten_nil, List.append_nil]
  have hposition := hsame.position
  rw [valueOf, hflatten] at hposition
  exact singleFloats_reads_iff hinner hposition

/-- A payload with the value of a serialization is read from it just when the serialization is
readable. -/
theorem pythonReads_iff (h : List.Forall₂ envelope.SpelledItem items entries)
    (hsame : SamePython (valueOf items) y) :
    PythonReads (messageOf entries) y ↔ PythonReadable items := by
  have he := envelope_entries h
  have eventID := singleString_reads_iff he.eventID hsame.eventID
  have orgID := singleString_reads_iff he.orgID hsame.orgID
  have groupID := singleString_reads_iff he.groupID hsame.groupID
  have assetID := singleString_reads_iff he.assetID hsame.assetID
  have assetKind := singleInt_reads_iff he.assetKind
    (hsame.assetKind.trans (Int32.toInt_toInt64 _).symm)
  have headingDeg := singleFloat_reads_iff he.headingDeg hsame.headingDeg
  have speedMps := singleFloat_reads_iff he.speedMps hsame.speedMps
  have batteryPercent := singleFloat_reads_iff he.batteryPercent hsame.batteryPercent
  have health := singleInt_reads_iff he.health
    (hsame.health.trans (Int32.toInt_toInt64 _).symm)
  have attitudeDeg := decodeOptionalVector3_reads_iff he.attitudeDeg hsame.attitudeDeg
  have gyroRadPerSec := decodeOptionalVector3_reads_iff he.gyroRadPerSec hsame.gyroRadPerSec
  have accelMps2 := decodeOptionalVector3_reads_iff he.accelMps2 hsame.accelMps2
  have link := optionalFloat_reads_iff he.linkQualityPercent hsame.linkQualityPercent
  have streams : strings (messageOf entries) 12 = .ok y.activeStreamIDs := by
    rw [hsame.activeStreamIDs]
    exact strings_messageOf he.activeStreamIDs
  constructor
  · intro hy
    refine ⟨⟨?_, (time_reads_iff h hsame).1 hy.time, (position_reads_iff h hsame).1 hy.position⟩,
      attitudeDeg.1 hy.attitudeDeg, gyroRadPerSec.1 hy.gyroRadPerSec, accelMps2.1 hy.accelMps2,
      link.1 hy.linkQualityPercent, ?_, ?_, ?_, ?_⟩
    · simp only [List.forall_mem_cons, List.not_mem_nil, false_imp_iff, implies_true, and_true]
      exact ⟨eventID.1 hy.eventID, orgID.1 hy.orgID, groupID.1 hy.groupID, assetID.1 hy.assetID,
        assetKind.1 hy.assetKind, headingDeg.1 hy.headingDeg, speedMps.1 hy.speedMps,
        batteryPercent.1 hy.batteryPercent, health.1 hy.health⟩
    · exact hsame.assetKind ▸ Int.natCast_nonneg _
    · exact hsame.observedUnixMillis ▸ Int.natCast_nonneg _
    · exact hsame.receivedUnixMillis ▸ Int.natCast_nonneg _
    · exact hsame.health ▸ Int.natCast_nonneg _
  · intro hr
    have hscalar := hr.required.scalar
    simp only [List.forall_mem_cons, List.not_mem_nil, false_imp_iff, implies_true, and_true]
      at hscalar
    obtain ⟨h1, h2, h3, h4, h5, h8, h9, h10, h11⟩ := hscalar
    exact ⟨(time_reads_iff h hsame).2 hr.required.time,
      (position_reads_iff h hsame).2 hr.required.position, attitudeDeg.2 hr.attitudeDeg,
      gyroRadPerSec.2 hr.gyroRadPerSec, accelMps2.2 hr.accelMps2, eventID.2 h1, orgID.2 h2,
      groupID.2 h3, assetID.2 h4, assetKind.2 h5, headingDeg.2 h8, speedMps.2 h9,
      batteryPercent.2 h10, health.2 h11, streams, link.2 hr.linkQualityPercent⟩

/-- The backend reads a serialization as its value just when it is readable. -/
theorem python_reads_value_iff {payload : List UInt8} (h : envelope.Serializes items payload) :
    (∃ y, TelemetryEnvelopePayload.fromProtobufWire payload = .ok y ∧
      SamePython (valueOf items) y) ↔ PythonReadable items := by
  obtain ⟨entries, hentries, hencodes⟩ := h
  have hm := python_decode_encodes hencodes
  constructor
  · rintro ⟨y, hy, hsame⟩
    exact (pythonReads_iff hentries hsame).1 (pythonReads_of_eq_ok hm hy)
  · intro hr
    have hsame := samePython_pythonOf hr
    exact ⟨_, eq_ok_of_pythonReads hm ((pythonReads_iff hentries hsame).2 hr), hsame⟩

end Python

end GcsSaker.EnvelopeSerialization
