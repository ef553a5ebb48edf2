import GcsSaker.EnvelopeSerialization

/-!
# What the auth policy reads of a serialization

`TelemetryEnvelopePayload.fromWire` reads a serialization as the value that it denotes just when
`KotlinReadable` holds of it. A vector and the link quality are zero unless they occur once.
-/

namespace GcsSaker.EnvelopeSerialization

open ProtobufWire ProtobufWire.Kotlin Proto3 TelemetryCodec TelemetryCodec.Kotlin CodecRoundTrip

/-! ## Accessors -/

section

variable {entries : List (ℕ × WireValue ℕ)} {n : ℕ}

theorem kotlin_singleString_iff (replace : List UInt8 → String) {texts : List String} {s : String}
    (h : valuesUnder entries n = texts.map fun s => .bytes (utf8Encode s))
    (hs : s = lastOf "" texts) :
    singleString replace (kotlinMessageOf entries) n = .ok s ↔ texts.length = 1 := by
  rw [singleString, kotlin_values, h, hs]
  rcases texts with _ | ⟨t, _ | ⟨t', rest⟩⟩
  · simp
  · simp [WireValue.map, lastOf, kotlin_decodeUtf8]
  · simp

theorem kotlin_singleLong_iff {α : Type} {f : α → BitVec 64} {values : List α} (default : α)
    {bits : BitVec 64} (h : valuesUnder entries n = values.map fun v => .integer (f v).toNat)
    (hbits : bits = f (lastOf default values)) :
    singleLong (kotlinMessageOf entries) n = .ok bits ↔ values.length = 1 := by
  rw [singleLong, kotlin_values, h, hbits]
  rcases values with _ | ⟨v, _ | ⟨v', rest⟩⟩
  · simp
  · simp [WireValue.map, lastOf]
  · simp

theorem kotlin_singleDouble_iff {values : List (BitVec 64)} {bits : BitVec 64}
    (h : valuesUnder entries n = values.map .double) (hbits : bits = lastOf 0 values) :
    singleDouble (kotlinMessageOf entries) n = .ok bits ↔ values.length = 1 := by
  rw [singleDouble, kotlin_values, h, hbits]
  rcases values with _ | ⟨v, _ | ⟨v', rest⟩⟩
  · simp
  · simp [WireValue.map, lastOf]
  · simp

theorem kotlin_optionalDouble_iff {values : List (BitVec 64)} {bits : BitVec 64}
    (h : valuesUnder entries n = values.map .double) (hbits : bits = lastOf 0 values) :
    optionalDouble (kotlinMessageOf entries) n = bits ↔ values.length = 1 ∨ bits = 0 := by
  rw [optionalDouble, kotlin_values, h, hbits]
  rcases values with _ | ⟨v, _ | ⟨v', rest⟩⟩
  · simp [lastOf]
  · simp [WireValue.map, lastOf]
  · have htwo : (v :: v' :: rest).length ≠ 1 := by simp
    exact ⟨fun h0 => Or.inr h0.symm, fun hzero => (hzero.resolve_left htwo).symm⟩

/-- The submessages under a number, as they are decoded. -/
theorem kotlin_submessages {φ : Type} {Value : φ → Type} {schema : Schema Value}
    (hschema : schema.Ranged) {payload : List UInt8} (hpayload : Encodes entries payload)
    (hlen : payload.length < 2 ^ 31) {subs : List (List (Item Value))}
    (h : List.Forall₂ (fun sub wire => ∃ raw, schema.Serializes sub raw ∧ wire = .bytes raw) subs
      (valuesUnder entries n)) :
    ∃ raws : List (List UInt8), (kotlinMessageOf entries).values n = raws.map .bytes ∧
      List.Forall₂ (fun sub raw => ∃ inner, List.Forall₂ schema.SpelledItem sub inner ∧
        decode raw = .ok (kotlinMessageOf inner)) subs raws := by
  have hshort : ∀ raw, .bytes raw ∈ valuesUnder entries n → raw.length < 2 ^ 31 := by
    intro raw hraw
    exact lt_of_le_of_lt (length_le_of_encodes hpayload (mem_of_mem_valuesUnder hraw)) hlen
  rw [kotlin_values]
  generalize valuesUnder entries n = values at h hshort
  induction h with
  | nil => exact ⟨[], rfl, List.Forall₂.nil⟩
  | @cons sub wire subs values hsub _ ih =>
      obtain ⟨raw, ⟨inner, hinner, hencodes⟩, rfl⟩ := hsub
      obtain ⟨raws, hraws, hdecoded⟩ := ih fun raw' h' => hshort raw' (List.mem_cons_of_mem _ h')
      have hdecode := kotlin_decode_encodes hencodes (hshort raw List.mem_cons_self)
        (Schema.inRange_of_spelled hschema hinner)
      refine ⟨raw :: raws, congrArg (List.cons (WireValue.bytes raw)) hraws, ?_⟩
      exact List.Forall₂.cons ⟨inner, hinner, hdecode⟩ hdecoded

/-- A submessage is read if there is one of them and its fields are. -/
theorem kotlin_singleMessage_iff {φ : Type} {Value : φ → Type} {schema : Schema Value}
    (hschema : schema.Ranged) {payload : List UInt8} (hpayload : Encodes entries payload)
    (hlen : payload.length < 2 ^ 31) {subs : List (List (Item Value))} {P : Message → Prop}
    {Q : List (Item Value) → Prop}
    (h : List.Forall₂ (fun sub wire => ∃ raw, schema.Serializes sub raw ∧ wire = .bytes raw) subs
      (valuesUnder entries n))
    (hPQ : ∀ sub inner, subs = [sub] → List.Forall₂ schema.SpelledItem sub inner →
      (P (kotlinMessageOf inner) ↔ Q sub)) :
    (∃ m, singleMessage (kotlinMessageOf entries) n = .ok m ∧ P m) ↔
      ∃ sub, subs = [sub] ∧ Q sub := by
  obtain ⟨raws, hraws, hdecoded⟩ := kotlin_submessages hschema hpayload hlen h
  rw [singleMessage, hraws]
  cases hdecoded with
  | nil => simp
  | @cons sub raw _ _ hsub hrest =>
      cases hrest with
      | nil =>
          obtain ⟨inner, hinner, hdecode⟩ := hsub
          simpa [hdecode] using hPQ sub inner rfl hinner
      | cons _ _ => simp

theorem kotlin_singleDoubles_iff {items : List AxisItem} {inner : List (ℕ × WireValue ℕ)}
    (hinner : List.Forall₂ vector3.SpelledItem items inner) {x y z : BitVec 64}
    (haxes : (⟨x, y, z⟩ : TelemetryVector3) = axesOf items) :
    (singleDouble (kotlinMessageOf inner) 1 = .ok x ∧
        singleDouble (kotlinMessageOf inner) 2 = .ok y ∧
        singleDouble (kotlinMessageOf inner) 3 = .ok z) ↔ EachAxisOnce items := by
  obtain ⟨hx, hy, hz⟩ := vector_entries hinner
  obtain ⟨hxv, hyv, hzv⟩ := TelemetryVector3.mk.inj haxes
  rw [kotlin_singleDouble_iff hx hxv, kotlin_singleDouble_iff hy hyv,
    kotlin_singleDouble_iff hz hzv]
  rfl

theorem kotlin_optionalVector3_iff {payload : List UInt8} (hpayload : Encodes entries payload)
    (hlen : payload.length < 2 ^ 31) {vectors : List (List AxisItem)}
    (h : List.Forall₂ (fun vector wire => ∃ raw, vector3.Serializes vector raw ∧ wire = .bytes raw)
      vectors (valuesUnder entries n)) {v : TelemetryVector3} (hv : v = axesOf vectors.flatten) :
    optionalVector3 (kotlinMessageOf entries) n = .ok v ↔ LenientVector vectors := by
  obtain ⟨raws, hraws, hdecoded⟩ := kotlin_submessages vector3_ranged hpayload hlen h
  rw [optionalVector3, hraws]
  cases hdecoded with
  | nil =>
      rw [hv]
      exact iff_of_true rfl (Or.inl ⟨Nat.zero_ne_one, rfl⟩)
  | @cons vector raw _ _ hsub hrest =>
      cases hrest with
      | nil =>
          obtain ⟨inner, hinner, hdecode⟩ := hsub
          obtain ⟨x, y, z⟩ := v
          rw [List.flatten_cons, List.flatten_nil, List.append_nil] at hv
          have hvector : LenientVector [vector] ↔ EachAxisOnce vector := by
            simp [LenientVector]
          rw [hvector, ← kotlin_singleDoubles_iff hinner hv]
          simp only [List.map_cons, List.map_nil, hdecode, CheckedSteps.bind_eq_ok_iff,
            Except.ok.injEq, exists_eq_left', pure, Except.pure, TelemetryVector3.mk.injEq]
          constructor
          · rintro ⟨a, ha, b, hb, c, hc, rfl, rfl, rfl⟩
            exact ⟨ha, hb, hc⟩
          · rintro ⟨ha, hb, hc⟩
            exact ⟨x, ha, y, hb, z, hc, rfl, rfl, rfl⟩
      | cons _ _ =>
          rw [hv]
          simp [LenientVector, eq_comm]

/-! ## The envelope -/

/-- What the auth policy reads of an envelope. -/
structure KotlinReads (replace : List UInt8 → String) (decoded : Message)
    (y : TelemetryEnvelopePayload) : Prop where
  time : ∃ message, singleMessage decoded 6 = .ok message ∧
    singleLong message 1 = .ok y.observedUnixMillis ∧
    singleLong message 2 = .ok y.receivedUnixMillis
  position : ∃ message, singleMessage decoded 7 = .ok message ∧
    singleDouble message 1 = .ok y.latitude ∧ singleDouble message 2 = .ok y.longitude ∧
    singleDouble message 3 = .ok y.altitudeM
  eventID : singleString replace decoded 1 = .ok y.eventID
  orgID : singleString replace decoded 2 = .ok y.orgID
  groupID : singleString replace decoded 3 = .ok y.groupID
  assetID : singleString replace decoded 4 = .ok y.assetID
  assetKind : singleLong decoded 5 = .ok y.assetKind
  headingDeg : singleDouble decoded 8 = .ok y.headingDeg
  speedMps : singleDouble decoded 9 = .ok y.speedMps
  batteryPercent : singleDouble decoded 10 = .ok y.batteryPercent
  health : singleLong decoded 11 = .ok y.health
  activeStreamIDs : strings replace decoded 12 = y.activeStreamIDs
  attitudeDeg : optionalVector3 decoded 13 = .ok y.attitudeDeg
  gyroRadPerSec : optionalVector3 decoded 14 = .ok y.gyroRadPerSec
  accelMps2 : optionalVector3 decoded 15 = .ok y.accelMps2
  linkQualityPercent : optionalDouble decoded 16 = y.linkQualityPercent

theorem readWire_eq_ok_iff {replace : List UInt8 → String} {payload : List UInt8} {m : Message}
    {y : TelemetryEnvelopePayload} (hm : decode payload = .ok m) :
    readWire replace payload = .ok y ↔ KotlinReads replace m y := by
  constructor
  · intro h
    simp only [readWire, hm, CheckedSteps.bind_eq_ok_iff, Except.ok.injEq, exists_eq_left', pure,
      Except.pure] at h
    obtain ⟨time, htime, position, hposition, eventID, heventID, orgID, horgID, groupID, hgroupID,
      assetID, hassetID, assetKind, hassetKind, observed, hobserved, received, hreceived, latitude,
      hlatitude, longitude, hlongitude, altitude, haltitude, heading, hheading, speed, hspeed,
      battery, hbattery, health, hhealth, attitude, hattitude, gyro, hgyro, accel, haccel, rfl⟩ := h
    exact ⟨⟨time, htime, hobserved, hreceived⟩, ⟨position, hposition, hlatitude, hlongitude,
      haltitude⟩, heventID, horgID, hgroupID, hassetID, hassetKind, hheading, hspeed, hbattery,
      hhealth, rfl, hattitude, hgyro, haccel, rfl⟩
  · intro h
    obtain ⟨time, htime, hobserved, hreceived⟩ := h.time
    obtain ⟨position, hposition, hlatitude, hlongitude, haltitude⟩ := h.position
    rw [readWire]
    simp [bind, Except.bind, pure, Except.pure, hm, htime, hposition, h.attitudeDeg,
      h.gyroRadPerSec, h.accelMps2, h.eventID, h.orgID, h.groupID, h.assetID, h.assetKind,
      hobserved, hreceived, hlatitude, hlongitude, haltitude, h.headingDeg, h.speedMps,
      h.batteryPercent, h.health, h.activeStreamIDs, h.linkQualityPercent]

theorem fromWire_eq_ok_iff {replace : List UInt8 → String} {now : ℤ} {payload : List UInt8}
    {y : TelemetryEnvelopePayload} (hvalid : y.validate now = .ok ()) :
    TelemetryEnvelopePayload.fromWire replace now payload = .ok y ↔
      readWire replace payload = .ok y := by
  simp only [TelemetryEnvelopePayload.fromWire, CheckedSteps.bind_eq_ok_iff, pure, Except.pure,
    Except.ok.injEq]
  constructor
  · rintro ⟨z, hz, -, -, rfl⟩
    exact hz
  · intro hy
    exact ⟨y, hy, ⟨⟩, hvalid, rfl⟩

variable {items : List EnvelopeItem} {payload : List UInt8}

theorem kotlin_time_iff (h : List.Forall₂ envelope.SpelledItem items entries)
    (hpayload : Encodes entries payload) (hlen : payload.length < 2 ^ 31) :
    (∃ m, singleMessage (kotlinMessageOf entries) 6 = .ok m ∧
        singleLong m 1 = .ok (kotlinOf (valueOf items)).observedUnixMillis ∧
        singleLong m 2 = .ok (kotlinOf (valueOf items)).receivedUnixMillis) ↔
      ∃ time, times items = [time] ∧ Once TimestampedField.observedUnixMillis time ∧
        Once TimestampedField.receivedUnixMillis time := by
  apply kotlin_singleMessage_iff timestamped_ranged hpayload hlen (envelope_entries h).time
  intro time inner htimes hinner
  obtain ⟨hobserved, hreceived⟩ := timestamp_entries hinner
  have hflatten : (times items).flatten = time := by
    rw [htimes, List.flatten_cons, List.flatten_nil, List.append_nil]
  rw [kotlinOf, valueOf, hflatten, kotlin_singleLong_iff 0 hobserved rfl,
    kotlin_singleLong_iff 0 hreceived rfl]
  rfl

theorem kotlin_position_iff (h : List.Forall₂ envelope.SpelledItem items entries)
    (hpayload : Encodes entries payload) (hlen : payload.length < 2 ^ 31) :
    (∃ m, singleMessage (kotlinMessageOf entries) 7 = .ok m ∧
        singleDouble m 1 = .ok (kotlinOf (valueOf items)).latitude ∧
        singleDouble m 2 = .ok (kotlinOf (valueOf items)).longitude ∧
        singleDouble m 3 = .ok (kotlinOf (valueOf items)).altitudeM) ↔
      ∃ position, positions items = [position] ∧ EachAxisOnce position := by
  apply kotlin_singleMessage_iff vector3_ranged hpayload hlen (envelope_entries h).position
  intro position inner hpositions hinner
  have hflatten : (positions items).flatten = position := by
    rw [hpositions, List.flatten_cons, List.flatten_nil, List.append_nil]
  rw [kotlinOf, valueOf, hflatten]
  exact kotlin_singleDoubles_iff hinner rfl

theorem kotlinReads_iff (replace : List UInt8 → String)
    (h : List.Forall₂ envelope.SpelledItem items entries)
    (hpayload : Encodes entries payload) (hlen : payload.length < 2 ^ 31) :
    KotlinReads replace (kotlinMessageOf entries) (kotlinOf (valueOf items)) ↔
      KotlinReadable items := by
  have he := envelope_entries h
  have eventID := kotlin_singleString_iff replace he.eventID rfl
  have orgID := kotlin_singleString_iff replace he.orgID rfl
  have groupID := kotlin_singleString_iff replace he.groupID rfl
  have assetID := kotlin_singleString_iff replace he.assetID rfl
  have assetKind := kotlin_singleLong_iff (f := fun v : Int32 => v.toInt64.toBitVec) 0
    he.assetKind rfl
  have headingDeg := kotlin_singleDouble_iff he.headingDeg rfl
  have speedMps := kotlin_singleDouble_iff he.speedMps rfl
  have batteryPercent := kotlin_singleDouble_iff he.batteryPercent rfl
  have health := kotlin_singleLong_iff (f := fun v : Int32 => v.toInt64.toBitVec) 0 he.health rfl
  have attitudeDeg := kotlin_optionalVector3_iff hpayload hlen he.attitudeDeg rfl
  have gyroRadPerSec := kotlin_optionalVector3_iff hpayload hlen he.gyroRadPerSec rfl
  have accelMps2 := kotlin_optionalVector3_iff hpayload hlen he.accelMps2 rfl
  have link := kotlin_optionalDouble_iff he.linkQualityPercent rfl
  have streams := kotlin_strings replace he.activeStreamIDs
  constructor
  · intro hy
    refine ⟨⟨?_, (kotlin_time_iff h hpayload hlen).1 hy.time,
      (kotlin_position_iff h hpayload hlen).1 hy.position⟩, attitudeDeg.1 hy.attitudeDeg,
      gyroRadPerSec.1 hy.gyroRadPerSec, accelMps2.1 hy.accelMps2, link.1 hy.linkQualityPercent⟩
    simp only [List.forall_mem_cons, List.not_mem_nil, false_imp_iff, implies_true, and_true]
    exact ⟨eventID.1 hy.eventID, orgID.1 hy.orgID, groupID.1 hy.groupID, assetID.1 hy.assetID,
      assetKind.1 hy.assetKind, headingDeg.1 hy.headingDeg, speedMps.1 hy.speedMps,
      batteryPercent.1 hy.batteryPercent, health.1 hy.health⟩
  · intro hr
    have hscalar := hr.required.scalar
    simp only [List.forall_mem_cons, List.not_mem_nil, false_imp_iff, implies_true, and_true]
      at hscalar
    obtain ⟨h1, h2, h3, h4, h5, h8, h9, h10, h11⟩ := hscalar
    exact ⟨(kotlin_time_iff h hpayload hlen).2 hr.required.time,
      (kotlin_position_iff h hpayload hlen).2 hr.required.position, eventID.2 h1, orgID.2 h2,
      groupID.2 h3, assetID.2 h4, assetKind.2 h5, headingDeg.2 h8, speedMps.2 h9,
      batteryPercent.2 h10, health.2 h11, streams, attitudeDeg.2 hr.attitudeDeg,
      gyroRadPerSec.2 hr.gyroRadPerSec, accelMps2.2 hr.accelMps2, link.2 hr.linkQualityPercent⟩

/-- The auth policy reads a serialization of a valid value as that value just when it is
readable. -/
theorem kotlin_reads_value_iff (replace : List UInt8 → String) {now : ℤ}
    (h : envelope.Serializes items payload) (hlen : payload.length < 2 ^ 31)
    (hvalid : (kotlinOf (valueOf items)).validate now = .ok ()) :
    TelemetryEnvelopePayload.fromWire replace now payload = .ok (kotlinOf (valueOf items)) ↔
      KotlinReadable items := by
  obtain ⟨entries, hentries, hencodes⟩ := h
  have hm := kotlin_decode_encodes hencodes hlen
    (Schema.inRange_of_spelled envelope_ranged hentries)
  rw [fromWire_eq_ok_iff hvalid, readWire_eq_ok_iff hm]
  exact kotlinReads_iff replace hentries hencodes hlen

end

end GcsSaker.EnvelopeSerialization
