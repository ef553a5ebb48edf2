import GcsSaker.CheckedSteps
import GcsSaker.MessageCodecs

/-!
# Round trips of the wire messages

A message is written as a list of items; decoding gives the items back, and looking each field up
gives the message. The auth policy reads the same envelope from the same bytes.
-/

namespace GcsSaker.CodecRoundTrip

open ProtobufWire ProtobufWire.Python TelemetryCodec TelemetryCodec.Python MessageCodecs

/-! ## Accessors -/

section

variable {items : List (ℕ × WireValue ℕ)} {n : ℕ}

theorem bytesValues_messageOf : bytesValues (messageOf items) n =
    (valuesUnder items n).filterMap WireValue.asBytes := by
  rw [bytesValues, values_messageOf]

theorem singleInt_messageOf {value : ℕ} (h : valuesUnder items n = [.integer value]) :
    singleInt (messageOf items) n = .ok value := by
  rw [singleInt, values_messageOf, h]

theorem singleFloat_messageOf {bits : BitVec 64} (h : valuesUnder items n = [.double bits]) :
    singleFloat (messageOf items) n = .ok bits := by
  rw [singleFloat, values_messageOf, h]

theorem optionalFloat_messageOf {bits : BitVec 64} (h : valuesUnder items n = [.double bits]) :
    optionalFloat (messageOf items) n = .ok bits := by
  rw [optionalFloat, values_messageOf, h, if_neg (List.cons_ne_nil _ _), singleFloat_messageOf h]

theorem singleBytes_messageOf {raw : List UInt8} (h : valuesUnder items n = [.bytes raw]) :
    singleBytes (messageOf items) n = .ok raw := by
  rw [singleBytes, bytesValues_messageOf, h]
  rfl

theorem singleMessage_messageOf {inner : List (ℕ × WireValue ℕ)}
    (h : valuesUnder items n = [.bytes (written inner)]) :
    singleMessage (messageOf items) n = .ok (messageOf inner) := by
  rw [singleMessage, bytesValues_messageOf, h]
  exact python_decode_written inner

theorem optionalMessage_messageOf {inner : List (ℕ × WireValue ℕ)}
    (h : valuesUnder items n = [.bytes (written inner)]) :
    optionalMessage (messageOf items) n = .ok (some (messageOf inner)) := by
  rw [optionalMessage, bytesValues_messageOf, h]
  exact congrArg (Except.map some) (python_decode_written inner)

theorem decodeUtf8_utf8Encode (s : String) : Python.decodeUtf8 (utf8Encode s) = .ok s := by
  rw [Python.decodeUtf8, utf8Decode_utf8Encode]
  rfl

theorem strings_messageOf {values : List String}
    (h : valuesUnder items n = values.map fun s => .bytes (utf8Encode s)) :
    strings (messageOf items) n = .ok values := by
  have hraw : (valuesUnder items n).filterMap WireValue.asBytes = values.map utf8Encode := by
    rw [h, List.filterMap_map]
    exact List.filterMap_eq_map' (f := utf8Encode) ▸ rfl
  rw [strings, bytesValues_messageOf, hraw]
  exact CheckedSteps.mapM_map_pure fun s _ => decodeUtf8_utf8Encode s

theorem optionalString_messageOf {s : String}
    (h : valuesUnder items n = if s = "" then [] else [.bytes (utf8Encode s)]) :
    optionalString (messageOf items) n = .ok s := by
  rw [optionalString]
  split_ifs at h with hs
  · rw [@strings_messageOf items n [] h, hs]
    rfl
  · rw [@strings_messageOf items n [s] h]
    rfl

theorem singleOptionalBytes_messageOf {raw : List UInt8}
    (h : valuesUnder items n = if raw = [] then [] else [.bytes raw]) :
    singleOptionalBytes (messageOf items) n = .ok raw := by
  rw [singleOptionalBytes, bytesValues_messageOf, h]
  split_ifs with hr
  · rw [hr]
    rfl
  · rfl

theorem singleString_messageOf {s : String} (h : valuesUnder items n = [.bytes (utf8Encode s)]) :
    singleString (messageOf items) n = .ok s := by
  rw [singleString, @strings_messageOf items n [s] h]
  rfl

end

/-! ## The telemetry envelope -/

def vectorItems (x y z : BitVec 64) : List (ℕ × WireValue ℕ) :=
  [(1, .double x), (2, .double y), (3, .double z)]

theorem encodeVector3_eq (x y z : BitVec 64) : encodeVector3 x y z = written (vectorItems x y z) := by
  rw [encodeVector3, encodeDouble_eq, encodeDouble_eq, encodeDouble_eq, ← written_append,
    ← written_append]
  rfl

theorem geoPointWire_eq (latitude longitude altitudeM : BitVec 64) :
    geoPointWire latitude longitude altitudeM = written (vectorItems latitude longitude altitudeM) :=
  encodeVector3_eq latitude longitude altitudeM

def timestampItems (observed received : ℕ) : List (ℕ × WireValue ℕ) :=
  [(1, .integer observed), (2, .integer received)]

theorem timestampedWire_eq (observed received : ℕ) :
    timestampedWire observed received = written (timestampItems observed received) := by
  rw [timestampedWire, encodeVarintField_eq, encodeVarintField_eq, ← written_append]
  rfl

def envelopeItems (x : Python.TelemetryEnvelopePayload) : List (ℕ × WireValue ℕ) :=
  [(1, .bytes (utf8Encode x.eventID)), (2, .bytes (utf8Encode x.orgID)),
    (3, .bytes (utf8Encode x.groupID)), (4, .bytes (utf8Encode x.assetID)),
    (5, .integer x.assetKind),
    (6, .bytes (written (timestampItems x.observedUnixMillis x.receivedUnixMillis))),
    (7, .bytes (written (vectorItems x.latitude x.longitude x.altitudeM))),
    (8, .double x.headingDeg), (9, .double x.speedMps), (10, .double x.batteryPercent),
    (11, .integer x.health)] ++
  x.activeStreamIDs.map (fun s => (12, .bytes (utf8Encode s))) ++
  [(13, .bytes (written (vectorItems x.rollDeg x.pitchDeg x.yawDeg))),
    (14, .bytes (written (vectorItems x.gyroXRadPerSec x.gyroYRadPerSec x.gyroZRadPerSec))),
    (15, .bytes (written (vectorItems x.accelXMps2 x.accelYMps2 x.accelZMps2))),
    (16, .double x.linkQualityPercent)]

/-- Items written one list after the other, for each element of a list. -/
theorem written_each {α : Type*} (item : α → ℕ × WireValue ℕ) (xs : List α) :
    xs.flatMap (fun a => written [item a]) = written (xs.map item) := by
  rw [written_flatMap, ← List.map_eq_flatMap]

theorem encode_envelope_eq (x : Python.TelemetryEnvelopePayload) :
    x.toProtobufWire = written (envelopeItems x) := by
  simp only [TelemetryEnvelopePayload.toProtobufWire, encodeTelemetryEnvelope, encodeString_eq,
    encodeBytes_eq, encodeDouble_eq, encodeVarintField_eq, encodeVector3_eq, geoPointWire_eq,
    timestampedWire_eq, written_each, ← written_append]
  simp [envelopeItems]

/-- What stands under each field number of an envelope. -/
structure EnvelopeValues (x : Python.TelemetryEnvelopePayload) (values : ℕ → List (WireValue ℕ)) :
    Prop where
  eventID : values 1 = [.bytes (utf8Encode x.eventID)]
  orgID : values 2 = [.bytes (utf8Encode x.orgID)]
  groupID : values 3 = [.bytes (utf8Encode x.groupID)]
  assetID : values 4 = [.bytes (utf8Encode x.assetID)]
  assetKind : values 5 = [.integer x.assetKind]
  time : values 6 = [.bytes (written (timestampItems x.observedUnixMillis x.receivedUnixMillis))]
  position : values 7 = [.bytes (written (vectorItems x.latitude x.longitude x.altitudeM))]
  headingDeg : values 8 = [.double x.headingDeg]
  speedMps : values 9 = [.double x.speedMps]
  batteryPercent : values 10 = [.double x.batteryPercent]
  health : values 11 = [.integer x.health]
  activeStreamIDs : values 12 = x.activeStreamIDs.map fun s => .bytes (utf8Encode s)
  attitude : values 13 = [.bytes (written (vectorItems x.rollDeg x.pitchDeg x.yawDeg))]
  gyro : values 14 =
    [.bytes (written (vectorItems x.gyroXRadPerSec x.gyroYRadPerSec x.gyroZRadPerSec))]
  accel : values 15 = [.bytes (written (vectorItems x.accelXMps2 x.accelYMps2 x.accelZMps2))]
  linkQualityPercent : values 16 = [.double x.linkQualityPercent]

theorem envelope_values (x : Python.TelemetryEnvelopePayload) :
    EnvelopeValues x (valuesUnder (envelopeItems x)) := by
  constructor <;> simp [envelopeItems]

theorem singleFloat_vector (x y z : BitVec 64) :
    singleFloat (messageOf (vectorItems x y z)) 1 = .ok x ∧
      singleFloat (messageOf (vectorItems x y z)) 2 = .ok y ∧
      singleFloat (messageOf (vectorItems x y z)) 3 = .ok z := by
  refine ⟨?_, ?_, ?_⟩
  all_goals
    apply singleFloat_messageOf
    simp [vectorItems]

theorem singleInt_timestamp (observed received : ℕ) :
    singleInt (messageOf (timestampItems observed received)) 1 = .ok observed ∧
      singleInt (messageOf (timestampItems observed received)) 2 = .ok received := by
  refine ⟨?_, ?_⟩
  all_goals
    apply singleInt_messageOf
    simp [timestampItems]

theorem decodeOptionalVector3_messageOf {items : List (ℕ × WireValue ℕ)} {n : ℕ} {x y z : BitVec 64}
    (h : valuesUnder items n = [.bytes (written (vectorItems x y z))]) :
    decodeOptionalVector3 (messageOf items) n = .ok (x, y, z) := by
  obtain ⟨hx, hy, hz⟩ := singleFloat_vector x y z
  rw [decodeOptionalVector3, optionalMessage_messageOf h]
  simp [bind, Except.bind, pure, Except.pure, hx, hy, hz]

/-- Reading back what was written gives the envelope. -/
theorem telemetry_roundTrip (x : Python.TelemetryEnvelopePayload) :
    Python.TelemetryEnvelopePayload.fromProtobufWire x.toProtobufWire = .ok x := by
  have h := envelope_values x
  obtain ⟨hobserved, hreceived⟩ := singleInt_timestamp x.observedUnixMillis x.receivedUnixMillis
  obtain ⟨hlatitude, hlongitude, haltitude⟩ := singleFloat_vector x.latitude x.longitude x.altitudeM
  rw [encode_envelope_eq, TelemetryEnvelopePayload.fromProtobufWire, decodeTelemetryEnvelope]
  simp [bind, Except.bind, pure, Except.pure, python_decode_written,
    singleMessage_messageOf h.time, singleMessage_messageOf h.position,
    decodeOptionalVector3_messageOf h.attitude, decodeOptionalVector3_messageOf h.gyro,
    decodeOptionalVector3_messageOf h.accel, singleString_messageOf h.eventID,
    singleString_messageOf h.orgID, singleString_messageOf h.groupID,
    singleString_messageOf h.assetID, singleInt_messageOf h.assetKind,
    singleFloat_messageOf h.headingDeg, singleFloat_messageOf h.speedMps,
    singleFloat_messageOf h.batteryPercent, singleInt_messageOf h.health,
    strings_messageOf h.activeStreamIDs, optionalFloat_messageOf h.linkQualityPercent,
    hobserved, hreceived, hlatitude, hlongitude, haltitude]

/-! ## The other messages -/

def pointItems (point : OverlayPointPayload) : List (ℕ × WireValue ℕ) :=
  [(1, .double point.x), (2, .double point.y)]

theorem encode_point_eq (point : OverlayPointPayload) :
    point.toProtobufWire = written (pointItems point) := by
  rw [OverlayPointPayload.toProtobufWire, encodeDouble_eq, encodeDouble_eq, ← written_append]
  rfl

theorem point_roundTrip (point : OverlayPointPayload) :
    OverlayPointPayload.fromProtobufWire point.toProtobufWire = .ok point := by
  have hx : valuesUnder (pointItems point) 1 = [.double point.x] := by simp [pointItems]
  have hy : valuesUnder (pointItems point) 2 = [.double point.y] := by simp [pointItems]
  rw [encode_point_eq, OverlayPointPayload.fromProtobufWire]
  simp [bind, Except.bind, pure, Except.pure, python_decode_written, singleFloat_messageOf hx,
    singleFloat_messageOf hy]

def overlayItems (x : AiOverlayEventPayload) : List (ℕ × WireValue ℕ) :=
  [(1, .bytes (utf8Encode x.eventID)), (2, .bytes (utf8Encode x.streamID)),
    (3, .bytes (utf8Encode x.modelID)), (4, .integer x.kind), (5, .bytes (utf8Encode x.label)),
    (6, .double x.confidence)] ++
  x.points.map (fun point => (7, .bytes point.toProtobufWire)) ++
  [(8, .bytes (written (vectorItems x.latitude x.longitude x.altitudeM))),
    (9, .bytes (written (timestampItems x.observedUnixMillis x.receivedUnixMillis)))]

theorem encode_overlay_eq (x : AiOverlayEventPayload) :
    x.toProtobufWire = written (overlayItems x) := by
  simp only [AiOverlayEventPayload.toProtobufWire, encodeString_eq, encodeBytes_eq,
    encodeDouble_eq, encodeVarintField_eq, geoPointWire_eq, timestampedWire_eq, written_each,
    ← written_append]
  simp [overlayItems]

theorem points_messageOf {items : List (ℕ × WireValue ℕ)} {n : ℕ}
    {points : List OverlayPointPayload}
    (h : valuesUnder items n = points.map fun point => .bytes point.toProtobufWire) :
    (bytesValues (messageOf items) n).mapM OverlayPointPayload.fromProtobufWire = .ok points := by
  have hraw : (valuesUnder items n).filterMap WireValue.asBytes =
      points.map OverlayPointPayload.toProtobufWire := by
    rw [h, List.filterMap_map]
    exact List.filterMap_eq_map' (f := OverlayPointPayload.toProtobufWire) ▸ rfl
  rw [bytesValues_messageOf, hraw]
  exact CheckedSteps.mapM_map_pure fun point _ => point_roundTrip point

theorem overlay_roundTrip (x : AiOverlayEventPayload) :
    AiOverlayEventPayload.fromProtobufWire x.toProtobufWire = .ok x := by
  obtain ⟨hobserved, hreceived⟩ := singleInt_timestamp x.observedUnixMillis x.receivedUnixMillis
  obtain ⟨hlatitude, hlongitude, haltitude⟩ := singleFloat_vector x.latitude x.longitude x.altitudeM
  have h1 : valuesUnder (overlayItems x) 1 = [.bytes (utf8Encode x.eventID)] := by
    simp [overlayItems]
  have h2 : valuesUnder (overlayItems x) 2 = [.bytes (utf8Encode x.streamID)] := by
    simp [overlayItems]
  have h3 : valuesUnder (overlayItems x) 3 = [.bytes (utf8Encode x.modelID)] := by
    simp [overlayItems]
  have h4 : valuesUnder (overlayItems x) 4 = [.integer x.kind] := by simp [overlayItems]
  have h5 : valuesUnder (overlayItems x) 5 = [.bytes (utf8Encode x.label)] := by
    simp [overlayItems]
  have h6 : valuesUnder (overlayItems x) 6 = [.double x.confidence] := by simp [overlayItems]
  have h7 : valuesUnder (overlayItems x) 7 =
      x.points.map fun point => .bytes point.toProtobufWire := by simp [overlayItems]
  have h8 : valuesUnder (overlayItems x) 8 =
      [.bytes (written (vectorItems x.latitude x.longitude x.altitudeM))] := by
    simp [overlayItems]
  have h9 : valuesUnder (overlayItems x) 9 =
      [.bytes (written (timestampItems x.observedUnixMillis x.receivedUnixMillis))] := by
    simp [overlayItems]
  rw [encode_overlay_eq, AiOverlayEventPayload.fromProtobufWire]
  simp [bind, Except.bind, pure, Except.pure, python_decode_written, anchorFloat,
    optionalMessage_messageOf h8, singleMessage_messageOf h9, singleString_messageOf h1,
    singleString_messageOf h2, singleString_messageOf h3, singleInt_messageOf h4,
    singleString_messageOf h5, singleFloat_messageOf h6, points_messageOf h7, hobserved,
    hreceived, hlatitude, hlongitude, haltitude]

def commandItems (x : StreamCommandPayload) : List (ℕ × WireValue ℕ) :=
  [(1, .bytes (utf8Encode x.commandID)), (2, .bytes (utf8Encode x.streamID)),
    (3, .bytes (utf8Encode x.targetAssetID)), (4, .bytes (utf8Encode x.commandType))] ++
  (if x.payload = [] then [] else [(5, .bytes x.payload)]) ++
  [(6, .bytes (written (timestampItems x.observedUnixMillis x.observedUnixMillis)))]

theorem written_ite (c : Prop) [Decidable c] (items : List (ℕ × WireValue ℕ)) :
    (if c then [] else written items) = written (if c then [] else items) := by
  split_ifs
  · rfl
  · rfl

theorem valuesUnder_ite (c : Prop) [Decidable c] (items : List (ℕ × WireValue ℕ)) (n : ℕ) :
    valuesUnder (if c then [] else items) n = if c then [] else valuesUnder items n := by
  split_ifs
  · rfl
  · rfl

theorem encode_command_eq (x : StreamCommandPayload) :
    x.toProtobufWire = written (commandItems x) := by
  simp only [StreamCommandPayload.toProtobufWire, encodeString_eq, encodeBytes_eq,
    timestampedWire_eq, written_ite, ← written_append]
  simp [commandItems]

theorem command_roundTrip (x : StreamCommandPayload) :
    StreamCommandPayload.fromProtobufWire x.toProtobufWire = .ok x := by
  have hobserved := (singleInt_timestamp x.observedUnixMillis x.observedUnixMillis).1
  have h1 : valuesUnder (commandItems x) 1 = [.bytes (utf8Encode x.commandID)] := by
    simp [commandItems, valuesUnder_ite]
  have h2 : valuesUnder (commandItems x) 2 = [.bytes (utf8Encode x.streamID)] := by
    simp [commandItems, valuesUnder_ite]
  have h3 : valuesUnder (commandItems x) 3 = [.bytes (utf8Encode x.targetAssetID)] := by
    simp [commandItems, valuesUnder_ite]
  have h4 : valuesUnder (commandItems x) 4 = [.bytes (utf8Encode x.commandType)] := by
    simp [commandItems, valuesUnder_ite]
  have h5 : valuesUnder (commandItems x) 5 =
      if x.payload = [] then [] else [.bytes x.payload] := by
    simp [commandItems, valuesUnder_ite]
  have h6 : valuesUnder (commandItems x) 6 =
      [.bytes (written (timestampItems x.observedUnixMillis x.observedUnixMillis))] := by
    simp [commandItems, valuesUnder_ite]
  rw [encode_command_eq, StreamCommandPayload.fromProtobufWire]
  simp [bind, Except.bind, pure, Except.pure, python_decode_written,
    singleMessage_messageOf h6, singleString_messageOf h1, singleString_messageOf h2,
    singleString_messageOf h3, singleString_messageOf h4, singleOptionalBytes_messageOf h5,
    hobserved]

def requestItems (x : GatewayStreamRequest) (field : ℕ) : List (ℕ × WireValue ℕ) :=
  [(1, .bytes (utf8Encode x.requestID)), (2, .bytes (utf8Encode x.orgID)),
    (3, .bytes (utf8Encode x.groupID)), (4, .bytes (utf8Encode x.assetID)),
    (field, .bytes x.payload.value)]

/-- A kind that a table supports stands in it with its field. -/
theorem mem_of_lookup_elim {fields : List (String × ℕ)} {kind error : String} {field : ℕ}
    (h : (fields.lookup kind).elim (.error error) Except.ok = .ok field) :
    (kind, field) ∈ fields := by
  cases hl : fields.lookup kind with
  | none =>
      rw [hl] at h
      cases h
  | some n =>
      rw [hl] at h
      cases h
      obtain ⟨before, after, rfl, -⟩ := List.lookup_eq_some_iff.mp hl
      exact List.mem_append_right _ List.mem_cons_self

theorem requestPayload_messageOf {x : GatewayStreamRequest} {field : ℕ}
    (h : (x.payload.kind, field) ∈ requestPayloadFields) :
    requestPayloadFieldAndKind (messageOf (requestItems x field)) = .ok (field, x.payload.kind) ∧
      valuesUnder (requestItems x field) field = [.bytes x.payload.value] ∧ 4 < field := by
  simp only [requestPayloadFields, List.mem_cons, Prod.mk.injEq, List.not_mem_nil,
    or_false] at h
  rcases h with ⟨hk, rfl⟩ | ⟨hk, rfl⟩ | ⟨hk, rfl⟩
  all_goals
    simp [requestPayloadFieldAndKind, requestPayloadFields, bytesValues_messageOf, requestItems,
      hk, WireValue.asBytes]

theorem request_roundTrip {x : GatewayStreamRequest} {wire : List UInt8}
    (h : x.toProtobufWire = .ok wire) : GatewayStreamRequest.fromProtobufWire wire = .ok x := by
  rw [GatewayStreamRequest.toProtobufWire] at h
  cases hf : requestPayloadField x.payload.kind with
  | error e =>
      rw [hf] at h
      cases h
  | ok field =>
      simp only [hf, bind, Except.bind, pure, Except.pure, Except.ok.injEq, encodeString_eq,
        encodeBytes_eq, ← written_append] at h
      obtain ⟨hkind, hvalue, hlt⟩ := requestPayload_messageOf (mem_of_lookup_elim hf)
      have h1 : valuesUnder (requestItems x field) 1 = [.bytes (utf8Encode x.requestID)] := by
        rw [requestItems]
        simp [show field ≠ 1 by omega]
      have h2 : valuesUnder (requestItems x field) 2 = [.bytes (utf8Encode x.orgID)] := by
        rw [requestItems]
        simp [show field ≠ 2 by omega]
      have h3 : valuesUnder (requestItems x field) 3 = [.bytes (utf8Encode x.groupID)] := by
        rw [requestItems]
        simp [show field ≠ 3 by omega]
      have h4 : valuesUnder (requestItems x field) 4 = [.bytes (utf8Encode x.assetID)] := by
        rw [requestItems]
        simp [show field ≠ 4 by omega]
      have hwire : wire = written (requestItems x field) := h.symm
      rw [hwire, GatewayStreamRequest.fromProtobufWire]
      simp [bind, Except.bind, pure, Except.pure, python_decode_written, hkind,
        singleString_messageOf h1, singleString_messageOf h2, singleString_messageOf h3,
        singleString_messageOf h4, singleBytes_messageOf hvalue]

theorem ackStatus_roundTrip (status : GatewayAckStatus) :
    GatewayAckStatus.ofInt status.toInt = .ok status := by
  cases status <;> rfl

def payloadItems : Option GatewayStreamRequestPayload → List (ℕ × WireValue ℕ)
  | none => []
  | some payload =>
    [(if payload.kind = GatewayPayloadKind.command then 10 else 11, .bytes payload.value)]

def responseItems (x : GatewayStreamResponse) : List (ℕ × WireValue ℕ) :=
  [(1, .bytes (utf8Encode x.responseID))] ++
  (if x.requestID = "" then [] else [(2, .bytes (utf8Encode x.requestID))]) ++
  [(3, .integer x.status.toInt), (4, .bytes (utf8Encode x.reasonCode))] ++
  payloadItems x.payload

theorem encodePayload_cases {payload : Option GatewayStreamRequestPayload} {bytes : List UInt8}
    (h : GatewayStreamResponse.encodePayload payload = .ok bytes) :
    bytes = written (payloadItems payload) ∧ (payload = none ∨
      ∃ value, payload = some ⟨GatewayPayloadKind.command, value⟩ ∨
        payload = some ⟨GatewayPayloadKind.telemetryBatch, value⟩) := by
  cases payload with
  | none =>
      cases h
      exact ⟨rfl, Or.inl rfl⟩
  | some payload =>
      obtain ⟨kind, value⟩ := payload
      rw [GatewayStreamResponse.encodePayload] at h
      cases hf : responsePayloadField kind with
      | error e =>
          rw [hf] at h
          cases h
      | ok field =>
          simp only [hf, bind, Except.bind, pure, Except.pure, Except.ok.injEq,
            encodeBytes_eq] at h
          have hmem := mem_of_lookup_elim hf
          simp only [responsePayloadFields, List.mem_cons, Prod.mk.injEq, List.not_mem_nil,
            or_false] at hmem
          subst h
          rcases hmem with ⟨rfl, rfl⟩ | ⟨rfl, rfl⟩
          · exact ⟨rfl, Or.inr ⟨value, Or.inl rfl⟩⟩
          · exact ⟨rfl, Or.inr ⟨value, Or.inr rfl⟩⟩

theorem responsePayload_messageOf {x : GatewayStreamResponse} (h : x.payload = none ∨
    ∃ value, x.payload = some ⟨GatewayPayloadKind.command, value⟩ ∨
      x.payload = some ⟨GatewayPayloadKind.telemetryBatch, value⟩) :
    responsePayload (messageOf (responseItems x)) = .ok x.payload ∧
      ∀ n < 10, valuesUnder (payloadItems x.payload) n = [] := by
  have hbatch : GatewayPayloadKind.telemetryBatch ≠ GatewayPayloadKind.command := by decide
  rcases h with h | ⟨value, h | h⟩
  · refine ⟨?_, fun n _ => by rw [h]; rfl⟩
    simp [responsePayload, bytesValues_messageOf, responseItems, valuesUnder_ite, h, payloadItems]
  · refine ⟨?_, fun n hn => ?_⟩
    · simp [responsePayload, bytesValues_messageOf, responseItems, valuesUnder_ite, h,
        payloadItems, WireValue.asBytes]
    · simp [h, payloadItems, show 10 ≠ n by omega]
  · refine ⟨?_, fun n hn => ?_⟩
    · simp [responsePayload, bytesValues_messageOf, responseItems, valuesUnder_ite, h,
        payloadItems, WireValue.asBytes, hbatch]
    · simp [h, payloadItems, hbatch, show 11 ≠ n by omega]

theorem response_roundTrip {x : GatewayStreamResponse} {wire : List UInt8}
    (h : x.toProtobufWire = .ok wire) : GatewayStreamResponse.fromProtobufWire wire = .ok x := by
  rw [GatewayStreamResponse.toProtobufWire] at h
  cases hp : GatewayStreamResponse.encodePayload x.payload with
  | error e =>
      rw [hp] at h
      cases h
  | ok bytes =>
      obtain ⟨rfl, hcases⟩ := encodePayload_cases hp
      obtain ⟨hpayload, hother⟩ := responsePayload_messageOf hcases
      simp only [hp, bind, Except.bind, pure, Except.pure, Except.ok.injEq, encodeString_eq,
        encodeVarintField_eq, written_ite, ← written_append] at h
      have hwire : wire = written (responseItems x) := by
        rw [← h, responseItems]
        simp
      have h1 : valuesUnder (responseItems x) 1 = [.bytes (utf8Encode x.responseID)] := by
        simp [responseItems, valuesUnder_ite, hother]
      have h2 : valuesUnder (responseItems x) 2 =
          if x.requestID = "" then [] else [.bytes (utf8Encode x.requestID)] := by
        simp [responseItems, valuesUnder_ite, hother]
      have h3 : valuesUnder (responseItems x) 3 = [.integer x.status.toInt] := by
        simp [responseItems, valuesUnder_ite, hother]
      have h4 : valuesUnder (responseItems x) 4 = [.bytes (utf8Encode x.reasonCode)] := by
        simp [responseItems, valuesUnder_ite, hother]
      rw [hwire, GatewayStreamResponse.fromProtobufWire]
      simp [bind, Except.bind, pure, Except.pure, python_decode_written, hpayload,
        singleString_messageOf h1, optionalString_messageOf h2, singleInt_messageOf h3,
        singleString_messageOf h4, ackStatus_roundTrip]

/-! ## The envelope in Kotlin -/

def kotlinMessageOf (items : List (ℕ × WireValue ℕ)) : Kotlin.Message :=
  ⟨items.map fun item => ((item.1 : ℤ), item.2.map (BitVec.ofNat 64))⟩

/-- Items that Kotlin reads as they stand. -/
def FitKotlin (items : List (ℕ × WireValue ℕ)) : Prop :=
  (written items).length < 2 ^ 31 ∧ ∀ item ∈ items, item.1 < 2 ^ 28 ∧
    ∀ value, item.2 = .integer value → value < 2 ^ 64

theorem decode_fitKotlin {items : List (ℕ × WireValue ℕ)} (h : FitKotlin items) :
    Kotlin.decode (written items) = .ok (kotlinMessageOf items) :=
  kotlin_decode_written h.1 (fun item hi => (h.2 item hi).1) fun item hi => (h.2 item hi).2

section

variable {items : List (ℕ × WireValue ℕ)} {n : ℕ}

theorem mem_of_mem_valuesUnder {value : WireValue ℕ} (h : value ∈ valuesUnder items n) :
    (n, value) ∈ items := by
  obtain ⟨item, hitem, hv⟩ := List.mem_filterMap.mp h
  split_ifs at hv with hn
  cases hv
  exact hn ▸ hitem

theorem length_le_written {raw : List UInt8} (h : valuesUnder items n = [.bytes raw]) :
    raw.length ≤ (written items).length := by
  have hmem : (n, WireValue.bytes raw) ∈ items := by
    apply mem_of_mem_valuesUnder
    rw [h]
    exact List.mem_cons_self
  exact content_length_le (List.mem_map_of_mem hmem) rfl

variable (replace : List UInt8 → String)

theorem kotlin_decodeUtf8 (s : String) : Kotlin.decodeUtf8 replace (utf8Encode s) = s := by
  rw [Kotlin.decodeUtf8, utf8Decode_utf8Encode]
  rfl

theorem kotlin_values (items : List (ℕ × WireValue ℕ)) (n : ℕ) :
    (kotlinMessageOf items).values n = (valuesUnder items n).map (.map (BitVec.ofNat 64)) :=
  values_kotlin items n

theorem kotlin_singleString {s : String} (h : valuesUnder items n = [.bytes (utf8Encode s)]) :
    Kotlin.singleString replace (kotlinMessageOf items) n = .ok s := by
  rw [Kotlin.singleString, kotlin_values, h]
  exact congrArg Except.ok (kotlin_decodeUtf8 replace s)

theorem kotlin_singleLong {value : ℕ} (h : valuesUnder items n = [.integer value]) :
    Kotlin.singleLong (kotlinMessageOf items) n = .ok (BitVec.ofNat 64 value) := by
  rw [Kotlin.singleLong, kotlin_values, h]
  rfl

theorem kotlin_singleDouble {bits : BitVec 64} (h : valuesUnder items n = [.double bits]) :
    Kotlin.singleDouble (kotlinMessageOf items) n = .ok bits := by
  rw [Kotlin.singleDouble, kotlin_values, h]
  rfl

theorem kotlin_optionalDouble {bits : BitVec 64} (h : valuesUnder items n = [.double bits]) :
    Kotlin.optionalDouble (kotlinMessageOf items) n = bits := by
  rw [Kotlin.optionalDouble, kotlin_values, h]
  rfl

theorem kotlin_strings {values : List String}
    (h : valuesUnder items n = values.map fun s => .bytes (utf8Encode s)) :
    Kotlin.strings replace (kotlinMessageOf items) n = values := by
  rw [Kotlin.strings, kotlin_values, h, List.map_map, List.filterMap_map]
  simp [Function.comp_def, WireValue.map, WireValue.asBytes, kotlin_decodeUtf8]

theorem kotlin_singleMessage {inner : List (ℕ × WireValue ℕ)}
    (h : valuesUnder items n = [.bytes (written inner)]) (hinner : FitKotlin inner) :
    Kotlin.singleMessage (kotlinMessageOf items) n = .ok (kotlinMessageOf inner) := by
  rw [Kotlin.singleMessage, kotlin_values, h]
  exact decode_fitKotlin hinner

end

theorem fitKotlin_vector {x y z : BitVec 64} (h : (written (vectorItems x y z)).length < 2 ^ 31) :
    FitKotlin (vectorItems x y z) := by
  refine ⟨h, ?_⟩
  simp [vectorItems]

theorem fitKotlin_timestamp {observed received : ℕ} (hobserved : observed < 2 ^ 63)
    (hreceived : received < 2 ^ 63)
    (h : (written (timestampItems observed received)).length < 2 ^ 31) :
    FitKotlin (timestampItems observed received) := by
  refine ⟨h, ?_⟩
  simp [timestampItems]
  omega

theorem kotlin_vector (x y z : BitVec 64) :
    Kotlin.singleDouble (kotlinMessageOf (vectorItems x y z)) 1 = .ok x ∧
      Kotlin.singleDouble (kotlinMessageOf (vectorItems x y z)) 2 = .ok y ∧
      Kotlin.singleDouble (kotlinMessageOf (vectorItems x y z)) 3 = .ok z := by
  refine ⟨?_, ?_, ?_⟩
  all_goals
    apply kotlin_singleDouble
    simp [vectorItems]

theorem kotlin_timestamp (observed received : ℕ) :
    Kotlin.singleLong (kotlinMessageOf (timestampItems observed received)) 1 =
        .ok (BitVec.ofNat 64 observed) ∧
      Kotlin.singleLong (kotlinMessageOf (timestampItems observed received)) 2 =
        .ok (BitVec.ofNat 64 received) := by
  refine ⟨?_, ?_⟩
  all_goals
    apply kotlin_singleLong
    simp [timestampItems]

theorem kotlin_optionalVector3 {items : List (ℕ × WireValue ℕ)} {n : ℕ} {x y z : BitVec 64}
    (hlen : (written items).length < 2 ^ 31)
    (h : valuesUnder items n = [.bytes (written (vectorItems x y z))]) :
    Kotlin.optionalVector3 (kotlinMessageOf items) n = .ok ⟨x, y, z⟩ := by
  obtain ⟨hx, hy, hz⟩ := kotlin_vector x y z
  have hfit := fitKotlin_vector (lt_of_le_of_lt (length_le_written h) hlen)
  rw [Kotlin.optionalVector3, kotlin_values, h]
  simp [WireValue.map, bind, Except.bind, pure, Except.pure, decode_fitKotlin hfit, hx, hy, hz]

/-- The integers of an envelope are in the range of a `Long`. -/
def FitsLong (x : Python.TelemetryEnvelopePayload) : Prop :=
  x.assetKind < 2 ^ 63 ∧ x.observedUnixMillis < 2 ^ 63 ∧ x.receivedUnixMillis < 2 ^ 63 ∧
    x.health < 2 ^ 63

/-- The same value in every field. -/
structure SameEnvelope (x : Python.TelemetryEnvelopePayload)
    (y : Kotlin.TelemetryEnvelopePayload) : Prop where
  eventID : y.eventID = x.eventID
  orgID : y.orgID = x.orgID
  groupID : y.groupID = x.groupID
  assetID : y.assetID = x.assetID
  assetKind : y.assetKind.toInt = x.assetKind
  observedUnixMillis : y.observedUnixMillis.toInt = x.observedUnixMillis
  receivedUnixMillis : y.receivedUnixMillis.toInt = x.receivedUnixMillis
  latitude : y.latitude = x.latitude
  longitude : y.longitude = x.longitude
  altitudeM : y.altitudeM = x.altitudeM
  headingDeg : y.headingDeg = x.headingDeg
  speedMps : y.speedMps = x.speedMps
  batteryPercent : y.batteryPercent = x.batteryPercent
  health : y.health.toInt = x.health
  activeStreamIDs : y.activeStreamIDs = x.activeStreamIDs
  attitude : y.attitudeDeg = ⟨x.rollDeg, x.pitchDeg, x.yawDeg⟩
  gyro : y.gyroRadPerSec = ⟨x.gyroXRadPerSec, x.gyroYRadPerSec, x.gyroZRadPerSec⟩
  accel : y.accelMps2 = ⟨x.accelXMps2, x.accelYMps2, x.accelZMps2⟩
  linkQualityPercent : y.linkQualityPercent = x.linkQualityPercent

theorem toInt_ofNat_of_lt {n : ℕ} (h : n < 2 ^ 63) : (BitVec.ofNat 64 n).toInt = n := by
  rw [BitVec.toInt_eq_toNat_cond, BitVec.toNat_ofNat, Nat.mod_eq_of_lt (by omega),
    if_pos (by omega)]

/-- Kotlin reads the envelope from the bytes that Python writes. -/
theorem readWire_same (replace : List UInt8 → String) {x : Python.TelemetryEnvelopePayload}
    (hx : FitsLong x) (hlen : x.toProtobufWire.length < 2 ^ 31) :
    ∃ y, Kotlin.readWire replace x.toProtobufWire = .ok y ∧ SameEnvelope x y := by
  obtain ⟨hkind, hobserved, hreceived, hhealth⟩ := hx
  have h := envelope_values x
  rw [encode_envelope_eq] at hlen ⊢
  have hfit : FitKotlin (envelopeItems x) := by
    refine ⟨hlen, ?_⟩
    simp [envelopeItems, or_imp, forall_and]
    omega
  have htime := kotlin_singleMessage h.time (fitKotlin_timestamp hobserved hreceived
    (lt_of_le_of_lt (length_le_written h.time) hlen))
  have hposition := kotlin_singleMessage h.position (fitKotlin_vector
    (lt_of_le_of_lt (length_le_written h.position) hlen))
  obtain ⟨hlatitude, hlongitude, haltitude⟩ := kotlin_vector x.latitude x.longitude x.altitudeM
  obtain ⟨hfirst, hsecond⟩ := kotlin_timestamp x.observedUnixMillis x.receivedUnixMillis
  rw [Kotlin.readWire]
  simp [bind, Except.bind, pure, Except.pure, decode_fitKotlin hfit, htime, hposition,
    kotlin_singleString replace h.eventID, kotlin_singleString replace h.orgID,
    kotlin_singleString replace h.groupID, kotlin_singleString replace h.assetID,
    kotlin_singleLong h.assetKind, hfirst, hsecond, hlatitude, hlongitude, haltitude,
    kotlin_singleDouble h.headingDeg, kotlin_singleDouble h.speedMps,
    kotlin_singleDouble h.batteryPercent, kotlin_singleLong h.health,
    kotlin_strings replace h.activeStreamIDs, kotlin_optionalVector3 hlen h.attitude,
    kotlin_optionalVector3 hlen h.gyro, kotlin_optionalVector3 hlen h.accel,
    kotlin_optionalDouble h.linkQualityPercent]
  constructor
  all_goals first
    | rfl
    | exact toInt_ofNat_of_lt hkind
    | exact toInt_ofNat_of_lt hobserved
    | exact toInt_ofNat_of_lt hreceived
    | exact toInt_ofNat_of_lt hhealth

/-- Whatever the auth policy accepts of these bytes has the same value in every field. -/
theorem fromWire_same {replace : List UInt8 → String} {now : ℤ}
    {x : Python.TelemetryEnvelopePayload} (hx : FitsLong x)
    (hlen : x.toProtobufWire.length < 2 ^ 31) {y : Kotlin.TelemetryEnvelopePayload}
    (h : Kotlin.TelemetryEnvelopePayload.fromWire replace now x.toProtobufWire = .ok y) :
    SameEnvelope x y := by
  obtain ⟨z, hz, hsame⟩ := readWire_same replace hx hlen
  rw [Kotlin.TelemetryEnvelopePayload.fromWire, hz] at h
  cases hv : z.validate now with
  | error e =>
      simp only [bind, Except.bind, hv, reduceCtorEq] at h
  | ok u =>
      simp only [bind, Except.bind, hv, pure, Except.pure, Except.ok.injEq] at h
      exact h ▸ hsame

/-! ## All messages -/

theorem request_encodes {x : GatewayStreamRequest}
    (h : x.payload.kind ∈ requestPayloadFields.map Prod.fst) :
    ∃ wire, x.toProtobufWire = .ok wire := by
  have hfield : ∃ field, requestPayloadField x.payload.kind = .ok field := by
    simp only [requestPayloadFields, List.map_cons, List.map_nil, List.mem_cons,
      List.not_mem_nil, or_false] at h
    rcases h with hk | hk | hk
    · exact ⟨10, by rw [hk]; decide⟩
    · exact ⟨11, by rw [hk]; decide⟩
    · exact ⟨12, by rw [hk]; decide⟩
  obtain ⟨field, hf⟩ := hfield
  rw [GatewayStreamRequest.toProtobufWire, hf]
  exact ⟨_, rfl⟩

theorem response_encodes {x : GatewayStreamResponse}
    (h : ∀ payload ∈ x.payload, payload.kind ∈ responsePayloadFields.map Prod.fst) :
    ∃ wire, x.toProtobufWire = .ok wire := by
  have hpayload : ∃ bytes, GatewayStreamResponse.encodePayload x.payload = .ok bytes := by
    cases hp : x.payload with
    | none => exact ⟨[], rfl⟩
    | some payload =>
        have hkind := h payload hp
        simp only [responsePayloadFields, List.map_cons, List.map_nil, List.mem_cons,
          List.not_mem_nil, or_false] at hkind
        rw [GatewayStreamResponse.encodePayload]
        rcases hkind with hk | hk
        · have hf : responsePayloadField payload.kind = .ok 10 := by rw [hk]; decide
          exact ⟨_, by rw [hf]; rfl⟩
        · have hf : responsePayloadField payload.kind = .ok 11 := by rw [hk]; decide
          exact ⟨_, by rw [hf]; rfl⟩
  obtain ⟨bytes, hb⟩ := hpayload
  rw [GatewayStreamResponse.toProtobufWire, hb]
  exact ⟨_, rfl⟩

/-- Every message is read back as it was written, and the auth policy reads the same envelope. -/
theorem codecs_roundTrip :
    (∀ x : Python.TelemetryEnvelopePayload,
      Python.TelemetryEnvelopePayload.fromProtobufWire x.toProtobufWire = .ok x) ∧
    (∀ (replace : List UInt8 → String) (now : ℤ) (x : Python.TelemetryEnvelopePayload)
      (payload : Payload) (y : Kotlin.TelemetryEnvelopePayload), FitsLong x →
      payload.1 = x.toProtobufWire →
      Kotlin.TelemetryEnvelopePayload.fromWire replace now payload.1 = .ok y →
        SameEnvelope x y) ∧
    (∀ x : AiOverlayEventPayload,
      AiOverlayEventPayload.fromProtobufWire x.toProtobufWire = .ok x) ∧
    (∀ x : StreamCommandPayload,
      StreamCommandPayload.fromProtobufWire x.toProtobufWire = .ok x) ∧
    (∀ x : GatewayStreamRequest, x.payload.kind ∈ requestPayloadFields.map Prod.fst →
      ∃ wire, x.toProtobufWire = .ok wire ∧
        GatewayStreamRequest.fromProtobufWire wire = .ok x) ∧
    ∀ x : GatewayStreamResponse,
      (∀ payload ∈ x.payload, payload.kind ∈ responsePayloadFields.map Prod.fst) →
      ∃ wire, x.toProtobufWire = .ok wire ∧
        GatewayStreamResponse.fromProtobufWire wire = .ok x := by
  refine ⟨telemetry_roundTrip, fun replace now x payload y hx hp h => ?_, overlay_roundTrip,
    command_roundTrip, fun x hx => ?_, fun x hx => ?_⟩
  · rw [hp] at h
    exact fromWire_same hx (hp ▸ payload.2) h
  · obtain ⟨wire, hw⟩ := request_encodes hx
    exact ⟨wire, hw, request_roundTrip hw⟩
  · obtain ⟨wire, hw⟩ := response_encodes hx
    exact ⟨wire, hw, response_roundTrip hw⟩

def sampleEnvelope : Python.TelemetryEnvelopePayload where
  eventID := "event-1"
  orgID := "org-1"
  groupID := "group-1"
  assetID := "device-1"
  assetKind := 4
  observedUnixMillis := 1722067200000
  receivedUnixMillis := 1722067200000
  latitude := 0x4041ef8a0902de01
  longitude := 0x4060133e425aee63
  altitudeM := 0
  headingDeg := 0
  speedMps := 0
  batteryPercent := 0
  health := 1
  activeStreamIDs := ["stream-1", "stream-2"]

def sampleRequest : GatewayStreamRequest :=
  ⟨"request-1", "org-1", "", "device-1", ⟨GatewayPayloadKind.telemetry, [0x0A, 0x00]⟩⟩

def sampleResponse : GatewayStreamResponse where
  responseID := "response-1"
  requestID := ""
  status := .accepted
  reasonCode := "accepted"
  payload := some ⟨GatewayPayloadKind.telemetryBatch, []⟩

theorem codecs_roundTrip_sample :
    (∃ y, Kotlin.TelemetryEnvelopePayload.fromWire (fun _ => "?")
        (Clock.ofUnixMilli 1722067200000) sampleEnvelope.toProtobufWire = .ok y ∧
      SameEnvelope sampleEnvelope y) ∧
    (∃ wire, sampleRequest.toProtobufWire = .ok wire ∧
      GatewayStreamRequest.fromProtobufWire wire = .ok sampleRequest) ∧
    ∃ wire, sampleResponse.toProtobufWire = .ok wire ∧
      GatewayStreamResponse.fromProtobufWire wire = .ok sampleResponse := by
  obtain ⟨-, hkotlin, -, -, hrequest, hresponse⟩ := codecs_roundTrip
  have hlen : sampleEnvelope.toProtobufWire.length < 2 ^ 31 := by decide +kernel
  have hok : (Kotlin.TelemetryEnvelopePayload.fromWire (fun _ => "?")
      (Clock.ofUnixMilli 1722067200000) sampleEnvelope.toProtobufWire).toOption.isSome = true := by
    decide +kernel
  refine ⟨?_, hrequest sampleRequest (by decide), hresponse sampleResponse (by decide)⟩
  cases hy : Kotlin.TelemetryEnvelopePayload.fromWire (fun _ => "?")
      (Clock.ofUnixMilli 1722067200000) sampleEnvelope.toProtobufWire with
  | error e =>
      rw [hy] at hok
      cases hok
  | ok y =>
      refine ⟨y, rfl, hkotlin _ _ sampleEnvelope ⟨_, hlen⟩ y ?_ rfl hy⟩
      simp [FitsLong, sampleEnvelope]

end GcsSaker.CodecRoundTrip
