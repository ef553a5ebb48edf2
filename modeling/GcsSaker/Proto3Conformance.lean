import GcsSaker.KotlinReadings
import GcsSaker.PythonReadings

/-!
# Conformance of the envelope decoders

Proto3 lets a serialization leave out a field that has its default value and write a field again.
The decoders read a serialization as its value exactly when it does neither with the fields that
they ask for once.
-/

namespace GcsSaker.EnvelopeSerialization

open ProtobufWire Proto3 TelemetryCodec

/-- The serializations that the two services read as the value that they denote; the auth policy
where it validates that value. -/
theorem decoders_read_value_iff {items : List EnvelopeItem} {payload : List UInt8}
    (h : envelope.Serializes items payload) :
    ((∃ y, Python.TelemetryEnvelopePayload.fromProtobufWire payload = .ok y ∧
      SamePython (valueOf items) y) ↔ PythonReadable items) ∧
    ∀ (replace : List UInt8 → String) (now : ℤ), payload.length < 2 ^ 31 →
      (kotlinOf (valueOf items)).validate now = .ok () →
      (Kotlin.TelemetryEnvelopePayload.fromWire replace now payload =
        .ok (kotlinOf (valueOf items)) ↔ KotlinReadable items) :=
  ⟨python_reads_value_iff h, fun replace _ hlen hvalid =>
    kotlin_reads_value_iff replace h hlen hvalid⟩

/-! ## A device at rest -/

def timeItems : List TimestampedItem :=
  [⟨.observedUnixMillis, 1722067200000⟩, ⟨.receivedUnixMillis, 1722067200000⟩]

def positionItems : List AxisItem :=
  [⟨.x, 0x4041ef8a0902de01⟩, ⟨.y, 0x4060133e425aee63⟩, ⟨.z, 0⟩]

/-- The fields of an envelope, each with what is on the wire. -/
def restingFields : List (EnvelopeItem × ℕ × WireValue ℕ) :=
  [(⟨.eventID, ("event-1" : String)⟩, 1, .bytes (utf8Encode "event-1")),
    (⟨.orgID, ("org-1" : String)⟩, 2, .bytes (utf8Encode "org-1")),
    (⟨.groupID, ("group-1" : String)⟩, 3, .bytes (utf8Encode "group-1")),
    (⟨.assetID, ("device-1" : String)⟩, 4, .bytes (utf8Encode "device-1")),
    (⟨.assetKind, (4 : Int32)⟩, 5, .integer 4),
    (⟨.time, timeItems⟩, 6,
      .bytes (written [(1, .integer 1722067200000), (2, .integer 1722067200000)])),
    (⟨.position, positionItems⟩, 7, .bytes (written
      [(1, .double 0x4041ef8a0902de01), (2, .double 0x4060133e425aee63), (3, .double 0)])),
    (⟨.headingDeg, (0 : BitVec 64)⟩, 8, .double 0),
    (⟨.speedMps, (0 : BitVec 64)⟩, 9, .double 0),
    (⟨.batteryPercent, (0 : BitVec 64)⟩, 10, .double 0),
    (⟨.health, (1 : Int32)⟩, 11, .integer 1)]

/-- The canonical serialization leaves the heading and the speed of a device at rest out. -/
def canonicalFields : List (EnvelopeItem × ℕ × WireValue ℕ) :=
  restingFields.filter fun field => field.2.1 ≠ 8 ∧ field.2.1 ≠ 9

def itemsOf (fields : List (EnvelopeItem × ℕ × WireValue ℕ)) : List EnvelopeItem :=
  fields.map Prod.fst

def wireOf (fields : List (EnvelopeItem × ℕ × WireValue ℕ)) : List UInt8 :=
  written (fields.map Prod.snd)

theorem serializes_wireOf {fields : List (EnvelopeItem × ℕ × WireValue ℕ)}
    (h : ∀ field ∈ fields, envelope.SpelledItem field.1 field.2) :
    envelope.Serializes (itemsOf fields) (wireOf fields) := by
  refine ⟨fields.map Prod.snd, ?_, encodes_written _⟩
  induction fields with
  | nil => exact List.Forall₂.nil
  | cons field fields ih =>
      rw [List.forall_mem_cons] at h
      exact List.Forall₂.cons h.1 (ih h.2)

theorem spelled_time : timestamped.Serializes timeItems
    (written [(1, .integer 1722067200000), (2, .integer 1722067200000)]) := by
  refine ⟨_, ?_, encodes_written _⟩
  exact List.Forall₂.cons ⟨rfl, rfl⟩ (List.Forall₂.cons ⟨rfl, rfl⟩ List.Forall₂.nil)

theorem spelled_position : vector3.Serializes positionItems (written
    [(1, .double 0x4041ef8a0902de01), (2, .double 0x4060133e425aee63), (3, .double 0)]) := by
  refine ⟨_, ?_, encodes_written _⟩
  exact List.Forall₂.cons ⟨rfl, rfl⟩ (List.Forall₂.cons ⟨rfl, rfl⟩
    (List.Forall₂.cons ⟨rfl, rfl⟩ List.Forall₂.nil))

theorem spelled_resting : ∀ field ∈ restingFields, envelope.SpelledItem field.1 field.2 := by
  simp only [restingFields, List.forall_mem_cons, List.not_mem_nil, false_imp_iff, implies_true,
    and_true]
  exact ⟨⟨rfl, rfl⟩, ⟨rfl, rfl⟩, ⟨rfl, rfl⟩, ⟨rfl, rfl⟩, ⟨rfl, rfl⟩, ⟨rfl, _, spelled_time, rfl⟩,
    ⟨rfl, _, spelled_position, rfl⟩, ⟨rfl, rfl⟩, ⟨rfl, rfl⟩, ⟨rfl, rfl⟩, ⟨rfl, rfl⟩⟩

/-- Neither service accepts the canonical serialization of a valid value. -/
theorem decoders_read_value_counterexample :
    envelope.Serializes (itemsOf canonicalFields) (wireOf canonicalFields) ∧
    (valueOf (itemsOf canonicalFields)).eventID = "event-1" ∧
    (valueOf (itemsOf canonicalFields)).orgID = "org-1" ∧
    (valueOf (itemsOf canonicalFields)).groupID = "group-1" ∧
    (valueOf (itemsOf canonicalFields)).assetID = "device-1" ∧
    (kotlinOf (valueOf (itemsOf canonicalFields))).validate (Clock.ofUnixMilli 1722067200000) =
      .ok () ∧
    Python.TelemetryEnvelopePayload.fromProtobufWire (wireOf canonicalFields) =
      .error "field 8 must contain exactly one float" ∧
    Kotlin.TelemetryEnvelopePayload.fromWire (fun _ => "?") (Clock.ofUnixMilli 1722067200000)
      (wireOf canonicalFields) =
        .error (.illegalArgument "field 8 must contain exactly one double") := by
  refine ⟨?_, rfl, rfl, rfl, rfl, ?_, ?_, ?_⟩
  · apply serializes_wireOf
    intro field hfield
    exact spelled_resting field (List.mem_of_mem_filter hfield)
  · decide +kernel
  · decide +kernel
  · decide +kernel

/-- Both read the serialization that writes them. -/
theorem decoders_read_value_resting :
    (∃ y, Python.TelemetryEnvelopePayload.fromProtobufWire (wireOf restingFields) = .ok y ∧
      SamePython (valueOf (itemsOf restingFields)) y) ∧
    Kotlin.TelemetryEnvelopePayload.fromWire (fun _ => "?") (Clock.ofUnixMilli 1722067200000)
      (wireOf restingFields) = .ok (kotlinOf (valueOf (itemsOf restingFields))) := by
  obtain ⟨hpython, hkotlin⟩ := decoders_read_value_iff (serializes_wireOf spelled_resting)
  have hrequired : RequiredOnce (itemsOf restingFields) := by
    constructor
    case scalar => decide
    case time => exact ⟨timeItems, rfl, by decide, by decide⟩
    case position => exact ⟨positionItems, rfl, by decide⟩
  constructor
  · apply hpython.2
    constructor
    case required => exact hrequired
    case attitudeDeg => exact Or.inl rfl
    case gyroRadPerSec => exact Or.inl rfl
    case accelMps2 => exact Or.inl rfl
    all_goals decide
  · apply (hkotlin _ _ (by decide +kernel) (by decide +kernel)).2
    constructor
    case required => exact hrequired
    case linkQualityPercent => exact Or.inr rfl
    all_goals exact Or.inl ⟨by decide, rfl⟩

end GcsSaker.EnvelopeSerialization
