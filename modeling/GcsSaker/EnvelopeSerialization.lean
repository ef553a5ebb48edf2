import GcsSaker.CodecRoundTrip
import GcsSaker.Proto3

/-!
# Serializations of the telemetry envelope

The messages of `telemetry.proto` and `common.proto` as schemas, the value that a serialization
denotes, and which serializations the two decoders read as that value.
-/

namespace GcsSaker.EnvelopeSerialization

open ProtobufWire Proto3 TelemetryCodec CodecRoundTrip

/-! ## The schemas -/

inductive TimestampedField where
  | observedUnixMillis
  | receivedUnixMillis
  deriving DecidableEq

/-- The fields of `Vector3`, and under the same numbers those of `GeoPoint`. -/
inductive Axis where
  | x
  | y
  | z
  deriving DecidableEq

abbrev TimestampedItem := Item fun _ : TimestampedField => Int64

abbrev AxisItem := Item fun _ : Axis => BitVec 64

/-- An `int64` is on the wire the number of its bits. -/
def timestamped : Schema fun _ : TimestampedField => Int64 where
  number
    | .observedUnixMillis => TimestampedFields.observedUnixMillis
    | .receivedUnixMillis => TimestampedFields.receivedUnixMillis
  injective := by
    intro field field' h
    cases field <;> cases field' <;> first | rfl | cases h
  Spelled _ value wire := wire = .integer value.toBitVec.toNat

def vector3 : Schema fun _ : Axis => BitVec 64 where
  number
    | .x => Vector3Fields.x
    | .y => Vector3Fields.y
    | .z => Vector3Fields.z
  injective := by
    intro field field' h
    cases field <;> cases field' <;> first | rfl | cases h
  Spelled _ bits wire := wire = .double bits

inductive EnvelopeField where
  | eventID
  | orgID
  | groupID
  | assetID
  | assetKind
  | time
  | position
  | headingDeg
  | speedMps
  | batteryPercent
  | health
  | activeStreamID
  | attitudeDeg
  | gyroRadPerSec
  | accelMps2
  | linkQualityPercent
  deriving DecidableEq

inductive Kind where
  | text
  | enum
  | double
  | timestamped
  | vector3

def Kind.Value : Kind → Type
  | .text => String
  | .enum => Int32
  | .double => BitVec 64
  | .timestamped => List TimestampedItem
  | .vector3 => List AxisItem

/-- An enumeration is extended to 64 bits; a message is any serialization of it. -/
def KindSpelled : ∀ kind : Kind, kind.Value → WireValue ℕ → Prop
  | .text, value, wire => wire = .bytes (utf8Encode value)
  | .enum, value, wire => wire = .integer (Int32.toInt64 value).toBitVec.toNat
  | .double, bits, wire => wire = .double bits
  | .timestamped, items, wire => ∃ raw, timestamped.Serializes items raw ∧ wire = .bytes raw
  | .vector3, items, wire => ∃ raw, vector3.Serializes items raw ∧ wire = .bytes raw

def EnvelopeField.kind : EnvelopeField → Kind
  | .eventID | .orgID | .groupID | .assetID | .activeStreamID => .text
  | .assetKind | .health => .enum
  | .headingDeg | .speedMps | .batteryPercent | .linkQualityPercent => .double
  | .time => .timestamped
  | .position | .attitudeDeg | .gyroRadPerSec | .accelMps2 => .vector3

def EnvelopeField.number : EnvelopeField → ℕ
  | .eventID => TelemetryEnvelopeFields.eventID
  | .orgID => TelemetryEnvelopeFields.orgID
  | .groupID => TelemetryEnvelopeFields.groupID
  | .assetID => TelemetryEnvelopeFields.assetID
  | .assetKind => TelemetryEnvelopeFields.assetKind
  | .time => TelemetryEnvelopeFields.time
  | .position => TelemetryEnvelopeFields.position
  | .headingDeg => TelemetryEnvelopeFields.headingDeg
  | .speedMps => TelemetryEnvelopeFields.speedMps
  | .batteryPercent => TelemetryEnvelopeFields.batteryPercent
  | .health => TelemetryEnvelopeFields.health
  | .activeStreamID => TelemetryEnvelopeFields.activeStreamID
  | .attitudeDeg => TelemetryEnvelopeFields.attitudeDeg
  | .gyroRadPerSec => TelemetryEnvelopeFields.gyroRadPerSec
  | .accelMps2 => TelemetryEnvelopeFields.accelMps2
  | .linkQualityPercent => TelemetryEnvelopeFields.linkQualityPercent

abbrev EnvelopeItem := Item fun field : EnvelopeField => field.kind.Value

def envelope : Schema fun field : EnvelopeField => field.kind.Value where
  number := EnvelopeField.number
  injective := by
    intro field field' h
    cases field <;> cases field' <;> first | rfl | cases h
  Spelled field := KindSpelled field.kind

/-! ## The value of a serialization -/

/-- The value of a message of `TelemetryEnvelope`; the doubles are given by their bits. -/
structure TelemetryEnvelope where
  eventID : String
  orgID : String
  groupID : String
  assetID : String
  assetKind : Int32
  observedUnixMillis : Int64
  receivedUnixMillis : Int64
  position : Kotlin.TelemetryVector3
  headingDeg : BitVec 64
  speedMps : BitVec 64
  batteryPercent : BitVec 64
  health : Int32
  activeStreamIDs : List String
  attitudeDeg : Kotlin.TelemetryVector3
  gyroRadPerSec : Kotlin.TelemetryVector3
  accelMps2 : Kotlin.TelemetryVector3
  linkQualityPercent : BitVec 64

/-- The last occurrence of a field, or the default. -/
def lastOf {α : Type} (default : α) (values : List α) : α := values.getLastD default

def axesOf (items : List AxisItem) : Kotlin.TelemetryVector3 :=
  ⟨lastOf 0 (occurrences Axis.x items), lastOf 0 (occurrences Axis.y items),
    lastOf 0 (occurrences Axis.z items)⟩

section Occurrences

variable (items : List EnvelopeItem)

def times : List (List TimestampedItem) := occurrences EnvelopeField.time items

def positions : List (List AxisItem) := occurrences EnvelopeField.position items

def attitudes : List (List AxisItem) := occurrences EnvelopeField.attitudeDeg items

def gyros : List (List AxisItem) := occurrences EnvelopeField.gyroRadPerSec items

def accels : List (List AxisItem) := occurrences EnvelopeField.accelMps2 items

def linkQualities : List (BitVec 64) := occurrences EnvelopeField.linkQualityPercent items

/-- A message that occurs again goes on with the fields of the first. -/
def valueOf : TelemetryEnvelope where
  eventID := lastOf "" (occurrences EnvelopeField.eventID items)
  orgID := lastOf "" (occurrences EnvelopeField.orgID items)
  groupID := lastOf "" (occurrences EnvelopeField.groupID items)
  assetID := lastOf "" (occurrences EnvelopeField.assetID items)
  assetKind := lastOf (0 : Int32) (occurrences EnvelopeField.assetKind items)
  observedUnixMillis := lastOf 0
    (occurrences TimestampedField.observedUnixMillis (times items).flatten)
  receivedUnixMillis := lastOf 0
    (occurrences TimestampedField.receivedUnixMillis (times items).flatten)
  position := axesOf (positions items).flatten
  headingDeg := lastOf (0 : BitVec 64) (occurrences EnvelopeField.headingDeg items)
  speedMps := lastOf (0 : BitVec 64) (occurrences EnvelopeField.speedMps items)
  batteryPercent := lastOf (0 : BitVec 64) (occurrences EnvelopeField.batteryPercent items)
  health := lastOf (0 : Int32) (occurrences EnvelopeField.health items)
  activeStreamIDs := occurrences EnvelopeField.activeStreamID items
  attitudeDeg := axesOf (attitudes items).flatten
  gyroRadPerSec := axesOf (gyros items).flatten
  accelMps2 := axesOf (accels items).flatten
  linkQualityPercent := lastOf 0 (linkQualities items)

end Occurrences

/-- The payload of the backend with this value. -/
structure SamePython (value : TelemetryEnvelope) (payload : Python.TelemetryEnvelopePayload) :
    Prop where
  eventID : payload.eventID = value.eventID
  orgID : payload.orgID = value.orgID
  groupID : payload.groupID = value.groupID
  assetID : payload.assetID = value.assetID
  assetKind : (payload.assetKind : ℤ) = value.assetKind.toInt
  observedUnixMillis : (payload.observedUnixMillis : ℤ) = value.observedUnixMillis.toInt
  receivedUnixMillis : (payload.receivedUnixMillis : ℤ) = value.receivedUnixMillis.toInt
  position : ⟨payload.latitude, payload.longitude, payload.altitudeM⟩ = value.position
  headingDeg : payload.headingDeg = value.headingDeg
  speedMps : payload.speedMps = value.speedMps
  batteryPercent : payload.batteryPercent = value.batteryPercent
  health : (payload.health : ℤ) = value.health.toInt
  activeStreamIDs : payload.activeStreamIDs = value.activeStreamIDs
  attitudeDeg : ⟨payload.rollDeg, payload.pitchDeg, payload.yawDeg⟩ = value.attitudeDeg
  gyroRadPerSec : ⟨payload.gyroXRadPerSec, payload.gyroYRadPerSec, payload.gyroZRadPerSec⟩ =
    value.gyroRadPerSec
  accelMps2 : ⟨payload.accelXMps2, payload.accelYMps2, payload.accelZMps2⟩ = value.accelMps2
  linkQualityPercent : payload.linkQualityPercent = value.linkQualityPercent

/-- The payload of the auth policy with this value. -/
def kotlinOf (value : TelemetryEnvelope) : Kotlin.TelemetryEnvelopePayload where
  eventID := value.eventID
  orgID := value.orgID
  groupID := value.groupID
  assetID := value.assetID
  assetKind := value.assetKind.toInt64.toBitVec
  observedUnixMillis := value.observedUnixMillis.toBitVec
  receivedUnixMillis := value.receivedUnixMillis.toBitVec
  latitude := value.position.x
  longitude := value.position.y
  altitudeM := value.position.z
  headingDeg := value.headingDeg
  speedMps := value.speedMps
  batteryPercent := value.batteryPercent
  health := value.health.toInt64.toBitVec
  activeStreamIDs := value.activeStreamIDs
  attitudeDeg := value.attitudeDeg
  gyroRadPerSec := value.gyroRadPerSec
  accelMps2 := value.accelMps2
  linkQualityPercent := value.linkQualityPercent

/-! ## What the decoders ask for -/

def Once {φ : Type} [DecidableEq φ] {Value : φ → Type} (field : φ) (items : List (Item Value)) :
    Prop :=
  (occurrences field items).length = 1

instance {φ : Type} [DecidableEq φ] {Value : φ → Type} {field : φ} {items : List (Item Value)} :
    Decidable (Once field items) :=
  inferInstanceAs (Decidable (_ = _))

def EachAxisOnce (items : List AxisItem) : Prop :=
  Once Axis.x items ∧ Once Axis.y items ∧ Once Axis.z items

instance {items : List AxisItem} : Decidable (EachAxisOnce items) :=
  inferInstanceAs (Decidable (_ ∧ _ ∧ _))

/-- Every field but the repeated one, the vectors and the link quality is written once, and so is
every field of the time and of the position, whatever its value is. -/
structure RequiredOnce (items : List EnvelopeItem) : Prop where
  scalar : ∀ field ∈ [EnvelopeField.eventID, .orgID, .groupID, .assetID, .assetKind, .headingDeg,
    .speedMps, .batteryPercent, .health], Once field items
  time : ∃ time, times items = [time] ∧ Once TimestampedField.observedUnixMillis time ∧
    Once TimestampedField.receivedUnixMillis time
  position : ∃ position, positions items = [position] ∧ EachAxisOnce position

/-- The vector is left out, or written once with each component once. -/
def OptionalVector (vectors : List (List AxisItem)) : Prop :=
  vectors = [] ∨ ∃ vector, vectors = [vector] ∧ EachAxisOnce vector

/-- Kotlin takes a vector that is not written exactly once for zero. -/
def LenientVector (vectors : List (List AxisItem)) : Prop :=
  (vectors.length ≠ 1 ∧ axesOf vectors.flatten = ⟨0, 0, 0⟩) ∨
    ∃ vector, vectors = [vector] ∧ EachAxisOnce vector

/-- The serializations that the backend reads as their value. -/
structure PythonReadable (items : List EnvelopeItem) : Prop where
  required : RequiredOnce items
  attitudeDeg : OptionalVector (attitudes items)
  gyroRadPerSec : OptionalVector (gyros items)
  accelMps2 : OptionalVector (accels items)
  linkQualityPercent : (linkQualities items).length ≤ 1
  assetKind : 0 ≤ (valueOf items).assetKind.toInt
  observedUnixMillis : 0 ≤ (valueOf items).observedUnixMillis.toInt
  receivedUnixMillis : 0 ≤ (valueOf items).receivedUnixMillis.toInt
  health : 0 ≤ (valueOf items).health.toInt

/-- The serializations that the auth policy reads as their value. -/
structure KotlinReadable (items : List EnvelopeItem) : Prop where
  required : RequiredOnce items
  attitudeDeg : LenientVector (attitudes items)
  gyroRadPerSec : LenientVector (gyros items)
  accelMps2 : LenientVector (accels items)
  linkQualityPercent : (linkQualities items).length = 1 ∨ (valueOf items).linkQualityPercent = 0

/-! ## Fields on the wire -/

theorem timestamped_ranged : timestamped.Ranged where
  number := by
    intro field
    cases field <;> decide
  integer := by
    intro field value k h
    cases h
    exact value.toBitVec.isLt

theorem vector3_ranged : vector3.Ranged where
  number := by
    intro field
    cases field <;> decide
  integer := by
    intro field value k h
    cases h

theorem kindSpelled_integer_lt {kind : Kind} {value : kind.Value} {k : ℕ}
    (h : KindSpelled kind value (.integer k)) : k < 2 ^ 64 := by
  cases kind with
  | text => cases h
  | enum =>
      cases h
      exact (Int32.toInt64 value).toBitVec.isLt
  | double => cases h
  | timestamped =>
      obtain ⟨raw, -, h⟩ := h
      cases h
  | vector3 =>
      obtain ⟨raw, -, h⟩ := h
      cases h

theorem envelope_ranged : envelope.Ranged where
  number := by
    intro field
    cases field <;> decide
  integer := by
    intro field value k h
    exact kindSpelled_integer_lt h

theorem eq_map_of_forall₂ {α β : Type} {f : α → β} {as : List α} {bs : List β}
    (h : List.Forall₂ (fun a b => b = f a) as bs) : bs = as.map f := by
  induction h with
  | nil => rfl
  | cons hb _ ih => exact congrArg₂ List.cons hb ih

theorem eq_singleton_lastOf_iff {α : Type} {values : List α} (default : α) :
    values = [lastOf default values] ↔ values.length = 1 := by
  constructor
  · intro h
    rw [h]
    rfl
  · intro h
    obtain ⟨v, rfl⟩ := List.length_eq_one_iff.1 h
    rfl

/-- What stands under each number of a serialization. -/
structure EnvelopeEntries (items : List EnvelopeItem) (values : ℕ → List (WireValue ℕ)) :
    Prop where
  eventID : values 1 =
    (occurrences EnvelopeField.eventID items : List String).map fun s => .bytes (utf8Encode s)
  orgID : values 2 =
    (occurrences EnvelopeField.orgID items : List String).map fun s => .bytes (utf8Encode s)
  groupID : values 3 =
    (occurrences EnvelopeField.groupID items : List String).map fun s => .bytes (utf8Encode s)
  assetID : values 4 =
    (occurrences EnvelopeField.assetID items : List String).map fun s => .bytes (utf8Encode s)
  assetKind : values 5 = (occurrences EnvelopeField.assetKind items : List Int32).map
    fun value => .integer value.toInt64.toBitVec.toNat
  time : List.Forall₂ (fun time wire => ∃ raw, timestamped.Serializes time raw ∧ wire = .bytes raw)
    (times items) (values 6)
  position : List.Forall₂
    (fun position wire => ∃ raw, vector3.Serializes position raw ∧ wire = .bytes raw)
    (positions items) (values 7)
  headingDeg : values 8 =
    (occurrences EnvelopeField.headingDeg items : List (BitVec 64)).map .double
  speedMps : values 9 = (occurrences EnvelopeField.speedMps items : List (BitVec 64)).map .double
  batteryPercent : values 10 =
    (occurrences EnvelopeField.batteryPercent items : List (BitVec 64)).map .double
  health : values 11 = (occurrences EnvelopeField.health items : List Int32).map
    fun value => .integer value.toInt64.toBitVec.toNat
  activeStreamIDs : values 12 = (occurrences EnvelopeField.activeStreamID items : List String).map
    fun s => .bytes (utf8Encode s)
  attitudeDeg : List.Forall₂
    (fun vector wire => ∃ raw, vector3.Serializes vector raw ∧ wire = .bytes raw)
    (attitudes items) (values 13)
  gyroRadPerSec : List.Forall₂
    (fun vector wire => ∃ raw, vector3.Serializes vector raw ∧ wire = .bytes raw)
    (gyros items) (values 14)
  accelMps2 : List.Forall₂
    (fun vector wire => ∃ raw, vector3.Serializes vector raw ∧ wire = .bytes raw)
    (accels items) (values 15)
  linkQualityPercent : values 16 = (linkQualities items).map .double

theorem envelope_entries {items : List EnvelopeItem} {entries : List (ℕ × WireValue ℕ)}
    (h : List.Forall₂ envelope.SpelledItem items entries) :
    EnvelopeEntries items (valuesUnder entries) where
  eventID := eq_map_of_forall₂ (Schema.occurrences_spelled h .eventID)
  orgID := eq_map_of_forall₂ (Schema.occurrences_spelled h .orgID)
  groupID := eq_map_of_forall₂ (Schema.occurrences_spelled h .groupID)
  assetID := eq_map_of_forall₂ (Schema.occurrences_spelled h .assetID)
  assetKind := eq_map_of_forall₂ (Schema.occurrences_spelled h .assetKind)
  time := Schema.occurrences_spelled h .time
  position := Schema.occurrences_spelled h .position
  headingDeg := eq_map_of_forall₂ (Schema.occurrences_spelled h .headingDeg)
  speedMps := eq_map_of_forall₂ (Schema.occurrences_spelled h .speedMps)
  batteryPercent := eq_map_of_forall₂ (Schema.occurrences_spelled h .batteryPercent)
  health := eq_map_of_forall₂ (Schema.occurrences_spelled h .health)
  activeStreamIDs := eq_map_of_forall₂ (Schema.occurrences_spelled h .activeStreamID)
  attitudeDeg := Schema.occurrences_spelled h .attitudeDeg
  gyroRadPerSec := Schema.occurrences_spelled h .gyroRadPerSec
  accelMps2 := Schema.occurrences_spelled h .accelMps2
  linkQualityPercent := eq_map_of_forall₂ (Schema.occurrences_spelled h .linkQualityPercent)

theorem timestamp_entries {items : List TimestampedItem} {entries : List (ℕ × WireValue ℕ)}
    (h : List.Forall₂ timestamped.SpelledItem items entries) :
    valuesUnder entries 1 = (occurrences TimestampedField.observedUnixMillis items).map
        (fun value => .integer value.toBitVec.toNat) ∧
      valuesUnder entries 2 = (occurrences TimestampedField.receivedUnixMillis items).map
        fun value => .integer value.toBitVec.toNat :=
  ⟨eq_map_of_forall₂ (Schema.occurrences_spelled h .observedUnixMillis),
    eq_map_of_forall₂ (Schema.occurrences_spelled h .receivedUnixMillis)⟩

theorem vector_entries {items : List AxisItem} {entries : List (ℕ × WireValue ℕ)}
    (h : List.Forall₂ vector3.SpelledItem items entries) :
    valuesUnder entries 1 = (occurrences Axis.x items).map .double ∧
      valuesUnder entries 2 = (occurrences Axis.y items).map .double ∧
      valuesUnder entries 3 = (occurrences Axis.z items).map .double :=
  ⟨eq_map_of_forall₂ (Schema.occurrences_spelled h .x),
    eq_map_of_forall₂ (Schema.occurrences_spelled h .y),
    eq_map_of_forall₂ (Schema.occurrences_spelled h .z)⟩

end GcsSaker.EnvelopeSerialization
