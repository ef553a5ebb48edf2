import GcsSaker.AuditChain
import GcsSaker.Decimal
import GcsSaker.LengthPrefixes
import Mathlib

/-!
# What the hash of an audit event covers

The canonical text of an event determines the hash before it and every field of the event, up to
the difference of a field that is missing and one that is empty. So a stored event that is altered
is found out by `verify`, unless the hash of the event is computed again for what is altered: the
hash has no key.
-/

namespace GcsSaker.AuditChain

open Decimal (toString_int32_inj toString_int64_inj)
open OperationalEvents (OperationalEventReadModel)

/-! ## The canonical text -/

namespace AuditHashChain

theorem toList_encode (values : List (Option String)) :
    (encode values).toList = LengthPrefixes.frames Char.utf8Size (LengthPrefixes.decimal ':')
      (values.map fun value => (value.getD "").toList) := by
  rw [encode, String.toList_join, LengthPrefixes.frames, List.flatMap_map, List.flatMap_map]
  congr 1
  funext value
  rw [String.toList_append, String.toList_append, LengthPrefixes.utf8ByteSize_eq_size]
  exact congrArg (· ++ _) (congrArg (· ++ _) Nat.toList_repr)

theorem encode_inj {values values' : List (Option String)} (h : encode values = encode values') :
    values.map (·.getD "") = values'.map (·.getD "") := by
  have hframes := congrArg String.toList h
  rw [toList_encode, toList_encode] at hframes
  have htexts := LengthPrefixes.frames_inj (LengthPrefixes.delimited_decimal (by decide))
    Char.utf8Size_pos (fun _ _ => trivial) (fun _ _ => trivial) hframes
  have hmap : ∀ values : List (Option String), values.map (fun value => (value.getD "").toList) =
      (values.map (·.getD "")).map String.toList := by
    intro values
    rw [List.map_map]
    rfl
  rw [hmap, hmap] at htexts
  exact List.map_injective_iff.2 (fun _ _ => String.toList_injective) htexts

/-- The chained fields of an event, where no text is missing, and no hashes. -/
def fields (event : OperationalEventReadModel) : OperationalEventReadModel :=
  let orEmpty (text : Option String) : Option String := some (text.getD "")
  { event with
    eventType := orEmpty event.eventType
    sourceService := orEmpty event.sourceService
    streamId := orEmpty event.streamId
    connectionId := orEmpty event.connectionId
    icePath := orEmpty event.icePath
    relayFallbackReason := orEmpty event.relayFallbackReason
    traceId := orEmpty event.traceId
    actorId := orEmpty event.actorId
    operation := orEmpty event.operation
    result := orEmpty event.result
    errorCode := orEmpty event.errorCode
    clockStatus := orEmpty event.clockStatus
    timeSource := orEmpty event.timeSource
    previousHash := none
    eventHash := none }

theorem toString_int64_ne_empty (n : Int64) : toString n ≠ "" := by
  intro h
  have hparse : Decimal.parse n.toInt.repr = none := congrArg Decimal.parse h
  rw [Decimal.parse_repr] at hparse
  cases hparse

/-- A value that may be missing is told by its text, if no text is empty. -/
theorem map_getD_inj {α : Type} {text : α → String} (hinj : ∀ a b, text a = text b → a = b)
    (hne : ∀ a, text a ≠ "") {value value' : Option α}
    (h : (value.map text).getD "" = (value'.map text).getD "") : value = value' := by
  cases value with
  | none =>
      cases value' with
      | none => rfl
      | some b => exact absurd h.symm (hne b)
  | some a =>
      cases value' with
      | none => exact absurd h (hne a)
      | some b => exact congrArg some (hinj a b h)

variable {platform : Platform} {event event' : OperationalEventReadModel}
variable {previousHash previousHash' : String}

theorem canonical_inj (hinstant : Function.Injective platform.instantText)
    (hinstants : ∀ instant, platform.instantText instant ≠ "")
    (hdouble : Function.Injective platform.doubleText)
    (h : canonical platform event previousHash = canonical platform event' previousHash') :
    previousHash = previousHash' ∧ fields event = fields event' := by
  have htexts := encode_inj h
  simp only [List.map_cons, List.map_nil, List.cons.injEq, Option.getD_some, and_true] at htexts
  obtain ⟨hprevious, hid, hoccurredAt, hseverity, hcategory, heventType, hsourceService, hsource,
    hmessage, hconnections, hlatencyMs, hthroughputMbps, hgroupId, hstreamId, hconnectionId,
    hicePath, hrelayFallbackReason, htraceId, hactorId, hoperation, hresult, herrorCode,
    hclockStatus, hreceivedAt, htimeSource, hclockDriftMs, hclockMeasuredAt⟩ := htexts
  refine ⟨hprevious, ?_⟩
  have hreceived : event.receivedAt = event'.receivedAt :=
    map_getD_inj hinstant hinstants hreceivedAt
  have hdrift : event.clockDriftMs = event'.clockDriftMs :=
    map_getD_inj (fun _ _ => toString_int64_inj) toString_int64_ne_empty hclockDriftMs
  have hmeasured : event.clockMeasuredAt = event'.clockMeasuredAt :=
    map_getD_inj hinstant hinstants hclockMeasuredAt
  rw [fields, fields, OperationalEventReadModel.mk.injEq]
  dsimp only
  rw [heventType, hsourceService, hstreamId, hconnectionId, hicePath, hrelayFallbackReason,
    htraceId, hactorId, hoperation, hresult, herrorCode, hclockStatus, htimeSource]
  exact ⟨hid, hinstant hoccurredAt, hseverity, hcategory, rfl, rfl, hsource, hmessage,
    toString_int32_inj hconnections, toString_int64_inj hlatencyMs, hdouble hthroughputMbps,
    TelemetryIngestRpc.GroupId.value_inj.1 hgroupId, rfl, rfl, rfl, rfl, rfl, rfl, rfl, rfl, rfl,
    rfl, rfl, rfl, hreceived, rfl, hdrift, hmeasured⟩

/-! ## Altered events -/

theorem asciiBytes_inj {text text' : String} (hascii : ∀ c ∈ text'.toList, c.toNat < 128 ∧ c ≠ '?')
    (h : asciiBytes text = asciiBytes text') : text = text' := by
  have hchar : ∀ c c' : Char, c'.toNat < 128 ∧ c' ≠ '?' →
      (if c.toNat < 128 then UInt8.ofNat c.toNat else 63) =
        (if c'.toNat < 128 then UInt8.ofNat c'.toNat else 63) → c = c' := by
    rintro c c' ⟨hlt, hmark⟩ hbyte
    rw [if_pos hlt] at hbyte
    have hnat := congrArg UInt8.toNat hbyte
    rw [UInt8.toNat_ofNat', Nat.mod_eq_of_lt (by omega)] at hnat
    split_ifs at hnat with hc
    · rw [UInt8.toNat_ofNat', Nat.mod_eq_of_lt (by omega)] at hnat
      exact Char.toNat_inj.1 hnat
    · exact absurd (Char.toNat_inj.1 hnat.symm) hmark
  have hlists : ∀ cs cs' : List Char, (∀ c ∈ cs', c.toNat < 128 ∧ c ≠ '?') →
      (cs.map fun c => if c.toNat < 128 then UInt8.ofNat c.toNat else 63) =
        (cs'.map fun c => if c.toNat < 128 then UInt8.ofNat c.toNat else 63) → cs = cs' := by
    intro cs
    induction cs with
    | nil =>
        intro cs' _ h
        exact (List.map_eq_nil_iff.1 h.symm).symm
    | cons c cs ih =>
        intro cs' hcs' h
        cases cs' with
        | nil => cases h
        | cons c' cs' =>
            obtain ⟨hhead', hrest⟩ := List.forall_mem_cons.1 hcs'
            obtain ⟨hhead, htail⟩ := List.cons.inj h
            rw [hchar c c' hhead' hhead, ih cs' hrest htail]
  exact String.toList_injective (hlists _ _ hascii h)

theorem asciiBytes_eq_digest {text value : String}
    (h : asciiBytes text = asciiBytes (digest value)) : text = digest value := by
  have hdigits : ∀ c ∈ "0123456789abcdef".toList, c.toNat < 128 ∧ c ≠ '?' := by simp
  exact asciiBytes_inj (fun c hc => hdigits c (Sha256.hexDigit_of_mem_hex hc)) h

theorem verify_eq_true_iff : verify platform event = true ↔ ∃ previousHash,
    event.previousHash = some previousHash ∧
      event.eventHash = some (digest (canonical platform event previousHash)) := by
  unfold verify
  cases event.previousHash with
  | none => simp
  | some previousHash =>
      cases event.eventHash with
      | none => simp
      | some eventHash =>
          simp only [decide_eq_true_eq, Option.some.injEq, exists_eq_left']
          exact ⟨asciiBytes_eq_digest, fun h => congrArg asciiBytes h⟩

/-- Two texts with one digest. -/
def Collision (text text' : String) : Prop := text ≠ text' ∧ digest text = digest text'

/-- An altered event that keeps the hash of the stored one is accepted only if nothing that is
chained has been altered, or the two canonical texts collide. -/
theorem verify_of_same_hash {stored altered : OperationalEventReadModel}
    (hinstant : Function.Injective platform.instantText)
    (hinstants : ∀ instant, platform.instantText instant ≠ "")
    (hdouble : Function.Injective platform.doubleText) (hstored : verify platform stored = true)
    (haltered : verify platform altered = true) (hhash : altered.eventHash = stored.eventHash) :
    (altered.previousHash = stored.previousHash ∧ fields altered = fields stored) ∨
      ∃ previousHash previousHash', stored.previousHash = some previousHash ∧
        altered.previousHash = some previousHash' ∧ Collision
          (canonical platform stored previousHash) (canonical platform altered previousHash') := by
  obtain ⟨previousHash, hprevious, heventHash⟩ := verify_eq_true_iff.1 hstored
  obtain ⟨previousHash', hprevious', heventHash'⟩ := verify_eq_true_iff.1 haltered
  rw [heventHash, heventHash', Option.some.injEq] at hhash
  by_cases hcanonical : canonical platform stored previousHash =
      canonical platform altered previousHash'
  · obtain ⟨rfl, hfields⟩ := canonical_inj hinstant hinstants hdouble hcanonical
    exact .inl ⟨hprevious'.trans hprevious.symm, hfields.symm⟩
  · exact .inr ⟨previousHash, previousHash', hprevious, hprevious', hcanonical, hhash.symm⟩

/-- The fields determine the canonical text. -/
theorem canonical_congr (h : fields event = fields event') :
    canonical platform event previousHash = canonical platform event' previousHash := by
  have hencode : ∀ values values' : List (Option String),
      values.map (·.getD "") = values'.map (·.getD "") → encode values = encode values' := by
    intro values values' hvalues
    have htexts : ∀ values : List (Option String), encode values =
        String.join ((values.map (·.getD "")).map fun text =>
          toString text.toByteArray.size ++ ":" ++ text) := by
      intro values
      rw [encode, List.map_map]
      rfl
    rw [htexts, htexts, hvalues]
  simp only [fields, OperationalEventReadModel.mk.injEq, Option.some.injEq] at h
  apply hencode
  simp only [List.map_cons, List.map_nil, Option.getD_some, h]

theorem verify_of_other_hash {stored altered : OperationalEventReadModel}
    (hstored : verify platform stored = true)
    (hprevious : altered.previousHash = stored.previousHash)
    (hfields : fields altered = fields stored) (hhash : altered.eventHash ≠ stored.eventHash) :
    verify platform altered = false := by
  rw [Bool.eq_false_iff]
  intro haltered
  obtain ⟨previousHash, hstoredPrevious, heventHash⟩ := verify_eq_true_iff.1 hstored
  obtain ⟨previousHash', halteredPrevious, heventHash'⟩ := verify_eq_true_iff.1 haltered
  rw [hprevious, hstoredPrevious, Option.some.injEq] at halteredPrevious
  subst halteredPrevious
  rw [heventHash, heventHash', canonical_congr hfields] at hhash
  exact hhash rfl

end AuditHashChain

/-! ## The whole -/

open AuditHashChain

/-- Equal canonical texts have equal hashes and fields before them. If the texts do not collide, an
alteration of a chained field or of the hash before is found out as long as the hash of the event
is kept, and so is any alteration of the hash alone. -/
theorem verify_rejects_altered (platform : Platform)
    (hinstant : Function.Injective platform.instantText)
    (hinstants : ∀ instant, platform.instantText instant ≠ "")
    (hdouble : Function.Injective platform.doubleText) :
    (∀ event event' previousHash previousHash',
      canonical platform event previousHash = canonical platform event' previousHash' →
        previousHash = previousHash' ∧ fields event = fields event') ∧
    (∀ stored altered, verify platform stored = true → altered.eventHash = stored.eventHash →
      altered.previousHash ≠ stored.previousHash ∨ fields altered ≠ fields stored →
      (∀ previousHash previousHash', stored.previousHash = some previousHash →
        altered.previousHash = some previousHash' → ¬ Collision
          (canonical platform stored previousHash) (canonical platform altered previousHash')) →
        verify platform altered = false) ∧
    ∀ stored altered, verify platform stored = true →
      altered.previousHash = stored.previousHash → fields altered = fields stored →
        altered.eventHash ≠ stored.eventHash → verify platform altered = false := by
  refine ⟨fun event event' previousHash previousHash' h =>
      canonical_inj hinstant hinstants hdouble h,
    fun stored altered hstored hhash haltered hsafe => ?_,
    fun stored altered hstored hprevious hfields hhash =>
      verify_of_other_hash hstored hprevious hfields hhash⟩
  rw [Bool.eq_false_iff]
  intro haccepted
  rcases verify_of_same_hash hinstant hinstants hdouble hstored haccepted hhash
    with ⟨hprevious, hfields⟩ | ⟨previousHash, previousHash', hprevious, hprevious', hcollision⟩
  · exact haltered.elim (· hprevious) (· hfields)
  · exact hsafe _ _ hprevious hprevious' hcollision

/-! ## A platform and an event -/

/-- The texts of the epoch and of zero as the JVM writes them, and different ones for all others. -/
def plainPlatform : Platform where
  instantText instant := if instant = 0 then "1970-01-01T00:00:00Z" else toString instant
  doubleText x := if x = 0.0 then "0.0" else toString x.toBits
  lowercase text := text
  lowercase_lowercase _ := rfl

theorem plainPlatform_instantText_injective : Function.Injective plainPlatform.instantText := by
  have hother : ∀ instant : ℤ, "1970-01-01T00:00:00Z" ≠ toString instant := by
    intro instant h
    have hparse : none = Decimal.parse instant.repr := congrArg Decimal.parse h
    rw [Decimal.parse_repr] at hparse
    cases hparse
  intro instant instant' h
  dsimp only [plainPlatform] at h
  split_ifs at h with hzero hzero'
  · exact hzero.trans hzero'.symm
  · exact absurd h (hother instant')
  · exact absurd h.symm (hother instant)
  · have hparse : Decimal.parse instant.repr = Decimal.parse instant'.repr := congrArg _ h
    rw [Decimal.parse_repr, Decimal.parse_repr] at hparse
    exact Option.some.inj hparse

theorem plainPlatform_instantText_ne (instant : ℤ) : plainPlatform.instantText instant ≠ "" := by
  intro h
  dsimp only [plainPlatform] at h
  split_ifs at h
  · exact absurd h (by decide)
  · have hparse : Decimal.parse instant.repr = none := congrArg Decimal.parse h
    rw [Decimal.parse_repr] at hparse
    cases hparse

theorem plainPlatform_doubleText_injective : Function.Injective plainPlatform.doubleText := by
  have hparse : ∀ x : Float, Decimal.parse (toString x.toBits) = some (x.toBits.toNat : ℤ) :=
    fun x => Decimal.parse_natRepr _
  have hother : ∀ x : Float, "0.0" ≠ toString x.toBits := by
    intro x h
    have hnone : none = Decimal.parse (toString x.toBits) := congrArg Decimal.parse h
    rw [hparse] at hnone
    cases hnone
  intro x y h
  dsimp only [plainPlatform] at h
  split_ifs at h with hzero hzero'
  · exact hzero.trans hzero'.symm
  · exact absurd h (hother y)
  · exact absurd h.symm (hother x)
  · have hbits : some (x.toBits.toNat : ℤ) = some (y.toBits.toNat : ℤ) := by
      rw [← hparse, ← hparse, h]
    have hword : x.toModel.toBits = y.toModel.toBits :=
      UInt64.toNat_inj.1 (Int.natCast_inj.1 (Option.some.inj hbits))
    have hmodel : x.toModel = y.toModel := by
      cases hx : x.toModel
      cases hy : y.toModel
      simp_all
    cases x
    cases y
    exact congrArg Float.ofModel hmodel

def denied : OperationalEventReadModel where
  id := "audit-1"
  occurredAt := 0
  severity := "warn"
  category := "security"
  source := "auth"
  message := "login denied"
  connections := 0
  latencyMs := 0
  throughputMbps := 0.0
  groupId := ⟨"security", .refl false⟩
  operation := some "login"

def stored : OperationalEventReadModel := chain plainPlatform denied GENESIS_HASH

theorem verify_rejects_altered_message :
    verify plainPlatform { stored with message := "login granted" } = false := by
  have hstored : verify plainPlatform stored = true := by
    rw [verify_eq_true_iff]
    exact ⟨_, rfl, rfl⟩
  refine (verify_rejects_altered plainPlatform plainPlatform_instantText_injective
    plainPlatform_instantText_ne plainPlatform_doubleText_injective).2.1 stored
    { stored with message := "login granted" } hstored rfl (.inr (by decide)) ?_
  intro previousHash previousHash' hprevious hprevious' hcollision
  obtain rfl := Option.some.inj hprevious
  obtain rfl := Option.some.inj hprevious'
  have hdigests : digest (canonical plainPlatform stored GENESIS_HASH) ≠ digest
      (canonical plainPlatform { stored with message := "login granted" } GENESIS_HASH) := by
    decide +kernel
  exact hdigests hcollision.2

/-- The hash has no key: an altered event is accepted after its hash has been computed again. -/
theorem verify_accepts_rehashed :
    let altered := chain plainPlatform { denied with message := "login granted" } GENESIS_HASH
    verify plainPlatform stored = true ∧ altered.message ≠ stored.message ∧
      verify plainPlatform altered = true := by
  refine ⟨?_, by decide, ?_⟩
  · rw [verify_eq_true_iff]
    exact ⟨_, rfl, rfl⟩
  · rw [verify_eq_true_iff]
    exact ⟨_, rfl, rfl⟩

end GcsSaker.AuditChain
