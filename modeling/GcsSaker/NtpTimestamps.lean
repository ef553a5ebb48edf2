import GcsSaker.CheckedSteps
import Mathlib.Algebra.Order.Ring.Int

/-!
# Timestamps in the packets of a time server

The codec writes an instant as two unsigned words of 32 bits, seconds since 1900 and a binary
fraction, and reads the words of the answer back. The fraction loses at most a nanosecond. The
seconds keep their lowest 32 bits only, and the codec reads every word as one of the era that began
in 1900: from the instant at which the word starts again at zero, on February 7th of 2036, what it
reads lies whole eras before what it wrote.
-/

namespace GcsSaker.NtpTime

abbrev Byte := BitVec 8
abbrev Long := BitVec 64

structure Instant where
  epochSecond : ℤ
  nano : ℕ
  nano_lt : nano < 1000000000
  minSecond_le : -31557014167219200 ≤ epochSecond
  le_maxSecond : epochSecond ≤ 31556889864403199
  deriving DecidableEq

inductive Thrown where
  | illegalArgument (message : String)
  | indexOutOfBounds
  | dateTime
  deriving DecidableEq, Repr

namespace Instant

def toNanos (t : Instant) : ℤ := t.epochSecond * 1000000000 + t.nano

def withinOneNanosecond (t t' : Instant) : Prop := |t.toNanos - t'.toNanos| ≤ 1

/-- The second argument is carried into the seconds before the range is checked. -/
def ofEpochSecond (epochSecond nanoAdjustment : Long) : Except Thrown Instant :=
  let secs := epochSecond.toInt + nanoAdjustment.toInt / 1000000000
  let nos := (nanoAdjustment.toInt % 1000000000).toNat
  if h : -31557014167219200 ≤ secs ∧ secs ≤ 31556889864403199 then
    .ok ⟨secs, nos, by omega, h.1, h.2⟩
  else .error .dateTime

end Instant

structure NtpResponseTimes where
  receive : Instant
  transmit : Instant
  deriving DecidableEq

namespace NtpPacketCodec

def packetSize : ℕ := 48

def ntpEpochSeconds : Long := 2208988800

/-- The codec writes inside the 48 bytes of its own packet only. -/
def writeUnsigned (packet : List Byte) (offset : ℕ) (value : Long) : List Byte :=
  (List.range 4).foldl (fun packet index =>
    packet.set (offset + index) ((value >>> (24 - index * 8)).setWidth 8)) packet

/-- The codec reads a packet only after it has found 48 bytes in it. -/
def readUnsigned (packet : List Byte) (offset : ℕ) : Long :=
  (List.range 4).foldl (fun value index =>
    (value <<< 8) ||| ((packet.getD (offset + index) 0).signExtend 64 &&& 0xff)) 0

def writeTimestamp (packet : List Byte) (offset : ℕ) (instant : Instant) : List Byte :=
  let packet := writeUnsigned packet offset (BitVec.ofInt 64 instant.epochSecond + ntpEpochSeconds)
  writeUnsigned packet (offset + 4) ((BitVec.ofNat 64 instant.nano <<< 32).sdiv 1000000000)

def readTimestamp (packet : List Byte) (offset : ℕ) : Except Thrown Instant :=
  let seconds := readUnsigned packet offset - ntpEpochSeconds
  let fraction := readUnsigned packet (offset + 4)
  let nanos := (fraction * 1000000000) >>> 32
  Instant.ofEpochSecond seconds nanos

def request (now : Instant) : List Byte :=
  writeTimestamp ((List.replicate packetSize 0).set 0 0x23) 40 now

def sliceArray (packet : List Byte) (first last : ℕ) : Except Thrown (List Byte) :=
  if last < packet.length then .ok ((packet.drop first).take (last + 1 - first))
  else .error .indexOutOfBounds

def require (value : Prop) [Decidable value] (message : String) : Except Thrown Unit :=
  if value then .ok () else .error (.illegalArgument message)

def response (packet request : List Byte) : Except Thrown NtpResponseTimes := do
  require (packet.length ≥ packetSize) "short NTP packet"
  let leap : BitVec 32 := (((packet.getD 0 0).signExtend 32) >>> 6) &&& 0x3
  let mode : BitVec 32 := (packet.getD 0 0).signExtend 32 &&& 0x7
  let stratum : BitVec 32 := (packet.getD 1 0).signExtend 32 &&& 0xff
  require (leap ≠ 3 ∧ mode = 4 ∧ 1 ≤ stratum.toInt ∧ stratum.toInt ≤ 15) "untrusted NTP response"
  let origin ← sliceArray packet 24 31
  let sent ← sliceArray request 40 47
  require (origin = sent) "NTP origin mismatch"
  let receive ← readTimestamp packet 32
  let transmit ← readTimestamp packet 40
  return ⟨receive, transmit⟩

end NtpPacketCodec

/-! ## Words -/

open NtpPacketCodec

theorem signExtend_and_ff (b : Byte) : b.signExtend 64 &&& 0xff = b.setWidth 64 := by
  revert b
  decide +kernel

theorem toNat_shiftLeft_or (value : Long) (b : Byte) (h : value.toNat < 2 ^ 56) :
    ((value <<< 8) ||| b.setWidth 64).toNat = value.toNat * 256 + b.toNat := by
  have hb := b.isLt
  rw [BitVec.toNat_or, BitVec.toNat_shiftLeft, BitVec.toNat_setWidth, Nat.shiftLeft_eq,
    Nat.mod_eq_of_lt (a := value.toNat * 2 ^ 8) (by omega),
    Nat.mod_eq_of_lt (a := b.toNat) (by omega), ← Nat.shiftLeft_eq,
    ← Nat.shiftLeft_add_eq_or_of_lt hb, Nat.shiftLeft_eq]

theorem toNat_readUnsigned (packet : List Byte) (offset : ℕ) :
    (readUnsigned packet offset).toNat =
      (packet.getD offset 0).toNat * 2 ^ 24 + (packet.getD (offset + 1) 0).toNat * 2 ^ 16 +
        (packet.getD (offset + 2) 0).toNat * 2 ^ 8 + (packet.getD (offset + 3) 0).toNat := by
  have h0 := (packet.getD offset 0).isLt
  have h1 := (packet.getD (offset + 1) 0).isLt
  have h2 := (packet.getD (offset + 2) 0).isLt
  have hzero : (0 : Long).toNat = 0 := rfl
  have hrange : List.range 4 = [0, 1, 2, 3] := rfl
  simp only [readUnsigned, hrange, List.foldl_cons, List.foldl_nil, signExtend_and_ff, Nat.add_zero]
  have e0 := toNat_shiftLeft_or 0 (packet.getD offset 0) (by decide)
  rw [hzero, Nat.zero_mul, Nat.zero_add] at e0
  have e1 := toNat_shiftLeft_or _ (packet.getD (offset + 1) 0) (by rw [e0]; omega)
  have e2 := toNat_shiftLeft_or _ (packet.getD (offset + 2) 0) (by rw [e1, e0]; omega)
  have e3 := toNat_shiftLeft_or _ (packet.getD (offset + 3) 0) (by rw [e2, e1, e0]; omega)
  rw [e3, e2, e1, e0]
  omega

theorem readUnsigned_lt (packet : List Byte) (offset : ℕ) :
    (readUnsigned packet offset).toNat < 2 ^ 32 := by
  have h0 := (packet.getD offset 0).isLt
  have h1 := (packet.getD (offset + 1) 0).isLt
  have h2 := (packet.getD (offset + 2) 0).isLt
  have h3 := (packet.getD (offset + 3) 0).isLt
  rw [toNat_readUnsigned]
  omega

@[simp] theorem length_writeUnsigned (packet : List Byte) (offset : ℕ) (value : Long) :
    (writeUnsigned packet offset value).length = packet.length := by
  simp [writeUnsigned, List.range_succ]

theorem getD_writeUnsigned {packet : List Byte} {offset : ℕ} (h : offset + 4 ≤ packet.length)
    (value : Long) (i : ℕ) : (writeUnsigned packet offset value).getD i 0 =
      if offset ≤ i ∧ i < offset + 4 then (value >>> (24 - (i - offset) * 8)).setWidth 8
      else packet.getD i 0 := by
  have hrange : List.range 4 = [0, 1, 2, 3] := rfl
  simp only [writeUnsigned, hrange, List.foldl_cons, List.foldl_nil, List.getD_eq_getElem?_getD,
    List.getElem?_set, List.length_set]
  split_ifs <;> first | omega | (subst_vars; simp)

theorem readUnsigned_writeUnsigned {packet : List Byte} {offset : ℕ}
    (h : offset + 4 ≤ packet.length) (value : Long) :
    (readUnsigned (writeUnsigned packet offset value) offset).toNat = value.toNat % 2 ^ 32 := by
  rw [toNat_readUnsigned]
  simp only [getD_writeUnsigned h]
  rw [if_pos (by omega), if_pos (by omega), if_pos (by omega), if_pos (by omega)]
  simp only [BitVec.toNat_setWidth, BitVec.toNat_ushiftRight, Nat.shiftRight_eq_div_pow,
    Nat.add_sub_cancel_left, Nat.sub_self]
  omega

theorem readUnsigned_writeUnsigned_of_disjoint {packet : List Byte} {offset offset' : ℕ}
    (h : offset' + 4 ≤ packet.length) (hdisjoint : offset + 4 ≤ offset' ∨ offset' + 4 ≤ offset)
    (value : Long) :
    readUnsigned (writeUnsigned packet offset' value) offset = readUnsigned packet offset := by
  apply BitVec.eq_of_toNat_eq
  rw [toNat_readUnsigned, toNat_readUnsigned]
  simp only [getD_writeUnsigned h]
  rw [if_neg (by omega), if_neg (by omega), if_neg (by omega), if_neg (by omega)]

/-! ## Timestamps -/

theorem toNat_seconds (instant : Instant) (h : 0 ≤ instant.epochSecond) :
    (BitVec.ofInt 64 instant.epochSecond + ntpEpochSeconds).toNat =
      instant.epochSecond.toNat + 2208988800 := by
  have hmax := instant.le_maxSecond
  have hepoch : ntpEpochSeconds.toNat = 2208988800 := rfl
  rw [BitVec.toNat_add, BitVec.toNat_ofInt, hepoch]
  omega

theorem toNat_fraction (instant : Instant) :
    ((BitVec.ofNat 64 instant.nano <<< 32).sdiv 1000000000).toNat =
      instant.nano * 2 ^ 32 / 1000000000 := by
  have hnano := instant.nano_lt
  have hshift : (BitVec.ofNat 64 instant.nano <<< 32).toNat = instant.nano * 2 ^ 32 := by
    rw [BitVec.toNat_shiftLeft, BitVec.toNat_ofNat, Nat.shiftLeft_eq]
    omega
  have hpos : (BitVec.ofNat 64 instant.nano <<< 32).msb = false := by
    rw [BitVec.msb_eq_false_iff_two_mul_lt, hshift]
    omega
  have hdivisor : (1000000000 : Long).msb = false := rfl
  rw [BitVec.sdiv_eq, hpos, hdivisor]
  simp only [BitVec.udiv_eq, BitVec.toNat_udiv, hshift]
  rfl

theorem toInt_seconds {word : Long} (h : word.toNat < 2 ^ 32) :
    (word - ntpEpochSeconds).toInt = (word.toNat : ℤ) - 2208988800 := by
  have hepoch : ntpEpochSeconds.toNat = 2208988800 := rfl
  rw [BitVec.toInt_sub, BitVec.toInt_eq_toNat_cond, BitVec.toInt_eq_toNat_cond, hepoch,
    if_pos (by omega), if_pos (by omega), Int.bmod_eq_of_le (by omega) (by omega)]
  rfl

theorem toInt_nanos {word : Long} (h : word.toNat < 2 ^ 32) :
    ((word * 1000000000) >>> 32).toInt = (word.toNat * 1000000000 / 2 ^ 32 : ℕ) := by
  have hfactor : (1000000000 : Long).toNat = 1000000000 := rfl
  have hshift : ((word * 1000000000) >>> 32).toNat = word.toNat * 1000000000 / 2 ^ 32 := by
    rw [BitVec.toNat_ushiftRight, BitVec.toNat_mul, hfactor, Nat.mod_eq_of_lt (by omega),
      Nat.shiftRight_eq_div_pow]
  rw [BitVec.toInt_eq_toNat_cond, hshift, if_pos (by omega)]

/-- Any eight bytes are the timestamp of an instant. -/
theorem readTimestamp_eq (packet : List Byte) (offset : ℕ) :
    ∃ instant, readTimestamp packet offset = .ok instant ∧
      instant.epochSecond = (readUnsigned packet offset).toNat - 2208988800 ∧
      instant.nano = (readUnsigned packet (offset + 4)).toNat * 1000000000 / 2 ^ 32 := by
  have hseconds := readUnsigned_lt packet offset
  have hfraction := readUnsigned_lt packet (offset + 4)
  simp only [readTimestamp, Instant.ofEpochSecond, toInt_seconds hseconds, toInt_nanos hfraction]
  rw [dif_pos (by omega)]
  refine ⟨_, rfl, ?_, ?_⟩ <;> dsimp only <;> omega

theorem readTimestamp_congr {packet packet' : List Byte} {offset offset' : ℕ}
    (h : ∀ i < 8, packet.getD (offset + i) 0 = packet'.getD (offset' + i) 0) :
    readTimestamp packet offset = readTimestamp packet' offset' := by
  have hword : ∀ shift ≤ 4, readUnsigned packet (offset + shift) =
      readUnsigned packet' (offset' + shift) := by
    intro shift hshift
    apply BitVec.eq_of_toNat_eq
    rw [toNat_readUnsigned, toNat_readUnsigned]
    simp only [Nat.add_assoc]
    rw [h shift (by omega), h (shift + 1) (by omega), h (shift + 2) (by omega),
      h (shift + 3) (by omega)]
  have hseconds := hword 0 (by omega)
  rw [Nat.add_zero, Nat.add_zero] at hseconds
  rw [readTimestamp, readTimestamp, hseconds, hword 4 (by omega)]

theorem getD_of_sliceArray_eq {packet packet' : List Byte} {first first' : ℕ}
    {bytes : List Byte} (h : sliceArray packet first (first + 7) = .ok bytes)
    (h' : sliceArray packet' first' (first' + 7) = .ok bytes) (i : ℕ) (hi : i < 8) :
    packet.getD (first + i) 0 = packet'.getD (first' + i) 0 := by
  have hread : ∀ (packet : List Byte) (first : ℕ), sliceArray packet first (first + 7) = .ok bytes →
      packet.getD (first + i) 0 = bytes.getD i 0 := by
    intro packet first h
    unfold sliceArray at h
    split_ifs at h with hlength
    obtain rfl := Except.ok.inj h
    rw [List.getD_eq_getElem?_getD, List.getD_eq_getElem?_getD, List.getElem?_take,
      if_pos (by omega), List.getElem?_drop]
  rw [hread packet first h, hread packet' first' h']

theorem length_request (now : Instant) : (request now).length = 48 := by
  simp only [request, writeTimestamp, length_writeUnsigned, List.length_set, List.length_replicate,
    packetSize]

/-- The seconds come back in the era that began in 1900, and the fraction rounded down twice. -/
theorem readTimestamp_request (now : Instant) (hnow : 0 ≤ now.epochSecond) :
    ∃ instant, readTimestamp (request now) 40 = .ok instant ∧
      instant.epochSecond = (now.epochSecond + 2208988800) % 2 ^ 32 - 2208988800 ∧
      instant.nano = now.nano * 2 ^ 32 / 1000000000 * 1000000000 / 2 ^ 32 := by
  obtain ⟨instant, hread, hseconds, hnanos⟩ := readTimestamp_eq (request now) 40
  have hnano := now.nano_lt
  have hword : (readUnsigned (request now) 40).toNat =
      (now.epochSecond.toNat + 2208988800) % 2 ^ 32 := by
    rw [request, writeTimestamp, readUnsigned_writeUnsigned_of_disjoint (by simp [packetSize])
      (.inl (by omega)), readUnsigned_writeUnsigned (by simp [packetSize]), toNat_seconds now hnow]
  have hfraction : (readUnsigned (request now) (40 + 4)).toNat =
      now.nano * 2 ^ 32 / 1000000000 := by
    rw [request, writeTimestamp, readUnsigned_writeUnsigned (by simp [packetSize]),
      toNat_fraction now]
    omega
  refine ⟨instant, hread, ?_, ?_⟩
  · rw [hseconds, hword]
    omega
  · rw [hnanos, hfraction]

theorem withinOneNanosecond_iff {instant now : Instant} (hnow : 0 ≤ now.epochSecond)
    (hseconds : instant.epochSecond = (now.epochSecond + 2208988800) % 2 ^ 32 - 2208988800)
    (hnanos : instant.nano = now.nano * 2 ^ 32 / 1000000000 * 1000000000 / 2 ^ 32) :
    instant.withinOneNanosecond now ↔ now.epochSecond < 2085978496 := by
  have hnano := now.nano_lt
  have hbelow : instant.nano ≤ now.nano ∧ now.nano ≤ instant.nano + 1 := by
    rw [hnanos]
    omega
  rw [Instant.withinOneNanosecond, Instant.toNanos, Instant.toNanos, hseconds,
    Int.abs_le_one_iff]
  constructor
  · intro h
    omega
  · intro h
    rw [Int.emod_eq_of_lt (by omega) (by omega)]
    omega

theorem response_eq_ok {packet request : List Byte} {times : NtpResponseTimes}
    (h : response packet request = .ok times) :
    readTimestamp packet 32 = .ok times.receive ∧ readTimestamp packet 40 = .ok times.transmit := by
  unfold response at h
  obtain ⟨-, -, h⟩ := CheckedSteps.bind_eq_ok_iff.1 h
  obtain ⟨-, -, h⟩ := CheckedSteps.bind_eq_ok_iff.1 h
  obtain ⟨origin, -, h⟩ := CheckedSteps.bind_eq_ok_iff.1 h
  obtain ⟨sent, -, h⟩ := CheckedSteps.bind_eq_ok_iff.1 h
  obtain ⟨-, -, h⟩ := CheckedSteps.bind_eq_ok_iff.1 h
  obtain ⟨receive, hreceive, h⟩ := CheckedSteps.bind_eq_ok_iff.1 h
  obtain ⟨transmit, htransmit, h⟩ := CheckedSteps.bind_eq_ok_iff.1 h
  obtain rfl := Except.ok.inj h
  exact ⟨hreceive, htransmit⟩

/-! ## What the server sends back -/

theorem sliceArray_request (now : Instant) :
    sliceArray (request now) 40 47 = .ok (((request now).drop 40).take 8) := by
  rw [sliceArray, length_request]
  rfl

theorem withinOneNanosecond_of_slice {now instant : Instant} {packet : List Byte} {offset : ℕ}
    (hnow : 0 ≤ now.epochSecond)
    (hbytes : sliceArray packet offset (offset + 7) = sliceArray (request now) 40 47)
    (hread : readTimestamp packet offset = .ok instant) :
    instant.withinOneNanosecond now ↔ now.epochSecond < 2085978496 := by
  have hsent := sliceArray_request now
  rw [readTimestamp_congr (getD_of_sliceArray_eq (hbytes.trans hsent) hsent)] at hread
  obtain ⟨instant', hread', hseconds, hnanos⟩ := readTimestamp_request now hnow
  obtain rfl := Except.ok.inj (hread'.symm.trans hread)
  exact withinOneNanosecond_iff hnow hseconds hnanos

/-- Any timestamp can be read. An instant that comes back in a packet of the server, as the one
of its receiving or of its sending, is within a nanosecond of what was written exactly if it lies
before the rollover. -/
theorem response_withinOneNanosecond (now : Instant) (hnow : 0 ≤ now.epochSecond) :
    (∀ packet offset, ∃ instant, readTimestamp packet offset = .ok instant) ∧
      ∀ packet request' times, response packet request' = .ok times →
        (sliceArray packet 32 39 = sliceArray (request now) 40 47 →
          (times.receive.withinOneNanosecond now ↔ now.epochSecond < 2085978496)) ∧
        (sliceArray packet 40 47 = sliceArray (request now) 40 47 →
          (times.transmit.withinOneNanosecond now ↔ now.epochSecond < 2085978496)) := by
  refine ⟨fun packet offset => ?_, fun packet request' times hok => ?_⟩
  · obtain ⟨instant, hread, -⟩ := readTimestamp_eq packet offset
    exact ⟨instant, hread⟩
  · obtain ⟨hreceive, htransmit⟩ := response_eq_ok hok
    exact ⟨fun hbytes => withinOneNanosecond_of_slice hnow hbytes hreceive,
      fun hbytes => withinOneNanosecond_of_slice hnow hbytes htransmit⟩

/-- 2026-09-08T00:00:00.100Z -/
def testInstant : Instant := ⟨1788825600, 100000000, by decide, by decide, by decide⟩

/-- 2036-02-07T06:28:16Z -/
def rollover : Instant := ⟨2085978496, 0, by decide, by decide, by decide⟩

/-- A server of stratum 2 that gives the origin and both its timestamps the same eight bytes. -/
def echo (now : Instant) : List Byte :=
  let sent := (request now).drop 40
  [0x24, 2] ++ List.replicate 22 0 ++ sent ++ sent ++ sent

theorem response_withinOneNanosecond_test :
    ∃ times, response (echo testInstant) (request testInstant) = .ok times ∧
      (times.receive.withinOneNanosecond testInstant ↔ testInstant.epochSecond < 2085978496) := by
  have hok : (response (echo testInstant) (request testInstant)).toOption.isSome = true := by decide
  cases htimes : response (echo testInstant) (request testInstant) with
  | error thrown =>
      rw [htimes] at hok
      cases hok
  | ok times =>
      have hbytes : sliceArray (echo testInstant) 32 39 =
          sliceArray (request testInstant) 40 47 := by decide
      exact ⟨times, rfl,
        ((response_withinOneNanosecond testInstant (by decide)).2 _ _ _ htimes).1 hbytes⟩

/-- The first instant of the next era comes back as January 1st of 1900. -/
theorem response_not_withinOneNanosecond_rollover :
    0 ≤ rollover.epochSecond ∧
      sliceArray (echo rollover) 40 47 = sliceArray (request rollover) 40 47 ∧
      ∃ times, response (echo rollover) (request rollover) = .ok times ∧
        times.transmit = ⟨-2208988800, 0, by decide, by decide, by decide⟩ ∧
        ¬ times.transmit.withinOneNanosecond rollover := by
  refine ⟨by decide, by decide, ⟨⟨-2208988800, 0, by decide, by decide, by decide⟩,
    ⟨-2208988800, 0, by decide, by decide, by decide⟩⟩, by decide, rfl, ?_⟩
  rw [Instant.withinOneNanosecond]
  decide

end GcsSaker.NtpTime
