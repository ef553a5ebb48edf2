import GcsSaker.AuditChain
import GcsSaker.InstantText
import Mathlib.Data.List.MinMax

/-!
# The files of audit anchors

`FileAuditAnchorWriter` writes every anchor into a file of its own, in place and under its final
name, and takes the anchor before from the newest file of the directory. A write may stop after any
number of bytes.
-/

namespace GcsSaker.AuditAnchors

open AuditChain.AuditHashChain (GENESIS_HASH asciiBytes)
open HashChains (Chain)
open IsoDatetime (digitChar padded)

def Instant := {instant : ℤ // InstantText.InRange instant}
  deriving DecidableEq

structure AuditChainHead where
  eventHash : String
  recordCount : Int64
  deriving DecidableEq

structure AuditAnchorRecord where
  sequence : Int64
  previousAnchorHash : String
  chainHead : String
  recordCount : Int64
  anchoredAt : Instant
  sourceCommit : String
  anchorHash : String
  signature : String
  deriving DecidableEq

structure AnchorPayload where
  sequence : Int64
  previousHash : String
  head : AuditChainHead
  anchoredAt : Instant
  commit : String

/-- The JSON of Jackson; nothing is read where it throws. -/
structure ObjectMapper where
  writeValueAsBytes : AuditAnchorRecord → List UInt8
  readValue : List UInt8 → Option AuditAnchorRecord

/-- What is written is read again, with the line feed or without it, and a JSON object that ends too
early is not read. -/
structure ObjectMapper.Lawful (mapper : ObjectMapper) : Prop where
  readValue_write : ∀ record, mapper.readValue (mapper.writeValueAsBytes record) = some record
  readValue_line : ∀ record,
    mapper.readValue (mapper.writeValueAsBytes record ++ [10]) = some record
  readValue_take : ∀ record n, n < (mapper.writeValueAsBytes record).length →
    mapper.readValue ((mapper.writeValueAsBytes record).take n) = none

/-! ## The file system -/

/-- The names and the contents of the files of a directory. -/
abbrev Directory := List (String × List UInt8)

/-- What becomes of a write: it may stop after some bytes, which the channel throws or only counts,
or fail when everything is written and is to be forced to the device. -/
inductive Write where
  | complete
  | notOpened
  | stops (bytes : ℕ) (thrown : Bool)
  | notForced
  deriving DecidableEq

inductive Failure where
  | unreadable
  | integrity
  | fileAlreadyExists
  | io
  deriving DecidableEq

/-! ## The names -/

def anchorPrefix : List Char := ['a', 'n', 'c', 'h', 'o', 'r', '-']

def anchorSuffix : List Char := ['.', 'j', 's', 'o', 'n']

/-- `anchor-%020d.json` -/
def fileName (sequence : Int64) : String :=
  String.ofList (anchorPrefix ++
    ((if sequence < 0 then '-' :: padded 19 sequence.toInt.natAbs
      else padded 20 sequence.toInt.natAbs) ++ anchorSuffix))

/-- The names of `FILE_PATTERN`. -/
def isAnchorName (name : String) : Bool :=
  name.toList.length = 32 && name.toList.take 7 = anchorPrefix &&
    ((name.toList.drop 7).take 20).all Char.isDigit && name.toList.drop 27 = anchorSuffix

def sha256 (value : List UInt8) : String := Sha256.hex (Sha256.digest value)

def bytesOf (text : String) : List UInt8 := text.toByteArray.data.toList

/-- `take(64)` in UTF-16 code units; a character that would be cut in two is left out. -/
def takeUnits : ℕ → List Char → List Char
  | _, [] => []
  | n, c :: cs =>
    let units := if c.toNat < 0x10000 then 1 else 2
    if n < units then [] else c :: takeUnits (n - units) cs

def canonical (payload : AnchorPayload) : List UInt8 :=
  bytesOf (String.intercalate "|" [
    toString payload.sequence,
    payload.previousHash,
    payload.head.eventHash,
    toString payload.head.recordCount,
    InstantText.format payload.anchoredAt.val,
    payload.commit])

/-! ## The writer -/

structure FileAuditAnchorWriter where
  hmacKey : List UInt8
  sourceCommit : String
  mapper : ObjectMapper
  hmacKeySize : 32 ≤ hmacKey.length

/-- A call of `append`, and what becomes of its write. -/
structure Call where
  head : AuditChainHead
  anchoredAt : Instant
  write : Write

namespace FileAuditAnchorWriter

variable (writer : FileAuditAnchorWriter)

def hmac (anchorHash : String) : String :=
  Sha256.hex (Sha256.hmac writer.hmacKey (asciiBytes anchorHash))

def validAnchor (record : AuditAnchorRecord) : Bool :=
  let head : AuditChainHead := ⟨record.chainHead, record.recordCount⟩
  let expectedHash := sha256 (canonical ⟨record.sequence, record.previousAnchorHash, head,
    record.anchoredAt, record.sourceCommit⟩)
  bytesOf expectedHash = bytesOf record.anchorHash &&
    bytesOf (writer.hmac record.anchorHash) = bytesOf record.signature

/-- The file with the greatest of the names. -/
def latestFile (directory : Directory) : Option (String × List UInt8) :=
  (directory.filter fun file => isAnchorName file.1).argmax fun file => JvmText.codeUnits file.1

def latestAnchor (directory : Directory) : Except Failure (Option AuditAnchorRecord) :=
  match latestFile directory with
  | none => .ok none
  | some file =>
    match writer.mapper.readValue file.2 with
    | none => .error .unreadable
    | some record => if writer.validAnchor record then .ok (some record) else .error .integrity

def payloadOf (record : AuditAnchorRecord) : List UInt8 :=
  writer.mapper.writeValueAsBytes record ++ [10]

def writeOnce (record : AuditAnchorRecord) (write : Write) (directory : Directory) :
    Except Failure Unit × Directory :=
  let name := fileName record.sequence
  if name ∈ directory.map Prod.fst then (.error .fileAlreadyExists, directory)
  else
    match write with
    | .notOpened => (.error .io, directory)
    | .complete => (.ok (), directory ++ [(name, writer.payloadOf record)])
    | .notForced => (.error .io, directory ++ [(name, writer.payloadOf record)])
    | .stops bytes thrown =>
      (if thrown then .error .io else .ok (),
        directory ++ [(name, (writer.payloadOf record).take bytes)])

/-- The anchor that follows the previous one. -/
def nextRecord (head : AuditChainHead) (anchoredAt : Instant)
    (previous : Option AuditAnchorRecord) : AuditAnchorRecord :=
  let sequence := (previous.map (·.sequence)).getD 0 + 1
  let previousHash := (previous.map (·.anchorHash)).getD GENESIS_HASH
  let commit := String.ofList (takeUnits 64 writer.sourceCommit.toList)
  let anchorHash := sha256 (canonical ⟨sequence, previousHash, head, anchoredAt, commit⟩)
  { sequence
    previousAnchorHash := previousHash
    chainHead := head.eventHash
    recordCount := head.recordCount
    anchoredAt
    sourceCommit := commit
    anchorHash
    signature := writer.hmac anchorHash }

def unchanged (head : AuditChainHead) (previous : AuditAnchorRecord) : Bool :=
  previous.chainHead = head.eventHash && previous.recordCount = head.recordCount

def append (call : Call) (directory : Directory) :
    Except Failure AuditAnchorRecord × Directory :=
  match writer.latestAnchor directory with
  | .error failure => (.error failure, directory)
  | .ok previous =>
    match previous.filter (unchanged call.head) with
    | some record => (.ok record, directory)
    | none =>
      let record := writer.nextRecord call.head call.anchoredAt previous
      let written := writer.writeOnce record call.write directory
      (written.1.map fun _ => record, written.2)

/-! ## Runs -/

def after (directory : Directory) (calls : List Call) : Directory :=
  calls.foldl (fun directory call => (writer.append call directory).2) directory

/-- The calls with the directory that each of them finds. -/
def steps : Directory → List Call → List (Directory × Call)
  | _, [] => []
  | directory, call :: calls =>
    (directory, call) :: steps (writer.append call directory).2 calls

def returned (step : Directory × Call) : Option AuditAnchorRecord :=
  (writer.append step.2 step.1).1.toOption

/-- The anchor for which a call creates a file. -/
def created (step : Directory × Call) : Option AuditAnchorRecord :=
  match writer.latestAnchor step.1 with
  | .error _ => none
  | .ok previous =>
    let record := writer.nextRecord step.2.head step.2.anchoredAt previous
    if previous.any (unchanged step.2.head) || step.2.write = .notOpened ||
      fileName record.sequence ∈ step.1.map Prod.fst then none
    else some record

/-- The call creates a file and leaves less in it than the anchor. -/
def tears (step : Directory × Call) : Bool :=
  match writer.created step, step.2.write with
  | some record, .stops bytes _ => bytes < (writer.mapper.writeValueAsBytes record).length
  | _, _ => false

end FileAuditAnchorWriter

/-! ## The newest file -/

def anchorName (n : ℕ) : String :=
  String.ofList (anchorPrefix ++ (padded 20 n ++ anchorSuffix))

theorem fileName_eq {sequence : Int64} {n : ℕ} (h : sequence.toInt = n) :
    fileName sequence = anchorName n := by
  have hnonneg : ¬ sequence < 0 := by
    rw [Int64.lt_iff_toInt_lt, h]
    exact not_lt.2 (Int.natCast_nonneg n)
  rw [fileName, if_neg hnonneg, h, Int.natAbs_natCast, anchorName]

theorem isAnchorName_anchorName (n : ℕ) : isAnchorName (anchorName n) = true := by
  have hlist : (anchorName n).toList = anchorPrefix ++ (padded 20 n ++ anchorSuffix) :=
    String.toList_ofList
  have hprefix : anchorPrefix.length = 7 := rfl
  have hlength : (anchorName n).toList.length = 32 := by
    rw [hlist, List.length_append, List.length_append, IsoDatetime.length_padded, hprefix]
    rfl
  have hdrop : (anchorName n).toList.drop 7 = padded 20 n ++ anchorSuffix := by
    rw [hlist, List.drop_left' hprefix]
  have htake : (anchorName n).toList.take 7 = anchorPrefix := by
    rw [hlist, List.take_left' hprefix]
  have htail : (anchorName n).toList.drop 27 = anchorSuffix := by
    change (anchorName n).toList.drop (7 + 20) = _
    rw [← List.drop_drop, hdrop, List.drop_left' (IsoDatetime.length_padded 20 n)]
  have hdigits : (padded 20 n).all Char.isDigit = true :=
    List.all_eq_true.2 fun c hc => InstantText.isDigit_of_mem_padded hc
  rw [isAnchorName, hlength, htake, htail, hdrop,
    List.take_left' (IsoDatetime.length_padded 20 n), hdigits]
  rfl

theorem codeUnits_ofList {cs : List Char} (h : ∀ c ∈ cs, c.toNat < 0x10000) :
    JvmText.codeUnits (String.ofList cs) = cs.map Char.toNat := by
  rw [JvmText.codeUnits, String.toList_ofList]
  induction cs with
  | nil => rfl
  | cons c cs ih =>
      obtain ⟨hc, hrest⟩ := List.forall_mem_cons.1 h
      rw [List.flatMap_cons, if_pos hc, ih hrest, List.map_cons, List.singleton_append]

theorem toNat_digitChar (n : ℕ) : (digitChar n).toNat = 48 + n % 10 := by
  have h : ∀ d < 10, (Char.ofNat (48 + d)).toNat = 48 + d := by decide
  exact h (n % 10) (Nat.mod_lt n (by decide))

/-- Numbers of one width stand in the order of their digits, whatever follows them. -/
theorem padded_lt {width m n : ℕ} (h : m < n) (hn : n < 10 ^ width) (rest rest' : List ℕ) :
    (padded width m).map Char.toNat ++ rest < (padded width n).map Char.toNat ++ rest' := by
  induction width generalizing m n rest rest' with
  | zero => omega
  | succ width ih =>
      have hdiv : n / 10 < 10 ^ width := by
        rw [Nat.pow_succ] at hn
        exact Nat.div_lt_of_lt_mul (by rwa [Nat.mul_comm])
      rw [padded, padded, List.map_append, List.map_append, List.append_assoc, List.append_assoc]
      rcases Nat.lt_or_ge (m / 10) (n / 10) with hlt | hge
      · exact ih hlt hdiv _ _
      · have heq : m / 10 = n / 10 := by omega
        rw [heq]
        refine List.append_left_lt (List.Lex.rel ?_)
        rw [toNat_digitChar, toNat_digitChar]
        omega

theorem codeUnits_anchorName (n : ℕ) : JvmText.codeUnits (anchorName n) =
    anchorPrefix.map Char.toNat ++
      ((padded 20 n).map Char.toNat ++ anchorSuffix.map Char.toNat) := by
  rw [anchorName, codeUnits_ofList, List.map_append, List.map_append]
  refine List.forall_mem_append.2 ⟨by simp [anchorPrefix], List.forall_mem_append.2
    ⟨fun c hc => ?_, by simp [anchorSuffix]⟩⟩
  have hdigit := InstantText.isDigit_of_mem_padded hc
  simp only [Char.isDigit, Bool.and_eq_true, decide_eq_true_eq] at hdigit
  exact lt_of_le_of_lt hdigit.2 (by decide)

theorem anchorName_lt {m n : ℕ} (h : m < n) (hn : n < 10 ^ 20) :
    JvmText.codeUnits (anchorName m) < JvmText.codeUnits (anchorName n) := by
  rw [codeUnits_anchorName, codeUnits_anchorName]
  exact List.append_left_lt (padded_lt h hn _ _)

theorem anchorNames_sorted {count : ℕ} (h : count < 2 ^ 63) :
    ((List.range count).map fun n => JvmText.codeUnits (anchorName (n + 1))).Pairwise (· < ·) := by
  refine List.pairwise_map.2 (List.Pairwise.imp_of_mem ?_ List.pairwise_lt_range)
  intro m n _ hn hlt
  have hrange := List.mem_range.1 hn
  have hbound : n + 1 < 10 ^ 20 := by omega
  exact anchorName_lt (Nat.succ_lt_succ hlt) hbound

/-- Of keys that grow the last is the greatest. -/
theorem argmax_eq_getLast {α κ : Type} [Preorder κ] [DecidableLT κ] {key : α → κ} {xs : List α}
    (h : xs.Pairwise fun x y => key x < key y) : xs.argmax key = xs.getLast? := by
  induction xs using List.reverseRecOn with
  | nil => rfl
  | append_singleton xs x ih =>
      obtain ⟨hfront, -, hlast⟩ := List.pairwise_append.1 h
      rw [List.argmax_concat, ih hfront, List.getLast?_append, List.getLast?_singleton,
        Option.some_or]
      cases hxs : xs.getLast? with
      | none => rfl
      | some y => exact if_pos (hlast y (List.mem_of_getLast? hxs) x (List.mem_singleton_self x))

/-! ## The anchors -/

/-- Every anchor follows the one before it. -/
inductive Anchors (writer : FileAuditAnchorWriter) : List AuditAnchorRecord → Prop
  | nil : Anchors writer []
  | concat {anchors : List AuditAnchorRecord} (h : Anchors writer anchors)
      (head : AuditChainHead) (anchoredAt : Instant) :
      Anchors writer (anchors ++ [writer.nextRecord head anchoredAt anchors.getLast?])

section Anchors

variable {writer : FileAuditAnchorWriter} {anchors : List AuditAnchorRecord}

/-- The hash that an anchor after these ones names. -/
def lastHash (anchors : List AuditAnchorRecord) : String :=
  (anchors.getLast?.map (·.anchorHash)).getD GENESIS_HASH

theorem lastHash_concat (anchors : List AuditAnchorRecord) (record : AuditAnchorRecord) :
    lastHash (anchors ++ [record]) = record.anchorHash := by
  rw [lastHash, List.getLast?_concat, Option.map_some, Option.getD_some]

/-- One chain from the hash of the genesis. -/
def Chained (anchors : List AuditAnchorRecord) : Prop :=
  Chain (fun record : AuditAnchorRecord => some record.previousAnchorHash)
    (fun record => some record.anchorHash) GENESIS_HASH anchors (lastHash anchors)

/-- The anchors are numbered from one. -/
def Numbered (anchors : List AuditAnchorRecord) : Prop :=
  anchors.map (·.sequence.toInt) = (List.range anchors.length).map fun n : ℕ => (n : ℤ) + 1

theorem Anchors.chained (h : Anchors writer anchors) : Chained anchors := by
  induction h with
  | nil => exact HashChains.chain_nil.2 rfl
  | concat h head anchoredAt ih =>
      rw [Chained, lastHash_concat]
      exact HashChains.Chain.concat ih rfl rfl

theorem Anchors.validAnchor (h : Anchors writer anchors) :
    ∀ record ∈ anchors, writer.validAnchor record = true := by
  induction h with
  | nil => exact List.forall_mem_nil _
  | concat h head anchoredAt ih =>
      refine List.forall_mem_append.2 ⟨ih, List.forall_mem_singleton.2 ?_⟩
      exact Bool.and_eq_true_iff.2 ⟨decide_eq_true rfl, decide_eq_true rfl⟩

theorem sequence_getLast (hnumbered : Numbered anchors) :
    ((anchors.getLast?.map AuditAnchorRecord.sequence).getD 0).toInt = anchors.length := by
  have hlast := congrArg List.getLast? hnumbered
  rw [List.getLast?_map, List.getLast?_map, List.getLast?_range] at hlast
  cases hanchors : anchors.getLast? with
  | none => rw [List.getLast?_eq_none_iff.1 hanchors]; rfl
  | some record =>
      have hne : anchors.length ≠ 0 := by
        intro hzero
        rw [List.length_eq_zero_iff.1 hzero] at hanchors
        cases hanchors
      rw [hanchors, Option.map_some, if_neg hne, Option.map_some, Option.some.injEq] at hlast
      rw [Option.map_some, Option.getD_some, hlast]
      omega

theorem toInt_sequence_nextRecord (hnumbered : Numbered anchors)
    (hlength : anchors.length + 1 < 2 ^ 63) (head : AuditChainHead) (anchoredAt : Instant) :
    (writer.nextRecord head anchoredAt anchors.getLast?).sequence.toInt =
      ((anchors.length + 1 : ℕ) : ℤ) := by
  change (_ + 1 : Int64).toInt = _
  have hone : (1 : Int64).toInt = 1 := rfl
  rw [Int64.toInt_add, sequence_getLast hnumbered, hone]
  exact Int.bmod_eq_of_le (by omega) (by omega)

theorem Anchors.numbered (h : Anchors writer anchors) (hlength : anchors.length < 2 ^ 63) :
    Numbered anchors := by
  induction h with
  | nil => rfl
  | concat h head anchoredAt ih =>
      rw [List.length_append, List.length_singleton] at hlength
      have hnumbered := ih (by omega)
      rw [Numbered, List.map_append, hnumbered, List.length_append, List.length_singleton,
        List.range_succ, List.map_append, List.map_singleton, List.map_singleton,
        toInt_sequence_nextRecord hnumbered hlength]
      rfl

theorem names_eq (hnumbered : Numbered anchors) :
    (anchors.map fun record => fileName record.sequence) =
      (List.range anchors.length).map fun n => anchorName (n + 1) := by
  have hnames : ∀ record ∈ anchors,
      fileName record.sequence = anchorName record.sequence.toInt.toNat := by
    intro record hrecord
    have hmem : record.sequence.toInt ∈
        (List.range anchors.length).map fun n : ℕ => (n : ℤ) + 1 :=
      hnumbered ▸ List.mem_map_of_mem hrecord
    obtain ⟨n, -, hn⟩ := List.mem_map.1 hmem
    exact fileName_eq (by omega)
  rw [List.map_congr_left hnames]
  have hnumbers := congrArg (List.map fun n : ℤ => anchorName n.toNat) hnumbered
  rw [List.map_map, List.map_map] at hnumbers
  exact hnumbers

end Anchors

end GcsSaker.AuditAnchors
