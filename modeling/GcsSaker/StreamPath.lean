import Mathlib.Data.List.DropRight
import Mathlib.Data.List.Infix

/-!
# Stream paths

A stream path names an asset and a sensor, and for some prefixes a processor, an archive date or a
talkback operator. The stream id is the path with dots in place of slashes.
-/

namespace GcsSaker.StreamPath

structure ParsedStreamPath where
  pathPrefix : String
  assetID : String
  sensorID : String
  processorID : String
  archiveDate : String
  path : String
  streamID : String
  deriving DecidableEq

/-- `unicode.IsSpace`. -/
def isSpace (c : Char) : Bool :=
  c.toNat ∈ [9, 10, 11, 12, 13, 32, 0x85, 0xA0, 0x1680, 0x2028, 0x2029, 0x202F, 0x205F, 0x3000] ||
    (decide (0x2000 ≤ c.toNat) && decide (c.toNat ≤ 0x200A))

def trimSpace (s : List Char) : List Char :=
  ((s.dropWhile isSpace).reverse.dropWhile isSpace).reverse

theorem trimSpace_cons_ne_nil {c : Char} {s : List Char} (hc : isSpace c = false) :
    trimSpace (c :: s) ≠ [] := by
  intro htrim
  have hright : (c :: s).rdropWhile isSpace = [] := by
    rwa [trimSpace, List.dropWhile_cons_of_neg (by rw [hc]; decide)] at htrim
  have hspace := List.rdropWhile_eq_nil_iff.1 hright c List.mem_cons_self
  rw [hc] at hspace
  exact Bool.false_ne_true hspace

def newStreamPath (value : String) : Except String (List Char) :=
  let trimmed := trimSpace value.toList
  if trimmed = [] then .error "stream path must not be blank"
  else if trimmed.head? = some '/' then .error "stream path must be relative"
  else .ok trimmed

def isSegmentChar (c : Char) : Bool := c.isAlphanum || c = '_' || c = '-'

/-- `^[A-Za-z0-9][A-Za-z0-9_-]{0,63}$` -/
def streamSegmentPattern : List Char → Bool
  | [] => false
  | c :: rest => c.isAlphanum && decide (rest.length ≤ 63) && rest.all isSegmentChar

def validateSegments (segments : List (List Char)) : Except String Unit :=
  match segments with
  | [] => .ok ()
  | segment :: segments =>
    if segment = ['.'] ∨ segment = ['.', '.'] then
      .error "stream path must not contain traversal segments"
    else if streamSegmentPattern segment = false then
      .error "stream path segments may contain only letters, numbers, hyphen, and underscore"
    else validateSegments segments

def isLeap (year : ℕ) : Bool := year % 4 == 0 && (year % 100 != 0 || year % 400 == 0)

def daysIn (month year : ℕ) : ℕ :=
  if month = 2 then if isLeap year then 29 else 28
  else if month ∈ [4, 6, 9, 11] then 30 else 31

/-- What `time.Parse` accepts for the layout `2006-01-02`. -/
def isCalendarDate : List Char → Bool
  | [y₁, y₂, y₃, y₄, '-', m₁, m₂, '-', d₁, d₂] =>
    let year := Nat.ofDigitChars 10 [y₁, y₂, y₃, y₄] 0
    let month := Nat.ofDigitChars 10 [m₁, m₂] 0
    let day := Nat.ofDigitChars 10 [d₁, d₂] 0
    [y₁, y₂, y₃, y₄, m₁, m₂, d₁, d₂].all Char.isDigit && decide (1 ≤ month ∧ month ≤ 12) &&
      decide (1 ≤ day ∧ day ≤ daysIn month year)
  | _ => false

def joinPath (parts : List (List Char)) : String := String.ofList (['/'].intercalate parts)

def streamIDOf (path : String) : String := path.map fun c => if c = '/' then '.' else c

def parsedPath (pathPrefix assetID sensorID processorID archiveDate : List Char) :
    ParsedStreamPath :=
  let parts := [pathPrefix, assetID, sensorID] ++ [processorID, archiveDate].filter (· ≠ [])
  let path := joinPath parts
  ⟨String.ofList pathPrefix, String.ofList assetID, String.ofList sensorID,
    String.ofList processorID, String.ofList archiveDate, path, streamIDOf path⟩

def parseTalkbackStreamPath : List (List Char) → Except String ParsedStreamPath
  | [pathPrefix, raw, assetID, sensorID, operatorID] =>
    if raw ≠ "raw".toList then
      .error
        "talkback stream path must match talkback/raw/\x7bassetId\x7d/\x7bsensorId\x7d/\x7boperatorId\x7d"
    else do
      validateSegments [assetID, sensorID, operatorID]
      let path := joinPath [pathPrefix, raw, assetID, sensorID, operatorID]
      .ok ⟨"talkback", String.ofList assetID, String.ofList sensorID, String.ofList operatorID, "",
        path, streamIDOf path⟩
  | _ => .error
    "talkback stream path must match talkback/raw/\x7bassetId\x7d/\x7bsensorId\x7d/\x7boperatorId\x7d"

def parseRawStreamPath : List (List Char) → Except String ParsedStreamPath
  | [pathPrefix, assetID, sensorID] => do
    validateSegments [assetID, sensorID]
    .ok (parsedPath pathPrefix assetID sensorID [] [])
  | _ => .error "stream path must match raw/\x7bassetId\x7d/\x7bsensorId\x7d"

def parseAIStreamPath : List (List Char) → Except String ParsedStreamPath
  | [pathPrefix, assetID, sensorID, processorID] => do
    validateSegments [assetID, sensorID, processorID]
    .ok (parsedPath pathPrefix assetID sensorID processorID [])
  | _ => .error "stream path must match ai/\x7bassetId\x7d/\x7bsensorId\x7d/\x7bprocessorId\x7d"

def parseArchiveStreamPath : List (List Char) → Except String ParsedStreamPath
  | [pathPrefix, assetID, sensorID, date] => do
    validateSegments [assetID, sensorID]
    if isCalendarDate date = false then
      .error "archive stream date must be a valid calendar date"
    else .ok (parsedPath pathPrefix assetID sensorID [] date)
  | _ => .error "stream path must match archive/\x7bassetId\x7d/\x7bsensorId\x7d/\x7bdate\x7d"

def parseStreamPathSegments (parts : List (List Char)) : Except String ParsedStreamPath :=
  match (parts.head?).map String.ofList with
  | some "raw" => parseRawStreamPath parts
  | some "ai" => parseAIStreamPath parts
  | some "archive" => parseArchiveStreamPath parts
  | some "talkback" => parseTalkbackStreamPath parts
  | _ => .error "stream path prefix must be one of raw, ai, archive, talkback"

def parseStreamPath (path : String) : Except String ParsedStreamPath := do
  let streamPath ← newStreamPath path
  let parts := streamPath.splitOn '/'
  if [] ∈ parts then .error "stream path must not contain empty segments"
  else parseStreamPathSegments parts

def parseStreamID (streamID : String) : Except String ParsedStreamPath :=
  let trimmed := trimSpace streamID.toList
  if trimmed = [] then .error "stream id must be a non-empty string"
  else if '/' ∈ trimmed ∨ '\\' ∈ trimmed then .error "stream id must use dot separators only"
  else if trimmed.head? = some '.' ∨ trimmed.getLast? = some '.' then
    .error "stream id must not start or end with dot"
  else if ['.', '.'] <:+: trimmed then .error "stream id must not contain empty segments"
  else parseStreamPath (String.ofList (trimmed.map fun c => if c = '.' then '/' else c))

example : (parseStreamPath " talkback/raw/drone-01/front/operator ").toOption =
    some ⟨"talkback", "drone-01", "front", "operator", "", "talkback/raw/drone-01/front/operator",
      "talkback.raw.drone-01.front.operator"⟩ := by
  decide +kernel

end GcsSaker.StreamPath
