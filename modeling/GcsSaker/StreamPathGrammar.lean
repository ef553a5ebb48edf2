import GcsSaker.CheckedSteps
import GcsSaker.StreamPath

/-!
# One grammar for stream paths

The backend checks stream paths and ids with `validate_stream_path` and `validate_stream_id`, the
media service with `ParseStreamPath` and `ParseStreamID`. Away from talkback paths both accept the
paths of `Grammar`, except that the media service knows a year 0 and `date.fromisoformat` does not.
-/

namespace GcsSaker.StreamModel
open StreamPath

/-! ## The backend -/

inductive StreamPrefix where
  | raw
  | ai
  | archive
  deriving DecidableEq

structure StreamPath where
  streamPrefix : StreamPrefix
  assetId : List Char
  sensorId : List Char
  processorId : Option (List Char)
  archiveDate : Option (List Char)
  deriving DecidableEq

def StreamPath.path (stream : StreamPath) : String :=
  match stream.streamPrefix with
  | .ai => joinPath ["ai".toList, stream.assetId, stream.sensorId,
      stream.processorId.getD "None".toList]
  | .archive => joinPath ["archive".toList, stream.assetId, stream.sensorId,
      stream.archiveDate.getD "None".toList]
  | .raw => joinPath ["raw".toList, stream.assetId, stream.sensorId]

def StreamPath.streamId (stream : StreamPath) : String := streamIDOf stream.path

/-- `SEGMENT_PATTERN` is the media service's pattern. -/
def validateNamedSegments : List (List Char) → Except String Unit
  | [] => .ok ()
  | segment :: segments =>
    if segment = ['.'] ∨ segment = ['.', '.'] then
      .error "stream path must not contain traversal segments"
    else if streamSegmentPattern segment = false then
      .error "stream path segments may contain only letters, numbers, hyphen, and underscore"
    else validateNamedSegments segments

/-- `\d{4}-\d{2}-\d{2}`; a digit beyond ASCII is left to `fromisoformat`, which refuses it. -/
def datePattern : List Char → Bool
  | [y₁, y₂, y₃, y₄, '-', m₁, m₂, '-', d₁, d₂] =>
    [y₁, y₂, y₃, y₄, m₁, m₂, d₁, d₂].all Char.isDigit
  | _ => false

def MINYEAR : ℕ := 1

/-- `date.fromisoformat` on a text of the date pattern. -/
def fromIsoFormat : List Char → Bool
  | [y₁, y₂, y₃, y₄, '-', m₁, m₂, '-', d₁, d₂] =>
    let year := Nat.ofDigitChars 10 [y₁, y₂, y₃, y₄] 0
    let month := Nat.ofDigitChars 10 [m₁, m₂] 0
    let day := Nat.ofDigitChars 10 [d₁, d₂] 0
    decide (MINYEAR ≤ year) && decide (1 ≤ month ∧ month ≤ 12) &&
      decide (1 ≤ day ∧ day ≤ daysIn month year)
  | _ => false

def validateArchiveDate (value : List Char) : Except String Unit :=
  if datePattern value = false then .error "archive stream date must match YYYY-MM-DD"
  else if fromIsoFormat value = false then
    .error "archive stream date must be a valid calendar date"
  else .ok ()

def parseRawStream : List (List Char) → Except String StreamPath
  | [_, assetId, sensorId] => do
    validateNamedSegments [assetId, sensorId]
    return ⟨.raw, assetId, sensorId, none, none⟩
  | _ => .error "stream path must match raw/\x7bassetId\x7d/\x7bsensorId\x7d"

def parseAiStream : List (List Char) → Except String StreamPath
  | [_, assetId, sensorId, processorId] => do
    validateNamedSegments [assetId, sensorId, processorId]
    return ⟨.ai, assetId, sensorId, some processorId, none⟩
  | _ => .error "stream path must match ai/\x7bassetId\x7d/\x7bsensorId\x7d/\x7bprocessorId\x7d"

def parseArchiveStream : List (List Char) → Except String StreamPath
  | [_, assetId, sensorId, date] => do
    validateNamedSegments [assetId, sensorId]
    validateArchiveDate date
    return ⟨.archive, assetId, sensorId, none, some date⟩
  | _ => .error "stream path must match archive/\x7bassetId\x7d/\x7bsensorId\x7d/\x7bdate\x7d"

def parseStreamParts (parts : List (List Char)) : Except String StreamPath :=
  match (parts.head?).map String.ofList with
  | some "raw" => parseRawStream parts
  | some "ai" => parseAiStream parts
  | some "archive" => parseArchiveStream parts
  | _ => .error "stream path prefix must be one of raw, ai, archive"

def validateStreamPath (path : String) : Except String StreamPath :=
  let text := path.toList
  let parts := text.splitOn '/'
  if text = [] then .error "stream path must be a non-empty string"
  else if text.head? = some '/' ∨ text.getLast? = some '/' then
    .error "stream path must not start or end with slash"
  else if '\\' ∈ text then .error "stream path must use forward slash separators"
  else if parts.any (· = []) then .error "stream path must not contain empty segments"
  else parseStreamParts parts

def validateStreamId (streamId : String) : Except String StreamPath :=
  let text := streamId.toList
  if text = [] then .error "stream id must be a non-empty string"
  else if '/' ∈ text ∨ '\\' ∈ text then .error "stream id must use dot separators only"
  else if text.head? = some '.' ∨ text.getLast? = some '.' then
    .error "stream id must not start or end with dot"
  else if ['.', '.'] <:+: text then .error "stream id must not contain empty segments"
  else validateStreamPath (String.ofList (text.map fun c => if c = '.' then '/' else c))

/-! ## The grammar -/

/-- The segments of a path, with the dates that are accepted as a parameter. -/
inductive Grammar (date : List Char → Bool) : List (List Char) → Prop
  | raw {assetId sensorId : List Char} : streamSegmentPattern assetId = true →
      streamSegmentPattern sensorId = true → Grammar date ["raw".toList, assetId, sensorId]
  | ai {assetId sensorId processorId : List Char} : streamSegmentPattern assetId = true →
      streamSegmentPattern sensorId = true → streamSegmentPattern processorId = true →
      Grammar date ["ai".toList, assetId, sensorId, processorId]
  | archive {assetId sensorId day : List Char} : streamSegmentPattern assetId = true →
      streamSegmentPattern sensorId = true → date day = true →
      Grammar date ["archive".toList, assetId, sensorId, day]

/-- The dates of the backend. -/
def isArchiveDate (value : List Char) : Bool := datePattern value && fromIsoFormat value

theorem pattern_ne_traversal {segment : List Char} (h : streamSegmentPattern segment = true) :
    ¬ (segment = ['.'] ∨ segment = ['.', '.']) := by
  rintro (rfl | rfl)
  · revert h
    decide
  · revert h
    decide

theorem validateSegments_eq_ok_iff {segments : List (List Char)} :
    validateSegments segments = .ok () ↔
      ∀ segment ∈ segments, streamSegmentPattern segment = true := by
  induction segments with
  | nil => exact iff_of_true rfl fun segment h => (List.not_mem_nil h).elim
  | cons segment segments ih =>
      rw [validateSegments, CheckedSteps.ite_error_eq_ok_iff, CheckedSteps.ite_error_eq_ok_iff,
        ih, List.forall_mem_cons, Bool.not_eq_false]
      constructor
      · intro h
        exact h.2
      · intro h
        exact ⟨pattern_ne_traversal h.1, h⟩

theorem validateNamedSegments_eq (segments : List (List Char)) :
    validateNamedSegments segments = validateSegments segments := by
  induction segments with
  | nil => rfl
  | cons segment segments ih => rw [validateNamedSegments, validateSegments, ih]

theorem validateArchiveDate_eq_ok_iff {value : List Char} :
    validateArchiveDate value = .ok () ↔ isArchiveDate value = true := by
  rw [validateArchiveDate, CheckedSteps.ite_error_eq_ok_iff, CheckedSteps.ite_error_eq_ok_iff,
    isArchiveDate, Bool.and_eq_true, Bool.not_eq_false, Bool.not_eq_false, and_iff_left rfl]

/-! ## Both sides accept the grammar -/

theorem head_eq {parts : List (List Char)} {text : String}
    (h : (parts.head?).map String.ofList = some text) : ∃ rest, parts = text.toList :: rest := by
  cases parts with
  | nil => cases h
  | cons segment rest =>
      refine ⟨rest, ?_⟩
      rw [← Option.some.inj h]
      exact congrArg (· :: rest) String.toList_ofList.symm

theorem parseStreamParts_ok {parts : List (List Char)} {stream : StreamPath}
    (h : parseStreamParts parts = .ok stream) :
    Grammar isArchiveDate parts ∧ stream.path = joinPath parts := by
  rw [parseStreamParts] at h
  split at h
  next hhead =>
    obtain ⟨rest, rfl⟩ := head_eq hhead
    unfold parseRawStream at h
    split at h
    next hparts =>
      cases hparts
      rw [CheckedSteps.check_bind_eq_ok_iff, validateNamedSegments_eq,
        validateSegments_eq_ok_iff] at h
      simp only [List.forall_mem_cons] at h
      obtain ⟨⟨hasset, hsensor, -⟩, hstream⟩ := h
      cases hstream
      exact ⟨Grammar.raw hasset hsensor, rfl⟩
    next => cases h
  next hhead =>
    obtain ⟨rest, rfl⟩ := head_eq hhead
    unfold parseAiStream at h
    split at h
    next hparts =>
      cases hparts
      rw [CheckedSteps.check_bind_eq_ok_iff, validateNamedSegments_eq,
        validateSegments_eq_ok_iff] at h
      simp only [List.forall_mem_cons] at h
      obtain ⟨⟨hasset, hsensor, hprocessor, -⟩, hstream⟩ := h
      cases hstream
      exact ⟨Grammar.ai hasset hsensor hprocessor, rfl⟩
    next => cases h
  next hhead =>
    obtain ⟨rest, rfl⟩ := head_eq hhead
    unfold parseArchiveStream at h
    split at h
    next hparts =>
      cases hparts
      rw [CheckedSteps.check_bind_eq_ok_iff, validateNamedSegments_eq, validateSegments_eq_ok_iff,
        CheckedSteps.check_bind_eq_ok_iff, validateArchiveDate_eq_ok_iff] at h
      simp only [List.forall_mem_cons] at h
      obtain ⟨⟨hasset, hsensor, -⟩, hdate, hstream⟩ := h
      cases hstream
      exact ⟨Grammar.archive hasset hsensor hdate, rfl⟩
    next => cases h
  next => cases h

theorem validateSegments_pair {first second : List Char}
    (hfirst : streamSegmentPattern first = true) (hsecond : streamSegmentPattern second = true) :
    validateSegments [first, second] = .ok () := by
  rw [validateSegments_eq_ok_iff]
  simp only [List.forall_mem_cons, hfirst, hsecond, List.not_mem_nil, false_implies, implies_true,
    and_true]

theorem validateSegments_triple {first second third : List Char}
    (hfirst : streamSegmentPattern first = true) (hsecond : streamSegmentPattern second = true)
    (hthird : streamSegmentPattern third = true) :
    validateSegments [first, second, third] = .ok () := by
  rw [validateSegments_eq_ok_iff]
  simp only [List.forall_mem_cons, hfirst, hsecond, hthird, List.not_mem_nil, false_implies,
    implies_true, and_true]

theorem parseStreamParts_of_grammar {parts : List (List Char)} (h : Grammar isArchiveDate parts) :
    ∃ stream, parseStreamParts parts = .ok stream := by
  cases h with
  | @raw assetId sensorId hasset hsensor =>
      have hsegments : validateNamedSegments [assetId, sensorId] = .ok () :=
        (validateNamedSegments_eq _).trans (validateSegments_pair hasset hsensor)
      exact ⟨_, CheckedSteps.check_bind_eq_ok_iff.2 ⟨hsegments, rfl⟩⟩
  | @ai assetId sensorId processorId hasset hsensor hprocessor =>
      have hsegments : validateNamedSegments [assetId, sensorId, processorId] = .ok () :=
        (validateNamedSegments_eq _).trans (validateSegments_triple hasset hsensor hprocessor)
      exact ⟨_, CheckedSteps.check_bind_eq_ok_iff.2 ⟨hsegments, rfl⟩⟩
  | @archive assetId sensorId day hasset hsensor hdate =>
      have hsegments : validateNamedSegments [assetId, sensorId] = .ok () :=
        (validateNamedSegments_eq _).trans (validateSegments_pair hasset hsensor)
      exact ⟨_, CheckedSteps.check_bind_eq_ok_iff.2 ⟨hsegments,
        CheckedSteps.check_bind_eq_ok_iff.2 ⟨validateArchiveDate_eq_ok_iff.2 hdate, rfl⟩⟩⟩

theorem pattern_ne_nil {segment : List Char} (h : streamSegmentPattern segment = true) :
    segment ≠ [] := by
  rintro rfl
  cases h

theorem parsedPath_processor {first assetId sensorId processorId : List Char}
    (h : processorId ≠ []) : (parsedPath first assetId sensorId processorId []).path =
      joinPath [first, assetId, sensorId, processorId] := by
  simp [parsedPath, h]

theorem parsedPath_day {first assetId sensorId day : List Char} (h : day ≠ []) :
    (parsedPath first assetId sensorId [] day).path = joinPath [first, assetId, sensorId, day] := by
  simp [parsedPath, h]

theorem calendarDate_ne_nil {day : List Char} (h : isCalendarDate day = true) : day ≠ [] := by
  rintro rfl
  cases h

theorem parseStreamPathSegments_ok {parts : List (List Char)} {stream : ParsedStreamPath}
    (htalkback : parts.head? ≠ some "talkback".toList)
    (h : parseStreamPathSegments parts = .ok stream) : Grammar isCalendarDate parts ∧
      stream.path = joinPath parts ∧ stream.streamID = streamIDOf stream.path := by
  rw [parseStreamPathSegments] at h
  split at h
  next hhead =>
    obtain ⟨rest, rfl⟩ := head_eq hhead
    unfold parseRawStreamPath at h
    split at h
    next hparts =>
      cases hparts
      rw [CheckedSteps.check_bind_eq_ok_iff, validateSegments_eq_ok_iff] at h
      simp only [List.forall_mem_cons] at h
      obtain ⟨⟨hasset, hsensor, -⟩, hstream⟩ := h
      cases hstream
      exact ⟨Grammar.raw hasset hsensor, rfl, rfl⟩
    next => cases h
  next hhead =>
    obtain ⟨rest, rfl⟩ := head_eq hhead
    unfold parseAIStreamPath at h
    split at h
    next hparts =>
      cases hparts
      rw [CheckedSteps.check_bind_eq_ok_iff, validateSegments_eq_ok_iff] at h
      simp only [List.forall_mem_cons] at h
      obtain ⟨⟨hasset, hsensor, hprocessor, -⟩, hstream⟩ := h
      cases hstream
      exact ⟨Grammar.ai hasset hsensor hprocessor,
        parsedPath_processor (pattern_ne_nil hprocessor), rfl⟩
    next => cases h
  next hhead =>
    obtain ⟨rest, rfl⟩ := head_eq hhead
    unfold parseArchiveStreamPath at h
    split at h
    next hparts =>
      cases hparts
      rw [CheckedSteps.check_bind_eq_ok_iff, validateSegments_eq_ok_iff,
        CheckedSteps.ite_error_eq_ok_iff, Bool.not_eq_false] at h
      simp only [List.forall_mem_cons] at h
      obtain ⟨⟨hasset, hsensor, -⟩, hdate, hstream⟩ := h
      cases hstream
      exact ⟨Grammar.archive hasset hsensor hdate, parsedPath_day (calendarDate_ne_nil hdate), rfl⟩
    next => cases h
  next hhead =>
    obtain ⟨rest, rfl⟩ := head_eq hhead
    exact absurd rfl htalkback
  next => cases h

theorem parseStreamPathSegments_of_grammar {parts : List (List Char)}
    (h : Grammar isCalendarDate parts) : ∃ stream, parseStreamPathSegments parts = .ok stream := by
  cases h with
  | @raw assetId sensorId hasset hsensor =>
      have hsegments := validateSegments_pair hasset hsensor
      exact ⟨_, CheckedSteps.check_bind_eq_ok_iff.2 ⟨hsegments, rfl⟩⟩
  | @ai assetId sensorId processorId hasset hsensor hprocessor =>
      have hsegments := validateSegments_triple hasset hsensor hprocessor
      exact ⟨_, CheckedSteps.check_bind_eq_ok_iff.2 ⟨hsegments, rfl⟩⟩
  | @archive assetId sensorId day hasset hsensor hdate =>
      have hsegments := validateSegments_pair hasset hsensor
      have hgood : ¬ isCalendarDate day = false := Bool.not_eq_false _ ▸ hdate
      exact ⟨_, CheckedSteps.check_bind_eq_ok_iff.2 ⟨hsegments,
        CheckedSteps.ite_error_eq_ok_iff.2 ⟨hgood, rfl⟩⟩⟩

/-! ## The characters of an accepted path -/

/-- A segment that the pattern or a date allows. -/
structure PlainSegment (segment : List Char) : Prop where
  nonempty : segment ≠ []
  plain : ∀ c ∈ segment, c ≠ '/' ∧ c ≠ '\\' ∧ c ≠ '.'

theorem isSegmentChar_plain {c : Char} (h : isSegmentChar c = true) :
    c ≠ '/' ∧ c ≠ '\\' ∧ c ≠ '.' := by
  have hnot : isSegmentChar '/' = false ∧ isSegmentChar '\\' = false ∧
      isSegmentChar '.' = false := ⟨rfl, rfl, rfl⟩
  refine ⟨?_, ?_, ?_⟩
  · intro hc
    exact absurd h (by rw [hc, hnot.1]; decide)
  · intro hc
    exact absurd h (by rw [hc, hnot.2.1]; decide)
  · intro hc
    exact absurd h (by rw [hc, hnot.2.2]; decide)

/-- A segment made of the characters of the pattern. -/
structure WordSegment (segment : List Char) : Prop where
  nonempty : segment ≠ []
  word : ∀ c ∈ segment, isSegmentChar c = true

theorem WordSegment.plain {segment : List Char} (h : WordSegment segment) :
    PlainSegment segment :=
  ⟨h.nonempty, fun c hc => isSegmentChar_plain (h.word c hc)⟩

theorem pattern_word {segment : List Char} (h : streamSegmentPattern segment = true) :
    WordSegment segment := by
  cases segment with
  | nil => cases h
  | cons c rest =>
      rw [streamSegmentPattern, Bool.and_eq_true, Bool.and_eq_true, List.all_eq_true] at h
      obtain ⟨⟨hfirst, -⟩, hrest⟩ := h
      refine ⟨List.cons_ne_nil c rest, fun x hx => ?_⟩
      rcases List.mem_cons.1 hx with rfl | hx
      · rw [isSegmentChar, hfirst]
        rfl
      · exact hrest x hx

theorem pattern_plain {segment : List Char} (h : streamSegmentPattern segment = true) :
    PlainSegment segment :=
  (pattern_word h).plain

theorem Grammar.forall_segments {date : List Char → Bool} {parts : List (List Char)}
    {P : List Char → Prop} (hpattern : ∀ segment, streamSegmentPattern segment = true → P segment)
    (hdate : ∀ day, date day = true → P day) (h : Grammar date parts) :
    ∀ segment ∈ parts, P segment := by
  cases h with
  | raw hasset hsensor =>
      simp only [List.forall_mem_cons]
      exact ⟨hpattern _ (by decide), hpattern _ hasset, hpattern _ hsensor,
        fun _ h => (List.not_mem_nil h).elim⟩
  | ai hasset hsensor hprocessor =>
      simp only [List.forall_mem_cons]
      exact ⟨hpattern _ (by decide), hpattern _ hasset, hpattern _ hsensor,
        hpattern _ hprocessor, fun _ h => (List.not_mem_nil h).elim⟩
  | archive hasset hsensor hday =>
      simp only [List.forall_mem_cons]
      exact ⟨hpattern _ (by decide), hpattern _ hasset, hpattern _ hsensor,
        hdate _ hday, fun _ h => (List.not_mem_nil h).elim⟩

theorem Grammar.plain {date : List Char → Bool} {parts : List (List Char)}
    (hdate : ∀ day, date day = true → PlainSegment day) (h : Grammar date parts) :
    ∀ segment ∈ parts, PlainSegment segment :=
  h.forall_segments (fun _ => pattern_plain) hdate

/-! ## Separators -/

theorem separators_of_nil_notMem {separator : Char} {text : List Char}
    (h : [] ∉ text.splitOn separator) : text ≠ [] ∧ text.head? ≠ some separator ∧
      text.getLast? ≠ some separator ∧ ¬ [separator, separator] <:+: text := by
  refine ⟨?_, ?_, ?_, ?_⟩
  · rintro rfl
    exact h List.mem_cons_self
  · intro hhead
    obtain ⟨rest, rfl⟩ := List.head?_eq_some_iff.1 hhead
    rw [← List.nil_append (separator :: rest), List.splitOn_append_cons_self] at h
    exact h List.mem_cons_self
  · intro hlast
    obtain ⟨rest, rfl⟩ := List.getLast?_eq_some_iff.1 hlast
    rw [List.splitOn_append_cons_self] at h
    exact h (List.mem_append_right _ List.mem_cons_self)
  · rintro ⟨before, after, rfl⟩
    rw [List.append_assoc, List.cons_append, List.splitOn_append_cons_self,
      List.cons_append, ← List.nil_append (separator :: _), List.splitOn_append_cons_self] at h
    exact h (List.mem_append_right _ List.mem_cons_self)

theorem mem_intercalate {separator c : Char} {parts : List (List Char)}
    (h : c ∈ [separator].intercalate parts) : c = separator ∨ ∃ segment ∈ parts, c ∈ segment := by
  induction parts with
  | nil => cases h
  | cons segment parts ih =>
      cases parts with
      | nil =>
          rw [List.intercalate_singleton] at h
          exact Or.inr ⟨segment, List.mem_cons_self, h⟩
      | cons next rest =>
          rw [List.intercalate_cons_cons, List.mem_append, List.mem_append, List.mem_singleton] at h
          rcases h with (h | h) | h
          · exact Or.inr ⟨segment, List.mem_cons_self, h⟩
          · exact Or.inl h
          · obtain h | ⟨other, hother, h⟩ := ih h
            · exact Or.inl h
            · exact Or.inr ⟨other, List.mem_cons_of_mem _ hother, h⟩

theorem mem_of_plain {separator c : Char} {text : List Char}
    (h : ∀ segment ∈ text.splitOn separator, PlainSegment segment) (hc : c ∈ text) :
    c = separator ∨ (c ≠ '/' ∧ c ≠ '\\' ∧ c ≠ '.') := by
  have htext : [separator].intercalate (text.splitOn separator) = text :=
    List.intercalate_splitOn separator
  rw [← htext] at hc
  obtain hc | ⟨segment, hsegment, hc⟩ := mem_intercalate hc
  · exact Or.inl hc
  · exact Or.inr ((h segment hsegment).plain c hc)

theorem nil_notMem_of_plain {parts : List (List Char)}
    (h : ∀ segment ∈ parts, PlainSegment segment) : [] ∉ parts :=
  fun hnil => (h [] hnil).nonempty rfl

/-! ## Dates -/

theorem isCalendarDate_shape {day : List Char} (h : isCalendarDate day = true) :
    ∃ y₁ y₂ y₃ y₄ m₁ m₂ d₁ d₂, day = [y₁, y₂, y₃, y₄, '-', m₁, m₂, '-', d₁, d₂] ∧
      [y₁, y₂, y₃, y₄, m₁, m₂, d₁, d₂].all Char.isDigit = true := by
  unfold isCalendarDate at h
  split at h
  next y₁ y₂ y₃ y₄ m₁ m₂ d₁ d₂ =>
    rw [Bool.and_eq_true, Bool.and_eq_true] at h
    exact ⟨y₁, y₂, y₃, y₄, m₁, m₂, d₁, d₂, rfl, h.1.1⟩
  next => cases h

theorem isSegmentChar_of_isDigit {c : Char} (h : c.isDigit = true) : isSegmentChar c = true := by
  rw [isSegmentChar, Char.isAlphanum, h, Bool.or_true]
  rfl

theorem isCalendarDate_word {day : List Char} (h : isCalendarDate day = true) :
    WordSegment day := by
  obtain ⟨y₁, y₂, y₃, y₄, m₁, m₂, d₁, d₂, rfl, hdigits⟩ := isCalendarDate_shape h
  refine ⟨List.cons_ne_nil _ _, ?_⟩
  have hdash : isSegmentChar '-' = true := by decide
  rw [List.all_eq_true] at hdigits
  simp only [List.forall_mem_cons] at hdigits ⊢
  obtain ⟨h₁, h₂, h₃, h₄, h₅, h₆, h₇, h₈, hnil⟩ := hdigits
  exact ⟨isSegmentChar_of_isDigit h₁, isSegmentChar_of_isDigit h₂, isSegmentChar_of_isDigit h₃,
    isSegmentChar_of_isDigit h₄, hdash, isSegmentChar_of_isDigit h₅, isSegmentChar_of_isDigit h₆,
    hdash, isSegmentChar_of_isDigit h₇, isSegmentChar_of_isDigit h₈,
    fun _ h => (List.not_mem_nil h).elim⟩

theorem isCalendarDate_plain {day : List Char} (h : isCalendarDate day = true) :
    PlainSegment day :=
  (isCalendarDate_word h).plain

theorem digit_eq_zero {c : Char} (h : c.isDigit = true) : c.toNat - '0'.toNat = 0 ↔ c = '0' := by
  have hlow : '0'.toNat ≤ c.toNat := by
    rw [Char.isDigit, Bool.and_eq_true, decide_eq_true_iff] at h
    exact h.1
  rw [← Char.toNat_inj]
  omega

/-- Four digits make the year 0 only when each is a zero. -/
theorem year_eq_zero {y₁ y₂ y₃ y₄ : Char}
    (h : [y₁, y₂, y₃, y₄].all Char.isDigit = true) :
    Nat.ofDigitChars 10 [y₁, y₂, y₃, y₄] 0 = 0 ↔ [y₁, y₂, y₃, y₄] = "0000".toList := by
  rw [List.all_eq_true] at h
  simp only [List.forall_mem_cons] at h
  obtain ⟨h₁, h₂, h₃, h₄, -⟩ := h
  have hlist : [y₁, y₂, y₃, y₄] = "0000".toList ↔ y₁ = '0' ∧ y₂ = '0' ∧ y₃ = '0' ∧ y₄ = '0' := by
    rw [show "0000".toList = ['0', '0', '0', '0'] from rfl]
    simp only [List.cons.injEq, and_true]
  rw [hlist, ← digit_eq_zero h₁, ← digit_eq_zero h₂, ← digit_eq_zero h₃, ← digit_eq_zero h₄]
  simp only [Nat.ofDigitChars_cons, Nat.ofDigitChars_nil]
  omega

/-- The backend takes the dates of the media service but those of the year 0. -/
theorem isArchiveDate_iff {day : List Char} : isArchiveDate day = true ↔
    isCalendarDate day = true ∧ day.take 4 ≠ "0000".toList := by
  by_cases hpattern : datePattern day = true
  · unfold datePattern at hpattern
    split at hpattern
    next y₁ y₂ y₃ y₄ m₁ m₂ d₁ d₂ =>
      have hyear : [y₁, y₂, y₃, y₄].all Char.isDigit = true := by
        rw [List.all_eq_true] at hpattern ⊢
        intro c hc
        exact hpattern c (List.mem_append_left [m₁, m₂, d₁, d₂] hc)
      have htake : [y₁, y₂, y₃, y₄, '-', m₁, m₂, '-', d₁, d₂].take 4 = [y₁, y₂, y₃, y₄] := rfl
      have hpositive : MINYEAR ≤ Nat.ofDigitChars 10 [y₁, y₂, y₃, y₄] 0 ↔
          [y₁, y₂, y₃, y₄] ≠ "0000".toList := by
        rw [ne_eq, ← year_eq_zero hyear, MINYEAR, Nat.one_le_iff_ne_zero]
      rw [htake, ← hpositive]
      simp only [isArchiveDate, datePattern, fromIsoFormat, isCalendarDate, hpattern,
        Bool.true_and, Bool.and_eq_true, decide_eq_true_iff]
      constructor
      · intro h
        exact ⟨⟨h.1.2, h.2⟩, h.1.1⟩
      · intro h
        exact ⟨⟨h.2, h.1.1⟩, h.1.2⟩
    next => cases hpattern
  · apply iff_of_false
    · intro h
      rw [isArchiveDate, Bool.and_eq_true] at h
      exact hpattern h.1
    · rintro ⟨hdate, -⟩
      obtain ⟨y₁, y₂, y₃, y₄, m₁, m₂, d₁, d₂, rfl, hdigits⟩ := isCalendarDate_shape hdate
      exact hpattern hdigits

/-- An archive path of the year 0. -/
def YearZeroArchive (parts : List (List Char)) : Prop :=
  ∃ assetId sensorId day, parts = ["archive".toList, assetId, sensorId, day] ∧
    streamSegmentPattern assetId = true ∧ streamSegmentPattern sensorId = true ∧
    isCalendarDate day = true ∧ day.take 4 = "0000".toList

theorem grammar_archiveDate_iff {parts : List (List Char)} : Grammar isArchiveDate parts ↔
    Grammar isCalendarDate parts ∧ ¬ YearZeroArchive parts := by
  constructor
  · intro h
    cases h with
    | raw hasset hsensor =>
        refine ⟨.raw hasset hsensor, ?_⟩
        rintro ⟨_, _, _, hparts, -⟩
        cases hparts
    | ai hasset hsensor hprocessor =>
        refine ⟨.ai hasset hsensor hprocessor, ?_⟩
        rintro ⟨_, _, _, hparts, -⟩
        exact absurd (List.cons.inj hparts).1 (by decide)
    | archive hasset hsensor hday =>
        obtain ⟨hdate, hyear⟩ := isArchiveDate_iff.1 hday
        refine ⟨.archive hasset hsensor hdate, ?_⟩
        rintro ⟨_, _, _, hparts, -, -, -, hzero⟩
        cases hparts
        exact hyear hzero
  · rintro ⟨h, hzero⟩
    cases h with
    | raw hasset hsensor => exact .raw hasset hsensor
    | ai hasset hsensor hprocessor => exact .ai hasset hsensor hprocessor
    | archive hasset hsensor hday =>
        apply Grammar.archive hasset hsensor
        rw [isArchiveDate_iff]
        exact ⟨hday, fun hyear => hzero ⟨_, _, _, rfl, hasset, hsensor, hday, hyear⟩⟩

/-! ## Paths -/

/-- No white space at either end. -/
structure Unpadded (text : List Char) : Prop where
  first : ∀ c ∈ text.head?, isSpace c = false
  last : ∀ c ∈ text.getLast?, isSpace c = false

theorem Unpadded.trimSpace_eq {text : List Char} (h : Unpadded text) : trimSpace text = text := by
  have hdrop : ∀ text : List Char, (∀ c ∈ text.head?, isSpace c = false) →
      text.dropWhile isSpace = text := by
    intro text hfirst
    cases text with
    | nil => rfl
    | cons c rest =>
        apply List.dropWhile_cons_of_neg
        rw [hfirst c rfl]
        exact Bool.false_ne_true
  rw [trimSpace, hdrop text h.first, hdrop, List.reverse_reverse]
  rw [List.head?_reverse]
  exact h.last

theorem joinPath_splitOn (text : String) : joinPath (text.toList.splitOn '/') = text := by
  rw [joinPath, List.intercalate_splitOn, String.ofList_toList]

theorem parseStreamPath_ok {text : String} {stream : ParsedStreamPath}
    (hpad : Unpadded text.toList)
    (htalkback : (text.toList.splitOn '/').head? ≠ some "talkback".toList)
    (h : parseStreamPath text = .ok stream) :
    Grammar isCalendarDate (text.toList.splitOn '/') ∧ stream.path = text ∧
      stream.streamID = streamIDOf text := by
  rw [parseStreamPath, CheckedSteps.bind_eq_ok_iff] at h
  obtain ⟨trimmed, htrimmed, h⟩ := h
  rw [newStreamPath, hpad.trimSpace_eq, CheckedSteps.ite_error_eq_ok_iff,
    CheckedSteps.ite_error_eq_ok_iff] at htrimmed
  obtain ⟨-, -, htrimmed⟩ := htrimmed
  cases htrimmed
  rw [CheckedSteps.ite_error_eq_ok_iff] at h
  obtain ⟨hgrammar, hpath, hid⟩ := parseStreamPathSegments_ok htalkback h.2
  rw [joinPath_splitOn] at hpath
  exact ⟨hgrammar, hpath, hpath ▸ hid⟩

theorem parseStreamPath_of_grammar {text : String} (hpad : Unpadded text.toList)
    (h : Grammar isCalendarDate (text.toList.splitOn '/')) :
    ∃ stream, parseStreamPath text = .ok stream := by
  have hnil := nil_notMem_of_plain (h.plain fun _ => isCalendarDate_plain)
  obtain ⟨hempty, hhead, -, -⟩ := separators_of_nil_notMem hnil
  obtain ⟨stream, hstream⟩ := parseStreamPathSegments_of_grammar h
  refine ⟨stream, ?_⟩
  rw [parseStreamPath, newStreamPath, hpad.trimSpace_eq, if_neg hempty, if_neg hhead]
  exact CheckedSteps.ite_error_eq_ok_iff.2 ⟨hnil, hstream⟩

theorem validateStreamPath_ok {text : String} {stream : StreamPath}
    (h : validateStreamPath text = .ok stream) :
    Grammar isArchiveDate (text.toList.splitOn '/') ∧ stream.path = text := by
  rw [validateStreamPath] at h
  simp only [CheckedSteps.ite_error_eq_ok_iff] at h
  obtain ⟨hgrammar, hpath⟩ := parseStreamParts_ok h.2.2.2.2
  exact ⟨hgrammar, hpath.trans (joinPath_splitOn text)⟩

theorem isArchiveDate_plain {day : List Char} (h : isArchiveDate day = true) : PlainSegment day :=
  isCalendarDate_plain (isArchiveDate_iff.1 h).1

theorem validateStreamPath_of_grammar {text : String}
    (h : Grammar isArchiveDate (text.toList.splitOn '/')) :
    ∃ stream, validateStreamPath text = .ok stream := by
  have hplain := h.plain fun _ => isArchiveDate_plain
  have hnil := nil_notMem_of_plain hplain
  obtain ⟨hempty, hhead, hlast, -⟩ := separators_of_nil_notMem hnil
  have hslash : '\\' ∉ text.toList := by
    intro hmem
    rcases mem_of_plain hplain hmem with he | he
    · exact absurd he (by decide)
    · exact he.2.1 rfl
  obtain ⟨stream, hstream⟩ := parseStreamParts_of_grammar h
  refine ⟨stream, ?_⟩
  rw [validateStreamPath]
  simp only [CheckedSteps.ite_error_eq_ok_iff]
  refine ⟨hempty, not_or.2 ⟨hhead, hlast⟩, hslash, ?_, hstream⟩
  rw [List.any_eq_true]
  intro hany
  obtain ⟨part, hpart, hnone⟩ := hany
  exact hnil (of_decide_eq_true hnone ▸ hpart)

/-! ## Agreement -/

/-- Both accept, with the same path and stream id, or both reject. -/
def Agree (backend : Except String StreamPath) (media : Except String ParsedStreamPath) : Prop :=
  match backend, media with
  | .ok stream, .ok parsed => stream.path = parsed.path ∧ stream.streamId = parsed.streamID
  | .error _, .error _ => True
  | _, _ => False

instance agreeDecidable : ∀ (backend : Except String StreamPath)
    (media : Except String ParsedStreamPath), Decidable (Agree backend media)
  | .ok stream, .ok parsed => inferInstanceAs
      (Decidable (stream.path = parsed.path ∧ stream.streamId = parsed.streamID))
  | .error _, .error _ => inferInstanceAs (Decidable True)
  | .ok _, .error _ => inferInstanceAs (Decidable False)
  | .error _, .ok _ => inferInstanceAs (Decidable False)

theorem agree_of_rejected {backend : Except String StreamPath}
    {media : Except String ParsedStreamPath} (hbackend : ∀ stream, backend ≠ .ok stream)
    (hmedia : ∀ stream, media ≠ .ok stream) : Agree backend media := by
  cases backend with
  | ok stream => exact absurd rfl (hbackend stream)
  | error message => cases media with
    | ok parsed => exact absurd rfl (hmedia parsed)
    | error message' => trivial

theorem path_agree_iff {text : String} (hpad : Unpadded text.toList)
    (htalkback : (text.toList.splitOn '/').head? ≠ some "talkback".toList) :
    Agree (validateStreamPath text) (parseStreamPath text) ↔
      ¬ YearZeroArchive (text.toList.splitOn '/') := by
  by_cases hcalendar : Grammar isCalendarDate (text.toList.splitOn '/')
  · obtain ⟨parsed, hparsed⟩ := parseStreamPath_of_grammar hpad hcalendar
    obtain ⟨-, hpath, hid⟩ := parseStreamPath_ok hpad htalkback hparsed
    constructor
    · intro hagree hzero
      cases hbackend : validateStreamPath text with
      | ok stream =>
          have hgrammar := (validateStreamPath_ok hbackend).1
          exact (grammar_archiveDate_iff.1 hgrammar).2 hzero
      | error message =>
          rw [hbackend, hparsed] at hagree
          exact hagree
    · intro hzero
      obtain ⟨stream, hstream⟩ :=
        validateStreamPath_of_grammar (grammar_archiveDate_iff.2 ⟨hcalendar, hzero⟩)
      have hsame := (validateStreamPath_ok hstream).2
      rw [hstream, hparsed]
      exact ⟨hsame.trans hpath.symm, by rw [StreamPath.streamId, hsame, hid]⟩
  · apply iff_of_true
    · apply agree_of_rejected
      · intro stream hstream
        exact hcalendar (grammar_archiveDate_iff.1 (validateStreamPath_ok hstream).1).1
      · intro parsed hparsed
        exact hcalendar (parseStreamPath_ok hpad htalkback hparsed).1
    · rintro ⟨assetId, sensorId, day, hparts, hasset, hsensor, hday, -⟩
      exact hcalendar (hparts ▸ Grammar.archive hasset hsensor hday)

/-! ## Ids -/

def dotToSlash (c : Char) : Char := if c = '.' then '/' else c

theorem splitOn_map_dotToSlash {text : List Char} (h : '/' ∉ text) :
    (text.map dotToSlash).splitOn '/' = text.splitOn '.' := by
  induction text with
  | nil => rfl
  | cons c rest ih =>
      rw [List.mem_cons, not_or] at h
      rw [List.map_cons, List.splitOn_cons_eq_if_modifyHead, List.splitOn_cons_eq_if_modifyHead,
        ih h.2]
      by_cases hc : c = '.'
      · subst hc
        rfl
      · have hsame : dotToSlash c = c := if_neg hc
        have hslash : (c == '/') = false := beq_eq_false_iff_ne.2 (Ne.symm h.1)
        have hdot : (c == '.') = false := beq_eq_false_iff_ne.2 hc
        rw [hsame, hslash, hdot]

theorem Unpadded.map_dotToSlash {text : List Char} (h : Unpadded text) :
    Unpadded (text.map dotToSlash) := by
  have hspace : ∀ c, isSpace c = false → isSpace (dotToSlash c) = false := by
    intro c hc
    by_cases hdot : c = '.'
    · subst hdot
      decide
    · rw [dotToSlash, if_neg hdot]
      exact hc
  constructor
  · intro c hc
    rw [List.head?_map, Option.mem_def, Option.map_eq_some_iff] at hc
    obtain ⟨x, hx, rfl⟩ := hc
    exact hspace x (h.first x hx)
  · intro c hc
    rw [List.getLast?_map, Option.mem_def, Option.map_eq_some_iff] at hc
    obtain ⟨x, hx, rfl⟩ := hc
    exact hspace x (h.last x hx)

/-- The checks that come before the path of an id is read. -/
structure IdChecks (text : List Char) : Prop where
  nonempty : text ≠ []
  separators : ¬ ('/' ∈ text ∨ '\\' ∈ text)
  ends : ¬ (text.head? = some '.' ∨ text.getLast? = some '.')
  segments : ¬ ['.', '.'] <:+: text

theorem validateStreamId_of_checks {streamId : String} (h : IdChecks streamId.toList) :
    validateStreamId streamId =
      validateStreamPath (String.ofList (streamId.toList.map dotToSlash)) := by
  rw [validateStreamId, if_neg h.nonempty, if_neg h.separators, if_neg h.ends, if_neg h.segments]
  rfl

theorem IdChecks.of_validateStreamId {streamId : String} {stream : StreamPath}
    (h : validateStreamId streamId = .ok stream) : IdChecks streamId.toList := by
  rw [validateStreamId] at h
  simp only [CheckedSteps.ite_error_eq_ok_iff] at h
  exact ⟨h.1, h.2.1, h.2.2.1, h.2.2.2.1⟩

theorem parseStreamID_of_checks {streamId : String} (hpad : Unpadded streamId.toList)
    (h : IdChecks streamId.toList) : parseStreamID streamId =
      parseStreamPath (String.ofList (streamId.toList.map dotToSlash)) := by
  rw [parseStreamID, hpad.trimSpace_eq, if_neg h.nonempty, if_neg h.separators, if_neg h.ends,
    if_neg h.segments]
  rfl

theorem IdChecks.of_parseStreamID {streamId : String} {parsed : ParsedStreamPath}
    (hpad : Unpadded streamId.toList) (h : parseStreamID streamId = .ok parsed) :
    IdChecks streamId.toList := by
  rw [parseStreamID, hpad.trimSpace_eq] at h
  simp only [CheckedSteps.ite_error_eq_ok_iff] at h
  exact ⟨h.1, h.2.1, h.2.2.1, h.2.2.2.1⟩

theorem IdChecks.of_plain {text : List Char}
    (h : ∀ segment ∈ text.splitOn '.', PlainSegment segment) : IdChecks text := by
  obtain ⟨hempty, hhead, hlast, hdouble⟩ := separators_of_nil_notMem (nil_notMem_of_plain h)
  refine ⟨hempty, ?_, not_or.2 ⟨hhead, hlast⟩, hdouble⟩
  rintro (hmem | hmem)
  · rcases mem_of_plain h hmem with he | he
    · exact absurd he (by decide)
    · exact he.1 rfl
  · rcases mem_of_plain h hmem with he | he
    · exact absurd he (by decide)
    · exact he.2.1 rfl

theorem id_agree_iff {streamId : String} (hpad : Unpadded streamId.toList)
    (htalkback : (streamId.toList.splitOn '.').head? ≠ some "talkback".toList) :
    Agree (validateStreamId streamId) (parseStreamID streamId) ↔
      ¬ YearZeroArchive (streamId.toList.splitOn '.') := by
  by_cases hchecks : IdChecks streamId.toList
  · have hslash : '/' ∉ streamId.toList := fun hmem => hchecks.separators (Or.inl hmem)
    have hsplit : (String.ofList (streamId.toList.map dotToSlash)).toList.splitOn '/' =
        streamId.toList.splitOn '.' := by
      rw [String.toList_ofList, splitOn_map_dotToSlash hslash]
    have hpadded : Unpadded (String.ofList (streamId.toList.map dotToSlash)).toList := by
      rw [String.toList_ofList]
      exact hpad.map_dotToSlash
    rw [validateStreamId_of_checks hchecks, parseStreamID_of_checks hpad hchecks,
      path_agree_iff hpadded (hsplit ▸ htalkback), hsplit]
  · apply iff_of_true
    · apply agree_of_rejected
      · intro stream hstream
        exact hchecks (.of_validateStreamId hstream)
      · intro parsed hparsed
        exact hchecks (.of_parseStreamID hpad hparsed)
    · rintro ⟨assetId, sensorId, day, hparts, hasset, hsensor, hday, -⟩
      apply hchecks
      apply IdChecks.of_plain
      rw [hparts]
      exact (Grammar.archive hasset hsensor hday).plain fun _ => isCalendarDate_plain

/-- Away from talkback paths the two services agree on a text without white space at its ends, read
as a path or as an id, exactly when it is not an archive path of the year 0. -/
theorem one_grammar_iff (text : String) (hpad : Unpadded text.toList) :
    ((text.toList.splitOn '/').head? ≠ some "talkback".toList →
      (Agree (validateStreamPath text) (parseStreamPath text) ↔
        ¬ YearZeroArchive (text.toList.splitOn '/'))) ∧
    ((text.toList.splitOn '.').head? ≠ some "talkback".toList →
      (Agree (validateStreamId text) (parseStreamID text) ↔
        ¬ YearZeroArchive (text.toList.splitOn '.'))) :=
  ⟨path_agree_iff hpad, id_agree_iff hpad⟩

theorem one_grammar_counterexample :
    ¬ Agree (validateStreamPath "archive/a/b/0000-01-01") (parseStreamPath "archive/a/b/0000-01-01") ∧
      ¬ Agree (validateStreamId "archive.a.b.0000-01-01")
        (parseStreamID "archive.a.b.0000-01-01") := by
  constructor
  · decide +kernel
  · decide +kernel

theorem one_grammar_raw :
    Agree (validateStreamPath "raw/drone-01/front") (parseStreamPath "raw/drone-01/front") := by
  have hpad : Unpadded "raw/drone-01/front".toList := by
    constructor
    · intro c hc
      have hfirst : some 'r' = some c := hc
      rw [← Option.some.inj hfirst]
      decide
    · intro c hc
      have hlast : some 't' = some c := hc
      rw [← Option.some.inj hlast]
      decide
  have hparts : "raw/drone-01/front".toList.splitOn '/' =
      ["raw".toList, "drone-01".toList, "front".toList] := by decide +kernel
  refine ((one_grammar_iff "raw/drone-01/front" hpad).1 ?_).2 ?_
  · rw [hparts]
    decide
  · rintro ⟨_, _, _, h, -⟩
    rw [hparts] at h
    cases h

end GcsSaker.StreamModel
