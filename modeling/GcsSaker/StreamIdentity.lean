import GcsSaker.StreamPathGrammar
import Mathlib

/-!
# Stream identity

The publish side names a stream by its path and the playback side by its id. Either text of an
accepted stream is accepted again, with the same result, so that the two name the same streams.
-/

namespace GcsSaker.StreamIdentity
open StreamPath StreamModel

/-! ## The shapes of accepted segments -/

/-- The grammar of `StreamModel`, and the talkback paths that only the media service knows. -/
inductive Shape : List (List Char) → Prop
  | stream {parts : List (List Char)} : Grammar isCalendarDate parts → Shape parts
  | talkback {assetID sensorID operatorID : List Char} : streamSegmentPattern assetID = true →
      streamSegmentPattern sensorID = true → streamSegmentPattern operatorID = true →
      Shape ["talkback".toList, "raw".toList, assetID, sensorID, operatorID]

theorem Shape.word {parts : List (List Char)} (h : Shape parts) :
    ∀ segment ∈ parts, WordSegment segment := by
  cases h with
  | stream h => exact h.forall_segments (fun _ => pattern_word) fun _ => isCalendarDate_word
  | talkback hasset hsensor hoperator =>
      simp only [List.forall_mem_cons]
      exact ⟨pattern_word (by decide), pattern_word (by decide), pattern_word hasset,
        pattern_word hsensor, pattern_word hoperator, fun _ h => (List.not_mem_nil h).elim⟩

theorem Shape.plain {parts : List (List Char)} (h : Shape parts) :
    ∀ segment ∈ parts, PlainSegment segment :=
  fun segment hsegment => (h.word segment hsegment).plain

theorem Shape.ne_nil {parts : List (List Char)} (h : Shape parts) : parts ≠ [] := by
  rintro rfl
  cases h with
  | stream h => cases h

/-- What the texts of a parsed path are. -/
structure Texts (parts : List (List Char)) (parsed : ParsedStreamPath) : Prop where
  path : parsed.path = joinPath parts
  streamID : parsed.streamID = streamIDOf (joinPath parts)

theorem parseTalkbackStreamPath_ok {rest : List (List Char)} {parsed : ParsedStreamPath}
    (h : parseTalkbackStreamPath ("talkback".toList :: rest) = .ok parsed) :
    Shape ("talkback".toList :: rest) ∧ Texts ("talkback".toList :: rest) parsed := by
  unfold parseTalkbackStreamPath at h
  split at h
  next hparts =>
    cases hparts
    rw [CheckedSteps.ite_error_eq_ok_iff, CheckedSteps.check_bind_eq_ok_iff,
      validateSegments_eq_ok_iff, not_ne_iff] at h
    simp only [List.forall_mem_cons] at h
    obtain ⟨hraw, ⟨hasset, hsensor, hoperator, -⟩, hparsed⟩ := h
    subst hraw
    cases hparsed
    exact ⟨Shape.talkback hasset hsensor hoperator, rfl, rfl⟩
  next => cases h

theorem parseStreamPathSegments_shape {parts : List (List Char)} {parsed : ParsedStreamPath}
    (h : parseStreamPathSegments parts = .ok parsed) : Shape parts ∧ Texts parts parsed := by
  by_cases htalkback : parts.head? = some "talkback".toList
  · obtain ⟨rest, rfl⟩ := List.head?_eq_some_iff.1 htalkback
    exact parseTalkbackStreamPath_ok h
  · obtain ⟨hgrammar, hpath, hid⟩ := parseStreamPathSegments_ok htalkback h
    exact ⟨Shape.stream hgrammar, hpath, hpath ▸ hid⟩

/-! ## Texts without white space -/

theorem isSegmentChar_range {c : Char} (h : isSegmentChar c = true) :
    33 ≤ c.toNat ∧ c.toNat ≤ 126 := by
  have hdash : '-'.toNat = 45 ∧ '_'.toNat = 95 := ⟨rfl, rfl⟩
  rw [isSegmentChar, Bool.or_eq_true, Bool.or_eq_true, decide_eq_true_iff, decide_eq_true_iff] at h
  rcases h with (h | rfl) | rfl
  · have hupper : 'A'.val.toNat = 65 ∧ 'Z'.val.toNat = 90 := ⟨rfl, rfl⟩
    have hlower : 'a'.val.toNat = 97 ∧ 'z'.val.toNat = 122 := ⟨rfl, rfl⟩
    have hdigit : '0'.val.toNat = 48 ∧ '9'.val.toNat = 57 := ⟨rfl, rfl⟩
    simp only [Char.isAlphanum, Char.isAlpha, Char.isUpper, Char.isLower, Char.isDigit,
      Bool.or_eq_true, Bool.and_eq_true, decide_eq_true_iff, ge_iff_le,
      UInt32.le_iff_toNat_le] at h
    rw [Char.toNat]
    omega
  · omega
  · omega

theorem isSpace_of_isSegmentChar {c : Char} (h : isSegmentChar c = true) : isSpace c = false := by
  obtain ⟨hlow, hhigh⟩ := isSegmentChar_range h
  simp only [isSpace, List.mem_cons, List.not_mem_nil, or_false, Bool.or_eq_false_iff,
    Bool.and_eq_false_iff, decide_eq_false_iff_not]
  omega

theorem Unpadded.of_forall {text : List Char} (h : ∀ c ∈ text, isSpace c = false) :
    Unpadded text :=
  ⟨fun c hc => h c (List.mem_of_mem_head? hc), fun c hc => h c (List.mem_of_mem_getLast? hc)⟩

/-- The characters of segments that are joined by a separator. -/
theorem mem_joined {separator c : Char} {parts : List (List Char)}
    (hword : ∀ segment ∈ parts, WordSegment segment) (hc : c ∈ [separator].intercalate parts) :
    c = separator ∨ isSegmentChar c = true := by
  obtain hc | ⟨segment, hsegment, hc⟩ := mem_intercalate hc
  · exact Or.inl hc
  · exact Or.inr ((hword segment hsegment).word c hc)

theorem unpadded_joined {separator : Char} {parts : List (List Char)}
    (hspace : isSpace separator = false) (hword : ∀ segment ∈ parts, WordSegment segment) :
    Unpadded ([separator].intercalate parts) := by
  apply Unpadded.of_forall
  intro c hc
  rcases mem_joined hword hc with rfl | hc
  · exact hspace
  · exact isSpace_of_isSegmentChar hc

theorem splitOn_joined {separator : Char} {parts : List (List Char)} (hne : parts ≠ [])
    (hseparator : isSegmentChar separator = false)
    (hword : ∀ segment ∈ parts, WordSegment segment) :
    ([separator].intercalate parts).splitOn separator = parts := by
  apply List.splitOn_intercalate separator ?_ hne
  intro segment hsegment hmem
  have htrue := (hword segment hsegment).word separator hmem
  rw [hseparator] at htrue
  exact Bool.false_ne_true htrue

/-! ## The path and the id of a shape -/

theorem parseStreamPath_joinPath {parts : List (List Char)} (h : Shape parts) :
    parseStreamPath (joinPath parts) = parseStreamPathSegments parts := by
  have hsplit := splitOn_joined h.ne_nil (by decide : isSegmentChar '/' = false) h.word
  have hpad := unpadded_joined (by decide : isSpace '/' = false) h.word
  have hnil := nil_notMem_of_plain h.plain
  obtain ⟨hempty, hhead, -, -⟩ := separators_of_nil_notMem (hsplit.symm ▸ hnil)
  rw [parseStreamPath, newStreamPath, joinPath, String.toList_ofList, hpad.trimSpace_eq,
    if_neg hempty, if_neg hhead]
  change (if [] ∈ (['/'].intercalate parts).splitOn '/' then _ else _) = _
  rw [hsplit, if_neg hnil]

theorem map_intercalate {f : Char → Char} {separator : Char} {parts : List (List Char)}
    (hfix : ∀ segment ∈ parts, ∀ c ∈ segment, f c = c) :
    ([separator].intercalate parts).map f = [f separator].intercalate parts := by
  induction parts with
  | nil => rfl
  | cons segment rest ih =>
      have hsegment : segment.map f = segment :=
        (List.map_congr_left (hfix segment List.mem_cons_self)).trans (List.map_id' segment)
      cases rest with
      | nil => rw [List.intercalate_singleton, List.intercalate_singleton, hsegment]
      | cons next rest =>
          rw [List.intercalate_cons_cons, List.intercalate_cons_cons, List.map_append,
            List.map_append, hsegment, ih fun other hother => hfix other (List.mem_cons_of_mem _ hother)]
          rfl

theorem streamIDOf_joinPath {parts : List (List Char)} (h : Shape parts) :
    (streamIDOf (joinPath parts)).toList = ['.'].intercalate parts := by
  rw [streamIDOf, String.toList_map, joinPath, String.toList_ofList]
  apply map_intercalate
  intro segment hsegment c hc
  exact if_neg ((h.plain segment hsegment).plain c hc).1

theorem parseStreamID_streamIDOf {parts : List (List Char)} (h : Shape parts) :
    parseStreamID (streamIDOf (joinPath parts)) = parseStreamPath (joinPath parts) := by
  have htext := streamIDOf_joinPath h
  have hsplit := splitOn_joined h.ne_nil (by decide : isSegmentChar '.' = false) h.word
  have hchecks : IdChecks (streamIDOf (joinPath parts)).toList := by
    apply IdChecks.of_plain
    rw [htext, hsplit]
    exact h.plain
  have hpad : Unpadded (streamIDOf (joinPath parts)).toList := by
    rw [htext]
    exact unpadded_joined (by decide) h.word
  have hback : (['.'].intercalate parts).map dotToSlash = ['/'].intercalate parts := by
    apply map_intercalate
    intro segment hsegment c hc
    exact if_neg ((h.plain segment hsegment).plain c hc).2.2
  rw [parseStreamID_of_checks hpad hchecks, htext, hback]
  rfl

/-! ## Accepted texts -/

/-- One of the two parsers takes the text for `parsed`. -/
def Accepted (text : String) (parsed : ParsedStreamPath) : Prop :=
  parseStreamPath text = .ok parsed ∨ parseStreamID text = .ok parsed

theorem parseStreamPath_segments {text : String} {parsed : ParsedStreamPath}
    (h : parseStreamPath text = .ok parsed) :
    ∃ parts, parseStreamPathSegments parts = .ok parsed := by
  rw [parseStreamPath, CheckedSteps.bind_eq_ok_iff] at h
  obtain ⟨streamPath, -, h⟩ := h
  rw [CheckedSteps.ite_error_eq_ok_iff] at h
  exact ⟨_, h.2⟩

theorem parseStreamID_path {text : String} {parsed : ParsedStreamPath}
    (h : parseStreamID text = .ok parsed) : ∃ path, parseStreamPath path = .ok parsed := by
  rw [parseStreamID] at h
  simp only [CheckedSteps.ite_error_eq_ok_iff] at h
  exact ⟨_, h.2.2.2.2⟩

theorem Accepted.segments {text : String} {parsed : ParsedStreamPath} (h : Accepted text parsed) :
    ∃ parts, parseStreamPathSegments parts = .ok parsed := by
  rcases h with h | h
  · exact parseStreamPath_segments h
  · obtain ⟨path, hpath⟩ := parseStreamID_path h
    exact parseStreamPath_segments hpath

/-- What is accepted once is accepted again, by its path and by its id. -/
theorem Accepted.round_trip {text : String} {parsed : ParsedStreamPath}
    (h : Accepted text parsed) : parseStreamPath parsed.path = .ok parsed ∧
      parseStreamID parsed.streamID = .ok parsed := by
  obtain ⟨parts, hparts⟩ := h.segments
  obtain ⟨hshape, htexts⟩ := parseStreamPathSegments_shape hparts
  rw [htexts.path, htexts.streamID, parseStreamID_streamIDOf hshape,
    parseStreamPath_joinPath hshape]
  exact ⟨hparts, hparts⟩

theorem Accepted.segment_ne {text : String} {parsed : ParsedStreamPath} (h : Accepted text parsed)
    {segment : List Char} (hsegment : segment ∈ parsed.path.toList.splitOn '/') :
    segment ≠ [] ∧ segment ≠ ['.'] ∧ segment ≠ ['.', '.'] := by
  obtain ⟨parts, hparts⟩ := h.segments
  obtain ⟨hshape, htexts⟩ := parseStreamPathSegments_shape hparts
  rw [htexts.path, joinPath, String.toList_ofList,
    splitOn_joined hshape.ne_nil (by decide) hshape.word] at hsegment
  have hplain := hshape.plain segment hsegment
  refine ⟨hplain.nonempty, ?_, ?_⟩
  · rintro rfl
    exact (hplain.plain '.' List.mem_cons_self).2.2 rfl
  · rintro rfl
    exact (hplain.plain '.' List.mem_cons_self).2.2 rfl

theorem Accepted.streamID_eq_iff {text other : String} {parsed parsed' : ParsedStreamPath}
    (h : Accepted text parsed) (h' : Accepted other parsed') :
    parsed.streamID = parsed'.streamID ↔ parsed.path = parsed'.path := by
  obtain ⟨hpath, hid⟩ := h.round_trip
  obtain ⟨hpath', hid'⟩ := h'.round_trip
  constructor
  · intro hsame
    rw [hsame, hid'] at hid
    exact congrArg ParsedStreamPath.path (Except.ok.inj hid).symm
  · intro hsame
    rw [hsame, hpath'] at hpath
    exact congrArg ParsedStreamPath.streamID (Except.ok.inj hpath).symm

/-- The path and the id of an accepted text are read back as the same stream, each determines the
other, and no segment of the path is empty or a traversal. -/
theorem stream_identity {text : String} {parsed : ParsedStreamPath} (h : Accepted text parsed) :
    parseStreamPath parsed.path = .ok parsed ∧ parseStreamID parsed.streamID = .ok parsed ∧
    (∀ other parsed', Accepted other parsed' →
      (parsed.streamID = parsed'.streamID ↔ parsed.path = parsed'.path)) ∧
    ∀ segment ∈ parsed.path.toList.splitOn '/',
      segment ≠ [] ∧ segment ≠ ['.'] ∧ segment ≠ ['.', '.'] :=
  ⟨h.round_trip.1, h.round_trip.2, fun _ _ h' => h.streamID_eq_iff h', fun _ => h.segment_ne⟩

theorem stream_identity_talkback :
    parseStreamPath "talkback/raw/drone-01/front/operator" =
        parseStreamID "talkback.raw.drone-01.front.operator" ∧
      parseStreamID " talkback.raw.drone-01.front.operator" =
        parseStreamID "talkback.raw.drone-01.front.operator" := by
  have haccepted : Accepted " talkback.raw.drone-01.front.operator"
      ⟨"talkback", "drone-01", "front", "operator", "", "talkback/raw/drone-01/front/operator",
        "talkback.raw.drone-01.front.operator"⟩ :=
    Or.inr (by decide +kernel)
  have hidentity := stream_identity haccepted
  exact ⟨hidentity.1.trans hidentity.2.1.symm, (haccepted.resolve_left (by decide +kernel)).trans
    hidentity.2.1.symm⟩

end GcsSaker.StreamIdentity
