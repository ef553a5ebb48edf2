import GcsSaker.ChunkedParsing
import GcsSaker.EcmaNumber
import GcsSaker.JvmText

/-!
# The text of an operational event stream

Blocks of lines end with an empty line, and a block with an event and data is a message. The text
arrives in chunks, which are cut anywhere. It is given by its UTF-16 code units.
-/

namespace GcsSaker.EventStreamText

open ChunkedParsing (feed Incremental feed_messages)

def CR : UInt16 := 13

def LF : UInt16 := 10

def units (text : String) : List UInt16 := (JvmText.codeUnits text).map UInt16.ofNat

structure SseMessage where
  event : List UInt16
  data : List UInt16
  deriving DecidableEq

def SSE_FIELD_EVENT : List UInt16 := units "event:"

def SSE_FIELD_DATA : List UInt16 := units "data:"

def isWhiteSpace (unit : UInt16) : Bool := EcmaNumber.isWhiteSpace (Char.ofNat unit.toNat)

def trimStart (line : List UInt16) : List UInt16 := line.dropWhile isWhiteSpace

def trim (line : List UInt16) : List UInt16 := (trimStart line).rdropWhile isWhiteSpace

/-- One round of the loop over the lines: the event so far, and the data lines. -/
def readLine (read : List UInt16 × List (List UInt16)) (line : List UInt16) :
    List UInt16 × List (List UInt16) :=
  let event := if SSE_FIELD_EVENT.isPrefixOf line then trim (line.drop SSE_FIELD_EVENT.length)
    else read.1
  let dataLines := if SSE_FIELD_DATA.isPrefixOf line then
    read.2 ++ [trimStart (line.drop SSE_FIELD_DATA.length)] else read.2
  (event, dataLines)

def parseSseBlock (block : List UInt16) : Option SseMessage :=
  let (event, dataLines) := (block.splitOn LF).foldl readLine ([], [])
  if event = [] ∨ dataLines = [] then none else some ⟨event, [LF].intercalate dataLines⟩

/-- `replace(/\r\n/g, "\n")` -/
def normalize : List UInt16 → List UInt16
  | a :: b :: rest =>
    if a = CR ∧ b = LF then LF :: normalize rest else a :: normalize (b :: rest)
  | rest => rest

/-- `split("\n\n")`, and the last block apart from the others. -/
def splitBlocks : List UInt16 → List (List UInt16) × List UInt16
  | a :: b :: rest =>
    if a = LF ∧ b = LF then ([] :: (splitBlocks rest).1, (splitBlocks rest).2)
    else match splitBlocks (b :: rest) with
      | ([], last) => ([], a :: last)
      | (block :: blocks, last) => ((a :: block) :: blocks, last)
  | rest => ([], rest)

/-- The messages of a buffer, and what remains of it. -/
def parseOperationalEventSseBuffer (buffer : List UInt16) : List SseMessage × List UInt16 :=
  let (blocks, remaining) := splitBlocks (normalize buffer)
  (blocks.filterMap parseSseBlock, remaining)

/-- The messages that `consumeOperationalEventStream` handles, whose reads give these chunks. -/
def consumeOperationalEventStream (chunks : List (List UInt16)) : List SseMessage :=
  let (messages, buffer) := feed parseOperationalEventSseBuffer [] chunks
  messages ++ (parseOperationalEventSseBuffer (buffer ++ [LF, LF])).1

example : consumeOperationalEventStream
    [units "event: a\r", units "\ndata: x\r\n\r", units "\n\n\ndata: y\nevent: b"] =
    [⟨units "a", units "x"⟩, ⟨units "b", units "y"⟩] := by decide +kernel

/-! ## Line ends -/

/-- Each CR is directly followed by LF. -/
def EachCrBeforeLf (text : List UInt16) : Prop :=
  ∀ i, text[i]? = some CR → text[i + 1]? = some LF

instance {text : List UInt16} : Decidable (EachCrBeforeLf text) :=
  decidable_of_iff (∀ i < text.length, text[i]? = some CR → text[i + 1]? = some LF)
    ⟨fun h i hcr => h i (List.getElem?_eq_some_iff.1 hcr).1 hcr, fun h i _ hcr => h i hcr⟩

/-- A CR has nothing but LF after it, as in every part of such a text. -/
def CrBeforeLf (text : List UInt16) : Prop := text.IsChain fun a b => a = CR → b = LF

theorem EachCrBeforeLf.crBeforeLf {text : List UInt16} (h : EachCrBeforeLf text) :
    CrBeforeLf text := by
  refine List.isChain_iff_getElem.2 fun i hi hcr => ?_
  have hnext := h i (List.getElem?_eq_some_iff.2 ⟨by omega, hcr⟩)
  rw [List.getElem?_eq_getElem hi, Option.some.injEq] at hnext
  exact hnext

theorem normalize_cons {a : UInt16} (ha : a ≠ CR) (rest : List UInt16) :
    normalize (a :: rest) = a :: normalize rest := by
  cases rest with
  | nil => rfl
  | cons b rest => rw [normalize, if_neg fun h => ha h.1]

theorem normalize_append {p : List UInt16} (hp : CR ∉ p) (rest : List UInt16) :
    normalize (p ++ rest) = p ++ normalize rest := by
  induction p with
  | nil => rfl
  | cons a p ih =>
      rw [List.mem_cons, not_or] at hp
      rw [List.cons_append, normalize_cons (Ne.symm hp.1), ih hp.2, List.cons_append]

theorem crBeforeLf_cons {a : UInt16} (ha : a ≠ CR) {rest : List UInt16} (h : CrBeforeLf rest) :
    CrBeforeLf (a :: rest) :=
  List.isChain_cons.2 ⟨fun _ _ hcr => absurd hcr ha, h⟩

theorem ne_cr_of_not_pair {a b : UInt16} {rest : List UInt16} (h : CrBeforeLf (a :: b :: rest))
    (hpair : ¬(a = CR ∧ b = LF)) : a ≠ CR :=
  fun ha => hpair ⟨ha, (List.isChain_cons_cons.1 h).1 ha⟩

/-- A text is normalized just as well in two steps, the first of which does not see all of it. -/
theorem normalize_normalize {s t : List UInt16} (h : CrBeforeLf (s ++ t)) :
    CrBeforeLf (normalize s ++ t) ∧ normalize (normalize s ++ t) = normalize (s ++ t) := by
  induction s using normalize.induct with
  | case1 a b rest hpair ih =>
      obtain ⟨rfl, rfl⟩ := hpair
      have hrest : CrBeforeLf (rest ++ t) := (List.isChain_cons_cons.1 h).2.tail
      obtain ⟨hvalid, hsame⟩ := ih hrest
      have hlf : LF ≠ CR := by decide
      simp only [List.cons_append, normalize, if_true, normalize_cons hlf, hsame,
        and_true]
      exact crBeforeLf_cons hlf hvalid
  | case2 a b rest hpair ih =>
      have ha := ne_cr_of_not_pair h hpair
      obtain ⟨hvalid, hsame⟩ := ih h.tail
      rw [normalize, if_neg hpair, List.cons_append, normalize_cons ha, hsame]
      exact ⟨crBeforeLf_cons ha hvalid, (normalize_cons ha _).symm⟩
  | case3 rest hrest =>
      have hkept : normalize rest = rest := by
        rw [normalize]
        exact hrest
      rw [hkept]
      exact ⟨h, rfl⟩

theorem mem_dropLast_cons {x a : UInt16} {rest : List UInt16} (h : x ∈ (a :: rest).dropLast) :
    x = a ∨ x ∈ rest.dropLast := by
  cases rest with
  | nil => exact absurd h List.not_mem_nil
  | cons b rest => exact List.mem_cons.1 h

/-- After normalizing, a CR is left at the end only. -/
theorem cr_notMem_dropLast {s : List UInt16} (h : CrBeforeLf s) : CR ∉ (normalize s).dropLast := by
  induction s using normalize.induct with
  | case1 a b rest hpair ih =>
      rw [normalize, if_pos hpair]
      intro hmem
      rcases mem_dropLast_cons hmem with hcr | hrest
      · exact absurd hcr (by decide)
      · exact ih h.tail.tail hrest
  | case2 a b rest hpair ih =>
      rw [normalize, if_neg hpair]
      intro hmem
      rcases mem_dropLast_cons hmem with hcr | hrest
      · exact ne_cr_of_not_pair h hpair hcr.symm
      · exact ih h.tail hrest
  | case3 rest hrest =>
      match rest, hrest with
      | [], _ => exact List.not_mem_nil
      | [a], _ => exact List.not_mem_nil
      | a :: b :: rest, hrest => exact absurd rfl (hrest a b rest)

/-! ## Blocks -/

/-- The blocks but the last do not depend on what follows them. -/
theorem splitBlocks_spec (x : List UInt16) :
    ∃ p, x = p ++ (splitBlocks x).2 ∧ (p = [] ∨ ∃ q, p = q ++ [LF]) ∧
      ((splitBlocks x).1 = [] ↔ p = []) ∧
      ∀ z, splitBlocks (p ++ z) = ((splitBlocks x).1 ++ (splitBlocks z).1, (splitBlocks z).2) := by
  induction x using splitBlocks.induct with
  | case1 a b rest hpair ih =>
      obtain ⟨rfl, rfl⟩ := hpair
      obtain ⟨p, hx, hend, -, hsplit⟩ := ih
      rw [splitBlocks, if_pos ⟨rfl, rfl⟩]
      refine ⟨LF :: LF :: p, congrArg (LF :: LF :: ·) hx, .inr ?_, by simp, fun z => ?_⟩
      · rcases hend with rfl | ⟨q, rfl⟩
        · exact ⟨[LF], rfl⟩
        · exact ⟨LF :: LF :: q, rfl⟩
      · rw [List.cons_append, List.cons_append, splitBlocks, if_pos ⟨rfl, rfl⟩, hsplit z]
        rfl
  | case2 a b rest hpair last hnone ih =>
      obtain ⟨p, hx, -, hempty, -⟩ := ih
      rw [hnone] at hx hempty
      obtain rfl : p = [] := hempty.1 rfl
      have hwhole : splitBlocks (a :: b :: rest) = ([], a :: last) := by
        rw [splitBlocks, if_neg hpair, hnone]
      rw [hwhole]
      exact ⟨[], congrArg (a :: ·) hx, .inl rfl, by simp, fun z => rfl⟩
  | case3 a b rest hpair block blocks last hsome ih =>
      obtain ⟨p, hx, hend, hempty, hsplit⟩ := ih
      rw [hsome] at hx hempty hsplit
      have hwhole : splitBlocks (a :: b :: rest) = ((a :: block) :: blocks, last) := by
        rw [splitBlocks, if_neg hpair, hsome]
      rw [hwhole]
      -- the part before the last block is not empty, so it starts with `b` as well
      obtain ⟨q, rfl⟩ : ∃ q, p = b :: q := by
        cases p with
        | nil => exact absurd (hempty.2 rfl) (List.cons_ne_nil block blocks)
        | cons c q => exact ⟨q, by rw [(List.cons.inj hx).1]⟩
      refine ⟨a :: b :: q, congrArg (a :: ·) hx, .inr ?_, by simp, fun z => ?_⟩
      · obtain ⟨r, hr⟩ := hend.resolve_left (List.cons_ne_nil b q)
        exact ⟨a :: r, by rw [hr, List.cons_append]⟩
      · have hz := hsplit z
        rw [List.cons_append] at hz
        rw [List.cons_append, List.cons_append, splitBlocks, if_neg hpair, hz]
        rfl
  | case4 rest hrest =>
      have hwhole : splitBlocks rest = ([], rest) := by
        rw [splitBlocks]
        exact hrest
      rw [hwhole]
      exact ⟨[], rfl, .inl rfl, by simp, fun z => rfl⟩

/-! ## Chunks -/

theorem parse_spec {s t : List UInt16} (h : CrBeforeLf (s ++ t)) :
    ∃ p, CR ∉ p ∧ normalize s = p ++ (parseOperationalEventSseBuffer s).2 ∧
      ∀ z, splitBlocks (p ++ z) =
        ((splitBlocks (normalize s)).1 ++ (splitBlocks z).1, (splitBlocks z).2) := by
  obtain ⟨p, hs, hend, -, hsplit⟩ := splitBlocks_spec (normalize s)
  refine ⟨p, ?_, hs, hsplit⟩
  rcases hend with rfl | ⟨q, rfl⟩
  · exact List.not_mem_nil
  · intro hmem
    have hq : CR ∈ q := (List.mem_append.1 hmem).resolve_right (by decide)
    have hcr := cr_notMem_dropLast h.left_of_append
    rw [hs, List.append_assoc, List.singleton_append, List.dropLast_append_cons] at hcr
    exact hcr (List.mem_append_left _ hq)

theorem incremental_parse : Incremental CrBeforeLf parseOperationalEventSseBuffer where
  valid s t h := by
    obtain ⟨p, -, hs, -⟩ := parse_spec h
    have hvalid := (normalize_normalize h).1
    rw [hs, List.append_assoc] at hvalid
    exact hvalid.right_of_append
  messages s t h := by
    obtain ⟨p, hp, hs, hsplit⟩ := parse_spec h
    have hsame := (normalize_normalize h).2
    rw [hs, List.append_assoc, normalize_append hp] at hsame
    have hblocks : splitBlocks (normalize (s ++ t)) =
        ((splitBlocks (normalize s)).1 ++
          (splitBlocks (normalize ((parseOperationalEventSseBuffer s).2 ++ t))).1,
          (splitBlocks (normalize ((parseOperationalEventSseBuffer s).2 ++ t))).2) := by
      rw [← hsame, hsplit]
    exact (congrArg (fun blocks => blocks.1.filterMap parseSseBlock) hblocks).trans
      List.filterMap_append

theorem crBeforeLf_append_lf {text : List UInt16} (h : CrBeforeLf text) :
    CrBeforeLf (text ++ [LF, LF]) := by
  refine List.isChain_append.2 ⟨h, by decide, fun a _ b hb _ => ?_⟩
  exact (Option.some.inj hb).symm

theorem consume_eq_parse {chunks : List (List UInt16)} (h : EachCrBeforeLf chunks.flatten) :
    consumeOperationalEventStream chunks =
      (parseOperationalEventSseBuffer (chunks.flatten ++ [LF, LF])).1 :=
  feed_messages incremental_parse (crBeforeLf_append_lf h.crBeforeLf)

/-- The messages do not depend on where the text is cut: they are those of the text as one chunk,
and those of the text with the empty line that closes its last block. -/
theorem consumeOperationalEventStream_chunks (chunks : List (List UInt16))
    (h : EachCrBeforeLf chunks.flatten) :
    consumeOperationalEventStream chunks = consumeOperationalEventStream [chunks.flatten] ∧
      consumeOperationalEventStream [chunks.flatten] =
        (parseOperationalEventSseBuffer (chunks.flatten ++ [LF, LF])).1 := by
  have hone : [chunks.flatten].flatten = chunks.flatten := List.flatten_singleton
  have hwhole : consumeOperationalEventStream [chunks.flatten] = _ :=
    consume_eq_parse (hone.symm ▸ h)
  rw [hone] at hwhole
  exact ⟨(consume_eq_parse h).trans hwhole.symm, hwhole⟩

theorem consumeOperationalEventStream_chunks_sample :
    consumeOperationalEventStream [units "event: a\r", units "\ndata: x\r\n\r", units "\n"] =
      consumeOperationalEventStream [units "event: a\r\ndata: x\r\n\r\n"] :=
  (consumeOperationalEventStream_chunks
    [units "event: a\r", units "\ndata: x\r\n\r", units "\n"] (by decide +kernel)).1

end GcsSaker.EventStreamText
