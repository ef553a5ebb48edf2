import Mathlib.Data.List.Chain

/-!
# Parsers that are fed chunk by chunk

A parser gives the messages of a buffer and what remains of it. Each chunk is parsed behind what
remained. When a parser is incremental, the messages do not depend on where the text was cut.
-/

namespace GcsSaker.ChunkedParsing

variable {α μ : Type*}

/-- The messages of the chunks, and what remains after them. -/
def feed (parse : List α → List μ × List α) : List α → List (List α) → List μ × List α
  | buffer, [] => ([], buffer)
  | buffer, chunk :: chunks =>
    let parsed := parse (buffer ++ chunk)
    let later := feed parse parsed.2 chunks
    (parsed.1 ++ later.1, later.2)

/-- What remains of a text stands for all of it, whatever follows. -/
structure Incremental (Valid : List α → Prop) (parse : List α → List μ × List α) : Prop where
  valid : ∀ s t, Valid (s ++ t) → Valid ((parse s).2 ++ t)
  messages : ∀ s t, Valid (s ++ t) →
    (parse (s ++ t)).1 = (parse s).1 ++ (parse ((parse s).2 ++ t)).1

theorem feed_messages {Valid : List α → Prop} {parse : List α → List μ × List α}
    (h : Incremental Valid parse) {buffer : List α} {chunks : List (List α)} {last : List α}
    (hvalid : Valid (buffer ++ (chunks.flatten ++ last))) :
    (feed parse buffer chunks).1 ++ (parse ((feed parse buffer chunks).2 ++ last)).1 =
      (parse (buffer ++ (chunks.flatten ++ last))).1 := by
  induction chunks generalizing buffer with
  | nil => rfl
  | cons chunk chunks ih =>
      have hsplit : buffer ++ ((chunk :: chunks).flatten ++ last) =
          buffer ++ chunk ++ (chunks.flatten ++ last) := by
        rw [List.flatten_cons, List.append_assoc, List.append_assoc]
      rw [hsplit] at hvalid ⊢
      rw [h.messages _ _ hvalid, ← ih (h.valid _ _ hvalid), feed, List.append_assoc]

end GcsSaker.ChunkedParsing
