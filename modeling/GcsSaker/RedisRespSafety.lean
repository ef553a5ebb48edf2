import GcsSaker.RedisRespRoundTrip

/-!
# Replies that panic

The headers of a reply stand in the stream one after the other, however its arrays are nested. A
cursor passes them with the number of values that are still to come. The reader panics just if the
cursor comes to a header whose size `make` refuses.
-/

namespace GcsSaker.RedisResp

open Relation (ReflTransGen)

/-- `readRESP` returns a value or an error. -/
def Returns (runtime : Runtime) (reader : Bytes) : Prop :=
  (∃ value rest, readRESP runtime reader = .ok (value, rest)) ∨
    ∃ failure, readRESP runtime reader = .error (.error failure)

structure Cursor where
  pending : ℕ
  reader : Bytes

/-- The kind of the next value, the rest of its line, and the stream after it. -/
def header : Bytes → Option (UInt8 × Bytes × Bytes)
  | [] => none
  | kind :: reader => (readLine reader).map fun (line, rest) => (kind, line, rest)

/-- A bulk string too large to be allocated, or an array of a negative length or too large. -/
def Refused (runtime : Runtime) (kind : UInt8) (size : ℤ) : Prop :=
  (kind = '$'.toUInt8 ∧ 0 ≤ size ∧ runtime.maxAlloc < size + 2) ∨
    (kind = '*'.toUInt8 ∧ (size < 0 ∨ runtime.maxAlloc < 16 * size))

instance (runtime : Runtime) (kind : UInt8) (size : ℤ) : Decidable (Refused runtime kind size) :=
  inferInstanceAs (Decidable (_ ∨ _))

namespace Cursor

/-- The cursor passes a value that is not an array, or enters an array. -/
def next (runtime : Runtime) : Cursor → Option Cursor
  | ⟨0, _⟩ => none
  | ⟨pending + 1, reader⟩ =>
    match header reader with
    | none => none
    | some (kind, line, rest) =>
      if kind = '+'.toUInt8 then some ⟨pending, rest⟩
      else (parseInt line).bind fun size =>
        if Refused runtime kind size.toInt then none
        else if kind = ':'.toUInt8 then some ⟨pending, rest⟩
        else if kind = '*'.toUInt8 then some ⟨size.toInt.toNat + pending, rest⟩
        else if kind = '$'.toUInt8 then
          if size.toInt < 0 then some ⟨pending, rest⟩
          else if rest.length < size.toInt.toNat + 2 then none
          else some ⟨pending, rest.drop (size.toInt.toNat + 2)⟩
        else none

/-- The header at the cursor has a size that is refused. -/
def AtRefused (runtime : Runtime) (cursor : Cursor) : Prop :=
  cursor.pending ≠ 0 ∧ ∃ kind line rest size, header cursor.reader = some (kind, line, rest) ∧
    parseInt line = some size ∧ Refused runtime kind size.toInt

def Reaches (runtime : Runtime) : Cursor → Cursor → Prop :=
  ReflTransGen fun cursor cursor' => cursor.next runtime = some cursor'

end Cursor

/-- On its way through the first value of the stream the cursor comes to a size that is refused. -/
def MeetsRefused (runtime : Runtime) (reader : Bytes) : Prop :=
  ∃ cursor, Cursor.Reaches runtime ⟨1, reader⟩ cursor ∧ cursor.AtRefused runtime

/-- How the cursor that starts at `start` moves when the reader stops as it does. -/
def Follows {α : Type} (runtime : Runtime) (pending : ℕ) (start : Cursor) :
    Except Stop (α × Bytes) → Prop
  | .ok (_, rest) => Cursor.Reaches runtime start ⟨pending, rest⟩ ∧
      rest.length ≤ start.reader.length
  | .error (.panic _) => ∃ cursor, Cursor.Reaches runtime start cursor ∧ cursor.AtRefused runtime
  | .error (.error _) => ∃ cursor, Cursor.Reaches runtime start cursor ∧
      cursor.next runtime = none ∧ cursor.pending ≠ 0 ∧ ¬cursor.AtRefused runtime

section Cursors

variable {runtime : Runtime} {pending : ℕ} {reader line rest : Bytes} {kind : UInt8}

variable {α : Type} {cursor cursor' : Cursor} {result : Except Stop (α × Bytes)}

end Cursors

end GcsSaker.RedisResp
