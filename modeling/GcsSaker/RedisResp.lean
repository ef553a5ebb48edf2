import GcsSaker.Decimal

/-!
# The Redis protocol

`encodeRESPCommand` and `readRESP`, on the bytes that are sent and received. `make` panics for a size
that is negative or takes more than the runtime allocates; all other failures are errors, after
which the connection is closed.
-/

namespace GcsSaker.RedisResp

abbrev Bytes := List UInt8

/-- The most bytes that the runtime allocates at a time; a size of them is an `int`. -/
structure Runtime where
  maxAlloc : ℕ
  lt : maxAlloc < 2 ^ 63

inductive Value where
  | nil
  | text (bytes : Bytes)
  | integer (value : Int64)
  | array (values : List Value)

inductive Failure where
  | eof
  | unexpectedEOF
  | redis (message : Bytes)
  | number (func : String) (num : Bytes)
  | unsupported (kind : UInt8)
  deriving DecidableEq

/-- The two messages of `makeslice`. -/
inductive Panic where
  | lenOutOfRange
  | capOutOfRange
  deriving DecidableEq

inductive Stop where
  | error (failure : Failure)
  | panic (panic : Panic)
  deriving DecidableEq

def cr : UInt8 := 0x0D

def lf : UInt8 := 0x0A

/-- The bytes of a text whose characters have one each. -/
def ofText (text : String) : Bytes := text.toList.map fun c => UInt8.ofNat c.toNat

def toText (bytes : Bytes) : String := String.ofList (bytes.map fun b => Char.ofNat b.toNat)

/-! ## Encoding -/

/-- `strconv.Itoa`, and the end of the line. -/
def sizeLine (size : ℕ) : Bytes := ofText size.repr ++ [cr, lf]

def encodeRESPCommand (args : List Bytes) : Bytes :=
  ofText "*" ++ sizeLine args.length ++
    args.flatMap fun arg => ofText "$" ++ sizeLine arg.length ++ arg ++ [cr, lf]

/-! ## Reading -/

/-- `ReadString`, and the bytes after it. -/
def readString (delim : UInt8) : Bytes → Option (Bytes × Bytes)
  | [] => none
  | b :: bytes =>
    if b = delim then some ([b], bytes)
    else (readString delim bytes).map fun (line, rest) => (b :: line, rest)

def trimSuffix (line : Bytes) (suffix : UInt8) : Bytes :=
  if line.getLast? = some suffix then line.dropLast else line

/-- The next line, without its end. -/
def readLine (reader : Bytes) : Option (Bytes × Bytes) :=
  (readString lf reader).map fun (line, rest) => (trimSuffix (trimSuffix line lf) cr, rest)

/-- `strconv.ParseInt` and `strconv.Atoi`; which of their errors they return is left out. -/
def parseInt (line : Bytes) : Option Int64 := Decimal.parseInt64 (toText line)

def make (runtime : Runtime) (panic : Panic) (elem : ℕ) (n : Int64) : Except Stop Unit :=
  if n < 0 ∨ runtime.maxAlloc < elem * n.toInt.toNat then .error (.panic panic) else .ok ()

def readRESPBulkString (runtime : Runtime) (reader line : Bytes) : Except Stop (Value × Bytes) :=
  match parseInt line with
  | none => .error (.error (.number "Atoi" line))
  | some size =>
    if size < 0 then .ok (.nil, reader)
    else do
      make runtime .lenOutOfRange 1 (size + 2)
      if reader.length < (size + 2).toInt.toNat then
        .error (.error (if reader.isEmpty then .eof else .unexpectedEOF))
      else .ok (.text (reader.take size.toInt.toNat), reader.drop (size + 2).toInt.toNat)

/-- The loop of `readRESPArray`. -/
def readValues (read : Bytes → Except Stop (Value × Bytes)) :
    ℕ → Bytes → Except Stop (List Value × Bytes)
  | 0, reader => .ok ([], reader)
  | size + 1, reader => do
    let (value, reader) ← read reader
    let (values, reader) ← readValues read size reader
    .ok (value :: values, reader)

def readRESPArray (runtime : Runtime) (read : Bytes → Except Stop (Value × Bytes))
    (reader line : Bytes) : Except Stop (Value × Bytes) :=
  match parseInt line with
  | none => .error (.error (.number "Atoi" line))
  | some size => do
    make runtime .capOutOfRange 16 size
    let (values, reader) ← readValues read size.toInt.toNat reader
    .ok (.array values, reader)

/-- `readRESP`, with the number of calls that may be nested. -/
def readNested (runtime : Runtime) : ℕ → Bytes → Except Stop (Value × Bytes)
  | 0, _ => .error (.error .eof)
  | _ + 1, [] => .error (.error .eof)
  | depth + 1, kind :: reader =>
    match readLine reader with
    | none => .error (.error .eof)
    | some (line, reader) =>
      if kind = '+'.toUInt8 then .ok (.text line, reader)
      else if kind = '-'.toUInt8 then .error (.error (.redis line))
      else if kind = ':'.toUInt8 then
        match parseInt line with
        | none => .error (.error (.number "ParseInt" line))
        | some value => .ok (.integer value, reader)
      else if kind = '$'.toUInt8 then readRESPBulkString runtime reader line
      else if kind = '*'.toUInt8 then readRESPArray runtime (readNested runtime depth) reader line
      else .error (.error (.unsupported kind))

/-- Every nested call has read a byte more, so there are no more of them than bytes. -/
def readRESP (runtime : Runtime) (reader : Bytes) : Except Stop (Value × Bytes) :=
  readNested runtime (reader.length + 1) reader

/-! ## Lines -/

theorem readString_append {line : Bytes} (h : lf ∉ line) (rest : Bytes) :
    readString lf (line ++ lf :: rest) = some (line ++ [lf], rest) := by
  induction line with
  | nil => rfl
  | cons b line ih =>
      rw [List.mem_cons, not_or] at h
      rw [List.cons_append, readString, if_neg (Ne.symm h.1), ih h.2]
      rfl

theorem trimSuffix_append (line : Bytes) (suffix : UInt8) :
    trimSuffix (line ++ [suffix]) suffix = line := by
  rw [trimSuffix, List.getLast?_concat, if_pos rfl, List.dropLast_concat]

/-- A line without ends is read as it is. -/
theorem readLine_append {line : Bytes} (h : lf ∉ line) (rest : Bytes) :
    readLine (line ++ cr :: lf :: rest) = some (line, rest) := by
  have hcr : lf ∉ line ++ [cr] := by
    rw [List.mem_append, List.mem_singleton, not_or]
    exact ⟨h, by decide⟩
  have hline := readString_append hcr rest
  rw [List.append_assoc, List.cons_append, List.nil_append] at hline
  rw [readLine, hline, Option.map_some]
  dsimp only
  rw [trimSuffix_append, trimSuffix_append]

theorem toText_ofText {text : String} (h : ∀ c ∈ text.toList, c.toNat < 256) :
    toText (ofText text) = text := by
  rw [toText, ofText, List.map_map]
  have hsame : text.toList.map ((fun b : UInt8 => Char.ofNat b.toNat) ∘
      fun c => UInt8.ofNat c.toNat) = text.toList := by
    conv_rhs => rw [← List.map_id text.toList]
    refine List.map_congr_left fun c hc => ?_
    have hbyte : (UInt8.ofNat c.toNat).toNat = c.toNat := by
      rw [UInt8.toNat_ofNat']
      exact Nat.mod_eq_of_lt (h c hc)
    rw [Function.comp_apply, hbyte, Char.ofNat_toNat]
    rfl
  rw [hsame, String.ofList_toList]

/-! ## Sizes -/

section Sizes

variable {runtime : Runtime} {reader line : Bytes} {size : Int64}

/-- The sum wraps around only for sizes that cannot be allocated. -/
theorem toInt_add_two (hsize : 0 ≤ size.toInt) :
    (size + 2).toInt = size.toInt + 2 ∨ (size + 2).toInt < 0 ∧ 2 ^ 63 ≤ size.toInt + 2 := by
  have hle := Int64.toInt_lt size
  have htwo : (2 : Int64).toInt = 2 := by decide
  rw [Int64.toInt_add, htwo, Int.bmod_def]
  split_ifs <;> omega

theorem make_payload (hsize : 0 ≤ size.toInt) :
    make runtime .lenOutOfRange 1 (size + 2) =
      if runtime.maxAlloc < size.toInt + 2 then .error (.panic .lenOutOfRange) else .ok () := by
  have hlt := runtime.lt
  refine if_congr ?_ rfl rfl
  rw [Int64.lt_iff_toInt_lt, Int64.toInt_zero]
  rcases toInt_add_two hsize with hsum | ⟨hneg, hlarge⟩
  · rw [hsum]
    omega
  · omega

theorem readRESPBulkString_of_size (hline : parseInt line = some size) (hsize : 0 ≤ size.toInt) :
    readRESPBulkString runtime reader line =
      if runtime.maxAlloc < size.toInt + 2 then .error (.panic .lenOutOfRange)
      else if reader.length < size.toInt.toNat + 2 then
        .error (.error (if reader.isEmpty then .eof else .unexpectedEOF))
      else .ok (.text (reader.take size.toInt.toNat), reader.drop (size.toInt.toNat + 2)) := by
  have hnot : ¬size < 0 := by
    rw [Int64.lt_iff_toInt_lt, Int64.toInt_zero]
    omega
  rw [readRESPBulkString, hline]
  dsimp only
  rw [if_neg hnot, make_payload hsize]
  by_cases hlarge : runtime.maxAlloc < size.toInt + 2
  · rw [if_pos hlarge, if_pos hlarge]
    rfl
  · rw [if_neg hlarge, if_neg hlarge]
    have hlt := runtime.lt
    have hsum : (size + 2).toInt.toNat = size.toInt.toNat + 2 := by
      rcases toInt_add_two hsize with hsum | ⟨hneg, hover⟩
      · omega
      · omega
    rw [hsum]
    rfl

theorem readRESPArray_of_size {read : Bytes → Except Stop (Value × Bytes)}
    (hline : parseInt line = some size) :
    readRESPArray runtime read reader line =
      if size.toInt < 0 ∨ runtime.maxAlloc < 16 * size.toInt.toNat then
        .error (.panic .capOutOfRange)
      else (readValues read size.toInt.toNat reader).map fun r => (.array r.1, r.2) := by
  rw [readRESPArray, hline]
  have hiff : size < 0 ↔ size.toInt < 0 := by rw [Int64.lt_iff_toInt_lt, Int64.toInt_zero]
  dsimp only
  simp only [make, hiff]
  split_ifs
  · rfl
  · cases readValues read size.toInt.toNat reader <;> rfl

end Sizes

end GcsSaker.RedisResp
