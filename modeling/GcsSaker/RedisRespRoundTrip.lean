import GcsSaker.RedisResp

/-!
# Replies are read as they were written

`readRESP` takes the encoding of a reply off the front of the stream, and nothing of what follows
it.
-/

namespace GcsSaker.RedisResp

structure Line where
  bytes : Bytes
  plain : ∀ b ∈ bytes, b ≠ cr ∧ b ≠ lf

/-- What Redis answers, errors and null arrays apart. -/
inductive Reply where
  | simple (line : Line)
  | integer (value : Int64)
  | bulk (bytes : Bytes)
  | null
  | array (replies : List Reply)

namespace Reply

mutual

def encode : Reply → Bytes
  | .simple line => '+'.toUInt8 :: (line.bytes ++ [cr, lf])
  | .integer value => ':'.toUInt8 :: (ofText value.toInt.repr ++ [cr, lf])
  | .bulk bytes => '$'.toUInt8 :: (sizeLine bytes.length ++ bytes ++ [cr, lf])
  | .null => '$'.toUInt8 :: (ofText "-1" ++ [cr, lf])
  | .array replies => '*'.toUInt8 :: (sizeLine replies.length ++ encodeAll replies)

def encodeAll : List Reply → Bytes
  | [] => []
  | reply :: replies => encode reply ++ encodeAll replies

end

mutual

def value : Reply → Value
  | .simple line => .text line.bytes
  | .integer value => .integer value
  | .bulk bytes => .text bytes
  | .null => .nil
  | .array replies => .array (values replies)

def values : List Reply → List Value
  | [] => []
  | reply :: replies => value reply :: values replies

end

mutual

/-- The runtime can allocate each part of the reply. -/
def Fits (runtime : Runtime) : Reply → Prop
  | .bulk bytes => bytes.length + 2 ≤ runtime.maxAlloc
  | .array replies => 16 * replies.length ≤ runtime.maxAlloc ∧ FitAll runtime replies
  | _ => True

def FitAll (runtime : Runtime) : List Reply → Prop
  | [] => True
  | reply :: replies => Fits runtime reply ∧ FitAll runtime replies

end

end Reply

/-! ## Numbers -/

theorem toNat_lt_of_isDigit {c : Char} (h : c.isDigit = true) : c.toNat < 256 := by
  rw [Char.isDigit, Bool.and_eq_true, decide_eq_true_iff, decide_eq_true_iff] at h
  have hle : c.val.toNat ≤ 57 := h.2
  change c.val.toNat < 256
  omega

theorem toNat_lt_of_mem_repr {n : ℕ} {c : Char} (h : c ∈ n.repr.toList) : c.toNat < 256 := by
  rw [Nat.toList_repr] at h
  exact toNat_lt_of_isDigit (Nat.isDigit_of_mem_toDigits (by decide) (by decide) h)

theorem lf_notMem_ofText {text : String} (h : ∀ c ∈ text.toList, c.toNat < 256 ∧ c ≠ '\n') :
    lf ∉ ofText text := by
  intro hmem
  obtain ⟨c, hc, hbyte⟩ := List.mem_map.1 hmem
  obtain ⟨hlt, hne⟩ := h c hc
  have hnat := congrArg UInt8.toNat hbyte
  rw [UInt8.toNat_ofNat', Nat.mod_eq_of_lt hlt] at hnat
  exact hne (Char.ofNat_toNat c ▸ congrArg Char.ofNat hnat)

theorem parseInt_natRepr {n : ℕ} (h : n < 2 ^ 63) :
    parseInt (ofText n.repr) = some (Int64.ofInt n) := by
  rw [parseInt, toText_ofText fun c hc => toNat_lt_of_mem_repr hc, Decimal.parseInt64,
    Decimal.parse_natRepr, Option.bind_some, if_pos]
  have hmin : Int64.minValue.toInt = -2 ^ 63 := by decide
  have hmax : Int64.maxValue.toInt = 2 ^ 63 - 1 := by decide
  rw [hmin, hmax]
  omega

theorem toInt_ofNat {n : ℕ} (h : n < 2 ^ 63) : (Int64.ofInt n).toInt = n :=
  Int64.toInt_ofInt_of_le (by omega) (by omega)

theorem ne_newline_of_isDigit {c : Char} (h : c.isDigit = true) : c ≠ '\n' := by
  rintro rfl
  exact absurd h (by decide)

theorem lf_notMem_natRepr (n : ℕ) : lf ∉ ofText n.repr := by
  refine lf_notMem_ofText fun c hc => ?_
  rw [Nat.toList_repr] at hc
  have hdigit := Nat.isDigit_of_mem_toDigits (by decide) (by decide) hc
  exact ⟨toNat_lt_of_isDigit hdigit, ne_newline_of_isDigit hdigit⟩

theorem mem_intRepr {n : ℤ} {c : Char} (h : c ∈ n.repr.toList) :
    c.toNat < 256 ∧ c ≠ '\n' := by
  have hdigits : ∀ m : ℕ, ∀ c ∈ m.repr.toList, c.toNat < 256 ∧ c ≠ '\n' := by
    intro m c hc
    rw [Nat.toList_repr] at hc
    have hdigit := Nat.isDigit_of_mem_toDigits (by decide) (by decide) hc
    exact ⟨toNat_lt_of_isDigit hdigit, ne_newline_of_isDigit hdigit⟩
  rw [Int.repr_eq_if] at h
  split_ifs at h
  · exact hdigits _ c h
  · rw [String.toList_append, List.mem_append] at h
    rcases h with hsign | hdigit
    · rw [List.mem_singleton.1 hsign]
      decide
    · exact hdigits _ c hdigit

theorem lf_notMem_intRepr (n : ℤ) : lf ∉ ofText n.repr :=
  lf_notMem_ofText fun _ hc => mem_intRepr hc

theorem parseInt_intRepr (n : Int64) : parseInt (ofText n.toInt.repr) = some n := by
  rw [parseInt, toText_ofText fun c hc => (mem_intRepr hc).1, Decimal.parseInt64_repr]

/-! ## Replies -/

section Replies

variable {runtime : Runtime} {depth : ℕ}

theorem readNested_bulk {bytes : Bytes} (h : bytes.length + 2 ≤ runtime.maxAlloc) (rest : Bytes) :
    readNested runtime (depth + 1)
        ('$'.toUInt8 :: (sizeLine bytes.length ++ bytes ++ [cr, lf]) ++ rest) =
      .ok (.text bytes, rest) := by
  have hlt := runtime.lt
  have hline := readLine_append (lf_notMem_natRepr bytes.length) (bytes ++ [cr, lf] ++ rest)
  have hparse := parseInt_natRepr (show bytes.length < 2 ^ 63 by omega)
  have hint := toInt_ofNat (show bytes.length < 2 ^ 63 by omega)
  have hshape : sizeLine bytes.length ++ bytes ++ [cr, lf] ++ rest =
      ofText bytes.length.repr ++ cr :: lf :: (bytes ++ [cr, lf] ++ rest) := by
    simp only [sizeLine, List.append_assoc, List.cons_append, List.nil_append]
  rw [List.cons_append, hshape, readNested, hline]
  dsimp only
  rw [if_neg (by decide), if_neg (by decide), if_neg (by decide), if_pos rfl,
    readRESPBulkString_of_size hparse (by omega), hint, if_neg (by omega), if_neg]
  · have hdrop : (bytes ++ [cr, lf] ++ rest).drop (bytes.length + 2) = rest :=
      List.drop_left' (by rw [List.length_append]; rfl)
    rw [Int.toNat_natCast, hdrop, List.append_assoc, List.take_left]
  · rw [Int.toNat_natCast, List.length_append, List.length_append]
    change ¬bytes.length + 2 + rest.length < _
    omega

theorem readNested_array {replies : List Reply} (h : 16 * replies.length ≤ runtime.maxAlloc)
    {rest : Bytes} (hvalues : readValues (readNested runtime depth) replies.length
      (Reply.encodeAll replies ++ rest) = .ok (Reply.values replies, rest)) :
    readNested runtime (depth + 1) ((Reply.array replies).encode ++ rest) =
      .ok ((Reply.array replies).value, rest) := by
  have hlt := runtime.lt
  have hline := readLine_append (lf_notMem_natRepr replies.length)
    (Reply.encodeAll replies ++ rest)
  have hparse := parseInt_natRepr (show replies.length < 2 ^ 63 by omega)
  have hint := toInt_ofNat (show replies.length < 2 ^ 63 by omega)
  have hshape : sizeLine replies.length ++ Reply.encodeAll replies ++ rest =
      ofText replies.length.repr ++ cr :: lf :: (Reply.encodeAll replies ++ rest) := by
    simp only [sizeLine, List.append_assoc, List.cons_append, List.nil_append]
  rw [Reply.encode, List.cons_append, hshape, readNested, hline]
  dsimp only
  rw [if_neg (by decide), if_neg (by decide), if_neg (by decide), if_neg (by decide), if_pos rfl,
    readRESPArray_of_size hparse, hint, if_neg (by omega), Int.toNat_natCast, hvalues, Reply.value]
  rfl

mutual

/-- A nesting as deep as the encoding is long is enough. -/
theorem readNested_encode (reply : Reply) (rest : Bytes) (depth : ℕ)
    (hfits : reply.Fits runtime) (hdepth : reply.encode.length ≤ depth) :
    readNested runtime depth (reply.encode ++ rest) = .ok (reply.value, rest) := by
  cases depth with
  | zero => cases reply <;> exact absurd hdepth (Nat.not_succ_le_zero _)
  | succ depth =>
      cases reply with
      | simple line =>
          have hline := readLine_append (fun hmem => (line.plain lf hmem).2 rfl) rest
          rw [Reply.encode, List.cons_append, List.append_assoc, List.cons_append,
            List.cons_append, List.nil_append, readNested, hline]
          dsimp only
          rw [if_pos rfl]
          rfl
      | integer value =>
          have hline := readLine_append (lf_notMem_intRepr value.toInt) rest
          rw [Reply.encode, List.cons_append, List.append_assoc, List.cons_append,
            List.cons_append, List.nil_append, readNested, hline]
          dsimp only
          rw [if_neg (by decide), if_neg (by decide), if_pos rfl, parseInt_intRepr]
          rfl
      | bulk bytes => exact readNested_bulk hfits rest
      | null =>
          have hline := readLine_append (show lf ∉ ofText "-1" by decide) rest
          rw [Reply.encode, List.cons_append, List.append_assoc, List.cons_append,
            List.cons_append, List.nil_append, readNested, hline]
          dsimp only
          rw [if_neg (by decide), if_neg (by decide), if_neg (by decide), if_pos rfl]
          rfl
      | array replies =>
          obtain ⟨hsize, hall⟩ := hfits
          refine readNested_array hsize (readValues_encodeAll replies rest depth hall ?_)
          rw [Reply.encode, List.length_cons, List.length_append] at hdepth
          omega

theorem readValues_encodeAll (replies : List Reply) (rest : Bytes) (depth : ℕ)
    (hfits : Reply.FitAll runtime replies) (hdepth : (Reply.encodeAll replies).length ≤ depth) :
    readValues (readNested runtime depth) replies.length (Reply.encodeAll replies ++ rest) =
      .ok (Reply.values replies, rest) := by
  cases replies with
  | nil => rfl
  | cons reply replies =>
      obtain ⟨hreply, hreplies⟩ := hfits
      rw [Reply.encodeAll, List.length_append] at hdepth
      have hfirst := readNested_encode reply (Reply.encodeAll replies ++ rest) depth hreply
        (by omega)
      have hrest := readValues_encodeAll replies rest depth hreplies (by omega)
      rw [Reply.encodeAll, List.append_assoc, List.length_cons, readValues, hfirst]
      change ((readValues _ _ _) >>= _) = _
      rw [hrest]
      rfl

end

/-- A command is the encoding of an array of bulk strings. -/
theorem encodeRESPCommand_eq (args : List Bytes) :
    encodeRESPCommand args = (Reply.array (args.map .bulk)).encode ∧
      (Reply.array (args.map .bulk)).value = .array (args.map .text) := by
  have hall : ∀ args : List Bytes, Reply.encodeAll (args.map .bulk) =
        args.flatMap (fun arg => ofText "$" ++ sizeLine arg.length ++ arg ++ [cr, lf]) ∧
      Reply.values (args.map .bulk) = args.map .text := by
    intro args
    induction args with
    | nil => exact ⟨rfl, rfl⟩
    | cons arg args ih =>
        rw [List.map_cons, Reply.encodeAll, Reply.values, ih.1, ih.2, List.flatMap_cons]
        exact ⟨rfl, rfl⟩
  rw [Reply.encode, Reply.value, (hall args).1, (hall args).2, List.length_map]
  exact ⟨rfl, rfl⟩

theorem fitAll_bulk {args : List Bytes} (h : ∀ arg ∈ args, arg.length + 2 ≤ runtime.maxAlloc) :
    Reply.FitAll runtime (args.map .bulk) := by
  induction args with
  | nil => trivial
  | cons arg args ih =>
      exact ⟨h arg (List.mem_cons_self ..), ih fun a ha => h a (List.mem_cons_of_mem arg ha)⟩

theorem readRESP_of_encode {reply : Reply} (hfits : reply.Fits runtime) (rest : Bytes) :
    readRESP runtime (reply.encode ++ rest) = .ok (reply.value, rest) := by
  refine readNested_encode reply rest _ hfits ?_
  rw [List.length_append]
  omega

end Replies

/-- The reader undoes the encoding of a command and of every reply that it can hold. -/
theorem readRESP_encode (runtime : Runtime) :
    (∀ args : List Bytes, 16 * args.length ≤ runtime.maxAlloc →
      (∀ arg ∈ args, arg.length + 2 ≤ runtime.maxAlloc) → ∀ rest : Bytes,
        readRESP runtime (encodeRESPCommand args ++ rest) = .ok (.array (args.map .text), rest)) ∧
    ∀ reply : Reply, reply.Fits runtime → ∀ rest : Bytes,
      readRESP runtime (reply.encode ++ rest) = .ok (reply.value, rest) := by
  refine ⟨fun args hsize hargs rest => ?_, fun reply hfits rest => readRESP_of_encode hfits rest⟩
  have hfits : (Reply.array (args.map .bulk)).Fits runtime := by
    refine ⟨?_, fitAll_bulk hargs⟩
    rw [List.length_map]
    exact hsize
  rw [(encodeRESPCommand_eq args).1, readRESP_of_encode hfits, (encodeRESPCommand_eq args).2]

/-- The runtime on a 64-bit processor. -/
def amd64 : Runtime := ⟨2 ^ 48, by decide⟩

theorem readRESP_encode_sample :
    readRESP amd64 (encodeRESPCommand [ofText "SETEX", ofText "a\r\n$1", [0xFF]] ++ ofText "+OK") =
        .ok (.array [.text (ofText "SETEX"), .text (ofText "a\r\n$1"), .text [0xFF]],
          ofText "+OK") ∧
      readRESP amd64 ((Reply.array [.bulk (ofText "*1\r\n"), .array [.integer (-7), .null]]).encode ++
          ofText ":1") =
        .ok (.array [.text (ofText "*1\r\n"), .array [.integer (-7), .nil]], ofText ":1") := by
  obtain ⟨hcommand, hreply⟩ := readRESP_encode amd64
  refine ⟨hcommand _ (by decide) (by decide) _, hreply _ ?_ _⟩
  have hbulk : (ofText "*1\r\n").length + 2 ≤ amd64.maxAlloc := by decide
  exact ⟨by decide, hbulk, ⟨by decide, trivial, trivial, trivial⟩, trivial⟩

end GcsSaker.RedisResp
