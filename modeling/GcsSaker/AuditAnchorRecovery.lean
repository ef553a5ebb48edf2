import GcsSaker.AuditAnchors
import GcsSaker.Decimal
import GcsSaker.PrefixCodes
import GcsSaker.TextOrder

/-!
# Recovery of the audit anchors

Any calls of `append`, of which any may fail to write its file. The anchors for which files are
created are one chain. What a write has left in the newest file decides about all later calls.
-/

namespace GcsSaker.AuditAnchors

/-! ## The directory -/

section Directories

variable {writer : FileAuditAnchorWriter} {foreign directory files : Directory}
variable {anchors : List AuditAnchorRecord}

/-- The files of anchors behind the foreign ones of a directory. All of them can be read, or the
last one is torn. -/
inductive Phase (writer : FileAuditAnchorWriter) (foreign : Directory) :
    List AuditAnchorRecord → Directory → Bool → Prop
  | whole {anchors : List AuditAnchorRecord} {files : Directory}
      (names : files.map Prod.fst = anchors.map fun record => fileName record.sequence)
      (contents : (files.map fun file => writer.mapper.readValue file.2) = anchors.map some) :
      Phase writer foreign anchors (foreign ++ files) false
  | torn {anchors : List AuditAnchorRecord} {files : Directory} {file : String × List UInt8}
      (names : files.map Prod.fst = anchors.map fun record => fileName record.sequence)
      (last : files.getLast? = some file)
      (content : writer.mapper.readValue file.2 = none) :
      Phase writer foreign anchors (foreign ++ files) true

/-- No file has the name of an anchor. -/
def Foreign (directory : Directory) : Prop :=
  ∀ file ∈ directory, isAnchorName file.1 = false

theorem latestFile_eq (hforeign : Foreign foreign) (hnumbered : Numbered anchors)
    (hlength : anchors.length < 2 ^ 63)
    (hnames : files.map Prod.fst = anchors.map fun record => fileName record.sequence) :
    FileAuditAnchorWriter.latestFile (foreign ++ files) = files.getLast? := by
  have hnone : foreign.filter (fun file => isAnchorName file.1) = [] :=
    List.filter_eq_nil_iff.2 fun file hfile => by rw [hforeign file hfile]; exact Bool.false_ne_true
  rw [names_eq hnumbered] at hnames
  have hall : files.filter (fun file => isAnchorName file.1) = files := by
    refine List.filter_eq_self.2 fun file hfile => ?_
    obtain ⟨n, -, hn⟩ := List.mem_map.1 (hnames ▸ List.mem_map_of_mem hfile)
    rw [← hn]
    exact isAnchorName_anchorName _
  rw [FileAuditAnchorWriter.latestFile, List.filter_append, hnone, hall, List.nil_append]
  have hunits : files.map (fun file => JvmText.codeUnits file.1) =
      (List.range anchors.length).map fun n => JvmText.codeUnits (anchorName (n + 1)) := by
    have h := congrArg (List.map JvmText.codeUnits) hnames
    simpa only [List.map_map, Function.comp_def] using h
  have hsorted := anchorNames_sorted hlength
  rw [← hunits] at hsorted
  exact argmax_eq_getLast (List.pairwise_map.1 hsorted)

/-- The newest file of a directory without a torn one has the last anchor. -/
theorem latestAnchor_whole (hforeign : Foreign foreign) (hanchors : Anchors writer anchors)
    (hlength : anchors.length < 2 ^ 63) (hphase : Phase writer foreign anchors directory false) :
    writer.latestAnchor directory = .ok anchors.getLast? := by
  cases hphase with
  | @whole files names contents =>
      have hlatest := latestFile_eq hforeign (hanchors.numbered hlength) hlength names
      have hlast := congrArg List.getLast? contents
      rw [List.getLast?_map, List.getLast?_map] at hlast
      rw [FileAuditAnchorWriter.latestAnchor, hlatest]
      cases hfile : files.getLast? with
      | none =>
          rw [hfile, Option.map_none] at hlast
          rw [Option.map_eq_none_iff.1 hlast.symm]
      | some file =>
          rw [hfile, Option.map_some] at hlast
          obtain ⟨record, hrecord, hread⟩ := Option.map_eq_some_iff.1 hlast.symm
          dsimp only
          rw [← hread, hrecord]
          exact if_pos (hanchors.validAnchor record (List.mem_of_getLast? hrecord))

theorem latestAnchor_torn (hforeign : Foreign foreign) (hanchors : Anchors writer anchors)
    (hlength : anchors.length < 2 ^ 63) (hphase : Phase writer foreign anchors directory true) :
    writer.latestAnchor directory = .error .unreadable := by
  cases hphase with
  | @torn files file names last content =>
      have hlatest := latestFile_eq hforeign (hanchors.numbered hlength) hlength names
      rw [FileAuditAnchorWriter.latestAnchor, hlatest, last]
      dsimp only
      rw [content]

/-- Behind a torn file nothing can be appended. -/
theorem append_torn (hforeign : Foreign foreign) (hanchors : Anchors writer anchors)
    (hlength : anchors.length < 2 ^ 63) (hphase : Phase writer foreign anchors directory true)
    (call : Call) : writer.append call directory = (.error .unreadable, directory) := by
  rw [FileAuditAnchorWriter.append, latestAnchor_torn hforeign hanchors hlength hphase]

theorem Phase.concat_whole (hphase : Phase writer foreign anchors directory false)
    {record : AuditAnchorRecord} {content : List UInt8}
    (hread : writer.mapper.readValue content = some record) :
    Phase writer foreign (anchors ++ [record])
      (directory ++ [(fileName record.sequence, content)]) false := by
  cases hphase with
  | @whole files names contents =>
      rw [List.append_assoc]
      refine .whole ?_ ?_
      · rw [List.map_append, List.map_append, names]
        rfl
      · rw [List.map_append, List.map_append, contents, List.map_singleton, List.map_singleton,
          hread]

theorem Phase.concat_torn (hphase : Phase writer foreign anchors directory false)
    {record : AuditAnchorRecord} {content : List UInt8}
    (hread : writer.mapper.readValue content = none) :
    Phase writer foreign (anchors ++ [record])
      (directory ++ [(fileName record.sequence, content)]) true := by
  cases hphase with
  | @whole files names contents =>
      rw [List.append_assoc]
      refine .torn ?_ List.getLast?_concat hread
      rw [List.map_append, List.map_append, names]
      rfl

/-- The file of the next anchor does not exist. -/
theorem name_fresh (hforeign : Foreign foreign) (hanchors : Anchors writer anchors)
    (hlength : anchors.length + 1 < 2 ^ 63) (hphase : Phase writer foreign anchors directory false)
    (head : AuditChainHead) (anchoredAt : Instant) :
    fileName (writer.nextRecord head anchoredAt anchors.getLast?).sequence ∉
      directory.map Prod.fst := by
  have hnumbered := hanchors.numbered (by omega)
  rw [fileName_eq (toInt_sequence_nextRecord hnumbered hlength head anchoredAt)]
  cases hphase with
  | @whole files names contents =>
      rw [List.map_append, List.mem_append, not_or, names, names_eq hnumbered]
      constructor
      · intro hmem
        obtain ⟨file, hfile, hname⟩ := List.mem_map.1 hmem
        have hother := hforeign file hfile
        rw [hname, isAnchorName_anchorName] at hother
        cases hother
      · intro hmem
        obtain ⟨n, hn, hname⟩ := List.mem_map.1 hmem
        have hrange := List.mem_range.1 hn
        have hbound : anchors.length + 1 < 10 ^ 20 := by omega
        have hlt := anchorName_lt (Nat.succ_lt_succ hrange) hbound
        rw [hname] at hlt
        exact lt_irrefl _ hlt

/-- Less than the anchor cannot be read, and the line feed does not matter. -/
theorem readValue_take_payloadOf (hmapper : writer.mapper.Lawful) (record : AuditAnchorRecord)
    (bytes : ℕ) : writer.mapper.readValue ((writer.payloadOf record).take bytes) =
      if bytes < (writer.mapper.writeValueAsBytes record).length then none else some record := by
  rw [FileAuditAnchorWriter.payloadOf, List.take_append]
  split_ifs with hbytes
  · rw [Nat.sub_eq_zero_of_le hbytes.le, List.take_zero, List.append_nil]
    exact hmapper.readValue_take record bytes hbytes
  · rw [List.take_of_length_le (not_lt.1 hbytes)]
    cases bytes - (writer.mapper.writeValueAsBytes record).length with
    | zero =>
        rw [List.take_zero, List.append_nil]
        exact hmapper.readValue_write record
    | succ n =>
        rw [List.take_succ_cons, List.take_nil]
        exact hmapper.readValue_line record

theorem filter_eq_none {α : Type} {p : α → Bool} {x : Option α} (h : x.any p = false) :
    x.filter p = none := by
  cases x with
  | none => rfl
  | some a => exact if_neg (Bool.eq_false_iff.1 h)

theorem tears_of_none {step : Directory × Call} (h : writer.created step = none) :
    writer.tears step = false := by
  rw [FileAuditAnchorWriter.tears, h]

/-- What a write leaves in the file that it has created. -/
def contentOf (writer : FileAuditAnchorWriter) (record : AuditAnchorRecord) : Write → List UInt8
  | .stops bytes _ => (writer.payloadOf record).take bytes
  | _ => writer.payloadOf record

def Write.failed : Write → Bool
  | .complete => false
  | .stops _ thrown => thrown
  | _ => true

theorem writeOnce_fresh {record : AuditAnchorRecord} {write : Write}
    (hfresh : fileName record.sequence ∉ directory.map Prod.fst) (hopened : write ≠ .notOpened) :
    writer.writeOnce record write directory =
      (if write.failed then .error .io else .ok (),
        directory ++ [(fileName record.sequence, contentOf writer record write)]) := by
  unfold FileAuditAnchorWriter.writeOnce
  rw [if_neg hfresh]
  cases write with
  | notOpened => exact absurd rfl hopened
  | complete => rfl
  | stops bytes thrown => rfl
  | notForced => rfl

section Appending

variable (call : Call) {previous : Option AuditAnchorRecord} {last : AuditAnchorRecord}
variable (hlatest : writer.latestAnchor directory = .ok previous)

include hlatest

theorem append_unchanged (hlast : previous = some last)
    (hsame : FileAuditAnchorWriter.unchanged call.head last = true) :
    writer.append call directory = (.ok last, directory) ∧
      writer.created (directory, call) = none := by
  subst hlast
  constructor
  · rw [FileAuditAnchorWriter.append, hlatest]
    dsimp only
    rw [Option.filter_some, if_pos hsame]
  · rw [FileAuditAnchorWriter.created, hlatest]
    dsimp only
    rw [Option.any_some, hsame]
    rfl

theorem append_notOpened
    (hchanged : previous.any (FileAuditAnchorWriter.unchanged call.head) = false)
    (hfresh : fileName (writer.nextRecord call.head call.anchoredAt previous).sequence ∉
      directory.map Prod.fst) (hwrite : call.write = .notOpened) :
    writer.append call directory = (.error .io, directory) ∧
      writer.created (directory, call) = none := by
  constructor
  · rw [FileAuditAnchorWriter.append, hlatest]
    dsimp only
    rw [filter_eq_none hchanged]
    unfold FileAuditAnchorWriter.writeOnce
    dsimp only
    rw [if_neg hfresh, hwrite]
    rfl
  · rw [FileAuditAnchorWriter.created, hlatest]
    dsimp only
    rw [hwrite, decide_eq_true rfl, Bool.or_true, Bool.true_or]
    rfl

theorem append_changed (hchanged : previous.any (FileAuditAnchorWriter.unchanged call.head) = false)
    (hfresh : fileName (writer.nextRecord call.head call.anchoredAt previous).sequence ∉
      directory.map Prod.fst) (hopened : call.write ≠ .notOpened) :
    writer.append call directory =
        (if call.write.failed then .error .io
          else .ok (writer.nextRecord call.head call.anchoredAt previous),
          directory ++ [(fileName (writer.nextRecord call.head call.anchoredAt previous).sequence,
            contentOf writer (writer.nextRecord call.head call.anchoredAt previous) call.write)]) ∧
      writer.created (directory, call) =
        some (writer.nextRecord call.head call.anchoredAt previous) := by
  constructor
  · rw [FileAuditAnchorWriter.append, hlatest]
    dsimp only
    rw [filter_eq_none hchanged]
    dsimp only
    rw [writeOnce_fresh hfresh hopened]
    split_ifs <;> rfl
  · rw [FileAuditAnchorWriter.created, hlatest]
    dsimp only
    rw [hchanged, decide_eq_false hopened, decide_eq_false hfresh]
    rfl

end Appending

/-- What a call can do in a directory without a torn file: it finds its head in the last anchor, or
creates no file, or creates the file of the next anchor. -/
theorem append_whole (hmapper : writer.mapper.Lawful) (hforeign : Foreign foreign)
    (hanchors : Anchors writer anchors) (hlength : anchors.length + 1 < 2 ^ 63)
    (hphase : Phase writer foreign anchors directory false) (call : Call) :
    (∃ last, anchors.getLast? = some last ∧
      FileAuditAnchorWriter.unchanged call.head last = true ∧
      writer.append call directory = (.ok last, directory) ∧
      writer.created (directory, call) = none) ∨
    (call.write = .notOpened ∧ writer.append call directory = (.error .io, directory) ∧
      writer.created (directory, call) = none) ∨
    ∃ record, record = writer.nextRecord call.head call.anchoredAt anchors.getLast? ∧
      writer.created (directory, call) = some record ∧
      Phase writer foreign (anchors ++ [record]) (writer.append call directory).2
        (writer.tears (directory, call)) ∧
      (writer.append call directory).1 = if call.write.failed then .error .io else .ok record := by
  have hlatest := latestAnchor_whole hforeign hanchors (by omega) hphase
  have hfresh := name_fresh hforeign hanchors hlength hphase call.head call.anchoredAt
  cases hany : anchors.getLast?.any (FileAuditAnchorWriter.unchanged call.head) with
  | true =>
      obtain ⟨last, hlast, hsame⟩ := (Option.any_eq_true _ _).1 hany
      exact .inl ⟨last, hlast, hsame, append_unchanged call hlatest hlast hsame⟩
  | false =>
      by_cases hwrite : call.write = .notOpened
      · exact .inr (.inl ⟨hwrite, append_notOpened call hlatest hany hfresh hwrite⟩)
      · obtain ⟨happend, hcreated⟩ := append_changed call hlatest hany hfresh hwrite
        refine .inr (.inr ⟨_, rfl, hcreated, ?_, congrArg Prod.fst happend⟩)
        rw [happend, FileAuditAnchorWriter.tears, hcreated]
        cases hstop : call.write with
        | notOpened => exact absurd hstop hwrite
        | complete => exact hphase.concat_whole (hmapper.readValue_line _)
        | notForced => exact hphase.concat_whole (hmapper.readValue_line _)
        | stops bytes thrown =>
            have hread := readValue_take_payloadOf hmapper
              (writer.nextRecord call.head call.anchoredAt anchors.getLast?) bytes
            dsimp only [contentOf]
            split_ifs at hread with hbytes
            · rw [decide_eq_true hbytes]
              exact hphase.concat_torn hread
            · rw [decide_eq_false hbytes]
              exact hphase.concat_whole hread

end Directories

/-! ## Runs of the writer -/

section Runs

variable {writer : FileAuditAnchorWriter} {foreign : Directory} {calls : List Call}

theorem steps_concat (writer : FileAuditAnchorWriter) (directory : Directory) (calls : List Call)
    (call : Call) : writer.steps directory (calls ++ [call]) =
      writer.steps directory calls ++ [(writer.after directory calls, call)] := by
  induction calls generalizing directory with
  | nil => rfl
  | cons first calls ih => exact congrArg (_ :: ·) (ih (writer.append first directory).2)

theorem after_concat (writer : FileAuditAnchorWriter) (directory : Directory) (calls : List Call)
    (call : Call) : writer.after directory (calls ++ [call]) =
      (writer.append call (writer.after directory calls)).2 :=
  List.foldl_concat ..

/-- The anchors for which the calls create files. -/
def issued (writer : FileAuditAnchorWriter) (directory : Directory) (calls : List Call) :
    List AuditAnchorRecord :=
  (writer.steps directory calls).filterMap writer.created

/-- The anchors that the calls return. -/
def returnedBy (writer : FileAuditAnchorWriter) (directory : Directory) (calls : List Call) :
    List AuditAnchorRecord :=
  (writer.steps directory calls).filterMap writer.returned

/-- A call of the run has left less in its file than the anchor. -/
def torn (writer : FileAuditAnchorWriter) (directory : Directory) (calls : List Call) : Bool :=
  (writer.steps directory calls).any writer.tears

structure Kept (writer : FileAuditAnchorWriter) (directory : Directory) (calls : List Call) :
    Prop where
  anchors : Anchors writer (issued writer directory calls)
  length_le : (issued writer directory calls).length ≤ calls.length
  phase : Phase writer directory (issued writer directory calls) (writer.after directory calls)
    (torn writer directory calls)
  mem_issued : ∀ record ∈ returnedBy writer directory calls,
    record ∈ issued writer directory calls
  ordered : (returnedBy writer directory calls).Pairwise fun record record' =>
    record.sequence.toInt ≤ record'.sequence.toInt

theorem filterMap_singleton {α β : Type} (f : α → Option β) (a : α) :
    [a].filterMap f = (f a).toList := by
  cases h : f a with
  | none => exact List.filterMap_cons_none h
  | some b => exact List.filterMap_cons_some h

theorem issued_concat (writer : FileAuditAnchorWriter) (directory : Directory) (calls : List Call)
    (call : Call) : issued writer directory (calls ++ [call]) = issued writer directory calls ++
      (writer.created (writer.after directory calls, call)).toList := by
  rw [issued, steps_concat, List.filterMap_append, ← issued, filterMap_singleton]

theorem returnedBy_concat (writer : FileAuditAnchorWriter) (directory : Directory)
    (calls : List Call) (call : Call) : returnedBy writer directory (calls ++ [call]) =
      returnedBy writer directory calls ++
        (writer.append call (writer.after directory calls)).1.toOption.toList := by
  rw [returnedBy, steps_concat, List.filterMap_append, ← returnedBy, filterMap_singleton]
  rfl

theorem torn_concat (writer : FileAuditAnchorWriter) (directory : Directory) (calls : List Call)
    (call : Call) : torn writer directory (calls ++ [call]) =
      (torn writer directory calls || writer.tears (writer.after directory calls, call)) := by
  rw [torn, steps_concat, List.any_append, ← torn, List.any_cons, List.any_nil, Bool.or_false]

/-- No anchor has a greater number than the last one. -/
theorem sequence_le_getLast {anchors : List AuditAnchorRecord} (hnumbered : Numbered anchors)
    {record last : AuditAnchorRecord} (hrecord : record ∈ anchors)
    (hlast : anchors.getLast? = some last) : record.sequence.toInt ≤ last.sequence.toInt := by
  have hlength := sequence_getLast hnumbered
  rw [hlast, Option.map_some, Option.getD_some] at hlength
  have hmem : record.sequence.toInt ∈ (List.range anchors.length).map fun n : ℕ => (n : ℤ) + 1 :=
    hnumbered ▸ List.mem_map_of_mem hrecord
  obtain ⟨n, hn, heq⟩ := List.mem_map.1 hmem
  have hrange := List.mem_range.1 hn
  omega

theorem kept_nil (writer : FileAuditAnchorWriter) (directory : Directory) :
    Kept writer directory [] where
  anchors := .nil
  length_le := le_rfl
  phase := by
    have h : Phase writer directory [] (directory ++ []) false := .whole rfl rfl
    rwa [List.append_nil] at h
  mem_issued := List.forall_mem_nil _
  ordered := List.Pairwise.nil

/-- A step of a run, of which a call returns no anchor but the last. -/
theorem kept_step {call : Call} (h : Kept writer foreign calls)
    (hanchors : Anchors writer (issued writer foreign (calls ++ [call])))
    (hlength : (issued writer foreign (calls ++ [call])).length ≤ calls.length + 1)
    (hbound : calls.length + 1 < 2 ^ 63)
    (hphase : Phase writer foreign (issued writer foreign (calls ++ [call]))
      (writer.append call (writer.after foreign calls)).2 (torn writer foreign (calls ++ [call])))
    (hreturned : ∀ record, (writer.append call (writer.after foreign calls)).1 = .ok record →
      (issued writer foreign (calls ++ [call])).getLast? = some record) :
    Kept writer foreign (calls ++ [call]) := by
  have hmem : ∀ record ∈ returnedBy writer foreign calls,
      record ∈ issued writer foreign (calls ++ [call]) := by
    intro record hrecord
    rw [issued_concat]
    exact List.mem_append_left _ (h.mem_issued record hrecord)
  refine ⟨hanchors, ?_, ?_, ?_, ?_⟩
  · rw [List.length_append, List.length_singleton]
    exact hlength
  · rw [after_concat]
    exact hphase
  · rw [returnedBy_concat]
    refine List.forall_mem_append.2 ⟨hmem, fun record hrecord => ?_⟩
    cases hresult : (writer.append call (writer.after foreign calls)).1 with
    | error failure => rw [hresult] at hrecord; cases hrecord
    | ok last =>
        rw [hresult] at hrecord
        obtain rfl := List.mem_singleton.1 hrecord
        exact List.mem_of_getLast? (hreturned record hresult)
  · rw [returnedBy_concat]
    cases hresult : (writer.append call (writer.after foreign calls)).1 with
    | error failure => exact (List.append_nil _).symm ▸ h.ordered
    | ok last =>
        refine List.pairwise_append.2 ⟨h.ordered, List.pairwise_singleton _ _, ?_⟩
        intro record hrecord record' hrecord'
        obtain rfl := List.mem_singleton.1 hrecord'
        exact sequence_le_getLast (hanchors.numbered (by omega)) (hmem record hrecord)
          (hreturned record' hresult)

theorem kept_concat (hmapper : writer.mapper.Lawful) (hforeign : Foreign foreign)
    (hbound : calls.length + 1 < 2 ^ 63) (h : Kept writer foreign calls) (call : Call) :
    Kept writer foreign (calls ++ [call]) := by
  have hlength := h.length_le
  have hphase := h.phase
  -- A call that creates no file leaves the run as it was.
  have hsame : writer.created (writer.after foreign calls, call) = none →
      (writer.append call (writer.after foreign calls)).2 = writer.after foreign calls →
      (∀ record, (writer.append call (writer.after foreign calls)).1 = .ok record →
        (issued writer foreign calls).getLast? = some record) →
      Kept writer foreign (calls ++ [call]) := by
    intro hcreated hdirectory hreturned
    have hissued : issued writer foreign (calls ++ [call]) = issued writer foreign calls := by
      rw [issued_concat, hcreated, Option.toList_none, List.append_nil]
    have htorn : torn writer foreign (calls ++ [call]) = torn writer foreign calls := by
      rw [torn_concat, tears_of_none hcreated, Bool.or_false]
    refine kept_step h ?_ ?_ hbound ?_ ?_
    · rw [hissued]
      exact h.anchors
    · rw [hissued]
      omega
    · rw [hissued, htorn, hdirectory]
      exact hphase
    · rw [hissued]
      exact hreturned
  cases htorn : torn writer foreign calls with
  | true =>
      rw [htorn] at hphase
      have happend := append_torn hforeign h.anchors (by omega) hphase call
      refine hsame ?_ (congrArg Prod.snd happend) fun record hrecord => ?_
      · rw [FileAuditAnchorWriter.created,
          latestAnchor_torn hforeign h.anchors (by omega) hphase]
      · rw [happend] at hrecord
        cases hrecord
  | false =>
      rw [htorn] at hphase
      rcases append_whole hmapper hforeign h.anchors (by omega) hphase call with
        ⟨last, hlast, -, happend, hcreated⟩ | ⟨-, happend, hcreated⟩ |
        ⟨record, hrecord, hcreated, hphase', hresult⟩
      · refine hsame hcreated (congrArg Prod.snd happend) fun record hrecord => ?_
        rw [happend] at hrecord
        exact hlast.trans (congrArg some (Except.ok.inj hrecord))
      · refine hsame hcreated (congrArg Prod.snd happend) fun record hrecord => ?_
        rw [happend] at hrecord
        cases hrecord
      · have hissued : issued writer foreign (calls ++ [call]) =
            issued writer foreign calls ++ [record] := by
          rw [issued_concat, hcreated, Option.toList_some]
        refine kept_step h ?_ ?_ hbound ?_ ?_
        · rw [hissued, hrecord]
          exact h.anchors.concat call.head call.anchoredAt
        · rw [hissued, List.length_append, List.length_singleton]
          omega
        · rw [hissued, torn_concat, htorn, Bool.false_or]
          exact hphase'
        · intro record' hrecord'
          rw [hresult] at hrecord'
          split_ifs at hrecord'
          obtain rfl := Except.ok.inj hrecord'
          rw [hissued, List.getLast?_concat]

theorem kept (hmapper : writer.mapper.Lawful) (hforeign : Foreign foreign) (calls : List Call)
    (hbound : calls.length < 2 ^ 63) : Kept writer foreign calls := by
  induction calls using List.reverseRecOn with
  | nil => exact kept_nil writer foreign
  | append_singleton calls call ih =>
      rw [List.length_append, List.length_singleton] at hbound
      exact kept_concat hmapper hforeign hbound (ih (by omega)) call

/-- An anchor whose file is created is returned, unless the write fails. -/
theorem returned_of_created {step : Directory × Call} {record : AuditAnchorRecord}
    (h : writer.created step = some record) :
    writer.returned step = if step.2.write.failed then none else some record := by
  obtain ⟨directory, call⟩ := step
  unfold FileAuditAnchorWriter.created at h
  cases hlatest : writer.latestAnchor directory with
  | error failure => rw [hlatest] at h; cases h
  | ok previous =>
      rw [hlatest] at h
      dsimp only at h
      split_ifs at h with hstays
      simp only [Bool.or_eq_true, decide_eq_true_eq, not_or, Bool.not_eq_true] at hstays
      obtain ⟨⟨hchanged, hopened⟩, hfresh⟩ := hstays
      obtain ⟨happend, -⟩ := append_changed call hlatest hchanged hfresh hopened
      rw [FileAuditAnchorWriter.returned, happend, ← Option.some.inj h]
      split_ifs <;> rfl

/-- The anchors for which the writer creates files are one chain, numbered from one, and a call
returns none but the last of them. As long as every file that was created has its anchor, the next
call continues the chain; behind a file with less than its anchor every call fails. -/
theorem anchors_recover (writer : FileAuditAnchorWriter) (hmapper : writer.mapper.Lawful)
    (directory : Directory) (hforeign : Foreign directory) (calls : List Call)
    (hbound : calls.length + 1 < 2 ^ 63) :
    Chained (issued writer directory calls) ∧ Numbered (issued writer directory calls) ∧
      (∀ record ∈ returnedBy writer directory calls, record ∈ issued writer directory calls) ∧
      ((returnedBy writer directory calls).Pairwise fun record record' =>
        record.sequence.toInt ≤ record'.sequence.toInt) ∧
      (∀ record ∈ issued writer directory calls, record ∈ returnedBy writer directory calls ∨
        ∃ step ∈ writer.steps directory calls,
          writer.created step = some record ∧ step.2.write.failed = true) ∧
      (torn writer directory calls = false → ∀ head anchoredAt, ∃ record,
        (writer.append ⟨head, anchoredAt, .complete⟩ (writer.after directory calls)).1 =
          .ok record ∧ record.chainHead = head.eventHash ∧ record.recordCount = head.recordCount ∧
        ((issued writer directory calls).getLast? = some record ∨
          Chained (issued writer directory calls ++ [record]) ∧
            Numbered (issued writer directory calls ++ [record]))) ∧
      (torn writer directory calls = true → ∀ call,
        writer.append call (writer.after directory calls) =
          (.error .unreadable, writer.after directory calls)) := by
  have h := kept hmapper hforeign calls (Nat.lt_of_succ_lt hbound)
  have hlength := h.length_le
  have hphase := h.phase
  refine ⟨h.anchors.chained, h.anchors.numbered (by omega), h.mem_issued, h.ordered, ?_, ?_, ?_⟩
  · intro record hrecord
    obtain ⟨step, hstep, hcreated⟩ := List.mem_filterMap.1 hrecord
    have hreturned := returned_of_created hcreated
    cases hfailed : step.2.write.failed with
    | true => exact .inr ⟨step, hstep, hcreated, hfailed⟩
    | false =>
        rw [hfailed] at hreturned
        exact .inl (List.mem_filterMap.2 ⟨step, hstep, hreturned⟩)
  · intro htorn head anchoredAt
    rw [htorn] at hphase
    rcases append_whole hmapper hforeign h.anchors (by omega) hphase ⟨head, anchoredAt, .complete⟩
      with ⟨last, hlast, hsame, happend, -⟩ | ⟨hwrite, -⟩ | ⟨record, hrecord, -, -, hresult⟩
    · obtain ⟨hhead, hcount⟩ := Bool.and_eq_true_iff.1 hsame
      exact ⟨last, congrArg Prod.fst happend, of_decide_eq_true hhead, of_decide_eq_true hcount,
        .inl hlast⟩
    · cases hwrite
    · have hanchors := h.anchors.concat head anchoredAt
      rw [← hrecord] at hanchors
      have hcount : (issued writer directory calls ++ [record]).length < 2 ^ 63 := by
        rw [List.length_append, List.length_singleton]
        omega
      exact ⟨record, hresult, congrArg AuditAnchorRecord.chainHead hrecord,
        congrArg AuditAnchorRecord.recordCount hrecord,
        .inr ⟨hanchors.chained, hanchors.numbered hcount⟩⟩
  · intro htorn call
    rw [htorn] at hphase
    exact append_torn hforeign h.anchors (by omega) hphase call

theorem torn_eq_false (writer : FileAuditAnchorWriter) (directory : Directory) (calls : List Call)
    (h : ∀ call ∈ calls, ∀ bytes thrown, call.write ≠ .stops bytes thrown) :
    torn writer directory calls = false := by
  induction calls using List.reverseRecOn with
  | nil => rfl
  | append_singleton calls call ih =>
      obtain ⟨hcalls, hcall⟩ := List.forall_mem_append.1 h
      rw [torn_concat, ih hcalls, Bool.false_or, FileAuditAnchorWriter.tears]
      have hwrite := hcall call (List.mem_singleton_self call)
      cases hstop : call.write with
      | stops bytes thrown => exact absurd hstop (hwrite bytes thrown)
      | _ => cases writer.created (writer.after directory calls, call) <;> rfl

/-- A call with another head than the last anchor's creates the file of the next anchor. -/
theorem issued_of_changed (hmapper : writer.mapper.Lawful) (hforeign : Foreign foreign)
    (calls : List Call) (hbound : calls.length + 1 < 2 ^ 63)
    (htorn : torn writer foreign calls = false) (call : Call)
    (hchanged : (issued writer foreign calls).getLast?.any
      (FileAuditAnchorWriter.unchanged call.head) = false) (hopened : call.write ≠ .notOpened) :
    issued writer foreign (calls ++ [call]) = issued writer foreign calls ++
        [writer.nextRecord call.head call.anchoredAt (issued writer foreign calls).getLast?] ∧
      returnedBy writer foreign (calls ++ [call]) = returnedBy writer foreign calls ++
        if call.write.failed then []
        else [writer.nextRecord call.head call.anchoredAt
          (issued writer foreign calls).getLast?] := by
  have h := kept hmapper hforeign calls (Nat.lt_of_succ_lt hbound)
  have hlength := h.length_le
  have hphase := h.phase
  rw [htorn] at hphase
  have hlatest := latestAnchor_whole hforeign h.anchors (by omega) hphase
  have hfresh := name_fresh hforeign h.anchors (by omega) hphase call.head call.anchoredAt
  obtain ⟨happend, hcreated⟩ := append_changed call hlatest hchanged hfresh hopened
  constructor
  · rw [issued_concat, hcreated, Option.toList_some]
  · rw [returnedBy_concat, happend]
    split_ifs <;> rfl

end Runs

/-! ## A writer -/

section Sample

open PrefixCodes (PrefixFree)

/-- The letters that JSON writes as they are. -/
def plain (unit : ℕ) : Prop := 0x20 ≤ unit ∧ unit < 0x7f ∧ unit ≠ 34 ∧ unit ≠ 44 ∧ unit ≠ 92

instance {unit : ℕ} : Decidable (plain unit) := inferInstanceAs (Decidable (_ ∧ _))

/-- The anchors below have no letters to be escaped, so that any prefix code will do for them. -/
def escapeUnit (unit : ℕ) : List UInt8 :=
  if plain unit then [UInt8.ofNat unit] else 92 :: (List.replicate unit 117 ++ [34])

theorem prefixFree_replicate {a b : UInt8} (hne : a ≠ b) :
    PrefixFree fun n : ℕ => List.replicate n a ++ [b] := by
  intro m
  induction m with
  | zero =>
      intro n rest rest' h
      cases n with
      | zero => exact ⟨rfl, (List.cons.inj h).2⟩
      | succ n => exact absurd (List.cons.inj h).1.symm hne
  | succ m ih =>
      intro n rest rest' h
      cases n with
      | zero => exact absurd (List.cons.inj h).1 hne
      | succ n =>
          obtain ⟨rfl, hrest⟩ := ih n rest rest' (List.cons.inj h).2
          exact ⟨rfl, hrest⟩

theorem ofNat_ne_of_plain {unit other : ℕ} (h : plain unit) (hother : other < 256)
    (hne : unit ≠ other) : UInt8.ofNat unit ≠ UInt8.ofNat other := by
  obtain ⟨-, hlt, -⟩ := h
  intro heq
  have hnat := congrArg UInt8.toNat heq
  rw [UInt8.toNat_ofNat', UInt8.toNat_ofNat'] at hnat
  omega

theorem prefixFree_escapeUnit : PrefixFree escapeUnit := by
  intro unit unit' rest rest' h
  unfold escapeUnit at h
  split_ifs at h with hplain hplain' hplain'
  · obtain ⟨hhead, hrest⟩ := List.cons.inj h
    refine ⟨?_, hrest⟩
    by_contra hne
    exact ofNat_ne_of_plain hplain (by have := hplain'.2.1; omega) hne hhead
  · exact absurd (List.cons.inj h).1 (ofNat_ne_of_plain hplain (by decide) hplain.2.2.2.2)
  · exact absurd (List.cons.inj h).1.symm (ofNat_ne_of_plain hplain' (by decide) hplain'.2.2.2.2)
  · exact prefixFree_replicate (by decide) unit unit' rest rest' (List.cons.inj h).2

/-- A text up to a letter that JSON does not write as it is. -/
def textUpTo (stop : UInt8) (text : String) : List UInt8 :=
  (JvmText.codeUnits text).flatMap escapeUnit ++ [stop]

theorem prefixFree_textUpTo {stop : UInt8} (hstop : stop = 34 ∨ stop = 44) :
    PrefixFree (textUpTo stop) := by
  refine (prefixFree_escapeUnit.terminated fun unit => ?_).comp JvmText.codeUnits_injective
  unfold escapeUnit
  split_ifs with hplain
  · refine ⟨_, [], rfl, ?_⟩
    rcases hstop with rfl | rfl
    · exact ofNat_ne_of_plain hplain (by decide) hplain.2.2.1
    · exact ofNat_ne_of_plain hplain (by decide) hplain.2.2.2.1
  · refine ⟨_, _, rfl, ?_⟩
    rcases hstop with rfl | rfl <;> decide

theorem format_injective :
    Function.Injective fun instant : Instant => InstantText.format instant.val := by
  intro instant instant' h
  have hparse := congrArg InstantText.parse h
  rw [InstantText.parse_format instant.property, InstantText.parse_format instant'.property,
    Option.some.injEq] at hparse
  exact Subtype.ext hparse

/-- A text in quotation marks, of which the first one stands in what is before. -/
def textMember (before text : String) : List UInt8 := bytesOf before ++ textUpTo 34 text

theorem prefixFree_textMember (before : String) : PrefixFree (textMember before) :=
  (prefixFree_textUpTo (.inl rfl)).literal _

/-- A number with the comma behind it. -/
def numberMember (before : String) (value : Int64) : List UInt8 :=
  bytesOf before ++ textUpTo 44 (toString value)

theorem prefixFree_numberMember (before : String) : PrefixFree (numberMember before) :=
  ((prefixFree_textUpTo (.inr rfl)).comp fun _ _ => Decimal.toString_int64_inj).literal _

def instantMember (before : String) (instant : Instant) : List UInt8 :=
  textMember before (InstantText.format instant.val)

theorem prefixFree_instantMember (before : String) : PrefixFree (instantMember before) :=
  (prefixFree_textMember before).comp format_injective

def sampleJson (record : AuditAnchorRecord) : List UInt8 :=
  numberMember "\x7b\"sequence\":" record.sequence ++
    (textMember "\"previousAnchorHash\":\"" record.previousAnchorHash ++
    (textMember ",\"chainHead\":\"" record.chainHead ++
    (numberMember ",\"recordCount\":" record.recordCount ++
    (instantMember "\"anchoredAt\":\"" record.anchoredAt ++
    (textMember ",\"sourceCommit\":\"" record.sourceCommit ++
    (textMember ",\"anchorHash\":\"" record.anchorHash ++
    textMember ",\"signature\":\"" record.signature)))))) ++ bytesOf "\x7d"

def sampleFields (record : AuditAnchorRecord) :
    Int64 × String × String × Int64 × Instant × String × String × String :=
  (record.sequence, record.previousAnchorHash, record.chainHead, record.recordCount,
    record.anchoredAt, record.sourceCommit, record.anchorHash, record.signature)

theorem sampleFields_injective : Function.Injective sampleFields := by
  rintro ⟨⟩ ⟨⟩ h
  simpa only [sampleFields, Prod.mk.injEq, AuditAnchorRecord.mk.injEq] using h

theorem prefixFree_sampleJson : PrefixFree sampleJson := by
  have hmembers := (prefixFree_numberMember "\x7b\"sequence\":").pair
    ((prefixFree_textMember "\"previousAnchorHash\":\"").pair
    ((prefixFree_textMember ",\"chainHead\":\"").pair
    ((prefixFree_numberMember ",\"recordCount\":").pair
    ((prefixFree_instantMember "\"anchoredAt\":\"").pair
    ((prefixFree_textMember ",\"sourceCommit\":\"").pair
    ((prefixFree_textMember ",\"anchorHash\":\"").pair
    (prefixFree_textMember ",\"signature\":\"")))))))
  have hobject := (hmembers.closed (bytesOf "\x7d")).comp sampleFields_injective
  exact hobject

noncomputable def sampleWriter : FileAuditAnchorWriter where
  hmacKey := bytesOf "anchor-hmac-key-with-at-least-32-bytes"
  sourceCommit := "commit-a"
  mapper := ⟨sampleJson, PrefixCodes.read sampleJson⟩
  hmacKeySize := by decide +kernel

theorem lawful_sampleWriter : sampleWriter.mapper.Lawful where
  readValue_write record := by
    have h := PrefixCodes.read_append prefixFree_sampleJson record []
    rwa [List.append_nil] at h
  readValue_line record := PrefixCodes.read_append prefixFree_sampleJson record [10]
  readValue_take _ _ hn := PrefixCodes.read_take prefixFree_sampleJson hn

def sampleInstant : Instant := ⟨0, by decide⟩

def sampleCall (eventHash : String) (recordCount : Int64) (write : Write) : Call :=
  ⟨⟨eventHash, recordCount⟩, sampleInstant, write⟩

theorem foreign_nil : Foreign [] := List.forall_mem_nil _

def firstCall : Call := sampleCall "a" 1 .complete

/-- The anchor is written, but the call fails. -/
def secondCall : Call := sampleCall "b" 2 .notForced

def thirdCall : Call := sampleCall "c" 3 .complete

theorem torn_sampleCalls : torn sampleWriter [] [firstCall, secondCall] = false :=
  torn_eq_false _ _ _ (by simp [firstCall, secondCall, sampleCall])

theorem anchors_recover_sample :
    Chained (issued sampleWriter [] [firstCall, secondCall]) ∧
    ∃ record, (sampleWriter.append thirdCall
      (sampleWriter.after [] [firstCall, secondCall])).1 = .ok record ∧ record.chainHead = "c" := by
  obtain ⟨hchained, -, -, -, -, hnext, -⟩ := anchors_recover sampleWriter lawful_sampleWriter []
    foreign_nil [firstCall, secondCall] (by decide)
  obtain ⟨record, hresult, hhead, -⟩ := hnext torn_sampleCalls ⟨"c", 3⟩ sampleInstant
  exact ⟨hchained, record, hresult, hhead⟩

noncomputable def firstAnchor : AuditAnchorRecord :=
  sampleWriter.nextRecord ⟨"a", 1⟩ sampleInstant none

noncomputable def secondAnchor : AuditAnchorRecord :=
  sampleWriter.nextRecord ⟨"b", 2⟩ sampleInstant (some firstAnchor)

noncomputable def thirdAnchor : AuditAnchorRecord :=
  sampleWriter.nextRecord ⟨"c", 3⟩ sampleInstant (some secondAnchor)

theorem sampleRun_first : issued sampleWriter [] [firstCall] = [firstAnchor] ∧
    returnedBy sampleWriter [] [firstCall] = [firstAnchor] :=
  issued_of_changed lawful_sampleWriter foreign_nil [] (by decide) rfl firstCall rfl (by decide)

theorem sampleRun_second :
    issued sampleWriter [] [firstCall, secondCall] = [firstAnchor, secondAnchor] ∧
      returnedBy sampleWriter [] [firstCall, secondCall] = [firstAnchor] := by
  obtain ⟨hissued, hreturned⟩ := sampleRun_first
  have hchanged : (issued sampleWriter [] [firstCall]).getLast?.any
      (FileAuditAnchorWriter.unchanged secondCall.head) = false := by
    rw [hissued]
    rfl
  have hrun := issued_of_changed lawful_sampleWriter foreign_nil [firstCall] (by decide)
    (torn_eq_false _ _ _ (by simp [firstCall, sampleCall])) secondCall hchanged (by decide)
  rw [hissued, hreturned] at hrun
  exact hrun

theorem sampleRun_third : returnedBy sampleWriter [] [firstCall, secondCall, thirdCall] =
    [firstAnchor, thirdAnchor] := by
  obtain ⟨hissued, hreturned⟩ := sampleRun_second
  have hchanged : (issued sampleWriter [] [firstCall, secondCall]).getLast?.any
      (FileAuditAnchorWriter.unchanged thirdCall.head) = false := by
    rw [hissued]
    rfl
  have hrun := issued_of_changed lawful_sampleWriter foreign_nil [firstCall, secondCall]
    (by decide) torn_sampleCalls thirdCall hchanged (by decide)
  rw [hissued, hreturned] at hrun
  exact hrun.2

/-- The file is created, but nothing is written into it. -/
def emptyCall : Call := sampleCall "a" 1 (.stops 0 true)

theorem torn_emptyCall : torn sampleWriter [] [emptyCall] = true := by
  have hlatest : sampleWriter.latestAnchor [] = .ok none := rfl
  obtain ⟨-, hcreated⟩ := append_changed emptyCall hlatest rfl List.not_mem_nil (by decide)
  have hpositive : 0 < (sampleJson firstAnchor).length := by
    rw [sampleJson, List.length_append]
    exact Nat.add_pos_right _ (by decide)
  change (sampleWriter.tears ([], emptyCall) || false) = true
  rw [FileAuditAnchorWriter.tears, hcreated, Bool.or_false]
  exact decide_eq_true hpositive

/-- Behind an anchor that is written but not returned the numbers go on, and an empty file under the
first name is the end. -/
theorem anchors_not_recovered :
    (∃ first third, returnedBy sampleWriter [] [firstCall, secondCall, thirdCall] =
        [first, third] ∧ first.sequence = 1 ∧ third.sequence = 3) ∧
      (sampleWriter.append firstCall (sampleWriter.after [] [emptyCall])).1 =
        .error .unreadable := by
  refine ⟨⟨firstAnchor, thirdAnchor, sampleRun_third, rfl, rfl⟩, ?_⟩
  have hkept := kept lawful_sampleWriter foreign_nil [emptyCall] (by decide)
  have hphase := hkept.phase
  have hlength := hkept.length_le
  rw [torn_emptyCall] at hphase
  exact congrArg Prod.fst (append_torn foreign_nil hkept.anchors
    (lt_of_le_of_lt hlength (by decide)) hphase firstCall)

end Sample

end GcsSaker.AuditAnchors
