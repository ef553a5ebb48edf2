import GcsSaker.Clock
import GcsSaker.Runs
import Mathlib.Data.List.Nodup

/-!
# Camera commands and the publisher that polls for them

The server numbers the camera commands of a stream in the entry that holds the last one, and a read
deletes the entry when it has expired. The publisher applies a command whose number is above the
largest one it has applied: a command after a deletion starts again at 1 and is passed over.
-/

namespace GcsSaker.CameraControl

def cameraCommandTTL : ℤ := 30 * Clock.second

/-- `cameraCommand`; the revision is a `uint64`. -/
structure CameraCommand where
  facingMode : String
  revision : ℕ
  updatedAt : ℤ
  deriving DecidableEq

/-- `cameraCommand{}`. -/
def noCommand : CameraCommand := ⟨"", 0, Clock.zeroTime⟩

/-- The map of `cameraCommandStore`. -/
abbrev Commands := String → Option CameraCommand

/-- The entry that a read at `now` finds has expired. -/
def Expired (commands : Commands) (streamID : String) (now : ℤ) : Prop :=
  let command := (commands streamID).getD noCommand
  command.updatedAt ≠ Clock.zeroTime ∧ now - command.updatedAt > cameraCommandTTL

instance (commands : Commands) (streamID : String) (now : ℤ) :
    Decidable (Expired commands streamID now) := inferInstanceAs (Decidable (_ ∧ _))

/-- `cameraCommandStore.read`, with the map that it leaves. -/
def read (commands : Commands) (streamID : String) (now : ℤ) : CameraCommand × Commands :=
  if Expired commands streamID now then (noCommand, Function.update commands streamID none)
  else ((commands streamID).getD noCommand, commands)

/-- The command that `cameraCommandStore.update` stores and returns. -/
def nextCommand (commands : Commands) (streamID facingMode : String) (now : ℤ) : CameraCommand :=
  ⟨facingMode, (((commands streamID).getD noCommand).revision + 1) % 2 ^ 64, now⟩

def update (commands : Commands) (streamID facingMode : String) (now : ℤ) :
    CameraCommand × Commands :=
  let command := nextCommand commands streamID facingMode now
  (command, Function.update commands streamID (some command))

/-! ## The publisher -/

/-- The nearest multiple of `ulp`, ties to the even one. -/
def roundHalfEven (n ulp : ℕ) : ℕ :=
  if 2 * (n % ulp) < ulp ∨ (2 * (n % ulp) = ulp ∧ n / ulp % 2 = 0) then n / ulp * ulp
  else (n / ulp + 1) * ulp

/-- What `JSON.parse` makes of an integer: the nearest double. -/
def jsNumber (n : ℕ) : ℕ := if n ≤ 2 ^ 53 then n else roundHalfEven n (2 ^ (Nat.log2 n - 52))

/-- The publisher's hook. `applied` lists the commands that it has handed to `applyRemoteCamera`
and `handled` those that came back from a fetch, since the hook was mounted. -/
structure Publisher where
  lastRevision : ℕ
  consecutiveFailures : ℕ
  fetched : Option CameraCommand
  handled : List CameraCommand
  applied : List CameraCommand
  deriving DecidableEq

def Publisher.mounted : Publisher := ⟨0, 0, none, [], []⟩

/-- The rest of `checkCameraCommand` once a command has come back; `cameraFails` says that
`applyRemoteCamera` throws. -/
def Publisher.checkCameraCommand (p : Publisher) (command : CameraCommand) (cameraFails : Bool) :
    Publisher :=
  if jsNumber command.revision > p.lastRevision ∧ command.facingMode ≠ "" then
    ⟨jsNumber command.revision, if cameraFails then p.consecutiveFailures + 1 else 0, none,
      p.handled ++ [command], p.applied ++ [command]⟩
  else ⟨p.lastRevision, 0, none, p.handled ++ [command], p.applied⟩

/-! ## The server and one publisher -/

/-- `issued` lists what `update` has returned for the publisher's stream. -/
structure State where
  commands : Commands
  issued : List CameraCommand
  publisher : Publisher

/-- A call of the store at an instant, or a step of the publisher: its fetch reaches the server, the
answer comes back, the fetch fails, the hook is mounted again. -/
inductive Action where
  | update (streamID facingMode : String) (now : ℤ)
  | read (streamID : String) (now : ℤ)
  | fetch (now : ℤ)
  | answer (cameraFails : Bool)
  | fail
  | mount

namespace State

def initial : State := ⟨fun _ => none, [], .mounted⟩

variable (stream : String) (s : State)

/-- The handler lets only `front` and `rear` through to `update`, and the publisher waits for an
answer before it fetches again. -/
def step : Action → Option State
  | .update streamID facingMode now =>
    if facingMode = "front" ∨ facingMode = "rear" then
      let (command, commands) := CameraControl.update s.commands streamID facingMode now
      some ⟨commands, if streamID = stream then s.issued ++ [command] else s.issued, s.publisher⟩
    else none
  | .read streamID now =>
    some { s with commands := (CameraControl.read s.commands streamID now).2 }
  | .fetch now =>
    if s.publisher.fetched.isSome then none
    else
      let (command, commands) := CameraControl.read s.commands stream now
      some ⟨commands, s.issued, { s.publisher with fetched := some command }⟩
  | .answer cameraFails =>
    match s.publisher.fetched with
    | some command =>
      some { s with publisher := s.publisher.checkCameraCommand command cameraFails }
    | none => none
  | .fail =>
    if s.publisher.fetched.isSome then
      some { s with publisher := { s.publisher with
        fetched := none
        consecutiveFailures := s.publisher.consecutiveFailures + 1 } }
    else none
  | .mount => some { s with publisher := .mounted }

/-- The revisions of the stream strictly increase, and every command that came back to the
publisher was applied. -/
structure Delivers (s : State) : Prop where
  increasing : (s.issued.map CameraCommand.revision).Pairwise (· < ·)
  applied : ∀ c ∈ s.publisher.handled, c.facingMode ≠ "" → c ∈ s.publisher.applied

/-- A command of the stream finds the entry of the one before it. -/
def Continues (s : State) : Action → Prop
  | .update streamID _ _ => streamID = stream → (s.commands stream).isSome = true ∨ s.issued = []
  | _ => True

/-- The revision that an update counts to is a number that JavaScript has. -/
def Counts (s : State) : Action → Prop
  | .update streamID _ _ =>
    streamID = stream → ((s.commands stream).getD noCommand).revision < 2 ^ 53
  | _ => True

instance : ∀ a, Decidable (Continues stream s a)
  | .update _ _ _ => inferInstanceAs (Decidable (_ → _))
  | .read _ _ => inferInstanceAs (Decidable True)
  | .fetch _ => inferInstanceAs (Decidable True)
  | .answer _ => inferInstanceAs (Decidable True)
  | .fail => inferInstanceAs (Decidable True)
  | .mount => inferInstanceAs (Decidable True)

instance : ∀ a, Decidable (Counts stream s a)
  | .update _ _ _ => inferInstanceAs (Decidable (_ → _))
  | .read _ _ => inferInstanceAs (Decidable True)
  | .fetch _ => inferInstanceAs (Decidable True)
  | .answer _ => inferInstanceAs (Decidable True)
  | .fail => inferInstanceAs (Decidable True)
  | .mount => inferInstanceAs (Decidable True)

end State

/-! ## What a step does -/

theorem read_snd_eq_some {commands : Commands} {streamID stream : String} {now : ℤ}
    {c : CameraCommand} (h : (read commands streamID now).2 stream = some c) :
    commands stream = some c := by
  unfold read at h
  split_ifs at h with hexpired
  · by_cases hid : stream = streamID
    · subst hid
      simp only [Function.update_self, reduceCtorEq] at h
    · simpa only [Function.update_of_ne hid] using h
  · exact h

theorem read_fst (commands : Commands) (stream : String) (now : ℤ) :
    (read commands stream now).1 = noCommand ∨
      commands stream = some (read commands stream now).1 := by
  unfold read
  split_ifs with hexpired
  · exact .inl rfl
  · cases hc : commands stream with
    | none => exact .inl rfl
    | some c => exact .inr rfl

theorem jsNumber_of_le {n : ℕ} (h : n ≤ 2 ^ 53) : jsNumber n = n := if_pos h

namespace State

variable {stream : String} {s s' : State}

/-- The shapes of a step. -/
inductive Moves (stream : String) (s : State) : Action → State → Prop where
  | issued {facingMode : String} {now : ℤ} (hmode : facingMode ≠ "") :
      Moves stream s (.update stream facingMode now)
        ⟨(CameraControl.update s.commands stream facingMode now).2,
          s.issued ++ [nextCommand s.commands stream facingMode now], s.publisher⟩
  | other {a : Action} {commands : Commands}
      (ha : ∀ facingMode now, a ≠ .update stream facingMode now)
      (hcommands : ∀ c, commands stream = some c → s.commands stream = some c) :
      Moves stream s a ⟨commands, s.issued, s.publisher⟩
  | fetched {now : ℤ} : Moves stream s (.fetch now)
      ⟨(CameraControl.read s.commands stream now).2, s.issued,
        { s.publisher with fetched := some (CameraControl.read s.commands stream now).1 }⟩
  | answered {command : CameraCommand} {cameraFails : Bool}
      (hfetched : s.publisher.fetched = some command) : Moves stream s (.answer cameraFails)
        { s with publisher := s.publisher.checkCameraCommand command cameraFails }
  | failed {failures : ℕ} : Moves stream s .fail { s with publisher := { s.publisher with
        fetched := none
        consecutiveFailures := failures } }
  | mounted : Moves stream s .mount { s with publisher := .mounted }

theorem step_moves {a : Action} (h : s.step stream a = some s') : Moves stream s a s' := by
  cases a with
  | update streamID facingMode now =>
      simp only [step] at h
      split_ifs at h with hmode hid
      · subst hid
        have hne : facingMode ≠ "" := by
          rcases hmode with rfl | rfl <;> decide
        exact Option.some.inj h ▸ .issued hne
      · have hother : (CameraControl.update s.commands streamID facingMode now).2 stream =
            s.commands stream := Function.update_of_ne (Ne.symm hid) ..
        have ha : ∀ mode time, Action.update streamID facingMode now ≠ .update stream mode time :=
          fun mode time he => hid (Action.update.inj he).1
        exact Option.some.inj h ▸ .other ha fun c hc => hother ▸ hc
  | read streamID now =>
      simp only [step, Option.some.injEq] at h
      exact h ▸ .other (fun _ _ => Action.noConfusion) fun c hc => read_snd_eq_some hc
  | fetch now =>
      simp only [step] at h
      split_ifs at h
      exact Option.some.inj h ▸ .fetched
  | answer cameraFails =>
      cases hf : s.publisher.fetched with
      | none => simp only [step, hf, reduceCtorEq] at h
      | some command =>
          simp only [step, hf, Option.some.injEq] at h
          exact h ▸ .answered hf
  | fail =>
      simp only [step] at h
      split_ifs at h
      exact Option.some.inj h ▸ .failed
  | mount =>
      simp only [step, Option.some.injEq] at h
      exact h ▸ .mounted

/-! ## The revisions while no entry is lost -/

/-- What holds while every command finds the entry of the one before it: the entry is the last
command, and the publisher has applied nothing that is newer than what it fetches. -/
structure Numbered (stream : String) (s : State) : Prop where
  increasing : (s.issued.map CameraCommand.revision).Pairwise (· < ·)
  counted : ∀ c ∈ s.issued, 0 < c.revision ∧ c.revision ≤ 2 ^ 53
  entry : ∀ c, s.commands stream = some c → s.issued.getLast? = some c
  applied_issued : ∀ c ∈ s.publisher.applied, c ∈ s.issued
  last : s.publisher.lastRevision = 0 ∨
    ∃ c ∈ s.publisher.applied, c.revision = s.publisher.lastRevision
  fetched : ∀ c, s.publisher.fetched = some c →
    c = noCommand ∨ c ∈ s.issued ∧ s.publisher.lastRevision ≤ c.revision
  handled : ∀ c ∈ s.publisher.handled, c.facingMode ≠ "" → c ∈ s.publisher.applied

theorem numbered_initial (stream : String) : Numbered stream initial where
  increasing := List.Pairwise.nil
  counted _ hc := absurd hc List.not_mem_nil
  entry _ hc := nomatch hc
  applied_issued _ hc := absurd hc List.not_mem_nil
  last := .inl rfl
  fetched _ hc := nomatch hc
  handled _ hc := absurd hc List.not_mem_nil

/-- The last command has the largest revision. -/
theorem Numbered.revision_le (h : Numbered stream s) {c d : CameraCommand}
    (hc : s.issued.getLast? = some c) (hd : d ∈ s.issued) : d.revision ≤ c.revision := by
  obtain ⟨before, hbefore⟩ := List.getLast?_eq_some_iff.1 hc
  have hinc := h.increasing
  rw [hbefore, List.map_append, List.pairwise_append] at hinc
  rw [hbefore, List.mem_append, List.mem_singleton] at hd
  rcases hd with hd | rfl
  · exact (hinc.2.2 d.revision (List.mem_map_of_mem hd) c.revision List.mem_cons_self).le
  · exact le_rfl

/-- A command is known by its revision. -/
theorem Numbered.eq_of_revision_eq (h : Numbered stream s) {c d : CameraCommand}
    (hc : c ∈ s.issued) (hd : d ∈ s.issued) (heq : c.revision = d.revision) : c = d := by
  have hnodup : (s.issued.map CameraCommand.revision).Nodup := h.increasing.imp Nat.ne_of_lt
  exact List.inj_on_of_nodup_map hnodup hc hd heq

theorem Numbered.lastRevision_le (h : Numbered stream s) {c : CameraCommand}
    (hc : s.commands stream = some c) : s.publisher.lastRevision ≤ c.revision := by
  rcases h.last with h0 | ⟨d, hd, hrev⟩
  · omega
  · exact hrev ▸ h.revision_le (h.entry c hc) (h.applied_issued d hd)

theorem nextCommand_revision {commands : Commands} {facingMode : String} {now : ℤ}
    (h : ((commands stream).getD noCommand).revision < 2 ^ 53) :
    (nextCommand commands stream facingMode now).revision =
      ((commands stream).getD noCommand).revision + 1 := by
  rw [nextCommand]
  exact Nat.mod_eq_of_lt (by omega)

theorem numbered_issued (h : Numbered stream s) {facingMode : String} {now : ℤ}
    (hcontinues : s.Continues stream (.update stream facingMode now))
    (hcounts : s.Counts stream (.update stream facingMode now)) :
    Numbered stream ⟨(CameraControl.update s.commands stream facingMode now).2,
      s.issued ++ [nextCommand s.commands stream facingMode now], s.publisher⟩ := by
  have hrev : (nextCommand s.commands stream facingMode now).revision =
      ((s.commands stream).getD noCommand).revision + 1 := nextCommand_revision (hcounts rfl)
  have hlt := hcounts rfl
  have hmem : ∀ {c}, c ∈ s.issued →
      c ∈ s.issued ++ [nextCommand s.commands stream facingMode now] :=
    fun hc => List.mem_append_left _ hc
  refine ⟨?_, ?_, ?_, fun c hc => hmem (h.applied_issued c hc), h.last, ?_, h.handled⟩
  · rw [List.map_append, List.pairwise_append]
    refine ⟨h.increasing, List.pairwise_singleton _ _, ?_⟩
    intro r hr r' hr'
    rw [List.map_singleton, List.mem_singleton] at hr'
    obtain ⟨d, hd, rfl⟩ := List.mem_map.1 hr
    rcases hcontinues rfl with hsome | hnone
    · obtain ⟨c, hc⟩ := Option.isSome_iff_exists.1 hsome
      have hle := h.revision_le (h.entry c hc) hd
      rw [hc, Option.getD_some] at hrev
      omega
    · rw [hnone] at hd
      exact absurd hd List.not_mem_nil
  · intro c hc
    rcases List.mem_append.1 hc with hc | hc
    · exact h.counted c hc
    · rw [List.mem_singleton] at hc
      rw [hc]
      omega
  · intro c hc
    simp only [CameraControl.update, Function.update_self, Option.some.injEq] at hc
    rw [List.getLast?_concat, hc]
  · intro c hc
    rcases h.fetched c hc with hno | ⟨hissued, hle⟩
    · exact .inl hno
    · exact .inr ⟨hmem hissued, hle⟩

/-- An answer that the publisher passes over was applied before. -/
theorem numbered_answered (h : Numbered stream s) {command : CameraCommand} {cameraFails : Bool}
    (hfetched : s.publisher.fetched = some command) :
    Numbered stream { s with
      publisher := s.publisher.checkCameraCommand command cameraFails } := by
  have hanswer := h.fetched command hfetched
  by_cases hnew : jsNumber command.revision > s.publisher.lastRevision ∧ command.facingMode ≠ ""
  · have hissued : command ∈ s.issued := by
      rcases hanswer with rfl | ⟨hissued, -⟩
      · exact absurd rfl hnew.2
      · exact hissued
    have hjs := jsNumber_of_le (h.counted command hissued).2
    simp only [Publisher.checkCameraCommand, if_pos hnew]
    refine ⟨h.increasing, h.counted, h.entry, ?_, .inr ⟨command, ?_, hjs.symm⟩, ?_, ?_⟩
    · intro c hc
      rcases List.mem_append.1 hc with hc | hc
      · exact h.applied_issued c hc
      · exact List.mem_singleton.1 hc ▸ hissued
    · exact List.mem_append_right _ List.mem_cons_self
    · intro c hc
      cases hc
    · intro c hc hmode
      rcases List.mem_append.1 hc with hc | hc
      · exact List.mem_append_left _ (h.handled c hc hmode)
      · exact List.mem_append_right _ hc
  · simp only [Publisher.checkCameraCommand, if_neg hnew]
    refine ⟨h.increasing, h.counted, h.entry, h.applied_issued, h.last, ?_, ?_⟩
    · intro c hc
      cases hc
    · intro c hc hmode
      rcases List.mem_append.1 hc with hc | hc
      · exact h.handled c hc hmode
      · rw [List.mem_singleton] at hc
        subst hc
        rcases hanswer with rfl | ⟨hissued, hle⟩
        · exact absurd rfl hmode
        · obtain ⟨hpos, hbound⟩ := h.counted c hissued
          have hjs := jsNumber_of_le hbound
          have hsame : c.revision = s.publisher.lastRevision := by
            by_contra hne
            exact hnew ⟨by omega, hmode⟩
          rcases h.last with h0 | ⟨d, hd, hrev⟩
          · omega
          · have heq := h.eq_of_revision_eq hissued (h.applied_issued d hd) (hsame.trans hrev.symm)
            exact heq ▸ hd

theorem numbered_of_moves {a : Action} (h : Numbered stream s)
    (hcontinues : s.Continues stream a) (hcounts : s.Counts stream a)
    (hmoves : Moves stream s a s') : Numbered stream s' := by
  cases hmoves with
  | issued hmode => exact numbered_issued h hcontinues hcounts
  | other _ hcommands =>
      exact ⟨h.increasing, h.counted, fun c hc => h.entry c (hcommands c hc), h.applied_issued,
        h.last, h.fetched, h.handled⟩
  | @fetched now =>
      refine ⟨h.increasing, h.counted, fun c hc => h.entry c (read_snd_eq_some hc),
        h.applied_issued, h.last, ?_, h.handled⟩
      intro c hc
      have hread : (CameraControl.read s.commands stream now).1 = c := Option.some.inj hc
      rcases read_fst s.commands stream now with hno | hsome
      · exact .inl (hread ▸ hno)
      · rw [hread] at hsome
        exact .inr ⟨List.mem_of_getLast? (h.entry c hsome), h.lastRevision_le hsome⟩
  | answered hfetched => exact numbered_answered h hfetched
  | failed => exact ⟨h.increasing, h.counted, h.entry, h.applied_issued, h.last,
      fun c hc => (nomatch hc), h.handled⟩
  | mounted => exact ⟨h.increasing, h.counted, h.entry, fun c hc => absurd hc List.not_mem_nil,
      .inl rfl, fun c hc => (nomatch hc), fun c hc => absurd hc List.not_mem_nil⟩

/-! ## Revisions that increase -/

theorem issued_prefix_of_moves {a : Action} (h : Moves stream s a s') : s.issued <+: s'.issued := by
  cases h with
  | issued hmode => exact List.prefix_append _ _
  | other _ hcommands => exact List.prefix_refl _
  | fetched => exact List.prefix_refl _
  | answered hfetched => exact List.prefix_refl _
  | failed => exact List.prefix_refl _
  | mounted => exact List.prefix_refl _

theorem issued_prefix_of_run {acts : List Action} (h : Runs.run (step stream) s acts = some s') :
    s.issued <+: s'.issued := by
  have hstep : ∀ t a t', s.issued <+: t.issued → step stream t a = some t' →
      s.issued <+: t'.issued :=
    fun _ _ _ ht hmove => ht.trans (issued_prefix_of_moves (step_moves hmove))
  exact Runs.run_invariant_of_step hstep (List.prefix_refl _) h

/-- The revisions of the commands strictly increase. -/
def Increasing (s : State) : Prop := (s.issued.map CameraCommand.revision).Pairwise (· < ·)

theorem increasing_of_initial (h : Increasing s') (hpre : s.issued <+: s'.issued) :
    Increasing s :=
  List.Pairwise.sublist (hpre.map _).sublist h

/-- The entry is a command that was issued, and revisions that increase have not wrapped. -/
structure Counted (stream : String) (s : State) : Prop where
  entry : ∀ c, s.commands stream = some c → c ∈ s.issued
  positive : Increasing s → ∀ c ∈ s.issued, 0 < c.revision

theorem counted_of_moves {a : Action} (h : Counted stream s) (hmoves : Moves stream s a s') :
    Counted stream s' := by
  cases hmoves with
  | @issued facingMode now hmode =>
      refine ⟨fun c hc => ?_, fun hinc c hc => ?_⟩
      · simp only [CameraControl.update, Function.update_self, Option.some.injEq] at hc
        exact List.mem_append_right _ (List.mem_singleton.2 hc.symm)
      · have hbefore := increasing_of_initial (s := s) hinc (List.prefix_append _ _)
        rcases List.mem_append.1 hc with hc | hc
        · exact h.positive hbefore c hc
        · rw [List.mem_singleton] at hc
          subst hc
          cases hentry : s.commands stream with
          | none =>
              rw [nextCommand, hentry]
              exact Nat.one_pos
          | some d =>
              have hlt : d.revision <
                  (nextCommand s.commands stream facingMode now).revision := by
                unfold Increasing at hinc
                rw [List.map_append, List.pairwise_append] at hinc
                exact hinc.2.2 _ (List.mem_map_of_mem (h.entry d hentry)) _ List.mem_cons_self
              omega
  | other _ hcommands => exact ⟨fun c hc => h.entry c (hcommands c hc), h.positive⟩
  | fetched => exact ⟨fun c hc => h.entry c (read_snd_eq_some hc), h.positive⟩
  | answered hfetched => exact ⟨h.entry, h.positive⟩
  | failed => exact ⟨h.entry, h.positive⟩
  | mounted => exact ⟨h.entry, h.positive⟩

theorem counted_initial (stream : String) : Counted stream initial :=
  ⟨fun _ hc => (nomatch hc), fun _ _ hc => absurd hc List.not_mem_nil⟩

/-- After a deletion the next command has the revision 1 again. -/
theorem continues_of_increasing (h : Counted stream s) {a : Action}
    (hmoves : Moves stream s a s') (hinc : Increasing s') : s.Continues stream a := by
  cases hmoves with
  | @issued facingMode now hmode =>
      intro _
      cases hentry : s.commands stream with
      | some d => exact .inl rfl
      | none =>
          right
          by_contra hne
          obtain ⟨c, hc⟩ := List.exists_mem_of_ne_nil _ hne
          have hpos := h.positive (increasing_of_initial hinc (List.prefix_append _ _)) c hc
          have hone : (nextCommand s.commands stream facingMode now).revision = 1 := by
            rw [nextCommand, hentry]
            rfl
          unfold Increasing at hinc
          rw [List.map_append, List.pairwise_append] at hinc
          have hlt := hinc.2.2 _ (List.mem_map_of_mem hc) _ List.mem_cons_self
          simp only [hone] at hlt
          omega
  | @other a commands ha hcommands =>
      cases a with
      | update streamID facingMode now =>
          rintro rfl
          exact absurd rfl (ha facingMode now)
      | read streamID now => trivial
      | fetch now => trivial
      | answer cameraFails => trivial
      | fail => trivial
      | mount => trivial
  | fetched => trivial
  | answered hfetched => trivial
  | failed => trivial
  | mounted => trivial

theorem along_continues (h : Counted stream s) {acts : List Action}
    (hrun : Runs.run (step stream) s acts = some s') (hinc : Increasing s') :
    Runs.Along (step stream) (Continues stream) s acts := by
  induction acts generalizing s with
  | nil => trivial
  | cons a acts ih =>
      rw [Runs.run_cons, Option.bind_eq_some_iff] at hrun
      obtain ⟨t, ht, hrun⟩ := hrun
      have hmoves := step_moves ht
      have hinc' : Increasing t := increasing_of_initial hinc (issued_prefix_of_run hrun)
      refine ⟨continues_of_increasing h hmoves hinc', fun t' ht' => ?_⟩
      rw [ht, Option.some.injEq] at ht'
      subst ht'
      exact ih (counted_of_moves h hmoves) hrun

/-- In every run in which each command of the stream finds the entry of the one before it, and
fewer than `2 ^ 53` are counted, the revisions increase and the publisher applies every command
that it gets; and they increase in no other run. -/
theorem delivers_of_continues {acts : List Action}
    (h : Runs.run (step stream) initial acts = some s) :
    (Runs.Along (step stream) (fun s a => s.Continues stream a ∧ s.Counts stream a) initial acts →
      s.Delivers) ∧
    (s.Delivers → Runs.Along (step stream) (Continues stream) initial acts) := by
  constructor
  · intro hall
    have hnumbered : Numbered stream s := Runs.run_invariant
      (fun _ _ _ hs hC hstep => numbered_of_moves hs hC.1 hC.2 (step_moves hstep))
      (numbered_initial stream) hall h
    exact ⟨hnumbered.increasing, hnumbered.handled⟩
  · intro hdelivers
    exact along_continues (counted_initial stream) h hdelivers.increasing

/-- Two commands within the lifetime of the first, both fetched. -/
def busyRun : List Action :=
  [.update "raw.mobile.front" "rear" 0, .fetch Clock.second, .answer false,
    .update "raw.mobile.front" "front" (20 * Clock.second), .fetch (40 * Clock.second),
    .answer false]

theorem delivers_busyRun :
    ∃ s, Runs.run (step "raw.mobile.front") initial busyRun = some s ∧ s.Delivers := by
  refine ⟨_, rfl, ?_⟩
  exact (@delivers_of_continues "raw.mobile.front" _ busyRun rfl).1 (by decide +kernel)

/-- The first command expires and is read before the second. -/
def idleRun : List Action :=
  [.update "raw.mobile.front" "rear" 0, .fetch Clock.second, .answer false,
    .fetch (31 * Clock.second), .answer false,
    .update "raw.mobile.front" "front" (40 * Clock.second), .fetch (41 * Clock.second),
    .answer false]

theorem second_command_passed_over :
    ¬∀ (stream : String) (acts : List Action) (s : State),
      Runs.run (step stream) initial acts = some s → s.Delivers := by
  intro h
  have hdelivers := h "raw.mobile.front" idleRun _ rfl
  have happlied := hdelivers.applied ⟨"front", 1, 40 * Clock.second⟩
  revert happlied
  decide +kernel

end State

end GcsSaker.CameraControl
