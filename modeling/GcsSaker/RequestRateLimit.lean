import GcsSaker.Clock
import GcsSaker.FixedWindows
import GcsSaker.GoMap
import GcsSaker.Machines
import Mathlib.Data.Finset.Card

/-!
# Limited requests for publish sessions

`fixedWindowLimiter`: at most `limit` calls of a key are allowed in each of its windows, and at most
`maxKeys` keys are tracked. The mutex makes every call one step. The log of the calls is a record of
the model.
-/

namespace GcsSaker.RequestRateLimit

open FixedWindows (Call Limited Running allowedCalls ofWindow)

structure RateWindow where
  count : ℤ
  resetAt : ℤ

abbrev Windows := AList fun _ : String => RateWindow

structure FixedWindowLimiter where
  windows : Windows
  limit : ℤ
  window : ℤ
  maxKeys : ℤ

def newFixedWindowLimiter (limit window maxKeys : ℤ) : FixedWindowLimiter :=
  ⟨∅, limit, window, maxKeys⟩

/-- `Duration.Seconds`, cut to an integer. -/
def seconds (d : ℤ) : ℤ :=
  (Float.ofInt (Int.tdiv d Clock.second) +
    Float.ofInt (Int.tmod d Clock.second) / 1e9).toInt64.toInt

/-- A call of `allow`, with the time it reads and the order in which a loop over the map comes by
the keys. -/
structure Request where
  key : String
  now : ℤ
  range : List String → List String
  perm : ∀ keys, (range keys).Perm keys

def windowExpired (current : Option RateWindow) (now : ℤ) : Bool :=
  current.all fun current => current.resetAt ≤ now

/-- The loop of `cleanup` over the keys that it has still to come by. -/
def cleanup (now : ℤ) : List String → ℕ → Windows → Windows
  | [], _, windows => windows
  | key :: keys, removed, windows =>
    match windows.lookup key with
    | none => cleanup now keys removed windows
    | some current =>
      if current.resetAt ≤ now then
        if 64 ≤ removed + 1 then windows.erase key
        else cleanup now keys (removed + 1) (windows.erase key)
      else cleanup now keys removed windows

namespace FixedWindowLimiter

variable (limiter : FixedWindowLimiter) (request : Request)

def configured : Bool := 0 < limiter.limit && 0 < limiter.window && 0 < limiter.maxKeys

/-- The number of keys that are tracked. -/
def tracked : ℤ := limiter.windows.keys.length

def cleaned : FixedWindowLimiter :=
  if limiter.maxKeys ≤ limiter.tracked then
    { limiter with
      windows := cleanup request.now (request.range limiter.windows.keys) 0 limiter.windows }
  else limiter

def set (key : String) (current : RateWindow) : FixedWindowLimiter :=
  { limiter with windows := limiter.windows.insert key current }

def allow : FixedWindowLimiter × Bool × ℤ :=
  if !limiter.configured then (limiter, false, 1)
  else
    let l := limiter.cleaned request
    match l.windows.lookup request.key with
    | none =>
      if l.maxKeys ≤ l.tracked then (l, false, seconds l.window)
      else (l.set request.key ⟨1, request.now + l.window⟩, true, 0)
    | some current =>
      if windowExpired (some current) request.now then
        (l.set request.key ⟨1, request.now + l.window⟩, true, 0)
      else
        let current := { current with count := current.count + 1 }
        if current.count ≤ l.limit then (l.set request.key current, true, 0)
        else (l.set request.key current, false, max (seconds (current.resetAt - request.now)) 1)

end FixedWindowLimiter

/-- A limiter with the calls it has answered. -/
structure Record where
  limiter : FixedWindowLimiter
  log : List (Call String)

def Record.allow (record : Record) (request : Request) : Record × Bool × ℤ :=
  let (limiter, answer) := record.limiter.allow request
  (⟨limiter, ⟨request.key, request.now, answer.1⟩ :: record.log⟩, answer)

end GcsSaker.RequestRateLimit

/-!
# Limited requests stay limited

The windows that are stored are those of the log, and a cleanup of a full map that removes nothing
leaves no window that has ended.
-/

namespace GcsSaker.RequestRateLimit

open FixedWindows (Call Limited Running allowedCalls ofWindow)

/-! ## Cleanup -/

/-- Some of the windows that have ended are removed, and nothing else. -/
structure Swept (now : ℤ) (windows windows' : Windows) : Prop where
  kept : ∀ key current, windows'.lookup key = some current → windows.lookup key = some current
  running : ∀ key current, windows.lookup key = some current → now < current.resetAt →
    windows'.lookup key = some current
  length_le : windows'.keys.length ≤ windows.keys.length

section Cleanup

variable {now : ℤ} {windows windows' windows'' : Windows} {key : String} {current : RateWindow}

theorem Swept.refl (now : ℤ) (windows : Windows) : Swept now windows windows :=
  ⟨fun _ _ h => h, fun _ _ h _ => h, le_rfl⟩

theorem Swept.trans (h : Swept now windows windows') (h' : Swept now windows' windows'') :
    Swept now windows windows'' where
  kept key current hlookup := h.kept key current (h'.kept key current hlookup)
  running key current hlookup hlt :=
    h'.running key current (h.running key current hlookup hlt) hlt
  length_le := h'.length_le.trans h.length_le

theorem mem_keys_of_lookup (h : windows.lookup key = some current) : key ∈ windows.keys :=
  AList.lookup_isSome.1 (by rw [h]; rfl)

theorem length_erase_lt (h : windows.lookup key = some current) :
    (windows.erase key).keys.length < windows.keys.length :=
  Nat.lt_of_succ_le (GoMap.length_erase_of_mem (mem_keys_of_lookup h)).le

theorem Swept.erase (h : windows.lookup key = some current) (hended : current.resetAt ≤ now) :
    Swept now windows (windows.erase key) where
  kept other stored hlookup := GoMap.lookup_of_lookup_erase hlookup
  running other stored hlookup hlt := by
    have hne : other ≠ key := by
      rintro rfl
      rw [h, Option.some.injEq] at hlookup
      rw [← hlookup] at hlt
      omega
    rw [AList.lookup_erase_ne hne]
    exact hlookup
  length_le := (length_erase_lt h).le

theorem cleanup_swept (keys : List String) (removed : ℕ) (windows : Windows) :
    Swept now windows (cleanup now keys removed windows) := by
  induction keys generalizing removed windows with
  | nil => exact Swept.refl now windows
  | cons key keys ih =>
      rw [cleanup]
      split
      next => exact ih removed windows
      next current hlookup =>
        split_ifs with hended hmany
        · exact Swept.erase hlookup hended
        · exact (Swept.erase hlookup hended).trans (ih (removed + 1) _)
        · exact ih removed windows

/-- A cleanup that comes by a window that has ended removes one. -/
theorem cleanup_length_lt {keys : List String} (hmem : key ∈ keys)
    (hlookup : windows.lookup key = some current) (hended : current.resetAt ≤ now)
    (removed : ℕ) : (cleanup now keys removed windows).keys.length < windows.keys.length := by
  induction keys generalizing removed with
  | nil => exact absurd hmem List.not_mem_nil
  | cons first keys ih =>
      rw [cleanup]
      by_cases hfirst : key = first
      · subst hfirst
        rw [hlookup]
        dsimp only
        rw [if_pos hended]
        split_ifs
        · exact length_erase_lt hlookup
        · exact (cleanup_swept keys _ _).length_le.trans_lt (length_erase_lt hlookup)
      · have hrest := ih (List.mem_of_ne_of_mem hfirst hmem)
        split
        next => exact hrest removed
        next stored hstored =>
          split_ifs
          · exact length_erase_lt hstored
          · exact (cleanup_swept keys _ _).length_le.trans_lt (length_erase_lt hstored)
          · exact hrest removed

end Cleanup

/-! ## A call -/

section Calls

variable {limiter : FixedWindowLimiter} {request : Request}

theorem cleaned_swept (limiter : FixedWindowLimiter) (request : Request) :
    Swept request.now limiter.windows (limiter.cleaned request).windows := by
  rw [FixedWindowLimiter.cleaned]
  split
  · exact cleanup_swept _ _ _
  · exact Swept.refl _ _

theorem cleaned_settings (limiter : FixedWindowLimiter) (request : Request) :
    (limiter.cleaned request).limit = limiter.limit ∧
      (limiter.cleaned request).window = limiter.window ∧
      (limiter.cleaned request).maxKeys = limiter.maxKeys := by
  rw [FixedWindowLimiter.cleaned]
  split <;> exact ⟨rfl, rfl, rfl⟩

/-- A map that is still full after the cleanup has no window that has ended. -/
theorem running_of_full (htracked : limiter.tracked ≤ limiter.maxKeys)
    (hfull : limiter.maxKeys ≤ (limiter.cleaned request).tracked) {key : String}
    {current : RateWindow} (hlookup : limiter.windows.lookup key = some current) :
    request.now < current.resetAt := by
  by_contra hended
  have hmem : key ∈ request.range limiter.windows.keys := by
    rw [(request.perm _).mem_iff, ← AList.mem_keys, ← AList.lookup_isSome, hlookup]
    rfl
  rw [FixedWindowLimiter.cleaned] at hfull
  split at hfull
  next =>
    have hlt := cleanup_length_lt hmem hlookup (not_lt.1 hended) 0
    simp only [FixedWindowLimiter.tracked] at hfull htracked
    omega
  next hroom => exact hroom hfull

/-- What a call makes of the windows that are left after the cleanup. -/
inductive Outcome (limiter : FixedWindowLimiter) (request : Request) : Windows → Bool → Prop
  | full (hlookup : limiter.windows.lookup request.key = none)
      (hfull : limiter.maxKeys ≤ limiter.tracked) : Outcome limiter request limiter.windows false
  | opened (hended : ∀ current, limiter.windows.lookup request.key = some current →
        current.resetAt ≤ request.now)
      (hroom : limiter.windows.lookup request.key = none → limiter.tracked < limiter.maxKeys) :
      Outcome limiter request
        (limiter.windows.insert request.key ⟨1, request.now + limiter.window⟩) true
  | counted (current : RateWindow) (hlookup : limiter.windows.lookup request.key = some current)
      (hrunning : request.now < current.resetAt) :
      Outcome limiter request
        (limiter.windows.insert request.key { current with count := current.count + 1 })
        (decide (current.count + 1 ≤ limiter.limit))

theorem allow_outcome (hconfigured : limiter.configured = true) :
    Outcome (limiter.cleaned request) request (limiter.allow request).1.windows
        (limiter.allow request).2.1 ∧
      (limiter.allow request).1.limit = limiter.limit ∧
      (limiter.allow request).1.window = limiter.window ∧
      (limiter.allow request).1.maxKeys = limiter.maxKeys := by
  have hsettings := cleaned_settings limiter request
  rw [FixedWindowLimiter.allow, hconfigured, Bool.not_true, if_neg Bool.false_ne_true]
  dsimp only
  split
  next hlookup =>
    split_ifs with hfull
    · exact ⟨.full hlookup hfull, hsettings⟩
    · refine ⟨.opened (fun current hsome => ?_) fun _ => not_le.1 hfull, hsettings⟩
      rw [hlookup] at hsome
      exact nomatch hsome
  next current hlookup =>
    split_ifs with hexpired hlimit
    · refine ⟨.opened (fun stored hsome => ?_) fun hnone => ?_, hsettings⟩
      · rw [hlookup, Option.some.injEq] at hsome
        rw [← hsome]
        exact of_decide_eq_true hexpired
      · rw [hlookup] at hnone
        exact nomatch hnone
    · have houtcome := Outcome.counted current hlookup
        (not_le.1 fun hended => hexpired (decide_eq_true hended))
      rw [decide_eq_true hlimit] at houtcome
      exact ⟨houtcome, hsettings⟩
    · have houtcome := Outcome.counted current hlookup
        (not_le.1 fun hended => hexpired (decide_eq_true hended))
      rw [decide_eq_false hlimit] at houtcome
      exact ⟨houtcome, hsettings⟩

end Calls

/-! ## What the limiter should do -/

/-- What a call promises, told from the log of the calls before it. -/
structure Right (limit window maxKeys : ℤ) (record : Record) (request : Request) : Prop where
  tracked_le : (record.allow request).1.limiter.tracked ≤ maxKeys
  allowed_le : ∀ key,
    (allowedCalls (ofWindow window key (record.allow request).1.log) : ℤ) ≤ limit
  allowed_iff : Running window request.now (ofWindow window request.key record.log) →
    ((record.allow request).2.1 = true ↔
      ((ofWindow window request.key record.log).length : ℤ) < limit)
  refused_iff : record.limiter.windows.lookup request.key = none →
    ((record.allow request).2.1 = false ↔ ∃ keys : Finset String, keys.card = maxKeys ∧
      request.key ∉ keys ∧ ∀ key ∈ keys, Running window request.now (ofWindow window key record.log))

/-- The stored windows are those of the log, and no other window is running at `now`. -/
structure Sound (limit window maxKeys now : ℤ) (record : Record) : Prop where
  limit_eq : record.limiter.limit = limit
  window_eq : record.limiter.window = window
  maxKeys_eq : record.limiter.maxKeys = maxKeys
  tracked_le : record.limiter.tracked ≤ maxKeys
  stored : ∀ key current, record.limiter.windows.lookup key = some current →
    (∃ first ∈ (ofWindow window key record.log).getLast?, current.resetAt = first.now + window) ∧
      current.count = (ofWindow window key record.log).length
  untracked : ∀ key, record.limiter.windows.lookup key = none →
    ¬Running window now (ofWindow window key record.log)
  limited : Limited window limit.toNat record.log

section Steps

variable {limit window maxKeys now : ℤ} {record : Record} {request : Request}

theorem sound_initial (hmaxKeys : 0 < maxKeys) :
    Sound limit window maxKeys now ⟨newFixedWindowLimiter limit window maxKeys, []⟩ where
  limit_eq := rfl
  window_eq := rfl
  maxKeys_eq := rfl
  tracked_le := hmaxKeys.le
  stored key current hlookup := by
    rw [newFixedWindowLimiter, AList.lookup_empty] at hlookup
    exact nomatch hlookup
  untracked _ _ := FixedWindows.not_running_nil
  limited := FixedWindows.limited_nil

theorem Sound.running_iff (h : Sound limit window maxKeys now record) {key : String}
    {current : RateWindow} (hlookup : record.limiter.windows.lookup key = some current) (t : ℤ) :
    Running window t (ofWindow window key record.log) ↔ t < current.resetAt := by
  obtain ⟨first, hfirst, hreset⟩ := (h.stored key current hlookup).1
  constructor
  · rintro ⟨first', hfirst', hlt⟩
    rw [hreset, Option.mem_unique hfirst hfirst']
    exact hlt
  · intro hlt
    exact ⟨first, hfirst, hreset ▸ hlt⟩

/-- The cleanup leaves the record sound, at the time of the call. -/
theorem Sound.cleaned (h : Sound limit window maxKeys now record) (hle : now ≤ request.now) :
    Sound limit window maxKeys request.now ⟨record.limiter.cleaned request, record.log⟩ := by
  have hswept := cleaned_swept record.limiter request
  obtain ⟨hlimit, hwindow, hmaxKeys⟩ := cleaned_settings record.limiter request
  refine ⟨hlimit.trans h.limit_eq, hwindow.trans h.window_eq, hmaxKeys.trans h.maxKeys_eq, ?_,
    fun key current hlookup => h.stored key current (hswept.kept key current hlookup),
    fun key hnone hrunning => ?_, h.limited⟩
  · exact (Int.ofNat_le.2 hswept.length_le).trans h.tracked_le
  · cases hbefore : record.limiter.windows.lookup key with
    | none => exact h.untracked key hbefore (hrunning.mono hle)
    | some current =>
        have hlt := (h.running_iff hbefore request.now).1 hrunning
        have hkept := hswept.running key current hbefore hlt
        rw [hnone] at hkept
        exact nomatch hkept

/-- The window that a call meets is running just if it is stored and has not ended. -/
theorem Sound.running_iff_stored (h : Sound limit window maxKeys now record) {key : String} :
    Running window now (ofWindow window key record.log) ↔
      ∃ current, record.limiter.windows.lookup key = some current ∧ now < current.resetAt := by
  constructor
  · intro hrunning
    cases hlookup : record.limiter.windows.lookup key with
    | none => exact absurd hrunning (h.untracked _ hlookup)
    | some current => exact ⟨current, rfl, (h.running_iff hlookup _).1 hrunning⟩
  · rintro ⟨current, hlookup, hlt⟩
    exact (h.running_iff hlookup _).2 hlt

variable {windows : Windows} {allowed : Bool}

/-- In a running window a call is allowed just if fewer than `limit` calls were before it. -/
theorem Sound.allowed_iff (h : Sound limit window maxKeys request.now record)
    (houtcome : Outcome record.limiter request windows allowed)
    (hrunning : Running window request.now (ofWindow window request.key record.log)) :
    allowed = true ↔ ((ofWindow window request.key record.log).length : ℤ) < limit := by
  obtain ⟨current, hcurrent, hlt⟩ := h.running_iff_stored.1 hrunning
  cases houtcome with
  | full hlookup hfull =>
      rw [hcurrent] at hlookup
      exact nomatch hlookup
  | opened hended hroom =>
      have := hended current hcurrent
      omega
  | counted stored hlookup hrunning =>
      rw [decide_eq_true_iff, (h.stored _ _ hlookup).2, h.limit_eq]
      exact Int.add_one_le_iff

/-- The window of the call is written as the log has it; those of other keys stay. -/
theorem Sound.insert (h : Sound limit window maxKeys request.now record) {current : RateWindow}
    (hlimited : Limited window limit.toNat (⟨request.key, request.now, allowed⟩ :: record.log))
    (htracked : ((record.limiter.windows.insert request.key current).keys.length : ℤ) ≤ maxKeys)
    (hfirst : ∃ first ∈ (ofWindow window request.key
        (⟨request.key, request.now, allowed⟩ :: record.log)).getLast?,
      current.resetAt = first.now + window)
    (hcount : current.count = (ofWindow window request.key
      (⟨request.key, request.now, allowed⟩ :: record.log)).length) :
    Sound limit window maxKeys request.now
      ⟨{ record.limiter with windows := record.limiter.windows.insert request.key current },
        ⟨request.key, request.now, allowed⟩ :: record.log⟩ where
  limit_eq := h.limit_eq
  window_eq := h.window_eq
  maxKeys_eq := h.maxKeys_eq
  tracked_le := htracked
  stored key stored hlookup := by
    rcases GoMap.lookup_insert_cases hlookup with ⟨rfl, rfl⟩ | ⟨hne, hbefore⟩
    · exact ⟨hfirst, hcount⟩
    · rw [FixedWindows.ofWindow_of_ne hne.symm]
      exact h.stored key stored hbefore
  untracked key hnone := by
    rw [AList.lookup_insert_eq_none] at hnone
    rw [FixedWindows.ofWindow_of_ne (Ne.symm hnone.1)]
    exact h.untracked key hnone.2
  limited := hlimited

theorem Sound.outcome (h : Sound limit window maxKeys request.now record)
    (hlimit : 0 < limit) (houtcome : Outcome record.limiter request windows allowed) :
    Sound limit window maxKeys request.now
      ⟨{ record.limiter with windows }, ⟨request.key, request.now, allowed⟩ :: record.log⟩ := by
  have hlimited : Limited window limit.toNat
      (⟨request.key, request.now, allowed⟩ :: record.log) := by
    refine h.limited.cons (by omega) fun hrunning => ?_
    dsimp only
    rw [h.allowed_iff houtcome hrunning]
    omega
  cases houtcome with
  | full hlookup hfull =>
      have hsame : ∀ key, ofWindow window key
          (⟨request.key, request.now, false⟩ :: record.log) = ofWindow window key record.log := by
        intro key
        by_cases hkey : request.key = key
        · subst hkey
          exact FixedWindows.ofWindow_of_refused (h.untracked _ hlookup) rfl
        · exact FixedWindows.ofWindow_of_ne hkey
      refine ⟨h.limit_eq, h.window_eq, h.maxKeys_eq, h.tracked_le, fun key current hcurrent => ?_,
        fun key hnone => ?_, hlimited⟩
      · rw [hsame]
        exact h.stored key current hcurrent
      · rw [hsame]
        exact h.untracked key hnone
  | opened hended hroom =>
      have hnot : ¬Running window request.now (ofWindow window request.key record.log) := by
        rw [h.running_iff_stored]
        rintro ⟨current, hlookup, hlt⟩
        have := hended current hlookup
        omega
      have hopened : ofWindow window request.key
          (⟨request.key, request.now, true⟩ :: record.log) = [⟨request.key, request.now, true⟩] :=
        FixedWindows.ofWindow_of_opening hnot rfl
      refine h.insert hlimited ?_ ?_ ?_
      · cases hlookup : record.limiter.windows.lookup request.key with
        | none =>
            have hlt := hroom hlookup
            have hle := GoMap.length_insert_le record.limiter.windows request.key
              ⟨1, request.now + record.limiter.window⟩
            rw [h.maxKeys_eq, FixedWindowLimiter.tracked] at hlt
            omega
        | some stored =>
            rw [GoMap.length_insert_of_mem (mem_keys_of_lookup hlookup)]
            exact h.tracked_le
      · rw [hopened, h.window_eq]
        exact ⟨_, rfl, rfl⟩
      · rw [hopened]
        rfl
  | counted current hlookup hlt =>
      have hrunning := (h.running_iff hlookup request.now).2 hlt
      have hgrown : ofWindow window request.key
          (⟨request.key, request.now, decide (current.count + 1 ≤ record.limiter.limit)⟩ ::
            record.log) = _ := FixedWindows.ofWindow_of_running hrunning
      obtain ⟨hfirst, hcount⟩ := h.stored _ _ hlookup
      refine h.insert hlimited ?_ ?_ ?_
      · rw [GoMap.length_insert_of_mem (mem_keys_of_lookup hlookup)]
        exact h.tracked_le
      · rw [hgrown, FixedWindows.getLast?_cons_of_running hrunning]
        exact hfirst
      · rw [hgrown, List.length_cons, hcount]
        rfl

theorem Sound.configured (h : Sound limit window maxKeys now record) (hlimit : 0 < limit)
    (hwindow : 0 < window) (hmaxKeys : 0 < maxKeys) : record.limiter.configured = true := by
  rw [FixedWindowLimiter.configured, h.limit_eq, h.window_eq, h.maxKeys_eq, decide_eq_true hlimit,
    decide_eq_true hwindow, decide_eq_true hmaxKeys]
  rfl

theorem Sound.allow (h : Sound limit window maxKeys now record) (hlimit : 0 < limit)
    (hwindow : 0 < window) (hmaxKeys : 0 < maxKeys) (hle : now ≤ request.now) :
    Sound limit window maxKeys request.now (record.allow request).1 := by
  obtain ⟨houtcome, hlimitEq, hwindowEq, hmaxKeysEq⟩ :=
    @allow_outcome _ request (h.configured hlimit hwindow hmaxKeys)
  have hcleaned := h.cleaned hle
  have hnext := hcleaned.outcome hlimit houtcome
  exact ⟨hlimitEq.trans h.limit_eq, hwindowEq.trans h.window_eq, hmaxKeysEq.trans h.maxKeys_eq,
    hnext.tracked_le, hnext.stored, hnext.untracked, hnext.limited⟩

/-- Keys that have a running window and are as many as may be tracked leave no room. -/
theorem Sound.full_of_running (h : Sound limit window maxKeys request.now record)
    {keys : Finset String} (hcard : (keys.card : ℤ) = maxKeys)
    (hrunning : ∀ key ∈ keys, Running window request.now (ofWindow window key record.log)) :
    maxKeys ≤ record.limiter.tracked := by
  have hsub : keys ⊆ record.limiter.windows.keys.toFinset := by
    intro key hkey
    obtain ⟨current, hlookup, -⟩ := h.running_iff_stored.1 (hrunning key hkey)
    rw [List.mem_toFinset, ← AList.mem_keys, ← AList.lookup_isSome, hlookup]
    rfl
  have hle := Finset.card_le_card hsub
  rw [List.toFinset_card_of_nodup record.limiter.windows.keys_nodup] at hle
  rw [FixedWindowLimiter.tracked]
  omega

theorem Sound.refused_iff (h : Sound limit window maxKeys now record) (hlimit : 0 < limit)
    (hwindow : 0 < window) (hmaxKeys : 0 < maxKeys) (hle : now ≤ request.now)
    (huntracked : record.limiter.windows.lookup request.key = none) :
    (record.allow request).2.1 = false ↔ ∃ keys : Finset String, keys.card = maxKeys ∧
      request.key ∉ keys ∧
        ∀ key ∈ keys, Running window request.now (ofWindow window key record.log) := by
  obtain ⟨houtcome, -⟩ := @allow_outcome _ request (h.configured hlimit hwindow hmaxKeys)
  have hcleaned := h.cleaned hle
  have hswept := cleaned_swept record.limiter request
  have hmaxKeysEq := (cleaned_settings record.limiter request).2.2
  change (record.limiter.allow request).2.1 = false ↔ _
  generalize (record.limiter.allow request).1.windows = windows at houtcome
  generalize (record.limiter.allow request).2.1 = allowed at houtcome
  have hnone : (record.limiter.cleaned request).windows.lookup request.key = none := by
    cases hlookup : (record.limiter.cleaned request).windows.lookup request.key with
    | none => rfl
    | some current =>
        rw [hswept.kept _ _ hlookup] at huntracked
        exact nomatch huntracked
  constructor
  · intro hrefused
    have hfull : record.limiter.maxKeys ≤ (record.limiter.cleaned request).tracked := by
      cases houtcome with
      | full hlookup hfull => exact hmaxKeysEq ▸ hfull
      | opened hended hroom => exact nomatch hrefused
      | counted current hlookup hlt =>
          rw [hnone] at hlookup
          exact nomatch hlookup
    have htracked : record.limiter.tracked ≤ record.limiter.maxKeys := by
      rw [h.maxKeys_eq]
      exact h.tracked_le
    refine ⟨record.limiter.windows.keys.toFinset, ?_, ?_, fun key hkey => ?_⟩
    · have hcard := List.toFinset_card_of_nodup record.limiter.windows.keys_nodup
      have hlength := hswept.length_le
      have hmax := h.maxKeys_eq
      simp only [FixedWindowLimiter.tracked] at hfull htracked
      omega
    · rw [List.mem_toFinset, ← AList.mem_keys, ← AList.lookup_isSome, huntracked]
      exact Bool.false_ne_true
    · rw [List.mem_toFinset, ← AList.mem_keys, ← AList.lookup_isSome,
        Option.isSome_iff_exists] at hkey
      obtain ⟨current, hlookup⟩ := hkey
      exact (h.running_iff hlookup _).2 (running_of_full htracked hfull hlookup)
  · rintro ⟨keys, hcard, -, hrunning⟩
    have hfull := hcleaned.full_of_running hcard hrunning
    cases houtcome with
    | full => rfl
    | opened hended hroom =>
        have hlt := hroom hnone
        rw [hmaxKeysEq, h.maxKeys_eq] at hlt
        exact absurd hlt (not_lt.2 hfull)
    | counted current hlookup hlt =>
        rw [hnone] at hlookup
        exact nomatch hlookup

theorem Sound.right (h : Sound limit window maxKeys now record) (hlimit : 0 < limit)
    (hwindow : 0 < window) (hmaxKeys : 0 < maxKeys) (hle : now ≤ request.now) :
    Right limit window maxKeys record request where
  tracked_le := (h.allow hlimit hwindow hmaxKeys hle).tracked_le
  allowed_le key := by
    have hle := (h.allow hlimit hwindow hmaxKeys hle).limited.allowedCalls_le key
    omega
  allowed_iff hrunning :=
    (h.cleaned hle).allowed_iff (allow_outcome (h.configured hlimit hwindow hmaxKeys)).1 hrunning
  refused_iff huntracked := h.refused_iff hlimit hwindow hmaxKeys hle huntracked

theorem Sound.along (hlimit : 0 < limit) (hwindow : 0 < window) (hmaxKeys : 0 < maxKeys)
    {requests : List Request} (h : Sound limit window maxKeys now record)
    (hclock : requests.Pairwise fun r r' => r.now ≤ r'.now) (hle : ∀ r ∈ requests, now ≤ r.now) :
    Machines.Along Record.allow (Right limit window maxKeys) record requests := by
  induction requests generalizing record now with
  | nil => trivial
  | cons request requests ih =>
      have hfirst := hle request (List.mem_cons_self ..)
      obtain ⟨hlater, hrest⟩ := List.pairwise_cons.1 hclock
      exact ⟨h.right hlimit hwindow hmaxKeys hfirst,
        ih (h.allow hlimit hwindow hmaxKeys hfirst) hrest hlater⟩

end Steps

/-- Every call does what it should, as long as the clock does not go back. -/
theorem requests_limited (limit window maxKeys : ℤ) (hlimit : 0 < limit) (hwindow : 0 < window)
    (hmaxKeys : 0 < maxKeys) (requests : List Request)
    (hclock : requests.Pairwise fun r r' => r.now ≤ r'.now) :
    Machines.Along Record.allow (Right limit window maxKeys)
      ⟨newFixedWindowLimiter limit window maxKeys, []⟩ requests := by
  cases requests with
  | nil => trivial
  | cons request requests =>
      have hinitial : Sound limit window maxKeys request.now
          ⟨newFixedWindowLimiter limit window maxKeys, []⟩ := sound_initial hmaxKeys
      refine hinitial.along hlimit hwindow hmaxKeys hclock fun r hr => ?_
      rcases List.mem_cons.1 hr with rfl | hr
      · exact le_rfl
      · exact (List.pairwise_cons.1 hclock).1 r hr

def requestAt (key : String) (seconds : ℤ) : Request :=
  ⟨key, seconds * Clock.second, id, fun _ => List.Perm.refl _⟩

/-- Two calls a minute of one subject at a time: the third of the first subject is refused, and so
is the other subject until the minute is over. -/
theorem requests_limited_sample :
    Machines.Along Record.allow (Right 2 (60 * Clock.second) 1)
        ⟨newFixedWindowLimiter 2 (60 * Clock.second) 1, []⟩
        [requestAt "a" 0, requestAt "a" 1, requestAt "a" 2, requestAt "b" 3, requestAt "b" 60] ∧
      (Machines.trace Record.allow ⟨newFixedWindowLimiter 2 (60 * Clock.second) 1, []⟩
        [requestAt "a" 0, requestAt "a" 1, requestAt "a" 2, requestAt "b" 3,
          requestAt "b" 60]).map (·.2.1) = [true, true, false, false, true] := by
  refine ⟨requests_limited 2 (60 * Clock.second) 1 (by decide) (by decide) (by decide) _ ?_, ?_⟩
  · decide
  · decide +kernel

end GcsSaker.RequestRateLimit
