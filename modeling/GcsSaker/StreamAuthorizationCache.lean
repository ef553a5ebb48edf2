import GcsSaker.StreamAuthorization

/-!
# What the authorization cache may answer

An answer from the cache is to be the very pair, decision and error, that the inner authorizer gave
on the call that filled the entry. The cache keeps the decision only and answers with no error, so
the pair is the same as long as no denial is ever stored. `cachedAnswersFaithful_iff` says that
this is the whole story: over all call sequences with a clock that does not go back, the cache is
faithful exactly when the inner authorizer never denies with a decision that outlives the call.
-/

namespace GcsSaker.StreamAuthorization

variable (digest : String → String)

/-- The exchange that filled the entry a key has after `history`. -/
def lastFill (history : List Exchange) (key : String) : Option Exchange :=
  history.find? fun e => e.filled && (e.call.key digest == key)

/-- Each exchange answered from the cache repeats the pair of the inner authorizer on the call
that filled the entry, and where that was a denial it gives `requireStreamAccess` an error. -/
def Faithful : List Exchange → Prop
  | [] => True
  | e :: older =>
    (e.fromCache = true → ∃ fill, lastFill digest older (e.call.key digest) = some fill ∧
      e.answer = fill.call.answer ∧
      ((∃ err, fill.call.answer.2 = some err ∧ err.isAccessDenied) →
        requireStreamAccess (.ok e.call.target) (fun _ => e.answer) ≠ none)) ∧
    Faithful older

/-- A denial whose decision is still good after the call, so that it is stored. -/
def StorableDenial (ttl now : ℤ) (answer : Answer) : Prop :=
  (∃ err, answer.2 = some err ∧ err.isAccessDenied) ∧ now < storedExpiry ttl now answer.1

namespace CachedAuthorizer

variable {c c' : CachedAuthorizer} {key : String} {now : ℤ}

theorem lookupLocked_hit {entry : CachedDecision} (h : c.lookupLocked key now = (c', some entry)) :
    c' = c ∧ c.entries.lookup key = some entry := by
  unfold lookupLocked at h
  cases hl : c.entries.lookup key with
  | none => simp only [hl, Prod.mk.injEq, reduceCtorEq, and_false] at h
  | some e =>
      simp only [hl] at h
      split_ifs at h with hn
      · simp only [Prod.mk.injEq, Option.some.injEq] at h
        exact ⟨h.1.symm, h.2 ▸ rfl⟩
      · simp only [Prod.mk.injEq, reduceCtorEq, and_false] at h

theorem lookupLocked_miss (h : c.lookupLocked key now = (c', none)) :
    c'.ttl = c.ttl ∧ ∀ k e, c'.entries.lookup k = some e → c.entries.lookup k = some e := by
  unfold lookupLocked at h
  cases hl : c.entries.lookup key with
  | none =>
      simp only [hl, Prod.mk.injEq, and_true] at h
      subst h
      exact ⟨rfl, fun _ _ he => he⟩
  | some e =>
      simp only [hl] at h
      split_ifs at h with hn
      · simp only [Prod.mk.injEq, reduceCtorEq, and_false] at h
      · simp only [Prod.mk.injEq, and_true] at h
        subst h
        exact ⟨rfl, fun _ _ he => GoMap.lookup_of_lookup_erase he⟩

theorem lookupLocked_fresh {entry : CachedDecision} (hl : c.entries.lookup key = some entry)
    (hn : now < entry.expiresAt) : c.lookupLocked key now = (c, some entry) := by
  simp only [lookupLocked, hl, if_pos hn]

theorem evictOldestLocked_ttl (scan : List String) : (c.evictOldestLocked scan).ttl = c.ttl := by
  unfold evictOldestLocked
  split_ifs <;> rfl

theorem lookup_of_lookup_evictOldestLocked {scan : List String} {k : String} {e : CachedDecision}
    (h : (c.evictOldestLocked scan).entries.lookup k = some e) : c.entries.lookup k = some e := by
  unfold evictOldestLocked at h
  split_ifs at h with hlen
  · exact h
  · exact GoMap.lookup_of_lookup_erase h

theorem storeLocked_ttl (decision : StreamAccessDecision) (scan : List String) :
    (c.storeLocked key now decision scan).ttl = c.ttl := by
  by_cases hn : now < storedExpiry c.ttl now decision
  · simp only [storeLocked, if_pos hn]
    exact evictOldestLocked_ttl scan
  · simp only [storeLocked, if_neg hn]

theorem lookup_storeLocked_self {decision : StreamAccessDecision} (scan : List String)
    (hn : now < storedExpiry c.ttl now decision) :
    (c.storeLocked key now decision scan).entries.lookup key =
      some ⟨decision, storedExpiry c.ttl now decision⟩ := by
  simp only [storeLocked, if_pos hn, AList.lookup_insert]

theorem lookup_storeLocked {decision : StreamAccessDecision} {scan : List String} {k : String}
    {e : CachedDecision} (h : (c.storeLocked key now decision scan).entries.lookup k = some e) :
    k = key ∧ now < storedExpiry c.ttl now decision ∧ e.decision = decision ∨
      (k = key → ¬ now < storedExpiry c.ttl now decision) ∧ c.entries.lookup k = some e := by
  by_cases hn : now < storedExpiry c.ttl now decision
  · by_cases hk : k = key
    · subst hk
      rw [lookup_storeLocked_self scan hn] at h
      obtain rfl := Option.some.inj h
      exact Or.inl ⟨rfl, hn, rfl⟩
    · simp only [storeLocked, if_pos hn, AList.lookup_insert_ne hk] at h
      exact Or.inr ⟨fun he => absurd he hk,
        GoMap.lookup_of_lookup_sweep (lookup_of_lookup_evictOldestLocked h)⟩
  · simp only [storeLocked, if_neg hn] at h
    exact Or.inr ⟨fun _ => hn, h⟩

variable {digest}

/-- A call answered from the cache leaves the cache alone and drops the error. -/
theorem authorizeStream_hit {call : AuthorizeCall} (h : c.answersFromCache digest call = true) :
    ∃ entry, c.entries.lookup (call.key digest) = some entry ∧
      c.authorizeStream digest call = (c, (entry.decision, none)) ∧
      c.fillsEntry digest call = false := by
  simp only [answersFromCache, Bool.and_eq_true, decide_eq_true_eq, Option.isSome_iff_exists] at h
  obtain ⟨httl, entry, he⟩ := h
  cases hl : c.lookupLocked (call.key digest) call.now with
  | mk c' found =>
      rw [hl] at he
      change found = some entry at he
      subst he
      obtain ⟨rfl, hlook⟩ := lookupLocked_hit hl
      refine ⟨entry, hlook, ?_, ?_⟩
      · simp only [authorizeStream, if_neg (not_le.mpr httl), hl]
      · simp only [fillsEntry, hl, Option.isNone_some, Bool.and_false, Bool.false_and]

/-- A call that asks the inner authorizer hands its answer back, and the only entry it can add is
the one for its own key, holding the decision it was given. -/
theorem authorizeStream_miss {call : AuthorizeCall} (httl : 0 < c.ttl)
    (h : c.answersFromCache digest call = false) :
    (c.authorizeStream digest call).2 = call.answer ∧
      (c.authorizeStream digest call).1.ttl = c.ttl ∧
      ∀ k e, (c.authorizeStream digest call).1.entries.lookup k = some e →
        k = call.key digest ∧ c.fillsEntry digest call = true ∧ e.decision = call.answer.1 ∨
        (k = call.key digest → c.fillsEntry digest call = false) ∧
          c.entries.lookup k = some e := by
  simp only [answersFromCache, decide_eq_true httl, Bool.true_and] at h
  cases hl : c.lookupLocked (call.key digest) call.now with
  | mk c' found =>
      rw [hl, Option.isSome_eq_false_iff, Option.isNone_iff_eq_none] at h
      change found = none at h
      subst h
      obtain ⟨hc', hlook⟩ := lookupLocked_miss hl
      have hfill : c.fillsEntry digest call = (cacheable call.answer &&
          decide (call.now < storedExpiry c.ttl call.now call.answer.1)) := by
        simp only [fillsEntry, hl, decide_eq_true httl, Option.isNone_none, Bool.true_and]
      have hpos : ¬ c.ttl ≤ 0 := not_le.mpr httl
      simp only [authorizeStream, if_neg hpos, hl]
      by_cases hcache : cacheable call.answer
      · simp only [if_pos hcache]
        refine ⟨trivial, (storeLocked_ttl _ _).trans hc', fun k e he => ?_⟩
        rw [hfill, hcache, Bool.true_and, decide_eq_true_eq, decide_eq_false_iff_not]
        rcases lookup_storeLocked he with ⟨hk, hn, hd⟩ | ⟨hk, hold⟩
        · exact Or.inl ⟨hk, hc' ▸ hn, hd⟩
        · exact Or.inr ⟨hc' ▸ hk, hlook k e hold⟩
      · simp only [if_neg hcache]
        refine ⟨trivial, hc', fun k e he => Or.inr ⟨fun _ => ?_, hlook k e he⟩⟩
        rw [hfill, Bool.eq_false_iff.mpr hcache, Bool.false_and]

/-- Asked again at the same instant, a call that filled its entry is answered from it. -/
theorem answersFromCache_of_fillsEntry {call : AuthorizeCall}
    (h : c.fillsEntry digest call = true) :
    (c.authorizeStream digest call).1.answersFromCache digest call = true := by
  simp only [fillsEntry, Bool.and_eq_true, decide_eq_true_eq] at h
  obtain ⟨⟨⟨httl, hmiss⟩, hcache⟩, hn⟩ := h
  cases hl : c.lookupLocked (call.key digest) call.now with
  | mk c' found =>
      rw [hl, Option.isNone_iff_eq_none] at hmiss
      change found = none at hmiss
      subst hmiss
      obtain ⟨hc', -⟩ := lookupLocked_miss hl
      rw [← hc'] at hn httl
      have hpos : ¬ c.ttl ≤ 0 := by rw [← hc']; exact not_le.mpr httl
      have hstored : (c'.storeLocked (call.key digest) call.now call.answer.1
          call.scan).entries.lookup (call.key digest) = _ := lookup_storeLocked_self call.scan hn
      have hfresh := lookupLocked_fresh hstored hn
      simp only [authorizeStream, if_neg hpos, hl, hcache, if_true, answersFromCache,
        storeLocked_ttl, decide_eq_true httl, hfresh, Option.isSome_some, Bool.and_self]

end CachedAuthorizer

variable {digest}

theorem lastFill_cons (e : Exchange) (older : List Exchange) (key : String) :
    lastFill digest (e :: older) key =
      if e.filled = true ∧ e.call.key digest = key then some e else lastFill digest older key := by
  simp only [lastFill, List.find?_cons]
  by_cases h : e.filled = true ∧ e.call.key digest = key
  · simp [h.1, h.2]
  · rw [if_neg h]
    have hf : (e.filled && e.call.key digest == key) = false := by
      rw [Bool.eq_false_iff, ne_eq, Bool.and_eq_true, beq_iff_eq]
      exact h
    rw [hf]

theorem filled_of_fillsEntry {c : CachedAuthorizer} {call : AuthorizeCall}
    (h : c.fillsEntry digest call = true) :
    cacheable call.answer = true ∧ call.now < storedExpiry c.ttl call.now call.answer.1 := by
  simp only [CachedAuthorizer.fillsEntry, Bool.and_eq_true, decide_eq_true_eq] at h
  exact ⟨h.1.2, h.2⟩

theorem answer_eq_none_of_not_storableDenial {ttl now : ℤ} {answer : Answer}
    (hc : cacheable answer = true) (hn : now < storedExpiry ttl now answer.1)
    (h : ¬ StorableDenial ttl now answer) : answer.2 = none := by
  cases ha : answer.2 with
  | none => rfl
  | some err =>
      simp only [cacheable, ha] at hc
      exact absurd ⟨⟨err, ha, hc⟩, hn⟩ h

/-- Every entry holds the whole answer of the call that filled it: its decision, and no error. -/
structure EntriesFaithful (digest : String → String) (ttl : ℤ) (s : Served) : Prop where
  ttl_eq : s.cache.ttl = ttl
  entries : ∀ key e, s.cache.entries.lookup key = some e →
    ∃ fill, lastFill digest s.history key = some fill ∧ fill.call.answer = (e.decision, none)
  history : Faithful digest s.history

theorem serve_entriesFaithful {ttl : ℤ} (httl : 0 < ttl) {s : Served} {call : AuthorizeCall}
    (hs : EntriesFaithful digest ttl s) (hcall : ¬ StorableDenial ttl call.now call.answer) :
    EntriesFaithful digest ttl (serve digest s call) := by
  have hpos : 0 < s.cache.ttl := hs.ttl_eq.symm ▸ httl
  cases hhit : s.cache.answersFromCache digest call with
  | true =>
      obtain ⟨entry, hlook, hserve, hfill⟩ := CachedAuthorizer.authorizeStream_hit hhit
      obtain ⟨fill, hlast, hans⟩ := hs.entries _ _ hlook
      refine ⟨?_, fun key e he => ?_, ⟨fun _ => ⟨fill, hlast, ?_, ?_⟩, hs.history⟩⟩
      · simp only [serve, hserve, hs.ttl_eq]
      · simp only [serve, hserve] at he
        obtain ⟨f, hf, ha⟩ := hs.entries key e he
        refine ⟨f, ?_, ha⟩
        simp only [serve, lastFill_cons, hfill, Bool.false_eq_true, false_and, if_false, hf]
      · simp only [hserve, hans]
      · rintro ⟨err, herr, -⟩
        rw [hans] at herr
        cases herr
  | false =>
      obtain ⟨hans, httl', hentries⟩ := CachedAuthorizer.authorizeStream_miss hpos hhit
      refine ⟨httl'.trans hs.ttl_eq, fun key e he => ?_, ⟨fun hf => ?_, hs.history⟩⟩
      · simp only [serve, lastFill_cons]
        rcases hentries key e he with ⟨rfl, hfill, hd⟩ | ⟨hk, hold⟩
        · obtain ⟨hcache, hn⟩ := filled_of_fillsEntry hfill
          rw [hs.ttl_eq] at hn
          have hnone := answer_eq_none_of_not_storableDenial hcache hn hcall
          rw [if_pos ⟨hfill, rfl⟩]
          exact ⟨_, rfl, Prod.ext hd.symm hnone⟩
        · obtain ⟨f, hf, ha⟩ := hs.entries key e hold
          refine ⟨f, ?_, ha⟩
          have hother : ¬ (s.cache.fillsEntry digest call = true ∧ call.key digest = key) :=
            fun hkk => absurd hkk.1 (by rw [hk hkk.2.symm]; exact Bool.false_ne_true)
          rw [if_neg hother, hf]
      · rw [hhit] at hf
        cases hf

theorem serveAll_entriesFaithful {ttl : ℤ} (httl : 0 < ttl) (maxEntries : ℤ)
    (calls : List AuthorizeCall)
    (hcalls : ∀ call ∈ calls, ¬ StorableDenial ttl call.now call.answer) :
    EntriesFaithful digest ttl (serveAll digest ttl maxEntries calls) := by
  refine List.foldlRecOn calls (serve digest) ?_ fun s hs call hc =>
    serve_entriesFaithful httl hs (hcalls call hc)
  exact ⟨rfl, fun key e he => by simp at he, trivial⟩

/-- A denial that is stored comes back from the cache, asked again at once, without its error. -/
theorem not_faithful_of_filled_denial (s : Served) {call : AuthorizeCall}
    (hfill : s.cache.fillsEntry digest call = true) (herr : call.answer.2 ≠ none) :
    ¬ Faithful digest (serve digest (serve digest s call) call).history := by
  obtain ⟨entry, -, hserve, -⟩ :=
    CachedAuthorizer.authorizeStream_hit (CachedAuthorizer.answersFromCache_of_fillsEntry hfill)
  intro hf
  obtain ⟨fill, hlast, hans, -⟩ := hf.1 (CachedAuthorizer.answersFromCache_of_fillsEntry hfill)
  change lastFill digest (_ :: s.history) _ = _ at hlast
  rw [lastFill_cons, if_pos ⟨hfill, rfl⟩] at hlast
  obtain rfl := Option.some.inj hlast
  change ((s.cache.authorizeStream digest call).1.authorizeStream digest call).2 = call.answer
    at hans
  rw [hserve] at hans
  exact herr (by rw [← hans])

theorem fillsEntry_of_storableDenial {ttl : ℤ} (httl : 0 < ttl) (maxEntries : ℤ)
    {call : AuthorizeCall} (h : StorableDenial ttl call.now call.answer) :
    CachedAuthorizer.fillsEntry ⟨ttl, ∅, maxEntries⟩ digest call = true := by
  obtain ⟨⟨err, herr, hdenied⟩, hn⟩ := h
  simp only [CachedAuthorizer.fillsEntry, CachedAuthorizer.lookupLocked, AList.lookup_empty,
    cacheable, herr, hdenied, Option.isNone_none, Bool.and_true, Bool.and_eq_true,
    decide_eq_true_eq]
  exact ⟨httl, hn⟩

/-- Over every sequence of calls that the inner authorizer `next` may answer, with a clock that
does not go back, the cache is faithful exactly when `next` never gives a denial to store. -/
theorem cachedAnswersFaithful_iff (digest : String → String) (ttl maxEntries : ℤ) (httl : 0 < ttl)
    (next : String → StreamAccessTarget → ℤ → Answer → Prop) :
    (∀ calls : List AuthorizeCall, calls.Pairwise (fun a b => a.now ≤ b.now) →
      (∀ call ∈ calls, next call.authorization call.target call.now call.answer) →
      Faithful digest (serveAll digest ttl maxEntries calls).history) ↔
    ∀ authorization target now answer, next authorization target now answer →
      ¬ StorableDenial ttl now answer := by
  constructor
  · intro hall authorization target now answer hnext hdenial
    let call : AuthorizeCall := ⟨authorization, target, now, answer, []⟩
    have hfill : CachedAuthorizer.fillsEntry ⟨ttl, ∅, maxEntries⟩ digest call = true :=
      fillsEntry_of_storableDenial httl maxEntries hdenial
    obtain ⟨⟨err, herr, -⟩, -⟩ := hdenial
    refine not_faithful_of_filled_denial ⟨⟨ttl, ∅, maxEntries⟩, []⟩ hfill
      (by rw [herr]; exact Option.some_ne_none err) (hall [call, call] (by simp) fun c hc => ?_)
    have he : c = call := by simpa using hc
    exact he ▸ hnext
  · intro hnever calls _ hcalls
    exact (serveAll_entriesFaithful httl maxEntries calls fun call hc =>
      hnever _ _ _ _ (hcalls call hc)).history

def sampleTarget : StreamAccessTarget := ⟨"raw.sample.front", "raw/sample/front", "co-a", ""⟩

/-- A viewer's call that the policy service answers with status 403. -/
def forbiddenCall : AuthorizeCall :=
  ⟨"Bearer viewer", sampleTarget, 0, decodeStreamDecision 403 (zeroDecision, none)
    sampleTarget.streamID, []⟩

/-- A call that the policy service answers with a decision to allow. -/
def allowedCall : AuthorizeCall :=
  ⟨"Bearer viewer", sampleTarget, 0, decodeStreamDecision 200
    ({ zeroDecision with streamID := sampleTarget.streamID, allowed := true }, none)
    sampleTarget.streamID, []⟩

theorem cachedAnswersFaithful_iff_allowedCall :
    Faithful id (serveAll id (60 * Clock.second) 4096 [allowedCall, allowedCall]).history :=
  (cachedAnswersFaithful_iff id (60 * Clock.second) 4096 (by decide)
    (fun _ _ _ answer => answer = allowedCall.answer)).mpr
    (by
      rintro _ _ _ answer rfl ⟨⟨err, herr, -⟩, -⟩
      cases herr)
    [allowedCall, allowedCall] (by simp) (by simp)

/-- Within a minute the second of two forbidden calls is answered with no error. -/
theorem forbiddenCall_served_unfaithfully :
    ¬ Faithful id (serveAll id (60 * Clock.second) 4096 [forbiddenCall, forbiddenCall]).history :=
  not_faithful_of_filled_denial ⟨⟨60 * Clock.second, ∅, 4096⟩, []⟩ (by decide +kernel) (by decide)

end GcsSaker.StreamAuthorization
