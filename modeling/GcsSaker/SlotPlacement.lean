import GcsSaker.SlotIdentity

/-!
# The placement of devices in stream slots

What a poll does to the slots, slot by slot: a slot is kept, replaced by a device, or added for
one. Every device is shown once, and the same poll again changes nothing.
-/

namespace GcsSaker.StreamSlots

/-! ## What should hold -/

/-- What becomes of a slot, or why there is a new one. -/
inductive Placement where
  | kept (stream : DashboardStreamSlot)
  | replaced (stream : DashboardStreamSlot) (device : StreamDeviceOption)
  | added (device : StreamDeviceOption) (title : String)

namespace Placement

def source : Placement → Option DashboardStreamSlot
  | kept stream => some stream
  | replaced stream _ => some stream
  | added _ _ => none

def outcome (devices : List StreamDeviceOption) : Placement → DashboardStreamSlot
  | kept stream => refresh devices stream
  | replaced stream device => streamSlotForDevice device stream.title
  | added device title => streamSlotForDevice device title

end Placement

/-- A device of the poll that no slot shows. -/
def Discovered (streams : List DashboardStreamSlot) (devices : List StreamDeviceOption)
    (device : StreamDeviceOption) : Prop :=
  device ∈ devices ∧ ∀ stream ∈ streams, stream.path ≠ some device.streamPath

/-- The slot was offline, or its path is not among the devices. -/
def Replaceable (devices : List StreamDeviceOption) (stream : DashboardStreamSlot) : Prop :=
  stream.status = .offline ∨ ∃ path, stream.path = some path ∧
    ∀ device ∈ devices, device.streamPath ≠ path

def Placement.Allowed (streams : List DashboardStreamSlot) (devices : List StreamDeviceOption) :
    Placement → Prop
  | kept _ => True
  | replaced stream device => Replaceable devices stream ∧ Discovered streams devices device
  | added device _ => Discovered streams devices device

/-- The slots but those that repeat the path of an earlier one. -/
def firstShown : List String → List DashboardStreamSlot → List DashboardStreamSlot
  | _, [] => []
  | seen, stream :: streams =>
    match stream.path with
    | none => stream :: firstShown seen streams
    | some path =>
      if path ∈ seen then firstShown seen streams else stream :: firstShown (path :: seen) streams

def untitled (stream : DashboardStreamSlot) : DashboardStreamSlot := { stream with title := "" }

/-- The slots after a poll. Titles belong to positions; everything else belongs to the slot. -/
structure LosslessPlacement (streams : List DashboardStreamSlot)
    (devices : List StreamDeviceOption) (result : List DashboardStreamSlot) : Prop where
  once : ∀ device ∈ devices, (result.filterMap (·.path)).count device.streamPath = 1
  distinct : (result.filterMap (·.path)).Nodup
  placements : ∃ placements : List Placement,
    placements.filterMap Placement.source = firstShown [] streams ∧
    (∀ placement ∈ placements, placement.Allowed streams devices) ∧
    (result.map untitled).Perm (placements.map fun p => untitled (p.outcome devices)) ∧
    result.map (·.title) = placements.map fun p => (p.outcome devices).title
  stable : mergeStreamSlotsWithDevices result devices = result

/-! ## Kept slots -/

variable {devices : List StreamDeviceOption}

theorem mergeExisting_eq (seen : List String) (streams : List DashboardStreamSlot) :
    mergeExisting devices seen streams = (firstShown seen streams).map (refresh devices) := by
  induction streams generalizing seen with
  | nil => rfl
  | cons stream streams ih =>
      unfold mergeExisting firstShown
      cases stream.path with
      | none => rw [ih, List.map_cons]
      | some path =>
          dsimp only
          split
          next => exact ih seen
          next => rw [ih, List.map_cons]

@[simp] theorem refresh_path (stream : DashboardStreamSlot) :
    (refresh devices stream).path = stream.path := by
  unfold refresh
  cases hpath : stream.path with
  | none => exact hpath
  | some path =>
      dsimp only
      cases deviceAt devices path <;> exact hpath

@[simp] theorem refresh_title (stream : DashboardStreamSlot) :
    (refresh devices stream).title = stream.title := by
  unfold refresh
  cases stream.path with
  | none => rfl
  | some path =>
      dsimp only
      cases deviceAt devices path <;> rfl

theorem firstShown_paths (seen : List String) (streams : List DashboardStreamSlot) :
    ((firstShown seen streams).filterMap (·.path)).Nodup ∧
      ∀ path, path ∈ (firstShown seen streams).filterMap (·.path) ↔
        path ∈ streams.filterMap (·.path) ∧ path ∉ seen := by
  induction streams generalizing seen with
  | nil => exact ⟨List.nodup_nil, fun path => by simp [firstShown]⟩
  | cons stream streams ih =>
      unfold firstShown
      cases hpath : stream.path with
      | none => simpa only [List.filterMap_cons, hpath] using ih seen
      | some path =>
          dsimp only
          split
          next hseen =>
            refine ⟨(ih seen).1, fun path' => ?_⟩
            rw [(ih seen).2, List.filterMap_cons, hpath, List.mem_cons]
            grind
          next hseen =>
            obtain ⟨hnodup, hmem⟩ := ih (path :: seen)
            rw [List.filterMap_cons, List.filterMap_cons, hpath]
            refine ⟨List.nodup_cons.2 ⟨fun h => ?_, hnodup⟩, fun path' => ?_⟩
            · exact ((hmem path).1 h).2 List.mem_cons_self
            · rw [List.mem_cons, hmem, List.mem_cons, List.mem_cons]
              grind

/-! ## Slots of devices -/

theorem streamSlotForDevice_path {device : StreamDeviceOption} (h : device.streamPath ≠ "")
    (title : String) : (streamSlotForDevice device title).path = some device.streamPath := by
  simp [DashboardStreamSlot.path, streamSlotForDevice, h]

theorem of_deviceAt {path : String} {device : StreamDeviceOption}
    (h : deviceAt devices path = some device) : device ∈ devices ∧ device.streamPath = path := by
  rw [deviceAt] at h
  exact ⟨List.mem_of_find?_eq_some h, by simpa using List.find?_some h⟩

theorem deviceAt_of_mem (hdevices : (devices.map (·.streamPath)).Nodup)
    {device : StreamDeviceOption} (h : device ∈ devices) :
    deviceAt devices device.streamPath = some device := by
  obtain ⟨found, hfound⟩ : ∃ found, deviceAt devices device.streamPath = some found :=
    Option.isSome_iff_exists.1 (List.find?_isSome.2 ⟨device, h, decide_eq_true rfl⟩)
  obtain ⟨hmem, hpath⟩ := of_deviceAt hfound
  rw [hfound, List.inj_on_of_nodup_map hdevices hmem h hpath]

theorem isActive_iff {stream : DashboardStreamSlot} :
    isActive devices stream = true ↔
      ∃ device ∈ devices, stream.path = some device.streamPath := by
  rw [isActive, Option.any_eq_true]
  constructor
  · rintro ⟨path, hpath, hsome⟩
    obtain ⟨device, hdevice⟩ := Option.isSome_iff_exists.1 hsome
    obtain ⟨hmem, rfl⟩ := of_deviceAt hdevice
    exact ⟨device, hmem, hpath⟩
  · rintro ⟨device, hdevice, hpath⟩
    exact ⟨device.streamPath, hpath, List.find?_isSome.2 ⟨device, hdevice, decide_eq_true rfl⟩⟩

theorem not_isAvailableSlot_of_isActive {stream : DashboardStreamSlot}
    (h : isActive devices stream = true) : ¬isAvailableSlot devices stream = true := by
  simp [isAvailableSlot, h]

theorem isActive_streamSlotForDevice {device : StreamDeviceOption} (h : device ∈ devices)
    (hne : device.streamPath ≠ "") (title : String) :
    isActive devices (streamSlotForDevice device title) = true :=
  isActive_iff.2 ⟨device, h, streamSlotForDevice_path hne title⟩

/-- What a poll has told a slot is told again by the same poll. -/
theorem refresh_refresh (stream : DashboardStreamSlot) :
    refresh devices (refresh devices stream) = refresh devices stream := by
  have hpath := @refresh_path devices stream
  cases h : stream.path with
  | none =>
      have hkept : refresh devices stream = stream := by rw [refresh, h]
      rw [hkept, hkept]
  | some path =>
      rw [h] at hpath
      cases hdevice : deviceAt devices path with
      | none =>
          simp only [refresh, h, hdevice] at hpath ⊢
          simp only [hpath, hdevice]
      | some device =>
          simp only [refresh, h, hdevice] at hpath ⊢
          simp only [hpath, hdevice, Option.getD_some]
          split
          next => rfl
          next =>
            cases stream.geometry <;> cases device.geometry <;> rfl

theorem refresh_streamSlotForDevice (hdevices : (devices.map (·.streamPath)).Nodup)
    {device : StreamDeviceOption} (h : device ∈ devices) (hne : device.streamPath ≠ "")
    (title : String) :
    refresh devices (streamSlotForDevice device title) = streamSlotForDevice device title := by
  rw [refresh, streamSlotForDevice_path hne]
  simp only [deviceAt_of_mem hdevices h]
  simp only [streamSlotForDevice, Option.getD_some, Option.or_self, ite_self]

theorem replaceable_of_isAvailableSlot {stream : DashboardStreamSlot}
    (h : isAvailableSlot devices (refresh devices stream) = true) : Replaceable devices stream := by
  cases hpath : stream.path with
  | none =>
      have hkept : refresh devices stream = stream := by rw [refresh, hpath]
      rw [hkept, isAvailableSlot, Bool.and_eq_true, decide_eq_true_eq] at h
      exact .inl h.1
  | some path =>
      refine .inr ⟨path, hpath, fun device hdevice hsame => ?_⟩
      have hactive : isActive devices (refresh devices stream) = true :=
        isActive_iff.2 ⟨device, hdevice, by rw [refresh_path, hpath, hsame]⟩
      exact not_isAvailableSlot_of_isActive hactive h

/-! ## Placed devices -/

theorem placeDevice_placements (hne : ∀ device ∈ devices, device.streamPath ≠ "")
    {streams : List DashboardStreamSlot} {placements : List Placement}
    (hplacements : ∀ p ∈ placements, p.Allowed streams devices) {device : StreamDeviceOption}
    (hdevice : Discovered streams devices device) :
    ∃ next : List Placement,
      placeDevice devices (placements.map (·.outcome devices)) device =
        next.map (·.outcome devices) ∧
      next.filterMap Placement.source = placements.filterMap Placement.source ∧
      ∀ p ∈ next, p.Allowed streams devices := by
  rcases @firstAvailable_cases devices (placements.map (·.outcome devices)) with
    hnone | ⟨before, slot, after, hsplit, hbefore, hslot⟩
  · refine ⟨placements ++ [.added device ("스트리밍 " ++
        toString ((placements.map (·.outcome devices)).length + 1))], ?_, ?_, ?_⟩
    · rw [placeDevice_of_none hnone, List.map_append]
      rfl
    · rw [List.filterMap_append]
      exact List.append_nil _
    · intro p hp
      rw [List.mem_append, List.mem_singleton] at hp
      rcases hp with hp | rfl
      · exact hplacements p hp
      · exact hdevice
  · obtain ⟨first, rest, rfl, rfl, hrest⟩ := List.map_eq_append_iff.1 hsplit
    obtain ⟨p, last, rfl, rfl, rfl⟩ := List.map_eq_cons_iff.1 hrest
    have hallowed := hplacements p (by simp)
    -- a slot that a device has taken is active, so the one that is available was kept
    have hactive : ∀ d title, d ∈ devices →
        ¬isAvailableSlot devices (streamSlotForDevice d title) = true := fun d title hd =>
      not_isAvailableSlot_of_isActive (isActive_streamSlotForDevice hd (hne d hd) title)
    cases p with
    | replaced stream d => exact absurd hslot (hactive d _ hallowed.2.1)
    | added d title => exact absurd hslot (hactive d _ hallowed.1)
    | kept stream =>
        refine ⟨first ++ .replaced stream device :: last, ?_, ?_, ?_⟩
        · rw [hsplit, placeDevice_of_available hbefore hslot, List.map_append, List.map_cons]
          exact congrArg (fun title => _ ++ streamSlotForDevice device title :: _)
            (refresh_title stream)
        · rw [List.filterMap_append, List.filterMap_append]
          rfl
        · intro p hp
          rw [List.mem_append, List.mem_cons] at hp
          rcases hp with hp | rfl | hp
          · exact hplacements p (List.mem_append_left _ hp)
          · exact ⟨replaceable_of_isAvailableSlot hslot, hdevice⟩
          · exact hplacements p (List.mem_append_right _ (List.mem_cons_of_mem _ hp))

theorem foldl_placeDevice_placements (hne : ∀ device ∈ devices, device.streamPath ≠ "")
    {streams : List DashboardStreamSlot} {found : List StreamDeviceOption}
    (hfound : ∀ device ∈ found, Discovered streams devices device) {placements : List Placement}
    (hplacements : ∀ p ∈ placements, p.Allowed streams devices) :
    ∃ next : List Placement,
      found.foldl (placeDevice devices) (placements.map (·.outcome devices)) =
        next.map (·.outcome devices) ∧
      next.filterMap Placement.source = placements.filterMap Placement.source ∧
      ∀ p ∈ next, p.Allowed streams devices := by
  induction found generalizing placements with
  | nil => exact ⟨placements, rfl, rfl, hplacements⟩
  | cons device found ih =>
      obtain ⟨hdevice, hrest⟩ := List.forall_mem_cons.1 hfound
      obtain ⟨middle, hplaced, hsource, hallowed⟩ := placeDevice_placements hne hplacements hdevice
      obtain ⟨next, hnext, hsame, hall⟩ := ih hrest hallowed
      exact ⟨next, by rw [List.foldl_cons, hplaced, hnext], hsame.trans hsource, hall⟩

theorem placeDevice_paths {streams : List DashboardStreamSlot} {device : StreamDeviceOption}
    (hne : device.streamPath ≠ "") (hdistinct : (streams.filterMap (·.path)).Nodup)
    (hnew : device.streamPath ∉ streams.filterMap (·.path)) :
    ((placeDevice devices streams device).filterMap (·.path)).Nodup ∧
      (∀ path ∈ (placeDevice devices streams device).filterMap (·.path),
        path = device.streamPath ∨ path ∈ streams.filterMap (·.path)) ∧
      device.streamPath ∈ (placeDevice devices streams device).filterMap (·.path) ∧
      ∀ stream ∈ streams, isActive devices stream = true →
        stream ∈ placeDevice devices streams device := by
  obtain ⟨before, after, title, hplaced, herased⟩ := @placeDevice_perm devices streams device
  have hsublist : ((before ++ after).filterMap (·.path)).Sublist (streams.filterMap (·.path)) :=
    herased ▸ List.eraseP_sublist.filterMap _
  have hperm : ((placeDevice devices streams device).filterMap (·.path)).Perm
      (device.streamPath :: (before ++ after).filterMap (·.path)) := by
    rw [hplaced]
    refine (List.perm_middle.filterMap _).trans (List.Perm.of_eq ?_)
    rw [List.filterMap_cons, streamSlotForDevice_path hne]
  refine ⟨?_, fun path hpath => ?_, ?_, fun stream hmem hactive => ?_⟩
  · rw [hperm.nodup_iff]
    exact List.nodup_cons.2 ⟨fun h => hnew (hsublist.subset h), hdistinct.sublist hsublist⟩
  · exact (List.mem_cons.1 (hperm.subset hpath)).imp_right fun h => hsublist.subset h
  · exact hperm.symm.subset List.mem_cons_self
  · have hkept : stream ∈ before ++ after := by
      rw [herased]
      exact (List.mem_eraseP_of_neg (not_isAvailableSlot_of_isActive hactive)).2 hmem
    rw [hplaced]
    exact List.perm_middle.symm.subset (List.mem_cons_of_mem _ hkept)

theorem foldl_placeDevice_paths (hne : ∀ device ∈ devices, device.streamPath ≠ "")
    {found : List StreamDeviceOption} (hfound : ∀ device ∈ found, device ∈ devices)
    (hpaths : (found.map (·.streamPath)).Nodup) {streams : List DashboardStreamSlot}
    (hdistinct : (streams.filterMap (·.path)).Nodup)
    (hnew : ∀ device ∈ found, device.streamPath ∉ streams.filterMap (·.path)) :
    ((found.foldl (placeDevice devices) streams).filterMap (·.path)).Nodup ∧
      (∀ device ∈ found, device.streamPath ∈
        (found.foldl (placeDevice devices) streams).filterMap (·.path)) ∧
      ∀ stream ∈ streams, isActive devices stream = true →
        stream ∈ found.foldl (placeDevice devices) streams := by
  induction found generalizing streams with
  | nil => exact ⟨hdistinct, fun device h => (nomatch h), fun stream h _ => h⟩
  | cons device found ih =>
      obtain ⟨hdevice, hrest⟩ := List.forall_mem_cons.1 hfound
      obtain ⟨hfresh, hothers⟩ := List.forall_mem_cons.1 hnew
      obtain ⟨hapart, hpaths⟩ := List.nodup_cons.1 hpaths
      obtain ⟨hnodup, hsubset, hplaced, hactive⟩ :=
        @placeDevice_paths devices streams device (hne device hdevice) hdistinct hfresh
      obtain ⟨hnodup', hfound', hactive'⟩ := ih hrest hpaths hnodup fun d hd hmem => by
        rcases hsubset _ hmem with hsame | hold
        · exact hapart (List.mem_map.2 ⟨d, hd, hsame⟩)
        · exact hothers d hd hold
      refine ⟨hnodup', List.forall_mem_cons.2 ⟨?_, hfound'⟩, fun stream hmem h =>
        hactive' stream (hactive stream hmem h) h⟩
      -- the slot that the device has taken is active, so no later device takes it
      obtain ⟨slot, hslot, hpath⟩ := List.mem_filterMap.1 hplaced
      exact List.mem_filterMap.2 ⟨slot, hactive' slot hslot
        (isActive_iff.2 ⟨device, hdevice, hpath⟩), hpath⟩

/-! ## Compaction -/

theorem path_untitled (stream : DashboardStreamSlot) :
    (untitled stream).path = stream.path := rfl

theorem isActive_of_untitled_eq {stream stream' : DashboardStreamSlot}
    (h : untitled stream = untitled stream') :
    isActive devices stream = isActive devices stream' := by
  have hpath := congrArg DashboardStreamSlot.path h
  rw [path_untitled, path_untitled] at hpath
  rw [isActive, isActive, hpath]

theorem compactActiveStreams_untitled (streams : List DashboardStreamSlot) :
    ((compactActiveStreams streams devices).map untitled).Perm (streams.map untitled) := by
  unfold compactActiveStreams
  dsimp only
  apply (List.Perm.of_eq (map_mapIdx_of_forall (fun _ _ => ?_) _)).trans
  · exact (List.filter_append_perm (isActive devices) streams).map untitled
  · rfl

theorem length_ordered (streams : List DashboardStreamSlot) :
    (streams.filter (isActive devices) ++
      streams.filter fun stream => !isActive devices stream).length = streams.length :=
  (List.filter_append_perm (isActive devices) streams).length_eq

theorem compactActiveStreams_titles (streams : List DashboardStreamSlot) :
    (compactActiveStreams streams devices).map (·.title) = streams.map (·.title) := by
  have hlength := @length_ordered devices streams
  apply List.ext_getElem
  · rw [List.length_map, List.length_map, compactActiveStreams, List.length_mapIdx, hlength]
  · intro index hindex hindex'
    rw [List.length_map] at hindex'
    simp only [compactActiveStreams, List.getElem_map, List.getElem_mapIdx,
      List.getElem?_eq_getElem hindex', Option.map_some, Option.getD_some]

theorem compactActiveStreams_paths (streams : List DashboardStreamSlot) :
    ((compactActiveStreams streams devices).filterMap (·.path)).Perm
      (streams.filterMap (·.path)) := by
  have h := (@compactActiveStreams_untitled devices streams).filterMap (·.path)
  simpa only [List.filterMap_map, Function.comp_def, path_untitled] using h

theorem isActive_of_mem_mapIdx {f : ℕ → DashboardStreamSlot → DashboardStreamSlot}
    (hf : ∀ index stream, untitled (f index stream) = untitled stream)
    {streams : List DashboardStreamSlot} {value : Bool}
    (h : ∀ s ∈ streams, isActive devices s = value) :
    ∀ s ∈ streams.mapIdx f, isActive devices s = value := by
  intro s hs
  obtain ⟨index, hindex, rfl⟩ := List.mem_mapIdx.1 hs
  rw [isActive_of_untitled_eq (hf _ _)]
  exact h _ (List.getElem_mem hindex)

theorem filter_append_filter_of_ordered {α : Type*} {p : α → Bool} {l l' : List α}
    (h : ∀ x ∈ l, p x = true) (h' : ∀ x ∈ l', p x = false) :
    (l ++ l').filter p ++ (l ++ l').filter (fun x => !p x) = l ++ l' := by
  have htrue : l.filter p = l := List.filter_eq_self.2 h
  have htrue' : l'.filter p = [] := List.filter_eq_nil_iff.2 fun x hx => by simp [h' x hx]
  have hfalse : l.filter (fun x => !p x) = [] :=
    List.filter_eq_nil_iff.2 fun x hx => by simp [h x hx]
  have hfalse' : l'.filter (fun x => !p x) = l' :=
    List.filter_eq_self.2 fun x hx => by simp [h' x hx]
  rw [List.filter_append, List.filter_append, htrue, htrue', hfalse, hfalse', List.append_nil,
    List.nil_append]

/-- The slots with a device come first. -/
theorem compactActiveStreams_ordered (streams : List DashboardStreamSlot) :
    (compactActiveStreams streams devices).filter (isActive devices) ++
        (compactActiveStreams streams devices).filter (fun stream => !isActive devices stream) =
      compactActiveStreams streams devices := by
  have hactive : ∀ s ∈ streams.filter (isActive devices), isActive devices s = true :=
    fun s hs => (List.mem_filter.1 hs).2
  have hinactive : ∀ s ∈ streams.filter fun stream => !isActive devices stream,
      isActive devices s = false := fun s hs => by simpa using (List.mem_filter.1 hs).2
  simp only [compactActiveStreams, List.mapIdx_append]
  apply filter_append_filter_of_ordered
  · exact isActive_of_mem_mapIdx (fun index stream => by rfl) hactive
  · exact isActive_of_mem_mapIdx (fun index stream => by rfl) hinactive

theorem refresh_of_untitled_eq {stream stream' : DashboardStreamSlot}
    (h : untitled stream = untitled stream') (hkept : refresh devices stream = stream) :
    refresh devices stream' = stream' := by
  have hstream : stream' = { stream with title := stream'.title } := by
    cases stream
    cases stream'
    simp only [untitled, DashboardStreamSlot.mk.injEq] at h ⊢
    simp only [h, and_self]
  have hretitle : ∀ title, refresh devices { stream with title := title } =
      { refresh devices stream with title := title } := by
    intro title
    have hpath : ({ stream with title := title } : DashboardStreamSlot).path = stream.path := rfl
    unfold refresh
    rw [hpath]
    cases stream.path with
    | none => rfl
    | some path =>
        dsimp only
        cases deviceAt devices path <;> rfl
  rw [hstream, hretitle, hkept]

/-! ## The same poll again -/

/-- Slots that a poll of the devices leaves as they are. -/
structure Settled (devices : List StreamDeviceOption) (streams : List DashboardStreamSlot) :
    Prop where
  refreshed : ∀ stream ∈ streams, refresh devices stream = stream
  distinct : (streams.filterMap (·.path)).Nodup
  shown : ∀ device ∈ devices, device.streamPath ∈ streams.filterMap (·.path)
  ordered : streams.filter (isActive devices) ++
    streams.filter (fun stream => !isActive devices stream) = streams

theorem firstShown_of_nodup {seen : List String} {streams : List DashboardStreamSlot}
    (hnodup : (streams.filterMap (·.path)).Nodup)
    (hseen : ∀ path ∈ seen, path ∉ streams.filterMap (·.path)) :
    firstShown seen streams = streams := by
  induction streams generalizing seen with
  | nil => rfl
  | cons stream streams ih =>
      unfold firstShown
      cases hpath : stream.path with
      | none =>
          simp only [List.filterMap_cons, hpath] at hnodup hseen
          rw [ih hnodup hseen]
      | some path =>
          simp only [List.filterMap_cons, hpath, List.nodup_cons, List.mem_cons] at hnodup hseen
          have hfresh : path ∉ seen := fun h => hseen path h (.inl rfl)
          dsimp only
          rw [if_neg hfresh, ih hnodup.2]
          intro path' hpath' hmem
          rcases List.mem_cons.1 hpath' with rfl | hold
          · exact hnodup.1 hmem
          · exact hseen path' hold (.inr hmem)

theorem Settled.merge {streams : List DashboardStreamSlot} (h : Settled devices streams) :
    mergeStreamSlotsWithDevices streams devices = streams := by
  have hexisting : mergeExisting devices [] streams = streams := by
    rw [mergeExisting_eq, firstShown_of_nodup h.distinct (by simp)]
    exact (List.map_congr_left h.refreshed).trans (List.map_id' streams)
  have hfound : discoveredDevices streams devices = [] :=
    List.filter_eq_nil_iff.2 fun device hdevice => by simpa using h.shown device hdevice
  rw [mergeStreamSlotsWithDevices, hexisting, placeDiscoveredDevices, hfound, List.foldl_nil,
    compactActiveStreams, h.ordered]
  apply List.ext_getElem
  · exact List.length_mapIdx
  · intro index hindex hindex'
    rw [List.getElem_mapIdx, List.getElem?_eq_getElem hindex']
    rfl

/-! ## A poll -/

theorem placements_kept (streams : List DashboardStreamSlot) :
    ((firstShown [] streams).map Placement.kept).map (·.outcome devices) =
      mergeExisting devices [] streams := by
  rw [mergeExisting_eq, List.map_map]
  rfl

theorem refresh_outcome (hdevices : (devices.map (·.streamPath)).Nodup)
    (hne : ∀ device ∈ devices, device.streamPath ≠ "") {streams : List DashboardStreamSlot}
    {p : Placement} (h : p.Allowed streams devices) :
    refresh devices (p.outcome devices) = p.outcome devices := by
  cases p with
  | kept stream => exact refresh_refresh stream
  | replaced stream device =>
      exact refresh_streamSlotForDevice hdevices h.2.1 (hne device h.2.1) _
  | added device title => exact refresh_streamSlotForDevice hdevices h.1 (hne device h.1) title

theorem mergeExisting_paths (streams : List DashboardStreamSlot) :
    (mergeExisting devices [] streams).filterMap (·.path) =
      (firstShown [] streams).filterMap (·.path) := by
  rw [mergeExisting_eq, List.filterMap_map]
  simp only [Function.comp_def, refresh_path]

theorem mem_discoveredDevices {streams : List DashboardStreamSlot} {device : StreamDeviceOption} :
    device ∈ discoveredDevices (mergeExisting devices [] streams) devices ↔
      Discovered streams devices device := by
  rw [discoveredDevices, List.mem_filter, decide_eq_true_eq, mergeExisting_paths,
    (firstShown_paths [] streams).2, Discovered]
  simp

theorem placeDiscoveredDevices_placements (streams : List DashboardStreamSlot)
    (hne : ∀ device ∈ devices, device.streamPath ≠ "") :
    ∃ placements : List Placement,
      placeDiscoveredDevices (mergeExisting devices [] streams) devices =
        placements.map (·.outcome devices) ∧
      placements.filterMap Placement.source = firstShown [] streams ∧
      ∀ p ∈ placements, p.Allowed streams devices := by
  have hkept : ∀ p ∈ (firstShown [] streams).map Placement.kept, p.Allowed streams devices := by
    intro p hp
    obtain ⟨stream, -, rfl⟩ := List.mem_map.1 hp
    trivial
  have hfound : ∀ device ∈ discoveredDevices (mergeExisting devices [] streams) devices,
      Discovered streams devices device := fun device => mem_discoveredDevices.1
  obtain ⟨placements, hplaced, hsource, hallowed⟩ :=
    foldl_placeDevice_placements hne hfound hkept
  rw [placements_kept] at hplaced
  refine ⟨placements, hplaced, hsource.trans ?_, hallowed⟩
  rw [List.filterMap_map]
  exact List.filterMap_some

theorem placeDiscoveredDevices_paths (streams : List DashboardStreamSlot)
    (hdevices : (devices.map (·.streamPath)).Nodup)
    (hne : ∀ device ∈ devices, device.streamPath ≠ "") :
    ((placeDiscoveredDevices (mergeExisting devices [] streams) devices).filterMap
      (·.path)).Nodup ∧
    ∀ device ∈ devices, device.streamPath ∈
      (placeDiscoveredDevices (mergeExisting devices [] streams) devices).filterMap (·.path) := by
  have hnodup : ((mergeExisting devices [] streams).filterMap (·.path)).Nodup := by
    rw [mergeExisting_paths]
    exact (firstShown_paths [] streams).1
  obtain ⟨hdistinct, hfound, hactive⟩ := foldl_placeDevice_paths hne
    (fun device h => (mem_discoveredDevices.1 h).1) (hdevices.sublist (List.filter_sublist.map _))
    hnodup fun device h => of_decide_eq_true (List.mem_filter.1 h).2
  refine ⟨hdistinct, fun device hdevice => ?_⟩
  -- a device that is not discovered is shown by a slot, and that slot is not replaced
  by_cases hshown : device.streamPath ∈ (mergeExisting devices [] streams).filterMap (·.path)
  · obtain ⟨stream, hstream, hpath⟩ := List.mem_filterMap.1 hshown
    exact List.mem_filterMap.2 ⟨stream, hactive stream hstream
      (isActive_iff.2 ⟨device, hdevice, hpath⟩), hpath⟩
  · exact hfound device (List.mem_filter.2 ⟨hdevice, decide_eq_true hshown⟩)

theorem mergeStreamSlotsWithDevices_settled (streams : List DashboardStreamSlot)
    (hdevices : (devices.map (·.streamPath)).Nodup)
    (hne : ∀ device ∈ devices, device.streamPath ≠ "") :
    Settled devices (mergeStreamSlotsWithDevices streams devices) := by
  obtain ⟨placements, hplaced, -, hallowed⟩ := placeDiscoveredDevices_placements streams hne
  obtain ⟨hdistinct, hshown⟩ := placeDiscoveredDevices_paths streams hdevices hne
  have hpaths := @compactActiveStreams_paths devices
    (placeDiscoveredDevices (mergeExisting devices [] streams) devices)
  refine ⟨fun stream hstream => ?_, hpaths.nodup_iff.2 hdistinct,
    fun device h => hpaths.symm.subset (hshown device h), compactActiveStreams_ordered _⟩
  have hmem := (compactActiveStreams_untitled _).subset (List.mem_map_of_mem hstream)
  rw [hplaced, List.map_map] at hmem
  obtain ⟨p, hp, huntitled⟩ := List.mem_map.1 hmem
  exact refresh_of_untitled_eq huntitled (refresh_outcome hdevices hne (hallowed p hp))

/-- A poll loses no device and no slot that it should not replace, and doubles none. -/
theorem mergeStreamSlotsWithDevices_lossless (streams : List DashboardStreamSlot)
    {devices : List StreamDeviceOption} (hdevices : (devices.map (·.streamPath)).Nodup)
    (hne : ∀ device ∈ devices, device.streamPath ≠ "") :
    LosslessPlacement streams devices (mergeStreamSlotsWithDevices streams devices) := by
  have hsettled := mergeStreamSlotsWithDevices_settled streams hdevices hne
  obtain ⟨placements, hplaced, hsource, hallowed⟩ := placeDiscoveredDevices_placements streams hne
  refine ⟨fun device h => List.count_eq_one_of_mem hsettled.distinct (hsettled.shown device h),
    hsettled.distinct, ⟨placements, hsource, hallowed, ?_, ?_⟩, hsettled.merge⟩
  · have hperm := @compactActiveStreams_untitled devices
      (placeDiscoveredDevices (mergeExisting devices [] streams) devices)
    rw [hplaced, List.map_map] at hperm
    rw [mergeStreamSlotsWithDevices, hplaced]
    exact hperm
  · have htitles := @compactActiveStreams_titles devices
      (placeDiscoveredDevices (mergeExisting devices [] streams) devices)
    rw [hplaced, List.map_map] at htitles
    rw [mergeStreamSlotsWithDevices, hplaced]
    exact htitles

/-- A device is in a slot already, another one takes a free slot, and the third one a new slot. -/
theorem mergeStreamSlotsWithDevices_lossless_sample :
    LosslessPlacement
      [streamSlotForDevice (deviceOf "raw.a") "정면", emptyStreamSlot "stream-slot-2" "측면" ""]
      [deviceOf "raw.b", deviceOf "raw.a", deviceOf "raw.c"]
      (mergeStreamSlotsWithDevices
        [streamSlotForDevice (deviceOf "raw.a") "정면", emptyStreamSlot "stream-slot-2" "측면" ""]
        [deviceOf "raw.b", deviceOf "raw.a", deviceOf "raw.c"]) :=
  mergeStreamSlotsWithDevices_lossless _ (by decide) (by decide)

end GcsSaker.StreamSlots
