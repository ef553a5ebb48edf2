import GcsSaker.StreamSlots
import Mathlib.Data.List.Nodup

/-!
# The identities of stream slots

A slot that takes a discovered device takes the path of the device for its identity, and a slot for
an empty channel takes the number of the channel. The identities stay distinct as long as no slot
that keeps its own has that path or that number in its identity.
-/

namespace GcsSaker.StreamSlots

def Distinct (streams : List DashboardStreamSlot) : Prop := (streams.map (·.id)).Nodup

instance {streams : List DashboardStreamSlot} : Decidable (Distinct streams) :=
  inferInstanceAs (Decidable (List.Nodup _))

/-! ## The condition -/

section

variable (devices : List StreamDeviceOption)

/-- The next device takes the slot of the device again, which is offline and has no path. -/
def isOverwritten (device : StreamDeviceOption) : Bool :=
  isAvailableSlot devices (streamSlotForDevice device "")

/-- The discovered devices that keep their slot. -/
def lasting : List StreamDeviceOption → List StreamDeviceOption
  | [] => []
  | [device] => [device]
  | device :: next :: rest =>
    if isOverwritten devices device then lasting (next :: rest)
    else device :: lasting (next :: rest)

/-- The slots without the first `count` of those that are available. -/
def remaining (count : ℕ) (streams : List DashboardStreamSlot) : List DashboardStreamSlot :=
  (fun streams => streams.eraseP (isAvailableSlot devices))^[count] streams

end

/-- A poll brings no device whose path is the identity of a slot that it leaves, and no channel is
asked for by another spelling of the number of a slot that is there. -/
def Clear (streams : List DashboardStreamSlot) : Action → Prop
  | .poll devices _ =>
    let kept := mergeExisting devices [] streams
    let placed := lasting devices (discoveredDevices kept devices)
    ∀ stream ∈ remaining devices placed.length kept, ∀ device ∈ placed,
      stream.id ≠ device.streamPath
  | .connect _ _ => True
  | .disconnect _ => True
  | .select identifier =>
    (∃ stream ∈ streams, stream.id = identifier) ∨
      ∀ number ∈ channelNumber identifier, ∀ stream ∈ streams,
        stream.id ≠ (createEmptyCctvStreamSlot number).id

instance {streams : List DashboardStreamSlot} : ∀ action, Decidable (Clear streams action)
  | .poll _ _ => inferInstanceAs (Decidable (∀ stream ∈ _, ∀ device ∈ _, _ ≠ _))
  | .connect _ _ => inferInstanceAs (Decidable True)
  | .disconnect _ => inferInstanceAs (Decidable True)
  | .select _ => inferInstanceAs (Decidable (_ ∨ ∀ number ∈ _, ∀ stream ∈ _, _ ≠ _))

/-! ## Kept slots -/

variable {devices : List StreamDeviceOption}

@[simp] theorem refresh_id (stream : DashboardStreamSlot) :
    (refresh devices stream).id = stream.id := by
  unfold refresh
  cases stream.path with
  | none => rfl
  | some path =>
      dsimp only
      cases deviceAt devices path <;> rfl

theorem mergeExisting_ids (seen : List String) (streams : List DashboardStreamSlot) :
    ((mergeExisting devices seen streams).map (·.id)).Sublist (streams.map (·.id)) := by
  induction streams generalizing seen with
  | nil => exact List.Sublist.refl _
  | cons stream streams ih =>
      unfold mergeExisting
      cases stream.path with
      | none =>
          rw [List.map_cons, List.map_cons, refresh_id]
          exact (ih seen).cons_cons stream.id
      | some path =>
          dsimp only
          split
          next => exact (ih seen).cons stream.id
          next =>
            rw [List.map_cons, List.map_cons, refresh_id]
            exact (ih (path :: seen)).cons_cons stream.id

theorem map_mapIdx_of_forall {α β : Type*} {f : ℕ → α → α} {g : α → β}
    (h : ∀ index x, g (f index x) = g x) (l : List α) : (l.mapIdx f).map g = l.map g := by
  apply List.ext_getElem
  · rw [List.length_map, List.length_map, List.length_mapIdx]
  · intro index hindex hindex'
    rw [List.getElem_map, List.getElem_map, List.getElem_mapIdx, h]

theorem compactActiveStreams_ids (streams : List DashboardStreamSlot) :
    ((compactActiveStreams streams devices).map (·.id)).Perm (streams.map (·.id)) := by
  unfold compactActiveStreams
  dsimp only
  apply (List.Perm.of_eq (map_mapIdx_of_forall (fun _ _ => ?_) _)).trans
  · exact (List.filter_append_perm (isActive devices) streams).map (·.id)
  · rfl

/-! ## Placed devices -/

theorem modify_append_cons (f : DashboardStreamSlot → DashboardStreamSlot)
    (before after : List DashboardStreamSlot) (stream : DashboardStreamSlot) :
    (before ++ stream :: after).modify before.length f = before ++ f stream :: after := by
  induction before with
  | nil => rfl
  | cons first before ih =>
      rw [List.cons_append, List.length_cons, List.modify_succ_cons, ih, List.cons_append]

theorem placeDevice_of_available {before after : List DashboardStreamSlot}
    {stream : DashboardStreamSlot} (hbefore : ∀ s ∈ before, ¬isAvailableSlot devices s = true)
    (h : isAvailableSlot devices stream = true) (device : StreamDeviceOption) :
    placeDevice devices (before ++ stream :: after) device =
      before ++ streamSlotForDevice device stream.title :: after := by
  have hindex : (before ++ stream :: after).findIdx? (isAvailableSlot devices) =
      some before.length := by
    rw [List.findIdx?_append, List.findIdx?_eq_none_iff.2 fun s hs => by simpa using hbefore s hs,
      List.findIdx?_cons, h]
    simp
  rw [placeDevice, hindex]
  exact modify_append_cons _ before after stream

theorem placeDevice_of_none {streams : List DashboardStreamSlot}
    (h : ∀ s ∈ streams, ¬isAvailableSlot devices s = true) (device : StreamDeviceOption) :
    placeDevice devices streams device =
      streams ++ [streamSlotForDevice device ("스트리밍 " ++ toString (streams.length + 1))] := by
  rw [placeDevice, List.findIdx?_eq_none_iff.2 fun s hs => by simpa using h s hs]

/-- Every list has a first slot that is available, or none. -/
theorem firstAvailable_cases (streams : List DashboardStreamSlot) :
    (∀ s ∈ streams, ¬isAvailableSlot devices s = true) ∨
      ∃ before stream after, streams = before ++ stream :: after ∧
        (∀ s ∈ before, ¬isAvailableSlot devices s = true) ∧
          isAvailableSlot devices stream = true := by
  induction streams with
  | nil => exact .inl fun s hs => nomatch hs
  | cons first streams ih =>
      by_cases hfirst : isAvailableSlot devices first = true
      · exact .inr ⟨[], first, streams, rfl, fun s hs => (nomatch hs), hfirst⟩
      · rcases ih with hnone | ⟨before, stream, after, rfl, hbefore, hstream⟩
        · exact .inl (List.forall_mem_cons.2 ⟨hfirst, hnone⟩)
        · exact .inr ⟨first :: before, stream, after, rfl,
            List.forall_mem_cons.2 ⟨hfirst, hbefore⟩, hstream⟩

/-- The slot of a device that is overwritten goes to the next device. -/
theorem placeDevice_placeDevice {device : StreamDeviceOption}
    (h : isOverwritten devices device = true) (streams : List DashboardStreamSlot)
    (next : StreamDeviceOption) :
    placeDevice devices (placeDevice devices streams device) next =
      placeDevice devices streams next := by
  have havailable : ∀ title,
      isAvailableSlot devices (streamSlotForDevice device title) = true := fun _ => h
  rcases @firstAvailable_cases devices streams with
    hnone | ⟨before, stream, after, rfl, hbefore, hstream⟩
  · rw [placeDevice_of_none hnone, placeDevice_of_none hnone,
      placeDevice_of_available hnone (havailable _)]
    rfl
  · rw [placeDevice_of_available hbefore hstream, placeDevice_of_available hbefore hstream,
      placeDevice_of_available hbefore (havailable _)]
    rfl

theorem remaining_succ (count : ℕ) (streams : List DashboardStreamSlot) :
    remaining devices (count + 1) streams =
      remaining devices count (streams.eraseP (isAvailableSlot devices)) := rfl

/-- A slot that is not available stays among the remaining ones. -/
theorem remaining_insert {stream : DashboardStreamSlot} (h : ¬isAvailableSlot devices stream = true)
    (count : ℕ) (before after : List DashboardStreamSlot) :
    (remaining devices count (before ++ stream :: after)).Perm
      (stream :: remaining devices count (before ++ after)) := by
  induction count generalizing before after with
  | zero => exact List.perm_middle
  | succ count ih =>
      rw [remaining_succ, remaining_succ]
      by_cases hbefore : ∃ s ∈ before, isAvailableSlot devices s = true
      · obtain ⟨s, hs, havailable⟩ := hbefore
        rw [List.eraseP_append_left havailable _ hs, List.eraseP_append_left havailable _ hs]
        exact ih _ _
      · push Not at hbefore
        have hnone : ∀ s ∈ before, ¬isAvailableSlot devices s = true :=
          fun s hs => by simpa using hbefore s hs
        rw [List.eraseP_append_right _ hnone, List.eraseP_append_right _ hnone,
          List.eraseP_cons_of_neg h]
        exact ih _ _

theorem remaining_sublist (count : ℕ) (streams : List DashboardStreamSlot) :
    (remaining devices count streams).Sublist streams := by
  induction count generalizing streams with
  | zero => exact List.Sublist.refl _
  | succ count ih => exact (ih _).trans List.eraseP_sublist

/-- Placing one device takes the first available slot away and adds one of the device. -/
theorem placeDevice_perm (streams : List DashboardStreamSlot) (device : StreamDeviceOption) :
    ∃ before after title, placeDevice devices streams device =
        before ++ streamSlotForDevice device title :: after ∧
      before ++ after = streams.eraseP (isAvailableSlot devices) := by
  rcases @firstAvailable_cases devices streams with
    hnone | ⟨before, stream, after, rfl, hbefore, hstream⟩
  · refine ⟨streams, [], _, placeDevice_of_none hnone device, ?_⟩
    rw [List.append_nil, List.eraseP_of_forall_not hnone]
  · refine ⟨before, after, _, placeDevice_of_available hbefore hstream device, ?_⟩
    rw [List.eraseP_append_right _ hbefore, List.eraseP_cons_of_pos hstream]

/-- After all devices are placed, the identities are those of the remaining slots and the paths of
the devices that keep their slot. -/
theorem foldl_placeDevice_ids (found : List StreamDeviceOption)
    (streams : List DashboardStreamSlot) :
    ((found.foldl (placeDevice devices) streams).map (·.id)).Perm
      ((remaining devices (lasting devices found).length streams).map (·.id) ++
        (lasting devices found).map (·.streamPath)) := by
  induction found using @lasting.induct devices generalizing streams with
  | case1 =>
      rw [lasting, List.map_nil, List.append_nil]
      exact List.Perm.refl _
  | case2 device =>
      obtain ⟨before, after, title, hplaced, herased⟩ := @placeDevice_perm devices
        streams device
      have hcount : remaining devices [device].length streams = before ++ after := herased.symm
      rw [lasting, List.foldl_cons, List.foldl_nil, hplaced, hcount]
      exact (List.perm_middle.map DashboardStreamSlot.id).trans (List.perm_append_singleton _ _).symm
  | case3 device next rest h ih =>
      rw [lasting, if_pos h, List.foldl_cons, List.foldl_cons, placeDevice_placeDevice h,
        ← List.foldl_cons]
      exact ih streams
  | case4 device next rest h ih =>
      obtain ⟨before, after, title, hplaced, herased⟩ := @placeDevice_perm devices
        streams device
      have havailable : ¬isAvailableSlot devices (streamSlotForDevice device title) = true := h
      rw [lasting, if_neg h, List.foldl_cons, hplaced]
      apply (ih _).trans
      rw [List.length_cons, remaining_succ, ← herased]
      exact (((remaining_insert havailable _ before after).map (·.id)).append_right _).trans
        List.perm_middle.symm

/-! ## Steps -/

theorem lasting_sublist (found : List StreamDeviceOption) :
    (lasting devices found).Sublist found := by
  induction found using @lasting.induct devices with
  | case1 => exact List.Sublist.refl _
  | case2 device => exact List.Sublist.refl _
  | case3 device next rest h ih =>
      rw [lasting, if_pos h]
      exact ih.cons device
  | case4 device next rest h ih =>
      rw [lasting, if_neg h]
      exact ih.cons_cons device

theorem mergeStreamSlotsWithDevices_distinct_iff {streams : List DashboardStreamSlot}
    (h : Distinct streams) (hdevices : (devices.map (·.streamPath)).Nodup) :
    Distinct (mergeStreamSlotsWithDevices streams devices) ↔
      Clear streams (.poll devices hdevices) := by
  have hplaced := (@compactActiveStreams_ids devices _).trans
    (@foldl_placeDevice_ids devices
      (discoveredDevices (mergeExisting devices [] streams) devices)
      (mergeExisting devices [] streams))
  have hkept : ((mergeExisting devices [] streams).map (·.id)).Nodup :=
    h.sublist (mergeExisting_ids [] streams)
  have hslots := hkept.sublist ((@remaining_sublist devices (lasting devices
    (discoveredDevices (mergeExisting devices [] streams) devices)).length _).map (·.id))
  have hpaths := hdevices.sublist (((@lasting_sublist devices _).trans
    (List.filter_sublist (l := devices) (p := fun device => device.streamPath ∉
      (mergeExisting devices [] streams).filterMap (·.path)))).map (·.streamPath))
  unfold Distinct mergeStreamSlotsWithDevices placeDiscoveredDevices
  rw [hplaced.nodup_iff, List.nodup_append]
  constructor
  · rintro ⟨-, -, hdisjoint⟩ stream hstream device hdevice
    exact hdisjoint _ (List.mem_map_of_mem hstream) _ (List.mem_map_of_mem hdevice)
  · intro hclear
    refine ⟨hslots, hpaths, fun id hid path hpath => ?_⟩
    obtain ⟨stream, hstream, rfl⟩ := List.mem_map.1 hid
    obtain ⟨device, hdevice, rfl⟩ := List.mem_map.1 hpath
    exact hclear stream hstream device hdevice

theorem ensureEditableCctvSlot_distinct_iff {streams : List DashboardStreamSlot}
    (h : Distinct streams) (streamId : String) :
    Distinct (ensureEditableCctvSlot streams streamId) ↔ Clear streams (.select streamId) := by
  unfold ensureEditableCctvSlot
  split
  next hpresent =>
    obtain ⟨stream, hstream, hid⟩ := List.any_eq_true.1 hpresent
    exact iff_of_true h (.inl ⟨stream, hstream, of_decide_eq_true hid⟩)
  next habsent =>
    have hnone : ¬∃ stream ∈ streams, stream.id = streamId := by
      rintro ⟨stream, hstream, hid⟩
      exact habsent (List.any_eq_true.2 ⟨stream, hstream, decide_eq_true hid⟩)
    rw [Clear, or_iff_right hnone]
    cases channelNumber streamId with
    | none => exact iff_of_true h fun number hnumber => nomatch hnumber
    | some number =>
        unfold Distinct
        rw [List.map_append, List.nodup_append]
        constructor
        · rintro ⟨-, -, hdisjoint⟩ number' hnumber stream hstream
          cases hnumber
          exact hdisjoint _ (List.mem_map_of_mem hstream) _ (List.mem_singleton_self _)
        · intro hclear
          refine ⟨h, List.nodup_singleton _, fun id hid id' hid' => ?_⟩
          obtain ⟨stream, hstream, rfl⟩ := List.mem_map.1 hid
          rw [List.map_singleton, List.mem_singleton] at hid'
          rw [hid']
          exact hclear number rfl stream hstream

/-- What is done to a slot leaves its identity. -/
theorem distinct_map_iff {change : DashboardStreamSlot → DashboardStreamSlot}
    (hchange : ∀ stream, (change stream).id = stream.id) (streams : List DashboardStreamSlot) :
    Distinct (streams.map change) ↔ Distinct streams := by
  have hids : DashboardStreamSlot.id ∘ change = DashboardStreamSlot.id := funext hchange
  unfold Distinct
  rw [List.map_map, hids]

theorem step_distinct_iff {streams : List DashboardStreamSlot} (h : Distinct streams)
    (action : Action) : Distinct (step streams action).1 ↔ Clear streams action := by
  cases action with
  | poll devices distinct => exact mergeStreamSlotsWithDevices_distinct_iff h distinct
  | connect streamId device =>
      refine iff_of_true ((distinct_map_iff (fun stream => ?_) streams).2 h) trivial
      split <;> rfl
  | disconnect streamId =>
      refine iff_of_true ((distinct_map_iff (fun stream => ?_) streams).2 h) trivial
      split <;> rfl
  | select identifier => exact ensureEditableCctvSlot_distinct_iff h identifier

/-- The slots are distinct after every step if and only if every step is clear. -/
theorem slots_stay_distinct {streams : List DashboardStreamSlot} (h : Distinct streams)
    (actions : List Action) :
    Machines.Along step (fun streams action => Distinct (step streams action).1) streams actions ↔
      Machines.Along step Clear streams actions :=
  Machines.along_congr (fun _ action h => step_distinct_iff h action)
    (fun _ action h hclear => (step_distinct_iff h action).2 hclear) h

def deviceOf (streamPath : String) : StreamDeviceOption :=
  ⟨"registry-" ++ streamPath, "전방 카메라", streamPath, .online, .eo, none⟩

/-- A device is found, its slot is given another device, and the first one is found again; or a
channel is selected by two spellings of its number. -/
theorem slots_stay_distinct_counterexample :
    Distinct DEFAULT_DASHBOARD_STREAMS ∧
      ¬Machines.Along step (fun streams action => Distinct (step streams action).1)
        DEFAULT_DASHBOARD_STREAMS
        [.poll [deviceOf "raw.a"] (by decide), .connect "raw.a" (deviceOf "raw.b"),
          .poll [deviceOf "raw.a", deviceOf "raw.b"] (by decide)] ∧
      ¬Machines.Along step (fun streams action => Distinct (step streams action).1)
        DEFAULT_DASHBOARD_STREAMS [.select "cctv-empty-7", .select "cctv-empty-07"] := by
  decide +kernel

/-- The slot of the device is still available when the device is found again. -/
theorem slots_stay_distinct_sample :
    Machines.Along step (fun streams action => Distinct (step streams action).1)
      DEFAULT_DASHBOARD_STREAMS
      [.poll [deviceOf "raw.a"] (by decide), .disconnect "raw.a", .select "cctv-empty-7",
        .poll [deviceOf "raw.a", deviceOf "raw.b"] (by decide)] := by
  rw [slots_stay_distinct (by decide +kernel)]
  decide +kernel

end GcsSaker.StreamSlots
