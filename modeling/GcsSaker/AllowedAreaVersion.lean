import GcsSaker.Geofences
import GcsSaker.LengthPrefixes

/-!
# The version of an allowed area

The fields that are digested can be read back: each is preceded by its length, and the identity of
a geofence is told from the numerals of its points by the `x` in them. So the version stands for
the group and for the identities and polygons of the geofences that the repository returns.
-/

namespace GcsSaker.Geofences

open TelemetryIngestRpc (GroupId)

/-! ## Reading the bytes back -/

def fieldBytes (value : String) : List UInt8 :=
  Sha256.bigEndian 4 value.toByteArray.data.toList.length ++ value.toByteArray.data.toList

/-- The text fits into an array of bytes. -/
def Small (value : String) : Prop := value.toByteArray.data.toList.length < 2 ^ 31

theorem addField_eq_ok_iff {value : String} {bytes : List UInt8} :
    addField value = .ok bytes ↔ Small value ∧ bytes = fieldBytes value := by
  unfold addField toByteArray Small fieldBytes
  dsimp only
  split_ifs with h
  · exact ⟨fun he => ⟨h, (Except.ok.inj he).symm⟩, fun he => he.2 ▸ rfl⟩
  · exact ⟨fun he => (nomatch he), fun he => absurd he.1 h⟩

theorem small_of_length {value : String} (h : value.toList.length < 2 ^ 29) : Small value := by
  have hencode : ∀ l : List Char, l.utf8Encode.data.toList.length ≤ 4 * l.length := by
    intro l
    rw [List.utf8Encode, List.data_toByteArray, List.toList_toArray]
    induction l with
    | nil => exact Nat.zero_le _
    | cons c l ih =>
        have hc := c.utf8Size_le_four
        rw [List.flatMap_cons, List.length_append, String.length_utf8EncodeChar, List.length_cons]
        omega
  have hvalue := hencode value.toList
  rw [← String.toByteArray_ofList, String.ofList_toList] at hvalue
  unfold Small
  omega

theorem content_eq_ok_iff {groupId : GroupId} {enabled : List Geofence} {bytes : List UInt8} :
    content groupId enabled = .ok bytes ↔
      (∀ value ∈ contentFields groupId enabled, Small value) ∧
        bytes = (contentFields groupId enabled).flatMap fieldBytes := by
  have hfields : ∀ parts, (contentFields groupId enabled).mapM addField = .ok parts ↔
      (∀ value ∈ contentFields groupId enabled, Small value) ∧
        parts = (contentFields groupId enabled).map fieldBytes :=
    fun parts => CheckedSteps.mapM_eq_ok_iff fun _ _ => addField_eq_ok_iff
  unfold content
  cases hparts : (contentFields groupId enabled).mapM addField with
  | error failure =>
      refine iff_of_false (fun h => nomatch h) fun h => ?_
      exact nomatch hparts.symm.trans ((hfields _).2 ⟨h.1, rfl⟩)
  | ok parts =>
      obtain ⟨hsmall, rfl⟩ := (hfields parts).1 hparts
      rw [Except.map, Except.ok.injEq, ← List.flatMap_def, eq_comm]
      exact ⟨fun h => ⟨hsmall, h⟩, And.right⟩

theorem toByteArray_inj {value value' : String}
    (h : value.toByteArray.data.toList = value'.toByteArray.data.toList) : value = value' := by
  apply String.toByteArray_inj.1
  exact ByteArray.ext (Array.toList_inj.1 h)

theorem delimited_bigEndian : LengthPrefixes.Delimited (Sha256.bigEndian 4) (· < 2 ^ 31) where
  nonempty n hnil := by
    have hlength := Sha256.length_bigEndian 4 n
    rw [hnil, List.length_nil] at hlength
    omega
  inj n n' rest rest' hn hn' h := by
    have hlength := (Sha256.length_bigEndian 4 n).trans (Sha256.length_bigEndian 4 n').symm
    obtain ⟨hcount, hrest⟩ := List.append_inj h hlength
    exact ⟨Sha256.bigEndian_inj (by omega) (by omega) hcount, hrest⟩

theorem size_eq_length (bytes : List UInt8) :
    LengthPrefixes.size (fun _ => 1) bytes = bytes.length := by
  rw [LengthPrefixes.size, List.map_const', List.sum_replicate_nat, Nat.mul_one]

theorem flatMap_fieldBytes (values : List String) :
    values.flatMap fieldBytes = LengthPrefixes.frames (fun _ => 1) (Sha256.bigEndian 4)
      (values.map fun value => value.toByteArray.data.toList) := by
  rw [LengthPrefixes.frames, List.flatMap_map]
  refine congrArg (List.flatMap · values) (funext fun value => ?_)
  rw [LengthPrefixes.frame, size_eq_length, fieldBytes]

theorem flatMap_fieldBytes_inj {values values' : List String} (hsmall : ∀ v ∈ values, Small v)
    (hsmall' : ∀ v ∈ values', Small v)
    (h : values.flatMap fieldBytes = values'.flatMap fieldBytes) : values = values' := by
  rw [flatMap_fieldBytes, flatMap_fieldBytes] at h
  have hvalid : ∀ {texts : List String}, (∀ v ∈ texts, Small v) →
      ∀ bytes ∈ texts.map fun value => value.toByteArray.data.toList,
        LengthPrefixes.size (fun _ => 1) bytes < 2 ^ 31 := by
    intro texts hsmall bytes hbytes
    obtain ⟨value, hvalue, rfl⟩ := List.mem_map.1 hbytes
    rw [size_eq_length]
    exact hsmall value hvalue
  exact List.map_injective_iff.2 (fun _ _ => toByteArray_inj) (LengthPrefixes.frames_inj
    delimited_bigEndian (fun _ => Nat.one_pos) (hvalid hsmall) (hvalid hsmall') h)

/-! ## Reading the fields back -/

/-- What the version stands for: the identity of a geofence and the bits of its points. -/
def outline (geofence : Geofence) : String × List (UInt64 × UInt64) :=
  (geofence.id, geofence.polygon.map fun point => (point.latitude.toBits, point.longitude.toBits))

theorem isFinite_latitude (point : GeoPoint) : point.latitude.isFinite = true := by
  obtain ⟨hlow, hhigh⟩ := Bool.and_eq_true_iff.1 point.latitudeInRange
  exact FloatOrder.isFinite_of_between (by decide) (by decide) (of_decide_eq_true hlow)
    (of_decide_eq_true hhigh)

theorem isFinite_longitude (point : GeoPoint) : point.longitude.isFinite = true := by
  obtain ⟨hlow, hhigh⟩ := Bool.and_eq_true_iff.1 point.longitudeInRange
  exact FloatOrder.isFinite_of_between (by decide) (by decide) (of_decide_eq_true hlow)
    (of_decide_eq_true hhigh)

theorem pointFields_eq_iff {point point' : GeoPoint} :
    pointFields point = pointFields point' ↔
      (point.latitude.toBits, point.longitude.toBits) =
        (point'.latitude.toBits, point'.longitude.toBits) := by
  simp only [pointFields, List.cons.injEq, and_true, Prod.mk.injEq]
  rw [HexFloat.toHexString_inj (isFinite_latitude point) (isFinite_latitude point'),
    HexFloat.toHexString_inj (isFinite_longitude point) (isFinite_longitude point')]

theorem flatMap_pointFields_eq_iff {points points' : List GeoPoint} :
    points.flatMap pointFields = points'.flatMap pointFields ↔
      (points.map fun point => (point.latitude.toBits, point.longitude.toBits)) =
        points'.map fun point => (point.latitude.toBits, point.longitude.toBits) := by
  induction points generalizing points' with
  | nil =>
      cases points' with
      | nil => exact iff_of_true rfl rfl
      | cons point' points' => simp [pointFields]
  | cons point points ih =>
      cases points' with
      | nil => simp [pointFields]
      | cons point' points' =>
          rw [List.flatMap_cons, List.flatMap_cons, List.map_cons, List.map_cons, List.cons.injEq,
            ← ih, ← pointFields_eq_iff]
          exact ⟨fun h => List.append_inj h rfl, fun h => by rw [h.1, h.2]⟩

/-- The text is a numeral of a point, not an identity. -/
def isNumeral (field : String) : Bool := field.toList.any (· = 'x')

theorem isNumeral_of_mem {points : List GeoPoint} {field : String}
    (h : field ∈ points.flatMap pointFields) : isNumeral field = true := by
  obtain ⟨point, -, hfield⟩ := List.mem_flatMap.1 h
  have hx : ∀ x : Float, x.isFinite = true → isNumeral (HexFloat.toHexString x) = true :=
    fun x hx => List.any_eq_true.2 ⟨'x', HexFloat.x_mem_toHexString hx, by decide⟩
  simp only [pointFields, List.mem_cons, List.not_mem_nil, or_false] at hfield
  rcases hfield with rfl | rfl
  · exact hx _ (isFinite_latitude point)
  · exact hx _ (isFinite_longitude point)

/-- `UUID.toString` -/
def isUuid (text : String) : Bool :=
  text.toList.length = 36 && text.toList.zipIdx.all fun (c, i) =>
    if i ∈ [8, 13, 18, 23] then c = '-' else c ∈ "0123456789abcdef".toList

theorem not_isNumeral_of_isUuid {text : String} (h : isUuid text = true) :
    isNumeral text = false := by
  have hall := List.all_eq_true.1 (Bool.and_eq_true_iff.1 h).2
  rw [isNumeral, List.any_eq_false]
  intro c hc hx
  obtain ⟨i, hi⟩ := List.mem_iff_getElem?.1 hc
  have hat := hall (c, i) (List.mk_mem_zipIdx_iff_getElem?.2 hi)
  rw [of_decide_eq_true hx] at hat
  dsimp only at hat
  split_ifs at hat <;> exact absurd hat (by decide)

theorem isBlank_of_isUuid {text : String} (h : isUuid text = true) :
    JvmText.isBlank text = false := by
  obtain ⟨hlength, hall⟩ := Bool.and_eq_true_iff.1 h
  have hlength := of_decide_eq_true hlength
  have hfirst : text.toList[0]? = some text.toList[0] := List.getElem?_eq_getElem (by omega)
  have hat := List.all_eq_true.1 hall (text.toList[0], 0)
    (List.mk_mem_zipIdx_iff_getElem?.2 hfirst)
  have hdigits : ("0123456789abcdef".toList.all fun c => !JvmText.isWhitespace c) = true := by
    decide +kernel
  have hnot := List.all_eq_true.1 hdigits _ (of_decide_eq_true hat)
  rw [JvmText.isBlank, List.all_eq_false]
  refine ⟨text.toList[0], List.getElem_mem _, ?_⟩
  rw [(Bool.not_eq_true' _).mp hnot]
  exact Bool.false_ne_true

theorem flatMap_geofenceFields_eq_iff {found found' : List Geofence}
    (h : ∀ geofence ∈ found, isUuid geofence.id = true)
    (h' : ∀ geofence ∈ found', isUuid geofence.id = true) :
    found.flatMap geofenceFields = found'.flatMap geofenceFields ↔
      found.map outline = found'.map outline := by
  have hpoints : ∀ (geofence : Geofence) (rest : List Geofence),
      (∀ geofence ∈ rest, isUuid geofence.id = true) →
        (geofence.polygon.flatMap pointFields ++ rest.flatMap geofenceFields).takeWhile isNumeral =
          geofence.polygon.flatMap pointFields := by
    intro geofence rest hrest
    rw [List.takeWhile_append_of_pos fun field hfield => isNumeral_of_mem hfield]
    cases rest with
    | nil => exact List.append_nil _
    | cons next rest =>
        have hnext := not_isNumeral_of_isUuid (hrest next (List.mem_cons_self ..))
        rw [List.flatMap_cons, geofenceFields, List.cons_append,
          List.takeWhile_cons_of_neg (by rw [hnext]; exact Bool.false_ne_true), List.append_nil]
  induction found generalizing found' with
  | nil =>
      cases found' with
      | nil => exact iff_of_true rfl rfl
      | cons geofence' found' => simp [geofenceFields]
  | cons geofence found ih =>
      cases found' with
      | nil => simp [geofenceFields]
      | cons geofence' found' =>
          have hrest := fun g hg => h g (List.mem_cons_of_mem geofence hg)
          have hrest' := fun g hg => h' g (List.mem_cons_of_mem geofence' hg)
          have htails := ih hrest hrest'
          rw [List.flatMap_cons, List.flatMap_cons, List.map_cons, List.map_cons, List.cons.injEq,
            ← propext htails, outline, outline, Prod.mk.injEq, ← flatMap_pointFields_eq_iff]
          constructor
          · intro heq
            obtain ⟨hid, htail⟩ := List.cons.inj heq
            have hpolygon : geofence.polygon.flatMap pointFields =
                geofence'.polygon.flatMap pointFields := by
              rw [← hpoints geofence found hrest, ← hpoints geofence' found' hrest']
              exact congrArg (List.takeWhile isNumeral) htail
            rw [hpolygon] at htail
            exact ⟨⟨hid, hpolygon⟩, List.append_cancel_left htail⟩
          · rintro ⟨⟨hid, hpolygon⟩, htail⟩
            rw [geofenceFields, geofenceFields, hid, hpolygon, htail]

/-! ## The version -/

/-- The identities and polygons of geofences, in no order. -/
def area (found : List Geofence) : Set (String × List (UInt64 × UInt64)) :=
  {entry | entry ∈ found.map outline}

theorem area_perm {found found' : List Geofence} (h : found.Perm found') :
    area found = area found' := by
  ext entry
  exact (h.map outline).mem_iff

namespace GeofenceRepository

/-- The identities are distinct, and those that `GeofenceController` gives. -/
def Identified (repository : GeofenceRepository) : Prop :=
  (repository.geofences.map (·.id)).Nodup ∧ ∀ geofence ∈ repository.geofences, isUuid geofence.id

instance {repository : GeofenceRepository} : Decidable repository.Identified :=
  inferInstanceAs (Decidable (_ ∧ _))

theorem findEnabled_subperm (repository : GeofenceRepository) (groupId : GroupId) :
    (repository.findEnabled groupId).Subperm repository.geofences := by
  have henabled : ∀ geofences, (enabledIn groupId geofences).Subperm geofences :=
    fun geofences => List.filter_sublist.subperm
  cases repository with
  | inMemory geofences => exact henabled geofences
  | jdbc notAfter geofences =>
      exact ((List.take_sublist 500 _).subperm.trans
        (List.perm_insertionSort _ _).subperm).trans (henabled geofences)

/-- The geofences of the group that are enabled. -/
def enabled (groupId : GroupId) (repository : GeofenceRepository) : List Geofence :=
  enabledIn groupId repository.geofences

/-- What is enabled in the group does not exceed the limit of the statement. -/
def Whole (repository : GeofenceRepository) (groupId : GroupId) : Prop :=
  match repository with
  | .inMemory _ => True
  | .jdbc _ _ => (repository.enabled groupId).length ≤ 500

variable {repository : GeofenceRepository}

theorem findEnabled_perm {groupId : GroupId} (h : repository.Whole groupId) :
    (repository.findEnabled groupId).Perm (repository.enabled groupId) := by
  cases repository with
  | inMemory geofences => exact List.Perm.refl _
  | jdbc notAfter geofences =>
      have hsorted := List.perm_insertionSort (byNameAndId notAfter) (enabledIn groupId geofences)
      have hlength : ((enabledIn groupId geofences).insertionSort (byNameAndId notAfter)).length ≤
          500 := hsorted.length_eq.trans_le h
      rw [findEnabled, List.take_of_length_le hlength]
      exact hsorted

theorem Identified.nodup (h : repository.Identified) (groupId : GroupId) :
    ((repository.findEnabled groupId).map (·.id)).Nodup := by
  obtain ⟨l, hperm, hsub⟩ := repository.findEnabled_subperm groupId
  exact ((hperm.map (·.id)).nodup_iff).1 (h.1.sublist (hsub.map (·.id)))

theorem Identified.isUuid (h : repository.Identified) (groupId : GroupId) :
    ∀ geofence ∈ repository.findEnabled groupId, isUuid geofence.id = true :=
  fun geofence hmem => h.2 geofence ((repository.findEnabled_subperm groupId).subset hmem)

end GeofenceRepository

/-- Sorting by identity takes away the order in which the geofences were found. -/
theorem map_outline_sorted_eq_iff {found found' : List Geofence}
    (h : (found.map (·.id)).Nodup) (h' : (found'.map (·.id)).Nodup) :
    (JvmText.sortedBy (·.id) found).map outline = (JvmText.sortedBy (·.id) found').map outline ↔
      area found = area found' := by
  have hmap : ∀ l : List Geofence, (JvmText.sortedBy (·.id) l).map outline =
      JvmText.sortedBy Prod.fst (l.map outline) :=
    fun l => JvmText.sortedBy_map Prod.fst outline l
  have hkeys : ∀ l : List Geofence, (l.map outline).map Prod.fst = l.map (·.id) :=
    fun l => by rw [List.map_map]; rfl
  have hmem : ∀ (l : List Geofence) entry,
      entry ∈ JvmText.sortedBy Prod.fst (l.map outline) ↔ entry ∈ l.map outline :=
    fun l entry => (JvmText.sortedBy_perm _ _).mem_iff
  rw [hmap, hmap]
  constructor
  · intro heq
    ext entry
    have hentry := hmem found entry
    rw [heq] at hentry
    exact hentry.symm.trans (hmem found' entry)
  · intro harea
    rw [← hkeys] at h h'
    apply JvmText.sortedBy_eq_of_perm
    · exact List.inj_on_of_nodup_map h
    · exact (List.perm_ext_iff_of_nodup h.of_map h'.of_map).2 fun entry => Set.ext_iff.1 harea entry

theorem contentVersion_eq_iff {groupId groupId' : GroupId} {enabled enabled' : List Geofence}
    {bytes bytes' : List UInt8} (h : content groupId enabled = .ok bytes)
    (h' : content groupId' enabled' = .ok bytes')
    (hids : ∀ geofence ∈ enabled, isUuid geofence.id = true)
    (hids' : ∀ geofence ∈ enabled', isUuid geofence.id = true)
 (hsha : Sha256.digest bytes = Sha256.digest bytes' → bytes = bytes') :
    "sha256:" ++ Sha256.hex (Sha256.digest bytes) =
        "sha256:" ++ Sha256.hex (Sha256.digest bytes') ↔
      groupId = groupId' ∧ enabled.map outline = enabled'.map outline := by
  obtain ⟨hsmall, rfl⟩ := content_eq_ok_iff.1 h
  obtain ⟨hsmall', rfl⟩ := content_eq_ok_iff.1 h'
  rw [← flatMap_geofenceFields_eq_iff hids hids', ← TelemetryIngestRpc.GroupId.value_inj]
  constructor
  · intro heq
    have hlists := congrArg String.toList heq
    rw [String.toList_append, String.toList_append, List.append_cancel_left_eq] at hlists
    have hdigest := Sha256.hex_injective (String.toList_injective hlists)
    have hfields := flatMap_fieldBytes_inj hsmall hsmall' (hsha hdigest)
    exact List.cons.inj hfields
  · rintro ⟨hvalue, hfields⟩
    rw [contentFields, contentFields, hvalue, hfields]

/-- What `contentVersion` digests. -/
def digested (repository : GeofenceRepository) (groupId : GroupId) : Except Failure (List UInt8) :=
  content groupId (JvmText.sortedBy (·.id) (repository.findEnabled groupId))

theorem current_eq_ok_iff {repository : GeofenceRepository} {groupId : GroupId}
    {snapshot : AllowedAreaSnapshot} :
    current repository groupId = .ok snapshot ↔
      JvmText.sortedBy (·.id) (repository.findEnabled groupId) ≠ [] ∧
        ∃ bytes, digested repository groupId = .ok bytes ∧
          snapshot = ⟨groupId, "sha256:" ++ Sha256.hex (Sha256.digest bytes),
            JvmText.sortedBy (·.id) (repository.findEnabled groupId)⟩ := by
  unfold current contentVersion digested
  dsimp only
  split
  next hempty =>
    rw [List.isEmpty_iff] at hempty
    constructor
    · intro h
      cases h
    · rintro ⟨hne, -⟩
      exact absurd hempty hne
  next hsome =>
    rw [Bool.not_eq_true, List.isEmpty_eq_false_iff] at hsome
    cases content groupId (JvmText.sortedBy (·.id) (repository.findEnabled groupId)) with
    | error failure =>
        constructor
        · intro h
          cases h
        · rintro ⟨-, bytes, hbytes, -⟩
          cases hbytes
    | ok bytes =>
        constructor
        · intro h
          exact ⟨hsome, bytes, rfl, (Except.ok.inj h).symm⟩
        · rintro ⟨-, bytes', hbytes, rfl⟩
          cases hbytes
          rfl

/-! ## More geofences than a page -/

/-- The UUID that ends in the bytes of a number. -/
def numberedId (n : ℕ) : String := "00000000-0000-4000-8000-" ++ Sha256.hex (Sha256.bigEndian 6 n)

theorem length_numberedId (n : ℕ) : (numberedId n).toList.length = 36 := by
  have hprefix : "00000000-0000-4000-8000-".toList.length = 24 := by decide +kernel
  unfold numberedId
  rw [String.toList_append, List.length_append, Sha256.length_hex, Sha256.length_bigEndian, hprefix]

theorem isUuid_numberedId (n : ℕ) : isUuid (numberedId n) = true := by
  have hprefix : ("00000000-0000-4000-8000-".toList.zipIdx.all fun (c, i) =>
      if i ∈ [8, 13, 18, 23] then c = '-' else c ∈ "0123456789abcdef".toList) = true := by decide +kernel
  unfold isUuid
  rw [length_numberedId, decide_eq_true rfl, Bool.true_and]
  unfold numberedId
  rw [String.toList_append, List.zipIdx_append, List.all_append, hprefix, Bool.true_and,
    List.all_eq_true]
  rintro ⟨c, i⟩ hmem
  have hi := List.le_snd_of_mem_zipIdx hmem
  have hc := Sha256.hexDigit_of_mem_hex (List.fst_mem_of_mem_zipIdx hmem)
  have hlate : 24 ≤ i := by simpa using hi
  have hout : i ∉ [8, 13, 18, 23] := by
    simp only [List.mem_cons, List.not_mem_nil, or_false]
    omega
  simp only [if_neg hout, hc, decide_true]

theorem numberedId_inj {n n' : ℕ} (h : n < 256 ^ 6) (h' : n' < 256 ^ 6)
    (heq : numberedId n = numberedId n') : n = n' := by
  have hlists := congrArg String.toList heq
  unfold numberedId at hlists
  rw [String.toList_append, String.toList_append,
    List.append_cancel_left_eq] at hlists
  exact Sha256.bigEndian_inj h h' (Sha256.hex_injective (String.toList_injective hlists))

theorem orderedInsert_concat {α : Type*} {r : α → α → Prop} [DecidableRel r] {l : List α} {x y : α}
    (h : r y x) : (l ++ [x]).orderedInsert r y = l.orderedInsert r y ++ [x] := by
  induction l with
  | nil => exact List.orderedInsert_cons_of_le r [] h
  | cons z l ih =>
      rw [List.cons_append, List.orderedInsert_cons, List.orderedInsert_cons, ih]
      split_ifs <;> rfl

theorem insertionSort_concat {α : Type*} {r : α → α → Prop} [DecidableRel r] {l : List α} {x : α}
    (h : ∀ y ∈ l, r y x) : (l ++ [x]).insertionSort r = l.insertionSort r ++ [x] := by
  induction l with
  | nil => rfl
  | cons y l ih =>
      rw [List.cons_append, List.insertionSort_cons, List.insertionSort_cons,
        ih fun z hz => h z (List.mem_cons_of_mem y hz),
        orderedInsert_concat (h y (List.mem_cons_self ..))]

def numberedGeofence (name : String) (hname : JvmText.isBlank name = false) (n : ℕ) : Geofence where
  id := numberedId n
  name := name
  groupId := ⟨"alpha", .refl false⟩
  polygon := [⟨37, 127, by decide, by decide⟩, ⟨38, 127, by decide, by decide⟩,
    ⟨37, 128, by decide, by decide⟩]
  enabled := true
  idNotBlank := isBlank_of_isUuid (isUuid_numberedId n)
  nameNotBlank := hname
  threePoints := by decide

variable {m : ℕ}

def page (m : ℕ) : List Geofence := (List.range m).map (numberedGeofence "area" (by decide))

def beyondPage (m : ℕ) : Geofence := numberedGeofence "outer area" (by decide) m

theorem map_id_page (m : ℕ) : (page m).map (·.id) = (List.range m).map numberedId := by
  rw [page, List.map_map]
  rfl

theorem identified_page (h : m < 256 ^ 6) :
    (GeofenceRepository.jdbc JvmText.notAfter (page m)).Identified := by
  refine ⟨?_, fun geofence hmem => ?_⟩
  · rw [GeofenceRepository.geofences, map_id_page]
    apply List.Nodup.map_on _ List.nodup_range
    intro n hn n' hn' heq
    rw [List.mem_range] at hn hn'
    exact numberedId_inj (hn.trans h) (hn'.trans h) heq
  · obtain ⟨n, -, rfl⟩ := List.mem_map.1 hmem
    exact isUuid_numberedId n

theorem id_beyondPage_not_mem (h : m < 256 ^ 6) : (beyondPage m).id ∉ (page m).map (·.id) := by
  rw [map_id_page]
  intro hmem
  obtain ⟨n, hn, heq⟩ := List.mem_map.1 hmem
  rw [List.mem_range] at hn
  exact hn.ne (numberedId_inj (hn.trans h) h heq)

theorem identified_beyondPage (h : m < 256 ^ 6) :
    (GeofenceRepository.jdbc JvmText.notAfter (page m ++ [beyondPage m])).Identified := by
  obtain ⟨hnodup, huuids⟩ := identified_page h
  refine ⟨?_, fun geofence hmem => ?_⟩
  · rw [GeofenceRepository.geofences, List.map_append]
    apply hnodup.append (List.nodup_singleton _)
    apply List.disjoint_singleton.2
    exact id_beyondPage_not_mem h
  · rcases List.mem_append.1 hmem with hpage | hlast
    · exact huuids geofence hpage
    · rw [List.mem_singleton.1 hlast]
      exact isUuid_numberedId m

theorem enabledIn_page (m : ℕ) :
    GeofenceRepository.enabledIn ⟨"alpha", by decide⟩ (page m) = page m := by
  rw [GeofenceRepository.enabledIn, List.filter_eq_self]
  intro geofence hmem
  obtain ⟨n, -, rfl⟩ := List.mem_map.1 hmem
  rfl

theorem enabledIn_beyondPage (m : ℕ) :
    GeofenceRepository.enabledIn ⟨"alpha", by decide⟩ (page m ++ [beyondPage m]) =
      page m ++ [beyondPage m] := by
  have hpage := enabledIn_page m
  unfold GeofenceRepository.enabledIn at hpage ⊢
  rw [List.filter_append, hpage]
  rfl

theorem findEnabled_beyondPage (h : 500 ≤ m) :
    (GeofenceRepository.jdbc JvmText.notAfter (page m ++ [beyondPage m])).findEnabled
        ⟨"alpha", by decide⟩ =
      (GeofenceRepository.jdbc JvmText.notAfter (page m)).findEnabled ⟨"alpha", by decide⟩ := by
  have hafter : ∀ geofence ∈ page m,
      GeofenceRepository.byNameAndId JvmText.notAfter geofence (beyondPage m) := by
    intro geofence hmem
    obtain ⟨n, -, rfl⟩ := List.mem_map.1 hmem
    have hname : (numberedGeofence "area" (by decide) n).name ≠ (beyondPage m).name := by
      change "area" ≠ "outer area"
      decide
    rw [GeofenceRepository.byNameAndId, if_neg hname]
    change JvmText.notAfter "area" "outer area" = true
    decide
  have hlength :
      ((page m).insertionSort (GeofenceRepository.byNameAndId JvmText.notAfter)).length = m := by
    rw [(List.perm_insertionSort _ _).length_eq, page, List.length_map, List.length_range]
  rw [GeofenceRepository.findEnabled, GeofenceRepository.findEnabled, enabledIn_beyondPage,
    enabledIn_page, insertionSort_concat hafter,
    List.take_append_of_le_length (h.trans hlength.ge)]

theorem current_eq_ok_of_page {repository : GeofenceRepository}
    (h : ∀ geofence ∈ repository.geofences, geofence ∈ page m)
    (hne : repository.findEnabled ⟨"alpha", by decide⟩ ≠ []) : ∃ snapshot,
    current repository ⟨"alpha", by decide⟩ = .ok snapshot := by
  have hpoints : ∀ value ∈ (beyondPage 0).polygon.flatMap pointFields,
      value.toList.length < 2 ^ 29 := by decide +kernel
  have hsmall : ∀ value ∈ contentFields ⟨"alpha", by decide⟩
      (JvmText.sortedBy (·.id) (repository.findEnabled ⟨"alpha", by decide⟩)), Small value := by
    intro value hvalue
    apply small_of_length
    rcases List.mem_cons.1 hvalue with rfl | hfield
    · decide
    · obtain ⟨geofence, hmem, hfield⟩ := List.mem_flatMap.1 hfield
      have hfound := (JvmText.sortedBy_perm _ _).subset hmem
      obtain ⟨n, -, rfl⟩ := List.mem_map.1 (h _ ((repository.findEnabled_subperm _).subset hfound))
      rcases List.mem_cons.1 hfield with rfl | hpoint
      · change (numberedId n).toList.length < 2 ^ 29
        rw [length_numberedId]
        decide
      · exact hpoints value hpoint
  refine ⟨_, current_eq_ok_iff.2 ⟨fun hnil => hne ?_, _, content_eq_ok_iff.2 ⟨hsmall, rfl⟩, rfl⟩⟩
  exact List.Perm.nil_eq (hnil ▸ JvmText.sortedBy_perm _ _) |>.symm

theorem length_findEnabled_page (m : ℕ) :
    ((GeofenceRepository.jdbc JvmText.notAfter (page m)).findEnabled
      ⟨"alpha", by decide⟩).length = min 500 m := by
  rw [GeofenceRepository.findEnabled, enabledIn_page, List.length_take,
    (List.perm_insertionSort _ _).length_eq, page, List.length_map, List.length_range]

/-! ## The version stands for the area -/

/-- Equal versions stand for the same group and the same area that the repository returned, which
is all that is enabled unless the table has more of it than the statement's limit. -/
theorem version_identifies_area {repository repository' : GeofenceRepository}
    {groupId groupId' : GroupId} {snapshot snapshot' : AllowedAreaSnapshot}
    (hids : repository.Identified) (hids' : repository'.Identified)
    (h : current repository groupId = .ok snapshot)
    (h' : current repository' groupId' = .ok snapshot')
    (hsha : ∀ bytes bytes', digested repository groupId = .ok bytes →
      digested repository' groupId' = .ok bytes' →
        Sha256.digest bytes = Sha256.digest bytes' → bytes = bytes') :
    (snapshot.version = snapshot'.version ↔
      groupId = groupId' ∧
        area (repository.findEnabled groupId) = area (repository'.findEnabled groupId')) ∧
    (repository.Whole groupId → repository'.Whole groupId' →
      (snapshot.version = snapshot'.version ↔
        groupId = groupId' ∧
          area (repository.enabled groupId) = area (repository'.enabled groupId'))) := by
  obtain ⟨-, bytes, hbytes, rfl⟩ := current_eq_ok_iff.1 h
  obtain ⟨-, bytes', hbytes', rfl⟩ := current_eq_ok_iff.1 h'
  have hsorted : ∀ (repository : GeofenceRepository) (groupId : GroupId), repository.Identified →
      ∀ geofence ∈ JvmText.sortedBy (·.id) (repository.findEnabled groupId),
        isUuid geofence.id = true :=
    fun repository groupId hids geofence hmem =>
      hids.isUuid groupId geofence ((JvmText.sortedBy_perm _ _).subset hmem)
  have hversion := contentVersion_eq_iff hbytes hbytes' (hsorted _ _ hids) (hsorted _ _ hids')
    (hsha bytes bytes' hbytes hbytes')
  rw [map_outline_sorted_eq_iff (hids.nodup groupId) (hids'.nodup groupId')] at hversion
  refine ⟨hversion, fun hwhole hwhole' => ?_⟩
  rw [← area_perm (GeofenceRepository.findEnabled_perm hwhole),
    ← area_perm (GeofenceRepository.findEnabled_perm hwhole')]
  exact hversion

theorem version_identifies_area_reversed :
    ∃ snapshot snapshot',
      current (.inMemory (page 2).reverse) ⟨"alpha", by decide⟩ = .ok snapshot ∧
        current (.jdbc JvmText.notAfter (page 2)) ⟨"alpha", by decide⟩ = .ok snapshot' ∧
          snapshot.version = snapshot'.version := by
  have hids : (GeofenceRepository.inMemory (page 2).reverse).Identified := by
    obtain ⟨hnodup, huuids⟩ := identified_page (m := 2) (by decide)
    refine ⟨?_, fun geofence hmem => huuids geofence (List.mem_reverse.1 hmem)⟩
    rw [GeofenceRepository.geofences, List.map_reverse]
    exact List.nodup_reverse.2 hnodup
  have hsame : digested (.inMemory (page 2).reverse) ⟨"alpha", by decide⟩ =
      digested (.jdbc JvmText.notAfter (page 2)) ⟨"alpha", by decide⟩ := by decide +kernel
  obtain ⟨snapshot, h⟩ := @current_eq_ok_of_page 2 (.inMemory (page 2).reverse)
    (fun _ => List.mem_reverse.1) (by decide +kernel)
  obtain ⟨snapshot', h'⟩ := @current_eq_ok_of_page 2 (.jdbc JvmText.notAfter (page 2))
    (fun _ => id) (by decide +kernel)
  have hversion := version_identifies_area hids (identified_page (by decide)) h h'
    fun bytes bytes' hb hb' _ => Except.ok.inj (hb.symm.trans (hsame.trans hb'))
  refine ⟨snapshot, snapshot', h, h', (hversion.2 trivial ?_).2 ⟨rfl, ?_⟩⟩
  · change (GeofenceRepository.enabledIn ⟨"alpha", by decide⟩ (page 2)).length ≤ 500
    rw [enabledIn_page]
    decide
  · apply area_perm
    exact (List.reverse_perm _).filter _

/-- A geofence after the five hundred that the statement returns leaves the version as it was. -/
theorem version_identifies_area_counterexample :
    ∃ (repository repository' : GeofenceRepository) (groupId : GroupId)
      (snapshot snapshot' : AllowedAreaSnapshot),
      repository.Identified ∧ repository'.Identified ∧
        current repository groupId = .ok snapshot ∧ current repository' groupId = .ok snapshot' ∧
          snapshot.version = snapshot'.version ∧
            area (repository.enabled groupId) ≠ area (repository'.enabled groupId) := by
  have hcount : 500 < 256 ^ 6 := by decide
  have hne : (GeofenceRepository.jdbc JvmText.notAfter (page 500)).findEnabled
      ⟨"alpha", by decide⟩ ≠ [] := by
    rw [← List.length_pos_iff, length_findEnabled_page]
    decide
  obtain ⟨snapshot, hsnapshot⟩ := current_eq_ok_of_page (fun _ => id) hne
  have hsame := hsnapshot
  unfold current at hsame
  rw [← findEnabled_beyondPage le_rfl] at hsame
  refine ⟨_, _, _, snapshot, snapshot, identified_page hcount, identified_beyondPage hcount,
    hsnapshot, hsame, rfl, fun harea => id_beyondPage_not_mem hcount ?_⟩
  rw [GeofenceRepository.enabled, GeofenceRepository.enabled, GeofenceRepository.geofences,
    GeofenceRepository.geofences, enabledIn_page, enabledIn_beyondPage] at harea
  have hmem : outline (beyondPage 500) ∈ area (page 500 ++ [beyondPage 500]) :=
    List.mem_map_of_mem (List.mem_append_right _ (List.mem_singleton_self _))
  rw [← harea] at hmem
  obtain ⟨geofence, hgeofence, heq⟩ := List.mem_map.1 hmem
  exact List.mem_map.2 ⟨geofence, hgeofence, congrArg Prod.fst heq⟩

end GcsSaker.Geofences
