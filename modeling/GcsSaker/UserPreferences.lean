import GcsSaker.CheckedSteps
import Mathlib.Data.List.Nodup
import Mathlib.Data.List.ReduceOption
import Mathlib.Data.Rat.Defs

/-!
# The preferences of a dashboard user

Preferences are read from whatever was stored. What is not understood is replaced by a default, and
a widget that is missing from the layout is added to it.
-/

namespace GcsSaker.UserPreferences

/-! ## Stored values -/

/-- A value of `JSON.parse`. A number is none if it is an infinity; an object is given by its own
properties. -/
inductive JsonValue where
  | null
  | boolean (b : Bool)
  | number (x : Option ℚ)
  | string (s : String)
  | array (items : List JsonValue)
  | object (properties : List (String × JsonValue))

/-- `value.name`, none for `undefined`, of a value other than null. -/
def JsonValue.get (name : String) : JsonValue → Option JsonValue
  | .object properties => properties.lookup name
  | _ => none

/-- `value?.name` -/
def optionalGet (name : String) : Option JsonValue → Option JsonValue
  | some value => value.get name
  | none => none

/-- `Boolean(value)` -/
def toBoolean : Option JsonValue → Bool
  | none => false
  | some .null => false
  | some (.boolean b) => b
  | some (.number x) => x ≠ some 0
  | some (.string s) => s ≠ ""
  | some (.array _) => true
  | some (.object _) => true

/-- The member of a set of texts that a value is. -/
def memberOf {α : Type*} (members : List α) (text : α → String) : Option JsonValue → Option α
  | some (.string s) => members.find? (text · = s)
  | _ => none

def positiveInteger (value : Option JsonValue) (fallback : ℚ) : ℚ :=
  match value with
  | some (.number (some x)) => if x.den = 1 ∧ 0 < x then x else fallback
  | _ => fallback

inductive Thrown where
  | typeError
  deriving DecidableEq

/-! ## Layout -/

inductive DashboardWidgetId where
  | assetTree
  | tacticalMap
  | selectedStream
  | streamGrid
  | telemetryPanel
  | opsSummary
  | aiResults
  deriving DecidableEq

def DashboardWidgetId.text : DashboardWidgetId → String
  | .assetTree => "asset-tree"
  | .tacticalMap => "tactical-map"
  | .selectedStream => "selected-stream"
  | .streamGrid => "stream-grid"
  | .telemetryPanel => "telemetry-panel"
  | .opsSummary => "ops-summary"
  | .aiResults => "ai-results"

structure DashboardGridPosition where
  column : ℚ
  row : ℚ
  columnSpan : ℚ
  rowSpan : ℚ
  deriving DecidableEq

structure DashboardWidgetDefinition where
  id : DashboardWidgetId
  title : String
  minWidth : ℚ
  minHeight : ℚ
  defaultPosition : DashboardGridPosition
  deriving DecidableEq

structure DashboardLayoutItem extends DashboardWidgetDefinition where
  pinned : Bool
  visible : Bool
  deriving DecidableEq

def DASHBOARD_WIDGET_REGISTRY : DashboardWidgetId → DashboardWidgetDefinition
  | .assetTree => ⟨.assetTree, "자산트리", 300, 280, ⟨1, 1, 1, 1⟩⟩
  | .tacticalMap => ⟨.tacticalMap, "지도", 420, 340, ⟨2, 1, 1, 1⟩⟩
  | .selectedStream => ⟨.selectedStream, "선택 스트림", 360, 300, ⟨3, 1, 1, 1⟩⟩
  | .streamGrid => ⟨.streamGrid, "전체 스트림", 360, 220, ⟨3, 2, 1, 1⟩⟩
  | .telemetryPanel => ⟨.telemetryPanel, "지오메트리 / 텔레메트리", 280, 140, ⟨1, 1, 1, 1⟩⟩
  | .opsSummary => ⟨.opsSummary, "운용 요약", 280, 140, ⟨1, 2, 1, 1⟩⟩
  | .aiResults => ⟨.aiResults, "AI 결과", 360, 110, ⟨1, 3, 3, 1⟩⟩

def DEFAULT_DASHBOARD_WIDGET_ORDER : List DashboardWidgetId :=
  [.assetTree, .tacticalMap, .selectedStream, .streamGrid, .telemetryPanel, .opsSummary, .aiResults]

def defaultItem (widgetId : DashboardWidgetId) : DashboardLayoutItem :=
  { DASHBOARD_WIDGET_REGISTRY widgetId with
    pinned := false
    visible := widgetId ≠ .aiResults }

/-- `resetDashboardLayout`, a copy of `DEFAULT_DASHBOARD_LAYOUT`. -/
def resetDashboardLayout : List DashboardLayoutItem :=
  DEFAULT_DASHBOARD_WIDGET_ORDER.map defaultItem

/-- `fallbackById.get` -/
def fallbackAt (fallback : List DashboardLayoutItem) :
    Option JsonValue → Option DashboardLayoutItem :=
  memberOf fallback (·.id.text)

/-- What an entry that is not null says of its widget. -/
def readItem (fallback : List DashboardLayoutItem) (item : JsonValue) :
    Option DashboardLayoutItem :=
  (fallbackAt fallback (item.get "id")).map fun base =>
    let position := item.get "defaultPosition"
    { base with
      defaultPosition := {
        column := positiveInteger (optionalGet "column" position) base.defaultPosition.column
        columnSpan :=
          positiveInteger (optionalGet "columnSpan" position) base.defaultPosition.columnSpan
        row := positiveInteger (optionalGet "row" position) base.defaultPosition.row
        rowSpan := positiveInteger (optionalGet "rowSpan" position) base.defaultPosition.rowSpan }
      pinned := toBoolean (item.get "pinned")
      visible := toBoolean (item.get "visible") }

/-- One round of the `flatMap`: `item.id` throws if the entry is null. -/
def normalizeItem (fallback : List DashboardLayoutItem) :
    JsonValue → Except Thrown (Option DashboardLayoutItem)
  | .null => .error .typeError
  | item => .ok (readItem fallback item)

def normalizeLayout (value : Option JsonValue) (fallback : List DashboardLayoutItem) :
    Except Thrown (List DashboardLayoutItem) :=
  match value with
  | some (.array items) => do
    let normalized := (← items.mapM (normalizeItem fallback)).reduceOption
    return normalized ++ fallback.filter fun item => item.id ∉ normalized.map (·.id)
  | _ => .ok fallback

/-! ## Preferences -/

inductive DashboardView where
  | dashboard
  | cctv
  | events
  | status
  | settings
  deriving DecidableEq

def DashboardView.text : DashboardView → String
  | .dashboard => "dashboard"
  | .cctv => "cctv"
  | .events => "events"
  | .status => "status"
  | .settings => "settings"

def DASHBOARD_VIEWS : List DashboardView := [.dashboard, .cctv, .events, .status, .settings]

inductive CctvLayoutMode where
  | threeByThree
  | fourByFour
  | fiveByFive
  | auto
  deriving DecidableEq

def CctvLayoutMode.text : CctvLayoutMode → String
  | .threeByThree => "3x3"
  | .fourByFour => "4x4"
  | .fiveByFive => "5x5"
  | .auto => "auto"

def CCTV_LAYOUT_MODES : List CctvLayoutMode := [.threeByThree, .fourByFour, .fiveByFive, .auto]

inductive CctvQualityMode where
  | preview
  | high
  deriving DecidableEq

def CctvQualityMode.text : CctvQualityMode → String
  | .preview => "preview"
  | .high => "high"

def CCTV_QUALITY_MODES : List CctvQualityMode := [.preview, .high]

inductive DashboardDensityMode where
  | expanded
  | overview
  deriving DecidableEq

def DashboardDensityMode.text : DashboardDensityMode → String
  | .expanded => "expanded"
  | .overview => "overview"

def DENSITY_MODES : List DashboardDensityMode := [.expanded, .overview]

inductive DashboardPriorityMode where
  | default
  | map
  | stream
  deriving DecidableEq

def DashboardPriorityMode.text : DashboardPriorityMode → String
  | .default => "default"
  | .map => "map"
  | .stream => "stream"

def PRIORITY_MODES : List DashboardPriorityMode := [.default, .map, .stream]

inductive MotionMode where
  | full
  | reduced
  | off
  deriving DecidableEq

def MotionMode.text : MotionMode → String
  | .full => "full"
  | .reduced => "reduced"
  | .off => "off"

def MOTION_MODES : List MotionMode := [.full, .reduced, .off]

def isDashboardView : Option JsonValue → Option DashboardView :=
  memberOf DASHBOARD_VIEWS DashboardView.text

def isCctvLayoutMode : Option JsonValue → Option CctvLayoutMode :=
  memberOf CCTV_LAYOUT_MODES CctvLayoutMode.text

def isCctvQualityMode : Option JsonValue → Option CctvQualityMode :=
  memberOf CCTV_QUALITY_MODES CctvQualityMode.text

def isDensityMode : Option JsonValue → Option DashboardDensityMode :=
  memberOf DENSITY_MODES DashboardDensityMode.text

def isPriorityMode : Option JsonValue → Option DashboardPriorityMode :=
  memberOf PRIORITY_MODES DashboardPriorityMode.text

def normalizeMotionMode (value : Option JsonValue) (fallback : MotionMode) : MotionMode :=
  (memberOf MOTION_MODES MotionMode.text value).getD fallback

def normalizeLegacyLayoutMode :
    Option JsonValue → Option (DashboardDensityMode × DashboardPriorityMode)
  | some (.string "overview") => some (.overview, .default)
  | some (.string "map-priority") => some (.expanded, .map)
  | some (.string "stream-priority") => some (.expanded, .stream)
  | some (.string "expanded") => some (.expanded, .default)
  | _ => none

def normalizeDashboardLayoutPreferences (value : JsonValue) :
    DashboardDensityMode × DashboardPriorityMode :=
  let legacy := normalizeLegacyLayoutMode (value.get "dashboardLayoutMode")
  ((isDensityMode (value.get "dashboardDensityMode")).getD ((legacy.map (·.1)).getD .expanded),
    (isPriorityMode (value.get "dashboardPriorityMode")).getD ((legacy.map (·.2)).getD .default))

structure StreamPreferencesSnapshot where
  deviceAliases : List (String × String)
  deriving DecidableEq

def EMPTY_STREAM_PREFERENCES : StreamPreferencesSnapshot := ⟨[]⟩

def normalizeStreamPreferencesSnapshot (value : Option JsonValue) : StreamPreferencesSnapshot :=
  match optionalGet "deviceAliases" value with
  | some (.object aliases) =>
    ⟨aliases.filterMap fun entry =>
      match entry.2 with
      | .string text => some (entry.1, text)
      | _ => none⟩
  | _ => EMPTY_STREAM_PREFERENCES

structure DashboardUserPreferences where
  activeView : DashboardView
  cctvLayoutMode : CctvLayoutMode
  cctvQualityMode : CctvQualityMode
  dashboardDensityMode : DashboardDensityMode
  dashboardPriorityMode : DashboardPriorityMode
  layout : List DashboardLayoutItem
  motionMode : MotionMode
  streamPreferences : StreamPreferencesSnapshot
  version : ℕ
  deriving DecidableEq

def DASHBOARD_USER_PREFERENCES_VERSION : ℕ := 2

/-- The defaults in a browser that prefers a motion mode. -/
def createDefaultDashboardUserPreferences (preferred : MotionMode) : DashboardUserPreferences where
  activeView := .dashboard
  cctvLayoutMode := .fourByFour
  cctvQualityMode := .preview
  dashboardDensityMode := .expanded
  dashboardPriorityMode := .default
  layout := resetDashboardLayout
  motionMode := preferred
  streamPreferences := EMPTY_STREAM_PREFERENCES
  version := DASHBOARD_USER_PREFERENCES_VERSION

/-- `typeof value === "object"`, for a value other than null. -/
def JsonValue.isObject : JsonValue → Bool
  | .array _ => true
  | .object _ => true
  | _ => false

def normalizeDashboardUserPreferences (preferred : MotionMode) (value : JsonValue) :
    Except Thrown DashboardUserPreferences :=
  let defaults := createDefaultDashboardUserPreferences preferred
  if value.isObject then do
    let (dashboardDensityMode, dashboardPriorityMode) := normalizeDashboardLayoutPreferences value
    let layout ← normalizeLayout (value.get "layout") defaults.layout
    return {
      activeView := (isDashboardView (value.get "activeView")).getD defaults.activeView
      cctvLayoutMode := (isCctvLayoutMode (value.get "cctvLayoutMode")).getD defaults.cctvLayoutMode
      cctvQualityMode :=
        (isCctvQualityMode (value.get "cctvQualityMode")).getD defaults.cctvQualityMode
      dashboardDensityMode := dashboardDensityMode
      dashboardPriorityMode := dashboardPriorityMode
      layout := layout
      motionMode := normalizeMotionMode (value.get "motionMode") defaults.motionMode
      streamPreferences := normalizeStreamPreferencesSnapshot (value.get "streamPreferences")
      version := DASHBOARD_USER_PREFERENCES_VERSION }
  else .ok defaults

/-! ## Preferences as a stored value -/

def DashboardGridPosition.toJson (position : DashboardGridPosition) : JsonValue :=
  .object [("column", .number position.column), ("row", .number position.row),
    ("columnSpan", .number position.columnSpan), ("rowSpan", .number position.rowSpan)]

def DashboardLayoutItem.toJson (item : DashboardLayoutItem) : JsonValue :=
  .object [("id", .string item.id.text), ("title", .string item.title),
    ("minWidth", .number item.minWidth), ("minHeight", .number item.minHeight),
    ("defaultPosition", item.defaultPosition.toJson), ("pinned", .boolean item.pinned),
    ("visible", .boolean item.visible)]

def StreamPreferencesSnapshot.toJson (preferences : StreamPreferencesSnapshot) : JsonValue :=
  .object [("deviceAliases",
    .object (preferences.deviceAliases.map fun entry => (entry.1, .string entry.2)))]

def DashboardUserPreferences.toJson (preferences : DashboardUserPreferences) : JsonValue :=
  .object [("activeView", .string preferences.activeView.text),
    ("cctvLayoutMode", .string preferences.cctvLayoutMode.text),
    ("cctvQualityMode", .string preferences.cctvQualityMode.text),
    ("dashboardDensityMode", .string preferences.dashboardDensityMode.text),
    ("dashboardPriorityMode", .string preferences.dashboardPriorityMode.text),
    ("layout", .array (preferences.layout.map (·.toJson))),
    ("motionMode", .string preferences.motionMode.text),
    ("streamPreferences", preferences.streamPreferences.toJson),
    ("version", .number (preferences.version : ℚ))]

/-! ## What should hold -/

def DashboardGridPosition.Positive (position : DashboardGridPosition) : Prop :=
  ∀ x ∈ [position.column, position.row, position.columnSpan, position.rowSpan], x.den = 1 ∧ 0 < x

instance {position : DashboardGridPosition} : Decidable position.Positive :=
  inferInstanceAs (Decidable (∀ x ∈ (_ : List ℚ), x.den = 1 ∧ 0 < x))

/-- A value is normalized without an error, to preferences that have each widget once, in a place
that there is, and that are normalized to themselves. -/
def Canonical (preferred : MotionMode) (value : JsonValue) : Prop :=
  ∃ preferences, normalizeDashboardUserPreferences preferred value = .ok preferences ∧
    (∀ id, (preferences.layout.map (·.id)).count id = 1) ∧
    (∀ item ∈ preferences.layout, item.defaultPosition.Positive) ∧
    normalizeDashboardUserPreferences preferred preferences.toJson = .ok preferences

/-- The widget that an entry of a stored layout is about. -/
def widgetOf (item : JsonValue) : Option DashboardWidgetId :=
  memberOf DEFAULT_DASHBOARD_WIDGET_ORDER DashboardWidgetId.text (item.get "id")

/-- A stored layout that is a list has no null in it, and no widget twice. -/
def SoundLayout (value : JsonValue) : Prop :=
  ∀ items, value.get "layout" = some (.array items) →
    .null ∉ items ∧ (items.filterMap widgetOf).Nodup

/-! ## Reading what was written -/

theorem memberOf_text {α : Type*} {members : List α} {text : α → String} {a : α}
    (ha : a ∈ members) (h : ∀ b ∈ members, text b = text a → b = a) :
    memberOf members text (some (.string (text a))) = some a := by
  obtain ⟨b, hb⟩ : ∃ b, members.find? (text · = text a) = some b :=
    Option.isSome_iff_exists.1 (List.find?_isSome.2 ⟨a, ha, decide_eq_true rfl⟩)
  have hsame : text b = text a := by simpa using List.find?_some hb
  rw [memberOf, hb, h b (List.mem_of_find?_eq_some hb) hsame]

@[simp] theorem isDashboardView_text (view : DashboardView) :
    isDashboardView (some (.string view.text)) = some view :=
  memberOf_text (by cases view <;> decide) (by cases view <;> decide)

@[simp] theorem isCctvLayoutMode_text (mode : CctvLayoutMode) :
    isCctvLayoutMode (some (.string mode.text)) = some mode :=
  memberOf_text (by cases mode <;> decide) (by cases mode <;> decide)

@[simp] theorem isCctvQualityMode_text (mode : CctvQualityMode) :
    isCctvQualityMode (some (.string mode.text)) = some mode :=
  memberOf_text (by cases mode <;> decide) (by cases mode <;> decide)

@[simp] theorem isDensityMode_text (mode : DashboardDensityMode) :
    isDensityMode (some (.string mode.text)) = some mode :=
  memberOf_text (by cases mode <;> decide) (by cases mode <;> decide)

@[simp] theorem isPriorityMode_text (mode : DashboardPriorityMode) :
    isPriorityMode (some (.string mode.text)) = some mode :=
  memberOf_text (by cases mode <;> decide) (by cases mode <;> decide)

@[simp] theorem normalizeMotionMode_text (mode fallback : MotionMode) :
    normalizeMotionMode (some (.string mode.text)) fallback = mode := by
  rw [normalizeMotionMode,
    memberOf_text (by cases mode <;> decide) (by cases mode <;> decide), Option.getD_some]

@[simp] theorem normalizeStreamPreferencesSnapshot_toJson
    (preferences : StreamPreferencesSnapshot) :
    normalizeStreamPreferencesSnapshot (some preferences.toJson) = preferences := by
  have hget : optionalGet "deviceAliases" (some preferences.toJson) =
      some (.object (preferences.deviceAliases.map fun entry => (entry.1, .string entry.2))) := rfl
  rw [normalizeStreamPreferencesSnapshot, hget]
  simp only [List.filterMap_map, Function.comp_def]
  exact congrArg StreamPreferencesSnapshot.mk List.filterMap_some

/-! ## Items -/

theorem normalizeItem_eq_ok_iff {fallback : List DashboardLayoutItem} {item : JsonValue}
    {read : Option DashboardLayoutItem} :
    normalizeItem fallback item = .ok read ↔ item ≠ .null ∧ read = readItem fallback item := by
  cases item <;> simp [normalizeItem, eq_comm]

theorem defaultItem_id (widgetId : DashboardWidgetId) : (defaultItem widgetId).id = widgetId := by
  cases widgetId <;> rfl

theorem resetDashboardLayout_ids :
    resetDashboardLayout.map (·.id) = DEFAULT_DASHBOARD_WIDGET_ORDER := by decide

theorem fallbackAt_reset (id : Option JsonValue) :
    fallbackAt resetDashboardLayout id =
      (memberOf DEFAULT_DASHBOARD_WIDGET_ORDER DashboardWidgetId.text id).map defaultItem := by
  cases id with
  | none => rfl
  | some value =>
      cases value with
      | string s =>
          rw [fallbackAt, memberOf, memberOf, resetDashboardLayout, List.find?_map]
          simp only [Function.comp_def, defaultItem_id]
      | _ => rfl

theorem readItem_id (item : JsonValue) :
    (readItem resetDashboardLayout item).map (·.id) = widgetOf item := by
  rw [readItem, fallbackAt_reset, widgetOf, Option.map_map, Option.map_map]
  simp only [Function.comp_def, defaultItem_id, Option.map_id']

/-- An item of the registry in a place that there is. -/
structure SettledItem (item : DashboardLayoutItem) : Prop where
  registered : item = { defaultItem item.id with
    defaultPosition := item.defaultPosition
    pinned := item.pinned
    visible := item.visible }
  positive : item.defaultPosition.Positive

theorem positiveInteger_spec (value : Option JsonValue) {fallback : ℚ}
    (h : fallback.den = 1 ∧ 0 < fallback) :
    (positiveInteger value fallback).den = 1 ∧ 0 < positiveInteger value fallback := by
  unfold positiveInteger
  split
  next x =>
    split
    next hx => exact hx
    next => exact h
  next => exact h

theorem defaultItem_settled (widgetId : DashboardWidgetId) :
    SettledItem (defaultItem widgetId) := by
  constructor
  · cases widgetId <;> rfl
  · cases widgetId <;> decide

theorem readItem_settled {item : JsonValue} {read : DashboardLayoutItem}
    (h : readItem resetDashboardLayout item = some read) : SettledItem read := by
  rw [readItem, fallbackAt_reset, Option.map_map, Option.map_eq_some_iff] at h
  obtain ⟨widgetId, -, rfl⟩ := h
  have hpositive := (defaultItem_settled widgetId).positive
  simp only [DashboardGridPosition.Positive, List.forall_mem_cons] at hpositive
  constructor
  · cases widgetId <;> rfl
  · simp only [Function.comp_apply, DashboardGridPosition.Positive, List.forall_mem_cons]
    exact ⟨positiveInteger_spec _ hpositive.1, positiveInteger_spec _ hpositive.2.1,
      positiveInteger_spec _ hpositive.2.2.1, positiveInteger_spec _ hpositive.2.2.2.1,
      fun _ hmem => nomatch hmem⟩

theorem positiveInteger_of_positive {x fallback : ℚ} (h : x.den = 1 ∧ 0 < x) :
    positiveInteger (some (.number x)) fallback = x := if_pos h

theorem readItem_toJson {item : DashboardLayoutItem} (h : SettledItem item) :
    readItem resetDashboardLayout item.toJson = some item := by
  have hid : memberOf DEFAULT_DASHBOARD_WIDGET_ORDER DashboardWidgetId.text
      (item.toJson.get "id") = some item.id :=
    memberOf_text (by cases item.id <;> decide) (by cases item.id <;> decide)
  have hposition : item.toJson.get "defaultPosition" = some item.defaultPosition.toJson := rfl
  have hpositive := h.positive
  simp only [DashboardGridPosition.Positive, List.forall_mem_cons] at hpositive
  obtain ⟨hcolumn, hrow, hcolumnSpan, hrowSpan, -⟩ := hpositive
  have hread (name : String) (x fallback : ℚ) (hx : x.den = 1 ∧ 0 < x)
      (hget : optionalGet name (some item.defaultPosition.toJson) = some (.number x)) :
      positiveInteger (optionalGet name (some item.defaultPosition.toJson)) fallback = x := by
    rw [hget, positiveInteger_of_positive hx]
  rw [readItem, fallbackAt_reset, hid, Option.map_some, Option.map_some]
  simp only [hposition]
  rw [hread "column" _ _ hcolumn rfl, hread "columnSpan" _ _ hcolumnSpan rfl,
    hread "row" _ _ hrow rfl, hread "rowSpan" _ _ hrowSpan rfl]
  exact congrArg some h.registered.symm

/-! ## Layouts -/

theorem normalizeLayout_array_eq_ok_iff {items : List JsonValue}
    {layout : List DashboardLayoutItem} :
    normalizeLayout (some (.array items)) resetDashboardLayout = .ok layout ↔
      .null ∉ items ∧
        layout = items.filterMap (readItem resetDashboardLayout) ++
          resetDashboardLayout.filter fun item => item.id ∉ items.filterMap widgetOf := by
  have hids : (items.filterMap (readItem resetDashboardLayout)).map (·.id) =
      items.filterMap widgetOf := by
    rw [List.map_filterMap]
    simp only [readItem_id]
  have hmap : ∀ reads, items.mapM (normalizeItem resetDashboardLayout) = .ok reads ↔
      (∀ item ∈ items, item ≠ .null) ∧ reads = items.map (readItem resetDashboardLayout) :=
    fun reads => CheckedSteps.mapM_eq_ok_iff fun _ _ => normalizeItem_eq_ok_iff
  rw [normalizeLayout, CheckedSteps.bind_eq_ok_iff]
  constructor
  · rintro ⟨reads, hreads, hlayout⟩
    obtain ⟨hnull, rfl⟩ := (hmap reads).1 hreads
    refine ⟨fun hmem => hnull _ hmem rfl, ?_⟩
    simp only [List.reduceOption, List.filterMap_map, Function.id_comp, hids] at hlayout
    exact (Except.ok.inj hlayout).symm
  · rintro ⟨hnull, rfl⟩
    refine ⟨_, (hmap _).2 ⟨fun item hitem heq => hnull (heq ▸ hitem), rfl⟩, ?_⟩
    simp only [List.reduceOption, List.filterMap_map, Function.id_comp, hids]
    rfl

theorem count_layout (ids : List DashboardWidgetId) (id : DashboardWidgetId) :
    (ids ++ (resetDashboardLayout.filter fun item => item.id ∉ ids).map (·.id)).count id = 1 ↔
      ids.count id ≤ 1 := by
  have hfilter : (resetDashboardLayout.filter fun item => item.id ∉ ids).map (·.id) =
      DEFAULT_DASHBOARD_WIDGET_ORDER.filter fun widgetId => widgetId ∉ ids := by
    rw [← resetDashboardLayout_ids, List.filter_map]
    rfl
  have hone : DEFAULT_DASHBOARD_WIDGET_ORDER.count id = 1 := by cases id <;> decide
  rw [hfilter, List.count_append]
  by_cases hmem : id ∈ ids
  · have hnone : (DEFAULT_DASHBOARD_WIDGET_ORDER.filter fun widgetId => widgetId ∉ ids).count id =
        0 := List.count_eq_zero.2 fun h => of_decide_eq_true (List.mem_filter.1 h).2 hmem
    have hpos := List.count_pos_iff.2 hmem
    omega
  · have hall : (DEFAULT_DASHBOARD_WIDGET_ORDER.filter fun widgetId => widgetId ∉ ids).count id =
        1 := by rw [List.count_filter (by simpa using hmem), hone]
    have hzero := List.count_eq_zero.2 hmem
    omega

/-- A layout of settled items with every widget is read back as it was written. -/
theorem normalizeLayout_toJson {layout : List DashboardLayoutItem}
    (hsettled : ∀ item ∈ layout, SettledItem item) (hall : ∀ id, id ∈ layout.map (·.id)) :
    normalizeLayout (some (.array (layout.map (·.toJson)))) resetDashboardLayout = .ok layout := by
  have hread : (layout.map (·.toJson)).filterMap (readItem resetDashboardLayout) = layout := by
    rw [List.filterMap_map]
    exact (List.filterMap_congr fun item hitem => readItem_toJson (hsettled item hitem)).trans
      List.filterMap_some
  have hids : (layout.map (·.toJson)).filterMap widgetOf = layout.map (·.id) := by
    rw [← congrArg (List.map (·.id)) hread, List.map_filterMap]
    simp only [readItem_id]
  rw [normalizeLayout_array_eq_ok_iff, hread, hids]
  refine ⟨fun hnull => ?_, ?_⟩
  · obtain ⟨item, -, hitem⟩ := List.mem_map.1 hnull
    cases hitem
  · rw [List.filter_eq_nil_iff.2 fun item _ => by simpa using hall item.id, List.append_nil]

/-! ## Preferences -/

theorem normalize_toJson (preferred : MotionMode) {preferences : DashboardUserPreferences}
    (hversion : preferences.version = DASHBOARD_USER_PREFERENCES_VERSION)
    (hsettled : ∀ item ∈ preferences.layout, SettledItem item)
    (hall : ∀ id, id ∈ preferences.layout.map (·.id)) :
    normalizeDashboardUserPreferences preferred preferences.toJson = .ok preferences := by
  have hlayout : normalizeLayout (preferences.toJson.get "layout") resetDashboardLayout =
      .ok preferences.layout := normalizeLayout_toJson hsettled hall
  have hview : preferences.toJson.get "activeView" =
      some (.string preferences.activeView.text) := rfl
  have hcctv : preferences.toJson.get "cctvLayoutMode" =
      some (.string preferences.cctvLayoutMode.text) := rfl
  have hquality : preferences.toJson.get "cctvQualityMode" =
      some (.string preferences.cctvQualityMode.text) := rfl
  have hdensity : preferences.toJson.get "dashboardDensityMode" =
      some (.string preferences.dashboardDensityMode.text) := rfl
  have hpriority : preferences.toJson.get "dashboardPriorityMode" =
      some (.string preferences.dashboardPriorityMode.text) := rfl
  have hmotion : preferences.toJson.get "motionMode" =
      some (.string preferences.motionMode.text) := rfl
  have hstreams : preferences.toJson.get "streamPreferences" =
      some preferences.streamPreferences.toJson := rfl
  have hobject : preferences.toJson.isObject = true := rfl
  rw [normalizeDashboardUserPreferences, if_pos hobject]
  simp only [createDefaultDashboardUserPreferences, hlayout, bind, Except.bind, pure, Except.pure,
    normalizeDashboardLayoutPreferences, hview, hcctv, hquality, hdensity, hpriority, hmotion,
    hstreams, isDashboardView_text, isCctvLayoutMode_text, isCctvQualityMode_text,
    isDensityMode_text, isPriorityMode_text, normalizeMotionMode_text,
    normalizeStreamPreferencesSnapshot_toJson, Option.getD_some, ← hversion]

theorem normalize_of_layout {preferred : MotionMode} {value : JsonValue}
    {layout : List DashboardLayoutItem} (hobject : value.isObject = true)
    (h : normalizeLayout (value.get "layout") resetDashboardLayout = .ok layout) :
    ∃ preferences, normalizeDashboardUserPreferences preferred value = .ok preferences ∧
      preferences.layout = layout ∧
      preferences.version = DASHBOARD_USER_PREFERENCES_VERSION := by
  rw [normalizeDashboardUserPreferences, if_pos hobject, createDefaultDashboardUserPreferences, h]
  exact ⟨_, rfl, rfl, rfl⟩

theorem layout_of_normalize {preferred : MotionMode} {value : JsonValue}
    {preferences : DashboardUserPreferences} (hobject : value.isObject = true)
    (h : normalizeDashboardUserPreferences preferred value = .ok preferences) :
    normalizeLayout (value.get "layout") resetDashboardLayout = .ok preferences.layout := by
  rw [normalizeDashboardUserPreferences, if_pos hobject, createDefaultDashboardUserPreferences,
    CheckedSteps.bind_eq_ok_iff] at h
  obtain ⟨layout, hlayout, hpreferences⟩ := h
  rw [← Except.ok.inj hpreferences]
  exact hlayout

theorem reset_settled : ∀ item ∈ resetDashboardLayout, SettledItem item := by
  intro item hitem
  obtain ⟨widgetId, -, rfl⟩ := List.mem_map.1 hitem
  exact defaultItem_settled widgetId

/-- Preferences with each widget once and settled items are as they should be. -/
theorem canonical_of_settled {preferred : MotionMode} {value : JsonValue}
    {preferences : DashboardUserPreferences}
    (h : normalizeDashboardUserPreferences preferred value = .ok preferences)
    (hversion : preferences.version = DASHBOARD_USER_PREFERENCES_VERSION)
    (hsettled : ∀ item ∈ preferences.layout, SettledItem item)
    (hcount : ∀ id, (preferences.layout.map (·.id)).count id = 1) : Canonical preferred value :=
  ⟨preferences, h, hcount, fun item hitem => (hsettled item hitem).positive,
    normalize_toJson preferred hversion hsettled fun id =>
      List.count_pos_iff.1 (by rw [hcount]; exact Nat.one_pos)⟩

theorem canonical_of_reset {preferred : MotionMode} {value : JsonValue}
    {preferences : DashboardUserPreferences}
    (h : normalizeDashboardUserPreferences preferred value = .ok preferences)
    (hversion : preferences.version = DASHBOARD_USER_PREFERENCES_VERSION)
    (hlayout : preferences.layout = resetDashboardLayout) : Canonical preferred value := by
  refine canonical_of_settled h hversion (hlayout ▸ reset_settled) fun id => ?_
  rw [hlayout, resetDashboardLayout_ids]
  cases id <;> decide

theorem layout_ids {items : List JsonValue} :
    (items.filterMap (readItem resetDashboardLayout) ++
      resetDashboardLayout.filter fun item => item.id ∉ items.filterMap widgetOf).map (·.id) =
    items.filterMap widgetOf ++
      (resetDashboardLayout.filter fun item => item.id ∉ items.filterMap widgetOf).map (·.id) := by
  rw [List.map_append, List.map_filterMap]
  simp only [readItem_id]

theorem canonical_array_iff {preferred : MotionMode} {value : JsonValue} {items : List JsonValue}
    (hobject : value.isObject = true) (hitems : value.get "layout" = some (.array items)) :
    Canonical preferred value ↔ .null ∉ items ∧ (items.filterMap widgetOf).Nodup := by
  constructor
  · rintro ⟨preferences, h, hcount, -, -⟩
    have hlayout := layout_of_normalize hobject h
    rw [hitems, normalizeLayout_array_eq_ok_iff] at hlayout
    refine ⟨hlayout.1, List.nodup_iff_count_le_one.2 fun id => ?_⟩
    have hone := hcount id
    rw [hlayout.2, layout_ids] at hone
    exact (count_layout _ id).1 hone
  · rintro ⟨hnull, hnodup⟩
    have hlayout := hitems ▸ normalizeLayout_array_eq_ok_iff.2 ⟨hnull, rfl⟩
    obtain ⟨preferences, h, hsame, hversion⟩ := normalize_of_layout hobject hlayout
    refine canonical_of_settled h hversion (fun item hitem => ?_) fun id => ?_
    · rw [hsame, List.mem_append, List.mem_filterMap] at hitem
      rcases hitem with ⟨entry, -, hread⟩ | hreset
      · exact readItem_settled hread
      · exact reset_settled item (List.mem_filter.1 hreset).1
    · rw [hsame, layout_ids]
      exact (count_layout _ id).2 (List.nodup_iff_count_le_one.1 hnodup id)

/-- Stored preferences are normalized as they should be just when their layout is sound. -/
theorem normalize_canonical_iff (preferred : MotionMode) (value : JsonValue) :
    Canonical preferred value ↔ SoundLayout value := by
  cases hobject : value.isObject with
  | false =>
      have hnone : value.get "layout" = none := by cases value <;> trivial
      have hreset : normalizeDashboardUserPreferences preferred value =
          .ok (createDefaultDashboardUserPreferences preferred) := by
        rw [normalizeDashboardUserPreferences, hobject]
        rfl
      exact iff_of_true (canonical_of_reset hreset rfl rfl) fun items hitems => by
        rw [hnone] at hitems
        cases hitems
  | true =>
      by_cases harray : ∃ items, value.get "layout" = some (.array items)
      · obtain ⟨items, hitems⟩ := harray
        rw [canonical_array_iff hobject hitems]
        constructor
        · intro h items' hitems'
          rw [hitems, Option.some.injEq, JsonValue.array.injEq] at hitems'
          exact hitems' ▸ h
        · intro h
          exact h items hitems
      · have hreset : normalizeLayout (value.get "layout") resetDashboardLayout =
            .ok resetDashboardLayout := by
          unfold normalizeLayout
          split
          next items hitems => exact absurd ⟨items, hitems⟩ harray
          next => rfl
        obtain ⟨preferences, h, hlayout, hversion⟩ := normalize_of_layout hobject hreset
        exact iff_of_true (canonical_of_reset h hversion hlayout) fun items hitems =>
          absurd ⟨items, hitems⟩ harray

/-- A layout with a null entry, and one with a widget twice. -/
theorem normalize_not_canonical :
    ¬Canonical .full (.object [("layout", .array [.null])]) ∧
      ¬Canonical .full (.object [("layout", .array
        [.object [("id", .string "asset-tree")], .object [("id", .string "asset-tree")]])]) := by
  constructor
  · intro h
    have hsound := (canonical_array_iff rfl rfl).1 h
    exact hsound.1 List.mem_cons_self
  · intro h
    have hsound := (canonical_array_iff rfl rfl).1 h
    exact absurd hsound.2 (by decide)

end GcsSaker.UserPreferences
