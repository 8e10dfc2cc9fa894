import LgBuddy.Settings.Intent
import LgBuddy.Update.Flow

/-!
# LgBuddy — what the Settings view shows

The rows of `presentation/settings.rs` and the update check of `presentation/update_check.rs`.

* `SettingsRow`, `SettingsPresentation` — the rows, found and changed by their setting;
* `settings` — which settings have a row, and that only a new set of groups changes it;
* `UpdateCheckPresentation` — the manual update check.

Texts of a row that no operation looks at are left out.
-/

namespace LgBuddy

/-! ## Rows -/

inductive DeclarativeSource where
  | generic
  | nix
  deriving DecidableEq, Repr

inductive SettingsEditStatus where
  | unchanged
  | saving
  | applied
  | validationFailed
  | persistenceFailed
  | applyFailed
  deriving DecidableEq, Repr

inductive SettingsFeedbackSeverity where
  | info
  | warning
  | error
  deriving DecidableEq, Repr

structure SettingsFeedback where
  severity : SettingsFeedbackSeverity
  message : String
  deriving DecidableEq, Repr

structure SettingsChoice where
  value : String
  label : String
  deriving DecidableEq, Repr

inductive SettingsEditor where
  | automaticIntegration (configured : Option String)
  | toggle (value : Option Bool)
  | choice (options : List SettingsChoice) (selected : Option Nat)
  | number (text : String)
  deriving DecidableEq, Repr

structure SettingsRow where
  setting : BehaviorSetting
  managedBy : Option DeclarativeSource
  valueLabel : String
  sourceLabel : String
  problem : Option String
  editor : SettingsEditor
  editorEnabled : Bool
  editStatus : SettingsEditStatus
  feedback : Option SettingsFeedback
  resetAction : Option SettingsAction
  retryApplyAction : Option SettingsAction
  deriving DecidableEq, Repr

structure SettingsGroup where
  rows : List SettingsRow
  deriving DecidableEq, Repr

namespace SettingsRow

variable (row : SettingsRow)

def setEditorEnabled (enabled : Bool) : SettingsRow :=
  let enabled := enabled && row.managedBy.isNone
  { row with
    editorEnabled := enabled
    resetAction := row.resetAction.map ({ · with enabled })
    retryApplyAction := row.retryApplyAction.map ({ · with enabled }) }

def retryApply : SettingsAction := ⟨"Retry apply", row.editorEnabled, .retryApply row.setting⟩

def setState (status : SettingsEditStatus) (feedback : Option SettingsFeedback)
    (retryApply : Bool) : SettingsRow :=
  { row with
    editStatus := status
    feedback
    retryApplyAction := if retryApply && row.managedBy.isNone then some row.retryApply else none }

/-- What takes the place of `row` keeps to whether it can be edited. -/
def replaceBy (replacement : SettingsRow) : SettingsRow :=
  { replacement with
    editorEnabled := row.editorEnabled
    resetAction := replacement.resetAction.map ({ · with enabled := row.editorEnabled })
    retryApplyAction := none }

/-- A warning about a saved value stays as long as the value does. -/
def preserveApplyFailure (old : SettingsRow) : SettingsRow :=
  if old.retryApplyAction.isNone || old.editor != row.editor || old.problem != row.problem
      || old.sourceLabel != row.sourceLabel then row
  else
    { row with
      editStatus := old.editStatus
      feedback := old.feedback
      retryApplyAction := some row.retryApply }

end SettingsRow

/-- The first row of the setting is changed. -/
def updateFirstRow (setting : BehaviorSetting) (f : SettingsRow → SettingsRow) :
    List SettingsRow → List SettingsRow
  | [] => []
  | row :: rows =>
    if row.setting = setting then f row :: rows else row :: updateFirstRow setting f rows

def updateRow (setting : BehaviorSetting) (f : SettingsRow → SettingsRow) :
    List SettingsGroup → List SettingsGroup
  | [] => []
  | group :: groups =>
    if group.rows.any (·.setting = setting) then
      ⟨updateFirstRow setting f group.rows⟩ :: groups
    else group :: updateRow setting f groups

/-! ## The update check -/

structure UpdateCheckPresentation where
  checking : Bool := false
  installActive : Bool := false
  result : Option UpdateCheckReport := none
  observedOwnership : Option InstallationOwnership := none
  error : Option UserFacingError := none
  deriving DecidableEq, Repr

namespace UpdateCheckPresentation

variable (check : UpdateCheckPresentation)

def installationOwnership : Option InstallationOwnership :=
  check.observedOwnership.or (check.result.map (·.installationOwnership))

def checkAction : SettingsAction where
  label :=
    if check.checking then "Checking…"
    else if check.error.isSome then "Retry check"
    else "Check for updates"
  enabled :=
    !check.checking && !check.installActive && !check.installationOwnership.any (·.externallyUpdated)
  intent := .checkForUpdates

def setInstallActive (active : Bool) : UpdateCheckPresentation :=
  { check with installActive := active }

def start : UpdateCheckPresentation := { check with checking := true, error := none }

def clearResult : UpdateCheckPresentation := { check with result := none, error := none }

def setInstallationOwnership (ownership : InstallationOwnership) : UpdateCheckPresentation :=
  { check with
    observedOwnership := some ownership
    result := check.result.map ({ · with installationOwnership := ownership }) }

def complete : Except UserFacingError UpdateCheckReport → UpdateCheckPresentation
  | .ok report =>
    let report := match check.observedOwnership.filter (·.externallyUpdated) with
      | some owner => { report with installationOwnership := owner }
      | none => report
    { check with
      checking := false
      observedOwnership := some report.installationOwnership
      result := some report
      error := none }
  | .error error => { check with checking := false, error := some error }

end UpdateCheckPresentation

/-! ## The whole -/

inductive SettingsStatus where
  | loading (message : String)
  | ready
  | failed (error : UserFacingError)
  deriving DecidableEq, Repr

structure SettingsPresentation where
  status : SettingsStatus
  groups : List SettingsGroup
  retryAction : Option SettingsAction := none
  updateCheck : UpdateCheckPresentation := {}
  updateInstall : UpdateInstallPresentation := {}
  deriving DecidableEq, Repr

namespace SettingsPresentation

def loading : SettingsPresentation := { status := .loading "Loading settings…", groups := [] }

def ready (groups : List SettingsGroup) : SettingsPresentation := { status := .ready, groups }

def failedWithGroups (error : UserFacingError) (groups : List SettingsGroup) :
    SettingsPresentation :=
  { status := .failed error, groups, retryAction := some ⟨"Retry", true, .retry⟩ }

variable (shown : SettingsPresentation)

/-- The rows stay while a refresh is in flight. -/
def markLoading : SettingsPresentation :=
  { shown with status := .loading "Refreshing settings…", retryAction := none }

def rows : List SettingsRow := shown.groups.flatMap (·.rows)

def row (setting : BehaviorSetting) : Option SettingsRow :=
  shown.rows.find? (·.setting = setting)

def replaceRow (replacement : SettingsRow) : SettingsPresentation :=
  { shown with groups := updateRow replacement.setting (·.replaceBy replacement) shown.groups }

def mapRows (f : SettingsRow → SettingsRow) : SettingsPresentation :=
  { shown with groups := shown.groups.map fun group => ⟨group.rows.map f⟩ }

def setControlsAvailable (available : Bool) : SettingsPresentation :=
  shown.mapRows (·.setEditorEnabled available)

def setRowState (setting : BehaviorSetting) (status : SettingsEditStatus)
    (feedback : Option SettingsFeedback) (retryApply : Bool) : SettingsPresentation :=
  { shown with groups := updateRow setting (·.setState status feedback retryApply) shown.groups }

def preserveApplyFailuresFrom (previous : SettingsPresentation) : SettingsPresentation :=
  shown.mapRows fun row =>
    match previous.row row.setting with
    | none => row
    | some old => row.preserveApplyFailure old

/-! ### Which settings have a row -/

def settings : List BehaviorSetting := shown.rows.map (·.setting)

theorem row_isSome_iff (setting : BehaviorSetting) :
    (shown.row setting).isSome ↔ setting ∈ shown.settings := by
  simp [row, settings, List.find?_isSome]

theorem updateFirstRow_settings (setting : BehaviorSetting) {f : SettingsRow → SettingsRow}
    (hf : ∀ row, row.setting = setting → (f row).setting = setting) (rows : List SettingsRow) :
    (updateFirstRow setting f rows).map (·.setting) = rows.map (·.setting) := by
  induction rows with
  | nil => rfl
  | cons row rows ih =>
    unfold updateFirstRow
    split
    · rename_i hrow
      rw [List.map_cons, List.map_cons, hf row hrow, hrow]
    · rw [List.map_cons, List.map_cons, ih]

theorem updateRow_settings (setting : BehaviorSetting) {f : SettingsRow → SettingsRow}
    (hf : ∀ row, row.setting = setting → (f row).setting = setting) (groups : List SettingsGroup) :
    ((updateRow setting f groups).flatMap (·.rows)).map (·.setting)
      = (groups.flatMap (·.rows)).map (·.setting) := by
  induction groups with
  | nil => rfl
  | cons group groups ih =>
    unfold updateRow
    split
    · simp only [List.flatMap_cons, List.map_append, updateFirstRow_settings setting hf]
    · simp only [List.flatMap_cons, List.map_append, ih]

@[simp] theorem settings_setRowState (setting : BehaviorSetting) (status : SettingsEditStatus)
    (feedback : Option SettingsFeedback) (retryApply : Bool) :
    (shown.setRowState setting status feedback retryApply).settings = shown.settings :=
  updateRow_settings (f := (·.setState status feedback retryApply)) setting (fun _ h => h)
    shown.groups

@[simp] theorem settings_replaceRow (replacement : SettingsRow) :
    (shown.replaceRow replacement).settings = shown.settings :=
  updateRow_settings (f := (·.replaceBy replacement)) replacement.setting (fun _ _ => rfl)
    shown.groups

theorem settings_mapRows {f : SettingsRow → SettingsRow} (hf : ∀ row, (f row).setting = row.setting) :
    (shown.mapRows f).settings = shown.settings := by
  simp only [settings, rows, mapRows, List.flatMap_map, List.map_flatMap, List.map_map,
    Function.comp_def, hf]

theorem row_mapRows {f : SettingsRow → SettingsRow} (hf : ∀ row, (f row).setting = row.setting)
    (setting : BehaviorSetting) : (shown.mapRows f).row setting = (shown.row setting).map f := by
  have hrows : (shown.mapRows f).rows = shown.rows.map f := by
    simp only [rows, mapRows, List.flatMap_map, List.map_flatMap]
  rw [row, hrows, List.find?_map, row]
  simp only [Function.comp_def, hf]

@[simp] theorem settings_setControlsAvailable (available : Bool) :
    (shown.setControlsAvailable available).settings = shown.settings :=
  shown.settings_mapRows fun _ => rfl

@[simp] theorem settings_preserveApplyFailuresFrom (previous : SettingsPresentation) :
    (shown.preserveApplyFailuresFrom previous).settings = shown.settings := by
  refine shown.settings_mapRows fun row => ?_
  split
  · rfl
  · unfold SettingsRow.preserveApplyFailure
    split <;> rfl

@[simp] theorem settings_withUpdateCheck (updateCheck : UpdateCheckPresentation) :
    { shown with updateCheck }.settings = shown.settings := rfl

@[simp] theorem settings_markLoading : shown.markLoading.settings = shown.settings := rfl

end SettingsPresentation

end LgBuddy
