import LgBuddy.Settings.Presentation

/-!
# LgBuddy — the Settings view

`SettingsApplication` of `settings_view.rs`: reads and edits of the settings run in workers, and
the application says which of them are under way.

* `SettingsTransition` — the answer to a call, with the operations that are to be run;
* `beginRead`, `beginMutation`, `startQueuedMutation`, `finishMutation` — how operations come
  about and in which order;
* `handleIntent` and the completions — the calls.
-/

namespace LgBuddy

open FailureDetails (retainedFailureDetails)

/-! ## Operations and their results -/

inductive SettingsMutationRequest where
  | set (value : String)
  | reset
  | retryApply
  deriving DecidableEq, Repr

/-- Numbers are counted in 64 bits in the source. -/
structure SettingsMutationOperation where
  id : Nat
  setting : BehaviorSetting
  request : SettingsMutationRequest
  deriving DecidableEq, Repr

structure SettingsReadOperation where
  id : Nat
  deriving DecidableEq, Repr

structure UpdateCheckOperation where
  id : Nat
  deriving DecidableEq, Repr

inductive SettingsReadFailure where
  | stopped
  | unreadable
  | internal
  deriving DecidableEq, Repr

structure SettingsReadError where
  failure : SettingsReadFailure
  diagnostic : String
  deriving DecidableEq, Repr

structure SettingsReadSnapshot where
  groups : List SettingsGroup
  installationOwnership : Option InstallationOwnership := none
  deriving DecidableEq, Repr

/-- The errors that are told apart. -/
inductive SettingsErrorKind where
  | invalidValue
  | activationCancelled
  | other
  deriving DecidableEq, Repr

structure SettingsError where
  kind : SettingsErrorKind
  text : String
  deriving DecidableEq, Repr

inductive SettingsMutationFailure where
  | validation (error : SettingsError)
  | persistence (error : SettingsError)
  | activation (error : SettingsError)
  deriving DecidableEq, Repr

def SettingsMutationFailure.error : SettingsMutationFailure → SettingsError
  | .validation error | .persistence error | .activation error => error

inductive SettingsApplyOutcome where
  | restarted (service : String)
  | enabled (unit : String)
  | enabledStarted (unit : String)
  | disabledStopped (unit : String)
  | notInstalled (service : String)
  | inactiveDisabled (service : String)
  | skipped (reason : String)
  | noActionRequired
  deriving DecidableEq, Repr

/-- `effectiveRow` is the row of the setting as it is in effect after the change. -/
structure SettingsMutationOutcome where
  effectiveRow : SettingsRow
  apply : Except SettingsError SettingsApplyOutcome

structure UpdateCheckError where
  presentation : UserFacingError
  diagnostic : String
  deriving DecidableEq, Repr

structure UpdateNotice where
  title : String
  details : Option String
  deriving DecidableEq, Repr

structure SettingsTransition where
  presentation : SettingsPresentation
  readOperation : Option SettingsReadOperation := none
  mutationOperation : Option SettingsMutationOperation := none
  updateCheckOperation : Option UpdateCheckOperation := none
  updateInstallOperation : Option UpdateInstallOperation := none
  updateNotice : Option UpdateNotice := none
  diagnostic : Option String := none
  deriving Repr

/-! ## Texts -/

def mutationFailureMessage : SettingsMutationFailure → String
  | .validation error =>
    match error.kind with
    | .invalidValue => "That value is not valid. Choose one of the accepted values."
    | _ => "That change is not valid for this setting."
  | .persistence _ => "LG Buddy could not save this setting. Your previous value was kept."
  | .activation error =>
    match error.kind with
    | .activationCancelled => "Authorization was cancelled. The setting remains disabled."
    | _ => "The service could not be activated, so the setting remains disabled."

def applyTargetLabel (service : String) : String :=
  if Str.contains service.toList "screen".toList then "the screen integration"
  else if Str.contains service.toList "update_check".toList then
    "automatic update checks"
  else "the related service"

def applyFeedback : SettingsApplyOutcome → Option SettingsFeedback
  | .notInstalled service =>
    some ⟨.warning, s!"Saved; {applyTargetLabel service} is not installed yet."⟩
  | .inactiveDisabled service =>
    some ⟨.warning,
      s!"Saved; {applyTargetLabel service} is inactive and disabled. It will apply when started."⟩
  | .skipped _ => some ⟨.warning, "Saved; runtime apply was skipped by configuration."⟩
  | .noActionRequired | .enabled _ | .restarted _ | .enabledStarted _ | .disabledStopped _ => none

def userFacingReadError : SettingsReadFailure → UserFacingError
  | .stopped =>
    ⟨"Settings loading stopped", "The current settings could not be loaded. Retry to try again."⟩
  | .unreadable =>
    ⟨"LG Buddy could not read its settings", "Check the settings configuration, then retry."⟩
  | .internal =>
    ⟨"LG Buddy could not load settings", "Retry. If this continues, check the LG Buddy logs."⟩

def PackageFamily.packageManager : PackageFamily → String
  | .dpkg => "APT"
  | .rpm => "DNF"
  | .pacman => "pacman"

def updateInstallGuidance : InstallationOwnership → Option String
  | .nixStore => some "This installation is managed by Nix. Update the LG Buddy flake input, then rebuild and activate your NixOS or Home Manager configuration (or update the owning Nix profile). Updating flake.lock alone does not replace the running application. LG Buddy's update checks and installer are not used for this installation."
  | .bundle | .package .dpkg | .package .rpm => none
  | .package family => some s!"This installation is managed by {family.packageManager}. Use that package manager to install a suitable verified package from your package source or maintainer. LG Buddy cannot install package updates in this version."
  | .unknown => some "LG Buddy could not verify how this installation is managed. Automatic installation is unavailable. Check the installation and its package source before updating."

def sanitizedNoticeDetail (detail : String) : Option String :=
  let detail := retainedFailureDetails detail
  if detail.isEmpty then none else some detail

def noticeDetails (error : UserFacingError) (diagnostic : String) : Option String :=
  let diagnostic := retainedFailureDetails diagnostic
  match error.detail.isEmpty, diagnostic.isEmpty with
  | true, true => none
  | false, true => some error.detail
  | true, false => some diagnostic
  | false, false => some (error.detail ++ "\n\n" ++ diagnostic)

def updateCheckNotice : Except UpdateCheckError UpdateCheckReport → Option UpdateNotice
  | .ok report =>
    if report.installationOwnership.externallyUpdated then
      some ⟨"Managed externally", updateInstallGuidance report.installationOwnership⟩
    else if !report.updateAvailable then
      some ⟨"Already up to date", report.warning.bind sanitizedNoticeDetail⟩
    else report.warning.map fun warning => ⟨"Update check warning", sanitizedNoticeDetail warning⟩
  | .error error =>
    some ⟨error.presentation.summary, noticeDetails error.presentation error.diagnostic⟩

/-! ## The application -/

inductive SettingsApplicationState where
  | loading
  | ready
  | failed
  deriving DecidableEq, Repr

structure PendingMutation where
  operation : SettingsMutationOperation
  previousRow : SettingsRow
  deriving DecidableEq, Repr

structure SettingsApplication where
  state : SettingsApplicationState
  pendingRead : Option SettingsReadOperation
  nextOperationId : Nat
  presentation : SettingsPresentation
  controlsAvailable : Bool := true
  closed : Bool := false
  pendingMutation : Option PendingMutation := none
  queuedMutations : List PendingMutation := []
  reconcileMutation : Option PendingMutation := none
  pendingUpdateCheck : Option UpdateCheckOperation := none
  updateInstall : UpdateInstallApplication := {}
  deriving Repr

/-- `transition` is what the caller gets. `accepted` is the edit that an operation was made for:
it is told later, when its turn comes. -/
structure SettingsAnswer where
  transition : Option SettingsTransition := none
  accepted : Option SettingsMutationOperation := none
  deriving Repr

namespace SettingsApplication

/-- `open`, whose transition asks for the first read. -/
def opening : SettingsApplication where
  state := .loading
  pendingRead := some ⟨0⟩
  nextOperationId := 1
  presentation := .loading

variable (app : SettingsApplication)

/-! ### Transitions -/

/-- The channel that the row of the update channel has selected. -/
def selectedChannel : Option UpdateChannel :=
  match (app.presentation.row .updatesChannel).map SettingsRow.editor with
  | some (.choice options (some selected)) =>
    match options[selected]?.map SettingsChoice.value with
    | some "stable" => some .stable
    | some "prerelease" => some .prerelease
    | _ => none
  | _ => none

def syncUpdateInstall : SettingsApplication :=
  let available := app.controlsAvailable && app.pendingMutation.isNone
    && app.queuedMutations.isEmpty && app.reconcileMutation.isNone
    && app.pendingUpdateCheck.isNone && app.state = .ready
  let updateInstall := app.updateInstall.refreshAvailability app.presentation.updateCheck.result
    app.selectedChannel available
  let shown := { app.presentation with updateInstall := updateInstall.presentation }
  let shown := shown.setControlsAvailable (app.controlsAvailable && !updateInstall.active)
  let shown := { shown with
    updateCheck := shown.updateCheck.setInstallActive updateInstall.active }
  { app with updateInstall, presentation := shown }

def transition (readOperation : Option SettingsReadOperation)
    (mutationOperation : Option SettingsMutationOperation) (diagnostic : Option String) :
    SettingsTransition × SettingsApplication :=
  let app := app.syncUpdateInstall
  ({ presentation := app.presentation, readOperation, mutationOperation, diagnostic }, app)

/-! ### Operations -/

def canEdit : Bool :=
  app.controlsAvailable && !app.updateInstall.active && app.reconcileMutation.isNone
    && !app.presentation.groups.isEmpty && app.state != .failed

def beginRead : SettingsTransition × SettingsApplication :=
  let operation : SettingsReadOperation := ⟨app.nextOperationId⟩
  { app with
    nextOperationId := app.nextOperationId + 1
    state := .loading
    pendingRead := some operation
    presentation := app.presentation.markLoading }.transition (some operation) none none

def startQueuedMutation : Option SettingsMutationOperation × SettingsApplication :=
  if app.pendingMutation.isSome then (none, app)
  else match app.queuedMutations with
    | [] => (none, app)
    | pending :: queued =>
      (some pending.operation,
        { app with pendingMutation := some pending, queuedMutations := queued, state := .ready })

/-- A newly submitted edit supersedes an older read. -/
def supersedeRead : SettingsApplication :=
  if app.pendingRead.isSome then
    { app with
      pendingRead := none
      presentation := { SettingsPresentation.ready app.presentation.groups with
        updateCheck := app.presentation.updateCheck }
      state := .ready }
  else app

/-- The edit is put behind all others. -/
def enqueueMutation (setting : BehaviorSetting) (request : SettingsMutationRequest)
    (previousRow : SettingsRow) : SettingsMutationOperation × SettingsApplication :=
  let operation : SettingsMutationOperation := ⟨app.nextOperationId, setting, request⟩
  (operation,
    { app with
      nextOperationId := app.nextOperationId + 1
      queuedMutations := app.queuedMutations ++ [⟨operation, previousRow⟩] })

def showRowState (setting : BehaviorSetting) (status : SettingsEditStatus)
    (feedback : Option SettingsFeedback) (retryApply : Bool) : SettingsApplication :=
  { app with presentation := app.presentation.setRowState setting status feedback retryApply }

def beginMutation (setting : BehaviorSetting) (request : SettingsMutationRequest) :
    SettingsAnswer × SettingsApplication :=
  match app.presentation.row setting with
  | none => ({}, app)
  | some previousRow =>
    if previousRow.managedBy.isSome then ({}, app)
    else
      let (created, app) := app.supersedeRead.enqueueMutation setting request previousRow
      let (operation, app) :=
        if app.pendingMutation.isNone then app.startQueuedMutation else (none, app)
      let (transition, app) :=
        (app.showRowState setting .saving none false).transition none operation none
      (⟨some transition, some created⟩, app)

/-- The rows that queued edits fall back to; `none` if one of them has no row. -/
def refreshQueued (completed : Option BehaviorSetting) (shown : SettingsPresentation) :
    List PendingMutation → List PendingMutation × Bool
  | [] => ([], true)
  | queued :: rest =>
    if completed.all (· = queued.operation.setting) then
      match shown.row queued.operation.setting with
      | none => (queued :: rest, false)
      | some row =>
        let (rest, found) := refreshQueued completed shown rest
        ({ queued with previousRow := row } :: rest, found)
    else
      let (rest, found) := refreshQueued completed shown rest
      (queued :: rest, found)

def showSaving (operations : List SettingsMutationOperation) (shown : SettingsPresentation) :
    SettingsPresentation :=
  operations.foldl (fun shown operation => shown.setRowState operation.setting .saving none false)
    shown

/-- The next edit waits for a read that is under way. -/
def resumeQueue : Option SettingsMutationOperation × SettingsApplication :=
  if app.pendingRead.isSome then (none, { app with state := .loading })
  else app.startQueuedMutation

def finishMutation (completed : Option BehaviorSetting) (diagnostic : Option String) :
    Option SettingsTransition × SettingsApplication :=
  let (queued, found) := refreshQueued completed app.presentation app.queuedMutations
  let app := { app with queuedMutations := queued }
  if !found then (none, app)
  else
    let (operation, app) := app.resumeQueue
    -- a completion must not replace a newer submitted value in the editor
    let saving := operation.toList ++ app.queuedMutations.map (·.operation)
    let app := { app with presentation := showSaving saving app.presentation }
    let (transition, app) := app.transition none operation diagnostic
    (some transition, app)

/-- When the application is closed, only what is queued is still run. -/
def drainQueue : Option SettingsTransition × SettingsApplication :=
  match app.startQueuedMutation with
  | (none, app) => (none, app)
  | (some next, app) =>
    let (transition, app) := app.transition none (some next) none
    (some transition, app)

/-! ### Intents -/

def handleCheckForUpdates : Option SettingsTransition × SettingsApplication :=
  if app.pendingUpdateCheck.isNone && !app.updateInstall.active
      && app.presentation.updateCheck.checkAction.enabled
      && !app.presentation.groups.isEmpty then
    let operation : UpdateCheckOperation := ⟨app.nextOperationId⟩
    let shown := { app.presentation with updateCheck := app.presentation.updateCheck.start }
    let (transition, app) :=
      { app with
        nextOperationId := app.nextOperationId + 1
        pendingUpdateCheck := some operation
        presentation := shown }.transition none none none
    (some { transition with updateCheckOperation := some operation }, app)
  else (none, app)

def handleUpdateInstall (intent : SettingsIntent) :
    Option SettingsTransition × SettingsApplication :=
  match app.updateInstall.handle intent with
  | (none, updateInstall) => (none, { app with updateInstall })
  | (some operation, updateInstall) =>
    let (transition, app) := { app with updateInstall }.transition none none none
    (some { transition with updateInstallOperation := operation }, app)

def isToggle : SettingsEditor → Bool
  | .toggle _ => true
  | _ => false

def handleIntent (intent : SettingsIntent) : SettingsAnswer × SettingsApplication :=
  if app.closed then ({}, app)
  else
    let app := app.syncUpdateInstall
    match intent with
    | .prepareUpdateInstall | .confirmUpdateInstall | .cancelUpdateInstall
    | .relaunchUpdatedApplication =>
      let (transition, app) := app.handleUpdateInstall intent
      ({ transition }, app)
    | .checkForUpdates =>
      let (transition, app) := app.handleCheckForUpdates
      ({ transition }, app)
    | .retry =>
      if app.state = .failed then
        let (transition, app) := app.beginRead
        ({ transition }, app)
      else ({}, app)
    | .refresh =>
      if app.pendingMutation.isNone && (app.state = .ready || app.state = .failed) then
        let (transition, app) := app.beginRead
        ({ transition }, app)
      else ({}, app)
    | .setEnabled setting enabled =>
      if app.canEdit && (app.presentation.row setting).any (fun row => isToggle row.editor) then
        app.beginMutation setting (.set (if enabled then "enabled" else "disabled"))
      else ({}, app)
    | .commit setting value =>
      if app.canEdit then app.beginMutation setting (.set value) else ({}, app)
    | .reset setting => if app.canEdit then app.beginMutation setting .reset else ({}, app)
    | .retryApply setting =>
      if app.canEdit
          && ((app.presentation.row setting).bind (·.retryApplyAction)).any (·.enabled) then
        app.beginMutation setting .retryApply
      else ({}, app)
    | .completeSetup => ({}, app)

/-! ### Completions -/

/-- What a stopped write has left behind, seen in the settings as they were read. -/
def reconcile (pending : Option PendingMutation) (shown : SettingsPresentation) :
    SettingsPresentation :=
  match pending with
  | none => shown
  | some pending =>
    let changed := (shown.row pending.operation.setting).any fun row =>
      row.valueLabel != pending.previousRow.valueLabel
        || row.sourceLabel != pending.previousRow.sourceLabel
    shown.setRowState pending.operation.setting
      (if changed then .applyFailed else .persistenceFailed)
      (some ⟨.warning,
        if changed then
          "The setting was saved, but runtime apply could not be confirmed. Retry apply."
        else "The saved value is unchanged; runtime apply could not be confirmed. Retry apply."⟩)
      true

def withOwnership (ownership : Option InstallationOwnership) (check : UpdateCheckPresentation) :
    UpdateCheckPresentation :=
  match ownership with
  | none => check
  | some ownership => check.setInstallationOwnership ownership

def completeSnapshot (operation : SettingsReadOperation)
    (result : Except SettingsReadError SettingsReadSnapshot) :
    Option SettingsTransition × SettingsApplication :=
  if app.pendingRead ≠ some operation then (none, app)
  else
    let app := { app with pendingRead := none }
    if app.closed then app.drainQueue
    else match result with
      | .ok snapshot =>
        let shown := SettingsPresentation.ready snapshot.groups
        let shown := shown.preserveApplyFailuresFrom app.presentation
        let shown := reconcile app.reconcileMutation shown
        let shown := shown.setControlsAvailable app.controlsAvailable
        let shown := { shown with
          updateCheck := withOwnership snapshot.installationOwnership app.presentation.updateCheck }
        { app with reconcileMutation := none, state := .ready, presentation := shown }.finishMutation
          none none
      | .error error =>
        let shown := { SettingsPresentation.failedWithGroups (userFacingReadError error.failure)
            app.presentation.groups with
          updateCheck := app.presentation.updateCheck }
        let (transition, app) :=
          { app with state := .failed, presentation := shown }.transition none none
            (some error.diagnostic)
        (some transition, app)

/-- `complete_read`: without what was seen of the owner. -/
def completeRead (operation : SettingsReadOperation)
    (result : Except SettingsReadError (List SettingsGroup)) :
    Option SettingsTransition × SettingsApplication :=
  app.completeSnapshot operation (result.map fun groups => { groups })

/-- The row after a write that went through. -/
def showOutcome (setting : BehaviorSetting) (outcome : SettingsMutationOutcome) :
    SettingsPresentation :=
  let replacement := outcome.effectiveRow.setEditorEnabled app.controlsAvailable
  let shown := app.presentation.replaceRow replacement
  let shown := shown.setControlsAvailable app.controlsAvailable
  match outcome.apply with
  | .ok applied => shown.setRowState setting .applied (applyFeedback applied) false
  | .error _ =>
    shown.setRowState setting .applyFailed
      (some ⟨.warning, "Saved, but could not apply yet. Retry apply."⟩) true

/-- The row after a write that failed: as it was, with the failure. -/
def showFailure (pending : PendingMutation) (failure : SettingsMutationFailure) :
    SettingsPresentation :=
  let setting := pending.operation.setting
  let shown := app.presentation.replaceRow pending.previousRow
  let shown := shown.setControlsAvailable app.controlsAvailable
  let feedback : SettingsFeedback := ⟨.error, mutationFailureMessage failure⟩
  let preserveRetryApply := pending.previousRow.retryApplyAction.isSome
  match failure with
  | .activation error =>
    if error.kind = .activationCancelled then shown.setRowState setting .unchanged none false
    else shown.setRowState setting .applyFailed (some feedback) false
  | .validation _ => shown.setRowState setting .validationFailed (some feedback) preserveRetryApply
  | .persistence _ => shown.setRowState setting .persistenceFailed (some feedback) preserveRetryApply

/-- A cancelled authorization is an ordinary choice, not an error. -/
def failureDiagnostic (failure : SettingsMutationFailure) : Option String :=
  match failure with
  | .activation error => if error.kind = .activationCancelled then none else some error.text
  | .validation error | .persistence error => some error.text

def errorText (result : Except SettingsMutationFailure SettingsMutationOutcome) : Option String :=
  match result with
  | .ok _ => none
  | .error failure => some failure.error.text

def applyText (outcome : SettingsMutationOutcome) : Option String :=
  match outcome.apply with
  | .ok _ => none
  | .error error => some error.text

def completeMutation (operation : SettingsMutationOperation)
    (result : Except SettingsMutationFailure SettingsMutationOutcome) :
    Option SettingsTransition × SettingsApplication :=
  match app.pendingMutation with
  | none => (none, app)
  | some pending =>
    if pending.operation ≠ operation then (none, app)
    else
      let app := { app with pendingMutation := none }
      if app.closed then app.drainQueue
      -- a newer read can have established management in the meantime
      else if (app.presentation.row operation.setting).any (·.managedBy.isSome) then
        { app with
          presentation := app.presentation.setRowState operation.setting .unchanged none false
          state := .ready }.finishMutation (some operation.setting) (errorText result)
      else match result with
        | .ok outcome =>
          { app with
            presentation := app.showOutcome operation.setting outcome
            state := .ready }.finishMutation (some operation.setting) (applyText outcome)
        | .error failure =>
          { app with
            presentation := app.showFailure pending failure
            state := .ready }.finishMutation (some operation.setting) (failureDiagnostic failure)

def mutationWorkerStopped (operation : SettingsMutationOperation) :
    Option SettingsTransition × SettingsApplication :=
  match app.pendingMutation with
  | none => (none, app)
  | some pending =>
    if pending.operation ≠ operation then (none, app)
    else
      let app := { app with pendingMutation := none }
      if app.closed then app.drainQueue
      else
        let shown := app.presentation.setRowState operation.setting .persistenceFailed
          (some ⟨.warning, "Refreshing settings to reconcile the stopped write…"⟩) false
        let shown := shown.setControlsAvailable false
        let (transition, app) :=
          { app with presentation := shown, reconcileMutation := some pending }.beginRead
        (some transition, app)

def completeUpdateCheck (operation : UpdateCheckOperation)
    (result : Except UpdateCheckError UpdateCheckReport) :
    Option SettingsTransition × SettingsApplication :=
  if app.closed || app.pendingUpdateCheck ≠ some operation then (none, app)
  else
    let diagnostic := match result with
      | .ok _ => none
      | .error error => some error.diagnostic
    let shown := { app.presentation with
      updateCheck := app.presentation.updateCheck.complete (result.mapError (·.presentation)) }
    let (transition, app) :=
      { app with pendingUpdateCheck := none, presentation := shown }.transition none none diagnostic
    (some { transition with updateNotice := updateCheckNotice result }, app)

/-! ### The rest of the interface -/

/-- Settings are read again after a profile was published. -/
def profileChanged : SettingsTransition × SettingsApplication := app.beginRead

def setControlsAvailable (available : Bool) : Option SettingsTransition × SettingsApplication :=
  if app.controlsAvailable = available then (none, app)
  else
    let (transition, app) :=
      { app with
        controlsAvailable := available
        presentation := app.presentation.setControlsAvailable available }.transition none none none
    (some transition, app)

def updateInstallProgress (operation : UpdateInstallOperation) (stage : UpdateInstallStage) :
    Option SettingsTransition × SettingsApplication :=
  if app.closed then (none, app)
  else match app.updateInstall.progress operation stage with
    | (false, updateInstall) => (none, { app with updateInstall })
    | (true, updateInstall) =>
      let (transition, app) := { app with updateInstall }.transition none none none
      (some transition, app)

def isUpToDate (operation : UpdateInstallOperation)
    (result : Except UpdateInstallFailure UpdateInstallOutcome) : Bool :=
  match result with
  | .ok .upToDate => operation.task.isPrepare
  | _ => false

def restriction (result : Except UpdateInstallFailure UpdateInstallOutcome) :
    Option InstallationOwnership :=
  match result with
  | .ok (.restricted ownership _) => some ownership
  | _ => none

def completeUpdateInstall (operation : UpdateInstallOperation)
    (result : Except UpdateInstallFailure UpdateInstallOutcome) :
    Option SettingsTransition × SettingsApplication :=
  if app.closed then (none, app)
  else match app.updateInstall.complete operation result with
    | (none, updateInstall) => (none, { app with updateInstall })
    | (some (next, diagnostic), updateInstall) =>
      let check := withOwnership (restriction result) app.presentation.updateCheck
      let check := if isUpToDate operation result then check.clearResult else check
      let notice : Option UpdateNotice :=
        if isUpToDate operation result then some ⟨"Already up to date", none⟩
        else updateInstall.presentation.error.map fun error =>
          ⟨if operation.task.isRelaunch then "Restart required" else error.summary,
            noticeDetails error (diagnostic.getD "")⟩
      let (transition, app) :=
        { app with
          updateInstall
          presentation := { app.presentation with updateCheck := check } }.transition none none
            diagnostic
      (some { transition with updateInstallOperation := next, updateNotice := notice }, app)

def shutdown : SettingsApplication :=
  { app with updateInstall := app.updateInstall.canClose.2, closed := true }

end SettingsApplication

end LgBuddy
