import LgBuddy.Settings.Intent
import LgBuddy.Update.FailureDetails
import LgBuddy.Update.Install

/-!
# LgBuddy — the update flow

`UpdateInstallApplication` of `update_flow.rs`: which update operation is under way, what was
prepared and installed, and what is shown of it.

* `UpdateInstallOperation` — an operation, known by its number;
* `UpdateInstallPresentation` — what is shown;
* `handle`, `progress`, `complete`, `refreshAvailability`, `canClose` — the methods.

A cancellation is shared between the application and the worker of its operation. It is named by
its place in `cancellations`, the list of all that were made.
-/

namespace LgBuddy

open FailureDetails (retainedFailureDetails)

/-! ## Operations -/

inductive UpdateInstallTask where
  | prepare (cancellation : Nat)
  | install (prepared : PreparedUpdateInstall) (cancellation : Nat)
  | relaunch (installed : InstalledUpdate)
  deriving DecidableEq, Repr

namespace UpdateInstallTask

def isPrepare : UpdateInstallTask → Bool
  | .prepare _ => true
  | _ => false

def isInstall : UpdateInstallTask → Bool
  | .install _ _ => true
  | _ => false

def isRelaunch : UpdateInstallTask → Bool
  | .relaunch _ => true
  | _ => false

def cancellation? : UpdateInstallTask → Option Nat
  | .prepare cancellation | .install _ cancellation => some cancellation
  | .relaunch _ => none

end UpdateInstallTask

/-- Two operations are the same if their numbers are. The source counts in 64 bits. -/
structure UpdateInstallOperation where
  id : Nat
  task : UpdateInstallTask
  deriving Repr

structure UpdateInstallFailure where
  presentation : UserFacingError
  diagnostic : String
  cancelled : Bool
  deriving DecidableEq, Repr

inductive UpdateInstallOutcome where
  | prepared (prepared : PreparedUpdateInstall)
  | upToDate
  | installed (installed : InstalledUpdate)
  | relaunched
  | restricted (ownership : InstallationOwnership) (failure : Option UpdateInstallFailure)
  deriving DecidableEq, Repr

namespace UpdateInstallFailure

def stopped : UpdateInstallFailure where
  presentation :=
    ⟨"Update stopped", "The update did not finish. If installation had begun, the installation may be incomplete. Review the error details before trying again."⟩
  diagnostic := "update installation worker stopped without a result"
  cancelled := false

def stoppedBeforeInstallation : UpdateInstallFailure where
  presentation :=
    ⟨"Update stopped", "The update stopped before installation began. Try again."⟩
  diagnostic := "update preparation worker stopped without a result"
  cancelled := false

end UpdateInstallFailure

/-! ## The application -/

structure UpdateInstallPresentation where
  title : Option String := none
  description : String := ""
  action : Option SettingsAction := none
  cancelAction : Option SettingsAction := none
  busy : Bool := false
  error : Option UserFacingError := none
  failureDetails : Option String := none
  checkChannelMatches : Option Bool := none
  releaseUrl : Option String := none
  deriving DecidableEq, Repr

structure UpdateInstallApplication where
  nextId : Nat := 0
  pending : Option UpdateInstallOperation := none
  prepared : Option PreparedUpdateInstall := none
  installed : Option InstalledUpdate := none
  presentation : UpdateInstallPresentation := {}
  cancelling : Bool := false
  cancellations : List CancellationState := []
  deriving Repr

def cancelAction : SettingsAction := ⟨"Cancel", true, .cancelUpdateInstall⟩

namespace UpdateInstallApplication

variable (app : UpdateInstallApplication)

def active : Bool := app.pending.isSome || app.prepared.isSome

/-- `self.pending.as_ref() == Some(operation)`. -/
def isPending (operation : UpdateInstallOperation) : Bool :=
  app.pending.map (·.id) == some operation.id

/-! ### Cancellations -/

/-- `UpdateInstallCancellation::default()`. -/
def newCancellation : Nat × UpdateInstallApplication :=
  (app.cancellations.length, { app with cancellations := app.cancellations ++ [.active] })

/-- `compare_exchange` from active. -/
def exchangeCancellation (cancellation : Nat) (new : CancellationState) :
    Bool × UpdateInstallApplication :=
  if app.cancellations[cancellation]? = some .active then
    (true, { app with cancellations := app.cancellations.set cancellation new })
  else (false, app)

def canClose : Bool × UpdateInstallApplication :=
  match app.pending.map UpdateInstallOperation.task with
  | some (.install _ cancellation) =>
    if app.cancellations[cancellation]? = some .cancelled then (true, app)
    else app.exchangeCancellation cancellation .cancelled
  | some (.relaunch _) => (false, app)
  | _ => (true, app)

/-- `UpdateInstallFailure::worker_stopped`: the boundary of an installation is claimed or not. -/
def workerStopped (operation : UpdateInstallOperation) : UpdateInstallFailure :=
  match operation.task with
  | .install _ cancellation =>
    if app.cancellations[cancellation]? = some .claimed then .stopped
    else .stoppedBeforeInstallation
  | _ => .stoppedBeforeInstallation

/-! ### Availability -/

def offered (report : Option UpdateCheckReport) : Bool := report.any (·.updateAvailable)

def onChannel (report : Option UpdateCheckReport) (channel : Option UpdateChannel) : Bool :=
  report.any fun report => some report.channel == channel

def supported (report : Option UpdateCheckReport) : Bool :=
  report.any fun report =>
    match report.installationOwnership with
    | .bundle | .package .dpkg | .package .rpm => true
    | _ => false

def refreshAvailability (report : Option UpdateCheckReport) (channel : Option UpdateChannel)
    (available : Bool) : UpdateInstallApplication :=
  if app.active || app.installed.isSome then app
  else
    let shown := app.presentation
    let offered := offered report
    let label := if shown.error.isSome then "Retry update" else "Install update…"
    let title :=
      if offered && shown.title.isNone then some "Install update"
      else if !offered && shown.error.isNone then none
      else shown.title
    let description :=
      if shown.error.isSome then shown.description
      else if offered && report.any (fun report => some report.channel != channel) then
        "Check for updates on the current channel before installing."
      else ""
    { app with
      presentation :=
        { shown with
          checkChannelMatches := if offered then some (onChannel report channel) else none
          action :=
            if offered && supported report then
              some ⟨label, available && onChannel report channel, .prepareUpdateInstall⟩
            else none
          title
          description } }

/-! ### Intents -/

def start (task : UpdateInstallTask) : UpdateInstallOperation × UpdateInstallApplication :=
  let operation : UpdateInstallOperation := ⟨app.nextId + 1, task⟩
  (operation,
    { app with
      nextId := app.nextId + 1
      pending := some operation
      presentation :=
        { app.presentation with busy := true, action := none, error := none, releaseUrl := none }
      cancelling := false })

/-- Only the last failure stays to be looked up. -/
def clearPresentation : UpdateInstallApplication :=
  { app with presentation := { failureDetails := app.presentation.failureDetails } }

/-- What is told of the operation that was just started. -/
def announce (title : String) (description : String) (cancelAction : Option SettingsAction) :
    UpdateInstallApplication :=
  { app with presentation := { app.presentation with title := some title, description, cancelAction } }

/-- The answer says whether the intent was taken up, and which operation it starts. -/
abbrev Handled := Option (Option UpdateInstallOperation)

def handlePrepare : Handled × UpdateInstallApplication :=
  if !app.active && app.presentation.action.any (·.enabled) then
    let (cancellation, app) := app.newCancellation
    let (operation, app) := app.start (.prepare cancellation)
    (some (some operation),
      app.announce "Preparing update…" "Finding the latest update for your saved channel."
        (some LgBuddy.cancelAction))
  else (none, app)

def handleConfirm : Handled × UpdateInstallApplication :=
  if app.pending.isNone then
    match app.prepared with
    | none => (none, app)
    | some prepared =>
      let (cancellation, app) := { app with prepared := none }.newCancellation
      let (operation, app) := app.start (.install prepared cancellation)
      (some (some operation),
        app.announce "Downloading and verifying update…"
          "You can cancel before installation begins." (some LgBuddy.cancelAction))
  else (none, app)

/-- The operation that can be cancelled, if it is one. -/
def handleCancel : Handled × UpdateInstallApplication :=
  if app.active && !app.cancelling then
    match app.pending.bind (·.task.cancellation?) with
    | some cancellation =>
      match app.exchangeCancellation cancellation .cancelled with
      | (false, app) => (none, app)
      | (true, app) =>
        let app := { app with cancelling := true }
        if app.pending.any (·.task.isPrepare) then (some none, app.clearPresentation)
        else
          (some none,
            app.announce "Cancelling update…" "Waiting for the current preparation step to finish. No installation will start."
              none)
    | none => (some none, { app with pending := none, prepared := none }.clearPresentation)
  else (none, app)

def handleRelaunch : Handled × UpdateInstallApplication :=
  if app.pending.isNone then
    match app.installed with
    | none => (none, app)
    | some installed =>
      let shown := { app.presentation with
        title := some "Restarting LG Buddy…", cancelAction := none }
      let (operation, app) := { app with presentation := shown }.start (.relaunch installed)
      (some (some operation), app)
  else (none, app)

def handle : SettingsIntent → Handled × UpdateInstallApplication
  | .prepareUpdateInstall => app.handlePrepare
  | .confirmUpdateInstall => app.handleConfirm
  | .cancelUpdateInstall => app.handleCancel
  | .relaunchUpdatedApplication => app.handleRelaunch
  | _ => (none, app)

/-! ### Workers -/

/-- The title, the description and whether cancelling is still offered. -/
def stageTexts : UpdateInstallStage → String × String × Bool
  | .initialPreflight | .discovering | .resolving | .offered =>
    ("Preparing update…", "Finding the latest update for your saved channel.", true)
  | .acquiring =>
    ("Downloading and verifying update…", "You can cancel before installation begins.", true)
  | .candidatePreflight =>
    ("Checking installation compatibility…", "You can cancel before installation begins.", true)
  | .installing =>
    ("Installing update…", "Authorize the update when prompted. Keep LG Buddy open until installation finishes.", false)
  | .verifyingInstalled =>
    ("Verifying installed update…", "LG Buddy will restart after verification.", false)

def progress (operation : UpdateInstallOperation) (stage : UpdateInstallStage) :
    Bool × UpdateInstallApplication :=
  if !app.isPending operation || app.cancelling then (false, app)
  else
    let (title, detail, cancellable) := stageTexts stage
    (true, app.announce title detail (if cancellable then some LgBuddy.cancelAction else none))

/-- The operation that follows, and a diagnostic. -/
abbrev Completed := Option (Option UpdateInstallOperation × Option String)

def failed (error : UpdateInstallFailure) : Completed × UpdateInstallApplication :=
  (some (none, some error.diagnostic),
    { app with
      presentation :=
        { app.presentation with
          title := some (if app.installed.isSome then "Restart required" else "Update not completed")
          description := ""
          failureDetails := some (retainedFailureDetails error.diagnostic)
          error := some error.presentation
          action :=
            if app.installed.isSome then
              some ⟨"Retry restart", true, .relaunchUpdatedApplication⟩
            else app.presentation.action } })

/-- The offer, to be confirmed. -/
def offer (prepared : PreparedUpdateInstall) : UpdateInstallApplication :=
  { app with
    prepared := some prepared
    presentation :=
      { app.presentation with
        title := some s!"Install LG Buddy {prepared.target.version}?"
        description := s!"{prepared.channel.asStr} channel. LG Buddy will request authorization, install this release, and restart. Your TV pairing and settings will be kept."
        releaseUrl := some prepared.release.url
        action := some ⟨"Install and restart", true, .confirmUpdateInstall⟩
        cancelAction := some LgBuddy.cancelAction } }

/-- The operation is over: what its result does. -/
def settle (operation : UpdateInstallOperation)
    (result : Except UpdateInstallFailure UpdateInstallOutcome) :
    Completed × UpdateInstallApplication :=
  match result, operation.task with
  | .ok (.restricted _ failure), _ =>
    let app := { app with prepared := none }.clearPresentation
    match failure with
    | some failure => app.failed failure
    | none => (some (none, none), app)
  | .ok (.prepared prepared), .prepare _ => (some (none, none), app.offer prepared)
  | .ok .upToDate, .prepare _ => (some (none, none), app.clearPresentation)
  | .ok (.installed installed), .install _ _ =>
    let shown := { app.presentation with
      title := some "Restarting LG Buddy…", description := "The installed update was verified." }
    let (next, app) :=
      { app with installed := some installed, presentation := shown }.start (.relaunch installed)
    (some (some next, none), app)
  | .ok .relaunched, .relaunch _ => (some (none, none), app)
  -- a result of another kind of operation
  | .ok _, _ => app.failed (app.workerStopped operation)
  | .error error, _ =>
    if error.cancelled then (some (none, none), app.clearPresentation) else app.failed error

def complete (operation : UpdateInstallOperation)
    (result : Except UpdateInstallFailure UpdateInstallOutcome) :
    Completed × UpdateInstallApplication :=
  if !app.isPending operation then (none, app)
  else
    let shown := { app.presentation with busy := false, cancelAction := none }
    let finished := { app with pending := none, presentation := shown }
    if app.cancelling && operation.task.isPrepare then
      (some (none, none), { finished with cancelling := false }.clearPresentation)
    else finished.settle operation result

end UpdateInstallApplication

end LgBuddy
