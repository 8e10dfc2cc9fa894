import LgBuddy.Machine.Mealy
import LgBuddy.Settings.View

/-!
# LgBuddy — the queue behind the Settings view

The Settings view, seen as a queue of edits of which one at a time is handed out, next to at most
one read.

* `Desk` — the queue, with the pending edit and the pending read; `Desk.start` takes the next edit;
* `DeskMove` — everything that can happen to it;
* `settingsStep` — one call of the application, and `settingsStep_move` that each call is a move.
-/

namespace LgBuddy

/-! ## The queue -/

structure Desk where
  read : Option SettingsReadOperation
  pending : Option SettingsMutationOperation
  queue : List SettingsMutationOperation
  nextId : Nat
  settings : List BehaviorSetting
  deriving DecidableEq, Repr

namespace Desk

/-- The next edit, if none is pending. -/
def start (d : Desk) : Option SettingsMutationOperation × Desk :=
  match d.pending, d.queue with
  | none, operation :: queue => (some operation, { d with pending := some operation, queue })
  | _, _ => (none, d)

/-- A new edit, behind all others. -/
def enqueue (d : Desk) (operation : SettingsMutationOperation) : Desk :=
  { d with read := none, nextId := d.nextId + 1, queue := d.queue ++ [operation] }

def beginRead (d : Desk) : Desk :=
  { d with read := some ⟨d.nextId⟩, nextId := d.nextId + 1 }

/-- The next edit has to wait for a read that is under way. -/
def resume (d : Desk) : Option SettingsMutationOperation × Desk :=
  if d.read.isSome then (none, d) else d.start

end Desk

/-- What a call came to: the edit it resolves, the one it accepts, the one it hands out, and
whether a read that it ends has failed. -/
structure DeskNote where
  resolved : Option SettingsMutationOperation := none
  accepted : Option SettingsMutationOperation := none
  handed : Option SettingsMutationOperation := none
  readFailed : Option Bool := none
  deriving DecidableEq, Repr

inductive DeskMove (d : Desk) : DeskNote → Desk → Prop
  | idle : DeskMove d {} d
  /-- A number is used for something else. -/
  | skip : DeskMove d {} { d with nextId := d.nextId + 1 }
  | beginRead : DeskMove d {} d.beginRead
  | accept (setting : BehaviorSetting) (request : SettingsMutationRequest)
    (hrow : setting ∈ d.settings) :
    DeskMove d { accepted := some ⟨d.nextId, setting, request⟩
                 handed := (d.enqueue ⟨d.nextId, setting, request⟩).start.1 }
      (d.enqueue ⟨d.nextId, setting, request⟩).start.2
  | readFailed (hread : d.read.isSome) :
    DeskMove d { readFailed := some true } { d with read := none }
  | readDone (settings : List BehaviorSetting) (failed : Bool)
    (hsettings : settings = d.settings ∨ ∀ setting, setting ∈ settings) :
    DeskMove d
      { handed := { d with read := none, settings }.start.1, readFailed := some failed }
      { d with read := none, settings }.start.2
  | resolve (operation : SettingsMutationOperation) (hpending : d.pending = some operation) :
    DeskMove d { resolved := some operation, handed := { d with pending := none }.resume.1 }
      { d with pending := none }.resume.2
  /-- When the application is closed, a read is not waited for. -/
  | drain (operation : SettingsMutationOperation) (hpending : d.pending = some operation) :
    DeskMove d { resolved := some operation, handed := { d with pending := none }.start.1 }
      { d with pending := none }.start.2
  | stopped (operation : SettingsMutationOperation) (hpending : d.pending = some operation) :
    DeskMove d { resolved := some operation } { d with pending := none }.beginRead

/-! ## Calls -/

inductive SettingsInput where
  | handleIntent (intent : SettingsIntent)
  | completeRead (operation : SettingsReadOperation)
      (result : Except SettingsReadError (List SettingsGroup))
  | completeSnapshot (operation : SettingsReadOperation)
      (result : Except SettingsReadError SettingsReadSnapshot)
  | completeMutation (operation : SettingsMutationOperation)
      (result : Except SettingsMutationFailure SettingsMutationOutcome)
  | mutationWorkerStopped (operation : SettingsMutationOperation)
  | completeUpdateCheck (operation : UpdateCheckOperation)
      (result : Except UpdateCheckError UpdateCheckReport)
  | profileChanged
  | setControlsAvailable (available : Bool)
  | shutdown
  | updateInstallProgress (operation : UpdateInstallOperation) (stage : UpdateInstallStage)
  | completeUpdateInstall (operation : UpdateInstallOperation)
      (result : Except UpdateInstallFailure UpdateInstallOutcome)

/-- A call whose answer is all there is to it. -/
def answering (r : Option SettingsTransition × SettingsApplication) :
    SettingsApplication × SettingsAnswer :=
  (r.2, { transition := r.1 })

def settingsStep (app : SettingsApplication) :
    SettingsInput → SettingsApplication × SettingsAnswer
  | .handleIntent intent => (app.handleIntent intent).swap
  | .completeRead operation result => answering (app.completeRead operation result)
  | .completeSnapshot operation result => answering (app.completeSnapshot operation result)
  | .completeMutation operation result => answering (app.completeMutation operation result)
  | .mutationWorkerStopped operation => answering (app.mutationWorkerStopped operation)
  | .completeUpdateCheck operation result => answering (app.completeUpdateCheck operation result)
  | .profileChanged => answering (some app.profileChanged.1, app.profileChanged.2)
  | .setControlsAvailable available => answering (app.setControlsAvailable available)
  | .shutdown => answering (none, app.shutdown)
  | .updateInstallProgress operation stage =>
    answering (app.updateInstallProgress operation stage)
  | .completeUpdateInstall operation result =>
    answering (app.completeUpdateInstall operation result)

def SettingsAnswer.handed (answer : SettingsAnswer) : Option SettingsMutationOperation :=
  answer.transition.bind (·.mutationOperation)

/-- A read that succeeds brings a row for every setting. -/
def SettingsInput.Whole : SettingsInput → Prop
  | .completeRead _ (.ok groups) => ∀ setting, setting ∈ (SettingsPresentation.ready groups).settings
  | .completeSnapshot _ (.ok snapshot) =>
    ∀ setting, setting ∈ (SettingsPresentation.ready snapshot.groups).settings
  | _ => True

namespace SettingsApplication

def desk (app : SettingsApplication) : Desk where
  read := app.pendingRead
  pending := app.pendingMutation.map (·.operation)
  queue := app.queuedMutations.map (·.operation)
  nextId := app.nextOperationId
  settings := app.presentation.settings

/-- The pending edit that the call resolves. -/
def resolves (app : SettingsApplication) : SettingsInput → Option SettingsMutationOperation
  | .completeMutation operation _ | .mutationWorkerStopped operation =>
    if app.desk.pending = some operation then some operation else none
  | _ => none

def failed {ε α : Type} : Except ε α → Bool
  | .ok _ => false
  | .error _ => true

/-- The pending read that the call ends: whether it has failed. -/
def endsRead (app : SettingsApplication) : SettingsInput → Option Bool
  | .completeRead operation result =>
    if app.pendingRead = some operation then some (failed result) else none
  | .completeSnapshot operation result =>
    if app.pendingRead = some operation then some (failed result) else none
  | _ => none

def note (app : SettingsApplication) (input : SettingsInput) : DeskNote where
  resolved := app.resolves input
  accepted := (settingsStep app input).2.accepted
  handed := (settingsStep app input).2.handed
  readFailed := app.endsRead input

/-! ## Each call is a move -/

variable (app : SettingsApplication)

/-- The install state is none of the desk's. -/
@[simp] theorem desk_syncUpdateInstall : app.syncUpdateInstall.desk = app.desk := by
  have hsettings : app.syncUpdateInstall.presentation.settings = app.presentation.settings :=
    SettingsPresentation.settings_setControlsAvailable _ _
  rw [desk, hsettings]
  rfl

/-- Nor is what a transition shows. -/
@[simp] theorem desk_transition (read : Option SettingsReadOperation)
    (mutation : Option SettingsMutationOperation) (diagnostic : Option String) :
    (app.transition read mutation diagnostic).2.desk = app.desk :=
  app.desk_syncUpdateInstall

@[simp] theorem desk_beginRead : app.beginRead.2.desk = app.desk.beginRead :=
  desk_transition _ _ _ _

/-- The head of the queue is started as the desk does it. -/
theorem startQueuedMutation_desk :
    app.startQueuedMutation.1 = app.desk.start.1
      ∧ app.startQueuedMutation.2.desk = app.desk.start.2 := by
  cases hpending : app.pendingMutation with
  | some pending => simp [startQueuedMutation, Desk.start, desk, hpending]
  | none =>
    cases hqueue : app.queuedMutations with
    | nil => simp [startQueuedMutation, Desk.start, desk, hpending, hqueue]
    | cons next queue => simp [startQueuedMutation, Desk.start, desk, hpending, hqueue]

/-- A drained queue hands out what the desk starts. -/
theorem drainQueue_desk :
    app.drainQueue.1.bind (·.mutationOperation) = app.desk.start.1
      ∧ app.drainQueue.2.desk = app.desk.start.2 := by
  obtain ⟨hhanded, hdesk⟩ := app.startQueuedMutation_desk
  unfold drainQueue
  split
  · rename_i app' hstart
    rw [hstart] at hhanded hdesk
    exact ⟨hhanded, hdesk⟩
  · rename_i next app' hstart
    rw [hstart] at hhanded hdesk
    exact ⟨hhanded, (desk_transition app' none (some next) none).trans hdesk⟩

/-- The guard of the caller is that of the callee. -/
theorem startQueuedMutation_guarded :
    (if app.pendingMutation.isNone then app.startQueuedMutation else (none, app))
      = app.startQueuedMutation := by
  split
  · rfl
  · rename_i hpending
    rw [startQueuedMutation, if_pos (Option.isSome_iff_ne_none.mpr fun hnone => hpending ?_)]
    rw [hnone]
    rfl

@[simp] theorem desk_showRowState (setting : BehaviorSetting) (status : SettingsEditStatus)
    (feedback : Option SettingsFeedback) (retryApply : Bool) :
    (app.showRowState setting status feedback retryApply).desk = app.desk := by
  simp [showRowState, desk]

/-- An accepted edit gets the next number and the last place in the queue. -/
theorem enqueueMutation_desk (setting : BehaviorSetting) (request : SettingsMutationRequest)
    (row : SettingsRow) :
    (app.supersedeRead.enqueueMutation setting request row).1 = ⟨app.desk.nextId, setting, request⟩
    ∧ (app.supersedeRead.enqueueMutation setting request row).2.desk
      = app.desk.enqueue ⟨app.desk.nextId, setting, request⟩ := by
  cases hread : app.pendingRead with
  | none => simp [enqueueMutation, supersedeRead, desk, Desk.enqueue, hread]
  | some operation =>
    simp [enqueueMutation, supersedeRead, desk, Desk.enqueue, hread, SettingsPresentation.settings,
      SettingsPresentation.rows, SettingsPresentation.ready]

/-- An edit is turned down, or queued and, if its turn has come, handed out. -/
theorem beginMutation_desk (setting : BehaviorSetting) (request : SettingsMutationRequest) :
    (app.beginMutation setting request = ({}, app))
    ∨ setting ∈ app.desk.settings
      ∧ (app.beginMutation setting request).1.accepted = some ⟨app.desk.nextId, setting, request⟩
      ∧ (app.beginMutation setting request).1.handed
        = (app.desk.enqueue ⟨app.desk.nextId, setting, request⟩).start.1
      ∧ (app.beginMutation setting request).2.desk
        = (app.desk.enqueue ⟨app.desk.nextId, setting, request⟩).start.2 := by
  cases hrow : app.presentation.row setting with
  | none => exact .inl (by simp only [beginMutation, hrow])
  | some row =>
    have hmem : setting ∈ app.desk.settings :=
      (app.presentation.row_isSome_iff setting).mp (by rw [hrow]; rfl)
    by_cases hmanaged : row.managedBy.isSome
    · exact .inl (by simp only [beginMutation, hrow, hmanaged, if_true])
    · right
      obtain ⟨hcreated, hqueued⟩ := app.enqueueMutation_desk setting request row
      simp only [beginMutation, hrow, hmanaged, Bool.false_eq_true, if_false,
        startQueuedMutation_guarded, SettingsAnswer.handed, desk_transition, desk_showRowState]
      obtain ⟨hhanded, hdesk⟩ :=
        (app.supersedeRead.enqueueMutation setting request row).2.startQueuedMutation_desk
      rw [hqueued] at hhanded hdesk
      exact ⟨hmem, congrArg some hcreated, hhanded, hdesk⟩

/-- A refresh changes rows, not operations. -/
theorem refreshQueued_operations (completed : Option BehaviorSetting)
    (shown : SettingsPresentation) (queue : List PendingMutation) :
    (refreshQueued completed shown queue).1.map (·.operation) = queue.map (·.operation) := by
  induction queue with
  | nil => rfl
  | cons queued rest ih =>
    unfold refreshQueued
    split
    · split
      · rfl
      · rw [List.map_cons, List.map_cons, ih]
    · rw [List.map_cons, List.map_cons, ih]

/-- While every queued setting is shown, the refresh finds all their rows. -/
theorem refreshQueued_found (completed : Option BehaviorSetting) {shown : SettingsPresentation}
    {queue : List PendingMutation}
    (h : ∀ queued ∈ queue, queued.operation.setting ∈ shown.settings) :
    (refreshQueued completed shown queue).2 = true := by
  induction queue with
  | nil => rfl
  | cons queued rest ih =>
    have hrest := ih fun other hother => h other (List.mem_cons_of_mem _ hother)
    have hrow := (shown.row_isSome_iff _).mpr (h queued List.mem_cons_self)
    unfold refreshQueued
    split
    · split
      · rename_i hnone
        rw [hnone] at hrow
        cases hrow
      · exact hrest
    · exact hrest

/-- Marking rows as saving keeps the settings shown. -/
theorem settings_showSaving (operations : List SettingsMutationOperation)
    (shown : SettingsPresentation) : (showSaving operations shown).settings = shown.settings := by
  induction operations generalizing shown with
  | nil => rfl
  | cons operation operations ih =>
    show (showSaving operations _).settings = _
    rw [ih, SettingsPresentation.settings_setRowState]

/-- The queue is resumed as the desk does it, unless a read is pending. -/
theorem resumeQueue_desk :
    app.resumeQueue.1 = app.desk.resume.1 ∧ app.resumeQueue.2.desk = app.desk.resume.2 := by
  have hdesk : app.desk.read = app.pendingRead := rfl
  unfold resumeQueue Desk.resume
  rw [hdesk]
  split
  · exact ⟨rfl, rfl⟩
  · exact app.startQueuedMutation_desk

/-- The next edit is handed out, unless a read is under way. -/
theorem finishMutation_desk (completed : Option BehaviorSetting) (diagnostic : Option String)
    (hrows : ∀ operation ∈ app.desk.queue, operation.setting ∈ app.desk.settings) :
    (app.finishMutation completed diagnostic).1.bind (·.mutationOperation) = app.desk.resume.1
      ∧ (app.finishMutation completed diagnostic).2.desk = app.desk.resume.2 := by
  have hfound : (refreshQueued completed app.presentation app.queuedMutations).2 = true :=
    refreshQueued_found completed fun queued hqueued =>
      hrows queued.operation (List.mem_map_of_mem hqueued)
  have hdesk : { app with
      queuedMutations := (refreshQueued completed app.presentation app.queuedMutations).1 }.desk
        = app.desk := by
    simp [desk, refreshQueued_operations]
  simp only [finishMutation, hfound, Bool.not_true, Bool.false_eq_true, if_false, desk_transition]
  generalize { app with
    queuedMutations := (refreshQueued completed app.presentation app.queuedMutations).1 } = app'
    at hdesk ⊢
  obtain ⟨hhanded, hresumed⟩ := app'.resumeQueue_desk
  rw [hdesk] at hhanded hresumed
  refine ⟨hhanded, Eq.trans ?_ hresumed⟩
  simp [desk, settings_showSaving]

section

variable {app}

/-- A call that leaves the queue alone. -/
theorem desk_idle {r : Option SettingsTransition × SettingsApplication}
    (hhanded : r.1.bind (·.mutationOperation) = none) (hdesk : r.2.desk = app.desk) :
    DeskMove app.desk { handed := r.1.bind (·.mutationOperation) } r.2.desk := by
  rw [hhanded, hdesk]
  exact .idle

/-- The four buttons of an update hand out no mutation. -/
theorem handleUpdateInstall_move (intent : SettingsIntent) :
    DeskMove app.desk
      { handed := (app.handleUpdateInstall intent).1.bind (·.mutationOperation) }
      (app.handleUpdateInstall intent).2.desk := by
  unfold handleUpdateInstall
  split
  · exact desk_idle rfl rfl
  · exact desk_idle rfl (desk_syncUpdateInstall _)

/-- A check for updates moves no edit. -/
theorem handleCheckForUpdates_move :
    DeskMove app.desk { handed := app.handleCheckForUpdates.1.bind (·.mutationOperation) }
      app.handleCheckForUpdates.2.desk := by
  unfold handleCheckForUpdates
  split
  · dsimp only
    rw [desk_transition]
    exact .skip
  · exact desk_idle rfl rfl

/-- An edit of a shown row is accepted; any other is dropped. -/
theorem beginMutation_move (setting : BehaviorSetting) (request : SettingsMutationRequest) :
    DeskMove app.desk
      { accepted := (app.beginMutation setting request).1.accepted
        handed := (app.beginMutation setting request).1.handed }
      (app.beginMutation setting request).2.desk := by
  obtain hdown | ⟨hmem, haccepted, hhanded, hdesk⟩ := app.beginMutation_desk setting request
  · rw [hdown]
    exact .idle
  · rw [haccepted, hhanded, hdesk]
    exact .accept setting request hmem

/-- **Intents.** Every intent is an idle move, a read, or an accepted edit. -/
theorem handleIntent_move (intent : SettingsIntent) :
    DeskMove app.desk
      { accepted := (app.handleIntent intent).1.accepted
        handed := (app.handleIntent intent).1.handed } (app.handleIntent intent).2.desk := by
  unfold handleIntent
  split
  · exact .idle
  · rw [← desk_syncUpdateInstall]
    generalize app.syncUpdateInstall = app
    cases intent with
    | prepareUpdateInstall | confirmUpdateInstall | cancelUpdateInstall
    | relaunchUpdatedApplication => exact handleUpdateInstall_move _
    | checkForUpdates => exact handleCheckForUpdates_move
    | completeSetup => exact .idle
    -- a read, an edit, or nothing at all
    | retry =>
      dsimp only
      split
      · rw [desk_beginRead]
        exact .beginRead
      · exact .idle
    | refresh =>
      dsimp only
      split
      · rw [desk_beginRead]
        exact .beginRead
      · exact .idle
    | setEnabled setting enabled =>
      dsimp only
      split
      · exact beginMutation_move _ _
      · exact .idle
    | commit setting value =>
      dsimp only
      split
      · exact beginMutation_move _ _
      · exact .idle
    | reset setting =>
      dsimp only
      split
      · exact beginMutation_move _ _
      · exact .idle
    | retryApply setting =>
      dsimp only
      split
      · exact beginMutation_move _ _
      · exact .idle

/-- Reconciling a row keeps the settings shown. -/
theorem settings_reconcile (pending : Option PendingMutation) (shown : SettingsPresentation) :
    (reconcile pending shown).settings = shown.settings := by
  cases pending with
  | none => rfl
  | some pending => exact shown.settings_setRowState _ _ _ _

/-- A mapped result fails exactly if the result does. -/
theorem failed_map {ε α β : Type} (f : α → β) (result : Except ε α) :
    failed (result.map f) = failed result := by
  cases result with
  | ok a => rfl
  | error e => rfl

/-- The rows are new, and the next edit is handed out. -/
theorem readDone_move {shown ready : SettingsPresentation} {diagnostic : Option String}
    (hshown : shown.settings = ready.settings) (hwhole : ∀ setting, setting ∈ ready.settings) :
    DeskMove app.desk
      { handed := ({ app with
            pendingRead := none, reconcileMutation := none, state := .ready
            presentation := shown }.finishMutation none diagnostic).1.bind (·.mutationOperation)
        readFailed := some false }
      ({ app with
          pendingRead := none, reconcileMutation := none, state := .ready
          presentation := shown }.finishMutation none diagnostic).2.desk := by
  have hdesk : { app with
      pendingRead := none, reconcileMutation := none, state := .ready, presentation := shown }.desk
        = { app.desk with read := none, settings := shown.settings } := rfl
  have hall : ∀ setting, setting ∈ shown.settings := hshown ▸ hwhole
  obtain ⟨hhanded, hfinished⟩ :=
    finishMutation_desk { app with
        pendingRead := none, reconcileMutation := none, state := .ready, presentation := shown }
      none diagnostic (fun operation _ => hall operation.setting)
  rw [hhanded, hfinished, hdesk]
  exact .readDone shown.settings false (.inr hall)

/-- A snapshot ends the read it belongs to, and the queue goes on; one of another read is dropped.
-/
theorem completeSnapshot_move (operation : SettingsReadOperation)
    (result : Except SettingsReadError SettingsReadSnapshot)
    (hwhole : (SettingsInput.completeSnapshot operation result).Whole) :
    DeskMove app.desk
      { handed := (app.completeSnapshot operation result).1.bind (·.mutationOperation)
        readFailed := if app.pendingRead = some operation then some (failed result) else none }
      (app.completeSnapshot operation result).2.desk := by
  by_cases hpending : app.pendingRead = some operation
  · have hdesk : { app with pendingRead := none }.desk = { app.desk with read := none } := rfl
    rw [if_pos hpending, completeSnapshot, if_neg (not_not.mpr hpending)]
    dsimp only
    split
    · obtain ⟨hhanded, hdrained⟩ := drainQueue_desk { app with pendingRead := none }
      rw [hhanded, hdrained, hdesk]
      exact .readDone app.desk.settings _ (.inl rfl)
    · cases result with
      | error error =>
        dsimp only
        rw [desk_transition]
        exact .readFailed (by rw [show app.desk.read = app.pendingRead from rfl, hpending]; rfl)
      | ok snapshot =>
        refine readDone_move ?_ hwhole
        rw [SettingsPresentation.settings_withUpdateCheck,
          SettingsPresentation.settings_setControlsAvailable, settings_reconcile,
          SettingsPresentation.settings_preserveApplyFailuresFrom]
  · rw [if_neg hpending, completeSnapshot, if_pos hpending]
    exact .idle

/-- Whatever it does to the rows, the pending edit is over. -/
theorem finish_move {operation : SettingsMutationOperation} {shown : SettingsPresentation}
    {completed : Option BehaviorSetting} {diagnostic : Option String}
    (hpending : app.desk.pending = some operation)
    (hrows : ∀ operation ∈ app.desk.queue, operation.setting ∈ app.desk.settings)
    (hshown : shown.settings = app.presentation.settings) :
    DeskMove app.desk
      { resolved := some operation
        handed := ({ app with pendingMutation := none, presentation := shown, state := .ready }.finishMutation
          completed diagnostic).1.bind (·.mutationOperation) }
      ({ app with pendingMutation := none, presentation := shown, state := .ready }.finishMutation
          completed diagnostic).2.desk := by
  have hdesk : { app with pendingMutation := none, presentation := shown, state := .ready }.desk
      = { app.desk with pending := none } := by
    simp [desk, hshown]
  obtain ⟨hhanded, hfinished⟩ :=
    finishMutation_desk { app with pendingMutation := none, presentation := shown, state := .ready }
      completed diagnostic (by rw [hdesk]; exact hrows)
  rw [hhanded, hfinished, hdesk]
  exact .resolve operation hpending

/-- Showing an outcome keeps the settings shown. -/
theorem settings_showOutcome (setting : BehaviorSetting) (outcome : SettingsMutationOutcome) :
    (app.showOutcome setting outcome).settings = app.presentation.settings := by
  unfold showOutcome
  dsimp only
  split <;> simp

/-- Showing a failure keeps the rows that there are. -/
theorem settings_showFailure (pending : PendingMutation) (failure : SettingsMutationFailure) :
    (app.showFailure pending failure).settings = app.presentation.settings := by
  unfold showFailure
  dsimp only
  split
  · split <;> simp
  · simp
  · simp

/-- A completed edit is resolved once, and the queue goes on; the completion of another is
dropped. -/
theorem completeMutation_move (operation : SettingsMutationOperation)
    (result : Except SettingsMutationFailure SettingsMutationOutcome)
    (hrows : ∀ operation ∈ app.desk.queue, operation.setting ∈ app.desk.settings) :
    DeskMove app.desk
      { resolved := app.resolves (.completeMutation operation result)
        handed := (app.completeMutation operation result).1.bind (·.mutationOperation) }
      (app.completeMutation operation result).2.desk := by
  cases hpending : app.pendingMutation with
  | none =>
    have hdesk : app.desk.pending ≠ some operation := by simp [desk, hpending]
    rw [resolves, if_neg hdesk]
    simp only [completeMutation, hpending]
    exact .idle
  | some pending =>
    have hdesk : app.desk.pending = some pending.operation := by simp [desk, hpending]
    by_cases hsame : pending.operation = operation
    · subst hsame
      rw [resolves, if_pos hdesk]
      simp only [completeMutation, hpending, ne_eq, not_true_eq_false, if_false]
      split
      · obtain ⟨hhanded, hdrained⟩ := drainQueue_desk { app with pendingMutation := none }
        rw [hhanded, hdrained]
        exact .drain pending.operation hdesk
      · split
        · exact finish_move hdesk hrows (SettingsPresentation.settings_setRowState _ _ _ _ _)
        · split
          · exact finish_move hdesk hrows
              (@settings_showOutcome { app with pendingMutation := none } _ _)
          · exact finish_move hdesk hrows
              (@settings_showFailure { app with pendingMutation := none } _ _)
    · rw [resolves, if_neg (by rw [hdesk]; simpa using hsame)]
      simp only [completeMutation, hpending, ne_eq, hsame, not_false_eq_true, if_true]
      exact .idle

/-- A worker that has stopped resolves the edit it had, as a failure. -/
theorem mutationWorkerStopped_move (operation : SettingsMutationOperation) :
    DeskMove app.desk
      { resolved := app.resolves (.mutationWorkerStopped operation)
        handed := (app.mutationWorkerStopped operation).1.bind (·.mutationOperation) }
      (app.mutationWorkerStopped operation).2.desk := by
  cases hpending : app.pendingMutation with
  | none =>
    have hdesk : app.desk.pending ≠ some operation := by simp [desk, hpending]
    rw [resolves, if_neg hdesk]
    simp only [mutationWorkerStopped, hpending]
    exact .idle
  | some pending =>
    have hdesk : app.desk.pending = some pending.operation := by simp [desk, hpending]
    by_cases hsame : pending.operation = operation
    · subst hsame
      rw [resolves, if_pos hdesk]
      simp only [mutationWorkerStopped, hpending, ne_eq, not_true_eq_false, if_false]
      split
      · obtain ⟨hhanded, hdrained⟩ := drainQueue_desk { app with pendingMutation := none }
        rw [hhanded, hdrained]
        exact .drain pending.operation hdesk
      · rw [desk_beginRead]
        have hshown (shown : SettingsPresentation)
            (hsettings : shown.settings = app.presentation.settings) :
            { app with
              pendingMutation := none, presentation := shown
              reconcileMutation := some pending }.desk = { app.desk with pending := none } := by
          simp [desk, hsettings]
        rw [hshown _ (by simp)]
        exact .stopped pending.operation hdesk
    · rw [resolves, if_neg (by rw [hdesk]; simpa using hsame)]
      simp only [mutationWorkerStopped, hpending, ne_eq, hsame, not_false_eq_true, if_true]
      exact .idle

/-- The result of a check hands out no mutation. -/
theorem completeUpdateCheck_move (operation : UpdateCheckOperation)
    (result : Except UpdateCheckError UpdateCheckReport) :
    DeskMove app.desk
      { handed := (app.completeUpdateCheck operation result).1.bind (·.mutationOperation) }
      (app.completeUpdateCheck operation result).2.desk := by
  unfold completeUpdateCheck
  split
  · exact desk_idle rfl rfl
  · exact desk_idle rfl (desk_syncUpdateInstall _)

/-- Controls that come or go move no edit. -/
theorem setControlsAvailable_move (available : Bool) :
    DeskMove app.desk
      { handed := (app.setControlsAvailable available).1.bind (·.mutationOperation) }
      (app.setControlsAvailable available).2.desk := by
  unfold setControlsAvailable
  split
  · exact desk_idle rfl rfl
  · refine desk_idle rfl ((desk_syncUpdateInstall _).trans ?_)
    simp [desk]

/-- The progress of an install moves no edit. -/
theorem updateInstallProgress_move (operation : UpdateInstallOperation)
    (stage : UpdateInstallStage) :
    DeskMove app.desk
      { handed := (app.updateInstallProgress operation stage).1.bind (·.mutationOperation) }
      (app.updateInstallProgress operation stage).2.desk := by
  unfold updateInstallProgress
  split
  · exact desk_idle rfl rfl
  · split
    · exact desk_idle rfl rfl
    · exact desk_idle rfl (desk_syncUpdateInstall _)

/-- The end of an install moves no edit. -/
theorem completeUpdateInstall_move (operation : UpdateInstallOperation)
    (result : Except UpdateInstallFailure UpdateInstallOutcome) :
    DeskMove app.desk
      { handed := (app.completeUpdateInstall operation result).1.bind (·.mutationOperation) }
      (app.completeUpdateInstall operation result).2.desk := by
  unfold completeUpdateInstall
  split
  · exact desk_idle rfl rfl
  · split
    · exact desk_idle rfl rfl
    · exact desk_idle rfl (desk_syncUpdateInstall _)

/-- **Each call is a move of the queue.** -/
theorem settingsStep_move (input : SettingsInput) (hwhole : input.Whole)
    (hrows : ∀ operation ∈ app.desk.queue, operation.setting ∈ app.desk.settings) :
    DeskMove app.desk (app.note input) (settingsStep app input).1.desk := by
  cases input with
  | handleIntent intent => exact handleIntent_move intent
  | completeRead operation result =>
    have hmove := @completeSnapshot_move app operation
      (result.map fun groups => { groups }) (by cases result <;> exact hwhole)
    rw [failed_map] at hmove
    exact hmove
  | completeSnapshot operation result => exact completeSnapshot_move operation result hwhole
  | completeMutation operation result => exact completeMutation_move operation result hrows
  | mutationWorkerStopped operation => exact mutationWorkerStopped_move operation
  | completeUpdateCheck operation result => exact completeUpdateCheck_move operation result
  | profileChanged =>
    show DeskMove _ _ app.beginRead.2.desk
    rw [desk_beginRead]
    exact .beginRead
  | setControlsAvailable available => exact setControlsAvailable_move available
  | shutdown => exact .idle
  | updateInstallProgress operation stage => exact updateInstallProgress_move operation stage
  | completeUpdateInstall operation result => exact completeUpdateInstall_move operation result

end

end SettingsApplication

end LgBuddy
