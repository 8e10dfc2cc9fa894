import LgBuddy.Settings.EditOrder

/-!
# LgBuddy — the rows show the newest known value

What the Settings view shows of a setting, next to what reads and edits have delivered of it.

* `labels` — the value and the source in the row of each setting;
* `heard` — the same as the accepted reads and edits have delivered it, the latest one counting;
* `Quiet` — what a part of a call changes neither; all but three of them are quiet;
* `RestoresShown` — an edit that fails puts back the row that it finds;
* `rows_newest` — then the rows show what was heard. The row that an edit puts back is captured
  when the edit is handed out, and a read that is accepted after that does not change it.
-/

namespace LgBuddy

open Mealy

/-! ## Labels -/

/-- A value and where it comes from. -/
abbrev RowLabel := String × String

def SettingsRow.label (row : SettingsRow) : RowLabel := (row.valueLabel, row.sourceLabel)

namespace SettingsPresentation

variable (shown : SettingsPresentation)

def labels (setting : BehaviorSetting) : Option RowLabel :=
  (shown.row setting).map SettingsRow.label

/-- What is found after the first row of a setting was changed: for that setting the changed row,
for another the row that was found before, wherever the change was made. -/
theorem find_updateFirstRow {setting : BehaviorSetting} {f : SettingsRow → SettingsRow}
    (hf : ∀ row, row.setting = setting → (f row).setting = setting) (rows : List SettingsRow)
    (other : BehaviorSetting) :
    (updateFirstRow setting f rows).find? (·.setting = other)
      = if other = setting then (rows.find? (·.setting = other)).map f
        else rows.find? (·.setting = other) := by
  induction rows with
  | nil => simp [updateFirstRow]
  | cons row rows ih =>
    unfold updateFirstRow
    by_cases hrow : row.setting = setting
    · rw [if_pos hrow]
      by_cases hother : other = setting
      · subst hother
        simp [hrow, hf row hrow]
      · -- the row is passed over before and after the change
        have hne : (f row).setting ≠ other := by
          rw [hf row hrow]
          exact Ne.symm hother
        have hne' : row.setting ≠ other := by
          rw [hrow]
          exact Ne.symm hother
        simp [hother, hne, hne']
    · rw [if_neg hrow]
      by_cases hfound : row.setting = other
      · -- what is looked for stands in front of what is changed
        have hne : other ≠ setting := fun heq => hrow (hfound.trans heq)
        simp [hfound, hne]
      · simp only [List.find?_cons, hfound, decide_false, ih]

/-- The same over the groups. The first group with a row of the setting is the only one that is
changed, and it is also the one in which the row is found. -/
theorem find_updateRow {setting : BehaviorSetting} {f : SettingsRow → SettingsRow}
    (hf : ∀ row, row.setting = setting → (f row).setting = setting) (groups : List SettingsGroup)
    (other : BehaviorSetting) :
    ((updateRow setting f groups).flatMap (·.rows)).find? (·.setting = other)
      = if other = setting then ((groups.flatMap (·.rows)).find? (·.setting = other)).map f
        else (groups.flatMap (·.rows)).find? (·.setting = other) := by
  induction groups with
  | nil => simp [updateRow]
  | cons group groups ih =>
    unfold updateRow
    split
    · rename_i hany
      simp only [List.flatMap_cons, List.find?_append, find_updateFirstRow hf]
      split
      · rename_i hother
        -- the row is in this group, so the rest is not looked at
        have hsome : (group.rows.find? (·.setting = other)).isSome := by
          rw [hother, List.find?_isSome]
          simpa using hany
        obtain ⟨row, hfound⟩ := Option.isSome_iff_exists.mp hsome
        rw [hfound]
        rfl
      · rfl
    · rename_i hnone
      simp only [List.flatMap_cons, List.find?_append, ih]
      split
      · rename_i hother
        have hmissing : group.rows.find? (·.setting = other) = none := by
          rw [hother, List.find?_eq_none]
          simpa using hnone
        rw [hmissing]
        rfl
      · rfl

/-- The state of one row is set, and no other row is touched. -/
theorem row_setRowState (setting : BehaviorSetting) (status : SettingsEditStatus)
    (feedback : Option SettingsFeedback) (retryApply : Bool) (other : BehaviorSetting) :
    (shown.setRowState setting status feedback retryApply).row other
      = if other = setting then (shown.row other).map (·.setState status feedback retryApply)
        else shown.row other :=
  find_updateRow (f := (·.setState status feedback retryApply)) (fun _ h => h) shown.groups other

/-- The edit status of a row is no part of what it shows. -/
@[simp] theorem labels_setRowState (setting : BehaviorSetting) (status : SettingsEditStatus)
    (feedback : Option SettingsFeedback) (retryApply : Bool) :
    (shown.setRowState setting status feedback retryApply).labels = shown.labels := by
  funext other
  unfold labels
  rw [row_setRowState]
  split
  · rw [Option.map_map]
    rfl
  · rfl

/-- The row of the setting, if there is one. -/
theorem labels_replaceRow (replacement : SettingsRow) (other : BehaviorSetting) :
    (shown.replaceRow replacement).labels other
      = if other = replacement.setting then (shown.labels other).map fun _ => replacement.label
        else shown.labels other := by
  have hrow := find_updateRow (f := (·.replaceBy replacement))
    (fun _ (_ : _ = replacement.setting) => rfl) shown.groups other
  unfold labels
  rw [show (shown.replaceRow replacement).row other = _ from hrow]
  split
  · rw [Option.map_map, Option.map_map]
    rfl
  · rfl

/-- A change of all rows that keeps their settings and their labels shows what was shown. -/
theorem labels_mapRows {f : SettingsRow → SettingsRow} (hf : ∀ row, (f row).setting = row.setting)
    (hlabel : ∀ row, (f row).label = row.label) : (shown.mapRows f).labels = shown.labels := by
  funext other
  unfold labels
  rw [shown.row_mapRows hf, Option.map_map]
  congr 1
  funext row
  exact hlabel row

@[simp] theorem labels_setControlsAvailable (available : Bool) :
    (shown.setControlsAvailable available).labels = shown.labels :=
  shown.labels_mapRows (fun _ => rfl) fun _ => rfl

/-- A failure to apply that is carried over stands beside the value. -/
@[simp] theorem labels_preserveApplyFailuresFrom (previous : SettingsPresentation) :
    (shown.preserveApplyFailuresFrom previous).labels = shown.labels := by
  refine shown.labels_mapRows (fun row => ?_) fun row => ?_
  · split
    · rfl
    · unfold SettingsRow.preserveApplyFailure
      split <;> rfl
  · split
    · rfl
    · unfold SettingsRow.preserveApplyFailure
      split <;> rfl

/-- A row that is found under a setting is of that setting. -/
theorem row_setting {setting : BehaviorSetting} {row : SettingsRow}
    (h : shown.row setting = some row) : row.setting = setting := by
  simpa using List.find?_some h

end SettingsPresentation

/-! ## Parts of a call -/

namespace SettingsApplication

/-- Each edit falls back to a row of its own setting. -/
def Captured (app : SettingsApplication) : Prop :=
  ∀ pending ∈ app.pendingMutation.toList ++ app.queuedMutations,
    pending.previousRow.setting = pending.operation.setting

/-- The rows show what they did. -/
structure Quiet (app app' : SettingsApplication) : Prop where
  labels : app'.presentation.labels = app.presentation.labels
  closed : app'.closed = app.closed
  captured : app.Captured → app'.Captured

theorem Quiet.refl (app : SettingsApplication) : Quiet app app := ⟨rfl, rfl, id⟩

/-- Parts of a call that are quiet one by one are quiet together. -/
theorem Quiet.trans {app app' app'' : SettingsApplication} (h : Quiet app app')
    (h' : Quiet app' app'') : Quiet app app'' :=
  ⟨h'.labels.trans h.labels, h'.closed.trans h.closed, fun hc => h'.captured (h.captured hc)⟩

variable (app : SettingsApplication)

/-- The update install enables and disables editors, which no label speaks of. -/
theorem quiet_syncUpdateInstall : Quiet app app.syncUpdateInstall := by
  refine ⟨?_, rfl, id⟩
  exact SettingsPresentation.labels_setControlsAvailable _ _

variable {app} in
/-- Most calls end with the update install, and are as quiet as what comes before it. -/
theorem Quiet.synced {app' : SettingsApplication} (h : Quiet app app') :
    Quiet app app'.syncUpdateInstall :=
  h.trans app'.quiet_syncUpdateInstall

/-- A read that begins leaves the rows until it is answered. -/
theorem quiet_beginRead : Quiet app app.beginRead.2 :=
  Quiet.synced ⟨rfl, rfl, id⟩

/-- An edit that is handed out keeps the row that was captured for it. -/
theorem quiet_startQueuedMutation : Quiet app app.startQueuedMutation.2 := by
  cases hpending : app.pendingMutation with
  | some pending =>
    rw [startQueuedMutation, if_pos (by rw [hpending]; rfl)]
    exact Quiet.refl app
  | none =>
    cases hqueue : app.queuedMutations with
    | nil =>
      simp only [startQueuedMutation, hpending, hqueue]
      exact Quiet.refl app
    | cons next queue =>
      simp only [startQueuedMutation, hpending, hqueue]
      -- the head of the queue becomes the edit that is handed out, so no edit is new
      refine ⟨rfl, rfl, fun hcaptured pending hmem => hcaptured pending ?_⟩
      rw [hpending, hqueue]
      exact hmem

theorem quiet_drainQueue : Quiet app app.drainQueue.2 := by
  have hstart := app.quiet_startQueuedMutation
  unfold drainQueue
  split
  · rename_i app' heq
    rw [heq] at hstart
    exact hstart
  · rename_i next app' heq
    rw [heq] at hstart
    exact hstart.trans (quiet_syncUpdateInstall _)

/-- A read that is superseded is forgotten, with the rows as they are. -/
theorem quiet_supersedeRead : Quiet app app.supersedeRead := by
  unfold supersedeRead
  split
  · exact ⟨rfl, rfl, id⟩
  · exact Quiet.refl app

theorem quiet_showRowState (setting : BehaviorSetting) (status : SettingsEditStatus)
    (feedback : Option SettingsFeedback) (retryApply : Bool) :
    Quiet app (app.showRowState setting status feedback retryApply) :=
  ⟨app.presentation.labels_setRowState _ _ _ _, rfl, id⟩

/-- An edit that is queued captures the row of its own setting. -/
theorem quiet_enqueueMutation {setting : BehaviorSetting} (request : SettingsMutationRequest)
    {row : SettingsRow} (hrow : row.setting = setting) :
    Quiet app (app.enqueueMutation setting request row).2 := by
  refine ⟨rfl, rfl, fun hcaptured pending hmem => ?_⟩
  rcases List.mem_append.mp hmem with hpending | hqueued
  · exact hcaptured pending (List.mem_append_left _ hpending)
  · rcases List.mem_append.mp hqueued with hold | hnew
    · exact hcaptured pending (List.mem_append_right _ hold)
    · cases List.mem_singleton.mp hnew
      exact hrow

/-- A new edit changes nothing that is shown but its state. -/
theorem quiet_beginMutation (setting : BehaviorSetting) (request : SettingsMutationRequest) :
    Quiet app (app.beginMutation setting request).2 := by
  cases hrow : app.presentation.row setting with
  | none =>
    simp only [beginMutation, hrow]
    exact Quiet.refl app
  | some row =>
    by_cases hmanaged : row.managedBy.isSome
    · simp only [beginMutation, hrow, hmanaged, if_true]
      exact Quiet.refl app
    · simp only [beginMutation, hrow, hmanaged, Bool.false_eq_true, if_false,
        startQueuedMutation_guarded]
      -- the captured row is the one that is shown, and so of the setting
      have hqueued := app.quiet_supersedeRead.trans (quiet_enqueueMutation _ request
        (app.presentation.row_setting hrow))
      exact ((hqueued.trans (quiet_startQueuedMutation _)).trans
        (quiet_showRowState _ _ _ _ _)).trans (quiet_syncUpdateInstall _)

/-- A queued edit captures anew what is shown of its setting, and only of its setting. -/
theorem refreshQueued_captured (completed : Option BehaviorSetting) {shown : SettingsPresentation}
    {queue : List PendingMutation}
    (h : ∀ pending ∈ queue, pending.previousRow.setting = pending.operation.setting) :
    ∀ pending ∈ (refreshQueued completed shown queue).1,
      pending.previousRow.setting = pending.operation.setting := by
  induction queue with
  | nil => exact h
  | cons queued rest ih =>
    have hrest := ih fun pending hmem => h pending (List.mem_cons_of_mem _ hmem)
    unfold refreshQueued
    split
    · split
      · exact h
      · rename_i row hrow
        intro pending hmem
        rcases List.mem_cons.mp hmem with rfl | hlater
        · exact shown.row_setting hrow
        · exact hrest pending hlater
    · intro pending hmem
      rcases List.mem_cons.mp hmem with rfl | hlater
      · exact h pending List.mem_cons_self
      · exact hrest pending hlater

/-- The edits that wait are marked as being saved, and the values stay. -/
theorem labels_showSaving (operations : List SettingsMutationOperation)
    (shown : SettingsPresentation) : (showSaving operations shown).labels = shown.labels := by
  induction operations generalizing shown with
  | nil => rfl
  | cons operation operations ih =>
    show (showSaving operations _).labels = _
    rw [ih, SettingsPresentation.labels_setRowState]

/-- The queue goes on where a read or an edit has held it up. -/
theorem quiet_resumeQueue : Quiet app app.resumeQueue.2 := by
  unfold resumeQueue
  split
  · exact ⟨rfl, rfl, id⟩
  · exact app.quiet_startQueuedMutation

/-- The end of an edit or of a read: the queued edits capture anew, and the queue goes on. What was
accepted has been shown before this. -/
theorem quiet_finishMutation (completed : Option BehaviorSetting) (diagnostic : Option String) :
    Quiet app (app.finishMutation completed diagnostic).2 := by
  have hrefreshed : Quiet app { app with
      queuedMutations := (refreshQueued completed app.presentation app.queuedMutations).1 } := by
    refine ⟨rfl, rfl, fun hcaptured pending hmem => ?_⟩
    rcases List.mem_append.mp hmem with hpending | hqueued
    · exact hcaptured pending (List.mem_append_left _ hpending)
    · exact refreshQueued_captured completed
        (fun queued hmem' => hcaptured queued (List.mem_append_right _ hmem')) pending hqueued
  unfold finishMutation
  dsimp only
  split
  · -- a read is pending, and the queue waits for it
    exact hrefreshed
  · refine ((hrefreshed.trans (quiet_resumeQueue _)).trans ?_).trans (quiet_syncUpdateInstall _)
    exact ⟨labels_showSaving _ _, rfl, id⟩

/-- The intents of the update install touch the updater alone. -/
theorem quiet_handleUpdateInstall (intent : SettingsIntent) :
    Quiet app (app.handleUpdateInstall intent).2 := by
  unfold handleUpdateInstall
  split
  · exact ⟨rfl, rfl, id⟩
  · exact Quiet.synced ⟨rfl, rfl, id⟩

theorem quiet_handleCheckForUpdates : Quiet app app.handleCheckForUpdates.2 := by
  unfold handleCheckForUpdates
  split
  · exact Quiet.synced ⟨rfl, rfl, id⟩
  · exact Quiet.refl app

/-- No intent of the user changes a value by itself. It waits for the answer to its edit. -/
theorem quiet_handleIntent (intent : SettingsIntent) : Quiet app (app.handleIntent intent).2 := by
  unfold handleIntent
  split
  · exact Quiet.refl app
  · refine app.quiet_syncUpdateInstall.trans ?_
    generalize app.syncUpdateInstall = app
    cases intent with
    | prepareUpdateInstall | confirmUpdateInstall | cancelUpdateInstall
    | relaunchUpdatedApplication => exact app.quiet_handleUpdateInstall _
    | checkForUpdates => exact app.quiet_handleCheckForUpdates
    | completeSetup => exact Quiet.refl app
    | retry | refresh =>
      dsimp only
      split
      · exact app.quiet_beginRead
      · exact Quiet.refl app
    | setEnabled | commit | reset | retryApply =>
      dsimp only
      split
      · exact app.quiet_beginMutation _ _
      · exact Quiet.refl app

/-! ## Calls -/

/-- The edit is the one that is handed out. -/
def hands (operation : SettingsMutationOperation) : Prop :=
  app.pendingMutation.map (·.operation) = some operation

instance (operation : SettingsMutationOperation) : Decidable (app.hands operation) :=
  inferInstanceAs (Decidable (_ = _))

/-- A row that a declaration provides. -/
def managed (setting : BehaviorSetting) : Bool :=
  (app.presentation.row setting).any (·.managedBy.isSome)

/-- What is known of each setting after a call: a read tells of all of them, an edit of one. What
was saved for a setting that is managed by now is not what is in effect, and is not taken over. -/
def hear (latest : BehaviorSetting → Option RowLabel) :
    SettingsInput → BehaviorSetting → Option RowLabel
  | .completeRead operation (.ok groups) =>
    if app.pendingRead = some operation then (SettingsPresentation.ready groups).labels else latest
  | .completeSnapshot operation (.ok snapshot) =>
    if app.pendingRead = some operation then (SettingsPresentation.ready snapshot.groups).labels
    else latest
  | .completeMutation operation (.ok outcome) =>
    if app.hands operation ∧ !app.managed operation.setting then
      Function.update latest outcome.effectiveRow.setting (some outcome.effectiveRow.label)
    else latest
  | _ => latest

/-- An edit that fails puts back a row that shows what the present one does. A closed view puts
nothing back. -/
def RestoresShown : SettingsInput → Prop
  | .completeMutation operation (.error _) =>
    app.closed = false →
    ∀ pending row, app.pendingMutation = some pending → pending.operation = operation →
      app.presentation.row operation.setting = some row → row.managedBy = none →
      pending.previousRow.label = row.label
  | _ => True

/-- The rows show the latest that was heard. -/
structure Newest (latest : BehaviorSetting → Option RowLabel) (app : SettingsApplication) :
    Prop where
  shown : app.closed = false → ∀ setting label, app.presentation.labels setting = some label →
    latest setting = some label
  captured : app.Captured

variable {app} {latest : BehaviorSetting → Option RowLabel}

/-- What is newest stays newest over a quiet part. -/
theorem Newest.quiet {app' : SettingsApplication} (h : Newest latest app) (hquiet : Quiet app app') :
    Newest latest app' := by
  refine ⟨fun hopen setting label hlabel => ?_, hquiet.captured h.captured⟩
  rw [hquiet.labels] at hlabel
  exact h.shown (hquiet.closed.symm.trans hopen) setting label hlabel

/-- The tail that accepted reads and accepted edits share. -/
theorem Newest.finish (h : Newest latest app) (completed : Option BehaviorSetting)
    (diagnostic : Option String) : Newest latest (app.finishMutation completed diagnostic).2 :=
  h.quiet (app.quiet_finishMutation completed diagnostic)

/-- The edit that is handed out is marked in the rows of a new read. -/
theorem labels_reconcile (pending : Option PendingMutation) (shown : SettingsPresentation) :
    (reconcile pending shown).labels = shown.labels := by
  cases pending with
  | none => rfl
  | some pending => exact shown.labels_setRowState _ _ _ _

theorem captured_withoutPending (h : app.Captured) :
    { app with pendingMutation := none }.Captured :=
  fun pending hmem => h pending (List.mem_append_right _ hmem)

/-- A read that is accepted tells of all settings. -/
theorem newest_completeSnapshot (h : Newest latest app) (operation : SettingsReadOperation)
    (result : Except SettingsReadError SettingsReadSnapshot) :
    Newest (app.hear latest (.completeSnapshot operation result))
      (app.completeSnapshot operation result).2 := by
  by_cases hpending : app.pendingRead = some operation
  · rw [completeSnapshot, if_neg (not_not.mpr hpending)]
    dsimp only
    split
    · -- a closed view drops the answer, and nothing is claimed of its rows
      rename_i hclosed
      have hquiet := quiet_drainQueue { app with pendingRead := none }
      refine ⟨fun hopen => ?_, hquiet.captured h.captured⟩
      rw [hquiet.closed] at hopen
      exact absurd hclosed (by rw [hopen]; exact Bool.false_ne_true)
    · cases result with
      | error error => exact h.quiet (Quiet.synced ⟨rfl, rfl, id⟩)
      | ok snapshot =>
        refine Newest.finish ?_ _ _
        -- the rows are those of the read, but for what the labels do not speak of
        refine ⟨fun _ setting label hlabel => ?_, h.captured⟩
        rw [hear, if_pos hpending, ← hlabel]
        symm
        refine congrFun (Eq.trans (SettingsPresentation.labels_setControlsAvailable _ _) ?_) setting
        rw [labels_reconcile, SettingsPresentation.labels_preserveApplyFailuresFrom]
  · rw [completeSnapshot, if_pos hpending]
    cases result with
    | error error => exact h
    | ok snapshot =>
      rw [hear, if_neg hpending]
      exact h

/-- With the row of one setting replaced. -/
theorem newest_replaceRow (h : Newest latest app) (hopen : app.closed = false)
    {replacement : SettingsRow} {shown : SettingsPresentation}
    (hshown : shown.labels = (app.presentation.replaceRow replacement).labels) :
    Newest (Function.update latest replacement.setting (some replacement.label))
      { app with pendingMutation := none, presentation := shown, state := .ready } := by
  refine ⟨fun _ setting label hlabel => ?_, captured_withoutPending h.captured⟩
  replace hlabel : shown.labels setting = some label := hlabel
  rw [hshown, SettingsPresentation.labels_replaceRow] at hlabel
  by_cases hsetting : setting = replacement.setting
  · rw [if_pos hsetting] at hlabel
    obtain ⟨-, -, rfl⟩ := Option.map_eq_some_iff.mp hlabel
    rw [hsetting, Function.update_self]
  · rw [if_neg hsetting] at hlabel
    rw [Function.update_of_ne hsetting]
    exact h.shown hopen setting label hlabel

/-- A successful edit shows the row that it was answered with, whether or not it could be applied. -/
theorem labels_showOutcome (setting : BehaviorSetting) (outcome : SettingsMutationOutcome) :
    (app.showOutcome setting outcome).labels
      = (app.presentation.replaceRow outcome.effectiveRow).labels := by
  have hreplaced : (app.presentation.replaceRow
      (outcome.effectiveRow.setEditorEnabled app.controlsAvailable)).labels
        = (app.presentation.replaceRow outcome.effectiveRow).labels := by
    funext other
    rw [SettingsPresentation.labels_replaceRow, SettingsPresentation.labels_replaceRow]
    rfl
  unfold showOutcome
  dsimp only
  split
  · rw [SettingsPresentation.labels_setRowState, SettingsPresentation.labels_setControlsAvailable,
      hreplaced]
  · rw [SettingsPresentation.labels_setRowState, SettingsPresentation.labels_setControlsAvailable,
      hreplaced]

/-- A failed edit shows the row that was captured for it, whatever the failure is. -/
theorem labels_showFailure (pending : PendingMutation) (failure : SettingsMutationFailure) :
    (app.showFailure pending failure).labels
      = (app.presentation.replaceRow pending.previousRow).labels := by
  unfold showFailure
  dsimp only
  split
  · split
    · rw [SettingsPresentation.labels_setRowState,
        SettingsPresentation.labels_setControlsAvailable]
    · rw [SettingsPresentation.labels_setRowState,
        SettingsPresentation.labels_setControlsAvailable]
  · rw [SettingsPresentation.labels_setRowState, SettingsPresentation.labels_setControlsAvailable]
  · rw [SettingsPresentation.labels_setRowState, SettingsPresentation.labels_setControlsAvailable]

/-- What is put back is what is shown. -/
theorem newest_showFailure (h : Newest latest app) (hopen : app.closed = false)
    {pending : PendingMutation} (hpending : app.pendingMutation = some pending)
    (hmanaged : app.managed pending.operation.setting = false)
    (hrestores : ∀ row, app.presentation.row pending.operation.setting = some row →
      row.managedBy = none → pending.previousRow.label = row.label)
    {shown : SettingsPresentation}
    (hshown : shown.labels = (app.presentation.replaceRow pending.previousRow).labels) :
    Newest latest { app with pendingMutation := none, presentation := shown, state := .ready } := by
  have hsetting : pending.previousRow.setting = pending.operation.setting :=
    h.captured pending (List.mem_append_left _ (by rw [hpending]; exact List.mem_cons_self))
  -- the captured row and the shown one have one label, so nothing changes at all
  have hsame : shown.labels = app.presentation.labels := by
    funext other
    rw [hshown, SettingsPresentation.labels_replaceRow]
    split
    · rename_i hother
      rw [hother, hsetting]
      unfold SettingsPresentation.labels
      cases hrow : app.presentation.row pending.operation.setting with
      | none => rfl
      | some row =>
        have hunmanaged : row.managedBy = none := by
          rw [managed, hrow] at hmanaged
          simpa using hmanaged
        rw [Option.map_some, Option.map_some, hrestores row hrow hunmanaged]
    · rfl
  refine ⟨fun _ setting label hlabel => ?_, captured_withoutPending h.captured⟩
  replace hlabel : shown.labels setting = some label := hlabel
  rw [hsame] at hlabel
  exact h.shown hopen setting label hlabel

/-- An edit that is completed. Its result counts when it is the edit that is handed out, the view is
open and the setting is not managed; in every other case the rows stay. -/
theorem newest_completeMutation (h : Newest latest app) (operation : SettingsMutationOperation)
    (result : Except SettingsMutationFailure SettingsMutationOutcome)
    (hrestores : app.RestoresShown (.completeMutation operation result)) :
    Newest (app.hear latest (.completeMutation operation result))
      (app.completeMutation operation result).2 := by
  by_cases hhands : app.hands operation
  · obtain ⟨pending, hpending, rfl⟩ := Option.map_eq_some_iff.mp hhands
    simp only [completeMutation, hpending, ne_eq, not_true_eq_false, if_false]
    split
    · -- closed: only the queue is drained
      rename_i hclosed
      have hquiet := quiet_drainQueue { app with pendingMutation := none }
      refine ⟨fun hopen => ?_, hquiet.captured (captured_withoutPending h.captured)⟩
      rw [hquiet.closed] at hopen
      exact absurd hclosed (by rw [hopen]; exact Bool.false_ne_true)
    · rename_i hclosed
      have hopen : app.closed = false := Bool.eq_false_iff.mpr hclosed
      split
      · -- the setting is managed by now: the result is not taken over
        rename_i hmanaged
        have hkept : app.hear latest (.completeMutation pending.operation result) = latest := by
          cases result with
          | error failure => rfl
          | ok outcome =>
            refine if_neg fun hboth => ?_
            rw [managed, hmanaged] at hboth
            exact absurd hboth.2 (by decide)
        rw [hkept]
        refine Newest.finish ?_ _ _
        refine ⟨fun _ setting label hlabel => ?_, captured_withoutPending h.captured⟩
        refine h.shown hopen setting label ?_
        rw [← SettingsPresentation.labels_setRowState app.presentation pending.operation.setting
          .unchanged none false]
        exact hlabel
      · rename_i hmanaged
        have hunmanaged : app.managed pending.operation.setting = false :=
          Bool.eq_false_iff.mpr hmanaged
        cases result with
        | ok outcome =>
          rw [hear, if_pos ⟨hhands, by rw [hunmanaged]; rfl⟩]
          exact Newest.finish (newest_replaceRow h hopen
            (@labels_showOutcome { app with pendingMutation := none } _ _)) _ _
        | error failure =>
          exact Newest.finish (newest_showFailure h hopen hpending hunmanaged
            (fun row hrow => hrestores hopen pending row hpending rfl hrow)
            (@labels_showFailure { app with pendingMutation := none } _ _)) _ _
  · -- the answer to another edit is stale, and is neither heard nor shown
    have hkept : app.hear latest (.completeMutation operation result) = latest := by
      cases result with
      | error failure => rfl
      | ok outcome => exact if_neg fun hboth => hhands hboth.1
    rw [hkept]
    cases hpending : app.pendingMutation with
    | none =>
      simp only [completeMutation, hpending]
      exact h
    | some pending =>
      have hne : pending.operation ≠ operation := fun heq =>
        hhands (by rw [hands, hpending, Option.map_some, heq])
      simp only [completeMutation, hpending, if_pos hne]
      exact h

/-! ## Runs -/

/-- A worker that stops without an answer takes its edit with it, and the settings are read again. -/
theorem quiet_mutationWorkerStopped (operation : SettingsMutationOperation) :
    Quiet app (app.mutationWorkerStopped operation).2 := by
  have hwithout : Quiet app { app with pendingMutation := none } :=
    ⟨rfl, rfl, captured_withoutPending⟩
  unfold mutationWorkerStopped
  split
  · exact Quiet.refl app
  · split
    · exact Quiet.refl app
    · dsimp only
      split
      · exact hwithout.trans (quiet_drainQueue _)
      · refine Quiet.trans ?_ (quiet_beginRead _)
        refine hwithout.trans ⟨?_, rfl, id⟩
        exact (SettingsPresentation.labels_setControlsAvailable _ _).trans
          (SettingsPresentation.labels_setRowState _ _ _ _ _)

/-- The answer to an update check is not about a setting. -/
theorem quiet_completeUpdateCheck (operation : UpdateCheckOperation)
    (result : Except UpdateCheckError UpdateCheckReport) :
    Quiet app (app.completeUpdateCheck operation result).2 := by
  unfold completeUpdateCheck
  split
  · exact Quiet.refl app
  · exact Quiet.synced ⟨rfl, rfl, id⟩

theorem quiet_setControlsAvailable (available : Bool) :
    Quiet app (app.setControlsAvailable available).2 := by
  unfold setControlsAvailable
  split
  · exact Quiet.refl app
  · exact Quiet.synced ⟨SettingsPresentation.labels_setControlsAvailable _ _, rfl, id⟩

/-- The progress of an install changes no value that is shown. -/
theorem quiet_updateInstallProgress (operation : UpdateInstallOperation)
    (stage : UpdateInstallStage) : Quiet app (app.updateInstallProgress operation stage).2 := by
  unfold updateInstallProgress
  split
  · exact Quiet.refl app
  · split
    · exact ⟨rfl, rfl, id⟩
    · exact Quiet.synced ⟨rfl, rfl, id⟩

theorem quiet_completeUpdateInstall (operation : UpdateInstallOperation)
    (result : Except UpdateInstallFailure UpdateInstallOutcome) :
    Quiet app (app.completeUpdateInstall operation result).2 := by
  unfold completeUpdateInstall
  split
  · exact Quiet.refl app
  · split
    · exact ⟨rfl, rfl, id⟩
    · exact Quiet.synced ⟨rfl, rfl, id⟩

/-- One call, of which three can change what is shown. -/
theorem newest_step (h : Newest latest app) {input : SettingsInput}
    (hrestores : app.RestoresShown input) :
    Newest (app.hear latest input) (settingsStep app input).1 := by
  cases input with
  | handleIntent intent => exact h.quiet (app.quiet_handleIntent intent)
  | completeRead operation result =>
    have hread := newest_completeSnapshot h operation (result.map fun groups => { groups })
    cases result with
    | error error => exact hread
    | ok groups => exact hread
  | completeSnapshot operation result => exact newest_completeSnapshot h operation result
  | completeMutation operation result =>
    exact newest_completeMutation h operation result hrestores
  | mutationWorkerStopped operation => exact h.quiet (quiet_mutationWorkerStopped operation)
  | completeUpdateCheck operation result =>
    exact h.quiet (quiet_completeUpdateCheck operation result)
  | profileChanged => exact h.quiet app.quiet_beginRead
  | setControlsAvailable available => exact h.quiet (quiet_setControlsAvailable available)
  | shutdown => exact ⟨nofun, h.captured⟩
  | updateInstallProgress operation stage =>
    exact h.quiet (quiet_updateInstallProgress operation stage)
  | completeUpdateInstall operation result =>
    exact h.quiet (quiet_completeUpdateInstall operation result)

end SettingsApplication

/-- What the calls of a run have delivered, in the order in which they were accepted. -/
def heard (inputs : List SettingsInput) : BehaviorSetting → Option RowLabel :=
  (transitions settingsStep .opening inputs).foldl (fun latest t => t.pre.hear latest t.input)
    fun _ => none

/-- **Run.** By induction from the end: what the run has delivered so far is what the rows show, and
the last call keeps it so. -/
theorem newest_run (inputs : List SettingsInput)
    (h : ∀ t ∈ transitions settingsStep .opening inputs, t.pre.RestoresShown t.input) :
    SettingsApplication.Newest (heard inputs) (exec settingsStep .opening inputs) := by
  induction inputs using List.reverseRecOn with
  | nil =>
    refine ⟨fun _ setting label hlabel => ?_, fun pending hmem => ?_⟩
    · cases hlabel
    · exact absurd hmem List.not_mem_nil
  | append_singleton inputs input ih =>
    rw [transitions_concat] at h
    have hbefore := ih fun t ht => h t (List.mem_append_left _ ht)
    rw [heard, transitions_concat, List.foldl_append, exec_concat]
    exact SettingsApplication.newest_step hbefore
      (h _ (List.mem_append_right _ (List.mem_singleton.mpr rfl)))

/-- **Settings rows show the newest known value**, in every run in which each edit that fails puts
back what is shown. -/
theorem rows_newest (inputs : List SettingsInput)
    (h : ∀ t ∈ transitions settingsStep .opening inputs, t.pre.RestoresShown t.input)
    (hopen : (exec settingsStep .opening inputs).closed = false) (setting : BehaviorSetting)
    (row : SettingsRow)
    (hrow : (exec settingsStep .opening inputs).presentation.row setting = some row) :
    heard inputs setting = some (row.valueLabel, row.sourceLabel) :=
  (newest_run inputs h).shown hopen setting _ (congrArg (Option.map SettingsRow.label) hrow)

/-- The rows of `sampleGroups`, the first of them with this value. -/
def valuedGroups (value : String) : List SettingsGroup :=
  sampleGroups.map fun group => ⟨group.rows.map fun row =>
    if row.setting = .screenIdleBlank then
      { row with valueLabel := value, sourceLabel := "config.env" }
    else row⟩

def blankEdit : SettingsMutationOperation := ⟨1, .screenIdleBlank, .set "enabled"⟩

def refusal : SettingsMutationFailure := .persistence ⟨.other, "disk full"⟩

/-- An edit that fails with nothing read in the meantime. -/
def refusedEdit : List SettingsInput :=
  [.completeRead ⟨0⟩ (.ok (valuedGroups "Off")), .handleIntent (.setEnabled .screenIdleBlank true),
    .completeMutation blankEdit (.error refusal)]

/-- A refused edit in a run that meets the condition: the row shows what the read has delivered. -/
theorem rows_newest_refusedEdit :
    (∀ t ∈ transitions settingsStep .opening refusedEdit, t.pre.RestoresShown t.input)
      ∧ heard refusedEdit .screenIdleBlank = some ("Off", "config.env") := by
  have hrestores : ∀ t ∈ transitions settingsStep .opening refusedEdit,
      t.pre.RestoresShown t.input := by
    intro t ht
    simp only [refusedEdit, transitions_cons, transitions_nil, List.mem_cons, List.not_mem_nil,
      or_false] at ht
    rcases ht with rfl | rfl | rfl
    · trivial
    · trivial
    · intro _ pending row hpending _ hrow _
      cases hpending
      cases hrow
      rfl
  obtain ⟨row, hrow⟩ : ∃ row, (exec settingsStep .opening refusedEdit).presentation.row
      .screenIdleBlank = some row := ⟨_, rfl⟩
  have hnewest := rows_newest refusedEdit hrestores rfl .screenIdleBlank row hrow
  cases hrow
  exact ⟨hrestores, hnewest⟩

/-- The same with the settings read again while the edit is handed out. -/
def overtakenEdit : List SettingsInput :=
  [.completeRead ⟨0⟩ (.ok (valuedGroups "Off")), .handleIntent (.setEnabled .screenIdleBlank true),
    .profileChanged, .completeRead ⟨2⟩ (.ok (valuedGroups "On")),
    .completeMutation blankEdit (.error refusal)]

/-- The row goes back to what the read has replaced. -/
theorem rows_not_newest :
    (exec settingsStep .opening overtakenEdit).closed = false
      ∧ (exec settingsStep .opening overtakenEdit).state = .ready
      ∧ (exec settingsStep .opening overtakenEdit).pendingMutation = none
      ∧ (exec settingsStep .opening overtakenEdit).queuedMutations = []
      ∧ (exec settingsStep .opening overtakenEdit).presentation.labels .screenIdleBlank
        = some ("Off", "config.env")
      ∧ heard overtakenEdit .screenIdleBlank = some ("On", "config.env") := by
  decide

end LgBuddy
