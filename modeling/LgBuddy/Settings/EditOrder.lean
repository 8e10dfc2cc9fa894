import LgBuddy.Settings.Queue
import Mathlib.Data.List.Nodup

/-!
# LgBuddy — edits are handed out once and in order

What the queue behind the Settings view promises over whole runs.

* `DeskMove.conserves` — no edit is lost or doubled by a move;
* `DeskInv` — accepted edits are handed out or queued, and handed-out ones resolved or pending;
* `EditLaw`, `edit_law` — the result for every run in which reads bring all rows.
-/

namespace LgBuddy

open Mealy

/-! ## One move -/

namespace Desk

variable (d : Desk)

/-- Starting hands out the head of the queue exactly where nothing is pending. -/
theorem start_spec :
    d.queue = d.start.1.toList ++ d.start.2.queue
    ∧ d.pending.toList ++ d.start.1.toList = d.start.2.pending.toList
    ∧ (d.start.2.queue = [] ∨ d.start.2.pending.isSome)
    ∧ d.start.2.read = d.read ∧ d.start.2.nextId = d.nextId ∧ d.start.2.settings = d.settings := by
  unfold start
  cases hpending : d.pending with
  | some operation => simp [hpending]
  | none =>
    cases hqueue : d.queue with
    | nil => simp [hpending, hqueue]
    | cons operation queue => simp

/-- Resuming hands out the head of the queue, or waits for a read. -/
theorem resume_spec :
    d.queue = d.resume.1.toList ++ d.resume.2.queue
    ∧ d.pending.toList ++ d.resume.1.toList = d.resume.2.pending.toList
    ∧ (d.resume.2.queue = [] ∨ d.resume.2.pending.isSome ∨ d.resume.2.read.isSome)
    ∧ d.resume.2.nextId = d.nextId ∧ d.resume.2.settings = d.settings := by
  unfold resume
  split
  · rename_i hread
    exact ⟨rfl, by simp, .inr (.inr hread), rfl, rfl⟩
  · obtain ⟨hqueue, hpending, hwaiting, -, hnext, hsettings⟩ := d.start_spec
    exact ⟨hqueue, hpending, hwaiting.imp_right .inl, hnext, hsettings⟩

end Desk

section

variable {d d' : Desk} {note : DeskNote}

/-- **No edit is lost or doubled.** -/
theorem DeskMove.conserves (h : DeskMove d note d') :
    d.queue ++ note.accepted.toList = note.handed.toList ++ d'.queue
    ∧ d.pending.toList ++ note.handed.toList = note.resolved.toList ++ d'.pending.toList := by
  cases h with
  | idle | skip | beginRead | readFailed => simp [Desk.beginRead]
  | accept setting request =>
    obtain ⟨hqueue, hpending, -⟩ := (d.enqueue ⟨d.nextId, setting, request⟩).start_spec
    exact ⟨hqueue, hpending⟩
  | readDone settings failed =>
    obtain ⟨hqueue, hpending, -⟩ := ({ d with read := none, settings } : Desk).start_spec
    exact ⟨(List.append_nil _).trans hqueue, hpending⟩
  | resolve operation hresolved =>
    obtain ⟨hqueue, hpending, -⟩ := ({ d with pending := none } : Desk).resume_spec
    refine ⟨(List.append_nil _).trans hqueue, ?_⟩
    rw [hresolved, ← hpending]
    rfl
  | drain operation hresolved =>
    obtain ⟨hqueue, hpending, -⟩ := ({ d with pending := none } : Desk).start_spec
    refine ⟨(List.append_nil _).trans hqueue, ?_⟩
    rw [hresolved, ← hpending]
    rfl
  | stopped operation hresolved => simp [Desk.beginRead, hresolved]

/-- What is queued waits for an edit, for a read, or for somebody to read again. -/
def Desk.Waiting (d : Desk) (readFailed : Bool) : Prop :=
  d.queue ≠ [] → d.pending.isSome ∨ d.read.isSome ∨ readFailed = true

/-- A queue that is left waits for the pending edit or for a read. -/
theorem DeskMove.waiting (h : DeskMove d note d') {readFailed : Bool} (hd : d.Waiting readFailed) :
    d'.Waiting (note.readFailed.getD readFailed) := by
  intro hqueue
  cases h with
  | idle | skip => exact hd hqueue
  | beginRead => exact .inr (.inl rfl)
  | accept setting request =>
    obtain ⟨-, -, hstarted, -⟩ := (d.enqueue ⟨d.nextId, setting, request⟩).start_spec
    exact .inl (hstarted.resolve_left hqueue)
  | readFailed => exact .inr (.inr rfl)
  | readDone settings failed =>
    obtain ⟨-, -, hstarted, -⟩ := ({ d with read := none, settings } : Desk).start_spec
    exact .inl (hstarted.resolve_left hqueue)
  | resolve operation =>
    obtain ⟨-, -, hresumed, -⟩ := ({ d with pending := none } : Desk).resume_spec
    exact (hresumed.resolve_left hqueue).imp_right .inl
  | drain operation =>
    obtain ⟨-, -, hstarted, -⟩ := ({ d with pending := none } : Desk).start_spec
    exact .inl (hstarted.resolve_left hqueue)
  | stopped operation => exact .inr (.inl rfl)

/-- Numbers only grow, and an accepted edit takes the next one. -/
theorem DeskMove.nextId (h : DeskMove d note d') :
    d.nextId ≤ d'.nextId ∧ ∀ operation ∈ note.accepted, operation.id = d.nextId ∧ d.nextId < d'.nextId := by
  cases h with
  | idle | readFailed => exact ⟨Nat.le_refl _, fun _ h => by cases h⟩
  | skip | beginRead | stopped => exact ⟨Nat.le_succ _, fun _ h => by cases h⟩
  | accept setting request =>
    obtain ⟨-, -, -, -, hnext, -⟩ := (d.enqueue ⟨d.nextId, setting, request⟩).start_spec
    rw [hnext]
    refine ⟨Nat.le_succ _, fun _ h => ?_⟩
    cases h
    exact ⟨rfl, Nat.lt_succ_self _⟩
  | readDone settings failed =>
    obtain ⟨-, -, -, -, hnext, -⟩ := ({ d with read := none, settings } : Desk).start_spec
    rw [hnext]
    exact ⟨Nat.le_refl _, fun _ h => by cases h⟩
  | resolve operation =>
    obtain ⟨-, -, -, hnext, -⟩ := ({ d with pending := none } : Desk).resume_spec
    rw [hnext]
    exact ⟨Nat.le_refl _, fun _ h => by cases h⟩
  | drain operation =>
    obtain ⟨-, -, -, -, hnext, -⟩ := ({ d with pending := none } : Desk).start_spec
    rw [hnext]
    exact ⟨Nat.le_refl _, fun _ h => by cases h⟩

/-- No row yet, or a row for every setting; and what is queued has a row. -/
def Desk.Whole (d : Desk) : Prop :=
  (d.settings = [] ∨ ∀ setting, setting ∈ d.settings)
    ∧ ∀ operation ∈ d.queue, operation.setting ∈ d.settings

/-- A move keeps the rows or takes a whole reading, and accepts edits of known rows only. -/
theorem DeskMove.settings (h : DeskMove d note d') :
    (d'.settings = d.settings ∨ ∀ setting, setting ∈ d'.settings)
    ∧ ∀ operation ∈ note.accepted, operation.setting ∈ d.settings := by
  cases h with
  | idle | skip | beginRead | readFailed | stopped => exact ⟨.inl rfl, fun _ h => by cases h⟩
  | accept setting request hrow =>
    obtain ⟨-, -, -, -, -, hsettings⟩ := (d.enqueue ⟨d.nextId, setting, request⟩).start_spec
    refine ⟨.inl hsettings, fun _ h => ?_⟩
    cases h
    exact hrow
  | readDone settings failed hread =>
    obtain ⟨-, -, -, -, -, hsettings⟩ := ({ d with read := none, settings } : Desk).start_spec
    rw [hsettings]
    exact ⟨hread, fun _ h => by cases h⟩
  | resolve operation =>
    obtain ⟨-, -, -, -, hsettings⟩ := ({ d with pending := none } : Desk).resume_spec
    exact ⟨.inl hsettings, fun _ h => by cases h⟩
  | drain operation =>
    obtain ⟨-, -, -, -, -, hsettings⟩ := ({ d with pending := none } : Desk).start_spec
    exact ⟨.inl hsettings, fun _ h => by cases h⟩

/-- Every row an edit is about stays known. -/
theorem DeskMove.whole (h : DeskMove d note d') (hd : d.Whole) : d'.Whole := by
  obtain ⟨hsettings, haccepted⟩ := h.settings
  rcases hsettings with hsame | hall
  · refine ⟨hsame ▸ hd.1, fun operation hmem => ?_⟩
    have hold : operation ∈ d.queue ++ note.accepted.toList := by
      rw [h.conserves.1]
      exact List.mem_append_right _ hmem
    rw [hsame]
    rcases List.mem_append.mp hold with hqueued | hnew
    · exact hd.2 operation hqueued
    · exact haccepted operation (Option.mem_toList.mp hnew)
  · exact ⟨.inr hall, fun operation _ => hall operation.setting⟩

end

/-! ## Runs -/

section

/-- The edits that were accepted, handed out and resolved, oldest first. -/
def acceptedEdits (notes : List DeskNote) : List SettingsMutationOperation :=
  notes.filterMap (·.accepted)

def handedOut (notes : List DeskNote) : List SettingsMutationOperation :=
  notes.filterMap (·.handed)

def resolvedEdits (notes : List DeskNote) : List SettingsMutationOperation :=
  notes.filterMap (·.resolved)

/-- Whether the last read that came to its end has failed. -/
def lastReadFailed (notes : List DeskNote) : Bool :=
  notes.foldl (fun failed note => note.readFailed.getD failed) false

structure DeskInv (notes : List DeskNote) (d : Desk) : Prop where
  kept : acceptedEdits notes = handedOut notes ++ d.queue
  single : handedOut notes = resolvedEdits notes ++ d.pending.toList
  waiting : d.Waiting (lastReadFailed notes)
  fresh : ∀ operation ∈ acceptedEdits notes, operation.id < d.nextId
  increasing : ((acceptedEdits notes).map (·.id)).Pairwise (· < ·)
  whole : d.Whole

variable {notes : List DeskNote} {note : DeskNote} {d d' : Desk}

/-- One more note adds what it maps to. -/
theorem filterMap_concat {α : Type} (f : DeskNote → Option α) :
    (notes ++ [note]).filterMap f = notes.filterMap f ++ (f note).toList := by
  rw [List.filterMap_append]
  cases h : f note <;> simp [h]

/-- Every move of the desk keeps the invariant of the edits. -/
theorem DeskInv.move (h : DeskInv notes d) (hmove : DeskMove d note d') :
    DeskInv (notes ++ [note]) d' := by
  obtain ⟨hqueue, hpending⟩ := hmove.conserves
  obtain ⟨hgrows, haccepted⟩ := hmove.nextId
  refine
    { kept := ?_
      single := ?_
      waiting := ?_
      fresh := fun operation hmem => ?_
      increasing := ?_
      whole := hmove.whole h.whole }
  · calc acceptedEdits (notes ++ [note])
        = acceptedEdits notes ++ note.accepted.toList := filterMap_concat _
      _ = handedOut notes ++ (d.queue ++ note.accepted.toList) := by rw [h.kept, List.append_assoc]
      _ = handedOut notes ++ note.handed.toList ++ d'.queue := by rw [hqueue, List.append_assoc]
      _ = handedOut (notes ++ [note]) ++ d'.queue := by rw [handedOut, handedOut, filterMap_concat]
  -- each row of edits grows by what the note says
  · calc handedOut (notes ++ [note])
        = handedOut notes ++ note.handed.toList := filterMap_concat _
      _ = resolvedEdits notes ++ (d.pending.toList ++ note.handed.toList) := by
        rw [h.single, List.append_assoc]
      _ = resolvedEdits notes ++ note.resolved.toList ++ d'.pending.toList := by
        rw [hpending, List.append_assoc]
      _ = resolvedEdits (notes ++ [note]) ++ d'.pending.toList := by
        rw [resolvedEdits, resolvedEdits, filterMap_concat]
  · rw [lastReadFailed, List.foldl_append]
    exact hmove.waiting h.waiting
  · rw [acceptedEdits, filterMap_concat] at hmem
    rcases List.mem_append.mp hmem with hold | hnew
    · exact Nat.lt_of_lt_of_le (h.fresh operation hold) hgrows
    · obtain ⟨hid, hlt⟩ := haccepted operation (Option.mem_toList.mp hnew)
      rw [hid]
      exact hlt
  · rw [acceptedEdits, filterMap_concat, List.map_append, List.pairwise_append]
    refine ⟨h.increasing, ?_, fun id hid last hlast => ?_⟩
    · cases note.accepted <;> simp
    · obtain ⟨operation, hmem, rfl⟩ := List.mem_map.mp hid
      obtain ⟨new, hnew, rfl⟩ := List.mem_map.mp hlast
      rw [(haccepted new (Option.mem_toList.mp hnew)).1]
      exact h.fresh operation hmem

end

namespace SettingsApplication

variable {app : SettingsApplication}

/-! ### Managed rows -/

/-- An edit is begun only on a row that nothing else manages. -/
theorem beginMutation_unmanaged {setting : BehaviorSetting} {request : SettingsMutationRequest}
    {operation : SettingsMutationOperation}
    (h : (app.beginMutation setting request).1.accepted = some operation) :
    ∃ row, app.presentation.row operation.setting = some row ∧ row.managedBy = none := by
  cases hrow : app.presentation.row setting with
  | none => simp [beginMutation, hrow] at h
  | some row =>
    by_cases hmanaged : row.managedBy.isSome
    · simp [beginMutation, hrow, hmanaged] at h
    · simp only [beginMutation, hrow, hmanaged, Bool.false_eq_true, if_false, Option.some.injEq] at h
      subst h
      exact ⟨row, hrow, Option.not_isSome_iff_eq_none.mp hmanaged⟩

/-- Who manages a row does not depend on whether it can be edited now. -/
theorem unmanaged_of_syncUpdateInstall {setting : BehaviorSetting}
    (h : ∃ row, app.syncUpdateInstall.presentation.row setting = some row ∧ row.managedBy = none) :
    ∃ row, app.presentation.row setting = some row ∧ row.managedBy = none := by
  obtain ⟨row, hrow, hmanaged⟩ := h
  have hsync := app.presentation.row_mapRows
    (f := (·.setEditorEnabled (app.controlsAvailable && !app.syncUpdateInstall.updateInstall.active)))
    (fun _ => rfl) setting
  rw [show app.syncUpdateInstall.presentation.row setting = _ from hsync] at hrow
  obtain ⟨before, hbefore, rfl⟩ := Option.map_eq_some_iff.mp hrow
  exact ⟨before, hbefore, hmanaged⟩

/-- An intent accepts an edit only on a row that nothing else manages. -/
theorem handleIntent_unmanaged {intent : SettingsIntent} {operation : SettingsMutationOperation}
    (h : (app.handleIntent intent).1.accepted = some operation) :
    ∃ row, app.presentation.row operation.setting = some row ∧ row.managedBy = none := by
  unfold handleIntent at h
  split at h
  · cases h
  · refine unmanaged_of_syncUpdateInstall ?_
    generalize app.syncUpdateInstall = app at h ⊢
    cases intent with
    | setEnabled | commit | reset | retryApply =>
      dsimp only at h
      split at h
      · exact beginMutation_unmanaged h
      · cases h
    | retry | refresh =>
      dsimp only at h
      split at h <;> cases h
    | _ => cases h

/-! ### Completions of operations that are not pending -/

/-- The call names an operation, but not the pending one of its kind. -/
def Stale (app : SettingsApplication) : SettingsInput → Prop
  | .completeRead operation _ | .completeSnapshot operation _ => app.pendingRead ≠ some operation
  | .completeMutation operation _ | .mutationWorkerStopped operation =>
    app.pendingMutation.map (·.operation) ≠ some operation
  | .completeUpdateCheck operation _ => app.pendingUpdateCheck ≠ some operation
  | _ => False

/-- The answer of a read that is not pending changes nothing. -/
theorem completeSnapshot_stale {operation : SettingsReadOperation}
    (h : app.pendingRead ≠ some operation)
    (result : Except SettingsReadError SettingsReadSnapshot) :
    app.completeSnapshot operation result = (none, app) := by
  rw [completeSnapshot, if_pos h]

/-- A stale completion changes nothing. -/
theorem settingsStep_stale {input : SettingsInput} (h : app.Stale input) :
    settingsStep app input = (app, {}) := by
  cases input with
  | completeRead operation result =>
    rw [settingsStep, completeRead, completeSnapshot_stale h]
    rfl
  | completeSnapshot operation result =>
    rw [settingsStep, completeSnapshot_stale h]
    rfl
  | completeMutation operation result =>
    cases hpending : app.pendingMutation with
    | none => simp only [settingsStep, completeMutation, answering, hpending]
    | some pending =>
      have hne : pending.operation ≠ operation := by simpa [Stale, hpending] using h
      simp only [settingsStep, completeMutation, answering, hpending, if_pos hne]
  | mutationWorkerStopped operation =>
    cases hpending : app.pendingMutation with
    | none => simp only [settingsStep, mutationWorkerStopped, answering, hpending]
    | some pending =>
      have hne : pending.operation ≠ operation := by simpa [Stale, hpending] using h
      simp only [settingsStep, mutationWorkerStopped, answering, hpending, if_pos hne]
  | completeUpdateCheck operation result =>
    have hguard : (app.closed || decide (app.pendingUpdateCheck ≠ some operation)) = true := by
      rw [decide_eq_true (show app.pendingUpdateCheck ≠ some operation from h), Bool.or_true]
    simp only [settingsStep, completeUpdateCheck, answering, if_pos hguard]
  | _ => cases h

end SettingsApplication

/-! ### The result -/

/-- What each call of a run came to. -/
def editNotes (inputs : List SettingsInput) : List DeskNote :=
  (transitions settingsStep .opening inputs).map fun t => t.pre.note t.input

/-- The law of the edits, of a run and the state that it leads to. -/
structure EditLaw (inputs : List SettingsInput) (app : SettingsApplication) : Prop where
  /-- What is handed out was accepted, in the same order, and what was accepted and not handed
  out is queued. -/
  inOrder : handedOut (editNotes inputs) <+: acceptedEdits (editNotes inputs)
  queued : acceptedEdits (editNotes inputs)
    = handedOut (editNotes inputs) ++ app.queuedMutations.map (·.operation)
  once : (acceptedEdits (editNotes inputs)).Nodup
  /-- All that were handed out are resolved, but for the pending one. -/
  single : handedOut (editNotes inputs)
    = resolvedEdits (editNotes inputs) ++ (app.pendingMutation.map (·.operation)).toList
  waiting : app.queuedMutations ≠ [] →
    app.pendingMutation.isSome ∨ app.pendingRead.isSome ∨ lastReadFailed (editNotes inputs) = true
  unmanaged : ∀ t ∈ transitions settingsStep .opening inputs, ∀ operation,
    t.output.accepted = some operation →
    ∃ row, t.pre.presentation.row operation.setting = some row ∧ row.managedBy = none
  stale : ∀ t ∈ transitions settingsStep .opening inputs, t.pre.Stale t.input →
    settingsStep t.pre t.input = (t.pre, {})

/-- The invariant holds of the page just opened. -/
theorem deskInv_start : DeskInv [] SettingsApplication.opening.desk where
  kept := rfl
  single := rfl
  waiting h := absurd rfl h
  fresh _ h := by cases h
  increasing := .nil
  whole := ⟨.inl rfl, fun _ h => by cases h⟩

/-- After any row of inputs whose readings are whole the desk keeps the invariant. -/
theorem deskInv (inputs : List SettingsInput) (hwhole : ∀ input ∈ inputs, input.Whole) :
    DeskInv (editNotes inputs) (exec settingsStep .opening inputs).desk := by
  induction inputs using List.reverseRecOn with
  | nil => exact deskInv_start
  | append_singleton inputs input ih =>
    have hinv := ih fun i hi => hwhole i (List.mem_append_left _ hi)
    have hinput := hwhole input (List.mem_append_right _ (List.mem_singleton_self _))
    rw [editNotes, transitions_concat, List.map_append, exec_concat]
    exact hinv.move (SettingsApplication.settingsStep_move input hinput hinv.whole.2)

/-- **Edits are handed out once and in order**, in every run in which a read that succeeds brings
a row for every setting. -/
theorem edit_law (inputs : List SettingsInput) (hwhole : ∀ input ∈ inputs, input.Whole) :
    EditLaw inputs (exec settingsStep .opening inputs) := by
  have hinv := deskInv inputs hwhole
  refine
    { inOrder := ⟨_, hinv.kept.symm⟩
      queued := hinv.kept
      once := ?_
      single := hinv.single
      waiting := fun hqueue => ?_
      unmanaged := fun t ht operation haccepted => ?_
      stale := fun t _ hstale => SettingsApplication.settingsStep_stale hstale }
  · exact List.Nodup.of_map _ (hinv.increasing.imp Nat.ne_of_lt)
  · have hwaiting := hinv.waiting (by simpa [SettingsApplication.desk] using hqueue)
    rw [show (exec settingsStep .opening inputs).desk.pending
      = (exec settingsStep .opening inputs).pendingMutation.map (·.operation) from rfl,
      Option.isSome_map] at hwaiting
    exact hwaiting
  · rw [(of_mem_transitions ht).2] at haccepted
    cases hinput : t.input with
    | handleIntent intent =>
      rw [hinput] at haccepted
      exact SettingsApplication.handleIntent_unmanaged haccepted
    | _ =>
      rw [hinput] at haccepted
      cases haccepted

/-- A row that shows nothing in particular. -/
def sampleRow (setting : BehaviorSetting) : SettingsRow :=
  ⟨setting, none, "", "", none, .toggle (some false), true, .unchanged, none, none, none⟩

def sampleGroups : List SettingsGroup :=
  [⟨[sampleRow .screenIdleBlank, sampleRow .screenHonorIdleInhibitors, sampleRow .screenBackend,
      sampleRow .screenIdleTimeout, sampleRow .screenRestorePolicy]⟩,
    ⟨[sampleRow .systemSleepWakePolicy]⟩,
    ⟨[sampleRow .updatesAutoCheck, sampleRow .updatesChannel]⟩]

/-- Two edits, the first of which is resolved. -/
def sampleEdits : List SettingsInput :=
  [.completeRead ⟨0⟩ (.ok sampleGroups), .handleIntent (.setEnabled .screenIdleBlank true),
    .handleIntent (.commit .screenIdleTimeout "60"),
    .completeMutation ⟨1, .screenIdleBlank, .set "enabled"⟩
      (.ok ⟨sampleRow .screenIdleBlank, .ok .noActionRequired⟩)]

/-- A reading, two edits and the answer to the first of them. -/
theorem edit_law_sample :
    (∀ input ∈ sampleEdits, input.Whole)
      ∧ EditLaw sampleEdits (exec settingsStep .opening sampleEdits) := by
  have hwhole : ∀ input ∈ sampleEdits, input.Whole := by
    intro input hinput
    simp only [sampleEdits, List.mem_cons, List.not_mem_nil, or_false] at hinput
    rcases hinput with rfl | rfl | rfl | rfl
    · intro setting
      cases setting <;> decide
    · trivial
    · trivial
    · trivial
  exact ⟨hwhole, edit_law sampleEdits hwhole⟩

end LgBuddy
