import LgBuddy.Machine.Mealy
import LgBuddy.Update.Flow

/-!
# LgBuddy — runs of the update flow

The methods of `UpdateInstallApplication`, called in any order, with operations that it has handed
out: the pending one, or an old one once more. Meanwhile a worker may claim the boundary of its
cancellation.

* `flowStep` — one call, and what came of it as an event;
* `Control` — the part of the application that decides what may happen next;
* `Effect` — everything that one call can do to it, and `flowStep_effect` that it does no more.
-/

namespace LgBuddy

open UpdateInstallApplication Mealy

/-! ## Calls -/

/-- An operation is named by its place among those handed out. -/
inductive FlowInput where
  | handle (intent : SettingsIntent)
  | progress (operation : Nat) (stage : UpdateInstallStage)
  | complete (operation : Nat) (result : Except UpdateInstallFailure UpdateInstallOutcome)
  | refreshAvailability (report : Option UpdateCheckReport) (channel : Option UpdateChannel)
      (available : Bool)
  | canClose
  | claimBoundary (operation : Nat)

inductive FlowEvent where
  | handled (intent : SettingsIntent) (answer : UpdateInstallApplication.Handled)
  | progressed (operation : UpdateInstallOperation) (stage : UpdateInstallStage) (answer : Bool)
  | completed (operation : UpdateInstallOperation)
      (result : Except UpdateInstallFailure UpdateInstallOutcome) (answer : Completed)
  | refreshed
  | closing (answer : Bool)
  | boundaryClaimed (operation : UpdateInstallOperation) (answer : Bool)

namespace FlowEvent

/-- The operation that is handed out. -/
def started : FlowEvent → Option UpdateInstallOperation
  | .handled _ (some operation) => operation
  | .completed _ _ (some (operation, _)) => operation
  | _ => none

/-- A cancel intent that was taken up. -/
def cancels : FlowEvent → Bool
  | .handled .cancelUpdateInstall (some _) => true
  | _ => false

/-- A preparation has come to its end. -/
def endsPrepare : FlowEvent → Bool
  | .completed operation _ (some _) => operation.task.isPrepare
  | _ => false

def startsInstall (event : FlowEvent) : Bool := event.started.any (·.task.isInstall)

end FlowEvent

structure FlowState where
  app : UpdateInstallApplication := {}
  handed : List UpdateInstallOperation := []

def FlowState.give (app : UpdateInstallApplication) (handed : List UpdateInstallOperation)
    (event : FlowEvent) : FlowState × List FlowEvent :=
  (⟨app, handed ++ event.started.toList⟩, [event])

def flowStep (s : FlowState) : FlowInput → FlowState × List FlowEvent
  | .handle intent =>
    let (answer, app) := s.app.handle intent
    FlowState.give app s.handed (.handled intent answer)
  | .progress n stage =>
    match s.handed[n]? with
    | none => (s, [])
    | some operation =>
      let (answer, app) := s.app.progress operation stage
      FlowState.give app s.handed (.progressed operation stage answer)
  | .complete n result =>
    match s.handed[n]? with
    | none => (s, [])
    | some operation =>
      let (answer, app) := s.app.complete operation result
      FlowState.give app s.handed (.completed operation result answer)
  | .refreshAvailability report channel available =>
    FlowState.give (s.app.refreshAvailability report channel available) s.handed .refreshed
  | .canClose =>
    let (answer, app) := s.app.canClose
    FlowState.give app s.handed (.closing answer)
  | .claimBoundary n =>
    match s.handed[n]?.bind fun operation =>
      operation.task.cancellation?.map (Prod.mk operation) with
    | none => (s, [])
    | some (operation, cancellation) =>
      let (answer, app) := s.app.exchangeCancellation cancellation .claimed
      FlowState.give app s.handed (.boundaryClaimed operation answer)

/-! ## What a call can do -/

/-- The application without its texts and cells. -/
structure Control where
  nextId : Nat
  pending : Option UpdateInstallOperation
  prepared : Option PreparedUpdateInstall
  installed : Option InstalledUpdate
  action : Option SettingsAction
  cancelling : Bool

def UpdateInstallApplication.control (app : UpdateInstallApplication) : Control where
  nextId := app.nextId
  pending := app.pending
  prepared := app.prepared
  installed := app.installed
  action := app.presentation.action
  cancelling := app.cancelling

namespace Control

def next (c : Control) (task : UpdateInstallTask) : UpdateInstallOperation := ⟨c.nextId + 1, task⟩

def start (c : Control) (task : UpdateInstallTask) : Control :=
  { c with
    nextId := c.nextId + 1
    pending := some (c.next task)
    action := none
    cancelling := false }

/-- The action that asks for a new update, the one that confirms it, and the one after it. -/
def confirmAction : SettingsAction := ⟨"Install and restart", true, .confirmUpdateInstall⟩

def restartAction : SettingsAction := ⟨"Retry restart", true, .relaunchUpdatedApplication⟩

end Control

/-- An event that tells of no change. -/
def FlowEvent.quiet : FlowEvent → Bool
  | .handled _ none | .completed _ _ none => true
  | .handled _ _ | .completed _ _ _ => false
  | _ => true

inductive Effect (c : Control) : FlowEvent → Control → Prop
  | quiet (e : FlowEvent) (hquiet : e.quiet = true) : Effect c e c
  | refresh (action : Option SettingsAction) (hpending : c.pending = none)
    (hprepared : c.prepared = none) (hinstalled : c.installed = none)
    (haction : ∀ a ∈ action, a.intent = .prepareUpdateInstall) :
    Effect c .refreshed { c with action }
  | prepare (cancellation : Nat) (a : SettingsAction) (hpending : c.pending = none)
    (hprepared : c.prepared = none) (haction : c.action = some a) (henabled : a.enabled = true) :
    Effect c (.handled .prepareUpdateInstall (some (some (c.next (.prepare cancellation)))))
      (c.start (.prepare cancellation))
  | confirm (offer : PreparedUpdateInstall) (cancellation : Nat) (hpending : c.pending = none)
    (hprepared : c.prepared = some offer) :
    Effect c (.handled .confirmUpdateInstall (some (some (c.next (.install offer cancellation)))))
      { c.start (.install offer cancellation) with prepared := none }
  | cancelRunning (action : Option SettingsAction) (hrunning : c.pending.isSome)
    (haction : action = none ∨ action = c.action) :
    Effect c (.handled .cancelUpdateInstall (some none)) { c with action, cancelling := true }
  | cancelOffer :
    Effect c (.handled .cancelUpdateInstall (some none))
      { c with pending := none, prepared := none, action := none }
  | relaunch (installed : InstalledUpdate) (hpending : c.pending = none)
    (hinstalled : c.installed = some installed) :
    Effect c (.handled .relaunchUpdatedApplication (some (some (c.next (.relaunch installed)))))
      (c.start (.relaunch installed))
  | dropped (operation : UpdateInstallOperation)
    (result : Except UpdateInstallFailure UpdateInstallOutcome)
    (hpending : c.pending.map (·.id) = some operation.id) :
    Effect c (.completed operation result (some (none, none)))
      { c with pending := none, action := none, cancelling := false }
  | offered (operation : UpdateInstallOperation) (offer : PreparedUpdateInstall)
    (hpending : c.pending.map (·.id) = some operation.id) (hprepare : operation.task.isPrepare)
    (hcancelling : c.cancelling = false) :
    Effect c (.completed operation (.ok (.prepared offer)) (some (none, none)))
      { c with pending := none, prepared := some offer, action := some Control.confirmAction }
  | installed (operation : UpdateInstallOperation) (installed : InstalledUpdate)
    (hpending : c.pending.map (·.id) = some operation.id) (hinstall : operation.task.isInstall) :
    Effect c (.completed operation (.ok (.installed installed))
        (some (some (c.next (.relaunch installed)), none)))
      { c.start (.relaunch installed) with installed := some installed }
  | ended (operation : UpdateInstallOperation)
    (result : Except UpdateInstallFailure UpdateInstallOutcome) (diagnostic : Option String)
    (prepared : Option PreparedUpdateInstall) (action : Option SettingsAction)
    (hpending : c.pending.map (·.id) = some operation.id)
    (hshown : prepared = c.prepared ∧ action = c.action
      ∨ (prepared = c.prepared ∨ prepared = none)
        ∧ (action = none ∨ c.installed.isSome ∧ action = some Control.restartAction)) :
    Effect c (.completed operation result (some (none, diagnostic)))
      { c with pending := none, prepared, action }

section

variable (app : UpdateInstallApplication)

/-- The exchange of a cancellation cell is no control of the flow. -/
theorem exchangeCancellation_control (cancellation : Nat) (new : CancellationState) :
    (app.exchangeCancellation cancellation new).2.control = app.control := by
  unfold exchangeCancellation
  split <;> rfl

/-- The question whether the window may close changes no control of the flow. -/
theorem canClose_control : app.canClose.2.control = app.control := by
  unfold canClose
  split
  · split
    · rfl
    · exact exchangeCancellation_control app _ _
  · rfl
  · rfl

/-- Progress changes no control of the flow. -/
theorem progress_control (operation : UpdateInstallOperation) (stage : UpdateInstallStage) :
    (app.progress operation stage).2.control = app.control := by
  unfold progress
  split <;> rfl

/-- A refresh acts only on a flow with nothing pending, offered or installed. -/
theorem refreshAvailability_effect (report : Option UpdateCheckReport)
    (channel : Option UpdateChannel) (available : Bool) :
    Effect app.control .refreshed (app.refreshAvailability report channel available).control := by
  unfold refreshAvailability
  split
  · exact .quiet _ rfl
  · rename_i hidle
    simp only [active, Bool.or_eq_true, not_or, Option.not_isSome_iff_eq_none] at hidle
    refine .refresh _ hidle.1.1 hidle.1.2 hidle.2 fun a ha => ?_
    dsimp only at ha
    split at ha
    · rw [← Option.some.inj ha]
    · cases ha

/-- A preparation is begun only where nothing is pending or offered and the action is enabled. -/
theorem handlePrepare_effect :
    Effect app.control (.handled .prepareUpdateInstall app.handlePrepare.1)
      app.handlePrepare.2.control := by
  unfold handlePrepare
  split
  · rename_i hguard
    simp only [active, Bool.and_eq_true, Bool.not_eq_true', Bool.or_eq_false_iff,
      Option.isSome_eq_false_iff, Option.isNone_iff_eq_none, Option.any_eq_true] at hguard
    obtain ⟨⟨hpending, hprepared⟩, a, haction, henabled⟩ := hguard
    exact .prepare _ a hpending hprepared haction henabled
  · exact .quiet _ rfl

/-- A confirmation starts the offer's install, where nothing is pending. -/
theorem handleConfirm_effect :
    Effect app.control (.handled .confirmUpdateInstall app.handleConfirm.1)
      app.handleConfirm.2.control := by
  unfold handleConfirm
  split
  · rename_i hpending
    split
    · exact .quiet _ rfl
    · rename_i offer hprepared
      exact .confirm offer _ (Option.isNone_iff_eq_none.mp hpending) hprepared
  · exact .quiet _ rfl

/-- A relaunch starts what was installed, where nothing is pending. -/
theorem handleRelaunch_effect :
    Effect app.control (.handled .relaunchUpdatedApplication app.handleRelaunch.1)
      app.handleRelaunch.2.control := by
  unfold handleRelaunch
  split
  · rename_i hpending
    split
    · exact .quiet _ rfl
    · rename_i installed hinstalled
      exact .relaunch installed (Option.isNone_iff_eq_none.mp hpending) hinstalled
  · exact .quiet _ rfl

/-- A cancel goes to what is running, or drops the offer. -/
theorem handleCancel_effect :
    Effect app.control (.handled .cancelUpdateInstall app.handleCancel.1)
      app.handleCancel.2.control := by
  unfold handleCancel
  -- with an operation pending its cell is exchanged, else the offer goes
  split
  · split
    · rename_i cancellation hrunning
      have hsome : app.pending.isSome := by
        cases hpending : app.pending with
        | none => rw [hpending] at hrunning; cases hrunning
        | some operation => rfl
      have hcontrol := exchangeCancellation_control app cancellation .cancelled
      split
      · rename_i app' hexchange
        rw [hexchange] at hcontrol
        rw [hcontrol]
        exact .quiet _ rfl
      · rename_i app' hexchange
        rw [hexchange] at hcontrol
        rw [← hcontrol]
        have hsome' : app'.control.pending.isSome := by rw [hcontrol]; exact hsome
        dsimp only
        split
        · exact .cancelRunning none hsome' (.inl rfl)
        · exact .cancelRunning _ hsome' (.inr rfl)
    · exact .cancelOffer
  · exact .quiet _ rfl

/-- Every intent has the effect of its handler. -/
theorem handle_effect (intent : SettingsIntent) :
    Effect app.control (.handled intent (app.handle intent).1) (app.handle intent).2.control := by
  cases intent with
  | prepareUpdateInstall => exact handlePrepare_effect app
  | confirmUpdateInstall => exact handleConfirm_effect app
  | cancelUpdateInstall => exact handleCancel_effect app
  | relaunchUpdatedApplication => exact handleRelaunch_effect app
  | _ => exact .quiet _ rfl

/-- A failure restores the restart action where an update is installed. -/
theorem failed_control (error : UpdateInstallFailure) :
    (app.failed error).2.control
      = { app.control with
          action := if app.installed.isSome then some Control.restartAction
            else app.presentation.action } := rfl

section

variable {c : Control} (operation : UpdateInstallOperation)
  (result : Except UpdateInstallFailure UpdateInstallOutcome)
  (hpending : c.pending.map (·.id) = some operation.id) (hover : app.control = { c with pending := none })

include hpending hover

/-- The pending operation has failed. -/
theorem failed_effect (error : UpdateInstallFailure) :
    Effect c (.completed operation result (app.failed error).1) (app.failed error).2.control := by
  have hinstalled : app.installed = c.installed := congrArg Control.installed hover
  have haction : app.presentation.action = c.action := congrArg Control.action hover
  rw [failed_control, hover, hinstalled, haction]
  refine .ended operation result _ c.prepared _ hpending ?_
  split
  · rename_i hrestart
    exact .inr ⟨.inl rfl, .inr ⟨hrestart, rfl⟩⟩
  · exact .inl ⟨rfl, rfl⟩

/-- The pending operation has ended with nothing more to show. -/
theorem clear_effect :
    Effect c (.completed operation result (some (none, none))) app.clearPresentation.control := by
  have hcontrol : app.clearPresentation.control = { app.control with action := none } := rfl
  rw [hcontrol, hover]
  exact .ended operation result none c.prepared none hpending (.inr ⟨.inl rfl, .inl rfl⟩)

/-- A completion settles the flow by its result. -/
theorem settle_effect (hprepare : operation.task.isPrepare = true → c.cancelling = false) :
    Effect c (.completed operation result (app.settle operation result).1)
      (app.settle operation result).2.control := by
  have hfail (error : UpdateInstallFailure) := failed_effect app operation result hpending hover error
  have hclear := clear_effect app operation result hpending hover
  have hinstalled : app.installed = c.installed := congrArg Control.installed hover
  unfold settle
  split
  · -- whoever owns the installation now, the offer is withdrawn
    rename_i failure _
    have hwithdrawn : ({ app with prepared := none }.clearPresentation).control
        = { app.control with prepared := none, action := none } := rfl
    dsimp only
    split
    · rw [failed_control, hwithdrawn, hover]
      refine .ended operation _ _ none _ hpending (.inr ⟨.inr rfl, ?_⟩)
      split
      · rename_i hrestart
        exact .inr ⟨hinstalled ▸ hrestart, rfl⟩
      · exact .inl rfl
    · rw [hwithdrawn, hover]
      exact .ended operation _ _ none none hpending (.inr ⟨.inr rfl, .inl rfl⟩)
  -- a finished preparation offers what it prepared
  · rename_i offer cancellation htask
    have hoffer : (app.offer offer).control
        = { app.control with prepared := some offer, action := some Control.confirmAction } := rfl
    rw [hoffer, hover]
    exact .offered operation offer hpending (by rw [htask]; rfl) (hprepare (by rw [htask]; rfl))
  · exact hclear
  -- a finished install starts the relaunch at once
  · rename_i installed prepared cancellation htask
    have hnext : app.nextId = c.nextId := congrArg Control.nextId hover
    have hstart : ∀ shown : UpdateInstallPresentation,
        ({ app with installed := some installed, presentation := shown }.start
            (.relaunch installed)).2.control
          = { app.control.start (.relaunch installed) with installed := some installed } :=
      fun _ => rfl
    dsimp only
    rw [hstart, hover]
    have hinstall := Effect.installed operation installed hpending (by rw [htask]; rfl)
    rw [Control.next, ← hnext] at hinstall
    exact hinstall
  · rw [hover]
    exact .ended operation _ none c.prepared c.action hpending (.inl ⟨rfl, rfl⟩)
  · exact hfail _
  · split
    · exact hclear
    · exact hfail _

end

/-- A completion is dropped, or settles the operation that is pending. -/
theorem complete_effect (operation : UpdateInstallOperation)
    (result : Except UpdateInstallFailure UpdateInstallOutcome) :
    Effect app.control (.completed operation result (app.complete operation result).1)
      (app.complete operation result).2.control := by
  unfold complete
  split
  · exact .quiet _ rfl
  · rename_i hpending
    have hpending : app.pending.map (·.id) = some operation.id := by
      simpa [isPending] using hpending
    dsimp only
    split
    · exact .dropped operation result hpending
    · rename_i hcancelled
      refine settle_effect _ operation result hpending rfl fun hprepare => ?_
      show app.cancelling = false
      simpa [hprepare] using hcancelled

/-- **What a call does.** Either it names no operation, or it is one of the effects. -/
theorem flowStep_effect (s : FlowState) (input : FlowInput) :
    (flowStep s input = (s, []))
    ∨ ∃ event app', flowStep s input = FlowState.give app' s.handed event
        ∧ Effect s.app.control event app'.control
        ∧ ∀ operation result answer, event = .completed operation result answer →
          operation ∈ s.handed := by
  cases input with
  | handle intent => exact .inr ⟨_, _, rfl, handle_effect s.app intent, fun _ _ _ h => by cases h⟩
  | progress n stage =>
    cases hn : s.handed[n]? with
    | none => exact .inl (by simp only [flowStep, hn])
    | some operation =>
      refine .inr ⟨.progressed operation stage (s.app.progress operation stage).1,
        (s.app.progress operation stage).2, by simp only [flowStep, hn], ?_,
        fun _ _ _ h => by cases h⟩
      rw [progress_control]
      exact .quiet _ rfl
  | complete n result =>
    cases hn : s.handed[n]? with
    | none => exact .inl (by simp only [flowStep, hn])
    | some operation =>
      refine .inr ⟨.completed operation result (s.app.complete operation result).1,
        (s.app.complete operation result).2, by simp only [flowStep, hn],
        complete_effect s.app operation result, fun _ _ _ h => ?_⟩
      cases h
      exact List.mem_of_getElem? hn
  | refreshAvailability report channel available =>
    exact .inr ⟨_, _, rfl, refreshAvailability_effect s.app report channel available,
      fun _ _ _ h => by cases h⟩
  | canClose =>
    refine .inr ⟨.closing s.app.canClose.1, s.app.canClose.2, rfl, ?_, fun _ _ _ h => by cases h⟩
    rw [canClose_control]
    exact .quiet _ rfl
  | claimBoundary n =>
    cases hn : s.handed[n]?.bind fun operation =>
        operation.task.cancellation?.map (Prod.mk operation) with
    | none => exact .inl (by simp only [flowStep, hn])
    | some named =>
      refine .inr ⟨.boundaryClaimed named.1 (s.app.exchangeCancellation named.2 .claimed).1,
        (s.app.exchangeCancellation named.2 .claimed).2, by simp only [flowStep, hn], ?_,
        fun _ _ _ h => by cases h⟩
      rw [exchangeCancellation_control]
      exact .quiet _ rfl

end

end LgBuddy
