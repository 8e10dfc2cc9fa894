import LgBuddy.Update.FlowRun
import Mathlib.Data.List.Nodup

/-!
# LgBuddy — the update flow keeps its order

What holds of every run of the update flow, and where it does not.

* `Running`, `Offered`, `Returned` — what a run must have behind it for an operation to be started;
* `FlowInv` — what the application remembers is what has happened;
* `FlowLaw` — the law of a run, and `flowLaw_iff` the runs that keep it;
* `prepare_while_restart_is_due` — a run that does not: a new preparation is started although the
  action that is shown is to restart.
-/

namespace LgBuddy

open UpdateInstallApplication Mealy

/-! ## Histories -/

section

variable {events : List FlowEvent} {e : FlowEvent}

/-- The operation was handed out, and no cancel intent was taken up since. -/
def Running (events : List FlowEvent) (operation : UpdateInstallOperation) : Prop :=
  ∃ early e late, events = early ++ e :: late ∧ e.started = some operation
    ∧ ∀ e ∈ late, e.cancels = false

/-- The last preparation that came to its end was not cancelled and returned this offer, and no
installation was started since. -/
def Offered (events : List FlowEvent) (offer : PreparedUpdateInstall) : Prop :=
  ∃ early operation answer late,
    events = early ++ .completed operation (.ok (.prepared offer)) (some answer) :: late
    ∧ operation.task.isPrepare = true ∧ Running early operation
    ∧ ∀ e ∈ late, e.endsPrepare = false ∧ e.startsInstall = false

/-- An installation of this run returned it. -/
def Returned (events : List FlowEvent) (installed : InstalledUpdate) : Prop :=
  ∃ operation answer, operation.task.isInstall = true
    ∧ .completed operation (.ok (.installed installed)) (some answer) ∈ events

/-- An operation just started is running. -/
theorem running_started {operation : UpdateInstallOperation} (h : e.started = some operation) :
    Running (events ++ [e]) operation :=
  ⟨events, e, [], rfl, h, List.forall_mem_nil _⟩

/-- An operation stays running over an event that does not cancel. -/
theorem Running.concat {operation : UpdateInstallOperation} (h : Running events operation)
    (he : e.cancels = false) : Running (events ++ [e]) operation := by
  obtain ⟨early, start, late, rfl, hstart, hlate⟩ := h
  refine ⟨early, start, late ++ [e], by simp, hstart, fun e' he' => ?_⟩
  rcases List.mem_append.mp he' with hold | hlast
  · exact hlate e' hold
  · rw [List.mem_singleton.mp hlast]
    exact he

/-- An offer stands over an event that neither ends a preparation nor starts an install. -/
theorem Offered.concat {offer : PreparedUpdateInstall} (h : Offered events offer)
    (hprepare : e.endsPrepare = false) (hinstall : e.startsInstall = false) :
    Offered (events ++ [e]) offer := by
  obtain ⟨early, operation, answer, late, rfl, htask, hrunning, hlate⟩ := h
  refine ⟨early, operation, answer, late ++ [e], by simp, htask, hrunning, fun e' he' => ?_⟩
  rcases List.mem_append.mp he' with hold | hlast
  · exact hlate e' hold
  · rw [List.mem_singleton.mp hlast]
    exact ⟨hprepare, hinstall⟩

/-- What was returned stays returned. -/
theorem Returned.concat {installed : InstalledUpdate} (h : Returned events installed) :
    Returned (events ++ [e]) installed := by
  obtain ⟨operation, answer, htask, hmem⟩ := h
  exact ⟨operation, answer, htask, List.mem_append_left _ hmem⟩

end

/-! ## The invariant -/

/-- What the action that is shown asks for. -/
def Control.Shows (c : Control) (a : SettingsAction) : Prop :=
  a.intent = .prepareUpdateInstall ∧ c.installed = none
  ∨ a.intent = .confirmUpdateInstall ∧ c.prepared.isSome
  ∨ a.intent = .relaunchUpdatedApplication ∧ c.installed.isSome

structure FlowInv (events : List FlowEvent) (c : Control) (handed : List UpdateInstallOperation) :
    Prop where
  handedOut : handed = events.filterMap FlowEvent.started
  fresh : ∀ operation ∈ handed, operation.id ≤ c.nextId
  increasing : (handed.map (·.id)).Pairwise (· < ·)
  pending : ∀ operation ∈ c.pending, operation ∈ handed
  alone : ∀ operation ∈ c.pending, operation.task.isPrepare = true → c.prepared = none
  busy : c.pending.isSome → c.action = none
  shown : ∀ a ∈ c.action, c.Shows a
  running : ∀ operation ∈ c.pending, operation.task.isPrepare = true → c.cancelling = false →
    Running events operation
  offered : ∀ offer ∈ c.prepared, Offered events offer
  returned : ∀ installed ∈ c.installed, Returned events installed

/-- What an event needs of the events before it. -/
def FlowEvent.Grounded (before : List FlowEvent) (e : FlowEvent) : Prop :=
  (∀ operation offer cancellation, e.started = some operation →
      operation.task = .install offer cancellation →
      e = .handled .confirmUpdateInstall (some (some operation)) ∧ Offered before offer)
  ∧ ∀ operation installed, e.started = some operation → operation.task = .relaunch installed →
      Returned (before ++ [e]) installed

section

variable {events : List FlowEvent} {c c' : Control} {handed : List UpdateInstallOperation}
  {e : FlowEvent}

/-- The invariant holds of the fresh application. -/
theorem flowInv_start : FlowInv [] (UpdateInstallApplication.control {}) [] where
  handedOut := rfl
  fresh := List.forall_mem_nil _
  increasing := .nil
  pending _ h := by cases h
  alone _ h := by cases h
  busy h := by cases h
  shown _ h := by cases h
  running _ h := by cases h
  offered _ h := by cases h
  returned _ h := by cases h

/-- The operation that a completion names is the pending one, if it has its number. -/
theorem FlowInv.pending_eq (h : FlowInv events c handed) {operation : UpdateInstallOperation}
    (hmem : operation ∈ handed) (hid : c.pending.map (·.id) = some operation.id) :
    c.pending = some operation := by
  obtain ⟨pending, hpending, hid⟩ := Option.map_eq_some_iff.mp hid
  have hnodup : (handed.map (·.id)).Nodup := h.increasing.imp Nat.ne_of_lt
  rw [hpending, List.inj_on_of_nodup_map hnodup (h.pending pending hpending) hmem hid]

/-- An event that hands out nothing. -/
theorem FlowInv.settle (h : FlowInv events c handed) (he : e.started = none)
    (hnext : c'.nextId = c.nextId) (hinstalled : c'.installed = c.installed)
    (hpending : c'.pending = none
      ∨ c'.pending = c.pending ∧ c'.prepared = c.prepared ∧ c'.action = none
        ∧ (c'.cancelling = false → c.cancelling = false ∧ e.cancels = false))
    (hshown : ∀ a ∈ c'.action, c'.Shows a)
    (hoffered : ∀ offer ∈ c'.prepared, Offered (events ++ [e]) offer) :
    FlowInv (events ++ [e]) c' (handed ++ e.started.toList) := by
  have hhanded : handed ++ e.started.toList = handed := by
    rw [he, Option.toList_none, List.append_nil]
  rw [hhanded]
  exact
    { handedOut := by
        rw [List.filterMap_append, List.filterMap_cons_none he, List.filterMap_nil, List.append_nil]
        exact h.handedOut
      fresh := fun operation hmem => hnext ▸ h.fresh operation hmem
      increasing := h.increasing
      pending := fun operation hmem => by
        rcases hpending with hnone | ⟨hsame, -⟩
        · rw [hnone] at hmem
          cases hmem
        · exact h.pending operation (hsame ▸ hmem)
      alone := fun operation hmem htask => by
        rcases hpending with hnone | ⟨hsame, hprepared, -⟩
        · rw [hnone] at hmem
          cases hmem
        · rw [hprepared]
          exact h.alone operation (hsame ▸ hmem) htask
      busy := fun hsome => by
        rcases hpending with hnone | ⟨-, -, haction, -⟩
        · rw [hnone] at hsome
          cases hsome
        · exact haction
      shown := hshown
      running := fun operation hmem htask hcancelling => by
        rcases hpending with hnone | ⟨hsame, -, -, hkept⟩
        · rw [hnone] at hmem
          cases hmem
        · obtain ⟨hbefore, he⟩ := hkept hcancelling
          exact (h.running operation (hsame ▸ hmem) htask hbefore).concat he
      offered := hoffered
      returned := fun installed hmem => (h.returned installed (hinstalled ▸ hmem)).concat }

/-- An event that hands out an operation. -/
theorem FlowInv.begin (h : FlowInv events c handed) (task : UpdateInstallTask)
    (he : e.started = some (c.next task)) {prepared : Option PreparedUpdateInstall}
    {installed : Option InstalledUpdate} (halone : task.isPrepare = true → prepared = none)
    (hoffered : ∀ offer ∈ prepared, Offered (events ++ [e]) offer)
    (hreturned : ∀ i ∈ installed, Returned (events ++ [e]) i) :
    FlowInv (events ++ [e]) { c.start task with prepared, installed } (handed ++ [c.next task]) where
  handedOut := by
    rw [List.filterMap_append, ← h.handedOut, List.filterMap_cons_some he, List.filterMap_nil]
  fresh operation hmem := by
    rcases List.mem_append.mp hmem with hold | hlast
    · exact Nat.le_succ_of_le (h.fresh operation hold)
    · rw [List.mem_singleton.mp hlast]
      exact Nat.le_refl _
  increasing := by
    rw [List.map_append, List.pairwise_append]
    refine ⟨h.increasing, List.pairwise_singleton _ _, fun id hid last hlast => ?_⟩
    obtain ⟨operation, hmem, rfl⟩ := List.mem_map.mp hid
    rw [List.mem_singleton.mp hlast]
    exact Nat.lt_succ_of_le (h.fresh operation hmem)
  pending operation hmem := by
    cases hmem
    exact List.mem_append_right _ (List.mem_singleton_self _)
  alone operation hmem htask := by
    cases hmem
    exact halone htask
  busy _ := rfl
  shown _ hmem := by cases hmem
  running operation hmem _ _ := by
    cases hmem
    exact running_started he
  offered := hoffered
  returned := hreturned

/-- An application with an operation pending has no action left to take. -/
theorem FlowInv.pending_or (h : FlowInv events c handed) :
    c.pending = none ∨ c.pending.isSome ∧ c.action = none := by
  cases hpending : c.pending with
  | none => exact .inl rfl
  | some operation => exact .inr ⟨rfl, h.busy (by rw [hpending]; rfl)⟩

/-- The offer outlives the end of any operation but a preparation, and then there is none. -/
theorem FlowInv.offered_completed (h : FlowInv events c handed)
    {operation : UpdateInstallOperation} (hpending : c.pending = some operation)
    {result : Except UpdateInstallFailure UpdateInstallOutcome}
    {answer : Option UpdateInstallOperation × Option String}
    (hinstall : answer.1.any (·.task.isInstall) = false) :
    ∀ offer ∈ c.prepared, Offered (events ++ [.completed operation result (some answer)]) offer := by
  intro offer hoffer
  cases htask : operation.task.isPrepare with
  | true =>
    rw [h.alone operation hpending htask] at hoffer
    cases hoffer
  | false => exact (h.offered offer hoffer).concat htask hinstall

/-- An event that starts nothing needs no ground. -/
theorem grounded_of_none (he : e.started = none) : e.Grounded events := by
  refine ⟨fun operation _ _ hstarted => ?_, fun operation _ hstarted => ?_⟩
  · rw [he] at hstarted
    cases hstarted
  · rw [he] at hstarted
    cases hstarted

/-- A quiet event starts, cancels and ends nothing. -/
theorem FlowEvent.of_quiet (h : e.quiet = true) :
    e.started = none ∧ e.cancels = false ∧ e.endsPrepare = false ∧ e.startsInstall = false := by
  cases e with
  | handled intent answer =>
    cases answer with
    | none => exact ⟨rfl, by cases intent <;> rfl, rfl, rfl⟩
    | some _ => cases h
  | completed operation result answer =>
    cases answer with
    | none => exact ⟨rfl, rfl, rfl, rfl⟩
    | some _ => cases h
  | _ => exact ⟨rfl, rfl, rfl, rfl⟩

/-- **Each effect keeps the invariant**, and what it starts has its ground. -/
theorem FlowInv.effect (h : FlowInv events c handed) (heffect : Effect c e c')
    (hmem : ∀ operation result answer, e = .completed operation result answer →
      operation ∈ handed) :
    FlowInv (events ++ [e]) c' (handed ++ e.started.toList) ∧ e.Grounded events := by
  cases heffect with
  | quiet _ hquiet =>
    obtain ⟨hstarted, hcancels, hprepare, hinstall⟩ := FlowEvent.of_quiet hquiet
    refine ⟨h.settle hstarted rfl rfl ?_ h.shown fun offer hoffer =>
      (h.offered offer hoffer).concat hprepare hinstall, grounded_of_none hstarted⟩
    exact h.pending_or.imp id fun hbusy => ⟨rfl, rfl, hbusy.2, fun hc => ⟨hc, hcancels⟩⟩
  | refresh action hpending hprepared hinstalled haction =>
    refine ⟨h.settle rfl rfl rfl (.inl hpending) (fun a ha => .inl ⟨haction a ha, hinstalled⟩) ?_,
      grounded_of_none rfl⟩
    exact fun offer hoffer => (h.offered offer hoffer).concat rfl rfl
  -- what starts is grounded by the offer or the installed update it is made for
  | prepare cancellation a hpending hprepared haction henabled =>
    refine ⟨h.begin (.prepare cancellation) rfl (fun _ => hprepared) (fun offer hoffer => ?_)
      fun i hi => (h.returned i hi).concat, fun _ _ _ hstarted htask => ?_, fun _ _ hstarted htask => ?_⟩
    · exact (h.offered offer hoffer).concat rfl rfl
    · cases hstarted
      cases htask
    · cases hstarted
      cases htask
  | confirm offer cancellation hpending hprepared =>
    refine ⟨h.begin (.install offer cancellation) rfl (fun htask => by cases htask)
      (fun _ hoffer => by cases hoffer) fun i hi => (h.returned i hi).concat,
      fun _ _ _ hstarted htask => ?_, fun _ _ hstarted htask => ?_⟩
    · cases hstarted
      cases htask
      exact ⟨rfl, h.offered offer hprepared⟩
    · cases hstarted
      cases htask
  | cancelRunning action hrunning haction =>
    have hnone : action = none := haction.elim id fun hsame => hsame.trans (h.busy hrunning)
    refine ⟨h.settle rfl rfl rfl (.inr ⟨rfl, rfl, hnone, fun hc => by cases hc⟩) (fun a ha => ?_) ?_,
      grounded_of_none rfl⟩
    · rw [hnone] at ha
      cases ha
    · exact fun offer hoffer => (h.offered offer hoffer).concat rfl rfl
  | cancelOffer =>
    exact ⟨h.settle rfl rfl rfl (.inl rfl) (fun _ ha => by cases ha) (fun _ hoffer => by cases hoffer),
      grounded_of_none rfl⟩
  | relaunch installed hpending hinstalled =>
    refine ⟨h.begin (.relaunch installed) rfl (fun htask => by cases htask)
      (fun offer hoffer => (h.offered offer hoffer).concat rfl rfl)
      fun i hi => (h.returned i hi).concat, fun _ _ _ hstarted htask => ?_, fun _ _ hstarted htask => ?_⟩
    · cases hstarted
      cases htask
    · cases hstarted
      cases htask
      exact (h.returned installed hinstalled).concat
  -- a completion resolves the operation that is pending
  | dropped operation result hpending =>
    have hpending := h.pending_eq (hmem operation _ _ rfl) hpending
    exact ⟨h.settle rfl rfl rfl (.inl rfl) (fun _ ha => by cases ha)
      (h.offered_completed hpending rfl), grounded_of_none rfl⟩
  | offered operation offer hpending hprepare hcancelling =>
    have hpending := h.pending_eq (hmem operation _ _ rfl) hpending
    refine ⟨h.settle rfl rfl rfl (.inl rfl) (fun a ha => ?_) (fun _ hoffer => ?_),
      grounded_of_none rfl⟩
    · cases ha
      exact .inr (.inl ⟨rfl, rfl⟩)
    · cases hoffer
      exact ⟨events, operation, _, [], rfl, hprepare,
        h.running operation hpending hprepare hcancelling, List.forall_mem_nil _⟩
  | installed operation installed hpending hinstall =>
    have hpending := h.pending_eq (hmem operation _ _ rfl) hpending
    have hreturned : Returned (events ++ [.completed operation (.ok (.installed installed))
        (some (some (c.next (.relaunch installed)), none))]) installed :=
      ⟨operation, _, hinstall, List.mem_append_right _ (List.mem_singleton_self _)⟩
    refine ⟨h.begin (.relaunch installed) rfl (fun htask => by cases htask)
      (h.offered_completed hpending rfl) (fun i hi => ?_), fun _ _ _ hstarted htask => ?_,
      fun _ _ hstarted htask => ?_⟩
    · cases hi
      exact hreturned
    · cases hstarted
      cases htask
    · cases hstarted
      cases htask
      exact hreturned
  | ended operation result diagnostic prepared action hpending hshown =>
    have hpending := h.pending_eq (hmem operation _ _ rfl) hpending
    have hnone : c.action = none := h.busy (by rw [hpending]; rfl)
    refine ⟨h.settle rfl rfl rfl (.inl rfl) (fun a ha => ?_) (fun offer hoffer => ?_),
      grounded_of_none rfl⟩
    -- the action left is none or the restart of an installed update
    · obtain ⟨-, hsame⟩ | ⟨-, hcleared | ⟨hinstalled, hrestart⟩⟩ := hshown
      · cases hnone.symm.trans (hsame.symm.trans ha)
      · cases hcleared.symm.trans ha
      · cases hrestart.symm.trans ha
        exact .inr (.inr ⟨rfl, hinstalled⟩)
    -- the offer left is the one shown before, or it was withdrawn
    · have hsame : prepared = c.prepared := by
        obtain ⟨hsame, -⟩ | ⟨hsame | hwithdrawn, -⟩ := hshown
        · exact hsame
        · exact hsame
        · cases hwithdrawn.symm.trans hoffer
      exact h.offered_completed hpending rfl offer (hsame ▸ hoffer)

end

/-! ## Runs -/

/-- Every step of the flow keeps the invariant and grounds its event. -/
theorem flowInv_step {events : List FlowEvent} (s : FlowState) (input : FlowInput)
    (h : FlowInv events s.app.control s.handed ∧ Justified FlowEvent.Grounded events) :
    FlowInv (events ++ (flowStep s input).2) (flowStep s input).1.app.control
        (flowStep s input).1.handed
      ∧ Justified FlowEvent.Grounded (events ++ (flowStep s input).2) := by
  obtain hnothing | ⟨event, app', hstep, heffect, hmem⟩ := flowStep_effect s input
  · rw [hnothing, List.append_nil]
    exact h
  · rw [hstep]
    obtain ⟨hinv, hgrounded⟩ := h.1.effect heffect hmem
    exact ⟨hinv, h.2.concat hgrounded⟩

/-- In every run of the flow the invariant holds and every event is grounded. -/
theorem flowInv (inputs : List FlowInput) :
    FlowInv (trace flowStep {} inputs) (exec flowStep {} inputs).app.control
        (exec flowStep {} inputs).handed
      ∧ Justified FlowEvent.Grounded (trace flowStep {} inputs) :=
  trace_induct (P := fun events s => FlowInv events s.app.control s.handed
      ∧ Justified FlowEvent.Grounded events) _ ⟨flowInv_start, .nil⟩
    (fun _ s input h => flowInv_step s input h) inputs

/-- The law of the update flow. -/
structure FlowLaw (inputs : List FlowInput) : Prop where
  increasing : (((trace flowStep {} inputs).filterMap FlowEvent.started).map (·.id)).Pairwise (· < ·)
  /-- An operation is started when none is pending, or by the end of the pending one. -/
  single : ∀ t ∈ transitions flowStep {} inputs, ∀ e ∈ t.output, e.started.isSome →
    t.pre.app.pending = none
    ∨ ∃ operation result answer, e = .completed operation result answer
        ∧ t.pre.app.isPending operation = true
  /-- A completion or a report of another operation than the pending one changes nothing. -/
  stale : ∀ t ∈ transitions flowStep {} inputs, ∀ n operation,
    t.pre.handed[n]? = some operation → t.pre.app.isPending operation = false →
    (∀ result, t.input = .complete n result → (flowStep t.pre t.input).1 = t.pre)
      ∧ ∀ stage, t.input = .progress n stage → (flowStep t.pre t.input).1 = t.pre
  /-- An installation is of the last offer, confirmed, and a restart is of what was installed. -/
  grounded : Justified FlowEvent.Grounded (trace flowStep {} inputs)
  /-- A preparation is started only where it is the action that is shown. -/
  asked : ∀ t ∈ transitions flowStep {} inputs, ∀ operation,
    .handled .prepareUpdateInstall (some (some operation)) ∈ t.output →
    ∃ a ∈ t.pre.app.presentation.action, a.enabled = true ∧ a.intent = .prepareUpdateInstall

/-- The update is installed, nothing is under way, and an action is shown. -/
def RestartDue (app : UpdateInstallApplication) : Prop :=
  app.installed.isSome ∧ app.active = false ∧ app.presentation.action.any (·.enabled) = true

section

variable {events : List FlowEvent} {app : UpdateInstallApplication}
  {handed : List UpdateInstallOperation}

/-- A step that starts an operation has none pending, or resolves the one that is. -/
theorem started_single {s : FlowState} {input : FlowInput} {e : FlowEvent}
    (he : e ∈ (flowStep s input).2) (hstarted : e.started.isSome) :
    s.app.pending = none
    ∨ ∃ operation result answer, e = .completed operation result answer
        ∧ s.app.isPending operation = true := by
  obtain hnothing | ⟨event, app', hstep, heffect, -⟩ := flowStep_effect s input
  · rw [hnothing] at he
    cases he
  · rw [hstep] at he
    obtain rfl := List.mem_singleton.mp he
    generalize app'.control = after at heffect
    cases heffect with
    | quiet _ hquiet =>
      rw [(FlowEvent.of_quiet hquiet).1] at hstarted
      cases hstarted
    | refresh | cancelRunning | cancelOffer | dropped | offered | ended => cases hstarted
    | prepare _ _ hpending | confirm _ _ hpending | relaunch _ hpending => exact .inl hpending
    | installed operation installed hpending =>
      exact .inr ⟨operation, _, _, rfl, beq_iff_eq.mpr hpending⟩

/-- A completion of an operation that is not pending changes nothing. -/
theorem stale_complete {s : FlowState} {n : Nat} {operation : UpdateInstallOperation}
    (hn : s.handed[n]? = some operation) (hstale : s.app.isPending operation = false)
    (result : Except UpdateInstallFailure UpdateInstallOutcome) :
    (flowStep s (.complete n result)).1 = s := by
  simp [flowStep, hn, complete, hstale, FlowState.give, FlowEvent.started]

/-- Progress of an operation that is not pending changes nothing. -/
theorem stale_progress {s : FlowState} {n : Nat} {operation : UpdateInstallOperation}
    (hn : s.handed[n]? = some operation) (hstale : s.app.isPending operation = false)
    (stage : UpdateInstallStage) : (flowStep s (.progress n stage)).1 = s := by
  simp [flowStep, hn, progress, hstale, FlowState.give, FlowEvent.started]

/-- A preparation that is started: whether it was asked for depends on what is installed. -/
theorem prepare_started (h : FlowInv events app.control handed)
    (hactive : app.active = false) (hshown : app.presentation.action.any (·.enabled) = true) :
    (∃ a ∈ app.presentation.action, a.enabled = true ∧ a.intent = .prepareUpdateInstall)
      ↔ app.installed.isSome = false := by
  obtain ⟨a, haction, henabled⟩ := (Option.any_eq_true _ _).mp hshown
  have hprepared : app.prepared = none := by
    simp only [active, Bool.or_eq_false_iff, Option.isSome_eq_false_iff,
      Option.isNone_iff_eq_none] at hactive
    exact hactive.2
  obtain ⟨hintent, hinstalled⟩ | ⟨-, hoffer⟩ | ⟨hintent, hinstalled⟩ := h.shown a haction
  · refine ⟨fun _ => ?_, fun _ => ⟨a, haction, henabled, hintent⟩⟩
    exact Option.isSome_eq_false_iff.mpr (Option.isNone_iff_eq_none.mpr hinstalled)
  · rw [show app.control.prepared = none from hprepared] at hoffer
    cases hoffer
  · refine ⟨fun hother => ?_, fun hnone => ?_⟩
    · obtain ⟨a', haction', -, hintent'⟩ := hother
      cases haction.symm.trans haction'
      cases hintent.symm.trans hintent'
    · rw [show app.installed.isSome = true from hinstalled] at hnone
      cases hnone

/-- What the intent to prepare is answered with. -/
theorem handlePrepare_started (app : UpdateInstallApplication) :
    (∃ operation, app.handlePrepare.1 = some (some operation))
      ↔ app.active = false ∧ app.presentation.action.any (·.enabled) = true := by
  unfold handlePrepare
  split
  · rename_i hguard
    simp only [Bool.and_eq_true, Bool.not_eq_true'] at hguard
    exact ⟨fun _ => hguard, fun _ => ⟨_, rfl⟩⟩
  · rename_i hguard
    simp only [Bool.and_eq_true, Bool.not_eq_true'] at hguard
    exact ⟨fun ⟨_, h⟩ => (by cases h), fun h => absurd h hguard⟩

end

/-- Which calls start a preparation. -/
theorem prepare_of_mem_output {s : FlowState} {input : FlowInput}
    {operation : UpdateInstallOperation}
    (h : .handled .prepareUpdateInstall (some (some operation)) ∈ (flowStep s input).2) :
    input = .handle .prepareUpdateInstall
      ∧ s.app.active = false ∧ s.app.presentation.action.any (·.enabled) = true := by
  have hgive : ∀ app handed event, .handled .prepareUpdateInstall (some (some operation))
      ∈ (FlowState.give app handed event).2 →
      event = .handled .prepareUpdateInstall (some (some operation)) :=
    fun _ _ _ hmem => (List.mem_singleton.mp hmem).symm
  cases input with
  | handle intent =>
    have hevent := hgive _ _ _ h
    injection hevent with hintent hanswer
    subst hintent
    exact ⟨rfl, (handlePrepare_started s.app).mp ⟨operation, hanswer⟩⟩
  | progress n stage | complete n stage =>
    cases hn : s.handed[n]? with
    | none =>
      simp only [flowStep, hn] at h
      cases h
    | some named =>
      simp only [flowStep, hn] at h
      cases hgive _ _ _ h
  | refreshAvailability report channel available => cases hgive _ _ _ h
  | canClose => cases hgive _ _ _ h
  | claimBoundary n =>
    cases hn : s.handed[n]?.bind fun operation =>
        operation.task.cancellation?.map (Prod.mk operation) with
    | none =>
      simp only [flowStep, hn] at h
      cases h
    | some named =>
      simp only [flowStep, hn] at h
      cases hgive _ _ _ h

/-- **The law, and the runs that keep it**: those in which no intent to prepare an update is
handled while a restart is due. -/
theorem flowLaw_iff (inputs : List FlowInput) :
    FlowLaw inputs ↔ ∀ t ∈ transitions flowStep {} inputs,
      t.input = .handle .prepareUpdateInstall → ¬ RestartDue t.pre.app := by
  constructor
  · rintro hlaw t ht hinput ⟨hinstalled, hactive, hshown⟩
    obtain ⟨⟨before, hpre⟩, houtput⟩ := of_mem_transitions ht
    obtain ⟨operation, hstarted⟩ := (handlePrepare_started t.pre.app).mpr ⟨hactive, hshown⟩
    have hmem : .handled .prepareUpdateInstall (some (some operation)) ∈ t.output := by
      rw [houtput, hinput, ← hstarted]
      exact List.mem_singleton_self _
    have hinv := (flowInv before).1
    rw [← hpre] at hinv
    have hnone := (prepare_started hinv hactive hshown).mp (hlaw.asked t ht operation hmem)
    rw [hinstalled] at hnone
    cases hnone
  · intro hcalm
    refine
      { increasing := ?_
        single := fun t ht e he hstarted => ?_
        stale := fun t ht n operation hn hstale => ⟨fun result hinput => ?_, fun stage hinput => ?_⟩
        grounded := (flowInv inputs).2
        asked := fun t ht operation hmem => ?_ }
    · have hinv := (flowInv inputs).1
      rw [← hinv.handedOut]
      exact hinv.increasing
    · rw [(of_mem_transitions ht).2] at he
      exact started_single he hstarted
    · rw [hinput]
      exact stale_complete hn hstale result
    · rw [hinput]
      exact stale_progress hn hstale stage
    · obtain ⟨⟨before, hpre⟩, houtput⟩ := of_mem_transitions ht
      rw [houtput] at hmem
      obtain ⟨hinput, hactive, hshown⟩ := prepare_of_mem_output hmem
      have hinv := (flowInv before).1
      rw [← hpre] at hinv
      refine (prepare_started hinv hactive hshown).mpr ?_
      by_contra hsome
      exact hcalm t ht hinput ⟨Bool.not_eq_false _ ▸ hsome, hactive, hshown⟩

/-! ## A preparation that was not asked for -/

section

/-- An update to version 1.7.0. -/
def sampleIdentity : ReleaseIdentity :=
  ⟨"v1.7.0", { major := 1, minor := 7, patch := 0 }, .stable, releaseTarget, "abc"⟩

def sampleOffer : PreparedUpdateInstall :=
  ⟨⟨sampleIdentity.version, .stable, "url", "v1.7.0", []⟩, sampleIdentity, .stable⟩

def sampleInstalled : InstalledUpdate :=
  ⟨sampleIdentity, sampleIdentity.gui, "/usr/bin/lg-buddy", "/usr/bin/lg-buddy-gui"⟩

/-- It is installed, and the restart fails. -/
def failedRestart : List FlowInput :=
  [.refreshAvailability (some ⟨"1.6.0", .stable, true, none, .bundle⟩) (some .stable) true,
    .handle .prepareUpdateInstall,
    .complete 0 (.ok (.prepared sampleOffer)),
    .handle .confirmUpdateInstall,
    .complete 1 (.ok (.installed sampleInstalled)),
    .complete 2 (.error .stopped)]

/-- The action is "Retry restart", and yet an intent to prepare an update starts one. -/
theorem prepare_while_restart_is_due :
    ¬ FlowLaw (failedRestart ++ [.handle .prepareUpdateInstall]) := by
  intro hlaw
  have hmem : (⟨exec flowStep {} failedRestart, .handle .prepareUpdateInstall,
      (flowStep (exec flowStep {} failedRestart) (.handle .prepareUpdateInstall)).2⟩ :
        Transition FlowState FlowInput (List FlowEvent))
      ∈ transitions flowStep {} (failedRestart ++ [.handle .prepareUpdateInstall]) := by
    rw [transitions_concat]
    exact List.mem_append_right _ (List.mem_singleton_self _)
  have hshown : (exec flowStep {} failedRestart).app.presentation.action
      = some Control.restartAction := rfl
  obtain ⟨a, haction, -, hintent⟩ :=
    hlaw.asked _ hmem ⟨4, .prepare 2⟩ (List.mem_singleton_self _)
  cases hshown.symm.trans haction
  cases hintent

end

end LgBuddy
