import LgBuddy.Setup.Flow
import Mathlib.Data.List.Nodup
import Mathlib.Data.List.Perm.Subperm

/-!
# LgBuddy — who executes a setup step, and when

Every history of an onboarding flow, with cancellations between any two sections under its lock.

* `FlowView` — what an observer of the history knows; `flowView` derives it from the log;
* `Allowed` — the law: which entry of the log is in order, given what was observed before it;
* `Idle`, `Attempting` — what ties flow and control together outside of an attempt, and during one;
* `flow_law` — every entry of every history is in order.

A step is executed in two moves: it is admitted under the lock, and then handed to the backend. From
the admission on a cancellation goes to the gate of the attempt.
-/

namespace LgBuddy

variable {E : Type}

/-! ## What is observed -/

/-- What belongs to the operation that the caller has asked for. -/
structure FlowScope where
  operation : Option FlowOperation := none
  /-- Its token is not the one that was published last. -/
  stale : Bool := false
  /-- `progress` has failed. -/
  failed : Bool := false
  observedBefore : Option StepResponses := none
  /-- The steps that were admitted since it was started, or since `try_run` was entered. -/
  attempted : List SetupStep := []

structure FlowView where
  /-- A cancellation was accepted. -/
  accepted : Bool := false
  /-- What was published last. -/
  latest : Option FlowSnapshot := none
  /-- What was inspected last. -/
  observed : Option StepResponses := none
  /-- What was admitted, and not handed to the backend yet. -/
  admitted : Option SetupStep := none
  scope : FlowScope := {}

namespace FlowView

def noteCall (v : FlowView) : (e : FlowCall) → e.Answer E → FlowView
  | .inspect, observed => { v with observed := some observed }
  | .admitStep step, .admitted =>
    { v with
      admitted := some step
      scope := { v.scope with attempted := v.scope.attempted ++ [step] } }
  | .execute _ _, _ => { v with admitted := none }
  | .progress _, .error _ => { v with scope := { v.scope with failed := true } }
  | .cancel, accepted => { v with accepted := v.accepted || accepted }
  | .publish token steps, outcome => { v with latest := some ⟨token, steps, outcome⟩ }
  | .entered, _ => { v with scope := { v.scope with attempted := [] } }
  | _, _ => v

def note (v : FlowView) : FlowRecord E → FlowView
  | .asked operation =>
    { v with
      scope := {
        operation := some operation
        stale := operation.token.any fun token => v.latest.map FlowSnapshot.token ≠ some token
        observedBefore := v.observed } }
  | .called _ e r => v.noteCall e r
  | .cancelRequested accepted => { v with accepted := v.accepted || accepted }
  | .answered _ => v

end FlowView

def flowView (log : List (FlowRecord E)) : FlowView := log.foldl FlowView.note {}

def FlowWorld.view (world : FlowWorld E) : FlowView := flowView world.log

/-! ## The law -/

def FlowScope.Advancing (scope : FlowScope) : Prop :=
  ∃ token answer, scope.operation = some (.advance token answer)

/-- A step is admitted only if the flow is open and has its lease, nobody has cancelled and nothing
has failed, and it is the first one that is left of what was published last. -/
structure Admissible (v : FlowView) (control : FlowControl) (step : SetupStep) : Prop where
  closed : control.closed = false
  lease : control.lease = true
  accepted : v.accepted = false
  failed : v.scope.failed = false
  stale : v.scope.stale = false
  current : (v.latest.bind FlowSnapshot.current).map Prod.fst = some step
  once : step ∉ v.scope.attempted
  observed : v.scope.Advancing → v.observed = v.scope.observedBefore

def AllowedCall (v : FlowView) (control : FlowControl) : (e : FlowCall) → e.Answer E → Prop
  | .admitStep step, .admitted => Admissible v control step
  | .admitStep _, .panicked => False
  | .execute step _, _ =>
    control.closed = false ∧ control.lease = true ∧ v.admitted = some step
      ∧ (v.latest.bind FlowSnapshot.current).map Prod.fst = some step
  | .publish token _, outcome =>
    (∀ snapshot ∈ v.latest, snapshot.token.flow = token.flow
      ∧ snapshot.token.revision < token.revision)
      ∧ (v.accepted = true → outcome ≠ .complete)
  | _, _ => True

/-- **What is in order.** -/
def Allowed (v : FlowView) : FlowRecord E → Prop
  | .called control e r => AllowedCall v control e r
  | .answered (.ok snapshot) => v.accepted = true → snapshot.outcome ≠ .complete
  | _ => True

def FlowLawful (log : List (FlowRecord E)) : Prop :=
  ∀ before x after, log = before ++ x :: after → Allowed (flowView before) x

/-- Anything may happen before a call, and any answer may come from outside. -/
def flowContract (E : Type) : Program.Contract FlowCall (FlowCall.Answer E) (FlowWorld E) where
  permits world e := ∀ between answers,
    Allowed (world.moves between).view (.called (world.moves between).control e
      ((world.moves between).respond answers e).1)
  next world e r world' := ∃ between answers, (world.moves between).respond answers e = (r, world')

/-! ## Views -/

@[simp] theorem flowView_concat (log : List (FlowRecord E)) (x : FlowRecord E) :
    flowView (log ++ [x]) = (flowView log).note x := by
  simp [flowView]

/-- What a spectator sees of a call is that it was made and how it was answered. -/
theorem view_respond (world : FlowWorld E) (answers : FlowAnswers E) (e : FlowCall) :
    (world.respond answers e).2.view = world.view.noteCall e (world.respond answers e).1 := by
  simp [FlowWorld.view, FlowWorld.respond, FlowView.note]

/-- The control answers a call by its own part of the answers. -/
theorem control_respond (world : FlowWorld E) (answers : FlowAnswers E) (e : FlowCall) :
    (world.respond answers e).2.control = (world.control.respond answers e).2 := rfl

/-! ## Invariants -/

/-- Outside of an attempt, as far as the control goes. -/
structure Unattempted (flow : OnboardingFlow) (world : FlowWorld E) : Prop where
  attempt : world.control.attempt = none
  lease : world.control.closed = false → flow.waitingStep = none → world.control.lease = true
  cancelled : world.control.cancelled = true → world.control.closed = true
  accepted : world.view.accepted = true → world.control.cancelled = true
  complete : flow.snapshot.outcome = .complete →
    world.control.closed = true ∧ world.control.cancelled = false

/-- Outside of an attempt: the flow is what was published last. -/
structure Idle (flow : OnboardingFlow) (world : FlowWorld E) : Prop
    extends Unattempted flow world where
  latest : world.view.latest = some flow.snapshot
  observed : world.view.observed = some flow.observed

/-- From the admission of a step to the end of its execution. -/
structure Attempting (flow : OnboardingFlow) (world : FlowWorld E) : Prop where
  attempt : world.control.attempt.isSome = true
  closed : world.control.closed = false
  lease : world.control.lease = true
  accepted : world.view.accepted = true → world.control.cancelled = true
  incomplete : flow.snapshot.outcome ≠ .complete
  latest : world.view.latest = some flow.snapshot
  observed : world.view.observed = some flow.observed

/-- A snapshot that says so is of a flow that is complete for good. -/
def Truthful (snapshot : FlowSnapshot) (world : FlowWorld E) : Prop :=
  snapshot.outcome = .complete → world.control.closed = true ∧ world.control.cancelled = false

/-! ### What happens in between -/

section

variable {flow : OnboardingFlow} {world : FlowWorld E}

/-- A cancel from outside is seen only if it was accepted. -/
theorem view_move_cancel (world : FlowWorld E) :
    (world.move .cancel).view
      = { world.view with accepted := world.view.accepted || world.control.cancel.1 } := by
  simp [FlowWorld.view, FlowWorld.move, FlowView.note]

/-- Nothing but the acceptance of a cancellation is noted. -/
structure SameView (v v' : FlowView) : Prop where
  scope : v'.scope = v.scope
  admitted : v'.admitted = v.admitted
  latest : v'.latest = v.latest
  observed : v'.observed = v.observed

/-- Moves of others between two calls change neither the scope nor what was published or observed.
-/
theorem sameView_moves (world : FlowWorld E) (between : List FlowMove) :
    SameView world.view (world.moves between).view := by
  induction between generalizing world with
  | nil => exact ⟨rfl, rfl, rfl, rfl⟩
  | cons move between ih =>
    have hone : SameView world.view (world.move move).view := by
      cases move with
      | cancel =>
        rw [view_move_cancel]
        exact ⟨rfl, rfl, rfl, rfl⟩
      | gate use => exact ⟨rfl, rfl, rfl, rfl⟩
    have hrest := ih (world.move move)
    exact ⟨hrest.scope.trans hone.scope, hrest.admitted.trans hone.admitted,
      hrest.latest.trans hone.latest, hrest.observed.trans hone.observed⟩

/-- With no attempt registered, a cancel only closes the control, or does nothing at all. -/
theorem Unattempted.move (h : Unattempted flow world) (move : FlowMove) :
    Unattempted flow (world.move move) := by
  cases move with
  | gate use =>
    refine { h with attempt := ?_ }
    show world.control.attempt.map _ = none
    rw [h.attempt]
    rfl
  | cancel =>
    have hview := view_move_cancel world
    by_cases hclosed : world.control.closed || world.control.cancelled
    -- closed or cancelled already: the cancel is refused
    · have hsame : world.control.cancel = (false, world.control) := by
        simp only [FlowControl.cancel, hclosed, if_true]
      have hcontrol : (world.move .cancel).control = world.control := by
        show world.control.cancel.2 = _
        rw [hsame]
      rw [hsame] at hview
      refine ⟨?_, ?_, ?_, ?_, ?_⟩
      · rw [hcontrol]
        exact h.attempt
      · rw [hcontrol]
        exact h.lease
      · rw [hcontrol]
        exact h.cancelled
      · rw [hcontrol, hview]
        simpa using h.accepted
      · rw [hcontrol]
        exact h.complete
    · have hcontrol : (world.move .cancel).control
          = { world.control.close with cancelled := true } := by
        show world.control.cancel.2 = _
        simp [FlowControl.cancel, hclosed, h.attempt]
      refine ⟨?_, ?_, ?_, ?_, ?_⟩
      · rw [hcontrol]
        exact h.attempt
      · rw [hcontrol]
        nofun
      · rw [hcontrol]
        exact fun _ => rfl
      · rw [hcontrol]
        exact fun _ => rfl
      · intro hcomplete
        rw [(h.complete hcomplete).1] at hclosed
        simp at hclosed

/-- Any moves of the world, one after the other, start no attempt. -/
theorem Unattempted.moves (h : Unattempted flow world) (between : List FlowMove) :
    Unattempted flow (world.moves between) := by
  induction between generalizing world with
  | nil => exact h
  | cons move between ih => exact ih (h.move move)

/-- An idle flow stays idle over any moves of the world. -/
theorem Idle.moves (h : Idle flow world) (between : List FlowMove) :
    Idle flow (world.moves between) :=
  ⟨h.toUnattempted.moves between, (sameView_moves world between).latest.trans h.latest,
    (sameView_moves world between).observed.trans h.observed⟩

/-- A cancellation of an attempt leaves the flow open, with its lease. -/
theorem Attempting.cancel (h : Attempting flow world) {world' : FlowWorld E}
    (hcontrol : world'.control = world.control.cancel.2)
    (hview : world'.view
      = { world.view with accepted := world.view.accepted || world.control.cancel.1 }) :
    Attempting flow world' := by
  obtain ⟨gate, hgate⟩ := Option.isSome_iff_exists.mp h.attempt
  -- the cancel is accepted where it is the first and the gate is still open
  by_cases haccepted : world.control.cancelled = false ∧ gate = .available
  · obtain ⟨hcancelled, rfl⟩ := haccepted
    have hcancel : world.control.cancel
        = (true, { world.control with attempt := some .cancelled, cancelled := true }) := by
      simp [FlowControl.cancel, h.closed, hcancelled, hgate, StepCancellation.cancel]
    rw [hcancel] at hcontrol hview
    refine ⟨?_, ?_, ?_, ?_, h.incomplete, ?_, ?_⟩
    · rw [hcontrol]
      rfl
    · rw [hcontrol]
      exact h.closed
    · rw [hcontrol]
      exact h.lease
    · rw [hcontrol]
      exact fun _ => rfl
    · rw [hview]
      exact h.latest
    · rw [hview]
      exact h.observed
  · have hcancel : world.control.cancel = (false, world.control) := by
      cases hcancelled : world.control.cancelled with
      | true => simp [FlowControl.cancel, hcancelled]
      | false =>
        have hother : gate ≠ .available := fun hgate => haccepted ⟨hcancelled, hgate⟩
        simp [FlowControl.cancel, h.closed, hcancelled, hgate, StepCancellation.cancel, hother]
    rw [hcancel] at hcontrol hview
    refine ⟨?_, ?_, ?_, ?_, h.incomplete, ?_, ?_⟩
    · rw [hcontrol]
      exact h.attempt
    · rw [hcontrol]
      exact h.closed
    · rw [hcontrol]
      exact h.lease
    · rw [hcontrol, hview]
      simpa using h.accepted
    · rw [hview]
      exact h.latest
    · rw [hview]
      exact h.observed

/-- While an attempt is registered, a cancel goes to that attempt and leaves the control open. -/
theorem Attempting.move (h : Attempting flow world) (move : FlowMove) :
    Attempting flow (world.move move) := by
  cases move with
  | gate use =>
    refine { h with attempt := ?_ }
    show (world.control.attempt.map _).isSome = true
    rw [Option.isSome_map]
    exact h.attempt
  | cancel => exact h.cancel rfl (view_move_cancel world)

/-- An attempt goes on over any moves of the world. -/
theorem Attempting.moves (h : Attempting flow world) (between : List FlowMove) :
    Attempting flow (world.moves between) := by
  induction between generalizing world with
  | nil => exact h
  | cons move between ih => exact ih (h.move move)

/-- Only the control and the view count. -/
theorem Idle.of_eq (h : Idle flow world) {world' : FlowWorld E}
    (hcontrol : world'.control = world.control) (hview : world'.view = world.view) :
    Idle flow world' := by
  refine ⟨⟨?_, ?_, ?_, ?_, ?_⟩, ?_, ?_⟩
  · rw [hcontrol]
    exact h.attempt
  · rw [hcontrol]
    exact h.lease
  · rw [hcontrol]
    exact h.cancelled
  · rw [hcontrol, hview]
    exact h.accepted
  · rw [hcontrol]
    exact h.complete
  · rw [hview]
    exact h.latest
  · rw [hview]
    exact h.observed

/-- Of the view only what was accepted, published and observed counts. -/
theorem Attempting.of_eq (h : Attempting flow world) {world' : FlowWorld E}
    (hcontrol : world'.control = world.control) (haccepted : world'.view.accepted = world.view.accepted)
    (hlatest : world'.view.latest = world.view.latest)
    (hobserved : world'.view.observed = world.view.observed) : Attempting flow world' := by
  refine ⟨?_, ?_, ?_, ?_, h.incomplete, hlatest.trans h.latest, hobserved.trans h.observed⟩
  · rw [hcontrol]
    exact h.attempt
  · rw [hcontrol]
    exact h.closed
  · rw [hcontrol]
    exact h.lease
  · rw [hcontrol, haccepted]
    exact h.accepted

end

/-- What is decided under the lock when something is published. -/
structure Decided (before : FlowControl) (outcome : FlowOutcome) (after : FlowControl) : Prop where
  complete : outcome = .complete → after.closed = true ∧ after.cancelled = false
  never : before.cancelled = true → outcome ≠ .complete
  attempt : after.attempt = before.attempt
  cancelled : after.cancelled = before.cancelled
  closed : before.closed = true → after.closed = true
  still : after.closed = false → after = before

/-- What the control decides on a publication: cancelled if it has been, complete if nothing is
left, and otherwise to go on. -/
theorem FlowControl.publish_decided (control : FlowControl) (steps : StepResponses) :
    Decided control (control.publish steps).1 (control.publish steps).2 := by
  unfold FlowControl.publish
  split
  · exact ⟨nofun, fun _ => nofun, rfl, rfl, id, fun _ => rfl⟩
  · rename_i hcancelled
    have hno : control.cancelled = false := by simpa using hcancelled
    split
    · exact ⟨fun _ => ⟨rfl, hno⟩, fun hyes => absurd hyes hcancelled, rfl, rfl, fun _ => rfl, nofun⟩
    · exact ⟨nofun, fun _ => nofun, rfl, rfl, id, fun _ => rfl⟩

/-! ## Calls -/

namespace FlowM

open Program (wpS)

variable {s : OnboardingFlow} {t : FlowWorld E} {P : FlowPanic → OnboardingFlow → FlowWorld E → Prop}

/-- One call, with any moves of others before it and any answers to it. -/
theorem wpS_call {e : FlowCall} {Q : e.Answer E → OnboardingFlow → FlowWorld E → Prop}
    (h : ∀ between answers,
      AllowedCall (t.moves between).view (t.moves between).control e
        ((t.moves between).respond answers e).1
      ∧ Q ((t.moves between).respond answers e).1 s ((t.moves between).respond answers e).2) :
    wpS (flowContract E) (call e) Q P s t := by
  refine Program.wpS_liftM.mpr ((Program.wp_perform e).mpr ⟨fun between answers => ?_, ?_⟩)
  · exact (h between answers).1
  · rintro r t' ⟨between, answers, hrespond⟩
    have hq := (h between answers).2
    rw [hrespond] at hq
    exact hq

/-- A call outside of an attempt. -/
theorem wpS_idle {e : FlowCall} {Q : e.Answer E → OnboardingFlow → FlowWorld E → Prop}
    (hidle : Idle s t)
    (h : ∀ t' answers, Idle s t' → t'.view.scope = t.view.scope →
      AllowedCall t'.view t'.control e (t'.respond answers e).1
      ∧ Q (t'.respond answers e).1 s (t'.respond answers e).2) :
    wpS (flowContract E) (call e) Q P s t :=
  wpS_call fun between answers =>
    h (t.moves between) answers (hidle.moves between) (sameView_moves t between).scope

/-- A call during an attempt. -/
theorem wpS_attempting {e : FlowCall} {Q : e.Answer E → OnboardingFlow → FlowWorld E → Prop}
    (hattempting : Attempting s t)
    (h : ∀ t' answers, Attempting s t' → t'.view.scope = t.view.scope →
      t'.view.admitted = t.view.admitted →
      AllowedCall t'.view t'.control e (t'.respond answers e).1
      ∧ Q (t'.respond answers e).1 s (t'.respond answers e).2) :
    wpS (flowContract E) (call e) Q P s t :=
  wpS_call fun between answers =>
    h (t.moves between) answers (hattempting.moves between)
      (sameView_moves t between).scope (sameView_moves t between).admitted

/-- What is asked for, and not looked at. -/
theorem wpS_isClosed {Q : Bool → OnboardingFlow → FlowWorld E → Prop} (hidle : Idle s t)
    (h : ∀ b t', Idle s t' → t'.view.scope = t.view.scope → Q b s t') :
    wpS (flowContract E) isClosed Q P s t := by
  refine wpS_idle hidle fun t' answers hidle' hscope => ⟨trivial, ?_⟩
  have hview := view_respond t' answers .closed
  exact h _ _ (hidle'.of_eq rfl hview) ((congrArg FlowView.scope hview).trans hscope)

/-- The lease is asked for while nothing is attempted. -/
theorem wpS_acquire {Q : Except StepFailure Unit → OnboardingFlow → FlowWorld E → Prop}
    (hidle : Idle s t) (h : ∀ r t', Idle s t' → t'.view.scope = t.view.scope → Q r s t') :
    wpS (flowContract E) (call .acquire) Q P s t := by
  refine wpS_idle hidle fun t' answers hidle' hscope => ⟨trivial, ?_⟩
  have hview := view_respond t' answers .acquire
  exact h _ _ (hidle'.of_eq rfl hview) ((congrArg FlowView.scope hview).trans hscope)

/-- Entering a scope forgets what was attempted in the scope before. -/
theorem wpS_entered {Q : Unit → OnboardingFlow → FlowWorld E → Prop} (hidle : Idle s t)
    (h : ∀ t', Idle s t' → t'.view.scope = { t.view.scope with attempted := [] } → Q () s t') :
    wpS (flowContract E) (call .entered) Q P s t := by
  refine wpS_idle hidle fun t' answers hidle' hscope => ⟨trivial, ?_⟩
  have hview := view_respond t' answers .entered
  refine h _ ?_ ?_
  · refine ⟨⟨hidle'.attempt, hidle'.lease, hidle'.cancelled, ?_, hidle'.complete⟩, ?_, ?_⟩
    · rw [hview]
      exact hidle'.accepted
    · rw [hview]
      exact hidle'.latest
    · rw [hview]
      exact hidle'.observed
  · rw [hview, ← hscope]
    rfl

/-- What was inspected is what has been observed. -/
theorem wpS_inspect {Q : StepResponses → OnboardingFlow → FlowWorld E → Prop} (hidle : Idle s t)
    (h : ∀ observed t', Idle { s with observed } t' → t'.view.scope = t.view.scope →
      Q observed s t') :
    wpS (flowContract E) inspect Q P s t := by
  refine wpS_idle hidle fun t' answers hidle' hscope => ⟨trivial, ?_⟩
  have hview := view_respond t' answers .inspect
  refine h _ _ ?_ ?_
  · refine ⟨⟨hidle'.attempt, hidle'.lease, hidle'.cancelled, ?_, hidle'.complete⟩, ?_, ?_⟩
    · rw [hview]
      exact hidle'.accepted
    · rw [hview]
      exact hidle'.latest
    · rw [hview]
      rfl
  · rw [hview]
    exact hscope

/-- The lease is taken again unless the control has closed meanwhile. -/
theorem wpS_relock {Q : Bool → OnboardingFlow → FlowWorld E → Prop} (hidle : Idle s t)
    (hclosed : ∀ t', Idle s t' → t'.view.scope = t.view.scope → Q false s t')
    (hopen : ∀ t', Idle { s with waitingStep := none } t' → t'.view.scope = t.view.scope →
      Q true s t') :
    wpS (flowContract E) relock Q P s t := by
  refine wpS_idle hidle fun t' answers hidle' hscope => ⟨trivial, ?_⟩
  have hview := view_respond t' answers .relock
  have hcontrol := control_respond t' answers .relock
  have hscope' := (congrArg FlowView.scope hview).trans hscope
  cases hcase : t'.control.closed with
  | true =>
    have hrespond : t'.control.respond answers .relock = (false, t'.control) := if_pos hcase
    have hanswer : (t'.respond answers .relock).1 = false := congrArg Prod.fst hrespond
    rw [hanswer]
    exact hclosed _ (hidle'.of_eq (congrArg Prod.snd hrespond) hview) hscope'
  | false =>
    have hrespond : t'.control.respond answers .relock
        = (true, { t'.control with lease := true }) := if_neg (by rw [hcase]; nofun)
    have hanswer : (t'.respond answers .relock).1 = true := congrArg Prod.fst hrespond
    rw [hrespond] at hcontrol
    rw [hanswer]
    refine hopen _ ⟨⟨?_, ?_, ?_, ?_, ?_⟩, ?_, ?_⟩ hscope'
    · rw [hcontrol]
      exact hidle'.attempt
    · rw [hcontrol]
      exact fun _ _ => rfl
    · rw [hcontrol]
      exact hidle'.cancelled
    · rw [hcontrol, hview]
      exact hidle'.accepted
    · rw [hcontrol]
      exact hidle'.complete
    · rw [hview]
      exact hidle'.latest
    · rw [hview]
      exact hidle'.observed

/-- A publication follows what was observed, with a newer token, and its outcome is the one that
the control decided. -/
theorem wpS_publishCall {token : FlowToken} {steps : StepResponses}
    {Q : FlowOutcome → OnboardingFlow → FlowWorld E → Prop} (hunattempted : Unattempted s t)
    (hobserved : t.view.observed = some s.observed)
    (hlatest : ∀ snapshot ∈ t.view.latest, snapshot.token.flow = token.flow
      ∧ snapshot.token.revision < token.revision)
    (h : ∀ outcome t', Idle { s with snapshot := ⟨token, steps, outcome⟩ } t' →
      t'.view.scope = t.view.scope → Q outcome s t') :
    wpS (flowContract E) (call (.publish token steps)) Q P s t := by
  refine wpS_call fun between answers => ?_
  have hidle' := hunattempted.moves between
  have hsame := sameView_moves t between
  rw [← hsame.latest] at hlatest
  generalize t.moves between = t' at hidle' hsame hlatest ⊢
  have hview := view_respond t' answers (.publish token steps)
  have hcontrol := control_respond t' answers (.publish token steps)
  have hcontrol' : (t'.respond answers (.publish token steps)).2.control
      = (t'.control.publish steps).2 := hcontrol
  -- the moves before the call may have cancelled, and the control decides after them
  have hdecided := t'.control.publish_decided steps
  refine ⟨⟨hlatest, fun haccepted => hdecided.never (hidle'.accepted haccepted)⟩, ?_⟩
  refine h _ _ ⟨⟨?_, ?_, ?_, ?_, ?_⟩, ?_, ?_⟩
    ((congrArg FlowView.scope hview).trans hsame.scope)
  · rw [hcontrol', hdecided.attempt]
    exact hidle'.attempt
  · rw [hcontrol']
    intro hstill hwaiting
    have hstays := hdecided.still hstill
    rw [hstays] at hstill ⊢
    exact hidle'.lease hstill hwaiting
  · rw [hcontrol', hdecided.cancelled]
    exact fun hyes => hdecided.closed (hidle'.cancelled hyes)
  · rw [hcontrol', hview, hdecided.cancelled]
    exact hidle'.accepted
  · rw [hcontrol']
    exact hdecided.complete
  · rw [hview]
    rfl
  · rw [hview]
    exact hsame.observed.trans hobserved

/-! ### During an attempt -/

/-- **Admission.** -/
theorem wpS_admitStep {step : SetupStep} {Q : Admission → OnboardingFlow → FlowWorld E → Prop}
    (hidle : Idle s t) (hwaiting : s.waitingStep = none)
    (hfailed : t.view.scope.failed = false) (hstale : t.view.scope.stale = false)
    (hcurrent : s.snapshot.current.map Prod.fst = some step)
    (honce : step ∉ t.view.scope.attempted)
    (hobserved : t.view.scope.Advancing → some s.observed = t.view.scope.observedBefore)
    (hclosed : ∀ t', Idle s t' → t'.view.scope = t.view.scope → Q .closed s t')
    (hadmitted : ∀ t', Attempting s t' → t'.view.admitted = some step →
      t'.view.scope = { t.view.scope with attempted := t.view.scope.attempted ++ [step] } →
      Q .admitted s t') :
    wpS (flowContract E) (call (.admitStep step)) Q P s t := by
  refine wpS_idle hidle fun t' answers hidle' hscope => ?_
  have hview := view_respond t' answers (.admitStep step)
  have hcontrol := control_respond t' answers (.admitStep step)
  cases hcase : t'.control.closed with
  | true =>
    have hanswer : (t'.respond answers (.admitStep step)).1 = .closed := by
      show t'.control.admission = _
      simp [FlowControl.admission, hcase]
    rw [hanswer] at hview ⊢
    refine ⟨trivial, hclosed _ (hidle'.of_eq ?_ hview) ((congrArg FlowView.scope hview).trans hscope)⟩
    rw [hcontrol]
    exact if_pos hcase
  | false =>
    have hlease := hidle'.lease hcase hwaiting
    have hcancelled : t'.control.cancelled = false := by
      cases hyes : t'.control.cancelled with
      | false => rfl
      | true => rw [hidle'.cancelled hyes] at hcase; cases hcase
    have haccepted : t'.view.accepted = false := by
      cases hyes : t'.view.accepted with
      | false => rfl
      | true => rw [hidle'.accepted hyes] at hcancelled; cases hcancelled
    have hanswer : (t'.respond answers (.admitStep step)).1 = .admitted := by
      show t'.control.admission = _
      simp [FlowControl.admission, hcase, hlease]
    have hafter : (t'.control.respond answers (.admitStep step)).2
        = { t'.control with attempt := some .available } := if_neg (by rw [hcase]; nofun)
    rw [hafter] at hcontrol
    rw [hanswer] at hview ⊢
    refine ⟨⟨hcase, hlease, haccepted, ?_, ?_, ?_, ?_, ?_⟩, ?_⟩
    · rw [hscope]
      exact hfailed
    · rw [hscope]
      exact hstale
    · rw [hidle'.latest]
      exact hcurrent
    · rw [hscope]
      exact honce
    · rw [hscope, hidle'.observed]
      exact hobserved
    · refine hadmitted _ ⟨?_, ?_, ?_, ?_, ?_, ?_, ?_⟩ ?_ ?_
      · rw [hcontrol]
        rfl
      · rw [hcontrol]
        exact hcase
      · rw [hcontrol]
        exact hlease
      · rw [hview, hcontrol]
        exact hidle'.accepted
      · intro hcomplete
        rw [(hidle'.complete hcomplete).1] at hcase
        cases hcase
      · rw [hview]
        exact hidle'.latest
      · rw [hview]
        exact hidle'.observed
      · rw [hview]
        rfl
      · rw [hview, ← hscope]
        rfl

/-- A step is executed only while its attempt is registered and the snapshot still names it as the
current one. -/
theorem wpS_execute {step : SetupStep} {answer : StepAnswer}
    {Q : List StepResponse → OnboardingFlow → FlowWorld E → Prop} (hattempting : Attempting s t)
    (hadmitted : t.view.admitted = some step)
    (hcurrent : s.snapshot.current.map Prod.fst = some step)
    (h : ∀ events t', Attempting s t' → t'.view.scope = t.view.scope → Q events s t') :
    wpS (flowContract E) (call (.execute step answer)) Q P s t := by
  refine wpS_attempting hattempting fun t' answers hnow hscope hsame => ?_
  have hview := view_respond t' answers (.execute step answer)
  have hfirst : (t'.view.latest.bind FlowSnapshot.current).map Prod.fst = some step := by
    rw [hnow.latest]
    exact hcurrent
  refine ⟨⟨hnow.closed, hnow.lease, hsame.trans hadmitted, hfirst⟩,
    h _ _ (hnow.of_eq rfl ?_ ?_ ?_) ?_⟩
  · rw [hview]
    rfl
  · rw [hview]
    rfl
  · rw [hview]
    rfl
  · rw [hview]
    exact hscope

/-- A reported progress changes nothing; if the report fails, the scope has failed. -/
theorem wpS_progress {event : FlowProgress}
    {Q : Except E Unit → OnboardingFlow → FlowWorld E → Prop} (hattempting : Attempting s t)
    (hok : ∀ t', Attempting s t' → t'.view.scope = t.view.scope → Q (.ok ()) s t')
    (herr : ∀ failure t', Attempting s t' →
      t'.view.scope = { t.view.scope with failed := true } → Q (.error failure) s t') :
    wpS (flowContract E) (call (.progress event)) Q P s t := by
  refine wpS_attempting hattempting fun t' answers hnow hscope _ => ⟨trivial, ?_⟩
  have hview := view_respond t' answers (.progress event)
  have hanswer : (t'.respond answers (.progress event)).1 = answers.progress := rfl
  cases hcase : answers.progress with
  | ok _ =>
    rw [hanswer, hcase] at hview
    rw [hanswer, hcase]
    refine hok _ (hnow.of_eq rfl ?_ ?_ ?_) ?_
    · rw [hview]
      rfl
    · rw [hview]
      rfl
    · rw [hview]
      rfl
    · rw [hview]
      exact hscope
  | error failure =>
    rw [hanswer, hcase] at hview
    rw [hanswer, hcase]
    refine herr failure _ (hnow.of_eq rfl ?_ ?_ ?_) ?_
    · rw [hview]
      rfl
    · rw [hview]
      rfl
    · rw [hview]
      rfl
    · rw [hview, ← hscope]
      rfl

/-- A notification changes nothing. -/
theorem wpS_notify {event : FlowProgress} {Q : Unit → OnboardingFlow → FlowWorld E → Prop}
    (hattempting : Attempting s t)
    (h : ∀ t', Attempting s t' → t'.view.scope = t.view.scope → Q () s t') :
    wpS (flowContract E) (call (.notify event)) Q P s t := by
  refine wpS_attempting hattempting fun t' answers hnow hscope _ => ⟨trivial, ?_⟩
  have hview := view_respond t' answers (.notify event)
  refine h _ (hnow.of_eq rfl ?_ ?_ ?_) ?_
  · rw [hview]
    rfl
  · rw [hview]
    rfl
  · rw [hview]
    rfl
  · rw [hview]
    exact hscope

/-- A cancel of one's own goes to the attempt at hand. -/
theorem wpS_cancel {Q : Bool → OnboardingFlow → FlowWorld E → Prop} (hattempting : Attempting s t)
    (h : ∀ b t', Attempting s t' → t'.view.scope = t.view.scope → Q b s t') :
    wpS (flowContract E) (call .cancel) Q P s t := by
  refine wpS_attempting hattempting fun t' answers hnow hscope _ => ⟨trivial, ?_⟩
  have hview := view_respond t' answers .cancel
  refine h _ _ (hnow.cancel rfl hview) ?_
  rw [hview]
  exact hscope

/-- A step that returns leaves the attempt registered. -/
theorem wpS_returned {Q : StepResponse → OnboardingFlow → FlowWorld E → Prop}
    (hattempting : Attempting s t)
    (h : ∀ response t', Attempting s t' → t'.view.scope = t.view.scope → Q response s t') :
    wpS (flowContract E) (call .returned) Q P s t := by
  refine wpS_attempting hattempting fun t' answers hnow hscope _ => ⟨trivial, ?_⟩
  have hview := view_respond t' answers .returned
  refine h _ _ (hnow.of_eq rfl ?_ ?_ ?_) ?_
  · rw [hview]
    rfl
  · rw [hview]
    rfl
  · rw [hview]
    rfl
  · rw [hview]
    exact hscope

/-- The end of an attempt: the flow goes on, is closed, or waits for its lock. -/
theorem wpS_settle (step : SetupStep) {response : StepResponse}
    {Q : Bool → OnboardingFlow → FlowWorld E → Prop} (hattempting : Attempting s t)
    (hon : ∀ t', Idle s t' → t'.view.scope = t.view.scope → Q false s t')
    (hwait : FlowControl.isBusy response = true →
      ∀ t', Idle { s with waitingStep := some step } t' → t'.view.scope = t.view.scope →
        Q true s t') :
    wpS (flowContract E) (settle response) Q P s t := by
  refine wpS_attempting hattempting fun t' answers hnow hscope _ => ⟨trivial, ?_⟩
  have hview : (t'.respond answers (.settle response)).2.view = t'.view :=
    view_respond t' answers (.settle response)
  have hscope' := (congrArg FlowView.scope hview).trans hscope
  have hcontrol : (t'.respond answers (.settle response)).2.control
      = (t'.control.settle response).2 := rfl
  have hanswer : (t'.respond answers (.settle response)).1 = (t'.control.settle response).1 := rfl
  rw [hanswer]
  unfold FlowControl.settle at hcontrol ⊢
  -- a cancel that came first wins over the response
  by_cases hcancelled : t'.control.cancelled || response = .cancelled
  · simp only [hcancelled, if_true] at hcontrol ⊢
    refine hon _ ⟨⟨?_, ?_, ?_, ?_, ?_⟩, ?_, ?_⟩ hscope'
    · rw [hcontrol]
      rfl
    · rw [hcontrol]
      nofun
    · rw [hcontrol]
      exact fun _ => rfl
    · rw [hcontrol]
      exact fun _ => rfl
    · exact fun hcomplete => absurd hcomplete hnow.incomplete
    · rw [hview]
      exact hnow.latest
    · rw [hview]
      exact hnow.observed
  · have hno : (t'.control.cancelled || response = .cancelled) = false := by simpa using hcancelled
    have hopen : t'.control.cancelled = false := (Bool.or_eq_false_iff.mp hno).1
    have haccepted : t'.view.accepted = true → False := by
      intro hyes
      rw [hnow.accepted hyes] at hopen
      cases hopen
    simp only [hno, Bool.false_eq_true, if_false] at hcontrol ⊢
    -- a busy step is waited for with its lease, any other gives it back
    by_cases hbusy : FlowControl.isBusy response = true
    · rw [if_pos hbusy] at hcontrol ⊢
      refine hwait hbusy _ ⟨⟨?_, ?_, ?_, ?_, ?_⟩, ?_, ?_⟩ hscope'
      · rw [hcontrol]
      · exact fun _ hnone => by cases hnone
      · rw [hcontrol]
        nofun
      · rw [hview]
        exact fun hyes => absurd hyes haccepted
      · exact fun hcomplete => absurd hcomplete hnow.incomplete
      · rw [hview]
        exact hnow.latest
      · rw [hview]
        exact hnow.observed
    · rw [if_neg hbusy] at hcontrol ⊢
      refine hon _ ⟨⟨?_, ?_, ?_, ?_, ?_⟩, ?_, ?_⟩ hscope'
      · rw [hcontrol]
      · rw [hcontrol]
        exact fun _ _ => hnow.lease
      · rw [hcontrol]
        nofun
      · rw [hview]
        exact fun hyes => absurd hyes haccepted
      · exact fun hcomplete => absurd hcomplete hnow.incomplete
      · rw [hview]
        exact hnow.latest
      · rw [hview]
        exact hnow.observed

end FlowM

/-! ## Operations -/

namespace OnboardingFlow

open FlowM
open Program (wpS)

variable {s : OnboardingFlow} {t : FlowWorld E}

/-- No panic. -/
abbrev Never : FlowPanic → OnboardingFlow → FlowWorld E → Prop := fun _ _ _ => False

/-- Where an operation ends that executes nothing. -/
structure Ended (scope : FlowScope) (snapshot : FlowSnapshot) (s : OnboardingFlow)
    (t : FlowWorld E) : Prop where
  idle : Idle s t
  scope : t.view.scope = scope
  truthful : Truthful snapshot t

/-- The snapshot that ends a scope is the published one, with the cancellation in it if there was
one. -/
theorem wpS_currentSnapshot {Q : FlowSnapshot → OnboardingFlow → FlowWorld E → Prop}
    (hidle : Idle s t)
    (h : ∀ snapshot t', Ended t.view.scope snapshot s t' →
      snapshot.steps = s.snapshot.steps → snapshot.token = s.snapshot.token →
      (∀ item, snapshot.current = some item → s.snapshot.current = some item) →
      Q snapshot s t') :
    wpS (flowContract E) currentSnapshot Q Never s t := by
  refine Program.wpS_bind.mpr (wpS_idle hidle fun t' answers hidle' hscope => ⟨trivial, ?_⟩)
  have hview : (t'.respond answers .cancelled).2.view = t'.view := view_respond t' answers .cancelled
  have hnow : Idle s (t'.respond answers .cancelled).2 := hidle'.of_eq rfl hview
  have hscope' := (congrArg FlowView.scope hview).trans hscope
  refine Program.wpS_bind.mpr (Program.wpS_get.mpr ?_)
  show Q (if t'.control.cancelled then { s.snapshot with outcome := .cancelled } else s.snapshot)
    s _
  split
  · have houtcome : ({ s.snapshot with outcome := .cancelled } : FlowSnapshot).outcome
        ≠ .complete := FlowOutcome.noConfusion
    have hcurrent : ({ s.snapshot with outcome := .cancelled } : FlowSnapshot).current = none := rfl
    refine h _ _ ⟨hnow, hscope', fun hcomplete => absurd hcomplete houtcome⟩ rfl rfl ?_
    rw [hcurrent]
    exact fun _ hitem => by cases hitem
  · exact h _ _ ⟨hnow, hscope', hnow.complete⟩ rfl rfl fun _ hcurrent => hcurrent

/-- A publication leaves the flow idle, with the steps as observed but for the result that is
told. -/
theorem wpS_publish {result : Option (SetupStep × StepResponse)}
    {Q : Unit → OnboardingFlow → FlowWorld E → Prop} (hidle : Idle s t)
    (h : ∀ s' t', Idle s' t' → t'.view.scope = t.view.scope → s'.waitingStep = s.waitingStep →
      s'.snapshot.steps = withResult s.observed result → Q () s' t') :
    wpS (flowContract E) (publish result) Q Never s t := by
  refine Program.wpS_bind.mpr (Program.wpS_get.mpr ?_)
  refine Program.wpS_bind.mpr (wpS_publishCall hidle.toUnattempted hidle.observed ?_ ?_)
  · rw [hidle.latest]
    intro snapshot hsnapshot
    cases hsnapshot
    exact ⟨rfl, Nat.lt_succ_self _⟩
  intro outcome t' hidle' hscope
  exact Program.wpS_modify.mpr (h _ t' hidle' hscope rfl rfl)

/-- With what was inspected just now. -/
theorem wpS_reinspect (hidle : Idle s t) :
    wpS (flowContract E) reinspect (Ended t.view.scope) Never s t := by
  refine Program.wpS_bind.mpr (wpS_inspect hidle fun observed t₁ hidle₁ hscope₁ => ?_)
  refine Program.wpS_bind.mpr (Program.wpS_modify.mpr ?_)
  refine Program.wpS_bind.mpr (wpS_publish hidle₁ fun s₂ t₂ hidle₂ hscope₂ _ _ => ?_)
  rw [← hscope₁, ← hscope₂]
  exact wpS_currentSnapshot hidle₂ fun _ _ hended _ _ _ => hended

/-- A publication and the snapshot after it end the scope. -/
theorem wpS_publishThenSnapshot {result : Option (SetupStep × StepResponse)} (hidle : Idle s t) :
    wpS (flowContract E) (do publish result; currentSnapshot) (Ended t.view.scope) Never s t := by
  refine Program.wpS_bind.mpr (wpS_publish hidle fun s₁ t₁ hidle₁ hscope₁ _ _ => ?_)
  rw [← hscope₁]
  exact wpS_currentSnapshot hidle₁ fun _ _ hended _ _ _ => hended

/-- A flow at rest ends its scope with the snapshot it has. -/
theorem wpS_snapshot (hidle : Idle s t) :
    wpS (flowContract E) currentSnapshot (Ended t.view.scope) Never s t :=
  wpS_currentSnapshot hidle fun _ _ hended _ _ _ => hended

/-- Waiting for the lease: it is gone through with, or the step that waits is told why it is
blocked. -/
theorem wpS_awaitLock {step : SetupStep} (hidle : Idle s t) :
    wpS (flowContract E) (awaitLock step) (Ended t.view.scope) Never s t := by
  refine Program.wpS_bind.mpr (wpS_acquire hidle fun r t₁ hidle₁ hscope₁ => ?_)
  rw [← hscope₁]
  cases r with
  | ok _ =>
    refine Program.wpS_bind.mpr (wpS_relock hidle₁ ?_ ?_)
    · intro t₂ hidle₂ hscope₂
      rw [← hscope₂]
      exact wpS_snapshot hidle₂
    · intro t₂ hidle₂ hscope₂
      rw [← hscope₂]
      exact Program.wpS_bind.mpr (Program.wpS_modify.mpr (wpS_reinspect hidle₂))
  | error error =>
    show wpS _ (blocked step error) _ _ s t₁
    -- a reason that is already told is not told again
    unfold blocked
    split
    · exact wpS_publishThenSnapshot hidle₁
    · exact wpS_snapshot hidle₁

/-- A refresh inspects again, or goes on waiting, or does nothing once the flow has closed. -/
theorem wpS_refresh (hidle : Idle s t) :
    wpS (flowContract E) refresh (Ended t.view.scope) Never s t := by
  refine Program.wpS_bind.mpr (wpS_isClosed hidle fun closed t₁ hidle₁ hscope₁ => ?_)
  rw [← hscope₁]
  cases closed with
  | true => exact wpS_snapshot hidle₁
  | false =>
    refine Program.wpS_bind.mpr (Program.wpS_get.mpr ?_)
    cases s.waitingStep with
    | some step => exact wpS_awaitLock hidle₁
    | none => exact wpS_reinspect hidle₁

/-! ### Execution -/

/-- What an operation has done besides attempts is noted in the rest of the scope. -/
def SameScope (scope scope' : FlowScope) : Prop :=
  scope'.operation = scope.operation ∧ scope'.stale = scope.stale
    ∧ scope'.observedBefore = scope.observedBefore

/-- What `progress` may do during an attempt: it may fail, and then it says so. -/
def Reports (report : Option E → FlowProgress → FlowM E (Option E)) : Prop :=
  ∀ error event (s : OnboardingFlow) (t : FlowWorld E), Attempting s t →
    wpS (flowContract E) (report error event)
      (fun error' s' t' => s' = s ∧ Attempting s t' ∧ SameScope t.view.scope t'.view.scope
        ∧ t'.view.scope.attempted = t.view.scope.attempted
        ∧ (error' = none → error = none ∧ t'.view.scope.failed = t.view.scope.failed)) Never s t

/-- A report of the progress: the first one that fails cancels the attempt, and nothing is
reported after it. -/
theorem reports_reportProgress : Reports (E := E) reportProgress := by
  intro error event s t hattempting
  cases error with
  | some failure => exact ⟨rfl, hattempting, ⟨rfl, rfl, rfl⟩, rfl, nofun⟩
  | none =>
    refine Program.wpS_bind.mpr (wpS_progress hattempting ?_ ?_)
    · intro t₁ h₁ hscope₁
      refine ⟨rfl, h₁, ?_, ?_, fun _ => ⟨rfl, ?_⟩⟩
      · rw [hscope₁]
        exact ⟨rfl, rfl, rfl⟩
      · rw [hscope₁]
      · rw [hscope₁]
    · intro failure t₁ h₁ hscope₁
      refine Program.wpS_bind.mpr (wpS_cancel h₁ fun _ t₂ h₂ hscope₂ => ?_)
      refine ⟨rfl, h₂, ?_, ?_, nofun⟩
      · rw [hscope₂, hscope₁]
        exact ⟨rfl, rfl, rfl⟩
      · rw [hscope₂, hscope₁]

/-- A notification never fails. -/
theorem reports_notify : Reports (E := E) notify := by
  intro error event s t hattempting
  refine Program.wpS_bind.mpr (wpS_notify hattempting fun t₁ h₁ hscope₁ => ?_)
  refine ⟨rfl, h₁, ?_, ?_, fun hnone => ⟨hnone, ?_⟩⟩
  · rw [hscope₁]
    exact ⟨rfl, rfl, rfl⟩
  · rw [hscope₁]
  · rw [hscope₁]

/-- All events of a step are delivered in the same scope; without an error none of the reports
failed. -/
theorem wpS_deliver {report : Option E → FlowProgress → FlowM E (Option E)}
    (hreport : Reports report) (token : FlowToken) (step : SetupStep) (error : Option E)
    (events : List StepResponse) (hattempting : Attempting s t) :
    wpS (flowContract E) (deliver report token step error events)
      (fun error' s' t' => s' = s ∧ Attempting s t' ∧ SameScope t.view.scope t'.view.scope
        ∧ t'.view.scope.attempted = t.view.scope.attempted
        ∧ (error' = none → error = none ∧ t'.view.scope.failed = t.view.scope.failed)) Never s t := by
  induction events generalizing error t with
  | nil => exact ⟨rfl, hattempting, ⟨rfl, rfl, rfl⟩, rfl, fun hnone => ⟨hnone, rfl⟩⟩
  | cons response events ih =>
    refine Program.wpS.bind (hreport error ⟨token, step, response⟩ s t hattempting) ?_
    rintro error₁ _ t₁ ⟨rfl, h₁, ⟨hoperation, hstale, hbefore⟩, hattempted, hnone₁⟩
    refine Program.wpS.mono ?_ (fun _ _ _ h => h) (ih error₁ h₁)
    rintro error₂ s₂ t₂ ⟨hsame, h₂, ⟨hoperation', hstale', hbefore'⟩, hattempted', hnone₂⟩
    refine ⟨hsame, h₂, ⟨hoperation'.trans hoperation, hstale'.trans hstale,
      hbefore'.trans hbefore⟩, hattempted'.trans hattempted, fun hnone => ?_⟩
    obtain ⟨hnone', hfailed'⟩ := hnone₂ hnone
    obtain ⟨hnone'', hfailed⟩ := hnone₁ hnone'
    exact ⟨hnone'', hfailed'.trans hfailed⟩

/-- A step whose helper may still be at work is not gone on with. -/
theorem isBusy_pauses {response : StepResponse} (h : FlowControl.isBusy response = true) :
    satisfied response = false ∧ response.isActionRequired = false := by
  cases response with
  | actionRequired explanation requiresAuthorization =>
    simp [FlowControl.isBusy, StepResponse.recovery] at h
  | complete => simp [FlowControl.isBusy, StepResponse.recovery] at h
  | notApplicable => simp [FlowControl.isBusy, StepResponse.recovery] at h
  | _ => exact ⟨rfl, rfl⟩

/-- Where the execution of a step ends. -/
structure Executed (scope : FlowScope) (step : SetupStep) (snapshot : FlowSnapshot)
    (s : OnboardingFlow) (t : FlowWorld E) : Prop where
  idle : Idle s t
  truthful : Truthful snapshot t
  same : SameScope scope t.view.scope
  attempted : ∀ other ∈ t.view.scope.attempted, other ∈ scope.attempted ∨ other = step
  waiting : s.waitingStep = none ∨ pauses step snapshot = true

/-- After an execution the attempt is settled and its result published; whoever is left waiting
has paused. -/
theorem wpS_afterExecution {step : SetupStep} {response : StepResponse}
    (hattempting : Attempting s t) (hwaiting : s.waitingStep = none) :
    wpS (flowContract E) (afterExecution step response)
      (fun snapshot s' t' => Ended t.view.scope snapshot s' t'
        ∧ (s'.waitingStep = none ∨ pauses step snapshot = true)) Never s t := by
  -- however the attempt has ended, its result is published
  have hrest : ∀ (s₁ : OnboardingFlow) (t₁ : FlowWorld E), Idle s₁ t₁ →
      t₁.view.scope = t.view.scope →
      (s₁.waitingStep = none ∨ FlowControl.isBusy response = true) →
      wpS (flowContract E)
        (do
          let observed ← inspect
          modify ({ · with observed })
          publish (if satisfied response then none else some (step, response))
          currentSnapshot)
        (fun snapshot s' t' => Ended t.view.scope snapshot s' t'
          ∧ (s'.waitingStep = none ∨ pauses step snapshot = true)) Never s₁ t₁ := by
    intro s₁ t₁ hidle₁ hscope₁ hbusy
    refine Program.wpS_bind.mpr (wpS_inspect hidle₁ fun observed t₂ hidle₂ hscope₂ => ?_)
    refine Program.wpS_bind.mpr (Program.wpS_modify.mpr ?_)
    refine Program.wpS_bind.mpr (wpS_publish hidle₂ fun s₃ t₃ hidle₃ hscope₃ hsame hsteps => ?_)
    refine wpS_currentSnapshot hidle₃ fun snapshot t₄ hended hsteps' _ _ => ?_
    rw [hscope₃, hscope₂, hscope₁] at hended
    refine ⟨hended, ?_⟩
    -- a step that is busy waits, and pauses the run with its own response
    rcases hbusy with hnone | hbusy
    · exact Or.inl (hsame.trans hnone)
    · obtain ⟨hunsatisfied, hother⟩ := isBusy_pauses hbusy
      have hget : snapshot.steps.get step = response := by
        rw [hsteps', hsteps, if_neg (by rw [hunsatisfied]; nofun)]
        exact StepResponses.get_set_self _ _ _
      right
      simp [pauses, hget, hunsatisfied, hother]
  refine Program.wpS_bind.mpr (wpS_settle step hattempting ?_ ?_)
  · intro t₁ hidle₁ hscope₁
    exact hrest s t₁ hidle₁ hscope₁ (Or.inl hwaiting)
  · intro hbusy t₁ hidle₁ hscope₁
    refine Program.wpS_bind.mpr (Program.wpS_modify.mpr ?_)
    exact hrest _ t₁ hidle₁ hscope₁ (Or.inr hbusy)

/-- **A step is executed**, or it is not because the flow was closed. -/
theorem wpS_executeCurrent {report : Option E → FlowProgress → FlowM E (Option E)}
    (hreport : Reports report) {step : SetupStep} {token : FlowToken} {answer : StepAnswer}
    (hidle : Idle s t) (hwaiting : s.waitingStep = none)
    (hfailed : t.view.scope.failed = false) (hstale : t.view.scope.stale = false)
    (hcurrent : s.snapshot.current.map Prod.fst = some step)
    (honce : step ∉ t.view.scope.attempted)
    (hobserved : t.view.scope.Advancing → some s.observed = t.view.scope.observedBefore) :
    wpS (flowContract E) (executeCurrent report step token answer)
      (fun r s' t' => Executed t.view.scope step r.1 s' t'
        ∧ (r.2 = none → t'.view.scope.failed = false)) Never s t := by
  refine Program.wpS_bind.mpr
    (wpS_admitStep hidle hwaiting hfailed hstale hcurrent honce hobserved ?_ ?_)
  · intro t₁ hidle₁ hscope₁
    refine Program.wpS_bind.mpr (wpS_currentSnapshot hidle₁ fun snapshot t₂ hended _ _ _ => ?_)
    have hscope₂ := hended.scope.trans hscope₁
    refine ⟨⟨hended.idle, hended.truthful, ?_, ?_, Or.inl hwaiting⟩, fun _ => ?_⟩
    · rw [hscope₂]
      exact ⟨rfl, rfl, rfl⟩
    · rw [hscope₂]
      exact fun other hother => Or.inl hother
    · rw [hscope₂]
      exact hfailed
  · intro t₁ h₁ hadmitted hscope₁
    refine Program.wpS_bind.mpr (wpS_execute h₁ hadmitted hcurrent fun events t₂ h₂ hscope₂ => ?_)
    refine Program.wpS.bind (wpS_deliver hreport token step none events h₂) ?_
    rintro error _ t₃ ⟨rfl, h₃, hsame₃, hattempted₃, hnone₃⟩
    refine Program.wpS_bind.mpr (wpS_returned h₃ fun response t₄ h₄ hscope₄ => ?_)
    refine Program.wpS.bind (wpS_afterExecution h₄ hwaiting) ?_
    rintro snapshot s₅ t₅ ⟨hended, hpauses⟩
    have hscope₅ := hended.scope.trans hscope₄
    rw [hscope₂, hscope₁] at hsame₃ hattempted₃ hnone₃
    refine ⟨⟨hended.idle, hended.truthful, ?_, ?_, hpauses⟩, fun hnone => ?_⟩
    · rw [hscope₅]
      exact hsame₃
    · rw [hscope₅, hattempted₃]
      intro other hother
      simpa using hother
    · rw [hscope₅, (hnone₃ hnone).2]
      exact hfailed

/-! ### Running -/

/-- What is handed to the caller. -/
def Truthfully (result : Except E FlowSnapshot) (t : FlowWorld E) : Prop :=
  ∀ snapshot, result = .ok snapshot → Truthful snapshot t

/-- There are three steps. -/
theorem length_of_nodup {attempted : List SetupStep} (h : attempted.Nodup) :
    attempted.length ≤ 3 := by
  have hsub : attempted ⊆ [.pairing, .services, .plasma] := by
    intro step _
    cases step <;> simp
  exact (List.subperm_of_subset h hsub).length_le

/-- **The loop.** Every round attempts another step. -/
theorem wpS_runLoop (rounds : Nat) (attempted : List SetupStep) (hidle : Idle s t)
    (hrounds : attempted.length + rounds = 4) (hnodup : attempted.Nodup)
    (hwaiting : s.waitingStep = none) (hfailed : t.view.scope.failed = false)
    (hstale : t.view.scope.stale = false) (hadvancing : ¬t.view.scope.Advancing)
    (hattempted : ∀ step ∈ t.view.scope.attempted, step ∈ attempted) :
    wpS (flowContract E) (runLoop rounds attempted)
      (fun result s' t' => Idle s' t' ∧ Truthfully result t') Never s t := by
  induction rounds generalizing attempted s t with
  | zero =>
    -- four steps are all there are, so no round is left before the loop has ended
    have hle := length_of_nodup hnodup
    omega
  | succ rounds ih =>
    refine Program.wpS_bind.mpr (wpS_currentSnapshot hidle fun snapshot t₁ hended _ _ hcurrent => ?_)
    have hscope₁ := hended.scope
    have hdone : wpS (flowContract E) (pure (.ok snapshot) : FlowM E (Except E FlowSnapshot))
        (fun result s' t' => Idle s' t' ∧ Truthfully result t') Never s t₁ := by
      refine ⟨hended.idle, fun snapshot' hsnapshot => ?_⟩
      cases hsnapshot
      exact hended.truthful
    -- only a current item that asks for an action is executed
    cases hitem : snapshot.current with
    | none => exact hdone
    | some item =>
      obtain ⟨step, response⟩ := item
      have hfirst : s.snapshot.current.map Prod.fst = some step := by
        rw [hcurrent _ hitem]
        rfl
      cases response with
      | actionRequired explanation requiresAuthorization =>
        show wpS _ (if _ then _ else _) _ _ s t₁
        split
        -- a step tried before is not tried again
        · refine Program.wpS_bind.mpr (wpS_publish hended.idle fun s₂ t₂ hidle₂ _ _ _ => ?_)
          refine Program.wpS_bind.mpr (wpS_currentSnapshot hidle₂ fun snapshot' t₃ hended' _ _ _ => ?_)
          refine ⟨hended'.idle, fun snapshot'' hsnapshot => ?_⟩
          cases hsnapshot
          exact hended'.truthful
        · rename_i hnew
          refine Program.wpS.bind (wpS_executeCurrent reports_reportProgress hended.idle hwaiting
            ?_ ?_ hfirst ?_ ?_) ?_
          · rw [hscope₁]
            exact hfailed
          · rw [hscope₁]
            exact hstale
          · rw [hscope₁]
            exact fun hold => hnew (hattempted step hold)
          · rw [hscope₁]
            exact fun hyes => absurd hyes hadvancing
          · rintro ⟨result, error⟩ s₂ t₂ ⟨hexecuted, hnone⟩
            cases error with
            | some failure => exact ⟨hexecuted.idle, fun _ hsnapshot => by cases hsnapshot⟩
            | none =>
              show wpS _ (if _ then _ else _) _ _ s₂ t₂
              split
              · refine ⟨hexecuted.idle, fun snapshot' hsnapshot => ?_⟩
                cases hsnapshot
                exact hexecuted.truthful
              · rename_i hgoing
                obtain ⟨hoperation, hstale₂, hbefore⟩ := hexecuted.same
                rw [hscope₁] at hoperation hstale₂
                -- the next round knows one attempted step more
                refine ih (attempted ++ [step]) hexecuted.idle ?_ ?_ ?_ (hnone rfl) ?_ ?_ ?_
                · rw [List.length_append]
                  simp only [List.length_cons, List.length_nil]
                  omega
                · refine List.nodup_append.mpr ⟨hnodup, List.nodup_singleton step, ?_⟩
                  intro other hother last hlast hequal
                  rw [List.mem_singleton.mp hlast] at hequal
                  exact hnew (hequal ▸ hother)
                · exact hexecuted.waiting.resolve_right hgoing
                · exact hstale₂.trans hstale
                · rintro ⟨token, answer, hadvance⟩
                  exact hadvancing ⟨token, answer, hoperation.symm.trans hadvance⟩
                · intro other hother
                  rcases hexecuted.attempted other hother with hold | rfl
                  · rw [hscope₁] at hold
                    exact List.mem_append_left _ (hattempted other hold)
                  · exact List.mem_append_right _ (List.mem_singleton_self _)
      | _ => exact hdone

/-- A snapshot that is returned is truthful. -/
theorem wpS_okSnapshot {program : FlowM E FlowSnapshot} {scope : FlowScope}
    (h : wpS (flowContract E) program (Ended scope) Never s t) :
    wpS (flowContract E) (do return .ok (← program) : FlowM E (Except E FlowSnapshot))
      (fun result s' t' => Idle s' t' ∧ Truthfully result t') Never s t := by
  refine Program.wpS.bind h fun snapshot s' t' hended => ⟨hended.idle, fun snapshot' hsnapshot => ?_⟩
  cases hsnapshot
  exact hended.truthful

/-- What was inspected is what was observed, or it is published. -/
theorem wpS_reobserve {Q : Bool → OnboardingFlow → FlowWorld E → Prop} (hidle : Idle s t)
    (hsame : ∀ t', Idle s t' → t'.view.scope = t.view.scope → Q false s t')
    (hother : ∀ s' t', Idle s' t' → t'.view.scope = t.view.scope →
      s'.waitingStep = s.waitingStep → Q true s' t') :
    wpS (flowContract E) reobserve Q Never s t := by
  refine Program.wpS_bind.mpr (wpS_inspect hidle fun fresh t₁ hidle₁ hscope₁ => ?_)
  refine Program.wpS_bind.mpr (Program.wpS_get.mpr ?_)
  show wpS _ (if _ then _ else _) Q Never s t₁
  split
  · refine Program.wpS_bind.mpr (Program.wpS_modify.mpr ?_)
    refine Program.wpS_bind.mpr (wpS_publish hidle₁ fun s₂ t₂ hidle₂ hscope₂ hwaiting _ => ?_)
    exact hother s₂ t₂ hidle₂ (hscope₂.trans hscope₁) hwaiting
  · rename_i hequal
    rw [ne_eq, not_not] at hequal
    subst hequal
    exact hsame t₁ hidle₁ hscope₁

/-- A run starts with nothing attempted, and goes through the steps from the first snapshot on. -/
theorem wpS_startRun (hidle : Idle s t) (hwaiting : s.waitingStep = none)
    (hfailed : t.view.scope.failed = false) (hstale : t.view.scope.stale = false)
    (hadvancing : ¬t.view.scope.Advancing) (hattempted : t.view.scope.attempted = []) :
    wpS (flowContract E) startRun (fun result s' t' => Idle s' t' ∧ Truthfully result t')
      Never s t := by
  refine Program.wpS_bind.mpr (wpS_currentSnapshot hidle fun snapshot t₁ hended _ _ _ => ?_)
  have hloop : ∀ (s₂ : OnboardingFlow) (t₂ : FlowWorld E), Idle s₂ t₂ →
      t₂.view.scope = t₁.view.scope → s₂.waitingStep = s.waitingStep →
      wpS (flowContract E) (runLoop 4 [])
        (fun result s' t' => Idle s' t' ∧ Truthfully result t') Never s₂ t₂ := by
    intro s₂ t₂ hidle₂ hscope₂ hsame
    have hscope := hscope₂.trans hended.scope
    refine wpS_runLoop 4 [] hidle₂ rfl List.nodup_nil (hsame.trans hwaiting) ?_ ?_ ?_ ?_
    · rw [hscope]
      exact hfailed
    · rw [hscope]
      exact hstale
    · rw [hscope]
      exact hadvancing
    · rw [hscope, hattempted]
      exact fun _ hstep => hstep
  -- the run goes on only if the snapshot is ready, and observes once more before it does
  split
  · refine Program.wpS_bind.mpr (wpS_reobserve hended.idle ?_ ?_)
    · exact fun t₂ hidle₂ hscope₂ => hloop s t₂ hidle₂ hscope₂ rfl
    · exact fun s₂ t₂ hidle₂ hscope₂ hsame => hloop s₂ t₂ hidle₂ hscope₂ hsame
  · exact wpS_okSnapshot (wpS_snapshot hended.idle)

/-- **`try_run`**, with a token that is not stale. -/
theorem wpS_tryRun {token : FlowToken} (hidle : Idle s t)
    (hfailed : t.view.scope.failed = false)
    (hstale : token = s.snapshot.token → t.view.scope.stale = false)
    (hadvancing : ¬t.view.scope.Advancing) :
    wpS (flowContract E) (tryRun token) (fun result s' t' => Idle s' t' ∧ Truthfully result t')
      Never s t := by
  refine Program.wpS_bind.mpr (wpS_entered hidle fun t₁ hidle₁ hscope₁ => ?_)
  refine Program.wpS_bind.mpr (Program.wpS_get.mpr ?_)
  split
  · exact wpS_okSnapshot (wpS_snapshot hidle₁)
  · rename_i htoken
    rw [ne_eq, not_not] at htoken
    refine Program.wpS_bind.mpr (wpS_isClosed hidle₁ fun closed t₂ hidle₂ hscope₂ => ?_)
    have hscope := hscope₂.trans hscope₁
    cases closed with
    | true => exact wpS_okSnapshot (wpS_snapshot hidle₂)
    | false =>
      refine Program.wpS_bind.mpr (Program.wpS_get.mpr ?_)
      cases hwaiting : s.waitingStep with
      | some step => exact wpS_okSnapshot (wpS_refresh hidle₂)
      | none =>
        refine wpS_startRun hidle₂ hwaiting ?_ ?_ ?_ ?_
        · rw [hscope]
          exact hfailed
        · rw [hscope]
          exact hstale htoken
        · rw [hscope]
          exact hadvancing
        · rw [hscope]

/-! ### Answering -/

/-- Where an answer ends, after one execution at most. -/
structure Answered (scope : FlowScope) (r : Advanced E) (s : OnboardingFlow) (t : FlowWorld E) :
    Prop where
  idle : Idle s t
  truthful : Truthful r.1 t
  same : SameScope scope t.view.scope
  failed : r.2.2 = none → t.view.scope.failed = false

/-- Where nothing was executed, nothing has failed either. -/
theorem wpS_unexecuted {program : FlowM E FlowSnapshot} {scope : FlowScope}
    (hfailed : scope.failed = false)
    (h : wpS (flowContract E) program (Ended scope) Never s t) :
    wpS (flowContract E) (unexecuted program) (Answered scope) Never s t := by
  refine Program.wpS.bind h fun snapshot s' t' hended => ⟨hended.idle, hended.truthful, ?_, fun _ => ?_⟩
  · rw [hended.scope]
    exact ⟨rfl, rfl, rfl⟩
  · rw [hended.scope]
    exact hfailed

/-- Advancing executes the current step only for the latest token, while the flow is open, nothing
waits, and the step is still current after one more observation. -/
theorem wpS_advanceChecked {report : Option E → FlowProgress → FlowM E (Option E)}
    (hreport : Reports report) {token : FlowToken} {answer : StepAnswer} (hidle : Idle s t)
    (hfailed : t.view.scope.failed = false)
    (hstale : token = s.snapshot.token → t.view.scope.stale = false)
    (hattempted : t.view.scope.attempted = [])
    (hobserved : t.view.scope.observedBefore = some s.observed) :
    wpS (flowContract E) (advanceChecked report token answer) (Answered t.view.scope) Never s t := by
  refine Program.wpS_bind.mpr (Program.wpS_get.mpr ?_)
  split
  · exact wpS_unexecuted hfailed (wpS_snapshot hidle)
  rename_i htoken
  rw [ne_eq, not_not] at htoken
  refine Program.wpS_bind.mpr (wpS_isClosed hidle fun closed t₁ hidle₁ hscope₁ => ?_)
  rw [← hscope₁] at hfailed hstale hattempted hobserved ⊢
  cases closed with
  | true => exact wpS_unexecuted hfailed (wpS_snapshot hidle₁)
  | false =>
    refine Program.wpS_bind.mpr (Program.wpS_get.mpr ?_)
    -- a step that waits is only refreshed
    cases hwaiting : s.waitingStep with
    | some step => exact wpS_unexecuted hfailed (wpS_refresh hidle₁)
    | none =>
      refine Program.wpS_bind.mpr (wpS_reobserve hidle₁ ?_ ?_)
      · intro t₂ hidle₂ hscope₂
        rw [← hscope₂] at hfailed hstale hattempted hobserved ⊢
        refine Program.wpS_bind.mpr (Program.wpS_get.mpr ?_)
        -- the answer is executed only for the step the new observation shows
        cases hcurrent : s.snapshot.current with
        | none => exact wpS_unexecuted hfailed (wpS_snapshot hidle₂)
        | some item =>
          obtain ⟨step, response⟩ := item
          show wpS _ (if _ then _ else _) _ _ s t₂
          split
          · refine Program.wpS.bind (wpS_executeCurrent hreport hidle₂ hwaiting hfailed
              (hstale htoken) (by rw [hcurrent]; rfl) ?_ fun _ => hobserved.symm) ?_
            · rw [hattempted]
              nofun
            · rintro ⟨snapshot, error⟩ s₃ t₃ ⟨hexecuted, hnone⟩
              exact ⟨hexecuted.idle, hexecuted.truthful, hexecuted.same, hnone⟩
          · exact wpS_unexecuted hfailed (wpS_snapshot hidle₂)
      · intro s₂ t₂ hidle₂ hscope₂ _
        rw [← hscope₂] at hfailed ⊢
        exact wpS_unexecuted hfailed (wpS_snapshot hidle₂)

/-- Advancing until a pause: the step that was asked for, and then a run through what follows it.
-/
theorem wpS_tryAdvanceUntilPause {token : FlowToken} {answer : StepAnswer} (hidle : Idle s t)
    (hfailed : t.view.scope.failed = false)
    (hstale : token = s.snapshot.token → t.view.scope.stale = false)
    (hadvancing : ¬t.view.scope.Advancing) (hattempted : t.view.scope.attempted = [])
    (hobserved : t.view.scope.observedBefore = some s.observed) :
    wpS (flowContract E) (tryAdvanceUntilPause token answer)
      (fun result s' t' => Idle s' t' ∧ Truthfully result t') Never s t := by
  refine Program.wpS_bind.mpr (Program.wpS_get.mpr ?_)
  split
  · exact wpS_okSnapshot (wpS_snapshot hidle)
  rename_i htoken
  rw [ne_eq, not_not] at htoken
  refine Program.wpS_bind.mpr (wpS_currentSnapshot hidle fun snapshot t₁ hended _ _ _ => ?_)
  have hscope₁ := hended.scope
  rw [← hscope₁] at hfailed hstale hadvancing hattempted hobserved
  refine Program.wpS.bind (wpS_advanceChecked reports_reportProgress hended.idle hfailed hstale
    hattempted hobserved) ?_
  -- a failed report ends the call with that failure and no snapshot
  rintro ⟨snapshot', executed, error⟩ s₂ t₂ hanswered
  cases error with
  | some failure => exact ⟨hanswered.idle, fun _ hsnapshot => by cases hsnapshot⟩
  | none =>
    show wpS _ (if _ then _ else _) _ _ s₂ t₂
    split
    · obtain ⟨hoperation, hstale₂, -⟩ := hanswered.same
      refine wpS_tryRun hanswered.idle (hanswered.failed rfl) (fun _ => ?_) ?_
      · exact hstale₂.trans (hstale htoken)
      · rintro ⟨token', answer', hadvance⟩
        exact hadvancing ⟨token', answer', hoperation.symm.trans hadvance⟩
    · refine ⟨hanswered.idle, fun snapshot'' hsnapshot => ?_⟩
      cases hsnapshot
      exact hanswered.truthful

end OnboardingFlow

/-! ## Histories -/

/-- A log stays lawful with one more record that is allowed after it. -/
theorem FlowLawful.concat {log : List (FlowRecord E)} (h : FlowLawful log) {x : FlowRecord E}
    (hx : Allowed (flowView log) x) : FlowLawful (log ++ [x]) := by
  intro before y after hsplit
  rcases List.eq_nil_or_concat after with rfl | ⟨rest, last, rfl⟩
  · obtain ⟨rfl, hlast⟩ := List.append_inj' hsplit rfl
    rw [← (List.cons.inj hlast).1]
    exact hx
  · rw [List.concat_eq_append, ← List.cons_append, ← List.append_assoc] at hsplit
    obtain ⟨hinit, -⟩ := List.append_inj' hsplit rfl
    exact h before y rest hinit

/-- A move of others is always allowed. -/
theorem FlowLawful.move {world : FlowWorld E} (h : FlowLawful world.log) (move : FlowMove) :
    FlowLawful (world.move move).log := by
  cases move with
  | cancel => exact h.concat trivial
  | gate use => exact h

/-- A lawful log stays lawful over any moves of the world. -/
theorem FlowLawful.moves {world : FlowWorld E} (h : FlowLawful world.log)
    (between : List FlowMove) : FlowLawful (world.moves between).log := by
  induction between generalizing world with
  | nil => exact h
  | cons move between ih => exact ih (h.move move)

/-- A permitted call is in order, whatever happens before it. -/
theorem FlowLawful.handle {env : FlowEnvironment E} {world : FlowWorld E}
    (h : FlowLawful world.log) (e : FlowCall) (hpermits : (flowContract E).permits world e) :
    FlowLawful (world.handle env e).2.log
      ∧ (flowContract E).next world e (world.handle env e).1 (world.handle env e).2 :=
  ⟨(h.moves _).concat (hpermits _ _), _, _, rfl⟩

/-- The invariant of a history. -/
structure OnboardingInv (system : OnboardingSystem E) : Prop where
  lawful : FlowLawful system.world.log
  idle : Idle system.flow system.world

/-- **One operation**, from its specification: it comes to an end. -/
theorem OnboardingSystem.run_of_wpS {α : Type} {env : FlowEnvironment E}
    (system : OnboardingSystem E) {program : FlowM E α} {note : α → List (FlowRecord E)}
    {Q : α → OnboardingFlow → FlowWorld E → Prop} (hlawful : FlowLawful system.world.log)
    (h : Program.wpS (flowContract E) program Q OnboardingFlow.Never system.flow system.world) :
    ∃ a s t, Q a s t ∧ FlowLawful t.log
      ∧ OnboardingSystem.run env system program note = ⟨s, { t with log := t.log ++ note a }⟩ := by
  have hhandle : ∀ (world : FlowWorld E) (e : FlowCall), FlowLawful world.log →
      (flowContract E).permits world e → FlowLawful (world.handle env e).2.log
        ∧ (flowContract E).next world e (world.handle env e).1 (world.handle env e).2 :=
    fun world e hgood hpermits => FlowLawful.handle hgood e hpermits
  obtain ⟨hgood, hpost⟩ := Program.wp.execKeeping id hhandle hlawful h
  unfold OnboardingSystem.run
  generalize Program.exec (FlowWorld.handle env) (program.run.run system.flow) system.world
    = result at hgood hpost
  obtain ⟨⟨outcome, flow⟩, world⟩ := result
  cases outcome with
  | ok a => exact ⟨a, flow, world, hpost, hgood, rfl⟩
  | error panic => exact absurd hpost id

/-- What the caller gets. -/
theorem OnboardingInv.answered {flow : OnboardingFlow} {world : FlowWorld E}
    {result : Except E FlowSnapshot} (hlawful : FlowLawful world.log) (hidle : Idle flow world)
    (htruthful : OnboardingFlow.Truthfully result world) :
    OnboardingInv ⟨flow, { world with log := world.log ++ [.answered result] }⟩ := by
  refine ⟨hlawful.concat ?_, hidle.of_eq rfl ?_⟩
  · cases result with
    | error failure => trivial
    | ok snapshot =>
      intro haccepted hcomplete
      have hopen := (htruthful snapshot rfl hcomplete).2
      rw [hidle.accepted haccepted] at hopen
      cases hopen
  · exact flowView_concat world.log _

/-- What holds when an operation begins. -/
theorem Idle.asked {flow : OnboardingFlow} {world : FlowWorld E} (h : Idle flow world)
    (operation : FlowOperation) :
    Idle flow { world with log := world.log ++ [.asked operation] } := by
  have hview : FlowWorld.view { world with log := world.log ++ [.asked operation] }
      = world.view.note (.asked operation : FlowRecord E) := flowView_concat world.log _
  refine ⟨⟨h.attempt, h.lease, h.cancelled, ?_, h.complete⟩, ?_, ?_⟩
  · rw [hview]
    exact h.accepted
  · rw [hview]
    exact h.latest
  · rw [hview]
    exact h.observed

/-- Every operation keeps the contract from where it begins. -/
theorem wpS_program (operation : FlowOperation) {s : OnboardingFlow} {t : FlowWorld E}
    (hidle : Idle s t) (hoperation : t.view.scope.operation = some operation)
    (hfailed : t.view.scope.failed = false)
    (hstale : ∀ token ∈ operation.token, token = s.snapshot.token → t.view.scope.stale = false)
    (hattempted : t.view.scope.attempted = [])
    (hobserved : t.view.scope.observedBefore = some s.observed) :
    Program.wpS (flowContract E) operation.program
      (fun result s' t' => Idle s' t' ∧ OnboardingFlow.Truthfully result t')
      OnboardingFlow.Never s t := by
  cases operation with
  | refresh => exact OnboardingFlow.wpS_okSnapshot (OnboardingFlow.wpS_refresh hidle)
  | tryRun token =>
    refine OnboardingFlow.wpS_tryRun hidle hfailed (hstale token rfl) ?_
    rintro ⟨token', answer, hadvance⟩
    rw [hoperation] at hadvance
    cases hadvance
  | advance token answer =>
    refine Program.wpS_bind.mpr (Program.wpS.bind (OnboardingFlow.wpS_advanceChecked
      OnboardingFlow.reports_notify hidle hfailed (hstale token rfl) hattempted hobserved) ?_)
    rintro ⟨snapshot, executed, error⟩ s' t' hanswered
    refine ⟨hanswered.idle, fun snapshot' hsnapshot => ?_⟩
    cases hsnapshot
    exact hanswered.truthful
  | tryAdvanceUntilPause token answer =>
    refine OnboardingFlow.wpS_tryAdvanceUntilPause hidle hfailed (hstale token rfl) ?_ hattempted
      hobserved
    rintro ⟨token', answer', hadvance⟩
    rw [hoperation] at hadvance
    cases hadvance

/-- An operation that is asked for is answered, and all is in order. -/
theorem OnboardingInv.ask {env : FlowEnvironment E} {system : OnboardingSystem E}
    (h : OnboardingInv system) (operation : FlowOperation) :
    OnboardingInv (onboardingStep env system (.ask operation))
      ∧ ∃ log result, (onboardingStep env system (.ask operation)).world.log
        = log ++ [.answered result] := by
  have hview : FlowWorld.view (E := E)
      ⟨system.world.control, system.world.log ++ [.asked operation]⟩
      = system.world.view.note (.asked operation : FlowRecord E) :=
    flowView_concat system.world.log _
  have hstale : ∀ token ∈ operation.token, token = system.flow.snapshot.token →
      (FlowWorld.view (E := E)
        ⟨system.world.control, system.world.log ++ [.asked operation]⟩).scope.stale = false := by
    intro token htoken hcurrent
    have hlatest : system.world.view.latest = some system.flow.snapshot := h.idle.latest
    rw [hview]
    show (operation.token.any fun token => _) = false
    rw [show operation.token = some token from htoken, Option.any_some, hlatest, hcurrent]
    simp
  have hprogram := wpS_program operation (h.idle.asked operation) (by rw [hview]; rfl)
    (by rw [hview]; rfl) hstale (by rw [hview]; rfl) (by rw [hview]; exact h.idle.observed)
  have hasked : FlowLawful (system.world.log ++ [.asked operation]) := h.lawful.concat trivial
  obtain ⟨result, s, t, ⟨hidle, htruthful⟩, hlawful, hrun⟩ := OnboardingSystem.run_of_wpS
    ⟨system.flow, ⟨system.world.control, system.world.log ++ [.asked operation]⟩⟩ hasked hprogram
  rw [onboardingStep, hrun]
  exact ⟨OnboardingInv.answered hlawful hidle htruthful, t.log, result, rfl⟩

/-- The flow is opened. -/
theorem OnboardingInv.new (env : FlowEnvironment E) (flow : Nat) (observed : StepResponses) :
    OnboardingInv (OnboardingSystem.run env (.new flow observed) OnboardingFlow.withBackend
      fun _ => []) := by
  let start : OnboardingSystem E := .new flow observed
  have hprogram : Program.wpS (flowContract E) OnboardingFlow.withBackend (fun _ => Idle)
      OnboardingFlow.Never start.flow
      start.world := by
    have hstart : Unattempted start.flow
        start.world :=
      ⟨rfl, fun _ _ => rfl, nofun, nofun, nofun⟩
    refine Program.wpS_bind.mpr (FlowM.wpS_call fun between answers => ⟨trivial, ?_⟩)
    have hnow := hstart.moves between
    have hsame := sameView_moves start.world between
    generalize start.world.moves between = t at hnow hsame ⊢
    have hview := view_respond t answers .inspect
    refine Program.wpS_bind.mpr (Program.wpS_modify.mpr ?_)
    refine Program.wpS_bind.mpr (Program.wpS_get.mpr ?_)
    refine Program.wpS_bind.mpr (FlowM.wpS_publishCall ⟨hnow.attempt, hnow.lease, hnow.cancelled, ?_,
      nofun⟩ ?_ ?_ ?_)
    · rw [hview]
      exact hnow.accepted
    · rw [hview]
      rfl
    · rw [hview]
      intro snapshot hsnapshot
      have hnone : t.view.latest = none := hsame.latest
      rw [show (t.view.noteCall _ _).latest = t.view.latest from rfl, hnone] at hsnapshot
      cases hsnapshot
    · exact fun outcome t' hidle _ => Program.wpS_modify.mpr hidle
  obtain ⟨a, s, t, hidle, hlawful, hrun⟩ := OnboardingSystem.run_of_wpS (.new flow observed)
    (fun before x after hsplit => by simp [OnboardingSystem.new] at hsplit) hprogram
  rw [hrun, List.append_nil]
  exact ⟨hlawful, hidle⟩

/-- **Run.** The invariant holds after any moves of others and any operations. -/
theorem OnboardingInv.onboardingRun (env : FlowEnvironment E) (flow : Nat)
    (observed : StepResponses) (steps : List OnboardingStep) :
    OnboardingInv (onboardingRun env flow observed steps) := by
  have hfrom : ∀ system : OnboardingSystem E, OnboardingInv system →
      OnboardingInv (steps.foldl (onboardingStep env) system) := by
    induction steps with
    | nil => exact fun _ h => h
    | cons step steps ih =>
      intro system h
      refine ih _ ?_
      cases step with
      | move move => exact ⟨h.lawful.move move, h.idle.moves [move]⟩
      | ask operation => exact (h.ask operation).1
  exact hfrom _ (OnboardingInv.new env flow observed)

/-- **Ownership and cancellation of the onboarding flow.** In every history every entry is in order:
a step is admitted and executed only by a flow that is open, holds its lease and was not cancelled,
and nothing is complete after a cancellation. Every operation comes to an end. -/
theorem flow_law (env : FlowEnvironment E) (flow : Nat) (observed : StepResponses)
    (steps : List OnboardingStep) :
    FlowLawful (onboardingRun env flow observed steps).world.log
      ∧ ∀ operation, ∃ log result,
        (onboardingRun env flow observed (steps ++ [.ask operation])).world.log
          = log ++ [.answered result] := by
  have h := OnboardingInv.onboardingRun env flow observed steps
  refine ⟨h.lawful, fun operation => ?_⟩
  have hlast : onboardingRun env flow observed (steps ++ [.ask operation])
      = onboardingStep env (onboardingRun env flow observed steps) (.ask operation) := by
    simp [onboardingRun]
  rw [hlast]
  exact (h.ask operation).2

end LgBuddy
