import LgBuddy.Machine.Mealy
import LgBuddy.Screen.Handlers

/-!
# LgBuddy — the session marker and the screen

The file `screen_off_by_us` says that LG Buddy has taken the screen and owes it back. It is
written through policy outcomes that the screen handlers apply on the way. Here it is compared,
over whole runs of the three operations, with what the TV answered.

* `ScreenConduct` — what one operation did and learnt, as far as the law speaks of it;
* `screenBook` — the contract of a handler alone with the marker file, which never fails;
* `OffLaw`, `TimedLaw`, `OnLaw` — what each of the three operations leaves behind;
* `wpS_runScreenOff`, `wpS_runTimedPowerOff`, `wpS_runScreenOn` — their specifications, over the
  conduct.
-/

namespace LgBuddy

open Program ScreenAction

/-! ## Conduct -/

/-- What an operation has done: the answers it got, and the TV commands in their order. `marker`
is the file as the operation has left it. -/
structure ScreenConduct where
  marker : Bool
  phases : List RuntimePhaseRead := []
  restores : List Bool := []
  inputs : List (Except TvError CurrentInput) := []
  blanks : List (Except TvError Unit) := []
  unblanks : List (Except TvError Unit) := []
  powerOffs : List (Except TvError Unit) := []
  setInputs : List (Except TvError Unit) := []
  commands : List ScreenCall := []

namespace ScreenConduct

/-- An answer, noted. -/
def learn (k : ScreenConduct) : (c : ScreenCall) → ScreenReply c → ScreenConduct
  | .machineSleepPending, r => { k with phases := k.phases ++ [r] }
  | .systemRestorePending, r => { k with restores := k.restores ++ [r] }
  | .currentInput _, r => { k with inputs := k.inputs ++ [r] }
  | .blank _, r => { k with blanks := k.blanks ++ [r] }
  | .unblank _, r => { k with unblanks := k.unblanks ++ [r] }
  | .powerOff _, r => { k with powerOffs := k.powerOffs ++ [r] }
  | .setInput _ _, r => { k with setInputs := k.setInputs ++ [r] }
  | .createMarker, .ok () => { k with marker := true }
  | .clearMarker, .ok () => { k with marker := false }
  | _, _ => k

def note (k : ScreenConduct) (c : ScreenCall) (r : ScreenReply c) : ScreenConduct :=
  let k' := k.learn c r
  if c.isTvCommand then { k' with commands := k'.commands ++ [c] } else k'

/-- A blank, or the power-off in its place, succeeded. -/
def tookScreen (k : ScreenConduct) : Prop := .ok () ∈ k.blanks ∨ .ok () ∈ k.powerOffs

/-- A query found the TV on something else than the configured input. -/
def sawOtherInput (k : ScreenConduct) (configured : HdmiInput) : Prop :=
  ∃ input, .ok input ∈ k.inputs ∧ input.isHdmi configured = false

/-- The first unblank succeeded, or the input was set again. The unblank inside an attempt to set
the input is no restore by itself. -/
def restoredScreen (k : ScreenConduct) : Prop :=
  k.unblanks.head? = some (.ok ()) ∨ .ok () ∈ k.setInputs

/-- The answers to the eligibility questions rule the operation out. -/
def Ineligible (k : ScreenConduct) (config : ScreenConfig) (event : RuntimeEvent) : Prop :=
  ∃ runtimePhase systemRestorePending reason,
    k.phases = [runtimePhase] ∧ k.restores = [systemRestorePending]
      ∧ (decideScreenActionEligibility
          { source := event.source
            lifecyclePolicyEnabled := config.systemSleepWakePolicy.isEnabled
            runtimePhase, systemRestorePending }).next = .stop reason

end ScreenConduct

/-! ## A handler alone with the marker file -/

/-- What the marker file answers; everything else may answer anything. -/
def markerAnswers (k : ScreenConduct) : (c : ScreenCall) → ScreenReply c → Prop
  | .markerExists, r => r = k.marker
  | .createMarker, r => r = .ok ()
  | .clearMarker, r => r = .ok ()
  | _, _ => True

/-- Only the power-off has a condition, which is the operation's own. -/
def screenPermits (mayPowerOff : ScreenConduct → Prop) (k : ScreenConduct) : ScreenCall → Prop
  | .powerOff _ => mayPowerOff k
  | _ => True

def screenBook (mayPowerOff : ScreenConduct → Prop) :
    Contract ScreenCall ScreenReply ScreenConduct :=
  .answered (screenPermits mayPowerOff) markerAnswers ScreenConduct.note

namespace ScreenBook

section

variable {may : ScreenConduct → Prop} {pass : ScreenPass} {k : ScreenConduct}
  {E : RunError → ScreenPass → ScreenConduct → Prop}

/-- A call: it has to be permitted, and each answer that is possible is gone on with. -/
theorem wpS_ask {c : ScreenCall} {Q : ScreenReply c → ScreenPass → ScreenConduct → Prop}
    (hpermits : screenPermits may k c) (h : ∀ r, markerAnswers k c r → Q r pass (k.note c r)) :
    wpS (screenBook may) (ask c) Q E pass k := by
  refine wpS_liftM.mpr ((wp_perform c).mpr ⟨hpermits, fun r k' hnext => ?_⟩)
  obtain ⟨hpossible, rfl⟩ := hnext
  exact h r hpossible

/-- A failed write is the only way in which a handler is left early. -/
theorem wpS_orFail {r : Except IoError Unit} {Q : Unit → ScreenPass → ScreenConduct → Prop}
    (hok : r = .ok () → Q () pass k) (herror : ∀ err, E (.io err) pass k) :
    wpS (screenBook may) (orFail r) Q E pass k := by
  cases r with
  | ok a => exact (wpS_pure ()).mpr (hok rfl)
  | error err => exact (wpS_throw _).mpr (herror err)

/-- A line of the log, which the conduct takes no notice of. -/
theorem wpS_writeLine {line : String} {Q : Unit → ScreenPass → ScreenConduct → Prop}
    (hQ : Q () pass k) (hE : ∀ err, E (.io err) pass k) :
    wpS (screenBook may) (writeLine line) Q E pass k :=
  wpS_bind.mpr (wpS_ask trivial fun _ _ => wpS_orFail (fun _ => hQ) hE)

/-- The outcome is collected in the state of the handler; the law does not read it. -/
theorem wpS_merge {outcome : PolicyOutcome} {Q : Unit → ScreenPass → ScreenConduct → Prop}
    (h : ∀ pass, Q () pass k) : wpS (screenBook may) (merge outcome) Q E pass k :=
  wpS_modify.mpr (h _)

/-- Tracing a record does not read the trace. -/
theorem wpS_traceRecord {operation : String} {result : Except TvError Unit}
    {Q : Unit → ScreenPass → ScreenConduct → Prop} (h : ∀ pass, Q () pass k) :
    wpS (screenBook may) (traceRecord operation result) Q E pass k :=
  wpS_modify.mpr (h _)

theorem wpS_renderIfFailed {event : RuntimeEvent} {config : ScreenConfig}
    {markerBefore markerAfter : Bool} {Q : Unit → ScreenPass → ScreenConduct → Prop}
    (hQ : Q () pass k) (hE : ∀ err, E (.io err) pass k) :
    wpS (screenBook may) (renderIfFailed event config markerBefore markerAfter) Q E pass k := by
  refine wpS_bind.mpr (wpS_get.mpr ?_)
  split
  · exact (wpS_pure ()).mpr hQ
  · exact wpS_bind.mpr (wpS_ask trivial fun _ _ => wpS_orFail (fun _ => hQ) hE)

/-- The marker file after these transitions. -/
def sessionMarkerAfter : List StateTransition → Bool → Bool
  | [], marker => marker
  | .createMarker _ _ :: rest, _ => sessionMarkerAfter rest true
  | .clearMarker _ _ :: rest, _ => sessionMarkerAfter rest false
  | .preserveMarker _ _ :: rest, marker => sessionMarkerAfter rest marker

/-- A transition that a screen policy may ask for. -/
def IsSession : StateTransition → Prop
  | .createMarker marker _ | .clearMarker marker _ | .preserveMarker marker _ =>
    marker = .sessionScreenOwnership

/-- One transition does to the marker file what `sessionMarkerAfter` says of it. -/
theorem wpS_applyScreenStateTransition (transition : StateTransition)
    (hsession : IsSession transition) {Q : Unit → ScreenPass → ScreenConduct → Prop}
    (hQ : Q () pass { k with marker := sessionMarkerAfter [transition] k.marker }) :
    wpS (screenBook may) (applyScreenStateTransition transition) Q E pass k := by
  cases transition with
  | createMarker marker reason =>
    cases hsession
    refine wpS_bind.mpr (wpS_ask trivial fun r hr => ?_)
    cases hr
    exact (wpS_pure ()).mpr hQ
  | clearMarker marker reason =>
    cases hsession
    refine wpS_bind.mpr (wpS_ask trivial fun r hr => ?_)
    cases hr
    exact (wpS_pure ()).mpr hQ
  | preserveMarker marker reason =>
    cases hsession
    exact (wpS_pure ()).mpr hQ

/-- Applied to the session marker, this outcome turns `before` into `after`. -/
structure Moves (outcome : PolicyOutcome) (before after : Bool) : Prop where
  session : ∀ transition ∈ outcome.stateTransitions, IsSession transition
  marker : sessionMarkerAfter outcome.stateTransitions before = after

/-- The transitions of an outcome never fail, and move the marker alone. -/
theorem wpS_applyScreenStateTransitions {outcome : PolicyOutcome} {after : Bool}
    (hmoves : Moves outcome k.marker after) {Q : Unit → ScreenPass → ScreenConduct → Prop}
    (hQ : Q () pass { k with marker := after }) :
    wpS (screenBook may) (applyScreenStateTransitions outcome) Q E pass k := by
  obtain ⟨hsession, hafter⟩ := hmoves
  unfold applyScreenStateTransitions
  -- only the list of transitions matters from here on
  generalize outcome.stateTransitions = transitions at hsession hafter
  induction transitions generalizing k with
  | nil =>
    subst hafter
    exact (wpS_pure ()).mpr hQ
  | cons transition rest ih =>
    obtain ⟨hfirst, hrest⟩ := List.forall_mem_cons.mp hsession
    refine wpS_bind.mpr (wpS_applyScreenStateTransition transition hfirst (ih hQ hrest ?_))
    cases transition with
    | createMarker marker reason => exact hafter
    | clearMarker marker reason => exact hafter
    | preserveMarker marker reason => exact hafter

/-! ## Eligibility -/

/-- Only the two questions have been asked. -/
def Questioned (k k' : ScreenConduct) : Prop :=
  ∃ phases restores, k' = { k with phases, restores }

/-- The questions are asked only of an event that depends on them. In both cases the decision stops
exactly when the answers, as the conduct has noted them, rule the operation out. -/
theorem wpS_readScreenActionEligibility {config : ScreenConfig} {event : RuntimeEvent}
    {Q : ScreenActionEligibilityInput → ScreenPass → ScreenConduct → Prop}
    (hphases : k.phases = []) (hrestores : k.restores = [])
    (hQ : ∀ input k', Questioned k k' →
      ((∃ reason, (decideScreenActionEligibility input).next = .stop reason)
        ↔ k'.Ineligible config event) → Q input pass k') :
    wpS (screenBook may) (readScreenActionEligibility config event) Q E pass k := by
  unfold readScreenActionEligibility
  extract_lets enabled
  split
  · refine wpS_bind.mpr (wpS_ask trivial fun phase _ => ?_)
    refine wpS_bind.mpr (wpS_ask trivial fun restore _ => ?_)
    refine (wpS_pure _).mpr (hQ _ _ ⟨_, _, rfl⟩ ?_)
    -- the conduct had no answers before, so the two that it has are these
    constructor
    · rintro ⟨reason, hreason⟩
      refine ⟨phase, restore, reason, ?_, ?_, hreason⟩
      · show k.phases ++ [phase] = [phase]
        rw [hphases, List.nil_append]
      · show k.restores ++ [restore] = [restore]
        rw [hrestores, List.nil_append]
    · rintro ⟨phase', restore', reason, hphase, hrestore, hreason⟩
      have hphase' : k.phases ++ [phase] = [phase'] := hphase
      have hrestore' : k.restores ++ [restore] = [restore'] := hrestore
      rw [hphases, List.nil_append] at hphase'
      rw [hrestores, List.nil_append] at hrestore'
      cases hphase'
      cases hrestore'
      exact ⟨reason, hreason⟩
  · rename_i hsession
    refine (wpS_pure _).mpr (hQ _ _ ⟨k.phases, k.restores, rfl⟩ ?_)
    -- without the policy or the source nothing is asked, and nothing stops the operation
    constructor
    · rintro ⟨reason, hreason⟩
      have hblocked : (!isSessionScreenSource event.source || !enabled) = true := by
        rw [← Bool.not_and, Bool.not_eq_true', Bool.eq_false_iff]
        exact hsession
      rw [decideScreenActionEligibility, if_pos hblocked] at hreason
      cases hreason
    · rintro ⟨phase, restore, reason, hphase, -, -⟩
      cases hphases.symm.trans hphase

/-- Only a decision to stop writes a line, and can fail. -/
theorem wpS_renderScreenActionEligibility {logPrefix : String} {next : ScreenEligibilityNext}
    {Q : Unit → ScreenPass → ScreenConduct → Prop} (hQ : Q () pass k)
    (hE : ∀ err reason, next = .stop reason → E (.io err) pass k) :
    wpS (screenBook may) (renderScreenActionEligibility logPrefix next) Q E pass k := by
  unfold renderScreenActionEligibility
  split
  · exact wpS_writeLine hQ fun err => hE err _ rfl
  · exact wpS_writeLine hQ fun err => hE err _ rfl
  · exact (wpS_pure ()).mpr hQ

/-- The first part of all three handlers: it goes on, or it stops without a command. -/
theorem wpS_applyScreenActionEligibility {logPrefix : String} {config : ScreenConfig}
    {event : RuntimeEvent} {Q : Bool → ScreenPass → ScreenConduct → Prop}
    (hphases : k.phases = []) (hrestores : k.restores = [])
    (hgo : ∀ pass k', Questioned k k' → ¬ k'.Ineligible config event → Q true pass k')
    (hstop : ∀ pass k', Questioned k k' → k'.Ineligible config event → Q false pass k')
    (hE : ∀ err pass k', Questioned k k' → k'.Ineligible config event → E (.io err) pass k') :
    wpS (screenBook may) (applyScreenActionEligibility logPrefix config event) Q E pass k := by
  refine wpS_bind.mpr (wpS_readScreenActionEligibility hphases hrestores ?_)
  intro input k' hasked hjudged
  extract_lets decision
  refine wpS_bind.mpr (wpS_renderScreenActionEligibility ?_ ?_)
  · refine wpS_bind.mpr (wpS_merge fun pass => (wpS_pure _).mpr ?_)
    cases hnext : decision.next with
    | «continue» =>
      refine hgo pass k' hasked fun hineligible => ?_
      obtain ⟨reason, hreason⟩ := hjudged.mpr hineligible
      cases hnext.symm.trans hreason
    | stop reason => exact hstop pass k' hasked (hjudged.mp ⟨reason, hnext⟩)
  · intro err reason hreason
    exact hE err _ k' hasked (hjudged.mp ⟨reason, hreason⟩)

/-! ## Screen off -/

/-- The marker after an operation that took the screen, or gave it up, or did neither. -/
structure MarkerLaw (took gaveUp : Prop) (before after : Bool) : Prop where
  taken : took → after = true
  givenUp : ¬ took → gaveUp → after = false
  kept : ¬ took → ¬ gaveUp → after = before

/-- What one screen-off leaves behind. -/
structure OffLaw (config : ScreenConfig) (event : RuntimeEvent) (before : Bool)
    (k : ScreenConduct) : Prop where
  marker : MarkerLaw k.tookScreen (k.sawOtherInput config.input) before k.marker
  ineligible : k.Ineligible config event → k.commands = [] ∧ k.marker = before

def isOk {ε : Type} : Except ε Unit → Bool
  | .ok () => true
  | .error _ => false

theorem isOk_eq_true {ε : Type} {r : Except ε Unit} : isOk r = true ↔ r = .ok () := by
  cases r with
  | ok a => exact ⟨fun _ => rfl, fun _ => rfl⟩
  | error err => exact ⟨nofun, nofun⟩

/-- The power-off that succeeds sets the marker. -/
theorem moves_screenOffAfterPowerOffResult (r : Except TvError Unit) (before : Bool) :
    Moves (decideScreenOffAfterPowerOffResult (observeTvEffect r)).outcome before
      (before || isOk r) := by
  cases r with
  | ok a => exact ⟨List.forall_mem_singleton.mpr rfl, (Bool.or_true before).symm⟩
  | error err => exact ⟨List.forall_mem_nil _, (Bool.or_false before).symm⟩

/-- The blank that succeeds sets it too; a blank that fails leaves it to the power-off. -/
theorem moves_screenOffAfterBlankResult (r : Except TvError Unit) (before : Bool) :
    Moves (decideScreenOffAfterBlankResult (observeTvEffect r)).outcome before
      (before || isOk r) := by
  cases r with
  | ok a => exact ⟨List.forall_mem_singleton.mpr rfl, (Bool.or_true before).symm⟩
  | error err => exact ⟨List.forall_mem_nil _, (Bool.or_false before).symm⟩

/-- A blank or power-off of screen-off, with the marker that follows from it. -/
def withTake (k : ScreenConduct) (c : ScreenCall) (r : ScreenReply c)
    (succeeded : Bool) : ScreenConduct :=
  { k.note c r with marker := k.marker || succeeded }

/-- The power-off in place of the blank. -/
theorem wpS_executeScreenOffPowerOffFallback {tv : Ipv4Addr} {context : ScreenOffFallbackContext}
    {Q : Unit → ScreenPass → ScreenConduct → Prop} (hmay : may k)
    (hQ : ∀ r pass, Q () pass (withTake k (.powerOff tv) r (isOk r)))
    (hE : ∀ r err pass, E (.io err) pass (withTake k (.powerOff tv) r (isOk r))) :
    wpS (screenBook may) (executeScreenOffPowerOffFallback tv context) Q E pass k := by
  refine wpS_bind.mpr (wpS_ask hmay fun r _ => wpS_bind.mpr ?_)
  refine wpS_applyScreenStateTransitions (moves_screenOffAfterPowerOffResult r _) ?_
  refine wpS_bind.mpr ?_
  unfold renderScreenOffPowerOffResult
  split
  · exact wpS_writeLine (wpS_merge fun pass => hQ r pass) fun err => hE r err _
  · exact wpS_writeLine (wpS_merge fun pass => hQ r pass) fun err => hE r err _
  · exact wpS_writeLine (wpS_merge fun pass => hQ r pass) fun err => hE r err _

/-- The blank alone, or the blank and the power-off after it. -/
theorem wpS_executeScreenBlank {tv : Ipv4Addr} {Q : Bool → ScreenPass → ScreenConduct → Prop}
    (hmay : ∀ k, may k) (P : ScreenConduct → Prop)
    (hblank : P (withTake k (.blank tv) (.ok ()) true))
    (hfailed : ∀ err, P (withTake k (.blank tv) (.error err) false))
    (hfallback : ∀ err r, P (withTake (withTake k (.blank tv) (.error err) false)
      (.powerOff tv) r (isOk r)))
    (hQ : ∀ b pass k', P k' → (b = true ↔ .ok () ∈ k'.blanks) → Q b pass k')
    (hE : ∀ err pass k', P k' → E (.io err) pass k') (hblanks : k.blanks = []) :
    wpS (screenBook may) (executeScreenBlank tv) Q E pass k := by
  refine wpS_bind.mpr (wpS_ask trivial fun r _ => ?_)
  extract_lets observation succeeded decision
  refine wpS_bind.mpr ?_
  refine wpS_applyScreenStateTransitions (moves_screenOffAfterBlankResult r _) ?_
  cases r with
  | ok a =>
    refine wpS_bind.mpr (wpS_writeLine ?_ fun err => hE err _ _ hblank)
    refine wpS_bind.mpr (wpS_merge fun pass => (wpS_pure _).mpr (hQ _ _ _ hblank ?_))
    exact iff_of_true rfl (List.mem_append_right _ (List.mem_singleton_self _))
  | error err =>
    -- the power-off takes the place of the blank, which has not succeeded
    refine wpS_bind.mpr (wpS_writeLine ?_ fun err' => hE err' _ _ (hfailed err))
    refine wpS_bind.mpr (wpS_merge fun pass => wpS_bind.mpr ?_)
    refine wpS_executeScreenOffPowerOffFallback (hmay _) (fun r pass => ?_)
      (fun r err' pass => hE err' _ _ (hfallback err r))
    refine (wpS_pure _).mpr (hQ _ _ _ (hfallback err r) (iff_of_false nofun ?_))
    show .ok () ∉ k.blanks ++ [.error err]
    rw [hblanks]
    exact nofun

/-- A conduct without TV commands, with the marker as it was. -/
theorem OffLaw.idle {config : ScreenConfig} {event : RuntimeEvent} {before : Bool}
    {k' : ScreenConduct} (hasked : Questioned { marker := before } k') :
    OffLaw config event before k' := by
  obtain ⟨phases, restores, rfl⟩ := hasked
  refine ⟨⟨?_, ?_, fun _ _ => rfl⟩, fun _ => ⟨rfl, rfl⟩⟩
  · rintro (hblank | hpower)
    · cases hblank
    · cases hpower
  · rintro - ⟨input, hinput, -⟩
    cases hinput

/-- The screen was taken when one of the two commands succeeded. -/
theorem tookScreen_iff {k : ScreenConduct} :
    k.tookScreen ↔ (k.blanks ++ k.powerOffs).any isOk = true := by
  simp [ScreenConduct.tookScreen, isOk_eq_true]

/-- A conduct in which the marker was set with the screen, and otherwise left alone. -/
theorem OffLaw.acted {config : ScreenConfig} {event : RuntimeEvent} {before : Bool}
    {k' : ScreenConduct} (heligible : ¬ k'.Ineligible config event)
    (hother : ¬ k'.sawOtherInput config.input)
    (hmarker : k'.marker = (before || (k'.blanks ++ k'.powerOffs).any isOk)) :
    OffLaw config event before k' := by
  refine ⟨⟨fun htook => ?_, fun _ h => absurd h hother, fun hnone _ => ?_⟩,
    fun h => absurd h heligible⟩
  · rw [hmarker, tookScreen_iff.mp htook, Bool.or_true]
  · rw [tookScreen_iff, Bool.not_eq_true] at hnone
    rw [hmarker, hnone, Bool.or_false]

/-- A TV on another input is not LG Buddy's to give back. -/
theorem moves_inputMismatch (reason : DecisionReason) (before : Bool) :
    Moves ((PolicyOutcome.withNoAction {} reason)
      |>.withStateTransition (clearSessionMarker .inputMismatch)) before false :=
  ⟨List.forall_mem_singleton.mpr rfl, rfl⟩

/-- The answer to the query decides: the configured input is blanked with the marker as it is, and
on any other input the marker is cleared and nothing more is done. -/
theorem decideScreenOffAfterInput_current (configured : HdmiInput) (input : CurrentInput) :
    (input.isHdmi configured = true
      ∧ (decideScreenOffAfterInput configured (.current input)).next = .blank
      ∧ ∀ before, Moves (decideScreenOffAfterInput configured (.current input)).outcome before
          before)
    ∨ (input.isHdmi configured = false
      ∧ (decideScreenOffAfterInput configured (.current input)).next = .stop
      ∧ ∀ before, Moves (decideScreenOffAfterInput configured (.current input)).outcome before
          false) := by
  dsimp only [decideScreenOffAfterInput]
  cases input.isHdmi configured with
  | true => exact .inl ⟨rfl, rfl, fun _ => ⟨List.forall_mem_nil _, rfl⟩⟩
  | false => exact .inr ⟨rfl, rfl, moves_inputMismatch _⟩

theorem wpS_renderScreenOffInputDecision {configured : HdmiInput} {input : CurrentInput}
    {decision : ScreenPolicyDecision ScreenOffNext} {Q : Unit → ScreenPass → ScreenConduct → Prop}
    (hQ : Q () pass k) (hE : ∀ err, E (.io err) pass k) :
    wpS (screenBook may) (renderScreenOffInputDecision configured input decision) Q E pass k := by
  unfold renderScreenOffInputDecision
  split
  · exact wpS_writeLine hQ hE
  · exact wpS_writeLine hQ hE
  · exact (wpS_pure ()).mpr hQ

/-- **Screen off.** The cases are those of the source: the query fails and the power-off is tried at
once; the input is the configured one and the blank is tried; the input is another one. -/
theorem wpS_runScreenOff (config : ScreenConfig) (event : RuntimeEvent) (before : Bool) :
    wpS (screenBook fun _ => True) (runScreenOffWithResultForEvent config event)
      (fun result _ k => OffLaw config event before k
        ∧ (result.blankSucceeded = true ↔ .ok () ∈ k.blanks))
      (fun _ _ k => OffLaw config event before k) pass { marker := before } := by
  refine wpS_bind.mpr (wpS_applyScreenActionEligibility rfl rfl ?_ ?_ ?_)
  · intro pass k hasked heligible
    refine wpS_bind.mpr (wpS_ask trivial fun r _ => ?_)
    obtain ⟨phases, restores, rfl⟩ := hasked
    cases r with
    | ok input =>
      refine wpS_bind.mpr ?_
      rcases decideScreenOffAfterInput_current config.input input with
        ⟨hinput, hnext, hmoves⟩ | ⟨hinput, hnext, hmoves⟩
      · refine wpS_applyScreenStateTransitions (hmoves _) (wpS_bind.mpr ?_)
        -- the one answer is the configured input
        have hother (k' : ScreenConduct) (hinputs : k'.inputs = [.ok input]) :
            ¬ k'.sawOtherInput config.input := by
          rintro ⟨input', hmem, hdiffers⟩
          rw [hinputs] at hmem
          cases List.mem_singleton.mp hmem
          rw [hinput] at hdiffers
          cases hdiffers
        refine wpS_renderScreenOffInputDecision ?_ fun err => ?_
        · refine wpS_bind.mpr (wpS_merge fun pass => ?_)
          rw [if_pos hnext]
          refine wpS_bind.mpr (wpS_executeScreenBlank (fun _ => trivial)
            (OffLaw config event before) ?_ (fun err => ?_) (fun err r => ?_)
            (fun b pass k' hlaw hb => (wpS_pure _).mpr ⟨hlaw, hb⟩) (fun _ _ _ hlaw => hlaw) rfl)
          · exact .acted heligible (hother _ rfl) rfl
          · exact .acted heligible (hother _ rfl) rfl
          · refine .acted heligible (hother _ rfl) ?_
            show ((before || false) || isOk r) = (before || (false || (isOk r || false)))
            simp
        · exact .acted heligible (hother _ rfl) (Bool.or_false before).symm
      · -- the query itself has found the screen given up
        have hgivenUp : OffLaw config event before
            { marker := false
              phases
              restores
              inputs := [.ok input]
              commands := [.currentInput config.tvIp] } := by
          refine ⟨⟨?_, fun _ _ => rfl, fun _ hnone => ?_⟩, fun h => absurd h heligible⟩
          · rintro (hblank | hpower)
            · cases hblank
            · cases hpower
          · exact absurd ⟨input, List.mem_singleton_self _, hinput⟩ hnone
        refine wpS_applyScreenStateTransitions (hmoves _) (wpS_bind.mpr ?_)
        refine wpS_renderScreenOffInputDecision ?_ fun err => hgivenUp
        refine wpS_bind.mpr (wpS_merge fun pass => ?_)
        rw [if_neg (by rw [hnext]; exact nofun)]
        exact (wpS_pure _).mpr ⟨hgivenUp, iff_of_false nofun nofun⟩
    | error err =>
      -- a query that fails has seen no input at all
      have hother (k' : ScreenConduct) (hinputs : k'.inputs = [.error err]) :
          ¬ k'.sawOtherInput config.input := by
        rintro ⟨input', hmem, -⟩
        rw [hinputs] at hmem
        cases List.mem_singleton.mp hmem
      refine wpS_bind.mpr (wpS_writeLine ?_ fun err' => ?_)
      · refine wpS_bind.mpr (wpS_merge fun pass => wpS_bind.mpr ?_)
        have hlaw (r : Except TvError Unit) : OffLaw config event before
            { marker := before || isOk r
              phases
              restores
              inputs := [.error err]
              powerOffs := [r]
              commands := [.currentInput config.tvIp, .powerOff config.tvIp] } := by
          refine .acted heligible (hother _ rfl) ?_
          show (before || isOk r) = (before || (isOk r || false))
          rw [Bool.or_false]
        refine wpS_executeScreenOffPowerOffFallback trivial (fun r pass => ?_)
          (fun r err' pass => hlaw r)
        exact (wpS_pure _).mpr ⟨hlaw r, iff_of_false nofun nofun⟩
      · exact .acted heligible (hother _ rfl) (Bool.or_false before).symm
  · intro pass k hasked _
    refine (wpS_pure _).mpr ⟨.idle hasked, iff_of_false nofun ?_⟩
    obtain ⟨phases, restores, rfl⟩ := hasked
    exact nofun
  · exact fun _ _ k hasked _ => .idle hasked

/-! ## Timed power-off -/

/-- When the timed power-off may be sent. -/
def mayTimedPowerOff (config : ScreenConfig) (k : ScreenConduct) : Prop :=
  config.screenIdleBlank.isEnabled = true ∧ k.marker = true ∧ k.powerOffs = []
    ∧ ∃ input, k.inputs = [.ok input] ∧ input.isHdmi config.input = true

/-- What one timed power-off leaves behind. -/
structure TimedLaw (config : ScreenConfig) (event : RuntimeEvent) (before : Bool)
    (k : ScreenConduct) : Prop where
  marker : MarkerLaw False (k.sawOtherInput config.input) before k.marker
  ineligible : k.Ineligible config event → k.commands = [] ∧ k.marker = before
  once : k.powerOffs.length ≤ 1

/-- Without an answer from the TV, and with the marker as it was. -/
theorem TimedLaw.idle {config : ScreenConfig} {event : RuntimeEvent} {before : Bool}
    {k' : ScreenConduct} (hasked : Questioned { marker := before } k') :
    TimedLaw config event before k' := by
  obtain ⟨phases, restores, rfl⟩ := hasked
  refine ⟨⟨False.elim, ?_, fun _ _ => rfl⟩, fun _ => ⟨rfl, rfl⟩, Nat.zero_le 1⟩
  rintro - ⟨input, hinput, -⟩
  cases hinput

/-- The power-off of the timer keeps the marker whatever comes of it. -/
theorem wpS_executeTimedPowerOff {tv : Ipv4Addr} {Q : Unit → ScreenPass → ScreenConduct → Prop}
    (hmay : may k) (P : ScreenConduct → Prop) (hbefore : P k)
    (hafter : ∀ r, P (k.note (.powerOff tv) r)) (hQ : ∀ pass k', P k' → Q () pass k')
    (hE : ∀ err pass k', P k' → E (.io err) pass k') :
    wpS (screenBook may) (executeTimedPowerOff tv) Q E pass k := by
  refine wpS_bind.mpr (wpS_merge fun pass => wpS_bind.mpr ?_)
  refine wpS_writeLine ?_ fun err => hE err _ _ hbefore
  refine wpS_bind.mpr (wpS_ask hmay fun r _ => ?_)
  have hdone := hafter r
  cases r with
  | ok a => exact wpS_writeLine (hQ _ _ hdone) fun err => hE err _ _ hdone
  | error err =>
    refine wpS_bind.mpr (wpS_writeLine ?_ fun err' => hE err' _ _ hdone)
    exact wpS_merge fun pass => hQ pass _ hdone

/-- **Timed power-off.** The condition of the contract is met at the one place where the command is
sent: the marker is there, and the query has found the configured input. -/
theorem wpS_runTimedPowerOff (config : ScreenConfig) (event : RuntimeEvent) (before : Bool) :
    wpS (screenBook (mayTimedPowerOff config)) (runTimedPowerOffWithEvent config event)
      (fun _ _ k => TimedLaw config event before k)
      (fun _ _ k => TimedLaw config event before k) pass { marker := before } := by
  unfold runTimedPowerOffWithEvent
  split
  · have hidle : TimedLaw config event before { marker := before } := .idle ⟨[], [], rfl⟩
    exact wpS_bind.mpr (wpS_writeLine ((wpS_pure _).mpr hidle) fun _ => hidle)
  · rename_i henabled
    refine wpS_bind.mpr (wpS_applyScreenActionEligibility rfl rfl ?_ ?_ ?_)
    · intro pass k hasked heligible
      refine wpS_bind.mpr (wpS_ask trivial fun marked hmarked => ?_)
      have hidle : TimedLaw config event before k := .idle hasked
      obtain ⟨phases, restores, rfl⟩ := hasked
      cases marked with
      | false =>
        -- the screen is not ours, and is left alone
        refine wpS_bind.mpr (wpS_writeLine ?_ fun _ => hidle)
        exact wpS_bind.mpr (wpS_merge fun pass => wpS_bind.mpr (wpS_get.mpr
          ((wpS_pure _).mpr hidle)))
      | true =>
        refine wpS_bind.mpr (wpS_ask trivial fun r _ => ?_)
        cases r with
        | error err =>
          have hlaw : TimedLaw config event before
              { marker := before
                phases
                restores
                inputs := [.error err]
                commands := [.currentInput config.tvIp] } := by
            refine ⟨⟨False.elim, ?_, fun _ _ => rfl⟩, fun h => absurd h heligible, Nat.zero_le 1⟩
            rintro - ⟨input, hinput, -⟩
            cases List.mem_singleton.mp hinput
          refine wpS_bind.mpr (wpS_writeLine ?_ fun _ => hlaw)
          exact wpS_bind.mpr (wpS_merge fun pass => wpS_bind.mpr (wpS_get.mpr
            ((wpS_pure _).mpr hlaw)))
        | ok input =>
          dsimp only
          split
          · rename_i hinput
            have hlaw : TimedLaw config event before
                { marker := false
                  phases
                  restores
                  inputs := [.ok input]
                  commands := [.currentInput config.tvIp] } := by
              refine ⟨⟨False.elim, fun _ _ => rfl, fun _ hnone => ?_⟩, fun h => absurd h heligible,
                Nat.zero_le 1⟩
              exact absurd ⟨input, List.mem_singleton_self _, by simpa using hinput⟩ hnone
            refine wpS_bind.mpr (wpS_applyScreenStateTransitions (moves_inputMismatch _ _) ?_)
            refine wpS_bind.mpr (wpS_merge fun pass => wpS_bind.mpr (wpS_writeLine ?_ fun _ => hlaw))
            exact wpS_bind.mpr (wpS_get.mpr ((wpS_pure _).mpr hlaw))
          · rename_i hinput
            have hinput' : input.isHdmi config.input = true := by simpa using hinput
            have hlaw (powerOffs : List (Except TvError Unit)) (commands : List ScreenCall)
                (honce : powerOffs.length ≤ 1) : TimedLaw config event before
                  { marker := before
                    phases
                    restores
                    inputs := [.ok input]
                    powerOffs
                    commands } := by
              refine ⟨⟨False.elim, ?_, fun _ _ => rfl⟩, fun h => absurd h heligible, honce⟩
              rintro - ⟨input', hmem, hdiffers⟩
              cases List.mem_singleton.mp hmem
              rw [hinput'] at hdiffers
              cases hdiffers
            refine wpS_bind.mpr (wpS_executeTimedPowerOff ?_ (TimedLaw config event before)
              (hlaw [] _ (Nat.zero_le 1)) (fun r => hlaw [r] _ le_rfl) (fun pass k' hk => ?_)
              (fun _ _ _ hk => hk))
            · -- what the contract asks of the power-off
              refine ⟨by simpa using henabled, hmarked.symm, rfl, input, rfl, hinput'⟩
            · exact wpS_bind.mpr (wpS_get.mpr ((wpS_pure _).mpr hk))
    · intro pass k hasked _
      exact wpS_bind.mpr (wpS_get.mpr ((wpS_pure _).mpr (.idle hasked)))
    · exact fun _ _ k hasked _ => .idle hasked

/-! ## Screen on -/

/-- What one screen-on leaves behind. -/
structure OnLaw (config : ScreenConfig) (event : RuntimeEvent) (before : Bool)
    (k : ScreenConduct) : Prop where
  marker : MarkerLaw False k.restoredScreen before k.marker
  ineligible : k.Ineligible config event → k.commands = [] ∧ k.marker = before

/-- The direct unblank has failed, and no attempt has set the input. -/
structure Waking (config : ScreenConfig) (event : RuntimeEvent) (before : Bool)
    (k : ScreenConduct) : Prop where
  eligible : ¬ k.Ineligible config event
  direct : ∃ err, k.unblanks.head? = some (.error err)
  unset : .ok () ∉ k.setInputs
  marker : k.marker = before

/-- The screen is back, and the marker gone with it. -/
structure Woken (config : ScreenConfig) (event : RuntimeEvent) (k : ScreenConduct) : Prop where
  eligible : ¬ k.Ineligible config event
  restored : k.restoredScreen
  marker : k.marker = false

section

variable {config : ScreenConfig} {event : RuntimeEvent} {before : Bool}

/-- While it is being woken, the screen is not back. -/
theorem Waking.not_restored (h : Waking config event before k) : ¬ k.restoredScreen := by
  obtain ⟨err, herr⟩ := h.direct
  rintro (hdirect | hset)
  · rw [herr] at hdirect
    cases hdirect
  · exact h.unset hset

theorem Waking.onLaw (h : Waking config event before k) : OnLaw config event before k :=
  ⟨⟨False.elim, fun _ hrestored => absurd hrestored h.not_restored, fun _ _ => h.marker⟩,
    fun hineligible => absurd hineligible h.eligible⟩

theorem Woken.onLaw (h : Woken config event k) : OnLaw config event before k :=
  ⟨⟨False.elim, fun _ _ => h.marker, fun _ hnone => absurd h.restored hnone⟩,
    fun hineligible => absurd hineligible h.eligible⟩

/-- A conduct without TV commands, with the marker as it was. -/
theorem OnLaw.idle {k' : ScreenConduct} (hasked : Questioned { marker := before } k') :
    OnLaw config event before k' := by
  obtain ⟨phases, restores, rfl⟩ := hasked
  refine ⟨⟨False.elim, ?_, fun _ _ => rfl⟩, fun _ => ⟨rfl, rfl⟩⟩
  rintro - (hdirect | hset)
  · cases hdirect
  · cases hset

/-- A wake packet is no sign of the TV. -/
theorem Waking.wake (h : Waking config event before k) (tv : Ipv4Addr) (mac : MacAddress)
    (r : Except String Unit) : Waking config event before (k.note (.wake tv mac) r) :=
  ⟨h.eligible, h.direct, h.unset, h.marker⟩

/-- A later unblank is not the direct one. -/
theorem Waking.unblank (h : Waking config event before k) (tv : Ipv4Addr)
    (r : Except TvError Unit) : Waking config event before (k.note (.unblank tv) r) := by
  refine ⟨h.eligible, ?_, h.unset, h.marker⟩
  obtain ⟨err, herr⟩ := h.direct
  refine ⟨err, ?_⟩
  show (k.unblanks ++ [r]).head? = some (.error err)
  rw [List.head?_append, herr]
  rfl

/-- An attempt to set the input that has failed. -/
theorem Waking.setInput (h : Waking config event before k) (tv : Ipv4Addr) (input : HdmiInput)
    (err : TvError) : Waking config event before (k.note (.setInput tv input) (.error err)) := by
  refine ⟨h.eligible, h.direct, fun hmem => ?_, h.marker⟩
  rcases List.mem_append.mp hmem with hold | hnew
  · exact h.unset hold
  · cases List.mem_singleton.mp hnew

/-- A packet that cannot be sent is logged, and the loop goes on. -/
theorem wpS_sendScreenWakePacket {logPrefix : String} (hwaking : Waking config event before k)
    {Q : Unit → ScreenPass → ScreenConduct → Prop}
    (hQ : ∀ pass k', Waking config event before k' → Q () pass k')
    (hE : ∀ err pass k', Waking config event before k' → E (.io err) pass k') :
    wpS (screenBook may) (sendScreenWakePacket logPrefix config) Q E pass k := by
  refine wpS_bind.mpr (wpS_ask trivial fun r _ => ?_)
  have hwaking' := hwaking.wake config.tvIp config.tvMac r
  cases r with
  | ok a => exact (wpS_pure ()).mpr (hQ _ _ hwaking')
  | error err =>
    refine wpS_bind.mpr (wpS_merge fun pass => ?_)
    exact wpS_writeLine (hQ _ _ hwaking') fun err' => hE err' _ _ hwaking'

/-- One attempt, which may unblank in between and try once more. Only the input that was set counts;
the unblank alone restores nothing. -/
theorem wpS_attemptInputRestore {attempt : Nat} (hwaking : Waking config event before k)
    {Q : Except TvError Unit → ScreenPass → ScreenConduct → Prop}
    (hok : ∀ pass k', ¬ k'.Ineligible config event → .ok () ∈ k'.setInputs →
      Q (.ok ()) pass k')
    (hfailed : ∀ err pass k', Waking config event before k' → Q (.error err) pass k') :
    wpS (screenBook may) (attemptInputRestore config.tvIp config.input attempt) Q E pass k := by
  refine wpS_bind.mpr (wpS_ask trivial fun r _ => wpS_bind.mpr (wpS_traceRecord fun pass => ?_))
  cases r with
  | ok a =>
    exact (wpS_pure _).mpr (hok _ _ hwaking.eligible
      (List.mem_append_right _ (List.mem_singleton_self _)))
  | error err =>
    have hwaking₁ := hwaking.setInput config.tvIp config.input err
    dsimp only
    split
    · -- an error that an unblank cannot help
      exact (wpS_pure _).mpr (hfailed _ _ _ hwaking₁)
    · refine wpS_bind.mpr (wpS_ask trivial fun u _ =>
        wpS_bind.mpr (wpS_traceRecord fun pass => ?_))
      have hwaking₂ := hwaking₁.unblank config.tvIp u
      cases u with
      | error err' => exact (wpS_pure _).mpr (hfailed _ _ _ hwaking₂)
      | ok a =>
        refine wpS_bind.mpr (wpS_ask trivial fun retry _ =>
          wpS_bind.mpr (wpS_traceRecord fun pass => (wpS_pure _).mpr ?_))
        cases retry with
        | ok a =>
          exact hok _ _ hwaking₂.eligible (List.mem_append_right _ (List.mem_singleton_self _))
        | error err' => exact hfailed _ _ _ (hwaking₂.setInput config.tvIp config.input err')

/-- When the attempts are used up the marker stays: the screen is still owed. -/
theorem moves_screenOnWakeExhausted (markerExists before : Bool) :
    Moves (decideScreenOnWakeExhausted markerExists) before before := by
  cases markerExists with
  | true => exact ⟨List.forall_mem_singleton.mpr rfl, rfl⟩
  | false => exact ⟨List.forall_mem_nil _, rfl⟩

/-- How the full wake ends in an error: before the input was set, or in a write after it. -/
def WakeFailed (config : ScreenConfig) (event : RuntimeEvent) (before : Bool) (err : RunError)
    (k : ScreenConduct) : Prop :=
  Waking config event before k ∨ Woken config event k ∧ err ≠ screenOnExhausted

/-- Induction on the attempts that remain. The conduct of a loop that goes on is still `Waking`, and
the loop is left by an input that was set or by a failure. -/
theorem wpS_screenOnWakeLoop (vars : EnvVars) (markerExists : Bool) (attempt remaining : Nat)
    (hwaking : Waking config event before k) :
    wpS (screenBook may) (screenOnWakeLoop vars config markerExists attempt remaining)
      (fun _ _ k' => Woken config event k')
      (fun err _ k' => WakeFailed config event before err k') pass k := by
  induction remaining generalizing attempt pass k with
  | zero =>
    refine wpS_bind.mpr (wpS_writeLine ?_ fun _ => .inl hwaking)
    refine wpS_bind.mpr (wpS_applyScreenStateTransitions
      (moves_screenOnWakeExhausted markerExists _) ?_)
    exact wpS_bind.mpr (wpS_merge fun pass => (wpS_throw _).mpr (.inl hwaking))
  | succ remaining ih =>
    refine wpS_bind.mpr (wpS_writeLine ?_ fun _ => .inl hwaking)
    refine wpS_bind.mpr (wpS_merge fun pass => wpS_bind.mpr ?_)
    refine wpS_attemptInputRestore hwaking ?_ ?_
    · -- the input was set: the marker goes, and later failures are of the log
      intro pass k' heligible hset
      have hmoves : Moves decideScreenOnWakeAttemptSucceeded k'.marker false :=
        ⟨List.forall_mem_singleton.mpr rfl, rfl⟩
      have hwoken : Woken config event { k' with marker := false } :=
        ⟨heligible, .inr hset, rfl⟩
      refine wpS_bind.mpr (wpS_applyScreenStateTransitions hmoves ?_)
      refine wpS_bind.mpr (wpS_writeLine ?_ fun _ => .inr ⟨hwoken, nofun⟩)
      exact wpS_merge fun _ => hwoken
    · -- it was not: another packet, a pause, and the attempts that remain
      intro err pass k' hwaking'
      refine wpS_bind.mpr (wpS_writeLine ?_ fun _ => .inl hwaking')
      refine wpS_bind.mpr (wpS_merge fun pass => wpS_bind.mpr ?_)
      refine wpS_sendScreenWakePacket hwaking' ?_ fun _ _ _ h => .inl h
      intro pass k'' hwaking''
      exact wpS_bind.mpr (wpS_ask trivial fun _ _ => ih (attempt + 1) hwaking'')

/-- The full wake: a packet first, and then the loop. -/
theorem wpS_executeScreenOnFullWake (vars : EnvVars) (markerExists : Bool)
    (hwaking : Waking config event before k) :
    wpS (screenBook may) (executeScreenOnFullWake vars config markerExists)
      (fun _ _ k' => Woken config event k')
      (fun err _ k' => WakeFailed config event before err k') pass k := by
  refine wpS_bind.mpr (wpS_writeLine ?_ fun _ => .inl hwaking)
  refine wpS_bind.mpr (wpS_writeLine ?_ fun _ => .inl hwaking)
  refine wpS_bind.mpr (wpS_merge fun pass => wpS_bind.mpr ?_)
  refine wpS_sendScreenWakePacket hwaking ?_ fun _ _ _ h => .inl h
  intro pass k' hwaking'
  exact wpS_bind.mpr (wpS_ask trivial fun _ _ =>
    wpS_screenOnWakeLoop vars markerExists 1 screenOnWakeAttempts hwaking')

/-- The direct unblank, on a conduct that has no command yet. -/
theorem wpS_executeScreenOnUnblank {Q : Bool → ScreenPass → ScreenConduct → Prop}
    (heligible : ¬ k.Ineligible config event) (hunblanks : k.unblanks = [])
    (hsetInputs : k.setInputs = [])
    (hwoken : ∀ pass k', Woken config event k' → Q true pass k')
    (hwaking : ∀ pass k', Waking config event k.marker k' → Q false pass k')
    (hE : ∀ err pass k', Woken config event k' → E (.io err) pass k') :
    wpS (screenBook may) (executeScreenOnUnblank config.tvIp) Q E pass k := by
  refine wpS_bind.mpr (wpS_ask trivial fun r _ => wpS_bind.mpr (wpS_traceRecord fun pass => ?_))
  extract_lets observation decision
  have hfirst : (k.note (.unblank config.tvIp) r).unblanks.head? = some r := by
    show (k.unblanks ++ [r]).head? = some r
    rw [hunblanks]
    rfl
  cases r with
  | ok a =>
    have hmoves : Moves decision.outcome (k.note (.unblank config.tvIp) (.ok a)).marker false :=
      ⟨List.forall_mem_singleton.mpr rfl, rfl⟩
    have hdone : Woken config event
        { k.note (.unblank config.tvIp) (.ok a) with marker := false } :=
      ⟨heligible, .inl hfirst, rfl⟩
    refine wpS_bind.mpr (wpS_applyScreenStateTransitions hmoves ?_)
    refine wpS_bind.mpr (wpS_writeLine ?_ fun err => hE err _ _ hdone)
    exact wpS_bind.mpr (wpS_merge fun pass => (wpS_pure _).mpr (hwoken _ _ hdone))
  | error err =>
    have hmoves : Moves decision.outcome (k.note (.unblank config.tvIp) (.error err)).marker
        k.marker := ⟨List.forall_mem_nil _, rfl⟩
    have hstart : Waking config event k.marker
        { k.note (.unblank config.tvIp) (.error err) with marker := k.marker } := by
      refine ⟨heligible, ⟨err, hfirst⟩, ?_, rfl⟩
      show .ok () ∉ k.setInputs
      rw [hsetInputs]
      exact nofun
    refine wpS_bind.mpr (wpS_applyScreenStateTransitions hmoves ?_)
    refine wpS_bind.mpr ((wpS_pure ()).mpr ?_)
    exact wpS_bind.mpr (wpS_merge fun pass => (wpS_pure _).mpr (hwaking _ _ hstart))

/-- Up to three lines are written before the unblank. -/
theorem wpS_renderScreenOnStartDecision {markerExists : Bool}
    {decision : ScreenPolicyDecision ScreenOnNext} {Q : Unit → ScreenPass → ScreenConduct → Prop}
    (hQ : Q () pass k) (hE : ∀ err, E (.io err) pass k) :
    wpS (screenBook may) (renderScreenOnStartDecision config markerExists decision) Q E pass
      k := by
  unfold renderScreenOnStartDecision
  split
  · exact wpS_writeLine hQ hE
  · refine wpS_bind.mpr ?_
    have hrest : wpS (screenBook may) (do
          writeLine s!"LG Buddy Screen On: Turning TV on (screen wake) using input {config.input.asStr}..."
          writeLine "LG Buddy Screen On: Attempting screen unblank...") Q E pass k :=
      wpS_bind.mpr (wpS_writeLine (wpS_writeLine hQ hE) hE)
    unfold logMarkerlessRestoreNotice
    split
    · exact wpS_writeLine hrest hE
    · exact (wpS_pure ()).mpr hrest

/-- A restore is refused, or begins with the direct unblank. -/
theorem decideScreenOnStart_next (policy : ScreenRestorePolicy) (markerExists : Bool) :
    (decideScreenOnStart policy markerExists).next = .stop
      ∨ (decideScreenOnStart policy markerExists).next = .unblank := by
  unfold decideScreenOnStart
  split
  · exact .inl rfl
  · exact .inr rfl

theorem io_ne_exhausted (err : IoError) : RunError.io err ≠ screenOnExhausted := by
  intro hsame
  cases hsame

/-- **Screen on.** The direct unblank decides whether the full wake is tried; the error of the wake
that is used up is returned only when the screen is not back. -/
theorem wpS_runScreenOn (vars : EnvVars) (config : ScreenConfig) (event : RuntimeEvent)
    (before : Bool) :
    wpS (screenBook fun _ => True) (runScreenOnWithOutcomeForEvent vars config event)
      (fun _ _ k => OnLaw config event before k)
      (fun err _ k => OnLaw config event before k
        ∧ (err = screenOnExhausted → ¬ k.restoredScreen)) pass { marker := before } := by
  refine wpS_bind.mpr (wpS_applyScreenActionEligibility rfl rfl ?_ ?_ ?_)
  · intro pass k hasked heligible
    have hidle : OnLaw config event before k := .idle hasked
    obtain ⟨phases, restores, rfl⟩ := hasked
    refine wpS_bind.mpr (wpS_ask trivial fun marked _ => ?_)
    refine wpS_bind.mpr (wpS_renderScreenOnStartDecision ?_ fun err =>
      ⟨hidle, fun hsame => absurd hsame (io_ne_exhausted err)⟩)
    refine wpS_bind.mpr (wpS_merge fun pass => ?_)
    rcases decideScreenOnStart_next config.screenRestorePolicy marked with hnext | hnext
    · rw [if_pos hnext]
      exact wpS_bind.mpr (wpS_get.mpr ((wpS_pure _).mpr hidle))
    · rw [if_neg (by rw [hnext]; decide), hnext]
      -- however the unblank ends, the handler renders the rest and returns or throws
      have hreturn (pass : ScreenPass) (k : ScreenConduct) (hlaw : OnLaw config event before k) :
          wpS (screenBook fun _ => True) (do
              renderIfFailed event config marked (← ask .markerExists)
              return (← get).outcome)
            (fun _ _ k => OnLaw config event before k)
            (fun err _ k => OnLaw config event before k
              ∧ (err = screenOnExhausted → ¬ k.restoredScreen)) pass k := by
        refine wpS_bind.mpr (wpS_ask trivial fun _ _ => ?_)
        refine wpS_bind.mpr (wpS_renderIfFailed ?_ fun err =>
          ⟨hlaw, fun hsame => absurd hsame (io_ne_exhausted err)⟩)
        exact wpS_bind.mpr (wpS_get.mpr ((wpS_pure _).mpr hlaw))
      have hthrow (failure : RunError) (pass : ScreenPass) (k : ScreenConduct)
          (hlaw : OnLaw config event before k)
          (hfailed : failure = screenOnExhausted → ¬ k.restoredScreen) :
          wpS (screenBook fun _ => True) (do
              renderIfFailed event config marked (← ask .markerExists)
              throw failure)
            (fun (_ : PolicyOutcome) _ k => OnLaw config event before k)
            (fun err _ k => OnLaw config event before k
              ∧ (err = screenOnExhausted → ¬ k.restoredScreen)) pass k := by
        refine wpS_bind.mpr (wpS_ask trivial fun _ _ => ?_)
        refine wpS_bind.mpr (wpS_renderIfFailed ?_ fun err =>
          ⟨hlaw, fun hsame => absurd hsame (io_ne_exhausted err)⟩)
        exact (wpS_throw _).mpr ⟨hlaw, hfailed⟩
      refine wpS_bind.mpr (wpS_executeScreenOnUnblank heligible rfl rfl ?_ ?_ ?_)
      · intro pass k hwoken
        exact hreturn pass k hwoken.onLaw
      · intro pass k hwaking
        refine wpS_bind.mpr (wpS_lift.mpr ?_)
        refine wpS.mono ?_ ?_ (wpS_executeScreenOnFullWake vars marked hwaking)
        · intro a pass k hwoken
          exact hreturn pass k hwoken.onLaw
        · intro err pass k hfailed
          rcases hfailed with hwaking | ⟨hwoken, herr⟩
          · exact hthrow err pass k hwaking.onLaw fun _ => hwaking.not_restored
          · exact hthrow err pass k hwoken.onLaw fun hexhausted => absurd hexhausted herr
      · exact fun err pass k hwoken =>
          ⟨hwoken.onLaw, fun hsame => absurd hsame (io_ne_exhausted err)⟩
  · intro pass k hasked _
    exact wpS_bind.mpr (wpS_get.mpr ((wpS_pure _).mpr (.idle hasked)))
  · exact fun err _ k hasked _ =>
      ⟨.idle hasked, fun hsame => absurd hsame (io_ne_exhausted err)⟩

end

end

end ScreenBook

end LgBuddy
