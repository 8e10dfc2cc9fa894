import LgBuddy.Lifecycle.Suspend

/-!
# LgBuddy — what an owner's cycle outcome says

The owner of the suspend rail stores one of two verdicts on its own work: `completed`, or
`retryableTransportFailure`, which invites the other rail to try. The verdict is inferred from the
selected actions and from the marker file. Here it is compared with what the run did to the TV.

* `Conduct` — the answers a run got from the TV, and the outcomes it wrote;
* `Conduct.ledger` — the contract of one process alone with the files;
* one specification for each function on the way, over the ledger;
* `suspend_owner_outcome_honest` — the verdict against the conduct.
-/

namespace LgBuddy

open LgBuddy.Action Program

/-! ## Conduct -/

/-- What a run has done: the answers to its input queries and to its power-offs, and the cycle
outcomes it has stored. -/
structure Conduct where
  inputs : List (Except TvError CurrentInput) := []
  powerOffs : List (Except TvError Unit) := []
  written : List SystemSleepCycleOutcome := []

namespace Conduct

def note (k : Conduct) : (c : Call) → CallReply c → Conduct
  | .currentInput _, r => { k with inputs := k.inputs ++ [r] }
  | .powerOff _, r => { k with powerOffs := k.powerOffs ++ [r] }
  | .writeOutcome outcome, .ok () => { k with written := k.written ++ [outcome] }
  | _, _ => k

/-- The input query found another input than the configured one. -/
def InputDiffers (k : Conduct) (configured : HdmiInput) : Prop :=
  ∃ input, .ok input ∈ k.inputs ∧ input.isHdmi configured = false

/-- The input query found no usable stored authentication. -/
def AuthenticationUnavailable (k : Conduct) : Prop :=
  ∃ err, .error err ∈ k.inputs ∧ err.kind = .authentication

/-- Some power-off succeeded. -/
def PoweredOff (k : Conduct) : Prop := .ok () ∈ k.powerOffs

/-- `World.serve`, with the conduct kept. -/
def record (pid : Pid) :
    (World × (Nat → Environment)) × Conduct → (c : Call) →
      CallReply c × ((World × (Nat → Environment)) × Conduct) :=
  noting note (World.serve pid)

/-- Every call is allowed, and answered as the files and some environment say. -/
def ledger (pid : Pid) : Contract Call CallReply (World × Conduct) where
  permits _ _ := True
  next t c r t' := ∃ env, t.1.answer env pid c = (r, t'.1) ∧ t'.2 = t.2.note c r

/-- Errors that end a run leave nothing to show. -/
def anyError : RunError → World × Conduct → Prop := fun _ _ => True

/-- Recording a call is a move of the ledger. -/
theorem record_ledger (pid : Pid) (s : (World × (Nat → Environment)) × Conduct) (c : Call)
    (_ : True) :
    True ∧ (ledger pid).next (s.1.1, s.2) c (record pid s c).1
      ((record pid s c).2.1.1, (record pid s c).2.2) :=
  ⟨trivial, s.1.2 0, rfl, rfl⟩

section

variable {pid : Pid} {w : World} {k : Conduct}

/-- A call is answered by the world, whatever the environment, and its answer is recorded. -/
theorem wp_perform_ledger {c : Call} {Q : CallReply c → World × Conduct → Prop}
    (h : ∀ env, Q (w.answer env pid c).1 ((w.answer env pid c).2,
      k.note c (w.answer env pid c).1)) :
    wp (ledger pid) (perform c) Q (w, k) := by
  refine wp_perform c |>.mpr ⟨trivial, fun r t' hnext => ?_⟩
  obtain ⟨env, hanswer, hnote⟩ := hnext
  have hQ := h env
  rw [hanswer] at hQ
  obtain ⟨w', k'⟩ := t'
  cases hnote
  exact hQ

/-- A line of output changes neither the world nor the record. -/
theorem wpE_writeLine {line : String} {Q : Unit → World × Conduct → Prop} (h : Q () (w, k)) :
    wpE (ledger pid) (writeLine line) Q anyError (w, k) := by
  refine wpE_orFail.mpr (wp_perform_ledger fun env => ?_)
  show post Q _ (env (.writeLine line)) (w, k)
  cases env (.writeLine line) with
  | ok a => exact h
  | error err => trivial

/-! ## The marker -/

/-- The marker file after these transitions. -/
def markerAfter : List StateTransition → Bool → Bool
  | [], marker => marker
  | .createMarker _ _ :: rest, _ => markerAfter rest true
  | .clearMarker _ _ :: rest, _ => markerAfter rest false
  | .preserveMarker _ _ :: rest, marker => markerAfter rest marker

/-- One marker transition changes the marker as it says, and nothing else. -/
theorem wpE_applyMarkerTransition (transition : StateTransition) :
    wpE (ledger pid) (applySystemScreenMarkerTransition transition)
      (fun _ t => t = ({ w with marker := markerAfter [transition] w.marker }, k)) anyError
      (w, k) := by
  unfold applySystemScreenMarkerTransition
  split
  · refine wpE_orFail.mpr (wp_perform_ledger fun env => ?_)
    dsimp only [World.answer]
    cases env .createMarker with
    | ok a => rfl
    | error err => trivial
  · refine wpE_orFail.mpr (wp_perform_ledger fun env => ?_)
    dsimp only [World.answer]
    cases env .clearMarker with
    | ok a => rfl
    | error err => trivial
  · exact (wpE_pure ()).mpr rfl
  · trivial
  · trivial
  · trivial

/-- A row of marker transitions changes the marker as the row says, by induction on it. -/
theorem wpE_applyMarkerTransitions (outcome : PolicyOutcome) :
    wpE (ledger pid) (applySystemScreenMarkerTransitions outcome)
      (fun _ t => t = ({ w with marker := markerAfter outcome.stateTransitions w.marker }, k))
      anyError (w, k) := by
  unfold applySystemScreenMarkerTransitions
  generalize outcome.stateTransitions = transitions
  induction transitions generalizing w with
  | nil => exact (wpE_pure ()).mpr rfl
  | cons transition rest ih =>
    rw [applySystemScreenMarkerTransitions.go, wpE_bind]
    refine wpE.mono (fun _ t ht => ?_) (fun _ _ h => h) (wpE_applyMarkerTransition transition)
    cases ht
    have hrest := @ih { w with marker := markerAfter [transition] w.marker }
    cases transition with
    | createMarker marker reason => exact hrest
    | clearMarker marker reason => exact hrest
    | preserveMarker marker reason => exact hrest

/-- The marker set by a power-off is set by one that succeeded, or was there before. -/
theorem markerAfter_powerOffResult {powerOff : TvEffectObservation}
    {context : SystemSleepPowerOffContext} {marker : Bool}
    (h : markerAfter (decideSystemSleepPowerOffResult powerOff context).stateTransitions marker
      = true) :
    powerOff = .succeeded ∨ marker = true := by
  cases powerOff with
  | succeeded => exact .inl rfl
  | failed detail =>
    right
    match context, h with
    | .knownInput, h => exact h
    | .fallbackAfterInputQueryFailure true, h => exact h
    | .fallbackAfterInputQueryFailure false, h => cases h

/-- The conclusion of a power-off applies what was decided and returns it. -/
theorem wpE_concludePowerOff (powerOff : TvEffectObservation)
    (context : SystemSleepPowerOffContext) :
    wpE (ledger pid) (concludeSystemSleepPowerOff powerOff context)
      (fun outcome t => outcome = decideSystemSleepPowerOffResult powerOff context
        ∧ t = ({ w with marker := markerAfter outcome.stateTransitions w.marker }, k))
      anyError (w, k) := by
  unfold concludeSystemSleepPowerOff
  refine wpE_bind.mpr ?_
  refine wpE.mono (fun _ t ht => ?_) (fun _ _ h => h) (wpE_applyMarkerTransitions _)
  cases ht
  refine wpE_bind.mpr ?_
  unfold renderSystemSleepPowerOffResult
  split
  · exact (wpE_pure ()).mpr ⟨rfl, rfl⟩
  · exact wpE_writeLine ⟨rfl, rfl⟩
  · exact wpE_writeLine ⟨rfl, rfl⟩
  · exact wpE_writeLine ⟨rfl, rfl⟩

/-! ## The TV commands -/

/-- The query's result is one of the answers. -/
theorem wp_queryCurrentInput (vars : EnvVars) (tv : Ipv4Addr) (retries : Nat) :
    wp (ledger pid) (queryCurrentInputWithRetries vars tv retries)
      (fun r t => t.1 = w ∧ t.2.written = k.written ∧ r ∈ t.2.inputs) (w, k) := by
  induction retries generalizing k with
  | zero =>
    unfold queryCurrentInputWithRetries
    refine wp_perform_ledger fun env => ⟨rfl, rfl, ?_⟩
    exact List.mem_append_right k.inputs (List.mem_singleton_self (env (.currentInput tv)))
  | succ retries ih =>
    unfold queryCurrentInputWithRetries
    refine wp_bind.mpr (wp_perform_ledger fun env => ?_)
    dsimp only [World.answer]
    have hmem (r : Except TvError CurrentInput) : r ∈ k.inputs ++ [r] :=
      List.mem_append_right _ (List.mem_singleton_self r)
    cases env (.currentInput tv) with
    | ok input => exact ⟨rfl, rfl, hmem _⟩
    | error err =>
      dsimp only
      split
      · exact ⟨rfl, rfl, hmem _⟩
      · refine wp_bind.mpr (wp_perform_ledger fun env' => ?_)
        exact @ih (k.note (.currentInput tv) (.error err))

/-- A power-off reported as successful was answered so. -/
theorem wp_retryPowerOff (vars : EnvVars) (tv : Ipv4Addr) (attempts : Nat) :
    wp (ledger pid) (retryPowerOff vars tv attempts)
      (fun b t => t.1 = w ∧ t.2.written = k.written ∧ (b = true → t.2.PoweredOff)) (w, k) := by
  induction attempts generalizing k with
  | zero => exact ⟨rfl, rfl, nofun⟩
  | succ attempts ih =>
    unfold retryPowerOff
    refine wp_bind.mpr (wp_perform_ledger fun env => ?_)
    dsimp only [World.answer]
    cases env (.powerOff tv) with
    | ok a =>
      refine ⟨rfl, rfl, fun _ => ?_⟩
      show .ok () ∈ k.powerOffs ++ [.ok ()]
      exact List.mem_append_right _ (List.mem_singleton_self _)
    | error err =>
      dsimp only
      split
      · exact ⟨rfl, rfl, nofun⟩
      · split
        · refine wp_bind.mpr (wp_perform_ledger fun env' => ?_)
          exact @ih (k.note (.powerOff tv) (.error err))
        · exact @ih (k.note (.powerOff tv) (.error err))

/-! ## The owner -/

/-- What the verdict rests on: without a power-off selected there was a reason not to, and a marker
that is there was set by a successful power-off, or was there before (`marker`). -/
def Accountable (k : Conduct) (config : Config) (marker : Bool) (outcome : PolicyOutcome)
    (t : World × Conduct) : Prop :=
  t.2.written = k.written
    ∧ (outcome.selects .tvSystemSleepPowerOff = false →
        t.2.InputDiffers config.input ∨ t.2.AuthenticationUnavailable)
    ∧ (t.1.marker = true → t.2.PoweredOff ∨ marker = true)

/-- The attempt is accountable: its outcome says what the exchanges did. -/
theorem wpE_attemptPowerOff (vars : EnvVars) (config : Config) :
    wpE (ledger pid) (attemptSystemSleepPowerOffWithOutcome vars config)
      (Accountable k config w.marker) anyError (w, k) := by
  unfold attemptSystemSleepPowerOffWithOutcome
  refine wpE_bind.mpr (wpE_lift.mpr (wp_perform_ledger fun env => ?_))
  generalize (World.answer env pid w .markerExists).1 = stateWasSet
  refine wpE_bind.mpr (wpE_liftM.mpr (wp.mono (fun r t ht => ?_) (wp_queryCurrentInput vars _ _)))
  obtain ⟨w₁, k₁⟩ := t
  obtain ⟨hw₁, hwritten, hmem⟩ := ht
  cases hw₁
  cases r with
  | ok currentInput =>
    dsimp only
    generalize hdecision :
      decideSystemSleepAfterInput config.input (.current currentInput) = decision
    refine wpE_bind.mpr (wpE.mono (fun _ t ht => ?_) (fun _ _ h => h)
      (wpE_applyMarkerTransitions _))
    cases ht
    -- the input shown decides whether the TV is switched off
    obtain ⟨hinput, hnext, hselects, htransitions⟩ | ⟨hinput, hnext, hselects, htransitions⟩ :=
      decideSystemSleepAfterInput_current _ _ hdecision
    · rw [hnext, htransitions]
      refine wpE_bind.mpr (wpE_writeLine ?_)
      refine wpE_bind.mpr (wpE_lift.mpr (wp_perform_ledger fun env' => ?_))
      refine wpE_bind.mpr (wpE.mono (fun _ t ht => ?_) (fun _ _ h => h)
        (wpE_concludePowerOff _ _))
      obtain ⟨rfl, rfl⟩ := ht
      refine (wpE_pure _).mpr ⟨hwritten, fun hnone => ?_, fun hmarker => ?_⟩
      · rw [PolicyOutcome.selects_merge, hselects] at hnone
        cases hnone
      · refine (markerAfter_powerOffResult hmarker).imp_left fun hoff => ?_
        show .ok () ∈ k₁.powerOffs ++ [env' (.powerOff config.tvIp)]
        revert hoff
        dsimp only [World.answer]
        cases env' (.powerOff config.tvIp) with
        | ok a => exact fun _ => List.mem_append_right _ (List.mem_singleton_self _)
        | error err => exact nofun
    · rw [hnext, htransitions]
      refine wpE_bind.mpr (wpE_writeLine ?_)
      exact (wpE_pure _).mpr ⟨hwritten, fun _ => .inl ⟨currentInput, hmem, hinput⟩, nofun⟩
  | error err =>
    dsimp only
    split
    · rename_i hauth
      refine wpE_bind.mpr (wpE_writeLine ?_)
      exact (wpE_pure _).mpr ⟨hwritten, fun _ => .inr ⟨err, hmem, hauth⟩, fun h => .inr h⟩
    · refine wpE_bind.mpr (wpE_writeLine ?_)
      refine wpE_bind.mpr (wpE_liftM.mpr (wp.mono (fun b t ht => ?_) (wp_retryPowerOff vars _ _)))
      obtain ⟨w₂, k₂⟩ := t
      obtain ⟨hw₂, hwritten₂, hoff⟩ := ht
      cases hw₂
      refine wpE_bind.mpr (wpE.mono (fun _ t ht => ?_) (fun _ _ h => h)
        (wpE_concludePowerOff _ _))
      obtain ⟨rfl, rfl⟩ := ht
      refine (wpE_pure _).mpr ⟨hwritten₂.trans hwritten, fun hnone => ?_, fun hmarker => ?_⟩
      · rw [PolicyOutcome.selects_merge, decideSystemSleepAfterInput_queryFailed] at hnone
        cases hnone
      · refine (markerAfter_powerOffResult hmarker).imp_left fun hsucceeded => hoff ?_
        cases b with
        | true => rfl
        | false => cases hsucceeded

/-- An attempt transition changes neither the world nor the record. -/
theorem wpE_applyAttemptTransition (transition : StateTransition) :
    wpE (ledger pid) (applySystemSleepAttemptTransition transition) (fun _ t => t = (w, k))
      anyError (w, k) := by
  unfold applySystemSleepAttemptTransition
  split
  · refine wpE_orFail.mpr (wp_perform_ledger fun env => ?_)
    show post _ _ (env .markAttempted) (w, k)
    cases env .markAttempted with
    | ok a => rfl
    | error err => trivial
  · refine wpE_bind.mpr (wpE_lift.mpr (wp_perform_ledger fun env => ?_))
    dsimp only [World.answer]
    cases env .clearAttempt with
    | ok a => exact (wpE_pure ()).mpr rfl
    | error err => exact wpE_writeLine rfl
  · exact (wpE_pure ()).mpr rfl
  · trivial
  · trivial
  · trivial

/-- A row of attempt transitions changes neither the world nor the record. -/
theorem wpE_applyAttemptTransitions (outcome : PolicyOutcome) :
    wpE (ledger pid) (applySystemSleepAttemptTransitions outcome) (fun _ t => t = (w, k)) anyError
      (w, k) := by
  unfold applySystemSleepAttemptTransitions
  generalize outcome.stateTransitions = transitions
  induction transitions with
  | nil => exact (wpE_pure ()).mpr rfl
  | cons transition rest ih =>
    rw [applySystemSleepAttemptTransitions.go, wpE_bind]
    refine wpE.mono (fun _ t ht => ?_) (fun _ _ h => h) (wpE_applyAttemptTransition transition)
    cases ht
    exact ih

/-- Writing the outcome stores it in the world and in the record. -/
theorem wpE_writeOutcome {outcome : SystemSleepCycleOutcome} {Q : Unit → World × Conduct → Prop}
    (h : Q () ({ w with outcome := some outcome }, { k with written := k.written ++ [outcome] })) :
    wpE (ledger pid) (orFail (perform (Call.writeOutcome outcome))) Q anyError (w, k) := by
  refine wpE_orFail.mpr (wp_perform_ledger fun env => ?_)
  dsimp only [World.answer]
  cases env (.writeOutcome outcome) with
  | ok a => exact h
  | error err => trivial

/-- What the stored verdict says about the run, where the marker was `marker` before it. -/
def Honest (config : Config) (marker : Bool) (outcome : PolicyOutcome) (t : World × Conduct) :
    Prop :=
  (.completed ∈ t.2.written →
      t.2.InputDiffers config.input ∨ t.2.AuthenticationUnavailable ∨ t.2.PoweredOff
        ∨ marker = true)
    ∧ (outcome.selects .tvSystemSleepPowerOff = true → ¬ t.2.PoweredOff → marker = false →
        .retryableTransportFailure ∈ t.2.written
          ∧ t.1.outcome = some .retryableTransportFailure)

/-- The verdict of an accountable attempt is honest once it is stored. -/
theorem Accountable.honest {config : Config} {marker readable : Bool}
    {start attempt : PolicyOutcome} {cycleOutcome : SystemSleepCycleOutcome} {k₀ : Conduct}
    (h : Accountable k₀ config marker attempt (w, k)) (hk₀ : k₀.written = [.inProgress])
    (hstart : start.selects .tvSystemSleepPowerOff = false)
    (hcycle : decideSystemSleepCycleOutcome (start.merge attempt) (w.marker && readable)
      = cycleOutcome) :
    Honest config marker (start.merge attempt) ({ w with outcome := some cycleOutcome },
      { k with written := k.written ++ [cycleOutcome] }) := by
  obtain ⟨hwritten, hnone, hmarker⟩ := h
  replace hwritten : k.written = [.inProgress] := hwritten.trans hk₀
  unfold decideSystemSleepCycleOutcome at hcycle
  rw [PolicyOutcome.selects_merge, hstart, Bool.false_or] at hcycle
  unfold Honest
  rw [PolicyOutcome.selects_merge, hstart, Bool.false_or, hwritten]
  split at hcycle
  · cases hcycle
    exact ⟨nofun, fun _ _ _ => ⟨by simp, rfl⟩⟩
  · rename_i hverdict
    cases hcycle
    -- completed: nothing was selected, or the marker was seen
    have hmarker' : attempt.selects .tvSystemSleepPowerOff = true → w.marker = true := by
      intro hselects
      rw [hselects] at hverdict
      cases hw : w.marker with
      | true => rfl
      | false => exact absurd (by rw [hw]; rfl) hverdict
    refine ⟨fun _ => ?_, fun hselects hoff habsent => ?_⟩
    · cases hselects : attempt.selects .tvSystemSleepPowerOff with
      | true => exact .inr (.inr (hmarker (hmarker' hselects)))
      | false => exact (hnone hselects).imp_right .inl
    · cases hmarker (hmarker' hselects) with
      | inl hpowered => exact absurd hpowered hoff
      | inr hpresent => rw [habsent] at hpresent; cases hpresent

/-- Giving up the lock changes nothing that the verdict speaks of. -/
theorem wp_unlock {Q : World × Conduct → Prop} (h : ∀ lock, Q ({ w with lock }, k)) :
    wp (ledger pid) (perform Call.unlock) (fun _ => Q) (w, k) :=
  wp_perform_ledger fun _ => h _

/-- The owner's run is honest: the outcome it stores is the one its exchanges had. -/
theorem wpE_owner (vars : EnvVars) (config : Config) :
    wpE (ledger pid) (handleSystemSuspendOwnerWithOutcome vars config)
      (fun r => Honest config w.marker r.1) anyError (w, {}) := by
  unfold handleSystemSuspendOwnerWithOutcome
  refine wpE_withGuard.mpr (wpE.mono (Q := fun r => Honest config w.marker r.1) (E := anyError)
    (fun r t ht => wp_unlock fun _ => ht) (fun err t _ => wp_unlock fun _ => trivial) ?_)
  refine wpE_bind.mpr (wpE_orFail.mpr (wp_perform_ledger fun env => ?_))
  dsimp only [World.answer]
  cases env .readOutcome with
  | error err => trivial
  | ok _ =>
    show wpE _ (if w.outcome = some .completed then _ else _) _ _ (w, _)
    split
    · exact (wpE_pure _).mpr ⟨nofun, nofun⟩
    · refine wpE_bind.mpr (wpE_writeOutcome ?_)
      refine wpE_bind.mpr (wpE.mono (fun _ t ht => ?_) (fun _ _ h => h)
        (wpE_applyAttemptTransitions _))
      cases ht
      refine wpE_bind.mpr (wpE.mono (fun attempt t ht => ?_) (fun _ _ h => h)
        (wpE_attemptPowerOff vars config))
      obtain ⟨w₁, k₁⟩ := t
      refine wpE_bind.mpr (wpE_lift.mpr (wp_perform_ledger fun env' => ?_))
      refine wpE_bind.mpr (wpE_writeOutcome ?_)
      exact (wpE_pure _).mpr (ht.honest rfl rfl rfl)

end

end Conduct

open Conduct

/-- **The stored outcome is honest.** An owner run that ends well stores `completed` only if the
TV was on another input, or had no usable stored authentication, or a power-off of this run
succeeded, or the marker was there before the run. With a power-off selected, none successful and
no marker before, it stores `retryableTransportFailure` and leaves it in the cycle file. -/
theorem suspend_owner_outcome_honest (vars : EnvVars) (config : Config) (pid : Pid) (w : World)
    (envs : Nat → Environment) {outcome : PolicyOutcome} {disposition : SuspendRailDisposition}
    {s : World × (Nat → Environment)} {k : Conduct}
    (hrun : exec (record pid) (handleSystemSuspendOwnerWithOutcome vars config).run
      ((w, envs), {}) = (.ok (outcome, disposition), s, k)) :
    (.completed ∈ k.written →
      k.InputDiffers config.input ∨ k.AuthenticationUnavailable ∨ k.PoweredOff
        ∨ w.marker = true)
    ∧ (outcome.selects .tvSystemSleepPowerOff = true → ¬ k.PoweredOff → w.marker = false →
        .retryableTransportFailure ∈ k.written
          ∧ s.1.outcome = some .retryableTransportFailure) := by
  have hpost := wpE.exec (fun s => (s.1.1, s.2)) (record_ledger pid) (s := ((w, envs), {}))
    trivial (wpE_owner vars config)
  rw [hrun] at hpost
  exact hpost

/-- What a run does to an unreachable TV, with this outcome stored in the end. -/
def Conduct.unreachable (stored : SystemSleepCycleOutcome) : Conduct where
  inputs := [.error ⟨.readInput, .transport, "timed out"⟩]
  powerOffs := [.error ⟨.powerOff, .transport, "timed out"⟩]
  written := [.inProgress, stored]

theorem Conduct.not_poweredOff_unreachable (stored : SystemSleepCycleOutcome) :
    ¬ (Conduct.unreachable stored).PoweredOff := by
  simp [PoweredOff, unreachable]

/-- The TV is unreachable and there was no marker before: the outcome is retryable. -/
theorem suspend_owner_outcome_honest_unreachable :
    ∃ outcome disposition s,
      exec (record 0) (handleSystemSuspendOwnerWithOutcome (fun _ => none) .sample).run
        (({ lock := some 0 }, fun _ => .unreachable .sample), {})
          = (.ok (outcome, disposition), s, .unreachable .retryableTransportFailure)
      ∧ s.1.outcome = some .retryableTransportFailure := by
  refine ⟨_, _, _, rfl, ?_⟩
  have hhonest := suspend_owner_outcome_honest (fun _ => none) .sample 0 { lock := some 0 }
    (fun _ => .unreachable .sample) rfl
  exact (hhonest.2 rfl (Conduct.not_poweredOff_unreachable _) rfl).2

/-- With the marker there before, the same failure is stored as `completed`: the fallback keeps
the marker, and the marker counts as done. -/
theorem completed_without_power_off :
    ∃ outcome disposition s k,
      exec (record 0) (handleSystemSuspendOwnerWithOutcome (fun _ => none) .sample).run
        (({ lock := some 0, marker := true }, fun _ => .unreachable .sample), {})
          = (.ok (outcome, disposition), s, k)
      ∧ outcome.selects .tvSystemSleepPowerOff = true ∧ ¬ k.PoweredOff
      ∧ .completed ∈ k.written ∧ .retryableTransportFailure ∉ k.written
      ∧ ¬ k.InputDiffers Config.sample.input ∧ ¬ k.AuthenticationUnavailable := by
  refine ⟨_, _, _, .unreachable .completed, rfl, rfl, Conduct.not_poweredOff_unreachable _, ?_⟩
  simp [Conduct.unreachable, InputDiffers, AuthenticationUnavailable]

end LgBuddy
