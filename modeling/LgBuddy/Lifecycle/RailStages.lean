import LgBuddy.Lifecycle.Rails

/-!
# LgBuddy — the stages of a rail

A rail works its way from outside the attempt lock to the stored outcome and out again. The stages
of that way are read off its own calls alone, so that they can be checked program by program, with
arbitrary answers; what they mean for the files is left to the interleaving.

* `Stage`, `Stage.note` — the stages, and how a call moves on;
* `Stage.permits` — the calls of each stage;
* `wp_railProgram` — both rails keep to the stages, and end outside the lock.
-/

namespace LgBuddy

open LgBuddy.Action Interleaving Program

inductive Stage where
  /-- Without the lock. `tried`: it has asked for the lock; `saw`: the call before this moment read
  `retryableTransportFailure`. -/
  | outside (tried saw : Bool)
  /-- It holds the lock and does not know the outcome yet. -/
  | fresh
  /-- It has read the outcome under the lock, and it was not `completed`. -/
  | working
  /-- Its power-off succeeded. -/
  | off
  /-- It has created the marker after that. -/
  | marked
  /-- It has looked whether the marker is there. -/
  | looked (marker : Bool)
  /-- It has only the lock left to give up. -/
  | closing
  deriving DecidableEq, Repr

namespace Stage

/-- In possession of the lock. -/
def holding : Stage → Bool
  | .outside _ _ => false
  | _ => true

/-- After the outcome was read under the lock, and before the last one is stored. -/
def deciding : Stage → Bool
  | .working | .off | .marked | .looked _ => true
  | .outside _ _ | .fresh | .closing => false

/-- The power-off has succeeded, and the outcome is not stored yet. -/
def owing : Stage → Bool
  | .off | .marked | .looked _ => true
  | .outside _ _ | .fresh | .working | .closing => false

def note : Stage → (c : Call) → CallReply c → Stage
  | .outside _ _, .tryLock, .ok true => .fresh
  | .outside _ _, .tryLock, _ => .outside true false
  | .outside tried _, .readOutcome, .ok (some .retryableTransportFailure) => .outside tried true
  | .outside tried _, _, _ => .outside tried false
  | _, .unlock, _ => .outside true false
  | .fresh, .readOutcome, .ok (some .completed) => .closing
  | .fresh, .readOutcome, .ok _ => .working
  | .fresh, .readOutcome, .error _ => .closing
  | .working, .writeOutcome .inProgress, .ok () => .working
  | .working, .writeOutcome _, _ => .closing
  | .working, .powerOff _, .ok () => .off
  | .off, .createMarker, .ok () => .marked
  | .off, .createMarker, .error _ => .closing
  | .marked, .markerExists, marker => .looked marker
  | .looked _, .writeOutcome _, _ => .closing
  | stage, _, _ => stage

/-- Calls that leave the files of the cycle and the TV alone. -/
def harmless : Call → Bool
  | .writeLine _ | .flush | .sleep _ | .markAttempted | .clearAttempt => true
  | _ => false

def permits : Stage → Call → Prop
  | .outside tried saw, .tryLock => tried = false ∨ saw = true
  | .outside _ _, .readOutcome => True
  | .outside _ _, c => harmless c = true
  | .fresh, .readOutcome | .fresh, .writeLine _ | .fresh, .unlock => True
  | .fresh, _ => False
  | .working, .tryLock | .working, .readOutcome | .working, .clearOutcome => False
  | .working, _ => True
  | .off, .createMarker => True
  | .off, _ => False
  | .marked, .markerExists => True
  | .marked, _ => False
  | .looked marker, .writeOutcome outcome => marker = true → outcome = .completed
  | .looked _, _ => False
  | .closing, .unlock => True
  | .closing, _ => False

/-- Any answer is possible. -/
abbrev contract : Contract Call CallReply Stage := .observed permits note

/-- A run begins without having asked for the lock. -/
abbrev start : Stage := .outside false false

/-- A run ends without the lock. -/
def Left (stage : Stage) : Prop := stage.holding = false

section

variable {stage : Stage} {α : Type}

/-- A call the stage permits is made, and the stage notes its answer. -/
theorem wp_call {c : Call} {Q : CallReply c → Stage → Prop} (hpermits : stage.permits c)
    (h : ∀ r, Q r (stage.note c r)) : wp contract (perform c) Q stage := by
  refine (wp_perform c).mpr ⟨hpermits, fun r t hnext => ?_⟩
  have ht : t = stage.note c r := hnext
  rw [ht]
  exact h r

/-- Calls of the working stage that do not lead out of it. -/
def Routine (c : Call) : Prop :=
  Stage.working.permits c ∧ ∀ r, Stage.working.note c r = .working

theorem routine_writeLine (line : String) : Routine (.writeLine line) := ⟨trivial, fun _ => rfl⟩

theorem routine_markers : Routine .createMarker ∧ Routine .clearMarker :=
  ⟨⟨trivial, fun _ => rfl⟩, ⟨trivial, fun _ => rfl⟩⟩

/-- A routine program leaves the handler at work. -/
theorem wp_routine {p : Program Call CallReply α} (h : Within Routine p) :
    wp contract p (fun _ stage => stage = .working) .working := by
  refine h.wp (I := (· = Stage.working)) (fun stage c hc hstage => ?_) rfl
  subst hstage
  refine ⟨hc.1, fun r t hnext => ?_⟩
  have ht : t = Stage.working.note c r := hnext
  rw [ht, hc.2]

/-- A routine action leaves the handler at work, whether it returns or fails. -/
theorem wpE_routine {p : Action α} (h : WithinE Routine p) :
    wpE contract p (fun _ stage => stage = .working) (fun _ stage => stage = .working) .working :=
  wp.mono (fun _ _ hstage => post_const.mpr hstage) (wp_routine h)

/-- Outside the lock, harmless calls leave it open whether the lock may be asked for. -/
theorem wpE_harmless {p : Action α} (h : WithinE (harmless · = true) p) {tried saw : Bool} :
    wpE contract p (fun _ stage => ∃ saw, stage = .outside tried saw)
      (fun _ stage => ∃ saw, stage = .outside tried saw) (.outside tried saw) := by
  refine wp.mono (fun _ _ hstage => post_const.mpr hstage)
    (Within.wp (I := fun stage => ∃ saw, stage = outside tried saw) h (fun stage c hc hstage => ?_)
      ⟨saw, rfl⟩)
  obtain ⟨saw, rfl⟩ := hstage
  cases c with
  | writeLine _ | flush | sleep _ | markAttempted | clearAttempt =>
    exact ⟨rfl, fun r t hnext => ⟨false, hnext⟩⟩
  | _ => cases hc

/-! ## The power-off -/

/-- The retried power-off ends off where it succeeded and at work where it did not. -/
theorem wp_retryPowerOff (vars : EnvVars) (tv : Ipv4Addr) (attempts : Nat) :
    wp contract (retryPowerOff vars tv attempts)
      (fun succeeded stage => stage = if succeeded then .off else .working) .working := by
  induction attempts with
  | zero => rfl
  | succ attempts ih =>
    unfold retryPowerOff
    refine wp_bind.mpr (wp_call trivial fun r => ?_)
    cases r with
    | ok _ => rfl
    | error err =>
      dsimp only
      -- a terminal failure ends the loop, the last attempt does not sleep
      split
      · rfl
      · split
        · exact wp_bind.mpr (wp_call trivial fun _ => ih)
        · exact ih

/-- A failed attempt is done with in the working stage; a successful one creates the marker. -/
theorem wpE_concludePowerOff (powerOff : TvEffectObservation)
    (context : SystemSleepPowerOffContext) :
    wpE contract (concludeSystemSleepPowerOff powerOff context)
      (fun _ stage => stage = .working ∨ stage = .marked)
      (fun _ stage => stage = .working ∨ stage = .closing)
      (if powerOff = .succeeded then .off else .working) := by
  cases powerOff with
  | succeeded =>
    unfold concludeSystemSleepPowerOff
    refine wpE_bind.mpr (wpE_bind.mpr (wpE_orFail.mpr (wp_call trivial fun r => ?_)))
    cases r with
    | ok _ => exact .inr rfl
    | error err => exact .inr rfl
  | failed detail =>
    refine wpE.mono (fun _ _ => .inl) (fun _ _ => .inl) (wpE_routine ?_)
    refine (within_applyMarkerTransitions routine_markers.1 routine_markers.2 _).bind fun _ => ?_
    refine WithinE.bind ?_ fun _ => trivial
    unfold renderSystemSleepPowerOffResult
    split
    · trivial
    all_goals exact within_writeLine routine_writeLine _

/-- The attempt ends marked or at work where it returns, and never outside the guard. -/
theorem wpE_attemptPowerOff (vars : EnvVars) (config : Config) :
    wpE contract (attemptSystemSleepPowerOffWithOutcome vars config)
      (fun _ stage => stage = .working ∨ stage = .marked)
      (fun _ stage => stage = .working ∨ stage = .closing) .working := by
  unfold attemptSystemSleepPowerOffWithOutcome
  refine wpE_bind.mpr (wpE_ask.mpr ⟨trivial, fun stateWasSet stage hstage => ?_⟩)
  cases hstage
  -- the query of the input is routine, whatever it is answered
  have hquery : Within Routine (queryCurrentInputWithRetries vars config.tvIp
      systemPreSleepGetInputRetries) :=
    within_queryCurrentInput vars _ ⟨trivial, fun _ => rfl⟩ (fun _ => ⟨trivial, fun _ => rfl⟩) _
  refine wpE_bind.mpr (wpE_liftM.mpr (wp.mono (fun r stage hstage => ?_) (wp_routine hquery)))
  subst hstage
  have hline (line : String) := wpE_routine (within_writeLine routine_writeLine line)
  split
  · rename_i currentInput
    generalize decideSystemSleepAfterInput config.input (.current currentInput) = decision
    dsimp only
    refine wpE_bind.mpr (wpE.mono (fun _ stage hstage => ?_) (fun _ _ => .inl) (wpE_routine
      (within_applyMarkerTransitions routine_markers.1 routine_markers.2 _)))
    subst hstage
    split
    · refine wpE_bind.mpr (wpE.mono (fun _ stage hstage => ?_) (fun _ _ => .inl) (hline _))
      subst hstage
      refine wpE_bind.mpr (wpE_ask.mpr ⟨trivial, fun r stage hstage => ?_⟩)
      cases hstage
      cases r with
      | ok _ => exact wpE_bind.mpr (wpE_concludePowerOff .succeeded _)
      | error err => exact wpE_bind.mpr (wpE_concludePowerOff (.failed (toString err)) _)
    · exact wpE_bind.mpr (wpE.mono (fun _ _ => .inl) (fun _ _ => .inl) (hline _))
  · dsimp only
    split
    · exact wpE_bind.mpr (wpE.mono (fun _ _ => .inl) (fun _ _ => .inl) (hline _))
    · refine wpE_bind.mpr (wpE.mono (fun _ stage hstage => ?_) (fun _ _ => .inl) (hline _))
      subst hstage
      refine wpE_bind.mpr (wpE_liftM.mpr (wp.mono (fun succeeded stage hstage => ?_)
        (wp_retryPowerOff vars _ _)))
      subst hstage
      -- without an input the power-off is tried blindly, several times
      cases succeeded with
      | true => exact wpE_bind.mpr (wpE_concludePowerOff .succeeded _)
      | false => exact wpE_bind.mpr (wpE_concludePowerOff (.failed "power_off failed") _)

/-! ## The owner -/

/-- From the stages in which the guard is dropped. -/
theorem wp_unlock {Q : Stage → Prop} (hstage : stage = .fresh ∨ stage = .working ∨ stage = .closing)
    (h : Q (.outside true false)) : wp contract (perform Call.unlock) (fun _ => Q) stage := by
  obtain rfl | rfl | rfl := hstage
  · exact wp_call trivial fun _ => h
  · exact wp_call trivial fun _ => h
  · exact wp_call trivial fun _ => h

/-- The verdict of an owner is never that it is still at work. -/
theorem note_verdict {outcome : PolicyOutcome} {marker : Bool}
    {cycleOutcome : SystemSleepCycleOutcome}
    (h : decideSystemSleepCycleOutcome outcome marker = cycleOutcome)
    (r : CallReply (.writeOutcome cycleOutcome)) :
    Stage.working.note (.writeOutcome cycleOutcome) r = .closing := by
  unfold decideSystemSleepCycleOutcome at h
  split at h
  · subst h
    rfl
  · subst h
    rfl

theorem decideSystemSleepCycleOutcome_marker (outcome : PolicyOutcome) :
    decideSystemSleepCycleOutcome outcome true = .completed := by
  simp [decideSystemSleepCycleOutcome]

/-- The owner's run ends outside, after one attempt. -/
theorem wpE_owner (vars : EnvVars) (config : Config) :
    wpE contract (handleSystemSuspendOwnerWithOutcome vars config)
      (fun _ stage => stage = .outside true false) (fun _ stage => stage = .outside true false)
      .fresh := by
  unfold handleSystemSuspendOwnerWithOutcome
  refine wpE_withGuard.mpr (wpE.mono (Q := fun _ stage => stage = .closing)
    (E := fun _ stage => stage = .working ∨ stage = .closing)
    (fun _ _ hstage => wp_unlock (.inr (.inr hstage)) rfl)
    (fun _ _ hstage => wp_unlock (.inr hstage) rfl) ?_)
  refine wpE_bind.mpr (wpE_orFail.mpr (wp_call trivial fun r => ?_))
  -- a completed cycle is not tried again, any other is
  match r with
  | .error err => exact .inr rfl
  | .ok (some .completed) => rfl
  | .ok (some .inProgress) | .ok (some .retryableTransportFailure) | .ok none =>
    show wpE contract _ _ _ Stage.working
    refine wpE_bind.mpr (wpE_orFail.mpr (wp_call trivial fun r => ?_))
    cases r with
    | error err => exact .inr rfl
    | ok _ =>
      refine wpE_bind.mpr (wpE.mono (fun _ stage hstage => ?_) (fun _ _ => .inl) (wpE_routine
        (within_applyAttemptTransitions ⟨trivial, fun _ => rfl⟩ ⟨trivial, fun _ => rfl⟩
          routine_writeLine _)))
      subst hstage
      refine wpE_bind.mpr (wpE.mono (fun attempt stage hstage => ?_) (fun _ _ h => h)
        (wpE_attemptPowerOff vars config))
      refine wpE_bind.mpr ?_
      obtain rfl | rfl := hstage
      · refine wpE_ask.mpr ⟨trivial, fun marker stage hstage => ?_⟩
        cases hstage
        generalize hverdict : decideSystemSleepCycleOutcome _ marker = cycleOutcome
        refine wpE_bind.mpr (wpE_orFail.mpr (wp_call trivial fun r => ?_))
        have hclosing := note_verdict hverdict r
        cases r with
        | ok _ => exact hclosing
        | error err => exact .inr hclosing
      · refine wpE_ask.mpr ⟨trivial, fun marker stage hstage => ?_⟩
        cases hstage
        generalize hverdict : decideSystemSleepCycleOutcome _ marker = cycleOutcome
        refine wpE_bind.mpr (wpE_orFail.mpr (wp_call (fun hmarker => ?_) fun r => ?_))
        · rw [← hverdict, hmarker, decideSystemSleepCycleOutcome_marker]
        · cases r with
          | ok _ => rfl
          | error err => exact .inr rfl

/-! ## The rails -/

/-- A look at the outcome from outside the lock. -/
theorem note_outside_readOutcome (tried saw : Bool) (r : CallReply .readOutcome) :
    ∃ saw', (outside tried saw).note .readOutcome r = .outside tried saw' := by
  match r with
  | .error err => exact ⟨_, rfl⟩
  | .ok (some .retryableTransportFailure) => exact ⟨_, rfl⟩
  | .ok (some .completed) | .ok (some .inProgress) | .ok none => exact ⟨_, rfl⟩

/-- The whole handler ends outside, as owner or as observer. -/
theorem wpE_systemSuspend (vars : EnvVars) (config : Config) (event : RuntimeEvent) (saw : Bool) :
    wpE contract (handleSystemSuspendWithOutcome vars config event)
      (fun _ stage => ∃ tried saw, stage = .outside tried saw)
      (fun _ stage => ∃ tried saw, stage = .outside tried saw) (.outside false saw) := by
  unfold handleSystemSuspendWithOutcome
  split
  case h_3 => exact ⟨_, _, rfl⟩
  case h_4 => exact ⟨_, _, rfl⟩
  all_goals
    refine wpE_bind.mpr (wpE_orFail.mpr (wp_call (.inl rfl) fun r => ?_))
    match r with
    | .error err => exact ⟨_, _, rfl⟩
    | .ok true =>
      exact wpE.mono (fun _ _ h => ⟨_, _, h⟩) (fun _ _ h => ⟨_, _, h⟩) (wpE_owner vars config)
    | .ok false =>
      refine wpE_bind.mpr (wpE_orFail.mpr (wp_call trivial fun r => ?_))
      obtain ⟨saw', hstage⟩ := note_outside_readOutcome true false r
      cases r with
      | ok outcome => exact ⟨true, saw', hstage⟩
      | error err => exact ⟨true, saw', hstage⟩

/-- One look at the cycle state. Only `retryableTransportFailure` comes with the lock. -/
theorem wpE_observe {saw : Bool} (tried : Bool) :
    wpE contract observeSystemSleepCycle
      (fun observation stage => if observation = some .retryableTransportFailure then stage = .fresh
        else ∃ tried saw, stage = .outside tried saw)
      (fun _ stage => ∃ tried saw, stage = .outside tried saw) (.outside tried saw) := by
  unfold observeSystemSleepCycle
  refine wpE_bind.mpr (wpE_orFail.mpr (wp_call trivial fun r => ?_))
  match r with
  | .error err => exact ⟨_, _, rfl⟩
  | .ok (some .completed) => exact ⟨_, _, rfl⟩
  | .ok (some .inProgress) | .ok none => exact ⟨_, _, rfl⟩
  | .ok (some .retryableTransportFailure) =>
    refine wpE_bind.mpr (wpE_orFail.mpr (wp_call (.inr rfl) fun r => ?_))
    match r with
    | .error err => exact ⟨_, _, rfl⟩
    | .ok true => rfl
    | .ok false => exact ⟨_, _, rfl⟩

/-- The wait ends fresh where the cycle may be retried, and outside in every other case. -/
theorem wpE_wait (deadlineMillis waited : Nat) {tried saw : Bool} :
    wpE contract (waitForSystemSleepCycleObservation deadlineMillis waited)
      (fun observation stage => if observation = .retryableTransportFailure then stage = .fresh
        else ∃ tried saw, stage = .outside tried saw)
      (fun _ stage => ∃ tried saw, stage = .outside tried saw) (.outside tried saw) := by
  -- along the loop itself: each look leaves the process outside, or ends the wait
  induction waited using waitForSystemSleepCycleObservation.induct deadlineMillis
    generalizing tried saw with
  | case1 waited ih =>
    rw [waitForSystemSleepCycleObservation]
    refine wpE_bind.mpr (wpE.mono (fun observation stage hstage => ?_) (fun _ _ h => h)
      (wpE_observe tried))
    cases observation with
    | some observation =>
      refine (wpE_pure observation).mpr ?_
      simpa using hstage
    | none =>
      obtain ⟨tried, saw, rfl⟩ := hstage
      dsimp only
      split
      · exact ⟨tried, saw, rfl⟩
      · rename_i hwaiting
        refine wpE_bind.mpr (wpE_ask.mpr ⟨rfl, fun _ stage hstage => ?_⟩)
        cases hstage
        exact ih hwaiting

/-- A retry as owner leaves by the guard, whether or not the lock was had. -/
theorem wpE_retryAsOwner (vars : EnvVars) (config : Config) :
    wpE contract (handleNetworkTeardownRailDisposition.retryAsOwner vars config)
      (fun _ => Left) (fun _ => Left) .fresh := by
  unfold handleNetworkTeardownRailDisposition.retryAsOwner
  refine wpE_bind.mpr (wpE_ask.mpr ⟨trivial, fun r stage hstage => ?_⟩)
  cases hstage
  have hleft (stage : Stage) (h : stage = .outside true false) : Left stage := by
    rw [h]
    rfl
  cases r with
  | ok _ => exact wpE.mono (fun _ => hleft) (fun _ => hleft) (wpE_owner vars config)
  | error err => exact wpE_withGuard.mpr (wp_unlock (.inl rfl) rfl)

/-- Outside the lock, harmless calls keep it so. -/
theorem wpE_harmless_left {p : Action α} (h : WithinE (harmless · = true) p) {tried saw : Bool} :
    wpE contract p (fun _ => Left) (fun _ => Left) (.outside tried saw) := by
  have hleft (stage : Stage) (h : ∃ saw, stage = .outside tried saw) : Left stage := by
    obtain ⟨saw, rfl⟩ := h
    rfl
  exact wpE.mono (fun _ => hleft) (fun _ => hleft) (wpE_harmless h)

/-- Every disposition of the rail leaves the process outside the guard. -/
theorem wpE_railDisposition (vars : EnvVars) (config : Config)
    (disposition : SuspendRailDisposition) (outcome : PolicyOutcome) {tried saw : Bool} :
    wpE contract (handleNetworkTeardownRailDisposition vars config disposition outcome)
      (fun _ => Left) (fun _ => Left) (.outside tried saw) := by
  unfold handleNetworkTeardownRailDisposition
  split
  case h_1 | h_2 => exact (wpE_pure outcome).mpr rfl
  all_goals
    refine wpE_bind.mpr (wpE.mono (fun observation stage hstage => ?_) (fun _ stage hstage => ?_)
      (wpE_wait _ _))
    · cases observation with
      | completed =>
        obtain ⟨tried, saw, rfl⟩ := hstage
        refine wpE_harmless_left ((within_writeLine (fun _ => rfl) _).bind fun _ => ?_)
        trivial
      | inProgress =>
        obtain ⟨tried, saw, rfl⟩ := hstage
        refine wpE_harmless_left ((within_writeLine (fun _ => rfl) _).bind fun _ => ?_)
        trivial
      | retryableTransportFailure =>
        replace hstage : stage = .fresh := hstage
        subst hstage
        exact wpE_bind.mpr (wpE_retryAsOwner vars config)
    · obtain ⟨tried, saw, rfl⟩ := hstage
      rfl

/-- The handler of a network teardown leaves the process outside the guard. -/
theorem wpE_networkTeardown (vars : EnvVars) (config : Config) (event : RuntimeEvent)
    (phaseReadError : Option String) :
    wpE contract (handleNetworkTeardownWithOutcome vars config event phaseReadError)
      (fun _ => Left) (fun _ => Left) start := by
  unfold handleNetworkTeardownWithOutcome
  split
  · rename_i machineSleepPending _
    generalize decideNetworkTeardown _ = decision
    dsimp only
    split
    · refine wpE_bind.mpr (wpE.mono (fun _ stage hstage => ?_) (fun _ stage hstage => ?_)
        (wpE_harmless (within_writeLine (fun _ => rfl) _)))
      · obtain ⟨saw, rfl⟩ := hstage
        refine wpE_bind.mpr (wpE.mono (fun _ stage hstage => ?_) (fun _ stage hstage => ?_)
          (wpE_systemSuspend vars config event saw))
        · obtain ⟨tried, saw, rfl⟩ := hstage
          exact wpE_railDisposition vars config _ _
        · obtain ⟨tried, saw, rfl⟩ := hstage
          rfl
      · obtain ⟨saw, rfl⟩ := hstage
        rfl
    · refine wpE_harmless_left (WithinE.bind (WithinE.bind (within_ask rfl) fun r => ?_) fun _ =>
        (within_writeLine (fun _ => rfl) _).bind fun _ => ?_)
      · split
        · trivial
        · exact (within_writeLine (fun _ => rfl) _).bind fun _ => trivial
      · trivial
    · refine wpE_harmless_left (WithinE.bind ?_ fun _ => ?_)
      · unfold renderNetworkTeardownStop
        split
        · exact within_writeLine (fun _ => rfl) _
        · split
          · exact within_writeLine (fun _ => rfl) _
          · trivial
      · trivial
  · rfl

/-- **Both rails keep to the stages**, and leave the lock behind. -/
theorem wp_railProgram (rail : Rail) :
    wp contract rail.program (fun _ => Left) start := by
  cases rail with
  | logind vars config event =>
    refine wp_bind.mpr (wp.mono (fun r stage hstage => ?_)
      (wpE_systemSuspend vars config event false))
    obtain ⟨tried, saw, rfl⟩ := post_const.mp hstage
    rfl
  | networkManager vars config event phaseReadError =>
    refine wp_bind.mpr (wp.mono (fun r stage hstage => ?_)
      (wpE_networkTeardown vars config event phaseReadError))
    exact post_const.mp hstage

end

end Stage

end LgBuddy
