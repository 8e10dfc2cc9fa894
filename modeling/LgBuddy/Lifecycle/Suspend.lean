import LgBuddy.Lifecycle.Calls
import Mathlib.Algebra.Group.Nat.Defs

/-!
# LgBuddy — the suspend rail

`lifecycle.rs`, from the suspend event to the stored cycle outcome.

* `decide…` — the policy decisions, pure;
* `apply…Transitions` — the marker transitions of an outcome, made one after another;
* `attemptSystemSleepPowerOffWithOutcome` — query the input, power the TV off;
* `handleSystemSuspendWithOutcome` — the logind rail: at most one owner at a time;
* `handleNetworkTeardownWithOutcome` — the NetworkManager rail, which joins a running owner and
  retries after a retryable failure.
-/

namespace LgBuddy

open LgBuddy.Action Program

/-! ## Settings -/

/-- The environment variables of a process. -/
abbrev EnvVars := String → Option String

/-- `str::parse::<u64>`: an optional plus sign, then decimal digits. -/
def parseU64 (value : String) : Option Nat :=
  let digits : List Char := match value.toList with
    | '+' :: ds => ds
    | ds => ds
  let n := digits.foldl (fun n d => 10 * n + (d.toNat - '0'.toNat)) 0
  if digits ≠ [] ∧ digits.all Char.isDigit ∧ n < 2 ^ 64 then some n else none

/-- In seconds, as is every duration below that has no unit in its name. -/
def durationOverrideSecs (vars : EnvVars) (envKey : String) (default : Nat) : Nat :=
  ((vars envKey).bind parseU64).getD default

def systemSleepRailDeadline (vars : EnvVars) : Nat :=
  durationOverrideSecs vars "LG_BUDDY_SYSTEM_SLEEP_RAIL_DEADLINE_SECS" 4

def systemSleepRetryDelay (vars : EnvVars) : Nat :=
  durationOverrideSecs vars "LG_BUDDY_SLEEP_RETRY_DELAY_SECS" 1

def systemSleepRailWaitPollMillis : Nat := 50

def systemPreSleepGetInputRetries : Nat := 0

def systemPreSleepPowerOffAttempts : Nat := 1

/-! ## Decisions -/

structure LifecyclePolicyDecision (N : Type) where
  next : N
  outcome : PolicyOutcome := {}

inductive TvInputObservation where
  | current (input : CurrentInput)
  | queryFailed (detail : String)
  deriving DecidableEq, Repr

inductive TvEffectObservation where
  | succeeded
  | failed (detail : String)
  deriving DecidableEq, Repr

inductive SystemSleepNext where
  | powerOff
  | stop
  deriving DecidableEq, Repr

inductive SystemSleepPowerOffContext where
  | knownInput
  | fallbackAfterInputQueryFailure (markerWasSet : Bool)
  deriving DecidableEq, Repr

inductive SystemSleepAttemptNext where
  | continue
  | stop
  deriving DecidableEq, Repr

inductive SuspendRailDisposition where
  | ownerCompleted
  | joinedInProgress
  | duplicateCompleted
  | retryableFailure
  deriving DecidableEq, Repr

inductive NetworkTeardownNext where
  | attemptPreSleep
  | clearAttempt
  | stop
  deriving DecidableEq, Repr

structure NetworkTeardownPolicyInput where
  policyEnabled : Bool
  machineSleepPending : Option Bool
  phaseReadError : Option String

def createSystemMarker (reason : TransitionReasonCode) : StateTransition :=
  .createMarker .systemScreenOwnership { code := reason }

def clearSystemMarker (reason : TransitionReasonCode) : StateTransition :=
  .clearMarker .systemScreenOwnership { code := reason }

def clearSystemSleepAttemptMarker (reason : TransitionReasonCode) : StateTransition :=
  .clearMarker .systemSleepAttempt { code := reason }

def decideSystemSleepAfterInput (configuredInput : HdmiInput) :
    TvInputObservation → LifecyclePolicyDecision SystemSleepNext
  | .current currentInput =>
    if currentInput.isHdmi configuredInput then
      { next := .powerOff
        outcome := PolicyOutcome.withAction {} .tvSystemSleepPowerOff { code := .runtimeEvent } }
    else
      { next := .stop
        outcome := (PolicyOutcome.withNoAction {}
            { code := .inputMismatch
              detail := s!"TV is on {currentInput}, not {configuredInput.asStr}" })
          |>.withStateTransition (clearSystemMarker .inputMismatch) }
  | .queryFailed _ =>
    { next := .powerOff
      outcome := (PolicyOutcome.withDiagnostic {}
          (.warning "input query failed before system sleep"))
        |>.withAction .tvSystemSleepPowerOff { code := .transportFailure } }

/-- The two decisions after a successful query. -/
theorem decideSystemSleepAfterInput_current (configuredInput : HdmiInput)
    (currentInput : CurrentInput) {decision : LifecyclePolicyDecision SystemSleepNext}
    (h : decideSystemSleepAfterInput configuredInput (.current currentInput) = decision) :
    (currentInput.isHdmi configuredInput = true ∧ decision.next = .powerOff
      ∧ decision.outcome.selects .tvSystemSleepPowerOff = true
      ∧ decision.outcome.stateTransitions = [])
    ∨ (currentInput.isHdmi configuredInput = false ∧ decision.next = .stop
      ∧ decision.outcome.selects .tvSystemSleepPowerOff = false
      ∧ decision.outcome.stateTransitions = [clearSystemMarker .inputMismatch]) := by
  dsimp only [decideSystemSleepAfterInput] at h
  cases hinput : currentInput.isHdmi configuredInput with
  | true =>
    rw [hinput] at h
    subst h
    exact .inl ⟨rfl, rfl, rfl, rfl⟩
  | false =>
    rw [hinput] at h
    subst h
    exact .inr ⟨rfl, rfl, rfl, rfl⟩

theorem decideSystemSleepAfterInput_queryFailed (configuredInput : HdmiInput) (detail : String) :
    (decideSystemSleepAfterInput configuredInput (.queryFailed detail)).outcome.selects
      .tvSystemSleepPowerOff = true := rfl

def decideSystemSleepPowerOffResult :
    TvEffectObservation → SystemSleepPowerOffContext → PolicyOutcome
  | .succeeded, _ => PolicyOutcome.withStateTransition {} (createSystemMarker .actionSelected)
  | .failed _, .knownInput =>
    PolicyOutcome.withDiagnostic {} (.warning "power_off failed on known input; state not set")
  | .failed _, .fallbackAfterInputQueryFailure true =>
    (PolicyOutcome.withStateTransition {}
        (.preserveMarker .systemScreenOwnership { code := .other }))
      |>.withDiagnostic (.warning "fallback power_off failed; preserving existing system marker")
  | .failed _, .fallbackAfterInputQueryFailure false =>
    (PolicyOutcome.withStateTransition {} (clearSystemMarker .transportFailure))
      |>.withDiagnostic (.warning "fallback power_off failed after retries; state left unset")

def decideSystemSleepAttemptStart (lockAcquired : Bool) :
    LifecyclePolicyDecision SystemSleepAttemptNext :=
  if !lockAcquired then
    { next := .stop
      outcome := (PolicyOutcome.withNoAction {} { code := .duplicateSystemSleepAttempt })
        |>.withStateTransition
          (.preserveMarker .systemSleepAttempt { code := .duplicateSystemSleepAttempt }) }
  else
    { next := .continue
      outcome := PolicyOutcome.withStateTransition {}
        (.clearMarker .systemSleepAttempt
          { code := .other
            detail := "clear stale legacy sleep-attempt marker before pre-sleep handling" }) }

def decideNetworkTeardown (input : NetworkTeardownPolicyInput) :
    LifecyclePolicyDecision NetworkTeardownNext :=
  if !input.policyEnabled then
    { next := .stop, outcome := PolicyOutcome.withNoAction {} { code := .configDisabled } }
  else
    match input.machineSleepPending with
    | some true => { next := .attemptPreSleep }
    | some false =>
      { next := .clearAttempt
        outcome := (PolicyOutcome.withStateTransition {}
            (clearSystemSleepAttemptMarker .runtimePhaseIneligible))
          |>.withNoAction { code := .runtimePhaseIneligible } }
    | none =>
      let detail := input.phaseReadError.getD "sleep phase is unknown"
      { next := .stop
        outcome := (PolicyOutcome.withNoAction {} { code := .runtimePhaseUnknown, detail })
          |>.withDiagnostic
            (.warning s!"could not read logind PreparingForSleep; failing open: {detail}") }

def duplicateSystemSuspendOutcome (detail : String) : PolicyOutcome :=
  PolicyOutcome.withNoAction {} { code := .duplicateSystemSleepAttempt, detail }

/-- The cycle outcome is read off the actions selected and the marker file. -/
def decideSystemSleepCycleOutcome (outcome : PolicyOutcome) (markerExists : Bool) :
    SystemSleepCycleOutcome :=
  if outcome.selects .tvSystemSleepPowerOff && !markerExists then .retryableTransportFailure
  else .completed

/-! ## Applying transitions -/

def applySystemScreenMarkerTransition : StateTransition → Action Unit
  | .createMarker .systemScreenOwnership _ => orFail (perform Call.createMarker)
  | .clearMarker .systemScreenOwnership _ => orFail (perform Call.clearMarker)
  | .preserveMarker .systemScreenOwnership _ => pure ()
  | .createMarker _ _ | .clearMarker _ _ | .preserveMarker _ _ =>
    throw (.policy "lifecycle screen marker applier received a non-system-screen transition")

def applySystemScreenMarkerTransitions (outcome : PolicyOutcome) : Action Unit :=
  go outcome.stateTransitions
where
  go : List StateTransition → Action Unit
    | [] => pure ()
    | transition :: rest => do
      applySystemScreenMarkerTransition transition
      go rest

def applySystemSleepAttemptTransition : StateTransition → Action Unit
  | .createMarker .systemSleepAttempt _ => orFail (perform Call.markAttempted)
  | .clearMarker .systemSleepAttempt _ => do
    match ← ask .clearAttempt with
    | .ok () => pure ()
    | .error err =>
      writeLine s!"LG Buddy Sleep Pre: could not clear stale system sleep attempt marker before pre-sleep handling. {err}"
  | .preserveMarker .systemSleepAttempt _ => pure ()
  | .createMarker _ _ | .clearMarker _ _ | .preserveMarker _ _ =>
    throw (.policy "lifecycle sleep-attempt applier received a non-attempt transition")

def applySystemSleepAttemptTransitions (outcome : PolicyOutcome) : Action Unit :=
  go outcome.stateTransitions
where
  go : List StateTransition → Action Unit
    | [] => pure ()
    | transition :: rest => do
      applySystemSleepAttemptTransition transition
      go rest

/-! ## TV commands with retries -/

/-- At most `retries + 1` queries; an authentication failure is not retried, and the last answer
is the result. -/
def queryCurrentInputWithRetries (vars : EnvVars) (tv : Ipv4Addr) :
    Nat → Program Call CallReply (Except TvError CurrentInput)
  | 0 => perform (Call.currentInput tv)
  | retries + 1 => do
    match ← perform (Call.currentInput tv) with
    | .ok currentInput => pure (.ok currentInput)
    | .error err =>
      if err.kind = .authentication then
        pure (.error err)
      else
        perform (Call.sleep (1000 * systemSleepRetryDelay vars))
        queryCurrentInputWithRetries vars tv retries

def retryPowerOff (vars : EnvVars) (tv : Ipv4Addr) : Nat → Program Call CallReply Bool
  | 0 => pure false
  | attempts + 1 => do
    match ← perform (Call.powerOff tv) with
    | .ok () => pure true
    | .error err =>
      if err.kind = .authentication then
        pure false
      else
        if 0 < attempts then
          perform (Call.sleep (1000 * systemSleepRetryDelay vars))
        retryPowerOff vars tv attempts

/-! ### The calls they make -/

section

variable {allowed : Call → Prop}

theorem within_writeLine (hwrite : ∀ line, allowed (.writeLine line)) (line : String) :
    WithinE allowed (writeLine line) :=
  within_orFail (.perform (hwrite line))

theorem within_applyMarkerTransitions (hcreate : allowed .createMarker)
    (hclear : allowed .clearMarker) (outcome : PolicyOutcome) :
    WithinE allowed (applySystemScreenMarkerTransitions outcome) := by
  unfold applySystemScreenMarkerTransitions
  generalize outcome.stateTransitions = transitions
  induction transitions with
  | nil => trivial
  | cons transition rest ih =>
    refine WithinE.bind ?_ fun _ => ih
    unfold applySystemScreenMarkerTransition
    split
    · exact within_orFail (.perform hcreate)
    · exact within_orFail (.perform hclear)
    all_goals trivial

theorem within_applyAttemptTransitions (hmark : allowed .markAttempted)
    (hclear : allowed .clearAttempt) (hwrite : ∀ line, allowed (.writeLine line))
    (outcome : PolicyOutcome) : WithinE allowed (applySystemSleepAttemptTransitions outcome) := by
  unfold applySystemSleepAttemptTransitions
  generalize outcome.stateTransitions = transitions
  induction transitions with
  | nil => trivial
  | cons transition rest ih =>
    refine WithinE.bind ?_ fun _ => ih
    unfold applySystemSleepAttemptTransition
    split
    · exact within_orFail (.perform hmark)
    · refine WithinE.bind (within_ask hclear) fun r => ?_
      split
      · trivial
      · exact within_writeLine hwrite _
    all_goals trivial

theorem within_queryCurrentInput (vars : EnvVars) (tv : Ipv4Addr)
    (hquery : allowed (.currentInput tv)) (hsleep : ∀ millis, allowed (.sleep millis))
    (retries : Nat) : Within allowed (queryCurrentInputWithRetries vars tv retries) := by
  induction retries with
  | zero => exact .perform hquery
  | succ retries ih =>
    refine Within.bind (.perform hquery) fun r => ?_
    split
    · trivial
    · split
      · trivial
      · exact Within.bind (.perform (hsleep _)) fun _ => ih

end

/-! ## The owner -/

def renderSystemSleepPowerOffResult :
    TvEffectObservation → SystemSleepPowerOffContext → Action Unit
  | .succeeded, _ => pure ()
  | .failed _, .knownInput =>
    writeLine "LG Buddy Sleep Pre: power_off failed on known input. State not set."
  | .failed _, .fallbackAfterInputQueryFailure true =>
    writeLine "LG Buddy Sleep Pre: Fallback power_off failed, but state already set by another hook. Keeping state."
  | .failed _, .fallbackAfterInputQueryFailure false =>
    writeLine "LG Buddy Sleep Pre: Fallback power_off failed after retries. Leaving state unset."

/-- What follows a power-off: the decision, its marker transitions, and a line of output. -/
def concludeSystemSleepPowerOff (powerOff : TvEffectObservation)
    (context : SystemSleepPowerOffContext) : Action PolicyOutcome := do
  let resultOutcome := decideSystemSleepPowerOffResult powerOff context
  applySystemScreenMarkerTransitions resultOutcome
  renderSystemSleepPowerOffResult powerOff context
  return resultOutcome

def attemptSystemSleepPowerOffWithOutcome (vars : EnvVars) (config : Config) :
    Action PolicyOutcome := do
  let stateWasSet ← ask .markerExists
  match ← queryCurrentInputWithRetries vars config.tvIp systemPreSleepGetInputRetries with
  | .ok currentInput =>
    let decision := decideSystemSleepAfterInput config.input (.current currentInput)
    applySystemScreenMarkerTransitions decision.outcome
    match decision.next with
    | .powerOff =>
      writeLine s!"LG Buddy Sleep Pre: TV is on {config.input.asStr}. Turning off for sleep."
      let powerOff := match ← ask (.powerOff config.tvIp) with
        | .ok () => .succeeded
        | .error err => .failed (toString err)
      let resultOutcome ← concludeSystemSleepPowerOff powerOff .knownInput
      return decision.outcome.merge resultOutcome
    | .stop =>
      writeLine s!"LG Buddy Sleep Pre: TV is on {currentInput} (not {config.input.asStr}). Skipping."
      return decision.outcome
  | .error err =>
    if err.kind = .authentication then
      writeLine "LG Buddy Sleep Pre: Stored TV authentication is unavailable; skipping power_off fallback."
      return PolicyOutcome.withNoAction {} { code := .notApplicable, detail := toString err }
    else
      let decision := decideSystemSleepAfterInput config.input (.queryFailed (toString err))
      writeLine "LG Buddy Sleep Pre: Could not query TV input. Attempting power_off fallback."
      let powerOff :=
        if ← retryPowerOff vars config.tvIp systemPreSleepPowerOffAttempts then .succeeded
        else .failed "power_off failed"
      let resultOutcome ←
        concludeSystemSleepPowerOff powerOff (.fallbackAfterInputQueryFailure stateWasSet)
      return decision.outcome.merge resultOutcome

/-- The owner's work: from the moment it holds the attempt lock to the drop of the guard. -/
def handleSystemSuspendOwnerWithOutcome (vars : EnvVars) (config : Config) :
    Action (PolicyOutcome × SuspendRailDisposition) := withGuard do
  if (← orFail (perform Call.readOutcome)) = some .completed then
    return (duplicateSystemSuspendOutcome "system suspend cycle is already completed",
      .duplicateCompleted)
  orFail (perform (Call.writeOutcome .inProgress))
  let startDecision := decideSystemSleepAttemptStart true
  applySystemSleepAttemptTransitions startDecision.outcome
  let attempt ← attemptSystemSleepPowerOffWithOutcome vars config
  let outcome := startDecision.outcome.merge attempt
  let cycleOutcome := decideSystemSleepCycleOutcome outcome (← ask .markerExists)
  orFail (perform (Call.writeOutcome cycleOutcome))
  let disposition := match cycleOutcome with
    | .retryableTransportFailure => .retryableFailure
    | .inProgress | .completed => .ownerCompleted
  return (outcome, disposition)

/-! ## The rails -/

def handleSystemSuspendWithOutcome (vars : EnvVars) (config : Config) (event : RuntimeEvent) :
    Action (PolicyOutcome × SuspendRailDisposition) := do
  match LifecycleEvent.fromRuntimeEvent event with
  | some .machinePreparingForSleep | some (.networkTeardownImminent _) =>
    if ← orFail (perform Call.tryLock) then
      handleSystemSuspendOwnerWithOutcome vars config
    else
      let outcome := duplicateSystemSuspendOutcome
        s!"another system suspend rail owner is already running within the {systemSleepRailDeadline vars}s rail deadline"
      let disposition := match ← orFail (perform Call.readOutcome) with
        | some .completed => .duplicateCompleted
        | some .retryableTransportFailure | some .inProgress | none => .joinedInProgress
      return (outcome, disposition)
  | some _ | none =>
    throw (.policy "system suspend rail received a non-suspend lifecycle event")

/-- `retryableTransportFailure` comes with the guard of the attempt lock. -/
inductive SystemSleepCycleObservation where
  | completed
  | retryableTransportFailure
  | inProgress
  deriving DecidableEq, Repr

/-- Whether this look at the cycle state ends the wait. -/
def observeSystemSleepCycle : Action (Option SystemSleepCycleObservation) := do
  match ← orFail (perform Call.readOutcome) with
  | some .completed => return some .completed
  | some .retryableTransportFailure =>
    if ← orFail (perform Call.tryLock) then return some .retryableTransportFailure
    else return none
  | some .inProgress | none => return none

def waitForSystemSleepCycleObservation (deadlineMillis waited : Nat) :
    Action SystemSleepCycleObservation := do
  match ← observeSystemSleepCycle with
  | some observation => return observation
  | none =>
    if _h : deadlineMillis ≤ waited then
      return .inProgress
    else
      let sleepFor := min systemSleepRailWaitPollMillis (deadlineMillis - waited)
      ask (.sleep sleepFor)
      waitForSystemSleepCycleObservation deadlineMillis (waited + sleepFor)
termination_by deadlineMillis - waited
decreasing_by
  have hpoll : 0 < systemSleepRailWaitPollMillis := by decide
  omega

def handleNetworkTeardownRailDisposition (vars : EnvVars) (config : Config)
    (disposition : SuspendRailDisposition) (outcome : PolicyOutcome) : Action PolicyOutcome :=
  match disposition with
  | .ownerCompleted | .duplicateCompleted => return outcome
  | .joinedInProgress | .retryableFailure => do
    match ← waitForSystemSleepCycleObservation (1000 * systemSleepRailDeadline vars) 0 with
    | .completed =>
      writeLine "LG Buddy NetworkManager: suspend rail completed; releasing network teardown."
      return outcome
    | .retryableTransportFailure =>
      let (retryOutcome, _) ← retryAsOwner
      return outcome.merge retryOutcome
    | .inProgress =>
      writeLine "LG Buddy NetworkManager: suspend rail did not finish before deadline; releasing network teardown."
      return outcome.withDiagnostic
        (.warning "suspend rail did not finish before NetworkManager teardown deadline")
where
  retryAsOwner : Action (PolicyOutcome × SuspendRailDisposition) := do
    let line := "LG Buddy NetworkManager: suspend rail reported retryable transport failure; retrying before network teardown."
    -- the guard is moved into the owner only once the line is out; a failed write drops it
    match ← ask (.writeLine line) with
    | .ok () => handleSystemSuspendOwnerWithOutcome vars config
    | .error err => withGuard (throw (.io err))

def renderNetworkTeardownStop (outcome : PolicyOutcome) : Action Unit :=
  if outcome.noActions.any (·.reason.code = .configDisabled) then
    writeLine "LG Buddy NetworkManager: system sleep/wake handling is disabled by config; skipping pre-down handling."
  else
    match outcome.noActions.find? (·.reason.code = .runtimePhaseUnknown) with
    | some decision =>
      let detail := decision.reason.detail.getD "sleep phase is unknown"
      writeLine s!"LG Buddy NetworkManager: could not read logind PreparingForSleep; failing open. {detail}"
    | none => pure ()

def handleNetworkTeardownWithOutcome (vars : EnvVars) (config : Config) (event : RuntimeEvent)
    (phaseReadError : Option String) : Action PolicyOutcome := do
  match LifecycleEvent.fromRuntimeEvent event with
  | some (.networkTeardownImminent machineSleepPending) =>
    let decision := decideNetworkTeardown
      { policyEnabled := config.systemSleepWakePolicy.isEnabled
        machineSleepPending
        phaseReadError }
    match decision.next with
    | .attemptPreSleep =>
      writeLine "LG Buddy NetworkManager: logind is preparing for sleep; running pre-sleep TV handling before network teardown."
      let (railOutcome, railDisposition) ← handleSystemSuspendWithOutcome vars config event
      handleNetworkTeardownRailDisposition vars config railDisposition
        (decision.outcome.merge railOutcome)
    | .clearAttempt =>
      let outcome ← clearStaleAttempt decision.outcome
      writeLine "LG Buddy NetworkManager: logind is not preparing for sleep; leaving network disconnect alone."
      return outcome
    | .stop =>
      renderNetworkTeardownStop decision.outcome
      return decision.outcome
  | _ => throw (.policy "network teardown handler received a non-network lifecycle event")
where
  clearStaleAttempt (outcome : PolicyOutcome) : Action PolicyOutcome := do
    match ← ask .clearAttempt with
    | .ok () => return outcome
    | .error err =>
      writeLine s!"LG Buddy NetworkManager: could not clear stale system sleep attempt marker while not sleeping. {err}"
      return outcome.withDiagnostic
        (.warning s!"could not clear stale system sleep attempt marker while not sleeping: {err}")

end LgBuddy
