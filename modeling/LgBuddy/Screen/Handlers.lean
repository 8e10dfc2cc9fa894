import LgBuddy.Lifecycle.Suspend

/-!
# LgBuddy — the screen handlers

`screen.rs`: blanking the screen for idle, powering the TV off after a longer idle time, and
bringing the screen back.

* `ScreenCall` — what a handler asks of its surroundings;
* `decide…`, `select…` — the policy decisions, pure;
* `applyScreenStateTransitions` — the marker transitions of an outcome;
* `runScreenOffWithResultForEvent`, `runTimedPowerOffWithEvent`, `runScreenOnWithOutcomeForEvent`
  — the three operations.

A handler keeps its outcome and its restore trace across errors, as the `&mut` arguments of the
source do.
-/

namespace LgBuddy

open Program

/-! ## Configuration -/

inductive ScreenIdleBlankPolicy where
  | enabled
  | disabled
  deriving DecidableEq, Repr

def ScreenIdleBlankPolicy.isEnabled : ScreenIdleBlankPolicy → Bool
  | .enabled => true
  | .disabled => false

/-- The fields that the screen handlers read. -/
structure ScreenConfig extends Config where
  tvPlatform : TvPlatform
  screenIdleBlank : ScreenIdleBlankPolicy

/-- A profile for concrete runs. -/
def ScreenConfig.sample : ScreenConfig where
  toConfig := Config.sample
  tvPlatform := .lgWebOs
  screenIdleBlank := .enabled

/-! ## Calls -/

inductive RuntimePhaseRead where
  | pending
  | notPending
  | unknown (detail : String)
  deriving DecidableEq, Repr

/-- One entry of the restore trace. -/
structure RestoreEntry where
  operation : String
  result : Except TvError Unit

/-- `ScreenRestoreTrace`, without its clock. -/
structure ScreenRestoreTrace where
  entries : List RestoreEntry := []
  failed : Bool := false

/-- What the failure context reports, all but the elapsed times. -/
structure RestoreFailureContext where
  source : EventSource
  platform : TvPlatform
  configuredInput : HdmiInput
  markerBefore : Bool
  operations : List RestoreEntry
  markerAfter : Bool

inductive ScreenCall where
  | writeLine (line : String)
  | writeFailureContext (context : RestoreFailureContext)
  | sleep (secs : Nat)
  -- the phase provider, and the lifecycle's own marker
  | machineSleepPending
  | systemRestorePending
  -- the session marker, `screen_off_by_us`
  | markerExists
  | createMarker
  | clearMarker
  | currentInput (tv : Ipv4Addr)
  | blank (tv : Ipv4Addr)
  | unblank (tv : Ipv4Addr)
  | powerOff (tv : Ipv4Addr)
  | setInput (tv : Ipv4Addr) (input : HdmiInput)
  | wake (tv : Ipv4Addr) (mac : MacAddress)

@[reducible] def ScreenReply : ScreenCall → Type
  | .writeLine _ | .writeFailureContext _ | .createMarker | .clearMarker => Except IoError Unit
  | .sleep _ => Unit
  | .machineSleepPending => RuntimePhaseRead
  | .systemRestorePending | .markerExists => Bool
  | .currentInput _ => Except TvError CurrentInput
  | .blank _ | .unblank _ | .powerOff _ | .setInput _ _ => Except TvError Unit
  | .wake _ _ => Except String Unit

/-- A command that the TV receives, by its interface or by a Wake-on-LAN packet. -/
def ScreenCall.isTvCommand : ScreenCall → Bool
  | .currentInput _ | .blank _ | .unblank _ | .powerOff _ | .setInput _ _ | .wake _ _ => true
  | _ => false

/-- The `&mut` arguments of the helpers. -/
structure ScreenPass where
  outcome : PolicyOutcome := {}
  trace : ScreenRestoreTrace := {}

abbrev ScreenAction := ExceptT RunError (StateT ScreenPass (Program ScreenCall ScreenReply))

namespace ScreenAction

def ask (c : ScreenCall) : ScreenAction (ScreenReply c) :=
  liftM (perform c : Program ScreenCall ScreenReply (ScreenReply c))

/-- `?` on an `io::Result`. -/
def orFail : Except IoError Unit → ScreenAction Unit
  | .ok () => pure ()
  | .error err => throw (.io err)

def writeLine (line : String) : ScreenAction Unit := ask (.writeLine line) >>= orFail

def merge (outcome : PolicyOutcome) : ScreenAction Unit :=
  modify fun pass => { pass with outcome := pass.outcome.merge outcome }

/-- `ScreenRestoreTrace::record`. -/
def traceRecord (operation : String) (result : Except TvError Unit) : ScreenAction Unit :=
  modify fun pass =>
    { pass with
      trace.entries := pass.trace.entries ++ [⟨operation, result⟩]
      trace.failed := pass.trace.failed || match result with
        | .ok () => false
        | .error _ => true }

/-- `ScreenRestoreTrace::render_if_failed`. -/
def renderIfFailed (event : RuntimeEvent) (config : ScreenConfig)
    (markerBefore markerAfter : Bool) : ScreenAction Unit := do
  let pass ← get
  if !pass.trace.failed then
    return ()
  else
    let written ← ask (.writeFailureContext
      { source := event.source
        platform := config.tvPlatform
        configuredInput := config.input
        markerBefore
        operations := pass.trace.entries
        markerAfter })
    orFail written

end ScreenAction

open ScreenAction

/-! ## Settings -/

def screenOnWakeAttempts : Nat := 6

def screenOnInitialWakeDelay (vars : EnvVars) : Nat :=
  durationOverrideSecs vars "LG_BUDDY_SCREEN_ON_INITIAL_WAKE_DELAY_SECS" 6

def screenOnRetryDelay (vars : EnvVars) (attempt : Nat) : Nat :=
  durationOverrideSecs vars "LG_BUDDY_SCREEN_ON_RETRY_DELAY_SECS" (min (attempt * 2) 30)

/-! ## Decisions -/

structure ScreenPolicyDecision (N : Type) where
  next : N
  outcome : PolicyOutcome := {}

inductive ScreenActionBlockReason where
  | machineSleepPending
  | systemRestorePending
  deriving DecidableEq, Repr

inductive ScreenEligibilityNext where
  | continue
  | stop (reason : ScreenActionBlockReason)
  deriving DecidableEq, Repr

structure ScreenActionEligibilityInput where
  source : EventSource
  lifecyclePolicyEnabled : Bool
  runtimePhase : RuntimePhaseRead
  systemRestorePending : Bool

inductive ScreenOffInputObservation where
  | current (input : CurrentInput)
  | queryFailed (detail : String)

inductive ScreenOffNext where
  | blank
  | powerOffFallback
  | stop
  deriving DecidableEq, Repr

inductive ScreenOffFallbackContext where
  | inputQueryFailed
  | blankFailed

inductive ScreenOnNext where
  | unblank
  | fullWake
  | stop
  deriving DecidableEq, Repr

def isSessionScreenSource : EventSource → Bool
  | .desktopSession | .auxiliaryInput | .linuxLogind | .linuxDpms => true
  | .cliApi | .linuxNetworkManager | .linuxSystemd | .futurePlatform => false

def createSessionMarker (reason : TransitionReasonCode) : StateTransition :=
  .createMarker .sessionScreenOwnership { code := reason }

def clearSessionMarker (reason : TransitionReasonCode) : StateTransition :=
  .clearMarker .sessionScreenOwnership { code := reason }

def machineSleepPendingDetail : String := "machine sleep is pending"

def systemRestorePendingDetail : String := "system resume restore is pending"

def decideScreenActionEligibility (input : ScreenActionEligibilityInput) :
    ScreenPolicyDecision ScreenEligibilityNext :=
  if !isSessionScreenSource input.source || !input.lifecyclePolicyEnabled then
    { next := .continue }
  else
    match input.runtimePhase with
    | .pending =>
      { next := .stop .machineSleepPending
        outcome := PolicyOutcome.withNoAction {}
          { code := .runtimePhaseIneligible, detail := machineSleepPendingDetail } }
    | .notPending =>
      if input.systemRestorePending then
        { next := .stop .systemRestorePending
          outcome := PolicyOutcome.withNoAction {}
            { code := .runtimePhaseIneligible, detail := systemRestorePendingDetail } }
      else
        { next := .continue }
    | .unknown detail =>
      if input.systemRestorePending then
        { next := .stop .systemRestorePending
          outcome := (PolicyOutcome.withDiagnostic {} (.warning
              s!"runtime phase read failed; system resume restore is pending, failing closed: {detail}"))
            |>.withNoAction
              { code := .runtimePhaseIneligible, detail := systemRestorePendingDetail } }
      else
        { next := .continue
          outcome := PolicyOutcome.withDiagnostic {}
            (.warning s!"runtime phase read failed; failing open: {detail}") }

def decideScreenOffAfterInput (configuredInput : HdmiInput) :
    ScreenOffInputObservation → ScreenPolicyDecision ScreenOffNext
  | .current currentInput =>
    if currentInput.isHdmi configuredInput then
      { next := .blank
        outcome := PolicyOutcome.withAction {} .tvScreenBlank { code := .runtimeEvent } }
    else
      { next := .stop
        outcome := (PolicyOutcome.withNoAction {}
            { code := .inputMismatch
              detail := s!"TV is on {currentInput}, not {configuredInput.asStr}" })
          |>.withStateTransition (clearSessionMarker .inputMismatch) }
  | .queryFailed detail =>
    { next := .powerOffFallback
      outcome := (PolicyOutcome.withDiagnostic {} (.warning s!"input query failed: {detail}"))
        |>.withAction .tvPowerOffFallback { code := .transportFailure } }

def decideScreenOffAfterBlankResult : TvEffectObservation → ScreenPolicyDecision ScreenOffNext
  | .succeeded =>
    { next := .stop
      outcome := PolicyOutcome.withStateTransition {} (createSessionMarker .actionSelected) }
  | .failed detail =>
    { next := .powerOffFallback
      outcome := (PolicyOutcome.withDiagnostic {} (.warning s!"screen blank failed: {detail}"))
        |>.withAction .tvPowerOffFallback { code := .transportFailure } }

def decideScreenOffAfterPowerOffResult :
    TvEffectObservation → ScreenPolicyDecision ScreenOffNext
  | .succeeded =>
    { next := .stop
      outcome := PolicyOutcome.withStateTransition {} (createSessionMarker .actionSelected) }
  | .failed detail =>
    { next := .stop
      outcome := PolicyOutcome.withDiagnostic {}
        (.warning s!"fallback power_off failed: {detail}") }

def decideScreenOnStart (policy : ScreenRestorePolicy) (markerExists : Bool) :
    ScreenPolicyDecision ScreenOnNext :=
  if !markerExists && policy ≠ .aggressive then
    { next := .stop, outcome := PolicyOutcome.withNoAction {} { code := .markerMissing } }
  else
    let outcome := PolicyOutcome.withAction {} .tvScreenRestore { code := .runtimeEvent }
    { next := .unblank
      outcome :=
        if !markerExists then
          outcome.withDiagnostic (.info "aggressive markerless restore requested")
        else outcome }

/-- `ScreenOnUnblankObservation` has the two cases of `TvEffectObservation`. -/
def decideScreenOnAfterUnblank : TvEffectObservation → ScreenPolicyDecision ScreenOnNext
  | .succeeded =>
    { next := .stop
      outcome := PolicyOutcome.withStateTransition {} (clearSessionMarker .restoreCompleted) }
  | .failed detail =>
    { next := .fullWake
      outcome := PolicyOutcome.withDiagnostic {}
        (.warning s!"screen visibility could not be verified: {detail}") }

def selectScreenOnWakePacket : PolicyOutcome :=
  PolicyOutcome.withAction {} .wakeOnLan { code := .runtimeEvent }

def selectScreenOnInputRestoreAttempt : PolicyOutcome :=
  PolicyOutcome.withAction {} .tvInputRestore { code := .runtimeEvent }

def decideScreenOnWakeAttemptSucceeded : PolicyOutcome :=
  PolicyOutcome.withStateTransition {} (clearSessionMarker .restoreCompleted)

def decideScreenOnWakeExhausted (markerExists : Bool) : PolicyOutcome :=
  if markerExists then
    PolicyOutcome.withStateTransition {} (.preserveMarker .sessionScreenOwnership { code := .other })
  else {}

/-! ## Applying transitions -/

def applyScreenStateTransition : StateTransition → ScreenAction Unit
  | .createMarker .sessionScreenOwnership _ => ask .createMarker >>= orFail
  | .clearMarker .sessionScreenOwnership _ => ask .clearMarker >>= orFail
  | .preserveMarker .sessionScreenOwnership _ => pure ()
  | .createMarker _ _ | .clearMarker _ _ | .preserveMarker _ _ =>
    throw (.policy "screen policy emitted a non-session marker transition")

def applyScreenStateTransitions (outcome : PolicyOutcome) : ScreenAction Unit :=
  go outcome.stateTransitions
where
  go : List StateTransition → ScreenAction Unit
    | [] => pure ()
    | transition :: rest => do
      applyScreenStateTransition transition
      go rest

/-! ## Eligibility -/

/-- Neither the phase nor the lifecycle marker is read unless the decision depends on them. -/
def readScreenActionEligibility (config : ScreenConfig) (event : RuntimeEvent) :
    ScreenAction ScreenActionEligibilityInput := do
  let lifecyclePolicyEnabled := config.systemSleepWakePolicy.isEnabled
  if isSessionScreenSource event.source && lifecyclePolicyEnabled then
    let runtimePhase ← ask .machineSleepPending
    let systemRestorePending ← ask .systemRestorePending
    return { source := event.source, lifecyclePolicyEnabled, runtimePhase, systemRestorePending }
  else
    return { source := event.source, lifecyclePolicyEnabled, runtimePhase := .notPending
             systemRestorePending := false }

def renderScreenActionEligibility (logPrefix : String) : ScreenEligibilityNext → ScreenAction Unit
  | .stop .systemRestorePending =>
    writeLine s!"{logPrefix}: System resume restore is pending; lifecycle owns TV actions. Skipping session screen action."
  | .stop .machineSleepPending =>
    writeLine s!"{logPrefix}: Machine sleep is pending; lifecycle owns TV actions. Skipping session screen action."
  | .continue => pure ()

def applyScreenActionEligibility (logPrefix : String) (config : ScreenConfig)
    (event : RuntimeEvent) : ScreenAction Bool := do
  let decision := decideScreenActionEligibility (← readScreenActionEligibility config event)
  renderScreenActionEligibility logPrefix decision.next
  merge decision.outcome
  return decision.next = .continue

/-! ## Screen off -/

/-- `match … { Ok(_) => Succeeded, Err(err) => Failed(err.to_string()) }`. -/
def observeTvEffect : Except TvError Unit → TvEffectObservation
  | .ok () => .succeeded
  | .error err => .failed (toString err)

def renderScreenOffInputDecision (configuredInput : HdmiInput) (currentInput : CurrentInput)
    (decision : ScreenPolicyDecision ScreenOffNext) : ScreenAction Unit :=
  match decision.next with
  | .blank =>
    writeLine s!"LG Buddy Screen Off: TV is on {configuredInput.asStr}. Attempting screen blank for idle..."
  | .stop =>
    writeLine s!"LG Buddy Screen Off: TV is on {currentInput} (not {configuredInput.asStr}). Skipping idle action."
  | .powerOffFallback => pure ()

def renderScreenOffPowerOffResult :
    TvEffectObservation → ScreenOffFallbackContext → ScreenAction Unit
  | .succeeded, _ => writeLine "LG Buddy Screen Off: Fallback power_off succeeded."
  | .failed detail, .inputQueryFailed =>
    writeLine s!"LG Buddy Screen Off: Could not power off the TV (may already be off or unreachable). {detail}"
  | .failed detail, .blankFailed =>
    writeLine s!"LG Buddy Screen Off: Fallback power_off failed. {detail}"

def executeScreenOffPowerOffFallback (tv : Ipv4Addr) (context : ScreenOffFallbackContext) :
    ScreenAction Unit := do
  let observation := observeTvEffect (← ask (.powerOff tv))
  let decision := decideScreenOffAfterPowerOffResult observation
  applyScreenStateTransitions decision.outcome
  renderScreenOffPowerOffResult observation context
  merge decision.outcome

def renderScreenBlankResult : TvEffectObservation → ScreenAction Unit
  | .succeeded => writeLine "LG Buddy Screen Off: Screen blank command succeeded."
  | .failed detail =>
    writeLine s!"LG Buddy Screen Off: Screen blank failed. Falling back to power_off. {detail}"

/-- Says whether the blank itself succeeded, whatever the fallback does. -/
def executeScreenBlank (tv : Ipv4Addr) : ScreenAction Bool := do
  let observation := observeTvEffect (← ask (.blank tv))
  let blankSucceeded : Bool := observation = .succeeded
  let decision := decideScreenOffAfterBlankResult observation
  applyScreenStateTransitions decision.outcome
  renderScreenBlankResult observation
  merge decision.outcome
  if decision.next = .powerOffFallback then
    executeScreenOffPowerOffFallback tv .blankFailed
    return blankSucceeded
  else
    return blankSucceeded

structure ScreenOffExecutionResult where
  blankSucceeded : Bool
  deriving DecidableEq, Repr

def runScreenOffWithResultForEvent (config : ScreenConfig) (event : RuntimeEvent) :
    ScreenAction ScreenOffExecutionResult := do
  if !(← applyScreenActionEligibility "LG Buddy Screen Off" config event) then
    return ⟨false⟩
  else
    match ← ask (.currentInput config.tvIp) with
    | .ok currentInput =>
      let decision := decideScreenOffAfterInput config.input (.current currentInput)
      applyScreenStateTransitions decision.outcome
      renderScreenOffInputDecision config.input currentInput decision
      merge decision.outcome
      if decision.next = .blank then
        return ⟨← executeScreenBlank config.tvIp⟩
      else
        return ⟨false⟩
    | .error err =>
      let decision := decideScreenOffAfterInput config.input (.queryFailed (toString err))
      writeLine s!"LG Buddy Screen Off: Could not query TV input. Falling back to power_off. {err}"
      merge decision.outcome
      if decision.next = .powerOffFallback then
        executeScreenOffPowerOffFallback config.tvIp .inputQueryFailed
        return ⟨false⟩
      else
        return ⟨false⟩

/-! ## Timed power-off -/

def timedPowerOffPrefix : String := "LG Buddy Timed Power Off"

/-- The last step, after every check has passed. -/
def executeTimedPowerOff (tv : Ipv4Addr) : ScreenAction Unit := do
  merge ((PolicyOutcome.withAction {} .tvTimedIdlePowerOff { code := .runtimeEvent })
    |>.withStateTransition
      (.preserveMarker .sessionScreenOwnership { code := .actionSelected }))
  writeLine s!"{timedPowerOffPrefix}: Ownership, input, and lifecycle checks passed; powering off TV."
  match ← ask (.powerOff tv) with
  | .ok () =>
    writeLine s!"{timedPowerOffPrefix}: TV power-off succeeded; preserving the ownership marker for activity restore."
  | .error err =>
    writeLine s!"{timedPowerOffPrefix}: TV power-off failed; preserving the ownership marker. {err}"
    merge (PolicyOutcome.withDiagnostic {} (.warning s!"timed TV power-off failed: {err}"))

def runTimedPowerOffWithEvent (config : ScreenConfig) (event : RuntimeEvent) :
    ScreenAction PolicyOutcome := do
  if !config.screenIdleBlank.isEnabled then
    writeLine s!"{timedPowerOffPrefix}: Screen idle blanking is disabled; skipping power-off."
    return PolicyOutcome.withNoAction {} { code := .configDisabled }
  else if !(← applyScreenActionEligibility timedPowerOffPrefix config event) then
    return (← get).outcome
  else if !(← ask .markerExists) then
    writeLine s!"{timedPowerOffPrefix}: Screen ownership marker is absent; skipping power-off."
    merge (PolicyOutcome.withNoAction {} { code := .markerMissing })
    return (← get).outcome
  else
    match ← ask (.currentInput config.tvIp) with
    | .error err =>
      writeLine s!"{timedPowerOffPrefix}: Could not query TV input; skipping power-off without a blind fallback. {err}"
      merge ((PolicyOutcome.withNoAction {} { code := .transportFailure, detail := toString err })
        |>.withDiagnostic (.warning s!"timed power-off input query failed: {err}"))
      return (← get).outcome
    | .ok currentInput =>
      if !currentInput.isHdmi config.input then
        let mismatch := (PolicyOutcome.withNoAction {}
            { code := .inputMismatch
              detail := s!"TV is on {currentInput}, not {config.input.asStr}" })
          |>.withStateTransition (clearSessionMarker .inputMismatch)
        applyScreenStateTransitions mismatch
        merge mismatch
        writeLine s!"{timedPowerOffPrefix}: TV is on {currentInput} (not {config.input.asStr}); ownership was lost, so power-off was skipped and the marker cleared."
        return (← get).outcome
      else
        executeTimedPowerOff config.tvIp
        return (← get).outcome

/-! ## Screen on -/

/-- Nothing is said while there is a marker. -/
def logMarkerlessRestoreNotice (markerExists : Bool) (logPrefix : String) : ScreenAction Unit :=
  if !markerExists then
    writeLine s!"{logPrefix}: State file not found. Aggressive restore policy is enabled, so LG Buddy will attempt wake anyway."
  else pure ()

def renderScreenOnStartDecision (config : ScreenConfig) (markerExists : Bool)
    (decision : ScreenPolicyDecision ScreenOnNext) : ScreenAction Unit := do
  if decision.next = .stop then
    writeLine "LG Buddy Screen On: State file not found. TV was not turned off by LG Buddy. Skipping wake."
  else
    logMarkerlessRestoreNotice markerExists "LG Buddy Screen On"
    writeLine s!"LG Buddy Screen On: Turning TV on (screen wake) using input {config.input.asStr}..."
    writeLine "LG Buddy Screen On: Attempting screen unblank..."

def renderScreenOnUnblank : TvEffectObservation → ScreenAction Unit
  | .succeeded => writeLine "LG Buddy Screen On: Screen unblank succeeded. Clearing wake state."
  | .failed _ => pure ()

/-- Whether the screen is back. -/
def executeScreenOnUnblank (tv : Ipv4Addr) : ScreenAction Bool := do
  let result ← ask (.unblank tv)
  traceRecord "direct_unblank" result
  let observation := observeTvEffect result
  let decision := decideScreenOnAfterUnblank observation
  applyScreenStateTransitions decision.outcome
  renderScreenOnUnblank observation
  merge decision.outcome
  return decision.next = .stop

/-- `next == ScreenOnNext::Unblank && execute_screen_on_unblank(…)?`. -/
def unblankIfSelected (next : ScreenOnNext) (tv : Ipv4Addr) : ScreenAction Bool :=
  match next with
  | .unblank => executeScreenOnUnblank tv
  | .fullWake | .stop => pure false

def sendScreenWakePacket (logPrefix : String) (config : ScreenConfig) : ScreenAction Unit := do
  match ← ask (.wake config.tvIp config.tvMac) with
  | .ok () => pure ()
  | .error err =>
    merge (PolicyOutcome.withDiagnostic {} (.warning s!"Wake-on-LAN send failed: {err}"))
    writeLine s!"{logPrefix}: Wake-on-LAN send failed. Continuing anyway. {err}"

/-- A screen that is not visible is unblanked once, and the input then set again. -/
def attemptInputRestore (tv : Ipv4Addr) (input : HdmiInput) (attempt : Nat) :
    ScreenAction (Except TvError Unit) := do
  let result ← ask (.setInput tv input)
  traceRecord s!"input_attempt_{attempt}" result
  match result with
  | .ok () => return .ok ()
  | .error error =>
    if error.kind ≠ .screenNotVisible then
      return .error error
    else
      let unblankResult ← ask (.unblank tv)
      traceRecord s!"recovery_unblank_{attempt}" unblankResult
      match unblankResult with
      | .error error => return .error error
      | .ok () =>
        let retryResult ← ask (.setInput tv input)
        traceRecord s!"input_retry_{attempt}" retryResult
        return retryResult

def screenOnExhausted : RunError :=
  .policy s!"screen-on wake sequence failed after {screenOnWakeAttempts} attempts"

/-- The attempts from number `attempt` on, `remaining` of them. -/
def screenOnWakeLoop (vars : EnvVars) (config : ScreenConfig) (markerExists : Bool)
    (attempt : Nat) : (remaining : Nat) → ScreenAction Unit
  | 0 => do
    writeLine s!"LG Buddy Screen On: Wake failed after {screenOnWakeAttempts} attempts. LG Buddy will retry on the next restore event."
    let exhausted := decideScreenOnWakeExhausted markerExists
    applyScreenStateTransitions exhausted
    merge exhausted
    throw screenOnExhausted
  | remaining + 1 => do
    writeLine s!"LG Buddy Screen On: Wake attempt {attempt}: setting input to {config.input.asStr}..."
    merge selectScreenOnInputRestoreAttempt
    match ← attemptInputRestore config.tvIp config.input attempt with
    | .ok () =>
      let success := decideScreenOnWakeAttemptSucceeded
      applyScreenStateTransitions success
      writeLine s!"LG Buddy Screen On: Wake attempt {attempt} succeeded. Clearing wake state."
      merge success
    | .error _ =>
      let retryDelay := screenOnRetryDelay vars attempt
      writeLine s!"LG Buddy Screen On: Wake attempt {attempt} failed. Resending WoL and retrying in {retryDelay}s..."
      merge selectScreenOnWakePacket
      sendScreenWakePacket "LG Buddy Screen On" config
      ask (.sleep retryDelay)
      screenOnWakeLoop vars config markerExists (attempt + 1) remaining

def executeScreenOnFullWake (vars : EnvVars) (config : ScreenConfig) (markerExists : Bool) :
    ScreenAction Unit := do
  writeLine "LG Buddy Screen On: Screen visibility could not be verified. Falling back to full wake."
  writeLine "LG Buddy Screen On: Sending initial Wake-on-LAN packet..."
  merge selectScreenOnWakePacket
  sendScreenWakePacket "LG Buddy Screen On" config
  ask (.sleep (screenOnInitialWakeDelay vars))
  screenOnWakeLoop vars config markerExists 1 screenOnWakeAttempts

def runScreenOnWithOutcomeForEvent (vars : EnvVars) (config : ScreenConfig)
    (event : RuntimeEvent) : ScreenAction PolicyOutcome := do
  if !(← applyScreenActionEligibility "LG Buddy Screen On" config event) then
    return (← get).outcome
  else
    let markerExists ← ask .markerExists
    let startDecision := decideScreenOnStart config.screenRestorePolicy markerExists
    renderScreenOnStartDecision config markerExists startDecision
    merge startDecision.outcome
    if startDecision.next = .stop then
      return (← get).outcome
    else
      let restored ← unblankIfSelected startDecision.next config.tvIp
      if restored then
        renderIfFailed event config markerExists (← ask .markerExists)
        return (← get).outcome
      else
        let fallbackResult ←
          ExceptT.lift (executeScreenOnFullWake vars config markerExists).run
        renderIfFailed event config markerExists (← ask .markerExists)
        match fallbackResult with
        | .ok () => return (← get).outcome
        | .error err => throw err

end LgBuddy
