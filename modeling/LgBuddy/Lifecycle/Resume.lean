import LgBuddy.Lifecycle.Suspend

/-!
# LgBuddy — the runtime action executor around sleep

`session/actions.rs` and the restore half of `lifecycle.rs`.

* `restoreAfterSystemSleepWithOutcome` — wake the TV and switch it back;
* `runSleepPre` — what the monitor runs on `PrepareForSleep(true)`;
* `runSystemResume` — what it runs on `PrepareForSleep(false)`: the restore, then the clean-up of
  the cycle state.

The state directory of the system scope always resolves, so that it is no call of its own.
-/

namespace LgBuddy

open LgBuddy.Action Program

/-! ## Settings -/

def startupWakeAttempts : Nat := 6

def startupInitialWakeDelay (vars : EnvVars) : Nat :=
  durationOverrideSecs vars "LG_BUDDY_STARTUP_INITIAL_WAKE_DELAY_SECS" 6

def startupRetryDelay (vars : EnvVars) (attempt : Nat) : Nat :=
  durationOverrideSecs vars "LG_BUDDY_STARTUP_RETRY_DELAY_SECS" (min (attempt * 2) 30)

def systemPreSleepTvCommandTimeout : Nat := 3

/-- The client of the pre-sleep handler, which has only the inhibitor's delay to work in. -/
def sleepClientOptions : TvClientBuildOptions where
  storedTokenOnly := true
  commandTimeout := some systemPreSleepTvCommandTimeout

def resumeClientOptions : TvClientBuildOptions where
  storedTokenOnly := true

/-! ## Decisions -/

inductive RestoreNext where
  | restore
  | stop
  deriving DecidableEq, Repr

def restoreIsAllowed (policy : ScreenRestorePolicy) (markerExists : Bool) : Bool :=
  markerExists || policy = .aggressive

def selectLifecycleWakePacket (reason : DecisionReasonCode) : PolicyOutcome :=
  PolicyOutcome.withAction {} .wakeOnLan { code := reason }

def selectLifecycleInputRestore (reason : DecisionReasonCode) : PolicyOutcome :=
  PolicyOutcome.withAction {} .tvInputRestore { code := reason }

def decideRestoreAfterSystemSleepStart (policy : ScreenRestorePolicy) (markerExists : Bool) :
    LifecyclePolicyDecision RestoreNext :=
  if !restoreIsAllowed policy markerExists then
    { next := .stop, outcome := PolicyOutcome.withNoAction {} { code := .markerMissing } }
  else
    let outcome := (PolicyOutcome.withAction {} .tvSystemResumeRestore { code := .runtimeEvent })
      |>.withAction .wakeOnLan { code := .runtimeEvent }
    { next := .restore
      outcome :=
        if !markerExists then
          outcome.withDiagnostic (.info "aggressive markerless system resume restore")
        else outcome }

def decideSystemResumeInputSucceeded : PolicyOutcome :=
  PolicyOutcome.withStateTransition {} (clearSystemMarker .restoreCompleted)

def decideSystemResumeInputExhausted (message : String) : PolicyOutcome :=
  (PolicyOutcome.withDiagnostic {} (.warning message))
    |>.withStateTransition (clearSystemMarker .transportFailure)

/-! ## Restoring -/

def renderRestoreAfterSystemSleepStart (markerExists : Bool)
    (decision : LifecyclePolicyDecision RestoreNext) : Action Unit :=
  if decision.next = .stop then
    writeLine "LG Buddy Startup: Wake from sleep: TV was not on our input. Skipping."
  else if markerExists then
    writeLine "LG Buddy Startup: Wake from sleep: LG Buddy turned TV off. Restoring."
  else do
    writeLine "LG Buddy Startup: State file not found. Aggressive restore policy is enabled, so LG Buddy will attempt wake anyway."
    writeLine "LG Buddy Startup: Wake from sleep: Restoring display state."

/-- The network is waited for, but never in vain: a failed wait is logged and passed over. -/
def waitForTvNetwork (tvIp : Ipv4Addr) (outcome : PolicyOutcome) : Action PolicyOutcome := do
  writeLine "LG Buddy Startup: Waiting for NetworkManager connectivity..."
  flush
  match ← ask .waitForNetwork with
  | .error err =>
    writeLine s!"LG Buddy Startup: Network wait failed. Continuing anyway. {err}"
    flush
    return outcome.withDiagnostic (.warning s!"network wait failed: {err}")
  | .ok () =>
    writeLine "LG Buddy Startup: NetworkManager connectivity is available."
    writeLine s!"LG Buddy Startup: Waiting for route to TV at {tvIp}..."
    flush
    match ← ask (.waitForRouteTo tvIp) with
    | .error err =>
      writeLine s!"LG Buddy Startup: TV route wait failed. Continuing anyway. {err}"
      flush
      return outcome.withDiagnostic (.warning s!"TV route wait failed: {err}")
    | .ok () =>
      writeLine "LG Buddy Startup: Route to TV is available."
      flush
      return outcome

def sendWakePacket (logPrefix : String) (config : Config) : Action Unit := do
  match ← ask (.wake config.tvIp config.tvMac) with
  | .ok () => pure ()
  | .error err => writeLine s!"{logPrefix}: Wake-on-LAN send failed. Continuing anyway. {err}"

/-- The attempts from number `attempt` on, `remaining` of them. -/
def restoreInputAttempts (vars : EnvVars) (config : Config) (outcome : PolicyOutcome)
    (attempt : Nat) : (remaining : Nat) → Action PolicyOutcome
  | 0 => do
    writeLine s!"LG Buddy Startup: set_input failed after {startupWakeAttempts} attempts"
    flush
    let exhausted :=
      decideSystemResumeInputExhausted "system resume input restore exhausted retries"
    applySystemScreenMarkerTransitions exhausted
    return outcome.merge exhausted
  | remaining + 1 => do
    let outcome := outcome.merge (selectLifecycleInputRestore .runtimeEvent)
    match ← ask (.setInput config.tvIp config.input) with
    | .ok () =>
      let success := decideSystemResumeInputSucceeded
      applySystemScreenMarkerTransitions success
      writeLine s!"LG Buddy Startup: TV turned on and set to {config.input.asStr}."
      flush
      return outcome.merge success
    | .error err =>
      if err.kind = .authentication then
        writeLine "LG Buddy Startup: Stored TV authentication is unavailable; skipping unattended TV control."
        flush
        let unavailable := decideSystemResumeInputExhausted
          "system resume skipped because stored TV authentication is unavailable"
        applySystemScreenMarkerTransitions unavailable
        return outcome.merge unavailable
      else
        let retryDelay := startupRetryDelay vars attempt
        writeLine s!"LG Buddy Startup: Attempt {attempt} failed, retrying in {retryDelay}s..."
        flush
        let outcome := outcome.merge (selectLifecycleWakePacket .runtimeEvent)
        writeLine "LG Buddy Startup: Sending Wake-on-LAN packet..."
        flush
        sendWakePacket "LG Buddy Startup" config
        flush
        ask (.sleep (1000 * retryDelay))
        restoreInputAttempts vars config outcome (attempt + 1) remaining

def restoreAfterSystemSleepWithOutcome (vars : EnvVars) (config : Config) :
    Action PolicyOutcome := do
  let markerExists ← ask .markerExists
  let startDecision := decideRestoreAfterSystemSleepStart config.screenRestorePolicy markerExists
  renderRestoreAfterSystemSleepStart markerExists startDecision
  if startDecision.next = .stop then
    return startDecision.outcome
  else
    let outcome ← waitForTvNetwork config.tvIp {}
    applySystemScreenMarkerTransitions startDecision.outcome
    let outcome := outcome.merge startDecision.outcome
    writeLine "LG Buddy Startup: Sending Wake-on-LAN packet..."
    flush
    sendWakePacket "LG Buddy Startup" config
    flush
    ask (.sleep (1000 * startupInitialWakeDelay vars))
    restoreInputAttempts vars config outcome 1 startupWakeAttempts

/-! ## The executor -/

def runSleepPre (vars : EnvVars) (event : RuntimeEvent) : Action Unit := do
  let config ← orThrow (perform Call.loadConfig)
  orThrow (perform (Call.tvClient config sleepClientOptions))
  let _ ← handleSystemSuspendWithOutcome vars config event
  return ()

/-- The closure of `run_system_resume`, whose result is looked at only after the clean-up. -/
def restoreWithStoredToken (vars : EnvVars) (config : Config) : Action Unit := do
  match ← ask .hasStoredAccessToken with
  | .ok true =>
    let _ ← restoreAfterSystemSleepWithOutcome vars config
    return ()
  | .ok false =>
    orFail (perform Call.clearMarker)
    writeLine "LG Buddy System Resume: No stored native TV credential; skipping unattended TV control."
  | .error err =>
    orFail (perform Call.clearMarker)
    throw (.tvClientBuild err)

def reportClearError (what : String) : Except IoError Unit → Action (Option IoError)
  | .ok () => pure none
  | .error err => do
    writeLine s!"LG Buddy System Resume: could not clear {what} after resume. {err}"
    pure (some err)

/-- The clean-up after a resume: both files are tried, and the first error is kept. -/
def clearSystemSleepCycle : Action (Option IoError) := do
  let attemptError ← reportClearError "system sleep attempt marker" (← ask .clearAttempt)
  let outcomeError ← reportClearError "system sleep cycle state" (← ask .clearOutcome)
  return attemptError <|> outcomeError

def runSystemResume (vars : EnvVars) : Action Unit := do
  let config ← orThrow (perform Call.loadConfig)
  orThrow (perform (Call.tvClient config resumeClientOptions))
  let result ← ExceptT.lift (restoreWithStoredToken vars config).run
  let cleanupError ← clearSystemSleepCycle
  match result, cleanupError with
  | .ok (), some err => throw (.io err)
  | .ok (), none => pure ()
  | .error err, _ => throw err

/-! ## The restore leaves the attempt lock alone -/

/-- Every call but one that could take the attempt lock. -/
def Call.LeavesLock (c : Call) : Prop := c ≠ .tryLock

theorem within_writeLine_leavesLock (line : String) : WithinE Call.LeavesLock (writeLine line) :=
  within_writeLine (fun _ => nofun) line

theorem within_flush_leavesLock : WithinE Call.LeavesLock flush := within_orFail (.perform nofun)

theorem within_sendWakePacket (logPrefix : String) (config : Config) :
    WithinE Call.LeavesLock (sendWakePacket logPrefix config) := by
  refine WithinE.bind (within_ask nofun) fun r => ?_
  split
  · trivial
  · exact within_writeLine_leavesLock _

theorem within_waitForTvNetwork (tvIp : Ipv4Addr) (outcome : PolicyOutcome) :
    WithinE Call.LeavesLock (waitForTvNetwork tvIp outcome) := by
  refine (within_writeLine_leavesLock _).bind fun _ => within_flush_leavesLock.bind fun _ => ?_
  refine WithinE.bind (within_ask nofun) fun r => ?_
  split
  · exact (within_writeLine_leavesLock _).bind fun _ => within_flush_leavesLock.bind fun _ => trivial
  · refine (within_writeLine_leavesLock _).bind fun _ => ?_
    refine (within_writeLine_leavesLock _).bind fun _ => within_flush_leavesLock.bind fun _ => ?_
    refine WithinE.bind (within_ask nofun) fun r => ?_
    split
    · exact (within_writeLine_leavesLock _).bind fun _ =>
        within_flush_leavesLock.bind fun _ => trivial
    · exact (within_writeLine_leavesLock _).bind fun _ =>
        within_flush_leavesLock.bind fun _ => trivial

theorem within_restoreInputAttempts (vars : EnvVars) (config : Config) (outcome : PolicyOutcome)
    (attempt remaining : Nat) :
    WithinE Call.LeavesLock (restoreInputAttempts vars config outcome attempt remaining) := by
  induction remaining generalizing outcome attempt with
  | zero =>
    refine (within_writeLine_leavesLock _).bind fun _ => within_flush_leavesLock.bind fun _ => ?_
    exact (within_applyMarkerTransitions nofun nofun _).bind fun _ => trivial
  | succ remaining ih =>
    refine WithinE.bind (within_ask nofun) fun r => ?_
    split
    · refine (within_applyMarkerTransitions nofun nofun _).bind fun _ => ?_
      exact (within_writeLine_leavesLock _).bind fun _ =>
        within_flush_leavesLock.bind fun _ => trivial
    · split
      · refine (within_writeLine_leavesLock _).bind fun _ => within_flush_leavesLock.bind fun _ => ?_
        exact (within_applyMarkerTransitions nofun nofun _).bind fun _ => trivial
      · refine (within_writeLine_leavesLock _).bind fun _ => within_flush_leavesLock.bind fun _ => ?_
        refine (within_writeLine_leavesLock _).bind fun _ => within_flush_leavesLock.bind fun _ => ?_
        refine (within_sendWakePacket _ _).bind fun _ => within_flush_leavesLock.bind fun _ => ?_
        exact WithinE.bind (within_ask nofun) fun _ => ih _ _

theorem within_restoreAfterSystemSleep (vars : EnvVars) (config : Config) :
    WithinE Call.LeavesLock (restoreAfterSystemSleepWithOutcome vars config) := by
  refine WithinE.bind (within_ask nofun) fun markerExists => WithinE.bind ?_ fun _ => ?_
  · unfold renderRestoreAfterSystemSleepStart
    split
    · exact within_writeLine_leavesLock _
    · split
      · exact within_writeLine_leavesLock _
      · exact (within_writeLine_leavesLock _).bind fun _ => within_writeLine_leavesLock _
  · split
    · trivial
    · refine (within_waitForTvNetwork _ _).bind fun _ => ?_
      refine (within_applyMarkerTransitions nofun nofun _).bind fun _ => ?_
      refine (within_writeLine_leavesLock _).bind fun _ => within_flush_leavesLock.bind fun _ => ?_
      refine (within_sendWakePacket _ _).bind fun _ => within_flush_leavesLock.bind fun _ => ?_
      exact WithinE.bind (within_ask nofun) fun _ => within_restoreInputAttempts vars config _ _ _

theorem within_restoreWithStoredToken (vars : EnvVars) (config : Config) :
    WithinE Call.LeavesLock (restoreWithStoredToken vars config) := by
  refine WithinE.bind (within_ask nofun) fun r => ?_
  split
  · exact (within_restoreAfterSystemSleep vars config).bind fun _ => trivial
  · exact (within_orFail (.perform nofun)).bind fun _ => within_writeLine_leavesLock _
  · exact (within_orFail (.perform nofun)).bind fun _ => trivial

end LgBuddy
