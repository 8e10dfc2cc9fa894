import LgBuddy.Lifecycle.Calls
import LgBuddy.Session.Bus

/-!
# LgBuddy — the lifecycle monitor

`run_lifecycle_monitor_with_bus` of `session/runner.rs`: a loop over logind's `PrepareForSleep`
signals that holds a sleep-delay inhibitor while the machine is awake.

* `MonitorCall` — what the loop asks of the bus, the config file, its output and the executor;
* `MonitorM` — the loop's local variables survive an error, because leaving the function drops
  them and with them the inhibitor;
* `lifecycleMonitorPass` — one pass through the loop; `runLifecycleMonitorWithBus` — any number
  of them, and the drop of the inhibitor on the way out.
-/

namespace LgBuddy

open Program

/-! ## Signals -/

def logindManagerPath : String := "/org/freedesktop/login1"

def logindManagerInterface : String := "org.freedesktop.login1.Manager"

def mapPrepareForSleepSignal (signal : BusSignal) : Option RuntimeEvent :=
  if signal.path ≠ logindManagerPath ∨ signal.interface ≠ logindManagerInterface
      ∨ signal.member ≠ "PrepareForSleep" then
    none
  else
    match signal.body with
    | [.bool preparing] => some (.fromLogindPrepareForSleep preparing)
    | _ => none

def BusSignal.prepareForSleep (preparing : Bool) : BusSignal :=
  ⟨none, logindManagerPath, logindManagerInterface, "PrepareForSleep", [.bool preparing]⟩

/-- Nothing but the two lifecycle events comes out of a signal. -/
theorem mapPrepareForSleepSignal_some {signal : BusSignal} {event : RuntimeEvent}
    (h : mapPrepareForSleepSignal signal = some event) :
    ∃ preparing, event = .fromLogindPrepareForSleep preparing := by
  unfold mapPrepareForSleepSignal at h
  split at h
  · cases h
  · split at h
    · rename_i preparing _
      exact ⟨preparing, (Option.some.inj h).symm⟩
    · cases h

/-! ## Calls -/

/-- An owned file descriptor. -/
abbrev Fd := Nat

inductive MonitorCall where
  | writeLine (line : String)
  | write (text : String)
  | flush
  -- the clock since the monitor started, in nanoseconds
  | elapsed
  | addSignalMatch
  | process (timeoutNanos : Nat)
  -- logind's `Inhibit("sleep", …, "delay")`, and the drop of the descriptor it gave
  | inhibit
  | closeInhibitor (fd : Fd)
  -- `load_current_config`, of which the monitor reads the policy
  | loadPolicy
  | beforeSleep (event : RuntimeEvent)
  | afterResumeStreaming (event : RuntimeEvent)

@[reducible] def MonitorReply : MonitorCall → Type
  | .writeLine _ | .write _ | .flush => Except IoError Unit
  | .elapsed => Nat
  | .addSignalMatch => Except String Unit
  | .process _ => Except String (Option BusSignal)
  | .inhibit => Except String Fd
  | .closeInhibitor _ => Unit
  | .loadPolicy => Except String SystemSleepWakePolicy
  | .beforeSleep _ => Except RunError String
  | .afterResumeStreaming _ => Except RunError Unit

/-- `Failed` always names the automatic backend here. -/
inductive SessionRunnerError where
  | io (message : String)
  | failed (message : String)
  deriving DecidableEq, Repr

structure MonitorSettings where
  testTimeout : Option Nat := none
  testEventLimit : Option Nat := none

/-- The local variables of the loop. -/
structure MonitorState where
  sleepInhibitor : Option Fd := none
  waitingForResume : Bool := false
  lifecycleEventsSeen : Nat := 0
  deriving DecidableEq, Repr

abbrev MonitorM :=
  ExceptT SessionRunnerError (StateT MonitorState (Program MonitorCall MonitorReply))

namespace MonitorM

def ask (c : MonitorCall) : MonitorM (MonitorReply c) := liftM (perform c)

/-- `?` on an `io::Result`. -/
def orIo {α : Type} (result : Except IoError α) : MonitorM α :=
  match result with
  | .ok a => pure a
  | .error err => throw (.io err)

/-- `?` on a result whose error is reported with this text before it. -/
def orFailed {α : Type} (result : Except String α) (what : String) : MonitorM α :=
  match result with
  | .ok a => pure a
  | .error err => throw (.failed s!"{what}: {err}")

def writeLine (line : String) : MonitorM Unit := do orIo (← ask (.writeLine line))

def flush : MonitorM Unit := do orIo (← ask .flush)

/-- The result of a part, error or not. -/
def attempt {α : Type} (p : MonitorM α) : MonitorM (Except SessionRunnerError α) :=
  ExceptT.lift p.run

def rethrow {α : Type} : Except SessionRunnerError α → MonitorM α
  | .ok a => pure a
  | .error err => throw err

end MonitorM

open MonitorM

/-! ## The inhibitor -/

/-- The slot is emptied and the descriptor closed before the line is written. -/
def releaseLifecycleSleepDelayInhibitor : MonitorM Unit := do
  match (← get).sleepInhibitor with
  | some fd =>
    modify fun s => { s with sleepInhibitor := none }
    ask (.closeInhibitor fd)
    writeLine "LG Buddy Lifecycle: Released logind sleep delay inhibitor."
  | none => pure ()

def lifecyclePolicyEnabledFromConfig : MonitorM Bool := do
  let policy ← orFailed (← ask .loadPolicy) "failed to load lifecycle config"
  return policy.isEnabled

def syncLifecycleSleepDelayInhibitorIfIdle : MonitorM Unit := do
  if !(← lifecyclePolicyEnabledFromConfig) then
    releaseLifecycleSleepDelayInhibitor
  else
    let s ← get
    if s.waitingForResume || s.sleepInhibitor.isSome then
      pure ()
    else
      let inhibitor ← orFailed (← ask .inhibit) "failed to acquire logind sleep delay inhibitor"
      modify fun s => { s with sleepInhibitor := some inhibitor }
      writeLine "LG Buddy Lifecycle: Acquired logind sleep delay inhibitor."

/-! ## Dispatch -/

def writeCommandOutput (output : String) : MonitorM Unit := do
  if output = "" then
    pure ()
  else
    orIo (← ask (.write output))
    if output.toList.getLast? ≠ some '\n' then
      writeLine ""
    flush

/-- The executor's errors are lines of output; only the monitor's own output can fail here. -/
def dispatchLifecycleEvent (event : RuntimeEvent) : MonitorM Unit := do
  match LifecycleEvent.fromRuntimeEvent event with
  | some .machineResumed =>
    writeLine "LG Buddy Lifecycle: System resumed from sleep."
    writeLine "LG Buddy Monitor: Session event `after-resume` requests wake restore."
    flush
    match ← ask (.afterResumeStreaming event) with
    | .ok () => pure ()
    | .error err => writeLine s!"LG Buddy Lifecycle: wake restore action failed. {err}"
  | some .machinePreparingForSleep =>
    writeLine "LG Buddy Lifecycle: System is preparing for sleep."
    writeLine "LG Buddy Lifecycle: logind pre-sleep requests TV power-off before suspend."
    flush
    match ← ask (.beforeSleep event) with
    | .ok output => writeCommandOutput output
    | .error err => writeLine s!"LG Buddy Lifecycle: pre-sleep action failed. {err}"
  | some _ | none => pure ()

/-! ## The loop -/

/-- Counts the event; whether the loop goes on. -/
def countLifecycleEvent (settings : MonitorSettings) : MonitorM Bool := do
  modify fun s => { s with lifecycleEventsSeen := s.lifecycleEventsSeen + 1 }
  let seen := (← get).lifecycleEventsSeen
  return !settings.testEventLimit.any (· ≤ seen)

/-- `waiting_for_resume`, set before anything else is done about the event. -/
def noteLifecycleEvent (event : Option LifecycleEvent) : MonitorM Unit :=
  match event with
  | some .machinePreparingForSleep => modify fun s => { s with waitingForResume := true }
  | some .machineResumed => modify fun s => { s with waitingForResume := false }
  | _ => pure ()

theorem wpS_noteLifecycleEvent {τ : Type} {C : Contract MonitorCall MonitorReply τ} {t : τ}
    {s : MonitorState} {preparing : Bool} {Q : Unit → MonitorState → τ → Prop}
    {E : SessionRunnerError → MonitorState → τ → Prop}
    (hQ : Q () { s with waitingForResume := preparing } t) :
    wpS C (noteLifecycleEvent (LifecycleEvent.fromRuntimeEvent
      (.fromLogindPrepareForSleep preparing))) Q E s t := by
  cases preparing with
  | true => exact wpS_modify.mpr hQ
  | false => exact wpS_modify.mpr hQ

def handleLifecycleSignal (settings : MonitorSettings) (event : RuntimeEvent) : MonitorM Bool := do
  let eventKind := LifecycleEvent.fromRuntimeEvent event
  noteLifecycleEvent eventKind
  if !(← lifecyclePolicyEnabledFromConfig) then
    releaseLifecycleSleepDelayInhibitor
    writeLine "LG Buddy Lifecycle: system sleep/wake handling is disabled by config; skipping lifecycle event."
    countLifecycleEvent settings
  else
    match eventKind with
    | some .machineResumed =>
      dispatchLifecycleEvent event
      syncLifecycleSleepDelayInhibitorIfIdle
    | some .machinePreparingForSleep =>
      -- the inhibitor goes whether or not the dispatch succeeded
      let dispatchResult ← attempt (dispatchLifecycleEvent event)
      let releaseResult ← attempt releaseLifecycleSleepDelayInhibitor
      rethrow dispatchResult
      rethrow releaseResult
    | some _ => dispatchLifecycleEvent event
    | none => pure ()
    countLifecycleEvent settings

/-- Five seconds, or at most 50 ms and what is left of a test's time. -/
def processTimeout (settings : MonitorSettings) : MonitorM Nat := do
  match settings.testTimeout with
  | some timeout => return min (min 5000000000 50000000) (timeout - (← ask .elapsed))
  | none => return 5000000000

/-- Whether a test's time is over. -/
def testTimeoutReached (settings : MonitorSettings) : MonitorM Bool := do
  match settings.testTimeout with
  | some timeout => return timeout ≤ (← ask .elapsed)
  | none => return false

/-- One pass; whether the loop goes on. -/
def lifecycleMonitorPass (settings : MonitorSettings) : MonitorM Bool := do
  if ← testTimeoutReached settings then
    return false
  else
    let timeout ← processTimeout settings
    syncLifecycleSleepDelayInhibitorIfIdle
    let signal ←
      orFailed (← ask (.process timeout)) "logind lifecycle bus processing failed"
    match signal.bind mapPrepareForSleepSignal with
    | none => return true
    | some event => handleLifecycleSignal settings event

/-- At most this many passes; whether the loop is still going on. -/
def lifecycleMonitorPasses (settings : MonitorSettings) : Nat → MonitorM Bool
  | 0 => return true
  | passes + 1 => do
    if ← lifecycleMonitorPass settings then lifecycleMonitorPasses settings passes
    else return false

/-- Up to the loop. -/
def startLifecycleMonitor : MonitorM Unit := do
  orFailed (← ask .addSignalMatch) "failed to subscribe to logind lifecycle signals"
  writeLine "LG Buddy Lifecycle: Using logind system lifecycle source."
  syncLifecycleSleepDelayInhibitorIfIdle

def monitorBody (settings : MonitorSettings) (passes : Nat) : MonitorM Bool := do
  startLifecycleMonitor
  lifecycleMonitorPasses settings passes

/-- The monitor after so many passes: `none` while it is running, and its result once it has
returned and its inhibitor is dropped. -/
def runLifecycleMonitorWithBus (settings : MonitorSettings) (passes : Nat) :
    Program MonitorCall MonitorReply (Option (Except SessionRunnerError Unit)) := do
  let (result, s) ← (monitorBody settings passes).run.run {}
  match result with
  | .ok true => pure none
  | .ok false => do
    dropInhibitor s
    pure (some (.ok ()))
  | .error err => do
    dropInhibitor s
    pure (some (.error err))
where
  dropInhibitor (s : MonitorState) : Program MonitorCall MonitorReply Unit :=
    match s.sleepInhibitor with
    | some fd => perform (MonitorCall.closeInhibitor fd)
    | none => pure ()

end LgBuddy
