import LgBuddy.Machine.Program
import LgBuddy.Setup.Step

/-!
# LgBuddy — the onboarding flow

`OnboardingFlow` of `setup/flow.rs`, with its `Control` and `StepCancellation`. A worker drives the flow,
and anyone may cancel it from another thread.

* `StepCancellation`, `FlowControl` — what the threads share;
* `FlowCall` — one section under the lock of `FlowControl`, one call of the backend, or one of the
  caller; cancellations come in between;
* `refresh`, `tryRun`, `advance`, `tryAdvanceUntilPause` — the flow itself;
* `onboardingRun` — a history of one flow, with a log of all that has happened.

`E` is what the caller's `progress` can fail with.
-/

namespace LgBuddy

/-! ## Cancellation -/

/-- One attempt's cancellation boundary. -/
inductive StepCancellation where
  | available
  | cancelled
  | running
  | finished
  deriving DecidableEq, Repr

namespace StepCancellation

def canCancel (gate : StepCancellation) : Bool := gate = .available

/-- Only what is available can be cancelled. -/
def cancel (gate : StepCancellation) : Bool × StepCancellation :=
  if gate = .available then (true, .cancelled) else (false, gate)

def begin (gate : StepCancellation) : Bool × StepCancellation :=
  if gate = .available then (true, .running) else (false, gate)

def protect (gate : StepCancellation) : Bool × StepCancellation :=
  let (begun, gate) := gate.begin
  (begun || gate = .running, gate)

def finish (_ : StepCancellation) : StepCancellation := .finished

def finishAndWasCancelled (gate : StepCancellation) : Bool × StepCancellation :=
  (gate = .cancelled, .finished)

end StepCancellation

/-- What the backend does with the gate of its attempt. -/
inductive GateUse where
  | begin
  | protect
  | finish
  | finishAndWasCancelled
  deriving DecidableEq, Repr

def GateUse.apply (gate : StepCancellation) : GateUse → StepCancellation
  | .begin => gate.begin.2
  | .protect => gate.protect.2
  | .finish => gate.finish
  | .finishAndWasCancelled => gate.finishAndWasCancelled.2

/-- `lease` is whether the flow's lock is held. -/
structure FlowControl where
  lease : Bool
  attempt : Option StepCancellation
  cancelled : Bool
  closed : Bool
  deriving DecidableEq, Repr

namespace FlowControl

def close (control : FlowControl) : FlowControl := { control with closed := true, lease := false }

/-- `FlowCancellation::can_cancel`. -/
def canCancel (control : FlowControl) : Bool :=
  !control.closed && !control.cancelled && control.attempt.all StepCancellation.canCancel

/-- `FlowCancellation::cancel`. -/
def cancel (control : FlowControl) : Bool × FlowControl :=
  if control.closed || control.cancelled then (false, control)
  else
    match control.attempt with
    | some attempt =>
      let (accepted, attempt) := attempt.cancel
      if accepted then (true, { control with attempt := some attempt, cancelled := true })
      else (false, control)
    | none => (true, { control.close with cancelled := true })

end FlowControl

/-! ## Data -/

inductive StepAnswer where
  | correctTv (request : PairingRequest) (revision : List UInt8)
  | correctUpdatePreference (enabled : Bool) (revision : List UInt8)
  | continue
  | pairing (request : PairingRequest)
  | installBuildDependencies
  deriving DecidableEq

structure FlowToken where
  flow : Nat
  revision : Nat
  deriving DecidableEq, Repr

inductive FlowOutcome where
  | incomplete
  | complete
  | cancelled
  deriving DecidableEq, Repr

structure FlowSnapshot where
  token : FlowToken
  steps : StepResponses
  outcome : FlowOutcome
  deriving DecidableEq

def FlowSnapshot.current (snapshot : FlowSnapshot) : Option (SetupStep × StepResponse) :=
  if snapshot.outcome ≠ .incomplete then none
  else snapshot.steps.toList.find? fun item => !satisfied item.2

structure FlowProgress where
  token : FlowToken
  step : SetupStep
  response : StepResponse
  deriving DecidableEq

structure OnboardingFlow where
  waitingStep : Option SetupStep
  snapshot : FlowSnapshot
  observed : StepResponses
  deriving DecidableEq

/-! ## Calls -/

/-- What `execute_current` finds under the lock. -/
inductive Admission where
  | closed
  /-- `unwrap` of a lease that is not there. -/
  | panicked
  | admitted
  deriving DecidableEq, Repr

/-- `closed`, `cancelled`, `relock`, `admitStep`, `settle`, `publish` and `cancel` are the sections under
the lock. `execute` answers with the progress that the backend is going to report, and `returned` is
where it returns. `entered` only marks that `try_run` was entered. -/
inductive FlowCall where
  | closed
  | cancelled
  | acquire
  | relock
  | inspect
  | admitStep (step : SetupStep)
  | execute (step : SetupStep) (answer : StepAnswer)
  | progress (event : FlowProgress)
  | notify (event : FlowProgress)
  | cancel
  | returned
  | settle (response : StepResponse)
  | publish (token : FlowToken) (steps : StepResponses)
  | entered
  deriving DecidableEq

def FlowCall.Answer (E : Type) : FlowCall → Type
  | .closed | .cancelled | .relock | .cancel | .settle _ => Bool
  | .acquire => Except StepFailure Unit
  | .inspect => StepResponses
  | .admitStep _ => Admission
  | .execute _ _ => List StepResponse
  | .progress _ => Except E Unit
  | .notify _ | .entered => Unit
  | .returned => StepResponse
  | .publish _ _ => FlowOutcome

/-- Neither of these happens. -/
inductive FlowPanic where
  | noLease
  /-- The loop of `try_run` takes one round for each step, and a last one. -/
  | endlessLoop
  deriving DecidableEq, Repr

abbrev FlowM (E : Type) :=
  ExceptT FlowPanic (StateT OnboardingFlow (Program FlowCall (FlowCall.Answer E)))

section

variable {E : Type}

def FlowM.call (e : FlowCall) : FlowM E (e.Answer E) :=
  liftM (Program.perform e : Program FlowCall (FlowCall.Answer E) (e.Answer E))

namespace FlowM

def isClosed : FlowM E Bool := call .closed
def isCancelled : FlowM E Bool := call .cancelled
def relock : FlowM E Bool := call .relock
def inspect : FlowM E StepResponses := call .inspect
def settle (response : StepResponse) : FlowM E Bool := call (.settle response)

end FlowM

open FlowM

namespace OnboardingFlow

/-! ## The flow -/

def currentSnapshot : FlowM E FlowSnapshot := do
  let cancelled ← isCancelled
  let flow ← get
  return if cancelled then { flow.snapshot with outcome := .cancelled } else flow.snapshot

/-- The steps as they are published: as observed, but for the result of an execution. -/
def withResult (observed : StepResponses) : Option (SetupStep × StepResponse) → StepResponses
  | some (step, response) => observed.set response step
  | none => observed

def publish (result : Option (SetupStep × StepResponse)) : FlowM E Unit := do
  let flow ← get
  let steps := withResult flow.observed result
  let token := { flow.snapshot.token with revision := flow.snapshot.token.revision + 1 }
  let outcome ← call (.publish token steps)
  modify ({ · with snapshot := ⟨token, steps, outcome⟩ })

/-- The first publication of a flow; its lock has been acquired. -/
def withBackend : FlowM E Unit := do
  let observed ← inspect
  modify fun flow => { flow with observed, snapshot := { flow.snapshot with steps := observed } }
  publish none

def reinspect : FlowM E FlowSnapshot := do
  let observed ← inspect
  modify ({ · with observed })
  publish none
  currentSnapshot

/-- The lock is there again, unless the flow was closed meanwhile. -/
def resume : FlowM E FlowSnapshot := do
  let relocked ← relock
  if relocked then
    modify ({ · with waitingStep := none })
    reinspect
  else currentSnapshot

def blocked (step : SetupStep) (error : StepFailure) : FlowM E FlowSnapshot :=
  if error.recovery.cause ≠ .busy then do
    publish (some (step, .blocked error))
    currentSnapshot
  else currentSnapshot

def awaitLock (step : SetupStep) : FlowM E FlowSnapshot := do
  match ← call .acquire with
  | .ok () => resume
  | .error error => blocked step error

def refresh : FlowM E FlowSnapshot := do
  if ← isClosed then currentSnapshot
  else
    match (← get).waitingStep with
    | some step => awaitLock step
    | none => reinspect

/-- The caller's `progress`; `error` is what it has failed with. -/
def reportProgress (error : Option E) (event : FlowProgress) : FlowM E (Option E) :=
  match error with
  | some failure => return some failure
  | none => do
    match ← call (.progress event) with
    | .ok () => return none
    | .error failure =>
      let _ ← call .cancel
      return some failure

/-- A `progress` that cannot fail. -/
def notify (error : Option E) (event : FlowProgress) : FlowM E (Option E) := do
  call (.notify event)
  return error

/-- What the backend reports, one after another. -/
def deliver (report : Option E → FlowProgress → FlowM E (Option E)) (token : FlowToken)
    (step : SetupStep) (error : Option E) : List StepResponse → FlowM E (Option E)
  | [] => return error
  | response :: events => do
    let error ← report error ⟨token, step, response⟩
    deliver report token step error events

def awaitStep (waiting : Bool) (step : SetupStep) : FlowM E Unit :=
  if waiting then modify ({ · with waitingStep := some step }) else return ()

/-- After the backend has returned. -/
def afterExecution (step : SetupStep) (response : StepResponse) : FlowM E FlowSnapshot := do
  let waiting ← settle response
  awaitStep waiting step
  let observed ← inspect
  modify ({ · with observed })
  publish (if satisfied response then none else some (step, response))
  currentSnapshot

def perform (report : Option E → FlowProgress → FlowM E (Option E)) (step : SetupStep)
    (token : FlowToken) (answer : StepAnswer) : FlowM E (FlowSnapshot × Option E) := do
  let events ← call (.execute step answer)
  let error ← deliver report token step none events
  let response ← call .returned
  let snapshot ← afterExecution step response
  return (snapshot, error)

def executeCurrent (report : Option E → FlowProgress → FlowM E (Option E)) (step : SetupStep)
    (token : FlowToken) (answer : StepAnswer) : FlowM E (FlowSnapshot × Option E) := do
  match ← call (.admitStep step) with
  | .closed => return (← currentSnapshot, none)
  | .panicked => throw .noLease
  | .admitted => perform report step token answer

/-! ### Running -/

def SetupStep.debug : SetupStep → String
  | .pairing => "Pairing"
  | .services => "Services"
  | .plasma => "Plasma"

/-- A command succeeded, and its step is still not ready. -/
def unverified (step : SetupStep) : StepFailure where
  presentation := ⟨"Setup could not be verified",
    "The requirement is still incomplete. Retry to check and repair it."⟩
  diagnostic := SetupStep.debug step ++ " remains incomplete after setup execution"
  recovery := ⟨.unverified, .localSetup, .retry⟩
  retryable := true

def giveUp (step : SetupStep) : FlowM E (Except E FlowSnapshot) := do
  publish (some (step, .failed (unverified step)))
  return .ok (← currentSnapshot)

/-- There is nothing to do about this step without the caller. -/
def pauses (step : SetupStep) (snapshot : FlowSnapshot) : Bool :=
  !satisfied (snapshot.steps.get step) && !(snapshot.steps.get step).isActionRequired

def runLoop : Nat → List SetupStep → FlowM E (Except E FlowSnapshot)
  | 0, _ => throw .endlessLoop
  | rounds + 1, attempted => do
    let snapshot ← currentSnapshot
    match snapshot.current with
    | some (step, .actionRequired _ _) =>
      if step ∈ attempted then giveUp step
      else
        match ← executeCurrent reportProgress step snapshot.token .continue with
        | (_, some failure) => return .error failure
        | (result, none) =>
          if pauses step result then return .ok result
          else runLoop rounds (attempted ++ [step])
    | _ => return .ok snapshot

/-- What is observed now, published if it is something else. -/
def reobserve : FlowM E Bool := do
  let fresh ← inspect
  let flow ← get
  if fresh ≠ flow.observed then
    modify ({ · with observed := fresh })
    publish none
    return true
  else return false

def startRun : FlowM E (Except E FlowSnapshot) := do
  let snapshot ← currentSnapshot
  if (snapshot.current.map fun item => item.2.isActionRequired) = some true then
    let _ ← reobserve
    runLoop 4 []
  else return .ok (← currentSnapshot)

def runOpen : FlowM E (Except E FlowSnapshot) := do
  if ← isClosed then return .ok (← currentSnapshot)
  else
    match (← get).waitingStep with
    | some _ => return .ok (← refresh)
    | none => startRun

def tryRun (token : FlowToken) : FlowM E (Except E FlowSnapshot) := do
  call .entered
  if token ≠ (← get).snapshot.token then return .ok (← currentSnapshot)
  else runOpen

/-! ### Answering -/

def permitted : StepResponse → Bool
  | .actionRequired _ _ | .inputRequired _ => true
  | .failed failure | .blocked failure => failure.retryable
  | _ => false

/-- A snapshot, whether a step was executed, and what `progress` has failed with. -/
abbrev Advanced (E : Type) := FlowSnapshot × Bool × Option E

def unexecuted (snapshot : FlowM E FlowSnapshot) : FlowM E (Advanced E) := do
  return (← snapshot, false, none)

def executed (execution : FlowM E (FlowSnapshot × Option E)) : FlowM E (Advanced E) := do
  let (snapshot, error) ← execution
  return (snapshot, true, error)

def advanceCurrent (report : Option E → FlowProgress → FlowM E (Option E)) (token : FlowToken)
    (answer : StepAnswer) : FlowM E (Advanced E) := do
  match (← get).snapshot.current with
  | some (step, response) =>
    if permitted response then executed (executeCurrent report step token answer)
    else unexecuted currentSnapshot
  | none => unexecuted currentSnapshot

def advanceOpen (report : Option E → FlowProgress → FlowM E (Option E)) (token : FlowToken)
    (answer : StepAnswer) : FlowM E (Advanced E) := do
  match (← get).waitingStep with
  | some _ => unexecuted refresh
  | none =>
    if ← reobserve then unexecuted currentSnapshot
    else advanceCurrent report token answer

def advanceChecked (report : Option E → FlowProgress → FlowM E (Option E)) (token : FlowToken)
    (answer : StepAnswer) : FlowM E (Advanced E) := do
  if token ≠ (← get).snapshot.token then unexecuted currentSnapshot
  else if ← isClosed then unexecuted currentSnapshot
  else advanceOpen report token answer

def advance (token : FlowToken) (answer : StepAnswer) : FlowM E FlowSnapshot := do
  let (snapshot, _, _) ← advanceChecked notify token answer
  return snapshot

def StepAnswer.correctsPreference : StepAnswer → Bool
  | .correctUpdatePreference _ _ => true
  | _ => false

/-- Whether routine work follows the answer. -/
def continues (step : Option SetupStep) (answer : StepAnswer) (snapshot : FlowSnapshot)
    (executed : Bool) : Bool :=
  step.any (fun step => satisfied (snapshot.steps.get step))
    || (StepAnswer.correctsPreference answer && executed
      && snapshot.current.any fun item => item.1 = .services && item.2.isActionRequired)

def advanceThenRun (token : FlowToken) (answer : StepAnswer) :
    FlowM E (Except E FlowSnapshot) := do
  let step := (← currentSnapshot).current.map Prod.fst
  match ← advanceChecked reportProgress token answer with
  | (_, _, some failure) => return .error failure
  | (snapshot, executed, none) =>
    if continues step answer snapshot executed then tryRun snapshot.token
    else return .ok snapshot

def tryAdvanceUntilPause (token : FlowToken) (answer : StepAnswer) :
    FlowM E (Except E FlowSnapshot) := do
  if token ≠ (← get).snapshot.token then return .ok (← currentSnapshot)
  else advanceThenRun token answer

end OnboardingFlow

/-! ## Histories -/

/-- What the caller asks for. -/
inductive FlowOperation where
  | refresh
  | tryRun (token : FlowToken)
  | advance (token : FlowToken) (answer : StepAnswer)
  | tryAdvanceUntilPause (token : FlowToken) (answer : StepAnswer)
  deriving DecidableEq

def FlowOperation.program : FlowOperation → FlowM E (Except E FlowSnapshot)
  | .refresh => do return .ok (← OnboardingFlow.refresh)
  | .tryRun token => OnboardingFlow.tryRun token
  | .advance token answer => do return .ok (← OnboardingFlow.advance token answer)
  | .tryAdvanceUntilPause token answer => OnboardingFlow.tryAdvanceUntilPause token answer

def FlowOperation.token : FlowOperation → Option FlowToken
  | .refresh => none
  | .tryRun token | .advance token _ | .tryAdvanceUntilPause token _ => some token

/-- What happens between the calls of the flow: another thread cancels, or the backend uses the gate
of the attempt. -/
inductive FlowMove where
  | cancel
  | gate (use : GateUse)
  deriving DecidableEq, Repr

/-- What has happened; with each call the state it was made in. -/
inductive FlowRecord (E : Type) where
  | asked (operation : FlowOperation)
  | called (control : FlowControl) (e : FlowCall) (answer : e.Answer E)
  | cancelRequested (accepted : Bool)
  | answered (result : Except E FlowSnapshot)

structure FlowWorld (E : Type) where
  control : FlowControl
  log : List (FlowRecord E)

namespace FlowWorld

def move (world : FlowWorld E) : FlowMove → FlowWorld E
  | .cancel =>
    let (accepted, control) := world.control.cancel
    ⟨control, world.log ++ [.cancelRequested accepted]⟩
  | .gate use =>
    { world with control :=
        { world.control with attempt := world.control.attempt.map (use.apply ·) } }

def moves (world : FlowWorld E) (between : List FlowMove) : FlowWorld E :=
  between.foldl move world

end FlowWorld

/-- How the next calls to the outside are answered. -/
structure FlowAnswers (E : Type) where
  acquire : Except StepFailure Unit
  inspect : StepResponses
  execute : List StepResponse
  progress : Except E Unit
  returned : StepResponse

namespace FlowControl

def admission (control : FlowControl) : Admission :=
  if control.closed then .closed else if control.lease then .admitted else .panicked

/-- The helper of this step may outlive its attempt. -/
def isBusy (response : StepResponse) : Bool :=
  response.recovery.any fun recovery => recovery.cause = .busy && recovery.action = .recheck

/-- The section after `execute`: whether the lease is given up, and the state. -/
def settle (control : FlowControl) (response : StepResponse) : Bool × FlowControl :=
  let cancelled := control.cancelled || response = .cancelled
  let control := { control with attempt := none, cancelled }
  if cancelled then (false, control.close)
  else if isBusy response then (true, { control with lease := false })
  else (false, control)

def publish (control : FlowControl) (steps : StepResponses) : FlowOutcome × FlowControl :=
  if control.cancelled then (.cancelled, control)
  else if steps.allSatisfied then (.complete, control.close)
  else (.incomplete, control)

/-- One call. -/
def respond (control : FlowControl) (answers : FlowAnswers E) : (e : FlowCall) → e.Answer E × FlowControl
  | .closed => (control.closed, control)
  | .cancelled => (control.cancelled, control)
  | .acquire => (answers.acquire, control)
  | .relock =>
    if control.closed then (false, control) else (true, { control with lease := true })
  | .inspect => (answers.inspect, control)
  | .admitStep _ =>
    (control.admission,
      if control.closed then control else { control with attempt := some .available })
  | .execute _ _ => (answers.execute, control)
  | .progress _ => (answers.progress, control)
  | .notify _ => ((), control)
  | .cancel => control.cancel
  | .returned => (answers.returned, control)
  | .settle response => control.settle response
  | .publish _ steps => control.publish steps
  | .entered => ((), control)

end FlowControl

def FlowWorld.respond (world : FlowWorld E) (answers : FlowAnswers E) (e : FlowCall) :
    e.Answer E × FlowWorld E :=
  let (r, control) := world.control.respond answers e
  (r, ⟨control, world.log ++ [.called world.control e r]⟩)

/-- The answers, and what happens before each call, are numbered by what has happened before. -/
structure FlowEnvironment (E : Type) where
  answers : Nat → FlowAnswers E
  between : Nat → List FlowMove

def FlowWorld.handle (env : FlowEnvironment E) (world : FlowWorld E) (e : FlowCall) :
    e.Answer E × FlowWorld E :=
  (world.moves (env.between world.log.length)).respond (env.answers world.log.length) e

structure OnboardingSystem (E : Type) where
  flow : OnboardingFlow
  world : FlowWorld E

/-- The flow as it is opened, before anything is published. -/
def OnboardingSystem.new (flow : Nat) (observed : StepResponses) : OnboardingSystem E where
  flow := ⟨none, ⟨⟨flow, 0⟩, observed, .incomplete⟩, observed⟩
  world := ⟨⟨true, none, false, false⟩, []⟩

inductive OnboardingStep where
  | move (move : FlowMove)
  | ask (operation : FlowOperation)
  deriving DecidableEq

/-- What an operation leaves behind; after a panic there is no result. -/
def OnboardingSystem.run {α : Type} (env : FlowEnvironment E) (system : OnboardingSystem E) (program : FlowM E α)
    (note : α → List (FlowRecord E)) : OnboardingSystem E :=
  let result := Program.exec (FlowWorld.handle env) (program.run.run system.flow) system.world
  match result.1.1 with
  | .ok a => ⟨result.1.2, { result.2 with log := result.2.log ++ note a }⟩
  | .error _ => ⟨result.1.2, result.2⟩

def onboardingStep (env : FlowEnvironment E) (system : OnboardingSystem E) : OnboardingStep → OnboardingSystem E
  | .move move => { system with world := system.world.move move }
  | .ask operation =>
    OnboardingSystem.run env
      { system with world := { system.world with log := system.world.log ++ [.asked operation] } }
      operation.program fun result => [.answered result]

def onboardingRun (env : FlowEnvironment E) (flow : Nat) (observed : StepResponses)
    (steps : List OnboardingStep) : OnboardingSystem E :=
  steps.foldl (onboardingStep env)
    (OnboardingSystem.run env (.new flow observed) OnboardingFlow.withBackend fun _ => [])

end

end LgBuddy
