import LgBuddy.Session.Inactivity
import Mathlib.Logic.Function.Basic
import Mathlib.Algebra.Group.Nat.Defs

/-!
# LgBuddy — the inhibition gate

`inhibition.rs`: the gate the idle timer asks before it blanks. Push adapters are read by the
monitor itself; pull adapters are queried by a worker thread, one request at a time. The two
threads share a request queue of capacity one and, per request, a cancellation flag and a reply
channel.

* the evaluations and `reconcile` are pure and follow the source;
* `GateSystem` is both threads with everything they share. An attempt (one request with its flag
  and its channel) is a number, and numbers are never used twice;
* `GateSystem.step` is one step of one thread. `can_blank` is cut where the other thread can come
  in between: after the push adapters were read, before the reply channel is polled, and before
  the request is sent. Inputs carry what the step reads from outside (the clock, the adapters),
  so a list of inputs is an interleaving together with arbitrary changes of the adapters.
-/

namespace LgBuddy

/-! ## Evaluations -/

/-- The largest instant the monotonic clock can represent: `i64` seconds. -/
def Instant.MAX : Instant := 2 ^ 63 * 1000000000 - 1

/-- `Instant::checked_add`. -/
def Instant.checkedAdd (t : Instant) (d : Duration) : Option Instant :=
  if t + d ≤ Instant.MAX then some (t + d) else none

inductive ScreenHonorIdleInhibitorsPolicy where
  | enabled
  | disabled
  deriving DecidableEq, Repr

def ScreenHonorIdleInhibitorsPolicy.isEnabled : ScreenHonorIdleInhibitorsPolicy → Bool
  | .enabled => true
  | .disabled => false

structure InhibitionPreferenceDiagnostics where
  honoring : ScreenHonorIdleInhibitorsPolicy
  deriving DecidableEq, Repr

structure InhibitionPreferenceEvaluation where
  bypassInhibition : Bool
  diagnostics : InhibitionPreferenceDiagnostics
  deriving DecidableEq, Repr

/-- Of the configuration only `screen_honor_idle_inhibitors` is read. -/
def evaluateInhibitionPreference (screenHonorIdleInhibitors : ScreenHonorIdleInhibitorsPolicy) :
    InhibitionPreferenceEvaluation where
  bypassInhibition := !screenHonorIdleInhibitors.isEnabled
  diagnostics := { honoring := screenHonorIdleInhibitors }

inductive InhibitionStatus where
  | absent
  | unavailable (reason : String)
  | clear
  | inhibited
  deriving DecidableEq, Repr

structure InhibitionDiagnostics where
  source : String
  status : InhibitionStatus
  observedAt : Option Instant
  lastReleaseAt : Option Instant
  deriving DecidableEq, Repr

structure InhibitionEvaluation where
  allowed : Bool
  diagnostics : InhibitionDiagnostics
  deriving DecidableEq, Repr

structure InhibitionSectionEvaluation where
  allowed : Bool
  contributions : List InhibitionEvaluation
  deriving DecidableEq, Repr

/-- A section is allowed when every contribution is. -/
def InhibitionSectionEvaluation.ofContributions (contributions : List InhibitionEvaluation) :
    InhibitionSectionEvaluation where
  allowed := contributions.all (·.allowed)
  contributions := contributions

/-- `evaluate_push_inhibition`, for the values the adapters returned. -/
def evaluatePushInhibition (evaluations : List InhibitionEvaluation) :
    InhibitionSectionEvaluation :=
  .ofContributions evaluations

structure BlankingEvaluation where
  evaluatedAt : Instant
  canBlank : Bool
  preference : InhibitionPreferenceEvaluation
  push : Option InhibitionSectionEvaluation
  pull : Option InhibitionSectionEvaluation
  checking : Bool
  releaseNotBefore : Option Instant
  deriving DecidableEq, Repr

/-- All release instants among the contributions of the sections that were evaluated. -/
def releases (push pull : Option InhibitionSectionEvaluation) : List Instant :=
  ((push.toList ++ pull.toList).flatMap (·.contributions)).filterMap
    (·.diagnostics.lastReleaseAt)

def reconcile (preference : InhibitionPreferenceEvaluation)
    (push pull : Option InhibitionSectionEvaluation) (releaseDelay : Duration) (now : Instant)
    (checking : Bool) : BlankingEvaluation :=
  let releaseNotBefore := (releases push pull).max?.bind (·.checkedAdd releaseDelay)
  let canBlank := preference.bypassInhibition
    || (push.any (·.allowed) && pull.any (·.allowed) && releaseNotBefore.all (· ≤ now))
  { evaluatedAt := now, canBlank, preference, push, pull, checking, releaseNotBefore }

/-- What a positive verdict rests on, when inhibitors are honored. -/
theorem reconcile_canBlank {preference : InhibitionPreferenceEvaluation}
    {push pull : Option InhibitionSectionEvaluation} {releaseDelay : Duration} {now : Instant}
    {checking : Bool} (hhonor : preference.bypassInhibition = false)
    (h : (reconcile preference push pull releaseDelay now checking).canBlank = true) :
    (∃ section' ∈ push, section'.allowed = true) ∧ (∃ section' ∈ pull, section'.allowed = true)
      ∧ ∀ d ∈ (releases push pull).max?.bind (·.checkedAdd releaseDelay), d ≤ now := by
  simp only [reconcile, hhonor, Bool.false_or, Bool.and_eq_true, Option.any_eq_true,
    Option.all_eq_true, decide_eq_true_eq] at h
  exact ⟨h.1.1, h.1.2, h.2⟩

/-- Without a pull section the verdict is the bypass. -/
theorem reconcile_without_pull {preference : InhibitionPreferenceEvaluation}
    {push : Option InhibitionSectionEvaluation} {releaseDelay : Duration} {now : Instant}
    (checking : Bool) :
    (reconcile preference push none releaseDelay now checking).canBlank
      = preference.bypassInhibition := by
  simp [reconcile]

/-! ## The monitor's side -/

/-- A request that was sent and not yet answered, with the push evaluation of that moment. -/
structure PendingCheck where
  attempt : Nat
  push : InhibitionSectionEvaluation
  deriving DecidableEq, Repr

structure Inhibition where
  preference : InhibitionPreferenceEvaluation
  releaseDelay : Duration
  /-- How many push adapters there are; fixed for the life of the gate. -/
  pushAdapters : Nat
  pending : Option PendingCheck
  retryAt : Option Instant
  diagnostics : Option BlankingEvaluation
  completedDiagnostics : Option BlankingEvaluation
  deriving DecidableEq, Repr

namespace Inhibition

def RETRY_INTERVAL : Duration := Duration.fromSecs 1

/-- `cancel` on the gate's own fields; the flag is the caller's. -/
def cancel (g : Inhibition) : Inhibition :=
  { g with pending := none, retryAt := none, diagnostics := none, completedDiagnostics := none }

def record (g : Inhibition) (push pull : Option InhibitionSectionEvaluation) (now : Instant)
    (checking : Bool) : Inhibition × Bool :=
  let evaluation := reconcile g.preference push pull g.releaseDelay now checking
  ({ g with
     diagnostics := some evaluation
     completedDiagnostics :=
       if evaluation.pull.isSome || evaluation.preference.bypassInhibition then some evaluation
       else g.completedDiagnostics }, evaluation.canBlank)

/-- A source change or an intervening observed release invalidates a check; refreshing the same
Boolean does not. -/
def changed (old new : InhibitionEvaluation) : Bool :=
  old.allowed != new.allowed || old.diagnostics.status != new.diagnostics.status
    || old.diagnostics.lastReleaseAt != new.diagnostics.lastReleaseAt

def pushChanged (g : Inhibition) (push : InhibitionSectionEvaluation) : Bool :=
  g.pending.any fun pending =>
    (pending.push.contributions.zip push.contributions).any fun (old, new) => changed old new

@[simp] theorem cancel_pending (g : Inhibition) : g.cancel.pending = none := rfl
@[simp] theorem cancel_pushAdapters (g : Inhibition) : g.cancel.pushAdapters = g.pushAdapters := rfl

section
variable (g : Inhibition) (push pull : Option InhibitionSectionEvaluation) (now : Instant)
  (checking : Bool)

@[simp] theorem record_preference :
    (g.record push pull now checking).1.preference = g.preference := rfl

@[simp] theorem record_pushAdapters :
    (g.record push pull now checking).1.pushAdapters = g.pushAdapters := rfl

@[simp] theorem record_answer : (g.record push pull now checking).2
    = (reconcile g.preference push pull g.releaseDelay now checking).canBlank := rfl

end

end Inhibition

/-! ## Both threads -/

/-- Where the monitor is inside `can_blank`. -/
inductive MonitorPc where
  | idle
  /-- The push adapters have been read. -/
  | polling (now : Instant) (push : InhibitionSectionEvaluation)
  /-- There is no pending check; a request may be sent. -/
  | sending (now : Instant) (push : InhibitionSectionEvaluation)
  | dropped
  deriving DecidableEq, Repr

/-- Where the worker is inside `evaluate_pull_inhibition`. -/
inductive WorkerPc where
  | idle
  /-- About to load the cancellation flag. -/
  | checking (attempt : Nat) (contributions : List InhibitionEvaluation)
  /-- Inside an adapter's `query`. -/
  | querying (attempt : Nat) (contributions : List InhibitionEvaluation)
  | replying (attempt : Nat) (result : Option InhibitionSectionEvaluation)
  | dead
  deriving DecidableEq, Repr

/-- The attempt the worker is working on. -/
def WorkerPc.attempt : WorkerPc → Option Nat
  | .checking attempt _ | .querying attempt _ | .replying attempt _ => some attempt
  | .idle | .dead => none

/-- A reply channel: the sender is alive, a message is in it, or it is empty and disconnected. -/
inductive Reply where
  | waiting
  | sent (result : Option InhibitionSectionEvaluation)
  | closed
  deriving DecidableEq, Repr

structure GateSystem where
  gate : Inhibition
  monitor : MonitorPc
  queue : Option Nat
  worker : WorkerPc
  pullAdapters : Nat
  stop : Bool
  cancelled : Nat → Bool
  replies : Nat → Reply
  nextAttempt : Nat

/-- What happens, as far as the other thread or the caller can see it. -/
inductive GateEvent where
  /-- `can_blank(now)` has read the push adapters. -/
  | called (now : Instant) (push : List InhibitionEvaluation)
  /-- `cancel` ran; the attempt is the pending one, if there was one. -/
  | cancelled (attempt : Option Nat)
  | requested (attempt : Nat) (push : List InhibitionEvaluation)
  | queried (attempt : Nat) (result : Option InhibitionEvaluation)
  | replied (attempt : Nat) (result : Option InhibitionSectionEvaluation)
  /-- `can_blank(now)` returned, after consuming this reply, if any. -/
  | returned (now : Instant) (consumed : Option (Nat × Option InhibitionSectionEvaluation))
      (answer : Bool)
  deriving DecidableEq, Repr

inductive GateInput where
  | cancel
  | configure (screenHonorIdleInhibitors : ScreenHonorIdleInhibitorsPolicy)
      (releaseDelay : Duration)
  | canBlank (now : Instant) (push : List InhibitionEvaluation)
  | poll
  | send
  | drop
  | receive
  | check
  | queryReturn (result : Option InhibitionEvaluation)
  | reply
  | die
  deriving DecidableEq, Repr

namespace GateSystem

/-- `Inhibition::new`: nothing pending, the worker waiting for its first request. -/
def new (screenHonorIdleInhibitors : ScreenHonorIdleInhibitorsPolicy) (releaseDelay : Duration)
    (pushAdapters pullAdapters : Nat) : GateSystem where
  gate :=
    { preference := evaluateInhibitionPreference screenHonorIdleInhibitors
      releaseDelay := releaseDelay
      pushAdapters := pushAdapters
      pending := none
      retryAt := none
      diagnostics := none
      completedDiagnostics := none }
  monitor := .idle
  queue := none
  worker := .idle
  pullAdapters := pullAdapters
  stop := false
  cancelled := fun _ => false
  replies := fun _ => .waiting
  nextAttempt := 0

/-! ### Steps of the monitor -/

def cancel (s : GateSystem) : GateSystem :=
  { s with
    gate := s.gate.cancel
    cancelled := s.gate.pending.elim s.cancelled
      fun pending => Function.update s.cancelled pending.attempt true }

def cancelEvent (s : GateSystem) : GateEvent := .cancelled (s.gate.pending.map (·.attempt))

def configure (s : GateSystem) (screenHonorIdleInhibitors : ScreenHonorIdleInhibitorsPolicy)
    (releaseDelay : Duration) : GateSystem × List GateEvent :=
  let preference := evaluateInhibitionPreference screenHonorIdleInhibitors
  if s.gate.preference ≠ preference ∨ s.gate.releaseDelay ≠ releaseDelay then
    ({ s.cancel with gate := { s.cancel.gate with preference, releaseDelay } }, [s.cancelEvent])
  else (s, [])

/-- `can_blank` up to the poll. `evaluations` is what the push adapters return, one each. -/
def canBlank (s : GateSystem) (now : Instant) (evaluations : List InhibitionEvaluation) :
    GateSystem × List GateEvent :=
  if s.gate.preference.bypassInhibition then
    let (gate, answer) := s.cancel.gate.record none none now false
    ({ s.cancel with gate }, [s.cancelEvent, .returned now none answer])
  else if evaluations.length ≠ s.gate.pushAdapters then (s, [])
  else
    let push := evaluatePushInhibition evaluations
    if s.gate.pushChanged push then
      ({ s.cancel with monitor := .polling now push }, [.called now evaluations, s.cancelEvent])
    else ({ s with monitor := .polling now push }, [.called now evaluations])

/-- `pending.reply.try_recv()` and the three ways it can end. -/
def poll (s : GateSystem) (now : Instant) (push : InhibitionSectionEvaluation) :
    GateSystem × List GateEvent :=
  match s.gate.pending with
  | none => ({ s with monitor := .sending now push }, [])
  | some pending =>
    match s.replies pending.attempt with
    | .sent pull =>
      let gate := { s.gate with
        pending := none
        retryAt := some (now + Inhibition.RETRY_INTERVAL) }
      let (gate, answer) := gate.record (some push) pull now false
      ({ s with
         gate
         monitor := .idle
         replies := Function.update s.replies pending.attempt .closed },
       [.returned now (some (pending.attempt, pull)) answer])
    | .waiting =>
      let (gate, answer) := s.gate.record (some push) none now true
      ({ s with gate, monitor := .idle }, [.returned now none answer])
    | .closed =>
      ({ s.cancel with
         gate := { s.cancel.gate with retryAt := some (now + Inhibition.RETRY_INTERVAL) }
         monitor := .sending now push }, [s.cancelEvent])

/-- The rest of `can_blank`: a request, if the retry interval is over. The queue holds one
request and is disconnected when the worker is gone. -/
def send (s : GateSystem) (now : Instant) (push : InhibitionSectionEvaluation) :
    GateSystem × List GateEvent :=
  if s.gate.retryAt.all (· ≤ now) then
    if s.queue.isNone && s.worker != .dead then
      let gate := { s.gate with
        pending := some { attempt := s.nextAttempt, push }
        retryAt := some (now + Inhibition.RETRY_INTERVAL) }
      let (gate, answer) := gate.record (some push) none now gate.pending.isSome
      ({ s with
         gate
         monitor := .idle
         queue := some s.nextAttempt
         nextAttempt := s.nextAttempt + 1 },
       [.requested s.nextAttempt push.contributions, .returned now none answer])
    else
      let gate := { s.gate with retryAt := some (now + Inhibition.RETRY_INTERVAL) }
      let (gate, answer) := gate.record (some push) none now gate.pending.isSome
      ({ s with gate, monitor := .idle }, [.returned now none answer])
  else
    let (gate, answer) := s.gate.record (some push) none now s.gate.pending.isSome
    ({ s with gate, monitor := .idle }, [.returned now none answer])

/-- `Drop`: cancel, raise the stop flag, hang up the queue. -/
def drop (s : GateSystem) : GateSystem × List GateEvent :=
  ({ s.cancel with stop := true, monitor := .dropped }, [s.cancelEvent])

/-! ### Steps of the worker -/

/-- The worker goes away and takes every sender it holds with it: the one of the attempt it works
on and the one of the queued attempt. -/
def hangUp (s : GateSystem) (attempts : List Nat) : GateSystem :=
  { s with
    worker := .dead
    queue := none
    replies := fun attempt => if attempt ∈ attempts then .closed else s.replies attempt }

/-- `receiver.recv()` and the stop flag. -/
def receive (s : GateSystem) : GateSystem :=
  match s.queue with
  | some attempt =>
    if s.stop then s.hangUp [attempt]
    else { s with queue := none, worker := .checking attempt [] }
  | none => if s.stop then s.hangUp [] else s

/-- The flag is loaded before every query and once more after the last one. -/
def check (s : GateSystem) (attempt : Nat) (contributions : List InhibitionEvaluation) :
    GateSystem :=
  if s.cancelled attempt then { s with worker := .replying attempt none }
  else if contributions.length < s.pullAdapters then
    { s with worker := .querying attempt contributions }
  else { s with worker := .replying attempt (some (.ofContributions contributions)) }

def queryReturn (s : GateSystem) (attempt : Nat) (contributions : List InhibitionEvaluation)
    (result : Option InhibitionEvaluation) : GateSystem × List GateEvent :=
  match result with
  | none => ({ s with worker := .replying attempt none }, [.queried attempt none])
  | some evaluation =>
    ({ s with worker := .checking attempt (contributions ++ [evaluation]) },
     [.queried attempt (some evaluation)])

def reply (s : GateSystem) (attempt : Nat) (result : Option InhibitionSectionEvaluation) :
    GateSystem × List GateEvent :=
  ({ s with
     worker := .idle
     replies := Function.update s.replies attempt (.sent result) },
   [.replied attempt result])

/-- One step of one thread. A step the thread is not at does nothing. -/
def step (s : GateSystem) : GateInput → GateSystem × List GateEvent
  | .cancel => if s.monitor = .idle then (s.cancel, [s.cancelEvent]) else (s, [])
  | .configure honoring releaseDelay =>
    if s.monitor = .idle then s.configure honoring releaseDelay else (s, [])
  | .canBlank now evaluations =>
    if s.monitor = .idle then s.canBlank now evaluations else (s, [])
  | .poll => match s.monitor with
    | .polling now push => s.poll now push
    | _ => (s, [])
  | .send => match s.monitor with
    | .sending now push => s.send now push
    | _ => (s, [])
  | .drop => if s.monitor = .idle then s.drop else (s, [])
  | .receive => if s.worker = .idle then (s.receive, []) else (s, [])
  | .check => match s.worker with
    | .checking attempt contributions => (s.check attempt contributions, [])
    | _ => (s, [])
  | .queryReturn result => match s.worker with
    | .querying attempt contributions => s.queryReturn attempt contributions result
    | _ => (s, [])
  | .reply => match s.worker with
    | .replying attempt result => s.reply attempt result
    | _ => (s, [])
  | .die => (s.hangUp (s.worker.attempt.toList ++ s.queue.toList), [])

end GateSystem

end LgBuddy
