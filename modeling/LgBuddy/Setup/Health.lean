import LgBuddy.Setup.Step

/-!
# LgBuddy — setup health

`SetupHealth` of `setup/assessment.rs`: the setup status that the application goes by. One read of
the published status is in flight at a time. A change of the setup rejects older reads, and asks for
a verification by the daemon.

* `AssessmentOperation` — a read that was handed out, with what it has to ask for first;
* `request`, `changed`, `retryVerification`, `setPaused`, `complete` — the operations.

`Instant`s are numbers; `verification_started` is only kept, and read by `verificationExpiredAt`.
-/

namespace LgBuddy

/-- `reassess` and `restart` are what has to be done before the status is read. -/
structure AssessmentOperation where
  id : Nat
  reassess : Bool
  restart : Bool
  deriving DecidableEq, Repr

structure AssessmentRead where
  snapshot : SetupSnapshot
  requested : Option (String × Nat)
  deriving DecidableEq

structure SetupHealth where
  status : SetupStatus := .unchecked
  next : Nat := 0
  running : Option AssessmentOperation := none
  stale : Bool := false
  paused : Bool := false
  verificationNeeded : Bool := false
  required : Option (String × Nat) := none
  verificationStarted : Option Nat := none
  restartRequested : Bool := false
  deriving DecidableEq, Repr

/-- Seconds. -/
def verificationWait : Nat := 30

namespace SetupHealth

def accepts (health : SetupHealth) (operation : AssessmentOperation) : Bool :=
  health.running = some operation && !health.stale && !health.paused

def changed (health : SetupHealth) : SetupHealth :=
  { health with
    verificationNeeded := true
    required := none
    stale := true
    verificationStarted := none }

def retryVerification (health : SetupHealth) (restart : Bool) : SetupHealth :=
  { health.changed with restartRequested := restart }

def verificationPending (health : SetupHealth) : Bool :=
  health.verificationNeeded || health.required.isSome

def verificationExpiredAt (health : SetupHealth) (now : Nat) : Bool :=
  !health.paused && health.verificationPending
    && health.verificationStarted.any fun started => verificationWait ≤ now - started

/-- The operation that is next in turn. -/
def operation (health : SetupHealth) : AssessmentOperation :=
  ⟨health.next + 1, health.verificationNeeded, health.restartRequested⟩

/-- With `operation` handed out. -/
def started (health : SetupHealth) (now : Nat) : SetupHealth :=
  { health with
    next := health.next + 1
    verificationStarted :=
      if health.verificationNeeded && health.verificationStarted.isNone then some now
      else health.verificationStarted
    restartRequested := false
    running := some health.operation
    stale := false }

def request (health : SetupHealth) (now : Nat) : Option AssessmentOperation × SetupHealth :=
  if health.paused then (none, health)
  else if health.running.isSome then (none, health)
  else (some health.operation, health.started now)

def setPaused (health : SetupHealth) (now : Nat) (paused : Bool) :
    Option AssessmentOperation × SetupHealth :=
  if paused then (none, { health with paused := true, stale := true })
  else if health.paused then request { health with paused := false } now
  else (none, { health with paused := false })

/-- The daemon has been asked, and has answered which revision to wait for. -/
def awaiting (health : SetupHealth) (read : AssessmentRead) : SetupHealth :=
  match read.requested with
  | some required => { health with required := some required, verificationNeeded := false }
  | none => health

/-- A daemon that was started since has probed since. -/
def verifiedBy (required : Option (String × Nat)) (snapshot : SetupSnapshot) : Bool :=
  required.all fun (instanceName, revision) =>
    snapshot.instanceName ≠ instanceName || revision ≤ snapshot.revision

/-- The status of this snapshot is taken over. -/
def adopts (health : SetupHealth) (snapshot : SetupSnapshot) : Bool :=
  !health.verificationNeeded && verifiedBy health.required snapshot
    && snapshot.status ≠ .unchecked

def adopt (health : SetupHealth) (snapshot : SetupSnapshot) : SetupHealth :=
  if health.adopts snapshot then
    { health with status := snapshot.status, required := none, verificationStarted := none }
  else health

/-- A failure leaves the status and the verification as they are. -/
def settle (health : SetupHealth) : Except StepFailure AssessmentRead → SetupHealth
  | .ok read => (health.awaiting read).adopt read.snapshot
  | .error _ => health

/-- `none` when it is not the operation that is waited for. -/
def complete (health : SetupHealth) (now : Nat) (operation : AssessmentOperation)
    (result : Except StepFailure AssessmentRead) :
    Option (Option AssessmentOperation) × SetupHealth :=
  if health.running ≠ some operation then (none, health)
  else if health.stale || health.paused then
    let (next, health) := request { health with running := none } now
    (some next, health)
  else (some none, settle { health with running := none } result)

def shutdown (health : SetupHealth) : SetupHealth :=
  { health with paused := true, running := none }

end SetupHealth

end LgBuddy
