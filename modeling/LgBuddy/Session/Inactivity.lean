import LgBuddy.Machine.Mealy

/-!
# LgBuddy — the inactivity engine

`session/inactivity.rs`: the state machine that decides when the screen is blanked, restored and
powered off. The definitions follow the source function by function; `Instant` and `Duration`
are nanoseconds as unbounded naturals. The source's `Instant + Duration` panics when the sum
leaves the clock's range; a run that panics returns nothing, so every returned decision is one
of the runs modelled here.
-/

namespace LgBuddy

/-- A point of the monotonic clock, in nanoseconds. -/
abbrev Instant := Nat

/-- A span of time, in nanoseconds. -/
abbrev Duration := Nat

/-- `Duration::from_secs`. -/
def Duration.fromSecs (secs : Nat) : Duration := secs * 1000000000

inductive InactivityObservation where
  | desktopActivityObserved
  | providerActive
  | wakeRequested
  | userActivityObserved
  deriving DecidableEq, Repr

inductive InactivityDecision where
  | blankNow
  | timedPowerOffNow
  | restoreNow
  | noOp
  deriving DecidableEq, Repr

/-- Independent input is ignored this long after a lock-triggered blank. -/
def POST_LOCK_ACTIVITY_GRACE : Duration := Duration.fromSecs 1

inductive InactivityPhase where
  | unknown
  | active
  | blankRequested
  | blanked
  | inactiveWithoutEscalation
  | timedPowerOffAttempted
  deriving DecidableEq, Repr

/-- The source's repeated `matches!(phase, BlankRequested | Blanked | ...)`. -/
def InactivityPhase.inactive : InactivityPhase → Bool
  | .unknown | .active => false
  | .blankRequested | .blanked | .inactiveWithoutEscalation | .timedPowerOffAttempted => true

namespace InactivityPhase

@[simp] theorem inactive_unknown : inactive .unknown = false := rfl
@[simp] theorem inactive_active : inactive .active = false := rfl
@[simp] theorem inactive_blankRequested : inactive .blankRequested = true := rfl
@[simp] theorem inactive_blanked : inactive .blanked = true := rfl
@[simp] theorem inactive_inactiveWithoutEscalation :
    inactive .inactiveWithoutEscalation = true := rfl
@[simp] theorem inactive_timedPowerOffAttempted : inactive .timedPowerOffAttempted = true := rfl

end InactivityPhase

/-- Input that comes from the user's hands rather than from a provider's opinion. -/
def InactivityObservation.independent : InactivityObservation → Bool
  | .desktopActivityObserved | .userActivityObserved => true
  | .providerActive | .wakeRequested => false

structure InactivityEngine where
  blankAfter : Duration
  blankAt : Option Instant
  powerOffAfter : Duration
  powerOffAt : Option Instant
  phase : InactivityPhase
  restorePending : Bool
  sessionLockedSince : Option Instant
  lockActivityFloor : Option Instant
  postLockActivityGraceUntil : Option Instant
  latestIndependentActivityAt : Option Instant
  activityFloor : Option Instant
  deriving DecidableEq, Repr

namespace InactivityEngine

/-! ## Constructors -/

def DEFAULT_POWER_OFF_AFTER : Duration := Duration.fromSecs (5 * 60)

def newWithPowerOffAfter (blankAfter powerOffAfter : Duration) (startedAt : Instant) :
    InactivityEngine where
  blankAfter := blankAfter
  blankAt := some (startedAt + blankAfter)
  powerOffAfter := powerOffAfter
  powerOffAt := none
  phase := .unknown
  restorePending := false
  sessionLockedSince := none
  lockActivityFloor := none
  postLockActivityGraceUntil := none
  latestIndependentActivityAt := none
  activityFloor := none

def new (blankAfter : Duration) (startedAt : Instant) : InactivityEngine :=
  newWithPowerOffAfter blankAfter DEFAULT_POWER_OFF_AFTER startedAt

def newWithRestorePendingAndPowerOffAfter (blankAfter powerOffAfter : Duration)
    (startedAt : Instant) : InactivityEngine where
  blankAfter := blankAfter
  blankAt := some (startedAt + blankAfter)
  powerOffAfter := powerOffAfter
  powerOffAt := some (startedAt + powerOffAfter)
  phase := .blanked
  restorePending := true
  sessionLockedSince := none
  lockActivityFloor := none
  postLockActivityGraceUntil := none
  latestIndependentActivityAt := none
  activityFloor := none

def newWithRestorePending (blankAfter : Duration) (startedAt : Instant) : InactivityEngine :=
  newWithRestorePendingAndPowerOffAfter blankAfter DEFAULT_POWER_OFF_AFTER startedAt

/-! ## Reads -/

/-- How long until the engine's own deadline; `Nat` subtraction is `saturating_duration_since`. -/
def timeUntilAction (e : InactivityEngine) (now : Instant) : Option Duration :=
  match e.phase with
  | .unknown | .active => e.blankAt.map (· - now)
  | .blanked => e.powerOffAt.map (· - now)
  | .blankRequested | .inactiveWithoutEscalation | .timedPowerOffAttempted => none

def timedPowerOffPending (e : InactivityEngine) : Bool :=
  e.phase = .blanked && e.powerOffAt.isSome

/-! ## Observations -/

def observeProviderIdle (e : InactivityEngine) (observedAt : Instant) :
    InactivityEngine × InactivityDecision :=
  -- a delayed system blank older than activity already handled is stale
  if e.activityFloor.any (observedAt < ·) then (e, .noOp)
  else
    let e := { e with
      activityFloor := e.activityFloor.elim (some observedAt)
        (fun floor => some (max floor observedAt)) }
    if e.phase.inactive then (e, .noOp)
    else ({ e with phase := .blankRequested, blankAt := none }, .blankNow)

def completeBlank (e : InactivityEngine) (succeeded : Bool) (completedAt : Instant) :
    InactivityEngine :=
  if e.phase ≠ .blankRequested then e
  else if succeeded then
    { e with
      phase := .blanked
      restorePending := true
      powerOffAt := some (completedAt + e.powerOffAfter) }
  else { e with phase := .inactiveWithoutEscalation, powerOffAt := none }

def observeActivity (e : InactivityEngine) (observation : InactivityObservation)
    (observedAt : Instant) : InactivityEngine × InactivityDecision :=
  if e.activityFloor.any (observedAt < ·) then (e, .noOp)
  else
    let independentActivity := observation.independent
    let e :=
      if independentActivity then
        { e with
          latestIndependentActivityAt :=
            some (e.latestIndependentActivityAt.elim observedAt (max · observedAt)) }
      else e
    -- `ProviderActive` and `WakeRequested` are exactly the observations that are not independent
    if e.sessionLockedSince.isSome && !independentActivity then (e, .noOp)
    else
      let inactive := e.phase.inactive
      if inactive && independentActivity
          && e.postLockActivityGraceUntil.any (observedAt < ·) then (e, .noOp)
      else if inactive
          && e.lockActivityFloor.any (fun lockedAt =>
            !independentActivity || observedAt ≤ lockedAt) then (e, .noOp)
      else
        let e := { e with
          activityFloor := some observedAt
          blankAt := some (max (e.blankAt.getD observedAt) (observedAt + e.blankAfter)) }
        match e.phase with
        | .blankRequested | .blanked | .inactiveWithoutEscalation | .timedPowerOffAttempted =>
          ({ e with
             phase := .active
             restorePending := false
             powerOffAt := none
             lockActivityFloor := none }, .restoreNow)
        | .unknown =>
          let e := { e with phase := .active }
          if e.restorePending || observation ≠ .desktopActivityObserved then
            ({ e with restorePending := false }, .restoreNow)
          else (e, .noOp)
        | .active => (e, .noOp)

/-- The gate is an effectful closure (`impl FnOnce() -> bool`), so the call is written over an
arbitrary monad: it is run only on the branch where the source calls it. -/
def observeTime {m : Type → Type} [Monad m] (e : InactivityEngine) (observedAt : Instant)
    (canBlank : m Bool) : m (InactivityEngine × InactivityDecision) :=
  match e.phase with
  | .unknown | .active =>
    if e.blankAt.any (· ≤ observedAt) then do
      if !(← canBlank) then return (e, .noOp)
      return ({ e with
        phase := .blankRequested
        lockActivityFloor := e.sessionLockedSince
        activityFloor := some observedAt }, .blankNow)
    else pure (e, .noOp)
  | .blanked =>
    if e.powerOffAt.any (· ≤ observedAt) then
      pure ({ e with phase := .timedPowerOffAttempted, powerOffAt := none }, .timedPowerOffNow)
    else pure (e, .noOp)
  | .blankRequested | .inactiveWithoutEscalation | .timedPowerOffAttempted => pure (e, .noOp)

def observeLock (e : InactivityEngine) (observedAt : Instant) :
    InactivityEngine × InactivityDecision :=
  if e.sessionLockedSince.isSome then (e, .noOp)
  else
    let e := { e with sessionLockedSince := some observedAt }
    let graceUntil := observedAt + POST_LOCK_ACTIVITY_GRACE
    if e.latestIndependentActivityAt.any (graceUntil ≤ ·) then
      ({ e with lockActivityFloor := none, postLockActivityGraceUntil := none }, .noOp)
    else
      let e := { e with
        lockActivityFloor := some observedAt
        postLockActivityGraceUntil := some graceUntil }
      if e.phase.inactive then (e, .noOp)
      else ({ e with phase := .blankRequested, blankAt := none }, .blankNow)

def observeUnlock (e : InactivityEngine) : InactivityEngine :=
  { e with sessionLockedSince := none }

end InactivityEngine

end LgBuddy
