import LgBuddy.Session.Inactivity

/-!
# LgBuddy — runs of the inactivity engine

The six operations of the engine as inputs of one machine, and what each of them can do. Every
invariant of whole runs is a case analysis of `Effect`; none of them unfolds the source functions
again.

* `Stale`/`Blocks` name the source's reasons to ignore an observation; an observation that is
  neither is accepted, and `accept` is then the new engine;
* `Effect` lists what a call can do to a well-formed engine, and `step_effect` says that the
  source does nothing else;
* `Wf` is the shape every reachable engine has: while the engine is awake its blank deadline is
  armed behind the activity floor and no lock floor or power-off deadline is left over, and a
  power-off deadline exists exactly while the screen is blanked;
* `Reachable` is every state of every run from every constructor.
-/

namespace LgBuddy

open Mealy

inductive EngineOp where
  | activity (observation : InactivityObservation) (observedAt : Instant)
  | providerIdle (observedAt : Instant)
  | completeBlank (succeeded : Bool) (completedAt : Instant)
  | lock (observedAt : Instant)
  | unlock
  /-- `canBlank` is what the gate answers if it is asked. -/
  | time (observedAt : Instant) (canBlank : Bool)
  deriving DecidableEq, Repr

namespace InactivityEngine

/-- One call on the engine. `complete_blank` and `observe_unlock` return no decision. -/
def step (e : InactivityEngine) : EngineOp → InactivityEngine × Option InactivityDecision
  | .activity k a => (e.observeActivity k a).map id some
  | .providerIdle a => (e.observeProviderIdle a).map id some
  | .completeBlank ok c => (e.completeBlank ok c, none)
  | .lock l => (e.observeLock l).map id some
  | .unlock => (e.observeUnlock, none)
  | .time t b => (Id.run (e.observeTime t (pure b))).map id some

section
variable (e : InactivityEngine)

@[simp] theorem step_activity (k : InactivityObservation) (a : Instant) :
    e.step (.activity k a) = ((e.observeActivity k a).1, some (e.observeActivity k a).2) := rfl

@[simp] theorem step_providerIdle (a : Instant) :
    e.step (.providerIdle a)
      = ((e.observeProviderIdle a).1, some (e.observeProviderIdle a).2) := rfl

@[simp] theorem step_completeBlank (ok : Bool) (c : Instant) :
    e.step (.completeBlank ok c) = (e.completeBlank ok c, none) := rfl

@[simp] theorem step_lock (l : Instant) :
    e.step (.lock l) = ((e.observeLock l).1, some (e.observeLock l).2) := rfl

@[simp] theorem step_unlock : e.step .unlock = (e.observeUnlock, none) := rfl

@[simp] theorem step_time (t : Instant) (b : Bool) :
    e.step (.time t b)
      = ((Id.run (e.observeTime t (pure b))).1, some (Id.run (e.observeTime t (pure b))).2) := rfl

end

/-- The engine after a sequence of calls. -/
abbrev run (e : InactivityEngine) (ops : List EngineOp) : InactivityEngine := exec step e ops

/-- `Built e start`: `e` is what one of the four constructors returns for `started_at = start`. -/
inductive Built : InactivityEngine → Instant → Prop where
  | new (blankAfter : Duration) (start : Instant) : Built (new blankAfter start) start
  | newWithPowerOffAfter (blankAfter powerOffAfter : Duration) (start : Instant) :
      Built (newWithPowerOffAfter blankAfter powerOffAfter start) start
  | newWithRestorePending (blankAfter : Duration) (start : Instant) :
      Built (newWithRestorePending blankAfter start) start
  | newWithRestorePendingAndPowerOffAfter (blankAfter powerOffAfter : Duration)
      (start : Instant) :
      Built (newWithRestorePendingAndPowerOffAfter blankAfter powerOffAfter start) start

/-- The states of all runs from all constructors. -/
def Reachable (e : InactivityEngine) : Prop :=
  ∃ e₀ start ops, Built e₀ start ∧ e = run e₀ ops

/-! ## Why an observation is ignored -/

/-- Older than something the engine has already handled. -/
def Stale (e : InactivityEngine) (a : Instant) : Prop := ∃ f ∈ e.activityFloor, a < f

/-- A fresh observation the engine nevertheless does not act on: a provider's signal while
locked, input inside the post-lock grace, or a signal the lock floor holds back. -/
def Blocks (e : InactivityEngine) (k : InactivityObservation) (a : Instant) : Prop :=
  (e.sessionLockedSince.isSome ∧ k.independent = false)
    ∨ (e.phase.inactive ∧ k.independent ∧ ∃ g ∈ e.postLockActivityGraceUntil, a < g)
    ∨ (e.phase.inactive ∧ ∃ l ∈ e.lockActivityFloor, k.independent = false ∨ a ≤ l)

/-- The latest independent activity after `k` at `a` has been seen. -/
def latestWith (e : InactivityEngine) (k : InactivityObservation) (a : Instant) :
    Option Instant :=
  if k.independent then some (e.latestIndependentActivityAt.elim a (max · a))
  else e.latestIndependentActivityAt

/-- The engine after an ignored but fresh observation. -/
def note (e : InactivityEngine) (k : InactivityObservation) (a : Instant) : InactivityEngine :=
  { e with latestIndependentActivityAt := e.latestWith k a }

/-- The engine after an accepted observation. -/
def accept (e : InactivityEngine) (k : InactivityObservation) (a : Instant) :
    InactivityEngine :=
  { e with
    latestIndependentActivityAt := e.latestWith k a
    activityFloor := some a
    blankAt := some (max (e.blankAt.getD a) (a + e.blankAfter))
    phase := .active
    restorePending := false
    powerOffAt := none
    lockActivityFloor := none }

def acceptDecision (e : InactivityEngine) (k : InactivityObservation) : InactivityDecision :=
  if e.phase.inactive || e.phase = .unknown && k ≠ .desktopActivityObserved then .restoreNow
  else .noOp

theorem any_iff {o : Option Instant} {p : Instant → Bool} :
    o.any p = true ↔ ∃ f ∈ o, p f = true := by
  cases o <;> simp

theorem any_lt_iff {o : Option Instant} {a : Instant} :
    o.any (a < ·) = true ↔ ∃ f ∈ o, a < f := by
  simp [any_iff]

/-! ## The shape of a reachable engine -/

/-- The engine has already handled something at or after `x`. -/
def FloorAtLeast (e : InactivityEngine) (x : Instant) : Prop := ∃ f ∈ e.activityFloor, x ≤ f

/-- What every operation preserves. -/
structure Wf (e : InactivityEngine) : Prop where
  /-- An awake engine has an armed deadline, at least `blankAfter` behind its floor. -/
  armed : e.phase.inactive = false →
    ∃ d, e.blankAt = some d ∧ ∀ f ∈ e.activityFloor, f + e.blankAfter ≤ d
  awake_lockFloor : e.phase.inactive = false → e.lockActivityFloor = none
  awake_restorePending : e.phase.inactive = false → e.restorePending = false
  powerOff : e.powerOffAt.isSome = true ↔ e.phase = .blanked
  /-- A grace deadline that outlives its lock floor is behind the activity floor. -/
  grace_spent : e.lockActivityFloor = none → ∀ g ∈ e.postLockActivityGraceUntil, FloorAtLeast e g

/-- An engine that starts awake is well formed. -/
theorem wf_newWithPowerOffAfter (blankAfter powerOffAfter : Duration) (start : Instant) :
    Wf (newWithPowerOffAfter blankAfter powerOffAfter start) where
  armed _ := ⟨start + blankAfter, rfl, by simp [newWithPowerOffAfter]⟩
  awake_lockFloor _ := rfl
  awake_restorePending _ := rfl
  powerOff := by simp [newWithPowerOffAfter]
  grace_spent _ := by simp [newWithPowerOffAfter]

/-- An engine that starts with a restore pending is well formed. -/
theorem wf_newWithRestorePendingAndPowerOffAfter (blankAfter powerOffAfter : Duration)
    (start : Instant) :
    Wf (newWithRestorePendingAndPowerOffAfter blankAfter powerOffAfter start) where
  armed h := by cases h
  awake_lockFloor _ := rfl
  awake_restorePending h := by cases h
  powerOff := by simp [newWithRestorePendingAndPowerOffAfter]
  grace_spent _ := by simp [newWithRestorePendingAndPowerOffAfter]

/-- Every constructor gives a well-formed engine. -/
theorem Built.wf {e : InactivityEngine} {start : Instant} (h : Built e start) : Wf e := by
  cases h with
  | new | newWithPowerOffAfter => exact wf_newWithPowerOffAfter _ _ _
  | newWithRestorePending | newWithRestorePendingAndPowerOffAfter =>
    exact wf_newWithRestorePendingAndPowerOffAfter _ _ _

/-- Only a blanked engine has a power-off deadline. -/
theorem Wf.powerOff_none {e : InactivityEngine} (hw : Wf e) (h : e.phase ≠ .blanked) :
    e.powerOffAt = none := by
  rw [← Option.not_isSome_iff_eq_none, hw.powerOff]
  exact h

/-! ## What a call can do -/

/-- Every way a call on a well-formed engine can end: the operation, the new engine and the
decision, with the guard the source checked. -/
inductive Effect (e : InactivityEngine) :
    EngineOp → InactivityEngine → Option InactivityDecision → Prop where
  | stale {k : InactivityObservation} {a : Instant} (hstale : Stale e a) :
      Effect e (.activity k a) e (some .noOp)
  | ignored {k : InactivityObservation} {a : Instant} (hfresh : ¬ Stale e a)
      (hblock : Blocks e k a) : Effect e (.activity k a) (e.note k a) (some .noOp)
  -- waking up from an inactive phase, from `Unknown`, or staying `Active` is the same update
  | accepted {k : InactivityObservation} {a : Instant} (hfresh : ¬ Stale e a)
      (hpass : ¬ Blocks e k a) :
      Effect e (.activity k a) (e.accept k a) (some (e.acceptDecision k))
  | idleStale {t : Instant} (hstale : Stale e t) : Effect e (.providerIdle t) e (some .noOp)
  | idleAgain {t : Instant} (hfresh : ¬ Stale e t) (hinactive : e.phase.inactive = true) :
      Effect e (.providerIdle t) { e with activityFloor := some t } (some .noOp)
  | idle {t : Instant} (hfresh : ¬ Stale e t) (hawake : e.phase.inactive = false) :
      Effect e (.providerIdle t)
        { e with activityFloor := some t, phase := .blankRequested, blankAt := none }
        (some .blankNow)
  | lateCompletion {ok : Bool} {c : Instant} (hphase : e.phase ≠ .blankRequested) :
      Effect e (.completeBlank ok c) e none
  | blanked {c : Instant} (hphase : e.phase = .blankRequested) :
      Effect e (.completeBlank true c)
        { e with
          phase := .blanked
          restorePending := true
          powerOffAt := some (c + e.powerOffAfter) } none
  | blankFailed {c : Instant} (hphase : e.phase = .blankRequested) :
      Effect e (.completeBlank false c)
        { e with phase := .inactiveWithoutEscalation, powerOffAt := none } none
  | lockRepeated {l : Instant} (hlocked : e.sessionLockedSince.isSome = true) :
      Effect e (.lock l) e (some .noOp)
  -- input behind the whole grace has already been seen: only the lock itself is recorded
  | lockOvertaken {l x : Instant} (hunlocked : e.sessionLockedSince = none)
      (hx : x ∈ e.latestIndependentActivityAt) (hlx : l + POST_LOCK_ACTIVITY_GRACE ≤ x) :
      Effect e (.lock l)
        { e with
          sessionLockedSince := some l
          lockActivityFloor := none
          postLockActivityGraceUntil := none } (some .noOp)
  | lockInactive {l : Instant} (hunlocked : e.sessionLockedSince = none)
      (hlatest : ∀ x ∈ e.latestIndependentActivityAt, x < l + POST_LOCK_ACTIVITY_GRACE)
      (hinactive : e.phase.inactive = true) :
      Effect e (.lock l)
        { e with
          sessionLockedSince := some l
          lockActivityFloor := some l
          postLockActivityGraceUntil := some (l + POST_LOCK_ACTIVITY_GRACE) } (some .noOp)
  | lock {l : Instant} (hunlocked : e.sessionLockedSince = none)
      (hlatest : ∀ x ∈ e.latestIndependentActivityAt, x < l + POST_LOCK_ACTIVITY_GRACE)
      (hawake : e.phase.inactive = false) :
      Effect e (.lock l)
        { e with
          sessionLockedSince := some l
          lockActivityFloor := some l
          postLockActivityGraceUntil := some (l + POST_LOCK_ACTIVITY_GRACE)
          phase := .blankRequested
          blankAt := none } (some .blankNow)
  | unlock : Effect e .unlock e.observeUnlock none
  | timerBlank {t d : Instant} (hawake : e.phase.inactive = false) (hd : d ∈ e.blankAt)
      (hdt : d ≤ t) :
      Effect e (.time t true)
        { e with
          phase := .blankRequested
          lockActivityFloor := e.sessionLockedSince
          activityFloor := some t } (some .blankNow)
  | timerPowerOff {t d : Instant} {b : Bool} (hphase : e.phase = .blanked)
      (hd : d ∈ e.powerOffAt) (hdt : d ≤ t) :
      Effect e (.time t b)
        { e with phase := .timedPowerOffAttempted, powerOffAt := none } (some .timedPowerOffNow)
  | timerIdle {t : Instant} {b : Bool}
      (hblank : e.phase.inactive = false → b = true → ∀ d ∈ e.blankAt, t < d)
      (hearly : e.phase = .blanked → ∀ d ∈ e.powerOffAt, t < d) :
      Effect e (.time t b) e (some .noOp)

variable {e e' : InactivityEngine} {k : InactivityObservation} {a : Instant}
  {op : EngineOp} {out : Option InactivityDecision}

/-- A blocked observation is noted, and does nothing else. -/
theorem observeActivity_of_blocks (hfresh : ¬ Stale e a) (hb : Blocks e k a) :
    e.observeActivity k a = (e.note k a, .noOp) := by
  have hfloor : ¬ e.activityFloor.any (a < ·) = true := fun h => hfresh (any_lt_iff.mp h)
  rcases hb with ⟨hl, hk⟩ | ⟨hi, hk, hg⟩ | ⟨hi, l, hl, hkl⟩
  · simp [observeActivity, hfloor, hk, hl, note, latestWith]
  · simp [observeActivity, hfloor, hk, hi, note, latestWith, any_lt_iff.mpr hg]
  · rw [Option.mem_def] at hl
    cases hk : k.independent with
    | true =>
      have hal : a ≤ l := by simpa [hk] using hkl
      simp [observeActivity, hfloor, hk, hi, hl, hal, note, latestWith]
    | false =>
      have hany : e.lockActivityFloor.any (fun _ => true) = true := by rw [hl]; rfl
      simp [observeActivity, hfloor, hk, hi, hany, note, latestWith]

/-- One that passes is accepted: none of the four guards of the source stops it. -/
theorem observeActivity_of_passes (hw : Wf e) (hfresh : ¬ Stale e a) (hpass : ¬ Blocks e k a) :
    e.observeActivity k a = (e.accept k a, e.acceptDecision k) := by
  have hfloor : ¬ e.activityFloor.any (a < ·) = true := fun h => hfresh (any_lt_iff.mp h)
  have hlocked : ¬ (e.sessionLockedSince.isSome && !k.independent) = true := by
    intro h; exact hpass (.inl (by simpa using h))
  have hgrace : ¬ (e.phase.inactive && k.independent
      && e.postLockActivityGraceUntil.any (a < ·)) = true := by
    intro h
    simp only [Bool.and_eq_true, any_lt_iff] at h
    exact hpass (.inr (.inl ⟨h.1.1, h.1.2, h.2⟩))
  have hlockFloor : ¬ (e.phase.inactive
      && e.lockActivityFloor.any (fun l => !k.independent || a ≤ l)) = true := by
    intro h
    simp only [Bool.and_eq_true, any_iff, Bool.or_eq_true, Bool.not_eq_true',
      decide_eq_true_eq] at h
    exact hpass (.inr (.inr h))
  have hnote : (if k.independent = true then { e with
        latestIndependentActivityAt := some (e.latestIndependentActivityAt.elim a (max · a)) }
      else e) = e.note k a := by
    cases hk : k.independent <;> simp [note, latestWith, hk]
  unfold observeActivity
  rw [if_neg hfloor]
  simp only [hnote]
  rw [if_neg (by exact hlocked), if_neg (by exact hgrace), if_neg (by exact hlockFloor)]
  cases hp : e.phase with
  | unknown =>
    have hawake : e.phase.inactive = false := by rw [hp]; rfl
    have hpo := hw.powerOff_none (by simp [hp])
    by_cases hk : k = .desktopActivityObserved <;>
      simp [note, accept, acceptDecision, hp, hk, hpo, hw.awake_restorePending hawake,
        hw.awake_lockFloor hawake]
  | active =>
    have hawake : e.phase.inactive = false := by rw [hp]; rfl
    have hpo := hw.powerOff_none (by simp [hp])
    simp [note, accept, acceptDecision, hp, hpo, hw.awake_restorePending hawake,
      hw.awake_lockFloor hawake]
  | _ => simp [note, accept, acceptDecision, hp]

theorem Stale.any (h : Stale e a) : e.activityFloor.any (a < ·) = true := any_lt_iff.mpr h

/-- A fresh observation is at or after the floor, so the source's maximum is the observation. -/
theorem elim_max_of_fresh (hfresh : ¬ Stale e a) :
    e.activityFloor.elim (some a) (fun floor => some (max floor a)) = some a := by
  cases hf : e.activityFloor with
  | none => rfl
  | some f =>
    have hle : f ≤ a := Nat.le_of_not_lt fun h => hfresh ⟨f, hf, h⟩
    simp [Nat.max_eq_right hle]

/-- The listed effects are what the source computes. -/
theorem Effect.step_eq (hw : Wf e) (hs : Effect e op e' out) : e.step op = (e', out) := by
  cases hs with
  | stale hstale => simp [observeActivity, hstale.any]
  | ignored hfresh hblock => rw [step_activity, observeActivity_of_blocks hfresh hblock]
  | accepted hfresh hpass => rw [step_activity, observeActivity_of_passes hw hfresh hpass]
  | idleStale hstale => simp [observeProviderIdle, hstale.any]
  | idleAgain hfresh hi | idle hfresh hi =>
    have hfloor := mt any_lt_iff.mp hfresh
    simp [observeProviderIdle, hfloor, elim_max_of_fresh hfresh, hi]
  | lateCompletion hphase | blanked hphase | blankFailed hphase => simp [completeBlank, hphase]
  | lockRepeated hlocked => simp [observeLock, hlocked]
  | @lockOvertaken l x hs hx hlx =>
    have hany : e.latestIndependentActivityAt.any (l + POST_LOCK_ACTIVITY_GRACE ≤ ·) = true :=
      any_iff.mpr ⟨x, hx, by simpa using hlx⟩
    simp [observeLock, hs, hany]
  -- no input is past the grace, so the lock is not overtaken
  | @lockInactive l hs hlatest hi | @lock l hs hlatest hi =>
    have hany : ¬ e.latestIndependentActivityAt.any (l + POST_LOCK_ACTIVITY_GRACE ≤ ·) = true := by
      intro h
      obtain ⟨x, hx, hlx⟩ := any_iff.mp h
      exact absurd (hlatest x hx) (by simpa using hlx)
    simp [observeLock, hs, hany, hi]
  | unlock => rfl
  | @timerBlank t d hawake hd hdt =>
    have hany : e.blankAt.any (· ≤ t) = true := any_iff.mpr ⟨d, hd, by simpa using hdt⟩
    cases hp : e.phase <;> simp_all [observeTime]
  | @timerPowerOff t d b hp hd hdt =>
    have hany : e.powerOffAt.any (· ≤ t) = true := any_iff.mpr ⟨d, hd, by simpa using hdt⟩
    simp [observeTime, hp, hany]
  | @timerIdle t b hblank hearly =>
    have hnot : ∀ {o : Option Instant}, (∀ d ∈ o, t < d) → ¬ o.any (· ≤ t) = true := by
      intro o ho h
      obtain ⟨d, hd, hdt⟩ := any_iff.mp h
      exact absurd (ho d hd) (by simpa using hdt)
    cases hp : e.phase with
    | unknown | active =>
      cases b with
      | true => simp [observeTime, hp, hnot (hblank (by rw [hp]; rfl) rfl)]
      | false => by_cases hany : e.blankAt.any (· ≤ t) = true <;> simp [observeTime, hp, hany]
    | blanked => simp [observeTime, hp, hnot (hearly hp)]
    | blankRequested | inactiveWithoutEscalation | timedPowerOffAttempted =>
      simp [observeTime, hp]

/-- Every call has one of the listed effects. -/
theorem exists_effect (e : InactivityEngine) (op : EngineOp) : ∃ e' out, Effect e op e' out := by
  cases op with
  | activity k a =>
    by_cases hstale : Stale e a
    · exact ⟨_, _, .stale hstale⟩
    · by_cases hb : Blocks e k a
      · exact ⟨_, _, .ignored hstale hb⟩
      · exact ⟨_, _, .accepted hstale hb⟩
  | providerIdle t =>
    by_cases hstale : Stale e t
    · exact ⟨_, _, .idleStale hstale⟩
    · cases hi : e.phase.inactive with
      | true => exact ⟨_, _, .idleAgain hstale hi⟩
      | false => exact ⟨_, _, .idle hstale hi⟩
  | completeBlank ok c =>
    by_cases hp : e.phase = .blankRequested
    · cases ok with
      | true => exact ⟨_, _, .blanked hp⟩
      | false => exact ⟨_, _, .blankFailed hp⟩
    · exact ⟨_, _, .lateCompletion hp⟩
  | lock l =>
    cases hs : e.sessionLockedSince with
    | some since => exact ⟨_, _, .lockRepeated (by rw [hs]; rfl)⟩
    | none =>
      by_cases hx : ∃ x ∈ e.latestIndependentActivityAt, l + POST_LOCK_ACTIVITY_GRACE ≤ x
      · obtain ⟨x, hx, hlx⟩ := hx
        exact ⟨_, _, .lockOvertaken hs hx hlx⟩
      · have hlt : ∀ x ∈ e.latestIndependentActivityAt, x < l + POST_LOCK_ACTIVITY_GRACE :=
          fun x hmem => Nat.lt_of_not_le fun hle => hx ⟨x, hmem, hle⟩
        cases hi : e.phase.inactive with
        | true => exact ⟨_, _, .lockInactive hs hlt hi⟩
        | false => exact ⟨_, _, .lock hs hlt hi⟩
  | unlock => exact ⟨_, _, .unlock⟩
  | time t b =>
    by_cases hd : e.phase.inactive = false ∧ b = true ∧ ∃ d ∈ e.blankAt, d ≤ t
    · obtain ⟨hi, rfl, d, hmem, hdt⟩ := hd
      exact ⟨_, _, .timerBlank hi hmem hdt⟩
    · by_cases hp : e.phase = .blanked ∧ ∃ d ∈ e.powerOffAt, d ≤ t
      · obtain ⟨hp, d, hmem, hdt⟩ := hp
        exact ⟨_, _, .timerPowerOff hp hmem hdt⟩
      · refine ⟨_, _, .timerIdle (fun hi hb d hmem => ?_) (fun hb d hmem => ?_)⟩
        · exact Nat.lt_of_not_le fun hle => hd ⟨hi, hb, d, hmem, hle⟩
        · exact Nat.lt_of_not_le fun hle => hp ⟨hb, d, hmem, hle⟩

/-- **A call does one of the listed things.** -/
theorem step_effect (hw : Wf e) (op : EngineOp) : Effect e op (e.step op).1 (e.step op).2 := by
  obtain ⟨e', out, hs⟩ := exists_effect e op
  rw [hs.step_eq hw]
  exact hs

/-- From an inactive phase it restores. -/
theorem acceptDecision_of_inactive (hi : e.phase.inactive = true) (k : InactivityObservation) :
    e.acceptDecision k = .restoreNow := by
  simp [acceptDecision, hi]

/-- Only an accepted observation restores. -/
theorem Effect.of_restore (hs : Effect e op e' (some .restoreNow)) :
    ∃ k a, op = .activity k a ∧ ¬ Stale e a ∧ ¬ Blocks e k a := by
  generalize hout : some InactivityDecision.restoreNow = out at hs
  cases hs with
  | accepted hfresh hpass => exact ⟨_, _, rfl, hfresh, hpass⟩
  | _ => cases hout

/-! ## The activity floor only rises

`observe_activity` and `observe_time` assign the floor without a maximum. It still never falls:
an accepted observation is fresh, and a timer blank is due only behind the floor. -/

/-- A fresh observation is not below the floor. -/
theorem FloorAtLeast.of_fresh {x : Instant} (hx : FloorAtLeast e x) (hfresh : ¬ Stale e a) :
    x ≤ a := by
  obtain ⟨f, hf, hxf⟩ := hx
  exact Nat.le_trans hxf (Nat.le_of_not_lt fun h => hfresh ⟨f, hf, h⟩)

/-- A deadline of an awake engine lies behind everything the engine has handled. -/
theorem FloorAtLeast.add_le_blankAt (hw : Wf e) (hawake : e.phase.inactive = false)
    {x d : Instant} (hx : FloorAtLeast e x) (hd : d ∈ e.blankAt) : x + e.blankAfter ≤ d := by
  obtain ⟨f, hf, hxf⟩ := hx
  obtain ⟨d', hd', hle⟩ := hw.armed hawake
  have := hle f hf
  rw [Option.mem_def, hd'] at hd
  cases hd
  lia

/-- **The floor only rises.** Every assignment to it comes from a fresh observation or a due
deadline. -/
theorem FloorAtLeast.effect (hw : Wf e) {x : Instant} (hx : FloorAtLeast e x)
    (hs : Effect e op e' out) : FloorAtLeast e' x := by
  cases hs with
  | accepted hfresh _ => exact ⟨_, rfl, hx.of_fresh hfresh⟩
  | idleAgain hfresh _ => exact ⟨_, rfl, hx.of_fresh hfresh⟩
  | idle hfresh _ => exact ⟨_, rfl, hx.of_fresh hfresh⟩
  | timerBlank hawake hd hdt =>
    have := hx.add_le_blankAt hw hawake hd
    exact ⟨_, rfl, by lia⟩
  | _ => exact hx

/-! ## The shape is kept -/

/-- An accepted observation leaves the engine well formed. -/
theorem Wf.accept (hw : Wf e) (hfresh : ¬ Stale e a) (hpass : ¬ Blocks e k a) :
    Wf (e.accept k a) where
  armed _ := by
    refine ⟨_, rfl, fun f hf => ?_⟩
    obtain rfl : a = f := Option.some.inj hf
    exact Nat.le_max_right _ _
  awake_lockFloor _ := rfl
  awake_restorePending _ := rfl
  powerOff := by simp [InactivityEngine.accept]
  grace_spent _ g hg := by
    refine ⟨a, rfl, ?_⟩
    cases hlf : e.lockActivityFloor with
    | none => exact (hw.grace_spent hlf g hg).of_fresh hfresh
    | some l =>
      -- a lock floor means the engine is inactive, so only input behind the grace passes
      have hi : e.phase.inactive = true := by
        by_contra h
        simp [hw.awake_lockFloor (by simpa using h)] at hlf
      cases hk : k.independent with
      | true => exact Nat.le_of_not_lt fun h => hpass (.inr (.inl ⟨hi, hk, g, hg, h⟩))
      | false => exact absurd (.inr (.inr ⟨hi, l, hlf, .inl hk⟩)) hpass

/-- Falling asleep: no power-off deadline is left over from before. -/
theorem Wf.powerOff_blankRequested (hw : Wf e) (hawake : e.phase.inactive = false) :
    e.powerOffAt.isSome = true ↔ InactivityPhase.blankRequested = .blanked := by
  rw [hw.powerOff_none (by intro h; simp [h] at hawake)]
  simp

/-- **Step.** Every effect keeps well-formedness. -/
theorem Wf.effect (hw : Wf e) (hs : Effect e op e' out) : Wf e' := by
  -- a grace left over from an earlier lock stays behind the floor, which only rises
  have hgrace : e.phase.inactive = false → ∀ g ∈ e.postLockActivityGraceUntil,
      FloorAtLeast e' g := fun hawake g hg =>
    (hw.grace_spent (hw.awake_lockFloor hawake) g hg).effect hw hs
  cases hs with
  | stale | idleStale | lateCompletion | lockRepeated | timerIdle => exact hw
  | ignored | unlock =>
    exact ⟨hw.armed, hw.awake_lockFloor, hw.awake_restorePending, hw.powerOff, hw.grace_spent⟩
  | accepted hfresh hpass => exact hw.accept hfresh hpass
  | idleAgain hfresh hi =>
    exact ⟨by simp [hi], hw.awake_lockFloor, hw.awake_restorePending, hw.powerOff,
      fun hl g hg => ⟨_, rfl, (hw.grace_spent hl g hg).of_fresh hfresh⟩⟩
  | idle _ hawake =>
    exact ⟨by simp, by simp, by simp, hw.powerOff_blankRequested hawake, fun _ => hgrace hawake⟩
  | blanked | blankFailed => exact ⟨by simp, by simp, by simp, by simp, hw.grace_spent⟩
  | lockOvertaken =>
    exact ⟨hw.armed, fun _ => rfl, hw.awake_restorePending, hw.powerOff, by simp⟩
  | lockInactive _ _ hi =>
    exact ⟨hw.armed, by simp [hi], hw.awake_restorePending, hw.powerOff, by simp⟩
  | lock _ _ hawake =>
    exact ⟨by simp, by simp, by simp, hw.powerOff_blankRequested hawake, by simp⟩
  | timerBlank hawake =>
    exact ⟨by simp, by simp, by simp, hw.powerOff_blankRequested hawake, fun _ => hgrace hawake⟩
  | timerPowerOff => exact ⟨by simp, by simp, by simp, by simp, hw.grace_spent⟩

/-- **Run.** Every run keeps the engine well formed. -/
theorem Wf.run (hw : Wf e) (ops : List EngineOp) : Wf (e.run ops) :=
  exec_invariant (P := Wf) (fun _ op h => h.effect (step_effect h op)) hw ops

/-- Every reachable engine is well formed. -/
theorem Reachable.wf (h : Reachable e) : Wf e := by
  obtain ⟨e₀, start, ops, hb, rfl⟩ := h
  exact hb.wf.run ops

/-- **Invariants of runs.** A property of (calls so far, engine) that holds of a well-formed
engine at the start and is kept by every effect holds along the whole run. -/
theorem run_induct {P : List EngineOp → InactivityEngine → Prop} (hw : Wf e) (hinit : P [] e)
    (heffect : ∀ ops op e₁ out, Wf (e.run ops) → Effect (e.run ops) op e₁ out →
      out = ((e.run ops).step op).2 → P ops (e.run ops) → P (ops ++ [op]) e₁)
    (ops : List EngineOp) : P ops (e.run ops) :=
  exec_induct e hinit
    (fun is op ih => heffect is op _ _ (hw.run is) (step_effect (hw.run is) op) rfl ih) ops

/-- No call touches the two configured delays. -/
theorem run_delays (hw : Wf e) (ops : List EngineOp) :
    (e.run ops).blankAfter = e.blankAfter ∧ (e.run ops).powerOffAfter = e.powerOffAfter := by
  refine run_induct (P := fun _ e₁ => e₁.blankAfter = e.blankAfter
    ∧ e₁.powerOffAfter = e.powerOffAfter) hw ⟨rfl, rfl⟩ (fun _ _ _ _ _ hs _ ih => ?_) ops
  cases hs <;> exact ih

end InactivityEngine

end LgBuddy
