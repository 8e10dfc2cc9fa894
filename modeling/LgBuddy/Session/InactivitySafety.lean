import LgBuddy.Session.InactivityRun

/-!
# LgBuddy — what holds of every run of the inactivity engine

Three results about whole runs, each from an invariant over (operations so far, engine):

* `idle_timer_safety`: the timer blanks only behind every input ever delivered, accepted or not.
  The invariant is `Covered`: an ignored input is at or below the floor, or it is held back by a
  lock floor that the next accepted input must pass. A lock that clears that floor does so
  because later input is already covered, provided that locks are delivered in time order;
* `restore_causality`: an observation that undoes a blank is not older than the blank, and while
  a lock is pending (`LockHeld`) it is independent input behind the lock's grace;
* `timed_power_off_safety`: a timed power-off belongs to exactly one completed blank
  (`ArmedSince`), and nothing but a restore or the power-off itself ends its countdown.
-/

namespace LgBuddy

open Mealy

/-! ## Locks in time order -/

/-- The instant of an `observe_lock` call. -/
def EngineOp.lockAt : EngineOp → Option Instant
  | .lock l => some l
  | _ => none

/-- The instants of the lock observations of a run, in delivery order. -/
def lockInstants (ops : List EngineOp) : List Instant := ops.filterMap EngineOp.lockAt

/-- Successive lock instants do not decrease. -/
def NondecreasingLocks (ops : List EngineOp) : Prop := (lockInstants ops).Pairwise (· ≤ ·)

instance (ops : List EngineOp) : Decidable (NondecreasingLocks ops) :=
  inferInstanceAs (Decidable (List.Pairwise _ _))

@[simp] theorem lockInstants_append (p q : List EngineOp) :
    lockInstants (p ++ q) = lockInstants p ++ lockInstants q := List.filterMap_append

@[simp] theorem lockInstants_nil : lockInstants [] = [] := rfl

@[simp] theorem lockInstants_lock (l : Instant) (q : List EngineOp) :
    lockInstants (.lock l :: q) = l :: lockInstants q := rfl

/-- The locks of a beginning of the run do not decrease either. -/
theorem NondecreasingLocks.left {p q : List EngineOp} (h : NondecreasingLocks (p ++ q)) :
    NondecreasingLocks p := by
  rw [NondecreasingLocks, lockInstants_append, List.pairwise_append] at h
  exact h.1

/-- The locks of the rest of the run do not decrease either. -/
theorem NondecreasingLocks.right {p q : List EngineOp} (h : NondecreasingLocks (p ++ q)) :
    NondecreasingLocks q := by
  rw [NondecreasingLocks, lockInstants_append, List.pairwise_append] at h
  exact h.2.1

/-- A lock at the end of the run is at or after every lock before it. -/
theorem NondecreasingLocks.le_of_concat {p : List EngineOp} {l l₀ : Instant}
    (h : NondecreasingLocks (p ++ [.lock l])) (hmem : l₀ ∈ lockInstants p) : l₀ ≤ l := by
  rw [NondecreasingLocks, lockInstants_append, List.pairwise_append] at h
  exact h.2.2 l₀ hmem l (by simp)

/-- After a lock at `last`, the next operation is not an earlier lock, and the rest of the run is
in order behind the lock that is now the latest. -/
theorem NondecreasingLocks.uncons {last : Instant} {op : EngineOp} {q : List EngineOp}
    (h : NondecreasingLocks (.lock last :: op :: q)) :
    (∀ l ∈ op.lockAt, last ≤ l) ∧ NondecreasingLocks (.lock (op.lockAt.getD last) :: q) := by
  rw [NondecreasingLocks, lockInstants_lock, List.pairwise_cons] at h
  refine ⟨fun l hl => h.1 l (List.mem_filterMap.mpr ⟨op, List.mem_cons_self, hl⟩), ?_⟩
  cases op with
  | lock l => exact h.2
  | _ => exact List.pairwise_cons.mpr h

namespace InactivityEngine

variable {e e' e₀ : InactivityEngine} {start : Instant} {op : EngineOp}
  {out : Option InactivityDecision}

/-! ## Where the lock deadlines come from -/

/-- Every lock-related field of the engine goes back to a lock of the run. -/
structure LockOrigin (h : List EngineOp) (e : InactivityEngine) : Prop where
  since : ∀ l ∈ e.sessionLockedSince, l ∈ lockInstants h
  floor : ∀ l ∈ e.lockActivityFloor, l ∈ lockInstants h
  grace : ∀ g ∈ e.postLockActivityGraceUntil,
    ∃ l ∈ lockInstants h, g = l + POST_LOCK_ACTIVITY_GRACE

/-- Where the locks of the engine come from stays true of a longer history. -/
theorem LockOrigin.mono {h : List EngineOp} (ho : LockOrigin h e) (op : EngineOp) :
    LockOrigin (h ++ [op]) e where
  since l hl := by simp [ho.since l hl]
  floor l hl := by simp [ho.floor l hl]
  grace g hg := by
    obtain ⟨l, hl, rfl⟩ := ho.grace g hg
    exact ⟨l, by simp [hl], rfl⟩

/-- Every step keeps the lock fields at instants of the history. -/
theorem LockOrigin.effect {h : List EngineOp} (ho : LockOrigin h e) (hs : Effect e op e' out) :
    LockOrigin (h ++ [op]) e' := by
  have hm := ho.mono op
  cases hs with
  | accepted => exact ⟨hm.since, by simp [accept], hm.grace⟩
  | lockOvertaken | lockInactive | lock => exact ⟨by simp, by simp, by simp⟩
  | unlock => exact ⟨by simp [observeUnlock], hm.floor, hm.grace⟩
  | timerBlank => exact ⟨hm.since, hm.since, hm.grace⟩
  | _ => exact ⟨hm.since, hm.floor, hm.grace⟩

/-- With locks in order, no grace reaches past the grace of a new lock. -/
theorem LockOrigin.grace_le {h : List EngineOp} (ho : LockOrigin h e) {l g : Instant}
    (hlocks : NondecreasingLocks (h ++ [.lock l])) (hg : g ∈ e.postLockActivityGraceUntil) :
    g ≤ l + POST_LOCK_ACTIVITY_GRACE := by
  obtain ⟨l₁, hl₁, rfl⟩ := ho.grace g hg
  exact Nat.add_le_add_right (hlocks.le_of_concat hl₁) _

/-- A freshly built engine holds no lock instant. -/
theorem Built.lockOrigin (hb : Built e₀ start) : LockOrigin [] e₀ := by
  cases hb <;> exact ⟨by rintro _ ⟨⟩, by rintro _ ⟨⟩, by rintro _ ⟨⟩⟩

/-- Every lock field of an engine in a run is an instant the run reported. -/
theorem Built.run_lockOrigin (hb : Built e₀ start) (ops : List EngineOp) :
    LockOrigin ops (e₀.run ops) :=
  run_induct hb.wf hb.lockOrigin (fun _ _ _ _ _ hs _ ih => ih.effect hs) ops

/-! ## The idle timer -/

/-- Input at `a` cannot be overtaken by a blank deadline: it is at or below the floor, or a lock
holds it back together with everything that could wake the engine without dominating it. -/
def Covered (e : InactivityEngine) (a : Instant) : Prop :=
  FloorAtLeast e a
    ∨ (e.phase.inactive = true ∧ ∃ l ∈ e.lockActivityFloor,
        a ≤ l ∨ ∃ g ∈ e.postLockActivityGraceUntil, a < g)

/-- An input covered by an engine that is awake is covered by its floor. -/
theorem Covered.floor_of_awake {a : Instant} (hc : Covered e a)
    (hawake : e.phase.inactive = false) : FloorAtLeast e a := by
  rcases hc with hf | ⟨hi, _⟩
  · exact hf
  · simp [hawake] at hi

/-- Whatever passes the engine's filters dominates every covered input. -/
theorem Covered.le_of_accepted {k : InactivityObservation} {a a' : Instant} (hc : Covered e a')
    (hfresh : ¬ Stale e a) (hpass : ¬ Blocks e k a) : a' ≤ a := by
  rcases hc with hf | ⟨hi, l, hl, hal⟩
  · exact hf.of_fresh hfresh
  · have hk : k.independent = true := by
      by_contra hk
      exact hpass (.inr (.inr ⟨hi, l, hl, .inl (by simpa using hk)⟩))
    rcases hal with hal | ⟨g, hg, hag⟩
    · have : ¬ a ≤ l := fun h => hpass (.inr (.inr ⟨hi, l, hl, .inr h⟩))
      lia
    · have : ¬ a < g := fun h => hpass (.inr (.inl ⟨hi, hk, g, hg, h⟩))
      lia

/-- Independent input is covered once it has been delivered, whatever the engine did with it. -/
theorem covered_observed (hw : Wf e) {k : InactivityObservation} {a : Instant}
    (hk : k.independent = true) (hs : Effect e (.activity k a) e' out) : Covered e' a := by
  cases hs with
  | stale hstale =>
    obtain ⟨f, hf, haf⟩ := hstale
    exact .inl ⟨f, hf, Nat.le_of_lt haf⟩
  | ignored hfresh hblock =>
    rcases hblock with ⟨_, hk'⟩ | ⟨hi, _, g, hg, hag⟩ | ⟨hi, l, hl, hkl⟩
    · simp [hk] at hk'
    · cases hlf : e.lockActivityFloor with
      | none => exact absurd ((hw.grace_spent hlf g hg).of_fresh hfresh) (Nat.not_le.mpr hag)
      | some l => exact .inr ⟨hi, l, hlf, .inr ⟨g, hg, hag⟩⟩
    · exact .inr ⟨hi, l, hl, .inl (by simpa [hk] using hkl)⟩
  | accepted => exact .inl ⟨a, rfl, Nat.le_refl a⟩

/-- One operation keeps an input covered. The lock case is where the order of locks matters: a
lock that clears the lock floor has seen input behind its own grace, hence behind every earlier
grace and floor, and that input is covered by the activity floor. -/
theorem Covered.effect {h : List EngineOp} (hw : Wf e) (ho : LockOrigin h e)
    (hlocks : NondecreasingLocks (h ++ [op]))
    (hlatest : ∀ x ∈ e.latestIndependentActivityAt, Covered e x)
    {a : Instant} (hc : Covered e a) (hs : Effect e op e' out) : Covered e' a := by
  have hfloor : ∀ {x}, FloorAtLeast e x → Covered e' x := fun hx => .inl (hx.effect hw hs)
  rcases hc with hc | ⟨hi, l₀, hl₀, hal⟩
  · exact hfloor hc
  cases hs with
  | accepted hfresh hpass =>
    exact .inl ⟨_, rfl, Covered.le_of_accepted (.inr ⟨hi, l₀, hl₀, hal⟩) hfresh hpass⟩
  | @lockOvertaken l x _ hx hlx =>
    have hgl : ∀ g ∈ e.postLockActivityGraceUntil, g ≤ l + POST_LOCK_ACTIVITY_GRACE :=
      fun g hg => ho.grace_le hlocks hg
    rcases hlatest x hx with ⟨f, hf, hxf⟩ | ⟨_, l₁, hl₁, hx₁⟩
    · -- everything the old lock held back is below `x`, and `x` is below the floor
      refine hfloor ⟨f, hf, Nat.le_trans ?_ hxf⟩
      rcases hal with hal | ⟨g, hg, hag⟩
      · have := hlocks.le_of_concat (ho.floor l₀ hl₀)
        lia
      · have := hgl g hg
        lia
    · exfalso
      have := hlocks.le_of_concat (ho.floor l₁ hl₁)
      have hG : 0 < POST_LOCK_ACTIVITY_GRACE := by decide
      rcases hx₁ with hx₁ | ⟨g, hg, hxg⟩
      · lia
      · have := hgl g hg
        lia
  | lockInactive _ _ hi' =>
    refine .inr ⟨hi', _, rfl, ?_⟩
    rcases hal with hal | ⟨g, hg, hag⟩
    · exact .inl (Nat.le_trans hal (hlocks.le_of_concat (ho.floor l₀ hl₀)))
    · exact .inr ⟨_, rfl, Nat.lt_of_lt_of_le hag (ho.grace_le hlocks hg)⟩
  | idle _ hawake | lock _ _ hawake | timerBlank hawake => simp [hi] at hawake
  | blanked | blankFailed | timerPowerOff => exact .inr ⟨rfl, l₀, hl₀, hal⟩
  | _ => exact .inr ⟨hi, l₀, hl₀, hal⟩

/-- The latest input after an observation is the old one or the one observed. -/
theorem mem_latestWith {k : InactivityObservation} {a x : Instant} (hx : x ∈ e.latestWith k a) :
    x ∈ e.latestIndependentActivityAt ∨ k.independent = true ∧ x = a := by
  unfold latestWith at hx
  split at hx
  · next hk =>
    cases hlat : e.latestIndependentActivityAt with
    | none =>
      simp only [hlat, Option.elim_none, Option.mem_def, Option.some.injEq] at hx
      exact .inr ⟨hk, hx.symm⟩
    | some y =>
      simp only [hlat, Option.elim_some, Option.mem_def, Option.some.injEq] at hx
      rcases Nat.le_total y a with hya | hya
      · exact .inr ⟨hk, by rw [← hx, Nat.max_eq_right hya]⟩
      · exact .inl (by rw [← hx, Nat.max_eq_left hya]; rfl)
  · exact .inl hx

/-- `latest_independent_activity_at` is an old value or the fresh input just delivered. -/
theorem Effect.latest (hs : Effect e op e' out) {x : Instant}
    (hx : x ∈ e'.latestIndependentActivityAt) :
    x ∈ e.latestIndependentActivityAt
      ∨ ∃ k, k.independent = true ∧ op = .activity k x ∧ ¬ Stale e x := by
  cases hs with
  | ignored hfresh | accepted hfresh =>
    rcases mem_latestWith hx with hold | ⟨hk, rfl⟩
    · exact .inl hold
    · exact .inr ⟨_, hk, rfl, hfresh⟩
  | _ => exact .inl hx

/-- Every independent input of the run so far is covered, and so is the latest one on record. -/
structure InputCovered (h : List EngineOp) (e : InactivityEngine) : Prop where
  delivered : ∀ k a, .activity k a ∈ h → k.independent = true → Covered e a
  latest : ∀ x ∈ e.latestIndependentActivityAt, Covered e x

/-- A step keeps every delivered input covered, as long as the locks do not decrease. -/
theorem InputCovered.effect {h : List EngineOp} (hw : Wf e) (ho : LockOrigin h e)
    (hlocks : NondecreasingLocks (h ++ [op])) (hi : InputCovered h e)
    (hs : Effect e op e' out) : InputCovered (h ++ [op]) e' where
  delivered k a hmem hk := by
    rcases List.mem_append.mp hmem with hold | hnew
    · exact (hi.delivered k a hold hk).effect hw ho hlocks hi.latest hs
    · obtain rfl := List.mem_singleton.mp hnew
      exact covered_observed hw hk hs
  latest x hx := by
    -- the latest input is an old one or the one this step observed
    rcases hs.latest hx with hold | ⟨k, hk, rfl, _⟩
    · exact (hi.latest x hold).effect hw ho hlocks hi.latest hs
    · exact covered_observed hw hk hs

/-- Along a run with nondecreasing locks every delivered input is covered. -/
theorem Built.run_inputCovered (hb : Built e₀ start) (ops : List EngineOp)
    (hlocks : NondecreasingLocks ops) : InputCovered ops (e₀.run ops) := by
  refine run_induct (P := fun h e => NondecreasingLocks h → InputCovered h e) hb.wf ?_
    (fun is op e' out hw hs _ ih hl => ?_) ops hlocks
  · intro _
    cases hb <;> exact ⟨by simp, by rintro _ ⟨⟩⟩
  · exact (ih hl.left).effect hw (hb.run_lockOrigin is) hl hs

/-- The gate closure with a record of its call: it answers `b` and notes that it was asked. -/
def recordedGate (b : Bool) : StateM (Option Bool) Bool := do
  set (some b)
  return b

/-- `observe_time` with a recorded gate: the call's result, and what the gate returned if it
was called. -/
def observeTimeRecorded (e : InactivityEngine) (t : Instant) (b : Bool) :
    (InactivityEngine × InactivityDecision) × Option Bool :=
  Id.run ((e.observeTime t (recordedGate b)).run none)

/-- The gate is asked exactly when an awake engine's deadline is due; recording the call does
not change it. -/
theorem observeTimeRecorded_eq (e : InactivityEngine) (t : Instant) (b : Bool) :
    e.observeTimeRecorded t b = (Id.run (e.observeTime t (pure b)),
      if e.phase.inactive = false ∧ e.blankAt.any (· ≤ t) = true then some b else none) := by
  cases hp : e.phase with
  | unknown | active =>
    by_cases hd : e.blankAt.any (· ≤ t) = true
    · cases b <;> simp [observeTimeRecorded, observeTime, recordedGate, hp, hd]
    · simp [observeTimeRecorded, observeTime, hp, hd]
  | blanked =>
    by_cases hd : e.powerOffAt.any (· ≤ t) = true <;>
      simp [observeTimeRecorded, observeTime, hp, hd]
  | blankRequested | inactiveWithoutEscalation | timedPowerOffAttempted =>
    simp [observeTimeRecorded, observeTime, hp]

/-- **Idle-timer safety.** In every run the timer blanks only if the gate of that very call
returned true, and a gate that returns false leaves the engine as it was. Where the locks arrive
in time order, a timer blank also stands at least `blank_after` behind every independent input
delivered so far, accepted or ignored. -/
theorem idle_timer_safety (hb : Built e₀ start) (ops : List EngineOp) (t : Instant) (b : Bool) :
    (((e₀.run ops).observeTimeRecorded t b).1.2 = .blankNow →
        ((e₀.run ops).observeTimeRecorded t b).2 = some true
          ∧ (NondecreasingLocks ops →
              ∀ k a, .activity k a ∈ ops → k.independent = true → a + e₀.blankAfter ≤ t))
      ∧ (((e₀.run ops).observeTimeRecorded t b).2 = some false →
          ((e₀.run ops).observeTimeRecorded t b).1.1 = e₀.run ops) := by
  have hw : Wf (e₀.run ops) := hb.wf.run ops
  -- only the coverage of the inputs reads the order of the locks
  have hcov := hb.run_inputCovered ops
  rw [← (run_delays hb.wf ops).1]
  generalize e₀.run ops = e at hw hcov ⊢
  rw [observeTimeRecorded_eq]
  have hs := step_effect hw (.time t b)
  rw [step_time] at hs
  generalize Id.run (e.observeTime t (pure b)) = r at hs ⊢
  obtain ⟨e', d⟩ := r
  cases hs with
  | timerBlank hi hd hdt =>
    refine ⟨fun _ => ⟨?_, fun hlocks k a hmem hk => ?_⟩, ?_⟩
    · exact if_pos ⟨hi, any_iff.mpr ⟨_, hd, by simpa using hdt⟩⟩
    · have hfloor := ((hcov hlocks).delivered k a hmem hk).floor_of_awake hi
      exact Nat.le_trans (hfloor.add_le_blankAt hw hi hd) hdt
    · intro hfalse
      split at hfalse <;> cases hfalse
  | timerPowerOff hp => exact ⟨by simp, by simp [hp]⟩
  | timerIdle => exact ⟨by simp, fun _ => rfl⟩

/-- The run of `idle_timer_safety_lock_order` below: a lock whose grace swallows input, an
earlier-stamped second lock that clears the grace, and a provider signal older than the input. -/
def outOfOrderLocks : List EngineOp :=
  [.lock (Duration.fromSecs 7), .activity .userActivityObserved (Duration.fromSecs 7 + 1),
   .unlock, .lock (Duration.fromSecs 5), .unlock, .activity .providerActive (Duration.fromSecs 7)]

/-- Without the order of locks the statement fails: the timer blanks at `12 s` although input
arrived at `7 s + 1 ns` and the idle timeout is `5 s`. -/
theorem idle_timer_safety_lock_order :
    ¬ ∀ (e₀ : InactivityEngine) (start : Instant) (ops : List EngineOp) (t : Instant) (b : Bool),
      Built e₀ start → ((e₀.run ops).observeTimeRecorded t b).1.2 = .blankNow →
      ((e₀.run ops).observeTimeRecorded t b).2 = some true
        ∧ ∀ k a, .activity k a ∈ ops → k.independent = true → a + e₀.blankAfter ≤ t := by
  intro h
  have := (h (new (Duration.fromSecs 5) 0) 0 outOfOrderLocks (Duration.fromSecs 12) true
    (.new _ _) (by decide)).2 .userActivityObserved (Duration.fromSecs 7 + 1) (by decide) rfl
  exact absurd this (by decide)

/-- The timer does blank: five seconds after an input that a lock's grace swallowed. -/
theorem idle_timer_safety_after_lock :
    NondecreasingLocks [.lock 0, .activity .userActivityObserved 5,
        .activity .userActivityObserved (Duration.fromSecs 2)]
      ∧ 5 + Duration.fromSecs 5 ≤ Duration.fromSecs 7 := by
  have hlocks : NondecreasingLocks [.lock 0, .activity .userActivityObserved 5,
      .activity .userActivityObserved (Duration.fromSecs 2)] := by decide
  refine ⟨hlocks, ?_⟩
  have h := (idle_timer_safety (.new (Duration.fromSecs 5) 0)
    [.lock 0, .activity .userActivityObserved 5, .activity .userActivityObserved
      (Duration.fromSecs 2)] (Duration.fromSecs 7) true).1 (by decide)
  exact h.2 hlocks .userActivityObserved 5 (by decide) rfl

/-! ## Restoring -/

/-- One call of a run. -/
abbrev Call := Transition InactivityEngine EngineOp (Option InactivityDecision)

/-- The call blanked by timer at `t`, or was a provider-idle observation at `t` that was not
stale. -/
def BlanksAt (c : Call) (t : Instant) : Prop :=
  (∃ b, c.input = .time t b ∧ c.output = some .blankNow)
    ∨ (c.input = .providerIdle t ∧ ¬ Stale c.pre t)

/-- The call was independent input at `a` that the engine accepted. -/
def AcceptsInput (c : Call) (a : Instant) : Prop :=
  ∃ k, c.input = .activity k a ∧ k.independent = true ∧ ¬ Stale c.pre a ∧ ¬ Blocks c.pre k a

/-- A timer blank and a fresh provider-idle observation raise the floor to their instant. -/
theorem floor_of_blanksAt {t : Instant} (h : BlanksAt ⟨e, op, out⟩ t)
    (hs : Effect e op e' out) : FloorAtLeast e' t := by
  rcases h with ⟨b, hop, hout⟩ | ⟨hop, hfresh⟩
  · obtain rfl : op = .time t b := hop
    cases hs with
    | timerBlank => exact ⟨t, rfl, Nat.le_refl t⟩
    | timerPowerOff | timerIdle => cases hout
  · obtain rfl : op = .providerIdle t := hop
    cases hs with
    | idleStale hstale => exact absurd hstale hfresh
    | idleAgain | idle => exact ⟨t, rfl, Nat.le_refl t⟩

/-- The floor stands at or above every blank of the run. -/
theorem Wf.run_floor (hw : Wf e₀) (ops : List EngineOp) :
    ∀ c ∈ transitions InactivityEngine.step e₀ ops, ∀ t, BlanksAt c t →
      FloorAtLeast (e₀.run ops) t := by
  refine run_induct (P := fun h e => ∀ c ∈ transitions InactivityEngine.step e₀ h, ∀ t,
    BlanksAt c t → FloorAtLeast e t) hw (by simp) (fun is op e' out hw hs hout ih c hc t ht => ?_) ops
  rw [transitions_concat, List.mem_append, List.mem_singleton] at hc
  rcases hc with hold | rfl
  · exact (ih c hold t ht).effect hw hs
  · rw [← hout] at ht
    exact floor_of_blanksAt ht hs

/-- The latest independent activity on record was accepted, or lies inside the grace of a lock
of the run. -/
theorem Built.run_latest (hb : Built e₀ start) (ops : List EngineOp) :
    ∀ x ∈ (e₀.run ops).latestIndependentActivityAt,
      (∃ c ∈ transitions step e₀ ops, AcceptsInput c x)
        ∨ ∃ l ∈ lockInstants ops, x < l + POST_LOCK_ACTIVITY_GRACE := by
  refine run_induct (P := fun h e => ∀ x ∈ e.latestIndependentActivityAt,
    (∃ c ∈ transitions step e₀ h, AcceptsInput c x)
      ∨ ∃ l ∈ lockInstants h, x < l + POST_LOCK_ACTIVITY_GRACE) hb.wf ?_
    (fun is op e' out _ hs _ ih x hx => ?_) ops
  · cases hb <;> rintro _ ⟨⟩
  rcases hs.latest hx with hold | ⟨k, hk, rfl, hfresh⟩
  · rcases ih x hold with ⟨c, hc, hacc⟩ | ⟨l, hl, hxl⟩
    · exact .inl ⟨c, by simp [hc], hacc⟩
    · exact .inr ⟨l, by simp [hl], hxl⟩
  · by_cases hpass : Blocks (e₀.run is) k x
    · right
      rcases hpass with ⟨_, hk'⟩ | ⟨_, _, g, hg, hxg⟩ | ⟨_, l, hl, hkl⟩
      · simp [hk] at hk'
      · obtain ⟨l, hl, rfl⟩ := (hb.run_lockOrigin is).grace g hg
        exact ⟨l, by simp [hl], hxg⟩
      · have hxl : x ≤ l := by simpa [hk] using hkl
        refine ⟨l, by simp [(hb.run_lockOrigin is).floor l hl], Nat.lt_of_le_of_lt hxl ?_⟩
        exact Nat.lt_add_of_pos_right (by decide)
    · refine .inl ⟨⟨e₀.run is, .activity k x, (step (e₀.run is) (.activity k x)).2⟩,
        ?_, k, rfl, hk, hfresh, hpass⟩
      simp

/-- A lock at `l` is pending: the engine is inactive, its lock floor and grace are those of a
lock at or after `l`, and no independent input behind that grace has been seen. `last` is the
instant of the latest lock. -/
structure LockHeld (l last : Instant) (e : InactivityEngine) : Prop where
  inactive : e.phase.inactive = true
  held : ∃ l', l ≤ l' ∧ l' ≤ last ∧ e.lockActivityFloor = some l'
    ∧ e.postLockActivityGraceUntil = some (l' + POST_LOCK_ACTIVITY_GRACE)
    ∧ ∀ x ∈ e.latestIndependentActivityAt, x < l' + POST_LOCK_ACTIVITY_GRACE

/-- A pending lock lets only independent input behind its grace through. -/
theorem LockHeld.of_accepted {l last a : Instant} {k : InactivityObservation}
    (hh : LockHeld l last e) (hpass : ¬ Blocks e k a) :
    k.independent = true ∧ l + POST_LOCK_ACTIVITY_GRACE ≤ a := by
  obtain ⟨l', hle, _, hfloor, hgrace, _⟩ := hh.held
  have hk : k.independent = true := by
    by_contra hk
    exact hpass (.inr (.inr ⟨hh.inactive, l', hfloor, .inl (by simpa using hk)⟩))
  refine ⟨hk, ?_⟩
  have : ¬ a < l' + POST_LOCK_ACTIVITY_GRACE := fun h =>
    hpass (.inr (.inl ⟨hh.inactive, hk, _, hgrace, h⟩))
  lia

/-- A lock that is not overtaken by accepted input becomes pending, whatever the phase. -/
theorem lockHeld_of_lock {l : Instant} (hunlocked : e.sessionLockedSince = none)
    (hlatest : ∀ x ∈ e.latestIndependentActivityAt, x < l + POST_LOCK_ACTIVITY_GRACE)
    (hs : Effect e (.lock l) e' out) : LockHeld l l e' := by
  cases hs with
  | lockRepeated hlocked => simp [hunlocked] at hlocked
  | lockOvertaken _ hx hlx => exact absurd (hlatest _ hx) (Nat.not_lt.mpr hlx)
  | lockInactive _ _ hi => exact ⟨hi, l, Nat.le_refl l, Nat.le_refl l, rfl, rfl, hlatest⟩
  | lock => exact ⟨rfl, l, Nat.le_refl l, Nat.le_refl l, rfl, rfl, hlatest⟩

/-- Every operation that does not restore keeps the lock pending, as long as locks stay in
order: the next lock cannot find input behind its grace. -/
theorem LockHeld.effect {l last : Instant} (hh : LockHeld l last e)
    (horder : ∀ l₂ ∈ op.lockAt, last ≤ l₂) (hno : out ≠ some .restoreNow)
    (hs : Effect e op e' out) : LockHeld l (op.lockAt.getD last) e' := by
  obtain ⟨l', hle, hlast, hfloor, hgrace, hlat⟩ := hh.held
  have hi := hh.inactive
  cases hs with
  | stale | idleStale | lateCompletion | timerIdle => exact hh
  | ignored hfresh hblock =>
    refine ⟨hi, l', hle, hlast, hfloor, hgrace, fun x hx => ?_⟩
    rcases mem_latestWith hx with hold | ⟨hk, rfl⟩
    · exact hlat x hold
    · rcases hblock with ⟨_, hk'⟩ | ⟨_, _, g, hg, hxg⟩ | ⟨_, l₁, hl₁, hkl⟩
      · simp [hk] at hk'
      · rw [hgrace, Option.mem_def, Option.some.injEq] at hg
        lia
      · rw [hfloor, Option.mem_def, Option.some.injEq] at hl₁
        have hxl : x ≤ l₁ := by simpa [hk] using hkl
        have hG : 0 < POST_LOCK_ACTIVITY_GRACE := by decide
        lia
  | accepted => exact absurd (by rw [acceptDecision_of_inactive hi]) hno
  | idleAgain | unlock => exact ⟨hi, l', hle, hlast, hfloor, hgrace, hlat⟩
  | blanked | blankFailed | timerPowerOff =>
    exact ⟨rfl, l', hle, hlast, hfloor, hgrace, hlat⟩
  | lockRepeated =>
    exact ⟨hi, l', hle, Nat.le_trans hlast (horder _ rfl), hfloor, hgrace, hlat⟩
  | lockOvertaken _ hx hlx =>
    have h₁ := hlat _ hx
    have h₂ := horder _ rfl
    lia
  | @lockInactive l₂ _ hlatest _ =>
    exact ⟨hi, l₂, Nat.le_trans hle (Nat.le_trans hlast (horder l₂ rfl)), Nat.le_refl l₂, rfl,
      rfl, hlatest⟩
  | idle _ hawake | lock _ _ hawake | timerBlank hawake => simp [hi] at hawake

/-- A pending lock stays pending over any run without a restore. -/
theorem LockHeld.run {l : Instant} :
    ∀ (q : List EngineOp) {last : Instant} {e : InactivityEngine}, Wf e → LockHeld l last e →
      NondecreasingLocks (.lock last :: q) →
      some .restoreNow ∉ outputs InactivityEngine.step e q → ∃ last', LockHeld l last' (e.run q)
  | [], last, _, _, hh, _, _ => ⟨last, hh⟩
  | op :: q, last, e, hw, hh, hlocks, hno => by
    rw [outputs_cons, List.mem_cons, not_or] at hno
    obtain ⟨horder, hlocks'⟩ := hlocks.uncons
    have hs := step_effect hw op
    exact LockHeld.run q (hw.effect hs) (hh.effect horder (Ne.symm hno.1) hs) hlocks' hno.2

/-- **Restore causality.** In a run whose locks arrive in time order, an observation that
restores from an inactive phase is not older than any timer blank or fresh provider-idle
observation before it, is independent input if the session is locked, and for every lock that
was taken since the last restore (the session was not already locked, and no input accepted
before it lies behind its grace) it is independent input at or behind that lock's grace. -/
theorem restore_causality (hb : Built e₀ start) (ops : List EngineOp)
    (hlocks : NondecreasingLocks ops) (k : InactivityObservation) (a : Instant)
    (hinactive : (e₀.run ops).phase.inactive = true)
    (hrestore : ((e₀.run ops).observeActivity k a).2 = .restoreNow) :
    (∀ c ∈ transitions step e₀ ops, ∀ t, BlanksAt c t → t ≤ a)
      ∧ ((e₀.run ops).sessionLockedSince = none ∨ k.independent = true)
      ∧ ∀ p l q, ops = p ++ .lock l :: q → (e₀.run p).sessionLockedSince = none →
          (∀ c ∈ transitions step e₀ p, ∀ x, AcceptsInput c x →
            x < l + POST_LOCK_ACTIVITY_GRACE) →
          some .restoreNow ∉ outputs step (e₀.run (p ++ [.lock l])) q →
          k.independent = true ∧ l + POST_LOCK_ACTIVITY_GRACE ≤ a := by
  have hw : Wf (e₀.run ops) := hb.wf.run ops
  -- a restore is of an observation that is neither stale nor blocked
  obtain ⟨hfresh, hpass⟩ : ¬ Stale (e₀.run ops) a ∧ ¬ Blocks (e₀.run ops) k a := by
    have hs := step_effect hw (.activity k a)
    rw [step_activity, hrestore] at hs
    obtain ⟨k', a', hop, hfresh, hpass⟩ := hs.of_restore
    cases hop
    exact ⟨hfresh, hpass⟩
  refine ⟨fun c hc t ht => (hb.wf.run_floor ops c hc t ht).of_fresh hfresh, ?_, ?_⟩
  · cases hs : (e₀.run ops).sessionLockedSince with
    | none => exact .inl rfl
    | some l =>
      refine .inr ?_
      by_contra hk
      exact hpass (.inl ⟨by simp [hs], by simpa using hk⟩)
  · rintro p l q rfl hs haccepted hno
    -- every input before the lock is within its grace
    have hlatest : ∀ x ∈ (e₀.run p).latestIndependentActivityAt,
        x < l + POST_LOCK_ACTIVITY_GRACE := by
      intro x hx
      rcases hb.run_latest p x hx with ⟨c, hc, hacc⟩ | ⟨l₀, hl₀, hxl₀⟩
      · exact haccepted c hc x hacc
      · have hl : NondecreasingLocks (p ++ [.lock l]) := by
          have : NondecreasingLocks ((p ++ [.lock l]) ++ q) := by simpa using hlocks
          exact this.left
        have := hl.le_of_concat hl₀
        lia
    have hheld : LockHeld l l (e₀.run (p ++ [.lock l])) := by
      rw [run, exec_concat]
      exact lockHeld_of_lock hs hlatest (step_effect (hb.wf.run p) (.lock l))
    -- so the lock is held until something restores
    obtain ⟨last, hheld'⟩ := LockHeld.run q (hb.wf.run _) hheld
      hlocks.right hno
    have hrun : (e₀.run (p ++ [.lock l])).run q = e₀.run (p ++ .lock l :: q) := by
      rw [run, run, ← exec_append]
      simp
    rw [hrun] at hheld'
    exact hheld'.of_accepted hpass

/-- The run of `restore_causality_repeated_lock` below: input restores in the locked session,
the timer blanks again, and the lock is reported a second time. -/
def repeatedLock : List EngineOp :=
  [.lock 0, .activity .userActivityObserved (Duration.fromSecs 2), .time (Duration.fromSecs 5) true,
    .lock (Duration.fromSecs 6)]

/-- A lock reported while the session is already locked opens no grace of its own: behind
`repeatedLock`, input at the very instant of its second lock restores. -/
theorem restore_causality_repeated_lock :
    ¬ ∀ (e₀ : InactivityEngine) (start : Instant) (ops : List EngineOp)
        (k : InactivityObservation) (a : Instant), Built e₀ start → NondecreasingLocks ops →
      (e₀.run ops).phase.inactive = true →
      ((e₀.run ops).observeActivity k a).2 = .restoreNow →
      ∀ p l q, ops = p ++ .lock l :: q →
        (∀ c ∈ transitions step e₀ p, ∀ x, AcceptsInput c x →
          x < l + POST_LOCK_ACTIVITY_GRACE) →
        some .restoreNow ∉ outputs step (e₀.run (p ++ [.lock l])) q →
        k.independent = true ∧ l + POST_LOCK_ACTIVITY_GRACE ≤ a := by
  intro h
  have hrun := h (new (Duration.fromSecs 3) 0) 0 repeatedLock .userActivityObserved
    (Duration.fromSecs 6) (.new _ _) (by decide) (by decide) (by decide)
    [.lock 0, .activity .userActivityObserved (Duration.fromSecs 2), .time (Duration.fromSecs 5) true]
    (Duration.fromSecs 6) [] rfl
  refine absurd (hrun ?_ (by decide)).2 (by decide)
  rintro c hc x ⟨k, hinput, _⟩
  -- the only input before the second lock stands at `2 s`, in front of the grace of that lock
  simp only [transitions_cons, transitions_nil, List.mem_cons, List.not_mem_nil, or_false] at hc
  rcases hc with rfl | rfl | rfl <;> cases hinput
  decide

/-- A lock at `6 s` over a screen already blanked by the timer at `5 s`, unlocked again: the
input that restores is behind the timer blank and behind the lock's grace. -/
theorem restore_causality_after_unlock :
    Duration.fromSecs 5 ≤ Duration.fromSecs 7
      ∧ InactivityObservation.independent .userActivityObserved = true
      ∧ Duration.fromSecs 6 + POST_LOCK_ACTIVITY_GRACE ≤ Duration.fromSecs 7 := by
  have h := restore_causality (.new (Duration.fromSecs 5) 0)
    [.time (Duration.fromSecs 5) true, .completeBlank true (Duration.fromSecs 5),
      .lock (Duration.fromSecs 6), .unlock]
    (by decide) .userActivityObserved (Duration.fromSecs 7) (by decide) (by decide)
  refine ⟨h.1 ⟨new (Duration.fromSecs 5) 0, .time (Duration.fromSecs 5) true, some .blankNow⟩
    (by decide) _ (.inl ⟨true, rfl, rfl⟩), ?_⟩
  refine h.2.2 [.time (Duration.fromSecs 5) true, .completeBlank true (Duration.fromSecs 5)]
    (Duration.fromSecs 6) [.unlock] rfl (by decide) ?_ (by decide)
  rintro c hc x ⟨k, hinput, _⟩
  simp only [transitions_cons, transitions_nil, List.mem_cons, List.not_mem_nil, or_false] at hc
  rcases hc with rfl | rfl <;> cases hinput

/-! ## Timed power-off -/

/-- The call completed a requested blank at `c`. -/
def ArmsAt (call : Call) (c : Instant) : Prop :=
  call.input = .completeBlank true c ∧ call.pre.phase = .blankRequested

/-- No restore, no timed power-off and no arming among these calls. -/
def Quiet (calls : List Call) : Prop :=
  ∀ call ∈ calls, call.output ≠ some .restoreNow ∧ call.output ≠ some .timedPowerOffNow
    ∧ ∀ c, ¬ ArmsAt call c

/-- The countdown of the run `ops` from `e₀` was armed at `c` and has been left alone since: by
a completed blank of the run, or by construction with a restore pending at `start`. -/
def ArmedSince (e₀ : InactivityEngine) (start : Instant) (ops : List EngineOp) (c : Instant) :
    Prop :=
  (∃ p q, ops = p ++ .completeBlank true c :: q ∧ (e₀.run p).phase = .blankRequested
      ∧ Quiet (transitions step (e₀.run (p ++ [.completeBlank true c])) q))
    ∨ (e₀.restorePending = true ∧ c = start ∧ Quiet (transitions step e₀ ops))

/-- A quiet row of calls stays quiet with one more quiet call. -/
theorem Quiet.concat {calls : List Call} {call : Call} (hq : Quiet calls)
    (h : call.output ≠ some .restoreNow ∧ call.output ≠ some .timedPowerOffNow
      ∧ ∀ c, ¬ ArmsAt call c) : Quiet (calls ++ [call]) := by
  intro x hx
  rcases List.mem_append.mp hx with hold | hnew
  · exact hq x hold
  · obtain rfl := List.mem_singleton.mp hnew
    exact h

/-- The arming event stays the last one over a call that neither restores, powers off nor arms. -/
theorem ArmedSince.concat {ops : List EngineOp} {c : Instant} {op : EngineOp}
    (h : ArmedSince e₀ start ops c) (hout : ((e₀.run ops).step op).2 ≠ some .restoreNow)
    (hout' : ((e₀.run ops).step op).2 ≠ some .timedPowerOffNow)
    (hphase : (e₀.run ops).phase ≠ .blankRequested) :
    ArmedSince e₀ start (ops ++ [op]) c := by
  have hcall : ∀ c, ¬ ArmsAt ⟨e₀.run ops, op, ((e₀.run ops).step op).2⟩ c :=
    fun _ harms => hphase harms.2
  rcases h with ⟨p, q, rfl, hp, hq⟩ | ⟨hr, hc, hq⟩
  · refine .inl ⟨p, q ++ [op], by simp, hp, ?_⟩
    have hrun : e₀.run (p ++ .completeBlank true c :: q)
        = exec step (e₀.run (p ++ [.completeBlank true c])) q := by
      rw [run, run, ← exec_append]
      simp
    rw [transitions_concat, ← hrun]
    exact hq.concat ⟨hout, hout', hcall⟩
  · refine .inr ⟨hr, hc, ?_⟩
    rw [transitions_concat]
    exact hq.concat ⟨hout, hout', hcall⟩

/-- What one call does to a running countdown: nothing, unless it restores or fires. -/
theorem countdown_effect {d : Instant} (hp : e.phase = .blanked)
    (hd : e.powerOffAt = some d) (hs : Effect e op e' out) (hno : out ≠ some .restoreNow)
    (hno' : out ≠ some .timedPowerOffNow) : e'.phase = .blanked ∧ e'.powerOffAt = some d := by
  have hi : e.phase.inactive = true := by rw [hp]; rfl
  cases hs with
  | accepted => exact absurd (by rw [acceptDecision_of_inactive hi]) hno
  | blanked hreq | blankFailed hreq => simp [hp] at hreq
  | idle _ hawake | lock _ _ hawake | timerBlank hawake => simp [hi] at hawake
  | timerPowerOff => exact absurd rfl hno'
  | _ => exact ⟨hp, hd⟩

/-- A countdown survives every sequence of calls that neither restores nor fires. -/
theorem countdown_run {d : Instant} :
    ∀ (q : List EngineOp) {e : InactivityEngine}, Wf e → e.phase = .blanked →
      e.powerOffAt = some d → some .restoreNow ∉ outputs step e q →
      some .timedPowerOffNow ∉ outputs step e q →
      (e.run q).phase = .blanked ∧ (e.run q).powerOffAt = some d
  | [], _, _, hp, hd, _, _ => ⟨hp, hd⟩
  | op :: q, e, hw, hp, hd, hno, hno' => by
    rw [outputs_cons, List.mem_cons, not_or] at hno hno'
    have hs := step_effect hw op
    obtain ⟨hp', hd'⟩ := countdown_effect hp hd hs (Ne.symm hno.1) (Ne.symm hno'.1)
    exact countdown_run q (hw.effect hs) hp' hd' hno.2 hno'.2

/-- A blanked engine that was not blanked before the call has just completed a blank. -/
theorem arms_of_blanked (hs : Effect e op e' out) (hp : e.phase ≠ .blanked)
    (hp' : e'.phase = .blanked) :
    e.phase = .blankRequested ∧ ∃ c, op = .completeBlank true c
      ∧ e'.powerOffAt = some (c + e.powerOffAfter) := by
  cases hs with
  | blanked hreq => exact ⟨hreq, _, rfl, rfl⟩
  | accepted | idle | blankFailed | lock | timerBlank | timerPowerOff => cases hp'
  | _ => exact absurd hp' hp

/-- A call on a blanked engine that leaves it blanked neither restores nor fires. -/
theorem quiet_of_blanked (hs : Effect e op e' out) (hp' : e'.phase = .blanked) :
    out ≠ some .restoreNow ∧ out ≠ some .timedPowerOffNow := by
  cases hs with
  | accepted | timerPowerOff => cases hp'
  | _ => simp

/-- In every state of every run, a running countdown has one arming event, and its deadline is
`power_off_after` behind it. -/
theorem Built.run_armed (hb : Built e₀ start) (ops : List EngineOp)
    (hp : (e₀.run ops).phase = .blanked) :
    ∃ c, ArmedSince e₀ start ops c
      ∧ (e₀.run ops).powerOffAt = some (c + e₀.powerOffAfter) := by
  refine run_induct (P := fun h e => e.phase = .blanked → ∃ c, ArmedSince e₀ start h c
    ∧ e.powerOffAt = some (c + e₀.powerOffAfter)) hb.wf ?_
    (fun is op e' out hw hs hout ih hp' => ?_) ops hp
  · intro hp
    refine ⟨start, .inr ⟨?_, rfl, by simp [Quiet]⟩, ?_⟩ <;> cases hb <;> first | rfl | cases hp
  by_cases hbl : (e₀.run is).phase = .blanked
  · obtain ⟨c, harmed, hd⟩ := ih hbl
    obtain ⟨hno, hno'⟩ := quiet_of_blanked hs hp'
    refine ⟨c, harmed.concat (hout ▸ hno) (hout ▸ hno') (by simp [hbl]), ?_⟩
    exact (countdown_effect hbl hd hs hno hno').2
  · obtain ⟨hreq, c, rfl, hd⟩ := arms_of_blanked hs hbl hp'
    refine ⟨c, .inl ⟨is, [], rfl, hreq, by simp [Quiet]⟩, ?_⟩
    rw [hd, (run_delays hb.wf is).2]

/-- **Timed power-off safety.** Every timed power-off at `t` belongs to one arming event at some
`c` with `c + power_off_after ≤ t` and nothing but ignored observations in between; a running
countdown survives every sequence of calls that neither restores nor fires, and fires exactly
when its deadline is reached; and a failed blank never arms one. -/
theorem timed_power_off_safety (hb : Built e₀ start) (ops : List EngineOp) :
    (∀ t b, (Id.run ((e₀.run ops).observeTime t (pure b))).2 = .timedPowerOffNow →
        ∃ c, c + e₀.powerOffAfter ≤ t ∧ ArmedSince e₀ start ops c)
      ∧ (∀ d q, (e₀.run ops).phase = .blanked → (e₀.run ops).powerOffAt = some d →
          some .restoreNow ∉ outputs step (e₀.run ops) q →
          some .timedPowerOffNow ∉ outputs step (e₀.run ops) q →
          ((e₀.run ops).run q).phase = .blanked ∧ ((e₀.run ops).run q).powerOffAt = some d
            ∧ ∀ t b, (Id.run (((e₀.run ops).run q).observeTime t (pure b))).2 = .timedPowerOffNow
                ↔ d ≤ t)
      ∧ ∀ c, ((e₀.run ops).completeBlank false c).phase = .blanked →
          (e₀.run ops).completeBlank false c = e₀.run ops := by
  have hw : Wf (e₀.run ops) := hb.wf.run ops
  refine ⟨fun t b hfire => ?_, fun d q hp hd hno hno' => ?_, fun c hp => ?_⟩
  · have hs := step_effect hw (.time t b)
    rw [step_time, hfire] at hs
    generalize (Id.run ((e₀.run ops).observeTime t (pure b))).1 = e' at hs
    cases hs with
    | timerPowerOff hp hd hdt =>
      obtain ⟨c, harmed, hc⟩ := hb.run_armed ops hp
      rw [hc, Option.mem_def, Option.some.injEq] at hd
      exact ⟨c, by lia, harmed⟩
  -- the countdown survives calls that neither restore nor power off
  · obtain ⟨hp', hd'⟩ := countdown_run q hw hp hd hno hno'
    refine ⟨hp', hd', fun t b => ?_⟩
    have hs := step_effect (hw.run q) (.time t b)
    rw [step_time] at hs
    generalize Id.run (((e₀.run ops).run q).observeTime t (pure b)) = r at hs ⊢
    obtain ⟨e', dec⟩ := r
    cases hs with
    | timerBlank hawake => simp [hp'] at hawake
    | timerPowerOff _ hx hxt =>
      rw [hd', Option.mem_def, Option.some.injEq] at hx
      simp [hx, hxt]
    | timerIdle _ hearly =>
      have := hearly hp' d hd'
      simp [this]
  · have hs := step_effect hw (.completeBlank false c)
    rw [step_completeBlank] at hs
    generalize hc : (e₀.run ops).completeBlank false c = e' at hs hp ⊢
    cases hs with
    | lateCompletion => rfl
    | blankFailed => cases hp

/-- A blank completed at `6 s`, followed by a repeated system blank, a lock and input inside its
grace: the power-off at `306 s` is armed by that completion. -/
theorem timed_power_off_safety_after_lock :
    ∃ c, c + DEFAULT_POWER_OFF_AFTER ≤ Duration.fromSecs 306
      ∧ ArmedSince (new (Duration.fromSecs 5) 0) 0
          [.time (Duration.fromSecs 5) true, .completeBlank true (Duration.fromSecs 6),
            .providerIdle (Duration.fromSecs 7), .lock (Duration.fromSecs 8),
            .activity .userActivityObserved (Duration.fromSecs 8)] c :=
  (timed_power_off_safety (.new (Duration.fromSecs 5) 0)
    [.time (Duration.fromSecs 5) true, .completeBlank true (Duration.fromSecs 6),
      .providerIdle (Duration.fromSecs 7), .lock (Duration.fromSecs 8),
      .activity .userActivityObserved (Duration.fromSecs 8)]).1
    (Duration.fromSecs 306) true (by decide)

end InactivityEngine

end LgBuddy
