import LgBuddy.Lifecycle.Monitor
import LgBuddy.Lifecycle.Resume

/-!
# LgBuddy — one decision for each sleep cycle

The outcome that the suspend rail stores belongs to one sleep cycle. It is the resume that takes it
away again, so that the next cycle makes a decision of its own.

* `Host` — the monitor over the runtime action executor: an executor call runs the handler on the
  files;
* `Turn` — one `PrepareForSleep` event and all that is answered while it is handled;
* `cycles` — the events handled one after another, each with whether the TV was queried;
* `each_cycle_decides_anew` — a cycle is decided anew as long as every resume event reaches the
  executor's clean-up, and `stale_outcome_after_failed_resume` where one does not.
-/

namespace LgBuddy

open LgBuddy.Action Program

/-! ## The monitor's surroundings -/

/-- The state directory is writable: no operation on the files of the cycle fails. -/
structure Environment.Writable (env : Environment) : Prop where
  tryLock : ∃ free, env .tryLock = .ok free
  readOutcome : ∃ outcome, env .readOutcome = .ok outcome
  writeOutcome : ∀ outcome, env (.writeOutcome outcome) = .ok ()
  clearOutcome : env .clearOutcome = .ok ()
  clearAttempt : env .clearAttempt = .ok ()

/-- What would be answered to each call of the monitor. -/
abbrev MonitorEnvironment := (c : MonitorCall) → MonitorReply c

/-- `run_action` hands its action a `Vec`, to which every write succeeds. -/
def Environment.buffered (env : Environment) : Environment
  | .writeLine _ => .ok ()
  | .flush => .ok ()
  | c => env c

/-- Whether an input query has been made. -/
def noteQuery (queried : Bool) : (c : Call) → CallReply c → Bool
  | .currentInput _, _ => true
  | _, _ => queried

/-- The text that a run has written. -/
def outputOf (history : List (Exchange Call CallReply)) : String :=
  String.join (history.map fun x => match x.1 with
    | .writeLine line => line ++ "\n"
    | _ => "")

/-- The monitor's surroundings while it handles one event. -/
structure Host where
  world : World
  /-- The answers to the monitor's own calls, and to the executor's. -/
  answers : Nat → MonitorEnvironment
  envs : Nat → Environment
  /-- An input query has been made. -/
  queried : Bool := false

namespace Host

/-- The process of the monitor. -/
def pid : Pid := 0

/-- The executor runs this handler. -/
def execute (h : Host) (envs : Nat → Environment) (p : Action Unit) :
    Except RunError Unit × List (Exchange Call CallReply) × Host :=
  let history := calls (World.serve pid) p.run (h.world, envs)
  let (result, s) := exec (World.serve pid) p.run (h.world, envs)
  (result, history, { h with world := s.1, queried := observe noteQuery h.queried history })

def handle (vars : EnvVars) (h : Host) : (c : MonitorCall) → MonitorReply c × Host
  | .beforeSleep event =>
    let (result, history, h') := h.execute (fun n => (h.envs n).buffered) (runSleepPre vars event)
    (result.map fun _ => outputOf history, h')
  | .afterResumeStreaming _ =>
    let (result, _, h') := h.execute h.envs (runSystemResume vars)
    (result, h')
  | c => (h.answers 0 c, { h with answers := fun n => h.answers (n + 1) })

end Host

/-! ## Turns -/

/-- A `PrepareForSleep` event, and what is answered while it is handled. -/
structure Turn where
  preparing : Bool
  /-- The passes since the last event may have filled or emptied the slot. -/
  sleepInhibitor : Option Fd
  answers : Nat → MonitorEnvironment
  envs : Nat → Environment

namespace Turn

/-- The policy is read as enabled for this event. -/
def enabled (t : Turn) : Bool :=
  match t.answers 0 .loadPolicy with
  | .ok policy => policy.isEnabled
  | .error _ => false

/-- The options of the executor's client for this event. -/
def clientOptions (t : Turn) : TvClientBuildOptions :=
  if t.preparing then sleepClientOptions else resumeClientOptions

/-- The executor's config load succeeds. -/
def loads (t : Turn) : Bool :=
  match t.envs 0 .loadConfig with
  | .ok _ => true
  | .error _ => false

/-- The executor has a TV client for the loaded config. -/
def connects (t : Turn) : Bool :=
  match t.envs 0 .loadConfig with
  | .ok config => (t.envs 1 (.tvClient config t.clientOptions)).toBool
  | .error _ => false

end Turn

/-- An event handled, with whether the TV was queried for it. -/
structure Handled where
  turn : Turn
  queried : Bool

/-- The events handled one after another. An error ends the monitor before the event is done
with; so does the end of a test after it. -/
def cycles (vars : EnvVars) (settings : MonitorSettings) :
    MonitorState → World → List Turn → List Handled
  | _, _, [] => []
  | s, w, turn :: rest =>
    let event := RuntimeEvent.fromLogindPrepareForSleep turn.preparing
    let program := (handleLifecycleSignal settings event).run.run
      { s with sleepInhibitor := turn.sleepInhibitor }
    let ((result, s'), h) := exec (Host.handle vars) program
      { world := w, answers := turn.answers, envs := turn.envs }
    match result with
    | .ok again =>
      ⟨turn, h.queried⟩ :: if again then cycles vars settings s' h.world rest else []
    | .error _ => []

/-- If a `PrepareForSleep(false)` has been handled since the last `PrepareForSleep(true)`, the next
`PrepareForSleep(true)` that is handled with the policy enabled and a config that loads queries the
TV, as long as those resumes and this sleep meet the condition. -/
def FreshDecision (condition : List Handled → Handled → Prop) (handled : List Handled) : Prop :=
  ∀ before resumes x after, handled = before ++ resumes ++ x :: after →
    resumes ≠ [] → (∀ y ∈ resumes, y.turn.preparing = false) →
    x.turn.preparing = true → x.turn.enabled = true → x.turn.loads = true →
    condition resumes x → x.queried = true

/-! ## The executor on a writable directory -/

namespace Upkeep

/-- The files of a writable state directory, and whether the TV has been queried. -/
def contract : Contract Call CallReply (World × Bool) where
  permits _ _ := True
  next t c r t' := ∃ env : Environment, env.Writable ∧ t.1.answer env Host.pid c = (r, t'.1)
    ∧ t'.2 = noteQuery t.2 c r

section

variable {w : World} {q : Bool}

/-- One call, in any environment in which the files can be written. -/
theorem wp_call {c : Call} {Q : CallReply c → World × Bool → Prop}
    (h : ∀ env : Environment, env.Writable → Q (w.answer env Host.pid c).1
      ((w.answer env Host.pid c).2, noteQuery q c (w.answer env Host.pid c).1)) :
    wp contract (perform c) Q (w, q) := by
  refine (wp_perform c).mpr ⟨trivial, fun r t' hnext => ?_⟩
  obtain ⟨env, hwritable, hanswer, hnote⟩ := hnext
  have hQ := h env hwritable
  rw [hanswer] at hQ
  obtain ⟨w', q'⟩ := t'
  cases hnote
  exact hQ

/-- A query that has been made stays made. -/
theorem wp_queried {α : Type} (p : Program Call CallReply α) :
    wp contract p (fun _ t => t.2 = true) (w, true) := by
  refine (Within.all p).wp (fun t c _ ht => ⟨trivial, fun r t' hnext => ?_⟩) rfl
  obtain ⟨env, -, -, hnote⟩ := hnext
  rw [hnote, ht]
  cases c <;> rfl

/-- Once the TV has been asked, it has been asked. -/
theorem wpE_queried {α : Type} (p : Action α) :
    wpE contract p (fun _ t => t.2 = true) (fun _ t => t.2 = true) (w, true) := by
  refine wp.mono (fun r t h => ?_) (wp_queried p.run)
  cases r with
  | ok a => exact h
  | error err => exact h

/-- The free lock is taken. -/
theorem wpE_tryLock {Q : Bool → World × Bool → Prop} {E : RunError → World × Bool → Prop}
    (hlock : w.lock = none) (hQ : Q true ({ w with lock := some Host.pid }, q)) :
    wpE contract (orFail (perform Call.tryLock)) Q E (w, q) := by
  refine wpE_orFail.mpr (wp_call fun env hwritable => ?_)
  obtain ⟨free, hfree⟩ := hwritable.tryLock
  dsimp only [World.answer]
  rw [hfree, hlock]
  exact hQ

/-- The outcome that is stored is read. -/
theorem wpE_readOutcome {Q : Option SystemSleepCycleOutcome → World × Bool → Prop}
    {E : RunError → World × Bool → Prop} (hQ : Q w.outcome (w, q)) :
    wpE contract (orFail (perform Call.readOutcome)) Q E (w, q) := by
  refine wpE_orFail.mpr (wp_call fun env hwritable => ?_)
  obtain ⟨outcome, houtcome⟩ := hwritable.readOutcome
  dsimp only [World.answer]
  rw [houtcome]
  exact hQ

/-- An outcome that is written is stored. -/
theorem wpE_writeOutcome {outcome : SystemSleepCycleOutcome} {Q : Unit → World × Bool → Prop}
    {E : RunError → World × Bool → Prop} (hQ : Q () ({ w with outcome := some outcome }, q)) :
    wpE contract (orFail (perform (Call.writeOutcome outcome))) Q E (w, q) := by
  refine wpE_orFail.mpr (wp_call fun env hwritable => ?_)
  dsimp only [World.answer]
  rw [hwritable.writeOutcome outcome]
  exact hQ

/-- Clearing the attempt marker succeeds. -/
theorem wpE_clearAttempt {Q : Except IoError Unit → World × Bool → Prop}
    {E : RunError → World × Bool → Prop} (hQ : Q (.ok ()) (w, q)) :
    wpE contract (ask .clearAttempt) Q E (w, q) := by
  refine wpE_lift.mpr (wp_call fun env hwritable => ?_)
  show Q (env .clearAttempt) (w, q)
  rw [hwritable.clearAttempt]
  exact hQ

/-- The query comes before anything that could fail. -/
theorem wpE_attemptPowerOff (vars : EnvVars) (config : Config) :
    wpE contract (attemptSystemSleepPowerOffWithOutcome vars config) (fun _ t => t.2 = true)
      (fun _ t => t.2 = true) (w, q) := by
  unfold attemptSystemSleepPowerOffWithOutcome
  refine wpE_bind.mpr (wpE_lift.mpr (wp_call fun env _ => ?_))
  refine wpE_bind.mpr (wpE_liftM.mpr (wp_call fun env' _ => ?_))
  exact wpE_queried _

/-- A part after which the TV has been queried, whatever comes next. -/
theorem wpE_queried_bind {α β : Type} {p : Action α} {f : α → Action β}
    (hp : wpE contract p (fun _ t => t.2 = true) (fun _ t => t.2 = true) (w, q)) :
    wpE contract (p >>= f) (fun _ t => t.2 = true) (fun _ t => t.2 = true) (w, q) := by
  refine wpE_bind.mpr (wpE.mono (fun a t ht => ?_) (fun _ _ h => h) hp)
  obtain ⟨w', q'⟩ := t
  cases ht
  exact wpE_queried _

/-- A suspend whose cycle is not completed asks the TV. -/
theorem wpE_suspend_queries (vars : EnvVars) (config : Config) (hlock : w.lock = none)
    (houtcome : w.outcome ≠ some .completed) :
    wpE contract
      (handleSystemSuspendWithOutcome vars config (.fromLogindPrepareForSleep true))
      (fun _ t => t.2 = true) (fun _ t => t.2 = true) (w, q) := by
  have hunlock (t : World × Bool) (ht : t.2 = true) :
      wp contract (perform Call.unlock) (fun _ t' => t'.2 = true) t := by
    obtain ⟨w', q'⟩ := t
    cases ht
    exact wp_queried _
  refine wpE_bind.mpr (wpE_tryLock hlock ?_)
  show wpE contract (handleSystemSuspendOwnerWithOutcome vars config) _ _ _
  unfold handleSystemSuspendOwnerWithOutcome
  refine wpE_withGuard.mpr (wpE.mono (fun _ => hunlock) (fun _ => hunlock) ?_)
  refine wpE_bind.mpr (wpE_readOutcome ?_)
  rw [if_neg houtcome]
  refine wpE_bind.mpr (wpE_writeOutcome ?_)
  -- the one transition of the start decision clears the legacy marker
  refine wpE_bind.mpr (wpE_bind.mpr (wpE_bind.mpr (wpE_clearAttempt ?_)))
  exact wpE_queried_bind (wpE_attemptPowerOff vars config)

/-- Whatever happens, the attempt lock is free again in the end. -/
theorem wpE_suspend_lock (vars : EnvVars) (config : Config) (hlock : w.lock = none) :
    wpE contract
      (handleSystemSuspendWithOutcome vars config (.fromLogindPrepareForSleep true))
      (fun _ t => t.1.lock = none) (fun _ t => t.1.lock = none) (w, q) := by
  refine wpE_bind.mpr (wpE_tryLock hlock ?_)
  show wpE contract (handleSystemSuspendOwnerWithOutcome vars config) _ _ _
  refine wpE_withGuard.mpr ?_
  have hunlock (t : World × Bool) (ht : t.1.lock = none ∨ t.1.lock = some Host.pid) :
      wp contract (perform Call.unlock) (fun _ t' => t'.1.lock = none) t := by
    refine wp_call fun env _ => ?_
    show (if t.1.lock = some Host.pid then none else t.1.lock) = none
    cases ht with
    | inl hfree => rw [hfree]; rfl
    | inr hown => rw [hown]; rfl
  refine wp.mono (fun r t ht => ?_) ((Within.all _).wp
    (I := fun t : World × Bool => t.1.lock = none ∨ t.1.lock = some Host.pid)
    (fun t c _ ht => ⟨trivial, ?_⟩) (Or.inr rfl))
  · cases r with
    | ok a => exact hunlock t ht
    | error err => exact hunlock t ht
  · intro r t' hnext
    obtain ⟨env, -, hanswer, -⟩ := hnext
    have hlock' := World.answer_lock_own env Host.pid (c := c) ht
    rw [hanswer] at hlock'
    exact hlock'

/-- The restore does not touch the lock. -/
theorem wp_restore_lock (vars : EnvVars) (config : Config) (hlock : w.lock = none) :
    wp contract (restoreWithStoredToken vars config).run (fun _ t => t.1.lock = none)
      (w, q) := by
  refine (within_restoreWithStoredToken vars config).wp (fun t c hc ht => ?_) hlock
  refine ⟨trivial, fun r t' hnext => ?_⟩
  obtain ⟨env, -, hanswer, -⟩ := hnext
  have hlock' := World.answer_lock env Host.pid hc ht
  rw [hanswer] at hlock'
  exact hlock'

/-- The clean-up removes the outcome, whatever became of the restore. -/
theorem wpE_cleanup {E : RunError → World × Bool → Prop} (hlock : w.lock = none) :
    wpE contract clearSystemSleepCycle
      (fun _ t => t.1.lock = none ∧ t.1.outcome = none) E (w, q) := by
  unfold clearSystemSleepCycle
  refine wpE_bind.mpr (wpE_clearAttempt ?_)
  refine wpE_bind.mpr ((wpE_pure none).mpr ?_)
  refine wpE_bind.mpr (wpE_lift.mpr (wp_call fun env hwritable => ?_))
  dsimp only [World.answer]
  rw [hwritable.clearOutcome]
  exact wpE_bind.mpr ((wpE_pure none).mpr ((wpE_pure _).mpr ⟨hlock, rfl⟩))

/-! ### Whole runs of the executor -/

/-- The executor's handler, with whether the TV has been queried. -/
abbrev serve := noting noteQuery (World.serve Host.pid)

variable {envs : Nat → Environment} {vars : EnvVars}

/-- Serving a call goes on to the next environment. -/
theorem serve_next (s : (World × (Nat → Environment)) × Bool) (c : Call)
    (hs : ∀ n, (s.1.2 n).Writable) :
    (∀ n, ((serve s c).2.1.2 n).Writable)
      ∧ contract.next (s.1.1, s.2) c (serve s c).1 ((serve s c).2.1.1, (serve s c).2.2) :=
  ⟨fun n => hs (n + 1), s.1.2 0, hs 0, rfl, rfl⟩

/-- The answers come from the environments in turn, all of them writable. -/
theorem wpE_served {α : Type} {p : Action α} {Q : α → World × Bool → Prop}
    {E : RunError → World × Bool → Prop} (hwritable : ∀ n, (envs n).Writable)
    (h : wpE contract p Q E (w, q)) :
    wpE (.handled serve) p (fun a s => Q a (s.1.1, s.2)) (fun err s => E err (s.1.1, s.2))
      ((w, envs), q) := by
  have hexec := wpE.exec (fun s => (s.1.1, s.2)) serve_next (s := ((w, envs), q)) hwritable h
  refine wp_handled.mpr ?_
  generalize exec serve p.run ((w, envs), q) = r at hexec
  obtain ⟨result, s⟩ := r
  cases result with
  | ok a => exact hexec
  | error err => exact hexec

/-- The executor's set-up: the config, then the client. Without them the files stay untouched. -/
theorem wpE_setup {Q : Unit → (World × (Nat → Environment)) × Bool → Prop}
    {E : RunError → (World × (Nat → Environment)) × Bool → Prop} {options : TvClientBuildOptions}
    {f : Config → Action Unit}
    (hready : ∀ config, envs 0 .loadConfig = .ok config →
      envs 1 (.tvClient config options) = .ok () →
      wpE (.handled serve) (f config) Q E ((w, fun n => envs (n + 2)), q))
    (hnot : (∀ config, envs 0 .loadConfig = .ok config →
      envs 1 (.tvClient config options) ≠ .ok ()) → ∀ err envs', E err ((w, envs'), q)) :
    wpE (.handled serve) (do
        let config ← orThrow (perform Call.loadConfig)
        orThrow (perform (Call.tvClient config options))
        f config) Q E ((w, envs), q) := by
  refine wpE_bind.mpr (wpE_mk.mpr ((wp_perform _).mpr ⟨trivial, fun r s hr => ?_⟩))
  cases hr
  show post _ _ (envs 0 .loadConfig) ((w, fun n => envs (n + 1)), q)
  cases hload : envs 0 .loadConfig with
  | error err =>
    refine hnot (fun config hconfig => ?_) err _
    rw [hload] at hconfig
    cases hconfig
  | ok config =>
    refine wpE_bind.mpr (wpE_mk.mpr ((wp_perform _).mpr ⟨trivial, fun r s hr => ?_⟩))
    cases hr
    show post _ _ (envs 1 (.tvClient config options)) ((w, fun n => envs (n + 2)), q)
    cases hclient : envs 1 (.tvClient config options) with
    | error err =>
      refine hnot (fun config' hconfig => ?_) err _
      rw [hload] at hconfig
      cases hconfig
      rw [hclient]
      exact nofun
    | ok _ => exact hready config hload hclient

/-- With the set-up in order the handler goes on from there. -/
theorem wpE_setup_ready {Q : Unit → (World × (Nat → Environment)) × Bool → Prop}
    {E : RunError → (World × (Nat → Environment)) × Bool → Prop} {options : TvClientBuildOptions}
    {f : Config → Action Unit} {config : Config} (hload : envs 0 .loadConfig = .ok config)
    (hclient : envs 1 (.tvClient config options) = .ok ())
    (h : wpE (.handled serve) (f config) Q E ((w, fun n => envs (n + 2)), q)) :
    wpE (.handled serve) (do
        let config ← orThrow (perform Call.loadConfig)
        orThrow (perform (Call.tvClient config options))
        f config) Q E ((w, envs), q) := by
  refine wpE_setup (fun config' hconfig _ => ?_) fun hnot => absurd hclient (hnot config hload)
  rw [hload] at hconfig
  cases hconfig
  exact h

/-- The lock is free again after a sleep. -/
theorem sleep_lock (hwritable : ∀ n, (envs n).Writable) (hlock : w.lock = none) :
    (exec serve (runSleepPre vars (.fromLogindPrepareForSleep true)).run
      ((w, envs), q)).2.1.1.lock = none := by
  refine wpE_handled (fun s => s.1.1.lock = none) (wpE_setup (fun config _ _ => ?_)
    fun _ _ _ => hlock)
  exact wpE_bind.mpr (wpE_served (fun n => hwritable (n + 2)) (wpE_suspend_lock vars config hlock))

/-- A sleep that finds its config and client, in a cycle not completed, asks the TV. -/
theorem sleep_queries (hwritable : ∀ n, (envs n).Writable) (hlock : w.lock = none)
    (houtcome : w.outcome ≠ some .completed) {config : Config}
    (hload : envs 0 .loadConfig = .ok config)
    (hclient : envs 1 (.tvClient config sleepClientOptions) = .ok ()) :
    (exec serve (runSleepPre vars (.fromLogindPrepareForSleep true)).run
      ((w, envs), q)).2.2 = true := by
  refine wpE_handled (fun s => s.2 = true) (wpE_setup_ready hload hclient ?_)
  exact wpE_bind.mpr (wpE_served (fun n => hwritable (n + 2))
    (wpE_suspend_queries vars config hlock houtcome))

/-- The resume after its set-up: the restore, the clean-up, and the result of the two. -/
theorem wpE_resume (config : Config) (hlock : w.lock = none) :
    wpE contract (do
        let result ← ExceptT.lift (restoreWithStoredToken vars config).run
        let cleanupError ← clearSystemSleepCycle
        match result, cleanupError with
        | .ok (), some err => throw (.io err)
        | .ok (), none => pure ()
        | .error err, _ => throw err)
      (fun _ t => t.1.lock = none ∧ t.1.outcome = none)
      (fun _ t => t.1.lock = none ∧ t.1.outcome = none) (w, q) := by
  refine wpE_bind.mpr (wpE_lift.mpr (wp.mono (fun r t ht => ?_) (wp_restore_lock vars config hlock)))
  obtain ⟨w', q'⟩ := t
  refine wpE_bind.mpr (wpE.mono (fun cleanupError t ht => ?_) (fun _ _ h => h) (wpE_cleanup ht))
  split
  · exact ht
  · exact ht
  · exact ht

/-- The lock is free again after a resume. -/
theorem resume_lock (hwritable : ∀ n, (envs n).Writable) (hlock : w.lock = none) :
    (exec serve (runSystemResume vars).run ((w, envs), q)).2.1.1.lock = none := by
  refine wpE_handled (fun s => s.1.1.lock = none) (wpE_setup (fun config _ _ => ?_)
    fun _ _ _ => hlock)
  exact wpE.mono (fun _ _ h => h.1) (fun _ _ h => h.1)
    (wpE_served (fun n => hwritable (n + 2)) (wpE_resume config hlock))

/-- A resume never brings a completed outcome about. -/
theorem resume_not_completed (hwritable : ∀ n, (envs n).Writable) (hlock : w.lock = none)
    (houtcome : w.outcome ≠ some .completed) :
    (exec serve (runSystemResume vars).run ((w, envs), q)).2.1.1.outcome ≠ some .completed := by
  refine wpE_handled (fun s => s.1.1.outcome ≠ some .completed) (wpE_setup (fun config _ _ => ?_)
    fun _ _ _ => houtcome)
  have hnone (t : World × Bool) (ht : t.1.lock = none ∧ t.1.outcome = none) :
      t.1.outcome ≠ some .completed := by
    rw [ht.2]
    exact nofun
  exact wpE.mono (fun _ _ => hnone _) (fun _ _ => hnone _)
    (wpE_served (fun n => hwritable (n + 2)) (wpE_resume config hlock))

/-- A resume that finds its config and client clears the outcome. -/
theorem resume_outcome (hwritable : ∀ n, (envs n).Writable) (hlock : w.lock = none)
    {config : Config} (hload : envs 0 .loadConfig = .ok config)
    (hclient : envs 1 (.tvClient config resumeClientOptions) = .ok ()) :
    (exec serve (runSystemResume vars).run ((w, envs), q)).2.1.1.outcome = none := by
  refine wpE_handled (fun s => s.1.1.outcome = none) (wpE_setup_ready hload hclient ?_)
  exact wpE.mono (fun _ _ h => h.2) (fun _ _ h => h.2)
    (wpE_served (fun n => hwritable (n + 2)) (wpE_resume config hlock))

end

end Upkeep

/-! ## Turns -/

namespace Turn

variable {vars : EnvVars} {t : Turn} {w : World}

/-- Every operation on the files of the cycle succeeds. -/
def Writable (t : Turn) : Prop := ∀ n, (t.envs n).Writable

/-- What a handled event leaves behind: the files, and whether the TV has been queried. -/
def run (vars : EnvVars) (t : Turn) (w : World) : World × Bool :=
  if t.enabled then
    let s := if t.preparing then
        exec Upkeep.serve (runSleepPre vars (.fromLogindPrepareForSleep true)).run
          ((w, fun n => (t.envs n).buffered), false)
      else exec Upkeep.serve (runSystemResume vars).run ((w, t.envs), false)
    (s.2.1.1, s.2.2)
  else (w, false)

/-- Writing to a buffer does not touch the files. -/
theorem Writable.buffered (h : t.Writable) (n : Nat) : (t.envs n).buffered.Writable :=
  ⟨(h n).tryLock, (h n).readOutcome, (h n).writeOutcome, (h n).clearOutcome, (h n).clearAttempt⟩

/-- The attempt lock is free again after every event. -/
theorem run_lock (hwritable : t.Writable) (hlock : w.lock = none) :
    (t.run vars w).1.lock = none := by
  unfold run
  split
  · dsimp only
    split
    · exact Upkeep.sleep_lock hwritable.buffered hlock
    · exact Upkeep.resume_lock hwritable hlock
  · exact hlock

/-- The set-up of a turn that connects. -/
theorem connects_iff (hconnects : t.connects = true) :
    ∃ config, t.envs 0 .loadConfig = .ok config
      ∧ t.envs 1 (.tvClient config t.clientOptions) = .ok () := by
  unfold connects at hconnects
  split at hconnects
  · rename_i config hload
    refine ⟨config, hload, ?_⟩
    cases hclient : t.envs 1 (.tvClient config t.clientOptions) with
    | ok _ => rfl
    | error err =>
      rw [hclient] at hconnects
      cases hconnects
  · cases hconnects

/-- A resume with its set-up in order leaves no outcome behind. -/
theorem run_resume_outcome (hwritable : t.Writable) (hlock : w.lock = none)
    (hresume : t.preparing = false) (henabled : t.enabled = true)
    (hconnects : t.connects = true) :
    (t.run vars w).1.outcome = none := by
  obtain ⟨config, hload, hclient⟩ := connects_iff hconnects
  unfold clientOptions at hclient
  rw [hresume] at hclient
  unfold run
  rw [henabled, hresume]
  exact Upkeep.resume_outcome hwritable hlock hload hclient

/-- A resume never makes a cycle completed. -/
theorem run_resume_not_completed (hwritable : t.Writable) (hlock : w.lock = none)
    (hresume : t.preparing = false) (houtcome : w.outcome ≠ some .completed) :
    (t.run vars w).1.outcome ≠ some .completed := by
  unfold run
  rw [hresume]
  split
  · exact Upkeep.resume_not_completed hwritable hlock houtcome
  · exact houtcome

/-- A sleep with its set-up in order queries the TV, unless the outcome says completed. -/
theorem run_sleep_queries (hwritable : t.Writable) (hlock : w.lock = none)
    (houtcome : w.outcome ≠ some .completed) (hsleep : t.preparing = true)
    (henabled : t.enabled = true) (hconnects : t.connects = true) :
    (t.run vars w).2 = true := by
  obtain ⟨config, hload, hclient⟩ := connects_iff hconnects
  unfold clientOptions at hclient
  rw [hsleep] at hclient
  unfold run
  rw [henabled, hsleep]
  exact Upkeep.sleep_queries hwritable.buffered hlock houtcome hload hclient

end Turn

/-! ## The monitor handles a turn -/

/-- A call that is not the executor's. -/
def MonitorCall.Own : MonitorCall → Prop
  | .beforeSleep _ | .afterResumeStreaming _ => False
  | _ => True

section

open MonitorM

/-- A failed write is the monitor's own error. -/
theorem own_orIo {α : Type} (result : Except IoError α) : WithinS MonitorCall.Own (orIo result) := by
  cases result <;> exact fun _ => trivial

theorem own_orFailed {α : Type} (result : Except String α) (what : String) :
    WithinS MonitorCall.Own (orFailed result what) := by
  cases result <;> exact fun _ => trivial

theorem own_rethrow {α : Type} (result : Except SessionRunnerError α) :
    WithinS MonitorCall.Own (rethrow result) := by
  cases result <;> exact fun _ => trivial

theorem own_writeLine (line : String) : WithinS MonitorCall.Own (MonitorM.writeLine line) :=
  (WithinS.liftM (.perform trivial)).bind own_orIo

theorem own_flush : WithinS MonitorCall.Own MonitorM.flush :=
  (WithinS.liftM (.perform trivial)).bind own_orIo

/-- The output of a command is written, with a line end if it has none. -/
theorem own_writeCommandOutput (output : String) :
    WithinS MonitorCall.Own (writeCommandOutput output) := by
  unfold writeCommandOutput
  split
  · exact fun _ => trivial
  · refine (WithinS.liftM (.perform trivial)).bind fun r => (own_orIo r).bind fun _ => ?_
    split
    · exact (own_writeLine _).bind fun _ => own_flush
    · exact own_flush

/-- Releasing the inhibitor is the monitor's own affair. -/
theorem own_release : WithinS MonitorCall.Own releaseLifecycleSleepDelayInhibitor := by
  refine WithinS.bind (fun _ => trivial) fun s => ?_
  split
  · refine WithinS.bind (fun _ => trivial) fun _ => ?_
    exact (WithinS.liftM (.perform trivial)).bind fun _ => own_writeLine _
  · exact fun _ => trivial

/-- Taking an inhibitor when the policy wants it makes own calls only. -/
theorem own_sync : WithinS MonitorCall.Own syncLifecycleSleepDelayInhibitorIfIdle := by
  refine WithinS.bind ?_ fun enabled => ?_
  · exact (WithinS.liftM (.perform trivial)).bind fun r =>
      (own_orFailed r _).bind fun _ _ => trivial
  · split
    · exact own_release
    · refine WithinS.bind (fun _ => trivial) fun s => ?_
      split
      · exact fun _ => trivial
      · refine (WithinS.liftM (.perform trivial)).bind fun r => (own_orFailed r _).bind fun _ => ?_
        exact WithinS.bind (fun _ => trivial) fun _ => own_writeLine _

theorem own_countEvent (settings : MonitorSettings) :
    WithinS MonitorCall.Own (countLifecycleEvent settings) := fun _ => trivial

end

/-- What the executor works on. -/
def Host.At (w : World) (envs : Nat → Environment) (queried : Bool) (h : Host) : Prop :=
  h.world = w ∧ h.envs = envs ∧ h.queried = queried

/-- What the monitor does on its own leaves the host where it is. -/
theorem wpS_own {α : Type} {p : MonitorM α} {vars : EnvVars} {s : MonitorState} {h : Host}
    {w : World} {envs : Nat → Environment} {queried : Bool} (hp : WithinS MonitorCall.Own p)
    (hat : h.At w envs queried) :
    wpS (.handled (Host.handle vars)) p (fun _ _ => Host.At w envs queried)
      (fun _ _ => Host.At w envs queried) s h := by
  refine hp.wp (fun h c hc hat => ⟨trivial, fun r h' hnext => ?_⟩) hat
  have hnext' : Host.handle vars h c = (r, h') := hnext
  cases c with
  | beforeSleep event => exact hc.elim
  | afterResumeStreaming event => exact hc.elim
  | _ =>
    cases hnext'
    exact hat

section

variable {vars : EnvVars} {settings : MonitorSettings} {s : MonitorState} {h : Host} {w : World}
  {envs : Nat → Environment} {queried : Bool}

/-- A part of the monitor's own, and then the rest. -/
theorem wpS_own_bind {α β : Type} {p : MonitorM α} {f : α → MonitorM β}
    {Q : β → MonitorState → Host → Prop} (hp : WithinS MonitorCall.Own p)
    (hat : h.At w envs queried)
    (hf : ∀ a s' h', h'.At w envs queried →
      wpS (.handled (Host.handle vars)) (f a) Q (fun _ _ _ => True) s' h') :
    wpS (.handled (Host.handle vars)) (p >>= f) Q (fun _ _ _ => True) s h :=
  wpS_bind.mpr (wpS.mono (fun a s' h' hat' => hf a s' h' hat') (fun _ _ _ _ => trivial)
    (wpS_own hp hat))

/-- The executor's run of a handler, seen from the host. -/
theorem Host.execute_at (hat : h.At w envs queried) (envs' : Nat → Environment) (p : Action Unit) :
    (h.execute envs' p).2.2.At (exec Upkeep.serve p.run ((w, envs'), queried)).2.1.1 envs
      (exec Upkeep.serve p.run ((w, envs'), queried)).2.2 := by
  obtain ⟨rfl, rfl, rfl⟩ := hat
  rw [exec_noting]
  exact ⟨rfl, rfl, rfl⟩

/-- A resume event runs the resume, in the host's next environments. -/
theorem wpS_dispatch_resume (hat : h.At w envs queried) :
    wpS (.handled (Host.handle vars)) (dispatchLifecycleEvent (.fromLogindPrepareForSleep false))
      (fun _ _ => Host.At (exec Upkeep.serve (runSystemResume vars).run ((w, envs), queried)).2.1.1
        envs (exec Upkeep.serve (runSystemResume vars).run ((w, envs), queried)).2.2)
      (fun _ _ _ => True) s h := by
  refine wpS_own_bind (own_writeLine _) hat fun _ s₁ h₁ hat₁ => ?_
  refine wpS_own_bind (own_writeLine _) hat₁ fun _ s₂ h₂ hat₂ => ?_
  refine wpS_own_bind own_flush hat₂ fun _ s₃ h₃ hat₃ => ?_
  refine wpS_bind.mpr (wpS_liftM.mpr ((wp_perform _).mpr ⟨trivial, fun r h₄ hnext => ?_⟩))
  have hh₄ : h₄ = (h₃.execute h₃.envs (runSystemResume vars)).2.2 :=
    (congrArg Prod.snd hnext).symm
  have hat₄ := Host.execute_at hat₃ h₃.envs (runSystemResume vars)
  rw [← hh₄, hat₃.2.1] at hat₄
  split
  · exact (wpS_pure ()).mpr hat₄
  · exact wpS.mono (fun _ _ _ h => h) (fun _ _ _ _ => trivial) (wpS_own (own_writeLine _) hat₄)

/-- A sleep event runs the sleep, with its output buffered. -/
theorem wpS_dispatch_sleep (hat : h.At w envs queried) :
    wpS (.handled (Host.handle vars)) (dispatchLifecycleEvent (.fromLogindPrepareForSleep true))
      (fun _ _ => Host.At
        (exec Upkeep.serve (runSleepPre vars (.fromLogindPrepareForSleep true)).run
          ((w, fun n => (envs n).buffered), queried)).2.1.1 envs
        (exec Upkeep.serve (runSleepPre vars (.fromLogindPrepareForSleep true)).run
          ((w, fun n => (envs n).buffered), queried)).2.2)
      (fun _ _ _ => True) s h := by
  refine wpS_own_bind (own_writeLine _) hat fun _ s₁ h₁ hat₁ => ?_
  refine wpS_own_bind (own_writeLine _) hat₁ fun _ s₂ h₂ hat₂ => ?_
  refine wpS_own_bind own_flush hat₂ fun _ s₃ h₃ hat₃ => ?_
  refine wpS_bind.mpr (wpS_liftM.mpr ((wp_perform _).mpr ⟨trivial, fun r h₄ hnext => ?_⟩))
  have hh₄ : h₄ = (h₃.execute (fun n => (h₃.envs n).buffered)
      (runSleepPre vars (.fromLogindPrepareForSleep true))).2.2 :=
    (congrArg Prod.snd hnext).symm
  have hat₄ := Host.execute_at hat₃ (fun n => (h₃.envs n).buffered)
    (runSleepPre vars (.fromLogindPrepareForSleep true))
  rw [← hh₄, hat₃.2.1] at hat₄
  split
  · exact wpS.mono (fun _ _ _ h => h) (fun _ _ _ _ => trivial)
      (wpS_own (own_writeCommandOutput _) hat₄)
  · exact wpS.mono (fun _ _ _ h => h) (fun _ _ _ _ => trivial) (wpS_own (own_writeLine _) hat₄)

/-- What a handled event leaves behind is what its turn says. -/
theorem wpS_turn (vars : EnvVars) (settings : MonitorSettings) (s : MonitorState) (w : World)
    (t : Turn) :
    wpS (.handled (Host.handle vars))
      (handleLifecycleSignal settings (.fromLogindPrepareForSleep t.preparing))
      (fun _ _ h' => (h'.world, h'.queried) = t.run vars w) (fun _ _ _ => True) s
      { world := w, answers := t.answers, envs := t.envs } := by
  -- what remains after the dispatch makes own calls only, and these keep the world
  have hdone {α : Type} {p : MonitorM α} {s : MonitorState} {h : Host}
      (hp : WithinS MonitorCall.Own p) (hat : h.At (t.run vars w).1 t.envs (t.run vars w).2) :
      wpS (.handled (Host.handle vars)) p (fun _ _ h' => (h'.world, h'.queried) = t.run vars w)
        (fun _ _ _ => True) s h := by
    refine wpS.mono (fun _ _ h' hat' => ?_) (fun _ _ _ _ => trivial) (wpS_own hp hat)
    rw [hat'.1, hat'.2.2]
  unfold handleLifecycleSignal
  refine wpS_bind.mpr (wpS_noteLifecycleEvent ?_)
  refine wpS_bind.mpr (wpS_bind.mpr
    (wpS_liftM.mpr ((wp_perform _).mpr ⟨trivial, fun r h₁ hnext => ?_⟩)))
  have hr : r = t.answers 0 .loadPolicy := (congrArg Prod.fst hnext).symm
  have hat₁ : h₁.At w t.envs false := by
    cases hnext
    exact ⟨rfl, rfl, rfl⟩
  cases hpolicy : t.answers 0 .loadPolicy with
  | error err =>
    rw [hr, hpolicy]
    trivial
  | ok policy =>
    rw [hr, hpolicy]
    have henabled : t.enabled = policy.isEnabled := by
      unfold Turn.enabled
      rw [hpolicy]
    refine wpS_bind.mpr ((wpS_pure policy).mpr ((wpS_pure _).mpr ?_))
    -- a turn switched off runs nothing; a turn on resumes or sleeps
    cases hpol : policy.isEnabled with
    | false =>
      have hrun : t.run vars w = (w, false) := by
        unfold Turn.run
        rw [henabled, hpol]
        rfl
      refine hdone (own_release.bind fun _ => (own_writeLine _).bind fun _ =>
        own_countEvent settings) ?_
      rw [hrun]
      exact hat₁
    | true =>
      cases hpreparing : t.preparing with
      | false =>
        refine wpS_bind.mpr (wpS.mono (fun _ s₂ h₂ hat₂ => ?_) (fun _ _ _ h => h)
          (wpS_dispatch_resume hat₁))
        refine hdone (own_sync.bind fun _ => own_countEvent settings) ?_
        unfold Turn.run
        rw [henabled, hpol, hpreparing]
        exact hat₂
      | true =>
        refine wpS_bind.mpr (wpS_lift.mpr (wpS.mono (fun _ s₂ h₂ hat₂ => ?_)
          (fun err s₂ h₂ _ => ?_) (wpS_dispatch_sleep hat₁)))
        · refine hdone (own_release.lift.bind fun released => (own_rethrow _).bind fun _ =>
            (own_rethrow released).bind fun _ => own_countEvent settings) ?_
          unfold Turn.run
          rw [henabled, hpol, hpreparing]
          exact hat₂
        · -- a failed dispatch ends the monitor, after the release
          exact wpS_own_bind own_release.lift ⟨rfl, rfl, rfl⟩ fun _ _ _ _ => trivial

end

/-! ## Runs of events -/

/-- The events after the first, and what the first one leaves them. -/
theorem cycles_cons {vars : EnvVars} {settings : MonitorSettings} {s : MonitorState} {w : World}
    {t : Turn} {rest : List Turn} {x : Handled} {handled : List Handled}
    (h : cycles vars settings s w (t :: rest) = x :: handled) :
    x = ⟨t, (t.run vars w).2⟩ ∧ (handled = []
      ∨ ∃ s', handled = cycles vars settings s' (t.run vars w).1 rest) := by
  have hturn := wp_handled.mp
    (wpS_turn vars settings { s with sleepInhibitor := t.sleepInhibitor } w t)
  unfold cycles at h
  dsimp only at h
  generalize exec (Host.handle vars) _ _ = r at h hturn
  obtain ⟨⟨result, s'⟩, host⟩ := r
  cases result with
  | error err => cases h
  | ok again =>
    have hrun : (host.world, host.queried) = t.run vars w := hturn
    rw [← hrun]
    obtain ⟨rfl, rfl⟩ := List.cons.inj h
    refine ⟨rfl, ?_⟩
    cases again with
    | true => exact .inr ⟨s', rfl⟩
    | false => exact .inl rfl

/-- The set-up for a decision: one of the resumes has been handled with the policy enabled and
with the executor's config and client in order, and the sleep has its client too. -/
def Supported (resumes : List Handled) (x : Handled) : Prop :=
  (∃ y ∈ resumes, y.turn.enabled = true ∧ y.turn.connects = true) ∧ x.turn.connects = true

section

variable {vars : EnvVars} {settings : MonitorSettings}

/-- Resumes, then a sleep, from a directory whose outcome does not say completed. -/
theorem queried_of_outcome {turns : List Turn} {s : MonitorState} {w : World}
    (hwritable : ∀ t ∈ turns, t.Writable) (hlock : w.lock = none)
    (houtcome : w.outcome ≠ some .completed) {resumes : List Handled} {x : Handled}
    {after : List Handled} (hrun : cycles vars settings s w turns = resumes ++ x :: after)
    (hresumes : ∀ y ∈ resumes, y.turn.preparing = false) (hsleep : x.turn.preparing = true)
    (henabled : x.turn.enabled = true) (hconnects : x.turn.connects = true) :
    x.queried = true := by
  induction turns generalizing s w resumes with
  | nil => simp [cycles] at hrun
  | cons t rest ih =>
    have htw := hwritable t (List.mem_cons_self ..)
    cases resumes with
    | nil =>
      obtain ⟨rfl, -⟩ := cycles_cons hrun
      exact Turn.run_sleep_queries htw hlock houtcome hsleep henabled hconnects
    | cons y resumes =>
      obtain ⟨rfl, hrest⟩ := cycles_cons hrun
      have hresume : t.preparing = false := hresumes _ (List.mem_cons_self ..)
      cases hrest with
      | inl hnil => simp at hnil
      | inr hcycles =>
        obtain ⟨s', hcycles⟩ := hcycles
        exact ih (fun t' ht' => hwritable t' (List.mem_cons_of_mem _ ht'))
          (Turn.run_lock htw hlock) (Turn.run_resume_not_completed htw hlock hresume houtcome)
          hcycles.symm fun y' hy' => hresumes y' (List.mem_cons_of_mem _ hy')

/-- **Each cycle decides anew** as long as one resume event before it has been handled with the
policy enabled and with the executor's config and client in order. -/
theorem each_cycle_decides_anew (vars : EnvVars) (settings : MonitorSettings) (turns : List Turn)
    (s : MonitorState) (w : World) (hlock : w.lock = none)
    (hwritable : ∀ t ∈ turns, t.Writable) :
    FreshDecision Supported (cycles vars settings s w turns) := by
  induction turns generalizing s w with
  | nil =>
    intro before resumes x after hrun
    simp [cycles] at hrun
  | cons t rest ih =>
    intro before resumes x after hrun _ hresumes hsleep henabled hloads hcondition
    obtain ⟨⟨y, hy, hyenabled, hyconnects⟩, hxconnects⟩ := hcondition
    have htw := hwritable t (List.mem_cons_self ..)
    have hlock' : (t.run vars w).1.lock = none := Turn.run_lock htw hlock
    have hwritable' : ∀ t' ∈ rest, t'.Writable := fun t' ht' =>
      hwritable t' (List.mem_cons_of_mem _ ht')
    cases before with
    | cons first before =>
      obtain ⟨-, hrest⟩ := cycles_cons hrun
      cases hrest with
      | inl hnil => simp at hnil
      | inr hcycles =>
        obtain ⟨s', hcycles⟩ := hcycles
        exact ih s' _ hlock' hwritable' before resumes x after hcycles.symm
          (List.ne_nil_of_mem hy) hresumes hsleep henabled hloads
          ⟨⟨y, hy, hyenabled, hyconnects⟩, hxconnects⟩
    | nil =>
      cases resumes with
      | nil => cases hy
      | cons first resumes =>
        obtain ⟨rfl, hrest⟩ := cycles_cons hrun
        have hresume : t.preparing = false := hresumes _ (List.mem_cons_self ..)
        have hresumes' : ∀ y' ∈ resumes, y'.turn.preparing = false := fun y' hy' =>
          hresumes y' (List.mem_cons_of_mem _ hy')
        cases hrest with
        | inl hnil => simp at hnil
        | inr hcycles =>
          obtain ⟨s', hcycles⟩ := hcycles
          cases List.mem_cons.mp hy with
          | inr hlater =>
            exact ih s' _ hlock' hwritable' [] resumes x after hcycles.symm
              (List.ne_nil_of_mem hlater) hresumes' hsleep henabled hloads
              ⟨⟨y, hlater, hyenabled, hyconnects⟩, hxconnects⟩
          | inl hfirst =>
            -- this resume removes the outcome, and no later one brings it back
            subst hfirst
            have hcleared : (t.run vars w).1.outcome = none :=
              Turn.run_resume_outcome htw hlock hresume hyenabled hyconnects
            exact queried_of_outcome hwritable' hlock' (by rw [hcleared]; exact nofun)
              hcycles.symm hresumes' hsleep henabled hxconnects

end

/-! ### Concrete runs -/

/-- All goes well: the policy is enabled and every line is written. -/
def MonitorEnvironment.calm : MonitorEnvironment
  | .writeLine _ | .write _ | .flush => .ok ()
  | .elapsed => 0
  | .addSignalMatch => .ok ()
  | .process _ => .ok none
  | .inhibit => .ok 3
  | .closeInhibitor _ => ()
  | .loadPolicy => .ok .enabled
  | .beforeSleep _ => .ok ""
  | .afterResumeStreaming _ => .ok ()

def Turn.calm (preparing : Bool) : Turn where
  preparing := preparing
  sleepInhibitor := if preparing then some 3 else none
  answers _ := MonitorEnvironment.calm
  envs _ := Environment.calm .sample

/-- A resume at which the TV client cannot be built. -/
def Turn.clientless : Turn :=
  { Turn.calm false with
    envs := fun _ c => match c with
      | .tvClient _ _ => .error (.tvClientBuild "could not resolve the config owner")
      | c => Environment.calm .sample c }

theorem Turn.writable_calm (preparing : Bool) : (Turn.calm preparing).Writable :=
  fun _ => ⟨⟨_, rfl⟩, ⟨_, rfl⟩, fun _ => rfl, rfl, rfl⟩

/-- Sleep, resume, sleep: the second sleep is queried too. -/
theorem each_cycle_decides_anew_calm :
    ∃ first second third,
      cycles (fun _ => none) {} {} {} [.calm true, .calm false, .calm true]
        = [first, second, third] ∧ third.queried = true := by
  refine ⟨⟨.calm true, true⟩, ⟨.calm false, false⟩, ⟨.calm true, true⟩, rfl, ?_⟩
  refine each_cycle_decides_anew (fun _ => none) {} [.calm true, .calm false, .calm true] {} {} rfl
    (fun t ht => ?_) [⟨.calm true, true⟩] [⟨.calm false, false⟩] ⟨.calm true, true⟩ [] rfl
    (by simp) (by simp [Turn.calm]) rfl rfl rfl ⟨⟨_, List.mem_cons_self .., rfl, rfl⟩, rfl⟩
  simp only [List.mem_cons, List.not_mem_nil, or_false] at ht
  rcases ht with rfl | rfl | rfl <;> exact Turn.writable_calm _

/-- Sleep, a resume that cannot build its client, sleep: the outcome of the first cycle answers the
second, and the TV is not queried. -/
theorem stale_outcome_after_failed_resume :
    (∀ t ∈ [Turn.calm true, Turn.clientless, Turn.calm true], t.Writable)
    ∧ ¬ FreshDecision (fun _ _ => True)
        (cycles (fun _ => none) {} {} {} [.calm true, .clientless, .calm true]) := by
  refine ⟨fun t ht => ?_, fun hfresh => ?_⟩
  · simp only [List.mem_cons, List.not_mem_nil, or_false] at ht
    rcases ht with rfl | rfl | rfl
    · exact Turn.writable_calm true
    · exact fun _ => ⟨⟨_, rfl⟩, ⟨_, rfl⟩, fun _ => rfl, rfl, rfl⟩
    · exact Turn.writable_calm true
  · have hqueried := hfresh [⟨.calm true, true⟩] [⟨.clientless, false⟩] ⟨.calm true, false⟩ [] rfl
      (by simp) (by simp [Turn.clientless, Turn.calm]) rfl rfl rfl trivial
    cases hqueried

end LgBuddy
