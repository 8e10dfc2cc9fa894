import LgBuddy.Machine.Program
import LgBuddy.Policy
import LgBuddy.Tv

/-!
# LgBuddy — what the lifecycle handlers ask of their surroundings

The handlers of `lifecycle.rs` and `session/actions.rs` are written against a writer, a sleeper, a
TV client, a network waiter and the files of the state directory. Each use is one `Call`, and a
handler is a `Program` of calls:

* `Call`, `CallReply` — the calls and the type of their answers;
* `Action` — a handler; `ask` is a call that cannot end it, `orFail` one followed by `?`;
* `World` — the shared files of the state directory (`state.rs`);
* `World.answer` — one call answered: the files behave as files, all else is up to the
  `Environment`.
-/

namespace LgBuddy

/-- An `io::Error`, by its text. -/
abbrev IoError := String

/-- Identity of a process. -/
abbrev Pid := Nat

inductive RunError where
  | io (err : IoError)
  | policy (message : String)
  | tvClientBuild (message : String)
  | configPath (message : String)
  | configLoad (message : String)
  deriving DecidableEq, Repr

instance : ToString RunError where
  toString
    | .io message | .policy message | .tvClientBuild message | .configPath message
    | .configLoad message => message

inductive SystemSleepCycleOutcome where
  | inProgress
  | completed
  | retryableTransportFailure
  deriving DecidableEq, Repr

/-- `TvClientBuildOptions::production()`, and what is changed on it. Times are in seconds. -/
structure TvClientBuildOptions where
  storedTokenOnly : Bool := false
  commandTimeout : Option Nat := none
  deriving DecidableEq, Repr

/-! ## Calls -/

inductive Call where
  | writeLine (line : String)
  | flush
  | sleep (millis : Nat)
  -- `system_sleep_attempt.lock`: `flock` without blocking; `unlock` is the drop of the guard
  | tryLock
  | unlock
  -- `system_sleep_cycle`
  | readOutcome
  | writeOutcome (outcome : SystemSleepCycleOutcome)
  | clearOutcome
  -- `system_sleep_attempted`
  | markAttempted
  | clearAttempt
  -- `screen_off_by_us`
  | markerExists
  | createMarker
  | clearMarker
  | currentInput (tv : Ipv4Addr)
  | powerOff (tv : Ipv4Addr)
  | setInput (tv : Ipv4Addr) (input : HdmiInput)
  | wake (tv : Ipv4Addr) (mac : MacAddress)
  | hasStoredAccessToken
  | waitForNetwork
  | waitForRouteTo (target : Ipv4Addr)
  -- the executor: `load_config`, and `tv_client`, which reuses its client or builds a new one
  | loadConfig
  | tvClient (config : Config) (options : TvClientBuildOptions)

@[reducible] def CallReply : Call → Type
  | .sleep _ | .unlock => Unit
  | .markerExists => Bool
  | .tryLock => Except IoError Bool
  | .readOutcome => Except IoError (Option SystemSleepCycleOutcome)
  | .writeLine _ | .flush | .writeOutcome _ | .clearOutcome | .markAttempted | .clearAttempt
  | .createMarker | .clearMarker | .waitForNetwork | .waitForRouteTo _ => Except IoError Unit
  | .currentInput _ => Except TvError CurrentInput
  | .powerOff _ | .setInput _ _ => Except TvError Unit
  | .wake _ _ => Except String Unit
  | .hasStoredAccessToken => Except String Bool
  | .loadConfig => Except RunError Config
  | .tvClient _ _ => Except RunError Unit

/-- A command that the TV receives. -/
def Call.isTvCommand : Call → Bool
  | .currentInput _ | .powerOff _ | .setInput _ _ | .wake _ _ => true
  | _ => false

/-! ## Handlers -/

/-- A handler: it makes calls, and ends with a result or with a `RunError`. -/
abbrev Action := ExceptT RunError (Program Call CallReply)

namespace Action

open Program

def ask (c : Call) : Action (CallReply c) := ExceptT.lift (Program.perform c)

/-- `?` on an `io::Result`. -/
def orFail {α : Type} (p : Program Call CallReply (Except IoError α)) : Action α :=
  ExceptT.mk (p >>= fun r => pure (r.mapError .io))

/-- `?` on a `Result` whose error is a `RunError`. -/
def orThrow {α : Type} (p : Program Call CallReply (Except RunError α)) : Action α := ExceptT.mk p

def writeLine (line : String) : Action Unit := orFail (.perform (Call.writeLine line))

def flush : Action Unit := orFail (.perform Call.flush)

/-- A block that owns the guard of the attempt lock: every way out of it drops the guard. -/
def withGuard {α : Type} (body : Action α) : Action α :=
  ExceptT.mk do
    let result ← body.run
    Program.perform Call.unlock
    pure result

section

variable {α τ : Type} {C : Contract Call CallReply τ} {Q : α → τ → Prop} {E : RunError → τ → Prop}
  {t : τ}

theorem wpE_ask {c : Call} {Q : CallReply c → τ → Prop} :
    wpE C (ask c) Q E t ↔ C.permits t c ∧ ∀ r t', C.next t c r t' → Q r t' := by
  rw [ask, wpE_lift, wp_perform]

theorem wpE_orFail {p : Program Call CallReply (Except IoError α)} :
    wpE C (orFail p) Q E t ↔ wp C p (post Q fun err => E (.io err)) t := by
  unfold wpE orFail
  show wp C (p >>= fun r => Program.done (r.mapError .io)) (post Q E) t ↔ _
  rw [wp_bind]
  refine wp_congr fun r t' => ?_
  cases r with
  | ok a => rfl
  | error err => rfl

theorem wpE_withGuard {body : Action α} :
    wpE C (withGuard body) Q E t
      ↔ wpE C body (fun a t' => wp C (perform Call.unlock) (fun _ => Q a) t')
          (fun err t' => wp C (perform Call.unlock) (fun _ => E err) t') t := by
  unfold wpE withGuard
  show wp C (body.run >>= fun result => perform Call.unlock >>= fun _ => .done result) _ t ↔ _
  rw [wp_bind]
  refine wp_congr fun r t' => ?_
  cases r with
  | ok a => rfl
  | error err => rfl

variable {allowed : Call → Prop}

theorem within_ask {c : Call} (hc : allowed c) : WithinE allowed (ask c) := .lift (.perform hc)

theorem within_orFail {p : Program Call CallReply (Except IoError α)} (hp : Within allowed p) :
    WithinE allowed (orFail p) := hp.bind fun r => .done (r.mapError RunError.io)

end

end Action

/-! ## The state directory -/

/-- The files that the rails share. `marker` is `screen_off_by_us`; nothing modelled here reads
`system_sleep_attempted`, which is left out. -/
structure World where
  lock : Option Pid := none
  outcome : Option SystemSleepCycleOutcome := none
  marker : Bool := false
  deriving DecidableEq, Repr

/-- What would be answered to each call. For a call on a file it says only whether the call
fails; what a successful one finds there is up to the file. -/
abbrev Environment := (c : Call) → CallReply c

namespace Environment

/-- Everything works, and the TV is on the configured input. -/
def calm (config : Config) : Environment
  | .sleep _ | .unlock => ()
  | .markerExists => true
  | .tryLock => .ok true
  | .readOutcome => .ok none
  | .writeLine _ | .flush | .writeOutcome _ | .clearOutcome | .markAttempted | .clearAttempt
  | .createMarker | .clearMarker | .waitForNetwork | .waitForRouteTo _ => .ok ()
  | .currentInput _ => .ok (.hdmi config.input)
  | .powerOff _ | .setInput _ _ => .ok ()
  | .wake _ _ => .ok ()
  | .hasStoredAccessToken => .ok true
  | .loadConfig => .ok config
  | .tvClient _ _ => .ok ()

/-- The TV cannot be reached. -/
def unreachable (config : Config) : Environment
  | .currentInput _ => .error ⟨.readInput, .transport, "timed out"⟩
  | .powerOff _ => .error ⟨.powerOff, .transport, "timed out"⟩
  | c => calm config c

end Environment

namespace World

/-- Process `pid` makes call `c`. A failed file operation leaves the file as it was: the outcome
is written to a temporary file that is renamed last. `is_file` reads an error as absence. -/
def answer (env : Environment) (pid : Pid) (w : World) : (c : Call) → CallReply c × World
  | .tryLock =>
    match env .tryLock with
    | .error err => (.error err, w)
    | .ok _ =>
      match w.lock with
      | none => (.ok true, { w with lock := some pid })
      | some _ => (.ok false, w)
  | .unlock => ((), { w with lock := if w.lock = some pid then none else w.lock })
  | .readOutcome =>
    match env .readOutcome with
    | .error err => (.error err, w)
    | .ok _ => (.ok w.outcome, w)
  | .writeOutcome outcome =>
    match env (.writeOutcome outcome) with
    | .error err => (.error err, w)
    | .ok () => (.ok (), { w with outcome := some outcome })
  | .clearOutcome =>
    match env .clearOutcome with
    | .error err => (.error err, w)
    | .ok () => (.ok (), { w with outcome := none })
  | .markerExists => (w.marker && env .markerExists, w)
  | .createMarker =>
    match env .createMarker with
    | .error err => (.error err, w)
    | .ok () => (.ok (), { w with marker := true })
  | .clearMarker =>
    match env .clearMarker with
    | .error err => (.error err, w)
    | .ok () => (.ok (), { w with marker := false })
  | c => (env c, w)

section

variable (env : Environment) (pid : Pid) {w : World} {c : Call}

/-- Only the two lock operations touch the lock. -/
theorem answer_lock_eq (htry : c ≠ .tryLock) (hunlock : c ≠ .unlock) :
    (w.answer env pid c).2.lock = w.lock := by
  cases c with
  | tryLock => exact absurd rfl htry
  | unlock => exact absurd rfl hunlock
  | readOutcome =>
    dsimp only [answer]
    cases env .readOutcome <;> rfl
  | writeOutcome outcome =>
    dsimp only [answer]
    cases env (.writeOutcome outcome) <;> rfl
  | clearOutcome =>
    dsimp only [answer]
    cases env .clearOutcome <;> rfl
  | createMarker =>
    dsimp only [answer]
    cases env .createMarker <;> rfl
  | clearMarker =>
    dsimp only [answer]
    cases env .clearMarker <;> rfl
  | _ => rfl

/-- Only a write and a removal touch the outcome. -/
theorem answer_outcome_eq (hwrite : ∀ outcome, c ≠ .writeOutcome outcome)
    (hclear : c ≠ .clearOutcome) : (w.answer env pid c).2.outcome = w.outcome := by
  cases c with
  | writeOutcome outcome => exact absurd rfl (hwrite outcome)
  | clearOutcome => exact absurd rfl hclear
  | tryLock =>
    dsimp only [answer]
    cases env .tryLock with
    | error err => rfl
    | ok _ => cases w.lock <;> rfl
  | readOutcome =>
    dsimp only [answer]
    cases env .readOutcome <;> rfl
  | createMarker =>
    dsimp only [answer]
    cases env .createMarker <;> rfl
  | clearMarker =>
    dsimp only [answer]
    cases env .clearMarker <;> rfl
  | _ => rfl

theorem answer_readOutcome :
    (∃ err, w.answer env pid .readOutcome = (.error err, w))
      ∨ w.answer env pid .readOutcome = (.ok w.outcome, w) := by
  dsimp only [answer]
  cases env .readOutcome with
  | error err => exact .inl ⟨err, rfl⟩
  | ok _ => exact .inr rfl

/-- A write that fails changes nothing. -/
theorem answer_writeOutcome (outcome : SystemSleepCycleOutcome) :
    (∃ err, w.answer env pid (.writeOutcome outcome) = (.error err, w))
      ∨ w.answer env pid (.writeOutcome outcome) = (.ok (), { w with outcome := some outcome }) := by
  dsimp only [answer]
  cases env (.writeOutcome outcome) with
  | error err => exact .inl ⟨err, rfl⟩
  | ok _ => exact .inr rfl

/-- Only a removal takes the marker away. -/
theorem answer_marker (hclear : c ≠ .clearMarker) (hmarker : w.marker = true) :
    (w.answer env pid c).2.marker = true := by
  cases c with
  | clearMarker => exact absurd rfl hclear
  | tryLock =>
    dsimp only [answer]
    cases env .tryLock with
    | error err => exact hmarker
    | ok _ => cases w.lock <;> exact hmarker
  | readOutcome =>
    dsimp only [answer]
    cases env .readOutcome <;> exact hmarker
  | createMarker =>
    dsimp only [answer]
    cases env .createMarker with
    | error err => exact hmarker
    | ok _ => rfl
  | writeOutcome outcome =>
    dsimp only [answer]
    cases env (.writeOutcome outcome) <;> exact hmarker
  | clearOutcome =>
    dsimp only [answer]
    cases env .clearOutcome <;> exact hmarker
  | _ => exact hmarker

/-- A free lock is taken by `try_lock` alone. -/
theorem answer_lock (hc : c ≠ .tryLock) (hlock : w.lock = none) :
    (w.answer env pid c).2.lock = none := by
  by_cases hunlock : c = .unlock
  · subst hunlock
    show (if w.lock = some pid then none else w.lock) = none
    rw [hlock]
    rfl
  · rw [answer_lock_eq env pid hc hunlock, hlock]

/-- A process alone finds the lock free or its own. -/
theorem answer_lock_own (hlock : w.lock = none ∨ w.lock = some pid) :
    (w.answer env pid c).2.lock = none ∨ (w.answer env pid c).2.lock = some pid := by
  by_cases htry : c = .tryLock
  · subst htry
    dsimp only [answer]
    cases env .tryLock with
    | error err => exact hlock
    | ok _ =>
      cases hlock with
      | inl hfree =>
        rw [hfree]
        exact .inr rfl
      | inr hown =>
        rw [hown]
        exact .inr hown
  · by_cases hunlock : c = .unlock
    · subst hunlock
      cases hlock with
      | inl hfree => exact .inl (answer_lock env pid htry hfree)
      | inr hown => exact .inl (if_pos hown)
    · rw [answer_lock_eq env pid htry hunlock]
      exact hlock

end

/-- A process alone with the files: each of its calls meets the next environment. -/
def serve (pid : Pid) (s : World × (Nat → Environment)) (c : Call) :
    CallReply c × (World × (Nat → Environment)) :=
  let (r, w) := s.1.answer (s.2 0) pid c
  (r, w, fun n => s.2 (n + 1))

end World

end LgBuddy
