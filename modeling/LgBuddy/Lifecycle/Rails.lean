import LgBuddy.Lifecycle.Suspend
import LgBuddy.Machine.Interleaving

/-!
# LgBuddy — the two rails side by side

The logind rail and the NetworkManager rail run in processes of their own, as many as there are
events, and share the files of one sleep cycle. Any of them can die at any moment, and a resume can
remove the cycle outcome at any moment.

* `rails` — the setting: the programs, the files, and the lock of a dead process;
* `CycleWatch` — what has been decided since the outcome was last removed;
* `Entitled` — how a process came to give orders to the TV;
* `owes`, `Undisturbed` — a power-off that still has to be recorded, and runs in which it is.
-/

namespace LgBuddy

open Interleaving Mealy Program

/-! ## The setting -/

inductive Rail where
  | logind (vars : EnvVars) (config : Config) (event : RuntimeEvent)
  | networkManager (vars : EnvVars) (config : Config) (event : RuntimeEvent)
    (phaseReadError : Option String)

/-- A rail as a process: what it returns concerns only its caller. -/
def Rail.program : Rail → Program Call CallReply Unit
  | .logind vars config event => do
    let _ ← (handleSystemSuspendWithOutcome vars config event).run
    pure ()
  | .networkManager vars config event phaseReadError => do
    let _ ← (handleNetworkTeardownWithOutcome vars config event phaseReadError).run
    pure ()

/-- What others do to the shared files: a resume removes the cycle outcome and the marker, and the
marker is also created elsewhere. -/
inductive RailDisturbance where
  | clearOutcome
  | setMarker (present : Bool)
  deriving DecidableEq, Repr

namespace World

/-- The kernel drops the lock of a process that ends. -/
def release (pid : Pid) (w : World) : World :=
  { w with lock := if w.lock = some pid then none else w.lock }

def disturb : RailDisturbance → World → World
  | .clearOutcome, w => { w with outcome := none }
  | .setMarker present, w => { w with marker := present }

end World

def rails : Setting Pid Rail Environment RailDisturbance Call CallReply World where
  program := Rail.program
  answer := World.answer
  bury := World.release
  disturb := World.disturb

abbrev RailInput := Input Pid Rail Environment RailDisturbance

abbrev RailEvent := Event Pid Rail RailDisturbance Call CallReply

/-- No rail is running, and the files are as they were left. -/
def railsAtRest (outcome : Option SystemSleepCycleOutcome) (marker : Bool) :
    State Pid Call CallReply World :=
  .idle { outcome, marker }

/-! ## What is observed -/

/-- The decisions of one cycle. -/
structure CycleWatch where
  /-- `completed` has been stored. -/
  completed : Bool := false
  /-- The power-offs that succeeded. -/
  powerOffs : Nat := 0
  deriving DecidableEq, Repr

def CycleWatch.note (k : CycleWatch) : RailEvent → CycleWatch
  | .disturbed .clearOutcome => {}
  | .called _ ⟨.writeOutcome .completed, .ok ()⟩ => { k with completed := true }
  | .called _ ⟨.powerOff _, .ok ()⟩ => { k with powerOffs := k.powerOffs + 1 }
  | _ => k

/-- The cycle that is going on after these events. -/
def cycleWatch (events : List RailEvent) : CycleWatch := events.foldl CycleWatch.note {}

@[simp] theorem cycleWatch_concat (events : List RailEvent) (event : RailEvent) :
    cycleWatch (events ++ [event]) = (cycleWatch events).note event := by
  simp [cycleWatch]

theorem CycleWatch.note_completed {k : CycleWatch} {pid : Pid} {c : Call} {r : CallReply c}
    (hc : c ≠ .writeOutcome .completed) :
    (k.note (.called pid ⟨c, r⟩)).completed = k.completed := by
  unfold note
  split <;> simp_all

theorem CycleWatch.note_powerOffs {k : CycleWatch} {pid : Pid} {c : Call} {r : CallReply c}
    (hc : ∀ tv, (⟨c, r⟩ : Exchange Call CallReply) ≠ ⟨.powerOff tv, .ok ()⟩) :
    (k.note (.called pid ⟨c, r⟩)).powerOffs = k.powerOffs := by
  unfold note
  split <;> simp_all

/-- The calls of a process end with its work as an owner. It has taken the lock and not given it up
since; it took it at its first try, or right after it had read `retryableTransportFailure`; and it
has read the outcome under the lock and not found `completed`. -/
def Entitled (own : List (Exchange Call CallReply)) : Prop :=
  ∃ before reading outcome after,
    own = before ++ ⟨.tryLock, .ok true⟩ :: (reading ++ ⟨.readOutcome, .ok outcome⟩ :: after)
    ∧ (∀ x ∈ reading ++ after, x.1 ≠ .tryLock ∧ x.1 ≠ .unlock)
    ∧ outcome ≠ some .completed
    ∧ ((∀ x ∈ before, x.1 ≠ .tryLock)
        ∨ before.getLast? = some ⟨.readOutcome, .ok (some .retryableTransportFailure)⟩)

/-- A power-off has succeeded, and no outcome has been stored for it yet. -/
def noteOwes (owes : Bool) : (c : Call) → CallReply c → Bool
  | .powerOff _, .ok () => true
  | .writeOutcome _, _ => false
  | .unlock, _ => false
  | _, _ => owes

def owes (events : List RailEvent) (pid : Pid) : Bool := seen noteOwes false events pid

/-- A process that owes an outcome does not die, its file operations succeed, and nobody else
removes the marker it creates. -/
def Steady (events : List RailEvent) : RailInput → Prop
  | .step pid env => owes events pid = true →
    env .createMarker = .ok () ∧ env .markerExists = true
      ∧ ∀ outcome, env (.writeOutcome outcome) = .ok ()
  | .die pid => owes events pid = false
  | .disturb (.setMarker false) => ∀ pid, owes events pid = false
  | _ => True

/-- Every owner whose power-off succeeded goes on to store its outcome. -/
def Undisturbed (s : State Pid Call CallReply World) (inputs : List RailInput) : Prop :=
  ∀ before i after, inputs = before ++ i :: after → Steady (trace (step rails) s before) i

end LgBuddy
