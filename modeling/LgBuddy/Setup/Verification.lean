import LgBuddy.Setup.Health
import LgBuddy.Setup.Published
import Mathlib.Data.List.Nodup

/-!
# LgBuddy — a status that is adopted was verified

The application's `SetupHealth`, the operations that it has handed out and the daemons that they
talk to, in any interleaving.

* `Execution` — an `AssessmentOperation::execute` that is under way, one call after another;
* `SetupSystem` — all of it, with a clock; `changedAt`, `pausedAt`, `createdAt` and `probedAt` say
  when something happened, and no step depends on them;
* `setupStep` — one step of anyone; `setupRun` — a run;
* `SetupInv` — the invariant;
* `verification_law` — what a run never violates.
-/

namespace LgBuddy

/-! ## The system -/

/-- `probedAt` is the moment at which the probe of the snapshot was started. -/
inductive ExecutionPhase where
  | restarting
  | requesting
  | sending (instanceName : String)
  | reading (requested : Option (String × Nat))
  | finished (result : Except StepFailure AssessmentRead) (probedAt : Nat)

structure Execution where
  operation : AssessmentOperation
  phase : ExecutionPhase
  createdAt : Nat
  completed : Bool := false

/-- After the restart, if there was one. -/
def AssessmentOperation.restarted (operation : AssessmentOperation) : ExecutionPhase :=
  if operation.reassess then .requesting else .reading none

def AssessmentOperation.begun (operation : AssessmentOperation) : ExecutionPhase :=
  if operation.restart then .restarting else operation.restarted

/-- The daemon that is asked is the newest one. -/
structure SetupSystem where
  now : Nat := 1
  health : SetupHealth := {}
  executions : List Execution := []
  daemons : List Daemon := []
  changedAt : Nat := 0
  pausedAt : Nat := 0

inductive SetupSystemStep where
  | request
  | changed
  | retryVerification (restart : Bool)
  | setPaused (paused : Bool)
  | complete (id : Nat)
  /-- The worker has stopped without a result. -/
  | abandon (id : Nat) (failure : StepFailure)
  | proceed (id : Nat)
  | fail (id : Nat) (failure : StepFailure)
  | restart (instanceName config : String)
  | daemon (instanceName : String) (step : DaemonStep)

/-- `setup_transport_failure`, when the daemon could not wake its worker. -/
def channelClosed : StepFailure where
  presentation := ⟨"Setup state could not be read",
    "Retry reading the session service's published setup state."⟩
  diagnostic := "sending on a closed channel"
  recovery := ⟨.temporaryFailure, .sessionService, .retry⟩
  retryable := true

def Execution.isSending (e : Execution) (id : Nat) : Bool :=
  e.operation.id = id && match e.phase with
    | .sending _ => true
    | _ => false

namespace SetupSystem

def handOut (system : SetupSystem) (health : SetupHealth) (operation : Option AssessmentOperation) :
    SetupSystem :=
  { system with
    health
    executions := (operation.map fun operation =>
      { operation, phase := operation.begun, createdAt := system.now }).toList
        ++ system.executions }

def find (system : SetupSystem) (id : Nat) : Option Execution :=
  system.executions.find? fun e => e.operation.id = id

def setPhase (system : SetupSystem) (id : Nat) (phase : ExecutionPhase) : SetupSystem :=
  { system with executions := system.executions.map fun e =>
      if e.operation.id = id then { e with phase } else e }

def setCompleted (system : SetupSystem) (id : Nat) : SetupSystem :=
  { system with executions := system.executions.map fun e =>
      if e.operation.id = id then { e with completed := true } else e }

def update (system : SetupSystem) (instanceName : String) (f : Daemon → Daemon) : SetupSystem :=
  { system with daemons := system.daemons.map fun d =>
      if d.instanceName = instanceName then f d else d }

def complete (system : SetupSystem) (e : Execution) (result : Except StepFailure AssessmentRead) :
    SetupSystem :=
  let (next, health) := system.health.complete system.now e.operation result
  (system.setCompleted e.operation.id).handOut health next.join

/-- The next call of `execute`. A call to a daemon whose mutex is taken has to wait. -/
def proceed (system : SetupSystem) (e : Execution) : SetupSystem :=
  let id := e.operation.id
  match e.phase with
  | .restarting => system.setPhase id e.operation.restarted
  | .requesting =>
    match system.daemons.head? with
    | some d =>
      if d.holder = none then
        (system.update d.instanceName (·.raise system.now (.operation id))).setPhase id
          (.sending d.instanceName)
      else system
    | none => system
  | .sending instanceName =>
    match system.daemons.find? fun d => d.instanceName = instanceName with
    | some d =>
      (system.update instanceName (·.send (.operation id))).setPhase id
        (if d.worker = .stopped then .finished (.error channelClosed) 0
          else .reading (some (instanceName, d.requested)))
    | none => system
  | .reading requested =>
    match system.daemons.head? with
    | some d =>
      if d.holder = none then
        system.setPhase id (.finished (.ok ⟨d.snapshot, requested⟩) d.probedAt)
      else system
    | none => system
  | .finished _ _ => system

def fail (system : SetupSystem) (e : Execution) (failure : StepFailure) : SetupSystem :=
  match e.phase with
  | .finished _ _ => system
  | _ => system.setPhase e.operation.id (.finished (.error failure) 0)

/-- What a daemon does on its own. The request of an operation is made by the operation itself,
unless nobody waits for it any more. -/
def allows (system : SetupSystem) : DaemonStep → Bool
  | .raise (.operation _) => false
  | .send (.operation id) => !system.executions.any fun e => e.isSending id
  | _ => true

/-- One step, with the clock standing still. -/
def act (system : SetupSystem) : SetupSystemStep → SetupSystem
  | .request =>
    let (operation, health) := system.health.request system.now
    system.handOut health operation
  | .changed => { system with health := system.health.changed, changedAt := system.now }
  | .retryVerification restart =>
    { system with health := system.health.retryVerification restart, changedAt := system.now }
  | .setPaused paused =>
    let (operation, health) := system.health.setPaused system.now paused
    { system.handOut health operation with
      pausedAt := if paused then system.now else system.pausedAt }
  | .complete id =>
    match system.find id with
    | some e =>
      match e.phase with
      | .finished result _ => system.complete e result
      | _ => system
    | none => system
  | .abandon id failure =>
    match system.find id with
    | some e => system.complete e (.error failure)
    | none => system
  | .proceed id =>
    match system.find id with
    | some e => system.proceed e
    | none => system
  | .fail id failure =>
    match system.find id with
    | some e => system.fail e failure
    | none => system
  | .restart instanceName config =>
    -- an instance is named after its process and its start
    if system.daemons.any fun d => d.instanceName = instanceName then system
    else { system with daemons := .spawn instanceName config :: system.daemons }
  | .daemon instanceName step =>
    if system.allows step then system.update instanceName (daemonStep system.now · step)
    else system

end SetupSystem

def setupStep (system : SetupSystem) (step : SetupSystemStep) : SetupSystem :=
  { system.act step with now := system.now + 1 }

def setupRun (steps : List SetupSystemStep) : SetupSystem := steps.foldl setupStep {}

/-! ## What the daemons are good for -/

/-- What is read from now on was probed after `since`. -/
def HeadFresh (since : Nat) (daemons : List Daemon) : Prop := ∀ d ∈ daemons.head?, Fresh since d

/-- The same for what is read of a newer daemon, or with the required revision. -/
def Awaited (since : Nat) (required : String × Nat) (daemons : List Daemon) : Prop :=
  ∃ newer d older, daemons = newer ++ d :: older ∧ d.instanceName = required.1
    ∧ FreshFrom since required.2 d ∧ ∀ d' ∈ newer, Fresh since d'

/-- A daemon is about to send the request of an operation. -/
def Held (since id : Nat) (instanceName : String) (daemons : List Daemon) : Prop :=
  ∃ newer d older, daemons = newer ++ d :: older ∧ d.instanceName = instanceName
    ∧ FreshFrom since d.requested d ∧ d.holder = some (.operation id) ∧ ∀ d' ∈ newer, Fresh since d'

/-- The verification that is needed is under way or done. -/
def Caught (since : Nat) (daemons : List Daemon) : Option (String × Nat) → Prop
  | none => HeadFresh since daemons
  | some required => Awaited since required daemons

section

variable {now since : Nat} {daemons : List Daemon} {required : String × Nat}

/-- **What counts as verified is fresh.** -/
theorem Caught.fresh {required : Option (String × Nat)} {d : Daemon}
    (h : Caught since daemons required) (hhead : daemons.head? = some d) (hinv : DaemonInv now d)
    (hverified : SetupHealth.verifiedBy required d.snapshot = true) : Fresh since d := by
  cases required with
  | none => exact h d hhead
  | some required =>
    obtain ⟨newer, d', older, rfl, hname, hfrom, hnewer⟩ := h
    cases newer with
    | cons first rest =>
      cases hhead
      exact hnewer d List.mem_cons_self
    | nil =>
      cases hhead
      refine hfrom.fresh ?_
      simp only [SetupHealth.verifiedBy, Option.all_some, hinv.name, hname] at hverified
      simpa using hverified

section

variable {g : Daemon → Daemon} (hmove : ∀ d ∈ daemons, DaemonMove now d (g d))
  (hinv : ∀ d ∈ daemons, DaemonInv now d) (hnow : since < now)

include hmove hinv hnow

/-- Moves of the daemons keep the newest fresh. -/
theorem HeadFresh.map (h : HeadFresh since daemons) : HeadFresh since (daemons.map g) := by
  intro d' hd'
  rw [List.head?_map] at hd'
  obtain ⟨d, hd, rfl⟩ := Option.map_eq_some_iff.mp hd'
  have hmem : d ∈ daemons := List.mem_of_mem_head? hd
  exact (h d hd).move (hinv d hmem) hnow (hmove d hmem)

/-- What is awaited of one of the daemons is still awaited after each has moved. -/
theorem Awaited.map (h : Awaited since required daemons) :
    Awaited since required (daemons.map g) := by
  obtain ⟨newer, d, older, rfl, hname, hfrom, hnewer⟩ := h
  have hmem : d ∈ newer ++ d :: older := List.mem_append_right _ List.mem_cons_self
  refine ⟨newer.map g, g d, older.map g, by simp, ?_, hfrom.move hnow (hmove d hmem), ?_⟩
  · rw [(hmove d hmem).instanceName, hname]
  · intro d' hd'
    obtain ⟨e, he, rfl⟩ := List.mem_map.mp hd'
    have hmem' : e ∈ newer ++ d :: older := List.mem_append_left _ he
    exact (hnewer e he).move (hinv e hmem') hnow (hmove e hmem')

/-- A change once caught stays caught. -/
theorem Caught.map {required : Option (String × Nat)} (h : Caught since daemons required) :
    Caught since (daemons.map g) required := by
  cases required with
  | none => exact HeadFresh.map hmove hinv hnow h
  | some required => exact Awaited.map hmove hinv hnow h

/-- The request is sent by no one else. -/
theorem Held.map {id : Nat} {instanceName : String} (h : Held since id instanceName daemons)
    (hheld : ∀ d ∈ daemons, d.holder = some (.operation id) →
      (g d).holder = some (.operation id) ∧ (g d).requested = d.requested) :
    Held since id instanceName (daemons.map g) := by
  obtain ⟨newer, d, older, rfl, hname, hfrom, hholder, hnewer⟩ := h
  have hmem : d ∈ newer ++ d :: older := List.mem_append_right _ List.mem_cons_self
  obtain ⟨hholder', hrequested⟩ := hheld d hmem hholder
  refine ⟨newer.map g, g d, older.map g, by simp, ?_, ?_, hholder', ?_⟩
  · rw [(hmove d hmem).instanceName, hname]
  · rw [hrequested]
    exact hfrom.move hnow (hmove d hmem)
  · intro d' hd'
    obtain ⟨e, he, rfl⟩ := List.mem_map.mp hd'
    have hmem' : e ∈ newer ++ d :: older := List.mem_append_left _ he
    exact (hnewer e he).move (hinv e hmem') hnow (hmove e hmem')

end

/-! ### A daemon is started -/

variable {d : Daemon} (hfresh : Fresh since d)

include hfresh

/-- A new daemon is fresh by itself. -/
theorem HeadFresh.cons : HeadFresh since (d :: daemons) := by
  intro d' hd'
  cases hd'
  exact hfresh

/-- A new daemon stands before those from which something is awaited. -/
theorem Awaited.cons (h : Awaited since required daemons) : Awaited since required (d :: daemons) := by
  obtain ⟨newer, d', older, rfl, hname, hfrom, hnewer⟩ := h
  exact ⟨d :: newer, d', older, rfl, hname, hfrom, List.forall_mem_cons.mpr ⟨hfresh, hnewer⟩⟩

/-- A new daemon catches the change as well. -/
theorem Caught.cons {required : Option (String × Nat)} (h : Caught since daemons required) :
    Caught since (d :: daemons) required := by
  cases required with
  | none => exact HeadFresh.cons hfresh
  | some required => exact Awaited.cons hfresh h

/-- A gate that is held stays held when a daemon is started. -/
theorem Held.cons {id : Nat} {instanceName : String} (h : Held since id instanceName daemons) :
    Held since id instanceName (d :: daemons) := by
  obtain ⟨newer, d', older, rfl, hname, hfrom, hholder, hnewer⟩ := h
  exact ⟨d :: newer, d', older, rfl, hname, hfrom, hholder,
    List.forall_mem_cons.mpr ⟨hfresh, hnewer⟩⟩

end

/-! ## The invariant -/

/-- The request that had to be made was made. -/
structure Asked (since : Nat) (daemons : List Daemon) (operation : AssessmentOperation)
    (requested : Option (String × Nat)) : Prop where
  reassess : requested = none → operation.reassess = false
  awaited : ∀ required ∈ requested, Awaited since required daemons

/-- What is known of a read, when it is not rejected. -/
def PhaseInv (since : Nat) (required : Option (String × Nat)) (daemons : List Daemon)
    (operation : AssessmentOperation) : ExecutionPhase → Prop
  | .restarting | .requesting | .finished (.error _) _ => True
  | .sending instanceName => Held since operation.id instanceName daemons
  | .reading requested => Asked since daemons operation requested
  | .finished (.ok read) probedAt => Asked since daemons operation read.requested
    ∧ (SetupHealth.verifiedBy (read.requested.or required) read.snapshot = true →
      (read.snapshot.status ≠ .unchecked → since < probedAt) ∧ HeadFresh since daemons)

/-- A phase keeps its invariant if what it speaks of is kept. -/
theorem PhaseInv.imp {since : Nat} {required : Option (String × Nat)}
    {daemons daemons' : List Daemon} {operation : AssessmentOperation} {phase : ExecutionPhase}
    (h : PhaseInv since required daemons operation phase)
    (hheld : ∀ instanceName, phase = .sending instanceName →
      Held since operation.id instanceName daemons → Held since operation.id instanceName daemons')
    (hawaited : ∀ required, Awaited since required daemons → Awaited since required daemons')
    (hsettled : HeadFresh since daemons → HeadFresh since daemons') :
    PhaseInv since required daemons' operation phase := by
  cases phase with
  | restarting => trivial
  | requesting => trivial
  | sending instanceName => exact hheld instanceName rfl h
  | reading requested =>
    exact ⟨h.reassess, fun required hrequired => hawaited required (h.awaited required hrequired)⟩
  | finished result probedAt =>
    cases result with
    | error failure => trivial
    | ok read =>
      obtain ⟨hasked, hverified⟩ := h
      refine ⟨⟨hasked.reassess, fun required hrequired => ?_⟩, fun hread => ?_⟩
      · exact hawaited required (hasked.awaited required hrequired)
      · exact ⟨(hverified hread).1, hsettled (hverified hread).2⟩

/-- It was handed out after the last change and the last pause. -/
structure ExecutionInv (system : SetupSystem) (e : Execution) : Prop where
  changed : system.changedAt < e.createdAt
  unpaused : system.pausedAt < e.createdAt
  reassess : e.operation.reassess = system.health.verificationNeeded
  phase : PhaseInv system.changedAt system.health.required system.daemons e.operation e.phase

structure SetupInv (now : Nat) (system : SetupSystem) : Prop where
  daemons : ∀ d ∈ system.daemons, DaemonInv now d
  names : (system.daemons.map (·.instanceName)).Nodup
  changedAt : system.changedAt < now
  pausedAt : system.pausedAt < now
  ids : (system.executions.map (·.operation.id)).Nodup
  next : ∀ e ∈ system.executions, e.operation.id ≤ system.health.next
  inFlight : ∀ e ∈ system.executions, e.completed = false →
    system.health.running = some e.operation
  caught : system.health.verificationNeeded = false →
    Caught system.changedAt system.daemons system.health.required
  current : ∀ e ∈ system.executions, system.health.running = some e.operation →
    system.health.stale = false → ExecutionInv system e

/-- Time may pass. -/
theorem SetupInv.mono {now now' : Nat} {system : SetupSystem} (h : SetupInv now system)
    (hle : now ≤ now') : SetupInv now' system :=
  { h with
    daemons := fun d hd => (h.daemons d hd).mono hle
    changedAt := Nat.lt_of_lt_of_le h.changedAt hle
    pausedAt := Nat.lt_of_lt_of_le h.pausedAt hle }

/-- An operation that need not reassess goes on to read. -/
theorem AssessmentOperation.restarted_inv (operation : AssessmentOperation) (since : Nat)
    (required : Option (String × Nat)) (daemons : List Daemon) :
    PhaseInv since required daemons operation operation.restarted := by
  unfold AssessmentOperation.restarted
  split
  · trivial
  · rename_i hreassess
    exact ⟨fun _ => by simpa using hreassess, nofun⟩

/-- Whatever an operation begins with, its first phase knows nothing yet. -/
theorem AssessmentOperation.begun_inv (operation : AssessmentOperation) (since : Nat)
    (required : Option (String × Nat)) (daemons : List Daemon) :
    PhaseInv since required daemons operation operation.begun := by
  unfold AssessmentOperation.begun
  split
  · trivial
  · exact operation.restarted_inv since required daemons

/-! ### The application -/

section

variable {now : Nat} {system : SetupSystem}

/-- **An operation is handed out.** -/
theorem SetupInv.handOut (h : SetupInv system.now system) (hidle : system.health.running = none) :
    SetupInv system.now
      (system.handOut (system.health.started system.now) (some system.health.operation)) := by
  refine { h with
    ids := ?_, next := ?_, inFlight := ?_, current := ?_ }
  · refine List.nodup_cons.mpr ⟨fun hmem => ?_, h.ids⟩
    obtain ⟨e, he, hid⟩ := List.mem_map.mp hmem
    have hle := h.next e he
    rw [hid] at hle
    exact absurd hle (Nat.not_succ_le_self _)
  · refine List.forall_mem_cons.mpr ⟨Nat.le_refl _, fun e he => Nat.le_succ_of_le (h.next e he)⟩
  · refine List.forall_mem_cons.mpr ⟨fun _ => rfl, fun e he hopen => ?_⟩
    have hrunning := h.inFlight e he hopen
    rw [hidle] at hrunning
    cases hrunning
  · refine List.forall_mem_cons.mpr ⟨fun _ _ => ?_, fun e he hrunning _ => ?_⟩
    · exact ⟨h.changedAt, h.pausedAt, rfl, AssessmentOperation.begun_inv _ _ _ _⟩
    · -- the operations that are there have other numbers
      have hid : system.health.operation = e.operation := Option.some.inj hrunning
      have hle := h.next e he
      rw [← hid] at hle
      exact absurd hle (Nat.not_succ_le_self _)

/-- A request hands out at most one operation at a time. -/
theorem SetupInv.request (h : SetupInv system.now system) :
    SetupInv system.now (system.handOut (system.health.request system.now).2
      (system.health.request system.now).1) := by
  unfold SetupHealth.request
  split
  · exact h
  · split
    · exact h
    · rename_i hrunning
      exact h.handOut (by simpa using hrunning)

/-- What the application does to its own state, when it rejects what is in flight. -/
theorem SetupInv.changed (h : SetupInv now system) {health : SetupHealth} {changedAt : Nat}
    (hchangedAt : changedAt < now) (hnext : health.next = system.health.next)
    (hrunning : health.running = system.health.running) (hstale : health.stale = true)
    (hneeded : health.verificationNeeded = true) :
    SetupInv now { system with health, changedAt } := by
  refine { h with
    changedAt := hchangedAt, next := ?_, inFlight := ?_, caught := ?_, current := ?_ }
  · exact fun e he => hnext.symm ▸ h.next e he
  · exact fun e he hopen => hrunning.trans (h.inFlight e he hopen)
  · exact fun hnone => absurd (hneeded.symm.trans hnone) nofun
  · exact fun e he _ hfresh => absurd (hstale.symm.trans hfresh) nofun

/-- A pause makes what runs stale. -/
theorem SetupInv.paused (h : SetupInv now system) {pausedAt : Nat} (hpausedAt : pausedAt < now) :
    SetupInv now { system with
      health := { system.health with paused := true, stale := true }
      pausedAt } :=
  { h with pausedAt := hpausedAt, current := fun _ _ _ hfresh => by cases hfresh }

/-- Executions that were changed are still of the same operations. -/
theorem ids_map {executions : List Execution} {f : Execution → Execution}
    (hf : ∀ e, (f e).operation = e.operation) :
    (executions.map f).map (·.operation.id) = executions.map (·.operation.id) := by
  rw [List.map_map]
  exact List.map_congr_left fun e _ => congrArg AssessmentOperation.id (hf e)

/-- The operation that is waited for is completed, and nothing is in flight. -/
theorem SetupInv.released (h : SetupInv now system) {e : Execution}
    (hrunning : system.health.running = some e.operation) :
    SetupInv now { system.setCompleted e.operation.id with
      health := { system.health with running := none } } := by
  have hsame : ∀ e' : Execution, (if e'.operation.id = e.operation.id then
      { e' with completed := true } else e').operation = e'.operation := by
    intro e'
    split <;> rfl
  refine { h with ids := ?_, next := ?_, inFlight := ?_, current := fun _ _ hnone => by cases hnone }
  · exact (ids_map hsame).symm ▸ h.ids
  · intro e' he'
    obtain ⟨e'', he'', rfl⟩ := List.mem_map.mp he'
    rw [hsame]
    exact h.next e'' he''
  · intro e' he' hopen
    obtain ⟨e'', he'', rfl⟩ := List.mem_map.mp he'
    split at hopen
    · cases hopen
    · rename_i hother
      have hsome := h.inFlight e'' he'' hopen
      rw [hrunning] at hsome
      exact absurd (congrArg AssessmentOperation.id (Option.some.inj hsome).symm) hother

/-- Something happens to executions. -/
theorem SetupInv.mapExecutions (h : SetupInv now system) {f : Execution → Execution}
    (hoperation : ∀ e, (f e).operation = e.operation)
    (hcreated : ∀ e, (f e).createdAt = e.createdAt)
    (hopen : ∀ e, (f e).completed = false → e.completed = false)
    (hphase : ∀ e ∈ system.executions, system.health.running = some e.operation →
      ExecutionInv system e →
      PhaseInv system.changedAt system.health.required system.daemons e.operation (f e).phase) :
    SetupInv now { system with executions := system.executions.map f } := by
  refine { h with ids := ?_, next := ?_, inFlight := ?_, current := ?_ }
  · exact (ids_map hoperation).symm ▸ h.ids
  · intro e' he'
    obtain ⟨e, he, rfl⟩ := List.mem_map.mp he'
    rw [hoperation]
    exact h.next e he
  · intro e' he' hstill
    obtain ⟨e, he, rfl⟩ := List.mem_map.mp he'
    rw [hoperation]
    exact h.inFlight e he (hopen e hstill)
  · intro e' he' hrunning hstale
    obtain ⟨e, he, rfl⟩ := List.mem_map.mp he'
    rw [hoperation] at hrunning
    have hcurrent := h.current e he hrunning hstale
    refine ⟨?_, ?_, ?_, ?_⟩
    · rw [hcreated]
      exact hcurrent.changed
    · rw [hcreated]
      exact hcurrent.unpaused
    · rw [hoperation]
      exact hcurrent.reassess
    · rw [hoperation]
      exact hphase e he hrunning hcurrent

/-- A completed operation is not in flight any more. -/
theorem SetupInv.setCompleted (h : SetupInv now system) (id : Nat) :
    SetupInv now (system.setCompleted id) := by
  refine h.mapExecutions ?_ ?_ ?_ ?_
  · intro e
    split <;> rfl
  · intro e
    split <;> rfl
  · intro e hopen
    split at hopen
    · cases hopen
    · exact hopen
  · intro e he _ hcurrent
    split <;> exact hcurrent.phase

/-- A new phase has to keep its own invariant. -/
theorem SetupInv.setPhase (h : SetupInv now system) {id : Nat} {phase : ExecutionPhase}
    (hphase : ∀ e ∈ system.executions, e.operation.id = id → ExecutionInv system e →
      PhaseInv system.changedAt system.health.required system.daemons e.operation phase) :
    SetupInv now (system.setPhase id phase) := by
  refine h.mapExecutions ?_ ?_ ?_ ?_
  · intro e
    split <;> rfl
  · intro e
    split <;> rfl
  · intro e hopen
    split at hopen <;> exact hopen
  · intro e he _ hcurrent
    split
    · exact hphase e he ‹_› hcurrent
    · exact hcurrent.phase

/-- What an operation has asked for is what is required from then on. -/
theorem SetupHealth.awaiting_required (health : SetupHealth) (read : AssessmentRead) :
    (health.awaiting read).required = read.requested.or health.required := by
  unfold SetupHealth.awaiting
  cases read.requested with
  | none => rfl
  | some required => rfl

/-- What does not change when a read is taken over. -/
theorem SetupHealth.settle_same (health : SetupHealth) (result : Except StepFailure AssessmentRead) :
    (health.settle result).running = health.running
      ∧ (health.settle result).next = health.next := by
  cases result with
  | error failure => exact ⟨rfl, rfl⟩
  | ok read =>
    have hawaiting : (health.awaiting read).running = health.running
        ∧ (health.awaiting read).next = health.next := by
      unfold SetupHealth.awaiting
      cases read.requested with
      | none => exact ⟨rfl, rfl⟩
      | some required => exact ⟨rfl, rfl⟩
    show ((health.awaiting read).adopt read.snapshot).running = _
      ∧ ((health.awaiting read).adopt read.snapshot).next = _
    unfold SetupHealth.adopt
    split
    · exact hawaiting
    · exact hawaiting

/-- A read that was not rejected brings the verification forward. -/
theorem Caught.settle {since probedAt : Nat} {daemons : List Daemon} {health : SetupHealth}
    {operation : AssessmentOperation} {read : AssessmentRead}
    (h : health.verificationNeeded = false → Caught since daemons health.required)
    (hphase : PhaseInv since health.required daemons operation (.finished (.ok read) probedAt))
    (hneeded : (health.settle (.ok read)).verificationNeeded = false) :
    Caught since daemons (health.settle (.ok read)).required := by
  obtain ⟨hasked, hverified⟩ := hphase
  simp only [SetupHealth.settle, SetupHealth.adopt] at hneeded ⊢
  split
  · rename_i hadopts
    simp only [SetupHealth.adopts, SetupHealth.awaiting_required, Bool.and_eq_true] at hadopts
    exact (hverified hadopts.1.2).2
  · rename_i hadopts
    rw [if_neg hadopts] at hneeded
    rw [SetupHealth.awaiting_required]
    cases hrequested : read.requested with
    | some required => exact hasked.awaited required hrequested
    | none =>
      rw [SetupHealth.awaiting, hrequested] at hneeded
      exact h hneeded

/-- **The read that is waited for is completed.** -/
theorem SetupInv.settled (h : SetupInv now system) {e : Execution} (he : e ∈ system.executions)
    (hrunning : system.health.running = some e.operation) (hstale : system.health.stale = false)
    {result : Except StepFailure AssessmentRead}
    (hresult : ∀ read, result = .ok read → ∃ probedAt, e.phase = .finished (.ok read) probedAt) :
    SetupInv now { system.setCompleted e.operation.id with
      health := SetupHealth.settle { system.health with running := none } result } := by
  have hreleased := h.released hrunning
  obtain ⟨hnone, hnext⟩ := SetupHealth.settle_same { system.health with running := none } result
  refine { hreleased with next := ?_, inFlight := ?_, caught := ?_, current := ?_ }
  · intro e' he'
    rw [hnext]
    exact hreleased.next e' he'
  · intro e' he' hopen
    rw [hnone]
    exact hreleased.inFlight e' he' hopen
  · intro hneeded
    cases result with
    | error failure => exact h.caught hneeded
    | ok read =>
      obtain ⟨probedAt, hphase⟩ := hresult read rfl
      have hknown := (h.current e he hrunning hstale).phase
      rw [hphase] at hknown
      exact Caught.settle h.caught hknown hneeded
  · intro e' _ hsome
    rw [hnone] at hsome
    cases hsome

/-- **Completion**, with a result of the execution or without any. -/
theorem SetupInv.complete (h : SetupInv system.now system) {e : Execution}
    (he : e ∈ system.executions) {result : Except StepFailure AssessmentRead}
    (hresult : ∀ read, result = .ok read → ∃ probedAt, e.phase = .finished (.ok read) probedAt) :
    SetupInv system.now (system.complete e result) := by
  show SetupInv _ ((system.setCompleted _).handOut
    (system.health.complete system.now e.operation result).2
    (system.health.complete system.now e.operation result).1.join)
  unfold SetupHealth.complete
  split
  · exact h.setCompleted e.operation.id
  · rename_i hrunning
    rw [ne_eq, not_not] at hrunning
    split
    · exact @SetupInv.request { system.setCompleted e.operation.id with
        health := { system.health with running := none } } (h.released hrunning)
    · rename_i hfresh
      have hstale : system.health.stale = false := by
        cases hstale : system.health.stale with
        | false => rfl
        | true => simp [hstale] at hfresh
      exact h.settled he hrunning hstale hresult

/-! ### The daemons -/

/-- **The daemons go on.** -/
theorem SetupInv.mapDaemons (h : SetupInv now system) {g : Daemon → Daemon}
    (hmove : ∀ d ∈ system.daemons, DaemonMove now d (g d))
    (hheld : ∀ e ∈ system.executions, ∀ instanceName, e.phase = .sending instanceName →
      ∀ d ∈ system.daemons, d.holder = some (.operation e.operation.id) →
        (g d).holder = some (.operation e.operation.id) ∧ (g d).requested = d.requested) :
    SetupInv (now + 1) { system with daemons := system.daemons.map g } := by
  have hlater := h.mono (Nat.le_succ now)
  refine { hlater with daemons := ?_, names := ?_, caught := ?_, current := ?_ }
  · intro d' hd'
    obtain ⟨d, hd, rfl⟩ := List.mem_map.mp hd'
    exact (h.daemons d hd).move (hmove d hd)
  · have hsame : (system.daemons.map g).map (·.instanceName)
        = system.daemons.map (·.instanceName) := by
      rw [List.map_map]
      exact List.map_congr_left fun d hd => (hmove d hd).instanceName
    exact hsame.symm ▸ h.names
  · exact fun hneeded => Caught.map hmove h.daemons h.changedAt (h.caught hneeded)
  · intro e he hrunning hstale
    have hcurrent := h.current e he hrunning hstale
    refine { hcurrent with phase := hcurrent.phase.imp ?_ ?_ ?_ }
    · exact fun instanceName hphase hrequest =>
        Held.map hmove h.daemons h.changedAt hrequest (hheld e he instanceName hphase)
    · exact fun required => Awaited.map hmove h.daemons h.changedAt
    · exact HeadFresh.map hmove h.daemons h.changedAt

/-- A daemon may be started at any time, under a new name. -/
theorem SetupInv.restart (h : SetupInv now system) {instanceName : String} (config : String)
    (hfresh : ∀ d ∈ system.daemons, d.instanceName ≠ instanceName) :
    SetupInv now { system with daemons := .spawn instanceName config :: system.daemons } := by
  have hspawned := Fresh.spawn system.changedAt instanceName config
  refine { h with daemons := ?_, names := ?_, caught := ?_, current := ?_ }
  · exact List.forall_mem_cons.mpr ⟨.spawn now instanceName config, h.daemons⟩
  · refine List.nodup_cons.mpr ⟨fun hmem => ?_, h.names⟩
    obtain ⟨d, hd, hname⟩ := List.mem_map.mp hmem
    exact hfresh d hd hname
  · exact fun hneeded => Caught.cons hspawned (h.caught hneeded)
  · intro e he hrunning hstale
    have hcurrent := h.current e he hrunning hstale
    refine { hcurrent with phase := hcurrent.phase.imp ?_ ?_ ?_ }
    · exact fun _ _ => Held.cons hspawned
    · exact fun _ => Awaited.cons hspawned
    · exact fun _ => HeadFresh.cons hspawned

/-- One daemon goes on. -/
theorem SetupInv.update (h : SetupInv now system) (instanceName : String) (step : DaemonStep)
    (hstep : ∀ e ∈ system.executions, ∀ sender, e.phase = .sending sender →
      step ≠ .send (.operation e.operation.id)) :
    SetupInv (now + 1) (system.update instanceName (daemonStep now · step)) := by
  refine h.mapDaemons ?_ ?_
  · intro d _
    split
    · exact daemonStep_move now d step
    · exact .none
  · intro e he sender hphase d _ hholder
    split
    · exact daemonStep_held hholder (hstep e he sender hphase)
    · exact ⟨hholder, rfl⟩

/-- A name belongs to one daemon. -/
theorem SetupInv.daemon_unique (h : SetupInv now system) {d d' : Daemon} (hd : d ∈ system.daemons)
    (hd' : d' ∈ system.daemons) (hname : d.instanceName = d'.instanceName) : d = d' :=
  List.inj_on_of_nodup_map h.names hd hd' hname

/-! ### An execution -/

/-- The newest daemon's gate is taken, with a request of its own. -/
theorem SetupInv.proceed_requesting (h : SetupInv system.now system) {id : Nat} {d : Daemon}
    (hhead : system.daemons.head? = some d) (hholder : d.holder = none) :
    SetupInv (system.now + 1)
      ((system.update d.instanceName (·.raise system.now (.operation id))).setPhase id
        (.sending d.instanceName)) := by
  refine (h.update d.instanceName (.raise (.operation id))
    fun _ _ _ _ hsend => by cases hsend).setPhase ?_
  intro e _ hid _
  have hd : d ∈ system.daemons := List.mem_of_mem_head? hhead
  have hfrom : FreshFrom system.changedAt (d.raise system.now (.operation id)).requested
      (d.raise system.now (.operation id)) := by
    have hraised : FreshFrom system.changedAt _ _ :=
      (h.daemons d hd).freshFrom (.operation id) hholder
    rw [Daemon.raise, if_pos hholder] at hraised ⊢
    exact hraised
  cases hdaemons : system.daemons with
  | nil =>
    rw [hdaemons] at hhead
    cases hhead
  | cons first older =>
    rw [hdaemons] at hhead
    cases hhead
    refine ⟨[], d.raise system.now (.operation id), older.map fun d' =>
      if d'.instanceName = d.instanceName then d'.raise system.now (.operation id) else d',
      ?_, ?_, hfrom, ?_, List.forall_mem_nil _⟩
    · show system.daemons.map _ = _
      rw [hdaemons, List.map_cons, if_pos rfl]
      rfl
    · rw [Daemon.raise, if_pos hholder]
    · rw [Daemon.raise, if_pos hholder, hid]

/-- The request is sent to the worker, or its channel is closed. -/
theorem SetupInv.proceed_sending (h : SetupInv system.now system) {id : Nat}
    {instanceName : String} {d : Daemon} (hd : d ∈ system.daemons)
    (hname : d.instanceName = instanceName)
    (hphase : ∀ e ∈ system.executions, e.operation.id = id → e.phase = .sending instanceName) :
    SetupInv (system.now + 1)
      ((system.update instanceName (·.send (.operation id))).setPhase id
        (if d.worker = .stopped then .finished (.error channelClosed) 0
          else .reading (some (instanceName, d.requested)))) := by
  -- the phase first: then nobody else sends for this operation
  have hnext : SetupInv system.now (system.setPhase id
      (if d.worker = .stopped then .finished (.error channelClosed) 0
        else .reading (some (instanceName, d.requested)))) := by
    refine h.setPhase fun e he hid hcurrent => ?_
    split
    · trivial
    · have hheld := hcurrent.phase
      rw [hphase e he hid] at hheld
      obtain ⟨newer, d', older, hdaemons, hname', hfrom, -, hnewer⟩ := hheld
      have hd' : d' ∈ system.daemons := by
        rw [hdaemons]
        exact List.mem_append_right _ List.mem_cons_self
      have hsame : d' = d := h.daemon_unique hd' hd (hname'.trans hname.symm)
      subst hsame
      refine ⟨nofun, fun required hrequired => ?_⟩
      cases hrequired
      exact ⟨newer, d', older, hdaemons, hname, hfrom, hnewer⟩
  refine hnext.update instanceName (.send (.operation id)) ?_
  intro e' he' sender hsending hsend
  obtain ⟨e, he, rfl⟩ := List.mem_map.mp he'
  by_cases hid : e.operation.id = id
  · rw [if_pos hid] at hsending
    split at hsending <;> cases hsending
  · rw [if_neg hid] at hsend
    cases hsend
    exact hid rfl

/-- What is read is verified only if it is fresh. -/
theorem SetupInv.proceed_reading (h : SetupInv system.now system) {id : Nat}
    {requested : Option (String × Nat)} {d : Daemon} (hhead : system.daemons.head? = some d)
    (hphase : ∀ e ∈ system.executions, e.operation.id = id → e.phase = .reading requested) :
    SetupInv system.now
      (system.setPhase id (.finished (.ok ⟨d.snapshot, requested⟩) d.probedAt)) := by
  refine h.setPhase fun e he hid hcurrent => ?_
  have hasked : Asked system.changedAt system.daemons e.operation requested := by
    have hknown := hcurrent.phase
    rw [hphase e he hid] at hknown
    exact hknown
  have hd := h.daemons d (List.mem_of_mem_head? hhead)
  refine ⟨hasked, fun hverified => ?_⟩
  -- required by this very operation, or caught before it began
  have hcaught : Caught system.changedAt system.daemons (requested.or system.health.required) := by
    cases requested with
    | some required => exact hasked.awaited required rfl
    | none => exact h.caught (hcurrent.reassess.symm.trans (hasked.reassess rfl))
  have hfresh := hcaught.fresh hhead hd hverified
  refine ⟨hfresh.snapshot, fun d' hd' => ?_⟩
  rw [hhead] at hd'
  cases hd'
  exact hfresh

/-- Its operation has no other execution. -/
theorem SetupInv.execution_unique (h : SetupInv now system) {id : Nat} {e : Execution}
    (hfind : system.find id = some e) : e ∈ system.executions ∧ e.operation.id = id
      ∧ ∀ e' ∈ system.executions, e'.operation.id = id → e' = e := by
  have he : e ∈ system.executions := List.mem_of_find?_eq_some hfind
  have hid : e.operation.id = id := by simpa using List.find?_some hfind
  refine ⟨he, hid, fun e' he' hid' => ?_⟩
  exact List.inj_on_of_nodup_map h.ids he' he (hid'.trans hid.symm)

/-- **Proceed.** An operation goes on by one phase. -/
theorem SetupInv.proceed (h : SetupInv system.now system) {id : Nat} {e : Execution}
    (hfind : system.find id = some e) : SetupInv (system.now + 1) (system.proceed e) := by
  have hlater := h.mono (Nat.le_succ system.now)
  obtain ⟨he, rfl, hunique⟩ := h.execution_unique hfind
  unfold SetupSystem.proceed
  split
  · -- restarting
    refine hlater.setPhase fun e' he' hid _ => ?_
    rw [hunique e' he' hid]
    exact e.operation.restarted_inv _ _ _
  · -- requesting
    split
    · split
      · exact h.proceed_requesting ‹_› ‹_›
      · exact hlater
    · exact hlater
  · -- sending
    rename_i instanceName hphase
    split
    · rename_i d hd
      have hname : d.instanceName = instanceName := by simpa using List.find?_some hd
      refine h.proceed_sending (List.mem_of_find?_eq_some hd) hname fun e' he' hid => ?_
      rw [hunique e' he' hid, hphase]
    · exact hlater
  · -- reading
    rename_i requested hphase
    split
    · rename_i d hhead
      split
      · refine (h.proceed_reading hhead fun e' he' hid => ?_).mono (Nat.le_succ system.now)
        rw [hunique e' he' hid, hphase]
      · exact hlater
    · exact hlater
  · exact hlater

/-- **One step** of anyone. -/
theorem SetupInv.act (h : SetupInv system.now system) (step : SetupSystemStep) :
    SetupInv (system.now + 1) (system.act step) := by
  have hle := Nat.le_succ system.now
  cases step with
  | request => exact h.request.mono hle
  | changed =>
    exact (h.mono hle).changed (Nat.lt_succ_self _) rfl rfl rfl rfl
  | retryVerification restart =>
    exact (h.mono hle).changed (Nat.lt_succ_self _) rfl rfl rfl rfl
  | setPaused paused =>
    cases paused with
    | true => exact (h.mono hle).paused (Nat.lt_succ_self _)
    | false =>
      -- resuming changes nothing but the pause, and may hand out what waited
      have hgoing : SetupInv system.now
          { system with health := { system.health with paused := false } } :=
        { h with current := fun e he hrunning hstale => { h.current e he hrunning hstale with } }
      show SetupInv _ (system.handOut (system.health.setPaused system.now false).2
        (system.health.setPaused system.now false).1)
      unfold SetupHealth.setPaused
      rw [if_neg Bool.false_ne_true]
      split
      · exact (@SetupInv.request { system with health := { system.health with paused := false } }
          hgoing).mono hle
      · exact hgoing.mono hle
  -- a completion counts only for an execution that has its result
  | complete id =>
    rw [SetupSystem.act]
    split
    · rename_i e hfind
      split
      · rename_i result probedAt hphase
        refine (h.complete (h.execution_unique hfind).1 fun read hread => ?_).mono hle
        exact ⟨probedAt, hread ▸ hphase⟩
      · exact h.mono hle
    · exact h.mono hle
  | abandon id failure =>
    rw [SetupSystem.act]
    split
    · rename_i e hfind
      exact (h.complete (h.execution_unique hfind).1 fun _ hread => by cases hread).mono hle
    · exact h.mono hle
  | proceed id =>
    rw [SetupSystem.act]
    split
    · exact h.proceed ‹_›
    · exact h.mono hle
  | fail id failure =>
    rw [SetupSystem.act]
    split
    · unfold SetupSystem.fail
      split
      · exact h.mono hle
      · exact (h.mono hle).setPhase fun _ _ _ _ => trivial
    · exact h.mono hle
  -- a name already taken is not started again
  | restart instanceName config =>
    rw [SetupSystem.act]
    split
    · exact h.mono hle
    · rename_i hnew
      refine (h.mono hle).restart config fun d hd hname => hnew ?_
      exact List.any_eq_true.mpr ⟨d, hd, by simpa using hname⟩
  | daemon instanceName step =>
    rw [SetupSystem.act]
    split
    · rename_i hallows
      refine h.update instanceName step fun e he sender hphase hstep => ?_
      rw [hstep, SetupSystem.allows, Bool.not_eq_true', List.any_eq_false] at hallows
      exact hallows e he (by simp [Execution.isSending, hphase])
    · exact h.mono hle

end

/-- Nothing depends on the clock itself. -/
theorem SetupInv.tick {now : Nat} {system : SetupSystem} (h : SetupInv now system) :
    SetupInv now { system with now } :=
  { h with current := fun e he hrunning hstale =>
      have hcurrent := h.current e he hrunning hstale
      ⟨hcurrent.changed, hcurrent.unpaused, hcurrent.reassess, hcurrent.phase⟩ }

/-- **Run.** The invariant holds after any steps, by induction on them. -/
theorem SetupInv.setupRun (steps : List SetupSystemStep) :
    SetupInv (setupRun steps).now (setupRun steps) := by
  have hfrom : ∀ system : SetupSystem, SetupInv system.now system →
      SetupInv (steps.foldl setupStep system).now (steps.foldl setupStep system) := by
    induction steps with
    | nil => exact fun _ h => h
    | cons step steps ih =>
      intro system h
      exact ih _ (h.act step).tick
  exact hfrom {} {
    daemons := fun _ hd => by cases hd
    names := List.nodup_nil
    changedAt := Nat.zero_lt_one
    pausedAt := Nat.zero_lt_one
    ids := List.nodup_nil
    next := fun _ he => by cases he
    inFlight := fun _ he => by cases he
    caught := fun _ _ hd => by cases hd
    current := fun _ he => by cases he }

/-! ## The law -/

/-- The status of `snapshot` is taken over when `e` is completed. -/
def SetupSystem.Adopts (system : SetupSystem) (e : Execution) (snapshot : SetupSnapshot)
    (probedAt : Nat) : Prop :=
  ∃ read, e.phase = .finished (.ok read) probedAt ∧ read.snapshot = snapshot
    ∧ system.health.accepts e.operation ∧ (system.health.awaiting read).adopts snapshot

/-- A request does not change the status. -/
theorem SetupHealth.request_status (health : SetupHealth) (now : Nat) :
    (health.request now).2.status = health.status := by
  unfold SetupHealth.request
  split
  · rfl
  · split <;> rfl

/-- Awaiting what was asked for changes no status. -/
theorem SetupHealth.awaiting_status (health : SetupHealth) (read : AssessmentRead) :
    (health.awaiting read).status = health.status := by
  unfold SetupHealth.awaiting
  split <;> rfl

/-- What is adopted does not depend on what is in flight. -/
theorem SetupHealth.adopts_running (health : SetupHealth) (running : Option AssessmentOperation)
    (read : AssessmentRead) :
    (health.awaiting read).adopts read.snapshot
      = (SetupHealth.awaiting { health with running } read).adopts read.snapshot := by
  unfold SetupHealth.awaiting
  cases read.requested with
  | none => rfl
  | some required => rfl

/-- No other completion changes the status. -/
theorem status_complete {system : SetupSystem} {e : Execution}
    {result : Except StepFailure AssessmentRead} {probedAt : Nat}
    (hphase : e.phase = .finished result probedAt) :
    (system.complete e result).health.status = system.health.status
      ∨ ∃ snapshot, system.Adopts e snapshot probedAt
        ∧ (system.complete e result).health.status = snapshot.status := by
  show (system.health.complete system.now e.operation result).2.status = _
    ∨ ∃ snapshot, _ ∧ (system.health.complete system.now e.operation result).2.status = _
  unfold SetupHealth.complete
  split
  · exact Or.inl rfl
  · rename_i hrunning
    rw [ne_eq, not_not] at hrunning
    split
    · exact Or.inl (SetupHealth.request_status _ _)
    · rename_i hfresh
      cases result with
      | error failure => exact Or.inl rfl
      | ok read =>
        have haccepts : system.health.accepts e.operation = true := by
          simpa [SetupHealth.accepts, hrunning] using hfresh
        show (((SetupHealth.awaiting _ read).adopt read.snapshot).status = _)
          ∨ ∃ snapshot, _ ∧ ((SetupHealth.awaiting _ read).adopt read.snapshot).status = _
        unfold SetupHealth.adopt
        split
        · rename_i hadopts
          refine Or.inr ⟨read.snapshot, ⟨read, hphase, rfl, haccepts, ?_⟩, rfl⟩
          rw [← hadopts]
          exact SetupHealth.adopts_running _ _ _
        · exact Or.inl (SetupHealth.awaiting_status _ read)

/-- What one step does to a daemon. -/
structure Publishes (d d' : Daemon) : Prop where
  name : d'.instanceName = d.instanceName
  revision : d.snapshot.revision ≤ d'.snapshot.revision
  latest : d'.snapshot ≠ d.snapshot → d'.snapshot.revision = d.requested

/-- The daemons are left alone, one of them goes on, or another one is started. -/
theorem act_daemons (system : SetupSystem) (step : SetupSystemStep) :
    (∃ d, (system.act step).daemons = d :: system.daemons)
      ∨ ∃ g, (system.act step).daemons = system.daemons.map g
        ∧ ∀ d, DaemonMove system.now d (g d) := by
  -- most steps move no daemon at all
  have hnone : ∃ g : Daemon → Daemon, system.daemons = system.daemons.map g
      ∧ ∀ d, DaemonMove system.now d (g d) := ⟨id, by simp, fun d => .none⟩
  have hupdate : ∀ instanceName step', ∃ g : Daemon → Daemon,
      (system.update instanceName (daemonStep system.now · step')).daemons = system.daemons.map g
        ∧ ∀ d, DaemonMove system.now d (g d) := by
    intro instanceName step'
    refine ⟨_, rfl, fun d => ?_⟩
    split
    · exact daemonStep_move system.now d step'
    · exact .none
  cases step with
  | request => exact Or.inr hnone
  | changed => exact Or.inr hnone
  | retryVerification restart => exact Or.inr hnone
  | setPaused paused => exact Or.inr hnone
  | complete id =>
    refine Or.inr ?_
    rw [SetupSystem.act]
    split
    · split <;> exact hnone
    · exact hnone
  | abandon id failure =>
    refine Or.inr ?_
    rw [SetupSystem.act]
    split <;> exact hnone
  -- the operations raise and send through their daemon
  | proceed id =>
    refine Or.inr ?_
    rw [SetupSystem.act]
    split
    · rename_i e _
      unfold SetupSystem.proceed
      split
      · exact hnone
      · split
        · split
          · exact hupdate _ (.raise (.operation e.operation.id))
          · exact hnone
        · exact hnone
      · split
        · exact hupdate _ (.send (.operation e.operation.id))
        · exact hnone
      · split
        · split <;> exact hnone
        · exact hnone
      · exact hnone
    · exact hnone
  | fail id failure =>
    refine Or.inr ?_
    rw [SetupSystem.act]
    split
    · unfold SetupSystem.fail
      split <;> exact hnone
    · exact hnone
  | restart instanceName config =>
    rw [SetupSystem.act]
    split
    · exact Or.inr hnone
    · exact Or.inl ⟨_, rfl⟩
  | daemon instanceName step =>
    refine Or.inr ?_
    rw [SetupSystem.act]
    split
    · exact hupdate instanceName step
    · exact hnone

/-- Every daemon goes on publishing under its name, with revisions that do not fall. -/
theorem SetupInv.published {system : SetupSystem} (h : SetupInv system.now system)
    (step : SetupSystemStep) {d : Daemon} (hd : d ∈ system.daemons) :
    ∃ d' ∈ (setupStep system step).daemons, Publishes d d' := by
  show ∃ d' ∈ (system.act step).daemons, _
  rcases act_daemons system step with ⟨new, hnew⟩ | ⟨g, hmap, hmove⟩
  · rw [hnew]
    exact ⟨d, List.mem_cons_of_mem _ hd, rfl, Nat.le_refl _, fun hchanged => absurd rfl hchanged⟩
  · rw [hmap]
    obtain ⟨hrevision, hlatest⟩ := (hmove d).revision (h.daemons d hd)
    exact ⟨g d, List.mem_map_of_mem hd, (hmove d).instanceName, hrevision, hlatest⟩

/-- Two operations in flight would both be the running one. -/
theorem SetupInv.one_inFlight {now : Nat} {system : SetupSystem} (h : SetupInv now system) :
    (system.executions.filter (!·.completed)).length ≤ 1 := by
  have hnodup : ((system.executions.filter (!·.completed)).map (·.operation.id)).Nodup :=
    h.ids.sublist (List.filter_sublist.map _)
  have hrunning : ∀ e ∈ system.executions.filter (!·.completed),
      system.health.running = some e.operation := by
    intro e he
    obtain ⟨hmem, hopen⟩ := List.mem_filter.mp he
    exact h.inFlight e hmem (by simpa using hopen)
  cases hopen : system.executions.filter (!·.completed) with
  | nil => exact Nat.zero_le 1
  | cons e rest =>
    cases rest with
    | nil => exact Nat.le_refl 1
    | cons e' rest =>
      rw [hopen] at hnodup hrunning
      have hfirst := hrunning e List.mem_cons_self
      have hsecond := hrunning e' (List.mem_cons_of_mem _ List.mem_cons_self)
      have hsame : e.operation = e'.operation := Option.some.inj (hfirst.symm.trans hsecond)
      refine absurd ?_ (List.nodup_cons.mp hnodup).1
      show e.operation.id ∈ e'.operation.id :: _
      rw [hsame]
      exact List.mem_cons_self

/-- A snapshot that is adopted was probed after the last change, for an operation made after the
last pause. -/
theorem SetupInv.adopted {now : Nat} {system : SetupSystem} (h : SetupInv now system)
    {e : Execution} (he : e ∈ system.executions) {snapshot : SetupSnapshot} {probedAt : Nat}
    (hadopts : system.Adopts e snapshot probedAt) :
    system.changedAt < probedAt ∧ system.pausedAt < e.createdAt := by
  obtain ⟨read, hphase, rfl, haccepts, hadopts⟩ := hadopts
  simp only [SetupHealth.accepts, Bool.and_eq_true, decide_eq_true_eq, Bool.not_eq_true'] at haccepts
  have hcurrent := h.current e he haccepts.1.1 haccepts.1.2
  have hknown := hcurrent.phase
  rw [hphase] at hknown
  simp only [SetupHealth.adopts, SetupHealth.awaiting_required, Bool.and_eq_true,
    decide_eq_true_eq] at hadopts
  exact ⟨(hknown.2 hadopts.1.2).1 hadopts.2, hcurrent.unpaused⟩

/-- **A status that is adopted was probed after the last change.** In every run published revisions
of a daemon never decrease, what is published was requested last, and it was probed after it was
requested; a daemon that waits has published the last request; one operation at most is in flight;
and what is adopted was probed after the last change, by an operation during which there was no
pause. -/
theorem verification_law (steps : List SetupSystemStep) :
    ((setupRun steps).daemons.map (·.instanceName)).Nodup
      ∧ (∀ d ∈ (setupRun steps).daemons,
        (∀ step, ∃ d' ∈ (setupRun (steps ++ [step])).daemons, Publishes d d')
        ∧ (d.snapshot.revision = 0 ∧ d.snapshot.status = .unchecked
          ∨ 1 ≤ d.snapshot.revision ∧ d.raisedAt d.snapshot.revision < d.probedAt)
        ∧ (d.worker = .idle → d.queue = [] → d.snapshot.revision = d.sent
          ∧ (d.holder = none → d.sent = d.requested)))
      ∧ ((setupRun steps).executions.filter (!·.completed)).length ≤ 1
      ∧ ∀ e ∈ (setupRun steps).executions,
        (∀ snapshot probedAt, (setupRun steps).Adopts e snapshot probedAt →
          (setupRun steps).changedAt < probedAt ∧ (setupRun steps).pausedAt < e.createdAt)
        ∧ ∀ result probedAt, e.phase = .finished result probedAt →
          ((setupRun steps).complete e result).health.status = (setupRun steps).health.status
            ∨ ∃ snapshot, (setupRun steps).Adopts e snapshot probedAt
              ∧ ((setupRun steps).complete e result).health.status = snapshot.status := by
  have h := SetupInv.setupRun steps
  refine ⟨h.names, fun d hd => ⟨fun step => ?_, ?_, fun hidle hqueue => ?_⟩, h.one_inFlight,
    fun e he => ⟨fun snapshot probedAt => h.adopted he, fun result probedAt => status_complete⟩⟩
  · have hlast : setupRun (steps ++ [step]) = setupStep (setupRun steps) step := by
      simp [setupRun]
    rw [hlast]
    exact h.published step hd
  · rcases (h.daemons d hd).published with ⟨hstatus, hrevision⟩ | ⟨-, hpos, hprobed⟩
    · exact Or.inl ⟨hrevision, hstatus⟩
    · exact Or.inr ⟨hpos, hprobed⟩
  · refine ⟨?_, fun hholder => ?_⟩
    · rcases (h.daemons d hd).idle hidle with hsent | hmem
      · exact hsent
      · rw [hqueue] at hmem
        cases hmem
    · have hlock := (h.daemons d hd).lock (by rw [hidle]; nofun)
      rw [hholder] at hlock
      exact hlock.symm

end LgBuddy
