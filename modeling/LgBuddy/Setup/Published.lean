import LgBuddy.Setup.Step

/-!
# LgBuddy — the assessment worker of the daemon

`PublishedSetup` and `AssessmentWorker` of `setup/published.rs`. A request raises the requested
revision and wakes the worker; the worker probes without the lock and publishes what it has found,
unless there was another request meanwhile.

* `Daemon` — the mutex with what it protects, the channel and the worker; `sent`, `raisedAt`,
  `probedAt` and `since` are not in the source, they only keep track of the requests that have
  reached the channel and of when requests and probes were started;
* `daemonStep` — one step of a request or of the worker; every interleaving is a list of these;
* `DaemonInv` — the invariant of all its states;
* `Fresh`, `FreshFrom` — what the daemon publishes from here on was probed after some moment.
-/

namespace LgBuddy

/-! ## The daemon -/

inductive WorkerMessage where
  | assess
  | stop
  deriving DecidableEq, Repr

/-- Who is in `request`: another client, or an assessment operation of the application. -/
inductive Requester where
  | client (number : Nat)
  | operation (id : Nat)
  deriving DecidableEq, Repr

inductive AssessmentWorker where
  | idle
  /-- A message was received, and more of them are taken. -/
  | draining
  | reading
  | starting (revision : Nat)
  | probing (revision since : Nat)
  | publishing (revision since : Nat) (snapshot : SetupSnapshot)
  | stopped
  deriving DecidableEq

/-- `requested` and `snapshot` are behind the mutex that a requester may hold. -/
structure Daemon where
  instanceName : String
  config : String
  requested : Nat := 0
  snapshot : SetupSnapshot
  holder : Option Requester := none
  queue : List WorkerMessage := []
  worker : AssessmentWorker := .idle
  sent : Nat := 0
  raisedAt : Nat → Nat := fun _ => 0
  probedAt : Nat := 0

/-- `AssessmentWorker::spawn`; its own first request is a step like any other. -/
def Daemon.spawn (instanceName config : String) : Daemon where
  instanceName := instanceName
  config := config
  snapshot := {
    instanceName := instanceName
    revision := 0
    config := config
    status := .unchecked
    requirements := [] }

inductive DaemonStep where
  | raise (requester : Requester)
  | send (requester : Requester)
  | receive
  | drain
  | readRevision
  | startProbe
  | endProbe (result : Except StepFailure SetupAssessment)
  | publish
  | dropped

namespace Daemon

/-- `request` up to the channel: the mutex is taken and stays taken. -/
def raise (d : Daemon) (now : Nat) (requester : Requester) : Daemon :=
  if d.holder = none then
    { d with
      holder := some requester
      requested := d.requested + 1
      raisedAt := fun r => if r = d.requested + 1 then now else d.raisedAt r }
  else d

/-- The rest of `request`. A worker that has stopped has closed the channel. -/
def send (d : Daemon) (requester : Requester) : Daemon :=
  if d.holder = some requester then
    if d.worker = .stopped then { d with holder := none }
    else { d with holder := none, queue := d.queue ++ [.assess], sent := d.requested }
  else d

/-- `recv`, which waits as long as there is nothing. -/
def receive (d : Daemon) : Daemon :=
  match d.worker, d.queue with
  | .idle, .assess :: queue => { d with worker := .draining, queue }
  | .idle, .stop :: queue => { d with worker := .stopped, queue }
  | _, _ => d

/-- One `try_recv`. -/
def drain (d : Daemon) : Daemon :=
  match d.worker, d.queue with
  | .draining, .assess :: queue => { d with queue }
  | .draining, .stop :: queue => { d with worker := .stopped, queue }
  | .draining, [] => { d with worker := .reading }
  | _, _ => d

def readRevision (d : Daemon) : Daemon :=
  if d.worker = .reading ∧ d.holder = none then { d with worker := .starting d.requested } else d

def startProbe (d : Daemon) (now : Nat) : Daemon :=
  match d.worker with
  | .starting revision => { d with worker := .probing revision now }
  | _ => d

/-- A probe that panics has the result `worker_stopped`. -/
def endProbe (d : Daemon) (result : Except StepFailure SetupAssessment) : Daemon :=
  match d.worker with
  | .probing revision since =>
    let snapshot := { SetupSnapshot.fromAssessment result with revision, config := d.config }
    { d with worker := .publishing revision since snapshot }
  | _ => d

def publish (d : Daemon) : Daemon :=
  match d.worker, d.holder with
  | .publishing revision since snapshot, none =>
    if d.requested = revision then
      { d with
        worker := .idle
        snapshot := { snapshot with instanceName := d.snapshot.instanceName }
        probedAt := since }
    else { d with worker := .idle }
  | _, _ => d

end Daemon

def daemonStep (now : Nat) (d : Daemon) : DaemonStep → Daemon
  | .raise requester => d.raise now requester
  | .send requester => d.send requester
  | .receive => d.receive
  | .drain => d.drain
  | .readRevision => d.readRevision
  | .startProbe => d.startProbe now
  | .endProbe result => d.endProbe result
  | .publish => d.publish
  | .dropped => if d.worker = .stopped then d else { d with queue := d.queue ++ [.stop] }

/-! ## What a step does -/

inductive DaemonMove (now : Nat) (d : Daemon) : Daemon → Prop
  | none : DaemonMove now d d
  | raised (requester : Requester) (hholder : d.holder = none) : DaemonMove now d
    { d with
      holder := some requester
      requested := d.requested + 1
      raisedAt := fun r => if r = d.requested + 1 then now else d.raisedAt r }
  | sent (requester : Requester) (hholder : d.holder = some requester)
    (hworker : d.worker ≠ .stopped) :
    DaemonMove now d { d with holder := none, queue := d.queue ++ [.assess], sent := d.requested }
  | refused (hworker : d.worker = .stopped) : DaemonMove now d { d with holder := none }
  | received (queue : List WorkerMessage) (hworker : d.worker = .idle)
    (hqueue : d.queue = .assess :: queue) : DaemonMove now d { d with worker := .draining, queue }
  | drained (queue : List WorkerMessage) (hworker : d.worker = .draining)
    (hqueue : d.queue = .assess :: queue) : DaemonMove now d { d with queue }
  | stopped (queue : List WorkerMessage) (hqueue : d.queue = .stop :: queue) :
    DaemonMove now d { d with worker := .stopped, queue }
  | emptied (hworker : d.worker = .draining) : DaemonMove now d { d with worker := .reading }
  | read (hworker : d.worker = .reading) (hholder : d.holder = none) :
    DaemonMove now d { d with worker := .starting d.requested }
  | started (revision : Nat) (hworker : d.worker = .starting revision) :
    DaemonMove now d { d with worker := .probing revision now }
  | probed (revision since : Nat) (snapshot : SetupSnapshot)
    (hworker : d.worker = .probing revision since) (hrevision : snapshot.revision = revision)
    (hstatus : snapshot.status ≠ .unchecked) :
    DaemonMove now d { d with worker := .publishing revision since snapshot }
  | published (since : Nat) (snapshot : SetupSnapshot)
    (hworker : d.worker = .publishing d.requested since snapshot) (hholder : d.holder = none) :
    DaemonMove now d
      { d with
        worker := .idle
        snapshot := { snapshot with instanceName := d.snapshot.instanceName }
        probedAt := since }
  | overtaken (revision since : Nat) (snapshot : SetupSnapshot)
    (hworker : d.worker = .publishing revision since snapshot) (hholder : d.holder = none)
    (hrevision : d.requested ≠ revision) : DaemonMove now d { d with worker := .idle }
  | dropped : DaemonMove now d { d with queue := d.queue ++ [.stop] }

theorem daemonStep_move (now : Nat) (d : Daemon) (step : DaemonStep) :
    DaemonMove now d (daemonStep now d step) := by
  cases step with
  | raise requester =>
    show DaemonMove now d (d.raise now requester)
    unfold Daemon.raise
    split
    · exact .raised requester ‹_›
    · exact .none
  | send requester =>
    show DaemonMove now d (d.send requester)
    unfold Daemon.send
    split
    · split
      · exact .refused ‹_›
      · exact .sent requester ‹_› ‹_›
    · exact .none
  | receive =>
    show DaemonMove now d d.receive
    unfold Daemon.receive
    split
    · exact .received _ ‹_› ‹_›
    · exact .stopped _ ‹_›
    · exact .none
  | drain =>
    show DaemonMove now d d.drain
    unfold Daemon.drain
    split
    · exact .drained _ ‹_› ‹_›
    · exact .stopped _ ‹_›
    · exact .emptied ‹_›
    · exact .none
  | readRevision =>
    show DaemonMove now d d.readRevision
    unfold Daemon.readRevision
    split
    · rename_i hread
      exact .read hread.1 hread.2
    · exact .none
  | startProbe =>
    show DaemonMove now d (d.startProbe now)
    unfold Daemon.startProbe
    split
    · exact .started _ ‹_›
    · exact .none
  | endProbe result =>
    show DaemonMove now d (d.endProbe result)
    unfold Daemon.endProbe
    split
    · exact .probed _ _ _ ‹_› rfl (SetupSnapshot.fromAssessment_status result)
    · exact .none
  | publish =>
    show DaemonMove now d d.publish
    unfold Daemon.publish
    split
    · rename_i revision since snapshot hworker hholder
      split
      · rename_i hrevision
        -- published only at the revision the probe began with
        subst hrevision
        exact .published since snapshot hworker hholder
      · rename_i hrevision
        exact .overtaken revision since snapshot hworker hholder hrevision
    · exact .none
  | dropped =>
    show DaemonMove now d (if _ then _ else _)
    split
    · exact .none
    · exact .dropped

/-- A daemon keeps its name. -/
theorem DaemonMove.instanceName {now : Nat} {d d' : Daemon} (h : DaemonMove now d d') :
    d'.instanceName = d.instanceName := by
  cases h <;> rfl

/-- A request that is being sent is not disturbed: the mutex is taken. -/
theorem daemonStep_held {now : Nat} {d : Daemon} {requester : Requester} {step : DaemonStep}
    (hholder : d.holder = some requester) (hstep : step ≠ .send requester) :
    (daemonStep now d step).holder = some requester
      ∧ (daemonStep now d step).requested = d.requested := by
  cases step with
  | raise other => simp [daemonStep, Daemon.raise, hholder]
  | send other =>
    have hother : requester ≠ other := fun hsame => hstep (by rw [hsame])
    simp [daemonStep, Daemon.send, hholder, hother]
  | receive =>
    show d.receive.holder = _ ∧ d.receive.requested = _
    unfold Daemon.receive
    split <;> exact ⟨hholder, rfl⟩
  | drain =>
    show d.drain.holder = _ ∧ d.drain.requested = _
    unfold Daemon.drain
    split <;> exact ⟨hholder, rfl⟩
  | readRevision => simp [daemonStep, Daemon.readRevision, hholder]
  | startProbe =>
    show (d.startProbe now).holder = _ ∧ (d.startProbe now).requested = _
    unfold Daemon.startProbe
    split <;> exact ⟨hholder, rfl⟩
  | endProbe result =>
    show (d.endProbe result).holder = _ ∧ (d.endProbe result).requested = _
    unfold Daemon.endProbe
    split <;> exact ⟨hholder, rfl⟩
  | publish =>
    show d.publish.holder = _ ∧ d.publish.requested = _
    unfold Daemon.publish
    split
    · rename_i hnone
      rw [hholder] at hnone
      cases hnone
    · exact ⟨hholder, rfl⟩
  | dropped =>
    show (if _ then _ else _ : Daemon).holder = _ ∧ (if _ then _ else _ : Daemon).requested = _
    split <;> exact ⟨hholder, rfl⟩

/-! ## The invariant of a daemon -/

/-- The revision that the worker has read. -/
def AssessmentWorker.revision : AssessmentWorker → Option Nat
  | .starting revision | .probing revision _ | .publishing revision _ _ => some revision
  | _ => none

/-- The probe that was started, and for which revision. -/
def AssessmentWorker.probe : AssessmentWorker → Option (Nat × Nat)
  | .probing revision since | .publishing revision since _ => some (revision, since)
  | _ => none

theorem AssessmentWorker.revision_of_probe {worker : AssessmentWorker} {r since : Nat}
    (h : (r, since) ∈ worker.probe) : r ∈ worker.revision := by
  cases worker with
  | probing revision at' =>
    cases h
    rfl
  | publishing revision at' snapshot =>
    cases h
    rfl
  | _ => cases h

/-- The worker is to do something, whatever it finds in the channel. -/
def AssessmentWorker.Awake : AssessmentWorker → Prop
  | .draining | .reading => True
  | _ => False

/-- All that happened did so before `now`. -/
structure DaemonInv (now : Nat) (d : Daemon) : Prop where
  name : d.snapshot.instanceName = d.instanceName
  raised : ∀ r, 1 ≤ r → r ≤ d.requested → d.raisedAt r < now
  published : d.snapshot.status = .unchecked ∧ d.snapshot.revision = 0
    ∨ d.snapshot.status ≠ .unchecked ∧ 1 ≤ d.snapshot.revision
      ∧ d.raisedAt d.snapshot.revision < d.probedAt
  notAhead : d.snapshot.revision ≤ d.requested
  lock : d.worker ≠ .stopped → d.requested = d.sent + d.holder.toList.length
  read : ∀ r ∈ d.worker.revision, 1 ≤ r ∧ r ≤ d.requested ∧ (r = d.sent ∨ .assess ∈ d.queue)
  probe : ∀ r since, (r, since) ∈ d.worker.probe → d.raisedAt r < since ∧ since < now
  result : ∀ r since snapshot, d.worker = .publishing r since snapshot →
    snapshot.revision = r ∧ snapshot.status ≠ .unchecked
  idle : d.worker = .idle → d.snapshot.revision = d.sent ∨ .assess ∈ d.queue
  awake : .assess ∈ d.queue ∨ d.worker.Awake → 1 ≤ d.requested

theorem DaemonInv.spawn (now : Nat) (instanceName config : String) :
    DaemonInv now (.spawn instanceName config) where
  name := rfl
  raised := fun _ hpos hle => absurd (Nat.le_trans hpos hle) (Nat.not_succ_le_zero 0)
  published := Or.inl ⟨rfl, rfl⟩
  notAhead := Nat.le_refl _
  lock := fun _ => rfl
  read := nofun
  probe := nofun
  result := nofun
  idle := fun _ => Or.inl rfl
  awake := by
    rintro (hmem | hawake)
    · cases hmem
    · cases hawake

theorem DaemonInv.mono {now now' : Nat} {d : Daemon} (h : DaemonInv now d) (hle : now ≤ now') :
    DaemonInv now' d :=
  { h with
    raised := fun r hpos hr => Nat.lt_of_lt_of_le (h.raised r hpos hr) hle
    probe := fun r since hprobe =>
      ⟨(h.probe r since hprobe).1, Nat.lt_of_lt_of_le (h.probe r since hprobe).2 hle⟩ }

/-- **One step of a daemon**, at the moment `now`. -/
theorem DaemonInv.move {now : Nat} {d d' : Daemon} (h : DaemonInv now d)
    (hmove : DaemonMove now d d') : DaemonInv (now + 1) d' := by
  have hlater := h.mono (Nat.le_succ now)
  cases hmove with
  | none => exact hlater
  | raised requester hholder =>
    -- the revisions that were there are below the new one
    have hold : ∀ r, r ≤ d.requested →
        (if r = d.requested + 1 then now else d.raisedAt r) = d.raisedAt r := by
      intro r hr
      rw [if_neg (by omega)]
    refine { hlater with
      raised := fun r hpos hr => ?_, published := ?_, notAhead := ?_, lock := fun hworker => ?_,
      read := fun r hr => ?_, probe := fun r since hprobe => ?_, awake := fun _ => ?_ }
    · show (if r = d.requested + 1 then now else d.raisedAt r) < now + 1
      split
      · exact Nat.lt_succ_self now
      · exact hlater.raised r hpos (Nat.le_of_lt_succ (Nat.lt_of_le_of_ne hr ‹_›))
    · rcases h.published with hnone | ⟨hstatus, hpos, hprobed⟩
      · exact Or.inl hnone
      · exact Or.inr ⟨hstatus, hpos, Nat.lt_of_le_of_lt (Nat.le_of_eq (hold _ h.notAhead)) hprobed⟩
    · exact Nat.le_succ_of_le h.notAhead
    · have hlock := h.lock hworker
      rw [hholder] at hlock
      simpa using hlock
    · obtain ⟨hpos, hle, hsent⟩ := h.read r hr
      exact ⟨hpos, Nat.le_succ_of_le hle, hsent⟩
    · have hle : r ≤ d.requested := (h.read r (AssessmentWorker.revision_of_probe hprobe)).2.1
      obtain ⟨hraised, hsince⟩ := hlater.probe r since hprobe
      exact ⟨Nat.lt_of_le_of_lt (Nat.le_of_eq (hold r hle)) hraised, hsince⟩
    · exact Nat.le_add_left 1 d.requested
  | sent requester hholder hworker =>
    have hlock := h.lock hworker
    rw [hholder] at hlock
    have hpos : 1 ≤ d.requested := by
      rw [hlock]
      exact Nat.le_add_left 1 d.sent
    refine { hlater with
      lock := fun _ => rfl, read := fun r hr => ?_, idle := fun _ => Or.inr ?_,
      awake := fun _ => hpos }
    · obtain ⟨hone, hle, -⟩ := h.read r hr
      exact ⟨hone, hle, Or.inr (List.mem_append_right _ List.mem_cons_self)⟩
    · exact List.mem_append_right _ List.mem_cons_self
  | refused hworker =>
    exact { hlater with lock := fun hrunning => absurd hworker hrunning }
  | received queue hworker hqueue =>
    have hpos : 1 ≤ d.requested := h.awake (Or.inl (hqueue ▸ List.mem_cons_self))
    refine { hlater with
      lock := fun _ => h.lock (by rw [hworker]; nofun), read := nofun, probe := nofun,
      result := nofun, idle := nofun, awake := fun _ => hpos }
  | drained queue hworker hqueue =>
    have hpos : 1 ≤ d.requested := h.awake (Or.inl (hqueue ▸ List.mem_cons_self))
    refine { hlater with read := ?_, idle := ?_, awake := fun _ => hpos }
    · rw [hworker]
      nofun
    · rw [hworker]
      nofun
  | stopped queue hqueue =>
    refine { hlater with
      lock := fun hrunning => absurd rfl hrunning, read := nofun, probe := nofun, result := nofun,
      idle := nofun, awake := fun hawake => h.awake (Or.inl ?_) }
    rcases hawake with hmem | hawake
    · rw [hqueue]
      exact List.mem_cons_of_mem _ hmem
    · cases hawake
  | emptied hworker =>
    have hpos : 1 ≤ d.requested := by
      refine h.awake (Or.inr ?_)
      rw [hworker]
      trivial
    refine { hlater with
      lock := fun _ => h.lock (by rw [hworker]; nofun), read := nofun, probe := nofun,
      result := nofun, idle := nofun, awake := fun _ => hpos }
  | read hworker hholder =>
    have hlock := h.lock (by rw [hworker]; nofun)
    rw [hholder] at hlock
    have hpos : 1 ≤ d.requested := by
      refine h.awake (Or.inr ?_)
      rw [hworker]
      trivial
    refine { hlater with
      lock := fun _ => h.lock (by rw [hworker]; nofun), read := fun r hr => ?_, probe := nofun,
      result := nofun, idle := nofun, awake := fun _ => hpos }
    cases hr
    exact ⟨hpos, Nat.le_refl _, Or.inl hlock⟩
  | started revision hworker =>
    have hread := h.read revision (by rw [hworker]; rfl)
    refine { hlater with
      lock := fun _ => h.lock (by rw [hworker]; nofun), read := fun r hr => ?_,
      probe := fun r since hprobe => ?_, result := nofun, idle := nofun, awake := fun _ => ?_ }
    · cases hr
      exact hread
    · cases hprobe
      exact ⟨h.raised revision hread.1 hread.2.1, Nat.lt_succ_self now⟩
    · exact Nat.le_trans hread.1 hread.2.1
  | probed revision since snapshot hworker hrevision hstatus =>
    have hread := h.read revision (by rw [hworker]; rfl)
    refine { hlater with
      lock := fun _ => h.lock (by rw [hworker]; nofun), read := fun r hr => ?_,
      probe := fun r since' hprobe => ?_, result := fun r since' snapshot' hpublishing => ?_,
      idle := nofun, awake := fun _ => ?_ }
    · cases hr
      exact hread
    · cases hprobe
      exact hlater.probe revision since (by rw [hworker]; rfl)
    · cases hpublishing
      exact ⟨hrevision, hstatus⟩
    · exact Nat.le_trans hread.1 hread.2.1
  | published since snapshot hworker hholder =>
    have hread := h.read d.requested (by rw [hworker]; rfl)
    obtain ⟨hrevision, hstatus⟩ := h.result _ _ _ hworker
    have hprobe := h.probe d.requested since (by rw [hworker]; rfl)
    have hlock := h.lock (by rw [hworker]; nofun)
    rw [hholder] at hlock
    refine { hlater with
      published := Or.inr ⟨hstatus, ?_, ?_⟩, notAhead := Nat.le_of_eq hrevision,
      lock := fun _ => h.lock (by rw [hworker]; nofun), read := nofun, probe := nofun,
      result := nofun, idle := fun _ => Or.inl (hrevision.trans hlock), awake := fun _ => ?_ }
    · exact hrevision.symm ▸ hread.1
    · show d.raisedAt snapshot.revision < since
      rw [hrevision]
      exact hprobe.1
    · exact hread.1
  | overtaken revision since snapshot hworker hholder hother =>
    have hread := h.read revision (by rw [hworker]; rfl)
    have hlock := h.lock (by rw [hworker]; nofun)
    rw [hholder] at hlock
    refine { hlater with
      lock := fun _ => h.lock (by rw [hworker]; nofun), read := nofun, probe := nofun,
      result := nofun, idle := fun _ => Or.inr ?_, awake := fun _ => ?_ }
    · -- the request that has overtaken this probe is still in the channel
      rcases hread.2.2 with hsame | hqueue
      · exact absurd (hsame.trans hlock.symm).symm hother
      · exact hqueue
    · exact Nat.le_trans hread.1 hread.2.1
  | dropped =>
    refine { hlater with
      read := fun r hr => ?_, idle := fun hidle => ?_, awake := fun hawake => h.awake ?_ }
    · obtain ⟨hpos, hle, hsent⟩ := h.read r hr
      exact ⟨hpos, hle, hsent.imp_right (List.mem_append_left _)⟩
    · exact (h.idle hidle).imp_right (List.mem_append_left _)
    · refine hawake.imp_left fun hmem => ?_
      simpa using hmem

/-- **Published revisions never decrease**, and a snapshot is published only for the revision that
was requested last. -/
theorem DaemonMove.revision {now : Nat} {d d' : Daemon} (h : DaemonInv now d)
    (hmove : DaemonMove now d d') :
    d.snapshot.revision ≤ d'.snapshot.revision
      ∧ (d'.snapshot ≠ d.snapshot → d'.snapshot.revision = d.requested) := by
  cases hmove with
  | published since snapshot hworker hholder =>
    have hrevision : snapshot.revision = d.requested := (h.result _ _ _ hworker).1
    exact ⟨Nat.le_trans h.notAhead (Nat.le_of_eq hrevision.symm), fun _ => hrevision⟩
  | _ => exact ⟨Nat.le_refl _, fun hchanged => absurd rfl hchanged⟩

/-! ## Fresh probes -/

/-- Whatever this daemon answers from now on was probed after `since`. -/
structure Fresh (since : Nat) (d : Daemon) : Prop where
  snapshot : d.snapshot.status ≠ .unchecked → since < d.probedAt
  probe : ∀ r at', (r, at') ∈ d.worker.probe → r = d.requested → since < at'

/-- The same for what it answers with the revision `revision` or a later one. -/
structure FreshFrom (since revision : Nat) (d : Daemon) : Prop where
  requested : revision ≤ d.requested
  snapshot : revision ≤ d.snapshot.revision → since < d.probedAt
  probe : ∀ r at', (r, at') ∈ d.worker.probe → revision ≤ r → since < at'

/-- A daemon that has caught up is fresh. -/
theorem FreshFrom.fresh {since revision : Nat} {d : Daemon} (h : FreshFrom since revision d)
    (hrevision : revision ≤ d.snapshot.revision) : Fresh since d :=
  ⟨fun _ => h.snapshot hrevision, fun r at' hprobe hr => h.probe r at' hprobe (hr ▸ h.requested)⟩

/-- What is requested now is probed later. -/
theorem DaemonInv.freshFrom {now since : Nat} {d : Daemon} (h : DaemonInv now d)
    (requester : Requester) (hholder : d.holder = none) :
    FreshFrom since (d.requested + 1) (d.raise now requester) := by
  rw [Daemon.raise, if_pos hholder]
  refine ⟨Nat.le_refl _, fun hle => ?_, fun r at' hprobe hle => ?_⟩
  · exact absurd (Nat.le_trans hle h.notAhead) (Nat.not_succ_le_self _)
  · have hread := h.read r (AssessmentWorker.revision_of_probe hprobe)
    exact absurd (Nat.le_trans hle hread.2.1) (Nat.not_succ_le_self _)

theorem Fresh.spawn (since : Nat) (instanceName config : String) :
    Fresh since (.spawn instanceName config) :=
  ⟨fun hstatus => absurd rfl hstatus, nofun⟩

theorem Fresh.move {now since : Nat} {d d' : Daemon} (h : Fresh since d) (hinv : DaemonInv now d)
    (hnow : since < now) (hmove : DaemonMove now d d') : Fresh since d' := by
  cases hmove with
  | none => exact h
  | raised requester hholder =>
    refine ⟨h.snapshot, fun r at' hprobe hr => ?_⟩
    -- a probe that is going on is not for the new revision
    have hle := (hinv.read r (AssessmentWorker.revision_of_probe hprobe)).2.1
    exact absurd (hr ▸ hle) (Nat.not_succ_le_self _)
  | sent requester hholder hworker => exact ⟨h.snapshot, h.probe⟩
  | refused hworker => exact ⟨h.snapshot, h.probe⟩
  | received queue hworker hqueue => exact ⟨h.snapshot, nofun⟩
  | drained queue hworker hqueue => exact ⟨h.snapshot, h.probe⟩
  | stopped queue hqueue => exact ⟨h.snapshot, nofun⟩
  | emptied hworker => exact ⟨h.snapshot, nofun⟩
  | read hworker hholder => exact ⟨h.snapshot, nofun⟩
  | started revision hworker =>
    refine ⟨h.snapshot, fun r at' hprobe _ => ?_⟩
    cases hprobe
    exact hnow
  | probed revision at' snapshot hworker hrevision hstatus =>
    refine ⟨h.snapshot, fun r at'' hprobe hr => ?_⟩
    cases hprobe
    exact h.probe revision at' (by rw [hworker]; rfl) hr
  | published at' snapshot hworker hholder =>
    exact ⟨fun _ => h.probe d.requested at' (by rw [hworker]; rfl) rfl, nofun⟩
  | overtaken revision at' snapshot hworker hholder hother => exact ⟨h.snapshot, nofun⟩
  | dropped => exact ⟨h.snapshot, h.probe⟩

theorem FreshFrom.move {now since revision : Nat} {d d' : Daemon} (h : FreshFrom since revision d)
    (hnow : since < now) (hmove : DaemonMove now d d') : FreshFrom since revision d' := by
  cases hmove with
  | none => exact h
  | raised requester hholder => exact ⟨Nat.le_succ_of_le h.requested, h.snapshot, h.probe⟩
  | sent requester hholder hworker => exact ⟨h.requested, h.snapshot, h.probe⟩
  | refused hworker => exact ⟨h.requested, h.snapshot, h.probe⟩
  | received queue hworker hqueue => exact ⟨h.requested, h.snapshot, nofun⟩
  | drained queue hworker hqueue => exact ⟨h.requested, h.snapshot, h.probe⟩
  | stopped queue hqueue => exact ⟨h.requested, h.snapshot, nofun⟩
  | emptied hworker => exact ⟨h.requested, h.snapshot, nofun⟩
  | read hworker hholder => exact ⟨h.requested, h.snapshot, nofun⟩
  | started read hworker =>
    refine ⟨h.requested, h.snapshot, fun r at' hprobe _ => ?_⟩
    cases hprobe
    exact hnow
  | probed read at' snapshot hworker hrevision hstatus =>
    refine ⟨h.requested, h.snapshot, fun r at'' hprobe hr => ?_⟩
    cases hprobe
    exact h.probe read at' (by rw [hworker]; rfl) hr
  | published at' snapshot hworker hholder =>
    exact ⟨h.requested, fun _ => h.probe d.requested at' (by rw [hworker]; rfl) h.requested, nofun⟩
  | overtaken read at' snapshot hworker hholder hother => exact ⟨h.requested, h.snapshot, nofun⟩
  | dropped => exact ⟨h.requested, h.snapshot, h.probe⟩

end LgBuddy
