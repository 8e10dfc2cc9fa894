import LgBuddy.Lifecycle.RailStages

/-!
# LgBuddy — one decision for all rails of a cycle

The stages of each rail, put side by side over the shared files.

* `Stage.Account` — what the stage of a process says about its own calls;
* `RailInv` — what the stages of all processes say about the files, over every interleaving;
* `RailCalm` — the power-offs of a cycle, in a run in which every power-off is recorded;
* `suspend_rail_safety` — the result for whole runs, and `power_off_again_after_death` where an
  owner dies before its power-off is recorded.
-/

namespace LgBuddy

open Interleaving Mealy Program

namespace Stage

/-! ## A process and its own calls -/

/-- What the stage says about the calls so far. -/
def Account : Stage → List (Exchange Call CallReply) → Prop
  | .outside tried saw, own =>
    (tried = false → ∀ x ∈ own, x.1 ≠ .tryLock)
      ∧ (saw = true → own.getLast? = some ⟨.readOutcome, .ok (some .retryableTransportFailure)⟩)
  | .fresh, own => ∃ before reading,
    own = before ++ ⟨.tryLock, .ok true⟩ :: reading
      ∧ (∀ x ∈ reading, x.1 ≠ .tryLock ∧ x.1 ≠ .unlock)
      ∧ ((∀ x ∈ before, x.1 ≠ .tryLock)
          ∨ before.getLast? = some ⟨.readOutcome, .ok (some .retryableTransportFailure)⟩)
  | .working, own => Entitled own
  | .off, own | .marked, own | .looked _, own => observe noteOwes false own = true
  | .closing, _ => True

theorem account_start : Stage.start.Account [] := ⟨fun _ => List.forall_mem_nil _, nofun⟩

section

variable {stage : Stage} {own : List (Exchange Call CallReply)} {c : Call}

/-- Outside the lock, a call that does not ask for it. -/
theorem Account.outside {tried saw : Bool} (h : (Stage.outside tried saw).Account own) (c : Call)
    (r : CallReply c) (saw' : Bool) (hc : c ≠ .tryLock)
    (hsaw : saw' = true → (⟨c, r⟩ : Exchange Call CallReply)
      = ⟨.readOutcome, .ok (some .retryableTransportFailure)⟩) :
    (Stage.outside tried saw').Account (own ++ [⟨c, r⟩]) := by
  refine ⟨fun htried x hx => ?_, fun hsaw' => ?_⟩
  · rcases List.mem_append.mp hx with hown | hlast
    · exact h.1 htried x hown
    · rw [List.mem_singleton.mp hlast]
      exact hc
  · rw [List.getLast?_concat, hsaw hsaw']

/-- An owner at work, and a call that leaves the lock alone. -/
theorem entitled_concat (h : Entitled own) (htry : c ≠ .tryLock) (hunlock : c ≠ .unlock)
    (r : CallReply c) : Entitled (own ++ [⟨c, r⟩]) := by
  obtain ⟨before, reading, outcome, after, rfl, hfree, houtcome, hadmitted⟩ := h
  refine ⟨before, reading, outcome, after ++ [⟨c, r⟩], by simp, fun x hx => ?_, houtcome,
    hadmitted⟩
  rw [← List.append_assoc] at hx
  rcases List.mem_append.mp hx with hold | hlast
  · exact hfree x hold
  · rw [List.mem_singleton.mp hlast]
    exact ⟨htry, hunlock⟩

/-- A call of the handler at work leaves it there, begins its end, or powers the TV off. -/
theorem note_working (htry : c ≠ .tryLock) (hunlock : c ≠ .unlock) (r : CallReply c) :
    Stage.working.note c r = .working
    ∨ Stage.working.note c r = .closing
    ∨ Stage.working.note c r = .off
        ∧ ∃ tv, (⟨c, r⟩ : Exchange Call CallReply) = ⟨.powerOff tv, .ok ()⟩ := by
  unfold note
  split <;> simp_all

/-- **Each call keeps the account.** -/
theorem Account.note (h : stage.Account own) (hpermits : stage.permits c) (r : CallReply c) :
    (stage.note c r).Account (own ++ [⟨c, r⟩]) := by
  cases stage with
  -- outside: only taking the lock goes in
  | outside tried saw =>
    cases c with
    | tryLock =>
      match r with
      | .ok true =>
        exact ⟨own, [], rfl, List.forall_mem_nil _, hpermits.imp h.1 h.2⟩
      | .ok false | .error err => exact ⟨nofun, nofun⟩
    | readOutcome =>
      match r with
      | .ok (some .retryableTransportFailure) =>
        exact h.outside .readOutcome _ true nofun fun _ => rfl
      | .ok (some .completed) | .ok (some .inProgress) | .ok none | .error err =>
        exact h.outside .readOutcome _ false nofun nofun
    | writeLine _ | flush | sleep _ | markAttempted | clearAttempt =>
      exact h.outside _ r false nofun nofun
    | _ => cases hpermits
  | fresh =>
    obtain ⟨before, reading, rfl, hfree, hadmitted⟩ := h
    cases c with
    | unlock => exact ⟨nofun, nofun⟩
    | writeLine line =>
      refine ⟨before, reading ++ [⟨.writeLine line, r⟩], by simp, fun x hx => ?_, hadmitted⟩
      rcases List.mem_append.mp hx with hold | hlast
      · exact hfree x hold
      · rw [List.mem_singleton.mp hlast]
        exact ⟨nofun, nofun⟩
    | readOutcome =>
      -- the outcome just read is what entitles to an attempt
      have hread (outcome : Option SystemSleepCycleOutcome) (houtcome : outcome ≠ some .completed) :
          Entitled (before ++ ⟨.tryLock, .ok true⟩ :: reading ++ [⟨.readOutcome, .ok outcome⟩]) :=
        ⟨before, reading, outcome, [], by simp, by simpa using hfree, houtcome, hadmitted⟩
      match r with
      | .ok (some .completed) | .error err => trivial
      | .ok (some .inProgress) | .ok (some .retryableTransportFailure) | .ok none =>
        exact hread _ nofun
    | _ => cases hpermits
  -- at work: the power-off that succeeds begins to owe an outcome
  | working =>
    by_cases hunlock : c = .unlock
    · subst hunlock
      exact ⟨nofun, nofun⟩
    · have htry : c ≠ .tryLock := by
        rintro rfl
        cases hpermits
      obtain hnote | hnote | ⟨hnote, tv, hoff⟩ := note_working htry hunlock r
      · rw [hnote]
        exact entitled_concat h htry hunlock r
      · rw [hnote]
        trivial
      · rw [hnote, hoff]
        show observe noteOwes false _ = true
        rw [observe_concat]
        rfl
  | off =>
    cases c with
    | createMarker =>
      cases r with
      | ok _ =>
        show observe noteOwes false _ = true
        rw [observe_concat]
        exact h
      | error err => trivial
    | _ => cases hpermits
  | marked =>
    cases c with
    | markerExists =>
      show observe noteOwes false _ = true
      rw [observe_concat]
      exact h
    | _ => cases hpermits
  | looked marker =>
    cases c with
    | writeOutcome outcome => trivial
    | _ => cases hpermits
  | closing =>
    cases c with
    | unlock => exact ⟨nofun, nofun⟩
    | _ => cases hpermits

end

/-! ## A process and the files -/

section

variable {stage : Stage} {c : Call} {w : World} (env : Environment) (pid : Pid)

/-- Only the two lock operations lead into or out of the lock. -/
theorem holding_note (htry : c ≠ .tryLock) (hunlock : c ≠ .unlock) (r : CallReply c) :
    (stage.note c r).holding = stage.holding := by
  unfold note
  split <;> simp_all [holding]

/-- The stage keeps track of the lock. -/
theorem answer_holding (hpermits : stage.permits c)
    (hlock : stage.holding = true ↔ w.lock = some pid) :
    (stage.note c (w.answer env pid c).1).holding = true
      ↔ (w.answer env pid c).2.lock = some pid := by
  by_cases htry : c = .tryLock
  · subst htry
    cases stage with
    | outside tried saw =>
      dsimp only [World.answer]
      cases env .tryLock with
      | error err => exact hlock
      | ok _ =>
        cases hfree : w.lock with
        | none => exact ⟨fun _ => rfl, fun _ => rfl⟩
        | some owner =>
          dsimp only
          rw [hfree]
          rw [hfree] at hlock
          exact hlock
    | _ => cases hpermits
  · by_cases hunlock : c = .unlock
    · subst hunlock
      have hown : stage.holding = true := by
        cases stage with
        | outside tried saw => cases hpermits
        | _ => rfl
      have hleft (r : CallReply .unlock) : stage.note .unlock r = .outside true false := by
        cases stage with
        | outside tried saw => cases hpermits
        | _ => rfl
      show _ ↔ (if w.lock = some pid then none else w.lock) = some pid
      rw [hleft, if_pos (hlock.mp hown)]
      exact ⟨nofun, nofun⟩
    · rw [holding_note htry hunlock, World.answer_lock_eq env pid htry hunlock]
      exact hlock

/-- A call leaves the lock of another process alone. -/
theorem answer_lock_other (hpermits : stage.permits c)
    (hlock : stage.holding = true ↔ w.lock = some pid) {q : Pid} (hq : q ≠ pid) :
    (w.answer env pid c).2.lock = some q ↔ w.lock = some q := by
  by_cases htry : c = .tryLock
  · subst htry
    dsimp only [World.answer]
    cases env .tryLock with
    | error err => rfl
    | ok _ =>
      cases hfree : w.lock with
      | none =>
        refine ⟨fun h => ?_, nofun⟩
        exact absurd (Option.some.inj h).symm hq
      | some owner =>
        dsimp only
        rw [hfree]
  · by_cases hunlock : c = .unlock
    · subst hunlock
      have hown : w.lock = some pid := by
        refine hlock.mp ?_
        cases stage with
        | outside tried saw => cases hpermits
        | _ => rfl
      show (if w.lock = some pid then none else w.lock) = some q ↔ _
      rw [if_pos hown, hown]
      refine ⟨nofun, fun h => ?_⟩
      exact absurd (Option.some.inj h).symm hq
    · rw [World.answer_lock_eq env pid htry hunlock]

end

section

variable {stage : Stage} {c : Call}

/-- The TV is given orders in the working stage only. -/
theorem permits_tv (hpermits : stage.permits c) (htv : c.isTvCommand = true) :
    stage = .working := by
  cases stage with
  | working => rfl
  | _ =>
    cases c with
    | currentInput _ | powerOff _ | setInput _ _ | wake _ _ => cases hpermits
    | _ => cases htv

/-- Only an owner that is deciding writes the outcome. -/
theorem permits_writeOutcome {outcome : SystemSleepCycleOutcome}
    (hpermits : stage.permits (.writeOutcome outcome)) : stage.deciding = true := by
  cases stage with
  | working | looked _ => rfl
  | _ => cases hpermits

/-- No rail removes the outcome. -/
theorem not_permits_clearOutcome : ¬ stage.permits .clearOutcome := by
  intro hpermits
  cases stage with
  | _ => cases hpermits

/-- The marker is removed under the lock. -/
theorem permits_clearMarker (hpermits : stage.permits .clearMarker) : stage.holding = true := by
  cases stage with
  | outside tried saw => cases hpermits
  | _ => rfl

/-- Who decides holds the lock. -/
theorem holding_of_deciding (h : stage.deciding = true) : stage.holding = true := by
  cases stage with
  | outside tried saw => cases h
  | _ => rfl

/-- Who owes an outcome decides. -/
theorem deciding_of_owing (h : stage.owing = true) : stage.deciding = true := by
  cases stage with
  | off | marked | looked _ => rfl
  | _ => cases h

/-- How a power-off comes to be owed. -/
theorem owing_note {r : CallReply c} (hstage : stage.owing = false)
    (h : (stage.note c r).owing = true) :
    stage.note c r = .off ∧ ∃ tv, (⟨c, r⟩ : Exchange Call CallReply) = ⟨.powerOff tv, .ok ()⟩ := by
  unfold note at h ⊢
  split at h
  all_goals simp_all [owing]

/-- How a deciding stage is reached. -/
theorem deciding_note {r : CallReply c} (hpermits : stage.permits c)
    (h : (stage.note c r).deciding = true) :
    (stage.deciding = true ∧ ∀ outcome, c = .writeOutcome outcome → outcome = .inProgress)
      ∨ ∃ outcome, outcome ≠ some .completed
          ∧ (⟨c, r⟩ : Exchange Call CallReply) = ⟨.readOutcome, .ok outcome⟩ := by
  by_cases hwrite : ∃ outcome, c = .writeOutcome outcome
  · obtain ⟨outcome, rfl⟩ := hwrite
    refine .inl ⟨permits_writeOutcome hpermits, fun outcome' heq => ?_⟩
    cases heq
    cases stage with
    | working =>
      cases outcome with
      | inProgress => rfl
      | completed | retryableTransportFailure => cases h
    | looked marker => cases h
    | _ => cases hpermits
  · unfold note at h
    split at h
    all_goals simp_all [deciding]

end

end Stage

open Stage

/-! ## All processes and the files -/

/-- The stage of each process. -/
abbrev stageOf (events : List RailEvent) (pid : Pid) : Stage :=
  seen Stage.note Stage.start events pid

/-- A call moves the caller's stage. -/
theorem stageOf_called (events : List RailEvent) (pid : Pid) (x : Exchange Call CallReply) :
    stageOf (events ++ [.called pid x]) pid = (stageOf events pid).note x.1 x.2 :=
  seen_called_self pid x

/-- A call moves no other process's stage. -/
theorem stageOf_other (events : List RailEvent) {pid q : Pid} (x : Exchange Call CallReply)
    (hq : q ≠ pid) : stageOf (events ++ [.called pid x]) q = stageOf events q :=
  seen_called_other x hq

structure RailInv (events : List RailEvent) (w : World) : Prop where
  account : ∀ pid, (stageOf events pid).Account (own events pid)
  lock : ∀ pid, (stageOf events pid).holding = true ↔ w.lock = some pid
  deciding : ∀ pid, (stageOf events pid).deciding = true → w.outcome ≠ some .completed
  completed : (cycleWatch events).completed = true → w.outcome = some .completed

namespace RailInv

variable {events : List RailEvent} {w : World} {pid q : Pid} {c : Call} {env : Environment}

/-- Two processes in possession of the lock are one. -/
theorem unique (h : RailInv events w) (hpid : (stageOf events pid).holding = true)
    (hq : (stageOf events q).holding = true) : q = pid := by
  have hlock := (h.lock pid).mp hpid
  rw [(h.lock q).mp hq] at hlock
  exact Option.some.inj hlock

/-- The outcome is changed only by a process that is deciding. -/
theorem answer_outcome (hpermits : (stageOf events pid).permits c)
    (hstage : (stageOf events pid).deciding = false) :
    (w.answer env pid c).2.outcome = w.outcome := by
  refine World.answer_outcome_eq env pid ?_ ?_
  · rintro outcome rfl
    rw [permits_writeOutcome hpermits] at hstage
    cases hstage
  · rintro rfl
    exact not_permits_clearOutcome hpermits

/-- Once the outcome is `completed`, nobody is deciding. -/
theorem deciding_eq_false (h : RailInv events w) (hcompleted : w.outcome = some .completed)
    (pid : Pid) : (stageOf events pid).deciding = false := by
  cases hstage : (stageOf events pid).deciding with
  | false => rfl
  | true => exact absurd hcompleted (h.deciding pid hstage)

/-- What a deciding process writes without having decided. -/
theorem answer_outcome_ne (houtcome : w.outcome ≠ some .completed)
    (hpermits : (stageOf events pid).permits c)
    (hwrite : ∀ outcome, c = .writeOutcome outcome → outcome = .inProgress) :
    (w.answer env pid c).2.outcome ≠ some .completed := by
  by_cases hc : ∃ outcome, c = .writeOutcome outcome
  · obtain ⟨outcome, rfl⟩ := hc
    obtain ⟨err, herr⟩ | hok := World.answer_writeOutcome env pid (w := w) outcome
    · rw [herr]
      exact houtcome
    · rw [hok, hwrite outcome rfl]
      exact nofun
  · rw [World.answer_outcome_eq env pid (fun outcome heq => hc ⟨outcome, heq⟩)]
    · exact houtcome
    · rintro rfl
      exact not_permits_clearOutcome hpermits

/-- **A call keeps the invariant.** -/
theorem call (h : RailInv events w) (hpermits : (stageOf events pid).permits c) :
    RailInv (events ++ [.called pid ⟨c, (w.answer env pid c).1⟩]) (w.answer env pid c).2 where
  account q := by
    by_cases hq : q = pid
    · subst hq
      rw [stageOf_called, own_concat, noteOwn_self]
      exact (h.account q).note hpermits _
    · rw [stageOf_other _ _ hq, own_concat, noteOwn_other _ _ hq]
      exact h.account q
  lock q := by
    by_cases hq : q = pid
    · subst hq
      rw [stageOf_called]
      exact answer_holding env q hpermits (h.lock q)
    · rw [stageOf_other _ _ hq,
        answer_lock_other env pid hpermits (h.lock pid) hq]
      exact h.lock q
  deciding q hdeciding := by
    by_cases hq : q = pid
    · subst hq
      rw [stageOf_called] at hdeciding
      obtain ⟨hstage, hwrite⟩ | ⟨outcome, houtcome, hread⟩ := deciding_note hpermits hdeciding
      · exact answer_outcome_ne (h.deciding q hstage) hpermits hwrite
      · obtain rfl : c = .readOutcome := congrArg Sigma.fst hread
        have hanswer := eq_of_heq (Sigma.mk.inj hread).2
        obtain ⟨err, herr⟩ | hok := World.answer_readOutcome env q (w := w)
        · rw [herr] at hanswer
          cases hanswer
        · rw [hok] at hanswer ⊢
          rw [Except.ok.inj hanswer]
          exact houtcome
    · -- another process is deciding, so this one is without the lock
      rw [stageOf_other _ _ hq] at hdeciding
      rw [answer_outcome hpermits]
      · exact h.deciding q hdeciding
      · cases hstage : (stageOf events pid).deciding with
        | false => rfl
        | true =>
          exact absurd (h.unique (holding_of_deciding hstage) (holding_of_deciding hdeciding)) hq
  completed hwatch := by
    rw [cycleWatch_concat] at hwatch
    by_cases hdone : c = .writeOutcome .completed
    · subst hdone
      obtain ⟨err, herr⟩ | hok := World.answer_writeOutcome env pid (w := w) .completed
      · rw [herr] at hwatch ⊢
        exact h.completed hwatch
      · rw [hok]
    · rw [CycleWatch.note_completed hdone] at hwatch
      have hcompleted := h.completed hwatch
      rw [answer_outcome hpermits (h.deciding_eq_false hcompleted pid)]
      exact hcompleted

/-- A process starts anew, or dies: in any case it has no lock then. -/
theorem reset (h : RailInv events w) {events' : List RailEvent} {w' : World}
    (hstage : ∀ q, stageOf events' q = if q = pid then Stage.start else stageOf events q)
    (hown : own events' = Function.update (own events) pid [])
    (hwatch : cycleWatch events' = cycleWatch events) (hfree : w'.lock ≠ some pid)
    (hother : ∀ q, q ≠ pid → (w'.lock = some q ↔ w.lock = some q))
    (houtcome : w'.outcome = w.outcome) : RailInv events' w' where
  account q := by
    rw [hstage, hown, Function.update_apply]
    split
    · exact account_start
    · exact h.account q
  lock q := by
    rw [hstage]
    split
    · rename_i hq
      subst hq
      refine ⟨fun hholding => ?_, fun hlock => absurd hlock hfree⟩
      cases hholding
    · rename_i hq
      rw [hother q hq]
      exact h.lock q
  deciding q hdeciding := by
    rw [hstage] at hdeciding
    rw [houtcome]
    split at hdeciding
    · cases hdeciding
    · exact h.deciding q hdeciding
  completed hcompleted := by
    rw [hwatch] at hcompleted
    rw [houtcome]
    exact h.completed hcompleted

/-- The start of a rail keeps the invariant. -/
theorem start (h : RailInv events w) (rail : Rail) (hidle : Left (stageOf events pid)) :
    RailInv (events ++ [.started pid rail]) w := by
  refine h.reset (fun q => seen_started pid q rail) ?_ ?_ ?_ (fun _ _ => Iff.rfl) rfl
  · rw [own_concat]
    rfl
  · rw [cycleWatch_concat]
    rfl
  · rw [Ne, ← h.lock pid, show (stageOf events pid).holding = false from hidle]
    exact nofun

/-- The death of a process keeps the invariant: the kernel takes its lock back. -/
theorem die (h : RailInv events w) (pid : Pid) :
    RailInv (events ++ [.died pid]) (w.release pid) := by
  have hlock : (w.release pid).lock = if w.lock = some pid then none else w.lock := rfl
  refine h.reset (fun q => seen_died pid q) ?_ ?_ ?_ (fun q hq => ?_) rfl
  · rw [own_concat]
    rfl
  · rw [cycleWatch_concat]
    rfl
  · rw [hlock]
    split
    · exact nofun
    · assumption
  · rw [hlock]
    split
    · rename_i hown
      rw [hown]
      refine ⟨nofun, fun heq => ?_⟩
      exact absurd (Option.some.inj heq).symm hq
    · rfl

/-- What disturbs the rails from outside keeps the invariant. -/
theorem disturb (h : RailInv events w) (x : RailDisturbance) :
    RailInv (events ++ [.disturbed x]) (w.disturb x) where
  account q := by
    rw [stageOf, seen_disturbed, own_concat]
    exact h.account q
  lock q := by
    rw [stageOf, seen_disturbed]
    cases x with
    | clearOutcome => exact h.lock q
    | setMarker present => exact h.lock q
  deciding q hdeciding := by
    rw [stageOf, seen_disturbed] at hdeciding
    cases x with
    | clearOutcome => exact nofun
    | setMarker present => exact h.deciding q hdeciding
  completed hcompleted := by
    rw [cycleWatch_concat] at hcompleted
    cases x with
    | clearOutcome => cases hcompleted
    | setMarker present => exact h.completed hcompleted

/-- Every move keeps the invariant. -/
theorem move (h : RailInv events w) {i : RailInput} {events' : List RailEvent} {w' : World}
    (hmove : Move rails Stage.permits Stage.note Stage.start Left events w i events' w') :
    RailInv (events ++ events') w' := by
  cases hmove with
  | none =>
    rw [List.append_nil]
    exact h
  | start pid rail hidle => exact h.start rail hidle
  | call pid env c hpermits => exact h.call hpermits
  | die pid => exact h.die pid
  | disturb x => exact h.disturb x

section

variable {i : RailInput} {events' : List RailEvent} {w' : World}

/-- Who gives orders to the TV. -/
theorem tv_command (h : RailInv events w)
    (hmove : Move rails Stage.permits Stage.note Stage.start Left events w i events' w')
    {r : CallReply c} (hcalled : .called pid ⟨c, r⟩ ∈ events') (htv : c.isTvCommand = true) :
    w.lock = some pid ∧ (cycleWatch events).completed = false ∧ Entitled (own events pid) := by
  cases hmove with
  | none => cases hcalled
  | start _ _ _ | die _ | disturb _ => cases List.mem_singleton.mp hcalled
  | call pid' env c' hpermits =>
    cases List.mem_singleton.mp hcalled
    have hworking : stageOf events pid = .working := permits_tv hpermits htv
    refine ⟨?_, ?_, ?_⟩
    · refine (h.lock pid).mp ?_
      rw [hworking]
      rfl
    · cases hcompleted : (cycleWatch events).completed with
      | false => rfl
      | true =>
        have hdeciding := h.deciding_eq_false (h.completed hcompleted) pid
        rw [hworking] at hdeciding
        cases hdeciding
    · have haccount := h.account pid
      rw [hworking] at haccount
      exact haccount

/-- Who changes the outcome. -/
theorem outcome_change (h : RailInv events w)
    (hmove : Move rails Stage.permits Stage.note Stage.start Left events w i events' w')
    (hchange : w'.outcome ≠ w.outcome) :
    i = .disturb .clearOutcome ∨ ∃ pid env, i = .step pid env ∧ w.lock = some pid := by
  cases hmove with
  | none | start _ _ _ | die _ => exact absurd rfl hchange
  | call pid env c hpermits =>
    refine .inr ⟨pid, env, rfl, (h.lock pid).mp ?_⟩
    cases hdeciding : (stageOf events pid).deciding with
    | true => exact holding_of_deciding hdeciding
    | false => exact absurd (answer_outcome hpermits hdeciding) hchange
  | disturb x =>
    cases x with
    | clearOutcome => exact .inl rfl
    | setMarker present => exact absurd rfl hchange

end

end RailInv

/-! ## Power-offs that are recorded -/

/-- In a run in which every owner with a successful power-off goes on to store its outcome. -/
structure RailCalm (events : List RailEvent) (w : World) : Prop where
  marked : ∀ pid, stageOf events pid = .marked → w.marker = true
  looked : ∀ pid, stageOf events pid ≠ .looked false
  recorded : (cycleWatch events).powerOffs = 0
    ∨ (cycleWatch events).powerOffs = 1
        ∧ (w.outcome = some .completed ∨ ∃ pid, (stageOf events pid).owing = true)

namespace RailCalm

variable {events : List RailEvent} {w : World} {pid q : Pid} {c : Call} {env : Environment}

/-- An owner whose power-off succeeded owes its outcome. -/
theorem owes_of_owing (hinv : RailInv events w) (pid : Pid) (h : (stageOf events pid).owing = true) :
    owes events pid = true := by
  have haccount := hinv.account pid
  cases hstage : stageOf events pid with
  | off | marked | looked _ =>
    rw [hstage] at haccount
    exact haccount
  | _ =>
    rw [hstage] at h
    cases h

/-- The power-off of process `pid` is the first of its cycle: it is deciding, and no other power-off
is owed. -/
theorem powerOffs_eq_zero (hinv : RailInv events w) (h : RailCalm events w) (pid : Pid)
    (hdeciding : (stageOf events pid).deciding = true)
    (howing : (stageOf events pid).owing = false) : (cycleWatch events).powerOffs = 0 := by
  obtain hzero | ⟨-, hcompleted | ⟨q, hq⟩⟩ := h.recorded
  · exact hzero
  · exact absurd hcompleted (hinv.deciding pid hdeciding)
  · have hsame := hinv.unique (holding_of_deciding hdeciding)
      (holding_of_deciding (deciding_of_owing hq))
    rw [hsame, howing] at hq
    cases hq

/-- A process that owes nothing makes a call: it has no power-off to record before, and at most
the one of this call after it. -/
theorem call_clear (hinv : RailInv events w) (h : RailCalm events w)
    (hpermits : (stageOf events pid).permits c) (howing : (stageOf events pid).owing = false) :
    RailCalm (events ++ [.called pid ⟨c, (w.answer env pid c).1⟩]) (w.answer env pid c).2 where
  marked q hmarked := by
    by_cases hq : q = pid
    · subst hq
      rw [stageOf_called] at hmarked
      have hnote := (owing_note howing (by rw [hmarked]; rfl)).1
      rw [hmarked] at hnote
      cases hnote
    · rw [stageOf_other _ _ hq] at hmarked
      -- only a holder clears the marker, and there is no second one
      refine World.answer_marker env pid ?_ (h.marked q hmarked)
      rintro rfl
      have hholding : (stageOf events q).holding = true := by
        rw [hmarked]
        rfl
      exact hq (hinv.unique (permits_clearMarker hpermits) hholding)
  looked q hlooked := by
    by_cases hq : q = pid
    · subst hq
      rw [stageOf_called] at hlooked
      have hnote := (owing_note howing (by rw [hlooked]; rfl)).1
      rw [hlooked] at hnote
      cases hnote
    · rw [stageOf_other _ _ hq] at hlooked
      exact h.looked q hlooked
  recorded := by
    rw [cycleWatch_concat]
    -- a power-off is the first of its cycle, any other call keeps the count
    by_cases hoff : ∃ tv, (⟨c, (w.answer env pid c).1⟩ : Exchange Call CallReply)
        = ⟨.powerOff tv, .ok ()⟩
    · obtain ⟨tv, hoff⟩ := hoff
      obtain rfl : c = .powerOff tv := congrArg Sigma.fst hoff
      have hworking := permits_tv hpermits rfl
      have hzero := h.powerOffs_eq_zero hinv pid (by rw [hworking]; rfl) howing
      rw [hoff]
      refine .inr ⟨?_, .inr ⟨pid, ?_⟩⟩
      · show (cycleWatch events).powerOffs + 1 = 1
        rw [hzero]
      · rw [stageOf_called, hworking]
        rfl
    · rw [CycleWatch.note_powerOffs fun tv heq => hoff ⟨tv, heq⟩]
      refine h.recorded.imp_right (And.imp_right fun hrecorded => ?_)
      refine hrecorded.imp (fun hcompleted => ?_) fun hq => ?_
      · rw [RailInv.answer_outcome hpermits (hinv.deciding_eq_false hcompleted pid)]
        exact hcompleted
      · obtain ⟨q, hq⟩ := hq
        refine ⟨q, ?_⟩
        have hne : q ≠ pid := by
          rintro rfl
          rw [howing] at hq
          cases hq
        rw [stageOf_other _ _ hne]
        exact hq

/-- A process that owes an outcome is the only one that matters. -/
theorem owner_call (hinv : RailInv events w) (h : RailCalm events w)
    (howing : (stageOf events pid).owing = true) {r : CallReply c} {w' : World}
    (hmarked : (stageOf events pid).note c r = .marked → w'.marker = true)
    (hlooked : (stageOf events pid).note c r ≠ .looked false)
    (hoff : ∀ tv, (⟨c, r⟩ : Exchange Call CallReply) ≠ ⟨.powerOff tv, .ok ()⟩)
    (hrecorded : w'.outcome = some .completed ∨ ((stageOf events pid).note c r).owing = true) :
    RailCalm (events ++ [.called pid ⟨c, r⟩]) w' where
  marked q hq := by
    by_cases heq : q = pid
    · subst heq
      rw [stageOf_called] at hq
      exact hmarked hq
    · rw [stageOf_other _ _ heq] at hq
      have hholding : (stageOf events q).holding = true := by
        rw [hq]
        rfl
      exact absurd (hinv.unique (holding_of_deciding (deciding_of_owing howing)) hholding) heq
  looked q hq := by
    by_cases heq : q = pid
    · subst heq
      rw [stageOf_called] at hq
      exact hlooked hq
    · rw [stageOf_other _ _ heq] at hq
      exact h.looked q hq
  recorded := by
    rw [cycleWatch_concat, CycleWatch.note_powerOffs hoff]
    refine h.recorded.imp_right (And.imp_right fun _ => hrecorded.imp_right fun howing' => ?_)
    refine ⟨pid, ?_⟩
    rw [stageOf_called]
    exact howing'

/-- It creates its marker, finds it, and stores `completed`. -/
theorem call_owing (hinv : RailInv events w) (h : RailCalm events w)
    (hpermits : (stageOf events pid).permits c) (howing : (stageOf events pid).owing = true)
    (hsteady : Steady events (.step pid env)) :
    RailCalm (events ++ [.called pid ⟨c, (w.answer env pid c).1⟩]) (w.answer env pid c).2 := by
  obtain ⟨hcreate, hexists, hwrite⟩ := hsteady (owes_of_owing hinv pid howing)
  cases hstage : stageOf events pid with
  -- powered off: the marker is created next, and in a steady run it is
  | off =>
    rw [hstage] at hpermits
    cases c with
    | createMarker =>
      have hanswer : w.answer env pid .createMarker = (.ok (), { w with marker := true }) := by
        dsimp only [World.answer]
        rw [hcreate]
      rw [hanswer]
      refine h.owner_call hinv howing (fun _ => rfl) ?_ nofun ?_
      · rw [hstage]
        exact nofun
      · rw [hstage]
        exact .inr rfl
    | _ => cases hpermits
  -- the marker just created is the one looked at
  | marked =>
    rw [hstage] at hpermits
    cases c with
    | markerExists =>
      have hanswer : w.answer env pid .markerExists = (true, w) := by
        dsimp only [World.answer]
        rw [h.marked pid hstage, hexists]
        rfl
      rw [hanswer]
      refine h.owner_call hinv howing (fun hnote => ?_) ?_ nofun ?_
      · rw [hstage] at hnote
        cases hnote
      · rw [hstage]
        exact nofun
      · rw [hstage]
        exact .inr rfl
    | _ => cases hpermits
  -- with the marker seen the outcome written is completed
  | looked marker =>
    have hmarker : marker = true := by
      cases marker with
      | true => rfl
      | false => exact absurd hstage (h.looked pid)
    rw [hstage] at hpermits
    cases c with
    | writeOutcome outcome =>
      obtain rfl : outcome = .completed := hpermits hmarker
      have hanswer : w.answer env pid (.writeOutcome .completed)
          = (.ok (), { w with outcome := some .completed }) := by
        dsimp only [World.answer]
        rw [hwrite]
      rw [hanswer]
      refine h.owner_call hinv howing (fun hnote => ?_) ?_ nofun (.inl rfl)
      · rw [hstage] at hnote
        cases hnote
      · rw [hstage]
        exact nofun
    | _ => cases hpermits
  | _ =>
    rw [hstage] at howing
    cases howing

/-- A process that owes nothing starts anew, or dies. -/
theorem reset (h : RailCalm events w) (pid : Pid) {events' : List RailEvent} {w' : World}
    (howing : (stageOf events pid).owing = false)
    (hstage : ∀ q, stageOf events' q = if q = pid then Stage.start else stageOf events q)
    (hwatch : cycleWatch events' = cycleWatch events) (hmarker : w'.marker = w.marker)
    (houtcome : w'.outcome = w.outcome) : RailCalm events' w' where
  marked q hq := by
    rw [hstage] at hq
    rw [hmarker]
    split at hq
    · cases hq
    · exact h.marked q hq
  looked q hq := by
    rw [hstage] at hq
    split at hq
    · cases hq
    · exact h.looked q hq
  recorded := by
    rw [hwatch, houtcome]
    refine h.recorded.imp_right (And.imp_right (Or.imp_right fun hq => ?_))
    obtain ⟨q, hq⟩ := hq
    refine ⟨q, ?_⟩
    have hne : q ≠ pid := by
      rintro rfl
      rw [howing] at hq
      cases hq
    rw [hstage, if_neg hne]
    exact hq

/-- Every move of a steady run keeps it so. -/
theorem move (hinv : RailInv events w) (h : RailCalm events w) {i : RailInput}
    {events' : List RailEvent} {w' : World} (hsteady : Steady events i)
    (hmove : Move rails Stage.permits Stage.note Stage.start Left events w i events' w') :
    RailCalm (events ++ events') w' := by
  cases hmove with
  | none =>
    rw [List.append_nil]
    exact h
  -- who starts holds nothing, so it owed nothing before
  | start pid rail hidle =>
    refine h.reset pid ?_ (fun q => seen_started pid q rail) ?_ rfl rfl
    · cases howing : (stageOf events pid).owing with
      | false => rfl
      | true =>
        have hholding := holding_of_deciding (deciding_of_owing howing)
        rw [show (stageOf events pid).holding = false from hidle] at hholding
        cases hholding
    · rw [cycleWatch_concat]
      rfl
  | call pid env c hpermits =>
    cases howing : (stageOf events pid).owing with
    | true => exact h.call_owing hinv hpermits howing hsteady
    | false => exact h.call_clear hinv hpermits howing
  -- a steady death is of a process that owes nothing
  | die pid =>
    refine h.reset pid ?_ (fun q => seen_died pid q) ?_ rfl rfl
    · cases howing : (stageOf events pid).owing with
      | false => rfl
      | true =>
        have howes := owes_of_owing hinv pid howing
        rw [show owes events pid = false from hsteady] at howes
        cases howes
    · rw [cycleWatch_concat]
      rfl
  | disturb x =>
    have hstage (q : Pid) : stageOf (events ++ [.disturbed x]) q = stageOf events q :=
      seen_disturbed x q
    cases x with
    | clearOutcome =>
      refine ⟨fun q hq => ?_, fun q hq => ?_, ?_⟩
      · rw [hstage] at hq
        exact h.marked q hq
      · rw [hstage] at hq
        exact h.looked q hq
      · rw [cycleWatch_concat]
        exact .inl rfl
    -- a steady change of the marker takes none away that is owed
    | setMarker present =>
      refine ⟨fun q hq => ?_, fun q hq => ?_, ?_⟩
      · rw [hstage] at hq
        cases present with
        | true => rfl
        | false =>
          have howes := owes_of_owing hinv q (by rw [hq]; rfl)
          rw [show owes events q = false from hsteady q] at howes
          cases howes
      · rw [hstage] at hq
        exact h.looked q hq
      · rw [cycleWatch_concat]
        refine h.recorded.imp_right (And.imp_right (Or.imp_right fun hq => ?_))
        obtain ⟨q, hq⟩ := hq
        refine ⟨q, ?_⟩
        rw [hstage]
        exact hq

end RailCalm

/-! ## Whole runs -/

section

variable (outcome : Option SystemSleepCycleOutcome) (marker : Bool)

/-- The events of a run of rails, and the state it reaches. -/
abbrev railTrace (inputs : List RailInput) : List RailEvent :=
  trace (step rails) (railsAtRest outcome marker) inputs

abbrev railState (inputs : List RailInput) : State Pid Call CallReply World :=
  exec (step rails) (railsAtRest outcome marker) inputs

/-- An undisturbed run is undisturbed up to its last step, and that step is steady. -/
theorem undisturbed_concat {s : State Pid Call CallReply World} {inputs : List RailInput}
    {i : RailInput} (h : Undisturbed s (inputs ++ [i])) :
    Undisturbed s inputs ∧ Steady (trace (step rails) s inputs) i := by
  refine ⟨fun before j after hsplit => ?_, h inputs i [] rfl⟩
  refine h before j (after ++ [i]) ?_
  rw [hsplit, List.append_assoc, List.cons_append]

/-- Every rail moves as its stage permits. -/
theorem railMove (inputs : List RailInput) (i : RailInput) :
    Move rails Stage.permits Stage.note Stage.start Left (railTrace outcome marker inputs)
      (railState outcome marker inputs).shared i
      (step rails (railState outcome marker inputs) i).2
      (step rails (railState outcome marker inputs) i).1.shared := by
  have hfollows : Follows Stage.permits Stage.note Stage.start Left
      (railTrace outcome marker inputs) (railState outcome marker inputs) :=
    follows (A := rails) wp_railProgram rfl _ inputs
  exact hfollows.move i

/-- In every interleaving the invariant holds, and where nothing disturbs the rails so does the
calm. -/
theorem rail_induct (inputs : List RailInput) :
    RailInv (railTrace outcome marker inputs) (railState outcome marker inputs).shared
    ∧ (Undisturbed (railsAtRest outcome marker) inputs →
        RailCalm (railTrace outcome marker inputs) (railState outcome marker inputs).shared) := by
  refine run_induct (A := rails) wp_railProgram rfl { outcome, marker }
    (P := fun inputs events w => RailInv events w
      ∧ (Undisturbed (railsAtRest outcome marker) inputs → RailCalm events w))
    ?_ (fun inputs i events w' h hmove => ?_) inputs
  · refine ⟨⟨fun _ => account_start, fun _ => ⟨nofun, nofun⟩, nofun, nofun⟩, fun _ => ?_⟩
    exact ⟨nofun, nofun, .inl rfl⟩
  · refine ⟨h.1.move hmove, fun hundisturbed => ?_⟩
    obtain ⟨hbefore, hsteady⟩ := undisturbed_concat hundisturbed
    exact (h.2 hbefore).move h.1 hsteady hmove

end

/-- **One decision for each cycle.** Over any interleaving of rails that start, call and die, and of
changes by others: a command to the TV comes from the owner of the lock, before `completed` is
stored, and by a process that is entitled to it; the outcome changes only by the owner of the lock
or by a resume; and in an undisturbed run at most one power-off of a cycle succeeds. -/
theorem suspend_rail_safety (outcome : Option SystemSleepCycleOutcome) (marker : Bool)
    (inputs : List RailInput) (input : RailInput) :
    (∀ pid c r, .called pid ⟨c, r⟩ ∈ (step rails (railState outcome marker inputs) input).2 →
      c.isTvCommand = true →
        (railState outcome marker inputs).shared.lock = some pid
        ∧ (cycleWatch (railTrace outcome marker inputs)).completed = false
        ∧ Entitled (own (railTrace outcome marker inputs) pid))
    ∧ ((step rails (railState outcome marker inputs) input).1.shared.outcome
          ≠ (railState outcome marker inputs).shared.outcome →
        input = .disturb .clearOutcome
        ∨ ∃ pid env, input = .step pid env
            ∧ (railState outcome marker inputs).shared.lock = some pid)
    ∧ (Undisturbed (railsAtRest outcome marker) inputs →
        (cycleWatch (railTrace outcome marker inputs)).powerOffs ≤ 1) := by
  obtain ⟨hinv, hcalm⟩ := rail_induct outcome marker inputs
  have hmove := railMove outcome marker inputs input
  refine ⟨fun pid c r hcalled htv => hinv.tv_command hmove hcalled htv,
    fun hchange => hinv.outcome_change hmove hchange, fun hundisturbed => ?_⟩
  obtain hzero | ⟨hone, -⟩ := (hcalm hundisturbed).recorded
  · omega
  · omega

/-- A logind rail at work on a TV that answers. -/
def logindRun (pid : Pid) (calls : Nat) : List RailInput :=
  .start pid (.logind (fun _ => none) .sample (.fromLogindPrepareForSleep true))
    :: List.replicate calls (.step pid (.calm .sample))

/-- A single process running alone is undisturbed. -/
theorem undisturbed_logindRun (s : State Pid Call CallReply World) (pid : Pid) (calls : Nat) :
    Undisturbed s (logindRun pid calls) := by
  intro before i after hsplit
  have hmem : i ∈ logindRun pid calls := by
    rw [hsplit]
    simp
  rcases List.mem_cons.mp hmem with hstart | hstep
  · subst hstart
    trivial
  · rw [List.eq_of_mem_replicate hstep]
    exact fun _ => ⟨rfl, rfl, fun _ => rfl⟩

/-- A whole run of the owner: its power-off succeeds, is the only one, and is given as the owner. -/
theorem suspend_rail_safety_one_owner :
    (railState none false (logindRun 0 7)).shared.lock = some 0
    ∧ (cycleWatch (railTrace none false (logindRun 0 12))).powerOffs = 1
    ∧ (cycleWatch (railTrace none false (logindRun 0 12))).powerOffs ≤ 1 := by
  refine ⟨?_, rfl, ?_⟩
  · exact ((suspend_rail_safety none false (logindRun 0 7) (.step 0 (.calm .sample))).1 0
      (.powerOff Config.sample.tvIp) (.ok ()) (List.mem_singleton_self _) rfl).1
  · exact (suspend_rail_safety none false (logindRun 0 12) (.step 0 (.calm .sample))).2.2
      (undisturbed_logindRun _ 0 12)

/-- An owner that dies between its power-off and the stored outcome leaves `inProgress` behind,
and the next owner powers off again. -/
theorem power_off_again_after_death :
    ¬ ∀ inputs : List RailInput, (cycleWatch (railTrace none false inputs)).powerOffs ≤ 1 := by
  intro h
  have htwice : (cycleWatch (railTrace none false
      (logindRun 0 8 ++ .die 0 :: logindRun 1 8))).powerOffs = 2 := rfl
  have honce := h (logindRun 0 8 ++ .die 0 :: logindRun 1 8)
  omega

end LgBuddy
