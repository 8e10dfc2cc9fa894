import LgBuddy.Machine.Mealy
import LgBuddy.Machine.Program
import Mathlib.Logic.Function.Basic

/-!
# Programs that run side by side

Any number of processes, each running a `Program`, share one state. A run is a list of inputs:
a process starts, makes its next call, or dies, or the shared state is changed from outside. Every
interleaving is some list of inputs.

* `Setting` — the programs, how a call is answered, and what is left of a dead process;
* `step` — one input, and the event it causes; `own` — the calls of one process;
* `Follows` — each process keeps to a contract, given what it has seen itself;
* `Move` — what an input can do to the shared state, with the programs replaced by the contract;
* `run_induct` — the invariant rule: it is enough to look at the moves.
-/

namespace Interleaving

open Mealy Program

variable {π κ η ξ ε σ τ : Type} {ρ : ε → Type}

/-- Processes are named by `π`, programs by `κ`; `η` is what an answer depends on besides the
shared state, and `ξ` are the changes from outside. -/
structure Setting (π κ η ξ ε : Type) (ρ : ε → Type) (σ : Type) where
  program : κ → Program ε ρ Unit
  answer : η → π → σ → (e : ε) → ρ e × σ
  bury : π → σ → σ
  disturb : ξ → σ → σ

inductive Input (π κ η ξ : Type) where
  | start (p : π) (k : κ)
  | step (p : π) (env : η)
  | die (p : π)
  | disturb (x : ξ)

inductive Event (π κ ξ ε : Type) (ρ : ε → Type) where
  | started (p : π) (k : κ)
  | called (p : π) (x : Exchange ε ρ)
  | died (p : π)
  | disturbed (x : ξ)

structure State (π ε : Type) (ρ : ε → Type) (σ : Type) where
  shared : σ
  procs : π → Option (Program ε ρ Unit)

variable [DecidableEq π]

/-- A process that is running is not started again, and one that has ended makes no call. -/
def step (A : Setting π κ η ξ ε ρ σ) (s : State π ε ρ σ) :
    Input π κ η ξ → State π ε ρ σ × List (Event π κ ξ ε ρ)
  | .start p k =>
    match s.procs p with
    | none => ({ s with procs := Function.update s.procs p (some (A.program k)) }, [.started p k])
    | some _ => (s, [])
  | .step p env =>
    match s.procs p with
    | none => (s, [])
    | some (.done ()) => ({ s with procs := Function.update s.procs p none }, [])
    | some (.call e k) =>
      let (r, shared) := A.answer env p s.shared e
      ({ shared, procs := Function.update s.procs p (some (k r)) }, [.called p ⟨e, r⟩])
  | .die p =>
    ({ shared := A.bury p s.shared, procs := Function.update s.procs p none }, [.died p])
  | .disturb x => ({ s with shared := A.disturb x s.shared }, [.disturbed x])

section

variable {A : Setting π κ η ξ ε ρ σ} {s : State π ε ρ σ} {p : π}

/-- A process that is not running can be started. -/
theorem step_start (k : κ) (hp : s.procs p = none) :
    step A s (.start p k)
      = ({ s with procs := Function.update s.procs p (some (A.program k)) }, [.started p k]) := by
  simp [step, hp]

/-- A start of a running process does nothing. -/
theorem step_start_running {program : Program ε ρ Unit} (k : κ) (hp : s.procs p = some program) :
    step A s (.start p k) = (s, []) := by
  simp [step, hp]

/-- A step of a process that is not running does nothing. -/
theorem step_stopped (env : η) (hp : s.procs p = none) : step A s (.step p env) = (s, []) := by
  simp [step, hp]

/-- A process that has finished leaves. -/
theorem step_done (env : η) {a : Unit} (hp : s.procs p = some (.done a)) :
    step A s (.step p env) = ({ s with procs := Function.update s.procs p none }, []) := by
  simp [step, hp]

/-- A process at a call gets the answer the setting gives, and the call is logged. -/
theorem step_call (env : η) {e : ε} {k : ρ e → Program ε ρ Unit}
    (hp : s.procs p = some (.call e k)) :
    step A s (.step p env)
      = (⟨(A.answer env p s.shared e).2,
          Function.update s.procs p (some (k (A.answer env p s.shared e).1))⟩,
        [.called p ⟨e, (A.answer env p s.shared e).1⟩]) := by
  simp [step, hp]

end

/-- No process is running. -/
def State.idle (shared : σ) : State π ε ρ σ := ⟨shared, fun _ => none⟩

/-! ## The calls of one process -/

def noteOwn (own : π → List (Exchange ε ρ)) : Event π κ ξ ε ρ → π → List (Exchange ε ρ)
  | .started p _ | .died p => Function.update own p []
  | .called p x => Function.update own p (own p ++ [x])
  | .disturbed _ => own

/-- The calls of each process since it was last started. -/
def own (events : List (Event π κ ξ ε ρ)) : π → List (Exchange ε ρ) :=
  events.foldl noteOwn fun _ => []

section

variable (events : List (Event π κ ξ ε ρ)) {p q : π}

@[simp] theorem own_concat (event : Event π κ ξ ε ρ) :
    own (events ++ [event]) = noteOwn (own events) event := by
  simp [own]

@[simp] theorem noteOwn_self (own : π → List (Exchange ε ρ)) (x : Exchange ε ρ) :
    noteOwn own (.called p x : Event π κ ξ ε ρ) p = own p ++ [x] :=
  Function.update_self p _ own

/-- A call adds nothing to the calls of other processes. -/
theorem noteOwn_other (own : π → List (Exchange ε ρ)) (x : Exchange ε ρ) (h : q ≠ p) :
    noteOwn own (.called p x : Event π κ ξ ε ρ) q = own q :=
  Function.update_of_ne h _ own

/-- What a process calls itself is an event. -/
theorem called_of_own {x : Exchange ε ρ} (hx : x ∈ own events p) : .called p x ∈ events := by
  induction events using List.reverseRec with
  | nil => cases hx
  | append_singleton events event ih =>
    rw [own_concat] at hx
    cases event with
    | started q k =>
      rw [noteOwn, Function.update_apply] at hx
      split at hx
      · cases hx
      · exact List.mem_append_left _ (ih hx)
    | died q =>
      rw [noteOwn, Function.update_apply] at hx
      split at hx
      · cases hx
      · exact List.mem_append_left _ (ih hx)
    | disturbed y => exact List.mem_append_left _ (ih hx)
    | called q y =>
      by_cases hq : p = q
      · subst hq
        rw [noteOwn_self] at hx
        rcases List.mem_append.mp hx with hold | hlast
        · exact List.mem_append_left _ (ih hold)
        · rw [List.mem_singleton.mp hlast]
          exact List.mem_append_right _ (List.mem_singleton_self _)
      · rw [noteOwn_other _ y hq] at hx
        exact List.mem_append_left _ (ih hx)

/-- What a process has called since it was started, is the same whatever was before that. -/
theorem own_append_of_started (before : List (Event π κ ξ ε ρ)) {k : κ}
    (hstarted : .started p k ∈ events) : own (before ++ events) p = own events p := by
  induction events using List.reverseRec with
  | nil => cases hstarted
  | append_singleton events event ih =>
    rw [← List.append_assoc, own_concat, own_concat]
    have hearlier (hne : event ≠ .started p k) : own (before ++ events) p = own events p := by
      rcases List.mem_append.mp hstarted with hold | hlast
      · exact ih hold
      · exact absurd (List.mem_singleton.mp hlast).symm hne
    cases event with
    | started q k' =>
      by_cases hq : p = q
      · subst hq
        simp [noteOwn]
      · simp only [noteOwn, Function.update_of_ne hq]
        exact hearlier fun h => hq (by cases h; rfl)
    | died q =>
      by_cases hq : p = q
      · subst hq
        simp [noteOwn]
      · simp only [noteOwn, Function.update_of_ne hq]
        exact hearlier fun h => by cases h
    | disturbed y => exact hearlier fun h => by cases h
    | called q y =>
      by_cases hq : p = q
      · subst hq
        rw [noteOwn_self, noteOwn_self, hearlier fun h => by cases h]
      · rw [noteOwn_other _ y hq, noteOwn_other _ y hq]
        exact hearlier fun h => by cases h

end

/-! ## Contracts -/

variable (A : Setting π κ η ξ ε ρ σ) (permits : τ → ε → Prop) (note : τ → (e : ε) → ρ e → τ)
  (init : τ) (Q : τ → Prop)

/-- What process `p` has seen itself. -/
def seen (events : List (Event π κ ξ ε ρ)) (p : π) : τ := observe note init (own events p)

/-- A running process keeps to the contract from here on, and one that is not running has ended
as it should. -/
def Keeps (t : τ) : Option (Program ε ρ Unit) → Prop
  | none => Q t
  | some program => wp (.observed permits note) program (fun _ => Q) t

/-- Every process keeps to the contract, given what it has seen itself. -/
def Follows (events : List (Event π κ ξ ε ρ)) (s : State π ε ρ σ) : Prop :=
  ∀ p, Keeps permits note Q (seen note init events p) (s.procs p)

/-- What one input can do, as far as the shared state and the events go. -/
inductive Move (events : List (Event π κ ξ ε ρ)) (shared : σ) :
    Input π κ η ξ → List (Event π κ ξ ε ρ) → σ → Prop
  | none (i : Input π κ η ξ) : Move events shared i [] shared
  | start (p : π) (k : κ) (hidle : Q (seen note init events p)) :
    Move events shared (.start p k) [.started p k] shared
  | call (p : π) (env : η) (e : ε) (hpermits : permits (seen note init events p) e) :
    Move events shared (.step p env) [.called p ⟨e, (A.answer env p shared e).1⟩]
      (A.answer env p shared e).2
  | die (p : π) : Move events shared (.die p) [.died p] (A.bury p shared)
  | disturb (x : ξ) : Move events shared (.disturb x) [.disturbed x] (A.disturb x shared)

/-- To whoever keeps everything. -/
theorem seen_record (events : List (Event π κ ξ ε ρ)) (p : π) :
    seen record [] events p = own events p := by
  rw [seen, observe_record, List.nil_append]

variable {A permits note init Q} {events : List (Event π κ ξ ε ρ)} {s : State π ε ρ σ}

@[simp] theorem seen_called_self (p : π) (x : Exchange ε ρ) :
    seen note init (events ++ [.called p x]) p = note (seen note init events p) x.1 x.2 := by
  simp [seen, observe]

/-- A call of one process is not seen by another. -/
theorem seen_called_other {p q : π} (x : Exchange ε ρ) (h : q ≠ p) :
    seen note init (events ++ [.called p x]) q = seen note init events q := by
  rw [seen, own_concat, noteOwn_other _ x h, seen]

/-- A start resets what the process has seen, and nothing else. -/
theorem seen_started (p q : π) (k : κ) :
    seen note init (events ++ [.started p k]) q
      = if q = p then init else seen note init events q := by
  rw [seen, own_concat, noteOwn, Function.update_apply]
  split <;> rfl

/-- A death resets what the process has seen, and nothing else. -/
theorem seen_died (p q : π) :
    seen note init (events ++ [.died p]) q = if q = p then init else seen note init events q := by
  rw [seen, own_concat, noteOwn, Function.update_apply]
  split <;> rfl

@[simp] theorem seen_disturbed (x : ξ) (q : π) :
    seen note init (events ++ [.disturbed x]) q = seen note init events q := by
  rw [seen, own_concat, noteOwn, seen]

/-- **A step is a move.** The program of the process is forgotten; the contract is kept. -/
theorem Follows.move (h : Follows permits note init Q events s) (i : Input π κ η ξ) :
    Move A permits note init Q events s.shared i (step A s i).2 (step A s i).1.shared := by
  cases i with
  | start p k =>
    have hkeeps := h p
    cases hp : s.procs p with
    | none =>
      rw [hp] at hkeeps
      rw [step_start k hp]
      exact .start p k hkeeps
    | some program =>
      rw [step_start_running k hp]
      exact .none _
  | step p env =>
    have hkeeps := h p
    cases hp : s.procs p with
    | none =>
      rw [step_stopped env hp]
      exact .none _
    | some program =>
      cases program with
      | done a =>
        rw [step_done env hp]
        exact .none _
      | call e k =>
        rw [hp] at hkeeps
        rw [step_call env hp]
        exact .call p env e hkeeps.1
  | die p => exact .die p
  | disturb x => exact .disturb x

/-- Only process `p` has moved. -/
theorem Follows.update (h : Follows permits note init Q events s) {p : π} {shared : σ}
    {status : Option (Program ε ρ Unit)} {events' : List (Event π κ ξ ε ρ)}
    (hother : ∀ q, q ≠ p → seen note init events' q = seen note init events q)
    (hself : Keeps permits note Q (seen note init events' p) status) :
    Follows permits note init Q events' ⟨shared, Function.update s.procs p status⟩ := by
  intro q
  by_cases hq : q = p
  · subst hq
    show Keeps _ _ _ _ (Function.update s.procs q status q)
    rw [Function.update_self]
    exact hself
  · show Keeps _ _ _ _ (Function.update s.procs p status q)
    rw [hother q hq, Function.update_of_ne hq]
    exact h q

/-- Every step keeps each process at a point its program can be at. -/
theorem Follows.step (hprogram : ∀ k, wp (.observed permits note) (A.program k) (fun _ => Q) init)
    (hinit : Q init) (h : Follows permits note init Q events s) (i : Input π κ η ξ) :
    Follows permits note init Q (events ++ (step A s i).2) (step A s i).1 := by
  cases i with
  | start p k =>
    cases hp : s.procs p with
    | some program =>
      rw [step_start_running k hp, List.append_nil]
      exact h
    | none =>
      rw [step_start k hp]
      refine h.update (fun q hq => ?_) ?_
      · rw [seen_started, if_neg hq]
      · rw [seen_started, if_pos rfl]
        exact hprogram k
  | step p env =>
    have hkeeps := h p
    cases hp : s.procs p with
    | none =>
      rw [step_stopped env hp, List.append_nil]
      exact h
    | some program =>
      rw [hp] at hkeeps
      cases program with
      | done a =>
        rw [step_done env hp, List.append_nil]
        exact h.update (fun _ _ => rfl) hkeeps
      -- the call made is one the program may make, and its answer is one it may get
      | call e k =>
        rw [step_call env hp]
        refine h.update (fun q hq => seen_called_other _ hq) ?_
        rw [seen_called_self]
        exact hkeeps.2 _ _ rfl
  | die p =>
    refine h.update (fun q hq => ?_) ?_
    · show seen note init (events ++ [.died p]) q = _
      rw [seen_died, if_neg hq]
    · show Q (seen note init (events ++ [.died p]) p)
      rw [seen_died, if_pos rfl]
      exact hinit
  | disturb x =>
    intro q
    show Keeps _ _ _ (seen note init (events ++ [.disturbed x]) q) _
    rw [seen_disturbed]
    exact h q

section

variable (hprogram : ∀ k, wp (.observed permits note) (A.program k) (fun _ => Q) init)
  (hinit : Q init) (shared : σ)

include hprogram hinit

/-- In every run, from no process running. -/
theorem follows (inputs : List (Input π κ η ξ)) :
    Follows permits note init Q (trace (step A) (.idle shared) inputs)
      (exec (step A) (.idle shared) inputs) :=
  trace_induct (P := Follows permits note init Q) (State.idle shared) (fun _ => hinit)
    (fun _ _ i h => h.step hprogram hinit i) inputs

/-- **The invariant rule.** What every move keeps holds along every run. -/
theorem run_induct {P : List (Input π κ η ξ) → List (Event π κ ξ ε ρ) → σ → Prop}
    (hstart : P [] [] shared)
    (hmove : ∀ inputs i events shared',
      P inputs (trace (step A) (.idle shared) inputs)
          (exec (step A) (.idle shared) inputs).shared →
        Move A permits note init Q (trace (step A) (.idle shared) inputs)
          (exec (step A) (.idle shared) inputs).shared i events shared' →
        P (inputs ++ [i]) (trace (step A) (.idle shared) inputs ++ events) shared') :
    ∀ inputs, P inputs (trace (step A) (.idle shared) inputs)
      (exec (step A) (.idle shared) inputs).shared := by
  refine exec_induct (s := State.idle shared)
    (P := fun inputs (s : State π ε ρ σ) => P inputs (trace (step A) (.idle shared) inputs) s.shared)
    hstart fun inputs i ih => ?_
  rw [trace_concat]
  exact hmove inputs i _ _ ih ((follows hprogram hinit shared inputs).move i)

/-- **Every call of a run.** Each was permitted by what its process had seen itself. -/
theorem called_permitted (inputs : List (Input π κ η ξ)) :
    Justified (fun before event => ∀ p x, event = .called p x →
      permits (seen note init before p) x.1) (trace (step A) (.idle shared) inputs) := by
  refine run_induct hprogram hinit shared
    (P := fun _ events _ => Justified (fun before event => ∀ p x, event = .called p x →
      permits (seen note init before p) x.1) events) .nil (fun inputs i new shared' ih hmove => ?_)
    inputs
  cases hmove with
  | none =>
    rw [List.append_nil]
    exact ih
  | start | die | disturb => exact ih.concat fun p x h => by cases h
  | call q env e hpermits =>
    refine ih.concat fun p x h => ?_
    cases h
    exact hpermits

end

end Interleaving
