import Mathlib.Data.List.Induction

/-!
# Deterministic machines with outputs

A machine is a step function `step : σ → ι → σ × ο`: it consumes one input and answers with one
output. This module runs such a machine over a list of inputs and keeps what happened on the
way, so that a property of whole runs can be reduced to a property of one step:

* `exec` is the state after a run, `outputs` what the run answered, `transitions` the steps it
  took (each with the state it started from);
* `exec_induct` is the invariant rule, with the inputs consumed so far as a ghost history;
* `trace` is the event history of a machine whose answers are lists of events, and `trace_induct`
  the invariant rule over it; `Justified` says of each event what holds of the events before it;
* `outputs_eq_of_rel` is the bisimulation rule: related states answer the same on every
  admissible input sequence, where admissibility may itself depend on the inputs already seen.
-/

namespace Mealy

variable {σ ι ο κ : Type*}

/-- One step of a run: the state it started from, the input and the answer. -/
structure Transition (σ ι ο : Type*) where
  pre : σ
  input : ι
  output : ο
  deriving DecidableEq, Repr

/-- The state after consuming all inputs. -/
def exec (step : σ → ι → σ × ο) : σ → List ι → σ
  | s, [] => s
  | s, i :: is => exec step (step s i).1 is

/-- The steps of a run, oldest first. -/
def transitions (step : σ → ι → σ × ο) : σ → List ι → List (Transition σ ι ο)
  | _, [] => []
  | s, i :: is => ⟨s, i, (step s i).2⟩ :: transitions step (step s i).1 is

/-- The answers of a run, oldest first. -/
def outputs (step : σ → ι → σ × ο) (s : σ) (is : List ι) : List ο :=
  (transitions step s is).map (·.output)

variable {step : σ → ι → σ × ο}

@[simp] theorem exec_nil (s : σ) : exec step s [] = s := rfl

@[simp] theorem exec_cons (s : σ) (i : ι) (is : List ι) :
    exec step s (i :: is) = exec step (step s i).1 is := rfl

/-- A run over two rows of inputs is the second after the first. -/
theorem exec_append (s : σ) (is js : List ι) :
    exec step s (is ++ js) = exec step (exec step s is) js := by
  induction is generalizing s with
  | nil => rfl
  | cons i is ih => simp [ih]

@[simp] theorem exec_concat (s : σ) (is : List ι) (i : ι) :
    exec step s (is ++ [i]) = (step (exec step s is) i).1 := by
  rw [exec_append, exec_cons, exec_nil]

@[simp] theorem transitions_nil (s : σ) : transitions step s [] = [] := rfl

@[simp] theorem transitions_cons (s : σ) (i : ι) (is : List ι) :
    transitions step s (i :: is)
      = ⟨s, i, (step s i).2⟩ :: transitions step (step s i).1 is := rfl

/-- The transitions of two rows are those of the first and then those of the second. -/
theorem transitions_append (s : σ) (is js : List ι) :
    transitions step s (is ++ js)
      = transitions step s is ++ transitions step (exec step s is) js := by
  induction is generalizing s with
  | nil => rfl
  | cons i is ih => simp [ih]

@[simp] theorem transitions_concat (s : σ) (is : List ι) (i : ι) :
    transitions step s (is ++ [i])
      = transitions step s is ++ [⟨exec step s is, i, (step (exec step s is) i).2⟩] := by
  rw [transitions_append, transitions_cons, transitions_nil]

/-- Each step of a run starts where an earlier part of the run has ended. -/
theorem of_mem_transitions {s : σ} {is : List ι} {t : Transition σ ι ο}
    (h : t ∈ transitions step s is) :
    (∃ before, t.pre = exec step s before) ∧ t.output = (step t.pre t.input).2 := by
  induction is generalizing s with
  | nil => cases h
  | cons i is ih =>
    rcases List.mem_cons.mp h with rfl | hrest
    · exact ⟨⟨[], rfl⟩, rfl⟩
    · obtain ⟨⟨before, hpre⟩, hout⟩ := ih hrest
      exact ⟨⟨i :: before, hpre⟩, hout⟩

@[simp] theorem outputs_nil (s : σ) : outputs step s [] = [] := rfl

@[simp] theorem outputs_cons (s : σ) (i : ι) (is : List ι) :
    outputs step s (i :: is) = (step s i).2 :: outputs step (step s i).1 is := rfl

/-- The last output is that of the last input, in the state it is given in. -/
theorem outputs_concat (s : σ) (is : List ι) (i : ι) :
    outputs step s (is ++ [i]) = outputs step s is ++ [(step (exec step s is) i).2] := by
  simp [outputs]

/-! ## The invariant rule -/

/-- **Invariants with history.** A property of (inputs so far, state) that holds at the start
and is kept by every step holds along the whole run. Induction from the right, so that the step
case sees the state the run has really reached. -/
theorem exec_induct {P : List ι → σ → Prop} (s : σ) (hinit : P [] s)
    (hstep : ∀ is i, P is (exec step s is) → P (is ++ [i]) (step (exec step s is) i).1) :
    ∀ is, P is (exec step s is) := by
  intro is
  induction is using List.reverseRecOn with
  | nil => exact hinit
  | append_singleton is i ih =>
    rw [exec_concat]
    exact hstep is i ih

/-- The invariant rule for properties of the state alone. -/
theorem exec_invariant {P : σ → Prop} (hstep : ∀ s i, P s → P (step s i).1)
    {s : σ} (hinit : P s) (is : List ι) : P (exec step s is) :=
  exec_induct (P := fun _ s => P s) s hinit (fun _ _ h => hstep _ _ h) is

/-! ## Machines that emit events -/

section Trace

variable {ε : Type*} {step : σ → ι → σ × List ε}

/-- All events of a run, oldest first. -/
def trace (step : σ → ι → σ × List ε) (s : σ) (is : List ι) : List ε :=
  (outputs step s is).flatten

@[simp] theorem trace_nil (s : σ) : trace step s [] = [] := rfl

@[simp] theorem trace_cons (s : σ) (i : ι) (is : List ι) :
    trace step s (i :: is) = (step s i).2 ++ trace step (step s i).1 is := rfl

@[simp] theorem trace_concat (s : σ) (is : List ι) (i : ι) :
    trace step s (is ++ [i]) = trace step s is ++ (step (exec step s is) i).2 := by
  simp [trace, outputs_concat]

/-- The invariant rule with the events emitted so far as the history. -/
theorem trace_induct {P : List ε → σ → Prop} (s : σ) (hinit : P [] s)
    (hstep : ∀ h s i, P h s → P (h ++ (step s i).2) (step s i).1) (is : List ι) :
    P (trace step s is) (exec step s is) := by
  refine exec_induct (P := fun is s' => P (trace step s is) s') s hinit (fun is i ih => ?_) is
  rw [trace_concat]
  exact hstep _ _ i ih

/-- Every event is in order, given the events before it. -/
def Justified (R : List ε → ε → Prop) (events : List ε) : Prop :=
  ∀ before e after, events = before ++ e :: after → R before e

variable {R : List ε → ε → Prop} {events : List ε}

theorem Justified.nil : Justified R [] := fun before e after h => by simp at h

/-- A justified row stays justified with an event its past justifies. -/
theorem Justified.concat {e : ε} (h : Justified R events) (he : R events e) :
    Justified R (events ++ [e]) := by
  intro before e' after hsplit
  rcases List.eq_nil_or_concat after with rfl | ⟨after, last, rfl⟩
  · obtain ⟨rfl, hlast⟩ := List.append_inj' hsplit rfl
    cases hlast
    exact he
  · rw [List.concat_eq_append, ← List.cons_append, ← List.append_assoc] at hsplit
    exact h before e' after (List.append_inj_left' hsplit rfl)

end Trace

/-! ## The bisimulation rule -/

/-- The input sequences a mode-dependent policy lets through: `ok k i` says that `i` may come
next in mode `k`, and `next k i` is the mode after it. -/
def Admissible (ok : κ → ι → Prop) (next : κ → ι → κ) : κ → List ι → Prop
  | _, [] => True
  | k, i :: is => ok k i ∧ Admissible ok next (next k i) is

/-- **Bisimulation.** If related states give equal answers to every admissible input and stay
related, they give equal answers to every admissible input sequence. -/
theorem outputs_eq_of_rel {ok : κ → ι → Prop} {next : κ → ι → κ} {R : κ → σ → σ → Prop}
    (hstep : ∀ k x y i, R k x y → ok k i →
      (step x i).2 = (step y i).2 ∧ R (next k i) (step x i).1 (step y i).1) :
    ∀ (is : List ι) (k : κ) (x y : σ), R k x y → Admissible ok next k is →
      outputs step x is = outputs step y is := by
  intro is
  induction is with
  | nil => intro _ _ _ _ _; rfl
  | cons i is ih =>
    intro k x y hR ⟨hok, hrest⟩
    obtain ⟨hout, hR'⟩ := hstep k x y i hR hok
    rw [outputs_cons, outputs_cons, hout, ih _ _ _ hR' hrest]

end Mealy
