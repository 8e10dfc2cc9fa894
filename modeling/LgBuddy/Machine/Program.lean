import Mathlib.Init

/-!
# Programs that call their environment

A `Program` is a tree of calls to an environment: each call gives back an answer, and the rest of
the program depends on it. The same tree can be run to its end by one handler (`exec`) or one call
at a time, interleaved with others (`call`/`done` are the whole state of a running program).

* `Contract` says which calls a program may make in which abstract state, and how an answer
  changes that state;
* `wp` is the weakest precondition of a program under a contract: every call is permitted, and
  every run ends in a state with the postcondition. `wp_bind` makes it compositional;
* `wpE` is the same for programs that can fail: one postcondition for results, one for errors;
* `wpS` is the same for programs that also keep a state, which survives an error;
* `wp.exec` and `wp.calls` carry them over to a whole run and to each of its calls, `wp.execUpTo`
  to a run that is stopped;
* `Within` says only which calls a program makes, and `Within.wp` what it then preserves.
-/

inductive Program (ε : Type) (ρ : ε → Type) (α : Type) where
  | done (a : α)
  | call (e : ε) (k : ρ e → Program ε ρ α)

namespace Program

variable {ε : Type} {ρ : ε → Type} {α β χ σ τ : Type}

protected def bind : Program ε ρ α → (α → Program ε ρ β) → Program ε ρ β
  | .done a, f => f a
  | .call e k, f => .call e fun r => (k r).bind f

instance : Monad (Program ε ρ) where
  pure := .done
  bind := Program.bind

/-- One call, answered. -/
def perform (e : ε) : Program ε ρ (ρ e) := .call e .done

@[simp] theorem call_bind (e : ε) (k : ρ e → Program ε ρ α) (f : α → Program ε ρ β) :
    (Program.call e k >>= f : Program ε ρ β) = .call e fun r => k r >>= f := rfl

/-- Run to the end with a handler that answers every call. -/
def exec (handle : σ → (e : ε) → ρ e × σ) : Program ε ρ α → σ → α × σ
  | .done a, s => (a, s)
  | .call e k, s => exec handle (k (handle s e).1) (handle s e).2

/-! ## Contracts -/

structure Contract (ε : Type) (ρ : ε → Type) (τ : Type) where
  /-- The calls that are in order in this state. -/
  permits : τ → ε → Prop
  /-- The answers that are possible in this state, and the state after them. -/
  next : τ → (e : ε) → ρ e → τ → Prop

variable {C : Contract ε ρ τ} {p : Program ε ρ α} {Q Q' : α → τ → Prop} {t : τ}

def wp (C : Contract ε ρ τ) : Program ε ρ α → (α → τ → Prop) → τ → Prop
  | .done a, Q, t => Q a t
  | .call e k, Q, t => C.permits t e ∧ ∀ r t', C.next t e r t' → wp C (k r) Q t'

@[simp] theorem wp_call (e : ε) (k : ρ e → Program ε ρ α) :
    wp C (.call e k) Q t
      ↔ C.permits t e ∧ ∀ r t', C.next t e r t' → wp C (k r) Q t' := Iff.rfl

/-- A single call: it is permitted, and whatever may be answered is good. -/
theorem wp_perform (e : ε) {Q : ρ e → τ → Prop} :
    wp C (perform e) Q t ↔ C.permits t e ∧ ∀ r t', C.next t e r t' → Q r t' := Iff.rfl

/-- Postconditions can be weakened. By induction on the program. -/
theorem wp.mono (hQ : ∀ a t, Q a t → Q' a t) (h : wp C p Q t) : wp C p Q' t := by
  induction p generalizing t with
  | done a => exact hQ a t h
  | call e k ih => exact ⟨h.1, fun r t' ht => ih r (h.2 r t' ht)⟩

/-- Equivalent postconditions have equivalent preconditions. -/
theorem wp_congr (hQ : ∀ a t, Q a t ↔ Q' a t) : wp C p Q t ↔ wp C p Q' t :=
  ⟨wp.mono fun a t => (hQ a t).mp, wp.mono fun a t => (hQ a t).mpr⟩

/-- **Sequencing.** -/
theorem wp_bind {f : α → Program ε ρ β} {Q : β → τ → Prop} :
    wp C (p >>= f) Q t ↔ wp C p (fun a t' => wp C (f a) Q t') t := by
  induction p generalizing t with
  | done a => rfl
  | call e k ih =>
    rw [call_bind, wp_call, wp_call]
    refine and_congr_right fun _ => ?_
    exact forall_congr' fun r => forall_congr' fun t' => imp_congr_right fun _ => ih r

/-- **Running to the end.** A handler whose answers the contract allows ends in a state with the
postcondition, and what every permitted call preserves holds there. -/
theorem wp.execKeeping {handle : σ → (e : ε) → ρ e × σ} (view : σ → τ) {good : σ → Prop}
    (hhandle : ∀ s e, good s → C.permits (view s) e →
      good (handle s e).2 ∧ C.next (view s) e (handle s e).1 (view (handle s e).2))
    {s : σ} (hs : good s) (h : wp C p Q (view s)) :
    good (Program.exec handle p s).2
      ∧ Q (Program.exec handle p s).1 (view (Program.exec handle p s).2) := by
  induction p generalizing s with
  | done a => exact ⟨hs, h⟩
  | call e k ih =>
    obtain ⟨hgood, hnext⟩ := hhandle s e hs h.1
    exact ih _ hgood (h.2 _ _ hnext)

/-- The postcondition alone. -/
theorem wp.exec {handle : σ → (e : ε) → ρ e × σ} (view : σ → τ) {good : σ → Prop}
    (hhandle : ∀ s e, good s →
      good (handle s e).2 ∧ C.next (view s) e (handle s e).1 (view (handle s e).2))
    {s : σ} (hs : good s) (h : wp C p Q (view s)) :
    Q (Program.exec handle p s).1 (view (Program.exec handle p s).2) :=
  (wp.execKeeping view (fun s e hgood _ => hhandle s e hgood) hs h).2

/-- Run for a number of calls at most; nothing comes of a program that makes more. -/
def execUpTo (handle : σ → (e : ε) → ρ e × σ) : Nat → Program ε ρ α → σ → Option α × σ
  | _, .done a, s => (some a, s)
  | 0, .call _ _, s => (none, s)
  | n + 1, .call e k, s => execUpTo handle n (k (handle s e).1) (handle s e).2

/-- **Stopped anywhere.** What every permitted call preserves holds where the run is stopped, and
the postcondition where it is not. -/
theorem wp.execUpTo {handle : σ → (e : ε) → ρ e × σ} (view : σ → τ) {good : σ → Prop}
    (hhandle : ∀ s e, good s → C.permits (view s) e →
      good (handle s e).2 ∧ C.next (view s) e (handle s e).1 (view (handle s e).2))
    (n : Nat) {s : σ} (hs : good s) (h : wp C p Q (view s)) :
    good (Program.execUpTo handle n p s).2
      ∧ ∀ a ∈ (Program.execUpTo handle n p s).1,
        Q a (view (Program.execUpTo handle n p s).2) := by
  induction p generalizing s n with
  | done a =>
    rw [Program.execUpTo]
    exact ⟨hs, fun b hb => by cases hb; exact h⟩
  | call e k ih =>
    cases n with
    | zero => exact ⟨hs, nofun⟩
    | succ n =>
      obtain ⟨hgood, hnext⟩ := hhandle s e hs h.1
      exact ih _ n hgood (h.2 _ _ hnext)

/-- The contract of one handler: the answers are its own. -/
def Contract.handled (handle : σ → (e : ε) → ρ e × σ) : Contract ε ρ σ where
  permits _ _ := True
  next s e r s' := handle s e = (r, s')

/-- Against a handler the precondition is what its run gives. -/
theorem wp_handled {handle : σ → (e : ε) → ρ e × σ} {Q : α → σ → Prop} {s : σ} :
    wp (Contract.handled handle) p Q s ↔ Q (exec handle p s).1 (exec handle p s).2 := by
  induction p generalizing s with
  | done a => rfl
  | call e k ih =>
    rw [wp_call, exec, ← ih]
    constructor
    · exact fun h => h.2 _ _ rfl
    · intro h
      refine ⟨trivial, fun r s' hnext => ?_⟩
      have hnext' : handle s e = (r, s') := hnext
      rw [hnext'] at h
      exact h

/-! ## Histories -/

/-- A call with its answer. -/
abbrev Exchange (ε : Type) (ρ : ε → Type) := (e : ε) × ρ e

/-- The calls of a run, oldest first. -/
def calls (handle : σ → (e : ε) → ρ e × σ) : Program ε ρ α → σ → List (Exchange ε ρ)
  | .done _, _ => []
  | .call e k, s =>
    ⟨e, (handle s e).1⟩ :: calls handle (k (handle s e).1) (handle s e).2

/-- What an observer knows who starts from `t` and notes every exchange. -/
def observe (note : τ → (e : ε) → ρ e → τ) (t : τ) (history : List (Exchange ε ρ)) : τ :=
  history.foldl (fun t x => note t x.1 x.2) t

@[simp] theorem observe_concat (note : τ → (e : ε) → ρ e → τ) (t : τ)
    (history : List (Exchange ε ρ)) (x : Exchange ε ρ) :
    observe note t (history ++ [x]) = note (observe note t history) x.1 x.2 := by
  simp [observe]

/-- The observer that keeps everything. -/
def record (history : List (Exchange ε ρ)) (e : ε) (r : ρ e) : List (Exchange ε ρ) :=
  history ++ [⟨e, r⟩]

/-- Recording keeps the calls in order. -/
theorem observe_record (t history : List (Exchange ε ρ)) :
    observe record t history = t ++ history := by
  induction history generalizing t with
  | nil => rw [List.append_nil]; rfl
  | cons x history ih =>
    show observe record (t ++ [x]) history = _
    rw [ih, List.append_assoc, List.singleton_append]

/-- A handler that keeps what is observed. -/
def noting (note : τ → (e : ε) → ρ e → τ) (handle : σ → (e : ε) → ρ e × σ) (s : σ × τ) (e : ε) :
    ρ e × (σ × τ) :=
  let (r, s') := handle s.1 e
  (r, s', note s.2 e r)

/-- Taking notes beside a handler changes nothing of the run. -/
theorem exec_noting (note : τ → (e : ε) → ρ e → τ) (handle : σ → (e : ε) → ρ e × σ)
    (p : Program ε ρ α) (s : σ) (t : τ) :
    exec (noting note handle) p (s, t)
      = ((exec handle p s).1, (exec handle p s).2, observe note t (calls handle p s)) := by
  induction p generalizing s t with
  | done a => rfl
  | call e k ih => exact ih _ _ _

/-- The contract of an observer: any answer is possible, and is noted. -/
def Contract.observed (permits : τ → ε → Prop) (note : τ → (e : ε) → ρ e → τ) :
    Contract ε ρ τ where
  permits := permits
  next t e r t' := t' = note t e r

/-- **Every run, call by call.** Whoever answers, each call is permitted by what was observed
before it, and the run ends with the postcondition. -/
theorem wp.calls {permits : τ → ε → Prop} {note : τ → (e : ε) → ρ e → τ}
    (h : wp (Contract.observed permits note) p Q t) (handle : σ → (e : ε) → ρ e × σ) (s : σ) :
    (∀ before x after, Program.calls handle p s = before ++ x :: after →
        permits (observe note t before) x.1)
      ∧ Q (Program.exec handle p s).1 (observe note t (Program.calls handle p s)) := by
  induction p generalizing s t with
  | done a => exact ⟨fun before x after hsplit => by simp [Program.calls] at hsplit, h⟩
  | call e k ih =>
    obtain ⟨hnow, hlater⟩ := ih _ (h.2 _ _ rfl) (handle s e).2
    refine ⟨fun before x after hsplit => ?_, hlater⟩
    rw [Program.calls] at hsplit
    cases before with
    | nil =>
      rw [List.nil_append] at hsplit
      rw [← (List.cons.inj hsplit).1]
      exact h.1
    | cons y before =>
      rw [List.cons_append] at hsplit
      obtain ⟨hhead, htail⟩ := List.cons.inj hsplit
      rw [← hhead]
      exact hnow before x after htail

/-- The contract of an observer who knows something of the answers. -/
def Contract.answered (permits : τ → ε → Prop) (possible : τ → (e : ε) → ρ e → Prop)
    (note : τ → (e : ε) → ρ e → τ) : Contract ε ρ τ where
  permits := permits
  next t e r t' := possible t e r ∧ t' = note t e r

/-- A specification holds call by call, when the answers are those of a handler that the observer
keeps track of. -/
theorem wp.calls_of {permits : τ → ε → Prop} {possible : τ → (e : ε) → ρ e → Prop}
    {note : τ → (e : ε) → ρ e → τ} {handle : σ → (e : ε) → ρ e × σ} {R : σ → τ → Prop}
    (hR : ∀ s t e, R s t →
      possible t e (handle s e).1 ∧ R (handle s e).2 (note t e (handle s e).1))
    {s : σ} (hs : R s t) (h : wp (Contract.answered permits possible note) p Q t) :
    (∀ before x after, Program.calls handle p s = before ++ x :: after →
        permits (observe note t before) x.1)
      ∧ R (Program.exec handle p s).2 (observe note t (Program.calls handle p s))
      ∧ Q (Program.exec handle p s).1 (observe note t (Program.calls handle p s)) := by
  induction p generalizing s t with
  | done a => exact ⟨fun before x after hsplit => by simp [Program.calls] at hsplit, hs, h⟩
  | call e k ih =>
    obtain ⟨hpossible, hnext⟩ := hR s t e hs
    obtain ⟨hnow, hlater⟩ := ih _ hnext (h.2 _ _ ⟨hpossible, rfl⟩)
    refine ⟨fun before x after hsplit => ?_, hlater⟩
    rw [Program.calls] at hsplit
    cases before with
    | nil =>
      rw [List.nil_append] at hsplit
      rw [← (List.cons.inj hsplit).1]
      exact h.1
    | cons y before =>
      rw [List.cons_append] at hsplit
      obtain ⟨hhead, htail⟩ := List.cons.inj hsplit
      rw [← hhead]
      exact hnow before x after htail

/-! ## Programs that can fail -/

/-- The postcondition of a result or of an error. -/
def post (Q : α → τ → Prop) (E : χ → τ → Prop) : Except χ α → τ → Prop
  | .ok a, t => Q a t
  | .error x, t => E x t

/-- A postcondition that does not look at the result. -/
theorem post_const {P : τ → Prop} {r : Except χ α} {t : τ} :
    post (fun _ => P) (fun _ => P) r t ↔ P t := by
  cases r with
  | ok a => rfl
  | error x => rfl

def wpE (C : Contract ε ρ τ) (p : ExceptT χ (Program ε ρ) α) (Q : α → τ → Prop)
    (E : χ → τ → Prop) (t : τ) : Prop :=
  wp C p.run (post Q E) t

section

variable {p : ExceptT χ (Program ε ρ) α} {E E' : χ → τ → Prop}

theorem wpE_pure (a : α) :
    wpE C (pure a : ExceptT χ (Program ε ρ) α) Q E t ↔ Q a t := Iff.rfl

/-- Both postconditions can be weakened. -/
theorem wpE.mono (hQ : ∀ a t, Q a t → Q' a t) (hE : ∀ x t, E x t → E' x t)
    (h : wpE C p Q E t) : wpE C p Q' E' t := by
  refine wp.mono (fun r t' hr => ?_) h
  cases r with
  | ok a => exact hQ a t' hr
  | error x => exact hE x t' hr

/-- Sequencing: an error of the first part skips the second. -/
theorem wpE_bind {f : α → ExceptT χ (Program ε ρ) β} {Q : β → τ → Prop} :
    wpE C (p >>= f) Q E t ↔ wpE C p (fun a t' => wpE C (f a) Q E t') E t := by
  unfold wpE
  show wp C (p.run >>= _) _ t ↔ _
  rw [wp_bind]
  refine wp_congr fun r t' => ?_
  cases r with
  | ok a => rfl
  | error x => rfl

/-- The first part as it is specified, then the rest. -/
theorem wpE.bind {f : α → ExceptT χ (Program ε ρ) β} {Q' : β → τ → Prop} (h : wpE C p Q E t)
    (hf : ∀ a t', Q a t' → wpE C (f a) Q' E t') : wpE C (p >>= f) Q' E t :=
  wpE_bind.mpr (wpE.mono hf (fun _ _ hE => hE) h)

/-- A proved program, run by a handler that keeps `good` and answers as the contract says. -/
theorem wpE.exec {handle : σ → (e : ε) → ρ e × σ} (view : σ → τ) {good : σ → Prop}
    (hhandle : ∀ s e, good s →
      good (handle s e).2 ∧ C.next (view s) e (handle s e).1 (view (handle s e).2))
    {s : σ} (hs : good s) (h : wpE C p Q E (view s)) :
    post Q E (Program.exec handle p.run s).1 (view (Program.exec handle p.run s).2) :=
  wp.exec view hhandle hs h

/-- What holds however the program ends. -/
theorem wpE_handled {handle : σ → (e : ε) → ρ e × σ} (P : σ → Prop) {s : σ}
    (h : wpE (.handled handle) p (fun _ => P) (fun _ => P) s) :
    P (Program.exec handle p.run s).2 :=
  post_const.mp (wp_handled.mp h)

/-- A call that itself cannot fail. -/
theorem wpE_lift {q : Program ε ρ α} :
    wpE C (ExceptT.lift q : ExceptT χ (Program ε ρ) α) Q E t ↔ wp C q Q t := by
  unfold wpE
  show wp C (q >>= fun a => Program.done (Except.ok a)) (post Q E) t ↔ _
  rw [wp_bind]
  rfl

/-- A lifted program never throws. -/
theorem wpE_liftM {q : Program ε ρ α} :
    wpE C (liftM q : ExceptT χ (Program ε ρ) α) Q E t ↔ wp C q Q t := wpE_lift

/-- An error under another name. -/
theorem wpE_adapt {χ' : Type} {f : χ → χ'} {E : χ' → τ → Prop} :
    wpE C (ExceptT.adapt f p) Q E t ↔ wpE C p Q (fun x => E (f x)) t := by
  unfold wpE
  show wp C (p.run >>= fun r => Program.done (r.mapError f)) _ t ↔ _
  rw [wp_bind]
  refine wp_congr fun r t' => ?_
  cases r with
  | ok a => rfl
  | error x => rfl

/-- A call whose answer may be an error, which ends the program (`?`). -/
theorem wpE_mk {q : Program ε ρ (Except χ α)} :
    wpE C (ExceptT.mk q) Q E t ↔ wp C q (post Q E) t := Iff.rfl

end

/-! ## Programs that can fail and keep a state -/

/-- The state survives an error. -/
def wpS (C : Contract ε ρ τ) (p : ExceptT χ (StateT σ (Program ε ρ)) α) (Q : α → σ → τ → Prop)
    (E : χ → σ → τ → Prop) (s : σ) (t : τ) : Prop :=
  wp C (p.run.run s) (fun r => post (fun a => Q a r.2) (fun x => E x r.2) r.1) t

section

variable {p : ExceptT χ (StateT σ (Program ε ρ)) α} {Q Q' : α → σ → τ → Prop}
  {E E' : χ → σ → τ → Prop} {s : σ}

theorem wpS_pure (a : α) :
    wpS C (pure a : ExceptT χ (StateT σ (Program ε ρ)) α) Q E s t ↔ Q a s t := Iff.rfl

theorem wpS_throw (x : χ) :
    wpS C (throw x : ExceptT χ (StateT σ (Program ε ρ)) α) Q E s t ↔ E x s t := Iff.rfl

theorem wpS_get {Q : σ → σ → τ → Prop} :
    wpS C (get : ExceptT χ (StateT σ (Program ε ρ)) σ) Q E s t ↔ Q s s t := Iff.rfl

theorem wpS_modify {f : σ → σ} {Q : Unit → σ → τ → Prop} :
    wpS C (modify f : ExceptT χ (StateT σ (Program ε ρ)) Unit) Q E s t ↔ Q () (f s) t := Iff.rfl

/-- A lifted program leaves the state alone. -/
theorem wpS_liftM {q : Program ε ρ α} :
    wpS C (liftM q : ExceptT χ (StateT σ (Program ε ρ)) α) Q E s t
      ↔ wp C q (fun a => Q a s) t := by
  unfold wpS
  show wp C ((q >>= fun a => Program.done (a, s)) >>= fun r => Program.done (Except.ok r.1, r.2)) _ t ↔ _
  rw [wp_bind, wp_bind]
  rfl

/-- Both postconditions can be weakened. -/
theorem wpS.mono (hQ : ∀ a s t, Q a s t → Q' a s t) (hE : ∀ x s t, E x s t → E' x s t)
    (h : wpS C p Q E s t) : wpS C p Q' E' s t := by
  refine wp.mono (fun r t' hr => ?_) h
  obtain ⟨result, s'⟩ := r
  cases result with
  | ok a => exact hQ a s' t' hr
  | error x => exact hE x s' t' hr

/-- Sequencing: an error keeps the state it was thrown in. -/
theorem wpS_bind {f : α → ExceptT χ (StateT σ (Program ε ρ)) β} {Q : β → σ → τ → Prop} :
    wpS C (p >>= f) Q E s t ↔ wpS C p (fun a s' t' => wpS C (f a) Q E s' t') E s t := by
  unfold wpS
  show wp C (p.run.run s >>= _) _ t ↔ _
  rw [wp_bind]
  refine wp_congr fun r t' => ?_
  obtain ⟨result, s'⟩ := r
  cases result with
  | ok a => rfl
  | error x => rfl

/-- The first part as it is specified, then the rest. -/
theorem wpS.bind {f : α → ExceptT χ (StateT σ (Program ε ρ)) β} {Q' : β → σ → τ → Prop}
    (h : wpS C p Q E s t) (hf : ∀ a s' t', Q a s' t' → wpS C (f a) Q' E s' t') :
    wpS C (p >>= f) Q' E s t :=
  wpS_bind.mpr (wpS.mono hf (fun _ _ _ hE => hE) h)

/-- A part whose error is caught as a value. -/
theorem wpS_lift {Q : Except χ α → σ → τ → Prop} :
    wpS C (ExceptT.lift p.run : ExceptT χ (StateT σ (Program ε ρ)) (Except χ α)) Q E s t
      ↔ wpS C p (fun a => Q (.ok a)) (fun x => Q (.error x)) s t := by
  unfold wpS
  show wp C (p.run.run s >>= fun r => Program.done (Except.ok r.1, r.2)) _ t ↔ _
  rw [wp_bind]
  refine wp_congr fun r t' => ?_
  obtain ⟨result, s'⟩ := r
  cases result with
  | ok a => rfl
  | error x => rfl

end

/-! ## Programs that make only certain calls -/

/-- Any answer is possible, and only the calls are looked at. -/
def Contract.only (allowed : ε → Prop) : Contract ε ρ Unit where
  permits _ e := allowed e
  next _ _ _ _ := True

/-- The program makes no call but the allowed ones. -/
def Within (allowed : ε → Prop) (p : Program ε ρ α) : Prop :=
  wp (Contract.only allowed) p (fun _ _ => True) ()

section

variable {allowed : ε → Prop}

theorem Within.done (a : α) : Within allowed (.done a : Program ε ρ α) := trivial

/-- One allowed call. -/
theorem Within.perform {e : ε} (he : allowed e) :
    Within allowed (Program.perform e : Program ε ρ (ρ e)) :=
  ⟨he, fun _ _ _ => trivial⟩

/-- Allowed calls in a row. -/
theorem Within.bind {f : α → Program ε ρ β} (hp : Within allowed p)
    (hf : ∀ a, Within allowed (f a)) : Within allowed (p >>= f) :=
  wp_bind.mpr (wp.mono (fun a _ _ => hf a) hp)

/-- Every program keeps to all calls. -/
theorem Within.all (p : Program ε ρ α) : Within (fun _ => True) p := by
  induction p with
  | done a => trivial
  | call e k ih => exact ⟨trivial, fun r _ _ => ih r⟩

/-- **What the allowed calls preserve, the program preserves.** -/
theorem Within.wp (h : Within allowed p) {I : τ → Prop}
    (hI : ∀ t e, allowed e → I t → C.permits t e ∧ ∀ r t', C.next t e r t' → I t') (ht : I t) :
    wp C p (fun _ => I) t := by
  induction p generalizing t with
  | done a => exact ht
  | call e k ih =>
    obtain ⟨hpermits, hnext⟩ := hI t e h.1 ht
    exact ⟨hpermits, fun r t' hr => ih r (h.2 r () trivial) (hnext r t' hr)⟩

/-- The same for a program that can fail. -/
def WithinE (allowed : ε → Prop) (p : ExceptT χ (Program ε ρ) α) : Prop := Within allowed p.run

/-- And for one that also keeps a state. -/
def WithinS (allowed : ε → Prop) (p : ExceptT χ (StateT σ (Program ε ρ)) α) : Prop :=
  ∀ s, Within allowed (p.run.run s)

/-- Allowed calls in a row, with errors in between. -/
theorem WithinE.bind {p : ExceptT χ (Program ε ρ) α} {f : α → ExceptT χ (Program ε ρ) β}
    (hp : WithinE allowed p) (hf : ∀ a, WithinE allowed (f a)) : WithinE allowed (p >>= f) := by
  refine Within.bind hp fun r => ?_
  cases r with
  | ok a => exact hf a
  | error x => trivial

/-- Lifting adds no calls. -/
theorem WithinE.lift {q : Program ε ρ α} (hq : Within allowed q) :
    WithinE allowed (ExceptT.lift q : ExceptT χ (Program ε ρ) α) :=
  hq.bind fun a => Within.done (Except.ok a)

/-- Allowed calls in a row, with a state that is passed on. -/
theorem WithinS.bind {p : ExceptT χ (StateT σ (Program ε ρ)) α}
    {f : α → ExceptT χ (StateT σ (Program ε ρ)) β} (hp : WithinS allowed p)
    (hf : ∀ a, WithinS allowed (f a)) : WithinS allowed (p >>= f) := by
  intro s
  refine Within.bind (hp s) fun r => ?_
  obtain ⟨result, s'⟩ := r
  cases result with
  | ok a => exact hf a s'
  | error x => trivial

/-- Lifting past a state adds no calls either. -/
theorem WithinS.liftM {q : Program ε ρ α} (hq : Within allowed q) :
    WithinS allowed (liftM q : ExceptT χ (StateT σ (Program ε ρ)) α) :=
  fun s => (hq.bind fun a => Within.done (a, s)).bind fun r => Within.done (Except.ok r.1, r.2)

/-- Catching an error adds no calls. -/
theorem WithinS.lift {p : ExceptT χ (StateT σ (Program ε ρ)) α} (hp : WithinS allowed p) :
    WithinS allowed
      (ExceptT.lift p.run : ExceptT χ (StateT σ (Program ε ρ)) (Except χ α)) :=
  fun s => (hp s).bind fun r => Within.done (Except.ok r.1, r.2)

/-- What every allowed call keeps, the program keeps. -/
theorem WithinS.wp {p : ExceptT χ (StateT σ (Program ε ρ)) α} (h : WithinS allowed p)
    {I : τ → Prop}
    (hI : ∀ t e, allowed e → I t → C.permits t e ∧ ∀ r t', C.next t e r t' → I t') {s : σ}
    (ht : I t) : wpS C p (fun _ _ => I) (fun _ _ => I) s t :=
  wp.mono (fun _ _ hI => post_const.mpr hI) ((h s).wp hI ht)

end

end Program
