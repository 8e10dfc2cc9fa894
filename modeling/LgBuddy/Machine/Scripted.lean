import LgBuddy.Machine.Program

/-!
# Programs in a world of moments

A `Program` in a world that goes on between its calls. At every call there is a moment: what
happens in the world before the call is answered, and how the call goes. Any moment is possible at
any call, so that what is proved holds for every course of events.

* `Scene` — the world, and a log of all calls with the world before and after each;
* `Scene.perform` — one call at one moment; `Scripted.contract` allows every moment;
* `Scripted.run` — a whole run through given moments; `Scripted.run_spec` reduces it to `wp`;
* `Says` — a call of a log with its answer;
* `Quietly`, `Observes` — parts of a program whose calls leave the world alone: what they learn, as
  a condition on their result and their calls. `Observes.bind` makes it compositional;
* `Observes.wpE` — such a part in front of the rest;
* `through`, `wp_through` — a program as a part of one with more calls.
-/

namespace Program

variable {ε : Type} {ρ : ε → Type} {σ μ α χ : Type}

/-- One call of a run. -/
structure Entry (ρ : ε → Type) (σ : Type) where
  before : σ
  call : ε
  answer : ρ call
  after : σ

/-- A call with its answer is among these. -/
def Says (made : List (Entry ρ σ)) (e : ε) (r : ρ e) : Prop :=
  ∃ before after, (⟨before, e, r, after⟩ : Entry ρ σ) ∈ made

/-- What an answer said in a row it said in a longer one. -/
theorem Says.mono {made made' : List (Entry ρ σ)} {e : ε} {r : ρ e} (h : Says made e r)
    (hmade : ∀ x ∈ made, x ∈ made') : Says made' e r := by
  obtain ⟨before, after, hx⟩ := h
  exact ⟨before, after, hmade _ hx⟩

theorem says_one {before after : σ} {e : ε} (r : ρ e) :
    Says [(⟨before, e, r, after⟩ : Entry ρ σ)] e r :=
  ⟨before, after, List.mem_cons_self⟩

/-- The world with the calls so far, oldest first. -/
structure Scene (ρ : ε → Type) (σ : Type) where
  world : σ
  log : List (Entry ρ σ) := []

namespace Scene

variable (answer : μ → σ → (e : ε) → ρ e × σ)

def perform (m : μ) (t : Scene ρ σ) (e : ε) : ρ e × Scene ρ σ :=
  ((answer m t.world e).1,
    ⟨(answer m t.world e).2,
      t.log ++ [⟨t.world, e, (answer m t.world e).1, (answer m t.world e).2⟩]⟩)

@[simp] theorem perform_world (m : μ) (t : Scene ρ σ) (e : ε) :
    (t.perform answer m e).2.world = (answer m t.world e).2 := rfl

@[simp] theorem perform_answer (m : μ) (t : Scene ρ σ) (e : ε) :
    (t.perform answer m e).1 = (answer m t.world e).1 := rfl

end Scene

namespace Scripted

variable (answer : μ → σ → (e : ε) → ρ e × σ)

/-- Any moment is possible at any call. -/
def contract : Contract ε ρ (Scene ρ σ) where
  permits _ _ := True
  next t e r t' := ∃ m, t.perform answer m e = (r, t')

/-- A run through the given moments. -/
def run (moments : Nat → μ) (p : Program ε ρ α) (w : σ) : α × Scene ρ σ :=
  let result := exec (fun (s : Scene ρ σ × Nat) e =>
    let answered := s.1.perform answer (moments s.2) e
    (answered.1, (answered.2, s.2 + 1))) p (⟨w, []⟩, 0)
  (result.1, result.2.1)

/-- A program meets its specification at every sequence of moments. -/
theorem run_spec {p : Program ε ρ α} {Q : α → Scene ρ σ → Prop} {w : σ}
    (h : wp (contract answer) p Q ⟨w, []⟩) (moments : Nat → μ) :
    Q (run answer moments p w).1 (run answer moments p w).2 := by
  have hhandle : ∀ (s : Scene ρ σ × Nat) (e : ε), True → True
      ∧ (contract answer).next s.1 e (s.1.perform answer (moments s.2) e).1
        (s.1.perform answer (moments s.2) e).2 :=
    fun s e _ => ⟨trivial, moments s.2, rfl⟩
  exact wp.exec (s := (⟨w, []⟩, 0)) (fun s : Scene ρ σ × Nat => s.1) hhandle trivial h

/-- The rule for one call: every moment. -/
theorem wp_ask {e : ε} {Q : ρ e → Scene ρ σ → Prop} {t : Scene ρ σ}
    (h : ∀ m, Q (t.perform answer m e).1 (t.perform answer m e).2) :
    wp (contract answer) (Program.perform e) Q t := by
  refine (wp_perform e).mpr ⟨trivial, fun r t' hnext => ?_⟩
  obtain ⟨m, hm⟩ := hnext
  have hQ := h m
  rw [hm] at hQ
  exact hQ

/-- The same in a program that can fail. -/
theorem wpE_ask {e : ε} {Q : ρ e → Scene ρ σ → Prop} {E : χ → Scene ρ σ → Prop} {t : Scene ρ σ}
    (h : ∀ m, Q (t.perform answer m e).1 (t.perform answer m e).2) :
    wpE (contract answer) (ExceptT.lift (Program.perform e)) Q E t :=
  wpE_lift.mpr (wp_ask answer h)

/-! ## Parts that only look -/

section Observes

variable {answer : μ → σ → (e : ε) → ρ e × σ} {quiet : ε → Prop} {t t' t'' : Scene ρ σ}

/-- From one scene to another by calls that leave the world alone. -/
structure Quietly (answer : μ → σ → (e : ε) → ρ e × σ) (quiet : ε → Prop) (t t' : Scene ρ σ)
    (made : List (Entry ρ σ)) : Prop where
  world : t'.world = t.world
  log : t'.log = t.log ++ made
  calls : ∀ x ∈ made, quiet x.call ∧ x.before = t.world
  possible : ∀ x ∈ made, ∃ m, answer m x.before x.call = (x.answer, x.after)

theorem Quietly.refl (t : Scene ρ σ) : Quietly answer quiet t t [] :=
  ⟨rfl, (List.append_nil _).symm, List.forall_mem_nil _, List.forall_mem_nil _⟩

/-- Two quiet stretches make one. -/
theorem Quietly.trans {made made' : List (Entry ρ σ)} (h : Quietly answer quiet t t' made)
    (h' : Quietly answer quiet t' t'' made') : Quietly answer quiet t t'' (made ++ made') := by
  refine ⟨h'.world.trans h.world, by rw [h'.log, h.log, List.append_assoc], ?_, ?_⟩
  · intro x hx
    cases List.mem_append.1 hx with
    | inl hx => exact h.calls x hx
    | inr hx => exact ⟨(h'.calls x hx).1, (h'.calls x hx).2.trans h.world⟩
  · intro x hx
    cases List.mem_append.1 hx with
    | inl hx => exact h.possible x hx
    | inr hx => exact h'.possible x hx

/-- All calls are quiet, and a result comes with this condition on it and on the calls. -/
def Observes (answer : μ → σ → (e : ε) → ρ e × σ) (quiet : ε → Prop)
    (p : ExceptT χ (Program ε ρ) α) (P : α → List (Entry ρ σ) → Prop) : Prop :=
  ∀ t, wpE (contract answer) p (fun a t' => ∃ made, Quietly answer quiet t t' made ∧ P a made)
    (fun _ t' => ∃ made, Quietly answer quiet t t' made) t

variable {β : Type} {p : ExceptT χ (Program ε ρ) α} {P P' : α → List (Entry ρ σ) → Prop}

/-- An observing program observes what its observation implies. -/
theorem Observes.mono (h : Observes answer quiet p P) (hP : ∀ a made, P a made → P' a made) :
    Observes answer quiet p P' := by
  refine fun t => wpE.mono ?_ (fun _ _ hE => hE) (h t)
  intro a t' hmade
  obtain ⟨made, hquiet, hpost⟩ := hmade
  exact ⟨made, hquiet, hP a made hpost⟩

/-- More calls may be allowed. -/
theorem Observes.weaken {quiet' : ε → Prop} (h : Observes answer quiet p P)
    (hquiet : ∀ e, quiet e → quiet' e) : Observes answer quiet' p P := by
  have hmore : ∀ {t t' : Scene ρ σ} {made : List (Entry ρ σ)}, Quietly answer quiet t t' made →
      Quietly answer quiet' t t' made := fun hmade =>
    ⟨hmade.world, hmade.log, fun x hx => ⟨hquiet _ (hmade.calls x hx).1, (hmade.calls x hx).2⟩,
      hmade.possible⟩
  refine fun t => wpE.mono ?_ ?_ (h t)
  · rintro a t' ⟨made, hmade, hP⟩
    exact ⟨made, hmore hmade, hP⟩
  · rintro x t' ⟨made, hmade⟩
    exact ⟨made, hmore hmade⟩

theorem Observes.pure {a : α} (h : P a []) :
    Observes answer quiet (pure a : ExceptT χ (Program ε ρ) α) P :=
  fun t => (wpE_pure a).mpr ⟨[], .refl t, h⟩

theorem Observes.throw (x : χ) :
    Observes answer quiet (throw x : ExceptT χ (Program ε ρ) α) P :=
  fun t => (show ∃ made, Quietly answer quiet t t made from ⟨[], .refl t⟩)

/-- Two observing programs observe one after the other. -/
theorem Observes.bind {f : α → ExceptT χ (Program ε ρ) β} {R : β → List (Entry ρ σ) → Prop}
    (h : Observes answer quiet p P)
    (hf : ∀ a made, P a made → Observes answer quiet (f a) fun b made' => R b (made ++ made')) :
    Observes answer quiet (p >>= f) R := by
  intro t
  refine wpE_bind.mpr (wpE.mono ?_ (fun _ _ hE => hE) (h t))
  rintro a t' ⟨made, hquiet, hP⟩
  refine wpE.mono ?_ ?_ (hf a made hP t')
  · rintro b t'' ⟨made', hquiet', hR⟩
    exact ⟨made ++ made', hquiet.trans hquiet', hR⟩
  · rintro x t'' ⟨made', hquiet'⟩
    exact ⟨made ++ made', hquiet.trans hquiet'⟩

/-- One call. -/
theorem Observes.ask {e : ε} (he : quiet e) (hworld : ∀ m w, (answer m w e).2 = w)
    {P : ρ e → List (Entry ρ σ) → Prop} (h : ∀ w a, P a [⟨w, e, a, w⟩]) :
    Observes answer quiet (ExceptT.lift (Program.perform e) : ExceptT χ (Program ε ρ) (ρ e)) P := by
  refine fun t => wpE_ask answer fun m => ?_
  refine ⟨[⟨t.world, e, (answer m t.world e).1, t.world⟩], ⟨hworld m t.world, ?_, ?_, ?_⟩, h _ _⟩
  · rw [Scene.perform, hworld]
  · intro x hx
    rw [List.mem_singleton.1 hx]
    exact ⟨he, rfl⟩
  · intro x hx
    rw [List.mem_singleton.1 hx]
    exact ⟨m, Prod.ext rfl (hworld m t.world)⟩

/-- A check without calls. -/
theorem Observes.ofExcept {x : Except χ α} (h : ∀ a, x = .ok a → P a []) :
    Observes answer quiet (ExceptT.mk (Program.done x) : ExceptT χ (Program ε ρ) α) P := by
  cases x with
  | ok a => exact Observes.pure (h a rfl)
  | error e => exact Observes.throw e

/-- What only looks, in front of the rest. -/
theorem Observes.wpE {f : α → ExceptT χ (Program ε ρ) β} {Q : β → Scene ρ σ → Prop}
    {E : χ → Scene ρ σ → Prop} {t : Scene ρ σ} (h : Observes answer quiet p P)
    (hE : ∀ x t' made, Quietly answer quiet t t' made → E x t')
    (hf : ∀ a t' made, Quietly answer quiet t t' made → P a made →
      Program.wpE (contract answer) (f a) Q E t') :
    Program.wpE (contract answer) (p >>= f) Q E t := by
  refine wpE_bind.mpr (wpE.mono ?_ ?_ (h t))
  · rintro a t' ⟨made, hquiet, hP⟩
    exact hf a t' made hquiet hP
  · rintro x t' ⟨made, hquiet⟩
    exact hE x t' made hquiet

end Observes

end Scripted

/-! ## A program as a part of another -/

section Through

variable {ε' τ τ' : Type} {ρ' : ε' → Type} {f : ε → ε'} {g : ∀ e, ρ' (f e) → ρ e}

/-- The same program in an environment that has its calls among others. -/
def through (f : ε → ε') (g : ∀ e, ρ' (f e) → ρ e) : Program ε ρ α → Program ε' ρ' α
  | .done a => .done a
  | .call e k => .call (f e) fun r => through f g (k (g e r))

/-- What an observer of the part alone knows, an observer of the whole knows. -/
theorem wp_through {permits : τ → ε → Prop} {note : τ → (e : ε) → ρ e → τ} {C : Contract ε' ρ' τ'}
    {R : τ' → τ → Prop} (hstep : ∀ s t e, R s t → permits t e →
      C.permits s (f e) ∧ ∀ r s', C.next s (f e) r s' → R s' (note t e (g e r)))
    {p : Program ε ρ α} {Q : α → τ → Prop} {s : τ'} {t : τ} (hR : R s t)
    (h : wp (Contract.observed permits note) p Q t) :
    wp C (through f g p) (fun a s' => ∃ t', R s' t' ∧ Q a t') s := by
  induction p generalizing s t with
  | done a => exact ⟨t, hR, h⟩
  | call e k ih =>
    obtain ⟨hpermits, hnext⟩ := hstep s t e hR h.1
    refine ⟨hpermits, fun r s' hr => ?_⟩
    exact ih _ (hnext r s' hr) (h.2 _ _ rfl)

end Through

end Program
