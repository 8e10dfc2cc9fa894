import Mathlib.Data.List.Basic
import Mathlib.Tactic.TypeStar

/-!
# Judgments

Checks that work through the same state one after the other: they remember what was found to be in
order, so that it is not looked at again, and they record failures or stop at the first one. What a
check decides is a proposition of its own, as long as what is remembered is sound.

* `Records` — a check that records failures decides `P`: from a sound state without failures it
  leaves none exactly when `P` holds;
* `Accepts` — the same for a check that stops with an error;
* their rules — nothing to check, one check after another, all elements of a list, a check that is
  left out once something has failed.
-/

namespace Judgment

universe u

variable {σ φ α : Type u} {ε : Type*}

/-! ## Checks that record failures -/

section Records

structure Records (failures : σ → List φ) (Sound : σ → Prop) (op : σ → σ) (P : Prop) : Prop where
  grows : ∀ s, failures s <+: failures (op s)
  finds : ∀ s, Sound s → failures s = [] → (failures (op s) = [] ↔ P)
  keeps : ∀ s, Sound s → failures s = [] → P → Sound (op s)

variable {failures : σ → List φ} {Sound : σ → Prop} {op op' : σ → σ} {P Q : Prop}

namespace Records

theorem congr (h : Records failures Sound op P) (hiff : P ↔ Q) : Records failures Sound op Q where
  grows := h.grows
  finds s hs hnone := (h.finds s hs hnone).trans hiff
  keeps s hs hnone hq := h.keeps s hs hnone (hiff.2 hq)

theorem skip : Records failures Sound (fun s => s) True where
  grows _ := List.prefix_rfl
  finds _ _ hnone := ⟨fun _ => trivial, fun _ => hnone⟩
  keeps _ hs _ _ := hs

theorem failures_ne_nil (h : Records failures Sound op P) {s : σ} (hsome : failures s ≠ []) :
    failures (op s) ≠ [] := by
  intro hnone
  have hprefix := h.grows s
  rw [hnone, List.prefix_nil] at hprefix
  exact hsome hprefix

theorem comp (h : Records failures Sound op P) (h' : Records failures Sound op' Q) :
    Records failures Sound (fun s => op' (op s)) (P ∧ Q) where
  grows s := (h.grows s).trans (h'.grows (op s))
  finds s hs hnone := by
    by_cases hfirst : failures (op s) = []
    · have hp := (h.finds s hs hnone).1 hfirst
      rw [h'.finds (op s) (h.keeps s hs hnone hp) hfirst]
      exact ⟨fun hq => ⟨hp, hq⟩, fun hand => hand.2⟩
    · constructor
      · exact fun hempty => absurd hempty (h'.failures_ne_nil hfirst)
      · exact fun hand => absurd ((h.finds s hs hnone).2 hand.1) hfirst
  keeps s hs hnone hand :=
    h'.keeps (op s) (h.keeps s hs hnone hand.1) ((h.finds s hs hnone).2 hand.1) hand.2

theorem foldl {step : σ → α → σ} {P : α → Prop} (xs : List α)
    (h : ∀ x ∈ xs, Records failures Sound (fun s => step s x) (P x)) :
    Records failures Sound (fun s => xs.foldl step s) (∀ x ∈ xs, P x) := by
  induction xs with
  | nil => exact skip.congr (by simp)
  | cons x xs ih =>
    have hrest := ih fun y hy => h y (List.mem_cons_of_mem _ hy)
    exact ((h x List.mem_cons_self).comp hrest).congr (by simp)

/-- A check that is left out when some failure passes a test. -/
theorem unlessFailed (h : Records failures Sound op P) (test : φ → Bool) :
    Records failures Sound (fun s => if (failures s).any test then s else op s) P where
  grows s := by
    split
    · exact List.prefix_rfl
    · exact h.grows s
  finds s hs hnone := by
    rw [if_neg (by simp [hnone])]
    exact h.finds s hs hnone
  keeps s hs hnone hp := by
    rw [if_neg (by simp [hnone])]
    exact h.keeps s hs hnone hp

end Records

end Records

/-! ## Checks that stop -/

section Accepts

structure Accepts (Sound : σ → Prop) (op : σ → Except ε σ) (P : Prop) : Prop where
  accepts : ∀ s, Sound s → ((∃ t, op s = .ok t) ↔ P)
  keeps : ∀ s t, Sound s → op s = .ok t → Sound t

variable {Sound : σ → Prop} {op op' : σ → Except ε σ} {P Q : Prop}

namespace Accepts

theorem congr (h : Accepts Sound op P) (hiff : P ↔ Q) : Accepts Sound op Q :=
  ⟨fun s hs => (h.accepts s hs).trans hiff, h.keeps⟩

theorem skip : Accepts Sound (fun s => (.ok s : Except ε σ)) True where
  accepts s _ := ⟨fun _ => trivial, fun _ => ⟨s, rfl⟩⟩
  keeps _ _ hs hok := by
    cases hok
    exact hs

theorem refuse (e : ε) : Accepts Sound (fun _ => .error e) False where
  accepts _ _ := ⟨fun ⟨_, hok⟩ => (by cases hok), False.elim⟩
  keeps _ _ _ hok := by cases hok

/-- The second check is made only when the first one accepts. -/
theorem bind (h : Accepts Sound op P) (h' : P → Accepts Sound op' Q) :
    Accepts Sound (fun s => op s >>= op') (P ∧ Q) where
  accepts s hs := by
    cases hop : op s with
    | error e =>
      constructor
      · rintro ⟨t, hok⟩
        cases hok
      · rintro ⟨hp, -⟩
        obtain ⟨t, hok⟩ := (h.accepts s hs).2 hp
        rw [hop] at hok
        cases hok
    | ok t =>
      have hp : P := (h.accepts s hs).1 ⟨t, hop⟩
      have hsecond := (h' hp).accepts t (h.keeps s t hs hop)
      show (∃ u, op' t = .ok u) ↔ _
      rw [hsecond]
      exact ⟨fun hq => ⟨hp, hq⟩, fun hand => hand.2⟩
  keeps s u hs hok := by
    cases hop : op s with
    | error e =>
      rw [hop] at hok
      cases hok
    | ok t =>
      rw [hop] at hok
      exact (h' ((h.accepts s hs).1 ⟨t, hop⟩)).keeps t u (h.keeps s t hs hop) hok

theorem foldlM {step : σ → α → Except ε σ} {P : α → Prop} (xs : List α)
    (h : ∀ x ∈ xs, Accepts Sound (fun s => step s x) (P x)) :
    Accepts Sound (fun s => xs.foldlM step s) (∀ x ∈ xs, P x) := by
  induction xs with
  | nil => exact skip.congr (by simp)
  | cons x xs ih =>
    have hrest := ih fun y hy => h y (List.mem_cons_of_mem _ hy)
    simp only [List.foldlM_cons]
    exact ((h x List.mem_cons_self).bind fun _ => hrest).congr (by simp)

end Accepts

end Accepts

end Judgment
