import LgBuddy.Session.Inactivity
import Mathlib.Logic.Function.Basic

/-!
# LgBuddy — activity contributions

`session/activity.rs`: the mailbox between the activity adapters and the monitor. Each adapter
publishes observations; per source and class of observation only the newest one is kept until the
monitor drains the mailbox.

* `publish` and `drain` follow the source; the `BTreeMap` over the two sources is a function on
  them, read in key order;
* `Retains` says what a sequence of publications leaves pending: for every publication, one of
  the same source and class that is at least as new, and nothing that was not published.
-/

namespace LgBuddy

inductive ActivitySource where
  | gnome
  | wayland
  deriving DecidableEq, Repr

/-- The keys of the source's `BTreeMap`, in order. -/
def ActivitySource.all : List ActivitySource := [.gnome, .wayland]

@[simp] theorem ActivitySource.mem_all (source : ActivitySource) : source ∈ all := by
  cases source <;> simp [all]

inductive SessionEvent where
  | idle
  | active
  | wakeRequested
  | beforeSleep
  | afterResume
  | lock
  | unlock
  | userActivity
  deriving DecidableEq, Repr

/-- What an adapter reports. The source's `EventSource` tag is not read here. -/
inductive SessionObservation where
  | event (event : SessionEvent) (observedAt : Instant)
  | inactivity (observation : InactivityObservation) (observedAt : Instant)
  deriving DecidableEq, Repr

/-- The inactivity observation a report stands for, if any. Native idle is never a blanking
authority; lock and lifecycle reports have their own sources in the runner. -/
def SessionObservation.kindAt : SessionObservation → Option (InactivityObservation × Instant)
  | .inactivity observation observedAt => some (observation, observedAt)
  | .event .active observedAt => some (.providerActive, observedAt)
  | .event .wakeRequested observedAt => some (.wakeRequested, observedAt)
  | .event _ _ => none

/-- The slot of an observation: all independent input shares one. -/
def InactivityObservation.index : InactivityObservation → Fin 3
  | .desktopActivityObserved | .userActivityObserved => 0
  | .providerActive => 1
  | .wakeRequested => 2

/-- Observations of one slot are treated alike by the engine. -/
theorem InactivityObservation.independent_eq_of_index {k k' : InactivityObservation}
    (h : k.index = k'.index) : k.independent = k'.independent := by
  cases k <;> cases k' <;> first | rfl | cases h

structure Contribution where
  latest : Fin 3 → Option Instant := fun _ => none
  pending : Fin 3 → Option (InactivityObservation × Instant) := fun _ => none

structure ActivityContributions where
  sources : ActivitySource → Option Contribution := fun _ => none

/-- One drained observation. -/
abbrev Observed := ActivitySource × InactivityObservation × Instant

namespace ActivityContributions

/-- The contribution of a source, `or_default`. -/
def entry (c : ActivityContributions) (source : ActivitySource) : Contribution :=
  (c.sources source).getD {}

def publish (c : ActivityContributions) (source : ActivitySource)
    (observation : SessionObservation) : ActivityContributions :=
  match observation.kindAt with
  | none => c
  | some (kind, at') =>
    let state := c.entry source
    let state :=
      if (state.latest kind.index).all (· < at') then
        { latest := Function.update state.latest kind.index (some at')
          pending := Function.update state.pending kind.index (some (kind, at')) : Contribution }
      else state
    { sources := Function.update c.sources source (some state) }

/-- What is pending, source by source and slot by slot. -/
def pendingObservations (c : ActivityContributions) : List Observed :=
  ActivitySource.all.flatMap fun source =>
    (List.finRange 3).filterMap fun index =>
      ((c.entry source).pending index).map fun (observation, at') => (source, observation, at')

/-- Take everything that is pending, oldest first. -/
def drain (c : ActivityContributions) : ActivityContributions × List Observed :=
  ({ sources := fun source => (c.sources source).map ({ · with pending := fun _ => none }) },
   c.pendingObservations.mergeSort (fun x y => x.2.2 ≤ y.2.2))

/-- The newest instant a source has reported in any class. -/
def latestActivity (c : ActivityContributions) (source : ActivitySource) : Option Instant :=
  (c.sources source).bind fun state => ((List.finRange 3).filterMap state.latest).max?

/-- Publications in delivery order. -/
def publishAll (c : ActivityContributions)
    (publications : List (ActivitySource × SessionObservation)) : ActivityContributions :=
  publications.foldl (fun c p => c.publish p.1 p.2) c

/-- The inactivity observations among the publications. -/
def published (publications : List (ActivitySource × SessionObservation)) : List Observed :=
  publications.filterMap fun p => p.2.kindAt.map fun (observation, at') =>
    (p.1, observation, at')

variable {c : ActivityContributions} {source : ActivitySource} {observation : SessionObservation}
  {k : InactivityObservation} {t : Instant}
  {publications : List (ActivitySource × SessionObservation)}

/-! ## One publication -/

/-- An observation that is no activity changes nothing. -/
theorem publish_of_none (h : observation.kindAt = none) : c.publish source observation = c := by
  rw [publish, h]

/-- A newer observation replaces the one pending of its kind. -/
theorem entry_publish_of_newer (h : observation.kindAt = some (k, t))
    (hnew : ∀ x ∈ (c.entry source).latest k.index, x < t) :
    (c.publish source observation).entry source
      = { latest := Function.update (c.entry source).latest k.index (some t)
          pending := Function.update (c.entry source).pending k.index (some (k, t)) } := by
  have hall : ((c.entry source).latest k.index).all (· < t) = true := by
    rw [Option.all_eq_true]
    intro x hx
    simpa using hnew x hx
  simp only [publish, h, hall]
  simp [entry]

/-- An observation that is not newer changes nothing. -/
theorem entry_publish_of_older (h : observation.kindAt = some (k, t)) {x : Instant}
    (hx : x ∈ (c.entry source).latest k.index) (hle : t ≤ x) :
    (c.publish source observation).entry source = c.entry source := by
  have hall : ¬ ((c.entry source).latest k.index).all (· < t) = true := by
    rw [Option.all_eq_true]
    intro hlt
    exact absurd (hlt x hx) (by simpa using hle)
  simp only [publish, h, hall]
  simp [entry]

/-- The entries of the other sources stay. -/
theorem entry_publish_of_ne {source' : ActivitySource} (hne : source' ≠ source) :
    (c.publish source observation).entry source' = c.entry source' := by
  cases h : observation.kindAt with
  | none => rw [publish_of_none h]
  | some p => simp [publish, h, entry, Function.update_of_ne hne]

/-! ## What a sequence of publications leaves pending -/

/-- `c` is what `c₀` became by the given publications: a slot holds one of them and remembers its
instant, or holds nothing and remembers what it did before; and no publication is newer than
what its slot holds. -/
structure Retains (c₀ : ActivityContributions) (observed : List Observed)
    (c : ActivityContributions) : Prop where
  slot : ∀ source index,
    (∃ k t, (c.entry source).pending index = some (k, t) ∧ (c.entry source).latest index = some t
        ∧ k.index = index ∧ (source, k, t) ∈ observed)
      ∨ ((c.entry source).pending index = none
        ∧ (c.entry source).latest index = (c₀.entry source).latest index)
  newest : ∀ source k t, (source, k, t) ∈ observed →
    ∃ k' t', (c.entry source).pending k.index = some (k', t') ∧ t ≤ t'

/-- No observation is waiting. -/
def Drained (c : ActivityContributions) : Prop :=
  ∀ source index, (c.entry source).pending index = none

/-- A drain leaves nothing pending. -/
theorem drain_drained (c : ActivityContributions) : c.drain.1.Drained := by
  intro source index
  cases h : c.sources source <;> simp [drain, entry, h]

/-- Where nothing is pending nothing is retained. -/
theorem Retains.refl (hc : c.Drained) : Retains c [] c :=
  ⟨fun source index => .inr ⟨hc source index, rfl⟩, by simp⟩

section
variable {c₀ : ActivityContributions} {observed : List Observed}

/-- Older publications stay; only membership in the longer list changes. -/
theorem Retains.slot_mono (h : Retains c₀ observed c) (o : Observed) (source : ActivitySource)
    (index : Fin 3) :
    (∃ k t, (c.entry source).pending index = some (k, t) ∧ (c.entry source).latest index = some t
        ∧ k.index = index ∧ (source, k, t) ∈ observed ++ [o])
      ∨ ((c.entry source).pending index = none
        ∧ (c.entry source).latest index = (c₀.entry source).latest index) := by
  rcases h.slot source index with ⟨k, t, hp, hl, hk, hmem⟩ | hnone
  · exact .inl ⟨k, t, hp, hl, hk, by simp [hmem]⟩
  · exact .inr hnone

/-- A publication older than what its slot remembers is dropped: the slot then holds a newer
publication, since the publication is newer than what was remembered at the start. -/
theorem Retains.publish_older (h : Retains c₀ observed c)
    (hkind : observation.kindAt = some (k, t))
    (hrecorded : ∀ x ∈ (c₀.entry source).latest k.index, x < t) {x : Instant}
    (hx : x ∈ (c.entry source).latest k.index) (hle : t ≤ x) :
    Retains c₀ (observed ++ [(source, k, t)]) (c.publish source observation) := by
  have hentry : ∀ s, (c.publish source observation).entry s = c.entry s := by
    intro s
    by_cases hs : s = source
    · rw [hs, entry_publish_of_older hkind hx hle]
    · exact entry_publish_of_ne hs
  refine ⟨fun s i => ?_, fun s k' t' hmem => ?_⟩
  · rw [hentry]
    exact h.slot_mono _ s i
  rw [hentry]
  rcases List.mem_append.mp hmem with hold | hnew
  · exact h.newest s k' t' hold
  · cases List.mem_singleton.mp hnew
    rcases h.slot source k.index with ⟨k', t', hp, hl, _, _⟩ | ⟨_, hl⟩
    · rw [hl] at hx
      exact ⟨k', t', hp, Nat.le_trans hle (Nat.le_of_eq (Option.some.inj hx).symm)⟩
    · rw [hl] at hx
      exact absurd (hrecorded x hx) (Nat.not_lt.mpr hle)

/-- A newer publication takes its slot, and dominates everything the slot stood for. -/
theorem Retains.publish_newer (h : Retains c₀ observed c)
    (hkind : observation.kindAt = some (k, t))
    (hnew : ∀ x ∈ (c.entry source).latest k.index, x < t) :
    Retains c₀ (observed ++ [(source, k, t)]) (c.publish source observation) := by
  have hentry := entry_publish_of_newer hkind hnew
  refine ⟨fun s i => ?_, fun s k' t' hmem => ?_⟩
  · by_cases hs : s = source
    · subst hs
      rw [hentry]
      by_cases hi : i = k.index
      · subst hi
        exact .inl ⟨k, t, by simp, by simp, rfl, by simp⟩
      · simpa [Function.update_of_ne hi] using h.slot_mono (s, k, t) s i
    · rw [entry_publish_of_ne hs]
      exact h.slot_mono _ s i
  · by_cases hs : s = source
    · subst hs
      rw [hentry]
      by_cases hi : k'.index = k.index
      · refine ⟨k, t, by simp [hi], ?_⟩
        rcases List.mem_append.mp hmem with hold | hnow
        · -- the slot held something at least as new, and `t` is newer than that
          obtain ⟨k₁, t₁, hp, hle⟩ := h.newest s k' t' hold
          rcases h.slot s k'.index with ⟨_, t₂, hp₂, hl₂, _⟩ | ⟨hnone, _⟩
          · rw [hp₂, Option.some.injEq, Prod.mk.injEq] at hp
            have := hnew t₂ (by rw [← hi]; exact hl₂)
            obtain rfl := hp.2
            exact Nat.le_of_lt (Nat.lt_of_le_of_lt hle this)
          · simp [hnone] at hp
        · cases List.mem_singleton.mp hnow
          exact Nat.le_refl _
      · rcases List.mem_append.mp hmem with hold | hnow
        · obtain ⟨k₁, t₁, hp, hle⟩ := h.newest s k' t' hold
          exact ⟨k₁, t₁, by simp [Function.update_of_ne hi, hp], hle⟩
        · cases List.mem_singleton.mp hnow
          exact absurd rfl hi
    · rw [entry_publish_of_ne hs]
      rcases List.mem_append.mp hmem with hold | hnow
      · exact h.newest s k' t' hold
      · cases List.mem_singleton.mp hnow
        exact absurd rfl hs

end

theorem publishAll_concat (source : ActivitySource) (observation : SessionObservation) :
    c.publishAll (publications ++ [(source, observation)])
      = (c.publishAll publications).publish source observation := by
  simp [publishAll]

/-- One more publication is published if it is an activity. -/
theorem published_concat (source : ActivitySource) (observation : SessionObservation) :
    published (publications ++ [(source, observation)])
      = published publications
        ++ (observation.kindAt.map fun p => (source, p.1, p.2)).toList := by
  cases h : observation.kindAt <;> simp [published, h]

/-- **What survives coalescing.** If every publication is newer than what its slot remembers
from before, then afterwards every publication is dominated by a pending one of its slot. -/
theorem publishAll_retains (hc : c.Drained) :
    ∀ publications : List (ActivitySource × SessionObservation),
      (∀ source k t, (source, k, t) ∈ published publications →
        ∀ x ∈ (c.entry source).latest k.index, x < t) →
      Retains c (published publications) (c.publishAll publications) := by
  intro publications
  induction publications using List.reverseRecOn with
  | nil => exact fun _ => .refl hc
  | append_singleton ps p ih =>
    obtain ⟨source, observation⟩ := p
    intro hrecorded
    rw [published_concat] at hrecorded ⊢
    have hprev := ih fun s k t hmem => hrecorded s k t (by simp [hmem])
    rw [publishAll_concat]
    cases hkind : observation.kindAt with
    | none =>
      rw [publish_of_none hkind]
      simpa using hprev
    | some p =>
      obtain ⟨k, t⟩ := p
      simp only [hkind, Option.map_some, Option.toList_some] at hrecorded ⊢
      by_cases hnew : ∀ x ∈ ((publishAll c ps).entry source).latest k.index, x < t
      · exact hprev.publish_newer hkind hnew
      · simp only [not_forall, Nat.not_lt] at hnew
        obtain ⟨x, hx, hle⟩ := hnew
        exact hprev.publish_older hkind (hrecorded source k t (by simp)) hx hle

/-! ## The drained batch -/

/-- What is pending is what some entry holds. -/
theorem mem_pendingObservations {o : Observed} :
    o ∈ c.pendingObservations
      ↔ ∃ index, (c.entry o.1).pending index = some (o.2.1, o.2.2) := by
  obtain ⟨s, k, t⟩ := o
  simp only [pendingObservations, List.mem_flatMap, ActivitySource.mem_all, true_and,
    List.mem_filterMap, List.mem_finRange, Option.map_eq_some_iff, Prod.exists, Prod.mk.injEq]
  constructor
  · rintro ⟨s', i, k', t', hp, rfl, rfl, rfl⟩
    exact ⟨i, hp⟩
  · rintro ⟨i, hp⟩
    exact ⟨s, i, k, t, hp, rfl, rfl, rfl⟩

/-- A drain returns exactly what some entry holds. -/
theorem mem_drain {o : Observed} :
    o ∈ c.drain.2 ↔ ∃ index, (c.entry o.1).pending index = some (o.2.1, o.2.2) := by
  rw [drain, List.mem_mergeSort, mem_pendingObservations]

/-- The batch comes out oldest first. -/
theorem drain_sorted (c : ActivityContributions) :
    c.drain.2.Pairwise fun x y => x.2.2 ≤ y.2.2 := by
  have htrans : ∀ x y z : Observed, decide (x.2.2 ≤ y.2.2) = true →
      decide (y.2.2 ≤ z.2.2) = true → decide (x.2.2 ≤ z.2.2) = true := by
    simp only [decide_eq_true_eq]
    exact fun _ _ _ => Nat.le_trans
  have htotal : ∀ x y : Observed, (decide (x.2.2 ≤ y.2.2) || decide (y.2.2 ≤ x.2.2)) = true := by
    simp only [Bool.or_eq_true, decide_eq_true_eq]
    exact fun x y => Nat.le_total x.2.2 y.2.2
  exact (List.pairwise_mergeSort htrans htotal c.pendingObservations).imp (by simp)

end ActivityContributions

end LgBuddy
