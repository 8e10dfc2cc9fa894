import LgBuddy.Session.Activity
import LgBuddy.Session.InactivityRun
import Mathlib.Order.Bounds.Basic

/-!
# LgBuddy — coalesced activity

The monitor feeds the engine with what `ActivityContributions` has kept, not with everything that
was published. `coalescing_transparent` says that the engine cannot tell.

* `FeedSpec` is a closed form for the engine after a batch in time order. It names the batch only
  through greatest elements: of the fresh independent input, of the observations the lock state
  lets through, and of those that would wake the engine;
* dropping an observation for a later one of its class leaves all of these as they are, because
  every reason to ignore an observation weakens with time (`Passes.mono`).
-/

namespace LgBuddy

open Mealy

/-! ## Optional maxima -/

section IsMaxOf

variable {α : Type*} [LinearOrder α] {o o' : Option α} {s t : Set α} {a : α}

/-- `o` is the greatest element of `s`, or `none` if there are no elements. -/
def IsMaxOf (o : Option α) (s : Set α) : Prop := o.elim (s = ∅) (IsGreatest s ·)

/-- The maximum with one more element is the larger of the two. -/
theorem IsMaxOf.insert (h : IsMaxOf o s) : IsMaxOf (some (o.elim a (max · a))) (insert a s) := by
  cases o with
  | none =>
    obtain rfl : s = ∅ := h
    simp [IsMaxOf]
  | some x =>
    have h : IsGreatest s x := h
    have := h.insert a
    simpa [IsMaxOf, max_comm] using this

/-- A cofinal part has the same greatest element. -/
theorem greatest_iff_of_cofinal (hst : s ⊆ t) (hcof : IsCofinalFor t s) :
    IsGreatest s a ↔ IsGreatest t a := by
  constructor
  · rintro ⟨ha, hle⟩
    exact ⟨hst ha, upperBounds_mono_of_isCofinalFor hcof hle⟩
  · rintro ⟨ha, hle⟩
    obtain ⟨b, hb, hab⟩ := hcof ha
    obtain rfl : a = b := le_antisymm hab (hle (hst hb))
    exact ⟨hb, fun x hx => hle (hst hx)⟩

/-- A cofinal part of a set has its maximum. -/
theorem IsMaxOf.eq_of_cofinal (h : IsMaxOf o s) (h' : IsMaxOf o' t) (hst : s ⊆ t)
    (hcof : IsCofinalFor t s) : o = o' := by
  cases o with
  | none =>
    obtain rfl : s = ∅ := h
    cases o' with
    | none => rfl
    | some y =>
      obtain ⟨b, hb, _⟩ := hcof h'.1
      cases hb
  | some x =>
    have hx : IsGreatest t x := (greatest_iff_of_cofinal hst hcof).mp h
    cases o' with
    | none =>
      obtain rfl : t = ∅ := h'
      cases hx.1
    | some y => rw [hx.unique h']

end IsMaxOf

namespace InactivityEngine

variable {e e₁ e₂ : InactivityEngine} {k k' : InactivityObservation} {a a' t m : Instant}
  {os : List Observed}

/-! ## What a batch does -/

/-- The calls that feed a batch to the engine. -/
def feed (os : List Observed) : List EngineOp := os.map fun o => .activity o.2.1 o.2.2

/-- The engine would act on this observation. -/
def Passes (e : InactivityEngine) (k : InactivityObservation) (a : Instant) : Prop :=
  ¬ Stale e a ∧ ¬ Blocks e k a

/-- The lock state lets this class of observation through. -/
def Audible (e : InactivityEngine) (k : InactivityObservation) : Prop :=
  e.sessionLockedSince.isSome = true → k.independent = true

/-- An observation before a stale one is stale. -/
theorem Stale.mono (h : Stale e a') (hle : a ≤ a') : Stale e a := by
  obtain ⟨f, hf, haf⟩ := h
  exact ⟨f, hf, Nat.lt_of_le_of_lt hle haf⟩

/-- What blocks an observation blocks an earlier one of the same kind. -/
theorem Blocks.mono (hk : k'.independent = k.independent) (h : Blocks e k' a') (hle : a ≤ a') :
    Blocks e k a := by
  rcases h with ⟨hl, hi⟩ | ⟨hp, hi, g, hg, hag⟩ | ⟨hp, l, hl, hi⟩
  · exact .inl ⟨hl, hk ▸ hi⟩
  · exact .inr (.inl ⟨hp, hk ▸ hi, g, hg, Nat.lt_of_le_of_lt hle hag⟩)
  · exact .inr (.inr ⟨hp, l, hl, hk ▸ hi.imp id (Nat.le_trans hle)⟩)

/-- What wakes the engine now would wake it later. -/
theorem Passes.mono (h : Passes e k a) (hk : k'.independent = k.independent) (hle : a ≤ a') :
    Passes e k' a' :=
  ⟨fun hs => h.1 (hs.mono hle), fun hb => h.2 (hb.mono hk hle)⟩

/-- An observation that passes is heard through the lock. -/
theorem Passes.audible (h : Passes e k a) : Audible e k := by
  intro hl
  by_contra hk
  exact h.2 (.inl ⟨hl, by simpa using hk⟩)

/-- The engine after it was woken at `m`, up to the record of input. -/
def wokenAt (e : InactivityEngine) (m : Instant) : InactivityEngine :=
  { e with
    activityFloor := some m
    blankAt := some (max (e.blankAt.getD m) (m + e.blankAfter))
    phase := .active
    restorePending := false
    powerOffAt := none
    lockActivityFloor := none }

/-- Waking twice, the second time no earlier, is waking at the second. -/
theorem wokenAt_wokenAt (hle : a ≤ m) : (e.wokenAt a).wokenAt m = e.wokenAt m := by
  have hb : max (max (e.blankAt.getD a) (a + e.blankAfter)) (m + e.blankAfter)
      = max (e.blankAt.getD m) (m + e.blankAfter) := by
    cases e.blankAt with
    | none =>
      simp only [Option.getD_none]
      lia
    | some b =>
      simp only [Option.getD_some]
      lia
  simp only [wokenAt, Option.getD_some, hb]

/-- The instants of the observations of a batch with a given property. -/
def timesWhere (os : List Observed) (p : InactivityObservation → Instant → Prop) : Set Instant :=
  {t | ∃ s k, (s, k, t) ∈ os ∧ p k t}

/-- Fresh independent input, and what is already on record of it. -/
def inputTimes (e : InactivityEngine) (os : List Observed) : Set Instant :=
  timesWhere os (fun k t => k.independent = true ∧ ¬ Stale e t)
    ∪ {t | t ∈ e.latestIndependentActivityAt}

/-- Some observation of the batch would wake the engine as it is. -/
def Wakes (e : InactivityEngine) (os : List Observed) : Prop :=
  (timesWhere os (Passes e)).Nonempty

/-- A batch in time order takes `e` to `e₁`, in closed form; `restored` says whether the engine
asked for a restore on the way. -/
structure FeedSpec (e : InactivityEngine) (os : List Observed) (e₁ : InactivityEngine)
    (restored : Prop) : Prop where
  latest : IsMaxOf e₁.latestIndependentActivityAt (inputTimes e os)
  /-- Nothing wakes the engine: the batch is only noted. -/
  asleep : ¬ Wakes e os →
    e₁ = { e with latestIndependentActivityAt := e₁.latestIndependentActivityAt }
  /-- Something does: from then on the last audible observation counts. -/
  woken : Wakes e os → ∃ m, IsGreatest (timesWhere os fun k _ => Audible e k) m
    ∧ e₁ = { e.wokenAt m with latestIndependentActivityAt := e₁.latestIndependentActivityAt }
  restored_iff : e.phase ≠ .unknown → (restored ↔ e.phase.inactive = true ∧ Wakes e os)

/-! ## One more observation -/

section Concat

variable {s : ActivitySource} {p : InactivityObservation → Instant → Prop}

theorem feed_concat : feed (os ++ [(s, k, t)]) = feed os ++ [.activity k t] := by simp [feed]

/-- A new observation that passes the test adds its instant. -/
theorem timesWhere_concat (h : p k t) :
    timesWhere (os ++ [(s, k, t)]) p = insert t (timesWhere os p) := by
  ext x
  constructor
  · rintro ⟨s', k', hmem, hp⟩
    rcases List.mem_append.mp hmem with hold | hnew
    · exact .inr ⟨s', k', hold, hp⟩
    · cases List.mem_singleton.mp hnew
      exact .inl rfl
  · rintro (rfl | ⟨s', k', hmem, hp⟩)
    · exact ⟨s, k, by simp, h⟩
    · exact ⟨s', k', by simp [hmem], hp⟩

/-- A new observation that fails the test adds nothing. -/
theorem timesWhere_concat_of_not (h : ¬ p k t) :
    timesWhere (os ++ [(s, k, t)]) p = timesWhere os p := by
  ext x
  constructor
  · rintro ⟨s', k', hmem, hp⟩
    rcases List.mem_append.mp hmem with hold | hnew
    · exact ⟨s', k', hold, hp⟩
    · cases List.mem_singleton.mp hnew
      exact absurd hp h
  · rintro ⟨s', k', hmem, hp⟩
    exact ⟨s', k', by simp [hmem], hp⟩

/-- A feed wakes the engine exactly when its beginning does or its last observation passes. -/
theorem wakes_concat : Wakes e (os ++ [(s, k, t)]) ↔ Wakes e os ∨ Passes e k t := by
  by_cases hp : Passes e k t
  · simp [Wakes, timesWhere_concat hp, hp]
  · simp [Wakes, timesWhere_concat_of_not hp, hp]

/-- A fresh observation is noted in the record of input. -/
theorem isMaxOf_latestWith (h : IsMaxOf e₁.latestIndependentActivityAt (inputTimes e os))
    (hfresh : ¬ Stale e t) : IsMaxOf (e₁.latestWith k t) (inputTimes e (os ++ [(s, k, t)])) := by
  cases hk : k.independent with
  | true =>
    rw [latestWith, if_pos hk, inputTimes,
      timesWhere_concat (p := fun k t => k.independent = true ∧ ¬ Stale e t) ⟨hk, hfresh⟩,
      Set.insert_union]
    exact h.insert
  | false =>
    rw [latestWith, if_neg (by simp [hk]), inputTimes, timesWhere_concat_of_not (by simp [hk])]
    exact h

/-- The last observation, if it passes the test, is the greatest of those that do. -/
theorem isGreatest_concat (hp : p k t) (hlast : ∀ s k' t', (s, k', t') ∈ os → t' ≤ t) :
    IsGreatest (timesWhere (os ++ [(s, k, t)]) p) t := by
  rw [timesWhere_concat hp]
  refine ⟨.inl rfl, ?_⟩
  rintro x (rfl | ⟨s', k', hmem, _⟩)
  · exact Nat.le_refl x
  · exact hlast s' k' x hmem

variable {restored : Prop} {d : Option InactivityDecision}

/-- Once the engine is awake it follows the last audible observation. -/
theorem FeedSpec.step_awake (h : FeedSpec e os e₁ restored) (hwakes : Wakes e os)
    (hlast : ∀ s k' t', (s, k', t') ∈ os → t' ≤ t) (hs : Effect e₁ (.activity k t) e₂ d) :
    FeedSpec e (os ++ [(s, k, t)]) e₂ (restored ∨ d = some .restoreNow) := by
  have hwakes' : Wakes e (os ++ [(s, k, t)]) := wakes_concat.mpr (.inl hwakes)
  obtain ⟨m, hm, heq⟩ := h.woken hwakes
  have hmt : m ≤ t := by
    obtain ⟨s', k', hmem, _⟩ := hm.1
    exact hlast s' k' m hmem
  have hfresh : ¬ Stale e t := by
    obtain ⟨t₀, s₀, k₀, hmem, hpass⟩ := hwakes
    exact fun hstale => hpass.1 (hstale.mono (hlast s₀ k₀ t₀ hmem))
  have hfloor : e₁.activityFloor = some m := by rw [heq]; rfl
  have hphase : e₁.phase = .active := by rw [heq]; rfl
  have hlocked : e₁.sessionLockedSince = e.sessionLockedSince := by rw [heq]; rfl
  cases hs with
  | stale hstale =>
    obtain ⟨f, hf, htf⟩ := hstale
    rw [hfloor] at hf
    cases hf
    exact absurd hmt (Nat.not_le.mpr htf)
  | ignored _ hblock =>
    -- an awake engine ignores only what the lock state keeps out
    obtain ⟨hl, hk⟩ : e₁.sessionLockedSince.isSome = true ∧ k.independent = false := by
      rcases hblock with hblock | ⟨hi, _⟩ | ⟨hi, _⟩
      · exact hblock
      · simp [hphase] at hi
      · simp [hphase] at hi
    have haud : ¬ Audible e k := fun ha => by simp [ha (hlocked ▸ hl)] at hk
    refine ⟨isMaxOf_latestWith h.latest hfresh, fun hno => absurd hwakes' hno, fun _ => ?_,
      fun hu => ?_⟩
    · refine ⟨m, ?_, ?_⟩
      · rw [timesWhere_concat_of_not haud]
        exact hm
      · rw [note, heq]
    · simp [h.restored_iff hu, hwakes, hwakes']
  | accepted _ hpass =>
    have haud : Audible e k := by
      intro hl
      by_contra hk
      exact hpass (.inl ⟨hlocked ▸ hl, by simpa using hk⟩)
    refine ⟨isMaxOf_latestWith h.latest hfresh, fun hno => absurd hwakes' hno, fun _ => ?_,
      fun hu => ?_⟩
    · refine ⟨t, isGreatest_concat (p := fun k _ => Audible e k) haud hlast, ?_⟩
      rw [← wokenAt_wokenAt hmt]
      rw [heq]
      rfl
    · simp [h.restored_iff hu, hwakes, hwakes', acceptDecision, hphase]

/-- As long as nothing has woken the engine, it treats an observation as `e` would. -/
theorem FeedSpec.step_asleep (h : FeedSpec e os e₁ restored) (hwakes : ¬ Wakes e os)
    (hlast : ∀ s k' t', (s, k', t') ∈ os → t' ≤ t) (hs : Effect e₁ (.activity k t) e₂ d) :
    FeedSpec e (os ++ [(s, k, t)]) e₂ (restored ∨ d = some .restoreNow) := by
  have heq := h.asleep hwakes
  have hstale_iff : Stale e₁ t ↔ Stale e t := by rw [heq]; rfl
  have hblocks_iff : Blocks e₁ k t ↔ Blocks e k t := by rw [heq]; rfl
  have hphase : e₁.phase = e.phase := by rw [heq]
  have hquiet : ¬ Passes e k t → ¬ Wakes e (os ++ [(s, k, t)]) := fun hno hw =>
    (wakes_concat.mp hw).elim hwakes hno
  cases hs with
  | stale hstale =>
    have hno := hquiet fun hp => hp.1 (hstale_iff.mp hstale)
    refine ⟨?_, fun _ => heq, fun hw => absurd hw hno, fun hu => ?_⟩
    · rw [inputTimes, timesWhere_concat_of_not (by simp [hstale_iff.mp hstale])]
      exact h.latest
    · simp [h.restored_iff hu, hwakes, hno]
  | ignored hfresh hblock =>
    have hno := hquiet fun hp => hp.2 (hblocks_iff.mp hblock)
    refine ⟨isMaxOf_latestWith h.latest (mt hstale_iff.mpr hfresh), fun _ => ?_,
      fun hw => absurd hw hno, fun hu => ?_⟩
    · rw [note, heq]
    · simp [h.restored_iff hu, hwakes, hno]
  | accepted hfresh hpass =>
    have hp : Passes e k t := ⟨mt hstale_iff.mpr hfresh, mt hblocks_iff.mpr hpass⟩
    have hyes : Wakes e (os ++ [(s, k, t)]) := wakes_concat.mpr (.inr hp)
    refine ⟨isMaxOf_latestWith h.latest hp.1, fun hno => absurd hyes hno, fun _ => ?_,
      fun hu => ?_⟩
    · refine ⟨t, isGreatest_concat (p := fun k _ => Audible e k) hp.audible hlast, ?_⟩
      rw [heq]
      rfl
    · simp [h.restored_iff hu, hwakes, hyes, acceptDecision, hphase, hu]

end Concat

/-! ## The whole batch -/

/-- The empty feed leaves the engine as it is. -/
theorem feedSpec_nil (e : InactivityEngine) : FeedSpec e [] e False where
  latest := by
    have hnil : timesWhere [] (fun k t => k.independent = true ∧ ¬ Stale e t) = ∅ := by
      simp [timesWhere]
    rw [inputTimes, hnil, Set.empty_union]
    cases h : e.latestIndependentActivityAt with
    | none => simp [IsMaxOf]
    | some x => simp [IsMaxOf, IsGreatest]
  asleep _ := rfl
  woken := by
    rintro ⟨_, _, _, hmem, _⟩
    cases hmem
  restored_iff _ := by simp [Wakes, timesWhere]

/-- **Feeding a batch in time order.** -/
theorem feed_spec (hw : Wf e) :
    ∀ os : List Observed, os.Pairwise (fun x y => x.2.2 ≤ y.2.2) →
      FeedSpec e os (e.run (feed os)) (some .restoreNow ∈ outputs step e (feed os)) := by
  intro os
  induction os using List.reverseRecOn with
  | nil => exact fun _ => by simpa [feed] using feedSpec_nil e
  | append_singleton os o ih =>
    obtain ⟨s, k, t⟩ := o
    intro hsorted
    rw [List.pairwise_append] at hsorted
    have hprev := ih hsorted.1
    have hlast : ∀ s k' t', (s, k', t') ∈ os → t' ≤ t := fun s' k' t' hmem =>
      hsorted.2.2 _ hmem (s, k, t) (by simp)
    have hs := step_effect (hw.run (feed os)) (.activity k t)
    have hout : some .restoreNow ∈ outputs step e (feed (os ++ [(s, k, t)]))
        ↔ some .restoreNow ∈ outputs step e (feed os)
          ∨ ((e.run (feed os)).step (.activity k t)).2 = some .restoreNow := by
      rw [feed_concat, outputs_concat]
      simp [eq_comm]
    rw [hout, feed_concat, run, exec_concat]
    by_cases hwakes : Wakes e os
    · exact hprev.step_awake hwakes hlast hs
    · exact hprev.step_asleep hwakes hlast hs

/-! ## Dropping dominated observations -/

/-- `kept` is part of `all`, and everything in `all` has something in `kept` of its class that is
at least as new. -/
structure Coalesces (kept all : List Observed) : Prop where
  subset : kept ⊆ all
  newest : ∀ s k t, (s, k, t) ∈ all →
    ∃ s' k' t', (s', k', t') ∈ kept ∧ k'.independent = k.independent ∧ t ≤ t'

section Coalesces

variable {kept all : List Observed} {p : InactivityObservation → Instant → Prop}

/-- What is kept was observed. -/
theorem Coalesces.timesWhere_subset (h : Coalesces kept all) :
    timesWhere kept p ⊆ timesWhere all p := by
  rintro t ⟨s, k, hmem, hp⟩
  exact ⟨s, k, h.subset hmem, hp⟩

/-- For a property that only gains with time, the kept observations are cofinal. -/
theorem Coalesces.cofinal (h : Coalesces kept all)
    (hp : ∀ k k' t t', p k t → k'.independent = k.independent → t ≤ t' → p k' t') :
    IsCofinalFor (timesWhere all p) (timesWhere kept p) := by
  rintro t ⟨s, k, hmem, hpt⟩
  obtain ⟨s', k', t', hmem', hk, hle⟩ := h.newest s k t hmem
  exact ⟨t', ⟨s', k', hmem', hp k k' t t' hpt hk hle⟩, hle⟩

/-- The kept observations wake the engine exactly when all of them do. -/
theorem Coalesces.wakes_iff (h : Coalesces kept all) (e : InactivityEngine) :
    Wakes e kept ↔ Wakes e all := by
  constructor
  · exact Set.Nonempty.mono h.timesWhere_subset
  · exact (h.cofinal fun _ _ _ _ hp hk hle => hp.mono hk hle).nonempty

/-- Every audible observation has a kept one no earlier. -/
theorem Coalesces.audible_cofinal (h : Coalesces kept all) (e : InactivityEngine) :
    IsCofinalFor (timesWhere all fun k _ => Audible e k)
      (timesWhere kept fun k _ => Audible e k) :=
  h.cofinal fun _ _ _ _ ha hk _ hl => hk ▸ ha hl

/-- Every input of the whole feed has one of the kept feed no earlier. -/
theorem Coalesces.input_cofinal (h : Coalesces kept all) (e : InactivityEngine) :
    IsCofinalFor (inputTimes e all) (inputTimes e kept) := by
  rintro t (ht | ht)
  · obtain ⟨t', ht', hle⟩ := h.cofinal
      (p := fun k t => k.independent = true ∧ ¬ Stale e t)
      (fun _ _ _ _ hp hk hle => ⟨hk.trans hp.1, fun hs => hp.2 (hs.mono hle)⟩) ht
    exact ⟨t', .inl ht', hle⟩
  · exact ⟨t, .inr ht, Nat.le_refl t⟩

/-- Two batches with the same closed form: the kept observations do what all of them do. -/
theorem FeedSpec.eq_of_coalesces (h : Coalesces kept all) {r r' : Prop}
    (hkept : FeedSpec e kept e₁ r) (hall : FeedSpec e all e₂ r') :
    e₁ = e₂ ∧ (e.phase ≠ .unknown → (r ↔ r')) := by
  have hlatest : e₁.latestIndependentActivityAt = e₂.latestIndependentActivityAt :=
    hkept.latest.eq_of_cofinal hall.latest
      (Set.union_subset_union_left _ h.timesWhere_subset) (h.input_cofinal e)
  have hwakes := h.wakes_iff e
  refine ⟨?_, fun hu => by rw [hkept.restored_iff hu, hall.restored_iff hu, hwakes]⟩
  by_cases hw : Wakes e all
  · obtain ⟨m₁, hm₁, heq₁⟩ := hkept.woken (hwakes.mpr hw)
    obtain ⟨m₂, hm₂, heq₂⟩ := hall.woken hw
    have hm : m₁ = m₂ := ((greatest_iff_of_cofinal h.timesWhere_subset
      (h.audible_cofinal e)).mp hm₁).unique hm₂
    rw [heq₁, heq₂, hm, hlatest]
  · rw [hkept.asleep (mt hwakes.mp hw), hall.asleep hw, hlatest]

end Coalesces

/-- The drained batch coalesces the publications. -/
theorem coalesces_of_retains {c₀ c : ActivityContributions} {observed : List Observed}
    (h : c₀.Retains observed c) : Coalesces c.drain.2 observed where
  subset := by
    rintro ⟨s, k, t⟩ hmem
    obtain ⟨i, hp⟩ := ActivityContributions.mem_drain.mp hmem
    rcases h.slot s i with ⟨k', t', hp', _, _, hmem'⟩ | ⟨hnone, _⟩
    · rw [hp', Option.some.injEq, Prod.mk.injEq] at hp
      obtain ⟨rfl, rfl⟩ := hp
      exact hmem'
    · simp [hnone] at hp
  newest s k t hmem := by
    obtain ⟨k', t', hp, hle⟩ := h.newest s k t hmem
    refine ⟨s, k', t', ActivityContributions.mem_drain.mpr ⟨k.index, hp⟩, ?_, hle⟩
    rcases h.slot s k.index with ⟨k₁, t₁, hp₁, _, hk₁, _⟩ | ⟨hnone, _⟩
    · rw [hp₁, Option.some.injEq, Prod.mk.injEq] at hp
      rw [← hp.1]
      exact InactivityObservation.independent_eq_of_index hk₁
    · simp [hnone] at hp

/-- **Coalescing is transparent.** Between two drains, let publications arrive in any order from
any sources, each newer than what was recorded before for its source and class. Feeding the
drained batch leaves the engine exactly where feeding all of them in time order does; and from
any phase but `Unknown`, one feed asks for a restore if and only if the other does. -/
theorem coalescing_transparent (he : Reachable e) (c : ActivityContributions)
    (publications : List (ActivitySource × SessionObservation))
    (hrecorded : ∀ source k t, (source, k, t) ∈ ActivityContributions.published publications →
      ∀ x ∈ (c.drain.1.entry source).latest k.index, x < t)
    (ordered : List Observed)
    (hperm : ordered.Perm (ActivityContributions.published publications))
    (hordered : ordered.Pairwise fun x y => x.2.2 ≤ y.2.2) :
    e.run (feed (c.drain.1.publishAll publications).drain.2) = e.run (feed ordered)
      ∧ (e.phase ≠ .unknown →
        (some .restoreNow ∈ outputs step e (feed (c.drain.1.publishAll publications).drain.2)
          ↔ some .restoreNow ∈ outputs step e (feed ordered))) := by
  have hretains := ActivityContributions.publishAll_retains c.drain_drained publications hrecorded
  have hcoalesces := coalesces_of_retains hretains
  have hcoalesces' : Coalesces (c.drain.1.publishAll publications).drain.2 ordered :=
    ⟨fun o ho => hperm.mem_iff.mpr (hcoalesces.subset ho),
      fun s k t hmem => hcoalesces.newest s k t (hperm.mem_iff.mp hmem)⟩
  exact FeedSpec.eq_of_coalesces hcoalesces'
    (feed_spec he.wf _ (ActivityContributions.drain_sorted _)) (feed_spec he.wf ordered hordered)

/-- A locked, blanked engine: the input at `3 s` that ended the blank is dropped for the one at
`9 s`, and the provider's signal between them arrives at an engine that is still asleep. -/
theorem coalescing_transparent_locked :
    (new (Duration.fromSecs 5) 0 |>.run [.lock 0, .completeBlank true 1]).run
        (feed (({ } : ActivityContributions).drain.1.publishAll
          [(.wayland, .inactivity .userActivityObserved (Duration.fromSecs 9)),
            (.wayland, .inactivity .userActivityObserved (Duration.fromSecs 3)),
            (.gnome, .event .active (Duration.fromSecs 4))]).drain.2)
      = (new (Duration.fromSecs 5) 0 |>.run [.lock 0, .completeBlank true 1]).run
        (feed [(.wayland, .userActivityObserved, Duration.fromSecs 3),
          (.gnome, .providerActive, Duration.fromSecs 4),
          (.wayland, .userActivityObserved, Duration.fromSecs 9)]) := by
  refine (coalescing_transparent ⟨_, 0, _, .new (Duration.fromSecs 5) 0, rfl⟩ { } _ ?_ _ ?_ ?_).1
  · intro source k t _ x hx
    cases hx
  · decide
  · decide

end InactivityEngine

end LgBuddy
