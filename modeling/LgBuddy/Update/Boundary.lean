import LgBuddy.Machine.Interleaving
import LgBuddy.Update.Install

/-!
# LgBuddy — the installer boundary

Installations of one prepared update run side by side with any number of cancel calls, on one
cancellation cell and over a runtime that answers as it likes.

* `installSetting` — the two kinds of process over the cell;
* `Cleared` — the checks that a run must have behind it before the installer;
* `wp_installProgram` — the run, call by call, against its own history;
* `BoundaryInv` — what the histories of all processes say about the cell;
* `install_boundary` — the result for every interleaving.
-/

namespace LgBuddy

open Interleaving Mealy Program

variable {π β : Type} [DecidableEq π]

/-! ## The processes -/

inductive InstallProcess where
  | install
  | cancel
  deriving DecidableEq, Repr

/-- One run, and its result given to the caller. -/
def installProgram [BundleView β] (prepared : PreparedUpdateInstall) :
    Program (InstallCall β) InstallReply Unit := do
  let result ← (installPreparedUpdateWith prepared).run
  perform (InstallCall.returns result)

def cancelProgram : Program (InstallCall β) InstallReply Unit := do
  let _ ← cancel

/-- What a runtime and its caller answer; calls on the cell are not theirs to answer. -/
abbrev InstallAnswers (β : Type) := (c : InstallCall β) → InstallReply c

def CancellationState.answer (env : InstallAnswers β) (cell : CancellationState) :
    (c : InstallCall β) → InstallReply c × CancellationState
  | .load => (cell, cell)
  | .compareExchange current new => if cell = current then (true, new) else (false, cell)
  | c => (env c, cell)

def installSetting [BundleView β] (π : Type) (prepared : PreparedUpdateInstall) :
    Setting π InstallProcess (InstallAnswers β) Empty (InstallCall β) InstallReply
      CancellationState where
  program
    | .install => installProgram prepared
    | .cancel => cancelProgram
  answer env _ cell c := cell.answer env c
  bury _ cell := cell
  disturb x _ := x.elim

abbrev InstallEvent (π β : Type) := Event π InstallProcess Empty (InstallCall β) InstallReply

abbrev InstallHistory (β : Type) := List (Exchange (InstallCall β) InstallReply)

/-! ## What a run has behind it -/

/-- The exchange that claims the boundary. -/
def claimed : Exchange (InstallCall β) InstallReply := ⟨.compareExchange .active .claimed, true⟩

/-- A cancel call that returns true. -/
def cancelled : Exchange (InstallCall β) InstallReply := ⟨.compareExchange .active .cancelled, true⟩

/-- Everything that has to be true before the installer is run on `bundle`. -/
structure Cleared [BundleView β] (prepared : PreparedUpdateInstall) (bundle : β)
    (own : InstallHistory β) : Prop where
  channel : ⟨.currentChannel, .ok prepared.channel⟩ ∈ own
  acquired : ⟨.acquire prepared.release, .ok bundle⟩ ∈ own
  target : BundleView.identity bundle = prepared.target
  rechecked : ⟨.recheckInstalledState, .ok ()⟩ ∈ own
  preflight : ⟨.candidatePreflight bundle, .ok ()⟩ ∈ own
  boundary : claimed ∈ own

/-- Both installed binaries are the confirmed release. -/
def Confirmed (prepared : PreparedUpdateInstall) (installed : InstalledUpdate) : Prop :=
  installed.identity = prepared.target ∧ installed.guiIdentity = prepared.target.gui

def NoInstaller (own : InstallHistory β) : Prop := ∀ bundle r, ⟨.runInstaller bundle, r⟩ ∉ own

/-- The calls that neither change the cell nor decide anything. -/
def InstallCall.quiet : InstallCall β → Bool
  | .compareExchange _ _ | .runInstaller _ | .returns _ => false
  | _ => true

def Boundary.permits [BundleView β] (prepared : PreparedUpdateInstall) (own : InstallHistory β) :
    InstallCall β → Prop
  | .compareExchange current new => current = .active ∧ (new = .claimed ∨ new = .cancelled)
  | .runInstaller bundle => Cleared prepared bundle own ∧ NoInstaller own
  | .returns (.ok installed) =>
    Confirmed prepared installed ∧ ∃ bundle, ⟨.runInstaller bundle, .ok ()⟩ ∈ own
  | _ => True

/-! ## One run, call by call -/

section

variable {prepared : PreparedUpdateInstall} {own facts : InstallHistory β}

/-- The history has these exchanges in it, and the installer was not run. -/
def Knows (facts own : InstallHistory β) : Prop := facts ⊆ own ∧ NoInstaller own

/-- What is known grows by every call but the run of the installer. -/
theorem Knows.note {c : InstallCall β} (h : Knows facts own) (hc : ∀ b, c ≠ .runInstaller b)
    (r : InstallReply c) : Knows (⟨c, r⟩ :: facts) (record own c r) := by
  refine ⟨List.cons_subset.mpr ⟨List.mem_append_right _ (List.mem_singleton_self _), ?_⟩, ?_⟩
  · exact List.Subset.trans h.1 (List.subset_append_left _ _)
  · intro bundle r' hmem
    rcases List.mem_append.mp hmem with hold | hlast
    · exact h.2 bundle r' hold
    · exact hc bundle (congrArg Sigma.fst (List.mem_singleton.mp hlast)).symm

/-- What is known of a history is known of less of it. -/
theorem Knows.weaken {facts' : InstallHistory β} (h : Knows facts own) (hsub : facts' ⊆ facts) :
    Knows facts' own := ⟨List.Subset.trans hsub h.1, h.2⟩

/-- A quiet call is not the run of the installer. -/
theorem ne_runInstaller_of_quiet {c : InstallCall β} (hc : c.quiet = true) (b : β) :
    c ≠ .runInstaller b := by
  rintro rfl
  cases hc

variable [BundleView β]

abbrev boundaryContract (prepared : PreparedUpdateInstall) :
    Contract (InstallCall β) InstallReply (InstallHistory β) :=
  .observed (Boundary.permits prepared) record

/-- A quiet call is permitted at any time. -/
theorem permits_of_quiet {c : InstallCall β} (hc : c.quiet = true) :
    Boundary.permits prepared own c := by
  cases c with
  | compareExchange | runInstaller | returns => cases hc
  | _ => trivial

/-- A call that decides nothing is remembered with its answer. -/
theorem wp_quiet {c : InstallCall β} (hc : c.quiet = true) (h : Knows facts own) :
    wp (boundaryContract prepared) (perform c) (fun r => Knows (⟨c, r⟩ :: facts)) own := by
  refine ⟨permits_of_quiet hc, ?_⟩
  rintro r own' rfl
  exact h.note (ne_runInstaller_of_quiet hc) r

/-- What was called stays called. -/
theorem wp_quiet_mem {c : InstallCall β} (hc : c.quiet = true)
    {x : Exchange (InstallCall β) InstallReply} (hx : x ∈ own) :
    wp (boundaryContract prepared) (perform c) (fun _ own' => x ∈ own') own := by
  refine ⟨permits_of_quiet hc, ?_⟩
  rintro r own' rfl
  exact List.mem_append_left _ hx

/-- Reporting progress keeps what is known. -/
theorem wpE_progress (stage : UpdateInstallStage) (h : Knows facts own) :
    wpE (boundaryContract prepared) (InstallM.ask (.progress stage)) (fun _ => Knows facts)
      (fun _ _ => True) own :=
  wpE_lift.mpr (wp.mono (fun _ _ hknows => hknows.weaken (List.subset_cons_self _ _))
    (wp_quiet rfl h))

/-- The look at the cell keeps what is known. -/
theorem wpE_ensureActive (h : Knows facts own) :
    wpE (boundaryContract prepared) ensureActive (fun _ => Knows facts) (fun _ _ => True) own := by
  unfold ensureActive
  rw [wpE_bind]
  refine wpE_lift.mpr (wp.mono (fun cell own' hknows => ?_) (wp_quiet rfl h))
  split
  · trivial
  · exact hknows.weaken (List.subset_cons_self _ _)

/-- The claim continues only where the exchange was won, and then it is known. -/
theorem wpE_claimInstallerBoundary (h : Knows facts own) :
    wpE (boundaryContract prepared) claimInstallerBoundary (fun _ => Knows (claimed :: facts))
      (fun _ _ => True) own := by
  unfold claimInstallerBoundary
  rw [wpE_bind]
  refine wpE_lift.mpr ⟨⟨rfl, .inl rfl⟩, ?_⟩
  rintro won own' rfl
  cases won with
  | false => trivial
  | true => exact h.note (c := .compareExchange .active .claimed) (fun _ h => by cases h) true

/-- Only what was confirmed passes. -/
theorem wpE_verifyInstalledUpdate {identity : ReleaseIdentity} (installed : InstalledUpdate)
    (hidentity : identity = prepared.target) :
    wpE (boundaryContract prepared) (verifyInstalledUpdate (β := β) identity installed)
      (fun installed' own' => Confirmed prepared installed' ∧ own' = own) (fun _ _ => True) own := by
  unfold verifyInstalledUpdate
  by_cases hruntime : installed.identity = identity
  · by_cases hgui : installed.guiIdentity = identity.gui
    · simp only [hruntime, hgui, ne_eq, not_true_eq_false, if_false]
      exact ⟨⟨hruntime.trans hidentity, hgui.trans (congrArg _ hidentity)⟩, rfl⟩
    · simp only [hruntime, hgui, ne_eq, not_true_eq_false, not_false_eq_true, if_false, if_true]
      trivial
  · simp only [hruntime, ne_eq, not_false_eq_true, if_true]
    trivial

/-- **The run.** However the runtime answers, the installer is run after its checks only. -/
theorem wpE_installPreparedUpdateWith :
    wpE (boundaryContract prepared) (installPreparedUpdateWith (β := β) prepared)
      (fun installed own =>
        Confirmed prepared installed ∧ ∃ bundle, ⟨.runInstaller bundle, .ok ()⟩ ∈ own)
      (fun _ _ => True) [] := by
  have hstart : Knows (β := β) [] [] := ⟨List.Subset.refl _, fun _ _ => List.not_mem_nil⟩
  unfold installPreparedUpdateWith
  refine (wpE_ensureActive hstart).bind fun _ own hknows => ?_
  rw [wpE_bind]
  refine wp.mono (fun channel own hknows => ?_) (wp_quiet rfl hknows)
  obtain err | channel := channel
  · trivial
  dsimp only [post]
  split
  · trivial
  rename_i hchannel
  obtain rfl := not_not.mp hchannel
  refine (wpE_ensureActive hknows).bind fun _ own hknows => ?_
  refine (wpE_progress _ hknows).bind fun _ own hknows => ?_
  refine (wpE_ensureActive hknows).bind fun _ own hknows => ?_
  rw [wpE_bind]
  refine wp.mono (fun bundle own hknows => ?_) (wp_quiet rfl hknows)
  obtain err | bundle := bundle
  · trivial
  refine (wpE_ensureActive hknows).bind fun _ own hknows => ?_
  split
  · trivial
  rename_i htarget
  have htarget := not_not.mp htarget
  rw [wpE_bind]
  refine wp.mono (fun rechecked own hknows => ?_) (wp_quiet rfl hknows)
  obtain err | rechecked := rechecked
  · trivial
  refine (wpE_ensureActive hknows).bind fun _ own hknows => ?_
  refine (wpE_progress _ hknows).bind fun _ own hknows => ?_
  refine (wpE_ensureActive hknows).bind fun _ own hknows => ?_
  rw [wpE_bind]
  refine wp.mono (fun preflight own hknows => ?_) (wp_quiet rfl hknows)
  obtain err | preflight := preflight
  · trivial
  refine (wpE_ensureActive hknows).bind fun _ own hknows => ?_
  refine (wpE_claimInstallerBoundary hknows).bind fun _ own hknows => ?_
  refine (wpE_progress _ hknows).bind fun _ own hknows => ?_
  have hcleared : Cleared prepared bundle own :=
    { channel := hknows.1 (by simp)
      acquired := hknows.1 (by simp)
      target := htarget
      rechecked := hknows.1 (by simp)
      preflight := hknows.1 (by simp)
      boundary := hknows.1 (by simp) }
  -- the installer, and from here on only its own answer
  rw [wpE_bind]
  refine ⟨⟨hcleared, hknows.2⟩, ?_⟩
  rintro (err | ran) own' rfl
  · trivial
  have hran : ⟨.runInstaller bundle, .ok ()⟩ ∈ record own (.runInstaller bundle) (.ok ran) :=
    List.mem_append_right _ (List.mem_singleton_self _)
  refine (wpE_lift.mpr (wp_quiet_mem rfl hran)).bind fun _ own hran => ?_
  rw [wpE_bind]
  refine wp.mono (fun installed own hran => ?_) (wp_quiet_mem rfl hran)
  obtain err | installed := installed
  · trivial
  refine wpE.mono ?_ (fun _ _ _ => trivial) (wpE_verifyInstalledUpdate installed htarget)
  rintro installed' own' ⟨hconfirmed, rfl⟩
  exact ⟨hconfirmed, bundle, hran⟩

omit [DecidableEq π] in
/-- Each process keeps the boundary, whatever its calls are answered. -/
theorem wp_installProcess (process : InstallProcess) :
    wp (boundaryContract prepared) ((installSetting (β := β) π prepared).program process)
      (fun _ _ => True) [] := by
  cases process with
  | install =>
    refine wp_bind.mpr (wp.mono (fun result own hresult => ?_) wpE_installPreparedUpdateWith)
    cases result with
    | ok installed => exact ⟨hresult, fun _ _ _ => trivial⟩
    | error err => exact ⟨trivial, fun _ _ _ => trivial⟩
  | cancel => exact ⟨⟨rfl, .inr rfl⟩, fun _ _ _ => trivial⟩

end

/-! ## All processes -/

section

variable {events : List (InstallEvent π β)} {cell : CancellationState}

def runsInstaller : InstallEvent π β → Bool
  | .called _ ⟨.runInstaller _, _⟩ => true
  | _ => false

/-- The cell remembers who changed it, and only one process is ever past the boundary. -/
structure BoundaryInv (events : List (InstallEvent π β)) (cell : CancellationState) : Prop where
  claim : ∀ p, .called p claimed ∈ events → cell = .claimed
  cancel : ∀ p, .called p cancelled ∈ events → cell = .cancelled
  single : ∀ p q, claimed ∈ own events p → claimed ∈ own events q → p = q
  installed : ∀ e ∈ events, runsInstaller e = true → ∃ p, .called p claimed ∈ events
  spent : (∃ e ∈ events, runsInstaller e = true) → ∀ p, claimed ∈ own events p →
    ¬ NoInstaller (own events p)
  once : events.countP runsInstaller ≤ 1

/-- The invariant holds before any process has run. -/
theorem boundaryInv_start : BoundaryInv ([] : List (InstallEvent π β)) cell where
  claim _ h := by cases h
  cancel _ h := by cases h
  single _ _ h := by cases h
  installed _ h := by cases h
  spent := by
    rintro ⟨e, he, -⟩
    cases he
  once := by simp

/-- While the cell is active no process has claimed it. -/
theorem BoundaryInv.not_claimed (h : BoundaryInv events .active) (p : π) :
    .called p claimed ∉ events := fun hmem => by cases h.claim p hmem

/-- While the cell is active no process has cancelled. -/
theorem BoundaryInv.not_cancelled (h : BoundaryInv events .active) (p : π) :
    .called p cancelled ∉ events := fun hmem => by cases h.cancel p hmem

/-- As long as nobody is past the boundary, the installer was not run. -/
theorem BoundaryInv.not_installed (h : BoundaryInv events .active) :
    ∀ e ∈ events, runsInstaller e = false := by
  intro e he
  by_contra hrun
  obtain ⟨p, hp⟩ := h.installed e he (Bool.not_eq_false _ ▸ hrun)
  exact h.not_claimed p hp

/-- An event that neither changes the cell nor runs the installer. -/
theorem BoundaryInv.calm (h : BoundaryInv events cell) {e : InstallEvent π β}
    (hclaim : ∀ p, e ≠ .called p claimed) (hcancel : ∀ p, e ≠ .called p cancelled)
    (hrun : runsInstaller e = false)
    (hown : ∀ p, claimed ∈ own (events ++ [e]) p → own events p ⊆ own (events ++ [e]) p
      ∧ claimed ∈ own events p) :
    BoundaryInv (events ++ [e]) cell where
  claim p hp := h.claim p ((List.mem_append.mp hp).resolve_right fun hlast =>
    hclaim p (List.mem_singleton.mp hlast).symm)
  cancel p hp := h.cancel p ((List.mem_append.mp hp).resolve_right fun hlast =>
    hcancel p (List.mem_singleton.mp hlast).symm)
  single p q hp hq := h.single p q (hown p hp).2 (hown q hq).2
  installed e' he' hrun' := by
    rcases List.mem_append.mp he' with hold | hlast
    · obtain ⟨p, hp⟩ := h.installed e' hold hrun'
      exact ⟨p, List.mem_append_left _ hp⟩
    · rw [List.mem_singleton.mp hlast, hrun] at hrun'
      cases hrun'
  spent := by
    rintro ⟨e', he', hrun'⟩ p hp hnone
    obtain ⟨hsub, hclaimed⟩ := hown p hp
    rcases List.mem_append.mp he' with hold | hlast
    · exact h.spent ⟨e', hold, hrun'⟩ p hclaimed fun bundle r hmem => hnone bundle r (hsub hmem)
    · rw [List.mem_singleton.mp hlast, hrun] at hrun'
      cases hrun'
  once := by
    rw [List.countP_append, List.countP_singleton, hrun]
    exact h.once

/-- A process starts afresh or is gone. -/
theorem own_reset {e : InstallEvent π β} {p : π} (he : e = .died p ∨ ∃ k, e = .started p k) (q : π)
    (hq : claimed ∈ own (events ++ [e]) q) :
    own events q ⊆ own (events ++ [e]) q ∧ claimed ∈ own events q := by
  have hupdate : own (events ++ [e]) = Function.update (own events) p [] := by
    rw [own_concat]
    rcases he with rfl | ⟨k, rfl⟩ <;> rfl
  rw [hupdate, Function.update_apply] at hq ⊢
  split at hq
  · cases hq
  · rename_i hne
    rw [if_neg hne]
    exact ⟨List.Subset.refl _, hq⟩

/-- A call other than the claim. -/
theorem own_called {p : π} {x : Exchange (InstallCall β) InstallReply} (hx : x ≠ claimed) (q : π)
    (hq : claimed ∈ own (events ++ [.called p x]) q) :
    own events q ⊆ own (events ++ [.called p x]) q ∧ claimed ∈ own events q := by
  rw [own_concat] at hq ⊢
  by_cases hne : q = p
  · subst hne
    rw [noteOwn_self] at hq ⊢
    exact ⟨List.subset_append_left _ _, (List.mem_append.mp hq).resolve_right fun hlast =>
      hx (List.mem_singleton.mp hlast).symm⟩
  · rw [noteOwn_other _ x hne] at hq ⊢
    exact ⟨List.Subset.refl _, hq⟩

/-- The claim is won: from now on there is nothing to cancel. -/
theorem BoundaryInv.won (h : BoundaryInv events .active) (p : π) :
    BoundaryInv (events ++ [.called p claimed]) .claimed where
  claim _ _ := rfl
  cancel q hq := by
    rcases List.mem_append.mp hq with hold | hlast
    · exact absurd hold (h.not_cancelled q)
    · cases List.mem_singleton.mp hlast
  single q q' hq hq' := by
    have hself : ∀ r, claimed ∈ own (events ++ [.called p claimed]) r → r = p := by
      intro r hr
      by_contra hne
      rw [own_concat, noteOwn_other _ _ hne] at hr
      exact h.not_claimed r (called_of_own events hr)
    rw [hself q hq, hself q' hq']
  installed _ _ _ := ⟨p, List.mem_append_right _ (List.mem_singleton_self _)⟩
  spent := by
    rintro ⟨e, he, hrun⟩
    rcases List.mem_append.mp he with hold | hlast
    · rw [h.not_installed e hold] at hrun
      cases hrun
    · rw [List.mem_singleton.mp hlast] at hrun
      cases hrun
  once := by
    rw [List.countP_append]
    exact h.once

/-- A cancel call returns true: the boundary is closed. -/
theorem BoundaryInv.cancelled (h : BoundaryInv events .active) (p : π) :
    BoundaryInv (events ++ [.called p cancelled]) .cancelled where
  claim q hq := by
    rcases List.mem_append.mp hq with hold | hlast
    · exact absurd hold (h.not_claimed q)
    · cases List.mem_singleton.mp hlast
  cancel _ _ := rfl
  single q q' hq _ :=
    absurd (called_of_own events (own_called (by simp [claimed, LgBuddy.cancelled]) q hq).2)
      (h.not_claimed q)
  installed e he hrun := by
    rcases List.mem_append.mp he with hold | hlast
    · rw [h.not_installed e hold] at hrun
      cases hrun
    · rw [List.mem_singleton.mp hlast] at hrun
      cases hrun
  spent := by
    rintro - q hq
    exact absurd (called_of_own events (own_called (by simp [claimed, LgBuddy.cancelled]) q hq).2)
      (h.not_claimed q)
  once := by
    rw [List.countP_append]
    exact h.once

/-- The installer is run, by the one process past the boundary, and for the first time. -/
theorem BoundaryInv.install (h : BoundaryInv events cell) {p : π} (bundle : β)
    (r : InstallReply (.runInstaller bundle)) (hclaimed : claimed ∈ own events p)
    (hfirst : NoInstaller (own events p)) :
    BoundaryInv (events ++ [.called p ⟨.runInstaller bundle, r⟩]) cell := by
  have hne : (⟨.runInstaller bundle, r⟩ : Exchange (InstallCall β) InstallReply) ≠ claimed := by
    intro heq
    cases congrArg Sigma.fst heq
  have hnone : ∀ e ∈ events, ¬ runsInstaller e = true :=
    fun e he hrun => h.spent ⟨e, he, hrun⟩ p hclaimed hfirst
  refine
    { claim := fun q hq => h.claim p (called_of_own events hclaimed)
      cancel := fun q hq => ?_
      single := fun q q' hq hq' => h.single q q' (own_called hne q hq).2 (own_called hne q' hq').2
      installed := fun _ _ _ => ⟨p, List.mem_append_left _ (called_of_own events hclaimed)⟩
      spent := fun _ q hq hnone' => ?_
      once := ?_ }
  · rcases List.mem_append.mp hq with hold | hlast
    · exact h.cancel q hold
    · cases List.mem_singleton.mp hlast
  · obtain rfl := h.single q p (own_called hne q hq).2 hclaimed
    refine hnone' bundle r ?_
    rw [own_concat, noteOwn_self]
    exact List.mem_append_right _ (List.mem_singleton_self _)
  · rw [List.countP_append, List.countP_eq_zero.mpr hnone, List.countP_singleton]
    exact Nat.le_refl 1

variable [BundleView β] {prepared : PreparedUpdateInstall}

/-- **One call.** Its answer, and what it leaves in the cell, keep the invariant. -/
theorem BoundaryInv.call (h : BoundaryInv events cell) (env : InstallAnswers β) (p : π)
    (c : InstallCall β) (hpermits : Boundary.permits prepared (own events p) c) :
    BoundaryInv (events ++ [.called p ⟨c, (cell.answer env c).1⟩]) (cell.answer env c).2 := by
  cases c with
  | compareExchange current new =>
    obtain ⟨rfl, hnew⟩ := hpermits
    by_cases hcell : cell = .active
    · subst hcell
      obtain rfl | rfl := hnew
      · exact h.won p
      · exact h.cancelled p
    · have hanswer : cell.answer env (.compareExchange .active new) = (false, cell) := by
        rw [CancellationState.answer, if_neg hcell]
      rw [hanswer]
      refine h.calm (fun q heq => ?_) (fun q heq => ?_) rfl (own_called fun heq => ?_)
      · cases heq
      · cases heq
      · cases heq
  | runInstaller bundle => exact h.install bundle _ hpermits.1.boundary hpermits.2
  | load | currentChannel | recheckInstalledState =>
    refine h.calm (fun q heq => ?_) (fun q heq => ?_) rfl (own_called fun heq => ?_)
    · cases heq
    · cases heq
    · cases heq
  | acquire x | candidatePreflight x | installedUpdate x | progress x | returns x =>
    refine h.calm (fun q heq => ?_) (fun q heq => ?_) rfl (own_called fun heq => ?_)
    · cases heq
    · cases heq
    · cases heq

/-- Every move of a process keeps the invariant. -/
theorem BoundaryInv.move (h : BoundaryInv events cell) {i : Input π InstallProcess (InstallAnswers β) Empty}
    {new : List (InstallEvent π β)} {cell' : CancellationState}
    (hmove : Move (installSetting π prepared) (Boundary.permits prepared) record [] (fun _ => True)
      events cell i new cell') : BoundaryInv (events ++ new) cell' := by
  cases hmove with
  | none =>
    rw [List.append_nil]
    exact h
  | start p k =>
    exact h.calm (fun _ heq => by cases heq) (fun _ heq => by cases heq) rfl
      (own_reset (.inr ⟨k, rfl⟩))
  | call p env c hpermits =>
    rw [seen_record] at hpermits
    exact h.call env p c hpermits
  | die p =>
    exact h.calm (fun _ heq => by cases heq) (fun _ heq => by cases heq) rfl (own_reset (.inl rfl))
  | disturb x => exact x.elim

/-! ## The result -/

/-- What the boundary promises about everything that happened on one cell. -/
structure InstallBoundary (prepared : PreparedUpdateInstall) (events : List (InstallEvent π β)) :
    Prop where
  once : events.countP runsInstaller ≤ 1
  /-- The process that runs the installer has all of its checks behind it. -/
  cleared : ∀ before p bundle r after,
    events = before ++ .called p ⟨.runInstaller bundle, r⟩ :: after →
      Cleared prepared bundle (own before p)
  /-- Once a cancel call has returned true, no run installs and every result is an error. -/
  prevented : ∀ q, .called q cancelled ∈ events →
    (∀ e ∈ events, runsInstaller e = false)
      ∧ ∀ p result, .called p ⟨.returns result, ()⟩ ∈ events → ∃ err, result = .error err
  /-- Behind the installer, a cancel call returns false. -/
  final : ∀ before p bundle r after q answer,
    events = before ++ .called p ⟨.runInstaller bundle, r⟩ :: after →
      .called q ⟨.compareExchange .active .cancelled, answer⟩ ∈ after → answer = false
  confirmed : ∀ p installed,
    .called p ⟨.returns (.ok installed), ()⟩ ∈ events → Confirmed prepared installed

/-- In every interleaving of installs and cancels the log and the cell keep the invariant. -/
theorem boundaryInv (prepared : PreparedUpdateInstall) (cell : CancellationState)
    (inputs : List (Input π InstallProcess (InstallAnswers β) Empty)) :
    BoundaryInv (trace (step (installSetting π prepared)) (.idle cell) inputs)
      (exec (step (installSetting π prepared)) (.idle cell) inputs).shared :=
  have hprogram : ∀ k, wp (.observed (Boundary.permits prepared) record)
      ((installSetting (β := β) π prepared).program k) (fun _ _ => True) [] := wp_installProcess
  run_induct hprogram trivial cell (P := fun _ events cell => BoundaryInv events cell)
    boundaryInv_start (fun _ _ _ _ ih hmove => ih.move hmove) inputs

/-- **The installer boundary.** Any number of installations and of cancel calls, in any order, over
any runtime and from any state of the cell. -/
theorem install_boundary (prepared : PreparedUpdateInstall) (cell : CancellationState)
    (inputs : List (Input π InstallProcess (InstallAnswers β) Empty)) :
    InstallBoundary prepared (trace (step (installSetting π prepared)) (.idle cell) inputs) := by
  have hinv := boundaryInv prepared cell inputs
  have hprogram : ∀ k, wp (.observed (Boundary.permits prepared) record)
      ((installSetting (β := β) π prepared).program k) (fun _ _ => True) [] := wp_installProcess
  have hpermitted := called_permitted hprogram trivial cell inputs
  generalize trace (step (installSetting π prepared)) (.idle cell) inputs = events at hinv hpermitted
  have hreturns : ∀ p installed, .called p ⟨.returns (.ok installed), ()⟩ ∈ events →
      Confirmed prepared installed ∧ ∃ e ∈ events, runsInstaller e = true := by
    intro p installed hmem
    obtain ⟨before, after, rfl⟩ := List.append_of_mem hmem
    have hpermits := hpermitted before _ after rfl p _ rfl
    rw [seen_record] at hpermits
    obtain ⟨hconfirmed, bundle, hran⟩ := hpermits
    exact ⟨hconfirmed, _, List.mem_append_left _ (called_of_own before hran), rfl⟩
  have hprevented : ∀ q, .called q cancelled ∈ events → ∀ e ∈ events, runsInstaller e = false := by
    intro q hcancel e he
    by_contra hrun
    obtain ⟨p, hclaim⟩ := hinv.installed e he (Bool.not_eq_false _ ▸ hrun)
    cases (hinv.cancel q hcancel).symm.trans (hinv.claim p hclaim)
  refine
    { once := hinv.once
      cleared := fun before p bundle r after hsplit => ?_
      prevented := fun q hcancel => ⟨hprevented q hcancel, fun p result hmem => ?_⟩
      final := fun before p bundle r after q answer hsplit hmem => ?_
      confirmed := fun p installed hmem => (hreturns p installed hmem).1 }
  · have hpermits := hpermitted before _ after hsplit p _ rfl
    rw [seen_record] at hpermits
    exact hpermits.1
  · cases result with
    | error err => exact ⟨err, rfl⟩
    | ok installed =>
      obtain ⟨-, e, he, hrun⟩ := hreturns p installed hmem
      rw [hprevented q hcancel e he] at hrun
      cases hrun
  · subst hsplit
    cases answer with
    | false => rfl
    | true =>
      have hrun := hprevented q (List.mem_append_right _ (List.mem_cons_of_mem _ hmem))
        (.called p ⟨.runInstaller bundle, r⟩) (List.mem_append_right _ List.mem_cons_self)
      cases hrun

end

end LgBuddy
