import LgBuddy.Machine.Fallible
import LgBuddy.Preflight.InstallerJudgment

/-!
# LgBuddy — the plans that the guard of the installer accepts

* `Operation.Fits`, `apply_accepts` — every operation decides a proposition in which the memo has no
  part;
* `Operation.arguments`, `runPlan_steps` — a plan is spelled by its steps, and decides all of them;
* `Below`, `Touches`, `Guarded` — what a plan changes, and what is known of it when it is accepted;
* `installer_plans_are_guarded` — the law of all plans.
-/

namespace LgBuddy

namespace Installer

open Judgment (Accepts)
open UnixPath

variable {tree : FilesystemTree} {packages : PackageDatabase} {root : Text}

/-! ## Operations -/

section Operations

variable (tree packages root)

def Operation.Fits : Operation → Prop
  | .file path => Installer.Fits tree packages root path false false
  | .mkdir path => Installer.Fits tree packages root path true false
  | .rmdir path | .directory path => Installer.Fits tree packages root path true true
  | .link path => Installer.Fits tree packages root path false true
      ∧ ∀ facts, Present tree path facts → facts.kind = .symlink
  | .remove path => Installer.Fits tree packages root path false true
      ∧ ∀ facts, Present tree path facts → facts.kind ≠ .directory
  | .tree path => ∀ entry, Removed tree path entry → Removable tree packages root entry
  | .copyTree source target => ∀ source' target',
      CopiedDirectory tree source target source' target' →
        Copyable tree packages root source' target'

end Operations

/-- The test of a kind fails exactly when the path is not there with it. -/
theorem isKind_eq_false {path : Text} {test : PathKind → Bool} :
    Guard.isKind tree path test = false ↔
      ∀ facts, Present tree path facts → test facts.kind = false := by
  unfold Guard.isKind Present
  cases tree.pathFacts (components path) <;> simp

/-- A removal behind which the kind of what is there is refused by a test. -/
theorem removal_accepts (path : Text) (test : PathKind → Bool) (reason : String) :
    Accepts (Guard.Sound packages)
      (fun guard => do
        let guard ← Guard.destination tree packages root path false true guard
        if Guard.isKind tree path test then .error reason else .ok guard)
      (Fits tree packages root path false true
        ∧ ∀ facts, Present tree path facts → test facts.kind = false) := by
  refine (destination_accepts path false true).bind fun _ => ?_
  cases hkind : Guard.isKind tree path test with
  | true =>
    refine (Accepts.refuse reason).congr ⟨False.elim, fun hnone => ?_⟩
    rw [isKind_eq_false.2 hnone] at hkind
    cases hkind
  | false => exact Accepts.skip.congr ⟨fun _ => isKind_eq_false.1 hkind, fun _ => trivial⟩

/-- **The memo has no part in what an operation decides.** -/
theorem apply_accepts (step : Operation) :
    Accepts (Guard.Sound packages) (fun guard => Guard.apply tree packages root guard step)
      (step.Fits tree packages root) := by
  cases step with
  | file path => exact destination_accepts path false false
  | mkdir path => exact destination_accepts path true false
  | rmdir path => exact destination_accepts path true true
  | directory path => exact destination_accepts path true true
  | link path =>
    refine (removal_accepts path (· ≠ .symlink) _).congr (and_congr_right fun _ => ?_)
    exact forall₂_congr fun facts _ => by simp
  | remove path =>
    refine (removal_accepts path (· = .directory) _).congr (and_congr_right fun _ => ?_)
    exact forall₂_congr fun facts _ => by simp
  | tree path => exact removeTree_accepts path
  | copyTree source target => exact copyTree_accepts source target

/-! ## Plans -/

/-- How an operation is spelled. -/
def Operation.arguments : Operation → List Text
  | .file path => ["file".toList, path]
  | .mkdir path => ["mkdir".toList, path]
  | .rmdir path => ["rmdir".toList, path]
  | .directory path => ["directory".toList, path]
  | .link path => ["link".toList, path]
  | .remove path => ["remove".toList, path]
  | .tree path => ["tree".toList, path]
  | .copyTree source target => ["copy-tree".toList, source, target]

/-- A single operation is read from exactly the two arguments it is written as. -/
theorem arguments_of_singleOperation {operation path : Text} {step : Operation}
    (h : Guard.singleOperation operation path = some step) :
    step.arguments = [operation, path] := by
  unfold Guard.singleOperation at h
  repeat' split at h
  all_goals first
    | (cases h; rename_i heq; rw [heq]; rfl)
    | cases h

/-- The operations of one path, as the loop reads them. -/
theorem singleOperation_of_arguments (step : Operation) :
    (∃ operation path, step.arguments = [operation, path]
      ∧ operation ≠ "copy-tree".toList ∧ Guard.singleOperation operation path = some step)
    ∨ ∃ source target, step = .copyTree source target := by
  cases step with
  | copyTree source target => exact .inr ⟨source, target, rfl⟩
  | file path => exact .inl ⟨_, path, rfl, by decide, rfl⟩
  | mkdir path => exact .inl ⟨_, path, rfl, by decide, rfl⟩
  | rmdir path => exact .inl ⟨_, path, rfl, by decide, rfl⟩
  | directory path => exact .inl ⟨_, path, rfl, by decide, rfl⟩
  | link path => exact .inl ⟨_, path, rfl, by decide, rfl⟩
  | remove path => exact .inl ⟨_, path, rfl, by decide, rfl⟩
  | tree path => exact .inl ⟨_, path, rfl, by decide, rfl⟩

/-- One operation is taken from the front. -/
theorem runPlan_arguments (step : Operation) (rest : List Text) (guard : Guard) :
    Guard.runPlan tree packages root (step.arguments ++ rest) guard =
      Guard.apply tree packages root guard step >>= Guard.runPlan tree packages root rest := by
  rcases singleOperation_of_arguments step with
    ⟨operation, path, hstep, hcopy, hsingle⟩ | ⟨s, t, rfl⟩
  · rw [hstep]
    cases rest with
    | nil =>
      show Guard.runPlan tree packages root [operation, path] guard = _
      rw [Guard.runPlan, if_neg hcopy, hsingle]
      dsimp only
      cases Guard.apply tree packages root guard step <;> rfl
    | cons next rest =>
      show Guard.runPlan tree packages root (operation :: path :: next :: rest) guard = _
      rw [Guard.runPlan, if_neg hcopy, hsingle]
  · show Guard.runPlan tree packages root ("copy-tree".toList :: s :: t :: rest) guard = _
    rw [Guard.runPlan, if_pos rfl]

/-- A plan written from its steps is run as these steps, by induction on them. -/
theorem runPlan_steps (steps : List Operation) (guard : Guard) :
    Guard.runPlan tree packages root (steps.flatMap Operation.arguments) guard =
      steps.foldlM (Guard.apply tree packages root) guard := by
  induction steps generalizing guard with
  | nil => rfl
  | cons step steps ih =>
    rw [List.flatMap_cons, runPlan_arguments, List.foldlM_cons]
    congr 1
    funext guard'
    exact ih guard'

/-- Only what spells operations is accepted, by induction on how much is left to read. -/
theorem steps_of_runPlan {operations : List Text} {guard guard' : Guard}
    (h : Guard.runPlan tree packages root operations guard = .ok guard') :
    ∃ steps : List Operation, operations = steps.flatMap Operation.arguments := by
  induction hlength : operations.length using Nat.strong_induction_on
    generalizing operations guard with
  | h length ih =>
    subst hlength
    match operations with
    | [] => exact ⟨[], rfl⟩
    | [_] => cases h
    | [operation, path] =>
      rw [Guard.runPlan] at h
      split at h
      · cases h
      · cases hsingle : Guard.singleOperation operation path with
        | none =>
          rw [hsingle] at h
          cases h
        | some step =>
          exact ⟨[step], by rw [List.flatMap_singleton, arguments_of_singleOperation hsingle]⟩
    -- a copy takes a third argument, every other operation two
    | operation :: path :: next :: rest =>
      rw [Guard.runPlan] at h
      split at h
      · rename_i hcopy
        obtain ⟨between, -, hrest⟩ := Fallible.bind_ok.1 h
        obtain ⟨steps, hsteps⟩ := ih rest.length (by simp only [List.length_cons]; omega) hrest rfl
        refine ⟨.copyTree path next :: steps, ?_⟩
        rw [List.flatMap_cons, ← hsteps, hcopy]
        rfl
      · cases hsingle : Guard.singleOperation operation path with
        | none =>
          rw [hsingle] at h
          cases h
        | some step =>
          rw [hsingle] at h
          obtain ⟨between, -, hrest⟩ := Fallible.bind_ok.1 h
          obtain ⟨steps, hsteps⟩ :=
            ih (next :: rest).length (by simp only [List.length_cons]; omega) hrest rfl
          refine ⟨step :: steps, ?_⟩
          rw [List.flatMap_cons, ← hsteps, arguments_of_singleOperation hsingle]
          rfl

/-! ## The check -/

/-- The check passes exactly on a mutable host whose plan is not empty and runs through. -/
theorem check_ok {operations : List Text} :
    check tree packages (root :: operations) = .ok () ↔ mutableHost tree root = .ok ()
      ∧ operations ≠ [] ∧ ∃ guard, Guard.runPlan tree packages root operations {} = .ok guard := by
  show (mutableHost tree root >>= fun _ => _) = _ ↔ _
  cases mutableHost tree root with
  | error err => exact iff_of_false (by rintro ⟨⟩) (by rintro ⟨⟨⟩, -⟩)
  | ok =>
    show (if operations = [] then _ else _) = _ ↔ _
    by_cases hempty : operations = []
    · rw [if_pos hempty]
      exact iff_of_false (by rintro ⟨⟩) fun hand => hand.2.1 hempty
    · rw [if_neg hempty]
      cases Guard.runPlan tree packages root operations {} with
      | error err => exact iff_of_false (by rintro ⟨⟩) (by rintro ⟨-, -, guard, ⟨⟩⟩)
      | ok guard => exact iff_of_true rfl ⟨rfl, hempty, guard, rfl⟩

theorem arguments_ne_nil (step : Operation) : step.arguments ≠ [] := by
  cases step <;> exact List.cons_ne_nil _ _

/-- Only the plan with no steps is written as no arguments. -/
theorem flatMap_arguments_eq_nil {steps : List Operation} :
    steps.flatMap Operation.arguments = [] ↔ steps = [] := by
  rw [List.flatMap_eq_nil_iff]
  constructor
  · intro hall
    rw [List.eq_nil_iff_forall_not_mem]
    exact fun step hstep => arguments_ne_nil step (hall step hstep)
  · rintro rfl step hstep
    cases hstep

/-- **A plan decides its steps**, each of which decides what it decides with a new memo. -/
theorem check_steps (steps : List Operation) :
    check tree packages (root :: steps.flatMap Operation.arguments) = .ok () ↔
      mutableHost tree root = .ok () ∧ steps ≠ []
        ∧ ∀ step ∈ steps, step.Fits tree packages root := by
  rw [check_ok, runPlan_steps, ne_eq, flatMap_arguments_eq_nil]
  have hsteps : Accepts (Guard.Sound packages)
      (fun guard => steps.foldlM (Guard.apply tree packages root) guard)
      (∀ step ∈ steps, step.Fits tree packages root) :=
    Accepts.foldlM steps fun step _ => apply_accepts step
  rw [hsteps.accepts {} (Guard.sound_empty packages)]

/-- The check of one step passes exactly on a mutable host where the step fits. -/
theorem check_step (step : Operation) :
    check tree packages (root :: step.arguments) = .ok () ↔
      mutableHost tree root = .ok () ∧ step.Fits tree packages root := by
  rw [← List.flatMap_singleton Operation.arguments step, check_steps]
  simp

/-! ## What a plan changes -/

section Changes

variable (tree packages root)

/-- A canonical path that is strictly below another one. -/
def Below (parent path : Text) : Prop :=
  ∃ names tail, (∀ name ∈ names ++ tail, Name name) ∧ tail ≠ []
    ∧ parent = ofNames names ∧ path = ofNames (names ++ tail)

/-- What an operation expects at a path, if there is something. -/
inductive Expectation where
  | file
  /-- A directory that is shared with others: it is kept if it is there. -/
  | container
  | directory
  | symlink
  | leaf
  | anything
  deriving DecidableEq

def Expectation.Allows : Expectation → PathKind → Prop
  | file, kind => kind = .file
  | container, kind | directory, kind => kind = .directory
  | symlink, kind => kind = .symlink
  | leaf, kind => kind ≠ .directory
  | anything, _ => True

/-- The paths that an operation creates, replaces or removes. -/
inductive Touches : Operation → Text → Expectation → Prop
  | file (path : Text) : Touches (.file path) path .file
  | mkdir (path : Text) : Touches (.mkdir path) path .container
  | rmdir (path : Text) : Touches (.rmdir path) path .directory
  | directory (path : Text) : Touches (.directory path) path .directory
  | link (path : Text) : Touches (.link path) path .symlink
  | remove (path : Text) : Touches (.remove path) path .leaf
  | removed {path entry : Text} (hremoved : Removed tree path entry) :
      Touches (.tree path) entry .anything
  | copied {source target source' target' : Text}
      (hcopied : CopiedDirectory tree source target source' target') :
      Touches (.copyTree source target) target' .container
  | copiedEntry {source target source' target' entry name : Text} {entries : List Text}
      (hcopied : CopiedDirectory tree source target source' target')
      (hlisted : tree.readDirectory (components source') = .ok entries) (hentry : entry ∈ entries)
      (hname : fileName (components entry) = some name)
      (hleaf : ∀ facts, Present tree entry facts → facts.kind ≠ .directory) :
      Touches (.copyTree source target) (push target' name) .file

/-- What is known of a path that an accepted plan changes. -/
structure Guarded (path : Text) (expectation : Expectation) : Prop where
  below : Below root path
  ancestors : ∀ parent facts, Below parent path → Present tree parent facts →
    facts.kind = .directory
  unowned : Unowned packages path
    ∨ expectation = .container ∧ ∃ facts, Present tree path facts
  present : ∀ facts, Present tree path facts → expectation.Allows facts.kind
    ∧ facts.readOnlyFilesystem = false ∧ (expectation ≠ .container → facts.mountPoint = false)

/-- What is known of a missing parent, which is created with the path. -/
structure ParentGuarded (parent : Text) : Prop where
  /-- A root that is missing, and what is missing above it, is created as well. -/
  below : Below root parent ∨ parent = root ∨ Below parent root
  ancestors : ∀ above facts, Below above parent → Present tree above facts →
    facts.kind = .directory
  unowned : Unowned packages parent

end Changes

/-- A canonical path has one list of names. -/
theorem ofNames_injective {names names' : List Text} (h : ∀ name ∈ names, Name name)
    (h' : ∀ name ∈ names', Name name) (heq : ofNames names = ofNames names') : names = names' := by
  have hcomponents := congrArg components heq
  rw [components_ofNames h, components_ofNames h'] at hcomponents
  have hinjective : Function.Injective Component.normal := fun name name' hname => by
    cases hname
    rfl
  exact List.map_injective_iff.2 hinjective (List.cons.inj hcomponents).2

/-- What is below a parent is below everything the parent is below. -/
theorem Below.trans {above parent path : Text} (h : Below above parent) (h' : Below parent path) :
    Below above path := by
  obtain ⟨names, tail, hnames, htail, rfl, rfl⟩ := h
  obtain ⟨names', tail', hnames', htail', heq, rfl⟩ := h'
  have hsame : names ++ tail = names' :=
    ofNames_injective hnames (fun name hname => hnames' name (List.mem_append_left _ hname)) heq
  subst hsame
  refine ⟨names, tail ++ tail', ?_, by simp [htail], rfl, by rw [List.append_assoc]⟩
  rwa [← List.append_assoc]

/-- The parents of a canonical path are the places it is below. -/
theorem mem_parentsOf {parent path : Text} (hpath : Canonical path) :
    parent ∈ parentsOf path ↔ Below parent path := by
  obtain ⟨names, hnames, rfl⟩ := hpath
  rw [parentsOf, mem_properAncestors hnames]
  constructor
  · rintro ⟨front, ⟨tail, rfl⟩, hne, rfl⟩
    exact ⟨front, tail, hnames, fun htail => hne (by rw [htail, List.append_nil]), rfl, rfl⟩
  · rintro ⟨front, tail, hfront, htail, rfl, heq⟩
    have hsame : names = front ++ tail := ofNames_injective hnames hfront heq
    subst hsame
    refine ⟨front, List.prefix_append _ _, fun hne => htail ?_, rfl⟩
    exact List.append_right_eq_self.1 hne.symm

/-- The test of the code, by components, says that the path is strictly below the root. -/
theorem ParentsFit.below_root {path : Text} (hroot : Canonical root)
    (h : ParentsFit tree packages root path) : Below root path := by
  obtain ⟨names, hnames, rfl⟩ := h.canonical
  obtain ⟨base, hbase, rfl⟩ := hroot
  obtain ⟨hne, hstarts⟩ := h.below
  obtain ⟨tail, rfl⟩ := (startsWith_ofNames hnames hbase).1 hstarts
  refine ⟨base, tail, hnames, fun htail => hne ?_, rfl, rfl⟩
  rw [htail, List.append_nil]

/-- Two paths above a third one are above one another. -/
theorem Below.comparable {parent parent' path : Text} (h : Below parent path)
    (h' : Below parent' path) : Below parent parent' ∨ parent' = parent ∨ Below parent' parent := by
  obtain ⟨names, tail, hnames, -, rfl, rfl⟩ := h
  obtain ⟨names', tail', hnames', -, rfl, heq⟩ := h'
  have hsame : names ++ tail = names' ++ tail' := ofNames_injective hnames hnames' heq
  have hname : ∀ name ∈ names, Name name := fun name hmem =>
    hnames name (List.mem_append_left _ hmem)
  have hname' : ∀ name ∈ names', Name name := fun name hmem =>
    hnames' name (List.mem_append_left _ hmem)
  rcases List.append_eq_append_iff.1 hsame with ⟨between, rfl, -⟩ | ⟨between, rfl, -⟩
  · by_cases hbetween : between = []
    · exact .inr (.inl (by rw [hbetween, List.append_nil]))
    · exact .inl ⟨names, between, hname', hbetween, rfl, rfl⟩
  · by_cases hbetween : between = []
    · exact .inr (.inl (by rw [hbetween, List.append_nil]))
    · exact .inr (.inr ⟨names', between, hname, hbetween, rfl, rfl⟩)

/-- Every ancestor that is there is a directory. -/
theorem AncestorsFit.directory {nearest : Bool} {parents : List Text}
    (h : AncestorsFit tree packages nearest parents) :
    ∀ parent ∈ parents, ∀ facts, Present tree parent facts → facts.kind = .directory := by
  induction parents generalizing nearest with
  | nil => exact List.forall_mem_nil _
  | cons parent parents ih =>
    rw [List.forall_mem_cons]
    rcases h with ⟨facts, hfacts, hkind, -, hrest⟩ | ⟨hmissing, -, hrest⟩
    · exact ⟨fun facts' hfacts' => hfacts.unique hfacts' ▸ hkind, ih hrest⟩
    · exact ⟨fun facts hfacts => absurd hmissing hfacts.not_missing, ih hrest⟩

/-- Every ancestor that is missing is unowned. -/
theorem AncestorsFit.unowned {nearest : Bool} {parents : List Text}
    (h : AncestorsFit tree packages nearest parents) :
    ∀ parent ∈ parents, Missing tree parent → Unowned packages parent := by
  induction parents generalizing nearest with
  | nil => exact List.forall_mem_nil _
  | cons parent parents ih =>
    rw [List.forall_mem_cons]
    rcases h with ⟨facts, hfacts, -, -, hrest⟩ | ⟨-, hunowned, hrest⟩
    · exact ⟨fun hmissing => absurd hmissing hfacts.not_missing, ih hrest⟩
    · exact ⟨fun _ => hunowned, ih hrest⟩

/-! ## Accepted plans -/

/-- A path that fits is guarded, with the expectation that allows its kind. -/
theorem Fits.guarded {path : Text} {directory removing : Bool} {expectation : Expectation}
    (hroot : Canonical root) (h : Fits tree packages root path directory removing)
    (hshared : expectation = .container ↔ directory = true ∧ removing = false)
    (hallows : ∀ facts, Present tree path facts → KindFits directory removing facts →
      expectation.Allows facts.kind) :
    Guarded tree packages root path expectation where
  below := h.1.below_root hroot
  ancestors parent facts hparent hfacts :=
    h.1.ancestors.directory parent ((mem_parentsOf h.1.canonical).2 hparent) facts hfacts
  unowned := by
    rcases h.2 with ⟨facts, hfacts, -, hcontainer | hunowned⟩ | ⟨-, hunowned⟩
    · exact .inr ⟨hshared.2 hcontainer, facts, hfacts⟩
    · exact .inl hunowned
    · exact .inl hunowned
  present facts hfacts := by
    rcases h.2 with ⟨facts', hfacts', hkind, -⟩ | ⟨hmissing, -⟩
    · cases hfacts.unique hfacts'
      refine ⟨hallows facts hfacts hkind, hkind.writable, fun hother => hkind.unmounted ?_⟩
      exact fun hcontainer => hother (hshared.2 hcontainer)
    · exact absurd hmissing hfacts.not_missing

/-- A missing parent of a path that fits is guarded as one to be made. -/
theorem Fits.parent_guarded {path parent : Text} {directory removing : Bool}
    (hroot : Canonical root) (h : Fits tree packages root path directory removing)
    (hparent : Below parent path) (hmissing : Missing tree parent) :
    ParentGuarded tree packages root parent where
  below := Below.comparable (h.1.below_root hroot) hparent
  ancestors above facts habove hfacts := h.1.ancestors.directory above
    ((mem_parentsOf h.1.canonical).2 (habove.trans hparent)) facts hfacts
  unowned := h.1.ancestors.unowned parent ((mem_parentsOf h.1.canonical).2 hparent) hmissing

/-- What an operation changes is a destination, of the kind that the operation expects. -/
theorem Touches.fits {step : Operation} {path : Text} {expectation : Expectation}
    (h : Touches tree step path expectation) (hstep : step.Fits tree packages root) :
    ∃ directory removing, Fits tree packages root path directory removing
      ∧ (expectation = .container ↔ directory = true ∧ removing = false)
      ∧ ∀ facts, Present tree path facts → KindFits directory removing facts →
        expectation.Allows facts.kind := by
  cases h with
  | file => exact ⟨false, false, hstep, by simp, fun _ _ hkind => hkind.isFile rfl rfl⟩
  | mkdir => exact ⟨true, false, hstep, by simp, fun _ _ hkind => hkind.isDirectory rfl⟩
  | rmdir => exact ⟨true, true, hstep, by simp, fun _ _ hkind => hkind.isDirectory rfl⟩
  | directory => exact ⟨true, true, hstep, by simp, fun _ _ hkind => hkind.isDirectory rfl⟩
  | link => exact ⟨false, true, hstep.1, by simp, fun facts hfacts _ => hstep.2 facts hfacts⟩
  | remove => exact ⟨false, true, hstep.1, by simp, fun facts hfacts _ => hstep.2 facts hfacts⟩
  | removed hremoved =>
    exact ⟨false, true, (hstep path hremoved).fits, by simp, fun _ _ _ => trivial⟩
  | copied hcopied =>
    exact ⟨true, false, (hstep _ _ hcopied).fits, by simp, fun _ _ hkind => hkind.isDirectory rfl⟩
  | copiedEntry hcopied hlisted hentry hname hleaf =>
    obtain ⟨entries', hlisted', hall⟩ := (hstep _ _ hcopied).entries
    rw [hlisted] at hlisted'
    cases hlisted'
    obtain ⟨name', facts, hname', hfacts, hkind⟩ := hall _ hentry
    rw [hname] at hname'
    cases hname'
    rcases hkind with hdirectory | ⟨-, hfits⟩
    · exact absurd hdirectory (hleaf facts hfacts)
    · exact ⟨false, false, hfits, by simp, fun _ _ hkind => hkind.isFile rfl rfl⟩

/-- The root of a mutable host is canonical. -/
theorem canonical_of_mutableHost (h : mutableHost tree root = .ok ()) : Canonical root := by
  unfold mutableHost at h
  obtain ⟨⟨⟩, habsolute, -⟩ := Fallible.bind_ok.1 h
  exact absolute_ok.1 habsolute

/-- **Plans are guarded.** A plan is accepted exactly when it is spelled by some operations, each of
which is accepted alone; their order does not matter. Everything that an accepted plan changes is
strictly below the root, behind real directories, and of no package, and what is there is of the
kind that the operation expects and can be written to. -/
theorem installer_plans_are_guarded (tree : FilesystemTree) (packages : PackageDatabase) :
    (∀ arguments, check tree packages arguments = .ok () ↔
      ∃ (root : Text) (steps : List Operation),
        arguments = root :: steps.flatMap Operation.arguments ∧ steps ≠ []
        ∧ ∀ step ∈ steps, check tree packages (root :: step.arguments) = .ok ())
    ∧ (∀ (root : Text) (steps steps' : List Operation), steps.Perm steps' →
      (check tree packages (root :: steps.flatMap Operation.arguments) = .ok () ↔
        check tree packages (root :: steps'.flatMap Operation.arguments) = .ok ()))
    ∧ ∀ (root : Text) (steps : List Operation),
      check tree packages (root :: steps.flatMap Operation.arguments) = .ok () →
      ∀ step ∈ steps, ∀ path expectation, Touches tree step path expectation →
        Guarded tree packages root path expectation
        ∧ ∀ parent, Below parent path → Missing tree parent →
          ParentGuarded tree packages root parent := by
  refine ⟨fun arguments => ?_, fun root steps steps' hperm => ?_,
    fun root steps hok step hstep path expectation htouches => ?_⟩
  · constructor
    · intro hok
      match arguments with
      | [] => cases hok
      | root :: operations =>
        obtain ⟨-, -, guard, hrun⟩ := check_ok.1 hok
        obtain ⟨steps, rfl⟩ := steps_of_runPlan hrun
        obtain ⟨hhost, hne, hfits⟩ := (check_steps steps).1 hok
        exact ⟨root, steps, rfl, hne, fun step hstep =>
          (check_step step).2 ⟨hhost, hfits step hstep⟩⟩
    · rintro ⟨root, steps, rfl, hne, hall⟩
      obtain ⟨step, hstep⟩ := List.exists_mem_of_ne_nil steps hne
      exact (check_steps steps).2 ⟨((check_step step).1 (hall step hstep)).1, hne,
        fun other hother => ((check_step other).1 (hall other hother)).2⟩
  · rw [check_steps, check_steps, ne_eq, ne_eq, ← List.length_eq_zero_iff, hperm.length_eq,
      List.length_eq_zero_iff]
    simp only [hperm.mem_iff]
  · obtain ⟨hhost, -, hfits⟩ := (check_steps steps).1 hok
    have hroot := canonical_of_mutableHost hhost
    obtain ⟨directory, removing, hpath, hshared, hallows⟩ := htouches.fits (hfits step hstep)
    exact ⟨hpath.guarded hroot hshared hallows, fun parent => hpath.parent_guarded hroot⟩

/-! ## A root that is missing -/

/-- A host that has nothing but the root of the file system. -/
def bareTree : FilesystemTree where
  pathFacts path := if path = [.rootDir] then .ok ⟨.directory, 0, 0o755, 2, false, false⟩
    else .error ⟨true, "No such file or directory (os error 2)"⟩
  readToString _ := .error ⟨true, "No such file or directory (os error 2)"⟩
  readDirectory path := if path = [.rootDir] then .ok []
    else .error ⟨true, "No such file or directory (os error 2)"⟩
  mountPoints := .ok []
  rank _ := 0
  rank_lt directory entries entry facts hlisted hentry := by
    split at hlisted
    · cases hlisted
      cases hentry
    · cases hlisted

/-- A database that was asked and knows no path. -/
def barePackages : PackageDatabase where
  databases := [⟨"dpkg", "dpkg-query", ["-S"], .dpkg, []⟩]
  probe _ _ := .ran 1 [] []

/-- A file is accepted below a root that is missing; the root is a missing parent of it, and not
strictly below itself. -/
theorem missing_root_is_accepted :
    check bareTree barePackages ["/r".toList, "file".toList, "/r/a".toList] = .ok ()
      ∧ Touches bareTree (.file "/r/a".toList) "/r/a".toList .file
      ∧ Below "/r".toList "/r/a".toList ∧ Missing bareTree "/r".toList
      ∧ ¬Below "/r".toList "/r".toList := by
  have hname : ∀ name ∈ [['r'], ['a']], Name name := by
    intro name hmem
    rcases List.mem_cons.1 hmem with rfl | hmem
    · exact ⟨by decide, by decide, by decide, by decide⟩
    · rw [List.mem_singleton.1 hmem]
      exact ⟨by decide, by decide, by decide, by decide⟩
  refine ⟨by rfl, .file _, ⟨[['r']], [['a']], hname, by decide, rfl, rfl⟩, ⟨_, rfl, rfl⟩, ?_⟩
  rintro ⟨names, tail, hnames, htail, hparent, hpath⟩
  have hsame := ofNames_injective
    (fun name hmem => hnames name (List.mem_append_left _ hmem)) hnames (hparent.symm.trans hpath)
  exact htail (List.append_right_eq_self.1 hsame.symm)

end Installer

end LgBuddy
