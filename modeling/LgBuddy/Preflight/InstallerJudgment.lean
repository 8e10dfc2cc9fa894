import LgBuddy.Machine.Judgment
import LgBuddy.Preflight.Installer

/-!
# LgBuddy — what the guard of the installer decides

* `Guard.Sound` — the invariant of the memo: what it holds is owned by no package;
* `Fits` — what a destination demands of the host, in its own terms;
* `Removed`, `CopiedDirectory` — the entries that a removal and a copy come to, at any depth;
* `removeTree_accepts`, `copyTree_accepts` — each decides its whole tree, whatever the memo holds.
-/

namespace LgBuddy

namespace Installer

open Judgment (Accepts)
open UnixPath

variable (tree : FilesystemTree) (packages : PackageDatabase) (root : Text)

/-! ## Owners -/

def Unowned (path : Text) : Prop := packages.ownerOf path = .ok .unowned

/-- Paths are compared by their components; a canonical text is told by them. -/
def Guard.Sound (guard : Guard) : Prop :=
  ∀ path, Canonical path → components path ∈ guard.ownersChecked → Unowned packages path

/-- A guard that checked nothing is sound. -/
theorem Guard.sound_empty : Guard.Sound packages {} := by
  intro path _ hchecked
  exact absurd hchecked (List.not_mem_nil)

variable {tree packages root}

/-- The test of an absolute path accepts exactly the canonical ones. -/
theorem absolute_ok {path : Text} : absolute path = .ok () ↔ Canonical path := by
  have hdots : (components path).any (fun part => part = .parentDir || part = .curDir) = false ↔
      ∀ c ∈ components path, c ≠ .parentDir ∧ c ≠ .curDir := by
    rw [List.any_eq_false]
    refine forall₂_congr fun c _ => ?_
    simp
  rw [canonical_iff, ← hdots]
  unfold absolute
  cases hroot : isAbsolute path with
  | false => simp
  | true =>
    cases hany : (components path).any (fun part => part = .parentDir || part = .curDir) with
    | true => simp
    | false =>
      by_cases htext : collect (components path) = path
      · simp [htext]
      · simp [htext]

/-- The owner is looked up once; a memo that is sound does not change the answer. -/
theorem owner_accepts {path : Text} (hpath : Canonical path) :
    Accepts (Guard.Sound packages) (Guard.owner packages path) (Unowned packages path) where
  accepts guard hsound := by
    unfold Guard.owner
    by_cases hchecked : components path ∈ guard.ownersChecked
    · rw [if_pos hchecked]
      exact ⟨fun _ => hsound path hpath hchecked, fun _ => ⟨guard, rfl⟩⟩
    · rw [if_neg hchecked]
      unfold Unowned
      cases packages.ownerOf path with
      | error err => simp
      | ok ownership => cases ownership <;> simp
  keeps guard guard' hsound hok := by
    unfold Guard.owner at hok
    split at hok
    · cases hok
      exact hsound
    · split at hok
      · cases hok
      · rename_i hunowned
        cases hok
        intro other hother hchecked
        rcases List.mem_cons.1 hchecked with heq | hchecked
        · rw [hother.eq_of_components hpath heq]
          exact hunowned
        · exact hsound other hother hchecked
      · cases hok
      · cases hok

/-! ## Destinations -/

section Demands

variable (tree packages root)

/-- The facts of what is there. -/
def Present (path : Text) (facts : PathFacts) : Prop := tree.pathFacts (components path) = .ok facts

/-- Nothing is there, which is not the same as that it could not be looked at. -/
def Missing (path : Text) : Prop :=
  ∃ err, tree.pathFacts (components path) = .error err ∧ err.notFound = true

/-- Existing ancestors are real directories, and the nearest one can be written to; missing ones will
be created. -/
def AncestorsFit (nearest : Bool) : List Text → Prop
  | [] => True
  | parent :: parents =>
    (∃ facts, Present tree parent facts ∧ facts.kind = .directory
      ∧ (nearest = true → facts.readOnlyFilesystem = false) ∧ AncestorsFit false parents)
    ∨ (Missing tree parent ∧ Unowned packages parent ∧ AncestorsFit nearest parents)

/-- The paths that are above another one, as texts. -/
def parentsOf (path : Text) : List Text := (properAncestors (components path)).map collect

structure ParentsFit (path : Text) : Prop where
  canonical : Canonical path
  below : components path ≠ components root ∧ startsWith (components path) (components root) = true
  ancestors : AncestorsFit tree packages true (parentsOf path)

/-- What is there has the right kind, can be written to, and is no mount point unless it is a shared
directory. -/
structure KindFits (directory removing : Bool) (facts : PathFacts) : Prop where
  isDirectory : directory = true → facts.kind = .directory
  isFile : directory = false → removing = false → facts.kind = .file
  writable : facts.readOnlyFilesystem = false
  unmounted : ¬(directory = true ∧ removing = false) → facts.mountPoint = false

def TargetFits (path : Text) (directory removing : Bool) : Prop :=
  (∃ facts, Present tree path facts ∧ KindFits directory removing facts
    ∧ (directory = true ∧ removing = false ∨ Unowned packages path))
  ∨ (Missing tree path ∧ Unowned packages path)

def Fits (path : Text) (directory removing : Bool) : Prop :=
  ParentsFit tree packages root path ∧ TargetFits tree packages path directory removing

end Demands

/-- A path is there, or missing, or cannot be looked at. -/
theorem present_or_missing (tree : FilesystemTree) (path : Text) :
    (∃ facts, Present tree path facts) ∨ Missing tree path
      ∨ ∃ err, tree.pathFacts (components path) = .error err ∧ err.notFound = false := by
  unfold Present Missing
  cases tree.pathFacts (components path) with
  | ok facts => exact .inl ⟨facts, rfl⟩
  | error err =>
    cases hmissing : err.notFound with
    | true => exact .inr (.inl ⟨err, rfl, hmissing⟩)
    | false => exact .inr (.inr ⟨err, rfl, hmissing⟩)

theorem Present.not_missing {path : Text} {facts : PathFacts} (h : Present tree path facts) :
    ¬Missing tree path := by
  rintro ⟨err, herr, -⟩
  unfold Present at h
  rw [herr] at h
  cases h

/-- A path that is there has one row of facts. -/
theorem Present.unique {path : Text} {facts facts' : PathFacts} (h : Present tree path facts)
    (h' : Present tree path facts') : facts = facts' := by
  unfold Present at h h'
  rw [h] at h'
  cases h'
  rfl

/-- The loop over the ancestors accepts exactly those that fit, by induction on them. -/
theorem ancestors_accepts {nearest : Bool} {parents : List Text}
    (hparents : ∀ parent ∈ parents, Canonical parent) :
    Accepts (Guard.Sound packages) (Guard.ancestors tree packages nearest parents)
      (AncestorsFit tree packages nearest parents) := by
  induction parents generalizing nearest with
  | nil => exact Accepts.skip
  | cons parent parents ih =>
    have hrest : ∀ other ∈ parents, Canonical other := fun other hother =>
      hparents other (List.mem_cons_of_mem _ hother)
    have hiff : AncestorsFit tree packages nearest (parent :: parents) ↔
      (∃ facts, Present tree parent facts ∧ facts.kind = .directory
        ∧ (nearest = true → facts.readOnlyFilesystem = false)
        ∧ AncestorsFit tree packages false parents)
      ∨ (Missing tree parent ∧ Unowned packages parent
        ∧ AncestorsFit tree packages nearest parents) := Iff.rfl
    -- what stands at the parent decides: facts, nothing, or another error
    rcases present_or_missing tree parent with ⟨facts, hfacts⟩ | hmissing | ⟨err, herr, hother⟩
    · have hop : Guard.ancestors tree packages nearest (parent :: parents) = fun guard =>
          if facts.kind ≠ .directory then
            .error (refused parent "destination ancestor is not a directory or is a symlink")
          else if nearest && facts.readOnlyFilesystem then
            .error (refused parent "destination filesystem is mounted read-only")
          else Guard.ancestors tree packages false parents guard := by
        funext guard
        rw [Guard.ancestors, hfacts]
      have hfits : AncestorsFit tree packages nearest (parent :: parents) ↔
          facts.kind = .directory ∧ (nearest = true → facts.readOnlyFilesystem = false)
            ∧ AncestorsFit tree packages false parents := by
        rw [hiff]
        constructor
        · rintro (⟨facts', hfacts', hfit⟩ | ⟨hmissing, -⟩)
          · rw [hfacts.unique hfacts']
            exact hfit
          · exact absurd hmissing hfacts.not_missing
        · exact fun hfit => .inl ⟨facts, hfacts, hfit⟩
      rw [hop]
      by_cases hkind : facts.kind = .directory
      · simp only [if_neg (not_not.2 hkind)]
        cases hreadOnly : nearest && facts.readOnlyFilesystem with
        | true =>
          simp only [if_pos]
          refine (Accepts.refuse _).congr ⟨False.elim, fun hfit => ?_⟩
          rw [Bool.and_eq_true] at hreadOnly
          have hwritable := (hfits.1 hfit).2.1 hreadOnly.1
          rw [hwritable] at hreadOnly
          cases hreadOnly.2
        | false =>
          simp only [Bool.false_eq_true, if_false]
          refine (ih hrest).congr ⟨fun hfit => hfits.2 ⟨hkind, fun hnearest => ?_, hfit⟩,
            fun hfit => (hfits.1 hfit).2.2⟩
          rwa [hnearest, Bool.true_and] at hreadOnly
      · simp only [if_pos hkind]
        exact (Accepts.refuse _).congr ⟨False.elim, fun hfit => hkind (hfits.1 hfit).1⟩
    · have hop : Guard.ancestors tree packages nearest (parent :: parents) = fun guard =>
          Guard.owner packages parent guard >>= Guard.ancestors tree packages nearest parents := by
        funext guard
        obtain ⟨err, herr, hnotFound⟩ := hmissing
        rw [Guard.ancestors, herr]
        dsimp only
        rw [if_pos hnotFound]
      rw [hop]
      refine ((owner_accepts (hparents parent List.mem_cons_self)).bind fun _ => ih hrest).congr ?_
      rw [hiff]
      constructor
      · exact fun hfit => .inr ⟨hmissing, hfit⟩
      · rintro (⟨facts, hfacts, -⟩ | ⟨-, hfit⟩)
        · exact absurd hmissing hfacts.not_missing
        · exact hfit
    · have hop : Guard.ancestors tree packages nearest (parent :: parents) = fun _ =>
          .error (refused parent err.message) := by
        funext guard
        rw [Guard.ancestors, herr]
        dsimp only
        rw [if_neg (by simp [hother])]
      rw [hop]
      refine (Accepts.refuse _).congr ⟨False.elim, ?_⟩
      rintro (⟨facts, hfacts, -⟩ | ⟨⟨err', herr', hnotFound⟩, -⟩)
      · unfold Present at hfacts
        rw [herr] at hfacts
        cases hfacts
      · rw [herr] at herr'
        cases herr'
        rw [hother] at hnotFound
        cases hnotFound

/-- Every parent of a canonical path is canonical. -/
theorem canonical_of_mem_parentsOf {path parent : Text} (hpath : Canonical path)
    (hparent : parent ∈ parentsOf path) : Canonical parent := by
  obtain ⟨names, hnames, rfl⟩ := hpath
  obtain ⟨front, hfront, -, rfl⟩ := (mem_properAncestors hnames).1 hparent
  exact ⟨front, fun name hname => hnames name (hfront.subset hname), rfl⟩

/-- The check of the parents accepts exactly the canonical paths below the root whose ancestors
fit. -/
theorem parents_accepts (path : Text) :
    Accepts (Guard.Sound packages) (Guard.parents tree packages root path)
      (ParentsFit tree packages root path) := by
  by_cases hcanonical : Canonical path
  · have habsolute : absolute path = .ok () := absolute_ok.2 hcanonical
    by_cases hbelow : components path ≠ components root
      ∧ startsWith (components path) (components root) = true
    -- a canonical path below the root is judged by its ancestors
    · have hop : Guard.parents tree packages root path =
          Guard.ancestors tree packages true (parentsOf path) := by
        funext guard
        unfold Guard.parents
        rw [habsolute]
        show (if _ then _ else _) = _
        rw [if_neg]
        · rfl
        · simp [hbelow.1, hbelow.2]
      rw [hop]
      refine (ancestors_accepts fun parent => canonical_of_mem_parentsOf hcanonical).congr ?_
      exact ⟨fun hancestors => ⟨hcanonical, hbelow, hancestors⟩, fun hfits => hfits.ancestors⟩
    · have hop : Guard.parents tree packages root path = fun _ =>
          .error (refused path "destination must be below the installation root") := by
        funext guard
        unfold Guard.parents
        rw [habsolute]
        show (if _ then _ else _) = _
        rw [if_pos]
        simp only [Bool.or_eq_true, decide_eq_true_eq, Bool.not_eq_true']
        by_contra hneither
        rw [not_or, Bool.not_eq_false] at hneither
        exact hbelow hneither
      rw [hop]
      exact (Accepts.refuse _).congr ⟨False.elim, fun hfits => hbelow hfits.below⟩
  · obtain ⟨err, herr⟩ : ∃ err, absolute path = .error err := by
      cases habsolute : absolute path with
      | error err => exact ⟨err, rfl⟩
      | ok => exact absurd (absolute_ok.1 habsolute) hcanonical
    have hop : Guard.parents tree packages root path = fun _ => .error err := by
      funext guard
      unfold Guard.parents
      rw [herr]
      rfl
    rw [hop]
    exact (Accepts.refuse _).congr ⟨False.elim, fun hfits => hcanonical hfits.canonical⟩

/-- A kind fits exactly where the three tests of the target find nothing. -/
theorem kindFits_iff {directory removing : Bool} {facts : PathFacts} :
    KindFits directory removing facts ↔
      ((directory && facts.kind ≠ .directory)
        || (!removing && facts.kind ≠ if directory then .directory else .file)) = false
      ∧ facts.readOnlyFilesystem = false
      ∧ (facts.mountPoint && (!directory || removing)) = false := by
  constructor
  · rintro ⟨hdirectory, hfile, hwritable, hunmounted⟩
    refine ⟨?_, hwritable, ?_⟩
    · cases directory <;> cases removing <;> simp_all
    · cases directory <;> cases removing <;> simp_all
  · rintro ⟨hkind, hwritable, hunmounted⟩
    refine ⟨fun hdirectory => ?_, fun hdirectory hremoving => ?_, hwritable, fun hshared => ?_⟩
    · cases removing <;> simp_all
    · simp_all
    · cases directory <;> cases removing <;> simp_all

/-- The check of the target accepts exactly the targets that fit. -/
theorem target_accepts {path : Text} (hpath : Canonical path) (directory removing : Bool) :
    Accepts (Guard.Sound packages) (Guard.target tree packages path directory removing)
      (TargetFits tree packages path directory removing) := by
  -- what stands at the path decides: facts, nothing, or another error
  rcases present_or_missing tree path with ⟨facts, hfacts⟩ | hmissing | ⟨err, herr, hother⟩
  · have hfits : TargetFits tree packages path directory removing ↔
        KindFits directory removing facts
          ∧ (directory = true ∧ removing = false ∨ Unowned packages path) := by
      constructor
      · rintro (⟨facts', hfacts', hfit⟩ | ⟨hmissing, -⟩)
        · rw [hfacts.unique hfacts']
          exact hfit
        · exact absurd hmissing hfacts.not_missing
      · exact fun hfit => .inl ⟨facts, hfacts, hfit⟩
    rw [kindFits_iff] at hfits
    have hop : Guard.target tree packages path directory removing = fun guard =>
        if (directory && facts.kind ≠ .directory)
            || (!removing && facts.kind ≠ if directory then .directory else .file) then
          .error (refused path "destination has an unexpected type or is a symlink")
        else if facts.readOnlyFilesystem then
          .error (refused path "destination filesystem is mounted read-only")
        else if facts.mountPoint && (!directory || removing) then
          .error (refused path "refusing to replace or remove a mount point")
        else if directory && !removing then .ok guard
        else Guard.owner packages path guard := by
      funext guard
      unfold Guard.target
      rw [hfacts]
    have hrefused : ∀ reason : String, ¬TargetFits tree packages path directory removing →
        Accepts (Guard.Sound packages) (fun _ => .error reason)
          (TargetFits tree packages path directory removing) := fun reason hunfit =>
      (Accepts.refuse reason).congr ⟨False.elim, hunfit⟩
    rw [hop]
    cases hkind : (directory && facts.kind ≠ .directory)
        || (!removing && facts.kind ≠ if directory then .directory else .file) with
    | true =>
      rw [hkind] at hfits
      exact hrefused _ fun hfit => by cases (hfits.1 hfit).1.1
    | false =>
      rw [hkind] at hfits
      cases hreadOnly : facts.readOnlyFilesystem with
      | true =>
        rw [hreadOnly] at hfits
        exact hrefused _ fun hfit => by cases (hfits.1 hfit).1.2.1
      | false =>
        rw [hreadOnly] at hfits
        cases hmount : facts.mountPoint && (!directory || removing) with
        | true =>
          rw [hmount] at hfits
          exact hrefused _ fun hfit => by cases (hfits.1 hfit).1.2.2
        | false =>
          rw [hmount] at hfits
          -- a shared directory is not looked up
          simp only [Bool.false_eq_true, if_false]
          by_cases hshared : directory = true ∧ removing = false
          · simp only [hshared.1, hshared.2, Bool.not_false, Bool.and_self, if_true] at hfits ⊢
            exact Accepts.skip.congr (by simp [hfits])
          · have hguarded : ¬(directory && !removing) = true := by simpa using hshared
            simp only [if_neg hguarded]
            refine (owner_accepts hpath).congr ?_
            rw [hfits]
            simp only [hshared, false_or, true_and]
  · have hop : Guard.target tree packages path directory removing = Guard.owner packages path := by
      funext guard
      obtain ⟨err, herr, hnotFound⟩ := hmissing
      unfold Guard.target
      rw [herr]
      exact if_pos hnotFound
    rw [hop]
    refine (owner_accepts hpath).congr ⟨fun hunowned => .inr ⟨hmissing, hunowned⟩, ?_⟩
    rintro (⟨facts, hfacts, -⟩ | ⟨-, hunowned⟩)
    · exact absurd hmissing hfacts.not_missing
    · exact hunowned
  · have hop : Guard.target tree packages path directory removing = fun _ =>
        .error (refused path err.message) := by
      funext guard
      unfold Guard.target
      rw [herr]
      exact if_neg (by simp [hother])
    rw [hop]
    refine (Accepts.refuse _).congr ⟨False.elim, ?_⟩
    rintro (⟨facts, hfacts, -⟩ | ⟨⟨err', herr', hnotFound⟩, -⟩)
    · rw [Present, herr] at hfacts
      cases hfacts
    · rw [herr] at herr'
      cases herr'
      rw [hother] at hnotFound
      cases hnotFound

/-- The check of a destination accepts exactly the paths that fit with their parents. -/
theorem destination_accepts (path : Text) (directory removing : Bool) :
    Accepts (Guard.Sound packages)
      (Guard.destination tree packages root path directory removing)
      (Fits tree packages root path directory removing) :=
  (parents_accepts path).bind fun hparents => target_accepts hparents.canonical directory removing

/-- What a later check sees of a destination that fits: it can be looked at. -/
theorem Fits.present_or_missing {path : Text} {directory removing : Bool}
    (h : Fits tree packages root path directory removing) :
    (∃ facts, Present tree path facts) ∨ Missing tree path := by
  rcases h.2 with ⟨facts, hfacts, -⟩ | ⟨hmissing, -⟩
  · exact .inl ⟨facts, hfacts⟩
  · exact .inr hmissing

/-! ## Removed trees -/

section Removal

variable (tree packages root)

structure Lists (directory : Text) (entries : List Text) : Prop where
  isDirectory : ∃ facts, Present tree directory facts ∧ facts.kind = .directory
  listed : tree.readDirectory (components directory) = .ok entries

/-- What a recursive removal comes to. A symlink is removed, and nothing behind it. -/
inductive Removed : Text → Text → Prop
  | self (path : Text) : Removed path path
  | deeper {directory entry path : Text} {entries : List Text}
      (hlists : Lists tree directory entries) (hentry : entry ∈ entries)
      (hbelow : Removed entry path) : Removed directory path

structure Removable (path : Text) : Prop where
  fits : Fits tree packages root path false true
  listed : ∀ facts, Present tree path facts → facts.kind = .directory →
    ∃ entries, Lists tree path entries

end Removal

/-- Removing a tree checks its top, and then the entries of a directory one by one. -/
theorem removeTree_eq (path : Text) (guard : Guard) :
    Guard.removeTree tree packages root path guard =
      Guard.destination tree packages root path false true guard >>= fun guard =>
        match tree.pathFacts (components path) with
        | .ok facts =>
          if facts.kind = .directory then
            match tree.readDirectory (components path) with
            | .error err => .error (refused path err.message)
            | .ok entries =>
              entries.foldlM
                (fun guard entry => Guard.removeTree tree packages root entry guard) guard
          else .ok guard
        | .error err => if err.notFound then .ok guard else .error (refused path err.message) := by
  rw [Guard.removeTree]
  congr 1
  funext guard
  split
  · rename_i facts hfacts
    rw [hfacts]
    dsimp only
    split
    · split
      · rename_i err hlisted
        rw [hlisted]
      · rename_i entries hlisted
        rw [hlisted]
        dsimp only
        rw [List.foldlM_subtype (g := fun guard entry =>
          Guard.removeTree tree packages root entry guard) fun _ _ _ => rfl, List.unattach_attach]
    · rfl
  · rename_i err hfacts
    rw [hfacts]

/-- An entry of a directory is less deep than the directory. -/
theorem depth_lt {directory entry : Text} {entries : List Text}
    (hlists : Lists tree directory entries) (hentry : entry ∈ entries) :
    tree.depth (components entry) < tree.depth (components directory) := by
  obtain ⟨⟨facts, hfacts, hkind⟩, hlisted⟩ := hlists
  have hdirectory : tree.depth (components directory) = tree.rank (components directory) + 1 := by
    unfold FilesystemTree.depth
    rw [hfacts]
    exact if_pos hkind
  rw [hdirectory]
  unfold FilesystemTree.depth
  cases hbelow : tree.pathFacts (components entry) with
  | error err => exact Nat.succ_pos _
  | ok below =>
    dsimp only
    split
    · rename_i hbelowKind
      have hlt := tree.rank_lt _ _ _ _ hlisted hentry hbelow hbelowKind
      omega
    · exact Nat.succ_pos _

/-- A removal comes to the path and to what it comes to in the entries. -/
theorem forall_removed {path : Text} {entries : List Text} (hlists : Lists tree path entries)
    (P : Text → Prop) :
    (∀ entry, Removed tree path entry → P entry) ↔
      P path ∧ ∀ entry ∈ entries, ∀ below, Removed tree entry below → P below := by
  constructor
  · intro hall
    exact ⟨hall path (.self path), fun entry hentry below hbelow =>
      hall below (.deeper hlists hentry hbelow)⟩
  · rintro ⟨hpath, hentries⟩ entry hremoved
    cases hremoved with
    | self => exact hpath
    | deeper hlists' hentry hbelow =>
      have heq := hlists.listed
      rw [hlists'.listed] at heq
      cases heq
      exact hentries _ hentry entry hbelow

/-- Where there is no directory, a removal comes to nothing else. -/
theorem forall_removed_leaf {path : Text}
    (hleaf : ∀ facts, Present tree path facts → facts.kind ≠ .directory) (P : Text → Prop) :
    (∀ entry, Removed tree path entry → P entry) ↔ P path := by
  constructor
  · exact fun hall => hall path (.self path)
  · intro hpath entry hremoved
    cases hremoved with
    | self => exact hpath
    | deeper hlists hentry hbelow =>
      obtain ⟨facts, hfacts, hkind⟩ := hlists.isDirectory
      exact absurd hkind (hleaf facts hfacts)

/-- **A removal decides its whole tree**, by induction on the depth of the tree. -/
theorem removeTree_accepts (path : Text) :
    Accepts (Guard.Sound packages) (Guard.removeTree tree packages root path)
      (∀ entry, Removed tree path entry → Removable tree packages root entry) := by
  induction hdepth : tree.depth (components path) using Nat.strong_induction_on
    generalizing path with
  | h depth ih =>
    subst hdepth
    rw [show Guard.removeTree tree packages root path = _ from funext (removeTree_eq path)]
    have hdestination : Accepts (Guard.Sound packages)
        (Guard.destination tree packages root path false true)
        (Fits tree packages root path false true) := destination_accepts path false true
    -- the top decides: a directory goes down in depth, anything else is removed alone
    rcases present_or_missing tree path with ⟨facts, hfacts⟩ | hmissing | ⟨err, herr, hother⟩
    · rw [show tree.pathFacts (components path) = .ok facts from hfacts]
      dsimp only
      by_cases hkind : facts.kind = .directory
      · simp only [if_pos hkind]
        cases hlisted : tree.readDirectory (components path) with
        | error err =>
          refine (hdestination.bind fun _ => Accepts.refuse _).congr ?_
          refine ⟨fun hand => absurd hand.2 id, fun hall => ?_⟩
          obtain ⟨entries, hlists⟩ := (hall path (.self path)).listed facts hfacts hkind
          have hcontra := hlists.listed
          rw [hlisted] at hcontra
          cases hcontra
        | ok entries =>
          have hlists : Lists tree path entries := ⟨⟨facts, hfacts, hkind⟩, hlisted⟩
          have hentries : Accepts (Guard.Sound packages)
              (fun guard => entries.foldlM
                (fun guard entry => Guard.removeTree tree packages root entry guard) guard)
              (∀ entry ∈ entries, ∀ below, Removed tree entry below →
                Removable tree packages root below) :=
            Accepts.foldlM entries fun entry hentry => ih _ (depth_lt hlists hentry) entry rfl
          refine (hdestination.bind fun _ => hentries).congr ?_
          -- what is removed is the directory and what is removed for its entries
          rw [forall_removed hlists]
          exact and_congr_left fun _ => ⟨fun hfits => ⟨hfits, fun _ _ _ => ⟨entries, hlists⟩⟩,
            fun hremovable => hremovable.fits⟩
      · simp only [if_neg hkind]
        refine (hdestination.bind fun _ => Accepts.skip).congr ?_
        have hleaf : ∀ facts', Present tree path facts' → facts'.kind ≠ .directory :=
          fun facts' hfacts' => hfacts.unique hfacts' ▸ hkind
        rw [forall_removed_leaf hleaf]
        exact ⟨fun hand => ⟨hand.1, fun facts' hfacts' hkind' =>
            absurd hkind' (hleaf facts' hfacts')⟩,
          fun hremovable => ⟨hremovable.fits, trivial⟩⟩
    · have hleaf : ∀ facts, Present tree path facts → facts.kind ≠ .directory :=
        fun facts hfacts => absurd hmissing hfacts.not_missing
      rw [forall_removed_leaf hleaf]
      obtain ⟨err, herr, hnotFound⟩ := hmissing
      rw [herr]
      simp only [if_pos hnotFound]
      refine (hdestination.bind fun _ => Accepts.skip).congr ?_
      exact ⟨fun hand => ⟨hand.1, fun facts hfacts hkind => absurd hkind (hleaf facts hfacts)⟩,
        fun hremovable => ⟨hremovable.fits, trivial⟩⟩
    · rw [herr]
      simp only [hother, Bool.false_eq_true, if_false]
      refine (hdestination.bind fun _ => Accepts.refuse _).congr ?_
      refine ⟨fun hand => absurd hand.2 id, fun hall => ?_⟩
      have hpath := hall path (.self path)
      rcases hpath.fits.present_or_missing with ⟨facts, hfacts⟩ | ⟨err', herr', hnot⟩
      · rw [Present, herr] at hfacts
        cases hfacts
      · rw [herr] at herr'
        cases herr'
        rw [hother] at hnot
        cases hnot

/-! ## Copied trees -/

section Copy

variable (tree packages root)

/-- The directories of a payload that a copy comes to, each with its target. -/
inductive CopiedDirectory : Text → Text → Text → Text → Prop
  | self (source target : Text) : CopiedDirectory source target source target
  | deeper {source target entry name source' target' : Text} {entries : List Text}
      {facts : PathFacts}
      (hlisted : tree.readDirectory (components source) = .ok entries) (hentry : entry ∈ entries)
      (hname : fileName (components entry) = some name) (hfacts : Present tree entry facts)
      (hkind : facts.kind = .directory)
      (hdeeper : CopiedDirectory entry (push target name) source' target') :
      CopiedDirectory source target source' target'

/-- An entry of a payload has a name, and is a directory or a file that may be put at its target. -/
def EntryFits (target entry : Text) : Prop :=
  ∃ name facts, fileName (components entry) = some name ∧ Present tree entry facts
    ∧ (facts.kind = .directory
      ∨ facts.kind = .file ∧ Fits tree packages root (push target name) false false)

structure Copyable (source target : Text) : Prop where
  fits : Fits tree packages root target true false
  entries : ∃ entries, tree.readDirectory (components source) = .ok entries
    ∧ ∀ entry ∈ entries, EntryFits tree packages root target entry

/-- The body of the loop. -/
def copyEntry (target entry : Text) (guard : Guard) : Except String Guard :=
  match fileName (components entry) with
  | none => .error (refused entry "missing filename")
  | some name =>
    match tree.pathFacts (components entry) with
    | .error err => .error (refused entry err.message)
    | .ok facts =>
      if facts.kind = .directory then
        Guard.copyTree tree packages root entry (push target name) guard
      else if facts.kind = .file then
        Guard.destination tree packages root (push target name) false false guard
      else .error (refused entry "payload tree contains a symlink or special file")

end Copy

/-- Copying a tree checks the target, and then copies the entries one by one. -/
theorem copyTree_eq (source target : Text) (guard : Guard) :
    Guard.copyTree tree packages root source target guard =
      Guard.destination tree packages root target true false guard >>= fun guard =>
        match tree.readDirectory (components source) with
        | .error err => .error (refused source err.message)
        | .ok entries => entries.foldlM
            (fun guard entry => copyEntry tree packages root target entry guard) guard := by
  rw [Guard.copyTree]
  congr 1
  funext guard
  split
  · rename_i err hlisted
    rw [hlisted]
  · rename_i entries hlisted
    rw [hlisted]
    dsimp only
    rw [List.foldlM_subtype (g := fun guard entry =>
      copyEntry tree packages root target entry guard) ?_, List.unattach_attach]
    intro guard entry hentry
    unfold copyEntry
    split
    · rename_i hname
      rw [hname]
    · rename_i name hname
      rw [hname]
      dsimp only
      split
      · rename_i err hfacts
        rw [hfacts]
      · rename_i facts hfacts
        rw [hfacts]
        rfl

/-- What a copy comes to in one entry. -/
def CopiedEntry (tree : FilesystemTree) (target entry source' target' : Text) : Prop :=
  ∃ name facts, fileName (components entry) = some name ∧ Present tree entry facts
    ∧ facts.kind = .directory ∧ CopiedDirectory tree entry (push target name) source' target'

/-- What is copied is the directory and what is copied for each of its entries. -/
theorem forall_copied {source target : Text} {entries : List Text}
    (hlisted : tree.readDirectory (components source) = .ok entries) (P : Text → Text → Prop) :
    (∀ source' target', CopiedDirectory tree source target source' target' → P source' target') ↔
      P source target ∧ ∀ entry ∈ entries, ∀ source' target',
        CopiedEntry tree target entry source' target' → P source' target' := by
  constructor
  · intro hall
    refine ⟨hall source target (.self source target), ?_⟩
    rintro entry hentry source' target' ⟨name, facts, hname, hfacts, hkind, hdeeper⟩
    exact hall source' target' (.deeper hlisted hentry hname hfacts hkind hdeeper)
  · rintro ⟨hself, hentries⟩ source' target' hcopied
    cases hcopied with
    | self => exact hself
    | deeper hlisted' hentry hname hfacts hkind hdeeper =>
      rw [hlisted] at hlisted'
      cases hlisted'
      exact hentries _ hentry source' target' ⟨_, _, hname, hfacts, hkind, hdeeper⟩

/-- **A copy decides the whole payload**, by induction on the rank of its directories. -/
theorem copyTree_accepts (source target : Text) :
    Accepts (Guard.Sound packages) (Guard.copyTree tree packages root source target)
      (∀ source' target', CopiedDirectory tree source target source' target' →
        Copyable tree packages root source' target') := by
  induction hrank : tree.rank (components source) using Nat.strong_induction_on
    generalizing source target with
  | h rank ih =>
    subst hrank
    rw [show Guard.copyTree tree packages root source target = _ from
      funext (copyTree_eq source target)]
    have hdestination : Accepts (Guard.Sound packages)
        (Guard.destination tree packages root target true false)
        (Fits tree packages root target true false) := destination_accepts target true false
    cases hlisted : tree.readDirectory (components source) with
    -- a source that cannot be listed is refused, and its own entry of the specification says so
    | error err =>
      refine (hdestination.bind fun _ => Accepts.refuse _).congr ?_
      refine ⟨fun hand => absurd hand.2 id, fun hall => ?_⟩
      obtain ⟨entries, hentries, -⟩ := (hall source target (.self source target)).entries
      rw [hlisted] at hentries
      cases hentries
    | ok entries =>
      have hentry : ∀ entry ∈ entries, Accepts (Guard.Sound packages)
          (fun guard => copyEntry tree packages root target entry guard)
          (EntryFits tree packages root target entry ∧ ∀ source' target',
            CopiedEntry tree target entry source' target' →
              Copyable tree packages root source' target') := by
        intro entry hmem
        unfold copyEntry
        cases hname : fileName (components entry) with
        | none =>
          refine (Accepts.refuse _).congr ⟨False.elim, ?_⟩
          rintro ⟨⟨name, facts, hname', -⟩, -⟩
          rw [hname] at hname'
          cases hname'
        | some name =>
          cases hfacts : tree.pathFacts (components entry) with
          | error err =>
            refine (Accepts.refuse _).congr ⟨False.elim, ?_⟩
            rintro ⟨⟨name, facts, -, hfacts', -⟩, -⟩
            rw [Present, hfacts] at hfacts'
            cases hfacts'
          | ok facts =>
            -- the name and the facts found are the only ones the entry can be judged by
            have hfits : EntryFits tree packages root target entry ↔ facts.kind = .directory
                ∨ facts.kind = .file ∧ Fits tree packages root (push target name) false false := by
              constructor
              · rintro ⟨name', facts', hname', hfacts', hkind⟩
                rw [hname] at hname'
                cases hname'
                rw [Present, hfacts] at hfacts'
                cases hfacts'
                exact hkind
              · exact fun hkind => ⟨name, facts, hname, hfacts, hkind⟩
            have hcopied : ∀ source' target', CopiedEntry tree target entry source' target' ↔
                facts.kind = .directory
                  ∧ CopiedDirectory tree entry (push target name) source' target' := by
              intro source' target'
              constructor
              · rintro ⟨name', facts', hname', hfacts', hkind, hdeeper⟩
                rw [hname] at hname'
                cases hname'
                rw [Present, hfacts] at hfacts'
                cases hfacts'
                exact ⟨hkind, hdeeper⟩
              · exact fun hand => ⟨name, facts, hname, hfacts, hand.1, hand.2⟩
            dsimp only
            by_cases hkind : facts.kind = .directory
            · simp only [if_pos hkind]
              -- a directory is copied by the recursion, which goes down in rank
              refine (ih _ (tree.rank_lt _ _ _ _ hlisted hmem hfacts hkind) entry
                (push target name) rfl).congr ?_
              rw [hfits]
              simp only [hcopied, hkind, true_or, true_and]
            · simp only [if_neg hkind]
              by_cases hfile : facts.kind = .file
              -- a file is one destination, and anything else is refused
              · simp only [if_pos hfile]
                refine (destination_accepts (push target name) false false).congr ?_
                rw [hfits]
                simp [hcopied, hfile]
              · simp only [if_neg hfile]
                refine (Accepts.refuse _).congr ⟨False.elim, fun hand => ?_⟩
                rcases hfits.1 hand.1 with hdirectory | ⟨hfile', -⟩
                · exact hkind hdirectory
                · exact hfile hfile'
      have hentries : Accepts (Guard.Sound packages)
          (fun guard => entries.foldlM
            (fun guard entry => copyEntry tree packages root target entry guard) guard)
          (∀ entry ∈ entries, EntryFits tree packages root target entry ∧ ∀ source' target',
            CopiedEntry tree target entry source' target' →
              Copyable tree packages root source' target') := Accepts.foldlM entries hentry
      -- the target first, then the entries one by one
      refine (hdestination.bind fun _ => hentries).congr ?_
      rw [forall_copied hlisted]
      constructor
      · rintro ⟨hfits, hall⟩
        exact ⟨⟨hfits, entries, hlisted, fun entry hmem => (hall entry hmem).1⟩,
          fun entry hmem => (hall entry hmem).2⟩
      · rintro ⟨⟨hfits, entries', hlisted', hall⟩, hdeeper⟩
        rw [hlisted] at hlisted'
        cases hlisted'
        exact ⟨hfits, fun entry hmem => ⟨hall entry hmem, hdeeper entry hmem⟩⟩

end Installer

end LgBuddy
