import LgBuddy.Machine.Judgment
import LgBuddy.Preflight.PathSafety

/-!
# LgBuddy — what a checker without failures has judged

* `AncestorTrusted`, `demandedKind`, `PolicyMet`, `PathMet` — what the checks of `PathSafety`
  demand, in their own terms, and that each records nothing exactly when it is met;
* `Remembered` — the invariant of a checker: what it does not look at again was in order;
* `Call.requirements`, `run_eq` — every call makes its requirements, and then something of its own;
* `TreeReachable`, `walkTree_judges` — the walk over the tree of the configuration;
* `path_judgment_is_compositional` — the law of all sequences of calls.
-/

namespace LgBuddy

namespace PathSafety

open Judgment (Records)
open UnixPath (properAncestors startsWith)

/-! ## What the checks demand -/

/-- The owner may do all of it. -/
def Grants (facts : PathFacts) (required : UInt32) : Prop := facts.mode &&& required = required

def OthersMayWrite (facts : PathFacts) : Prop := facts.mode &&& 0o022 ≠ 0

structure Replaceable (facts : PathFacts) : Prop where
  writable : facts.readOnlyFilesystem = false
  single : facts.linkCount = 1
  unmounted : facts.mountPoint = false
  grants : Grants facts 0o200

structure Mutable (facts : PathFacts) (ownerUid required : UInt32) : Prop where
  writable : facts.readOnlyFilesystem = false
  unmounted : facts.mountPoint = false
  grants : Grants facts (required &&& ~~~0o200)
  /-- Only root may write without the permission to, and only what is root's. -/
  written : ¬(ownerUid = 0 ∧ facts.ownerUid = 0) → Grants facts required

/-- The kind of path that each policy is for. -/
def demandedKind : InstallerPathPolicy → PathKind
  | .replaceFile | .replaceExecutable => .file
  | .mutateDirectory | .recursiveClear | .exactDropInDirectory _ => .directory
  | .readableInput | .systemReadableInput | .executableInput => .file
  | .inputDirectory => .directory

/-- Owner and permissions that each policy demands, of a path of the right kind. -/
def PolicyMet (filesystem : FilesystemFacts) (path : HostPath) (facts : PathFacts)
    (ownerUid : UInt32) : InstallerPathPolicy → Prop
  | .replaceFile => Replaceable facts
  | .replaceExecutable => Replaceable facts ∧ Grants facts 0o111
  | .mutateDirectory => Mutable facts ownerUid 0o300
  | .recursiveClear => Mutable facts ownerUid 0o300 ∧ ∃ mountPoints,
      filesystem.mountPoints = .ok mountPoints
        ∧ ∀ mountPoint ∈ mountPoints, mountPoint ≠ path → startsWith mountPoint path = false
  | .exactDropInDirectory expectedEntry => Mutable facts ownerUid 0o700 ∧ ∃ entries,
      filesystem.entries path = .ok entries
        ∧ ∀ entry, entry ∈ entries ↔ entry = join path expectedEntry
  | .readableInput => Grants facts 0o400
  | .systemReadableInput => Grants facts 0o404
  | .executableInput | .inputDirectory => Grants facts 0o500

structure PathMet (filesystem : FilesystemFacts) (requirement : Requirement) (facts : PathFacts) :
    Prop where
  kind : facts.kind = demandedKind requirement.policy
  owner : facts.ownerUid = requirement.ownerUid
  /-- Below a root that is nobody else's to write in, neither is the path. -/
  strict : ∀ root, requirement.trustedRoot = some root → root.rejectOtherWrites = true →
    ¬OthersMayWrite facts
  policy : PolicyMet filesystem requirement.path facts requirement.ownerUid requirement.policy

/-- A real directory; inside the trusted root it has the trusted owner, and outside the root of a
candidate nobody but root and the user can put another one in its place. -/
def AncestorTrusted (filesystem : FilesystemFacts) (trustedRoot : Option TrustedRoot)
    (ancestor : HostPath) : Prop :=
  ∃ facts, filesystem.pathFacts ancestor = .ok facts ∧ facts.kind = .directory
    ∧ ∀ root, trustedRoot = some root →
      (startsWith ancestor root.path = true → facts.ownerUid = root.ownerUid
        ∧ (root.rejectOtherWrites = true → ¬OthersMayWrite facts))
      ∧ (startsWith ancestor root.path = false → root.protectExternalAncestors = true →
        (facts.ownerUid = 0 ∨ facts.ownerUid = root.ownerUid)
          ∧ (OthersMayWrite facts → facts.mode &&& 0o1000 ≠ 0))

section Demands

variable {filesystem : FilesystemFacts} {path : HostPath} {facts : PathFacts} {check : String}

/-- A failure that is recorded on a condition. -/
theorem ite_failure_eq_nil {c : Prop} [Decidable c] {failure : CompatibilityFailure} :
    (if c then [failure] else []) = [] ↔ ¬c := by
  split <;> simp [*]

/-- No complaint about the owner. -/
theorem checkOwner_eq_nil {uid : UInt32} :
    checkOwner path facts uid check = [] ↔ facts.ownerUid = uid := by
  rw [checkOwner, ite_failure_eq_nil, ne_eq, not_not]

/-- No complaint about other writers. -/
theorem checkNotWritableByOthers_eq_nil :
    checkNotWritableByOthers path facts = [] ↔ ¬OthersMayWrite facts := ite_failure_eq_nil

/-- No complaint about permissions. -/
theorem checkPermissions_eq_nil {required : UInt32} {detail : String} :
    checkPermissions path facts required check detail = [] ↔ Grants facts required := by
  rw [checkPermissions, ite_failure_eq_nil, ne_eq, not_not, Grants]

/-- A file that can be replaced. -/
theorem checkReplaceFile_eq_nil : checkReplaceFile path facts check = [] ↔ Replaceable facts := by
  simp only [checkReplaceFile, List.append_eq_nil_iff, ite_failure_eq_nil, checkPermissions_eq_nil,
    ne_eq, not_not, Bool.not_eq_true]
  constructor
  · rintro ⟨⟨⟨hwritable, hsingle⟩, hunmounted⟩, hgrants⟩
    exact ⟨hwritable, hsingle, hunmounted, hgrants⟩
  · rintro ⟨hwritable, hsingle, hunmounted, hgrants⟩
    exact ⟨⟨⟨hwritable, hsingle⟩, hunmounted⟩, hgrants⟩

/-- What is granted with the permission to write is granted without it. -/
theorem Grants.without {required : UInt32} (h : Grants facts required) (mask : UInt32) :
    Grants facts (required &&& mask) := by
  unfold Grants at h ⊢
  rw [← UInt32.and_assoc, h]

/-- Root need not have the write bit, for it writes anyway. -/
theorem grants_requiredPermissions {ownerUid required : UInt32} :
    Grants facts (requiredPermissions facts ownerUid required) ↔
      Grants facts (required &&& ~~~0o200)
        ∧ (¬(ownerUid = 0 ∧ facts.ownerUid = 0) → Grants facts required) := by
  unfold requiredPermissions
  split
  · rename_i hroot
    exact ⟨fun h => ⟨h, fun hother => absurd hroot hother⟩, fun h => h.1⟩
  · rename_i hother
    exact ⟨fun h => ⟨h.without _, fun _ => h⟩, fun h => h.2 hother⟩

/-- A directory that can be changed. -/
theorem checkMutableDirectory_eq_nil {ownerUid required : UInt32} :
    checkMutableDirectory path facts ownerUid check required = [] ↔
      Mutable facts ownerUid required := by
  simp only [checkMutableDirectory, List.append_eq_nil_iff, ite_failure_eq_nil,
    checkPermissions_eq_nil, Bool.not_eq_true, grants_requiredPermissions]
  constructor
  · rintro ⟨⟨hwritable, hunmounted⟩, hgrants, hwritten⟩
    exact ⟨hwritable, hunmounted, hgrants, hwritten⟩
  · rintro ⟨hwritable, hunmounted, hgrants, hwritten⟩
    exact ⟨⟨hwritable, hunmounted⟩, hgrants, hwritten⟩

/-- No mount below the directory. -/
theorem checkRecursiveClearMounts_eq_nil :
    checkRecursiveClearMounts filesystem path check = [] ↔ ∃ mountPoints,
      filesystem.mountPoints = .ok mountPoints
        ∧ ∀ mountPoint ∈ mountPoints, mountPoint ≠ path → startsWith mountPoint path = false := by
  unfold checkRecursiveClearMounts
  cases filesystem.mountPoints with
  | error err => simp
  | ok mountPoints =>
    simp only [List.map_eq_nil_iff, List.filter_eq_nil_iff, Except.ok.injEq, exists_eq_left']
    refine forall₂_congr fun mountPoint _ => ?_
    simp

/-- A directory with exactly this one entry. -/
theorem checkExactDirectory_eq_nil {expectedEntry : Text} :
    checkExactDirectory filesystem path expectedEntry check = [] ↔ ∃ entries,
      filesystem.entries path = .ok entries
        ∧ ∀ entry, entry ∈ entries ↔ entry = join path expectedEntry := by
  unfold checkExactDirectory
  cases filesystem.entries path with
  | error err => simp
  | ok entries =>
    simp only [List.append_eq_nil_iff, ite_failure_eq_nil, List.map_eq_nil_iff,
      List.filter_eq_nil_iff, Except.ok.injEq, exists_eq_left', not_not, decide_eq_true_eq, ne_eq]
    constructor
    · rintro ⟨hthere, hothers⟩ entry
      exact ⟨hothers entry, fun heq => heq ▸ hthere⟩
    · exact fun hexact => ⟨(hexact _).2 rfl, fun entry hentry => (hexact entry).1 hentry⟩

/-- **Policy.** Each policy complains about nothing exactly if it is met. -/
theorem checkPolicy_eq_nil {ownerUid : UInt32} (policy : InstallerPathPolicy) :
    checkPolicy filesystem path facts ownerUid check policy = [] ↔
      PolicyMet filesystem path facts ownerUid policy := by
  cases policy with
  | replaceFile => exact checkReplaceFile_eq_nil
  | replaceExecutable =>
    rw [checkPolicy, List.append_eq_nil_iff, checkReplaceFile_eq_nil, checkPermissions_eq_nil,
      PolicyMet]
  | mutateDirectory => exact checkMutableDirectory_eq_nil
  | recursiveClear =>
    rw [checkPolicy, List.append_eq_nil_iff, checkMutableDirectory_eq_nil,
      checkRecursiveClearMounts_eq_nil, PolicyMet]
  | exactDropInDirectory expectedEntry =>
    rw [checkPolicy, List.append_eq_nil_iff, checkMutableDirectory_eq_nil,
      checkExactDirectory_eq_nil, PolicyMet]
  | readableInput | systemReadableInput | executableInput | inputDirectory =>
    exact checkPermissions_eq_nil

/-- What a policy expects is the kind it demands. -/
theorem expects_iff {policy : InstallerPathPolicy} {kind : PathKind} :
    ((policy.expectsFile = true → kind = .file)
      ∧ (policy.expectsDirectory = true → kind = .directory)) ↔ kind = demandedKind policy := by
  cases policy <;>
    simp [InstallerPathPolicy.expectsFile, InstallerPathPolicy.expectsDirectory, demandedKind]

/-- Strict is what has a root that rejects other writers. -/
theorem isStrict_iff {requirement : Requirement} : requirement.isStrict = true ↔
    ∃ root, requirement.trustedRoot = some root ∧ root.rejectOtherWrites = true := by
  unfold Requirement.isStrict
  rw [Option.any_eq_true]

/-- The path is in order, or there is nothing to clear. -/
theorem checkPath_eq_nil (requirement : Requirement) : checkPath filesystem requirement = [] ↔
    (requirement.policy = .recursiveClear ∧ isMissing filesystem requirement.path = true)
      ∨ ∃ facts, filesystem.pathFacts requirement.path = .ok facts
        ∧ PathMet filesystem requirement facts := by
  unfold checkPath isMissing
  dsimp only
  cases filesystem.pathFacts requirement.path with
  | error err => simp
  | ok facts =>
    simp only [Bool.false_eq_true, and_false, false_or, Except.ok.injEq, exists_eq_left']
    split
    · rename_i hkind
      simp only [List.cons_ne_self, false_iff]
      exact fun hmet => hkind.2 ((expects_iff.2 hmet.kind).1 hkind.1)
    · rename_i hfile
      split
      · rename_i hkind
        simp only [reduceCtorEq, false_iff]
        exact fun hmet => hkind.2 ((expects_iff.2 hmet.kind).2 hkind.1)
      · rename_i hdirectory
        rw [List.append_eq_nil_iff, List.append_eq_nil_iff, checkOwner_eq_nil, checkPolicy_eq_nil]
        have hstrict : (if requirement.isStrict = true then
            checkNotWritableByOthers requirement.path facts else []) = []
            ↔ ∀ root, requirement.trustedRoot = some root → root.rejectOtherWrites = true →
                ¬OthersMayWrite facts := by
          split
          · rename_i hstrict
            obtain ⟨root, hroot, hreject⟩ := isStrict_iff.1 hstrict
            rw [checkNotWritableByOthers_eq_nil]
            exact ⟨fun h _ _ _ => h, fun h => h root hroot hreject⟩
          · rename_i hloose
            exact ⟨fun _ root hroot hreject => absurd (isStrict_iff.2 ⟨root, hroot, hreject⟩) hloose,
              fun _ => rfl⟩
        rw [hstrict]
        constructor
        · rintro ⟨⟨howner, hstrict⟩, hpolicy⟩
          have hkind : facts.kind = demandedKind requirement.policy :=
            expects_iff.1 ⟨fun h => not_not.1 fun hne => hfile ⟨h, hne⟩,
              fun h => not_not.1 fun hne => hdirectory ⟨h, hne⟩⟩
          exact ⟨hkind, howner, hstrict, hpolicy⟩
        · rintro ⟨-, howner, hstrict, hpolicy⟩
          exact ⟨⟨howner, hstrict⟩, hpolicy⟩

/-- An ancestor outside belongs to root or the user, and nobody else can rename in it. -/
theorem checkCandidateExternalAncestor_eq_nil {uid : UInt32} :
    checkCandidateExternalAncestor path facts uid = [] ↔
      (facts.ownerUid = 0 ∨ facts.ownerUid = uid)
        ∧ (OthersMayWrite facts → facts.mode &&& 0o1000 ≠ 0) := by
  unfold checkCandidateExternalAncestor
  split
  · rename_i hother
    simp only [reduceCtorEq, false_iff]
    exact fun hand => hand.1.elim hother.1 hother.2
  · rename_i howner
    rw [ite_failure_eq_nil]
    have hknown : facts.ownerUid = 0 ∨ facts.ownerUid = uid := by
      by_cases hroot : facts.ownerUid = 0
      · exact .inl hroot
      · exact .inr (not_not.1 fun huser => howner ⟨hroot, huser⟩)
    constructor
    · exact fun hsticky => ⟨hknown, fun hwrite hclear => hsticky ⟨hwrite, hclear⟩⟩
    · exact fun hand hwrite => hand.2 hwrite.1 hwrite.2

/-- **Ancestor.** An ancestor is passed exactly if it is trusted. -/
theorem checkAncestor_eq_nil (trustedRoot : Option TrustedRoot) (ancestor : HostPath) :
    checkAncestor filesystem ancestor (ancestorPolicy trustedRoot ancestor) = [] ↔
      AncestorTrusted filesystem trustedRoot ancestor := by
  unfold checkAncestor AncestorTrusted
  cases filesystem.pathFacts ancestor with
  | error err => simp
  | ok facts =>
    simp only [Except.ok.injEq, exists_eq_left']
    -- a directory is judged by the policy, anything else is no ancestor
    by_cases hkind : facts.kind = .directory
    · rw [if_pos hkind]
      simp only [hkind, true_and]
      cases trustedRoot with
      | none => simp [ancestorPolicy]
      | some root =>
        simp only [Option.some.injEq, forall_eq']
        cases hinside : startsWith ancestor root.path with
        | true =>
          have hpolicy : ancestorPolicy (some root) ancestor
              = some (.trusted root.ownerUid root.rejectOtherWrites) := by
            simp [ancestorPolicy, hinside]
          rw [hpolicy]
          simp only [List.append_eq_nil_iff, checkOwner_eq_nil, forall_const, Bool.true_eq_false,
            false_implies, and_true]
          refine and_congr_right fun _ => ?_
          split
          · rename_i hreject
            rw [checkNotWritableByOthers_eq_nil]
            exact ⟨fun h _ => h, fun h => h hreject⟩
          · rename_i haccept
            exact ⟨fun _ hreject => absurd hreject haccept, fun _ => rfl⟩
        | false =>
          cases hprotect : root.protectExternalAncestors with
          | true =>
            have hpolicy : ancestorPolicy (some root) ancestor
                = some (.candidateExternal root.ownerUid) := by
              simp [ancestorPolicy, hinside, hprotect]
            rw [hpolicy]
            simp [checkCandidateExternalAncestor_eq_nil]
          | false =>
            have hpolicy : ancestorPolicy (some root) ancestor = none := by
              simp [ancestorPolicy, hinside, hprotect]
            rw [hpolicy]
            simp
    · rw [if_neg hkind]
      simp [hkind]

end Demands

/-! ## The tree of the configuration -/

/-- The entry is owned by the user, and it is a file or a directory that the user can read. -/
def EntryJudged (filesystem : FilesystemFacts) (ownerUid : UInt32) (entry : HostPath) : Prop :=
  ∃ facts, filesystem.pathFacts entry = .ok facts ∧ facts.ownerUid = ownerUid
    ∧ ((facts.kind = .directory ∧ Grants facts 0o500) ∨ (facts.kind = .file ∧ Grants facts 0o400))

def Lists (filesystem : FilesystemFacts) (directory entry : HostPath) : Prop :=
  ∃ entries, filesystem.entries directory = .ok entries ∧ entry ∈ entries

def IsDirectory (filesystem : FilesystemFacts) (path : HostPath) : Prop :=
  ∃ facts, filesystem.pathFacts path = .ok facts ∧ facts.kind = .directory

/-- The entries that can be reached from a directory, through directories. -/
inductive TreeReachable (filesystem : FilesystemFacts) : HostPath → HostPath → Prop
  | listed {directory entry : HostPath} (h : Lists filesystem directory entry) :
      TreeReachable filesystem directory entry
  | deeper {directory sub entry : HostPath} (h : Lists filesystem directory sub)
      (hsub : IsDirectory filesystem sub) (hentry : TreeReachable filesystem sub entry) :
      TreeReachable filesystem directory entry

section Tree

variable {filesystem : FilesystemFacts} {configDirectory : HostPath} {ownerUid : UInt32}

/-- A silent entry is in order, and a directory among them is walked. -/
theorem treeEntry_silent {entry : HostPath} (h : (treeEntry filesystem ownerUid entry).1 = []) :
    EntryJudged filesystem ownerUid entry ∧ (IsDirectory filesystem entry →
      (treeEntry filesystem ownerUid entry).2 = true) := by
  unfold treeEntry at h ⊢
  unfold EntryJudged IsDirectory
  cases hfacts : filesystem.pathFacts entry with
  | error err =>
    rw [hfacts] at h
    cases h
  | ok facts =>
    rw [hfacts] at h
    simp only [Except.ok.injEq, exists_eq_left']
    dsimp only at h
    cases hkind : facts.kind with
    | directory =>
      rw [hkind] at h
      obtain ⟨howner, hgrants⟩ := List.append_eq_nil_iff.1 h
      exact ⟨⟨checkOwner_eq_nil.1 howner, .inl ⟨rfl, checkPermissions_eq_nil.1 hgrants⟩⟩,
        fun _ => rfl⟩
    | file =>
      rw [hkind] at h
      obtain ⟨howner, hgrants⟩ := List.append_eq_nil_iff.1 h
      exact ⟨⟨checkOwner_eq_nil.1 howner, .inr ⟨rfl, checkPermissions_eq_nil.1 hgrants⟩⟩,
        fun hdirectory => by cases hdirectory⟩
    | symlink | other =>
      rw [hkind] at h
      exact absurd (List.append_eq_nil_iff.1 h).2 (List.cons_ne_nil _ _)

/-- Silent entries are all in order; the directories among them are pending, with the others. -/
theorem treeEntries_silent {entries : List HostPath} {seen : Nat} {pending : List HostPath}
    (h : (treeEntries filesystem configDirectory ownerUid entries seen pending).1 = []) :
    (∀ entry ∈ entries, EntryJudged filesystem ownerUid entry)
      ∧ ∃ seen' pending',
        (treeEntries filesystem configDirectory ownerUid entries seen pending).2
            = some (seen', pending')
          ∧ (∀ directory ∈ pending, directory ∈ pending')
          ∧ ∀ entry ∈ entries, IsDirectory filesystem entry → entry ∈ pending' := by
  induction entries generalizing seen pending with
  | nil => exact ⟨nofun, seen, pending, rfl, fun _ hmem => hmem, nofun⟩
  | cons entry entries ih =>
    unfold treeEntries at h ⊢
    split at h
    · cases h
    · rename_i hfew
      rw [if_neg hfew]
      obtain ⟨hentry, hentries⟩ := List.append_eq_nil_iff.1 h
      obtain ⟨hjudged, hwalked⟩ := treeEntry_silent hentry
      obtain ⟨hrest, seen', pending', hnext, hpending, hdirectories⟩ := ih hentries
      refine ⟨fun other hother => ?_, seen', pending', hnext, fun directory hmem => ?_,
        fun other hother hdirectory => ?_⟩
      · rcases List.mem_cons.1 hother with rfl | hother
        · exact hjudged
        · exact hrest other hother
      · apply hpending
        split
        · exact List.mem_cons_of_mem _ hmem
        · exact hmem
      · rcases List.mem_cons.1 hother with rfl | hother
        · apply hpending
          rw [if_pos (hwalked hdirectory)]
          exact List.mem_cons_self
        · exact hdirectories other hother hdirectory

/-- **Walk.** A silent walk has judged what can be reached from the pending directories. -/
theorem walkTree_judges {seen : Nat} {pending : List HostPath}
    (h : walkTree filesystem configDirectory ownerUid seen pending = []) :
    ∀ directory ∈ pending, ∀ entry, TreeReachable filesystem directory entry →
      EntryJudged filesystem ownerUid entry := by
  induction seen, pending using walkTree.induct filesystem configDirectory ownerUid with
  -- along the walk itself: what is pending is judged, and what it lists becomes pending
  | case1 seen => exact nofun
  | case2 seen directory pending err herr =>
    rw [walkTree, herr] at h
    cases h
  | case3 seen directory pending entries hentries walked hnone =>
    rw [walkTree, hentries] at h
    dsimp only at h
    split at h
    · obtain ⟨-, _, _, hnext, -⟩ := treeEntries_silent h
      rw [show walked.2 = _ from hnext] at hnone
      cases hnone
    · rename_i hnext
      rw [show walked.2 = _ from hnext] at hnone
      cases hnone
  | case4 seen directory pending entries hentries walked seen' pending' hnext ih =>
    rw [walkTree, hentries] at h
    dsimp only at h
    split at h
    · rename_i hnone
      rw [show walked.2 = _ from hnone] at hnext
      cases hnext
    · rename_i seen'' pending'' hnext'
      rw [show walked.2 = _ from hnext'] at hnext
      cases hnext
      obtain ⟨hlisted, hrest⟩ := List.append_eq_nil_iff.1 h
      obtain ⟨hjudged, _, _, hpair, hpending, hdirectories⟩ := treeEntries_silent hlisted
      rw [show walked.2 = _ from hpair] at hnext'
      cases hnext'
      have hbelow := ih hrest
      intro other hother entry hreach
      rcases List.mem_cons.1 hother with rfl | hother
      · -- an entry of the directory itself, or one below a directory that is pending now
        cases hreach with
        | listed hlists =>
          obtain ⟨entries', hentries', hentry⟩ := hlists
          rw [hentries] at hentries'
          cases hentries'
          exact hjudged entry hentry
        | deeper hlists hsub hentry =>
          obtain ⟨entries', hentries', hmem⟩ := hlists
          rw [hentries] at hentries'
          cases hentries'
          exact hbelow _ (hdirectories _ hmem hsub) entry hentry
      · exact hbelow other (hpending other hother) entry hreach

end Tree

/-! ## The checker -/

/-- What a checker does not look at again was in order. -/
def Remembered (filesystem : FilesystemFacts) (checker : Checker) : Prop :=
  ∀ key ∈ checker.checkedAncestors, checkAncestor filesystem key.1 key.2 = []

/-- A check of this file system. -/
abbrev Decides (filesystem : FilesystemFacts) (op : Checker → Checker) (P : Prop) : Prop :=
  Records Checker.failures (Remembered filesystem) op P

section Decides

variable {filesystem : FilesystemFacts}

/-- Recording failures decides whether there were any. -/
theorem decides_record (found : List CompatibilityFailure) :
    Decides filesystem (fun checker => checker.record found) (found = []) where
  grows checker := List.prefix_append _ _
  finds checker _ hnone := by
    show checker.failures ++ found = [] ↔ _
    rw [hnone, List.nil_append]
  keeps checker hremembered _ _ := hremembered

/-- An ancestor that is remembered is not looked at, and it is in order. -/
theorem decides_visitAncestor (trustedRoot : Option TrustedRoot) (ancestor : HostPath) :
    Decides filesystem
      (fun checker => checker.visitAncestor filesystem trustedRoot ancestor)
      (AncestorTrusted filesystem trustedRoot ancestor) where
  grows checker := by
    unfold Checker.visitAncestor
    dsimp only
    split
    · exact List.prefix_rfl
    · exact List.prefix_append _ _
  finds checker hremembered hnone := by
    rw [← checkAncestor_eq_nil]
    unfold Checker.visitAncestor
    dsimp only
    split
    · rename_i hknown
      exact ⟨fun _ => hremembered _ hknown, fun _ => hnone⟩
    · show checker.failures ++ _ = [] ↔ _
      rw [hnone, List.nil_append]
  keeps checker hremembered _ htrusted := by
    unfold Checker.visitAncestor
    dsimp only
    split
    · exact hremembered
    · intro key hkey
      rcases List.mem_cons.1 hkey with rfl | hkey
      · exact (checkAncestor_eq_nil trustedRoot ancestor).2 htrusted
      · exact hremembered key hkey

/-- What a requirement demands of the ancestors and of the path. -/
def RequirementMet (filesystem : FilesystemFacts) (requirement : Requirement) : Prop :=
  (∀ ancestor ∈ properAncestors requirement.path,
      AncestorTrusted filesystem requirement.trustedRoot ancestor)
    ∧ checkPath filesystem requirement = []

/-- A requirement is its ancestors, each visited once, and its own path. -/
theorem decides_checkRequirement (requirement : Requirement) :
    Decides filesystem (fun checker => checker.checkRequirement filesystem requirement)
      (RequirementMet filesystem requirement) :=
  (Records.foldl (properAncestors requirement.path) fun ancestor _ =>
    decides_visitAncestor requirement.trustedRoot ancestor).comp
      (decides_record (checkPath filesystem requirement))

/-- Requirements in a row. -/
theorem decides_requirements (requirements : List Requirement) :
    Decides filesystem
      (fun checker => requirements.foldl (Checker.checkRequirement filesystem) checker)
      (∀ requirement ∈ requirements, RequirementMet filesystem requirement) :=
  Records.foldl requirements fun requirement _ => decides_checkRequirement requirement

end Decides

/-! ## Calls -/

/-- The requirements that a call makes. -/
def Call.requirements (filesystem : FilesystemFacts) : Call → List Requirement
  | .requirement asked => [asked]
  | .optionalRequirement asked =>
    if isMissing filesystem asked.path then [] else [asked]
  | .installDestination asked =>
    if isMissing filesystem asked.path then
      (((properAncestors asked.path).find? fun ancestor =>
        !isMissing filesystem ancestor).map fun ancestor =>
          { asked with path := ancestor, policy := .mutateDirectory }).toList
    else [asked]
  | .replaceFileAlternatives paths ownerUid trustedRoot check =>
    (paths.filter fun path => !isMissing filesystem path).map fun path =>
      ⟨path, ownerUid, trustedRoot, .replaceFile, check⟩
  | .integrationOverride _ _ | .absent _ => []
  | .configTree configPath ownerUid =>
    ((parent configPath).map fun configDirectory =>
      configRequirements configPath configDirectory ownerUid).getD []

/-- What a call records of its own, behind its requirements. -/
def Call.ownFailures (filesystem : FilesystemFacts) : Call → List CompatibilityFailure
  | .requirement _ | .optionalRequirement _ | .installDestination _ => []
  | .replaceFileAlternatives paths _ _ check =>
    if (paths.filter fun path => !isMissing filesystem path).isEmpty then
      [⟨check, paths.head?, "no supported LG Buddy desktop entry is installed",
        "restore the desktop entry from a current release-bundle installation"⟩]
    else []
  | .integrationOverride path expected => integrationFailures filesystem path expected
  | .absent path => absentFailures filesystem path
  | .configTree configPath ownerUid =>
    match parent configPath with
    | none => [⟨"config-state", some configPath, "config path has no parent directory",
        "place config.env in a user-owned configuration directory"⟩]
    | some configDirectory => walkTree filesystem configDirectory ownerUid 0 [configDirectory]

/-- The path for which a call records nothing of its own once a failure names it. -/
def Call.skipPath : Call → Option HostPath
  | .integrationOverride path _ => some path
  | .configTree configPath _ => parent configPath
  | _ => none

/-- The end of a call. -/
def Call.finish (filesystem : FilesystemFacts) (call : Call) (checker : Checker) : Checker :=
  if checker.failures.any fun failure => call.skipPath.isSome && failure.path == call.skipPath
    then checker
  else checker.record (call.ownFailures filesystem)

theorem record_nil (checker : Checker) : checker.record [] = checker := by
  unfold Checker.record
  rw [List.append_nil]

/-- **Calls.** Each call makes its requirements, and then ends with what is its own. -/
theorem run_eq (filesystem : FilesystemFacts) (checker : Checker) (call : Call) :
    checker.run filesystem call = call.finish filesystem
      ((call.requirements filesystem).foldl (Checker.checkRequirement filesystem) checker) := by
  cases call with
  -- call by call: what it requires is checked in turn, and the rest is its end
  | requirement requirement => simp [Checker.run, Call.finish, Call.skipPath, Call.ownFailures,
      Call.requirements, record_nil]
  | optionalRequirement requirement =>
    simp only [Checker.run, Checker.checkOptionalRequirement, Call.finish, Call.skipPath,
      Call.ownFailures, Call.requirements, record_nil, Option.isSome_none, Bool.false_and, ite_self]
    split <;> rfl
  | installDestination requirement =>
    simp only [Checker.run, Checker.checkInstallDestination, Call.finish, Call.skipPath,
      Call.ownFailures, Call.requirements, record_nil, Option.isSome_none, Bool.false_and, ite_self]
    split
    · split
      · rename_i hfound
        rw [hfound]
        rfl
      · rename_i hnone
        rw [hnone]
        rfl
    · rfl
  | replaceFileAlternatives paths ownerUid trustedRoot check =>
    have htest : ∀ failures : List CompatibilityFailure,
        (failures.any fun failure => (none : Option HostPath).isSome && failure.path == none)
          = false := by simp
    simp only [Checker.run, Checker.checkReplaceFileAlternatives, Call.finish, Call.skipPath, htest,
      Call.ownFailures, Call.requirements, List.foldl_map, Bool.false_eq_true, if_false]
    split
    · rfl
    · rw [record_nil]
  | integrationOverride path expected =>
    simp [Checker.run, Checker.checkIntegrationOverride, Checker.hasFailed, Call.finish,
      Call.skipPath, Call.ownFailures, Call.requirements, beq_eq_decide]
  | absent path =>
    simp [Checker.run, Checker.checkAbsent, Call.finish, Call.skipPath, Call.ownFailures,
      Call.requirements]
  | configTree configPath ownerUid =>
    cases hparent : parent configPath with
    | none =>
      simp [Checker.run, checkConfigTree, Call.finish, Call.skipPath, Call.ownFailures,
        Call.requirements, hparent]
    | some configDirectory =>
      simp [Checker.run, checkConfigTree, Checker.hasFailed, Call.finish, Call.skipPath,
        Call.ownFailures, Call.requirements, hparent, beq_eq_decide]

def Call.Passes (filesystem : FilesystemFacts) (call : Call) : Prop :=
  (∀ requirement ∈ call.requirements filesystem, RequirementMet filesystem requirement)
    ∧ call.ownFailures filesystem = []

/-- One call of the checker. -/
theorem decides_run (filesystem : FilesystemFacts) (call : Call) :
    Decides filesystem (fun checker => checker.run filesystem call) (call.Passes filesystem) := by
  have hown : Decides filesystem (fun checker => checker.record (call.ownFailures filesystem))
      (call.ownFailures filesystem = []) := decides_record _
  have hfinish := hown.unlessFailed
    fun failure => call.skipPath.isSome && failure.path == call.skipPath
  have hrun := (decides_requirements (call.requirements filesystem)).comp hfinish
  rw [show (fun checker : Checker => checker.run filesystem call) = _
    from funext fun checker => run_eq filesystem checker call]
  exact hrun

/-- Calls in a row. -/
theorem decides_runAll (filesystem : FilesystemFacts) (calls : List Call) :
    Decides filesystem (fun checker => calls.foldl (Checker.run filesystem) checker)
      (∀ call ∈ calls, call.Passes filesystem) :=
  Records.foldl calls fun call _ => decides_run filesystem call

/-- A fresh checker. -/
theorem run_fresh_iff (filesystem : FilesystemFacts) (call : Call) :
    (Checker.run filesystem {} call).failures = [] ↔ call.Passes filesystem :=
  (decides_run filesystem call).finds {} nofun rfl

theorem runAll_iff (filesystem : FilesystemFacts) (calls : List Call) :
    (Checker.runAll filesystem calls).failures = [] ↔ ∀ call ∈ calls, call.Passes filesystem :=
  (decides_runAll filesystem calls).finds {} nofun rfl

/-! ## The law -/

/-- **Composition.** A sequence of calls on one checker records nothing exactly when each of them
records nothing on a checker of its own. Then every requirement was met by its ancestors and by the
path, if it exists, and every entry that can be reached from the directory of a configuration was
judged. -/
theorem path_judgment_is_compositional (filesystem : FilesystemFacts) (calls : List Call) :
    ((Checker.runAll filesystem calls).failures = [] ↔
        ∀ call ∈ calls, (Checker.run filesystem {} call).failures = [])
      ∧ ((Checker.runAll filesystem calls).failures = [] → ∀ call ∈ calls,
        (∀ requirement ∈ call.requirements filesystem,
          (∀ ancestor ∈ properAncestors requirement.path,
            AncestorTrusted filesystem requirement.trustedRoot ancestor)
          ∧ ∀ facts, filesystem.pathFacts requirement.path = .ok facts →
            PathMet filesystem requirement facts)
        ∧ ∀ configPath ownerUid, call = .configTree configPath ownerUid →
          ∃ configDirectory, parent configPath = some configDirectory
            ∧ ∀ entry, TreeReachable filesystem configDirectory entry →
              EntryJudged filesystem ownerUid entry) := by
  constructor
  · rw [runAll_iff]
    exact forall₂_congr fun call _ => (run_fresh_iff filesystem call).symm
  · intro hclean call hcall
    obtain ⟨hrequirements, hown⟩ := (runAll_iff filesystem calls).1 hclean call hcall
    refine ⟨fun requirement hmem => ?_, ?_⟩
    · obtain ⟨hancestors, hpath⟩ := hrequirements requirement hmem
      refine ⟨hancestors, fun facts hfacts => ?_⟩
      rcases (checkPath_eq_nil requirement).1 hpath with ⟨-, hmissing⟩ | ⟨facts', hfacts', hmet⟩
      · unfold isMissing at hmissing
        rw [hfacts] at hmissing
        cases hmissing
      · rw [hfacts] at hfacts'
        cases hfacts'
        exact hmet
    · rintro configPath ownerUid rfl
      simp only [Call.ownFailures] at hown
      cases hparent : parent configPath with
      | none =>
        rw [hparent] at hown
        cases hown
      | some configDirectory =>
        rw [hparent] at hown
        exact ⟨configDirectory, rfl, walkTree_judges hown configDirectory List.mem_cons_self⟩

end PathSafety

end LgBuddy
