import LgBuddy.Preflight.Observation
import LgBuddy.Text.Str

/-!
# LgBuddy — path safety

`upgrade_preflight/path_safety.rs`: whether paths of the host are safe for an upgrade to read, to
replace and to clear.

* the functions follow the source. One that reads nothing of the checker is the list of the failures
  that it records; the others take the checker, with the ancestors that were checked before;
* `checkConfigTree` walks the directory of the configuration, with a bound on its entries;
* `Requirement`, `Call` — what a coordinator asks of one checker, and `Checker.run`.
-/

namespace LgBuddy

namespace PathSafety

open UnixPath (properAncestors startsWith)

def MAX_CONFIG_TREE_ENTRIES : Nat := 256

structure CompatibilityFailure where
  check : String
  path : Option HostPath
  detail : String
  remedy : String
  deriving DecidableEq, Repr

inductive InstallerPathPolicy where
  | replaceFile
  | replaceExecutable
  | mutateDirectory
  | recursiveClear
  | exactDropInDirectory (expectedEntry : Text)
  | readableInput
  | systemReadableInput
  | executableInput
  | inputDirectory
  deriving DecidableEq, Repr

namespace InstallerPathPolicy

def expectsFile : InstallerPathPolicy → Bool
  | replaceFile | replaceExecutable | readableInput | systemReadableInput | executableInput => true
  | _ => false

def expectsDirectory : InstallerPathPolicy → Bool
  | mutateDirectory | recursiveClear | exactDropInDirectory _ | inputDirectory => true
  | _ => false

end InstallerPathPolicy

structure TrustedRoot where
  path : HostPath
  ownerUid : UInt32
  rejectOtherWrites : Bool
  protectExternalAncestors : Bool
  deriving DecidableEq, Repr

namespace TrustedRoot

def strict (path : HostPath) (ownerUid : UInt32) : TrustedRoot := ⟨path, ownerUid, true, false⟩

def candidate (path : HostPath) (ownerUid : UInt32) : TrustedRoot := ⟨path, ownerUid, true, true⟩

def owned (path : HostPath) (ownerUid : UInt32) : TrustedRoot := ⟨path, ownerUid, false, false⟩

end TrustedRoot

inductive AncestorPolicy where
  | trusted (ownerUid : UInt32) (rejectOtherWrites : Bool)
  | candidateExternal (userOwnerUid : UInt32)
  deriving DecidableEq, Repr

/-! ## Checks of one path -/

def checkOwner (path : HostPath) (facts : PathFacts) (expectedUid : UInt32) (check : String) :
    List CompatibilityFailure :=
  if facts.ownerUid ≠ expectedUid then
    [⟨check, some path, s!"path is owned by uid {facts.ownerUid}, expected uid {expectedUid}",
      "restore the expected ownership before upgrading"⟩]
  else []

def checkNotWritableByOthers (path : HostPath) (facts : PathFacts) : List CompatibilityFailure :=
  if facts.mode &&& 0o022 ≠ 0 then
    [⟨"path-containment", some path, "trusted path is writable by its group or by other users",
      "remove group and other write permission from the trusted path"⟩]
  else []

def checkPermissions (path : HostPath) (facts : PathFacts) (required : UInt32)
    (check detail : String) : List CompatibilityFailure :=
  if facts.mode &&& required ≠ required then
    [⟨check, some path, detail, "restore the path permissions from a current release bundle"⟩]
  else []

def checkReplaceFile (path : HostPath) (facts : PathFacts) (check : String) :
    List CompatibilityFailure :=
  (if facts.readOnlyFilesystem then
    [⟨check, some path, "file is on a read-only filesystem",
      "use the host's native package manager or make this installation file mutable"⟩] else [])
  ++ (if facts.linkCount ≠ 1 then
    [⟨check, some path, s!"file has {facts.linkCount} hard links, expected exactly one",
      "replace the path with an independent regular file before upgrading"⟩] else [])
  ++ (if facts.mountPoint then
    [⟨check, some path, "file is a mount point",
      "replace the mounted path with an ordinary installation file before upgrading"⟩] else [])
  ++ checkPermissions path facts 0o200 check "file is not writable by its owner"

/-- Root may write without the permission to. -/
def requiredPermissions (facts : PathFacts) (ownerUid required : UInt32) : UInt32 :=
  if ownerUid = 0 ∧ facts.ownerUid = 0 then required &&& ~~~0o200 else required

def permissionsDetail (required : UInt32) : String :=
  if required = 0o100 then "directory is not searchable by its owner"
  else if required = 0o500 then "directory is not readable and searchable by its owner"
  else if required = 0o700 then "directory is not readable, writable, and searchable by its owner"
  else "directory is not writable and searchable by its owner"

def checkMutableDirectory (path : HostPath) (facts : PathFacts) (ownerUid : UInt32) (check : String)
    (required : UInt32) : List CompatibilityFailure :=
  (if facts.readOnlyFilesystem then
    [⟨check, some path, "directory is on a read-only filesystem",
      "use the host's native package manager or make the installed release-bundle paths mutable"⟩]
    else [])
  ++ (if facts.mountPoint then
    [⟨check, some path, "directory is a mount point",
      "replace the mounted path with an ordinary installation directory before upgrading"⟩] else [])
  ++ checkPermissions path facts (requiredPermissions facts ownerUid required) check
    (permissionsDetail (requiredPermissions facts ownerUid required))

def checkRecursiveClearMounts (filesystem : FilesystemFacts) (path : HostPath) (check : String) :
    List CompatibilityFailure :=
  match filesystem.mountPoints with
  | .ok mountPoints =>
    (mountPoints.filter fun mountPoint => mountPoint ≠ path && startsWith mountPoint path).map
      fun mountPoint =>
        ⟨check, some mountPoint, "recursively cleared directory contains a nested mount point",
          "unmount nested filesystems from the managed virtualenv before upgrading"⟩
  | .error err =>
    [⟨check, some path, s!"could not inspect nested mount points: {err.message}",
      "make mount information available before upgrading"⟩]

/-- `Path::join`, by components: a dot counts at the start only. -/
def join (path : HostPath) (entry : Text) : HostPath :=
  if UnixPath.isAbsolute entry then UnixPath.components entry
  else path ++ (UnixPath.components entry).filter fun c => c ≠ .curDir ∨ path = []

def checkExactDirectory (filesystem : FilesystemFacts) (path : HostPath) (expectedEntry : Text)
    (check : String) : List CompatibilityFailure :=
  let expectedPath := join path expectedEntry
  match filesystem.entries path with
  | .ok entries =>
    (if expectedPath ∉ entries then
      [⟨check, some expectedPath, "required drop-in entry is missing",
        "restore the exact drop-in directory from a current release bundle"⟩] else [])
    ++ (entries.filter (· ≠ expectedPath)).map fun entry =>
      ⟨check, some entry, "drop-in directory contains an unexpected entry",
        "remove unexpected drop-ins before upgrading"⟩
  | .error err =>
    [⟨check, some path, s!"could not inspect drop-in directory: {err.message}",
      "make the drop-in directory readable before upgrading"⟩]

def couldNotInspect (err : HostError) : String :=
  if err.notFound then "required path is missing"
  else s!"could not inspect required path: {err.message}"

def checkPolicy (filesystem : FilesystemFacts) (path : HostPath) (facts : PathFacts)
    (ownerUid : UInt32) (check : String) : InstallerPathPolicy → List CompatibilityFailure
  | .replaceFile => checkReplaceFile path facts check
  | .replaceExecutable =>
    checkReplaceFile path facts check
      ++ checkPermissions path facts 0o111 check "installed executable has no execute permission"
  | .mutateDirectory => checkMutableDirectory path facts ownerUid check 0o300
  | .recursiveClear =>
    checkMutableDirectory path facts ownerUid check 0o300
      ++ checkRecursiveClearMounts filesystem path check
  | .exactDropInDirectory expectedEntry =>
    checkMutableDirectory path facts ownerUid check 0o700
      ++ checkExactDirectory filesystem path expectedEntry check
  | .readableInput =>
    checkPermissions path facts 0o400 check "input is not readable by its owner"
  | .systemReadableInput =>
    checkPermissions path facts 0o404 check
      "system input is not readable by its owner and the invoking user"
  | .executableInput =>
    checkPermissions path facts 0o500 check "input is not readable and executable by its owner"
  | .inputDirectory =>
    checkPermissions path facts 0o500 check
      "input directory is not readable and searchable by its owner"

/-- What `check_requirement` is called with. -/
structure Requirement where
  path : HostPath
  ownerUid : UInt32
  trustedRoot : Option TrustedRoot
  policy : InstallerPathPolicy
  check : String
  deriving DecidableEq, Repr

def Requirement.isStrict (requirement : Requirement) : Bool :=
  requirement.trustedRoot.any (·.rejectOtherWrites)

/-- `check_requirement` behind the ancestors. -/
def checkPath (filesystem : FilesystemFacts) (requirement : Requirement) :
    List CompatibilityFailure :=
  let path := requirement.path
  let check := requirement.check
  match filesystem.pathFacts path with
  | .error err =>
    if requirement.policy = .recursiveClear ∧ err.notFound then []
    else [⟨check, some path, couldNotInspect err,
      "restore this path from a current release-bundle installation"⟩]
  | .ok facts =>
    if requirement.policy.expectsFile ∧ facts.kind ≠ .file then
      [⟨check, some path, s!"expected a regular file, found {facts.kind.debug}",
        "restore this path from a current release-bundle installation"⟩]
    else if requirement.policy.expectsDirectory ∧ facts.kind ≠ .directory then
      [⟨check, some path, s!"expected a directory, found {facts.kind.debug}",
        "restore this directory as part of a current release-bundle installation"⟩]
    else
      checkOwner path facts requirement.ownerUid check
        ++ (if requirement.isStrict then checkNotWritableByOthers path facts else [])
        ++ checkPolicy filesystem path facts requirement.ownerUid check requirement.policy

/-! ## Ancestors -/

def checkCandidateExternalAncestor (path : HostPath) (facts : PathFacts) (userOwnerUid : UInt32) :
    List CompatibilityFailure :=
  if facts.ownerUid ≠ 0 ∧ facts.ownerUid ≠ userOwnerUid then
    [⟨"path-containment", some path,
      s!"candidate path ancestor is owned by uid {facts.ownerUid}, expected root or uid {userOwnerUid}",
      "move the verified bundle below a root- or user-owned directory"⟩]
  else if facts.mode &&& 0o022 ≠ 0 ∧ facts.mode &&& 0o1000 = 0 then
    [⟨"path-containment", some path,
      "candidate path ancestor is writable by its group or by other users without sticky-directory protection",
      "move the verified bundle into a private directory or below a sticky shared directory such as /tmp"⟩]
  else []

def ancestorPolicy (trustedRoot : Option TrustedRoot) (ancestor : HostPath) :
    Option AncestorPolicy :=
  trustedRoot.bind fun root =>
    if startsWith ancestor root.path then some (.trusted root.ownerUid root.rejectOtherWrites)
    else if root.protectExternalAncestors then some (.candidateExternal root.ownerUid)
    else none

/-- The body of the loop, for an ancestor that was not checked under the policy before. -/
def checkAncestor (filesystem : FilesystemFacts) (ancestor : HostPath)
    (policy : Option AncestorPolicy) : List CompatibilityFailure :=
  match filesystem.pathFacts ancestor with
  | .ok facts =>
    if facts.kind = .directory then
      match policy with
      | some (.trusted ownerUid rejectOtherWrites) =>
        checkOwner ancestor facts ownerUid "path-containment"
          ++ (if rejectOtherWrites then checkNotWritableByOthers ancestor facts else [])
      | some (.candidateExternal userOwnerUid) =>
        checkCandidateExternalAncestor ancestor facts userOwnerUid
      | none => []
    else
      [⟨"path-containment", some ancestor,
        s!"path ancestor is {facts.kind.debug}, not a real directory",
        "replace symlinked or special ancestors with ordinary directories"⟩]
  | .error err =>
    [⟨"path-containment", some ancestor, s!"could not inspect path ancestor: {err.message}",
      "restore the complete installation path"⟩]

/-! ## The checker -/

structure Checker where
  failures : List CompatibilityFailure := []
  checkedAncestors : List (HostPath × Option AncestorPolicy) := []

namespace Checker

variable (filesystem : FilesystemFacts)

def record (checker : Checker) (found : List CompatibilityFailure) : Checker :=
  { checker with failures := checker.failures ++ found }

/-- Some failure names the path. -/
def hasFailed (checker : Checker) (path : HostPath) : Bool :=
  checker.failures.any fun failure => failure.path = some path

def visitAncestor (trustedRoot : Option TrustedRoot) (checker : Checker) (ancestor : HostPath) :
    Checker :=
  let key := (ancestor, ancestorPolicy trustedRoot ancestor)
  if key ∈ checker.checkedAncestors then checker
  else
    { checker with checkedAncestors := key :: checker.checkedAncestors }.record
      (checkAncestor filesystem ancestor key.2)

def checkAncestors (checker : Checker) (path : HostPath) (trustedRoot : Option TrustedRoot) :
    Checker :=
  (properAncestors path).foldl (visitAncestor filesystem trustedRoot) checker

def checkRequirement (checker : Checker) (requirement : Requirement) : Checker :=
  (checker.checkAncestors filesystem requirement.path requirement.trustedRoot).record
    (checkPath filesystem requirement)

end Checker

/-- Nothing is there. -/
def isMissing (filesystem : FilesystemFacts) (path : HostPath) : Bool :=
  match filesystem.pathFacts path with
  | .error err => err.notFound
  | .ok _ => false

namespace Checker

variable (filesystem : FilesystemFacts)

def checkOptionalRequirement (checker : Checker) (requirement : Requirement) : Checker :=
  if isMissing filesystem requirement.path then checker
  else checker.checkRequirement filesystem requirement

/-- install -d can create missing ancestors: the nearest existing one is checked. -/
def checkInstallDestination (checker : Checker) (requirement : Requirement) : Checker :=
  if isMissing filesystem requirement.path then
    match (properAncestors requirement.path).find? fun ancestor => !isMissing filesystem ancestor with
    | some ancestor => checker.checkRequirement filesystem
      { requirement with path := ancestor, policy := .mutateDirectory }
    | none => checker
  else checker.checkRequirement filesystem requirement

def checkReplaceFileAlternatives (checker : Checker) (paths : List HostPath) (ownerUid : UInt32)
    (trustedRoot : Option TrustedRoot) (check : String) : Checker :=
  let found := paths.filter fun path => !isMissing filesystem path
  let checker := found.foldl (fun checker path =>
    checker.checkRequirement filesystem ⟨path, ownerUid, trustedRoot, .replaceFile, check⟩) checker
  if found.isEmpty then
    checker.record [⟨check, paths.head?, "no supported LG Buddy desktop entry is installed",
      "restore the desktop entry from a current release-bundle installation"⟩]
  else checker

end Checker

/-- The lines of a drop-in that set the variable, comments apart. -/
def integrationDirectives (contents : Text) : List Text :=
  ((Str.lines contents).map Str.trim).filter fun line =>
    (line.head? ≠ some '#' && line.head? ≠ some ';') && Str.contains line "LG_BUDDY_CONFIG".toList

def integrationFailures (filesystem : FilesystemFacts) (path : HostPath) (expected : Text) :
    List CompatibilityFailure :=
  match filesystem.readToString path with
  | .ok contents =>
    if integrationDirectives contents ≠ [expected] then
      [⟨"integration-config", some path,
        s!"integration does not reference exactly {String.ofList expected}",
        "restore the sole integration override for the discovered config path"⟩]
    else []
  | .error err =>
    [⟨"integration-config", some path, s!"could not read the integration override: {err.message}",
      "restore a readable integration override"⟩]

def absentFailures (filesystem : FilesystemFacts) (path : HostPath) : List CompatibilityFailure :=
  match filesystem.pathFacts path with
  | .error err =>
    if err.notFound then []
    else [⟨"legacy-layout", some path,
      s!"could not determine whether a legacy path exists: {err.message}",
      "inspect and remove the legacy integration before upgrading"⟩]
  | .ok _ =>
    [⟨"legacy-layout", some path, "legacy installation state is present",
      "reinstall the current release bundle cleanly; the updater does not migrate legacy layouts"⟩]

/-! ## The tree of the configuration -/

/-- One entry: what it records, and whether it is a directory to walk. -/
def treeEntry (filesystem : FilesystemFacts) (ownerUid : UInt32) (entry : HostPath) :
    List CompatibilityFailure × Bool :=
  match filesystem.pathFacts entry with
  | .error err =>
    ([⟨"config-state", some entry, couldNotInspect err,
      "restore this path from a current release-bundle installation"⟩], false)
  | .ok facts =>
    let owner := checkOwner entry facts ownerUid "config-state"
    match facts.kind with
    | .directory =>
      (owner ++ checkPermissions entry facts 0o500 "config-state"
        "config directory is not readable and searchable by its owner", true)
    | .file =>
      (owner ++ checkPermissions entry facts 0o400 "config-state"
        "config file is not readable by its owner", false)
    | .symlink | .other =>
      (owner ++ [⟨"config-state", some entry,
        s!"config tree contains an unsafe {facts.kind.debug} entry",
        "replace the entry with a user-owned regular file or directory"⟩], false)

section Tree

variable (filesystem : FilesystemFacts) (configDirectory : HostPath) (ownerUid : UInt32)

/-- The entries of one directory. The walk goes on with the number of the entries seen and with the
directories that are pending, the last one first, unless there are too many entries. -/
def treeEntries : List HostPath → Nat → List HostPath →
    List CompatibilityFailure × Option (Nat × List HostPath)
  | [], seen, pending => ([], some (seen, pending))
  | entry :: entries, seen, pending =>
    if MAX_CONFIG_TREE_ENTRIES < seen + 1 then
      ([⟨"config-state", some configDirectory,
        s!"config tree exceeds {MAX_CONFIG_TREE_ENTRIES} entries",
        "remove unrelated files from the LG Buddy config directory"⟩], none)
    else
      let judged := treeEntry filesystem ownerUid entry
      let rest := treeEntries entries (seen + 1) (if judged.2 then entry :: pending else pending)
      (judged.1 ++ rest.1, rest.2)

/-- Every pending directory was counted as an entry. -/
theorem treeEntries_grows {entries : List HostPath} {seen seen' : Nat}
    {pending pending' : List HostPath}
    (h : (treeEntries filesystem configDirectory ownerUid entries seen pending).2
      = some (seen', pending')) :
    seen' = seen + entries.length ∧ pending'.length ≤ pending.length + entries.length
      ∧ (entries = [] ∨ seen' ≤ MAX_CONFIG_TREE_ENTRIES) := by
  induction entries generalizing seen pending with
  | nil =>
    cases h
    exact ⟨rfl, Nat.le_refl _, .inl rfl⟩
  | cons entry entries ih =>
    unfold treeEntries at h
    split at h
    · cases h
    · rename_i hfew
      obtain ⟨hseen, hpending, hbound⟩ := ih h
      refine ⟨by rw [hseen, List.length_cons]; omega, ?_, .inr ?_⟩
      · split at hpending
        · rw [List.length_cons] at hpending ⊢
          omega
        · rw [List.length_cons]
          omega
      · rcases hbound with rfl | hbound
        · rw [hseen, List.length_nil]
          omega
        · exact hbound

/-- The loop over the pending directories. -/
def walkTree (seen : Nat) (pending : List HostPath) : List CompatibilityFailure :=
  match pending with
  | [] => []
  | directory :: pending =>
    match filesystem.entries directory with
    | .error err =>
      [⟨"config-state", some directory, s!"could not inspect the config directory: {err.message}",
        "make the LG Buddy config directory readable by the installed user"⟩]
    | .ok entries =>
      let walked := treeEntries filesystem configDirectory ownerUid entries seen pending
      match _hnext : walked.2 with
      | none => walked.1
      | some (seen', pending') => walked.1 ++ walkTree seen' pending'
termination_by MAX_CONFIG_TREE_ENTRIES - seen + pending.length
decreasing_by
  obtain ⟨hseen, hpending, hbound⟩ := treeEntries_grows _ _ _ _hnext
  rw [List.length_cons]
  rcases hbound with hnil | hbound
  · rw [hnil, List.length_nil] at hseen hpending
    omega
  · omega

end Tree

namespace Checker

variable (filesystem : FilesystemFacts)

def checkIntegrationOverride (checker : Checker) (path : HostPath) (expected : Text) : Checker :=
  if checker.hasFailed path then checker
  else checker.record (integrationFailures filesystem path expected)

def checkAbsent (checker : Checker) (path : HostPath) : Checker :=
  checker.record (absentFailures filesystem path)

end Checker

/-- The two requirements of `check_config_tree`. -/
def configRequirements (configPath configDirectory : HostPath) (ownerUid : UInt32) :
    List Requirement :=
  let configTrust := TrustedRoot.owned configDirectory ownerUid
  [⟨configDirectory, ownerUid, some configTrust, .inputDirectory, "config-state"⟩,
    ⟨configPath, ownerUid, some configTrust, .readableInput, "config-state"⟩]

/-- `Path::parent`. -/
def parent (path : HostPath) : Option HostPath := (properAncestors path).head?

def checkConfigTree (filesystem : FilesystemFacts) (checker : Checker) (configPath : HostPath)
    (ownerUid : UInt32) : Checker :=
  match parent configPath with
  | none =>
    checker.record [⟨"config-state", some configPath, "config path has no parent directory",
      "place config.env in a user-owned configuration directory"⟩]
  | some configDirectory =>
    let checker := (configRequirements configPath configDirectory ownerUid).foldl
      (Checker.checkRequirement filesystem) checker
    if checker.hasFailed configDirectory then checker
    else checker.record (walkTree filesystem configDirectory ownerUid 0 [configDirectory])

/-! ## Calls -/

inductive Call where
  | requirement (requirement : Requirement)
  | optionalRequirement (requirement : Requirement)
  | installDestination (requirement : Requirement)
  | replaceFileAlternatives (paths : List HostPath) (ownerUid : UInt32)
      (trustedRoot : Option TrustedRoot) (check : String)
  | integrationOverride (path : HostPath) (expected : Text)
  | absent (path : HostPath)
  | configTree (configPath : HostPath) (ownerUid : UInt32)
  deriving DecidableEq, Repr

def Checker.run (filesystem : FilesystemFacts) (checker : Checker) : Call → Checker
  | .requirement requirement => checker.checkRequirement filesystem requirement
  | .optionalRequirement requirement => checker.checkOptionalRequirement filesystem requirement
  | .installDestination requirement => checker.checkInstallDestination filesystem requirement
  | .replaceFileAlternatives paths ownerUid trustedRoot check =>
    checker.checkReplaceFileAlternatives filesystem paths ownerUid trustedRoot check
  | .integrationOverride path expected => checker.checkIntegrationOverride filesystem path expected
  | .absent path => checker.checkAbsent filesystem path
  | .configTree configPath ownerUid => checkConfigTree filesystem checker configPath ownerUid

/-- The checker after a sequence of calls. -/
def Checker.runAll (filesystem : FilesystemFacts) (calls : List Call) : Checker :=
  calls.foldl (Checker.run filesystem) {}

end PathSafety

end LgBuddy
