import LgBuddy.Preflight.Observation
import LgBuddy.Preflight.PackageOwnership

/-!
# LgBuddy — the mutation guard of the installer

`upgrade_preflight/installer.rs`: whether the paths that an installer is about to create, to replace
and to remove may be touched.

* `FilesystemTree` — a file system without cycles of directories, as trees are;
* `Guard` and its `owner`, `parents`, `destination`, `removeTree`, `copyTree` follow the source;
* `Guard.runPlan`, `check` — a plan of operations, as the installer spells it.
-/

namespace LgBuddy

namespace Installer

open UnixPath

/-- A finite tree: a directory that a directory lists is of smaller rank. -/
structure FilesystemTree extends FilesystemFacts where
  rank : HostPath → Nat
  rank_lt : ∀ directory entries entry facts, readDirectory directory = .ok entries →
    entry ∈ entries → pathFacts (components entry) = .ok facts → facts.kind = .directory →
      rank (components entry) < rank directory

/-- How deep the tree at a path is. -/
def FilesystemTree.depth (tree : FilesystemTree) (path : HostPath) : Nat :=
  match tree.pathFacts path with
  | .ok facts => if facts.kind = .directory then tree.rank path + 1 else 0
  | .error _ => 0

def refused (path : Text) (reason : String) : String :=
  s!"installer preflight refused: {String.ofList path}: {reason}"

def absolute (path : Text) : Except String Unit :=
  if !isAbsolute path
      || (components path).any (fun part => part = .parentDir || part = .curDir)
      || collect (components path) ≠ path then
    .error (refused path "expected a canonical absolute path")
  else .ok ()

/-- The paths whose owners were checked. -/
structure Guard where
  ownersChecked : List HostPath := []

namespace Guard

variable (tree : FilesystemTree) (packages : PackageDatabase) (root : Text)

def owner (path : Text) (guard : Guard) : Except String Guard :=
  if components path ∈ guard.ownersChecked then .ok guard
  else
    match packages.ownerOf path with
    | .error err => .error (refused path err.display)
    | .ok .unowned => .ok { ownersChecked := components path :: guard.ownersChecked }
    | .ok (.owned owner) => .error (refused path
        s!"owned by {owner.family.asStr} package {String.ofList owner.name}; use the system package manager")
    | .ok (.conflicting owners) =>
      let names := ", ".intercalate
        (owners.map fun owner => s!"{owner.family.asStr}:{String.ofList owner.name}")
      .error (refused path s!"conflicting package ownership: {names}")

/-- The loop over the ancestors. Missing parents will be created by mkdir -p, so those are
destinations too; `nearest` tells whether no parent has existed so far. -/
def ancestors (nearest : Bool) : List Text → Guard → Except String Guard
  | [], guard => .ok guard
  | parent :: parents, guard =>
    match tree.pathFacts (components parent) with
    | .ok facts =>
      if facts.kind ≠ .directory then
        .error (refused parent "destination ancestor is not a directory or is a symlink")
      else if nearest && facts.readOnlyFilesystem then
        .error (refused parent "destination filesystem is mounted read-only")
      else ancestors false parents guard
    | .error err =>
      if err.notFound then owner packages parent guard >>= ancestors nearest parents
      else .error (refused parent err.message)

def parents (path : Text) (guard : Guard) : Except String Guard := do
  absolute path
  if components path = components root || !startsWith (components path) (components root) then
    .error (refused path "destination must be below the installation root")
  else ancestors tree packages true ((properAncestors (components path)).map collect) guard

/-- `destination` behind the parents. -/
def target (path : Text) (directory removing : Bool) (guard : Guard) : Except String Guard :=
  match tree.pathFacts (components path) with
  | .ok facts =>
    if (directory && facts.kind ≠ .directory)
        || (!removing && facts.kind ≠ if directory then .directory else .file) then
      .error (refused path "destination has an unexpected type or is a symlink")
    else if facts.readOnlyFilesystem then
      .error (refused path "destination filesystem is mounted read-only")
    else if facts.mountPoint && (!directory || removing) then
      .error (refused path "refusing to replace or remove a mount point")
    else if directory && !removing then .ok guard
    else owner packages path guard
  | .error err =>
    if err.notFound then owner packages path guard else .error (refused path err.message)

def destination (path : Text) (directory removing : Bool) (guard : Guard) : Except String Guard :=
  parents tree packages root path guard >>= target tree packages path directory removing

/-- rm -rf unlinks symlinks; it does not follow them. -/
def removeTree (path : Text) (guard : Guard) : Except String Guard := do
  let guard ← destination tree packages root path false true guard
  match _hfacts : tree.pathFacts (components path) with
  | .ok facts =>
    if _hdirectory : facts.kind = .directory then
      match _hlisted : tree.readDirectory (components path) with
      | .error err => .error (refused path err.message)
      | .ok entries => entries.attach.foldlM (fun guard entry => removeTree entry.1 guard) guard
    else .ok guard
  | .error err => if err.notFound then .ok guard else .error (refused path err.message)
termination_by tree.depth (components path)
decreasing_by
  have hpath : tree.depth (components path) = tree.rank (components path) + 1 := by
    unfold FilesystemTree.depth
    rw [_hfacts]
    exact if_pos _hdirectory
  rw [hpath]
  cases hentry : tree.pathFacts (components entry.1) with
  | error err =>
    unfold FilesystemTree.depth
    rw [hentry]
    exact Nat.succ_pos _
  | ok below =>
    unfold FilesystemTree.depth
    rw [hentry]
    dsimp only
    split
    · rename_i hkind
      have hlt := tree.rank_lt _ _ _ _ _hlisted entry.2 hentry hkind
      omega
    · exact Nat.succ_pos _

/-- The entries of a payload: a copied directory, or a file. -/
def copyTree (source target : Text) (guard : Guard) : Except String Guard := do
  let guard ← destination tree packages root target true false guard
  match _hlisted : tree.readDirectory (components source) with
  | .error err => .error (refused source err.message)
  | .ok entries => entries.attach.foldlM (fun guard entry =>
      match fileName (components entry.1) with
      | none => .error (refused entry.1 "missing filename")
      | some name =>
        match _hfacts : tree.pathFacts (components entry.1) with
        | .error err => .error (refused entry.1 err.message)
        | .ok facts =>
          if _hdirectory : facts.kind = .directory then copyTree entry.1 (push target name) guard
          else if facts.kind = .file then
            destination tree packages root (push target name) false false guard
          else .error (refused entry.1 "payload tree contains a symlink or special file")) guard
termination_by tree.rank (components source)
decreasing_by exact tree.rank_lt _ _ _ _ _hlisted entry.2 _hfacts _hdirectory

end Guard

/-! ## Plans -/

/-- What a plan may ask for. -/
inductive Operation where
  | file (path : Text)
  | mkdir (path : Text)
  | rmdir (path : Text)
  | directory (path : Text)
  | link (path : Text)
  | remove (path : Text)
  | tree (path : Text)
  | copyTree (source destination : Text)
  deriving DecidableEq, Repr

namespace Guard

variable (tree : FilesystemTree) (packages : PackageDatabase) (root : Text)

/-- The kind of what is there, if it could be looked at, passes a test. -/
def isKind (path : Text) (test : PathKind → Bool) : Bool :=
  match tree.pathFacts (components path) with
  | .ok facts => test facts.kind
  | .error _ => false

def apply (guard : Guard) : Operation → Except String Guard
  | .file path => destination tree packages root path false false guard
  | .mkdir path => destination tree packages root path true false guard
  | .rmdir path | .directory path => destination tree packages root path true true guard
  | .link path => do
    let guard ← destination tree packages root path false true guard
    if isKind tree path (· ≠ .symlink) then
      .error (refused path "expected a systemd enable symlink")
    else .ok guard
  | .remove path => do
    let guard ← destination tree packages root path false true guard
    if isKind tree path (· = .directory) then .error (refused path "expected a file to remove")
    else .ok guard
  | .tree path => removeTree tree packages root path guard
  | .copyTree source target => copyTree tree packages root source target guard

/-- The operation of a word with one path. -/
def singleOperation (operation path : Text) : Option Operation :=
  if operation = "file".toList then some (.file path)
  else if operation = "mkdir".toList then some (.mkdir path)
  else if operation = "rmdir".toList then some (.rmdir path)
  else if operation = "directory".toList then some (.directory path)
  else if operation = "link".toList then some (.link path)
  else if operation = "remove".toList then some (.remove path)
  else if operation = "tree".toList then some (.tree path)
  else none

/-- The loop over the operations, which are read one after the other. -/
def runPlan : List Text → Guard → Except String Guard
  | [], guard => .ok guard
  | [_], _ => .error "incomplete installer mutation plan"
  | [operation, path], guard =>
    if operation = "copy-tree".toList then .error "missing copy-tree destination"
    else
      match singleOperation operation path with
      | some operation => guard.apply tree packages root operation
      | none => .error "unknown installer mutation operation"
  | operation :: path :: next :: rest, guard =>
    if operation = "copy-tree".toList then
      guard.apply tree packages root (.copyTree path next) >>= runPlan rest
    else
      match singleOperation operation path with
      | some operation => guard.apply tree packages root operation >>= runPlan (next :: rest)
      | none => .error "unknown installer mutation operation"

end Guard

def mutableHost (tree : FilesystemTree) (root : Text) : Except String Unit := do
  absolute root
  ["etc/NIXOS", "run/ostree-booted"].forM fun marker =>
    let marker := push root marker.toList
    match tree.pathFacts (components marker) with
    | .ok _ => .error (refused marker
        "immutable/declarative host; manage LG Buddy through the host configuration")
    | .error err => if err.notFound then .ok () else .error (refused marker err.message)

def check (tree : FilesystemTree) (packages : PackageDatabase) (arguments : List Text) :
    Except String Unit :=
  match arguments with
  | [] => .error "installer preflight requires an installation root and mutation plan"
  | root :: operations => do
    mutableHost tree root
    if operations = [] then .error "installer preflight requires a nonempty mutation plan"
    else do
      let _ ← Guard.runPlan tree packages root operations {}
      return ()

end Installer

end LgBuddy
