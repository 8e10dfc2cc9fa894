import LgBuddy.Text.Path

/-!
# LgBuddy — what the preflight sees of the host

`upgrade_preflight/observation.rs`: the facts about the file system that the judgments consume.

* `HostPath` — a path by its components: paths that differ in their text only are the same to the
  host and to every comparison;
* `PathFacts`, `FilesystemFacts` — what is known of a path, and what may be asked.
-/

namespace LgBuddy

/-- A path, up to the spelling of its text. -/
abbrev HostPath := List UnixPath.Component

/-- One instance for all the functions that look for a path in a list. -/
instance : LawfulBEq HostPath := inferInstance

inductive PathKind where
  | file
  | directory
  | symlink
  | other
  deriving DecidableEq, Repr

/-- `{:?}`. -/
def PathKind.debug : PathKind → String
  | file => "File"
  | directory => "Directory"
  | symlink => "Symlink"
  | other => "Other"

structure PathFacts where
  kind : PathKind
  ownerUid : UInt32
  mode : UInt32
  linkCount : Nat
  readOnlyFilesystem : Bool
  mountPoint : Bool
  deriving DecidableEq, Repr

/-- `io::Error`: whether its kind is `NotFound`, and its text. -/
structure HostError where
  notFound : Bool
  message : String
  deriving DecidableEq, Repr

/-- The entries of a directory come with the text of their paths. -/
structure FilesystemFacts where
  pathFacts : HostPath → Except HostError PathFacts
  readToString : HostPath → Except HostError Text
  readDirectory : HostPath → Except HostError (List Text)
  mountPoints : Except HostError (List HostPath)

/-- `read_directory`, where the texts do not matter. -/
def FilesystemFacts.entries (filesystem : FilesystemFacts) (directory : HostPath) :
    Except HostError (List HostPath) :=
  (filesystem.readDirectory directory).map (·.map UnixPath.components)

end LgBuddy
