import LgBuddy.Machine.Fallible
import LgBuddy.Machine.Program
import LgBuddy.Release.Manifest
import LgBuddy.Text.Cut

/-!
# LgBuddy — the archive of a bundle

`inspect_archive` and `extract_archive` of `release_bundle.rs`. What `flate2` and `tar` read from
the file is given as a sequence of entries; the two passes may be given different ones.

* `TarEntry`, `ArchiveFile` — what is read;
* `normalizeArchivePath`, `validateArchiveLayout` — the checks of one path;
* `inspectArchive` — the first pass, which makes the plan;
* `extractArchive` — the second pass, a program that calls the file system.
-/

namespace LgBuddy

open Str

/-! ## What is read -/

inductive EntryType where
  | regular
  | link
  | symlink
  | char
  | block
  | directory
  | fifo
  | continuous
  | gnuLongName
  | gnuLongLink
  | gnuSparse
  | xGlobalHeader
  | xHeader
  | nonexhaustive (byte : UInt8)
  deriving DecidableEq, Repr

/-- `{:?}`. -/
def EntryType.debug : EntryType → String
  | .regular => "Regular"
  | .link => "Link"
  | .symlink => "Symlink"
  | .char => "Char"
  | .block => "Block"
  | .directory => "Directory"
  | .fifo => "Fifo"
  | .continuous => "Continuous"
  | .gnuLongName => "GNULongName"
  | .gnuLongLink => "GNULongLink"
  | .gnuSparse => "GNUSparse"
  | .xGlobalHeader => "XGlobalHeader"
  | .xHeader => "XHeader"
  | .nonexhaustive byte => s!"__Nonexhaustive({byte})"

/-- An entry of `tar`. A number of the header may not be one, and the contents may end early or
with an error. -/
structure TarEntry where
  pathBytes : List UInt8
  entryType : EntryType
  linkNameBytes : Option (List UInt8) := none
  mode : Except String Nat
  uid : Except String Nat := .ok 0
  gid : Except String Nat := .ok 0
  size : Nat
  contents : List UInt8 := []
  readError : Option String := none

/-- `read_to_end`, and `io::copy`: the error comes behind the contents. -/
def TarEntry.readToEnd (entry : TarEntry) : Except String (List UInt8) :=
  match entry.readError with
  | some error => .error error
  | none => .ok entry.contents

/-- The same for so many bytes. -/
def TarEntry.readUpTo (entry : TarEntry) (limit : Nat) : Except String (List UInt8) :=
  if limit ≤ entry.contents.length then .ok (entry.contents.take limit) else entry.readToEnd

/-- A staged file: its metadata, the raw entries, the entries, and what is read behind them. -/
structure ArchiveFile where
  isFile : Bool
  links : Nat
  length : Nat
  raw : List (Except String TarEntry)
  entries : List (Except String TarEntry)
  trailing : List (Except String (List UInt8))

def archiveError {α : Type} (source : String) : Except BundleAcquisitionError α :=
  .error (.archive source)

/-! ## One path -/

def normalizeArchivePath (bytes : List UInt8) (entryType : EntryType) :
    Except BundleAcquisitionError Text :=
  if bytes.length > maxArchivePathBytes then
    archiveError s!"archive path exceeds the {maxArchivePathBytes}-byte limit"
  else if 0 ∈ bytes then archiveError "archive path contains a NUL byte"
  else match fromUtf8 bytes with
    | none => archiveError "archive path is not valid UTF-8"
    | some text =>
      if text.getLast? = some '/' ∧ entryType ≠ .directory then
        archiveError
          s!"non-directory archive path `{String.ofList text}` has a trailing slash"
      else
        let path := (stripSuffix ['/'] text).getD text
        if path = [] ∨ path.head? = some '/' ∨ '\\' ∈ path
            ∨ ∃ part ∈ splitAll '/' path, part = [] ∨ part = ['.'] ∨ part = ['.', '.'] then
          archiveError
            s!"archive path `{String.ofList path}` is not a normalized relative path"
        else .ok path

def guiBundlePath : String := "docs/lg-buddy-gui-x86_64-unknown-linux-gnu"

def appIconBundlePath : String := "docs/io.github.staphylococcus.LGBuddy.svg"

def requiredRelativeFiles : List String :=
  ["lg-buddy", guiBundlePath, appIconBundlePath, "install.sh", "configure.sh", "uninstall.sh",
    "bin/LG_Buddy_Common", "LG_Buddy_Brightness.desktop", "README.md", "LICENSE", manifestName,
    "systemd/LG_Buddy.service", "systemd/LG_Buddy_lifecycle.service",
    "systemd/LG_Buddy_screen.service", "systemd/LG_Buddy_update_check.service",
    "systemd/LG_Buddy_update_check.timer", "systemd/lg_buddy.conf"]

/-- A path under a directory. -/
def below (directory relative : Text) : Text := directory ++ '/' :: relative

/-- The path relative to the root, without slashes in front. -/
def relativePath (path root : Text) : Text :=
  ((stripPrefix root path).getD path).dropWhile (· == '/')

def allowedFile (relative : Text) (entryType : EntryType) : Bool :=
  requiredRelativeFiles.any (fun file => file.toList == relative)
    || ("docs/".toList.isPrefixOf relative && entryType == .regular)

def allowedDirectory (relative : Text) (entryType : EntryType) : Bool :=
  entryType == .directory
    && (["bin", "docs", "systemd"].any (fun directory => directory.toList == relative)
      || "docs/".toList.isPrefixOf relative)

def validateArchiveLayout (path root : Text) (entryType : EntryType) :
    Except BundleAcquisitionError Unit :=
  if entryType ≠ .regular ∧ entryType ≠ .directory then
    archiveError s!"entry `{String.ofList path}` has unsupported type {entryType.debug}"
  else if path ≠ root ∧ ¬ below root [] <+: path then
    archiveError
      s!"entry `{String.ofList path}` is outside expected root `{String.ofList root}`"
  else
    let relative := relativePath path root
    if relative = [] then
      if entryType ≠ .directory then archiveError "bundle root must be a directory" else .ok ()
    else if allowedFile relative entryType = false ∧ allowedDirectory relative entryType = false then
      archiveError s!"entry `{String.ofList path}` is not part of the release-bundle layout"
    else if allowedFile relative entryType = true ∧ entryType ≠ .regular then
      archiveError s!"required file `{String.ofList path}` is not a regular file"
    else .ok ()

/-! ## Inspection -/

structure ArchiveEntryFact where
  entryType : EntryType
  size : Nat
  mode : Nat
  deriving DecidableEq, Repr

structure ArchivePlan where
  rootName : Text
  entries : List (Text × ArchiveEntryFact)

/-- What the first pass has seen so far. -/
structure Inspection where
  validated : List (Text × ArchiveEntryFact) := []
  expandedBytes : Nat := 0
  regularFiles : Nat := 0
  manifest : Option ReleaseManifest := none

def expectedRoot (semver : Semver) (expected : ReleaseIdentity) : Text :=
  s!"lg-buddy-{semver.display expected.version}-{releaseTarget}".toList

/-- The checks of an entry that need its header only: its path and what is kept of it. -/
def inspectHeader (root : Text) (seen : Inspection) (entry : TarEntry) :
    Except BundleAcquisitionError (Text × ArchiveEntryFact) := do
  let path ← normalizeArchivePath entry.pathBytes entry.entryType
  if path ∈ seen.validated.map Prod.fst then
    archiveError s!"archive contains duplicate path `{String.ofList path}`"
  else do
    validateArchiveLayout path root entry.entryType
    if entry.linkNameBytes.isSome then
      archiveError s!"entry `{String.ofList path}` contains link metadata"
    else do
      let mode ← entry.mode.mapError .archive
      if mode &&& 0o7022 ≠ 0 then
        archiveError
          s!"entry `{String.ofList path}` has unsafe mode {String.ofList (Nat.toDigits 8 mode)}"
      else if entry.entryType = .directory ∧ entry.size ≠ 0 then
        archiveError s!"directory `{String.ofList path}` has a nonzero payload"
      else if entry.entryType = .regular ∧ seen.regularFiles + 1 > maxArchiveFiles then
        archiveError s!"archive contains more than {maxArchiveFiles} regular files"
      else .ok (path, ⟨entry.entryType, entry.size, mode⟩)

/-- The sizes so far with one more. -/
def addExpanded (path : Text) (expandedBytes size : Nat) : Except BundleAcquisitionError Nat :=
  if size > maxArchiveFileBytes then
    archiveError
      s!"entry `{String.ofList path}` exceeds the {maxArchiveFileBytes}-byte file limit"
  else match Fallible.checkedAdd expandedBytes size with
    | none => archiveError "expanded archive size overflowed"
    | some total =>
      if total > maxArchiveExpandedBytes then
        archiveError s!"expanded archive exceeds the {maxArchiveExpandedBytes}-byte limit"
      else .ok total

/-- The contents of the manifest are parsed, those of other files only read. -/
def inspectContents (formats : ManifestFormats) (root path : Text) (entry : TarEntry)
    (manifest : Option ReleaseManifest) :
    Except BundleAcquisitionError (Option ReleaseManifest) :=
  if path = below root manifestName.toList then
    if entry.size > maxManifestBytes then
      .error (.manifest s!"manifest exceeds the {maxManifestBytes}-byte limit")
    else do
      let contents ← (entry.readUpTo (maxManifestBytes + 1)).mapError .archive
      if contents.length ≠ entry.size then
        archiveError s!"entry `{String.ofList path}` ended before its declared size"
      else some <$> parseManifestDocument formats contents
  else if entry.entryType = .regular then do
    let copied ← entry.readToEnd.mapError .archive
    if copied.length ≠ entry.size then
      archiveError
        s!"entry `{String.ofList path}` ended after {copied.length} bytes; header declares {entry.size}"
    else .ok manifest
  else .ok manifest

def inspectEntry (formats : ManifestFormats) (root : Text) (seen : Inspection)
    (entry : TarEntry) : Except BundleAcquisitionError Inspection := do
  let (path, fact) ← inspectHeader root seen entry
  let expandedBytes ← addExpanded path seen.expandedBytes entry.size
  let manifest ← inspectContents formats root path entry seen.manifest
  .ok {
    validated := seen.validated ++ [(path, fact)]
    expandedBytes
    regularFiles := seen.regularFiles + (if entry.entryType = .regular then 1 else 0)
    manifest }

def inspectEntries (formats : ManifestFormats) (root : Text) (index : Nat) (seen : Inspection) :
    List (Except String TarEntry) → Except BundleAcquisitionError Inspection
  | [] => .ok seen
  | entry :: rest =>
    if index ≥ maxArchiveEntries then
      archiveError s!"archive contains more than {maxArchiveEntries} entries"
    else match entry with
      | .error source => archiveError source
      | .ok entry => do
        let seen ← inspectEntry formats root seen entry
        inspectEntries formats root (index + 1) seen rest

def isArchiveMetadataEntry (entryType : EntryType) : Bool :=
  entryType == .gnuLongName || entryType == .gnuLongLink || entryType == .xHeader
    || entryType == .xGlobalHeader

def preflightEntry (payloadBytes : Nat) (entry : TarEntry) : Except BundleAcquisitionError Nat :=
  if isArchiveMetadataEntry entry.entryType ∧ entry.size > maxArchiveMetadataBytes then
    archiveError s!"archive metadata entry exceeds the {maxArchiveMetadataBytes}-byte limit"
  else if ¬ isArchiveMetadataEntry entry.entryType ∧ entry.size > maxArchiveFileBytes then
    archiveError s!"raw archive entry exceeds the {maxArchiveFileBytes}-byte file limit"
  else match Fallible.checkedAdd payloadBytes entry.size with
    | none => archiveError "raw archive payload size overflowed"
    | some total =>
      if total > maxArchiveExpandedBytes then
        archiveError s!"raw archive payload exceeds the {maxArchiveExpandedBytes}-byte limit"
      else do
        let copied ← entry.readToEnd.mapError .archive
        if copied.length ≠ entry.size then
          archiveError
            s!"raw archive entry ended after {copied.length} bytes; header declares {entry.size}"
        else .ok total

def preflightRawArchive (index payloadBytes : Nat) :
    List (Except String TarEntry) → Except BundleAcquisitionError Unit
  | [] => .ok ()
  | entry :: rest =>
    if index ≥ maxArchiveEntries then
      archiveError s!"archive contains more than {maxArchiveEntries} raw entries"
    else match entry with
      | .error source => archiveError source
      | .ok entry => do
        let total ← preflightEntry payloadBytes entry
        preflightRawArchive (index + 1) total rest

/-- What is read behind the end marker, one read after the other; an empty read is the end. -/
def rejectArchiveTrailingData (total : Nat) :
    List (Except String (List UInt8)) → Except BundleAcquisitionError Unit
  | [] => .ok ()
  | .error source :: _ => archiveError source
  | .ok buffer :: rest =>
    if buffer = [] then .ok ()
    else if total + buffer.length > maxArchiveTrailingBytes then
      archiveError s!"archive has more than {maxArchiveTrailingBytes} bytes after its end marker"
    else if buffer.any (· != 0) then
      archiveError "archive contains data after its end marker"
    else rejectArchiveTrailingData (total + buffer.length) rest

def requiredDirectories : List String := ["", "bin", "docs", "systemd"]

def requiredDirectory (root : Text) (relative : String) : Text :=
  if relative.isEmpty then root else below root relative.toList

def requirePaths (present : List Text) (message : Text → String) :
    List Text → Except BundleAcquisitionError Unit
  | [] => .ok ()
  | path :: rest =>
    if path ∈ present then requirePaths present message rest else archiveError (message path)

def validateRequiredLayout (present : List Text) (root : Text) :
    Except BundleAcquisitionError Unit := do
  requirePaths present
    (fun path => s!"archive is missing required file `{String.ofList path}`")
    (requiredRelativeFiles.map fun relative => below root relative.toList)
  requirePaths present
    (fun path => s!"archive is missing required directory `{String.ofList path}`")
    (requiredDirectories.map (requiredDirectory root))

/-- `{:?}` of an identity, which stands in a message only. -/
def ReleaseIdentity.debug (identity : ReleaseIdentity) : String := reprStr identity

def checkManifestOf (manifest : Option ReleaseManifest) (expected : ReleaseIdentity) :
    Except BundleAcquisitionError Unit :=
  match manifest with
  | none => .error (.manifest s!"archive does not contain `{manifestName}`")
  | some manifest =>
    if manifest.identity ≠ expected then
      .error (.manifest (s!"identity {manifest.identity.debug} does not match selected release "
        ++ s!"identity {expected.debug}"))
    else if manifest.guiTarget ≠ some guiTarget then
      .error (.manifest
        s!"GUI target {reprStr manifest.guiTarget} must be `{guiTarget}`")
    else .ok ()

def inspectArchive (formats : ManifestFormats) (archive : ArchiveFile) (archiveName : String)
    (expected : ReleaseIdentity) : Except BundleAcquisitionError ArchivePlan :=
  let root := expectedRoot formats.semver expected
  let expectedArchive := String.ofList root ++ ".tar.gz"
  if archiveName ≠ expectedArchive then
    archiveError s!"archive name `{archiveName}` must be `{expectedArchive}`"
  else if archive.isFile = false ∨ archive.links > 1 then
    archiveError "staged archive is not a singly linked regular file"
  else if archive.length > maxArchiveBytes then
    .error (.responseTooLarge s!"release archive `{archiveName}`" maxArchiveBytes)
  else do
    preflightRawArchive 0 0 archive.raw
    let seen ← inspectEntries formats root 0 {} archive.entries
    rejectArchiveTrailingData 0 archive.trailing
    validateRequiredLayout (seen.validated.map Prod.fst) root
    checkManifestOf seen.manifest expected
    .ok ⟨root, seen.validated⟩

/-! ## Extraction -/

/-- What extraction asks of the file system. -/
inductive ExtractCall where
  /-- `fs::create_dir_all`. -/
  | createDirAll (path : Text)
  | setPermissions (path : Text) (mode : Nat)
  /-- Opened with `create_new` and `O_NOFOLLOW`. -/
  | createNew (path : Text) (mode : Nat)
  /-- All that an entry gives is written to the file that was opened last. -/
  | write (path : Text) (contents : List UInt8)
  | flush (path : Text)
  deriving DecidableEq, Repr

/-- An error is given by its text. -/
abbrev ExtractProgram := Program ExtractCall fun _ => Except String Unit

/-- A call whose error ends the extraction. -/
def extractCall (call : ExtractCall) :
    ExceptT BundleAcquisitionError ExtractProgram Unit :=
  ExceptT.mk (Except.mapError .io <$> Program.perform call)

/-- `io::copy`, whose errors are of the archive. -/
def extractWrite (path : Text) (contents : List UInt8) :
    ExceptT BundleAcquisitionError ExtractProgram Unit :=
  ExceptT.mk (Except.mapError .archive <$> Program.perform (.write path contents))

/-- `Path::join` with a relative path; another one replaces the path. -/
def joinPath (directory path : Text) : Text :=
  if path.head? = some '/' then path
  else if directory = [] ∨ directory.getLast? = some '/' then directory ++ path
  else below directory path

/-- `Path::parent`, of a path without a slash at its end. -/
def parentPath (path : Text) : Option Text :=
  match rsplitOnce '/' path with
  | some (parent, _) => if parent = [] then some ['/'] else some parent
  | none => if path = [] then none else some []

def executableRelativeFiles : List String :=
  ["lg-buddy", guiBundlePath, "install.sh", "configure.sh", "uninstall.sh", "bin/LG_Buddy_Common"]

def extractedMode (rootName path : Text) : Nat :=
  let relative := (stripPrefix (below rootName []) path).getD path
  if executableRelativeFiles.any (fun file => file.toList == relative) then 0o700 else 0o600

def extractFile (plan : ArchivePlan) (path destination : Text) (entry : TarEntry) :
    ExceptT BundleAcquisitionError ExtractProgram Unit :=
  match parentPath destination with
  | none => throw (.archive s!"entry `{String.ofList path}` has no parent")
  | some parent => do
    extractCall (.createDirAll parent)
    extractCall (.setPermissions parent 0o700)
    extractCall (.createNew destination (extractedMode plan.rootName path))
    extractWrite destination entry.contents
    let copied ← ExceptT.mk (pure (entry.readToEnd.mapError .archive))
    if copied.length ≠ entry.size then
      throw (.archive (s!"entry `{String.ofList path}` extracted {copied.length} bytes; "
        ++ s!"header declares {entry.size}"))
    else extractCall (.flush destination)

/-- The entry as the plan has it. -/
def observedFact (plan : ArchivePlan) (seen : List Text) (entry : TarEntry) :
    Except BundleAcquisitionError Text := do
  let path ← normalizeArchivePath entry.pathBytes entry.entryType
  if path ∈ seen then
    archiveError s!"archive changed after validation: duplicate path `{String.ofList path}`"
  else do
    let mode ← entry.mode.mapError .archive
    if plan.entries.lookup path ≠ some ⟨entry.entryType, entry.size, mode⟩
        ∨ entry.linkNameBytes.isSome then
      archiveError s!"archive changed after validation at `{String.ofList path}`"
    else .ok path

def extractEntry (stagingRoot : Text) (plan : ArchivePlan) (path : Text) (entry : TarEntry) :
    ExceptT BundleAcquisitionError ExtractProgram Unit := do
  let destination := joinPath stagingRoot path
  if entry.entryType = .directory then do
    extractCall (.createDirAll destination)
    extractCall (.setPermissions destination 0o700)
  else extractFile plan path destination entry

/-- The paths that were seen, newest first. -/
def extractEntries (stagingRoot : Text) (plan : ArchivePlan) (seen : List Text) :
    List (Except String TarEntry) → ExceptT BundleAcquisitionError ExtractProgram (List Text)
  | [] => pure seen
  | .error source :: _ => throw (.archive source)
  | .ok entry :: rest => do
    let path ← ExceptT.mk (pure (observedFact plan seen entry))
    extractEntry stagingRoot plan path entry
    extractEntries stagingRoot plan (path :: seen) rest

def extractArchive (archive : ArchiveFile) (stagingRoot : Text) (plan : ArchivePlan) :
    ExceptT BundleAcquisitionError ExtractProgram Text := do
  let seen ← extractEntries stagingRoot plan [] archive.entries
  if seen.length ≠ plan.entries.length then
    throw (.archive "archive changed after validation: entries are missing")
  else do
    ExceptT.mk (pure (rejectArchiveTrailingData 0 archive.trailing))
    pure (joinPath stagingRoot plan.rootName)

end LgBuddy
