import LgBuddy.NativeUpdate.Payload
import LgBuddy.NativeUpdate.RpmVersion
import LgBuddy.Release.AcquireSafety

/-!
# LgBuddy — what native packages are

The two package formats of a release (`release_bundle/debian.rs`, `rpm.rs`, `native_package.rs`):
their names, and the checks of a package through the decoders of its format.

* `NativeFormat.assetName` — the file that a release has for a version;
* `headerPaths`, `verifyControl` — what the metadata of a package may say;
* `verifyPackage` — all decoders, in order;
* `header_paths_iff`, `verify_control_iff` — the metadata that are accepted;
* `VerifiedPackage`, `observes_verifyPackage` — what is known of a package behind the checks.
-/

namespace LgBuddy

open Str
open Fallible (bind_ok mapError_ok)

/-! ## Versions and names -/

namespace Debian

/-- As for RPM packages, and `ci` without a number too. -/
def validPrerelease (pre : Text) : Bool :=
  pre.isEmpty ||
    match splitAll '.' pre with
    | stage :: rest =>
      (stage == "alpha".toList || stage == "beta".toList || stage == "rc".toList) &&
        match rest with
        | [] => true
        | [number] => number == "ci".toList || !number.isEmpty && number.all Char.isDigit
        | [number, ci] => ci == "ci".toList && !number.isEmpty && number.all Char.isDigit
        | _ => false
    | [] => false

def nativeVersion (semver : Semver) (version : Version) : Except BundleAcquisitionError Text :=
  if version.build ≠ "" ∨ validPrerelease version.pre.toList = false then
    .error (.releaseMetadata
      "Debian prereleases require alpha, beta or rc, optionally .N and .ci")
  else .ok (replaceFirst '-' '~' (semver.display version).toList ++ "-1".toList)

def assetName (semver : Semver) (version : Version) : Except BundleAcquisitionError Text := do
  let packaged ← nativeVersion semver version
  return "lg-buddy_".toList ++ packaged.map (fun c => if c = '~' then '-' else c)
    ++ "_amd64.deb".toList

end Debian

inductive NativeFormat where
  | debian
  | rpm
  deriving DecidableEq, Repr

def NativeFormat.assetName (semver : Semver) :
    NativeFormat → Version → Except BundleAcquisitionError Text
  | .debian => Debian.assetName semver
  | .rpm => Rpm.assetName semver

namespace NativePackage

/-- What is taken from other crates. -/
structure NativeFormats where
  acquire : Acquire.AcquireFormats
  /-- The entries of an archive that is not compressed. -/
  untar : List UInt8 → List (Except String TarEntry)
  /-- The text of a `ParseIntError`. -/
  numberError : Text → String

def NativeFormats.semver (formats : NativeFormats) : Semver := formats.acquire.manifest.semver

/-! ## The metadata of a package -/

/-- The flags of a file but for documentation and licences. -/
def otherFlags : Nat := 0xffffffff - (2 ||| 128)

/-- One line of the inventory: a path, and the flags of the file. -/
def headerLine (numberError : Text → String) (paths : Finset Text) (line : Text) :
    Except BundleAcquisitionError (Finset Text) :=
  match splitOnce '\t' line with
  | none => archiveError "Malformed RPM file inventory"
  | some (path, digits) =>
    match readU32 digits with
    | none => archiveError (numberError digits)
    | some flags =>
      match stripPrefix ['/'] path with
      | none => archiveError "Nonabsolute RPM path"
      | some raw => do
        let normalized ← normalizeArchivePath (utf8Bytes raw) .regular
        if flags &&& otherFlags ≠ 0 ∨ ¬ "usr/".toList.isPrefixOf raw ∨ normalized = configPath
            ∨ maxArchiveEntries ≤ paths.card ∨ normalized ∈ paths then
          archiveError "Unsafe or duplicate RPM file inventory"
        else .ok (insert normalized paths)

def headerPathsFrom (numberError : Text → String) (paths : Finset Text) :
    List Text → Except BundleAcquisitionError (Finset Text)
  | [] => .ok paths
  | line :: rest => do
    let paths ← headerLine numberError paths line
    headerPathsFrom numberError paths rest

def headerPaths (numberError : Text → String) (text : Text) :
    Except BundleAcquisitionError (Finset Text) :=
  headerPathsFrom numberError ∅ (lines text)

def controlEntry (seen : Finset Text) (entry : TarEntry) :
    Except BundleAcquisitionError (Finset Text) :=
  if isRoot entry ∧ entry.entryType = .directory then .ok seen
  else do
    let path ← normalizeArchivePath (payloadName entry) entry.entryType
    if 64 ≤ seen.card ∨ path ∈ seen ∨ entry.entryType ≠ .regular ∨ '/' ∈ path
        ∨ path = "conffiles".toList ∧ entry.size ≠ 0 then
      archiveError
        "Debian control metadata contains links, duplicates or package-owned configuration"
    else .ok (insert path seen)

def verifyControlFrom (seen : Finset Text) :
    List (Except String TarEntry) → Except BundleAcquisitionError Unit
  | [] => .ok ()
  | .error source :: _ => archiveError source
  | .ok entry :: rest => do
    let seen ← controlEntry seen entry
    verifyControlFrom seen rest

def verifyControl (entries : List (Except String TarEntry)) : Except BundleAcquisitionError Unit :=
  verifyControlFrom ∅ entries

/-! ## The decoders -/

def rpmQuery (queryFormat : String) : Decoder :=
  ⟨"/usr/bin/rpm", ["--query", "--package", "--queryformat", queryFormat, "-"]⟩

def rpmFields : Decoder :=
  rpmQuery "%\x7bNAME\x7d\n%\x7bEPOCHNUM\x7d\n%\x7bVERSION\x7d-%\x7bRELEASE\x7d\n%\x7bARCH\x7d\n"

def rpmInventory : Decoder := rpmQuery "[%\x7bFILENAMES\x7d\t%\x7bFILEFLAGS\x7d\n]"

def rpmPayload : Decoder := ⟨"/usr/bin/rpm2archive", ["-n", "-"]⟩

def dpkgDeb (arguments : List String) : Decoder := ⟨"/usr/bin/dpkg-deb", arguments⟩

def debianControl : Decoder := dpkgDeb ["--ctrl-tarfile", "-"]

def debianFields : Decoder := dpkgDeb ["--field", "-", "Package", "Version", "Architecture"]

def debianPayload : Decoder := dpkgDeb ["--fsys-tarfile", "-"]

open Acquire (ask failWith ofFallible) in
/-- `decode`: no more than the limit is taken from a decoder. -/
def decode (file : List UInt8) (decoder : Decoder) (limit : Nat) : AcquireProgram (List UInt8) := do
  let output ← Acquire.orFail (← ask (.decode file decoder))
  let bytes := output.bytes.take (limit + 1)
  match output.readError with
  | some error => failWith (.io error)
  | none =>
    if limit < bytes.length ∨ output.success = false then
      failWith (.archive "native decoder failed or exceeded the payload limit")
    else return bytes

/-! ## The checks -/

/-- The name, the version and the architecture, as `rpm` and `dpkg-deb` print them. -/
def fieldsText (version : Text) : NativeFormat → Text
  | .rpm => "lg-buddy\n0\n".toList ++ version ++ "\nx86_64\n".toList
  | .debian => "Package: lg-buddy\nVersion: ".toList ++ version ++ "\nArchitecture: amd64\n".toList

section Checks

open Acquire (failWith ofFallible)

def verifyRpm (formats : NativeFormats) (file : List UInt8) (expected : ReleaseIdentity) :
    AcquireProgram Unit := do
  let fields ← decode file rpmFields maxManifestBytes
  let version ← Acquire.orFail (Rpm.nativeVersion formats.semver expected.version)
  if fields ≠ utf8Bytes (fieldsText version .rpm) then
    failWith (.manifest
      "RPM name, epoch, version or architecture disagrees with the release")
  else do
    let inventory ← decode file rpmInventory maxArchiveMetadataBytes
    let text ← Acquire.orFail (match fromUtf8 inventory with
      | none => archiveError (formats.acquire.utf8Error inventory)
      | some text => .ok text)
    let paths ← Acquire.orFail (headerPaths formats.numberError text)
    let data ← decode file rpmPayload maxArchiveExpandedBytes
    let installed ← ofFallible (verifyData formats.acquire.manifest expected (formats.untar data))
    if installed ≠ paths then failWith (.archive "RPM header and payload paths disagree")
    else return ()

def verifyDebian (formats : NativeFormats) (file : List UInt8) (expected : ReleaseIdentity) :
    AcquireProgram Unit := do
  let control ← decode file debianControl maxArchiveMetadataBytes
  Acquire.orFail (verifyControl (formats.untar control))
  let fields ← decode file debianFields maxManifestBytes
  let version ← Acquire.orFail (Debian.nativeVersion formats.semver expected.version)
  if fields ≠ utf8Bytes (fieldsText version .debian) then
    failWith (.manifest
      "Debian package name, version or architecture does not match the release")
  else do
    let data ← decode file debianPayload maxArchiveExpandedBytes
    let _ ← ofFallible (verifyData formats.acquire.manifest expected (formats.untar data))
    return ()

def verifyPackage (formats : NativeFormats) (file : List UInt8)
    (expected : ReleaseIdentity) : NativeFormat → AcquireProgram Unit
  | .debian => verifyDebian formats file expected
  | .rpm => verifyRpm formats file expected

end Checks

/-! ## The metadata that are accepted -/

/-- A line for a file below `usr` that the package owns as it is. -/
structure OwnedFile (line path : Text) : Prop where
  flags : ∃ digits flags, line = '/' :: path ++ '\t' :: digits ∧ readU32 digits = some flags
    ∧ flags &&& otherFlags = 0
  tab : '\t' ∉ path
  normal : NormalPath path
  length : (utf8Bytes path).length ≤ maxArchivePathBytes
  usr : ∃ rest, path = below "usr".toList rest
  config : path ≠ configPath

theorem headerLine_ok {numberError : Text → String} {paths paths' : Finset Text} {line : Text} :
    headerLine numberError paths line = .ok paths' ↔
      ∃ path, OwnedFile line path ∧ paths.card < maxArchiveEntries ∧ path ∉ paths
        ∧ paths' = insert path paths := by
  unfold headerLine archiveError
  constructor
  · intro h
    split at h
    · cases h
    · rename_i front digits hsplit
      split at h
      · cases h
      · rename_i flags hflags
        split at h
        · cases h
        · rename_i raw hraw
          obtain ⟨path, hpath, hkept⟩ := bind_ok.1 h
          split at hkept
          · cases hkept
          · rename_i hsafe
            rw [below_usr_iff] at hsafe
            push Not at hsafe
            obtain ⟨hplain, husr, hconfig, hcard, hnew⟩ := hsafe
            obtain ⟨hnormal, hlength, hname⟩ := normalizeArchivePath_iff.1 hpath
            -- no directory is listed, so the path is the text read
            obtain rfl : path = raw := by
              rcases hname with hname | ⟨-, hdirectory⟩
              · exact utf8Bytes_injective hname
              · cases hdirectory
            obtain ⟨hline, htab⟩ := splitOnce_eq_some.1 hsplit
            obtain rfl := stripPrefix_eq_some.1 hraw
            refine ⟨path, ⟨⟨digits, flags, hline, hflags, hplain⟩, ?_, hnormal, hlength, husr,
              hconfig⟩, hcard, hnew, (Except.ok.inj hkept).symm⟩
            exact fun hmem => htab (List.mem_cons_of_mem _ hmem)
  · rintro ⟨path, hfile, hcard, hnew, rfl⟩
    obtain ⟨digits, flags, rfl, hflags, hplain⟩ := hfile.flags
    -- the other way: the line is cut where it was put together
    have hsplit : splitOnce '\t' ('/' :: path ++ '\t' :: digits) = some ('/' :: path, digits) := by
      refine splitOnce_eq_some.2 ⟨rfl, fun hmem => ?_⟩
      rcases List.mem_cons.1 hmem with hslash | hmem
      · revert hslash
        decide
      · exact hfile.tab hmem
    have hraw : stripPrefix ['/'] ('/' :: path) = some path := stripPrefix_eq_some.2 rfl
    rw [hsplit]
    dsimp only
    rw [hflags]
    dsimp only
    rw [hraw]
    refine bind_ok.2 ⟨path, normalizeArchivePath_iff.2 ⟨hfile.normal, hfile.length, .inl rfl⟩, ?_⟩
    rw [if_neg]
    rw [below_usr_iff]
    push Not
    exact ⟨hplain, hfile.usr, hfile.config, hcard, hnew⟩

/-- Lines that name so many different files. -/
structure OwnedFiles (inventory paths : List Text) : Prop where
  files : List.Forall₂ OwnedFile inventory paths
  nodup : paths.Nodup
  length : paths.length ≤ maxArchiveEntries

/-- By induction on the lines; the files so far are kept in `seen`. -/
theorem headerPathsFrom_ok {numberError : Text → String} {seen paths : Finset Text}
    {inventory : List Text} (hseen : seen.card ≤ maxArchiveEntries) :
    headerPathsFrom numberError seen inventory = .ok paths ↔
      ∃ files, List.Forall₂ OwnedFile inventory files ∧ Fits ⟨seen, ∅⟩ files
        ∧ paths = seen ∪ files.toFinset := by
  induction inventory generalizing seen with
  | nil =>
    constructor
    · intro h
      refine ⟨[], .nil, ⟨List.nodup_nil, List.forall_mem_nil _, hseen⟩, ?_⟩
      rw [List.toFinset_nil, Finset.union_empty]
      exact (Except.ok.inj h).symm
    · rintro ⟨files, hfiles, -, rfl⟩
      cases hfiles
      rw [List.toFinset_nil, Finset.union_empty]
      rfl
  | cons line rest ih =>
    -- one path at a time: its place, and the places of the rest
    have hfits : ∀ {path : Text} {files : List Text}, Fits ⟨seen, ∅⟩ (path :: files) ↔
        seen.card < maxArchiveEntries ∧ path ∉ seen ∧ Fits ⟨insert path seen, ∅⟩ files := by
      intro path files
      rw [fits_cons]
      exact ⟨fun h => ⟨h.1, h.2.1, ⟨h.2.2.nodup, h.2.2.fresh, h.2.2.room⟩⟩,
        fun h => ⟨h.1, h.2.1, ⟨h.2.2.nodup, h.2.2.fresh, h.2.2.room⟩⟩⟩
    have hcard : ∀ {path : Text}, seen.card < maxArchiveEntries → path ∉ seen →
        (insert path seen).card ≤ maxArchiveEntries := by
      intro path hroom hnew
      rw [Finset.card_insert_of_notMem hnew]
      omega
    have hunion : ∀ (path : Text) (files : List Text),
        insert path seen ∪ files.toFinset = seen ∪ (path :: files).toFinset := by
      intro path files
      rw [List.toFinset_cons, Finset.insert_union, Finset.union_insert]
    rw [headerPathsFrom, bind_ok]
    constructor
    · rintro ⟨next, hline, hrest⟩
      obtain ⟨path, hfile, hroom, hnew, rfl⟩ := headerLine_ok.1 hline
      obtain ⟨files, hfiles, hfit, rfl⟩ := (ih (hcard hroom hnew)).1 hrest
      exact ⟨path :: files, .cons hfile hfiles, hfits.2 ⟨hroom, hnew, hfit⟩, hunion path files⟩
    · rintro ⟨files, hfiles, hfit, rfl⟩
      cases hfiles with
      | cons hfile hfiles =>
        rename_i path files
        obtain ⟨hroom, hnew, hfit⟩ := hfits.1 hfit
        exact ⟨insert path seen, headerLine_ok.2 ⟨path, hfile, hroom, hnew, rfl⟩,
          (ih (hcard hroom hnew)).2 ⟨files, hfiles, hfit, (hunion path files).symm⟩⟩

/-- **The inventories that are accepted.** -/
theorem header_paths_iff {numberError : Text → String} {text : Text} {paths : Finset Text} :
    headerPaths numberError text = .ok paths ↔
      ∃ files, OwnedFiles (lines text) files ∧ paths = files.toFinset := by
  have hempty : (∅ : Finset Text).card ≤ maxArchiveEntries := by decide
  rw [headerPaths, headerPathsFrom_ok hempty]
  constructor
  · rintro ⟨files, hfiles, hfits, rfl⟩
    have hroom := hfits.room
    replace hroom : 0 + files.length ≤ maxArchiveEntries := hroom
    exact ⟨files, ⟨hfiles, hfits.nodup, by omega⟩, Finset.empty_union _⟩
  · rintro ⟨files, hfiles, rfl⟩
    have hroom := hfiles.length
    refine ⟨files, hfiles.files, ⟨hfiles.nodup, fun _ _ => Finset.notMem_empty _, ?_⟩,
      (Finset.empty_union _).symm⟩
    show 0 + files.length ≤ maxArchiveEntries
    omega

/-- A file of the control data: no link, in no directory, and no configuration in `/etc`. -/
structure ControlFile (entry : TarEntry) (path : Text) : Prop where
  regular : entry.entryType = .regular
  normal : NormalPath path
  name : utf8Bytes path = payloadName entry
  length : (payloadName entry).length ≤ maxArchivePathBytes
  slash : '/' ∉ path
  conffiles : path = "conffiles".toList → entry.size = 0

theorem controlEntry_ok {seen seen' : Finset Text} {entry : TarEntry} :
    controlEntry seen entry = .ok seen' ↔
      (isRoot entry ∧ entry.entryType = .directory) ∧ seen' = seen ∨
        ¬ (isRoot entry ∧ entry.entryType = .directory) ∧ ∃ path, ControlFile entry path
          ∧ seen.card < 64 ∧ path ∉ seen ∧ seen' = insert path seen := by
  unfold controlEntry archiveError
  constructor
  · intro h
    split at h
    · rename_i hroot
      exact .inl ⟨hroot, (Except.ok.inj h).symm⟩
    · rename_i hroot
      obtain ⟨path, hpath, h⟩ := bind_ok.1 h
      obtain ⟨hnormal, hlength, hname⟩ := normalizeArchivePath_iff.1 hpath
      split at h
      · cases h
      · rename_i hsafe
        push Not at hsafe
        obtain ⟨hcard, hnew, hregular, hslash, hconffiles⟩ := hsafe
        refine .inr ⟨hroot, path, ⟨hregular, hnormal, ?_, hlength, hslash, hconffiles⟩, hcard, hnew,
          (Except.ok.inj h).symm⟩
        rcases hname with hname | ⟨-, hdirectory⟩
        · exact hname
        · rw [hregular] at hdirectory
          cases hdirectory
  · rintro (⟨hroot, rfl⟩ | ⟨hroot, path, hfile, hcard, hnew, rfl⟩)
    · rw [if_pos hroot]
    · rw [if_neg hroot]
      refine bind_ok.2 ⟨path, normalizeArchivePath_iff.2
        ⟨hfile.normal, hfile.length, .inl hfile.name⟩, ?_⟩
      rw [if_neg]
      push Not
      exact ⟨hcard, hnew, hfile.regular, hfile.slash, hfile.conffiles⟩

/-- The control data are these files, in their order. -/
inductive ControlFiles : List (Except String TarEntry) → List Text → Prop
  | nil : ControlFiles [] []
  | root {entry : TarEntry} {rest : List (Except String TarEntry)} {paths : List Text}
      (hroot : isRoot entry ∧ entry.entryType = .directory) (hrest : ControlFiles rest paths) :
      ControlFiles (.ok entry :: rest) paths
  | file {entry : TarEntry} {path : Text} {rest : List (Except String TarEntry)}
      {paths : List Text} (hroot : ¬ (isRoot entry ∧ entry.entryType = .directory))
      (hfile : ControlFile entry path) (hrest : ControlFiles rest paths) :
      ControlFiles (.ok entry :: rest) (path :: paths)

theorem verifyControlFrom_ok {seen : Finset Text} {entries : List (Except String TarEntry)}
    (hseen : seen.card ≤ 64) :
    verifyControlFrom seen entries = .ok () ↔ ∃ paths, ControlFiles entries paths ∧ paths.Nodup
      ∧ (∀ path ∈ paths, path ∉ seen) ∧ seen.card + paths.length ≤ 64 := by
  induction entries generalizing seen with
  | nil =>
    constructor
    · intro _
      exact ⟨[], .nil, List.nodup_nil, List.forall_mem_nil _, hseen⟩
    · intro _
      rfl
  | cons item rest ih =>
    cases item with
    -- an unreadable entry is rejected, and is no control file
    | error source =>
      constructor
      · intro h
        cases h
      · rintro ⟨paths, hfiles, -⟩
        cases hfiles
    | ok entry =>
      rw [verifyControlFrom, bind_ok]
      constructor
      · rintro ⟨next, hentry, hrest⟩
        rcases controlEntry_ok.1 hentry with ⟨hroot, rfl⟩ | ⟨hroot, path, hfile, hcard, hnew, rfl⟩
        · obtain ⟨paths, hfiles, hpaths⟩ := (ih hseen).1 hrest
          exact ⟨paths, .root hroot hfiles, hpaths⟩
        -- a new path takes one of the sixty-four places
        · have hcount := Finset.card_insert_of_notMem hnew
          obtain ⟨paths, hfiles, hnodup, hfresh, hroom⟩ := (ih (by omega)).1 hrest
          refine ⟨path :: paths, .file hroot hfile hfiles, ?_, ?_, ?_⟩
          · exact List.nodup_cons.2
              ⟨fun hmem => hfresh path hmem (Finset.mem_insert_self _ _), hnodup⟩
          · intro later hlater
            cases hlater with
            | head => exact hnew
            | tail _ hlater =>
              exact fun hmem => hfresh later hlater (Finset.mem_insert_of_mem hmem)
          · rw [List.length_cons]
            omega
      · rintro ⟨paths, hfiles, hnodup, hfresh, hroom⟩
        cases hfiles with
        | root hroot hfiles =>
          exact ⟨seen, controlEntry_ok.2 (.inl ⟨hroot, rfl⟩),
            (ih hseen).2 ⟨paths, hfiles, hnodup, hfresh, hroom⟩⟩
        | file hroot hfile hfiles =>
          rename_i path paths
          obtain ⟨hother, hnodup⟩ := List.nodup_cons.1 hnodup
          have hnew : path ∉ seen := hfresh path (.head _)
          have hcount := Finset.card_insert_of_notMem hnew
          rw [List.length_cons] at hroom
          refine ⟨insert path seen,
            controlEntry_ok.2 (.inr ⟨hroot, path, hfile, by omega, hnew, rfl⟩),
            (ih (by omega)).2 ⟨paths, hfiles, hnodup, fun later hlater => ?_, by omega⟩⟩
          rw [Finset.mem_insert, not_or]
          exact ⟨fun hsame => hother (hsame ▸ hlater), hfresh later (.tail _ hlater)⟩

/-- **The control data that are accepted.** -/
theorem verify_control_iff {entries : List (Except String TarEntry)} :
    verifyControl entries = .ok () ↔
      ∃ paths, ControlFiles entries paths ∧ paths.Nodup ∧ paths.length ≤ 64 := by
  have hempty : (∅ : Finset Text).card ≤ 64 := by decide
  rw [verifyControl, verifyControlFrom_ok hempty]
  constructor
  · rintro ⟨paths, hfiles, hnodup, -, hroom⟩
    rw [Finset.card_empty] at hroom
    exact ⟨paths, hfiles, hnodup, by omega⟩
  · rintro ⟨paths, hfiles, hnodup, hlength⟩
    refine ⟨paths, hfiles, hnodup, fun _ _ => Finset.notMem_empty _, ?_⟩
    rw [Finset.card_empty]
    omega

/-! ## The packages that are accepted -/

open Acquire (AcquireEntry AcquireWorld ask failWith ofFallible)
open Program (Says says_one)
open Program.Scripted (Observes)

/-- A decoder has written these bytes, no more than the limit, and ended well. -/
def Decoded (made : List AcquireEntry) (file : List UInt8) (decoder : Decoder) (limit : Nat)
    (bytes : List UInt8) : Prop :=
  bytes.length ≤ limit ∧ Says made (.decode file decoder) (.ok ⟨bytes, none, true⟩)

theorem Decoded.mono {made made' : List AcquireEntry} {file : List UInt8} {decoder : Decoder}
    {limit : Nat} {bytes : List UInt8} (h : Decoded made file decoder limit bytes)
    (hmade : ∀ x ∈ made, x ∈ made') : Decoded made' file decoder limit bytes :=
  ⟨h.1, h.2.mono hmade⟩

/-- **A package that is accepted**, as the decoders have shown it: the fields are those of the
release, the metadata claim nothing beyond the payload, and the payload is sound. -/
inductive VerifiedPackage (formats : NativeFormats) (file : List UInt8)
    (expected : ReleaseIdentity) (made : List AcquireEntry) : NativeFormat → Prop
  | rpm {version inventory : Text} {files paths : List Text} {data : List UInt8}
      (hversion : Rpm.nativeVersion formats.semver expected.version = .ok version)
      (hfields : Decoded made file rpmFields maxManifestBytes
        (utf8Bytes (fieldsText version .rpm)))
      (hinventory : Decoded made file rpmInventory maxArchiveMetadataBytes (utf8Bytes inventory))
      (hfiles : OwnedFiles (lines inventory) files)
      (hdata : Decoded made file rpmPayload maxArchiveExpandedBytes data)
      (hpayload : SoundPayload formats.acquire.manifest expected (formats.untar data) paths)
      (hsame : ∀ path, path ∈ files ↔ path ∈ paths) :
      VerifiedPackage formats file expected made .rpm
  | debian {version : Text} {names paths : List Text} {control data : List UInt8}
      (hversion : Debian.nativeVersion formats.semver expected.version = .ok version)
      (hfields : Decoded made file debianFields maxManifestBytes
        (utf8Bytes (fieldsText version .debian)))
      (hcontrol : Decoded made file debianControl maxArchiveMetadataBytes control)
      (hnames : ControlFiles (formats.untar control) names) (hnodup : names.Nodup)
      (hlength : names.length ≤ 64)
      (hdata : Decoded made file debianPayload maxArchiveExpandedBytes data)
      (hpayload : SoundPayload formats.acquire.manifest expected (formats.untar data) paths) :
      VerifiedPackage formats file expected made .debian

theorem VerifiedPackage.mono {formats : NativeFormats} {file : List UInt8}
    {expected : ReleaseIdentity} {made made' : List AcquireEntry} {format : NativeFormat}
    (h : VerifiedPackage formats file expected made format) (hmade : ∀ x ∈ made, x ∈ made') :
    VerifiedPackage formats file expected made' format := by
  cases h with
  | rpm hversion hfields hinventory hfiles hdata hpayload hsame =>
    exact .rpm hversion (hfields.mono hmade) (hinventory.mono hmade) hfiles (hdata.mono hmade)
      hpayload hsame
  | debian hversion hfields hcontrol hnames hnodup hlength hdata hpayload =>
    exact .debian hversion (hfields.mono hmade) (hcontrol.mono hmade) hnames hnodup hlength
      (hdata.mono hmade) hpayload

variable {α β : Type} {file : List UInt8} {R : β → List AcquireEntry → Prop}

/-- All calls run a decoder over this file. -/
abbrev Inspects (file : List UInt8) (p : AcquireProgram α) (P : α → List AcquireEntry → Prop) :
    Prop :=
  Observes AcquireWorld.answer (fun call => ∃ decoder, call = .decode file decoder) p P

/-- A check in front of the rest. -/
theorem Inspects.checked {x : Fallible BundleAcquisitionError α} {rest : α → AcquireProgram β}
    (hrest : ∀ a, x = .ok a → Inspects file (rest a) R) :
    Inspects file (ofFallible x >>= rest) R := by
  refine Observes.bind (P := fun a made => made = [] ∧ x = .ok a)
    (Observes.ofExcept fun a ha => ⟨rfl, ha⟩) fun a made ha => ?_
  obtain ⟨rfl, ha⟩ := ha
  exact (hrest a ha).mono fun b made hR => hR

theorem inspects_failWith (error : BundleAcquisitionError) {P : α → List AcquireEntry → Prop} :
    Inspects file (failWith error) P :=
  Observes.ofExcept fun a h => by cases h

theorem inspects_decode (decoder : Decoder) (limit : Nat) :
    Inspects file (decode file decoder limit) fun bytes made =>
      Decoded made file decoder limit bytes := by
  unfold decode
  refine Observes.bind (P := fun answer made => Says made (.decode file decoder) answer)
    (Observes.ask ⟨decoder, rfl⟩ (fun _ _ => rfl) fun w a => says_one a) fun answer made hmade => ?_
  refine Inspects.checked fun output houtput => ?_
  obtain rfl : answer = .ok output := mapError_ok.1 houtput
  obtain ⟨bytes, readError, success⟩ := output
  dsimp only
  cases readError with
  | some error => exact inspects_failWith _
  | none =>
    dsimp only
    split
    · exact inspects_failWith _
    · rename_i hgood
      push Not at hgood
      obtain ⟨hlength, hsuccess⟩ := hgood
      rw [ne_eq, Bool.not_eq_false] at hsuccess
      subst hsuccess
      -- a longer output would not have been cut below the limit
      have hwhole : bytes.take (limit + 1) = bytes := by
        rw [List.length_take] at hlength
        exact List.take_of_length_le (by omega)
      rw [hwhole] at hlength ⊢
      refine Observes.pure ⟨hlength, ?_⟩
      rw [List.append_nil]
      exact hmade

/-- A decoder in front of the rest. -/
theorem Inspects.decoded {decoder : Decoder} {limit : Nat} {rest : List UInt8 → AcquireProgram β}
    (hrest : ∀ bytes made, Decoded made file decoder limit bytes →
      Inspects file (rest bytes) fun b made' => R b (made ++ made')) :
    Inspects file (decode file decoder limit >>= rest) R :=
  Observes.bind (inspects_decode decoder limit) hrest

theorem inspects_verifyPackage (formats : NativeFormats) (expected : ReleaseIdentity)
    (format : NativeFormat) :
    Inspects file (verifyPackage formats file expected format) fun _ made =>
      VerifiedPackage formats file expected made format := by
  cases format with
  -- RPM: the fields, the list of files of the header, then the payload, which must agree
  | rpm =>
    refine Inspects.decoded fun fields made₁ hfields => ?_
    refine Inspects.checked fun version hversion => ?_
    split
    · exact inspects_failWith _
    · rename_i hsame
      obtain rfl := not_not.1 hsame
      refine Inspects.decoded fun inventory made₂ hinventory => ?_
      refine Inspects.checked fun text htext => ?_
      obtain rfl : utf8Bytes text = inventory := by
        cases hread : fromUtf8 inventory with
        | none =>
          rw [hread] at htext
          cases htext
        | some found =>
          rw [hread] at htext
          obtain rfl := Except.ok.inj htext
          exact fromUtf8_eq_some.1 hread
      refine Inspects.checked fun listed hlisted => ?_
      refine Inspects.decoded fun data made₃ hdata => ?_
      refine Inspects.checked fun installed hinstalled => ?_
      split
      · exact inspects_failWith _
      · rename_i hagree
        obtain ⟨files, hfiles, rfl⟩ := header_paths_iff.1 (mapError_ok.1 hlisted)
        obtain ⟨paths, hpayload, rfl⟩ := (verify_data_iff _ _ _ _).1 hinstalled
        refine Observes.pure (.rpm (mapError_ok.1 hversion) (hfields.mono fun x hx => ?_)
          (hinventory.mono fun x hx => ?_) hfiles (hdata.mono fun x hx => ?_) hpayload ?_)
        · simp [hx]
        · simp [hx]
        · simp [hx]
        · intro path
          rw [← List.mem_toFinset, ← List.mem_toFinset, not_not.1 hagree]
  -- Debian: the control files, the fields, then the data
  | debian =>
    refine Inspects.decoded fun control made₁ hcontrol => Inspects.checked fun _ hnames => ?_
    refine Inspects.decoded fun fields made₂ hfields => Inspects.checked fun version hversion => ?_
    split
    · exact inspects_failWith _
    · rename_i hsame
      obtain rfl := not_not.1 hsame
      refine Inspects.decoded fun data made₃ hdata => ?_
      refine Inspects.checked fun installed hinstalled => ?_
      obtain ⟨names, hfiles, hnodup, hlength⟩ := verify_control_iff.1 (mapError_ok.1 hnames)
      obtain ⟨paths, hpayload, -⟩ := (verify_data_iff _ _ _ _).1 hinstalled
      refine Observes.pure (.debian (mapError_ok.1 hversion) (hfields.mono fun x hx => ?_)
        (hcontrol.mono fun x hx => ?_) hfiles hnodup hlength (hdata.mono fun x hx => ?_) hpayload)
      · simp [hx]
      · simp [hx]
      · simp [hx]

end NativePackage

end LgBuddy
