import LgBuddy.Release.Archive
import Mathlib.Data.List.Forall2
import Mathlib.Data.List.Nodup

/-!
# LgBuddy — what the first pass accepts

What an accepted archive is.

* `NormalPath`, `Beneath` — paths of names, and paths in a directory;
* `InspectedEntry`, `ArchiveListing` — what the first pass accepts;
* `inspectArchive_listing` — it accepts nothing else.
-/

namespace LgBuddy

open Str
open Fallible (bind_ok mapError_ok)

/-! ## Paths -/

/-- A relative path of names: no part is empty or consists of dots, and no character is refused
by the file system or means something else elsewhere. -/
structure NormalPath (path : Text) : Prop where
  parts : ∀ part ∈ splitAll '/' path, part ≠ [] ∧ part ≠ ['.'] ∧ part ≠ ['.', '.']
  nul : Char.ofNat 0 ∉ path
  backslash : '\\' ∉ path

/-- A path in a directory: the directory itself, or names behind it. -/
def Beneath (directory path : Text) : Prop :=
  path = directory ∨ ∃ relative, NormalPath relative ∧ path = below directory relative

theorem NormalPath.ne_nil {path : Text} (h : NormalPath path) : path ≠ [] := by
  rintro rfl
  exact (h.parts [] (.head _)).1 rfl

/-- A normalized path is relative. -/
theorem NormalPath.head {path : Text} (h : NormalPath path) : path.head? ≠ some '/' := by
  intro hhead
  cases path with
  | nil => cases hhead
  | cons c rest =>
    obtain rfl : c = '/' := by simpa using hhead
    exact (h.parts [] (by rw [splitAll_cons_eq]; exact .head _)).1 rfl

/-- A part of a normal path between slashes, or at an end of it, is one. -/
theorem NormalPath.of_below {directory relative : Text} (h : NormalPath (below directory relative)) :
    NormalPath directory ∧ NormalPath relative := by
  obtain ⟨hparts, hnul, hbackslash⟩ := h
  simp only [below, List.mem_append, List.mem_cons, not_or] at hnul hbackslash
  simp only [below, splitAll_join, List.mem_append] at hparts
  exact ⟨⟨fun part hpart => hparts part (.inl hpart), hnul.1, hbackslash.1⟩,
    ⟨fun part hpart => hparts part (.inr hpart), hnul.2.2, hbackslash.2.2⟩⟩

/-- A text with a NUL character has a NUL byte. -/
theorem mem_utf8Bytes_zero {text : Text} (h : Char.ofNat 0 ∈ text) : 0 ∈ utf8Bytes text :=
  List.mem_flatMap.2 ⟨Char.ofNat 0, h, by decide⟩

/-- An accepted path is normal; the bytes are the path, or a slash follows it. -/
theorem normalizeArchivePath_ok {bytes : List UInt8} {entryType : EntryType} {path : Text}
    (h : normalizeArchivePath bytes entryType = .ok path) :
    NormalPath path ∧ bytes.length ≤ maxArchivePathBytes ∧
      (utf8Bytes path = bytes ∨ utf8Bytes (path ++ ['/']) = bytes ∧ entryType = .directory) := by
  unfold normalizeArchivePath archiveError at h
  split at h
  · cases h
  · rename_i hlength
    split at h
    · cases h
    · rename_i hnul
      split at h
      · cases h
      · rename_i text htext
        split at h
        · cases h
        · rename_i hslash
          dsimp only at h
          split at h
          · cases h
          · rename_i hpath
            rw [fromUtf8_eq_some] at htext
            obtain rfl := Except.ok.inj h
            simp only [not_or, not_exists, not_and] at hpath
            obtain ⟨-, -, hbackslash, hparts⟩ := hpath
            -- with or without the slash, the characters of the path are those of the text
            have htail : text = (stripSuffix ['/'] text).getD text ∨
                text = (stripSuffix ['/'] text).getD text ++ ['/'] := by
              cases hstrip : stripSuffix ['/'] text with
              | none => exact .inl rfl
              | some rest => exact .inr (stripSuffix_eq_some.1 hstrip)
            have hmem : Char.ofNat 0 ∉ (stripSuffix ['/'] text).getD text := by
              intro hzero
              apply hnul
              rw [← htext]
              apply mem_utf8Bytes_zero
              cases htail with
              | inl htail => rwa [htail]
              | inr htail => rw [htail]; exact List.mem_append_left _ hzero
            refine ⟨⟨hparts, hmem, hbackslash⟩, by omega, ?_⟩
            cases htail with
            | inl htail => rw [← htail]; exact .inl htext
            | inr htail =>
              right
              rw [← htail]
              refine ⟨htext, ?_⟩
              by_contra hdirectory
              apply hslash
              refine ⟨?_, hdirectory⟩
              rw [htail, List.getLast?_append_of_ne_nil _ (by simp)]
              rfl

/-! ## The layout -/

theorem relativePath_root (root : Text) : relativePath root root = [] := by
  have hstrip : stripPrefix root root = some [] := stripPrefix_eq_some.2 (List.append_nil _).symm
  rw [relativePath, hstrip]
  rfl

/-- The relative path of an entry below the root is the path it stands at. -/
theorem relativePath_below {root relative : Text} (h : relative.head? ≠ some '/') :
    relativePath (below root relative) root = relative := by
  have hstrip : stripPrefix root (below root relative) = some ('/' :: relative) :=
    stripPrefix_eq_some.2 rfl
  rw [relativePath, hstrip, Option.getD_some, List.dropWhile_cons_of_pos (by decide)]
  cases relative with
  | nil => rfl
  | cons c rest =>
    rw [List.dropWhile_cons_of_neg]
    intro hslash
    exact h (by simpa using hslash)

/-- What the layout says about the type of an entry. -/
structure LaidOut (root path : Text) (entryType : EntryType) : Prop where
  kind : entryType = .regular ∨ entryType = .directory
  inside : path = root ∨ ∃ relative, path = below root relative
  atRoot : path = root → entryType = .directory
  atFile : ∀ file ∈ requiredRelativeFiles, path = below root file.toList → entryType = .regular
  atDirectory : ∀ directory ∈ ["bin", "docs", "systemd"], path = below root directory.toList →
    entryType = .directory

/-- Every required file is named by a non-empty relative path. -/
theorem requiredFile_head {file : String} (h : file ∈ requiredRelativeFiles) :
    file.toList ≠ [] ∧ file.toList.head? ≠ some '/' := by
  revert file
  decide +kernel

theorem directory_head {directory : String} (h : directory ∈ ["bin", "docs", "systemd"]) :
    directory.toList.head? ≠ some '/' := by
  revert directory
  decide +kernel

theorem allowedFile_required {file : String} {entryType : EntryType}
    (h : file ∈ requiredRelativeFiles) : allowedFile file.toList entryType = true := by
  have hany : requiredRelativeFiles.any (fun other => other.toList == file.toList) = true :=
    List.any_eq_true.2 ⟨file, h, by simp⟩
  rw [allowedFile, hany, Bool.true_or]

/-- A directory of the layout is no file of the allow list. -/
theorem allowedFile_directory {directory : String} {entryType : EntryType}
    (h : directory ∈ ["bin", "docs", "systemd"]) :
    allowedFile directory.toList entryType = false := by
  have hfile : ∀ name ∈ ["bin", "docs", "systemd"],
      requiredRelativeFiles.any (fun other => other.toList == name.toList) = false ∧
        "docs/".toList.isPrefixOf name.toList = false := by decide +kernel
  obtain ⟨hany, hdocs⟩ := hfile directory h
  rw [allowedFile, hany, hdocs]
  rfl

/-- An accepted layout is a regular file or directory at its place below the root. -/
theorem validateArchiveLayout_ok {path root : Text} {entryType : EntryType}
    (h : validateArchiveLayout path root entryType = .ok ()) : LaidOut root path entryType := by
  unfold validateArchiveLayout archiveError at h
  split at h
  · cases h
  · rename_i htype
    have hkind : entryType = .regular ∨ entryType = .directory := by tauto
    split at h
    · cases h
    · rename_i hinside
      have hwhere : path = root ∨ ∃ relative, path = below root relative := by
        by_cases hroot : path = root
        · exact .inl hroot
        · obtain ⟨relative, hrelative⟩ := not_not.1 (not_and.1 hinside hroot)
          exact .inr ⟨relative, by rw [← hrelative, below, below, List.append_assoc]; rfl⟩
      -- the root itself has the empty relative path
      dsimp only at h
      split at h
      · rename_i hempty
        split at h
        · cases h
        · rename_i hdirectory
          have hdirectory : entryType = .directory := not_not.1 hdirectory
          refine ⟨hkind, hwhere, fun _ => hdirectory, ?_, fun _ _ _ => hdirectory⟩
          rintro file hfile rfl
          obtain ⟨hnonempty, hhead⟩ := requiredFile_head hfile
          rw [relativePath_below hhead] at hempty
          exact absurd hempty hnonempty
      · rename_i hrelative
        have hnotRoot : path ≠ root := fun hroot => hrelative (hroot ▸ relativePath_root root)
        split at h
        · cases h
        · rename_i hallowed
          split at h
          · cases h
          · rename_i hregular
            refine ⟨hkind, hwhere, fun hroot => absurd hroot hnotRoot, ?_, ?_⟩
            · rintro file hfile rfl
              rw [relativePath_below (requiredFile_head hfile).2] at hregular
              exact not_not.1 (not_and.1 hregular (allowedFile_required hfile))
            · rintro directory hdirectory rfl
              rw [relativePath_below (directory_head hdirectory)] at hallowed
              have hallowedDirectory :=
                not_and.1 hallowed (allowedFile_directory hdirectory)
              cases entryType with
              | directory => rfl
              | _ => simp [allowedDirectory] at hallowedDirectory

/-! ## The first pass -/

/-- **An accepted entry.** A regular file or directory in the root, with no link name and no
permission that is unsafe, not too large. -/
structure InspectedEntry (root path : Text) (entry : TarEntry) (fact : ArchiveEntryFact) :
    Prop where
  bytes : normalizeArchivePath entry.pathBytes entry.entryType = .ok path
  normal : NormalPath path
  layout : LaidOut root path entry.entryType
  noLink : entry.linkNameBytes = none
  mode : entry.mode = .ok fact.mode
  /-- Neither setuid, setgid and sticky nor writable for a group or others. -/
  safe : fact.mode &&& 0o7022 = 0
  entryType : fact.entryType = entry.entryType
  sameSize : fact.size = entry.size
  size : entry.size ≤ maxArchiveFileBytes

/-- The entries so far and what is kept of them. -/
structure Inspected (semver : Semver) (root : Text) (items : List (Except String TarEntry))
    (seen : Inspection) : Prop where
  entries : List.Forall₂ (fun item x => ∃ entry, item = Except.ok entry ∧
    InspectedEntry root x.1 entry x.2) items seen.validated
  nodup : (seen.validated.map Prod.fst).Nodup
  expanded : seen.expandedBytes = (seen.validated.map fun x => x.2.size).sum
  total : seen.expandedBytes ≤ maxArchiveExpandedBytes
  regular : seen.regularFiles
    = (seen.validated.filter fun x => x.2.entryType == .regular).length
  files : seen.regularFiles ≤ maxArchiveFiles
  manifest : ∀ manifest, seen.manifest = some manifest → semver.Reads manifest.identity.version

/-- An accepted header names a new path, and its link, mode and size passed their checks. -/
theorem inspectHeader_ok {root path : Text} {seen : Inspection} {entry : TarEntry}
    {fact : ArchiveEntryFact} (h : inspectHeader root seen entry = .ok (path, fact))
    (hsize : entry.size ≤ maxArchiveFileBytes) :
    InspectedEntry root path entry fact ∧ path ∉ seen.validated.map Prod.fst ∧
      seen.regularFiles + (if entry.entryType = .regular then 1 else 0)
        ≤ max seen.regularFiles maxArchiveFiles := by
  obtain ⟨path', hpath, h⟩ := bind_ok.1 h
  unfold archiveError at h
  split at h
  · cases h
  · rename_i hnew
    obtain ⟨_, hlayout, h⟩ := bind_ok.1 h
    split at h
    · cases h
    · rename_i hlink
      obtain ⟨mode, hmode, h⟩ := bind_ok.1 h
      split at h
      · cases h
      · rename_i hsafe
        split at h
        · cases h
        · split at h
          · cases h
          · rename_i hfiles
            obtain ⟨rfl, rfl⟩ := Prod.mk.inj (Except.ok.inj h)
            refine ⟨⟨hpath, (normalizeArchivePath_ok hpath).1, validateArchiveLayout_ok hlayout,
              by simpa using hlink, mapError_ok.1 hmode, not_not.1 hsafe, rfl, rfl, hsize⟩,
              hnew, ?_⟩
            by_cases hregular : entry.entryType = .regular
            · rw [if_pos hregular]
              rw [not_and] at hfiles
              have hmore := hfiles hregular
              omega
            · rw [if_neg hregular]
              omega

/-- The accepted running total is the sum, and both it and the entry are within the limits. -/
theorem addExpanded_ok {path : Text} {expandedBytes size total : Nat}
    (h : addExpanded path expandedBytes size = .ok total) :
    size ≤ maxArchiveFileBytes ∧ total = expandedBytes + size ∧
      total ≤ maxArchiveExpandedBytes := by
  unfold addExpanded archiveError at h
  split at h
  · cases h
  · rename_i hsize
    split at h
    · cases h
    · rename_i sum hsum
      split at h
      · cases h
      · rename_i htotal
        obtain rfl := Except.ok.inj h
        exact ⟨by omega, (Fallible.checkedAdd_eq_some.1 hsum).1.symm, by omega⟩

/-- The version of a manifest is one that was read. -/
theorem parseManifestDocument_version {formats : ManifestFormats} {contents : List UInt8}
    {manifest : ReleaseManifest} (h : parseManifestDocument formats contents = .ok manifest) :
    formats.semver.Reads manifest.identity.version := by
  unfold parseManifestDocument at h
  split at h
  · cases h
  · split at h
    · cases h
    · rename_i raw hraw
      unfold checkManifest at h
      split at h
      · cases h
      · split at h
        · cases h
        · obtain ⟨_, -, h⟩ := bind_ok.1 h
          obtain ⟨_, -, h⟩ := bind_ok.1 h
          obtain ⟨_, -, h⟩ := bind_ok.1 h
          obtain ⟨text, -, h⟩ := bind_ok.1 h
          obtain ⟨version, hversion, h⟩ := bind_ok.1 h
          -- the version of the manifest is the one its text was parsed to
          have hreads : formats.semver.Reads version := by
            unfold manifestVersion at hversion
            split at hversion
            · cases hversion
            · rename_i parsed hparsed
              split at hversion
              · cases hversion
              · obtain rfl := Except.ok.inj hversion
                exact ⟨text, hparsed⟩
          split at h
          · cases h
          · obtain ⟨_, -, h⟩ := bind_ok.1 h
            obtain ⟨_, -, h⟩ := bind_ok.1 h
            obtain ⟨_, -, h⟩ := bind_ok.1 h
            split at h
            · cases h
            · obtain ⟨_, -, h⟩ := bind_ok.1 h
              obtain ⟨_, -, h⟩ := bind_ok.1 h
              obtain ⟨_, -, h⟩ := bind_ok.1 h
              obtain rfl := Except.ok.inj h
              exact hreads

/-- Reading the contents of an entry changes the manifest found only to one whose version was
read. -/
theorem inspectContents_ok {formats : ManifestFormats} {root path : Text} {entry : TarEntry}
    {manifest manifest' : Option ReleaseManifest}
    (h : inspectContents formats root path entry manifest = .ok manifest') :
    manifest' = manifest ∨
      ∃ found, manifest' = some found ∧ formats.semver.Reads found.identity.version := by
  unfold inspectContents archiveError at h
  split at h
  · split at h
    · cases h
    · obtain ⟨contents, -, h⟩ := bind_ok.1 h
      split at h
      · cases h
      · cases hparsed : parseManifestDocument formats contents with
        | error error =>
          rw [hparsed] at h
          cases h
        | ok found =>
          rw [hparsed] at h
          exact .inr ⟨found, (Except.ok.inj h).symm, parseManifestDocument_version hparsed⟩
  · split at h
    · obtain ⟨copied, -, h⟩ := bind_ok.1 h
      split at h
      · cases h
      · exact .inl (Except.ok.inj h).symm
    · exact .inl (Except.ok.inj h).symm

/-- One accepted entry. -/
theorem Inspected.step {formats : ManifestFormats} {root : Text}
    {items : List (Except String TarEntry)} {seen seen' : Inspection} {entry : TarEntry}
    (hseen : Inspected formats.semver root items seen)
    (h : inspectEntry formats root seen entry = .ok seen') :
    Inspected formats.semver root (items ++ [.ok entry]) seen' := by
  obtain ⟨⟨path, fact⟩, hheader, h⟩ := bind_ok.1 h
  obtain ⟨total, hadded, h⟩ := bind_ok.1 h
  obtain ⟨manifest, hcontents, h⟩ := bind_ok.1 h
  obtain rfl := Except.ok.inj h
  obtain ⟨hsize, htotal, hlimit⟩ := addExpanded_ok hadded
  obtain ⟨hentry, hnew, hfiles⟩ := inspectHeader_ok hheader hsize
  have hkept := hseen.files
  refine ⟨?_, ?_, ?_, hlimit, ?_, ?_, ?_⟩
  · exact List.rel_append hseen.entries (.cons ⟨entry, rfl, hentry⟩ .nil)
  · simp only [List.map_append, List.map_cons, List.map_nil]
    rw [List.nodup_append]
    refine ⟨hseen.nodup, List.nodup_singleton _, ?_⟩
    intro other hother last hlast heq
    obtain rfl := List.mem_singleton.1 hlast
    exact hnew (heq ▸ hother)
  · simp [htotal, hseen.expanded, hentry.sameSize]
  · simp only [List.filter_append, List.length_append, hseen.regular]
    by_cases hregular : entry.entryType = .regular
    · simp [hentry.entryType, hregular]
    · simp [hentry.entryType, hregular]
  · show seen.regularFiles + _ ≤ _
    omega
  · intro found hfound
    cases inspectContents_ok hcontents with
    | inl hsame => exact hseen.manifest found (hsame ▸ hfound)
    | inr hparsed =>
      obtain ⟨parsed, hparsed, hreads⟩ := hparsed
      obtain rfl := Option.some.inj (hparsed.symm.trans hfound)
      exact hreads

/-- The invariant of the inspection is kept over the remaining entries, by induction on them. -/
theorem Inspected.run {formats : ManifestFormats} {root : Text}
    {done rest : List (Except String TarEntry)} {seen seen' : Inspection}
    (hseen : Inspected formats.semver root done seen)
    (h : inspectEntries formats root done.length seen rest = .ok seen')
    (hdone : done.length ≤ maxArchiveEntries) :
    Inspected formats.semver root (done ++ rest) seen' ∧ (done ++ rest).length ≤ maxArchiveEntries := by
  induction rest generalizing done seen with
  | nil =>
    rw [inspectEntries] at h
    obtain rfl := Except.ok.inj h
    rw [List.append_nil]
    exact ⟨hseen, hdone⟩
  | cons item rest ih =>
    unfold inspectEntries archiveError at h
    split at h
    · cases h
    · rename_i hcount
      split at h
      · cases h
      · rename_i entry
        obtain ⟨next, hentry, h⟩ := bind_ok.1 h
        have hnext := hseen.step hentry
        have hlength : (done ++ [Except.ok entry]).length = done.length + 1 := by simp
        rw [← hlength] at h
        have hrun := ih hnext h (by omega)
        rw [List.append_assoc] at hrun
        exact hrun

/-! ## The plan -/

/-- **An accepted archive.** All entries are accepted, their paths are distinct, the required files
and directories are among them, and no limit is passed. -/
structure ArchiveListing (items : List (Except String TarEntry)) (plan : ArchivePlan) : Prop where
  entries : List.Forall₂ (fun item x => ∃ entry, item = Except.ok entry ∧
    InspectedEntry plan.rootName x.1 entry x.2) items plan.entries
  nodup : (plan.entries.map Prod.fst).Nodup
  files : ∀ file ∈ requiredRelativeFiles, ∃ fact,
    (below plan.rootName file.toList, fact) ∈ plan.entries ∧ fact.entryType = .regular
  directories : ∀ directory ∈ requiredDirectories, ∃ fact,
    (requiredDirectory plan.rootName directory, fact) ∈ plan.entries ∧ fact.entryType = .directory
  count : items.length ≤ maxArchiveEntries
  regular : (plan.entries.filter fun x => x.2.entryType == .regular).length ≤ maxArchiveFiles
  total : (plan.entries.map fun x => x.2.size).sum ≤ maxArchiveExpandedBytes

/-- Where the check of required paths passes, every one of them is present. -/
theorem requirePaths_ok {present paths : List Text} {message : Text → String}
    (h : requirePaths present message paths = .ok ()) : ∀ path ∈ paths, path ∈ present := by
  induction paths with
  | nil => exact fun path hpath => by cases hpath
  | cons path rest ih =>
    unfold requirePaths archiveError at h
    split at h
    · rename_i hpresent
      intro other hother
      cases hother with
      | head => exact hpresent
      | tail _ hother => exact ih h other hother
    · cases h

/-- An archive with the required layout has every required file and directory. -/
theorem validateRequiredLayout_ok {present : List Text} {root : Text}
    (h : validateRequiredLayout present root = .ok ()) :
    (∀ file ∈ requiredRelativeFiles, below root file.toList ∈ present) ∧
      ∀ directory ∈ requiredDirectories, requiredDirectory root directory ∈ present := by
  unfold validateRequiredLayout at h
  generalize hpaths : requiredRelativeFiles.map (fun file => below root file.toList) = paths at h
  generalize hmore : requiredDirectories.map (requiredDirectory root) = more at h
  obtain ⟨_, hfiles, hdirectories⟩ := bind_ok.1 h
  refine ⟨fun file hfile => ?_, fun directory hdirectory => ?_⟩
  · apply requirePaths_ok hfiles
    rw [← hpaths]
    exact List.mem_map.2 ⟨file, hfile, rfl⟩
  · apply requirePaths_ok hdirectories
    rw [← hmore]
    exact List.mem_map.2 ⟨directory, hdirectory, rfl⟩

/-- A related pair of lists relates each right element to a left one. -/
theorem forall₂_of_mem {α β : Type} {R : α → β → Prop} {left : List α} {right : List β}
    (h : List.Forall₂ R left right) {b : β} (hb : b ∈ right) : ∃ a ∈ left, R a b := by
  induction h with
  | nil => cases hb
  | cons hab _ ih =>
    cases hb with
    | head => exact ⟨_, .head _, hab⟩
    | tail _ hb =>
      obtain ⟨a, ha, hrel⟩ := ih hb
      exact ⟨a, .tail _ ha, hrel⟩

/-- What is kept of an entry is about one that was accepted. -/
theorem Inspected.of_mem {semver : Semver} {root : Text} {items : List (Except String TarEntry)}
    {seen : Inspection} (h : Inspected semver root items seen) {x : Text × ArchiveEntryFact}
    (hx : x ∈ seen.validated) :
    ∃ entry, InspectedEntry root x.1 entry x.2 := by
  obtain ⟨_, -, entry, -, hentry⟩ := forall₂_of_mem h.entries hx
  exact ⟨entry, hentry⟩

/-- An accepted manifest is there and has the expected identity. -/
theorem checkManifestOf_ok {manifest : Option ReleaseManifest} {expected : ReleaseIdentity}
    (h : checkManifestOf manifest expected = .ok ()) :
    ∃ found, manifest = some found ∧ found.identity = expected := by
  unfold checkManifestOf at h
  split at h
  · cases h
  · rename_i found
    split at h
    · cases h
    · rename_i hsame
      exact ⟨found, rfl, not_not.1 hsame⟩

/-- A required directory is of the type of a directory. -/
theorem directory_type {root path : Text} {entryType : EntryType} (h : LaidOut root path entryType)
    {directory : String} (hdirectory : directory ∈ requiredDirectories)
    (hpath : path = requiredDirectory root directory) : entryType = .directory := by
  unfold requiredDirectory at hpath
  split at hpath
  · exact h.atRoot hpath
  · rename_i hnonempty
    cases hdirectory with
    | head => exact absurd rfl hnonempty
    | tail _ hdirectory => exact h.atDirectory directory hdirectory hpath

/-- **The first pass accepts nothing but such archives.** -/
theorem inspectArchive_listing {formats : ManifestFormats} {archive : ArchiveFile}
    {archiveName : String} {expected : ReleaseIdentity} {plan : ArchivePlan}
    (h : inspectArchive formats archive archiveName expected = .ok plan) :
    ArchiveListing archive.entries plan ∧ plan.rootName = expectedRoot formats.semver expected ∧
      formats.semver.Reads expected.version := by
  unfold inspectArchive archiveError at h
  dsimp only at h
  generalize expectedRoot formats.semver expected = root at h ⊢
  split at h
  · cases h
  · split at h
    · cases h
    · split at h
      · cases h
      -- the stages of the inspection, in the order of the source
      · obtain ⟨_, -, h⟩ := bind_ok.1 h
        obtain ⟨seen, hseen, h⟩ := bind_ok.1 h
        obtain ⟨_, -, h⟩ := bind_ok.1 h
        obtain ⟨_, hrequired, h⟩ := bind_ok.1 h
        obtain ⟨_, hmanifest, h⟩ := bind_ok.1 h
        obtain rfl := Except.ok.inj h
        -- the loop over the entries keeps the invariant from the empty inspection
        have hstart : Inspected formats.semver root [] {} :=
          ⟨.nil, .nil, rfl, by decide, rfl, by decide, fun manifest h => by cases h⟩
        obtain ⟨hall, hcount⟩ := hstart.run hseen (by decide)
        rw [List.nil_append] at hall hcount
        obtain ⟨hfiles, hdirectories⟩ := validateRequiredLayout_ok hrequired
        refine ⟨⟨hall.entries, hall.nodup, ?_, ?_, hcount, ?_, ?_⟩, rfl, ?_⟩
        · intro file hfile
          obtain ⟨x, hx, hpath⟩ := List.mem_map.1 (hfiles file hfile)
          obtain ⟨entry, hentry⟩ := hall.of_mem hx
          refine ⟨x.2, by rw [← hpath]; exact hx, ?_⟩
          rw [hentry.entryType]
          exact hentry.layout.atFile file hfile hpath
        · intro directory hdirectory
          obtain ⟨x, hx, hpath⟩ := List.mem_map.1 (hdirectories directory hdirectory)
          obtain ⟨entry, hentry⟩ := hall.of_mem hx
          refine ⟨x.2, by rw [← hpath]; exact hx, ?_⟩
          rw [hentry.entryType]
          exact directory_type hentry.layout hdirectory hpath
        · rw [← hall.regular]
          exact hall.files
        · rw [← hall.expanded]
          exact hall.total
        · obtain ⟨found, hfound, hsame⟩ := checkManifestOf_ok hmanifest
          rw [← hsame]
          exact hall.manifest found hfound

end LgBuddy
