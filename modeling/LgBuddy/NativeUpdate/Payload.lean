import LgBuddy.Release.ArchiveSafety
import LgBuddy.Release.EmbeddedSafety
import Mathlib.Data.Finset.Card

/-!
# LgBuddy — the payload of a native package

`verify_data` of `native_package.rs`: the files that a Debian or RPM package would install, as
`dpkg-deb` or `rpm2archive` decodes them.

* `verifyData` — every entry, and then that both binaries were among them;
* `normalizeArchivePath_iff` — which names are read as which paths;
* `SafeEntry`, `InstallsAt`, `ReleaseBinary` — what one entry has to be;
* `verify_data_iff` — the payloads that are accepted.
-/

namespace LgBuddy

namespace NativePackage

open Str
open Fallible (fail bind_ok mapError_ok)

/-! ## The code -/

/-- `?` on an error of the archive or of reading. -/
def orFail {α : Type} (x : Except BundleAcquisitionError α) : Fallible BundleAcquisitionError α :=
  x.mapError .error

def runtimePath : Text := "usr/bin/lg-buddy".toList

def guiPath : Text := "usr/bin/lg-buddy-gui".toList

def configPath : Text := "usr/lib/lg-buddy/config-path".toList

/-- The type, the owners and the mode of an entry. -/
def checkHeader (entry : TarEntry) : Except BundleAcquisitionError Nat := do
  let refused := archiveError "Native payload has unsafe types, owners or modes"
  let mode ← entry.mode.mapError .archive
  if ¬ (entry.entryType = .regular ∨ entry.entryType = .directory) then refused
  else do
    let uid ← entry.uid.mapError .archive
    if uid ≠ 0 then refused
    else do
      let gid ← entry.gid.mapError .archive
      if gid ≠ 0 ∨ ¬ (mode = 0o644 ∨ mode = 0o755)
          ∨ entry.entryType = .directory ∧ mode ≠ 0o755 then
        refused
      else .ok mode

/-- `strip_prefix(b"./")`. -/
def payloadName (entry : TarEntry) : List UInt8 :=
  let current : List UInt8 := [0x2e, 0x2f]
  if current.isPrefixOf entry.pathBytes then entry.pathBytes.drop current.length
  else entry.pathBytes

/-- The entry for the root directory. -/
def isRoot (entry : TarEntry) : Prop := payloadName entry = [] ∨ payloadName entry = [0x2e]

instance (entry : TarEntry) : Decidable (isRoot entry) :=
  inferInstanceAs (Decidable (_ ∨ _))

/-- The paths so far, and the binaries among them. -/
structure PayloadSeen where
  seen : Finset Text := ∅
  binaries : Finset Text := ∅
  deriving DecidableEq

/-- The identity that a binary has to have. -/
def binaryIdentity (expected : ReleaseIdentity) (path : Text) : ReleaseIdentity :=
  if "-gui".toList.isSuffixOf path then expected.gui else expected

def verifyBinary (formats : ManifestFormats) (expected : ReleaseIdentity) (path : Text) (mode : Nat)
    (entry : TarEntry) : Fallible BundleAcquisitionError Unit :=
  if entry.entryType ≠ .regular ∨ mode ≠ 0o755 then
    fail (.archive "Native binary must be a regular executable")
  else do
    let bytes ← orFail (entry.readToEnd.mapError .io)
    let identity := binaryIdentity expected path
    let found ← parseEmbeddedBinaryIdentity formats bytes identity.target identity.releaseTag
    if found ≠ identity then
      fail (.binary "Native binary identity disagrees with release")
    else .ok ()

def verifyEntry (formats : ManifestFormats) (expected : ReleaseIdentity) (payload : PayloadSeen)
    (entry : TarEntry) : Fallible BundleAcquisitionError PayloadSeen := do
  let mode ← orFail (checkHeader entry)
  if isRoot entry then
    if entry.entryType = .directory then .ok payload
    else fail (.archive "Native root entry is not a directory")
  else do
    let path ← orFail (normalizeArchivePath (payloadName entry) entry.entryType)
    if maxArchiveEntries ≤ payload.seen.card ∨ path ∈ payload.seen
        ∨ ¬ (path = "usr".toList ∨ "usr/".toList.isPrefixOf path) ∨ path = configPath
        ∨ maxArchiveFileBytes < entry.size then
      fail (.archive s!"unsafe Native payload entry: {String.ofList path}")
    else
      let seen := insert path payload.seen
      if path = runtimePath ∨ path = guiPath then do
        verifyBinary formats expected path mode entry
        .ok ⟨seen, insert path payload.binaries⟩
      else .ok ⟨seen, payload.binaries⟩

def verifyEntries (formats : ManifestFormats) (expected : ReleaseIdentity) (payload : PayloadSeen) :
    List (Except String TarEntry) → Fallible BundleAcquisitionError PayloadSeen
  | [] => .ok payload
  | .error source :: _ => fail (.archive source)
  | .ok entry :: rest => do
    let payload ← verifyEntry formats expected payload entry
    verifyEntries formats expected payload rest

/-- `verify_data`, with the entries of the archive. -/
def verifyData (formats : ManifestFormats) (expected : ReleaseIdentity)
    (entries : List (Except String TarEntry)) : Fallible BundleAcquisitionError (Finset Text) := do
  let payload ← verifyEntries formats expected {} entries
  if payload.binaries.card ≠ 2 then
    fail (.archive "Native package must contain both release binaries")
  else .ok payload.seen

/-! ## Names and paths -/

/-- No character but NUL has a byte that is zero. -/
theorem nul_mem_of_zero_mem {text : Text} (h : 0 ∈ utf8Bytes text) : Char.ofNat 0 ∈ text := by
  obtain ⟨c, hc, hzero⟩ := List.mem_flatMap.1 h
  have hbyte : ∀ n, 0 = UInt8.ofNat n → n % 256 = 0 := by
    intro n hn
    have hnat := congrArg UInt8.toNat hn
    simpa using hnat.symm
  have hval : c.val.toNat = 0 := by
    unfold String.utf8EncodeChar at hzero
    simp only [] at hzero
    split at hzero
    · have := hbyte _ (List.mem_singleton.1 hzero)
      omega
    · -- every byte of the longer forms has its first bit set
      exfalso
      split at hzero
      · simp only [List.mem_cons, List.not_mem_nil, or_false] at hzero
        rcases hzero with hzero | hzero
        all_goals
          have := hbyte _ hzero
          omega
      · split at hzero
        all_goals
          simp only [List.mem_cons, List.not_mem_nil, or_false] at hzero
        · rcases hzero with hzero | hzero | hzero
          all_goals
            have := hbyte _ hzero
            omega
        · rcases hzero with hzero | hzero | hzero | hzero
          all_goals
            have := hbyte _ hzero
            omega
  have hnul : c = Char.ofNat 0 := Char.ext (UInt32.toNat_inj.1 hval)
  rwa [← hnul]

theorem NormalPath.getLast {path : Text} (h : NormalPath path) : path.getLast? ≠ some '/' := by
  intro hlast
  obtain ⟨front, rfl⟩ := List.getLast?_eq_some_iff.1 hlast
  have hbelow : NormalPath (below front []) := h
  exact hbelow.of_below.2.ne_nil rfl

/-- **The names that are read as a path.** -/
theorem normalizeArchivePath_iff {bytes : List UInt8} {entryType : EntryType} {path : Text} :
    normalizeArchivePath bytes entryType = .ok path ↔
      NormalPath path ∧ bytes.length ≤ maxArchivePathBytes ∧
        (utf8Bytes path = bytes ∨ utf8Bytes (path ++ ['/']) = bytes ∧ entryType = .directory) := by
  refine ⟨normalizeArchivePath_ok, ?_⟩
  rintro ⟨hpath, hlength, hbytes⟩
  have hlast := NormalPath.getLast hpath
  -- the text of the bytes, and what is left of it without a slash at its end
  obtain ⟨text, htext, htail, hslash⟩ : ∃ text, utf8Bytes text = bytes
      ∧ (stripSuffix ['/'] text).getD text = path
      ∧ ¬ (text.getLast? = some '/' ∧ entryType ≠ .directory) := by
    rcases hbytes with hbytes | ⟨hbytes, hdirectory⟩
    · refine ⟨path, hbytes, ?_, fun hslash => hlast hslash.1⟩
      have hnone : stripSuffix ['/'] path = none := by
        cases hstrip : stripSuffix ['/'] path with
        | none => rfl
        | some rest =>
          rw [stripSuffix_eq_some.1 hstrip] at hlast
          exact absurd (List.getLast?_concat ..) hlast
      rw [hnone]
      rfl
    · refine ⟨path ++ ['/'], hbytes, ?_, fun hslash => hslash.2 hdirectory⟩
      have hsome : stripSuffix ['/'] (path ++ ['/']) = some path := stripSuffix_eq_some.2 rfl
      rw [hsome]
      rfl
  have hnul : 0 ∉ bytes := by
    rw [← htext]
    intro hzero
    have hmem := nul_mem_of_zero_mem hzero
    cases hstrip : stripSuffix ['/'] text with
    | none =>
      rw [hstrip] at htail
      exact hpath.nul (htail ▸ hmem)
    | some rest =>
      rw [hstrip] at htail
      obtain rfl : rest = path := htail
      rw [stripSuffix_eq_some.1 hstrip, List.mem_append] at hmem
      rcases hmem with hmem | hmem
      · exact hpath.nul hmem
      · revert hmem
        decide
  unfold normalizeArchivePath
  rw [if_neg (by omega), if_neg hnul, fromUtf8_eq_some.2 htext]
  dsimp only
  rw [if_neg hslash, htail, if_neg]
  rintro (hnil | hhead | hbackslash | ⟨part, hpart, hdots⟩)
  · exact hpath.ne_nil hnil
  · exact hpath.head hhead
  · exact hpath.backslash hbackslash
  · obtain ⟨hempty, hdot, htwo⟩ := hpath.parts part hpart
    rcases hdots with hdots | hdots | hdots
    · exact hempty hdots
    · exact hdot hdots
    · exact htwo hdots

/-! ## One entry -/

/-- Owned by root, and writable by nobody else: a file, or a directory that all may enter. -/
structure SafeEntry (entry : TarEntry) (mode : Nat) : Prop where
  declared : entry.mode = .ok mode
  uid : entry.uid = .ok 0
  gid : entry.gid = .ok 0
  kind : entry.entryType = .regular ∧ (mode = 0o644 ∨ mode = 0o755)
    ∨ entry.entryType = .directory ∧ mode = 0o755

theorem checkHeader_ok {entry : TarEntry} {mode : Nat} :
    checkHeader entry = .ok mode ↔ SafeEntry entry mode := by
  unfold checkHeader archiveError
  constructor
  · intro h
    obtain ⟨found, hmode, h⟩ := bind_ok.1 h
    split at h
    · cases h
    · rename_i hkind
      obtain ⟨uid, huid, h⟩ := bind_ok.1 h
      split at h
      · cases h
      · rename_i hroot
        obtain ⟨gid, hgid, h⟩ := bind_ok.1 h
        split at h
        · cases h
        · rename_i hrest
          obtain rfl := Except.ok.inj h
          simp only [not_not, ne_eq] at hkind hroot
          simp only [not_or, not_not, not_and, ne_eq] at hrest
          obtain ⟨rfl, hmodes, hdirectory⟩ := hrest
          subst hroot
          refine ⟨mapError_ok.1 hmode, mapError_ok.1 huid, mapError_ok.1 hgid, ?_⟩
          cases hkind with
          | inl hregular => exact .inl ⟨hregular, Decidable.or_iff_not_imp_left.2 hmodes⟩
          | inr hdir => exact .inr ⟨hdir, hdirectory hdir⟩
  · intro h
    rw [h.declared, h.uid, h.gid]
    rcases h.kind with ⟨hregular, hmode | hmode⟩ | ⟨hdirectory, hmode⟩
    · simp [hregular, hmode, Except.mapError, bind, Except.bind]
    · simp [hregular, hmode, Except.mapError, bind, Except.bind]
    · simp [hdirectory, hmode, Except.mapError, bind, Except.bind]

/-- Where an entry is installed. -/
structure InstallsAt (entry : TarEntry) (path : Text) : Prop where
  normal : NormalPath path
  name : utf8Bytes path = payloadName entry
    ∨ utf8Bytes (path ++ ['/']) = payloadName entry ∧ entry.entryType = .directory
  length : (payloadName entry).length ≤ maxArchivePathBytes
  usr : path = "usr".toList ∨ ∃ rest, path = below "usr".toList rest
  config : path ≠ configPath
  size : entry.size ≤ maxArchiveFileBytes

/-- An executable file that is the binary of the release at this path. -/
structure ReleaseBinary (formats : ManifestFormats) (expected : ReleaseIdentity) (path : Text)
    (mode : Nat) (entry : TarEntry) : Prop where
  regular : entry.entryType = .regular
  executable : mode = 0o755
  identity : ∃ bytes, entry.readToEnd = .ok bytes
    ∧ EmbeddedIdentity formats bytes (binaryIdentity expected path).target
      (binaryIdentity expected path).releaseTag (binaryIdentity expected path)

theorem orFail_ok {α : Type} {x : Except BundleAcquisitionError α} {a : α} :
    orFail x = .ok a ↔ x = .ok a := mapError_ok

variable {formats : ManifestFormats} {expected : ReleaseIdentity}

theorem verifyBinary_ok {path : Text} {mode : Nat} {entry : TarEntry} :
    verifyBinary formats expected path mode entry = .ok () ↔
      ReleaseBinary formats expected path mode entry := by
  unfold verifyBinary
  constructor
  · intro h
    split at h
    · cases h
    · rename_i hfile
      obtain ⟨bytes, hbytes, h⟩ := bind_ok.1 h
      obtain ⟨found, hfound, h⟩ := bind_ok.1 h
      split at h
      · cases h
      · rename_i hsame
        simp only [not_or, not_not, ne_eq] at hfile hsame
        subst hsame
        exact ⟨hfile.1, hfile.2, bytes, mapError_ok.1 (orFail_ok.1 hbytes),
          parseEmbeddedBinaryIdentity_ok.1 hfound⟩
  · rintro ⟨hregular, hmode, bytes, hbytes, hidentity⟩
    rw [if_neg (by simp [hregular, hmode])]
    refine bind_ok.2 ⟨bytes, orFail_ok.2 (mapError_ok.2 hbytes), ?_⟩
    exact bind_ok.2 ⟨_, parseEmbeddedBinaryIdentity_ok.2 hidentity, if_neg (not_not.2 rfl)⟩

/-! ## The entries -/

def binaryPaths : Finset Text := {runtimePath, guiPath}

/-- The payload with one more path. -/
def PayloadSeen.add (payload : PayloadSeen) (path : Text) : PayloadSeen where
  seen := insert path payload.seen
  binaries := if path ∈ binaryPaths then insert path payload.binaries else payload.binaries

theorem below_usr_iff {path : Text} :
    "usr/".toList.isPrefixOf path = true ↔ ∃ rest, path = below "usr".toList rest := by
  rw [List.isPrefixOf_iff_prefix]
  constructor
  · rintro ⟨rest, rfl⟩
    exact ⟨rest, rfl⟩
  · rintro ⟨rest, rfl⟩
    exact ⟨rest, rfl⟩

theorem verifyEntry_ok {payload payload' : PayloadSeen} {entry : TarEntry} :
    verifyEntry formats expected payload entry = .ok payload' ↔
      ∃ mode, SafeEntry entry mode ∧
        (isRoot entry ∧ entry.entryType = .directory ∧ payload' = payload ∨
          ¬ isRoot entry ∧ ∃ path, InstallsAt entry path ∧ payload.seen.card < maxArchiveEntries
            ∧ path ∉ payload.seen
            ∧ (path ∈ binaryPaths → ReleaseBinary formats expected path mode entry)
            ∧ payload' = payload.add path) := by
  have hbinary : ∀ path : Text, path ∈ binaryPaths ↔ path = runtimePath ∨ path = guiPath := by
    intro path
    simp [binaryPaths]
  unfold verifyEntry
  constructor
  · intro h
    obtain ⟨mode, hheader, h⟩ := bind_ok.1 h
    refine ⟨mode, checkHeader_ok.1 (orFail_ok.1 hheader), ?_⟩
    split at h
    -- the root of the archive adds nothing to what was seen
    · rename_i hroot
      split at h
      · rename_i hdirectory
        exact .inl ⟨hroot, hdirectory, (Except.ok.inj h).symm⟩
      · cases h
    · rename_i hroot
      obtain ⟨path, hpath, h⟩ := bind_ok.1 h
      obtain ⟨hnormal, hlength, hname⟩ := normalizeArchivePath_iff.1 (orFail_ok.1 hpath)
      split at h
      · cases h
      · rename_i hsafe
        rw [below_usr_iff] at hsafe
        push Not at hsafe
        -- the five tests of the path, in the order of the source
        obtain ⟨hcard, hnew, husr, hconfig, hsize⟩ := hsafe
        refine .inr ⟨hroot, path, ⟨hnormal, hname, hlength, husr, hconfig, hsize⟩, hcard, hnew, ?_⟩
        split at h
        · rename_i hmem
          obtain ⟨_, hverified, h⟩ := bind_ok.1 h
          refine ⟨fun _ => verifyBinary_ok.1 hverified, ?_⟩
          rw [PayloadSeen.add, if_pos ((hbinary path).2 hmem)]
          exact (Except.ok.inj h).symm
        · rename_i hmem
          refine ⟨fun hpath => absurd ((hbinary path).1 hpath) hmem, ?_⟩
          rw [PayloadSeen.add, if_neg fun hpath => hmem ((hbinary path).1 hpath)]
          exact (Except.ok.inj h).symm
  · rintro ⟨mode, hsafe, hentry⟩
    refine bind_ok.2 ⟨mode, orFail_ok.2 (checkHeader_ok.2 hsafe), ?_⟩
    rcases hentry with ⟨hroot, hdirectory, rfl⟩ | ⟨hroot, path, hpath, hcard, hnew, hverified, rfl⟩
    · rw [if_pos hroot, if_pos hdirectory]
    · rw [if_neg hroot]
      refine bind_ok.2 ⟨path, orFail_ok.2 (normalizeArchivePath_iff.2
        ⟨hpath.normal, hpath.length, hpath.name⟩), ?_⟩
      rw [if_neg]
      · split
        · rename_i hmem
          have hmem := (hbinary path).2 hmem
          refine bind_ok.2 ⟨(), verifyBinary_ok.2 (hverified hmem), ?_⟩
          rw [PayloadSeen.add, if_pos hmem]
        · rename_i hmem
          rw [PayloadSeen.add, if_neg fun hpath => hmem ((hbinary path).1 hpath)]
      · rw [below_usr_iff]
        push Not
        exact ⟨hcard, hnew, hpath.usr, hpath.config, hpath.size⟩

/-- What the entries of a payload install, in their order. -/
inductive Installs (formats : ManifestFormats) (expected : ReleaseIdentity) :
    List (Except String TarEntry) → List Text → Prop
  | nil : Installs formats expected [] []
  | root {mode : Nat} {entry : TarEntry} {rest : List (Except String TarEntry)} {paths : List Text}
      (hsafe : SafeEntry entry mode) (hroot : isRoot entry)
      (hdirectory : entry.entryType = .directory)
      (hrest : Installs formats expected rest paths) :
      Installs formats expected (.ok entry :: rest) paths
  | file {mode : Nat} {entry : TarEntry} {path : Text} {rest : List (Except String TarEntry)}
      {paths : List Text} (hsafe : SafeEntry entry mode) (hroot : ¬ isRoot entry)
      (hpath : InstallsAt entry path)
      (hbinary : path ∈ binaryPaths → ReleaseBinary formats expected path mode entry)
      (hrest : Installs formats expected rest paths) :
      Installs formats expected (.ok entry :: rest) (path :: paths)

/-- The payload with these paths behind it. -/
def PayloadSeen.addAll (payload : PayloadSeen) (paths : List Text) : PayloadSeen :=
  paths.foldl PayloadSeen.add payload

/-- The paths are new, and there is room for them. -/
structure Fits (payload : PayloadSeen) (paths : List Text) : Prop where
  nodup : paths.Nodup
  fresh : ∀ path ∈ paths, path ∉ payload.seen
  room : payload.seen.card + paths.length ≤ maxArchiveEntries

theorem fits_cons {payload : PayloadSeen} {path : Text} {paths : List Text} :
    Fits payload (path :: paths) ↔
      payload.seen.card < maxArchiveEntries ∧ path ∉ payload.seen
        ∧ Fits (payload.add path) paths := by
  constructor
  · intro h
    have hpath : path ∉ payload.seen := h.fresh path (.head _)
    obtain ⟨hother, hnodup⟩ := List.nodup_cons.1 h.nodup
    have hroom := h.room
    rw [List.length_cons] at hroom
    refine ⟨by omega, hpath, hnodup, fun later hlater => ?_, ?_⟩
    · show later ∉ insert path payload.seen
      rw [Finset.mem_insert, not_or]
      exact ⟨fun hsame => hother (hsame ▸ hlater), h.fresh later (.tail _ hlater)⟩
    · show (insert path payload.seen).card + paths.length ≤ maxArchiveEntries
      rw [Finset.card_insert_of_notMem hpath]
      omega
  · rintro ⟨hcard, hpath, hnodup, hfresh, hroom⟩
    replace hroom : (insert path payload.seen).card + paths.length ≤ maxArchiveEntries := hroom
    rw [Finset.card_insert_of_notMem hpath] at hroom
    refine ⟨List.nodup_cons.2 ⟨fun hmem => ?_, hnodup⟩, ?_, ?_⟩
    · exact hfresh path hmem (Finset.mem_insert_self _ _)
    · intro later hlater
      cases hlater with
      | head => exact hpath
      | tail _ hlater => exact fun hmem => hfresh later hlater (Finset.mem_insert_of_mem hmem)
    · rw [List.length_cons]
      omega

/-- By induction on the entries; the payload is what came before. -/
theorem verifyEntries_ok {payload payload' : PayloadSeen} {entries : List (Except String TarEntry)}
    (hcard : payload.seen.card ≤ maxArchiveEntries) :
    verifyEntries formats expected payload entries = .ok payload' ↔
      ∃ paths, Installs formats expected entries paths ∧ Fits payload paths
        ∧ payload' = payload.addAll paths := by
  induction entries generalizing payload with
  | nil =>
    constructor
    · intro h
      refine ⟨[], .nil, ⟨List.nodup_nil, List.forall_mem_nil _, hcard⟩, ?_⟩
      exact (Except.ok.inj h).symm
    · rintro ⟨paths, hinstalls, -, rfl⟩
      cases hinstalls
      rfl
  | cons item rest ih =>
    cases item with
    -- an unreadable entry is rejected, and installs nothing
    | error source =>
      constructor
      · intro h
        cases h
      · rintro ⟨paths, hinstalls, -⟩
        cases hinstalls
    | ok entry =>
      rw [verifyEntries, bind_ok]
      constructor
      · rintro ⟨next, hentry, hrest⟩
        obtain ⟨mode, hsafe, hcases⟩ := verifyEntry_ok.1 hentry
        rcases hcases with ⟨hroot, hdirectory, rfl⟩
          | ⟨hroot, path, hpath, hroom, hnew, hbinary, rfl⟩
        · obtain ⟨paths, hinstalls, hfits, rfl⟩ := (ih hcard).1 hrest
          exact ⟨paths, .root hsafe hroot hdirectory hinstalls, hfits, rfl⟩
        -- a new path keeps the number of paths within the limit
        · have hcard' : (payload.add path).seen.card ≤ maxArchiveEntries := by
            show (insert path payload.seen).card ≤ maxArchiveEntries
            rw [Finset.card_insert_of_notMem hnew]
            omega
          obtain ⟨paths, hinstalls, hfits, rfl⟩ := (ih hcard').1 hrest
          exact ⟨path :: paths, .file hsafe hroot hpath hbinary hinstalls,
            fits_cons.2 ⟨hroom, hnew, hfits⟩, rfl⟩
      · rintro ⟨paths, hinstalls, hfits, rfl⟩
        cases hinstalls with
        | root hsafe hroot hdirectory hinstalls =>
          exact ⟨payload, verifyEntry_ok.2 ⟨_, hsafe, .inl ⟨hroot, hdirectory, rfl⟩⟩,
            (ih hcard).2 ⟨paths, hinstalls, hfits, rfl⟩⟩
        | file hsafe hroot hpath hbinary hinstalls =>
          rename_i mode path paths
          obtain ⟨hroom, hnew, hfits⟩ := fits_cons.1 hfits
          have hcard' : (payload.add path).seen.card ≤ maxArchiveEntries := by
            have := hfits.room
            omega
          exact ⟨payload.add path, verifyEntry_ok.2
            ⟨mode, hsafe, .inr ⟨hroot, path, hpath, hroom, hnew, hbinary, rfl⟩⟩,
            (ih hcard').2 ⟨paths, hinstalls, hfits, rfl⟩⟩

theorem addAll_seen (payload : PayloadSeen) (paths : List Text) :
    (payload.addAll paths).seen = payload.seen ∪ paths.toFinset := by
  induction paths generalizing payload with
  | nil => simp [PayloadSeen.addAll]
  | cons path paths ih =>
    have hadd : (payload.addAll (path :: paths)).seen
        = ((payload.add path).addAll paths).seen := rfl
    rw [hadd, ih, List.toFinset_cons]
    show insert path payload.seen ∪ _ = _
    rw [Finset.insert_union, Finset.union_insert]

/-- The binaries are kept apart from the other paths. -/
theorem addAll_binaries {payload : PayloadSeen} (paths : List Text)
    (h : payload.binaries = payload.seen ∩ binaryPaths) :
    (payload.addAll paths).binaries = (payload.addAll paths).seen ∩ binaryPaths := by
  induction paths generalizing payload with
  | nil => exact h
  | cons path paths ih =>
    have hadd : (payload.add path).binaries = (payload.add path).seen ∩ binaryPaths := by
      show (if path ∈ binaryPaths then _ else _) = insert path payload.seen ∩ binaryPaths
      split
      · rename_i hmem
        rw [h, Finset.insert_inter_of_mem hmem]
      · rename_i hmem
        rw [h, Finset.insert_inter_of_notMem hmem]
    exact ih hadd

/-! ## The payload -/

/-- **An accepted payload.** Every entry is root's and below `usr`, no path comes twice, and both
binaries of the release are there. -/
structure SoundPayload (formats : ManifestFormats) (expected : ReleaseIdentity)
    (entries : List (Except String TarEntry)) (paths : List Text) : Prop where
  installs : Installs formats expected entries paths
  nodup : paths.Nodup
  length : paths.length ≤ maxArchiveEntries
  runtime : runtimePath ∈ paths
  gui : guiPath ∈ paths

theorem card_binaries {seen : Finset Text} :
    (seen ∩ binaryPaths).card = 2 ↔ runtimePath ∈ seen ∧ guiPath ∈ seen := by
  have htwo : binaryPaths.card = 2 := by decide
  constructor
  · intro h
    have hall : seen ∩ binaryPaths = binaryPaths :=
      Finset.eq_of_subset_of_card_le Finset.inter_subset_right (by omega)
    rw [Finset.inter_eq_right] at hall
    exact ⟨hall (by simp [binaryPaths]), hall (by simp [binaryPaths])⟩
  · rintro ⟨hruntime, hgui⟩
    rw [Finset.inter_eq_right.2, htwo]
    intro path hpath
    simp only [binaryPaths, Finset.mem_insert, Finset.mem_singleton] at hpath
    rcases hpath with rfl | rfl
    · exact hruntime
    · exact hgui

/-- **Exactly the sound payloads are accepted**, and the result is the set of their paths. -/
theorem verify_data_iff (formats : ManifestFormats) (expected : ReleaseIdentity)
    (entries : List (Except String TarEntry)) (installed : Finset Text) :
    verifyData formats expected entries = .ok installed ↔
      ∃ paths, SoundPayload formats expected entries paths ∧ installed = paths.toFinset := by
  have hseen : ∀ paths : List Text, (PayloadSeen.addAll {} paths).seen = paths.toFinset := by
    intro paths
    rw [addAll_seen]
    exact Finset.empty_union _
  have hcount : ∀ paths : List Text, (PayloadSeen.addAll {} paths).binaries.card = 2
      ↔ runtimePath ∈ paths ∧ guiPath ∈ paths := by
    intro paths
    rw [addAll_binaries paths rfl, card_binaries, hseen]
    simp only [List.mem_toFinset]
  have hempty : ({} : PayloadSeen).seen.card ≤ maxArchiveEntries := by decide
  unfold verifyData
  rw [bind_ok]
  constructor
  · rintro ⟨payload, hentries, h⟩
    obtain ⟨paths, hinstalls, hfits, rfl⟩ := (verifyEntries_ok hempty).1 hentries
    split at h
    · cases h
    · rename_i htwo
      obtain ⟨hruntime, hgui⟩ := (hcount paths).1 (not_not.1 htwo)
      have hroom := hfits.room
      rw [show ({} : PayloadSeen).seen.card = 0 from rfl] at hroom
      refine ⟨paths, ⟨hinstalls, hfits.nodup, by omega, hruntime, hgui⟩, ?_⟩
      rw [← hseen]
      exact (Except.ok.inj h).symm
  · rintro ⟨paths, hsound, rfl⟩
    refine ⟨PayloadSeen.addAll {} paths, (verifyEntries_ok hempty).2
      ⟨paths, hsound.installs, ⟨hsound.nodup, fun path _ => Finset.notMem_empty path, ?_⟩, rfl⟩, ?_⟩
    · have := hsound.length
      rw [show ({} : PayloadSeen).seen.card = 0 from rfl]
      omega
    · rw [if_neg (not_not.2 ((hcount paths).2 ⟨hsound.runtime, hsound.gui⟩)), hseen]

end NativePackage

end LgBuddy
