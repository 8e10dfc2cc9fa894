import LgBuddy.Machine.Fallible
import LgBuddy.Release.Checksum
import LgBuddy.Release.Manifest

/-!
# LgBuddy — the assets of a release

What `release_bundle.rs` checks of the metadata that GitHub gives for a release.

* `validateReleaseIdentity` — tag, version and channel agree;
* `selectNamedReleaseAssets` — the one asset of a name, and the one checksum file;
* `verifyDownload` — the bytes that came are those the asset announces;
* `SoundAsset`, `Selected`, `Downloaded` — what these checks accept, exactly.
-/

namespace LgBuddy

open Str

/-! ## Names -/

def repositoryOwner : String := "Staphylococcus"

def repositoryName : String := "LG_Buddy"

def githubApiRoot : String := "https://api.github.com"

def releaseArchiveName (semver : Semver) (version : Version) : String :=
  s!"lg-buddy-{semver.display version}-{releaseTarget}.tar.gz"

def expectedApiUrl (asset : ReleaseAsset) : String :=
  s!"{githubApiRoot}/repos/{repositoryOwner}/{repositoryName}/releases/assets/{asset.id}"

def expectedBrowserDownloadUrl (tag name : String) : String :=
  s!"https://github.com/{repositoryOwner}/{repositoryName}/releases/download/{tag}/{name}"

/-! ## The release -/

/-- The channel of a version. -/
def channelOf (version : Version) : UpdateChannel :=
  if version.pre = "" then .stable else .prerelease

def validateReleaseIdentity (semver : Semver) (release : ReleaseInfo) :
    Except BundleAcquisitionError Unit :=
  let expectedTag := s!"v{semver.display release.version}"
  let expectedChannel := channelOf release.version
  if release.tagName ≠ expectedTag then
    .error (.releaseMetadata s!"tag `{release.tagName}` must be `{expectedTag}`")
  else if release.version.build ≠ "" then
    .error (.releaseMetadata "release version must not contain build metadata")
  else if release.channel ≠ expectedChannel then
    .error (.releaseMetadata (s!"version {semver.display release.version} belongs to the "
      ++ s!"{expectedChannel.asStr} channel, not {release.channel.asStr}"))
  else .ok ()

/-- A release that is named by its version. -/
structure WellNamed (semver : Semver) (release : ReleaseInfo) : Prop where
  tagName : release.tagName = s!"v{semver.display release.version}"
  build : release.version.build = ""
  channel : release.channel = .prerelease ↔ release.version.pre ≠ ""

theorem channelOf_eq {channel : UpdateChannel} {version : Version} :
    channel = channelOf version ↔ (channel = .prerelease ↔ version.pre ≠ "") := by
  unfold channelOf
  cases channel with
  | stable => by_cases h : version.pre = "" <;> simp [h]
  | prerelease => by_cases h : version.pre = "" <;> simp [h]

theorem validateReleaseIdentity_ok {semver : Semver} {release : ReleaseInfo} :
    validateReleaseIdentity semver release = .ok () ↔ WellNamed semver release := by
  unfold validateReleaseIdentity
  dsimp only
  constructor
  · intro h
    split at h
    · cases h
    · rename_i htag
      split at h
      · cases h
      · rename_i hbuild
        split at h
        · cases h
        · rename_i hchannel
          exact ⟨not_not.1 htag, not_not.1 hbuild, channelOf_eq.1 (not_not.1 hchannel)⟩
  · rintro ⟨htag, hbuild, hchannel⟩
    rw [if_neg (not_not.2 htag), if_neg (not_not.2 hbuild),
      if_neg (not_not.2 (channelOf_eq.2 hchannel))]

/-! ## One asset -/

def requiredGithubDigest (asset : ReleaseAsset) : Except BundleAcquisitionError String :=
  match asset.digest with
  | none => .error (.digest s!"asset `{asset.name}` has no GitHub digest")
  | some digest =>
    match stripPrefix "sha256:".toList digest.toList with
    | none => .error (.digest s!"asset `{asset.name}` uses unsupported digest `{digest}`")
    | some value => do
      (validateSha256 value).mapError .digest
      .ok (String.ofList value)

def validateAssetMetadata (release : ReleaseInfo) (asset : ReleaseAsset) :
    Except BundleAcquisitionError Unit :=
  if asset.state ≠ "uploaded" then
    .error (.releaseMetadata
      s!"asset `{asset.name}` is in GitHub state `{asset.state}` instead of `uploaded`")
  else if asset.size = 0 then
    .error (.releaseMetadata s!"asset `{asset.name}` has an empty size")
  else do
    let _ ← requiredGithubDigest asset
    if asset.apiUrl ≠ expectedApiUrl asset then
      .error (.releaseMetadata
        s!"asset `{asset.name}` API URL does not belong to the LG Buddy repository")
    else if asset.downloadUrl ≠ expectedBrowserDownloadUrl release.tagName asset.name then
      .error (.releaseMetadata
        s!"asset `{asset.name}` download URL does not belong to the selected LG Buddy release")
    else .ok ()

/-- The digest that GitHub gives. -/
structure GithubDigest (asset : ReleaseAsset) (digest : String) : Prop where
  text : asset.digest = some ("sha256:" ++ digest)
  length : digest.toList.length = 64
  hex : ∀ c ∈ digest.toList, isLowerHex c = true

/-- An asset of this repository, with a size and a digest. -/
structure SoundAsset (release : ReleaseInfo) (asset : ReleaseAsset) : Prop where
  state : asset.state = "uploaded"
  size : asset.size ≠ 0
  digest : ∃ digest, GithubDigest asset digest
  apiUrl : asset.apiUrl = expectedApiUrl asset
  downloadUrl : asset.downloadUrl = expectedBrowserDownloadUrl release.tagName asset.name

theorem requiredGithubDigest_ok {asset : ReleaseAsset} {digest : String} :
    requiredGithubDigest asset = .ok digest ↔ GithubDigest asset digest := by
  unfold requiredGithubDigest
  constructor
  · intro h
    split at h
    · cases h
    · rename_i text htext
      split at h
      · cases h
      · rename_i value hvalue
        obtain ⟨_, hvalid, h⟩ := Fallible.bind_ok.1 h
        obtain rfl := Except.ok.inj h
        obtain ⟨hlength, hhex⟩ := validateSha256_ok.1 (Fallible.mapError_ok.1 hvalid)
        refine ⟨?_, by simpa using hlength, by simpa using hhex⟩
        have hsame : text = "sha256:" ++ String.ofList value := by
          rw [← String.toList_inj]
          simp [stripPrefix_eq_some.1 hvalue]
        rw [htext, hsame]
  · rintro ⟨htext, hlength, hhex⟩
    rw [htext]
    have hvalue : stripPrefix "sha256:".toList ("sha256:" ++ digest).toList
        = some digest.toList := stripPrefix_eq_some.2 (by simp)
    simp only [hvalue]
    rw [validateSha256_ok.2 ⟨hlength, hhex⟩]
    exact congrArg Except.ok String.ofList_toList

theorem GithubDigest.unique {asset : ReleaseAsset} {digest digest' : String}
    (h : GithubDigest asset digest) (h' : GithubDigest asset digest') : digest = digest' := by
  have hboth := requiredGithubDigest_ok.2 h
  rw [requiredGithubDigest_ok.2 h'] at hboth
  exact (Except.ok.inj hboth).symm

theorem validateAssetMetadata_ok {release : ReleaseInfo} {asset : ReleaseAsset} :
    validateAssetMetadata release asset = .ok () ↔ SoundAsset release asset := by
  unfold validateAssetMetadata
  constructor
  · intro h
    split at h
    · cases h
    · rename_i hstate
      split at h
      · cases h
      · rename_i hsize
        obtain ⟨digest, hdigest, h⟩ := Fallible.bind_ok.1 h
        split at h
        · cases h
        · rename_i hapi
          split at h
          · cases h
          · rename_i hdownload
            exact ⟨not_not.1 hstate, hsize, ⟨digest, requiredGithubDigest_ok.1 hdigest⟩,
              not_not.1 hapi, not_not.1 hdownload⟩
  · rintro ⟨hstate, hsize, ⟨digest, hdigest⟩, hapi, hdownload⟩
    rw [if_neg (not_not.2 hstate), if_neg hsize, requiredGithubDigest_ok.2 hdigest]
    exact (if_neg (not_not.2 hapi)).trans (if_neg (not_not.2 hdownload))

/-! ## The two assets of a bundle -/

structure SelectedAssets where
  archive : ReleaseAsset
  checksum : ReleaseAsset

def exactlyOneAsset (name : String) :
    List ReleaseAsset → Except BundleAcquisitionError ReleaseAsset
  | [asset] => .ok asset
  | [] => .error (.releaseMetadata s!"release must contain exactly one `{name}` asset; found none")
  | assets => .error (.releaseMetadata
      s!"release must contain exactly one `{name}` asset; found {assets.length}")

def assetsNamed (release : ReleaseInfo) (name : String) : List ReleaseAsset :=
  release.assets.filter fun asset => asset.name == name

def selectNamedReleaseAssets (release : ReleaseInfo) (archiveName : String) :
    Except BundleAcquisitionError SelectedAssets := do
  let archive ← exactlyOneAsset archiveName (assetsNamed release archiveName)
  let checksum ← exactlyOneAsset checksumAssetName (assetsNamed release checksumAssetName)
  if archive.id = checksum.id then
    .error (.releaseMetadata "archive and checksum assets share the same GitHub asset ID")
  else do
    validateAssetMetadata release archive
    validateAssetMetadata release checksum
    if maxArchiveBytes < archive.size then
      .error (.responseTooLarge s!"release asset `{archive.name}`" maxArchiveBytes)
    else if maxChecksumBytes < checksum.size then
      .error (.responseTooLarge s!"release asset `{checksum.name}`" maxChecksumBytes)
    else .ok ⟨archive, checksum⟩

def selectReleaseAssets (semver : Semver) (release : ReleaseInfo) :
    Except BundleAcquisitionError SelectedAssets :=
  selectNamedReleaseAssets release (releaseArchiveName semver release.version)

/-- The only asset of the name and the only checksum file, both of this repository. -/
structure Selected (release : ReleaseInfo) (archiveName : String) (selected : SelectedAssets) :
    Prop where
  archive : assetsNamed release archiveName = [selected.archive]
  checksum : assetsNamed release checksumAssetName = [selected.checksum]
  distinct : selected.archive.id ≠ selected.checksum.id
  soundArchive : SoundAsset release selected.archive
  soundChecksum : SoundAsset release selected.checksum
  archiveSize : selected.archive.size ≤ maxArchiveBytes
  checksumSize : selected.checksum.size ≤ maxChecksumBytes

theorem exactlyOneAsset_ok {name : String} {assets : List ReleaseAsset} {asset : ReleaseAsset} :
    exactlyOneAsset name assets = .ok asset ↔ assets = [asset] := by
  unfold exactlyOneAsset
  split
  · simp
  · simp
  · rename_i hmany _
    simpa using hmany asset

theorem selectNamedReleaseAssets_ok {release : ReleaseInfo} {archiveName : String}
    {selected : SelectedAssets} :
    selectNamedReleaseAssets release archiveName = .ok selected ↔
      Selected release archiveName selected := by
  unfold selectNamedReleaseAssets
  constructor
  · intro h
    obtain ⟨archive, harchive, h⟩ := Fallible.bind_ok.1 h
    obtain ⟨checksum, hchecksum, h⟩ := Fallible.bind_ok.1 h
    split at h
    · cases h
    · rename_i hdistinct
      obtain ⟨_, hsound, h⟩ := Fallible.bind_ok.1 h
      obtain ⟨_, hsound', h⟩ := Fallible.bind_ok.1 h
      split at h
      · cases h
      · rename_i hsize
        split at h
        · cases h
        · rename_i hsize'
          obtain rfl := Except.ok.inj h
          exact ⟨exactlyOneAsset_ok.1 harchive, exactlyOneAsset_ok.1 hchecksum, hdistinct,
            validateAssetMetadata_ok.1 hsound, validateAssetMetadata_ok.1 hsound',
            not_lt.1 hsize, not_lt.1 hsize'⟩
  · intro h
    rw [exactlyOneAsset_ok.2 h.archive, exactlyOneAsset_ok.2 h.checksum]
    refine (if_neg h.distinct).trans ?_
    rw [validateAssetMetadata_ok.2 h.soundArchive, validateAssetMetadata_ok.2 h.soundChecksum]
    exact (if_neg (not_lt.2 h.archiveSize)).trans (if_neg (not_lt.2 h.checksumSize))

/-- The assets of a name have it. -/
theorem name_of_assetsNamed {release : ReleaseInfo} {name : String} {asset : ReleaseAsset}
    (h : assetsNamed release name = [asset]) : asset.name = name := by
  have hmem : asset ∈ assetsNamed release name := by simp [h]
  simpa using (List.mem_filter.1 hmem).2

/-! ## A download -/

structure DownloadFacts where
  bytes : Nat
  sha256 : String
  deriving DecidableEq, Repr

def verifyDownload (asset : ReleaseAsset) (download : DownloadFacts) :
    Except BundleAcquisitionError Unit :=
  if download.bytes ≠ asset.size then
    .error (.interruptedAsset asset.name asset.size download.bytes)
  else do
    let expected ← requiredGithubDigest asset
    if download.sha256 ≠ expected then
      .error (.digest
        s!"asset `{asset.name}` computed `{download.sha256}`, expected `{expected}`")
    else .ok ()

/-- What came is what the asset announces. -/
structure Downloaded (asset : ReleaseAsset) (download : DownloadFacts) : Prop where
  bytes : download.bytes = asset.size
  digest : GithubDigest asset download.sha256

theorem verifyDownload_ok {asset : ReleaseAsset} {download : DownloadFacts} :
    verifyDownload asset download = .ok () ↔ Downloaded asset download := by
  unfold verifyDownload
  constructor
  · intro h
    split at h
    · cases h
    · rename_i hbytes
      obtain ⟨expected, hexpected, h⟩ := Fallible.bind_ok.1 h
      split at h
      · cases h
      · rename_i hsame
        obtain rfl := not_not.1 hsame
        exact ⟨not_not.1 hbytes, requiredGithubDigest_ok.1 hexpected⟩
  · rintro ⟨hbytes, hdigest⟩
    rw [if_neg (not_not.2 hbytes), requiredGithubDigest_ok.2 hdigest]
    exact if_neg (not_not.2 rfl)

end LgBuddy
