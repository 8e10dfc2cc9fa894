import LgBuddy.Machine.Scripted
import LgBuddy.Release.Archive
import LgBuddy.Release.Assets
import LgBuddy.Release.Embedded
import LgBuddy.Text.Replace

/-!
# LgBuddy — acquiring a release bundle

`acquire_release_bundle` of `release_bundle.rs`, from the release that was selected to the bundle
that is unpacked and verified.

* `AcquireCall` — what is asked of GitHub and of the private staging directory;
* `resolveTagCommit`, `fetchReleaseByTag` — the metadata, read again;
* `downloadAsset` — the response is streamed into a file, and counted and hashed on the way;
* `acquireReleaseBundle` — resolve, download, compare, inspect, extract, and read the binaries;
* `AcquireWorld`, `AcquireMoment` — what extraction has done, and how a call goes.
-/

namespace LgBuddy

open Str

/-! ## Calls -/

structure FreshGitHubRelease where
  tagName : String
  htmlUrl : String
  draft : Bool
  prerelease : Bool
  assets : List ReleaseAsset

structure GitObject where
  kind : String
  sha : String
  deriving DecidableEq, Repr

/-- A response with status 200, behind the redirect if there is one. The body is what is read,
piece by piece. -/
structure AssetResponse where
  url : String
  contentLength : Option String
  body : List (Except String (List UInt8))

/-- What one read gives: so many bytes at most, and none at the end. -/
structure Chunk (limit : Nat) where
  bytes : List UInt8
  length_le : bytes.length ≤ limit

/-- A program that decodes a package from its standard input. -/
structure Decoder where
  program : String
  arguments : List String
  deriving DecidableEq, Repr

/-- What a decoder writes, whether reading it fails, and how it ends. -/
structure DecoderOutput where
  bytes : List UInt8
  readError : Option String
  success : Bool

inductive AcquireCall where
  /-- `StagingDirectory::create`, which locks the cache. -/
  | createStaging
  | getRelease (tag : String)
  | getReference (tag : String)
  | getTag (sha : String)
  /-- `asset_response`. -/
  | getAsset (asset : Nat)
  /-- A download, opened with `create_new` and `O_NOFOLLOW`. -/
  | createDownload (path : Text)
  | writeDownload (path : Text) (chunk : List UInt8)
  /-- `flush` and `sync_all`. -/
  | syncDownload (path : Text)
  /-- `pin_download_file`: the file is looked at, and its name removed. -/
  | pin (path : Text)
  | extract (call : ExtractCall)
  /-- A binary is opened, looked at and read. -/
  | readBinary (path : Text)
  /-- One read of a package on the standard input. -/
  | readInput (limit : Nat)
  | flushDownload (path : Text)
  /-- A decoder runs over the bytes of an open file. -/
  | decode (file : List UInt8) (decoder : Decoder)
  deriving DecidableEq, Repr

/-- Errors of the operating system are given by their texts. -/
def AcquireCall.Answer : AcquireCall → Type
  | .createStaging => Except BundleAcquisitionError Text
  | .getRelease _ => Except BundleAcquisitionError FreshGitHubRelease
  | .getReference _ | .getTag _ => Except BundleAcquisitionError GitObject
  | .getAsset _ => Except BundleAcquisitionError AssetResponse
  | .createDownload _ | .writeDownload _ _ | .syncDownload _ | .flushDownload _ | .extract _ =>
    Except String Unit
  | .pin _ => Except BundleAcquisitionError Unit
  | .readBinary _ => Except BundleAcquisitionError (List UInt8)
  | .readInput limit => Except String (Chunk limit)
  | .decode _ _ => Except BundleAcquisitionError DecoderOutput

/-- It ends with an error, or with a panic of the parser of binaries. -/
abbrev AcquireProgram :=
  ExceptT (Abrupt BundleAcquisitionError) (Program AcquireCall AcquireCall.Answer)

namespace Acquire

def ofFallible {α : Type} (x : Fallible BundleAcquisitionError α) : AcquireProgram α :=
  ExceptT.mk (.done x)

/-- `?`. -/
def orFail {α : Type} (x : Except BundleAcquisitionError α) : AcquireProgram α :=
  ofFallible (x.mapError .error)

def failWith {α : Type} (error : BundleAcquisitionError) : AcquireProgram α :=
  ofFallible (.error (.error error))

def ask (call : AcquireCall) : AcquireProgram call.Answer := ExceptT.lift (Program.perform call)

/-! ## Metadata -/

def validGithubTag (tag : String) : Bool :=
  !tag.isEmpty && tag.toList.all fun c => c.isAlphanum || c == '.' || c == '-' || c == '_'

def releaseInfoFromGithubResponse (semver : Semver) (release : FreshGitHubRelease)
    (expectedTag : String) : Except BundleAcquisitionError ReleaseInfo :=
  let versionText := (stripPrefix ['v'] release.tagName.toList).getD release.tagName.toList
  if release.draft ∨ release.tagName ≠ expectedTag then
    .error (.releaseMetadata "fresh GitHub release metadata is draft or has the wrong tag")
  else match semver.parse (String.ofList versionText) with
    | .error error =>
      .error (.releaseMetadata s!"fresh GitHub release tag is not a version: {error}")
    | .ok version => .ok {
        version
        channel := if release.prerelease then .prerelease else .stable
        url := release.htmlUrl
        tagName := release.tagName
        assets := release.assets }

def fetchReleaseByTag (semver : Semver) (selected : ReleaseInfo) :
    AcquireProgram ReleaseInfo :=
  let tag := selected.tagName
  if validGithubTag tag = false then
    failWith (.releaseMetadata s!"tag `{tag}` cannot be used in a GitHub release request")
  else do
    let release ← orFail (← ask (.getRelease tag))
    orFail (releaseInfoFromGithubResponse semver release tag)

def maxTagDepth : Nat := 4

/-- The loop of `peel_tag_object` with so many annotated tags still allowed. -/
def peelTagObject (visited : List String) : Nat → GitObject → AcquireProgram String
  | allowed, object => do
    orFail ((validateCommitSha object.sha).mapError .tagResolution)
    if object.kind = "commit" then return object.sha
    else if object.kind = "tag" then
      match allowed with
      | 0 => failWith (.tagResolution s!"annotated tag chain exceeds depth {maxTagDepth}")
      | allowed + 1 =>
        if object.sha ∈ visited then
          failWith (.tagResolution "annotated tag chain contains a cycle")
        else
          let next ← orFail (← ask (.getTag object.sha))
          peelTagObject (object.sha :: visited) allowed next
    else failWith (.tagResolution s!"tag resolves to unsupported Git object type `{object.kind}`")

def resolveTagCommit (tag : String) : AcquireProgram String :=
  if validGithubTag tag = false then
    failWith (.tagResolution s!"tag `{tag}` cannot be used in a GitHub reference request")
  else do
    let reference ← orFail (← ask (.getReference tag))
    peelTagObject [] maxTagDepth reference

def freshRelease (semver : Semver) (release : ReleaseInfo) : AcquireProgram ReleaseInfo := do
  orFail (validateReleaseIdentity semver release)
  let fresh ← fetchReleaseByTag semver release
  orFail (validateReleaseIdentity semver fresh)
  if fresh.version ≠ release.version ∨ fresh.channel ≠ release.channel
      ∨ fresh.tagName ≠ release.tagName then
    failWith (.releaseMetadata
      "fresh release-by-tag metadata disagrees with the selected release")
  else return fresh

def resolveTagIdentity (release : ReleaseInfo) : AcquireProgram ReleaseIdentity := do
  let commit ← resolveTagCommit release.tagName
  orFail ((validateCommitSha commit).mapError .tagResolution)
  return ⟨release.tagName, release.version, release.channel, releaseTarget, commit⟩

/-- The release and its identity. -/
def resolveRelease (semver : Semver) (release : ReleaseInfo) :
    AcquireProgram (ReleaseInfo × ReleaseIdentity) := do
  let fresh ← freshRelease semver release
  let _ ← orFail (selectReleaseAssets semver fresh)
  let identity ← resolveTagIdentity fresh
  return (fresh, identity)

/-! ## Downloads -/

/-- What is taken from other crates. -/
structure AcquireFormats where
  manifest : ManifestFormats
  /-- The text of a `Utf8Error`. -/
  utf8Error : List UInt8 → String
  /-- SHA-256, in lowercase hexadecimal digits. -/
  sha256 : List UInt8 → String
  /-- The bytes of a pinned file as `flate2` and `tar` read them. -/
  unpack : List UInt8 → ArchiveFile

/-- An open file, which has no name any more once it is pinned, and what was counted. -/
structure DownloadedAsset where
  file : List UInt8
  facts : DownloadFacts

/-- The loop of `stream_response_to_file`: the count, and all that was written. -/
def streamChunks (url : String) (destination : Text) (maxBytes : Nat) (total : Nat)
    (written : List UInt8) : List (Except String (List UInt8)) → AcquireProgram (Nat × List UInt8)
  | [] => pure (total, written)
  | .error message :: _ => failWith (.http url message)
  | .ok chunk :: rest =>
    -- a read of no bytes is the end of the body
    if chunk = [] then pure (total, written)
    else
      let total := min (total + chunk.length) (2 ^ 64 - 1)
      if maxBytes < total then
        failWith (.responseTooLarge s!"response from `{url}`" maxBytes)
      else do
        orFail ((← ask (.writeDownload destination chunk)).mapError .io)
        streamChunks url destination maxBytes total (written ++ chunk) rest

def streamResponseToFile (sha256 : List UInt8 → String) (response : AssetResponse)
    (destination : Text) (maxBytes : Nat) : AcquireProgram DownloadedAsset := do
  orFail ((← ask (.createDownload destination)).mapError .io)
  let (total, written) ← streamChunks response.url destination maxBytes 0 [] response.body
  orFail ((← ask (.syncDownload destination)).mapError .io)
  return ⟨written, ⟨total, sha256 written⟩⟩

/-- The length that a response announces. -/
def checkContentLength (asset : ReleaseAsset) (maxBytes : Nat) (response : AssetResponse) :
    Except BundleAcquisitionError Unit :=
  match response.contentLength with
  | none => .ok ()
  | some text =>
    match readU64 text.toList with
    | none => .error (.http response.url "asset response has an invalid Content-Length")
    | some length =>
      if maxBytes < length then
        .error (.responseTooLarge s!"release asset `{asset.name}`" maxBytes)
      else if length ≠ asset.size then
        .error (.interruptedAsset asset.name asset.size length)
      else .ok ()

def downloadAsset (sha256 : List UInt8 → String) (asset : ReleaseAsset) (destination : Text)
    (maxBytes : Nat) : AcquireProgram DownloadedAsset := do
  let response ← orFail (← ask (.getAsset asset.id))
  orFail (checkContentLength asset maxBytes response)
  streamResponseToFile sha256 response destination maxBytes

/-- The three steps of a download: it is stored, pinned and compared with its metadata. -/
def downloadVerified (sha256 : List UInt8 → String) (asset : ReleaseAsset) (destination : Text)
    (maxBytes : Nat) : AcquireProgram (List UInt8) := do
  let download ← downloadAsset sha256 asset destination maxBytes
  orFail (← ask (.pin destination))
  orFail (verifyDownload asset download.facts)
  return download.file

/-! ## The bundle -/

/-- What is known when the archive has been inspected. -/
structure VerifiedArchive where
  staging : Text
  identity : ReleaseIdentity
  archive : ArchiveFile
  plan : ArchivePlan

/-- All that comes before the first file of the bundle. -/
def verifyArchive (formats : AcquireFormats) (release : ReleaseInfo) :
    AcquireProgram VerifiedArchive := do
  let staging ← orFail (← ask .createStaging)
  let (fresh, expected) ← resolveRelease formats.manifest.semver release
  let selected ← orFail (selectReleaseAssets formats.manifest.semver fresh)
  let checksum ← downloadVerified formats.sha256 selected.checksum
    (joinPath staging checksumAssetName.toList) maxChecksumBytes
  let archive ← downloadVerified formats.sha256 selected.archive
    (joinPath staging selected.archive.name.toList) maxArchiveBytes
  let published ← orFail
    (publishedArchiveDigest formats.utf8Error checksum selected.archive.name)
  let github ← orFail (requiredGithubDigest selected.archive)
  if published ≠ github then
    failWith (.checksum
      s!"archive digest `{published}` does not agree with GitHub digest `{github}`")
  else
    let unpacked := formats.unpack archive
    let plan ← orFail
      (inspectArchive formats.manifest unpacked selected.archive.name expected)
    return ⟨staging, expected, unpacked, plan⟩

def extraction (verified : VerifiedArchive) : AcquireProgram Text :=
  ExceptT.mk (Program.through AcquireCall.extract (fun _ r => r)
    (extractArchive verified.archive verified.staging verified.plan).run
      >>= fun result => .done (result.mapError Abrupt.error))

def readEmbeddedBinaryIdentity (formats : ManifestFormats) (binary : Text)
    (target releaseTag : String) : AcquireProgram ReleaseIdentity := do
  let bytes ← orFail (← ask (.readBinary binary))
  ofFallible (parseEmbeddedBinaryIdentity formats bytes target releaseTag)

/-- A binary is of the identity; `label` begins the text of the error. -/
def checkBinary (formats : ManifestFormats) (label : String) (binary : Text)
    (expected : ReleaseIdentity) : AcquireProgram Unit := do
  let observed ← readEmbeddedBinaryIdentity formats binary expected.target expected.releaseTag
  if observed ≠ expected then
    failWith (.binary (s!"{label} {observed.debug} does not match verified release identity "
      ++ expected.debug))
  else return ()

structure VerifiedReleaseBundle where
  root : Text
  identity : ReleaseIdentity

def acquireReleaseBundle (formats : AcquireFormats) (release : ReleaseInfo) :
    AcquireProgram VerifiedReleaseBundle := do
  let verified ← verifyArchive formats release
  let root ← extraction verified
  checkBinary formats.manifest "identity" (joinPath root "lg-buddy".toList) verified.identity
  checkBinary formats.manifest "GUI identity" (joinPath root guiBundlePath.toList)
    verified.identity.gui
  return ⟨root, verified.identity⟩

/-! ## The world -/

/-- What extraction has done in the staging directory, where nobody else writes. -/
structure AcquireWorld where
  made : List (Program.Exchange ExtractCall fun _ => Except String Unit) := []

/-- A file, as extraction has written it. -/
def AcquireWorld.contents (w : AcquireWorld) (path : Text) : Option (List UInt8) :=
  w.made.foldl (fun found x =>
    match x with
    | ⟨.write written contents, .ok ()⟩ => if written = path then some contents else found
    | _ => found) none

/-- How a call goes, apart from what the world decides. -/
structure AcquireMoment where
  answer : (call : AcquireCall) → call.Answer

def AcquireWorld.answer (m : AcquireMoment) (w : AcquireWorld) :
    (call : AcquireCall) → call.Answer × AcquireWorld
  | .extract call =>
    (m.answer (.extract call), ⟨w.made ++ [⟨call, m.answer (.extract call)⟩]⟩)
  | .readBinary path =>
    match m.answer (.readBinary path), w.contents path with
    | .error error, _ => (.error error, w)
    | .ok _, some bytes => (.ok bytes, w)
    | .ok _, none => (.error (.binary "No such file or directory (os error 2)"), w)
  | call => (m.answer call, w)

end Acquire

end LgBuddy
