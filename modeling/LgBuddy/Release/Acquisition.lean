import LgBuddy.Release.Identity
import LgBuddy.Text.Str

/-!
# LgBuddy — limits and errors of an acquisition

What the checks of `release_bundle.rs` share.

* the sizes that are accepted, and the names that a release uses;
* `BundleAcquisitionError` — how a check fails.
-/

namespace LgBuddy

/-! ## Limits -/

def maxApiBytes : Nat := 256 * 1024

def maxArchiveBytes : Nat := 64 * 1024 * 1024

def maxChecksumBytes : Nat := 64 * 1024

def maxManifestBytes : Nat := 64 * 1024

def maxArchiveEntries : Nat := 4096

def maxArchiveFiles : Nat := 2048

def maxArchivePathBytes : Nat := 4096

def maxArchiveMetadataBytes : Nat := 64 * 1024

def maxArchiveFileBytes : Nat := 128 * 1024 * 1024

def maxArchiveExpandedBytes : Nat := 256 * 1024 * 1024

def maxArchiveTrailingBytes : Nat := 1024 * 1024

def checksumAssetName : String := "sha256sums.txt"

def manifestName : String := "release-manifest.json"

/-! ## Errors -/

/-- Errors of other crates and of the operating system are given by their texts. -/
inductive BundleAcquisitionError where
  | cachePathUnavailable
  | unsafeStaging (message : String)
  | concurrentAcquisition
  | releaseMetadata (message : String)
  | tagResolution (message : String)
  | http (url message : String)
  | httpStatus (url : String) (status : Nat) (body : String)
  | responseTooLarge (label : String) (maxBytes : Nat)
  | interruptedAsset (name : String) (expected actual : Nat)
  | digest (message : String)
  | checksum (message : String)
  | archive (message : String)
  | manifest (message : String)
  | binary (message : String)
  | io (source : String)
  deriving DecidableEq, Repr

instance : ToString BundleAcquisitionError where
  toString
    | .cachePathUnavailable =>
      "could not resolve release-bundle staging from XDG_CACHE_HOME or HOME"
    | .unsafeStaging message => s!"release-bundle staging is unsafe: {message}"
    | .concurrentAcquisition => "another release-bundle acquisition is already running"
    | .releaseMetadata message => s!"invalid release metadata: {message}"
    | .tagResolution message => s!"could not resolve release tag: {message}"
    | .http url message => s!"request to `{url}` failed: {message}"
    | .httpStatus url status body =>
      let shown := String.ofList (Str.trim body.toList)
      if shown.isEmpty then s!"request to `{url}` returned HTTP status {status}"
      else s!"request to `{url}` returned HTTP status {status}: {shown}"
    | .responseTooLarge label maxBytes => s!"{label} exceeded the {maxBytes}-byte limit"
    | .interruptedAsset name expected actual =>
      s!"release asset `{name}` ended after {actual} bytes; metadata declares {expected}"
    | .digest message => s!"release asset digest check failed: {message}"
    | .checksum message => s!"published checksum check failed: {message}"
    | .archive message => s!"release archive check failed: {message}"
    | .manifest message => s!"release manifest check failed: {message}"
    | .binary message => s!"bundled binary identity check failed: {message}"
    | .io source => s!"release-bundle acquisition failed: {source}"

end LgBuddy
