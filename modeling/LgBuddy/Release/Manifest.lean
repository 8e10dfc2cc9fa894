import LgBuddy.Release.Acquisition
import LgBuddy.Text.Json
import LgBuddy.Text.Utf8
import Mathlib.Algebra.Group.Int.Defs

/-!
# LgBuddy — the release manifest

The JSON document of a bundle, and of a binary, that says which release it is.

* `ManifestFormats` — what the parser takes from `serde_json` and `semver`;
* `RawManifest`, `visitMap` — the fields of the document, none twice;
* `parseManifestDocument` — the checks of the fields;
* `parseManifest` — the document in a binary, which names no GUI.
-/

namespace LgBuddy

open Str

/-- What the parser of the manifest takes from other crates. -/
structure ManifestFormats where
  /-- `serde_json` down to the fields of an object, in their order and with those that occur
  twice; everything else is an error, which is given by its text. -/
  fields : List UInt8 → Except String (List (String × Json))
  /-- The text of a value that is not of the type the field has. -/
  invalidType : Json → String
  semver : Semver

/-! ## Fields -/

structure RawManifest where
  schemaVersion : Option Nat := none
  critical : Option (List String) := none
  releaseTag : Option String := none
  version : Option String := none
  channel : Option String := none
  target : Option String := none
  guiTarget : Option String := none
  commit : Option String := none
  deriving DecidableEq, Repr

/-- A `u64`. -/
def Json.asU64 : Json → Option Nat
  | .number (.int n) => if 0 ≤ n ∧ n < 2 ^ 64 then some n.toNat else none
  | _ => none

/-- A `Vec<String>`. -/
def Json.asStrings : Json → Option (List String)
  | .array elements => elements.mapM Json.asStr
  | _ => none

/-- `next_value` at the type of the field; a field that is not known is passed over. -/
def RawManifest.set (manifest : RawManifest) (key : String) (value : Json) :
    Option RawManifest :=
  match key with
  | "schema_version" => value.asU64.map fun n => { manifest with schemaVersion := some n }
  | "critical" => value.asStrings.map fun names => { manifest with critical := some names }
  | "release_tag" => value.asStr.map fun text => { manifest with releaseTag := some text }
  | "version" => value.asStr.map fun text => { manifest with version := some text }
  | "channel" => value.asStr.map fun text => { manifest with channel := some text }
  | "target" => value.asStr.map fun text => { manifest with target := some text }
  | "gui_target" => value.asStr.map fun text => { manifest with guiTarget := some text }
  | "commit" => value.asStr.map fun text => { manifest with commit := some text }
  | _ => some manifest

def visitMap (formats : ManifestFormats) (seen : List String) (manifest : RawManifest) :
    List (String × Json) → Except String RawManifest
  | [] => .ok manifest
  | (key, value) :: rest =>
    if key ∈ seen then .error s!"duplicate manifest field `{key}`"
    else match manifest.set key value with
      | none => .error (formats.invalidType value)
      | some manifest => visitMap formats (key :: seen) manifest rest

/-! ## Checks -/

structure ReleaseManifest where
  identity : ReleaseIdentity
  guiTarget : Option String
  deriving DecidableEq, Repr

def expectedCritical : List String := ["release_tag", "version", "channel", "target", "commit"]

def collectCritical (seen : List String) :
    List String → Except BundleAcquisitionError (List String)
  | [] => .ok seen
  | field :: rest =>
    if field ∈ seen then .error (.manifest s!"critical field `{field}` is duplicated")
    else if field ∉ expectedCritical then
      .error (.manifest s!"unknown critical field `{field}`")
    else collectCritical (field :: seen) rest

def requireCritical (seen : List String) : List String → Except BundleAcquisitionError Unit
  | [] => .ok ()
  | field :: rest =>
    if field ∈ seen then requireCritical seen rest
    else .error (.manifest s!"identity field `{field}` is not marked critical")

def requiredManifestString (value : Option String) (field : String) :
    Except BundleAcquisitionError String :=
  match value.filter fun value => !value.isEmpty with
  | some value => .ok value
  | none => .error (.manifest s!"missing or invalid field `{field}`")

def targetChar (c : Char) : Bool := c.isLower || c.isDigit

def validTarget (target : String) : Bool :=
  match target.toList with
  | [] => false
  | first :: rest =>
    targetChar first && rest.all fun c => targetChar c || c == '_' || c == '.' || c == '-'

def validateCommitSha (sha : String) : Except String Unit :=
  if utf8Len sha.toList ≠ 40 || !sha.toList.all isLowerHex then
    .error s!"`{sha}` is not a full lowercase commit SHA"
  else .ok ()

def manifestVersion (formats : ManifestFormats) (text : String) :
    Except BundleAcquisitionError Version :=
  match formats.semver.parse text with
  | .error error => .error (.manifest s!"invalid version `{text}`: {error}")
  | .ok version =>
    if version.build ≠ "" then .error (.manifest "version must not contain build metadata")
    else .ok version

def manifestChannel (semver : Semver) (text : String) (version : Version) :
    Except BundleAcquisitionError UpdateChannel :=
  if text = "stable" ∧ version.pre = "" then .ok .stable
  else if text = "prerelease" ∧ version.pre ≠ "" then .ok .prerelease
  else if text = "stable" ∨ text = "prerelease" then
    .error (.manifest s!"channel `{text}` disagrees with version `{semver.display version}`")
  else .error (.manifest s!"unsupported channel `{text}`")

def manifestGuiTarget (guiTarget : Option String) (target : String) :
    Except BundleAcquisitionError (Option String) :=
  match guiTarget with
  | some guiTarget =>
    if validTarget guiTarget = false then
      .error (.manifest s!"invalid GUI target `{guiTarget}`")
    else if guiTarget = target then
      .error (.manifest "runtime and GUI targets must be distinct")
    else .ok (some guiTarget)
  | none => .ok none

/-- `{:?}`. -/
def debugNumber : Option Nat → String
  | some n => s!"Some({n})"
  | none => "None"

/-- The checks of `parse_manifest_document` once the document is read. -/
def checkManifest (formats : ManifestFormats) (manifest : RawManifest) :
    Except BundleAcquisitionError ReleaseManifest :=
  if manifest.schemaVersion ≠ some 1 then
    .error (.manifest s!"unsupported schema version {debugNumber manifest.schemaVersion}")
  else match manifest.critical with
    | none => .error (.manifest "manifest has no critical field list")
    | some critical => do
      let seen ← collectCritical [] critical
      requireCritical seen expectedCritical
      let releaseTag ← requiredManifestString manifest.releaseTag "release_tag"
      let versionText ← requiredManifestString manifest.version "version"
      let version ← manifestVersion formats versionText
      if releaseTag ≠ s!"v{formats.semver.display version}" then
        .error (.manifest "release_tag must be exactly v followed by version")
      else do
        let channelText ← requiredManifestString manifest.channel "channel"
        let channel ← manifestChannel formats.semver channelText version
        let target ← requiredManifestString manifest.target "target"
        if validTarget target = false then .error (.manifest s!"invalid target `{target}`")
        else do
          let commit ← requiredManifestString manifest.commit "commit"
          (validateCommitSha commit).mapError .manifest
          let guiTarget ← manifestGuiTarget manifest.guiTarget target
          .ok ⟨⟨releaseTag, version, channel, target, commit⟩, guiTarget⟩

def parseManifestDocument (formats : ManifestFormats) (contents : List UInt8) :
    Except BundleAcquisitionError ReleaseManifest :=
  if contents.length > maxManifestBytes then
    .error (.manifest s!"manifest exceeds the {maxManifestBytes}-byte limit")
  else match (formats.fields contents).bind (visitMap formats [] {}) with
    | .error error => .error (.manifest error)
    | .ok manifest => checkManifest formats manifest

def parseManifest (formats : ManifestFormats) (contents : List UInt8) :
    Except BundleAcquisitionError ReleaseIdentity :=
  match parseManifestDocument formats contents with
  | .error error => .error error
  | .ok manifest =>
    if manifest.guiTarget.isSome then
      .error (.manifest "embedded binary identity must not declare gui_target")
    else .ok manifest.identity

theorem parseManifest_ok {formats : ManifestFormats} {contents : List UInt8}
    {identity : ReleaseIdentity} :
    parseManifest formats contents = .ok identity ↔
      parseManifestDocument formats contents = .ok ⟨identity, none⟩ := by
  unfold parseManifest
  constructor
  · intro h
    split at h
    · cases h
    · rename_i manifest hparsed
      split at h
      · cases h
      · rename_i hgui
        have hnone : manifest.guiTarget = none := by simpa using hgui
        rw [hparsed, ← Except.ok.inj h, ← hnone]
  · intro h
    rw [h]
    rfl

end LgBuddy
