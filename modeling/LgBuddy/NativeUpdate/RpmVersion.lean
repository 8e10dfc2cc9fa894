import LgBuddy.Machine.Fallible
import LgBuddy.Release.Acquisition
import LgBuddy.Text.Replace
import LgBuddy.Text.SemverGrammar

/-!
# LgBuddy — versions of RPM packages

How a release version is written as the version of an RPM package (`release_bundle/rpm.rs`) and
read back from the version of the installed one (`rpm_update.rs`).

* `Rpm.nativeVersion`, `Rpm.assetName` — the version and the file name of the package;
* `parseNativeVersion` — the version and the revision of an installed package;
* `parse_native_version_iff` — it reads what is written, and nothing else.
-/

namespace LgBuddy

open Str
open Fallible (bind_ok mapError_ok)

/-! ## Writing -/

namespace Rpm

/-- The prereleases that are packaged: `alpha`, `beta` or `rc`, then a number, then `ci`. -/
def validPrerelease (pre : Text) : Bool :=
  pre.isEmpty ||
    match splitAll '.' pre with
    | stage :: rest =>
      (stage == "alpha".toList || stage == "beta".toList || stage == "rc".toList) &&
        match rest with
        | [] => true
        | [number] => !number.isEmpty && number.all Char.isDigit
        | [number, ci] => ci == "ci".toList && !number.isEmpty && number.all Char.isDigit
        | _ => false
    | [] => false

def unsupportedPrerelease : BundleAcquisitionError :=
  .releaseMetadata "RPM prereleases require alpha, beta or rc, optionally .N and then .ci"

/-- The version, without a revision. -/
def versionText (semver : Semver) (version : Version) : Text :=
  replaceFirst '-' '~' (semver.display version).toList

def nativeVersion (semver : Semver) (version : Version) : Except BundleAcquisitionError Text :=
  if version.build ≠ "" ∨ validPrerelease version.pre.toList = false then
    .error unsupportedPrerelease
  else .ok (versionText semver version ++ "-1".toList)

def assetName (semver : Semver) (version : Version) : Except BundleAcquisitionError Text := do
  let packaged ← nativeVersion semver version
  return "lg-buddy-".toList ++ packaged.map (fun c => if c = '~' then '-' else c)
    ++ ".x86_64.rpm".toList

end Rpm

/-! ## Reading -/

namespace RpmUpdate

def parseNativeVersion (semver : Semver) (text : Text) : Except String (Version × Nat) := do
  match rsplitOnce '-' text with
  | none => throw "Malformed RPM version"
  | some (front, revision) =>
    match semver.parse (String.ofList (replaceFirst '~' '-' front)) with
    | .error _ => throw "Malformed RPM version"
    | .ok version =>
      match readU64 revision with
      | none => throw "Malformed RPM revision"
      | some release =>
        if release = 0 ∨ Nat.toDigits 10 release ≠ revision then
          throw "Unsupported RPM version or revision"
        else do
          let native ← (Rpm.nativeVersion semver version).mapError toString
          if native ≠ front ++ "-1".toList then throw "Unsupported RPM version or revision"
          else return (version, release)

/-- A version and a revision that a package can have. -/
structure Packaged (semver : Semver) (version : Version) (release : Nat) : Prop where
  reads : semver.Reads version
  build : version.build = ""
  pre : Rpm.validPrerelease version.pre.toList = true
  release_pos : 0 < release
  release_lt : release < 2 ^ 64

/-- How they are written. -/
def packagedText (semver : Semver) (version : Version) (release : Nat) : Text :=
  Rpm.versionText semver version ++ '-' :: Nat.toDigits 10 release

variable {semver : Semver}

theorem nativeVersion_ok {version : Version} {native : Text} :
    Rpm.nativeVersion semver version = .ok native ↔ version.build = "" ∧
      Rpm.validPrerelease version.pre.toList = true ∧
        native = Rpm.versionText semver version ++ "-1".toList := by
  unfold Rpm.nativeVersion
  split
  · rename_i hbad
    constructor
    · intro h
      cases h
    · rintro ⟨hbuild, hpre, -⟩
      rcases hbad with hbad | hbad
      · exact absurd hbuild hbad
      · rw [hpre] at hbad
        cases hbad
  · rename_i hgood
    rw [not_or, not_not, Bool.not_eq_false] at hgood
    constructor
    · intro h
      exact ⟨hgood.1, hgood.2, (Except.ok.inj h).symm⟩
    · rintro ⟨-, -, rfl⟩
      rfl

/-- The release version is found again behind the tilde. -/
theorem replaceFirst_versionText (hsemver : semver.Lawful) {version : Version}
    (h : semver.Reads version) :
    replaceFirst '~' '-' (Rpm.versionText semver version) = (semver.display version).toList :=
  replaceFirst_replaceFirst (hsemver.notMem_display h (by decide))

/-- What is read can be packaged, and the text is what it is written as. -/
theorem packaged_of_parse {text : Text} {version : Version} {release : Nat}
    (h : parseNativeVersion semver text = .ok (version, release)) :
    Packaged semver version release ∧ text = packagedText semver version release := by
  unfold parseNativeVersion at h
  split at h
  · cases h
  · rename_i front revision hsplit
    split at h
    · cases h
    · rename_i found hparse
      split at h
      · cases h
      · rename_i number hread
        split at h
        · cases h
        · rename_i hrevision
          obtain ⟨native, hnative, h⟩ := bind_ok.1 h
          split at h
          · cases h
          · rename_i hsame
            obtain ⟨rfl, rfl⟩ := Prod.mk.inj (Except.ok.inj h)
            rw [not_or, not_not] at hrevision
            obtain ⟨hbuild, hpre, hwritten⟩ := nativeVersion_ok.1 (mapError_ok.1 hnative)
            have hfront : front = Rpm.versionText semver found := by
              rw [not_not, hwritten] at hsame
              exact (List.append_cancel_right hsame).symm
            refine ⟨⟨⟨_, hparse⟩, hbuild, hpre, Nat.pos_of_ne_zero hrevision.1, readU64_lt hread⟩, ?_⟩
            rw [packagedText, (rsplitOnce_eq_some.1 hsplit).1, hfront, hrevision.2]

/-- What can be packaged is read from what it is written as. -/
theorem parse_packagedText (hsemver : semver.Lawful) {version : Version} {release : Nat}
    (hpackaged : Packaged semver version release) :
    parseNativeVersion semver (packagedText semver version release) = .ok (version, release) := by
  have hdash : '-' ∉ Nat.toDigits 10 release := by
    intro hmem
    have hdigit := (Decimal.canonical_toDigits release).digit '-' hmem
    revert hdigit
    decide
  have hsplit : rsplitOnce '-' (packagedText semver version release)
      = some (Rpm.versionText semver version, Nat.toDigits 10 release) :=
    rsplitOnce_eq_some.2 ⟨rfl, hdash⟩
  have hparse : semver.parse
      (String.ofList (replaceFirst '~' '-' (Rpm.versionText semver version))) = .ok version := by
    rw [replaceFirst_versionText hsemver hpackaged.reads, String.ofList_toList]
    exact hsemver.parse_display hpackaged.reads
  have hnative : Rpm.nativeVersion semver version
      = .ok (Rpm.versionText semver version ++ "-1".toList) :=
    nativeVersion_ok.2 ⟨hpackaged.build, hpackaged.pre, rfl⟩
  have hrevision : ¬ (release = 0 ∨ Nat.toDigits 10 release ≠ Nat.toDigits 10 release) := by
    have hpos := hpackaged.release_pos
    simp only [ne_eq, not_true_eq_false, or_false]
    omega
  unfold parseNativeVersion
  simp only [hsplit, hparse, readU64_toDigits hpackaged.release_lt, if_neg hrevision]
  rw [bind_ok]
  refine ⟨_, mapError_ok.2 hnative, ?_⟩
  rw [if_neg (by simp)]
  rfl

/-- **Reading is the inverse of writing.** A text is read as a version and a revision exactly if
they can be packaged and the text is what they are written as. -/
theorem parse_native_version_iff (hsemver : semver.Lawful) {text : Text} {version : Version}
    {release : Nat} :
    parseNativeVersion semver text = .ok (version, release) ↔
      Packaged semver version release ∧ text = packagedText semver version release := by
  constructor
  · exact packaged_of_parse
  · rintro ⟨hpackaged, rfl⟩
    exact parse_packagedText hsemver hpackaged

/-- A prerelease as it is written, and as it is not. -/
theorem parse_native_version_prerelease :
    parseNativeVersion publishedSemver "2.0.0~beta.3-1".toList
        = .ok (⟨2, 0, 0, "beta.3", ""⟩, 1)
      ∧ parseNativeVersion publishedSemver "2.0.0-beta.3-1".toList
        ≠ .ok (⟨2, 0, 0, "beta.3", ""⟩, 1) := by
  have hreads : publishedSemver.Reads ⟨2, 0, 0, "beta.3", ""⟩ := ⟨"2.0.0-beta.3", by decide +kernel⟩
  have hpackaged : Packaged publishedSemver ⟨2, 0, 0, "beta.3", ""⟩ 1 :=
    ⟨hreads, rfl, by decide, by decide, by decide⟩
  have htext : packagedText publishedSemver ⟨2, 0, 0, "beta.3", ""⟩ 1 = "2.0.0~beta.3-1".toList := by
    decide +kernel
  refine ⟨(parse_native_version_iff publishedSemver_lawful).2 ⟨hpackaged, htext.symm⟩, fun h => ?_⟩
  have hsame := ((parse_native_version_iff publishedSemver_lawful).1 h).2
  rw [htext] at hsame
  revert hsame
  decide

end RpmUpdate

end LgBuddy
