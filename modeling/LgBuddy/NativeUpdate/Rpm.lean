import LgBuddy.NativeUpdate.Plan
import LgBuddy.NativeUpdate.Receive
import LgBuddy.Preflight.PackageOwnership
import LgBuddy.Text.Path

/-!
# LgBuddy — the privileged RPM update

`rpm_update.rs`: what is done as root with a release identity and the bytes of a package.

* `RpmCall` — what is asked of the host, of DNF and of the transaction directory;
* `supportedPlatform`, `installedVersion`, `candidatePreflight`, `verifyInstalled` — the checks;
* `run` — receive, store, verify, check signatures, copy, replay, verify again;
* `RpmWorld`, `RpmMoment`, `RpmWorld.answer` — the private directories and how a call goes, where a
  receipt is a run of `receiveWith`.
-/

namespace LgBuddy

namespace RpmUpdate

open Str
open NativePackage (NativeFormats receiveWith writtenTo)

/-! ## The platform -/

def platformGuidance : String :=
  "Automatic RPM updates require Fedora 44 or newer. Upgrade Fedora, or download the matching RPM "
    ++ "and sha256sums.txt from the same LG Buddy release, verify the RPM checksum, and install it "
    ++ "manually with DNF. See the distribution support guide for Fedora 43 instructions."

/-- A value without the quotes around it. -/
def unquoted (value : Text) : Text :=
  let between (quote : Char) : Option Text :=
    (stripPrefix [quote] value).bind (stripSuffix [quote])
  ((between '"').or (between '\'')).getD value

/-- The value of the last line for a key. -/
def osReleaseValue (key osRelease : Text) : Option Text :=
  (lines osRelease).foldl (fun found line =>
    match splitOnce '=' (trim line) with
    | some (name, value) => if name = key then some (unquoted (trim value)) else found
    | none => found) none

def supportedPlatform (osRelease : Text) : Bool :=
  osReleaseValue "ID".toList osRelease = some "fedora".toList
    && (osReleaseValue "VERSION_ID".toList osRelease).any fun version =>
      !version.isEmpty && version.all Char.isDigit
        && Decimal.value version < 2 ^ 32 && 44 ≤ Decimal.value version

/-! ## Calls -/

inductive RpmCall where
  | euid
  /-- The contents of the first `os-release` that is there, unless they are too long. -/
  | osRelease
  | nativePaths
  | owner (path : Text)
  | isFile (path : Text)
  /-- `rpm --query`. -/
  | installedState
  | inputMetadata
  /-- `rpm::receive`, which gives the path of the new package. -/
  | receive (expected : ReleaseIdentity)
  /-- `dnf5 --store`. -/
  | store
  | readPlan
  | symlinkMetadata (path : Text)
  /-- `rpmkeys --checksig`. -/
  | checkSignature (path : Text)
  | createParent (path : Text)
  | copy (path : Text)
  /-- `LG_BUDDY_INSTALL_STATUS=mutation_started`. -/
  | announce
  /-- `dnf5 replay`. -/
  | replay
  /-- `read_embedded_binary_identity`. -/
  | readIdentity (path target tag : String)
  deriving DecidableEq, Repr

/-- Errors are given by their texts. -/
def RpmCall.Answer : RpmCall → Type
  | .euid => Nat
  | .osRelease => Option Text
  | .nativePaths | .store | .checkSignature _ | .createParent _ | .copy _ | .announce =>
    Except String Unit
  | .owner _ => Except PackageDatabaseError PathOwnership
  | .isFile _ => Bool
  | .installedState => Except String Text
  -- whether the input is a regular file, and its length
  | .inputMetadata => Except String (Bool × Nat)
  | .receive _ => Except String Text
  | .readPlan => Except String (List UInt8)
  | .symlinkMetadata _ => Except String Bool
  -- whether DNF succeeded, and its status
  | .replay => Except String (Bool × String)
  | .readIdentity _ _ _ => Except String ReleaseIdentity

abbrev RpmProgram := ExceptT String (Program RpmCall RpmCall.Answer)

def ask (call : RpmCall) : RpmProgram call.Answer := ExceptT.lift (Program.perform call)

/-- `?`. -/
def orThrow {α : Type} : Except String α → RpmProgram α
  | .ok a => pure a
  | .error message => throw message

/-! ## The installed package -/

def automaticUpdatePreflight : RpmProgram Unit := do
  match ← ask .osRelease with
  | some osRelease =>
    if supportedPlatform osRelease then return () else throw platformGuidance
  | none => throw platformGuidance

def runtimePath : Text := "/usr/bin/lg-buddy".toList

def guiPath : Text := "/usr/bin/lg-buddy-gui".toList

def requireOwned (path : Text) : RpmProgram Unit := do
  let refusal :=
    s!"DNF update requires both binaries to belong to the lg-buddy RPM: {String.ofList path}"
  match ← ask (.owner path) with
  | .ok (.owned owner) =>
    if owner.family = .rpm ∧ owner.name = lgBuddyName then return () else throw refusal
  | _ => throw refusal

def requireTool (path : String) : RpmProgram Unit := do
  let isFile : Bool ← ask (.isFile path.toList)
  if isFile then return ()
  else throw s!"Native update tool unavailable: {path}"

def nativeTools : List String :=
  ["/usr/bin/dnf5", "/usr/bin/rpm", "/usr/bin/rpmkeys", "/usr/bin/rpm2archive"]

def unexpectedState : String :=
  "Expected one fully installed lg-buddy RPM with epoch 0, canonical version and architecture "
    ++ "x86_64; inspect its RPM/DNF state"

def parseInstalledState (semver : Semver) (text : Text) : Except String Text :=
  match lines text with
  | [name, epoch, version, arch] =>
    if name = lgBuddyName ∧ epoch = ['0'] ∧ arch = "x86_64".toList
        ∧ (parseNativeVersion semver version).isOk then .ok version
    else .error unexpectedState
  | _ => .error unexpectedState

def installedVersion (semver : Semver) : RpmProgram Text := do
  orThrow (← ask .nativePaths)
  requireOwned runtimePath
  requireOwned guiPath
  nativeTools.forM requireTool
  let state ← orThrow (← ask .installedState)
  orThrow (parseInstalledState semver state)

/-- `>=` of the pairs of a version and a revision. -/
def notNewer (semver : Semver) (target current : Version × Nat) : Bool :=
  (semver.cmp current.1 target.1).then (compare current.2 target.2) ≠ .lt

def targetVersion (semver : Semver) (expected : ReleaseIdentity) : Except String Text :=
  (Rpm.nativeVersion semver expected.version).mapError toString

def candidatePreflight (semver : Semver) (expected : ReleaseIdentity) : RpmProgram Unit := do
  automaticUpdatePreflight
  let current ← installedVersion semver
  let target ← orThrow (targetVersion semver expected)
  let currentVersion ← orThrow (parseNativeVersion semver current)
  let newVersion ← orThrow (parseNativeVersion semver target)
  if notNewer semver newVersion currentVersion then
    throw (s!"Refusing a DNF update from {String.ofList current} to {String.ofList target}; "
      ++ "start a fresh update check")
  else return ()

/-- `verify_release_binary_identity`, and the same for the GUI. -/
def verifyIdentity (path : String) (expected : ReleaseIdentity) : RpmProgram Unit := do
  let observed ← orThrow (← ask (.readIdentity path expected.target expected.releaseTag))
  if observed ≠ expected then
    throw (s!"identity {reprStr observed} does not match verified release identity "
      ++ reprStr expected)
  else return ()

def verifyInstalled (semver : Semver) (expected : ReleaseIdentity) : RpmProgram Unit := do
  let observed ← installedVersion semver
  let target ← orThrow (targetVersion semver expected)
  if observed ≠ target then
    throw s!"DNF installed {String.ofList observed}, expected {String.ofList target}"
  else
    verifyIdentity "/usr/bin/lg-buddy" expected
    verifyIdentity "/usr/bin/lg-buddy-gui" expected.gui

/-! ## The transaction -/

/-- The loop over the packages of the plan that come from repositories. -/
def verifyRepositoryPackages : List Text → RpmProgram Unit
  | [] => pure ()
  | relative :: rest => do
    let isFile ← orThrow (← ask (.symlinkMetadata relative))
    if !isFile then throw "Expected a regular stored repository RPM"
    else
      orThrow ((← ask (.checkSignature relative)).mapError fun e =>
        "Repository RPM signature/digest verification failed before DNF replay; check the "
          ++ s!"system's trusted RPM keys: {e}")
      verifyRepositoryPackages rest

/-- The identity that the arguments name. -/
def releaseArguments (semver : Semver) (arguments : List Text) : Except String ReleaseIdentity :=
  match arguments with
  | [tag, commit] =>
    match (stripPrefix ['v'] tag).map fun text => semver.parse (String.ofList text) with
    | none | some (.error _) => .error "Invalid RPM release tag"
    | some (.ok version) =>
      if tag ≠ 'v' :: (semver.display version).toList ∨ utf8Len commit ≠ 40 ∨ !commit.all isLowerHex then
        .error "Invalid RPM release identity"
      else .ok {
        releaseTag := String.ofList tag
        version
        channel := if version.pre = "" then .stable else .prerelease
        target := releaseTarget
        commit := String.ofList commit }
  | _ => .error "Expected a release tag and full commit identity"

def maxPackageBytes : Nat := 64 * 1024 * 1024

def requireFileName (path : Text) : RpmProgram Text :=
  match UnixPath.fileName (UnixPath.components path) with
  | some name => pure name
  | none => throw "Invalid verified RPM filename"

/-- The stored transaction is looked at; every package from a repository is checked. -/
def checkTransaction (semver : Semver) (decode : List UInt8 → Except String Plan)
    (expected : ReleaseIdentity) (path : Text) : RpmProgram VerifiedPlan := do
  let bytes ← orThrow ((← ask .readPlan).mapError fun e =>
    "DNF did not produce a usable upgrade plan (check version locks and package state): " ++ e)
  let current ← installedVersion semver
  let target ← orThrow (targetVersion semver expected)
  let assetName ← requireFileName path
  let plan ← orThrow (verifyPlan decode bytes current target assetName)
  verifyRepositoryPackages plan.repositoryPackages
  orThrow (← ask (.createParent plan.localPackage))
  return plan

/-- From the verified package to the transaction that is ready for replay. -/
def prepareTransaction (semver : Semver) (decode : List UInt8 → Except String Plan)
    (expected : ReleaseIdentity) (path : Text) : RpmProgram Unit := do
  orThrow (← ask .store)
  let plan ← checkTransaction semver decode expected path
  orThrow (← ask (.copy plan.localPackage))

def replayTransaction : RpmProgram Unit := do
  orThrow (← ask .announce)
  let (success, status) ← orThrow (← ask .replay)
  if !success then
    throw (s!"DNF transaction failed with status {status}; inspect and repair the package state "
      ++ "before retrying")
  else return ()

def run (semver : Semver) (decode : List UInt8 → Except String Plan) (arguments : List Text) :
    RpmProgram Unit := do
  let euid : Nat ← ask .euid
  if euid ≠ 0 then throw "RPM installation requires administrator authorization"
  else
    let expected ← orThrow (releaseArguments semver arguments)
    candidatePreflight semver expected
    let (isFile, length) ← orThrow (← ask .inputMetadata)
    if !isFile ∨ maxPackageBytes < length then
      throw "Expected a bounded regular package file on standard input"
    else
      let path ← orThrow (← ask (.receive expected))
      prepareTransaction semver decode expected path
      candidatePreflight semver expected
      replayTransaction
      verifyInstalled semver expected

/-! ## The private directories -/

/-- What is there that only root can change: the received package, by its path and by what its
receipt has done, and what is read at a path of the transaction directory. -/
structure RpmWorld where
  receipt : Option (Text × List Acquire.AcquireEntry) := none
  files : Text → Option (List UInt8) := fun _ => none

/-- The received package, as its receipt has written it. -/
def RpmWorld.staged (w : RpmWorld) : Option (List UInt8) :=
  w.receipt.map fun receipt => writtenTo receipt.1 receipt.2

/-- The judgments of other programs: what they read in a package, and which bytes are signed by a
key that the host trusts. -/
structure RpmTrust where
  formats : NativeFormats
  signed : List UInt8 → Bool

def RpmTrust.semver (trust : RpmTrust) : Semver := trust.formats.semver

/-- How a call goes, apart from what the world decides. -/
structure RpmMoment where
  answer : (call : RpmCall) → call.Answer
  /-- How the calls of a receipt go. -/
  receipt : Nat → Acquire.AcquireMoment
  /-- What DNF stores, or leaves behind. -/
  stored : Text → Option (List UInt8)
  /-- The paths that lead to the file that is written. -/
  linked : Text → Bool
  /-- What a failed copy leaves. -/
  torn : List UInt8

/-- The world behind a copy to a path. -/
def RpmWorld.written (w : RpmWorld) (m : RpmMoment) (path : Text) (bytes : List UInt8) : RpmWorld :=
  { w with files := fun p => if p = path ∨ m.linked p then some bytes else w.files p }

/-- `rpm::receive`: the result, with the calls that it has made. -/
def receive (trust : RpmTrust) (m : RpmMoment) (expected : ReleaseIdentity) :
    Except (Abrupt BundleAcquisitionError) Text
      × Program.Scene AcquireCall.Answer Acquire.AcquireWorld :=
  Program.Scripted.run Acquire.AcquireWorld.answer m.receipt
    (receiveWith trust.formats .rpm expected).run {}

/-- The text of an error; a panic ends the update as well. -/
def receiptFailure : Abrupt BundleAcquisitionError → String
  | .error error => toString error
  | .panic => "panicked"

def RpmWorld.answer (trust : RpmTrust) (m : RpmMoment) (w : RpmWorld) :
    (call : RpmCall) → call.Answer × RpmWorld
  | .receive expected =>
    match receive trust m expected with
    | (.ok path, scene) => (.ok path, { w with receipt := some (path, scene.log) })
    | (.error error, _) => (.error (receiptFailure error), w)
  | .store => (m.answer .store, { w with files := m.stored })
  | .checkSignature path =>
    if (w.files path).any trust.signed then (m.answer (.checkSignature path), w)
    else (.error "digests SIGNATURES NOT OK", w)
  | .copy path =>
    match m.answer (.copy path), w.staged with
    | .ok (), some bytes => (.ok (), w.written m path bytes)
    | .error message, _ => (.error message, w.written m path m.torn)
    | .ok (), none => (.error "No such file or directory (os error 2)", w)
  | .replay => (m.answer .replay, { w with files := m.stored })
  | call => (m.answer call, w)

end RpmUpdate

end LgBuddy
