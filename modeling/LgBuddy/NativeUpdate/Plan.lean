import LgBuddy.Text.Cut
import Mathlib.Data.Finset.Basic

/-!
# LgBuddy — the plan of a DNF transaction

`verify_plan` of `rpm_update.rs`: which stored transactions may be replayed.

* `PlanPackage`, `Plan` — the document, as it is decoded;
* `nameArch`, `sourceRepository`, `incomingPath` — what is read from an entry;
* `Scan`, `scanPackage`, `verifyPlan` — the loop over the entries, and the whole.
-/

namespace LgBuddy

namespace RpmUpdate

open Str

structure PlanPackage where
  nevra : Text
  action : Text
  reason : Text
  repoId : Text
  packagePath : Option Text
  deriving DecidableEq, Repr

structure Plan where
  version : Text
  rpms : List PlanPackage
  deriving DecidableEq, Repr

structure VerifiedPlan where
  localPackage : Text
  repositoryPackages : List Text
  deriving DecidableEq, Repr

/-! ## Entries -/

def lgBuddyName : Text := "lg-buddy".toList

def commandline : Text := "@commandline".toList

def systemRepository : Text := "@System".toList

def packagesDirectory : Text := "./packages/".toList

def storedTransaction : Text := "@stored_transaction".toList

def installAction : Text := "Install".toList

def upgradeAction : Text := "Upgrade".toList

def replacedAction : Text := "Replaced".toList

/-- `ok_or(..)?`. -/
def okOr {α : Type} (message : String) : Option α → Except String α
  | some a => .ok a
  | none => .error message

/-- The name and the architecture of a package. -/
def nameArch (nevra : Text) : Option (Text × Text) := do
  let (nvr, arch) ← rsplitOnce '.' nevra
  let (nv, _) ← rsplitOnce '-' nvr
  let (name, _) ← rsplitOnce '-' nv
  if name = [] ∨ arch = [] then none else some (name, arch)

def malformedRepository : String := "Malformed stored DNF repository"

/-- The repository without its wrapper, if it has one. -/
def unwrapRepository (repoId : Text) : Except String Text :=
  match stripPrefix (storedTransaction ++ ['(']) repoId with
  | some inner => okOr malformedRepository (stripSuffix [')'] inner)
  | none => .ok repoId

def sourceRepository (repoId : Text) : Except String Text := do
  let source ← unwrapRepository repoId
  if source = [] ∨ '(' ∈ source ∨ ')' ∈ source ∨ (stripPrefix storedTransaction source).isSome then
    throw malformedRepository
  else return source

/-- The path of a package that comes in, which is one name below the directory of packages. -/
def incomingPath (package : PlanPackage) : Except String Text := do
  let path ← okOr "Missing DNF package path" package.packagePath
  let name ← okOr "Unexpected DNF package location" (stripPrefix packagesDirectory path)
  if name = [] ∨ '/' ∈ name ∨ name = ['.'] ∨ name = ['.', '.'] then
    throw "Unsafe DNF package location"
  else return path

/-! ## The loop -/

/-- What the plan must name, built once before the loop. -/
structure Expected where
  wanted : Text
  old : Text
  localPackage : Text
  deriving DecidableEq, Repr

def Expected.of (current target assetName : Text) : Expected where
  wanted := "lg-buddy-".toList ++ target ++ ".x86_64".toList
  old := "lg-buddy-".toList ++ current ++ ".x86_64".toList
  localPackage := packagesDirectory ++ assetName

/-- The variables of the loop. -/
structure Scan where
  upgraded : Finset (Text × Text) := ∅
  replaced : Finset (Text × Text) := ∅
  seen : Finset Text := ∅
  found : Bool := false
  repositoryPackages : List Text := []
  deriving DecidableEq

/-- An entry whose action is `Install` or `Upgrade`. -/
def scanIncoming (expected : Expected) (scan : Scan) (package : PlanPackage) (key : Text × Text) :
    Except String Scan := do
  let repository ← sourceRepository package.repoId
  let path ← incomingPath package
  let upgraded :=
    if package.action = upgradeAction then insert key scan.upgraded else scan.upgraded
  if key.1 = lgBuddyName then
    if package.nevra ≠ expected.wanted ∨ package.action ≠ upgradeAction
        ∨ repository ≠ commandline ∨ path ≠ expected.localPackage ∨ scan.found then
      throw "DNF did not select the verified LG Buddy upgrade"
    else return { scan with upgraded, found := true }
  else
    if repository = commandline ∨ repository = systemRepository then
      throw "Unexpected non-repository dependency in DNF plan"
    else return { scan with upgraded, repositoryPackages := scan.repositoryPackages ++ [path] }

def scanReplaced (expected : Expected) (scan : Scan) (package : PlanPackage) (key : Text × Text) :
    Except String Scan :=
  if package.packagePath.isSome ∨ package.repoId ≠ systemRepository ∨ key ∈ scan.replaced
      ∨ (key.1 = lgBuddyName ∧ package.nevra ≠ expected.old) then
    throw "Unexpected DNF replacement"
  else return { scan with replaced := insert key scan.replaced }

/-- The body of the loop. -/
def scanPackage (expected : Expected) (scan : Scan) (package : PlanPackage) :
    Except String Scan := do
  let key ← okOr "Malformed DNF package identity" (nameArch package.nevra)
  if package.nevra ∈ scan.seen ∨ package.reason = [] ∨ package.repoId = [] then
    throw "Ambiguous DNF package entry"
  else
    let scan := { scan with seen := insert package.nevra scan.seen }
    if package.action = installAction ∨ package.action = upgradeAction then
      scanIncoming expected scan package key
    else if package.action = replacedAction then scanReplaced expected scan package key
    else throw s!"Refusing DNF transaction action: {String.ofList package.action}"

def maxPlanBytes : Nat := 2 * 1024 * 1024

def maxPlanPackages : Nat := 4096

/-- `decode` is `serde_json::from_slice`, whose error is given by its text. -/
def verifyPlan (decode : List UInt8 → Except String Plan) (bytes : List UInt8)
    (current target assetName : Text) : Except String VerifiedPlan := do
  if maxPlanBytes < bytes.length then throw "DNF plan is too large"
  let plan ← (decode bytes).mapError fun error => s!"Unsupported DNF plan: {error}"
  if plan.version ≠ "1.0".toList ∨ maxPlanPackages < plan.rpms.length then
    throw "Unsupported DNF transaction format"
  let expected := Expected.of current target assetName
  let scan ← plan.rpms.foldlM (scanPackage expected) {}
  if scan.found = false ∨ (lgBuddyName, "x86_64".toList) ∉ scan.replaced
      ∨ scan.upgraded ≠ scan.replaced then
    throw ("DNF transaction changes package ownership or omitted the upgrade "
      ++ "(check version locks)")
  else
    return {
      localPackage := expected.localPackage
      repositoryPackages := scan.repositoryPackages }

end RpmUpdate

end LgBuddy
