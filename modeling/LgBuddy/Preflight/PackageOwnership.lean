import LgBuddy.Settings.Intent
import LgBuddy.Text.Pair

/-!
# LgBuddy — package ownership

`upgrade_preflight/package_ownership.rs`: which package of the host owns a path, if any.

* `PackageDatabase` — the databases and the probe that runs one of them;
* `parseDpkgOwners`, `parseRpmNames`, `parsePacmanNames`, `rpmReportsUnowned` — what the tools say;
* `PackageDatabase.ownerOf` — the answers of all databases together. It fails closed: an answer that
  cannot be read is an error, and never a path without an owner.
-/

namespace LgBuddy

open Str

def PackageFamily.asStr : PackageFamily → String
  | .dpkg => "dpkg"
  | .rpm => "rpm"
  | .pacman => "pacman"

structure PackageOwner where
  family : PackageFamily
  name : Text
  version : Option Text
  deriving DecidableEq, Repr

inductive PathOwnership where
  | unowned
  | owned (owner : PackageOwner)
  | conflicting (owners : List PackageOwner)
  deriving DecidableEq, Repr

inductive PackageDatabaseError where
  | probeFailed (reason : String)
  deriving DecidableEq, Repr

/-- `Display`. -/
def PackageDatabaseError.display : PackageDatabaseError → String
  | .probeFailed reason => s!"package database probe failed: {reason}"

inductive ProbeOutcome where
  | ran (code : Int) (stdout stderr : Text)
  /-- The host has no such database. -/
  | unavailable
  /-- The database is there, but it could not be run. -/
  | failed (reason : String)
  deriving DecidableEq, Repr

structure Database where
  name : String
  exec : String
  args : List String
  family : PackageFamily
  envRemove : List String
  deriving DecidableEq, Repr

/-- A path is its text, which is what the tools are asked and what the messages show. -/
structure PackageDatabase where
  databases : List Database
  probe : Database → Text → ProbeOutcome

/-! ## Names -/

/-- `owners.push` of what is not there yet. -/
def pushNew (owners : List Text) (owner : Text) : List Text :=
  if owner ∈ owners then owners else owners ++ [owner]

/-- The owners of a family, whose versions are not reported. -/
def ownersOf (family : PackageFamily) (names : List Text) : List PackageOwner :=
  names.map fun name => ⟨family, name, none⟩

def isPackageId (owner : Text) : Bool :=
  let (name, arch) := match splitOnce ':' owner with
    | some (name, arch) => (name, some arch)
    | none => (owner, none)
  let validName := name.head?.any Char.isAlphanum
    && (name.drop 1).all fun c => c.isAlphanum || c = '+' || c = '.' || c = '-'
  validName && match arch with
    | some arch => arch ≠ [] && !arch.contains ':'
        && arch.all fun c => c.isLower || c.isDigit || c = '-'
    | none => true

/-- The names of rpm and of pacman have one form. -/
def isName (name : Text) : Bool :=
  name.head?.any Char.isAlphanum
    && name.all fun c => c.isAlphanum || c = '+' || c = '.' || c = '-' || c = '_'

def isRpmName (name : Text) : Bool := isName name

def isPacmanName (name : Text) : Bool := isName name

/-- The body of the loop; `tool` is how the errors call the tool. -/
def parseNameLine (isValid : Text → Bool) (tool : String) (owners : List Text) (line : Text) :
    Except String (List Text) :=
  let name := trim line
  if name = [] then .ok owners
  else if !isValid name then .error s!"invalid package name in {tool} output: {String.ofList line}"
  else .ok (pushNew owners name)

/-- One name a line. -/
def parseNames (isValid : Text → Bool) (tool : String) (stdout : Text) (family : PackageFamily) :
    Except String (List PackageOwner) := do
  let owners ← (lines stdout).foldlM (parseNameLine isValid tool) []
  if owners = [] then .error s!"no package name in successful {tool} output"
  else .ok (ownersOf family owners)

def parseRpmNames (stdout : Text) (family : PackageFamily) : Except String (List PackageOwner) :=
  parseNames isRpmName "rpm -qf" stdout family

def parsePacmanNames (stdout : Text) (family : PackageFamily) :
    Except String (List PackageOwner) :=
  parseNames isPacmanName "pacman -Qq --owns" stdout family

/-! ## dpkg -/

def isDiversion (line : Text) : Bool :=
  "diversion by ".toList.isPrefixOf line || "local diversion ".toList.isPrefixOf line

/-- The body of the loop: the ids of an ownership record, and none of a diversion record. -/
def parseDpkgLine (path line : Text) : Except String (Option (List Text)) :=
  let line := trim line
  if line = [] then .error "blank line in successful dpkg -S output"
  else if isDiversion line then .ok none
  else
    match splitOncePair ':' ' ' line with
    | none => .error s!"unparseable dpkg -S record: {String.ofList line}"
    | some (list, recordPath) =>
      if recordPath ≠ path then
        .error s!"dpkg -S reported {String.ofList recordPath} for query {String.ofList path}"
      else
        let owners := (splitPair ',' ' ' list).map trim
        match owners.find? fun owner => !isPackageId owner with
        | some owner => .error s!"invalid package id in dpkg -S record: {String.ofList owner}"
        | none => .ok (some owners)

/-- The owners so far, and whether a record was seen. -/
def parseDpkgStep (path : Text) (seen : List Text × Bool) (line : Text) :
    Except String (List Text × Bool) := do
  match ← parseDpkgLine path line with
  | none => return seen
  | some owners => return (owners.foldl pushNew seen.1, true)

def parseDpkgOwners (lines : List Text) (path : Text) (family : PackageFamily) :
    Except String (List PackageOwner) := do
  let (owners, sawRecord) ← lines.foldlM (parseDpkgStep path) ([], false)
  if !sawRecord then throw "no ownership record in successful dpkg -S output"
  return ownersOf family owners

/-! ## rpm -/

/-- Its no-match output is one line, which names the path. -/
def rpmReportsUnowned (queried stdout stderr : Text) : Bool :=
  match (lines stdout ++ lines stderr).filter (· ≠ []) with
  | [line] =>
    line = "error: file ".toList ++ queried ++ ": No such file or directory".toList
      || line = "file ".toList ++ queried ++ " is not owned by any package".toList
  | _ => false

/-! ## All databases -/

/-- What a database that ran says; it owns nothing when there are no owners. -/
def interpret (family : PackageFamily) (path : Text) (code : Int) (stdout stderr : Text) :
    Except String (List PackageOwner) :=
  let shown := String.ofList path
  match family with
  | .dpkg =>
    if code = 0 then
      match parseDpkgOwners (lines stdout) path family with
      | .ok owners => .ok owners
      | .error reason => .error s!"dpkg-query: {reason} for {shown}"
    else if code = 1 then .ok []
    else .error s!"dpkg-query exited {code} for {shown}"
  | .rpm =>
    match parseRpmNames stdout family with
    | .ok owners => .ok owners
    | .error _ =>
      if rpmReportsUnowned path stdout stderr then .ok []
      else .error s!"rpm -q --path gave unexpected output for {shown} (exit {code})"
  | .pacman =>
    if code = 0 then
      match parsePacmanNames stdout family with
      | .ok owners => .ok owners
      | .error reason => .error s!"pacman: {reason} for {shown}"
    else if contains stderr "No package owns".toList then .ok []
    else .error s!"pacman exited {code} with unexpected output for {shown}"

def ownershipFromOwners : List PackageOwner → PathOwnership
  | [] => .unowned
  | [owner] => .owned owner
  | owners => .conflicting owners

/-- What `owner_of` gathers. -/
structure Gathered where
  allOwners : List PackageOwner := []
  errors : List String := []
  sawAvailableDb : Bool := false

namespace PackageDatabase

variable (packages : PackageDatabase)

/-- The body of the loop. -/
def gather (path : Text) (gathered : Gathered) (db : Database) : Gathered :=
  match packages.probe db path with
  | .unavailable => gathered
  | .failed reason => { gathered with errors := gathered.errors ++ [reason] }
  | .ran code stdout stderr =>
    match interpret db.family path code stdout stderr with
    | .ok owners =>
      { gathered with allOwners := gathered.allOwners ++ owners, sawAvailableDb := true }
    | .error reason =>
      { gathered with errors := gathered.errors ++ [reason], sawAvailableDb := true }

def ownerOf (path : Text) : Except PackageDatabaseError PathOwnership :=
  let gathered := packages.databases.foldl (packages.gather path) {}
  if !gathered.sawAvailableDb then
    .error (.probeFailed "no package database available on this host")
  else if gathered.errors ≠ [] then .error (.probeFailed ("; ".intercalate gathered.errors))
  else .ok (ownershipFromOwners gathered.allOwners)

end PackageDatabase

end LgBuddy
