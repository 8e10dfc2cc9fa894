import LgBuddy.Machine.Fallible
import LgBuddy.NativeUpdate.Plan
import Mathlib.Data.Finset.Lattice.Lemmas

/-!
# LgBuddy — which plans are accepted

The loop of `verify_plan` keeps five variables; here is what they come to.

* `SourceOf`, `InPackages` — the repositories and the paths that are let through;
* `LocalUpgrade`, `Dependency`, `Replacement`, `Entry` — the entries that are let through;
* `scanOf` — the variables after some entries; `scanPackage_ok`, `scan_ok` — one entry, then all;
* `Accepted`, `verify_plan_iff` — the plans that are accepted, and what is taken from them.
-/

namespace LgBuddy

namespace RpmUpdate

open Str
open Fallible (bind_ok mapError_ok)

/-! ## Repositories and paths -/

/-- The repository behind at most one wrapper. -/
structure SourceOf (repoId source : Text) : Prop where
  wrapped : repoId = source ∨ repoId = storedTransaction ++ '(' :: (source ++ [')'])
  nonempty : source ≠ []
  opens : '(' ∉ source
  closes : ')' ∉ source
  plain : ¬ storedTransaction <+: source

/-- One name below the directory of packages. -/
def InPackages (path : Text) : Prop :=
  ∃ name, path = packagesDirectory ++ name ∧ name ≠ [] ∧ '/' ∉ name ∧ name ≠ ['.']
    ∧ name ≠ ['.', '.']

theorem okOr_ok {α : Type} {message : String} {x : Option α} {a : α} :
    okOr message x = .ok a ↔ x = some a := by
  cases x with
  | none => simp [okOr]
  | some b => simp [okOr]

theorem isSome_stripPrefix {pattern text : Text} :
    (stripPrefix pattern text).isSome = true ↔ pattern <+: text := by
  rw [Option.isSome_iff_exists]
  constructor
  · rintro ⟨rest, hrest⟩
    exact ⟨rest, (stripPrefix_eq_some.1 hrest).symm⟩
  · rintro ⟨rest, hrest⟩
    exact ⟨rest, stripPrefix_eq_some.2 hrest.symm⟩

/-- The wrapping of a stored transaction is taken off, once. -/
theorem unwrapRepository_ok {repoId source : Text} :
    unwrapRepository repoId = .ok source ↔
      repoId = storedTransaction ++ '(' :: (source ++ [')'])
        ∨ repoId = source ∧ ¬ storedTransaction ++ ['('] <+: repoId := by
  unfold unwrapRepository
  cases hstrip : stripPrefix (storedTransaction ++ ['(']) repoId with
  | none =>
    have hno : ¬ storedTransaction ++ ['('] <+: repoId := by
      rw [← isSome_stripPrefix, hstrip]
      decide
    constructor
    · intro h
      exact .inr ⟨Except.ok.inj h, hno⟩
    · rintro (hwrapped | ⟨hsame, -⟩)
      · exact absurd ⟨source ++ [')'], by rw [hwrapped]; simp⟩ hno
      · rw [hsame]
  | some inner =>
    have hrepo := stripPrefix_eq_some.1 hstrip
    have hyes : storedTransaction ++ ['('] <+: repoId := ⟨inner, hrepo.symm⟩
    rw [okOr_ok, stripSuffix_eq_some]
    constructor
    · intro hinner
      left
      rw [hrepo, hinner]
      simp
    · rintro (hwrapped | ⟨-, hno⟩)
      · rw [hrepo, List.append_assoc] at hwrapped
        exact List.cons.inj (List.append_cancel_left hwrapped) |>.2
      · exact absurd hyes hno

/-- A repository is accepted exactly if it has a plain name, wrapped or not. -/
theorem sourceRepository_ok {repoId source : Text} :
    sourceRepository repoId = .ok source ↔ SourceOf repoId source := by
  have hcheck : ∀ found : Text, (if found = [] ∨ '(' ∈ found ∨ ')' ∈ found
      ∨ (stripPrefix storedTransaction found).isSome then throw malformedRepository
        else pure found : Except String Text) = .ok source ↔ found = source ∧ source ≠ []
          ∧ '(' ∉ source ∧ ')' ∉ source ∧ ¬ storedTransaction <+: source := by
    intro found
    have hstart : (stripPrefix storedTransaction found).isSome = true
        ↔ storedTransaction <+: found := isSome_stripPrefix
    split
    · rename_i hbad
      constructor
      · intro h
        cases h
      · rintro ⟨rfl, hne, hopen, hclose, hplain⟩
        tauto
    · rename_i hgood
      constructor
      · intro h
        obtain rfl := Except.ok.inj h
        tauto
      · rintro ⟨rfl, -⟩
        rfl
  unfold sourceRepository
  rw [bind_ok]
  constructor
  · rintro ⟨found, hfound, h⟩
    obtain ⟨rfl, hne, hopen, hclose, hplain⟩ := (hcheck found).1 h
    rcases unwrapRepository_ok.1 hfound with hwrapped | ⟨hsame, -⟩
    · exact ⟨.inr hwrapped, hne, hopen, hclose, hplain⟩
    · exact ⟨.inl hsame, hne, hopen, hclose, hplain⟩
  · intro h
    refine ⟨source, unwrapRepository_ok.2 ?_, (hcheck source).2 ⟨rfl, h.nonempty, h.opens,
      h.closes, h.plain⟩⟩
    rcases h.wrapped with hsame | hwrapped
    · refine .inr ⟨hsame, fun hstart => h.plain ?_⟩
      rw [hsame] at hstart
      exact (List.prefix_append _ _).trans hstart
    · exact .inl hwrapped

/-- A path is accepted exactly if it lies directly below the packages. -/
theorem incomingPath_ok {package : PlanPackage} {path : Text} :
    incomingPath package = .ok path ↔ package.packagePath = some path ∧ InPackages path := by
  unfold incomingPath
  rw [bind_ok]
  constructor
  · rintro ⟨found, hfound, h⟩
    obtain ⟨name, hname, h⟩ := bind_ok.1 h
    rw [okOr_ok] at hfound hname
    split at h
    · cases h
    · rename_i hsafe
      obtain rfl := Except.ok.inj h
      refine ⟨hfound, name, stripPrefix_eq_some.1 hname, ?_⟩
      tauto
  · rintro ⟨hpath, name, hname, hne, hslash, hdot, hdots⟩
    refine ⟨path, okOr_ok.2 hpath, bind_ok.2 ⟨name, okOr_ok.2 (stripPrefix_eq_some.2 hname), ?_⟩⟩
    rw [if_neg (by tauto)]
    rfl

/-! ## Entries -/

/-- The upgrade of LG Buddy itself, from the package that was handed to DNF. -/
structure LocalUpgrade (expected : Expected) (package : PlanPackage) : Prop where
  name : ∃ arch, nameArch package.nevra = some (lgBuddyName, arch)
  nevra : package.nevra = expected.wanted
  action : package.action = upgradeAction
  repository : SourceOf package.repoId commandline
  path : package.packagePath = some expected.localPackage
  located : InPackages expected.localPackage

/-- Another package that comes in, from a repository. -/
structure Dependency (package : PlanPackage) : Prop where
  name : ∃ key, nameArch package.nevra = some key ∧ key.1 ≠ lgBuddyName
  action : package.action = installAction ∨ package.action = upgradeAction
  repository : ∃ source, SourceOf package.repoId source ∧ source ≠ commandline
    ∧ source ≠ systemRepository
  path : ∃ path, package.packagePath = some path ∧ InPackages path

/-- A package that is replaced; of LG Buddy, the version that is installed. -/
structure Replacement (expected : Expected) (package : PlanPackage) : Prop where
  name : ∃ key, nameArch package.nevra = some key
    ∧ (key.1 = lgBuddyName → package.nevra = expected.old)
  action : package.action = replacedAction
  repository : package.repoId = systemRepository
  path : package.packagePath = none

inductive Entry (expected : Expected) (package : PlanPackage) : Prop where
  | upgrade (h : LocalUpgrade expected package)
  | dependency (h : Dependency package)
  | replaced (h : Replacement expected package)

/-- The keys of the entries with an action. -/
def keysOf (action : Text) (packages : List PlanPackage) : List (Text × Text) :=
  packages.filterMap fun package =>
    if package.action = action then nameArch package.nevra else none

def isLgBuddy (package : PlanPackage) : Bool :=
  (nameArch package.nevra).any fun key => key.1 = lgBuddyName

def comesIn (package : PlanPackage) : Bool :=
  package.action = installAction || package.action = upgradeAction

/-- The path that has to be checked. -/
def dependencyPath (package : PlanPackage) : Option Text :=
  if comesIn package && !isLgBuddy package then package.packagePath else none

/-- The variables of the loop behind these entries. -/
def scanOf (packages : List PlanPackage) : Scan where
  upgraded := (keysOf upgradeAction packages).toFinset
  replaced := (keysOf replacedAction packages).toFinset
  seen := (packages.map PlanPackage.nevra).toFinset
  found := packages.any fun package => comesIn package && isLgBuddy package
  repositoryPackages := packages.filterMap dependencyPath

/-! ## One entry -/

variable {expected : Expected} {package : PlanPackage} {scan scan' : Scan} {key : Text × Text}

/-- The set of upgraded names behind an entry. -/
def upgradedWith (scan : Scan) (package : PlanPackage) (key : Text × Text) : Finset (Text × Text) :=
  if package.action = upgradeAction then insert key scan.upgraded else scan.upgraded

/-- The package of LG Buddy is accepted once, and only as the local upgrade. -/
theorem scanIncoming_lgBuddy (hname : nameArch package.nevra = some key)
    (hkey : key.1 = lgBuddyName) :
    scanIncoming expected scan package key = .ok scan' ↔
      LocalUpgrade expected package ∧ scan.found = false ∧
        scan' = { scan with upgraded := upgradedWith scan package key, found := true } := by
  have harch : ∃ arch, nameArch package.nevra = some (lgBuddyName, arch) :=
    ⟨key.2, by rw [hname, ← hkey]⟩
  unfold scanIncoming
  simp only [if_pos hkey]
  constructor
  · intro h
    obtain ⟨repository, hrepository, hrest⟩ := bind_ok.1 h
    obtain ⟨path, hpath, hscan⟩ := bind_ok.1 hrest
    clear h hrest
    rw [sourceRepository_ok] at hrepository
    obtain ⟨hpath, hlocated⟩ := incomingPath_ok.1 hpath
    split at hscan
    · cases hscan
    · rename_i hchecks
      simp only [not_or, not_not, Bool.not_eq_true] at hchecks
      obtain ⟨hnevra, haction, rfl, rfl, hfound⟩ := hchecks
      exact ⟨⟨harch, hnevra, haction, hrepository, hpath, hlocated⟩, hfound,
        (Except.ok.inj hscan).symm⟩
  · rintro ⟨h, hfound, rfl⟩
    refine bind_ok.2 ⟨commandline, sourceRepository_ok.2 h.repository, bind_ok.2
      ⟨expected.localPackage, incomingPath_ok.2 ⟨h.path, h.located⟩, ?_⟩⟩
    rw [if_neg (by simp [h.nevra, h.action, hfound])]
    rfl

/-- Any other incoming package is accepted from a real repository, and its path is kept. -/
theorem scanIncoming_dependency (hname : nameArch package.nevra = some key)
    (hkey : key.1 ≠ lgBuddyName) (haction : comesIn package = true) :
    scanIncoming expected scan package key = .ok scan' ↔
      Dependency package ∧ ∃ path, package.packagePath = some path ∧
        scan' = { scan with upgraded := upgradedWith scan package key,
                            repositoryPackages := scan.repositoryPackages ++ [path] } := by
  unfold scanIncoming
  simp only [if_neg hkey]
  constructor
  · intro h
    obtain ⟨repository, hrepository, hrest⟩ := bind_ok.1 h
    obtain ⟨path, hpath, hscan⟩ := bind_ok.1 hrest
    clear h hrest
    rw [sourceRepository_ok] at hrepository
    obtain ⟨hpath, hlocated⟩ := incomingPath_ok.1 hpath
    split at hscan
    · cases hscan
    · rename_i hforeign
      rw [not_or] at hforeign
      refine ⟨⟨⟨key, hname, hkey⟩, by simpa [comesIn] using haction,
        ⟨repository, hrepository, hforeign⟩, ⟨path, hpath, hlocated⟩⟩, path, hpath,
        (Except.ok.inj hscan).symm⟩
  · rintro ⟨h, path, hpath, rfl⟩
    obtain ⟨source, hsource, hforeign⟩ := h.repository
    obtain ⟨path', hpath', hlocated⟩ := h.path
    obtain rfl : path' = path := by rw [hpath'] at hpath; exact Option.some.inj hpath
    refine bind_ok.2 ⟨source, sourceRepository_ok.2 hsource, bind_ok.2
      ⟨path', incomingPath_ok.2 ⟨hpath', hlocated⟩, ?_⟩⟩
    rw [if_neg (by tauto)]
    rfl

/-- A replaced package comes from the system, without a path, and once. -/
theorem scanReplaced_ok (hname : nameArch package.nevra = some key)
    (haction : package.action = replacedAction) :
    scanReplaced expected scan package key = .ok scan' ↔
      Replacement expected package ∧ key ∉ scan.replaced ∧
        scan' = { scan with replaced := insert key scan.replaced } := by
  unfold scanReplaced
  split
  · rename_i hbad
    constructor
    · intro h
      cases h
    · rintro ⟨h, hnew, -⟩
      obtain ⟨key', hname', hold⟩ := h.name
      obtain rfl : key' = key := by rw [hname'] at hname; exact Option.some.inj hname
      simp only [h.path, Option.isSome_none, Bool.false_eq_true, h.repository, ne_eq,
        not_true_eq_false, hnew, false_or] at hbad
      exact absurd (hold hbad.1) hbad.2
  · rename_i hgood
    simp only [not_or, not_and, not_not, Bool.not_eq_true, Option.isSome_eq_false_iff,
      Option.isNone_iff_eq_none] at hgood
    obtain ⟨hpath, hrepository, hnew, hold⟩ := hgood
    constructor
    · intro h
      exact ⟨⟨⟨key, hname, hold⟩, haction, hrepository, hpath⟩, hnew, (Except.ok.inj h).symm⟩
    · rintro ⟨-, -, rfl⟩
      rfl

/-! ## The loop -/

/-- The keys of an action, with one more package. -/
theorem keysOf_concat (action : Text) (done : List PlanPackage) (package : PlanPackage) :
    (keysOf action (done ++ [package])).toFinset
      = if package.action = action then
          (nameArch package.nevra).elim (keysOf action done).toFinset
            fun key => insert key (keysOf action done).toFinset
        else (keysOf action done).toFinset := by
  unfold keysOf
  rw [List.filterMap_append, List.toFinset_append]
  by_cases haction : package.action = action
  · cases hkey : nameArch package.nevra with
    | none => simp [haction, hkey]
    | some key =>
      rw [if_pos haction, Option.elim_some]
      simp [haction, hkey]
  · simp [haction]

/-- A scan has seen the names of all the packages scanned. -/
theorem seen_concat (done : List PlanPackage) (package : PlanPackage) :
    ((done ++ [package]).map PlanPackage.nevra).toFinset
      = insert package.nevra (done.map PlanPackage.nevra).toFinset := by
  rw [List.map_append, List.toFinset_append]
  simp

theorem actions_differ : replacedAction ≠ installAction ∧ replacedAction ≠ upgradeAction := by
  decide

/-- Every accepted entry names a repository. -/
theorem Entry.repoId_ne_nil (h : Entry expected package) : package.repoId ≠ [] := by
  have hsource {source : Text} (h : SourceOf package.repoId source) : package.repoId ≠ [] := by
    rcases h.wrapped with hsame | hwrapped
    · exact hsame ▸ h.nonempty
    · rw [hwrapped]
      simp
  cases h with
  | upgrade h => exact hsource h.repository
  | dependency h =>
    obtain ⟨source, h, -⟩ := h.repository
    exact hsource h
  | replaced h =>
    rw [h.repository]
    decide

/-- The entries that come in are the one of LG Buddy and the dependencies. -/
theorem Entry.of_comesIn (h : Entry expected package) (hin : comesIn package = true) :
    LocalUpgrade expected package ∨ Dependency package := by
  cases h with
  | upgrade h => exact .inl h
  | dependency h => exact .inr h
  | replaced h =>
    simp only [comesIn, h.action, Bool.or_eq_true, decide_eq_true_eq] at hin
    rcases hin with hin | hin
    · exact absurd hin actions_differ.1
    · exact absurd hin actions_differ.2

theorem LocalUpgrade.comesIn (h : LocalUpgrade expected package) : comesIn package = true := by
  simp [RpmUpdate.comesIn, h.action]

theorem LocalUpgrade.isLgBuddy (h : LocalUpgrade expected package) : isLgBuddy package = true := by
  obtain ⟨arch, hname⟩ := h.name
  simp [RpmUpdate.isLgBuddy, hname]

theorem Dependency.comesIn (h : Dependency package) : comesIn package = true := by
  simpa [RpmUpdate.comesIn] using h.action

theorem Dependency.isLgBuddy (h : Dependency package) : isLgBuddy package = false := by
  obtain ⟨key, hname, hkey⟩ := h.name
  simp [RpmUpdate.isLgBuddy, hname, hkey]

/-- Only one entry can be the upgrade of LG Buddy, since only one has its name. -/
theorem found_scanOf {done : List PlanPackage} (hdone : ∀ q ∈ done, Entry expected q)
    (hnew : expected.wanted ∉ done.map PlanPackage.nevra) : (scanOf done).found = false := by
  by_contra hfound
  rw [Bool.not_eq_false] at hfound
  obtain ⟨q, hq, hour⟩ := List.any_eq_true.1 hfound
  rw [Bool.and_eq_true] at hour
  rcases (hdone q hq).of_comesIn hour.1 with hlocal | hdependency
  · exact hnew (List.mem_map.2 ⟨q, hq, hlocal.nevra⟩)
  · rw [hdependency.isLgBuddy] at hour
    exact absurd hour.2 (by decide)

/-- What one more entry must be for the loop to go on. -/
structure Follows (expected : Expected) (done : List PlanPackage) (package : PlanPackage) :
    Prop where
  entry : Entry expected package
  reason : package.reason ≠ []
  fresh : package.nevra ∉ done.map PlanPackage.nevra
  replaced : package.action = replacedAction →
    ∀ key, nameArch package.nevra = some key → key ∉ keysOf replacedAction done

/-- The set of upgraded names, as the loop has it. -/
theorem upgraded_concat (done : List PlanPackage) (hname : nameArch package.nevra = some key) :
    (scanOf (done ++ [package])).upgraded = upgradedWith (scanOf done) package key := by
  show (keysOf upgradeAction (done ++ [package])).toFinset = _
  rw [keysOf_concat, hname]
  rfl

/-- What is replaced, with one more package. -/
theorem replaced_concat (done : List PlanPackage) (hname : nameArch package.nevra = some key) :
    (scanOf (done ++ [package])).replaced =
      if package.action = replacedAction then insert key (scanOf done).replaced
      else (scanOf done).replaced := by
  show (keysOf replacedAction (done ++ [package])).toFinset = _
  rw [keysOf_concat, hname]
  rfl

/-- Behind the upgrade of LG Buddy. -/
theorem scanOf_upgrade (done : List PlanPackage) (hname : nameArch package.nevra = some key)
    (h : LocalUpgrade expected package) :
    scanOf (done ++ [package]) =
      { seen := insert package.nevra (scanOf done).seen
        upgraded := upgradedWith (scanOf done) package key
        replaced := (scanOf done).replaced
        found := true
        repositoryPackages := (scanOf done).repositoryPackages } := by
  have haction : package.action ≠ replacedAction := by
    rw [h.action]
    exact actions_differ.2.symm
  have hreplaced := (replaced_concat done hname).trans (if_neg haction)
  rw [← upgraded_concat done hname, ← hreplaced]
  unfold scanOf
  rw [seen_concat]
  simp [h.comesIn, h.isLgBuddy, dependencyPath]

/-- A dependency adds its key and its path. -/
theorem scanOf_dependency (done : List PlanPackage) (hname : nameArch package.nevra = some key)
    (h : Dependency package) {path : Text} (hpath : package.packagePath = some path) :
    scanOf (done ++ [package]) =
      { seen := insert package.nevra (scanOf done).seen
        upgraded := upgradedWith (scanOf done) package key
        replaced := (scanOf done).replaced
        found := (scanOf done).found
        repositoryPackages := (scanOf done).repositoryPackages ++ [path] } := by
  have haction : package.action ≠ replacedAction := by
    rcases h.action with haction | haction <;> rw [haction]
    · exact actions_differ.1.symm
    · exact actions_differ.2.symm
  have hreplaced := (replaced_concat done hname).trans (if_neg haction)
  rw [← upgraded_concat done hname, ← hreplaced]
  unfold scanOf
  rw [seen_concat]
  simp [h.comesIn, h.isLgBuddy, dependencyPath, hpath]

/-- A replaced package adds its key. -/
theorem scanOf_replaced (done : List PlanPackage) (hname : nameArch package.nevra = some key)
    (h : Replacement expected package) :
    scanOf (done ++ [package]) =
      { seen := insert package.nevra (scanOf done).seen
        upgraded := (scanOf done).upgraded
        replaced := insert key (scanOf done).replaced
        found := (scanOf done).found
        repositoryPackages := (scanOf done).repositoryPackages } := by
  have hupgrade : package.action ≠ upgradeAction := by
    rw [h.action]
    exact actions_differ.2
  have hin : comesIn package = false := by
    simp [comesIn, h.action, actions_differ.1, actions_differ.2]
  have hupgraded := (upgraded_concat done hname).trans (if_neg hupgrade)
  have hreplaced := (replaced_concat done hname).trans (if_pos h.action)
  rw [← hupgraded, ← hreplaced]
  unfold scanOf
  rw [seen_concat]
  simp [hin, dependencyPath]

/-- **One entry.** -/
theorem scanPackage_ok {done : List PlanPackage} (hdone : ∀ q ∈ done, Entry expected q) :
    scanPackage expected (scanOf done) package = .ok scan' ↔
      Follows expected done package ∧ scan' = scanOf (done ++ [package]) := by
  unfold scanPackage
  cases hname : nameArch package.nevra with
  -- a package without a name is rejected, and fits no kind of entry
  | none =>
    constructor
    · intro h
      cases h
    · rintro ⟨h, -⟩
      cases h.entry with
      | upgrade h => obtain ⟨_, hsome⟩ := h.name; rw [hname] at hsome; cases hsome
      | dependency h => obtain ⟨_, hsome, -⟩ := h.name; rw [hname] at hsome; cases hsome
      | replaced h => obtain ⟨_, hsome, -⟩ := h.name; rw [hname] at hsome; cases hsome
  | some key =>
    show (if package.nevra ∈ (scanOf done).seen ∨ _ then _ else _) = _ ↔ _
    split
    -- seen before, without a reason or without a repository: no entry follows
    · rename_i hbad
      constructor
      · intro h
        cases h
      · rintro ⟨h, -⟩
        have hseen : package.nevra ∉ (scanOf done).seen := by
          simpa [scanOf] using h.fresh
        rcases hbad with hbad | hbad | hbad
        · exact absurd hbad hseen
        · exact absurd hbad h.reason
        · exact absurd hbad h.entry.repoId_ne_nil
    · rename_i hgood
      simp only [not_or] at hgood
      obtain ⟨hseen, hreason, -⟩ := hgood
      have hfresh : package.nevra ∉ done.map PlanPackage.nevra := by
        simpa [scanOf] using hseen
      -- the action decides which of the three kinds the entry can be
      by_cases hin : package.action = installAction ∨ package.action = upgradeAction
      · have hcomes : comesIn package = true := by simpa [comesIn] using hin
        have hnotReplaced : package.action ≠ replacedAction := by
          rcases hin with hin | hin <;> rw [hin]
          · exact actions_differ.1.symm
          · exact actions_differ.2.symm
        rw [if_pos hin]
        -- what comes in is LG Buddy itself or a dependency
        by_cases hkey : key.1 = lgBuddyName
        · rw [scanIncoming_lgBuddy hname hkey]
          constructor
          · rintro ⟨hlocal, -, rfl⟩
            exact ⟨⟨.upgrade hlocal, hreason, hfresh, fun h => absurd h hnotReplaced⟩,
              (scanOf_upgrade done hname hlocal).symm⟩
          · rintro ⟨h, rfl⟩
            rcases h.entry.of_comesIn hcomes with hlocal | hdependency
            · refine ⟨hlocal, found_scanOf hdone (hlocal.nevra ▸ hfresh), ?_⟩
              rw [scanOf_upgrade done hname hlocal]
              rfl
            · obtain ⟨key', hname', hkey'⟩ := hdependency.name
              rw [hname] at hname'
              exact absurd (Option.some.inj hname' ▸ hkey) hkey'
        · rw [scanIncoming_dependency hname hkey hcomes]
          constructor
          · rintro ⟨hdependency, path, hpath, rfl⟩
            exact ⟨⟨.dependency hdependency, hreason, hfresh, fun h => absurd h hnotReplaced⟩,
              (scanOf_dependency done hname hdependency hpath).symm⟩
          · rintro ⟨h, rfl⟩
            rcases h.entry.of_comesIn hcomes with hlocal | hdependency
            · obtain ⟨arch, hname'⟩ := hlocal.name
              rw [hname] at hname'
              exact absurd (by rw [Option.some.inj hname']) hkey
            · obtain ⟨path, hpath, -⟩ := hdependency.path
              refine ⟨hdependency, path, hpath, ?_⟩
              rw [scanOf_dependency done hname hdependency hpath]
              rfl
      · rw [if_neg hin]
        by_cases hreplaced : package.action = replacedAction
        · rw [if_pos hreplaced, scanReplaced_ok hname hreplaced]
          have hkeys : key ∉ (scanOf done).replaced ↔ key ∉ keysOf replacedAction done := by
            simp [scanOf]
          constructor
          · rintro ⟨h, hnew, rfl⟩
            refine ⟨⟨.replaced h, hreason, hfresh, fun _ key' hname' => ?_⟩,
              (scanOf_replaced done hname h).symm⟩
            obtain rfl : key = key' := by rw [hname] at hname'; exact Option.some.inj hname'
            exact hkeys.1 hnew
          · rintro ⟨h, rfl⟩
            cases h.entry with
            | upgrade hlocal => exact absurd (.inr hlocal.action) hin
            | dependency hdependency => exact absurd hdependency.action hin
            | replaced hreplacement =>
              refine ⟨hreplacement, hkeys.2 (h.replaced hreplaced key hname), ?_⟩
              rw [scanOf_replaced done hname hreplacement]
        · rw [if_neg hreplaced]
          constructor
          · intro h
            cases h
          · rintro ⟨h, -⟩
            cases h.entry with
            | upgrade hlocal => exact absurd (.inr hlocal.action) hin
            | dependency hdependency => exact absurd hdependency.action hin
            | replaced hreplacement => exact absurd hreplacement.action hreplaced

/-- What the loop lets through, entries taken together. -/
structure Sound (expected : Expected) (packages : List PlanPackage) : Prop where
  entries : ∀ package ∈ packages, Entry expected package ∧ package.reason ≠ []
  distinct : (packages.map PlanPackage.nevra).Nodup
  replacedOnce : (keysOf replacedAction packages).Nodup

theorem sound_nil : Sound expected [] :=
  ⟨List.forall_mem_nil _, List.nodup_nil, List.nodup_nil⟩

/-- One more package keeps the plan sound exactly if it follows from it. -/
theorem sound_concat {done : List PlanPackage} :
    Sound expected (done ++ [package]) ↔ Sound expected done ∧ Follows expected done package := by
  have hkeys : keysOf replacedAction (done ++ [package]) = keysOf replacedAction done
      ++ (if package.action = replacedAction then nameArch package.nevra else none).toList := by
    unfold keysOf
    rw [List.filterMap_append]
    congr 1
  constructor
  · intro h
    obtain ⟨hentries, hdistinct, honce⟩ := h
    rw [List.map_append, List.nodup_append] at hdistinct
    rw [hkeys, List.nodup_append] at honce
    have hlast := hentries package (by simp)
    refine ⟨⟨fun q hq => hentries q (List.mem_append_left _ hq), hdistinct.1, honce.1⟩,
      ⟨hlast.1, hlast.2, fun hmem => hdistinct.2.2 _ hmem _ (by simp) rfl, ?_⟩⟩
    intro haction key hname hmem
    exact honce.2.2 key hmem key (by simp [haction, hname]) rfl
  · rintro ⟨hdone, h⟩
    refine ⟨fun q hq => ?_, ?_, ?_⟩
    · rcases List.mem_append.1 hq with hq | hq
      · exact hdone.entries q hq
      · rw [List.mem_singleton.1 hq]
        exact ⟨h.entry, h.reason⟩
    · rw [List.map_append, List.nodup_append]
      refine ⟨hdone.distinct, List.nodup_singleton _, fun a ha b hb heq => h.fresh ?_⟩
      rw [← List.mem_singleton.1 hb, ← heq]
      exact ha
    · rw [hkeys, List.nodup_append]
      have hone (x : Option (Text × Text)) : x.toList.Nodup := by cases x <;> simp
      refine ⟨hdone.replacedOnce, hone _, fun a ha b hb heq => ?_⟩
      rw [Option.mem_toList, Option.ite_none_right_eq_some] at hb
      exact h.replaced hb.1 b hb.2 (heq ▸ ha)

/-- **All entries.** -/
theorem scan_ok {done rest : List PlanPackage} (hdone : Sound expected done) :
    rest.foldlM (scanPackage expected) (scanOf done) = .ok scan' ↔
      Sound expected (done ++ rest) ∧ scan' = scanOf (done ++ rest) := by
  induction rest generalizing done with
  | nil =>
    rw [List.append_nil, List.foldlM_nil]
    constructor
    · intro h
      exact ⟨hdone, (Except.ok.inj h).symm⟩
    · rintro ⟨-, rfl⟩
      rfl
  | cons package rest ih =>
    have hlist : done ++ package :: rest = (done ++ [package]) ++ rest := by simp
    rw [List.foldlM_cons, bind_ok, hlist]
    have hstep : ∀ scan, scanPackage expected (scanOf done) package = .ok scan ↔
        Follows expected done package ∧ scan = scanOf (done ++ [package]) :=
      fun _ => scanPackage_ok fun q hq => (hdone.entries q hq).1
    constructor
    · rintro ⟨scan, hscan, hrest⟩
      obtain ⟨hfollows, rfl⟩ := (hstep scan).1 hscan
      exact (ih (sound_concat.2 ⟨hdone, hfollows⟩)).1 hrest
    · intro h
      have hnext : Sound expected (done ++ [package]) := by
        refine ⟨fun q hq => h.1.entries q (List.mem_append_left _ hq), ?_, ?_⟩
        · have hall := h.1.distinct
          rw [List.map_append] at hall
          exact hall.of_append_left
        · have hall := h.1.replacedOnce
          rw [keysOf, List.filterMap_append] at hall
          exact hall.of_append_left
      exact ⟨_, (hstep _).2 ⟨(sound_concat.1 hnext).2, rfl⟩, (ih hnext).2 h⟩

/-! ## The plan -/

/-- **The plans that are accepted.** -/
structure Accepted (expected : Expected) (plan : Plan) : Prop extends
    Sound expected plan.rpms where
  version : plan.version = "1.0".toList
  size : plan.rpms.length ≤ maxPlanPackages
  selected : ∃ package ∈ plan.rpms, LocalUpgrade expected package
  removed : (lgBuddyName, "x86_64".toList) ∈ keysOf replacedAction plan.rpms
  paired : ∀ key, key ∈ keysOf upgradeAction plan.rpms ↔ key ∈ keysOf replacedAction plan.rpms

/-- The upgrade was found exactly if it is there. -/
theorem found_iff {packages : List PlanPackage} (h : Sound expected packages) :
    (scanOf packages).found = true ↔ ∃ package ∈ packages, LocalUpgrade expected package := by
  show packages.any _ = true ↔ _
  rw [List.any_eq_true]
  constructor
  · rintro ⟨q, hq, hour⟩
    rw [Bool.and_eq_true] at hour
    refine ⟨q, hq, ((h.entries q hq).1.of_comesIn hour.1).resolve_right fun hdependency => ?_⟩
    rw [hdependency.isLgBuddy] at hour
    exact absurd hour.2 (by decide)
  · rintro ⟨q, hq, hlocal⟩
    exact ⟨q, hq, by simp [hlocal.comesIn, hlocal.isLgBuddy]⟩

/-- **Verification of a plan.** A plan is accepted exactly if it is one upgrade of LG Buddy from the
package at hand, with packages from repositories and replacements that match the upgrades; what has
to be checked is every other package that comes in. -/
theorem verify_plan_iff {decode : List UInt8 → Except String Plan} {bytes : List UInt8}
    {current target assetName : Text} {result : VerifiedPlan} :
    verifyPlan decode bytes current target assetName = .ok result ↔
      bytes.length ≤ maxPlanBytes ∧ ∃ plan, decode bytes = .ok plan ∧
        Accepted (Expected.of current target assetName) plan ∧
        result = ⟨packagesDirectory ++ assetName, plan.rpms.filterMap dependencyPath⟩ := by
  -- what the scan gathered, in terms of the packages
  have hpaired : ∀ packages, (scanOf packages).upgraded = (scanOf packages).replaced ↔
      ∀ key, key ∈ keysOf upgradeAction packages ↔ key ∈ keysOf replacedAction packages := by
    intro packages
    rw [Finset.ext_iff]
    exact forall_congr' fun key => by simp [scanOf]
  have hremoved : ∀ packages key, key ∈ (scanOf packages).replaced ↔
      key ∈ keysOf replacedAction packages := by
    simp [scanOf]
  unfold verifyPlan
  constructor
  · intro h
    split at h
    · cases h
    · rename_i hlong
      obtain ⟨plan, hdecoded, hplan⟩ := bind_ok.1 h
      rw [mapError_ok] at hdecoded
      split at hplan
      · cases hplan
      · rename_i hformat
        rw [not_or, not_not, not_lt] at hformat
        obtain ⟨scan, hscan, hend⟩ := bind_ok.1 hplan
        obtain ⟨hsound, rfl⟩ := (scan_ok sound_nil).1 hscan
        rw [List.nil_append] at hsound hend
        split at hend
        · cases hend
        · rename_i hchecks
          simp only [not_or, not_not, Bool.not_eq_false] at hchecks
          -- the three tests after the scan
          obtain ⟨hfound, hremove, hsame⟩ := hchecks
          exact ⟨not_lt.1 hlong, plan, hdecoded, ⟨hsound, hformat.1, hformat.2,
            (found_iff hsound).1 hfound, (hremoved _ _).1 hremove, (hpaired _).1 hsame⟩,
            (Except.ok.inj hend).symm⟩
  · rintro ⟨hshort, plan, hdecoded, haccepted, rfl⟩
    rw [if_neg (not_lt.2 hshort)]
    refine bind_ok.2 ⟨plan, mapError_ok.2 hdecoded, ?_⟩
    rw [if_neg (by simp [haccepted.version, haccepted.size])]
    refine bind_ok.2 ⟨scanOf plan.rpms, (scan_ok sound_nil).2 ⟨haccepted.toSound, rfl⟩, ?_⟩
    have hfound := (found_iff haccepted.toSound).2 haccepted.selected
    have hremove := (hremoved _ _).2 haccepted.removed
    have hsame := (hpaired _).2 haccepted.paired
    rw [if_neg (by rw [hfound, hsame]; tauto)]
    rfl

end RpmUpdate

end LgBuddy
