import LgBuddy.Preflight.DpkgRecords
import Mathlib.Data.Finset.Card
import Mathlib.Data.List.Perm.Basic

/-!
# LgBuddy — package ownership fails closed

* `Reports` — what the run of a tool says, by its exit code and its texts: `interpret_ok`;
* `gathered_eq` — what `ownerOf` gathers, database by database;
* `Answered`, `Reported` — no error, and the pairs of family and package that were reported;
* `SameVerdict` — two answers that differ in the order of their parts only;
* `package_ownership_fails_closed` — the law.
-/

namespace LgBuddy

open Str

/-! ## One run of a tool -/

/-- The names on the lines of an output, each once and blank lines apart; there are some, and all
are valid. -/
structure NamedBy (isValid : Text → Bool) (stdout : Text) (names : List Text) : Prop where
  distinct : names = (((lines stdout).map trim).filter (· ≠ [])).eraseDups
  nonempty : names ≠ []
  valid : ∀ name ∈ names, isValid name = true

/-- What a family answers when no package of it owns the path. -/
def AnswersUnowned (family : PackageFamily) (path : Text) (code : Int) (stdout stderr : Text) :
    Prop :=
  match family with
  | .dpkg => code = 1
  | .rpm => ∃ line, (lines stdout ++ lines stderr).filter (· ≠ []) = [line]
      ∧ (line = "error: file ".toList ++ path ++ ": No such file or directory".toList
        ∨ line = "file ".toList ++ path ++ " is not owned by any package".toList)
  | .pacman => code ≠ 0 ∧ "No package owns".toList <:+: stderr

/-- **What a run reports**, by its exit code and its texts: the names of the owners, and none if it
is the family's answer for a path that nobody owns. -/
inductive Reports (path : Text) (code : Int) (stdout stderr : Text) :
    PackageFamily → List Text → Prop
  | dpkg {records : List (Option (List Text))} (hcode : code = 0)
      (hrecords : List.Forall₂ (LineIds path) (lines stdout) records)
      (hsome : records.any (·.isSome) = true) :
      Reports path code stdout stderr .dpkg (idsOf records).eraseDups
  | rpm {names : List Text} (hnames : NamedBy isRpmName stdout names) :
      Reports path code stdout stderr .rpm names
  | pacman {names : List Text} (hcode : code = 0) (hnames : NamedBy isPacmanName stdout names) :
      Reports path code stdout stderr .pacman names
  | unowned {family : PackageFamily} (h : AnswersUnowned family path code stdout stderr)
      (hrpm : family = .rpm → ∀ names, ¬ NamedBy isRpmName stdout names) :
      Reports path code stdout stderr family []

/-- The loop over the lines, from the names before. -/
theorem parseNameLines_ok {isValid : Text → Bool} {tool : String} (texts : List Text) :
    ∀ {names result : List Text}, texts.foldlM (parseNameLine isValid tool) names = .ok result ↔
      (∀ name ∈ (texts.map trim).filter (· ≠ []), isValid name = true)
        ∧ result = ((texts.map trim).filter (· ≠ [])).foldl pushNew names := by
  induction texts with
  | nil =>
    intro names result
    constructor
    · intro h
      cases h
      exact ⟨by simp, rfl⟩
    · rintro ⟨-, rfl⟩
      rfl
  | cons line texts ih =>
    intro names result
    rw [List.foldlM_cons, List.map_cons]
    -- a blank line is skipped, a valid name collected, anything else an error
    by_cases hblank : trim line = []
    · have hline : parseNameLine isValid tool names line = .ok names := by
        unfold parseNameLine
        exact if_pos hblank
      rw [hline, List.filter_cons_of_neg (by simp [hblank])]
      exact ih
    · rw [List.filter_cons_of_pos (by simp [hblank]), List.foldl_cons, List.forall_mem_cons]
      cases hvalid : isValid (trim line) with
      | true =>
        have hline : parseNameLine isValid tool names line = .ok (pushNew names (trim line)) := by
          unfold parseNameLine
          rw [if_neg hblank, if_neg (by simp [hvalid])]
        rw [hline]
        show texts.foldlM (parseNameLine isValid tool) (pushNew names (trim line)) = .ok result ↔ _
        rw [ih]
        simp
      | false =>
        have hline : ∃ reason, parseNameLine isValid tool names line = .error reason := by
          refine ⟨s!"invalid package name in {tool} output: {String.ofList line}", ?_⟩
          unfold parseNameLine
          rw [if_neg hblank, if_pos (by simp [hvalid])]
        obtain ⟨reason, hline⟩ := hline
        rw [hline]
        exact iff_of_false (fun h => by cases h) (by simp)

/-- Collecting the names one by one is the list without repetitions. -/
theorem foldl_pushNew_nil (names : List Text) : names.foldl pushNew [] = names.eraseDups := by
  rw [foldl_pushNew, List.nil_append]
  congr 1
  exact List.filter_eq_self.2 fun name _ => by simp

theorem eraseDups_nodup (names : List Text) : names.eraseDups.Nodup := by
  rw [← foldl_pushNew_nil]
  exact nodup_pushNew List.nodup_nil

/-- The names are read exactly when the lines name valid packages, at least one of them. -/
theorem parseNames_ok {isValid : Text → Bool} {tool : String} {stdout : Text}
    {family : PackageFamily} {owners : List PackageOwner} :
    parseNames isValid tool stdout family = .ok owners ↔
      ∃ names, NamedBy isValid stdout names ∧ owners = ownersOf family names := by
  have hloop : ∀ result, (lines stdout).foldlM (parseNameLine isValid tool) [] = .ok result ↔
      (∀ name ∈ ((lines stdout).map trim).filter (· ≠ []), isValid name = true)
        ∧ result = (((lines stdout).map trim).filter (· ≠ [])).foldl pushNew [] :=
    fun _ => parseNameLines_ok _
  unfold parseNames
  constructor
  · intro h
    cases hnames : (lines stdout).foldlM (parseNameLine isValid tool) [] with
    | error err =>
      rw [hnames] at h
      cases h
    | ok names =>
      rw [hnames] at h
      change (if names = [] then _ else _) = _ at h
      split at h
      · cases h
      · rename_i hne
        cases h
        obtain ⟨hvalid, hresult⟩ := (hloop names).1 hnames
        rw [foldl_pushNew_nil] at hresult
        refine ⟨names, ⟨hresult, hne, fun name hname => hvalid name ?_⟩, rfl⟩
        rwa [hresult, List.mem_eraseDups] at hname
  -- the loop accepts these lines, and returns the names they are
  · rintro ⟨names, ⟨hdistinct, hne, hvalid⟩, rfl⟩
    have hnames : (lines stdout).foldlM (parseNameLine isValid tool) [] = .ok names := by
      refine (hloop names).2 ⟨fun name hname => hvalid name ?_, ?_⟩
      · rwa [hdistinct, List.mem_eraseDups]
      · rw [foldl_pushNew_nil]
        exact hdistinct
    rw [hnames]
    exact if_neg hne

/-- The RPM answer is that of an unowned path exactly when its one line is one of the two texts.
-/
theorem rpmReportsUnowned_iff {path stdout stderr : Text} :
    rpmReportsUnowned path stdout stderr = true ↔ ∃ line,
      (lines stdout ++ lines stderr).filter (· ≠ []) = [line]
      ∧ (line = "error: file ".toList ++ path ++ ": No such file or directory".toList
        ∨ line = "file ".toList ++ path ++ " is not owned by any package".toList) := by
  unfold rpmReportsUnowned
  split
  · rename_i line hline
    rw [hline]
    simp only [Bool.or_eq_true, decide_eq_true_eq, List.cons.injEq, and_true, exists_eq_left']
  · rename_i hother
    refine iff_of_false Bool.false_ne_true ?_
    rintro ⟨line, hline, -⟩
    exact hother line hline

/-- **An answer can be read** exactly if the run reports something, and gives the owners of these
names. One case for each family. -/
theorem interpret_ok {family : PackageFamily} {path : Text} {code : Int} {stdout stderr : Text}
    {owners : List PackageOwner} :
    interpret family path code stdout stderr = .ok owners ↔
      ∃ names, Reports path code stdout stderr family names ∧ owners = ownersOf family names := by
  unfold interpret
  dsimp only
  cases family with
  -- dpkg: records on code 0, the unowned answer on code 1
  | dpkg =>
    dsimp only
    constructor
    · intro h
      split at h
      · rename_i hcode
        split at h
        · rename_i hparsed
          cases h
          obtain ⟨records, hrecords, hsome, rfl⟩ := parseDpkgOwners_ok.1 hparsed
          exact ⟨_, .dpkg hcode hrecords hsome, rfl⟩
        · cases h
      · split at h
        · rename_i hone
          cases h
          exact ⟨[], .unowned hone (by simp), rfl⟩
        · cases h
    · rintro ⟨names, hreports, rfl⟩
      cases hreports with
      | dpkg hcode hrecords hsome =>
        rw [if_pos hcode, parseDpkgOwners_ok.2 ⟨_, hrecords, hsome, rfl⟩]
      | unowned h _ =>
        have hone : code = 1 := h
        rw [if_neg (by omega), if_pos hone]
        rfl
  -- rpm: names if they parse, else the one line of the unowned answer
  | rpm =>
    dsimp only
    unfold parseRpmNames
    constructor
    · intro h
      split at h
      · rename_i hparsed
        cases h
        obtain ⟨names, hnames, rfl⟩ := parseNames_ok.1 hparsed
        exact ⟨names, .rpm hnames, rfl⟩
      · rename_i hfailed
        split at h
        · rename_i hunowned
          cases h
          refine ⟨[], .unowned (rpmReportsUnowned_iff.1 hunowned) fun _ names hnames => ?_, rfl⟩
          rw [parseNames_ok.2 ⟨names, hnames, rfl⟩] at hfailed
          cases hfailed
        · cases h
    · rintro ⟨names, hreports, rfl⟩
      cases hreports with
      | rpm hnames => rw [parseNames_ok.2 ⟨names, hnames, rfl⟩]
      | unowned h hrpm =>
        cases hparsed : parseNames isRpmName "rpm -qf" stdout .rpm with
        | ok owners =>
          obtain ⟨names, hnames, -⟩ := parseNames_ok.1 hparsed
          exact absurd hnames (hrpm rfl names)
        | error reason =>
          dsimp only
          rw [if_pos (rpmReportsUnowned_iff.2 h)]
          rfl
  -- pacman: names on code 0, the marker on standard error otherwise
  | pacman =>
    dsimp only
    unfold parsePacmanNames
    constructor
    · intro h
      split at h
      · rename_i hcode
        split at h
        · rename_i hparsed
          cases h
          obtain ⟨names, hnames, rfl⟩ := parseNames_ok.1 hparsed
          exact ⟨names, .pacman hcode hnames, rfl⟩
        · cases h
      · rename_i hcode
        split at h
        · rename_i hmarker
          cases h
          exact ⟨[], .unowned ⟨hcode, contains_iff.1 hmarker⟩ (by simp), rfl⟩
        · cases h
    · rintro ⟨names, hreports, rfl⟩
      cases hreports with
      | pacman hcode hnames => rw [if_pos hcode, parseNames_ok.2 ⟨names, hnames, rfl⟩]
      | unowned h _ =>
        obtain ⟨hcode, hmarker⟩ : code ≠ 0 ∧ "No package owns".toList <:+: stderr := h
        rw [if_neg hcode, if_pos (contains_iff.2 hmarker)]
        rfl

/-- The names of a report are distinct. -/
theorem Reports.nodup {path : Text} {code : Int} {stdout stderr : Text} {family : PackageFamily}
    {names : List Text} (h : Reports path code stdout stderr family names) : names.Nodup := by
  cases h with
  | dpkg => exact eraseDups_nodup _
  | rpm hnames | pacman _ hnames =>
    rw [hnames.distinct]
    exact eraseDups_nodup _
  | unowned => exact List.nodup_nil

/-- Only the family's answer for it reports no name. -/
theorem Reports.of_nil {path : Text} {code : Int} {stdout stderr : Text} {family : PackageFamily}
    {names : List Text} (h : Reports path code stdout stderr family names) (hnil : names = []) :
    AnswersUnowned family path code stdout stderr := by
  cases h with
  | @dpkg records _ hrecords hsome =>
    -- a record has an id
    obtain ⟨ids, hmem, hids⟩ := List.any_eq_true.1 hsome
    obtain ⟨ids, rfl⟩ := Option.isSome_iff_exists.1 hids
    obtain ⟨line, -, parts, hne, -, -, rfl⟩ := mem_of_forall₂_right hrecords _ hmem
    obtain ⟨part, parts, rfl⟩ := List.exists_cons_of_ne_nil hne
    have hid : trim part ∈ (idsOf records).eraseDups := by
      rw [List.mem_eraseDups]
      exact List.mem_flatMap.2 ⟨_, hmem, List.mem_cons_self⟩
    rw [hnil] at hid
    cases hid
  | rpm hnames | pacman _ hnames => exact absurd hnil hnames.nonempty
  | unowned h => exact h

/-- The owners of a family are the unversioned packages of the names read. -/
theorem mem_ownersOf {family : PackageFamily} {names : List Text} {owner : PackageOwner} :
    owner ∈ ownersOf family names ↔
      owner.family = family ∧ owner.version = none ∧ owner.name ∈ names := by
  constructor
  · intro h
    obtain ⟨name, hname, rfl⟩ := List.mem_map.1 h
    exact ⟨rfl, rfl, hname⟩
  · rintro ⟨rfl, hversion, hname⟩
    refine List.mem_map.2 ⟨owner.name, hname, ?_⟩
    rw [← hversion]

/-- Distinct names give distinct owners. -/
theorem ownersOf_nodup {family : PackageFamily} {names : List Text} (h : names.Nodup) :
    (ownersOf family names).Nodup := by
  apply List.Nodup.map _ h
  intro name name' heq
  exact congrArg PackageOwner.name heq

namespace PackageDatabase

variable (packages : PackageDatabase) (path : Text)

/-! ## One database -/

/-- What a database that ran says. -/
def answer (db : Database) : Option (Except String (List PackageOwner)) :=
  match packages.probe db path with
  | .ran code stdout stderr => some (interpret db.family path code stdout stderr)
  | _ => none

def ownersIn (db : Database) : List PackageOwner :=
  match packages.answer path db with
  | some (.ok owners) => owners
  | _ => []

def errorsIn (db : Database) : List String :=
  match packages.probe db path with
  | .failed reason => [reason]
  | .unavailable => []
  | .ran code stdout stderr =>
    match interpret db.family path code stdout stderr with
    | .ok _ => []
    | .error reason => [reason]

/-- What the loop over the databases gathers, as three folds of the list. -/
theorem gathered_eq (databases : List Database) : ∀ gathered : Gathered,
    databases.foldl (packages.gather path) gathered =
      { allOwners := gathered.allOwners ++ databases.flatMap (packages.ownersIn path)
        errors := gathered.errors ++ databases.flatMap (packages.errorsIn path)
        sawAvailableDb := gathered.sawAvailableDb
          || databases.any fun db => (packages.answer path db).isSome } := by
  induction databases with
  | nil => intro gathered; simp
  | cons db databases ih =>
    intro gathered
    rw [List.foldl_cons, ih, List.flatMap_cons, List.flatMap_cons, List.any_cons]
    unfold gather ownersIn errorsIn answer
    cases packages.probe db path with
    | unavailable => simp
    | failed reason => simp
    | ran code stdout stderr =>
      dsimp only
      cases interpret db.family path code stdout stderr with
      | ok owners => simp
      | error reason => simp

/-- No error: a database ran, none failed to run, and each answer could be read. -/
structure Answered : Prop where
  ran : ∃ db ∈ packages.databases, ∃ code stdout stderr,
    packages.probe db path = .ran code stdout stderr
  runs : ∀ db ∈ packages.databases, ∀ reason, packages.probe db path ≠ .failed reason
  readable : ∀ db ∈ packages.databases, ∀ code stdout stderr,
    packages.probe db path = .ran code stdout stderr →
      ∃ names, Reports path code stdout stderr db.family names

/-- Some database answered exactly when some probe ran. -/
theorem any_answer_iff (databases : List Database) :
    (databases.any fun db => (packages.answer path db).isSome) = true ↔
      ∃ db ∈ databases, ∃ code stdout stderr, packages.probe db path = .ran code stdout stderr := by
  rw [List.any_eq_true]
  refine exists_congr fun db => and_congr_right fun _ => ?_
  unfold answer
  cases packages.probe db path <;> simp

/-- There is no error exactly when no probe failed and every answer was a report. -/
theorem errors_eq_nil_iff (databases : List Database) :
    databases.flatMap (packages.errorsIn path) = [] ↔
      (∀ db ∈ databases, ∀ reason, packages.probe db path ≠ .failed reason)
        ∧ ∀ db ∈ databases, ∀ code stdout stderr,
          packages.probe db path = .ran code stdout stderr →
            ∃ names, Reports path code stdout stderr db.family names := by
  have hone : ∀ db, packages.errorsIn path db = [] ↔
      (∀ reason, packages.probe db path ≠ .failed reason) ∧ ∀ code stdout stderr,
        packages.probe db path = .ran code stdout stderr →
          ∃ names, Reports path code stdout stderr db.family names := by
    intro db
    unfold errorsIn
    cases packages.probe db path with
    | unavailable => simp
    | failed reason => simp
    | ran code stdout stderr =>
      simp only [reduceCtorEq, not_false_eq_true, implies_true, true_and, ProbeOutcome.ran.injEq,
        and_imp, ne_eq]
      cases hread : interpret db.family path code stdout stderr with
      | ok owners =>
        refine iff_of_true rfl ?_
        rintro _ _ _ rfl rfl rfl
        obtain ⟨names, hreports, -⟩ := interpret_ok.1 hread
        exact ⟨names, hreports⟩
      | error reason =>
        refine iff_of_false (List.cons_ne_nil _ _) fun h => ?_
        obtain ⟨names, hreports⟩ := h _ _ _ rfl rfl rfl
        rw [interpret_ok.2 ⟨names, hreports, rfl⟩] at hread
        cases hread
  rw [List.flatMap_eq_nil_iff]
  constructor
  · intro h
    exact ⟨fun db hdb => ((hone db).1 (h db hdb)).1, fun db hdb => ((hone db).1 (h db hdb)).2⟩
  · rintro ⟨hruns, hreadable⟩ db hdb
    exact (hone db).2 ⟨hruns db hdb, hreadable db hdb⟩

def allOwners : List PackageOwner := packages.databases.flatMap (packages.ownersIn path)

/-- **Verdict.** Without an error it is what all owners amount to. -/
theorem ownerOf_ok {ownership : PathOwnership} :
    packages.ownerOf path = .ok ownership ↔
      packages.Answered path ∧ ownership = ownershipFromOwners (packages.allOwners path) := by
  unfold ownerOf
  rw [gathered_eq]
  dsimp only
  rw [Bool.false_or, List.nil_append, List.nil_append]
  have hran := packages.any_answer_iff path packages.databases
  have herrors := packages.errors_eq_nil_iff path packages.databases
  by_cases hany : (packages.databases.any fun db => (packages.answer path db).isSome) = true
  · rw [if_neg (by simp [hany])]
    by_cases hnone : packages.databases.flatMap (packages.errorsIn path) = []
    · rw [if_neg (not_not.2 hnone)]
      obtain ⟨hruns, hreadable⟩ := herrors.1 hnone
      constructor
      · intro h
        cases h
        exact ⟨⟨hran.1 hany, hruns, hreadable⟩, rfl⟩
      · rintro ⟨-, rfl⟩
        rfl
    · rw [if_pos hnone]
      refine iff_of_false (fun h => by cases h) fun h => ?_
      exact hnone (herrors.2 ⟨h.1.runs, h.1.readable⟩)
  · rw [if_pos (by simp [hany])]
    exact iff_of_false (fun h => by cases h) fun h => hany (hran.2 h.1.ran)

/-! ## What was reported -/

/-- A pair of a family and a package of it that a database has reported. -/
def Reported (family : PackageFamily) (name : Text) : Prop :=
  ∃ db ∈ packages.databases, db.family = family ∧ ∃ code stdout stderr names,
    packages.probe db path = .ran code stdout stderr
      ∧ Reports path code stdout stderr db.family names ∧ name ∈ names

/-- A database that reported names contributes their owners. -/
theorem ownersIn_eq {db : Database} {code : Int} {stdout stderr : Text} {names : List Text}
    (hran : packages.probe db path = .ran code stdout stderr)
    (hreports : Reports path code stdout stderr db.family names) :
    packages.ownersIn path db = ownersOf db.family names := by
  unfold ownersIn answer
  rw [hran]
  dsimp only
  rw [interpret_ok.2 ⟨names, hreports, rfl⟩]

/-- A database owns nothing, or what its run reports. -/
theorem ownersIn_cases (db : Database) :
    packages.ownersIn path db = [] ∨ ∃ code stdout stderr names,
      packages.probe db path = .ran code stdout stderr
        ∧ Reports path code stdout stderr db.family names
        ∧ packages.ownersIn path db = ownersOf db.family names := by
  unfold ownersIn answer
  cases packages.probe db path with
  | unavailable => exact .inl rfl
  | failed reason => exact .inl rfl
  | ran code stdout stderr =>
    dsimp only
    cases hread : interpret db.family path code stdout stderr with
    | error reason => exact .inl rfl
    | ok owners =>
      obtain ⟨names, hreports, rfl⟩ := interpret_ok.1 hread
      exact .inr ⟨code, stdout, stderr, names, rfl, hreports, rfl⟩

/-- Every owner a database contributes is of its family. -/
theorem family_of_mem_ownersIn {db : Database} {owner : PackageOwner}
    (h : owner ∈ packages.ownersIn path db) : owner.family = db.family := by
  rcases packages.ownersIn_cases path db with hnil | ⟨_, _, _, names, -, -, hnames⟩
  · rw [hnil] at h
    cases h
  · rw [hnames] at h
    exact (mem_ownersOf.1 h).1

/-- **The owners** are the pairs that were reported. -/
theorem mem_allOwners {owner : PackageOwner} :
    owner ∈ packages.allOwners path ↔
      owner.version = none ∧ packages.Reported path owner.family owner.name := by
  constructor
  · intro h
    obtain ⟨db, hdb, hmem⟩ := List.mem_flatMap.1 h
    rcases packages.ownersIn_cases path db with hnil | ⟨_, _, _, names, hran, hreports, hnames⟩
    · rw [hnil] at hmem
      cases hmem
    · rw [hnames] at hmem
      obtain ⟨hfamily, hversion, hname⟩ := mem_ownersOf.1 hmem
      exact ⟨hversion, db, hdb, hfamily.symm, _, _, _, names, hran, hreports, hname⟩
  · rintro ⟨hversion, db, hdb, hfamily, _, _, _, names, hran, hreports, hname⟩
    refine List.mem_flatMap.2 ⟨db, hdb, ?_⟩
    rw [packages.ownersIn_eq path hran hreports]
    exact mem_ownersOf.2 ⟨hfamily.symm, hversion, hname⟩

/-- Databases of distinct families never contribute one owner twice. -/
theorem nodup_allOwners (hfamilies : (packages.databases.map (·.family)).Nodup) :
    (packages.allOwners path).Nodup := by
  unfold allOwners
  rw [List.nodup_flatMap]
  constructor
  · intro db _
    rcases packages.ownersIn_cases path db with hnil | ⟨_, _, _, names, -, hreports, hnames⟩
    · rw [hnil]
      exact List.nodup_nil
    · rw [hnames]
      exact ownersOf_nodup hreports.nodup
  · -- owners of different databases are of different families
    have hpairwise := List.pairwise_map.1 hfamilies
    refine hpairwise.imp ?_
    intro db db' hne owner howner howner'
    have hfamily := packages.family_of_mem_ownersIn path howner
    have hfamily' := packages.family_of_mem_ownersIn path howner'
    exact hne (hfamily.symm.trans hfamily')

/-- There is one owner exactly if one pair was reported. -/
theorem allOwners_eq_singleton (hfamilies : (packages.databases.map (·.family)).Nodup)
    {owner : PackageOwner} :
    packages.allOwners path = [owner] ↔ owner.version = none
      ∧ ∀ family name, packages.Reported path family name ↔
        family = owner.family ∧ name = owner.name := by
  constructor
  · intro hone
    have hmem : ∀ other, other ∈ packages.allOwners path ↔ other = owner := by
      rw [hone]
      simp
    have hversion := ((packages.mem_allOwners path).1 ((hmem owner).2 rfl)).1
    refine ⟨hversion, fun family name => ?_⟩
    have hpair := (packages.mem_allOwners path).symm.trans (hmem ⟨family, name, none⟩)
    obtain ⟨family', name', version⟩ := owner
    obtain rfl : version = none := hversion
    simpa using hpair
  · rintro ⟨hversion, hreported⟩
    have hmem : ∀ other, other ∈ packages.allOwners path ↔ other = owner := by
      intro other
      rw [packages.mem_allOwners path, hreported]
      obtain ⟨family', name', version⟩ := owner
      obtain ⟨family, name, version'⟩ := other
      obtain rfl : version = none := hversion
      simp only [PackageOwner.mk.injEq]
      tauto
    have hperm : (packages.allOwners path).Perm [owner] :=
      (List.perm_ext_iff_of_nodup (packages.nodup_allOwners path hfamilies)
        (List.nodup_singleton owner)).2 fun other => by rw [hmem, List.mem_singleton]
    exact List.perm_singleton.1 hperm

/-- There are more owners exactly if two different pairs were reported. -/
theorem one_lt_allOwners (hfamilies : (packages.databases.map (·.family)).Nodup) :
    1 < (packages.allOwners path).length ↔ ∃ family name family' name',
      packages.Reported path family name ∧ packages.Reported path family' name'
        ∧ (family, name) ≠ (family', name') := by
  have hnodup := packages.nodup_allOwners path hfamilies
  constructor
  · intro hmany
    match hlist : packages.allOwners path with
    | [] | [owner] =>
      rw [hlist] at hmany
      simp at hmany
    | owner :: next :: rest =>
      have hfirst : owner ∈ packages.allOwners path := by simp [hlist]
      have hsecond : next ∈ packages.allOwners path := by simp [hlist]
      have howner := (packages.mem_allOwners path).1 hfirst
      have hnext := (packages.mem_allOwners path).1 hsecond
      -- the first two owners differ, because none is listed twice
      refine ⟨_, _, _, _, howner.2, hnext.2, fun hsame => ?_⟩
      rw [hlist, List.nodup_cons] at hnodup
      obtain ⟨family, name, version⟩ := owner
      obtain ⟨family', name', version'⟩ := next
      obtain rfl : version = none := howner.1
      obtain rfl : version' = none := hnext.1
      obtain ⟨rfl, rfl⟩ := Prod.mk.inj hsame
      exact hnodup.1 (by simp)
  · rintro ⟨family, name, family', name', hreported, hreported', hne⟩
    have howner : (⟨family, name, none⟩ : PackageOwner) ∈ packages.allOwners path :=
      (packages.mem_allOwners path).2 ⟨rfl, hreported⟩
    have hnext : (⟨family', name', none⟩ : PackageOwner) ∈ packages.allOwners path :=
      (packages.mem_allOwners path).2 ⟨rfl, hreported'⟩
    match hlist : packages.allOwners path with
    | [] =>
      rw [hlist] at howner
      cases howner
    | [owner] =>
      rw [hlist, List.mem_singleton] at howner hnext
      rw [← howner] at hnext
      cases hnext
      exact absurd rfl hne
    | owner :: next :: rest =>
      rw [List.length_cons, List.length_cons]
      omega

/-- An empty verdict is made of the families' own answers. -/
theorem answersUnowned_of_allOwners {packages : PackageDatabase} {path : Text}
    (hanswered : packages.Answered path) (hnone : packages.allOwners path = []) :
    ∀ db ∈ packages.databases, ∀ code stdout stderr,
      packages.probe db path = .ran code stdout stderr →
        AnswersUnowned db.family path code stdout stderr := by
  intro db hdb code stdout stderr hran
  obtain ⟨names, hreports⟩ := hanswered.readable db hdb code stdout stderr hran
  have hempty : ownersOf db.family names = [] := by
    rw [← packages.ownersIn_eq path hran hreports]
    exact List.flatMap_eq_nil_iff.1 hnone db hdb
  exact hreports.of_nil (List.map_eq_nil_iff.1 hempty)

end PackageDatabase

/-- The verdict is owned exactly for a single owner. -/
theorem ownershipFromOwners_owned {owners : List PackageOwner} {owner : PackageOwner} :
    .owned owner = ownershipFromOwners owners ↔ owners = [owner] := by
  match owners with
  | [] => simp [ownershipFromOwners]
  | [other] => simp [ownershipFromOwners, eq_comm]
  | other :: next :: rest => simp [ownershipFromOwners]

/-- The verdict is conflicting exactly for two owners or more, and it lists all of them. -/
theorem ownershipFromOwners_conflicting {owners found : List PackageOwner} :
    .conflicting found = ownershipFromOwners owners ↔ found = owners ∧ 1 < owners.length := by
  match owners with
  | [] => simp [ownershipFromOwners]
  | [other] => simp [ownershipFromOwners]
  | other :: next :: rest => simp [ownershipFromOwners]

/-! ## The order of the databases -/

/-- Verdicts that differ in the order of their parts only. -/
inductive SameVerdict : Except PackageDatabaseError PathOwnership →
    Except PackageDatabaseError PathOwnership → Prop
  | error {reasons reasons' : List String} (h : reasons.Perm reasons') :
      SameVerdict (.error (.probeFailed ("; ".intercalate reasons)))
        (.error (.probeFailed ("; ".intercalate reasons')))
  | unowned : SameVerdict (.ok .unowned) (.ok .unowned)
  | owned (owner : PackageOwner) : SameVerdict (.ok (.owned owner)) (.ok (.owned owner))
  | conflicting {owners owners' : List PackageOwner} (h : owners.Perm owners') :
      SameVerdict (.ok (.conflicting owners)) (.ok (.conflicting owners'))

/-- The verdict does not depend on the order of the owners. -/
theorem sameVerdict_of_perm {owners owners' : List PackageOwner} (h : owners.Perm owners') :
    SameVerdict (.ok (ownershipFromOwners owners)) (.ok (ownershipFromOwners owners')) := by
  have hlength := h.length_eq
  match owners, owners', hlength with
  | [], [], _ => exact .unowned
  | [owner], [owner'], _ =>
    obtain rfl : owner = owner' := List.singleton_perm_singleton.1 h
    exact .owned owner
  | owner :: next :: owners, owner' :: next' :: owners', _ => exact .conflicting h

/-- The verdict does not depend on the order of the databases. -/
theorem PackageDatabase.ownerOf_perm (packages : PackageDatabase) (path : Text)
    {databases : List Database} (h : packages.databases.Perm databases) :
    SameVerdict (packages.ownerOf path) ({ packages with databases }.ownerOf path) := by
  unfold PackageDatabase.ownerOf
  rw [PackageDatabase.gathered_eq, PackageDatabase.gathered_eq]
  dsimp only
  -- each of the three folds is insensitive to the order
  have hany : (packages.databases.any fun db => (packages.answer path db).isSome)
      = databases.any fun db => (packages.answer path db).isSome := h.any_eq
  have herrors : (packages.databases.flatMap (packages.errorsIn path)).Perm
      (databases.flatMap (packages.errorsIn path)) := h.flatMap_right _
  have howners : (packages.databases.flatMap (packages.ownersIn path)).Perm
      (databases.flatMap (packages.ownersIn path)) := h.flatMap_right _
  change SameVerdict _ (if !(false || databases.any fun db => (packages.answer path db).isSome) then _
    else if [] ++ databases.flatMap (packages.errorsIn path) ≠ [] then
      .error (.probeFailed ("; ".intercalate ([] ++ databases.flatMap (packages.errorsIn path))))
    else .ok (ownershipFromOwners ([] ++ databases.flatMap (packages.ownersIn path))))
  rw [← hany]
  simp only [List.nil_append, Bool.false_or]
  split
  · have hreason : "no package database available on this host"
        = "; ".intercalate ["no package database available on this host"] := by
      rw [String.intercalate_singleton]
    rw [hreason]
    exact .error (List.Perm.refl _)
  · by_cases hnone : packages.databases.flatMap (packages.errorsIn path) = []
    · have hnone' : databases.flatMap (packages.errorsIn path) = [] := by
        rw [hnone] at herrors
        exact List.nil_perm.1 herrors
      rw [if_neg (not_not.2 hnone), if_neg (not_not.2 hnone')]
      exact sameVerdict_of_perm howners
    · have hsome : databases.flatMap (packages.errorsIn path) ≠ [] := by
        intro hnone'
        rw [hnone'] at herrors
        exact hnone (List.perm_nil.1 herrors)
      rw [if_pos hnone, if_pos hsome]
      exact .error herrors

/-! ## The law -/

/-- **Fails closed.** A path is unowned only if some database ran, none failed to run and each that
ran gave its family's answer for that; if a database ran, none failed and each answer can be read,
the one pair of family and package that was reported is the owner, and more are the conflict; the
order of the databases only orders what is reported. A text of dpkg is accepted exactly when all its
lines are records, and gives the distinct ids in order. -/
theorem package_ownership_fails_closed (packages : PackageDatabase) (path : Text)
    (hfamilies : (packages.databases.map (·.family)).Nodup) :
    (packages.ownerOf path = .ok .unowned →
        (∃ db ∈ packages.databases, ∃ code stdout stderr,
          packages.probe db path = .ran code stdout stderr)
        ∧ (∀ db ∈ packages.databases, ∀ reason, packages.probe db path ≠ .failed reason)
        ∧ ∀ db ∈ packages.databases, ∀ code stdout stderr,
          packages.probe db path = .ran code stdout stderr →
            AnswersUnowned db.family path code stdout stderr)
      ∧ (∀ owner, packages.ownerOf path = .ok (.owned owner) ↔
        packages.Answered path ∧ owner.version = none ∧ ∀ family name,
          packages.Reported path family name ↔ family = owner.family ∧ name = owner.name)
      ∧ ((∃ owners, packages.ownerOf path = .ok (.conflicting owners)) ↔
        packages.Answered path ∧ ∃ family name family' name',
          packages.Reported path family name ∧ packages.Reported path family' name'
            ∧ (family, name) ≠ (family', name'))
      ∧ (∀ owners, packages.ownerOf path = .ok (.conflicting owners) →
        owners.Nodup ∧ ∀ owner, owner ∈ owners ↔
          owner.version = none ∧ packages.Reported path owner.family owner.name)
      ∧ (∀ databases, packages.databases.Perm databases →
        SameVerdict (packages.ownerOf path) ({ packages with databases }.ownerOf path))
      ∧ ∀ lines family,
        ((∃ owners, parseDpkgOwners lines path family = .ok owners) ↔
          (∀ line ∈ lines, isDiversion (trim line) = true
            ∨ ∃ ids, OwnershipRecord path (trim line) ids)
          ∧ ∃ line ∈ lines, ∃ ids, OwnershipRecord path (trim line) ids)
        ∧ ∀ owners, parseDpkgOwners lines path family = .ok owners →
          ∃ records, List.Forall₂ (LineIds path) lines records
            ∧ owners = ownersOf family (idsOf records).eraseDups := by
  refine ⟨fun hunowned => ?_, fun owner => ?_, ?_, fun owners hconflict => ?_,
    fun databases hperm => packages.ownerOf_perm path hperm,
    fun lines family => ⟨parseDpkgOwners_isOk, fun owners hparsed => ?_⟩⟩
  · obtain ⟨hall, hownership⟩ := (packages.ownerOf_ok path).1 hunowned
    -- unowned: no database that answered named an owner
    have hnone : packages.allOwners path = [] := by
      unfold ownershipFromOwners at hownership
      split at hownership
      · assumption
      · cases hownership
      · cases hownership
    exact ⟨hall.ran, hall.runs, PackageDatabase.answersUnowned_of_allOwners hall hnone⟩
  · rw [packages.ownerOf_ok path, ownershipFromOwners_owned,
      packages.allOwners_eq_singleton path hfamilies]
  · rw [← packages.one_lt_allOwners path hfamilies]
    constructor
    · rintro ⟨owners, hconflict⟩
      obtain ⟨hall, hownership⟩ := (packages.ownerOf_ok path).1 hconflict
      exact ⟨hall, (ownershipFromOwners_conflicting.1 hownership).2⟩
    · rintro ⟨hall, hmany⟩
      refine ⟨packages.allOwners path, (packages.ownerOf_ok path).2 ⟨hall, ?_⟩⟩
      exact ownershipFromOwners_conflicting.2 ⟨rfl, hmany⟩
  · obtain ⟨-, hownership⟩ := (packages.ownerOf_ok path).1 hconflict
    -- the conflicting list is all owners named, each of them once
    obtain rfl := (ownershipFromOwners_conflicting.1 hownership).1
    exact ⟨packages.nodup_allOwners path hfamilies, fun owner => packages.mem_allOwners path⟩
  · obtain ⟨records, hrecords, -, howners⟩ := parseDpkgOwners_ok.1 hparsed
    exact ⟨records, hrecords, howners⟩

def dpkgDatabase : Database :=
  ⟨"dpkg-query", "/usr/bin/dpkg-query", ["-S"], .dpkg, ["DPKG_ROOT", "DPKG_ADMINDIR"]⟩

def pacmanDatabase : Database := ⟨"pacman", "/usr/bin/pacman", ["-Qq", "--owns"], .pacman, []⟩

/-- A host on which dpkg knows one path, and pacman, if it is there, a package of that path. -/
def mixedHost (databases : List Database) : PackageDatabase where
  databases := databases
  probe db path :=
    if path = "/opt/lg-buddy".toList then
      match db.family with
      | .dpkg => .ran 0 "lg-buddy: /opt/lg-buddy".toList []
      | _ => .ran 0 "lg-buddy-git".toList []
    else .ran 1 [] "dpkg-query: no path found matching pattern".toList

/-- The three verdicts: a path that nobody owns, one that dpkg owns, and one that pacman owns too. -/
theorem ownership_on_a_host :
    AnswersUnowned .dpkg "/opt/other".toList 1 []
        "dpkg-query: no path found matching pattern".toList
      ∧ ((mixedHost [dpkgDatabase]).Reported "/opt/lg-buddy".toList .dpkg "lg-buddy".toList
        ∧ ∀ name, ¬ (mixedHost [dpkgDatabase]).Reported "/opt/lg-buddy".toList .pacman name)
      ∧ ((mixedHost [dpkgDatabase, pacmanDatabase]).Answered "/opt/lg-buddy".toList
        ∧ (mixedHost [dpkgDatabase, pacmanDatabase]).Reported "/opt/lg-buddy".toList .pacman
          "lg-buddy-git".toList) := by
  refine ⟨?_, ?_, ?_⟩
  · exact ((package_ownership_fails_closed (mixedHost [dpkgDatabase]) "/opt/other".toList
      (by decide)).1 (by decide)).2.2 _ List.mem_cons_self _ _ _ (by decide)
  · have howned := ((package_ownership_fails_closed (mixedHost [dpkgDatabase])
      "/opt/lg-buddy".toList (by decide)).2.1 ⟨.dpkg, "lg-buddy".toList, none⟩).1 (by decide)
    refine ⟨(howned.2.2 _ _).2 ⟨rfl, rfl⟩, fun name hname => ?_⟩
    cases ((howned.2.2 _ _).1 hname).1
  · obtain ⟨-, -, hconflict, hmembers, -⟩ := package_ownership_fails_closed
      (mixedHost [dpkgDatabase, pacmanDatabase]) "/opt/lg-buddy".toList (by decide)
    have hverdict : (mixedHost [dpkgDatabase, pacmanDatabase]).ownerOf "/opt/lg-buddy".toList
        = .ok (.conflicting [⟨.dpkg, "lg-buddy".toList, none⟩,
          ⟨.pacman, "lg-buddy-git".toList, none⟩]) := by decide
    refine ⟨(hconflict.1 ⟨_, hverdict⟩).1, ?_⟩
    exact (((hmembers _ hverdict).2 ⟨.pacman, "lg-buddy-git".toList, none⟩).1 (by simp)).2

/-- A record whose ids have no white space around them. -/
def BareRecord (path line : Text) : Prop :=
  ∃ parts : List Text, parts ≠ [] ∧ (∀ part ∈ parts, isPackageId part = true)
    ∧ line = [',', ' '].intercalate parts ++ ':' :: ' ' :: path

/-- The claimed records: those without such white space. -/
def RecordsAreBare : Prop :=
  ∀ (lines : List Text) (path : Text) (family : PackageFamily),
    (∃ owners, parseDpkgOwners lines path family = .ok owners) ↔
      (∀ line ∈ lines, isDiversion (trim line) = true ∨ BareRecord path (trim line))
        ∧ ∃ line ∈ lines, BareRecord path (trim line)

/-- A blank between the id and the colon is trimmed, so the line is accepted. -/
theorem padded_id_accepted : ¬ RecordsAreBare := by
  intro hclaim
  have haccepted : parseDpkgOwners ["pkg : /p".toList] "/p".toList .dpkg
      = .ok [⟨.dpkg, "pkg".toList, none⟩] := by decide
  obtain ⟨-, line, hline, parts, hne, hvalid, hrecord⟩ :=
    (hclaim ["pkg : /p".toList] "/p".toList .dpkg).1 ⟨_, haccepted⟩
  rw [List.mem_singleton.1 hline] at hrecord
  have htrim : trim "pkg : /p".toList = "pkg ".toList ++ ':' :: ' ' :: "/p".toList := by decide
  rw [htrim, List.append_left_inj] at hrecord
  match parts, hne with
  | [part], _ =>
    rw [List.intercalate_singleton] at hrecord
    have hinvalid := hvalid part List.mem_cons_self
    rw [← hrecord] at hinvalid
    revert hinvalid
    decide
  | part :: next :: rest, _ =>
    have hcomma : ',' ∈ "pkg ".toList := by
      rw [hrecord, List.intercalate_cons_cons]
      simp
    revert hcomma
    decide

/-- A host on which every database ends with an unknown status. -/
def brokenHost (databases : List Database) : PackageDatabase where
  databases := databases
  probe _ _ := .ran 2 [] []

/-- The claimed verdict: only the owners of a conflict depend on the order of the databases. -/
def OrderIsFree : Prop :=
  ∀ (packages : PackageDatabase) (path : Text) (databases : List Database),
    (packages.databases.map (·.family)).Nodup → packages.databases.Perm databases →
      packages.ownerOf path = { packages with databases }.ownerOf path
        ∨ ∃ owners owners', packages.ownerOf path = .ok (.conflicting owners)
          ∧ { packages with databases }.ownerOf path = .ok (.conflicting owners')

/-- The reasons of an error stand in the order of the databases. -/
theorem reasons_keep_order : ¬ OrderIsFree := by
  intro hclaim
  have hswap : [dpkgDatabase, pacmanDatabase].Perm [pacmanDatabase, dpkgDatabase] :=
    List.Perm.swap _ _ _
  rcases hclaim (brokenHost [dpkgDatabase, pacmanDatabase]) "/p".toList _ (by decide) hswap with
    hsame | ⟨owners, -, hconflict, -⟩
  · exact absurd hsame (by decide)
  · have herror : ((brokenHost [dpkgDatabase, pacmanDatabase]).ownerOf "/p".toList).isOk = false := by
      decide
    rw [hconflict] at herror
    cases herror

/-- **Neither holds exactly**: white space may surround an id, and an error gives its reasons in the
order of the databases. -/
theorem ownership_is_not_exact : ¬ RecordsAreBare ∧ ¬ OrderIsFree :=
  ⟨padded_id_accepted, reasons_keep_order⟩

end LgBuddy
