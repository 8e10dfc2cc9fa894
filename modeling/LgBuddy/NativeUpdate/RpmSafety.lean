import LgBuddy.NativeUpdate.PlanSafety
import LgBuddy.NativeUpdate.Rpm

/-!
# LgBuddy — only verified packages are replayed

Every run of the privileged RPM update, whatever the host, DNF and the release say.

* `RpmCall.quiet`, `Looks` — the parts that only look;
* `Installed`, `Upgradable`, `Verified` — what the checks have learned when they pass;
* `Prepared`, `wpE_prepareTransaction` — the transaction directory when all is checked and copied;
* `Ready` — what holds at a replay; `rpm_update_is_verified` — the law.
-/

namespace LgBuddy

namespace RpmUpdate

open NativePackage (PublishedFile)
open Program (Entry Scene Says says_one wpE)
open Program.Scripted (Observes Quietly contract wpE_ask)
open Fallible (bind_ok mapError_ok)

/-! ## Parts that only look -/

abbrev RpmEntry := Program.Entry RpmCall.Answer RpmWorld

abbrev RpmScene := Program.Scene RpmCall.Answer RpmWorld

/-- The calls that leave the private directories alone. -/
def RpmCall.quiet : RpmCall → Bool
  | .receive _ | .store | .copy _ | .replay => false
  | _ => true

variable {trust : RpmTrust} {α β : Type}

/-- A quiet call changes nothing of the world that matters. -/
theorem answer_quiet {call : RpmCall} (h : call.quiet = true) (m : RpmMoment) (w : RpmWorld) :
    (w.answer trust m call).2 = w := by
  cases call with
  | receive | store | copy | replay => cases h
  | checkSignature path =>
    dsimp only [RpmWorld.answer]
    split <;> rfl
  | euid | osRelease | nativePaths | owner | isFile | installedState | inputMetadata | readPlan
  | symlinkMetadata | createParent | announce | readIdentity => rfl

abbrev Looks (trust : RpmTrust) (p : RpmProgram α) (P : α → List RpmEntry → Prop) : Prop :=
  Observes (RpmWorld.answer trust) (fun call => call.quiet = true) p P

/-- What a call is answered is all that is learnt from it. -/
theorem looks_ask {call : RpmCall} (h : call.quiet = true) {P : call.Answer → List RpmEntry → Prop}
    (hP : ∀ w a, P a [⟨w, call, a, w⟩]) : Looks trust (ask call) P := by
  unfold ask Looks
  refine Observes.ask ?_ (answer_quiet h) hP
  exact h

/-- A check that passes makes no call. -/
theorem looks_orThrow {x : Except String α} {P : α → List RpmEntry → Prop}
    (h : ∀ a, x = .ok a → P a []) : Looks trust (orThrow x) P := by
  cases x with
  | ok a => exact Observes.pure (h a rfl)
  | error message => exact Observes.throw message

/-! ## The checks -/

/-- Both binaries belong to the package, and this is its version. -/
structure Installed (semver : Semver) (version : Text) (made : List RpmEntry) : Prop where
  owned : ∀ path ∈ [runtimePath, guiPath], ∃ owner : PackageOwner,
    Says made (.owner path) (.ok (.owned owner)) ∧ owner.family = .rpm ∧ owner.name = lgBuddyName
  state : ∃ state, Says made .installedState (.ok state) ∧ parseInstalledState semver state = .ok version

/-- The platform is checked against what the system says of itself. -/
theorem looks_platform : Looks trust automaticUpdatePreflight fun _ made =>
    ∃ osRelease, Says made .osRelease (some osRelease) ∧ supportedPlatform osRelease = true := by
  unfold automaticUpdatePreflight
  refine Observes.bind (looks_ask rfl (P := fun a made => Says made .osRelease a)
    fun w a => says_one a) ?_
  intro found made hmade
  cases found with
  | none => exact Observes.throw _
  | some osRelease =>
    dsimp only
    split
    · rename_i hsupported
      exact Observes.pure ⟨osRelease, by simpa using hmade, hsupported⟩
    · exact Observes.throw _

/-- A path has to be owned by the installed package. -/
theorem looks_requireOwned (path : Text) : Looks trust (requireOwned path) fun _ made =>
    ∃ owner : PackageOwner, Says made (.owner path) (.ok (.owned owner)) ∧ owner.family = .rpm
      ∧ owner.name = lgBuddyName := by
  unfold requireOwned
  refine Observes.bind (looks_ask rfl (P := fun a made => Says made (.owner path) a)
    fun w a => says_one a) ?_
  intro answer made hmade
  split
  · rename_i owner
    split
    · rename_i hours
      exact Observes.pure ⟨owner, by simpa using hmade, hours.1, hours.2⟩
    · exact Observes.throw _
  · exact Observes.throw _

/-- A tool has to be there. -/
theorem looks_requireTool (path : String) : Looks trust (requireTool path) fun _ _ => True := by
  unfold requireTool
  refine Observes.bind (looks_ask rfl (P := fun _ _ => True) fun _ _ => trivial) ?_
  intro isFile made _
  split
  · exact Observes.pure trivial
  · exact Observes.throw _

theorem looks_forM {f : β → RpmProgram Unit} (hf : ∀ b, Looks trust (f b) fun _ _ => True)
    (xs : List β) : Looks trust (xs.forM f) fun _ _ => True := by
  induction xs with
  | nil => exact Observes.pure trivial
  | cons b xs ih => exact Observes.bind (hf b) fun _ _ _ => ih

/-- The installed version counts only with both binaries owned and all tools there. -/
theorem looks_installedVersion {semver : Semver} :
    Looks trust (installedVersion semver) (Installed semver) := by
  unfold installedVersion
  refine Observes.bind (looks_ask rfl (P := fun _ _ => True) fun _ _ => trivial) fun _ _ _ => ?_
  refine Observes.bind (looks_orThrow (P := fun _ _ => True) fun _ _ => trivial) fun _ _ _ => ?_
  refine Observes.bind (looks_requireOwned runtimePath) fun _ made₁ hruntime => ?_
  refine Observes.bind (looks_requireOwned guiPath) fun _ made₂ hgui => ?_
  refine Observes.bind (looks_forM looks_requireTool nativeTools) fun _ made₃ _ => ?_
  refine Observes.bind (looks_ask rfl (P := fun a made => Says made .installedState a)
    fun w a => says_one a) fun answer made₄ hstate => ?_
  refine Observes.bind (looks_orThrow (P := fun state made => made = [] ∧ answer = .ok state)
    fun state h => ⟨rfl, h⟩) ?_
  rintro state _ ⟨rfl, rfl⟩
  refine looks_orThrow fun version hversion => ⟨?_, state, hstate.mono ?_, hversion⟩
  · intro path hpath
    have hcases : path = runtimePath ∨ path = guiPath := by simpa using hpath
    rcases hcases with rfl | rfl
    · obtain ⟨owner, howner, hours⟩ := hruntime
      exact ⟨owner, howner.mono fun x hx => by simp [hx], hours⟩
    · obtain ⟨owner, howner, hours⟩ := hgui
      exact ⟨owner, howner.mono fun x hx => by simp [hx], hours⟩
  · intro x hx
    simp [hx]

/-- A package of an older version is installed, on a platform that is supported. -/
structure Upgradable (semver : Semver) (expected : ReleaseIdentity) (made : List RpmEntry) :
    Prop where
  platform : ∃ osRelease, Says made .osRelease (some osRelease)
    ∧ supportedPlatform osRelease = true
  older : ∃ version release, Installed semver (packagedText semver version release) made
    ∧ Packaged semver version release
    ∧ (semver.cmp version expected.version).then (compare release 1) = .lt

/-- The target is the identity's version, first revision, in the package's writing. -/
theorem targetVersion_ok {semver : Semver} {expected : ReleaseIdentity} {target : Text} :
    targetVersion semver expected = .ok target ↔ expected.version.build = "" ∧
      Rpm.validPrerelease expected.version.pre.toList = true ∧
        target = packagedText semver expected.version 1 := by
  rw [targetVersion, mapError_ok, nativeVersion_ok]
  rfl

/-- An update is made only to a newer version than the installed one. -/
theorem looks_candidatePreflight {semver : Semver} (hsemver : semver.Lawful)
    {expected : ReleaseIdentity} (hreads : semver.Reads expected.version) :
    Looks trust (candidatePreflight semver expected) fun _ made =>
      Upgradable semver expected made := by
  unfold candidatePreflight
  refine Observes.bind looks_platform fun _ made₁ hplatform => ?_
  refine Observes.bind looks_installedVersion fun current made₂ hinstalled => ?_
  refine Observes.bind (looks_orThrow (P := fun target made => made = [] ∧
    targetVersion semver expected = .ok target) fun target h => ⟨rfl, h⟩) ?_
  rintro target _ ⟨rfl, htarget⟩
  refine Observes.bind (looks_orThrow (P := fun parsed made => made = [] ∧
    parseNativeVersion semver current = .ok parsed) fun parsed h => ⟨rfl, h⟩) ?_
  rintro ⟨version, release⟩ _ ⟨rfl, hcurrent⟩
  refine Observes.bind (looks_orThrow (P := fun parsed made => made = [] ∧
    parseNativeVersion semver target = .ok parsed) fun parsed h => ⟨rfl, h⟩) ?_
  rintro parsed _ ⟨rfl, hparsed⟩
  obtain ⟨hbuild, hpre, rfl⟩ := targetVersion_ok.1 htarget
  -- the target is read as what it was written from
  have hread : parseNativeVersion semver (packagedText semver expected.version 1)
      = .ok (expected.version, 1) :=
    parse_packagedText hsemver ⟨hreads, hbuild, hpre, by decide, by decide⟩
  rw [hread] at hparsed
  obtain rfl := Except.ok.inj hparsed
  obtain ⟨hpackaged, rfl⟩ := packaged_of_parse hcurrent
  split
  · exact Observes.throw _
  · rename_i hnewer
    have hless : (semver.cmp version expected.version).then (compare release 1) = .lt := by
      simpa [notNewer] using hnewer
    refine Observes.pure ⟨?_, version, release, ?_, hpackaged, hless⟩
    · obtain ⟨osRelease, hsays, hsupported⟩ := hplatform
      exact ⟨osRelease, hsays.mono fun x hx => by simp [hx], hsupported⟩
    · refine ⟨fun path hpath => ?_, ?_⟩
      · obtain ⟨owner, howner, hours⟩ := hinstalled.owned path hpath
        exact ⟨owner, howner.mono fun x hx => by simp [hx], hours⟩
      · obtain ⟨state, hstate, hversion⟩ := hinstalled.state
        exact ⟨state, hstate.mono fun x hx => by simp [hx], hversion⟩

/-- The new version is installed, and both binaries are of the release. -/
structure Verified (semver : Semver) (expected : ReleaseIdentity) (made : List RpmEntry) :
    Prop where
  installed : Installed semver (packagedText semver expected.version 1) made
  runtime : Says made (.readIdentity "/usr/bin/lg-buddy" expected.target expected.releaseTag)
    (.ok expected)
  gui : Says made (.readIdentity "/usr/bin/lg-buddy-gui" expected.gui.target expected.releaseTag)
    (.ok expected.gui)

/-- The binary has to name the very identity that was expected. -/
theorem looks_verifyIdentity (path : String) (expected : ReleaseIdentity) :
    Looks trust (verifyIdentity path expected) fun _ made =>
      Says made (.readIdentity path expected.target expected.releaseTag) (.ok expected) := by
  unfold verifyIdentity
  refine Observes.bind (looks_ask rfl (P := fun a made =>
    Says made (.readIdentity path expected.target expected.releaseTag) a)
    fun w a => says_one a) fun answer made hmade => ?_
  refine Observes.bind (looks_orThrow (P := fun observed made => made = [] ∧
    answer = .ok observed) fun observed h => ⟨rfl, h⟩) ?_
  rintro observed _ ⟨rfl, rfl⟩
  split
  · exact Observes.throw _
  · rename_i hsame
    obtain rfl := not_not.1 hsame
    exact Observes.pure (by simpa using hmade)

/-- After the update both binaries have to, and the version has to be the target. -/
theorem looks_verifyInstalled (semver : Semver) (expected : ReleaseIdentity) :
    Looks trust (verifyInstalled semver expected) fun _ made => Verified semver expected made := by
  unfold verifyInstalled
  refine Observes.bind looks_installedVersion fun observed made₁ hinstalled => ?_
  refine Observes.bind (looks_orThrow (P := fun target made => made = [] ∧
    targetVersion semver expected = .ok target) fun target h => ⟨rfl, h⟩) ?_
  rintro target _ ⟨rfl, htarget⟩
  obtain ⟨-, -, rfl⟩ := targetVersion_ok.1 htarget
  split
  · exact Observes.throw _
  · rename_i hsame
    obtain rfl := not_not.1 hsame
    refine Observes.bind (looks_verifyIdentity _ expected) fun _ made₂ hruntime => ?_
    refine (looks_verifyIdentity _ expected.gui).mono fun _ made₃ hgui => ⟨⟨?_, ?_⟩, ?_, ?_⟩
    · intro path hpath
      obtain ⟨owner, howner, hours⟩ := hinstalled.owned path hpath
      exact ⟨owner, howner.mono fun x hx => by simp [hx], hours⟩
    · obtain ⟨state, hstate, hversion⟩ := hinstalled.state
      exact ⟨state, hstate.mono fun x hx => by simp [hx], hversion⟩
    · exact hruntime.mono fun x hx => by simp [hx]
    · exact hgui.mono fun x hx => by simp [hx]

/-! ## The transaction -/

/-- Every path is checked for its signature. By induction on the paths. -/
theorem looks_verifyRepositoryPackages (paths : List Text) :
    Looks trust (verifyRepositoryPackages paths) fun _ made =>
      ∀ path ∈ paths, Says made (.checkSignature path) (.ok ()) := by
  induction paths with
  | nil => exact Observes.pure (List.forall_mem_nil _)
  | cons relative rest ih =>
    unfold verifyRepositoryPackages
    refine Observes.bind (looks_ask rfl (P := fun _ _ => True) fun _ _ => trivial) fun _ _ _ => ?_
    refine Observes.bind (looks_orThrow (P := fun _ _ => True) fun _ _ => trivial)
      fun isFile _ _ => ?_
    split
    · exact Observes.throw _
    · refine Observes.bind (looks_ask rfl (P := fun a made =>
        Says made (.checkSignature relative) a) fun w a => says_one a) fun answer made hmade => ?_
      refine Observes.bind (looks_orThrow (P := fun _ made => made = [] ∧ answer = .ok ())
        fun a h => ⟨rfl, mapError_ok.1 h⟩) ?_
      rintro _ _ ⟨rfl, rfl⟩
      refine ih.mono fun _ made' hrest path hpath => ?_
      cases List.mem_cons.1 hpath with
      | inl hsame =>
        subst hsame
        exact hmade.mono fun x hx => by simp [hx]
      | inr hother => exact (hrest path hother).mono fun x hx => by simp [hx]

/-- A signature that was checked is a signature of what is at the path. -/
theorem signed_of_says {t t' : RpmScene} {made : List RpmEntry} {path : Text}
    (hquiet : Quietly (RpmWorld.answer trust) (fun call => call.quiet = true) t t' made)
    (h : Says made (.checkSignature path) (.ok ())) :
    ∃ bytes, t.world.files path = some bytes ∧ trust.signed bytes = true := by
  obtain ⟨before, after, hx⟩ := h
  obtain ⟨m, hm⟩ := hquiet.possible _ hx
  have hbefore : before = t.world := (hquiet.calls _ hx).2
  dsimp only [RpmWorld.answer] at hm
  split at hm
  · rename_i hsigned
    rw [hbefore] at hsigned
    exact (Option.any_eq_true _ _).1 hsigned
  · cases (Prod.mk.inj hm).1

/-- What is known of the stored plan when all its packages have been checked. -/
structure PlanChecked (semver : Semver) (decode : List UInt8 → Except String Plan)
    (expected : ReleaseIdentity) (assetName : Text) (plan : Plan) (made : List RpmEntry) :
    Prop where
  stored : ∃ bytes, Says made .readPlan (.ok bytes) ∧ decode bytes = .ok plan
  accepted : ∃ current, Installed semver current made
    ∧ Accepted (Expected.of current (packagedText semver expected.version 1) assetName) plan

/-- The plan that DNF stored is accepted, and every other package's signature checked. -/
theorem looks_checkTransaction (semver : Semver) (decode : List UInt8 → Except String Plan)
    (expected : ReleaseIdentity) (path : Text) :
    Looks trust (checkTransaction semver decode expected path) fun verified made =>
      ∃ assetName plan, UnixPath.fileName (UnixPath.components path) = some assetName
        ∧ PlanChecked semver decode expected assetName plan made
        ∧ verified = ⟨packagesDirectory ++ assetName, plan.rpms.filterMap dependencyPath⟩
        ∧ ∀ path ∈ verified.repositoryPackages, Says made (.checkSignature path) (.ok ()) := by
  unfold checkTransaction
  refine Observes.bind (looks_ask rfl (P := fun a made => Says made .readPlan a)
    fun w a => says_one a) fun answer made₁ hread => ?_
  refine Observes.bind (looks_orThrow (P := fun bytes made => made = [] ∧ answer = .ok bytes)
    fun bytes h => ⟨rfl, mapError_ok.1 h⟩) ?_
  rintro bytes _ ⟨rfl, rfl⟩
  refine Observes.bind looks_installedVersion fun current made₂ hinstalled => ?_
  refine Observes.bind (looks_orThrow (P := fun target made => made = [] ∧
    targetVersion semver expected = .ok target) fun target h => ⟨rfl, h⟩) ?_
  rintro target _ ⟨rfl, htarget⟩
  obtain ⟨-, -, rfl⟩ := targetVersion_ok.1 htarget
  refine Observes.bind (P := fun assetName made => made = []
    ∧ UnixPath.fileName (UnixPath.components path) = some assetName) ?_ ?_
  · unfold requireFileName
    split
    · rename_i name hname
      exact Observes.pure ⟨rfl, hname⟩
    · exact Observes.throw _
  rintro assetName _ ⟨rfl, hname⟩
  refine Observes.bind (looks_orThrow (P := fun verified made => made = [] ∧ verifyPlan decode bytes
    current (packagedText semver expected.version 1) assetName = .ok verified)
    fun v h => ⟨rfl, h⟩) ?_
  rintro verified _ ⟨rfl, hverified⟩
  obtain ⟨-, plan, hdecoded, haccepted, rfl⟩ := verify_plan_iff.1 hverified
  refine Observes.bind (looks_verifyRepositoryPackages _) fun _ made₃ hsigned => ?_
  refine Observes.bind (looks_ask rfl (P := fun _ _ => True) fun _ _ => trivial) fun _ _ _ => ?_
  refine Observes.bind (looks_orThrow (P := fun _ _ => True) fun _ _ => trivial) fun _ _ _ => ?_
  refine Observes.pure ⟨assetName, plan, hname, ⟨⟨bytes, hread.mono fun x hx => by simp [hx],
    hdecoded⟩, current, ⟨fun path hpath => ?_, ?_⟩, haccepted⟩, rfl, fun path hpath => ?_⟩
  · obtain ⟨owner, howner, hours⟩ := hinstalled.owned path hpath
    exact ⟨owner, howner.mono fun x hx => by simp [hx], hours⟩
  · obtain ⟨state, hstate, hversion⟩ := hinstalled.state
    exact ⟨state, hstate.mono fun x hx => by simp [hx], hversion⟩
  · exact (hsigned path hpath).mono fun x hx => by simp [hx]

/-- The bytes of every package that comes in are those of the release, or they are signed; those of
LG Buddy are those of the release. -/
def FilesVerified (trust : RpmTrust) (package : List UInt8) (plan : Plan) (w : RpmWorld) : Prop :=
  ∀ p ∈ plan.rpms, comesIn p = true → ∃ path bytes, p.packagePath = some path
    ∧ w.files path = some bytes
    ∧ (bytes = package ∨ isLgBuddy p = false ∧ trust.signed bytes = true)

/-- A copy of the release over a directory in which the packages are signed. -/
theorem FilesVerified.written {semver : Semver} {decode : List UInt8 → Except String Plan}
    {expected : ReleaseIdentity} {assetName : Text} {plan : Plan} {made : List RpmEntry}
    (hplan : PlanChecked semver decode expected assetName plan made) {w : RpmWorld}
    (hsigned : ∀ path ∈ plan.rpms.filterMap dependencyPath,
      ∃ bytes, w.files path = some bytes ∧ trust.signed bytes = true)
    (m : RpmMoment) (package : List UInt8) :
    FilesVerified trust package plan (w.written m (packagesDirectory ++ assetName) package) := by
  intro p hp hin
  obtain ⟨current, -, haccepted⟩ := hplan.accepted
  rcases (haccepted.entries p hp).1.of_comesIn hin with hlocal | hdependency
  · exact ⟨_, package, hlocal.path, if_pos (.inl rfl), .inl rfl⟩
  · obtain ⟨path, hpath, -⟩ := hdependency.path
    have hchecked : path ∈ plan.rpms.filterMap dependencyPath := by
      refine List.mem_filterMap.2 ⟨p, hp, ?_⟩
      simp [dependencyPath, hin, hdependency.isLgBuddy, hpath]
    by_cases hwritten : path = packagesDirectory ++ assetName ∨ m.linked path = true
    · exact ⟨path, package, hpath, if_pos hwritten, .inl rfl⟩
    · obtain ⟨bytes, hbytes, htrusted⟩ := hsigned path hchecked
      exact ⟨path, bytes, hpath, (if_neg hwritten).trans hbytes,
        .inr ⟨hdependency.isLgBuddy, htrusted⟩⟩

/-- A state before any replay. -/
def Unreplayed (log : List RpmEntry) : Prop := ∀ x ∈ log, x.call ≠ .replay

/-- Nothing quiet is a replay. -/
theorem Unreplayed.quietly {t t' : RpmScene} {made : List RpmEntry} (h : Unreplayed t.log)
    (hquiet : Quietly (RpmWorld.answer trust) (fun call => call.quiet = true) t t' made) :
    Unreplayed t'.log := by
  intro x hx
  rw [hquiet.log] at hx
  cases List.mem_append.1 hx with
  | inl hx => exact h x hx
  | inr hx =>
    intro hreplay
    have hcall := (hquiet.calls x hx).1
    rw [hreplay] at hcall
    cases hcall

/-- A log without a replay stays one with a call of another kind. -/
theorem Unreplayed.concat {log : List RpmEntry} (h : Unreplayed log) {x : RpmEntry}
    (hx : x.call ≠ .replay) : Unreplayed (log ++ [x]) := by
  intro y hy
  cases List.mem_append.1 hy with
  | inl hy => exact h y hy
  | inr hy => rwa [List.mem_singleton.1 hy]

/-- The world behind a receipt that has left the published package at a path. -/
structure Staged (trust : RpmTrust) (expected : ReleaseIdentity) (path : Text)
    (package : List UInt8) (w : RpmWorld) : Prop where
  receipt : ∃ log, w.receipt = some (path, log)
    ∧ PublishedFile trust.formats .rpm expected path log package

/-- What is staged is the received package. -/
theorem Staged.staged {expected : ReleaseIdentity} {path : Text} {package : List UInt8}
    {w : RpmWorld} (h : Staged trust expected path package w) : w.staged = some package := by
  obtain ⟨log, hreceipt, hpublished⟩ := h.receipt
  simp [RpmWorld.staged, hreceipt, hpublished.written]

/-- **What is received** is published, by the law of receipts. -/
theorem received {m : RpmMoment} {w : RpmWorld} {expected : ReleaseIdentity} {path : Text}
    (h : (w.answer trust m (.receive expected)).1 = .ok path) :
    ∃ package, Staged trust expected path package (w.answer trust m (.receive expected)).2 := by
  have hlaw : NativePackage.ReceiptLaw trust.formats .rpm expected (receive trust m expected).1
      (receive trust m expected).2.log := by
    refine Program.Scripted.run_spec Acquire.AcquireWorld.answer
      (Q := fun result t => NativePackage.ReceiptLaw trust.formats .rpm expected result t.log) ?_
      m.receipt
    refine Program.wp.mono (fun result t hpost => ?_)
      (NativePackage.wpE_receiveWith trust.formats .rpm expected)
    cases result with
    | ok _ => exact hpost
    | error error => exact hpost
  revert h hlaw
  simp only [RpmWorld.answer]
  obtain ⟨result, scene⟩ := receive trust m expected
  cases result with
  | error error =>
    intro hok
    cases hok
  | ok found =>
    intro hok hlaw
    obtain rfl := Except.ok.inj hok
    exact ⟨_, scene.log, rfl, (hlaw.received found rfl).publishedFile⟩

/-- The transaction is ready: what was received and checked is what is there. -/
structure Prepared (trust : RpmTrust) (decode : List UInt8 → Except String Plan)
    (expected : ReleaseIdentity) (log : List RpmEntry) (w : RpmWorld) : Prop where
  checked : ∃ path package assetName plan, Staged trust expected path package w
    ∧ Says log (.receive expected) (.ok path)
    ∧ UnixPath.fileName (UnixPath.components path) = some assetName
    ∧ PlanChecked trust.semver decode expected assetName plan log
    ∧ FilesVerified trust package plan w

/-- A plan that was checked stays checked. -/
theorem PlanChecked.mono {semver : Semver} {decode : List UInt8 → Except String Plan}
    {expected : ReleaseIdentity} {assetName : Text} {plan : Plan} {made made' : List RpmEntry}
    (h : PlanChecked semver decode expected assetName plan made) (hmade : ∀ x ∈ made, x ∈ made') :
    PlanChecked semver decode expected assetName plan made' := by
  obtain ⟨⟨bytes, hsays, hdecoded⟩, current, hinstalled, haccepted⟩ := h
  refine ⟨⟨bytes, hsays.mono hmade, hdecoded⟩, current, ⟨fun path hpath => ?_, ?_⟩, haccepted⟩
  · obtain ⟨owner, howner, hours⟩ := hinstalled.owned path hpath
    exact ⟨owner, howner.mono hmade, hours⟩
  · obtain ⟨state, hstate, hversion⟩ := hinstalled.state
    exact ⟨state, hstate.mono hmade, hversion⟩

/-- A check without a call. -/
theorem wpE_orThrow {x : Except String α} {Q : α → RpmScene → Prop} {E : String → RpmScene → Prop}
    {t : RpmScene} (hok : ∀ a, x = .ok a → Q a t) (hE : ∀ e, E e t) :
    wpE (contract (RpmWorld.answer trust)) (orThrow x) Q E t := by
  cases x with
  | ok a => exact hok a rfl
  | error message => exact hE message

/-- **Preparation.** DNF stores its plan, the plan is checked, and the received package is copied
over what DNF has left for it. -/
theorem wpE_prepareTransaction {decode : List UInt8 → Except String Plan}
    {expected : ReleaseIdentity} {path : Text} {package : List UInt8} {t : RpmScene}
    (hlog : Unreplayed t.log) (hstaged : Staged trust expected path package t.world)
    (hreceived : Says t.log (.receive expected) (.ok path)) :
    wpE (contract (RpmWorld.answer trust)) (prepareTransaction trust.semver decode expected path)
      (fun _ t' => Unreplayed t'.log ∧ (∀ x ∈ t.log, x ∈ t'.log)
        ∧ Prepared trust decode expected t'.log t'.world)
      (fun _ t' => Unreplayed t'.log) t := by
  unfold prepareTransaction
  refine Program.wpE_bind.mpr (Program.Scripted.wpE_ask _ fun m => ?_)
  have hstored : Unreplayed (t.perform (RpmWorld.answer trust) m .store).2.log :=
    hlog.concat fun h => by cases h
  refine Program.wpE_bind.mpr (wpE_orThrow (fun _ _ => ?_) fun _ => hstored)
  refine Observes.wpE (looks_checkTransaction trust.semver decode expected path)
    (fun _ t' made hquiet => hstored.quietly hquiet) ?_
  rintro _ t' made hquiet ⟨assetName, plan, hname, hplan, rfl, hsigned⟩
  have hunreplayed := hstored.quietly hquiet
  refine Program.wpE_bind.mpr (Program.Scripted.wpE_ask _ fun m' => ?_)
  have hcopied : Unreplayed (t'.perform (RpmWorld.answer trust) m'
      (.copy (packagesDirectory ++ assetName))).2.log := hunreplayed.concat fun h => by cases h
  refine wpE_orThrow (fun _ hok => ⟨hcopied, fun x hx => ?_, ?_⟩) fun _ => hcopied
  · simp [Scene.perform, hquiet.log, hx]
  -- neither DNF nor the checks touch what was received
  have hreceipt : t'.world.receipt = t.world.receipt := by
    rw [hquiet.world]
    rfl
  have hstaged' : Staged trust expected path package t'.world := by
    obtain ⟨log, hlog, hpublished⟩ := hstaged.receipt
    exact ⟨log, hreceipt.trans hlog, hpublished⟩
  have hfiles : ∀ path ∈ plan.rpms.filterMap dependencyPath,
      ∃ bytes, t'.world.files path = some bytes ∧ trust.signed bytes = true := by
    intro path hpath
    rw [hquiet.world]
    exact signed_of_says hquiet (hsigned path hpath)
  -- the copy has succeeded, so it has written the package
  have hworld : (t'.perform (RpmWorld.answer trust) m'
      (.copy (packagesDirectory ++ assetName))).2.world
        = t'.world.written m' (packagesDirectory ++ assetName) package := by
    revert hok
    simp only [Scene.perform, RpmWorld.answer, hstaged'.staged]
    cases m'.answer (.copy (packagesDirectory ++ assetName)) with
    | ok _ => exact fun _ => rfl
    | error message =>
      intro hok
      cases hok
  refine ⟨path, package, assetName, plan, ?_, ?_, hname, ?_, ?_⟩
  · rw [hworld]
    exact ⟨hstaged'.receipt⟩
  · refine hreceived.mono fun x hx => ?_
    simp [Scene.perform, hquiet.log, hx]
  · refine hplan.mono fun x hx => ?_
    simp [Scene.perform, hquiet.log, hx]
  · rw [hworld]
    exact FilesVerified.written hplan hfiles m' package

/-! ## The run -/

/-- What holds in front of a replay. -/
structure Ready (trust : RpmTrust) (decode : List UInt8 → Except String Plan)
    (expected : ReleaseIdentity) (before : List RpmEntry) (w : RpmWorld) : Prop where
  root : Says before .euid (0 : Nat)
  prepared : Prepared trust decode expected before w
  /-- The host has been looked at again since the last file was written. -/
  again : ∃ earlier late announced, before = earlier ++ late ++ [announced]
    ∧ Prepared trust decode expected earlier w ∧ Upgradable trust.semver expected late
    ∧ (∀ x ∈ late, x.call.quiet = true) ∧ announced.call = .announce

/-- The law of a run with its result and all its calls. -/
structure Law (trust : RpmTrust) (decode : List UInt8 → Except String Plan) (arguments : List Text)
    (result : Except String Unit) (log : List RpmEntry) : Prop where
  /-- There is at most one replay, of what is verified. -/
  replay : ∀ before x after, log = before ++ x :: after → x.call = .replay →
    Unreplayed before ∧ Unreplayed after ∧ ∃ expected, releaseArguments trust.semver arguments = .ok expected
      ∧ Ready trust decode expected before x.before
  /-- Success is the success of a replay that was verified afterwards. -/
  success : result = .ok () → ∃ before w status w' after expected,
    log = before ++ ⟨w, .replay, .ok (true, status), w'⟩ :: after
      ∧ releaseArguments trust.semver arguments = .ok expected ∧ Verified trust.semver expected after

/-- What was prepared stays so. -/
theorem Prepared.mono {decode : List UInt8 → Except String Plan} {expected : ReleaseIdentity}
    {log log' : List RpmEntry} {w : RpmWorld} (h : Prepared trust decode expected log w)
    (hlog : ∀ x ∈ log, x ∈ log') : Prepared trust decode expected log' w := by
  obtain ⟨path, package, assetName, plan, hstaged, hreceived, hname, hplan, hfiles⟩ := h
  exact ⟨path, package, assetName, plan, hstaged, hreceived.mono hlog, hname, hplan.mono hlog,
    hfiles⟩

variable {decode : List UInt8 → Except String Plan} {arguments : List Text}

/-- A run that never replays obeys the law. -/
theorem law_of_unreplayed {log : List RpmEntry} (h : Unreplayed log) (message : String) :
    Law trust decode arguments (.error message) log := by
  refine ⟨fun before x after hlog hx => ?_, fun hok => by cases hok⟩
  exact absurd hx (h x (by simp [hlog]))

/-- A log with one replay is split there in one way. -/
theorem only_split {log after before rest : List RpmEntry} {x y : RpmEntry}
    (hlog : Unreplayed log) (hafter : Unreplayed after) (hy : y.call = .replay)
    (heq : log ++ x :: after = before ++ y :: rest) : before = log ∧ y = x ∧ rest = after := by
  rcases List.append_eq_append_iff.1 heq with ⟨between, hbefore, htail⟩ | ⟨between, hfront, htail⟩
  · cases between with
    | nil =>
      obtain ⟨rfl, rfl⟩ := List.cons.inj htail
      exact ⟨by simpa using hbefore, rfl, rfl⟩
    | cons z between =>
      have hmem : y ∈ after := by simp [(List.cons.inj htail).2]
      exact absurd hy (hafter y hmem)
  · cases between with
    | nil =>
      obtain ⟨rfl, rfl⟩ := List.cons.inj htail
      exact ⟨by simpa using hfront.symm, rfl, rfl⟩
    | cons z between =>
      obtain ⟨rfl, -⟩ := List.cons.inj htail
      have hmem : y ∈ log := by simp [hfront]
      exact absurd hy (hlog y hmem)

/-- Around the only replay of a run. -/
theorem law_of_replay {log after : List RpmEntry} {w w' : RpmWorld}
    {answer : Except String (Bool × String)} {expected : ReleaseIdentity}
    {result : Except String Unit} (hlog : Unreplayed log) (hafter : Unreplayed after)
    (hexpected : releaseArguments trust.semver arguments = .ok expected)
    (hready : Ready trust decode expected log w)
    (hresult : result = .ok () → (∃ status, answer = .ok (true, status))
      ∧ Verified trust.semver expected after) :
    Law trust decode arguments result (log ++ ⟨w, .replay, answer, w'⟩ :: after) := by
  refine ⟨fun before x rest heq hx => ?_, fun hok => ?_⟩
  · obtain ⟨rfl, rfl, rfl⟩ := only_split hlog hafter hx heq
    exact ⟨hlog, hafter, expected, hexpected, hready⟩
  · obtain ⟨⟨status, rfl⟩, hverified⟩ := hresult hok
    exact ⟨log, w, status, w', after, expected, rfl, hexpected, hverified⟩

/-- The version in the arguments was read from its text. -/
theorem releaseArguments_reads {semver : Semver} {expected : ReleaseIdentity}
    (h : releaseArguments semver arguments = .ok expected) : semver.Reads expected.version := by
  unfold releaseArguments at h
  split at h
  · split at h
    · cases h
    · cases h
    · rename_i tag commit version hversion
      split at h
      · cases h
      · obtain rfl := Except.ok.inj h
        obtain ⟨text, -, hparsed⟩ := Option.map_eq_some_iff.1 hversion
        exact ⟨_, hparsed⟩
  · cases h

/-- From the replay on. -/
theorem wpE_replayTransaction {expected : ReleaseIdentity} {earlier late : List RpmEntry}
    {t : RpmScene} (hlog : Unreplayed t.log) (hsplit : t.log = earlier ++ late)
    (hexpected : releaseArguments trust.semver arguments = .ok expected)
    (hroot : Says t.log .euid (0 : Nat))
    (hprepared : Prepared trust decode expected earlier t.world)
    (hupgradable : Upgradable trust.semver expected late) (hlate : ∀ x ∈ late, x.call.quiet = true) :
    wpE (contract (RpmWorld.answer trust))
      (replayTransaction >>= fun _ => verifyInstalled trust.semver expected)
      (fun _ t' => Law trust decode arguments (.ok ()) t'.log)
      (fun message t' => Law trust decode arguments (.error message) t'.log) t := by
  unfold replayTransaction
  refine Program.wpE_bind.mpr (Program.wpE_bind.mpr (wpE_ask _ fun m => ?_))
  have hannounced : Unreplayed (t.perform (RpmWorld.answer trust) m .announce).2.log :=
    hlog.concat fun h => by cases h
  have hready : Ready trust decode expected
      (t.perform (RpmWorld.answer trust) m .announce).2.log t.world := by
    have hmem : ∀ x ∈ t.log, x ∈ (t.perform (RpmWorld.answer trust) m .announce).2.log :=
      fun x hx => List.mem_append_left _ hx
    refine ⟨hroot.mono hmem, hprepared.mono fun x hx => hmem x (by simp [hsplit, hx]), ?_⟩
    exact ⟨earlier, late, _, by rw [← hsplit]; rfl, hprepared, hupgradable, hlate, rfl⟩
  refine Program.wpE_bind.mpr (wpE_orThrow (fun _ _ => ?_) fun _ => law_of_unreplayed hannounced _)
  refine Program.wpE_bind.mpr (wpE_ask _ fun m' => ?_)
  -- the replay: its entry is the last of the log, and only looks come after it
  set replayed := ((t.perform (RpmWorld.answer trust) m .announce).2.perform
    (RpmWorld.answer trust) m' .replay).2 with hreplayed
  have herror : ∀ (after : List RpmEntry) (message : String), Unreplayed after →
      Law trust decode arguments (.error message) (replayed.log ++ after) := by
    intro after message hafter
    rw [hreplayed, Scene.perform, List.append_assoc]
    exact law_of_replay hannounced hafter hexpected hready fun hok => by cases hok
  have hnone : Unreplayed [] := List.forall_mem_nil _
  refine Program.wpE_bind.mpr (wpE_orThrow ?_ fun message => by simpa using herror [] message hnone)
  rintro ⟨success, status⟩ hanswer
  dsimp only
  split
  · exact (show Law trust decode arguments (.error _) replayed.log by simpa using herror [] _ hnone)
  · rename_i hsuccess
    have hunreplayed : ∀ {t' : RpmScene} {made : List RpmEntry},
        Quietly (RpmWorld.answer trust) (fun call => call.quiet = true) replayed t' made →
          Unreplayed made := fun hquiet x hx => by
      intro hcall
      have hlooks := (hquiet.calls x hx).1
      rw [hcall] at hlooks
      cases hlooks
    refine (Program.wpE_pure ()).mpr
      (Program.wpE.mono ?_ ?_ (looks_verifyInstalled trust.semver expected replayed))
    · rintro _ t' ⟨made, hquiet, hverified⟩
      rw [hquiet.log, hreplayed, Scene.perform, List.append_assoc]
      refine law_of_replay hannounced (hunreplayed hquiet) hexpected hready fun _ =>
        ⟨⟨status, ?_⟩, hverified⟩
      simpa [show success = true by simpa using hsuccess] using hanswer
    · rintro message t' ⟨made, hquiet⟩
      rw [hquiet.log]
      exact herror made message (hunreplayed hquiet)

/-- **Whatever the host, DNF and the release say.** -/
theorem rpm_update_is_verified (trust : RpmTrust) (hsemver : trust.semver.Lawful)
    (decode : List UInt8 → Except String Plan) (arguments : List Text)
    (moments : Nat → RpmMoment) (w : RpmWorld) :
    Law trust decode arguments
      (Program.Scripted.run (RpmWorld.answer trust) moments
        (run trust.semver decode arguments).run w).1
      (Program.Scripted.run (RpmWorld.answer trust) moments
        (run trust.semver decode arguments).run w).2.log := by
  refine Program.Scripted.run_spec (RpmWorld.answer trust)
    (Q := fun result t => Law trust decode arguments result t.log) ?_ moments
  suffices hrun : wpE (contract (RpmWorld.answer trust)) (run trust.semver decode arguments)
      (fun _ t => Law trust decode arguments (.ok ()) t.log)
      (fun message t => Law trust decode arguments (.error message) t.log) ⟨w, []⟩ by
    refine Program.wp.mono (fun result t hpost => ?_) hrun
    cases result with
    | ok _ => exact hpost
    | error message => exact hpost
  unfold run
  refine Program.wpE_bind.mpr (wpE_ask _ fun m₀ => ?_)
  have hasked : Unreplayed (Scene.perform (RpmWorld.answer trust) m₀ ⟨w, []⟩ .euid).2.log :=
    Unreplayed.concat (List.forall_mem_nil _) fun h => by cases h
  dsimp only
  split
  · exact law_of_unreplayed hasked _
  rename_i hroot
  refine Program.wpE_bind.mpr (wpE_orThrow (fun expected hexpected => ?_)
    fun _ => law_of_unreplayed hasked _)
  have hreads := releaseArguments_reads hexpected
  refine Observes.wpE (looks_candidatePreflight hsemver hreads)
    (fun _ t made hquiet => law_of_unreplayed (hasked.quietly hquiet) _) ?_
  rintro _ t₁ made₁ hquiet₁ -
  have h₁ := hasked.quietly hquiet₁
  have hroot₁ : Says t₁.log .euid (0 : Nat) := by
    have hsays : Says (Scene.perform (RpmWorld.answer trust) m₀ ⟨w, []⟩ .euid).2.log .euid
        (Scene.perform (RpmWorld.answer trust) m₀ ⟨w, []⟩ .euid).1 := says_one _
    rw [not_not.1 hroot] at hsays
    exact hsays.mono fun x hx => by simp [hquiet₁.log, hx]
  refine Program.wpE_bind.mpr (wpE_ask _ fun m₂ => ?_)
  have h₂ : Unreplayed (t₁.perform (RpmWorld.answer trust) m₂ .inputMetadata).2.log :=
    h₁.concat fun h => by cases h
  refine Program.wpE_bind.mpr (wpE_orThrow (fun metadata _ => ?_)
    fun _ => law_of_unreplayed h₂ _)
  obtain ⟨isFile, length⟩ := metadata
  dsimp only
  split
  · exact law_of_unreplayed h₂ _
  refine Program.wpE_bind.mpr (wpE_ask _ fun m₃ => ?_)
  have h₃ : Unreplayed ((t₁.perform (RpmWorld.answer trust) m₂ .inputMetadata).2.perform
      (RpmWorld.answer trust) m₃ (.receive expected)).2.log := h₂.concat fun h => by cases h
  refine Program.wpE_bind.mpr (wpE_orThrow (fun path hreceived => ?_)
    fun _ => law_of_unreplayed h₃ _)
  obtain ⟨package, hstaged⟩ := received hreceived
  have hsays : Says ((t₁.perform (RpmWorld.answer trust) m₂ .inputMetadata).2.perform
      (RpmWorld.answer trust) m₃ (.receive expected)).2.log (.receive expected)
        (.ok path) := by
    rw [← hreceived]
    exact ⟨_, _, List.mem_append_right _ List.mem_cons_self⟩
  refine Program.wpE_bind.mpr (Program.wpE.mono ?_ (fun _ _ h => law_of_unreplayed h _)
    (wpE_prepareTransaction h₃ hstaged hsays))
  rintro _ t₄ ⟨h₄, hgrown, hprepared⟩
  refine Observes.wpE (looks_candidatePreflight hsemver hreads)
    (fun _ t made hquiet => law_of_unreplayed (h₄.quietly hquiet) _) ?_
  intro _ t₅ late hquiet hupgradable
  have hroot₅ : Says t₅.log .euid (0 : Nat) := by
    refine hroot₁.mono fun x hx => ?_
    have hmem := hgrown x (by simp [Scene.perform, hx])
    simp [hquiet.log, hmem]
  exact wpE_replayTransaction (h₄.quietly hquiet) hquiet.log hexpected hroot₅
    (by rwa [hquiet.world]) hupgradable fun x hx => (hquiet.calls x hx).1

/-- The update to a release on a host of another distribution. -/
def otherHost : RpmMoment where
  answer
    | .euid => (0 : Nat)
    | .osRelease => some "ID=debian\nVERSION_ID=\"13\"".toList
    | .nativePaths | .store | .checkSignature _ | .createParent _ | .copy _ | .announce =>
      .error "not answered"
    | .owner _ => .ok .unowned
    | .isFile _ => false
    | .installedState | .inputMetadata | .receive _ | .readPlan | .symlinkMetadata _ | .replay
    | .readIdentity _ _ _ => .error "not answered"
  receipt _ := Acquire.draftMoment
  stored _ := none
  linked _ := false
  torn := []

def otherTrust : RpmTrust where
  formats := ⟨Acquire.draftFormats, fun _ => [], fun _ => "invalid digit found in string"⟩
  signed _ := false

def releaseOf14 : List Text :=
  ["v1.4.0".toList, "0123456789abcdef0123456789abcdef01234567".toList]

/-- There the run ends before anything is received. -/
theorem rpm_update_on_other_host :
    let course := Program.Scripted.run (RpmWorld.answer otherTrust) (fun _ => otherHost)
      (run otherTrust.semver (fun _ => .error "not a plan") releaseOf14).run {}
    Law otherTrust (fun _ => .error "not a plan") releaseOf14 course.1 course.2.log
      ∧ course.1 = .error platformGuidance ∧ course.2.log.length = 2 := by
  refine ⟨rpm_update_is_verified otherTrust publishedSemver_lawful _ _ _ _, ?_, ?_⟩
  · decide +kernel
  · decide +kernel

end RpmUpdate

end LgBuddy
