import LgBuddy.Pairing.Replacing

/-!
# LgBuddy — conditional publication of a credential

`connect_authenticated` among other writers. These take the pairing lock before they write, so
while this call holds it nothing else happens to the files; everything before that is unlocked.

* `WriterStep` — what the others do; `writers_shield` — what the lock is good for;
* `Files.LeadsTo` — the config file, at the end of the links;
* `Opened` — the run so far has changed nothing, and had read the two versions first;
* `Published` — the one write, on top of such a run;
* `PublicationLaw` — what the log of a whole run shows.
-/

namespace LgBuddy

open Program (wp wpE Within WithinE)

variable {O : Type} {outside : Files → O → Files} {guard : Files → Prop} {places : Place → Prop}

/-! ## The other writers -/

inductive WriterStep where
  | acquire (who : Nat)
  | release (who : Nat)
  | write (who : Nat) (p : Place) (node : Option Node)

/-- Nobody gets a lock that is held, and nobody writes without it. -/
def WriterStep.apply (w : Files) : WriterStep → Files
  | .acquire who => if w.holder = .free then { w with holder := .other who } else w
  | .release who => if w.holder = .other who then { w with holder := .free } else w
  | .write who p node => if w.holder = .other who then w.set p node else w

/-- A writer that has to wait for the lock does nothing. -/
theorem writerStep_locked {w : Files} (hw : w.holder = .us) (o : WriterStep) :
    WriterStep.apply w o = w := by
  cases o with
  | acquire who => exact if_neg (by rw [hw]; nofun)
  | release who => exact if_neg (by rw [hw]; nofun)
  | write who p node => exact if_neg (by rw [hw]; nofun)

/-- While the lock is ours, nobody else changes anything. -/
theorem writers_shield :
    Shield WriterStep.apply (fun w => w.holder = .us) (fun _ => True) where
  guard_outside w o hw := by rw [writerStep_locked hw o]; exact hw
  disk_outside w o p hw _ := by rw [writerStep_locked hw o]
  guard_holder w w' hholder hw := hholder.trans hw

/-- Without the lock nothing is known. -/
theorem unlocked_shield :
    Shield WriterStep.apply (fun _ => True) (fun _ => False) where
  guard_outside _ _ _ := trivial
  disk_outside _ _ _ _ hp := hp.elim
  guard_holder _ _ _ _ := trivial

/-! ## The law -/

/-- There is no file, or one with these bytes and this metadata. -/
def Files.HasVersion (w : Files) (p : Place) (version : Option FileVersion) : Prop :=
  (w.disk p = none ∧ version = none)
    ∨ ∃ bytes info, w.disk p = some (.file bytes info) ∧ version = some (FileVersion.of bytes info)

/-- The config file: what the path of the config leads to, or that path if it leads nowhere. -/
def Files.LeadsTo (w : Files) (target : Place) : Prop :=
  w.resolve .config = .ok target
    ∨ target = .config ∧ ∃ err, w.resolve .config = .error err ∧ err.kind = .notFound

/-- A call that goes to the TV. -/
def StoreCall.dials : StoreCall → Bool
  | .connect | .register _ => true
  | _ => false

/-- The file was read before the first connection, and this was its version. -/
def Snapshotted (log : List StoreEntry) (p : Place) (version : Option FileVersion) : Prop :=
  ∃ before x after, log = before ++ x :: after ∧ (∀ y ∈ before, ¬ y.call.dials)
    ∧ x.call = .readNoFollow p ∧ x.before.HasVersion p version

/-- The same of the config file, which was looked for before it was read. -/
def SnapshottedConfig (log : List StoreEntry) (version : Option FileVersion) : Prop :=
  ∃ before x after target, log = before ++ x :: after ∧ (∀ y ∈ before, ¬ y.call.dials)
    ∧ (∃ y ∈ before, y.call = .canonicalizeConfig ∧ y.before.LeadsTo target)
    ∧ x.call = .readNoFollow target ∧ x.before.HasVersion target version

/-- The TV granted the token to a registration without one. -/
def Granted (log : List StoreEntry) (token : PlatformAccessToken) : Prop :=
  ∃ w w', ⟨w, .register none, Except.ok token, w'⟩ ∈ log

/-- The TV accepted a token that this call had read from the file. -/
def Accepted (store : PlatformAccessTokenStore) (log : List StoreEntry) : Prop :=
  ∃ token granted contents w w' v v',
    ⟨v, .readNoFollow .token, Except.ok contents, v'⟩ ∈ log
      ∧ store.parseToken contents.1 = .ok token
      ∧ ⟨w, .register (some token), Except.ok granted, w'⟩ ∈ log

/-- **Conditional publication**, as the log of a whole run shows it. -/
structure PublicationLaw (store : PlatformAccessTokenStore)
    (result : Except WebOsAuthenticatedClientError Unit) (log : List StoreEntry) : Prop where
  /-- The config is never touched, wherever it is, and the token only by being written. -/
  config : ∀ x ∈ log, ∀ p, p = .config ∨ (∃ n, p = .linked n) → x.after.disk p = x.before.disk p
  token : ∀ x ∈ log, ¬ x.Writes .token → x.after.disk .token = x.before.disk .token
  once : ∀ pre x mid y post, log = pre ++ x :: (mid ++ y :: post) →
    ¬ (x.Writes .token ∧ y.Writes .token)
  granted : ∀ pre x post, log = pre ++ x :: post → x.Writes .token →
    ∃ token contents info, Granted pre token ∧ store.tokenContents token = .ok contents
      ∧ x.after.disk .token = some (.file contents info)
  unchanged : ∀ pre x post, log = pre ++ x :: post → x.Writes .token →
    ∃ (publication : CredentialPublication) (target : Place),
      SnapshottedConfig pre publication.config ∧ Snapshotted pre .token publication.token
        ∧ x.before.LeadsTo target ∧ x.before.HasVersion target publication.config
        ∧ x.before.HasVersion .token publication.token
  failed : ∀ err, result = .error err → ∀ x ∈ log, ¬ x.Writes .token
  unwritten : result = .ok () → (∀ x ∈ log, ¬ x.Writes .token) → Accepted store log

/-! ## Parts of a run -/

/-- So far nothing was changed, and the two versions were read first. -/
structure Opened (publication : CredentialPublication) (log : List StoreEntry) : Prop where
  still : ∀ x ∈ log, Still x
  config : SnapshottedConfig log publication.config
  token : Snapshotted log .token publication.token

/-- A snapshot of the config stays one. -/
theorem SnapshottedConfig.append {log : List StoreEntry} {version : Option FileVersion}
    (h : SnapshottedConfig log version) (xs : List StoreEntry) :
    SnapshottedConfig (log ++ xs) version := by
  obtain ⟨before, x, after, target, rfl, hrest⟩ := h
  refine ⟨before, x, after ++ xs, target, ?_, hrest⟩
  rw [List.append_assoc, List.cons_append]

/-- A snapshot of the token stays one as the log grows. -/
theorem Snapshotted.append {log : List StoreEntry} {p : Place} {version : Option FileVersion}
    (h : Snapshotted log p version) (xs : List StoreEntry) :
    Snapshotted (log ++ xs) p version := by
  obtain ⟨before, x, after, rfl, hrest⟩ := h
  refine ⟨before, x, after ++ xs, ?_, hrest⟩
  rw [List.append_assoc, List.cons_append]

/-- What was snapshotted and not written since stays so while nothing writes. -/
theorem Opened.append {publication : CredentialPublication} {log xs : List StoreEntry}
    (h : Opened publication log) (hxs : ∀ x ∈ xs, Still x) : Opened publication (log ++ xs) := by
  refine ⟨fun x hx => ?_, h.config.append xs, h.token.append xs⟩
  rcases List.mem_append.mp hx with hold | hnew
  · exact h.still x hold
  · exact hxs x hnew

/-- The write, with what came before and after it. -/
def Published (store : PlatformAccessTokenStore) (publication : CredentialPublication)
    (log : List StoreEntry) : Prop :=
  ∃ pre x post token contents info, log = pre ++ x :: post ∧ Opened publication pre
    ∧ x.Writes .token
    ∧ (∀ p, p.profiled = true → p ≠ .token → x.after.disk p = x.before.disk p)
    ∧ Granted pre token ∧ store.tokenContents token = .ok contents
    ∧ x.after.disk .token = some (.file contents info)
    ∧ (∃ target, x.before.LeadsTo target ∧ x.before.HasVersion target publication.config)
    ∧ x.before.HasVersion .token publication.token
    ∧ ∀ y ∈ post, Still y

/-- A publication stays the only one while nothing writes. -/
theorem Published.append {store : PlatformAccessTokenStore} {publication : CredentialPublication}
    {log xs : List StoreEntry} (h : Published store publication log) (hxs : ∀ x ∈ xs, Still x) :
    Published store publication (log ++ xs) := by
  obtain ⟨pre, x, post, token, contents, info, rfl, hopened, hwrites, hconfig, hgranted,
    hcontents, hfile, hversions, hversion, hpost⟩ := h
  refine ⟨pre, x, post ++ xs, token, contents, info, ?_, hopened, hwrites, hconfig, hgranted,
    hcontents, hfile, hversions, hversion, fun y hy => ?_⟩
  · rw [List.append_assoc, List.cons_append]
  · rcases List.mem_append.mp hy with hold | hnew
    · exact hpost y hold
    · exact hxs y hnew

/-- The config and what its path leads to belong to the profile, and are not the token. -/
theorem profiled_of_config {p : Place} (h : p = .config ∨ ∃ n, p = .linked n) :
    p.profiled = true ∧ p ≠ .token := by
  obtain rfl | ⟨n, rfl⟩ := h
  · exact ⟨rfl, nofun⟩
  · exact ⟨rfl, nofun⟩

/-- One list split at two places has one of them before the other, or they are the same. -/
theorem split_cases {α : Type} {pre post pre' post' : List α} {x y : α}
    (h : pre ++ x :: post = pre' ++ y :: post') :
    (pre = pre' ∧ x = y) ∨ y ∈ pre ∨ y ∈ post := by
  rcases List.append_eq_append_iff.mp h with ⟨mid, hpre, hrest⟩ | ⟨mid, hpre, hrest⟩
  · cases mid with
    | nil =>
      obtain ⟨hxy, -⟩ := List.cons.inj hrest
      exact Or.inl ⟨by rw [hpre, List.append_nil], hxy⟩
    | cons z mid =>
      obtain ⟨-, hpost⟩ := List.cons.inj hrest
      exact Or.inr (Or.inr (by rw [hpost]; exact List.mem_append_right _ List.mem_cons_self))
  · cases mid with
    | nil =>
      obtain ⟨hxy, -⟩ := List.cons.inj hrest
      exact Or.inl ⟨by rw [hpre, List.append_nil], hxy.symm⟩
    | cons z mid =>
      obtain ⟨rfl, -⟩ := List.cons.inj hrest
      exact Or.inr (Or.inl (by rw [hpre]; exact List.mem_append_right _ List.mem_cons_self))

/-- **A log with one publication obeys the law.**. -/
theorem publicationLaw_of_published {store : PlatformAccessTokenStore}
    {publication : CredentialPublication} {log : List StoreEntry}
    (h : Published store publication log) : PublicationLaw store (.ok ()) log := by
  obtain ⟨pre, x, post, token, contents, info, rfl, hopened, hwrites, hconfig, hgranted,
    hcontents, hfile, hversions, hversion, hpost⟩ := h
  -- the one entry that writes is the one that is named
  have honly : ∀ y, (y ∈ pre ∨ y ∈ post) → Still y := by
    rintro y (hy | hy)
    · exact hopened.still y hy
    · exact hpost y hy
  have hcases : ∀ y ∈ pre ++ x :: post, y = x ∨ Still y := by
    intro y hy
    rcases List.mem_append.mp hy with hbefore | hafter
    · exact Or.inr (hopened.still y hbefore)
    · rcases List.mem_cons.mp hafter with rfl | hlater
      · exact Or.inl rfl
      · exact Or.inr (hpost y hlater)
  refine ⟨fun y hy p hp => ?_, fun y hy hnot => ?_, ?_, ?_, ?_, nofun, ?_⟩
  · obtain ⟨hprofiled, hother⟩ := profiled_of_config hp
    rcases hcases y hy with rfl | hstill
    · exact hconfig p hprofiled hother
    · exact hstill.disk p hprofiled
  · rcases hcases y hy with rfl | hstill
    · exact absurd hwrites hnot
    · exact hstill.disk .token rfl
  · rintro pre' y mid z post' hsplit ⟨hy, hz⟩
    rcases split_cases hsplit with ⟨hpre, rfl⟩ | hother
    · -- the second of two is then in the rest
      rw [hpre] at hsplit
      obtain ⟨-, htail⟩ := List.cons.inj (List.append_cancel_left hsplit)
      have hmem : z ∈ post := by
        rw [htail]
        exact List.mem_append_right _ List.mem_cons_self
      exact (hpost z hmem).unwritten.2 hz
    · exact (honly y hother).unwritten.2 hy
  · intro pre' y post' hsplit hy
    rcases split_cases hsplit with ⟨hpre, rfl⟩ | hother
    · exact ⟨token, contents, info, hpre ▸ hgranted, hcontents, hfile⟩
    · exact absurd hy (honly y hother).unwritten.2
  · intro pre' y post' hsplit hy
    rcases split_cases hsplit with ⟨hpre, rfl⟩ | hother
    · obtain ⟨target, hleads, htarget⟩ := hversions
      exact ⟨publication, target, hpre ▸ hopened.config, hpre ▸ hopened.token, hleads, htarget,
        hversion⟩
    · exact absurd hy (honly y hother).unwritten.2
  · intro _ hnone
    exact absurd hwrites (hnone x (List.mem_append_right _ List.mem_cons_self))

/-- A run that changes nothing either fails or uses the token that is stored. -/
theorem publicationLaw_of_still {store : PlatformAccessTokenStore}
    {result : Except WebOsAuthenticatedClientError Unit} {log : List StoreEntry}
    (hstill : ∀ x ∈ log, Still x) (hok : result = .ok () → Accepted store log) :
    PublicationLaw store result log := by
  have hmem : ∀ {pre : List StoreEntry} {x : StoreEntry} {post : List StoreEntry},
      log = pre ++ x :: post → x.Writes .token → False := by
    intro pre x post hsplit hwrites
    refine (hstill x ?_).unwritten.2 hwrites
    rw [hsplit]
    exact List.mem_append_right _ List.mem_cons_self
  refine ⟨fun x hx p hp => (hstill x hx).disk p (profiled_of_config hp).1,
    fun x hx _ => (hstill x hx).disk .token rfl, ?_, ?_, ?_, ?_, ?_⟩
  · exact fun pre x mid y post hsplit hboth => hmem hsplit hboth.1
  · exact fun pre x post hsplit hwrites => (hmem hsplit hwrites).elim
  · exact fun pre x post hsplit hwrites => (hmem hsplit hwrites).elim
  · exact fun err _ x hx => (hstill x hx).unwritten.2
  · exact fun hresult _ => hok hresult

/-! ## One call at a time -/

/-- A version is one of the file alone. -/
theorem Files.HasVersion.congr {w w' : Files} {p : Place} {version : Option FileVersion}
    (h : w.HasVersion p version) (hdisk : w'.disk p = w.disk p) : w'.HasVersion p version := by
  unfold Files.HasVersion
  rw [hdisk]
  exact h

/-- Where the config is depends on the places alone that a link can lead to. -/
theorem Files.resolveFrom_congr {w w' : Files}
    (h : ∀ p, p.profiled = true → w'.disk p = w.disk p) (links : Nat) {p : Place}
    (hp : p.profiled = true) : w'.resolveFrom links p = w.resolveFrom links p := by
  induction links generalizing p with
  | zero =>
    unfold Files.resolveFrom
    rw [h p hp]
  | succ links ih =>
    unfold Files.resolveFrom
    rw [h p hp]
    cases w.disk p with
    | none => rfl
    | some node =>
      cases node with
      | symlink info target => exact ih rfl
      | _ => rfl

/-- Where the config's path leads is decided by the profile's files. -/
theorem Files.LeadsTo.congr {w w' : Files} {target : Place} (hleads : w.LeadsTo target)
    (h : ∀ p, p.profiled = true → w'.disk p = w.disk p) : w'.LeadsTo target := by
  unfold Files.LeadsTo Files.resolve
  rw [Files.resolveFrom_congr h _ rfl]
  exact hleads

/-- The config file is the config, or another path that a link can lead to. -/
theorem Files.resolveFrom_profiled {w : Files} {links : Nat} {p target : Place}
    (hp : p.profiled = true) (h : w.resolveFrom links p = .ok target) : target.profiled = true := by
  induction links generalizing p with
  | zero =>
    unfold Files.resolveFrom at h
    split at h
    · cases h
    · cases h
    · cases h
      exact hp
  | succ links ih =>
    unfold Files.resolveFrom at h
    split at h
    · cases h
    · exact ih rfl h
    · cases h
      exact hp

/-- What the profile's path leads to is a file of the profile. -/
theorem Files.LeadsTo.profiled {w : Files} {target : Place} (h : w.LeadsTo target) :
    target.profiled = true := by
  obtain hok | ⟨rfl, -⟩ := h
  · exact Files.resolveFrom_profiled rfl hok
  · rfl

/-- Where nothing was written the profile's files are as before. -/
theorem Stays.disk {t t' : StoreState} (h : Stays O guard places t t') {p : Place}
    (hp : places p) (hprofiled : p.profiled = true) : t'.world.disk p = t.world.disk p := by
  obtain ⟨xs, hgrew, hxs⟩ := h
  exact hgrew.disk p hp fun x hx => (hxs x hx).disk p hprofiled

/-- A call that touches no file writes nothing. -/
theorem still_entry {x : StoreEntry} (hgenuine : x.Genuine O) (htouches : x.call.touches = []) :
    Still x := by
  have hnot : ∀ p, ¬ x.Writes p := by
    rintro p ⟨w, src, w', rfl⟩
    cases htouches
  exact ⟨fun p _ => hgenuine.disk (by rw [htouches]; exact List.not_mem_nil), hnot _, hnot _⟩

/-- A call about no file, the lock included. -/
theorem wp_logged {e : StoreCall} (htouches : e.touches = [])
    {Q : e.Answer → StoreState → Prop} {t : StoreState}
    (h : ∀ (m : Moment WriterStep) (w : Files) t',
      t'.log = t.log ++ [⟨w, e, (w.answer m e).1, (w.answer m e).2⟩] →
      Still ⟨w, e, (w.answer m e).1, (w.answer m e).2⟩ → t'.world = (w.answer m e).2 →
      Q (w.answer m e).1 t') :
    wp (anyMoment WriterStep.apply) (Program.perform e) Q t := by
  refine wp_storeCall fun m => ?_
  exact h m _ _ rfl (still_entry ⟨m, rfl⟩ htouches) rfl

/-- The lock is taken for the config file. -/
theorem answer_lock {m : Moment WriterStep} {w : Files} {target : Place}
    (h : (w.answer m .lock).1 = .ok target) :
    (w.answer m .lock).2.holder = .us ∧ (w.answer m .lock).2.LeadsTo target := by
  have hdisk : ∀ p, (w.answer m .lock).2.disk p = w.disk p :=
    fun p => answer_disk m w List.not_mem_nil
  have hleads : w.LeadsTo target → (w.answer m .lock).2.LeadsTo target :=
    fun hbefore => hbefore.congr fun p _ => hdisk p
  revert hleads
  unfold Files.answer at h ⊢
  dsimp only at h ⊢
  cases hfault : m.lockFault with
  | some err =>
    rw [hfault] at h
    cases h
  | none =>
    rw [hfault] at h
    cases htarget : w.lockTarget with
    | error err =>
      rw [htarget] at h
      cases h
    | ok found =>
      rw [htarget] at h
      dsimp only at h ⊢
      by_cases hfree : w.holder = .free
      · rw [if_pos hfree] at h ⊢
        cases h
        intro hleads
        refine ⟨rfl, hleads ?_⟩
        unfold Files.lockTarget at htarget
        split at htarget
        · cases htarget
          exact .inl ‹_›
        · split at htarget
          · cases htarget
            exact .inr ⟨rfl, _, ‹_›, ‹_›⟩
          · cases htarget
      · rw [if_neg hfree] at h
        cases h

/-- A failure is never reported as a missing file. -/
theorem Moment.attempt_notFound {α : Type} {m : Moment O} {r : Except FsError α} {err : FsError}
    (h : m.attempt r = .error err) (hmissing : err.kind = .notFound) : r = .error err := by
  unfold Moment.attempt at h
  split at h
  · rename_i fault _
    cases h
    exact absurd hmissing fault.genuine
  · exact h

namespace PlatformAccessTokenStore

variable (store : PlatformAccessTokenStore)

/-- What is read is what is there. -/
theorem hasVersion_of_read {m : Moment O} {w : Files} {p : Place} {version : Option FileVersion}
    (h : store.versionOf p (m.attempt (w.opened p)) = .ok version) : w.HasVersion p version := by
  cases hread : m.attempt (w.opened p) with
  | ok contents =>
    rw [hread] at h
    cases h
    have hopened := Moment.attempt_ok hread
    unfold Files.opened at hopened
    split at hopened <;> cases hopened
    rename_i bytes info hdisk
    exact Or.inr ⟨bytes, info, hdisk, rfl⟩
  | error err =>
    rw [hread] at h
    unfold versionOf at h
    dsimp only at h
    split at h
    · rename_i hmissing
      cases h
      have hopened := Moment.attempt_notFound hread hmissing
      unfold Files.opened at hopened
      split at hopened <;> cases hopened
      · cases hmissing
      · cases hmissing
      · cases hmissing
      · rename_i hdisk
        exact Or.inl ⟨hdisk, rfl⟩
    · cases h

/-- The version that is read is the one of that moment. -/
theorem wpE_readVersion (S : Shield outside guard places) {p : Place} {t : StoreState}
    (ht : guard t.world) {Q : Option FileVersion → StoreState → Prop}
    {R : PlatformAccessTokenStoreError → StoreState → Prop}
    (hok : ∀ version x t', Grew O guard places t t' [x] → Still x → x.call = .readNoFollow p →
      x.before.HasVersion p version → (∀ q, places q → x.before.disk q = t.world.disk q) →
      Q version t')
    (herr : ∀ err t', Stays O guard places t t' → R err t') :
    wpE (anyMoment outside) (store.readVersion p) Q R t := by
  refine Program.wpE_bind.mpr (Program.wpE_lift.mpr ?_)
  refine wp_asking S ht (e := .readNoFollow p) nofun nofun fun m w t' hsame hgrew => ?_
  have hstill := still_entry (hgrew.genuine _ (List.mem_singleton.mpr rfl)) rfl
  refine wpE_ofExcept.mpr ?_
  show Program.post Q R (store.versionOf p (m.attempt (w.opened p))) t'
  cases hversion : store.versionOf p (m.attempt (w.opened p)) with
  | ok version =>
    exact hok version _ t' hgrew hstill rfl (store.hasVersion_of_read hversion) hsame
  | error err =>
    refine herr err t' ⟨_, hgrew, fun x hx => ?_⟩
    rw [List.mem_singleton.mp hx]
    exact hstill

/-! ## The snapshot -/

/-- Before the first connection: nothing was changed, and the TV was not asked. -/
def Unopened (log : List StoreEntry) : Prop := ∀ x ∈ log, Still x ∧ ¬ x.call.dials

/-- Before the first connection, part by part. -/
theorem Unopened.append {log xs : List StoreEntry} (h : Unopened log) (hxs : Unopened xs) :
    Unopened (log ++ xs) := by
  intro x hx
  rcases List.mem_append.mp hx with hold | hnew
  · exact h x hold
  · exact hxs x hnew

theorem unopened_singleton {x : StoreEntry} (hstill : Still x) (hdials : ¬ x.call.dials) :
    Unopened [x] := by
  intro y hy
  rw [List.mem_singleton.mp hy]
  exact ⟨hstill, hdials⟩

/-- The version read last, with no connection before it, is a snapshot. -/
theorem snapshotted_last {log : List StoreEntry} (h : Unopened log) {x : StoreEntry} {p : Place}
    {version : Option FileVersion} (hcall : x.call = .readNoFollow p)
    (hversion : x.before.HasVersion p version) : Snapshotted (log ++ [x]) p version :=
  ⟨log, x, [], rfl, fun y hy => (h y hy).2, hcall, hversion⟩

/-- The versions of the file that the config was found to be, and of the token. -/
theorem wpE_snapshotAt_unlocked {t : StoreState} (ht : Unopened t.log) {target : Place}
    (hfound : ∃ y ∈ t.log, y.call = .canonicalizeConfig ∧ y.before.LeadsTo target) :
    wpE (anyMoment WriterStep.apply) (store.snapshotAt target)
      (fun publication t' => Opened publication t'.log)
      (fun _ t' => ∀ x ∈ t'.log, Still x) t := by
  have hstays : ∀ {t t' : StoreState}, (∀ x ∈ t.log, Still x) →
      Stays WriterStep (fun _ => True) (fun _ => False) t t' → ∀ x ∈ t'.log, Still x := by
    rintro t t' hlog ⟨xs, hgrew, hxs⟩ x hx
    rw [hgrew.log] at hx
    rcases List.mem_append.mp hx with hold | hnew
    · exact hlog x hold
    · exact hxs x hnew
  refine Program.wpE_bind.mpr (store.wpE_readVersion unlocked_shield trivial ?_ ?_)
  · intro config x t₁ hgrew hstill hcall hversion _
    have hunopened : Unopened t₁.log := by
      rw [hgrew.log]
      exact ht.append (unopened_singleton hstill (by rw [hcall]; nofun))
    have hconfig : SnapshottedConfig t₁.log config := by
      rw [hgrew.log]
      exact ⟨t.log, x, [], target, rfl, fun y hy => (ht y hy).2, hfound, hcall, hversion⟩
    refine Program.wpE_bind.mpr (store.wpE_readVersion unlocked_shield trivial ?_ ?_)
    · intro token y t₂ hgrew' hstill' hcall' hversion' _
      have hunopened' := hunopened.append (unopened_singleton hstill' (by rw [hcall']; nofun))
      show Opened _ t₂.log
      rw [hgrew'.log]
      exact ⟨fun z hz => (hunopened' z hz).1, hconfig.append _,
        snapshotted_last hunopened hcall' hversion'⟩
    · exact fun _ t₂ h => hstays (fun z hz => (hunopened z hz).1) h
  · exact fun _ t₁ h => hstays (fun z hz => (ht z hz).1) h

/-- **Snapshot.** Both versions are read before any connection, where the path of the config
leads. -/
theorem wpE_publicationSnapshot {w : Files} :
    wpE (anyMoment WriterStep.apply) store.publicationSnapshot
      (fun publication t' => Opened publication t'.log)
      (fun _ t' => ∀ x ∈ t'.log, Still x) ⟨w, []⟩ := by
  refine Program.wpE_bind.mpr (Program.wpE_lift.mpr ?_)
  refine wp_logged (e := .canonicalizeConfig) rfl fun m w' t₁ hlog hstill _ => ?_
  have hunopened : Unopened t₁.log := by
    rw [hlog]
    exact unopened_singleton hstill nofun
  have hfound {target : Place} (hleads : w'.LeadsTo target) :
      ∃ y ∈ t₁.log, y.call = .canonicalizeConfig ∧ y.before.LeadsTo target := by
    rw [hlog]
    exact ⟨_, List.mem_singleton_self _, rfl, hleads⟩
  cases hanswer : (Files.answer m w' .canonicalizeConfig).1 with
  | ok target =>
    exact store.wpE_snapshotAt_unlocked hunopened (hfound (.inl (Moment.attempt_ok hanswer)))
  | error source =>
    show wpE _ (if _ then _ else _) _ _ t₁
    split
    -- a path that leads nowhere stands for itself
    · rename_i hmissing
      refine store.wpE_snapshotAt_unlocked hunopened (hfound (.inr ⟨rfl, source, ?_, hmissing⟩))
      exact Moment.attempt_notFound hanswer hmissing
    · exact fun x hx => (hunopened x hx).1

/-- Under the lock what was read stays true. -/
theorem wpE_snapshotAt_locked {t : StoreState} (ht : t.world.holder = .us) {target : Place}
    (htarget : target.profiled = true) :
    wpE (anyMoment WriterStep.apply) (store.snapshotAt target)
      (fun now t' => Stays WriterStep (fun w => w.holder = .us) (fun _ => True) t t'
        ∧ t'.world.HasVersion target now.config ∧ t'.world.HasVersion .token now.token)
      (fun _ => Stays WriterStep (fun w => w.holder = .us) (fun _ => True) t) t := by
  refine Program.wpE_bind.mpr (store.wpE_readVersion writers_shield ht ?_ fun _ _ h => h)
  intro config x t₁ hgrew hstill _ hversion hsame
  have h₁ : Stays WriterStep (fun w => w.holder = .us) (fun _ => True) t t₁ :=
    ⟨[x], hgrew, fun y hy => by rw [List.mem_singleton.mp hy]; exact hstill⟩
  refine Program.wpE_bind.mpr (store.wpE_readVersion writers_shield hgrew.guard ?_ ?_)
  · intro token y t₂ hgrew' hstill' _ hversion' hsame'
    have h₂ : Stays WriterStep (fun w => w.holder = .us) (fun _ => True) t₁ t₂ :=
      ⟨[y], hgrew', fun z hz => by rw [List.mem_singleton.mp hz]; exact hstill'⟩
    refine ⟨h₁.trans h₂, hversion.congr ?_, hversion'.congr ?_⟩
    · rw [(h₁.trans h₂).disk trivial htarget, hsame target trivial]
    · rw [h₂.disk trivial rfl, hsame' .token trivial]
  · exact fun _ t₂ h => h₁.trans h

/-! ## The publication -/

/-- What was opened stays open while nothing is written. -/
theorem Opened.stays {publication : CredentialPublication} {t t' : StoreState}
    (h : Opened publication t.log) (hstays : Stays O guard places t t') :
    Opened publication t'.log := by
  obtain ⟨xs, hgrew, hxs⟩ := hstays
  rw [hgrew.log]
  exact h.append hxs

/-- A granted token stays granted. -/
theorem granted_stays {token : PlatformAccessToken} {t t' : StoreState}
    (h : Granted t.log token) (hstays : Stays O guard places t t') : Granted t'.log token := by
  obtain ⟨w, w', hmem⟩ := h
  obtain ⟨xs, hgrew, -⟩ := hstays
  refine ⟨w, w', ?_⟩
  rw [hgrew.log]
  exact List.mem_append_left _ hmem

/-- The versions as they are when the file is put in its place. -/
theorem published_of_replaces {publication : CredentialPublication} {token : PlatformAccessToken}
    {contents : List UInt8} {good : FileInfo → Prop} {t t' : StoreState}
    (hopened : Opened publication t.log) (hgranted : Granted t.log token)
    (hcontents : store.tokenContents token = .ok contents)
    {target : Place} (hleads : t.world.LeadsTo target)
    (hconfig : t.world.HasVersion target publication.config)
    (htoken : t.world.HasVersion .token publication.token)
    (h : Replaces WriterStep (fun w => w.holder = .us) (fun _ => True) .token contents good t t') :
    Published store publication t'.log := by
  obtain ⟨mid, w, src, w', info, hstays, hgrew, hsame, -, hfile, -, hbut, hsrc⟩ := h
  have hkept : ∀ p, p.profiled = true → p ≠ .token → w'.disk p = w.disk p := by
    refine fun p hp hother => hbut.disk p fun hmem => ?_
    rcases List.mem_cons.mp hmem with rfl | hrest
    · rw [hsrc] at hp
      cases hp
    · exact hother (List.mem_singleton.mp hrest)
  -- nothing but our own steps has happened since the versions were read
  have hdisk : ∀ p, p.profiled = true → w.disk p = t.world.disk p :=
    fun p hp => (hsame p trivial).trans (hstays.disk trivial hp)
  refine ⟨mid.log, _, [], token, contents, info, hgrew.log, Opened.stays hopened hstays,
    ⟨w, src, w', rfl⟩, hkept, granted_stays hgranted hstays, hcontents, hfile, ?_, ?_,
    List.forall_mem_nil _⟩
  · exact ⟨target, hleads.congr hdisk, hconfig.congr (hdisk target hleads.profiled)⟩
  · exact htoken.congr (hdisk .token rfl)

/-- The part that holds the lock. -/
theorem wpE_persistIfUnchanged {publication : CredentialPublication}
    {token : PlatformAccessToken} {t : StoreState} (ht : t.world.holder = .us) {target : Place}
    (hleads : t.world.LeadsTo target) (hopened : Opened publication t.log)
    (hgranted : Granted t.log token) :
    wpE (anyMoment WriterStep.apply) (store.persistIfUnchanged target publication token)
      (fun _ t' => Published store publication t'.log)
      (fun _ t' => Opened publication t'.log) t := by
  refine Program.wpE_bind.mpr (Program.wpE_adapt.mpr ?_)
  refine Program.wpE.mono ?_ ?_ (store.wpE_snapshotAt_locked ht hleads.profiled)
  · rintro now t₁ ⟨hstays, hconfig, htoken⟩
    have hopened₁ := Opened.stays hopened hstays
    show wpE _ (if _ then _ else _) _ _ t₁
    split
    · exact hopened₁
    · rename_i hnow
      cases not_not.mp hnow
      refine Program.wpE_adapt.mpr ?_
      refine Program.wpE.mono ?_ ?_
        (store.wpE_persistLocked writers_shield (fun _ => trivial) hstays.guarded token)
      · rintro _ t₂ ⟨contents, hcontents, hreplaces⟩
        exact store.published_of_replaces hopened₁ (granted_stays hgranted hstays) hcontents
          (hleads.congr fun p hp => hstays.disk trivial hp) hconfig htoken hreplaces
      · exact fun _ t₂ h => Opened.stays hopened₁ h
  · exact fun _ t₁ h => Opened.stays hopened h

/-- A token is asked for without a stored one, and is persisted under the lock or not at all. -/
theorem wpE_acquireAndPersist {publication : CredentialPublication} {t : StoreState}
    (hopened : Opened publication t.log) :
    wpE (anyMoment WriterStep.apply) (store.acquireAndPersist publication)
      (fun _ t' => Published store publication t'.log)
      (fun _ t' => Opened publication t'.log) t := by
  refine Program.wpE_bind.mpr (wpE_orElse.mpr ?_)
  refine wp_logged (e := .register none) rfl fun m w t₁ hlog hstill _ => ?_
  have hopened₁ : Opened publication t₁.log := by
    rw [hlog]
    exact hopened.append fun x hx => by rw [List.mem_singleton.mp hx]; exact hstill
  cases hregister : m.register with
  | error source =>
    show Program.post _ _ m.register t₁
    rw [hregister]
    exact hopened₁
  | ok token =>
    have hgranted : Granted t₁.log token := by
      refine ⟨w, w, ?_⟩
      rw [hlog, ← hregister]
      exact List.mem_append_right _ List.mem_cons_self
    show Program.post _ _ m.register t₁
    rw [hregister]
    refine Program.wpE_bind.mpr (Program.wpE_adapt.mpr (wpE_orElse.mpr ?_))
    refine wp_logged (e := .lock) rfl fun m' w' t₂ hlog' hstill' hworld => ?_
    have h₂ : Opened publication t₂.log ∧ Granted t₂.log token := by
      rw [hlog']
      refine ⟨hopened₁.append fun x hx => by rw [List.mem_singleton.mp hx]; exact hstill', ?_⟩
      obtain ⟨v, v', hmem⟩ := hgranted
      exact ⟨v, v', List.mem_append_left _ hmem⟩
    cases hlock : (Files.answer m' w' .lock).1 with
    | error err => exact h₂.1
    | ok target =>
      have hus : t₂.world.holder = .us ∧ t₂.world.LeadsTo target := by
        rw [hworld]
        exact answer_lock hlock
      refine Program.wpE_bind.mpr (Program.wpE_lift.mpr ?_)
      refine Program.wp.mono ?_ (store.wpE_persistIfUnchanged hus.1 hus.2 h₂.1 h₂.2)
      -- the lock is given back, whether the token was persisted or not
      intro result t₃ h₃
      refine Program.wpE_bind.mpr (Program.wpE_lift.mpr ?_)
      refine wp_logged (e := .unlock) rfl fun m'' w'' t₄ hlog'' hstill'' _ => ?_
      have hlast : ∀ x ∈ [StoreEntry.mk w'' .unlock (Files.answer m'' w'' .unlock).1
          (Files.answer m'' w'' .unlock).2], Still x := by
        intro x hx
        rw [List.mem_singleton.mp hx]
        exact hstill''
      cases result with
      | ok _ =>
        show Published store publication t₄.log
        rw [hlog'']
        exact Published.append h₃ hlast
      | error err =>
        show Opened publication t₄.log
        rw [hlog'']
        exact Opened.append h₃ hlast

/-! ## Authentication -/

/-- The token was read from the file in this run. -/
def Loaded (log : List StoreEntry) (token : PlatformAccessToken) : Prop :=
  ∃ contents w w', ⟨w, .readNoFollow .token, Except.ok contents, w'⟩ ∈ log
    ∧ store.parseToken contents.1 = .ok token

/-- The stored token is the one in the file at that moment. -/
theorem wpE_load {publication : CredentialPublication} {t : StoreState}
    (hopened : Opened publication t.log) :
    wpE (anyMoment WriterStep.apply) store.load
      (fun stored t' => Opened publication t'.log ∧ ∀ token ∈ stored, store.Loaded t'.log token)
      (fun _ t' => Opened publication t'.log) t := by
  refine Program.wpE_bind.mpr (Program.wpE_lift.mpr ?_)
  refine wp_logged (e := .readNoFollow .token) rfl fun m w t₁ hlog hstill _ => ?_
  have hopened₁ : Opened publication t₁.log := by
    rw [hlog]
    exact hopened.append fun x hx => by rw [List.mem_singleton.mp hx]; exact hstill
  cases hread : (Files.answer m w (.readNoFollow .token)).1 with
  | error source =>
    show wpE _ (if _ then _ else _) _ _ t₁
    split
    · exact ⟨hopened₁, nofun⟩
    · exact hopened₁
  | ok contents =>
    refine Program.wpE_bind.mpr (wpE_ofExcept.mpr ?_)
    cases hparse : store.parseToken contents.1 with
    | error err => exact hopened₁
    | ok token =>
      refine ⟨hopened₁, fun token' htoken' => ?_⟩
      cases htoken'
      refine ⟨contents, w, w, ?_, hparse⟩
      rw [hlog, ← hread]
      exact List.mem_append_right _ List.mem_cons_self

/-- With a stored token the registration uses it; without one a new token is acquired. -/
theorem wpE_getOrAcquire {publication : CredentialPublication} {t : StoreState}
    (hopened : Opened publication t.log) :
    wpE (anyMoment WriterStep.apply) (store.getOrAcquire publication)
      (fun _ t' => Published store publication t'.log
        ∨ Opened publication t'.log ∧ Accepted store t'.log)
      (fun _ t' => Opened publication t'.log) t := by
  refine Program.wpE_bind.mpr (Program.wpE_adapt.mpr ?_)
  refine Program.wpE.mono ?_ (fun _ _ h => h) (store.wpE_load hopened)
  rintro stored t₁ ⟨hopened₁, hloaded⟩
  cases stored with
  | none =>
    refine Program.wpE.mono ?_ (fun _ _ h => h) (store.wpE_acquireAndPersist hopened₁)
    exact fun _ _ h => Or.inl h
  | some token =>
    obtain ⟨contents, v, v', hmem, hparse⟩ := hloaded token rfl
    refine Program.wpE_bind.mpr (wpE_orElse.mpr ?_)
    refine wp_logged (e := .register (some token)) rfl fun m w t₂ hlog hstill _ => ?_
    have hopened₂ : Opened publication t₂.log := by
      rw [hlog]
      exact hopened₁.append fun x hx => by rw [List.mem_singleton.mp hx]; exact hstill
    cases hregister : m.register with
    | error source =>
      show Program.post _ _ m.register t₂
      rw [hregister]
      exact hopened₂
    | ok granted =>
      show Program.post _ _ m.register t₂
      rw [hregister]
      refine Or.inr ⟨hopened₂, token, granted, contents, w, w, v, v', ?_, hparse, ?_⟩
      · rw [hlog]
        exact List.mem_append_left _ hmem
      · rw [hlog, ← hregister]
        exact List.mem_append_right _ List.mem_cons_self

/-- A connection writes nothing. -/
theorem wpE_connect {publication : CredentialPublication} {t : StoreState}
    (hopened : Opened publication t.log) :
    wpE (anyMoment WriterStep.apply)
      (StoreM.orElse StoreProgram.connect WebOsAuthenticatedClientError.connect)
      (fun _ t' => Opened publication t'.log) (fun _ t' => Opened publication t'.log) t := by
  refine wpE_orElse.mpr (wp_logged (e := .connect) rfl fun m w t₁ hlog hstill _ => ?_)
  have hopened₁ : Opened publication t₁.log := by
    rw [hlog]
    exact hopened.append fun x hx => by rw [List.mem_singleton.mp hx]; exact hstill
  cases (Files.answer m w .connect).1 with
  | ok _ => exact hopened₁
  | error _ => exact hopened₁

/-- Only a refused token leads to a second connection, and to a new token on it. -/
theorem wpE_afterAuthentication {t : StoreState} (publication : CredentialPublication)
    (result : Except PlatformAccessTokenAcquisitionError PlatformAccessToken)
    (hok : ∀ token, result = .ok token → Published store publication t.log
      ∨ Opened publication t.log ∧ Accepted store t.log)
    (herr : ∀ err, result = .error err → Opened publication t.log) :
    wpE (anyMoment WriterStep.apply) (store.afterAuthentication publication result)
      (fun _ t' => Published store publication t'.log
        ∨ Opened publication t'.log ∧ Accepted store t'.log)
      (fun _ t' => Opened publication t'.log) t := by
  unfold afterAuthentication
  split
  · rename_i token
    exact hok token rfl
  · -- the stored token was refused: a second connection, and a new token
    refine Program.wpE.bind (wpE_connect (herr _ rfl)) fun _ t₁ hopened => ?_
    refine Program.wpE_bind.mpr (Program.wpE_adapt.mpr ?_)
    refine Program.wpE.mono ?_ (fun _ _ h => h) (store.wpE_acquireAndPersist hopened)
    exact fun _ _ h => Or.inl h
  · rename_i source _
    exact herr source rfl

/-- **The whole call.** Either it publishes once, or it is accepted with the stored token, or
nothing was written. -/
theorem wpE_connectAuthenticated {w : Files} :
    wpE (anyMoment WriterStep.apply) store.connectAuthenticated
      (fun _ t' => ∃ publication, Published store publication t'.log
        ∨ Opened publication t'.log ∧ Accepted store t'.log)
      (fun _ t' => ∀ x ∈ t'.log, Still x) ⟨w, []⟩ := by
  refine Program.wpE_bind.mpr (Program.wpE_adapt.mpr ?_)
  refine Program.wpE.mono ?_ (fun _ _ h => h) store.wpE_publicationSnapshot
  intro publication t₁ hopened
  refine Program.wpE_bind.mpr (Program.wpE.mono ?_ ?_ (wpE_connect hopened))
  · intro _ t₂ hopened₂
    refine Program.wpE_bind.mpr (Program.wpE_lift.mpr ?_)
    refine Program.wp.mono ?_ (store.wpE_getOrAcquire hopened₂)
    intro result t₃ hresult
    refine Program.wpE.mono ?_ ?_ (store.wpE_afterAuthentication publication result ?_ ?_)
    · exact fun _ t₄ h => ⟨publication, h⟩
    · exact fun _ t₄ h => h.still
    · rintro token rfl
      exact hresult
    · rintro err rfl
      exact hresult
  · exact fun _ t₂ h => h.still

/-- The calls of `connect_authenticated_with_stored_token`. -/
def reads : StoreCall → Bool
  | .readNoFollow .token | .connect | .register (some _) => true
  | _ => false

/-- The variant for background operations has no call that writes or asks for a new token. -/
theorem reads_connectAuthenticatedWithStoredToken :
    WithinE (reads ·) store.connectAuthenticatedWithStoredToken := by
  have hadapt : ∀ {E E' α : Type} {f : E → E'} {p : StoreM E α}, WithinE (reads ·) p →
      WithinE (reads ·) (ExceptT.adapt f p) :=
    fun hp => Within.bind hp fun _ => Within.done _
  have hread : Within (reads ·) (StoreProgram.readNoFollow .token) :=
    Within.perform (e := StoreCall.readNoFollow .token) rfl
  have hload : WithinE (reads ·) store.load := by
    refine WithinE.bind (WithinE.lift hread) fun contents => ?_
    cases contents with
    | error source =>
      show WithinE _ (if _ then _ else _)
      split
      · exact Within.done _
      · exact Within.done _
    | ok contents => exact WithinE.bind (Within.done _) fun token => Within.done _
  refine WithinE.bind (hadapt (WithinE.bind (hadapt hload) fun stored => ?_)) fun token => ?_
  · cases stored with
    | none => exact Within.done _
    | some token => exact Within.done _
  · refine WithinE.bind (within_orElse (Within.perform (e := StoreCall.connect) rfl)) fun _ => ?_
    refine WithinE.bind (within_orElse ?_) fun _ => Within.done _
    exact Within.perform (e := StoreCall.register (some token)) rfl

end PlatformAccessTokenStore

/-- **Conditional publication of a new pairing credential**: in every interleaving with writers
that hold the pairing lock, and the variant for background operations only reads. -/
theorem conditional_publication (store : PlatformAccessTokenStore)
    (moments : Nat → Moment WriterStep) (w : Files) :
    PublicationLaw store (runStore WriterStep.apply moments store.connectAuthenticated.run w).1
        (runStore WriterStep.apply moments store.connectAuthenticated.run w).2.log
      ∧ ∀ x ∈ (runStore WriterStep.apply moments
            store.connectAuthenticatedWithStoredToken.run w).2.log,
          x.after.disk = x.before.disk ∧ x.call ≠ .register none := by
  constructor
  · have hrun := runStore_spec (store.wpE_connectAuthenticated (w := w)) moments
    cases hresult : (runStore WriterStep.apply moments store.connectAuthenticated.run w).1 with
    | ok u =>
      rw [hresult] at hrun
      obtain ⟨publication, hpublished | ⟨hopened, haccepted⟩⟩ := hrun
      · exact publicationLaw_of_published hpublished
      · exact publicationLaw_of_still hopened.still fun _ => haccepted
    | error err =>
      rw [hresult] at hrun
      exact publicationLaw_of_still hrun nofun
  · have hwithin := grew_of_within unlocked_shield (t := ⟨w, []⟩) trivial
      store.reads_connectAuthenticatedWithStoredToken
      (fun e he => ⟨fun h => (by rw [h] at he; cases he), fun h => (by rw [h] at he; cases he)⟩)
    obtain ⟨xs, hgrew, hxs⟩ := runStore_spec hwithin moments
    intro x hx
    rw [hgrew.log] at hx
    have hreads := hxs x hx
    refine ⟨funext fun p => (hgrew.genuine x hx).disk ?_, ?_⟩
    · intro hp
      cases hcall : x.call with
      | file op => rw [hcall] at hreads; cases hreads
      | _ => rw [hcall] at hp; cases hp
    · intro hcall
      rw [hcall] at hreads
      cases hreads

/-! ## A config that is a link -/

/-- What a read-only file of the user says of itself. -/
def readOnlyInfo : FileInfo := ⟨1, 2, 1000, 1000, 0o444, (0, 0)⟩

/-- The config is a link to a file elsewhere, and a token is stored. -/
def linkedFiles : Files where
  disk
    | .config => some (.symlink readOnlyInfo 0)
    | .linked 0 => some (.file [0x0a] readOnlyInfo)
    | .token => some (.file [0x6b] readOnlyInfo)
    | _ => none
  holder := .free

/-- A token file holds the secret alone. -/
def plainStore : PlatformAccessTokenStore where
  name _ := ""
  owner := ⟨1000, 1000⟩
  format := ⟨fun secret => .ok secret.toUTF8.toList, .ok⟩

/-- The TV accepts what it is shown. -/
def acceptingMoment (token : PlatformAccessToken) : Moment WriterStep where
  outside := []
  fault := none
  lockFault := none
  fresh := readOnlyInfo
  clearsBits := false
  connect := .ok ()
  register := .ok token
  tempCounter := 0
  owner := .ok ⟨1000, 1000⟩
  validated := .ok ()
  behaviors := .ok []
  isCancelled := false
  begun := true
  hook := .ok ()

example : (runStore WriterStep.apply (fun _ => acceptingMoment ⟨"k", by decide⟩)
    plainStore.connectAuthenticated.run linkedFiles).1.isOk = true := by
  decide +kernel

end LgBuddy
