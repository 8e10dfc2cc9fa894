import LgBuddy.Pairing.Forgetting
import LgBuddy.Pairing.Publication

/-!
# LgBuddy — what an unpaired config says

A run of `unpair_primary` among other writers, who take the pairing lock before they write.

* `Spares` — a part of the run, under the lock, that leaves the config alone;
* `wpE_checkUnpairConfigPreconditions` — the config is the text that was read first;
* `wpE_atomicWriteConfig` — the config is replaced;
* `Unpairs` — what a run that succeeds has made of the config;
* `unpairing_forgets` — which configs forget the TV for every reader.
-/

namespace LgBuddy

open Program (wp wpE Within WithinE)
open Str (utf8Bytes)
open PlatformAccessTokenStore (within_orElse)

/-! ## Parts of a run -/

def Locked (w : Files) : Prop := w.holder = .us

abbrev allPlaces : Place → Prop := fun _ => True

/-- A part of a run, under the lock, that leaves the config alone. -/
def Spares (t t' : StoreState) : Prop :=
  ∃ xs, Grew WriterStep Locked allPlaces t t' xs
    ∧ ∀ x ∈ xs, x.after.disk .config = x.before.disk .config

/-- Parts that spare the config file do so in a row. -/
theorem Spares.trans {t t' t'' : StoreState} (h : Spares t t') (h' : Spares t' t'') :
    Spares t t'' := by
  obtain ⟨xs, hgrew, hxs⟩ := h
  obtain ⟨ys, hgrew', hys⟩ := h'
  refine ⟨xs ++ ys, hgrew.trans hgrew', fun x hx => ?_⟩
  rcases List.mem_append.mp hx with hold | hnew
  · exact hxs x hold
  · exact hys x hnew

/-- The lock is still held. -/
theorem Spares.locked {t t' : StoreState} (h : Spares t t') : Locked t'.world := by
  obtain ⟨xs, hgrew, -⟩ := h
  exact hgrew.guard

/-- The config file is the same. -/
theorem Spares.config {t t' : StoreState} (h : Spares t t') :
    t'.world.disk .config = t.world.disk .config := by
  obtain ⟨xs, hgrew, hxs⟩ := h
  exact hgrew.disk .config trivial hxs

/-- The log has only grown. -/
theorem Spares.log {t t' : StoreState} (h : Spares t t') : ∃ xs, t'.log = t.log ++ xs := by
  obtain ⟨xs, hgrew, -⟩ := h
  exact ⟨xs, hgrew.log⟩

/-- A call that concerns neither the config nor the lock. -/
def StoreCall.spares : StoreCall → Bool
  | .file op => op.touches.all fun p => p ≠ .config
  | .lock | .unlock => false
  | _ => true

/-- Such a call neither takes nor gives back the lock. -/
theorem StoreCall.spares_lock {e : StoreCall} (h : e.spares) : e ≠ .lock ∧ e ≠ .unlock := by
  constructor <;> rintro rfl <;> cases h

/-- A call that spares the config does not write the config file. -/
theorem StoreCall.spares_touches {e : StoreCall} (h : e.spares) : Place.config ∉ e.touches := by
  cases e with
  | file op =>
    have hall : ∀ p ∈ op.touches, p ≠ .config := by simpa [StoreCall.spares] using h
    exact fun hmem => hall _ hmem rfl
  | _ => exact List.not_mem_nil

section Rules

variable {t : StoreState} (ht : Locked t.world)
include ht

/-- A program of such calls spares it, whatever the other writers do, for they wait for the lock.
-/
theorem spares_of_within {α : Type} {p : StoreProgram α} (hp : Within (StoreCall.spares ·) p) :
    wp (anyMoment WriterStep.apply) p (fun _ => Spares t) t := by
  refine Program.wp.mono ?_
    (grew_of_within writers_shield ht hp fun e he => StoreCall.spares_lock he)
  rintro a t' ⟨xs, hgrew, hxs⟩
  refine ⟨xs, hgrew, fun x hx => ?_⟩
  exact (hgrew.genuine x hx).disk (StoreCall.spares_touches (hxs x hx))

/-- A part that spares the config, whatever becomes of it. -/
theorem wpE_sparing {E α : Type} {p : StoreM E α} (hp : WithinE (StoreCall.spares ·) p) :
    wpE (anyMoment WriterStep.apply) p (fun _ => Spares t) (fun _ _ => True) t := by
  refine Program.wp.mono (fun result t' hspares => ?_) (spares_of_within ht hp)
  cases result with
  | ok a => exact hspares
  | error err => trivial

end Rules

/-- Whatever happens. -/
theorem wp_any {α : Type} (p : StoreProgram α) (t : StoreState) :
    wp (anyMoment WriterStep.apply) p (fun _ _ => True) t := by
  induction p generalizing t with
  | done a => trivial
  | call e k ih => exact ⟨trivial, fun r t' _ => ih r t'⟩

/-! ## Programs that spare the config -/

theorem spares_asking {e : StoreCall} (h : e.spares) :
    Within (StoreCall.spares ·) (Program.perform e : StoreProgram e.Answer) :=
  Within.perform h

theorem spares_stat (p : Place) :
    Within (StoreCall.spares ·) (StoreProgram.symlinkMetadata p) :=
  spares_asking (e := .symlinkMetadata p) rfl

/-- A result that is looked at in cases, with a value or an error in each. -/
theorem spares_readConfigSnapshot : WithinE (StoreCall.spares ·) readConfigSnapshot := by
  refine WithinE.bind (WithinE.lift (spares_stat .config)) fun stat => ?_
  split
  · exact Within.done _
  · refine WithinE.bind (WithinE.lift (spares_asking (e := .read .config) rfl)) fun result => ?_
    split
    · exact Within.done _
    · split
      · exact Within.done _
      · exact Within.done _

/-- Reading the token spares it. -/
theorem spares_readExistingToken : WithinE (StoreCall.spares ·) readExistingToken := by
  refine WithinE.bind (WithinE.lift (spares_stat .token)) fun stat => ?_
  split
  · split
    · exact Within.done _
    · exact Within.done _
  · split
    · exact Within.done _
    · refine WithinE.bind (within_orElse ?_) fun _ => Within.done _
      exact spares_asking (e := .readNoFollow .token) rfl

/-- Looking at a directory spares the config. -/
theorem spares_ensureDirectorySafe (owner : SystemUser) (directory : Place) :
    WithinE (StoreCall.spares ·) (ensureDirectorySafe owner directory) := by
  refine WithinE.bind (WithinE.lift (spares_stat directory)) fun stat => ?_
  split
  · split
    · exact Within.done _
    · exact Within.done _
  · -- every branch ends
    repeat' split
    all_goals exact Within.done _

/-- Looking at the token's path spares the config. -/
theorem spares_ensureTokenPathSafe (owner : SystemUser) :
    WithinE (StoreCall.spares ·) (ensureTokenPathSafe owner) := by
  refine WithinE.bind (spares_ensureDirectorySafe owner .tvsDir) fun _ => ?_
  refine WithinE.bind (spares_ensureDirectorySafe owner .profileDir) fun _ => ?_
  refine WithinE.bind (WithinE.lift (spares_stat .token)) fun stat => ?_
  split
  · split
    · exact Within.done _
    · exact Within.done _
  · repeat' split
    all_goals exact Within.done _

/-- Removing the token spares the config file too. -/
theorem spares_removeToken (store : PairingStore) :
    WithinE (StoreCall.spares ·) store.removeToken := by
  refine WithinE.bind (spares_ensureTokenPathSafe store.owner) fun _ => ?_
  refine WithinE.bind spares_readExistingToken fun current => ?_
  split
  · exact Within.done _
  · refine WithinE.bind (WithinE.lift (spares_stat .token)) fun stat => ?_
    split
    · split
      · refine within_orElse (Within.perform (e := StoreCall.file (.removeFile .token)) ?_)
        rfl
      · exact Within.done _
    · split
      · exact Within.done _
      · exact Within.done _

/-- All preparations of an unpairing spare the config. -/
theorem spares_prepareUnpair (context : UnpairContext) :
    WithinE (StoreCall.spares ·) context.prepareUnpair := by
  refine WithinE.bind spares_readConfigSnapshot fun snapshot => ?_
  refine WithinE.bind (Within.done _) fun _ => ?_
  refine WithinE.bind ?_ fun owner => ?_
  · unfold UnpairContext.resolveOwner
    split
    · exact within_orElse (spares_asking (e := .resolveOwner) rfl)
    · exact Within.done _
  · split
    · exact Within.done _
    · split
      · exact Within.done _
      · refine WithinE.bind (Within.done _) fun _ => ?_
        refine WithinE.bind spares_readExistingToken fun _ => ?_
        refine WithinE.bind (spares_ensureTokenPathSafe owner) fun _ => ?_
        refine WithinE.bind (WithinE.lift (spares_stat .profileDir)) fun _ => ?_
        exact WithinE.bind (WithinE.lift (spares_stat .tvsDir)) fun _ => Within.done _

/-! ## What the checks have seen -/

section Checks

variable {t : StoreState}

/-- One call that touches nothing spares it. -/
theorem spares_of_grew {t' : StoreState} {x : StoreEntry}
    (hgrew : Grew WriterStep Locked allPlaces t t' [x]) (htouches : x.call.touches = []) :
    Spares t t' := by
  refine ⟨_, hgrew, fun y hy => ?_⟩
  have hgenuine := hgrew.genuine y hy
  rw [List.mem_singleton] at hy
  exact hgenuine.disk (by rw [hy, htouches]; exact List.not_mem_nil)

/-- A file that is there is read as it is. -/
theorem wpE_readConfigSnapshot (ht : Locked t.world) :
    wpE (anyMoment WriterStep.apply) readConfigSnapshot
      (fun snapshot t' => Spares t t' ∧ ∀ bytes bytes' info, snapshot = some bytes →
        t.world.disk .config = some (.file bytes' info) → bytes = bytes')
      (fun _ _ => True) t := by
  refine Program.wpE_bind.mpr (Program.wpE_lift.mpr ?_)
  refine wp_asking writers_shield ht (e := .symlinkMetadata .config) nofun nofun ?_
  intro m w t₁ hsame hgrew
  have hspares := spares_of_grew hgrew rfl
  show wpE _ (if _ then _ else _) _ _ t₁
  split
  · trivial
  · refine Program.wpE_bind.mpr (Program.wpE_lift.mpr ?_)
    refine wp_asking writers_shield hspares.locked (e := .read .config) nofun nofun ?_
    intro m' w' t₂ hsame' hgrew'
    have hspares' := hspares.trans (spares_of_grew hgrew' rfl)
    cases hread : (w'.answer m' (.read .config)).1 with
    | error source =>
      show wpE _ (if _ then _ else _) _ _ t₂
      split
      · exact ⟨hspares', nofun⟩
      · trivial
    | ok bytes =>
      refine ⟨hspares', ?_⟩
      intro bytes' file info hbytes hfile
      cases hbytes
      have hdisk : w'.disk .config = some (.file file info) := by
        rw [hsame' .config trivial, hspares.config, hfile]
      have hok := Moment.attempt_ok (r := (w'.followed .config).map Prod.fst) hread
      rw [Files.followed_file hdisk] at hok
      cases hok
      rfl

/-- What passes the check of owners is a regular file, and the one that was there. -/
theorem wpE_ensureConfigOwner (ht : Locked t.world) (owner : SystemUser) (euid : Nat) :
    wpE (anyMoment WriterStep.apply) (ensureConfigOwner owner euid)
      (fun _ t' => Spares t t' ∧ ∃ bytes info, t.world.disk .config = some (.file bytes info))
      (fun _ _ => True) t := by
  refine Program.wpE_bind.mpr (wpE_orElse.mpr ?_)
  refine wp_asking writers_shield ht (e := .symlinkMetadata .config) nofun nofun ?_
  intro m w t₁ hsame hgrew
  have hspares := spares_of_grew hgrew rfl
  show Program.post _ _ (m.attempt (w.stat .config)) t₁
  cases hstat : m.attempt (w.stat .config) with
  | error source => trivial
  | ok stat =>
    show wpE _ (if _ then _ else _) _ _ t₁
    split
    · trivial
    · split
      · trivial
      · rename_i hfile
        have hkind : stat.kind = .file := not_not.1 hfile
        -- of the kinds of nodes only a file passes the test
        have hthere : ∃ bytes info, t.world.disk .config = some (.file bytes info) := by
          rw [← hsame .config trivial]
          have hok := Moment.attempt_ok hstat
          unfold Files.stat at hok
          cases hnode : w.disk .config with
          | none =>
            rw [hnode] at hok
            cases hok
          | some node =>
            rw [hnode] at hok
            cases hok
            cases node with
            | file bytes info => exact ⟨bytes, info, rfl⟩
            | dir info => cases hkind
            | symlink info target => cases hkind
            | other info => cases hkind
        split
        · trivial
        · split
          · trivial
          · exact ⟨hspares, hthere⟩

/-- Bytes that are a text are the bytes of that text. -/
theorem configText_ok {contents : List UInt8} {text : Text} (h : configText contents = .ok text) :
    contents = utf8Bytes text := by
  unfold configText at h
  cases htext : Str.fromUtf8 contents with
  | none =>
    rw [htext] at h
    cases h
  | some decoded =>
    rw [htext] at h
    cases h
    exact (Str.fromUtf8_eq_some.1 htext).symm

/-- A config with a valid identity is a text. -/
theorem identity_utf8 {contents : Option (List UInt8)} {expected : TvProfile}
    (h : validatePrimaryIdentity contents expected = .ok ()) :
    ∃ text, contents = some (utf8Bytes text) := by
  cases contents with
  | none => cases h
  | some bytes =>
    change (configText bytes >>= fun text => _) = Except.ok () at h
    cases htext : configText bytes with
    | error err =>
      rw [htext] at h
      cases h
    | ok text => exact ⟨text, by rw [configText_ok htext]⟩

/-- The snapshot is a text, and the config is the snapshot. -/
theorem wpE_checkUnpairConfigPreconditions (store : PairingStore) (expected : TvProfile)
    (ht : Locked t.world) :
    wpE (anyMoment WriterStep.apply) (store.checkUnpairConfigPreconditions expected)
      (fun _ t' => Spares t t' ∧ ∃ text info, store.snapshot = some (utf8Bytes text)
        ∧ t.world.disk .config = some (.file (utf8Bytes text) info))
      (fun _ _ => True) t := by
  refine Program.wpE.bind (wpE_readConfigSnapshot ht) ?_
  rintro current t₁ ⟨hspares, hread⟩
  split
  · trivial
  · rename_i hsame
    have hsnapshot : current = store.snapshot := not_not.1 hsame
    refine Program.wpE.bind (wpE_ensureConfigOwner hspares.locked _ _) ?_
    rintro - t₂ ⟨hspares', bytes, info, hfile⟩
    rw [hspares.config] at hfile
    refine wpE_ofExcept.mpr ?_
    cases hvalid : validatePrimaryIdentity current expected with
    | error err => trivial
    | ok u =>
      obtain ⟨text, htext⟩ := identity_utf8 hvalid
      obtain rfl := hread _ _ _ htext hfile
      exact ⟨hspares.trans hspares', text, info, hsnapshot ▸ htext, hfile⟩

end Checks

/-! ## The new config -/

section Writing

variable {t : StoreState} {temp : Place} (haside : temp.profiled = false)

/-- Whatever becomes of the temporary file after an error. -/
theorem wpE_orCleanUp_any {E : Type} {body : StoreM E Unit} {Q : Unit → StoreState → Prop}
    (h : wpE (anyMoment WriterStep.apply) body Q (fun _ _ => True) t) :
    wpE (anyMoment WriterStep.apply) (StoreM.orCleanUp temp body) Q (fun _ _ => True) t := by
  refine Program.wpE_bind.mpr (Program.wpE_lift.mpr (Program.wp.mono ?_ h))
  intro result t' hresult
  cases result with
  | ok _ => exact hresult
  | error err =>
    refine Program.wpE_bind.mpr (Program.wpE_bind.mpr (Program.wpE_lift.mpr ?_))
    exact Program.wp.mono (fun _ _ _ => trivial) (wp_any _ t')

/-- A new temporary file is empty, and beside the files in use. -/
theorem wpE_createNew (ht : Locked t.world) (mode : Fin 0o10000) {E : Type} {f : FsError → E} :
    wpE (anyMoment WriterStep.apply)
      (StoreM.orElse (StoreProgram.createNew (.temp .config n) mode) f)
      (fun _ t' => Stays WriterStep Locked allPlaces t t'
        ∧ Holds t' (.temp .config n) [] (fun _ => True))
      (fun _ _ => True) t := by
  refine wpE_orElse.mpr (wp_file writers_shield ht (fun _ _ _ _ => trivial) ?_)
  intro w w' fresh clears t' _ happly hgrew hworld
  refine ⟨⟨_, hgrew, fun x hx => ?_⟩, fresh, ?_, trivial⟩
  · cases List.mem_singleton.mp hx
    exact still_of_quiet (hgrew.genuine _ (List.mem_singleton.mpr rfl)) rfl
  · dsimp only [Files.apply, Files.create] at happly
    split at happly
    · cases happly
    · split at happly <;> cases happly
      rw [hworld]
      exact Files.set_self _ _ _

include haside

/-- The new contents are written aside, with mode and owner set, and take the file's place in one
rename. -/
theorem wpE_writeConfigThrough (before contents : List UInt8) (mode : Fin 0o10000)
    (owner : SystemUser) (ht : Locked t.world) (hholds : Holds t temp [] (fun _ => True)) :
    wpE (anyMoment WriterStep.apply) (writeConfigThrough temp before contents mode owner)
      (fun _ => Replaces WriterStep Locked allPlaces .config contents (fun _ => True) t)
      (fun _ _ => True) t := by
  have S : Shield WriterStep.apply Locked allPlaces := writers_shield
  refine Program.wpE_bind.mpr (wpE_writeAll S trivial haside ht hholds ?_ contents ?_)
  · exact fun _ _ _ => trivial
  intro t₁ h₁ hholds₁
  refine Program.wpE_bind.mpr (wpE_flush S trivial haside h₁.guarded hholds₁ ?_ ?_)
  · exact fun _ _ _ => trivial
  intro t₂ h₂ hholds₂
  replace h₂ := h₁.trans h₂
  refine Program.wpE_bind.mpr (wpE_setMode S trivial haside h₂.guarded hholds₂ ?_ mode
    (fun _ => True) (fun _ _ => trivial) ?_)
  · exact fun _ _ _ => trivial
  intro t₃ h₃ hholds₃
  replace h₃ := h₂.trans h₃
  refine Program.wpE_bind.mpr (wpE_setOwner S trivial haside h₃.guarded hholds₃ ?_
    owner.uid owner.gid (fun _ => True) (fun _ _ _ _ => trivial) ?_)
  · exact fun _ _ _ => trivial
  intro t₄ h₄ hholds₄
  replace h₄ := h₃.trans h₄
  refine Program.wpE_bind.mpr (wpE_syncAll S trivial haside h₄.guarded hholds₄ ?_ ?_)
  · exact fun _ _ _ => trivial
  intro t₅ h₅ hholds₅
  replace h₅ := h₄.trans h₅
  -- the declarations are asked once more before the rename
  refine Program.wpE_bind.mpr (wpE_orElse.mpr (wp_asking S h₅.guarded
    (e := .validateChanges before contents) nofun nofun ?_))
  intro m w t₆ _ hgrew
  cases (w.answer m (.validateChanges before contents)).1 with
  | error source => trivial
  | ok u =>
    have hstill : Stays WriterStep Locked allPlaces t₅ t₆ := by
      refine ⟨_, hgrew, fun x hx => ?_⟩
      cases List.mem_singleton.mp hx
      exact still_of_quiet (hgrew.genuine _ (List.mem_singleton.mpr rfl)) rfl
    have hholds₆ : Holds t₆ temp ([] ++ contents) (fun _ => True) := by
      obtain ⟨info, hdisk, -⟩ := hholds₅
      refine ⟨info, ?_, trivial⟩
      rw [hgrew.disk temp trivial fun x hx => ?_, hdisk]
      cases List.mem_singleton.mp hx
      exact (hgrew.genuine _ (List.mem_singleton.mpr rfl)).disk List.not_mem_nil
    have h₆ := h₅.trans hstill
    refine wpE_renameTemp S trivial h₆.guarded hholds₆ haside ?_ ?_
    · exact fun _ h => h₆.replaces h
    · exact fun _ _ _ => trivial

end Writing

/-- **The config is replaced.** -/
theorem wpE_atomicWriteConfig {t : StoreState} (ht : Locked t.world) (contents : List UInt8)
    (owner : SystemUser) (existed : Bool) :
    wpE (anyMoment WriterStep.apply) (atomicWriteConfig contents owner existed)
      (fun _ => Replaces WriterStep Locked allPlaces .config contents (fun _ => True) t)
      (fun _ _ => True) t := by
  -- the calls before the write move nothing
  have hquiet : ∀ {E α : Type} {p : StoreM E α} {u : StoreState},
      Stays WriterStep Locked allPlaces t u → WithinE (StoreCall.quiet ·) p →
      wpE (anyMoment WriterStep.apply) p (fun _ => Stays WriterStep Locked allPlaces t)
        (fun _ _ => True) u := by
    intro E α p u hu hp
    exact PlatformAccessTokenStore.wpE_quiet writers_shield hu.guarded hp
      (fun _ _ h => hu.trans h) fun _ _ _ => trivial
  have hask : ∀ {e : StoreCall}, e.quiet →
      Within (StoreCall.quiet ·) (Program.perform e : StoreProgram e.Answer) :=
    fun h => Within.perform h
  have hread : WithinE (StoreCall.quiet ·) readConfigSnapshot := by
    refine WithinE.bind (WithinE.lift (hask (e := .symlinkMetadata .config) rfl)) fun stat => ?_
    split
    · exact Within.done _
    · refine WithinE.bind (WithinE.lift (hask (e := .read .config) rfl)) fun result => ?_
      split
      · exact Within.done _
      · split
        · exact Within.done _
        · exact Within.done _
  refine Program.wpE.bind (hquiet (Stays.refl ht) hread) fun snapshot t₁ h₁ => ?_
  refine Program.wpE.bind (hquiet h₁ (within_orElse
    (hask (e := .validateChanges (snapshot.getD []) contents) rfl))) fun _ t₂ h₂ => ?_
  have hmode : WithinE (StoreCall.quiet ·) (configMode existed) := by
    unfold configMode
    split
    · refine WithinE.bind (within_orElse (hask (e := .metadata .config) rfl)) fun _ => ?_
      exact Within.done _
    · exact Within.done _
  refine Program.wpE.bind (hquiet h₂ hmode) fun mode t₃ h₃ => ?_
  refine Program.wpE.bind (hquiet h₃ (WithinE.lift (hask (e := .tempCounter) rfl)))
    fun n t₄ h₄ => ?_
  refine Program.wpE.bind (wpE_createNew (n := n) h₄.guarded mode) ?_
  rintro - t₅ ⟨h₅, hholds⟩
  replace h₅ := h₄.trans h₅
  -- the temporary file is no place a profile is read from
  have haside : (Place.temp .config n).profiled = false := rfl
  have hwrite := wpE_writeConfigThrough haside (snapshot.getD []) contents mode owner
    h₅.guarded hholds
  exact wpE_orCleanUp_any (Program.wpE.mono (fun _ _ h => h₅.replaces h) (fun _ _ h => h) hwrite)

/-! ## The whole run -/

/-- **What a part of a run that succeeds has made of the config.** -/
structure Unpairs (t t' : StoreState) : Prop where
  config : ∃ text info info', t.world.disk .config = some (.file (utf8Bytes text) info)
    ∧ t'.world.disk .config = some (.file (utf8Bytes (withoutTv text)) info')
  locked : Locked t'.world
  log : ∃ xs, t'.log = t.log ++ xs

/-- What only spared the config file before it was rewritten leaves it rewritten. -/
theorem Spares.unpairs {t t' t'' : StoreState} (h : Spares t t') (h' : Unpairs t' t'') :
    Unpairs t t'' := by
  obtain ⟨text, info, info', hbefore, hafter⟩ := h'.config
  refine ⟨⟨text, info, info', ?_, hafter⟩, h'.locked, ?_⟩
  · rw [← h.config, hbefore]
  · obtain ⟨xs, hxs⟩ := h.log
    obtain ⟨ys, hys⟩ := h'.log
    exact ⟨xs ++ ys, by rw [hys, hxs, List.append_assoc]⟩

/-- A config file replaced by itself without the TV is unpaired. -/
theorem Replaces.unpairs {t t' : StoreState} {text : Text} {info : FileInfo}
    (hbefore : t.world.disk .config = some (.file (utf8Bytes text) info))
    (h : Replaces WriterStep Locked allPlaces .config (utf8Bytes (withoutTv text))
      (fun _ => True) t t') : Unpairs t t' := by
  obtain ⟨mid, w, src, w', info', ⟨xs, hgrew, -⟩, hlast, -, hworld, hfile, -⟩ := h
  refine ⟨⟨text, info, info', hbefore, by rw [hworld, hfile]⟩, hlast.guard, ?_⟩
  exact ⟨_, by rw [hlast.log, hgrew.log, List.append_assoc]⟩

section Run

variable {t : StoreState} (ht : Locked t.world)
include ht

/-- The unpaired config is published only if it is still the one that was read and no token is
left. -/
theorem wpE_publishUnpaired (store : PairingStore) (expected : TvProfile) :
    wpE (anyMoment WriterStep.apply) (store.publishUnpaired expected)
      (fun _ => Unpairs t) (fun _ _ => True) t := by
  refine Program.wpE.bind (wpE_checkUnpairConfigPreconditions store expected ht) ?_
  rintro - t₁ ⟨h₁, text, info, hsnapshot, hfile⟩
  refine Program.wpE_bind.mpr (Program.wpE_lift.mpr ?_)
  refine wp_asking writers_shield h₁.locked (e := .symlinkMetadata .token) nofun nofun ?_
  intro m w t₂ _ hgrew
  have h₂ := h₁.trans (spares_of_grew hgrew rfl)
  cases (w.answer m (.symlinkMetadata .token)).1 with
  -- a token is there again: nothing is published
  | ok stat => trivial
  | error source =>
    show wpE _ (if _ then _ else _) _ _ t₂
    split
    · refine Program.wpE.mono ?_ (fun _ _ h => h) (wpE_atomicWriteConfig h₂.locked _ _ _)
      intro _ t₃ hreplaces
      rw [hsnapshot, Option.getD_some, removePrimaryConfigKeys_utf8Bytes] at hreplaces
      exact h₂.unpairs (hreplaces.unpairs (h₂.config.trans hfile))
    · trivial

/-- **Unpair.** If it succeeds, the config file is that of before without the TV. -/
theorem wpE_unpair (store : PairingStore) (expected : TvProfile) :
    wpE (anyMoment WriterStep.apply) (store.unpair expected)
      (fun _ => Unpairs t) (fun _ _ => True) t := by
  refine Program.wpE_bind.mpr ?_
  refine Program.wpE.bind (wpE_checkUnpairConfigPreconditions store expected ht) ?_
  rintro - t₁ ⟨h₁, -⟩
  refine Program.wpE.bind (wpE_sparing h₁.locked (spares_ensureTokenPathSafe _)) ?_
  intro _ t₂ h₂
  replace h₂ := h₁.trans h₂
  refine Program.wpE.bind (wpE_sparing h₂.locked spares_readExistingToken) ?_
  intro current t₃ h₃
  replace h₃ := h₂.trans h₃
  split
  · trivial
  · refine Program.wpE.bind (wpE_sparing h₃.locked (within_orElse (spares_asking
      (e := .validateChanges (store.snapshot.getD [])
        (removePrimaryConfigKeys (store.snapshot.getD []))) rfl))) ?_
    intro _ t₄ h₄
    replace h₄ := h₃.trans h₄
    refine Program.wpE.bind (wpE_sparing h₄.locked (spares_removeToken store)) ?_
    intro _ t₅ h₅
    replace h₅ := h₄.trans h₅
    refine Program.wpE_bind.mpr (Program.wpE_lift.mpr ?_)
    refine Program.wp.mono ?_ (wpE_publishUnpaired h₅.locked store expected)
    intro result t₆ hresult
    cases result with
    | ok u => exact h₅.unpairs hresult
    | error err =>
      -- the credential is put back, and the error stays
      refine Program.wpE_bind.mpr (Program.wpE_lift.mpr (Program.wp.mono ?_ (wp_any _ t₆)))
      intro undone t₇ _
      cases undone with
      | ok u => trivial
      | error undo => trivial

/-- An unpairing, from the preparations on. -/
theorem wpE_unpairLocked (context : UnpairContext) (expected : TvProfile) :
    wpE (anyMoment WriterStep.apply) (context.unpairLocked expected)
      (fun _ => Unpairs t) (fun _ _ => True) t := by
  refine Program.wpE.bind (wpE_sparing ht (spares_prepareUnpair context)) ?_
  intro store t₁ h₁
  refine Program.wpE.mono (fun _ _ h => h₁.unpairs h) (fun _ _ h => h) ?_
  exact wpE_unpair h₁.locked store expected

end Run

/-- The config was this text when the lock was taken. -/
def LockedOn (log : List StoreEntry) (contents : Text) : Prop :=
  ∃ x rest info, log = x :: rest ∧ x.call = .lock
    ∧ x.after.disk .config = some (.file (utf8Bytes contents) info)

/-- An unpairing, from the lock on, whose moment says what the config file was. -/
theorem wpE_unpairPrimary (context : UnpairContext) (expected : TvProfile) (w : Files) :
    wpE (anyMoment WriterStep.apply) (context.unpairPrimary expected)
      (fun _ t => ∃ text info, LockedOn t.log text
        ∧ t.world.disk .config = some (.file (utf8Bytes (withoutTv text)) info))
      (fun _ _ => True) ⟨w, []⟩ := by
  unfold UnpairContext.unpairPrimary
  split
  · trivial
  · refine Program.wpE_bind.mpr (Program.wpE_mk.mpr ?_)
    refine wp_logged (e := .lock) rfl fun m v t₁ hlog _ hworld => ?_
    cases hanswer : (v.answer m .lock).1 with
    | error err => trivial
    | ok u =>
      have hlocked : Locked t₁.world := by
        rw [hworld]
        exact (answer_lock hanswer).1
      refine Program.wpE_bind.mpr (Program.wpE_lift.mpr ?_)
      refine Program.wp.mono ?_ (wpE_unpairLocked hlocked context expected)
      intro result t₂ hresult
      refine Program.wpE_bind.mpr (Program.wpE_lift.mpr ?_)
      refine wp_storeCall (e := .unlock) fun m' => ?_
      cases result with
      | error err => trivial
      | ok u =>
        obtain ⟨text, info, info', hbefore, hafter⟩ := Unpairs.config hresult
        obtain ⟨xs, hxs⟩ := Unpairs.log hresult
        obtain ⟨-, hdisk⟩ := writers_shield.fold (Unpairs.locked hresult) m'.outside
        have hfirst : ∃ rest, (t₂.perform WriterStep.apply m' .unlock).2.log
            = (⟨v, .lock, (v.answer m .lock).1, (v.answer m .lock).2⟩ : StoreEntry) :: rest := by
          have hlast : ∃ last, (t₂.perform WriterStep.apply m' .unlock).2.log = t₂.log ++ last :=
            ⟨_, rfl⟩
          obtain ⟨last, hlast⟩ := hlast
          exact ⟨xs ++ last, by rw [hlast, hxs, hlog]; simp⟩
        obtain ⟨rest, hrest⟩ := hfirst
        refine ⟨text, info', ⟨_, rest, info, hrest, rfl, ?_⟩, ?_⟩
        · show (v.answer m .lock).2.disk .config = _
          rw [← hworld, hbefore]
        · show ((m'.outside.foldl WriterStep.apply t₂.world).answer m' .unlock).2.disk .config = _
          rw [answer_disk m' _ List.not_mem_nil, hdisk .config trivial, hafter]

/-! ## Which configs forget the TV -/

/-- **The TV is forgotten by every reader.** -/
structure ForgetsTv (contents : Text) : Prop where
  /-- What the remover makes of the bytes is a text, which the reader reads as it should. -/
  removed : ∃ after, removePrimaryConfigKeys (utf8Bytes contents) = utf8Bytes after
    ∧ Forgotten contents after
  /-- Whatever others do, a run that succeeds leaves a config without an address. -/
  unpaired : ∀ (context : UnpairContext) (expected : TvProfile)
      (moments : Nat → Moment WriterStep) (w : Files),
    (runStore WriterStep.apply moments (context.unpairPrimary expected).run w).1 = .ok () →
    LockedOn (runStore WriterStep.apply moments (context.unpairPrimary expected).run w).2.log
      contents →
    ∃ after info,
      (runStore WriterStep.apply moments (context.unpairPrimary expected).run
        w).2.world.disk .config = some (.file (utf8Bytes after) info)
      ∧ parseConfig after = .error (.missingRequiredKey "tvs_primary_ip")

/-- The lock is taken on one text. -/
theorem LockedOn.unique {log : List StoreEntry} {a b : Text} (ha : LockedOn log a)
    (hb : LockedOn log b) : a = b := by
  obtain ⟨x, rest, info, rfl, -, hfile⟩ := ha
  obtain ⟨y, rest', info', hlog, -, hfile'⟩ := hb
  obtain ⟨rfl, -⟩ := List.cons.inj hlog
  rw [hfile] at hfile'
  injection hfile' with hnode
  injection hnode with hbytes
  exact Str.utf8Bytes_injective hbytes

/-- A forgotten TV is missing from the config. -/
theorem Forgotten.missing {before after : Text} (h : Forgotten before after) :
    parseConfig after = .error (.missingRequiredKey "tvs_primary_ip") := by
  have hip := h.entries "tvs_primary_ip"
  have hold := h.entries "tv_ip"
  rw [if_pos (by decide)] at hip hold
  exact parseConfig_without_ip hip hold

/-- **Unpairing forgets the TV** exactly where no line with a key of the TV has other white space
around the key than ASCII white space. -/
theorem unpairing_forgets (contents : Text) : ForgetsTv contents ↔ PlainlySpaced contents := by
  rw [← forgotten_iff]
  constructor
  · intro h
    obtain ⟨after, hbytes, hforgotten⟩ := h.removed
    rw [removePrimaryConfigKeys_utf8Bytes] at hbytes
    rw [Str.utf8Bytes_injective hbytes]
    exact hforgotten
  · intro hforgotten
    refine ⟨⟨_, removePrimaryConfigKeys_utf8Bytes contents, hforgotten⟩, ?_⟩
    intro context expected moments w hok hlocked
    have hrun := runStore_spec (wpE_unpairPrimary context expected w) moments
    rw [hok] at hrun
    obtain ⟨text, info, hlocked', hfile⟩ := hrun
    rw [hlocked'.unique hlocked] at hfile
    exact ⟨_, info, hfile, hforgotten.missing⟩

/-- A no-break space in front of the key of the address. -/
def nbspConfig : Text :=
  "\u00a0tv_ip=192.0.2.42\ntv_mac=aa:bb:cc:dd:ee:ff\ninput=HDMI_2\n".toList

/-- The address is still there. -/
theorem nbspConfig_keeps : ¬ ForgetsTv nbspConfig := by
  intro h
  obtain ⟨after, hbytes, hforgotten⟩ := h.removed
  rw [removePrimaryConfigKeys_utf8Bytes] at hbytes
  have hentry := hforgotten.entries "tv_ip"
  rw [← Str.utf8Bytes_injective hbytes, if_pos (by decide)] at hentry
  have hkept : entryValue (parseConfigEntries (withoutTv nbspConfig)) "tv_ip"
      = some "192.0.2.42".toList := by decide +kernel
  rw [hkept] at hentry
  cases hentry

end LgBuddy
