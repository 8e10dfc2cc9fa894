import LgBuddy.Pairing.Token

/-!
# LgBuddy — how the files of a profile are replaced

What others can do to the files differs from one operation to the next. `Shield` says which places
they leave alone, and under which condition; with it the replacement of a file through a temporary
one is specified once.

* `Grew` — a part of a run: the entries it adds to the log, and what they leave as it was;
* `wp_file` — the rule for an operation on files; `grew_of_within` — programs of known calls;
* `Replaces` — the last entry puts a file in a place; `wpE_persistLocked` is the token's.
-/

namespace LgBuddy

open Program (wp wpE Within WithinE)

variable {O : Type} {outside : Files → O → Files} {guard : Files → Prop} {places : Place → Prop}

/-! ## Entries -/

/-- The entry is what its call does at some moment. -/
def StoreEntry.Genuine (O : Type) (x : StoreEntry) : Prop :=
  ∃ m : Moment O, x.before.answer m x.call = (x.answer, x.after)

/-- A call changes only what it touches. -/
theorem StoreEntry.Genuine.disk {x : StoreEntry} (h : x.Genuine O) {p : Place}
    (hp : p ∉ x.call.touches) : x.after.disk p = x.before.disk p := by
  obtain ⟨m, hm⟩ := h
  have hframe := answer_disk m x.before hp
  rwa [hm] at hframe

/-- As long as `guard` holds, others leave these places alone, and the guard is theirs to keep. -/
structure Shield (outside : Files → O → Files) (guard : Files → Prop) (places : Place → Prop) :
    Prop where
  guard_outside : ∀ w o, guard w → guard (outside w o)
  disk_outside : ∀ w o p, guard w → places p → (outside w o).disk p = w.disk p
  guard_holder : ∀ w w', w'.holder = w.holder → guard w → guard w'

/-- Behind the shield nobody else changes those places. -/
theorem Shield.fold (S : Shield outside guard places) {w : Files} (hw : guard w) (os : List O) :
    guard (os.foldl outside w) ∧ ∀ p, places p → (os.foldl outside w).disk p = w.disk p := by
  induction os generalizing w with
  | nil => exact ⟨hw, fun _ _ => rfl⟩
  | cons o os ih =>
    obtain ⟨hguard, hdisk⟩ := ih (S.guard_outside w o hw)
    exact ⟨hguard, fun p hp => (hdisk p hp).trans (S.disk_outside w o p hw hp)⟩

/-- **A part of a run.** -/
structure Grew (O : Type) (guard : Files → Prop) (places : Place → Prop) (t t' : StoreState)
    (xs : List StoreEntry) : Prop where
  log : t'.log = t.log ++ xs
  guard : guard t'.world
  genuine : ∀ x ∈ xs, x.Genuine O
  /-- What no entry has changed is as it was. -/
  disk : ∀ p, places p → (∀ x ∈ xs, x.after.disk p = x.before.disk p) →
    t'.world.disk p = t.world.disk p
  /-- All along. -/
  along : ∀ p, places p → (∀ x ∈ xs, x.after.disk p = x.before.disk p) →
    ∀ x ∈ xs, x.after.disk p = t.world.disk p

theorem Grew.refl {t : StoreState} (ht : guard t.world) : Grew O guard places t t [] :=
  ⟨(List.append_nil _).symm, ht, List.forall_mem_nil _, fun _ _ _ => rfl,
    fun _ _ _ => List.forall_mem_nil _⟩

/-- Parts of a log in a row. -/
theorem Grew.trans {t t' t'' : StoreState} {xs ys : List StoreEntry}
    (h : Grew O guard places t t' xs) (h' : Grew O guard places t' t'' ys) :
    Grew O guard places t t'' (xs ++ ys) := by
  refine ⟨?_, h'.guard, ?_, fun p hp hsame => ?_, fun p hp hsame x hx => ?_⟩
  · rw [h'.log, h.log, List.append_assoc]
  · intro x hx
    rcases List.mem_append.mp hx with hold | hnew
    · exact h.genuine x hold
    · exact h'.genuine x hnew
  · rw [h'.disk p hp fun x hx => hsame x (List.mem_append_right _ hx),
      h.disk p hp fun x hx => hsame x (List.mem_append_left _ hx)]
  · have hleft := h.disk p hp fun x hx => hsame x (List.mem_append_left _ hx)
    rcases List.mem_append.mp hx with hold | hnew
    · exact h.along p hp (fun y hy => hsame y (List.mem_append_left _ hy)) x hold
    · rw [h'.along p hp (fun y hy => hsame y (List.mem_append_right _ hy)) x hnew, hleft]

section Rules

variable (S : Shield outside guard places) {t : StoreState} (ht : guard t.world)
include S ht

/-- One call that does not concern the lock. -/
theorem grew_perform (m : Moment O) {e : StoreCall} (hlock : e ≠ .lock) (hunlock : e ≠ .unlock) :
    Grew O guard places t (t.perform outside m e).2
      [⟨m.outside.foldl outside t.world, e, (t.perform outside m e).1,
        (t.perform outside m e).2.world⟩] := by
  obtain ⟨hguard, hdisk⟩ := S.fold ht m.outside
  have hsame := answer_sameBut m (m.outside.foldl outside t.world) hlock hunlock
  refine ⟨rfl, S.guard_holder _ _ hsame.holder hguard, ?_, fun p hp hkept => ?_,
    fun p hp hkept x hx => ?_⟩
  · intro x hx
    cases List.mem_singleton.mp hx
    exact ⟨m, rfl⟩
  · have hlast := hkept _ (List.mem_singleton.mpr rfl)
    exact hlast.trans (hdisk p hp)
  · cases List.mem_singleton.mp hx
    have hlast := hkept _ (List.mem_singleton.mpr rfl)
    exact hlast.trans (hdisk p hp)

/-- An operation on files has its effect, or fails without any. -/
theorem wp_file {op : FileOp} {Q : Except FsError Unit → StoreState → Prop}
    (herr : ∀ err w t', Grew O guard places t t' [⟨w, .file op, Except.error err, w⟩] →
      Q (.error err) t')
    (hok : ∀ w w' fresh clears t', (∀ p, places p → w.disk p = t.world.disk p) →
      w.apply fresh clears op = .ok w' →
      Grew O guard places t t' [⟨w, .file op, Except.ok (), w'⟩] → t'.world = w' →
      Q (.ok ()) t') :
    wp (anyMoment outside)
      (Program.perform (StoreCall.file op) : StoreProgram (Except FsError Unit)) Q t := by
  refine wp_storeCall (e := .file op) fun m => ?_
  have hgrew := grew_perform S ht m (e := .file op) nofun nofun
  obtain ⟨-, hdisk⟩ := S.fold ht m.outside
  unfold StoreState.perform at hgrew ⊢
  dsimp only [Files.answer] at hgrew ⊢
  rcases effect_cases m (m.outside.foldl outside t.world)
      ((m.outside.foldl outside t.world).apply m.fresh m.clearsBits op) with
    ⟨err, heffect⟩ | ⟨w', happly, heffect⟩
  · rw [heffect] at hgrew ⊢
    exact herr err _ _ hgrew
  · rw [heffect] at hgrew ⊢
    exact hok _ w' m.fresh m.clearsBits _ hdisk happly hgrew rfl

/-- A call that changes nothing. -/
theorem wp_asking {e : StoreCall} (hlock : e ≠ .lock) (hunlock : e ≠ .unlock)
    {Q : e.Answer → StoreState → Prop}
    (h : ∀ (m : Moment O) w t', (∀ p, places p → w.disk p = t.world.disk p) →
      Grew O guard places t t' [⟨w, e, (w.answer m e).1, t'.world⟩] → Q (w.answer m e).1 t') :
    wp (anyMoment outside) (Program.perform e) Q t := by
  refine wp_storeCall fun m => ?_
  obtain ⟨-, hdisk⟩ := S.fold ht m.outside
  exact h m _ _ hdisk (grew_perform S ht m hlock hunlock)

/-- A program of known calls. -/
theorem grew_of_within {α : Type} {allowed : StoreCall → Prop} {p : StoreProgram α}
    (hp : Within allowed p) (hallowed : ∀ e, allowed e → e ≠ .lock ∧ e ≠ .unlock) :
    wp (anyMoment outside) p (fun _ t' => ∃ xs, Grew O guard places t t' xs
      ∧ ∀ x ∈ xs, allowed x.call) t := by
  refine hp.wp (I := fun t' => ∃ xs, Grew O guard places t t' xs ∧ ∀ x ∈ xs, allowed x.call) ?_
    ⟨[], Grew.refl ht, List.forall_mem_nil _⟩
  rintro t' e he ⟨xs, hgrew, hxs⟩
  refine ⟨trivial, fun r t'' hnext => ?_⟩
  obtain ⟨m, hm⟩ := hnext
  have hstep := grew_perform S hgrew.guard m (hallowed e he).1 (hallowed e he).2
  rw [hm] at hstep
  refine ⟨_, hgrew.trans hstep, fun x hx => ?_⟩
  rcases List.mem_append.mp hx with hold | hnew
  · exact hxs x hold
  · cases List.mem_singleton.mp hnew
    exact he

end Rules

/-! ## Entries that leave the two files alone -/

/-- The config, wherever the links lead, and the token. -/
def Place.profiled : Place → Bool
  | .config | .linked _ | .token => true
  | _ => false

/-- A call that names neither the config nor the token, nor the lock. -/
def StoreCall.quiet : StoreCall → Bool
  | .file op => op.touches.all fun p => !p.profiled
  | .lock | .unlock => false
  | _ => true

/-- A file was put in this place. -/
def StoreEntry.Writes (x : StoreEntry) (dst : Place) : Prop :=
  ∃ w src w', x = ⟨w, .file (.rename src dst), Except.ok (), w'⟩

/-- The config and the token are as they were, and were not written. -/
structure Still (x : StoreEntry) : Prop where
  disk : ∀ p, p.profiled = true → x.after.disk p = x.before.disk p
  unwritten : ¬ x.Writes .config ∧ ¬ x.Writes .token

/-- A quiet call leaves the lock alone. -/
theorem StoreCall.quiet_lock {e : StoreCall} (h : e.quiet) : e ≠ .lock ∧ e ≠ .unlock := by
  constructor <;> rintro rfl <;> cases h

/-- A quiet call touches none of the profile's files. -/
theorem StoreCall.quiet_touches {e : StoreCall} (h : e.quiet) {p : Place}
    (hp : p.profiled = true) : p ∉ e.touches := by
  cases e with
  | file op =>
    intro hmem
    have hother : (!p.profiled) = true := List.all_eq_true.mp h p hmem
    rw [hp] at hother
    cases hother
  | _ => exact List.not_mem_nil

/-- A quiet program writes nothing of the profile's files. -/
theorem still_of_quiet {x : StoreEntry} (hgenuine : x.Genuine O) (h : x.call.quiet) : Still x := by
  refine ⟨fun p hp => hgenuine.disk (StoreCall.quiet_touches h hp), ?_, ?_⟩
  · rintro ⟨w, src, w', rfl⟩
    exact StoreCall.quiet_touches h rfl (List.mem_cons_of_mem _ List.mem_cons_self)
  · rintro ⟨w, src, w', rfl⟩
    exact StoreCall.quiet_touches h rfl (List.mem_cons_of_mem _ List.mem_cons_self)

/-- A failed call has written nothing. -/
theorem still_of_failed {w : Files} {op : FileOp} {err : FsError} :
    Still ⟨w, .file op, Except.error err, w⟩ := by
  refine ⟨fun _ _ => rfl, ?_, ?_⟩
  · rintro ⟨w, src, w', h⟩
    injection h with _ hcall hanswer
    cases hcall
    cases hanswer
  · rintro ⟨w, src, w', h⟩
    injection h with _ hcall hanswer
    cases hcall
    cases hanswer

/-- A part of a run that leaves both files alone. -/
def Stays (O : Type) (guard : Files → Prop) (places : Place → Prop) (t t' : StoreState) : Prop :=
  ∃ xs, Grew O guard places t t' xs ∧ ∀ x ∈ xs, Still x

theorem Stays.refl {t : StoreState} (ht : guard t.world) : Stays O guard places t t :=
  ⟨[], Grew.refl ht, List.forall_mem_nil _⟩

/-- Parts without a write in a row. -/
theorem Stays.trans {t t' t'' : StoreState} (h : Stays O guard places t t')
    (h' : Stays O guard places t' t'') : Stays O guard places t t'' := by
  obtain ⟨xs, hgrew, hxs⟩ := h
  obtain ⟨ys, hgrew', hys⟩ := h'
  refine ⟨xs ++ ys, hgrew.trans hgrew', fun x hx => ?_⟩
  rcases List.mem_append.mp hx with hold | hnew
  · exact hxs x hold
  · exact hys x hnew

/-- The guard still holds after a stretch that stays. -/
theorem Stays.guarded {t t' : StoreState} (h : Stays O guard places t t') : guard t'.world := by
  obtain ⟨xs, hgrew, -⟩ := h
  exact hgrew.guard

/-- One file is put in its place, and nothing else has happened to either. -/
def Replaces (O : Type) (guard : Files → Prop) (places : Place → Prop) (dst : Place)
    (bytes : List UInt8) (good : FileInfo → Prop) (t t' : StoreState) : Prop :=
  ∃ mid w src w' info, Stays O guard places t mid
    ∧ Grew O guard places mid t' [⟨w, .file (.rename src dst), Except.ok (), w'⟩]
    ∧ (∀ p, places p → w.disk p = mid.world.disk p) ∧ t'.world = w'
    ∧ w'.disk dst = some (.file bytes info) ∧ good info ∧ SameBut [src, dst] w w'
    ∧ src.profiled = false

/-- A replacement may be prepared by parts that write nothing. -/
theorem Stays.replaces {t t' t'' : StoreState} {dst : Place} {bytes : List UInt8}
    {good : FileInfo → Prop} (h : Stays O guard places t t')
    (h' : Replaces O guard places dst bytes good t' t'') :
    Replaces O guard places dst bytes good t t'' := by
  obtain ⟨mid, w, src, w', info, hstays, hrest⟩ := h'
  exact ⟨mid, w, src, w', info, h.trans hstays, hrest⟩

section Rules

variable (S : Shield outside guard places) {t : StoreState} (ht : guard t.world)
include S ht

/-- A program of quiet calls writes nothing. -/
theorem stays_of_within {α : Type} {p : StoreProgram α} (hp : Within (StoreCall.quiet ·) p) :
    wp (anyMoment outside) p (fun _ => Stays O guard places t) t := by
  refine Program.wp.mono ?_ (grew_of_within S ht hp fun e he => StoreCall.quiet_lock he)
  rintro a t' ⟨xs, hgrew, hxs⟩
  exact ⟨xs, hgrew, fun x hx => still_of_quiet (hgrew.genuine x hx) (hxs x hx)⟩

end Rules

/-- A call whose failure is renamed. -/
theorem wpE_orElse {C : Program.Contract StoreCall StoreCall.Answer StoreState} {E E' α : Type}
    {p : StoreProgram (Except E' α)} {f : E' → E} {Q : α → StoreState → Prop}
    {R : E → StoreState → Prop} {t : StoreState} :
    wpE C (StoreM.orElse p f) Q R t ↔ wp C p (Program.post Q fun x => R (f x)) t :=
  Program.wpE_adapt

/-- A result that is at hand. -/
theorem wpE_ofExcept {C : Program.Contract StoreCall StoreCall.Answer StoreState} {E α : Type}
    {result : Except E α} {Q : α → StoreState → Prop} {R : E → StoreState → Prop}
    {t : StoreState} :
    wpE C (StoreM.ofExcept result) Q R t ↔ Program.post Q R result t := Iff.rfl

/-! ## A temporary file -/

/-- The temporary file holds these bytes. -/
def Holds (t : StoreState) (temp : Place) (bytes : List UInt8) (good : FileInfo → Prop) : Prop :=
  ∃ info, t.world.disk temp = some (.file bytes info) ∧ good info

section Temp

variable (S : Shield outside guard places) {temp : Place} (htemp : places temp)
  (haside : temp.profiled = false)
include S htemp haside

/-- A step that changes the temporary file: `becomes` is what it makes of it. -/
theorem wpE_tempStep {E : Type} {op : FileOp} {f : FsError → E} {t : StoreState}
    {bytes bytes' : List UInt8} {good good' : FileInfo → Prop} {Q : Unit → StoreState → Prop}
    {R : E → StoreState → Prop} (ht : guard t.world) (hholds : Holds t temp bytes good)
    (htouches : ∀ p ∈ op.touches, p = temp)
    (hbecomes : ∀ (w w' : Files) fresh clears info, w.disk temp = some (.file bytes info) → good info →
      w.apply fresh clears op = .ok w' →
      ∃ info', w'.disk temp = some (.file bytes' info') ∧ good' info')
    (hok : ∀ t', Stays O guard places t t' → Holds t' temp bytes' good' → Q () t')
    (herr : ∀ err t', Stays O guard places t t' → R (f err) t') :
    wpE (anyMoment outside) (StoreM.orElse (Program.perform (StoreCall.file op)) f) Q R t := by
  have hquiet : StoreCall.quiet (.file op) := by
    refine List.all_eq_true.mpr fun p hp => ?_
    rw [htouches p hp]
    simp [haside]
  refine wpE_orElse.mpr (wp_file S ht ?_ ?_)
  · intro err w t' hgrew
    refine herr err t' ⟨_, hgrew, fun x hx => ?_⟩
    cases List.mem_singleton.mp hx
    exact still_of_failed
  · intro w w' fresh clears t' hsame happly hgrew hworld
    obtain ⟨info, hdisk, hgood⟩ := hholds
    refine hok t' ⟨_, hgrew, fun x hx => ?_⟩ ?_
    · cases List.mem_singleton.mp hx
      exact still_of_quiet (hgrew.genuine _ (List.mem_singleton.mpr rfl)) hquiet
    · obtain ⟨info', hdisk', hgood'⟩ :=
        hbecomes w w' fresh clears info ((hsame temp htemp).trans hdisk) hgood happly
      exact ⟨info', by rw [hworld]; exact hdisk', hgood'⟩

omit haside in
/-- The temporary file takes the place of another one. -/
theorem wpE_renameTemp {E : Type} {dst : Place} {f : FsError → E} {t : StoreState}
    {bytes : List UInt8} {good : FileInfo → Prop} {Q : Unit → StoreState → Prop}
    {R : E → StoreState → Prop} (ht : guard t.world) (hholds : Holds t temp bytes good)
    (haside : temp.profiled = false)
    (hok : ∀ t', Replaces O guard places dst bytes good t t' → Q () t')
    (herr : ∀ err t', Stays O guard places t t' → R (f err) t') :
    wpE (anyMoment outside) (StoreM.orElse (StoreProgram.rename temp dst) f) Q R t := by
  refine wpE_orElse.mpr (wp_file S ht ?_ ?_)
  · intro err w t' hgrew
    refine herr err t' ⟨_, hgrew, fun x hx => ?_⟩
    cases List.mem_singleton.mp hx
    exact still_of_failed
  · intro w w' fresh clears t' hsame happly hgrew hworld
    obtain ⟨info, hdisk, hgood⟩ := hholds
    rw [← hsame temp htemp] at hdisk
    refine hok t' ⟨t, w, temp, w', info, Stays.refl ht, hgrew, hsame, hworld, ?_, hgood,
      apply_sameBut w happly, haside⟩
    dsimp only [Files.apply] at happly
    rw [hdisk] at happly
    split at happly
    · cases happly
    · cases happly
    · rename_i node hnode _
      cases hnode
      cases happly
      exact Files.set_self _ _ _

end Temp

/-- A call that has not failed from outside gives its own result. -/
theorem Moment.attempt_ok {α : Type} {m : Moment O} {r : Except FsError α} {a : α}
    (h : m.attempt r = .ok a) : r = .ok a := by
  unfold Moment.attempt at h
  split at h
  · cases h
  · exact h

/-- What is written comes behind what is there. -/
theorem apply_writeAll {w w' : Files} {p : Place} {bytes new : List UInt8} {info fresh : FileInfo}
    {clears : Bool} (hp : w.disk p = some (.file bytes info))
    (h : w.apply fresh clears (.writeAll p new) = .ok w') :
    w'.disk p = some (.file (bytes ++ new) { info with mtime := fresh.mtime }) := by
  dsimp only [Files.apply] at h
  rw [hp] at h
  cases h
  exact Files.set_self _ _ _

/-- `flush` and `sync_all`. -/
theorem apply_openDir {w w' : Files} {p : Place} (fresh : FileInfo) (clears : Bool)
    (h : w.apply fresh clears (.openDir p) = .ok w') : w' = w := by
  dsimp only [Files.apply] at h
  split at h <;> cases h
  rfl

/-- New metadata leaves the bytes. -/
theorem setInfo_file {w w' : Files} {f : FileInfo → FileInfo} {p : Place} {bytes : List UInt8}
    {info : FileInfo} (hp : w.disk p = some (.file bytes info)) (h : w.setInfo f p = .ok w') :
    w'.disk p = some (.file bytes (f info)) := by
  unfold Files.setInfo at h
  rw [hp] at h
  cases h
  exact Files.set_self _ _ _

section Temp

variable (S : Shield outside guard places) {temp : Place} (htemp : places temp)
  (haside : temp.profiled = false)
include S htemp haside

/-! ### The steps that fill a temporary file -/

variable {E : Type} {f : FsError → E} {t : StoreState} {bytes : List UInt8}
  {good : FileInfo → Prop} {Q : Unit → StoreState → Prop} {R : E → StoreState → Prop}
  (ht : guard t.world) (hholds : Holds t temp bytes good)
  (herr : ∀ err t', Stays O guard places t t' → R (f err) t')
include ht hholds herr

/-- All bytes are written to the temporary file, or the call fails. -/
theorem wpE_writeAll (new : List UInt8)
    (hok : ∀ t', Stays O guard places t t' → Holds t' temp (bytes ++ new) (fun _ => True) →
      Q () t') :
    wpE (anyMoment outside) (StoreM.orElse (StoreProgram.writeAll temp new) f) Q R t := by
  refine wpE_tempStep S htemp haside ht hholds (fun p hp => List.mem_singleton.mp hp)
    (fun w w' fresh clears info hdisk _ happly => ?_) hok herr
  exact ⟨_, apply_writeAll hdisk happly, trivial⟩

/-- Flushing changes nothing of the profile's files. -/
theorem wpE_flush (hok : ∀ t', Stays O guard places t t' → Holds t' temp bytes good → Q () t') :
    wpE (anyMoment outside) (StoreM.orElse (StoreProgram.flush temp) f) Q R t := by
  refine wpE_tempStep S htemp haside ht hholds nofun
    (fun w w' fresh clears info hdisk hgood happly => ?_) hok herr
  cases apply_openDir fresh clears happly
  exact ⟨info, hdisk, hgood⟩

/-- Syncing changes nothing of the profile's files. -/
theorem wpE_syncAll (hok : ∀ t', Stays O guard places t t' → Holds t' temp bytes good → Q () t') :
    wpE (anyMoment outside) (StoreM.orElse (StoreProgram.syncAll temp) f) Q R t := by
  refine wpE_tempStep S htemp haside ht hholds nofun
    (fun w w' fresh clears info hdisk hgood happly => ?_) hok herr
  cases apply_openDir fresh clears happly
  exact ⟨info, hdisk, hgood⟩

/-- The mode is set on the temporary file. -/
theorem wpE_setMode (mode : Fin 0o10000) (good' : FileInfo → Prop)
    (hgood' : ∀ info, good info → good' { info with mode })
    (hok : ∀ t', Stays O guard places t t' → Holds t' temp bytes good' → Q () t') :
    wpE (anyMoment outside) (StoreM.orElse (StoreProgram.setMode temp mode) f) Q R t := by
  refine wpE_tempStep S htemp haside ht hholds (fun p hp => List.mem_singleton.mp hp)
    (fun w w' fresh clears info hdisk hgood happly => ?_) hok herr
  exact ⟨_, setInfo_file hdisk happly, hgood' info hgood⟩

/-- The new owner, and a mode that may have lost its highest bits. -/
theorem wpE_setOwner (uid gid : Nat) (good' : FileInfo → Prop)
    (hgood' : ∀ info mode, good info →
      (mode = info.mode ∨ mode = Fin.ofNat _ (info.mode.val % 0o2000)) →
      good' { info with uid, gid, mode })
    (hok : ∀ t', Stays O guard places t t' → Holds t' temp bytes good' → Q () t') :
    wpE (anyMoment outside) (StoreM.orElse (StoreProgram.setOwner temp uid gid) f) Q R t := by
  refine wpE_tempStep S htemp haside ht hholds (fun p hp => List.mem_singleton.mp hp)
    (fun w w' fresh clears info hdisk hgood happly => ?_) hok herr
  refine ⟨_, setInfo_file hdisk happly, hgood' info _ hgood ?_⟩
  cases clears with
  | true => exact Or.inr rfl
  | false => exact Or.inl rfl

end Temp

/-- An error stays an error when the temporary file is removed. -/
theorem wpE_orCleanUp (S : Shield outside guard places) (temp : Place)
    (haside : temp.profiled = false) {E : Type} {body : StoreM E Unit}
    {Q : Unit → StoreState → Prop} {t₀ t : StoreState}
    (h : wpE (anyMoment outside) body Q (fun _ => Stays O guard places t₀) t) :
    wpE (anyMoment outside) (StoreM.orCleanUp temp body) Q
      (fun _ => Stays O guard places t₀) t := by
  refine Program.wpE_bind.mpr (Program.wpE_lift.mpr (Program.wp.mono ?_ h))
  intro result t' hresult
  cases result with
  | ok _ => exact hresult
  | error err =>
    have hquiet : Within (StoreCall.quiet ·) (StoreProgram.removeFile temp) := by
      refine Within.perform (e := StoreCall.file (.removeFile temp)) ?_
      simp [StoreCall.quiet, FileOp.touches, haside]
    refine Program.wpE_bind.mpr (Program.wpE_bind.mpr (Program.wpE_lift.mpr ?_))
    refine Program.wp.mono (fun _ t'' h => ?_) (stays_of_within S (Stays.guarded hresult) hquiet)
    exact Stays.trans hresult h

/-! ## The token -/

namespace PlatformAccessTokenStore

variable (store : PlatformAccessTokenStore)

/-- The metadata of a token file as it is written. -/
def Private (info : FileInfo) : Prop :=
  info.uid = store.owner.uid ∧ info.gid = store.owner.gid ∧ info.mode = 0o600

section

variable (S : Shield outside guard places) {temp : Place} (htemp : places temp)
  (haside : temp.profiled = false) {t : StoreState}
include S htemp haside

/-- The owner is set unless it is the right one already. -/
theorem wpE_setFileOwner {bytes : List UInt8} {Q : Unit → StoreState → Prop}
    {R : PlatformAccessTokenStoreError → StoreState → Prop} (ht : guard t.world)
    (hholds : Holds t temp bytes (fun info => info.mode = 0o600))
    (hok : ∀ t', Stays O guard places t t' → Holds t' temp bytes store.Private → Q () t')
    (herr : ∀ err t', Stays O guard places t t' → R err t') :
    wpE (anyMoment outside) (store.setFileOwner temp) Q R t := by
  refine Program.wpE_bind.mpr (wpE_orElse.mpr ?_)
  refine wp_asking S ht (e := .fileMetadata temp) nofun nofun fun m w t' hsame hgrew => ?_
  have hstays : Stays O guard places t t' := by
    refine ⟨_, hgrew, fun x hx => ?_⟩
    cases List.mem_singleton.mp hx
    exact still_of_quiet (hgrew.genuine _ (List.mem_singleton.mpr rfl)) rfl
  cases hanswer : m.attempt (w.fileInfo temp) with
  | error err =>
    show Program.post _ _ (m.attempt (w.fileInfo temp)) t'
    rw [hanswer]
    exact herr _ t' hstays
  | ok seen =>
    show Program.post _ _ (m.attempt (w.fileInfo temp)) t'
    rw [hanswer]
    obtain ⟨info, hdisk, hmode⟩ := hholds
    have hdisk' : t'.world.disk temp = some (.file bytes info) := by
      rw [hgrew.disk temp htemp fun x hx => ?_, hdisk]
      cases List.mem_singleton.mp hx
      exact (hgrew.genuine _ (List.mem_singleton.mpr rfl)).disk List.not_mem_nil
    -- what was read is the metadata of the file
    have hseen : seen = info := by
      have hread := Moment.attempt_ok hanswer
      unfold Files.fileInfo Files.stat at hread
      rw [hsame temp htemp, hdisk] at hread
      cases hread
      rfl
    subst hseen
    show wpE (anyMoment outside) (if _ then _ else _) Q R t'
    split
    · rename_i howner
      exact hok t' hstays ⟨seen, hdisk', howner.1, howner.2, hmode⟩
    · have hheld : Holds t' temp bytes (fun info => info.mode = 0o600) := ⟨seen, hdisk', hmode⟩
      refine wpE_setOwner S htemp haside hstays.guarded hheld ?_ _ _ store.Private ?_ ?_
      · exact fun err t'' hstays' => herr _ t'' (hstays.trans hstays')
      · rintro info mode hmode' (rfl | rfl)
        · exact ⟨rfl, rfl, hmode'⟩
        · refine ⟨rfl, rfl, ?_⟩
          show Fin.ofNat _ (info.mode.val % 0o2000) = _
          rw [hmode']
          rfl
      · exact fun t'' hstays' => hok t'' (hstays.trans hstays')

/-- An error leaves both files alone; otherwise the token is replaced. -/
theorem wpE_writeTokenThrough {contents : List UInt8} (ht : guard t.world)
    (hholds : Holds t temp [] (fun _ => True)) :
    wpE (anyMoment outside) (store.writeTokenThrough temp contents)
      (fun _ => Replaces O guard places .token contents store.Private t)
      (fun _ => Stays O guard places t) t := by
  refine Program.wpE_bind.mpr (wpE_writeAll S htemp haside ht hholds ?_ contents ?_)
  · exact fun _ _ h => h
  intro t₁ h₁ hholds₁
  refine Program.wpE_bind.mpr (wpE_flush S htemp haside h₁.guarded hholds₁ ?_ ?_)
  · exact fun _ _ h => h₁.trans h
  intro t₂ h₂ hholds₂
  replace h₂ := h₁.trans h₂
  refine Program.wpE_bind.mpr (wpE_setMode S htemp haside h₂.guarded hholds₂ ?_ 0o600
    (fun info => info.mode = 0o600) (fun _ _ => rfl) ?_)
  · exact fun _ _ h => h₂.trans h
  intro t₃ h₃ hholds₃
  replace h₃ := h₂.trans h₃
  refine Program.wpE_bind.mpr
    (store.wpE_setFileOwner S htemp haside h₃.guarded hholds₃ ?_ ?_)
  · intro t₄ h₄ hholds₄
    replace h₄ := h₃.trans h₄
    refine Program.wpE_bind.mpr (wpE_syncAll S htemp haside h₄.guarded hholds₄ ?_ ?_)
    · exact fun _ _ h => h₄.trans h
    intro t₅ h₅ hholds₅
    replace h₅ := h₄.trans h₅
    refine wpE_renameTemp S htemp h₅.guarded hholds₅ haside ?_ ?_
    · exact fun _ h => h₅.replaces h
    · exact fun _ _ h => h₅.trans h
  · exact fun _ _ h => h₃.trans h

end

section

variable (S : Shield outside guard places) (htemp : ∀ n, places (.temp .token n))
  {t : StoreState} (ht : guard t.world)
include S htemp ht

/-- The attempts that are left. -/
theorem wpE_atomicWriteTokenFrom {contents : List UInt8} (attempts : List Nat)
    (lastCollision : Place × FsError) :
    wpE (anyMoment outside) (store.atomicWriteTokenFrom contents attempts lastCollision)
      (fun _ => Replaces O guard places .token contents store.Private t)
      (fun _ => Stays O guard places t) t := by
  induction attempts generalizing t lastCollision with
  | nil => exact Stays.refl ht
  | cons attempt attempts ih =>
    refine Program.wpE_bind.mpr (Program.wpE_lift.mpr (wp_file S ht ?_ ?_))
    · intro err w t' hgrew
      have hstays : Stays O guard places t t' := by
        refine ⟨_, hgrew, fun x hx => ?_⟩
        cases List.mem_singleton.mp hx
        exact still_of_failed
      show wpE (anyMoment outside) (if _ then _ else _) _ _ t'
      split
      · refine Program.wpE.mono ?_ ?_ (ih hstays.guarded _)
        · exact fun _ _ h => hstays.replaces h
        · exact fun _ _ h => hstays.trans h
      · exact hstays
    · intro w w' fresh clears t' hsame happly hgrew hworld
      have hstays : Stays O guard places t t' := by
        refine ⟨_, hgrew, fun x hx => ?_⟩
        cases List.mem_singleton.mp hx
        exact still_of_quiet (hgrew.genuine _ (List.mem_singleton.mpr rfl)) rfl
      have hholds : Holds t' (.temp .token attempt) [] (fun _ => True) := by
        refine ⟨fresh, ?_, trivial⟩
        dsimp only [Files.apply, Files.create] at happly
        split at happly
        · cases happly
        · split at happly <;> cases happly
          rw [hworld]
          exact Files.set_self _ _ _
      refine Program.wpE.mono ?_ ?_ (wpE_orCleanUp S (.temp .token attempt) rfl
        (store.wpE_writeTokenThrough S (htemp attempt) rfl hstays.guarded hholds))
      · exact fun _ _ h => hstays.replaces h
      · exact fun _ _ h => hstays.trans h

omit htemp in
/-- A program of quiet calls that can fail. -/
theorem wpE_quiet {E α : Type} {p : StoreM E α} (hp : WithinE (StoreCall.quiet ·) p)
    {Q : α → StoreState → Prop} {R : E → StoreState → Prop}
    (hok : ∀ a t', Stays O guard places t t' → Q a t')
    (herr : ∀ err t', Stays O guard places t t' → R err t') :
    wpE (anyMoment outside) p Q R t := by
  refine Program.wp.mono (fun result t' hstays => ?_) (stays_of_within S ht hp)
  cases result with
  | ok a => exact hok a t' hstays
  | error err => exact herr err t' hstays

end

theorem within_orElse {allowed : StoreCall → Prop} {E E' α : Type}
    {p : StoreProgram (Except E' α)} {f : E' → E} (hp : Within allowed p) :
    WithinE allowed (StoreM.orElse p f) :=
  hp.bind fun _ => Within.done _

/-- Setting the owner aside of the profile is quiet. -/
theorem quiet_setFileOwner {p : Place} (haside : p.profiled = false) :
    WithinE (StoreCall.quiet ·) (store.setFileOwner p) := by
  refine WithinE.bind (within_orElse (Within.perform (e := StoreCall.fileMetadata p) rfl))
    fun info => ?_
  split
  · exact Within.done _
  · refine within_orElse (Within.perform (e := StoreCall.file (.setOwner p _ _)) ?_)
    simp [StoreCall.quiet, FileOp.touches, haside]

/-- Making a private directory is quiet. -/
theorem quiet_ensurePrivateDirectory {p : Place} (haside : p.profiled = false) :
    WithinE (StoreCall.quiet ·) (store.ensurePrivateDirectory p) := by
  have hquiet : ∀ op : FileOp, (∀ q ∈ op.touches, q = p) →
      Within (StoreCall.quiet ·)
        (Program.perform (StoreCall.file op) : StoreProgram (Except FsError Unit)) := by
    intro op hop
    refine Within.perform (e := StoreCall.file op) (List.all_eq_true.mpr fun q hq => ?_)
    rw [hop q hq]
    simp [haside]
  have hself : ∀ q ∈ [p], q = p := fun q hq => List.mem_singleton.mp hq
  refine WithinE.bind (WithinE.lift (hquiet (.createDir p) hself)) fun created => ?_
  refine WithinE.bind (Within.done _) fun _ => ?_
  refine WithinE.bind (within_orElse (Within.perform (e := StoreCall.symlinkMetadata p) rfl))
    fun stat => ?_
  split
  · exact Within.done _
  · refine WithinE.bind (within_orElse (hquiet (.openDir p) nofun)) fun _ => ?_
    refine WithinE.bind (within_orElse (hquiet (.setMode p 0o700) hself)) fun _ => ?_
    exact store.quiet_setFileOwner haside

/-- **The token is replaced, or both files are left alone.** -/
theorem wpE_persistLocked (S : Shield outside guard places)
    (htemp : ∀ n, places (.temp .token n)) {t : StoreState} (ht : guard t.world)
    (token : PlatformAccessToken) :
    wpE (anyMoment outside) (store.persistLocked token)
      (fun _ t' => ∃ contents, store.tokenContents token = .ok contents
        ∧ Replaces O guard places .token contents store.Private t t')
      (fun _ => Stays O guard places t) t := by
  refine Program.wpE_bind.mpr (wpE_ofExcept.mpr ?_)
  cases hcontents : store.tokenContents token with
  | error err => exact Stays.refl ht
  | ok contents =>
    have htvs := store.quiet_ensurePrivateDirectory (p := .tvsDir) rfl
    have hprofile := store.quiet_ensurePrivateDirectory (p := .profileDir) rfl
    refine Program.wpE_bind.mpr (wpE_quiet S ht htvs (fun _ t₁ h₁ => ?_) fun _ _ h => h)
    refine Program.wpE_bind.mpr (wpE_quiet S h₁.guarded hprofile (fun _ t₂ h₂ => ?_)
      fun _ _ h => h₁.trans h)
    replace h₂ := h₁.trans h₂
    refine Program.wpE.mono ?_ ?_ (store.wpE_atomicWriteTokenFrom S htemp h₂.guarded _ _)
    · exact fun _ _ h => ⟨contents, rfl, h₂.replaces h⟩
    · exact fun _ _ h => h₂.trans h

end PlatformAccessTokenStore

end LgBuddy
