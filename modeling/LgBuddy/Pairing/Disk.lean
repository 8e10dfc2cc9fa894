import LgBuddy.Machine.Program
import LgBuddy.Settings.Intent
import LgBuddy.WebOs.Authentication
import Mathlib.Logic.Function.Basic

/-!
# LgBuddy — the files of a TV profile

The config file, the credential file beside it, and what the code that changes them asks of the
operating system, the network and its callers.

* `Place`, `Node`, `Files` — the paths that are named in the source, what is there, and who holds
  the pairing lock;
* `StoreCall`, `FileOp` — the calls; `Files.answer` — what each says and does;
* `Moment` — what happens at one call: what others have done before it, and whether it fails. A
  call that fails has no effect, and only a missing file is reported as missing;
* `StoreState.perform` — one call of a run, which keeps a log of all calls;
* `runStore` — a whole run, moment by moment; `runStore_spec` reduces it to `wp`.
-/

namespace LgBuddy

/-! ## Places -/

inductive Place where
  | configDir
  | config
  /-- The file that the pairing lock is taken on. -/
  | marker
  | tvsDir
  | profileDir
  | token
  /-- A temporary file next to another one. -/
  | temp (of : Place) (n : Nat)
  /-- Any other path, to which a link can lead. -/
  | linked (n : Nat)
  deriving DecidableEq, Repr

/-- The directory a place is in, as far as it can be missing. -/
def Place.parent : Place → Option Place
  | .tvsDir => some .configDir
  | .profileDir => some .tvsDir
  | .token => some .profileDir
  | .config | .marker => some .configDir
  | .configDir | .linked _ => none
  | .temp of _ => of.parent

/-- There are permission bits. -/
instance neZeroModeBound : NeZero 0o10000 := ⟨by decide⟩

/-- What `fs::Metadata` says of a file, apart from its kind and length. -/
structure FileInfo where
  dev : Nat
  ino : Nat
  uid : Nat
  gid : Nat
  /-- The permission bits, `st_mode & 0o7777`. -/
  mode : Fin 0o10000
  mtime : Int × Int
  deriving DecidableEq, Repr

inductive FileKind where
  | file
  | dir
  | symlink
  | other
  deriving DecidableEq, Repr

structure Stat where
  kind : FileKind
  info : FileInfo
  deriving DecidableEq, Repr

inductive Node where
  | file (bytes : List UInt8) (info : FileInfo)
  | dir (info : FileInfo)
  /-- With the other path it leads to, where there may be nothing. -/
  | symlink (info : FileInfo) (target : Nat)
  | other (info : FileInfo)
  deriving DecidableEq, Repr

def Node.stat : Node → Stat
  | .file _ info => ⟨.file, info⟩
  | .dir info => ⟨.dir, info⟩
  | .symlink info _ => ⟨.symlink, info⟩
  | .other info => ⟨.other, info⟩

/-! ## Errors -/

inductive FsErrorKind where
  | notFound
  | alreadyExists
  | directoryNotEmpty
  | other
  deriving DecidableEq, Repr

/-- `io::Error`. -/
structure FsError where
  kind : FsErrorKind
  text : String
  deriving DecidableEq, Repr

def FsError.notFound : FsError := ⟨.notFound, "No such file or directory (os error 2)"⟩
def FsError.alreadyExists : FsError := ⟨.alreadyExists, "File exists (os error 17)"⟩
def FsError.notEmpty : FsError := ⟨.directoryNotEmpty, "Directory not empty (os error 39)"⟩
def FsError.isDirectory : FsError := ⟨.other, "Is a directory (os error 21)"⟩
def FsError.notDirectory : FsError := ⟨.other, "Not a directory (os error 20)"⟩
def FsError.tooManyLinks : FsError := ⟨.other, "Too many levels of symbolic links (os error 40)"⟩

/-- `SystemUser`, as far as files go. -/
structure SystemUser where
  uid : Nat
  gid : Nat
  deriving DecidableEq, Repr

inductive PairingStoreError where
  | runningAsRoot
  | configPathHasNoParent (path : Place)
  | pairingInProgress (path : Place)
  | lock (path : Place) (source : FsError)
  | configRead (path : Place) (source : FsError)
  | configChanged (path : Place)
  | tokenChanged (path : Place)
  | primaryIdentityMismatch (path : Place) (field : String)
  | configOwnedByRoot (path : Place)
  | configOwnerMismatch (path : Place) (ownerUid euid : Nat)
  | configSymlink (path : Place)
  | owner (source : String)
  | tokenPath (source : PlatformAccessTokenStoreError)
  | tokenRead (path : Place) (source : FsError)
  | tokenWrite (path : Place) (source : PlatformAccessTokenStoreError)
  | tokenRemove (path : Place) (source : FsError)
  | configWrite (path : Place) (source : FsError)
  | tokenRollback (path : Place) (source : FsError)
  | rollback (operation undo : PairingStoreError)
  deriving DecidableEq, Repr

/-- With the paths as they are shown. -/
def PairingStoreError.text (name : Place → String) : PairingStoreError → String
  | .runningAsRoot => "native TV pairing cannot run as root"
  | .configPathHasNoParent path => s!"config path `{name path}` has no parent directory"
  | .pairingInProgress path => s!"another TV pairing is already in progress ({name path})"
  | .lock path source => s!"could not lock `{name path}`: {source.text}"
  | .configRead path source => s!"could not read config `{name path}`: {source.text}"
  | .configChanged path => s!"config `{name path}` changed during pairing"
  | .tokenChanged path => s!"native credential `{name path}` changed during unpairing"
  | .primaryIdentityMismatch path field =>
    s!"configured primary TV {field} does not match the selected profile in `{name path}`"
  | .configOwnedByRoot path => s!"config `{name path}` is owned by root"
  | .configOwnerMismatch path ownerUid euid =>
    s!"config `{name path}` is owned by uid {ownerUid}, current uid is {euid}"
  | .configSymlink path => s!"config `{name path}` is a symlink"
  | .owner source => s!"could not resolve config owner: {source}"
  | .tokenPath source => s!"could not derive native credential path: {source}"
  | .tokenRead path source => s!"could not read native credential `{name path}`: {source.text}"
  | .tokenWrite path source => s!"could not write native credential `{name path}`: {source}"
  | .tokenRemove path source =>
    s!"could not remove native credential `{name path}`: {source.text}"
  | .configWrite path source => s!"could not publish config `{name path}`: {source.text}"
  | .tokenRollback path source =>
    s!"could not roll back native credential `{name path}`: {source.text}"
  | .rollback operation undo =>
    s!"{operation.text name}; rollback also failed: {undo.text name}"

/-! ## Calls -/

/-- The named points at which a migration can be made to fail. -/
inductive MigrationPoint where
  | stageWrite
  | fileSync
  | tokenPublish
  | tokenSync
  | beforeConfig
  | configRename
  | renameResult
  | directorySync
  | rollback
  deriving DecidableEq, Repr

/-- What is done to files. -/
inductive FileOp where
  | createDir (p : Place)
  | openDir (p : Place)
  /-- Open with `create_new`. -/
  | createNew (p : Place) (mode : Fin 0o10000)
  | writeAll (p : Place) (bytes : List UInt8)
  | flush (p : Place)
  | setMode (p : Place) (mode : Fin 0o10000)
  /-- `fchown`. -/
  | setOwner (p : Place) (uid gid : Nat)
  | syncAll (p : Place)
  | rename (src dst : Place)
  | removeFile (p : Place)
  | removeDir (p : Place)
  deriving DecidableEq

inductive StoreCall where
  | file (op : FileOp)
  | canonicalizeConfig
  | symlinkMetadata (p : Place)
  /-- `fs::metadata`, which follows links. -/
  | metadata (p : Place)
  /-- `fs::read`, which follows links. -/
  | read (p : Place)
  /-- Open with `O_NOFOLLOW`, ask for the metadata and read to the end. -/
  | readNoFollow (p : Place)
  /-- `File::metadata` of an open file. -/
  | fileMetadata (p : Place)
  /-- `PairingLock::for_config`, all of it. -/
  | lock
  /-- The guard is dropped. -/
  | unlock
  | connect
  | register (token : Option PlatformAccessToken)
  /-- `TEMP_COUNTER.fetch_add(1)`. -/
  | tempCounter
  /-- `resolve_config_owner`. -/
  | resolveOwner
  /-- `declarative::validate_changes` of the config. -/
  | validateChanges (before after : List UInt8)
  /-- The settings of a config text with its declarations: which behaviours it asks for. -/
  | declaredBehaviors (text : String)
  | isCancelled
  | begin
  | finish
  | hook (point : MigrationPoint)

def StoreCall.Answer : StoreCall → Type
  | .file _ | .validateChanges _ _ | .hook _ => Except FsError Unit
  -- the path at the end of all links
  | .canonicalizeConfig => Except FsError Place
  | .symlinkMetadata _ | .metadata _ => Except FsError Stat
  | .read _ => Except FsError (List UInt8)
  | .readNoFollow _ => Except FsError (List UInt8 × FileInfo)
  | .fileMetadata _ => Except FsError FileInfo
  -- with `PairingLock::target`
  | .lock => Except PairingStoreError Place
  | .connect => Except WebOsClientError Unit
  | .register _ => Except WebOsClientRegistrationError PlatformAccessToken
  | .tempCounter => Nat
  | .resolveOwner => Except String SystemUser
  | .declaredBehaviors _ => Except String (List BehaviorSetting)
  | .isCancelled | .begin => Bool
  | .unlock | .finish => Unit

/-- The places that an operation can change. -/
def FileOp.touches : FileOp → List Place
  | .createDir p | .createNew p _ | .writeAll p _ | .setMode p _ | .setOwner p _ _
  | .removeFile p | .removeDir p => [p]
  | .rename src dst => [src, dst]
  | .openDir _ | .flush _ | .syncAll _ => []

def StoreCall.touches : StoreCall → List Place
  | .file op => op.touches
  | _ => []

abbrev StoreProgram := Program StoreCall StoreCall.Answer

abbrev StoreM (E : Type) := ExceptT E StoreProgram

/-! ## The files -/

inductive Holder where
  | free
  | us
  | other (who : Nat)
  deriving DecidableEq, Repr

structure Files where
  disk : Place → Option Node
  holder : Holder

namespace Files

def set (w : Files) (p : Place) (node : Option Node) : Files :=
  { w with disk := Function.update w.disk p node }

@[simp] theorem set_self (w : Files) (p : Place) (node : Option Node) :
    (w.set p node).disk p = node := by
  simp [set]

theorem set_other (w : Files) {p q : Place} (node : Option Node) (h : q ≠ p) :
    (w.set p node).disk q = w.disk q := by
  simp [set, h]

@[simp] theorem set_holder (w : Files) (p : Place) (node : Option Node) :
    (w.set p node).holder = w.holder := rfl

def stat (w : Files) (p : Place) : Except FsError Stat :=
  match w.disk p with
  | some node => .ok node.stat
  | none => .error .notFound

/-- So many links are followed, and no more. -/
def maxLinks : Nat := 40

/-- The place at the end of the links from here on, if there is something. -/
def resolveFrom (w : Files) : Nat → Place → Except FsError Place
  | links, p =>
    match w.disk p with
    | none => .error .notFound
    | some (.symlink _ target) =>
      match links with
      | 0 => .error .tooManyLinks
      | links + 1 => resolveFrom w links (.linked target)
    | some _ => .ok p

def resolve (w : Files) (p : Place) : Except FsError Place := w.resolveFrom maxLinks p

/-- The file at a place, which must not be a link. -/
def opened (w : Files) (p : Place) : Except FsError (List UInt8 × FileInfo) :=
  match w.disk p with
  | some (.file bytes info) => .ok (bytes, info)
  | some (.symlink _ _) => .error .tooManyLinks
  | some (.dir _) | some (.other _) => .error .isDirectory
  | none => .error .notFound

/-- The file at a place, or at the end of the links there. -/
def followed (w : Files) (p : Place) : Except FsError (List UInt8 × FileInfo) :=
  (w.resolve p).bind w.opened

/-- A file is at the end of no link. -/
theorem followed_file {w : Files} {p : Place} {bytes : List UInt8} {info : FileInfo}
    (h : w.disk p = some (.file bytes info)) : w.followed p = .ok (bytes, info) := by
  have hresolve : w.resolve p = .ok p := by
    unfold resolve resolveFrom maxLinks
    rw [h]
  have hopened : w.opened p = .ok (bytes, info) := by
    unfold opened
    rw [h]
  rw [followed, hresolve]
  exact hopened

def followedStat (w : Files) (p : Place) : Except FsError Stat := (w.resolve p).bind w.stat

/-- Where the config is that the lock is taken for: at the end of the links, or where it would be
created. -/
def lockTarget (w : Files) : Except PairingStoreError Place :=
  match w.resolve .config with
  | .ok target => .ok target
  | .error err => if err.kind = .notFound then .ok .config else .error (.lock .config err)

def fileInfo (w : Files) (p : Place) : Except FsError FileInfo :=
  (w.stat p).map Stat.info

def hasParent (w : Files) (p : Place) : Bool :=
  match p.parent with
  | some parent => (w.disk parent).isSome
  | none => true

/-- A change of the metadata of a file or a directory. -/
def setInfo (w : Files) (f : FileInfo → FileInfo) (p : Place) : Except FsError Files :=
  match w.disk p with
  | some (.file bytes info) => .ok (w.set p (some (.file bytes (f info))))
  | some (.dir info) => .ok (w.set p (some (.dir (f info))))
  | some _ => .error .tooManyLinks
  | none => .error .notFound

/-- A new entry of a directory that exists. -/
def create (w : Files) (p : Place) (node : Node) : Except FsError Files :=
  if (w.disk p).isSome then .error .alreadyExists
  else if w.hasParent p then .ok (w.set p (some node))
  else .error .notFound

/-- A directory with something in it is not removed. -/
def inUse (w : Files) (p : Place) : Bool :=
  (p = .profileDir && (w.disk .token).isSome) || (p = .tvsDir && (w.disk .profileDir).isSome)

/-- What an operation does if nothing fails. `fresh` is the metadata of a new file, and `clears`
says that a change of owner clears the set-user-id and set-group-id bits. -/
def apply (w : Files) (fresh : FileInfo) (clears : Bool) : FileOp → Except FsError Files
  | .createDir p => w.create p (.dir fresh)
  | .createNew p _ => w.create p (.file [] fresh)
  | .openDir p | .flush p | .syncAll p =>
    match w.disk p with
    | some _ => .ok w
    | none => .error .notFound
  | .writeAll p new =>
    match w.disk p with
    | some (.file bytes info) =>
      .ok (w.set p (some (.file (bytes ++ new) { info with mtime := fresh.mtime })))
    | some _ => .error .isDirectory
    | none => .error .notFound
  | .setMode p mode => w.setInfo (fun info => { info with mode }) p
  | .setOwner p uid gid =>
    w.setInfo (fun info =>
      { info with
        uid
        gid
        mode := if clears then Fin.ofNat _ (info.mode.val % 0o2000) else info.mode }) p
  | .rename src dst =>
    match w.disk src, w.disk dst with
    | none, _ => .error .notFound
    | some _, some (.dir _) => .error .isDirectory
    | some node, _ => .ok ((w.set src none).set dst (some node))
  | .removeFile p =>
    match w.disk p with
    | some (.dir _) => .error .isDirectory
    | some _ => .ok (w.set p none)
    | none => .error .notFound
  | .removeDir p =>
    match w.disk p with
    | some (.dir _) => if w.inUse p then .error .notEmpty else .ok (w.set p none)
    | some _ => .error .notDirectory
    | none => .error .notFound

end Files

/-! ## Moments -/

/-- A call may fail for any reason, but a file that is there is not missing. -/
structure Fault where
  error : FsError
  genuine : error.kind ≠ .notFound

/-- What happens at one call; `O` are the things that others do. -/
structure Moment (O : Type) where
  outside : List O
  fault : Option Fault
  lockFault : Option PairingStoreError
  /-- The metadata of a file that is created now, and the clock. -/
  fresh : FileInfo
  /-- `fchown` clears the set-user-id and set-group-id bits. -/
  clearsBits : Bool
  connect : Except WebOsClientError Unit
  register : Except WebOsClientRegistrationError PlatformAccessToken
  tempCounter : Nat
  owner : Except String SystemUser
  validated : Except FsError Unit
  behaviors : Except String (List BehaviorSetting)
  isCancelled : Bool
  begun : Bool
  hook : Except FsError Unit

namespace Moment

variable {O : Type}

def attempt {α : Type} (m : Moment O) (result : Except FsError α) : Except FsError α :=
  match m.fault with
  | some fault => .error fault.error
  | none => result

/-- A call that fails changes nothing. -/
def effect (m : Moment O) (w : Files) (result : Except FsError Files) :
    Except FsError Unit × Files :=
  match m.attempt result with
  | .ok w' => (.ok (), w')
  | .error err => (.error err, w)

end Moment

/-- What a call answers, and what it does. -/
def Files.answer {O : Type} (m : Moment O) (w : Files) : (e : StoreCall) → e.Answer × Files
  | .lock =>
    match m.lockFault with
    | some err => (.error err, w)
    | none =>
      match w.lockTarget with
      | .error err => (.error err, w)
      | .ok target =>
        if w.holder = .free then (.ok target, { w with holder := .us })
        else (.error (.pairingInProgress .marker), w)
  | .unlock => ((), if w.holder = .us then { w with holder := .free } else w)
  | .connect => (m.connect, w)
  | .register _ => (m.register, w)
  | .tempCounter => (m.tempCounter, w)
  | .resolveOwner => (m.owner, w)
  | .validateChanges _ _ => (m.validated, w)
  | .declaredBehaviors _ => (m.behaviors, w)
  | .isCancelled => (m.isCancelled, w)
  | .begin => (m.begun, w)
  | .finish => ((), w)
  | .hook _ => (m.hook, w)
  | .canonicalizeConfig => (m.attempt (w.resolve .config), w)
  | .symlinkMetadata p => (m.attempt (w.stat p), w)
  | .metadata p => (m.attempt (w.followedStat p), w)
  | .read p => (m.attempt ((w.followed p).map Prod.fst), w)
  | .readNoFollow p => (m.attempt (w.opened p), w)
  | .fileMetadata p => (m.attempt (w.fileInfo p), w)
  | .file op => m.effect w (w.apply m.fresh m.clearsBits op)

/-! ## Runs -/

/-- One call of a run, with the files just before and just after it. -/
structure StoreEntry where
  before : Files
  call : StoreCall
  answer : call.Answer
  after : Files

structure StoreState where
  world : Files
  log : List StoreEntry := []

/-- Others do what they do, and then the call is answered. -/
def StoreState.perform {O : Type} (outside : Files → O → Files) (m : Moment O) (t : StoreState)
    (e : StoreCall) : e.Answer × StoreState :=
  let w := m.outside.foldl outside t.world
  ((w.answer m e).1, ⟨(w.answer m e).2, t.log ++ [⟨w, e, (w.answer m e).1, (w.answer m e).2⟩]⟩)

/-- Any moment is possible at any call. -/
def anyMoment {O : Type} (outside : Files → O → Files) :
    Program.Contract StoreCall StoreCall.Answer StoreState where
  permits _ _ := True
  next t e r t' := ∃ m : Moment O, t.perform outside m e = (r, t')

/-- A run through the given moments. -/
def runStore {O α : Type} (outside : Files → O → Files) (moments : Nat → Moment O)
    (p : StoreProgram α) (w : Files) : α × StoreState :=
  let result := Program.exec (fun (s : StoreState × Nat) e =>
    let answered := s.1.perform outside (moments s.2) e
    (answered.1, (answered.2, s.2 + 1))) p (⟨w, []⟩, 0)
  (result.1, result.2.1)

theorem runStore_spec {O α : Type} {outside : Files → O → Files} {p : StoreProgram α}
    {Q : α → StoreState → Prop} {w : Files}
    (h : Program.wp (anyMoment outside) p Q ⟨w, []⟩) (moments : Nat → Moment O) :
    Q (runStore outside moments p w).1 (runStore outside moments p w).2 := by
  have hhandle : ∀ (s : StoreState × Nat) (e : StoreCall), True → True
      ∧ (anyMoment outside).next s.1 e (s.1.perform outside (moments s.2) e).1
        (s.1.perform outside (moments s.2) e).2 :=
    fun s e _ => ⟨trivial, moments s.2, rfl⟩
  exact Program.wp.exec (s := (⟨w, []⟩, 0)) (fun s : StoreState × Nat => s.1) hhandle trivial h

/-- The rule for one call: every moment. -/
theorem wp_storeCall {O : Type} {outside : Files → O → Files} {e : StoreCall}
    {Q : e.Answer → StoreState → Prop} {t : StoreState}
    (h : ∀ m : Moment O, Q (t.perform outside m e).1 (t.perform outside m e).2) :
    Program.wp (anyMoment outside) (Program.perform e) Q t := by
  refine (Program.wp_perform e).mpr ⟨trivial, fun r t' hnext => ?_⟩
  obtain ⟨m, hm⟩ := hnext
  have := h m
  rw [hm] at this
  exact this

/-! ## Frames -/

section Frame

variable {O : Type} (m : Moment O) (w : Files)

/-- A call either has no effect, or the one it names. -/
theorem effect_cases (result : Except FsError Files) :
    (∃ err, m.effect w result = (.error err, w))
      ∨ ∃ w', result = .ok w' ∧ m.effect w result = (.ok (), w') := by
  unfold Moment.effect Moment.attempt
  cases m.fault with
  | some fault => exact Or.inl ⟨fault.error, rfl⟩
  | none =>
    cases result with
    | ok w' => exact Or.inr ⟨w', rfl, rfl⟩
    | error err => exact Or.inl ⟨err, rfl⟩

/-- `w'` differs from `w` at these places at most. -/
structure SameBut (places : List Place) (w w' : Files) : Prop where
  disk : ∀ p, p ∉ places → w'.disk p = w.disk p
  holder : w'.holder = w.holder

theorem SameBut.set (p : Place) (node : Option Node) : SameBut [p] w (w.set p node) :=
  ⟨fun _ hq => w.set_other node (List.ne_of_not_mem_cons hq), rfl⟩

theorem create_sameBut {p : Place} {node : Node} {w' : Files} (h : w.create p node = .ok w') :
    SameBut [p] w w' := by
  unfold Files.create at h
  split at h
  · cases h
  · split at h <;> cases h
    exact SameBut.set w p _

theorem setInfo_sameBut {f : FileInfo → FileInfo} {p : Place} {w' : Files}
    (h : w.setInfo f p = .ok w') : SameBut [p] w w' := by
  unfold Files.setInfo at h
  split at h <;> cases h
  · exact SameBut.set w p _
  · exact SameBut.set w p _

/-- **What an operation does not name, it does not change.** -/
theorem apply_sameBut {fresh : FileInfo} {clears : Bool} {op : FileOp} {w' : Files}
    (h : w.apply fresh clears op = .ok w') : SameBut op.touches w w' := by
  cases op with
  | createDir p => exact create_sameBut w h
  | createNew p mode => exact create_sameBut w h
  | openDir p | flush p | syncAll p =>
    dsimp only [Files.apply] at h
    split at h <;> cases h
    exact ⟨fun _ _ => rfl, rfl⟩
  | writeAll p new =>
    dsimp only [Files.apply] at h
    split at h <;> cases h
    exact SameBut.set w p _
  | setMode p mode => exact setInfo_sameBut w h
  | setOwner p uid gid => exact setInfo_sameBut w h
  | rename src dst =>
    dsimp only [Files.apply] at h
    split at h <;> cases h
    refine ⟨fun p hp => ?_, rfl⟩
    rw [Files.set_other _ _ (List.ne_of_not_mem_cons (List.not_mem_of_not_mem_cons hp)),
      Files.set_other _ _ (List.ne_of_not_mem_cons hp)]
  | removeFile p =>
    dsimp only [Files.apply] at h
    split at h <;> cases h
    exact SameBut.set w p _
  | removeDir p =>
    dsimp only [Files.apply] at h
    split at h
    · split at h <;> cases h
      exact SameBut.set w p _
    · cases h
    · cases h

theorem answer_sameBut {e : StoreCall} (hlock : e ≠ .lock) (hunlock : e ≠ .unlock) :
    SameBut e.touches w (w.answer m e).2 := by
  cases e with
  | lock => exact absurd rfl hlock
  | unlock => exact absurd rfl hunlock
  | file op =>
    show SameBut op.touches w (m.effect w _).2
    rcases effect_cases m w (w.apply m.fresh m.clearsBits op) with ⟨err, h⟩ | ⟨w', hok, h⟩
    · rw [h]
      exact ⟨fun _ _ => rfl, rfl⟩
    · rw [h]
      exact apply_sameBut w hok
  | connect | register | tempCounter | resolveOwner | validateChanges | declaredBehaviors
  | isCancelled | begin | finish | hook | canonicalizeConfig | symlinkMetadata | metadata | read
  | readNoFollow | fileMetadata => exact ⟨fun _ _ => rfl, rfl⟩

/-- Taking or dropping the lock changes no file. -/
theorem answer_disk {e : StoreCall} {p : Place} (hp : p ∉ e.touches) :
    (w.answer m e).2.disk p = w.disk p := by
  by_cases hlock : e = .lock
  · subst hlock
    unfold Files.answer
    dsimp only
    split
    · rfl
    · split
      · rfl
      · split <;> rfl
  · by_cases hunlock : e = .unlock
    · subst hunlock
      unfold Files.answer
      dsimp only
      split <;> rfl
    · exact (answer_sameBut m w hlock hunlock).disk p hp

end Frame

end LgBuddy
