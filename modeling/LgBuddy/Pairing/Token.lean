import LgBuddy.Pairing.Disk

/-!
# LgBuddy — the stored access token

`platform_access_token.rs`, and the two ways of `web_os/client.rs` to connect with its help.

* `PlatformAccessTokenStore.load`, `persistLocked` — the token file; it is replaced by a rename;
* `publicationSnapshot`, `snapshotAt` — which versions of the config and of the token there are;
* `getOrAcquire`, `acquireAndPersist` — authentication, and the conditional publication of a token
  that the TV has just granted;
* `connectAuthenticated`, `connectAuthenticatedWithStoredToken`.
-/

namespace LgBuddy

namespace StoreProgram

def lock : StoreProgram (Except PairingStoreError Place) := Program.perform StoreCall.lock
def unlock : StoreProgram Unit := Program.perform StoreCall.unlock
def connect : StoreProgram (Except WebOsClientError Unit) := Program.perform StoreCall.connect
def register (token : Option PlatformAccessToken) :
    StoreProgram (Except WebOsClientRegistrationError PlatformAccessToken) :=
  Program.perform (StoreCall.register token)
def tempCounter : StoreProgram Nat := Program.perform StoreCall.tempCounter
def resolveOwner : StoreProgram (Except String SystemUser) :=
  Program.perform StoreCall.resolveOwner
def validateChanges (before after : List UInt8) : StoreProgram (Except FsError Unit) :=
  Program.perform (StoreCall.validateChanges before after)
def declaredBehaviors (text : String) : StoreProgram (Except String (List BehaviorSetting)) :=
  Program.perform (StoreCall.declaredBehaviors text)
def isCancelled : StoreProgram Bool := Program.perform StoreCall.isCancelled
def begin : StoreProgram Bool := Program.perform StoreCall.begin
def finish : StoreProgram Unit := Program.perform StoreCall.finish
def hook (point : MigrationPoint) : StoreProgram (Except FsError Unit) :=
  Program.perform (StoreCall.hook point)
def canonicalizeConfig : StoreProgram (Except FsError Place) :=
  Program.perform StoreCall.canonicalizeConfig
def symlinkMetadata (p : Place) : StoreProgram (Except FsError Stat) :=
  Program.perform (StoreCall.symlinkMetadata p)
def metadata (p : Place) : StoreProgram (Except FsError Stat) :=
  Program.perform (StoreCall.metadata p)
def read (p : Place) : StoreProgram (Except FsError (List UInt8)) :=
  Program.perform (StoreCall.read p)
def readNoFollow (p : Place) : StoreProgram (Except FsError (List UInt8 × FileInfo)) :=
  Program.perform (StoreCall.readNoFollow p)
def createDir (p : Place) : StoreProgram (Except FsError Unit) :=
  Program.perform (StoreCall.file (.createDir p))
def openDir (p : Place) : StoreProgram (Except FsError Unit) :=
  Program.perform (StoreCall.file (.openDir p))
def createNew (p : Place) (mode : Fin 0o10000) : StoreProgram (Except FsError Unit) :=
  Program.perform (StoreCall.file (.createNew p mode))
def writeAll (p : Place) (bytes : List UInt8) : StoreProgram (Except FsError Unit) :=
  Program.perform (StoreCall.file (.writeAll p bytes))
def flush (p : Place) : StoreProgram (Except FsError Unit) :=
  Program.perform (StoreCall.file (.flush p))
def setMode (p : Place) (mode : Fin 0o10000) : StoreProgram (Except FsError Unit) :=
  Program.perform (StoreCall.file (.setMode p mode))
def fileMetadata (p : Place) : StoreProgram (Except FsError FileInfo) :=
  Program.perform (StoreCall.fileMetadata p)
def setOwner (p : Place) (uid gid : Nat) : StoreProgram (Except FsError Unit) :=
  Program.perform (StoreCall.file (.setOwner p uid gid))
def syncAll (p : Place) : StoreProgram (Except FsError Unit) :=
  Program.perform (StoreCall.file (.syncAll p))
def rename (src dst : Place) : StoreProgram (Except FsError Unit) :=
  Program.perform (StoreCall.file (.rename src dst))
def removeFile (p : Place) : StoreProgram (Except FsError Unit) :=
  Program.perform (StoreCall.file (.removeFile p))
def removeDir (p : Place) : StoreProgram (Except FsError Unit) :=
  Program.perform (StoreCall.file (.removeDir p))

end StoreProgram

/-- `map_err(f)?`. -/
def StoreM.orElse {E E' α : Type} (p : StoreProgram (Except E' α)) (f : E' → E) : StoreM E α :=
  ExceptT.adapt f (ExceptT.mk p)

/-- `?` on a plain result. -/
def StoreM.ofExcept {E α : Type} (result : Except E α) : StoreM E α := ExceptT.mk (pure result)

/-- `let _ = …`. -/
def StoreM.ignore {E α : Type} (p : StoreProgram α) : StoreM E Unit := do
  let _ ← ExceptT.lift p
  return ()

/-- On an error the temporary file is removed, if that can be done. -/
def StoreM.orCleanUp {E : Type} (temp : Place) (body : StoreM E Unit) : StoreM E Unit := do
  match ← ExceptT.lift body.run with
  | .ok () => return ()
  | .error err =>
    StoreM.ignore (StoreProgram.removeFile temp)
    throw err

def decodeUtf8 (bytes : List UInt8) : Option String := String.fromUTF8? ⟨bytes.toArray⟩

/-- `serde_json` on `StoredPlatformAccessToken`, the one field of which is the secret. -/
structure TokenFormat where
  toVecPretty : String → Except String (List UInt8)
  fromStr : String → Except String String

structure PlatformAccessTokenStore where
  /-- The paths, as errors show them. -/
  name : Place → String
  owner : SystemUser
  format : TokenFormat

/-- Bytes, device, inode, owner, group and mode of a file. -/
structure FileVersion where
  bytes : List UInt8
  dev : Nat
  ino : Nat
  uid : Nat
  gid : Nat
  mode : Fin 0o10000
  deriving DecidableEq, Repr

def FileVersion.of (bytes : List UInt8) (info : FileInfo) : FileVersion :=
  ⟨bytes, info.dev, info.ino, info.uid, info.gid, info.mode⟩

structure CredentialPublication where
  config : Option FileVersion
  token : Option FileVersion
  deriving DecidableEq, Repr

namespace PlatformAccessTokenStore

variable (store : PlatformAccessTokenStore)

def storeIoError (operation : PlatformAccessTokenStoreOperation) (path : Place)
    (source : FsError) : PlatformAccessTokenStoreError :=
  .io operation (store.name path) source.text

/-! ## Reading -/

def parseToken (bytes : List UInt8) :
    Except PlatformAccessTokenStoreError PlatformAccessToken :=
  match decodeUtf8 bytes with
  | none =>
    .error (store.storeIoError .readToken .token ⟨.other, "stream did not contain valid UTF-8"⟩)
  | some contents =>
    match store.format.fromStr contents with
    | .error source => .error (.invalidJson (store.name .token) source)
    | .ok secret =>
      match PlatformAccessToken.new secret with
      | none => .error (.invalidToken (store.name .token))
      | some token => .ok token

def load : StoreM PlatformAccessTokenStoreError (Option PlatformAccessToken) := do
  match ← ExceptT.lift (StoreProgram.readNoFollow .token) with
  | .error source =>
    if source.kind = .notFound then return none
    else throw (store.storeIoError .readToken .token source)
  | .ok contents =>
    let token ← StoreM.ofExcept (store.parseToken contents.1)
    return some token

def loadStored : StoreM PlatformAccessTokenAcquisitionError PlatformAccessToken := do
  match ← ExceptT.adapt .store store.load with
  | some token => return token
  | none => throw .missingStoredToken

/-! ## Replacing the token -/

def setFileOwner (p : Place) : StoreM PlatformAccessTokenStoreError Unit := do
  let info ← StoreM.orElse (StoreProgram.fileMetadata p) (store.storeIoError .setOwner p)
  if info.uid = store.owner.uid ∧ info.gid = store.owner.gid then return ()
  else
    StoreM.orElse (StoreProgram.setOwner p store.owner.uid store.owner.gid)
      (store.storeIoError .setOwner p)

def secureDirectory (p : Place) : StoreM PlatformAccessTokenStoreError Unit := do
  StoreM.orElse (StoreProgram.openDir p) (store.storeIoError .openDirectory p)
  StoreM.orElse (StoreProgram.setMode p 0o700) (store.storeIoError .setPermissions p)
  store.setFileOwner p

/-- A directory that is there already is as good as a new one. -/
def createdOrThere (p : Place) : Except FsError Unit → Except PlatformAccessTokenStoreError Unit
  | .ok () => .ok ()
  | .error source =>
    if source.kind = .alreadyExists then .ok ()
    else .error (store.storeIoError .createDirectory p source)

def ensurePrivateDirectory (p : Place) : StoreM PlatformAccessTokenStoreError Unit := do
  let created ← ExceptT.lift (StoreProgram.createDir p)
  StoreM.ofExcept (store.createdOrThere p created)
  let stat ← StoreM.orElse (StoreProgram.symlinkMetadata p) (store.storeIoError .inspectDirectory p)
  if stat.kind ≠ .dir then
    throw (store.storeIoError .inspectDirectory p ⟨.other, "credential path is not a directory"⟩)
  else store.secureDirectory p

/-- The temporary file is filled, secured and put in the token's place. -/
def writeTokenThrough (temp : Place) (contents : List UInt8) :
    StoreM PlatformAccessTokenStoreError Unit := do
  StoreM.orElse (StoreProgram.writeAll temp contents) (store.storeIoError .writeTemporaryFile temp)
  StoreM.orElse (StoreProgram.flush temp) (store.storeIoError .writeTemporaryFile temp)
  StoreM.orElse (StoreProgram.setMode temp 0o600) (store.storeIoError .setPermissions temp)
  store.setFileOwner temp
  StoreM.orElse (StoreProgram.syncAll temp) (store.storeIoError .syncTemporaryFile temp)
  StoreM.orElse (StoreProgram.rename temp .token) (store.storeIoError .replaceToken .token)

/-- The loop over the attempts that are left; `lastCollision` is what the last one ran into. -/
def atomicWriteTokenFrom (contents : List UInt8) :
    List Nat → Place × FsError → StoreM PlatformAccessTokenStoreError Unit
  | [], lastCollision =>
    throw (store.storeIoError .createTemporaryFile lastCollision.1 lastCollision.2)
  | attempt :: attempts, _ => do
    match ← ExceptT.lift (StoreProgram.createNew (.temp .token attempt) 0o600) with
    | .ok () =>
      StoreM.orCleanUp (.temp .token attempt)
        (store.writeTokenThrough (.temp .token attempt) contents)
    | .error source =>
      if source.kind = .alreadyExists then
        atomicWriteTokenFrom contents attempts (.temp .token attempt, source)
      else throw (store.storeIoError .createTemporaryFile (.temp .token attempt) source)

def tempFileAttempts : Nat := 100

def atomicWriteToken (contents : List UInt8) : StoreM PlatformAccessTokenStoreError Unit :=
  store.atomicWriteTokenFrom contents (List.range tempFileAttempts)
    (.token, ⟨.alreadyExists, "could not create a unique temporary access-token file"⟩)

/-- The bytes of a token file. -/
def tokenContents (token : PlatformAccessToken) :
    Except PlatformAccessTokenStoreError (List UInt8) :=
  match store.format.toVecPretty token.secret with
  | .ok contents => .ok (contents ++ [0x0a])
  | .error source => .error (.serialize source)

/-- The caller holds the lock. -/
def persistLocked (token : PlatformAccessToken) : StoreM PlatformAccessTokenStoreError Unit := do
  let contents ← StoreM.ofExcept (store.tokenContents token)
  store.ensurePrivateDirectory .tvsDir
  store.ensurePrivateDirectory .profileDir
  store.atomicWriteToken contents

/-! ## Conditional publication -/

def versionOf (p : Place) : Except FsError (List UInt8 × FileInfo) →
    Except PlatformAccessTokenStoreError (Option FileVersion)
  | .ok (bytes, info) => .ok (some (FileVersion.of bytes info))
  | .error source =>
    if source.kind = .notFound then .ok none
    else .error (store.storeIoError .readToken p source)

def readVersion (p : Place) : StoreM PlatformAccessTokenStoreError (Option FileVersion) := do
  let contents ← ExceptT.lift (StoreProgram.readNoFollow p)
  StoreM.ofExcept (store.versionOf p contents)

def snapshotAt (configPath : Place) :
    StoreM PlatformAccessTokenStoreError CredentialPublication := do
  let config ← store.readVersion configPath
  let token ← store.readVersion .token
  return ⟨config, token⟩

/-- Without the lock. A config that is missing is looked for at the path as it was given. -/
def publicationSnapshot : StoreM PlatformAccessTokenStoreError CredentialPublication := do
  match ← ExceptT.lift StoreProgram.canonicalizeConfig with
  | .ok path => store.snapshotAt path
  | .error source =>
    if source.kind = .notFound then store.snapshotAt .config
    else throw (store.storeIoError .readToken .config source)

/-- With the config that the lock was taken for. -/
def mutationGuard : StoreM PlatformAccessTokenStoreError Place :=
  StoreM.orElse StoreProgram.lock fun err =>
    store.storeIoError .replaceToken .token ⟨.other, err.text store.name⟩

/-- The part of `acquire_and_persist` that holds the lock. -/
def persistIfUnchanged (target : Place) (before : CredentialPublication)
    (token : PlatformAccessToken) : StoreM PlatformAccessTokenAcquisitionError Unit := do
  let now ← ExceptT.adapt
    (fun _ => .store (store.storeIoError .replaceToken .token
      ⟨.other, "configuration or credential cannot be revalidated; retry"⟩))
    (store.snapshotAt target)
  if now ≠ before then
    throw (.store (store.storeIoError .replaceToken .token
      ⟨.other, "configuration or credential changed during authentication; retry"⟩))
  else ExceptT.adapt .store (store.persistLocked token)

def acquireAndPersist (before : CredentialPublication) :
    StoreM PlatformAccessTokenAcquisitionError PlatformAccessToken := do
  let token ← StoreM.orElse (StoreProgram.register none) .registration
  let target ← ExceptT.adapt .store store.mutationGuard
  let result ← ExceptT.lift (store.persistIfUnchanged target before token).run
  ExceptT.lift StoreProgram.unlock
  StoreM.ofExcept (result.map fun _ => token)

def getOrAcquire (before : CredentialPublication) :
    StoreM PlatformAccessTokenAcquisitionError PlatformAccessToken := do
  match ← ExceptT.adapt .store store.load with
  | some token =>
    let _ ← StoreM.orElse (StoreProgram.register (some token)) .registration
    return token
  | none => store.acquireAndPersist before

/-! ## Connecting -/

def connectAuthenticatedWithStoredToken : StoreM WebOsAuthenticatedClientError Unit := do
  let token ← ExceptT.adapt .authentication store.loadStored
  StoreM.orElse StoreProgram.connect .connect
  let _ ← StoreM.orElse (StoreProgram.register (some token)) fun source =>
    .authentication (.registration source)
  return ()

/-- What follows the first attempt. -/
def afterAuthentication (publication : CredentialPublication) :
    Except PlatformAccessTokenAcquisitionError PlatformAccessToken →
      StoreM WebOsAuthenticatedClientError Unit
  | .ok _ => return ()
  | .error (.registration .storedTokenRequiresPairing) => do
    StoreM.orElse StoreProgram.connect .connect
    let _ ← ExceptT.adapt .authentication (store.acquireAndPersist publication)
    return ()
  | .error source => throw (.authentication source)

def connectAuthenticated : StoreM WebOsAuthenticatedClientError Unit := do
  let publication ← ExceptT.adapt (fun source => .authentication (.store source))
    store.publicationSnapshot
  StoreM.orElse StoreProgram.connect .connect
  let authentication ← ExceptT.lift (store.getOrAcquire publication).run
  store.afterAuthentication publication authentication

end PlatformAccessTokenStore

end LgBuddy
