import LgBuddy.Pairing.Token
import LgBuddy.Settings.RuntimeConfig
import LgBuddy.Text.Utf8

/-!
# LgBuddy — unpairing

`pairing_store.rs`: the profile of the primary TV is taken out of the config, and its credential
goes with it.

* `removePrimaryConfigKeys`, `isPrimaryConfigLine` — the config without the TV, byte by byte;
* `validatePrimaryIdentity` — the config is that of the TV that was chosen;
* `PairingStore` — what was there when the lock was taken; `prepareUnpair` fills it;
* `PairingStore.unpair` — the credential is removed, the config published, and on an error the
  credential put back;
* `unpairPrimary` — all of it, under the lock.
-/

namespace LgBuddy

/-! ## The config without the TV -/

def tvKeys : List String :=
  ["tvs_primary_ip", "tv_ip", "tvs_primary_mac", "tv_mac", "tvs_primary_input", "input",
    "tvs_primary_platform"]

/-- `u8::is_ascii_whitespace`. -/
def isAsciiWhitespace (byte : UInt8) : Bool :=
  byte == 0x09 || byte == 0x0a || byte == 0x0c || byte == 0x0d || byte == 0x20

def trimAsciiWhitespace (value : List UInt8) : List UInt8 :=
  (value.dropWhile isAsciiWhitespace).rdropWhile isAsciiWhitespace

/-- `strip_suffix` of one byte, where there is one. -/
def stripByte (byte : UInt8) (line : List UInt8) : List UInt8 :=
  if line.getLast? = some byte then line.dropLast else line

def isPrimaryConfigLine (line : List UInt8) : Bool :=
  let line := trimAsciiWhitespace (stripByte 0x0a line)
  let line := trimAsciiWhitespace (stripByte 0x0d line)
  if line.isEmpty || line.head? = some 0x23 then false
  else if 0x3d ∈ line then
    let key := trimAsciiWhitespace (line.takeWhile (· ≠ 0x3d))
    tvKeys.any fun candidate => key = Str.utf8Bytes candidate.toList
  else false

/-- The loop: `line` is what was read since the last line ended, `contents` what is kept so far. -/
def removePrimaryFrom (line contents : List UInt8) : List UInt8 → List UInt8
  | [] =>
    if line ≠ [] then if !isPrimaryConfigLine line then contents ++ line else contents
    else contents
  | byte :: rest =>
    let line := line ++ [byte]
    if byte ≠ 0x0a then removePrimaryFrom line contents rest
    else removePrimaryFrom [] (if !isPrimaryConfigLine line then contents ++ line else contents) rest

def removePrimaryConfigKeys (original : List UInt8) : List UInt8 :=
  removePrimaryFrom [] [] original

/-! ## The TV that was chosen -/

/-- The fields that are compared. -/
structure TvProfile where
  address : Ipv4Addr
  mac : MacAddress
  input : HdmiInput
  platform : TvPlatform
  deriving DecidableEq

def identityMismatch (field : String) : PairingStoreError :=
  .primaryIdentityMismatch .config field

/-- `option.ok_or_else(…)`. -/
def identityOr {α : Type} (field : String) : Option α → Except PairingStoreError α
  | some value => .ok value
  | none => .error (identityMismatch field)

def notUtf8 : FsError := ⟨.other, "invalid utf-8 sequence"⟩

/-- `std::str::from_utf8` of the config. -/
def configText (contents : List UInt8) : Except PairingStoreError Text :=
  match Str.fromUtf8 contents with
  | some text => .ok text
  | none => .error (.configRead .config notUtf8)

def validatePrimaryIdentity (contents : Option (List UInt8)) (expected : TvProfile) :
    Except PairingStoreError Unit := do
  let contents ← identityOr "profile" contents
  let text ← configText contents
  let entries := parseConfigEntries text
  let value := fun (primary fallback : String) =>
    (entryValue entries primary).or (entryValue entries fallback)
  let address ← identityOr "ip" ((value "tvs_primary_ip" "tv_ip").bind Ipv4Addr.parse)
  let mac ← identityOr "mac" ((value "tvs_primary_mac" "tv_mac").bind MacAddress.parse)
  let input ← identityOr "input" ((value "tvs_primary_input" "input").bind HdmiInput.parse)
  let platform ← identityOr "platform"
    (TvPlatform.parse
      ((entryValue entries "tvs_primary_platform").getD TvPlatform.default.asStr.toList))
  if address ≠ expected.address then throw (identityMismatch "ip")
  else if mac ≠ expected.mac then throw (identityMismatch "mac")
  else if input ≠ expected.input then throw (identityMismatch "input")
  else if platform ≠ expected.platform then throw (identityMismatch "platform")
  else return ()

/-! ## What is there -/

/-- A read error, as the code names it. -/
def invalidData (text : String) : FsError := ⟨.other, text⟩

def readConfigSnapshot : StoreM PairingStoreError (Option (List UInt8)) := do
  let stat ← ExceptT.lift (StoreProgram.symlinkMetadata .config)
  if (stat.toOption.map Stat.kind) = some .symlink then throw (.configSymlink .config)
  else
    match ← ExceptT.lift (StoreProgram.read .config) with
    | .ok contents => return some contents
    | .error source =>
      if source.kind = .notFound then return none else throw (.configRead .config source)

/-- The mode without the bits for the kind of file, which is the same for any file. -/
structure TokenBefore where
  contents : List UInt8
  mode : Fin 0o10000
  uid : Nat
  gid : Nat
  deriving DecidableEq, Repr

def readExistingToken : StoreM PairingStoreError (Option TokenBefore) := do
  match ← ExceptT.lift (StoreProgram.symlinkMetadata .token) with
  | .error source =>
    if source.kind = .notFound then return none else throw (.tokenRead .token source)
  | .ok stat =>
    if stat.kind ≠ .file then
      throw (.tokenRead .token (invalidData "credential path is not a regular file"))
    else
      let opened ← StoreM.orElse (StoreProgram.readNoFollow .token) (.tokenRead .token)
      return some ⟨opened.1, stat.info.mode, stat.info.uid, stat.info.gid⟩

/-- The owner is compared with nothing. -/
def sameTokenSnapshot : Option TokenBefore → Option TokenBefore → Bool
  | none, none => true
  | some before, some current => before.contents = current.contents && before.mode = current.mode
  | _, _ => false

def ensureConfigOwner (owner : SystemUser) (euid : Nat) : StoreM PairingStoreError Unit := do
  let stat ← StoreM.orElse (StoreProgram.symlinkMetadata .config) (.configRead .config)
  if stat.kind = .symlink then throw (.configSymlink .config)
  else if stat.kind ≠ .file then
    throw (.configRead .config (invalidData "config path is not a regular file"))
  else if stat.info.uid = 0 then throw (.configOwnedByRoot .config)
  else if stat.info.uid ≠ owner.uid then
    throw (.configOwnerMismatch .config stat.info.uid euid)
  else return ()

/-- A directory of the credential may be missing. -/
def ensureDirectorySafe (owner : SystemUser) (directory : Place) :
    StoreM PairingStoreError Unit := do
  match ← ExceptT.lift (StoreProgram.symlinkMetadata directory) with
  | .error source =>
    if source.kind = .notFound then return () else throw (.tokenRead directory source)
  | .ok stat =>
    if stat.kind = .symlink then
      throw (.tokenRead directory (invalidData "credential directory is a symlink"))
    else if stat.kind ≠ .dir then
      throw (.tokenRead directory (invalidData "credential path is not a directory"))
    else if stat.info.uid = 0 then
      throw (.tokenRead directory (invalidData "credential directory is owned by root"))
    else if stat.info.uid ≠ owner.uid then
      throw (.tokenRead directory (invalidData "credential directory has a different owner"))
    else return ()

def ensureTokenPathSafe (owner : SystemUser) : StoreM PairingStoreError Unit := do
  ensureDirectorySafe owner .tvsDir
  ensureDirectorySafe owner .profileDir
  match ← ExceptT.lift (StoreProgram.symlinkMetadata .token) with
  | .error source =>
    if source.kind = .notFound then return () else throw (.tokenRead .token source)
  | .ok stat =>
    if stat.kind ≠ .file then
      throw (.tokenRead .token (invalidData "credential path is not a regular file"))
    else if stat.info.uid = 0 then
      throw (.tokenRead .token (invalidData "credential file is owned by root"))
    else if stat.info.uid ≠ owner.uid then
      throw (.tokenRead .token (invalidData "credential file has a different owner"))
    else return ()

/-! ## Writing -/

/-- The temporary file is filled and put in the config's place. -/
def writeConfigThrough (temp : Place) (before contents : List UInt8) (mode : Fin 0o10000)
    (owner : SystemUser) : StoreM PairingStoreError Unit := do
  StoreM.orElse (StoreProgram.writeAll temp contents) (.configWrite temp)
  StoreM.orElse (StoreProgram.flush temp) (.configWrite temp)
  StoreM.orElse (StoreProgram.setMode temp mode) (.configWrite temp)
  StoreM.orElse (StoreProgram.setOwner temp owner.uid owner.gid) (.configWrite temp)
  StoreM.orElse (StoreProgram.syncAll temp) (.configWrite temp)
  StoreM.orElse (StoreProgram.validateChanges before contents) (.configWrite .config)
  StoreM.orElse (StoreProgram.rename temp .config) (.configWrite .config)

/-- The mode that the config has, or that of a new one. -/
def configMode (existed : Bool) : StoreM PairingStoreError (Fin 0o10000) := do
  if existed then
    let stat ← StoreM.orElse (StoreProgram.metadata .config) (.configWrite .config)
    return stat.info.mode
  else return 0o600

def atomicWriteConfig (contents : List UInt8) (owner : SystemUser) (existed : Bool) :
    StoreM PairingStoreError Unit := do
  let snapshot ← readConfigSnapshot
  let before := snapshot.getD []
  StoreM.orElse (StoreProgram.validateChanges before contents) (.configWrite .config)
  let mode ← configMode existed
  let n ← ExceptT.lift StoreProgram.tempCounter
  StoreM.orElse (StoreProgram.createNew (.temp .config n) mode) (.configWrite (.temp .config n))
  StoreM.orCleanUp (.temp .config n)
    (writeConfigThrough (.temp .config n) before contents mode owner)

/-- The credential as it was, with its owner and mode. -/
def atomicWriteBytes (before : TokenBefore) : StoreM FsError Unit := do
  let n ← ExceptT.lift StoreProgram.tempCounter
  let temp := Place.temp .token n
  ExceptT.mk (StoreProgram.createNew temp before.mode)
  StoreM.orCleanUp temp do
    ExceptT.mk (StoreProgram.writeAll temp before.contents)
    ExceptT.mk (StoreProgram.flush temp)
    ExceptT.mk (StoreProgram.setOwner temp before.uid before.gid)
    ExceptT.mk (StoreProgram.setMode temp before.mode)
    ExceptT.mk (StoreProgram.syncAll temp)
    ExceptT.mk (StoreProgram.rename temp .token)

/-! ## The store -/

/-- What was there when the lock was taken. -/
structure PairingStore where
  snapshot : Option (List UInt8)
  owner : SystemUser
  tokenBefore : Option TokenBefore
  profileDirExisted : Bool
  tvsDirExisted : Bool
  /-- `geteuid`. -/
  euid : Nat
  deriving DecidableEq, Repr

namespace PairingStore

variable (store : PairingStore)

def checkUnpairConfigPreconditions (expected : TvProfile) : StoreM PairingStoreError Unit := do
  let current ← readConfigSnapshot
  if current ≠ store.snapshot then throw (.configChanged .config)
  else
    ensureConfigOwner store.owner store.euid
    StoreM.ofExcept (validatePrimaryIdentity current expected)

def checkUnpairPreconditions (expected : TvProfile) : StoreM PairingStoreError Unit := do
  store.checkUnpairConfigPreconditions expected
  ensureTokenPathSafe store.owner
  let currentToken ← readExistingToken
  if !sameTokenSnapshot store.tokenBefore currentToken then throw (.tokenChanged .token)
  else return ()

def removeToken : StoreM PairingStoreError Unit := do
  ensureTokenPathSafe store.owner
  let current ← readExistingToken
  if !sameTokenSnapshot store.tokenBefore current then throw (.tokenChanged .token)
  else
    match ← ExceptT.lift (StoreProgram.symlinkMetadata .token) with
    | .ok stat =>
      if stat.kind = .file then
        StoreM.orElse (StoreProgram.removeFile .token) (.tokenRemove .token)
      else throw (.tokenRead .token (invalidData "credential path is not a regular file"))
    | .error source =>
      if source.kind = .notFound then return () else throw (.tokenRemove .token source)

/-- A credential that has appeared in the meantime is left in place. -/
def restoreUnpairedToken : StoreM PairingStoreError Unit := do
  match store.tokenBefore with
  | some before =>
    ensureTokenPathSafe store.owner
    match ← readExistingToken with
    | some current =>
      if !sameTokenSnapshot (some before) (some current) then throw (.tokenChanged .token)
      else return ()
    | none => ExceptT.adapt (PairingStoreError.tokenRollback .token) (atomicWriteBytes before)
  | none =>
    match ← ExceptT.lift (StoreProgram.symlinkMetadata .token) with
    | .ok stat =>
      if stat.kind = .file then return ()
      else
        throw (.tokenRollback .token (invalidData "credential path changed into a non-file"))
    | .error source =>
      if source.kind = .notFound then return () else throw (.tokenRollback .token source)

/-- What follows the removal of the credential. -/
def publishUnpaired (expected : TvProfile) : StoreM PairingStoreError Unit := do
  store.checkUnpairConfigPreconditions expected
  match ← ExceptT.lift (StoreProgram.symlinkMetadata .token) with
  | .ok _ => throw (.tokenChanged .token)
  | .error source =>
    if source.kind = .notFound then
      atomicWriteConfig (removePrimaryConfigKeys (store.snapshot.getD [])) store.owner
        store.snapshot.isSome
    else throw (.tokenRemove .token source)

/-- The config is published, or the credential is put back. -/
def finishUnpaired : Except PairingStoreError Unit → StoreM PairingStoreError Unit
  | .ok () => return ()
  | .error err => do
    match ← ExceptT.lift store.restoreUnpairedToken.run with
    | .ok () => throw err
    | .error undo => throw (.rollback err undo)

def unpair (expected : TvProfile) : StoreM PairingStoreError Unit := do
  store.checkUnpairPreconditions expected
  let original := store.snapshot.getD []
  StoreM.orElse (StoreProgram.validateChanges original (removePrimaryConfigKeys original))
    (.configWrite .config)
  store.removeToken
  let result ← ExceptT.lift (store.publishUnpaired expected).run
  store.finishUnpaired result

end PairingStore

/-! ## The whole call -/

/-- The process, and whether the path of the credential can be derived. -/
structure UnpairContext where
  euid : Nat
  egid : Nat
  tokenPath : Except PlatformAccessTokenStoreError Unit

/-- `resolve_owner`. -/
def UnpairContext.resolveOwner (context : UnpairContext) (configExists : Bool) :
    StoreM PairingStoreError SystemUser :=
  if configExists then StoreM.orElse StoreProgram.resolveOwner .owner
  else return ⟨context.euid, context.egid⟩

/-- `prepare_transaction`, behind the lock. -/
def UnpairContext.prepareUnpair (context : UnpairContext) :
    StoreM PairingStoreError PairingStore := do
  let snapshot ← readConfigSnapshot
  let _ ← StoreM.ofExcept (configText (snapshot.getD []))
  let owner ← context.resolveOwner snapshot.isSome
  if owner.uid = 0 then throw (.configOwnedByRoot .config)
  else if owner.uid ≠ context.euid then
    throw (.configOwnerMismatch .config owner.uid context.euid)
  else
    StoreM.ofExcept (context.tokenPath.mapError .tokenPath)
    let tokenBefore ← readExistingToken
    ensureTokenPathSafe owner
    let profileDir ← ExceptT.lift (StoreProgram.symlinkMetadata .profileDir)
    let tvsDir ← ExceptT.lift (StoreProgram.symlinkMetadata .tvsDir)
    return {
      snapshot
      owner
      tokenBefore
      profileDirExisted := profileDir.isOk
      tvsDirExisted := tvsDir.isOk
      euid := context.euid
    }

/-- What happens while the lock is held. -/
def UnpairContext.unpairLocked (context : UnpairContext) (expected : TvProfile) :
    StoreM PairingStoreError Unit := do
  let store ← context.prepareUnpair
  store.unpair expected

/-- `unpair_primary`. -/
def UnpairContext.unpairPrimary (context : UnpairContext) (expected : TvProfile) :
    StoreM PairingStoreError Unit := do
  if context.euid = 0 then throw .runningAsRoot
  else
    let _ ← ExceptT.mk StoreProgram.lock
    let result ← ExceptT.lift (context.unpairLocked expected).run
    ExceptT.lift StoreProgram.unlock
    StoreM.ofExcept result

end LgBuddy
