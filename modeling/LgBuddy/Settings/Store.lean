import LgBuddy.Machine.Program
import LgBuddy.Settings.Declarations

/-!
# LgBuddy — the settings store

`settings/store.rs`: the effective value of a setting, and a mutation of the config file that
changes one setting.

* `SettingsStore.effectiveDefinition` — declared, stored, stored under an older key, or a default;
* `SettingsMutation.set`, `unset` — a mutation, checked against what is in effect;
* `ConfigEnvEditor.unset`, `SettingsMutation.edit` — the edit of the lines;
* `SettingsCall` — what the code asks of the files and of the services;
* `persistSettingsMutation` — the edit of the file, under the lock;
* `SettingsChange.rollbackIfUnchanged` — the bytes before it, unless someone has written since.
-/

namespace LgBuddy.Settings

open LgBuddy

/-! ## Reading -/

inductive SettingSource where
  | declarative (source : DeclarativeSource)
  | default
  | configEnv
  | legacyConfigEnv
  | invalidConfigEnv
  | invalidLegacyConfigEnv
  | missing
  deriving DecidableEq, Repr

def SettingSource.invalid : SettingSource → SettingSource
  | .configEnv => .invalidConfigEnv
  | .legacyConfigEnv => .invalidLegacyConfigEnv
  | other => other

structure EffectiveSetting where
  definition : SettingDefinition
  value : Option SettingValue
  source : SettingSource
  invalidValue : Option Text
  deriving DecidableEq

structure SettingsStore where
  /-- Of the `ConfigEnvReader`. -/
  entries : List (Text × Text)
  declarations : Option Declarations

namespace SettingsStore

/-- The store of a config text. -/
def ofText (contents : Text) (declarations : Option Declarations) : SettingsStore :=
  ⟨parseConfigEntries contents, declarations⟩

/-- `raw_setting_value`. -/
def rawSettingValue (store : SettingsStore) (definition : SettingDefinition) :
    Option (Text × SettingSource) :=
  match entryValue store.entries definition.storageKey with
  | some value => some (value, .configEnv)
  | none =>
    (definition.fallbackStorageKeys.findSome? (entryValue store.entries)).map fun value =>
      (value, .legacyConfigEnv)

def effectiveDefinition (store : SettingsStore) (definition : SettingDefinition) :
    EffectiveSetting :=
  match store.declarations.bind fun declared =>
      (declared.value definition.key).map fun value => (declared, value) with
  | some (declared, value) => ⟨definition, some value, .declarative declared.source, none⟩
  | none =>
    match store.rawSettingValue definition with
    | some (rawValue, source) =>
      match definition.parseValue rawValue with
      | .ok value => ⟨definition, some value, source, none⟩
      | .error _ => ⟨definition, none, source.invalid, some rawValue⟩
    | none =>
      match definition.defaultValue with
      | some value => ⟨definition, some value, .default, none⟩
      | none => ⟨definition, none, .missing, none⟩

end SettingsStore

/-! ## Mutations -/

inductive SettingsMutationAction where
  | set
  | unset
  deriving DecidableEq, Repr

structure SettingsMutation where
  definition : SettingDefinition
  oldValue : Option SettingValue
  oldSource : SettingSource
  newValue : Option SettingValue
  action : SettingsMutationAction
  deriving DecidableEq

namespace SettingsMutation

/-- The path is that of the declarations, for the error. -/
def managed (store : SettingsStore) (key : String) (source : DeclarativeSource) : SettingsError :=
  .managedSetting key ((store.declarations.map Declarations.path).getD "") source

def set (store : SettingsStore) (key value : Text) : Except SettingsError SettingsMutation := do
  let definition ← getByName key
  definition.ensureOperationSupported .set
  let old := store.effectiveDefinition definition
  match old.source with
  | .declarative source => throw (managed store definition.key source)
  | _ =>
    let newValue ← definition.parseValue value
    return ⟨definition, old.value, old.source, some newValue, .set⟩

def unset (store : SettingsStore) (key : Text) : Except SettingsError SettingsMutation := do
  let definition ← getByName key
  definition.ensureOperationSupported .unset
  let old := store.effectiveDefinition definition
  match old.source with
  | .declarative source => throw (managed store definition.key source)
  | _ => return ⟨definition, old.value, old.source, definition.defaultValue, .unset⟩

/-- `new_value()`. -/
def requiredNewValue (mutation : SettingsMutation) : Except SettingsError SettingValue :=
  match mutation.newValue with
  | some value => .ok value
  | none => .error (.missingRequiredSetting mutation.definition.key)

/-- The effective setting that the change reports. -/
def effective (mutation : SettingsMutation) : EffectiveSetting where
  definition := mutation.definition
  value := mutation.newValue
  source :=
    match mutation.action with
    | .set => .configEnv
    | .unset => if mutation.newValue.isSome then .default else .missing
  invalidValue := none

end SettingsMutation

/-! ## Editing -/

end LgBuddy.Settings

namespace LgBuddy.ConfigEnvEditor

def unset (editor : ConfigEnvEditor) (storageKey : Text) : ConfigEnvEditor :=
  ⟨editor.lines.filter fun line => configLineKey line ≠ some storageKey⟩

/-- What `unset` returns. -/
def unsetChanges (editor : ConfigEnvEditor) (storageKey : Text) : Bool :=
  (editor.unset storageKey).lines.length ≠ editor.lines.length

/-- What `set` returns. -/
def setChanges (editor : ConfigEnvEditor) (storageKey value : Text) : Bool :=
  match editor.lastKeyIndex storageKey with
  | some index =>
    editor.lines[index]? ≠
      editor.lines[index]?.map fun line => replaceConfigLineValue line storageKey value
  | none => true

/-- One key after another, with whether anything changed. -/
def unsetAll (edit : Bool × ConfigEnvEditor) (storageKeys : List String) :
    Bool × ConfigEnvEditor :=
  storageKeys.foldl (fun edit storageKey =>
    (edit.1 || edit.2.unsetChanges storageKey.toList, edit.2.unset storageKey.toList)) edit

end LgBuddy.ConfigEnvEditor

namespace LgBuddy.Settings

/-- Whether the file changes, and what becomes of its lines. -/
def SettingsMutation.edit (mutation : SettingsMutation) (editor : ConfigEnvEditor) :
    Except SettingsError (Bool × ConfigEnvEditor) :=
  let storageKey := mutation.definition.storageKey.toList
  let fallbackKeys := mutation.definition.fallbackStorageKeys
  match mutation.action with
  | .set => do
    let newValue ← mutation.requiredNewValue
    return ConfigEnvEditor.unsetAll
      (editor.setChanges storageKey newValue.text, editor.set storageKey newValue.text)
      fallbackKeys
  | .unset =>
    .ok (ConfigEnvEditor.unsetAll (editor.unsetChanges storageKey, editor.unset storageKey)
      fallbackKeys)

/-! ## Calls -/

inductive UserServiceState where
  | missing
  | inactiveDisabled
  | activeOrEnabled
  deriving DecidableEq, Repr

inductive UserUnitEnableOutcome where
  | enabled
  | enabledStarted
  deriving DecidableEq, Repr

inductive SettingsCall where
  /-- `PairingLock::for_config`. -/
  | lock
  /-- The guard is dropped. -/
  | unlock
  /-- `fs::read` of the config; there is nothing to read where there is no file. -/
  | readConfig
  /-- `Declarations::load`. -/
  | loadDeclarations
  /-- All of `atomic_write_config` in front of its guard: a temporary file with these bytes. -/
  | stage (contents : List UInt8)
  /-- The rename. -/
  | publish
  /-- The temporary file is removed. -/
  | discard
  | removeConfig
  | systemdActionsDisabled
  | userServiceState (service : String)
  | restartUserService (service : String)
  | updateOwnership
  | enableStartUserUnit (unit : String)
  | disableStopUserUnit (unit : String)
  deriving DecidableEq, Repr

def SettingsCall.Answer : SettingsCall → Type
  | .lock | .stage _ | .publish | .removeConfig => Except IoError Unit
  | .unlock | .discard => Unit
  | .readConfig => Except IoError (Option (List UInt8))
  | .loadDeclarations => Except IoError (Option Declarations)
  | .systemdActionsDisabled => Bool
  | .userServiceState _ => Except SettingsError UserServiceState
  | .restartUserService _ | .disableStopUserUnit _ => Except SettingsError Unit
  | .updateOwnership => InstallationOwnership
  | .enableStartUserUnit _ => Except SettingsError UserUnitEnableOutcome

abbrev SettingsProgram := Program SettingsCall SettingsCall.Answer

abbrev SettingsM (E : Type) := ExceptT E SettingsProgram

namespace SettingsProgram

def lock : SettingsProgram (Except IoError Unit) := Program.perform SettingsCall.lock
def unlock : SettingsProgram Unit := Program.perform SettingsCall.unlock
def readConfig : SettingsProgram (Except IoError (Option (List UInt8))) :=
  Program.perform SettingsCall.readConfig
def loadDeclarations : SettingsProgram (Except IoError (Option Declarations)) :=
  Program.perform SettingsCall.loadDeclarations
def stage (contents : List UInt8) : SettingsProgram (Except IoError Unit) :=
  Program.perform (SettingsCall.stage contents)
def publish : SettingsProgram (Except IoError Unit) := Program.perform SettingsCall.publish
def discard : SettingsProgram Unit := Program.perform SettingsCall.discard
def removeConfig : SettingsProgram (Except IoError Unit) :=
  Program.perform SettingsCall.removeConfig
def systemdActionsDisabled : SettingsProgram Bool :=
  Program.perform SettingsCall.systemdActionsDisabled
def userServiceState (service : String) :
    SettingsProgram (Except SettingsError UserServiceState) :=
  Program.perform (SettingsCall.userServiceState service)
def restartUserService (service : String) : SettingsProgram (Except SettingsError Unit) :=
  Program.perform (SettingsCall.restartUserService service)
def updateOwnership : SettingsProgram InstallationOwnership :=
  Program.perform SettingsCall.updateOwnership
def enableStartUserUnit (unit : String) :
    SettingsProgram (Except SettingsError UserUnitEnableOutcome) :=
  Program.perform (SettingsCall.enableStartUserUnit unit)
def disableStopUserUnit (unit : String) : SettingsProgram (Except SettingsError Unit) :=
  Program.perform (SettingsCall.disableStopUserUnit unit)

end SettingsProgram

namespace SettingsM

/-- `map_err(f)?`. -/
def orElse {E E' α : Type} (p : SettingsProgram (Except E' α)) (f : E' → E) : SettingsM E α :=
  ExceptT.adapt f (ExceptT.mk p)

/-- `?` on a plain result. -/
def ofExcept {E α : Type} (result : Except E α) : SettingsM E α := ExceptT.mk (pure result)

/-- What is done while the lock is held, and then the guard is dropped. -/
def locked {E α : Type} (f : IoError → E) (body : SettingsM E α) : SettingsM E α := do
  SettingsM.orElse SettingsProgram.lock f
  let result ← ExceptT.lift body.run
  ExceptT.lift SettingsProgram.unlock
  SettingsM.ofExcept result

end SettingsM

/-! ## Files -/

/-- The path of the config, as errors show it. -/
structure ConfigPlace where
  path : String
  deriving DecidableEq, Repr

namespace ConfigPlace

variable (place : ConfigPlace)

def readError (err : IoError) : SettingsError := .readConfig place.path err.message

def writeError (err : IoError) : SettingsError := .writeConfig place.path err.message

def notUtf8 : IoError := ⟨"stream did not contain valid UTF-8"⟩

/-- The text of what was read; an absent file has none. -/
def textOf (original : Option (List UInt8)) : Except SettingsError Text :=
  match original with
  | none => .ok []
  | some bytes =>
    match Str.fromUtf8 bytes with
    | some text => .ok text
    | none => .error (place.readError notUtf8)

/-- `SettingsStore::load`. -/
def loadStore : SettingsM SettingsError SettingsStore := do
  let original ← SettingsM.orElse SettingsProgram.readConfig place.readError
  let contents ← SettingsM.ofExcept (place.textOf original)
  let declarations ← SettingsM.orElse SettingsProgram.loadDeclarations place.readError
  return SettingsStore.ofText contents declarations

/-- `ensure_mutable`. -/
def ensureMutable (key : String) : SettingsM SettingsError Unit := do
  let declarations ← SettingsM.orElse SettingsProgram.loadDeclarations place.readError
  SettingsM.ofExcept (Settings.ensureMutable declarations key)

/-- `validate_changes`. -/
def validateChanges (before after : List UInt8) : SettingsM IoError Unit := do
  let declarations ← ExceptT.mk SettingsProgram.loadDeclarations
  SettingsM.ofExcept (Settings.validateChanges declarations before after)

/-- The last steps of `atomic_write_config`; renaming is the very last. -/
def publishStaged (contents : List UInt8) : SettingsM IoError Unit := do
  let before ← ExceptT.mk SettingsProgram.readConfig
  validateChanges (before.getD []) contents
  ExceptT.mk SettingsProgram.publish

def atomicWriteConfig (contents : List UInt8) : SettingsM IoError Unit := do
  ExceptT.mk (SettingsProgram.stage contents)
  match ← ExceptT.lift (publishStaged contents).run with
  | .ok () => return ()
  | .error err =>
    ExceptT.lift SettingsProgram.discard
    throw err

/-- `save_locked`: `original` is what the editor has read. -/
def saveLocked (original : Option (List UInt8)) (editor : ConfigEnvEditor) :
    SettingsM IoError Unit := do
  let current ← ExceptT.mk SettingsProgram.readConfig
  if current ≠ original then
    throw ⟨"configuration changed since it was read; reload and retry"⟩
  else
    validateChanges (current.getD []) (Str.utf8Bytes editor.render)
    atomicWriteConfig (Str.utf8Bytes editor.render)

end ConfigPlace

/-! ## Changes -/

structure SettingsChange where
  mutation : SettingsMutation
  fileChanged : Bool
  effective : EffectiveSetting
  original : Option (List UInt8)
  published : Option (List UInt8)
  deriving DecidableEq

namespace ConfigPlace

variable (place : ConfigPlace)

/-- `persist_settings_mutation` while the lock is held. -/
def persistLocked (mutation : SettingsMutation) : SettingsM SettingsError SettingsChange := do
  place.ensureMutable mutation.definition.key
  let original ← SettingsM.orElse SettingsProgram.readConfig place.readError
  let contents ← SettingsM.ofExcept (place.textOf original)
  let edit ← SettingsM.ofExcept (mutation.edit (ConfigEnvEditor.parse contents))
  if edit.1 then ExceptT.adapt place.writeError (saveLocked original edit.2)
  return {
    mutation
    fileChanged := edit.1
    effective := mutation.effective
    original
    published := some (Str.utf8Bytes edit.2.render)
  }

def persistSettingsMutation (mutation : SettingsMutation) :
    SettingsM SettingsError SettingsChange :=
  SettingsM.locked place.writeError (place.persistLocked mutation)

/-- `rollback_if_unchanged` while the lock is held. -/
def rollbackLocked (change : SettingsChange) : SettingsM IoError Unit := do
  let current ← ExceptT.mk SettingsProgram.readConfig
  if current ≠ change.published then
    throw ⟨"configuration changed after activation; refusing to overwrite it"⟩
  else
    match change.original with
    | some bytes => atomicWriteConfig bytes
    | none => ExceptT.mk SettingsProgram.removeConfig

def rollbackIfUnchanged (change : SettingsChange) : SettingsM SettingsError Unit :=
  SettingsM.locked place.writeError (ExceptT.adapt place.writeError (rollbackLocked change))

end ConfigPlace

end LgBuddy.Settings
