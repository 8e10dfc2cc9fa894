import LgBuddy.Settings.RuntimeConfig
import LgBuddy.Settings.View

/-!
# LgBuddy — the settings

`settings/model.rs` and the definitions in `settings/tv.rs`, `screen.rs`, `system.rs` and
`updates.rs`: the settings that there are, and the values that each of them takes.

* `SettingValue.text` — how a value is written;
* `SettingType.parseValue` — how it is read, where an enumeration has aliases and an integer is
  brought below its maximum;
* `SettingDefinition`, `settingsRegistry` — the settings;
* `getByName` — a setting by its public key.
-/

namespace LgBuddy.Settings

open LgBuddy

/-! ## Values -/

inductive SettingValue where
  | enum (value : String)
  /-- An `i64`. -/
  | integer (value : Int)
  | ipv4 (value : Ipv4Addr)
  | macAddress (value : MacAddress)
  deriving DecidableEq

namespace SettingValue

def asEnum : SettingValue → Option String
  | .enum value => some value
  | .integer _ | .ipv4 _ | .macAddress _ => none

/-- `Display`. -/
def text : SettingValue → Text
  | .enum value => value.toList
  | .integer value => (toString value).toList
  | .ipv4 value => Ipv4Addr.text value
  | .macAddress value => MacAddress.text value

end SettingValue

/-! ## Errors -/

inductive SettingOperation where
  | get
  | describe
  | set
  | unset
  deriving DecidableEq, Repr

def SettingOperation.asStr : SettingOperation → String
  | .get => "get"
  | .describe => "describe"
  | .set => "set"
  | .unset => "unset"

/-- With the path of the config or of its declarations as `path`, where there is one. -/
inductive SettingsError where
  | managedSetting (key path : String) (source : DeclarativeSource)
  | readConfig (path message : String)
  | writeConfig (path message : String)
  | apply (message : String)
  | activation (message : String)
  | applyAfterPersist (key path message : String)
  | invalidKey (key : Text) (reason : String)
  | unknownKey (key : Text)
  | invalidValue (key : String) (value : Text) (expected : String)
  | missingRequiredSetting (key : String)
  | unsupportedOperation (key : String) (operation : SettingOperation)
  deriving DecidableEq, Repr

instance : ToString SettingsError where
  toString
    | .managedSetting key path _ =>
      s!"setting `{key}` is managed declaratively by {path}; change the owning declarative "
        ++ "configuration and activate it, or remove its declaration before editing it here"
    | .readConfig path message => s!"could not read settings config `{path}`: {message}"
    | .writeConfig path message => s!"could not write settings config `{path}`: {message}"
    | .apply message | .activation message => message
    | .applyAfterPersist key path message =>
      s!"setting `{key}` was saved to `{path}` but could not be applied: {message}. "
        ++ "Restart LG Buddy or rerun the command after fixing the apply error."
    | .invalidKey key reason => s!"invalid setting key `{String.ofList key}`: {reason}"
    | .unknownKey key => s!"unknown setting `{String.ofList key}`"
    | .invalidValue key value expected =>
      s!"invalid value for setting `{key}`: `{String.ofList value}`; expected {expected}"
    | .missingRequiredSetting key => s!"required setting `{key}` is not configured"
    | .unsupportedOperation key operation =>
      s!"setting `{key}` does not support `{operation.asStr}`"

/-! ## Types -/

structure SettingAlias where
  fromName : String
  toName : String
  deriving DecidableEq, Repr

structure EnumSettingType where
  values : List String
  aliases : List SettingAlias
  deriving DecidableEq, Repr

namespace EnumSettingType

def canonicalize (enumType : EnumSettingType) (value : Text) : Option String :=
  match enumType.values.find? (fun allowed => allowed.toList = value) with
  | some canonical => some canonical
  | none =>
    (enumType.aliases.find? fun pair => pair.fromName.toList = value).map SettingAlias.toName

def expected (enumType : EnumSettingType) : String :=
  "one of " ++ ", ".intercalate enumType.values

end EnumSettingType

structure IntegerSettingType where
  min : Int
  max : Int
  deriving DecidableEq, Repr

namespace IntegerSettingType

def accepts (integerType : IntegerSettingType) (value : Int) : Bool := integerType.min ≤ value

def coerce (integerType : IntegerSettingType) (value : Int) : Int :=
  if integerType.max < value then integerType.max else value

def expected (integerType : IntegerSettingType) : String :=
  s!"an integer from {integerType.min} to {integerType.max}"

end IntegerSettingType

inductive SettingType where
  | enum (enumType : EnumSettingType)
  | integer (integerType : IntegerSettingType)
  | ipv4
  | macAddress
  deriving DecidableEq, Repr

/-- `str::parse::<i128>`. -/
def parseI128 : Text → Option Int
  | '-' :: digits => (parseDigits digits).bind fun n => if n ≤ 2 ^ 127 then some (-n) else none
  | '+' :: digits => (parseDigits digits).bind fun n => if n < 2 ^ 127 then some n else none
  | digits => (parseDigits digits).bind fun n => if n < 2 ^ 127 then some n else none

namespace SettingType

def expected : SettingType → String
  | .enum enumType => enumType.expected
  | .integer integerType => integerType.expected
  | .ipv4 => "an IPv4 address"
  | .macAddress => "a MAC address like aa:bb:cc:dd:ee:ff"

/-- The value, if there is one. -/
def read (valueType : SettingType) (value : Text) : Option SettingValue :=
  match valueType with
  | .enum enumType => (enumType.canonicalize value).map .enum
  | .integer integerType =>
    ((parseI128 value).filter integerType.accepts).map fun parsed =>
      .integer (integerType.coerce parsed)
  | .ipv4 => (Ipv4Addr.parse value).map .ipv4
  | .macAddress => (MacAddress.parse value).map .macAddress

def parseValue (valueType : SettingType) (key : String) (value : Text) :
    Except SettingsError SettingValue :=
  match valueType.read value with
  | some parsed => .ok parsed
  | none => .error (.invalidValue key value valueType.expected)

end SettingType

/-! ## Definitions -/

inductive SettingMutability where
  | readOnly
  | readWrite
  deriving DecidableEq, Repr

inductive ApplyStrategy where
  | restartUserScreenService
  | manageUpdateCheckTimer
  | runtimePolicyOnly
  | noRuntimeApplyRequired
  deriving DecidableEq, Repr

structure SettingDefinition where
  key : String
  storageKey : String
  fallbackStorageKeys : List String
  valueType : SettingType
  defaultValue : Option SettingValue
  mutability : SettingMutability
  operations : List SettingOperation
  applyStrategy : ApplyStrategy
  deriving DecidableEq

namespace SettingDefinition

def parseValue (definition : SettingDefinition) (value : Text) :
    Except SettingsError SettingValue :=
  definition.valueType.parseValue definition.key value

def ensureOperationSupported (definition : SettingDefinition) (operation : SettingOperation) :
    Except SettingsError Unit :=
  if operation ∈ definition.operations then .ok ()
  else .error (.unsupportedOperation definition.key operation)

/-- The keys under which a setting may be stored. -/
def storageKeys (definition : SettingDefinition) : List String :=
  definition.storageKey :: definition.fallbackStorageKeys

end SettingDefinition

def readWriteOperations : List SettingOperation := [.get, .describe, .set, .unset]

def readSetOperations : List SettingOperation := [.get, .describe, .set]

def tvIp : SettingDefinition where
  key := "tv.ip"
  storageKey := "tvs_primary_ip"
  fallbackStorageKeys := ["tv_ip"]
  valueType := .ipv4
  defaultValue := none
  mutability := .readWrite
  operations := readSetOperations
  applyStrategy := .noRuntimeApplyRequired

def tvMac : SettingDefinition where
  key := "tv.mac"
  storageKey := "tvs_primary_mac"
  fallbackStorageKeys := ["tv_mac"]
  valueType := .macAddress
  defaultValue := none
  mutability := .readWrite
  operations := readSetOperations
  applyStrategy := .noRuntimeApplyRequired

def tvInput : SettingDefinition where
  key := "tv.input"
  storageKey := "tvs_primary_input"
  fallbackStorageKeys := ["input"]
  valueType := .enum ⟨["HDMI_1", "HDMI_2", "HDMI_3", "HDMI_4"], []⟩
  defaultValue := none
  mutability := .readWrite
  operations := readSetOperations
  applyStrategy := .noRuntimeApplyRequired

def tvPlatform : SettingDefinition where
  key := "tv.platform"
  storageKey := "tvs_primary_platform"
  fallbackStorageKeys := []
  valueType := .enum ⟨["bscpylgtv", "lg_webos"], []⟩
  defaultValue := some (.enum "bscpylgtv")
  mutability := .readWrite
  operations := readSetOperations
  applyStrategy := .noRuntimeApplyRequired

def screenBackend : SettingDefinition where
  key := "screen.backend"
  storageKey := "screen_backend"
  fallbackStorageKeys := []
  valueType := .enum ⟨["auto", "gnome", "wayland"], []⟩
  defaultValue := some (.enum "auto")
  mutability := .readWrite
  operations := readWriteOperations
  applyStrategy := .restartUserScreenService

def screenIdleBlank : SettingDefinition where
  key := "screen.idle_blank"
  storageKey := "screen_idle_blank"
  fallbackStorageKeys := []
  valueType := .enum ⟨["enabled", "disabled"], []⟩
  defaultValue := some (.enum "enabled")
  mutability := .readWrite
  operations := readWriteOperations
  applyStrategy := .restartUserScreenService

def screenHonorIdleInhibitors : SettingDefinition where
  key := "screen.honor_idle_inhibitors"
  storageKey := "screen_honor_idle_inhibitors"
  fallbackStorageKeys := []
  valueType := .enum ⟨["enabled", "disabled"], []⟩
  defaultValue := some (.enum "disabled")
  mutability := .readWrite
  operations := readWriteOperations
  applyStrategy := .restartUserScreenService

def screenIdleTimeout : SettingDefinition where
  key := "screen.idle_timeout"
  storageKey := "screen_idle_timeout"
  fallbackStorageKeys := []
  valueType := .integer ⟨1, maxIdleTimeout⟩
  defaultValue := some (.integer defaultIdleTimeout)
  mutability := .readWrite
  operations := readWriteOperations
  applyStrategy := .restartUserScreenService

def screenRestorePolicy : SettingDefinition where
  key := "screen.restore_policy"
  storageKey := "screen_restore_policy"
  fallbackStorageKeys := []
  valueType := .enum ⟨["conservative", "aggressive"], [⟨"marker_only", "conservative"⟩]⟩
  defaultValue := some (.enum "conservative")
  mutability := .readWrite
  operations := readWriteOperations
  applyStrategy := .restartUserScreenService

def systemSleepWakePolicy : SettingDefinition where
  key := "system.sleep_wake_policy"
  storageKey := "system_sleep_wake_policy"
  fallbackStorageKeys := []
  valueType := .enum ⟨["enabled", "disabled"], []⟩
  defaultValue := some (.enum "enabled")
  mutability := .readWrite
  operations := readWriteOperations
  applyStrategy := .runtimePolicyOnly

def updatesAutoCheck : SettingDefinition where
  key := "updates.auto_check"
  storageKey := "updates_auto_check"
  fallbackStorageKeys := []
  valueType := .enum ⟨["enabled", "disabled"], []⟩
  defaultValue := some (.enum "enabled")
  mutability := .readWrite
  operations := readWriteOperations
  applyStrategy := .manageUpdateCheckTimer

def updatesChannel : SettingDefinition where
  key := "updates.channel"
  storageKey := "updates_channel"
  fallbackStorageKeys := []
  valueType := .enum ⟨["stable", "prerelease"], []⟩
  defaultValue := some (.enum "stable")
  mutability := .readWrite
  operations := readWriteOperations
  applyStrategy := .runtimePolicyOnly

/-! ## The registry -/

def settingsRegistry : List SettingDefinition :=
  [tvIp, tvMac, tvInput, tvPlatform, screenBackend, screenIdleBlank, screenHonorIdleInhibitors,
    screenIdleTimeout, screenRestorePolicy, systemSleepWakePolicy, updatesAutoCheck,
    updatesChannel]

/-- The loop: whether the last character was a dot, and whether there has been one. -/
def validateSettingKeyFrom (lastWasDot hasDot : Bool) : Text → Except String Unit
  | [] =>
    if lastWasDot then .error "must not end with a dot"
    else if !hasDot then .error "must contain at least one dot"
    else .ok ()
  | c :: rest =>
    if c.isLower || c.isDigit || c = '_' then validateSettingKeyFrom false hasDot rest
    else if c = '.' then
      if !lastWasDot then validateSettingKeyFrom true true rest
      else .error "must not contain empty segments"
    else
      .error "must contain only ASCII lowercase letters, digits, underscores, and dots"

def validateSettingKey (value : Text) : Except String Unit :=
  if value.isEmpty then .error "must not be empty" else validateSettingKeyFrom true false value

def getByName (key : Text) : Except SettingsError SettingDefinition :=
  match validateSettingKey key with
  | .error reason => .error (.invalidKey key reason)
  | .ok () =>
    match settingsRegistry.find? fun definition => definition.key.toList = key with
    | some definition => .ok definition
    | none => .error (.unknownKey key)

end LgBuddy.Settings
