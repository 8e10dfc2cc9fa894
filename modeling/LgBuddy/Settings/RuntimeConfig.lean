import LgBuddy.Inhibition.Gate
import LgBuddy.Settings.ConfigEnv
import LgBuddy.Text.Decimal

/-!
# LgBuddy — the configuration that the runtime reads

`config.rs`: the profile of the primary TV and the policies, read from a config text.

* `ScreenBackend.parse`, `ScreenRestorePolicy.parse`, … — the values by name;
* `parseIdleTimeoutSecs` — a number of seconds, brought into its range;
* `requiredConfigValue` — a value under its key or under an older one;
* `parseConfig` — all of it. What the TV needs must be there and valid; any policy that cannot be
  read has its default.
-/

namespace LgBuddy

/-! ## Numbers -/

/-- ASCII digits, at least one. -/
def parseDigits (digits : Text) : Option Nat :=
  if digits ≠ [] ∧ digits.all Char.isDigit then some (Decimal.value digits) else none

/-- `str::parse::<u128>`. -/
def parseU128 : Text → Option Nat
  | '+' :: digits => (parseDigits digits).filter (· < 2 ^ 128)
  | digits => (parseDigits digits).filter (· < 2 ^ 128)

def defaultIdleTimeout : Nat := 300

def maxIdleTimeout : Nat := 86400

def normalizeIdleTimeoutSecs (idleTimeoutSecs : Nat) : Nat :=
  if idleTimeoutSecs = 0 then defaultIdleTimeout
  else if idleTimeoutSecs > maxIdleTimeout then maxIdleTimeout
  else idleTimeoutSecs

def parseIdleTimeoutSecs (value : Text) : Option Nat :=
  (parseU128 value).map normalizeIdleTimeoutSecs

/-! ## Policies -/

inductive ScreenBackend where
  | auto
  | gnome
  | wayland
  deriving DecidableEq, Repr

def ScreenBackend.asStr : ScreenBackend → String
  | .auto => "auto"
  | .gnome => "gnome"
  | .wayland => "wayland"

def ScreenBackend.parse (value : Text) : Option ScreenBackend :=
  [ScreenBackend.auto, .gnome, .wayland].find? fun backend => backend.asStr.toList = value

def ScreenRestorePolicy.parse (value : Text) : Option ScreenRestorePolicy :=
  if value = "marker_only".toList ∨ value = "conservative".toList then some .markerOnly
  else if value = "aggressive".toList then some .aggressive
  else none

def ScreenIdleBlankPolicy.parse (value : Text) : Option ScreenIdleBlankPolicy :=
  if value = "enabled".toList then some .enabled
  else if value = "disabled".toList then some .disabled
  else none

def ScreenHonorIdleInhibitorsPolicy.parse (value : Text) :
    Option ScreenHonorIdleInhibitorsPolicy :=
  if value = "enabled".toList then some .enabled
  else if value = "disabled".toList then some .disabled
  else none

def SystemSleepWakePolicy.parse (value : Text) : Option SystemSleepWakePolicy :=
  if value = "enabled".toList then some .enabled
  else if value = "disabled".toList then some .disabled
  else none

/-! ## The whole configuration -/

/-- `config::Config`. -/
structure RuntimeConfig where
  tvIp : Ipv4Addr
  tvMac : MacAddress
  input : HdmiInput
  tvPlatform : TvPlatform
  screenBackend : ScreenBackend
  /-- In seconds. -/
  screenIdleTimeout : Nat
  screenRestorePolicy : ScreenRestorePolicy
  screenIdleBlank : ScreenIdleBlankPolicy
  screenHonorIdleInhibitors : ScreenHonorIdleInhibitorsPolicy
  systemSleepWakePolicy : SystemSleepWakePolicy
  deriving DecidableEq

/-- The errors of `parse_config`. -/
inductive ConfigError where
  | missingRequiredKey (key : String)
  | invalidValue (key : String) (value : Text) (expected : String)
  deriving DecidableEq, Repr

def requiredConfigValue (entries : List (Text × Text)) (primaryKey : String)
    (fallbackKeys : List String) : Option Text :=
  (entryValue entries primaryKey).or (fallbackKeys.findSome? (entryValue entries))

/-- A value that must be there and must be valid. -/
def requiredConfig {α : Type} (entries : List (Text × Text)) (primaryKey : String)
    (fallbackKeys : List String) (parse : Text → Option α) (expected : String) :
    Except ConfigError α :=
  match requiredConfigValue entries primaryKey fallbackKeys with
  | none => .error (.missingRequiredKey primaryKey)
  | some value =>
    match parse value with
    | some parsed => .ok parsed
    | none => .error (.invalidValue primaryKey value expected)

/-- A value that has a default where it is missing or not valid. -/
def configOr {α : Type} (entries : List (Text × Text)) (key : String) (parse : Text → Option α)
    (default : α) : α :=
  ((entryValue entries key).bind parse).getD default

/-- The platform has a default, but an unknown one is an error. -/
def configPlatform (entries : List (Text × Text)) : Except ConfigError TvPlatform :=
  match entryValue entries "tvs_primary_platform" with
  | none => .ok TvPlatform.default
  | some value =>
    match TvPlatform.parse value with
    | some platform => .ok platform
    | none => .error (.invalidValue "tvs_primary_platform" value "one of bscpylgtv, lg_webos")

def parseConfig (contents : Text) : Except ConfigError RuntimeConfig := do
  let entries := parseConfigEntries contents
  let tvIp ← requiredConfig entries "tvs_primary_ip" ["tv_ip"] Ipv4Addr.parse "an IPv4 address"
  let tvMac ← requiredConfig entries "tvs_primary_mac" ["tv_mac"] MacAddress.parse
    "a MAC address like aa:bb:cc:dd:ee:ff"
  let input ← requiredConfig entries "tvs_primary_input" ["input"] HdmiInput.parse
    "one of HDMI_1, HDMI_2, HDMI_3, HDMI_4"
  let tvPlatform ← configPlatform entries
  return {
    tvIp
    tvMac
    input
    tvPlatform
    screenBackend := configOr entries "screen_backend" ScreenBackend.parse .auto
    screenIdleTimeout :=
      configOr entries "screen_idle_timeout" parseIdleTimeoutSecs defaultIdleTimeout
    screenRestorePolicy :=
      configOr entries "screen_restore_policy" ScreenRestorePolicy.parse .markerOnly
    screenIdleBlank := configOr entries "screen_idle_blank" ScreenIdleBlankPolicy.parse .enabled
    screenHonorIdleInhibitors :=
      configOr entries "screen_honor_idle_inhibitors" ScreenHonorIdleInhibitorsPolicy.parse
        .disabled
    systemSleepWakePolicy :=
      configOr entries "system_sleep_wake_policy" SystemSleepWakePolicy.parse .enabled
  }

/-! ## Entries -/

theorem entryValue_eq_none {entries : List (Text × Text)} {key : String} :
    entryValue entries key = none ↔ ∀ entry ∈ entries, entry.1 ≠ key.toList := by
  unfold entryValue
  rw [Option.map_eq_none_iff, List.find?_eq_none]
  simp

/-- Without an address nothing else is looked at. -/
theorem parseConfig_without_ip {contents : Text}
    (hip : entryValue (parseConfigEntries contents) "tvs_primary_ip" = none)
    (hold : entryValue (parseConfigEntries contents) "tv_ip" = none) :
    parseConfig contents = .error (.missingRequiredKey "tvs_primary_ip") := by
  have hmissing : requiredConfigValue (parseConfigEntries contents) "tvs_primary_ip" ["tv_ip"]
      = none := by
    simp [requiredConfigValue, hip, hold]
  have herror : requiredConfig (parseConfigEntries contents) "tvs_primary_ip" ["tv_ip"]
      Ipv4Addr.parse "an IPv4 address" = .error (.missingRequiredKey "tvs_primary_ip") := by
    rw [requiredConfig, hmissing]
  unfold parseConfig
  dsimp only
  rw [herror]
  rfl

end LgBuddy
