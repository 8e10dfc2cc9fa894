import Mathlib.Data.Fin.VecNotation

/-!
# LgBuddy — the TV and its configuration

The values of `tv.rs`, `config.rs` and `events.rs` that the lifecycle handlers read:

* `HdmiInput`, `CurrentInput` — the configured input, and what the TV reports;
* `Percent` — brightness and volume;
* `TvError` — every TV command fails with an operation, a kind and a detail;
* `Config` — the loaded profile;
* `RuntimeEvent`, `LifecycleEvent` — what a handler is called with.
-/

namespace LgBuddy

/-! ## Inputs -/

inductive HdmiInput where
  | hdmi1
  | hdmi2
  | hdmi3
  | hdmi4
  deriving DecidableEq, Repr

def HdmiInput.asStr : HdmiInput → String
  | .hdmi1 => "HDMI_1"
  | .hdmi2 => "HDMI_2"
  | .hdmi3 => "HDMI_3"
  | .hdmi4 => "HDMI_4"

def HdmiInput.fromAppId (value : String) : Option HdmiInput :=
  match value with
  | "com.webos.app.hdmi1" => some .hdmi1
  | "com.webos.app.hdmi2" => some .hdmi2
  | "com.webos.app.hdmi3" => some .hdmi3
  | "com.webos.app.hdmi4" => some .hdmi4
  | _ => none

/-- The app in the foreground, which is an HDMI input or something else. -/
inductive CurrentInput where
  | hdmi (input : HdmiInput)
  | other (value : String)
  deriving DecidableEq, Repr

namespace CurrentInput

def fromRaw (value : String) : CurrentInput :=
  match HdmiInput.fromAppId value with
  | some input => .hdmi input
  | none => .other value

def isHdmi (current : CurrentInput) (input : HdmiInput) : Bool :=
  match current with
  | .hdmi i => i = input
  | .other _ => false

instance : ToString CurrentInput where
  toString
    | .hdmi input => input.asStr
    | .other value => value

end CurrentInput

/-! ## Levels -/

/-- A `u8` from 0 to 100. -/
structure Percent where
  asPercent : Nat
  le : asPercent ≤ 100
  deriving DecidableEq, Repr

def Percent.new (value : Nat) : Option Percent :=
  if h : value ≤ 100 then some ⟨value, h⟩ else none

instance : ToString Percent where
  toString p := toString p.asPercent

abbrev OledBrightness := Percent

def OledBrightness.new (value : Nat) : Except String OledBrightness :=
  match Percent.new value with
  | some brightness => .ok brightness
  | none => .error s!"invalid OLED brightness `{value}`; expected an integer from 0 to 100"

abbrev VolumeLevel := Percent

def VolumeLevel.new (value : Nat) : Except String VolumeLevel :=
  match Percent.new value with
  | some volume => .ok volume
  | none => .error s!"invalid volume `{value}`; expected an integer from 0 to 100"

inductive CurrentVolume where
  | level (volume : VolumeLevel)
  | unknown
  deriving DecidableEq, Repr

structure AudioStatus where
  volume : CurrentVolume
  muted : Bool
  deriving DecidableEq, Repr

/-! ## Errors of TV commands -/

inductive TvOperation where
  | readModelName
  | readInput
  | setInput
  | readOledBrightness
  | setOledBrightness
  | readAudioStatus
  | setVolume
  | volumeUp
  | volumeDown
  | setMuted
  | powerOff
  | blankScreen
  | unblankScreen
  deriving DecidableEq, Repr

def TvOperation.asStr : TvOperation → String
  | .readModelName => "read model name"
  | .readInput => "read input"
  | .setInput => "set input"
  | .readOledBrightness => "read OLED brightness"
  | .setOledBrightness => "set OLED brightness"
  | .readAudioStatus => "read audio status"
  | .setVolume => "set volume"
  | .volumeUp => "increase volume"
  | .volumeDown => "decrease volume"
  | .setMuted => "set mute"
  | .powerOff => "power off"
  | .blankScreen => "blank screen"
  | .unblankScreen => "unblank screen"

inductive TvErrorKind where
  | transport
  | authentication
  | rejected
  | invalidResponse
  | screenNotVisible
  | internal
  deriving DecidableEq, Repr

structure TvError where
  operation : TvOperation
  kind : TvErrorKind
  detail : String
  deriving DecidableEq, Repr

instance : ToString TvError where
  toString err := s!"could not {err.operation.asStr}: {err.detail}"

/-! ## Configuration -/

structure Ipv4Addr where
  octets : Fin 4 → UInt8

instance : ToString Ipv4Addr where
  toString ip := s!"{ip.octets 0}.{ip.octets 1}.{ip.octets 2}.{ip.octets 3}"

structure MacAddress where
  octets : Fin 6 → UInt8

inductive TvPlatform where
  | bscpylgtv
  | lgWebOs
  deriving DecidableEq, Repr

inductive ScreenRestorePolicy where
  | markerOnly
  | aggressive
  deriving DecidableEq, Repr

inductive SystemSleepWakePolicy where
  | enabled
  | disabled
  deriving DecidableEq, Repr

def SystemSleepWakePolicy.isEnabled : SystemSleepWakePolicy → Bool
  | .enabled => true
  | .disabled => false

/-- The fields that the lifecycle handlers read. -/
structure Config where
  tvIp : Ipv4Addr
  tvMac : MacAddress
  input : HdmiInput
  screenRestorePolicy : ScreenRestorePolicy
  systemSleepWakePolicy : SystemSleepWakePolicy

/-- A profile for concrete runs. -/
def Config.sample : Config where
  tvIp := ⟨![192, 168, 1, 20]⟩
  tvMac := ⟨fun _ => 0⟩
  input := .hdmi1
  screenRestorePolicy := .markerOnly
  systemSleepWakePolicy := .enabled

/-! ## Events -/

inductive StartupMode where
  | auto
  | boot
  | wake
  deriving DecidableEq, Repr

inductive EventSource where
  | cliApi
  | linuxLogind
  | linuxNetworkManager
  | linuxSystemd
  | linuxDpms
  | desktopSession
  | auxiliaryInput
  | futurePlatform
  deriving DecidableEq, Repr

inductive RuntimeEventKind where
  | machineStartup (mode : StartupMode)
  | machineShutdownRequested
  | machinePreparingForSleep
  | machineResumed
  | networkTeardownImminent (machineSleepPending : Option Bool)
  | sessionIdle
  | sessionTimedPowerOff
  | sessionActive
  | sessionLocked
  | sessionUnlocked
  | screenWakeRequested
  | userActivityObserved
  | screenBlankRequested
  | screenRestoreRequested
  | brightnessRequested
  | volumeRequested
  deriving DecidableEq, Repr

structure RuntimeEvent where
  source : EventSource
  kind : RuntimeEventKind
  deriving DecidableEq, Repr

namespace RuntimeEvent

def fromLogindPrepareForSleep (preparing : Bool) : RuntimeEvent :=
  ⟨.linuxLogind, if preparing then .machinePreparingForSleep else .machineResumed⟩

def networkTeardownImminent (machineSleepPending : Option Bool) : RuntimeEvent :=
  ⟨.linuxNetworkManager, .networkTeardownImminent machineSleepPending⟩

end RuntimeEvent

inductive LifecycleEvent where
  | startup (mode : StartupMode)
  | shutdownRequested
  | networkTeardownImminent (machineSleepPending : Option Bool)
  | machinePreparingForSleep
  | machineResumed
  deriving DecidableEq, Repr

def LifecycleEvent.fromRuntimeEvent (event : RuntimeEvent) : Option LifecycleEvent :=
  match event.kind with
  | .machineStartup mode => some (.startup mode)
  | .machineShutdownRequested => some .shutdownRequested
  | .networkTeardownImminent pending => some (.networkTeardownImminent pending)
  | .machinePreparingForSleep => some .machinePreparingForSleep
  | .machineResumed => some .machineResumed
  | .sessionIdle | .sessionTimedPowerOff | .sessionActive | .sessionLocked | .sessionUnlocked
  | .screenWakeRequested | .userActivityObserved | .screenBlankRequested
  | .screenRestoreRequested | .brightnessRequested | .volumeRequested => none

end LgBuddy
