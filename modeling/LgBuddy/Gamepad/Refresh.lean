import LgBuddy.Gamepad.Readers

/-!
# LgBuddy — the gamepad activity source

`session/gamepad/mod.rs`: the set of open readers, how a discovery changes it, and a poll of all of
them.

* `openGamepadActivitySource`, `refreshGamepadActivitySource` — the readers for a discovery, at the
  start and later; the answers of the kernel to each opening are parameters;
* `SystemGamepadActivitySource.pollOnce` — a read of every reader.

None as a result is an overflow in the detector of an axis.
-/

namespace LgBuddy

structure GamepadActivityRefresh where
  diagnostics : List String
  retryRequested : Bool
  deriving DecidableEq, Repr

structure GamepadActivityPoll where
  activity : Bool
  diagnostics : List String
  deriving DecidableEq, Repr

structure SystemGamepadActivitySource where
  readers : List GamepadDeviceReader
  adapterReaders : List LogitechG923ActivityReader
  registry : ActivityRegistry

structure GamepadActivitySourceSetup where
  source : Option SystemGamepadActivitySource
  diagnostics : List String
  retryRequested : Bool

/-- What the kernel answers to each opening. -/
structure Openings where
  device : GamepadDevice → Except String OpenedDevice
  surface : LogitechG923ActivityReaderSpec → Except String Nat

/-- What the kernel answers to each read. -/
structure Reads where
  device : GamepadDeviceReader → FetchEvents
  surface : LogitechG923ActivityReader → Except String (List (List UInt8))

/-! ## Observing -/

/-- Events one after another: has any of them been activity? -/
def ActivityRegistry.observeEvents (now : Instant) : ActivityRegistry → List RawGamepadEvent →
    Option (ActivityRegistry × Bool)
  | registry, [] => some (registry, false)
  | registry, event :: rest => do
    let (registry, active) ← registry.observe event now
    let (registry, others) ← observeEvents now registry rest
    return (registry, active || others)

def seedInitialAxisEvents (registry : ActivityRegistry) (reader : GamepadDeviceReader)
    (now : Instant) : Option (ActivityRegistry × GamepadDeviceReader) := do
  let (registry, _) ← registry.observeEvents now reader.initialAxisEvents
  return (registry, { reader with initialAxisEvents := [] })

/-! ## Polling -/

/-- What a poll of some readers gives. -/
structure Polled (ρ : Type) where
  registry : ActivityRegistry
  kept : List ρ
  activity : Bool
  diagnostics : List String

def pollReaders (fetch : GamepadDeviceReader → FetchEvents) (now : Instant) :
    ActivityRegistry → List GamepadDeviceReader → Option (Polled GamepadDeviceReader)
  | registry, [] => some ⟨registry, [], false, []⟩
  | registry, reader :: rest =>
    match reader.readAvailable (fetch reader) with
    | .ok events => do
      let (registry, active) ← registry.observeEvents now events
      let polled ← pollReaders fetch now registry rest
      return { polled with
        kept := reader :: polled.kept
        activity := active || polled.activity }
    | .error err => do
      let polled ← pollReaders fetch now (registry.removeDevice reader.deviceId) rest
      return { polled with
        diagnostics :=
          s!"gamepad device `{reader.deviceId.value}` stopped producing activity events: {err}"
            :: polled.diagnostics }

def pollAdapterReaders (read : LogitechG923ActivityReader → Except String (List (List UInt8)))
    (now : Instant) : ActivityRegistry → List LogitechG923ActivityReader →
      Option (Polled LogitechG923ActivityReader)
  | registry, [] => some ⟨registry, [], false, []⟩
  | registry, reader :: rest =>
    match reader.readAvailable (read reader) with
    | .ok (reader, events) => do
      let (registry, active) ← registry.observeEvents now events
      let polled ← pollAdapterReaders read now registry rest
      return { polled with
        kept := reader :: polled.kept
        activity := active || polled.activity }
    | .error err => do
      let polled ← pollAdapterReaders read now registry rest
      return { polled with
        diagnostics :=
          s!"gamepad adapter reader `{reader.key.text}` stopped producing activity events: {err}"
            :: polled.diagnostics }

def SystemGamepadActivitySource.pollOnce (source : SystemGamepadActivitySource) (reads : Reads)
    (now : Instant) : Option (SystemGamepadActivitySource × GamepadActivityPoll) := do
  let devices ← pollReaders reads.device now source.registry source.readers
  let adapters ← pollAdapterReaders reads.surface now devices.registry source.adapterReaders
  return (⟨devices.kept, adapters.kept, adapters.registry⟩,
    { activity := devices.activity || adapters.activity
      diagnostics := devices.diagnostics ++ adapters.diagnostics })

/-! ## Opening -/

/-- What a pass over surfaces gives: the new readers with their keys, the openings that failed,
and all surfaces that were opened or tried. -/
structure AdapterPass where
  readers : List LogitechG923ActivityReader := []
  added : List String := []
  failures : List String := []
  opened : List ActivityReaderKey := []

def openAdapterReaders (existing : List ActivityReaderKey)
    (answer : LogitechG923ActivityReaderSpec → Except String Nat) :
    List LogitechG923ActivityReaderSpec → AdapterPass
  | [] => {}
  | spec :: rest =>
    let pass := openAdapterReaders existing answer rest
    if spec.key ∈ existing then pass
    else
      let pass := { pass with opened := spec.key :: pass.opened }
      match spec.open (answer spec) with
      | .ok reader => { pass with
          readers := reader :: pass.readers
          added := spec.key.text :: pass.added }
      | .error err => { pass with failures := s!"{spec.key.text}: {err}" :: pass.failures }

/-- The same for devices. -/
structure DevicePass where
  registry : ActivityRegistry
  readers : List GamepadDeviceReader := []
  added : List String := []
  failures : List String := []
  opened : List DeviceId := []

def openDeviceReaders (existing : List DeviceId)
    (answer : GamepadDevice → Except String OpenedDevice) (now : Instant) :
    ActivityRegistry → List GamepadDevice → Option DevicePass
  | registry, [] => some { registry }
  | registry, device :: rest =>
    if device.id ∈ existing then openDeviceReaders existing answer now registry rest
    else
      match GamepadDeviceReader.open device (answer device) with
      | .ok reader => do
        let (registry, reader) ← seedInitialAxisEvents registry reader now
        let pass ← openDeviceReaders existing answer now registry rest
        return { pass with
          readers := reader :: pass.readers
          added := device.id.value :: pass.added
          opened := device.id :: pass.opened }
      | .error err => do
        let pass ← openDeviceReaders existing answer now registry rest
        return { pass with
          failures := s!"{device.path}: {err}" :: pass.failures
          opened := device.id :: pass.opened }

/-! ## Refresh -/

/-- A line about a list that is not empty. -/
def aboutReaders (text : String) (items : List String) : List String :=
  let listed := String.intercalate ", " items
  if items.isEmpty then [] else [s!"{text}: {listed}"]

/-- A line about failures, with the first of them. -/
def aboutFailures (before behind : String) (failures : List String) : List String :=
  match failures with
  | [] => []
  | first :: _ => [s!"{before} {failures.length} {behind}; first error: {first}"]

/-- A refresh: the source after it, its report, and what it opened on the way. -/
structure Refreshed where
  source : SystemGamepadActivitySource
  refresh : GamepadActivityRefresh
  openedDevices : List DeviceId
  openedSurfaces : List ActivityReaderKey

def refreshGamepadActivitySource (source : SystemGamepadActivitySource) (inputDir : String)
    (discovery : DeviceDiscovery) (openings : Openings) (now : Instant) : Option Refreshed :=
  match discovery.inputDirError with
  | some inputDirError => some
      { source
        refresh :=
          { diagnostics :=
              [s!"gamepad activity source refresh failed: failed to read `{inputDir}`: {inputDirError}"]
            retryRequested := true }
        openedDevices := []
        openedSurfaces := [] }
  | none => do
    let existingReaders := source.readers.map (·.deviceId)
    let existingAdapterReaderKeys := source.adapterReaders.map (·.key)
    let discoveredReaderIds := discovery.devices.map (·.id)
    let inspectFailedReaderIds := discovery.inspectFailures.map fun failure =>
      DeviceId.fromPath failure.path
    let retainedReaderIds := discoveredReaderIds ++ inspectFailedReaderIds
    let adapterReaderSpecs := discovery.devices.flatMap readerSpecsForDevice
    let discoveredAdapterReaderKeys := adapterReaderSpecs.map (·.key)
    let keepReader (reader : GamepadDeviceReader) : Bool := reader.deviceId ∈ retainedReaderIds
    let removedReaders := source.readers.filter fun reader => !keepReader reader
    let registry := removedReaders.foldl (fun registry reader =>
      registry.removeDevice reader.deviceId) source.registry
    let registry := registry.retainDevices fun deviceId => deviceId ∈ retainedReaderIds
    let keepAdapterReader (reader : LogitechG923ActivityReader) : Bool :=
      reader.key ∈ discoveredAdapterReaderKeys ∨ reader.deviceId ∈ inspectFailedReaderIds
    let removedAdapterReaders := source.adapterReaders.filter fun reader =>
      !keepAdapterReader reader
    let adapters := openAdapterReaders existingAdapterReaderKeys openings.surface
      adapterReaderSpecs
    let devices ← openDeviceReaders existingReaders openings.device now registry
      discovery.devices
    let diagnostics :=
      aboutReaders "gamepad activity source refreshed: removed input device reader(s)"
          (removedReaders.map (·.deviceId.value))
        ++ aboutReaders "gamepad activity source refreshed: removed adapter reader(s)"
          (removedAdapterReaders.map (·.key.text))
        ++ aboutReaders "gamepad activity source refreshed: added input device reader(s)"
          devices.added
        ++ aboutReaders "gamepad activity source refreshed: added adapter reader(s)"
          adapters.added
        ++ aboutFailures "gamepad activity source refresh could not open"
          "detected input device(s)" devices.failures
        ++ aboutFailures "gamepad activity source refresh could not open"
          "detected adapter reader(s)" adapters.failures
        ++ aboutFailures "gamepad activity source refresh could not inspect" "input device(s)"
          (discovery.inspectFailures.map (·.text))
    let refreshed : SystemGamepadActivitySource :=
      { readers := source.readers.filter keepReader ++ devices.readers
        adapterReaders := source.adapterReaders.filter keepAdapterReader ++ adapters.readers
        registry := devices.registry }
    let retryRequested := !devices.failures.isEmpty || !adapters.failures.isEmpty
      || !discovery.inspectFailures.isEmpty
    return ⟨refreshed, ⟨diagnostics, retryRequested⟩, devices.opened, adapters.opened⟩

/-! ## The start -/

def openGamepadActivitySource (inputDir : String) (discovery : DeviceDiscovery)
    (policy : ActivityPolicy) (openings : Openings) (baselineSeededAt : Instant) :
    Option GamepadActivitySourceSetup := do
  let adapters := openAdapterReaders [] openings.surface
    (discovery.devices.flatMap readerSpecsForDevice)
  let devices ← openDeviceReaders [] openings.device baselineSeededAt (.new policy)
    discovery.devices
  let sourceAvailable := !devices.readers.isEmpty || !adapters.readers.isEmpty
  let failures := discovery.inspectFailures.map (·.text)
  let unavailable := match discovery.inputDirError with
    | some err => [s!"gamepad activity source unavailable: failed to read `{inputDir}`: {err}"]
    | none =>
      if !sourceAvailable && !devices.failures.isEmpty then
        aboutFailures "gamepad activity source unavailable: failed to open"
          "detected gamepad device(s)" devices.failures
      else if !sourceAvailable && !failures.isEmpty then
        aboutFailures "gamepad activity source unavailable: failed to inspect"
          "input device(s)" failures
      else if devices.readers.isEmpty && !devices.failures.isEmpty then
        (aboutFailures "gamepad evdev activity source unavailable: failed to open"
          "detected gamepad device(s)" devices.failures).map
            (· ++ "; adapter activity remains available")
      else if devices.readers.isEmpty && !failures.isEmpty then
        (aboutFailures "gamepad evdev activity source unavailable: failed to inspect"
          "input device(s)" failures).map (· ++ "; adapter activity remains available")
      else []
  let availability := if adapters.readers.isEmpty then "unavailable" else "partially unavailable"
  let diagnostics := unavailable
    ++ aboutFailures s!"gamepad adapter activity source {availability} for" "detected reader(s)"
      adapters.failures
  let retryRequested := discovery.inputDirError.isSome || !devices.failures.isEmpty
    || !adapters.failures.isEmpty || !discovery.inspectFailures.isEmpty
  let source :=
    if sourceAvailable then
      some (⟨devices.readers, adapters.readers, devices.registry⟩ : SystemGamepadActivitySource)
    else none
  return ⟨source, diagnostics, retryRequested⟩

end LgBuddy
