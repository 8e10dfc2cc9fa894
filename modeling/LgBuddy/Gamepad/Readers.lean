import LgBuddy.Gamepad.Activity

/-!
# LgBuddy — readers of gamepads

`session/gamepad/devices.rs`, `reader.rs` and `adapters`: what a discovery finds, and the two kinds
of readers that are opened for it.

* `DeviceDiscovery` — the devices, the inspections that failed, and an error of the directory;
* `GamepadDeviceReader` — the reader of an input device, with the events that seed its axes;
* `readerSpecsForDevice`, `LogitechG923ActivityReader` — the adapters, which read reports of
  surfaces beside the input device.
-/

namespace LgBuddy

/-! ## Discovery -/

structure GamepadDevice where
  id : DeviceId
  path : String
  vendorId : UInt16
  productId : UInt16
  hidrawPaths : List String
  deriving DecidableEq, Repr

structure DeviceInspectFailure where
  path : String
  error : String
  deriving DecidableEq, Repr

def DeviceInspectFailure.text (failure : DeviceInspectFailure) : String :=
  s!"{failure.path}: {failure.error}"

structure DeviceDiscovery where
  devices : List GamepadDevice
  inspectFailures : List DeviceInspectFailure
  inputDirError : Option String
  deriving DecidableEq, Repr

def DeviceId.fromPath (path : String) : DeviceId := ⟨path⟩

/-! ## Input devices -/

def isControllerButtonCode (code : UInt16) : Bool :=
  (0x120 ≤ code && code ≤ 0x12f) || (0x130 ≤ code && code ≤ 0x13e)
    || (0x2c0 ≤ code && code ≤ 0x2ff)

def isControllerAxisCode (code : UInt16) : Bool :=
  (0x00 ≤ code && code ≤ 0x0a) || (0x10 ≤ code && code ≤ 0x17)

def AxisRange.unknown : AxisRange := ⟨0, 0, 0, 0⟩

/-- An event of an input device, as `destructure` shows it. -/
inductive InputEvent where
  | key (code : UInt16) (value : Int32)
  | absoluteAxis (code : UInt16) (value : Int32)
  | other
  deriving DecidableEq

def mapInputEvent (deviceId : DeviceId) (axisRanges : Table UInt16 AxisRange) :
    InputEvent → Option RawGamepadEvent
  | .key code value =>
    if isControllerButtonCode code then some ⟨deviceId, .button code (value ≠ 0)⟩ else none
  | .absoluteAxis code value =>
    if isControllerAxisCode code then
      some ⟨deviceId, .axis code value ((axisRanges.lookup code).getD .unknown)⟩
    else none
  | .other => none

structure AbsInfo where
  value : Int32
  range : AxisRange
  deriving DecidableEq

/-- What the kernel gives for a device that could be opened. -/
structure OpenedDevice where
  file : Nat
  absInfo : List (UInt16 × AbsInfo)

structure GamepadDeviceReader where
  deviceId : DeviceId
  device : Nat
  axisRanges : Table UInt16 AxisRange
  initialAxisEvents : List RawGamepadEvent

def controllerAxes (opened : OpenedDevice) : List (UInt16 × AbsInfo) :=
  opened.absInfo.filter fun axis => isControllerAxisCode axis.1

def axisRangesAndInitialEvents (deviceId : DeviceId) (opened : OpenedDevice) :
    Table UInt16 AxisRange × List RawGamepadEvent :=
  ((controllerAxes opened).foldl (fun ranges axis => ranges.insert axis.1 axis.2.range) ∅,
    (controllerAxes opened).map fun axis =>
      ⟨deviceId, .axis axis.1 axis.2.value axis.2.range⟩)

/-- The answer of a read without waiting. -/
inductive FetchEvents where
  | events (events : List InputEvent)
  | wouldBlock
  | failed (error : String)

def GamepadDeviceReader.open (device : GamepadDevice) (opened : Except String OpenedDevice) :
    Except String GamepadDeviceReader := do
  let evdevDevice ← opened
  let (axisRanges, initialAxisEvents) := axisRangesAndInitialEvents device.id evdevDevice
  return ⟨device.id, evdevDevice.file, axisRanges, initialAxisEvents⟩

def GamepadDeviceReader.readAvailable (reader : GamepadDeviceReader) : FetchEvents →
    Except String (List RawGamepadEvent)
  | .events events => .ok (events.filterMap (mapInputEvent reader.deviceId reader.axisRanges))
  | .wouldBlock => .ok []
  | .failed error => .error error

/-! ## Adapters -/

inductive ActivityReaderSurface where
  | hidraw (path : String)
  deriving DecidableEq, Repr

def ActivityReaderSurface.text : ActivityReaderSurface → String
  | .hidraw path => s!"hidraw {path}"

structure ActivityReaderKey where
  adapter : String
  deviceId : DeviceId
  surface : ActivityReaderSurface
  deriving DecidableEq, Repr

def ActivityReaderKey.text (key : ActivityReaderKey) : String :=
  s!"{key.adapter} {key.surface.text} for {key.deviceId.value}"

structure LogitechG923ActivityReaderSpec where
  key : ActivityReaderKey
  deviceId : DeviceId
  path : String
  deriving DecidableEq, Repr

def LogitechG923ActivityReaderSpec.new (adapter : String) (deviceId : DeviceId) (path : String) :
    LogitechG923ActivityReaderSpec :=
  ⟨⟨adapter, deviceId, .hidraw path⟩, deviceId, path⟩

structure GamepadActivityAdapter where
  name : String
  supports : GamepadDevice → Bool
  readerSpecs : GamepadDevice → List LogitechG923ActivityReaderSpec

def LOGITECH_VENDOR_ID : UInt16 := 0x046d
def LOGITECH_G923_PRODUCT_ID : UInt16 := 0xc267

def logitechG923Adapter : GamepadActivityAdapter where
  name := "logitech-g923"
  supports device :=
    device.vendorId = LOGITECH_VENDOR_ID && device.productId = LOGITECH_G923_PRODUCT_ID
  readerSpecs device :=
    device.hidrawPaths.map fun path => .new "logitech-g923" device.id path

def REGISTERED_ADAPTERS : List GamepadActivityAdapter := [logitechG923Adapter]

def readerSpecsForDevice (device : GamepadDevice) : List LogitechG923ActivityReaderSpec :=
  (REGISTERED_ADAPTERS.filter fun adapter => adapter.supports device).flatMap fun adapter =>
    adapter.readerSpecs device

/-! ## Reports of the wheel -/

def INPUT_REPORT_ID : UInt8 := 0x01
def INPUT_REPORT_MINIMUM_SIZE : Nat := 10
def BUTTON_COUNT : UInt16 := 14
def ANALOG_BYTE_OFFSETS : List Nat := [1, 2, 3, 4, 8, 9]

/-- Adapter axes must not share registry keys with the reader of the input device. -/
def ADAPTER_AXIS_BASE : UInt16 := 0x100
def HAT_X_AXIS : UInt16 := ADAPTER_AXIS_BASE + 6
def HAT_Y_AXIS : UInt16 := HAT_X_AXIS + 1
def AXIS_RANGE : AxisRange := ⟨0, 255, 15, 0⟩
def HAT_RANGE : AxisRange := ⟨-1, 1, 0, 0⟩

def axisObservation (deviceId : DeviceId) (code : UInt16) (value : Int32) (range : AxisRange) :
    RawGamepadEvent :=
  ⟨deviceId, .axis code value range⟩

def hatCoordinates (value : UInt8) : Int32 × Int32 :=
  match value.toNat with
  | 0 => (0, -1)
  | 1 => (1, -1)
  | 2 => (1, 0)
  | 3 => (1, 1)
  | 4 => (0, 1)
  | 5 => (-1, 1)
  | 6 => (-1, 0)
  | 7 => (-1, -1)
  | _ => (0, 0)

/-- The buttons that changed since the report before. -/
def buttonObservations (deviceId : DeviceId) (previous buttons : UInt16) : List RawGamepadEvent :=
  ((List.range BUTTON_COUNT.toNat).map UInt16.ofNat).filterMap fun (bit : UInt16) =>
    let mask : UInt16 := 1 <<< bit
    if (previous ^^^ buttons) &&& mask ≠ 0 then
      some ⟨deviceId, .button bit (buttons &&& mask ≠ 0)⟩
    else none

def eventsFromReport (deviceId : DeviceId) (previousButtons : Option UInt16)
    (report : List UInt8) : Option UInt16 × List RawGamepadEvent :=
  if report.length < INPUT_REPORT_MINIMUM_SIZE ∨ report.head? ≠ some INPUT_REPORT_ID then
    (previousButtons, [])
  else
    let byte (offset : Nat) : UInt8 := report.getD offset 0
    let analog := ANALOG_BYTE_OFFSETS.zipIdx.map fun (offset, index) =>
      axisObservation deviceId (ADAPTER_AXIS_BASE + UInt16.ofNat index)
        (Int32.ofNat (byte offset).toNat) AXIS_RANGE
    let (hatX, hatY) := hatCoordinates (byte 5 &&& 0x0f)
    let hat := [axisObservation deviceId HAT_X_AXIS hatX HAT_RANGE,
      axisObservation deviceId HAT_Y_AXIS hatY HAT_RANGE]
    let buttons := ((byte 5).toUInt32 ||| ((byte 6).toUInt32 <<< 8)
      ||| ((byte 7).toUInt32 <<< 16)) >>> 4
    let buttons := (buttons &&& ((1 <<< BUTTON_COUNT.toUInt32) - 1)).toUInt16
    let changed := match previousButtons with
      | some previous => buttonObservations deviceId previous buttons
      | none => []
    (some buttons, analog ++ hat ++ changed)

structure LogitechG923ActivityReader where
  key : ActivityReaderKey
  deviceId : DeviceId
  reports : Nat
  previousButtons : Option UInt16
  deriving DecidableEq

def LogitechG923ActivityReaderSpec.open (spec : LogitechG923ActivityReaderSpec)
    (opened : Except String Nat) : Except String LogitechG923ActivityReader := do
  return ⟨spec.key, spec.deviceId, ← opened, none⟩

namespace LogitechG923ActivityReader

/-- The reports one after another. -/
def eventsFromReports (deviceId : DeviceId) : Option UInt16 → List (List UInt8) →
    Option UInt16 × List RawGamepadEvent
  | previous, [] => (previous, [])
  | previous, report :: rest =>
    let (previous, events) := eventsFromReport deviceId previous report
    let (previous, others) := eventsFromReports deviceId previous rest
    (previous, events ++ others)

def readAvailable (reader : LogitechG923ActivityReader) :
    Except String (List (List UInt8)) →
      Except String (LogitechG923ActivityReader × List RawGamepadEvent)
  | .ok reports =>
    let (previousButtons, events) :=
      eventsFromReports reader.deviceId reader.previousButtons reports
    .ok ({ reader with previousButtons }, events)
  | .error error => .error error

end LogitechG923ActivityReader

/-! ## What the readers speak of -/

/-- The events are of one device, and of axes that pass a test. -/
def SpeaksOf (deviceId : DeviceId) (axis : UInt16 → Bool) (events : List RawGamepadEvent) : Prop :=
  ∀ event ∈ events, event.deviceId = deviceId ∧
    ∀ code value range, event.kind = .axis code value range → axis code = true

/-- The axes of the adapter, none of which is an axis of an input device. -/
def isAdapterAxisCode (code : UInt16) : Bool := ADAPTER_AXIS_BASE ≤ code && code ≤ HAT_Y_AXIS

theorem SpeaksOf.append {deviceId : DeviceId} {axis : UInt16 → Bool}
    {events others : List RawGamepadEvent} (h : SpeaksOf deviceId axis events)
    (h' : SpeaksOf deviceId axis others) : SpeaksOf deviceId axis (events ++ others) := by
  intro event hevent
  rcases List.mem_append.1 hevent with hevent | hevent
  · exact h event hevent
  · exact h' event hevent

theorem adapterAxis_foreign {code : UInt16} (h : isAdapterAxisCode code = true) :
    isControllerAxisCode code = false := by
  unfold isAdapterAxisCode ADAPTER_AXIS_BASE HAT_Y_AXIS HAT_X_AXIS at h
  unfold isControllerAxisCode
  simp only [Bool.and_eq_true, decide_eq_true_eq, UInt16.le_iff_toNat_le] at h
  obtain ⟨hlow, -⟩ := h
  have hbase : (256 : UInt16).toNat = 256 := rfl
  have hten : (10 : UInt16).toNat = 10 := rfl
  have hlast : (23 : UInt16).toNat = 23 := rfl
  simp only [Bool.or_eq_false_iff, Bool.and_eq_false_iff, decide_eq_false_iff_not,
    UInt16.le_iff_toNat_le]
  omega

theorem initialAxisEvents_speak (deviceId : DeviceId) (opened : OpenedDevice) :
    SpeaksOf deviceId isControllerAxisCode (axisRangesAndInitialEvents deviceId opened).2 := by
  intro event hevent
  obtain ⟨axis, haxis, rfl⟩ := List.mem_map.1 hevent
  refine ⟨rfl, fun code value range hkind => ?_⟩
  cases hkind
  exact (List.mem_filter.1 haxis).2

theorem GamepadDeviceReader.readAvailable_speaks {reader : GamepadDeviceReader}
    {fetched : FetchEvents} {events : List RawGamepadEvent}
    (h : reader.readAvailable fetched = .ok events) :
    SpeaksOf reader.deviceId isControllerAxisCode events := by
  cases fetched with
  | wouldBlock =>
    cases h
    exact fun event hevent => by cases hevent
  | failed error => cases h
  | events fetched =>
    cases h
    intro event hevent
    obtain ⟨input, -, hmap⟩ := List.mem_filterMap.1 hevent
    cases input with
    | other => cases hmap
    | key code value =>
      simp only [mapInputEvent] at hmap
      split at hmap
      · cases hmap
        exact ⟨rfl, fun code value range hkind => by cases hkind⟩
      · cases hmap
    | absoluteAxis code value =>
      simp only [mapInputEvent] at hmap
      split at hmap
      · rename_i hcode
        cases hmap
        refine ⟨rfl, fun code value range hkind => ?_⟩
        cases hkind
        exact hcode
      · cases hmap

theorem axisObservation_speaks (deviceId : DeviceId) {axis : UInt16 → Bool} {code : UInt16}
    (value : Int32) (range : AxisRange) (h : axis code = true) :
    (axisObservation deviceId code value range).deviceId = deviceId ∧
      ∀ code' value' range', (axisObservation deviceId code value range).kind
        = .axis code' value' range' → axis code' = true := by
  refine ⟨rfl, fun code' value' range' hkind => ?_⟩
  obtain ⟨rfl, -, -⟩ := RawGamepadEventKind.axis.inj hkind
  exact h

theorem buttonObservations_speak (deviceId : DeviceId) (axis : UInt16 → Bool)
    (previous buttons : UInt16) :
    SpeaksOf deviceId axis (buttonObservations deviceId previous buttons) := by
  intro event hevent
  obtain ⟨bit, -, hbit⟩ := List.mem_filterMap.1 hevent
  dsimp only at hbit
  split at hbit
  · cases hbit
    exact ⟨rfl, fun code value range hkind => by cases hkind⟩
  · cases hbit

theorem eventsFromReport_speaks (deviceId : DeviceId) (previous : Option UInt16)
    (report : List UInt8) :
    SpeaksOf deviceId isAdapterAxisCode (eventsFromReport deviceId previous report).2 := by
  unfold eventsFromReport
  split
  · exact fun event hevent => by cases hevent
  · refine SpeaksOf.append (SpeaksOf.append ?_ ?_) ?_
    · intro event hevent
      obtain ⟨entry, hentry, rfl⟩ := List.mem_map.1 hevent
      have hcodes : ∀ entry ∈ ANALOG_BYTE_OFFSETS.zipIdx,
          isAdapterAxisCode (ADAPTER_AXIS_BASE + UInt16.ofNat entry.2) = true := by decide
      exact axisObservation_speaks deviceId _ _ (hcodes entry hentry)
    · intro event hevent
      rcases List.mem_cons.1 hevent with rfl | hevent
      · exact axisObservation_speaks deviceId _ _ (by decide)
      · rw [List.mem_singleton.1 hevent]
        exact axisObservation_speaks deviceId _ _ (by decide)
    · intro event hevent
      cases previous with
      | none => cases hevent
      | some previous =>
        exact buttonObservations_speak deviceId _ _ _ event hevent

theorem LogitechG923ActivityReader.eventsFromReports_speak (deviceId : DeviceId)
    (previous : Option UInt16) (reports : List (List UInt8)) :
    SpeaksOf deviceId isAdapterAxisCode (eventsFromReports deviceId previous reports).2 := by
  induction reports generalizing previous with
  | nil => exact fun event hevent => by cases hevent
  | cons report rest ih => exact (eventsFromReport_speaks deviceId previous report).append (ih _)

end LgBuddy
