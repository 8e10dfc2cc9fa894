import LgBuddy.Gamepad.Refresh

/-!
# LgBuddy — the readers follow the discovery

What any run of refreshes and polls keeps of the open readers.

* `Touched`, `observeEvents_touched` — the events of a reader change the axes of its own device;
* `AdapterPassed`, `DevicePassed` — what one pass over the found surfaces and devices opens;
* `FollowsDiscovery`, `refresh_follows` — the readers after a refresh;
* `SurvivesPoll`, `poll_survives` — the readers after a poll;
* `gamepad_readers_follow_discovery` — both, in every state of a run.
-/

namespace LgBuddy

/-! ## The axes that events change -/

/-- The state of one device at some axes is all that changed. -/
structure Touched (deviceId : DeviceId) (axis : UInt16 → Bool)
    (before after : ActivityRegistry) : Prop where
  others : ∀ id, id ≠ deviceId → after.devices.lookup id = before.devices.lookup id
  axes : ∀ code, axis code = false →
    after.axisState deviceId code = before.axisState deviceId code

/-- Two steps that touch one device in one set of axes do so together. -/
theorem Touched.trans {deviceId : DeviceId} {axis : UInt16 → Bool}
    {first second third : ActivityRegistry} (h : Touched deviceId axis first second)
    (h' : Touched deviceId axis second third) : Touched deviceId axis first third where
  others id hid := (h'.others id hid).trans (h.others id hid)
  axes code hcode := (h'.axes code hcode).trans (h.axes code hcode)

/-- An axis outside the touched set keeps its state on every device. -/
theorem Touched.axisState {deviceId : DeviceId} {axis : UInt16 → Bool}
    {before after : ActivityRegistry} (h : Touched deviceId axis before after) (id : DeviceId)
    {code : UInt16} (hcode : axis code = false) :
    after.axisState id code = before.axisState id code := by
  by_cases hid : id = deviceId
  · rw [hid]
    exact h.axes code hcode
  · unfold ActivityRegistry.axisState ActivityRegistry.device
    rw [h.others id hid]

/-- An event changes the entry of its own device only. -/
theorem ActivityRegistry.observe_others {registry next : ActivityRegistry}
    {event : RawGamepadEvent} {now : Instant} {report : Bool}
    (h : registry.observe event now = some (next, report)) {id : DeviceId}
    (hid : id ≠ event.deviceId) : next.devices.lookup id = registry.devices.lookup id := by
  obtain ⟨deviceId, kind⟩ := event
  cases kind with
  | button code pressed =>
    cases h
    exact AList.lookup_insert_ne hid
  | axis code value range =>
    obtain ⟨evaluation, -, hnext⟩ := Option.bind_eq_some_iff.1 h
    cases hnext
    exact AList.lookup_insert_ne hid

/-- An observed event touches its device only, in the axes the event speaks of. -/
theorem ActivityRegistry.observe_touched (registry : ActivityRegistry) {event : RawGamepadEvent}
    {axis : UInt16 → Bool} (now : Instant)
    (h : ∀ code value range, event.kind = .axis code value range → axis code = true) :
    ∃ next report, registry.observe event now = some (next, report)
      ∧ Touched event.deviceId axis registry next := by
  obtain ⟨next, report, hobserve, -, -, -⟩ :=
    registry.observe_axis event now event.deviceId 0
  refine ⟨next, report, hobserve, fun id hid => observe_others hobserve hid, fun code hcode => ?_⟩
  obtain ⟨next', report', hobserve', -, hsame, -⟩ :=
    registry.observe_axis event now event.deviceId code
  obtain ⟨rfl, -⟩ := Prod.mk.inj (Option.some_inj.1 (hobserve.symm.trans hobserve'))
  apply hsame
  unfold sampleOf
  cases hkind : event.kind with
  | button buttonCode pressed => rfl
  | axis axisCode value range =>
    -- an event of this axis would have passed the test
    have hne : axisCode ≠ code := by
      rintro rfl
      rw [h _ _ _ hkind] at hcode
      cases hcode
    exact if_neg fun hand => hne hand.2

/-- **Step.** The events of one reader. -/
theorem observeEvents_touched (registry : ActivityRegistry) {deviceId : DeviceId}
    {axis : UInt16 → Bool} (now : Instant) {events : List RawGamepadEvent}
    (h : SpeaksOf deviceId axis events) :
    ∃ next active, registry.observeEvents now events = some (next, active)
      ∧ Touched deviceId axis registry next := by
  induction events generalizing registry with
  | nil => exact ⟨registry, false, rfl, fun _ _ => rfl, fun _ _ => rfl⟩
  | cons event rest ih =>
    obtain ⟨hdevice, haxis⟩ := h event (.head _)
    obtain ⟨middle, active, hobserve, htouched⟩ := registry.observe_touched now haxis
    obtain ⟨next, others, hrest, htouched'⟩ := ih middle fun e he => h e (.tail _ he)
    rw [hdevice] at htouched
    refine ⟨next, active || others, ?_, htouched.trans htouched'⟩
    simp [ActivityRegistry.observeEvents, hobserve, hrest]

/-! ## Passes -/

/-- What a pass over specifications opens: each that had no reader, once. -/
structure AdapterPassed (existing : List ActivityReaderKey)
    (specs : List LogitechG923ActivityReaderSpec) (pass : AdapterPass) : Prop where
  opened : pass.opened = (specs.map (·.key)).filter (· ∉ existing)
  part : (pass.readers.map (·.key)).Sublist pass.opened
  complete : pass.failures = [] → pass.readers.map (·.key) = pass.opened
  own : ∀ reader ∈ pass.readers, ∃ spec ∈ specs,
    reader.key = spec.key ∧ reader.deviceId = spec.deviceId

/-- One pass over the surfaces opens exactly those not yet read, by induction on the list. -/
theorem openAdapterReaders_passed (existing : List ActivityReaderKey)
    (answer : LogitechG923ActivityReaderSpec → Except String Nat)
    (specs : List LogitechG923ActivityReaderSpec) :
    AdapterPassed existing specs (openAdapterReaders existing answer specs) := by
  induction specs with
  | nil => exact ⟨rfl, List.Sublist.slnil, fun _ => rfl, fun _ h => by cases h⟩
  | cons spec rest ih =>
    have hown : ∀ reader ∈ (openAdapterReaders existing answer rest).readers,
        ∃ spec' ∈ spec :: rest, reader.key = spec'.key ∧ reader.deviceId = spec'.deviceId := by
      intro reader hreader
      obtain ⟨spec', hspec, hsame⟩ := ih.own reader hreader
      exact ⟨spec', .tail _ hspec, hsame⟩
    rw [openAdapterReaders]
    -- an existing reader is skipped, a new one is opened or fails
    by_cases hexisting : spec.key ∈ existing
    · rw [if_pos hexisting]
      refine ⟨?_, ih.part, ih.complete, hown⟩
      rw [ih.opened, List.map_cons, List.filter_cons_of_neg (by simpa using hexisting)]
    · rw [if_neg hexisting]
      have hopened : spec.key :: (openAdapterReaders existing answer rest).opened
          = ((spec :: rest).map (·.key)).filter (· ∉ existing) := by
        rw [ih.opened, List.map_cons, List.filter_cons_of_pos (by simpa using hexisting)]
      cases hanswer : spec.open (answer spec) with
      | error err =>
        refine ⟨hopened, ih.part.cons _, fun h => ?_, hown⟩
        cases h
      | ok reader =>
        have hreader : reader.key = spec.key ∧ reader.deviceId = spec.deviceId := by
          unfold LogitechG923ActivityReaderSpec.open at hanswer
          cases hfile : answer spec with
          | error err =>
            rw [hfile] at hanswer
            cases hanswer
          | ok file =>
            rw [hfile] at hanswer
            cases hanswer
            exact ⟨rfl, rfl⟩
        refine ⟨hopened, ?_, fun h => ?_, fun r hr => ?_⟩
        · rw [List.map_cons, hreader.1]
          exact ih.part.cons_cons _
        · rw [List.map_cons, hreader.1, ih.complete h]
        · rcases List.mem_cons.1 hr with rfl | hr
          · exact ⟨spec, .head _, hreader⟩
          · exact hown r hr

/-- What a pass over devices opens, and what it writes into the registry. -/
structure DevicePassed (existing : List DeviceId) (devices : List GamepadDevice)
    (before : ActivityRegistry) (pass : DevicePass) : Prop where
  opened : pass.opened = (devices.map (·.id)).filter (· ∉ existing)
  part : (pass.readers.map (·.deviceId)).Sublist pass.opened
  complete : pass.failures = [] → pass.readers.map (·.deviceId) = pass.opened
  others : ∀ id ∉ pass.opened, pass.registry.devices.lookup id = before.devices.lookup id
  axes : ∀ id code, isControllerAxisCode code = false →
    pass.registry.axisState id code = before.axisState id code

/-- One pass over the devices opens exactly those not yet read, and touches the registry for these
only. -/
theorem openDeviceReaders_passed (existing : List DeviceId)
    (answer : GamepadDevice → Except String OpenedDevice) (now : Instant)
    (registry : ActivityRegistry) (devices : List GamepadDevice) :
    ∃ pass, openDeviceReaders existing answer now registry devices = some pass
      ∧ DevicePassed existing devices registry pass := by
  induction devices generalizing registry with
  | nil =>
    exact ⟨{ registry }, rfl, rfl, List.Sublist.slnil, fun _ => rfl, fun _ _ => rfl,
      fun _ _ _ => rfl⟩
  | cons device rest ih =>
    rw [openDeviceReaders]
    -- an existing reader is skipped, a new one is opened or fails
    by_cases hexisting : device.id ∈ existing
    · obtain ⟨pass, hpass, hrest⟩ := ih registry
      rw [if_pos hexisting, hpass]
      refine ⟨pass, rfl, ?_, hrest.part, hrest.complete, hrest.others, hrest.axes⟩
      rw [hrest.opened, List.map_cons, List.filter_cons_of_neg (by simpa using hexisting)]
    · rw [if_neg hexisting]
      have hopened {pass : DevicePass}
          (h : pass.opened = (rest.map (·.id)).filter (· ∉ existing)) :
          device.id :: pass.opened = ((device :: rest).map (·.id)).filter (· ∉ existing) := by
        rw [h, List.map_cons, List.filter_cons_of_pos (by simpa using hexisting)]
      cases hanswer : GamepadDeviceReader.open device (answer device) with
      | error err =>
        obtain ⟨pass, hpass, hrest⟩ := ih registry
        refine ⟨{ pass with
            failures := s!"{device.path}: {err}" :: pass.failures
            opened := device.id :: pass.opened }, by simp [hpass], hopened hrest.opened,
          hrest.part.cons _, fun h => ?_, fun id hid => ?_, hrest.axes⟩
        · cases h
        · exact hrest.others id fun h => hid (.tail _ h)
      | ok reader =>
        obtain ⟨hid, hspeaks⟩ : reader.deviceId = device.id
            ∧ SpeaksOf device.id isControllerAxisCode reader.initialAxisEvents := by
          unfold GamepadDeviceReader.open at hanswer
          cases hfile : answer device with
          | error err =>
            rw [hfile] at hanswer
            cases hanswer
          | ok opened =>
            rw [hfile] at hanswer
            cases hanswer
            exact ⟨rfl, initialAxisEvents_speak device.id opened⟩
        obtain ⟨seeded, active, hseed, htouched⟩ := observeEvents_touched registry now hspeaks
        obtain ⟨pass, hpass, hrest⟩ := ih seeded
        refine ⟨{ pass with
            readers := { reader with initialAxisEvents := [] } :: pass.readers
            added := device.id.value :: pass.added
            opened := device.id :: pass.opened }, by simp [seedInitialAxisEvents, hseed, hpass],
          hopened hrest.opened, ?_, fun h => ?_, fun id hnew => ?_, fun id code hcode => ?_⟩
        · rw [List.map_cons, hid]
          exact hrest.part.cons_cons _
        · rw [List.map_cons, hid, hrest.complete h]
        · have hne : id ≠ device.id := fun h => hnew (h ▸ .head _)
          rw [hrest.others id fun h => hnew (.tail _ h), htouched.others id hne]
        · rw [hrest.axes id code hcode, htouched.axisState id hcode]

/-! ## Discoveries -/

/-- Each device has an id of its own. -/
def DeviceDiscovery.Distinct (discovery : DeviceDiscovery) : Prop :=
  (discovery.devices.map (·.id)).Nodup

/-- Each device lists its surfaces once. -/
def DeviceDiscovery.ListsOnce (discovery : DeviceDiscovery) : Prop :=
  ∀ device ∈ discovery.devices, device.hidrawPaths.Nodup

/-- The devices that were found or could not be inspected. -/
def DeviceDiscovery.knownIds (discovery : DeviceDiscovery) : List DeviceId :=
  discovery.devices.map (·.id)
    ++ discovery.inspectFailures.map fun failure => DeviceId.fromPath failure.path

def DeviceDiscovery.surfaceSpecs (discovery : DeviceDiscovery) :
    List LogitechG923ActivityReaderSpec :=
  discovery.devices.flatMap readerSpecsForDevice

/-- A surface of a device is one of its hidraw paths under the one registered adapter. -/
theorem mem_readerSpecsForDevice {device : GamepadDevice} {spec : LogitechG923ActivityReaderSpec}
    (h : spec ∈ readerSpecsForDevice device) :
    ∃ path ∈ device.hidrawPaths, spec = .new "logitech-g923" device.id path := by
  obtain ⟨adapter, hadapter, hspec⟩ := List.mem_flatMap.1 h
  obtain rfl : adapter = logitechG923Adapter :=
    List.mem_singleton.1 (List.mem_filter.1 hadapter).1
  obtain ⟨path, hpath, rfl⟩ := List.mem_map.1 hspec
  exact ⟨path, hpath, rfl⟩

/-- A device whose hidraw paths are listed once has its surface keys once. -/
theorem readerSpecsForDevice_nodup {device : GamepadDevice} (h : device.hidrawPaths.Nodup) :
    ((readerSpecsForDevice device).map (·.key)).Nodup := by
  have hcases : readerSpecsForDevice device = []
      ∨ readerSpecsForDevice device = logitechG923Adapter.readerSpecs device := by
    unfold readerSpecsForDevice REGISTERED_ADAPTERS
    rcases Bool.eq_false_or_eq_true (logitechG923Adapter.supports device) with hyes | hno
    · right
      simp [hyes]
    · left
      simp [hno]
  rcases hcases with hnone | hall
  · rw [hnone]
    exact List.nodup_nil
  · rw [hall]
    have hkeys : (logitechG923Adapter.readerSpecs device).map (·.key)
        = device.hidrawPaths.map fun path => ⟨"logitech-g923", device.id, .hidraw path⟩ := by
      unfold logitechG923Adapter
      rw [List.map_map]
      rfl
    rw [hkeys]
    refine h.map fun a b hab => ?_
    cases hab
    rfl

/-- With distinct devices and paths listed once, no two surfaces share a key. -/
theorem DeviceDiscovery.Distinct.surfaceKeys {discovery : DeviceDiscovery}
    (h : discovery.Distinct) (honce : discovery.ListsOnce) :
    (discovery.surfaceSpecs.map (·.key)).Nodup := by
  unfold surfaceSpecs
  rw [List.map_flatMap, List.nodup_flatMap]
  refine ⟨fun device hdevice => readerSpecsForDevice_nodup (honce device hdevice), ?_⟩
  -- a key names its device, so surfaces of two devices have two keys
  refine (List.pairwise_map.1 h).imp fun {a b} hne key ha hb => ?_
  obtain ⟨spec, hspec, rfl⟩ := List.mem_map.1 ha
  obtain ⟨spec', hspec', hkey⟩ := List.mem_map.1 hb
  obtain ⟨path, -, rfl⟩ := mem_readerSpecsForDevice hspec
  obtain ⟨path', -, rfl⟩ := mem_readerSpecsForDevice hspec'
  exact hne (congrArg ActivityReaderKey.deviceId hkey).symm

/-- A surface belongs to a device that was found. -/
theorem mem_surfaceSpecs {discovery : DeviceDiscovery} {spec : LogitechG923ActivityReaderSpec}
    (h : spec ∈ discovery.surfaceSpecs) :
    spec.key.deviceId = spec.deviceId ∧ spec.deviceId ∈ discovery.knownIds := by
  obtain ⟨device, hdevice, hspec⟩ := List.mem_flatMap.1 h
  obtain ⟨path, -, rfl⟩ := mem_readerSpecsForDevice hspec
  exact ⟨rfl, List.mem_append_left _ (List.mem_map_of_mem hdevice)⟩

/-! ## The invariant -/

/-- One reader for each device. -/
def SystemGamepadActivitySource.DistinctDevices (source : SystemGamepadActivitySource) : Prop :=
  (source.readers.map (·.deviceId)).Nodup

/-- One reader for each surface. -/
def SystemGamepadActivitySource.DistinctSurfaces (source : SystemGamepadActivitySource) : Prop :=
  (source.adapterReaders.map (·.key)).Nodup

/-- Also the key of a surface names the device of its reader. -/
structure ConsistentReaders (source : SystemGamepadActivitySource) : Prop where
  devices : source.DistinctDevices
  own : ∀ reader ∈ source.adapterReaders, reader.key.deviceId = reader.deviceId

/-- The axes that the reports of a surface can speak of. -/
def LogitechG923ActivityReader.SpeaksOfAxis (reader : LogitechG923ActivityReader)
    (code : UInt16) : Prop :=
  ∃ reports next events, reader.readAvailable (.ok reports) = .ok (next, events) ∧
    ∃ event ∈ events, ∃ value range, event.kind = .axis code value range

/-- The adapter speaks only of axes that are no controller axes. -/
theorem LogitechG923ActivityReader.SpeaksOfAxis.foreign {reader : LogitechG923ActivityReader}
    {code : UInt16} (h : reader.SpeaksOfAxis code) : isControllerAxisCode code = false := by
  obtain ⟨reports, next, events, hread, event, hevent, value, range, hkind⟩ := h
  cases hread
  have hspeaks := eventsFromReports_speak reader.deviceId reader.previousButtons reports
  exact adapterAxis_foreign ((hspeaks event hevent).2 _ _ _ hkind)

/-- What a refresh without an error of the directory leaves. -/
structure FollowsDiscovery (source : SystemGamepadActivitySource) (discovery : DeviceDiscovery)
    (refreshed : Refreshed) : Prop where
  devices : ∀ reader ∈ refreshed.source.readers, reader.deviceId ∈ discovery.knownIds
  surfaces : ∀ reader ∈ refreshed.source.adapterReaders, reader.deviceId ∈ discovery.knownIds
  allDevices : ∀ device ∈ discovery.devices,
    (refreshed.source.readers.map (·.deviceId)).count device.id = 1
      ∨ refreshed.refresh.retryRequested = true
  allSurfaces : ∀ spec ∈ discovery.surfaceSpecs,
    spec.key ∈ refreshed.source.adapterReaders.map (·.key)
      ∨ refreshed.refresh.retryRequested = true
  held : ∀ id, refreshed.source.registry.devices.lookup id ≠ none → id ∈ discovery.knownIds
  keptDevices : ∀ reader ∈ source.readers,
    reader.deviceId ∈ refreshed.source.readers.map (·.deviceId) →
      reader ∈ refreshed.source.readers ∧ reader.deviceId ∉ refreshed.openedDevices
      ∧ ∀ code, refreshed.source.registry.axisState reader.deviceId code
          = source.registry.axisState reader.deviceId code
  keptSurfaces : ∀ reader ∈ source.adapterReaders,
    reader.key ∈ refreshed.source.adapterReaders.map (·.key) →
      reader ∈ refreshed.source.adapterReaders ∧ reader.key ∉ refreshed.openedSurfaces
      ∧ ∀ code, reader.SpeaksOfAxis code →
          refreshed.source.registry.axisState reader.deviceId code
            = source.registry.axisState reader.deviceId code

/-- What such a refresh leaves of the surfaces when each was listed once. -/
structure ReadsSurfacesOnce (discovery : DeviceDiscovery) (refreshed : Refreshed) : Prop where
  distinct : refreshed.source.DistinctSurfaces
  allSurfaces : discovery.inputDirError = none → ∀ spec ∈ discovery.surfaceSpecs,
    (refreshed.source.adapterReaders.map (·.key)).count spec.key = 1
      ∨ refreshed.refresh.retryRequested = true

/-- What a refresh leaves. -/
structure RefreshLaw (source : SystemGamepadActivitySource) (discovery : DeviceDiscovery)
    (refreshed : Refreshed) : Prop where
  failed : discovery.inputDirError.isSome →
    refreshed.source = source ∧ refreshed.openedDevices = [] ∧ refreshed.openedSurfaces = []
  followed : discovery.inputDirError = none → FollowsDiscovery source discovery refreshed

/-! ## The registry under removal -/

/-- Removing the devices of other readers keeps the entry of a device. -/
theorem lookup_removeDevices (readers : List GamepadDeviceReader) (registry : ActivityRegistry)
    {id : DeviceId} (h : ∀ reader ∈ readers, reader.deviceId ≠ id) :
    (readers.foldl (fun registry reader => registry.removeDevice reader.deviceId)
      registry).devices.lookup id = registry.devices.lookup id := by
  induction readers generalizing registry with
  | nil => rfl
  | cons reader rest ih =>
    rw [List.foldl_cons, ih _ fun r hr => h r (.tail _ hr)]
    exact AList.lookup_erase_ne (Ne.symm (h reader (.head _)))

/-- What is retained is the old entry of each device the test keeps. -/
theorem lookup_retainDevices (registry : ActivityRegistry) (keep : DeviceId → Bool)
    (id : DeviceId) :
    (registry.retainDevices keep).devices.lookup id
      = if keep id then registry.devices.lookup id else none := by
  unfold ActivityRegistry.retainDevices
  rw [Table.lookup_retain]
  cases registry.devices.lookup id <;> cases keep id <;> simp

/-- The registry after the passes that remove. -/
def clearedRegistry (source : SystemGamepadActivitySource) (discovery : DeviceDiscovery) :
    ActivityRegistry :=
  ((source.readers.filter fun reader => !decide (reader.deviceId ∈ discovery.knownIds)).foldl
    (fun registry reader => registry.removeDevice reader.deviceId) source.registry).retainDevices
      fun deviceId => deviceId ∈ discovery.knownIds

/-- Nothing of a device that is known is removed, and all of any other. -/
theorem lookup_clearedRegistry (source : SystemGamepadActivitySource)
    (discovery : DeviceDiscovery) (id : DeviceId) :
    (clearedRegistry source discovery).devices.lookup id
      = if id ∈ discovery.knownIds then source.registry.devices.lookup id else none := by
  unfold clearedRegistry
  rw [lookup_retainDevices]
  by_cases hid : id ∈ discovery.knownIds
  · rw [if_pos (decide_eq_true hid), if_pos hid]
    apply lookup_removeDevices
    rintro reader hreader rfl
    have hremoved := (List.mem_filter.1 hreader).2
    simp [hid] at hremoved
  · rw [if_neg (by simpa using hid), if_neg hid]

/-- A device still known keeps its axis state through the clearing. -/
theorem axisState_clearedRegistry {source : SystemGamepadActivitySource}
    {discovery : DeviceDiscovery} {id : DeviceId} (hid : id ∈ discovery.knownIds) (code : UInt16) :
    (clearedRegistry source discovery).axisState id code = source.registry.axisState id code := by
  unfold ActivityRegistry.axisState ActivityRegistry.device
  rw [lookup_clearedRegistry, if_pos hid]

/-! ## Refresh -/

def keepsReader (discovery : DeviceDiscovery) (reader : GamepadDeviceReader) : Bool :=
  reader.deviceId ∈ discovery.knownIds

def keepsAdapterReader (discovery : DeviceDiscovery) (reader : LogitechG923ActivityReader) :
    Bool :=
  reader.key ∈ discovery.surfaceSpecs.map (·.key) ∨
    reader.deviceId ∈ discovery.inspectFailures.map fun failure => DeviceId.fromPath failure.path

/-- A refresh whose directory was read keeps the readers it keeps and adds those it opened. -/
theorem refreshGamepadActivitySource_eq {source : SystemGamepadActivitySource}
    {discovery : DeviceDiscovery} (inputDir : String) {openings : Openings} {now : Instant}
    {devices : DevicePass} (hdir : discovery.inputDirError = none)
    (hdevices : openDeviceReaders (source.readers.map (·.deviceId)) openings.device now
      (clearedRegistry source discovery) discovery.devices = some devices) :
    ∃ diagnostics,
      refreshGamepadActivitySource source inputDir discovery openings now
        = some
          { source :=
              { readers := source.readers.filter (keepsReader discovery) ++ devices.readers
                adapterReaders := source.adapterReaders.filter (keepsAdapterReader discovery)
                  ++ (openAdapterReaders (source.adapterReaders.map (·.key)) openings.surface
                    discovery.surfaceSpecs).readers
                registry := devices.registry }
            refresh :=
              ⟨diagnostics, !devices.failures.isEmpty
                || !(openAdapterReaders (source.adapterReaders.map (·.key)) openings.surface
                  discovery.surfaceSpecs).failures.isEmpty
                || !discovery.inspectFailures.isEmpty⟩
            openedDevices := devices.opened
            openedSurfaces := (openAdapterReaders (source.adapterReaders.map (·.key))
              openings.surface discovery.surfaceSpecs).opened } := by
  unfold clearedRegistry DeviceDiscovery.knownIds at hdevices
  unfold refreshGamepadActivitySource
  rw [hdir]
  simp only [hdevices, Option.bind_eq_bind, Option.bind_some, Option.pure_def]
  exact ⟨_, rfl⟩

/-- A list of kept keys and of new ones, each of which is new. -/
theorem nodup_kept_append {α : Type} [DecidableEq α] {before kept added wanted : List α}
    (hbefore : before.Nodup) (hkept : kept.Sublist before) (hwanted : wanted.Nodup)
    (hadded : added.Sublist (wanted.filter (· ∉ before))) : (kept ++ added).Nodup := by
  refine List.nodup_append.2 ⟨hbefore.sublist hkept, (hwanted.filter _).sublist hadded, ?_⟩
  rintro key hkey other hother rfl
  have hnew := (List.mem_filter.1 (hadded.subset hother)).2
  exact absurd (hkept.subset hkey) (by simpa using hnew)

/-- A key that is wanted is there when it was kept, if it was there before. -/
theorem mem_kept_append {α : Type} [DecidableEq α] {before kept added wanted : List α} {key : α}
    (hkey : key ∈ wanted) (hkept : key ∈ before → key ∈ kept)
    (hadded : added = wanted.filter (· ∉ before)) : key ∈ kept ++ added := by
  by_cases hbefore : key ∈ before
  · exact List.mem_append_left _ (hkept hbefore)
  · refine List.mem_append_right _ ?_
    rw [hadded]
    exact List.mem_filter.2 ⟨hkey, by simpa using hbefore⟩

/-- A surface that is kept is of a device that is known. -/
theorem knownId_of_keepsAdapterReader {discovery : DeviceDiscovery}
    {reader : LogitechG923ActivityReader} (hown : reader.key.deviceId = reader.deviceId)
    (h : keepsAdapterReader discovery reader = true) : reader.deviceId ∈ discovery.knownIds := by
  rcases of_decide_eq_true h with hkey | hfailed
  · obtain ⟨spec, hspec, hsame⟩ := List.mem_map.1 hkey
    obtain ⟨hspecOwn, hknown⟩ := mem_surfaceSpecs hspec
    rw [← hown, ← hsame, hspecOwn]
    exact hknown
  · exact List.mem_append_right _ hfailed

/-- **Step.** A refresh that could read the directory. -/
theorem refresh_follows {source : SystemGamepadActivitySource} (hsource : ConsistentReaders source)
    {discovery : DeviceDiscovery} (hdistinct : discovery.Distinct)
    (hdir : discovery.inputDirError = none) (inputDir : String) (openings : Openings)
    (now : Instant) :
    ∃ refreshed, refreshGamepadActivitySource source inputDir discovery openings now
        = some refreshed
      ∧ ConsistentReaders refreshed.source ∧ FollowsDiscovery source discovery refreshed
      ∧ (discovery.ListsOnce → source.DistinctSurfaces → refreshed.source.DistinctSurfaces) := by
  obtain ⟨devices, hpass, hdevices⟩ := openDeviceReaders_passed (source.readers.map (·.deviceId))
    openings.device now (clearedRegistry source discovery) discovery.devices
  have hadapters := openAdapterReaders_passed (source.adapterReaders.map (·.key))
    openings.surface discovery.surfaceSpecs
  obtain ⟨diagnostics, hrefresh⟩ := refreshGamepadActivitySource_eq inputDir hdir hpass
  generalize openAdapterReaders (source.adapterReaders.map (·.key)) openings.surface
    discovery.surfaceSpecs = adapters at hadapters hrefresh
  have hkept : ((source.readers.filter (keepsReader discovery)).map (·.deviceId)).Sublist
      (source.readers.map (·.deviceId)) := List.filter_sublist.map _
  have hkeptKeys : ((source.adapterReaders.filter (keepsAdapterReader discovery)).map (·.key)).Sublist
      (source.adapterReaders.map (·.key)) := List.filter_sublist.map _
  have hnewDevice : ∀ reader ∈ devices.readers, reader.deviceId ∈ discovery.devices.map (·.id)
      ∧ reader.deviceId ∉ source.readers.map (·.deviceId) := by
    intro reader hreader
    have hmem := hdevices.part.subset (List.mem_map_of_mem hreader)
    rw [hdevices.opened] at hmem
    obtain ⟨hfound, hnew⟩ := List.mem_filter.1 hmem
    exact ⟨hfound, by simpa using hnew⟩
  have hnewKey : ∀ reader ∈ adapters.readers,
      reader.key ∉ source.adapterReaders.map (·.key) := by
    intro reader hreader
    have hmem := hadapters.part.subset (List.mem_map_of_mem hreader)
    rw [hadapters.opened] at hmem
    simpa using (List.mem_filter.1 hmem).2
  have hnodup : ((source.readers.filter (keepsReader discovery) ++ devices.readers).map
      (·.deviceId)).Nodup := by
    rw [List.map_append]
    exact nodup_kept_append hsource.devices hkept hdistinct (hdevices.opened ▸ hdevices.part)
  have hnodupKeys (honce : discovery.ListsOnce) (hsurfaces : source.DistinctSurfaces) :
      ((source.adapterReaders.filter (keepsAdapterReader discovery)
        ++ adapters.readers).map (·.key)).Nodup := by
    rw [List.map_append]
    exact nodup_kept_append hsurfaces hkeptKeys (hdistinct.surfaceKeys honce)
      (hadapters.opened ▸ hadapters.part)
  refine ⟨_, hrefresh, ⟨hnodup, fun reader hreader => ?_⟩, ?_, hnodupKeys⟩
  · rcases List.mem_append.1 hreader with hold | hnew
    · exact hsource.own reader (List.mem_filter.1 hold).1
    · obtain ⟨spec, hspec, hkey, hid⟩ := hadapters.own reader hnew
      rw [hkey, hid]
      exact (mem_surfaceSpecs hspec).1
  · constructor
    case devices =>
      intro reader hreader
      rcases List.mem_append.1 hreader with hold | hnew
      · exact of_decide_eq_true (List.mem_filter.1 hold).2
      · exact List.mem_append_left _ (hnewDevice reader hnew).1
    case surfaces =>
      intro reader hreader
      rcases List.mem_append.1 hreader with hold | hnew
      · obtain ⟨hmem, hkeeps⟩ := List.mem_filter.1 hold
        exact knownId_of_keepsAdapterReader (hsource.own reader hmem) hkeeps
      · obtain ⟨spec, hspec, -, hid⟩ := hadapters.own reader hnew
        rw [hid]
        exact (mem_surfaceSpecs hspec).2
    case allDevices =>
      intro device hdevice
      cases hfailures : devices.failures with
      | cons failure failures =>
        right
        simp
      | nil =>
        left
        have hall := (hdevices.complete hfailures).trans hdevices.opened
        apply List.count_eq_one_of_mem hnodup
        rw [List.map_append]
        refine mem_kept_append (List.mem_map_of_mem hdevice) (fun hbefore => ?_) hall
        obtain ⟨reader, hreader, hid⟩ := List.mem_map.1 hbefore
        rw [← hid]
        refine List.mem_map_of_mem (List.mem_filter.2 ⟨hreader, decide_eq_true ?_⟩)
        rw [hid]
        exact List.mem_append_left _ (List.mem_map_of_mem hdevice)
    case allSurfaces =>
      intro spec hspec
      cases hfailures : adapters.failures with
      | cons failure failures =>
        right
        simp
      | nil =>
        left
        have hall := (hadapters.complete hfailures).trans hadapters.opened
        rw [List.map_append]
        refine mem_kept_append (List.mem_map_of_mem hspec) (fun hbefore => ?_) hall
        obtain ⟨reader, hreader, hkey⟩ := List.mem_map.1 hbefore
        rw [← hkey]
        refine List.mem_map_of_mem (List.mem_filter.2 ⟨hreader, decide_eq_true (.inl ?_)⟩)
        rw [hkey]
        exact List.mem_map_of_mem hspec
    case held =>
      intro id hheld
      by_contra hunknown
      have hnew : id ∉ devices.opened := by
        rw [hdevices.opened]
        exact fun h => hunknown (List.mem_append_left _ (List.mem_filter.1 h).1)
      rw [hdevices.others id hnew, lookup_clearedRegistry, if_neg hunknown] at hheld
      exact hheld rfl
    case keptDevices =>
      intro reader hreader hid
      have hold : reader.deviceId ∈ source.readers.map (·.deviceId) := List.mem_map_of_mem hreader
      have hkeeps : reader ∈ source.readers.filter (keepsReader discovery) := by
        rw [List.map_append] at hid
        rcases List.mem_append.1 hid with hmem | hmem
        · obtain ⟨other, hother, hsame⟩ := List.mem_map.1 hmem
          have hkeep := (List.mem_filter.1 hother).2
          refine List.mem_filter.2 ⟨hreader, ?_⟩
          unfold keepsReader at hkeep ⊢
          rwa [← hsame]
        · obtain ⟨other, hother, hsame⟩ := List.mem_map.1 hmem
          exact absurd hold (hsame ▸ (hnewDevice other hother).2)
      have hunopened : reader.deviceId ∉ devices.opened := by
        rw [hdevices.opened]
        exact fun h => absurd hold (by simpa using (List.mem_filter.1 h).2)
      have hknown : reader.deviceId ∈ discovery.knownIds :=
        of_decide_eq_true (List.mem_filter.1 hkeeps).2
      refine ⟨List.mem_append_left _ hkeeps, hunopened, fun code => ?_⟩
      refine Eq.trans ?_ (axisState_clearedRegistry hknown code)
      unfold ActivityRegistry.axisState ActivityRegistry.device
      rw [hdevices.others _ hunopened]
    case keptSurfaces =>
      intro reader hreader hkey
      have hold : reader.key ∈ source.adapterReaders.map (·.key) := List.mem_map_of_mem hreader
      have hkeeps : reader ∈ source.adapterReaders.filter (keepsAdapterReader discovery) := by
        rw [List.map_append] at hkey
        rcases List.mem_append.1 hkey with hmem | hmem
        · obtain ⟨other, hother, hsame⟩ := List.mem_map.1 hmem
          obtain ⟨hothers, hkeep⟩ := List.mem_filter.1 hother
          -- of one key, so of one device, and what keeps the one keeps the other
          have hid : other.deviceId = reader.deviceId := by
            rw [← hsource.own other hothers, hsame, hsource.own reader hreader]
          refine List.mem_filter.2 ⟨hreader, ?_⟩
          unfold keepsAdapterReader at hkeep ⊢
          rwa [← hsame, ← hid]
        · obtain ⟨other, hother, hsame⟩ := List.mem_map.1 hmem
          exact absurd hold (hsame ▸ hnewKey other hother)
      have hunopened : reader.key ∉ adapters.opened := by
        rw [hadapters.opened]
        exact fun h => absurd hold (by simpa using (List.mem_filter.1 h).2)
      have hknown := knownId_of_keepsAdapterReader (hsource.own reader hreader)
        (List.mem_filter.1 hkeeps).2
      refine ⟨List.mem_append_left _ hkeeps, hunopened, fun code hcode => ?_⟩
      exact (hdevices.axes _ _ hcode.foreign).trans (axisState_clearedRegistry hknown code)

/-- **Step.** Any refresh. -/
theorem refresh_law {source : SystemGamepadActivitySource} (hsource : ConsistentReaders source)
    {discovery : DeviceDiscovery} (hdistinct : discovery.Distinct) (inputDir : String)
    (openings : Openings) (now : Instant) :
    ∃ refreshed, refreshGamepadActivitySource source inputDir discovery openings now
        = some refreshed
      ∧ ConsistentReaders refreshed.source ∧ RefreshLaw source discovery refreshed
      ∧ (discovery.ListsOnce → source.DistinctSurfaces →
          ReadsSurfacesOnce discovery refreshed) := by
  cases hdir : discovery.inputDirError with
  | some err =>
    unfold refreshGamepadActivitySource
    rw [hdir]
    refine ⟨_, rfl, hsource, ⟨fun _ => ⟨rfl, rfl, rfl⟩, fun h => ?_⟩,
      fun _ hsurfaces => ⟨hsurfaces, fun h => ?_⟩⟩
    · rw [hdir] at h
      cases h
    · rw [hdir] at h
      cases h
  | none =>
    obtain ⟨refreshed, hrefresh, hconsistent, hfollows, hkeys⟩ :=
      refresh_follows hsource hdistinct hdir inputDir openings now
    refine ⟨refreshed, hrefresh, hconsistent, ⟨fun h => ?_, fun _ => hfollows⟩,
      fun honce hsurfaces => ?_⟩
    · rw [hdir] at h
      cases h
    · have hnodup := hkeys honce hsurfaces
      refine ⟨hnodup, fun _ spec hspec => ?_⟩
      rcases hfollows.allSurfaces spec hspec with hmem | hretry
      · exact .inl (List.count_eq_one_of_mem hnodup hmem)
      · exact .inr hretry

/-! ## Polls -/

/-- A poll removes the readers whose read failed, and no others. -/
structure SurvivesPoll (source : SystemGamepadActivitySource) (reads : Reads)
    (polled : SystemGamepadActivitySource) : Prop where
  devices : polled.readers
    = source.readers.filter fun reader => (reader.readAvailable (reads.device reader)).isOk
  surfaces : polled.adapterReaders.map (fun reader => (reader.key, reader.deviceId, reader.reports))
    = (source.adapterReaders.filter fun reader =>
        (reader.readAvailable (reads.surface reader)).isOk).map
          fun reader => (reader.key, reader.deviceId, reader.reports)

/-- A poll keeps exactly the readers whose read succeeded. -/
theorem pollReaders_kept (fetch : GamepadDeviceReader → FetchEvents) (now : Instant)
    (registry : ActivityRegistry) (readers : List GamepadDeviceReader) :
    ∃ polled, pollReaders fetch now registry readers = some polled
      ∧ polled.kept
        = readers.filter fun reader => (reader.readAvailable (fetch reader)).isOk := by
  induction readers generalizing registry with
  | nil => exact ⟨⟨registry, [], false, []⟩, rfl, rfl⟩
  | cons reader rest ih =>
    rw [pollReaders]
    cases hread : reader.readAvailable (fetch reader) with
    | error err =>
      obtain ⟨polled, hpolled, hkept⟩ := ih (registry.removeDevice reader.deviceId)
      simp only [hpolled, Option.bind_eq_bind, Option.bind_some, Option.pure_def]
      refine ⟨_, rfl, ?_⟩
      rw [hkept, List.filter_cons_of_neg (by simp [hread, Except.isOk, Except.toBool])]
    | ok events =>
      obtain ⟨next, active, hobserve, -⟩ :=
        observeEvents_touched registry now (GamepadDeviceReader.readAvailable_speaks hread)
      obtain ⟨polled, hpolled, hkept⟩ := ih next
      simp only [hobserve, hpolled, Option.bind_eq_bind, Option.bind_some, Option.pure_def]
      refine ⟨_, rfl, ?_⟩
      rw [hkept, List.filter_cons_of_pos (by simp [hread, Except.isOk, Except.toBool])]

/-- A read changes what is remembered of the buttons alone. -/
theorem LogitechG923ActivityReader.readAvailable_same {reader next : LogitechG923ActivityReader}
    {answer : Except String (List (List UInt8))} {events : List RawGamepadEvent}
    (h : reader.readAvailable answer = .ok (next, events)) :
    (next.key, next.deviceId, next.reports) = (reader.key, reader.deviceId, reader.reports)
      ∧ SpeaksOf reader.deviceId isAdapterAxisCode events := by
  cases answer with
  | error err => cases h
  | ok reports =>
    cases h
    exact ⟨rfl, eventsFromReports_speak _ _ _⟩

theorem pollAdapterReaders_kept
    (read : LogitechG923ActivityReader → Except String (List (List UInt8))) (now : Instant)
    (registry : ActivityRegistry) (readers : List LogitechG923ActivityReader) :
    ∃ polled, pollAdapterReaders read now registry readers = some polled
      ∧ polled.kept.map (fun reader => (reader.key, reader.deviceId, reader.reports))
        = (readers.filter fun reader => (reader.readAvailable (read reader)).isOk).map
            fun reader => (reader.key, reader.deviceId, reader.reports) := by
  induction readers generalizing registry with
  | nil => exact ⟨⟨registry, [], false, []⟩, rfl, rfl⟩
  | cons reader rest ih =>
    rw [pollAdapterReaders]
    cases hread : reader.readAvailable (read reader) with
    | error err =>
      obtain ⟨polled, hpolled, hkept⟩ := ih registry
      simp only [hpolled, Option.bind_eq_bind, Option.bind_some, Option.pure_def]
      refine ⟨_, rfl, ?_⟩
      rw [hkept, List.filter_cons_of_neg (by simp [hread, Except.isOk, Except.toBool])]
    | ok result =>
      obtain ⟨after, events⟩ := result
      obtain ⟨hsame, hspeaks⟩ := LogitechG923ActivityReader.readAvailable_same hread
      obtain ⟨next, active, hobserve, -⟩ := observeEvents_touched registry now hspeaks
      obtain ⟨polled, hpolled, hkept⟩ := ih next
      simp only [hobserve, hpolled, Option.bind_eq_bind, Option.bind_some, Option.pure_def]
      refine ⟨_, rfl, ?_⟩
      rw [List.map_cons, hkept, hsame,
        List.filter_cons_of_pos (by simp [hread, Except.isOk, Except.toBool]), List.map_cons]

/-- **Step.** A poll. -/
theorem poll_survives {source : SystemGamepadActivitySource} (hsource : ConsistentReaders source)
    (reads : Reads) (now : Instant) :
    ∃ polled poll, source.pollOnce reads now = some (polled, poll)
      ∧ ConsistentReaders polled ∧ SurvivesPoll source reads polled
      ∧ (source.DistinctSurfaces → polled.DistinctSurfaces) := by
  obtain ⟨devices, hdevices, hkept⟩ :=
    pollReaders_kept reads.device now source.registry source.readers
  obtain ⟨adapters, hadapters, hkeptSurfaces⟩ :=
    pollAdapterReaders_kept reads.surface now devices.registry source.adapterReaders
  refine ⟨⟨devices.kept, adapters.kept, adapters.registry⟩, _,
    by simp [SystemGamepadActivitySource.pollOnce, hdevices, hadapters]; rfl, ⟨?_, ?_⟩,
    ⟨hkept, hkeptSurfaces⟩, ?_⟩
  · show (devices.kept.map (·.deviceId)).Nodup
    rw [hkept]
    exact hsource.devices.sublist (List.filter_sublist.map _)
  · intro reader hreader
    have hmem : (reader.key, reader.deviceId, reader.reports) ∈ adapters.kept.map fun reader =>
        (reader.key, reader.deviceId, reader.reports) := List.mem_map_of_mem hreader
    rw [hkeptSurfaces] at hmem
    obtain ⟨old, hold, hsame⟩ := List.mem_map.1 hmem
    have hkey : old.key = reader.key := congrArg (·.1) hsame
    have hid : old.deviceId = reader.deviceId := congrArg (·.2.1) hsame
    rw [← hkey, ← hid]
    exact hsource.own old (List.mem_filter.1 hold).1
  · intro hsurfaces
    have hkeys := congrArg (List.map Prod.fst) hkeptSurfaces
    rw [List.map_map, List.map_map] at hkeys
    have hkept' : (adapters.kept.map (·.key)).Sublist (source.adapterReaders.map (·.key)) :=
      hkeys ▸ List.filter_sublist.map _
    exact hsurfaces.sublist hkept'

/-! ## Runs -/

/-- A discovery of devices with an id each. -/
structure DistinctDiscovery where
  discovery : DeviceDiscovery
  distinct : discovery.Distinct

inductive GamepadTurn where
  | refresh (inputDir : String) (found : DistinctDiscovery) (openings : Openings) (now : Instant)
  | poll (reads : Reads) (now : Instant)

/-- A turn whose discovery, if it has one, lists surfaces once. -/
def GamepadTurn.ListsOnce : GamepadTurn → Prop
  | .refresh _ found _ _ => found.discovery.ListsOnce
  | .poll _ _ => True

def SystemGamepadActivitySource.turn (source : SystemGamepadActivitySource) :
    GamepadTurn → Option SystemGamepadActivitySource
  | .refresh inputDir found openings now =>
    (refreshGamepadActivitySource source inputDir found.discovery openings now).map (·.source)
  | .poll reads now => (source.pollOnce reads now).map (·.1)

/-- The readers at the start. -/
theorem openGamepadActivitySource_consistent (inputDir : String) (found : DistinctDiscovery)
    (policy : ActivityPolicy) (openings : Openings) (now : Instant) :
    ∃ setup, openGamepadActivitySource inputDir found.discovery policy openings now = some setup
      ∧ ∀ source, setup.source = some source → ConsistentReaders source
          ∧ (found.discovery.ListsOnce → source.DistinctSurfaces) := by
  obtain ⟨devices, hpass, hdevices⟩ := openDeviceReaders_passed [] openings.device now
    (.new policy) found.discovery.devices
  have hadapters := openAdapterReaders_passed [] openings.surface found.discovery.surfaceSpecs
  have hids := nodup_kept_append List.nodup_nil (List.Sublist.refl [])
    found.distinct (hdevices.opened ▸ hdevices.part)
  have hkeys (honce : found.discovery.ListsOnce) :=
    nodup_kept_append List.nodup_nil (List.Sublist.refl [])
      (found.distinct.surfaceKeys honce) (hadapters.opened ▸ hadapters.part)
  unfold openGamepadActivitySource
  simp only [hpass, Option.bind_eq_bind, Option.bind_some, Option.pure_def]
  refine ⟨_, rfl, fun source hsource => ?_⟩
  dsimp only at hsource
  split at hsource
  · cases hsource
    refine ⟨⟨hids, fun reader hreader => ?_⟩, hkeys⟩
    obtain ⟨spec, hspec, hkey, hid⟩ := hadapters.own reader hreader
    rw [hkey, hid]
    exact (mem_surfaceSpecs hspec).1
  · cases hsource

theorem turn_consistent {source : SystemGamepadActivitySource}
    (hsource : ConsistentReaders source) (turn : GamepadTurn) :
    ∃ next, source.turn turn = some next ∧ ConsistentReaders next
      ∧ (turn.ListsOnce → source.DistinctSurfaces → next.DistinctSurfaces) := by
  cases turn with
  | refresh inputDir found openings now =>
    obtain ⟨refreshed, hrefresh, hconsistent, -, honce⟩ :=
      refresh_law hsource found.distinct inputDir openings now
    refine ⟨refreshed.source, ?_, hconsistent, fun h hsurfaces => (honce h hsurfaces).distinct⟩
    rw [SystemGamepadActivitySource.turn, hrefresh]
    rfl
  | poll reads now =>
    obtain ⟨polled, poll, hpoll, hconsistent, -, honce⟩ := poll_survives hsource reads now
    refine ⟨polled, ?_, hconsistent, fun _ => honce⟩
    rw [SystemGamepadActivitySource.turn, hpoll]
    rfl

/-- **Run.** Every turn of every run succeeds and keeps the readers consistent. -/
theorem run_consistent {source : SystemGamepadActivitySource} (hsource : ConsistentReaders source)
    (turns : List GamepadTurn) :
    ∃ last, turns.foldlM SystemGamepadActivitySource.turn source = some last
      ∧ ConsistentReaders last
      ∧ ((∀ turn ∈ turns, turn.ListsOnce) → source.DistinctSurfaces → last.DistinctSurfaces) := by
  induction turns generalizing source with
  | nil => exact ⟨source, rfl, hsource, fun _ h => h⟩
  | cons turn rest ih =>
    obtain ⟨next, hturn, hnext, honce⟩ := turn_consistent hsource turn
    obtain ⟨last, hrest, hlast, hothers⟩ := ih hnext
    refine ⟨last, ?_, hlast, fun h hsurfaces => ?_⟩
    · rw [List.foldlM_cons, hturn]
      exact hrest
    · exact hothers (fun other hother => h other (.tail _ hother))
        (honce (h turn (.head _)) hsurfaces)

/-- **The readers follow the discovery.** In every state of every run there is one reader for a
device; a refresh leaves the readers of what was found, and a poll those that could be read.
While no discovery lists a surface twice, there is one reader for a surface too. -/
theorem gamepad_readers_follow_discovery (inputDir : String) (found : DistinctDiscovery)
    (policy : ActivityPolicy) (openings : Openings) (now : Instant) (turns : List GamepadTurn) :
    ∃ setup, openGamepadActivitySource inputDir found.discovery policy openings now = some setup
      ∧ ∀ first, setup.source = some first →
        ∃ source, turns.foldlM SystemGamepadActivitySource.turn first = some source
          ∧ source.DistinctDevices
          ∧ (found.discovery.ListsOnce → (∀ turn ∈ turns, turn.ListsOnce) →
              source.DistinctSurfaces)
          ∧ (∀ (inputDir : String) (found : DistinctDiscovery) (openings : Openings)
              (now : Instant),
              ∃ refreshed, refreshGamepadActivitySource source inputDir found.discovery openings
                  now = some refreshed
                ∧ refreshed.source.DistinctDevices
                ∧ RefreshLaw source found.discovery refreshed
                ∧ (found.discovery.ListsOnce → source.DistinctSurfaces →
                    ReadsSurfacesOnce found.discovery refreshed))
          ∧ ∀ (reads : Reads) (now : Instant),
              ∃ polled poll, source.pollOnce reads now = some (polled, poll)
                ∧ polled.DistinctDevices ∧ SurvivesPoll source reads polled
                ∧ (source.DistinctSurfaces → polled.DistinctSurfaces) := by
  obtain ⟨setup, hsetup, hfirst⟩ :=
    openGamepadActivitySource_consistent inputDir found policy openings now
  refine ⟨setup, hsetup, fun first hsource => ?_⟩
  obtain ⟨hstart, hstartOnce⟩ := hfirst first hsource
  obtain ⟨source, hrun, hconsistent, honce⟩ := run_consistent hstart turns
  refine ⟨source, hrun, hconsistent.devices, fun h hturns => honce hturns (hstartOnce h),
    fun inputDir found openings now => ?_, fun reads now => ?_⟩
  · obtain ⟨refreshed, hrefresh, hkept, hlaw, hsurfaces⟩ :=
      refresh_law hconsistent found.distinct inputDir openings now
    exact ⟨refreshed, hrefresh, hkept.devices, hlaw, hsurfaces⟩
  · obtain ⟨polled, poll, hpoll, hkept, hlaw, hsurfaces⟩ := poll_survives hconsistent reads now
    exact ⟨polled, poll, hpoll, hkept.devices, hlaw, hsurfaces⟩

/-! ## A surface that is listed twice -/

/-- A wheel whose surface is listed twice. -/
def doubledWheel : GamepadDevice where
  id := ⟨"/dev/input/event0"⟩
  path := "/dev/input/event0"
  vendorId := LOGITECH_VENDOR_ID
  productId := LOGITECH_G923_PRODUCT_ID
  hidrawPaths := ["/dev/hidraw2", "/dev/hidraw2"]

def plainPad : GamepadDevice where
  id := ⟨"/dev/input/event1"⟩
  path := "/dev/input/event1"
  vendorId := 0x054c
  productId := 0x0df2
  hidrawPaths := []

def willingOpenings : Openings where
  device _ := .ok ⟨0, []⟩
  surface _ := .ok 1

/-- Ids that are distinct do not make the keys of the surfaces distinct. -/
theorem doubled_surface_is_read_twice :
    ([plainPad, doubledWheel].map (·.id)).Nodup ∧
      ∃ setup source refreshed,
        openGamepadActivitySource "/dev/input" ⟨[plainPad], [], none⟩ .default willingOpenings 0
            = some setup
          ∧ setup.source = some source
          ∧ refreshGamepadActivitySource source "/dev/input" ⟨[plainPad, doubledWheel], [], none⟩
              willingOpenings 0 = some refreshed
          ∧ ¬ (refreshed.source.adapterReaders.map (·.key)).Nodup :=
  ⟨by decide, _, _, _, rfl, rfl, rfl, by decide⟩

end LgBuddy
