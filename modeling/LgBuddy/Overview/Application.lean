import LgBuddy.Overview.Presentation

/-!
# LgBuddy — the overview

`OverviewApplication` of `overview.rs`: the summary of the TV, the brightness slider and the audio
controls. Each of the three loads on its own, and brightness and audio write on their own.

* `SummaryState`, `BrightnessState`, `AudioState` — the states of the three;
* `complete…` — an operation that was handed out has ended;
* `setBrightness`, `setVolume`, `setMuted`, `retry…` — the intents;
* `presentation` — what is shown.

A call answers `none` where the source does, and the application is then unchanged. While a write is
in flight a newer value waits in `pending`; it is written when the write in flight has succeeded.
A write of the volume also unmutes the TV, so a wish to stay muted waits behind it.
-/

namespace LgBuddy

/-! ## Operations and their results -/

structure OverviewSummaryOperation where
  id : Nat
  deriving DecidableEq, Repr

structure BrightnessReadOperation where
  id : Nat
  deriving DecidableEq, Repr

structure BrightnessWriteOperation where
  id : Nat
  brightness : OledBrightness
  deriving DecidableEq, Repr

structure OverviewAudioReadOperation where
  id : Nat
  deriving DecidableEq, Repr

structure OverviewAudioWriteOperation where
  id : Nat
  operation : AudioOperation
  deriving DecidableEq, Repr

inductive OverviewOperation where
  | readSummary (operation : OverviewSummaryOperation)
  | readBrightness (operation : BrightnessReadOperation)
  | readAudio (operation : OverviewAudioReadOperation)
  | writeBrightness (operation : BrightnessWriteOperation)
  | writeAudio (operation : OverviewAudioWriteOperation)
  deriving DecidableEq, Repr

inductive OverviewSummaryFailure where
  | notConfigured
  | invalidConfiguration
  | migrationRequired
  | internal
  deriving DecidableEq, Repr

structure OverviewSummaryError where
  failure : OverviewSummaryFailure
  diagnostic : String
  deriving DecidableEq, Repr

inductive BrightnessReadFailure where
  | notConfigured
  | invalidConfiguration
  | migrationRequired
  | credentialsUnavailable
  | unreachable
  | rejected
  | invalidResponse
  | screenNotVisible
  | internal
  deriving DecidableEq, Repr

structure BrightnessReadError where
  failure : BrightnessReadFailure
  diagnostic : String
  deriving DecidableEq, Repr

inductive BrightnessWriteFailure where
  | notConfigured
  | invalidConfiguration
  | migrationRequired
  | credentialsUnavailable
  | unreachable
  | rejected
  | screenNotVisible
  | internal
  deriving DecidableEq, Repr

structure BrightnessWriteError where
  failure : BrightnessWriteFailure
  diagnostic : String
  deriving DecidableEq, Repr

inductive BrightnessWriteOutcome where
  | applied
  | appliedWithoutNotification (diagnostic : String)
  deriving DecidableEq, Repr

def BrightnessWriteOutcome.diagnostic : BrightnessWriteOutcome → Option String
  | .applied => none
  | .appliedWithoutNotification diagnostic => some diagnostic

inductive AudioReadFailure where
  | notConfigured
  | invalidConfiguration
  | migrationRequired
  | credentialsUnavailable
  | unreachable
  | rejected
  | invalidResponse
  | screenNotVisible
  | internal
  deriving DecidableEq, Repr

structure AudioReadError where
  failure : AudioReadFailure
  diagnostic : String
  deriving DecidableEq, Repr

inductive AudioWriteFailure where
  | notConfigured
  | invalidConfiguration
  | migrationRequired
  | credentialsUnavailable
  | setVolume
  | unmuteAfterVolume
  | setMuted
  | internal
  deriving DecidableEq, Repr

structure AudioWriteError where
  failure : AudioWriteFailure
  diagnostic : String
  volumeApplied : Option VolumeLevel
  deriving DecidableEq, Repr

/-- `AudioWriteOutcome::Applied`: what the write reports to have set. -/
structure AudioWriteOutcome where
  volume : Option VolumeLevel
  muted : Option Bool
  deriving DecidableEq, Repr

/-- What `apply_audio_operation_with` reports when both commands to the TV have gone through. -/
def AudioOperation.applied : AudioOperation → AudioWriteOutcome
  | .setVolumeAndUnmute volume => ⟨some volume, some false⟩
  | .setMuted muted => ⟨none, some muted⟩

/-! ## What the user is told -/

def userFacingBrightnessReadError : BrightnessReadFailure → UserFacingError
  | .notConfigured => ⟨"LG Buddy is not configured.", "Complete LG Buddy setup, then retry."⟩
  | .invalidConfiguration =>
    ⟨"LG Buddy could not load its TV configuration.",
      "Check the saved TV address and platform settings, then retry."⟩
  | .migrationRequired =>
    ⟨"LG Buddy's saved TV configuration needs migration.",
      "Review the TV platform and desktop integration in Settings before retrying."⟩
  | .credentialsUnavailable =>
    ⟨"LG Buddy cannot authenticate with this TV.",
      "Run `lg-buddy brightness get` in a terminal, accept a TV pairing prompt if shown, then "
        ++ "retry."⟩
  | .unreachable =>
    ⟨"The TV could not be reached.",
      "Make sure the TV is on and connected to the same network, then retry."⟩
  | .rejected =>
    ⟨"The TV rejected the brightness request.", "Make sure the TV screen is on, then retry."⟩
  | .invalidResponse =>
    ⟨"The TV returned an invalid brightness value.",
      "Retry. If this continues, check the configured TV platform."⟩
  | .screenNotVisible => ⟨"The TV screen is not available.", "Turn the TV screen on, then retry."⟩
  | .internal =>
    ⟨"LG Buddy could not read the current brightness.",
      "Retry. If this continues, check the LG Buddy logs."⟩

def userFacingBrightnessWriteError : BrightnessWriteFailure → UserFacingError
  | .notConfigured => ⟨"LG Buddy is not configured.", "Complete LG Buddy setup, then retry."⟩
  | .invalidConfiguration =>
    ⟨"LG Buddy could not load its TV configuration.",
      "Check the saved TV address and platform settings, then retry."⟩
  | .migrationRequired =>
    ⟨"LG Buddy's saved TV configuration needs migration.",
      "Review the TV platform and desktop integration in Settings before retrying."⟩
  | .credentialsUnavailable =>
    ⟨"LG Buddy cannot authenticate with this TV.",
      "Run `lg-buddy brightness set <0-100>` in a terminal, accept a TV pairing prompt if shown, "
        ++ "then retry."⟩
  | .unreachable =>
    ⟨"The TV could not be reached.",
      "Make sure the TV is on and connected to the same network, then retry."⟩
  | .rejected =>
    ⟨"The TV rejected the brightness change.", "Make sure the TV screen is on, then retry."⟩
  | .screenNotVisible => ⟨"The TV screen is not available.", "Turn the TV screen on, then retry."⟩
  | .internal =>
    ⟨"LG Buddy could not set the brightness.",
      "Retry. If this continues, check the LG Buddy logs."⟩

def summaryError : OverviewSummaryFailure → UserFacingError
  | .notConfigured => ⟨"LG Buddy is not configured.", "Complete LG Buddy setup, then retry."⟩
  | .invalidConfiguration =>
    ⟨"LG Buddy could not load its TV configuration.",
      "Check the saved TV address and platform settings, then retry."⟩
  | .migrationRequired =>
    ⟨"LG Buddy's saved TV configuration needs migration.",
      "Restart LG Buddy to convert the saved configuration, then retry."⟩
  | .internal =>
    ⟨"LG Buddy could not load the primary TV.",
      "Retry. If this continues, check the LG Buddy logs."⟩

def audioError : AudioReadFailure → UserFacingError
  | .notConfigured | .invalidConfiguration =>
    ⟨"LG Buddy could not load its TV configuration.", "Check the saved TV settings, then retry."⟩
  | .migrationRequired =>
    ⟨"LG Buddy's saved TV configuration needs migration.",
      "Restart LG Buddy to convert the saved configuration, then retry."⟩
  | .credentialsUnavailable =>
    ⟨"LG Buddy cannot authenticate with this TV.",
      "Use a headless TV command to pair the TV, then retry."⟩
  | .unreachable =>
    ⟨"The TV could not be reached for audio.",
      "Make sure the TV is on and connected to the same network, then retry."⟩
  | .rejected => ⟨"The TV rejected the audio request.", "Retry after turning the TV screen on."⟩
  | .invalidResponse =>
    ⟨"The TV returned an invalid audio value.",
      "Retry and check the configured TV platform if this continues."⟩
  | .screenNotVisible | .internal =>
    ⟨"LG Buddy could not read the TV audio state.",
      "Retry. If this continues, check the LG Buddy logs."⟩

/-- The `user` error of `complete_audio_write`. -/
def audioWriteError : AudioWriteFailure → UserFacingError
  | .unmuteAfterVolume =>
    ⟨"Volume changed, but unmuting failed.",
      "Retry unmuting the TV. The volume value has already been changed."⟩
  | .notConfigured => audioError .notConfigured
  | .invalidConfiguration => audioError .invalidConfiguration
  | .migrationRequired => audioError .migrationRequired
  | .credentialsUnavailable => audioError .credentialsUnavailable
  | .setVolume | .setMuted | .internal =>
    ⟨"The TV could not apply the audio change.",
      "Retry the audio operation. If this continues, check that the TV is on and reachable."⟩

/-! ## The state -/

structure PendingAudio where
  volume : Option VolumeLevel := none
  muted : Option Bool := none
  deriving DecidableEq, Repr

/-- What waits behind a volume write, which unmutes: only a wish to be muted. -/
def PendingAudio.behindVolume (pending : PendingAudio) : PendingAudio :=
  { volume := none, muted := pending.muted.filter (· ≠ false) }

inductive SummaryState where
  | loading (operation : OverviewSummaryOperation)
  | ready (identity : OverviewTvIdentity)
  | failed (error : UserFacingError)
  | closed

inductive BrightnessState where
  | loading (operation : BrightnessReadOperation)
  | ready (current proposed : OledBrightness)
  | applying (current proposed : OledBrightness) (pending : Option OledBrightness)
      (operation : BrightnessWriteOperation)
  | failed (current proposed failed : OledBrightness) (pending : Option OledBrightness)
      (error : UserFacingError)
  | readFailed (error : UserFacingError)
  | closed
  deriving DecidableEq, Repr

inductive AudioState where
  | loading (operation : OverviewAudioReadOperation)
  | ready (current : CurrentVolume) (proposed : Option VolumeLevel) (muted : Bool)
  | readFailed (error : UserFacingError)
  | applying (current : CurrentVolume) (proposed : Option VolumeLevel) (muted : Bool)
      (pending : PendingAudio) (operation : OverviewAudioWriteOperation)
  | failed (current : CurrentVolume) (proposed : Option VolumeLevel) (muted : Bool)
      (pending : PendingAudio) (error : UserFacingError) (retry : AudioOperation)
  | closed
  deriving DecidableEq, Repr

structure OverviewApplication where
  summary : SummaryState
  brightness : BrightnessState
  brightnessPresentation : BrightnessPresentation
  audio : AudioState
  nextId : Nat

inductive OverviewFrontendUpdate where
  | present (presentation : OverviewPresentation)
  | close

structure OverviewTransition where
  update : OverviewFrontendUpdate
  operations : List OverviewOperation
  diagnostic : Option String

def currentLevel : CurrentVolume → Option VolumeLevel
  | .level level => some level
  | .unknown => none

def proposedIsCurrent (current : CurrentVolume) (proposed : VolumeLevel) : Bool :=
  currentLevel current = some proposed

def operationMuted : AudioOperation → Bool
  | .setVolumeAndUnmute _ => false
  | .setMuted muted => muted

def requestedMute (pending : PendingAudio) (operation : AudioOperation) : Bool :=
  (pending.muted.or (pending.volume.map fun _ => false)).getD (operationMuted operation)

namespace OverviewApplication

/-! ## What is shown -/

def connectionState (app : OverviewApplication) : TvConnectionState :=
  match app.brightness, app.audio with
  | .loading _, _ | _, .loading _ => .connecting
  | .ready .., _ | .applying .., _ | _, .ready .. | _, .applying .. => .connected
  | _, _ => .disconnected

def summaryPresentation (app : OverviewApplication) : TvSummaryPresentation :=
  match app.summary with
  | .loading _ => .loading
  | .ready identity => .ready identity app.connectionState
  | .failed error => .failed error
  | .closed => .loading

def audioPresentation (app : OverviewApplication) : AudioPresentation :=
  match app.audio with
  | .loading _ => .loading
  | .ready current proposed muted => .ready current proposed muted
  | .readFailed error => .failed none none none none error .retryAudio
  | .applying current proposed muted pending operation =>
    .applying current proposed muted operation.operation
      (requestedMute pending operation.operation)
  | .failed current proposed muted pending error _ =>
    .failed (some current) proposed (some muted) (some (requestedMute pending (.setMuted muted)))
      error .retryAudio
  | .closed => .loading

def presentation (app : OverviewApplication) : OverviewPresentation where
  summary := app.summaryPresentation
  brightness := app.brightnessPresentation
  audio := app.audioPresentation

def transition (app : OverviewApplication) (operations : List OverviewOperation)
    (diagnostic : Option String) : OverviewTransition :=
  ⟨.present app.presentation, operations, diagnostic⟩

/-- The changed application, with the transition it answers. -/
def answer (app : OverviewApplication) (operations : List OverviewOperation := [])
    (diagnostic : Option String := none) : OverviewApplication × OverviewTransition :=
  (app, app.transition operations diagnostic)

end OverviewApplication

/-- `OverviewApplication::open`. -/
def OverviewApplication.opened : OverviewApplication where
  summary := .loading ⟨0⟩
  brightness := .loading ⟨0⟩
  brightnessPresentation := .loading
  audio := .loading ⟨2⟩
  nextId := 3

def OverviewApplication.open : OverviewApplication × OverviewTransition :=
  OverviewApplication.opened.answer
    [.readSummary ⟨0⟩, .readBrightness ⟨0⟩, .readAudio ⟨2⟩]

namespace OverviewApplication

variable (app : OverviewApplication)

def isClosed : Bool :=
  match app.summary with
  | .closed => true
  | _ => false

def brightnessApplying : Bool :=
  match app.brightness with
  | .applying .. => true
  | _ => false

def audioApplying : Bool :=
  match app.audio with
  | .applying .. => true
  | _ => false

def hasPendingWrite : Bool := app.brightnessApplying || app.audioApplying

def shutdown : OverviewApplication :=
  { app with
    summary := .closed
    brightness := .closed
    brightnessPresentation := .loading
    audio := .closed }

/-! ## Reads -/

def newSummary : OverviewApplication :=
  { app with summary := .loading ⟨app.nextId⟩, nextId := app.nextId + 1 }

def newBrightnessRead : OverviewApplication :=
  { app with
    brightness := .loading ⟨app.nextId⟩
    brightnessPresentation := .loading
    nextId := app.nextId + 1 }

def newAudioRead : OverviewApplication :=
  { app with audio := .loading ⟨app.nextId⟩, nextId := app.nextId + 1 }

/-- Reloads a changed profile. Refused while a write is in flight. -/
def profileChanged : Option (OverviewApplication × OverviewTransition) :=
  if app.isClosed || app.hasPendingWrite then none
  else some (app.newSummary.newBrightnessRead.newAudioRead.answer
    [.readSummary ⟨app.nextId⟩, .readBrightness ⟨app.nextId + 1⟩, .readAudio ⟨app.nextId + 2⟩])

/-- Invalidates previous reads and disables the controls while the profile is changing. -/
def profileChangeStarted : Option (OverviewApplication × OverviewTransition) :=
  app.profileChanged.map fun (app, transition) => (app, { transition with operations := [] })

def completeSummary (operation : OverviewSummaryOperation)
    (result : Except OverviewSummaryError OverviewTvIdentity) :
    Option (OverviewApplication × OverviewTransition) :=
  match app.summary with
  | .loading active =>
    if active = operation then
      match result with
      | .ok identity => some ({ app with summary := .ready identity }.answer)
      | .error error =>
        some ({ app with summary := .failed (summaryError error.failure) }.answer []
          s!"could not load primary TV configuration: {error.diagnostic}")
    else none
  | _ => none

def completeBrightnessRead (operation : BrightnessReadOperation)
    (result : Except BrightnessReadError OledBrightness) :
    Option (OverviewApplication × OverviewTransition) :=
  match app.brightness with
  | .loading active =>
    if active = operation then
      match result with
      | .ok brightness =>
        some ({ app with
          brightness := .ready brightness brightness
          brightnessPresentation := .overviewReady brightness brightness }.answer)
      | .error error =>
        some ({ app with
          brightness := .readFailed (userFacingBrightnessReadError error.failure)
          brightnessPresentation :=
            .readFailed (userFacingBrightnessReadError error.failure) }.answer []
          s!"could not load current brightness: {error.diagnostic}")
    else none
  | _ => none

def completeAudioRead (operation : OverviewAudioReadOperation)
    (result : Except AudioReadError AudioStatus) :
    Option (OverviewApplication × OverviewTransition) :=
  match app.audio with
  | .loading active =>
    if active = operation then
      match result with
      | .ok status =>
        some ({ app with
          audio := .ready status.volume (currentLevel status.volume) status.muted }.answer)
      | .error error =>
        some ({ app with audio := .readFailed (audioError error.failure) }.answer []
          s!"could not read TV audio: {error.diagnostic}")
    else none
  | _ => none

/-! ## Writing the brightness -/

/-- The operation that `new_brightness_write` hands out. -/
def brightnessWrite (brightness : OledBrightness) : BrightnessWriteOperation :=
  ⟨app.nextId, brightness⟩

def newBrightnessWrite (current proposed : OledBrightness) (pending : Option OledBrightness) :
    OverviewApplication :=
  { app with
    brightness :=
      .applying current (pending.getD proposed) pending (app.brightnessWrite proposed)
    brightnessPresentation := .overviewApplying current (pending.getD proposed)
    nextId := app.nextId + 1 }

/-- With the write started and handed out. -/
def startBrightnessWrite (current proposed : OledBrightness) (pending : Option OledBrightness)
    (diagnostic : Option String := none) : OverviewApplication × OverviewTransition :=
  (app.newBrightnessWrite current proposed pending).answer
    [.writeBrightness (app.brightnessWrite proposed)] diagnostic

def brightnessReady (current proposed : OledBrightness) : OverviewApplication :=
  { app with
    brightness := .ready current proposed
    brightnessPresentation := .overviewReady current proposed }

def completeBrightnessWrite (operation : BrightnessWriteOperation)
    (result : Except BrightnessWriteError BrightnessWriteOutcome) :
    Option (OverviewApplication × OverviewTransition) :=
  match app.brightness with
  | .applying current _ pending active =>
    if active = operation then
      match result with
      | .ok outcome =>
        match pending.filter (· ≠ operation.brightness) with
        | some next =>
          some (app.startBrightnessWrite operation.brightness next none outcome.diagnostic)
        | none =>
          some ((app.brightnessReady operation.brightness operation.brightness).answer []
            outcome.diagnostic)
      | .error error =>
        some ({ app with
          brightness := .failed current (pending.getD current) operation.brightness pending
            (userFacingBrightnessWriteError error.failure)
          brightnessPresentation := .overviewWriteFailed current (pending.getD current)
            (userFacingBrightnessWriteError error.failure) }.answer []
          s!"could not apply brightness: {error.diagnostic}")
    else none
  | _ => none

/-- `next_pending` of `set_brightness`: the value in flight does not have to be written again. -/
def nextBrightness (operation : BrightnessWriteOperation) (proposed : OledBrightness) :
    Option OledBrightness :=
  if proposed = operation.brightness then none else some proposed

def setBrightness (value : Nat) : Option (OverviewApplication × OverviewTransition) :=
  match OledBrightness.new value with
  | .error _ => none
  | .ok proposed =>
    match app.brightness with
    | .ready current previous =>
      if proposed = previous then none
      else some (app.startBrightnessWrite current proposed none)
    | .applying current previous pending operation =>
      if proposed = previous ∧ nextBrightness operation proposed = pending then none
      else some ({ app with
        brightness := .applying current proposed (nextBrightness operation proposed) operation
        brightnessPresentation := .overviewApplying current proposed }.answer)
    | .failed current _ _ _ _ =>
      if proposed = current then some ((app.brightnessReady current proposed).answer)
      else some (app.startBrightnessWrite current proposed none)
    | _ => none

def retryBrightness : Option (OverviewApplication × OverviewTransition) :=
  match app.brightness with
  | .readFailed _ => some (app.newBrightnessRead.answer [.readBrightness ⟨app.nextId⟩])
  | .failed current _ failed pending _ => some (app.startBrightnessWrite current failed pending)
  | _ => none

/-! ## Writing the audio -/

/-- The operation that `start_audio_write` hands out. -/
def audioWrite (operation : AudioOperation) : OverviewAudioWriteOperation :=
  ⟨app.nextId, operation⟩

def newAudioWrite (current : CurrentVolume) (proposed : Option VolumeLevel) (muted : Bool)
    (pending : PendingAudio) (operation : AudioOperation) : OverviewApplication :=
  { app with
    audio := .applying current proposed muted pending (app.audioWrite operation)
    nextId := app.nextId + 1 }

/-- With the write started and handed out. -/
def startAudioWrite (current : CurrentVolume) (proposed : Option VolumeLevel) (muted : Bool)
    (pending : PendingAudio) (operation : AudioOperation) :
    OverviewApplication × OverviewTransition :=
  (app.newAudioWrite current proposed muted pending operation).answer
    [.writeAudio (app.audioWrite operation)]

def audioReady (current : CurrentVolume) (proposed : Option VolumeLevel) (muted : Bool) :
    OverviewApplication :=
  { app with audio := .ready current proposed muted }

def finishAudioWrite (current : CurrentVolume) (proposed : Option VolumeLevel) (muted : Bool)
    (pending : PendingAudio) : OverviewApplication × OverviewTransition :=
  match pending.volume with
  | some volume =>
    app.startAudioWrite current (some volume) muted pending.behindVolume
      (.setVolumeAndUnmute volume)
  | none =>
    match pending.muted.filter (· ≠ muted) with
    | some requested => app.startAudioWrite current proposed muted {} (.setMuted requested)
    | none => (app.audioReady current (proposed.or (currentLevel current)) muted).answer

/-- The operation to retry after a failure. -/
def retryAfter (operation : AudioOperation) (failure : AudioWriteFailure) : AudioOperation :=
  if failure = .unmuteAfterVolume then .setMuted false else operation

/-- After a failed write, where `current` is the volume that is known now. -/
def audioFailed (current : CurrentVolume) (muted : Bool) (pending : PendingAudio)
    (operation : AudioOperation) (error : AudioWriteError) : OverviewApplication :=
  { app with
    audio := .failed current (pending.volume.or (error.volumeApplied.or (currentLevel current)))
      muted pending (audioWriteError error.failure) (retryAfter operation error.failure) }

def completeAudioWrite (operation : OverviewAudioWriteOperation)
    (result : Except AudioWriteError AudioWriteOutcome) :
    Option (OverviewApplication × OverviewTransition) :=
  match app.audio with
  | .applying current proposed muted pending active =>
    if active = operation then
      match result with
      | .ok outcome =>
        some (app.finishAudioWrite ((outcome.volume.map .level).getD current)
          (outcome.volume.or proposed) (outcome.muted.getD muted) pending)
      | .error error =>
        some ((app.audioFailed ((error.volumeApplied.map .level).getD current) muted pending
          operation.operation error).answer [] s!"could not apply audio: {error.diagnostic}")
    else none
  | _ => none

/-- `next_pending` of `set_volume`. -/
def nextVolume (operation : AudioOperation) (volume : VolumeLevel) : Option VolumeLevel :=
  if operation = .setVolumeAndUnmute volume then none else some volume

def setVolume (value : Nat) : Option (OverviewApplication × OverviewTransition) :=
  match VolumeLevel.new value with
  | .error _ => none
  | .ok volume =>
    match app.audio with
    | .ready current proposed muted =>
      if proposed = some volume ∧ muted = false then none
      else some (app.startAudioWrite current (some volume) muted {} (.setVolumeAndUnmute volume))
    | .applying current proposed muted pending operation =>
      if proposed = some volume ∧ pending.volume = nextVolume operation.operation volume then none
      else some ({ app with
        audio := .applying current (some volume) muted
          { pending with volume := nextVolume operation.operation volume } operation }.answer)
    | .failed current _ muted pending _ _ =>
      if proposedIsCurrent current volume ∧ muted = false ∧ pending.muted = none then
        some ((app.audioReady current (currentLevel current) muted).answer)
      else
        some (app.startAudioWrite current (some volume) muted { muted := pending.muted }
          (.setVolumeAndUnmute volume))
    | _ => none

/-- `next_pending` of `set_muted`: what is on its way mutes or unmutes by itself. -/
def nextMuted (pending : PendingAudio) (operation : AudioOperation) (muted : Bool) : Option Bool :=
  if muted ≠ (pending.volume.map fun _ => false).getD (operationMuted operation) then some muted
  else none

def setMuted (muted : Bool) : Option (OverviewApplication × OverviewTransition) :=
  match app.audio with
  | .ready current proposed currentMuted =>
    if currentMuted = muted then none
    else some (app.startAudioWrite current proposed currentMuted {} (.setMuted muted))
  | .applying current proposed currentMuted pending operation =>
    if pending.muted = nextMuted pending operation.operation muted then none
    else some ({ app with
      audio := .applying current proposed currentMuted
        { pending with muted := nextMuted pending operation.operation muted } operation }.answer)
  | .failed current proposed currentMuted pending _ _ =>
    if currentMuted = muted ∧ pending.muted = none ∧ pending.volume = none then
      some ((app.audioReady current proposed currentMuted).answer)
    else
      -- the queued volume will unmute, even if mute is unchanged now
      some (app.startAudioWrite current proposed currentMuted
        { volume := pending.volume, muted := pending.volume.map fun _ => muted } (.setMuted muted))
  | _ => none

def retryAudio : Option (OverviewApplication × OverviewTransition) :=
  match app.audio with
  | .readFailed _ => some (app.newAudioRead.answer [.readAudio ⟨app.nextId⟩])
  | .failed current proposed muted pending _ retry =>
    some (app.startAudioWrite current proposed muted pending retry)
  | _ => none

/-! ## Intents -/

def retrySummary : Option (OverviewApplication × OverviewTransition) :=
  match app.summary with
  | .failed _ => some (app.newSummary.answer [.readSummary ⟨app.nextId⟩])
  | _ => none

def cancel : Option (OverviewApplication × OverviewTransition) :=
  if app.isClosed then none
  else some (app.shutdown, ⟨.close, [], none⟩)

def handleIntent : OverviewIntent → Option (OverviewApplication × OverviewTransition)
  | .cancel => app.cancel
  | .retrySummary => app.retrySummary
  | .setBrightness value => app.setBrightness value
  | .retryBrightness => app.retryBrightness
  | .setVolume value => app.setVolume value
  | .setMuted muted => app.setMuted muted
  | .retryAudio => app.retryAudio

end OverviewApplication

end LgBuddy
