import LgBuddy.Settings.Intent
import LgBuddy.Tv

/-!
# LgBuddy — what the overview shows

The presentations of `presentation/brightness.rs` and `presentation/overview.rs`, with the values
of `audio.rs` and `overview.rs` they speak about:

* `BrightnessPresentation` — the brightness slider, its status and its actions;
* `TvSummaryPresentation` — the configured TV and the state of its connection;
* `AudioPresentation` — the volume slider, the mute button and the status of both;
* `OverviewPresentation` — the three together.

A slider shows a *proposed* value next to the current one: where the control is headed.
-/

namespace LgBuddy

/-! ## Brightness -/

inductive BrightnessIntent where
  | propose (value : Nat)
  | apply
  | retry
  | cancel
  deriving DecidableEq, Repr

structure ActionPresentation where
  label : String
  enabled : Bool
  intent : BrightnessIntent
  deriving DecidableEq, Repr

inductive BrightnessStatus where
  | loading (message : String)
  | ready (message : String)
  | applying (message : String)
  | failed (error : UserFacingError)
  deriving DecidableEq, Repr

structure BrightnessControl where
  label : String := "OLED Pixel Brightness"
  current : OledBrightness
  proposed : OledBrightness
  minimum : Nat := 0
  maximum : Nat := 100
  step : Nat := 5
  enabled : Bool
  deriving DecidableEq, Repr

structure BrightnessPresentation where
  title : String := "LG TV Brightness"
  heading : String := "OLED Pixel Brightness"
  status : BrightnessStatus
  control : Option BrightnessControl
  primaryAction : Option ActionPresentation
  cancelAction : ActionPresentation := ⟨"Cancel", true, .cancel⟩
  deriving DecidableEq, Repr

namespace BrightnessPresentation

variable (current proposed : OledBrightness) (error : UserFacingError)

def loading : BrightnessPresentation where
  status := .loading "Loading current brightness…"
  control := none
  primaryAction := none

def ready : BrightnessPresentation where
  status := .ready s!"Current brightness: {current}%"
  control := some { current, proposed, enabled := true }
  primaryAction := some ⟨"Apply", proposed ≠ current, .apply⟩

def applying : BrightnessPresentation where
  status := .applying s!"Applying brightness: {proposed}%…"
  control := some { current, proposed, enabled := false }
  primaryAction := some ⟨"Apply", false, .apply⟩

def readFailed : BrightnessPresentation where
  status := .failed error
  control := none
  primaryAction := some ⟨"Retry", true, .retry⟩

def writeFailed : BrightnessPresentation where
  status := .failed error
  control := some { current, proposed, enabled := true }
  primaryAction := some ⟨"Retry", proposed ≠ current, .retry⟩

/-- The overview applies a moved slider at once: there is no button for it. -/
def overviewReady : BrightnessPresentation :=
  { ready current proposed with primaryAction := none }

/-- Nor is the slider locked while a value is applied. -/
def overviewApplying : BrightnessPresentation :=
  { applying current proposed with
    control := (applying current proposed).control.map ({ · with enabled := true })
    primaryAction := none }

def overviewWriteFailed : BrightnessPresentation :=
  { writeFailed current proposed error with
    primaryAction := (writeFailed current proposed error).primaryAction.map
      ({ · with enabled := true }) }

end BrightnessPresentation

/-! ## The TV -/

structure OverviewTvIdentity where
  address : Ipv4Addr
  input : HdmiInput
  platform : TvPlatform

inductive OverviewIntent where
  | setBrightness (value : Nat)
  | retryBrightness
  | setVolume (value : Nat)
  | setMuted (muted : Bool)
  | retryAudio
  | retrySummary
  | cancel
  deriving DecidableEq, Repr

structure OverviewAction where
  label : String
  enabled : Bool
  intent : OverviewIntent
  deriving DecidableEq, Repr

inductive TvConnectionState where
  | connecting
  | connected
  | disconnected
  deriving DecidableEq, Repr

inductive TvSummaryStatus where
  | loading (message : String)
  | ready (message : String)
  | failed (error : UserFacingError)
  deriving DecidableEq, Repr

structure TvSummaryPresentation where
  identity : Option OverviewTvIdentity
  status : TvSummaryStatus
  connectionState : TvConnectionState
  retryAction : Option OverviewAction

namespace TvSummaryPresentation

def loading : TvSummaryPresentation where
  identity := none
  status := .loading "Loading primary TV configuration…"
  connectionState := .connecting
  retryAction := none

def ready (identity : OverviewTvIdentity) (connectionState : TvConnectionState) :
    TvSummaryPresentation where
  identity := some identity
  status := .ready s!"{identity.address} · {identity.input.asStr}"
  connectionState := connectionState
  retryAction := none

def failed (error : UserFacingError) : TvSummaryPresentation where
  identity := none
  status := .failed error
  connectionState := .disconnected
  retryAction := some ⟨"Retry TV configuration", true, .retrySummary⟩

end TvSummaryPresentation

/-! ## Audio -/

inductive AudioOperation where
  | setVolumeAndUnmute (volume : VolumeLevel)
  | setMuted (muted : Bool)
  deriving DecidableEq, Repr

instance : ToString CurrentVolume where
  toString
    | .level volume => toString volume
    | .unknown => "unknown"

structure AudioVolumeControl where
  label : String := "TV Volume"
  current : CurrentVolume
  proposed : VolumeLevel
  minimum : Nat := 0
  maximum : Nat := 100
  step : Nat := 1
  enabled : Bool
  deriving DecidableEq, Repr

structure MuteControl where
  label : String := "Mute TV"
  current : Bool
  proposed : Bool
  enabled : Bool
  deriving DecidableEq, Repr

def MuteControl.new (current enabled : Bool) : MuteControl :=
  { current, proposed := current, enabled }

inductive AudioPresentation.Status where
  | loading (message : String)
  | ready (message : String)
  | applying (message : String)
  | failed (error : UserFacingError)
  deriving DecidableEq, Repr

structure AudioPresentation where
  status : AudioPresentation.Status
  volume : Option AudioVolumeControl
  mute : Option MuteControl
  retryAction : Option OverviewAction := none
  deriving DecidableEq, Repr

def audioMessage (volume : CurrentVolume) (muted : Bool) : String :=
  if muted then s!"Muted · volume {volume}" else s!"Volume {volume}"

namespace AudioPresentation

def loading : AudioPresentation where
  status := .loading "Loading current audio state…"
  volume := none
  mute := none

def ready (current : CurrentVolume) (proposed : Option VolumeLevel) (muted : Bool) :
    AudioPresentation where
  status := .ready (audioMessage current muted)
  volume := proposed.map fun proposed => { current, proposed, enabled := true }
  mute := some (.new muted true)

def applyingMessage : AudioOperation → String
  | .setVolumeAndUnmute volume => s!"Setting volume to {volume} and unmuting…"
  | .setMuted true => "Muting the TV…"
  | .setMuted false => "Unmuting the TV…"

def applying (current : CurrentVolume) (proposed : Option VolumeLevel) (muted : Bool)
    (operation : AudioOperation) (requestedMuted : Bool) : AudioPresentation where
  status := .applying (applyingMessage operation)
  volume := proposed.map fun proposed => { current, proposed, enabled := true }
  mute := some { MuteControl.new muted true with proposed := requestedMuted }

def failed (current : Option CurrentVolume) (proposed : Option VolumeLevel) (muted : Option Bool)
    (requestedMuted : Option Bool) (error : UserFacingError) (retry : OverviewIntent) :
    AudioPresentation where
  status := .failed error
  volume := current.bind fun current => proposed.map fun proposed =>
    { current, proposed, enabled := true }
  mute := muted.map fun muted =>
    { MuteControl.new muted true with proposed := requestedMuted.getD muted }
  retryAction := some ⟨"Retry Audio", true, retry⟩

end AudioPresentation

/-! ## The overview -/

structure OverviewPresentation where
  title : String := "LG Buddy"
  summary : TvSummaryPresentation
  brightness : BrightnessPresentation
  audio : AudioPresentation

end LgBuddy
