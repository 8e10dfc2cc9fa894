import LgBuddy.Overview.Run

/-!
# LgBuddy — overview controls end where they are shown

While a control of the overview writes, it shows where it is headed: a proposed brightness, a
proposed volume, a requested mute. Once the user lets go and the writes succeed, the control comes
to rest where it was headed:

* `heading`, `headingMuted`, `headingVolume` — where a control is headed;
* `BrightnessShown`, `AudioShown` — what is shown is what is written, in a state;
* `BrightnessState.left`, `AudioState.left` — the writes that are still to be started;
* `Settles` — the controls come to rest as shown;
* `overview_law` — they do in every state, as long as no failed volume is retried by
  `retryAudio` while the control shows another volume (`RetryShown`). That retry writes the
  failed volume and leaves the shown one as it is, where `retryBrightness` shows what it writes.
-/

namespace LgBuddy

/-! ## What may follow, and what has to be watched -/

namespace OverviewInput

/-- Neither an intent nor a change of the profile; and a write that was in flight has succeeded, and
reports what its operation sets. -/
def Follows (app : OverviewApplication) : OverviewInput → Prop
  | .brightnessWrite operation result =>
    app.brightness.flight = .flying operation → ∃ outcome, result = .ok outcome
  | .audioWrite operation result =>
    app.audio.flight = .flying operation → result = .ok operation.operation.applied
  | .summary .. | .brightnessRead .. | .audioRead .. => True
  | .intent _ | .profileChangeStarted | .profileChanged | .shutdown => False

/-- An audio write that succeeds reports what its operation sets. -/
def Reports (app : OverviewApplication) : OverviewInput → Prop
  | .audioWrite operation (.ok outcome) =>
    app.audio.flight = .flying operation → outcome = operation.operation.applied
  | _ => True

/-- A failed volume write, with no newer volume queued behind it, is only retried while its volume
is the one that is shown. -/
def RetryShown (app : OverviewApplication) : OverviewInput → Prop
  | .intent .retryAudio => ∀ current proposed muted pending error volume,
      app.audio = .failed current proposed muted pending error (.setVolumeAndUnmute volume) →
      pending.volume = none → proposed = some volume
  | _ => True

/-- An answer that follows is one the TV can give, whatever was asked. -/
theorem Follows.reports {app : OverviewApplication} {input : OverviewInput}
    (h : input.Follows app) : input.Reports app := by
  cases input with
  | audioWrite operation result =>
    cases result with
    | error => trivial
    | ok outcome => exact fun hflying => Except.ok.inj (h hflying)
  | _ => trivial

/-- No retry is among the answers of workers. -/
theorem Follows.retryShown {app : OverviewApplication} {input : OverviewInput}
    (h : input.Follows app) : input.RetryShown app := by
  cases input with
  | intent intent => exact h.elim
  | _ => trivial

end OverviewInput

/-! ## Where a control is headed -/

def BrightnessState.heading : BrightnessState → Option OledBrightness
  | .ready _ proposed | .applying _ proposed _ _ => some proposed
  | .loading _ | .failed .. | .readFailed _ | .closed => none

def AudioState.headingMuted : AudioState → Option Bool
  | .ready _ _ muted => some muted
  | .applying _ _ _ pending operation => some (requestedMute pending operation.operation)
  | .loading _ | .failed .. | .readFailed _ | .closed => none

def AudioState.headingVolume : AudioState → Option VolumeLevel
  | .ready _ proposed _ | .applying _ proposed _ _ _ => proposed
  | .loading _ | .failed .. | .readFailed _ | .closed => none

/-- The volume that an operation sets. -/
def AudioOperation.volume : AudioOperation → Option VolumeLevel
  | .setVolumeAndUnmute volume => some volume
  | .setMuted _ => none

/-- The volume that is written last: the queued one, else the one of the operation. -/
def PendingAudio.target (pending : PendingAudio) (operation : AudioOperation) :
    Option VolumeLevel :=
  pending.volume.or operation.volume

/-- The number of writes that are started behind a write that leaves the TV at `muted`. -/
def PendingAudio.left (pending : PendingAudio) (muted : Bool) : Nat :=
  match pending.volume with
  | some _ => 1 + (if pending.muted = some true then 1 else 0)
  | none => if pending.muted = some (!muted) then 1 else 0

def BrightnessState.left : BrightnessState → Nat
  | .applying _ _ pending operation =>
    if (pending.filter (· ≠ operation.brightness)).isSome then 1 else 0
  | _ => 0

def AudioState.left : AudioState → Nat
  | .applying _ _ _ pending operation => pending.left (operationMuted operation.operation)
  | _ => 0

/-- At most one queued brightness is still to be written. -/
theorem BrightnessState.left_le (state : BrightnessState) : state.left ≤ 1 := by
  cases state with
  | applying current proposed pending operation =>
    simp only [BrightnessState.left]
    split <;> omega
  | _ => exact Nat.zero_le _

/-- At most two audio commands are queued: a volume and a mute. -/
theorem AudioState.left_le (state : AudioState) : state.left ≤ 2 := by
  cases state with
  | applying current proposed muted pending operation =>
    simp only [AudioState.left, PendingAudio.left]
    split <;> split <;> omega
  | _ => exact Nat.zero_le _

/-! ## What is shown is what is written -/

/-- The brightness that is shown is the one that is written last. -/
def BrightnessState.Shown (presentation : BrightnessPresentation) : BrightnessState → Prop
  | .ready current proposed =>
    current = proposed ∧ presentation = .overviewReady current proposed
  | .applying current proposed pending operation =>
    proposed = pending.getD operation.brightness
      ∧ presentation = .overviewApplying current proposed
  | .loading _ | .failed .. | .readFailed _ | .closed => True

/-- The volume that is shown is the one that is written last; where none is written, and the TV has
reported `exact` values, it is the current one. -/
def AudioState.Shown (exact : Prop) : AudioState → Prop
  | .ready current proposed _ => exact → proposed = currentLevel current
  | .applying current proposed _ pending operation =>
    (∀ volume, pending.target operation.operation = some volume → proposed = some volume)
      ∧ (exact → pending.target operation.operation = none → proposed = currentLevel current)
  | .failed current proposed _ pending _ _ =>
    (∀ volume, pending.volume = some volume → proposed = some volume)
      ∧ (exact → pending.volume = none → proposed = currentLevel current)
  | .loading _ | .readFailed _ | .closed => True

namespace OverviewApplication

variable {app next : OverviewApplication} {exact : Prop}

def BrightnessShown (app : OverviewApplication) : Prop :=
  app.brightness.Shown app.brightnessPresentation

/-- Nothing but the audio controls differs. -/
def AudioOnly (app next : OverviewApplication) : Prop :=
  next = { app with audio := next.audio, nextId := next.nextId }

/-- Nothing but the brightness control differs. -/
def BrightnessOnly (app next : OverviewApplication) : Prop :=
  next = { app with
    brightness := next.brightness
    brightnessPresentation := next.brightnessPresentation
    nextId := next.nextId }

/-- Nothing but the summary differs. -/
def SummaryOnly (app next : OverviewApplication) : Prop :=
  next = { app with summary := next.summary, nextId := next.nextId }

/-- A step of the audio side leaves the brightness side as it was. -/
theorem AudioOnly.brightness (h : app.AudioOnly next) :
    next.brightness = app.brightness
      ∧ next.brightnessPresentation = app.brightnessPresentation := by
  rw [h]
  exact ⟨rfl, rfl⟩

/-- A step of the brightness side leaves the audio side as it was. -/
theorem BrightnessOnly.audio (h : app.BrightnessOnly next) : next.audio = app.audio := by
  rw [h]

/-- An answer to the summary says nothing of brightness. -/
theorem SummaryOnly.brightness (h : app.SummaryOnly next) :
    next.brightness = app.brightness
      ∧ next.brightnessPresentation = app.brightnessPresentation := by
  rw [h]
  exact ⟨rfl, rfl⟩

/-- An answer to the summary says nothing of audio. -/
theorem SummaryOnly.audio (h : app.SummaryOnly next) : next.audio = app.audio := by
  rw [h]

/-- Moving the volume slider is the audio side's affair, in every phase. -/
theorem setVolume_audioOnly (app : OverviewApplication) (value : Nat) :
    app.AudioOnly (app.taken (app.setVolume value)).1 := by
  unfold setVolume
  split
  · rfl
  · split
    case h_1 => split <;> rfl
    case h_2 => split <;> rfl
    case h_3 => split <;> rfl
    case h_4 => rfl

theorem setMuted_audioOnly (app : OverviewApplication) (muted : Bool) :
    app.AudioOnly (app.taken (app.setMuted muted)).1 := by
  unfold setMuted
  split
  case h_1 => split <;> rfl
  case h_2 => split <;> rfl
  case h_3 => split <;> rfl
  case h_4 => rfl

theorem retryAudio_audioOnly (app : OverviewApplication) :
    app.AudioOnly (app.taken app.retryAudio).1 := by
  unfold retryAudio
  split <;> rfl

theorem completeAudioRead_audioOnly (app : OverviewApplication)
    (operation : OverviewAudioReadOperation) (result : Except AudioReadError AudioStatus) :
    app.AudioOnly (app.taken (app.completeAudioRead operation result)).1 := by
  unfold completeAudioRead
  split
  · split
    · split <;> rfl
    · rfl
  · rfl

/-- A finished audio write, also one that starts the queued one behind it, touches nothing else.
-/
theorem completeAudioWrite_audioOnly (app : OverviewApplication)
    (operation : OverviewAudioWriteOperation)
    (result : Except AudioWriteError AudioWriteOutcome) :
    app.AudioOnly (app.taken (app.completeAudioWrite operation result)).1 := by
  unfold completeAudioWrite
  split
  · split
    · split
      · unfold finishAudioWrite
        split
        · rfl
        · split <;> rfl
      · rfl
    · rfl
  · rfl

theorem setBrightness_brightnessOnly (app : OverviewApplication) (value : Nat) :
    app.BrightnessOnly (app.taken (app.setBrightness value)).1 := by
  unfold setBrightness
  split
  · rfl
  · split
    case h_1 => split <;> rfl
    case h_2 => split <;> rfl
    case h_3 => split <;> rfl
    case h_4 => rfl

theorem retryBrightness_brightnessOnly (app : OverviewApplication) :
    app.BrightnessOnly (app.taken app.retryBrightness).1 := by
  unfold retryBrightness
  split <;> rfl

theorem completeBrightnessRead_brightnessOnly (app : OverviewApplication)
    (operation : BrightnessReadOperation) (result : Except BrightnessReadError OledBrightness) :
    app.BrightnessOnly (app.taken (app.completeBrightnessRead operation result)).1 := by
  unfold completeBrightnessRead
  split
  · split
    · split <;> rfl
    · rfl
  · rfl

/-- The same for a finished brightness write. -/
theorem completeBrightnessWrite_brightnessOnly (app : OverviewApplication)
    (operation : BrightnessWriteOperation)
    (result : Except BrightnessWriteError BrightnessWriteOutcome) :
    app.BrightnessOnly (app.taken (app.completeBrightnessWrite operation result)).1 := by
  unfold completeBrightnessWrite
  split
  · split
    · split
      · split <;> rfl
      · rfl
    · rfl
  · rfl

/-- The TV's identity is stored beside the two controls. -/
theorem completeSummary_summaryOnly (app : OverviewApplication)
    (operation : OverviewSummaryOperation)
    (result : Except OverviewSummaryError OverviewTvIdentity) :
    app.SummaryOnly (app.taken (app.completeSummary operation result)).1 := by
  unfold completeSummary
  split
  · split
    · split <;> rfl
    · rfl
  · rfl

theorem retrySummary_summaryOnly (app : OverviewApplication) :
    app.SummaryOnly (app.taken app.retrySummary).1 := by
  unfold retrySummary
  split <;> rfl

/-! ### Brightness -/

/-- What is shown depends on the brightness side only. -/
theorem BrightnessShown.of_same (h : app.BrightnessShown)
    (hsame : next.brightness = app.brightness
      ∧ next.brightnessPresentation = app.brightnessPresentation) : next.BrightnessShown := by
  unfold BrightnessShown
  rw [hsame.1, hsame.2]
  exact h

/-- A write that is started shows the value it is to write. -/
theorem newBrightnessWrite_shown (app : OverviewApplication) (current proposed : OledBrightness)
    (pending : Option OledBrightness) :
    (app.newBrightnessWrite current proposed pending).BrightnessShown :=
  ⟨rfl, rfl⟩

/-- A moved slider shows where it was moved to, whether a write is started, queued or not needed.
-/
theorem BrightnessShown.setBrightness (h : app.BrightnessShown) (value : Nat) :
    (app.taken (app.setBrightness value)).1.BrightnessShown := by
  unfold OverviewApplication.setBrightness
  split
  · exact h
  · split
    case h_1 =>
      split
      · exact h
      · exact app.newBrightnessWrite_shown _ _ _
    case h_2 proposed _ _ _ operation _ =>
      split
      · exact h
      · refine ⟨?_, rfl⟩
        -- back at the value in flight nothing stays queued, and that value is the one shown
        unfold nextBrightness
        split
        case isTrue hequal => exact hequal
        case isFalse => rfl
    case h_3 =>
      split
      case isTrue hequal => exact ⟨hequal.symm, rfl⟩
      case isFalse => exact app.newBrightnessWrite_shown _ _ _
    case h_4 => exact h

/-- A retry shows the value that had failed to be written. -/
theorem BrightnessShown.retryBrightness (h : app.BrightnessShown) :
    (app.taken app.retryBrightness).1.BrightnessShown := by
  unfold OverviewApplication.retryBrightness
  split
  · trivial
  · exact app.newBrightnessWrite_shown _ _ _
  · exact h

/-- A value that was read is shown as both the current and the proposed one. -/
theorem BrightnessShown.completeBrightnessRead (h : app.BrightnessShown)
    (operation : BrightnessReadOperation) (result : Except BrightnessReadError OledBrightness) :
    (app.taken (app.completeBrightnessRead operation result)).1.BrightnessShown := by
  unfold OverviewApplication.completeBrightnessRead
  split
  · split
    · split
      · exact ⟨rfl, rfl⟩
      · trivial
    · exact h
  · exact h

/-- After a write the queued value is started and shown, or the written one stays. -/
theorem BrightnessShown.completeBrightnessWrite (h : app.BrightnessShown)
    (operation : BrightnessWriteOperation)
    (result : Except BrightnessWriteError BrightnessWriteOutcome) :
    (app.taken (app.completeBrightnessWrite operation result)).1.BrightnessShown := by
  unfold OverviewApplication.completeBrightnessWrite
  split
  · split
    · split
      · split
        · exact app.newBrightnessWrite_shown _ _ _
        · exact ⟨rfl, rfl⟩
      · trivial
    · exact h
  · exact h

/-- **The brightness that is shown is the one that is written last**, in every state. -/
theorem BrightnessShown.step (h : app.BrightnessShown) (input : OverviewInput) :
    (app.step input).1.BrightnessShown := by
  cases input with
  | intent intent =>
    cases intent with
    | setBrightness value => exact h.setBrightness value
    | retryBrightness => exact h.retryBrightness
    | setVolume value => exact h.of_same (app.setVolume_audioOnly value).brightness
    | setMuted muted => exact h.of_same (app.setMuted_audioOnly muted).brightness
    | retryAudio => exact h.of_same app.retryAudio_audioOnly.brightness
    | retrySummary => exact h.of_same app.retrySummary_summaryOnly.brightness
    | cancel =>
      show (app.taken app.cancel).1.BrightnessShown
      unfold cancel
      split
      · exact h
      · trivial
  | profileChangeStarted =>
    show (app.taken app.profileChangeStarted).1.BrightnessShown
    unfold profileChangeStarted profileChanged
    split
    · exact h
    · trivial
  | profileChanged =>
    show (app.taken app.profileChanged).1.BrightnessShown
    unfold profileChanged
    split
    · exact h
    · trivial
  | shutdown => trivial
  | summary operation result =>
    exact h.of_same (app.completeSummary_summaryOnly operation result).brightness
  | brightnessRead operation result => exact h.completeBrightnessRead operation result
  | audioRead operation result =>
    exact h.of_same (app.completeAudioRead_audioOnly operation result).brightness
  | brightnessWrite operation result => exact h.completeBrightnessWrite operation result
  | audioWrite operation result =>
    exact h.of_same (app.completeAudioWrite_audioOnly operation result).brightness

/-! ### Audio -/

/-- A new audio write shows the volume it ends with, and without one the level that is known. -/
theorem newAudioWrite_shown {current : CurrentVolume} {proposed : Option VolumeLevel} {muted : Bool}
    {pending : PendingAudio} {operation : AudioOperation}
    (hlast : ∀ volume, pending.target operation = some volume → proposed = some volume)
    (hnone : exact → pending.target operation = none → proposed = currentLevel current) :
    (app.newAudioWrite current proposed muted pending operation).audio.Shown exact :=
  ⟨hlast, hnone⟩

/-- A volume write shows its volume, with nothing but a mute behind it. -/
theorem newVolumeWrite_shown {current : CurrentVolume} {muted : Bool} {pending : PendingAudio}
    {volume : VolumeLevel} (hnone : pending.volume = none) :
    (app.newAudioWrite current (some volume) muted pending
      (.setVolumeAndUnmute volume)).audio.Shown exact := by
  refine newAudioWrite_shown (fun last hlast => ?_) (fun _ habsent => ?_)
  · simpa [PendingAudio.target, hnone, AudioOperation.volume] using hlast
  · simp [PendingAudio.target, hnone, AudioOperation.volume] at habsent

/-- The volume slider shows what the commands in flight and in the queue end with. -/
theorem setVolume_shown (h : app.audio.Shown exact) (value : Nat) :
    (app.taken (app.setVolume value)).1.audio.Shown exact := by
  unfold setVolume
  split
  case h_1 => exact h
  case h_2 volume hvalue =>
    split
    case h_1 =>
      split
      · exact h
      · exact newVolumeWrite_shown rfl
    case h_2 operation hstate =>
      split
      · exact h
      · -- the moved slider is either in flight or queued
        have htarget : (nextVolume operation.operation volume).or operation.operation.volume
            = some volume := by
          unfold nextVolume
          split
          case isTrue hactive => simp [hactive, AudioOperation.volume]
          case isFalse => rfl
        refine ⟨fun last hlast => ?_, fun _ habsent => ?_⟩
        · exact htarget.symm.trans hlast
        · exact absurd (htarget.symm.trans habsent) (by simp)
    case h_3 =>
      split
      · exact fun _ => rfl
      · exact newVolumeWrite_shown rfl
    case h_4 => exact h

/-- Muting leaves the shown volume to the commands before it. -/
theorem setMuted_shown (h : app.audio.Shown exact) (muted : Bool) :
    (app.taken (app.setMuted muted)).1.audio.Shown exact := by
  unfold setMuted
  split
  case h_1 hstate =>
    rw [hstate] at h
    split
    · rw [taken_none, hstate]
      exact h
    · refine newAudioWrite_shown (fun _ hlast => ?_) (fun hexact _ => h hexact)
      simp [PendingAudio.target, AudioOperation.volume] at hlast
  case h_2 hstate =>
    split
    · exact h
    · rw [hstate] at h
      exact h
  case h_3 hstate =>
    rw [hstate] at h
    split
    case isTrue hsame => exact fun hexact => h.2 hexact hsame.2.2
    case isFalse =>
      -- a queued volume stays queued behind the mute
      refine newAudioWrite_shown (fun last hlast => h.1 last ?_)
        (fun hexact habsent => h.2 hexact ?_)
      · simpa [PendingAudio.target, AudioOperation.volume] using hlast
      · simpa [PendingAudio.target, AudioOperation.volume] using habsent
  case h_4 => exact h

/-- A retry brings the failed command back in front of the queue, so the queue's volume is still
the one shown. -/
theorem retryAudio_shown (h : app.audio.Shown exact)
    (hretry : OverviewInput.RetryShown app (.intent .retryAudio)) :
    (app.taken app.retryAudio).1.audio.Shown exact := by
  unfold retryAudio
  split
  · trivial
  case h_2 current proposed muted pending error retry hstate =>
    rw [hstate] at h
    refine newAudioWrite_shown (fun last hlast => ?_) (fun hexact habsent => h.2 hexact ?_)
    -- without a queued volume the retried command itself must bring the shown one
    · rcases hvolume : pending.volume with _ | queued
      · cases retry with
        | setVolumeAndUnmute volume =>
          have hshown := hretry _ _ _ _ _ _ hstate hvolume
          simpa [PendingAudio.target, hvolume, AudioOperation.volume, hshown] using hlast
        | setMuted => simp [PendingAudio.target, hvolume, AudioOperation.volume] at hlast
      · have hqueued : queued = last := by simpa [PendingAudio.target, hvolume] using hlast
        exact h.1 last (hqueued ▸ hvolume)
    · simp only [PendingAudio.target, Option.or_eq_none_iff] at habsent
      exact habsent.1
  · exact h

/-- A status that was read shows its own level. -/
theorem completeAudioRead_shown (h : app.audio.Shown exact) (operation : OverviewAudioReadOperation)
    (result : Except AudioReadError AudioStatus) :
    (app.taken (app.completeAudioRead operation result)).1.audio.Shown exact := by
  unfold completeAudioRead
  split
  · split
    · split
      · exact fun _ => rfl
      · trivial
    · exact h
  · exact h

/-- Nothing is queued that writes a volume: what is shown is what is known. -/
theorem finishAudioWrite_shown {current : CurrentVolume} {proposed : Option VolumeLevel}
    {muted : Bool} {pending : PendingAudio}
    (hknown : exact → pending.volume = none → proposed = currentLevel current) :
    (app.finishAudioWrite current proposed muted pending).1.audio.Shown exact := by
  unfold finishAudioWrite
  split
  case h_1 => exact newVolumeWrite_shown rfl
  case h_2 hnone =>
    split
    · refine newAudioWrite_shown (fun _ hlast => ?_) (fun hexact _ => hknown hexact hnone)
      simp [PendingAudio.target, AudioOperation.volume] at hlast
    · intro hexact
      rw [hknown hexact hnone, Option.or_self]

/-- A finished audio write shows what is queued behind it, or what it has set. -/
theorem completeAudioWrite_shown (h : app.audio.Shown exact)
    (operation : OverviewAudioWriteOperation) (result : Except AudioWriteError AudioWriteOutcome)
    (hreports : exact → OverviewInput.Reports app (.audioWrite operation result)) :
    (app.taken (app.completeAudioWrite operation result)).1.audio.Shown exact := by
  unfold completeAudioWrite
  split
  case h_1 current proposed muted pending active hstate =>
    split
    case isTrue hactive =>
      subst hactive
      have hflying : app.audio.flight = .flying active := by rw [hstate]; rfl
      rw [hstate] at h
      split
      case h_1 outcome =>
        refine finishAudioWrite_shown fun hexact hnone => ?_
        have houtcome := hreports hexact hflying
        -- nothing queued brings a volume, so the level comes from the answer or was shown before
        cases hoperation : active.operation with
        | setVolumeAndUnmute volume =>
          simp [houtcome, hoperation, AudioOperation.applied, currentLevel]
        | setMuted requested =>
          have hlevel := h.2 hexact (by simp [PendingAudio.target, hnone, hoperation,
            AudioOperation.volume])
          simpa [houtcome, hoperation, AudioOperation.applied] using hlevel
      case h_2 error =>
        -- a failed write shows what it has already applied, if anything
        refine ⟨fun volume hvolume => by simp [hvolume], fun _ hnone => ?_⟩
        rw [hnone, Option.none_or]
        cases error.volumeApplied with
        | none => rfl
        | some => rfl
    case isFalse => exact h
  case h_2 => exact h

/-- **The volume that is shown is the one that is written last**, as long as no retry writes
another one. -/
theorem step_audio_shown (h : app.audio.Shown exact) {input : OverviewInput}
    (hretry : input.RetryShown app) (hreports : exact → input.Reports app) :
    (app.step input).1.audio.Shown exact := by
  -- the steps of the other cards leave the audio card alone
  have of_same {next : OverviewApplication} (hsame : next.audio = app.audio) :
      next.audio.Shown exact := hsame ▸ h
  cases input with
  | intent intent =>
    cases intent with
    | setBrightness value => exact of_same (app.setBrightness_brightnessOnly value).audio
    | retryBrightness => exact of_same app.retryBrightness_brightnessOnly.audio
    | setVolume value => exact setVolume_shown h value
    | setMuted muted => exact setMuted_shown h muted
    | retryAudio => exact retryAudio_shown h hretry
    | retrySummary => exact of_same app.retrySummary_summaryOnly.audio
    | cancel =>
      show (app.taken app.cancel).1.audio.Shown exact
      unfold cancel
      split
      · exact h
      · trivial
  | profileChangeStarted =>
    show (app.taken app.profileChangeStarted).1.audio.Shown exact
    unfold profileChangeStarted profileChanged
    split
    · exact h
    · trivial
  | profileChanged =>
    show (app.taken app.profileChanged).1.audio.Shown exact
    unfold profileChanged
    split
    · exact h
    · trivial
  | shutdown => trivial
  | summary operation result =>
    exact of_same (app.completeSummary_summaryOnly operation result).audio
  | brightnessRead operation result =>
    exact of_same (app.completeBrightnessRead_brightnessOnly operation result).audio
  | audioRead operation result => exact completeAudioRead_shown h operation result
  | brightnessWrite operation result =>
    exact of_same (app.completeBrightnessWrite_brightnessOnly operation result).audio
  | audioWrite operation result => exact completeAudioWrite_shown h operation result hreports

/-! ## One step on the way to rest -/

/-- What the ends that follow do to the brightness control: it stays headed where it is, and what it
writes is one of the writes that were left. -/
def BrightnessFollows (app : OverviewApplication)
    (next : OverviewApplication × List OverviewOperation) : Prop :=
  (∀ brightness, app.brightness.heading = some brightness →
      next.1.brightness.heading = some brightness)
    ∧ next.1.brightness.left + (brightnessWrites next.2).length = app.brightness.left

/-- Where the state stays and nothing is written, the heading stays too. -/
theorem BrightnessFollows.of_same {next : OverviewApplication × List OverviewOperation}
    (hsame : next.1.brightness = app.brightness) (hquiet : brightnessWrites next.2 = []) :
    app.BrightnessFollows next := by
  unfold BrightnessFollows
  rw [hsame, hquiet]
  exact ⟨fun _ h => h, rfl⟩

/-- A step that is not about the brightness. -/
theorem Moves.brightnessFollows {next : OverviewApplication × List OverviewOperation}
    {audio : Option OverviewAudioWriteOperation} (hmoves : app.Moves none audio next)
    (hsame : next.1.brightness = app.brightness) : app.BrightnessFollows next :=
  .of_same hsame (hmoves.brightness.quiet (by rw [hsame]))

/-- No write is under way while brightness is being read. -/
theorem completeBrightnessRead_follows (app : OverviewApplication)
    (operation : BrightnessReadOperation) (result : Except BrightnessReadError OledBrightness) :
    app.BrightnessFollows (app.taken (app.completeBrightnessRead operation result)) := by
  unfold completeBrightnessRead BrightnessFollows
  split
  case h_1 hstate =>
    rw [hstate]
    split
    · split
      · exact ⟨fun _ h => (by cases h), rfl⟩
      · exact ⟨fun _ h => (by cases h), rfl⟩
    · rw [taken_none, hstate]
      exact ⟨fun _ h => h, rfl⟩
  case h_2 => exact ⟨fun _ h => h, rfl⟩

/-- A successful write either ends with the shown value or hands over to the one queued write. -/
theorem completeBrightnessWrite_follows (h : app.BrightnessShown)
    {operation : BrightnessWriteOperation}
    {result : Except BrightnessWriteError BrightnessWriteOutcome}
    (hfollows : OverviewInput.Follows app (.brightnessWrite operation result)) :
    app.BrightnessFollows (app.taken (app.completeBrightnessWrite operation result)) := by
  unfold completeBrightnessWrite
  split
  case h_1 current proposed pending active hstate =>
    split
    case isTrue hactive =>
      subst hactive
      obtain ⟨outcome, rfl⟩ := hfollows (by rw [hstate]; rfl)
      unfold BrightnessShown at h
      rw [hstate] at h
      unfold BrightnessFollows
      rw [hstate]
      simp only [BrightnessState.heading, BrightnessState.left, Option.some.injEq]
      obtain ⟨hproposed, -⟩ := h
      rcases hfilter : pending.filter (· ≠ active.brightness) with _ | next
      · -- nothing newer is queued: what was written is what is shown
        have hshown : proposed = active.brightness := by
          rw [hproposed]
          cases pending with
          | none => rfl
          | some queued => simpa [Option.filter] using hfilter
        simp [brightnessReady, hshown]
      · obtain ⟨hqueued, -⟩ := Option.filter_eq_some_iff.mp hfilter
        simp [startBrightnessWrite, newBrightnessWrite, answer, transition, brightnessWrites,
          hproposed, hqueued]
    case isFalse => exact .of_same rfl rfl
  case h_2 => exact .of_same rfl rfl

/-- **Step, brightness.** Every answer that follows keeps the value that brightness is heading
for, and uses up the queue for what it starts. -/
theorem step_brightnessFollows (h : app.BrightnessShown) {input : OverviewInput}
    (hfollows : input.Follows app) : app.BrightnessFollows (app.step input) := by
  cases input with
  | intent => exact hfollows.elim
  | profileChangeStarted => exact hfollows.elim
  | profileChanged => exact hfollows.elim
  | shutdown => exact hfollows.elim
  | summary operation result =>
    exact (app.completeSummary_moves operation result).brightnessFollows
      (app.completeSummary_summaryOnly operation result).brightness.1
  | brightnessRead operation result => exact app.completeBrightnessRead_follows operation result
  | audioRead operation result =>
    exact (app.completeAudioRead_moves operation result).brightnessFollows
      (app.completeAudioRead_audioOnly operation result).brightness.1
  | brightnessWrite operation result => exact completeBrightnessWrite_follows h hfollows
  | audioWrite operation result =>
    exact (app.completeAudioWrite_moves operation result).brightnessFollows
      (app.completeAudioWrite_audioOnly operation result).brightness.1

/-- What the ends that follow do to the audio controls. -/
def AudioFollows (app : OverviewApplication)
    (next : OverviewApplication × List OverviewOperation) : Prop :=
  (∀ muted, app.audio.headingMuted = some muted → next.1.audio.headingMuted = some muted)
    ∧ (∀ volume, app.audio.headingVolume = some volume →
        next.1.audio.headingVolume = some volume)
    ∧ next.1.audio.left + (audioWrites next.2).length = app.audio.left

/-- Where the audio state stays and nothing is written, both headings stay. -/
theorem AudioFollows.of_same {next : OverviewApplication × List OverviewOperation}
    (hsame : next.1.audio = app.audio) (hquiet : audioWrites next.2 = []) :
    app.AudioFollows next := by
  unfold AudioFollows
  rw [hsame, hquiet]
  exact ⟨fun _ h => h, fun _ h => h, rfl⟩

/-- A step that is not about the audio. -/
theorem Moves.audioFollows {next : OverviewApplication × List OverviewOperation}
    {brightness : Option BrightnessWriteOperation} (hmoves : app.Moves brightness none next)
    (hsame : next.1.audio = app.audio) : app.AudioFollows next :=
  .of_same hsame (hmoves.audio.quiet (by rw [hsame]))

/-- No audio command is under way while the status is being read. -/
theorem completeAudioRead_follows (app : OverviewApplication)
    (operation : OverviewAudioReadOperation) (result : Except AudioReadError AudioStatus) :
    app.AudioFollows (app.taken (app.completeAudioRead operation result)) := by
  unfold completeAudioRead AudioFollows
  split
  case h_1 hstate =>
    rw [hstate]
    split
    · split
      · exact ⟨fun _ h => (by cases h), fun _ h => (by cases h), rfl⟩
      · exact ⟨fun _ h => (by cases h), fun _ h => (by cases h), rfl⟩
    · rw [taken_none, hstate]
      exact ⟨fun _ h => h, fun _ h => h, rfl⟩
  case h_2 => exact ⟨fun _ h => h, fun _ h => h, rfl⟩

/-- The mute that an operation reports is the one it sets. -/
theorem applied_muted (operation : AudioOperation) :
    operation.applied.muted = some (operationMuted operation) := by
  cases operation <;> rfl

/-- What an operation applies is the volume that it sets. -/
theorem applied_volume (operation : AudioOperation) :
    operation.applied.volume = operation.volume := by
  cases operation <;> rfl

/-- Behind a queued volume only a mute is left, which is what was requested. -/
theorem requestedMute_behindVolume {pending : PendingAudio} {volume : VolumeLevel}
    (hvolume : pending.volume = some volume) (operation : AudioOperation) :
    requestedMute pending.behindVolume (.setVolumeAndUnmute volume)
      = requestedMute pending operation := by
  rcases hmuted : pending.muted with _ | _ | _ <;>
    simp [requestedMute, PendingAudio.behindVolume, hvolume, hmuted, operationMuted, Option.filter]

/-- Taking the volume out of the queue leaves one command less, whatever the mute. -/
theorem left_behindVolume {pending : PendingAudio} {volume : VolumeLevel}
    (hvolume : pending.volume = some volume) (muted : Bool) :
    pending.behindVolume.left false + 1 = pending.left muted := by
  rcases hmuted : pending.muted with _ | _ | _ <;>
    simp [PendingAudio.left, PendingAudio.behindVolume, hvolume, hmuted, Option.filter]

/-- A queued mute is the one requested. -/
theorem requestedMute_of_muted {pending : PendingAudio} {requested : Bool}
    (hmuted : pending.muted = some requested) (operation : AudioOperation) :
    requestedMute pending operation = requested := by
  simp [requestedMute, hmuted]

/-- With no volume queued, a mute that differs from `muted` is the one write that is left. -/
theorem left_of_requested {pending : PendingAudio} {requested muted : Bool}
    (hvolume : pending.volume = none)
    (hmuted : pending.muted.filter (· ≠ muted) = some requested) : pending.left muted = 1 := by
  obtain ⟨hqueued, hne⟩ := Option.filter_eq_some_iff.mp hmuted
  have hnot : requested = !muted := by cases requested <;> cases muted <;> simp_all
  simp [PendingAudio.left, hvolume, hqueued, hnot]

/-- With nothing left to write, the operation sets what was requested. -/
theorem requestedMute_of_settled {pending : PendingAudio} {operation : AudioOperation}
    (hvolume : pending.volume = none)
    (hmuted : pending.muted.filter (· ≠ operationMuted operation) = none) :
    requestedMute pending operation = operationMuted operation := by
  cases hqueued : pending.muted with
  | none => simp [requestedMute, hvolume, hqueued]
  | some requested =>
    rw [requestedMute_of_muted hqueued]
    simpa [hqueued, Option.filter] using hmuted

/-- With no volume queued and no other mute, nothing is left to do. -/
theorem left_of_settled {pending : PendingAudio} {muted : Bool}
    (hvolume : pending.volume = none) (hmuted : pending.muted.filter (· ≠ muted) = none) :
    pending.left muted = 0 := by
  rcases hqueued : pending.muted with _ | _ | _ <;> cases muted <;>
    simp_all [PendingAudio.left, Option.filter]

/-- After a finished command the queue goes on in order: the volume first, then a mute that
differs, and the headings are those of the queue before. -/
theorem finishAudioWrite_follows {current : CurrentVolume} {proposed : Option VolumeLevel}
    {pending : PendingAudio} {operation : AudioOperation}
    (hlast : ∀ volume, pending.target operation = some volume → proposed = some volume) :
    let next := app.finishAudioWrite current (operation.volume.or proposed)
      (operationMuted operation) pending
    next.1.audio.headingMuted = some (requestedMute pending operation)
      ∧ (∀ volume, proposed = some volume → next.1.audio.headingVolume = some volume)
      ∧ next.1.audio.left + (audioWrites next.2.operations).length
        = pending.left (operationMuted operation) := by
  unfold finishAudioWrite
  rcases hvolume : pending.volume with _ | volume
  · -- a volume that the operation has set is the one that is shown
    have hkept (volume : VolumeLevel) (hshown : proposed = some volume) :
        operation.volume.or proposed = some volume := by
      cases hset : operation.volume with
      | none => simpa using hshown
      | some set =>
        have hsame := hlast set (by simp [PendingAudio.target, hvolume, hset])
        rw [Option.some_or, ← hsame, hshown]
    -- no volume is queued: either all is settled, or the mute is started
    rcases hmuted : pending.muted.filter (· ≠ operationMuted operation) with _ | requested
    · refine ⟨?_, fun volume hshown => ?_, ?_⟩
      · rw [requestedMute_of_settled hvolume hmuted]
        rfl
      · simp [answer, audioReady, AudioState.headingVolume, hkept volume hshown]
      · rw [left_of_settled hvolume hmuted]
        rfl
    · have hqueued := (Option.filter_eq_some_iff.mp hmuted).1
      refine ⟨?_, hkept, ?_⟩
      · rw [requestedMute_of_muted hqueued]
        rfl
      · rw [left_of_requested hvolume hmuted]
        rfl
  -- the queued volume is started, and unmutes
  · refine ⟨?_, fun shown hshown => ?_, ?_⟩
    · rw [← requestedMute_behindVolume hvolume]
      rfl
    · rw [← hshown, hlast volume (by simp [PendingAudio.target, hvolume])]
      rfl
    · rw [← left_behindVolume hvolume]
      rfl

/-- A successful audio command keeps both headings. -/
theorem completeAudioWrite_follows (h : app.audio.Shown exact)
    {operation : OverviewAudioWriteOperation} {result : Except AudioWriteError AudioWriteOutcome}
    (hfollows : OverviewInput.Follows app (.audioWrite operation result)) :
    app.AudioFollows (app.taken (app.completeAudioWrite operation result)) := by
  unfold completeAudioWrite
  split
  case h_1 current proposed muted pending active hstate =>
    split
    case isTrue hactive =>
      subst hactive
      have hok := hfollows (by rw [hstate]; rfl)
      subst hok
      rw [hstate] at h
      obtain ⟨hmuted, hvolume, hleft⟩ := @finishAudioWrite_follows app
        ((active.operation.applied.volume.map CurrentVolume.level).getD current) _ _ _ h.1
      unfold AudioFollows
      rw [hstate]
      simp only [applied_muted, applied_volume, Option.getD_some]
      rw [applied_volume] at hmuted hvolume hleft
      exact ⟨fun _ hwas => Option.some.inj hwas ▸ hmuted, hvolume, hleft⟩
    case isFalse => exact .of_same rfl rfl
  case h_2 => exact .of_same rfl rfl

/-- **Step, audio.** Every answer that follows keeps the mute and the volume that audio is heading
for. -/
theorem step_audioFollows (h : app.audio.Shown exact) {input : OverviewInput}
    (hfollows : input.Follows app) : app.AudioFollows (app.step input) := by
  cases input with
  | intent => exact hfollows.elim
  | profileChangeStarted => exact hfollows.elim
  | profileChanged => exact hfollows.elim
  | shutdown => exact hfollows.elim
  | summary operation result =>
    exact (app.completeSummary_moves operation result).audioFollows
      (app.completeSummary_summaryOnly operation result).audio
  | brightnessRead operation result =>
    exact (app.completeBrightnessRead_moves operation result).audioFollows
      (app.completeBrightnessRead_brightnessOnly operation result).audio
  | audioRead operation result => exact app.completeAudioRead_follows operation result
  | brightnessWrite operation result =>
    exact (app.completeBrightnessWrite_moves operation result).audioFollows
      (app.completeBrightnessWrite_brightnessOnly operation result).audio
  | audioWrite operation result => exact completeAudioWrite_follows h hfollows

/-! ## Coming to rest -/

/-- A run of ends that `Follows` allows. -/
def Following (app : OverviewApplication) (inputs : List OverviewInput) : Prop :=
  ∀ t ∈ Mealy.transitions step app inputs, t.input.Follows t.pre

/-- The writes in flight that end in a run. -/
def brightnessAnswers (app : OverviewApplication) (inputs : List OverviewInput) : Nat :=
  (Mealy.transitions step app inputs).countP fun t =>
    t.pre.brightness.flight.answered t.input.brightnessDone

def audioAnswers (app : OverviewApplication) (inputs : List OverviewInput) : Nat :=
  (Mealy.transitions step app inputs).countP fun t =>
    t.pre.audio.flight.answered t.input.audioDone

/-- What holds between the start and the end of a run that `Follows` allows. -/
structure Headed (exact : Prop) (app : OverviewApplication) (inputs : List OverviewInput) :
    Prop where
  brightnessShown : (Mealy.exec step app inputs).BrightnessShown
  audioShown : (Mealy.exec step app inputs).audio.Shown exact
  heading : ∀ brightness, app.brightness.heading = some brightness →
    (Mealy.exec step app inputs).brightness.heading = some brightness
  headingMuted : ∀ muted, app.audio.headingMuted = some muted →
    (Mealy.exec step app inputs).audio.headingMuted = some muted
  headingVolume : ∀ volume, app.audio.headingVolume = some volume →
    (Mealy.exec step app inputs).audio.headingVolume = some volume
  brightnessLeft : (Mealy.exec step app inputs).brightness.left
    + (brightnessWrites (Mealy.trace step app inputs)).length = app.brightness.left
  audioLeft : (Mealy.exec step app inputs).audio.left
    + (audioWrites (Mealy.trace step app inputs)).length = app.audio.left
  brightnessAnswers : app.brightnessAnswers inputs
      + (Mealy.exec step app inputs).brightness.flight.size
    ≤ (brightnessWrites (Mealy.trace step app inputs)).length + app.brightness.flight.size
  audioAnswers : app.audioAnswers inputs + (Mealy.exec step app inputs).audio.flight.size
    ≤ (audioWrites (Mealy.trace step app inputs)).length + app.audio.flight.size

/-- **Run.** Over answers that all follow, the headings stay and each answer but the last is paid
for by one write of the queue. -/
theorem headed_of_following {inputs : List OverviewInput} (htogether : app.ClosedTogether)
    (hbrightness : app.BrightnessShown) (haudio : app.audio.Shown exact)
    (hfollowing : app.Following inputs) : Headed exact app inputs := by
  induction inputs generalizing app with
  | nil =>
    exact ⟨hbrightness, haudio, fun _ h => h, fun _ h => h, fun _ h => h, rfl, rfl,
      by simp [OverviewApplication.brightnessAnswers],
      by simp [OverviewApplication.audioAnswers]⟩
  | cons input inputs ih =>
    -- the first step's balance and the balance of the rest add up
    have hfollows : input.Follows app := hfollowing ⟨app, input, _⟩ (List.mem_cons_self ..)
    have hrest : (app.step input).1.Following inputs :=
      fun t ht => hfollowing t (List.mem_cons_of_mem _ ht)
    have hmoves := step_moves htogether input
    have h := ih (hmoves.together htogether) (hbrightness.step input)
      (step_audio_shown haudio hfollows.retryShown fun _ => hfollows.reports) hrest
    obtain ⟨hhead, hleft⟩ := step_brightnessFollows hbrightness hfollows
    obtain ⟨hheadMuted, hheadVolume, hleft'⟩ := step_audioFollows haudio hfollows
    have hbalance := hmoves.brightness.balance
    have hbalance' := hmoves.audio.balance
    have hfinal := h.brightnessLeft
    have hfinal' := h.audioLeft
    have hanswers := h.brightnessAnswers
    have hanswers' := h.audioAnswers
    refine ⟨h.brightnessShown, h.audioShown, fun b hb => h.heading b (hhead b hb),
      fun m hm => h.headingMuted m (hheadMuted m hm),
      fun v hv => h.headingVolume v (hheadVolume v hv), ?_, ?_, ?_, ?_⟩
    all_goals
      simp only [Mealy.exec_cons, Mealy.trace_cons, brightnessWrites_append, audioWrites_append,
        List.length_append, OverviewApplication.brightnessAnswers,
        OverviewApplication.audioAnswers, Mealy.transitions_cons, List.countP_cons] at *
      omega

/-- The controls come to rest as shown, in a run of ends that `Follows` allows: few writes are
started, few are waited for, and a control that is ready or writing ends ready with what was shown
for it at the start. -/
structure Settles (app : OverviewApplication) (inputs : List OverviewInput) : Prop where
  brightnessStarted : (brightnessWrites (Mealy.trace step app inputs)).length ≤ 1
  audioStarted : (audioWrites (Mealy.trace step app inputs)).length ≤ 2
  brightnessAnswers : app.brightnessAnswers inputs ≤ 2
  audioAnswers : app.audioAnswers inputs ≤ 3
  brightness : app.brightness.heading.isSome →
    (Mealy.exec step app inputs).brightness.flight = .idle →
    ∃ control, app.presentation.brightness.control = some control
      ∧ (Mealy.exec step app inputs).brightness = .ready control.proposed control.proposed
  audio : app.audio.headingMuted.isSome →
    (Mealy.exec step app inputs).audio.flight = .idle →
    ∃ control current proposed, app.presentation.audio.mute = some control
      ∧ (Mealy.exec step app inputs).audio = .ready current proposed control.proposed
      ∧ ∀ volume, app.presentation.audio.volume = some volume → proposed = some volume.proposed

/-- A brightness that is heading somewhere has a control that shows it. -/
theorem control_of_heading {brightness : OledBrightness} (h : app.BrightnessShown)
    (hheading : app.brightness.heading = some brightness) :
    ∃ control, app.presentation.brightness.control = some control
      ∧ control.proposed = brightness := by
  unfold BrightnessShown at h
  cases hstate : app.brightness with
  | ready current proposed =>
    rw [hstate] at h hheading
    cases hheading
    exact ⟨_, by rw [presentation, h.2]; rfl, rfl⟩
  | applying current proposed pending operation =>
    rw [hstate] at h hheading
    cases hheading
    exact ⟨_, by rw [presentation, h.2]; rfl, rfl⟩
  | loading => simp [hstate, BrightnessState.heading] at hheading
  | failed => simp [hstate, BrightnessState.heading] at hheading
  | readFailed => simp [hstate, BrightnessState.heading] at hheading
  | closed => simp [hstate, BrightnessState.heading] at hheading

/-- The value a mute is heading for is the one its control proposes. -/
theorem mute_of_heading {muted : Bool} (hheading : app.audio.headingMuted = some muted) :
    ∃ control, app.presentation.audio.mute = some control ∧ control.proposed = muted := by
  cases hstate : app.audio with
  | ready current proposed muted =>
    rw [hstate] at hheading
    cases hheading
    refine ⟨MuteControl.new muted true, ?_, rfl⟩
    simp [presentation, audioPresentation, hstate, AudioPresentation.ready]
  | applying current proposed muted pending operation =>
    rw [hstate] at hheading
    cases hheading
    -- while a command is applied, the control shows the requested mute
    refine ⟨{ MuteControl.new muted true with
      proposed := requestedMute pending operation.operation }, ?_, rfl⟩
    simp [presentation, audioPresentation, hstate, AudioPresentation.applying]
  | loading => simp [hstate, AudioState.headingMuted] at hheading
  | failed => simp [hstate, AudioState.headingMuted] at hheading
  | readFailed => simp [hstate, AudioState.headingMuted] at hheading
  | closed => simp [hstate, AudioState.headingMuted] at hheading

/-- The slider of a control that is ready or writing shows where the volume is headed. -/
theorem headingVolume_of_control {control : AudioVolumeControl} {muted : Bool}
    (hheading : app.audio.headingMuted = some muted)
    (hcontrol : app.presentation.audio.volume = some control) :
    app.audio.headingVolume = some control.proposed := by
  cases hstate : app.audio with
  | ready current proposed muted =>
    simp only [presentation, audioPresentation, hstate, AudioPresentation.ready,
      Option.map_eq_some_iff] at hcontrol
    obtain ⟨volume, hvolume, rfl⟩ := hcontrol
    exact hvolume
  | applying current proposed muted pending operation =>
    simp only [presentation, audioPresentation, hstate, AudioPresentation.applying,
      Option.map_eq_some_iff] at hcontrol
    obtain ⟨volume, hvolume, rfl⟩ := hcontrol
    exact hvolume
  | loading => simp [hstate, AudioState.headingMuted] at hheading
  | failed => simp [hstate, AudioState.headingMuted] at hheading
  | readFailed => simp [hstate, AudioState.headingMuted] at hheading
  | closed => simp [hstate, AudioState.headingMuted] at hheading

/-- With nothing in flight, brightness is ready with the value it was heading for. -/
theorem ready_of_heading {brightness : OledBrightness} (h : app.BrightnessShown)
    (hheading : app.brightness.heading = some brightness)
    (hidle : app.brightness.flight = .idle) : app.brightness = .ready brightness brightness := by
  unfold BrightnessShown at h
  cases hstate : app.brightness with
  | ready current proposed =>
    rw [hstate] at h hheading
    cases hheading
    rw [h.1]
  | applying => simp [hstate, BrightnessState.flight] at hidle
  | loading => simp [hstate, BrightnessState.heading] at hheading
  | failed => simp [hstate, BrightnessState.heading] at hheading
  | readFailed => simp [hstate, BrightnessState.heading] at hheading
  | closed => simp [hstate, BrightnessState.heading] at hheading

/-- With nothing in flight, audio is ready with the mute it was heading for. -/
theorem ready_of_headingMuted {muted : Bool} (hheading : app.audio.headingMuted = some muted)
    (hidle : app.audio.flight = .idle) :
    ∃ current, app.audio = .ready current app.audio.headingVolume muted := by
  cases hstate : app.audio with
  | ready current proposed muted =>
    rw [hstate] at hheading
    cases hheading
    exact ⟨current, rfl⟩
  | applying => simp [hstate, AudioState.flight] at hidle
  | loading => simp [hstate, AudioState.headingMuted] at hheading
  | failed => simp [hstate, AudioState.headingMuted] at hheading
  | readFailed => simp [hstate, AudioState.headingMuted] at hheading
  | closed => simp [hstate, AudioState.headingMuted] at hheading

/-- A run that is headed settles: few answers, and at the end what the controls showed at its
start. -/
theorem Headed.settles {inputs : List OverviewInput} (h : Headed exact app inputs)
    (hshown : app.BrightnessShown) : app.Settles inputs := by
  have hleft := h.brightnessLeft
  have hleft' := h.audioLeft
  have hanswers := h.brightnessAnswers
  have hanswers' := h.audioAnswers
  have hbound := app.brightness.left_le
  have hbound' := app.audio.left_le
  have hsize := app.brightness.flight.size_le
  have hsize' := app.audio.flight.size_le
  refine ⟨by omega, by omega, by omega, by omega, fun hlive hidle => ?_, fun hlive hidle => ?_⟩
  · obtain ⟨brightness, hheading⟩ := Option.isSome_iff_exists.mp hlive
    obtain ⟨control, hcontrol, hproposed⟩ := control_of_heading hshown hheading
    refine ⟨control, hcontrol, ?_⟩
    rw [hproposed]
    exact ready_of_heading h.brightnessShown (h.heading brightness hheading) hidle
  · obtain ⟨muted, hheading⟩ := Option.isSome_iff_exists.mp hlive
    obtain ⟨control, hcontrol, hproposed⟩ := mute_of_heading hheading
    obtain ⟨current, hready⟩ := ready_of_headingMuted (h.headingMuted muted hheading) hidle
    refine ⟨control, current, _, hcontrol, hproposed ▸ hready, fun volume hvolume => ?_⟩
    exact h.headingVolume _ (headingVolume_of_control hheading hvolume)

end OverviewApplication

/-! ## Every run -/

namespace OverviewRun

/-- The steps of a run of the overview. -/
def steps (inputs : List OverviewInput) :
    List (Mealy.Transition OverviewRun OverviewInput (List OverviewOperation)) :=
  Mealy.transitions step {} inputs

/-- The step that `input` takes behind the inputs `is`. -/
def lastStep (is : List OverviewInput) (input : OverviewInput) :
    Mealy.Transition OverviewRun OverviewInput (List OverviewOperation) :=
  ⟨after is, input, (step (after is) input).2⟩

/-- What is shown is what is written, after every run whose retries are shown. -/
theorem shown_after {exact : Prop} (inputs : List OverviewInput)
    (hretries : ∀ t ∈ steps inputs, t.input.RetryShown t.pre.app)
    (hreports : exact → ∀ t ∈ steps inputs, t.input.Reports t.pre.app) :
    (after inputs).app.BrightnessShown ∧ (after inputs).app.audio.Shown exact := by
  refine @Mealy.exec_induct _ _ _ step (fun is run => (∀ t ∈ steps is, t.input.RetryShown t.pre.app) →
      (exact → ∀ t ∈ steps is, t.input.Reports t.pre.app) →
      run.app.BrightnessShown ∧ run.app.audio.Shown exact) {}
    (fun _ _ => ⟨trivial, trivial⟩) (fun is input ih hretries hreports => ?_) inputs
    hretries hreports
  have hsteps : steps (is ++ [input]) = steps is ++ [lastStep is input] := by
    unfold steps
    rw [Mealy.transitions_concat]
    rfl
  rw [hsteps] at hretries hreports
  obtain ⟨hbrightness, haudio⟩ := ih (fun t ht => hretries t (List.mem_append_left _ ht))
    (fun hexact t ht => hreports hexact t (List.mem_append_left _ ht))
  have hlast : lastStep is input ∈ steps is ++ [lastStep is input] :=
    List.mem_append_right _ (List.mem_singleton_self _)
  exact ⟨hbrightness.step input, OverviewApplication.step_audio_shown haudio (hretries _ hlast)
    fun hexact => hreports hexact _ hlast⟩

end OverviewRun

/-- **Overview controls end where they are shown.** After every run whose retries of a failed volume
show that volume: at most one write of each kind is unresolved, no operation has been handed out
twice, the end of an operation that is not waited for changes nothing, and every run of ends that
follows settles. Where the TV has reported what was set, the volume at rest is also the current
one. -/
theorem overview_law (inputs : List OverviewInput)
    (hretries : ∀ t ∈ OverviewRun.steps inputs, t.input.RetryShown t.pre.app) :
    (OverviewRun.after inputs).brightnessWrites.length ≤ 1
      ∧ (OverviewRun.after inputs).audioWrites.length ≤ 1
      ∧ (OverviewRun.after inputs).handedOut.Nodup
      ∧ (∀ input operation, input.completes = some operation →
          ¬ (OverviewRun.after inputs).app.Awaits operation →
          (OverviewRun.after inputs).app.step input = ((OverviewRun.after inputs).app, []))
      ∧ (∀ following, (OverviewRun.after inputs).app.Following following →
          (OverviewRun.after inputs).app.Settles following)
      ∧ ((∀ t ∈ OverviewRun.steps inputs, t.input.Reports t.pre.app) →
          ∀ following, (OverviewRun.after inputs).app.Following following →
          ∀ current proposed muted,
            (Mealy.exec OverviewApplication.step (OverviewRun.after inputs).app following).audio
              = .ready current proposed muted → proposed = currentLevel current) := by
  have haccounted := OverviewRun.Accounted.after inputs
  refine ⟨haccounted.brightness.length_le, haccounted.audio.length_le, haccounted.handedOut,
    fun input operation hdone hother => OverviewApplication.step_of_not_awaits hdone hother,
    fun following hfollowing => ?_, fun hreports following hfollowing => ?_⟩
  · obtain ⟨hbrightness, haudio⟩ :=
      @OverviewRun.shown_after False inputs hretries fun h => h.elim
    exact (OverviewApplication.headed_of_following haccounted.together hbrightness haudio
      hfollowing).settles hbrightness
  · intro current proposed muted hready
    obtain ⟨hbrightness, haudio⟩ :=
      @OverviewRun.shown_after True inputs hretries fun _ => hreports
    have h := (OverviewApplication.headed_of_following haccounted.together hbrightness haudio
      hfollowing).audioShown
    rw [hready] at h
    exact h trivial

/-- The volume is at 10 and the TV is muted or not, the user asks for `volume`, the write (number 3)
fails, and the user retries it. -/
def retriedVolume (muted : Bool) (volume : VolumeLevel) : List OverviewInput :=
  [.audioRead ⟨2⟩ (.ok ⟨.level ⟨10, by decide⟩, muted⟩), .intent (.setVolume volume.asPercent),
    .audioWrite ⟨3, .setVolumeAndUnmute volume⟩ (.error ⟨.setVolume, "offline", none⟩),
    .intent .retryAudio]

/-- The end of the retried write, which has succeeded. -/
def retriedEnd (volume : VolumeLevel) : List OverviewInput :=
  [.audioWrite ⟨4, .setVolumeAndUnmute volume⟩
    (.ok (AudioOperation.setVolumeAndUnmute volume).applied)]

/-- The end of the retried run follows, since its only answer is a success. -/
theorem retriedEnd_following (app : OverviewApplication) (volume : VolumeLevel) :
    app.Following (retriedEnd volume) := by
  intro t ht
  rw [List.mem_singleton.mp ht]
  exact fun _ => rfl

/-- A muted TV at the requested volume: the retry writes what is shown. -/
theorem overview_law_retried :
    (OverviewRun.after (retriedVolume true ⟨10, by decide⟩)).app.Settles
      (retriedEnd ⟨10, by decide⟩) := by
  refine (overview_law (retriedVolume true ⟨10, by decide⟩) (fun t ht => ?_)).2.2.2.2.1 _
    (retriedEnd_following _ _)
  simp only [OverviewRun.steps, retriedVolume, Mealy.transitions_cons, Mealy.transitions_nil,
    List.mem_cons, List.not_mem_nil, or_false] at ht
  obtain rfl | rfl | rfl | rfl := ht
  · trivial
  · trivial
  · trivial
  · intro current proposed muted pending error volume hfailed _
    cases hfailed
    rfl

/-- An unmuted TV at another volume: while the retry writes 30, the slider shows 10, and it comes to
rest at 30. -/
theorem retried_volume_unshown :
    (OverviewRun.after (retriedVolume false ⟨30, by decide⟩)).app.hasPendingWrite = true
      ∧ (OverviewRun.after (retriedVolume false ⟨30, by decide⟩)).app.Following
          (retriedEnd ⟨30, by decide⟩)
      ∧ ¬ (OverviewRun.after (retriedVolume false ⟨30, by decide⟩)).app.Settles
          (retriedEnd ⟨30, by decide⟩) := by
  refine ⟨rfl, retriedEnd_following _ _, fun hsettles => ?_⟩
  obtain ⟨control, current, proposed, -, hready, hvolume⟩ := hsettles.audio rfl rfl
  have hshown := hvolume
    { current := .level ⟨10, by decide⟩, proposed := ⟨10, by decide⟩, enabled := true } rfl
  have hat : AudioState.ready (.level ⟨30, by decide⟩) (some ⟨30, by decide⟩) false
    = .ready current proposed control.proposed := hready
  obtain ⟨-, hproposed, -⟩ := AudioState.ready.inj hat
  rw [← hproposed] at hshown
  cases hshown

end LgBuddy
