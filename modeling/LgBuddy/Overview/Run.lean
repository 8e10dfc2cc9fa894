import LgBuddy.Machine.Flight
import LgBuddy.Machine.Mealy
import LgBuddy.Overview.Application
import Mathlib.Data.List.Nodup

/-!
# LgBuddy — runs of the overview

The overview as a machine: intents, changes of the profile and ends of operations come in,
operations go out.

* `OverviewInput`, `step` — what can come in, and what it does;
* `step_moves` — what one input does about the writes in flight;
* `step_of_not_awaits` — the end of an operation that is not waited for changes nothing;
* `operations_nodup` — no operation is handed out twice.
-/

namespace LgBuddy

/-! ## The machine -/

inductive OverviewInput where
  | intent (intent : OverviewIntent)
  | profileChangeStarted
  | profileChanged
  | shutdown
  | summary (operation : OverviewSummaryOperation)
      (result : Except OverviewSummaryError OverviewTvIdentity)
  | brightnessRead (operation : BrightnessReadOperation)
      (result : Except BrightnessReadError OledBrightness)
  | audioRead (operation : OverviewAudioReadOperation) (result : Except AudioReadError AudioStatus)
  | brightnessWrite (operation : BrightnessWriteOperation)
      (result : Except BrightnessWriteError BrightnessWriteOutcome)
  | audioWrite (operation : OverviewAudioWriteOperation)
      (result : Except AudioWriteError AudioWriteOutcome)

namespace OverviewInput

/-- The operation whose end is told. -/
def completes : OverviewInput → Option OverviewOperation
  | .summary operation _ => some (.readSummary operation)
  | .brightnessRead operation _ => some (.readBrightness operation)
  | .audioRead operation _ => some (.readAudio operation)
  | .brightnessWrite operation _ => some (.writeBrightness operation)
  | .audioWrite operation _ => some (.writeAudio operation)
  | .intent _ | .profileChangeStarted | .profileChanged | .shutdown => none

def brightnessDone : OverviewInput → Option BrightnessWriteOperation
  | .brightnessWrite operation _ => some operation
  | _ => none

def audioDone : OverviewInput → Option OverviewAudioWriteOperation
  | .audioWrite operation _ => some operation
  | _ => none

end OverviewInput

def OverviewOperation.id : OverviewOperation → Nat
  | .readSummary operation => operation.id
  | .readBrightness operation => operation.id
  | .readAudio operation => operation.id
  | .writeBrightness operation => operation.id
  | .writeAudio operation => operation.id

namespace OverviewApplication

/-- What an answer does: `none` changes nothing. -/
def taken (app : OverviewApplication) :
    Option (OverviewApplication × OverviewTransition) →
      OverviewApplication × List OverviewOperation
  | none => (app, [])
  | some (app, transition) => (app, transition.operations)

def step (app : OverviewApplication) :
    OverviewInput → OverviewApplication × List OverviewOperation
  | .intent intent => app.taken (app.handleIntent intent)
  | .profileChangeStarted => app.taken app.profileChangeStarted
  | .profileChanged => app.taken app.profileChanged
  | .shutdown => (app.shutdown, [])
  | .summary operation result => app.taken (app.completeSummary operation result)
  | .brightnessRead operation result => app.taken (app.completeBrightnessRead operation result)
  | .audioRead operation result => app.taken (app.completeAudioRead operation result)
  | .brightnessWrite operation result => app.taken (app.completeBrightnessWrite operation result)
  | .audioWrite operation result => app.taken (app.completeAudioWrite operation result)

@[simp] theorem taken_none (app : OverviewApplication) : app.taken none = (app, []) := rfl

@[simp] theorem taken_some (app next : OverviewApplication) (transition : OverviewTransition) :
    app.taken (some (next, transition)) = (next, transition.operations) := rfl

@[simp] theorem taken_answer (app next : OverviewApplication) (operations : List OverviewOperation)
    (diagnostic : Option String) :
    app.taken (some (next.answer operations diagnostic)) = (next, operations) := rfl

end OverviewApplication

/-! ## Writes in flight -/

def BrightnessState.flight : BrightnessState → Flight BrightnessWriteOperation
  | .applying _ _ _ operation => .flying operation
  | .closed => .closed
  | .loading _ | .ready .. | .failed .. | .readFailed _ => .idle

def AudioState.flight : AudioState → Flight OverviewAudioWriteOperation
  | .applying _ _ _ _ operation => .flying operation
  | .closed => .closed
  | .loading _ | .ready .. | .failed .. | .readFailed _ => .idle

def brightnessWrites (operations : List OverviewOperation) : List BrightnessWriteOperation :=
  operations.filterMap fun
    | .writeBrightness operation => some operation
    | _ => none

def audioWrites (operations : List OverviewOperation) : List OverviewAudioWriteOperation :=
  operations.filterMap fun
    | .writeAudio operation => some operation
    | _ => none

@[simp] theorem brightnessWrites_nil : brightnessWrites [] = [] := rfl

@[simp] theorem audioWrites_nil : audioWrites [] = [] := rfl

theorem brightnessWrites_append (a b : List OverviewOperation) :
    brightnessWrites (a ++ b) = brightnessWrites a ++ brightnessWrites b :=
  List.filterMap_append

theorem audioWrites_append (a b : List OverviewOperation) :
    audioWrites (a ++ b) = audioWrites a ++ audioWrites b :=
  List.filterMap_append

namespace OverviewApplication

/-- The three close together. -/
def ClosedTogether (app : OverviewApplication) : Prop :=
  (app.brightness = .closed → app.isClosed) ∧ (app.audio = .closed → app.isClosed)

/-- Handed out between `app` and `next`: each operation has a number of its own. -/
structure Numbered (app : OverviewApplication) (operations : List OverviewOperation)
    (next : OverviewApplication) : Prop where
  nextId : app.nextId ≤ next.nextId
  nodup : operations.Nodup
  fresh : ∀ op ∈ operations, app.nextId ≤ op.id ∧ op.id < next.nextId

/-- What a step does about the writes in flight, where `brightness` and `audio` are the writes whose
end it is told. -/
structure Moves (app : OverviewApplication) (brightness : Option BrightnessWriteOperation)
    (audio : Option OverviewAudioWriteOperation)
    (next : OverviewApplication × List OverviewOperation) : Prop where
  brightness : Flight.Move brightness app.brightness.flight (brightnessWrites next.2)
    next.1.brightness.flight
  audio : Flight.Move audio app.audio.flight (audioWrites next.2) next.1.audio.flight
  together : app.ClosedTogether → next.1.ClosedTogether
  numbered : app.Numbered next.2 next.1

variable {app next : OverviewApplication} {operations : List OverviewOperation}
  {brightness : Option BrightnessWriteOperation} {audio : Option OverviewAudioWriteOperation}

/-- Without operations no number is used. -/
theorem Numbered.none (hid : next.nextId = app.nextId) : app.Numbered [] next where
  nextId := Nat.le_of_eq hid.symm
  nodup := List.nodup_nil
  fresh := fun _ h => by cases h

/-- One operation takes the next number. -/
theorem Numbered.one {operation : OverviewOperation} (hop : operation.id = app.nextId)
    (hid : next.nextId = app.nextId + 1) : app.Numbered [operation] next where
  nextId := by omega
  nodup := List.nodup_singleton operation
  fresh := by
    intro op hmem
    rw [List.mem_singleton.mp hmem]
    omega

/-- An answer to nothing in flight changes nothing. -/
theorem Moves.still (app : OverviewApplication)
    (hbrightness : ∀ op, app.brightness.flight = .flying op → brightness ≠ some op)
    (haudio : ∀ op, app.audio.flight = .flying op → audio ≠ some op) :
    app.Moves brightness audio (app, []) where
  brightness := .rest hbrightness
  audio := .rest haudio
  together := id
  numbered := .none rfl

/-- A step of the brightness control. -/
theorem Moves.ofBrightness (hsummary : next.summary = app.summary) (haudio : next.audio = app.audio)
    (hwrites : audioWrites operations = []) (hopen : next.brightness ≠ .closed)
    (hnumbered : app.Numbered operations next)
    (hmove : Flight.Move brightness app.brightness.flight (brightnessWrites operations)
      next.brightness.flight) :
    app.Moves brightness none (next, operations) where
  brightness := hmove
  audio := by
    rw [hwrites, haudio]
    exact .rest fun _ _ h => by cases h
  together := by
    intro htogether
    refine ⟨fun hclosed => absurd hclosed hopen, fun hclosed => ?_⟩
    have hwas := htogether.2 (haudio ▸ hclosed)
    unfold isClosed at hwas ⊢
    rw [hsummary]
    exact hwas
  numbered := hnumbered

/-- A step of the audio controls. -/
theorem Moves.ofAudio (hsummary : next.summary = app.summary)
    (hbrightness : next.brightness = app.brightness) (hwrites : brightnessWrites operations = [])
    (hopen : next.audio ≠ .closed) (hnumbered : app.Numbered operations next)
    (hmove : Flight.Move audio app.audio.flight (audioWrites operations) next.audio.flight) :
    app.Moves none audio (next, operations) where
  brightness := by
    rw [hwrites, hbrightness]
    exact .rest fun _ _ h => by cases h
  audio := hmove
  together := by
    intro htogether
    refine ⟨fun hclosed => ?_, fun hclosed => absurd hclosed hopen⟩
    have hwas := htogether.1 (hbrightness ▸ hclosed)
    unfold isClosed at hwas ⊢
    rw [hsummary]
    exact hwas
  numbered := hnumbered

/-- A step of the summary. -/
theorem Moves.ofSummary (hbrightness : next.brightness = app.brightness)
    (haudio : next.audio = app.audio) (hbrightnessWrites : brightnessWrites operations = [])
    (haudioWrites : audioWrites operations = []) (hclosed : app.isClosed → next.isClosed)
    (hnumbered : app.Numbered operations next) : app.Moves none none (next, operations) where
  brightness := by
    rw [hbrightnessWrites, hbrightness]
    exact .rest fun _ _ h => by cases h
  audio := by
    rw [haudioWrites, haudio]
    exact .rest fun _ _ h => by cases h
  together := by
    intro htogether
    exact ⟨fun h => hclosed (htogether.1 (hbrightness ▸ h)),
      fun h => hclosed (htogether.2 (haudio ▸ h))⟩
  numbered := hnumbered

theorem Moves.nothing (app : OverviewApplication) : app.Moves none none (app, []) :=
  .still app (fun _ _ h => by cases h) (fun _ _ h => by cases h)

/-- Brightness: a write is started, queued or not needed. -/
theorem setBrightness_moves (app : OverviewApplication) (value : Nat) :
    app.Moves none none (app.taken (app.setBrightness value)) := by
  unfold setBrightness
  split
  · exact .nothing app
  · split
    case h_1 hstate =>
      split
      · exact .nothing app
      · refine .ofBrightness rfl rfl rfl (by simp [newBrightnessWrite]) (.one rfl rfl) ?_
        rw [hstate]
        exact .start
    -- while a write is in flight, the value is queued behind it
    case h_2 hstate =>
      split
      · exact .nothing app
      · refine .ofBrightness rfl rfl rfl (by simp) (.none rfl) ?_
        rw [hstate]
        exact .rest fun _ _ h => by cases h
    case h_3 hstate =>
      split
      · refine .ofBrightness rfl rfl rfl (by simp [brightnessReady]) (.none rfl) ?_
        rw [hstate]
        exact .rest fun _ _ h => by cases h
      · refine .ofBrightness rfl rfl rfl (by simp [newBrightnessWrite]) (.one rfl rfl) ?_
        rw [hstate]
        exact .start
    case h_4 => exact .nothing app

/-- A retry reads again, or writes again. -/
theorem retryBrightness_moves (app : OverviewApplication) :
    app.Moves none none (app.taken app.retryBrightness) := by
  unfold retryBrightness
  split
  case h_1 hstate =>
    refine .ofBrightness rfl rfl rfl (by simp [newBrightnessRead]) (.one rfl rfl) ?_
    rw [hstate]
    exact .rest fun _ _ h => by cases h
  case h_2 hstate =>
    refine .ofBrightness rfl rfl rfl (by simp [newBrightnessWrite]) (.one rfl rfl) ?_
    rw [hstate]
    exact .start
  case h_3 => exact .nothing app

/-- A finished read starts nothing. -/
theorem completeBrightnessRead_moves (app : OverviewApplication)
    (operation : BrightnessReadOperation) (result : Except BrightnessReadError OledBrightness) :
    app.Moves none none (app.taken (app.completeBrightnessRead operation result)) := by
  unfold completeBrightnessRead
  split
  case h_1 hstate =>
    split
    · split
      all_goals
        refine .ofBrightness rfl rfl rfl (by simp) (.none rfl) ?_
        rw [hstate]
        exact .rest fun _ _ h => by cases h
    · exact .nothing app
  case h_2 => exact .nothing app

/-- A finished write lands, with the queued one following it if there is one. -/
theorem completeBrightnessWrite_moves (app : OverviewApplication)
    (operation : BrightnessWriteOperation)
    (result : Except BrightnessWriteError BrightnessWriteOutcome) :
    app.Moves (some operation) none
      (app.taken (app.completeBrightnessWrite operation result)) := by
  unfold completeBrightnessWrite
  split
  case h_1 active hstate =>
    split
    case isTrue hactive =>
      subst hactive
      split
      · split
        · refine .ofBrightness rfl rfl rfl (by simp [newBrightnessWrite]) (.one rfl rfl) ?_
          rw [hstate]
          exact .follow rfl
        · refine .ofBrightness rfl rfl rfl (by simp [brightnessReady]) (.none rfl) ?_
          rw [hstate]
          exact .land rfl
      · refine .ofBrightness rfl rfl rfl (by simp) (.none rfl) ?_
        rw [hstate]
        exact .land rfl
    -- the answer is to another operation than the one in flight
    case isFalse hother =>
      refine .still app (fun op hop h => hother ?_) (fun _ _ h => by cases h)
      rw [hstate] at hop
      cases hop
      exact (Option.some.inj h).symm
  case h_2 hstate =>
    refine .still app (fun op hop => ?_) (fun _ _ h => by cases h)
    unfold BrightnessState.flight at hop
    split at hop
    · exact absurd ‹_› (hstate _ _ _ _)
    · cases hop
    all_goals cases hop

/-- A status that was read starts nothing. -/
theorem completeAudioRead_moves (app : OverviewApplication)
    (operation : OverviewAudioReadOperation) (result : Except AudioReadError AudioStatus) :
    app.Moves none none (app.taken (app.completeAudioRead operation result)) := by
  unfold completeAudioRead
  split
  case h_1 hstate =>
    split
    · split
      all_goals
        refine .ofAudio rfl rfl rfl (by simp) (.none rfl) ?_
        rw [hstate]
        exact .rest fun _ _ h => by cases h
    · exact .nothing app
  case h_2 => exact .nothing app

/-- Volume: like brightness, on the audio side. -/
theorem setVolume_moves (app : OverviewApplication) (value : Nat) :
    app.Moves none none (app.taken (app.setVolume value)) := by
  unfold setVolume
  split
  · exact .nothing app
  · split
    case h_1 hstate =>
      split
      · exact .nothing app
      · refine .ofAudio rfl rfl rfl (by simp [newAudioWrite]) (.one rfl rfl) ?_
        rw [hstate]
        exact .start
    case h_2 hstate =>
      split
      · exact .nothing app
      · refine .ofAudio rfl rfl rfl (by simp) (.none rfl) ?_
        rw [hstate]
        exact .rest fun _ _ h => by cases h
    case h_3 hstate =>
      split
      · refine .ofAudio rfl rfl rfl (by simp [audioReady]) (.none rfl) ?_
        rw [hstate]
        exact .rest fun _ _ h => by cases h
      · refine .ofAudio rfl rfl rfl (by simp [newAudioWrite]) (.one rfl rfl) ?_
        rw [hstate]
        exact .start
    case h_4 => exact .nothing app

/-- Mute: started, queued behind what is in flight, or not needed. -/
theorem setMuted_moves (app : OverviewApplication) (muted : Bool) :
    app.Moves none none (app.taken (app.setMuted muted)) := by
  unfold setMuted
  split
  case h_1 hstate =>
    split
    · exact .nothing app
    · refine .ofAudio rfl rfl rfl (by simp [newAudioWrite]) (.one rfl rfl) ?_
      rw [hstate]
      exact .start
  case h_2 hstate =>
    split
    · exact .nothing app
    · refine .ofAudio rfl rfl rfl (by simp) (.none rfl) ?_
      rw [hstate]
      exact .rest fun _ _ h => by cases h
  case h_3 hstate =>
    split
    · refine .ofAudio rfl rfl rfl (by simp [audioReady]) (.none rfl) ?_
      rw [hstate]
      exact .rest fun _ _ h => by cases h
    · refine .ofAudio rfl rfl rfl (by simp [newAudioWrite]) (.one rfl rfl) ?_
      rw [hstate]
      exact .start
  case h_4 => exact .nothing app

/-- A retry reads again, or sends the failed command again. -/
theorem retryAudio_moves (app : OverviewApplication) :
    app.Moves none none (app.taken app.retryAudio) := by
  unfold retryAudio
  split
  case h_1 hstate =>
    refine .ofAudio rfl rfl rfl (by simp [newAudioRead]) (.one rfl rfl) ?_
    rw [hstate]
    exact .rest fun _ _ h => by cases h
  case h_2 hstate =>
    refine .ofAudio rfl rfl rfl (by simp [newAudioWrite]) (.one rfl rfl) ?_
    rw [hstate]
    exact .start
  case h_3 => exact .nothing app

theorem completeAudioWrite_moves (app : OverviewApplication)
    (operation : OverviewAudioWriteOperation)
    (result : Except AudioWriteError AudioWriteOutcome) :
    app.Moves none (some operation) (app.taken (app.completeAudioWrite operation result)) := by
  unfold completeAudioWrite
  split
  case h_1 active hstate =>
    split
    case isTrue hactive =>
      subst hactive
      split
      · unfold finishAudioWrite
        -- a queued volume, else a queued mute, else nothing is left to write
        split
        · refine .ofAudio rfl rfl rfl (by simp [newAudioWrite]) (.one rfl rfl) ?_
          rw [hstate]
          exact .follow rfl
        · split
          · refine .ofAudio rfl rfl rfl (by simp [newAudioWrite]) (.one rfl rfl) ?_
            rw [hstate]
            exact .follow rfl
          · refine .ofAudio rfl rfl rfl (by simp [audioReady]) (.none rfl) ?_
            rw [hstate]
            exact .land rfl
      · refine .ofAudio rfl rfl rfl (by simp [audioFailed]) (.none rfl) ?_
        rw [hstate]
        exact .land rfl
    case isFalse hother =>
      refine .still app (fun _ _ h => by cases h) (fun op hop h => hother ?_)
      rw [hstate] at hop
      cases hop
      exact (Option.some.inj h).symm
  case h_2 hstate =>
    refine .still app (fun _ _ h => by cases h) (fun op hop => ?_)
    unfold AudioState.flight at hop
    split at hop
    · exact absurd ‹_› (hstate _ _ _ _ _)
    all_goals cases hop

/-- The summary's answer moves neither side. -/
theorem completeSummary_moves (app : OverviewApplication) (operation : OverviewSummaryOperation)
    (result : Except OverviewSummaryError OverviewTvIdentity) :
    app.Moves none none (app.taken (app.completeSummary operation result)) := by
  unfold completeSummary
  split
  case h_1 hstate =>
    have hopen : app.isClosed = false := by simp [isClosed, hstate]
    split
    · split
      all_goals exact .ofSummary rfl rfl rfl rfl (by simp [hopen]) (.none rfl)
    · exact .nothing app
  case h_2 => exact .nothing app

/-- Reading the summary again moves no write. -/
theorem retrySummary_moves (app : OverviewApplication) :
    app.Moves none none (app.taken app.retrySummary) := by
  unfold retrySummary
  split
  case h_1 hstate =>
    have hopen : app.isClosed = false := by simp [isClosed, hstate]
    exact .ofSummary rfl rfl rfl rfl (by simp [hopen]) (.one rfl rfl)
  case h_2 => exact .nothing app

/-- A shutdown closes both sides at once. -/
theorem shutdown_moves (app : OverviewApplication) : app.Moves none none (app.shutdown, []) where
  brightness := .close rfl
  audio := .close rfl
  together := fun _ => ⟨fun _ => rfl, fun _ => rfl⟩
  numbered := .none rfl

/-- A cancel is a shutdown, unless a write is under way. -/
theorem cancel_moves (app : OverviewApplication) :
    app.Moves none none (app.taken app.cancel) := by
  unfold cancel
  split
  · exact .nothing app
  · exact app.shutdown_moves

/-- Where the profile is reloaded nothing is written and nothing is closed. -/
theorem idle_of_not_applying (htogether : app.ClosedTogether)
    (hfree : (app.isClosed || app.hasPendingWrite) = false) :
    app.brightness.flight = .idle ∧ app.audio.flight = .idle := by
  obtain ⟨hopen, hpending⟩ := (Bool.or_eq_false_iff).mp hfree
  obtain ⟨hbrightness, haudio⟩ := (Bool.or_eq_false_iff).mp hpending
  constructor
  · cases hstate : app.brightness with
    | applying => simp [brightnessApplying, hstate] at hbrightness
    | closed => simp [htogether.1 hstate] at hopen
    | loading => rfl
    | ready => rfl
    | failed => rfl
    | readFailed => rfl
  · cases hstate : app.audio with
    | applying => simp [audioApplying, hstate] at haudio
    | closed => simp [htogether.2 hstate] at hopen
    | loading => rfl
    | ready => rfl
    | failed => rfl
    | readFailed => rfl

/-- A reload with nothing in flight begins both sides afresh. -/
theorem reloaded_moves (htogether : app.ClosedTogether)
    (hfree : (app.isClosed || app.hasPendingWrite) = false)
    (hbrightness : brightnessWrites operations = []) (haudio : audioWrites operations = [])
    (hnumbered : app.Numbered operations app.newSummary.newBrightnessRead.newAudioRead) :
    app.Moves none none (app.newSummary.newBrightnessRead.newAudioRead, operations) := by
  obtain ⟨hidle, hidle'⟩ := idle_of_not_applying htogether hfree
  refine ⟨?_, ?_, fun _ => ⟨?_, ?_⟩, hnumbered⟩
  · rw [hidle, hbrightness]
    exact .rest fun _ _ h => by cases h
  · rw [hidle', haudio]
    exact .rest fun _ _ h => by cases h
  · intro h
    cases h
  · intro h
    cases h

/-- A changed profile reads everything for the new TV, under three new numbers. -/
theorem profileChanged_moves (htogether : app.ClosedTogether) :
    app.Moves none none (app.taken app.profileChanged) := by
  unfold profileChanged
  split
  · exact .nothing app
  case isFalse hfree =>
    refine reloaded_moves htogether (by simpa using hfree) rfl rfl
      ⟨?_, by simp [transition], ?_⟩
    · simp only [newSummary, newBrightnessRead, newAudioRead]
      omega
    · intro op hop
      simp only [transition, List.mem_cons, List.not_mem_nil, or_false] at hop
      simp only [newSummary, newBrightnessRead, newAudioRead]
      obtain rfl | rfl | rfl := hop
      all_goals
        simp only [OverviewOperation.id]
        omega

/-- While a profile changes nothing is read yet. -/
theorem profileChangeStarted_moves (htogether : app.ClosedTogether) :
    app.Moves none none (app.taken app.profileChangeStarted) := by
  unfold profileChangeStarted profileChanged
  split
  · exact .nothing app
  case isFalse hfree =>
    refine reloaded_moves htogether (by simpa using hfree) rfl rfl
      ⟨?_, List.nodup_nil, fun _ h => by cases h⟩
    simp only [newSummary, newBrightnessRead, newAudioRead]
    omega

/-- **What one input does about the writes in flight.** -/
theorem step_moves (htogether : app.ClosedTogether) (input : OverviewInput) :
    app.Moves input.brightnessDone input.audioDone (app.step input) := by
  cases input with
  | intent intent =>
    cases intent with
    | setBrightness value => exact app.setBrightness_moves value
    | retryBrightness => exact app.retryBrightness_moves
    | setVolume value => exact app.setVolume_moves value
    | setMuted muted => exact app.setMuted_moves muted
    | retryAudio => exact app.retryAudio_moves
    | retrySummary => exact app.retrySummary_moves
    | cancel => exact app.cancel_moves
  | profileChangeStarted => exact profileChangeStarted_moves htogether
  | profileChanged => exact profileChanged_moves htogether
  | shutdown => exact app.shutdown_moves
  | summary operation result => exact app.completeSummary_moves operation result
  | brightnessRead operation result => exact app.completeBrightnessRead_moves operation result
  | audioRead operation result => exact app.completeAudioRead_moves operation result
  | brightnessWrite operation result => exact app.completeBrightnessWrite_moves operation result
  | audioWrite operation result => exact app.completeAudioWrite_moves operation result

/-! ## Ends that are not waited for -/

/-- The operations whose end the overview waits for. -/
def Awaits (app : OverviewApplication) : OverviewOperation → Prop
  | .readSummary operation => app.summary = .loading operation
  | .readBrightness operation => app.brightness = .loading operation
  | .readAudio operation => app.audio = .loading operation
  | .writeBrightness operation => app.brightness.flight = .flying operation
  | .writeAudio operation => app.audio.flight = .flying operation

/-- **The end of another operation changes nothing.** -/
theorem step_of_not_awaits {input : OverviewInput} {operation : OverviewOperation}
    (hdone : input.completes = some operation) (hother : ¬ app.Awaits operation) :
    app.step input = (app, []) := by
  cases input with
  -- each completion asks for the operation in flight of its own kind
  | summary op result =>
    cases hdone
    have hnone : app.completeSummary op result = none := by
      unfold completeSummary
      split
      case h_1 active hstate =>
        have hne : active ≠ op := by
          intro hactive
          exact hother (hactive ▸ hstate)
        rw [if_neg hne]
      case h_2 => rfl
    simp [step, hnone]
  | brightnessRead op result =>
    cases hdone
    have hnone : app.completeBrightnessRead op result = none := by
      unfold completeBrightnessRead
      split
      case h_1 active hstate =>
        have hne : active ≠ op := by
          intro hactive
          exact hother (hactive ▸ hstate)
        rw [if_neg hne]
      case h_2 => rfl
    simp [step, hnone]
  | audioRead op result =>
    cases hdone
    have hnone : app.completeAudioRead op result = none := by
      unfold completeAudioRead
      split
      case h_1 active hstate =>
        have hne : active ≠ op := by
          intro hactive
          exact hother (hactive ▸ hstate)
        rw [if_neg hne]
      case h_2 => rfl
    simp [step, hnone]
  | brightnessWrite op result =>
    cases hdone
    have hnone : app.completeBrightnessWrite op result = none := by
      unfold completeBrightnessWrite
      split
      case h_1 hstate =>
        refine if_neg fun hactive => hother ?_
        simp [Awaits, hstate, hactive, BrightnessState.flight]
      case h_2 => rfl
    simp [step, hnone]
  | audioWrite op result =>
    cases hdone
    have hnone : app.completeAudioWrite op result = none := by
      unfold completeAudioWrite
      split
      case h_1 hstate =>
        refine if_neg fun hactive => hother ?_
        simp [Awaits, hstate, hactive, AudioState.flight]
      case h_2 => rfl
    simp [step, hnone]
  | intent => cases hdone
  | profileChangeStarted => cases hdone
  | profileChanged => cases hdone
  | shutdown => cases hdone

end OverviewApplication

/-! ## Unresolved writes -/

/-- The overview, with what has become of the operations it handed out: all of them, and the writes
whose end has not been told. -/
structure OverviewRun where
  app : OverviewApplication := .opened
  handedOut : List OverviewOperation := OverviewApplication.open.2.operations
  brightnessWrites : List BrightnessWriteOperation := []
  audioWrites : List OverviewAudioWriteOperation := []

namespace OverviewRun

def step (run : OverviewRun) (input : OverviewInput) : OverviewRun × List OverviewOperation :=
  ({ app := (run.app.step input).1
     handedOut := run.handedOut ++ (run.app.step input).2
     brightnessWrites := Flight.settle input.brightnessDone
       (LgBuddy.brightnessWrites (run.app.step input).2) run.brightnessWrites
     audioWrites := Flight.settle input.audioDone
       (LgBuddy.audioWrites (run.app.step input).2) run.audioWrites },
    (run.app.step input).2)

/-- The run after the inputs, in this order. -/
def after (inputs : List OverviewInput) : OverviewRun := Mealy.exec step {} inputs

/-- Nothing is unresolved but what is in flight, and every operation has its own number. -/
structure Accounted (run : OverviewRun) : Prop where
  together : run.app.ClosedTogether
  brightness : run.app.brightness.flight.Accounted run.brightnessWrites
  audio : run.app.audio.flight.Accounted run.audioWrites
  handedOut : run.handedOut.Nodup
  numbered : ∀ op ∈ run.handedOut, op.id < run.app.nextId

/-- At first nothing was handed out. -/
theorem Accounted.initial : Accounted {} where
  together := ⟨fun h => BrightnessState.noConfusion h, fun h => AudioState.noConfusion h⟩
  brightness := rfl
  audio := rfl
  handedOut := by decide
  numbered := by decide

/-- **Step.** Every operation that is handed out has a number of its own. -/
theorem Accounted.step {run : OverviewRun} (h : run.Accounted) (input : OverviewInput) :
    (run.step input).1.Accounted := by
  have hmoves := OverviewApplication.step_moves h.together input
  have hbrightness := hmoves.brightness.accounted h.brightness
  have haudio := hmoves.audio.accounted h.audio
  refine ⟨hmoves.together h.together, hbrightness, haudio, ?_, ?_⟩
  · refine List.Nodup.append h.handedOut hmoves.numbered.nodup ?_
    intro op hold hnew
    have hlt := h.numbered op hold
    have hge := (hmoves.numbered.fresh op hnew).1
    omega
  · intro op hop
    have hle := hmoves.numbered.nextId
    rcases List.mem_append.mp hop with hold | hnew
    · exact Nat.lt_of_lt_of_le (h.numbered op hold) hle
    · exact (hmoves.numbered.fresh op hnew).2

/-- **Run.** Every write is accounted for in every run. -/
theorem Accounted.after (inputs : List OverviewInput) : (after inputs).Accounted :=
  Mealy.exec_invariant (fun _ input h => h.step input) .initial inputs

end OverviewRun

end LgBuddy
