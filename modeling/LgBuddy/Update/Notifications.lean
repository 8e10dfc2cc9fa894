import LgBuddy.Machine.Interleaving
import LgBuddy.Update.Check

/-!
# LgBuddy — update notifications and the cache

Any number of update checks side by side, over one cache file that is loaded and saved atomically.

* `CheckView` — what an observer of the calls of one check knows;
* `CheckPermits` — which call is in order, given that: nobody is told of the release that the loaded
  cache has a record of, and what is saved is what was loaded with the record of this check;
* `wp_checkProgram` — every check keeps to it;
* `Remembered` — what the record of a notification says about the file and the checks that have
  loaded it since;
* `update_notification_law` — a recorded release is not notified again, as long as nobody saves a
  cache from before the record (`NoStaleSave`). There is no lock around load and save, so such a
  save happens, and drops the record.
-/

namespace LgBuddy

open Interleaving Mealy Program

/-! ## One check -/

/-- The release of an answer. -/
def releaseOf (formats : UpdateFormats) (channel : UpdateChannel)
    (response : GitHubReleaseResponse) (cache : UpdateCheckCache) : Option ReleaseInfo :=
  (latestFromResponse formats channel response cache 0).toOption.map (·.1)

structure CheckView where
  channel : Option UpdateChannel := none
  loaded : Option UpdateCheckCache := none
  latest : Option ReleaseInfo := none
  shown : Bool := false
  deriving DecidableEq

namespace CheckView

def note (formats : UpdateFormats) (v : CheckView) :
    (e : UpdateCall) → e.Answer → CheckView
  | .channel, .ok channel => { v with channel := some channel }
  | .load, loaded => { v with loaded := some (loadedCache loaded).1 }
  | .get .., .ok response =>
    { v with
      latest := v.channel.bind fun channel => v.loaded.bind fun cache =>
        releaseOf formats channel response cache }
  | .showUpdateNotification _, .ok () => { v with shown := true }
  | _, _ => v

/-- The record that the loaded cache has of the last notification on a channel. -/
def lastNotification (cache : UpdateCheckCache) (channel : UpdateChannel) :
    Option CachedUpdateNotification :=
  (cache.entry channel).bind (·.lastNotification)

/-- `cache` is the loaded one, but for the entry of the channel that was checked; that entry keeps
the record of the last notification, or has the one of this check. -/
structure Holds (v : CheckView) (c : UpdateChannel) (release : ReleaseInfo)
    (old cache : UpdateCheckCache) : Prop where
  channel : v.channel = some c
  latest : v.latest = some release
  loaded : v.loaded = some old
  others : ∀ other, other ≠ c → cache.entry other = old.entry other
  entry : (cache.entry c).isSome
  kept : v.shown = false → lastNotification cache c = lastNotification old c
  recorded : v.shown = true →
    ∃ shownAt, lastNotification cache c = some ⟨shownAt, release.toCached⟩

end CheckView

/-- The request is about this release. -/
def UpdateNotificationRequest.Announces (request : UpdateNotificationRequest)
    (channel : UpdateChannel) (release : ReleaseInfo) : Prop :=
  request.checkChannel = channel ∧ request.latestVersion = release.version
    ∧ request.latestChannel = release.channel ∧ request.releaseUrl = release.url

/-- **Which call is in order.** -/
def CheckPermits (v : CheckView) : UpdateCall → Prop
  | .channel => v.loaded = none
  | .load => v.loaded = none ∧ v.latest = none
  | .showUpdateNotification request => ∃ channel loaded latest, v.channel = some channel
    ∧ v.loaded = some loaded ∧ v.latest = some latest ∧ request.Announces channel latest
    ∧ (CheckView.lastNotification loaded channel).any (·.matchesRelease latest) = false
  | .save cache => ∃ channel latest loaded, v.Holds channel latest loaded cache
  | _ => True

abbrev checkContract (formats : UpdateFormats) : Contract UpdateCall UpdateCall.Answer CheckView :=
  .observed CheckPermits (CheckView.note formats)

section

variable {formats : UpdateFormats} {version : VersionInfo} {now : Nat} {v : CheckView}

/-- The release of an answer does not depend on the time. -/
theorem releaseOf_eq {channel : UpdateChannel} {response : GitHubReleaseResponse}
    {cache cache' : UpdateCheckCache} {latest : ReleaseInfo}
    (h : latestFromResponse formats channel response cache now = .ok (latest, cache')) :
    releaseOf formats channel response cache = some latest := by
  unfold releaseOf latestFromResponse
  unfold latestFromResponse at h
  cases response with
  | ok body etag =>
    simp only at h ⊢
    cases hparse : parseLatest formats channel body with
    | error error =>
      rw [hparse] at h
      cases h
    | ok release =>
      rw [hparse] at h
      cases h
      rfl
  | notModified =>
    simp only at h ⊢
    cases hentry : cache.entry channel with
    | none =>
      rw [hentry] at h
      cases h
    | some entry =>
      rw [hentry] at h
      simp only at h ⊢
      cases hcached : ReleaseInfo.fromCached formats entry.latest with
      | none =>
        rw [hcached] at h
        cases h
      | some release =>
        rw [hcached] at h
        cases h
        rfl

/-- An answer changes the entry of its channel, and there it keeps the record. -/
theorem latestFromResponse_cache {channel : UpdateChannel} {response : GitHubReleaseResponse}
    {cache cache' : UpdateCheckCache} {latest : ReleaseInfo}
    (h : latestFromResponse formats channel response cache now = .ok (latest, cache')) :
    (∀ other, other ≠ channel → cache'.entry other = cache.entry other)
      ∧ (cache'.entry channel).isSome
      ∧ CheckView.lastNotification cache' channel = CheckView.lastNotification cache channel := by
  -- both branches that succeed set the entry of the channel and keep its notification
  have of_set (entry : CachedUpdateCheck)
      (hset : cache' = cache.setEntry channel entry)
      (hkept : entry.lastNotification = CheckView.lastNotification cache channel) :
      (∀ other, other ≠ channel → cache'.entry other = cache.entry other)
        ∧ (cache'.entry channel).isSome
        ∧ CheckView.lastNotification cache' channel = CheckView.lastNotification cache channel := by
    subst hset
    refine ⟨fun other hother => UpdateCheckCache.entry_setEntry_of_ne cache entry hother, ?_, ?_⟩
    · rw [UpdateCheckCache.entry_setEntry_self]
      rfl
    · rw [← hkept, CheckView.lastNotification, UpdateCheckCache.entry_setEntry_self]
      rfl
  unfold latestFromResponse at h
  cases response with
  | ok body etag =>
    simp only at h
    cases hparse : parseLatest formats channel body with
    | error error =>
      rw [hparse] at h
      cases h
    | ok release =>
      rw [hparse] at h
      cases h
      exact of_set _ rfl rfl
  | notModified =>
    simp only at h
    cases hentry : cache.entry channel with
    | none =>
      rw [hentry] at h
      cases h
    | some entry =>
      rw [hentry] at h
      simp only at h
      cases hcached : ReleaseInfo.fromCached formats entry.latest with
      | none =>
        rw [hcached] at h
        cases h
      | some release =>
        rw [hcached] at h
        cases h
        refine of_set _ rfl ?_
        rw [CheckView.lastNotification, hentry]
        rfl

/-- Before the notification. -/
def Checked (prepared : PreparedUpdateCheck) (v : CheckView) : Prop :=
  v.shown = false ∧ ∃ loaded,
    v.Holds prepared.result.checkChannel prepared.result.latest loaded prepared.cache

/-- After it. -/
def Notified (prepared : PreparedUpdateCheck) (v : CheckView) : Prop :=
  ∃ channel latest loaded, v.Holds channel latest loaded prepared.cache

/-- Writing the output changes nothing that is kept. -/
theorem wpE_writeOutput (output : String) (P : CheckView → Prop) (h : P v) :
    wpE (checkContract formats) (writeAll output) (fun _ => P) (fun _ _ => True) v := by
  refine wpE_adapt.mpr (wpE_mk.mpr ⟨trivial, fun r v' hnext => ?_⟩)
  subst hnext
  cases r with
  | ok => exact h
  | error => trivial

/-- Preparing a check loads the cache once and asks with it. -/
theorem wpE_prepareUpdateCheck :
    wpE (checkContract formats) (prepareUpdateCheck formats version now) Checked
      (fun _ _ => True) {} := by
  unfold prepareUpdateCheck
  rw [wpE_bind]
  refine wpE_mk.mpr ⟨rfl, fun channel v hnext => ?_⟩
  subst hnext
  cases channel with
  | error => trivial
  | ok channel =>
    show wpE _ (ExceptT.lift (perform UpdateCall.load) >>= _) _ _ _
    rw [wpE_bind]
    refine wpE_lift.mpr ⟨⟨rfl, rfl⟩, fun loaded v hnext => ?_⟩
    subst hnext
    show wpE _ _ _ _ _
    unfold checkUpdatesWithCache
    cases formats.parseVersion version.version with
    | error => trivial
    | ok currentVersion =>
      simp only [fetchLatestRelease, wpE_bind]
      refine wpE_mk.mpr ⟨trivial, fun response v hnext => ?_⟩
      subst hnext
      cases response with
      | error => trivial
      | ok response =>
        show wpE (checkContract formats) (ExceptT.mk
          (pure (latestFromResponse formats channel response (loadedCache loaded).1 now))) _ _ _
        cases hlatest : latestFromResponse formats channel response (loadedCache loaded).1 now with
        | error => trivial
        | ok found =>
          obtain ⟨latest, cache⟩ := found
          obtain ⟨hothers, hentry, hkept⟩ := latestFromResponse_cache hlatest
          refine ⟨rfl, (loadedCache loaded).1, ⟨rfl, releaseOf_eq hlatest, rfl, hothers, hentry,
            fun _ => hkept, fun hshown => ?_⟩⟩
          cases hshown

/-- A request is only made about a release that the loaded cache has no record of. -/
theorem wpE_notifyUpdate (notify : Bool) (prepared : PreparedUpdateCheck)
    (h : Checked prepared v) :
    wpE (checkContract formats) (notifyUpdate formats now notify prepared) Notified
      (fun _ _ => True) v := by
  obtain ⟨hquiet, loaded, hholds⟩ := h
  have hsaved : Notified prepared v := ⟨_, _, loaded, hholds⟩
  unfold notifyUpdate
  cases hdecision : notificationDecision formats notify prepared with
  | skip reason =>
    show wpE _ (if notify then _ else _) _ _ _
    split
    · rw [wpE_bind]
      exact wpE_writeOutput _ (fun v => wpE _ (pure prepared) _ _ v) hsaved
    · exact hsaved
  | notify reason =>
    -- the policy notifies only where no notification of the release is recorded
    have hfresh : (CheckView.lastNotification prepared.cache prepared.result.checkChannel).any
        (·.matchesRelease prepared.result.latest) = false := by
      simp only [notificationDecision, evaluateUpdateNotificationPolicy] at hdecision
      split at hdecision
      · cases hdecision
      · split at hdecision
        · cases hdecision
        · split at hdecision
          · cases hdecision
          case isFalse hnot => simpa [CheckView.lastNotification] using hnot
    have hfailed (error : UpdateNotificationError) :
        wpE (checkContract formats) (afterNotification now prepared reason (.error error))
          Notified (fun _ _ => True) v := by
      unfold afterNotification
      rw [wpE_bind]
      exact wpE_writeOutput _ _ hsaved
    show wpE _ (showNotification _ >>= _) _ _ _
    rw [wpE_bind]
    unfold UpdateCheckResult.notificationRequest
    split
    · refine wpE_lift.mpr ⟨⟨_, _, _, hholds.channel, hholds.loaded, hholds.latest,
        ⟨rfl, rfl, rfl, rfl⟩, hholds.kept hquiet ▸ hfresh⟩, fun shown v' hnext => ?_⟩
      subst hnext
      cases shown with
      | error error => exact hfailed error
      | ok =>
        show wpE _ (afterNotification now prepared reason (.ok ())) _ _ { v with shown := true }
        unfold afterNotification
        rw [wpE_bind]
        refine wpE_writeOutput _ (fun v => wpE _ (pure _) _ _ v) ?_
        obtain ⟨entry, hentry⟩ := Option.isSome_iff_exists.mp hholds.entry
        -- after the notification the record is in the cache that is saved
        have hcache : prepared.cache.recordNotification prepared.result.checkChannel
            prepared.result.latest now = prepared.cache.setEntry prepared.result.checkChannel
              { entry with lastNotification := some ⟨now, prepared.result.latest.toCached⟩ } := by
          rw [UpdateCheckCache.recordNotification, hentry]
        show Notified { prepared with cache := _ } _
        rw [hcache]
        refine ⟨_, _, loaded, hholds.channel, hholds.latest, hholds.loaded, fun other hother => ?_,
          ?_, fun h => (by cases h), fun _ => ⟨now, ?_⟩⟩
        · rw [UpdateCheckCache.entry_setEntry_of_ne _ _ hother]
          exact hholds.others other hother
        · rw [UpdateCheckCache.entry_setEntry_self]
          rfl
        · rw [CheckView.lastNotification, UpdateCheckCache.entry_setEntry_self]
          rfl
    · exact hfailed _

/-- What is saved is the cache of a notified check. -/
theorem wpE_saveCache (prepared : PreparedUpdateCheck) (h : Notified prepared v) :
    wpE (checkContract formats) (saveCache prepared) (fun _ _ => True) (fun _ _ => True) v := by
  unfold saveCache
  rw [wpE_bind]
  refine wpE_lift.mpr ⟨h, fun r v' _ => ?_⟩
  cases r with
  | ok => trivial
  | error => trivial

/-- A plain check saves without notifying. -/
theorem wpE_runUpdateCheck :
    wpE (checkContract formats) (runUpdateCheck formats version now) (fun _ _ => True)
      (fun _ _ => True) {} := by
  unfold runUpdateCheck
  refine wpE_prepareUpdateCheck.bind fun prepared v h => ?_
  obtain ⟨-, loaded, hholds⟩ := h
  refine (wpE_saveCache prepared ⟨_, _, loaded, hholds⟩).bind fun warnings v _ => ?_
  trivial

/-- A check of the command line writes, notifies and then saves. -/
theorem wpE_checkAndNotify (notify : Bool) :
    wpE (checkContract formats) (checkAndNotify formats version now notify) (fun _ _ => True)
      (fun _ _ => True) {} := by
  unfold checkAndNotify
  refine wpE_prepareUpdateCheck.bind fun prepared v h => ?_
  refine (wpE_writeOutput _ (Checked prepared) h).bind fun _ v h => ?_
  refine (wpE_notifyUpdate notify prepared h).bind fun prepared v h => ?_
  refine (wpE_saveCache prepared h).bind fun failures v _ => ?_
  unfold reportDeferred
  split
  · trivial
  · trivial

/-- A background check asks first whether it is wanted. -/
theorem wpE_runUpdatesCommand (command : UpdatesCommand) :
    wpE (checkContract formats) (runUpdatesCommand formats version now command) (fun _ _ => True)
      (fun _ _ => True) {} := by
  unfold runUpdatesCommand
  have hdisabled : wpE (checkContract formats) (automaticChecksDisabled command)
      (fun _ v => v = {}) (fun _ _ => True) {} := by
    cases command with
    | backgroundCheck =>
      unfold automaticChecksDisabled
      rw [wpE_bind]
      refine wpE_mk.mpr ⟨trivial, fun enabled v hnext => ?_⟩
      subst hnext
      cases enabled with
      | error => trivial
      | ok => rfl
    | check => rfl
    | install => rfl
  refine hdisabled.bind fun disabled v hv => ?_
  subst hv
  split
  · exact wpE_writeOutput _ _ trivial
  · exact wpE_checkAndNotify _

end

/-! ## Checks side by side -/

/-- The kinds of check: for the settings page, or as a command. -/
inductive CheckProcess where
  | check (version : VersionInfo) (now : Nat)
  | command (version : VersionInfo) (now : Nat) (command : UpdatesCommand)
  deriving DecidableEq, Repr

def checkProgram (formats : UpdateFormats) :
    CheckProcess → Program UpdateCall UpdateCall.Answer Unit
  | .check version now => (fun _ => ()) <$> (runUpdateCheck formats version now).run
  | .command version now command =>
    (fun _ => ()) <$> (runUpdatesCommand formats version now command).run

/-- The answers of everything but the cache. -/
structure CheckAnswers where
  automaticChecksEnabled : Except UpdatesError Bool
  channel : Except UpdatesError UpdateChannel
  response : Except UpdatesError GitHubReleaseResponse
  written : Except String Unit
  shown : Except UpdateNotificationError Unit

/-- A call, over the cache that the file holds. Load and save each act at once, and succeed. -/
def answerCheck (answers : CheckAnswers) (file : UpdateCheckCache) :
    (e : UpdateCall) → e.Answer × UpdateCheckCache
  | .automaticChecksEnabled => (answers.automaticChecksEnabled, file)
  | .channel => (answers.channel, file)
  | .load => (.ok file, file)
  | .get .. => (answers.response, file)
  | .write _ => (answers.written, file)
  | .showUpdateNotification _ => (answers.shown, file)
  | .save cache => (.ok (), cache)

section

variable {π : Type} [DecidableEq π]

/-- Any number of checks over one cache file, which nobody else touches. -/
def checkSetting (π : Type) (formats : UpdateFormats) :
    Setting π CheckProcess CheckAnswers Empty UpdateCall UpdateCall.Answer UpdateCheckCache where
  program := checkProgram formats
  answer answers _ file e := answerCheck answers file e
  bury _ file := file
  disturb x := x.elim

abbrev CheckEvent (π : Type) := Event π CheckProcess Empty UpdateCall UpdateCall.Answer

/-- What the present check of `p` has seen. -/
def checkView (formats : UpdateFormats) (events : List (CheckEvent π)) (p : π) : CheckView :=
  seen (CheckView.note formats) {} events p

/-- The events of a run from a cache file. -/
def checkEvents (formats : UpdateFormats) (file : UpdateCheckCache)
    (inputs : List (Input π CheckProcess CheckAnswers Empty)) : List (CheckEvent π) :=
  trace (Interleaving.step (checkSetting π formats)) (.idle file) inputs

/-- Every program obeys the contract. -/
theorem wp_checkProgram (formats : UpdateFormats) (k : CheckProcess) :
    wp (checkContract formats) (checkProgram formats k) (fun _ _ => True) {} := by
  cases k with
  | check version now =>
    show wp _ ((runUpdateCheck formats version now).run >>= fun _ => .done ()) _ _
    rw [wp_bind]
    have hrun : wpE (checkContract formats) (runUpdateCheck formats version now)
        (fun _ _ => True) (fun _ _ => True) {} := wpE_runUpdateCheck
    exact wp.mono (fun _ _ _ => trivial) hrun
  | command version now command =>
    show wp _ ((runUpdatesCommand formats version now command).run >>= fun _ => .done ()) _ _
    rw [wp_bind]
    have hrun : wpE (checkContract formats) (runUpdatesCommand formats version now command)
        (fun _ _ => True) (fun _ _ => True) {} := wpE_runUpdatesCommand command
    exact wp.mono (fun _ _ _ => trivial) hrun

/-! ## A recorded notification -/

/-- The present check of `p` has shown a notification of `release` on channel `c`. -/
def Recorded (formats : UpdateFormats) (events : List (CheckEvent π)) (p : π) (c : UpdateChannel)
    (release : ReleaseInfo) : Prop :=
  (checkView formats events p).channel = some c ∧ (checkView formats events p).latest = some release
    ∧ (checkView formats events p).shown = true

/-- In `after`, which follows `before`, every answer on channel `c` is `release`. -/
def SameAnswers (formats : UpdateFormats) (before after : List (CheckEvent π)) (c : UpdateChannel)
    (release : ReleaseInfo) : Prop :=
  ∀ mid q endpoint userAgent etag response rest,
    after = mid ++ .called q ⟨.get endpoint userAgent etag, response⟩ :: rest →
    (checkView formats (before ++ mid) q).channel = some c → ∀ latest,
    (checkView formats
        (before ++ (mid ++ [.called q ⟨.get endpoint userAgent etag, response⟩])) q).latest
      = some latest → latest = release

/-- The present check of `q` has loaded the cache in these events. -/
def LoadedIn (events : List (CheckEvent π)) (q : π) : Prop :=
  ∃ cache, ⟨UpdateCall.load, cache⟩ ∈ own events q

/-- In `after`, a cache is only saved by a check that has loaded it there. -/
def NoStaleSave (after : List (CheckEvent π)) : Prop :=
  ∀ mid q cache saved rest, after = mid ++ .called q ⟨.save cache, saved⟩ :: rest → LoadedIn mid q

/-- The cache has a record of `release` on channel `c`. -/
def HasRecord (c : UpdateChannel) (release : ReleaseInfo) (cache : UpdateCheckCache) : Prop :=
  (CheckView.lastNotification cache c).any (·.matchesRelease release) = true

/-- What holds of the file, and of the checks that have loaded it, since the record. -/
structure Remembered (formats : UpdateFormats) (before after : List (CheckEvent π))
    (c : UpdateChannel) (release : ReleaseInfo) (file : UpdateCheckCache) : Prop where
  file : HasRecord c release file
  loaded : ∀ q, LoadedIn after q →
    ∃ cache, (checkView formats (before ++ after) q).loaded = some cache ∧ HasRecord c release cache
  latest : ∀ q, LoadedIn after q → (checkView formats (before ++ after) q).channel = some c →
    ∀ latest, (checkView formats (before ++ after) q).latest = some latest → latest = release
  silent : ∀ mid q request shown rest,
    after = mid ++ .called q ⟨.showUpdateNotification request, shown⟩ :: rest →
    (∃ k, .started q k ∈ mid) → ¬ request.Announces c release

variable {formats : UpdateFormats} {before after : List (CheckEvent π)} {c : UpdateChannel}
  {release : ReleaseInfo} {file : UpdateCheckCache}

/-- A release matches its own record. -/
theorem matchesRelease_toCached (release : ReleaseInfo) :
    release.toCached.matchesRelease release = true := by
  simp [CachedReleaseInfo.matchesRelease, ReleaseInfo.toCached]

/-- What a check saves that has the record, has the record. -/
theorem HasRecord.of_holds {v : CheckView} {channel : UpdateChannel} {latest : ReleaseInfo}
    {old cache : UpdateCheckCache} (hholds : v.Holds channel latest old cache)
    (hold : HasRecord c release old) (hlatest : channel = c → latest = release) :
    HasRecord c release cache := by
  unfold HasRecord at hold ⊢
  by_cases hchannel : c = channel
  · subst hchannel
    cases hshown : v.shown with
    | false =>
      rw [hholds.kept hshown]
      exact hold
    | true =>
      obtain ⟨shownAt, hrecord⟩ := hholds.recorded hshown
      rw [hrecord, hlatest rfl]
      rw [Option.any_some]
      exact matchesRelease_toCached release
  · rw [CheckView.lastNotification, hholds.others c hchannel]
    exact hold

/-- A process has loaded once it has called load. -/
theorem loadedIn_called_self {q : π} {x : Exchange UpdateCall UpdateCall.Answer} :
    LoadedIn (after ++ [.called q x]) q
      ↔ LoadedIn after q ∨ ∃ cache, x = ⟨UpdateCall.load, cache⟩ := by
  unfold LoadedIn
  rw [own_concat, noteOwn_self]
  constructor
  · rintro ⟨cache, hmem⟩
    rcases List.mem_append.mp hmem with hold | hlast
    · exact .inl ⟨cache, hold⟩
    · exact .inr ⟨cache, (List.mem_singleton.mp hlast).symm⟩
  · rintro (⟨cache, hold⟩ | ⟨cache, rfl⟩)
    · exact ⟨cache, List.mem_append_left _ hold⟩
    · exact ⟨cache, List.mem_append_right _ (List.mem_singleton_self _)⟩

/-- Calls of others do not count. -/
theorem loadedIn_called_other {q r : π} (x : Exchange UpdateCall UpdateCall.Answer) (h : r ≠ q) :
    LoadedIn (after ++ [.called q x]) r ↔ LoadedIn after r := by
  unfold LoadedIn
  rw [own_concat, noteOwn_other _ x h]

/-- A cache that is seen as loaded was loaded by a call. -/
theorem observe_loaded (calls : List (Exchange UpdateCall UpdateCall.Answer))
    (h : (observe (CheckView.note formats) {} calls).loaded ≠ none) :
    ∃ cache, ⟨UpdateCall.load, cache⟩ ∈ calls := by
  induction calls using List.reverseRec with
  | nil => exact absurd rfl h
  | append_singleton calls x ih =>
    have of_same (hsame : (observe (CheckView.note formats) {} (calls ++ [x])).loaded
        = (observe (CheckView.note formats) {} calls).loaded) :
        ∃ cache, ⟨UpdateCall.load, cache⟩ ∈ calls ++ [x] := by
      obtain ⟨cache, hmem⟩ := ih (hsame ▸ h)
      exact ⟨cache, List.mem_append_left _ hmem⟩
    rw [observe_concat] at of_same
    obtain ⟨e, r⟩ := x
    cases e with
    | load => exact ⟨r, List.mem_append_right _ (List.mem_singleton_self _)⟩
    | automaticChecksEnabled => exact of_same rfl
    | channel => exact of_same (by cases r <;> rfl)
    | get => exact of_same (by cases r <;> rfl)
    | write => exact of_same rfl
    | showUpdateNotification => exact of_same (by cases r <;> rfl)
    | save => exact of_same rfl

/-- A check that has started in these events, and has loaded the cache, has loaded it there. -/
theorem loadedIn_of_loaded {q : π} {k : CheckProcess} (hstarted : .started q k ∈ after)
    (h : (checkView formats (before ++ after) q).loaded ≠ none) : LoadedIn after q := by
  unfold checkView seen at h
  rw [own_append_of_started after before hstarted] at h
  exact observe_loaded _ h

/-- An event that is not a notification. -/
theorem silent_concat {event : CheckEvent π}
    (hquiet : ∀ q request shown, event ≠ .called q ⟨.showUpdateNotification request, shown⟩)
    (h : Remembered formats before after c release file) :
    ∀ mid q request shown rest,
      after ++ [event] = mid ++ .called q ⟨.showUpdateNotification request, shown⟩ :: rest →
      (∃ k, .started q k ∈ mid) → ¬ request.Announces c release := by
  intro mid q request shown rest hsplit
  rcases List.eq_nil_or_concat rest with rfl | ⟨rest, last, rfl⟩
  · obtain ⟨-, hlast⟩ := List.append_inj' hsplit rfl
    exact absurd (List.cons.inj hlast).1 (hquiet q request shown)
  · rw [List.concat_eq_append, ← List.cons_append, ← List.append_assoc] at hsplit
    exact h.silent mid q request shown rest (List.append_inj_left' hsplit rfl)

/-- A process starts, or dies: it has loaded nothing. -/
theorem Remembered.reset {q : π} {event : CheckEvent π}
    (hevent : event = .died q ∨ ∃ k, event = .started q k)
    (h : Remembered formats before after c release file) :
    Remembered formats before (after ++ [event]) c release file := by
  have hnone : ¬ LoadedIn (after ++ [event]) q := by
    rintro ⟨cache, hmem⟩
    rw [own_concat] at hmem
    obtain rfl | ⟨k, rfl⟩ := hevent
    · simp [noteOwn] at hmem
    · simp [noteOwn] at hmem
  have hother (r : π) (hr : r ≠ q) :
      (LoadedIn (after ++ [event]) r → LoadedIn after r)
        ∧ checkView formats (before ++ (after ++ [event])) r
          = checkView formats (before ++ after) r := by
    rw [← List.append_assoc]
    unfold LoadedIn checkView
    obtain rfl | ⟨k, rfl⟩ := hevent
    · rw [seen_died, if_neg hr, own_concat]
      simp [noteOwn, Function.update_of_ne hr]
    · rw [seen_started, if_neg hr, own_concat]
      simp [noteOwn, Function.update_of_ne hr]
  refine ⟨h.file, fun r hr => ?_, fun r hr => ?_, silent_concat (fun p request shown => ?_) h⟩
  · have hne : r ≠ q := fun he => hnone (he ▸ hr)
    rw [(hother r hne).2]
    exact h.loaded r ((hother r hne).1 hr)
  · have hne : r ≠ q := fun he => hnone (he ▸ hr)
    rw [(hother r hne).2]
    exact h.latest r ((hother r hne).1 hr)
  · obtain rfl | ⟨k, rfl⟩ := hevent
    · simp
    · simp

/-- A call of `q`, given what it does to the view of `q`. -/
theorem Remembered.ofCall {q : π} {x : Exchange UpdateCall UpdateCall.Answer}
    {file' : UpdateCheckCache} (h : Remembered formats before after c release file)
    (hfile : HasRecord c release file')
    (hloaded : LoadedIn (after ++ [.called q x]) q → ∃ cache,
      ((checkView formats (before ++ after) q).note formats x.1 x.2).loaded = some cache
        ∧ HasRecord c release cache)
    (hlatest : LoadedIn (after ++ [.called q x]) q →
      ((checkView formats (before ++ after) q).note formats x.1 x.2).channel = some c →
      ∀ latest, ((checkView formats (before ++ after) q).note formats x.1 x.2).latest = some latest →
        latest = release)
    (hsilent : ∀ (mid : List (CheckEvent π)) r request shown rest,
      after ++ [.called q x] = mid ++ .called r ⟨.showUpdateNotification request, shown⟩ :: rest →
      (∃ k, .started r k ∈ mid) → ¬ request.Announces c release) :
    Remembered formats before (after ++ [.called q x]) c release file' := by
  have hself : checkView formats (before ++ (after ++ [.called q x])) q
      = (checkView formats (before ++ after) q).note formats x.1 x.2 := by
    rw [← List.append_assoc]
    exact seen_called_self q x
  have hother (r : π) (hr : r ≠ q) : checkView formats (before ++ (after ++ [.called q x])) r
      = checkView formats (before ++ after) r := by
    rw [← List.append_assoc]
    exact seen_called_other x hr
  refine ⟨hfile, fun r hr => ?_, fun r hr => ?_, hsilent⟩
  · by_cases he : r = q
    · subst he
      rw [hself]
      exact hloaded hr
    · rw [hother r he]
      exact h.loaded r ((loadedIn_called_other x he).mp hr)
  · by_cases he : r = q
    · subst he
      rw [hself]
      exact hlatest hr
    · rw [hother r he]
      exact h.latest r ((loadedIn_called_other x he).mp hr)

/-- A call that leaves the view of `q` as far as the record goes. -/
theorem Remembered.ofQuietCall {q : π} {x : Exchange UpdateCall UpdateCall.Answer}
    {file' : UpdateCheckCache} (h : Remembered formats before after c release file)
    (hfile : HasRecord c release file') (hnotLoad : ∀ cache, x ≠ ⟨UpdateCall.load, cache⟩)
    (hloaded : ((checkView formats (before ++ after) q).note formats x.1 x.2).loaded
      = (checkView formats (before ++ after) q).loaded)
    (hchannel : ((checkView formats (before ++ after) q).note formats x.1 x.2).channel
      = (checkView formats (before ++ after) q).channel)
    (hlatest : ((checkView formats (before ++ after) q).note formats x.1 x.2).latest
      = (checkView formats (before ++ after) q).latest)
    (hsilent : ∀ (mid : List (CheckEvent π)) r request shown rest,
      after ++ [.called q x] = mid ++ .called r ⟨.showUpdateNotification request, shown⟩ :: rest →
      (∃ k, .started r k ∈ mid) → ¬ request.Announces c release) :
    Remembered formats before (after ++ [.called q x]) c release file' := by
  have hearlier (hin : LoadedIn (after ++ [.called q x]) q) : LoadedIn after q := by
    rcases loadedIn_called_self.mp hin with hold | ⟨cache, hload⟩
    · exact hold
    · exact absurd hload (hnotLoad cache)
  refine h.ofCall hfile (fun hin => ?_) (fun hin => ?_) hsilent
  · rw [hloaded]
    exact h.loaded q (hearlier hin)
  · rw [hchannel, hlatest]
    exact h.latest q (hearlier hin)

/-- **A call keeps the record**, if it saves no cache from before the record. -/
theorem Remembered.called {q : π} {answers : CheckAnswers} {e : UpdateCall}
    (h : Remembered formats before after c release file)
    (hpermits : CheckPermits (checkView formats (before ++ after) q) e)
    (hanswers : SameAnswers formats before
      (after ++ [.called q ⟨e, (answerCheck answers file e).1⟩]) c release)
    (hfresh : NoStaleSave (after ++ [.called q ⟨e, (answerCheck answers file e).1⟩])) :
    Remembered formats before (after ++ [.called q ⟨e, (answerCheck answers file e).1⟩]) c release
      (answerCheck answers file e).2 := by
  cases e with
  | automaticChecksEnabled =>
    exact h.ofQuietCall h.file (fun _ he => by cases he) rfl rfl rfl
      (silent_concat (fun _ _ _ he => by cases he) h)
  | write output =>
    exact h.ofQuietCall h.file (fun _ he => by cases he) rfl rfl rfl
      (silent_concat (fun _ _ _ he => by cases he) h)
  -- the channel is read before the cache, so a check that reads it has loaded nothing
  | channel =>
    have hnot : ¬ LoadedIn (after ++ [.called q ⟨.channel, (answerCheck answers file .channel).1⟩])
        q := by
      intro hin
      rcases loadedIn_called_self.mp hin with hold | ⟨cache, hload⟩
      · obtain ⟨cache, hloaded, -⟩ := h.loaded q hold
        have hnone : (checkView formats (before ++ after) q).loaded = none := hpermits
        rw [hnone] at hloaded
        cases hloaded
      · cases hload
    exact h.ofCall h.file (fun hin => absurd hin hnot) (fun hin => absurd hin hnot)
      (silent_concat (fun _ _ _ he => by cases he) h)
  -- what is loaded is the file, and the file has the record
  | load =>
    refine h.ofCall h.file (fun _ => ⟨file, rfl, h.file⟩) (fun _ _ latest hlatest => ?_)
      (silent_concat (fun _ _ _ he => by cases he) h)
    have hnone : (checkView formats (before ++ after) q).latest = none := hpermits.2
    have hsome : (checkView formats (before ++ after) q).latest = some latest := hlatest
    rw [hnone] at hsome
    cases hsome
  -- the answer is the release of every check of this channel
  | get endpoint userAgent etag =>
    have hearlier (hin : LoadedIn (after ++ [.called q ⟨.get endpoint userAgent etag,
        (answerCheck answers file (.get endpoint userAgent etag)).1⟩]) q) : LoadedIn after q := by
      rcases loadedIn_called_self.mp hin with hold | ⟨cache, hload⟩
      · exact hold
      · cases hload
    have hview : ((checkView formats (before ++ after) q).note formats
          (.get endpoint userAgent etag) answers.response).loaded
            = (checkView formats (before ++ after) q).loaded
        ∧ ((checkView formats (before ++ after) q).note formats
          (.get endpoint userAgent etag) answers.response).channel
            = (checkView formats (before ++ after) q).channel := by
      cases answers.response <;> exact ⟨rfl, rfl⟩
    refine h.ofCall h.file (fun hin => ?_) (fun hin hchannel latest hlatest => ?_)
      (silent_concat (fun _ _ _ he => by cases he) h)
    · obtain ⟨cache, hloaded, hrecord⟩ := h.loaded q (hearlier hin)
      exact ⟨cache, hview.1.trans hloaded, hrecord⟩
    · refine hanswers after q endpoint userAgent etag _ [] rfl (hview.2.symm.trans hchannel) latest ?_
      rw [← List.append_assoc]
      exact (congrArg CheckView.latest (seen_called_self q _)).trans hlatest
  | showUpdateNotification request =>
    have hview : ((checkView formats (before ++ after) q).note formats
          (.showUpdateNotification request) answers.shown).loaded
            = (checkView formats (before ++ after) q).loaded
        ∧ ((checkView formats (before ++ after) q).note formats
          (.showUpdateNotification request) answers.shown).channel
            = (checkView formats (before ++ after) q).channel
        ∧ ((checkView formats (before ++ after) q).note formats
          (.showUpdateNotification request) answers.shown).latest
            = (checkView formats (before ++ after) q).latest := by
      cases answers.shown <;> exact ⟨rfl, rfl, rfl⟩
    refine h.ofQuietCall h.file (fun _ he => by cases he) hview.1 hview.2.1 hview.2.2 ?_
    intro mid r request' shown rest hsplit hstarted
    rcases List.eq_nil_or_concat rest with rfl | ⟨rest, last, rfl⟩
    · -- the notification itself: its check has loaded a cache with the record
      obtain ⟨rfl, hlast⟩ := List.append_inj' hsplit rfl
      cases hlast
      obtain ⟨k, hstarted⟩ := hstarted
      obtain ⟨channel, loaded, latest, hchannel, hloaded, hlatest, hannounces, hnone⟩ := hpermits
      intro hagain
      have hsame : channel = c := hannounces.1.symm.trans hagain.1
      subst hsame
      have hin : LoadedIn after q :=
        loadedIn_of_loaded hstarted (by rw [hloaded]; exact Option.some_ne_none _)
      obtain ⟨cache, hcache, hrecord⟩ := h.loaded q hin
      have hequal : latest = release := h.latest q hin hchannel latest hlatest
      rw [hloaded] at hcache
      cases hcache
      rw [hequal] at hnone
      exact absurd hrecord (by rw [HasRecord, hnone]; exact Bool.false_ne_true)
    · rw [List.concat_eq_append, ← List.cons_append, ← List.append_assoc] at hsplit
      exact h.silent mid r request' shown rest (List.append_inj_left' hsplit rfl) hstarted
  | save cache =>
    obtain ⟨channel, latest, loaded, hholds⟩ := hpermits
    have hin : LoadedIn after q := hfresh after q cache _ [] rfl
    obtain ⟨old, hold, hrecord⟩ := h.loaded q hin
    rw [hholds.loaded] at hold
    cases hold
    -- the cache saved keeps the records of the one loaded
    have hsaved : HasRecord c release cache := by
      refine hrecord.of_holds hholds fun hchannel => ?_
      subst hchannel
      exact h.latest q hin hholds.channel latest hholds.latest
    exact h.ofQuietCall hsaved (fun _ he => by cases he) rfl rfl rfl
      (silent_concat (fun _ _ _ he => by cases he) h)

/-! ## Every run -/

/-- What `Remembered` asks of the events after a record passes to the earlier ones. -/
theorem SameAnswers.earlier {event : CheckEvent π}
    (h : SameAnswers formats before (after ++ [event]) c release) :
    SameAnswers formats before after c release := by
  intro mid q endpoint userAgent etag response rest hsplit
  refine h mid q endpoint userAgent etag response (rest ++ [event]) ?_
  rw [hsplit, List.append_assoc, List.cons_append]

/-- What no later save has undone, no earlier one has. -/
theorem NoStaleSave.earlier {event : CheckEvent π} (h : NoStaleSave (after ++ [event])) :
    NoStaleSave after := by
  intro mid q cache saved rest hsplit
  refine h mid q cache saved (rest ++ [event]) ?_
  rw [hsplit, List.append_assoc, List.cons_append]

/-- The record is there when its save has ended. -/
theorem Remembered.ofSave {p : π} {cache : UpdateCheckCache}
    (hpermits : CheckPermits (checkView formats before p) (.save cache))
    (hrecorded : Recorded formats before p c release)
    {events : List (CheckEvent π)} : Remembered formats events [] c release cache := by
  obtain ⟨hchannel, hlatest, hshown⟩ := hrecorded
  obtain ⟨channel, latest, loaded, hholds⟩ := hpermits
  have hsame : channel = c := Option.some.inj (hholds.channel.symm.trans hchannel)
  have hequal : latest = release := Option.some.inj (hholds.latest.symm.trans hlatest)
  subst hsame
  subst hequal
  obtain ⟨shownAt, hrecord⟩ := hholds.recorded hshown
  refine ⟨?_, fun q hq => ?_, fun q hq => ?_, fun mid q request shown rest hsplit => ?_⟩
  · rw [HasRecord, hrecord]
    exact matchesRelease_toCached latest
  · obtain ⟨old, hmem⟩ := hq
    cases hmem
  · obtain ⟨old, hmem⟩ := hq
    cases hmem
  · simp at hsplit

/-- In every run, after every save of a shown notification. -/
theorem remembered_of_run (formats : UpdateFormats) (file : UpdateCheckCache)
    (inputs : List (Input π CheckProcess CheckAnswers Empty)) :
    ∀ before p cache saved after c release,
      checkEvents formats file inputs = before ++ .called p ⟨.save cache, saved⟩ :: after →
      Recorded formats before p c release →
      SameAnswers formats (before ++ [.called p ⟨.save cache, saved⟩]) after c release →
      NoStaleSave after →
      Remembered formats (before ++ [.called p ⟨.save cache, saved⟩]) after c release
        (exec (Interleaving.step (checkSetting π formats)) (.idle file) inputs).shared := by
  have hprogram : ∀ k, wp (.observed CheckPermits (CheckView.note formats))
      ((checkSetting π formats).program k) (fun _ _ => True) {} := wp_checkProgram formats
  refine run_induct hprogram trivial file
    (P := fun _ events shared => ∀ before p cache saved after c release,
      events = before ++ .called p ⟨.save cache, saved⟩ :: after →
      Recorded formats before p c release →
      SameAnswers formats (before ++ [.called p ⟨.save cache, saved⟩]) after c release →
      NoStaleSave after →
      Remembered formats (before ++ [.called p ⟨.save cache, saved⟩]) after c release shared)
    (fun before p cache saved after c release hsplit => by simp at hsplit)
    (fun inputs i new shared' ih hmove => ?_) inputs
  intro before p cache saved after c release hsplit hrecorded hanswers hfresh
  -- the last event is the save of the record itself, or one behind it
  have of_last (event : CheckEvent π) (hnew : new = [event]) (hkeep : ∀ after',
        after = after' ++ [event] → Remembered formats
          (before ++ [.called p ⟨.save cache, saved⟩]) (after' ++ [event]) c release shared')
      (hsave : event = .called p ⟨.save cache, saved⟩ →
        trace (Interleaving.step (checkSetting π formats)) (.idle file) inputs = before →
        Remembered formats (before ++ [.called p ⟨.save cache, saved⟩]) [] c release shared') :
      Remembered formats (before ++ [.called p ⟨.save cache, saved⟩]) after c release shared' := by
    rw [hnew] at hsplit
    rcases List.eq_nil_or_concat after with rfl | ⟨after', last, rfl⟩
    · obtain ⟨hbefore, hlast⟩ := List.append_inj' hsplit rfl
      exact hsave (List.cons.inj hlast).1 hbefore
    · rw [List.concat_eq_append, ← List.cons_append, ← List.append_assoc] at hsplit
      have hlast := List.append_inj_right' hsplit rfl
      cases hlast
      rw [List.concat_eq_append]
      exact hkeep after' (List.concat_eq_append ..)
  have of_earlier (after' : List (CheckEvent π)) (event : CheckEvent π) (hnew : new = [event])
      (hafter : after = after' ++ [event]) :
      Remembered formats (before ++ [.called p ⟨.save cache, saved⟩]) after' c release
        (exec (Interleaving.step (checkSetting π formats)) (.idle file) inputs).shared := by
    rw [hnew, hafter, ← List.cons_append, ← List.append_assoc] at hsplit
    rw [hafter] at hanswers hfresh
    exact ih before p cache saved after' c release (List.append_inj_left' hsplit rfl) hrecorded
      hanswers.earlier hfresh.earlier
  cases hmove with
  | none =>
    rw [List.append_nil] at hsplit
    exact ih before p cache saved after c release hsplit hrecorded hanswers hfresh
  | start q k =>
    exact of_last _ rfl
      (fun after' hafter => (of_earlier after' _ rfl hafter).reset (.inr ⟨k, rfl⟩))
      (fun he => by cases he)
  | die q =>
    exact of_last _ rfl (fun after' hafter => (of_earlier after' _ rfl hafter).reset (.inl rfl))
      (fun he => by cases he)
  | disturb x => exact x.elim
  | call q answers e hpermits =>
    refine of_last _ rfl (fun after' hafter => ?_) (fun he hbefore => ?_)
    · have hview : trace (Interleaving.step (checkSetting π formats)) (.idle file) inputs
          = (before ++ [.called p ⟨.save cache, saved⟩]) ++ after' := by
        rw [hafter, ← List.cons_append, ← List.append_assoc] at hsplit
        rw [List.append_assoc]
        exact List.append_inj_left' hsplit rfl
      rw [hview] at hpermits
      rw [hafter] at hanswers hfresh
      exact (of_earlier after' _ rfl hafter).called hpermits hanswers hfresh
    · cases he
      rw [hbefore] at hpermits
      exact .ofSave hpermits hrecorded

/-- **Update notifications are not repeated**, unless a check saves a cache that it loaded before
the notification was recorded. Take any run of any number of checks over one cache file, in which
check `p` shows a notification of `release` on channel `c` and saves. If every later answer on the
channel is that release, and every later save is by a check that has loaded the cache since, then
no check that starts later asks for a notification of that release. -/
theorem update_notification_law (formats : UpdateFormats) (file : UpdateCheckCache)
    (inputs : List (Input π CheckProcess CheckAnswers Empty)) (before after : List (CheckEvent π))
    (p : π) (cache : UpdateCheckCache) (saved : Except UpdatesError Unit) (c : UpdateChannel)
    (release : ReleaseInfo)
    (hrun : checkEvents formats file inputs = before ++ .called p ⟨.save cache, saved⟩ :: after)
    (hrecorded : Recorded formats before p c release)
    (hanswers :
      SameAnswers formats (before ++ [.called p ⟨.save cache, saved⟩]) after c release)
    (hfresh : NoStaleSave after) :
    ∀ mid q k request shown rest,
      after = mid ++ .called q ⟨.showUpdateNotification request, shown⟩ :: rest →
      .started q k ∈ mid → ¬ request.Announces c release := by
  intro mid q k request shown rest hsplit hstarted
  exact (remembered_of_run formats file inputs before p cache saved after c release hrun hrecorded
    hanswers hfresh).silent mid q request shown rest hsplit ⟨k, hstarted⟩

end

/-! ## Two runs -/

namespace UpdateSample

def body : String :=
  "\x7b\"tag_name\":\"v1.1.1\",\"html_url\":\"https://github.test/releases/tag/v1.1.1\","
    ++ "\"draft\":false,\"prerelease\":false\x7d"

/-- What the parsers do with the texts of the two runs. -/
def formats : UpdateFormats where
  parseVersion text :=
    if text = "1.1.0" then .ok { major := 1, minor := 1, patch := 0 }
    else if text = "1.1.1" then .ok { major := 1, minor := 1, patch := 1 }
    else .error "unexpected version"
  newer a b := b.major = a.major && b.minor = a.minor && b.patch < a.patch
  parseRelease text :=
    if text = body then
      .ok {
        tagName := "v1.1.1"
        htmlUrl := "https://github.test/releases/tag/v1.1.1"
        draft := false
        prerelease := false }
    else .error "unexpected body"
  parseReleases _ := .error "unexpected body"

def release : ReleaseInfo where
  version := { major := 1, minor := 1, patch := 1 }
  channel := .stable
  url := "https://github.test/releases/tag/v1.1.1"
  tagName := "v1.1.1"
  assets := []

def answers : CheckAnswers where
  automaticChecksEnabled := .ok true
  channel := .ok .stable
  response := .ok (.ok body none)
  written := .ok ()
  shown := .ok ()

abbrev Input := Interleaving.Input Nat CheckProcess CheckAnswers Empty

def steps (p n : Nat) : List Input := List.replicate n (.step p answers)

def plain : CheckProcess := .check ⟨"1.1.0", .stable⟩ 100

def background : CheckProcess := .command ⟨"1.1.0", .stable⟩ 100 .backgroundCheck

/-- Check 0 loads; check 1 runs to its end, with a notification; check 0 goes on and saves; check 2
runs up to its notification. -/
def overlapping : List Input :=
  .start 0 plain :: steps 0 2 ++ .start 1 background :: steps 1 9 ++ steps 0 3
    ++ .start 2 background :: steps 2 6

/-- One check after the other. -/
def sequential : List Input := .start 1 background :: steps 1 9 ++ .start 2 background :: steps 2 8

def events (inputs : List Input) : List (CheckEvent Nat) := checkEvents formats {} inputs

def saves : CheckEvent Nat → Option (Nat × UpdateCheckCache)
  | .called p ⟨.save cache, _⟩ => some (p, cache)
  | _ => none

def notifies : CheckEvent Nat → Option (Nat × UpdateNotificationRequest)
  | .called p ⟨.showUpdateNotification request, _⟩ => some (p, request)
  | _ => none

def asks : CheckEvent Nat → Option Nat
  | .called p ⟨.get .., _⟩ => some p
  | _ => none

def starts : CheckEvent Nat → Option (Nat × CheckProcess)
  | .started p k => some (p, k)
  | _ => none

def loads : Exchange UpdateCall UpdateCall.Answer → Bool
  | ⟨.load, _⟩ => true
  | _ => false

theorem of_saves {e : CheckEvent Nat} {p : Nat} {cache : UpdateCheckCache}
    (h : saves e = some (p, cache)) : ∃ saved, e = .called p ⟨.save cache, saved⟩ := by
  unfold saves at h
  split at h
  · cases h
    exact ⟨_, rfl⟩
  · cases h

theorem of_notifies {e : CheckEvent Nat} {p : Nat} {request : UpdateNotificationRequest}
    (h : notifies e = some (p, request)) :
    ∃ shown, e = .called p ⟨.showUpdateNotification request, shown⟩ := by
  unfold notifies at h
  split at h
  · cases h
    exact ⟨_, rfl⟩
  · cases h

theorem of_starts {e : CheckEvent Nat} {p : Nat} {k : CheckProcess}
    (h : starts e = some (p, k)) : e = .started p k := by
  unfold starts at h
  split at h
  · cases h
    rfl
  · cases h

/-- An event at a place splits the run there. -/
theorem split_at {ε κ : Type} {es : List ε} {f : ε → Option κ} {n : Nat} {x : κ}
    (h : es[n]?.bind f = some x) :
    ∃ e, f e = some x ∧ es = es.take n ++ e :: es.drop (n + 1)
      ∧ es.take (n + 1) = es.take n ++ [e] := by
  obtain ⟨e, he, hx⟩ := Option.bind_eq_some_iff.mp h
  obtain ⟨hn, rfl⟩ := List.getElem?_eq_some_iff.mp he
  exact ⟨es[n], hx, by simp, by simp⟩

/-- `SameAnswers`, checked. -/
def sameAnswers (before after : List (CheckEvent Nat)) : Bool :=
  (List.range after.length).all fun n =>
    (after[n]?.bind asks).all fun q =>
      (checkView formats (before ++ after.take (n + 1)) q).latest = some release

/-- The check of the answers is right. -/
theorem sameAnswers_sound {before after : List (CheckEvent Nat)}
    (h : sameAnswers before after = true) : SameAnswers formats before after .stable release := by
  intro mid q endpoint userAgent etag response rest hsplit _ latest hlatest
  have hn : mid.length < after.length := by simp [hsplit]
  have hat := List.all_eq_true.mp h mid.length (List.mem_range.mpr hn)
  have hget : after[mid.length]? = some (.called q ⟨.get endpoint userAgent etag, response⟩) := by
    simp [hsplit]
  have htake : after.take (mid.length + 1)
      = mid ++ [.called q ⟨.get endpoint userAgent etag, response⟩] := by
    rw [hsplit, List.take_append, List.take_of_length_le (Nat.le_succ _)]
    simp
  rw [hget, htake] at hat
  have hsome : (checkView formats
      (before ++ (mid ++ [.called q ⟨.get endpoint userAgent etag, response⟩])) q).latest
        = some release := by
    simpa [asks] using hat
  rw [hsome] at hlatest
  exact (Option.some.inj hlatest).symm

/-- `NoStaleSave`, checked. -/
def noStaleSave (after : List (CheckEvent Nat)) : Bool :=
  (List.range after.length).all fun n =>
    (after[n]?.bind saves).all fun (q, _) => (own (after.take n) q).any loads

/-- The decision whether a save is stale is sound. -/
theorem noStaleSave_sound {after : List (CheckEvent Nat)} (h : noStaleSave after = true) :
    NoStaleSave after := by
  intro mid q cache saved rest hsplit
  have hn : mid.length < after.length := by simp [hsplit]
  have hat := List.all_eq_true.mp h mid.length (List.mem_range.mpr hn)
  have hget : after[mid.length]? = some (.called q ⟨.save cache, saved⟩) := by simp [hsplit]
  have htake : after.take mid.length = mid := by simp [hsplit]
  rw [hget, htake] at hat
  have hany : (own mid q).any loads = true := by simpa [saves] using hat
  obtain ⟨⟨e, r⟩, hmem, hload⟩ := List.any_eq_true.mp hany
  cases e with
  | load => exact ⟨r, hmem⟩
  | automaticChecksEnabled | channel | get | write | showUpdateNotification | save => cases hload

/-- What check 1 saves. -/
def saved : UpdateCheckCache where
  stable := some {
    etag := none
    lastCheckedAtUnixSeconds := 100
    latest := {
      version := "1.1.1"
      channel := .stable
      url := "https://github.test/releases/tag/v1.1.1"
      tagName := some "v1.1.1"
      assets := [] }
    lastNotification := some ⟨100, {
      version := "1.1.1"
      channel := .stable
      url := "https://github.test/releases/tag/v1.1.1"
      tagName := some "v1.1.1"
      assets := [] }⟩ }

end UpdateSample

open UpdateSample in
/-- One check after the other: the second has loaded the record of the first, and keeps it. -/
theorem update_notification_law_sequential :
    ∃ before after saved', events sequential
        = before ++ .called 1 ⟨.save UpdateSample.saved, saved'⟩ :: after
      ∧ after ≠ [] ∧ ∀ mid q k request shown rest,
        after = mid ++ .called q ⟨.showUpdateNotification request, shown⟩ :: rest →
        .started q k ∈ mid → ¬ request.Announces .stable release := by
  have hsaves : (events sequential)[8]?.bind saves = some (1, UpdateSample.saved) := by
    decide +kernel
  obtain ⟨e, he, hsplit, htake⟩ := split_at hsaves
  obtain ⟨saved', rfl⟩ := of_saves he
  have hrecorded : checkView formats ((events sequential).take 8) 1
      = ⟨some .stable, some {}, some release, true⟩ := by decide +kernel
  have hanswers : sameAnswers ((events sequential).take 9) ((events sequential).drop 9) = true := by
    decide +kernel
  have hfresh : noStaleSave ((events sequential).drop 9) = true := by decide +kernel
  have hlater : ((events sequential).drop 9).isEmpty = false := by decide +kernel
  refine ⟨_, _, saved', hsplit, fun hnil => by simp [hnil] at hlater, ?_⟩
  refine update_notification_law formats {} sequential ((events sequential).take 8)
    ((events sequential).drop 9) 1 UpdateSample.saved saved' .stable release hsplit ?_ ?_ ?_
  · rw [Recorded, hrecorded]
    exact ⟨rfl, rfl, rfl⟩
  · rw [← htake]
    exact sameAnswers_sound hanswers
  · exact noStaleSave_sound hfresh

open UpdateSample in
/-- Two checks that overlap: the plain one saves what it loaded before the notification, and the
next check notifies again. -/
theorem lost_notification_record :
    ∃ before after saved', events overlapping
        = before ++ .called 1 ⟨.save UpdateSample.saved, saved'⟩ :: after
      ∧ Recorded formats before 1 .stable release
      ∧ SameAnswers formats (before ++ [.called 1 ⟨.save UpdateSample.saved, saved'⟩]) after
          .stable release
      ∧ ∃ mid q k request shown rest,
          after = mid ++ .called q ⟨.showUpdateNotification request, shown⟩ :: rest
            ∧ .started q k ∈ mid ∧ request.Announces .stable release := by
  have hsaves : (events overlapping)[11]?.bind saves = some (1, UpdateSample.saved) := by
    decide +kernel
  obtain ⟨e, he, hsplit, htake⟩ := split_at hsaves
  obtain ⟨saved', rfl⟩ := of_saves he
  have hrecorded : checkView formats ((events overlapping).take 11) 1
      = ⟨some .stable, some {}, some release, true⟩ := by decide +kernel
  have hanswers : sameAnswers ((events overlapping).take 12) ((events overlapping).drop 12)
      = true := by decide +kernel
  have hnotifies : ((events overlapping).drop 12)[8]?.bind notifies
      = some (2, ⟨.stable, { major := 1, minor := 1, patch := 0 }, .stable,
        release.version, .stable, release.url⟩) := by decide +kernel
  obtain ⟨shown, hshown, hafter, -⟩ := split_at hnotifies
  obtain ⟨shown', rfl⟩ := of_notifies hshown
  have hstarts : (((events overlapping).drop 12).take 8)[2]?.bind starts
      = some (2, background) := by decide +kernel
  obtain ⟨start, hstart, hstarted⟩ := Option.bind_eq_some_iff.mp hstarts
  refine ⟨_, _, saved', hsplit, ?_, ?_, _, 2, background, _, shown', _, hafter, ?_, ?_⟩
  · rw [Recorded, hrecorded]
    exact ⟨rfl, rfl, rfl⟩
  · rw [← htake]
    exact sameAnswers_sound hanswers
  · rw [← of_starts hstarted]
    exact List.mem_of_getElem? hstart
  · exact ⟨rfl, rfl, rfl, rfl⟩

end LgBuddy
