import LgBuddy.Machine.Program
import LgBuddy.Release.Identity
import LgBuddy.Update.FailureDetails

/-!
# LgBuddy — the update check

The engine of `updates/check_engine.rs`, with the GitHub answers of `updates/github.rs`, the cache
of `updates.rs` and the notification policy of `updates/notification.rs`.

* `CachedReleaseInfo`, `UpdateCheckCache` — what is remembered of each channel;
* `latestFromResponse`, `fetchLatestRelease` — the release of an answer, and the cache after it;
* `evaluateUpdateNotificationPolicy` — whether the user is told;
* `runUpdateCheck`, `runUpdatesCommand` — a whole check, as a program of calls.

The release service, the notification service and the cache file are the environment of these
programs. `semver` and the part of `serde_json` that reads GitHub's answers are `UpdateFormats`.
-/

namespace LgBuddy

open Program

/-! ## Releases and the cache -/

structure GitHubRelease where
  tagName : String
  htmlUrl : String
  draft : Bool
  prerelease : Bool
  assets : List ReleaseAsset := []
  deriving DecidableEq, Repr

/-- What `semver` and `serde_json` do. -/
structure UpdateFormats where
  /-- `Version::parse`. -/
  parseVersion : String → Except String Version
  /-- `a > b`. -/
  newer : Version → Version → Bool
  /-- `serde_json::from_str` into a `GitHubRelease`. -/
  parseRelease : String → Except String GitHubRelease
  /-- Into a list of them. -/
  parseReleases : String → Except String (List GitHubRelease)

structure CachedReleaseInfo where
  version : String
  channel : UpdateChannel
  url : String
  tagName : Option String
  assets : List ReleaseAsset
  deriving DecidableEq, Repr

def ReleaseInfo.toCached (release : ReleaseInfo) : CachedReleaseInfo where
  version := toString release.version
  channel := release.channel
  url := release.url
  tagName := some release.tagName
  assets := release.assets

def ReleaseInfo.fromCached (formats : UpdateFormats) (cached : CachedReleaseInfo) :
    Option ReleaseInfo :=
  match formats.parseVersion cached.version with
  | .error _ => none
  | .ok version => some {
      version
      channel := cached.channel
      url := cached.url
      tagName := cached.tagName.getD s!"v{version}"
      assets := cached.assets }

def CachedReleaseInfo.matchesRelease (cached : CachedReleaseInfo) (release : ReleaseInfo) : Bool :=
  cached.version = toString release.version && cached.channel = release.channel
    && cached.url = release.url

structure CachedUpdateNotification where
  shownAtUnixSeconds : Nat
  release : CachedReleaseInfo
  deriving DecidableEq, Repr

def CachedUpdateNotification.matchesRelease (notification : CachedUpdateNotification)
    (release : ReleaseInfo) : Bool :=
  notification.release.matchesRelease release

structure CachedUpdateCheck where
  etag : Option String
  lastCheckedAtUnixSeconds : Nat
  latest : CachedReleaseInfo
  lastNotification : Option CachedUpdateNotification
  deriving DecidableEq, Repr

structure UpdateCheckCache where
  stable : Option CachedUpdateCheck := none
  prerelease : Option CachedUpdateCheck := none
  deriving DecidableEq, Repr

namespace UpdateCheckCache

def entry (cache : UpdateCheckCache) : UpdateChannel → Option CachedUpdateCheck
  | .stable => cache.stable
  | .prerelease => cache.prerelease

def setEntry (cache : UpdateCheckCache) (channel : UpdateChannel) (entry : CachedUpdateCheck) :
    UpdateCheckCache :=
  match channel with
  | .stable => { cache with stable := some entry }
  | .prerelease => { cache with prerelease := some entry }

def recordNotification (cache : UpdateCheckCache) (channel : UpdateChannel)
    (release : ReleaseInfo) (shownAt : Nat) : UpdateCheckCache :=
  match cache.entry channel with
  | none => cache
  | some entry =>
    cache.setEntry channel { entry with lastNotification := some ⟨shownAt, release.toCached⟩ }

@[simp] theorem entry_setEntry_self (cache : UpdateCheckCache) (channel : UpdateChannel)
    (entry : CachedUpdateCheck) : (cache.setEntry channel entry).entry channel = some entry := by
  cases channel <;> rfl

theorem entry_setEntry_of_ne (cache : UpdateCheckCache) {channel other : UpdateChannel}
    (entry : CachedUpdateCheck) (hne : other ≠ channel) :
    (cache.setEntry channel entry).entry other = cache.entry other := by
  cases channel <;> cases other <;> first | rfl | exact absurd rfl hne

end UpdateCheckCache

/-! ## Errors -/

inductive UpdateNotificationError where
  | invalidRequest (message : String)
  | transport (message : String)
  | notification (message : String)
  | session (message : String)
  | settings (message : String)
  | openRelease (url message : String)
  deriving DecidableEq, Repr

mutual

inductive UpdatesError where
  | http (url message : String)
  | apiStatus (url : String) (status : Nat) (body : String)
  | apiShape (endpoint source : String)
  | responseTooLarge (url : String) (maxBytes : Nat)
  | invalidLocalVersion (version source : String)
  | noMatchingRelease (channel : UpdateChannel)
  | notModifiedWithoutCache (channel : UpdateChannel)
  | cachePath
  | cacheDecode (path source : String)
  | cacheEncode (source : String)
  | settings (message : String)
  | settingsInvariant (message : String)
  | deferredFailures (failures : List UpdatesDeferredFailure)
  | io (message : String)

inductive UpdatesDeferredFailure where
  | cache (error : UpdatesError)
  | notification (error : UpdateNotificationError)

end

/-! ## The answers of GitHub -/

inductive GitHubReleaseResponse where
  | ok (body : String) (etag : Option String)
  | notModified
  deriving DecidableEq, Repr

inductive ReleaseEndpoint where
  | latestStable
  | latestPublished
  deriving DecidableEq, Repr

def ReleaseEndpoint.label : ReleaseEndpoint → String
  | .latestStable => "latest"
  | .latestPublished => "releases"

/-- The endpoint that `fetch_latest_release` asks. -/
def UpdateChannel.endpoint : UpdateChannel → ReleaseEndpoint
  | .stable => .latestStable
  | .prerelease => .latestPublished

def parseReleaseVersion (formats : UpdateFormats) (tagName : String) : Option Version :=
  match tagName.toList with
  | 'v' :: rest => (formats.parseVersion (String.ofList rest)).toOption
  | _ => (formats.parseVersion tagName).toOption

def releaseInfoFromApiRelease (formats : UpdateFormats) (release : GitHubRelease)
    (channel : UpdateChannel) : Option ReleaseInfo :=
  if release.draft then none
  else if channel = .stable ∧ release.prerelease then none
  else
    (parseReleaseVersion formats release.tagName).map fun version =>
      { version
        channel := if release.prerelease then .prerelease else .stable
        url := release.htmlUrl
        tagName := release.tagName
        assets := release.assets }

def orNoMatching (channel : UpdateChannel) : Option ReleaseInfo → Except UpdatesError ReleaseInfo
  | some release => .ok release
  | none => .error (.noMatchingRelease channel)

/-- The `parse_latest` of `fetch_latest_release`. -/
def parseLatest (formats : UpdateFormats) (channel : UpdateChannel) (body : String) :
    Except UpdatesError ReleaseInfo :=
  match channel with
  | .stable =>
    match formats.parseRelease body with
    | .error source => .error (.apiShape channel.endpoint.label source)
    | .ok release => orNoMatching channel (releaseInfoFromApiRelease formats release channel)
  | .prerelease =>
    match formats.parseReleases body with
    | .error source => .error (.apiShape channel.endpoint.label source)
    | .ok releases =>
      orNoMatching channel
        (releases.head?.bind fun release => releaseInfoFromApiRelease formats release channel)

/-- The release, and the cache after it. On an error the cache is left as it is. -/
def latestFromResponse (formats : UpdateFormats) (channel : UpdateChannel)
    (response : GitHubReleaseResponse) (cache : UpdateCheckCache) (now : Nat) :
    Except UpdatesError (ReleaseInfo × UpdateCheckCache) :=
  match response with
  | .ok body etag =>
    match parseLatest formats channel body with
    | .error error => .error error
    | .ok latest => .ok (latest, cache.setEntry channel {
        etag
        lastCheckedAtUnixSeconds := now
        latest := latest.toCached
        lastNotification := (cache.entry channel).bind (·.lastNotification) })
  | .notModified =>
    match cache.entry channel with
    | none => .error (.notModifiedWithoutCache channel)
    | some entry =>
      match ReleaseInfo.fromCached formats entry.latest with
      | none => .error (.notModifiedWithoutCache channel)
      | some latest =>
        .ok (latest, cache.setEntry channel { entry with lastCheckedAtUnixSeconds := now })

/-! ## The notification -/

inductive ReleaseChannel where
  | dev
  | prerelease
  | stable
  deriving DecidableEq, Repr

def ReleaseChannel.asStr : ReleaseChannel → String
  | .dev => "dev"
  | .prerelease => "prerelease"
  | .stable => "stable"

/-- The running version. -/
structure VersionInfo where
  version : String
  channel : ReleaseChannel
  deriving DecidableEq, Repr

structure UpdateCheckResult where
  checkChannel : UpdateChannel
  currentVersion : Version
  currentChannel : ReleaseChannel
  latest : ReleaseInfo
  deriving DecidableEq, Repr

structure UpdateNotificationRequest where
  checkChannel : UpdateChannel
  currentVersion : Version
  currentChannel : ReleaseChannel
  latestVersion : Version
  latestChannel : UpdateChannel
  releaseUrl : String
  deriving DecidableEq, Repr

def validReleaseUrl (value : String) : Bool :=
  let trimmed := Str.trim value.toList
  !trimmed.isEmpty
    && ("https://".toList.isPrefixOf trimmed || "http://".toList.isPrefixOf trimmed)

namespace UpdateCheckResult

variable (formats : UpdateFormats) (result : UpdateCheckResult)

def updateAvailable : Bool := formats.newer result.latest.version result.currentVersion

def render : String :=
  let status := if result.updateAvailable formats then "update available" else "up to date"
  s!"status: {status}\ncurrent: {result.currentVersion} ({result.currentChannel.asStr})\n"
    ++ s!"latest: {result.latest.version} ({result.latest.channel.asStr})\n"
    ++ s!"url: {result.latest.url}\n"
    ++ if result.updateAvailable formats then "install: lg-buddy updates install\n" else ""

/-- The request, before its URL is checked. -/
def request : UpdateNotificationRequest where
  checkChannel := result.checkChannel
  currentVersion := result.currentVersion
  currentChannel := result.currentChannel
  latestVersion := result.latest.version
  latestChannel := result.latest.channel
  releaseUrl := result.latest.url

def notificationRequest : Except UpdateNotificationError UpdateNotificationRequest :=
  if validReleaseUrl result.latest.url then .ok result.request
  else .error (.invalidRequest s!"invalid release URL `{result.latest.url}`")

end UpdateCheckResult

inductive UpdateNotificationSkipReason where
  | notRequested
  | noUpdateAvailable
  | alreadyShownForRelease
  deriving DecidableEq, Repr

inductive UpdateNotificationReason where
  | newRelease
  deriving DecidableEq, Repr

def UpdateNotificationReason.asStr : UpdateNotificationReason → String
  | .newRelease => "new release"

inductive UpdateNotificationDecision where
  | notify (reason : UpdateNotificationReason)
  | skip (reason : UpdateNotificationSkipReason)
  deriving DecidableEq, Repr

structure UpdateNotificationPolicyInput where
  notifyRequested : Bool
  updateAvailable : Bool
  latest : ReleaseInfo
  lastNotification : Option CachedUpdateNotification

def evaluateUpdateNotificationPolicy (input : UpdateNotificationPolicyInput) :
    UpdateNotificationDecision :=
  if !input.notifyRequested then .skip .notRequested
  else if !input.updateAvailable then .skip .noUpdateAvailable
  else if input.lastNotification.any (·.matchesRelease input.latest) then
    .skip .alreadyShownForRelease
  else .notify .newRelease

def renderUpdateNotificationSent (reason : UpdateNotificationReason) : String :=
  s!"notification: sent ({reason.asStr})\n"

def renderUpdateNotificationFailure (reason : UpdateNotificationReason) : String :=
  s!"notification: failed ({reason.asStr})\n"

def UpdateNotificationSkipReason.text (latest : ReleaseInfo) :
    UpdateNotificationSkipReason → String
  | .notRequested => "not requested"
  | .noUpdateAvailable => "no update available"
  | .alreadyShownForRelease => s!"already shown for {latest.version}"

def renderUpdateNotificationSkip (reason : UpdateNotificationSkipReason) (latest : ReleaseInfo) :
    String :=
  s!"notification: skipped ({reason.text latest})\n"

/-! ## A check, as a program -/

/-- What a check asks of its surroundings: the settings, the cache file, GitHub, the output and the
notification service. -/
inductive UpdateCall where
  | automaticChecksEnabled
  | channel
  | load
  | get (endpoint : ReleaseEndpoint) (userAgent : String) (ifNoneMatch : Option String)
  | write (output : String)
  | showUpdateNotification (request : UpdateNotificationRequest)
  | save (cache : UpdateCheckCache)
  deriving DecidableEq, Repr

abbrev UpdateCall.Answer : UpdateCall → Type
  | .automaticChecksEnabled => Except UpdatesError Bool
  | .channel => Except UpdatesError UpdateChannel
  | .load => Except UpdatesError UpdateCheckCache
  | .get .. => Except UpdatesError GitHubReleaseResponse
  | .write _ => Except String Unit
  | .showUpdateNotification _ => Except UpdateNotificationError Unit
  | .save _ => Except UpdatesError Unit

abbrev UpdateM := ExceptT UpdatesError (Program UpdateCall UpdateCall.Answer)

/-- `writer.write_all(…)?`. -/
def writeAll (output : String) : UpdateM Unit :=
  ExceptT.adapt UpdatesError.io (ExceptT.mk (perform (UpdateCall.write output)))

structure PreparedUpdateCheck where
  result : UpdateCheckResult
  cache : UpdateCheckCache
  deferredFailures : List UpdatesDeferredFailure

structure UpdateCheckOutcome where
  result : UpdateCheckResult
  warnings : List UpdatesDeferredFailure

inductive UpdatesCommand where
  | check (notify : Bool)
  | install
  | backgroundCheck
  deriving DecidableEq, Repr

def UpdatesCommand.notify : UpdatesCommand → Bool
  | .check notify => notify
  | .install => false
  | .backgroundCheck => true

section

variable (formats : UpdateFormats) (version : VersionInfo) (now : Nat)

def fetchLatestRelease (channel : UpdateChannel) (cache : UpdateCheckCache) :
    UpdateM (ReleaseInfo × UpdateCheckCache) := do
  let response ← ExceptT.mk (perform (UpdateCall.get channel.endpoint
    s!"lg-buddy/{version.version}" ((cache.entry channel).bind (·.etag))))
  ExceptT.mk (pure (latestFromResponse formats channel response cache now))

def checkUpdatesWithCache (channel : UpdateChannel) (cache : UpdateCheckCache) :
    UpdateM (UpdateCheckResult × UpdateCheckCache) :=
  match formats.parseVersion version.version with
  | .error source => throw (.invalidLocalVersion version.version source)
  | .ok currentVersion => do
    let (latest, cache) ← fetchLatestRelease formats version now channel cache
    return ({ checkChannel := channel, currentVersion, currentChannel := version.channel, latest },
      cache)

/-- `check_updates`: with nothing remembered. -/
def checkUpdates (channel : UpdateChannel) : UpdateM UpdateCheckResult := do
  let (result, _) ← checkUpdatesWithCache formats version now channel {}
  return result

/-- A cache that cannot be loaded is an empty one, and a failure to be reported in the end. -/
def loadedCache : Except UpdatesError UpdateCheckCache →
    UpdateCheckCache × List UpdatesDeferredFailure
  | .ok cache => (cache, [])
  | .error error => ({}, [.cache error])

def prepareUpdateCheck : UpdateM PreparedUpdateCheck := do
  let channel ← ExceptT.mk (perform UpdateCall.channel)
  let loaded ← ExceptT.lift (perform UpdateCall.load)
  let (result, cache) ←
    checkUpdatesWithCache formats version now channel (loadedCache loaded).1
  return { result, cache, deferredFailures := (loadedCache loaded).2 }

/-- The cache is saved in the end; that this fails is one more failure to be reported. -/
def saveCache (prepared : PreparedUpdateCheck) : UpdateM (List UpdatesDeferredFailure) := do
  match ← ExceptT.lift (perform (UpdateCall.save prepared.cache)) with
  | .ok () => return prepared.deferredFailures
  | .error error => return prepared.deferredFailures ++ [.cache error]

def runUpdateCheck : UpdateM UpdateCheckOutcome := do
  let prepared ← prepareUpdateCheck formats version now
  let warnings ← saveCache prepared
  return { result := prepared.result, warnings }

/-- `request.and_then(|request| notifier.show_update_notification(&request))`. -/
def showNotification :
    Except UpdateNotificationError UpdateNotificationRequest →
      UpdateM (Except UpdateNotificationError Unit)
  | .ok request => ExceptT.lift (perform (UpdateCall.showUpdateNotification request))
  | .error error => return .error error

/-- The cache and the failures after the notification. -/
def afterNotification (prepared : PreparedUpdateCheck) (reason : UpdateNotificationReason) :
    Except UpdateNotificationError Unit → UpdateM PreparedUpdateCheck
  | .ok () => do
    writeAll (renderUpdateNotificationSent reason)
    return { prepared with
      cache := prepared.cache.recordNotification prepared.result.checkChannel
        prepared.result.latest now }
  | .error error => do
    writeAll (renderUpdateNotificationFailure reason)
    return { prepared with
      deferredFailures := prepared.deferredFailures ++ [.notification error] }

def notificationDecision (notify : Bool) (prepared : PreparedUpdateCheck) :
    UpdateNotificationDecision :=
  evaluateUpdateNotificationPolicy {
    notifyRequested := notify
    updateAvailable := prepared.result.updateAvailable formats
    latest := prepared.result.latest
    lastNotification := (prepared.cache.entry prepared.result.checkChannel).bind
      (·.lastNotification) }

def notifyUpdate (notify : Bool) (prepared : PreparedUpdateCheck) : UpdateM PreparedUpdateCheck :=
  match notificationDecision formats notify prepared with
  | .notify reason => do
    let shown ← showNotification prepared.result.notificationRequest
    afterNotification now prepared reason shown
  | .skip reason =>
    if notify then do
      writeAll (renderUpdateNotificationSkip reason prepared.result.latest)
      return prepared
    else return prepared

/-- The failures that were put off. -/
def reportDeferred (failures : List UpdatesDeferredFailure) : UpdateM Unit :=
  if failures.isEmpty then return () else throw (.deferredFailures failures)

/-- A check that was asked for, or that is due. -/
def checkAndNotify (notify : Bool) : UpdateM Unit := do
  let prepared ← prepareUpdateCheck formats version now
  writeAll (prepared.result.render formats)
  let prepared ← notifyUpdate formats now notify prepared
  let failures ← saveCache prepared
  reportDeferred failures

def automaticChecksDisabled : UpdatesCommand → UpdateM Bool
  | .backgroundCheck => do
    let enabled ← ExceptT.mk (perform UpdateCall.automaticChecksEnabled)
    return !enabled
  | .check _ | .install => return false

/-- `run_updates_command_with_update_settings`. -/
def runUpdatesCommand (command : UpdatesCommand) : UpdateM Unit := do
  if ← automaticChecksDisabled command then
    writeAll "background: skipped (automatic update checks disabled)\n"
  else
    checkAndNotify formats version now command.notify

end

end LgBuddy
