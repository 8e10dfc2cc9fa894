import LgBuddy.Machine.Program
import LgBuddy.Tv
import LgBuddy.WebOs.Authentication
import LgBuddy.WebOs.Responses

/-!
# LgBuddy — the TV client over webOS sessions

`web_os/adapter.rs`: the operations of `TvClient`, which share one authenticated session and open
another one when there is none.

* `AdapterCall` — what an operation asks of the network;
* `WebOsSession.…` — the typed requests of a session;
* `WebOsAdapterFailure` — how a failed request is reported, and whether it ends the session;
* `WebOsTvClient.…` — the operations; `TvCommand` collects them.

Sessions are numbered in the order in which they are opened.
-/

namespace LgBuddy

open Str (trim)

inductive WebOsPairingPolicy where
  | pairIfNeeded
  | storedTokenOnly
  deriving DecidableEq, Repr

inductive AdapterCall where
  /-- The mutex is given, unless it is poisoned. -/
  | lockSession
  /-- `connect_authenticated` or `connect_authenticated_with_stored_token`. -/
  | connect (policy : WebOsPairingPolicy)
  /-- `send_request`. -/
  | request (session : Nat) (uri : String) (payload : Json)
  | sleep (seconds : Nat)

def AdapterCall.Answer : AdapterCall → Type
  | .lockSession => Bool
  | .connect _ => Except WebOsAuthenticatedClientError Unit
  | .request _ _ _ => Except WebOsClientError Json
  | .sleep _ => Unit

abbrev AdapterProgram := Program AdapterCall AdapterCall.Answer

def AdapterProgram.lockSession : AdapterProgram Bool := Program.perform AdapterCall.lockSession

def AdapterProgram.connect (policy : WebOsPairingPolicy) :
    AdapterProgram (Except WebOsAuthenticatedClientError Unit) :=
  Program.perform (AdapterCall.connect policy)

def AdapterProgram.request (session : Nat) (uri : String) (payload : Json) :
    AdapterProgram (Except WebOsClientError Json) :=
  Program.perform (AdapterCall.request session uri payload)

def AdapterProgram.sleep (seconds : Nat) : AdapterProgram Unit :=
  Program.perform (AdapterCall.sleep seconds)

/-! ## Requests of one session -/

def getPowerStateUri := "ssap://com.webos.service.tvpower/power/getPowerState"
def powerOffUri := "ssap://system/turnOff"
def turnOffScreenUri := "ssap://com.webos.service.tvpower/power/turnOffScreen"
def turnOnScreenUri := "ssap://com.webos.service.tvpower/power/turnOnScreen"
def getForegroundAppUri := "ssap://com.webos.applicationManager/getForegroundAppInfo"
def switchInputUri := "ssap://tv/switchInput"
def getAudioStatusUri := "ssap://audio/getStatus"
def setAudioVolumeUri := "ssap://audio/setVolume"
def audioVolumeUpUri := "ssap://audio/volumeUp"
def audioVolumeDownUri := "ssap://audio/volumeDown"
def setAudioMuteUri := "ssap://audio/setMute"
def getSystemSettingsUri := "ssap://settings/getSystemSettings"
def createAlertUri := "ssap://system.notifications/createAlert"
def closeAlertUri := "ssap://system.notifications/closeAlert"
def setSystemSettingsLunaUri := "luna://com.webos.settingsservice/setSystemSettings"
def getSystemInfoUri := "ssap://system/getSystemInfo"

abbrev ClientM (E : Type) := ExceptT E AdapterProgram

namespace WebOsSession

def readResponse {D α : Type} (parse : Json → Except (ResponseError D) α) :
    Except WebOsClientError Json → Except (ResponseError D) α
  | .ok response => parse response
  | .error source => .error (.request source)

/-- A request whose response is read by `parse`. -/
def typedRequest {D α : Type} (parse : Json → Except (ResponseError D) α) (session : Nat)
    (uri : String) (payload : Json) : ClientM (ResponseError D) α :=
  ExceptT.mk do
    let answer ← AdapterProgram.request session uri payload
    return readResponse parse answer

def sendControlRequest : (session : Nat) → (uri : String) → (payload : Json) →
    ClientM WebOsControlError (List (String × Json)) :=
  typedRequest parseControlResponse

/-- `.map(|_| ())`. -/
def control (session : Nat) (uri : String) (payload : Json) : ClientM WebOsControlError Unit := do
  let _ ← sendControlRequest session uri payload
  return ()

def powerState (session : Nat) : ClientM WebOsPowerStateError WebOsPowerState :=
  typedRequest parsePowerStateResponse session getPowerStateUri (.object [])

def powerOff (session : Nat) : ClientM WebOsControlError Unit :=
  control session powerOffUri (.object [])

def setScreenPower (session : Nat) (uri : String) :
    ClientM WebOsScreenControlError WebOsPowerState := do
  let payload ← ExceptT.adapt .control
    (sendControlRequest session uri (.object [("standbyMode", .string "active")]))
  ExceptT.mk (pure (parseScreenState payload))

def turnScreenOff (session : Nat) : ClientM WebOsScreenControlError WebOsPowerState :=
  setScreenPower session turnOffScreenUri

def turnScreenOn (session : Nat) : ClientM WebOsScreenControlError WebOsPowerState :=
  setScreenPower session turnOnScreenUri

def foregroundApp (session : Nat) : ClientM WebOsForegroundAppError String :=
  typedRequest parseForegroundAppResponse session getForegroundAppUri (.object [])

def switchInput (session : Nat) (inputId : String) : ClientM WebOsControlError Unit :=
  control session switchInputUri (.object [("inputId", .string inputId)])

def modelName (session : Nat) : ClientM WebOsModelNameError String :=
  typedRequest parseModelNameResponse session getSystemInfoUri (.object [])

def audioStatus (session : Nat) : ClientM WebOsAudioStatusError WebOsAudioStatus :=
  typedRequest parseAudioStatusResponse session getAudioStatusUri (.object [])

def setVolume (session volume : Nat) : ClientM WebOsControlError Unit :=
  control session setAudioVolumeUri (.object [("volume", .number (.int volume))])

def volumeUp (session : Nat) : ClientM WebOsControlError Unit :=
  control session audioVolumeUpUri (.object [])

def volumeDown (session : Nat) : ClientM WebOsControlError Unit :=
  control session audioVolumeDownUri (.object [])

def setMuted (session : Nat) (muted : Bool) : ClientM WebOsControlError Unit :=
  control session setAudioMuteUri (.object [("mute", .bool muted)])

def backlightBrightness (session : Nat) :
    ClientM WebOsBacklightBrightnessError WebOsBacklightBrightness :=
  typedRequest parseBacklightBrightnessResponse session getSystemSettingsUri
    (.object [("category", .string "picture"), ("keys", .array [.string "backlight"])])

/-- The alert whose closing writes the settings. -/
def alertPayload (params : Json) : Json :=
  let callback : Json := .object [("params", params), ("uri", .string setSystemSettingsLunaUri)]
  .object
    [("buttons", .array [.object
        [("label", .string ""), ("onClick", .string setSystemSettingsLunaUri), ("params", params)]]),
      ("message", .string " "),
      ("onclose", callback),
      ("onfail", callback)]

def setSystemSettingsViaLunaBridge (session : Nat) (params : Json) :
    ClientM WebOsSetBacklightBrightnessError Unit := do
  let payload ← ExceptT.adapt .createLunaBridge
    (sendControlRequest session createAlertUri (alertPayload params))
  let alertId ← ExceptT.mk (pure (closeAlertId payload))
  ExceptT.adapt .closeLunaBridge
    (control session closeAlertUri (.object [("alertId", .string alertId)]))

def setBacklightBrightness (session : Nat) (brightness : WebOsBacklightBrightness) :
    ClientM WebOsSetBacklightBrightnessError Unit := do
  setSystemSettingsViaLunaBridge session (.object
    [("category", .string "picture"),
      ("settings", .object [("backlight", .string (toString brightness.asPercent))])])
  ExceptT.lift (AdapterProgram.sleep 1)
  let actual ← ExceptT.adapt (.readback brightness) (backlightBrightness session)
  if actual ≠ brightness then throw (.notApplied brightness actual) else return ()

end WebOsSession

/-! ## Failures -/

structure WebOsAdapterFailure where
  kind : TvErrorKind
  detail : String
  invalidatesSession : Bool

def WebOsAdapterFailure.intoTvError (failure : WebOsAdapterFailure) (operation : TvOperation) :
    TvError :=
  ⟨operation, failure.kind, failure.detail⟩

def clientFailureWithDetail (error : WebOsClientError) (detail : String) : WebOsAdapterFailure :=
  match error with
  | .webOs _ _ _ => ⟨.rejected, detail, false⟩
  | .invalidTimeout _ => ⟨.internal, detail, false⟩
  | .malformedJson _ | .invalidFrameRoot | .missingResponseId | .invalidResponseId
  | .missingMessageType | .invalidMessageType | .missingWebOsErrorMessage
  | .invalidWebOsErrorMessage | .unexpectedBinaryFrame | .unexpectedRawFrame =>
    ⟨.invalidResponse, detail, true⟩
  | .connect _ _ | .configureSocket _ | .handshake _ | .handshakeInterrupted
  | .requestIdExhausted | .send _ | .timeout _ | .connectionClosed _ | .receive _ =>
    ⟨.transport, detail, true⟩

def authenticatedClientFailure (error : WebOsAuthenticatedClientError) : WebOsAdapterFailure :=
  let detail := toString error
  match error with
  | .connect source => clientFailureWithDetail source detail
  | .authentication .missingStoredToken => ⟨.authentication, detail, false⟩
  | .authentication (.registration (.transport source)) => clientFailureWithDetail source detail
  | .authentication (.registration (.protocol _))
  | .authentication (.registration .storedTokenRequiresPairing) =>
    ⟨.authentication, detail, false⟩
  | .authentication (.store _) => ⟨.authentication, detail, false⟩

/-- The failures of typed responses, which differ in their texts only. -/
def responseFailure {D : Type} (text : ResponseError D → String) (error : ResponseError D) :
    WebOsAdapterFailure :=
  let detail := text error
  match error with
  | .request source => clientFailureWithDetail source detail
  | .requestRejected _ => ⟨.rejected, detail, false⟩
  | .missingPayload | .invalidPayload | .missingReturnValue | .invalidReturnValue | .field _ =>
    ⟨.invalidResponse, detail, false⟩

def foregroundAppFailure : WebOsForegroundAppError → WebOsAdapterFailure :=
  responseFailure WebOsForegroundAppError.text

def modelNameFailure : WebOsModelNameError → WebOsAdapterFailure :=
  responseFailure WebOsModelNameError.text

def powerStateFailure : WebOsPowerStateError → WebOsAdapterFailure :=
  responseFailure WebOsPowerStateError.text

def audioStatusFailure (serde : Serde) : WebOsAudioStatusError → WebOsAdapterFailure :=
  responseFailure (WebOsAudioStatusError.text serde)

def controlFailure : WebOsControlError → WebOsAdapterFailure :=
  responseFailure WebOsControlError.text

def screenControlFailure (error : WebOsScreenControlError) : WebOsAdapterFailure :=
  match error with
  | .control source => { controlFailure source with detail := error.text }
  | .state _ => ⟨.invalidResponse, error.text, false⟩

def backlightBrightnessFailure (serde : Serde) :
    WebOsBacklightBrightnessError → WebOsAdapterFailure :=
  responseFailure (WebOsBacklightBrightnessError.text serde)

def setBacklightBrightnessFailure (serde : Serde) (error : WebOsSetBacklightBrightnessError) :
    WebOsAdapterFailure :=
  match error with
  | .createLunaBridge source | .closeLunaBridge source =>
    { controlFailure source with detail := error.text serde }
  | .readback _ source =>
    { backlightBrightnessFailure serde source with detail := error.text serde }
  | .notApplied _ _ => ⟨.rejected, error.text serde, false⟩
  | .missingAlertId | .invalidAlertId _ | .unexpectedAlertId _ =>
    ⟨.invalidResponse, error.text serde, false⟩

def postconditionFailure (operation : TvOperation) (kind : TvErrorKind)
    (commandResult : Except TvError Unit) (observation : String) : TvError :=
  match commandResult with
  | .ok () => ⟨operation, kind, s!"native webOS acknowledged the command, but {observation}"⟩
  | .error err =>
    ⟨operation, kind,
      s!"native webOS command failed: {err.detail}; verification found that {observation}"⟩

def combinedFailure (commandError verificationError : TvError) : TvError :=
  ⟨commandError.operation, commandError.kind,
    s!"native webOS command failed: {commandError.detail}; postcondition verification also failed: {verificationError.detail}"⟩

/-- The error of a verification that itself failed. -/
def unverifiedFailure (commandResult : Except TvError Unit) (verificationError : TvError) :
    TvError :=
  match commandResult with
  | .ok () => verificationError
  | .error commandError => combinedFailure commandError verificationError

def verificationCannotHelp (error : TvError) : Bool :=
  error.kind = .authentication || error.kind = .internal

/-! ## The client -/

/-- `session` is the field of the source, by the number of the session; `opened` is how many
there have been. -/
structure AdapterState where
  session : Option Nat := none
  opened : Nat := 0
  deriving DecidableEq, Repr

structure WebOsTvClient where
  pairingPolicy : WebOsPairingPolicy
  /-- Prints the values that some error texts quote. -/
  serde : Serde

abbrev AdapterM := ExceptT TvError (StateT AdapterState AdapterProgram)

/-- `?` on a plain result. -/
def AdapterM.ofExcept {α : Type} : Except TvError α → AdapterM α
  | .ok a => pure a
  | .error err => throw err

def AdapterState.open (st : AdapterState) : AdapterState :=
  { session := some st.opened, opened := st.opened + 1 }

def AdapterState.close (st : AdapterState) : AdapterState := { st with session := none }

/-- What is left after a failed request. -/
def AdapterState.afterFailure (st : AdapterState) (failure : WebOsAdapterFailure) :
    AdapterState :=
  if failure.invalidatesSession then st.close else st

namespace WebOsTvClient

variable (client : WebOsTvClient)

def lockSession (operation : TvOperation) : AdapterM Unit := do
  if ← liftM AdapterProgram.lockSession then return ()
  else throw ⟨operation, .internal, "webOS session lock is poisoned"⟩

/-- The session there is, or a new one. -/
def ensureSession (operation : TvOperation) : AdapterM Nat := do
  let st ← get
  match st.session with
  | some session => return session
  | none =>
    match ← liftM (AdapterProgram.connect client.pairingPolicy) with
    | .error err => throw ((authenticatedClientFailure err).intoTvError operation)
    | .ok () =>
      modify AdapterState.open
      return st.opened

def runOnSession {α : Type} (operation : TvOperation)
    (action : Nat → ClientM WebOsAdapterFailure α) : AdapterM α := do
  let session ← client.ensureSession operation
  match ← liftM (action session).run with
  | .ok value => return value
  | .error failure =>
    modify fun st => st.afterFailure failure
    throw (failure.intoTvError operation)

def withSession {α : Type} (operation : TvOperation)
    (action : Nat → ClientM WebOsAdapterFailure α) : AdapterM α := do
  lockSession operation
  client.runOnSession operation action

/-- The power state must have been read on the session that is then given up to the command. -/
def powerOffControllableSession : AdapterM Unit := do
  lockSession .powerOff
  let session ← client.ensureSession .powerOff
  match ← liftM (WebOsSession.powerState session).run with
  | .error err =>
    modify fun st => st.afterFailure (powerStateFailure err)
    throw ((powerStateFailure err).intoTvError .powerOff)
  | .ok powerState =>
    if powerState = .active ∨ powerState = .screenOff then
      modify AdapterState.close
      match ← liftM (WebOsSession.powerOff session).run with
      | .ok () => return ()
      | .error err => throw ((controlFailure err).intoTvError .powerOff)
    else
      throw ⟨.powerOff, .rejected,
        s!"native webOS power-off requires power state `Active` or `Screen Off`, but the TV reported `{powerState}`"⟩

def observePowerState (operation : TvOperation) : AdapterM WebOsPowerState :=
  client.withSession operation fun session =>
    ExceptT.adapt powerStateFailure (WebOsSession.powerState session)

/-- An error that a look at the TV does not change. -/
def beyondVerification : Except TvError Unit → Bool
  | .ok () => false
  | .error err => verificationCannotHelp err

def verifyPowerState (operation : TvOperation) (expected : WebOsPowerState)
    (commandResult : Except TvError Unit) : AdapterM Unit := do
  if beyondVerification commandResult then AdapterM.ofExcept commandResult
  else
    match ← ExceptT.lift (client.observePowerState operation).run with
    | .ok actual =>
      if actual = expected then return ()
      else
        throw (postconditionFailure operation
          (if expected = .active then .screenNotVisible else .rejected) commandResult
          s!"expected power state `{expected}`, but the TV reported `{actual}`")
    | .error verificationError => throw (unverifiedFailure commandResult verificationError)

def readCurrentInput (session : Nat) : ClientM WebOsAdapterFailure CurrentInput := do
  let appId ← ExceptT.adapt foregroundAppFailure (WebOsSession.foregroundApp session)
  return CurrentInput.fromRaw appId

/-- `verify_input` once the screen is known to be visible. -/
def verifyVisibleInput (input : HdmiInput) (commandResult : Except TvError Unit) :
    AdapterM Unit := do
  match ← ExceptT.lift (client.withSession .setInput readCurrentInput).run with
  | .ok actual =>
    if actual.isHdmi input then return ()
    else
      throw (postconditionFailure .setInput .rejected commandResult
        s!"expected input `{input.asStr}`, but the TV reported `{actual}`")
  | .error verificationError => throw (unverifiedFailure commandResult verificationError)

def verifyInput (input : HdmiInput) (commandResult : Except TvError Unit) : AdapterM Unit := do
  if beyondVerification commandResult then AdapterM.ofExcept commandResult
  else
    match ← ExceptT.lift (client.observePowerState .setInput).run with
    | .ok actual =>
      if actual = .active then client.verifyVisibleInput input commandResult
      else
        throw (postconditionFailure .setInput .screenNotVisible commandResult
          s!"cannot verify input while the TV reports power state `{actual}`")
    | .error verificationError => throw (unverifiedFailure commandResult verificationError)

/-! ## Operations -/

def modelName : AdapterM String :=
  client.withSession .readModelName fun session =>
    ExceptT.adapt modelNameFailure (WebOsSession.modelName session)

/-- The second half of `current_input`, after the first read. -/
def retryInput (reusedSession : Bool) (result : Except TvError CurrentInput) :
    AdapterM CurrentInput := do
  let st ← get
  if reusedSession ∧ result.toOption.isNone ∧ st.session.isNone then
    client.runOnSession .readInput readCurrentInput
  else AdapterM.ofExcept result

def currentInput : AdapterM CurrentInput := do
  lockSession .readInput
  let reusedSession := (← get).session.isSome
  let result ← ExceptT.lift (client.runOnSession .readInput readCurrentInput).run
  client.retryInput reusedSession result

def readOledBrightness (serde : Serde) (session : Nat) :
    ClientM WebOsAdapterFailure OledBrightness := do
  let brightness ← ExceptT.adapt (backlightBrightnessFailure serde)
    (WebOsSession.backlightBrightness session)
  ExceptT.mk (pure ((OledBrightness.new brightness.asPercent).mapError fun err =>
    ⟨.invalidResponse, s!"native webOS returned invalid OLED brightness: {err}", false⟩))

def oledBrightness : AdapterM OledBrightness :=
  client.withSession .readOledBrightness (readOledBrightness client.serde)

def audioStatusOf (status : WebOsAudioStatus) : Except WebOsAdapterFailure AudioStatus :=
  match status.volume with
  | .known value =>
    match VolumeLevel.new value with
    | .ok volume => .ok ⟨.level volume, status.muted⟩
    | .error err =>
      .error ⟨.invalidResponse, s!"native webOS returned invalid volume: {err}", false⟩
  | .unknown => .ok ⟨.unknown, status.muted⟩

def readAudioStatus (serde : Serde) (session : Nat) :
    ClientM WebOsAdapterFailure AudioStatus := do
  let status ← ExceptT.adapt (audioStatusFailure serde) (WebOsSession.audioStatus session)
  ExceptT.mk (pure (audioStatusOf status))

def audioStatus : AdapterM AudioStatus :=
  client.withSession .readAudioStatus (readAudioStatus client.serde)

/-- A control request that is not verified. -/
def controlOperation (operation : TvOperation) (request : Nat → ClientM WebOsControlError Unit) :
    AdapterM Unit :=
  client.withSession operation fun session => ExceptT.adapt controlFailure (request session)

def setInput (input : HdmiInput) : AdapterM Unit := do
  if trim input.asStr.toList = [] then
    throw ⟨.setInput, .internal,
      "could not map configured input to webOS: webOS input ID cannot be empty"⟩
  else
    let commandResult ← ExceptT.lift
      (client.controlOperation .setInput (WebOsSession.switchInput · input.asStr)).run
    client.verifyInput input commandResult

def setOledBrightness (brightness : OledBrightness) : AdapterM Unit :=
  match WebOsBacklightBrightness.new brightness.asPercent with
  | .error err =>
    throw ⟨.setOledBrightness, .internal, s!"could not map OLED brightness to webOS: {err}"⟩
  | .ok webOsBrightness =>
    client.withSession .setOledBrightness fun session =>
      ExceptT.adapt (setBacklightBrightnessFailure client.serde)
        (WebOsSession.setBacklightBrightness session webOsBrightness)

def setVolume (volume : VolumeLevel) : AdapterM Unit :=
  client.controlOperation .setVolume (WebOsSession.setVolume · volume.asPercent)

def volumeUp : AdapterM Unit := client.controlOperation .volumeUp WebOsSession.volumeUp

def volumeDown : AdapterM Unit := client.controlOperation .volumeDown WebOsSession.volumeDown

def setMuted (muted : Bool) : AdapterM Unit :=
  client.controlOperation .setMuted (WebOsSession.setMuted · muted)

def powerOff : AdapterM Unit := client.powerOffControllableSession

/-- `blank_screen` and `unblank_screen`: a screen command, whose reported state is dropped, and a
look at the power state. -/
def screenOperation (operation : TvOperation) (expected : WebOsPowerState)
    (request : Nat → ClientM WebOsScreenControlError WebOsPowerState) : AdapterM Unit := do
  let commandResult ← ExceptT.lift (client.withSession operation fun session => do
    let _ ← ExceptT.adapt screenControlFailure (request session)
    return ()).run
  client.verifyPowerState operation expected commandResult

def blankScreen : AdapterM Unit :=
  client.screenOperation .blankScreen .screenOff WebOsSession.turnScreenOff

def unblankScreen : AdapterM Unit :=
  client.screenOperation .unblankScreen .active WebOsSession.turnScreenOn

end WebOsTvClient

/-- One call of `TvClient`. -/
inductive TvCommand where
  | modelName
  | currentInput
  | oledBrightness
  | audioStatus
  | setInput (input : HdmiInput)
  | setOledBrightness (brightness : OledBrightness)
  | setVolume (volume : VolumeLevel)
  | volumeUp
  | volumeDown
  | setMuted (muted : Bool)
  | powerOff
  | blankScreen
  | unblankScreen
  deriving DecidableEq, Repr

def TvCommand.Result : TvCommand → Type
  | .modelName => String
  | .currentInput => CurrentInput
  | .oledBrightness => OledBrightness
  | .audioStatus => AudioStatus
  | .setInput _ | .setOledBrightness _ | .setVolume _ | .volumeUp | .volumeDown | .setMuted _
  | .powerOff | .blankScreen | .unblankScreen => Unit

def WebOsTvClient.run (client : WebOsTvClient) : (command : TvCommand) → AdapterM command.Result
  | .modelName => client.modelName
  | .currentInput => client.currentInput
  | .oledBrightness => client.oledBrightness
  | .audioStatus => client.audioStatus
  | .setInput input => client.setInput input
  | .setOledBrightness brightness => client.setOledBrightness brightness
  | .setVolume volume => client.setVolume volume
  | .volumeUp => client.volumeUp
  | .volumeDown => client.volumeDown
  | .setMuted muted => client.setMuted muted
  | .powerOff => client.powerOff
  | .blankScreen => client.blankScreen
  | .unblankScreen => client.unblankScreen

end LgBuddy
