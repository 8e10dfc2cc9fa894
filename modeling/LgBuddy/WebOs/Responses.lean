import LgBuddy.WebOs.Frame
import LgBuddy.Lifecycle.Suspend
import Mathlib.Algebra.Group.Int.Defs

/-!
# LgBuddy — typed webOS responses

`control.rs`, `power.rs`, `screen.rs`, `input.rs`, `audio.rs`, `picture.rs` and `system_info.rs` of
`web_os/`: what the responses to single requests say.

* `ResponseError` — every typed response fails in the same six ways, and in some of its own;
  `ResponseWords` are the words that differ in its texts;
* `acceptedPayload`, `parseFields`, `textField` — what the parsers share;
* `parse…` — the rest of each parser.
-/

namespace LgBuddy

open Str (trim)

/-! ## What the parsers share -/

/-- `D` is what can be wrong with the fields of this response alone. -/
inductive ResponseError (D : Type) where
  | request (source : WebOsClientError)
  | missingPayload
  | invalidPayload
  | missingReturnValue
  | invalidReturnValue
  | requestRejected (message : Option String)
  | field (d : D)

structure ResponseWords where
  request : String
  name : String

def ResponseError.text {D : Type} (words : ResponseWords) (fieldText : D → String) :
    ResponseError D → String
  | .request source => s!"{words.request}: {source}"
  | .missingPayload => s!"{words.name} response has no payload"
  | .invalidPayload => s!"{words.name} response payload is not an object"
  | .missingReturnValue => s!"{words.name} response has no return value"
  | .invalidReturnValue => s!"{words.name} response return value is not a boolean"
  | .requestRejected (some message) => s!"{words.name} request was rejected: {message}"
  | .requestRejected none => s!"{words.name} request was rejected"
  | .field d => s!"{words.name} response {fieldText d}"

/-- The payload of a response whose `returnValue` is true. -/
def acceptedPayload {D : Type} (response : Json) :
    Except (ResponseError D) (List (String × Json)) :=
  match response.get "payload" with
  | some (.object payload) =>
    match Json.lookup payload "returnValue" with
    | some (.bool true) => .ok payload
    | some (.bool false) => .error (.requestRejected (rejectionMessage payload))
    | some _ => .error .invalidReturnValue
    | none => .error .missingReturnValue
  | some _ => .error .invalidPayload
  | none => .error .missingPayload

/-- The fields are read once the payload is accepted. -/
def parseFields {D α : Type} (fields : List (String × Json) → Except D α) (response : Json) :
    Except (ResponseError D) α :=
  match acceptedPayload response with
  | .error err => .error err
  | .ok payload => (fields payload).mapError .field

/-- What can be wrong with a field that must be a text. -/
inductive TextFieldError where
  | missing
  | invalid
  | empty
  deriving DecidableEq, Repr

def TextFieldError.text (label : String) : TextFieldError → String
  | .missing => s!"has no {label}"
  | .invalid => s!"{label} is not a string"
  | .empty => s!"{label} is empty"

/-- A field that must be a text with something in it. -/
def textField (payload : List (String × Json)) (key : String) : Except TextFieldError String :=
  match Json.lookup payload key with
  | some (.string value) => if trim value.toList = [] then .error .empty else .ok value
  | some _ => .error .invalid
  | none => .error .missing

/-! ## Control requests -/

/-- The rejected payload itself is kept for tests only. -/
abbrev WebOsControlError := ResponseError Empty

def WebOsControlError.text : WebOsControlError → String :=
  ResponseError.text ⟨"webOS control request failed", "webOS control"⟩ nofun

def parseControlResponse (response : Json) : Except WebOsControlError (List (String × Json)) :=
  acceptedPayload response

/-! ## Power state -/

inductive WebOsPowerState where
  | active
  | activeStandby
  | screenOff
  | suspend
  | powerOff
  | unknown
  | other (value : String)
  deriving DecidableEq, Repr

def WebOsPowerState.fromWireValue (value : String) : WebOsPowerState :=
  match value with
  | "Active" => .active
  | "Active Standby" => .activeStandby
  | "Screen Off" => .screenOff
  | "Suspend" => .suspend
  | "Power Off" => .powerOff
  | "Unknown" => .unknown
  | _ => .other value

instance : ToString WebOsPowerState where
  toString
    | .active => "Active"
    | .activeStandby => "Active Standby"
    | .screenOff => "Screen Off"
    | .suspend => "Suspend"
    | .powerOff => "Power Off"
    | .unknown => "Unknown"
    | .other value => value

abbrev WebOsPowerStateError := ResponseError TextFieldError

def WebOsPowerStateError.text : WebOsPowerStateError → String :=
  ResponseError.text ⟨"could not read webOS power state", "webOS power-state"⟩
    (TextFieldError.text "state")

def parsePowerStateResponse : Json → Except WebOsPowerStateError WebOsPowerState :=
  parseFields fun payload => (textField payload "state").map .fromWireValue

inductive WebOsScreenControlError where
  | control (source : WebOsControlError)
  | state (d : TextFieldError)

def WebOsScreenControlError.text : WebOsScreenControlError → String
  | .control source => s!"webOS screen control failed: {source.text}"
  | .state d => "webOS screen-control response " ++ d.text "state"

def parseScreenState (payload : List (String × Json)) :
    Except WebOsScreenControlError WebOsPowerState :=
  match textField payload "state" with
  | .ok value => .ok (.fromWireValue value)
  | .error d => .error (.state d)

/-! ## The app in the foreground, and the model -/

abbrev WebOsForegroundAppError := ResponseError TextFieldError

def WebOsForegroundAppError.text : WebOsForegroundAppError → String :=
  ResponseError.text ⟨"could not read webOS foreground app", "webOS foreground-app"⟩
    (TextFieldError.text "app ID")

def parseForegroundAppResponse : Json → Except WebOsForegroundAppError String :=
  parseFields (textField · "appId")

abbrev WebOsModelNameError := ResponseError TextFieldError

def WebOsModelNameError.text : WebOsModelNameError → String :=
  ResponseError.text ⟨"could not read webOS system information", "webOS system-information"⟩
    (TextFieldError.text "model name")

def parseModelNameResponse : Json → Except WebOsModelNameError String :=
  parseFields (textField · "modelName")

/-! ## Audio -/

/-- Some outputs report `-1` for a volume that is not a number. -/
inductive WebOsAudioVolume where
  | known (value : Nat)
  | unknown
  deriving DecidableEq, Repr

structure WebOsAudioStatus where
  volume : WebOsAudioVolume
  muted : Bool
  deriving DecidableEq, Repr

inductive AudioFieldError where
  | missingVolume
  | invalidVolume (value : Json)
  | missingMute
  | invalidMute

def AudioFieldError.text (serde : Serde) : AudioFieldError → String
  | .missingVolume => "has no volume"
  | .invalidVolume value => s!"volume `{serde.toStr value}` is invalid"
  | .missingMute => "has no mute state"
  | .invalidMute => "mute state is not a boolean"

abbrev WebOsAudioStatusError := ResponseError AudioFieldError

def WebOsAudioStatusError.text (serde : Serde) : WebOsAudioStatusError → String :=
  ResponseError.text ⟨"could not read webOS audio status", "webOS audio-status"⟩
    (AudioFieldError.text serde)

/-- `Number::as_i64`. -/
def JsonNumber.asI64 : JsonNumber → Option Int
  | .int n => if -2 ^ 63 ≤ n ∧ n < 2 ^ 63 then some n else none
  | .float _ => none

def parseAudioVolume (value : Int) : Except AudioFieldError WebOsAudioVolume :=
  if value = -1 then .ok .unknown
  else if 0 ≤ value ∧ value ≤ 100 then .ok (.known value.toNat)
  else .error (.invalidVolume (.number (.int value)))

def audioVolumeField (payload : List (String × Json)) :
    Except AudioFieldError WebOsAudioVolume :=
  match Json.lookup payload "volume" with
  | some (.number n) =>
    match n.asI64 with
    | some value => parseAudioVolume value
    | none => .error (.invalidVolume (.number n))
  | some value => .error (.invalidVolume value)
  | none => .error .missingVolume

def audioMuteField (payload : List (String × Json)) : Except AudioFieldError Bool :=
  match Json.lookup payload "mute" with
  | some (.bool muted) => .ok muted
  | some _ => .error .invalidMute
  | none => .error .missingMute

def audioFields (payload : List (String × Json)) : Except AudioFieldError WebOsAudioStatus := do
  let volume ← audioVolumeField payload
  let muted ← audioMuteField payload
  return ⟨volume, muted⟩

def parseAudioStatusResponse : Json → Except WebOsAudioStatusError WebOsAudioStatus :=
  parseFields audioFields

/-! ## Backlight -/

abbrev WebOsBacklightBrightness := Percent

def WebOsBacklightBrightness.new (value : Nat) : Except String WebOsBacklightBrightness :=
  match Percent.new value with
  | some brightness => .ok brightness
  | none => .error s!"webOS backlight brightness `{value}` is outside 0-100"

inductive BacklightFieldError where
  | missingSettings
  | invalidSettings
  | missingBacklight
  | invalidBacklight (value : Json)
  | backlightOutOfRange (value : Json)

def BacklightFieldError.text (serde : Serde) : BacklightFieldError → String
  | .missingSettings => "has no settings"
  | .invalidSettings => "settings are not an object"
  | .missingBacklight => "has no backlight value"
  | .invalidBacklight value => s!"value `{serde.toStr value}` is not a whole number"
  | .backlightOutOfRange value => s!"value `{serde.toStr value}` is outside 0-100"

abbrev WebOsBacklightBrightnessError := ResponseError BacklightFieldError

def WebOsBacklightBrightnessError.text (serde : Serde) :
    WebOsBacklightBrightnessError → String :=
  ResponseError.text
    ⟨"could not read webOS backlight brightness", "webOS backlight-brightness"⟩
    (BacklightFieldError.text serde)

/-- A number from 0 to 100. -/
def backlightInRange (value : Json) (n : Int) :
    Except BacklightFieldError WebOsBacklightBrightness :=
  match Percent.new n.toNat with
  | some brightness => if 0 ≤ n then .ok brightness else .error (.backlightOutOfRange value)
  | none => .error (.backlightOutOfRange value)

/-- The source compares as `f64`: its numbers up to 100 are exact, and rounding a larger one does
not bring it below 100. -/
def normalizeBacklightBrightness (value : Json) :
    Except BacklightFieldError WebOsBacklightBrightness :=
  match value with
  | .number (.int n) => backlightInRange value n
  | .number (.float q) =>
    if q.den = 1 then backlightInRange value q.num else .error (.invalidBacklight value)
  | .string text =>
    match parseU64 text with
    | some n => backlightInRange value n
    | none => .error (.invalidBacklight value)
  | _ => .error (.invalidBacklight value)

def backlightField (payload : List (String × Json)) :
    Except BacklightFieldError WebOsBacklightBrightness :=
  match Json.lookup payload "settings" with
  | some (.object settings) =>
    match Json.lookup settings "backlight" with
    | some value => normalizeBacklightBrightness value
    | none => .error .missingBacklight
  | some _ => .error .invalidSettings
  | none => .error .missingSettings

def parseBacklightBrightnessResponse :
    Json → Except WebOsBacklightBrightnessError WebOsBacklightBrightness :=
  parseFields backlightField

inductive WebOsSetBacklightBrightnessError where
  | createLunaBridge (source : WebOsControlError)
  | missingAlertId
  | invalidAlertId (value : Json)
  | unexpectedAlertId (alertId : String)
  | closeLunaBridge (source : WebOsControlError)
  | readback (expected : WebOsBacklightBrightness) (source : WebOsBacklightBrightnessError)
  | notApplied (expected actual : WebOsBacklightBrightness)

def WebOsSetBacklightBrightnessError.text (serde : Serde) :
    WebOsSetBacklightBrightnessError → String
  | .createLunaBridge source => s!"could not create webOS Luna bridge alert: {source.text}"
  | .missingAlertId => "webOS Luna bridge response has no alert ID"
  | .invalidAlertId value =>
    s!"webOS Luna bridge response alert ID `{serde.toStr value}` is not a string"
  | .unexpectedAlertId alertId => s!"webOS Luna bridge returned unexpected alert ID `{alertId}`"
  | .closeLunaBridge source => s!"could not close webOS Luna bridge alert: {source.text}"
  | .readback expected source =>
    s!"webOS acknowledged backlight brightness {expected}, but verification failed: {source.text serde}"
  | .notApplied expected actual =>
    s!"webOS acknowledged backlight brightness {expected}, but readback was {actual}"

/-- The id an alert is closed by, from the id it was created with. -/
def closeAlertId (payload : List (String × Json)) :
    Except WebOsSetBacklightBrightnessError String :=
  match Json.lookup payload "alertId" with
  | some (.string alertId) =>
    match alertId.toList.dropPrefix? "com.webos.service.apiadapter.pub-".toList with
    | some sequence =>
      if sequence = [] then .error (.unexpectedAlertId alertId)
      else .ok ("com.webos.service.apiadapter-" ++ String.ofList sequence)
    | none => .error (.unexpectedAlertId alertId)
  | some value => .error (.invalidAlertId value)
  | none => .error .missingAlertId

end LgBuddy
