import LgBuddy.Text.Json
import LgBuddy.Text.Str
import Mathlib.Algebra.Group.Int.Defs
import Mathlib.Algebra.Group.Nat.Defs

/-!
# LgBuddy — frames of a webOS connection

The part of `web_os/client.rs` and `web_os/registration.rs` that reads one incoming text.

* `WebOsClientError` — how an exchange fails;
* `parseCorrelatedFrame` — is this text the reply to this request;
* `validateResponseMessage`, `parseRegistrationMessage` — what the reply says.
-/

namespace LgBuddy

open Str (isWhitespace trim)

/-! ## Errors -/

/-- Errors of other crates are given by their texts. -/
inductive WebOsClientError where
  | invalidTimeout (name : String)
  | connect (endpoint source : String)
  | configureSocket (source : String)
  | handshake (source : String)
  | handshakeInterrupted
  | requestIdExhausted
  | send (source : String)
  | timeout (requestId : String)
  | connectionClosed (requestId : String)
  | receive (source : String)
  | malformedJson (source : String)
  | invalidFrameRoot
  | missingResponseId
  | invalidResponseId
  | missingMessageType
  | invalidMessageType
  | missingWebOsErrorMessage
  | invalidWebOsErrorMessage
  | webOs (code : Option Int) (message : String) (payload : Option Json)
  | unexpectedBinaryFrame
  | unexpectedRawFrame

instance : ToString WebOsClientError where
  toString
    | .invalidTimeout name => s!"webOS {name} timeout must be greater than zero"
    | .connect endpoint source => s!"could not connect to webOS endpoint `{endpoint}`: {source}"
    | .configureSocket source => s!"could not configure webOS socket: {source}"
    | .handshake source => s!"webOS websocket handshake failed: {source}"
    | .handshakeInterrupted => "webOS websocket handshake was interrupted"
    | .requestIdExhausted => "webOS request ID sequence is exhausted"
    | .send source => s!"could not send webOS request: {source}"
    | .timeout requestId => s!"timed out waiting for webOS response `{requestId}`"
    | .connectionClosed requestId =>
      s!"webOS connection closed before response `{requestId}` arrived"
    | .receive source => s!"could not receive webOS response: {source}"
    | .malformedJson source => s!"webOS response is malformed JSON: {source}"
    | .invalidFrameRoot => "webOS response root is not an object"
    | .missingResponseId => "webOS response has no request ID"
    | .invalidResponseId => "webOS response request ID is not a string"
    | .missingMessageType => "webOS response has no message type"
    | .invalidMessageType => "webOS response message type is not a string"
    | .missingWebOsErrorMessage => "webOS error response has no error message"
    | .invalidWebOsErrorMessage => "webOS error response message is not a string"
    | .webOs (some code) message _ => s!"webOS error {code}: {message}"
    | .webOs none message _ => s!"webOS error: {message}"
    | .unexpectedBinaryFrame => "webOS sent an unexpected binary frame"
    | .unexpectedRawFrame => "webOS sent an unexpected raw frame"

/-! ## Replies -/

/-- The id a frame carries, if it is an object with a string there. -/
def Json.frameId (message : Json) : Option String := (message.get "id").bind asStr

/-- `None` is a frame for somebody else. -/
def parseCorrelatedFrame (serde : Serde) (expectedRequestId rawMessage : String) :
    Except WebOsClientError (Option Json) :=
  match serde.fromStr rawMessage with
  | .error source => .error (.malformedJson source)
  | .ok message =>
    match message with
    | .object entries =>
      match Json.lookup entries "id" with
      | some (.string actualRequestId) =>
        if actualRequestId ≠ expectedRequestId then .ok none else .ok (some message)
      | some _ => .error .invalidResponseId
      | none => .error .missingResponseId
    | _ => .error .invalidFrameRoot

/-- A frame is taken for the reply only if it has the id of the request. -/
theorem parseCorrelatedFrame_some {serde : Serde} {expectedRequestId rawMessage : String}
    {message : Json}
    (h : parseCorrelatedFrame serde expectedRequestId rawMessage = .ok (some message)) :
    serde.fromStr rawMessage = .ok message ∧ message.frameId = some expectedRequestId := by
  unfold parseCorrelatedFrame at h
  split at h
  · cases h
  · rename_i parsed hparsed
    split at h
    · rename_i entries
      split at h
      · rename_i actual hid
        split at h
        · cases h
        · rename_i hactual
          cases h
          refine ⟨hparsed, ?_⟩
          rw [ne_eq, not_not] at hactual
          show (Json.lookup entries "id").bind Json.asStr = _
          rw [hid, ← hactual]
          rfl
      · cases h
      · cases h
    · cases h

/-- `str::parse::<i32>`: an optional sign, then decimal digits. -/
def parseI32 (value : List Char) : Option Int :=
  let (negative, digits) : Bool × List Char := match value with
    | '-' :: ds => (true, ds)
    | '+' :: ds => (false, ds)
    | ds => (false, ds)
  let magnitude : Int := digits.foldl (fun n d => 10 * n + (d.toNat - '0'.toNat : Nat)) 0
  let n := if negative then -magnitude else magnitude
  if digits ≠ [] ∧ digits.all Char.isDigit ∧ -2 ^ 31 ≤ n ∧ n < 2 ^ 31 then some n else none

/-- `splitn(2, char::is_whitespace)`: a leading number is the code, the rest is the text. -/
def splitWebOsError (error : String) : Option Int × String :=
  let first := error.toList.takeWhile (!isWhitespace ·)
  let rest := (error.toList.dropWhile (!isWhitespace ·)).drop 1
  match parseI32 first with
  | some code => (some code, String.ofList (trim rest))
  | none => (none, error)

def parseWebOsError (message : List (String × Json)) : WebOsClientError :=
  match Json.lookup message "error" with
  | some (.string error) =>
    let (code, text) := splitWebOsError error
    .webOs code text (Json.lookup message "payload")
  | some _ => .invalidWebOsErrorMessage
  | none => .missingWebOsErrorMessage

/-- Called on correlated frames only, whose root is an object. -/
def validateResponseMessage (message : Json) : Except WebOsClientError Json :=
  match message with
  | .object entries =>
    match Json.lookup entries "type" with
    | some (.string messageType) =>
      if messageType = "error" then .error (parseWebOsError entries) else .ok message
    | some _ => .error .invalidMessageType
    | none => .error .missingMessageType
  | _ => .error .invalidFrameRoot

theorem validateResponseMessage_ok {message value : Json}
    (h : validateResponseMessage message = .ok value) : value = message := by
  unfold validateResponseMessage at h
  split at h
  · split at h
    · split at h
      · cases h
      · cases h
        rfl
    · cases h
    · cases h
  · cases h

/-! ## Registration -/

/-- `PlatformAccessToken`: a text that is not blank. -/
structure PlatformAccessToken where
  secret : String
  nonblank : trim secret.toList ≠ []
  deriving DecidableEq

def PlatformAccessToken.new (value : String) : Option PlatformAccessToken :=
  if h : trim value.toList ≠ [] then some ⟨value, h⟩ else none

inductive WebOsRegistrationEvent where
  | pairingPrompt
  | registered (accessToken : PlatformAccessToken)

inductive WebOsRegistrationError where
  | emptyRequestId
  | malformedJson (source : String)
  | invalidRootMessage
  | missingRequestId
  | invalidRequestId
  | unexpectedRequestId (expected actual : String)
  | missingMessageType
  | invalidMessageType
  | missingPayload (messageType : String)
  | invalidPayload (messageType : String)
  | unexpectedMessageType (messageType : String)
  | unexpectedRegistrationResponse
  | pairingRejected (message : Option String)
  | missingClientKey
  | invalidClientKeyType
  | invalidClientKey
  | missingWebOsErrorMessage
  | invalidWebOsErrorMessage
  | webOsError (code : Option Int) (message : String)

def requiredPayload (message : List (String × Json)) (messageType : String) :
    Except WebOsRegistrationError (List (String × Json)) :=
  match Json.lookup message "payload" with
  | some (.object payload) => .ok payload
  | some _ => .error (.invalidPayload messageType)
  | none => .error (.missingPayload messageType)

/-- `errorText`, or `error` in its place, if it is a string. -/
def rejectionMessage (payload : List (String × Json)) : Option String :=
  ((Json.lookup payload "errorText").or (Json.lookup payload "error")).bind Json.asStr

def parsePairingPrompt (message : List (String × Json)) (messageType : String) :
    Except WebOsRegistrationError WebOsRegistrationEvent := do
  let payload ← requiredPayload message messageType
  if (Json.lookup payload "returnValue").bind Json.asBool = some false then
    throw (.pairingRejected (rejectionMessage payload))
  else
    match Json.lookup payload "pairingType" with
    | some (.string pairingType) =>
      if pairingType = "PROMPT" then return .pairingPrompt
      else throw .unexpectedRegistrationResponse
    | _ => throw .unexpectedRegistrationResponse

def parseRegistered (message : List (String × Json)) (messageType : String) :
    Except WebOsRegistrationError WebOsRegistrationEvent := do
  let payload ← requiredPayload message messageType
  match Json.lookup payload "client-key" with
  | some (.string clientKey) =>
    match PlatformAccessToken.new clientKey with
    | some accessToken => return .registered accessToken
    | none => throw .invalidClientKey
  | some _ => throw .invalidClientKeyType
  | none => throw .missingClientKey

def parseRegistrationWebOsError (message : List (String × Json)) : WebOsRegistrationError :=
  match Json.lookup message "error" with
  | some (.string error) =>
    let (code, text) := splitWebOsError error
    .webOsError code text
  | some _ => .invalidWebOsErrorMessage
  | none => .missingWebOsErrorMessage

/-- The id is compared once more, as the text is parsed once more. -/
def parseRegistrationMessage (serde : Serde) (expectedRequestId rawMessage : String) :
    Except WebOsRegistrationError WebOsRegistrationEvent :=
  if trim expectedRequestId.toList = [] then .error .emptyRequestId
  else
    match serde.fromStr rawMessage with
    | .error source => .error (.malformedJson source)
    | .ok (.object message) =>
      match Json.lookup message "id" with
      | some (.string actualRequestId) =>
        if actualRequestId ≠ expectedRequestId then
          .error (.unexpectedRequestId expectedRequestId actualRequestId)
        else
          match Json.lookup message "type" with
          | some (.string "response") => parsePairingPrompt message "response"
          | some (.string "registered") => parseRegistered message "registered"
          | some (.string "error") => .error (parseRegistrationWebOsError message)
          | some (.string other) => .error (.unexpectedMessageType other)
          | some _ => .error .invalidMessageType
          | none => .error .missingMessageType
      | some _ => .error .invalidRequestId
      | none => .error .missingRequestId
    | .ok _ => .error .invalidRootMessage

end LgBuddy
