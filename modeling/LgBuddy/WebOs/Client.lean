import LgBuddy.WebOs.Frame

/-!
# LgBuddy — one webOS connection

`web_os/client.rs` from an established connection on: requests get their ids, are sent, and wait
for the frame that carries their id.

* `ReceiveTurn` — one round of a receive loop: what the caller's flag, the clock and the socket say;
* `WebOsClient` — the connection, with what has been done on it so far;
* `receiveLoop` — the loop, over the turns to come; `judgeOrdinary` and `judgePairing` are the
  bodies of `receive_correlated` and of `receive_correlated_until`;
* `sendRequest`, `sendPairingRequest`, `register`, `registerForPairing` — the requests.

The turns of a connection are given in advance and are numbered: each one is used up by the
receive that sees it. A request that comes to their end is still waiting.
-/

namespace LgBuddy

/-- `tungstenite::Message`, as far as it is looked at. -/
inductive Message where
  | text (raw : String)
  | ping
  | pong
  | close
  | binary
  | frame
  deriving DecidableEq, Repr

/-- One round of a receive loop, by the first thing in it that does not go through. -/
inductive ReceiveTurn where
  /-- The caller has cancelled. An ordinary receive does not ask. -/
  | cancelled
  | expired
  | unconfigured (source : String)
  | readTimedOut
  | readClosed
  | readFailed (source : String)
  | message (m : Message)
  deriving DecidableEq, Repr

/-- The connection. `next_request_sequence` is a `u64`; the other fields are its history: the ids
given to requests, the frames handed to the socket, and the turns used up by each receive. -/
structure WebOsClient where
  nextRequestSequence : Nat := 0
  position : Nat := 0
  given : List String := []
  sent : List Json := []
  receives : List (Nat × Nat) := []

/-- Why a request has no result: it has failed, or it is still waiting for a turn. -/
inductive Halt (E : Type) where
  | waiting
  | failed (err : E)

abbrev Conn (E : Type) := ExceptT (Halt E) (StateM WebOsClient)

/-- A halt under another name. -/
def Halt.map {E E' : Type} (f : E → E') : Halt E → Halt E'
  | .waiting => .waiting
  | .failed err => .failed (f err)

/-- `map_err(…)?`. -/
def Conn.mapFailed {E E' α : Type} (f : E → E') (p : Conn E α) : Conn E' α :=
  ExceptT.mk do
    let result ← p.run
    return result.mapError (Halt.map f)

/-- `?` on a plain result. -/
def Conn.ofExcept {E α : Type} : Except E α → Conn E α
  | .ok a => pure a
  | .error err => throw (.failed err)

/-! ## Failures and surroundings of a request -/

inductive PairingReceiveError where
  | cancelled
  | timeout
  | failed (err : WebOsClientError)

inductive PairingTransportError where
  | cancelled
  | timeout
  | failed

inductive WebOsClientRegistrationError where
  | transport (source : WebOsClientError)
  | protocol (source : WebOsRegistrationError)
  | storedTokenRequiresPairing

inductive PairingRegistrationError where
  | cancelled
  | rejected
  | timeout
  | failed
  | pairingRequired

/-- What the surroundings answer in one request, apart from its turns. -/
structure RequestEnv where
  /-- `socket.send`. -/
  sent : Except String Unit := .ok ()
  /-- `Instant::now().checked_add(…)` gives a deadline. -/
  deadline : Bool := true
  /-- `set_write_timeout`. -/
  writeTimeout : Except String Unit := .ok ()
  /-- The caller's flag before the request. -/
  cancelled : Bool := false

namespace WebOsClient

/-! ## Receiving -/

/-- The turns up to the first that settles the receive, and what it settles. -/
def receiveLoop {E : Type} (judge : ReceiveTurn → Option (Except E Json)) :
    List ReceiveTurn → Nat × Option (Except E Json)
  | [] => (0, none)
  | turn :: rest =>
    match judge turn with
    | some result => (1, some result)
    | none =>
      let (n, result) := receiveLoop judge rest
      (n + 1, result)

/-- A frame that both loops have read. -/
def judgeMessage (serde : Serde) (requestId : String) :
    Message → Option (Except WebOsClientError Json)
  | .text raw =>
    match parseCorrelatedFrame serde requestId raw with
    | .ok (some response) => some (.ok response)
    | .ok none => none
    | .error err => some (.error err)
  | .ping | .pong => none
  | .close => some (.error (.connectionClosed requestId))
  | .binary => some (.error .unexpectedBinaryFrame)
  | .frame => some (.error .unexpectedRawFrame)

/-- One round of `receive_correlated`. -/
def judgeOrdinary (serde : Serde) (requestId : String) :
    ReceiveTurn → Option (Except WebOsClientError Json)
  | .cancelled => none
  | .expired | .readTimedOut => some (.error (.timeout requestId))
  | .unconfigured source => some (.error (.configureSocket source))
  | .readClosed => some (.error (.connectionClosed requestId))
  | .readFailed source => some (.error (.receive source))
  | .message m => judgeMessage serde requestId m

/-- One round of `receive_correlated_until`: it sees the flag, and reads again after a timeout of
the socket alone. -/
def judgePairing (serde : Serde) (requestId : String) :
    ReceiveTurn → Option (Except PairingReceiveError Json)
  | .cancelled => some (.error .cancelled)
  | .expired => some (.error .timeout)
  | .readTimedOut => none
  | .unconfigured source => some (.error (.failed (.configureSocket source)))
  | .readClosed => some (.error (.failed (.connectionClosed requestId)))
  | .readFailed source => some (.error (.failed (.receive source)))
  | .message m => (judgeMessage serde requestId m).map (·.mapError .failed)

/-- A receive that has used up `n` turns. -/
def advance (client : WebOsClient) (n : Nat) : WebOsClient :=
  { client with
    position := client.position + n
    receives := client.receives ++ [(client.position, client.position + n)] }

def settle {E : Type} : Option (Except E Json) → Conn E Json
  | none => throw .waiting
  | some result => Conn.ofExcept result

/-- A receive on the connection whose turns are `incoming`. -/
def receive {E : Type} (incoming : List ReceiveTurn) (judge : ReceiveTurn → Option (Except E Json)) :
    Conn E Json := do
  let client ← get
  let outcome := receiveLoop judge (incoming.drop client.position)
  set (client.advance outcome.1)
  settle outcome.2

def receiveCorrelated (serde : Serde) (incoming : List ReceiveTurn) (requestId : String) :
    Conn WebOsClientError Json := receive incoming (judgeOrdinary serde requestId)

def receiveCorrelatedUntil (serde : Serde) (incoming : List ReceiveTurn) (requestId : String) :
    Conn PairingReceiveError Json := receive incoming (judgePairing serde requestId)

/-! ## Sending -/

def nextRequestId : Conn WebOsClientError String := do
  let client ← get
  if client.nextRequestSequence + 1 < 2 ^ 64 then
    let requestId := "request_" ++ Nat.repr client.nextRequestSequence
    set { client with
      nextRequestSequence := client.nextRequestSequence + 1
      given := client.given ++ [requestId] }
    return requestId
  else
    throw (.failed .requestIdExhausted)

def sendMessage (env : RequestEnv) (request : Json) : Conn WebOsClientError Unit := do
  modify fun client => { client with sent := client.sent ++ [request] }
  Conn.ofExcept (env.sent.mapError .send)

def responseDeadline (env : RequestEnv) : Conn WebOsClientError Unit :=
  if env.deadline then pure () else throw (.failed (.invalidTimeout "response"))

def requestFrame (requestId uri : String) (payload : Json) : Json :=
  .object [("id", .string requestId), ("type", .string "request"), ("uri", .string uri),
    ("payload", payload)]

section

variable (serde : Serde) (incoming : List ReceiveTurn) (env : RequestEnv)

def exchange (requestId : String) (request : Json) : Conn WebOsClientError Json := do
  sendMessage env request
  responseDeadline env
  let response ← receiveCorrelated serde incoming requestId
  Conn.ofExcept (validateResponseMessage response)

def sendRequest (uri : String) (payload : Json) : Conn WebOsClientError Json := do
  let requestId ← nextRequestId
  exchange serde incoming env requestId (requestFrame requestId uri payload)

def pairingReceiveError : PairingReceiveError → PairingTransportError
  | .cancelled => .cancelled
  | .timeout => .timeout
  | .failed _ => .failed

def pairingTransportErrorFromClient : WebOsClientError → PairingTransportError
  | .timeout _ => .timeout
  | _ => .failed

def sendPairingRequest (uri : String) (payload : Json) (responseTimeout : Nat) :
    Conn PairingTransportError Json := do
  if responseTimeout = 0 then
    throw (.failed .failed)
  else
    Conn.ofExcept (env.writeTimeout.mapError fun _ => .failed)
    let requestId ← nextRequestId.mapFailed fun _ => .failed
    (sendMessage env (requestFrame requestId uri payload)).mapFailed fun _ => .failed
    if env.deadline then
      let response ←
        (receiveCorrelatedUntil serde incoming requestId).mapFailed pairingReceiveError
      Conn.ofExcept ((validateResponseMessage response).mapError pairingTransportErrorFromClient)
    else
      throw (.failed .failed)

/-! ## Registration -/

/-- `WebOsRegistrationRequest::to_json_value`; the bundled manifest is a parameter. -/
def registrationFrame (manifest : Json) (requestId : String)
    (accessToken : Option PlatformAccessToken) : Json :=
  .object [("type", .string "register"), ("id", .string requestId),
    ("payload", .object [
      ("client-key", (accessToken.map fun token => Json.string token.secret).getD .null),
      ("forcePairing", .bool false), ("manifest", manifest),
      ("pairingType", .string "PROMPT")])]

/-- The loop of both registrations. A prompt ends it if there was a token, and otherwise means to
wait on; `fuel` bounds the number of receives. -/
def registrationLoop {E : Type} (receiveOne : Conn E Json)
    (parse : Json → Except E WebOsRegistrationEvent) (requiresPairing : E) (hasToken : Bool) :
    (fuel : Nat) → Conn E PlatformAccessToken
  | 0 => throw .waiting
  | fuel + 1 => do
    let response ← receiveOne
    match ← Conn.ofExcept (parse response) with
    | .pairingPrompt =>
      if hasToken then throw (.failed requiresPairing)
      else registrationLoop receiveOne parse requiresPairing hasToken fuel
    | .registered accessToken => return accessToken

/-- Every receive that gives a frame uses up a turn, so that this many receives are enough. -/
def receivesLeft (client : WebOsClient) : Nat := incoming.length - client.position + 1

def register (manifest : Json) (accessToken : Option PlatformAccessToken) :
    Conn WebOsClientRegistrationError PlatformAccessToken := do
  let requestId ← nextRequestId.mapFailed .transport
  (sendMessage env (registrationFrame manifest requestId accessToken)).mapFailed .transport
  (responseDeadline env).mapFailed .transport
  let client ← get
  registrationLoop ((receiveCorrelated serde incoming requestId).mapFailed .transport)
    (fun response =>
      (parseRegistrationMessage serde requestId (serde.toStr response)).mapError .protocol)
    .storedTokenRequiresPairing accessToken.isSome (receivesLeft incoming client)

def pairingRegistrationReceiveError : PairingReceiveError → PairingRegistrationError
  | .cancelled => .cancelled
  | .timeout => .timeout
  | .failed _ => .failed

def pairingRegistrationProtocolError : WebOsRegistrationError → PairingRegistrationError
  | .pairingRejected _ => .rejected
  | _ => .failed

def registerForPairing (manifest : Json) (accessToken : Option PlatformAccessToken) :
    Conn PairingRegistrationError PlatformAccessToken := do
  if env.cancelled then
    throw (.failed .cancelled)
  else
    let requestId ← nextRequestId.mapFailed fun _ => .failed
    (sendMessage env (registrationFrame manifest requestId accessToken)).mapFailed fun _ => .failed
    let client ← get
    registrationLoop
      ((receiveCorrelatedUntil serde incoming requestId).mapFailed pairingRegistrationReceiveError)
      (fun response => (parseRegistrationMessage serde requestId (serde.toStr response)).mapError
        pairingRegistrationProtocolError)
      .pairingRequired accessToken.isSome (receivesLeft incoming client)

end

end WebOsClient

end LgBuddy
