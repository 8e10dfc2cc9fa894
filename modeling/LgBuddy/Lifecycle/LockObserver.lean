import LgBuddy.Lifecycle.Monitor
import LgBuddy.Session.Activity

/-!
# LgBuddy — the lock observer

`sources/linux/logind.rs`: the thread that follows the `LockedHint` of the user's graphical session
and reports its edges to the runner.

* `LockedHintTracker` — the last value seen, and the edge a new value is;
* `logindOwnerChanged`, `mapLockedHintChange` — which signals are believed, and what they say;
* `resolveCurrentGraphicalSession`, `bindLockTarget` — the session and the owner to follow;
* `lockObserverPass` — one turn of the loop; `runLockObserverForSession` — any number of them.
-/

namespace LgBuddy

open Program

/-! ## Calls -/

inductive LockCall where
  -- `stop.load`
  | stopped
  | addSignalMatch (rule : BusSignalMatch)
  | callMethod (call : BusMethodCall)
  | process (timeout : Duration)
  -- the two closures, and the clock
  | lifecycleChanged
  | publish (observation : SessionObservation)
  | now

@[reducible] def LockReply : LockCall → Type
  | .stopped | .lifecycleChanged | .publish _ => Bool
  | .addSignalMatch _ => Except SessionBusError Unit
  | .callMethod _ => Except SessionBusError BusReply
  | .process _ => Except SessionBusError (Option BusSignal)
  | .now => Instant

inductive LogindSessionError where
  | bus (err : SessionBusError)
  | malformedReply (expected : String)
  | noCurrentGraphicalSession
  | ambiguousGraphicalSessions (ids : List String)
  deriving DecidableEq, Repr

abbrev LockM := ExceptT LogindSessionError (Program LockCall LockReply)

namespace LockM

def ask (c : LockCall) : LockM (LockReply c) := ExceptT.lift (perform c)

/-- `?` on a result of the bus. -/
def orBus {α : Type} : Except SessionBusError α → LockM α
  | .ok a => pure a
  | .error err => throw (.bus err)

def callMethod (request : BusMethodCall) : LockM BusReply := do
  orBus (← ask (.callMethod request))

/-- A method call whose reply has to have a shape. -/
def callFor {α : Type} (request : BusMethodCall)
    (shape : BusReply → Except SessionBusError α) : LockM α := do
  orBus (shape (← callMethod request))

end LockM

open LockM

/-! ## The tracker -/

def logindServiceName : String := "org.freedesktop.login1"

def logindSessionInterface : String := "org.freedesktop.login1.Session"

def dbusPropertiesInterface : String := "org.freedesktop.DBus.Properties"

def graphicalSessionTypes : List String := ["wayland", "x11"]

def userSessionClasses : List String := ["user", "user-early", "user-light"]

def logindLockProcessInterval : Duration := 100 * 1000000

structure LogindSession where
  id : String
  path : String
  deriving DecidableEq, Repr

inductive LockedHintChange where
  | changed (locked : Bool)
  | invalidated
  deriving DecidableEq, Repr

structure LockedHintTracker where
  locked : Option Bool := none
  deriving DecidableEq, Repr

def LockedHintTracker.observe (tracker : LockedHintTracker) (locked : Bool) :
    Option SessionEvent × LockedHintTracker :=
  if tracker.locked = some locked then
    (none, tracker)
  else
    match tracker.locked, locked with
    | none, true | some false, true => (some .lock, ⟨some locked⟩)
    | some true, false => (some .unlock, ⟨some locked⟩)
    | none, false | some false, false => (none, ⟨some locked⟩)
    | some true, true => (none, ⟨some locked⟩)

/-! ## Signals -/

/-- The new owner of logind's name, when the bus itself announces one. -/
def logindOwnerChanged (signal : BusSignal) : Option (Option String) :=
  if signal.sender ≠ some dbusServiceName then
    none
  else
    match parseNameOwnerChangedSignal signal with
    | none => none
    | some change => if change.name ≠ logindServiceName then none else some change.newOwner

/-- The value of the first entry under that name. -/
def lockedHintEntry : List (BusValue × BusValue) → Option BusValue
  | [] => none
  | (.string name, value) :: rest => if name = "LockedHint" then some value else lockedHintEntry rest
  | _ :: rest => lockedHintEntry rest

def BusValue.isLockedHint : BusValue → Bool
  | .string name => name = "LockedHint"
  | _ => false

def mapLockedHintChange (signal : BusSignal) (session : LogindSession) (logindOwner : String) :
    Option LockedHintChange :=
  if signal.sender ≠ some logindOwner ∨ signal.path ≠ session.path
      ∨ signal.interface ≠ dbusPropertiesInterface ∨ signal.member ≠ "PropertiesChanged" then
    none
  else
    match signal.body with
    | [.string interface, .dict changed, .array invalidated] =>
      if interface ≠ logindSessionInterface then
        none
      else
        match lockedHintEntry changed with
        | some (.variant (.bool locked)) => some (.changed locked)
        | some (.variant _) => none
        | some (.bool locked) => some (.changed locked)
        | some _ => none
        | none => if invalidated.any BusValue.isLockedHint then some .invalidated else none
    | _ => none

/-! ## The session to follow -/

def property (properties : List (BusValue × BusValue)) (name : String) :
    Except LogindSessionError BusValue :=
  match properties.findSome? fun entry =>
      match entry.1 with
      | .string key => if key = name then some entry.2 else none
      | _ => none with
  | some value => .ok value
  | none => .error (.malformedReply name)

def unwrapVariant : BusValue → BusValue
  | .variant value => value
  | value => value

def propertyBool (properties : List (BusValue × BusValue)) (name : String) :
    Except LogindSessionError Bool := do
  match unwrapVariant (← property properties name) with
  | .bool value => .ok value
  | _ => .error (.malformedReply name)

def propertyString (properties : List (BusValue × BusValue)) (name : String) :
    Except LogindSessionError String := do
  match unwrapVariant (← property properties name) with
  | .string value => .ok value
  | _ => .error (.malformedReply name)

structure LogindSessionProperties where
  uid : UInt32
  remote : Bool
  sessionType : String
  class_ : String
  active : Bool
  deriving DecidableEq, Repr

def LogindSessionProperties.isEligibleForUid (properties : LogindSessionProperties)
    (uid : UInt32) : Bool :=
  properties.uid = uid && !properties.remote && properties.active
    && graphicalSessionTypes.contains properties.sessionType
    && userSessionClasses.contains properties.class_

def propertiesOfReply (reply : BusReply) : Except LogindSessionError LogindSessionProperties := do
  match reply.body with
  | [.dict properties] =>
    match unwrapVariant (← property properties "User") with
    | .struct user =>
      match user with
      | [.u32 uid, .objectPath _] =>
        .ok {
          uid
          remote := ← propertyBool properties "Remote"
          sessionType := ← propertyString properties "Type"
          class_ := ← propertyString properties "Class"
          active := ← propertyBool properties "Active" }
      | _ => .error (.malformedReply "User (uid, object path)")
    | _ => .error (.malformedReply "User struct")
  | _ => .error (.malformedReply "one session property dictionary")

def getAllCall (session : LogindSession) : BusMethodCall where
  destination := logindServiceName
  path := session.path
  interface := dbusPropertiesInterface
  member := "GetAll"
  body := [.string logindSessionInterface]

def sessionProperties (session : LogindSession) : LockM LogindSessionProperties := do
  let reply ← callMethod (getAllCall session)
  match propertiesOfReply reply with
  | .ok properties => pure properties
  | .error err => throw err

def getSessionCall (id : String) : BusMethodCall where
  destination := logindServiceName
  path := logindManagerPath
  interface := logindManagerInterface
  member := "GetSession"
  body := [.string id]

def listSessionsCall : BusMethodCall where
  destination := logindServiceName
  path := logindManagerPath
  interface := logindManagerInterface
  member := "ListSessions"

/-- The records of the list that are the user's and eligible, in order. -/
def eligibleSessions (currentUid : UInt32) : List BusValue → LockM (List LogindSession)
  | [] => pure []
  | .struct fields :: rest =>
    match fields with
    | [.string id, .u32 uid, .string _, .string _, .objectPath path] => do
      if uid ≠ currentUid then
        eligibleSessions currentUid rest
      else
        let session : LogindSession := { id, path }
        if (← sessionProperties session).isEligibleForUid currentUid then
          return session :: (← eligibleSessions currentUid rest)
        else
          eligibleSessions currentUid rest
    | _ => throw (.malformedReply "session record (id, uid, user, seat, object path)")
  | _ :: _ => throw (.malformedReply "session record struct")

def resolveCurrentGraphicalSession (explicitSessionId : Option String) (currentUid : UInt32) :
    LockM LogindSession := do
  match explicitSessionId.filter (· ≠ "") with
  | some id =>
    let path ← callFor (getSessionCall id) BusReply.singleObjectPath
    let session : LogindSession := { id, path }
    if (← sessionProperties session).isEligibleForUid currentUid then
      return session
    else
      throw .noCurrentGraphicalSession
  | none =>
    let reply ← callMethod listSessionsCall
    match reply.body with
    | [.array entries] =>
      match ← eligibleSessions currentUid entries with
      | [] => throw .noCurrentGraphicalSession
      | [session] => return session
      | sessions => throw (.ambiguousGraphicalSessions (sessions.map (·.id)))
    | _ => throw (.malformedReply "one array of session records")

def lockedHintCall (session : LogindSession) : BusMethodCall where
  destination := logindServiceName
  path := session.path
  interface := dbusPropertiesInterface
  member := "Get"
  body := [.string logindSessionInterface, .string "LockedHint"]

def lockedHint (session : LogindSession) : LockM Bool :=
  callFor (lockedHintCall session) BusReply.singleBool

def lockedHintSignalMatch (sessionPath logindOwner : String) : BusSignalMatch where
  sender := some logindOwner
  path := some sessionPath
  interface := some dbusPropertiesInterface
  member := some "PropertiesChanged"

def logindOwnerSignalMatch : BusSignalMatch where
  sender := some dbusServiceName
  path := some dbusObjectPath
  interface := some dbusInterface
  member := some "NameOwnerChanged"

def logindSignalMatch : BusSignalMatch where
  path := some logindManagerPath
  interface := some logindManagerInterface
  member := some "PrepareForSleep"

def addSignalMatch (rule : BusSignalMatch) : LockM Unit := do
  orBus (← ask (.addSignalMatch rule))

def bindLockTarget (explicitSessionId : Option String) (currentUid : UInt32) :
    LockM (LogindSession × String × Bool) := do
  let session ← resolveCurrentGraphicalSession explicitSessionId currentUid
  let owner ← callFor (getNameOwnerCall logindServiceName) BusReply.singleString
  addSignalMatch (lockedHintSignalMatch session.path owner)
  let locked ← lockedHint session
  return (session, owner, locked)

/-! ## The loop -/

/-- The local variables of the loop. -/
structure LockState where
  session : LogindSession
  logindOwner : Option String
  tracker : LockedHintTracker
  deriving DecidableEq, Repr

/-- The value is noted, and its edge published; whether anyone still listens. -/
def publishLockedHint (tracker : LockedHintTracker) (locked : Bool) :
    LockM (Bool × LockedHintTracker) := do
  match tracker.observe locked with
  | (none, tracker) => return (true, tracker)
  | (some event, tracker) =>
    let observedAt ← ask .now
    return (← ask (.publish (.event event observedAt)), tracker)

/-- The end of a turn that has a value to publish. -/
def publishAndGoOn (s : LockState) (locked : Bool) : LockM (Option LockState) := do
  let (listening, tracker) ← publishLockedHint s.tracker locked
  return if listening then some { s with tracker } else none

def handleOwnerChange (explicitSessionId : Option String) (currentUid : UInt32) (s : LockState)
    (newOwner : Option String) : LockM (Option LockState) := do
  if !(← ask .lifecycleChanged) then
    return none
  else
    match newOwner with
    | none => return some { s with logindOwner := none }
    | some _ =>
      let (session, owner, locked) ← bindLockTarget explicitSessionId currentUid
      publishAndGoOn { s with session, logindOwner := some owner } locked

def handleHintChange (s : LockState) (signal : BusSignal) (logindOwner : String) :
    LockM (Option LockState) := do
  match mapLockedHintChange signal s.session logindOwner with
  | none => return some s
  | some (.changed locked) => publishAndGoOn s locked
  | some .invalidated => publishAndGoOn s (← lockedHint s.session)

def handleLockSignal (explicitSessionId : Option String) (currentUid : UInt32) (s : LockState)
    (signal : BusSignal) : LockM (Option LockState) := do
  match logindOwnerChanged signal with
  | some newOwner => handleOwnerChange explicitSessionId currentUid s newOwner
  | none =>
    match s.logindOwner with
    | none => return some s
    | some logindOwner =>
      -- sleep and resume invalidate pending idle decisions, and do nothing else here
      if signal.sender = some logindOwner && (mapPrepareForSleepSignal signal).isSome then
        if ← ask .lifecycleChanged then handleHintChange s signal logindOwner else return none
      else
        handleHintChange s signal logindOwner

/-- One turn: the state to go on with, or `none` once the observer has returned. -/
def lockObserverPass (explicitSessionId : Option String) (currentUid : UInt32) (s : LockState) :
    LockM (Option LockState) := do
  if ← ask .stopped then
    return none
  else
    match ← orBus (← ask (.process logindLockProcessInterval)) with
    | none => return some s
    | some signal => handleLockSignal explicitSessionId currentUid s signal

/-- At most this many turns. -/
def lockObserverPasses (explicitSessionId : Option String) (currentUid : UInt32) :
    Nat → LockState → LockM (Option LockState)
  | 0, s => return some s
  | passes + 1, s => do
    match ← lockObserverPass explicitSessionId currentUid s with
    | none => return none
    | some s' => lockObserverPasses explicitSessionId currentUid passes s'

/-- The observer after so many turns: its variables while it is running, `none` once it has
returned. -/
def runLockObserverForSession (explicitSessionId : Option String) (currentUid : UInt32)
    (passes : Nat) : LockM (Option LockState) := do
  addSignalMatch logindOwnerSignalMatch
  addSignalMatch logindSignalMatch
  let (session, owner, locked) ← bindLockTarget explicitSessionId currentUid
  let s : LockState := { session, logindOwner := some owner, tracker := {} }
  match ← publishAndGoOn s locked with
  | none => return none
  | some s => lockObserverPasses explicitSessionId currentUid passes s

end LgBuddy
