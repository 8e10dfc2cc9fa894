import LgBuddy.Machine.Program
import LgBuddy.Setup.Snapshot
import Mathlib.Data.List.Dedup

/-!
# LgBuddy — setup attention

`Attention` of `session_notifications/setup.rs`: a desktop notification for setup requirements that
nobody has been told of yet. It consumes published snapshots and the signals of the notification
server; what was told is kept in a ledger that outlives the process.

* `AttentionCall` — the calls to the desktop and to the ledger;
* `observe`, `reconcilePreviousHost`, `retire`, `signal` — the operations;
* `AttentionStep` — a process is started, observes, gets a signal; it may be killed between any two
  calls of an operation;
* `attentionRun` — a whole history, with a log of all that has happened.
-/

namespace LgBuddy

/-! ## Data -/

structure RequirementKey where
  config : String
  step : String
  reason : String
  deriving DecidableEq, Repr

structure NotificationAction where
  key : String
  label : String
  deriving DecidableEq, Repr

structure Notification where
  summary : String
  body : String
  actions : List NotificationAction
  deriving DecidableEq, Repr

inductive NotificationSignal where
  | activationToken (id : Nat) (token : String)
  | actionInvoked (id : Nat) (actionKey : String)
  | closed (id : Nat)
  deriving DecidableEq, Repr

structure Outstanding where
  owner : String
  id : Nat
  deriving DecidableEq, Repr

/-- The ledger of one login. -/
structure LedgerData where
  seen : List RequirementKey := []
  outstanding : Option Outstanding := none
  deriving DecidableEq, Repr

structure PendingNotice where
  owner : String
  id : Nat
  requirements : List RequirementKey
  token : Option String := none
  deriving DecidableEq, Repr

structure Attention where
  instanceName : String
  revision : Nat := 0
  pending : Option PendingNotice := none
  recentlyClosed : List PendingNotice := []
  deriving DecidableEq, Repr

/-! ## Calls -/

/-- `load` is the ledger as it is held in memory, which is what the file holds: `save` replaces
both, or neither. The requirements of `notify` are those that the notification is about. -/
inductive AttentionCall where
  | guiOpen
  | owner
  | actionsSupported (owner : String)
  | notify (owner : String) (notification : Notification) (about : List RequirementKey)
  | close (owner : String) (id : Nat)
  | openGui (token : Option String)
  | load
  | save (next : LedgerData)
  deriving DecidableEq, Repr

def AttentionCall.Answer : AttentionCall → Type
  | .guiOpen | .actionsSupported _ => Except String Bool
  | .owner => Except String String
  | .notify _ _ _ => Except String Nat
  | .close _ _ | .openGui _ | .save _ => Except String Unit
  | .load => LedgerData

instance : (e : AttentionCall) → DecidableEq e.Answer
  | .guiOpen | .actionsSupported _ => inferInstanceAs (DecidableEq (Except String Bool))
  | .owner => inferInstanceAs (DecidableEq (Except String String))
  | .notify _ _ _ => inferInstanceAs (DecidableEq (Except String Nat))
  | .close _ _ | .openGui _ | .save _ => inferInstanceAs (DecidableEq (Except String Unit))
  | .load => inferInstanceAs (DecidableEq LedgerData)

abbrev AttentionProgram := Program AttentionCall AttentionCall.Answer

abbrev AttentionM := ExceptT String (StateT Attention AttentionProgram)

namespace AttentionM

def call (e : AttentionCall) : AttentionM e.Answer :=
  liftM (Program.perform e : AttentionProgram e.Answer)

/-- `?`. -/
def orFail {α : Type} (result : Except String α) : AttentionM α := ExceptT.mk (pure result)

def guiOpen : AttentionM Bool := do orFail (← call .guiOpen)
def owner : AttentionM String := do orFail (← call .owner)
def actionsSupported (owner : String) : AttentionM Bool := do
  orFail (← call (.actionsSupported owner))
def notify (owner : String) (notification : Notification) (about : List RequirementKey) :
    AttentionM Nat := do
  orFail (← call (.notify owner notification about))
def close (owner : String) (id : Nat) : AttentionM Unit := do orFail (← call (.close owner id))
def save (next : LedgerData) : AttentionM Unit := do orFail (← call (.save next))
def load : AttentionM LedgerData := call .load

end AttentionM

open AttentionM

/-! ## The ledger -/

/-- Nothing is written when all keys are there. -/
def SetupLedger.record (keys : List RequirementKey) : AttentionM Unit := do
  let data ← load
  if keys.all (· ∈ data.seen) then return ()
  else save { data with seen := data.seen ++ keys.filter (· ∉ data.seen) }

def setOutstanding (outstanding : Option Outstanding) : AttentionM Unit := do
  let data ← load
  if data.outstanding = outstanding then return ()
  else save { data with outstanding }

/-! ## Attention -/

def completeSetupAction : String := "complete-setup"
def defaultAction : String := "default"
def recentlyClosedNotificationLimit : Nat := 16

/-- `replace` of one character after another. -/
def escapeBody (reason : String) : String :=
  ((reason.replace "&" "&amp;").replace "<" "&lt;").replace ">" "&gt;"

/-- All keys of a snapshot have the same config. -/
def RequirementKey.le (a b : RequirementKey) : Bool :=
  decide (a.step < b.step) || (a.step = b.step && decide (a.reason ≤ b.reason))

/-- The keys that somebody is to be told of, as a `BTreeSet` lists them. -/
def attentionRequirements (snapshot : SetupSnapshot) : List RequirementKey :=
  let items := snapshot.requirements.filter fun item =>
    snapshot.status = .incomplete
      && ((item.needsAttention && item.recovery.warrantsNotification)
        || (item.recovery = {} && item.actionable))
  (items.map fun item => ⟨snapshot.config, item.step, item.reason⟩).dedup.mergeSort
    RequirementKey.le

def attentionNotification (unseen : List RequirementKey) : Notification where
  summary := "LG Buddy needs attention"
  body := "\n".intercalate (unseen.map fun key => escapeBody key.reason)
  actions := [⟨defaultAction, "Complete setup"⟩, ⟨completeSetupAction, "Complete setup"⟩]

namespace Attention

def new (instanceName : String) : Attention := { instanceName }

def rememberClosed (pending : PendingNotice) : AttentionM Unit :=
  modify fun attention =>
    let closed := attention.recentlyClosed
    let closed := if closed.length = recentlyClosedNotificationLimit then closed.tail else closed
    { attention with recentlyClosed := closed ++ [pending] }

/-- Closed only as long as its server is there. -/
def closeIfOwned (owner : String) (id : Nat) : AttentionM Unit := do
  match ← call .owner with
  | .ok current => if current = owner then close owner id else return ()
  | .error _ => return ()

def retire : AttentionM Unit := do
  match (← get).pending with
  | none => return ()
  | some pending =>
    closeIfOwned pending.owner pending.id
    setOutstanding none
    modify ({ · with pending := none })
    rememberClosed pending

def closeFor (current : String) (outstanding : Outstanding) : AttentionM Unit :=
  if current = outstanding.owner then close outstanding.owner outstanding.id else return ()

/-- A notice that an earlier process has left behind is withdrawn. -/
def withdraw (outstanding : Outstanding) : AttentionM Unit := do
  let current ← owner
  closeFor current outstanding
  setOutstanding none

def reconcilePreviousHost : AttentionM Unit := do
  match (← get).pending with
  | some _ => return ()
  | none =>
    match (← load).outstanding with
    | none => return ()
    | some outstanding => withdraw outstanding

/-- The notice was accepted: it is remembered, or withdrawn at once. -/
def rememberNotified (owner : String) (id : Nat) (unseen : List RequirementKey) :
    AttentionM Unit := do
  modify ({ · with pending := some { owner, id, requirements := unseen } })
  match ← ExceptT.lift (setOutstanding (some ⟨owner, id⟩)).run with
  | .error err =>
    retire
    throw err
  | .ok () =>
    -- opening the GUI can race the delivery
    if ← guiOpen then retire else return ()

/-- Recorded before delivery. -/
def deliver (requirements unseen : List RequirementKey) : AttentionM Unit := do
  let owner ← owner
  let supported ← actionsSupported owner
  retire
  SetupLedger.record requirements
  if !supported then
    throw "setup notification actions are unavailable; open LG Buddy to complete setup"
  else
    let id ← notify owner (attentionNotification unseen) unseen
    rememberNotified owner id unseen

/-- The pending notice shows something that is not required any more. -/
def outdated (attention : Attention) (requirements : List RequirementKey) : Bool :=
  attention.pending.any fun pending => !pending.requirements.all (· ∈ requirements)

def suppress (requirements : List RequirementKey) : AttentionM Unit := do
  SetupLedger.record requirements
  retire

def present (requirements unseen : List RequirementKey) : AttentionM Unit := do
  if ← guiOpen then suppress requirements
  else if unseen.isEmpty then return ()
  else deliver requirements unseen

def retireOutdated (requirements : List RequirementKey) : AttentionM Unit := do
  let attention ← get
  if attention.outdated requirements then retire else return ()

def attend (requirements : List RequirementKey) : AttentionM Unit := do
  retireOutdated requirements
  if requirements.isEmpty then return ()
  else
    let data ← load
    let unseen := requirements.filter (· ∉ data.seen)
    if unseen.isEmpty && (← get).pending.isNone then return ()
    else present requirements unseen

def observe (snapshot : SetupSnapshot) : AttentionM Unit := do
  let attention ← get
  if snapshot.instanceName ≠ attention.instanceName || snapshot.revision < attention.revision then
    return ()
  else
    modify ({ · with revision := snapshot.revision })
    reconcilePreviousHost
    if snapshot.status = .unchecked then return ()
    else attend (attentionRequirements snapshot)

/-! ### Signals -/

def PendingNotice.matches (owner : String) (id : Nat) (pending : PendingNotice) : Bool :=
  pending.owner = owner && pending.id = id

/-- The first notice of the list gets the token. -/
def giveToken (owner : String) (id : Nat) (token : String) : List PendingNotice → List PendingNotice
  | [] => []
  | pending :: rest =>
    if PendingNotice.matches owner id pending then { pending with token := some token } :: rest
    else pending :: giveToken owner id token rest

def activationToken (owner : String) (id : Nat) (token : String) : AttentionM Unit :=
  modify fun attention =>
    match attention.pending with
    | some pending =>
      if PendingNotice.matches owner id pending then
        { attention with pending := some { pending with token := some token } }
      else
        { attention with recentlyClosed := giveToken owner id token attention.recentlyClosed }
    | none => { attention with recentlyClosed := giveToken owner id token attention.recentlyClosed }

def closed (owner : String) (id : Nat) : AttentionM Unit := do
  match (← get).pending with
  | none => return ()
  | some pending =>
    if PendingNotice.matches owner id pending then
      modify ({ · with pending := none })
      rememberClosed pending
      setOutstanding none
    else return ()

/-- The notice that was acted on is still shown. -/
def withdrawInvoked (pending : PendingNotice) : AttentionM Unit := do
  closeIfOwned pending.owner pending.id
  setOutstanding none

/-- The GUI is opened; if that fails, so does the whole. -/
def launch (pending : PendingNotice) (active : Bool) : AttentionM Unit := do
  let launched ← call (.openGui pending.token)
  let retired ← ExceptT.lift (if active then withdrawInvoked pending else pure ()).run
  orFail launched
  orFail retired

def eraseFirst (owner : String) (id : Nat) : List PendingNotice → List PendingNotice
  | [] => []
  | pending :: rest =>
    if PendingNotice.matches owner id pending then rest else pending :: eraseFirst owner id rest

def invokeRetired (owner : String) (id : Nat) : AttentionM Unit := do
  match (← get).recentlyClosed.find? (PendingNotice.matches owner id) with
  | none => return ()
  | some pending =>
    modify fun attention =>
      { attention with recentlyClosed := eraseFirst owner id attention.recentlyClosed }
    launch pending false

def actionInvoked (owner : String) (id : Nat) (actionKey : String) : AttentionM Unit := do
  if actionKey ≠ completeSetupAction && actionKey ≠ defaultAction then return ()
  else
    match (← get).pending.filter (PendingNotice.matches owner id) with
    | some pending =>
      modify ({ · with pending := none })
      launch pending true
    | none => invokeRetired owner id

def signal (owner : String) : NotificationSignal → AttentionM Unit
  | .activationToken id token => activationToken owner id token
  | .actionInvoked id actionKey => actionInvoked owner id actionKey
  | .closed id => closed owner id

end Attention

/-! ## Histories -/

/-- What has happened. -/
inductive AttentionRecord where
  | started
  | observed (snapshot : SetupSnapshot)
  | received (owner : String) (signal : NotificationSignal)
  | called (e : AttentionCall) (answer : e.Answer)
  deriving DecidableEq

structure AttentionWorld where
  ledger : LedgerData
  log : List AttentionRecord

/-- How the next calls of each kind are answered. -/
structure AttentionAnswers where
  guiOpen : Except String Bool
  owner : Except String String
  actionsSupported : Except String Bool
  notify : Except String Nat
  close : Except String Unit
  openGui : Except String Unit
  save : Except String Unit

def AttentionAnswers.answer (answers : AttentionAnswers) (ledger : LedgerData) :
    (e : AttentionCall) → e.Answer
  | .guiOpen => answers.guiOpen
  | .owner => answers.owner
  | .actionsSupported _ => answers.actionsSupported
  | .notify _ _ _ => answers.notify
  | .close _ _ => answers.close
  | .openGui _ => answers.openGui
  | .load => ledger
  | .save _ => answers.save

/-- A ledger that could not be saved is as it was. -/
def LedgerData.after (ledger : LedgerData) : (e : AttentionCall) → e.Answer → LedgerData
  | .save next, .ok () => next
  | _, _ => ledger

def AttentionWorld.answered (world : AttentionWorld) (e : AttentionCall) (r : e.Answer) :
    AttentionWorld :=
  ⟨world.ledger.after e r, world.log ++ [.called e r]⟩

/-- One call: the answers are numbered by what has happened before. -/
def AttentionWorld.handle (answers : Nat → AttentionAnswers) (world : AttentionWorld)
    (e : AttentionCall) : e.Answer × AttentionWorld :=
  let r := (answers world.log.length).answer world.ledger e
  (r, world.answered e r)

/-- `calls` is the number of calls after which the process is killed, if it makes that many. -/
inductive AttentionStep where
  | start (instanceName : String)
  | observe (snapshot : SetupSnapshot) (calls : Nat)
  | signal (owner : String) (signal : NotificationSignal) (calls : Nat)

/-- The process, if there is one, and the rest of the world. -/
structure AttentionSystem where
  process : Option Attention
  world : AttentionWorld

/-- An operation of the process; a killed process is gone. -/
def AttentionSystem.run (answers : Nat → AttentionAnswers) (attention : Attention)
    (world : AttentionWorld) (calls : Nat) (operation : AttentionM Unit) : AttentionSystem :=
  let result := Program.execUpTo (AttentionWorld.handle answers) calls
    (operation.run.run attention) world
  ⟨result.1.map Prod.snd, result.2⟩

def AttentionWorld.note (world : AttentionWorld) (x : AttentionRecord) : AttentionWorld :=
  { world with log := world.log ++ [x] }

def attentionStep (answers : Nat → AttentionAnswers) (system : AttentionSystem) :
    AttentionStep → AttentionSystem
  | .start instanceName => ⟨some (.new instanceName), system.world.note .started⟩
  | .observe snapshot calls =>
    match system.process with
    | none => system
    | some attention =>
      .run answers attention (system.world.note (.observed snapshot)) calls
        (Attention.observe snapshot)
  | .signal owner signal calls =>
    match system.process with
    | none => system
    | some attention =>
      .run answers attention (system.world.note (.received owner signal)) calls
        (Attention.signal owner signal)

/-- From an empty ledger. -/
def attentionRun (answers : Nat → AttentionAnswers) (steps : List AttentionStep) :
    AttentionSystem :=
  steps.foldl (attentionStep answers) ⟨none, ⟨{}, []⟩⟩

end LgBuddy
