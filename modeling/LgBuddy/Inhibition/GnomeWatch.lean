import LgBuddy.Machine.Program
import LgBuddy.Session.Bus

/-!
# LgBuddy — the GNOME inhibition watch

`sources/desktop/gnome/inhibition.rs`: follows whether GNOME's session manager inhibits idleness.
Signals can be queued behind the reply of the very query they invalidate, so that a reply is
published only once the queue has been drained without finding a change.

* `changed` — what a signal says of the session manager of one owner;
* `drainSignals`, `refresh`, `watch` — the loops of the source, each for a number of turns; a run
  that has used them up ends with the error `none`, where the source goes on;
* `AnnouncesInhibitor`, `AnnouncesLoss` — the two kinds of signals that matter, by what stands in
  them;
* `announcesInhibitor_iff`, `losesOwner_iff` — the code takes these and no others.
-/

namespace LgBuddy

open Program

/-! ## Calls -/

inductive GnomeCall where
  -- `stop.load`
  | stopped
  | addSignalMatch (rule : BusSignalMatch)
  | nameHasOwner (name : String)
  | callMethod (request : BusMethodCall)
  | process (timeout : Duration)
  | now
  -- the shared inhibition state
  | observe (inhibited : Bool) (observedAt : Instant)
  | absent

@[reducible] def GnomeReply : GnomeCall → Type
  | .stopped => Bool
  | .addSignalMatch _ => Except SessionBusError Unit
  | .nameHasOwner _ => Except SessionBusError Bool
  | .callMethod _ => Except SessionBusError BusReply
  | .process _ => Except SessionBusError (Option BusSignal)
  | .now => Instant
  | .observe _ _ | .absent => Unit

/-- The error `none` is that of a run cut off after its turns. -/
abbrev GnomeM := ExceptT (Option SessionBusError) (Program GnomeCall GnomeReply)

namespace GnomeInhibition

def ask (c : GnomeCall) : GnomeM (GnomeReply c) := ExceptT.lift (perform c)

/-- `?` on a result of the bus. -/
def orBus {α : Type} : Except SessionBusError α → GnomeM α
  | .ok a => pure a
  | .error err => throw (some err)

def cutOff {α : Type} : GnomeM α := throw none

/-- A method call whose reply has to have a shape. -/
def callFor {α : Type} (request : BusMethodCall)
    (shape : BusReply → Except SessionBusError α) : GnomeM α := do
  let reply ← orBus (← ask (.callMethod request))
  orBus (shape reply)

/-! ## Signals -/

def service : String := "org.gnome.SessionManager"

def objectPath : String := "/org/gnome/SessionManager"

def idleFlag : UInt32 := 8

def processInterval : Duration := 50 * 1000000

def drainInterval : Duration := 1000000

def ownerChanged : SessionBusError := .transport "GNOME SessionManager owner changed"

/-- The announcement that the owner has lost the name, or passed it on. -/
def losesOwner (signal : BusSignal) (owner : String) : Bool :=
  signal.sender = some dbusServiceName &&
    match parseNameOwnerChangedSignal signal with
    | some change =>
      -- a previous owner's loss may have been queued before this one was resolved
      change.name = service && change.oldOwner = some owner && change.newOwner ≠ some owner
    | none => false

/-- The announcement of an inhibitor, with the one object path it carries. -/
def announcesInhibitor (signal : BusSignal) (owner : String) : Bool :=
  signal.sender = some owner && signal.path = objectPath && signal.interface = service
    && (signal.member = "InhibitorAdded" || signal.member = "InhibitorRemoved")
    && match signal.body with
      | [.objectPath _] => true
      | _ => false

def changed (signal : BusSignal) (owner : String) : Except SessionBusError Bool :=
  if losesOwner signal owner then .error ownerChanged else .ok (announcesInhibitor signal owner)

/-! ## The loops -/

def isInhibitedCall (owner : String) : BusMethodCall where
  destination := owner
  path := objectPath
  interface := service
  member := "IsInhibited"
  body := [.u32 idleFlag]

/-- Until the queue is empty; whether anything in it was a change. -/
def drainSignals (owner : String) : Nat → Bool → GnomeM Bool
  | 0, _ => cutOff
  | turns + 1, dirty => do
    if ← ask .stopped then
      return dirty
    else
      match ← orBus (← ask (.process drainInterval)) with
      | none => return dirty
      | some signal =>
        let change ← orBus (changed signal owner)
        drainSignals owner turns (dirty || change)

/-- One query, which is published unless the queue behind it invalidates it; whether the refresh is
over. -/
def queryOnce (turns : Nat) (owner : String) : GnomeM Bool := do
  let inhibited ← callFor (isInhibitedCall owner) BusReply.singleBool
  let observedAt ← ask .now
  let current ← callFor (getNameOwnerCall service) BusReply.singleString
  if current ≠ owner then
    throw (some ownerChanged)
  else
    let dirty ← drainSignals owner turns false
    if ← ask .stopped then
      return true
    else if !dirty then
      ask (.observe inhibited observedAt)
      return true
    else
      return false

def refreshLoop (turns : Nat) (owner : String) : Nat → GnomeM Unit
  | 0 => cutOff
  | left + 1 => do
    if ← ask .stopped then
      return ()
    else if ← queryOnce turns owner then
      return ()
    else
      refreshLoop turns owner left

def refresh (turns : Nat) (owner : String) : GnomeM Unit := refreshLoop turns owner turns

/-- The next signal, if there is one: whether it is a change. -/
def processChange (owner : String) : GnomeM Bool := do
  match ← orBus (← ask (.process processInterval)) with
  | some signal => orBus (changed signal owner)
  | none => return false

/-- Whether to read again: after a change, or when it has been long enough. -/
def refreshDue (reconcileInterval : Duration) (lastRefresh : Instant) (sourceChanged : Bool) :
    GnomeM Bool := do
  if sourceChanged then
    return true
  else
    let now ← ask .now
    return reconcileInterval ≤ now - lastRefresh

def watchLoop (turns : Nat) (reconcileInterval : Duration) (owner : String) :
    Nat → Instant → GnomeM Unit
  | 0, _ => cutOff
  | left + 1, lastRefresh => do
    if ← ask .stopped then
      return ()
    else
      let sourceChanged ← processChange owner
      if ← ask .stopped then
        return ()
      else if ← refreshDue reconcileInterval lastRefresh sourceChanged then
        refresh turns owner
        let lastRefresh ← ask .now
        watchLoop turns reconcileInterval owner left lastRefresh
      else
        watchLoop turns reconcileInterval owner left lastRefresh

def inhibitorMatch (member : String) : BusSignalMatch where
  path := some objectPath
  interface := some service
  member := some member

def ownerMatch : BusSignalMatch where
  sender := some dbusServiceName
  path := some dbusObjectPath
  interface := some dbusInterface
  member := some "NameOwnerChanged"

/-- The subscriptions come first, so that no change is missed. -/
def subscribe : GnomeM Unit := do
  orBus (← ask (.addSignalMatch (inhibitorMatch "InhibitorAdded")))
  orBus (← ask (.addSignalMatch (inhibitorMatch "InhibitorRemoved")))
  orBus (← ask (.addSignalMatch ownerMatch))

def watch (turns : Nat) (reconcileInterval : Duration) : GnomeM Unit := do
  subscribe
  if !(← orBus (← ask (.nameHasOwner service))) then
    ask .absent
  else
    let owner ← callFor (getNameOwnerCall service) BusReply.singleString
    refresh turns owner
    let lastRefresh ← ask .now
    watchLoop turns reconcileInterval owner turns lastRefresh

/-! ## The signals that matter -/

/-- The owner says that an inhibitor came or went. -/
structure AnnouncesInhibitor (signal : BusSignal) (owner : String) : Prop where
  sender : signal.sender = some owner
  path : signal.path = objectPath
  interface : signal.interface = service
  member : signal.member = "InhibitorAdded" ∨ signal.member = "InhibitorRemoved"
  body : ∃ inhibitor, signal.body = [.objectPath inhibitor]

/-- The bus itself says that the session manager's name was the owner's and is no longer. -/
structure AnnouncesLoss (signal : BusSignal) (owner : String) : Prop where
  sender : signal.sender = some dbusServiceName
  path : signal.path = dbusObjectPath
  interface : signal.interface = dbusInterface
  member : signal.member = "NameOwnerChanged"
  /-- An empty text stands for nobody. -/
  body : owner ≠ "" ∧ ∃ newOwner, newOwner ≠ owner
    ∧ signal.body = [.string service, .string owner, .string newOwner]

theorem announcesInhibitor_iff {signal : BusSignal} {owner : String} :
    announcesInhibitor signal owner = true ↔ AnnouncesInhibitor signal owner := by
  unfold announcesInhibitor
  simp only [Bool.and_eq_true, decide_eq_true_eq, Bool.or_eq_true, and_assoc]
  have hbody : (match signal.body with
      | [.objectPath _] => true
      | _ => false) = true ↔ ∃ inhibitor, signal.body = [.objectPath inhibitor] := by
    constructor
    · intro h
      split at h
      · rename_i inhibitor hbody
        exact ⟨inhibitor, hbody⟩
      · cases h
    · rintro ⟨inhibitor, hbody⟩
      rw [hbody]
  rw [hbody]
  constructor
  · intro h
    obtain ⟨hsender, hpath, hinterface, hmember, hbody⟩ := h
    exact ⟨hsender, hpath, hinterface, hmember, hbody⟩
  · intro h
    exact ⟨h.sender, h.path, h.interface, h.member, h.body⟩

/-- A text that is somebody's name is that name. -/
theorem normalizeDbusOwner_eq_some {text owner : String} :
    normalizeDbusOwner text = some owner ↔ owner ≠ "" ∧ text = owner := by
  unfold normalizeDbusOwner
  by_cases hempty : text = ""
  · rw [if_pos hempty, hempty]
    constructor
    · intro h
      cases h
    · rintro ⟨hne, rfl⟩
      exact absurd rfl hne
  · rw [if_neg hempty]
    constructor
    · intro h
      cases h
      exact ⟨hempty, rfl⟩
    · rintro ⟨-, rfl⟩
      rfl

theorem losesOwner_iff {signal : BusSignal} {owner : String} :
    losesOwner signal owner = true ↔ AnnouncesLoss signal owner := by
  unfold losesOwner
  rw [Bool.and_eq_true, decide_eq_true_eq]
  constructor
  · intro h
    obtain ⟨hsender, hchange⟩ := h
    cases hparse : parseNameOwnerChangedSignal signal with
    | none =>
      rw [hparse] at hchange
      cases hchange
    | some change =>
      obtain ⟨hpath, hinterface, hmember, oldOwner, newOwner, hbody, hold, hnew⟩ :=
        parseNameOwnerChangedSignal_eq_some.mp hparse
      rw [hparse] at hchange
      simp only [Bool.and_eq_true, decide_eq_true_eq, and_assoc] at hchange
      obtain ⟨hname, holdOwner, hnewOwner⟩ := hchange
      obtain ⟨hne, rfl⟩ := normalizeDbusOwner_eq_some.mp (hold.symm.trans holdOwner)
      rw [hname] at hbody
      refine ⟨hsender, hpath, hinterface, hmember, hne, newOwner, fun hsame => ?_, hbody⟩
      exact hnewOwner (hnew.trans (normalizeDbusOwner_eq_some.mpr ⟨hne, hsame⟩))
  · intro h
    obtain ⟨hne, newOwner, hother, hbody⟩ := h.body
    have hparse : parseNameOwnerChangedSignal signal
        = some ⟨service, normalizeDbusOwner owner, normalizeDbusOwner newOwner⟩ :=
      parseNameOwnerChangedSignal_eq_some.mpr
        ⟨h.path, h.interface, h.member, owner, newOwner, hbody, rfl, rfl⟩
    have hold : normalizeDbusOwner owner = some owner := normalizeDbusOwner_eq_some.mpr ⟨hne, rfl⟩
    have hnew : normalizeDbusOwner newOwner ≠ some owner :=
      fun hsame => hother (normalizeDbusOwner_eq_some.mp hsame).2
    rw [hparse]
    refine ⟨h.sender, ?_⟩
    simp [hold, hnew]

/-- A change is an announcement of an inhibitor by the owner. -/
theorem changed_eq_true {signal : BusSignal} {owner : String} :
    changed signal owner = .ok true ↔
      losesOwner signal owner = false ∧ announcesInhibitor signal owner = true := by
  unfold changed
  split
  · rename_i hloses
    simp [hloses]
  · rename_i hloses
    simp [Bool.eq_false_iff.mpr hloses]

/-- An error is the loss of the owner. -/
theorem changed_eq_error {signal : BusSignal} {owner : String} {err : SessionBusError} :
    changed signal owner = .error err ↔ losesOwner signal owner = true ∧ err = ownerChanged := by
  unfold changed
  split
  · rename_i hloses
    simp [hloses, eq_comm]
  · rename_i hloses
    simp [Bool.eq_false_iff.mpr hloses]

end GnomeInhibition

end LgBuddy
