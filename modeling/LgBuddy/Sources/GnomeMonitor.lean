import LgBuddy.Machine.Mealy
import LgBuddy.Session.Activity
import LgBuddy.Session.Bus

/-!
# LgBuddy — the GNOME activity monitor

`sources/desktop/gnome.rs`: the signals of the ScreenSaver and the user-active watches of Mutter's
IdleMonitor, read from one bus connection.

* `TrustedScreenSaverSignals.observe`, `GnomeActivityWatch` — which signals are believed;
* `GnomeTurn` is what one turn of `run_gnome_monitor_process` meets: the stop flag, the message, and
  the answers of `publish` and of the bus; `GnomeMonitor.step` is the turn, and answers with what it
  publishes and calls;
* `ownerAfter` — the owner of a name, as the bus has announced it;
* `Follows` — a monitor that runs has the announced owners, and the id of its latest watch;
* the laws: `activity_is_from_armed_watch`, `watch_fires_once`, `nothing_after_owner_change` and
  `screenSaver_event_is_from_owner`. The last one does not hold of a signal without a sender that
  arrives while the name has no owner: both sides of the comparison are absent then.
-/

namespace LgBuddy

def BusReply.singleU32 (reply : BusReply) : Except SessionBusError UInt32 :=
  match reply.body with
  | [.u32 value] => .ok value
  | [value] => .error (.unexpectedReplyShape "single u32" value.kind)
  | _ => .error (.unexpectedReplyShape "single u32" "multiple values")

namespace GnomeMonitor

def screenSaverName : String := "org.gnome.ScreenSaver"
def screenSaverPath : String := "/org/gnome/ScreenSaver"
def screenSaverInterface : String := "org.gnome.ScreenSaver"
def idleMonitorName : String := "org.gnome.Mutter.IdleMonitor"
def idleMonitorPath : String := "/org/gnome/Mutter/IdleMonitor/Core"
def idleMonitorInterface : String := "org.gnome.Mutter.IdleMonitor"

inductive GnomeSourceError where
  | unavailable (reason : String)
  | failed (message : String)
  deriving DecidableEq, Repr

/-! ## Signals of the screen saver -/

def mapScreenSaverSignal (signal : BusSignal) : Option SessionEvent :=
  if signal.path ≠ screenSaverPath ∨ signal.interface ≠ screenSaverInterface then none
  else if signal.member = "ActiveChanged" then
    match signal.body with
    | [.bool true] => some .idle
    | [.bool false] => some .active
    | _ => none
  else if signal.member = "WakeUpScreen" then
    match signal.body with
    | [] => some .wakeRequested
    | _ => none
  else none

/-- The new owner, where the signal announces one. -/
def screenSaverOwnerChanged (signal : BusSignal) : Option (Option String) := do
  let ownerChange ← parseNameOwnerChangedSignal signal
  if ownerChange.name ≠ screenSaverName then none else some ownerChange.newOwner

structure TrustedScreenSaverSignals where
  owner : Option String
  deriving DecidableEq, Repr

def TrustedScreenSaverSignals.observe (trusted : TrustedScreenSaverSignals) (signal : BusSignal) :
    TrustedScreenSaverSignals × Option SessionEvent :=
  if signal.path = dbusObjectPath ∧ signal.interface = dbusInterface
      ∧ signal.member = "NameOwnerChanged" then
    if signal.sender ≠ some dbusServiceName then (trusted, none)
    else
      match screenSaverOwnerChanged signal with
      | some newOwner => ({ owner := newOwner }, none)
      | none => (trusted, none)
  else if signal.sender ≠ trusted.owner then (trusted, none)
  else (trusted, mapScreenSaverSignal signal)

/-! ## Watches of the idle monitor -/

structure GnomeActivityWatch where
  owner : String
  id : UInt32
  deriving DecidableEq

namespace GnomeActivityWatch

def armCall (watch : GnomeActivityWatch) : BusMethodCall where
  destination := watch.owner
  path := idleMonitorPath
  interface := idleMonitorInterface
  member := "AddUserActiveWatch"

/-- `arm`, for the reply to `armCall`; `text` is how an error prints itself. -/
def arm (text : SessionBusError → String) (watch : GnomeActivityWatch)
    (reply : Except SessionBusError BusReply) : Except GnomeSourceError GnomeActivityWatch :=
  match reply.bind (·.singleU32) with
  | .ok id => .ok { watch with id }
  | .error err => .error (.failed s!"failed to watch Mutter user activity: {text err}")

/-- `connect`, for the owner that the bus names and the reply to `armCall`. -/
def connect (text : SessionBusError → String) (owner : Except SessionBusError String)
    (reply : Except SessionBusError BusReply) : Except GnomeSourceError GnomeActivityWatch :=
  match owner with
  | .ok owner => arm text ⟨owner, 0⟩ reply
  | .error err => .error (.failed s!"failed to resolve Mutter IdleMonitor owner: {text err}")

def fired (watch : GnomeActivityWatch) (signal : BusSignal) : Bool :=
  signal.sender = some watch.owner && signal.path = idleMonitorPath
    && signal.interface = idleMonitorInterface && signal.member = "WatchFired"
    && match signal.body with
      | [.u32 id] => id = watch.id
      | _ => false

def ownerChanged (watch : GnomeActivityWatch) (signal : BusSignal) : Bool :=
  signal.sender = some dbusServiceName
    && (parseNameOwnerChangedSignal signal).any fun change =>
      change.name = idleMonitorName && change.newOwner ≠ some watch.owner

end GnomeActivityWatch

end GnomeMonitor

/-! ## The loop -/

open GnomeMonitor

/-- What one turn of the loop meets. -/
structure GnomeTurn where
  stop : Bool
  processed : Except SessionBusError (Option BusSignal)
  activityAt : Instant
  /-- What `publish` answers to an activity. -/
  activityTaken : Bool
  /-- The reply to `AddUserActiveWatch`. -/
  armed : Except SessionBusError BusReply
  eventAt : Instant
  /-- What `publish` answers to an event. -/
  eventTaken : Bool

/-- What the loop does to the outside. -/
inductive GnomeAct where
  | publish (observation : SessionObservation)
  | callMethod (request : BusMethodCall)

namespace GnomeAct

def isActivity : GnomeAct → Bool
  | publish (.inactivity _ _) => true
  | _ => false

def isCall : GnomeAct → Bool
  | callMethod _ => true
  | publish _ => false

end GnomeAct

/-- `result` is there once the loop has returned. -/
structure GnomeMonitor where
  trusted : TrustedScreenSaverSignals
  watch : GnomeActivityWatch
  result : Option (Except GnomeSourceError Unit) := none

namespace GnomeMonitor

variable (text : SessionBusError → String)

/-- The second half of a turn. -/
def observeSignal (monitor : GnomeMonitor) (turn : GnomeTurn) (signal : BusSignal) :
    GnomeMonitor × List GnomeAct :=
  let (trusted, event) := monitor.trusted.observe signal
  match event with
  | none => ({ monitor with trusted }, [])
  | some event =>
    ({ monitor with trusted, result := if turn.eventTaken then monitor.result else some (.ok ()) },
      [.publish (.event event turn.eventAt)])

def handleSignal (monitor : GnomeMonitor) (turn : GnomeTurn) (signal : BusSignal) :
    GnomeMonitor × List GnomeAct :=
  if monitor.watch.ownerChanged signal then
    ({ monitor with result := some (.error (.failed
        "Mutter IdleMonitor owner changed while watching user activity")) }, [])
  else if monitor.watch.fired signal then
    let activity := GnomeAct.publish (.inactivity .desktopActivityObserved turn.activityAt)
    if !turn.activityTaken then ({ monitor with result := some (.ok ()) }, [activity])
    else
      match monitor.watch.arm text turn.armed with
      | .error err =>
        ({ monitor with result := some (.error err) },
          [activity, .callMethod monitor.watch.armCall])
      | .ok watch =>
        let (next, acts) := observeSignal { monitor with watch } turn signal
        (next, [activity, .callMethod monitor.watch.armCall] ++ acts)
  else observeSignal monitor turn signal

/-- One turn of `run_gnome_monitor_process`. -/
def step (monitor : GnomeMonitor) (turn : GnomeTurn) : GnomeMonitor × List GnomeAct :=
  match monitor.result with
  | some _ => (monitor, [])
  | none =>
    if turn.stop then ({ monitor with result := some (.ok ()) }, [])
    else
      match turn.processed with
      | .error err =>
        ({ monitor with result := some (.error (.failed
            s!"GNOME session bus processing failed: {text err}")) }, [])
      | .ok none => (monitor, [])
      | .ok (some signal) => handleSignal text monitor turn signal

/-- The monitor after some turns. -/
def after (start : GnomeMonitor) (turns : List GnomeTurn) : GnomeMonitor :=
  Mealy.exec (step text) start turns

/-! ## What the bus has announced -/

/-- The owner of a name after a signal: the bus itself says when it is another one, and says it by
an empty text when it is nobody. -/
def announced (name : String) (owner : Option String) (signal : BusSignal) : Option String :=
  if signal.sender = some "org.freedesktop.DBus" ∧ signal.path = "/org/freedesktop/DBus"
      ∧ signal.interface = "org.freedesktop.DBus" ∧ signal.member = "NameOwnerChanged" then
    match signal.body with
    | [.string changed, .string _, .string newOwner] =>
      if changed ≠ name then owner else if newOwner = "" then none else some newOwner
    | _ => owner
  else owner

/-- The monitor's own reading of a signal finds the same. -/
theorem announced_eq (name : String) (owner : Option String) (signal : BusSignal) :
    announced name owner signal
      = if signal.sender = some dbusServiceName then
          (parseNameOwnerChangedSignal signal).elim owner fun change =>
            if change.name = name then change.newOwner else owner
        else owner := by
  unfold announced
  by_cases hsender : signal.sender = some dbusServiceName
  · rw [if_pos hsender]
    cases hparsed : parseNameOwnerChangedSignal signal with
    | some change =>
      obtain ⟨hpath, hinterface, hmember, oldOwner, newOwner, hbody, -, hnew⟩ :=
        parseNameOwnerChangedSignal_eq_some.1 hparsed
      rw [if_pos ⟨hsender, hpath, hinterface, hmember⟩, hbody, Option.elim_some, hnew]
      by_cases hname : change.name = name <;> simp [hname, normalizeDbusOwner]
    | none =>
      rw [Option.elim_none]
      split
      · rename_i hheader
        split
        · rename_i changed oldOwner newOwner hbody
          -- of this shape it would have been read
          have hread : parseNameOwnerChangedSignal signal
              = some ⟨changed, normalizeDbusOwner oldOwner, normalizeDbusOwner newOwner⟩ :=
            parseNameOwnerChangedSignal_eq_some.2
              ⟨hheader.2.1, hheader.2.2.1, hheader.2.2.2, oldOwner, newOwner, hbody, rfl, rfl⟩
          rw [hparsed] at hread
          cases hread
        · rfl
      · rfl
  · rw [if_neg hsender, if_neg fun hheader => hsender hheader.1]

/-- The message that a turn takes from the bus. -/
def signalOf (turn : GnomeTurn) : Option BusSignal :=
  match turn.processed with
  | .ok signal => signal
  | .error _ => none

/-- The owner of a name after some turns. -/
def ownerAfter (name : String) (owner : Option String) (turns : List GnomeTurn) : Option String :=
  (turns.filterMap signalOf).foldl (announced name) owner

/-- The owner after one more turn is the one its signal announces, if it has one. -/
theorem ownerAfter_concat (name : String) (owner : Option String) (turns : List GnomeTurn)
    (turn : GnomeTurn) :
    ownerAfter name owner (turns ++ [turn])
      = (signalOf turn).elim (ownerAfter name owner turns)
          (announced name (ownerAfter name owner turns)) := by
  unfold ownerAfter
  rw [List.filterMap_append, List.foldl_append]
  cases hsignal : signalOf turn with
  | none => rw [List.filterMap_cons_none hsignal]; rfl
  | some signal => rw [List.filterMap_cons_some hsignal]; rfl

/-- The trusted owner is the announced one. -/
theorem observe_owner (trusted : TrustedScreenSaverSignals) (signal : BusSignal) :
    (trusted.observe signal).1.owner = announced screenSaverName trusted.owner signal := by
  rw [announced_eq]
  unfold TrustedScreenSaverSignals.observe screenSaverOwnerChanged
  cases hparsed : parseNameOwnerChangedSignal signal with
  | none =>
    split
    · split <;> simp
    · split <;> simp
  | some change =>
    obtain ⟨hpath, hinterface, hmember, -⟩ := parseNameOwnerChangedSignal_eq_some.1 hparsed
    rw [if_pos ⟨hpath, hinterface, hmember⟩]
    by_cases hsender : signal.sender = some dbusServiceName
    · by_cases hname : change.name = screenSaverName <;> simp [hsender, hname]
    · simp [hsender]

/-- A signal that does not end the run leaves the idle monitor with its owner. -/
theorem announced_of_unchanged {watch : GnomeActivityWatch} {signal : BusSignal}
    (h : watch.ownerChanged signal = false) :
    announced idleMonitorName (some watch.owner) signal = some watch.owner := by
  unfold GnomeActivityWatch.ownerChanged at h
  rw [announced_eq]
  split
  · rename_i hsender
    cases hparsed : parseNameOwnerChangedSignal signal with
    | none => rfl
    | some change =>
      rw [Option.elim_some]
      split
      · rename_i hname
        simpa [hsender, hparsed, hname] using h
      · rfl
  · rfl

/-! ## What a turn does -/

section
variable {monitor : GnomeMonitor} {turn : GnomeTurn}

/-- A monitor that ended stays as it is and does nothing. -/
theorem step_ended (h : monitor.result ≠ none) : monitor.step text turn = (monitor, []) := by
  unfold step
  cases hresult : monitor.result with
  | none => exact absurd hresult h
  | some result => rfl

/-- What the second half of a turn does. -/
theorem observeSignal_spec (monitor : GnomeMonitor) (turn : GnomeTurn) (signal : BusSignal) :
    (monitor.observeSignal turn signal).1.trusted = (monitor.trusted.observe signal).1
      ∧ (monitor.observeSignal turn signal).1.watch = monitor.watch
      ∧ ∀ act ∈ (monitor.observeSignal turn signal).2, ∃ event,
          act = .publish (.event event turn.eventAt)
            ∧ (monitor.trusted.observe signal).2 = some event := by
  unfold observeSignal
  obtain ⟨trusted, event⟩ := monitor.trusted.observe signal
  cases event with
  | none => exact ⟨rfl, rfl, fun act hmem => by cases hmem⟩
  | some event => exact ⟨rfl, rfl, fun act hmem => ⟨event, List.mem_singleton.1 hmem, rfl⟩⟩

/-- An activity is there exactly for a watch that has fired; the watch is renewed before the run
goes on. -/
inductive Turned (text : SessionBusError → String) (monitor : GnomeMonitor) (turn : GnomeTurn) :
    GnomeMonitor → List GnomeAct → Prop where
  /-- The run is over, or ends with this turn before anything is published. -/
  | ended (next : GnomeMonitor) (hresult : next.result ≠ none) : Turned text monitor turn next []
  | silent (hprocessed : turn.processed = .ok none) : Turned text monitor turn monitor []
  | observed (signal : BusSignal) (hprocessed : turn.processed = .ok (some signal))
      (hunchanged : monitor.watch.ownerChanged signal = false) :
      Turned text monitor turn (monitor.observeSignal turn signal).1
        (monitor.observeSignal turn signal).2
  | fired (signal : BusSignal) (hprocessed : turn.processed = .ok (some signal))
      (hunchanged : monitor.watch.ownerChanged signal = false)
      (hfired : monitor.watch.fired signal = true) (watch : GnomeActivityWatch)
      (harmed : monitor.watch.arm text turn.armed = .ok watch) :
      Turned text monitor turn ({ monitor with watch }.observeSignal turn signal).1
        (.publish (.inactivity .desktopActivityObserved turn.activityAt)
          :: .callMethod monitor.watch.armCall
          :: ({ monitor with watch }.observeSignal turn signal).2)
  | last (signal : BusSignal) (hprocessed : turn.processed = .ok (some signal))
      (hfired : monitor.watch.fired signal = true) (next : GnomeMonitor)
      (hresult : next.result ≠ none) (calls : List GnomeAct)
      (hcalls : calls = [] ∨ calls = [.callMethod monitor.watch.armCall]) :
      Turned text monitor turn next
        (.publish (.inactivity .desktopActivityObserved turn.activityAt) :: calls)

/-- What one turn of the monitor does, as the relation the proofs below split. -/
theorem turned_step (monitor : GnomeMonitor) (turn : GnomeTurn) :
    Turned text monitor turn (monitor.step text turn).1 (monitor.step text turn).2 := by
  by_cases hresult : monitor.result = none
  · unfold step
    rw [hresult]
    dsimp only
    split
    · exact .ended _ nofun
    · cases hprocessed : turn.processed with
      | error err => exact .ended _ nofun
      | ok message =>
        cases message with
        | none => exact .silent hprocessed
        | some signal =>
          dsimp only
          unfold handleSignal
          -- an owner change of the idle monitor ends the monitor before anything else
          by_cases hchanged : monitor.watch.ownerChanged signal = true
          · rw [if_pos hchanged]
            exact .ended _ nofun
          rw [if_neg hchanged]
          have hunchanged := Bool.eq_false_iff.2 hchanged
          by_cases hfired : monitor.watch.fired signal = true
          · rw [if_pos hfired]
            by_cases htaken : turn.activityTaken = true
            · rw [if_neg (by simp [htaken])]
              cases harmed : monitor.watch.arm text turn.armed with
              | error err => exact .last signal hprocessed hfired _ (Option.some_ne_none _) _ (.inr rfl)
              | ok watch => exact .fired signal hprocessed hunchanged hfired watch harmed
            · rw [if_pos (by simp [htaken])]
              exact .last signal hprocessed hfired _ (Option.some_ne_none _) _ (.inl rfl)
          · rw [if_neg hfired]
            exact .observed signal hprocessed hunchanged
  · rw [step_ended text hresult]
    exact .ended monitor hresult

/-- Arming the watch keeps its owner and takes the id of the reply. -/
theorem arm_owner {watch watch' : GnomeActivityWatch} {reply : Except SessionBusError BusReply}
    (h : watch.arm text reply = .ok watch') :
    watch'.owner = watch.owner ∧ reply.bind (·.singleU32) = .ok watch'.id := by
  unfold GnomeActivityWatch.arm at h
  split at h
  · rename_i id hid
    cases h
    exact ⟨rfl, hid⟩
  · cases h

end

/-! ## The monitor follows the bus -/

/-- The id of the watch after a turn: that of the reply, when one was asked for. -/
def armedId (id : UInt32) (t : Mealy.Transition GnomeMonitor GnomeTurn (List GnomeAct)) : UInt32 :=
  if t.output.any GnomeAct.isCall then
    match t.input.armed.bind (·.singleU32) with
    | .ok id => id
    | .error _ => id
  else id

variable (owner : Option String) (watch : GnomeActivityWatch)

/-- The monitor of a connection, after some turns. -/
def monitorAfter (turns : List GnomeTurn) : GnomeMonitor := after text ⟨⟨owner⟩, watch, none⟩ turns

/-- The id of the watch that is armed after some turns. -/
def armedAfter (turns : List GnomeTurn) : UInt32 :=
  (Mealy.transitions (step text) ⟨⟨owner⟩, watch, none⟩ turns).foldl armedId watch.id

/-- **The invariant of a run.** A monitor that runs knows the owners as they were announced, and its
watch is the one that was armed last. -/
structure Follows (turns : List GnomeTurn) (monitor : GnomeMonitor) : Prop where
  screenSaver : monitor.trusted.owner = ownerAfter screenSaverName owner turns
  idleMonitor : ownerAfter idleMonitorName (some watch.owner) turns = some watch.owner
  watchOwner : monitor.watch.owner = watch.owner
  watchId : monitor.watch.id = armedAfter text owner watch turns

variable {owner watch}

/-- Observing a signal makes no call. -/
theorem no_calls_observed {monitor : GnomeMonitor} {turn : GnomeTurn} {signal : BusSignal} :
    (monitor.observeSignal turn signal).2.any GnomeAct.isCall = false := by
  rw [List.any_eq_false]
  intro act hmem
  obtain ⟨event, rfl, -⟩ := (observeSignal_spec monitor turn signal).2.2 act hmem
  simp [GnomeAct.isCall]

/-- A turn with a signal keeps the monitor's owners and watch id those of the turns read. -/
theorem Follows.signal {turns : List GnomeTurn} {monitor : GnomeMonitor} {turn : GnomeTurn}
    {signal : BusSignal} (h : Follows text owner watch turns monitor)
    (watch' : GnomeActivityWatch) (hprocessed : turn.processed = .ok (some signal))
    (hunchanged : monitor.watch.ownerChanged signal = false)
    (howner : watch'.owner = monitor.watch.owner)
    (hid : watch'.id = armedAfter text owner watch (turns ++ [turn])) :
    Follows text owner watch (turns ++ [turn])
      ({ monitor with watch := watch' }.observeSignal turn signal).1 := by
  obtain ⟨htrusted, hwatch, -⟩ := observeSignal_spec { monitor with watch := watch' } turn signal
  have hsignal : signalOf turn = some signal := by rw [signalOf, hprocessed]
  constructor
  · rw [htrusted, ownerAfter_concat, hsignal, Option.elim_some, ← h.screenSaver]
    exact observe_owner monitor.trusted signal
  · have hkept := announced_of_unchanged hunchanged
    rw [h.watchOwner] at hkept
    rw [ownerAfter_concat, hsignal, Option.elim_some, h.idleMonitor, hkept]
  · rw [hwatch]
    exact howner.trans h.watchOwner
  · rw [hwatch]
    exact hid

/-- **Run.** -/
theorem follows_after (turns : List GnomeTurn)
    (hrunning : (monitorAfter text owner watch turns).result = none) :
    Follows text owner watch turns (monitorAfter text owner watch turns) := by
  revert hrunning
  refine Mealy.exec_induct (P := fun turns (monitor : GnomeMonitor) => monitor.result = none →
    Follows text owner watch turns monitor) _ (fun _ => ⟨rfl, rfl, rfl, rfl⟩) ?_ turns
  intro turns turn ih hrunning
  -- a monitor that runs has run before
  have hbefore : (monitorAfter text owner watch turns).result = none := by
    by_contra hended
    rw [show Mealy.exec (step text) _ turns = monitorAfter text owner watch turns from rfl,
      step_ended text hended] at hrunning
    exact hended hrunning
  have hfollows : Follows text owner watch turns (monitorAfter text owner watch turns) := ih hbefore
  have harmed : armedAfter text owner watch (turns ++ [turn])
      = armedId (armedAfter text owner watch turns)
          ⟨monitorAfter text owner watch turns, turn,
            ((monitorAfter text owner watch turns).step text turn).2⟩ := by
    simp [armedAfter, monitorAfter, after]
  revert hrunning harmed
  show ((monitorAfter text owner watch turns).step text turn).1.result = none → _ →
    Follows text owner watch (turns ++ [turn])
      ((monitorAfter text owner watch turns).step text turn).1
  generalize monitorAfter text owner watch turns = monitor at hfollows
  have hturned := turned_step text monitor turn
  generalize monitor.step text turn = result at hturned
  obtain ⟨next, acts⟩ := result
  -- a turn that ends the monitor leaves nothing to show
  cases hturned with
  | ended next hresult => exact fun hrunning => absurd hrunning hresult
  | last signal hprocessed hfired next hresult => exact fun hrunning => absurd hrunning hresult
  | silent hprocessed =>
    intro _ harmed
    have hsignal : signalOf turn = none := by rw [signalOf, hprocessed]
    refine ⟨?_, ?_, hfollows.watchOwner, ?_⟩
    · rw [ownerAfter_concat, hsignal]
      exact hfollows.screenSaver
    · rw [ownerAfter_concat, hsignal]
      exact hfollows.idleMonitor
    · rw [harmed]
      exact hfollows.watchId
  | observed signal hprocessed hunchanged =>
    intro _ harmed
    refine hfollows.signal text monitor.watch hprocessed hunchanged rfl ?_
    rw [harmed, armedId, no_calls_observed]
    exact hfollows.watchId
  | fired signal hprocessed hunchanged hfired watch' harm =>
    intro _ harmed
    obtain ⟨howner, hid⟩ := arm_owner text harm
    refine hfollows.signal text watch' hprocessed hunchanged howner ?_
    rw [harmed, armedId]
    simp [GnomeAct.isCall, hid]

/-! ## The laws -/

/-- The signal of a turn, with its event, is from the announced owner of the screen saver. -/
def FromScreenSaver (owner : Option String) (turns : List GnomeTurn) (turn : GnomeTurn)
    (event : SessionEvent) : Prop :=
  ∃ signal sender, turn.processed = .ok (some signal) ∧ mapScreenSaverSignal signal = some event
    ∧ signal.sender = some sender ∧ ownerAfter screenSaverName owner turns = some sender

/-- The signal of a turn tells that the armed watch has fired, and is from the announced owner of
the idle monitor. -/
def FromArmedWatch (owner : Option String) (watch : GnomeActivityWatch) (turns : List GnomeTurn)
    (turn : GnomeTurn) : Prop :=
  ∃ signal sender, turn.processed = .ok (some signal) ∧ signal.path = idleMonitorPath
    ∧ signal.interface = idleMonitorInterface ∧ signal.member = "WatchFired"
    ∧ signal.sender = some sender
    ∧ ownerAfter idleMonitorName (some watch.owner) turns = some sender
    ∧ signal.body = [.u32 (armedAfter text owner watch turns)]

/-- No event without a sender arrives while the screen saver has no owner. -/
def Attributed (owner : Option String) (turns : List GnomeTurn) (turn : GnomeTurn) : Prop :=
  ∀ signal, turn.processed = .ok (some signal) → signal.sender = none →
    ownerAfter screenSaverName owner turns = none → mapScreenSaverSignal signal = none

/-- A signal is the firing of the watch exactly when the owner sent it with the id armed last. -/
theorem fired_iff {watch : GnomeActivityWatch} {signal : BusSignal} :
    watch.fired signal = true ↔ signal.sender = some watch.owner ∧ signal.path = idleMonitorPath
      ∧ signal.interface = idleMonitorInterface ∧ signal.member = "WatchFired"
      ∧ signal.body = [.u32 watch.id] := by
  unfold GnomeActivityWatch.fired
  simp only [Bool.and_eq_true, decide_eq_true_eq]
  constructor
  · rintro ⟨⟨⟨⟨hsender, hpath⟩, hinterface⟩, hmember⟩, hbody⟩
    refine ⟨hsender, hpath, hinterface, hmember, ?_⟩
    split at hbody
    · rename_i id hid
      rw [hid, of_decide_eq_true hbody]
    · cases hbody
  · rintro ⟨hsender, hpath, hinterface, hmember, hbody⟩
    rw [hbody]
    exact ⟨⟨⟨⟨hsender, hpath⟩, hinterface⟩, hmember⟩, by simp⟩

/-- What is believed of the screen saver was sent by the trusted owner, or by nobody while there is
none. -/
theorem observe_eq_some {trusted : TrustedScreenSaverSignals} {signal : BusSignal}
    {event : SessionEvent} (h : (trusted.observe signal).2 = some event) :
    signal.sender = trusted.owner ∧ mapScreenSaverSignal signal = some event := by
  unfold TrustedScreenSaverSignals.observe at h
  split at h
  · split at h
    · cases h
    · split at h <;> cases h
  · split at h
    · cases h
    · rename_i hsender
      exact ⟨not_not.1 hsender, h⟩

/-- Every session event published is one the screen saver's owner sent in this turn. -/
theorem screenSaver_event_is_from_owner {turns : List GnomeTurn} {turn : GnomeTurn}
    (hattributed : Attributed owner turns turn) {event : SessionEvent} {moment : Instant}
    (hmem : .publish (.event event moment)
      ∈ ((monitorAfter text owner watch turns).step text turn).2) :
    FromScreenSaver owner turns turn event := by
  by_cases hrunning : (monitorAfter text owner watch turns).result = none
  · have hfollows := follows_after text turns hrunning
    have hknown : ∀ watch' signal, turn.processed = .ok (some signal) →
        GnomeAct.publish (.event event moment)
          ∈ ({ monitorAfter text owner watch turns with watch := watch' }.observeSignal
              turn signal).2 → FromScreenSaver owner turns turn event := by
      intro watch' signal hprocessed hpublished
      obtain ⟨event', hact, hevent⟩ := (observeSignal_spec _ turn signal).2.2 _ hpublished
      cases hact
      obtain ⟨hsender, hmapped⟩ := observe_eq_some hevent
      dsimp only at hsender
      rw [hfollows.screenSaver] at hsender
      cases hfrom : signal.sender with
      | some sender =>
        exact ⟨signal, sender, hprocessed, hmapped, hfrom, hsender.symm.trans hfrom⟩
      | none =>
        have hnothing := hattributed signal hprocessed hfrom (hsender.symm.trans hfrom)
        rw [hmapped] at hnothing
        cases hnothing
    revert hmem hknown
    generalize monitorAfter text owner watch turns = monitor
    have hturned := turned_step text monitor turn
    generalize monitor.step text turn = result at hturned
    obtain ⟨next, acts⟩ := result
    cases hturned with
    | ended | silent => nofun
    | observed signal hprocessed =>
      exact fun hmem hknown => hknown monitor.watch signal hprocessed hmem
    | fired signal hprocessed hunchanged hfired watch' =>
      intro hmem hknown
      simp only [List.mem_cons, GnomeAct.publish.injEq,
        reduceCtorEq, false_or] at hmem
      exact hknown watch' signal hprocessed hmem
    | last signal hprocessed hfired next hresult calls hcalls =>
      intro hmem
      rcases hcalls with rfl | rfl <;> simp at hmem
  · rw [step_ended text hrunning] at hmem
    cases hmem

/-- Every activity published is the firing of the watch armed last, sent by its owner. -/
theorem activity_is_from_armed_watch {turns : List GnomeTurn} {turn : GnomeTurn}
    {observation : InactivityObservation} {moment : Instant}
    (hmem : .publish (.inactivity observation moment)
      ∈ ((monitorAfter text owner watch turns).step text turn).2) :
    observation = .desktopActivityObserved
      ∧ FromArmedWatch text owner watch turns turn := by
  by_cases hrunning : (monitorAfter text owner watch turns).result = none
  · have hfollows := follows_after text turns hrunning
    have hknown : ∀ signal, turn.processed = .ok (some signal) →
        (monitorAfter text owner watch turns).watch.fired signal = true →
          FromArmedWatch text owner watch turns turn := by
      intro signal hprocessed hfired
      obtain ⟨hsender, hpath, hinterface, hmember, hbody⟩ := fired_iff.1 hfired
      rw [hfollows.watchId] at hbody
      rw [hfollows.watchOwner] at hsender
      exact ⟨signal, watch.owner, hprocessed, hpath, hinterface, hmember, hsender,
        hfollows.idleMonitor, hbody⟩
    have hnot : ∀ watch' signal, GnomeAct.publish (.inactivity observation moment)
        ∉ ({ monitorAfter text owner watch turns with watch := watch' }.observeSignal
            turn signal).2 := by
      intro watch' signal hpublished
      obtain ⟨event, hact, -⟩ := (observeSignal_spec _ turn signal).2.2 _ hpublished
      cases hact
    revert hmem hknown hnot
    generalize monitorAfter text owner watch turns = monitor
    have hturned := turned_step text monitor turn
    generalize monitor.step text turn = result at hturned
    obtain ⟨next, acts⟩ := result
    cases hturned with
    | ended | silent => nofun
    | observed signal => exact fun hmem _ hnot => absurd hmem (hnot monitor.watch signal)
    | fired signal hprocessed hunchanged hfired watch' =>
      intro hmem hknown hnot
      simp only [List.mem_cons, GnomeAct.publish.injEq,
        SessionObservation.inactivity.injEq, reduceCtorEq, hnot, or_false] at hmem
      exact ⟨hmem.1, hknown signal hprocessed hfired⟩
    | last signal hprocessed hfired next hresult calls hcalls =>
      intro hmem hknown _
      refine ⟨?_, hknown signal hprocessed hfired⟩
      rcases hcalls with rfl | rfl <;> simp at hmem <;> exact hmem.1
  · rw [step_ended text hrunning] at hmem
    cases hmem

/-- Once another owner of the idle monitor is announced, the run is over: nothing of the former
owner, nor of anyone, is believed. -/
theorem nothing_after_owner_change {turns : List GnomeTurn}
    (hchanged : ownerAfter idleMonitorName (some watch.owner) turns ≠ some watch.owner)
    (more : List GnomeTurn) (turn : GnomeTurn) :
    ((monitorAfter text owner watch (turns ++ more)).step text turn).2 = [] := by
  have hended : (monitorAfter text owner watch turns).result ≠ none :=
    fun hrunning => hchanged (follows_after text turns hrunning).idleMonitor
  have hstays : ∀ more, monitorAfter text owner watch (turns ++ more)
      = monitorAfter text owner watch turns := by
    intro more
    induction more using List.reverseRecOn with
    | nil => rw [List.append_nil]
    | append_singleton more last ih =>
      rw [← List.append_assoc]
      unfold monitorAfter after at ih hended ⊢
      rw [Mealy.exec_concat, ih, step_ended text hended]
  rw [hstays, step_ended text hended]

/-- Since its latest activity the run has renewed the watch. -/
def Renewed (acts : List GnomeAct) : Prop :=
  ∀ before act after, acts = before ++ act :: after → act.isActivity = true →
    ∃ request ∈ after, request.isCall = true

/-- An activity comes only after the watch was renewed. -/
def Alternating (acts : List GnomeAct) : Prop :=
  Mealy.Justified (fun before act => act.isActivity = true → Renewed before) acts

/-- What is at the end of `acts ++ [last]` when an element of it is picked out. -/
theorem split_concat {acts before after : List GnomeAct} {last act : GnomeAct}
    (h : acts ++ [last] = before ++ act :: after) :
    act = last ∧ after = [] ∨ ∃ rest, after = rest ++ [last] ∧ acts = before ++ act :: rest := by
  rcases List.eq_nil_or_concat after with rfl | ⟨rest, last', rfl⟩
  · obtain ⟨rfl, hlast⟩ := List.append_inj' h rfl
    cases hlast
    exact .inl ⟨rfl, rfl⟩
  · rw [List.concat_eq_append, ← List.cons_append, ← List.append_assoc] at h
    obtain ⟨rfl, hlast⟩ := List.append_inj' h rfl
    cases hlast
    exact .inr ⟨rest, List.concat_eq_append .., rfl⟩

/-- A call renews the row of acts. -/
theorem renewed_call (acts : List GnomeAct) (request : BusMethodCall) :
    Renewed (acts ++ [.callMethod request]) := by
  intro before act after hsplit hact
  rcases split_concat hsplit with ⟨rfl, -⟩ | ⟨rest, rfl, -⟩
  · cases hact
  · exact ⟨.callMethod request, by simp, rfl⟩

/-- An act that is no activity keeps a row renewed. -/
theorem Renewed.concat {acts : List GnomeAct} (h : Renewed acts) {last : GnomeAct}
    (hlast : last.isActivity = false) : Renewed (acts ++ [last]) := by
  intro before act after hsplit hact
  rcases split_concat hsplit with ⟨rfl, -⟩ | ⟨rest, rfl, hacts⟩
  · rw [hlast] at hact
    cases hact
  · obtain ⟨request, hmem, hcall⟩ := h before act rest hacts hact
    exact ⟨request, List.mem_append_left _ hmem, hcall⟩

/-- Acts without activity keep a row alternating and renewed. -/
theorem Alternating.append {acts more : List GnomeAct} (h : Alternating acts)
    (hrenewed : Renewed acts) (hmore : ∀ act ∈ more, act.isActivity = false) :
    Alternating (acts ++ more) ∧ Renewed (acts ++ more) := by
  induction more using List.reverseRecOn with
  | nil =>
    rw [List.append_nil]
    exact ⟨h, hrenewed⟩
  | append_singleton more last ih =>
    obtain ⟨halternating, hrenewed'⟩ := ih fun act hact => hmore act (List.mem_append_left _ hact)
    have hlast : last.isActivity = false := hmore last (by simp)
    rw [← List.append_assoc]
    refine ⟨halternating.concat fun hact => ?_, hrenewed'.concat hlast⟩
    rw [hlast] at hact
    cases hact

/-- Observing a signal publishes no activity of its own. -/
theorem no_activity_observed (monitor : GnomeMonitor) (turn : GnomeTurn) (signal : BusSignal) :
    ∀ act ∈ (monitor.observeSignal turn signal).2, act.isActivity = false := by
  intro act hmem
  obtain ⟨event, rfl, -⟩ := (observeSignal_spec monitor turn signal).2.2 act hmem
  rfl

/-- **Step.** A turn adds at most one activity, and goes on only with a new watch. -/
theorem alternating_step {acts : List GnomeAct} {monitor : GnomeMonitor} (turn : GnomeTurn)
    (h : Alternating acts ∧ (monitor.result = none → Renewed acts)) :
    Alternating (acts ++ (monitor.step text turn).2)
      ∧ ((monitor.step text turn).1.result = none →
        Renewed (acts ++ (monitor.step text turn).2)) := by
  obtain ⟨halternating, hrenewed⟩ := h
  by_cases hresult : monitor.result = none
  · replace hrenewed := hrenewed hresult
    have hturned := turned_step text monitor turn
    generalize monitor.step text turn = result at hturned
    obtain ⟨next, made⟩ := result
    cases hturned with
    | ended next hended =>
      rw [List.append_nil]
      exact ⟨halternating, fun h => absurd h hended⟩
    | silent =>
      rw [List.append_nil]
      exact ⟨halternating, fun _ => hrenewed⟩
    | observed signal =>
      obtain ⟨hnext, hrenewed'⟩ := halternating.append hrenewed
        (no_activity_observed monitor turn signal)
      exact ⟨hnext, fun _ => hrenewed'⟩
    | fired signal hprocessed hunchanged hfired watch' harmed =>
      have hactivity : Alternating
          (acts ++ [.publish (.inactivity .desktopActivityObserved turn.activityAt)]) :=
        halternating.concat fun _ => hrenewed
      have hcall := hactivity.concat (e := .callMethod monitor.watch.armCall) nofun
      obtain ⟨hnext, hrenewed'⟩ := Alternating.append hcall (renewed_call _ _)
        (no_activity_observed { monitor with watch := watch' } turn signal)
      rw [List.append_assoc, List.append_assoc] at hnext hrenewed'
      exact ⟨hnext, fun _ => hrenewed'⟩
    | last signal hprocessed hfired next hended calls hcalls =>
      refine ⟨?_, fun h => absurd h hended⟩
      have hactivity : Alternating
          (acts ++ [.publish (.inactivity .desktopActivityObserved turn.activityAt)]) :=
        halternating.concat fun _ => hrenewed
      rcases hcalls with rfl | rfl
      · exact hactivity
      · have hcall := hactivity.concat (e := .callMethod monitor.watch.armCall) nofun
        rw [List.append_assoc] at hcall
        exact hcall
  · rw [step_ended text hresult, List.append_nil]
    exact ⟨halternating, hrenewed⟩

/-- **Run.** Between two activities of a run the watch is armed anew. -/
theorem watch_fires_once (turns : List GnomeTurn) :
    Alternating (Mealy.trace (step text) ⟨⟨owner⟩, watch, none⟩ turns) := by
  have hrun := Mealy.trace_induct
    (P := fun acts (monitor : GnomeMonitor) =>
      Alternating acts ∧ (monitor.result = none → Renewed acts))
    ⟨⟨owner⟩, watch, none⟩
    ⟨Mealy.Justified.nil, fun _ before act after hsplit => by simp at hsplit⟩
    (fun acts monitor turn h => alternating_step text turn h) turns
  exact hrun.1

/-- **Signals are believed from their owners only.** For every run of the monitor in which no
screen-saver event without a sender arrives while that name has no owner: an event is published only
for a signal of the current owner, an activity only for the armed watch of the current owner of the
idle monitor, between two activities the watch is armed anew, and nothing is published once another
owner of the idle monitor was announced. -/
theorem gnome_signals_are_from_their_owner (text : SessionBusError → String)
    (owner : Option String) (watch : GnomeActivityWatch) (turns : List GnomeTurn)
    (hattributed : ∀ before turn after, turns = before ++ turn :: after →
      Attributed owner before turn) :
    (∀ before turn after, turns = before ++ turn :: after →
      let acts := ((monitorAfter text owner watch before).step text turn).2
      (∀ event moment, .publish (.event event moment) ∈ acts →
          FromScreenSaver owner before turn event)
        ∧ (∀ observation moment, .publish (.inactivity observation moment) ∈ acts →
          observation = .desktopActivityObserved ∧ FromArmedWatch text owner watch before turn)
        ∧ ∀ earlier later, before = earlier ++ later →
          ownerAfter idleMonitorName (some watch.owner) earlier ≠ some watch.owner → acts = [])
      ∧ ∀ early activity between activity' late,
        Mealy.trace (step text) ⟨⟨owner⟩, watch, none⟩ turns
            = early ++ activity :: between ++ activity' :: late →
        activity.isActivity = true → activity'.isActivity = true →
          ∃ request ∈ between, request.isCall = true := by
  constructor
  · intro before turn after hsplit acts
    refine ⟨?_, ?_, ?_⟩
    · intro event moment hmem
      exact screenSaver_event_is_from_owner text (hattributed before turn after hsplit) hmem
    · intro observation moment hmem
      exact activity_is_from_armed_watch text hmem
    · intro earlier later hbefore hchanged
      show ((monitorAfter text owner watch before).step text turn).2 = []
      rw [hbefore]
      exact nothing_after_owner_change text hchanged later turn
  · intro early activity between activity' late htrace hactivity hactivity'
    have halternating : Alternating (Mealy.trace (step text) ⟨⟨owner⟩, watch, none⟩ turns) :=
      watch_fires_once text turns
    have hrenewed := halternating (early ++ activity :: between) activity' late htrace hactivity'
    exact hrenewed early activity between rfl hactivity

/-! ## Runs -/

def sampleTurn (signal : BusSignal) : GnomeTurn where
  stop := false
  processed := .ok (some signal)
  activityAt := 1
  activityTaken := true
  armed := .ok ⟨[.u32 8]⟩
  eventAt := 1
  eventTaken := true

/-- The screen saver becomes active, as a signal from `sender` says. -/
def activeChanged (sender : Option String) : BusSignal where
  sender := sender
  path := screenSaverPath
  interface := screenSaverInterface
  member := "ActiveChanged"
  body := [.bool true]

/-- The bus announces that a name has passed from one owner to another. -/
def passedOn (name oldOwner newOwner : String) : BusSignal where
  sender := some dbusServiceName
  path := dbusObjectPath
  interface := dbusInterface
  member := "NameOwnerChanged"
  body := [.string name, .string oldOwner, .string newOwner]

/-- The bus announces that the screen saver is gone. -/
def screenSaverLost : BusSignal := passedOn screenSaverName ":1.42" ""

/-- The watch has fired, as a signal from `sender` says. -/
def watchFired (sender : String) (id : UInt32) : BusSignal where
  sender := some sender
  path := idleMonitorPath
  interface := idleMonitorInterface
  member := "WatchFired"
  body := [.u32 id]

/-- The screen saver passes on, its new owner speaks, and then the idle monitor passes on too. -/
def changingOwners : List GnomeTurn :=
  [passedOn screenSaverName ":1.42" ":1.43", activeChanged (some ":1.43"),
    passedOn idleMonitorName ":1.7" ":1.8", watchFired ":1.7" 7].map sampleTurn

/-- The signal of the new owner is published, and it is from the owner; the watch of the former
owner of the idle monitor is no longer believed. -/
theorem owner_signal_is_published :
    (.publish (.event .idle 1)
        ∈ ((monitorAfter (fun _ => "") (some ":1.42") ⟨":1.7", 7⟩ (changingOwners.take 1)).step
            (fun _ => "") (sampleTurn (activeChanged (some ":1.43")))).2)
      ∧ FromScreenSaver (some ":1.42") (changingOwners.take 1)
          (sampleTurn (activeChanged (some ":1.43"))) .idle
      ∧ ((monitorAfter (fun _ => "") (some ":1.42") ⟨":1.7", 7⟩ (changingOwners.take 3)).step
            (fun _ => "") (sampleTurn (watchFired ":1.7" 7))).2 = [] := by
  have hattributed : ∀ before turn after, changingOwners = before ++ turn :: after →
      Attributed (some ":1.42") before turn := by
    intro before turn after hsplit signal hprocessed hnobody
    have hmem : turn ∈ changingOwners := by simp [hsplit]
    obtain ⟨signal', hsignal', rfl⟩ := List.mem_map.1 hmem
    cases hprocessed
    have hsent : signal.sender ≠ none := by
      simp only [List.mem_cons, List.not_mem_nil, or_false] at hsignal'
      rcases hsignal' with rfl | rfl | rfl | rfl <;> exact Option.some_ne_none _
    exact absurd hnobody hsent
  have hmem : GnomeAct.publish (.event .idle 1)
      ∈ ((monitorAfter (fun _ => "") (some ":1.42") ⟨":1.7", 7⟩ (changingOwners.take 1)).step
          (fun _ => "") (sampleTurn (activeChanged (some ":1.43")))).2 := List.mem_singleton.2 rfl
  have hlaw := gnome_signals_are_from_their_owner (fun _ => "") (some ":1.42") ⟨":1.7", 7⟩
    changingOwners hattributed
  refine ⟨hmem, (hlaw.1 (changingOwners.take 1) _ (changingOwners.drop 2) rfl).1 .idle 1 hmem, ?_⟩
  refine (hlaw.1 (changingOwners.take 3) _ [] rfl).2.2 (changingOwners.take 3) [] rfl ?_
  decide

/-- The screen saver is gone, and the signal of nobody is published as its event. -/
theorem unowned_signal_is_published :
    ¬ ∀ (owner : Option String) (watch : GnomeActivityWatch) (turns : List GnomeTurn)
      (turn : GnomeTurn) (event : SessionEvent) (moment : Instant),
      .publish (.event event moment)
          ∈ ((monitorAfter (fun _ => "") owner watch turns).step (fun _ => "") turn).2 →
        FromScreenSaver owner turns turn event := by
  intro hclaim
  have hmem : GnomeAct.publish (.event .idle 1)
      ∈ ((monitorAfter (fun _ => "") (some ":1.42") ⟨":1.7", 7⟩
          [sampleTurn screenSaverLost]).step (fun _ => "")
            (sampleTurn (activeChanged none))).2 := List.mem_singleton.2 rfl
  obtain ⟨signal, sender, hprocessed, -, hsender, -⟩ := hclaim _ _ _ _ _ _ hmem
  cases hprocessed
  cases hsender

end GnomeMonitor

end LgBuddy
