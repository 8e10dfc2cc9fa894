import LgBuddy.Machine.Mealy
import LgBuddy.Machine.Table
import LgBuddy.Session.Activity

/-!
# LgBuddy — the Wayland activity source

`sources/desktop/wayland.rs`: the registry of a compositor, the seats that are bound and their idle
notifications.

* `RegistryFacts`, `WaylandProviderState` and its `bind`, `attach` and `remove` functions follow the
  source. A proxy object is a number, and each request that makes one gives a new number: proxies are
  compared as objects, and a destroyed one is not seen again under another id;
* `WaylandEvent` — what is dispatched: globals that come and go, notifications, and the end of the
  first roundtrip of `initialize_provider`;
* `WaylandAct` — the requests and the observations of a step;
* `Bindings` — the invariant of all runs, over the events and the acts so far;
* `NotifierBound` — the notifier is bound at most once;
* `Initialized`, `initialized_iff` — what the first roundtrip has to find;
* `EndsProvider` — the removals that set the terminal error;
* `wayland_seat_registry` — the laws.
-/

namespace LgBuddy

def REQUIRED_IDLE_NOTIFIER_VERSION : UInt32 := 2

def idleNotifierInterface : String := "ext_idle_notifier_v1"

def seatInterface : String := "wl_seat"

/-- The errors of the registry; those of connecting are not raised here. -/
inductive WaylandProviderError where
  | missingIdleNotifier
  | unsupportedIdleNotifierVersion (version : UInt32)
  | noSeats
  | idleNotifierRemoved
  | lastSeatRemoved
  deriving DecidableEq, Repr

structure WaylandProviderCapabilities where
  idleNotifierVersion : UInt32
  seatCount : Nat
  deriving DecidableEq, Repr

structure GlobalInfo where
  name : UInt32
  version : UInt32
  deriving DecidableEq, Repr

/-! ## The registry -/

structure RegistryFacts where
  idleNotifiers : Table UInt32 UInt32 := ∅
  seats : Table UInt32 UInt32 := ∅

namespace RegistryFacts

def add (facts : RegistryFacts) (name : UInt32) (interface : String) (version : UInt32) :
    RegistryFacts :=
  if interface = idleNotifierInterface then
    { facts with idleNotifiers := facts.idleNotifiers.insert name version }
  else if interface = seatInterface then { facts with seats := facts.seats.insert name version }
  else facts

def remove (facts : RegistryFacts) (name : UInt32) : RegistryFacts where
  idleNotifiers := facts.idleNotifiers.erase name
  seats := facts.seats.erase name

/-- `max_by_key` takes the last of several greatest entries. -/
def selectedIdleNotifier (facts : RegistryFacts) : Option GlobalInfo :=
  (facts.idleNotifiers.entries.filter fun e => REQUIRED_IDLE_NOTIFIER_VERSION ≤ e.2).foldl
    (fun best e =>
      if best.all fun (info : GlobalInfo) => info.version ≤ e.2 then some ⟨e.1, e.2⟩ else best)
    none

def maximumIdleNotifierVersion (facts : RegistryFacts) : Option UInt32 :=
  (facts.idleNotifiers.entries.map fun e => e.2).max?

def capabilities (facts : RegistryFacts) :
    Except WaylandProviderError WaylandProviderCapabilities :=
  match facts.maximumIdleNotifierVersion with
  | none => .error .missingIdleNotifier
  | some version =>
    if version < REQUIRED_IDLE_NOTIFIER_VERSION then
      .error (.unsupportedIdleNotifierVersion version)
    else if facts.seats.entries.isEmpty then .error .noSeats
    else .ok ⟨version, facts.seats.entries.length⟩

end RegistryFacts

/-! ## The provider -/

/-- A proxy object of the connection. -/
abbrev WaylandProxy := Nat

structure SeatBinding where
  seat : WaylandProxy
  inputNotification : Option WaylandProxy := none
  deriving DecidableEq, Repr

/-- What a step asks of the compositor, and what it publishes. -/
inductive WaylandAct where
  | bindIdleNotifier (name version : UInt32) (proxy : WaylandProxy)
  | bindSeat (name : UInt32) (proxy : WaylandProxy)
  | getInputIdleNotification (seat : UInt32) (proxy : WaylandProxy)
  | destroy (proxy : WaylandProxy)
  | publish (observation : SessionObservation)
  deriving DecidableEq, Repr

structure WaylandProviderState where
  registryFacts : RegistryFacts := {}
  idleNotifier : Option (UInt32 × WaylandProxy) := none
  seats : Table UInt32 SeatBinding := ∅
  initialized : Bool := false
  running : Bool := true
  error : Option WaylandProviderError := none
  /-- How many proxies the connection has made. -/
  proxies : Nat := 0

def globalRemovalError (initialized removedBoundNotifier removedSeat : Bool)
    (remainingSeatCount : Nat) : Option WaylandProviderError :=
  if removedBoundNotifier then some .idleNotifierRemoved
  else if initialized && removedSeat && remainingSeatCount == 0 then some .lastSeatRemoved
  else none

namespace WaylandProviderState

def attachSeat (state : WaylandProviderState) (name : UInt32) :
    WaylandProviderState × List WaylandAct :=
  match state.idleNotifier, state.seats.lookup name with
  | some _, some binding =>
    if binding.inputNotification.isSome then (state, [])
    else
      ({ state with
          seats := state.seats.insert name
            { binding with inputNotification := some state.proxies }
          proxies := state.proxies + 1 },
        [.getInputIdleNotification name state.proxies])
  | _, _ => (state, [])

def attachSeats (state : WaylandProviderState) : List UInt32 → WaylandProviderState × List WaylandAct
  | [] => (state, [])
  | name :: names =>
    let (state, acts) := state.attachSeat name
    let (state, acts') := state.attachSeats names
    (state, acts ++ acts')

def attachUnmonitoredSeats (state : WaylandProviderState) :
    WaylandProviderState × List WaylandAct :=
  state.attachSeats state.seats.keys

def bindIdleNotifier (state : WaylandProviderState) : WaylandProviderState × List WaylandAct :=
  if state.idleNotifier.isSome then (state, [])
  else
    match state.registryFacts.selectedIdleNotifier with
    | none => (state, [])
    | some global =>
      let proxy := state.proxies
      let (next, acts) := attachUnmonitoredSeats { state with
        idleNotifier := some (global.name, proxy)
        proxies := proxy + 1 }
      (next, .bindIdleNotifier global.name (min REQUIRED_IDLE_NOTIFIER_VERSION global.version) proxy
        :: acts)

def bindSeat (state : WaylandProviderState) (name : UInt32) :
    WaylandProviderState × List WaylandAct :=
  if name ∈ state.seats then (state, [])
  else
    let proxy := state.proxies
    let (next, acts) := attachSeat { state with
      seats := state.seats.insert name { seat := proxy }
      proxies := proxy + 1 } name
    (next, .bindSeat name proxy :: acts)

def removeGlobal (state : WaylandProviderState) (name : UInt32) :
    WaylandProviderState × List WaylandAct :=
  let removedBoundNotifier := state.idleNotifier.any fun notifier => notifier.1 = name
  let binding := state.seats.lookup name
  let acts := ((binding.bind (·.inputNotification)).map WaylandAct.destroy).toList
  let seats := state.seats.erase name
  let error := globalRemovalError state.initialized removedBoundNotifier binding.isSome
    seats.entries.length
  ({ state with
      registryFacts := state.registryFacts.remove name
      seats
      error := error.or state.error
      running := state.running && error.isNone }, acts)

end WaylandProviderState

/-! ## What is dispatched -/

inductive WaylandEvent where
  | global (name : UInt32) (interface : String) (version : UInt32)
  | globalRemove (name : UInt32)
  /-- An event of a notification object, which carries the name of its seat; `resumed` tells
  `Resumed` from `Idled`, and `taken` is what the callback would answer. -/
  | notification (proxy : WaylandProxy) (seat : UInt32) (resumed : Bool) (now : Instant)
      (taken : Bool)
  /-- The first roundtrip of `initialize_provider` has ended. -/
  | roundtripEnded
  deriving DecidableEq, Repr

namespace WaylandProviderState

/-- The middle of `initialize_provider`. The provider is given up when the globals do not suffice;
it stays as it is then. -/
def roundtripEnded (state : WaylandProviderState) : WaylandProviderState :=
  match state.registryFacts.capabilities with
  | .ok _ => { state with initialized := true }
  | .error _ => state

def notified (state : WaylandProviderState) (proxy : WaylandProxy) (seat : UInt32)
    (resumed : Bool) (now : Instant) (taken : Bool) : WaylandProviderState × List WaylandAct :=
  let current := (state.seats.lookup seat).bind (·.inputNotification)
  if current = some proxy && resumed then
    ({ state with running := state.running && taken },
      [.publish (.inactivity .desktopActivityObserved now)])
  else (state, [])

def step (state : WaylandProviderState) : WaylandEvent → WaylandProviderState × List WaylandAct
  | .global name interface version =>
    let state := { state with registryFacts := state.registryFacts.add name interface version }
    if interface = idleNotifierInterface then state.bindIdleNotifier
    else if interface = seatInterface then state.bindSeat name
    else (state, [])
  | .globalRemove name => state.removeGlobal name
  | .notification proxy seat resumed now taken => state.notified proxy seat resumed now taken
  | .roundtripEnded => (state.roundtripEnded, [])

/-- The provider after some events. -/
def after (events : List WaylandEvent) : WaylandProviderState := Mealy.exec step {} events

/-- What has been asked and published on the way. -/
def acts (events : List WaylandEvent) : List WaylandAct := Mealy.trace step {} events

end WaylandProviderState

/-! ## What is advertised -/

/-- The seats that the compositor advertises after an event. -/
def advertises (seats : UInt32 → Bool) : WaylandEvent → UInt32 → Bool
  | .global name interface _ => fun other =>
    if interface = seatInterface ∧ other = name then true else seats other
  | .globalRemove name => fun other => if other = name then false else seats other
  | .notification .. | .roundtripEnded => seats

/-- The seats that the compositor advertises after some events. -/
def advertisedSeats (events : List WaylandEvent) : UInt32 → Bool :=
  events.foldl advertises fun _ => false

/-- The notifiers that the compositor advertises after an event, with their versions. -/
def advertisesNotifier (notifiers : UInt32 → Option UInt32) : WaylandEvent → UInt32 → Option UInt32
  | .global name interface version => fun other =>
    if interface = idleNotifierInterface ∧ other = name then some version else notifiers other
  | .globalRemove name => fun other => if other = name then none else notifiers other
  | .notification .. | .roundtripEnded => notifiers

/-- The notifiers that the compositor advertises after some events. -/
def advertisedNotifiers (events : List WaylandEvent) : UInt32 → Option UInt32 :=
  events.foldl advertisesNotifier fun _ => none

/-- A first roundtrip has ended with a seat and a notifier of a sufficient version. -/
def Initialized (events : List WaylandEvent) : Prop :=
  ∃ before later, events = before ++ .roundtripEnded :: later
    ∧ (∃ seat, advertisedSeats before seat = true)
    ∧ ∃ notifier version, advertisedNotifiers before notifier = some version
      ∧ REQUIRED_IDLE_NOTIFIER_VERSION ≤ version

/-- One more event, for the seats. -/
theorem advertisedSeats_concat (events : List WaylandEvent) (event : WaylandEvent) :
    advertisedSeats (events ++ [event]) = advertises (advertisedSeats events) event := by
  simp [advertisedSeats]

/-- One more event, for the notifiers. -/
theorem advertisedNotifiers_concat (events : List WaylandEvent) (event : WaylandEvent) :
    advertisedNotifiers (events ++ [event])
      = advertisesNotifier (advertisedNotifiers events) event := by
  simp [advertisedNotifiers]

/-- What happens at the end of some events has happened before, or happens now. -/
theorem initialized_concat (events : List WaylandEvent) (event : WaylandEvent) :
    Initialized (events ++ [event]) ↔ Initialized events ∨ (event = .roundtripEnded
      ∧ (∃ seat, advertisedSeats events seat = true)
      ∧ ∃ notifier version, advertisedNotifiers events notifier = some version
        ∧ REQUIRED_IDLE_NOTIFIER_VERSION ≤ version) := by
  constructor
  · rintro ⟨before, later, hsplit, hsuffices⟩
    rcases List.eq_nil_or_concat later with rfl | ⟨rest, last, rfl⟩
    · obtain ⟨rfl, hlast⟩ := List.append_inj' hsplit rfl
      exact .inr ⟨List.singleton_inj.1 hlast, hsuffices⟩
    · rw [List.concat_eq_append, ← List.cons_append, ← List.append_assoc] at hsplit
      obtain ⟨rfl, -⟩ := List.append_inj' hsplit rfl
      exact .inl ⟨before, rest, rfl, hsuffices⟩
  · rintro (⟨before, later, rfl, hsuffices⟩ | ⟨rfl, hsuffices⟩)
    · exact ⟨before, later ++ [event], by simp, hsuffices⟩
    · exact ⟨events, [], rfl, hsuffices⟩

/-! ## Notifications -/

/-- The notifications that were asked for: those that were not destroyed are the ones the bindings
hold, and no two of all are the same object. -/
structure Notifications (acts : List WaylandAct) (state : WaylandProviderState) : Prop where
  created : ∀ name proxy, .getInputIdleNotification name proxy ∈ acts → .destroy proxy ∈ acts
    ∨ ∃ binding, state.seats.lookup name = some binding
      ∧ binding.inputNotification = some proxy
  current : ∀ name binding proxy, state.seats.lookup name = some binding →
    binding.inputNotification = some proxy →
      .getInputIdleNotification name proxy ∈ acts ∧ .destroy proxy ∉ acts
  single : ∀ name name' proxy, .getInputIdleNotification name proxy ∈ acts →
    .getInputIdleNotification name' proxy ∈ acts → name = name'
  fresh : ∀ proxy, (∃ name, .getInputIdleNotification name proxy ∈ acts)
    ∨ .destroy proxy ∈ acts → proxy < state.proxies

/-- A binding has a notification as soon as there is a notifier. -/
def WaylandProviderState.Attaches (state : WaylandProviderState) (name : UInt32) : Prop :=
  ∀ binding, state.seats.lookup name = some binding → state.idleNotifier.isSome = true →
    binding.inputNotification.isSome = true

/-- What attaching leaves alone. -/
structure AttachFrame (state next : WaylandProviderState) : Prop where
  idleNotifier : next.idleNotifier = state.idleNotifier
  error : next.error = state.error
  initialized : next.initialized = state.initialized
  facts : next.registryFacts = state.registryFacts
  mem : ∀ name, name ∈ next.seats ↔ name ∈ state.seats
  attaches : ∀ name, state.Attaches name → next.Attaches name

theorem AttachFrame.refl (state : WaylandProviderState) : AttachFrame state state :=
  ⟨rfl, rfl, rfl, rfl, fun _ => Iff.rfl, fun _ h => h⟩

/-- Attaching twice changes no more than attaching. -/
theorem AttachFrame.trans {state next last : WaylandProviderState} (h : AttachFrame state next)
    (h' : AttachFrame next last) : AttachFrame state last where
  idleNotifier := h'.idleNotifier.trans h.idleNotifier
  error := h'.error.trans h.error
  initialized := h'.initialized.trans h.initialized
  facts := h'.facts.trans h.facts
  mem name := (h'.mem name).trans (h.mem name)
  attaches name hname := h'.attaches name (h.attaches name hname)

namespace WaylandProviderState

/-- What `attachSeat` does: nothing, or one new notification. -/
theorem attachSeat_cases (state : WaylandProviderState) (name : UInt32) :
    (state.attachSeat name = (state, []) ∧ state.Attaches name)
      ∨ ∃ binding, state.seats.lookup name = some binding ∧ binding.inputNotification = none
        ∧ state.idleNotifier.isSome = true
        ∧ state.attachSeat name
          = ({ state with
                seats := state.seats.insert name
                  { binding with inputNotification := some state.proxies }
                proxies := state.proxies + 1 },
              [.getInputIdleNotification name state.proxies]) := by
  unfold attachSeat Attaches
  cases hnotifier : state.idleNotifier with
  | none => exact .inl ⟨rfl, nofun⟩
  | some notifier =>
    cases hlookup : state.seats.lookup name with
    | none => exact .inl ⟨rfl, nofun⟩
    | some binding =>
      cases hnotification : binding.inputNotification with
      | some proxy =>
        refine .inl ⟨by simp [hnotification], fun binding' h _ => ?_⟩
        cases h
        rw [hnotification]
        rfl
      | none =>
        refine .inr ⟨binding, rfl, hnotification, rfl, ?_⟩
        simp [hnotification]

/-- Attaching one seat gives that seat its notification and leaves the rest. -/
theorem attachSeat_frame (state : WaylandProviderState) (name : UInt32) :
    AttachFrame state (state.attachSeat name).1 ∧ (state.attachSeat name).1.Attaches name := by
  obtain ⟨hsame, hattaches⟩ | ⟨binding, hlookup, -, -, hattach⟩ := state.attachSeat_cases name
  · rw [hsame]
    exact ⟨.refl state, hattaches⟩
  · rw [hattach]
    have hmem : name ∈ state.seats := AList.lookup_isSome.1 (by rw [hlookup]; rfl)
    have hself : ∀ binding', (state.seats.insert name
        { binding with inputNotification := some state.proxies }).lookup name = some binding' →
        binding'.inputNotification.isSome = true := by
      intro binding' h
      rw [AList.lookup_insert] at h
      cases h
      rfl
    refine ⟨⟨rfl, rfl, rfl, rfl, fun other => ?_, fun other hother binding' hbinding' hnotifier => ?_⟩,
      fun binding' hbinding' _ => hself binding' hbinding'⟩
    · rw [AList.mem_insert]
      exact ⟨fun h => h.elim (fun h => h ▸ hmem) id, .inr⟩
    · by_cases hsame : other = name
      · subst hsame
        exact hself binding' hbinding'
      · rw [AList.lookup_insert_ne hsame] at hbinding'
        exact hother binding' hbinding' hnotifier

/-- Attaching all of them attaches each. By induction on their names. -/
theorem attachSeats_frame (names : List UInt32) : ∀ state : WaylandProviderState,
    AttachFrame state (state.attachSeats names).1
      ∧ ∀ name ∈ names, (state.attachSeats names).1.Attaches name := by
  induction names with
  | nil => exact fun state => ⟨.refl state, nofun⟩
  | cons first names ih =>
    intro state
    obtain ⟨hfirst, hattached⟩ := state.attachSeat_frame first
    obtain ⟨hrest, hothers⟩ := ih (state.attachSeat first).1
    refine ⟨hfirst.trans hrest, fun name hname => ?_⟩
    rcases List.mem_cons.1 hname with rfl | hname
    · exact hrest.attaches name hattached
    · exact hothers name hname

end WaylandProviderState

/-- Acts that neither make nor destroy a notification. -/
theorem Notifications.append_other {acts : List WaylandAct} {state next : WaylandProviderState}
    (h : Notifications acts state) (hseats : next.seats = state.seats)
    (hproxies : state.proxies ≤ next.proxies) {act : WaylandAct}
    (hget : ∀ name proxy, act ≠ .getInputIdleNotification name proxy)
    (hdestroy : ∀ proxy, act ≠ .destroy proxy) : Notifications (acts ++ [act]) next := by
  have hmemget : ∀ name proxy, .getInputIdleNotification name proxy ∈ acts ++ [act] ↔
      .getInputIdleNotification name proxy ∈ acts := by
    intro name proxy
    simp [(hget name proxy).symm]
  have hmemdestroy : ∀ proxy, .destroy proxy ∈ acts ++ [act] ↔ .destroy proxy ∈ acts := by
    intro proxy
    simp [(hdestroy proxy).symm]
  constructor
  · intro name proxy hget
    rw [hmemdestroy, hseats]
    exact h.created name proxy ((hmemget name proxy).1 hget)
  · intro name binding proxy
    rw [hmemget, hmemdestroy, hseats]
    exact h.current name binding proxy
  · intro name name' proxy
    rw [hmemget, hmemget]
    exact h.single name name' proxy
  · intro proxy
    simp only [hmemget, hmemdestroy]
    exact fun hmade => Nat.lt_of_lt_of_le (h.fresh proxy hmade) hproxies

/-- A seat without a notification gets one. -/
theorem Notifications.attach {acts : List WaylandAct} {state next : WaylandProviderState}
    (h : Notifications acts state) {name : UInt32} {binding : SeatBinding}
    (hlookup : state.seats.lookup name = some binding) (hnone : binding.inputNotification = none)
    (hseats : next.seats = state.seats.insert name
      { binding with inputNotification := some state.proxies })
    (hproxies : next.proxies = state.proxies + 1) :
    Notifications (acts ++ [.getInputIdleNotification name state.proxies]) next := by
  -- the new proxy is fresh: neither handed out nor destroyed before
  have hunused : ∀ other, .getInputIdleNotification other state.proxies ∉ acts :=
    fun other hmem => absurd (h.fresh _ (.inl ⟨other, hmem⟩)) (Nat.lt_irrefl _)
  have hundestroyed : .destroy state.proxies ∉ acts :=
    fun hmem => absurd (h.fresh _ (.inr hmem)) (Nat.lt_irrefl _)
  have hmemget : ∀ other proxy, .getInputIdleNotification other proxy
      ∈ acts ++ [.getInputIdleNotification name state.proxies] ↔
        .getInputIdleNotification other proxy ∈ acts ∨ (other = name ∧ proxy = state.proxies) := by
    intro other proxy
    simp
  have hmemdestroy : ∀ proxy, .destroy proxy
      ∈ acts ++ [.getInputIdleNotification name state.proxies] ↔ .destroy proxy ∈ acts := by
    intro proxy
    simp
  constructor
  · intro other proxy
    rw [hmemget, hmemdestroy, hseats]
    rintro (hmem | ⟨rfl, rfl⟩)
    · rcases h.created other proxy hmem with hdestroyed | ⟨binding', hlookup', hcurrent⟩
      · exact .inl hdestroyed
      -- the seat had no notification, so the older one is another seat's
      · have hother : other ≠ name := by
          rintro rfl
          rw [hlookup] at hlookup'
          cases hlookup'
          rw [hnone] at hcurrent
          cases hcurrent
        refine .inr ⟨binding', ?_, hcurrent⟩
        rw [AList.lookup_insert_ne hother]
        exact hlookup'
    · exact .inr ⟨_, AList.lookup_insert _, rfl⟩
  · intro other binding' proxy hlookup' hcurrent
    rw [hmemget, hmemdestroy]
    rw [hseats] at hlookup'
    by_cases hother : other = name
    · subst hother
      rw [AList.lookup_insert] at hlookup'
      cases hlookup'
      cases hcurrent
      exact ⟨.inr ⟨rfl, rfl⟩, hundestroyed⟩
    · rw [AList.lookup_insert_ne hother] at hlookup'
      obtain ⟨hmem, hnot⟩ := h.current other binding' proxy hlookup' hcurrent
      exact ⟨.inl hmem, hnot⟩
  · intro other other' proxy
    rw [hmemget, hmemget]
    rintro (hmem | ⟨rfl, rfl⟩) (hmem' | ⟨rfl, hsame⟩)
    · exact h.single other other' proxy hmem hmem'
    · subst hsame
      exact absurd hmem (hunused other)
    · exact absurd hmem' (hunused other')
    · rfl
  · intro proxy
    simp only [hmemget, hmemdestroy]
    rw [hproxies]
    rintro (⟨other, hmem | ⟨-, rfl⟩⟩ | hmem)
    · exact Nat.lt_succ_of_lt (h.fresh proxy (.inl ⟨other, hmem⟩))
    · exact Nat.lt_succ_self _
    · exact Nat.lt_succ_of_lt (h.fresh proxy (.inr hmem))

/-- An attached seat keeps the account of the notifications. -/
theorem Notifications.attachSeat {acts : List WaylandAct} {state : WaylandProviderState}
    (h : Notifications acts state) (name : UInt32) :
    Notifications (acts ++ (state.attachSeat name).2) (state.attachSeat name).1 := by
  obtain ⟨hsame, -⟩ | ⟨binding, hlookup, hnone, -, hattach⟩ := state.attachSeat_cases name
  · rw [hsame, List.append_nil]
    exact h
  · rw [hattach]
    exact h.attach hlookup hnone rfl rfl

/-- Attaching all seats keeps the notifications in order. -/
theorem Notifications.attachSeats (names : List UInt32) : ∀ {acts : List WaylandAct}
    {state : WaylandProviderState}, Notifications acts state →
      Notifications (acts ++ (state.attachSeats names).2) (state.attachSeats names).1 := by
  induction names with
  | nil =>
    intro acts state h
    rw [show (state.attachSeats []).2 = [] from rfl, List.append_nil]
    exact h
  | cons first names ih =>
    intro acts state h
    have hrest := ih (h.attachSeat first)
    rw [List.append_assoc] at hrest
    exact hrest

/-- A seat goes, and its notification is destroyed. -/
theorem Notifications.remove {acts : List WaylandAct} {state next : WaylandProviderState}
    (h : Notifications acts state) (name : UInt32) (hseats : next.seats = state.seats.erase name)
    (hproxies : next.proxies = state.proxies) :
    Notifications (acts ++ (((state.seats.lookup name).bind (·.inputNotification)).map
      WaylandAct.destroy).toList) next := by
  -- what is destroyed is the notification of the seat, and it has no other
  have hmemget : ∀ other proxy, .getInputIdleNotification other proxy
      ∈ acts ++ (((state.seats.lookup name).bind (·.inputNotification)).map
        WaylandAct.destroy).toList ↔ .getInputIdleNotification other proxy ∈ acts := by
    intro other proxy
    cases (state.seats.lookup name).bind (·.inputNotification) <;> simp
  have hmemdestroy : ∀ proxy, .destroy proxy
      ∈ acts ++ (((state.seats.lookup name).bind (·.inputNotification)).map
        WaylandAct.destroy).toList ↔ .destroy proxy ∈ acts
          ∨ (state.seats.lookup name).bind (·.inputNotification) = some proxy := by
    intro proxy
    cases (state.seats.lookup name).bind (·.inputNotification) <;> simp [eq_comm]
  have hheld : ∀ proxy, (state.seats.lookup name).bind (·.inputNotification) = some proxy ↔
      ∃ binding, state.seats.lookup name = some binding
        ∧ binding.inputNotification = some proxy := by
    intro proxy
    rw [Option.bind_eq_some_iff]
  constructor
  · intro other proxy
    rw [hmemget, hmemdestroy, hseats]
    intro hmem
    rcases h.created other proxy hmem with hdestroyed | ⟨binding, hlookup, hcurrent⟩
    · exact .inl (.inl hdestroyed)
    · by_cases hother : other = name
      · subst hother
        exact .inl (.inr ((hheld proxy).2 ⟨binding, hlookup, hcurrent⟩))
      · refine .inr ⟨binding, ?_, hcurrent⟩
        rw [AList.lookup_erase_ne hother]
        exact hlookup
  · intro other binding proxy hlookup hcurrent
    rw [hmemget, hmemdestroy]
    rw [hseats] at hlookup
    have hother : other ≠ name := by
      rintro rfl
      rw [AList.lookup_erase] at hlookup
      cases hlookup
    rw [AList.lookup_erase_ne hother] at hlookup
    obtain ⟨hmem, hnot⟩ := h.current other binding proxy hlookup hcurrent
    refine ⟨hmem, not_or.2 ⟨hnot, fun hremoved => ?_⟩⟩
    obtain ⟨binding', hlookup', hcurrent'⟩ := (hheld proxy).1 hremoved
    obtain ⟨hmem', -⟩ := h.current name binding' proxy hlookup' hcurrent'
    exact hother (h.single other name proxy hmem hmem')
  · intro other other' proxy
    rw [hmemget, hmemget]
    exact h.single other other' proxy
  · intro proxy
    simp only [hmemget, hmemdestroy]
    rw [hproxies]
    rintro (hmade | hdestroyed | hremoved)
    · exact h.fresh proxy (.inl hmade)
    · exact h.fresh proxy (.inr hdestroyed)
    · obtain ⟨binding', hlookup', hcurrent'⟩ := (hheld proxy).1 hremoved
      exact h.fresh proxy (.inl ⟨name, (h.current name binding' proxy hlookup' hcurrent').1⟩)

/-! ## The invariant of all runs -/

structure Bindings (events : List WaylandEvent) (acts : List WaylandAct)
    (state : WaylandProviderState) : Prop where
  seats : ∀ name, name ∈ state.seats ↔ advertisedSeats events name = true
  attached : ∀ name binding, state.seats.lookup name = some binding →
    (binding.inputNotification.isSome = true ↔ state.idleNotifier.isSome = true)
  notifications : Notifications acts state

theorem idleNotifierInterface_ne_seat : idleNotifierInterface ≠ seatInterface := by decide

namespace Bindings

variable {events : List WaylandEvent} {acts : List WaylandAct} {state : WaylandProviderState}

/-- At first nothing is bound and nothing advertised. -/
theorem start : Bindings [] [] {} where
  seats name := by simp [advertisedSeats]
  attached name binding h := by cases h
  notifications :=
    { created := nofun
      current := fun name binding proxy h => by cases h
      single := nofun
      fresh := fun proxy h => by simp at h }

/-- Facts about the globals alone do not matter. -/
theorem facts (h : Bindings events acts state) (facts : RegistryFacts) :
    Bindings events acts { state with registryFacts := facts } where
  seats := h.seats
  attached := h.attached
  notifications :=
    { created := h.notifications.created
      current := h.notifications.current
      single := h.notifications.single
      fresh := h.notifications.fresh }

/-- The notifier: bound once, with a notification for every seat that is there. -/
theorem bindIdleNotifier (h : Bindings events acts state) {version : UInt32} {name : UInt32} :
    Bindings (events ++ [.global name idleNotifierInterface version])
      (acts ++ state.bindIdleNotifier.2) state.bindIdleNotifier.1 := by
  have hadvertised : ∀ other, advertisedSeats (events ++ [.global name idleNotifierInterface version])
      other = advertisedSeats events other := by
    intro other
    rw [advertisedSeats_concat]
    show (if idleNotifierInterface = seatInterface ∧ other = name then true
      else advertisedSeats events other) = _
    exact if_neg fun hseat => idleNotifierInterface_ne_seat hseat.1
  have hsame : Bindings (events ++ [.global name idleNotifierInterface version]) (acts ++ [])
      state := by
    rw [List.append_nil]
    exact ⟨fun other => (h.seats other).trans (by rw [hadvertised]), h.attached, h.notifications⟩
  unfold WaylandProviderState.bindIdleNotifier
  split
  · exact hsame
  · rename_i hnotifier
    have hnone : state.idleNotifier = none := by simpa using hnotifier
    cases state.registryFacts.selectedIdleNotifier with
    | none => exact hsame
    | some global =>
      -- the notifier is there, and then each seat gets its notification
      let bound : WaylandProviderState := { state with
        idleNotifier := some (global.name, state.proxies)
        proxies := state.proxies + 1 }
      have hbound : Notifications (acts ++ [.bindIdleNotifier global.name
          (min REQUIRED_IDLE_NOTIFIER_VERSION global.version) state.proxies]) bound :=
        h.notifications.append_other (rfl : bound.seats = state.seats) (Nat.le_succ _)
          (fun _ _ hact => by cases hact) (fun _ hact => by cases hact)
      have hnotifications := hbound.attachSeats state.seats.keys
      rw [List.append_assoc] at hnotifications
      obtain ⟨hframe, hattaches⟩ :=
        WaylandProviderState.attachSeats_frame state.seats.keys bound
      refine ⟨fun other => ?_, fun other binding hlookup => ?_, hnotifications⟩
      · rw [hadvertised, ← h.seats]
        exact hframe.mem other
      · have hmem : other ∈ state.seats :=
          (hframe.mem other).1 (AList.lookup_isSome.1 (by
            show ((bound.attachSeats state.seats.keys).1.seats.lookup other).isSome = true
            rw [show (bound.attachSeats state.seats.keys).1.seats.lookup other = some binding
              from hlookup]
            rfl))
        have hnotifier : (bound.attachSeats state.seats.keys).1.idleNotifier.isSome = true := by
          rw [hframe.idleNotifier]
          rfl
        exact ⟨fun _ => hnotifier, fun _ =>
          hattaches other (AList.mem_keys.1 hmem) binding hlookup hnotifier⟩

/-- A seat: bound once, with its notification as soon as there is a notifier. -/
theorem bindSeat (h : Bindings events acts state) (version : UInt32) (name : UInt32) :
    Bindings (events ++ [.global name seatInterface version]) (acts ++ (state.bindSeat name).2)
      (state.bindSeat name).1 := by
  have hadvertised : ∀ other, advertisedSeats (events ++ [.global name seatInterface version]) other
      = true ↔ other = name ∨ other ∈ state.seats := by
    intro other
    rw [advertisedSeats_concat, h.seats]
    show (if seatInterface = seatInterface ∧ other = name then true
      else advertisedSeats events other) = true ↔ _
    by_cases hother : other = name
    · simp [hother]
    · rw [if_neg fun hseat => hother hseat.2]
      exact ⟨.inr, fun hor => hor.resolve_left hother⟩
  unfold WaylandProviderState.bindSeat
  split
  · rename_i hmem
    rw [List.append_nil]
    refine ⟨fun other => ?_, h.attached, h.notifications⟩
    rw [hadvertised]
    exact ⟨.inr, fun hor => hor.elim (fun heq => heq ▸ hmem) id⟩
  -- a new seat gets a proxy, and perhaps its notification at once
  · rename_i hnew
    let bound : WaylandProviderState := { state with
      seats := state.seats.insert name { seat := state.proxies }
      proxies := state.proxies + 1 }
    have hnone : state.seats.lookup name = none := AList.lookup_eq_none.2 hnew
    have hbound : Notifications (acts ++ [.bindSeat name state.proxies]) bound := by
      have hkept : Notifications acts bound := by
        constructor
        · intro other proxy hmem
          rcases h.notifications.created other proxy hmem with hdestroyed | ⟨binding, hlookup, hp⟩
          · exact .inl hdestroyed
          · have hother : other ≠ name := by
              rintro rfl
              rw [hnone] at hlookup
              cases hlookup
            refine .inr ⟨binding, ?_, hp⟩
            show (state.seats.insert name _).lookup other = some binding
            rw [AList.lookup_insert_ne hother]
            exact hlookup
        · intro other binding proxy hlookup hp
          have hlookup' : (state.seats.insert name { seat := state.proxies }).lookup other
              = some binding := hlookup
          by_cases hother : other = name
          · subst hother
            rw [AList.lookup_insert] at hlookup'
            cases hlookup'
            cases hp
          · rw [AList.lookup_insert_ne hother] at hlookup'
            exact h.notifications.current other binding proxy hlookup' hp
        · exact h.notifications.single
        · exact fun proxy hmade => Nat.lt_succ_of_lt (h.notifications.fresh proxy hmade)
      exact hkept.append_other (rfl : bound.seats = bound.seats) (Nat.le_refl _)
        (fun _ _ hact => by cases hact) (fun _ hact => by cases hact)
    have hnotifications := hbound.attachSeat name
    rw [List.append_assoc] at hnotifications
    obtain ⟨hframe, hattaches⟩ := WaylandProviderState.attachSeat_frame bound name
    refine ⟨fun other => ?_, ?_, hnotifications⟩
    · rw [hadvertised]
      exact (hframe.mem other).trans (AList.mem_insert _)
    · intro other binding hlookup
      have hlookup' : (bound.attachSeat name).1.seats.lookup other = some binding := hlookup
      show _ ↔ (bound.attachSeat name).1.idleNotifier.isSome = true
      rw [hframe.idleNotifier]
      by_cases hother : other = name
      · subst hother
        constructor
        · -- without a notifier nothing is attached
          intro hsome
          by_contra hnotifier
          obtain ⟨hsame, -⟩ | ⟨-, -, -, hsome', -⟩ := bound.attachSeat_cases other
          · rw [hsame] at hlookup'
            have hinserted : (state.seats.insert other { seat := state.proxies }).lookup other
                = some binding := hlookup'
            rw [AList.lookup_insert] at hinserted
            cases hinserted
            cases hsome
          · exact hnotifier hsome'
        · intro hnotifier
          exact hattaches binding hlookup' (by rw [hframe.idleNotifier]; exact hnotifier)
      · have hold : state.seats.lookup other = some binding := by
          obtain ⟨hsame, -⟩ | ⟨binding', -, -, -, hattach⟩ := bound.attachSeat_cases name
          · rw [hsame] at hlookup'
            have hinserted : (state.seats.insert name { seat := state.proxies }).lookup other
                = some binding := hlookup'
            rwa [AList.lookup_insert_ne hother] at hinserted
          · rw [hattach] at hlookup'
            have hinserted : ((state.seats.insert name { seat := state.proxies }).insert name
                { binding' with inputNotification := some bound.proxies }).lookup other
                  = some binding := hlookup'
            rwa [AList.lookup_insert_ne hother, AList.lookup_insert_ne hother] at hinserted
        exact h.attached other binding hold

/-- A removed global leaves the seats with its notification destroyed. -/
theorem removeGlobal (h : Bindings events acts state) (name : UInt32) :
    Bindings (events ++ [.globalRemove name]) (acts ++ (state.removeGlobal name).2)
      (state.removeGlobal name).1 := by
  refine ⟨fun other => ?_, ?_, h.notifications.remove name rfl rfl⟩
  · show other ∈ state.seats.erase name ↔ _
    rw [AList.mem_erase, advertisedSeats_concat, h.seats]
    show _ ↔ (if other = name then false else advertisedSeats events other) = true
    by_cases hother : other = name <;> simp [hother]
  · intro other binding hlookup
    have hlookup' : (state.seats.erase name).lookup other = some binding := hlookup
    have hother : other ≠ name := by
      rintro rfl
      rw [AList.lookup_erase] at hlookup'
      cases hlookup'
    rw [AList.lookup_erase_ne hother] at hlookup'
    exact h.attached other binding hlookup'

/-- **Step.** -/
theorem step (h : Bindings events acts state) (event : WaylandEvent) :
    Bindings (events ++ [event]) (acts ++ (state.step event).2) (state.step event).1 := by
  cases event with
  | global name interface version =>
    have hfacts := h.facts (state.registryFacts.add name interface version)
    unfold WaylandProviderState.step
    dsimp only
    -- of the globals only the notifier and the seats are bound
    by_cases hnotifier : interface = idleNotifierInterface
    · subst hnotifier
      rw [if_pos rfl]
      exact hfacts.bindIdleNotifier
    · rw [if_neg hnotifier]
      by_cases hseat : interface = seatInterface
      · subst hseat
        rw [if_pos rfl]
        exact hfacts.bindSeat version name
      · rw [if_neg hseat, List.append_nil]
        refine ⟨fun other => ?_, hfacts.attached, hfacts.notifications⟩
        rw [advertisedSeats_concat]
        show _ ↔ (if interface = seatInterface ∧ other = name then true
          else advertisedSeats events other) = true
        rw [if_neg fun hand => hseat hand.1]
        exact h.seats other
  | globalRemove name => exact h.removeGlobal name
  | notification proxy seat resumed now taken =>
    have hseats : ∀ other, other ∈ state.seats ↔
        advertisedSeats (events ++ [.notification proxy seat resumed now taken]) other = true := by
      intro other
      rw [advertisedSeats_concat]
      exact h.seats other
    show Bindings _ (acts ++ (state.notified proxy seat resumed now taken).2)
      (state.notified proxy seat resumed now taken).1
    unfold WaylandProviderState.notified
    -- a notification that is not the seat's current one is ignored
    by_cases hcurrent : ((state.seats.lookup seat).bind (·.inputNotification) = some proxy
        && resumed) = true
    · rw [if_pos hcurrent]
      let kept : WaylandProviderState := { state with running := state.running && taken }
      exact ⟨hseats, h.attached, h.notifications.append_other
        (rfl : kept.seats = state.seats) (Nat.le_refl _)
        (fun _ _ hact => by cases hact) (fun _ hact => by cases hact)⟩
    · rw [if_neg hcurrent, List.append_nil]
      exact ⟨hseats, h.attached, h.notifications⟩
  -- the end of the first roundtrip may attach what was held back
  | roundtripEnded =>
    have hseats : ∀ other, other ∈ state.seats ↔
        advertisedSeats (events ++ [.roundtripEnded]) other = true := by
      intro other
      rw [advertisedSeats_concat]
      exact h.seats other
    show Bindings _ (acts ++ []) state.roundtripEnded
    rw [List.append_nil]
    unfold WaylandProviderState.roundtripEnded
    split
    · exact ⟨hseats, h.attached, ⟨h.notifications.created, h.notifications.current,
        h.notifications.single, h.notifications.fresh⟩⟩
    · exact ⟨hseats, h.attached, h.notifications⟩

end Bindings

namespace WaylandProviderState

theorem acts_concat (events : List WaylandEvent) (event : WaylandEvent) :
    acts (events ++ [event]) = acts events ++ ((after events).step event).2 := by
  simp [acts, after]

theorem after_concat (events : List WaylandEvent) (event : WaylandEvent) :
    after (events ++ [event]) = ((after events).step event).1 := by
  simp [after]

/-- **Run.** -/
theorem bindings_after (events : List WaylandEvent) :
    Bindings events (acts events) (after events) := by
  induction events using List.reverseRecOn with
  | nil => exact Bindings.start
  | append_singleton events event ih =>
    rw [acts_concat, after_concat]
    exact ih.step event

/-- What was asked stays asked. -/
theorem mem_acts_append {act : WaylandAct} {events : List WaylandEvent} (h : act ∈ acts events)
    (later : List WaylandEvent) : act ∈ acts (events ++ later) := by
  induction later using List.reverseRecOn with
  | nil => rwa [List.append_nil]
  | append_singleton later event ih =>
    rw [← List.append_assoc, acts_concat]
    exact List.mem_append_left _ ih

/-! ## The bound notifier -/

/-- Attaching asks for notifications only. -/
theorem attachSeats_acts (names : List UInt32) : ∀ state : WaylandProviderState,
    ∀ act ∈ (state.attachSeats names).2, ∃ name proxy, act = .getInputIdleNotification name proxy := by
  induction names with
  | nil => exact fun _ _ hact => by cases hact
  | cons first names ih =>
    intro state act hact
    have happended : act ∈ (state.attachSeat first).2
        ++ ((state.attachSeat first).1.attachSeats names).2 := hact
    rcases List.mem_append.1 happended with hfirst | hrest
    · obtain ⟨hsame, -⟩ | ⟨_, -, -, -, hattach⟩ := state.attachSeat_cases first
      · rw [hsame] at hfirst
        cases hfirst
      · rw [hattach] at hfirst
        exact ⟨first, _, List.mem_singleton.1 hfirst⟩
    · exact ih _ act hrest

/-- The notifier is bound at most once, and the state remembers which one it is. -/
def NotifierBound (acts : List WaylandAct) (state : WaylandProviderState) : Prop :=
  ∀ name proxy, state.idleNotifier = some (name, proxy)
    ↔ ∃ version, .bindIdleNotifier name version proxy ∈ acts

/-- A step that binds no notifier. -/
theorem NotifierBound.append {acts made : List WaylandAct} {state next : WaylandProviderState}
    (h : NotifierBound acts state) (hnotifier : next.idleNotifier = state.idleNotifier)
    (hmade : ∀ name version proxy, WaylandAct.bindIdleNotifier name version proxy ∉ made) :
    NotifierBound (acts ++ made) next := by
  intro name proxy
  rw [hnotifier, h name proxy]
  constructor
  · rintro ⟨version, hmem⟩
    exact ⟨version, List.mem_append_left _ hmem⟩
  · rintro ⟨version, hmem⟩
    exact ⟨version, (List.mem_append.1 hmem).resolve_right (hmade name version proxy)⟩

/-- The bound notifier is the one that was asked for. -/
theorem NotifierBound.bindIdleNotifier {acts : List WaylandAct} {state : WaylandProviderState}
    (h : NotifierBound acts state) :
    NotifierBound (acts ++ state.bindIdleNotifier.2) state.bindIdleNotifier.1 := by
  unfold WaylandProviderState.bindIdleNotifier
  split
  · exact h.append rfl fun _ _ _ hmem => by cases hmem
  · rename_i hnotifier
    have hnone : state.idleNotifier = none := by simpa using hnotifier
    cases state.registryFacts.selectedIdleNotifier with
    | none => exact h.append rfl fun _ _ _ hmem => by cases hmem
    | some global =>
      let bound : WaylandProviderState := { state with
        idleNotifier := some (global.name, state.proxies)
        proxies := state.proxies + 1 }
      intro name proxy
      show (bound.attachSeats state.seats.keys).1.idleNotifier = some (name, proxy)
        ↔ ∃ version, .bindIdleNotifier name version proxy ∈ acts ++ .bindIdleNotifier global.name
          (min REQUIRED_IDLE_NOTIFIER_VERSION global.version) state.proxies
            :: (bound.attachSeats state.seats.keys).2
      rw [(attachSeats_frame state.seats.keys bound).1.idleNotifier]
      constructor
      · intro hsome
        cases hsome
        exact ⟨_, List.mem_append_right _ List.mem_cons_self⟩
      · rintro ⟨version, hmem⟩
        rcases List.mem_append.1 hmem with hbefore | hnow
        · -- nothing was bound before
          have hearlier := (h name proxy).2 ⟨version, hbefore⟩
          rw [hnone] at hearlier
          cases hearlier
        · rcases List.mem_cons.1 hnow with heq | hattached
          · cases heq
            rfl
          · obtain ⟨_, _, heq⟩ := attachSeats_acts _ _ _ hattached
            cases heq

/-- A seat binds no notifier. -/
theorem bindSeat_notifier (state : WaylandProviderState) (name : UInt32) :
    (state.bindSeat name).1.idleNotifier = state.idleNotifier
      ∧ ∀ other version proxy, WaylandAct.bindIdleNotifier other version proxy
        ∉ (state.bindSeat name).2 := by
  unfold WaylandProviderState.bindSeat
  split
  · exact ⟨rfl, fun _ _ _ hmem => by cases hmem⟩
  · let bound : WaylandProviderState := { state with
      seats := state.seats.insert name { seat := state.proxies }
      proxies := state.proxies + 1 }
    refine ⟨(attachSeat_frame bound name).1.idleNotifier, fun other version proxy hmem => ?_⟩
    have hmem' : WaylandAct.bindIdleNotifier other version proxy
        ∈ .bindSeat name state.proxies :: (bound.attachSeat name).2 := hmem
    rcases List.mem_cons.1 hmem' with heq | hattached
    · cases heq
    · obtain ⟨hsame, -⟩ | ⟨_, -, -, -, hattach⟩ := bound.attachSeat_cases name
      · rw [hsame] at hattached
        cases hattached
      · rw [hattach] at hattached
        cases List.mem_singleton.1 hattached

/-- **Step.** Only an advertised notifier binds one. -/
theorem NotifierBound.step {acts : List WaylandAct} {state : WaylandProviderState}
    (h : NotifierBound acts state) (event : WaylandEvent) :
    NotifierBound (acts ++ (state.step event).2) (state.step event).1 := by
  cases event with
  | global name interface version =>
    let learnt : WaylandProviderState :=
      { state with registryFacts := state.registryFacts.add name interface version }
    have hlearnt : NotifierBound acts learnt := h
    unfold WaylandProviderState.step
    dsimp only
    -- only the notifier's own global binds it
    by_cases hnotifier : interface = idleNotifierInterface
    · rw [if_pos hnotifier]
      exact hlearnt.bindIdleNotifier
    · rw [if_neg hnotifier]
      by_cases hseat : interface = seatInterface
      · rw [if_pos hseat]
        obtain ⟨hsame, hmade⟩ := learnt.bindSeat_notifier name
        exact hlearnt.append hsame hmade
      · rw [if_neg hseat]
        exact hlearnt.append rfl fun _ _ _ hmem => by cases hmem
  | globalRemove name =>
    refine h.append rfl fun other version proxy hmem => ?_
    have hmem' : WaylandAct.bindIdleNotifier other version proxy
        ∈ (((state.seats.lookup name).bind (·.inputNotification)).map
          WaylandAct.destroy).toList := hmem
    -- a seat that goes takes its notification along, not the notifier
    cases hheld : (state.seats.lookup name).bind (·.inputNotification) with
    | none =>
      rw [hheld] at hmem'
      cases hmem'
    | some held =>
      rw [hheld] at hmem'
      cases List.mem_singleton.1 hmem'
  | notification proxy seat resumed now taken =>
    show NotifierBound (acts ++ (state.notified proxy seat resumed now taken).2)
      (state.notified proxy seat resumed now taken).1
    unfold WaylandProviderState.notified
    by_cases hcurrent : ((state.seats.lookup seat).bind (·.inputNotification) = some proxy
        && resumed) = true
    · rw [if_pos hcurrent]
      exact h.append rfl fun _ _ _ hmem => by cases List.mem_singleton.1 hmem
    · rw [if_neg hcurrent]
      exact h.append rfl fun _ _ _ hmem => by cases hmem
  | roundtripEnded =>
    refine h.append ?_ fun _ _ _ hmem => by cases hmem
    show state.roundtripEnded.idleNotifier = state.idleNotifier
    unfold WaylandProviderState.roundtripEnded
    split <;> rfl

/-- **Run.** In every run the bound notifier is the one of the requests. -/
theorem notifierBound_after (events : List WaylandEvent) :
    NotifierBound (acts events) (after events) := by
  induction events using List.reverseRecOn with
  | nil =>
    intro name proxy
    constructor
    · intro hsome
      cases hsome
    · rintro ⟨version, hmem⟩
      cases hmem
  | append_singleton events event ih =>
    rw [acts_concat, after_concat]
    exact ih.step event

/-! ## The first roundtrip -/

/-- The facts after an event. -/
def noted (facts : RegistryFacts) : WaylandEvent → RegistryFacts
  | .global name interface version => facts.add name interface version
  | .globalRemove name => facts.remove name
  | .notification .. | .roundtripEnded => facts

/-- A step learns what its event says, and but for the end of the roundtrip initializes nothing. -/
theorem step_facts (state : WaylandProviderState) (event : WaylandEvent) :
    (state.step event).1.registryFacts = noted state.registryFacts event
      ∧ (event ≠ .roundtripEnded → (state.step event).1.initialized = state.initialized) := by
  cases event with
  | global name interface version =>
    unfold WaylandProviderState.step
    dsimp only
    by_cases hnotifier : interface = idleNotifierInterface
    · rw [if_pos hnotifier]
      unfold WaylandProviderState.bindIdleNotifier
      split
      · exact ⟨rfl, fun _ => rfl⟩
      · split
        · exact ⟨rfl, fun _ => rfl⟩
        · exact ⟨(attachSeats_frame _ _).1.facts, fun _ => (attachSeats_frame _ _).1.initialized⟩
    · rw [if_neg hnotifier]
      by_cases hseat : interface = seatInterface
      · rw [if_pos hseat]
        unfold WaylandProviderState.bindSeat
        split
        · exact ⟨rfl, fun _ => rfl⟩
        · exact ⟨(attachSeat_frame _ name).1.facts, fun _ => (attachSeat_frame _ name).1.initialized⟩
      · rw [if_neg hseat]
        exact ⟨rfl, fun _ => rfl⟩
  | globalRemove name => exact ⟨rfl, fun _ => rfl⟩
  | notification proxy seat resumed now taken =>
    show (state.notified proxy seat resumed now taken).1.registryFacts = state.registryFacts
      ∧ (_ → (state.notified proxy seat resumed now taken).1.initialized = state.initialized)
    unfold WaylandProviderState.notified
    dsimp only
    split
    · exact ⟨rfl, fun _ => rfl⟩
    · exact ⟨rfl, fun _ => rfl⟩
  | roundtripEnded =>
    refine ⟨?_, fun hother => absurd rfl hother⟩
    show state.roundtripEnded.registryFacts = state.registryFacts
    unfold WaylandProviderState.roundtripEnded
    split <;> rfl

/-- The facts are those of the globals that are advertised. -/
structure FactsFollow (events : List WaylandEvent) (facts : RegistryFacts) : Prop where
  seats : ∀ name, name ∈ facts.seats ↔ advertisedSeats events name = true
  notifiers : ∀ name, facts.idleNotifiers.lookup name = advertisedNotifiers events name

/-- A global that appears is noted under its interface. -/
theorem FactsFollow.add {events : List WaylandEvent} {facts : RegistryFacts}
    (h : FactsFollow events facts) (name : UInt32) (interface : String) (version : UInt32) :
    FactsFollow (events ++ [.global name interface version])
      (facts.add name interface version) := by
  constructor
  · intro other
    rw [advertisedSeats_concat]
    show _ ↔ (if interface = seatInterface ∧ other = name then true
      else advertisedSeats events other) = true
    unfold RegistryFacts.add
    by_cases hnotifier : interface = idleNotifierInterface
    · rw [if_pos hnotifier, hnotifier,
        if_neg fun hseat => idleNotifierInterface_ne_seat hseat.1]
      exact h.seats other
    · rw [if_neg hnotifier]
      by_cases hseat : interface = seatInterface
      · rw [if_pos hseat, AList.mem_insert, h.seats]
        by_cases hother : other = name <;> simp [hseat, hother]
      · rw [if_neg hseat, if_neg fun hand => hseat hand.1]
        exact h.seats other
  · intro other
    rw [advertisedNotifiers_concat]
    show _ = if interface = idleNotifierInterface ∧ other = name then some version
      else advertisedNotifiers events other
    unfold RegistryFacts.add
    by_cases hnotifier : interface = idleNotifierInterface
    · rw [if_pos hnotifier]
      by_cases hother : other = name
      · rw [if_pos ⟨hnotifier, hother⟩, hother]
        exact AList.lookup_insert _
      · rw [if_neg fun hand => hother hand.2, ← h.notifiers]
        exact AList.lookup_insert_ne hother
    · have hneither : ¬(interface = idleNotifierInterface ∧ other = name) :=
        fun hand => hnotifier hand.1
      rw [if_neg hnotifier, if_neg hneither, ← h.notifiers]
      split <;> rfl

/-- One that goes is forgotten under both. -/
theorem FactsFollow.remove {events : List WaylandEvent} {facts : RegistryFacts}
    (h : FactsFollow events facts) (name : UInt32) :
    FactsFollow (events ++ [.globalRemove name]) (facts.remove name) := by
  constructor
  · intro other
    rw [advertisedSeats_concat]
    show other ∈ facts.seats.erase name
      ↔ (if other = name then false else advertisedSeats events other) = true
    rw [AList.mem_erase, h.seats]
    by_cases hother : other = name <;> simp [hother]
  · intro other
    rw [advertisedNotifiers_concat]
    show (facts.idleNotifiers.erase name).lookup other
      = if other = name then none else advertisedNotifiers events other
    by_cases hother : other = name
    · rw [if_pos hother, hother]
      exact AList.lookup_erase _ _
    · rw [if_neg hother, ← h.notifiers]
      exact AList.lookup_erase_ne hother

/-- **Run.** What is noted of the registry is what is advertised. -/
theorem factsFollow_after (events : List WaylandEvent) :
    FactsFollow events (after events).registryFacts := by
  induction events using List.reverseRecOn with
  | nil =>
    constructor
    · intro name
      simp [advertisedSeats, after]
    · intro name
      rfl
  | append_singleton events event ih =>
    rw [after_concat, ((after events).step_facts event).1]
    cases event with
    | global name interface version => exact ih.add name interface version
    | globalRemove name => exact ih.remove name
    | notification proxy seat resumed now taken =>
      refine ⟨fun name => ?_, fun name => ?_⟩
      · rw [advertisedSeats_concat]
        exact ih.seats name
      · rw [advertisedNotifiers_concat]
        exact ih.notifiers name
    | roundtripEnded =>
      refine ⟨fun name => ?_, fun name => ?_⟩
      · rw [advertisedSeats_concat]
        exact ih.seats name
      · rw [advertisedNotifiers_concat]
        exact ih.notifiers name

/-- A version suffices if one of two does. -/
theorem le_max_version {bound a b : UInt32} : bound ≤ max a b ↔ bound ≤ a ∨ bound ≤ b := by
  show bound ≤ (if a ≤ b then b else a) ↔ _
  simp only [UInt32.le_iff_toNat_le]
  split <;> omega

/-- The greatest version is sufficient when one of them is. -/
theorem max?_sufficient {versions : List UInt32} {bound : UInt32} :
    (∃ version, versions.max? = some version ∧ bound ≤ version)
      ↔ ∃ version ∈ versions, bound ≤ version := by
  have hfold : ∀ (rest : List UInt32) (first : UInt32),
      bound ≤ rest.foldl max first ↔ bound ≤ first ∨ ∃ version ∈ rest, bound ≤ version := by
    intro rest
    induction rest with
    | nil => simp
    | cons next rest ih =>
      intro first
      rw [List.foldl_cons, ih, le_max_version, List.exists_mem_cons_iff, or_assoc]
  cases versions with
  | nil => simp
  | cons first rest =>
    rw [List.max?_cons', List.exists_mem_cons_iff, ← hfold]
    simp

/-- The globals suffice when there are a seat and a notifier of the version. -/
theorem capabilities_isOk (facts : RegistryFacts) :
    (∃ capabilities, facts.capabilities = .ok capabilities) ↔ (∃ seat, seat ∈ facts.seats)
      ∧ ∃ notifier version, facts.idleNotifiers.lookup notifier = some version
        ∧ REQUIRED_IDLE_NOTIFIER_VERSION ≤ version := by
  have hseats : facts.seats.entries.isEmpty = false ↔ ∃ seat, seat ∈ facts.seats := by
    rw [List.isEmpty_eq_false_iff_exists_mem]
    constructor
    · rintro ⟨entry, hentry⟩
      exact ⟨entry.1, AList.mem_keys.2 (List.mem_keys_of_mem hentry)⟩
    · rintro ⟨seat, hseat⟩
      obtain ⟨binding, hlookup⟩ := Option.isSome_iff_exists.1 (AList.lookup_isSome.2 hseat)
      exact ⟨_, AList.mem_lookup_iff.1 hlookup⟩
  have hmax : (∃ version, facts.maximumIdleNotifierVersion = some version
      ∧ REQUIRED_IDLE_NOTIFIER_VERSION ≤ version) ↔
        ∃ notifier version, facts.idleNotifiers.lookup notifier = some version
          ∧ REQUIRED_IDLE_NOTIFIER_VERSION ≤ version := by
    unfold RegistryFacts.maximumIdleNotifierVersion
    rw [max?_sufficient]
    constructor
    · rintro ⟨version, hmem, hle⟩
      obtain ⟨entry, hentry, rfl⟩ := List.mem_map.1 hmem
      exact ⟨entry.1, entry.2, AList.mem_lookup_iff.2 hentry, hle⟩
    · rintro ⟨notifier, version, hlookup, hle⟩
      exact ⟨version, List.mem_map.2 ⟨_, AList.mem_lookup_iff.1 hlookup, rfl⟩, hle⟩
  rw [← hseats, ← hmax]
  unfold RegistryFacts.capabilities
  cases facts.maximumIdleNotifierVersion with
  | none => simp
  | some version =>
    by_cases hold : version < REQUIRED_IDLE_NOTIFIER_VERSION
    · simp [hold]
    · cases hempty : facts.seats.entries.isEmpty <;> simp [hold, UInt32.not_lt.1 hold]

/-- **The provider is initialized** by a first roundtrip with a seat and a sufficient notifier. -/
theorem initialized_iff (events : List WaylandEvent) :
    (after events).initialized = true ↔ Initialized events := by
  induction events using List.reverseRecOn with
  | nil =>
    constructor
    · intro h
      cases h
    · rintro ⟨before, later, hsplit, -⟩
      simp at hsplit
  | append_singleton events event ih =>
    have hfacts := factsFollow_after events
    rw [after_concat, initialized_concat, ← ih]
    by_cases hended : event = .roundtripEnded
    · rw [hended]
      have hsuffices : (∃ capabilities, (after events).registryFacts.capabilities = .ok capabilities)
          ↔ (∃ seat, advertisedSeats events seat = true)
            ∧ ∃ notifier version, advertisedNotifiers events notifier = some version
              ∧ REQUIRED_IDLE_NOTIFIER_VERSION ≤ version := by
        rw [capabilities_isOk]
        simp only [hfacts.seats, hfacts.notifiers]
      rw [← hsuffices]
      show (after events).roundtripEnded.initialized = true ↔ _
      unfold roundtripEnded
      cases hcapabilities : (after events).registryFacts.capabilities with
      | ok capabilities => simp
      | error err => simp
    · rw [((after events).step_facts event).2 hended]
      simp [hended]

/-! ## The terminal error -/

theorem attachSeats_error (state : WaylandProviderState) (names : List UInt32) :
    (state.attachSeats names).1.error = state.error :=
  (attachSeats_frame names state).1.error

/-- Only a removal sets an error. -/
theorem step_error (state : WaylandProviderState) (event : WaylandEvent)
    (hevent : ∀ name, event ≠ .globalRemove name) : (state.step event).1.error = state.error := by
  cases event with
  | globalRemove name => exact absurd rfl (hevent name)
  | global name interface version =>
    unfold WaylandProviderState.step
    dsimp only
    by_cases hnotifier : interface = idleNotifierInterface
    · rw [if_pos hnotifier]
      unfold WaylandProviderState.bindIdleNotifier
      split
      · rfl
      · split
        · rfl
        · exact attachSeats_error _ _
    · rw [if_neg hnotifier]
      by_cases hseat : interface = seatInterface
      · rw [if_pos hseat]
        unfold WaylandProviderState.bindSeat
        split
        · rfl
        · exact (attachSeat_frame _ name).1.error
      · rw [if_neg hseat]
  | notification proxy seat resumed now taken =>
    show (state.notified proxy seat resumed now taken).1.error = state.error
    unfold WaylandProviderState.notified
    dsimp only
    split <;> rfl
  | roundtripEnded =>
    show state.roundtripEnded.error = state.error
    unfold WaylandProviderState.roundtripEnded
    split <;> rfl

/-- The seat is advertised, and no other is. -/
def LastSeat (events : List WaylandEvent) (name : UInt32) : Prop :=
  ∀ other, advertisedSeats events other = true ↔ other = name

/-- The removal of a global ends the provider: it is the bound notifier, or the last seat of an
initialized provider. -/
def EndsProvider (events : List WaylandEvent) (name : UInt32) : Prop :=
  (∃ version proxy, .bindIdleNotifier name version proxy ∈ acts events)
    ∨ (Initialized events ∧ LastSeat events name)

/-- Erasing a bound seat leaves nothing when it is the last one. -/
theorem seat_removed_last (events : List WaylandEvent) (name : UInt32) :
    (((after events).seats.lookup name).isSome = true
      ∧ ((after events).seats.erase name).entries.length = 0) ↔ LastSeat events name := by
  have hseats := (bindings_after events).seats
  have hempty : ((after events).seats.erase name).entries.length = 0
      ↔ ∀ other, other ∉ (after events).seats.erase name := by
    rw [List.length_eq_zero_iff]
    constructor
    · intro hnil other hmem
      have hkey : other ∈ ((after events).seats.erase name).keys := AList.mem_keys.1 hmem
      rw [AList.keys, hnil] at hkey
      cases hkey
    · intro hnone
      by_contra hcons
      obtain ⟨entry, hentry⟩ := List.exists_mem_of_ne_nil _ hcons
      exact hnone entry.1 (AList.mem_keys.2 (List.mem_keys_of_mem hentry))
  rw [hempty, AList.lookup_isSome]
  unfold LastSeat
  constructor
  · rintro ⟨hbound, hnone⟩ other
    rw [← hseats]
    constructor
    · intro hother
      by_contra hne
      exact hnone other ((AList.mem_erase).2 ⟨hne, hother⟩)
    · rintro rfl
      exact hbound
  · intro hlast
    refine ⟨(hseats name).2 ((hlast name).2 rfl), fun other hmem => ?_⟩
    obtain ⟨hne, hother⟩ := (AList.mem_erase).1 hmem
    exact hne ((hlast other).1 ((hseats other).1 hother))

/-- A removal sets the error when it ends the provider, and not otherwise. -/
theorem removal_error_isSome (events : List WaylandEvent) (name : UInt32) :
    (globalRemovalError (after events).initialized
      ((after events).idleNotifier.any fun notifier => notifier.1 = name)
      ((after events).seats.lookup name).isSome
      ((after events).seats.erase name).entries.length).isSome = true
        ↔ EndsProvider events name := by
  have hnotifier : ((after events).idleNotifier.any fun notifier => notifier.1 = name) = true
      ↔ ∃ version proxy, .bindIdleNotifier name version proxy ∈ acts events := by
    rw [Option.any_eq_true]
    constructor
    · rintro ⟨⟨bound, proxy⟩, hbound, hname⟩
      obtain rfl : bound = name := by simpa using hname
      obtain ⟨version, hmem⟩ := (notifierBound_after events bound proxy).1 hbound
      exact ⟨version, proxy, hmem⟩
    · rintro ⟨version, proxy, hmem⟩
      exact ⟨(name, proxy), (notifierBound_after events name proxy).2 ⟨version, hmem⟩, by simp⟩
  rw [EndsProvider, ← hnotifier, ← seat_removed_last, ← initialized_iff]
  unfold globalRemovalError
  by_cases hbound : ((after events).idleNotifier.any fun notifier => notifier.1 = name) = true
  · simp [hbound]
  · rw [if_neg hbound]
    simp only [hbound, Bool.and_eq_true, beq_iff_eq, Bool.false_eq_true, false_or, and_assoc]
    split
    · rename_i hlast
      exact ⟨fun _ => hlast, fun _ => rfl⟩
    · rename_i hlast
      exact ⟨fun hnone => (Bool.false_ne_true hnone).elim, fun h => absurd h hlast⟩

/-- One removal. -/
theorem removeGlobal_error_isSome (events : List WaylandEvent) (name : UInt32) :
    (after (events ++ [.globalRemove name])).error.isSome = true
      ↔ EndsProvider events name ∨ (after events).error.isSome = true := by
  rw [after_concat, ← removal_error_isSome]
  show (Option.or _ _).isSome = true ↔ _
  rw [Option.isSome_or, Bool.or_eq_true]

/-- The error is there as soon as a removal has ended the provider. -/
theorem error_isSome_iff (events : List WaylandEvent) :
    (after events).error.isSome = true ↔ ∃ before name later,
      events = before ++ .globalRemove name :: later ∧ EndsProvider before name := by
  induction events using List.reverseRecOn with
  | nil =>
    constructor
    · intro h
      cases h
    · rintro ⟨before, name, later, hevents, -⟩
      simp at hevents
  | append_singleton events event ih =>
    -- the removal is the last event, or it was there before
    have hsplit : (∃ before name later, events ++ [event] = before ++ .globalRemove name :: later
        ∧ EndsProvider before name) ↔
        (∃ name, event = .globalRemove name ∧ EndsProvider events name)
          ∨ (after events).error.isSome = true := by
      rw [ih]
      constructor
      · rintro ⟨before, name, later, hevents, hends⟩
        rcases List.eq_nil_or_concat later with rfl | ⟨later, last, rfl⟩
        · obtain ⟨rfl, hlast⟩ := List.append_inj' hevents rfl
          exact .inl ⟨name, List.head_eq_of_cons_eq hlast, hends⟩
        · rw [List.concat_eq_append, ← List.cons_append, ← List.append_assoc] at hevents
          obtain ⟨rfl, -⟩ := List.append_inj' hevents rfl
          exact .inr ⟨before, name, later, rfl, hends⟩
      · rintro (⟨name, rfl, hends⟩ | ⟨before, name, later, rfl, hends⟩)
        · exact ⟨events, name, [], rfl, hends⟩
        · exact ⟨before, name, later ++ [event], by simp, hends⟩
    rw [hsplit]
    by_cases hremove : ∃ name, event = .globalRemove name
    · obtain ⟨name, rfl⟩ := hremove
      rw [removeGlobal_error_isSome]
      constructor
      · exact Or.imp_left fun hends => ⟨name, rfl, hends⟩
      · rintro (⟨name', heq, hends⟩ | herror)
        · cases heq
          exact .inl hends
        · exact .inr herror
    · rw [after_concat, step_error _ _ fun name heq => hremove ⟨name, heq⟩]
      exact ⟨.inr, fun hor => hor.resolve_left fun ⟨name, heq, _⟩ => hremove ⟨name, heq⟩⟩

/-! ## The laws -/

/-- A seat's notifications that were asked for and not destroyed. -/
def LiveNotification (events : List WaylandEvent) (name : UInt32) (proxy : WaylandProxy) : Prop :=
  .getInputIdleNotification name proxy ∈ acts events ∧ .destroy proxy ∉ acts events

/-- The live notification of a seat is the one that its binding holds. -/
theorem liveNotification_iff (events : List WaylandEvent) (name : UInt32) (proxy : WaylandProxy) :
    LiveNotification events name proxy ↔
      ∃ binding, (after events).seats.lookup name = some binding
        ∧ binding.inputNotification = some proxy := by
  have hnotifications := (bindings_after events).notifications
  constructor
  · rintro ⟨hmade, hlive⟩
    exact (hnotifications.created name proxy hmade).resolve_left hlive
  · rintro ⟨binding, hlookup, hcurrent⟩
    exact hnotifications.current name binding proxy hlookup hcurrent

/-- A notification that is not the one of a binding says nothing. -/
theorem notified_stale {events : List WaylandEvent} {proxy : WaylandProxy}
    (hdestroyed : .destroy proxy ∈ acts events) (seat : UInt32) (resumed : Bool) (now : Instant)
    (taken : Bool) : ((after events).step (.notification proxy seat resumed now taken)).2 = [] := by
  have hcurrent : (((after events).seats.lookup seat).bind (·.inputNotification) = some proxy
      && resumed) = false := by
    rw [Bool.and_eq_false_iff]
    left
    rw [decide_eq_false_iff_not, Option.bind_eq_some_iff]
    intro hheld
    exact ((liveNotification_iff events seat proxy).2 hheld).2 hdestroyed
  show ((after events).notified proxy seat resumed now taken).2 = []
  unfold WaylandProviderState.notified
  dsimp only
  rw [hcurrent]
  rfl

/-- What was made for a seat is destroyed when the seat is removed. -/
theorem destroyed_of_removed {before : List WaylandEvent} {name : UInt32} {proxy : WaylandProxy}
    (hmade : .getInputIdleNotification name proxy ∈ acts before) (later : List WaylandEvent) :
    .destroy proxy ∈ acts (before ++ .globalRemove name :: later) := by
  have hremoved : .destroy proxy ∈ acts (before ++ [.globalRemove name]) := by
    rcases (bindings_after _).notifications.created name proxy
      (mem_acts_append hmade [.globalRemove name]) with hdestroyed | ⟨binding, hlookup, -⟩
    · exact hdestroyed
    · rw [after_concat] at hlookup
      have herased : ((after before).seats.erase name).lookup name = some binding := hlookup
      rw [AList.lookup_erase] at herased
      cases herased
  have hlater := mem_acts_append hremoved later
  rwa [List.append_assoc, List.singleton_append] at hlater

end WaylandProviderState

open WaylandProviderState in
/-- **The seat registry.** After any events, the bound seats are the advertised ones; each has
exactly one live notification when the notifier is bound, and none otherwise; the terminal error is
there exactly when the bound notifier was removed or, once initialized, the last seat; and what was
made for a removed seat publishes nothing. -/
theorem wayland_seat_registry (events : List WaylandEvent) :
    (∀ name, name ∈ (after events).seats ↔ advertisedSeats events name = true)
      ∧ (∀ name ∈ (after events).seats,
        ((∃ bound version proxy, .bindIdleNotifier bound version proxy ∈ acts events) →
          ∃! proxy, LiveNotification events name proxy)
        ∧ ((¬∃ bound version proxy, .bindIdleNotifier bound version proxy ∈ acts events) →
          ∀ proxy, ¬LiveNotification events name proxy))
      ∧ ((after events).error.isSome = true ↔ ∃ before name later,
        events = before ++ .globalRemove name :: later ∧ EndsProvider before name)
      ∧ ∀ before name later, events = before ++ .globalRemove name :: later →
        ∀ proxy, .getInputIdleNotification name proxy ∈ acts before →
          ∀ seat resumed now taken,
            ((after events).step (.notification proxy seat resumed now taken)).2 = [] := by
  have hbindings := bindings_after events
  -- the notifier is held exactly where it was bound
  have hnotifier : (after events).idleNotifier.isSome = true
      ↔ ∃ bound version proxy, .bindIdleNotifier bound version proxy ∈ acts events := by
    rw [Option.isSome_iff_exists]
    constructor
    · rintro ⟨⟨bound, proxy⟩, hsome⟩
      obtain ⟨version, hmem⟩ := (notifierBound_after events bound proxy).1 hsome
      exact ⟨bound, version, proxy, hmem⟩
    · rintro ⟨bound, version, proxy, hmem⟩
      exact ⟨(bound, proxy), (notifierBound_after events bound proxy).2 ⟨version, hmem⟩⟩
  refine ⟨hbindings.seats, fun name hname => ?_, error_isSome_iff events, ?_⟩
  · obtain ⟨binding, hlookup⟩ := Option.isSome_iff_exists.1 (AList.lookup_isSome.2 hname)
    have hattached := hbindings.attached name binding hlookup
    rw [← hnotifier, ← hattached]
    constructor
    · intro hsome
      obtain ⟨proxy, hproxy⟩ := Option.isSome_iff_exists.1 hsome
      refine ⟨proxy, (liveNotification_iff events name proxy).2 ⟨binding, hlookup, hproxy⟩, ?_⟩
      intro other hother
      obtain ⟨binding', hlookup', hother'⟩ := (liveNotification_iff events name other).1 hother
      rw [hlookup] at hlookup'
      cases hlookup'
      rw [hproxy] at hother'
      exact (Option.some.inj hother').symm
    -- without it no seat has a notification
    · intro hnone proxy hlive
      obtain ⟨binding', hlookup', hproxy⟩ := (liveNotification_iff events name proxy).1 hlive
      rw [hlookup] at hlookup'
      cases hlookup'
      rw [hproxy] at hnone
      exact hnone rfl
  · rintro before name later rfl proxy hmade seat resumed now taken
    exact notified_stale (destroyed_of_removed hmade later) seat resumed now taken

end LgBuddy
