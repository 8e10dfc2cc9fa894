import LgBuddy.Lifecycle.LockSignals
import Mathlib.Data.List.Chain

/-!
# LgBuddy — the lock observer is faithful

A forged or a stale lock edge blanks or unblanks the TV. The observer is judged from outside, by
the messages and replies it gets and by what it publishes.

* `Alternates` — Lock, Unlock, Lock, … from Lock on;
* `HintWatch` — what a spectator knows: the owner and the session that the replies named, the
  latest accepted value, the events;
* `answered_…` — what each reply tells; `receive_…` — what each message does;
* one specification for each part of the observer, and `lock_observer_faithful` for the run.
-/

namespace LgBuddy

open Program LockM

/-! ## Events -/

/-- Lock, Unlock, Lock, … -/
structure Alternates (events : List SessionEvent) : Prop where
  edges : ∀ e ∈ events, e = .lock ∨ e = .unlock
  starts : ∀ e ∈ events.head?, e = .lock
  turns : events.IsChain (· ≠ ·)

/-- The state that the events speak of: unlocked when there are none. -/
def impliedLocked (events : List SessionEvent) : Bool := events.getLast? = some .lock

/-- The event that says so. -/
def lockEdge (locked : Bool) : SessionEvent := if locked then .lock else .unlock

/-- After an edge the events speak of it. -/
@[simp] theorem impliedLocked_concat (events : List SessionEvent) (locked : Bool) :
    impliedLocked (events ++ [lockEdge locked]) = locked := by
  cases locked <;> simp [impliedLocked, lockEdge]

theorem Alternates.nil : Alternates [] := ⟨List.forall_mem_nil _, nofun, List.isChain_nil⟩

/-- An edge to the other state goes on with the alternation. -/
theorem Alternates.concat {events : List SessionEvent} (h : Alternates events) {locked : Bool}
    (hedge : impliedLocked events ≠ locked) : Alternates (events ++ [lockEdge locked]) where
  edges e he := by
    cases List.mem_append.mp he with
    | inl he => exact h.edges e he
    | inr he =>
      rw [List.mem_singleton.mp he]
      cases locked with
      | true => exact .inl rfl
      | false => exact .inr rfl
  starts e he := by
    cases events with
    | cons first rest => exact h.starts e he
    | nil =>
      cases locked with
      | true => exact (Option.some.inj he).symm
      | false => exact absurd rfl hedge
  turns := by
    refine List.isChain_append.mpr ⟨h.turns, List.isChain_singleton _, fun last hlast e he => ?_⟩
    have hmem : last ∈ events := List.mem_of_getLast? hlast
    have hlast' : events.getLast? = some last := hlast
    have he' : lockEdge locked = e := Option.some.inj he
    subst he'
    unfold impliedLocked at hedge
    rw [hlast'] at hedge
    cases locked with
    | true =>
      intro heq
      rw [heq] at hedge
      exact hedge rfl
    | false =>
      cases h.edges last hmem with
      | inl hlock => rw [hlock]; exact nofun
      | inr hunlock => rw [hunlock] at hedge; exact absurd rfl hedge

/-! ## The spectator -/

/-- A read of a property. -/
def BusMethodCall.readsProperty (request : BusMethodCall) : Bool :=
  request.interface = dbusPropertiesInterface && request.member = "Get"

/-- The paths of the user's sessions in logind's list of all sessions. -/
def sessionPaths (currentUid : UInt32) : List BusValue → List String
  | [] => []
  | .struct [.string _, .u32 uid, .string _, .string _, .objectPath path] :: rest =>
    if uid = currentUid then path :: sessionPaths currentUid rest else sessionPaths currentUid rest
  | _ :: rest => sessionPaths currentUid rest

/-- The reply says that the session is the user's, local, active and graphical. -/
def SaysEligible (currentUid : UInt32) (reply : BusReply) : Prop :=
  ∃ properties, propertiesOfReply reply = .ok properties
    ∧ properties.isEligibleForUid currentUid = true

structure HintWatch where
  /-- The owner of logind's name, as the bus named it, until it says that there is none. -/
  owner : Option String := none
  /-- The sessions that logind named when it was last asked, and those found eligible. -/
  named : List String := []
  found : List String := []
  /-- The signals that the bus is asked to deliver. -/
  rules : List BusSignalMatch := []
  /-- The latest accepted value. -/
  latest : Option Bool := none
  /-- The value is to be read: for a binding, or because the last message invalidated it. -/
  reading : Bool := true
  events : List SessionEvent := []

namespace HintWatch

/-- The session to follow: the only one that was found eligible. -/
def Bound (k : HintWatch) (sessionPath : String) : Prop := k.found = [sessionPath]

/-- A change of the bound session's hint, sent by the owner of logind's name. -/
def Hears (k : HintWatch) (signal : BusSignal) (change : LockedHintChange) : Prop :=
  ∃ logindOwner sessionPath, k.owner = some logindOwner ∧ k.Bound sessionPath
    ∧ SaysHint logindOwner sessionPath signal change

/-- A message that is to have no effect: the loss of logind, or one that is neither a change of
its owner nor, while it has one, a change of the hint. -/
def Ignores (k : HintWatch) (signal : BusSignal) : Prop :=
  AnnouncesLogind signal none
    ∨ (∀ newOwner, ¬AnnouncesLogind signal newOwner) ∧ ∀ change, ¬k.Hears signal change

open Classical in
/-- What a message does. -/
noncomputable def receive (k : HintWatch) (signal : BusSignal) : HintWatch :=
  if AnnouncesLogind signal none then { k with owner := none, reading := false }
  else if ∃ name, AnnouncesLogind signal (some name) then { k with reading := true }
  else if k.Hears signal (.changed true) then { k with latest := some true, reading := false }
  else if k.Hears signal (.changed false) then { k with latest := some false, reading := false }
  else if k.Hears signal .invalidated then { k with reading := true }
  else { k with reading := false }

section

variable (explicitSessionId : Option String) (currentUid : UInt32)

open Classical in
/-- What a reply tells: the session that was asked for or the list of them, whether one of them is
eligible, the owner of logind's name, and the hint of the bound session. -/
noncomputable def answered (k : HintWatch) (request : BusMethodCall) (reply : BusReply) :
    HintWatch :=
  if ∃ id, explicitSessionId = some id ∧ request = getSessionCall id then
    match reply.body with
    | [.objectPath path] => { k with named := [path], found := [] }
    | _ => k
  else if request = listSessionsCall then
    match reply.body with
    | [.array entries] => { k with named := sessionPaths currentUid entries, found := [] }
    | _ => k
  else if request = getAllCall ⟨"", request.path⟩ then
    if request.path ∈ k.named ∧ SaysEligible currentUid reply then
      { k with found := k.found ++ [request.path] }
    else k
  else if request = getNameOwnerCall logindServiceName then
    match reply.body with
    | [.string owner] => { k with owner := some owner }
    | _ => k
  else if request = lockedHintCall ⟨"", request.path⟩ ∧ k.Bound request.path then
    match reply.body with
    | [.bool locked] | [.variant (.bool locked)] =>
      { k with latest := some locked, reading := false }
    | _ => k
  else k

noncomputable def note (k : HintWatch) : (c : LockCall) → LockReply c → HintWatch
  | .addSignalMatch rule, .ok () => { k with rules := rule :: k.rules }
  | .callMethod request, .ok reply => k.answered explicitSessionId currentUid request reply
  | .process _, .ok (some signal) => k.receive signal
  | .publish (.event e _), _ => { k with events := k.events ++ [e] }
  | _, _ => k

end

/-- The events speak of the latest accepted value. -/
structure Told (k : HintWatch) : Prop where
  alternates : Alternates k.events
  latest : k.latest.getD false = impliedLocked k.events

/-- The bus delivers the changes of logind's owner and, while there is one, those of the bound
session. -/
structure Listens (k : HintWatch) : Prop where
  ownerRule : logindOwnerSignalMatch ∈ k.rules
  hintRule : ∃ sessionPath, k.Bound sessionPath
    ∧ ∀ logindOwner ∈ k.owner, lockedHintSignalMatch sessionPath logindOwner ∈ k.rules

/-- Between two messages the events speak of the latest accepted value, none is left to be read, and
the observer listens. A property is read only when the value is to be read, for the bound session
and with its changes already subscribed to; and an edge is published only when the events do not
speak of the latest accepted value, which is what it says. -/
def permits (k : HintWatch) (c : LockCall) : Prop :=
  ((c = .stopped ∨ ∃ timeout, c = .process timeout) →
      k.latest = some (impliedLocked k.events) ∧ k.reading = false ∧ k.Listens)
    ∧ (∀ request, c = .callMethod request → request.readsProperty = true →
        k.reading = true ∧ k.owner.isSome = true ∧ k.Listens
          ∧ ∃ session, request = lockedHintCall session ∧ k.Bound session.path)
    ∧ (∀ observation, c = .publish observation →
        ∃ locked observedAt, observation = .event (lockEdge locked) observedAt
          ∧ k.latest = some locked ∧ impliedLocked k.events ≠ locked)

noncomputable def contract (explicitSessionId : Option String) (currentUid : UInt32) :
    Contract LockCall LockReply HintWatch :=
  .observed permits (note explicitSessionId currentUid)

/-- Whether the events tell the truth depends on them and on the accepted value. -/
theorem Told.of_eq {k k' : HintWatch} (h : k.Told) (hevents : k'.events = k.events)
    (hlatest : k'.latest = k.latest) : k'.Told where
  alternates := by rw [hevents]; exact h.alternates
  latest := by rw [hevents, hlatest]; exact h.latest

/-! ## What a reply tells -/

section

variable {explicitSessionId : Option String} {currentUid : UInt32} {k : HintWatch}

/-- A session that was asked for is the one named. -/
theorem answered_getSession {id path : String} (hid : explicitSessionId = some id)
    {reply : BusReply} (hreply : reply.body = [.objectPath path]) :
    k.answered explicitSessionId currentUid (getSessionCall id) reply
      = { k with named := [path], found := [] } := by
  unfold answered
  rw [if_pos ⟨id, hid, rfl⟩, hreply]

/-- The list names all sessions of the user. -/
theorem answered_listSessions {entries : List BusValue} {reply : BusReply}
    (hreply : reply.body = [.array entries]) :
    k.answered explicitSessionId currentUid listSessionsCall reply
      = { k with named := sessionPaths currentUid entries, found := [] } := by
  unfold answered
  rw [if_neg (by simp [listSessionsCall, getSessionCall]), if_pos rfl, hreply]

/-- A named session is found if its properties make it eligible. -/
theorem answered_getAll (session : LogindSession) (reply : BusReply)
    (hnamed : session.path ∈ k.named) :
    ∃ found, k.answered explicitSessionId currentUid (getAllCall session) reply
        = { k with found := found }
      ∧ ∀ properties, propertiesOfReply reply = .ok properties →
        found = if properties.isEligibleForUid currentUid = true then k.found ++ [session.path]
          else k.found := by
  unfold answered
  rw [if_neg (by simp [getAllCall, getSessionCall]),
    if_neg (by simp [getAllCall, listSessionsCall]), if_pos (by rfl)]
  by_cases heligible : SaysEligible currentUid reply
  · rw [if_pos ⟨hnamed, heligible⟩]
    refine ⟨_, rfl, fun properties hproperties => ?_⟩
    obtain ⟨properties', hproperties', heligible⟩ := heligible
    cases hproperties.symm.trans hproperties'
    exact (if_pos heligible).symm
  · rw [if_neg fun h => heligible h.2]
    exact ⟨k.found, rfl, fun properties hproperties =>
      (if_neg fun h => heligible ⟨properties, hproperties, h⟩).symm⟩

/-- The owner is the one that the bus names. -/
theorem answered_getNameOwner {owner : String} {reply : BusReply}
    (hreply : reply.body = [.string owner]) :
    k.answered explicitSessionId currentUid (getNameOwnerCall logindServiceName) reply
      = { k with owner := some owner } := by
  unfold answered
  rw [if_neg (by simp [getNameOwnerCall, getSessionCall]),
    if_neg (by simp [getNameOwnerCall, listSessionsCall]),
    if_neg (by simp [getNameOwnerCall, getAllCall]), if_pos rfl, hreply]

/-- A value that was read for the bound session is accepted. -/
theorem answered_lockedHint {session : LogindSession} {locked : Bool} {reply : BusReply}
    (hbound : k.Bound session.path) (hreply : reply.singleBool = .ok locked) :
    k.answered explicitSessionId currentUid (lockedHintCall session) reply
      = { k with latest := some locked, reading := false } := by
  have hbody : reply.body = [.bool locked] ∨ reply.body = [.variant (.bool locked)] := by
    unfold BusReply.singleBool at hreply
    split at hreply
    · cases hreply
      exact .inl ‹_›
    · cases hreply
      exact .inr ‹_›
    all_goals cases hreply
  unfold answered
  rw [if_neg (by simp [lockedHintCall, getSessionCall]),
    if_neg (by simp [lockedHintCall, listSessionsCall]),
    if_neg (by simp [lockedHintCall, getAllCall]),
    if_neg (by simp [lockedHintCall, getNameOwnerCall]), if_pos ⟨rfl, hbound⟩]
  cases hbody with
  | inl hbody => rw [hbody]
  | inr hbody => rw [hbody]

/-- A reply of another shape says nothing. -/
theorem answered_lockedHint_error {session : LogindSession} {reply : BusReply}
    {err : SessionBusError} (hreply : reply.singleBool = .error err) :
    k.answered explicitSessionId currentUid (lockedHintCall session) reply = k := by
  have hbody : ∀ locked, reply.body ≠ [.bool locked] ∧ reply.body ≠ [.variant (.bool locked)] := by
    refine fun locked => ⟨fun h => ?_, fun h => ?_⟩
    all_goals
      unfold BusReply.singleBool at hreply
      rw [h] at hreply
      cases hreply
  unfold answered
  rw [if_neg (by simp [lockedHintCall, getSessionCall]),
    if_neg (by simp [lockedHintCall, listSessionsCall]),
    if_neg (by simp [lockedHintCall, getAllCall]),
    if_neg (by simp [lockedHintCall, getNameOwnerCall])]
  split
  · split
    · exact absurd ‹_› (hbody _).1
    · exact absurd ‹_› (hbody _).2
    · rfl
  · rfl

/-- No reply publishes, and only that to a read of a property is a value. -/
theorem answered_keeps (request : BusMethodCall) (reply : BusReply) :
    (k.answered explicitSessionId currentUid request reply).events = k.events
      ∧ (request.readsProperty = false →
        (k.answered explicitSessionId currentUid request reply).latest = k.latest
          ∧ (k.answered explicitSessionId currentUid request reply).reading = k.reading) := by
  unfold answered
  split
  · split <;> exact ⟨rfl, fun _ => ⟨rfl, rfl⟩⟩
  split
  · split <;> exact ⟨rfl, fun _ => ⟨rfl, rfl⟩⟩
  split
  · split <;> exact ⟨rfl, fun _ => ⟨rfl, rfl⟩⟩
  split
  · split <;> exact ⟨rfl, fun _ => ⟨rfl, rfl⟩⟩
  split
  · rename_i hread
    have hreads : request.readsProperty = true := by
      rw [hread.1]
      simp [BusMethodCall.readsProperty, lockedHintCall]
    rw [hreads]
    split <;> exact ⟨rfl, nofun⟩
  · exact ⟨rfl, fun _ => ⟨rfl, rfl⟩⟩

/-! ## What a message does -/

/-- The loss of logind leaves nothing to read. -/
theorem receive_lost {signal : BusSignal} (h : AnnouncesLogind signal none) :
    k.receive signal = { k with owner := none, reading := false } := by
  unfold receive
  rw [if_pos h]

/-- A new owner leaves the value to be read again. -/
theorem receive_owned {signal : BusSignal} {name : String}
    (h : AnnouncesLogind signal (some name)) : k.receive signal = { k with reading := true } := by
  unfold receive
  rw [if_neg fun hlost => Option.some_ne_none name (h.unique hlost), if_pos (Exists.intro name h)]

/-- A message that says one thing of the hint does not say another. -/
theorem Hears.other {signal : BusSignal} {change change' : LockedHintChange}
    (h : k.Hears signal change) (hne : change ≠ change') : ¬k.Hears signal change' := by
  intro h'
  obtain ⟨owner, path, howner, hbound, hsaid⟩ := h
  obtain ⟨owner', path', howner', hbound', hsaid'⟩ := h'
  cases howner.symm.trans howner'
  cases hbound.symm.trans hbound'
  exact hne (hsaid.unique hsaid')

/-- What a message does that says nothing of logind's owner. -/
theorem receive_other {signal : BusSignal} (hother : ∀ newOwner, ¬AnnouncesLogind signal newOwner) :
    (∀ locked, k.Hears signal (.changed locked) →
        k.receive signal = { k with latest := some locked, reading := false })
      ∧ (k.Hears signal .invalidated → k.receive signal = { k with reading := true })
      ∧ ((∀ change, ¬k.Hears signal change) → k.receive signal = { k with reading := false }) := by
  have howned : ¬∃ name, AnnouncesLogind signal (some name) :=
    not_exists.mpr fun name => hother (some name)
  unfold receive
  rw [if_neg (hother none), if_neg howned]
  refine ⟨fun locked h => ?_, fun h => ?_, fun h => ?_⟩
  · cases locked with
    | true => exact if_pos h
    | false => rw [if_neg (h.other (by decide)), if_pos h]
  · rw [if_neg (h.other (by decide)), if_neg (h.other (by decide)), if_pos h]
  · rw [if_neg (h _), if_neg (h _), if_neg (h _)]

/-- No message publishes anything by itself. -/
theorem receive_events (signal : BusSignal) : (k.receive signal).events = k.events := by
  unfold receive
  split
  · rfl
  split
  · rfl
  split
  · rfl
  split
  · rfl
  split <;> rfl

end

end HintWatch

/-! ## Calls -/

section

variable {explicitSessionId : Option String} {currentUid : UInt32} {k : HintWatch}
  {E : LogindSessionError → HintWatch → Prop}

/-- One call: it is permitted, and the spectator notes its reply. -/
theorem wpE_lockAsk {c : LockCall} {Q : LockReply c → HintWatch → Prop} (hc : k.permits c)
    (h : ∀ r, Q r (k.note explicitSessionId currentUid c r)) :
    wpE (HintWatch.contract explicitSessionId currentUid) (ask c) Q E k := by
  refine wpE_lift.mpr ((wp_perform c).mpr ⟨hc, fun r k' hk' => ?_⟩)
  rw [show k' = k.note explicitSessionId currentUid c r from hk']
  exact h r

/-- A method call that reads no property. -/
theorem wpE_lockCall {request : BusMethodCall} {Q : BusReply → HintWatch → Prop}
    (hrequest : request.readsProperty = false)
    (hQ : ∀ reply, Q reply (k.answered explicitSessionId currentUid request reply))
    (hE : ∀ err, E err k) :
    wpE (HintWatch.contract explicitSessionId currentUid) (callMethod request) Q E k := by
  refine wpE_bind.mpr (wpE_lockAsk ⟨nofun, ?_, nofun⟩ fun r => ?_)
  · rintro _ ⟨⟩ hreads
    rw [hrequest] at hreads
    cases hreads
  · cases r with
    | error err => exact hE _
    | ok reply => exact hQ reply

/-- A bus call whose reply has to have a shape. -/
theorem wpE_lockCallFor {α : Type} {request : BusMethodCall}
    {shape : BusReply → Except SessionBusError α} {Q : α → HintWatch → Prop}
    (hrequest : request.readsProperty = false)
    (hQ : ∀ reply a, shape reply = .ok a →
      Q a (k.answered explicitSessionId currentUid request reply))
    (hE : ∀ err k', k'.events = k.events → k'.latest = k.latest → E err k') :
    wpE (HintWatch.contract explicitSessionId currentUid) (callFor request shape) Q E k := by
  refine wpE_bind.mpr (wpE_lockCall hrequest (fun reply => ?_) fun err => hE err k rfl rfl)
  cases hshape : shape reply with
  | ok a => exact hQ reply a hshape
  | error err =>
    obtain ⟨hevents, hlatest⟩ :=
      @HintWatch.answered_keeps explicitSessionId currentUid k request reply
    exact hE _ _ hevents (hlatest hrequest).1

/-! ## The session to follow -/

/-- The properties of a named session say whether it is found. -/
theorem wpE_sessionProperties {session : LogindSession} (hnamed : session.path ∈ k.named)
    {Q : LogindSessionProperties → HintWatch → Prop}
    (hQ : ∀ properties, Q properties { k with
      found := if properties.isEligibleForUid currentUid = true then k.found ++ [session.path]
        else k.found })
    (hE : ∀ err found, E err { k with found := found }) :
    wpE (HintWatch.contract explicitSessionId currentUid) (sessionProperties session) Q E k := by
  refine wpE_bind.mpr (wpE_lockCall rfl (fun reply => ?_) fun err => hE err k.found)
  obtain ⟨found, hanswered, hfound⟩ :=
    @HintWatch.answered_getAll explicitSessionId currentUid k session reply hnamed
  rw [hanswered]
  cases hproperties : propertiesOfReply reply with
  | error err => exact hE err found
  | ok properties =>
    rw [hfound properties hproperties]
    exact hQ properties

/-- Of the sessions in the list exactly the eligible ones of the user are found. -/
theorem wpE_eligibleSessions {entries : List BusValue}
    (hnamed : ∀ path ∈ sessionPaths currentUid entries, path ∈ k.named)
    {Q : List LogindSession → HintWatch → Prop}
    (hQ : ∀ sessions, Q sessions { k with found := k.found ++ sessions.map (·.path) })
    (hE : ∀ err found, E err { k with found := found }) :
    wpE (HintWatch.contract explicitSessionId currentUid) (eligibleSessions currentUid entries) Q E
      k := by
  induction entries generalizing Q k with
  | nil =>
    have hnone := hQ []
    rw [List.map_nil, List.append_nil] at hnone
    exact hnone
  | cons entry rest ih =>
    unfold eligibleSessions
    split
    · cases ‹_ = _›
    · rename_i heq
      obtain ⟨rfl, rfl⟩ := List.cons.inj heq
      split
      · rename_i id uid name seat path
        unfold sessionPaths at hnamed
        split
        · rename_i huid
          rw [if_neg huid] at hnamed
          exact ih hnamed hQ hE
        · rename_i huid
          rw [if_pos (not_not.mp huid)] at hnamed
          obtain ⟨hpath, hrest⟩ := List.forall_mem_cons.mp hnamed
          refine wpE_bind.mpr (wpE_sessionProperties hpath (fun properties => ?_) hE)
          split
          · refine wpE_bind.mpr (ih ?_ (fun sessions => ?_) hE)
            · exact hrest
            · have hmore := hQ ({ id, path } :: sessions)
              rw [List.map_cons, List.append_cons] at hmore
              exact hmore
          · exact ih hrest hQ hE
      · exact hE _ k.found
    · exact hE _ k.found

/-- The session that the replies single out is bound. -/
theorem wpE_resolveSession {Q : LogindSession → HintWatch → Prop}
    (hQ : ∀ session named, Q session { k with named := named, found := [session.path] })
    (hE : ∀ err k', k'.events = k.events → k'.latest = k.latest → E err k') :
    wpE (HintWatch.contract explicitSessionId currentUid)
      (resolveCurrentGraphicalSession explicitSessionId currentUid) Q E k := by
  unfold resolveCurrentGraphicalSession
  split
  · rename_i id hid
    have hsome : explicitSessionId = some id := (Option.filter_eq_some_iff.mp hid).1
    refine wpE_bind.mpr (wpE_lockCallFor rfl (fun reply path hshape => ?_) hE)
    have hbody : reply.body = [.objectPath path] := by
      unfold BusReply.singleObjectPath at hshape
      split at hshape
      · cases hshape
        exact ‹_›
      all_goals cases hshape
    rw [HintWatch.answered_getSession hsome hbody]
    refine wpE_bind.mpr (wpE_sessionProperties (List.mem_singleton_self _) (fun properties => ?_)
      fun err found => hE err _ rfl rfl)
    split
    · exact hQ { id, path } [path]
    · exact hE _ _ rfl rfl
  · refine wpE_bind.mpr (wpE_lockCall rfl (fun reply => ?_) fun err => hE err k rfl rfl)
    split
    · rename_i entries hbody
      rw [HintWatch.answered_listSessions hbody]
      refine wpE_bind.mpr (wpE_eligibleSessions (fun path hpath => hpath) (fun sessions => ?_)
        fun err found => hE err _ rfl rfl)
      split
      · exact hE _ _ rfl rfl
      · exact hQ _ _
      · exact hE _ _ rfl rfl
    · obtain ⟨hevents, hlatest⟩ :=
        @HintWatch.answered_keeps explicitSessionId currentUid k listSessionsCall reply
      exact hE _ _ hevents (hlatest rfl).1

/-! ## Binding -/

/-- The value that is to be read is accepted when it has been read. -/
theorem wpE_lockedHint {session : LogindSession} {Q : Bool → HintWatch → Prop}
    (hreading : k.reading = true) (howner : k.owner.isSome = true) (hlistens : k.Listens)
    (hbound : k.Bound session.path)
    (hQ : ∀ locked, Q locked { k with latest := some locked, reading := false })
    (hE : ∀ err, E err k) :
    wpE (HintWatch.contract explicitSessionId currentUid) (lockedHint session) Q E k := by
  unfold lockedHint callFor callMethod
  refine wpE_bind.mpr (wpE_bind.mpr (wpE_lockAsk ⟨nofun, ?_, nofun⟩ fun r => ?_))
  · rintro _ ⟨⟩ -
    exact ⟨hreading, howner, hlistens, session, rfl, hbound⟩
  · cases r with
    | error err => exact hE _
    | ok reply =>
      refine (wpE_pure reply).mpr ?_
      cases hshape : reply.singleBool with
      | ok locked =>
        show wpE _ _ _ _ (k.answered explicitSessionId currentUid (lockedHintCall session) reply)
        rw [HintWatch.answered_lockedHint hbound hshape]
        exact hQ locked
      | error err =>
        show E _ (k.answered explicitSessionId currentUid (lockedHintCall session) reply)
        rw [HintWatch.answered_lockedHint_error hshape]
        exact hE _

/-- A binding ends with the target and its value, or changes no more than the target. -/
theorem wpE_bindLockTarget {Q : LogindSession × String × Bool → HintWatch → Prop}
    (hreading : k.reading = true) (hrule : logindOwnerSignalMatch ∈ k.rules)
    (hQ : ∀ session owner locked named,
      let k' : HintWatch :=
        { k with owner := some owner, named := named, found := [session.path]
                 rules := lockedHintSignalMatch session.path owner :: k.rules
                 latest := some locked, reading := false }
      k'.Listens → Q (session, owner, locked) k')
    (hE : ∀ err k', k'.events = k.events → k'.latest = k.latest → E err k') :
    wpE (HintWatch.contract explicitSessionId currentUid)
      (bindLockTarget explicitSessionId currentUid) Q E k := by
  unfold bindLockTarget
  refine wpE_bind.mpr (wpE_resolveSession (fun session named => ?_) hE)
  refine wpE_bind.mpr (wpE_lockCallFor rfl (fun reply owner hshape => ?_) hE)
  have hbody : reply.body = [.string owner] := by
    unfold BusReply.singleString at hshape
    split at hshape
    · cases hshape
      exact ‹_›
    all_goals cases hshape
  rw [HintWatch.answered_getNameOwner hbody]
  refine wpE_bind.mpr (wpE_bind.mpr (wpE_lockAsk ⟨nofun, nofun, nofun⟩ fun r => ?_))
  cases r with
  | error err => exact hE _ _ rfl rfl
  | ok _ =>
    have hlistens : HintWatch.Listens
        { k with owner := some owner, named := named, found := [session.path]
                 rules := lockedHintSignalMatch session.path owner :: k.rules } := by
      refine ⟨List.mem_cons_of_mem _ hrule, session.path, rfl, fun logindOwner howner => ?_⟩
      cases howner
      exact List.mem_cons_self
    refine (wpE_pure ()).mpr (wpE_bind.mpr
      (wpE_lockedHint hreading rfl hlistens rfl (fun locked => ?_) ?_))
    · exact (wpE_pure _).mpr
        (hQ session owner locked named ⟨hlistens.ownerRule, hlistens.hintRule⟩)
    · exact fun err => hE err _ rfl rfl

/-! ## Publishing -/

/-- The observer's variables against the spectator, between two turns. -/
structure HintFollows (s : LockState) (k : HintWatch) : Prop where
  owner : k.owner = s.logindOwner
  bound : k.Bound s.session.path
  listens : k.Listens
  reading : k.reading = false
  tracker : k.latest = s.tracker.locked
  latest : k.latest = some (impliedLocked k.events)
  alternates : Alternates k.events

/-- An observer that follows has told the accepted value. -/
theorem HintFollows.told {s : LockState} (h : HintFollows s k) : k.Told where
  alternates := h.alternates
  latest := by rw [h.latest]; rfl

/-- What has been published is what the tracker has seen. -/
theorem HintFollows.tracked {s : LockState} (h : HintFollows s k) :
    s.tracker.locked.getD false = impliedLocked k.events := by
  rw [← h.tracker]
  exact h.told.latest

/-- Before the accepted value `locked` is published. -/
structure Owes (s : LockState) (locked : Bool) (k : HintWatch) : Prop where
  owner : k.owner = s.logindOwner
  bound : k.Bound s.session.path
  listens : k.Listens
  reading : k.reading = false
  latest : k.latest = some locked
  tracker : s.tracker.locked.getD false = impliedLocked k.events
  alternates : Alternates k.events

/-- After a turn: what has been published speaks of the latest accepted value, and the state to go
on with, if any, follows. -/
def LockTurned (next : Option LockState) (k : HintWatch) : Prop :=
  k.Told ∧ ∀ s ∈ next, HintFollows s k

/-- The turn ends and the observer goes on. -/
theorem HintFollows.turned {s : LockState} (h : HintFollows s k) : LockTurned (some s) k := by
  refine ⟨h.told, fun s' hs' => ?_⟩
  cases hs'
  exact h

/-- The tracker gives an edge exactly if the value is another than the one it had. -/
theorem LockedHintTracker.observe_eq (tracker : LockedHintTracker) (locked : Bool) :
    tracker.observe locked
      = (if tracker.locked.getD false = locked then none else some (lockEdge locked),
          ⟨some locked⟩) := by
  obtain ⟨_ | previous⟩ := tracker
  · cases locked <;> rfl
  · cases previous <;> cases locked <;> rfl

/-- The accepted value is published if the events do not speak of it yet. -/
theorem wpE_publishAndGoOn {s : LockState} {locked : Bool} (h : Owes s locked k) :
    wpE (HintWatch.contract explicitSessionId currentUid) (publishAndGoOn s locked) LockTurned E
      k := by
  unfold publishAndGoOn publishLockedHint
  rw [LockedHintTracker.observe_eq, h.tracker]
  refine wpE_bind.mpr ?_
  by_cases hedge : impliedLocked k.events = locked
  · rw [if_pos hedge]
    have hlatest : k.latest = some (impliedLocked k.events) := by rw [h.latest, hedge]
    have hfollows : HintFollows { s with tracker := ⟨some locked⟩ } k :=
      ⟨h.owner, h.bound, h.listens, h.reading, h.latest, hlatest, h.alternates⟩
    exact (wpE_pure _).mpr ((wpE_pure _).mpr hfollows.turned)
  · rw [if_neg hedge]
    refine wpE_bind.mpr (wpE_lockAsk ⟨nofun, nofun, nofun⟩ fun observedAt => ?_)
    refine wpE_bind.mpr (wpE_lockAsk ⟨nofun, nofun, ?_⟩ fun listening => ?_)
    · rintro _ ⟨⟩
      exact ⟨locked, observedAt, rfl, h.latest, hedge⟩
    · have himplied := impliedLocked_concat k.events locked
      have hfollows : HintFollows { s with tracker := ⟨some locked⟩ }
          { k with events := k.events ++ [lockEdge locked] } :=
        ⟨h.owner, h.bound, ⟨h.listens.ownerRule, h.listens.hintRule⟩, h.reading, h.latest,
          by rw [himplied]; exact h.latest, h.alternates.concat hedge⟩
      refine (wpE_pure _).mpr ((wpE_pure _).mpr ⟨hfollows.told, fun s' hs' => ?_⟩)
      cases listening with
      -- nobody listens any more: the observer ends with all told
      | true => cases hs'; exact hfollows
      | false => cases hs'

/-! ## One message -/

/-- How a failed turn ends. -/
def LockFailed (_ : LogindSessionError) (k : HintWatch) : Prop := k.Told

/-- Telling the lifecycle changes nothing here. -/
theorem wpE_lifecycleChanged {Q : Bool → HintWatch → Prop} (hQ : ∀ b, Q b k) :
    wpE (HintWatch.contract explicitSessionId currentUid) (ask .lifecycleChanged) Q E k :=
  wpE_lockAsk ⟨nofun, nofun, nofun⟩ hQ

/-- The loss of logind: nothing is left to be read or to be heard. -/
theorem HintFollows.lost {s : LockState} (h : HintFollows s k) :
    HintFollows { s with logindOwner := none } { k with owner := none, reading := false } := by
  obtain ⟨sessionPath, hbound, -⟩ := h.listens.hintRule
  exact ⟨rfl, h.bound, ⟨h.listens.ownerRule, sessionPath, hbound, nofun⟩, rfl, h.tracker, h.latest,
    h.alternates⟩

/-- A new owner is bound and read; without one the observer waits. -/
theorem wpE_handleOwnerChange {s : LockState} (h : HintFollows s k) {signal : BusSignal}
    {newOwner : Option String} (hsignal : AnnouncesLogind signal newOwner) :
    wpE (HintWatch.contract explicitSessionId currentUid)
      (handleOwnerChange explicitSessionId currentUid s newOwner) LockTurned LockFailed
      (k.receive signal) := by
  unfold handleOwnerChange
  refine wpE_bind.mpr (wpE_lifecycleChanged fun b => ?_)
  cases newOwner with
  | none =>
    rw [HintWatch.receive_lost hsignal]
    cases b with
    | false => exact (wpE_pure _).mpr ⟨h.lost.told, nofun⟩
    | true => exact (wpE_pure _).mpr h.lost.turned
  | some owner =>
    rw [HintWatch.receive_owned hsignal]
    cases b with
    | false => exact (wpE_pure _).mpr ⟨h.told.of_eq rfl rfl, nofun⟩
    | true =>
      refine wpE_bind.mpr (wpE_bindLockTarget rfl h.listens.ownerRule
        (fun session owner locked named hlistens => ?_) ?_)
      · exact wpE_publishAndGoOn ⟨rfl, rfl, hlistens, rfl, rfl, h.tracked, h.alternates⟩
      · exact fun err k' hevents hlatest => h.told.of_eq hevents hlatest

/-- Nothing is done for a message that says nothing of logind's owner and is not heard. -/
theorem HintFollows.unheard {s : LockState} (h : HintFollows s k) {signal : BusSignal}
    (hother : ∀ newOwner, ¬AnnouncesLogind signal newOwner)
    (hunheard : ∀ change, ¬k.Hears signal change) : HintFollows s (k.receive signal) := by
  rw [(HintWatch.receive_other hother).2.2 hunheard]
  exact ⟨h.owner, h.bound, ⟨h.listens.ownerRule, h.listens.hintRule⟩, rfl, h.tracker, h.latest,
    h.alternates⟩

/-- A change of the hint is published, or read first. -/
theorem wpE_handleHintChange {s : LockState} (h : HintFollows s k) {signal : BusSignal}
    {logindOwner : String} (howner : s.logindOwner = some logindOwner)
    (hother : ∀ newOwner, ¬AnnouncesLogind signal newOwner) :
    wpE (HintWatch.contract explicitSessionId currentUid) (handleHintChange s signal logindOwner)
      LockTurned LockFailed (k.receive signal) := by
  have hk : k.owner = some logindOwner := h.owner.trans howner
  unfold handleHintChange
  cases hchange : mapLockedHintChange signal s.session logindOwner with
  | none =>
    have hunheard : ∀ change, ¬k.Hears signal change := by
      intro change hhears
      obtain ⟨owner, path, howner', hbound, hsays⟩ := hhears
      cases hk.symm.trans howner'
      cases h.bound.symm.trans hbound
      rw [mapLockedHintChange_iff.mpr hsays] at hchange
      cases hchange
    exact (wpE_pure _).mpr (h.unheard hother hunheard).turned
  | some change =>
    have hhears : k.Hears signal change :=
      ⟨logindOwner, s.session.path, hk, h.bound, mapLockedHintChange_iff.mp hchange⟩
    have hlistens (latest : Option Bool) (reading : Bool) :
        HintWatch.Listens { k with latest := latest, reading := reading } :=
      ⟨h.listens.ownerRule, h.listens.hintRule⟩
    cases change with
    | changed locked =>
      rw [(HintWatch.receive_other hother).1 locked hhears]
      exact wpE_publishAndGoOn ⟨h.owner, h.bound, hlistens _ _, rfl, rfl, h.tracked, h.alternates⟩
    | invalidated =>
      rw [(HintWatch.receive_other hother).2.1 hhears]
      have hsome : k.owner.isSome = true := by rw [hk]; rfl
      refine wpE_bind.mpr
        (wpE_lockedHint rfl hsome (hlistens _ _) h.bound (fun locked => ?_) fun err => ?_)
      · exact wpE_publishAndGoOn
          ⟨h.owner, h.bound, hlistens _ _, rfl, rfl, h.tracked, h.alternates⟩
      · exact h.told.of_eq rfl rfl

/-- **Message.** Whatever comes, after the turn the events speak of the latest accepted value. -/
theorem wpE_handleLockSignal {s : LockState} (h : HintFollows s k) (signal : BusSignal) :
    wpE (HintWatch.contract explicitSessionId currentUid)
      (handleLockSignal explicitSessionId currentUid s signal) LockTurned LockFailed
      (k.receive signal) := by
  unfold handleLockSignal
  cases hsignal : logindOwnerChanged signal with
  | some newOwner => exact wpE_handleOwnerChange h (logindOwnerChanged_iff.mp hsignal)
  | none =>
    have hother : ∀ newOwner, ¬AnnouncesLogind signal newOwner := by
      intro newOwner hannounces
      rw [logindOwnerChanged_iff.mpr hannounces] at hsignal
      cases hsignal
    dsimp only
    cases howner : s.logindOwner with
    | none =>
      refine (wpE_pure _).mpr (h.unheard hother fun change hhears => ?_).turned
      obtain ⟨logindOwner, path, hsome, -⟩ := hhears
      rw [h.owner, howner] at hsome
      cases hsome
    | some logindOwner =>
      have hhint := @wpE_handleHintChange explicitSessionId currentUid k s h signal logindOwner
        howner hother
      dsimp only
      split
      · rename_i hbelieved
        refine wpE_bind.mpr (wpE_lifecycleChanged fun b => ?_)
        cases b with
        | true => exact hhint
        | false =>
          -- the observer returns before it looks at the hint, which a sleep signal does not change
          have hsleep := ((Bool.and_eq_true _ _).mp hbelieved).2
          have hunheard : ∀ change, ¬k.Hears signal change := by
            intro change hhears
            obtain ⟨owner, path, -, -, hsays⟩ := hhears
            have hread : mapLockedHintChange signal ⟨"", path⟩ owner = some change :=
              mapLockedHintChange_iff.mpr hsays
            rw [mapLockedHintChange_of_sleep hsleep] at hread
            cases hread
          exact (wpE_pure _).mpr ⟨(h.unheard hother hunheard).told, nofun⟩
      · exact hhint

/-! ## Turns -/

/-- **Turn.** A stop, a timeout, or one message. -/
theorem wpE_lockObserverPass {s : LockState} (h : HintFollows s k) :
    wpE (HintWatch.contract explicitSessionId currentUid)
      (lockObserverPass explicitSessionId currentUid s) LockTurned LockFailed k := by
  have hhead : k.latest = some (impliedLocked k.events) ∧ k.reading = false ∧ k.Listens :=
    ⟨h.latest, h.reading, h.listens⟩
  unfold lockObserverPass
  refine wpE_bind.mpr (wpE_lockAsk ⟨fun _ => hhead, nofun, nofun⟩ fun stopped => ?_)
  cases stopped with
  | true => exact (wpE_pure _).mpr ⟨h.told, nofun⟩
  | false =>
    refine wpE_bind.mpr (wpE_lockAsk ⟨fun _ => hhead, nofun, nofun⟩ fun r => ?_)
    cases r with
    | error err => exact h.told
    | ok message =>
      refine wpE_bind.mpr ((wpE_pure message).mpr ?_)
      cases message with
      | none => exact (wpE_pure _).mpr h.turned
      | some signal => exact wpE_handleLockSignal h signal

/-- **Run.** By induction on the turns. -/
theorem wpE_lockObserverPasses (passes : Nat) {s : LockState} (h : HintFollows s k) :
    wpE (HintWatch.contract explicitSessionId currentUid)
      (lockObserverPasses explicitSessionId currentUid passes s) LockTurned LockFailed k := by
  induction passes generalizing s k with
  | zero => exact (wpE_pure _).mpr h.turned
  | succ passes ih =>
    unfold lockObserverPasses
    refine (wpE_lockObserverPass h).bind fun next k' hnext => ?_
    cases next with
    | none => exact (wpE_pure _).mpr ⟨hnext.1, nofun⟩
    | some s' => exact ih (hnext.2 s' rfl)

/-- A subscription. -/
theorem wpE_addSignalMatch {rule : BusSignalMatch} {Q : Unit → HintWatch → Prop} (h : k.Told)
    (hQ : Q () { k with rules := rule :: k.rules }) :
    wpE (HintWatch.contract explicitSessionId currentUid) (addSignalMatch rule) Q LockFailed k := by
  refine wpE_bind.mpr (wpE_lockAsk ⟨nofun, nofun, nofun⟩ fun r => ?_)
  cases r with
  | error err => exact h
  | ok _ => exact hQ

/-- From the subscriptions and the first binding on. -/
theorem wpE_runLockObserver (passes : Nat) :
    wpE (HintWatch.contract explicitSessionId currentUid)
      (runLockObserverForSession explicitSessionId currentUid passes) LockTurned LockFailed {} := by
  have htold (rules : List BusSignalMatch) : HintWatch.Told { rules := rules } :=
    ⟨Alternates.nil, rfl⟩
  unfold runLockObserverForSession
  refine wpE_bind.mpr (wpE_addSignalMatch (htold []) ?_)
  refine wpE_bind.mpr (wpE_addSignalMatch (htold _) ?_)
  have hrule : logindOwnerSignalMatch ∈ [logindSignalMatch, logindOwnerSignalMatch] := by simp
  refine wpE_bind.mpr
    (wpE_bindLockTarget rfl hrule (fun session owner locked named hlistens => ?_) ?_)
  · refine (wpE_publishAndGoOn ?_).bind fun next k' hnext => ?_
    · exact ⟨rfl, rfl, hlistens, rfl, rfl, rfl, Alternates.nil⟩
    · cases next with
      | none => exact (wpE_pure _).mpr ⟨hnext.1, nofun⟩
      | some s' => exact wpE_lockObserverPasses passes (hnext.2 s' rfl)
  · exact fun err k' hevents hlatest => (htold _).of_eq hevents hlatest

/-! ## Calls in a row -/

/-- What is published goes on with the alternation. -/
theorem HintWatch.alternates_note {c : LockCall} (hc : k.permits c) (h : Alternates k.events)
    (r : LockReply c) : Alternates (k.note explicitSessionId currentUid c r).events := by
  cases c with
  | publish observation =>
    obtain ⟨locked, observedAt, rfl, -, hedge⟩ := hc.2.2 observation rfl
    exact h.concat hedge
  | callMethod request =>
    cases r with
    | error err => exact h
    | ok reply =>
      show Alternates (k.answered explicitSessionId currentUid request reply).events
      rw [(answered_keeps request reply).1]
      exact h
  | process timeout =>
    cases r with
    | error err => exact h
    | ok message =>
      cases message with
      | none => exact h
      | some signal =>
        show Alternates (k.receive signal).events
        rw [receive_events]
        exact h
  | addSignalMatch rule => cases r <;> exact h
  | _ => exact h

/-- The value is accepted, told, and not to be read again. -/
structure HintWatch.Quiet (k : HintWatch) : Prop where
  latest : k.latest = some (impliedLocked k.events)
  reading : k.reading = false

/-- Nothing is published then. -/
theorem HintWatch.Quiet.not_publish (h : k.Quiet) {c : LockCall} (hc : k.permits c)
    (observation : SessionObservation) : c ≠ .publish observation := by
  intro heq
  obtain ⟨locked, observedAt, -, hlatest, hedge⟩ := hc.2.2 observation heq
  exact hedge (Option.some.inj (h.latest.symm.trans hlatest))

/-- No call but the receipt of another message changes what is accepted or told. -/
theorem HintWatch.Quiet.note (h : k.Quiet) {c : LockCall} (hc : k.permits c)
    (hprocess : ∀ timeout, c ≠ .process timeout) (r : LockReply c) :
    (k.note explicitSessionId currentUid c r).Quiet
      ∧ (k.note explicitSessionId currentUid c r).latest = k.latest := by
  cases c with
  | publish observation => exact absurd rfl (h.not_publish hc observation)
  | process timeout => exact absurd rfl (hprocess timeout)
  | callMethod request =>
    cases r with
    | error err => exact ⟨h, rfl⟩
    | ok reply =>
      have hreads : request.readsProperty = false := by
        refine Bool.eq_false_iff.mpr fun hreads => ?_
        have hreading := (hc.2.1 request rfl hreads).1
        rw [h.reading] at hreading
        cases hreading
      show (k.answered explicitSessionId currentUid request reply).Quiet
        ∧ (k.answered explicitSessionId currentUid request reply).latest = k.latest
      obtain ⟨hevents, hkept⟩ :=
        @answered_keeps explicitSessionId currentUid k request reply
      obtain ⟨hlatest, hreading⟩ := hkept hreads
      refine ⟨⟨?_, hreading.trans h.reading⟩, hlatest⟩
      rw [hlatest, hevents]
      exact h.latest
  | addSignalMatch rule => cases r <;> exact ⟨⟨h.latest, h.reading⟩, rfl⟩
  | _ => exact ⟨h, rfl⟩

/-- A message that is to be ignored leaves a told value quiet. -/
theorem HintWatch.Ignores.quiet {signal : BusSignal} (h : k.Ignores signal)
    (hlatest : k.latest = some (impliedLocked k.events)) :
    (k.receive signal).Quiet ∧ (k.receive signal).latest = k.latest := by
  cases h with
  | inl hlost =>
    rw [receive_lost hlost]
    exact ⟨⟨hlatest, rfl⟩, rfl⟩
  | inr hother =>
    rw [(receive_other hother.1).2.2 hother.2]
    exact ⟨⟨hlatest, rfl⟩, rfl⟩

end

/-! ## The whole run -/

section

variable (explicitSessionId : Option String) (currentUid : UInt32)

/-- What the spectator knows after these calls. -/
noncomputable def watched (history : List (Exchange LockCall LockReply)) : HintWatch :=
  observe (HintWatch.note explicitSessionId currentUid) {} history

/-- The law of a run, over its calls in order. -/
structure LockLaw (history : List (Exchange LockCall LockReply)) : Prop where
  /-- What has been published at any time alternates, from Lock on. -/
  alternates : ∀ before after, history = before ++ after →
    Alternates (watched explicitSessionId currentUid before).events
  /-- At the head of each turn, before and after each message, the events speak of the latest
  accepted value, none is left to be read, and the bus delivers what is to be heard. -/
  told : ∀ before x after, history = before ++ x :: after →
    (x.1 = .stopped ∨ ∃ timeout, x.1 = .process timeout) →
    (watched explicitSessionId currentUid before).latest
        = some (impliedLocked (watched explicitSessionId currentUid before).events)
      ∧ (watched explicitSessionId currentUid before).reading = false
      ∧ (watched explicitSessionId currentUid before).Listens
  /-- A property is read only for a binding or after an invalidation, from the bound session. -/
  reads : ∀ before x after, history = before ++ x :: after →
    ∀ request, x.1 = .callMethod request → request.readsProperty = true →
      (watched explicitSessionId currentUid before).reading = true
        ∧ (watched explicitSessionId currentUid before).owner.isSome = true
        ∧ (watched explicitSessionId currentUid before).Listens
        ∧ ∃ session, request = lockedHintCall session
          ∧ (watched explicitSessionId currentUid before).Bound session.path
  /-- An edge says the latest accepted value, when the events do not yet. -/
  publishes : ∀ before x after, history = before ++ x :: after →
    ∀ observation, x.1 = .publish observation →
      ∃ locked observedAt, observation = .event (lockEdge locked) observedAt
        ∧ (watched explicitSessionId currentUid before).latest = some locked
        ∧ impliedLocked (watched explicitSessionId currentUid before).events ≠ locked
  /-- From an ignored message to the next one nothing is published, and the value stays. -/
  ignores : ∀ before timeout signal mid x after,
    history = before ++ ⟨.process timeout, .ok (some signal)⟩ :: (mid ++ x :: after) →
    (watched explicitSessionId currentUid before).Ignores signal →
    (∀ y ∈ mid, ∀ timeout, y.1 ≠ .process timeout) →
      (∀ observation, x.1 ≠ .publish observation)
        ∧ (watched explicitSessionId currentUid
              (before ++ ⟨.process timeout, .ok (some signal)⟩ :: mid)).latest
          = (watched explicitSessionId currentUid before).latest
  /-- However the run ends, the events speak of the latest accepted value. -/
  ends : (watched explicitSessionId currentUid history).Told

end

section

variable {explicitSessionId : Option String} {currentUid : UInt32}
  {history : List (Exchange LockCall LockReply)}

theorem watched_concat (before : List (Exchange LockCall LockReply))
    (x : Exchange LockCall LockReply) :
    watched explicitSessionId currentUid (before ++ [x])
      = (watched explicitSessionId currentUid before).note explicitSessionId currentUid x.1 x.2 :=
  observe_concat _ _ _ _

/-- Permission call by call is all that the law needs. -/
theorem LockLaw.of_permits
    (hpermits : ∀ before x after, history = before ++ x :: after →
      (watched explicitSessionId currentUid before).permits x.1)
    (hend : (watched explicitSessionId currentUid history).Told) :
    LockLaw explicitSessionId currentUid history where
  told before x after hsplit := (hpermits before x after hsplit).1
  reads before x after hsplit := (hpermits before x after hsplit).2.1
  publishes before x after hsplit := (hpermits before x after hsplit).2.2
  ends := hend
  alternates before := by
    induction before using List.reverseRecOn with
    | nil => exact fun _ _ => Alternates.nil
    | append_singleton before x ih =>
      intro after hsplit
      rw [List.append_assoc, List.singleton_append] at hsplit
      rw [watched_concat]
      exact HintWatch.alternates_note (hpermits before x after hsplit) (ih _ hsplit) x.2
  ignores before timeout signal mid := by
    -- nothing of an ignored message is left up to the next one read, by induction on what is
    -- between
    have hrun : ∀ after, history
          = before ++ ⟨.process timeout, .ok (some signal)⟩ :: (mid ++ after) →
        (watched explicitSessionId currentUid before).Ignores signal →
        (∀ y ∈ mid, ∀ timeout, y.1 ≠ .process timeout) →
        (watched explicitSessionId currentUid
            (before ++ ⟨.process timeout, .ok (some signal)⟩ :: mid)).Quiet
          ∧ (watched explicitSessionId currentUid
              (before ++ ⟨.process timeout, .ok (some signal)⟩ :: mid)).latest
            = (watched explicitSessionId currentUid before).latest := by
      induction mid using List.reverseRecOn with
      | nil =>
        intro after hsplit hignores _
        rw [watched_concat]
        exact hignores.quiet ((hpermits _ _ _ hsplit).1 (.inr ⟨timeout, rfl⟩)).1
      | append_singleton mid y ih =>
        intro after hsplit hignores hmid
        rw [List.append_assoc, List.singleton_append] at hsplit
        obtain ⟨hquiet, hlatest⟩ := ih _ hsplit hignores fun z hz =>
          hmid z (List.mem_append_left _ hz)
        rw [← List.cons_append, ← List.append_assoc] at hsplit ⊢
        rw [watched_concat]
        obtain ⟨hquiet', hlatest'⟩ := hquiet.note (hpermits _ _ _ hsplit)
          (hmid y (List.mem_append_right _ (List.mem_singleton_self y))) y.2
        exact ⟨hquiet', hlatest'.trans hlatest⟩
    intro x after hsplit hignores hmid
    obtain ⟨hquiet, hlatest⟩ := hrun _ hsplit hignores hmid
    rw [← List.cons_append, ← List.append_assoc] at hsplit
    exact ⟨hquiet.not_publish (hpermits _ _ _ hsplit), hlatest⟩

end

/-- **The lock observer is faithful.** Whatever the bus answers and delivers, whoever stops the
observer or no longer listens, and after any number of turns: the published events alternate from
Lock on, and between two messages they speak of the latest accepted value, which was read for a
binding or after an invalidation, or was sent by the owner of logind's name for the bound session.
Any other message, and any that arrives while logind has no owner, has no effect. -/
theorem lock_observer_faithful {σ : Type} (handle : σ → (c : LockCall) → LockReply c × σ) (s : σ)
    (explicitSessionId : Option String) (currentUid : UInt32) (passes : Nat) :
    LockLaw explicitSessionId currentUid (calls handle
      (runLockObserverForSession explicitSessionId currentUid passes).run s) := by
  obtain ⟨hpermits, hend⟩ :=
    wp.calls (wpE_runLockObserver passes) handle s
  refine LockLaw.of_permits hpermits ?_
  revert hend
  cases (exec handle (runLockObserverForSession explicitSessionId currentUid passes).run s).1 with
  | ok next => exact fun hend => hend.1
  | error err => exact id

end LgBuddy
