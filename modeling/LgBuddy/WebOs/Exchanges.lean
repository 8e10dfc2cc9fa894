import LgBuddy.WebOs.Adapter

/-!
# LgBuddy — what the actions of a session ask for

Exchanges of the TV client with the network, and the actions that are run on one session.

* `Broke`, `Ended` — what makes an exchange the last one of its session;
* `RequestInOrder` — what is true of every request, given the exchanges before it;
* `Asks` — an action asks for these things, each at most once, on one session, and reports it when
  the session broke; its rules follow the way actions are put together;
* `AsksAs.…` — the actions of the operations.
-/

namespace LgBuddy

/-! ## Exchanges -/

abbrev AdapterExchange := Program.Exchange AdapterCall AdapterCall.Answer

/-- The session and the URI of a request. -/
def asked : AdapterExchange → Option (Nat × String)
  | ⟨.request session uri _, _⟩ => some (session, uri)
  | _ => none

def asks (uri : String) (x : AdapterExchange) : Bool := (asked x).map Prod.snd = some uri

def onSession (session : Nat) (x : AdapterExchange) : Bool :=
  (asked x).map Prod.fst = some session

/-- The error is classified as one of the transport or as an invalid frame. -/
def WebOsClientError.breaksSession (err : WebOsClientError) : Bool :=
  let kind := (clientFailureWithDetail err "").kind
  kind = .transport || kind = .invalidResponse

/-- A request that ended with such an error. -/
def Broke (session : Nat) (x : AdapterExchange) : Prop :=
  ∃ uri payload err, x = ⟨.request session uri payload, Except.error err⟩ ∧ err.breaksSession

def PoweredOff (session : Nat) (x : AdapterExchange) : Prop :=
  asked x = some (session, powerOffUri)

/-- After this exchange the session is done with. -/
def Ended (session : Nat) (x : AdapterExchange) : Prop := Broke session x ∨ PoweredOff session x

def opensSession : AdapterExchange → Bool
  | ⟨.connect _, .ok ()⟩ => true
  | _ => false

/-- Sessions are numbered in the order of these. -/
def sessionsOpened (xs : List AdapterExchange) : Nat := xs.countP opensSession

@[simp] theorem sessionsOpened_append (xs ys : List AdapterExchange) :
    sessionsOpened (xs ++ ys) = sessionsOpened xs + sessionsOpened ys := List.countP_append

/-- No exchange has ended this session. -/
def Alive (session : Nat) (xs : List AdapterExchange) : Prop := ∀ x ∈ xs, ¬ Ended session x

/-- A session that was not ended in either part is alive. -/
theorem Alive.append {session : Nat} {xs ys : List AdapterExchange} (hxs : Alive session xs)
    (hys : Alive session ys) : Alive session (xs ++ ys) := by
  intro x hx
  rcases List.mem_append.mp hx with h | h
  · exact hxs x h
  · exact hys x h

/-- What ends a session happens on it. -/
theorem Ended.onSession {session : Nat} {x : AdapterExchange} (h : Ended session x) :
    onSession session x := by
  rcases h with ⟨uri, payload, err, rfl, _⟩ | hoff
  · simp [LgBuddy.onSession, asked]
  · simp [LgBuddy.onSession, show asked x = _ from hoff]

/-! ## Requests in order -/

/-- The same is asked again: it is `current_input`, for the second time, and the first read used
a session of an earlier call, and broke it. -/
def SecondRead (command : TvCommand) (past now : List AdapterExchange) (uri : String)
    (x : AdapterExchange) : Prop :=
  command = .currentInput ∧ uri = getForegroundAppUri ∧ now.countP (asks uri) = 1
    ∧ ∃ session < sessionsOpened past, Broke session x

/-- The exchange just before, in the same call, has reported a state in which the TV may be
powered off. -/
def ControllableBefore (session : Nat) (now : List AdapterExchange) : Prop :=
  ∃ earlier payload response,
    now = earlier ++ [⟨.request session getPowerStateUri payload, Except.ok response⟩]
      ∧ (parsePowerStateResponse response = .ok .active
        ∨ parsePowerStateResponse response = .ok .screenOff)

/-- What may be asked for, after the exchanges `now` of the same call. -/
def MayAsk (command : TvCommand) (past now : List AdapterExchange) (uri : String) : Prop :=
  ∀ x ∈ now, asks uri x → SecondRead command past now uri x

structure RequestInOrder (command : TvCommand) (past now : List AdapterExchange) (session : Nat)
    (uri : String) : Prop where
  alive : Alive session (past ++ now)
  mayAsk : MayAsk command past now uri
  powerOff : uri = powerOffUri → ControllableBefore session now

/-- The calls of an operation, given the exchanges of the earlier ones. -/
def Permitted (command : TvCommand) (past now : List AdapterExchange) : AdapterCall → Prop
  | .request session uri _ => RequestInOrder command past now session uri
  | .lockSession | .connect _ | .sleep _ => True

/-- Any answer is possible, and all exchanges are kept. -/
abbrev callContract (command : TvCommand) (past : List AdapterExchange) :
    Program.Contract AdapterCall AdapterCall.Answer (List AdapterExchange) :=
  .observed (Permitted command past) Program.record

/-- A request that was not made before may be made. -/
theorem MayAsk.fresh {command : TvCommand} {past now : List AdapterExchange} {uri : String}
    (h : ∀ x ∈ now, asks uri x = false) : MayAsk command past now uri := by
  intro x hx hasks
  rw [h x hx] at hasks
  cases hasks

/-! ## Actions on one session -/

/-- The exchanges that an action adds: it asks for some of these things, in this order. -/
def Grown (session : Nat) (uris : List String) (now now' : List AdapterExchange) : Prop :=
  ∃ xs, now' = now ++ xs ∧ (xs.filterMap asked).Sublist (uris.map (session, ·))
    ∧ sessionsOpened xs = 0

theorem Grown.refl (session : Nat) (uris : List String) (now : List AdapterExchange) :
    Grown session uris now now :=
  ⟨[], (List.append_nil now).symm, List.nil_sublist _, rfl⟩

/-- Requests in a row, all on one session. -/
theorem Grown.trans {session : Nat} {uris uris' : List String}
    {now now' now'' : List AdapterExchange} (h : Grown session uris now now')
    (h' : Grown session uris' now' now'') : Grown session (uris ++ uris') now now'' := by
  obtain ⟨xs, rfl, hsub, hopened⟩ := h
  obtain ⟨ys, rfl, hsub', hopened'⟩ := h'
  refine ⟨xs ++ ys, List.append_assoc _ _ _, ?_, ?_⟩
  · rw [List.filterMap_append, List.map_append]
    exact hsub.append hsub'
  · rw [sessionsOpened_append, hopened, hopened']

/-- The same without the session: some of these things were asked for, in this order. -/
def Turned (uris : List String) (now now' : List AdapterExchange) : Prop :=
  ∃ xs, now' = now ++ xs ∧ ((xs.filterMap asked).map Prod.snd).Sublist uris

theorem Turned.refl (uris : List String) (now : List AdapterExchange) : Turned uris now now :=
  ⟨[], (List.append_nil now).symm, List.nil_sublist _⟩

/-- Requests in a row, on whichever sessions. -/
theorem Turned.trans {uris uris' : List String} {now now' now'' : List AdapterExchange}
    (h : Turned uris now now') (h' : Turned uris' now' now'') :
    Turned (uris ++ uris') now now'' := by
  obtain ⟨xs, rfl, hsub⟩ := h
  obtain ⟨ys, rfl, hsub'⟩ := h'
  refine ⟨xs ++ ys, List.append_assoc _ _ _, ?_⟩
  rw [List.filterMap_append, List.map_append]
  exact hsub.append hsub'

/-- Requests of one session are requests. -/
theorem Grown.turned {session : Nat} {uris : List String} {now now' : List AdapterExchange}
    (h : Grown session uris now now') : Turned uris now now' := by
  obtain ⟨xs, rfl, hsub, -⟩ := h
  refine ⟨xs, rfl, ?_⟩
  have hmap := hsub.map Prod.snd
  rwa [List.map_map, Function.comp_def, List.map_id''] at hmap
  exact fun _ => rfl

/-- Nothing else is asked for. -/
theorem asks_of_sublist {uris : List String} {xs : List AdapterExchange} {x : AdapterExchange}
    {uri : String} (hsub : ((xs.filterMap asked).map Prod.snd).Sublist uris) (hx : x ∈ xs)
    (hasks : asks uri x) : uri ∈ uris := by
  obtain ⟨⟨s, u⟩, hasked, hu⟩ : ∃ a, asked x = some a ∧ a.2 = uri := by
    simpa [asks] using hasks
  cases hu
  exact hsub.subset (List.mem_map.mpr ⟨(s, u), List.mem_filterMap.mpr ⟨x, hx, hasked⟩, rfl⟩)

/-- Other requests in between do not matter. -/
theorem MayAsk.turned {command : TvCommand} {past now now' : List AdapterExchange} {uri : String}
    {uris : List String} (h : MayAsk command past now uri) (hturned : Turned uris now now')
    (huri : uri ∉ uris) : MayAsk command past now' uri := by
  obtain ⟨xs, rfl, hsub⟩ := hturned
  have hnone : ∀ x ∈ xs, asks uri x = false := by
    intro x hx
    by_contra hasks
    exact huri (asks_of_sublist hsub hx (by simpa using hasks))
  have hcount : xs.countP (asks uri) = 0 := by
    rw [List.countP_eq_zero]
    intro x hx
    rw [hnone x hx]
    exact Bool.false_ne_true
  intro x hx hasks
  rcases List.mem_append.mp hx with hold | hnew
  · obtain ⟨hcommand, hread, hone, hbroke⟩ := h x hold hasks
    refine ⟨hcommand, hread, ?_, hbroke⟩
    rw [List.countP_append, hone, hcount]
  · rw [hnone x hnew] at hasks
    cases hasks

/-- **An action of one session.** `broken` tells of an error whether it reports a broken
session: if it does, the session was broken by this action, and if it does not, it was not. -/
def Asks {E α : Type} (broken : E → Bool) (session : Nat) (uris : List String)
    (action : ClientM E α) : Prop :=
  ∀ command past now, Alive session (past ++ now) → powerOffUri ∉ uris →
    (∀ uri ∈ uris, MayAsk command past now uri) →
    Program.wpE (callContract command past) action
      (fun _ now' => Grown session uris now now' ∧ Alive session (past ++ now'))
      (fun err now' => Grown session uris now now'
        ∧ (broken err = false → Alive session (past ++ now'))
        ∧ (broken err = true → ∃ x ∈ now', Broke session x)) now

section Rules

variable {E E' D α β : Type} {broken : E → Bool} {session : Nat} {uris uris' : List String}

/-- A result that needs no request. -/
theorem Asks.result (r : Except E α) (hr : ∀ err, r = .error err → broken err = false) :
    Asks broken session [] (ExceptT.mk (pure r) : ClientM E α) := by
  intro command past now halive _ _
  show Program.post _ _ r now
  cases r with
  | ok a => exact ⟨Grown.refl session [] now, halive⟩
  | error err =>
    refine ⟨Grown.refl session [] now, fun _ => halive, fun hbroken => ?_⟩
    rw [hr err rfl] at hbroken
    cases hbroken

theorem Asks.done (a : α) : Asks broken session [] (pure a : ClientM E α) :=
  Asks.result (.ok a) nofun

/-- A failure that leaves the session whole asks nothing. -/
theorem Asks.failed {err : E} (herr : broken err = false) :
    Asks broken session [] (throw err : ClientM E α) := by
  refine Asks.result (.error err) fun err' h => ?_
  cases h
  exact herr

/-- An error under another name reports the same of the session. -/
theorem Asks.adapt {broken' : E' → Bool} {f : E → E'} {action : ClientM E α}
    (h : Asks broken session uris action) (hf : ∀ err, broken' (f err) = broken err) :
    Asks broken' session uris (ExceptT.adapt f action) := by
  intro command past now halive huris hmay
  refine Program.wpE_adapt.mpr
    (Program.wpE.mono (fun _ _ hdone => hdone) ?_ (h command past now halive huris hmay))
  intro err now' ⟨hgrown, hkept, hbroke⟩
  rw [hf err]
  exact ⟨hgrown, hkept, hbroke⟩

/-- What the first part asks for is not asked for again. -/
theorem Asks.bind (uris uris' : List String) {action : ClientM E α} {next : α → ClientM E β}
    (h : Asks broken session uris action) (hnext : ∀ a, Asks broken session uris' (next a))
    (hdisjoint : ∀ uri ∈ uris', uri ∉ uris) :
    Asks broken session (uris ++ uris') (action >>= next) := by
  intro command past now halive huris hmay
  rw [List.mem_append, not_or] at huris
  have hfirst := h command past now halive huris.1
    fun uri huri => hmay uri (List.mem_append_left _ huri)
  refine Program.wpE_bind.mpr (Program.wpE.mono ?_ ?_ hfirst)
  · intro a now' ⟨hgrown, halive'⟩
    have hmay' : ∀ uri ∈ uris', MayAsk command past now' uri := fun uri huri =>
      (hmay uri (List.mem_append_right _ huri)).turned hgrown.turned (hdisjoint uri huri)
    refine Program.wpE.mono ?_ ?_ (hnext a command past now' halive' huris.2 hmay')
    · exact fun _ now'' ⟨hgrown', halive''⟩ => ⟨hgrown.trans hgrown', halive''⟩
    · exact fun _ now'' ⟨hgrown', hrest⟩ => ⟨hgrown.trans hgrown', hrest⟩
  · intro err now' ⟨hgrown, hrest⟩
    refine ⟨?_, hrest⟩
    have hgrown' := hgrown.trans (Grown.refl session uris' now')
    exact hgrown'

/-- A step that only waits. -/
theorem Asks.sleep (seconds : Nat) :
    Asks broken session []
      (ExceptT.lift (AdapterProgram.sleep seconds) : ClientM E Unit) := by
  intro command past now halive _ _
  refine Program.wpE_lift.mpr ((Program.wp_perform _).mpr ⟨trivial, ?_⟩)
  rintro r now' rfl
  have hsleep : Alive session [⟨AdapterCall.sleep seconds, r⟩] := by
    intro x hx hended
    cases List.mem_singleton.mp hx
    have := hended.onSession
    simp [onSession, asked] at this
  refine ⟨⟨[_], rfl, List.nil_sublist _, rfl⟩, ?_⟩
  rw [Program.record, ← List.append_assoc]
  exact halive.append hsleep

end Rules

/-- Of a typed response, only the request itself can break the session. -/
def ResponseError.broken {D : Type} : ResponseError D → Bool
  | .request source => source.breaksSession
  | _ => false

/-- A parser does not report a broken session. -/
def ParsesOnly {D α : Type} (parse : Json → Except (ResponseError D) α) : Prop :=
  ∀ response err, parse response = .error err → err.broken = false

/-- A request in order, and every answer to it. -/
theorem wp_typedRequest {D α : Type} {parse : Json → Except (ResponseError D) α}
    {command : TvCommand} {past now : List AdapterExchange} {session : Nat} {uri : String}
    {payload : Json} {Q : Except (ResponseError D) α → List AdapterExchange → Prop}
    (horder : RequestInOrder command past now session uri)
    (hQ : ∀ answer, Q (WebOsSession.readResponse parse answer)
      (now ++ [⟨.request session uri payload, answer⟩])) :
    Program.wp (callContract command past)
      (WebOsSession.typedRequest parse session uri payload).run Q now := by
  refine Program.wp_bind.mpr ((Program.wp_perform _).mpr ⟨horder, ?_⟩)
  rintro answer now' rfl
  exact hQ answer

/-- One request more. -/
theorem Grown.request (session : Nat) (uri : String) (payload : Json)
    (answer : Except WebOsClientError Json) (now : List AdapterExchange) :
    Grown session [uri] now (now ++ [⟨.request session uri payload, answer⟩]) :=
  ⟨[_], rfl, List.Sublist.refl _, rfl⟩

/-- A request that neither broke its session nor powered the TV off. -/
theorem Alive.request {session : Nat} {xs : List AdapterExchange} (halive : Alive session xs)
    {uri : String} {payload : Json} {answer : Except WebOsClientError Json}
    (huri : uri ≠ powerOffUri)
    (hanswer : ∀ err, answer = .error err → err.breaksSession = false) :
    Alive session (xs ++ [⟨.request session uri payload, answer⟩]) := by
  refine halive.append fun x hx => ?_
  cases List.mem_singleton.mp hx
  rintro (⟨uri', payload', err, heq, hbreaks⟩ | hoff)
  · cases heq
    rw [hanswer err rfl] at hbreaks
    cases hbreaks
  · cases hoff
    exact huri rfl

/-- A typed request: the session lives on unless the client reports it broken. -/
theorem Asks.typedRequest {D α : Type} {parse : Json → Except (ResponseError D) α}
    (hparse : ParsesOnly parse) (session : Nat) (uri : String) (payload : Json) :
    Asks ResponseError.broken session [uri]
      (WebOsSession.typedRequest parse session uri payload) := by
  intro command past now halive huris hmay
  rw [List.mem_singleton] at huris
  have horder : RequestInOrder command past now session uri :=
    ⟨halive, hmay uri (List.mem_singleton.mpr rfl), fun h => absurd h.symm huris⟩
  refine Program.wpE_mk.mpr (wp_typedRequest horder fun answer => ?_)
  have hgrown := Grown.request session uri payload answer now
  cases answer with
  | error source =>
    refine ⟨hgrown, fun hbroken => ?_, fun hbroken => ?_⟩
    · rw [← List.append_assoc]
      refine halive.request (fun h => huris h.symm) fun err herr => ?_
      cases herr
      exact hbroken
    · exact ⟨_, List.mem_append_right _ (List.mem_singleton.mpr rfl), uri, payload, source, rfl,
        hbroken⟩
  | ok response =>
    have halive' : Alive session
        (past ++ (now ++ [⟨.request session uri payload, Except.ok response⟩])) := by
      rw [← List.append_assoc]
      exact halive.request (fun h => huris h.symm) nofun
    show Program.post _ _ (parse response) _
    cases hresult : parse response with
    | ok a => exact ⟨hgrown, halive'⟩
    | error err =>
      refine ⟨hgrown, fun _ => halive', fun hbroken => ?_⟩
      rw [hparse response err hresult] at hbroken
      cases hbroken

/-! ### The parsers -/

/-- Whether the TV has accepted says nothing of the session. -/
theorem parsesOnly_acceptedPayload {D : Type} : ParsesOnly (acceptedPayload (D := D)) := by
  intro response err h
  unfold acceptedPayload at h
  split at h
  · split at h
    · cases h
    · cases h; rfl
    · cases h; rfl
    · cases h; rfl
  · cases h; rfl
  · cases h; rfl

/-- A parser of the payload's fields fails with a parse error only. -/
theorem parsesOnly_fields {D α : Type} (fields : List (String × Json) → Except D α) :
    ParsesOnly (parseFields fields) := by
  intro response err h
  unfold parseFields at h
  split at h
  · rename_i err' hpayload
    cases h
    exact parsesOnly_acceptedPayload response _ hpayload
  · rename_i payload hpayload
    cases hfields : fields payload with
    | ok a => rw [hfields] at h; cases h
    | error d => rw [hfields] at h; cases h; rfl

/-! ### The failures -/

/-- A failed request invalidates the session exactly if the client says it is broken. -/
theorem clientFailure_invalidates (err : WebOsClientError) (detail : String) :
    (clientFailureWithDetail err detail).invalidatesSession = err.breaksSession := by
  cases err <;> rfl

/-- A failure ends the session just when the request broke it. -/
theorem responseFailure_invalidates {D : Type} (text : ResponseError D → String)
    (err : ResponseError D) :
    (responseFailure text err).invalidatesSession = err.broken := by
  cases err with
  | request source => exact clientFailure_invalidates source _
  | missingPayload => rfl
  | invalidPayload => rfl
  | missingReturnValue => rfl
  | invalidReturnValue => rfl
  | requestRejected message => rfl
  | field d => rfl

/-- An action whose failures say whether they end the session. -/
abbrev AsksAs {α : Type} (session : Nat) (uris : List String)
    (action : ClientM WebOsAdapterFailure α) : Prop :=
  Asks WebOsAdapterFailure.invalidatesSession session uris action

/-- A typed request under the name of its failure. -/
theorem AsksAs.typed {D α : Type} {parse : Json → Except (ResponseError D) α}
    (hparse : ParsesOnly parse) (text : ResponseError D → String) (session : Nat) (uri : String)
    (payload : Json) :
    AsksAs session [uri] (ExceptT.adapt (responseFailure text)
      (WebOsSession.typedRequest parse session uri payload)) :=
  (Asks.typedRequest hparse session uri payload).adapt (responseFailure_invalidates text)

/-- A control request is typed, with no fields to read. -/
theorem Asks.sendControlRequest (session : Nat) (uri : String) (payload : Json) :
    Asks ResponseError.broken session [uri]
      (WebOsSession.sendControlRequest session uri payload) :=
  Asks.typedRequest parsesOnly_acceptedPayload session uri payload

/-- A control that answers nothing asks its one request. -/
theorem Asks.control (session : Nat) (uri : String) (payload : Json) :
    Asks ResponseError.broken session [uri] (WebOsSession.control session uri payload) :=
  Asks.bind [uri] [] (Asks.sendControlRequest session uri payload) (fun _ => Asks.done ()) nofun

/-! ### The actions -/

theorem AsksAs.control (session : Nat) (uri : String) (payload : Json) :
    AsksAs session [uri]
      (ExceptT.adapt controlFailure (WebOsSession.control session uri payload)) :=
  (Asks.control session uri payload).adapt (responseFailure_invalidates _)

theorem AsksAs.readPowerState (session : Nat) :
    AsksAs session [getPowerStateUri]
      (ExceptT.adapt powerStateFailure (WebOsSession.powerState session)) :=
  AsksAs.typed (parsesOnly_fields _) _ session _ _

/-- Reading the input is one request. -/
theorem AsksAs.readCurrentInput (session : Nat) :
    AsksAs session [getForegroundAppUri] (WebOsTvClient.readCurrentInput session) :=
  Asks.bind [getForegroundAppUri] [] (AsksAs.typed (parsesOnly_fields _) _ session _ _)
    (fun _ => Asks.done _) nofun

/-- Reading the brightness is one request, whatever number it gives. -/
theorem AsksAs.readOledBrightness (serde : Serde) (session : Nat) :
    AsksAs session [getSystemSettingsUri] (WebOsTvClient.readOledBrightness serde session) := by
  refine Asks.bind [getSystemSettingsUri] [] (AsksAs.typed (parsesOnly_fields _) _ session _ _)
    (fun brightness => ?_) nofun
  refine Asks.result _ fun err herr => ?_
  cases hnew : OledBrightness.new brightness.asPercent with
  | ok b => rw [hnew] at herr; cases herr
  | error text => rw [hnew] at herr; cases herr; rfl

/-- Reading the audio status is one request. -/
theorem AsksAs.readAudioStatus (serde : Serde) (session : Nat) :
    AsksAs session [getAudioStatusUri] (WebOsTvClient.readAudioStatus serde session) := by
  refine Asks.bind [getAudioStatusUri] [] (AsksAs.typed (parsesOnly_fields _) _ session _ _)
    (fun status => ?_) nofun
  refine Asks.result _ fun err herr => ?_
  unfold WebOsTvClient.audioStatusOf at herr
  split at herr
  · split at herr
    · cases herr
    · cases herr; rfl
  · cases herr

def WebOsScreenControlError.broken : WebOsScreenControlError → Bool
  | .control source => source.broken
  | .state _ => false

/-- Turning the screen on or off is one request, whose answer also names a state. -/
theorem AsksAs.setScreenPower (session : Nat) (uri : String) :
    AsksAs session [uri] (do
      let _ ← ExceptT.adapt screenControlFailure (WebOsSession.setScreenPower session uri)
      return () : ClientM WebOsAdapterFailure Unit) := by
  have hscreen : Asks WebOsScreenControlError.broken session [uri]
      (WebOsSession.setScreenPower session uri) := by
    refine Asks.bind [uri] [] ((Asks.sendControlRequest session uri _).adapt fun _ => rfl)
      (fun payload => ?_) nofun
    refine Asks.result _ fun err herr => ?_
    unfold parseScreenState at herr
    split at herr
    · cases herr
    · cases herr; rfl
  refine Asks.bind [uri] [] (hscreen.adapt fun err => ?_) (fun _ => Asks.done ()) nofun
  cases err with
  | control source => exact responseFailure_invalidates _ source
  | state d => rfl

def WebOsSetBacklightBrightnessError.broken : WebOsSetBacklightBrightnessError → Bool
  | .createLunaBridge source | .closeLunaBridge source => source.broken
  | .readback _ source => source.broken
  | .missingAlertId | .invalidAlertId _ | .unexpectedAlertId _ | .notApplied _ _ => false

/-- A setting goes over an alert that is created and closed again. -/
theorem Asks.lunaBridge (session : Nat) (params : Json) :
    Asks WebOsSetBacklightBrightnessError.broken session [createAlertUri, closeAlertUri]
      (WebOsSession.setSystemSettingsViaLunaBridge session params) := by
  refine Asks.bind [createAlertUri] [closeAlertUri]
    ((Asks.sendControlRequest session createAlertUri _).adapt fun _ => rfl) (fun payload => ?_)
    (by decide)
  refine Asks.bind [] [closeAlertUri] (Asks.result _ fun err herr => ?_)
    (fun alertId => (Asks.control session closeAlertUri _).adapt fun _ => rfl) nofun
  -- an alert without a usable id cannot be closed, and says nothing of the session
  unfold closeAlertId at herr
  split at herr
  · split at herr
    · split at herr
      · cases herr; rfl
      · cases herr
    · cases herr; rfl
  · cases herr; rfl
  · cases herr; rfl

/-- The backlight is set over the bridge, and read back after a second. -/
theorem AsksAs.setBacklightBrightness (serde : Serde) (session : Nat)
    (brightness : WebOsBacklightBrightness) :
    AsksAs session [createAlertUri, closeAlertUri, getSystemSettingsUri]
      (ExceptT.adapt (setBacklightBrightnessFailure serde)
        (WebOsSession.setBacklightBrightness session brightness)) := by
  have hset : Asks WebOsSetBacklightBrightnessError.broken session
      ([createAlertUri, closeAlertUri] ++ ([] ++ ([getSystemSettingsUri] ++ [])))
      (WebOsSession.setBacklightBrightness session brightness) := by
    refine Asks.bind _ _ (Asks.lunaBridge session _) (fun _ => ?_) (by decide)
    refine Asks.bind _ _ (Asks.sleep 1) (fun _ => ?_) nofun
    refine Asks.bind _ _ ((Asks.typedRequest (parsesOnly_fields backlightField) session
      getSystemSettingsUri _).adapt fun _ => rfl) (fun actual => ?_) nofun
    split
    · exact Asks.failed rfl
    · exact Asks.done ()
  refine hset.adapt fun err => ?_
  cases err with
  | createLunaBridge source => exact responseFailure_invalidates _ source
  | closeLunaBridge source => exact responseFailure_invalidates _ source
  | readback expected source => exact responseFailure_invalidates _ source
  | missingAlertId => rfl
  | invalidAlertId value => rfl
  | unexpectedAlertId alertId => rfl
  | notApplied expected actual => rfl

end LgBuddy
