import LgBuddy.WebOs.Exchanges

/-!
# LgBuddy — verified postconditions of TV commands

Three operations look at the TV after their command, and report what they see: `set_input`,
`blank_screen` and `unblank_screen`. Their verdict is compared with what an observer of the
exchanges knows, whatever the session was before and whatever the network and the TV answer.

* `CommandWatch` — the observer: how the command was attempted, what was reported since;
* `Attempts`, `Looks` — the two kinds of steps, on a session that may have to be opened first;
* `tv_commands_verified` — the verdicts of the three operations.
-/

namespace LgBuddy

open Program (wp wpE wpS wp_bind wp_perform wpE_bind wpE_adapt wpE_mk wpS_bind wpS_liftM wpS_get
  wpS_modify wpS_pure wpS_throw wpS_lift observe calls exec)

/-! ## The observer -/

structure CommandWatch where
  /-- Once the command has been attempted: the kind of its failure, if it failed. -/
  attempt : Option (Option TvErrorKind) := none
  /-- The power state that was last reported since the attempt. -/
  power : Option WebOsPowerState := none
  /-- The input that was reported since that report. -/
  input : Option CurrentInput := none

/-- The command of an operation: its URI, and how an answer to it fails. -/
structure WatchedCommand where
  uri : String
  fault : Except WebOsClientError Json → Option TvErrorKind

def controlFault (answer : Except WebOsClientError Json) : Option TvErrorKind :=
  match WebOsSession.readResponse parseControlResponse answer with
  | .ok _ => none
  | .error err => some (controlFailure err).kind

def screenFault (answer : Except WebOsClientError Json) : Option TvErrorKind :=
  match WebOsSession.readResponse parseControlResponse answer with
  | .error err => some (controlFailure err).kind
  | .ok payload =>
    match parseScreenState payload with
    | .ok _ => none
    | .error err => some (screenControlFailure err).kind

/-- The attempt is over with a poisoned lock, with a failed connection or with an answer. -/
def attemptEnd (command : WatchedCommand) : AdapterExchange → Option (Option TvErrorKind)
  | ⟨.lockSession, false⟩ => some (some .internal)
  | ⟨.connect _, .error err⟩ => some (some (authenticatedClientFailure err).kind)
  | ⟨.request _ uri _, answer⟩ =>
    if uri = command.uri then some (command.fault answer) else none
  | _ => none

def powerReported : AdapterExchange → Option WebOsPowerState
  | ⟨.request _ uri _, .ok response⟩ =>
    if uri = getPowerStateUri then (parsePowerStateResponse response).toOption else none
  | _ => none

def inputReported : AdapterExchange → Option CurrentInput
  | ⟨.request _ uri _, .ok response⟩ =>
    if uri = getForegroundAppUri then
      (parseForegroundAppResponse response).toOption.map CurrentInput.fromRaw
    else none
  | _ => none

namespace CommandWatch

/-- What is reported after the attempt. -/
def look (k : CommandWatch) (x : AdapterExchange) : CommandWatch :=
  match powerReported x with
  | some state => { k with power := some state, input := none }
  | none =>
    match inputReported x with
    | some shown => { k with input := some shown }
    | none => k

def note (command : WatchedCommand) (k : CommandWatch) (c : AdapterCall) (r : c.Answer) :
    CommandWatch :=
  match k.attempt with
  | none => { k with attempt := attemptEnd command ⟨c, r⟩ }
  | some _ => k.look ⟨c, r⟩

/-- The command was attempted, and the failure of the attempt, if any, is one that a look at the
TV may remedy. -/
def Remediable (k : CommandWatch) : Prop :=
  ∃ fault, k.attempt = some fault ∧ fault ≠ some .authentication ∧ fault ≠ some .internal

/-- The screen was seen on, and then this input on it. -/
def ShowsInput (k : CommandWatch) (input : HdmiInput) : Prop :=
  k.power = some .active ∧ ∃ shown, k.input = some shown ∧ shown.isHdmi input = true

end CommandWatch

abbrev watching (command : WatchedCommand) :
    Program.Contract AdapterCall AdapterCall.Answer CommandWatch :=
  .observed (fun _ _ => True) (CommandWatch.note command)

/-- The kind of failure of a command's result. -/
def faultOf : Except TvError Unit → Option TvErrorKind
  | .ok () => none
  | .error err => some err.kind

/-- Verification cannot help exactly after an authentication or internal fault. -/
theorem beyondVerification_eq (result : Except TvError Unit) :
    WebOsTvClient.beyondVerification result = true
      ↔ faultOf result = some .authentication ∨ faultOf result = some .internal := by
  cases result with
  | ok _ => simp [WebOsTvClient.beyondVerification, faultOf]
  | error err =>
    simp [WebOsTvClient.beyondVerification, verificationCannotHelp, faultOf]

/-! ## Attempts and looks -/

section

variable {command : WatchedCommand} {client : WebOsTvClient} {st : AdapterState}
  {k : CommandWatch} {operation : TvOperation} {α : Type}

/-- A watched call may be made at any time, and its answer is noted. -/
theorem wp_watched {c : AdapterCall} {Q : c.Answer → CommandWatch → Prop}
    (h : ∀ r, Q r (k.note command c r)) : wp (watching command) (Program.perform c) Q k := by
  refine (wp_perform c).mpr ⟨trivial, ?_⟩
  rintro r _ rfl
  exact h r

/-- A request on a session, and what is read from the answer. -/
theorem wpE_watchedRequest {D : Type} {parse : Json → Except (ResponseError D) α} {session : Nat}
    {uri : String} {payload : Json} {Q : α → CommandWatch → Prop}
    {E : ResponseError D → CommandWatch → Prop}
    (h : ∀ answer, Program.post Q E (WebOsSession.readResponse parse answer)
      (k.note command (.request session uri payload) answer)) :
    wpE (watching command) (WebOsSession.typedRequest parse session uri payload) Q E k :=
  wpE_mk.mpr (wp_bind.mpr (wp_watched h))

/-- An action that is the command: its answer is the end of the attempt, with its failure. -/
def Attempts (command : WatchedCommand) (action : Nat → ClientM WebOsAdapterFailure Unit) : Prop :=
  ∀ session, wpE (watching command) (action session)
    (fun _ k => k = { attempt := some none })
    (fun failure k => k = { attempt := some (some failure.kind) }) {}

/-- An action that looks at the TV: what it reads is reported by `report`, and a failure reports
nothing. -/
def Looks (command : WatchedCommand) (report : α → CommandWatch → CommandWatch)
    (action : Nat → ClientM WebOsAdapterFailure α) : Prop :=
  ∀ session k, k.attempt ≠ none →
    wpE (watching command) (action session) (fun value k' => k' = report value k)
      (fun _ k' => k' = k) k

/-- An action with the lock and, if need be, the connection before it. -/
theorem wpS_watchedSession {action : Nat → ClientM WebOsAdapterFailure α}
    {Q : α → CommandWatch → Prop} {E : TvErrorKind → CommandWatch → Prop}
    (haction : ∀ session, wpE (watching command) (action session) Q
      (fun failure => E failure.kind) k)
    (hlock : E .internal (k.note command .lockSession false))
    (hlocked : k.note command .lockSession true = k)
    (hconnect : ∀ policy err, E (authenticatedClientFailure err).kind
      (k.note command (.connect policy) (Except.error err)))
    (hconnected : ∀ policy, k.note command (.connect policy) (Except.ok ()) = k) :
    wpS (watching command) (client.withSession operation action) (fun value _ => Q value)
      (fun (err : TvError) _ => E err.kind) st k := by
  have hensure : wpS (watching command) (client.ensureSession operation)
      (fun _ _ k' => k' = k) (fun (err : TvError) _ => E err.kind) st k := by
    unfold WebOsTvClient.ensureSession
    refine wpS_bind.mpr (wpS_get.mpr ?_)
    cases st.session with
    | some session => exact (wpS_pure _).mpr rfl
    | none =>
      refine wpS_bind.mpr (wpS_liftM.mpr (wp_watched fun answer => ?_))
      cases answer with
      | error err => exact hconnect _ err
      | ok _ =>
        rw [hconnected]
        exact wpS_bind.mpr (wpS_modify.mpr ((wpS_pure _).mpr rfl))
  unfold WebOsTvClient.withSession WebOsTvClient.lockSession WebOsTvClient.runOnSession
  refine wpS_bind.mpr (wpS_bind.mpr (wpS_liftM.mpr (wp_watched fun given => ?_)))
  cases given with
  | false => exact hlock
  | true =>
    rw [hlocked]
    refine (wpS_pure ()).mpr (wpS.bind hensure fun session st k' hk => ?_)
    subst hk
    refine wpS_bind.mpr (wpS_liftM.mpr (Program.wp.mono (fun r k hr => ?_) (haction session)))
    cases r with
    | ok value => exact hr
    | error failure => exact wpS_bind.mpr (wpS_modify.mpr ((wpS_throw _).mpr hr))

/-- The command, from the lock to its answer. -/
theorem wpS_attempt {action : Nat → ClientM WebOsAdapterFailure Unit}
    (haction : Attempts command action) :
    wpS (watching command) (client.withSession operation action)
      (fun _ _ k => k = { attempt := some none })
      (fun err _ k => k = { attempt := some (some err.kind) }) st {} :=
  wpS_watchedSession (E := fun kind k => k = { attempt := some (some kind) }) haction rfl rfl
    (fun _ _ => rfl) fun _ => rfl

/-- A look at the TV after the attempt. -/
theorem wpS_look {report : α → CommandWatch → CommandWatch}
    {action : Nat → ClientM WebOsAdapterFailure α} (haction : Looks command report action)
    (hk : k.attempt ≠ none) :
    wpS (watching command) (client.withSession operation action)
      (fun value _ k' => k' = report value k) (fun _ _ k' => k' = k) st k := by
  obtain ⟨attempt | attempt, power, input⟩ := k
  · exact absurd rfl hk
  · exact wpS_watchedSession (E := fun _ k' => k' = _) (fun session => haction session _ hk) rfl rfl
      (fun _ _ => rfl) fun _ => rfl

/-! ### The actions -/

/-- Switching the input attempts its one request. -/
theorem attempts_switchInput (inputId : String) :
    Attempts ⟨switchInputUri, controlFault⟩ fun session =>
      ExceptT.adapt controlFailure (WebOsSession.switchInput session inputId) := by
  intro session
  refine wpE_adapt.mpr (wpE_bind.mpr (wpE_watchedRequest fun answer => ?_))
  show Program.post _ _ _ ({ attempt := some (controlFault answer) } : CommandWatch)
  unfold controlFault
  cases WebOsSession.readResponse parseControlResponse answer with
  | ok payload => rfl
  | error err => rfl

/-- Setting the screen attempts its one request, and judges it by the state answered. -/
theorem attempts_screen {uri : String}
    {request : Nat → ClientM WebOsScreenControlError WebOsPowerState}
    (hrequest : ∀ session, request session = WebOsSession.setScreenPower session uri) :
    Attempts ⟨uri, screenFault⟩ fun session => do
      let _ ← ExceptT.adapt screenControlFailure (request session)
      return () := by
  intro session
  dsimp only
  rw [hrequest]
  refine wpE_bind.mpr (wpE_adapt.mpr (wpE_bind.mpr (wpE_adapt.mpr ?_)))
  refine wpE_watchedRequest fun answer => ?_
  have hnote : CommandWatch.note ⟨uri, screenFault⟩ {} (.request session uri
      (.object [("standbyMode", .string "active")])) answer
        = { attempt := some (screenFault answer) } := by
    show ({ attempt := if uri = uri then _ else none } : CommandWatch) = _
    rw [if_pos rfl]
  rw [hnote]
  cases hresponse : WebOsSession.readResponse parseControlResponse answer with
  | error err =>
    have hfault : screenFault answer = some (controlFailure err).kind := by
      unfold screenFault
      rw [hresponse]
    rw [hfault]
    rfl
  | ok payload =>
    show Program.post _ _ (parseScreenState payload) _
    cases hstate : parseScreenState payload with
    | ok state =>
      have hfault : screenFault answer = none := by
        unfold screenFault
        rw [hresponse]
        dsimp only
        rw [hstate]
      rw [hfault]
      rfl
    | error err =>
      have hfault : screenFault answer = some (screenControlFailure err).kind := by
        unfold screenFault
        rw [hresponse]
        dsimp only
        rw [hstate]
      rw [hfault]
      rfl

/-- What a power query reports is what its answer parses to. -/
theorem powerReported_answer (session : Nat) (payload response : Json) :
    powerReported ⟨.request session getPowerStateUri payload, Except.ok response⟩
      = (parsePowerStateResponse response).toOption := by
  simp [powerReported]

/-- Another request reports no power state. -/
theorem powerReported_of_ne {uri : String} (huri : uri ≠ getPowerStateUri) (session : Nat)
    (payload response : Json) :
    powerReported ⟨.request session uri payload, Except.ok response⟩ = none := by
  simp [powerReported, huri]

/-- What an input query reports is what its answer parses to. -/
theorem inputReported_answer (session : Nat) (payload response : Json) :
    inputReported ⟨.request session getForegroundAppUri payload, Except.ok response⟩
      = (parseForegroundAppResponse response).toOption.map CurrentInput.fromRaw := by
  simp [inputReported]

/-- The power look records the state reported. -/
theorem looks_power : Looks command
    (fun state k => { k with power := some state, input := none })
    fun session => ExceptT.adapt powerStateFailure (WebOsSession.powerState session) := by
  intro session k hk
  refine wpE_adapt.mpr (wpE_watchedRequest fun answer => ?_)
  obtain ⟨attempt | attempt, power, input⟩ := k
  · exact absurd rfl hk
  · cases answer with
    | error err => rfl
    | ok response =>
      show Program.post _ _ (parsePowerStateResponse response) (CommandWatch.look _ _)
      unfold CommandWatch.look
      rw [powerReported_answer]
      cases parsePowerStateResponse response with
      | ok state => rfl
      | error err => rfl

/-- The input look records the input reported, and no power state. -/
theorem looks_input : Looks command (fun shown k => { k with input := some shown })
    WebOsTvClient.readCurrentInput := by
  intro session k hk
  refine wpE_bind.mpr (wpE_adapt.mpr (wpE_watchedRequest fun answer => ?_))
  obtain ⟨attempt | attempt, power, input⟩ := k
  · exact absurd rfl hk
  · cases answer with
    | error err => rfl
    | ok response =>
      show Program.post _ _ (parseForegroundAppResponse response)
        (CommandWatch.look { attempt := some attempt, power, input }
          ⟨.request session getForegroundAppUri (.object []), Except.ok response⟩)
      unfold CommandWatch.look
      rw [powerReported_of_ne (by decide), inputReported_answer]
      cases parseForegroundAppResponse response with
      | ok appId => rfl
      | error err => rfl

/-! ## The verdicts -/

/-- The command's result, caught as a value: the observer knows how it failed. -/
theorem wpS_attemptResult {β : Type} {action : Nat → ClientM WebOsAdapterFailure Unit}
    {next : Except TvError Unit → AdapterM β} {Q : β → AdapterState → CommandWatch → Prop}
    {E : TvError → AdapterState → CommandWatch → Prop} (haction : Attempts command action)
    (h : ∀ result st, wpS (watching command) (next result) Q E st
      { attempt := some (faultOf result) }) :
    wpS (watching command)
      (ExceptT.lift (client.withSession operation action).run >>= next) Q E st {} := by
  refine wpS_bind.mpr (wpS_lift.mpr (Program.wpS.mono ?_ ?_ (wpS_attempt haction)))
  · rintro value st' _ rfl
    exact h (.ok value) st'
  · rintro err st' _ rfl
    exact h (.error err) st'

/-- Nothing has been seen since the attempt. -/
def unseen (result : Except TvError Unit) : CommandWatch := { attempt := some (faultOf result) }

/-- An error beyond verification is returned as it is. -/
theorem wpS_beyond {result : Except TvError Unit} {Q : Unit → AdapterState → CommandWatch → Prop}
    {E : TvError → AdapterState → CommandWatch → Prop}
    (hbeyond : WebOsTvClient.beyondVerification result = true) (hE : ∀ err, E err st k) :
    wpS (watching command) (AdapterM.ofExcept result) Q E st k := by
  cases result with
  | ok _ => cases hbeyond
  | error err => exact hE err

/-- The verification of a power state succeeds exactly where the state reported is the expected
one. -/
theorem wpS_verifyPowerState (expected : WebOsPowerState) (result : Except TvError Unit) :
    wpS (watching command) (client.verifyPowerState operation expected result)
      (fun _ _ k => k.power = some expected) (fun _ _ k => k.power ≠ some expected) st
      (unseen result) := by
  unfold WebOsTvClient.verifyPowerState
  split
  · rename_i hbeyond
    exact wpS_beyond hbeyond nofun
  · refine wpS_bind.mpr (wpS_lift.mpr (Program.wpS.mono ?_ ?_ (wpS_look looks_power nofun)))
    · rintro actual st' _ rfl
      dsimp only
      split
      · rename_i hactual
        exact congrArg some hactual
      · rename_i hactual
        exact fun hpower => hactual (Option.some.inj hpower)
    · rintro err st' _ rfl
      exact nofun

/-- The look at the visible input succeeds exactly where it shows the input asked for. -/
theorem wpS_verifyVisibleInput (input : HdmiInput) (result : Except TvError Unit) (hk : k.attempt ≠ none)
    (hinput : k.input = none) :
    wpS (watching command) (client.verifyVisibleInput input result)
      (fun _ _ k' => k'.attempt = k.attempt ∧ k'.power = k.power
        ∧ ∃ shown, k'.input = some shown ∧ shown.isHdmi input = true)
      (fun _ _ k' => ¬ ∃ shown, k'.input = some shown ∧ shown.isHdmi input = true) st k := by
  unfold WebOsTvClient.verifyVisibleInput
  refine wpS_bind.mpr (wpS_lift.mpr (Program.wpS.mono ?_ ?_ (wpS_look looks_input hk)))
  · rintro actual st' _ rfl
    dsimp only
    split
    · rename_i hshown
      exact ⟨rfl, rfl, actual, rfl, hshown⟩
    · rename_i hshown
      rintro ⟨shown, heq, hhdmi⟩
      cases heq
      exact hshown hhdmi
  · rintro err st' _ rfl ⟨shown, heq, -⟩
    rw [hinput] at heq
    cases heq

/-- The claim of `set_input`: the attempt failed in no way beyond remedy, and the input is seen. -/
def CommandWatch.InputVerified (k : CommandWatch) (input : HdmiInput) : Prop :=
  k.Remediable ∧ k.ShowsInput input

/-- The verification of an input succeeds exactly where the exchanges verified it. -/
theorem wpS_verifyInput (input : HdmiInput) (result : Except TvError Unit) :
    wpS (watching command) (client.verifyInput input result)
      (fun _ _ k => k.InputVerified input) (fun _ _ k => ¬ k.InputVerified input) st
      (unseen result) := by
  unfold WebOsTvClient.verifyInput
  split
  · rename_i hbeyond
    exact wpS_beyond hbeyond fun err hverified => by cases hverified.2.1
  · rename_i hbeyond
    rw [beyondVerification_eq, not_or] at hbeyond
    refine wpS_bind.mpr (wpS_lift.mpr (Program.wpS.mono ?_ ?_ (wpS_look looks_power nofun)))
    · rintro actual st' _ rfl
      dsimp only
      split
      · rename_i hactive
        subst hactive
        -- the power look comes first, and only an active screen is asked for its input
        refine Program.wpS.mono ?_ ?_ (wpS_verifyVisibleInput input result nofun rfl)
        · rintro _ st'' k ⟨hattempt, hpower, hshown⟩
          exact ⟨⟨faultOf result, hattempt, hbeyond⟩, hpower, hshown⟩
        · exact fun err st'' k hshown hverified => hshown hverified.2.2
      · rename_i hactive
        intro hverified
        exact hactive (Option.some.inj hverified.2.1)
    · rintro err st' _ rfl hverified
      cases hverified.2.1

/-- Setting an input returns as its exchanges verified it. -/
theorem wpS_setInput (input : HdmiInput) :
    wpS (watching ⟨switchInputUri, controlFault⟩) (client.setInput input)
      (fun _ _ k => k.InputVerified input) (fun _ _ k => ¬ k.InputVerified input) st {} := by
  unfold WebOsTvClient.setInput
  split
  · rintro ⟨⟨fault, hattempt, -⟩, -⟩
    cases hattempt
  · exact wpS_attemptResult (attempts_switchInput input.asStr) fun result st =>
      wpS_verifyInput input result

/-- A screen operation returns as its exchanges verified it. -/
theorem wpS_screenOperation {uri : String} {expected : WebOsPowerState}
    {request : Nat → ClientM WebOsScreenControlError WebOsPowerState}
    (hrequest : ∀ session, request session = WebOsSession.setScreenPower session uri) :
    wpS (watching ⟨uri, screenFault⟩) (client.screenOperation operation expected request)
      (fun _ _ k => k.power = some expected) (fun _ _ k => k.power ≠ some expected) st {} :=
  wpS_attemptResult (attempts_screen hrequest) fun result _ =>
    wpS_verifyPowerState expected result

/-! ## Runs -/

/-- What the observer knows after an operation. -/
def WebOsTvClient.watched {σ : Type} (command : WatchedCommand) (operation : AdapterM Unit)
    (st : AdapterState) (handle : σ → (c : AdapterCall) → c.Answer × σ) (s : σ) : CommandWatch :=
  observe (CommandWatch.note command) {} (calls handle (operation.run.run st) s)

def WebOsTvClient.verdict {σ : Type} (operation : AdapterM Unit) (st : AdapterState)
    (handle : σ → (c : AdapterCall) → c.Answer × σ) (s : σ) : Except TvError Unit :=
  (exec handle (operation.run.run st) s).1.1

/-- A program judged by its exchanges succeeds exactly where what they reported says so. -/
theorem verdict_iff {σ : Type} {p : AdapterM Unit} {P : CommandWatch → Prop}
    (h : wpS (watching command) p (fun _ _ k => P k) (fun _ _ k => ¬ P k) st {})
    (handle : σ → (c : AdapterCall) → c.Answer × σ) (s : σ) :
    WebOsTvClient.verdict p st handle s = .ok ()
      ↔ P (WebOsTvClient.watched command p st handle s) := by
  have hend := (Program.wp.calls h handle s).2
  unfold WebOsTvClient.verdict WebOsTvClient.watched
  revert hend
  cases (exec handle (p.run.run st) s).1.1 with
  | ok value => exact fun hP => ⟨fun _ => hP, fun _ => rfl⟩
  | error err => exact fun hP => ⟨nofun, fun h => absurd h hP⟩

end

/-- **Verified postconditions.** Whatever the session was before, and whatever the network and the
TV answer: `set_input` succeeds exactly when the attempt of its command did not fail for want of
authentication or internally, the power state was then reported as active, and the input after
that as the one asked for; `blank_screen` exactly when the screen was reported as off after the
attempt, and `unblank_screen` exactly when it was reported as active. -/
theorem tv_commands_verified {σ : Type} (client : WebOsTvClient) (st : AdapterState)
    (handle : σ → (c : AdapterCall) → c.Answer × σ) (s : σ) :
    (∀ input, WebOsTvClient.verdict (client.setInput input) st handle s = .ok ()
      ↔ (WebOsTvClient.watched ⟨switchInputUri, controlFault⟩ (client.setInput input) st handle
          s).InputVerified input)
    ∧ (WebOsTvClient.verdict client.blankScreen st handle s = .ok ()
      ↔ (WebOsTvClient.watched ⟨turnOffScreenUri, screenFault⟩ client.blankScreen st handle
          s).power = some .screenOff)
    ∧ (WebOsTvClient.verdict client.unblankScreen st handle s = .ok ()
      ↔ (WebOsTvClient.watched ⟨turnOnScreenUri, screenFault⟩ client.unblankScreen st handle
          s).power = some .active) :=
  ⟨fun input => verdict_iff (P := fun k => k.InputVerified input) (wpS_setInput input) handle s,
    verdict_iff (P := fun k => k.power = some .screenOff)
      (wpS_screenOperation fun _ => rfl) handle s,
    verdict_iff (P := fun k => k.power = some .active)
      (wpS_screenOperation fun _ => rfl) handle s⟩

end LgBuddy
