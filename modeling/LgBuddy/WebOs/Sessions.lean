import LgBuddy.Machine.Mealy
import LgBuddy.WebOs.Exchanges

/-!
# LgBuddy — commands are not replayed, broken sessions are not used again

The laws of a run of `TvClient` operations on one `WebOsTvClient`, whatever the network answers.

* `Sound` — what the state of the client keeps of the exchanges so far;
* `Keeps` — an operation asks for each thing at most once; `left_run` covers all operations;
* `SessionLaw` — the laws of a whole run; `session_law` is the theorem.
-/

namespace LgBuddy

/-! ## Operations -/

/-- **What the client knows.** Its session has not ended, and every session it has used is one it
has opened. -/
structure Sound (st : AdapterState) (xs : List AdapterExchange) : Prop where
  opened : st.opened = sessionsOpened xs
  known : ∀ x ∈ xs, ∀ session, onSession session x → session < st.opened
  session : ∀ session, st.session = some session → session < st.opened ∧ Alive session xs

theorem Sound.init : Sound {} [] := ⟨rfl, nofun, nofun⟩

/-- A session that is not used yet is alive. -/
theorem Sound.next_alive {st : AdapterState} {xs : List AdapterExchange} (h : Sound st xs) :
    Alive st.opened xs :=
  fun x hx hended => absurd (h.known x hx st.opened hended.onSession) (Nat.lt_irrefl _)

/-- A closed adapter is sound. -/
theorem Sound.close {st : AdapterState} {xs : List AdapterExchange} (h : Sound st xs) :
    Sound st.close xs :=
  ⟨h.opened, h.known, nofun⟩

/-- An exchange that is no request, and opens nothing. -/
theorem Sound.silent {st : AdapterState} {xs : List AdapterExchange} (h : Sound st xs)
    {x : AdapterExchange} (hasked : asked x = none) (hopens : opensSession x = false) :
    Sound st (xs ++ [x]) := by
  have hoff : ∀ session, ¬ onSession session x := fun session hon => by
    simp [onSession, hasked] at hon
  refine ⟨?_, ?_, fun session hsession => ?_⟩
  · rw [h.opened, sessionsOpened_append]
    simp [sessionsOpened, hopens]
  · intro y hy session hon
    rcases List.mem_append.mp hy with hold | hnew
    · exact h.known y hold session hon
    · cases List.mem_singleton.mp hnew
      exact absurd hon (hoff session)
  · obtain ⟨hlt, halive⟩ := h.session session hsession
    refine ⟨hlt, halive.append fun y hy hended => ?_⟩
    cases List.mem_singleton.mp hy
    exact hoff session hended.onSession

/-- A connection gives a session that nothing has been asked on. -/
theorem Sound.open {st : AdapterState} {xs : List AdapterExchange} (h : Sound st xs)
    (policy : WebOsPairingPolicy) :
    Sound st.open (xs ++ [⟨.connect policy, Except.ok ()⟩]) := by
  refine ⟨?_, ?_, fun session hsession => ?_⟩
  · show st.opened + 1 = _
    rw [h.opened, sessionsOpened_append]
    rfl
  · intro x hx session hon
    rcases List.mem_append.mp hx with hold | hnew
    · exact Nat.lt_succ_of_lt (h.known x hold session hon)
    · cases List.mem_singleton.mp hnew
      simp [onSession, asked] at hon
  · cases hsession
    refine ⟨Nat.lt_succ_self _, h.next_alive.append fun x hx hended => ?_⟩
    cases List.mem_singleton.mp hx
    have hon := hended.onSession
    simp [onSession, asked] at hon

/-- An action on a session that the client has opened. -/
theorem Sound.grown {st : AdapterState} {past now now' : List AdapterExchange} {session : Nat}
    {uris : List String} (h : Sound st (past ++ now)) (hsession : session < st.opened)
    (hgrown : Grown session uris now now')
    (hkept : ∀ s, st.session = some s → Alive s (past ++ now')) : Sound st (past ++ now') := by
  obtain ⟨xs, rfl, hsub, hopened⟩ := hgrown
  rw [← List.append_assoc] at hkept ⊢
  refine ⟨?_, ?_, fun s hs => ⟨(h.session s hs).1, hkept s hs⟩⟩
  · rw [h.opened, sessionsOpened_append (past ++ now), hopened, Nat.add_zero]
  · intro x hx s hon
    rcases List.mem_append.mp hx with hold | hnew
    · exact h.known x hold s hon
    · obtain ⟨⟨s', uri⟩, hasked, hs'⟩ : ∃ a, asked x = some a ∧ a.1 = s := by
        simpa [onSession] using hon
      cases hs'
      have hmem : (s', uri) ∈ uris.map (session, ·) :=
        hsub.subset (List.mem_filterMap.mpr ⟨x, hnew, hasked⟩)
      obtain ⟨_, _, heq⟩ := List.mem_map.mp hmem
      cases heq
      exact hsession

section Operations

open Program (wpS wpS_bind wpS_liftM wpS_get wpS_modify wpS_pure wpS_throw wpS_lift)

variable {client : WebOsTvClient} {command : TvCommand} {past now : List AdapterExchange}
  {st : AdapterState} {uris : List String}

/-- After a step that asked for some of `uris`, however it ended. -/
abbrev After (past now : List AdapterExchange) (uris : List String) (st' : AdapterState)
    (now' : List AdapterExchange) : Prop :=
  Sound st' (past ++ now') ∧ Turned uris now now'

/-- The session of the field, or the next one. -/
theorem wpS_ensureSession {operation : TvOperation} (hst : Sound st (past ++ now)) :
    wpS (callContract command past) (client.ensureSession operation)
      (fun session st' now' => Sound st' (past ++ now') ∧ Turned [] now now'
        ∧ st'.session = some session
        ∧ (∀ s, st.session = some s → s = session ∧ now' = now))
      (fun _ st' now' => Sound st' (past ++ now') ∧ Turned [] now now'
        ∧ st'.session = none ∧ st.session = none) st now := by
  refine wpS_bind.mpr (wpS_get.mpr ?_)
  cases hsession : st.session with
  | some session =>
    refine ⟨hst, Turned.refl [] now, hsession, fun s hs => ?_⟩
    cases hs
    exact ⟨rfl, rfl⟩
  | none =>
    refine wpS_bind.mpr (wpS_liftM.mpr ⟨trivial, ?_⟩)
    rintro answer now' rfl
    have hturned : Turned [] now
        (now ++ [⟨AdapterCall.connect client.pairingPolicy, answer⟩]) :=
      ⟨[_], rfl, List.nil_sublist _⟩
    cases answer with
    | error err =>
      have hsound := hst.silent (x := ⟨AdapterCall.connect client.pairingPolicy, .error err⟩)
        rfl rfl
      rw [List.append_assoc] at hsound
      exact ⟨hsound, hturned, hsession, rfl⟩
    | ok _ =>
      have hsound := hst.open client.pairingPolicy
      rw [List.append_assoc] at hsound
      exact ⟨hsound, hturned, rfl, nofun⟩

/-- The lock on the session is taken, or the operation fails. -/
theorem wpS_lockSession {operation : TvOperation} (hst : Sound st (past ++ now)) :
    wpS (callContract command past) (WebOsTvClient.lockSession operation)
      (fun _ st' now' => st' = st ∧ After past now [] st' now')
      (fun _ st' now' => After past now [] st' now') st now := by
  refine wpS_bind.mpr (wpS_liftM.mpr ⟨trivial, ?_⟩)
  rintro given now' rfl
  have hsound := hst.silent (x := ⟨AdapterCall.lockSession, given⟩) rfl rfl
  rw [List.append_assoc] at hsound
  have hturned : Turned [] now (now ++ [⟨AdapterCall.lockSession, given⟩]) :=
    ⟨[_], rfl, List.nil_sublist _⟩
  cases given with
  | true => exact ⟨rfl, hsound, hturned⟩
  | false => exact ⟨hsound, hturned⟩

/-- An action, with the session it is run on. A session of the field is given up only if the
action broke it. -/
theorem wpS_runOnSession {α : Type} {operation : TvOperation}
    {action : Nat → ClientM WebOsAdapterFailure α} (haction : ∀ s, AsksAs s uris (action s))
    (hst : Sound st (past ++ now)) (huris : powerOffUri ∉ uris)
    (hmay : ∀ uri ∈ uris, MayAsk command past now uri) :
    wpS (callContract command past) (client.runOnSession operation action)
      (fun _ st' now' => After past now uris st' now')
      (fun _ st' now' => After past now uris st' now'
        ∧ ∀ s, st.session = some s → st'.session = none →
          Grown s uris now now' ∧ ∃ x ∈ now', Broke s x) st now := by
  refine wpS_bind.mpr (Program.wpS.mono ?_ ?_ (wpS_ensureSession hst))
  · intro session st' now' ⟨hsound, hturned, hsession, hsame⟩
    obtain ⟨hlt, halive⟩ := hsound.session session hsession
    have hmay' : ∀ uri ∈ uris, MayAsk command past now' uri := fun uri huri =>
      (hmay uri huri).turned hturned List.not_mem_nil
    refine wpS_bind.mpr (wpS_liftM.mpr ?_)
    refine Program.wp.mono ?_ (haction session command past now' halive huris hmay')
    intro result now'' hresult
    cases result with
    | ok value =>
      obtain ⟨hgrown, halive'⟩ := hresult
      refine ⟨hsound.grown hlt hgrown fun s hs => ?_, hturned.trans hgrown.turned⟩
      rw [hsession] at hs
      cases hs
      exact halive'
    | error failure =>
      obtain ⟨hgrown, hkept, hbroke⟩ := hresult
      refine wpS_bind.mpr (wpS_modify.mpr (wpS_throw _ |>.mpr ?_))
      have hafter : Turned uris now now'' := hturned.trans hgrown.turned
      -- a failure closes the session exactly where it invalidates it
      cases hfailure : failure.invalidatesSession with
      | false =>
        rw [AdapterState.afterFailure, hfailure]
        refine ⟨⟨hsound.grown hlt hgrown fun s hs => ?_, hafter⟩, fun s _ hnone => ?_⟩
        · rw [hsession] at hs
          cases hs
          exact hkept hfailure
        · rw [if_neg Bool.false_ne_true, hsession] at hnone
          cases hnone
      | true =>
        rw [AdapterState.afterFailure, hfailure, if_pos rfl]
        refine ⟨⟨hsound.close.grown hlt hgrown nofun, hafter⟩, fun s hs _ => ?_⟩
        obtain ⟨rfl, rfl⟩ := hsame s hs
        exact ⟨hgrown, hbroke hfailure⟩
  · intro err st' now' ⟨hsound, hturned, _, hnone⟩
    refine ⟨⟨hsound, ?_⟩, fun s hs => ?_⟩
    · obtain ⟨xs, rfl, hsub⟩ := hturned
      exact ⟨xs, rfl, hsub.trans (List.nil_sublist _)⟩
    · rw [hnone] at hs
      cases hs

/-- **An operation that asks for each thing at most once.** -/
def Keeps {α : Type} (command : TvCommand) (uris : List String) (operation : AdapterM α) : Prop :=
  ∀ past now st, Sound st (past ++ now) → powerOffUri ∉ uris →
    (∀ uri ∈ uris, MayAsk command past now uri) →
    wpS (callContract command past) operation (fun _ => After past now uris)
      (fun _ => After past now uris) st now

theorem Keeps.done {α : Type} (a : α) : Keeps command [] (pure a : AdapterM α) :=
  fun _ now _ hst _ _ => ⟨hst, Turned.refl [] now⟩

theorem Keeps.failed {α : Type} (err : TvError) : Keeps command [] (throw err : AdapterM α) :=
  fun _ now _ hst _ _ => ⟨hst, Turned.refl [] now⟩

theorem Keeps.ofExcept {α : Type} (r : Except TvError α) :
    Keeps command [] (AdapterM.ofExcept r) := by
  cases r with
  | ok a => exact Keeps.done a
  | error err => exact Keeps.failed err

/-- Less may be asked for. -/
theorem Keeps.weaken {α : Type} (uris' : List String) {operation : AdapterM α}
    (h : Keeps command [] operation) : Keeps command uris' operation := by
  intro past now st hst _ _
  have hweak : ∀ st' now', After past now [] st' now' → After past now uris' st' now' := by
    intro st' now' ⟨hsound, xs, hxs, hsub⟩
    exact ⟨hsound, xs, hxs, hsub.trans (List.nil_sublist _)⟩
  exact Program.wpS.mono (fun _ => hweak) (fun _ => hweak)
    (h past now st hst List.not_mem_nil nofun)

/-- Two parts that ask different questions. -/
theorem Keeps.bind {α β : Type} (uris uris' : List String) {operation : AdapterM α}
    {next : α → AdapterM β} (h : Keeps command uris operation)
    (hnext : ∀ a, Keeps command uris' (next a)) (hdisjoint : ∀ uri ∈ uris', uri ∉ uris) :
    Keeps command (uris ++ uris') (operation >>= next) := by
  intro past now st hst huris hmay
  rw [List.mem_append, not_or] at huris
  have hfirst := h past now st hst huris.1
    fun uri huri => hmay uri (List.mem_append_left _ huri)
  refine wpS_bind.mpr (Program.wpS.mono ?_ ?_ hfirst)
  · intro a st' now' ⟨hsound, hturned⟩
    have hmay' : ∀ uri ∈ uris', MayAsk command past now' uri := fun uri huri =>
      (hmay uri (List.mem_append_right _ huri)).turned hturned (hdisjoint uri huri)
    refine Program.wpS.mono ?_ ?_ (hnext a past now' st' hsound huris.2 hmay')
    · exact fun _ st'' now'' ⟨hsound', hturned'⟩ => ⟨hsound', hturned.trans hturned'⟩
    · exact fun _ st'' now'' ⟨hsound', hturned'⟩ => ⟨hsound', hturned.trans hturned'⟩
  · intro err st' now' ⟨hsound, hturned⟩
    exact ⟨hsound, hturned.trans (Turned.refl uris' now')⟩

/-- The error of an operation, kept as a value. -/
theorem Keeps.caught {α : Type} {operation : AdapterM α} (h : Keeps command uris operation) :
    Keeps command uris (ExceptT.lift operation.run : AdapterM (Except TvError α)) :=
  fun past now st hst huris hmay => wpS_lift.mpr (h past now st hst huris hmay)

/-- An action on a session that may have to be opened first. -/
theorem Keeps.withSession {α : Type} {operation : TvOperation}
    {action : Nat → ClientM WebOsAdapterFailure α} (haction : ∀ s, AsksAs s uris (action s)) :
    Keeps command uris (client.withSession operation action) := by
  refine Keeps.bind [] uris (fun past now st hst _ _ => ?_) (fun _ => ?_)
    (fun _ _ => List.not_mem_nil)
  · exact Program.wpS.mono (fun _ _ _ h => h.2) (fun _ _ _ h => h) (wpS_lockSession hst)
  · intro past now st hst huris hmay
    exact Program.wpS.mono (fun _ _ _ h => h) (fun _ _ _ h => h.1)
      (wpS_runOnSession haction hst huris hmay)

/-- A control asks its one question. -/
theorem Keeps.controlOperation {operation : TvOperation} (uri : String) {payload : Json} :
    Keeps command [uri]
      (client.controlOperation operation (WebOsSession.control · uri payload)) :=
  Keeps.withSession fun s => AsksAs.control s uri payload

/-- The verification of a control reads the power state. -/
theorem Keeps.verifyPowerState {operation : TvOperation} {expected : WebOsPowerState}
    {commandResult : Except TvError Unit} :
    Keeps command [getPowerStateUri]
      (client.verifyPowerState operation expected commandResult) := by
  unfold WebOsTvClient.verifyPowerState
  split
  · exact (Keeps.ofExcept _).weaken _
  · refine Keeps.bind [getPowerStateUri] []
      (Keeps.caught (Keeps.withSession AsksAs.readPowerState)) (fun observed => ?_) nofun
    cases observed with
    | ok actual =>
      dsimp only
      split
      · exact Keeps.done ()
      · exact Keeps.failed _
    | error verificationError => exact Keeps.failed _

/-- The verification of an input reads the input that is shown. -/
theorem Keeps.verifyVisibleInput {input : HdmiInput} {commandResult : Except TvError Unit} :
    Keeps command [getForegroundAppUri] (client.verifyVisibleInput input commandResult) := by
  refine Keeps.bind [getForegroundAppUri] []
    (Keeps.caught (Keeps.withSession AsksAs.readCurrentInput)) (fun observed => ?_) nofun
  cases observed with
  | ok actual =>
    dsimp only
    split
    · exact Keeps.done ()
    · exact Keeps.failed _
  | error verificationError => exact Keeps.failed _

/-- The verification of an input reads the power state, and then the input that is shown. -/
theorem Keeps.verifyInput {input : HdmiInput} {commandResult : Except TvError Unit} :
    Keeps command [getPowerStateUri, getForegroundAppUri]
      (client.verifyInput input commandResult) := by
  unfold WebOsTvClient.verifyInput
  split
  · exact (Keeps.ofExcept _).weaken _
  · refine Keeps.bind [getPowerStateUri] [getForegroundAppUri]
      (Keeps.caught (Keeps.withSession AsksAs.readPowerState)) (fun observed => ?_) (by decide)
    cases observed with
    | ok actual =>
      dsimp only
      split
      · exact Keeps.verifyVisibleInput
      · exact (Keeps.failed _).weaken _
    | error verificationError => exact (Keeps.failed _).weaken _

/-- Setting an input: the control and then both reads. -/
theorem Keeps.setInput {input : HdmiInput} :
    Keeps command [switchInputUri, getPowerStateUri, getForegroundAppUri]
      (client.setInput input) := by
  unfold WebOsTvClient.setInput
  split
  · exact (Keeps.failed _).weaken _
  · exact Keeps.bind [switchInputUri] [getPowerStateUri, getForegroundAppUri]
      (Keeps.caught (Keeps.controlOperation _)) (fun _ => Keeps.verifyInput) (by decide)

/-- The brightness is set over the bridge and read back. -/
theorem Keeps.setOledBrightness {brightness : OledBrightness} :
    Keeps command [createAlertUri, closeAlertUri, getSystemSettingsUri]
      (client.setOledBrightness brightness) := by
  unfold WebOsTvClient.setOledBrightness
  split
  · exact (Keeps.failed _).weaken _
  · exact Keeps.withSession fun s => AsksAs.setBacklightBrightness _ s _

/-- The screen is switched and its state verified. -/
theorem Keeps.screenOperation {operation : TvOperation} {expected : WebOsPowerState}
    {uri : String} (huri : uri ≠ getPowerStateUri) :
    Keeps command [uri, getPowerStateUri]
      (client.screenOperation operation expected (WebOsSession.setScreenPower · uri)) := by
  refine Keeps.bind [uri] [getPowerStateUri]
    (Keeps.caught (Keeps.withSession fun s => AsksAs.setScreenPower s uri))
    (fun _ => Keeps.verifyPowerState) fun u hu hmem => ?_
  cases List.mem_singleton.mp hu
  exact huri (List.mem_singleton.mp hmem).symm

/-! ### Reading the input twice -/

/-- Where nothing was asked no question was. -/
theorem not_asks_of_turned {now : List AdapterExchange} (h : Turned [] [] now) (uri : String) :
    ∀ x ∈ now, asks uri x = false := by
  obtain ⟨xs, rfl, hsub⟩ := h
  intro x hx
  by_contra hasks
  exact List.not_mem_nil (asks_of_sublist hsub hx (by simpa using hasks))

/-- The first read broke a session that the call has found in the field: it may be repeated. -/
theorem secondRead_of_broke {past now now' : List AdapterExchange} {session : Nat}
    (hsession : session < sessionsOpened past) (halive : Alive session (past ++ now))
    (hnow : Turned [] [] now) (hgrown : Grown session [getForegroundAppUri] now now')
    (hbroke : ∃ x ∈ now', Broke session x) :
    MayAsk .currentInput past now' getForegroundAppUri := by
  obtain ⟨xs, rfl, hsub, -⟩ := hgrown
  obtain ⟨x, hx, hxbroke⟩ := hbroke
  have hnone := not_asks_of_turned hnow getForegroundAppUri
  -- the broken request is the one that was added
  have hxnew : x ∈ xs := by
    refine (List.mem_append.mp hx).resolve_left fun hold => ?_
    exact halive x (List.mem_append_right _ hold) (Or.inl hxbroke)
  have hxasks : asks getForegroundAppUri x := by
    obtain ⟨uri, payload, err, rfl, -⟩ := hxbroke
    have hmem := hsub.subset (List.mem_filterMap.mpr ⟨_, hxnew, rfl⟩)
    cases List.mem_singleton.mp hmem
    rfl
  have hle : xs.countP (asks getForegroundAppUri) ≤ 1 := calc
    xs.countP (asks getForegroundAppUri) ≤ xs.countP fun x => (asked x).isSome := by
      refine List.countP_mono_left fun y _ hy => ?_
      obtain ⟨a, ha, -⟩ : ∃ a, asked y = some a ∧ a.2 = getForegroundAppUri := by
        simpa [asks] using hy
      rw [ha]
      rfl
    _ = (xs.filterMap asked).length := List.length_filterMap_eq_countP.symm
    _ ≤ 1 := hsub.length_le
  have hone : xs.countP (asks getForegroundAppUri) = 1 :=
    Nat.le_antisymm hle (List.countP_pos_iff.mpr ⟨x, hxnew, hxasks⟩)
  have hcount : (now ++ xs).countP (asks getForegroundAppUri) = 1 := by
    have hzero : now.countP (asks getForegroundAppUri) = 0 := by
      rw [List.countP_eq_zero]
      intro y hy
      rw [hnone y hy]
      exact Bool.false_ne_true
    rw [List.countP_append, hzero, hone]
  intro y hy hyasks
  refine ⟨rfl, rfl, hcount, session, hsession, ?_⟩
  have hynew : y ∈ xs := by
    refine (List.mem_append.mp hy).resolve_left fun hold => ?_
    rw [hnone y hold] at hyasks
    cases hyasks
  rw [List.countP_eq_length_filter, List.length_eq_one_iff] at hone
  obtain ⟨z, hz⟩ := hone
  have hxz : x ∈ [z] := hz ▸ List.mem_filter.mpr ⟨hxnew, hxasks⟩
  have hyz : y ∈ [z] := hz ▸ List.mem_filter.mpr ⟨hynew, hyasks⟩
  rw [List.mem_singleton.mp hyz, ← List.mem_singleton.mp hxz]
  exact hxbroke

/-- What a call leaves behind, however it ends. -/
abbrev Left {α : Type} (command : TvCommand) (past : List AdapterExchange) (st : AdapterState)
    (operation : AdapterM α) : Prop :=
  wpS (callContract command past) operation (fun _ st' now' => Sound st' (past ++ now'))
    (fun _ st' now' => Sound st' (past ++ now')) st []

/-- An operation that keeps the session in order leaves it sound, if it does not power off. -/
theorem Keeps.left {α : Type} {operation : AdapterM α} (h : Keeps command uris operation)
    (huris : powerOffUri ∉ uris) (hst : Sound st past) : Left command past st operation := by
  have hst' : Sound st (past ++ []) := by rwa [List.append_nil]
  exact Program.wpS.mono (fun _ _ _ h => h.1) (fun _ _ _ h => h.1)
    (h past [] st hst' huris fun uri _ => MayAsk.fresh nofun)

/-- The one command that reads twice does so only over a session of before that has broken. -/
theorem left_currentInput (hst : Sound st past) :
    Left .currentInput past st client.currentInput := by
  have hst' : Sound st (past ++ []) := by rwa [List.append_nil]
  refine wpS_bind.mpr (Program.wpS.mono ?_ (fun _ _ _ h => h.1) (wpS_lockSession hst'))
  rintro _ _ now ⟨rfl, hsound, hturned⟩
  refine wpS_bind.mpr (wpS_get.mpr (wpS_bind.mpr (wpS_lift.mpr ?_)))
  refine Program.wpS.mono ?_ ?_ (wpS_runOnSession AsksAs.readCurrentInput hsound (by decide)
    fun uri _ => MayAsk.fresh (not_asks_of_turned hturned uri))
  · intro input st' now' ⟨hsound', _⟩
    refine wpS_bind.mpr (wpS_get.mpr ?_)
    split
    · rename_i hretry
      exact absurd hretry.2.1 (by simp [Except.toOption])
    · exact hsound'
  · intro err st' now' ⟨⟨hsound', _⟩, hreused⟩
    refine wpS_bind.mpr (wpS_get.mpr ?_)
    split
    · rename_i hretry
      obtain ⟨hsome, -, hnone⟩ := hretry
      obtain ⟨session, hsession⟩ := Option.isSome_iff_exists.mp hsome
      obtain ⟨hgrown, hbroke⟩ := hreused session hsession (Option.isNone_iff_eq_none.mp hnone)
      -- the session was in the field before the call, so an earlier call has opened it
      have hlt : session < sessionsOpened past := by
        rw [← hst.opened]
        exact (hst.session session hsession).1
      have hmay := secondRead_of_broke hlt (hsound.session session hsession).2 hturned hgrown
        hbroke
      refine Program.wpS.mono (fun _ _ _ h => h.1) (fun _ _ _ h => h.1.1)
        (wpS_runOnSession AsksAs.readCurrentInput hsound' (by decide) fun uri huri => ?_)
      cases List.mem_singleton.mp huri
      exact hmay
    · exact hsound'

/-- The power state is read, and the command follows at once on the same session, which the field
has given up. -/
theorem left_powerOff (hst : Sound st past) : Left .powerOff past st client.powerOff := by
  have hst' : Sound st (past ++ []) := by rwa [List.append_nil]
  refine wpS_bind.mpr (Program.wpS.mono ?_ (fun _ _ _ h => h.1) (wpS_lockSession hst'))
  rintro _ _ now ⟨rfl, hsound, hturned⟩
  refine wpS_bind.mpr (Program.wpS.mono ?_ (fun _ _ _ h => h.1) (wpS_ensureSession hsound))
  intro session st' now' ⟨hsound', hturned', hsession, _⟩
  -- nothing was asked in this turn yet, so the query may go out
  have hquiet : ∀ uri, ∀ x ∈ now', asks uri x = false :=
    not_asks_of_turned (hturned.trans hturned')
  obtain ⟨hlt, halive⟩ := hsound'.session session hsession
  have horder : RequestInOrder .powerOff past now' session getPowerStateUri :=
    ⟨halive, MayAsk.fresh (hquiet _), fun h => absurd h (by decide)⟩
  refine wpS_bind.mpr (wpS_liftM.mpr (wp_typedRequest horder fun answer => ?_))
  have hgrown := Grown.request session getPowerStateUri (.object []) answer now'
  have hkept : (∀ err, answer = .error err → err.breaksSession = false) →
      Alive session
        (past ++ (now' ++ [⟨.request session getPowerStateUri (.object []), answer⟩])) := by
    intro hanswer
    rw [← List.append_assoc]
    exact halive.request (by decide) hanswer
  -- a failed query closes the session exactly where it breaks it
  cases hread : WebOsSession.readResponse parsePowerStateResponse answer with
  | error err =>
    refine wpS_bind.mpr (wpS_modify.mpr (wpS_throw _ |>.mpr ?_))
    cases hfailure : (powerStateFailure err).invalidatesSession with
    | true =>
      rw [AdapterState.afterFailure, hfailure, if_pos rfl]
      exact hsound'.close.grown hlt hgrown nofun
    | false =>
      rw [AdapterState.afterFailure, hfailure, if_neg Bool.false_ne_true]
      refine hsound'.grown hlt hgrown fun s hs => ?_
      rw [hsession] at hs
      cases hs
      refine hkept fun source hsource => ?_
      subst hsource
      cases hread
      rwa [powerStateFailure, responseFailure_invalidates] at hfailure
  | ok powerState =>
    obtain ⟨response, rfl, hparse⟩ : ∃ response, answer = .ok response
        ∧ parsePowerStateResponse response = .ok powerState := by
      cases answer with
      | ok response => exact ⟨response, rfl, hread⟩
      | error source => cases hread
    have halive' := hkept nofun
    dsimp only
    split
    · rename_i hcontrollable
      refine wpS_bind.mpr (wpS_modify.mpr (wpS_bind.mpr (wpS_liftM.mpr ?_)))
      -- the power state just read is what allows the power-off
      have hbefore : ControllableBefore session (now' ++
          [⟨.request session getPowerStateUri (.object []), Except.ok response⟩]) := by
        refine ⟨now', .object [], response, rfl, ?_⟩
        rw [hparse]
        exact hcontrollable.imp (congrArg Except.ok) (congrArg Except.ok)
      have hmay : MayAsk .powerOff past (now' ++
          [⟨.request session getPowerStateUri (.object []), Except.ok response⟩])
          powerOffUri :=
        (MayAsk.fresh (hquiet _)).turned hgrown.turned (by decide)
      refine Program.wp_bind.mpr
        (wp_typedRequest ⟨halive', hmay, fun _ => hbefore⟩ fun answer' => ?_)
      have hsound'' := (hsound'.close.grown hlt hgrown nofun).grown hlt
        (Grown.request session powerOffUri (.object []) answer' _) nofun
      cases WebOsSession.readResponse parseControlResponse answer' with
      | ok payload => exact hsound''
      | error err => exact hsound''
    · refine hsound'.grown hlt hgrown fun s hs => ?_
      rw [hsession] at hs
      cases hs
      exact halive'

/-- **Every operation.** -/
theorem left_run (hst : Sound st past) : Left command past st (client.run command) := by
  cases command with
  | modelName =>
    exact (Keeps.withSession fun s =>
      AsksAs.typed (parsesOnly_fields _) _ s getSystemInfoUri _).left (by decide) hst
  | currentInput => exact left_currentInput hst
  | oledBrightness =>
    exact (Keeps.withSession (AsksAs.readOledBrightness _)).left (by decide) hst
  | audioStatus => exact (Keeps.withSession (AsksAs.readAudioStatus _)).left (by decide) hst
  | setInput input => exact Keeps.setInput.left (by decide) hst
  | setOledBrightness brightness => exact Keeps.setOledBrightness.left (by decide) hst
  | setVolume volume =>
    exact (Keeps.controlOperation setAudioVolumeUri).left (by decide) hst
  | volumeUp => exact (Keeps.controlOperation audioVolumeUpUri).left (by decide) hst
  | volumeDown => exact (Keeps.controlOperation audioVolumeDownUri).left (by decide) hst
  | setMuted muted => exact (Keeps.controlOperation setAudioMuteUri).left (by decide) hst
  | powerOff => exact left_powerOff hst
  | blankScreen => exact (Keeps.screenOperation (by decide)).left (by decide) hst
  | unblankScreen => exact (Keeps.screenOperation (by decide)).left (by decide) hst

end Operations

/-! ## Runs -/

/-- One call of an operation, with all that it exchanged. -/
structure CallRecord where
  command : TvCommand
  exchanges : List AdapterExchange

def conversation (history : List CallRecord) : List AdapterExchange :=
  history.flatMap CallRecord.exchanges

/-- A call, with the network as the handler. -/
def WebOsTvClient.callStep {σ : Type} (client : WebOsTvClient)
    (network : σ → (e : AdapterCall) → e.Answer × σ) (s : AdapterState × σ)
    (command : TvCommand) : (AdapterState × σ) × CallRecord :=
  let program := (client.run command).run.run s.1
  let result := Program.exec network program s.2
  ((result.1.2, result.2), ⟨command, Program.calls network program s.2⟩)

/-- A sequence of operations on a new client. -/
def WebOsTvClient.history {σ : Type} (client : WebOsTvClient)
    (network : σ → (e : AdapterCall) → e.Answer × σ) (s : σ) (commands : List TvCommand) :
    List CallRecord :=
  Mealy.outputs (client.callStep network) ({}, s) commands

/-- The commands of an operation that change something at the TV. -/
def TvCommand.mutations : TvCommand → List String
  | .setInput _ => [switchInputUri]
  | .setOledBrightness _ => [createAlertUri, closeAlertUri]
  | .setVolume _ => [setAudioVolumeUri]
  | .volumeUp => [audioVolumeUpUri]
  | .volumeDown => [audioVolumeDownUri]
  | .setMuted _ => [setAudioMuteUri]
  | .powerOff => [powerOffUri]
  | .blankScreen => [turnOffScreenUri]
  | .unblankScreen => [turnOnScreenUri]
  | .modelName | .currentInput | .oledBrightness | .audioStatus => []

/-- **The laws of a run.** -/
structure SessionLaw (history : List CallRecord) : Prop where
  /-- An operation sends its own command at most once. -/
  once : ∀ record ∈ history, ∀ uri ∈ record.command.mutations,
    record.exchanges.countP (asks uri) ≤ 1
  /-- A session that broke is not used again. -/
  broken : ∀ before x after session, conversation history = before ++ x :: after →
    Broke session x → ∀ y ∈ after, onSession session y = false
  /-- The TV is powered off on a session that has just reported it to be controllable. -/
  controllable : ∀ record ∈ history, ∀ earlier x later session,
    record.exchanges = earlier ++ x :: later → PoweredOff session x →
      ControllableBefore session earlier
  /-- That session is not used again either. -/
  poweredOff : ∀ before x after session, conversation history = before ++ x :: after →
    PoweredOff session x → ∀ y ∈ after, onSession session y = false
  /-- Only the read of `current_input` is repeated, once, after it broke an earlier session. -/
  repeated : ∀ before record after, history = before ++ record :: after →
    ∀ earlier x later uri, record.exchanges = earlier ++ x :: later → asks uri x →
      ∀ y ∈ earlier, asks uri y →
        SecondRead record.command (conversation before) earlier uri y

/-- Every request of a call was in order. -/
def CallInOrder (history : List CallRecord) (record : CallRecord) : Prop :=
  ∀ earlier x later session uri, record.exchanges = earlier ++ x :: later →
    asked x = some (session, uri) →
    RequestInOrder record.command (conversation history) earlier session uri

/-- **Call.** Each call is in order and leaves the adapter sound. -/
theorem callInOrder_callStep {σ : Type} (client : WebOsTvClient)
    (network : σ → (e : AdapterCall) → e.Answer × σ) {st : AdapterState} {s : σ}
    {history : List CallRecord} (hst : Sound st (conversation history)) (command : TvCommand) :
    CallInOrder history (client.callStep network (st, s) command).2
      ∧ Sound (client.callStep network (st, s) command).1.1
        (conversation (history ++ [(client.callStep network (st, s) command).2])) := by
  obtain ⟨hcalls, hend⟩ := Program.wp.calls (left_run hst) network s
  refine ⟨?_, ?_⟩
  · intro earlier x later session uri hsplit hasked
    have hpermitted := hcalls earlier x later hsplit
    rw [Program.observe_record, List.nil_append] at hpermitted
    obtain ⟨call, answer⟩ := x
    cases call with
    | request session' uri' payload =>
      cases hasked
      exact hpermitted
    | lockSession => cases hasked
    | connect policy => cases hasked
    | sleep seconds => cases hasked
  · rw [Program.observe_record, List.nil_append] at hend
    rw [conversation, List.flatMap_append, List.flatMap_singleton]
    exact (Program.post_const (P := fun now =>
      Sound (client.callStep network (st, s) command).1.1 (conversation history ++ now))).mp hend

/-- **Run.** All calls of a history are in order. -/
theorem history_inOrder {σ : Type} (client : WebOsTvClient)
    (network : σ → (e : AdapterCall) → e.Answer × σ) (s : σ) (commands : List TvCommand) :
    Mealy.Justified CallInOrder (client.history network s commands) := by
  have hinv := @Mealy.exec_induct _ _ _ (client.callStep network) (fun commands final => Sound final.1 (conversation (client.history network s commands))
      ∧ Mealy.Justified CallInOrder (client.history network s commands))
    ({}, s) ⟨Sound.init, Mealy.Justified.nil⟩ (fun commands command hpre => ?_) commands
  · exact hinv.2
  · obtain ⟨hsound, hjustified⟩ := hpre
    obtain ⟨horder, hsound'⟩ := callInOrder_callStep client network hsound command
    rw [WebOsTvClient.history, Mealy.outputs_concat]
    exact ⟨hsound', hjustified.concat horder⟩

/-! ## The laws -/

/-- An exchange of the conversation belongs to one call. -/
theorem conversation_split {history : List CallRecord} {before after : List AdapterExchange}
    {x : AdapterExchange} (h : conversation history = before ++ x :: after) :
    ∃ calls record rest earlier later, history = calls ++ record :: rest
      ∧ record.exchanges = earlier ++ x :: later ∧ before = conversation calls ++ earlier := by
  induction history generalizing before with
  | nil => simp [conversation] at h
  | cons record history ih =>
    rw [conversation, List.flatMap_cons] at h
    rcases List.append_eq_append_iff.mp h with ⟨as, hbefore, hrest⟩ | ⟨bs, hrecord, hrest⟩
    · -- the exchange is one of a later call
      obtain ⟨calls, record', rest, earlier, later, rfl, hx, rfl⟩ := ih hrest
      refine ⟨record :: calls, record', rest, earlier, later, rfl, hx, ?_⟩
      rw [hbefore, conversation, conversation, List.flatMap_cons, List.append_assoc]
    · cases bs with
      | nil =>
        rw [List.nil_append] at hrest
        have hnow : conversation history = [] ++ x :: after := by
          rw [List.nil_append]
          exact hrest.symm
        obtain ⟨calls, record', rest, earlier, later, rfl, hx, hnil⟩ := ih hnow
        refine ⟨record :: calls, record', rest, earlier, later, rfl, hx, ?_⟩
        rw [List.append_nil] at hrecord
        rw [← hrecord, conversation, List.flatMap_cons, List.append_assoc]
        rw [conversation] at hnil
        rw [← hnil, List.append_nil]
      | cons y bs =>
        rw [List.cons_append] at hrest
        obtain ⟨rfl, -⟩ := List.cons.inj hrest
        exact ⟨[], record, history, before, bs, rfl, hrecord, rfl⟩

section Laws

variable {history : List CallRecord} (h : Mealy.Justified CallInOrder history)
include h

/-- Nothing follows on a session that has ended. -/
theorem not_onSession_of_ended {before after : List AdapterExchange} {x : AdapterExchange}
    {session : Nat} (hsplit : conversation history = before ++ x :: after)
    (hended : Ended session x) : ∀ y ∈ after, onSession session y = false := by
  intro y hy
  by_contra hon
  rw [Bool.not_eq_false] at hon
  obtain ⟨mid, rest, rfl⟩ := List.append_of_mem hy
  rw [← List.cons_append, ← List.append_assoc] at hsplit
  obtain ⟨calls, record, rest', earlier, later, hhistory, hrecord, hpast⟩ :=
    conversation_split hsplit
  obtain ⟨⟨s, uri⟩, hasked, hs⟩ : ∃ a, asked y = some a ∧ a.1 = session := by
    simpa [onSession] using hon
  cases hs
  have horder := h calls record rest' hhistory earlier y later s uri hrecord hasked
  refine horder.alive x ?_ hended
  rw [← hpast]
  exact List.mem_append_right _ List.mem_cons_self

/-- A question asked twice in one call is that second read. -/
theorem secondRead_of_asks {before after : List CallRecord} {record : CallRecord}
    (hhistory : history = before ++ record :: after) {earlier later : List AdapterExchange}
    {x y : AdapterExchange} {uri : String} (hsplit : record.exchanges = earlier ++ x :: later)
    (hx : asks uri x) (hy : y ∈ earlier) (hasks : asks uri y) :
    SecondRead record.command (conversation before) earlier uri y := by
  obtain ⟨⟨session, u⟩, hasked, hu⟩ : ∃ a, asked x = some a ∧ a.2 = uri := by
    simpa [asks] using hx
  cases hu
  exact (h before record after hhistory earlier x later session u hsplit hasked).mayAsk y hy hasks

end Laws

/-- A thing that is never asked for again is asked for at most once. -/
theorem countP_le_one {α : Type} {p : α → Bool} {l : List α}
    (h : ∀ earlier x later, l = earlier ++ x :: later → p x → ∀ y ∈ earlier, ¬ p y) :
    l.countP p ≤ 1 := by
  induction l with
  | nil => exact Nat.zero_le 1
  | cons a l ih =>
    by_cases ha : p a
    · have hzero : l.countP p = 0 := by
        rw [List.countP_eq_zero]
        intro x hx hpx
        obtain ⟨earlier, later, rfl⟩ := List.append_of_mem hx
        exact h (a :: earlier) x later rfl hpx a List.mem_cons_self ha
      rw [List.countP_cons_of_pos ha, hzero]
    · rw [List.countP_cons_of_neg ha]
      refine ih fun earlier x later hl hpx y hy => ?_
      exact h (a :: earlier) x later (by rw [hl, List.cons_append]) hpx y
        (List.mem_cons_of_mem a hy)

/-- **Commands are not replayed and broken sessions are not used again**, in every sequence of
operations and whatever the network answers. -/
theorem session_law {σ : Type} (client : WebOsTvClient)
    (network : σ → (e : AdapterCall) → e.Answer × σ) (s : σ) (commands : List TvCommand) :
    SessionLaw (client.history network s commands) := by
  have h := history_inOrder client network s commands
  refine ⟨?_, ?_, ?_, ?_, ?_⟩
  · intro record hrecord uri huri
    obtain ⟨before, after, hhistory⟩ := List.append_of_mem hrecord
    refine countP_le_one fun earlier x later hsplit hx y hy hasks => ?_
    obtain ⟨hcommand, -⟩ := secondRead_of_asks h hhistory hsplit hx hy hasks
    rw [hcommand] at huri
    exact List.not_mem_nil huri
  · intro before x after session hsplit hbroke
    exact not_onSession_of_ended h hsplit (Or.inl hbroke)
  · intro record hrecord earlier x later session hsplit hoff
    obtain ⟨before, after, hhistory⟩ := List.append_of_mem hrecord
    exact (h before record after hhistory earlier x later session powerOffUri hsplit hoff).powerOff
      rfl
  · intro before x after session hsplit hoff
    exact not_onSession_of_ended h hsplit (Or.inr hoff)
  · intro before record after hhistory earlier x later uri hsplit hx y hy hasks
    exact secondRead_of_asks h hhistory hsplit hx hy hasks

end LgBuddy
