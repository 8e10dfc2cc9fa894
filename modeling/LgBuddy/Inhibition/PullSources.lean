import LgBuddy.Inhibition.Gate
import LgBuddy.Session.Bus
import LgBuddy.Machine.Mealy

/-!
# LgBuddy — the pull sources of inhibition

`InhibitionState` of `inhibition.rs` and the two adapters the worker asks, `powerdevil.rs` and
`kwin.rs`. The two are one piece of code with other names: a `PullSource` is what differs.

* `InhibitionState` — the evidence an adapter keeps between two queries;
* `QueryRound` — what one query meets: the bus with its answers, the clock and the cancellation
  flag, which is never cleared again;
* `PullInhibition.read`, `complete`, `query` — one query;
* `QueryRound.Answers`, `asked_eq_answered` — what the bus has to answer for a query to be answered;
* `PullAnswer` — what a query came to, and `Remembers`, the invariant of all runs: owner, status
  and last release are functions of the answers so far.

A query whose request is cancelled before it begins asks nothing and leaves the evidence alone;
one that is cancelled later drops it.
-/

namespace LgBuddy

/-! ## The evidence -/

structure InhibitionState where
  diagnostics : InhibitionDiagnostics
  deriving DecidableEq, Repr

namespace InhibitionState

def new (source : String) : InhibitionState where
  diagnostics :=
    { source
      status := .unavailable "monitoring has not started"
      observedAt := none
      lastReleaseAt := none }

def unavailable (state : InhibitionState) (reason : String) : InhibitionState :=
  { diagnostics :=
      { state.diagnostics with status := .unavailable (String.ofList (reason.toList.take 512)) } }

def absent (state : InhibitionState) : InhibitionState :=
  { diagnostics := { state.diagnostics with status := .absent } }

def observe (state : InhibitionState) (inhibited : Bool) (moment : Instant) : InhibitionState :=
  { diagnostics :=
      { state.diagnostics with
        lastReleaseAt :=
          if !inhibited && state.diagnostics.status == .inhibited then some moment
          else state.diagnostics.lastReleaseAt
        observedAt := some moment
        status := if inhibited then .inhibited else .clear } }

def evaluate (state : InhibitionState) : InhibitionEvaluation where
  allowed := state.diagnostics.status != .inhibited
  diagnostics := state.diagnostics

/-- The contribution forbids blanking exactly while the status is `Inhibited`. -/
theorem evaluate_allowed_eq_false {state : InhibitionState} :
    state.evaluate.allowed = false ↔ state.diagnostics.status = .inhibited := by
  simp [evaluate]

end InhibitionState

/-! ## One query -/

/-- What tells one pull adapter from the other. -/
structure PullSource where
  source : String
  service : String
  path : String
  interface : String
  member : String
  body : List BusValue
  ownerChanged : String
  ownerChangedDuringCheck : String

/-- What one query meets. Its loads of the flag are numbered: 0 before it begins, 1 to 3 between
its bus calls, 4 when it completes. Its method calls are numbered in the order they are made. -/
structure QueryRound where
  cancelled : Nat → Bool
  /-- Nothing clears the flag. -/
  stays : ∀ load, cancelled load = true → cancelled (load + 1) = true
  connect : Except SessionBusError Unit
  nameHasOwner : String → Except SessionBusError Bool
  callMethod : Nat → BusMethodCall → Except SessionBusError BusReply
  observedAt : Instant

def QueryRound.getNameOwner (round : QueryRound) (call : Nat) (name : String) :
    Except SessionBusError String := do
  (← round.callMethod call (getNameOwnerCall name)).singleString

/-- `PowerDevilInhibition` and `KWinInhibition`. -/
structure PullInhibition where
  state : InhibitionState
  owner : Option String
  deriving DecidableEq, Repr

namespace PullInhibition

def default (source : PullSource) : PullInhibition := ⟨.new source.source, none⟩

def read (source : PullSource) (round : QueryRound) :
    Except SessionBusError (Option (String × Bool × Instant)) := do
  -- Discovery does not activate the service on a desktop where it is absent.
  if !(← round.nameHasOwner source.service) || round.cancelled 1 then
    return none
  let owner ← round.getNameOwner 0 source.service
  if round.cancelled 2 then
    return none
  let reply ← round.callMethod 1
    { destination := owner
      path := source.path
      interface := source.interface
      member := source.member
      body := source.body }
  let inhibited ← reply.singleBool
  if round.cancelled 3 then
    return none
  if (← round.getNameOwner 2 source.service) ≠ owner then
    throw (.transport source.ownerChangedDuringCheck)
  return some (owner, inhibited, round.observedAt)

variable (text : SessionBusError → String)

/-- `complete`; `text` is how an error prints itself. -/
def complete (source : PullSource) (adapter : PullInhibition)
    (result : Except SessionBusError (Option (String × Bool × Instant))) (cancelled : Bool) :
    PullInhibition × Option InhibitionEvaluation :=
  if cancelled then
    ({ owner := none, state := adapter.state.unavailable "inhibition check cancelled" }, none)
  else
    let adapter : PullInhibition :=
      match result with
      | .ok (some (owner, inhibited, observedAt)) =>
        -- A new owner's clear answer is not a release observed of the old owner.
        let state :=
          if adapter.owner ≠ some owner then adapter.state.unavailable source.ownerChanged
          else adapter.state
        { owner := some owner, state := state.observe inhibited observedAt }
      | .ok none => { owner := none, state := adapter.state.absent }
      | .error error => { owner := none, state := adapter.state.unavailable (text error) }
    (adapter, some adapter.state.evaluate)

/-- What the connection and the calls of a query come to. -/
def asked (source : PullSource) (round : QueryRound) :
    Except SessionBusError (Option (String × Bool × Instant)) := do
  round.connect
  read source round

def query (source : PullSource) (adapter : PullInhibition) (round : QueryRound) :
    PullInhibition × Option InhibitionEvaluation :=
  if round.cancelled 0 then (adapter, none)
  else complete text source adapter (asked source round) (round.cancelled 4)

/-- The adapter after a sequence of queries. -/
def after (source : PullSource) (rounds : List QueryRound) : PullInhibition :=
  Mealy.exec (query text source) (default source) rounds

end PullInhibition

namespace PowerDevilInhibition

def source : PullSource where
  source := "powerdevil"
  service := "org.kde.Solid.PowerManagement"
  path := "/org/kde/Solid/PowerManagement/PolicyAgent"
  interface := "org.kde.Solid.PowerManagement.PolicyAgent"
  member := "HasInhibition"
  body := [.u32 4]
  ownerChanged := "PowerDevil owner changed"
  ownerChangedDuringCheck := "PowerDevil owner changed during check"

def query (text : SessionBusError → String) :
    PullInhibition → QueryRound → PullInhibition × Option InhibitionEvaluation :=
  PullInhibition.query text source

end PowerDevilInhibition

namespace KWinInhibition

def source : PullSource where
  source := "kwin"
  service := "io.github.staphylococcus.LGBuddy.KWinInhibition"
  path := "/io/github/staphylococcus/LGBuddy/KWinInhibition"
  interface := "io.github.staphylococcus.LGBuddy.KWinInhibition1"
  member := "IsInhibited"
  body := []
  ownerChanged := "KWin bridge owner changed"
  ownerChangedDuringCheck := "KWin bridge owner changed during check"

def query (text : SessionBusError → String) :
    PullInhibition → QueryRound → PullInhibition × Option InhibitionEvaluation :=
  PullInhibition.query text source

end KWinInhibition

/-! ## What the bus has to answer -/

theorem except_bind_eq_ok {ε α β : Type} {x : Except ε α} {f : α → Except ε β} {b : β} :
    x >>= f = .ok b ↔ ∃ a, x = .ok a ∧ f a = .ok b := by
  cases x with
  | error err =>
    constructor
    · intro h
      cases h
    · intro h
      obtain ⟨a, ha, -⟩ := h
      cases ha
  | ok a =>
    constructor
    · exact fun h => ⟨a, rfl, h⟩
    · intro h
      obtain ⟨a', ha, hf⟩ := h
      cases ha
      exact hf

theorem BusReply.singleString_eq_ok {reply : BusReply} {text : String} :
    reply.singleString = .ok text ↔ reply.body = [.string text] := by
  unfold singleString
  constructor
  · intro h
    split at h
    · rename_i value hbody
      cases h
      exact hbody
    · cases h
    · cases h
  · intro h
    rw [h]

theorem BusReply.singleBool_eq_ok {reply : BusReply} {value : Bool} :
    reply.singleBool = .ok value ↔
      reply.body = [.bool value] ∨ reply.body = [.variant (.bool value)] := by
  unfold singleBool
  constructor
  · intro h
    split at h
    · rename_i hbody
      cases h
      exact .inl hbody
    · rename_i hbody
      cases h
      exact .inr hbody
    · cases h
    · cases h
    · cases h
  · intro h
    cases h with
    | inl hbody => rw [hbody]
    | inr hbody => rw [hbody]

namespace QueryRound

variable (source : PullSource)

/-- The bus names the owner of the service, with this call. -/
def Names (round : QueryRound) (call : Nat) (owner : String) : Prop :=
  ∃ reply, round.callMethod call (getNameOwnerCall source.service) = .ok reply
    ∧ reply.body = [.string owner]

/-- The service is there, its owner answers, and it is the owner still afterwards. -/
structure Answers (round : QueryRound) (owner : String) (inhibited : Bool) : Prop where
  connected : round.connect = .ok ()
  present : round.nameHasOwner source.service = .ok true
  named : round.Names source 0 owner
  answered : ∃ reply, round.callMethod 1
      ⟨owner, source.path, source.interface, source.member, source.body⟩ = .ok reply
    ∧ (reply.body = [.bool inhibited] ∨ reply.body = [.variant (.bool inhibited)])
  kept : round.Names source 2 owner

theorem getNameOwner_eq_ok {round : QueryRound} {call : Nat} {owner : String} :
    round.getNameOwner call source.service = .ok owner ↔ round.Names source call owner := by
  unfold getNameOwner Names
  simp only [except_bind_eq_ok, BusReply.singleString_eq_ok]

/-- A flag that is not set at the end was not set before. -/
theorem clear_of_clear {round : QueryRound} (h : round.cancelled 4 = false) :
    ∀ load ≤ 4, round.cancelled load = false := by
  have hback : ∀ load, round.cancelled (load + 1) = false → round.cancelled load = false := by
    intro load hclear
    cases hset : round.cancelled load with
    | false => rfl
    | true =>
      rw [round.stays load hset] at hclear
      cases hclear
  have h3 := hback 3 h
  have h2 := hback 2 h3
  have h1 := hback 1 h2
  have h0 := hback 0 h1
  intro load hload
  obtain rfl | rfl | rfl | rfl | rfl : load = 0 ∨ load = 1 ∨ load = 2 ∨ load = 3 ∨ load = 4 := by
    omega
  · exact h0
  · exact h1
  · exact h2
  · exact h3
  · exact h

end QueryRound

section Asked

variable {source : PullSource} {round : QueryRound}

/-- **A query is answered by the bus**: exactly when the service is there, answers under the owner
that the bus names, and has that owner still. -/
theorem asked_eq_answered (hclear : round.cancelled 4 = false) {owner : String}
    {inhibited : Bool} {moment : Instant} :
    PullInhibition.asked source round = .ok (some (owner, inhibited, moment)) ↔
      round.Answers source owner inhibited ∧ moment = round.observedAt := by
  have hflags := round.clear_of_clear hclear
  unfold PullInhibition.asked PullInhibition.read
  simp only [hflags 1 (by omega), hflags 2 (by omega), hflags 3 (by omega), except_bind_eq_ok]
  constructor
  · intro h
    obtain ⟨_, hconnect, present, hpresent, h⟩ := h
    cases present with
    | false => cases h
    | true =>
      simp only [Bool.not_true, Bool.or_false, Bool.false_eq_true, if_false, except_bind_eq_ok,
        QueryRound.getNameOwner_eq_ok, BusReply.singleBool_eq_ok] at h
      obtain ⟨owner', hnamed, reply, hreply, value, hvalue, owner'', hkept, h⟩ := h
      by_cases hsame : owner'' = owner'
      · rw [if_neg (not_not.mpr hsame)] at h
        cases h
        rw [hsame] at hkept
        exact ⟨⟨hconnect, hpresent, hnamed, ⟨reply, hreply, hvalue⟩, hkept⟩, rfl⟩
      · rw [if_pos hsame] at h
        cases h
  · intro h
    obtain ⟨⟨hconnect, hpresent, hnamed, ⟨reply, hreply, hvalue⟩, hkept⟩, rfl⟩ := h
    refine ⟨(), hconnect, true, hpresent, ?_⟩
    simp only [Bool.not_true, Bool.or_false, Bool.false_eq_true, if_false, except_bind_eq_ok,
      QueryRound.getNameOwner_eq_ok, BusReply.singleBool_eq_ok]
    refine ⟨owner, hnamed, reply, hreply, inhibited, hvalue, owner, hkept, ?_⟩
    rw [if_neg (not_not.mpr rfl)]
    rfl

/-- It finds nobody exactly when the bus says so. -/
theorem asked_eq_absent (hclear : round.cancelled 4 = false) :
    PullInhibition.asked source round = .ok none ↔
      round.connect = .ok () ∧ round.nameHasOwner source.service = .ok false := by
  have hflags := round.clear_of_clear hclear
  unfold PullInhibition.asked PullInhibition.read
  simp only [hflags 1 (by omega), hflags 2 (by omega), hflags 3 (by omega), except_bind_eq_ok]
  constructor
  · intro h
    obtain ⟨_, hconnect, present, hpresent, h⟩ := h
    cases present with
    | false => exact ⟨hconnect, hpresent⟩
    | true =>
      simp only [Bool.not_true, Bool.or_false, Bool.false_eq_true, if_false,
        except_bind_eq_ok] at h
      obtain ⟨owner', howner, reply, hreply, value, hvalue, owner'', hkept, h⟩ := h
      split at h <;> cases h
  · intro h
    exact ⟨(), h.1, false, h.2, rfl⟩

end Asked

/-! ## What a query comes to -/

/-- The outcome of a query, for whoever keeps the history of a source. -/
inductive PullAnswer where
  /-- Cancelled before it began: nothing was asked. -/
  | refused
  | cancelled
  | failed
  | absent
  | answered (owner : String) (inhibited : Bool) (moment : Instant)
  deriving DecidableEq, Repr

namespace PullAnswer

def of (source : PullSource) (round : QueryRound) : PullAnswer :=
  if round.cancelled 0 then .refused
  else if round.cancelled 4 then .cancelled
  else
    match PullInhibition.asked source round with
    | .ok (some (owner, inhibited, observedAt)) => .answered owner inhibited observedAt
    | .ok none => .absent
    | .error _ => .failed

/-- Whoever gets an answer of the bus, or learns that nobody is there, was not cancelled. -/
theorem clear_of_found {source : PullSource} {round : QueryRound} {answer : PullAnswer}
    (h : of source round = answer) (hrefused : answer ≠ .refused)
    (hcancelled : answer ≠ .cancelled) : round.cancelled 4 = false := by
  cases hclear : round.cancelled 4 with
  | false => rfl
  | true =>
    unfold of at h
    simp only [hclear, if_true] at h
    split at h
    · exact absurd h.symm hrefused
    · exact absurd h.symm hcancelled

/-- A query that was not cancelled comes to what was asked. -/
theorem of_of_clear {source : PullSource} {round : QueryRound}
    (hclear : round.cancelled 4 = false) :
    (∀ owner inhibited moment, of source round = .answered owner inhibited moment ↔
        PullInhibition.asked source round = .ok (some (owner, inhibited, moment)))
      ∧ (of source round = .absent ↔ PullInhibition.asked source round = .ok none) := by
  have hbegan := round.clear_of_clear hclear 0 (by omega)
  unfold of
  rw [if_neg (by simp [hbegan]), if_neg (by simp [hclear])]
  cases PullInhibition.asked source round with
  | error err => simp
  | ok found =>
    cases found with
    | none => simp
    | some answer => simp [Prod.ext_iff]

/-- An answer is one of the bus, and its moment that of the clock. -/
theorem of_eq_answered {source : PullSource} {round : QueryRound} {owner : String}
    {inhibited : Bool} {moment : Instant} :
    of source round = .answered owner inhibited moment ↔ round.cancelled 4 = false
      ∧ round.Answers source owner inhibited ∧ moment = round.observedAt := by
  constructor
  · intro h
    have hclear := clear_of_found h (by simp) (by simp)
    exact ⟨hclear, (asked_eq_answered hclear).mp (((of_of_clear hclear).1 _ _ _).mp h)⟩
  · intro h
    exact ((of_of_clear h.1).1 _ _ _).mpr ((asked_eq_answered h.1).mpr h.2)

/-- Nobody is found exactly when the bus says that nobody has the name. -/
theorem of_eq_absent {source : PullSource} {round : QueryRound} :
    of source round = .absent ↔ round.cancelled 4 = false ∧ round.connect = .ok ()
      ∧ round.nameHasOwner source.service = .ok false := by
  constructor
  · intro h
    have hclear := clear_of_found h (by simp) (by simp)
    exact ⟨hclear, (asked_eq_absent hclear).mp ((of_of_clear hclear).2.mp h)⟩
  · intro h
    exact (of_of_clear h.1).2.mpr ((asked_eq_absent h.1).mpr h.2)

/-- The latest query that began. -/
def latest (history : List PullAnswer) : Option PullAnswer :=
  (history.filter (· ≠ .refused)).getLast?

@[simp] theorem latest_nil : latest [] = none := rfl

@[simp] theorem latest_refused (history : List PullAnswer) :
    latest (history ++ [.refused]) = latest history := by
  simp [latest]

theorem latest_concat {history : List PullAnswer} {answer : PullAnswer} (h : answer ≠ .refused) :
    latest (history ++ [answer]) = some answer := by
  simp [latest, h]

/-- An inhibited answer is directly followed by a clear one of the same owner. -/
def ReleasesAfter (answer : PullAnswer) (history : List PullAnswer) (moment : Instant) : Prop :=
  ∃ owner earlier, latest history = some (.answered owner true earlier)
    ∧ answer = .answered owner false moment

end PullAnswer

/-! ## The law of all runs -/

section
variable (text : SessionBusError → String) (source : PullSource)

/-- **Memory of a source.** What the adapter keeps is a function of the answers so far: the owner
of the latest one, whether it was inhibited, and nothing else that later steps could read. -/
structure Remembers (history : List PullAnswer) (adapter : PullInhibition) : Prop where
  owner : ∀ owner, adapter.owner = some owner ↔
    ∃ inhibited moment, PullAnswer.latest history = some (.answered owner inhibited moment)
  status : adapter.state.diagnostics.status = .inhibited ↔
    ∃ owner moment, PullAnswer.latest history = some (.answered owner true moment)

theorem Remembers.start : Remembers [] (PullInhibition.default source) := by
  constructor
  · intro owner
    simp [PullInhibition.default]
  · simp [PullInhibition.default, InhibitionState.new]

/-- A query that is refused changes nothing. -/
theorem query_refused (adapter : PullInhibition) {round : QueryRound}
    (h : PullAnswer.of source round = .refused) :
    PullInhibition.query text source adapter round = (adapter, none) := by
  unfold PullAnswer.of at h
  unfold PullInhibition.query
  by_cases hrefused : round.cancelled 0 = true
  · rw [if_pos hrefused]
  · rw [if_neg hrefused] at h
    split at h
    · cases h
    · split at h <;> cases h

/-- A query that is cancelled, fails or finds no owner drops the evidence and keeps the history of
releases. -/
theorem query_without_answer (adapter : PullInhibition) (round : QueryRound)
    (h : PullAnswer.of source round = .cancelled ∨ PullAnswer.of source round = .failed
      ∨ PullAnswer.of source round = .absent) :
    let next := (PullInhibition.query text source adapter round).1
    next.owner = none ∧ next.state.diagnostics.status ≠ .inhibited
      ∧ next.state.diagnostics.lastReleaseAt = adapter.state.diagnostics.lastReleaseAt := by
  unfold PullAnswer.of at h
  unfold PullInhibition.query PullInhibition.complete
  by_cases hrefused : round.cancelled 0 = true
  · simp [hrefused] at h
  by_cases hcancelled : round.cancelled 4 = true
  · simp [hrefused, hcancelled, InhibitionState.unavailable]
  · rw [if_neg hrefused, if_neg hcancelled] at h ⊢
    rcases hasked : PullInhibition.asked source round with error | ⟨_ | ⟨owner, inhibited, moment⟩⟩
    · simp [InhibitionState.unavailable]
    · simp [InhibitionState.absent]
    · simp [hasked] at h

/-- An answer becomes the evidence; it is a release when the evidence said that the same owner
was inhibited. -/
theorem query_answered (adapter : PullInhibition) {round : QueryRound} {owner : String}
    {inhibited : Bool} {moment : Instant}
    (h : PullAnswer.of source round = .answered owner inhibited moment) :
    let next := (PullInhibition.query text source adapter round).1
    next.owner = some owner
      ∧ (next.state.diagnostics.status = .inhibited ↔ inhibited = true)
      ∧ next.state.diagnostics.lastReleaseAt
          = if inhibited = false ∧ adapter.owner = some owner
                ∧ adapter.state.diagnostics.status = .inhibited
            then some moment else adapter.state.diagnostics.lastReleaseAt := by
  unfold PullAnswer.of at h
  unfold PullInhibition.query PullInhibition.complete
  by_cases hrefused : round.cancelled 0 = true
  · simp [hrefused] at h
  by_cases hcancelled : round.cancelled 4 = true
  · simp [hrefused, hcancelled] at h
  rw [if_neg hrefused, if_neg hcancelled] at h
  rcases hasked : PullInhibition.asked source round with error | ⟨_ | ⟨owner', inhibited', moment'⟩⟩
  · simp [hasked] at h
  · simp [hasked] at h
  · rw [hasked] at h
    cases h
    by_cases howner : adapter.owner = some owner <;> cases inhibited <;>
      simp [hrefused, hcancelled, howner, InhibitionState.observe, InhibitionState.unavailable]

theorem query_evaluation {adapter : PullInhibition} {round : QueryRound}
    {evaluation : InhibitionEvaluation}
    (h : (PullInhibition.query text source adapter round).2 = some evaluation) :
    evaluation = (PullInhibition.query text source adapter round).1.state.evaluate := by
  unfold PullInhibition.query PullInhibition.complete at h ⊢
  by_cases hrefused : round.cancelled 0 = true
  · rw [if_pos hrefused] at h
    cases h
  by_cases hcancelled : round.cancelled 4 = true
  · rw [if_neg hrefused, if_pos hcancelled] at h
    cases h
  · rw [if_neg hrefused, if_neg hcancelled] at h ⊢
    exact (Option.some.inj h).symm

/-- **Step.** The memory stays a function of the answers. -/
theorem Remembers.query {history : List PullAnswer} {adapter : PullInhibition}
    (hmemory : Remembers history adapter) (round : QueryRound) :
    Remembers (history ++ [PullAnswer.of source round])
      (PullInhibition.query text source adapter round).1 := by
  cases hanswer : PullAnswer.of source round with
  | refused =>
    rw [query_refused text source _ hanswer]
    exact ⟨by simpa using hmemory.owner, by simpa using hmemory.status⟩
  | answered owner inhibited moment =>
    obtain ⟨howner, hstatus, -⟩ := query_answered text source adapter hanswer
    have hlatest : PullAnswer.latest (history ++ [.answered owner inhibited moment])
        = some (.answered owner inhibited moment) := PullAnswer.latest_concat (by simp)
    constructor
    · intro owner'
      rw [howner, hlatest]
      simp
    · rw [hstatus, hlatest]
      simp
  | cancelled | failed | absent =>
    obtain ⟨howner, hstatus, -⟩ := query_without_answer text source adapter round
      (by simp [hanswer])
    have hlatest : PullAnswer.latest (history ++ [PullAnswer.of source round])
        = some (PullAnswer.of source round) := PullAnswer.latest_concat (by simp [hanswer])
    rw [hanswer] at hlatest
    constructor
    · intro owner'
      rw [howner, hlatest]
      simp
    · simp [hstatus, hlatest]

/-- **Run.** -/
theorem remembers_after (rounds : List QueryRound) :
    Remembers (rounds.map (PullAnswer.of source)) (PullInhibition.after text source rounds) := by
  refine Mealy.exec_induct
    (P := fun rounds adapter => Remembers (rounds.map (PullAnswer.of source)) adapter)
    _ (Remembers.start source) (fun rounds round ih => ?_) rounds
  rw [List.map_append, List.map_singleton]
  exact ih.query text source round

/-- **Release history.** After any queries, one more query sets the release instant to that of a
clear answer which directly follows an inhibited one of the same owner, and keeps it otherwise;
`ReleasesAfter` looks at the latest query that began. The contribution forbids blanking exactly while
that latest query found the source inhibited, and a verdict that is returned is this one. -/
theorem releases_are_observed (rounds : List QueryRound) (round : QueryRound) :
    let history := rounds.map (PullAnswer.of source)
    let answer := PullAnswer.of source round
    let before := PullInhibition.after text source rounds
    let next := PullInhibition.query text source before round
    (∀ moment, answer.ReleasesAfter history moment →
        next.1.state.diagnostics.lastReleaseAt = some moment)
      ∧ ((¬ ∃ moment, answer.ReleasesAfter history moment) →
        next.1.state.diagnostics.lastReleaseAt = before.state.diagnostics.lastReleaseAt)
      ∧ (next.1.state.evaluate.allowed = false ↔
        ∃ owner moment, PullAnswer.latest (history ++ [answer]) = some (.answered owner true moment))
      ∧ ∀ evaluation ∈ next.2, evaluation = next.1.state.evaluate := by
  intro history answer before next
  have hmemory : Remembers history before := remembers_after text source rounds
  have hnext : Remembers (history ++ [answer]) next.1 := hmemory.query text source round
  have hallowed : next.1.state.evaluate.allowed = false ↔ ∃ owner moment,
      PullAnswer.latest (history ++ [answer]) = some (.answered owner true moment) :=
    InhibitionState.evaluate_allowed_eq_false.trans hnext.status
  refine ⟨?_, ?_, hallowed, fun evaluation h => query_evaluation text source h⟩
  · rintro moment ⟨owner, earlier, hlatest, hanswer⟩
    obtain ⟨-, -, hrelease⟩ := query_answered text source before hanswer
    have howner : before.owner = some owner := (hmemory.owner owner).2 ⟨true, earlier, hlatest⟩
    have hstatus : before.state.diagnostics.status = .inhibited :=
      hmemory.status.2 ⟨owner, earlier, hlatest⟩
    show (PullInhibition.query text source before round).1.state.diagnostics.lastReleaseAt = _
    rw [hrelease, if_pos ⟨rfl, howner, hstatus⟩]
  · intro hnone
    show (PullInhibition.query text source before round).1.state.diagnostics.lastReleaseAt = _
    cases hanswer : PullAnswer.of source round with
    | refused => rw [query_refused text source _ hanswer]
    | cancelled | failed | absent =>
      obtain ⟨-, -, hkept⟩ := query_without_answer text source before round
        (by simp [hanswer])
      exact hkept
    | answered owner inhibited moment =>
      obtain ⟨-, -, hrelease⟩ := query_answered text source before hanswer
      rw [hrelease, if_neg]
      rintro ⟨rfl, howner, hstatus⟩
      -- the owner and the status tell of one and the same latest answer
      obtain ⟨inhibited, earlier, hlatest⟩ := (hmemory.owner owner).1 howner
      obtain ⟨owner', earlier', hlatest'⟩ := hmemory.status.1 hstatus
      rw [hlatest] at hlatest'
      cases hlatest'
      exact hnone ⟨moment, owner, earlier, hlatest, hanswer⟩

end

/-! ## A cancellation that is not seen -/

/-- PowerDevil answers, at one owner; nothing is cancelled. -/
def answeringRound (inhibited : Bool) (moment : Instant) : QueryRound where
  cancelled _ := false
  stays _ h := h
  connect := .ok ()
  nameHasOwner _ := .ok true
  callMethod call _ := .ok ⟨[if call = 1 then .bool inhibited else .string ":1.7"]⟩
  observedAt := moment

/-- The request is cancelled before the adapter is asked. -/
def refusedRound : QueryRound :=
  { answeringRound true 2 with
    cancelled := fun _ => true
    stays := fun _ _ => rfl }

/-- The clear answer of a source is taken for a release although a cancelled query lies between it
and the inhibited one. -/
theorem release_after_refused_query :
    ¬ ∀ (rounds : List QueryRound) (round : QueryRound) (moment : Instant),
      let after := PullInhibition.after (fun _ => "") PowerDevilInhibition.source
      (after (rounds ++ [round])).state.diagnostics.lastReleaseAt = some moment →
      (after rounds).state.diagnostics.lastReleaseAt ≠ some moment →
        ∃ owner earlier,
          (rounds.map (PullAnswer.of PowerDevilInhibition.source)).getLast?
              = some (.answered owner true earlier)
            ∧ PullAnswer.of PowerDevilInhibition.source round = .answered owner false moment := by
  intro hclaim
  obtain ⟨owner, earlier, hlast, -⟩ :=
    hclaim [answeringRound true 1, refusedRound] (answeringRound false 3) 3 (by decide) (by decide)
  have hrefused : ([answeringRound true 1, refusedRound].map
      (PullAnswer.of PowerDevilInhibition.source)).getLast? = some .refused := by decide
  rw [hrefused] at hlast
  cases hlast

end LgBuddy
