import LgBuddy.Inhibition.Gate
import LgBuddy.Machine.Mealy
import Mathlib.Data.List.Forall2
import Mathlib.Data.List.Nodup
import Mathlib.Order.Bounds.Basic

/-!
# LgBuddy — safety of the inhibition gate

What holds in every interleaving of the monitor with the pull worker, whatever the adapters
report. The history is the list of `GateEvent`s.

* `MonitorEffect`/`WorkerEffect` list what a step can do; `step_effect` says that a step does one
  of these things or nothing;
* `Answers` is the worker's side: a reply that carries a verdict is the conjunction of exactly
  the query results of its own attempt;
* `Ledger` is the monitor's side: the pending attempt was requested after the last cancellation,
  with the push evaluation it carries, and every attempt ends at most once, by being cancelled or
  by being consumed;
* `Reading` is the call in progress.

`can_blank_safety` puts the three together.
-/

namespace LgBuddy

open Mealy

/-! ## Reading the history -/

/-- The evaluations the worker obtained for an attempt, in order. -/
def queriedBy (attempt : Nat) (h : List GateEvent) : List InhibitionEvaluation :=
  h.filterMap fun
    | .queried attempt' result => if attempt' = attempt then result else none
    | _ => none

/-- The attempt that ended by this event, because `cancel` found it pending. -/
def GateEvent.cancelledAttempt : GateEvent → Option Nat
  | .cancelled attempt => attempt
  | _ => none

/-- The attempt that ended by this event, because a call consumed its reply. -/
def GateEvent.consumedAttempt : GateEvent → Option Nat
  | .returned _ consumed _ => consumed.map Prod.fst
  | _ => none

namespace GateEvent

variable (now : Instant) (a : Nat) (push : List InhibitionEvaluation)
  (consumed : Option (Nat × Option InhibitionSectionEvaluation)) (answer : Bool)

@[simp] theorem cancelledAttempt_called : (called now push).cancelledAttempt = none := rfl
@[simp] theorem cancelledAttempt_requested : (requested a push).cancelledAttempt = none := rfl
@[simp] theorem cancelledAttempt_returned :
    (returned now consumed answer).cancelledAttempt = none := rfl
@[simp] theorem consumedAttempt_called : (called now push).consumedAttempt = none := rfl
@[simp] theorem consumedAttempt_requested : (requested a push).consumedAttempt = none := rfl
@[simp] theorem consumedAttempt_returned :
    (returned now consumed answer).consumedAttempt = consumed.map Prod.fst := rfl

end GateEvent

def cancelledAttempts (h : List GateEvent) : List Nat := h.filterMap (·.cancelledAttempt)

def consumedAttempts (h : List GateEvent) : List Nat := h.filterMap (·.consumedAttempt)

@[simp] theorem cancelledAttempts_nil : cancelledAttempts [] = [] := rfl

@[simp] theorem consumedAttempts_nil : consumedAttempts [] = [] := rfl

/-- The cancelled attempts of a history, event by event. -/
@[simp] theorem cancelledAttempts_cons (event : GateEvent) (h : List GateEvent) :
    cancelledAttempts (event :: h) = event.cancelledAttempt.toList ++ cancelledAttempts h := by
  cases hc : event.cancelledAttempt <;> simp [cancelledAttempts, hc]

/-- And the consumed ones. -/
@[simp] theorem consumedAttempts_cons (event : GateEvent) (h : List GateEvent) :
    consumedAttempts (event :: h) = event.consumedAttempt.toList ++ consumedAttempts h := by
  cases hc : event.consumedAttempt <;> simp [consumedAttempts, hc]

section
variable (attempt : Nat) (h h' : List GateEvent)

@[simp] theorem queriedBy_append :
    queriedBy attempt (h ++ h') = queriedBy attempt h ++ queriedBy attempt h' :=
  List.filterMap_append

@[simp] theorem cancelledAttempts_append :
    cancelledAttempts (h ++ h') = cancelledAttempts h ++ cancelledAttempts h' :=
  List.filterMap_append

@[simp] theorem consumedAttempts_append :
    consumedAttempts (h ++ h') = consumedAttempts h ++ consumedAttempts h' :=
  List.filterMap_append

end

/-- The request of this pending check is in the history, and no cancellation after it; the worker
had not touched the attempt before. -/
def RequestedSince (h : List GateEvent) (pending : PendingCheck) : Prop :=
  ∃ before after, h = before ++ .requested pending.attempt pending.push.contributions :: after
    ∧ (∀ a, .cancelled a ∉ after) ∧ queriedBy pending.attempt before = []
    ∧ ∀ r, .replied pending.attempt r ∉ before

/-- The call in progress started with this reading of the push adapters. -/
def CalledSince (h : List GateEvent) (now : Instant) (push : List InhibitionEvaluation) : Prop :=
  ∃ before after, h = before ++ .called now push :: after ∧ ∀ t p, .called t p ∉ after

/-- A request stays the last one while nothing is cancelled. -/
theorem RequestedSince.append {h es : List GateEvent} {pending : PendingCheck}
    (hr : RequestedSince h pending) (hes : ∀ a, .cancelled a ∉ es) :
    RequestedSince (h ++ es) pending := by
  obtain ⟨before, after, rfl, hno, hq, hrep⟩ := hr
  refine ⟨before, after ++ es, by simp, fun a hmem => ?_, hq, hrep⟩
  rcases List.mem_append.mp hmem with hmem | hmem
  · exact hno a hmem
  · exact hes a hmem

/-- A call stays the last one until the next call. -/
theorem CalledSince.append {h es : List GateEvent} {now : Instant}
    {push : List InhibitionEvaluation} (hc : CalledSince h now push)
    (hes : ∀ t p, .called t p ∉ es) : CalledSince (h ++ es) now push := by
  obtain ⟨before, after, rfl, hno⟩ := hc
  refine ⟨before, after ++ es, by simp, fun t p hmem => ?_⟩
  rcases List.mem_append.mp hmem with hmem | hmem
  · exact hno t p hmem
  · exact hes t p hmem

namespace GateSystem

variable {s s' : GateSystem} {h es : List GateEvent} {i : GateInput}

/-! ## What a step can do -/

/-- A step of the monitor. The gate's diagnostics and retry time are left open: nothing below
depends on them. -/
inductive MonitorEffect (s : GateSystem) : GateSystem → List GateEvent → Prop where
  /-- `cancel`, an effective `configure`, `Drop`, and `can_blank` with inhibition bypassed. -/
  | cancel {gate : Inhibition} {pc : MonitorPc} {stop : Bool} {more : List GateEvent}
      (hpc : pc = .idle ∨ pc = .dropped) (hpending : gate.pending = none)
      (hadapters : gate.pushAdapters = s.gate.pushAdapters)
      (hmore : more = [] ∨ s.gate.preference.bypassInhibition = true
        ∧ ∃ now answer, more = [.returned now none answer]) :
      MonitorEffect s { s.cancel with gate, monitor := pc, stop } (s.cancelEvent :: more)
  | read {now : Instant} {evaluations : List InhibitionEvaluation}
      (hhonor : s.gate.preference.bypassInhibition = false)
      (hlength : evaluations.length = s.gate.pushAdapters)
      (hsame : s.gate.pushChanged (evaluatePushInhibition evaluations) = false) :
      MonitorEffect s { s with monitor := .polling now (evaluatePushInhibition evaluations) }
        [.called now evaluations]
  | readChanged {now : Instant} {evaluations : List InhibitionEvaluation}
      (hhonor : s.gate.preference.bypassInhibition = false)
      (hlength : evaluations.length = s.gate.pushAdapters) :
      MonitorEffect s
        { s.cancel with monitor := .polling now (evaluatePushInhibition evaluations) }
        [.called now evaluations, s.cancelEvent]
  | nothingPending {now : Instant} {push : InhibitionSectionEvaluation}
      (hpc : s.monitor = .polling now push) (hpending : s.gate.pending = none) :
      MonitorEffect s { s with monitor := .sending now push } []
  | consume {now : Instant} {push : InhibitionSectionEvaluation} {pending : PendingCheck}
      {pull : Option InhibitionSectionEvaluation} {gate : Inhibition}
      (hpc : s.monitor = .polling now push) (hpending : s.gate.pending = some pending)
      (hsent : s.replies pending.attempt = .sent pull) (hgate : gate.pending = none)
      (hpreference : gate.preference = s.gate.preference)
      (hadapters : gate.pushAdapters = s.gate.pushAdapters) :
      MonitorEffect s
        { s with
          gate
          monitor := .idle
          replies := Function.update s.replies pending.attempt .closed }
        [.returned now (some (pending.attempt, pull))
          (reconcile s.gate.preference (some push) pull s.gate.releaseDelay now false).canBlank]
  | hungUp {now : Instant} {push : InhibitionSectionEvaluation} {gate : Inhibition}
      (hpc : s.monitor = .polling now push) (hpending : gate.pending = none)
      (hpreference : gate.preference = s.gate.preference)
      (hadapters : gate.pushAdapters = s.gate.pushAdapters) :
      MonitorEffect s { s.cancel with gate, monitor := .sending now push } [s.cancelEvent]
  /-- The reply is not there yet, the retry interval is not over, or the queue did not take the
  request: no verdict. -/
  | noVerdict {now : Instant} {push : InhibitionSectionEvaluation} {gate : Inhibition}
      {answer : Bool} (hanswer : answer = s.gate.preference.bypassInhibition)
      (hpc : s.monitor = .polling now push ∨ s.monitor = .sending now push)
      (hpending : gate.pending = s.gate.pending)
      (hpreference : gate.preference = s.gate.preference)
      (hadapters : gate.pushAdapters = s.gate.pushAdapters) :
      MonitorEffect s { s with gate, monitor := .idle } [.returned now none answer]
  | request {now : Instant} {push : InhibitionSectionEvaluation} {gate : Inhibition}
      {answer : Bool} (hanswer : answer = s.gate.preference.bypassInhibition)
      (hpc : s.monitor = .sending now push) (hqueue : s.queue = none)
      (hpending : gate.pending = some ⟨s.nextAttempt, push⟩)
      (hpreference : gate.preference = s.gate.preference)
      (hadapters : gate.pushAdapters = s.gate.pushAdapters) :
      MonitorEffect s
        { s with
          gate
          monitor := .idle
          queue := some s.nextAttempt
          nextAttempt := s.nextAttempt + 1 }
        [.requested s.nextAttempt push.contributions, .returned now none answer]

/-- A step of the worker. -/
inductive WorkerEffect (s : GateSystem) : GateSystem → List GateEvent → Prop where
  | hangUp {attempts : List Nat}
      (hattempts : ∀ a ∈ attempts, a ∈ s.worker.attempt ∨ a ∈ s.queue) :
      WorkerEffect s (s.hangUp attempts) []
  | receive {attempt : Nat} (hpc : s.worker = .idle) (hqueue : s.queue = some attempt) :
      WorkerEffect s { s with queue := none, worker := .checking attempt [] } []
  | cancelled {attempt : Nat} {contributions : List InhibitionEvaluation}
      (hpc : s.worker = .checking attempt contributions) :
      WorkerEffect s { s with worker := .replying attempt none } []
  | query {attempt : Nat} {contributions : List InhibitionEvaluation}
      (hpc : s.worker = .checking attempt contributions)
      (hlt : contributions.length < s.pullAdapters) :
      WorkerEffect s { s with worker := .querying attempt contributions } []
  | done {attempt : Nat} {contributions : List InhibitionEvaluation}
      (hpc : s.worker = .checking attempt contributions)
      (hge : s.pullAdapters ≤ contributions.length) :
      WorkerEffect s
        { s with worker := .replying attempt (some (.ofContributions contributions)) } []
  | queryFailed {attempt : Nat} {contributions : List InhibitionEvaluation}
      (hpc : s.worker = .querying attempt contributions) :
      WorkerEffect s { s with worker := .replying attempt none } [.queried attempt none]
  | queried {attempt : Nat} {contributions : List InhibitionEvaluation}
      {evaluation : InhibitionEvaluation} (hpc : s.worker = .querying attempt contributions) :
      WorkerEffect s { s with worker := .checking attempt (contributions ++ [evaluation]) }
        [.queried attempt (some evaluation)]
  | reply {attempt : Nat} {result : Option InhibitionSectionEvaluation}
      (hpc : s.worker = .replying attempt result) :
      WorkerEffect s
        { s with
          worker := .idle
          replies := Function.update s.replies attempt (.sent result) }
        [.replied attempt result]

/-- A poll finds nothing pending, takes the verdict of its attempt, goes on without one, or learns
that the worker has gone. -/
theorem poll_effect {now : Instant} {push : InhibitionSectionEvaluation}
    (hpc : s.monitor = .polling now push) :
    MonitorEffect s (s.poll now push).1 (s.poll now push).2 := by
  unfold poll
  split
  · next hp => exact .nothingPending hpc hp
  · next pending hp =>
    split
    · next pull hsent => exact .consume hpc hp hsent rfl rfl rfl
    · exact .noVerdict (reconcile_without_pull true) (.inl hpc) rfl rfl rfl
    · exact .hungUp hpc rfl rfl rfl

/-- Sending puts a new request in the queue if that is empty, and otherwise goes without a
verdict. -/
theorem send_effect {now : Instant} {push : InhibitionSectionEvaluation}
    (hpc : s.monitor = .sending now push) :
    MonitorEffect s (s.send now push).1 (s.send now push).2 := by
  unfold send
  split
  · split
    · next hq =>
      have hqueue : s.queue = none := by
        rw [Bool.and_eq_true, Option.isNone_iff_eq_none] at hq
        exact hq.1
      exact .request (reconcile_without_pull true) hpc hqueue rfl rfl rfl
    · exact .noVerdict (reconcile_without_pull true) (.inr hpc) rfl rfl rfl
  · exact .noVerdict (reconcile_without_pull true) (.inr hpc) rfl rfl rfl

/-- A call is answered at once under the bypass, is dropped if the adapters do not match, and
otherwise reads its push adapters, which cancels what is pending if they have changed. -/
theorem canBlank_effect {now : Instant} {evaluations : List InhibitionEvaluation}
    (hidle : s.monitor = .idle) :
    MonitorEffect s (s.canBlank now evaluations).1 (s.canBlank now evaluations).2
      ∨ s.canBlank now evaluations = (s, []) := by
  unfold canBlank
  split
  · next hbypass =>
    refine .inl (.cancel (.inl ?_) rfl rfl (.inr ⟨hbypass, _, _, rfl⟩))
    exact hidle
  · next hhonor =>
    rw [Bool.not_eq_true] at hhonor
    split
    · exact .inr rfl
    · next hlength =>
      rw [ne_eq, not_not] at hlength
      dsimp only
      split
      · exact .inl (.readChanged hhonor hlength)
      · next hsame => exact .inl (.read hhonor hlength (by simpa using hsame))

/-- The worker takes the request in the queue, or ends when nobody can send it any more. -/
theorem receive_effect (hpc : s.worker = .idle) :
    WorkerEffect s s.receive [] ∨ s.receive = s := by
  unfold receive
  split
  · next attempt hqueue =>
    split
    · exact .inl (.hangUp (by simp [hqueue]))
    · exact .inl (.receive hpc hqueue)
  · split
    · exact .inl (.hangUp (by simp))
    · exact .inr rfl

/-- **A step is a step of one thread, or nothing.** -/
theorem step_effect (s : GateSystem) (i : GateInput) :
    MonitorEffect s (s.step i).1 (s.step i).2 ∨ WorkerEffect s (s.step i).1 (s.step i).2
      ∨ s.step i = (s, []) := by
  cases i with
  | cancel =>
    dsimp only [step]
    split
    · next hidle => exact .inl (.cancel (.inl hidle) rfl rfl (.inl rfl))
    · exact .inr (.inr rfl)
  | configure honoring releaseDelay =>
    dsimp only [step]
    split
    · next hidle =>
      dsimp only [configure]
      split
      · exact .inl (.cancel (.inl hidle) rfl rfl (.inl rfl))
      · exact .inr (.inr rfl)
    · exact .inr (.inr rfl)
  | canBlank now evaluations =>
    dsimp only [step]
    split
    · next hidle => exact (canBlank_effect hidle).imp id .inr
    · exact .inr (.inr rfl)
  | poll =>
    dsimp only [step]
    split
    · next hpc => exact .inl (poll_effect hpc)
    · exact .inr (.inr rfl)
  | send =>
    dsimp only [step]
    split
    · next hpc => exact .inl (send_effect hpc)
    · exact .inr (.inr rfl)
  | drop =>
    dsimp only [step]
    split
    · exact .inl (.cancel (.inr rfl) rfl rfl (.inl rfl))
    · exact .inr (.inr rfl)
  | receive =>
    dsimp only [step]
    split
    · next hpc =>
      rcases receive_effect hpc with hs | heq
      · exact .inr (.inl hs)
      · exact .inr (.inr (by rw [heq]))
    · exact .inr (.inr rfl)
  | check =>
    dsimp only [step]
    split
    · next hpc =>
      unfold check
      split
      · exact .inr (.inl (.cancelled hpc))
      · split
        -- an adapter left is queried, else the verdict is done
        · next hlt => exact .inr (.inl (.query hpc hlt))
        · next hge => exact .inr (.inl (.done hpc (Nat.le_of_not_lt hge)))
    · exact .inr (.inr rfl)
  | queryReturn result =>
    dsimp only [step]
    split
    · next hpc =>
      cases result with
      | none => exact .inr (.inl (.queryFailed hpc))
      | some evaluation => exact .inr (.inl (.queried hpc))
    · exact .inr (.inr rfl)
  | reply =>
    dsimp only [step]
    split
    · next hpc => exact .inr (.inl (.reply hpc))
    · exact .inr (.inr rfl)
  | die => exact .inr (.inl (.hangUp (by simp)))

/-- The steps that cancel: `cancel` and `Drop`, a `configure` with other settings, a `can_blank`
with inhibition bypassed or with another answer of a push adapter than at the request, and a poll
that finds the worker gone. -/
def CallsCancel (s : GateSystem) : GateInput → Prop
  | .cancel | .drop => s.monitor = .idle
  | .configure honoring releaseDelay => s.monitor = .idle ∧
      (s.gate.preference ≠ evaluateInhibitionPreference honoring
        ∨ s.gate.releaseDelay ≠ releaseDelay)
  | .canBlank _ evaluations => s.monitor = .idle ∧
      (s.gate.preference.bypassInhibition = true ∨ evaluations.length = s.gate.pushAdapters
        ∧ s.gate.pushChanged (evaluatePushInhibition evaluations) = true)
  | .poll => (∃ now push, s.monitor = .polling now push) ∧
      ∃ pending, s.gate.pending = some pending ∧ s.replies pending.attempt = .closed
  | _ => False

/-- A poll cancels exactly the attempt whose channel has been closed. -/
theorem mem_poll_cancelled {now : Instant} {push : InhibitionSectionEvaluation}
    {a : Option Nat} : .cancelled a ∈ (s.poll now push).2 ↔
      (∃ pending, s.gate.pending = some pending ∧ s.replies pending.attempt = .closed)
        ∧ a = s.gate.pending.map (·.attempt) := by
  unfold poll
  cases hpending : s.gate.pending with
  | none => simp
  | some pending => cases hreply : s.replies pending.attempt <;> simp [hpending, hreply, cancelEvent]

/-- **A cancellation is recorded when it is called for**, and names the pending attempt. -/
theorem mem_step_cancelled {a : Option Nat} : .cancelled a ∈ (s.step i).2 ↔
    s.CallsCancel i ∧ a = s.gate.pending.map (·.attempt) := by
  cases i with
  -- input by input: what the source cancels, and that nothing else does
  | cancel | drop =>
    by_cases hidle : s.monitor = .idle <;> simp [step, drop, CallsCancel, cancelEvent, hidle]
  | configure honoring releaseDelay =>
    by_cases hidle : s.monitor = .idle
    · by_cases hother : s.gate.preference ≠ evaluateInhibitionPreference honoring
          ∨ s.gate.releaseDelay ≠ releaseDelay
      · simp only [step, configure, CallsCancel, cancelEvent, if_pos hidle, if_pos hother]
        simp [hidle, hother]
      · simp only [step, configure, CallsCancel, if_pos hidle, if_neg hother]
        simp [hidle, hother]
    · simp [step, CallsCancel, hidle]
  | canBlank now evaluations =>
    by_cases hidle : s.monitor = .idle
    · simp only [step, canBlank, CallsCancel, if_pos hidle]
      split
      · next hbypass => simp [hidle, hbypass, cancelEvent]
      · next hhonor =>
        split
        · next hlength => simp [hidle, hhonor, hlength]
        · next hlength =>
          rw [ne_eq, not_not] at hlength
          split
          · next hchanged => simp [hidle, hlength, hchanged, cancelEvent]
          · next hsame => simp [hidle, hhonor, hsame]
    · simp [step, CallsCancel, hidle]
  | poll =>
    cases hmonitor : s.monitor with
    | polling now push => simpa [step, CallsCancel, hmonitor] using mem_poll_cancelled
    | _ => simp [step, CallsCancel, hmonitor]
  | send =>
    cases hmonitor : s.monitor with
    | sending now push =>
      simp only [step, CallsCancel, hmonitor, send, false_and, iff_false]
      split_ifs <;> simp
    | _ => simp [step, CallsCancel, hmonitor]
  | receive => by_cases hidle : s.worker = .idle <;> simp [step, CallsCancel, hidle]
  | check => cases hworker : s.worker <;> simp [step, CallsCancel, hworker]
  | queryReturn result =>
    cases hworker : s.worker with
    | querying attempt contributions => cases result <;> simp [step, CallsCancel, hworker, queryReturn]
    | _ => simp [step, CallsCancel, hworker]
  | reply => cases hworker : s.worker <;> simp [step, CallsCancel, hworker, reply]
  | die => simp [step, CallsCancel]

/-! ## The worker's answers -/

/-- The verdict an attempt's own queries give, once all adapters have answered. -/
def Verdict (h : List GateEvent) (pullAdapters attempt : Nat)
    (verdict : InhibitionSectionEvaluation) : Prop :=
  verdict = .ofContributions (queriedBy attempt h)
    ∧ (queriedBy attempt h).length = pullAdapters

/-- What the worker holds is what it was told for this attempt. -/
def Progress (h : List GateEvent) (pullAdapters : Nat) : WorkerPc → Prop
  | .checking attempt contributions =>
    queriedBy attempt h = contributions ∧ contributions.length ≤ pullAdapters
  | .querying attempt contributions =>
    queriedBy attempt h = contributions ∧ contributions.length < pullAdapters
  | .replying attempt (some verdict) => Verdict h pullAdapters attempt verdict
  | .replying _ none | .idle | .dead => True

/-- Every verdict in a reply channel was computed for that attempt and no other. -/
structure Answers (h : List GateEvent) (s : GateSystem) : Prop where
  fresh : ∀ a, s.nextAttempt ≤ a →
    queriedBy a h = [] ∧ (∀ r, .replied a r ∉ h) ∧ s.replies a = .waiting
  queued : ∀ a ∈ s.queue, a < s.nextAttempt ∧ s.replies a = .waiting ∧ queriedBy a h = []
    ∧ s.worker.attempt ≠ some a
  current : ∀ a ∈ s.worker.attempt, a < s.nextAttempt ∧ s.replies a = .waiting
  progress : Progress h s.pullAdapters s.worker
  sent : ∀ a verdict, s.replies a = .sent (some verdict) →
    Verdict h s.pullAdapters a verdict ∧ .replied a (some verdict) ∈ h

/-- Events the worker has no part in. -/
def Silent (es : List GateEvent) : Prop :=
  (∀ a, queriedBy a es = []) ∧ ∀ a r, .replied a r ∉ es

/-- The monitor never queries and never replies. -/
theorem MonitorEffect.silent (hs : MonitorEffect s s' es) : Silent es := by
  cases hs with
  | cancel _ _ _ hmore =>
    rcases hmore with rfl | ⟨_, now, answer, rfl⟩ <;>
      exact ⟨fun a => by simp [queriedBy, cancelEvent], by simp [cancelEvent]⟩
  | _ => exact ⟨fun a => by simp [queriedBy, cancelEvent], by simp [cancelEvent]⟩

/-- So it adds nothing to what an attempt has queried. -/
theorem Silent.queriedBy (hes : Silent es) (a : Nat) :
    LgBuddy.queriedBy a (h ++ es) = LgBuddy.queriedBy a h := by
  rw [queriedBy_append, hes.1 a, List.append_nil]

/-- A verdict speaks of the queries of its attempt only. -/
theorem Verdict.congr {h' : List GateEvent} {pullAdapters a : Nat}
    {verdict : InhibitionSectionEvaluation}
    (hq : LgBuddy.queriedBy a h' = LgBuddy.queriedBy a h)
    (hv : Verdict h pullAdapters a verdict) : Verdict h' pullAdapters a verdict := by
  unfold Verdict
  rw [hq]
  exact hv

/-- Progress depends only on the record of the worker's own attempt. -/
theorem Progress.congr {h' : List GateEvent} {pullAdapters : Nat} {pc : WorkerPc}
    (hq : ∀ a ∈ pc.attempt, LgBuddy.queriedBy a h' = LgBuddy.queriedBy a h)
    (hp : Progress h pullAdapters pc) : Progress h' pullAdapters pc := by
  cases pc with
  | checking a cs | querying a cs =>
    dsimp only [Progress] at hp ⊢
    rw [hq a rfl]
    exact hp
  | replying a result =>
    cases result with
    | none => trivial
    | some verdict => exact Verdict.congr (hq a rfl) hp
  | idle | dead => trivial

/-- A verdict that was sent stays one. -/
theorem Silent.sent (hes : Silent es) {pullAdapters a : Nat}
    {verdict : InhibitionSectionEvaluation}
    (hv : Verdict h pullAdapters a verdict ∧ .replied a (some verdict) ∈ h) :
    Verdict (h ++ es) pullAdapters a verdict ∧ .replied a (some verdict) ∈ h ++ es :=
  ⟨hv.1.congr (hes.queriedBy a), List.mem_append_left _ hv.2⟩

/-- An attempt that has not begun has still not begun. -/
theorem Silent.fresh (hes : Silent es) {a : Nat} {P : Prop}
    (hf : LgBuddy.queriedBy a h = [] ∧ (∀ r, .replied a r ∉ h) ∧ P) :
    LgBuddy.queriedBy a (h ++ es) = [] ∧ (∀ r, .replied a r ∉ h ++ es) ∧ P := by
  refine ⟨by rw [hes.queriedBy, hf.1], fun r hmem => ?_, hf.2.2⟩
  rcases List.mem_append.mp hmem with hmem | hmem
  · exact hf.2.1 r hmem
  · exact hes.2 a r hmem

/-- A step that leaves the worker, the queue and the channels alone. -/
theorem Answers.frame (ha : Answers h s) (hes : Silent es) (hworker : s'.worker = s.worker)
    (hqueue : s'.queue = s.queue) (hreplies : s'.replies = s.replies)
    (hnext : s'.nextAttempt = s.nextAttempt) (hpull : s'.pullAdapters = s.pullAdapters) :
    Answers (h ++ es) s' where
  fresh a hle := by
    rw [hreplies]
    exact hes.fresh (ha.fresh a (hnext ▸ hle))
  queued a hmem := by
    rw [hnext, hreplies, hworker, hes.queriedBy]
    exact ha.queued a (hqueue ▸ hmem)
  current a hmem := by
    rw [hnext, hreplies]
    exact ha.current a (hworker ▸ hmem)
  progress := by
    rw [hworker, hpull]
    exact ha.progress.congr fun a _ => hes.queriedBy a
  sent a verdict hsent := by
    rw [hpull]
    exact hes.sent (ha.sent a verdict (hreplies ▸ hsent))

/-- **Answers, monitor.** No step of the monitor touches what the worker has found out. -/
theorem Answers.monitor (ha : Answers h s) (hs : MonitorEffect s s' es) :
    Answers (h ++ es) s' := by
  have hes := hs.silent
  cases hs with
  | @consume now push pending pull gate _ _ hsent =>
    -- the consumed channel had a message in it, so the worker is done with the attempt
    have hne : ∀ {a}, s.replies a = .waiting →
        Function.update s.replies pending.attempt .closed a = .waiting := by
      intro a hwait
      rw [Function.update_of_ne _ _ _, hwait]
      rintro rfl
      rw [hsent] at hwait
      cases hwait
    refine ⟨fun a hle => ?_, fun a hmem => ?_, fun a hmem => ?_, ha.progress.congr fun a _ => hes.queriedBy a,
      fun a verdict hverdict => ?_⟩
    · obtain ⟨hq, hr, hw⟩ := ha.fresh a hle
      exact hes.fresh ⟨hq, hr, hne hw⟩
    · obtain ⟨hlt, hw, hq, hc⟩ := ha.queued a hmem
      exact ⟨hlt, hne hw, by rw [hes.queriedBy, hq], hc⟩
    · obtain ⟨hlt, hw⟩ := ha.current a hmem
      exact ⟨hlt, hne hw⟩
    · by_cases hap : a = pending.attempt
      · simp [hap] at hverdict
      · simp only [Function.update_of_ne hap] at hverdict
        exact hes.sent (ha.sent a verdict hverdict)
  | request =>
    obtain ⟨hq₀, _, hw₀⟩ := ha.fresh s.nextAttempt (Nat.le_refl _)
    -- the number of the new attempt was not used before, so nothing is known of it
    refine ⟨fun a hle => ?_, fun a hmem => ?_, fun a hmem => ?_, ha.progress.congr fun a _ => hes.queriedBy a,
      fun a verdict hverdict => hes.sent (ha.sent a verdict hverdict)⟩
    · exact hes.fresh (ha.fresh a (Nat.le_of_succ_le hle))
    · cases hmem
      refine ⟨Nat.lt_succ_self _, hw₀, by rw [hes.queriedBy, hq₀], fun hc => ?_⟩
      exact absurd (ha.current _ hc).1 (Nat.lt_irrefl _)
    · obtain ⟨hlt, hw⟩ := ha.current a hmem
      exact ⟨Nat.lt_succ_of_lt hlt, hw⟩
  | _ => exact ha.frame hes rfl rfl rfl rfl rfl

/-- A query result is on the record of its own attempt only. -/
theorem queriedBy_queried (a attempt : Nat) (result : Option InhibitionEvaluation) :
    queriedBy a [.queried attempt result] = if attempt = a then result.toList else [] := by
  by_cases hne : attempt = a
  · cases result <;> simp [queriedBy, hne]
  · simp [queriedBy, hne]

/-- A query of one attempt says nothing of another. -/
theorem queriedBy_append_of_ne {a attempt : Nat} {result : Option InhibitionEvaluation}
    (hne : attempt ≠ a) :
    queriedBy a (h ++ [.queried attempt result]) = queriedBy a h := by
  rw [queriedBy_append, queriedBy_queried, if_neg hne, List.append_nil]

/-- A worker that moves on within its attempt. -/
theorem Answers.setWorker {pc : WorkerPc} (ha : Answers h s)
    (hattempt : pc.attempt = s.worker.attempt) (hp : Progress h s.pullAdapters pc) :
    Answers h { s with worker := pc } where
  fresh := ha.fresh
  queued a hmem := by
    obtain ⟨hlt, hw, hq, hc⟩ := ha.queued a hmem
    exact ⟨hlt, hw, hq, hattempt ▸ hc⟩
  current a hmem := ha.current a (hattempt ▸ hmem)
  progress := hp
  sent := ha.sent

/-- A query result for the worker's attempt changes nobody else's record. -/
theorem Answers.queried {attempt : Nat} {result : Option InhibitionEvaluation} {pc : WorkerPc}
    (ha : Answers h s) (hcurrent : s.worker.attempt = some attempt)
    (hattempt : pc.attempt = some attempt)
    (hp : Progress (h ++ [.queried attempt result]) s.pullAdapters pc) :
    Answers (h ++ [.queried attempt result]) { s with worker := pc } := by
  obtain ⟨hlt, hwait⟩ := ha.current attempt hcurrent
  refine ⟨fun a hle => ?_, fun a hmem => ?_, fun a hmem => ?_, hp, fun a verdict hv => ?_⟩
  · obtain ⟨hq, hr, hw⟩ := ha.fresh a hle
    have hne : attempt ≠ a := Nat.ne_of_lt (Nat.lt_of_lt_of_le hlt hle)
    exact ⟨by rw [queriedBy_append_of_ne hne, hq], fun r hmem => hr r (by simpa using hmem), hw⟩
  · obtain ⟨hlt', hw, hq, hc⟩ := ha.queued a hmem
    have hne : attempt ≠ a := by
      rintro rfl
      exact hc hcurrent
    exact ⟨hlt', hw, by rw [queriedBy_append_of_ne hne, hq], by rw [hattempt, ← hcurrent]; exact hc⟩
  · rw [Option.mem_def, hattempt, ← hcurrent] at hmem
    exact ha.current a hmem
  · obtain ⟨hverdict, hmem⟩ := ha.sent a verdict hv
    have hne : attempt ≠ a := by
      rintro rfl
      rw [show s.replies attempt = _ from hv] at hwait
      cases hwait
    exact ⟨hverdict.congr (queriedBy_append_of_ne hne), List.mem_append_left _ hmem⟩

/-- The reply goes into the channel of the worker's attempt. -/
theorem Answers.reply {attempt : Nat} {result : Option InhibitionSectionEvaluation}
    (ha : Answers h s) (hpc : s.worker = .replying attempt result) :
    Answers (h ++ [.replied attempt result])
      { s with
        worker := .idle
        replies := Function.update s.replies attempt (.sent result) } := by
  have hcurrent : s.worker.attempt = some attempt := by rw [hpc]; rfl
  obtain ⟨hlt, _⟩ := ha.current attempt hcurrent
  have hq : ∀ a, queriedBy a (h ++ [.replied attempt result]) = queriedBy a h := by
    simp [queriedBy]
  refine ⟨fun a hle => ?_, fun a hmem => ?_, (by rintro _ ⟨⟩), trivial, fun a verdict hv => ?_⟩
  · obtain ⟨hqa, hr, hw⟩ := ha.fresh a hle
    have hne : a ≠ attempt := (Nat.ne_of_lt (Nat.lt_of_lt_of_le hlt hle)).symm
    refine ⟨by rw [hq, hqa], fun r hmem => ?_, by simp [Function.update_of_ne hne, hw]⟩
    rcases List.mem_append.mp hmem with hmem | hmem
    · exact hr r hmem
    · cases List.mem_singleton.mp hmem
      exact hne rfl
  · obtain ⟨hlt', hw, hqa, hc⟩ := ha.queued a hmem
    have hne : a ≠ attempt := by
      rintro rfl
      exact hc hcurrent
    exact ⟨hlt', by simp [Function.update_of_ne hne, hw], by rw [hq, hqa], by simp [WorkerPc.attempt]⟩
  · by_cases hne : a = attempt
    · subst hne
      simp only [Function.update_self, Reply.sent.injEq] at hv
      subst hv
      have hverdict : Verdict h s.pullAdapters a verdict := by
        have hp := ha.progress
        rw [hpc] at hp
        exact hp
      exact ⟨hverdict.congr (hq a), by simp⟩
    · simp only [Function.update_of_ne hne] at hv
      obtain ⟨hverdict, hmem⟩ := ha.sent a verdict hv
      exact ⟨hverdict.congr (hq a), List.mem_append_left _ hmem⟩

/-- Hanging up loses replies and invents none. -/
theorem Answers.hangUp {attempts : List Nat} (ha : Answers h s)
    (hattempts : ∀ a ∈ attempts, a ∈ s.worker.attempt ∨ a ∈ s.queue) :
    Answers h (s.hangUp attempts) := by
  refine ⟨fun a hle => ?_, (by rintro _ ⟨⟩), (by rintro _ ⟨⟩), trivial, fun a verdict hv => ?_⟩
  · obtain ⟨hq, hr, hw⟩ := ha.fresh a hle
    have hnot : a ∉ attempts := by
      intro hmem
      have hlt : a < s.nextAttempt := by
        rcases hattempts a hmem with hc | hqueue
        · exact (ha.current a hc).1
        · exact (ha.queued a hqueue).1
      exact absurd hle (Nat.not_le.mpr hlt)
    exact ⟨hq, hr, by simp [GateSystem.hangUp, hnot, hw]⟩
  · simp only [GateSystem.hangUp] at hv ⊢
    split at hv
    · cases hv
    · exact ha.sent a verdict hv

/-- **Answers, worker.** Each step of the worker keeps the verdicts true: one more query, or a
reply that is made of all of them. -/
theorem Answers.worker (ha : Answers h s) (hs : WorkerEffect s s' es) : Answers (h ++ es) s' := by
  have hp := ha.progress
  cases hs with
  | hangUp hattempts => simpa using ha.hangUp hattempts
  | @receive attempt hpc hqueue =>
    obtain ⟨hlt, hw, hq, _⟩ := ha.queued attempt hqueue
    rw [List.append_nil]
    refine ⟨ha.fresh, (by rintro _ ⟨⟩), ?_, ⟨hq, Nat.zero_le _⟩, ha.sent⟩
    rintro _ ⟨⟩
    exact ⟨hlt, hw⟩
  | cancelled hpc =>
    rw [List.append_nil]
    exact ha.setWorker (by rw [hpc]; rfl) trivial
  | query hpc hlt =>
    rw [hpc] at hp
    rw [List.append_nil]
    exact ha.setWorker (by rw [hpc]; rfl) ⟨hp.1, hlt⟩
  | done hpc hge =>
    rw [hpc] at hp
    obtain ⟨hq, hle⟩ := hp
    rw [List.append_nil]
    refine ha.setWorker (by rw [hpc]; rfl) ⟨by rw [hq], ?_⟩
    rw [hq]
    exact Nat.le_antisymm hle hge
  | queryFailed hpc => exact ha.queried (by rw [hpc]; rfl) rfl trivial
  | queried hpc =>
    rw [hpc] at hp
    obtain ⟨hq, hlt⟩ := hp
    refine ha.queried (by rw [hpc]; rfl) rfl ⟨?_, by rw [List.length_append]; exact hlt⟩
    rw [queriedBy_append, queriedBy_queried, if_pos rfl, hq]
    rfl
  | reply hpc => exact ha.reply hpc

/-! ## The monitor's attempts -/

/-- Every attempt ends at most once, and the pending one has not ended. -/
structure Ledger (h : List GateEvent) (s : GateSystem) : Prop where
  pending : ∀ p ∈ s.gate.pending, p.attempt < s.nextAttempt ∧ RequestedSince h p
    ∧ p.attempt ∉ cancelledAttempts h ++ consumedAttempts h
    ∧ p.push.contributions.length = s.gate.pushAdapters
  past : ∀ a ∈ cancelledAttempts h ++ consumedAttempts h, a < s.nextAttempt
  once : (cancelledAttempts h ++ consumedAttempts h).Nodup

/-- Without a cancelled event nothing is cancelled. -/
theorem cancelledAttempts_eq_nil (hes : ∀ a, .cancelled a ∉ es) : cancelledAttempts es = [] := by
  rw [cancelledAttempts, List.filterMap_eq_nil_iff]
  intro event hmem
  cases event with
  | cancelled a => exact absurd hmem (hes a)
  | _ => rfl

/-- Steps that neither send nor end an attempt. -/
theorem Ledger.keep (hl : Ledger h s) (hpending : s'.gate.pending = s.gate.pending)
    (hnext : s'.nextAttempt = s.nextAttempt)
    (hadapters : s'.gate.pushAdapters = s.gate.pushAdapters) (hes : ∀ a, .cancelled a ∉ es)
    (hconsumed : consumedAttempts es = []) : Ledger (h ++ es) s' := by
  have hended : cancelledAttempts (h ++ es) ++ consumedAttempts (h ++ es)
      = cancelledAttempts h ++ consumedAttempts h := by
    simp [cancelledAttempts_eq_nil hes, hconsumed]
  refine ⟨fun p hmem => ?_, ?_, ?_⟩
  · rw [hpending] at hmem
    rw [hended, hnext, hadapters]
    obtain ⟨hlt, hreq, hnot, hlen⟩ := hl.pending p hmem
    exact ⟨hlt, hreq.append hes, hnot, hlen⟩
  · rw [hended, hnext]
    exact hl.past
  · rw [hended]
    exact hl.once

/-- Steps that end the pending attempt, by cancelling or by consuming it. -/
theorem Ledger.spend (hl : Ledger h s) (hpending : s'.gate.pending = none)
    (hnext : s'.nextAttempt = s.nextAttempt)
    (hes : cancelledAttempts es ++ consumedAttempts es
      = (s.gate.pending.map (·.attempt)).toList) : Ledger (h ++ es) s' := by
  have hperm : (cancelledAttempts (h ++ es) ++ consumedAttempts (h ++ es)).Perm
      ((cancelledAttempts h ++ consumedAttempts h)
        ++ (s.gate.pending.map (·.attempt)).toList) := by
    rw [← hes]
    simp only [cancelledAttempts_append, consumedAttempts_append, List.append_assoc]
    refine List.Perm.append_left _ ?_
    rw [← List.append_assoc, ← List.append_assoc]
    exact List.Perm.append_right _ List.perm_append_comm
  refine ⟨by rw [hpending]; rintro _ ⟨⟩, fun a hmem => ?_, ?_⟩
  · rw [hnext]
    rcases List.mem_append.mp (hperm.mem_iff.mp hmem) with hold | hnew
    · exact hl.past a hold
    · rw [Option.mem_toList, Option.map_eq_some_iff] at hnew
      obtain ⟨p, hp, rfl⟩ := hnew
      exact (hl.pending p hp).1
  · rw [hperm.nodup_iff]
    cases hp : s.gate.pending with
    | none => simpa using hl.once
    | some p =>
      have hnot := (hl.pending p hp).2.2.1
      rw [Option.map_some, Option.toList_some, ← List.concat_eq_append, List.nodup_concat]
      exact ⟨hnot, hl.once⟩

/-- A new request starts a new attempt. -/
theorem Ledger.request {push : InhibitionSectionEvaluation} (hl : Ledger h s)
    (ha : Answers h s) (hpending : s'.gate.pending = some ⟨s.nextAttempt, push⟩)
    (hnext : s'.nextAttempt = s.nextAttempt + 1)
    (hlength : push.contributions.length = s'.gate.pushAdapters) {now : Instant}
    {answer : Bool} :
    Ledger (h ++ [.requested s.nextAttempt push.contributions, .returned now none answer])
      s' := by
  have hended : ∀ es', es' = [GateEvent.requested s.nextAttempt push.contributions,
      .returned now none answer] → cancelledAttempts (h ++ es') ++ consumedAttempts (h ++ es')
        = cancelledAttempts h ++ consumedAttempts h := by
    rintro _ rfl
    simp
  refine ⟨fun p hmem => ?_, fun a hmem => ?_, ?_⟩
  · rw [hpending] at hmem
    cases hmem
    rw [hended _ rfl, hnext]
    obtain ⟨hq, hr, _⟩ := ha.fresh s.nextAttempt (Nat.le_refl _)
    refine ⟨Nat.lt_succ_self _, ⟨h, [.returned now none answer], rfl, by simp, hq, hr⟩, ?_,
      hlength⟩
    exact fun hmem => absurd (hl.past _ hmem) (Nat.lt_irrefl _)
  · rw [hended _ rfl] at hmem
    rw [hnext]
    exact Nat.lt_succ_of_lt (hl.past a hmem)
  · rw [hended _ rfl]
    exact hl.once

/-! ## The call in progress -/

/-- Same permission, status and last release. -/
def Agrees (old new : InhibitionEvaluation) : Prop :=
  old.allowed = new.allowed ∧ old.diagnostics.status = new.diagnostics.status
    ∧ old.diagnostics.lastReleaseAt = new.diagnostics.lastReleaseAt

structure Reading (h : List GateEvent) (s : GateSystem) : Prop where
  call : ∀ now push, s.monitor = .polling now push ∨ s.monitor = .sending now push →
    CalledSince h now push.contributions ∧ push = .ofContributions push.contributions
      ∧ push.contributions.length = s.gate.pushAdapters
  agrees : ∀ now push, s.monitor = .polling now push → ∀ p ∈ s.gate.pending,
    List.Forall₂ Agrees p.push.contributions push.contributions

/-- With one evaluation per adapter, nothing changed means that every adapter agrees. -/
theorem agrees_of_not_pushChanged {gate : Inhibition} {push : InhibitionSectionEvaluation}
    {p : PendingCheck} (hp : p ∈ gate.pending)
    (hlength : p.push.contributions.length = push.contributions.length)
    (hsame : gate.pushChanged push = false) :
    List.Forall₂ Agrees p.push.contributions push.contributions := by
  rw [List.forall₂_iff_zip]
  refine ⟨hlength, fun {old new} hmem => ?_⟩
  rw [Option.mem_def] at hp
  rw [Inhibition.pushChanged, hp, Option.any_some, List.any_eq_false] at hsame
  simpa [Inhibition.changed, Agrees, and_assoc] using hsame (old, new) hmem

/-- A step after which no call is in progress. -/
theorem Reading.idle (hpc : s.monitor = .idle ∨ s.monitor = .dropped) : Reading h s := by
  constructor
  · rintro now push (hp | hp) <;> rcases hpc with hpc | hpc <;> simp [hpc] at hp
  · intro now push hp
    rcases hpc with hpc | hpc <;> simp [hpc] at hp

/-- A step that leaves the call and the pending check alone. -/
theorem Reading.frame (hr : Reading h s) (hpc : s'.monitor = s.monitor)
    (hgate : s'.gate = s.gate) (hes : ∀ t p, .called t p ∉ es) : Reading (h ++ es) s' where
  call now push hp := by
    rw [hpc] at hp
    rw [hgate]
    obtain ⟨hc, heq⟩ := hr.call now push hp
    exact ⟨hc.append hes, heq⟩
  agrees now push hp := by
    rw [hpc] at hp
    rw [hgate]
    exact hr.agrees now push hp

/-- A step from the poll to the send. -/
theorem Reading.send {now : Instant} {push : InhibitionSectionEvaluation} (hr : Reading h s)
    (hpc : s.monitor = .polling now push) (hpc' : s'.monitor = .sending now push)
    (hadapters : s'.gate.pushAdapters = s.gate.pushAdapters) (hes : ∀ t p, .called t p ∉ es) :
    Reading (h ++ es) s' where
  call now' push' hp := by
    rw [hpc'] at hp
    rcases hp with hp | hp <;> cases hp
    rw [hadapters]
    obtain ⟨hc, heq⟩ := hr.call now push (.inl hpc)
    exact ⟨hc.append hes, heq⟩
  agrees now' push' hp := by
    rw [hpc'] at hp
    cases hp

/-- A step into a call. -/
theorem Reading.begin {now : Instant} {evaluations : List InhibitionEvaluation}
    (hpc : s'.monitor = .polling now (evaluatePushInhibition evaluations))
    (hlength : evaluations.length = s'.gate.pushAdapters) (hes : ∀ t p, .called t p ∉ es)
    (hagrees : ∀ p ∈ s'.gate.pending, List.Forall₂ Agrees p.push.contributions evaluations) :
    Reading (h ++ .called now evaluations :: es) s' where
  call now' push hp := by
    rw [hpc] at hp
    rcases hp with hp | hp <;> cases hp
    exact ⟨⟨h, es, rfl, hes⟩, rfl, hlength⟩
  agrees now' push hp := by
    rw [hpc] at hp
    cases hp
    exact hagrees

/-! ## Every interleaving -/

structure Safe (h : List GateEvent) (s : GateSystem) : Prop where
  answers : Answers h s
  ledger : Ledger h s
  reading : Reading h s

/-- The worker cancels and consumes nothing, and leaves the monitor alone. -/
theorem WorkerEffect.quiet (hs : WorkerEffect s s' es) :
    s'.gate = s.gate ∧ s'.monitor = s.monitor ∧ s'.nextAttempt = s.nextAttempt
      ∧ (∀ a, .cancelled a ∉ es) ∧ (∀ t p, .called t p ∉ es) ∧ consumedAttempts es = [] := by
  cases hs <;> exact ⟨rfl, rfl, rfl, by simp, by simp, rfl⟩

/-- A step of the worker keeps the invariant. -/
theorem Safe.worker (hi : Safe h s) (hs : WorkerEffect s s' es) : Safe (h ++ es) s' := by
  obtain ⟨hgate, hpc, hnext, hcancel, hcalled, hconsumed⟩ := hs.quiet
  exact ⟨hi.answers.worker hs,
    hi.ledger.keep (by rw [hgate]) hnext (by rw [hgate]) hcancel hconsumed,
    hi.reading.frame hpc hgate hcalled⟩

@[simp] theorem cancelEvent_cancelledAttempt (s : GateSystem) :
    s.cancelEvent.cancelledAttempt = s.gate.pending.map (·.attempt) := rfl

@[simp] theorem cancelEvent_consumedAttempt (s : GateSystem) :
    s.cancelEvent.consumedAttempt = none := rfl

/-- A step of the monitor keeps the invariant: the ledger by what the step spends, the reading by
what was called. -/
theorem Safe.monitor (hi : Safe h s) (hs : MonitorEffect s s' es) : Safe (h ++ es) s' := by
  refine ⟨hi.answers.monitor hs, ?_, ?_⟩
  · cases hs with
    | cancel _ hpending _ hmore =>
      -- a cancel spends the pending attempt
      refine hi.ledger.spend hpending rfl ?_
      rcases hmore with rfl | ⟨_, now, answer, rfl⟩ <;> simp
    | read => exact hi.ledger.keep rfl rfl rfl (by simp) rfl
    | readChanged =>
      refine hi.ledger.spend rfl rfl ?_
      simp
    | nothingPending => exact hi.ledger.keep rfl rfl rfl (by simp) rfl
    | consume _ hpending _ hgate =>
      refine hi.ledger.spend hgate rfl ?_
      simp [hpending]
    | hungUp _ hpending => exact hi.ledger.spend hpending rfl (by simp)
    | noVerdict _ _ hpending _ hadapters =>
      exact hi.ledger.keep hpending rfl hadapters (by simp) rfl
    | request _ hpc _ hpending _ hadapters =>
      refine hi.ledger.request hi.answers hpending rfl ?_
      exact (hi.reading.call _ _ (.inr hpc)).2.2.trans hadapters.symm
  · cases hs with
    | cancel hpc => exact .idle hpc
    | @read now evaluations _ hlength hsame =>
      refine .begin rfl hlength (by simp) fun p hp => ?_
      refine agrees_of_not_pushChanged hp ?_ hsame
      exact (hi.ledger.pending p hp).2.2.2.trans hlength.symm
    | readChanged _ hlength =>
      exact .begin rfl hlength (by simp [cancelEvent]) (by rintro _ ⟨⟩)
    | nothingPending hpc => exact hi.reading.send hpc rfl rfl (by simp)
    | consume | noVerdict | request => exact .idle (.inl rfl)
    | hungUp hpc _ _ hadapters => exact hi.reading.send hpc rfl hadapters (by simp [cancelEvent])

/-- **Step.** Whoever moves, the invariant is kept. -/
theorem Safe.step (hi : Safe h s) (i : GateInput) : Safe (h ++ (s.step i).2) (s.step i).1 := by
  rcases step_effect s i with hs | hs | heq
  · exact hi.monitor hs
  · exact hi.worker hs
  · rw [heq, List.append_nil]
    exact hi

/-- A new gate has asked for nothing. -/
theorem safe_new (honoring : ScreenHonorIdleInhibitorsPolicy) (releaseDelay : Duration)
    (pushAdapters pullAdapters : Nat) :
    Safe [] (new honoring releaseDelay pushAdapters pullAdapters) where
  answers := ⟨fun _ _ => ⟨rfl, by simp, rfl⟩, by rintro _ ⟨⟩, by rintro _ ⟨⟩, trivial,
    by rintro _ _ ⟨⟩⟩
  ledger := ⟨by rintro _ ⟨⟩, by simp, List.nodup_nil⟩
  reading := .idle (.inl rfl)

/-- The number of pull adapters never changes in the monitor. -/
theorem MonitorEffect.pullAdapters (hs : MonitorEffect s s' es) :
    s'.pullAdapters = s.pullAdapters := by
  cases hs <;> rfl

/-- The number of pull adapters does not change in the worker. -/
theorem WorkerEffect.pullAdapters (hs : WorkerEffect s s' es) :
    s'.pullAdapters = s.pullAdapters := by
  cases hs <;> rfl

/-- The pull adapters are fixed. -/
theorem step_pullAdapters (s : GateSystem) (i : GateInput) :
    (s.step i).1.pullAdapters = s.pullAdapters := by
  rcases step_effect s i with hs | hs | heq
  · exact hs.pullAdapters
  · exact hs.pullAdapters
  · rw [heq]

/-- Only a consumed verdict says yes while inhibitors are honored. -/
theorem returned_true (hs : MonitorEffect s s' es)
    (hhonor : s.gate.preference.bypassInhibition = false) {now : Instant}
    {consumed : Option (Nat × Option InhibitionSectionEvaluation)}
    (hret : .returned now consumed true ∈ es) :
    ∃ push pending pull, s.monitor = .polling now push ∧ s.gate.pending = some pending
      ∧ s.replies pending.attempt = .sent pull ∧ consumed = some (pending.attempt, pull)
      ∧ (reconcile s.gate.preference (some push) pull s.gate.releaseDelay now false).canBlank
        = true := by
  cases hs with
  | @consume now' push pending pull gate hpc hpending hsent =>
    rw [List.mem_singleton, GateEvent.returned.injEq] at hret
    obtain ⟨rfl, rfl, hanswer⟩ := hret
    exact ⟨push, pending, pull, hpc, hpending, hsent, rfl, hanswer.symm⟩
  | cancel _ _ _ hmore =>
    rcases hmore with rfl | ⟨hbypass, _⟩
    · simp [cancelEvent] at hret
    · simp [hbypass] at hhonor
  | noVerdict hanswer | request hanswer => simp [hanswer, hhonor] at hret
  | read | readChanged | nothingPending | hungUp => simp [cancelEvent] at hret

/-- The deadline of `reconcile` belongs to the latest release among the contributions. -/
theorem checkedAdd_of_isGreatest {push pull : InhibitionSectionEvaluation}
    {releaseDelay : Duration} {r : Instant}
    (hr : IsGreatest {r | ∃ v ∈ push.contributions ++ pull.contributions,
      v.diagnostics.lastReleaseAt = some r} r)
    (hrep : r + releaseDelay ≤ Instant.MAX) :
    r + releaseDelay ∈ (releases (some push) (some pull)).max?.bind
      (·.checkedAdd releaseDelay) := by
  have hmem : ∀ x, x ∈ releases (some push) (some pull)
      ↔ ∃ v ∈ push.contributions ++ pull.contributions,
        v.diagnostics.lastReleaseAt = some x := by
    intro x
    simp [releases, or_and_right, exists_or]
  have hmax : (releases (some push) (some pull)).max? = some r := by
    rw [List.max?_eq_some_iff]
    exact ⟨(hmem r).mpr hr.1, fun x hx => hr.2 ((hmem x).mp hx)⟩
  rw [hmax, Option.mem_def, Option.bind_some, Instant.checkedAdd, if_pos hrep]

/-- A section that allows has no contribution that does not. -/
theorem all_allowed_of_allowed {contributions : List InhibitionEvaluation}
    (h : (InhibitionSectionEvaluation.ofContributions contributions).allowed = true) :
    ∀ v ∈ contributions, v.allowed = true := by
  simpa [InhibitionSectionEvaluation.ofContributions] using h

/-- **Gate safety.** In every interleaving, whenever `can_blank(now)` returns true while
inhibitors are honored: the push contributions this call has read are all allowed; it consumed
the verdict of an attempt that was requested after the last cancellation of any kind, made of
exactly the answers of all pull adapters for that attempt, all allowed; push contributions at the
request and now agree; and `now` is `release_delay` behind the latest release among all of them.
No reply is consumed twice, and none of a cancelled attempt ever is. -/
theorem can_blank_safety (honoring : ScreenHonorIdleInhibitorsPolicy) (releaseDelay : Duration)
    (pushAdapters pullAdapters : Nat) (is : List GateInput) {s : GateSystem}
    {h : List GateEvent}
    (hs : s = exec step (new honoring releaseDelay pushAdapters pullAdapters) is)
    (hh : h = trace step (new honoring releaseDelay pushAdapters pullAdapters) is) :
    (∀ i now consumed, s.gate.preference.bypassInhibition = false →
        .returned now consumed true ∈ (s.step i).2 →
        ∃ attempt pushThen pushNow pulls,
          consumed = some (attempt, some ⟨true, pulls⟩)
            ∧ CalledSince h now pushNow ∧ (∀ v ∈ pushNow, v.allowed = true)
            ∧ (∃ before after, h = before ++ .requested attempt pushThen :: after
              ∧ (∀ a, .cancelled a ∉ after) ∧ queriedBy attempt after = pulls
              ∧ .replied attempt (some ⟨true, pulls⟩) ∈ after)
            ∧ pulls.length = pullAdapters ∧ (∀ v ∈ pulls, v.allowed = true)
            ∧ List.Forall₂ Agrees pushThen pushNow
            ∧ ∀ r, IsGreatest {r | ∃ v ∈ pushNow ++ pulls, v.diagnostics.lastReleaseAt = some r} r →
              r + s.gate.releaseDelay ≤ Instant.MAX → r + s.gate.releaseDelay ≤ now)
      ∧ (consumedAttempts h).Nodup ∧ ∀ a ∈ consumedAttempts h, a ∉ cancelledAttempts h := by
  have hsafe : Safe h s := by
    rw [hs, hh]
    exact trace_induct (P := Safe) _ (safe_new _ _ _ _) (fun _ _ i hi => hi.step i) is
  have hpull : s.pullAdapters = pullAdapters := by
    rw [hs]
    exact exec_invariant (P := fun s => s.pullAdapters = pullAdapters)
      (s := new honoring releaseDelay pushAdapters pullAdapters)
      (fun s i hp => (step_pullAdapters s i).trans hp) rfl is
  refine ⟨fun i now consumed hhonor hret => ?_, ?_, ?_⟩
  -- only a step of the monitor returns
  · have heffect : MonitorEffect s (s.step i).1 (s.step i).2 := by
      rcases step_effect s i with he | he | heq
      · exact he
      · exfalso
        generalize (s.step i).2 = es at he hret
        generalize (s.step i).1 = s' at he
        cases he <;> simp at hret
      · rw [heq] at hret
        cases hret
    obtain ⟨push, pending, pull, hpc, hpending, hsent, rfl, hcan⟩ :=
      returned_true heffect hhonor hret
    obtain ⟨⟨_, ⟨⟩, hpush⟩, ⟨verdict, hverdict, hallowed⟩, hdeadline⟩ :=
      reconcile_canBlank hhonor hcan
    obtain rfl : pull = some verdict := hverdict
    -- the push verdicts are those of this call
    obtain ⟨hcalled, hpusheq, _⟩ := hsafe.reading.call now push (.inl hpc)
    -- the request stands in the history, uncancelled, with its reply behind it
    obtain ⟨_, ⟨before, after, heq, hno, hbefore, hreplied⟩, _, _⟩ :=
      hsafe.ledger.pending pending hpending
    obtain ⟨⟨hv, hlength⟩, hmem⟩ := hsafe.answers.sent pending.attempt verdict hsent
    -- all queries of the attempt are behind its request
    have hqueried : queriedBy pending.attempt h = queriedBy pending.attempt after := by
      rw [heq, queriedBy_append, hbefore, List.nil_append]
      rfl
    rw [hqueried] at hv hlength
    have hvtrue : verdict = ⟨true, queriedBy pending.attempt after⟩ := by
      rw [← hallowed, hv]
      rfl
    rw [hpusheq] at hpush
    refine ⟨pending.attempt, pending.push.contributions, push.contributions,
      queriedBy pending.attempt after, by rw [hvtrue], hcalled, all_allowed_of_allowed hpush,
      ⟨before, after, heq, hno, rfl, ?_⟩, hlength.trans hpull, ?_,
      hsafe.reading.agrees now push hpc pending hpending, fun r hr hrep => ?_⟩
    · rw [← hvtrue]
      rw [heq, List.mem_append] at hmem
      rcases hmem with hmem | hmem
      · exact absurd hmem (hreplied _)
      · simpa using hmem
    · rw [hv] at hallowed
      exact all_allowed_of_allowed hallowed
    · have hcontributions : verdict.contributions = queriedBy pending.attempt after := by
        rw [hvtrue]
      refine hdeadline _ (checkedAdd_of_isGreatest ?_ hrep)
      rw [hcontributions]
      exact hr
  · exact (List.nodup_append.mp hsafe.ledger.once).2.1
  · intro a hconsumed hcancelled
    exact (List.nodup_append.mp hsafe.ledger.once).2.2 a hcancelled a hconsumed rfl

/-- An adapter that reports no inhibition. -/
def clearEvaluation : InhibitionEvaluation where
  allowed := true
  diagnostics := { source := "test", status := .clear, observedAt := none, lastReleaseAt := none }

/-- A run up to the poll that says yes: a first check is cancelled while the worker is at it, and
the second one goes through. -/
def secondCheck : List GateInput :=
  [.canBlank 0 [clearEvaluation], .poll, .send, .receive, .cancel, .check, .reply,
    .canBlank 1 [clearEvaluation], .poll, .send, .receive, .check,
    .queryReturn (some clearEvaluation), .check, .reply, .canBlank 2 [clearEvaluation]]

theorem can_blank_safety_second_check :
    cancelledAttempts (trace step (new .enabled 0 1 1) secondCheck) = [0]
      ∧ ∃ before push after, trace step (new .enabled 0 1 1) secondCheck
          = before ++ .requested 1 push :: after
        ∧ (∀ a, .cancelled a ∉ after) ∧ queriedBy 1 after = [clearEvaluation] := by
  refine ⟨by decide, ?_⟩
  obtain ⟨hcall, _, _⟩ := can_blank_safety .enabled 0 1 1 secondCheck rfl rfl
  obtain ⟨attempt, push, _, pulls, hconsumed, _, _, ⟨before, after, heq, hno, hq, _⟩, _⟩ :=
    hcall .poll 2 (some (1, some ⟨true, [clearEvaluation]⟩)) rfl (List.mem_singleton.mpr rfl)
  simp only [Option.some.injEq, Prod.mk.injEq, InhibitionSectionEvaluation.mk.injEq,
    true_and] at hconsumed
  obtain ⟨rfl, rfl⟩ := hconsumed
  exact ⟨before, push, after, heq, hno, hq⟩

end GateSystem

end LgBuddy
