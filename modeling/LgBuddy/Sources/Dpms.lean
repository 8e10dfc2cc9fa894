import LgBuddy.Machine.Mealy
import LgBuddy.Machine.Table
import LgBuddy.Session.Inactivity
import LgBuddy.Text.Str

/-!
# LgBuddy — the DPMS source

`sources/linux/dpms.rs`: the observer polls the connectors of the DRM tree and reports that the
system display was blanked.

* `readingFromSnapshot`, `stepDpmsObservations`, `readSysfsConnectorStates` follow the source;
* `DpmsPoll` is one turn of `run_dpms_observer`, with all it meets there: the stop flag, what
  the tree says and what `on_system_blank` answers;
* `Baseline` — what the observer keeps is the latest snapshot, and nothing else;
* `NothingStops` — what keeps the observer running, said of the polls alone;
* `off_edge_reported` — when it calls `on_system_blank`.
-/

namespace LgBuddy

/-- How the last successful read of a connector's DPMS state should be treated. -/
inductive DpmsReading where
  | on
  | off
  | inactive
  deriving DecidableEq, Repr

/-- One connector's current state as read from sysfs. -/
structure DpmsSnapshot where
  connected : Bool
  dpms : Text
  deriving DecidableEq, Repr

abbrev ConnectorStates := Table Text DpmsSnapshot

def readingFromSnapshot (snap : DpmsSnapshot) : DpmsReading :=
  if !snap.connected then .inactive
  else if snap.dpms = "On".toList then .on
  else if snap.dpms = "Off".toList then .off
  else .inactive

/-- `step_dpms_observations`; the new `prev` comes with the answer. -/
def stepDpmsObservations (prev : Table Text DpmsReading) (now : ConnectorStates) :
    Table Text DpmsReading × Bool :=
  let transitioned := Table.any (fun name snap =>
    (prev.lookup name).getD .inactive = .on && readingFromSnapshot snap = .off) now
  let prev := Table.setAll readingFromSnapshot now prev
  -- A connector missing from the new snapshot loses its baseline.
  (Table.retain (fun name _ => name ∈ now) prev, transitioned)

/-- An entry of `/sys/class/drm` with its two files, as far as they can be read. -/
structure DrmEntry where
  name : Text
  status : Option Text
  dpms : Option Text

/-- `read_sysfs_connector_states`, for what the directory gives. -/
def readSysfsConnectorStates (entries : Option (List DrmEntry)) : Option ConnectorStates := do
  let entries ← entries
  return entries.foldl (fun states entry =>
    if !"card".toList.isPrefixOf entry.name || !entry.name.contains '-' then states
    else
      match entry.status, entry.dpms with
      | some status, some dpms =>
        states.insert entry.name ⟨Str.trim status = "connected".toList, Str.trim dpms⟩
      -- Unreadable state is inactive, never a transition.
      | _, _ => states.insert entry.name ⟨false, "unknown".toList⟩) ∅

/-! ## The observer -/

/-- One turn of the loop. -/
structure DpmsPoll where
  stop : Bool
  /-- The snapshot, or that the tree could not be read. -/
  states : Option ConnectorStates
  now : Instant
  /-- What `on_system_blank` answers, when it is asked. -/
  goOn : Bool

structure DpmsObserver where
  running : Bool := true
  prev : Table Text DpmsReading := ∅

/-- The answer is the instant that `on_system_blank` is called with. -/
def runDpmsObserver (observer : DpmsObserver) (poll : DpmsPoll) : DpmsObserver × Option Instant :=
  if !observer.running || poll.stop then ({ observer with running := false }, none)
  else
    match poll.states with
    | none => ({ observer with prev := ∅ }, none)
    | some now =>
      let (prev, transitioned) := stepDpmsObservations observer.prev now
      if transitioned then ({ prev, running := poll.goOn }, some poll.now)
      else ({ observer with prev }, none)

/-! ## The law -/

/-- Some connector was connected and on, and is connected and off now. -/
def TurnedOff (earlier later : ConnectorStates) : Prop :=
  ∃ name before after, earlier.lookup name = some before ∧ later.lookup name = some after
    ∧ (before.connected = true ∧ before.dpms = "On".toList)
    ∧ (after.connected = true ∧ after.dpms = "Off".toList)

theorem readingFromSnapshot_eq_on {snap : DpmsSnapshot} :
    readingFromSnapshot snap = .on ↔ snap.connected = true ∧ snap.dpms = "On".toList := by
  unfold readingFromSnapshot
  cases snap.connected
  · simp
  · by_cases hon : snap.dpms = "On".toList
    · simp [hon]
    · simp only [Bool.not_true, Bool.false_eq_true, ↓reduceIte, hon, and_false, iff_false]
      split <;> simp

theorem readingFromSnapshot_eq_off {snap : DpmsSnapshot} :
    readingFromSnapshot snap = .off ↔ snap.connected = true ∧ snap.dpms = "Off".toList := by
  unfold readingFromSnapshot
  cases snap.connected
  · simp
  · by_cases hoff : snap.dpms = "Off".toList
    · have hon : snap.dpms ≠ "On".toList := by rw [hoff]; decide
      simp [hoff]
    · simp only [Bool.not_true, Bool.false_eq_true, ↓reduceIte, hoff, and_false, iff_false]
      split <;> simp

/-- What the observer keeps after a poll: the readings of its snapshot, or nothing. -/
def Baseline (last : Option ConnectorStates) (prev : Table Text DpmsReading) : Prop :=
  ∀ name, prev.lookup name = (last.bind (·.lookup name)).map readingFromSnapshot

theorem Baseline.none : Baseline none ∅ := fun name => by simp

/-- **Step.** Whatever was kept before, the new snapshot alone is kept. -/
theorem baseline_step (prev : Table Text DpmsReading) (now : ConnectorStates) :
    Baseline (some now) (stepDpmsObservations prev now).1 := by
  intro name
  show (Table.retain _ (Table.setAll readingFromSnapshot now prev)).lookup name = _
  rw [Table.lookup_retain, Table.lookup_setAll, Option.bind_some]
  cases hnow : now.lookup name with
  | none =>
    have habsent : name ∉ now := AList.lookup_eq_none.1 hnow
    cases prev.lookup name <;> simp [habsent, Option.filter]
  | some snap =>
    have hpresent : name ∈ now := AList.lookup_isSome.1 (by rw [hnow]; rfl)
    simp [hpresent]

/-- **Edge.** Against the readings of the snapshot before, a step reports what has turned off. -/
theorem transitioned_iff {last : Option ConnectorStates} {prev : Table Text DpmsReading}
    (hprev : Baseline last prev) (now : ConnectorStates) :
    (stepDpmsObservations prev now).2 = true ↔ ∃ earlier, last = some earlier
      ∧ TurnedOff earlier now := by
  unfold stepDpmsObservations
  dsimp only
  rw [Table.any_eq_true]
  constructor
  · rintro ⟨name, after, hafter, hedge⟩
    rw [Bool.and_eq_true, decide_eq_true_eq, decide_eq_true_eq, hprev name] at hedge
    obtain ⟨hon, hoff⟩ := hedge
    cases last with
    | none => cases hon
    | some earlier =>
      rw [Option.bind_some] at hon
      cases hbefore : earlier.lookup name with
      | none => simp [hbefore] at hon
      | some before =>
        rw [hbefore] at hon
        exact ⟨earlier, rfl, name, before, after, hbefore, hafter,
          readingFromSnapshot_eq_on.1 hon, readingFromSnapshot_eq_off.1 hoff⟩
  · rintro ⟨earlier, rfl, name, before, after, hbefore, hafter, hon, hoff⟩
    refine ⟨name, after, hafter, ?_⟩
    have hreading : prev.lookup name = some .on := by
      rw [hprev name, Option.bind_some, hbefore, Option.map_some,
        readingFromSnapshot_eq_on.2 hon]
    rw [hreading, readingFromSnapshot_eq_off.2 hoff]
    rfl

/-- The observer after some polls. -/
def dpmsAfter (polls : List DpmsPoll) : DpmsObserver := Mealy.exec runDpmsObserver {} polls

/-- **Run.** An observer that still runs keeps the snapshot of the poll before, if there is one. -/
theorem baseline_after (polls : List DpmsPoll) (hrunning : (dpmsAfter polls).running = true) :
    Baseline (polls.getLast?.bind (·.states)) (dpmsAfter polls).prev := by
  revert hrunning
  refine Mealy.exec_induct (P := fun (polls : List DpmsPoll) (observer : DpmsObserver) =>
    observer.running = true →
    Baseline (polls.getLast?.bind (·.states)) observer.prev) {} (fun _ => Baseline.none) ?_ polls
  intro polls poll _ hrunning
  rw [List.getLast?_concat, Option.bind_some]
  unfold runDpmsObserver at hrunning ⊢
  split at hrunning
  · cases hrunning
  · rename_i hgoing
    rw [if_neg hgoing]
    cases hstates : poll.states with
    | none => exact Baseline.none
    | some now =>
      dsimp only
      split
      · exact baseline_step _ now
      · exact baseline_step _ now

/-- The poll shows an off-edge: it and the poll directly before it have read the tree, and some
connector was connected and on in the earlier snapshot and is connected and off in the later
one. -/
def ShowsOffEdge (polls : List DpmsPoll) (poll : DpmsPoll) : Prop :=
  ∃ earlier later, polls.getLast?.bind (·.states) = some earlier ∧ poll.states = some later
    ∧ TurnedOff earlier later

/-- Nothing has ended the observer in these polls: none of them found the stop flag raised, and
`on_system_blank` let it go on at every off-edge they show. -/
structure NothingStops (polls : List DpmsPoll) : Prop where
  unstopped : ∀ poll ∈ polls, poll.stop = false
  goesOn : ∀ earlier poll, earlier ++ [poll] <+: polls → ShowsOffEdge earlier poll →
    poll.goOn = true

theorem nothingStops_nil : NothingStops [] where
  unstopped := by simp
  goesOn _ _ hearlier := by simp at hearlier

theorem nothingStops_concat {polls : List DpmsPoll} {poll : DpmsPoll} :
    NothingStops (polls ++ [poll]) ↔ NothingStops polls ∧ poll.stop = false
      ∧ (ShowsOffEdge polls poll → poll.goOn = true) := by
  constructor
  · intro h
    refine ⟨⟨fun p hp => h.unstopped p (by simp [hp]), fun earlier p hearlier => ?_⟩,
      h.unstopped poll (by simp), h.goesOn polls poll (List.prefix_refl _)⟩
    exact h.goesOn earlier p (hearlier.trans (List.prefix_append _ _))
  · intro ⟨h, hstop, hgo⟩
    refine ⟨fun p hp => ?_, fun earlier p hearlier hedge => ?_⟩
    · rcases List.mem_append.1 hp with hold | hnew
      · exact h.unstopped p hold
      · obtain rfl := List.mem_singleton.1 hnew
        exact hstop
    · rcases List.prefix_concat_iff.1 hearlier with hlast | hold
      · obtain ⟨rfl, hp⟩ := List.append_inj' hlast rfl
        obtain rfl : p = poll := by simpa using hp
        exact hgo hedge
      · exact h.goesOn earlier p hold hedge

/-- **Turn.** What one more poll brings, from an observer that runs with the snapshot of the
poll before: it goes on unless it is stopped or its report is not answered so, and it reports
what the poll shows. -/
theorem runDpmsObserver_running {polls : List DpmsPoll} {observer : DpmsObserver}
    (hrunning : observer.running = true)
    (hbaseline : Baseline (polls.getLast?.bind (·.states)) observer.prev) (poll : DpmsPoll) :
    ((runDpmsObserver observer poll).1.running = true ↔
        poll.stop = false ∧ (ShowsOffEdge polls poll → poll.goOn = true))
      ∧ ((runDpmsObserver observer poll).2 = some poll.now ↔
        poll.stop = false ∧ ShowsOffEdge polls poll) := by
  unfold runDpmsObserver
  cases hstop : poll.stop with
  | true => simp
  | false =>
    rw [if_neg (by simp [hrunning])]
    cases hstates : poll.states with
    | none =>
      have hno : ¬ ShowsOffEdge polls poll := by
        intro ⟨_, _, _, hlater, _⟩
        rw [hstates] at hlater
        cases hlater
      simp [hrunning, hno]
    | some now =>
      -- the step's own answer is the edge between the two snapshots
      have hedge : (stepDpmsObservations observer.prev now).2 = true ↔ ShowsOffEdge polls poll := by
        rw [transitioned_iff hbaseline now]
        constructor
        · intro ⟨earlier, hearlier, hoff⟩
          exact ⟨earlier, now, hearlier, hstates, hoff⟩
        · intro ⟨earlier, later, hearlier, hlater, hoff⟩
          rw [hstates] at hlater
          cases hlater
          exact ⟨earlier, hearlier, hoff⟩
      dsimp only
      by_cases hshows : ShowsOffEdge polls poll
      · rw [if_pos (hedge.2 hshows)]
        simp [hshows]
      · rw [if_neg (fun h => hshows (hedge.1 h))]
        simp [hrunning, hshows]

/-- **Run.** The observer still runs exactly when nothing in the polls has ended it. -/
theorem running_after (polls : List DpmsPoll) :
    (dpmsAfter polls).running = true ↔ NothingStops polls := by
  induction polls using List.reverseRecOn with
  | nil => exact iff_of_true rfl nothingStops_nil
  | append_singleton polls poll ih =>
    rw [nothingStops_concat, ← ih, dpmsAfter, Mealy.exec_concat]
    show (runDpmsObserver (dpmsAfter polls) poll).1.running = true ↔ _
    cases hrunning : (dpmsAfter polls).running with
    | true =>
      have hturn := (runDpmsObserver_running hrunning (baseline_after polls hrunning) poll).1
      exact hturn.trans (by simp)
    | false =>
      -- an observer that has ended stays so
      have hended : (runDpmsObserver (dpmsAfter polls) poll).1.running = false := by
        unfold runDpmsObserver
        rw [if_pos (by simp [hrunning])]
      simp [hended]

/-- **Off-edges.** After any polls that have not ended the observer, it reports a blanked display
at the next one exactly when that poll does not find it stopped and, with no failed read between
them, some connector was connected and on in the snapshot directly before and is connected and
off in this one. -/
theorem off_edge_reported (polls : List DpmsPoll) (poll : DpmsPoll) :
    (runDpmsObserver (dpmsAfter polls) poll).2 = some poll.now ↔
      (NothingStops polls ∧ poll.stop = false) ∧ ShowsOffEdge polls poll := by
  rw [and_assoc, ← running_after polls]
  cases hrunning : (dpmsAfter polls).running with
  | true =>
    have hturn := (runDpmsObserver_running hrunning (baseline_after polls hrunning) poll).2
    exact hturn.trans (by simp)
  | false =>
    unfold runDpmsObserver
    rw [if_pos (by simp [hrunning])]
    simp

end LgBuddy
