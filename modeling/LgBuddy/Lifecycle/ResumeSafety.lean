import LgBuddy.Lifecycle.Outcome
import LgBuddy.Lifecycle.Resume

/-!
# LgBuddy — the resume restore gives the screen back, and gives up

A restore after system sleep is entitled to the TV by the system marker, or by the aggressive
policy. Its retry loop mixes wake packets with input commands, and it leaves the loop in three
ways: the input command succeeded, the stored authentication is unavailable, or the attempts are
used up.

* `RestoreLog` — the TV and Wake-on-LAN commands of a run in order, and whether one of its own
  file or writer calls failed;
* `Waking` — what the commands look like at the head of the loop, `Bounded` at any time;
* one specification for each function on the way, over the log;
* `system_resume_restore_bounded` — the law of a whole run.
-/

namespace LgBuddy

open LgBuddy.Action Program

/-! ## Commands -/

abbrev AnsweredCall := Exchange Call CallReply

def Call.isInputCommand : Call → Bool
  | .setInput _ _ => true
  | _ => false

def Call.isWakePacket : Call → Bool
  | .wake _ _ => true
  | _ => false

/-- The TV and Wake-on-LAN commands of a run. -/
def tvCommands (history : List AnsweredCall) : List AnsweredCall :=
  history.filter fun x => x.1.isTvCommand

/-- The answer ends the restore: the input is switched, or the TV will not let us. -/
def SettlesRestore : (c : Call) → CallReply c → Prop
  | .setInput _ _, .ok () => True
  | .setInput _ _, .error err => err.kind = .authentication
  | _, _ => False

/-- A call on the writer or on the marker file that failed. -/
def ioFails : (c : Call) → CallReply c → Bool
  | .writeLine _, .error _ | .flush, .error _ | .createMarker, .error _
  | .clearMarker, .error _ => true
  | _, _ => false

/-! ## The log -/

structure RestoreLog where
  commands : List AnsweredCall := []
  ioFailed : Bool := false

namespace RestoreLog

def note (k : RestoreLog) (c : Call) (r : CallReply c) : RestoreLog where
  commands := if c.isTvCommand then k.commands ++ [⟨c, r⟩] else k.commands
  ioFailed := ioFails c r || k.ioFailed

/-- What the log has seen of a row of calls: its TV commands and whether any failed. -/
theorem observe_note (k : RestoreLog) (history : List AnsweredCall) :
    observe note k history
      = { commands := k.commands ++ tvCommands history
          ioFailed := k.ioFailed || history.any fun x => ioFails x.1 x.2 } := by
  induction history generalizing k with
  | nil => simp [observe, tvCommands]
  | cons x history ih =>
    have hstep : observe note k (x :: history) = observe note (k.note x.1 x.2) history := rfl
    rw [hstep, ih]
    cases hx : x.1.isTvCommand with
    | true => simp [note, tvCommands, hx, Bool.or_comm (ioFails x.1 x.2), Bool.or_assoc]
    | false => simp [note, tvCommands, hx, Bool.or_comm (ioFails x.1 x.2), Bool.or_assoc]

/-- The run of process `pid` as it is, with the log kept. -/
def ledger (pid : Pid) : Contract Call CallReply ((World × (Nat → Environment)) × RestoreLog) :=
  .handled (noting note (World.serve pid))

variable {pid : Pid} {w : World} {envs : Nat → Environment} {k : RestoreLog}

/-- A call is answered by the world in its next environment, and its answer is logged. -/
theorem wp_perform_ledger {c : Call}
    {Q : CallReply c → (World × (Nat → Environment)) × RestoreLog → Prop}
    (h : Q (w.answer (envs 0) pid c).1 (((w.answer (envs 0) pid c).2, fun n => envs (n + 1)),
      k.note c (w.answer (envs 0) pid c).1)) :
    wp (ledger pid) (perform c) Q ((w, envs), k) := wp_handled.mpr h

end RestoreLog

/-! ## What the commands look like -/

/-- At any time: only input commands and wake packets, no more than allowed, and nothing after a
settling answer. -/
structure Bounded (commands : List AnsweredCall) : Prop where
  only : ∀ x ∈ commands, x.1.isInputCommand = true ∨ x.1.isWakePacket = true
  inputs : commands.countP (fun x => x.1.isInputCommand) ≤ startupWakeAttempts
  wakes : commands.countP (fun x => x.1.isWakePacket)
    ≤ commands.countP (fun x => x.1.isInputCommand) + 1
  last : ∀ before x after, commands = before ++ x :: after → SettlesRestore x.1 x.2 → after = []

/-- After `made` attempts, none of which settled anything: one packet more than attempts. -/
structure Waking (made : Nat) (commands : List AnsweredCall) : Prop where
  only : ∀ x ∈ commands, x.1.isInputCommand = true ∨ x.1.isWakePacket = true
  inputs : commands.countP (fun x => x.1.isInputCommand) = made
  wakes : commands.countP (fun x => x.1.isWakePacket) = made + 1
  unsettled : ∀ x ∈ commands, ¬ SettlesRestore x.1 x.2

theorem Bounded.nil : Bounded [] where
  only := List.forall_mem_nil _
  inputs := Nat.zero_le _
  wakes := Nat.zero_le _
  last before x after hsplit := by simp at hsplit

/-- A waking row of commands has the wake packet in it. -/
theorem Waking.ne_nil {made : Nat} {commands : List AnsweredCall} (h : Waking made commands) :
    commands ≠ [] := by
  rintro rfl
  exact absurd h.wakes nofun

/-- A waking row within the attempts is bounded. -/
theorem Waking.bounded {made : Nat} {commands : List AnsweredCall} (h : Waking made commands)
    (hmade : made ≤ startupWakeAttempts) : Bounded commands where
  only := h.only
  inputs := by rw [h.inputs]; exact hmade
  wakes := by rw [h.inputs, h.wakes]
  last before x after hsplit hsettles := by
    have hmem : x ∈ commands := by rw [hsplit]; simp
    exact absurd hsettles (h.unsettled x hmem)

/-- The first packet. -/
theorem Waking.first (tv : Ipv4Addr) (mac : MacAddress) (r : CallReply (.wake tv mac)) :
    Waking 0 [⟨.wake tv mac, r⟩] where
  only := by simp [Call.isWakePacket]
  inputs := by simp [Call.isInputCommand]
  wakes := by simp [Call.isWakePacket]
  unsettled := by simp [SettlesRestore]

/-- An attempt, settled or not. -/
theorem Waking.attempt {made : Nat} {commands : List AnsweredCall} (h : Waking made commands)
    (hmade : made + 1 ≤ startupWakeAttempts) (tv : Ipv4Addr) (input : HdmiInput)
    (r : CallReply (.setInput tv input)) : Bounded (commands ++ [⟨.setInput tv input, r⟩]) where
  only x hx := by
    cases List.mem_append.mp hx with
    | inl hx => exact h.only x hx
    | inr hx => rw [List.mem_singleton.mp hx]; exact .inl rfl
  inputs := by
    rw [List.countP_append, h.inputs]
    exact hmade
  wakes := by
    rw [List.countP_append, List.countP_append, h.inputs, h.wakes]
    simp [Call.isWakePacket]
  last before x after hsplit hsettles := by
    cases List.eq_nil_or_concat after with
    | inl hnil => exact hnil
    | inr hconcat =>
      obtain ⟨rest, y, rfl⟩ := hconcat
      rw [List.concat_eq_append, ← List.cons_append, ← List.append_assoc] at hsplit
      have hmem : x ∈ commands := by rw [(List.append_inj' hsplit rfl).1]; simp
      exact absurd hsettles (h.unsettled x hmem)

/-- An attempt that failed for now, and the packet after it. -/
theorem Waking.retry {made : Nat} {commands : List AnsweredCall} (h : Waking made commands)
    (tv : Ipv4Addr) (input : HdmiInput) {err : TvError} (herr : err.kind ≠ .authentication)
    (mac : MacAddress) (r : CallReply (.wake tv mac)) :
    Waking (made + 1) (commands ++ [⟨.setInput tv input, .error err⟩] ++ [⟨.wake tv mac, r⟩]) where
  only := by
    simp only [List.append_assoc, List.cons_append, List.nil_append, List.mem_append,
      List.mem_cons, List.not_mem_nil, or_false]
    rintro x (hx | rfl | rfl)
    · exact h.only x hx
    · exact .inl rfl
    · exact .inr rfl
  inputs := by
    rw [List.countP_append, List.countP_append, h.inputs]
    simp [Call.isInputCommand]
  wakes := by
    rw [List.countP_append, List.countP_append, h.wakes]
    simp [Call.isWakePacket]
  unsettled := by
    simp only [List.append_assoc, List.cons_append, List.nil_append, List.mem_append,
      List.mem_cons, List.not_mem_nil, or_false]
    rintro x (hx | rfl | rfl)
    · exact h.unsettled x hx
    · exact herr
    · exact id

/-! ## The loop -/

section

open RestoreLog

variable {pid : Pid} {w : World} {envs : Nat → Environment} {k : RestoreLog}
  {Q : Unit → (World × (Nat → Environment)) × RestoreLog → Prop}

/-- How a run ends that does not end well: one of its own calls failed. -/
def Abandoned (_ : RunError) (t : (World × (Nat → Environment)) × RestoreLog) : Prop :=
  Bounded t.2.commands ∧ t.2.ioFailed = true

/-- How a run ends well that was entitled to the TV: the marker is gone. -/
def Released (_ : PolicyOutcome) (t : (World × (Nat → Environment)) × RestoreLog) : Prop :=
  t.1.1.marker = false ∧ t.2.commands ≠ [] ∧ Bounded t.2.commands

/-- A line of output changes nothing the proof looks at. -/
theorem wpE_restoreLine {line : String} (hk : Bounded k.commands) (h : ∀ envs, Q () ((w, envs), k)) :
    wpE (ledger pid) (writeLine line) Q Abandoned ((w, envs), k) := by
  refine wpE_orFail.mpr (wp_perform_ledger ?_)
  dsimp only [World.answer]
  cases envs 0 (.writeLine line) with
  | ok a => exact h _
  | error err => exact ⟨hk, rfl⟩

/-- A flush changes nothing the proof looks at. -/
theorem wpE_restoreFlush (hk : Bounded k.commands) (h : ∀ envs, Q () ((w, envs), k)) :
    wpE (ledger pid) flush Q Abandoned ((w, envs), k) := by
  refine wpE_orFail.mpr (wp_perform_ledger ?_)
  dsimp only [World.answer]
  cases envs 0 .flush with
  | ok a => exact h _
  | error err => exact ⟨hk, rfl⟩

/-- Each way out of the loop clears the marker. -/
theorem wpE_clearSystemMarker {outcome : PolicyOutcome} {reason : TransitionReasonCode}
    (houtcome : outcome.stateTransitions = [clearSystemMarker reason]) (hk : Bounded k.commands)
    (h : ∀ envs, Q () (({ w with marker := false }, envs), k)) :
    wpE (ledger pid) (applySystemScreenMarkerTransitions outcome) Q Abandoned ((w, envs), k) := by
  unfold applySystemScreenMarkerTransitions
  rw [houtcome]
  refine wpE_bind.mpr (wpE_orFail.mpr (wp_perform_ledger ?_))
  dsimp only [World.answer]
  cases envs 0 .clearMarker with
  | ok a => exact h _
  | error err => exact ⟨hk, rfl⟩

/-- The packet is noted whether it was sent or not. -/
theorem wpE_sendWakePacket {logPrefix : String} {config : Config}
    (hk : ∀ r, Bounded (k.commands ++ [⟨.wake config.tvIp config.tvMac, r⟩]))
    (h : ∀ r envs, Q () ((w, envs),
      { k with commands := k.commands ++ [⟨.wake config.tvIp config.tvMac, r⟩] })) :
    wpE (ledger pid) (sendWakePacket logPrefix config) Q Abandoned ((w, envs), k) := by
  unfold sendWakePacket
  refine wpE_bind.mpr (wpE_lift.mpr (wp_perform_ledger ?_))
  dsimp only [World.answer]
  cases hr : envs 0 (.wake config.tvIp config.tvMac) with
  | ok a => exact (wpE_pure ()).mpr (h (.ok a) _)
  | error err => exact wpE_restoreLine (hk (.error err)) (h (.error err))

/-- The loop over the input attempts stays within its bound, by induction on what remains. -/
theorem wpE_restoreInputAttempts (vars : EnvVars) (config : Config) (outcome : PolicyOutcome)
    (attempt remaining : Nat) {made : Nat} (hmade : made + remaining = startupWakeAttempts)
    (hk : Waking made k.commands) :
    wpE (ledger pid) (restoreInputAttempts vars config outcome attempt remaining) Released
      Abandoned ((w, envs), k) := by
  induction remaining generalizing k envs outcome attempt made with
  | zero =>
    have hbounded := hk.bounded (Nat.le_of_eq hmade)
    unfold restoreInputAttempts
    refine wpE_bind.mpr (wpE_restoreLine hbounded fun envs => ?_)
    refine wpE_bind.mpr (wpE_restoreFlush hbounded fun envs => ?_)
    refine wpE_bind.mpr (wpE_clearSystemMarker rfl hbounded fun envs => ?_)
    exact (wpE_pure _).mpr ⟨rfl, hk.ne_nil, hbounded⟩
  | succ remaining ih =>
    unfold restoreInputAttempts
    refine wpE_bind.mpr (wpE_lift.mpr (wp_perform_ledger ?_))
    dsimp only [World.answer]
    have hattempt := hk.attempt (by omega) config.tvIp config.input
    -- a success, a terminal failure and a failure that is retried
    cases hr : envs 0 (.setInput config.tvIp config.input) with
    | ok a =>
      have hbounded := hattempt (.ok a)
      refine wpE_bind.mpr (wpE_clearSystemMarker rfl hbounded fun envs => ?_)
      refine wpE_bind.mpr (wpE_restoreLine hbounded fun envs => ?_)
      refine wpE_bind.mpr (wpE_restoreFlush hbounded fun envs => ?_)
      exact (wpE_pure _).mpr ⟨rfl, by simp [RestoreLog.note, Call.isTvCommand], hbounded⟩
    | error err =>
      have hbounded := hattempt (.error err)
      dsimp only
      split
      · -- terminal: the TV will not be asked again
        refine wpE_bind.mpr (wpE_restoreLine hbounded fun envs => ?_)
        refine wpE_bind.mpr (wpE_restoreFlush hbounded fun envs => ?_)
        refine wpE_bind.mpr (wpE_clearSystemMarker rfl hbounded fun envs => ?_)
        exact (wpE_pure _).mpr ⟨rfl, by simp [RestoreLog.note, Call.isTvCommand], hbounded⟩
      · rename_i hkind
        have hretry := hk.retry config.tvIp config.input hkind config.tvMac
        refine wpE_bind.mpr (wpE_restoreLine hbounded fun envs => ?_)
        refine wpE_bind.mpr (wpE_restoreFlush hbounded fun envs => ?_)
        refine wpE_bind.mpr (wpE_restoreLine hbounded fun envs => ?_)
        refine wpE_bind.mpr (wpE_restoreFlush hbounded fun envs => ?_)
        have hnext := fun r => (hretry r).bounded (by omega)
        refine wpE_bind.mpr (wpE_sendWakePacket hnext fun r envs => ?_)
        refine wpE_bind.mpr (wpE_restoreFlush (hnext r) fun envs => ?_)
        refine wpE_bind.mpr (wpE_lift.mpr (wp_perform_ledger ?_))
        exact ih _ _ (by omega) (hretry r)

/-- The network is waited for without touching anything. -/
theorem wpE_waitForTvNetwork {tvIp : Ipv4Addr} {outcome : PolicyOutcome}
    {Q : PolicyOutcome → (World × (Nat → Environment)) × RestoreLog → Prop}
    (hk : Bounded k.commands) (h : ∀ outcome envs, Q outcome ((w, envs), k)) :
    wpE (ledger pid) (waitForTvNetwork tvIp outcome) Q Abandoned ((w, envs), k) := by
  unfold waitForTvNetwork
  refine wpE_bind.mpr (wpE_restoreLine hk fun envs => ?_)
  refine wpE_bind.mpr (wpE_restoreFlush hk fun envs => ?_)
  refine wpE_bind.mpr (wpE_lift.mpr (wp_perform_ledger ?_))
  dsimp only [World.answer]
  cases envs 0 .waitForNetwork with
  | error err =>
    refine wpE_bind.mpr (wpE_restoreLine hk fun envs => ?_)
    refine wpE_bind.mpr (wpE_restoreFlush hk fun envs => ?_)
    exact (wpE_pure _).mpr (h _ _)
  | ok _ =>
    refine wpE_bind.mpr (wpE_restoreLine hk fun envs => ?_)
    refine wpE_bind.mpr (wpE_restoreLine hk fun envs => ?_)
    refine wpE_bind.mpr (wpE_restoreFlush hk fun envs => ?_)
    refine wpE_bind.mpr (wpE_lift.mpr (wp_perform_ledger ?_))
    dsimp only [World.answer]
    cases envs 0 (.waitForRouteTo tvIp) with
    | error err =>
      refine wpE_bind.mpr (wpE_restoreLine hk fun envs => ?_)
      refine wpE_bind.mpr (wpE_restoreFlush hk fun envs => ?_)
      exact (wpE_pure _).mpr (h _ _)
    | ok _ =>
      refine wpE_bind.mpr (wpE_restoreLine hk fun envs => ?_)
      refine wpE_bind.mpr (wpE_restoreFlush hk fun envs => ?_)
      exact (wpE_pure _).mpr (h _ _)

/-- The lines of the start change nothing the proof looks at. -/
theorem wpE_renderRestoreStart {seen : Bool} {decision : LifecyclePolicyDecision RestoreNext}
    (hk : Bounded k.commands) (h : ∀ envs, Q () ((w, envs), k)) :
    wpE (ledger pid) (renderRestoreAfterSystemSleepStart seen decision) Q Abandoned
      ((w, envs), k) := by
  unfold renderRestoreAfterSystemSleepStart
  split
  · exact wpE_restoreLine hk h
  · split
    · exact wpE_restoreLine hk h
    · refine wpE_bind.mpr (wpE_restoreLine hk fun envs => ?_)
      exact wpE_restoreLine hk h

/-! ## The whole run -/

/-- Neither the marker nor the policy entitles the restore to the TV. -/
def Unentitled (policy : ScreenRestorePolicy) (seen : Bool) : Prop :=
  seen = false ∧ policy ≠ .aggressive

/-- The decision stops exactly where the policy and the marker entitle to nothing. -/
theorem decideRestoreStart_next (policy : ScreenRestorePolicy) (seen : Bool) :
    (decideRestoreAfterSystemSleepStart policy seen).next = .stop ↔ Unentitled policy seen := by
  cases policy <;> cases seen <;> simp [decideRestoreAfterSystemSleepStart, restoreIsAllowed,
    Unentitled]

/-- The decision of the start moves no marker. -/
theorem decideRestoreStart_transitions (policy : ScreenRestorePolicy) (seen : Bool) :
    (decideRestoreAfterSystemSleepStart policy seen).outcome.stateTransitions = [] := by
  cases policy <;> cases seen <;> rfl

/-- Without a title to the TV the run ends at once, at most with a line that could not be
written. -/
theorem wpE_restore_unentitled (vars : EnvVars) (config : Config)
    (hseen : Unentitled config.screenRestorePolicy (w.marker && envs 0 .markerExists)) :
    wpE (ledger pid) (restoreAfterSystemSleepWithOutcome vars config)
      (fun _ t => t.1.1.marker = w.marker ∧ t.2.commands = [])
      (fun _ t => (t.1.1.marker = w.marker ∧ t.2.commands = []) ∧ t.2.ioFailed = true)
      ((w, envs), {}) := by
  unfold restoreAfterSystemSleepWithOutcome
  refine wpE_bind.mpr (wpE_lift.mpr (wp_perform_ledger ?_))
  dsimp only [World.answer]
  have hstop := (decideRestoreStart_next _ _).mpr hseen
  rw [if_pos hstop]
  unfold renderRestoreAfterSystemSleepStart
  rw [if_pos hstop]
  refine wpE_bind.mpr (wpE_orFail.mpr (wp_perform_ledger ?_))
  dsimp only [World.answer]
  cases envs 1 (.writeLine "LG Buddy Startup: Wake from sleep: TV was not on our input. Skipping.")
  with
  | ok a => exact (wpE_pure _).mpr ⟨rfl, rfl⟩
  | error err => exact ⟨⟨rfl, rfl⟩, rfl⟩

/-- An entitled restore wakes, tries the input within its bound, and leaves no marker where it
returned. -/
theorem wpE_restore_entitled (vars : EnvVars) (config : Config)
    (hseen : ¬ Unentitled config.screenRestorePolicy (w.marker && envs 0 .markerExists)) :
    wpE (ledger pid) (restoreAfterSystemSleepWithOutcome vars config) Released Abandoned
      ((w, envs), {}) := by
  unfold restoreAfterSystemSleepWithOutcome
  refine wpE_bind.mpr (wpE_lift.mpr (wp_perform_ledger ?_))
  dsimp only [World.answer]
  have hrestore := mt (decideRestoreStart_next _ _).mp hseen
  rw [if_neg hrestore]
  refine wpE_bind.mpr (wpE_renderRestoreStart Bounded.nil fun envs => ?_)
  refine wpE_bind.mpr (wpE_waitForTvNetwork Bounded.nil fun outcome envs => ?_)
  unfold applySystemScreenMarkerTransitions
  rw [decideRestoreStart_transitions]
  refine wpE_bind.mpr ((wpE_pure ()).mpr ?_)
  refine wpE_bind.mpr (wpE_restoreLine Bounded.nil fun envs => ?_)
  refine wpE_bind.mpr (wpE_restoreFlush Bounded.nil fun envs => ?_)
  have hfirst := Waking.first config.tvIp config.tvMac
  have hbounded := fun r => (hfirst r).bounded (Nat.zero_le _)
  refine wpE_bind.mpr (wpE_sendWakePacket hbounded fun r envs => ?_)
  refine wpE_bind.mpr (wpE_restoreFlush (hbounded r) fun envs => ?_)
  refine wpE_bind.mpr (wpE_lift.mpr (wp_perform_ledger ?_))
  exact wpE_restoreInputAttempts vars config _ 1 startupWakeAttempts (Nat.zero_add _) (hfirst r)

end

/-- The law of a restore that saw the marker or not (`seen`), with the marker before and after it,
its result and all its calls. -/
structure RestoreLaw (policy : ScreenRestorePolicy) (seen before : Bool)
    (result : Except RunError PolicyOutcome) (after : Bool) (history : List AnsweredCall) :
    Prop where
  idle : Unentitled policy seen → tvCommands history = [] ∧ after = before
  idle_iff : result.isOk = true →
    ((tvCommands history = [] ∧ after = before) ↔ Unentitled policy seen)
  released : result.isOk = true → ¬ Unentitled policy seen → after = false
  bounded : Bounded (tvCommands history)
  fails : result.isOk = false → ∃ x ∈ history, ioFails x.1 x.2 = true

/-- **The resume restore releases the screen and stays bounded.** In every run, whatever the TV,
the network and the files answer: without the marker and without the aggressive policy there is
no command and the marker is untouched, and otherwise a run that ends well has sent commands and
leaves no marker; the commands are bounded, with none after a settling answer; and a run fails
only by a failed call on the writer or on the marker. `is_file` reads an error as absence, so what
the run sees of the marker is its first answer. -/
theorem system_resume_restore_bounded (vars : EnvVars) (config : Config) (pid : Pid) (w : World)
    (envs : Nat → Environment) :
    RestoreLaw config.screenRestorePolicy (w.marker && envs 0 .markerExists) w.marker
      (exec (World.serve pid) (restoreAfterSystemSleepWithOutcome vars config).run (w, envs)).1
      (exec (World.serve pid) (restoreAfterSystemSleepWithOutcome vars config).run
        (w, envs)).2.1.marker
      (calls (World.serve pid) (restoreAfterSystemSleepWithOutcome vars config).run
        (w, envs)) := by
  -- the log kept along the run is the one read from its history
  have hlog := exec_noting RestoreLog.note (World.serve pid)
    (restoreAfterSystemSleepWithOutcome vars config).run (w, envs) {}
  rw [RestoreLog.observe_note] at hlog
  generalize (exec (World.serve pid) (restoreAfterSystemSleepWithOutcome vars config).run
    (w, envs)).1 = result at hlog ⊢
  generalize (exec (World.serve pid) (restoreAfterSystemSleepWithOutcome vars config).run
    (w, envs)).2 = s at hlog ⊢
  generalize calls (World.serve pid) (restoreAfterSystemSleepWithOutcome vars config).run
    (w, envs) = history at hlog ⊢
  dsimp only [Bool.false_or, List.nil_append] at hlog
  -- the policy and the marker entitle to a restore, or they do not
  by_cases hseen : Unentitled config.screenRestorePolicy (w.marker && envs 0 .markerExists)
  · have hpost := wp_handled.mp (@wpE_restore_unentitled pid _ _ vars config hseen)
    rw [hlog] at hpost
    cases result with
    | ok outcome =>
      obtain ⟨hmarker, hcommands⟩ := hpost
      replace hcommands : tvCommands history = [] := hcommands
      exact {
        idle := fun _ => ⟨hcommands, hmarker⟩
        idle_iff := fun _ => ⟨fun _ => hseen, fun _ => ⟨hcommands, hmarker⟩⟩
        released := fun _ hentitled => absurd hseen hentitled
        bounded := by rw [hcommands]; exact Bounded.nil
        fails := nofun }
    | error err =>
      obtain ⟨⟨hmarker, hcommands⟩, hfailed⟩ := hpost
      replace hcommands : tvCommands history = [] := hcommands
      exact {
        idle := fun _ => ⟨hcommands, hmarker⟩
        idle_iff := nofun
        released := nofun
        bounded := by rw [hcommands]; exact Bounded.nil
        fails := fun _ => List.any_eq_true.mp hfailed }
  · have hpost := wp_handled.mp (@wpE_restore_entitled pid _ _ vars config hseen)
    rw [hlog] at hpost
    cases result with
    | ok outcome =>
      obtain ⟨hmarker, hcommands, hbounded⟩ := hpost
      exact {
        idle := fun h => absurd h hseen
        idle_iff := fun _ => ⟨fun h => absurd h.1 hcommands, fun h => absurd h hseen⟩
        released := fun _ _ => hmarker
        bounded := hbounded
        fails := nofun }
    | error err =>
      obtain ⟨hbounded, hfailed⟩ := hpost
      exact {
        idle := fun h => absurd h hseen
        idle_iff := nofun
        released := nofun
        bounded := hbounded
        fails := fun _ => List.any_eq_true.mp hfailed }

end LgBuddy
