import LgBuddy.Lifecycle.Monitor

/-!
# LgBuddy — the sleep-delay inhibitor protocol

A delay inhibitor that is held when it should not be delays every suspend of the machine. What the
monitor does with it is judged from outside: by what an observer of its calls can see.

* `Watch` — the observer: inhibitors held, the sleep phase, the last policy read;
* `Agree` — the loop's variables against the observer;
* one specification for each part of the loop, and `sleep_delay_inhibitor_protocol` for the run.
-/

namespace LgBuddy

open Program MonitorM

/-! ## The observer -/

structure Watch where
  /-- Inhibitors acquired and not closed. -/
  held : Nat := 0
  /-- `PrepareForSleep(true)` has been received, and no `PrepareForSleep(false)` since. -/
  asleep : Bool := false
  /-- The policy was last read as disabled. -/
  disabled : Bool := false
  deriving DecidableEq, Repr

namespace Watch

/-- `PrepareForSleep` of logind's manager, with the one value it carries, moves the sleep phase;
other signals leave it alone. -/
def noteSignal (k : Watch) : Option BusSignal → Watch
  | some ⟨_, path, interface, member, [.bool preparing]⟩ =>
    if path = "/org/freedesktop/login1" ∧ interface = "org.freedesktop.login1.Manager"
        ∧ member = "PrepareForSleep" then
      { k with asleep := preparing }
    else k
  | _ => k

/-- The monitor's own reading of a signal finds the same. -/
theorem noteSignal_eq (k : Watch) (signal : Option BusSignal) :
    k.noteSignal signal = match signal.bind mapPrepareForSleepSignal with
      | some event => { k with asleep := event.kind = .machinePreparingForSleep }
      | none => k := by
  cases signal with
  | none => rfl
  | some signal =>
    obtain ⟨sender, path, interface, member, body⟩ := signal
    rw [Option.bind_some]
    unfold mapPrepareForSleepSignal
    dsimp only
    by_cases hheader : path = logindManagerPath ∧ interface = logindManagerInterface
        ∧ member = "PrepareForSleep"
    · obtain ⟨rfl, rfl, rfl⟩ := hheader
      rw [if_neg (by simp)]
      -- a body of one truth value is the announcement
      split
      · rename_i hmap
        split at hmap
        · rename_i preparing
          cases hmap
          cases preparing <;> rfl
        · cases hmap
      · rename_i hmap
        split at hmap
        · cases hmap
        · rename_i hbody
          unfold noteSignal
          split
          · rename_i preparing heq
            cases heq
            exact absurd rfl (hbody preparing)
          · rfl
    · have hother : path ≠ logindManagerPath ∨ interface ≠ logindManagerInterface
          ∨ member ≠ "PrepareForSleep" := by
        by_contra hsame
        simp only [ne_eq, not_or, not_not] at hsame
        exact hheader hsame
      rw [if_pos hother]
      unfold noteSignal
      split
      · rename_i heq
        cases heq
        exact if_neg hheader
      · rfl

def note (k : Watch) : (c : MonitorCall) → MonitorReply c → Watch
  | .inhibit, .ok _ => { k with held := k.held + 1 }
  | .closeInhibitor _, _ => { k with held := k.held - 1 }
  | .loadPolicy, .ok policy => { k with disabled := !policy.isEnabled }
  | .process _, .ok signal => k.noteSignal signal
  | _, _ => k

/-- At most one inhibitor is held at any call; none is asked for while one is held or the machine
sleeps; and once the policy has been read as disabled, closing it comes before all else. -/
def permits (k : Watch) (c : MonitorCall) : Prop :=
  k.held ≤ 1
    ∧ (c = .inhibit → k.held = 0 ∧ k.asleep = false ∧ k.disabled = false)
    ∧ (k.disabled = true → k.held = 0 ∨ ∃ fd, c = .closeInhibitor fd)

def contract : Contract MonitorCall MonitorReply Watch := .observed permits note

end Watch

/-! ## The loop's variables -/

/-- The slot holds what is held, and the flag is the sleep phase. -/
structure Tracks (s : MonitorState) (k : Watch) : Prop where
  held : k.held = if s.sleepInhibitor.isSome then 1 else 0
  asleep : k.asleep = s.waitingForResume

/-- Between two parts of the loop a disabled policy also means an empty slot. -/
structure Agree (s : MonitorState) (k : Watch) : Prop extends Tracks s k where
  disabled : k.disabled = true → s.sleepInhibitor = none

/-- Nothing is held during sleep. -/
def Rested (s : MonitorState) : Prop := s.waitingForResume = true → s.sleepInhibitor = none

section

variable {s : MonitorState} {k : Watch}

/-- What the watch counts as held is the one slot of the state, so it is at most one. -/
theorem Tracks.held_le_one (h : Tracks s k) : k.held ≤ 1 := by
  rw [h.held]
  split <;> omega

theorem Tracks.held_eq_zero (h : Tracks s k) (hnone : s.sleepInhibitor = none) : k.held = 0 := by
  rw [h.held, hnone]
  rfl

/-- Calls that are no acquisition are in order between two parts. -/
theorem Agree.permits (h : Agree s k) {c : MonitorCall} (hc : c ≠ .inhibit) : k.permits c :=
  ⟨h.held_le_one, fun heq => absurd heq hc, fun hdisabled => .inl (h.held_eq_zero (h.disabled hdisabled))⟩

/-- A call that the observer takes no notice of. -/
theorem wpS_quiet {c : MonitorCall} {Q : MonitorReply c → MonitorState → Watch → Prop}
    {E : SessionRunnerError → MonitorState → Watch → Prop} (h : Agree s k) (hc : c ≠ .inhibit)
    (hnote : ∀ r, k.note c r = k) (hQ : ∀ r, Q r s k) :
    wpS Watch.contract (ask c) Q E s k := by
  refine wpS_liftM.mpr ((wp_perform c).mpr ⟨h.permits hc, fun r k' hk' => ?_⟩)
  rw [show k' = k from hk'.trans (hnote r)]
  exact hQ r

/-- A failed write leaves by the error exit with the state of the call. -/
theorem wpS_orIo {α : Type} {result : Except IoError α} {Q : α → MonitorState → Watch → Prop}
    {E : SessionRunnerError → MonitorState → Watch → Prop}
    (hQ : ∀ a, result = .ok a → Q a s k) (hE : ∀ err, E err s k) :
    wpS Watch.contract (orIo result) Q E s k := by
  cases result with
  | ok a => exact (wpS_pure a).mpr (hQ a rfl)
  | error err => exact (wpS_throw _).mpr (hE _)

/-- A failed start leaves by the error exit with the state of the call. -/
theorem wpS_orFailed {α : Type} {result : Except String α} {what : String}
    {Q : α → MonitorState → Watch → Prop} {E : SessionRunnerError → MonitorState → Watch → Prop}
    (hQ : ∀ a, result = .ok a → Q a s k) (hE : ∀ err, E err s k) :
    wpS Watch.contract (orFailed result what) Q E s k := by
  cases result with
  | ok a => exact (wpS_pure a).mpr (hQ a rfl)
  | error err => exact (wpS_throw _).mpr (hE _)

/-- Nothing has changed. -/
def Same (s : MonitorState) (k : Watch) (s' : MonitorState) (k' : Watch) : Prop := s' = s ∧ k' = k

/-- Writing a line of output changes neither the monitor's state nor the watch. -/
theorem wpS_writeLine (h : Agree s k) (line : String) :
    wpS Watch.contract (writeLine line) (fun _ => Same s k) (fun _ => Same s k) s k :=
  wpS_bind.mpr (wpS_quiet h nofun (fun _ => rfl) fun _ =>
    wpS_orIo (fun _ _ => ⟨rfl, rfl⟩) fun _ => ⟨rfl, rfl⟩)

theorem wpS_flush (h : Agree s k) :
    wpS Watch.contract flush (fun _ => Same s k) (fun _ => Same s k) s k :=
  wpS_bind.mpr (wpS_quiet h nofun (fun _ => rfl) fun _ =>
    wpS_orIo (fun _ _ => ⟨rfl, rfl⟩) fun _ => ⟨rfl, rfl⟩)

/-- After a part that changes nothing, what has to hold holds here. -/
theorem wpS_same {α : Type} {p : MonitorM α} {Q : α → MonitorState → Watch → Prop}
    {E : SessionRunnerError → MonitorState → Watch → Prop}
    (hp : wpS Watch.contract p (fun _ => Same s k) (fun _ => Same s k) s k)
    (hQ : ∀ a, Q a s k) (hE : ∀ err, E err s k) : wpS Watch.contract p Q E s k := by
  refine wpS.mono (fun a s' k' hsame => ?_) (fun err s' k' hsame => ?_) hp
  · obtain ⟨rfl, rfl⟩ := hsame
    exact hQ a
  · obtain ⟨rfl, rfl⟩ := hsame
    exact hE err

/-- Writing the output of a command changes neither the monitor's state nor the watch, whichever
of its lines is written. -/
theorem wpS_writeCommandOutput (h : Agree s k) (output : String) :
    wpS Watch.contract (writeCommandOutput output) (fun _ => Same s k) (fun _ => Same s k)
      s k := by
  have hsame : Same s k s k := ⟨rfl, rfl⟩
  unfold writeCommandOutput
  split
  · exact (wpS_pure ()).mpr hsame
  · refine wpS_bind.mpr (wpS_quiet h nofun (fun _ => rfl) fun r => ?_)
    refine wpS_bind.mpr (wpS_orIo (fun _ _ => ?_) fun _ => hsame)
    split
    · exact wpS_bind.mpr (wpS_same (wpS_writeLine h _) (fun _ => wpS_flush h) fun _ => hsame)
    · exact wpS_flush h

/-! ## The parts of the loop -/

/-- Releasing needs no more than `Tracks`: it is what restores the rest of `Agree`. -/
theorem wpS_release (h : Tracks s k) :
    wpS Watch.contract releaseLifecycleSleepDelayInhibitor
      (fun _ s' k' => Agree s' k' ∧ s' = { s with sleepInhibitor := none })
      (fun _ s' k' => Agree s' k' ∧ s' = { s with sleepInhibitor := none }) s k := by
  unfold releaseLifecycleSleepDelayInhibitor
  refine wpS_bind.mpr (wpS_get.mpr ?_)
  cases hslot : s.sleepInhibitor with
  | none =>
    refine (wpS_pure ()).mpr ⟨⟨h, fun _ => hslot⟩, ?_⟩
    rw [← hslot]
  | some fd =>
    have hone : k.held = 1 := by
      rw [h.held, hslot]
      rfl
    refine wpS_bind.mpr (wpS_modify.mpr ?_)
    refine wpS_bind.mpr (wpS_liftM.mpr ((wp_perform _).mpr ⟨⟨by omega, nofun, ?_⟩, ?_⟩))
    · exact fun _ => .inr ⟨fd, rfl⟩
    · intro r k' hk'
      subst hk'
      have hagree : Agree { s with sleepInhibitor := none } (k.note (.closeInhibitor fd) r) :=
        ⟨⟨by show k.held - 1 = 0; omega, h.asleep⟩, fun _ => rfl⟩
      exact wpS_same (wpS_writeLine hagree _) (fun _ => ⟨hagree, rfl⟩) fun _ => ⟨hagree, rfl⟩

/-- Reading the policy records its answer in the watch and leaves the state alone. -/
theorem wpS_policyEnabled {E : SessionRunnerError → MonitorState → Watch → Prop}
    (h : Agree s k) (hE : ∀ err, E err s k) :
    wpS Watch.contract lifecyclePolicyEnabledFromConfig
      (fun enabled s' k' => s' = s ∧ k' = { k with disabled := !enabled }) E s k := by
  unfold lifecyclePolicyEnabledFromConfig
  refine wpS_bind.mpr (wpS_liftM.mpr ((wp_perform _).mpr ⟨h.permits nofun, fun r k' hk' => ?_⟩))
  subst hk'
  cases r with
  | ok policy => exact ⟨rfl, rfl⟩
  | error err => exact hE _

/-- The idle synchronisation keeps the agreement: it releases the slot where the policy is off,
and acquires one where the monitor is awake and holds none. -/
theorem wpS_sync (h : Agree s k) (hrested : Rested s) :
    wpS Watch.contract syncLifecycleSleepDelayInhibitorIfIdle
      (fun _ s' k' => Agree s' k' ∧ Rested s') (fun _ s' k' => Agree s' k') s k := by
  unfold syncLifecycleSleepDelayInhibitorIfIdle
  refine wpS_bind.mpr (wpS.mono ?_ (fun _ _ _ h => h) (wpS_policyEnabled h fun _ => h))
  rintro enabled s' k' ⟨rfl, rfl⟩
  -- the policy decides between the release and the acquisition
  cases enabled with
  | false =>
    refine wpS.mono (fun _ s₁ k₁ hrel => ?_) (fun _ _ _ hrel => hrel.1)
      (wpS_release ⟨h.held, h.asleep⟩)
    obtain ⟨hagree, rfl⟩ := hrel
    exact ⟨hagree, fun _ => rfl⟩
  | true =>
    have hagree : Agree s' { k with disabled := false } := ⟨⟨h.held, h.asleep⟩, nofun⟩
    refine wpS_bind.mpr (wpS_get.mpr ?_)
    split
    · exact (wpS_pure ()).mpr ⟨hagree, hrested⟩
    · rename_i hidle
      rw [Bool.or_eq_true, not_or, Bool.not_eq_true, Option.not_isSome_iff_eq_none] at hidle
      obtain ⟨hawake, hempty⟩ := hidle
      refine wpS_bind.mpr (wpS_liftM.mpr ((wp_perform _).mpr ⟨⟨h.held_le_one, fun _ => ?_, nofun⟩, ?_⟩))
      · exact ⟨h.held_eq_zero hempty, h.asleep.trans hawake, rfl⟩
      · intro r k' hk'
        subst hk'
        cases r with
        | error err => exact hagree
        | ok fd =>
          have hheld : Agree { s' with sleepInhibitor := some fd }
              (Watch.note { k with disabled := false } .inhibit (.ok fd)) :=
            ⟨⟨by show k.held + 1 = 1; rw [h.held_eq_zero hempty], h.asleep⟩, nofun⟩
          have hrested' : Rested { s' with sleepInhibitor := some fd } := by
            intro hwaiting
            rw [hawake] at hwaiting
            cases hwaiting
          refine wpS_bind.mpr ((wpS_pure fd).mpr (wpS_bind.mpr (wpS_modify.mpr ?_)))
          exact wpS_same (wpS_writeLine hheld _) (fun _ => ⟨hheld, hrested'⟩) fun _ => hheld

/-- A dispatch makes only calls of which the observer takes no notice. -/
theorem wpS_dispatch (h : Agree s k) (event : RuntimeEvent) :
    wpS Watch.contract (dispatchLifecycleEvent event) (fun _ => Same s k) (fun _ => Same s k)
      s k := by
  have hsame : Same s k s k := ⟨rfl, rfl⟩
  unfold dispatchLifecycleEvent
  split
  · refine wpS_bind.mpr (wpS_same (wpS_writeLine h _) (fun _ => ?_) fun _ => hsame)
    refine wpS_bind.mpr (wpS_same (wpS_writeLine h _) (fun _ => ?_) fun _ => hsame)
    refine wpS_bind.mpr (wpS_same (wpS_flush h) (fun _ => ?_) fun _ => hsame)
    refine wpS_bind.mpr (wpS_quiet h nofun (fun _ => rfl) fun r => ?_)
    split
    · exact (wpS_pure ()).mpr hsame
    · exact wpS_writeLine h _
  · refine wpS_bind.mpr (wpS_same (wpS_writeLine h _) (fun _ => ?_) fun _ => hsame)
    refine wpS_bind.mpr (wpS_same (wpS_writeLine h _) (fun _ => ?_) fun _ => hsame)
    refine wpS_bind.mpr (wpS_same (wpS_flush h) (fun _ => ?_) fun _ => hsame)
    refine wpS_bind.mpr (wpS_quiet h nofun (fun _ => rfl) fun r => ?_)
    split
    · exact wpS_writeCommandOutput h _
    · exact wpS_writeLine h _
  · exact (wpS_pure ()).mpr hsame
  · exact (wpS_pure ()).mpr hsame

/-- Counting an event touches neither the slot nor the sleep flag. -/
theorem wpS_countEvent {settings : MonitorSettings} (h : Agree s k) (hrested : Rested s) :
    wpS Watch.contract (countLifecycleEvent settings) (fun _ s' k' => Agree s' k' ∧ Rested s')
      (fun _ s' k' => Agree s' k') s k := by
  unfold countLifecycleEvent
  refine wpS_bind.mpr (wpS_modify.mpr (wpS_bind.mpr (wpS_get.mpr ((wpS_pure _).mpr ?_))))
  exact ⟨⟨⟨h.held, h.asleep⟩, h.disabled⟩, hrested⟩

theorem wpS_rethrow {α : Type} {result : Except SessionRunnerError α}
    {Q : α → MonitorState → Watch → Prop} {E : SessionRunnerError → MonitorState → Watch → Prop}
    (hQ : ∀ a, Q a s k) (hE : ∀ err, E err s k) : wpS Watch.contract (rethrow result) Q E s k := by
  cases result with
  | ok a => exact hQ a
  | error err => exact hE err

/-- The two results are looked at only once the slot is empty. -/
theorem wpS_releaseAfterDispatch {settings : MonitorSettings} (h : Tracks s k)
    (dispatched : Except SessionRunnerError Unit) :
    wpS Watch.contract (do
        let released ← attempt releaseLifecycleSleepDelayInhibitor
        rethrow dispatched
        rethrow released
        countLifecycleEvent settings)
      (fun _ s' k' => Agree s' k' ∧ Rested s') (fun _ s' k' => Agree s' k') s k := by
  have hrest (released : Except SessionRunnerError Unit) {s' : MonitorState} {k' : Watch}
      (hrel : Agree s' k' ∧ s' = { s with sleepInhibitor := none }) :
      wpS Watch.contract (do rethrow dispatched; rethrow released; countLifecycleEvent settings)
        (fun _ s' k' => Agree s' k' ∧ Rested s') (fun _ s' k' => Agree s' k') s' k' := by
    obtain ⟨hagree, rfl⟩ := hrel
    refine wpS_bind.mpr (wpS_rethrow (fun _ => ?_) fun _ => hagree)
    refine wpS_bind.mpr (wpS_rethrow (fun _ => ?_) fun _ => hagree)
    exact wpS_countEvent hagree fun _ => rfl
  exact wpS_bind.mpr (wpS_lift.mpr (wpS.mono (fun _ _ _ hrel => hrest _ hrel)
    (fun _ _ _ hrel => hrest _ hrel) (wpS_release h)))

/-- A signal has been received, and the observer has already noted it. -/
theorem wpS_handleSignal {settings : MonitorSettings} {preparing : Bool}
    (h : Agree { s with waitingForResume := preparing } k) :
    wpS Watch.contract (handleLifecycleSignal settings (.fromLogindPrepareForSleep preparing))
      (fun _ s' k' => Agree s' k' ∧ Rested s') (fun _ s' k' => Agree s' k') s k := by
  unfold handleLifecycleSignal
  refine wpS_bind.mpr (wpS_noteLifecycleEvent ?_)
  refine wpS_bind.mpr (wpS.mono (fun enabled s₁ k₁ hpolicy => ?_) (fun _ _ _ h => h)
    (wpS_policyEnabled h fun _ => h))
  obtain ⟨rfl, rfl⟩ := hpolicy
  cases enabled with
  | false =>
    refine wpS_bind.mpr (wpS.mono (fun _ s₂ k₂ hrel => ?_) (fun _ _ _ hrel => hrel.1)
      (wpS_release ⟨h.held, h.asleep⟩))
    obtain ⟨hagree, rfl⟩ := hrel
    refine wpS_bind.mpr (wpS_same (wpS_writeLine hagree _) (fun _ => ?_) fun _ => hagree)
    exact wpS_countEvent hagree fun _ => rfl
  | true =>
    have hagree : Agree { s with waitingForResume := preparing } { k with disabled := false } :=
      ⟨⟨h.held, h.asleep⟩, nofun⟩
    cases preparing with
    | false =>
      refine wpS_bind.mpr (wpS_same (wpS_dispatch hagree _) (fun _ => ?_) fun _ => hagree)
      refine wpS_bind.mpr (wpS.mono (fun _ s₂ k₂ hsync => ?_) (fun _ _ _ h => h)
        (wpS_sync hagree nofun))
      exact wpS_countEvent hsync.1 hsync.2
    | true =>
      exact wpS_bind.mpr (wpS_lift.mpr (wpS_same (wpS_dispatch hagree _)
        (fun _ => wpS_releaseAfterDispatch hagree.toTracks _)
        fun _ => wpS_releaseAfterDispatch hagree.toTracks _))

/-! ## Passes -/

theorem wpS_testTimeoutReached {settings : MonitorSettings} (h : Agree s k) :
    wpS Watch.contract (testTimeoutReached settings) (fun _ => Same s k) (fun _ => Same s k)
      s k := by
  unfold testTimeoutReached
  split
  · exact wpS_bind.mpr (wpS_quiet h nofun (fun _ => rfl) fun _ => (wpS_pure _).mpr ⟨rfl, rfl⟩)
  · exact (wpS_pure _).mpr ⟨rfl, rfl⟩

theorem wpS_processTimeout {settings : MonitorSettings} (h : Agree s k) :
    wpS Watch.contract (processTimeout settings) (fun _ => Same s k) (fun _ => Same s k) s k := by
  unfold processTimeout
  split
  · exact wpS_bind.mpr (wpS_quiet h nofun (fun _ => rfl) fun _ => (wpS_pure _).mpr ⟨rfl, rfl⟩)
  · exact (wpS_pure _).mpr ⟨rfl, rfl⟩

/-- One pass of the monitor keeps the agreement, and a pass that returns ends rested. -/
theorem wpS_pass {settings : MonitorSettings} (h : Agree s k) (hrested : Rested s) :
    wpS Watch.contract (lifecycleMonitorPass settings) (fun _ s' k' => Agree s' k' ∧ Rested s')
      (fun _ s' k' => Agree s' k') s k := by
  have hready : Agree s k ∧ Rested s := ⟨h, hrested⟩
  unfold lifecycleMonitorPass
  refine wpS_bind.mpr (wpS_same (wpS_testTimeoutReached h) (fun reached => ?_) fun _ => h)
  split
  · exact (wpS_pure false).mpr hready
  · refine wpS_bind.mpr (wpS_same (wpS_processTimeout h) (fun timeout => ?_) fun _ => h)
    refine wpS_bind.mpr (wpS.mono (fun _ s₁ k₁ hsync => ?_) (fun _ _ _ h => h)
      (wpS_sync h hrested))
    obtain ⟨hagree, hrested₁⟩ := hsync
    refine wpS_bind.mpr (wpS_liftM.mpr ((wp_perform _).mpr ⟨hagree.permits nofun, ?_⟩))
    intro r k₂ hk₂
    subst hk₂
    cases r with
    | error err => exact hagree
    | ok signal =>
      refine wpS_bind.mpr ((wpS_pure signal).mpr ?_)
      rw [show k₁.note (.process timeout) (.ok signal) = k₁.noteSignal signal from rfl,
        Watch.noteSignal_eq]
      cases hevent : signal.bind mapPrepareForSleepSignal with
      -- a signal that is not PrepareForSleep is no event
      | none => exact (wpS_pure true).mpr ⟨hagree, hrested₁⟩
      | some event =>
        obtain ⟨bus, -, hmap⟩ := Option.bind_eq_some_iff.mp hevent
        obtain ⟨preparing, rfl⟩ := mapPrepareForSleepSignal_some hmap
        refine wpS_handleSignal ⟨⟨hagree.held, ?_⟩, hagree.disabled⟩
        cases preparing with
        | true => rfl
        | false => rfl

/-- The agreement at the start of a pass carries over any number of passes, by induction on it. -/
theorem wpS_passes {settings : MonitorSettings} (passes : Nat) (h : Agree s k)
    (hrested : Rested s) :
    wpS Watch.contract (lifecycleMonitorPasses settings passes)
      (fun _ s' k' => Agree s' k' ∧ Rested s') (fun _ s' k' => Agree s' k') s k := by
  induction passes generalizing s k with
  | zero => exact (wpS_pure true).mpr ⟨h, hrested⟩
  | succ passes ih =>
    unfold lifecycleMonitorPasses
    refine wpS_bind.mpr (wpS.mono (fun again s₁ k₁ hpass => ?_) (fun _ _ _ h => h)
      (wpS_pass h hrested))
    cases again with
    | true => exact ih hpass.1 hpass.2
    | false => exact (wpS_pure false).mpr hpass

/-- The whole body of the monitor keeps the agreement from the empty state and the fresh watch. -/
theorem wpS_body {settings : MonitorSettings} (passes : Nat) :
    wpS Watch.contract (monitorBody settings passes) (fun _ s' k' => Agree s' k' ∧ Rested s')
      (fun _ s' k' => Agree s' k') {} {} := by
  have h : Agree {} {} := ⟨⟨rfl, rfl⟩, nofun⟩
  unfold monitorBody startLifecycleMonitor
  refine wpS_bind.mpr (wpS_bind.mpr (wpS_quiet h nofun (fun _ => rfl) fun _ => ?_))
  refine wpS_bind.mpr (wpS_orFailed (fun _ _ => ?_) fun _ => h)
  refine wpS_bind.mpr (wpS_same (wpS_writeLine h _) (fun _ => ?_) fun _ => h)
  exact wpS.mono (fun _ s₁ k₁ hsync => wpS_passes passes hsync.1 hsync.2) (fun _ _ _ h => h)
    (wpS_sync h nofun)

end

/-! ## Runs -/

/-- What the observer knows after a run: while the monitor is in its loop nothing is held in sleep
or under a disabled policy, and nothing at all is held once it has returned. -/
def Settled (result : Option (Except SessionRunnerError Unit)) (k : Watch) : Prop :=
  k.held ≤ 1
    ∧ (result = none → (k.asleep = true → k.held = 0) ∧ (k.disabled = true → k.held = 0))
    ∧ (result ≠ none → k.held = 0)

/-- After the state is dropped nothing is held. -/
theorem wp_dropInhibitor {s : MonitorState} {k : Watch} (h : Agree s k) :
    wp Watch.contract (runLifecycleMonitorWithBus.dropInhibitor s) (fun _ k' => k'.held = 0) k := by
  unfold runLifecycleMonitorWithBus.dropInhibitor
  cases hslot : s.sleepInhibitor with
  | none => exact h.held_eq_zero hslot
  | some fd =>
    refine (wp_perform _).mpr ⟨h.permits nofun, fun r k' hk' => ?_⟩
    have hone := h.held_le_one
    rw [show k' = k.note (.closeInhibitor fd) r from hk']
    show k.held - 1 = 0
    omega

/-- Every run of the monitor ends settled, whether it returned or was cut after a pass. -/
theorem wp_run (settings : MonitorSettings) (passes : Nat) :
    wp Watch.contract (runLifecycleMonitorWithBus settings passes) Settled {} := by
  have hreturned {result : Except SessionRunnerError Unit} {k : Watch} (hheld : k.held = 0) :
      Settled (some result) k := ⟨by omega, nofun, fun _ => hheld⟩
  unfold runLifecycleMonitorWithBus
  refine wp_bind.mpr (wp.mono (fun r k hr => ?_) (wpS_body passes))
  obtain ⟨result, s⟩ := r
  cases result with
  | error err =>
    have h : Agree s k := hr
    exact wp_bind.mpr (wp.mono (fun _ _ => hreturned) (wp_dropInhibitor h))
  | ok running =>
    have h : Agree s k ∧ Rested s := hr
    -- a body that stopped drops its slot, one that goes on still has it
    cases running with
    | false => exact wp_bind.mpr (wp.mono (fun _ _ => hreturned) (wp_dropInhibitor h.1))
    | true =>
      refine ⟨h.1.held_le_one, fun _ => ⟨fun hasleep => ?_, fun hdisabled => ?_⟩, nofun⟩
      · exact h.1.held_eq_zero (h.2 (h.1.asleep.symm.trans hasleep))
      · exact h.1.held_eq_zero (h.1.disabled hdisabled)

/-- **The inhibitor protocol.** Whatever the bus, the config file, the output and the executor
answer, and after any number of passes: at each call at most one inhibitor is held; none is
asked for while one is held, or between `PrepareForSleep(true)` and `PrepareForSleep(false)`; once
the policy has been read as disabled, the held one is closed before anything else is done. After
every pass, none is held in sleep or under a disabled policy; and none once the monitor has
returned, for whatever reason. -/
theorem sleep_delay_inhibitor_protocol {σ : Type}
    (handle : σ → (c : MonitorCall) → MonitorReply c × σ) (s : σ) (settings : MonitorSettings)
    (passes : Nat) :
    let watch := observe Watch.note {}
    let history := calls handle (runLifecycleMonitorWithBus settings passes) s
    let result := (exec handle (runLifecycleMonitorWithBus settings passes) s).1
    (∀ before x after, history = before ++ x :: after →
      (watch before).held ≤ 1
        ∧ (x.1 = .inhibit → (watch before).held = 0 ∧ (watch before).asleep = false
            ∧ (watch before).disabled = false)
        ∧ ((watch before).disabled = true →
            (watch before).held = 0 ∨ ∃ fd, x.1 = .closeInhibitor fd))
    ∧ (watch history).held ≤ 1
    ∧ (result = none → ((watch history).asleep = true → (watch history).held = 0)
        ∧ ((watch history).disabled = true → (watch history).held = 0))
    ∧ (result ≠ none → (watch history).held = 0) :=
  (wp_run settings passes).calls handle s

end LgBuddy
