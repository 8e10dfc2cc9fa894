import LgBuddy.Screen.Marker

/-!
# LgBuddy — who owns the screen, over whole runs

Screen-off, timed power-off and screen-on, called in any order and with any configuration, event
and answers, on one marker file.

* `ScreenOperation`, `ScreenRecord` — a call, and what is left of it afterwards;
* `screenStep` — one call on the marker file;
* `owned_iff` — the marker as the last word of the run's history;
* `screen_marker_law` — this and what each single call keeps to.
-/

namespace LgBuddy

open Program

/-! ## Calls and their records -/

inductive ScreenOperation where
  | off (config : ScreenConfig) (event : RuntimeEvent)
  | timedPowerOff (config : ScreenConfig) (event : RuntimeEvent)
  | on (vars : EnvVars) (config : ScreenConfig) (event : RuntimeEvent)

inductive ScreenResult where
  | off (result : ScreenOffExecutionResult)
  | outcome (outcome : PolicyOutcome)

namespace ScreenOperation

def config : ScreenOperation → ScreenConfig
  | .off config _ | .timedPowerOff config _ | .on _ config _ => config

def event : ScreenOperation → RuntimeEvent
  | .off _ event | .timedPowerOff _ event | .on _ _ event => event

def action : ScreenOperation → ScreenAction ScreenResult
  | .off config event => do
    return .off (← runScreenOffWithResultForEvent config event)
  | .timedPowerOff config event => do
    return .outcome (← runTimedPowerOffWithEvent config event)
  | .on vars config event => do
    return .outcome (← runScreenOnWithOutcomeForEvent vars config event)

end ScreenOperation

/-- What would be answered to each call. The marker file answers for itself. -/
abbrev ScreenEnv := (c : ScreenCall) → ScreenReply c

namespace ScreenEnv

/-- Everything works, and the TV is on the configured input. -/
def calm (config : ScreenConfig) : ScreenEnv
  | .writeLine _ | .writeFailureContext _ | .createMarker | .clearMarker => .ok ()
  | .sleep _ => ()
  | .machineSleepPending => .notPending
  | .systemRestorePending | .markerExists => false
  | .currentInput _ => .ok (.hdmi config.input)
  | .blank _ | .unblank _ | .powerOff _ | .setInput _ _ => .ok ()
  | .wake _ _ => .ok ()

/-- The same with an app in the foreground. -/
def appInForeground (config : ScreenConfig) (app : String) : ScreenEnv
  | .currentInput _ => .ok (.other app)
  | c => calm config c

end ScreenEnv

/-- The marker file next to everything else. Its operations never fail. -/
def serveScreen (s : Bool × (Nat → ScreenEnv)) : (c : ScreenCall) →
    ScreenReply c × (Bool × (Nat → ScreenEnv))
  | .markerExists => (s.1, s.1, fun n => s.2 (n + 1))
  | .createMarker => (.ok (), true, fun n => s.2 (n + 1))
  | .clearMarker => (.ok (), false, fun n => s.2 (n + 1))
  | c => (s.2 0 c, s.1, fun n => s.2 (n + 1))

structure ScreenRecord where
  operation : ScreenOperation
  /-- The marker before the call. -/
  before : Bool
  history : List (Exchange ScreenCall ScreenReply)
  result : Except RunError ScreenResult

namespace ScreenRecord

/-- What the call did and learnt up to this point of its history. -/
def conductOf (r : ScreenRecord) (history : List (Exchange ScreenCall ScreenReply)) :
    ScreenConduct :=
  observe ScreenConduct.note { marker := r.before } history

def conduct (r : ScreenRecord) : ScreenConduct := r.conductOf r.history

/-- The marker after the call. -/
def after (r : ScreenRecord) : Bool := r.conduct.marker

/-- A screen-off with a successful blank or fallback power-off. -/
def Took (r : ScreenRecord) : Prop :=
  match r.operation with
  | .off _ _ => r.conduct.tookScreen
  | .timedPowerOff _ _ | .on _ _ _ => False

/-- A screen-off or timed power-off that found the TV not on the configured input. -/
def SawOtherInput (r : ScreenRecord) : Prop :=
  match r.operation with
  | .off config _ | .timedPowerOff config _ => r.conduct.sawOtherInput config.input
  | .on _ _ _ => False

/-- A screen-on that completed a verified restore. -/
def Restored (r : ScreenRecord) : Prop :=
  match r.operation with
  | .off _ _ | .timedPowerOff _ _ => False
  | .on _ _ _ => r.conduct.restoredScreen

/-- The eligibility decision, on the answers this call got, was to stop. -/
def Ineligible (r : ScreenRecord) : Prop :=
  r.conduct.Ineligible r.operation.config r.operation.event

/-- What a single call keeps to. -/
structure Law (r : ScreenRecord) : Prop where
  /-- The blank's own success is what screen-off reports. -/
  blank : ∀ config event, r.operation = .off config event → ∀ result, r.result = .ok result →
    ∃ blankSucceeded, result = .off ⟨blankSucceeded⟩
      ∧ (blankSucceeded = true ↔ .ok () ∈ r.conduct.blanks)
  /-- An ineligible call sends nothing and leaves the marker alone. -/
  ineligible : r.Ineligible → (∀ x ∈ r.history, x.1.isTvCommand = false) ∧ r.after = r.before
  /-- The timed power-off is sent once at most, and only after all its checks. -/
  timed : ∀ config event, r.operation = .timedPowerOff config event →
    r.conduct.powerOffs.length ≤ 1
      ∧ ∀ before tv answer later, r.history = before ++ ⟨.powerOff tv, answer⟩ :: later →
          config.screenIdleBlank.isEnabled = true ∧ (r.conductOf before).marker = true
            ∧ ∃ input, (r.conductOf before).inputs = [.ok input]
                ∧ input.isHdmi config.input = true
  /-- An exhausted restore leaves the marker alone. -/
  exhausted : ∀ vars config event, r.operation = .on vars config event →
    r.result = .error screenOnExhausted → r.after = r.before

end ScreenRecord

/-- One call on the marker file. -/
def screenStep (marker : Bool) (input : ScreenOperation × (Nat → ScreenEnv)) :
    Bool × ScreenRecord :=
  let program := input.1.action.run.run {}
  let ((result, _), marker', _) := exec serveScreen program (marker, input.2)
  (marker', ⟨input.1, marker, calls serveScreen program (marker, input.2), result⟩)

/-- LG Buddy owes the screen back: it has taken it, and since then has neither found the TV on
something else nor brought the screen back. -/
def OwesScreen (records : List ScreenRecord) : Prop :=
  ∃ earlier r later, records = earlier ++ r :: later ∧ r.Took
    ∧ ∀ x ∈ later, ¬ x.SawOtherInput ∧ ¬ x.Restored

/-! ## One call -/

open ScreenBook

/-- The marker file answers as the observer expects. -/
theorem serveScreen_answers (s : Bool × (Nat → ScreenEnv)) (k : ScreenConduct) (c : ScreenCall)
    (hs : s.1 = k.marker) :
    markerAnswers k c (serveScreen s c).1
      ∧ (serveScreen s c).2.1 = (k.note c (serveScreen s c).1).marker := by
  cases c with
  | markerExists => exact ⟨hs, hs⟩
  | createMarker => exact ⟨rfl, rfl⟩
  | clearMarker => exact ⟨rfl, rfl⟩
  | _ => exact ⟨trivial, hs⟩

theorem ScreenConduct.learn_commands (k : ScreenConduct) (c : ScreenCall) (r : ScreenReply c) :
    (k.learn c r).commands = k.commands := by
  cases c with
  | createMarker => cases r <;> rfl
  | clearMarker => cases r <;> rfl
  | _ => rfl

/-- The commands of a conduct are those of its history. -/
theorem observe_commands (k : ScreenConduct) (history : List (Exchange ScreenCall ScreenReply)) :
    (observe ScreenConduct.note k history).commands
      = k.commands ++ (history.map (·.1)).filter ScreenCall.isTvCommand := by
  induction history generalizing k with
  | nil => exact (List.append_nil _).symm
  | cons x history ih =>
    show (observe ScreenConduct.note (k.note x.1 x.2) history).commands = _
    rw [ih, List.map_cons, ScreenConduct.note]
    cases hcommand : x.1.isTvCommand with
    | true =>
      rw [if_pos rfl, List.filter_cons_of_pos hcommand, ← ScreenConduct.learn_commands k x.1 x.2]
      exact List.append_assoc _ _ _
    | false =>
      rw [if_neg nofun, List.filter_cons_of_neg (by rw [hcommand]; exact nofun),
        ScreenConduct.learn_commands]

/-- What one call of an operation amounts to. -/
structure ScreenRecord.Sound (r : ScreenRecord) : Prop where
  law : r.Law
  marker : MarkerLaw r.Took (r.SawOtherInput ∨ r.Restored) r.before r.after

/-- A call without TV commands, by its history. -/
theorem ScreenRecord.no_commands {r : ScreenRecord} (h : r.conduct.commands = []) :
    ∀ x ∈ r.history, x.1.isTvCommand = false := by
  intro x hx
  rw [ScreenRecord.conduct, ScreenRecord.conductOf, observe_commands, List.nil_append] at h
  have hnone := List.filter_eq_nil_iff.mp h x.1 (List.mem_map_of_mem hx)
  rwa [Bool.not_eq_true] at hnone

/-- A specification of the operation, read off the record of its call. -/
theorem screenStep_spec (marker : Bool) (operation : ScreenOperation) (env : Nat → ScreenEnv)
    {may : ScreenConduct → Prop} {Q : ScreenResult → ScreenConduct → Prop}
    {E : RunError → ScreenConduct → Prop}
    (h : wpS (screenBook may) operation.action (fun a _ => Q a) (fun err _ => E err) {}
      { marker }) :
    (screenStep marker (operation, env)).1 = (screenStep marker (operation, env)).2.after
      ∧ (∀ before tv answer later, (screenStep marker (operation, env)).2.history
            = before ++ ⟨.powerOff tv, answer⟩ :: later →
          may ((screenStep marker (operation, env)).2.conductOf before))
      ∧ post Q E (screenStep marker (operation, env)).2.result
          (screenStep marker (operation, env)).2.conduct := by
  obtain ⟨hcalls, hmarker, hpost⟩ :=
    wp.calls_of (R := fun s k => s.1 = k.marker) serveScreen_answers (s := (marker, env)) rfl h
  refine ⟨hmarker, fun before tv answer later hsplit => ?_, hpost⟩
  exact hcalls before ⟨.powerOff tv, answer⟩ later hsplit

/-- What holds of the conduct however the call ended. -/
theorem post_forget {α χ τ : Type} {Q : α → τ → Prop} {E : χ → τ → Prop} {P : τ → Prop}
    {r : Except χ α} {t : τ} (hQ : ∀ a, Q a t → P t) (hE : ∀ x, E x t → P t) (h : post Q E r t) :
    P t := by
  cases r with
  | ok a => exact hQ a h
  | error x => exact hE x h

namespace ScreenRecord

variable {r : ScreenRecord} {config : ScreenConfig} {event : RuntimeEvent}

theorem sound_off (hoperation : r.operation = .off config event)
    (hlaw : OffLaw config event r.before r.conduct)
    (hresult : ∀ result, r.result = .ok result → ∃ b, result = .off ⟨b⟩
      ∧ (b = true ↔ .ok () ∈ r.conduct.blanks)) : r.Sound := by
  have htook : r.Took ↔ r.conduct.tookScreen := by rw [Took, hoperation]
  have hother : r.SawOtherInput ↔ r.conduct.sawOtherInput config.input := by
    rw [SawOtherInput, hoperation]
  have hrestored : ¬ r.Restored := by rw [Restored, hoperation]; exact id
  have hineligible : r.Ineligible ↔ r.conduct.Ineligible config event := by
    rw [Ineligible, hoperation]; rfl
  refine ⟨⟨fun _ _ _ => hresult, fun h => ?_, ?_, ?_⟩, ⟨?_, ?_, ?_⟩⟩
  · obtain ⟨hcommands, hmarker⟩ := hlaw.ineligible (hineligible.mp h)
    exact ⟨no_commands hcommands, hmarker⟩
  · intro _ _ h
    cases hoperation.symm.trans h
  · intro _ _ _ h
    cases hoperation.symm.trans h
  · exact fun h => hlaw.marker.taken (htook.mp h)
  · rintro hnone (hgone | hgone)
    · exact hlaw.marker.givenUp (fun h => hnone (htook.mpr h)) (hother.mp hgone)
    · exact absurd hgone hrestored
  · intro hnone hkept
    exact hlaw.marker.kept (fun h => hnone (htook.mpr h)) fun h => hkept (.inl (hother.mpr h))

theorem sound_timedPowerOff (hoperation : r.operation = .timedPowerOff config event)
    (hlaw : TimedLaw config event r.before r.conduct)
    (hpowerOff : ∀ before tv answer later, r.history = before ++ ⟨.powerOff tv, answer⟩ :: later →
      mayTimedPowerOff config (r.conductOf before)) : r.Sound := by
  have htook : ¬ r.Took := by rw [Took, hoperation]; exact id
  have hother : r.SawOtherInput ↔ r.conduct.sawOtherInput config.input := by
    rw [SawOtherInput, hoperation]
  have hrestored : ¬ r.Restored := by rw [Restored, hoperation]; exact id
  have hineligible : r.Ineligible ↔ r.conduct.Ineligible config event := by
    rw [Ineligible, hoperation]; rfl
  refine ⟨⟨?_, fun h => ?_, ?_, ?_⟩, ⟨fun h => absurd h htook, ?_, ?_⟩⟩
  · intro _ _ h
    cases hoperation.symm.trans h
  · obtain ⟨hcommands, hmarker⟩ := hlaw.ineligible (hineligible.mp h)
    exact ⟨no_commands hcommands, hmarker⟩
  · intro config' event' h
    cases hoperation.symm.trans h
    refine ⟨hlaw.once, fun before tv answer later hsplit => ?_⟩
    obtain ⟨henabled, hmarked, -, hinput⟩ := hpowerOff before tv answer later hsplit
    exact ⟨henabled, hmarked, hinput⟩
  · intro _ _ _ h
    cases hoperation.symm.trans h
  · rintro - (hgone | hgone)
    · exact hlaw.marker.givenUp id (hother.mp hgone)
    · exact absurd hgone hrestored
  · exact fun _ hkept => hlaw.marker.kept id fun h => hkept (.inl (hother.mpr h))

theorem sound_on {vars : EnvVars} (hoperation : r.operation = .on vars config event)
    (hlaw : OnLaw config event r.before r.conduct)
    (hexhausted : r.result = .error screenOnExhausted → ¬ r.conduct.restoredScreen) :
    r.Sound := by
  have htook : ¬ r.Took := by rw [Took, hoperation]; exact id
  have hother : ¬ r.SawOtherInput := by rw [SawOtherInput, hoperation]; exact id
  have hrestored : r.Restored ↔ r.conduct.restoredScreen := by rw [Restored, hoperation]
  have hineligible : r.Ineligible ↔ r.conduct.Ineligible config event := by
    rw [Ineligible, hoperation]; rfl
  refine ⟨⟨?_, fun h => ?_, ?_, ?_⟩, ⟨fun h => absurd h htook, ?_, ?_⟩⟩
  · intro _ _ h
    cases hoperation.symm.trans h
  · obtain ⟨hcommands, hmarker⟩ := hlaw.ineligible (hineligible.mp h)
    exact ⟨no_commands hcommands, hmarker⟩
  · intro _ _ h
    cases hoperation.symm.trans h
  · exact fun _ _ _ _ herror => hlaw.marker.kept id (hexhausted herror)
  · rintro - (hgone | hgone)
    · exact absurd hgone hother
    · exact hlaw.marker.givenUp id (hrestored.mp hgone)
  · exact fun _ hkept => hlaw.marker.kept id fun h => hkept (.inr (hrestored.mpr h))

end ScreenRecord

/-- **One call.** It keeps to its law, and moves the marker as its history says. -/
theorem screenStep_sound (marker : Bool) (input : ScreenOperation × (Nat → ScreenEnv)) :
    (screenStep marker input).1 = (screenStep marker input).2.after
      ∧ (screenStep marker input).2.Sound := by
  obtain ⟨operation, env⟩ := input
  cases operation with
  -- each operation keeps its own law along its calls
  | off config event =>
    have hspec : wpS (screenBook fun _ => True) (ScreenOperation.off config event).action
        (fun result _ k => OffLaw config event marker k ∧ ∃ b, result = .off ⟨b⟩
          ∧ (b = true ↔ .ok () ∈ k.blanks))
        (fun _ _ k => OffLaw config event marker k) {} { marker } := by
      refine wpS_bind.mpr (wpS.mono ?_ (fun _ _ _ h => h) (wpS_runScreenOff config event marker))
      exact fun result pass k hresult =>
        (wpS_pure _).mpr ⟨hresult.1, result.blankSucceeded, rfl, hresult.2⟩
    obtain ⟨hmarker, -, hpost⟩ := screenStep_spec marker _ env hspec
    refine ⟨hmarker, ScreenRecord.sound_off rfl ?_ fun result hresult => ?_⟩
    · exact post_forget (fun _ h => h.1) (fun _ h => h) hpost
    · rw [hresult] at hpost
      exact hpost.2
  | timedPowerOff config event =>
    have hspec : wpS (screenBook (mayTimedPowerOff config))
        (ScreenOperation.timedPowerOff config event).action
        (fun _ _ k => TimedLaw config event marker k)
        (fun _ _ k => TimedLaw config event marker k) {} { marker } := by
      refine wpS_bind.mpr (wpS.mono ?_ (fun _ _ _ h => h)
        (wpS_runTimedPowerOff config event marker))
      exact fun _ _ _ hlaw => (wpS_pure _).mpr hlaw
    obtain ⟨hmarker, hpowerOff, hpost⟩ := screenStep_spec marker _ env hspec
    exact ⟨hmarker, ScreenRecord.sound_timedPowerOff rfl (post_const.mp hpost) hpowerOff⟩
  | on vars config event =>
    have hspec : wpS (screenBook fun _ => True) (ScreenOperation.on vars config event).action
        (fun _ _ k => OnLaw config event marker k)
        (fun err _ k => OnLaw config event marker k
          ∧ (err = screenOnExhausted → ¬ k.restoredScreen)) {} { marker } := by
      refine wpS_bind.mpr (wpS.mono ?_ (fun _ _ _ h => h)
        (wpS_runScreenOn vars config event marker))
      exact fun _ _ _ hlaw => (wpS_pure _).mpr hlaw
    obtain ⟨hmarker, -, hpost⟩ := screenStep_spec marker _ env hspec
    refine ⟨hmarker, ScreenRecord.sound_on rfl ?_ fun hresult => ?_⟩
    · exact post_forget (fun _ h => h) (fun _ h => h.1) hpost
    · rw [hresult] at hpost
      exact hpost.2 rfl

/-! ## Whole runs -/

open Mealy

/-- The marker is the last word of the history: what one more call makes of it. -/
theorem owesScreen_concat {records : List ScreenRecord} {r : ScreenRecord} :
    OwesScreen (records ++ [r])
      ↔ r.Took ∨ OwesScreen records ∧ ¬ r.SawOtherInput ∧ ¬ r.Restored := by
  constructor
  · rintro ⟨earlier, x, later, hsplit, htook, hlater⟩
    rcases List.eq_nil_or_concat later with rfl | ⟨later, last, rfl⟩
    · obtain ⟨-, hlast⟩ := List.append_inj' hsplit rfl
      cases hlast
      exact .inl htook
    · rw [List.concat_eq_append, ← List.cons_append, ← List.append_assoc] at hsplit
      obtain ⟨hrecords, hlast⟩ := List.append_inj' hsplit rfl
      cases hlast
      rw [List.concat_eq_append, List.forall_mem_append] at hlater
      exact .inr ⟨⟨earlier, x, later, hrecords, htook, hlater.1⟩,
        hlater.2 r (List.mem_singleton_self r)⟩
  · rintro (htook | ⟨⟨earlier, x, later, rfl, htook, hlater⟩, hkept⟩)
    · exact ⟨records, r, [], rfl, htook, fun _ h => absurd h List.not_mem_nil⟩
    · refine ⟨earlier, x, later ++ [r], by simp, htook, ?_⟩
      exact List.forall_mem_append.mpr ⟨hlater, List.forall_mem_singleton.mpr hkept⟩

theorem ScreenRecord.Sound.after_iff {r : ScreenRecord} (h : r.Sound) :
    r.after = true ↔ r.Took ∨ r.before = true ∧ ¬ r.SawOtherInput ∧ ¬ r.Restored := by
  by_cases htook : r.Took
  · exact iff_of_true (h.marker.taken htook) (.inl htook)
  · by_cases hgone : r.SawOtherInput ∨ r.Restored
    · rw [h.marker.givenUp htook hgone]
      refine iff_of_false nofun ?_
      rintro (h | ⟨-, hother, hrestored⟩)
      · exact htook h
      · exact hgone.elim hother hrestored
    · rw [h.marker.kept htook hgone]
      rw [not_or] at hgone
      exact ⟨fun h => .inr ⟨h, hgone⟩, fun h => (h.resolve_left htook).1⟩

/-- **The marker file against the history.** -/
theorem owned_iff (inputs : List (ScreenOperation × (Nat → ScreenEnv))) :
    exec screenStep false inputs = true ↔ OwesScreen (outputs screenStep false inputs) := by
  refine exec_induct (P := fun inputs marker => marker = true
    ↔ OwesScreen (outputs screenStep false inputs)) false ?_ ?_ inputs
  · refine iff_of_false nofun ?_
    rintro ⟨earlier, r, later, hsplit, -⟩
    simp at hsplit
  · intro inputs input ih
    obtain ⟨hafter, hsound⟩ := screenStep_sound (exec screenStep false inputs) input
    rw [outputs_concat, owesScreen_concat, hafter, ← ih]
    exact hsound.after_iff

/-- **The session marker over whole runs.** -/
theorem screen_marker_law (inputs : List (ScreenOperation × (Nat → ScreenEnv))) :
    (exec screenStep false inputs = true ↔ OwesScreen (outputs screenStep false inputs))
      ∧ ∀ r ∈ outputs screenStep false inputs, r.Law := by
  refine ⟨owned_iff inputs, fun r hr => ?_⟩
  obtain ⟨t, ht, rfl⟩ := List.mem_map.mp hr
  rw [(of_mem_transitions ht).2]
  exact (screenStep_sound t.pre t.input).2.law

/-- Another HDMI input is in the foreground, which is less than not being on the configured one. -/
def ScreenRecord.SawOtherHdmiInput (r : ScreenRecord) : Prop :=
  match r.operation with
  | .off config _ | .timedPowerOff config _ =>
    ∃ input, .ok (.hdmi input) ∈ r.conduct.inputs ∧ input ≠ config.input
  | .on _ _ _ => False

/-- A second screen-off finds an app in the foreground: the marker of the first is cleared,
although no other HDMI input was seen. -/
theorem marker_cleared_by_app :
    ¬ ∀ inputs, exec screenStep false inputs = true ↔
      ∃ earlier r later, outputs screenStep false inputs = earlier ++ r :: later ∧ r.Took
        ∧ ∀ x ∈ later, ¬ x.SawOtherHdmiInput ∧ ¬ x.Restored := by
  intro hclaim
  let operation : ScreenOperation :=
    .off ScreenConfig.sample ⟨.desktopSession, .sessionIdle⟩
  let first := (operation, fun _ : Nat => ScreenEnv.calm ScreenConfig.sample)
  let second :=
    (operation, fun _ : Nat => ScreenEnv.appInForeground ScreenConfig.sample
      "com.webos.app.netflix")
  have hmarker : exec screenStep false [first, second] = false := rfl
  rw [(hclaim [first, second]).mpr ?_] at hmarker
  · cases hmarker
  · refine ⟨[], (screenStep false first).2, [(screenStep true second).2], rfl, ?_, ?_⟩
    · exact .inl (List.mem_singleton_self _)
    · refine List.forall_mem_singleton.mpr ⟨?_, id⟩
      rintro ⟨input, hinput, -⟩
      have hinputs : (screenStep true second).2.conduct.inputs
          = [.ok (.other "com.webos.app.netflix")] := rfl
      rw [hinputs] at hinput
      cases List.mem_singleton.mp hinput

end LgBuddy
