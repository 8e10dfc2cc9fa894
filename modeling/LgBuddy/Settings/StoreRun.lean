import LgBuddy.Settings.Store

/-!
# LgBuddy — runs of the settings store

The files and services that answer the calls of the store, and what one writer does who is alone.

* `SettingsWorld.answer` — one call, answered;
* `SettingsRun`, `SettingsRun.step` — the world with the log of the calls; others may have changed
  the config before each of them;
* `quiet` — no other writer and no failure of the file system;
* `wpE_atomicWriteConfig`, `wpE_persistSettingsMutation` — the writers in a quiet world.
-/

namespace LgBuddy.Settings

open Program (wp wpE)
open Str (utf8Bytes)

/-! ## The world -/

structure SettingsWorld where
  /-- They are generated before the run and stay as they are. -/
  declarations : Option Declarations
  config : Option (List UInt8)
  /-- The temporary file. -/
  staged : Option (List UInt8)
  /-- The lock is ours. -/
  locked : Bool

def SettingsWorld.start (config : Option (List UInt8)) (declarations : Option Declarations) :
    SettingsWorld :=
  ⟨declarations, config, none, false⟩

/-- What happens around one call. -/
structure SettingsMoment where
  /-- What somebody else makes of the config before the call. -/
  outside : Option (Option (List UInt8))
  /-- A failure of the file system. -/
  fault : Option IoError
  systemdActionsDisabled : Bool
  userServiceState : Except SettingsError UserServiceState
  restarted : Except SettingsError Unit
  stopped : Except SettingsError Unit
  enabled : Except SettingsError UserUnitEnableOutcome
  ownership : InstallationOwnership

/-- Nobody else writes, and no file operation fails. -/
structure SettingsMoment.Quiet (m : SettingsMoment) : Prop where
  outside : m.outside = none
  fault : m.fault = none

/-- Nothing happens, and no service is installed. -/
def SettingsMoment.still : SettingsMoment where
  outside := none
  fault := none
  systemdActionsDisabled := false
  userServiceState := .ok .missing
  restarted := .ok ()
  stopped := .ok ()
  enabled := .ok .enabled
  ownership := .bundle

theorem SettingsMoment.still_quiet : SettingsMoment.still.Quiet := ⟨rfl, rfl⟩

/-- What the file system makes of a call that it can fail. -/
def SettingsMoment.attempt {α : Type} (m : SettingsMoment) (w : SettingsWorld)
    (result : Except IoError (α × SettingsWorld)) : Except IoError α × SettingsWorld :=
  match m.fault, result with
  | some err, _ | none, .error err => (.error err, w)
  | none, .ok (a, w') => (.ok a, w')

namespace SettingsWorld

def notFound : IoError := ⟨"No such file or directory (os error 2)"⟩

/-- The lock is not taken twice. -/
def alreadyLocked : IoError := ⟨"another TV pairing is already in progress"⟩

def answer (m : SettingsMoment) (w : SettingsWorld) :
    (call : SettingsCall) → call.Answer × SettingsWorld
  | .lock => m.attempt w <| if w.locked then .error alreadyLocked
    else .ok ((), { w with locked := true })
  | .unlock => ((), { w with locked := false })
  | .readConfig => m.attempt w (.ok (w.config, w))
  | .loadDeclarations => m.attempt w (.ok (w.declarations, w))
  | .stage contents => m.attempt w (.ok ((), { w with staged := some contents }))
  | .publish => m.attempt w <| match w.staged with
    | some contents => .ok ((), { w with config := some contents, staged := none })
    | none => .error notFound
  | .discard => ((), { w with staged := none })
  | .removeConfig => m.attempt w <| if w.config.isSome
    then .ok ((), { w with config := none }) else .error notFound
  | .systemdActionsDisabled => (m.systemdActionsDisabled, w)
  | .userServiceState _ => (m.userServiceState, w)
  | .restartUserService _ => (m.restarted, w)
  | .updateOwnership => (m.ownership, w)
  | .enableStartUserUnit _ => (m.enabled, w)
  | .disableStopUserUnit _ => (m.stopped, w)

/-- Somebody else has been here. -/
def arrive (m : SettingsMoment) (w : SettingsWorld) : SettingsWorld :=
  match m.outside with
  | some config => { w with config }
  | none => w

end SettingsWorld

/-- One call of a run, with the config as the call finds it and as it leaves it. -/
structure SettingsEntry where
  call : SettingsCall
  before : Option (List UInt8)
  answer : call.Answer
  after : Option (List UInt8)

structure SettingsRun where
  world : SettingsWorld
  log : List SettingsEntry

namespace SettingsRun

def start (config : Option (List UInt8)) (declarations : Option Declarations) : SettingsRun :=
  ⟨.start config declarations, []⟩

/-- One call. -/
def step (m : SettingsMoment) (s : SettingsRun) (call : SettingsCall) :
    call.Answer × SettingsRun :=
  let found := s.world.arrive m
  let (answer, left) := found.answer m call
  (answer, ⟨left, s.log ++ [⟨call, found.config, answer, left.config⟩]⟩)

/-- Every call has its moment. -/
def handle (moments : Nat → SettingsMoment) (s : SettingsRun) (call : SettingsCall) :
    call.Answer × SettingsRun :=
  s.step (moments s.log.length) call

end SettingsRun

/-- A run to its end. -/
def settingsRun {E α : Type} (moments : Nat → SettingsMoment) (p : SettingsM E α)
    (s : SettingsRun) : Except E α × SettingsRun :=
  Program.exec (SettingsRun.handle moments) p.run s

/-! ## Alone -/

/-- Any quiet moment may come; only the world is looked at. -/
def quiet : Program.Contract SettingsCall SettingsCall.Answer SettingsWorld where
  permits _ _ := True
  next w call answer w' := ∃ m, SettingsMoment.Quiet m ∧ w.answer m call = (answer, w')

/-- **A run in which nobody else writes.** -/
theorem wpE_quiet_run {E α : Type} {p : SettingsM E α} {Q : α → SettingsWorld → Prop}
    {R : E → SettingsWorld → Prop} {moments : Nat → SettingsMoment}
    (hquiet : ∀ n, (moments n).Quiet) (s : SettingsRun) (h : wpE quiet p Q R s.world) :
    Program.post Q R (settingsRun moments p s).1 (settingsRun moments p s).2.world := by
  have hhandle : ∀ (s : SettingsRun) (call : SettingsCall), True → True
      ∧ quiet.next s.world call (s.handle moments call).1 (s.handle moments call).2.world := by
    intro s call _
    have hnow := hquiet s.log.length
    refine ⟨trivial, _, hnow, ?_⟩
    have harrive : s.world.arrive (moments s.log.length) = s.world := by
      unfold SettingsWorld.arrive
      rw [hnow.outside]
    unfold SettingsRun.handle SettingsRun.step
    rw [harrive]
  exact Program.wpE.exec SettingsRun.world hhandle trivial h

section Rules

variable {w : SettingsWorld} {E : Type}

/-- At a quiet moment an attempt succeeds. -/
theorem SettingsMoment.Quiet.attempt {α : Type} {m : SettingsMoment} (h : m.Quiet)
    (a : α) (w' : SettingsWorld) : m.attempt w (.ok (a, w')) = (.ok a, w') := by
  unfold SettingsMoment.attempt
  rw [h.fault]

/-- A call is answered at a quiet moment. -/
theorem wp_quiet {call : SettingsCall} {Q : call.Answer → SettingsWorld → Prop}
    (h : ∀ m : SettingsMoment, m.Quiet → Q (w.answer m call).1 (w.answer m call).2) :
    wp quiet (Program.perform call) Q w := by
  refine (Program.wp_perform call).mpr ⟨trivial, ?_⟩
  rintro answer w' ⟨m, hm, heq⟩
  have hnow := h m hm
  rw [heq] at hnow
  exact hnow

/-- A call that a quiet file system answers in one way only. -/
theorem wp_quiet_attempt {call : SettingsCall} {Q : call.Answer → SettingsWorld → Prop}
    {answer : call.Answer} {w' : SettingsWorld}
    (hanswer : ∀ m : SettingsMoment, m.Quiet → w.answer m call = (answer, w'))
    (h : Q answer w') : wp quiet (Program.perform call) Q w := by
  apply wp_quiet
  intro m hm
  rw [hanswer m hm]
  exact h

/-- Mapping the error of a program maps its error condition. -/
theorem wpE_orElse_settings {E' α : Type} {p : SettingsProgram (Except E' α)} {f : E' → E}
    {Q : α → SettingsWorld → Prop} {R : E → SettingsWorld → Prop} :
    wpE quiet (SettingsM.orElse p f) Q R w
      ↔ wp quiet p (Program.post Q fun err => R (f err)) w := by
  unfold SettingsM.orElse
  rw [Program.wpE_adapt, Program.wpE_mk]

theorem wpE_ofExcept_settings {α : Type} {result : Except E α} {Q : α → SettingsWorld → Prop}
    {R : E → SettingsWorld → Prop} :
    wpE quiet (SettingsM.ofExcept result) Q R w ↔ Program.post Q R result w := Iff.rfl

/-- At a quiet moment the config is read. -/
theorem wp_readConfig {Q : Except IoError (Option (List UInt8)) → SettingsWorld → Prop}
    (h : Q (.ok w.config) w) : wp quiet SettingsProgram.readConfig Q w :=
  wp_quiet_attempt (fun _ hm => hm.attempt w.config w) h

/-- At a quiet moment the declarations are read. -/
theorem wp_loadDeclarations {Q : Except IoError (Option Declarations) → SettingsWorld → Prop}
    (h : Q (.ok w.declarations) w) : wp quiet SettingsProgram.loadDeclarations Q w :=
  wp_quiet_attempt (fun _ hm => hm.attempt w.declarations w) h

end Rules

/-! ## Writers -/

section Writers

variable {w : SettingsWorld}

/-- What the guard says of new bytes. -/
def SettingsWorld.guard (w : SettingsWorld) (contents : List UInt8) : Except IoError Unit :=
  Settings.validateChanges w.declarations (w.config.getD []) contents

/-- The validation returns what the guard of the world says. -/
theorem wpE_validateChanges {contents : List UInt8} {Q : Unit → SettingsWorld → Prop}
    {R : IoError → SettingsWorld → Prop}
    (h : Program.post Q R (w.guard contents) w) :
    wpE quiet (ConfigPlace.validateChanges (w.config.getD []) contents) Q R w := by
  refine Program.wpE_bind.mpr (wp_loadDeclarations ?_)
  exact h

/-- A staged text is published where the guard lets it. -/
theorem wpE_publishStaged {contents : List UInt8} (hstaged : w.staged = some contents) :
    wpE quiet (ConfigPlace.publishStaged contents)
      (fun _ w' => w.guard contents = .ok ()
        ∧ w' = { w with config := some contents, staged := none })
      (fun err w' => w.guard contents = .error err ∧ w' = w) w := by
  refine Program.wpE_bind.mpr (wp_readConfig ?_)
  refine Program.wpE_bind.mpr (wpE_validateChanges ?_)
  cases hresult : w.guard contents with
  | error err => exact ⟨rfl, rfl⟩
  | ok u =>
    have hpublish : ∀ m : SettingsMoment, m.Quiet → w.answer m .publish
        = (.ok (), { w with config := some contents, staged := none }) := by
      intro m hm
      show m.attempt w (match w.staged with
        | some contents => .ok ((), { w with config := some contents, staged := none })
        | none => .error SettingsWorld.notFound) = _
      rw [hstaged]
      exact hm.attempt () _
    exact wp_quiet_attempt hpublish ⟨rfl, rfl⟩

/-- The bytes are all there, or nothing has happened. -/
theorem wpE_atomicWriteConfig (hstaged : w.staged = none) (contents : List UInt8) :
    wpE quiet (ConfigPlace.atomicWriteConfig contents)
      (fun _ w' => w.guard contents = .ok () ∧ w' = { w with config := some contents })
      (fun err w' => w.guard contents = .error err ∧ w' = w) w := by
  have hself : { w with staged := none } = w := by rw [← hstaged]
  refine Program.wpE_bind.mpr (wp_quiet_attempt
    (fun _ hm => hm.attempt () { w with staged := some contents }) ?_)
  refine Program.wpE_bind.mpr (Program.wpE_lift.mpr (Program.wp.mono ?_ (wpE_publishStaged rfl)))
  intro result w' hresult
  cases result with
  | error err =>
    obtain ⟨hguard, rfl⟩ := hresult
    refine Program.wpE_bind.mpr (Program.wpE_lift.mpr ?_)
    refine wp_quiet_attempt (fun _ _ => rfl) ?_
    exact ⟨hguard, hself⟩
  | ok u =>
    obtain ⟨hguard, rfl⟩ := hresult
    refine ⟨hguard, ?_⟩
    rw [← hstaged]

/-- Saving an edit under the lock publishes it where the guard lets it. -/
theorem wpE_saveLocked (hstaged : w.staged = none) (editor : ConfigEnvEditor) :
    wpE quiet (ConfigPlace.saveLocked w.config editor)
      (fun _ w' => w.guard (utf8Bytes editor.render) = .ok ()
        ∧ w' = { w with config := some (utf8Bytes editor.render) })
      (fun err w' => w.guard (utf8Bytes editor.render) = .error err ∧ w' = w) w := by
  refine Program.wpE_bind.mpr (wp_readConfig ?_)
  show wpE quiet (if _ then _ else _) _ _ w
  rw [if_neg (not_not.2 rfl)]
  refine Program.wpE_bind.mpr (wpE_validateChanges ?_)
  cases hresult : w.guard (utf8Bytes editor.render) with
  | error err => exact ⟨rfl, rfl⟩
  | ok u =>
    refine Program.wpE.mono (fun _ _ h => ⟨rfl, h.2⟩) (fun err _ h => ⟨?_, h.2⟩)
      (wpE_atomicWriteConfig hstaged _)
    rw [← hresult]
    exact h.1

/-- What is done under the lock, with the lock given back. -/
theorem wpE_locked {E α : Type} {f : IoError → E} {body : SettingsM E α}
    {Q : α → SettingsWorld → Prop} {R : E → SettingsWorld → Prop} (hlocked : w.locked = false)
    (h : wpE quiet body (fun a w' => Q a { w' with locked := false })
      (fun err w' => R err { w' with locked := false }) { w with locked := true }) :
    wpE quiet (SettingsM.locked f body) Q R w := by
  have hlock : ∀ m : SettingsMoment, m.Quiet →
      w.answer m .lock = (.ok (), { w with locked := true }) := by
    intro m hm
    show m.attempt w (if w.locked then _ else _) = _
    rw [hlocked]
    exact hm.attempt () _
  refine Program.wpE_bind.mpr (wpE_orElse_settings.mpr (wp_quiet_attempt hlock ?_))
  refine Program.wpE_bind.mpr (Program.wpE_lift.mpr (Program.wp.mono ?_ h))
  intro result w' hresult
  refine Program.wpE_bind.mpr (Program.wpE_lift.mpr (wp_quiet_attempt (fun _ _ => rfl) ?_))
  cases result with
  | ok a => exact hresult
  | error err => exact hresult

end Writers

/-! ## Persisting -/

namespace ConfigPlace

variable (place : ConfigPlace) (mutation : SettingsMutation)

/-- What a mutation makes of a config that it may change. -/
structure Edits (w : SettingsWorld) (text : Text) (edit : Bool × ConfigEnvEditor) : Prop where
  mutable : Settings.ensureMutable w.declarations mutation.definition.key = .ok ()
  contents : place.textOf w.config = .ok text
  lines : mutation.edit (ConfigEnvEditor.parse text) = .ok edit
  guard : edit.1 = true → w.guard (utf8Bytes edit.2.render) = .ok ()

/-- What is reported then. -/
def changeOf (w : SettingsWorld) (edit : Bool × ConfigEnvEditor) : SettingsChange where
  mutation := mutation
  fileChanged := edit.1
  effective := mutation.effective
  original := w.config
  published := some (utf8Bytes edit.2.render)

/-- And the world. -/
def editedWorld (w : SettingsWorld) (edit : Bool × ConfigEnvEditor) : SettingsWorld :=
  if edit.1 then { w with config := some (utf8Bytes edit.2.render) } else w

variable {place mutation} {w : SettingsWorld}

/-- A mutation persisted under the lock either edits the world or leaves it as it was. -/
theorem wpE_persistLocked (hstaged : w.staged = none) :
    wpE quiet (place.persistLocked mutation)
      (fun change w' => ∃ text edit, place.Edits mutation w text edit
        ∧ change = changeOf mutation w edit ∧ w' = editedWorld w edit)
      (fun _ w' => w' = w ∧ ¬ ∃ text edit, place.Edits mutation w text edit) w := by
  refine Program.wpE_bind.mpr (Program.wpE_bind.mpr (wpE_orElse_settings.mpr
    (wp_loadDeclarations ?_)))
  show wpE quiet (SettingsM.ofExcept _) _ _ w
  rw [wpE_ofExcept_settings]
  -- each check that fails leaves the world, and there is no edit then
  cases hmutable : Settings.ensureMutable w.declarations mutation.definition.key with
  | error err =>
    refine ⟨rfl, ?_⟩
    rintro ⟨text, edit, hedits⟩
    rw [hedits.mutable] at hmutable
    cases hmutable
  | ok u =>
  refine Program.wpE_bind.mpr (wpE_orElse_settings.mpr (wp_readConfig ?_))
  refine Program.wpE_bind.mpr (wpE_ofExcept_settings.mpr ?_)
  cases htext : place.textOf w.config with
  | error err =>
    refine ⟨rfl, ?_⟩
    rintro ⟨text, edit, hedits⟩
    rw [hedits.contents] at htext
    cases htext
  | ok text =>
  refine Program.wpE_bind.mpr (wpE_ofExcept_settings.mpr ?_)
  cases hedit : mutation.edit (ConfigEnvEditor.parse text) with
  | error err =>
    refine ⟨rfl, ?_⟩
    rintro ⟨text', edit, hedits⟩
    have hsame := hedits.contents
    rw [htext, Except.ok.injEq] at hsame
    rw [hsame, hedits.lines] at hedit
    cases hedit
  | ok edit =>
  show wpE quiet (if edit.1 = true then _ else _) _ _ w
  -- an edit that changes nothing is not saved
  by_cases hchanged : edit.1 = true
  · rw [if_pos hchanged]
    refine Program.wpE_bind.mpr (Program.wpE_adapt.mpr
      (Program.wpE.mono ?_ ?_ (wpE_saveLocked hstaged edit.2)))
    · rintro - w' ⟨hguard, rfl⟩
      refine ⟨text, edit, ⟨hmutable, htext, hedit, fun _ => hguard⟩, rfl, ?_⟩
      unfold editedWorld
      rw [if_pos hchanged]
    · rintro err w' ⟨hguard, rfl⟩
      refine ⟨rfl, ?_⟩
      rintro ⟨text', edit', hedits⟩
      have hsame := hedits.contents
      rw [htext, Except.ok.injEq] at hsame
      have hsame' := hedits.lines
      rw [← hsame, hedit, Except.ok.injEq] at hsame'
      subst hsame'
      rw [hedits.guard hchanged] at hguard
      cases hguard
  · rw [if_neg hchanged]
    refine ⟨text, edit, ⟨hmutable, htext, hedit, fun h => absurd h hchanged⟩, rfl, ?_⟩
    unfold editedWorld
    rw [if_neg hchanged]

/-- **A mutation that is persisted**, or refused with nothing done. -/
theorem wpE_persistSettingsMutation (hlocked : w.locked = false) (hstaged : w.staged = none) :
    wpE quiet (place.persistSettingsMutation mutation)
      (fun change w' => ∃ text edit, place.Edits mutation w text edit
        ∧ change = changeOf mutation w edit ∧ w' = editedWorld w edit)
      (fun _ w' => w' = w ∧ ¬ ∃ text edit, place.Edits mutation w text edit) w := by
  have hedits {text edit} : place.Edits mutation { w with locked := true } text edit
      ↔ place.Edits mutation w text edit :=
    ⟨fun h => ⟨h.mutable, h.contents, h.lines, h.guard⟩, fun h => ⟨h.mutable, h.contents, h.lines, h.guard⟩⟩
  have hself : { w with locked := false } = w := by rw [← hlocked]
  refine wpE_locked hlocked (Program.wpE.mono ?_ ?_ (wpE_persistLocked hstaged))
  · rintro change w' ⟨text, edit, h, rfl, rfl⟩
    refine ⟨text, edit, hedits.1 h, rfl, ?_⟩
    unfold editedWorld
    split
    · rw [← hlocked]
    · exact hself
  · rintro err w' ⟨rfl, h⟩
    exact ⟨hself, fun ⟨text, edit, hthere⟩ => h ⟨text, edit, hedits.2 hthere⟩⟩

end ConfigPlace

end LgBuddy.Settings
