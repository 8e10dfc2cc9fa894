import LgBuddy.Lifecycle.LockObserver

/-!
# LgBuddy — the signals a lock observer is to believe

Which messages of the bus speak of logind and of the session's hint is said here by their sender,
path, interface, member and body alone.

* `AnnouncesLogind` — the bus says who owns logind's name now;
* `HintEntry`, `HintChange` — what the property lists of a change say of the hint;
* `SaysHint` — a change of that session's hint, sent by that owner;
* `logindOwnerChanged_iff`, `mapLockedHintChange_iff` — the code believes these and no others.
-/

namespace LgBuddy

/-! ## The owner of logind's name -/

/-- The bus itself says that logind's name has a new owner, or none if the text is empty. -/
structure AnnouncesLogind (signal : BusSignal) (newOwner : Option String) : Prop where
  sender : signal.sender = some dbusServiceName
  path : signal.path = dbusObjectPath
  interface : signal.interface = dbusInterface
  member : signal.member = "NameOwnerChanged"
  body : ∃ oldName newName,
    signal.body = [.string logindServiceName, .string oldName, .string newName]
      ∧ newOwner = if newName = "" then none else some newName

theorem logindOwnerChanged_iff {signal : BusSignal} {newOwner : Option String} :
    logindOwnerChanged signal = some newOwner ↔ AnnouncesLogind signal newOwner := by
  unfold logindOwnerChanged
  constructor
  · intro h
    split at h
    · cases h
    · rename_i hsender
      cases hparse : parseNameOwnerChangedSignal signal with
      | none =>
        rw [hparse] at h
        cases h
      | some change =>
        obtain ⟨hpath, hinterface, hmember, oldName, newName, hbody, -, hnew⟩ :=
          parseNameOwnerChangedSignal_eq_some.mp hparse
        rw [hparse] at h
        dsimp only at h
        split at h
        · cases h
        · rename_i hname
          rw [not_not.mp hname] at hbody
          exact ⟨not_not.mp hsender, hpath, hinterface, hmember, oldName, newName, hbody,
            (Option.some.inj h).symm.trans hnew⟩
  · intro h
    obtain ⟨oldName, newName, hbody, hnew⟩ := h.body
    have hparse : parseNameOwnerChangedSignal signal
        = some ⟨logindServiceName, normalizeDbusOwner oldName, normalizeDbusOwner newName⟩ :=
      parseNameOwnerChangedSignal_eq_some.mpr
        ⟨h.path, h.interface, h.member, oldName, newName, hbody, rfl, rfl⟩
    rw [if_neg (not_not.mpr h.sender), hparse, hnew]
    dsimp only
    rw [if_neg (not_not.mpr rfl), normalizeDbusOwner]

/-- One announcement says one thing. -/
theorem AnnouncesLogind.unique {signal : BusSignal} {newOwner newOwner' : Option String}
    (h : AnnouncesLogind signal newOwner) (h' : AnnouncesLogind signal newOwner') :
    newOwner = newOwner' :=
  Option.some.inj ((logindOwnerChanged_iff.mpr h).symm.trans (logindOwnerChanged_iff.mpr h'))

/-! ## The hint in a change of properties -/

/-- The first entry of the hint's name has this value. -/
def HintEntry (changed : List (BusValue × BusValue)) (value : BusValue) : Prop :=
  ∃ before after, changed = before ++ (.string "LockedHint", value) :: after
    ∧ ∀ entry ∈ before, entry.1 ≠ .string "LockedHint"

/-- No entry has the hint's name. -/
def HintFree (changed : List (BusValue × BusValue)) : Prop :=
  ∀ entry ∈ changed, entry.1 ≠ .string "LockedHint"

/-- An entry of another name is passed over. -/
theorem lockedHintEntry_cons_of_ne {entry : BusValue × BusValue}
    (hname : entry.1 ≠ .string "LockedHint") (rest : List (BusValue × BusValue)) :
    lockedHintEntry (entry :: rest) = lockedHintEntry rest := by
  obtain ⟨key, value⟩ := entry
  cases key with
  | string name =>
    have hother : name ≠ "LockedHint" := fun heq => hname (by rw [heq])
    exact if_neg hother
  | _ => rfl

theorem lockedHintEntry_eq_some {changed : List (BusValue × BusValue)} {value : BusValue} :
    lockedHintEntry changed = some value ↔ HintEntry changed value := by
  induction changed with
  | nil =>
    refine ⟨nofun, fun h => ?_⟩
    obtain ⟨before, after, hnil, -⟩ := h
    cases before <;> cases hnil
  | cons entry rest ih =>
    -- the first entry of that name decides, the others are passed over
    by_cases hname : entry.1 = .string "LockedHint"
    · obtain ⟨key, first⟩ := entry
      cases hname
      show some first = some value ↔ _
      constructor
      · intro h
        cases h
        exact ⟨[], rest, rfl, List.forall_mem_nil _⟩
      · intro h
        obtain ⟨before, after, hsplit, hbefore⟩ := h
        cases before with
        | nil =>
          cases hsplit
          rfl
        | cons other before =>
          obtain ⟨rfl, -⟩ := List.cons.inj hsplit
          exact absurd rfl (hbefore _ List.mem_cons_self)
    · rw [lockedHintEntry_cons_of_ne hname, ih]
      constructor
      · intro h
        obtain ⟨before, after, rfl, hbefore⟩ := h
        exact ⟨entry :: before, after, rfl, List.forall_mem_cons.mpr ⟨hname, hbefore⟩⟩
      · intro h
        obtain ⟨before, after, hsplit, hbefore⟩ := h
        cases before with
        | nil =>
          cases hsplit
          exact absurd rfl hname
        | cons other before =>
          obtain ⟨rfl, rfl⟩ := List.cons.inj hsplit
          exact ⟨before, after, rfl, (List.forall_mem_cons.mp hbefore).2⟩

theorem lockedHintEntry_eq_none {changed : List (BusValue × BusValue)} :
    lockedHintEntry changed = none ↔ HintFree changed := by
  induction changed with
  | nil => exact ⟨fun _ => List.forall_mem_nil _, fun _ => rfl⟩
  | cons entry rest ih =>
    unfold HintFree
    rw [List.forall_mem_cons]
    by_cases hname : entry.1 = .string "LockedHint"
    · obtain ⟨key, first⟩ := entry
      cases hname
      exact ⟨nofun, fun h => absurd rfl h.1⟩
    · rw [lockedHintEntry_cons_of_ne hname, ih]
      exact ⟨fun h => ⟨hname, h⟩, fun h => h.2⟩

theorem any_isLockedHint {invalidated : List BusValue} :
    invalidated.any BusValue.isLockedHint = true ↔ .string "LockedHint" ∈ invalidated := by
  rw [List.any_eq_true]
  constructor
  · intro h
    obtain ⟨value, hvalue, hhint⟩ := h
    cases value with
    | string name =>
      have hname : name = "LockedHint" := of_decide_eq_true hhint
      rw [← hname]
      exact hvalue
    | _ => cases hhint
  · intro h
    exact ⟨_, h, rfl⟩

/-- What the two property lists say of the hint: its new value, or that it is to be read. -/
def HintChange (changed : List (BusValue × BusValue)) (invalidated : List BusValue) :
    LockedHintChange → Prop
  | .changed locked =>
    HintEntry changed (.variant (.bool locked)) ∨ HintEntry changed (.bool locked)
  | .invalidated => HintFree changed ∧ .string "LockedHint" ∈ invalidated

/-! ## Changes that are believed -/

/-- A change of the session's hint, sent by the owner of logind's name. -/
structure SaysHint (logindOwner sessionPath : String) (signal : BusSignal)
    (change : LockedHintChange) : Prop where
  sender : signal.sender = some logindOwner
  path : signal.path = sessionPath
  interface : signal.interface = dbusPropertiesInterface
  member : signal.member = "PropertiesChanged"
  body : ∃ changed invalidated,
    signal.body = [.string logindSessionInterface, .dict changed, .array invalidated]
      ∧ HintChange changed invalidated change

theorem mapLockedHintChange_iff {signal : BusSignal} {session : LogindSession}
    {logindOwner : String} {change : LockedHintChange} :
    mapLockedHintChange signal session logindOwner = some change ↔
      SaysHint logindOwner session.path signal change := by
  unfold mapLockedHintChange
  constructor
  · intro h
    split at h
    · cases h
    · rename_i hheader
      simp only [ne_eq, not_or, not_not] at hheader
      -- the four tests of the header
      obtain ⟨hsender, hpath, hinterface, hmember⟩ := hheader
      refine ⟨hsender, hpath, hinterface, hmember, ?_⟩
      split at h
      · rename_i interface changed invalidated hbody
        split at h
        · cases h
        · rename_i hsession
          rw [not_not.mp hsession] at hbody
          refine ⟨changed, invalidated, hbody, ?_⟩
          split at h
          · rename_i locked hentry
            cases h
            exact .inl (lockedHintEntry_eq_some.mp hentry)
          · cases h
          · rename_i locked hentry
            cases h
            exact .inr (lockedHintEntry_eq_some.mp hentry)
          · cases h
          -- without an entry only the invalidated names are left to say so
          · rename_i hentry
            split at h
            · rename_i hinvalidated
              cases h
              exact ⟨lockedHintEntry_eq_none.mp hentry, any_isLockedHint.mp hinvalidated⟩
            · cases h
      · cases h
  · intro h
    obtain ⟨changed, invalidated, hbody, hchange⟩ := h.body
    have hheader : ¬(signal.sender ≠ some logindOwner ∨ signal.path ≠ session.path
        ∨ signal.interface ≠ dbusPropertiesInterface ∨ signal.member ≠ "PropertiesChanged") := by
      simp only [ne_eq, not_or, not_not]
      exact ⟨h.sender, h.path, h.interface, h.member⟩
    rw [if_neg hheader, hbody]
    dsimp only
    rw [if_neg (not_not.mpr rfl)]
    -- the other way: the body says which branch is taken
    cases change with
    | changed locked =>
      cases hchange with
      | inl hentry => rw [lockedHintEntry_eq_some.mpr hentry]
      | inr hentry => rw [lockedHintEntry_eq_some.mpr hentry]
    | invalidated =>
      rw [lockedHintEntry_eq_none.mpr hchange.1]
      exact if_pos (any_isLockedHint.mpr hchange.2)

/-- One message says one thing of the hint. -/
theorem SaysHint.unique {logindOwner sessionPath : String} {signal : BusSignal}
    {change change' : LockedHintChange} (h : SaysHint logindOwner sessionPath signal change)
    (h' : SaysHint logindOwner sessionPath signal change') : change = change' := by
  have hread : mapLockedHintChange signal ⟨"", sessionPath⟩ logindOwner = some change :=
    mapLockedHintChange_iff.mpr h
  have hread' : mapLockedHintChange signal ⟨"", sessionPath⟩ logindOwner = some change' :=
    mapLockedHintChange_iff.mpr h'
  exact Option.some.inj (hread.symm.trans hread')

/-- A sleep signal is no change of the hint. -/
theorem mapLockedHintChange_of_sleep {signal : BusSignal}
    (hsleep : (mapPrepareForSleepSignal signal).isSome = true) (session : LogindSession)
    (logindOwner : String) : mapLockedHintChange signal session logindOwner = none := by
  cases h : mapLockedHintChange signal session logindOwner with
  | none => rfl
  | some change =>
    have hmember := (mapLockedHintChange_iff.mp h).member
    unfold mapPrepareForSleepSignal at hsleep
    rw [if_pos (.inr (.inr (by rw [hmember]; decide)))] at hsleep
    cases hsleep

end LgBuddy
