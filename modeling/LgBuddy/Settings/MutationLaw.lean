import LgBuddy.Machine.Fallible
import LgBuddy.Settings.Editing
import LgBuddy.Settings.StoreRun

/-!
# LgBuddy — a mutation changes its setting and nothing else

The editor of the lines, the reader of the entries and the store of the settings agree about what
a mutation does.

* `SettingsMutation.Proper` — what every mutation is that `set` and `unset` make;
* `edit_entries`, `edit_lines` — what an edit does to the entries and to the lines;
* `edit_again` — the same edit once more does nothing;
* `effective_of_edit` — what the settings are afterwards;
* `ChangesExactly`, `settings_mutation_changes_its_setting` — the law of a run.
-/

namespace LgBuddy.Settings

open Str (isWhitespace lines utf8Bytes)

/-! ## The registry -/

/-- Every storage key of the registry is a plain key and no fallback of its own setting. -/
theorem registry_plainKeys : ∀ definition ∈ settingsRegistry,
    PlainKey definition.storageKey.toList ∧ definition.storageKey.toList ≠ []
      ∧ definition.storageKey ∉ definition.fallbackStorageKeys := by
  decide +kernel

/-- No two settings are stored under one key. -/
theorem registry_keys_disjoint : ∀ definition ∈ settingsRegistry, ∀ other ∈ settingsRegistry,
    other ≠ definition → ∀ key ∈ other.storageKeys, key ∉ definition.storageKeys := by
  decide +kernel

/-- A setting found by its name is one of the registry. -/
theorem getByName_mem {key : Text} {definition : SettingDefinition}
    (h : getByName key = .ok definition) : definition ∈ settingsRegistry := by
  unfold getByName at h
  split at h
  · cases h
  · split at h
    · rename_i hfound
      rw [← Except.ok.inj h]
      exact List.mem_of_find?_eq_some hfound
    · cases h

namespace SettingsMutation

/-! ## Mutations -/

/-- What every mutation is that `set` and `unset` make. -/
structure Proper (mutation : SettingsMutation) : Prop where
  known : mutation.definition ∈ settingsRegistry
  value : mutation.action = .set →
    ∃ value, mutation.newValue = some value ∧ mutation.definition.Admits value
  default : mutation.action = .unset → mutation.newValue = mutation.definition.defaultValue

/-- The mutation of an accepted set command is proper. -/
theorem proper_of_set {store : SettingsStore} {key value : Text} {mutation : SettingsMutation}
    (h : set store key value = .ok mutation) : mutation.Proper := by
  obtain ⟨definition, hdefinition, h⟩ := Fallible.bind_ok.1 h
  obtain ⟨-, -, h⟩ := Fallible.bind_ok.1 h
  have hknown := getByName_mem hdefinition
  dsimp only at h
  split at h
  · cases h
  · obtain ⟨newValue, hvalue, h⟩ := Fallible.bind_ok.1 h
    cases h
    exact ⟨hknown, fun _ => ⟨newValue, rfl, admits_of_parseValue hknown hvalue⟩, nofun⟩

/-- The mutation of an accepted unset command is proper. -/
theorem proper_of_unset {store : SettingsStore} {key : Text} {mutation : SettingsMutation}
    (h : unset store key = .ok mutation) : mutation.Proper := by
  obtain ⟨definition, hdefinition, h⟩ := Fallible.bind_ok.1 h
  obtain ⟨-, -, h⟩ := Fallible.bind_ok.1 h
  have hknown := getByName_mem hdefinition
  dsimp only at h
  split at h
  · cases h
  · cases h
    exact ⟨hknown, nofun, fun _ => rfl⟩

/-- What is stored afterwards. -/
def storedValue (mutation : SettingsMutation) : Option Text :=
  match mutation.action with
  | .set => mutation.newValue.map SettingValue.text
  | .unset => none

/-- The lines with a value set. -/
def SetsLine (key value : Text) (before after : List Text) : Prop :=
  (∃ front old new back, before = front ++ old :: back ∧ after = front ++ new :: back
    ∧ Rewritten key value old new ∧ ∀ other ∈ back, configLineKey other ≠ some key)
  ∨ (∀ line ∈ before, configLineKey line ≠ some key) ∧ after = before ++ [key ++ '=' :: value]

/-- The line of the setting is rewritten or added, or all of them are left out, and lines with its
older keys are left out; the others are as they were. -/
def KeepsLines (mutation : SettingsMutation) (before after : List Text) : Prop :=
  match mutation.storedValue with
  | some value => ∃ middle, SetsLine mutation.definition.storageKey.toList value before middle
    ∧ after = middle.filter (ConfigEnvEditor.lacks mutation.definition.fallbackStorageKeys)
  | none => after = before.filter (ConfigEnvEditor.lacks mutation.definition.storageKeys)

section Edits

variable {mutation : SettingsMutation} {editor : ConfigEnvEditor} {edit : Bool × ConfigEnvEditor}

/-- The two ways of an edit. -/
theorem Proper.edit_cases (h : mutation.Proper) (editor : ConfigEnvEditor) :
    (∃ value, mutation.storedValue = some value ∧ PlainValue value
      ∧ mutation.edit editor = .ok (ConfigEnvEditor.unsetAll
        (editor.setChanges mutation.definition.storageKey.toList value,
          editor.set mutation.definition.storageKey.toList value)
        mutation.definition.fallbackStorageKeys))
    ∨ mutation.storedValue = none
      ∧ mutation.edit editor
        = .ok (ConfigEnvEditor.unsetAll (false, editor) mutation.definition.storageKeys) := by
  cases haction : mutation.action with
  | set =>
    obtain ⟨value, hvalue, hadmits⟩ := h.value haction
    left
    refine ⟨value.text, ?_, hadmits.plain, ?_⟩
    · rw [storedValue, haction, hvalue]
      rfl
    · rw [SettingsMutation.edit, haction, requiredNewValue, hvalue]
      rfl
  | unset =>
    right
    refine ⟨?_, ?_⟩
    · rw [storedValue, haction]
    · rw [SettingsMutation.edit, haction]
      rfl

/-- **The entries after an edit.** -/
theorem Proper.edit_entries (h : mutation.Proper) (hedit : mutation.edit editor = .ok edit)
    (key : String) :
    entryValue (edit.2.lines.filterMap configEntry) key
      = if key = mutation.definition.storageKey then mutation.storedValue
        else if key ∈ mutation.definition.fallbackStorageKeys then none
        else entryValue (editor.lines.filterMap configEntry) key := by
  obtain ⟨hkey, hne, hnotMem⟩ := registry_plainKeys _ h.known
  rcases h.edit_cases editor with ⟨value, hstored, hvalue, heq⟩ | ⟨hstored, heq⟩
  · rw [heq, Except.ok.injEq] at hedit
    rw [← hedit, ConfigEnvEditor.unsetAll_lines, ConfigEnvEditor.entryValue_lacks,
      ConfigEnvEditor.entryValue_set hkey hne hvalue, hstored]
    by_cases hsame : key = mutation.definition.storageKey
    · rw [if_pos hsame, if_pos hsame, if_neg (hsame ▸ hnotMem)]
    · rw [if_neg hsame, if_neg hsame]
  · rw [heq, Except.ok.injEq] at hedit
    rw [← hedit, ConfigEnvEditor.unsetAll_lines, ConfigEnvEditor.entryValue_lacks, hstored]
    by_cases hsame : key = mutation.definition.storageKey
    · have hmem : mutation.definition.storageKey ∈ mutation.definition.storageKeys := .head _
      rw [if_pos hsame, hsame, if_pos hmem]
    · rw [if_neg hsame]
      simp only [SettingDefinition.storageKeys, List.mem_cons, hsame, false_or]

/-- Setting a key rewrites its last line, or adds one where there is none. -/
theorem setsLine_set {key : Text} (hkey : PlainKey key) (hne : key ≠ [])
    (editor : ConfigEnvEditor) (value : Text) :
    SetsLine key value editor.lines (editor.set key value).lines := by
  rcases editor.set_cases key value with
    ⟨hall, hlines, -⟩ | ⟨front, line, back, hold, hline, hback, hlines, -⟩
  · exact .inr ⟨hall, hlines⟩
  · exact .inl ⟨front, line, _, back, hold, hlines, rewritten_replace hkey hne hline, hback⟩

/-- **The lines after an edit.** -/
theorem Proper.edit_lines (h : mutation.Proper) (hedit : mutation.edit editor = .ok edit) :
    KeepsLines mutation editor.lines edit.2.lines := by
  obtain ⟨hkey, hne, -⟩ := registry_plainKeys _ h.known
  unfold KeepsLines
  rcases h.edit_cases editor with ⟨value, hstored, hvalue, heq⟩ | ⟨hstored, heq⟩
  · rw [heq, Except.ok.injEq] at hedit
    rw [← hedit, hstored]
    exact ⟨_, setsLine_set hkey hne editor value, ConfigEnvEditor.unsetAll_lines _ _⟩
  · rw [heq, Except.ok.injEq] at hedit
    rw [← hedit, hstored]
    exact ConfigEnvEditor.unsetAll_lines _ _

/-! ## Once more -/

/-- The last line with a key. -/
def lastLine (key : Text) (ls : List Text) : Option Text :=
  (ls.filter fun line => configLineKey line = some key).getLast?

/-- The last line of a key is the one no later line of that key follows. -/
theorem lastLine_of_parts {key line : Text} {front back : List Text}
    (hline : configLineKey line = some key)
    (hback : ∀ other ∈ back, configLineKey other ≠ some key) :
    lastLine key (front ++ line :: back) = some line := by
  have hnone : back.filter (fun other => configLineKey other = some key) = [] :=
    List.filter_eq_nil_iff.2 fun other hother => by simpa using hback other hother
  unfold lastLine
  rw [List.filter_append, List.filter_cons_of_pos (by simpa using hline), hnone,
    List.getLast?_concat]

/-- Reading the lines back gives the last line of a key read back. -/
theorem lastLine_reread (key : Text) (ls : List Text) :
    lastLine key (ls.map rereadLine) = (lastLine key ls).map rereadLine := by
  unfold lastLine
  rw [List.filter_map, List.getLast?_map]
  congr 2
  apply List.filter_congr
  intro line _
  simp [configLineKey_rereadLine]

/-- Removing the lines of other keys keeps the last line of a key. -/
theorem lastLine_lacks {key : String} {keys : List String} (hkey : key ∉ keys) (ls : List Text) :
    lastLine key.toList (ls.filter (ConfigEnvEditor.lacks keys)) = lastLine key.toList ls := by
  unfold lastLine
  rw [List.filter_filter]
  congr 1
  apply List.filter_congr
  intro line _
  by_cases hline : configLineKey line = some key.toList
  · have hlacks : ConfigEnvEditor.lacks keys line = true := by
      rw [ConfigEnvEditor.lacks_iff]
      intro other hother heq
      rw [hline, Option.some.injEq, String.toList_inj] at heq
      exact hkey (heq ▸ hother)
    simp [hline, hlacks]
  · simp [hline]

/-- The line that `set` leaves is as it would write it again. -/
theorem lastLine_set {key value : Text} (hkey : PlainKey key) (hne : key ≠ [])
    (hvalue : PlainValue value) (editor : ConfigEnvEditor) :
    ∃ line, lastLine key (editor.set key value).lines = some line ∧ Written key value line := by
  rcases setsLine_set hkey hne editor value with
    ⟨front, old, new, back, -, hlines, hnew, hback⟩ | ⟨-, hlines⟩
  · refine ⟨new, ?_, hnew.written⟩
    rw [hlines]
    exact lastLine_of_parts (hnew.written.lineKey hkey hvalue) hback
  · refine ⟨_, ?_, written_plain⟩
    rw [hlines]
    exact lastLine_of_parts (written_plain.lineKey hkey hvalue) (List.forall_mem_nil _)

/-- **A line that is written already** is not changed. -/
theorem set_of_written {key value line : Text} (hkey : PlainKey key) (hne : key ≠ [])
    (hvalue : PlainValue value) (hlast : lastLine key editor.lines = some line)
    (hwritten : Written key value line) :
    editor.setChanges key value = false ∧ (editor.set key value).lines = editor.lines := by
  rcases editor.set_cases key value with
    ⟨hall, -, -⟩ | ⟨front, other, back, hold, hother, hback, hlines, hchanges⟩
  · have hmem : line ∈ editor.lines.filter fun line => configLineKey line = some key :=
      List.mem_of_getLast? hlast
    obtain ⟨hline, heq⟩ := List.mem_filter.1 hmem
    exact absurd (of_decide_eq_true heq) (hall line hline)
  · have hsame : other = line := by
      rw [hold, lastLine_of_parts hother hback] at hlast
      exact Option.some.inj hlast
    rw [hsame, hwritten.replace hkey hne hvalue] at hlines hchanges
    refine ⟨by simpa using hchanges, ?_⟩
    rw [hlines, hold, hsame]

/-- A set that changes nothing leaves the lines as they are. -/
theorem set_of_unchanged {key value : Text} (h : editor.setChanges key value = false) :
    (editor.set key value).lines = editor.lines := by
  rcases editor.set_cases key value with
    ⟨-, -, hchanges⟩ | ⟨front, other, back, hold, -, -, hlines, hchanges⟩
  · rw [hchanges] at h
    cases h
  · rw [hchanges, decide_eq_false_iff_not, not_not] at h
    rw [hlines, hold, ← h]

/-- An edit that reports no change makes none. -/
theorem Proper.edit_unchanged (h : mutation.Proper) (hedit : mutation.edit editor = .ok edit)
    (hchanged : edit.1 = false) : edit.2.lines = editor.lines := by
  rcases h.edit_cases editor with ⟨value, -, -, heq⟩ | ⟨-, heq⟩
  · rw [heq, Except.ok.injEq] at hedit
    rw [← hedit] at hchanged ⊢
    obtain ⟨hset, hall⟩ := (ConfigEnvEditor.unsetAll_changes _ _).1 hchanged
    rw [ConfigEnvEditor.unsetAll_lines, List.filter_eq_self.2 hall]
    exact set_of_unchanged hset
  · rw [heq, Except.ok.injEq] at hedit
    rw [← hedit] at hchanged ⊢
    obtain ⟨-, hall⟩ := (ConfigEnvEditor.unsetAll_changes _ _).1 hchanged
    rw [ConfigEnvEditor.unsetAll_lines, List.filter_eq_self.2 hall]

/-- **The same edit once more**, of the lines as they are read back. -/
theorem Proper.edit_again (h : mutation.Proper) (hedit : mutation.edit editor = .ok edit)
    {editor' : ConfigEnvEditor} (hlines : editor'.lines = edit.2.lines.map rereadLine) :
    ∃ again, mutation.edit editor' = .ok again ∧ again.1 = false := by
  obtain ⟨hkey, hne, hnotMem⟩ := registry_plainKeys _ h.known
  -- no line of the keys removed is left to remove
  have hlacks {keys : List String} {ls : List Text} :
      ∀ line ∈ (ls.filter (ConfigEnvEditor.lacks keys)).map rereadLine,
        ConfigEnvEditor.lacks keys line = true := by
    intro line hline
    obtain ⟨old, hold, rfl⟩ := List.mem_map.1 hline
    have hold' := ConfigEnvEditor.lacks_iff.1 (List.mem_filter.1 hold).2
    rw [ConfigEnvEditor.lacks_iff]
    intro key hkey
    rw [configLineKey_rereadLine]
    exact hold' key hkey
  rcases h.edit_cases editor with ⟨value, hstored, hvalue, heq⟩ | ⟨hstored, heq⟩
  · rw [heq, Except.ok.injEq] at hedit
    rw [← hedit, ConfigEnvEditor.unsetAll_lines] at hlines
    rcases h.edit_cases editor' with ⟨value', hstored', -, heq'⟩ | ⟨hnone, -⟩
    · obtain rfl : value = value' := by rw [hstored] at hstored'; exact Option.some.inj hstored'
      obtain ⟨line, hlast, hwritten⟩ := lastLine_set hkey hne hvalue editor
      -- the line set is the last one of its key when it is read again
      have hlast' : lastLine mutation.definition.storageKey.toList editor'.lines
          = some (rereadLine line) := by
        rw [hlines, lastLine_reread, lastLine_lacks hnotMem, hlast]
        rfl
      obtain ⟨hchanges, hsame⟩ := set_of_written hkey hne hvalue hlast' (hwritten.reread hvalue)
      refine ⟨_, heq', ?_⟩
      rw [ConfigEnvEditor.unsetAll_changes]
      refine ⟨hchanges, ?_⟩
      dsimp only
      rw [hsame, hlines]
      exact hlacks
    · rw [hstored] at hnone
      cases hnone
  · rw [heq, Except.ok.injEq] at hedit
    rw [← hedit, ConfigEnvEditor.unsetAll_lines] at hlines
    rcases h.edit_cases editor' with ⟨value, hsome, -, -⟩ | ⟨-, heq'⟩
    · rw [hstored] at hsome
      cases hsome
    · refine ⟨_, heq', ?_⟩
      rw [ConfigEnvEditor.unsetAll_changes]
      refine ⟨rfl, ?_⟩
      dsimp only
      rw [hlines]
      exact hlacks

end Edits

end SettingsMutation

/-! ## The settings afterwards -/

/-- A setting is told by the entries of its keys. -/
theorem effectiveDefinition_congr {store store' : SettingsStore} {definition : SettingDefinition}
    (hdeclarations : store.declarations = store'.declarations)
    (hkeys : ∀ key ∈ definition.storageKeys,
      entryValue store.entries key = entryValue store'.entries key) :
    store.effectiveDefinition definition = store'.effectiveDefinition definition := by
  have hfallback : definition.fallbackStorageKeys.findSome? (entryValue store.entries)
      = definition.fallbackStorageKeys.findSome? (entryValue store'.entries) := by
    have htail : ∀ key ∈ definition.fallbackStorageKeys,
        entryValue store.entries key = entryValue store'.entries key :=
      fun key hkey => hkeys key (.tail _ hkey)
    generalize definition.fallbackStorageKeys = keys at htail ⊢
    induction keys with
    | nil => rfl
    | cons key keys ih =>
      rw [List.findSome?_cons, List.findSome?_cons, htail key (.head _),
        ih fun other hother => htail other (.tail _ hother)]
  unfold SettingsStore.effectiveDefinition SettingsStore.rawSettingValue
  rw [hdeclarations, hkeys _ (.head _), hfallback]

/-- A setting that may be changed is not declared. -/
theorem undeclared_of_mutable {declarations : Option Declarations} {key : String}
    (h : ensureMutable declarations key = .ok ()) :
    (declarations.bind fun declared => (declared.value key).map fun value => (declared, value))
      = none := by
  unfold ensureMutable at h
  cases declarations with
  | none => rfl
  | some declared =>
    dsimp only at h
    split at h
    · cases h
    · rename_i hnone
      rw [Option.not_isSome_iff_eq_none] at hnone
      rw [Option.bind_some, hnone]
      rfl

namespace SettingsMutation

variable {mutation : SettingsMutation} {declarations : Option Declarations}

/-- **The setting is as the change reports it.** -/
theorem Proper.effective (h : mutation.Proper)
    (hmutable : ensureMutable declarations mutation.definition.key = .ok ()) {after : Text}
    (hentries : ∀ key ∈ mutation.definition.storageKeys, entryValue (parseConfigEntries after) key
      = if key = mutation.definition.storageKey then mutation.storedValue else none) :
    (SettingsStore.ofText after declarations).effectiveDefinition mutation.definition
      = mutation.effective := by
  obtain ⟨-, -, hnotMem⟩ := registry_plainKeys _ h.known
  have hkey := hentries _ (.head _)
  rw [if_pos rfl] at hkey
  -- a declared setting cannot be mutated, so the file decides
  have hundeclared := undeclared_of_mutable hmutable
  unfold SettingsStore.effectiveDefinition SettingsStore.ofText
  dsimp only
  rw [hundeclared]
  dsimp only
  cases haction : mutation.action with
  | set =>
    obtain ⟨value, hvalue, hadmits⟩ := h.value haction
    have hraw : (⟨parseConfigEntries after, declarations⟩ : SettingsStore).rawSettingValue
        mutation.definition = some (value.text, .configEnv) := by
      unfold SettingsStore.rawSettingValue
      dsimp only
      rw [hkey, storedValue, haction, hvalue]
      rfl
    rw [hraw]
    dsimp only
    rw [hadmits.read]
    dsimp only
    rw [SettingsMutation.effective, haction, hvalue]
  | unset =>
    have hraw : (⟨parseConfigEntries after, declarations⟩ : SettingsStore).rawSettingValue
        mutation.definition = none := by
      -- an unset removed the fallback keys as well
      have hnone : mutation.definition.fallbackStorageKeys.findSome?
          (entryValue (parseConfigEntries after)) = none := by
        rw [List.findSome?_eq_none_iff]
        intro key hfallback
        have hother : key ≠ mutation.definition.storageKey := by
          rintro rfl
          exact hnotMem hfallback
        rw [hentries key (.tail _ hfallback), if_neg hother]
      unfold SettingsStore.rawSettingValue
      dsimp only
      rw [hkey, storedValue, haction, hnone]
      rfl
    rw [hraw]
    dsimp only
    rw [SettingsMutation.effective, haction, h.default haction]
    cases mutation.definition.defaultValue with
    | none => rfl
    | some value => rfl

/-! ## The text afterwards -/

/-- **A mutation changes its setting and nothing else.** -/
structure ChangesExactly (mutation : SettingsMutation) (declarations : Option Declarations)
    (change : SettingsChange) (before after : Text) : Prop where
  entries : ∀ key, entryValue (parseConfigEntries after) key
    = if key = mutation.definition.storageKey then mutation.storedValue
      else if key ∈ mutation.definition.fallbackStorageKeys then none
      else entryValue (parseConfigEntries before) key
  lines : ∃ ls, mutation.KeepsLines (lines before) ls
    ∧ (after = before ∧ ls = lines before ∨ after = ls.flatMap fun line => line ++ ['\n'])
  setting : (SettingsStore.ofText after declarations).effectiveDefinition mutation.definition
    = change.effective
  others : ∀ definition ∈ settingsRegistry, definition ≠ mutation.definition →
    (SettingsStore.ofText after declarations).effectiveDefinition definition
      = (SettingsStore.ofText before declarations).effectiveDefinition definition

/-- The text after an edit; it is written if something has changed. -/
def savedText (text : Text) (edit : Bool × ConfigEnvEditor) : Text :=
  if edit.1 then edit.2.render else text

/-- A plain value set under a plain key brings no line feed into a line. -/
theorem SetsLine.notMem {key value : Text} {before after : List Text} (hkey : PlainKey key)
    (hvalue : PlainValue value) (h : SetsLine key value before after)
    (hbefore : ∀ line ∈ before, '\n' ∉ line) : ∀ line ∈ after, '\n' ∉ line := by
  have hnewKey : '\n' ∉ key := fun hmem => absurd (hkey _ hmem).1 (by decide)
  have hnewValue : '\n' ∉ value := fun hmem => absurd (hvalue _ hmem).1 (by decide)
  intro line hline
  rcases h with ⟨front, old, new, back, rfl, rfl, hnew, -⟩ | ⟨-, rfl⟩
  · rcases List.mem_append.1 hline with hfront | hrest
    · exact hbefore line (List.mem_append_left _ hfront)
    · cases hrest with
      | tail _ hback => exact hbefore line (List.mem_append_right _ (.tail _ hback))
      | head =>
        obtain ⟨indentation, between, body, suffix, hold, rfl, -⟩ := hnew
        have hparts := hbefore old (List.mem_append_right _ (.head _))
        rw [hold] at hparts
        simp only [List.mem_append, List.mem_cons, not_or] at hparts ⊢
        exact ⟨⟨⟨hparts.1.1.1.1, hnewKey⟩, by decide, hnewValue⟩, hparts.2⟩
  -- the line added is the key, the sign and the value
  · rcases List.mem_append.1 hline with hold | hadded
    · exact hbefore line hold
    · rw [List.mem_singleton.1 hadded]
      simp only [List.mem_append, List.mem_cons, not_or]
      exact ⟨hnewKey, by decide, hnewValue⟩

section Saved

variable {place : ConfigPlace} {w : SettingsWorld} {text : Text} {edit : Bool × ConfigEnvEditor}

/-- No line of a proper mutation's edit has a line feed in it. -/
theorem Proper.edit_notMem (h : mutation.Proper)
    (hedit : mutation.edit (ConfigEnvEditor.parse text) = .ok edit) :
    ∀ line ∈ edit.2.lines, '\n' ∉ line := by
  obtain ⟨hkey, hne, -⟩ := registry_plainKeys _ h.known
  have hbefore : ∀ line ∈ (ConfigEnvEditor.parse text).lines, '\n' ∉ line :=
    fun line hline => notMem_newline hline
  rcases h.edit_cases (.parse text) with ⟨value, -, hvalue, heq⟩ | ⟨-, heq⟩
  · rw [heq, Except.ok.injEq] at hedit
    intro line hline
    rw [← hedit, ConfigEnvEditor.unsetAll_lines] at hline
    exact (setsLine_set hkey hne _ value).notMem hkey hvalue hbefore line
      (List.mem_of_mem_filter hline)
  · rw [heq, Except.ok.injEq] at hedit
    intro line hline
    rw [← hedit, ConfigEnvEditor.unsetAll_lines] at hline
    exact hbefore line (List.mem_of_mem_filter hline)

/-- The entries of the saved text are those of the edited lines. -/
theorem Proper.entries_saved (h : mutation.Proper)
    (hedit : mutation.edit (ConfigEnvEditor.parse text) = .ok edit) :
    parseConfigEntries (savedText text edit) = edit.2.lines.filterMap configEntry := by
  unfold savedText
  split
  · exact ConfigEnvEditor.entries_render (h.edit_notMem hedit)
  · rename_i hchanged
    rw [h.edit_unchanged hedit (by simpa using hchanged)]
    rfl

/-- **The text that is saved.** -/
theorem Proper.changesExactly (h : mutation.Proper) (hedits : place.Edits mutation w text edit) :
    ChangesExactly mutation w.declarations (ConfigPlace.changeOf mutation w edit) text
      (savedText text edit) := by
  have hentries (key : String) : entryValue (parseConfigEntries (savedText text edit)) key
      = if key = mutation.definition.storageKey then mutation.storedValue
        else if key ∈ mutation.definition.fallbackStorageKeys then none
        else entryValue (parseConfigEntries text) key := by
    rw [h.entries_saved hedits.lines]
    exact h.edit_entries hedits.lines key
  refine ⟨hentries, ?_, ?_, ?_⟩
  · refine ⟨edit.2.lines, h.edit_lines hedits.lines, ?_⟩
    unfold savedText
    by_cases hchanged : edit.1 = true
    · right
      rw [if_pos hchanged]
      exact ConfigEnvEditor.render_eq _
    · left
      rw [if_neg hchanged]
      exact ⟨rfl, h.edit_unchanged hedits.lines (by simpa using hchanged)⟩
  · refine h.effective hedits.mutable fun key hkey => ?_
    rw [hentries]
    by_cases hsame : key = mutation.definition.storageKey
    · rw [if_pos hsame, if_pos hsame]
    · have hfallback : key ∈ mutation.definition.fallbackStorageKeys :=
        (List.mem_cons.1 hkey).resolve_left hsame
      rw [if_neg hsame, if_neg hsame, if_pos hfallback]
  · intro definition hknown hne
    refine effectiveDefinition_congr rfl fun key hkey => ?_
    have hother := registry_keys_disjoint _ h.known _ hknown hne key hkey
    rw [SettingDefinition.storageKeys, List.mem_cons, not_or] at hother
    show entryValue (parseConfigEntries _) key = entryValue (parseConfigEntries _) key
    rw [hentries, if_neg hother.1, if_neg hother.2]

/-- What is read back after an edit is the text it saved. -/
theorem textOf_editedWorld (hedits : place.Edits mutation w text edit) :
    place.textOf (ConfigPlace.editedWorld w edit).config = .ok (savedText text edit) := by
  unfold ConfigPlace.editedWorld savedText
  split
  · show (match Str.fromUtf8 (utf8Bytes edit.2.render) with
      | some text => _
      | none => _) = _
    rw [Str.fromUtf8_utf8Bytes]
  · exact hedits.contents

/-- The mutation may be persisted once more, and then nothing changes. -/
theorem Proper.edits_again (h : mutation.Proper) (hedits : place.Edits mutation w text edit) :
    ∃ again, place.Edits mutation (ConfigPlace.editedWorld w edit) (savedText text edit) again
      ∧ again.1 = false := by
  have hlines : ∃ again, mutation.edit (.parse (savedText text edit)) = .ok again
      ∧ again.1 = false := by
    cases hchanged : edit.1 with
    | false =>
      have hsaved : savedText text edit = text := by
        unfold savedText
        rw [if_neg (by simp [hchanged])]
      rw [hsaved]
      exact ⟨edit, hedits.lines, hchanged⟩
    | true =>
      apply h.edit_again hedits.lines
      have hsaved : savedText text edit = edit.2.render := by
        unfold savedText
        rw [if_pos hchanged]
      rw [hsaved]
      exact ConfigEnvEditor.lines_render (h.edit_notMem hedits.lines)
  obtain ⟨again, hagain, hsame⟩ := hlines
  have hdeclarations : (ConfigPlace.editedWorld w edit).declarations = w.declarations := by
    unfold ConfigPlace.editedWorld
    split
    · rfl
    · rfl
  refine ⟨again, ⟨?_, textOf_editedWorld hedits, hagain, ?_⟩, hsame⟩
  · rw [hdeclarations]
    exact hedits.mutable
  · intro htrue
    rw [hsame] at htrue
    cases htrue

end Saved

end SettingsMutation

/-! ## Runs -/

/-- A mutation edits a world in one way. -/
theorem ConfigPlace.Edits.unique {place : ConfigPlace} {mutation : SettingsMutation}
    {w : SettingsWorld} {text text' : Text} {edit edit' : Bool × ConfigEnvEditor}
    (h : place.Edits mutation w text edit) (h' : place.Edits mutation w text' edit') :
    text = text' ∧ edit = edit' := by
  have htext := h.contents
  rw [h'.contents, Except.ok.injEq] at htext
  have hedit := h.lines
  rw [← htext, h'.lines, Except.ok.injEq] at hedit
  exact ⟨htext.symm, hedit.symm⟩

/-- A place that holds a text reads it, and an empty place reads nothing. -/
theorem textOf_map (place : ConfigPlace) (contents : Option Text) :
    place.textOf (contents.map utf8Bytes) = .ok (contents.getD []) := by
  cases contents with
  | none => rfl
  | some text =>
    show (match Str.fromUtf8 (utf8Bytes text) with
      | some text => _
      | none => _) = _
    rw [Str.fromUtf8_utf8Bytes]
    rfl

/-- The store of a config that is a text. -/
theorem wpE_loadStore {place : ConfigPlace} {w : SettingsWorld} {text : Text}
    (htext : place.textOf w.config = .ok text) :
    Program.wpE quiet place.loadStore
      (fun store w' => store = SettingsStore.ofText text w.declarations ∧ w' = w)
      (fun _ _ => False) w := by
  refine Program.wpE_bind.mpr (wpE_orElse_settings.mpr (wp_readConfig ?_))
  refine Program.wpE_bind.mpr (wpE_ofExcept_settings.mpr ?_)
  rw [htext]
  refine Program.wpE_bind.mpr (wpE_orElse_settings.mpr (wp_loadDeclarations ?_))
  exact ⟨rfl, rfl⟩

/-- **A settings mutation changes exactly its setting**, whatever the config was, and the same
mutation once more changes nothing. -/
theorem settings_mutation_changes_its_setting (place : ConfigPlace)
    {moments : Nat → SettingsMoment} (hquiet : ∀ n, (moments n).Quiet)
    {store : SettingsStore} {key value : Text} {mutation : SettingsMutation}
    (hmutation : SettingsMutation.set store key value = .ok mutation
      ∨ SettingsMutation.unset store key = .ok mutation)
    (contents : Option Text) (declarations : Option Declarations) {change : SettingsChange}
    {s : SettingsRun}
    (hrun : settingsRun moments (place.persistSettingsMutation mutation)
      (.start (contents.map utf8Bytes) declarations) = (.ok change, s)) :
    ∃ saved, place.textOf s.world.config = .ok saved
      ∧ (settingsRun moments place.loadStore s).1 = .ok (.ofText saved declarations)
      ∧ mutation.ChangesExactly declarations change (contents.getD []) saved
      ∧ ∃ again, (settingsRun moments (place.persistSettingsMutation mutation) s).1 = .ok again
        ∧ again.fileChanged = false := by
  -- both commands give a proper mutation
  have hproper : mutation.Proper :=
    hmutation.elim SettingsMutation.proper_of_set SettingsMutation.proper_of_unset
  -- the first persist edits the world as the mutation says
  have hfirst := wpE_quiet_run hquiet (.start (contents.map utf8Bytes) declarations)
    (@ConfigPlace.wpE_persistSettingsMutation place mutation _ rfl rfl)
  rw [hrun] at hfirst
  obtain ⟨text, edit, hedits, rfl, hworld⟩ := hfirst
  have htext := hedits.contents
  rw [show (SettingsRun.start (contents.map utf8Bytes) declarations).world.config
    = contents.map utf8Bytes from rfl, textOf_map, Except.ok.injEq] at htext
  have hsaved := SettingsMutation.textOf_editedWorld hedits
  obtain ⟨again, hagain, hsame⟩ := hproper.edits_again hedits
  -- the edit leaves the declarations, the lock and the staging area as they were
  have hkept : (ConfigPlace.editedWorld (SettingsRun.start (contents.map utf8Bytes)
      declarations).world edit).declarations = declarations
      ∧ (ConfigPlace.editedWorld (SettingsRun.start (contents.map utf8Bytes)
        declarations).world edit).locked = false
      ∧ (ConfigPlace.editedWorld (SettingsRun.start (contents.map utf8Bytes)
        declarations).world edit).staged = none := by
    unfold ConfigPlace.editedWorld
    split
    · exact ⟨rfl, rfl, rfl⟩
    · exact ⟨rfl, rfl, rfl⟩
  dsimp only at hworld
  rw [← hworld] at hsaved hagain hkept
  refine ⟨_, hsaved, ?_, ?_, ?_⟩
  · have hload := wpE_quiet_run hquiet s (wpE_loadStore hsaved)
    cases hresult : (settingsRun moments place.loadStore s).1 with
    | error err =>
      rw [hresult] at hload
      exact absurd hload id
    | ok loaded =>
      rw [hresult] at hload
      rw [hload.1, hkept.1]
  · rw [htext]
    exact hproper.changesExactly hedits
  -- the second persist finds its own edit done
  · have hsecond := wpE_quiet_run hquiet s
      (@ConfigPlace.wpE_persistSettingsMutation place mutation _ hkept.2.1 hkept.2.2)
    cases hresult : (settingsRun moments (place.persistSettingsMutation mutation) s).1 with
    | error err =>
      rw [hresult] at hsecond
      exact absurd ⟨_, _, hagain⟩ hsecond.2
    | ok change' =>
      rw [hresult] at hsecond
      obtain ⟨text', edit', hedits', rfl, -⟩ := hsecond
      refine ⟨_, rfl, ?_⟩
      obtain ⟨-, rfl⟩ := hagain.unique hedits'
      exact hsame

/-- A line with a comment and Windows line endings, and no end of the last line. -/
def indentedConfig : Text :=
  "  screen_backend = gnome # mine\r\nscreen_idle_blank=disabled".toList

def toAutomatic : SettingsMutation where
  definition := screenBackend
  oldValue := some (.enum "gnome")
  oldSource := .configEnv
  newValue := some (.enum "auto")
  action := .set

/-- The law for that config, with the backend set to automatic. -/
theorem indented_config_is_changed_exactly :
    ∃ change s saved,
      settingsRun (fun _ => .still) ((ConfigPlace.mk "config.env").persistSettingsMutation
          toAutomatic) (.start (some (utf8Bytes indentedConfig)) none) = (.ok change, s)
        ∧ (ConfigPlace.mk "config.env").textOf s.world.config = .ok saved
        ∧ toAutomatic.ChangesExactly none change indentedConfig saved := by
  have hset : SettingsMutation.set (.ofText indentedConfig none) "screen.backend".toList
      "auto".toList = .ok toAutomatic := by decide +kernel
  have hok : (settingsRun (fun _ => .still) ((ConfigPlace.mk "config.env").persistSettingsMutation
      toAutomatic) (.start (some (utf8Bytes indentedConfig)) none)).1.toOption.isSome = true := by
    decide +kernel
  cases hresult : settingsRun (fun _ => .still)
      ((ConfigPlace.mk "config.env").persistSettingsMutation toAutomatic)
      (.start (some (utf8Bytes indentedConfig)) none) with
  | mk result s =>
    rw [hresult] at hok
    cases result with
    | error err => cases hok
    | ok change =>
      obtain ⟨saved, htext, -, hexactly, -⟩ := settings_mutation_changes_its_setting _
        (fun _ => SettingsMoment.still_quiet) (.inl hset) (some indentedConfig) none hresult
      exact ⟨change, s, saved, rfl, htext, hexactly⟩

end LgBuddy.Settings
