import LgBuddy.Settings.Store
import LgBuddy.Settings.Values
import Mathlib.Data.List.Find
import Mathlib.Data.List.Induction

/-!
# LgBuddy — what an edit does to a config

The editor works on lines and the reader on entries. Here the two meet.

* `CommentSuffix`, `configValueSuffix_spec` — the comment behind a value;
* `Written`, `Rewritten` — a line that the editor has written, and what it keeps of the old one;
* `lines_render` — a text of lines, read back;
* `set_cases`, `unsetAll_lines` — the lines after an edit;
* `entries_set`, `entries_unsetAll` — the entries after it.
-/

namespace LgBuddy

open Str (isWhitespace lines splitOnce stripLineEnding trim trimEnd)

/-! ## Comments -/

/-- Nothing, or a comment with the space in front of it. -/
def CommentSuffix (suffix : Text) : Prop :=
  suffix = [] ∨ ∃ gap rest, suffix = gap ++ '#' :: rest ∧ ∀ c ∈ gap, isWhitespace c = true

/-- A blank has no character that is not white space. -/
theorem notMem_blank {gap : Text} (hgap : ∀ c ∈ gap, isWhitespace c = true) {c : Char}
    (hc : isWhitespace c = false) : c ∉ gap := by
  intro hmem
  rw [hgap c hmem] at hc
  cases hc

/-- A value without a comment mark has none to cut. -/
theorem takeWhile_mark {value : Text} (h : '#' ∉ value) : value.takeWhile (· ≠ '#') = value := by
  rw [List.takeWhile_eq_self_iff]
  intro c hc
  have hne : c ≠ '#' := fun heq => h (heq ▸ hc)
  simpa using hne

/-- A value with its comment, cut in front of the space before the comment. -/
theorem configValueSuffix_spec (value : Text) :
    ∃ body, value = body ++ configValueSuffix value ∧ '#' ∉ body
      ∧ CommentSuffix (configValueSuffix value) := by
  by_cases hmark : '#' ∈ value
  · obtain ⟨word, rest, rfl, hword⟩ := List.eq_append_cons_of_mem hmark
    have hparts : word.rdropWhile isWhitespace ++ word.rtakeWhile isWhitespace = word :=
      List.rdropWhile_append_rtakeWhile
    have hsuffix : configValueSuffix (word ++ '#' :: rest)
        = word.rtakeWhile isWhitespace ++ '#' :: rest := by
      unfold configValueSuffix
      dsimp only
      rw [Keyed.takeWhile_append_sign hword, if_neg (by simp)]
      show (word ++ '#' :: rest).drop (word.rdropWhile isWhitespace).length = _
      rw [← hparts, List.append_assoc]
      simp [hparts]
    refine ⟨word.rdropWhile isWhitespace, ?_, ?_, ?_⟩
    · rw [hsuffix, ← List.append_assoc, hparts]
    · exact fun h => hword (hparts ▸ List.mem_append_left _ h)
    · rw [hsuffix]
      exact .inr ⟨_, _, rfl, fun c hc => List.mem_rtakeWhile_imp hc⟩
  · have hsuffix : configValueSuffix value = [] := by
      unfold configValueSuffix
      dsimp only
      rw [takeWhile_mark hmark, if_pos rfl]
    refine ⟨value, ?_, hmark, .inl hsuffix⟩
    rw [hsuffix, List.append_nil]

section Plain

variable {value suffix : Text} (hvalue : PlainValue value)
include hvalue

/-- A plain value is trimmed. -/
theorem PlainValue.trimmed : Keyed.Trimmed isWhitespace value :=
  .of_forall fun c hc => (hvalue c hc).1

theorem PlainValue.mark : '#' ∉ value := fun h => (hvalue '#' h).2 rfl

/-- It ends where the comment behind it begins. -/
theorem PlainValue.takeWhile {gap rest : Text} (hgap : ∀ c ∈ gap, isWhitespace c = true) :
    (value ++ (gap ++ '#' :: rest)).takeWhile (· ≠ '#') = value ++ gap := by
  have hnotMem : '#' ∉ value ++ gap := by
    rw [List.mem_append, not_or]
    exact ⟨hvalue.mark, notMem_blank hgap (by decide)⟩
  rw [← List.append_assoc]
  exact Keyed.takeWhile_append_sign hnotMem

/-- The comment behind a plain value is found again. -/
theorem configValueSuffix_append (hsuffix : CommentSuffix suffix) :
    configValueSuffix (value ++ suffix) = suffix := by
  unfold configValueSuffix
  dsimp only
  rcases hsuffix with rfl | ⟨gap, rest, rfl, hgap⟩
  · rw [List.append_nil, takeWhile_mark hvalue.mark, if_pos rfl]
  · have htrim : trimEnd (value ++ gap) = value :=
      (Keyed.rdropWhile_append_pos hgap).trans
        (Keyed.rdropWhile_of_last hvalue.trimmed.last)
    rw [hvalue.takeWhile hgap, if_neg (by simp), htrim, List.drop_left]

/-- A plain value is read from before the comment behind it. -/
theorem sanitizeConfigValue_append (hsuffix : CommentSuffix suffix) :
    sanitizeConfigValue (value ++ suffix) = value := by
  have htrim (gap : Text) (hgap : ∀ c ∈ gap, isWhitespace c = true) :
      trim (value ++ gap) = value := by
    have htrimmed : trim ([] ++ value ++ gap) = value :=
      Keyed.trimWith_append_append (List.forall_mem_nil _) hgap hvalue.trimmed
    rwa [List.nil_append] at htrimmed
  unfold sanitizeConfigValue
  rcases hsuffix with rfl | ⟨gap, rest, rfl, hgap⟩
  · have hself := htrim [] (List.forall_mem_nil _)
    rw [List.append_nil] at hself
    rw [List.append_nil, takeWhile_mark hvalue.mark, hself]
  · rw [hvalue.takeWhile hgap, htrim gap hgap]

end Plain

/-! ## Written lines -/

/-- A key and a value with nothing but space in front and a comment behind. -/
def Written (key value line : Text) : Prop :=
  ∃ indentation suffix, line = indentation ++ key ++ '=' :: value ++ suffix
    ∧ (∀ c ∈ indentation, isWhitespace c = true) ∧ CommentSuffix suffix

/-- A line with another value: the indentation and the comment are kept. -/
def Rewritten (key value old new : Text) : Prop :=
  ∃ indentation between body suffix,
    old = indentation ++ key ++ between ++ '=' :: body ++ suffix
      ∧ new = indentation ++ key ++ '=' :: value ++ suffix
      ∧ (∀ c ∈ indentation, isWhitespace c = true) ∧ (∀ c ∈ between, isWhitespace c = true)
      ∧ '#' ∉ body ∧ CommentSuffix suffix

section Lines

variable {key value line : Text}

/-- A line that was rewritten has the key and the new value. -/
theorem Rewritten.written {old new : Text} (h : Rewritten key value old new) :
    Written key value new := by
  obtain ⟨indentation, -, -, suffix, -, hnew, hindentation, -, -, hsuffix⟩ := h
  exact ⟨indentation, suffix, hnew, hindentation, hsuffix⟩

/-- A line that is written anew is one of the written kind. -/
theorem written_plain : Written key value (key ++ '=' :: value) :=
  ⟨[], [], by simp, List.forall_mem_nil _, .inl rfl⟩

variable (hkey : PlainKey key) (hne : key ≠ [])
include hkey

/-- **The reader finds what was written.** -/
theorem Written.entry (hvalue : PlainValue value) (h : Written key value line) :
    configEntry line = some (key, value) := by
  obtain ⟨indentation, suffix, rfl, hindentation, hsuffix⟩ := h
  have hentry : configEntry (indentation ++ key ++ [] ++ '=' :: (value ++ suffix))
      = some (key, sanitizeConfigValue (value ++ suffix)) :=
    configEntry_of_parts hkey hindentation (List.forall_mem_nil _)
  rw [sanitizeConfigValue_append hvalue hsuffix] at hentry
  simpa using hentry

/-- The key of a written line is read back. -/
theorem Written.lineKey (hvalue : PlainValue value) (h : Written key value line) :
    configLineKey line = some key := by
  rw [← configEntry_map_fst, h.entry hkey hvalue]
  rfl

include hne

/-- Only what stands between the sign and the comment is replaced. -/
theorem replaceConfigLineValue_of_parts {indentation between rest : Text}
    (hindentation : ∀ c ∈ indentation, isWhitespace c = true)
    (hbetween : ∀ c ∈ between, isWhitespace c = true) :
    replaceConfigLineValue (indentation ++ key ++ between ++ '=' :: rest) key value
      = indentation ++ key ++ '=' :: value ++ configValueSuffix rest := by
  have hindent : (indentation ++ key ++ between ++ '=' :: rest).takeWhile isWhitespace
      = indentation := by
    rw [List.append_assoc, List.append_assoc, List.takeWhile_append_of_pos hindentation]
    cases key with
    | nil => exact absurd rfl hne
    | cons c key =>
      rw [List.cons_append, List.takeWhile_cons_of_neg (by simp [(hkey c (.head _)).1]),
        List.append_nil]
  have hnotMem : '=' ∉ indentation ++ key ++ between := by
    simp only [List.mem_append, not_or]
    exact ⟨⟨notMem_blank hindentation (by decide), fun h => (hkey '=' h).2.1 rfl⟩,
      notMem_blank hbetween (by decide)⟩
  have hsplit : splitOnce '=' (indentation ++ key ++ between ++ '=' :: rest)
      = some (indentation ++ key ++ between, rest) := Str.splitOnce_eq_some.2 ⟨rfl, hnotMem⟩
  unfold replaceConfigLineValue
  rw [hindent, hsplit]

/-- What the editor makes of a line with the key. -/
theorem rewritten_replace (h : configLineKey line = some key) :
    Rewritten key value line (replaceConfigLineValue line key value) := by
  obtain ⟨indentation, between, rest, rfl, hindentation, hbetween⟩ := parts_of_configLineKey hkey h
  obtain ⟨body, hrest, hbody, hsuffix⟩ := configValueSuffix_spec rest
  refine ⟨indentation, between, body, configValueSuffix rest, ?_, ?_, hindentation, hbetween,
    hbody, hsuffix⟩
  · rw [List.append_assoc _ ('=' :: body), List.cons_append, ← hrest]
  · exact replaceConfigLineValue_of_parts hkey hne hindentation hbetween

/-- Writing the same value again changes nothing. -/
theorem Written.replace (hvalue : PlainValue value) (h : Written key value line) :
    replaceConfigLineValue line key value = line := by
  obtain ⟨indentation, suffix, rfl, hindentation, hsuffix⟩ := h
  have hagain : replaceConfigLineValue (indentation ++ key ++ [] ++ '=' :: (value ++ suffix)) key
      value = indentation ++ key ++ '=' :: value ++ configValueSuffix (value ++ suffix) :=
    replaceConfigLineValue_of_parts hkey hne hindentation (List.forall_mem_nil _)
  rw [configValueSuffix_append hvalue hsuffix] at hagain
  simpa using hagain

end Lines

/-! ## A text of lines -/

/-- A line as it is read back. -/
def rereadLine (line : Text) : Text := stripLineEnding (line ++ ['\n'])

/-- A carriage return at the end of a line is lost when it is read again. -/
theorem rereadLine_concat (front : Text) (c : Char) :
    rereadLine (front ++ [c]) = if c = '\r' then front else front ++ [c] := by
  by_cases hc : c = '\r'
  · simp [rereadLine, stripLineEnding, hc]
  · simp [rereadLine, stripLineEnding, hc]

/-- Any other line is read as it is. -/
theorem rereadLine_of_last {line : Text} (h : line.getLast? ≠ some '\r') :
    rereadLine line = line := by
  cases line using List.reverseRecOn with
  | nil => rfl
  | append_singleton front c =>
    have hc : c ≠ '\r' := fun heq => h (by simp [heq])
    rw [rereadLine_concat, if_neg hc]

/-- The entry of a line does not depend on it. -/
theorem configEntry_rereadLine (line : Text) : configEntry (rereadLine line) = configEntry line := by
  have hblank : ∀ c ∈ ['\n'], isWhitespace c = true := by decide
  unfold rereadLine
  rw [configEntry_stripLineEnding]
  unfold configEntry
  rw [trim_append_space hblank]

theorem configLineKey_rereadLine (line : Text) :
    configLineKey (rereadLine line) = configLineKey line := by
  rw [← configEntry_map_fst, ← configEntry_map_fst, configEntry_rereadLine]

/-- The end of a written line may be lost, but not the form. -/
theorem Written.reread {key value line : Text} (hvalue : PlainValue value)
    (h : Written key value line) : Written key value (rereadLine line) := by
  obtain ⟨indentation, suffix, rfl, hindentation, hsuffix⟩ := h
  rcases hsuffix with rfl | ⟨gap, rest, rfl, hgap⟩
  · refine ⟨indentation, [], ?_, hindentation, .inl rfl⟩
    apply rereadLine_of_last
    intro hlast
    rw [List.append_nil, List.getLast?_append_of_ne_nil _ (by simp), List.getLast?_cons] at hlast
    cases hvalueLast : value.getLast? with
    | none =>
      rw [hvalueLast] at hlast
      exact absurd hlast (by decide)
    | some c =>
      have hspace := (hvalue c (List.mem_of_mem_getLast? hvalueLast)).1
      rw [hvalueLast, Option.getD_some, Option.some.injEq] at hlast
      rw [hlast] at hspace
      exact absurd hspace (by decide)
  · cases rest using List.reverseRecOn with
    | nil =>
      refine ⟨indentation, gap ++ ['#'], ?_, hindentation, .inr ⟨gap, [], rfl, hgap⟩⟩
      apply rereadLine_of_last
      rw [← List.append_assoc, List.getLast?_concat]
      decide
    | append_singleton rest c =>
      have hassoc : indentation ++ key ++ '=' :: value ++ (gap ++ '#' :: (rest ++ [c]))
          = (indentation ++ key ++ '=' :: value ++ (gap ++ '#' :: rest)) ++ [c] := by simp
      rw [hassoc, rereadLine_concat]
      split
      · exact ⟨indentation, _, rfl, hindentation, .inr ⟨gap, rest, rfl, hgap⟩⟩
      · exact ⟨indentation, gap ++ '#' :: (rest ++ [c]), by simp, hindentation,
          .inr ⟨gap, rest ++ [c], rfl, hgap⟩⟩

/-- No line has a line feed in it. -/
theorem notMem_newline {contents line : Text} (h : line ∈ lines contents) : '\n' ∉ line := by
  obtain ⟨part, hpart, rfl⟩ := List.mem_map.1 h
  have hstrip (word : Text) (hword : '\n' ∉ word) : '\n' ∉ rereadLine word := by
    cases word using List.reverseRecOn with
    | nil => exact List.not_mem_nil
    | append_singleton front c =>
      rw [rereadLine_concat]
      split
      · exact fun hmem => hword (List.mem_append_left _ hmem)
      · exact hword
  induction contents using Str.parts_induction (· == '\n') with
  | last word hword =>
    have hnotMem : '\n' ∉ word := fun hmem => by simpa using hword '\n' hmem
    rw [Str.splitInclusive_last hword] at hpart
    split at hpart
    · cases hpart
    · rw [List.mem_singleton.1 hpart]
      have hkept : stripLineEnding word = word := by
        cases word using List.reverseRecOn with
        | nil => rfl
        | append_singleton front c =>
          have hc : c ≠ '\n' := fun heq => hnotMem (by simp [heq])
          simp [stripLineEnding, hc]
      rw [hkept]
      exact hnotMem
  | part word c rest hword hc ih =>
    obtain rfl : c = '\n' := by simpa using hc
    have hnotMem : '\n' ∉ word := fun hmem => by simpa using hword '\n' hmem
    rw [Str.splitInclusive_append hword hc] at hpart
    cases hpart with
    | head => exact hstrip word hnotMem
    | tail _ hpart => exact ih hpart (List.mem_map_of_mem hpart)

namespace ConfigEnvEditor

/-- A config is its lines, each with its end. -/
theorem render_eq (editor : ConfigEnvEditor) :
    editor.render = editor.lines.flatMap fun line => line ++ ['\n'] := by
  obtain ⟨ls⟩ := editor
  unfold render
  induction ls with
  | nil => rfl
  | cons line ls ih =>
    cases ls with
    | nil => simp
    | cons next ls =>
      rw [if_neg (by simp)] at ih ⊢
      rw [List.intercalate_cons_cons, List.append_assoc, List.append_assoc, ih]
      simp

/-- **The lines of a text of lines.** -/
theorem configLines_render {editor : ConfigEnvEditor}
    (h : ∀ line ∈ editor.lines, '\n' ∉ line) :
    configLines editor.render = editor.lines.map fun line => line ++ ['\n'] := by
  rw [render_eq]
  obtain ⟨ls⟩ := editor
  induction ls with
  | nil => rfl
  | cons line ls ih =>
    have hline : ∀ c ∈ line, (c == '\n') = false := by
      intro c hc
      have hne : c ≠ '\n' := fun heq => h line (.head _) (heq ▸ hc)
      simpa using hne
    rw [List.flatMap_cons, List.append_assoc, List.singleton_append]
    unfold configLines
    rw [Str.splitInclusive_append hline rfl, List.map_cons]
    exact congrArg _ (ih fun other hother => h other (.tail _ hother))

/-- What was rendered is read again line by line. -/
theorem lines_render {editor : ConfigEnvEditor} (h : ∀ line ∈ editor.lines, '\n' ∉ line) :
    (parse editor.render).lines = editor.lines.map rereadLine := by
  show (configLines editor.render).map stripLineEnding = _
  rw [configLines_render h, List.map_map]
  rfl

/-- What is rendered has the entries of the lines. -/
theorem entries_render {editor : ConfigEnvEditor} (h : ∀ line ∈ editor.lines, '\n' ∉ line) :
    parseConfigEntries editor.render = editor.lines.filterMap configEntry := by
  show (parse editor.render).lines.filterMap configEntry = _
  rw [lines_render h, List.filterMap_map]
  apply List.filterMap_congr
  intro line _
  exact configEntry_rereadLine line

/-! ## Setting a value -/

/-- The last line of a key, when one more line is there. -/
theorem lastKeyIndex_concat (ls : List Text) (line storageKey : Text) :
    (⟨ls ++ [line]⟩ : ConfigEnvEditor).lastKeyIndex storageKey
      = if configLineKey line = some storageKey then some ls.length
        else (⟨ls⟩ : ConfigEnvEditor).lastKeyIndex storageKey := by
  have hsame : ∀ index ∈ (List.range ls.length).reverse,
      decide (((ls ++ [line])[index]?.bind configLineKey) = some storageKey)
        = decide ((ls[index]?.bind configLineKey) = some storageKey) := by
    intro index hindex
    have hlt : index < ls.length := by simpa using hindex
    rw [List.getElem?_append_left hlt]
  unfold lastKeyIndex
  dsimp only
  rw [List.length_append, List.length_singleton, List.range_succ, List.reverse_append,
    List.reverse_singleton, List.singleton_append, List.find?_cons]
  by_cases hkey : configLineKey line = some storageKey
  · simp [hkey]
  · simp only [List.getElem?_append_right (Nat.le_refl _), Nat.sub_self, List.getElem?_cons_zero,
      Option.bind_some, hkey, decide_false, if_false]
    exact List.find?_congr hsame

/-- The last line with the key. -/
theorem lastKeyIndex_cases (editor : ConfigEnvEditor) (storageKey : Text) :
    (editor.lastKeyIndex storageKey = none
        ∧ ∀ line ∈ editor.lines, configLineKey line ≠ some storageKey)
      ∨ ∃ front line back, editor.lines = front ++ line :: back
        ∧ editor.lastKeyIndex storageKey = some front.length
        ∧ configLineKey line = some storageKey
        ∧ ∀ other ∈ back, configLineKey other ≠ some storageKey := by
  obtain ⟨ls⟩ := editor
  induction ls using List.reverseRecOn with
  | nil => exact .inl ⟨rfl, List.forall_mem_nil _⟩
  | append_singleton ls line ih =>
    rw [lastKeyIndex_concat]
    by_cases hkey : configLineKey line = some storageKey
    · rw [if_pos hkey]
      exact .inr ⟨ls, line, [], rfl, rfl, hkey, List.forall_mem_nil _⟩
    · rw [if_neg hkey]
      rcases ih with ⟨hnone, hall⟩ | ⟨front, old, back, hls, hindex, hold, hback⟩
      · refine .inl ⟨hnone, fun other hother => ?_⟩
        rcases List.mem_append.1 hother with hother | hother
        · exact hall other hother
        · rwa [List.mem_singleton.1 hother]
      · refine .inr ⟨front, old, back ++ [line], ?_, hindex, hold, fun other hother => ?_⟩
        · show ls ++ [line] = _
          rw [show ls = front ++ old :: back from hls, List.append_assoc, List.cons_append]
        · rcases List.mem_append.1 hother with hother | hother
          · exact hback other hother
          · rwa [List.mem_singleton.1 hother]

/-- **The lines after `set`**: the last line with the key has another value, or there was no such
line and one is added. -/
theorem set_cases (editor : ConfigEnvEditor) (storageKey value : Text) :
    ((∀ line ∈ editor.lines, configLineKey line ≠ some storageKey)
        ∧ (editor.set storageKey value).lines = editor.lines ++ [storageKey ++ '=' :: value]
        ∧ editor.setChanges storageKey value = true)
      ∨ ∃ front line back, editor.lines = front ++ line :: back
        ∧ configLineKey line = some storageKey
        ∧ (∀ other ∈ back, configLineKey other ≠ some storageKey)
        ∧ (editor.set storageKey value).lines
          = front ++ replaceConfigLineValue line storageKey value :: back
        ∧ editor.setChanges storageKey value
          = decide (line ≠ replaceConfigLineValue line storageKey value) := by
  rcases editor.lastKeyIndex_cases storageKey with
    ⟨hnone, hall⟩ | ⟨front, line, back, hlines, hindex, hkey, hback⟩
  · left
    refine ⟨hall, ?_, ?_⟩
    · unfold set
      rw [hnone]
    · unfold setChanges
      rw [hnone]
  · right
    refine ⟨front, line, back, hlines, hkey, hback, ?_, ?_⟩
    · unfold set
      rw [hindex]
      dsimp only
      rw [hlines, List.modify_eq_take_cons_drop (by simp)]
      simp
    · have hthere : editor.lines[front.length]? = some line := by
        rw [hlines, List.getElem?_append_right (Nat.le_refl _), Nat.sub_self,
          List.getElem?_cons_zero]
      unfold setChanges
      rw [hindex]
      dsimp only
      rw [hthere, Option.map_some]
      simp

/-! ## Leaving keys out -/

/-- The line has none of the keys. -/
def lacks (storageKeys : List String) (line : Text) : Bool :=
  storageKeys.all fun key => configLineKey line ≠ some key.toList

/-- A line lacks keys if it is of none of them. -/
theorem lacks_iff {storageKeys : List String} {line : Text} :
    lacks storageKeys line = true
      ↔ ∀ key ∈ storageKeys, configLineKey line ≠ some key.toList := by
  simp [lacks, List.all_eq_true]

/-- Unsetting keys takes exactly their lines away. -/
theorem unsetAll_lines (edit : Bool × ConfigEnvEditor) (storageKeys : List String) :
    (unsetAll edit storageKeys).2.lines = edit.2.lines.filter (lacks storageKeys) := by
  unfold unsetAll
  induction storageKeys generalizing edit with
  | nil => exact (List.filter_eq_self.2 fun line _ => rfl).symm
  | cons key storageKeys ih =>
    rw [List.foldl_cons, ih]
    show (edit.2.lines.filter _).filter _ = _
    rw [List.filter_filter]
    apply List.filter_congr
    intro line _
    simp [lacks, Bool.and_comm]

/-- What is reported: whether a line is gone. -/
theorem unsetAll_changes (edit : Bool × ConfigEnvEditor) (storageKeys : List String) :
    (unsetAll edit storageKeys).1 = false
      ↔ edit.1 = false ∧ ∀ line ∈ edit.2.lines, lacks storageKeys line = true := by
  unfold unsetAll
  induction storageKeys generalizing edit with
  | nil => simp [lacks]
  | cons key storageKeys ih =>
    have hlength : edit.2.unsetChanges key.toList = false
        ↔ ∀ line ∈ edit.2.lines, configLineKey line ≠ some key.toList := by
      unfold unsetChanges unset
      rw [decide_eq_false_iff_not, not_not, List.length_filter_eq_length_iff]
      simp
    rw [List.foldl_cons, ih]
    dsimp only
    rw [Bool.or_eq_false_iff, hlength, and_assoc]
    apply and_congr_right
    intro _
    constructor
    · rintro ⟨hkey, hrest⟩ line hline
      have hkept : line ∈ (edit.2.unset key.toList).lines :=
        List.mem_filter.2 ⟨hline, by simpa using hkey line hline⟩
      have hlacks := lacks_iff.1 (hrest line hkept)
      exact lacks_iff.2 (List.forall_mem_cons.2 ⟨hkey line hline, hlacks⟩)
    · intro hall
      refine ⟨fun line hline => ?_, fun line hline => ?_⟩
      · exact lacks_iff.1 (hall line hline) key (.head _)
      · have hlacks := lacks_iff.1 (hall line (List.mem_of_mem_filter hline))
        exact lacks_iff.2 fun other hother => hlacks other (.tail _ hother)

/-! ## Entries -/

/-- Removing the lines of some keys removes exactly their entries. -/
theorem entries_lacks (storageKeys : List String) (ls : List Text) :
    (ls.filter (lacks storageKeys)).filterMap configEntry
      = (ls.filterMap configEntry).filter
        fun entry => storageKeys.all fun key => entry.1 ≠ key.toList := by
  rw [List.filterMap_filter, List.filter_filterMap]
  apply List.filterMap_congr
  intro line _
  have hkey := configEntry_map_fst line
  cases hentry : configEntry line with
  | none => simp
  | some entry =>
    rw [hentry, Option.map_some] at hkey
    simp [lacks, ← hkey, Option.filter_some]

/-- **The entries without some keys.** -/
theorem entryValue_lacks (storageKeys : List String) (ls : List Text) (key : String) :
    entryValue ((ls.filter (lacks storageKeys)).filterMap configEntry) key
      = if key ∈ storageKeys then none else entryValue (ls.filterMap configEntry) key := by
  rw [entries_lacks, entryValue_filter _ (fun k => storageKeys.all fun key => k ≠ key.toList)]
  have hall : (storageKeys.all fun other => decide (key.toList ≠ other.toList)) = true
      ↔ key ∉ storageKeys := by
    simp only [List.all_eq_true, decide_eq_true_eq, ne_eq, String.toList_inj]
    exact ⟨fun h hmem => h key hmem rfl, fun h other hother heq => h (heq ▸ hother)⟩
  by_cases hmem : key ∈ storageKeys
  · rw [if_pos hmem, if_neg fun h => hall.1 h hmem]
  · rw [if_neg hmem, if_pos (hall.2 hmem)]

/-- A key of no line has no value. -/
theorem entryValue_eq_none_of_keys {ls : List Text} {key : String}
    (h : ∀ line ∈ ls, configLineKey line ≠ some key.toList) :
    entryValue (ls.filterMap configEntry) key = none := by
  rw [entryValue_eq_none]
  intro entry hentry heq
  obtain ⟨line, hline, hentry⟩ := List.mem_filterMap.1 hentry
  apply h line hline
  rw [← configEntry_map_fst, hentry, Option.map_some, heq]

/-- One line among others. -/
theorem entryValue_lines (front back : List Text) (line : Text) (key : String) :
    entryValue ((front ++ line :: back).filterMap configEntry) key
      = ((entryValue (back.filterMap configEntry) key).or
          (entryValue (configEntry line).toList key)).or
        (entryValue (front.filterMap configEntry) key) := by
  rw [List.filterMap_append, entryValue_append, List.filterMap_cons]
  cases configEntry line with
  | none => simp [entryValue]
  | some entry =>
    dsimp only
    rw [← List.singleton_append, entryValue_append]
    rfl

/-- Lines with another key are nothing to this one. -/
theorem entryValue_other {line : Text} {storageKey key : String}
    (hline : configLineKey line = some storageKey.toList) (hne : key ≠ storageKey) :
    entryValue (configEntry line).toList key = none := by
  rw [entryValue_eq_none]
  intro entry hentry heq
  rw [← configEntry_map_fst, Option.mem_toList.1 hentry, Option.map_some, heq, Option.some.injEq,
    String.toList_inj] at hline
  exact hne hline

/-- **The entries after `set`.** -/
theorem entryValue_set {storageKey : String} {value : Text} (hkey : PlainKey storageKey.toList)
    (hne : storageKey.toList ≠ []) (hvalue : PlainValue value) (editor : ConfigEnvEditor)
    (key : String) :
    entryValue ((editor.set storageKey.toList value).lines.filterMap configEntry) key
      = if key = storageKey then some value
        else entryValue (editor.lines.filterMap configEntry) key := by
  have hwritten {line : Text} (hline : Written storageKey.toList value line) :
      entryValue (configEntry line).toList storageKey = some value := by
    rw [hline.entry hkey hvalue, Option.toList_some, entryValue_singleton, if_pos rfl]
  rcases editor.set_cases storageKey.toList value with
    ⟨hall, hlines, -⟩ | ⟨front, line, back, hold, hline, hback, hlines, -⟩
  · have hnew : Written storageKey.toList value (storageKey.toList ++ '=' :: value) :=
      written_plain
    rw [hlines, entryValue_lines, List.filterMap_nil]
    by_cases heq : key = storageKey
    · rw [if_pos heq, heq, hwritten hnew]
      rfl
    · rw [if_neg heq, entryValue_other (hnew.lineKey hkey hvalue) heq]
      rfl
  · have hrewritten : Rewritten storageKey.toList value line
        (replaceConfigLineValue line storageKey.toList value) := rewritten_replace hkey hne hline
    have hnew := hrewritten.written
    rw [hlines, hold, entryValue_lines, entryValue_lines]
    by_cases heq : key = storageKey
    · rw [if_pos heq, heq, hwritten hnew, entryValue_eq_none_of_keys hback]
      rfl
    · rw [if_neg heq, entryValue_other (hnew.lineKey hkey hvalue) heq,
        entryValue_other hline heq]

end ConfigEnvEditor

end LgBuddy
