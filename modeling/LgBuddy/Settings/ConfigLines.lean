import LgBuddy.Settings.ConfigEnv
import LgBuddy.Text.Infix
import LgBuddy.Text.Keyed

/-!
# LgBuddy — a config text line by line

What the reader of a config makes of each line, with the line ending or without it.

* `configLines` — the lines, each with its ending;
* `parseConfigEntries_eq` — the entries line by line; an ending is space like any other;
* `configEntry_key`, `configLineKey_eq` — the reader and the editor find the same key;
* `configEntry_of_parts` — the entry of a line with a plain key;
* `entryValue_filter`, `entryValue_append` — the entries of parts of a text;
* `configLines_filter` — leaving out lines makes a text of the others.
-/

namespace LgBuddy

open Str (isWhitespace lines splitInclusive splitOnce stripLineEnding trim)
open Keyed (lineKey trimWith)

/-- The lines of a text with their endings; the last one may have none. -/
def configLines (contents : Text) : List Text := splitInclusive (· == '\n') contents

/-! ## Endings -/

theorem stripLineEnding_append (line : Text) :
    ∃ ending, line = stripLineEnding line ++ ending ∧ ∀ c ∈ ending, isWhitespace c = true := by
  cases line using List.reverseRecOn with
  | nil => exact ⟨[], rfl, nofun⟩
  | append_singleton front c =>
    by_cases hc : c = '\n'
    · subst hc
      cases front using List.reverseRecOn with
      | nil => exact ⟨['\n'], rfl, by decide⟩
      | append_singleton front d =>
        by_cases hd : d = '\r'
        · subst hd
          exact ⟨['\r', '\n'], by simp [stripLineEnding], by decide⟩
        · exact ⟨['\n'], by simp [stripLineEnding, hd], by decide⟩
    · exact ⟨[], by simp [stripLineEnding, hc], nofun⟩

theorem trim_stripLineEnding (line : Text) : trim (stripLineEnding line) = trim line := by
  obtain ⟨ending, hline, hending⟩ := stripLineEnding_append line
  have htrim : trimWith isWhitespace (stripLineEnding line ++ ending)
      = trimWith isWhitespace (stripLineEnding line) := Keyed.trimWith_append_space hending
  rw [← hline] at htrim
  exact htrim.symm

theorem configEntry_stripLineEnding (line : Text) :
    configEntry (stripLineEnding line) = configEntry line := by
  unfold configEntry
  rw [trim_stripLineEnding]

/-- **The entries line by line.** -/
theorem parseConfigEntries_eq (contents : Text) :
    parseConfigEntries contents = (configLines contents).filterMap configEntry := by
  unfold parseConfigEntries lines configLines
  rw [List.filterMap_map]
  apply List.filterMap_congr
  intro line _
  exact configEntry_stripLineEnding line

/-! ## Keys -/

theorem splitOnce_eq (sign : Char) (text : Text) :
    splitOnce sign text = if sign ∈ text
      then some (text.takeWhile (· ≠ sign), (text.dropWhile (· ≠ sign)).tail) else none := by
  unfold splitOnce
  split
  · rename_i hnone
    have hnot : sign ∉ text := fun hmem => by
      simpa using List.dropWhile_eq_nil_iff.1 hnone sign hmem
    rw [if_neg hnot]
  · rename_i head tail hsome
    have hmem : sign ∈ text := by
      by_contra hnot
      have hall : text.dropWhile (· ≠ sign) = [] := by
        refine List.dropWhile_eq_nil_iff.2 fun c hc => ?_
        have hne : c ≠ sign := fun h => hnot (h ▸ hc)
        simpa using hne
      rw [hall] at hsome
      cases hsome
    rw [if_pos hmem, hsome]
    rfl

/-- The key that the reader finds in a line. -/
theorem configEntry_key (line : Text) :
    (configEntry line).map Prod.fst = lineKey isWhitespace '#' '=' line := by
  have htrim : trimWith isWhitespace line = trim line := rfl
  unfold configEntry lineKey
  dsimp only
  rw [htrim]
  by_cases hstart : ((trim line).isEmpty || (trim line).head? = some '#') = true
  · rw [if_pos hstart, if_pos hstart]
    rfl
  · rw [if_neg hstart, if_neg hstart, splitOnce_eq]
    by_cases hsign : '=' ∈ trim line
    · rw [if_pos hsign, if_pos hsign]
      rfl
    · rw [if_neg hsign, if_neg hsign]
      rfl

/-- The editor finds the same key. -/
theorem configLineKey_eq (line : Text) :
    configLineKey line = lineKey isWhitespace '#' '=' line := by
  rw [Keyed.lineKey_leading (by decide)]
  unfold configLineKey
  dsimp only
  split
  · rfl
  · rw [splitOnce_eq]
    split
    · rfl
    · rfl

theorem configEntry_map_fst (line : Text) :
    (configEntry line).map Prod.fst = configLineKey line := by
  rw [configLineKey_eq, configEntry_key]

/-! ## Values -/

theorem trim_append_space {line behind : Text} (hbehind : ∀ c ∈ behind, isWhitespace c = true) :
    trim (line ++ behind) = trim line := by
  have htrim : trimWith isWhitespace (line ++ behind) = trimWith isWhitespace line :=
    Keyed.trimWith_append_space hbehind
  exact htrim

/-- Space at the end of a value is nothing to it, unless a comment is in front. -/
theorem sanitizeConfigValue_trimEnd (value : Text) :
    sanitizeConfigValue (value.rdropWhile isWhitespace) = sanitizeConfigValue value := by
  have hparts : value.rdropWhile isWhitespace ++ value.rtakeWhile isWhitespace = value :=
    List.rdropWhile_append_rtakeWhile
  have hbehind : ∀ c ∈ value.rtakeWhile isWhitespace, isWhitespace c = true :=
    fun c hc => List.mem_rtakeWhile_imp hc
  generalize value.rdropWhile isWhitespace = front at hparts ⊢
  generalize value.rtakeWhile isWhitespace = behind at hparts hbehind
  subst hparts
  unfold sanitizeConfigValue
  by_cases hmark : '#' ∈ front
  · obtain ⟨word, rest, rfl, hword⟩ := List.eq_append_cons_of_mem hmark
    rw [List.append_assoc, List.cons_append, Keyed.takeWhile_append_sign hword,
      Keyed.takeWhile_append_sign hword]
  · have hall : ∀ c ∈ front, decide (c ≠ '#') = true := by
      intro c hc
      simpa using fun h : c = '#' => hmark (h ▸ hc)
    have hblank : ∀ c ∈ behind, decide (c ≠ '#') = true := by
      intro c hc
      have hne : c ≠ '#' := by
        rintro rfl
        exact absurd (hbehind '#' hc) (by decide)
      simpa using hne
    rw [List.takeWhile_append_of_pos hall, List.takeWhile_eq_self_iff.2 hall,
      List.takeWhile_eq_self_iff.2 hblank, trim_append_space hbehind]

/-- A plain key: no space in it, no sign and no mark. -/
def PlainKey (key : Text) : Prop := ∀ c ∈ key, isWhitespace c = false ∧ c ≠ '=' ∧ c ≠ '#'

instance (key : Text) : Decidable (PlainKey key) :=
  inferInstanceAs (Decidable (∀ c ∈ key, isWhitespace c = false ∧ c ≠ '=' ∧ c ≠ '#'))

/-- **The entry of a line** that begins with a plain key. -/
theorem configEntry_of_parts {before key between rest : Text} (hkey : PlainKey key)
    (hbefore : ∀ c ∈ before, isWhitespace c = true)
    (hbetween : ∀ c ∈ between, isWhitespace c = true) :
    configEntry (before ++ key ++ between ++ '=' :: rest)
      = some (key, sanitizeConfigValue rest) := by
  have htrimmed : Keyed.Trimmed isWhitespace key := .of_forall fun c hc => (hkey c hc).1
  have hhead : key.head? ≠ some '#' := fun h => (hkey '#' (List.mem_of_mem_head? h)).2.2 rfl
  have hequals : isWhitespace '=' = false := by decide
  obtain ⟨gap, htrim, hspace, hfirst⟩ :=
    @Keyed.trimWith_key _ _ '#' _ hequals (by decide) before key between rest hbefore hbetween
      htrimmed hhead
  have htrim' : trim (before ++ key ++ between ++ '=' :: rest)
      = key ++ gap ++ '=' :: rest.rdropWhile isWhitespace := htrim
  have hstart : ¬((key ++ gap ++ '=' :: rest.rdropWhile isWhitespace).isEmpty
      || decide ((key ++ gap ++ '=' :: rest.rdropWhile isWhitespace).head? = some '#')) = true := by
    rw [Bool.or_eq_true, decide_eq_true_eq, not_or]
    exact ⟨by simp, hfirst⟩
  have hnotMem : '=' ∉ key ++ gap := by
    intro h
    rcases List.mem_append.1 h with h | h
    · exact (hkey _ h).2.1 rfl
    · exact absurd (hspace _ h) (by decide)
  have hsplit : splitOnce '=' (key ++ gap ++ '=' :: rest.rdropWhile isWhitespace)
      = some (key ++ gap, rest.rdropWhile isWhitespace) :=
    Str.splitOnce_eq_some.2 ⟨rfl, hnotMem⟩
  have hkeyTrim : trim ([] ++ key ++ gap) = key :=
    Keyed.trimWith_append_append (List.forall_mem_nil _) hspace htrimmed
  rw [List.nil_append] at hkeyTrim
  unfold configEntry
  dsimp only
  rw [htrim', if_neg hstart, hsplit, Option.map_some, hkeyTrim, sanitizeConfigValue_trimEnd]

/-- The parts of a line with a plain key. -/
theorem parts_of_configLineKey {line key : Text} (hkey : PlainKey key)
    (h : configLineKey line = some key) : Keyed.Reads isWhitespace '=' key line := by
  rw [configLineKey_eq] at h
  exact (Keyed.lineKey_plain (by decide) (by decide) hkey).1 h

/-! ## Entries -/

/-- Entries with one kind of key left out. -/
theorem entryValue_filter (entries : List (Text × Text)) (keep : Text → Bool) (key : String) :
    entryValue (entries.filter fun entry => keep entry.1) key
      = if keep key.toList then entryValue entries key else none := by
  unfold entryValue
  rw [← List.filter_reverse, List.find?_filter]
  split
  · rename_i hkeep
    congr 1
    congr 1
    funext entry
    by_cases hkey : entry.1 = key.toList
    · simp [hkey, hkeep]
    · simp [hkey]
  · rename_i hkeep
    rw [Option.map_eq_none_iff, List.find?_eq_none]
    intro entry _
    by_cases hkey : entry.1 = key.toList
    · simp [hkey, hkeep]
    · simp [hkey]

/-- Of two texts the second one counts. -/
theorem entryValue_append (xs ys : List (Text × Text)) (key : String) :
    entryValue (xs ++ ys) key = (entryValue ys key).or (entryValue xs key) := by
  unfold entryValue
  rw [List.reverse_append, List.find?_append]
  cases ys.reverse.find? fun entry => decide (entry.1 = key.toList) with
  | none => rfl
  | some entry => rfl

theorem entryValue_singleton (entry : Text × Text) (key : String) :
    entryValue [entry] key = if entry.1 = key.toList then some entry.2 else none := by
  unfold entryValue
  rw [List.reverse_singleton, List.find?_singleton]
  by_cases hkey : entry.1 = key.toList
  · simp [hkey]
  · simp [hkey]

/-! ## Leaving lines out -/

/-- **Leaving out lines makes a text of the others.** -/
theorem configLines_filter (keep : Text → Bool) (contents : Text) :
    configLines ((configLines contents).filter keep).flatten
      = (configLines contents).filter keep := by
  unfold configLines
  induction contents using Str.parts_induction (· == '\n') with
  | last word hword =>
    rw [Str.splitInclusive_last hword]
    split
    · rfl
    · rename_i hne
      rw [List.filter_singleton]
      cases keep word with
      | true => simp [Str.splitInclusive_last hword, hne]
      | false => rfl
  | part word c rest hword hc ih =>
    rw [Str.splitInclusive_append hword hc, List.filter_cons]
    split
    · rw [List.flatten_cons, List.append_assoc, List.singleton_append,
        Str.splitInclusive_append hword hc, ih]
    · exact ih

end LgBuddy
