import LgBuddy.Pairing.Unpair
import LgBuddy.Settings.ConfigLines
import LgBuddy.Text.Ascii

/-!
# LgBuddy — the config without the TV

The remover goes through bytes and knows ASCII white space; the reader goes through characters and
knows all white space there is.

* `isPrimaryConfigLine_utf8Bytes` — the remover as a reader of characters;
* `removePrimaryConfigKeys_utf8Bytes` — what it leaves is the other lines, byte by byte;
* `Forgotten` — what the reader finds in a config that has lost the TV;
* `PlainlySpaced` — no line with a key of the TV has other white space around the key;
* `forgotten_iff` — these are the configs that lose the TV.
-/

namespace LgBuddy

open Str (asciiByte asciiChar isAscii isWhitespace utf8Bytes)
open Keyed (Reads lineKey trimWith)

/-! ## White space -/

/-- Tab, line feed, form feed, carriage return and space. -/
def isAsciiSpace (c : Char) : Bool := isAscii c && isAsciiWhitespace (asciiByte c)

theorem isAsciiSpace_iff {c : Char} :
    isAsciiSpace c = true ↔ isAscii c = true ∧ isAsciiWhitespace (asciiByte c) = true := by
  rw [isAsciiSpace, Bool.and_eq_true]

/-- ASCII white space is white space. -/
theorem isWhitespace_of_ascii {c : Char} (h : isAsciiSpace c = true) : isWhitespace c = true := by
  obtain ⟨hascii, hspace⟩ := isAsciiSpace_iff.1 h
  have hchar : ∀ d, isAscii d = true → asciiByte c = asciiByte d → isWhitespace d = true →
      isWhitespace c = true := by
    intro d hd hbyte hwhite
    rw [Str.asciiByte_injective hascii hd hbyte]
    exact hwhite
  unfold isAsciiWhitespace at hspace
  simp only [Bool.or_eq_true, beq_iff_eq] at hspace
  rcases hspace with (((hbyte | hbyte) | hbyte) | hbyte) | hbyte
  · exact hchar '\t' (by decide) hbyte (by decide)
  · exact hchar '\n' (by decide) hbyte (by decide)
  · exact hchar '\x0c' (by decide) hbyte (by decide)
  · exact hchar '\r' (by decide) hbyte (by decide)
  · exact hchar ' ' (by decide) hbyte (by decide)

/-- White space of ASCII is below the high bit. -/
theorem asciiWhitespace_lt {byte : UInt8} (h : isAsciiWhitespace byte = true) :
    byte.toNat < 0x80 := by
  unfold isAsciiWhitespace at h
  simp only [Bool.or_eq_true, beq_iff_eq] at h
  rcases h with (((rfl | rfl) | rfl) | rfl) | rfl <;> decide

/-- The characters of the keys. -/
theorem tvKeys_plain {key : String} (hkey : key ∈ tvKeys) :
    ∀ c ∈ key.toList, isAscii c = true ∧ isWhitespace c = false ∧ c ≠ '=' ∧ c ≠ '#' := by
  have hall : ∀ key ∈ tvKeys, ∀ c ∈ key.toList,
      isAscii c = true ∧ isWhitespace c = false ∧ c ≠ '=' ∧ c ≠ '#' := by decide
  exact hall key hkey

/-! ## The remover -/

/-- A stripped white space byte changes nothing about the trimmed line. -/
theorem trimAsciiWhitespace_stripByte {byte : UInt8} (h : isAsciiWhitespace byte = true)
    (line : List UInt8) :
    trimAsciiWhitespace (stripByte byte line) = trimAsciiWhitespace line := by
  unfold stripByte
  split
  · rename_i hlast
    have hline : line = line.dropLast ++ [byte] :=
      (List.dropLast_append_getLast? byte hlast).symm
    have htrim : trimWith isAsciiWhitespace (line.dropLast ++ [byte])
        = trimWith isAsciiWhitespace line.dropLast :=
      Keyed.trimWith_append_space fun b hb => by rw [List.mem_singleton.1 hb, h]
    rw [← hline] at htrim
    exact htrim.symm
  · rfl

/-- The remover reads a line as the library does. -/
theorem isPrimaryConfigLine_iff {line : List UInt8} :
    isPrimaryConfigLine line = true ↔
      ∃ key ∈ tvKeys, lineKey isAsciiWhitespace 0x23 0x3d line = some (utf8Bytes key.toList) := by
  have htrim : trimAsciiWhitespace (stripByte 0x0d (trimAsciiWhitespace (stripByte 0x0a line)))
      = trimWith isAsciiWhitespace line := by
    rw [trimAsciiWhitespace_stripByte (by decide), trimAsciiWhitespace_stripByte (by decide)]
    exact Keyed.trimWith_trimWith line
  unfold isPrimaryConfigLine lineKey
  dsimp only
  rw [htrim]
  by_cases hstart : ((trimWith isAsciiWhitespace line).isEmpty
      || (trimWith isAsciiWhitespace line).head? = some 0x23) = true
  · simp [hstart]
  · rw [if_neg hstart, if_neg hstart]
    by_cases hsign : 0x3d ∈ trimWith isAsciiWhitespace line
    · rw [if_pos hsign, if_pos hsign, List.any_eq_true]
      apply exists_congr
      intro key
      rw [decide_eq_true_eq, Option.some.injEq]
      rfl
    · simp [hsign]

/-- ASCII around an ASCII key in the bytes of a line is around it in the line. -/
theorem reads_utf8Bytes {key line : Text} (hkey : ∀ c ∈ key, isAscii c = true) :
    Keyed.Reads isAsciiWhitespace 0x3d (utf8Bytes key) (utf8Bytes line) ↔
      Keyed.Reads isAsciiSpace '=' key line := by
  have hsign : utf8Bytes ['='] = [0x3d] := by decide
  constructor
  · rintro ⟨before, between, rest, hline, hbefore, hbetween⟩
    -- ASCII white space is one byte for one character
    have hspaces : ∀ bytes : List UInt8, (∀ b ∈ bytes, isAsciiWhitespace b = true) →
        utf8Bytes (bytes.map asciiChar) = bytes
          ∧ ∀ c ∈ bytes.map asciiChar, isAsciiSpace c = true := by
      intro bytes hbytes
      refine ⟨Str.utf8Bytes_map_asciiChar fun b hb => asciiWhitespace_lt (hbytes b hb), ?_⟩
      intro c hc
      obtain ⟨b, hb, rfl⟩ := List.mem_map.1 hc
      obtain ⟨hascii, hbyte⟩ := Str.asciiChar_spec (asciiWhitespace_lt (hbytes b hb))
      exact isAsciiSpace_iff.2 ⟨hascii, by rw [hbyte]; exact hbytes b hb⟩
    obtain ⟨hbeforeBytes, hbefore'⟩ := hspaces before hbefore
    obtain ⟨hbetweenBytes, hbetween'⟩ := hspaces between hbetween
    have hfront : utf8Bytes line = utf8Bytes (before.map asciiChar ++ key
        ++ between.map asciiChar ++ ['=']) ++ rest := by
      rw [Str.utf8Bytes_append, Str.utf8Bytes_append, Str.utf8Bytes_append, hbeforeBytes,
        hbetweenBytes, hsign, hline]
      simp
    have hascii : ∀ c ∈ before.map asciiChar ++ key ++ between.map asciiChar ++ ['='],
        isAscii c = true := by
      intro c hc
      simp only [List.mem_append, List.mem_singleton] at hc
      rcases hc with ((hc | hc) | hc) | rfl
      · exact (isAsciiSpace_iff.1 (hbefore' c hc)).1
      · exact hkey c hc
      · exact (isAsciiSpace_iff.1 (hbetween' c hc)).1
      · decide
    -- the front is ASCII, so the line is cut between characters
    obtain ⟨behind, hsplit, -⟩ := Str.utf8Bytes_append_ascii hascii hfront
    refine ⟨before.map asciiChar, between.map asciiChar, behind, ?_, hbefore', hbetween'⟩
    rw [hsplit]
    simp
  · rintro ⟨before, between, rest, rfl, hbefore, hbetween⟩
    have hspaces : ∀ text : Text, (∀ c ∈ text, isAsciiSpace c = true) →
        ∀ b ∈ utf8Bytes text, isAsciiWhitespace b = true := by
      intro text htext b hb
      rw [Str.utf8Bytes_ascii fun c hc => (isAsciiSpace_iff.1 (htext c hc)).1] at hb
      obtain ⟨c, hc, rfl⟩ := List.mem_map.1 hb
      exact (isAsciiSpace_iff.1 (htext c hc)).2
    refine ⟨utf8Bytes before, utf8Bytes between, utf8Bytes rest, ?_, hspaces before hbefore,
      hspaces between hbetween⟩
    have hrest : utf8Bytes ('=' :: rest) = 0x3d :: utf8Bytes rest :=
      Str.utf8Bytes_cons_ascii (by decide) rest
    rw [Str.utf8Bytes_append, Str.utf8Bytes_append, Str.utf8Bytes_append, hrest]

/-- **The remover as a reader of characters.** -/
theorem isPrimaryConfigLine_utf8Bytes {line : Text} :
    isPrimaryConfigLine (utf8Bytes line) = true ↔
      ∃ key ∈ tvKeys, Keyed.Reads isAsciiSpace '=' key.toList line := by
  rw [isPrimaryConfigLine_iff]
  apply exists_congr
  intro key
  apply and_congr_right
  intro hkey
  have hplain := tvKeys_plain hkey
  rw [Keyed.lineKey_plain (by decide) (by decide), reads_utf8Bytes fun c hc => (hplain c hc).1]
  intro b hb
  rw [Str.utf8Bytes_ascii fun c hc => (hplain c hc).1] at hb
  obtain ⟨c, hc, rfl⟩ := List.mem_map.1 hb
  obtain ⟨hascii, hwhite, hsign, hmark⟩ := hplain c hc
  refine ⟨?_, ?_, ?_⟩
  · by_contra hspace
    rw [isWhitespace_of_ascii (isAsciiSpace_iff.2 ⟨hascii, by simpa using hspace⟩)] at hwhite
    cases hwhite
  · exact fun h => hsign (Str.asciiByte_injective hascii (by decide) (h : _ = asciiByte '='))
  · exact fun h => hmark (Str.asciiByte_injective hascii (by decide) (h : _ = asciiByte '#'))

/-! ## What the remover leaves -/

/-- The lines that the remover keeps. -/
def keepsLine (line : Text) : Bool := !isPrimaryConfigLine (utf8Bytes line)

def withoutTv (contents : Text) : Text := ((configLines contents).filter keepsLine).flatten

/-- Bytes within a line are put to the line. -/
theorem removePrimaryFrom_append {bytes : List UInt8} (h : 0x0a ∉ bytes)
    (line contents rest : List UInt8) :
    removePrimaryFrom line contents (bytes ++ rest)
      = removePrimaryFrom (line ++ bytes) contents rest := by
  induction bytes generalizing line with
  | nil => rw [List.nil_append, List.append_nil]
  | cons b bytes ih =>
    have hb : b ≠ 0x0a := fun hb => h (by rw [hb]; exact .head _)
    have hbytes : 0x0a ∉ bytes := fun hmem => h (.tail _ hmem)
    rw [List.cons_append, removePrimaryFrom, if_pos hb, ih hbytes, List.append_assoc]
    rfl

/-- **The remover leaves the other lines, byte by byte.** -/
theorem removePrimaryConfigKeys_utf8Bytes (contents : Text) :
    removePrimaryConfigKeys (utf8Bytes contents) = utf8Bytes (withoutTv contents) := by
  have hline : ∀ word : Text, (∀ c ∈ word, (c == '\n') = false) → 0x0a ∉ utf8Bytes word := by
    intro word hword hmem
    have hchar := (Str.mem_utf8Bytes_ascii (c := '\n') (by decide)).1 hmem
    simpa using hword '\n' hchar
  -- line by line, with what is kept so far in front
  have hfrom : ∀ kept, removePrimaryFrom [] kept (utf8Bytes contents)
      = kept ++ utf8Bytes (withoutTv contents) := by
    unfold withoutTv configLines
    induction contents using Str.parts_induction (· == '\n') with
    | last word hword =>
      intro kept
      have hbytes := removePrimaryFrom_append (hline word hword) [] kept []
      rw [List.append_nil, List.nil_append] at hbytes
      rw [hbytes, Str.splitInclusive_last hword, removePrimaryFrom]
      by_cases hempty : word = []
      · subst hempty
        simp
      · have hne : utf8Bytes word ≠ [] := fun h => hempty (Str.utf8Bytes_injective h)
        rw [if_pos hne, if_neg hempty, List.filter_singleton]
        unfold keepsLine
        cases isPrimaryConfigLine (utf8Bytes word) with
        | true => simp
        | false => simp
    | part word c rest hword hc ih =>
      intro kept
      obtain rfl : c = '\n' := by simpa using hc
      have hlast : utf8Bytes (word ++ ['\n']) = utf8Bytes word ++ [0x0a] := by
        rw [Str.utf8Bytes_append]
        rfl
      have hcons : utf8Bytes ('\n' :: rest) = 0x0a :: utf8Bytes rest :=
        Str.utf8Bytes_cons_ascii (by decide) rest
      rw [Str.utf8Bytes_append, removePrimaryFrom_append (hline word hword), List.nil_append,
        hcons, removePrimaryFrom, if_neg (by simp), ih, Str.splitInclusive_append hword hc,
        List.filter_cons, ← hlast]
      unfold keepsLine
      cases isPrimaryConfigLine (utf8Bytes (word ++ ['\n'])) with
      | true => rfl
      | false => simp [Str.utf8Bytes_cons]
  exact hfrom []

/-- The lines kept are those that are not of the TV. -/
theorem configLines_withoutTv (contents : Text) :
    configLines (withoutTv contents) = (configLines contents).filter keepsLine :=
  configLines_filter keepsLine contents

/-! ## What the reader finds -/

/-- The reader finds this key in the line. -/
theorem reads_configEntry {key : String} (hkey : key ∈ tvKeys) {line : Text} :
    Keyed.Reads isWhitespace '=' key.toList line
      ↔ ∃ value, configEntry line = some (key.toList, value) := by
  have hplain := tvKeys_plain hkey
  have hkeyed : lineKey isWhitespace '#' '=' line = some key.toList
      ↔ Keyed.Reads isWhitespace '=' key.toList line :=
    Keyed.lineKey_plain (by decide) (by decide)
      fun c hc => ⟨(hplain c hc).2.1, (hplain c hc).2.2.1, (hplain c hc).2.2.2⟩
  rw [← hkeyed, ← configEntry_key]
  constructor
  · intro h
    obtain ⟨entry, hentry, hname⟩ := Option.map_eq_some_iff.1 h
    exact ⟨entry.2, by rw [hentry, ← hname]⟩
  · rintro ⟨value, hentry⟩
    rw [hentry]
    rfl

/-- A key read with ASCII trimming is read with Unicode trimming. -/
theorem reads_of_ascii {key line : Text} (h : Keyed.Reads isAsciiSpace '=' key line) :
    Keyed.Reads isWhitespace '=' key line := by
  obtain ⟨before, between, rest, hline, hbefore, hbetween⟩ := h
  exact ⟨before, between, rest, hline, fun c hc => isWhitespace_of_ascii (hbefore c hc),
    fun c hc => isWhitespace_of_ascii (hbetween c hc)⟩

/-- No line with a key of the TV has any white space around the key but ASCII white space. -/
def PlainlySpaced (contents : Text) : Prop :=
  ∀ line ∈ configLines contents, ∀ key ∈ tvKeys,
    Keyed.Reads isWhitespace '=' key.toList line → Keyed.Reads isAsciiSpace '=' key.toList line

/-- **What the reader finds in a config that has lost the TV.** -/
structure Forgotten (before after : Text) : Prop where
  /-- The entries are the same but for the keys of the TV. -/
  entries : ∀ key : String, entryValue (parseConfigEntries after) key
    = if key ∈ tvKeys then none else entryValue (parseConfigEntries before) key
  /-- The lines are lines of the config before, in their order. -/
  kept : (configLines after).Sublist (configLines before)
  /-- A line that has no key of the TV is among them. -/
  others : ((configLines before).filter fun line =>
      !tvKeys.any fun key => (configEntry line).map Prod.fst = some key.toList).Sublist
    (configLines after)

/-- A line that is left out sets a key of the TV, and only that. -/
theorem entry_of_dropped {line : Text} (h : keepsLine line = false) :
    ∃ key ∈ tvKeys, ∃ value, configEntry line = some (key.toList, value) := by
  have hprimary : isPrimaryConfigLine (utf8Bytes line) = true := by
    simpa [keepsLine] using h
  obtain ⟨key, hkey, hreads⟩ := isPrimaryConfigLine_utf8Bytes.1 hprimary
  exact ⟨key, hkey, (reads_configEntry hkey).1 (reads_of_ascii hreads)⟩

/-- In a plainly spaced text no line of the TV's keys is kept. -/
theorem keepsLine_of_plain {contents line : Text} (hplain : PlainlySpaced contents)
    (hline : line ∈ configLines contents) {key : String} (hkey : key ∈ tvKeys) {value : Text}
    (hentry : configEntry line = some (key.toList, value)) : keepsLine line = false := by
  have hreads := hplain line hline key hkey ((reads_configEntry hkey).2 ⟨value, hentry⟩)
  unfold keepsLine
  rw [isPrimaryConfigLine_utf8Bytes.2 ⟨key, hkey, hreads⟩]
  rfl

/-- The keys of the TV, as texts. -/
def isTvKey (key : Text) : Bool := tvKeys.any fun candidate => key = candidate.toList

/-- The TV's keys are those of the table. -/
theorem isTvKey_toList (key : String) : isTvKey key.toList = true ↔ key ∈ tvKeys := by
  unfold isTvKey
  rw [List.any_eq_true]
  constructor
  · rintro ⟨candidate, hmem, heq⟩
    rw [decide_eq_true_eq, String.toList_inj] at heq
    rw [heq]
    exact hmem
  · exact fun h => ⟨key, h, by simp⟩

/-- In a plainly spaced text exactly the entries of the TV are gone. -/
theorem parseConfigEntries_withoutTv {contents : Text} (hplain : PlainlySpaced contents) :
    parseConfigEntries (withoutTv contents)
      = (parseConfigEntries contents).filter fun entry => !isTvKey entry.1 := by
  rw [parseConfigEntries_eq, parseConfigEntries_eq, configLines_withoutTv, List.filterMap_filter,
    List.filter_filterMap]
  apply List.filterMap_congr
  intro line hline
  cases hentry : configEntry line with
  | none => cases keepsLine line <;> rfl
  | some entry =>
    cases hkeep : keepsLine line with
    | false =>
      obtain ⟨key, hkey, value, hset⟩ := entry_of_dropped hkeep
      rw [hset, Option.some.injEq] at hentry
      simp [← hentry, Option.filter_some, (isTvKey_toList key).2 hkey]
    | true =>
      have hnot : isTvKey entry.1 = false := by
        by_contra htv
        obtain ⟨key, hkey, heq⟩ := List.any_eq_true.1 (eq_true_of_ne_false htv)
        rw [decide_eq_true_eq] at heq
        have hread : configEntry line = some (key.toList, entry.2) := by rw [hentry, ← heq]
        have hdrop := keepsLine_of_plain hplain hline hkey hread
        rw [hkeep] at hdrop
        cases hdrop
      simp [Option.filter_some, hnot]

/-- **Which configs lose the TV.** -/
theorem forgotten_iff (contents : Text) :
    Forgotten contents (withoutTv contents) ↔ PlainlySpaced contents := by
  constructor
  · intro h line hline key hkey hreads
    by_contra hnot
    obtain ⟨value, hentry⟩ := (reads_configEntry hkey).1 hreads
    -- the line is kept, and the reader still finds the key in it
    have hkeep : keepsLine line = true := by
      by_contra hdrop
      have hprimary : isPrimaryConfigLine (utf8Bytes line) = true := by
        simpa [keepsLine] using hdrop
      obtain ⟨key', hkey', hreads'⟩ := isPrimaryConfigLine_utf8Bytes.1 hprimary
      obtain ⟨value', hentry'⟩ := (reads_configEntry hkey').1 (reads_of_ascii hreads')
      rw [hentry, Option.some.injEq, Prod.mk.injEq] at hentry'
      rw [String.toList_inj.1 hentry'.1] at hnot
      exact hnot hreads'
    have hnone := h.entries key
    rw [if_pos hkey, entryValue_eq_none] at hnone
    refine hnone (key.toList, value) ?_ rfl
    rw [parseConfigEntries_eq, configLines_withoutTv]
    exact List.mem_filterMap.2 ⟨line, List.mem_filter.2 ⟨hline, hkeep⟩, hentry⟩
  · intro hplain
    refine ⟨fun key => ?_, ?_, ?_⟩
    · rw [parseConfigEntries_withoutTv hplain,
        entryValue_filter (parseConfigEntries contents) (fun key => !isTvKey key)]
      by_cases hkey : key ∈ tvKeys
      · simp [hkey, (isTvKey_toList key).2 hkey]
      · have hnot : isTvKey key.toList = false := by
          by_contra htv
          exact hkey ((isTvKey_toList key).1 (eq_true_of_ne_false htv))
        simp [hkey, hnot]
    · rw [configLines_withoutTv]
      exact List.filter_sublist
    · rw [configLines_withoutTv]
      apply List.monotone_filter_right
      intro line hother
      by_contra hdrop
      obtain ⟨key, hkey, value, hentry⟩ := entry_of_dropped (eq_false_of_ne_true hdrop)
      simp only [Bool.not_eq_true', List.any_eq_false, decide_eq_true_eq] at hother
      exact hother key hkey (by rw [hentry]; rfl)

end LgBuddy
