import LgBuddy.Diagnostics.Report
import LgBuddy.Text.Lines

/-!
# LgBuddy — what redaction leaves of a text

* `HarmlessLine`, `Unmarked` — a line without formatting and URLs, and one without a marker;
* `Settled` — a line that is replaced as a whole, or has nothing to be taken out of it;
* `safeLine_harmless`, `safeLine_unmarked` — one line;
* `safeLines_joined`, `truncateString_cut` — the loop, and the cut;
* `safeText_linewise`, `safeText_idempotent` — the whole.
-/

namespace LgBuddy

namespace Diagnostics

open Str

/-! ## Lines -/

structure KeptChar (c : Char) : Prop where
  control : isControl c = true → c = '\t'
  bidirectional : isBidirectional c = false

/-- A line with no character and no URL that is to be left out. -/
structure HarmlessLine (line : Text) : Prop where
  kept : ∀ c ∈ line, KeptChar c
  url : ¬ "://".toList <:+: line

def Unmarked (line : Text) : Prop := containsSecretMarker line = false

/-- Nothing is taken out of the line behind the test: it has a marker, and is replaced as a whole,
or it is harmless already. -/
def Settled (line : Text) : Prop := containsSecretMarker line = true ∨ HarmlessLine line

/-- No marker occurs in the line, whatever the case of its letters. -/
theorem unmarked_iff {line : Text} :
    Unmarked line ↔ ∀ marker ∈ secretMarkers, ¬ marker <:+: line.map Char.toLower := by
  unfold Unmarked containsSecretMarker
  simp only [List.any_eq_false, contains_iff]

/-- A part of a harmless line is harmless. -/
theorem hereditary_harmless : Hereditary HarmlessLine := fun _ _ h hpart =>
  ⟨fun c hc => h.kept c (hpart.mem hc), fun hurl => h.url (hurl.trans hpart)⟩

/-- A part of an unmarked line is unmarked. -/
theorem hereditary_unmarked : Hereditary Unmarked := by
  intro part line h hpart
  rw [unmarked_iff] at h ⊢
  exact fun marker hmarker hinside => h marker hmarker (hinside.trans (hpart.map Char.toLower))

theorem space_kept : KeptChar ' ' := ⟨by decide, by decide⟩

/-- A harmless line has no line end in it. -/
theorem HarmlessLine.readable {line : Text} (h : HarmlessLine line) : Readable line where
  feed hmem := absurd ((h.kept '\n' hmem).control (by decide)) (by decide)
  cr hmem := absurd ((h.kept '\r' hmem).control (by decide)) (by decide)

/-- A line without slashes has no URL. -/
theorem HarmlessLine.of_noSlash {line : Text} (hkept : ∀ c ∈ line, KeptChar c)
    (hslash : '/' ∉ line) : HarmlessLine line :=
  ⟨hkept, fun hurl => hslash (hurl.mem (by decide))⟩

/-- The texts of the code have neither. -/
theorem HarmlessLine.of_plain {line : Text}
    (h : ∀ c ∈ line, isControl c = false ∧ isBidirectional c = false ∧ c ≠ '/') :
    HarmlessLine line := by
  refine HarmlessLine.of_noSlash (fun c hc => ⟨fun hcontrol => ?_, (h c hc).2.1⟩) fun hslash =>
    (h '/' hslash).2.2 rfl
  rw [(h c hc).1] at hcontrol
  cases hcontrol

/-- Characters in front of a line do not make a URL of it. -/
theorem HarmlessLine.cons {c : Char} {line : Text} (h : HarmlessLine line) (hc : KeptChar c)
    (hcolon : c ≠ ':') : HarmlessLine (c :: line) where
  kept := List.forall_mem_cons.2 ⟨hc, h.kept⟩
  url hurl := by
    rcases List.infix_cons_iff.1 hurl with hstart | hinside
    · exact hcolon (List.cons_prefix_cons.1 hstart).1.symm
    · exact h.url hinside

/-! ## Redaction of one line -/

/-- What `sanitized` leaves is kept by it. -/
theorem sanitized_kept (line : Text) : ∀ c ∈ sanitized line, KeptChar c := by
  intro c hc
  obtain ⟨hmap, hbidi⟩ := List.mem_filter.1 hc
  obtain ⟨d, -, rfl⟩ := List.mem_map.1 hmap
  refine ⟨fun hcontrol => ?_, by simpa using hbidi⟩
  -- a control is replaced by a space, unless it is the tab
  split at hcontrol
  · rename_i hkept
    rw [if_pos hkept]
    simp only [Bool.or_eq_true, decide_eq_true_eq, Bool.not_eq_true'] at hkept
    rcases hkept with (rfl | rfl) | hnot
    · rfl
    · exact absurd hcontrol (by decide)
    · rw [hnot] at hcontrol
      cases hcontrol
  · exact absurd hcontrol (by decide)

/-- Sanitizing changes nothing of a line whose characters are all kept. -/
theorem sanitized_of_kept {line : Text} (h : ∀ c ∈ line, KeptChar c) : sanitized line = line := by
  have hmap :
      (line.map fun c => if c = '\t' || c = ' ' || !isControl c then c else ' ') = line := by
    refine (List.map_congr_left fun c hc => ?_).trans (List.map_id line)
    cases hcontrol : isControl c with
    | true => simp [(h c hc).control hcontrol]
    | false => simp
  rw [sanitized, hmap, List.filter_eq_self]
  intro c hc
  rw [(h c hc).bidirectional]
  rfl

/-- A part of a split text has only characters of that text. -/
theorem mem_of_mem_splitOnP {p : Char → Bool} {text part : Text} (h : part ∈ text.splitOnP p) :
    ∀ c ∈ part, c ∈ text := by
  induction text generalizing part with
  | nil =>
    rw [List.splitOnP_nil, List.mem_singleton] at h
    rw [h]
    exact List.forall_mem_nil _
  | cons d text ih =>
    rw [List.splitOnP_cons_eq_if_modifyHead] at h
    split at h
    · rcases List.mem_cons.1 h with rfl | h
      · exact List.forall_mem_nil _
      · exact fun c hc => List.mem_cons_of_mem _ (ih h c hc)
    · -- the character belongs to the first part
      cases hparts : text.splitOnP p with
      | nil => exact absurd hparts (List.splitOnP_ne_nil p text)
      | cons first parts =>
        rw [hparts] at h ih
        rcases List.mem_cons.1 h with rfl | h
        · rw [List.forall_mem_cons]
          exact ⟨List.mem_cons_self, fun c hc =>
            List.mem_cons_of_mem _ (ih List.mem_cons_self c hc)⟩
        · exact fun c hc => List.mem_cons_of_mem _ (ih (List.mem_cons_of_mem _ h) c hc)

/-- What stands in parts with a separator between them stands in one of them. -/
theorem infix_intercalate {pattern : Text} {separator : Char} {parts : List Text}
    (h : pattern <:+: [separator].intercalate parts) (hseparator : separator ∉ pattern)
    (hne : pattern ≠ []) : ∃ part ∈ parts, pattern <:+: part := by
  induction parts with
  | nil => exact absurd (List.infix_nil.1 h) hne
  | cons part parts ih =>
    cases parts with
    | nil => exact ⟨part, List.mem_cons_self, by simpa [List.intercalate] using h⟩
    | cons next parts =>
      rw [List.intercalate_cons_cons, List.append_assoc, List.singleton_append] at h
      have hdrop : separator ∉ pattern.dropLast := fun hmem =>
        hseparator (List.mem_of_mem_dropLast hmem)
      rcases infix_append_cons h hdrop with hinside | hinside
      · exact ⟨part, List.mem_cons_self, infix_concat_notMem hinside hseparator⟩
      · obtain ⟨other, hother, hmem⟩ := ih hinside
        exact ⟨other, List.mem_cons_of_mem _ hother, hmem⟩

/-- A character of joined parts is the separator or one of a part. -/
theorem mem_intercalate {c separator : Char} {parts : List Text}
    (h : c ∈ [separator].intercalate parts) : c = separator ∨ ∃ part ∈ parts, c ∈ part := by
  induction parts with
  | nil => cases h
  | cons part parts ih =>
    cases parts with
    | nil => exact .inr ⟨part, List.mem_cons_self, by simpa [List.intercalate] using h⟩
    | cons next parts =>
      rw [List.intercalate_cons_cons, List.append_assoc, List.singleton_append] at h
      rcases List.mem_append.1 h with hpart | hrest
      · exact .inr ⟨part, List.mem_cons_self, hpart⟩
      · rcases List.mem_cons.1 hrest with rfl | hrest
        · exact .inl rfl
        · rcases ih hrest with heq | ⟨other, hother, hmem⟩
          · exact .inl heq
          · exact .inr ⟨other, List.mem_cons_of_mem _ hother, hmem⟩

theorem urlNotice_harmless : HarmlessLine "[URL omitted]".toList :=
  HarmlessLine.of_plain (by decide)

/-- Without its URLs a sanitized line is harmless. -/
theorem redactUrls_harmless {line : Text} (h : ∀ c ∈ line, KeptChar c) :
    HarmlessLine (redactUrls line) := by
  unfold redactUrls
  cases hurl : contains line "://".toList with
  | false =>
    show HarmlessLine line
    refine ⟨h, fun hinside => ?_⟩
    rw [contains_iff.2 hinside] at hurl
    cases hurl
  | true =>
    have hpart : ∀ part ∈ (splitWhitespace line).map fun part =>
        if contains part "://".toList then "[URL omitted]".toList else part, HarmlessLine part := by
      intro part hmem
      obtain ⟨word, hword, rfl⟩ := List.mem_map.1 hmem
      split
      · exact urlNotice_harmless
      · rename_i hnone
        refine ⟨fun c hc => h c (mem_of_mem_splitOnP (List.mem_filter.1 hword).1 c hc), ?_⟩
        rwa [contains_iff] at hnone
    refine ⟨fun c hc => ?_, fun hinside => ?_⟩
    · rcases mem_intercalate hc with rfl | ⟨part, hmem, hc⟩
      · exact space_kept
      · exact (hpart part hmem).kept c hc
    -- no URL can arise across the spaces between the words
    · obtain ⟨part, hmem, hinside⟩ := infix_intercalate hinside (by decide) (by decide)
      exact (hpart part hmem).url hinside

/-- A line without a URL stays as it is. -/
theorem redactUrls_of_harmless {line : Text} (h : HarmlessLine line) : redactUrls line = line := by
  have hnone : contains line "://".toList = false := by
    rw [← Bool.not_eq_true, contains_iff]
    exact h.url
  rw [redactUrls, hnone]
  rfl

theorem secretNotice_harmless : HarmlessLine "[Credential-bearing output omitted]".toList :=
  HarmlessLine.of_plain (by decide)

/-- The notice for a credential names none of the markers itself. -/
theorem secretNotice_unmarked : Unmarked "[Credential-bearing output omitted]".toList := by
  show containsSecretMarker _ = false
  decide +kernel

/-- Every line comes out harmless. -/
theorem safeLine_harmless (line : Text) : HarmlessLine (safeLine line) := by
  unfold safeLine
  split
  · exact secretNotice_harmless
  · exact redactUrls_harmless (sanitized_kept line)

/-- A harmless line is kept as it is, or it has a marker. -/
theorem safeLine_of_harmless {line : Text} (h : HarmlessLine line) (hmarker : Unmarked line) :
    safeLine line = line := by
  unfold safeLine
  rw [hmarker, sanitized_of_kept h.kept, redactUrls_of_harmless h]
  rfl

/-- The test comes before anything is taken out of the line, so that of a line that is not settled
a marker may be left. -/
theorem safeLine_unmarked {line : Text} (h : Settled line) : Unmarked (safeLine line) := by
  cases h with
  | inl hmarker =>
    unfold safeLine
    rw [hmarker]
    exact secretNotice_unmarked
  | inr hharmless =>
    by_cases hmarker : Unmarked line
    · rw [safeLine_of_harmless hharmless hmarker]
      exact hmarker
    · have hfound : containsSecretMarker line = true := eq_true_of_ne_false hmarker
      unfold safeLine
      rw [hfound]
      exact secretNotice_unmarked

/-! ## The loop -/

/-- What the loop writes: the lines one after the other, without empty ones at the start, and at
least as many as are needed to go beyond the limit. -/
theorem safeLines_joined (maxBytes : Nat) (rest : List Text) {result : Text}
    (hresult : result ≠ []) :
    ∃ written, written <+: rest.map safeLine
      ∧ safeLines maxBytes result rest = result ++ joined written
      ∧ (written = rest.map safeLine ∨ maxBytes < utf8Len (result ++ joined written)) := by
  induction rest generalizing result with
  | nil => exact ⟨[], List.nil_prefix, by simp [safeLines], .inl rfl⟩
  | cons line rest ih =>
    rw [safeLines]
    dsimp only
    rw [if_neg fun hand => hresult hand.2]
    split
    · rename_i hlong
      refine ⟨[safeLine line], by simp, by simp [joined], .inr ?_⟩
      simpa [joined] using hlong
    · have hmore : result ++ safeLine line ++ ['\n'] ≠ [] := by simp
      obtain ⟨written, hstart, heq, hend⟩ := ih hmore
      refine ⟨safeLine line :: written, ?_, ?_, ?_⟩
      · rw [List.map_cons]
        exact List.cons_prefix_cons.2 ⟨rfl, hstart⟩
      · rw [heq, joined_cons]
        simp
      · rcases hend with hall | hlong
        · exact .inl (by rw [hall, List.map_cons])
        · refine .inr ?_
          rw [joined_cons]
          simpa using hlong

/-- The lines that are written if there is room for all of them. -/
def allLines (lines : List Text) : List Text := (lines.map safeLine).dropWhile (· = [])

/-- From an empty hand the lines are written one by one, leading empty ones dropped, until one
passes the limit. -/
theorem safeLines_nil (maxBytes : Nat) (rest : List Text) :
    ∃ written, written <+: allLines rest ∧ safeLines maxBytes [] rest = joined written
      ∧ (written = allLines rest ∨ maxBytes < utf8Len (joined written)) := by
  induction rest with
  | nil => exact ⟨[], List.nil_prefix, rfl, .inl rfl⟩
  | cons line rest ih =>
    rw [safeLines]
    dsimp only
    -- an empty line at the very start is dropped
    by_cases hempty : safeLine line = []
    · rw [if_pos ⟨hempty, rfl⟩]
      have hall : allLines (line :: rest) = allLines rest := by
        unfold allLines
        rw [List.map_cons, List.dropWhile_cons_of_pos (by simpa using hempty)]
      rw [hall]
      exact ih
    · rw [if_neg fun hand => hempty hand.1]
      have hall : allLines (line :: rest) = safeLine line :: rest.map safeLine := by
        unfold allLines
        rw [List.map_cons, List.dropWhile_cons_of_neg (by simpa using hempty)]
      rw [hall, List.nil_append]
      split
      · rename_i hlong
        exact ⟨[safeLine line], by simp, by simp [joined], .inr (by simpa [joined] using hlong)⟩
      · have hfirst : safeLine line ++ ['\n'] ≠ [] := by simp
        obtain ⟨written, hstart, heq, hend⟩ := safeLines_joined maxBytes rest hfirst
        refine ⟨safeLine line :: written, List.cons_prefix_cons.2 ⟨rfl, hstart⟩, ?_, ?_⟩
        · rw [heq, joined_cons]
          simp
        · rcases hend with hmore | hlong
          · exact .inl (by rw [hmore])
          · refine .inr ?_
            rw [joined_cons]
            simpa using hlong

/-! ## The cut -/

/-- The boundary found is one, and not behind where the search began. -/
theorem boundaryBefore_spec (value : Text) (boundary : Nat) :
    boundaryBefore value boundary ≤ boundary
      ∧ ∃ before, getTo (boundaryBefore value boundary) value = some before := by
  induction boundary with
  | zero => exact ⟨Nat.le_refl _, [], by cases value <;> rfl⟩
  | succ boundary ih =>
    rw [boundaryBefore]
    split
    · rename_i hsome
      exact ⟨Nat.le_refl _, Option.isSome_iff_exists.1 hsome⟩
    · exact ⟨Nat.le_succ_of_le ih.1, ih.2⟩

/-- A place between two characters is its own boundary. -/
theorem boundaryBefore_eq {value : Text} {boundary : Nat}
    (h : (getTo boundary value).isSome = true) : boundaryBefore value boundary = boundary := by
  cases boundary with
  | zero => rfl
  | succ boundary => rw [boundaryBefore, if_pos h]

/-- **No cut falls inside a character**, where there is room for the notice. -/
theorem truncateString_cut {maxBytes : Nat} (hmax : utf8Len truncationMarker < maxBytes)
    (value : Text) :
    (utf8Len value ≤ maxBytes ∧ truncateString value maxBytes = .ok value)
    ∨ (maxBytes < utf8Len value ∧ ∃ front, front <+: value
      ∧ getTo (boundaryBefore value (maxBytes - utf8Len truncationMarker)) value = some front
      ∧ utf8Len front + utf8Len truncationMarker ≤ maxBytes
      ∧ truncateString value maxBytes = .ok (front ++ truncationMarker)) := by
  by_cases hfits : utf8Len value ≤ maxBytes
  · exact .inl ⟨hfits, if_pos hfits⟩
  · obtain ⟨hle, front, hfront⟩ :=
      boundaryBefore_spec value (maxBytes - utf8Len truncationMarker)
    obtain ⟨behind, hvalue, hlength⟩ := getTo_eq_some.1 hfront
    refine .inr ⟨Nat.lt_of_not_le hfits, front, ⟨behind, hvalue.symm⟩, hfront, by omega, ?_⟩
    rw [truncateString, if_neg hfits, if_neg (Nat.not_le.2 hmax), truncate, hfront]
    rfl

theorem utf8Len_truncationMarker : utf8Len truncationMarker = 19 := by decide

theorem truncationMarker_eq : truncationMarker = '\n' :: "[Output truncated]".toList := by decide

theorem truncationNotice_harmless : HarmlessLine "[Output truncated]".toList :=
  HarmlessLine.of_plain (by decide)

/-- The notice of a truncation has no marker in it. -/
theorem truncationNotice_unmarked : Unmarked "[Output truncated]".toList := by
  show containsSecretMarker _ = false
  decide +kernel

/-- What holds of the lines of a text and of the notice holds of the lines of the cut text. -/
theorem truncateString_linewise {P : Text → Prop} (hP : Hereditary P)
    (hnotice : P "[Output truncated]".toList) {maxBytes : Nat}
    (hmax : utf8Len truncationMarker < maxBytes) {value : Text} (h : Linewise P value) :
    ∃ result, truncateString value maxBytes = .ok result ∧ Linewise P result
      ∧ utf8Len result ≤ maxBytes := by
  rcases truncateString_cut hmax value with ⟨hfits, hok⟩ | ⟨-, front, hfront, -, hlength, hok⟩
  · exact ⟨value, hok, h, hfits⟩
  · refine ⟨front ++ truncationMarker, hok, ?_, by rw [utf8Len_append]; exact hlength⟩
    rw [truncationMarker_eq]
    exact (h.part hfront.isInfix).append_line (hP.linewise hnotice)

/-! ## The whole -/

/-- A line that is written comes from a line that was given. -/
theorem mem_allLines {lines : List Text} {line : Text} (h : line ∈ allLines lines) :
    ∃ source ∈ lines, safeLine source = line :=
  List.mem_map.1 ((List.dropWhile_suffix _).mem h)

/-- Whatever holds of the parts of every safe line, and of the notice, holds of each line of the
text, which keeps to the limit. -/
theorem safeText_linewise {P : Text → Prop} (hP : Hereditary P)
    (hnotice : P "[Output truncated]".toList) {maxBytes : Nat}
    (hmax : utf8Len truncationMarker < maxBytes) {input : Text}
    (h : ∀ line ∈ lines input, P (safeLine line)) :
    ∃ result, safeText input maxBytes = .ok result ∧ Linewise P result
      ∧ utf8Len result ≤ maxBytes := by
  refine truncateString_linewise hP hnotice hmax ?_
  obtain ⟨written, hstart, heq, -⟩ := safeLines_nil maxBytes (lines input)
  rw [heq]
  refine linewise_joined (hP [] _ hnotice (List.nil_infix)) fun line hline => hP.linewise ?_
  obtain ⟨source, hsource, rfl⟩ := mem_allLines (hstart.mem hline)
  exact h source hsource

/-- A limited text is harmless, and no marker stands in it if every line was settled. -/
theorem safeText_harmless {maxBytes : Nat} (hmax : utf8Len truncationMarker < maxBytes)
    (input : Text) :
    ∃ result, safeText input maxBytes = .ok result ∧ utf8Len result ≤ maxBytes
      ∧ Linewise HarmlessLine result
      ∧ ((∀ line ∈ lines input, Settled line) → Linewise Unmarked result) := by
  obtain ⟨result, hok, hharmless, hlength⟩ :=
    safeText_linewise hereditary_harmless truncationNotice_harmless hmax
      fun line (_ : line ∈ lines input) => safeLine_harmless line
  refine ⟨result, hok, hlength, hharmless, fun hnone => ?_⟩
  obtain ⟨result', hok', hunmarked, -⟩ :=
    safeText_linewise hereditary_unmarked truncationNotice_unmarked hmax
      fun line hline => safeLine_unmarked (hnone line hline)
  rw [hok] at hok'
  cases hok'
  exact hunmarked

/-! ## Idempotence -/

/-- The text is not cut, or the cut falls between two characters. -/
def CutBetween (input : Text) (maxBytes : Nat) : Prop :=
  let value := safeLines maxBytes [] (lines input)
  utf8Len value ≤ maxBytes
    ∨ (getTo (maxBytes - utf8Len truncationMarker) value).isSome = true

/-- A line that redaction keeps. -/
structure SafeLine (line : Text) : Prop where
  harmless : HarmlessLine line
  unmarked : Unmarked line

/-- A part of a safe line is safe. -/
theorem hereditary_safe : Hereditary SafeLine := fun part line h hpart =>
  ⟨hereditary_harmless part line h.harmless hpart, hereditary_unmarked part line h.unmarked hpart⟩

/-- Safe lines are all written as they are. -/
theorem allLines_of_safe {written : List Text} (h : ∀ line ∈ written, SafeLine line)
    (hfirst : written.head? ≠ some []) : allLines written = written := by
  have hmap : written.map safeLine = written := by
    refine (List.map_congr_left fun line hline => ?_).trans (List.map_id written)
    exact safeLine_of_harmless (h line hline).harmless (h line hline).unmarked
  rw [allLines, hmap]
  cases written with
  | nil => rfl
  | cons line rest =>
    rw [List.dropWhile_cons_of_neg]
    simpa using hfirst

/-- The first lines make the first part of the text. -/
theorem joined_mono {written written' : List Text} (h : written <+: written') :
    joined written <+: joined written' := by
  obtain ⟨rest, rfl⟩ := h
  rw [joined_append]
  exact List.prefix_append _ _

/-- A first part as long as the whole is the whole. -/
theorem eq_of_prefix_of_utf8Len {front text : Text} (h : front <+: text)
    (hlength : utf8Len text ≤ utf8Len front) : front = text := by
  obtain ⟨rest, rfl⟩ := h
  rw [utf8Len_append] at hlength
  have hrest : rest = [] := utf8Len_eq_zero.1 (by omega)
  rw [hrest, List.append_nil]

/-- Lines that are kept, and no more of them than one byte beyond the limit, are written again. -/
theorem safeLines_of_safe {maxBytes : Nat} {written : List Text}
    (h : ∀ line ∈ written, SafeLine line) (hfirst : written.head? ≠ some [])
    (hlength : utf8Len (joined written) ≤ maxBytes + 1) :
    safeLines maxBytes [] written = joined written := by
  obtain ⟨again, hstart, heq, hend⟩ := safeLines_nil maxBytes written
  rw [allLines_of_safe h hfirst] at hstart hend
  rw [heq]
  rcases hend with rfl | hlong
  · rfl
  · exact eq_of_prefix_of_utf8Len (joined_mono hstart) (by omega)

/-- **Redaction is idempotent** on settled lines, where it cuts no character off. -/
theorem safeText_idempotent {maxBytes : Nat} (hmax : utf8Len truncationMarker < maxBytes)
    {input result : Text} (hok : safeText input maxBytes = .ok result)
    (hnone : ∀ line ∈ lines input, Settled line) (hcut : CutBetween input maxBytes) :
    safeText result maxBytes = .ok result := by
  obtain ⟨written, hstart, heq, -⟩ := safeLines_nil maxBytes (lines input)
  have hsafe : ∀ line ∈ written, SafeLine line := by
    intro line hline
    obtain ⟨source, hsource, rfl⟩ := mem_allLines (hstart.mem hline)
    exact ⟨safeLine_harmless source, safeLine_unmarked (hnone source hsource)⟩
  have hfirst : written.head? ≠ some [] := by
    intro hhead
    obtain ⟨rest, hall⟩ := hstart
    cases written with
    | nil => cases hhead
    | cons line written =>
      cases hhead
      have hnot := List.head?_dropWhile_not (· = []) ((lines input).map safeLine)
      rw [show ((lines input).map safeLine).dropWhile (· = []) = _ from hall.symm] at hnot
      simp at hnot
  unfold CutBetween at hcut
  dsimp only at hcut
  unfold safeText at hok
  rw [heq] at hok hcut
  rcases truncateString_cut hmax (joined written) with
    ⟨hfits, hwhole⟩ | ⟨hlong, front, -, hfront, -, htruncated⟩
  · -- the lines are read back
    rw [hok] at hwhole
    cases hwhole
    have hread : lines (joined written) = written :=
      lines_joined fun line hline => (hsafe line hline).harmless.readable
    unfold safeText
    rw [hread, safeLines_of_safe hsafe hfirst (by omega)]
    exact hok
  · rw [hok] at htruncated
    cases htruncated
    have hexact := hcut.resolve_left (by omega)
    rw [boundaryBefore_eq hexact] at hfront
    obtain ⟨behind, hvalue, hfrontLength⟩ := getTo_eq_some.1 hfront
    obtain ⟨whole, part, hwhole, rfl, hpart⟩ :=
      prefix_joined (show front <+: joined written from ⟨behind, hvalue.symm⟩)
    -- what is read back: whole lines, the line that was cut, and the notice
    have hpartSafe : SafeLine part := by
      rcases hpart with rfl | ⟨line, hline, hpart⟩
      · exact hereditary_safe [] _ ⟨truncationNotice_harmless, truncationNotice_unmarked⟩
          List.nil_infix
      · exact hereditary_safe part line (hsafe line (hline.mem (by simp))) hpart.isInfix
    have hsafe' : ∀ line ∈ whole ++ [part, "[Output truncated]".toList], SafeLine line := by
      intro line hline
      rcases List.mem_append.1 hline with hline | hline
      · exact hsafe line (hwhole.mem hline)
      · rcases List.mem_cons.1 hline with rfl | hline
        · exact hpartSafe
        · rw [List.mem_singleton.1 hline]
          exact ⟨truncationNotice_harmless, truncationNotice_unmarked⟩
    have htext : joined whole ++ part ++ truncationMarker
        = joined (whole ++ [part]) ++ "[Output truncated]".toList := by
      rw [joined_append, joined_cons, joined_nil, truncationMarker_eq]
      simp
    have hread : lines (joined whole ++ part ++ truncationMarker)
        = whole ++ [part, "[Output truncated]".toList] := by
      rw [htext, lines_joined_append _ (by decide), if_neg (by decide), List.append_assoc]
      · rfl
      · exact fun line hline => (hsafe' line (by
          rcases List.mem_append.1 hline with hline | hline
          · simp [hline]
          · simp [List.mem_singleton.1 hline])).harmless.readable
    have hjoined : joined (whole ++ [part, "[Output truncated]".toList])
        = joined whole ++ part ++ truncationMarker ++ ['\n'] := by
      rw [htext]
      simp [joined]
    have hlength : utf8Len (joined whole ++ part ++ truncationMarker ++ ['\n']) = maxBytes + 1 := by
      rw [utf8Len_append, utf8Len_append, hfrontLength]
      have hfeed : utf8Len ['\n'] = 1 := by decide
      omega
    have hfirst' : (whole ++ [part, "[Output truncated]".toList]).head? ≠ some [] := by
      cases whole with
      | nil =>
        intro hhead
        have hempty : part = [] := by simpa using hhead
        rw [hempty] at hfrontLength
        have hzero : utf8Len (joined [] ++ []) = 0 := rfl
        omega
      | cons line whole =>
        obtain ⟨rest, rfl⟩ := hwhole
        exact hfirst
    unfold safeText
    rw [hread, safeLines_of_safe hsafe' hfirst' (by rw [hjoined, hlength]), hjoined]
    have hagain : getTo (maxBytes - utf8Len truncationMarker)
        (joined whole ++ part ++ truncationMarker ++ ['\n']) = some (joined whole ++ part) :=
      getTo_eq_some.2 ⟨truncationMarker ++ ['\n'], by rw [List.append_assoc], hfrontLength⟩
    rw [truncateString, if_neg (by omega), if_neg (Nat.not_le.2 hmax),
      boundaryBefore_eq (by rw [hagain]; rfl), truncate, hagain]
    rfl

end Diagnostics

end LgBuddy
