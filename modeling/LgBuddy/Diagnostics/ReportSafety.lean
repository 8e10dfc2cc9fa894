import LgBuddy.Diagnostics.Journal
import LgBuddy.Diagnostics.Redaction

/-!
# LgBuddy — the report is bounded and redacted

* `Harmless` — no formatting and no URL anywhere in a text;
* `log_of_harmless` — a body that was redacted before has no marker at all;
* `stamp_harmless`, `findingsBody_linewise`, `entriesBody_linewise` — what is put into bodies;
* `renderReport_harmless` — the report;
* `diagnostics_are_redacted` — the law of sections, reports, findings and logs.
-/

namespace LgBuddy

namespace Diagnostics

open Str

/-- What a text that is shown does not have. -/
structure Harmless (text : Text) : Prop where
  control : ∀ c ∈ text, isControl c = true → c = '\t' ∨ c = '\n'
  bidirectional : ∀ c ∈ text, isBidirectional c = false
  url : ¬ "://".toList <:+: text

/-- A text whose lines are harmless is harmless. -/
theorem harmless_of_linewise {text : Text} (h : Linewise HarmlessLine text) : Harmless text := by
  have hchar : ∀ c ∈ text, c ≠ '\n' → KeptChar c := by
    intro c hc hfeed
    obtain ⟨before, behind, rfl⟩ := List.append_of_mem hc
    have hpart : [c] <:+: before ++ c :: behind := ⟨before, behind, by simp⟩
    exact (h [c] hpart (by simpa using hfeed.symm)).kept c List.mem_cons_self
  refine ⟨fun c hc hcontrol => ?_, fun c hc => ?_, fun hurl => ?_⟩
  · by_cases hfeed : c = '\n'
    · exact .inr hfeed
    · exact .inl ((hchar c hc hfeed).control hcontrol)
  · by_cases hfeed : c = '\n'
    · rw [hfeed]
      decide
    · exact (hchar c hc hfeed).bidirectional
  · exact (h _ hurl (by decide)).url List.infix_rfl

/-! ## Sections -/

theorem marker_lt_section : utf8Len truncationMarker < MAX_SECTION_BYTES := by
  rw [utf8Len_truncationMarker]
  decide

theorem marker_lt_finding : utf8Len truncationMarker < MAX_SESSION_FINDING_BYTES := by
  rw [utf8Len_truncationMarker]
  decide

/-- What a section is known to be. -/
structure SectionSafe (diagnosticSection : DiagnosticSection) : Prop where
  harmless : Linewise HarmlessLine diagnosticSection.body
  size : utf8Len diagnosticSection.body ≤ MAX_SECTION_BYTES

/-- Its markers are redacted, too. -/
def SectionUnmarked (diagnosticSection : DiagnosticSection) : Prop :=
  Linewise Unmarked diagnosticSection.body

/-- **Section.** The body of a new section is safe, and unmarked where every line was settled. -/
theorem new_safe (title : SectionTitle) (body : Text) :
    ∃ diagnosticSection, DiagnosticSection.new title body = .ok diagnosticSection
      ∧ SectionSafe diagnosticSection
      ∧ ((∀ line ∈ lines body, Settled line) → SectionUnmarked diagnosticSection) := by
  obtain ⟨text, hok, hsize, hharmless, hunmarked⟩ := safeText_harmless marker_lt_section body
  refine ⟨⟨title, text, .snapshot⟩, ?_, ⟨hharmless, hsize⟩, hunmarked⟩
  rw [DiagnosticSection.new, hok]
  rfl

/-- **Section.** The body of a log section is safe, and unmarked where every line was settled. -/
theorem log_safe (title : SectionTitle) (body : Text) :
    ∃ diagnosticSection, DiagnosticSection.log title body = .ok diagnosticSection
      ∧ SectionSafe diagnosticSection
      ∧ ((∀ line ∈ lines body, Settled line) → SectionUnmarked diagnosticSection) := by
  obtain ⟨diagnosticSection, hok, hsafe, hunmarked⟩ := new_safe title body
  refine ⟨{ diagnosticSection with kind := .logs }, ?_, ⟨hsafe.harmless, hsafe.size⟩, hunmarked⟩
  rw [DiagnosticSection.log, hok]
  rfl

/-- **A body whose lines are harmless already has no marker**, since nothing is taken out of them
behind the test. -/
theorem log_of_harmless (title : SectionTitle) {body : Text} (h : Linewise HarmlessLine body) :
    ∃ diagnosticSection, DiagnosticSection.log title body = .ok diagnosticSection
      ∧ SectionSafe diagnosticSection ∧ SectionUnmarked diagnosticSection := by
  obtain ⟨diagnosticSection, hok, hsafe, hunmarked⟩ := log_safe title body
  exact ⟨diagnosticSection, hok, hsafe,
    hunmarked fun line hline => .inr (h.lines line hline)⟩

/-! ## The time -/

/-- The characters of a time. -/
def StampChar (c : Char) : Prop := c.isDigit = true ∨ c ∈ ['-', 'T', ':', 'Z']

/-- The characters of a time are plain ones. -/
theorem StampChar.kept {c : Char} (h : StampChar c) : KeptChar c ∧ c ≠ '/' := by
  have hval : 0x20 ≤ c.toNat ∧ c.toNat < 0x7f := by
    rcases h with hdigit | hmem
    · obtain ⟨hlow, hhigh⟩ := Decimal.digit_toNat hdigit
      omega
    · have hall : ∀ d ∈ ['-', 'T', ':', 'Z'], 0x20 ≤ d.toNat ∧ d.toNat < 0x7f := by decide
      exact hall c hmem
  have hcontrol : isControl c = false := by
    unfold isControl
    simp only [Bool.or_eq_false_iff, Bool.and_eq_false_iff, decide_eq_false_iff_not,
      UInt32.lt_iff_toNat_lt, UInt32.le_iff_toNat_le]
    simp
    omega
  have hbidi : isBidirectional c = false := by
    unfold isBidirectional
    simp only [Bool.or_eq_false_iff, Bool.and_eq_false_iff, decide_eq_false_iff_not,
      UInt32.le_iff_toNat_le]
    simp
    omega
  refine ⟨⟨fun htrue => ?_, hbidi⟩, ?_⟩
  · rw [hcontrol] at htrue
    cases htrue
  · rintro rfl
    rcases h with hdigit | hmem
    · exact absurd hdigit (by decide)
    · exact absurd hmem (by decide)

/-- A padded number is digits, perhaps behind a sign. -/
theorem padded_stampChar (width : Nat) (value : Int) : ∀ c ∈ padded width value, StampChar c := by
  intro c hc
  unfold padded at hc
  rcases List.mem_append.1 hc with hc | hdigit
  · rcases List.mem_append.1 hc with hsign | hzero
    · split at hsign
      · rw [List.mem_singleton.1 hsign]
        exact .inr (by decide)
      · cases hsign
    · rw [List.eq_of_mem_replicate hzero]
      exact .inl rfl
  · exact .inl ((Decimal.canonical_toDigits _).digit c hdigit)

theorem stamp_of_some {seconds : UInt64} {text : Text}
    (h : formatUtcTimestamp seconds = some text) : stamp seconds = .ok text := by
  rw [stamp, h, orPanic]

/-- Every second has its time, in plain characters. -/
theorem stamp_ok (seconds : UInt64) :
    ∃ text, stamp seconds = .ok text ∧ ∀ c ∈ text, KeptChar c ∧ c ≠ '/' := by
  have htime := formatUtcTimestamp_eq seconds
  refine ⟨_, stamp_of_some htime, ?_⟩
  have hall : ∀ c ∈ timeText (timeOfSecond seconds.toNat), StampChar c := by
    intro c hc
    unfold timeText stampText at hc
    simp only [List.mem_append, List.mem_cons, List.not_mem_nil, or_false] at hc
    rcases hc with hc | rfl | hc | rfl | hc | rfl | hc | rfl | hc | rfl | hc | rfl
    all_goals first
      | exact padded_stampChar _ _ c hc
      | exact .inr (by decide)
  exact fun c hc => (hall c hc).kept

/-- A line of plain characters without a slash is harmless. -/
theorem harmless_of_chars {line : Text} (h : ∀ c ∈ line, KeptChar c ∧ c ≠ '/') :
    HarmlessLine line :=
  HarmlessLine.of_noSlash (fun c hc => (h c hc).1) fun hslash => (h '/' hslash).2 rfl

/-! ## Bodies -/

theorem linewise_of_infix_nil {P : Text → Prop} (hempty : P []) : Linewise P [] :=
  fun _ hpart _ => List.infix_nil.1 hpart ▸ hempty

theorem empty_harmless : HarmlessLine [] :=
  hereditary_harmless [] _ truncationNotice_harmless List.nil_infix

/-- A finding is redacted before it is put into the body. -/
theorem findingsBody_linewise {body : Text} (findings : List Text)
    (hbody : ∀ rest, Linewise HarmlessLine rest → Linewise HarmlessLine (body ++ rest)) :
    ∃ result, findingsBody body findings = .ok result ∧ Linewise HarmlessLine result := by
  induction findings generalizing body with
  | nil =>
    refine ⟨body, rfl, ?_⟩
    simpa using hbody [] (linewise_of_infix_nil empty_harmless)
  | cons finding findings ih =>
    obtain ⟨text, hok, -, hharmless, -⟩ := safeText_harmless marker_lt_finding finding
    rw [findingsBody, hok, Fallible.ok_bind]
    split
    · exact ih hbody
    · apply ih
      intro rest hrest
      have hline : Linewise HarmlessLine ("- ".toList ++ text) :=
        hharmless.prepend hereditary_harmless fun line h =>
          (h.cons space_kept (by decide)).cons ⟨by decide, by decide⟩ (by decide)
      have hmore := hbody _ (hline.append_line hrest)
      simpa using hmore

/-- The units of the code. -/
theorem units_chars (scope : ServiceScope) :
    ∀ unit ∈ scope.units, ∀ c ∈ unit.toList, KeptChar c ∧ c ≠ '/' := by
  have hall : ∀ unit ∈ scope.units, ∀ c ∈ unit.toList,
      isControl c = false ∧ isBidirectional c = false ∧ c ≠ '/' := by
    cases scope <;> decide
  intro unit hunit c hc
  obtain ⟨hcontrol, hbidi, hslash⟩ := hall unit hunit c hc
  exact ⟨⟨fun h => absurd h (by simp [hcontrol]), hbidi⟩, hslash⟩

section Journal

variable (fromStr : Text → Option Json)

/-- An entry that is read is of one of the units asked for. -/
theorem unit_of_readEntry {units : List String} {line : Text} {entry : JournalEntry}
    (h : readEntry fromStr units line = some entry) : entry.unit ∈ units := by
  unfold readEntry at h
  simp only [Option.bind_eq_bind, Option.bind_eq_some_iff] at h
  obtain ⟨value, -, name, -, unit, -, h⟩ := h
  split at h
  · cases h
  · rename_i hunit
    obtain ⟨message, -, h⟩ := Option.bind_eq_some_iff.1 h
    obtain ⟨timestamp, -, h⟩ := Option.bind_eq_some_iff.1 h
    cases h
    exact not_not.1 hunit

/-- Entries go into the body with their time, unit and sanitized message. By induction on the
lines that are left. -/
theorem entriesBody_linewise {scope : ServiceScope} {body : Text} (count : Nat) (rest : List Text)
    (hbody : ∀ rest, Linewise HarmlessLine rest → Linewise HarmlessLine (body ++ rest)) :
    ∃ result, entriesBody fromStr scope.units body count rest = .ok result
      ∧ Linewise HarmlessLine result := by
  have hdone : Linewise HarmlessLine body := by
    simpa using hbody [] (linewise_of_infix_nil empty_harmless)
  induction rest generalizing body count with
  | nil => exact ⟨body, rfl, hdone⟩
  | cons line rest ih =>
    rw [entriesBody]
    cases hentry : readEntry fromStr scope.units line with
    | none => exact ih count hbody hdone
    | some entry =>
      obtain ⟨time, htime, htimeChars⟩ := stamp_ok (entry.timestamp / 1000000)
      obtain ⟨message, hmessage, -, hharmless, -⟩ :=
        safeText_harmless marker_lt_finding entry.message
      have hunit := units_chars scope entry.unit (unit_of_readEntry fromStr hentry)
      -- the head line of an entry: its time and its unit
      have hhead : HarmlessLine (time ++ ' ' :: entry.unit.toList) := by
        refine harmless_of_chars fun c hc => ?_
        rcases List.mem_append.1 hc with hc | hc
        · exact htimeChars c hc
        · rcases List.mem_cons.1 hc with rfl | hc
          · exact ⟨space_kept, by decide⟩
          · exact hunit c hc
      -- and below it its message, indented
      have hlines : ∀ line ∈ (lines message).map ("  ".toList ++ ·), HarmlessLine line := by
        intro line hline
        obtain ⟨source, hsource, rfl⟩ := List.mem_map.1 hline
        exact ((hharmless.lines source hsource).cons space_kept (by decide)).cons space_kept
          (by decide)
      have hnext : ∀ next, Linewise HarmlessLine next → Linewise HarmlessLine
          (body ++ (time ++ ' ' :: entry.unit.toList ++ ['\n'])
            ++ ((lines message).flatMap fun line => "  ".toList ++ line ++ ['\n']) ++ next) := by
        intro next hnext
        have hjoined : (lines message).flatMap (fun line => "  ".toList ++ line ++ ['\n'])
            = joined ((lines message).map ("  ".toList ++ ·)) := by
          rw [joined, List.flatMap_map]
        have hrest := linewise_joined_append
          (fun line hline => hereditary_harmless.linewise (hlines line hline)) hnext
        have hmore := hbody _ ((hereditary_harmless.linewise hhead).append_line hrest)
        rw [hjoined]
        simpa using hmore
      dsimp only
      rw [htime, Fallible.ok_bind, hmessage, Fallible.ok_bind]
      have hwhole := hnext [] (linewise_of_infix_nil empty_harmless)
      rw [List.append_nil] at hwhole
      split
      · exact ⟨_, rfl, hwhole⟩
      · exact ih _ hnext hwhole

/-- The fixed texts of the journal are harmless. -/
theorem fixed_harmless :
    HarmlessLine "No entries available".toList ∧ HarmlessLine "Log read timed out".toList
      ∧ HarmlessLine "Logs unavailable".toList
      ∧ HarmlessLine "[Log capture reached 16 KiB]".toList :=
  ⟨HarmlessLine.of_plain (by decide), HarmlessLine.of_plain (by decide),
    HarmlessLine.of_plain (by decide), HarmlessLine.of_plain (by decide)⟩

/-- The text made of all journal entries is harmless. -/
theorem journalEntries_linewise (output : Text) (scope : ServiceScope) :
    ∃ result, journalEntries fromStr output scope.units = .ok result
      ∧ Linewise HarmlessLine result := by
  have hstart : ∀ rest, Linewise HarmlessLine rest → Linewise HarmlessLine ([] ++ rest) :=
    fun _ hrest => hrest
  obtain ⟨body, hok, hbody⟩ := entriesBody_linewise fromStr 0 (lines output) hstart
  rw [journalEntries, hok, Fallible.ok_bind]
  refine ⟨_, rfl, ?_⟩
  split
  · have htext : "No entries available\n".toList
        = "No entries available".toList ++ '\n' :: [] := by decide
    rw [htext]
    exact (hereditary_harmless.linewise fixed_harmless.1).append_line
      (linewise_of_infix_nil empty_harmless)
  · exact hbody

/-- A log is its entries, cut once more where the capture was cut, or the notice why there are
none. -/
theorem logBody_linewise (scope : ServiceScope) (read : LogRead) :
    ∃ result, logBody fromStr scope.units read = .ok result ∧ Linewise HarmlessLine result := by
  obtain ⟨-, htimeout, hunavailable, hcaptured⟩ := fixed_harmless
  cases read with
  | timedOut => exact ⟨_, rfl, hereditary_harmless.linewise htimeout⟩
  | unavailable => exact ⟨_, rfl, hereditary_harmless.linewise hunavailable⟩
  | captured stdout truncated =>
    obtain ⟨body, hok, hbody⟩ := journalEntries_linewise fromStr stdout scope
    rw [logBody, hok, Fallible.ok_bind]
    cases truncated with
    | false => exact ⟨body, rfl, hbody⟩
    | true =>
      have hroom : utf8Len truncationMarker < MAX_SECTION_BYTES - utf8Len captureMarker - 1 := by
        decide
      obtain ⟨text, htext, -, hharmless, -⟩ := safeText_harmless hroom body
      rw [if_pos rfl, htext, Fallible.ok_bind]
      refine ⟨_, rfl, ?_⟩
      have hmarker : captureMarker = "[Log capture reached 16 KiB]".toList ++ '\n' :: [] := by
        decide
      have hnotice : Linewise HarmlessLine captureMarker := by
        rw [hmarker]
        exact (hereditary_harmless.linewise hcaptured).append_line
          (linewise_of_infix_nil empty_harmless)
      split
      · rw [List.append_assoc]
        exact hharmless.append_line hnotice
      -- the text ends without a line end, so the notice goes on a line of its own
      · rename_i hend
        obtain ⟨front, rfl⟩ := List.getLast?_eq_some_iff.1 (not_not.1 hend)
        rw [List.append_assoc]
        exact (hharmless.part (List.prefix_append _ _).isInfix).append_line hnotice

/-- **The logs have no marker**: each message is redacted before it is put into the body. -/
theorem journalSection_safe (run : ServiceScope → LogRead) (scope : ServiceScope) :
    ∃ diagnosticSection, journalSection fromStr run scope = .ok diagnosticSection
      ∧ SectionSafe diagnosticSection ∧ SectionUnmarked diagnosticSection := by
  obtain ⟨body, hok, hbody⟩ := logBody_linewise fromStr scope (run scope)
  rw [journalSection, hok, Fallible.ok_bind]
  exact log_of_harmless scope.title hbody

end Journal

/-! ## The report -/

/-- Titles are harmless. -/
theorem title_harmless (title : SectionTitle) : HarmlessLine (title.text ++ [':']) := by
  apply HarmlessLine.of_plain
  cases title <;> decide

/-- A rendered section ends its last line. -/
theorem render_append {diagnosticSection : DiagnosticSection}
    (h : Linewise HarmlessLine diagnosticSection.body) {rest : Text}
    (hrest : Linewise HarmlessLine rest) :
    Linewise HarmlessLine (diagnosticSection.render ++ rest) := by
  have hempty : Linewise HarmlessLine [] := linewise_of_infix_nil empty_harmless
  have htitle := hereditary_harmless.linewise (title_harmless diagnosticSection.title)
  unfold DiagnosticSection.render
  split
  · have hmore := htitle.append_line (h.append_line (hempty.append_line hrest))
    simpa using hmore
  · have hmore := htitle.append_line (h.append_line hrest)
    simpa using hmore

/-- Harmless sections in a row, before a harmless text, make a harmless text. -/
theorem renderSections_append {sections : List DiagnosticSection}
    (h : ∀ diagnosticSection ∈ sections, Linewise HarmlessLine diagnosticSection.body) {rest : Text}
    (hrest : Linewise HarmlessLine rest) :
    Linewise HarmlessLine (sections.flatMap (·.render) ++ rest) := by
  induction sections with
  | nil => exact hrest
  | cons diagnosticSection sections ih =>
    rw [List.flatMap_cons, List.append_assoc]
    exact render_append (h diagnosticSection List.mem_cons_self)
      (ih fun other hother => h other (List.mem_cons_of_mem _ hother))

/-- A harmless heading with its rule, before a harmless text, makes a harmless text. -/
theorem heading_append {heading : Text} (h : HarmlessLine heading) {rest : Text}
    (hrest : Linewise HarmlessLine rest) :
    Linewise HarmlessLine (heading ++ "\n================\n\n".toList ++ rest) := by
  have hempty : Linewise HarmlessLine [] := linewise_of_infix_nil empty_harmless
  have hrule : HarmlessLine "================".toList := HarmlessLine.of_plain (by decide)
  have htext : "\n================\n\n".toList
      = '\n' :: ("================".toList ++ '\n' :: ([] ++ '\n' :: [])) := by decide
  have hmore := (hereditary_harmless.linewise h).append_line
    ((hereditary_harmless.linewise hrule).append_line (hempty.append_line hrest))
  rw [htext]
  simpa using hmore

/-- A part of the report is its heading and its sections, or nothing. -/
theorem renderKind_append {sections : List DiagnosticSection} (kind : SectionKind)
    {heading : Text} (hheading : HarmlessLine heading)
    (h : ∀ diagnosticSection ∈ sections, Linewise HarmlessLine diagnosticSection.body) {rest : Text}
    (hrest : Linewise HarmlessLine rest) :
    Linewise HarmlessLine (renderKind sections kind heading ++ rest) := by
  unfold renderKind
  dsimp only
  split
  · exact hrest
  · rw [List.append_assoc]
    exact heading_append hheading (renderSections_append
      (fun other hother => h other (List.mem_filter.1 hother).1) hrest)

/-- **Every report is harmless and bounded.** -/
theorem renderReport_safe {collectedAt : Text} (htime : ∀ c ∈ collectedAt, KeptChar c ∧ c ≠ '/')
    {sections : List DiagnosticSection}
    (h : ∀ diagnosticSection ∈ sections, Linewise HarmlessLine diagnosticSection.body) :
    ∃ text, renderReport collectedAt sections = .ok text ∧ Linewise HarmlessLine text
      ∧ utf8Len text ≤ MAX_REPORT_BYTES := by
  have hroom : utf8Len truncationMarker < MAX_REPORT_BYTES := by
    rw [utf8Len_truncationMarker]
    decide
  apply truncateString_linewise hereditary_harmless truncationNotice_harmless hroom
  have hempty : Linewise HarmlessLine [] := linewise_of_infix_nil empty_harmless
  have htitle : HarmlessLine "LG Buddy diagnostics".toList := HarmlessLine.of_plain (by decide)
  have hsnapshot : HarmlessLine "Current snapshot".toList := HarmlessLine.of_plain (by decide)
  have hlogs : HarmlessLine "Recent logs".toList := HarmlessLine.of_plain (by decide)
  have hcollected : HarmlessLine ("Collected at: ".toList ++ collectedAt) := by
    have hlabel : ∀ c ∈ "Collected at: ".toList,
        isControl c = false ∧ isBidirectional c = false ∧ c ≠ '/' := by decide
    refine harmless_of_chars fun c hc => ?_
    rcases List.mem_append.1 hc with hc | hc
    · obtain ⟨hcontrol, hbidi, hslash⟩ := hlabel c hc
      exact ⟨⟨fun htrue => absurd htrue (by simp [hcontrol]), hbidi⟩, hslash⟩
    · exact htime c hc
  have hkinds := renderKind_append .snapshot hsnapshot h (renderKind_append .logs hlogs h hempty)
  have hall := (hereditary_harmless.linewise htitle).append_line
    ((hereditary_harmless.linewise hcollected).append_line (hempty.append_line hkinds))
  have hfirst : "LG Buddy diagnostics\n".toList = "LG Buddy diagnostics".toList ++ ['\n'] := by
    decide
  have hblank : "\n\n".toList = ['\n', '\n'] := by decide
  rw [hfirst, hblank]
  simpa using hall

/-- What is kept of a report. -/
structure ReportSafe (report : DiagnosticsReport) : Prop where
  text : Linewise HarmlessLine report.text
  size : utf8Len report.text ≤ MAX_REPORT_BYTES
  time : ∀ c ∈ report.collectedAt, KeptChar c ∧ c ≠ '/'
  sections : ∀ diagnosticSection ∈ report.sections, SectionSafe diagnosticSection

/-- **Report.** Of safe sections a safe report is made. -/
theorem report_new_safe (seconds : UInt64) {sections : List DiagnosticSection}
    (h : ∀ diagnosticSection ∈ sections, SectionSafe diagnosticSection) :
    ∃ report, DiagnosticsReport.new seconds sections = .ok report ∧ ReportSafe report
      ∧ report.sections = sections := by
  obtain ⟨time, htime, hchars⟩ := stamp_ok seconds
  obtain ⟨text, htext, hharmless, hsize⟩ :=
    renderReport_safe hchars fun other hother => (h other hother).harmless
  refine ⟨⟨text, time, sections⟩, ?_, ⟨hharmless, hsize, hchars, h⟩, rfl⟩
  rw [DiagnosticsReport.new, htime, Fallible.ok_bind, htext]
  rfl

/-- Findings add at most one section, which has no marker. -/
theorem withSessionFindings_safe {report : DiagnosticsReport} (h : ReportSafe report)
    (findings : List Text) :
    ∃ report', report.withSessionFindings findings = .ok report' ∧ ReportSafe report'
      ∧ ∀ diagnosticSection ∈ report'.sections, diagnosticSection ∈ report.sections
        ∨ SectionSafe diagnosticSection ∧ SectionUnmarked diagnosticSection := by
  have hsame : ∀ diagnosticSection ∈ report.sections, diagnosticSection ∈ report.sections
      ∨ SectionSafe diagnosticSection ∧ SectionUnmarked diagnosticSection := fun _ hmem => .inl hmem
  unfold DiagnosticsReport.withSessionFindings
  split
  · exact ⟨report, rfl, h, hsame⟩
  · have hstart : ∀ rest, Linewise HarmlessLine rest → Linewise HarmlessLine ([] ++ rest) :=
      fun _ hrest => hrest
    obtain ⟨body, hok, hbody⟩ :=
      findingsBody_linewise (findings.reverse.take MAX_SESSION_FINDINGS) hstart
    rw [hok, Fallible.ok_bind]
    split
    · exact ⟨report, rfl, h, hsame⟩
    · obtain ⟨added, hadded, hsafe, hunmarked⟩ := log_of_harmless .guiSessionEvents hbody
      have hsections : ∀ diagnosticSection ∈ report.sections.insertIdx
          (report.sections.findIdx (·.kind = .logs)) added,
          diagnosticSection = added ∨ diagnosticSection ∈ report.sections :=
        fun _ hmem => List.eq_or_mem_of_mem_insertIdx hmem
      have hall : ∀ diagnosticSection ∈ report.sections.insertIdx
          (report.sections.findIdx (·.kind = .logs)) added, SectionSafe diagnosticSection := by
        intro other hother
        rcases hsections other hother with rfl | hmem
        · exact hsafe
        · exact h.sections other hmem
      obtain ⟨text, htext, hharmless, hsize⟩ :=
        renderReport_safe h.time fun other hother => (hall other hother).harmless
      rw [hadded, Fallible.ok_bind]
      dsimp only
      rw [htext, Fallible.ok_bind]
      refine ⟨_, rfl, ⟨hharmless, hsize, h.time, hall⟩, fun other hother => ?_⟩
      rcases hsections other hother with rfl | hmem
      · exact .inr ⟨hsafe, hunmarked⟩
      · exact .inl hmem

/-! ## The law -/

/-- A section as the two constructors build it. -/
def Built (diagnosticSection : DiagnosticSection) : Prop := ∃ title body,
  DiagnosticSection.new title body = .ok diagnosticSection
    ∨ DiagnosticSection.log title body = .ok diagnosticSection

/-- Built sections are safe. -/
theorem Built.safe {diagnosticSection : DiagnosticSection} (h : Built diagnosticSection) :
    SectionSafe diagnosticSection := by
  obtain ⟨title, body, hok | hok⟩ := h
  · obtain ⟨other, hother, hsafe, -⟩ := new_safe title body
    rw [hok] at hother
    cases hother
    exact hsafe
  · obtain ⟨other, hother, hsafe, -⟩ := log_safe title body
    rw [hok] at hother
    cases hother
    exact hsafe

/-- Limited, and without formatting and URLs. -/
structure Limited (text : Text) (maxBytes : Nat) : Prop where
  harmless : Harmless text
  size : utf8Len text ≤ maxBytes

/-- No line has a marker. -/
def Redacted (text : Text) : Prop := ∀ line ∈ splitAll '\n' text, Unmarked line

/-- A safe section keeps to its limit. -/
theorem SectionSafe.bounded {diagnosticSection : DiagnosticSection}
    (h : SectionSafe diagnosticSection) : Limited diagnosticSection.body MAX_SECTION_BYTES :=
  ⟨harmless_of_linewise h.harmless, h.size⟩

/-- A safe report keeps to the limit of a report. -/
theorem ReportSafe.bounded {report : DiagnosticsReport} (h : ReportSafe report) :
    Limited report.text MAX_REPORT_BYTES :=
  ⟨harmless_of_linewise h.text, h.size⟩

/-- **Diagnostics are redacted.** Nothing panics, whatever the texts are; sections and reports are
bounded and have neither formatting nor URLs. A section has no marker if every line
of its body was settled, as those of findings and of logs always are. -/
theorem diagnostics_are_redacted (fromStr : Text → Option Json) :
    (∀ title body, ∀ build ∈ [DiagnosticSection.new, DiagnosticSection.log],
      ∃ diagnosticSection, build title body = .ok diagnosticSection
        ∧ Limited diagnosticSection.body MAX_SECTION_BYTES
        ∧ ((∀ line ∈ lines body, Settled line) → Redacted diagnosticSection.body))
    ∧ (∀ seconds sections, (∀ diagnosticSection ∈ sections, Built diagnosticSection) →
      ∃ report, DiagnosticsReport.new seconds sections = .ok report
        ∧ Limited report.text MAX_REPORT_BYTES
        ∧ ∀ findings, ∃ report', report.withSessionFindings findings = .ok report'
          ∧ Limited report'.text MAX_REPORT_BYTES
          ∧ ∀ diagnosticSection ∈ report'.sections, diagnosticSection ∈ sections
            ∨ Limited diagnosticSection.body MAX_SECTION_BYTES
              ∧ Redacted diagnosticSection.body)
    ∧ (∀ run, ∃ logs, collectWith fromStr run = .ok logs ∧ ∀ diagnosticSection ∈ logs,
      Limited diagnosticSection.body MAX_SECTION_BYTES ∧ Redacted diagnosticSection.body)
    ∧ ∀ input maxBytes, utf8Len truncationMarker < maxBytes →
      ∃ result, safeText input maxBytes = .ok result
        ∧ ((∀ line ∈ lines input, Settled line) → CutBetween input maxBytes →
          safeText result maxBytes = .ok result) := by
  refine ⟨fun title body build hbuild => ?_, fun seconds sections hbuilt => ?_, fun run => ?_,
    fun input maxBytes hmax => ?_⟩
  -- both constructors of a section
  · have hsafe : ∃ diagnosticSection, build title body = .ok diagnosticSection
        ∧ SectionSafe diagnosticSection
        ∧ ((∀ line ∈ lines body, Settled line) → SectionUnmarked diagnosticSection) := by
      rcases List.mem_cons.1 hbuild with rfl | hbuild
      · exact new_safe title body
      · rw [List.mem_singleton.1 hbuild]
        exact log_safe title body
    obtain ⟨diagnosticSection, hok, hsafe, hunmarked⟩ := hsafe
    exact ⟨diagnosticSection, hok, hsafe.bounded, fun hnone => (hunmarked hnone).splitAll⟩
  · obtain ⟨report, hok, hsafe, rfl⟩ :=
      report_new_safe seconds fun other hother => (hbuilt other hother).safe
    refine ⟨report, hok, hsafe.bounded, fun findings => ?_⟩
    obtain ⟨report', hok', hsafe', hsections⟩ := withSessionFindings_safe hsafe findings
    refine ⟨report', hok', hsafe'.bounded, fun other hother => ?_⟩
    rcases hsections other hother with hmem | ⟨hadded, hunmarked⟩
    · exact .inl hmem
    · exact .inr ⟨hadded.bounded, hunmarked.splitAll⟩
  -- one log for each of the two journals
  · obtain ⟨user, huser, husafe, humarker⟩ := journalSection_safe fromStr run .user
    obtain ⟨system, hsystem, hssafe, hsmarker⟩ := journalSection_safe fromStr run .system
    refine ⟨[user, system], ?_, ?_⟩
    · rw [collectWith, List.mapM_cons, huser, Fallible.ok_bind, List.mapM_cons, hsystem]
      rfl
    · simp only [List.forall_mem_cons]
      exact ⟨⟨husafe.bounded, humarker.splitAll⟩, ⟨hssafe.bounded, hsmarker.splitAll⟩,
        List.forall_mem_nil _⟩
  · obtain ⟨result, hok, -, -, -⟩ := safeText_harmless hmax input
    exact ⟨result, hok, fun hnone hcut => safeText_idempotent hmax hok hnone hcut⟩

/-- A cut that gives up a part of a character leaves room for one more line feed, a limit below the
notice cuts a character in two, and a marker comes about when a character is taken out of it. -/
theorem redaction_is_not_exact :
    (safeText ('x' :: List.replicate 342 '界') MAX_SESSION_FINDING_BYTES >>=
        fun result => safeText result MAX_SESSION_FINDING_BYTES)
      ≠ safeText ('x' :: List.replicate 342 '界') MAX_SESSION_FINDING_BYTES
    ∧ safeText ('x' :: List.replicate 8 '界') 18 = Fallible.panic
    ∧ (DiagnosticSection.new .kwinSetup "pass\u202eword=hunter2".toList).map (·.body)
      = .ok "password=hunter2\n".toList := by
  refine ⟨by decide +kernel, by decide +kernel, by decide +kernel⟩

end Diagnostics

end LgBuddy
