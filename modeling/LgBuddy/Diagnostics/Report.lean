import LgBuddy.Diagnostics.Timestamp
import LgBuddy.Machine.Fallible
import LgBuddy.Text.Utf8

/-!
# LgBuddy — the diagnostics report

`diagnostics/report.rs`: sections, rendering, bounds and redaction.

* `safeText` — a bounded text without credentials and URLs; `truncateString` — the cut, which panics
  where it would fall inside a character;
* `DiagnosticSection.new`, `DiagnosticSection.log` — bounded and sanitized sections;
* `renderReport`, `DiagnosticsReport.withSessionFindings` — the report.
-/

namespace LgBuddy

namespace Diagnostics

open Str

def MAX_SECTION_BYTES : Nat := 8 * 1024

def MAX_REPORT_BYTES : Nat := 32 * 1024

def MAX_SESSION_FINDINGS : Nat := 24

def MAX_SESSION_FINDING_BYTES : Nat := 1024

/-! ## Lines -/

def secretMarkers : List Text :=
  ["password".toList, "passwd".toList, "token".toList, "client-key".toList, "client_key".toList,
    "secret".toList, "cookie".toList, "authorization:".toList, "bearer ".toList]

/-- `Char.toLower` is `to_ascii_lowercase`. -/
def containsSecretMarker (line : Text) : Bool :=
  let lower := line.map Char.toLower
  secretMarkers.any fun marker => contains lower marker

/-- `str::split_whitespace`. -/
def splitWhitespace (text : Text) : List Text := (text.splitOnP isWhitespace).filter (· ≠ [])

def redactUrls (line : Text) : Text :=
  if !contains line "://".toList then line
  else [' '].intercalate ((splitWhitespace line).map fun part =>
    if contains part "://".toList then "[URL omitted]".toList else part)

/-- Embeddings, overrides and isolates. -/
def isBidirectional (c : Char) : Bool :=
  (0x202a ≤ c.val && c.val ≤ 0x202e) || (0x2066 ≤ c.val && c.val ≤ 0x2069)

def sanitized (line : Text) : Text :=
  (line.map fun c => if c = '\t' || c = ' ' || !isControl c then c else ' ').filter
    fun c => !isBidirectional c

/-- What is put in the place of a line. -/
def safeLine (line : Text) : Text :=
  if containsSecretMarker line then "[Credential-bearing output omitted]".toList
  else redactUrls (sanitized line)

/-- The loop over the lines. -/
def safeLines (maxBytes : Nat) (result : Text) : List Text → Text
  | [] => result
  | line :: rest =>
    let line := safeLine line
    if line = [] ∧ result = [] then safeLines maxBytes result rest
    else
      let result := result ++ line ++ ['\n']
      if maxBytes < utf8Len result then result else safeLines maxBytes result rest

/-! ## The cut -/

/-- `String::truncate`, of what is longer. -/
def truncate (value : Text) (newLen : Nat) : Fallible Empty Text :=
  match getTo newLen value with
  | some before => .ok before
  | none => Fallible.panic

/-- The loop that goes back to a boundary of characters. -/
def boundaryBefore (value : Text) : Nat → Nat
  | 0 => 0
  | boundary + 1 =>
    if (getTo (boundary + 1) value).isSome then boundary + 1 else boundaryBefore value boundary

def truncationMarker : Text := "\n[Output truncated]".toList

def truncateString (value : Text) (maxBytes : Nat) : Fallible Empty Text :=
  if utf8Len value ≤ maxBytes then .ok value
  else if maxBytes ≤ utf8Len truncationMarker then truncate value maxBytes
  else do
    let value ← truncate value (boundaryBefore value (maxBytes - utf8Len truncationMarker))
    return value ++ truncationMarker

def safeText (input : Text) (maxBytes : Nat) : Fallible Empty Text :=
  truncateString (safeLines maxBytes [] (lines input)) maxBytes

/-! ## Sections -/

inductive SectionKind where
  | snapshot
  | logs
  deriving DecidableEq, Repr

/-- The titles that the collectors give their sections. -/
inductive SectionTitle where
  | desktop
  | desktopMonitor
  | activitySources
  | inhibitionSources
  | effectiveSettings
  | services
  | tvObservation
  | applicationAndBuild
  | kwinCompositor
  | kwinSetup
  | userServices
  | systemServices
  | guiSessionEvents
  deriving DecidableEq, Repr

def SectionTitle.text : SectionTitle → Text
  | desktop => "Desktop".toList
  | desktopMonitor => "Desktop monitor".toList
  | activitySources => "Activity sources".toList
  | inhibitionSources => "Inhibition sources".toList
  | effectiveSettings => "Effective settings".toList
  | services => "Services".toList
  | tvObservation => "TV observation".toList
  | applicationAndBuild => "Application and build".toList
  | kwinCompositor => "KWin compositor".toList
  | kwinSetup => "KWin setup (historical)".toList
  | userServices => "User services (current boot, latest 40 entries)".toList
  | systemServices => "System services (current boot, latest 40 entries)".toList
  | guiSessionEvents => "GUI session events".toList

structure DiagnosticSection where
  title : SectionTitle
  body : Text
  kind : SectionKind
  deriving DecidableEq, Repr

namespace DiagnosticSection

def new (title : SectionTitle) (body : Text) : Fallible Empty DiagnosticSection := do
  let body ← safeText body MAX_SECTION_BYTES
  return { title, body, kind := .snapshot }

def log (title : SectionTitle) (body : Text) : Fallible Empty DiagnosticSection := do
  let diagnosticSection ← new title body
  return { diagnosticSection with kind := .logs }

/-- The section as it stands in the report. -/
def render (diagnosticSection : DiagnosticSection) : Text :=
  diagnosticSection.title.text ++ ":\n".toList ++ diagnosticSection.body
    ++ (if diagnosticSection.body.getLast? ≠ some '\n' then ['\n'] else []) ++ ['\n']

end DiagnosticSection

/-! ## The report -/

def renderKind (sections : List DiagnosticSection) (kind : SectionKind) (heading : Text) : Text :=
  let ofKind := sections.filter (·.kind = kind)
  if ofKind = [] then []
  else heading ++ "\n================\n\n".toList ++ ofKind.flatMap (·.render)

def renderReport (collectedAt : Text) (sections : List DiagnosticSection) : Fallible Empty Text :=
  truncateString
    ("LG Buddy diagnostics\n".toList ++ "Collected at: ".toList ++ collectedAt ++ "\n\n".toList
      ++ renderKind sections .snapshot "Current snapshot".toList
      ++ renderKind sections .logs "Recent logs".toList)
    MAX_REPORT_BYTES

structure DiagnosticsReport where
  text : Text
  collectedAt : Text
  sections : List DiagnosticSection
  deriving DecidableEq, Repr

/-- Arithmetic that panics when it overflows. -/
def orPanic : Option Text → Fallible Empty Text
  | some text => .ok text
  | none => Fallible.panic

def stamp (seconds : UInt64) : Fallible Empty Text := orPanic (formatUtcTimestamp seconds)

/-- The loop over the findings. -/
def findingsBody (body : Text) : List Text → Fallible Empty Text
  | [] => .ok body
  | finding :: findings => do
    let finding ← safeText finding MAX_SESSION_FINDING_BYTES
    if finding = [] then findingsBody body findings
    else findingsBody (body ++ "- ".toList ++ finding ++ ['\n']) findings

namespace DiagnosticsReport

def new (collectedAtUnixSeconds : UInt64) (sections : List DiagnosticSection) :
    Fallible Empty DiagnosticsReport := do
  let collectedAt ← stamp collectedAtUnixSeconds
  let text ← renderReport collectedAt sections
  return { text, collectedAt, sections }

/-- The latest failure of the application stands in front of the logs. -/
def withSessionFindings (report : DiagnosticsReport) (findings : List Text) :
    Fallible Empty DiagnosticsReport :=
  if findings = [] then .ok report
  else do
    let body ← findingsBody [] (findings.reverse.take MAX_SESSION_FINDINGS)
    if body = [] then .ok report
    else do
      let firstLog := report.sections.findIdx (·.kind = .logs)
      let diagnosticSection ← DiagnosticSection.log .guiSessionEvents body
      let sections := report.sections.insertIdx firstLog diagnosticSection
      let text ← renderReport report.collectedAt sections
      return { report with text, sections }

end DiagnosticsReport

end Diagnostics

end LgBuddy
