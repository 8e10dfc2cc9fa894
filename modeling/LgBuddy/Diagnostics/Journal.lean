import LgBuddy.Diagnostics.Report
import LgBuddy.Lifecycle.Suspend
import LgBuddy.Text.Json

/-!
# LgBuddy — the service logs of the report

`diagnostics/journal.rs`: the latest entries of the services, as journalctl prints them.

* `readEntry` — one line of its output; `serde_json` is a parameter;
* `journalEntries` — the loop over the entries; `logBody` — with the notice of a cut capture;
* `collectWith` — the sections of both scopes.
-/

namespace LgBuddy

namespace Diagnostics

open Str

def MAX_LOG_ENTRIES : Nat := 40

inductive ServiceScope where
  | user
  | system
  deriving DecidableEq, Repr

def ServiceScope.units : ServiceScope → List String
  | user => ["LG_Buddy_screen.service", "LG_Buddy_kwin.service", "LG_Buddy_update_check.timer",
      "LG_Buddy_update_check.service"]
  | system => ["LG_Buddy_lifecycle.service", "LG_Buddy.service"]

def ServiceScope.title : ServiceScope → SectionTitle
  | user => .userServices
  | system => .systemServices

/-- What is read of an entry. -/
structure JournalEntry where
  unit : String
  message : Text
  timestamp : UInt64
  deriving DecidableEq, Repr

section Entries

-- `serde_json::from_str`
variable (fromStr : Text → Option Json)

def readEntry (units : List String) (line : Text) : Option JournalEntry := do
  let entry ← fromStr line
  let name ← (entry.get "USER_UNIT").or ((entry.get "UNIT").or
    ((entry.get "_SYSTEMD_USER_UNIT").or (entry.get "_SYSTEMD_UNIT")))
  let unit ← name.asStr
  if unit ∉ units then none
  let message ← (entry.get "MESSAGE").bind Json.asStr
  let timestamp ← ((entry.get "__REALTIME_TIMESTAMP").bind Json.asStr).bind parseU64
  return ⟨unit, message.toList, UInt64.ofNat timestamp⟩

/-- The loop over the lines. An entry is redacted before it is cut. -/
def entriesBody (units : List String) (body : Text) (count : Nat) :
    List Text → Fallible Empty Text
  | [] => .ok body
  | line :: rest =>
    match readEntry fromStr units line with
    | none => entriesBody units body count rest
    | some entry => do
      let time ← stamp (entry.timestamp / 1000000)
      let message ← safeText entry.message MAX_SESSION_FINDING_BYTES
      let body := body ++ (time ++ ' ' :: entry.unit.toList ++ ['\n'])
        ++ (lines message).flatMap fun line => "  ".toList ++ line ++ ['\n']
      if count + 1 = MAX_LOG_ENTRIES ∨ MAX_SECTION_BYTES ≤ utf8Len body then .ok body
      else entriesBody units body (count + 1) rest

/-- The output is what `from_utf8_lossy` makes of the bytes. -/
def journalEntries (output : Text) (units : List String) : Fallible Empty Text := do
  let body ← entriesBody fromStr units [] 0 (lines output)
  return if body = [] then "No entries available\n".toList else body

/-- What came of reading the logs. -/
inductive LogRead where
  | timedOut
  | unavailable
  | captured (stdout : Text) (truncated : Bool)

def captureMarker : Text := "[Log capture reached 16 KiB]\n".toList

def logBody (units : List String) : LogRead → Fallible Empty Text
  | .timedOut => .ok "Log read timed out".toList
  | .unavailable => .ok "Logs unavailable".toList
  | .captured stdout truncated => do
    let body ← journalEntries fromStr stdout units
    if truncated then do
      -- there is room for the marker
      let body ← safeText body (MAX_SECTION_BYTES - utf8Len captureMarker - 1)
      let body := if body.getLast? ≠ some '\n' then body ++ ['\n'] else body
      return body ++ captureMarker
    else return body

def journalSection (run : ServiceScope → LogRead) (scope : ServiceScope) :
    Fallible Empty DiagnosticSection := do
  let body ← logBody fromStr scope.units (run scope)
  DiagnosticSection.log scope.title body

def collectWith (run : ServiceScope → LogRead) : Fallible Empty (List DiagnosticSection) :=
  [ServiceScope.user, .system].mapM (journalSection fromStr run)

end Entries

end Diagnostics

end LgBuddy
