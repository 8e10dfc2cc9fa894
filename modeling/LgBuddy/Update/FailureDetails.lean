import LgBuddy.Text.Str

/-!
# LgBuddy — the failure details that are kept

`retained_failure_details` of `update_flow.rs`: bounded plain text of an updater diagnostic, with
lines that may carry a credential and with URLs left out. A text is its list of characters.

* `retainedLine` — one line; `retainLines` — the loop over the lines, up to the limit;
* `retainedFailureDetails` — the whole.
-/

namespace LgBuddy.FailureDetails

open Str

/-! ## Lines -/

/-- Neither control characters, except for tabs, nor bidirectional formatting. -/
def retainedChar (c : Char) : Bool :=
  (!isControl c || c == '\t')
    && !((0x202a ≤ c.val && c.val ≤ 0x202e) || (0x2066 ≤ c.val && c.val ≤ 0x2069))

def secretKeys : List String :=
  ["password", "passwd", "token", "client-key", "client_key", "secret", "authorization:", "bearer "]

def secretNotice : List Char := "[Credential-bearing output omitted]".toList

def urlNotice : List Char := "[URL omitted]".toList

/-- A part with a URL in it keeps only the white space behind it. -/
def withoutUrl (part : List Char) : List Char :=
  if contains part "://".toList then urlNotice ++ part.drop (trimEnd part).length else part

def retainedLine (line : List Char) : List Char :=
  let line := line.filter retainedChar
  -- `Char.toLower` is `to_ascii_lowercase`
  let lower := line.map Char.toLower
  if secretKeys.any fun key => contains lower key.toList then secretNotice
  else (splitInclusive isWhitespace line).flatMap withoutUrl

def limit : Nat := 64 * 1024

def truncationNotice : List Char := "\n[Details truncated]".toList

/-- The longest beginning that is at most so many bytes long. -/
def takeBytes : Nat → List Char → List Char
  | _, [] => []
  | bytes, c :: rest =>
    if c.utf8Size ≤ bytes then c :: takeBytes (bytes - c.utf8Size) rest else []

def retainLines (result : List Char) : List (List Char) → List Char
  | [] => result
  | line :: rest =>
    let line := retainedLine line
    let remaining := limit - utf8Len result
    if remaining < utf8Len line + 1 then result ++ takeBytes remaining line ++ truncationNotice
    else retainLines (result ++ line ++ ['\n']) rest

def retainedFailureDetails (diagnostic : String) : String :=
  String.ofList (trim (retainLines [] (lines diagnostic.toList)))

end LgBuddy.FailureDetails
