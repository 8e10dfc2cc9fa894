import LgBuddy.Screen.Handlers
import LgBuddy.Text.Str

/-!
# LgBuddy — the text of `config.env`

Lines of `key=value` with comments, as `config.rs` reads them and `settings/store.rs` edits them.
A text is its list of characters.

* `parseConfigEntries`, `entryValue` — the entries, of which the last one of a key counts;
* `HdmiInput.parse`, `TvPlatform.parse`, `MacAddress.parse`, `Ipv4Addr.parse` — the values of the
  primary TV;
* `ConfigEnvEditor` — a text with values set, with the other lines as they were.
-/

namespace LgBuddy

open Str (isWhitespace lines splitAll splitOnce toDigit trim trimEnd utf8Len)

/-! ## Entries -/

def sanitizeConfigValue (value : Text) : Text := trim (value.takeWhile (· ≠ '#'))

/-- What a line adds to the entries. -/
def configEntry (line : Text) : Option (Text × Text) :=
  let trimmed := trim line
  if trimmed.isEmpty || trimmed.head? = some '#' then none
  else (splitOnce '=' trimmed).map fun entry => (trim entry.1, sanitizeConfigValue entry.2)

/-- In the order of the lines. -/
def parseConfigEntries (contents : Text) : List (Text × Text) :=
  (lines contents).filterMap configEntry

/-- A later line of the same key replaces an earlier one. -/
def entryValue (entries : List (Text × Text)) (key : String) : Option Text :=
  (entries.reverse.find? (·.1 = key.toList)).map Prod.snd

/-! ## Values -/

def HdmiInput.parse (value : Text) : Option HdmiInput :=
  [HdmiInput.hdmi1, .hdmi2, .hdmi3, .hdmi4].find? fun input => input.asStr.toList = value

def TvPlatform.asStr : TvPlatform → String
  | .bscpylgtv => "bscpylgtv"
  | .lgWebOs => "lg_webos"

def TvPlatform.default : TvPlatform := .bscpylgtv

def TvPlatform.parse (value : Text) : Option TvPlatform :=
  [TvPlatform.bscpylgtv, .lgWebOs].find? fun platform => platform.asStr.toList = value

/-- `u8::from_str_radix`, which takes a leading `+`. -/
def u8FromStrRadix (radix : Nat) (text : Text) : Option UInt8 :=
  let digits := if text.head? = some '+' then text.tail else text
  if digits.isEmpty then none
  else do
    let values ← digits.mapM (toDigit radix)
    let value := values.foldl (fun sum digit => sum * radix + digit) 0
    if value < 256 then some (UInt8.ofNat value) else none

def MacAddress.parse (value : Text) : Option MacAddress := do
  let octets ← (splitAll ':' value).mapM fun part =>
    if utf8Len part ≠ 2 then none else u8FromStrRadix 16 part
  if h : octets.length = 6 then some ⟨fun i => octets.get (i.cast h.symm)⟩ else none

/-- One to three digits without a leading zero. -/
def ipv4Octet (part : Text) : Option UInt8 :=
  if part.length > 3 || part.any (fun c => (toDigit 10 c).isNone) then none
  else if part.length > 1 && part.head? = some '0' then none
  else u8FromStrRadix 10 part

def Ipv4Addr.parse (value : Text) : Option Ipv4Addr := do
  let octets ← (splitAll '.' value).mapM ipv4Octet
  if h : octets.length = 4 then some ⟨fun i => octets.get (i.cast h.symm)⟩ else none

instance : DecidableEq Ipv4Addr := fun a b =>
  decidable_of_iff (∀ i, a.octets i = b.octets i)
    ⟨fun h => congrArg Ipv4Addr.mk (funext h), fun h i => by rw [h]⟩

instance : DecidableEq MacAddress := fun a b =>
  decidable_of_iff (∀ i, a.octets i = b.octets i)
    ⟨fun h => congrArg MacAddress.mk (funext h), fun h i => by rw [h]⟩

/-- `{:02x}`. -/
def hexOctet (octet : UInt8) : Text :=
  [Nat.digitChar (octet.toNat / 16), Nat.digitChar (octet.toNat % 16)]

def MacAddress.text (mac : MacAddress) : Text :=
  [':'].intercalate ((List.finRange 6).map fun i => hexOctet (mac.octets i))

def Ipv4Addr.text (address : Ipv4Addr) : Text := (toString address).toList

/-! ## Editing -/

structure ConfigEnvEditor where
  lines : List Text
  deriving DecidableEq, Repr

def configLineKey (line : Text) : Option Text :=
  let trimmed := line.dropWhile isWhitespace
  if trimmed.isEmpty || trimmed.head? = some '#' then none
  else (splitOnce '=' trimmed).map fun entry => trim entry.1

/-- The comment after a value, with the blanks before it. -/
def configValueSuffix (value : Text) : Text :=
  let before := value.takeWhile (· ≠ '#')
  if before.length = value.length then [] else value.drop (trimEnd before).length

def replaceConfigLineValue (line : Text) (storageKey value : Text) : Text :=
  let indentation := line.takeWhile isWhitespace
  let suffix := match splitOnce '=' line with
    | some (_, existing) => configValueSuffix existing
    | none => []
  indentation ++ storageKey ++ '=' :: value ++ suffix

namespace ConfigEnvEditor

def parse (contents : Text) : ConfigEnvEditor := ⟨Str.lines contents⟩

def lastKeyIndex (editor : ConfigEnvEditor) (storageKey : Text) : Option Nat :=
  (List.range editor.lines.length).reverse.find? fun index =>
    (editor.lines[index]?.bind configLineKey) = some storageKey

def set (editor : ConfigEnvEditor) (storageKey value : Text) : ConfigEnvEditor :=
  match editor.lastKeyIndex storageKey with
  | some index =>
    ⟨editor.lines.modify index fun line => replaceConfigLineValue line storageKey value⟩
  | none => ⟨editor.lines ++ [storageKey ++ '=' :: value]⟩

def render (editor : ConfigEnvEditor) : Text :=
  if editor.lines.isEmpty then [] else ['\n'].intercalate editor.lines ++ ['\n']

end ConfigEnvEditor

end LgBuddy
