import LgBuddy.Session.Inactivity

/-!
# LgBuddy — D-Bus messages

`session_bus.rs`: the values, messages and errors that the bus sources speak of.

* `BusValue`, `BusReply`, `BusMethodCall`, `BusSignal`, `BusSignalMatch` — the messages; a raw
  file descriptor is a number;
* the shapes a reply may be read as, and `parseNameOwnerChangedSignal`;
* `parseNameOwnerChangedSignal_eq_some` — which signals announce a change of owner.
-/

namespace LgBuddy

def dbusServiceName : String := "org.freedesktop.DBus"

def dbusObjectPath : String := "/org/freedesktop/DBus"

def dbusInterface : String := "org.freedesktop.DBus"

inductive SessionBusError where
  | transport (message : String)
  | timeout (name : String) (timeout : Duration)
  | unexpectedReplyShape (expected actual : String)
  | unsupportedMessageBody (context kind : String)
  deriving DecidableEq, Repr

inductive BusValue where
  | bool (value : Bool)
  | unixFd (fd : Nat)
  | u32 (value : UInt32)
  | u64 (value : UInt64)
  | string (value : String)
  | objectPath (value : String)
  | array (values : List BusValue)
  | struct (values : List BusValue)
  | dict (entries : List (BusValue × BusValue))
  | variant (value : BusValue)

def BusValue.kind : BusValue → String
  | .bool _ => "bool"
  | .unixFd _ => "fd"
  | .u32 _ => "u32"
  | .u64 _ => "u64"
  | .string _ => "string"
  | .objectPath _ => "object path"
  | .array _ => "array"
  | .struct _ => "struct"
  | .dict _ => "dict"
  | .variant _ => "variant"

/-! ## Replies -/

structure BusReply where
  body : List BusValue

namespace BusReply

def singleBool (reply : BusReply) : Except SessionBusError Bool :=
  match reply.body with
  | [.bool value] => .ok value
  | [.variant (.bool value)] => .ok value
  | [.variant value] => .error (.unexpectedReplyShape "single bool" value.kind)
  | [value] => .error (.unexpectedReplyShape "single bool" value.kind)
  | _ => .error (.unexpectedReplyShape "single bool" "multiple values")

def singleString (reply : BusReply) : Except SessionBusError String :=
  match reply.body with
  | [.string value] => .ok value
  | [value] => .error (.unexpectedReplyShape "single string" value.kind)
  | _ => .error (.unexpectedReplyShape "single string" "multiple values")

def singleObjectPath (reply : BusReply) : Except SessionBusError String :=
  match reply.body with
  | [.objectPath value] => .ok value
  | [value] => .error (.unexpectedReplyShape "single object path" value.kind)
  | _ => .error (.unexpectedReplyShape "single object path" "multiple values")

end BusReply

/-! ## Calls and signals -/

structure BusMethodCall where
  destination : String
  path : String
  interface : String
  member : String
  body : List BusValue := []

structure BusSignalMatch where
  sender : Option String := none
  path : Option String := none
  interface : Option String := none
  member : Option String := none
  deriving DecidableEq, Repr

structure BusSignal where
  sender : Option String := none
  path : String
  interface : String
  member : String
  body : List BusValue := []

def getNameOwnerCall (name : String) : BusMethodCall where
  destination := dbusServiceName
  path := dbusObjectPath
  interface := dbusInterface
  member := "GetNameOwner"
  body := [.string name]

/-! ## Changes of owner -/

structure NameOwnerChanged where
  name : String
  oldOwner : Option String
  newOwner : Option String
  deriving DecidableEq, Repr

def normalizeDbusOwner (owner : String) : Option String := if owner = "" then none else some owner

def parseNameOwnerChangedSignal (signal : BusSignal) : Option NameOwnerChanged :=
  if signal.path ≠ dbusObjectPath ∨ signal.interface ≠ dbusInterface
      ∨ signal.member ≠ "NameOwnerChanged" then
    none
  else
    match signal.body with
    | [.string name, .string oldOwner, .string newOwner] =>
      some ⟨name, normalizeDbusOwner oldOwner, normalizeDbusOwner newOwner⟩
    | _ => none

/-- A change of owner is announced by the signal of that name and shape, and by no other. -/
theorem parseNameOwnerChangedSignal_eq_some {signal : BusSignal} {change : NameOwnerChanged} :
    parseNameOwnerChangedSignal signal = some change ↔
      signal.path = dbusObjectPath ∧ signal.interface = dbusInterface
        ∧ signal.member = "NameOwnerChanged"
        ∧ ∃ oldOwner newOwner,
            signal.body = [.string change.name, .string oldOwner, .string newOwner]
              ∧ change.oldOwner = normalizeDbusOwner oldOwner
              ∧ change.newOwner = normalizeDbusOwner newOwner := by
  unfold parseNameOwnerChangedSignal
  constructor
  · intro h
    split at h
    · cases h
    · rename_i hheader
      simp only [ne_eq, not_or, not_not] at hheader
      obtain ⟨hpath, hinterface, hmember⟩ := hheader
      split at h
      · rename_i name oldOwner newOwner hbody
        cases h
        exact ⟨hpath, hinterface, hmember, oldOwner, newOwner, hbody, rfl, rfl⟩
      · cases h
  · rintro ⟨hpath, hinterface, hmember, oldOwner, newOwner, hbody, hold, hnew⟩
    obtain ⟨name, old, new⟩ := change
    dsimp only at hbody hold hnew
    rw [if_neg (by simp [hpath, hinterface, hmember]), hbody, hold, hnew]

end LgBuddy
