import Mathlib.Init

/-!
# LgBuddy — values of `serde_json`

* `Json`, `JsonNumber` — the values;
* `Serde` — the parser and the printer, which are not part of this repository.
-/

namespace LgBuddy

/-- A `serde_json` number: an integer that fits 64 bits, or a finite float, by its value. -/
inductive JsonNumber where
  | int (n : Int)
  | float (q : Rat)
  deriving DecidableEq

/-- A `serde_json::Value`. A map is given by its entries, one for each key. -/
inductive Json where
  | null
  | bool (b : Bool)
  | number (n : JsonNumber)
  | string (s : String)
  | array (elements : List Json)
  | object (entries : List (String × Json))

namespace Json

/-- `Map::get`. -/
def lookup (entries : List (String × Json)) (key : String) : Option Json := entries.lookup key

/-- `Value::get` with a string: nothing unless the value is an object. -/
def get (value : Json) (key : String) : Option Json :=
  match value with
  | .object entries => lookup entries key
  | _ => none

def asStr : Json → Option String
  | .string s => some s
  | _ => none

def asBool : Json → Option Bool
  | .bool b => some b
  | _ => none

end Json

/-- `serde_json::from_str` and `Value::to_string`; a parse error is given by its text. -/
structure Serde where
  fromStr : String → Except String Json
  toStr : Json → String

end LgBuddy
