import Mathlib.Algebra.GroupWithZero.Nat
import Mathlib.Data.List.DropRight

/-!
# LgBuddy — texts

The functions of `char` and `str` that the code uses. A text is its list of characters; where the
code counts bytes, `utf8Len` says how many the text has.

* `isControl`, `isWhitespace`, `toDigit` — characters;
* `trim`, `lines`, `splitOnce`, `splitAll` — parts of a text.
-/

namespace LgBuddy

abbrev Text := List Char

/-- One instance for all the functions that look for a text in a list. -/
instance : LawfulBEq Text := inferInstance

/-- What holds of all characters of a text is decided over the text, not over all characters. -/
instance decidableAllChars (p : Char → Prop) [DecidablePred p] (text : Text) :
    Decidable (∀ c ∈ text, p c) := List.decidableBAll p text

namespace Str

/-- `char::is_control`: the Unicode category Cc. -/
def isControl (c : Char) : Bool := c.val < 0x20 || (0x7f ≤ c.val && c.val ≤ 0x9f)

/-- `char::is_whitespace`: the Unicode property White_Space. -/
def isWhitespace (c : Char) : Bool :=
  (0x9 ≤ c.val && c.val ≤ 0xd) || c.val == 0x20 || c.val == 0x85 || c.val == 0xa0
    || c.val == 0x1680 || (0x2000 ≤ c.val && c.val ≤ 0x200a) || c.val == 0x2028
    || c.val == 0x2029 || c.val == 0x202f || c.val == 0x205f || c.val == 0x3000

/-- The length of a text in bytes. -/
def utf8Len (text : List Char) : Nat := (text.map Char.utf8Size).sum

def contains (text : List Char) (pattern : List Char) : Bool :=
  text.tails.any pattern.isPrefixOf

/-- Parts that end with a character that `stop` picks; the last one may lack it. -/
def splitInclusive (stop : Char → Bool) : List Char → List (List Char)
  | [] => []
  | c :: rest =>
    if stop c then [c] :: splitInclusive stop rest
    else match splitInclusive stop rest with
      | [] => [[c]]
      | part :: parts => (c :: part) :: parts

def trimEnd (text : List Char) : List Char := text.rdropWhile isWhitespace

def trim (text : List Char) : List Char := trimEnd (text.dropWhile isWhitespace)

/-- One `"\n"` and then one `"\r"` at the end belong to the line ending. -/
def stripLineEnding (line : List Char) : List Char :=
  match line.getLast? with
  | some '\n' =>
    let line := line.dropLast
    if line.getLast? = some '\r' then line.dropLast else line
  | _ => line

def lines (text : List Char) : List (List Char) :=
  (splitInclusive (· == '\n') text).map stripLineEnding

/-- `str::split_once`. -/
def splitOnce (stop : Char) (text : Text) : Option (Text × Text) :=
  match text.dropWhile (· ≠ stop) with
  | [] => none
  | _ :: tail => some (text.takeWhile (· ≠ stop), tail)

/-- `str::split` at a character. -/
def splitAll (stop : Char) : Text → List Text
  | [] => [[]]
  | c :: rest =>
    if c = stop then [] :: splitAll stop rest
    else match splitAll stop rest with
      | [] => [[c]]
      | part :: parts => (c :: part) :: parts

/-- `char::to_digit`. -/
def toDigit (radix : Nat) (c : Char) : Option Nat :=
  let digit :=
    if '0' ≤ c ∧ c ≤ '9' then some (c.toNat - '0'.toNat)
    else if 'a' ≤ c ∧ c ≤ 'z' then some (c.toNat - 'a'.toNat + 10)
    else if 'A' ≤ c ∧ c ≤ 'Z' then some (c.toNat - 'A'.toNat + 10)
    else none
  digit.filter (· < radix)

end Str

end LgBuddy
