import LgBuddy.Text.Cut
import LgBuddy.Text.Decimal

/-!
# LgBuddy — one replacement, and unsigned numbers

* `replaceFirst` — `str::replacen` of one character, once; undone by the reverse replacement;
* `readU64`, `readU32` — `str::parse` at two unsigned types, with the numbers that are read.
-/

namespace LgBuddy

namespace Str

/-- `str::replacen(from, to, 1)`. -/
def replaceFirst (old new : Char) : Text → Text
  | [] => []
  | c :: rest => if c = old then new :: rest else c :: replaceFirst old new rest

theorem replaceFirst_of_notMem {old new : Char} {text : Text} (h : old ∉ text) :
    replaceFirst old new text = text := by
  induction text with
  | nil => rfl
  | cons c rest ih =>
    obtain ⟨hc, hrest⟩ := not_or.1 (List.mem_cons.not.1 h)
    rw [replaceFirst, if_neg fun heq => hc heq.symm, ih hrest]

theorem replaceFirst_append {old new : Char} {front : Text} (h : old ∉ front) (rest : Text) :
    replaceFirst old new (front ++ old :: rest) = front ++ new :: rest := by
  induction front with
  | nil => simp [replaceFirst]
  | cons c front ih =>
    obtain ⟨hc, hfront⟩ := not_or.1 (List.mem_cons.not.1 h)
    rw [List.cons_append, replaceFirst, if_neg fun heq => hc heq.symm, ih hfront]
    rfl

/-- A character that is not in the text can stand for one that is, and be replaced again. -/
theorem replaceFirst_replaceFirst {old new : Char} {text : Text} (h : new ∉ text) :
    replaceFirst new old (replaceFirst old new text) = text := by
  by_cases hold : old ∈ text
  · obtain ⟨front, rest, rfl, hfront⟩ := List.eq_append_cons_of_mem hold
    have hnew : new ∉ front := fun hmem => h (List.mem_append_left _ hmem)
    rw [replaceFirst_append hfront, replaceFirst_append hnew]
  · rw [replaceFirst_of_notMem hold, replaceFirst_of_notMem h]

/-- `str::parse` at an unsigned type of so many bits: an optional plus sign, then decimal digits. -/
def readUnsigned (bits : Nat) (text : Text) : Option Nat :=
  let digits := (stripPrefix ['+'] text).getD text
  if digits ≠ [] ∧ digits.all Char.isDigit ∧ Decimal.value digits < 2 ^ bits then
    some (Decimal.value digits)
  else none

/-- `str::parse::<u64>`. -/
def readU64 (text : Text) : Option Nat := readUnsigned 64 text

/-- `str::parse::<u32>`. -/
def readU32 (text : Text) : Option Nat := readUnsigned 32 text

/-- The numbers that are read from what they are printed as. -/
theorem readU64_toDigits {n : Nat} (h : n < 2 ^ 64) : readU64 (Nat.toDigits 10 n) = some n := by
  have hcanonical := Decimal.canonical_toDigits n
  have hplain : stripPrefix ['+'] (Nat.toDigits 10 n) = none := by
    rw [stripPrefix_eq_none]
    rintro ⟨rest, hrest⟩
    have hdigit := hcanonical.digit '+' (by rw [← hrest]; simp)
    revert hdigit
    decide
  have hall : (Nat.toDigits 10 n).all Char.isDigit = true :=
    List.all_eq_true.2 hcanonical.digit
  simpa [readU64, readUnsigned, hplain, hall, Decimal.value_toDigits] using h

theorem readU64_lt {text : Text} {n : Nat} (h : readU64 text = some n) : n < 2 ^ 64 := by
  simp only [readU64, readUnsigned] at h
  split at h
  · rename_i hdigits
    rw [← Option.some.inj h]
    exact hdigits.2.2
  · cases h

end Str

end LgBuddy
