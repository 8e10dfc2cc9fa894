import LgBuddy.Text.Str

/-!
# LgBuddy — semantic versions

The `semver` crate is not part of the repository: what is taken from it is a parameter.

* `Version` — the record of the crate, whose fields the checks look at;
* `Semver` — its parser, printer and order;
* `Semver.Lawful` — what is documented of the parser and the printer, and used here.
-/

namespace LgBuddy

/-- `semver::Version`; `pre` and `build` are the parts behind `-` and `+`. -/
structure Version where
  major : Nat
  minor : Nat
  patch : Nat
  pre : String := ""
  build : String := ""
  deriving DecidableEq, Repr

/-- For the texts of the update check, which are only shown or kept. -/
instance : ToString Version where
  toString v :=
    let core := s!"{v.major}.{v.minor}.{v.patch}"
    let pre := if v.pre.isEmpty then "" else "-" ++ v.pre
    let build := if v.build.isEmpty then "" else "+" ++ v.build
    core ++ pre ++ build

/-- What the checks of a release take from the crate. -/
structure Semver where
  /-- `Version::parse`; an error is given by its text. -/
  parse : String → Except String Version
  /-- `Display for Version`. -/
  display : Version → String
  /-- `Ord for Version`. -/
  cmp : Version → Version → Ordering

namespace Semver

/-- The characters that the grammar of versions knows. -/
def isVersionChar (c : Char) : Bool := c.isAlphanum || c == '-' || c == '.' || c == '+'

/-- A version that some text is read as. -/
def Reads (semver : Semver) (v : Version) : Prop := ∃ text, semver.parse text = .ok v

/-- The parser accepts texts of the grammar only, and a version is printed as the text that it was
read from. -/
structure Lawful (semver : Semver) : Prop where
  display_parse : ∀ text v, semver.parse text = .ok v → semver.display v = text
  parse_char : ∀ text v, semver.parse text = .ok v → ∀ c ∈ text.toList, isVersionChar c = true

variable {semver : Semver} {v : Version}

/-- What was read is read again from what it is printed as. -/
theorem Lawful.parse_display (h : semver.Lawful) (hv : semver.Reads v) :
    semver.parse (semver.display v) = .ok v := by
  obtain ⟨text, hparse⟩ := hv
  rw [h.display_parse text v hparse]
  exact hparse

theorem Lawful.display_char (h : semver.Lawful) (hv : semver.Reads v) :
    ∀ c ∈ (semver.display v).toList, isVersionChar c = true := by
  obtain ⟨text, hparse⟩ := hv
  rw [h.display_parse text v hparse]
  exact h.parse_char text v hparse

/-- A character that the grammar does not know is not printed. -/
theorem Lawful.notMem_display (h : semver.Lawful) (hv : semver.Reads v) {c : Char}
    (hc : isVersionChar c = false) : c ∉ (semver.display v).toList := by
  intro hmem
  rw [h.display_char hv c hmem] at hc
  cases hc

end Semver

end LgBuddy
