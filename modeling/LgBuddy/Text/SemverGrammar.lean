import LgBuddy.Text.Cut
import LgBuddy.Text.Decimal
import LgBuddy.Text.Semver

/-!
# LgBuddy — the grammar of semantic versions

An implementation of what is taken from the `semver` crate, by its published behaviour: three
numbers of 64 bits, and identifiers of a prerelease and of a build.

* `Version.text`, `Version.parse` — how a version is printed and read;
* `Version.Valid` — the versions that can be read;
* `Version.parse_eq_some` — reading is the inverse of printing;
* `Version.cmp` — numbers come before words, a release behind its prereleases;
* `publishedSemver_lawful` — the implementation is a lawful one.
-/

namespace LgBuddy

open Str

namespace Version

/-! ## Printing -/

/-- A part behind its mark; nothing if the part is empty. -/
def marked (mark : Char) (part : Text) : Text := if part = [] then [] else mark :: part

def coreText (v : Version) : Text :=
  Nat.toDigits 10 v.major ++ '.' :: (Nat.toDigits 10 v.minor ++ '.' :: Nat.toDigits 10 v.patch)

def text (v : Version) : Text :=
  v.coreText ++ marked '-' v.pre.toList ++ marked '+' v.build.toList

/-! ## Reading -/

/-- `numeric_identifier`: a number without zeros in front that fits 64 bits. -/
def numericIdentifier (text : Text) : Option (Nat × Text) :=
  let digits := text.takeWhile Char.isDigit
  if digits = [] ∨ (digits.head? = some '0' ∧ digits.length ≠ 1) then none
  else if Decimal.value digits < 2 ^ 64 then
    some (Decimal.value digits, text.dropWhile Char.isDigit)
  else none

def isIdentifierChar (c : Char) : Bool := c.isAlphanum || c == '-'

/-- Digits with a zero in front of others. -/
def hasLeadingZero (segment : Text) : Bool :=
  segment.all Char.isDigit && segment.head? == some '0' && segment.length != 1

/-- A segment of a prerelease, where `zeros` refuses zeros in front, or of a build. -/
def validSegment (zeros : Bool) (segment : Text) : Bool :=
  !segment.isEmpty && segment.all isIdentifierChar && !(zeros && hasLeadingZero segment)

def validIdentifier (zeros : Bool) (part : Text) : Bool :=
  (splitAll '.' part).all (validSegment zeros)

/-- `identifier`: the longest part of segments and dots; an empty part or segment is refused. -/
def identifier (zeros : Bool) (text : Text) : Option (Text × Text) :=
  let part := text.takeWhile fun c => isIdentifierChar c || c == '.'
  if validIdentifier zeros part then
    some (part, text.dropWhile fun c => isIdentifierChar c || c == '.')
  else none

/-- What follows a mark, if the mark is there. -/
def optionalIdentifier (mark : Char) (zeros : Bool) (text : Text) : Option (Text × Text) :=
  match stripPrefix [mark] text with
  | some rest => identifier zeros rest
  | none => some ([], text)

/-- `Version::parse`. -/
def parse (text : Text) : Option Version := do
  let (major, text) ← numericIdentifier text
  let text ← stripPrefix ['.'] text
  let (minor, text) ← numericIdentifier text
  let text ← stripPrefix ['.'] text
  let (patch, text) ← numericIdentifier text
  let (pre, text) ← optionalIdentifier '-' true text
  let (build, text) ← optionalIdentifier '+' false text
  if text = [] then some ⟨major, minor, patch, String.ofList pre, String.ofList build⟩ else none

/-- **The versions of the crate.** Numbers of 64 bits and identifiers of its grammar. -/
structure Valid (v : Version) : Prop where
  major : v.major < 2 ^ 64
  minor : v.minor < 2 ^ 64
  patch : v.patch < 2 ^ 64
  pre : v.pre.toList = [] ∨ validIdentifier true v.pre.toList = true
  build : v.build.toList = [] ∨ validIdentifier false v.build.toList = true

/-! ## Numbers -/

theorem numericIdentifier_eq_some {text rest : Text} {n : Nat} :
    numericIdentifier text = some (n, rest) ↔
      n < 2 ^ 64 ∧ text = Nat.toDigits 10 n ++ rest ∧
        ∀ c, rest.head? = some c → c.isDigit = false := by
  constructor
  · intro h
    simp only [numericIdentifier] at h
    split at h
    · cases h
    · rename_i hdigits
      rw [not_or] at hdigits
      split at h
      · rename_i hsmall
        obtain ⟨rfl, rfl⟩ := Prod.mk.inj (Option.some.inj h)
        obtain ⟨htext, hall, hrest⟩ := span_iff.1 ⟨rfl, rfl⟩
        have hcanonical : Decimal.Canonical (text.takeWhile Char.isDigit) := by
          refine ⟨hdigits.1, hall, ?_⟩
          intro hzero
          by_contra hlength
          exact hdigits.2 ⟨hzero, hlength⟩
        refine ⟨hsmall, ?_, hrest⟩
        rw [Decimal.toDigits_value hcanonical]
        exact htext
      · cases h
  · rintro ⟨hsmall, rfl, hrest⟩
    have hcanonical := Decimal.canonical_toDigits n
    obtain ⟨htake, hdrop⟩ := span_iff.2 ⟨rfl, hcanonical.digit, hrest⟩
    have hdigits : ¬ (Nat.toDigits 10 n = [] ∨
        ((Nat.toDigits 10 n).head? = some '0' ∧ (Nat.toDigits 10 n).length ≠ 1)) := by
      rintro (hnil | ⟨hzero, hlength⟩)
      · exact hcanonical.nonempty hnil
      · exact hlength (hcanonical.leading hzero)
    simp only [numericIdentifier, htake, hdrop, if_neg hdigits, Decimal.value_toDigits,
      if_pos hsmall]

theorem head_dot_isDigit {rest : Text} :
    ∀ c, ('.' :: rest : Text).head? = some c → c.isDigit = false := by
  intro c hc
  obtain rfl : '.' = c := by simpa using hc
  decide

/-! ## Identifiers -/

/-- A segment of a valid identifier. -/
theorem validIdentifier_segment {zeros : Bool} {part segment : Text}
    (h : validIdentifier zeros part = true) (hsegment : segment ∈ splitAll '.' part) :
    segment ≠ [] ∧ (∀ c ∈ segment, isIdentifierChar c = true) ∧
      (zeros = true → hasLeadingZero segment = false) := by
  have hvalid := List.all_eq_true.1 h segment hsegment
  simp only [validSegment, Bool.and_eq_true, Bool.not_eq_true', List.isEmpty_eq_false_iff,
    List.all_eq_true] at hvalid
  refine ⟨hvalid.1.1, hvalid.1.2, ?_⟩
  rintro rfl
  simpa using hvalid.2

theorem validIdentifier_char {zeros : Bool} {part : Text}
    (h : validIdentifier zeros part = true) :
    ∀ c ∈ part, (isIdentifierChar c || c == '.') = true := by
  intro c hc
  have hsplit : c = '.' ∨ ∃ segment ∈ splitAll '.' part, c ∈ segment := mem_splitAll hc
  cases hsplit with
  | inl hdot => simp [hdot]
  | inr hsegment =>
    obtain ⟨segment, hsegment, hmem⟩ := hsegment
    simp [(validIdentifier_segment h hsegment).2.1 c hmem]

theorem validIdentifier_ne_nil {zeros : Bool} {part : Text}
    (h : validIdentifier zeros part = true) : part ≠ [] := by
  rintro rfl
  cases zeros <;> cases h

theorem identifier_eq_some {zeros : Bool} {text part rest : Text} :
    identifier zeros text = some (part, rest) ↔
      validIdentifier zeros part = true ∧ text = part ++ rest ∧
        ∀ c, rest.head? = some c → (isIdentifierChar c || c == '.') = false := by
  constructor
  · intro h
    simp only [identifier] at h
    split at h
    · rename_i hvalid
      obtain ⟨rfl, rfl⟩ := Prod.mk.inj (Option.some.inj h)
      obtain ⟨htext, -, hrest⟩ := span_iff.1 ⟨rfl, rfl⟩
      exact ⟨hvalid, htext, hrest⟩
    · cases h
  · rintro ⟨hvalid, rfl, hrest⟩
    obtain ⟨htake, hdrop⟩ := span_iff.2 ⟨rfl, validIdentifier_char hvalid, hrest⟩
    simp only [identifier, htake, hdrop, if_pos hvalid]

/-- What an optional identifier takes from a text is what it is printed as. -/
theorem optionalIdentifier_text {mark : Char} {zeros : Bool} {text part rest : Text}
    (h : optionalIdentifier mark zeros text = some (part, rest)) :
    (part = [] ∨ validIdentifier zeros part = true) ∧ text = marked mark part ++ rest := by
  unfold optionalIdentifier at h
  split at h
  · rename_i behind hmark
    obtain ⟨hvalid, hbehind, -⟩ := identifier_eq_some.1 h
    refine ⟨.inr hvalid, ?_⟩
    rw [stripPrefix_eq_some.1 hmark, hbehind, marked, if_neg (validIdentifier_ne_nil hvalid)]
    rfl
  · obtain ⟨rfl, rfl⟩ := Prod.mk.inj (Option.some.inj h)
    exact ⟨.inl rfl, rfl⟩

theorem optionalIdentifier_marked {mark : Char} {zeros : Bool} {part rest : Text}
    (hpart : part = [] ∨ validIdentifier zeros part = true)
    (hempty : part = [] → rest.head? ≠ some mark)
    (hrest : ∀ c, rest.head? = some c → (isIdentifierChar c || c == '.') = false) :
    optionalIdentifier mark zeros (marked mark part ++ rest) = some (part, rest) := by
  by_cases hnil : part = []
  · subst hnil
    have hnone : stripPrefix [mark] rest = none := by
      rw [stripPrefix_eq_none]
      rintro ⟨behind, rfl⟩
      exact hempty rfl rfl
    simp [optionalIdentifier, marked, hnone]
  · have hvalid := hpart.resolve_left hnil
    have hmark : stripPrefix [mark] (mark :: (part ++ rest)) = some (part ++ rest) :=
      stripPrefix_eq_some.2 rfl
    rw [marked, if_neg hnil, List.cons_append, optionalIdentifier, hmark]
    exact identifier_eq_some.2 ⟨hvalid, rfl, hrest⟩

/-! ## Versions -/

theorem head_marked {mark : Char} {part rest : Text} {c : Char}
    (h : (marked mark part ++ rest).head? = some c) : c = mark ∨ rest.head? = some c := by
  unfold marked at h
  split at h
  · exact .inr h
  · left
    simpa [eq_comm] using h

/-- **Reading is the inverse of printing.** A text is read as a version exactly if it is what
the version, one of the crate, is printed as. -/
theorem parse_eq_some {text : Text} {v : Version} :
    parse text = some v ↔ v.Valid ∧ v.text = text := by
  constructor
  · intro h
    simp only [parse, Option.bind_eq_bind, Option.bind_eq_some_iff] at h
    obtain ⟨⟨major, t₁⟩, hmajor, t₂, hdot₁, ⟨minor, t₃⟩, hminor, t₄, hdot₂, ⟨patch, t₅⟩, hpatch,
      ⟨pre, t₆⟩, hpre, ⟨build, t₇⟩, hbuild, hend⟩ := h
    dsimp only at hdot₁ hminor hdot₂ hpatch hpre hbuild hend
    split at hend
    · rename_i hnil
      obtain rfl := Option.some.inj hend
      -- each part consumed what it printed
      obtain ⟨hmajorLt, ht, -⟩ := numericIdentifier_eq_some.1 hmajor
      obtain ⟨hminorLt, ht₂, -⟩ := numericIdentifier_eq_some.1 hminor
      obtain ⟨hpatchLt, ht₄, -⟩ := numericIdentifier_eq_some.1 hpatch
      obtain ⟨hpreValid, ht₅⟩ := optionalIdentifier_text hpre
      obtain ⟨hbuildValid, ht₆⟩ := optionalIdentifier_text hbuild
      refine ⟨⟨hmajorLt, hminorLt, hpatchLt, ?_, ?_⟩, ?_⟩
      · simpa using hpreValid
      · simpa using hbuildValid
      · rw [ht, stripPrefix_eq_some.1 hdot₁, ht₂, stripPrefix_eq_some.1 hdot₂, ht₄, ht₅, ht₆, hnil]
        simp [Version.text, coreText]
    · cases hend
  · rintro ⟨hvalid, rfl⟩
    obtain ⟨hmajor, hminor, hpatch, hpre, hbuild⟩ := hvalid
    -- what follows each part cannot be read as more of it
    have hbuildHead : ∀ c, (marked '+' v.build.toList).head? = some c → c = '+' := by
      intro c hc
      have hhead : (marked '+' v.build.toList ++ []).head? = some c := by simpa using hc
      simpa using head_marked hhead
    have hafter : ∀ c, (marked '+' v.build.toList).head? = some c →
        (isIdentifierChar c || c == '.') = false := by
      intro c hc
      rw [hbuildHead c hc]
      decide
    have hbehind : ∀ c, (marked '-' v.pre.toList ++ marked '+' v.build.toList).head? = some c →
        c.isDigit = false := by
      intro c hc
      cases head_marked hc with
      | inl hdash => rw [hdash]; decide
      | inr hplus => rw [hbuildHead c hplus]; decide
    have hnoDash : v.pre.toList = [] → (marked '+' v.build.toList).head? ≠ some '-' :=
      fun _ hdash => by cases hbuildHead _ hdash
    -- so each part is read back from the printed text
    have hmajorRead : numericIdentifier v.text = some (v.major, '.' :: (Nat.toDigits 10 v.minor
        ++ '.' :: (Nat.toDigits 10 v.patch
          ++ (marked '-' v.pre.toList ++ marked '+' v.build.toList)))) :=
      numericIdentifier_eq_some.2 ⟨hmajor, by simp [Version.text, coreText], head_dot_isDigit⟩
    have hminorRead : numericIdentifier (Nat.toDigits 10 v.minor ++ '.' :: (Nat.toDigits 10 v.patch
        ++ (marked '-' v.pre.toList ++ marked '+' v.build.toList)))
          = some (v.minor, '.' :: (Nat.toDigits 10 v.patch
            ++ (marked '-' v.pre.toList ++ marked '+' v.build.toList))) :=
      numericIdentifier_eq_some.2 ⟨hminor, rfl, head_dot_isDigit⟩
    have hpatchRead : numericIdentifier (Nat.toDigits 10 v.patch
        ++ (marked '-' v.pre.toList ++ marked '+' v.build.toList))
          = some (v.patch, marked '-' v.pre.toList ++ marked '+' v.build.toList) :=
      numericIdentifier_eq_some.2 ⟨hpatch, rfl, hbehind⟩
    have hpreRead : optionalIdentifier '-' true
        (marked '-' v.pre.toList ++ marked '+' v.build.toList)
          = some (v.pre.toList, marked '+' v.build.toList) :=
      optionalIdentifier_marked hpre hnoDash hafter
    have hbuildRead : optionalIdentifier '+' false (marked '+' v.build.toList)
        = some (v.build.toList, []) := by
      have hread : optionalIdentifier '+' false (marked '+' v.build.toList ++ [])
          = some (v.build.toList, []) :=
        optionalIdentifier_marked hbuild (by simp) (by simp)
      simpa using hread
    have hdot : ∀ rest : Text, stripPrefix ['.'] ('.' :: rest) = some rest :=
      fun rest => stripPrefix_eq_some.2 rfl
    simp [parse, hmajorRead, hminorRead, hpatchRead, hpreRead, hbuildRead, hdot]

theorem isIdentifierChar_digit {c : Char} (h : c.isDigit = true) : isIdentifierChar c = true := by
  simp [isIdentifierChar, Char.isAlphanum, h]

/-- The characters of a version. -/
theorem text_char {v : Version} (h : v.Valid) :
    ∀ c ∈ v.text, (isIdentifierChar c || c == '.' || c == '+') = true := by
  have hdigits : ∀ n, ∀ c ∈ Nat.toDigits 10 n, isIdentifierChar c = true :=
    fun n c hc => isIdentifierChar_digit ((Decimal.canonical_toDigits n).digit c hc)
  have hmarked : ∀ (mark : Char) (zeros : Bool) (part : Text),
      (mark = '-' ∨ mark = '+') → (part = [] ∨ validIdentifier zeros part = true) →
        ∀ c ∈ marked mark part, (isIdentifierChar c || c == '.' || c == '+') = true := by
    intro mark zeros part hmark hpart c hc
    unfold marked at hc
    split at hc
    · cases hc
    · rename_i hnonempty
      cases hc with
      | head =>
        cases hmark with
        | inl hdash => rw [hdash]; decide
        | inr hplus => rw [hplus]; decide
      | tail _ hc =>
        rw [validIdentifier_char (hpart.resolve_left hnonempty) c hc]
        rfl
  intro c hc
  simp only [text, coreText, List.mem_append, List.mem_cons] at hc
  rcases hc with ((hmajor | hdot | hminor | hdot | hpatch) | hpre) | hbuild
  · simp [hdigits _ c hmajor]
  · simp [hdot]
  · simp [hdigits _ c hminor]
  · simp [hdot]
  · simp [hdigits _ c hpatch]
  · exact hmarked '-' true _ (.inl rfl) h.pre c hpre
  · exact hmarked '+' false _ (.inr rfl) h.build c hbuild

/-! ## Order -/

/-- `str::cmp`. -/
def compareText : Text → Text → Ordering := List.compareLex fun c d => compare c.toNat d.toNat

/-- The order of two numerals without zeros in front: the longer one is larger. -/
def compareDigits (left right : Text) : Ordering :=
  (compare left.length right.length).then (compareText left right)

/-- The zeros in front of a numeral are left out. -/
def significant (digits : Text) : Text := digits.dropWhile (· == '0')

/-- A segment of a prerelease: numbers come before words. -/
def compareSegments (left right : Text) : Ordering :=
  match left.all Char.isDigit, right.all Char.isDigit with
  | false, true => .gt
  | true, false => .lt
  | false, false => compareText left right
  | true, true => compareDigits left right

/-- `Ord for Prerelease`: a release comes behind its prereleases. -/
def comparePre (left right : Text) : Ordering :=
  if left = [] then (if right = [] then .eq else .gt)
  else if right = [] then .lt
  else List.compareLex compareSegments (splitAll '.' left) (splitAll '.' right)

/-- A segment of a build. -/
def compareBuildSegments (left right : Text) : Ordering :=
  match left.all Char.isDigit, right.all Char.isDigit with
  | false, true => .gt
  | true, false => .lt
  | false, false => compareText left right
  | true, true =>
    (compareDigits (significant left) (significant right)).then
      (compare left.length right.length)

/-- `Ord for BuildMetadata`. -/
def compareBuild (left right : Text) : Ordering :=
  List.compareLex compareBuildSegments (splitAll '.' left) (splitAll '.' right)

/-- `Ord for Version`. -/
def cmp (v w : Version) : Ordering :=
  (((compare v.major w.major).then (compare v.minor w.minor)).then
    (compare v.patch w.patch)).then
      ((comparePre v.pre.toList w.pre.toList).then
        (compareBuild v.build.toList w.build.toList))

end Version

/-! ## The implementation -/

/-- What the crate does, as far as it is used. -/
def publishedSemver : Semver where
  parse text :=
    match Version.parse text.toList with
    | some version => .ok version
    | none => .error "unexpected character"
  display version := String.ofList version.text
  cmp := Version.cmp

theorem publishedSemver_parse {text : String} {v : Version} :
    publishedSemver.parse text = .ok v ↔ v.Valid ∧ v.text = text.toList := by
  rw [← Version.parse_eq_some]
  show (match Version.parse text.toList with
    | some version => Except.ok version
    | none => .error "unexpected character") = .ok v ↔ _
  cases Version.parse text.toList with
  | none => exact iff_of_false (by rintro ⟨⟩) (by rintro ⟨⟩)
  | some found => simp

/-- **The hypotheses can be met**, by what the crate documents. -/
theorem publishedSemver_lawful : publishedSemver.Lawful where
  display_parse text v h := by
    have htext := (publishedSemver_parse.1 h).2
    show String.ofList v.text = text
    rw [htext, String.ofList_toList]
  parse_char text v h c hc := by
    obtain ⟨hvalid, htext⟩ := publishedSemver_parse.1 h
    rw [← htext] at hc
    have hchar := Version.text_char hvalid c hc
    simp only [Version.isIdentifierChar, Bool.or_eq_true] at hchar
    simp only [Semver.isVersionChar, Bool.or_eq_true]
    tauto

end LgBuddy
