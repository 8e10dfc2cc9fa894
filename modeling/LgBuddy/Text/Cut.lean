import LgBuddy.Text.Str

/-!
# LgBuddy — where texts are cut

What the parts of a text say about the text.

* `splitOnce_eq_some`, `rsplitOnce_eq_some` — the first and the last place of a character;
* `stripPrefix_eq_some`, `stripSuffix_eq_some` — what is left without one end;
* `splitAll_intercalate`, `mem_splitAll` — all parts between a character;
* `span_iff` — the longest beginning of one kind of characters.
-/

namespace LgBuddy.Str

variable {text before behind : Text} {stop : Char}

/-! ## At a character -/

/-- The split is at the first stop of the text. -/
theorem splitOnce_eq_some :
    splitOnce stop text = some (before, behind) ↔ text = before ++ stop :: behind ∧ stop ∉ before := by
  unfold splitOnce
  constructor
  · intro h
    split at h
    · cases h
    · rename_i head tail hdrop
      obtain ⟨rfl, rfl⟩ := Prod.mk.inj (Option.some.inj h)
      have hhead : head = stop := by
        have hfirst := List.head?_dropWhile_not (· ≠ stop) text
        rw [hdrop] at hfirst
        simpa using hfirst
      refine ⟨?_, fun hmem => by simpa using List.mem_takeWhile_imp hmem⟩
      rw [← hhead, ← hdrop, hhead, List.takeWhile_append_dropWhile]
  · rintro ⟨rfl, hbefore⟩
    have hkept : ∀ c ∈ before, decide (c ≠ stop) = true := by
      intro c hc
      have hne : c ≠ stop := fun heq => hbefore (heq ▸ hc)
      simpa using hne
    rw [List.dropWhile_append_of_pos hkept, List.takeWhile_append_of_pos hkept]
    simp

/-- There is no split exactly where there is no stop. -/
theorem splitOnce_eq_none : splitOnce stop text = none ↔ stop ∉ text := by
  unfold splitOnce
  constructor
  · intro h
    split at h
    · rename_i hdrop
      intro hmem
      simpa using List.dropWhile_eq_nil_iff.1 hdrop stop hmem
    · cases h
  · intro h
    have hdrop : text.dropWhile (· ≠ stop) = [] := by
      rw [List.dropWhile_eq_nil_iff]
      intro c hc
      have hne : c ≠ stop := fun heq => h (heq ▸ hc)
      simpa using hne
    rw [hdrop]

/-- `str::rsplit_once`. -/
def rsplitOnce (stop : Char) (text : Text) : Option (Text × Text) :=
  (splitOnce stop text.reverse).map fun parts => (parts.2.reverse, parts.1.reverse)

/-- The split from the right is at the last stop of the text. -/
theorem rsplitOnce_eq_some :
    rsplitOnce stop text = some (before, behind) ↔
      text = before ++ stop :: behind ∧ stop ∉ behind := by
  unfold rsplitOnce
  rw [Option.map_eq_some_iff]
  constructor
  · rintro ⟨⟨a, b⟩, hsplit, hparts⟩
    obtain ⟨rfl, rfl⟩ := Prod.mk.inj hparts
    obtain ⟨htext, hstop⟩ := splitOnce_eq_some.1 hsplit
    refine ⟨?_, by simpa using hstop⟩
    have hreverse := congrArg List.reverse htext
    simpa using hreverse
  · rintro ⟨rfl, hstop⟩
    refine ⟨(behind.reverse, before.reverse), ?_, by simp⟩
    rw [splitOnce_eq_some]
    exact ⟨by simp, by simpa using hstop⟩

/-- There is no split from the right exactly where there is no stop. -/
theorem rsplitOnce_eq_none : rsplitOnce stop text = none ↔ stop ∉ text := by
  rw [rsplitOnce, Option.map_eq_none_iff, splitOnce_eq_none, List.mem_reverse]

/-! ## At every place of a character -/

/-- Every text has a part. -/
theorem splitAll_ne_nil : splitAll stop text ≠ [] := by
  cases text with
  | nil => simp [splitAll]
  | cons c rest =>
    rw [splitAll]
    split
    · simp
    · cases splitAll stop rest with
      | nil => simp
      | cons part parts => simp

/-- The parts of a text begin with a first one. -/
theorem splitAll_cons (stop : Char) (text : Text) :
    ∃ part parts, splitAll stop text = part :: parts :=
  List.exists_cons_of_ne_nil splitAll_ne_nil

/-- A character that is no stop belongs to the first part. -/
theorem splitAll_cons_ne {c : Char} {part : Text} {parts : List Text} {rest : Text}
    (hc : c ≠ stop) (hrest : splitAll stop rest = part :: parts) :
    splitAll stop (c :: rest) = (c :: part) :: parts := by
  rw [splitAll, if_neg hc, hrest]

/-- A stop begins a new part. -/
theorem splitAll_cons_eq {rest : Text} :
    splitAll stop (stop :: rest) = [] :: splitAll stop rest := by
  rw [splitAll, if_pos rfl]

/-- The parts make up the text. -/
theorem intercalate_splitAll : [stop].intercalate (splitAll stop text) = text := by
  induction text with
  | nil => rfl
  | cons c rest ih =>
    obtain ⟨part, parts, hrest⟩ := splitAll_cons stop rest
    by_cases hc : c = stop
    · subst hc
      rw [splitAll_cons_eq, hrest, List.intercalate_cons_cons, ← hrest, ih]
      rfl
    · rw [splitAll_cons_ne hc hrest]
      rw [hrest] at ih
      cases parts with
      | nil => simpa using ih
      | cons next parts =>
        rw [List.intercalate_cons_cons] at ih ⊢
        rw [← ih]
        rfl

/-- A text without a stop is one part. -/
theorem splitAll_of_notMem (h : stop ∉ text) : splitAll stop text = [text] := by
  induction text with
  | nil => rfl
  | cons c rest ih =>
    have hc : c ≠ stop := fun heq => h (heq ▸ .head _)
    exact splitAll_cons_ne hc (ih fun hmem => h (.tail _ hmem))

/-- The part before the first stop is the first part. -/
theorem splitAll_append {part rest : Text} (h : stop ∉ part) :
    splitAll stop (part ++ stop :: rest) = part :: splitAll stop rest := by
  induction part with
  | nil => exact splitAll_cons_eq
  | cons c part ih =>
    have hc : c ≠ stop := fun heq => h (heq ▸ .head _)
    exact splitAll_cons_ne hc (ih fun hmem => h (.tail _ hmem))

/-- The parts of two texts with the character between them. -/
theorem splitAll_join (left right : Text) :
    splitAll stop (left ++ stop :: right) = splitAll stop left ++ splitAll stop right := by
  induction left with
  | nil => exact splitAll_cons_eq
  | cons c left ih =>
    obtain ⟨part, parts, hleft⟩ := splitAll_cons stop left
    by_cases hc : c = stop
    · subst hc
      rw [List.cons_append, splitAll_cons_eq, splitAll_cons_eq, ih, List.cons_append]
    · rw [hleft, List.cons_append] at ih
      rw [List.cons_append, splitAll_cons_ne hc ih, splitAll_cons_ne hc hleft, List.cons_append]

/-- Texts without the character are the parts of the text that is made of them. -/
theorem splitAll_intercalate {parts : List Text} (hne : parts ≠ [])
    (h : ∀ part ∈ parts, stop ∉ part) : splitAll stop ([stop].intercalate parts) = parts := by
  induction parts with
  | nil => exact absurd rfl hne
  | cons part parts ih =>
    cases parts with
    | nil => simpa using splitAll_of_notMem (h part (.head _))
    | cons next parts =>
      have hparts : [stop].intercalate (part :: next :: parts)
          = part ++ stop :: [stop].intercalate (next :: parts) := by
        rw [List.intercalate_cons_cons, List.append_assoc]
        rfl
      rw [hparts, splitAll_append (h part (.head _)), ih (by simp) fun p hp => h p (.tail _ hp)]

/-- No part has a stop in it. -/
theorem notMem_of_mem_splitAll {part : Text} (h : part ∈ splitAll stop text) : stop ∉ part := by
  induction text generalizing part with
  | nil =>
    obtain rfl : part = [] := by simpa [splitAll] using h
    simp
  | cons c rest ih =>
    obtain ⟨first, parts, hrest⟩ := splitAll_cons stop rest
    by_cases hc : c = stop
    · subst hc
      rw [splitAll_cons_eq] at h
      cases h with
      | head => simp
      | tail _ h => exact ih h
    · rw [splitAll_cons_ne hc hrest] at h
      cases h with
      | head =>
        intro hmem
        cases hmem with
        | head => exact hc rfl
        | tail _ hmem => exact ih (by rw [hrest]; exact .head _) hmem
      | tail _ h => exact ih (by rw [hrest]; exact .tail _ h)

/-- A character is the one that the text is cut at or stands in a part. -/
theorem mem_splitAll {c : Char} (h : c ∈ text) :
    c = stop ∨ ∃ part ∈ splitAll stop text, c ∈ part := by
  induction text with
  | nil => cases h
  | cons d rest ih =>
    obtain ⟨first, parts, hrest⟩ := splitAll_cons stop rest
    by_cases hd : d = stop
    · cases h with
      | head => exact .inl hd
      | tail _ h =>
        rw [hd, splitAll_cons_eq]
        cases ih h with
        | inl hc => exact .inl hc
        | inr hpart =>
          obtain ⟨part, hpart, hc⟩ := hpart
          exact .inr ⟨part, .tail _ hpart, hc⟩
    · rw [splitAll_cons_ne hd hrest]
      cases h with
      | head => exact .inr ⟨_, .head _, .head _⟩
      | tail _ h =>
        cases ih h with
        | inl hc => exact .inl hc
        | inr hpart =>
          obtain ⟨part, hpart, hc⟩ := hpart
          rw [hrest] at hpart
          cases hpart with
          | head => exact .inr ⟨_, .head _, .tail _ hc⟩
          | tail _ hpart => exact .inr ⟨part, .tail _ hpart, hc⟩

/-! ## At the end of one kind of characters -/

/-- The characters of one kind that a text begins with, and the rest. -/
theorem span_iff {p : Char → Bool} :
    (text.takeWhile p = before ∧ text.dropWhile p = behind) ↔
      text = before ++ behind ∧ (∀ c ∈ before, p c = true) ∧
        ∀ c, behind.head? = some c → p c = false := by
  constructor
  · rintro ⟨rfl, rfl⟩
    refine ⟨List.takeWhile_append_dropWhile.symm, fun c hc => List.mem_takeWhile_imp hc, ?_⟩
    intro c hc
    have hhead := List.head?_dropWhile_not p text
    rw [hc] at hhead
    simpa using hhead
  · rintro ⟨rfl, hbefore, hbehind⟩
    rw [List.takeWhile_append_of_pos hbefore, List.dropWhile_append_of_pos hbefore]
    cases behind with
    | nil => simp
    | cons c behind => simp [hbehind c rfl]

/-! ## At the ends -/

/-- `str::strip_prefix`. -/
def stripPrefix (pattern text : Text) : Option Text :=
  if pattern.isPrefixOf text then some (text.drop pattern.length) else none

/-- `str::strip_suffix`. -/
def stripSuffix (pattern text : Text) : Option Text :=
  if pattern.isSuffixOf text then some (text.take (text.length - pattern.length)) else none

/-- A beginning is stripped exactly from a text that has it. -/
theorem stripPrefix_eq_some {pattern : Text} :
    stripPrefix pattern text = some behind ↔ text = pattern ++ behind := by
  unfold stripPrefix
  constructor
  · intro h
    split at h
    · rename_i hprefix
      obtain ⟨rest, rfl⟩ := List.isPrefixOf_iff_prefix.1 hprefix
      rw [List.drop_left] at h
      rw [Option.some.inj h]
    · cases h
  · rintro rfl
    rw [if_pos (List.isPrefixOf_iff_prefix.2 (List.prefix_append _ _)), List.drop_left]

/-- Nothing is stripped exactly where the text does not begin so. -/
theorem stripPrefix_eq_none {pattern : Text} :
    stripPrefix pattern text = none ↔ ¬ pattern <+: text := by
  simp [stripPrefix, List.isPrefixOf_iff_prefix]

/-- An end is stripped exactly from a text that has it. -/
theorem stripSuffix_eq_some {pattern : Text} :
    stripSuffix pattern text = some before ↔ text = before ++ pattern := by
  unfold stripSuffix
  constructor
  · intro h
    split at h
    · rename_i hsuffix
      obtain ⟨rest, rfl⟩ := List.isSuffixOf_iff_suffix.1 hsuffix
      rw [List.length_append, Nat.add_sub_cancel, List.take_left] at h
      rw [Option.some.inj h]
    · cases h
  · rintro rfl
    rw [if_pos (List.isSuffixOf_iff_suffix.2 (List.suffix_append _ _)), List.length_append,
      Nat.add_sub_cancel, List.take_left]

end LgBuddy.Str
