import LgBuddy.Text.Cut
import LgBuddy.Text.Utf8
import Mathlib.Data.List.Induction
import Mathlib.Data.List.Infix

/-!
# LgBuddy — texts in texts

Where a text occurs in another one that is made of parts.

* `contains_iff` — `str::contains`;
* `infix_append_cons` — an occurrence does not go on behind a character that it does not have;
* `parts_induction` — a text part by part, each with the character it ends at;
* `splitInclusive_append`, `mem_splitAll_isInfix` — the parts;
* `utf8Len_le` — a part is not longer.
-/

namespace LgBuddy.Str

/-! ## Occurrences -/

theorem contains_iff {text pattern : Text} :
    contains text pattern = true ↔ pattern <:+: text := by
  unfold contains
  rw [List.any_eq_true, List.infix_iff_prefix_suffix]
  apply exists_congr
  intro tail
  rw [List.mem_tails, List.isPrefixOf_iff_prefix, and_comm]

/-- An occurrence in a text with a character in it lies in front of the character, where it may
end with it, or behind. -/
theorem infix_append_cons {pattern left right : Text} {c : Char}
    (h : pattern <:+: left ++ c :: right) (hc : c ∉ pattern.dropLast) :
    pattern <:+: left ++ [c] ∨ pattern <:+: right := by
  obtain ⟨before, behind, h⟩ := h
  rw [List.append_assoc] at h
  rcases List.append_eq_append_iff.1 h with ⟨x, rfl, hright⟩ | ⟨x, rfl, hright⟩
  · rcases List.append_eq_append_iff.1 hright with ⟨y, rfl, hbehind⟩ | ⟨y, rfl, hbehind⟩
    · exact .inl ⟨before, y ++ [c], by simp⟩
    · cases y with
      | nil => exact .inl ⟨before, [c], by simp⟩
      | cons d y =>
        obtain ⟨rfl, -⟩ := List.cons.inj hbehind
        cases y with
        | nil => exact .inl ⟨before, [], by simp⟩
        | cons e y =>
          rw [List.dropLast_append_of_ne_nil (by simp)] at hc
          exact absurd (by simp) hc
  · cases x with
    | nil =>
      -- the occurrence begins at the character
      cases pattern with
      | nil => exact .inr List.nil_infix
      | cons d pattern =>
        obtain ⟨rfl, -⟩ := List.cons.inj hright
        cases pattern with
        | nil => exact .inl (List.suffix_append _ _).isInfix
        | cons e pattern => exact absurd (by simp) hc
    | cons d x =>
      obtain ⟨rfl, hbehind⟩ := List.cons.inj hright
      exact .inr ⟨x, behind, by rw [List.append_assoc]; exact hbehind.symm⟩

/-- An occurrence that ends with the last character, or in front of it. -/
theorem infix_concat_dropLast {pattern text : Text} {c : Char} (h : pattern <:+: text ++ [c]) :
    pattern.dropLast <:+: text := by
  rw [List.infix_concat_iff] at h
  rcases h with ⟨before, hsuffix⟩ | hinside
  · cases pattern using List.reverseRecOn with
    | nil => exact List.nil_infix
    | append_singleton pattern d =>
      rw [← List.append_assoc] at hsuffix
      rw [List.dropLast_concat, ← (List.append_inj' hsuffix rfl).1]
      exact (List.suffix_append _ _).isInfix
  · exact (List.dropLast_prefix pattern).isInfix.trans hinside

theorem infix_concat_notMem {pattern text : Text} {c : Char} (h : pattern <:+: text ++ [c])
    (hc : c ∉ pattern) : pattern <:+: text := by
  rw [List.infix_concat_iff] at h
  rcases h with ⟨before, hsuffix⟩ | hinside
  · cases pattern using List.reverseRecOn with
    | nil => exact List.nil_infix
    | append_singleton pattern d =>
      rw [← List.append_assoc] at hsuffix
      obtain rfl : d = c := by simpa using (List.append_inj' hsuffix rfl).2
      exact absurd (by simp) hc
  · exact hinside

/-! ## Part by part -/

/-- Every text is a sequence of parts, each of which ends at the next character of a kind, and a
last part without such a character. -/
theorem parts_induction (stop : Char → Bool) {P : Text → Prop}
    (last : ∀ word, (∀ c ∈ word, stop c = false) → P word)
    (part : ∀ word c rest, (∀ d ∈ word, stop d = false) → stop c = true → P rest →
      P (word ++ c :: rest)) (text : Text) : P text := by
  have hall : ∀ word, (∀ c ∈ word, stop c = false) → P (word ++ text) := by
    induction text with
    | nil =>
      intro word hword
      rw [List.append_nil]
      exact last word hword
    | cons c rest ih =>
      intro word hword
      cases hc : stop c with
      | true => exact part word c rest hword hc (ih [] (List.forall_mem_nil _))
      | false =>
        have hmore := ih (word ++ [c]) (by
          intro d hd
          rcases List.mem_append.1 hd with hd | hd
          · exact hword d hd
          · rw [List.mem_singleton.1 hd, hc])
        rwa [List.append_assoc] at hmore
  exact hall [] (List.forall_mem_nil _)

theorem splitInclusive_append {stop : Char → Bool} {word rest : Text} {c : Char}
    (hword : ∀ d ∈ word, stop d = false) (hc : stop c = true) :
    splitInclusive stop (word ++ c :: rest) = (word ++ [c]) :: splitInclusive stop rest := by
  induction word with
  | nil => simp [splitInclusive, hc]
  | cons d word ih =>
    have hd := hword d (.head _)
    have hrest := ih fun e he => hword e (.tail _ he)
    simp [splitInclusive, hd, hrest]

theorem splitInclusive_last {stop : Char → Bool} {word : Text}
    (hword : ∀ d ∈ word, stop d = false) :
    splitInclusive stop word = if word = [] then [] else [word] := by
  induction word with
  | nil => rfl
  | cons d word ih =>
    have hd := hword d (.head _)
    have hrest := ih fun e he => hword e (.tail _ he)
    cases word with
    | nil => simp [splitInclusive, hd]
    | cons e word =>
      rw [if_neg (by simp)] at hrest
      rw [splitInclusive, hd, hrest]
      rfl

theorem mem_splitAll_isInfix {stop : Char} {text part : Text} (h : part ∈ splitAll stop text) :
    part <:+: text := by
  induction text using parts_induction (· == stop) with
  | last word hword =>
    have hstop : stop ∉ word := fun hmem => by simpa using hword stop hmem
    rw [splitAll_of_notMem hstop, List.mem_singleton] at h
    rw [h]
  | part word c rest hword hc ih =>
    obtain rfl : c = stop := by simpa using hc
    have hstop : c ∉ word := fun hmem => by simpa using hword c hmem
    rw [splitAll_append hstop] at h
    cases h with
    | head => exact (List.prefix_append _ _).isInfix
    | tail _ h =>
      exact (ih h).trans ((List.suffix_cons c rest).isInfix.trans (List.suffix_append _ _).isInfix)

/-! ## Ends and lengths -/

theorem trim_infix (text : Text) : trim text <:+: text :=
  (List.rdropWhile_prefix _ _).isInfix.trans (List.dropWhile_suffix _).isInfix

theorem utf8Len_le {part text : Text} (h : part <:+: text) : utf8Len part ≤ utf8Len text := by
  obtain ⟨before, behind, rfl⟩ := h
  simp only [utf8Len_append]
  omega

end LgBuddy.Str
