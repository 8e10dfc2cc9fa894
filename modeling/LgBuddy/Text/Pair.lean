import LgBuddy.Text.Infix

/-!
# LgBuddy — separators of two characters

`split_once` and `split` at a pattern of two different characters, such as `", "`.

* `splitOncePair_eq_some` — the first place of the pattern;
* `intercalate_splitPair`, `splitPair_intercalate` — the parts between its places;
* `trim_split` — a text and its trimmed part.
-/

namespace LgBuddy.Str

/-- `str::split_once` at two characters. -/
def splitOncePair (a b : Char) : Text → Option (Text × Text)
  | c :: d :: rest =>
    if c = a ∧ d = b then some ([], rest)
    else (splitOncePair a b (d :: rest)).map fun found => (c :: found.1, found.2)
  | _ => none

/-- `str::split` at two characters. -/
def splitPair (a b : Char) : Text → List Text
  | [] => [[]]
  | [c] => [[c]]
  | c :: d :: rest =>
    if c = a ∧ d = b then [] :: splitPair a b rest
    else match splitPair a b (d :: rest) with
      | [] => [[c]]
      | part :: parts => (c :: part) :: parts

variable {a b : Char}

theorem splitOncePair_cut {text before behind : Text}
    (h : splitOncePair a b text = some (before, behind)) : text = before ++ a :: b :: behind := by
  induction text using splitOncePair.induct a b generalizing before with
  | case1 c d rest hpair =>
    rw [splitOncePair, if_pos hpair] at h
    obtain ⟨rfl, rfl⟩ := hpair
    cases h
    rfl
  | case2 c d rest hpair ih =>
    rw [splitOncePair, if_neg hpair] at h
    obtain ⟨⟨front, back⟩, hfound, heq⟩ := Option.map_eq_some_iff.1 h
    cases heq
    rw [ih hfound]
    rfl
  | case3 text hshort =>
    unfold splitOncePair at h
    split at h
    · exact absurd rfl (hshort _ _ _)
    · cases h

/-- The first place is found. -/
theorem splitOncePair_append (hab : a ≠ b) {before : Text} (h : ¬[a, b] <:+: before)
    (behind : Text) : splitOncePair a b (before ++ a :: b :: behind) = some (before, behind) := by
  induction before with
  | nil => simp [splitOncePair]
  | cons c before ih =>
    have hrest : ¬[a, b] <:+: before :=
      fun hin => h (hin.trans (List.suffix_cons c before).isInfix)
    cases before with
    | nil =>
      have hno : ¬(c = a ∧ a = b) := fun hand => hab hand.2
      rw [List.cons_append, List.nil_append, splitOncePair, if_neg hno]
      have hfirst := ih hrest
      rw [List.nil_append] at hfirst
      rw [hfirst]
      rfl
    | cons d before =>
      have hno : ¬(c = a ∧ d = b) := by
        rintro ⟨rfl, rfl⟩
        exact h ⟨[], before, rfl⟩
      rw [List.cons_append, List.cons_append, splitOncePair, if_neg hno]
      have hfirst := ih hrest
      rw [List.cons_append] at hfirst
      rw [hfirst]
      rfl

theorem splitPair_ne_nil (text : Text) : splitPair a b text ≠ [] := by
  induction text using splitPair.induct a b with
  | case1 => exact List.cons_ne_nil _ _
  | case2 c => exact List.cons_ne_nil _ _
  | case3 c d rest hpair ih =>
    rw [splitPair, if_pos hpair]
    exact List.cons_ne_nil _ _
  | case4 c d rest hpair hnil ih => exact absurd hnil ih
  | case5 c d rest hpair part parts hparts ih =>
    rw [splitPair, if_neg hpair, hparts]
    exact List.cons_ne_nil _ _

theorem intercalate_splitPair (text : Text) : [a, b].intercalate (splitPair a b text) = text := by
  induction text using splitPair.induct a b with
  | case1 => rfl
  | case2 c => simp [splitPair]
  | case3 c d rest hpair ih =>
    rw [splitPair, if_pos hpair]
    obtain ⟨rfl, rfl⟩ := hpair
    obtain ⟨part, parts, hparts⟩ := List.exists_cons_of_ne_nil (splitPair_ne_nil (a := c) (b := d) rest)
    rw [hparts] at ih ⊢
    rw [List.intercalate_cons_cons, ih]
    rfl
  | case4 c d rest hpair hnil ih => exact absurd hnil (splitPair_ne_nil _)
  | case5 c d rest hpair part parts hparts ih =>
    rw [splitPair, if_neg hpair, hparts]
    rw [hparts] at ih
    cases parts with
    | nil =>
      rw [List.intercalate_singleton] at ih ⊢
      rw [ih]
    | cons next parts =>
      rw [List.intercalate_cons_cons] at ih ⊢
      rw [List.cons_append, List.cons_append, ih]

/-- A part without the first character ends at the pattern. -/
theorem splitPair_append {part : Text} (h : a ∉ part) (rest : Text) :
    splitPair a b (part ++ a :: b :: rest) = part :: splitPair a b rest := by
  induction part with
  | nil => simp [splitPair]
  | cons c part ih =>
    obtain ⟨hc, hpart⟩ := not_or.1 (List.mem_cons.not.1 h)
    have hrest := ih hpart
    have hno : ∀ d, ¬(c = a ∧ d = b) := fun d hand => hc hand.1.symm
    cases part with
    | nil =>
      rw [List.nil_append] at hrest
      rw [List.cons_append, List.nil_append, splitPair, if_neg (hno _), hrest]
    | cons d part =>
      rw [List.cons_append] at hrest
      rw [List.cons_append, List.cons_append, splitPair, if_neg (hno _), hrest]

theorem splitPair_of_notMem {part : Text} (h : a ∉ part) : splitPair a b part = [part] := by
  induction part with
  | nil => rfl
  | cons c part ih =>
    obtain ⟨hc, hpart⟩ := not_or.1 (List.mem_cons.not.1 h)
    cases part with
    | nil => rfl
    | cons d part =>
      rw [splitPair, if_neg fun hand => hc hand.1.symm, ih hpart]

theorem splitPair_intercalate {parts : List Text} (hne : parts ≠ [])
    (h : ∀ part ∈ parts, a ∉ part) : splitPair a b ([a, b].intercalate parts) = parts := by
  induction parts with
  | nil => exact absurd rfl hne
  | cons part parts ih =>
    have hpart := h part List.mem_cons_self
    cases parts with
    | nil => rw [List.intercalate_singleton, splitPair_of_notMem hpart]
    | cons next parts =>
      have hrest := ih (List.cons_ne_nil _ _) fun other hother => h other (List.mem_cons_of_mem _ hother)
      rw [List.intercalate_cons_cons, List.append_assoc]
      show splitPair a b (part ++ a :: b :: [a, b].intercalate (next :: parts)) = _
      rw [splitPair_append hpart, hrest]

/-! ## Trimming -/

theorem trim_split (text : Text) : ∃ front back, text = front ++ trim text ++ back
    ∧ (∀ c ∈ front, isWhitespace c = true) ∧ ∀ c ∈ back, isWhitespace c = true := by
  refine ⟨text.takeWhile isWhitespace, (text.dropWhile isWhitespace).rtakeWhile isWhitespace,
    ?_, fun c hc => List.mem_takeWhile_imp hc, fun c hc => List.mem_rtakeWhile_imp hc⟩
  unfold trim trimEnd
  rw [List.append_assoc, List.rdropWhile_append_rtakeWhile, List.takeWhile_append_dropWhile]

end LgBuddy.Str
