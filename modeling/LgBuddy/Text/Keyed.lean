import Mathlib.Data.List.DropRight
import Mathlib.Data.List.Infix
import Mathlib.Tactic.TypeStar

/-!
# LgBuddy — lines with a key

A line `key=value`, with space around both, or a comment. The elements of a line may be characters
or bytes, and what counts as space is a parameter.

* `trimWith` — a line without the space at its ends;
* `lineKey` — the key of a line;
* `lineKey_eq_some` — a line has a key exactly if it reads so from the left;
* `lineKey_plain` — the same for a key without space, sign or mark in it.
-/

namespace LgBuddy.Keyed

variable {α : Type*} {space : α → Bool}

/-! ## Ends -/

def trimWith (space : α → Bool) (line : List α) : List α :=
  (line.dropWhile space).rdropWhile space

/-- Neither end is space. -/
structure Trimmed (space : α → Bool) (line : List α) : Prop where
  head : ∀ a ∈ line.head?, space a = false
  last : ∀ a ∈ line.getLast?, space a = false

/-- A line without space is trimmed. -/
theorem Trimmed.of_forall {line : List α} (h : ∀ a ∈ line, space a = false) :
    Trimmed space line :=
  ⟨fun a ha => h a (List.mem_of_mem_head? ha), fun a ha => h a (List.mem_of_mem_getLast? ha)⟩

theorem dropWhile_of_head {line : List α} (h : ∀ a ∈ line.head?, space a = false) :
    line.dropWhile space = line := by
  cases line with
  | nil => rfl
  | cons a line => rw [List.dropWhile_cons_of_neg (by simp [h a rfl])]

theorem rdropWhile_of_last {line : List α} (h : ∀ a ∈ line.getLast?, space a = false) :
    line.rdropWhile space = line := by
  cases line using List.reverseRecOn with
  | nil => rfl
  | append_singleton line a =>
    rw [List.rdropWhile_concat_neg]
    simp [h a (by simp)]

/-- What is no space ends the trimming from the right. -/
theorem rdropWhile_append_neg {before line : List α} {a : α} (ha : space a = false) :
    (before ++ a :: line).rdropWhile space = before ++ a :: line.rdropWhile space := by
  induction line using List.reverseRecOn with
  | nil =>
    rw [List.rdropWhile_nil]
    exact rdropWhile_of_last (by simp [ha])
  | append_singleton line b ih =>
    have hassoc : before ++ a :: (line ++ [b]) = (before ++ a :: line) ++ [b] := by simp
    cases hb : space b with
    | true => rw [hassoc, List.rdropWhile_concat_pos _ _ _ hb, ih,
        List.rdropWhile_concat_pos _ _ _ hb]
    | false =>
      have hneg : ¬ space b = true := by simp [hb]
      rw [hassoc, List.rdropWhile_concat_neg _ _ _ hneg, List.rdropWhile_concat_neg _ _ _ hneg,
        hassoc]

/-- Space at the end is trimmed from the right. -/
theorem rdropWhile_append_pos {line behind : List α} (h : ∀ a ∈ behind, space a = true) :
    (line ++ behind).rdropWhile space = line.rdropWhile space := by
  induction behind using List.reverseRecOn with
  | nil => rw [List.append_nil]
  | append_singleton behind a ih =>
    rw [← List.append_assoc, List.rdropWhile_concat_pos _ _ _ (h a (by simp)),
      ih fun b hb => h b (List.mem_append_left _ hb)]

/-- Space at the beginning is trimmed from the left. -/
theorem dropWhile_append_pos {before line : List α} (h : ∀ a ∈ before, space a = true) :
    (before ++ line).dropWhile space = line.dropWhile space := by
  rw [List.dropWhile_append, if_pos]
  rw [List.isEmpty_iff]
  exact List.dropWhile_eq_nil_iff.2 h

/-- A trimmed line is what trimming leaves of it between spaces. -/
theorem trimWith_append_append {before line behind : List α}
    (hbefore : ∀ a ∈ before, space a = true) (hbehind : ∀ a ∈ behind, space a = true)
    (hline : Trimmed space line) : trimWith space (before ++ line ++ behind) = line := by
  unfold trimWith
  cases line with
  | nil =>
    have hall : ∀ a ∈ before ++ [] ++ behind, space a = true := by
      intro a ha
      rw [List.append_nil] at ha
      exact (List.mem_append.1 ha).elim (hbefore a) (hbehind a)
    rw [List.dropWhile_eq_nil_iff.2 hall, List.rdropWhile_nil]
  | cons a line =>
    rw [List.append_assoc, dropWhile_append_pos hbefore, List.cons_append,
      List.dropWhile_cons_of_neg (by simp [hline.head a rfl]), ← List.cons_append,
      rdropWhile_append_pos hbehind, rdropWhile_of_last hline.last]

/-- What is cut off at both ends is space. -/
theorem trimWith_spec (space : α → Bool) (line : List α) :
    ∃ before behind, line = before ++ trimWith space line ++ behind
      ∧ (∀ a ∈ before, space a = true) ∧ (∀ a ∈ behind, space a = true)
      ∧ Trimmed space (trimWith space line) := by
  have hrest : line.dropWhile space = trimWith space line ++ (line.dropWhile space).rtakeWhile space :=
    List.rdropWhile_append_rtakeWhile.symm
  refine ⟨line.takeWhile space, (line.dropWhile space).rtakeWhile space, ?_, ?_, ?_, ?_, ?_⟩
  · rw [List.append_assoc, ← hrest, List.takeWhile_append_dropWhile]
  · exact fun a ha => List.mem_takeWhile_imp ha
  · exact fun a ha => List.mem_rtakeWhile_imp ha
  · intro a ha
    -- the first element is the first one behind the space
    have hhead : (line.dropWhile space).head? = some a := by
      rw [hrest, List.head?_append, ha]
      rfl
    have hnot := List.head?_dropWhile_not space line
    rw [hhead] at hnot
    simpa using hnot
  · intro a ha
    have hne : trimWith space line ≠ [] := List.ne_nil_of_mem (List.mem_of_mem_getLast? ha)
    have hlast := List.rdropWhile_last_not space (line.dropWhile space) hne
    rw [List.getLast?_eq_some_getLast hne] at ha
    have hlast' : ¬ space ((trimWith space line).getLast hne) = true := hlast
    rw [Option.some.inj ha] at hlast'
    simpa using hlast'

/-- Space at the end changes nothing about a trimmed line. -/
theorem trimWith_append_space {line behind : List α} (hbehind : ∀ a ∈ behind, space a = true) :
    trimWith space (line ++ behind) = trimWith space line := by
  obtain ⟨before, after, hline, hbefore, hafter, htrimmed⟩ := trimWith_spec space line
  generalize trimWith space line = inner at hline htrimmed ⊢
  rw [hline, List.append_assoc (before ++ inner)]
  refine trimWith_append_append hbefore (fun a ha => ?_) htrimmed
  exact (List.mem_append.1 ha).elim (hafter a) (hbehind a)

/-- Trimming twice is trimming once. -/
theorem trimWith_trimWith (line : List α) :
    trimWith space (trimWith space line) = trimWith space line := by
  obtain ⟨-, -, -, -, -, htrimmed⟩ := trimWith_spec space line
  have hself : trimWith space ([] ++ trimWith space line ++ []) = trimWith space line :=
    trimWith_append_append (List.forall_mem_nil _) (List.forall_mem_nil _) htrimmed
  rwa [List.nil_append, List.append_nil] at hself

/-! ## Keys -/

variable [DecidableEq α] {mark sign : α}

/-- Lines that begin with the mark are comments; the key ends at the first sign. -/
def lineKey (space : α → Bool) (mark sign : α) (line : List α) : Option (List α) :=
  let trimmed := trimWith space line
  if trimmed.isEmpty || trimmed.head? = some mark then none
  else if sign ∈ trimmed then some (trimWith space (trimmed.takeWhile (· ≠ sign)))
  else none

/-- The key before the first sign is what comes before it. -/
theorem takeWhile_append_sign {before rest : List α} (h : sign ∉ before) :
    (before ++ sign :: rest).takeWhile (· ≠ sign) = before := by
  rw [List.takeWhile_append_of_pos, List.takeWhile_cons_of_neg, List.append_nil]
  · simp
  · intro a ha
    simp only [ne_eq, decide_not, Bool.not_eq_eq_eq_not, Bool.not_true, decide_eq_false_iff_not]
    exact fun h' => h (h' ▸ ha)

omit [DecidableEq α] in
/-- Space behind the key goes with it, and space in front of an empty key is at the line's start. -/
theorem dropWhile_key (hsign : space sign = false) {key between rest : List α}
    (hbetween : ∀ a ∈ between, space a = true) (hkey : Trimmed space key) :
    ∃ gap, (key ++ between ++ sign :: rest).dropWhile space = key ++ gap ++ sign :: rest
      ∧ ∀ a ∈ gap, space a = true := by
  cases key with
  | nil =>
    refine ⟨[], ?_, nofun⟩
    rw [List.nil_append, dropWhile_append_pos hbetween, List.dropWhile_cons_of_neg (by simp [hsign])]
    rfl
  | cons a key =>
    refine ⟨between, ?_, hbetween⟩
    apply dropWhile_of_head
    exact hkey.head

omit [DecidableEq α] in
/-- A line with a key, without the space at its ends. -/
theorem trimWith_key (hsign : space sign = false) (hmark : mark ≠ sign)
    {before key between rest : List α} (hbefore : ∀ a ∈ before, space a = true)
    (hbetween : ∀ a ∈ between, space a = true) (hkey : Trimmed space key)
    (hhead : key.head? ≠ some mark) :
    ∃ gap, trimWith space (before ++ key ++ between ++ sign :: rest)
        = key ++ gap ++ sign :: rest.rdropWhile space
      ∧ (∀ a ∈ gap, space a = true)
      ∧ (key ++ gap ++ sign :: rest.rdropWhile space).head? ≠ some mark := by
  obtain ⟨gap, hgap, hspace⟩ := @dropWhile_key _ _ _ hsign key between rest hbetween hkey
  refine ⟨gap, ?_, hspace, ?_⟩
  · unfold trimWith
    rw [List.append_assoc, List.append_assoc, dropWhile_append_pos hbefore, ← List.append_assoc,
      hgap, rdropWhile_append_neg hsign]
  · cases key with
    | cons a key => exact hhead
    | nil =>
      cases gap with
      | nil => exact fun h => hmark (Option.some.inj h).symm
      | cons a gap =>
        -- then the line would still begin with space
        have hnot := List.head?_dropWhile_not space ([] ++ between ++ sign :: rest)
        rw [hgap] at hnot
        simp [hspace a (.head _)] at hnot

/-- **The key of a line**, read from the left. -/
theorem lineKey_eq_some (hsign : space sign = false) (hmark : mark ≠ sign) {line key : List α} :
    lineKey space mark sign line = some key ↔
      ∃ before between rest, line = before ++ key ++ between ++ sign :: rest
        ∧ (∀ a ∈ before, space a = true) ∧ (∀ a ∈ between, space a = true)
        ∧ Trimmed space key ∧ sign ∉ key ∧ key.head? ≠ some mark := by
  constructor
  · intro h
    obtain ⟨before, behind, hline, hbefore, -, htrimmed⟩ := trimWith_spec space line
    unfold lineKey at h
    dsimp only at h
    generalize trimWith space line = trimmed at h hline htrimmed
    split at h
    · cases h
    rename_i hstart
    simp only [Bool.or_eq_true, List.isEmpty_iff, decide_eq_true_eq, not_or] at hstart
    split at h
    · rename_i hmem
      obtain ⟨word, rest, rfl, hword⟩ := List.eq_append_cons_of_mem hmem
      rw [takeWhile_append_sign hword] at h
      obtain ⟨left, right, hparts, hleft, hright, hkey⟩ := trimWith_spec space word
      rw [Option.some.inj h] at hparts hkey
      cases left with
      | nil =>
        refine ⟨before, right, rest ++ behind, ?_, hbefore, hright, hkey, ?_, ?_⟩
        · rw [hline, hparts]
          simp
        · intro hsignKey
          exact hword (by rw [hparts]; simp [hsignKey])
        · intro hhead
          apply hstart.2
          rw [hparts, List.nil_append, List.append_assoc, List.head?_append, hhead]
          rfl
      | cons a left =>
        -- a trimmed line does not begin with space
        have hspace := htrimmed.head a (by rw [hparts]; rfl)
        rw [hleft a (.head _)] at hspace
        cases hspace
    · cases h
  · rintro ⟨before, between, rest, rfl, hbefore, hbetween, hkey, hnotMem, hhead⟩
    obtain ⟨gap, htrim, hspace, hfirst⟩ :=
      @trimWith_key _ _ _ _ hsign hmark before key between rest hbefore hbetween hkey hhead
    have hmem : sign ∉ key ++ gap := by
      intro h
      rcases List.mem_append.1 h with h | h
      · exact hnotMem h
      · rw [hspace _ h] at hsign
        cases hsign
    have hstart : ¬((key ++ gap ++ sign :: rest.rdropWhile space).isEmpty
        || decide ((key ++ gap ++ sign :: rest.rdropWhile space).head? = some mark)) = true := by
      rw [Bool.or_eq_true, decide_eq_true_eq, not_or]
      exact ⟨by simp, hfirst⟩
    unfold lineKey
    dsimp only
    rw [htrim, if_neg hstart, if_pos (by simp), takeWhile_append_sign hmem]
    congr 1
    have htrimmed : trimWith space ([] ++ key ++ gap) = key :=
      trimWith_append_append (List.forall_mem_nil _) hspace hkey
    rwa [List.nil_append] at htrimmed

/-- Space at the end of a line is nothing to its key. -/
theorem lineKey_leading (hsign : space sign = false) (line : List α) :
    lineKey space mark sign line =
      if (line.dropWhile space).isEmpty || (line.dropWhile space).head? = some mark then none
      else if sign ∈ line.dropWhile space
        then some (trimWith space ((line.dropWhile space).takeWhile (· ≠ sign))) else none := by
  have hparts : line.dropWhile space
      = trimWith space line ++ (line.dropWhile space).rtakeWhile space :=
    List.rdropWhile_append_rtakeWhile.symm
  have hbehind : ∀ a ∈ (line.dropWhile space).rtakeWhile space, space a = true :=
    fun a ha => List.mem_rtakeWhile_imp ha
  have hnot := List.head?_dropWhile_not space line
  unfold lineKey
  dsimp only
  generalize trimWith space line = trimmed at *
  generalize (line.dropWhile space).rtakeWhile space = behind at *
  rw [hparts] at hnot ⊢
  cases trimmed with
  | nil =>
    cases behind with
    | nil => rfl
    | cons a behind => simp [hbehind a (.head _)] at hnot
  | cons a trimmed =>
    have hmem : sign ∈ a :: trimmed ++ behind ↔ sign ∈ a :: trimmed := by
      rw [List.mem_append]
      refine ⟨fun h => h.resolve_right fun hin => ?_, Or.inl⟩
      rw [hbehind sign hin] at hsign
      cases hsign
    rw [List.cons_append, List.head?_cons, List.head?_cons, List.isEmpty_cons, List.isEmpty_cons,
      ← List.cons_append]
    simp only [hmem]
    split
    · rfl
    · split
      · rename_i hin
        obtain ⟨word, rest, hword, hnotMem⟩ := List.eq_append_cons_of_mem hin
        rw [hword, List.append_assoc, List.cons_append, takeWhile_append_sign hnotMem,
          takeWhile_append_sign hnotMem]
      · rfl

/-- The line has this key, with nothing but space around it. -/
def Reads (space : α → Bool) (sign : α) (key line : List α) : Prop :=
  ∃ before between rest, line = before ++ key ++ between ++ sign :: rest
    ∧ (∀ a ∈ before, space a = true) ∧ (∀ a ∈ between, space a = true)

/-- The same for a key without space, sign or mark in it. -/
theorem lineKey_plain (hsign : space sign = false) (hmark : mark ≠ sign) {line key : List α}
    (hkey : ∀ a ∈ key, space a = false ∧ a ≠ sign ∧ a ≠ mark) :
    lineKey space mark sign line = some key ↔ Reads space sign key line := by
  rw [lineKey_eq_some hsign hmark]
  have htrimmed : Trimmed space key := Trimmed.of_forall fun a ha => (hkey a ha).1
  have hnotMem : sign ∉ key := fun h => (hkey sign h).2.1 rfl
  have hhead : key.head? ≠ some mark := fun h => (hkey mark (List.mem_of_mem_head? h)).2.2 rfl
  simp [Reads, htrimmed, hnotMem, hhead]

end LgBuddy.Keyed
