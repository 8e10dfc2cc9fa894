import LgBuddy.Text.Infix

/-!
# LgBuddy — texts line by line

What holds of every line of a text, and texts that are put together from lines.

* `Hereditary` — what a part of a line keeps; `Linewise` — it holds of whatever lies between two
  line feeds;
* `joined` — lines, each with its line feed; `lines_joined` — they are read back;
* `prefix_joined` — where a beginning of such a text ends.
-/

namespace LgBuddy.Str

/-! ## Properties of lines -/

/-- What holds of a line holds of its parts. -/
def Hereditary (P : Text → Prop) : Prop := ∀ part line, P line → part <:+: line → P part

def Linewise (P : Text → Prop) (text : Text) : Prop :=
  ∀ part, part <:+: text → '\n' ∉ part → P part

variable {P : Text → Prop}

/-- A part of a text has its lines' property too. -/
theorem Linewise.part {part text : Text} (h : Linewise P text) (hpart : part <:+: text) :
    Linewise P part := fun line hline => h line (hline.trans hpart)

/-- A line with a property that its parts inherit is a text with it. -/
theorem Hereditary.linewise (hP : Hereditary P) {line : Text} (h : P line) : Linewise P line :=
  fun part hpart _ => hP part line h hpart

/-- Two texts with a line feed between them. -/
theorem Linewise.append_line {left right : Text} (hleft : Linewise P left)
    (hright : Linewise P right) : Linewise P (left ++ '\n' :: right) := by
  intro part hpart hfeed
  have hdrop : '\n' ∉ part.dropLast := fun hmem => hfeed (List.mem_of_mem_dropLast hmem)
  rcases infix_append_cons hpart hdrop with hinside | hinside
  · exact hleft part (infix_concat_notMem hinside hfeed) hfeed
  · exact hright part hinside hfeed

/-- Something in front of the first line. -/
theorem Linewise.prepend {front text : Text} (h : Linewise P text) (hP : Hereditary P)
    (hfront : ∀ line, P line → P (front ++ line)) : Linewise P (front ++ text) := by
  by_cases hfeed : '\n' ∈ text
  · obtain ⟨first, rest, rfl, hnone⟩ := List.eq_append_cons_of_mem hfeed
    have hfirst : P first := h first (List.prefix_append _ _).isInfix hnone
    have hrest : Linewise P rest :=
      h.part ((List.suffix_cons _ _).isInfix.trans (List.suffix_append _ _).isInfix)
    rw [← List.append_assoc]
    exact (hP.linewise (hfront first hfirst)).append_line hrest
  · exact hP.linewise (hfront text (h text List.infix_rfl hfeed))

/-- Every line of the split has the property of the lines. -/
theorem Linewise.splitAll {text : Text} (h : Linewise P text) :
    ∀ line ∈ splitAll '\n' text, P line :=
  fun line hline => h line (mem_splitAll_isInfix hline) (notMem_of_mem_splitAll hline)

/-! ## Lines -/

/-- Lines, each with its line feed. -/
def joined (lines : List Text) : Text := lines.flatMap (· ++ ['\n'])

theorem joined_cons (line : Text) (lines : List Text) :
    joined (line :: lines) = line ++ '\n' :: joined lines := by
  simp [joined]

@[simp] theorem joined_nil : joined [] = [] := rfl

@[simp] theorem joined_append (lines lines' : List Text) :
    joined (lines ++ lines') = joined lines ++ joined lines' := List.flatMap_append

/-- Joining lines before a text keeps the property, by induction on the lines. -/
theorem linewise_joined_append {lines : List Text} (h : ∀ line ∈ lines, Linewise P line)
    {rest : Text} (hrest : Linewise P rest) : Linewise P (joined lines ++ rest) := by
  induction lines with
  | nil => exact hrest
  | cons line lines ih =>
    rw [joined_cons, List.append_assoc, List.cons_append]
    exact (h line List.mem_cons_self).append_line
      (ih fun other hother => h other (List.mem_cons_of_mem _ hother))

/-- Joined lines have the property if each of them has it. -/
theorem linewise_joined (hempty : P []) {lines : List Text} (h : ∀ line ∈ lines, Linewise P line) :
    Linewise P (joined lines) := by
  have hnil : Linewise P [] := fun part hpart _ => List.infix_nil.1 hpart ▸ hempty
  simpa using linewise_joined_append h hnil

/-- Stripping a line feed strips a carriage return before it as well. -/
theorem stripLineEnding_feed (line : Text) : stripLineEnding (line ++ ['\n']) =
    if line.getLast? = some '\r' then line.dropLast else line := by
  simp [stripLineEnding]

/-- A line without a feed has no ending to strip. -/
theorem stripLineEnding_of_notMem {line : Text} (hfeed : '\n' ∉ line) :
    stripLineEnding line = line := by
  unfold stripLineEnding
  split
  · rename_i hlast
    exact absurd (List.mem_of_getLast? hlast) hfeed
  · rfl

/-- A line is a part of the text, without a line feed. -/
theorem line_of_mem_lines {text line : Text} (h : line ∈ lines text) :
    line <:+: text ∧ '\n' ∉ line := by
  obtain ⟨part, hpart, rfl⟩ := List.mem_map.1 h
  induction text using parts_induction (· == '\n') with
  | last word hword =>
    have hfeed : '\n' ∉ word := fun hmem => by simpa using hword _ hmem
    rw [splitInclusive_last hword] at hpart
    split at hpart
    · cases hpart
    · cases List.mem_singleton.1 hpart
      rw [stripLineEnding_of_notMem hfeed]
      exact ⟨List.infix_rfl, hfeed⟩
  | part word c rest hword hc ih =>
    obtain rfl : c = '\n' := by simpa using hc
    have hfeed : '\n' ∉ word := fun hmem => by simpa using hword _ hmem
    rw [splitInclusive_append hword (by rfl)] at hpart
    rcases List.mem_cons.1 hpart with rfl | hpart
    · have hstart : stripLineEnding (word ++ ['\n']) <+: word := by
        rw [stripLineEnding_feed]
        split
        · exact List.dropLast_prefix _
        · exact List.prefix_rfl
      exact ⟨hstart.isInfix.trans (List.prefix_append _ _).isInfix,
        fun hmem => hfeed (hstart.mem hmem)⟩
    · obtain ⟨hinside, hnone⟩ := ih hpart (List.mem_map_of_mem hpart)
      exact ⟨hinside.trans ((List.suffix_cons _ _).isInfix.trans
        (List.suffix_append _ _).isInfix), hnone⟩

/-- Every line read has the property of the lines. -/
theorem Linewise.lines {text : Text} (h : Linewise P text) : ∀ line ∈ lines text, P line := by
  intro line hline
  obtain ⟨hinside, hfeed⟩ := line_of_mem_lines hline
  exact h line hinside hfeed

/-- A line that is read back as it was written. -/
structure Readable (line : Text) : Prop where
  feed : '\n' ∉ line
  cr : '\r' ∉ line

/-- A readable line written before a text is its first line read. -/
theorem lines_append {line rest : Text} (h : Readable line) :
    lines (line ++ '\n' :: rest) = line :: lines rest := by
  have hword : ∀ c ∈ line, (c == '\n') = false := fun c hc => by
    rw [beq_eq_false_iff_ne]
    rintro rfl
    exact h.feed hc
  have hreturn : line.getLast? ≠ some '\r' := fun hlast => h.cr (List.mem_of_getLast? hlast)
  unfold lines
  rw [splitInclusive_append hword rfl, List.map_cons, stripLineEnding_feed, if_neg hreturn]

/-- The lines are read back, and behind them what is not a whole line. -/
theorem lines_joined_append {written : List Text} (h : ∀ line ∈ written, Readable line)
    {rest : Text} (hrest : '\n' ∉ rest) :
    lines (joined written ++ rest) = written ++ (if rest = [] then [] else [rest]) := by
  induction written with
  | nil =>
    have hword : ∀ c ∈ rest, (c == '\n') = false := fun c hc => by
      rw [beq_eq_false_iff_ne]
      rintro rfl
      exact hrest hc
    show (splitInclusive (· == '\n') rest).map stripLineEnding = _
    rw [splitInclusive_last hword]
    split
    · rfl
    · simp [stripLineEnding_of_notMem hrest]
  | cons line written ih =>
    rw [joined_cons, List.append_assoc, List.cons_append, lines_append (h line List.mem_cons_self),
      ih fun other hother => h other (List.mem_cons_of_mem _ hother)]
    rfl

/-- Readable lines are read back as they were written. -/
theorem lines_joined {written : List Text} (h : ∀ line ∈ written, Readable line) :
    lines (joined written) = written := by
  have hread := lines_joined_append h (List.not_mem_nil : '\n' ∉ ([] : Text))
  simpa using hread

/-- A beginning of two texts ends in the first one or in the second one. -/
theorem prefix_append {front left right : Text} (h : front <+: left ++ right) :
    front <+: left ∨ ∃ behind, front = left ++ behind ∧ behind <+: right := by
  obtain ⟨tail, htail⟩ := h
  rcases List.append_eq_append_iff.1 htail with ⟨between, rfl, -⟩ | ⟨between, rfl, rfl⟩
  · exact .inl (List.prefix_append _ _)
  · exact .inr ⟨between, rfl, List.prefix_append _ _⟩

/-- A beginning of a text of lines ends within a line or with a line. -/
theorem prefix_joined {lines : List Text} {front : Text} (h : front <+: joined lines) :
    ∃ whole part, whole <+: lines ∧ front = joined whole ++ part
      ∧ (part = [] ∨ ∃ line, whole ++ [line] <+: lines ∧ part <+: line) := by
  induction lines generalizing front with
  | nil =>
    rw [joined_nil, List.prefix_nil] at h
    exact ⟨[], [], List.nil_prefix, h, .inl rfl⟩
  | cons line lines ih =>
    rw [joined_cons] at h
    rcases prefix_append h with hshort | ⟨behind, rfl, hbehind⟩
    · exact ⟨[], front, List.nil_prefix, rfl, .inr ⟨line, by simp, hshort⟩⟩
    · cases behind with
      | nil =>
        rw [List.append_nil]
        exact ⟨[], line, List.nil_prefix, rfl, .inr ⟨line, by simp, List.prefix_rfl⟩⟩
      | cons c behind =>
        obtain ⟨rfl, hrest⟩ := List.cons_prefix_cons.1 hbehind
        obtain ⟨whole, part, hwhole, rfl, hpart⟩ := ih hrest
        refine ⟨line :: whole, part, List.cons_prefix_cons.2 ⟨rfl, hwhole⟩, ?_, ?_⟩
        · rw [joined_cons]
          simp
        · rcases hpart with hpart | ⟨other, hother, hpart⟩
          · exact .inl hpart
          · exact .inr ⟨other, List.cons_prefix_cons.2 ⟨rfl, hother⟩, hpart⟩

end LgBuddy.Str
