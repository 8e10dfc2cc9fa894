import LgBuddy.Machine.Fallible
import LgBuddy.Text.Infix
import LgBuddy.Update.FailureDetails

/-!
# LgBuddy — the failure details that are kept are plain text

What filtering, redaction, the replacement of URLs and truncation leave of a diagnostic, one after
the other.

* `PlainLine`, `Plain` — a line, and a text all of whose lines are plain; a part of a plain text is
  plain;
* `retainedLine_plain`, `retainLines_plain` — one line, and the loop;
* `boundaryBefore`, `retainLinesCut` — the cut byte by byte, which cannot fail;
* `failure_details_sanitized` — the whole.
-/

namespace LgBuddy.FailureDetails

open Str

/-! ## Plain text -/

/-- A line with no character, URL or credential that is to be left out. -/
structure PlainLine (line : Text) : Prop where
  retained : ∀ c ∈ line, retainedChar c = true
  url : ¬ "://".toList <:+: line
  secret : ∀ key ∈ secretKeys, ¬ key.toList <:+: line.map Char.toLower

/-- Whatever lies between two line feeds is plain. -/
def Plain (text : Text) : Prop := ∀ part, part <:+: text → '\n' ∉ part → PlainLine part

/-- A part of a plain line is plain. -/
theorem PlainLine.part {part line : Text} (h : PlainLine line) (hpart : part <:+: line) :
    PlainLine part := by
  refine ⟨fun c hc => h.retained c (hpart.mem hc), fun hurl => h.url (hurl.trans hpart), ?_⟩
  intro key hkey hsecret
  exact h.secret key hkey (hsecret.trans (hpart.map Char.toLower))

/-- A part of a plain text is plain. -/
theorem Plain.part {part text : Text} (h : Plain text) (hpart : part <:+: text) : Plain part :=
  fun line hline => h line (hline.trans hpart)

/-- A plain line is a plain text. -/
theorem PlainLine.plain {line : Text} (h : PlainLine line) : Plain line :=
  fun _ hpart _ => h.part hpart

/-- Two plain texts in two lines. -/
theorem Plain.lines {left right : Text} (hleft : Plain left) (hright : Plain right) :
    Plain (left ++ '\n' :: right) := by
  intro part hpart hfeed
  have hdrop : '\n' ∉ part.dropLast := fun hmem => hfeed (List.mem_of_mem_dropLast hmem)
  rcases infix_append_cons hpart hdrop with hinside | hinside
  · exact hleft part (infix_concat_notMem hinside hfeed) hfeed
  · exact hright part hinside hfeed

/-! ## One line -/

/-- Lower case leaves white space as it is. -/
theorem whitespace_toLower {c : Char} (h : isWhitespace c = true) : c.toLower = c := by
  unfold Char.toLower
  rw [dif_neg]
  rintro ⟨hlow, hhigh⟩
  have hlow' : 65 ≤ c.toNat := UInt32.le_iff_toNat_le.1 hlow
  have hhigh' : c.toNat ≤ 90 := UInt32.le_iff_toNat_le.1 hhigh
  simp only [isWhitespace, Bool.or_eq_true, Bool.and_eq_true, decide_eq_true_eq, beq_iff_eq,
    UInt32.le_iff_toNat_le, ← UInt32.toNat_inj] at h
  revert h
  simp
  omega

/-- The replacement of URLs, part by part. -/
def redact (line : Text) : Text := (splitInclusive isWhitespace line).flatMap withoutUrl

/-- A word has nothing to trim. -/
theorem trimEnd_word {word : Text} (hword : ∀ c ∈ word, isWhitespace c = false) :
    trimEnd word = word := by
  cases word using List.reverseRecOn with
  | nil => rfl
  | append_singleton word c =>
    have hc := hword c (by simp)
    rw [trimEnd, List.rdropWhile_concat_neg]
    simp [hc]

/-- A word is kept as it is or replaced. -/
theorem withoutUrl_word {word : Text} (hword : ∀ c ∈ word, isWhitespace c = false) :
    (withoutUrl word = word ∧ ¬ "://".toList <:+: word) ∨ withoutUrl word = urlNotice := by
  unfold withoutUrl
  split
  · right
    rw [trimEnd_word hword, List.drop_length, List.append_nil]
  · rename_i hurl
    rw [contains_iff] at hurl
    exact .inl ⟨rfl, hurl⟩

/-- The white space behind a word is kept. -/
theorem withoutUrl_concat {word : Text} {c : Char} (hword : ∀ c ∈ word, isWhitespace c = false)
    (hc : isWhitespace c = true) : withoutUrl (word ++ [c]) = withoutUrl word ++ [c] := by
  have hnone : c ∉ "://".toList := by
    intro hmem
    have hplain : ∀ d ∈ "://".toList, isWhitespace d = false := by decide
    rw [hplain c hmem] at hc
    cases hc
  have hsame : contains (word ++ [c]) "://".toList = contains word "://".toList := by
    rw [Bool.eq_iff_iff, contains_iff, contains_iff]
    exact ⟨fun h => infix_concat_notMem h hnone, fun h => h.trans (List.prefix_append _ _).isInfix⟩
  have htrim : trimEnd (word ++ [c]) = word := by
    rw [trimEnd, List.rdropWhile_concat_pos _ _ _ hc]
    exact trimEnd_word hword
  unfold withoutUrl
  rw [hsame, htrim, trimEnd_word hword]
  split
  · simp
  · rfl

/-- Redaction works word by word. -/
theorem redact_append {word rest : Text} {c : Char} (hword : ∀ c ∈ word, isWhitespace c = false)
    (hc : isWhitespace c = true) :
    redact (word ++ c :: rest) = withoutUrl word ++ c :: redact rest := by
  rw [redact, splitInclusive_append hword hc, List.flatMap_cons, withoutUrl_concat hword hc,
    List.append_assoc]
  rfl

/-- A text of one word is redacted as that word. -/
theorem redact_word {word : Text} (hword : ∀ c ∈ word, isWhitespace c = false) :
    redact word = withoutUrl word := by
  rw [redact, splitInclusive_last hword]
  split
  · rename_i hnil
    rw [hnil]
    rfl
  · simp

/-- The notice in the place of a URL is harmless, whatever follows it. -/
theorem urlNotice_plain :
    (∀ c ∈ urlNotice, retainedChar c = true) ∧ ¬ "://".toList <:+: urlNotice ∧
      ∀ key ∈ secretKeys, ¬ key.toList.dropLast <:+: urlNotice.map Char.toLower := by
  simp only [← contains_iff]
  decide +kernel

/-- The notice that stands for a secret is plain itself. -/
theorem secretNotice_plain : PlainLine secretNotice := by
  have hnotice : (∀ c ∈ secretNotice, retainedChar c = true) ∧
      contains secretNotice "://".toList = false ∧
      ∀ key ∈ secretKeys, contains (secretNotice.map Char.toLower) key.toList = false := by
    decide +kernel
  obtain ⟨hretained, hurl, hsecret⟩ := hnotice
  refine ⟨hretained, ?_, ?_⟩
  · rw [← contains_iff, hurl]
    decide
  · intro key hkey
    rw [← contains_iff, hsecret key hkey]
    decide

/-- A credential keyword has no white space but at its end, and a URL mark has none. -/
theorem pattern_words :
    (∀ d ∈ "://".toList, isWhitespace d = false) ∧
      ∀ key ∈ secretKeys, ∀ d ∈ key.toList.dropLast, isWhitespace d = false := by
  decide +kernel

/-- A replaced word brings nothing back. -/
theorem withoutUrl_plain {word : Text} (hword : ∀ c ∈ word, isWhitespace c = false)
    (hretained : ∀ c ∈ word, retainedChar c = true) :
    (∀ c ∈ withoutUrl word, retainedChar c = true) ∧ ¬ "://".toList <:+: withoutUrl word := by
  rcases withoutUrl_word hword with ⟨hsame, hurl⟩ | hnotice
  · rw [hsame]
    exact ⟨hretained, hurl⟩
  · rw [hnotice]
    exact ⟨urlNotice_plain.1, urlNotice_plain.2.1⟩

/-- **Without URLs, a line without credentials is plain.** -/
theorem redact_plain {line : Text} (hretained : ∀ c ∈ line, retainedChar c = true)
    (hsecret : ∀ key ∈ secretKeys, ¬ key.toList <:+: line.map Char.toLower) :
    PlainLine (redact line) := by
  induction line using parts_induction isWhitespace with
  | last word hword =>
    rw [redact_word hword]
    obtain ⟨hchars, hurl⟩ := withoutUrl_plain hword hretained
    refine ⟨hchars, hurl, ?_⟩
    intro key hkey hinside
    -- the word is kept as it is, or replaced by the notice
    rcases withoutUrl_word hword with ⟨hsame, -⟩ | hnotice
    · rw [hsame] at hinside
      exact hsecret key hkey hinside
    · rw [hnotice] at hinside
      exact urlNotice_plain.2.2 key hkey ((List.dropLast_prefix _).isInfix.trans hinside)
  | part word c rest hword hc ih =>
    have hrest : rest <:+: word ++ c :: rest :=
      (List.suffix_cons c rest).isInfix.trans (List.suffix_append _ _).isInfix
    have hfront : word ++ [c] <:+: word ++ c :: rest := ⟨[], rest, by simp⟩
    obtain ⟨hchars, hurl⟩ := withoutUrl_plain hword fun d hd => hretained d (by simp [hd])
    obtain ⟨hrestChars, hrestUrl, hrestSecret⟩ := ih (fun d hd => hretained d (hrest.mem hd))
      fun key hkey hinside => hsecret key hkey (hinside.trans (hrest.map Char.toLower))
    -- no pattern has white space in it, so none goes over the end of a word
    have hnotWord : ∀ {pattern : Text}, (∀ d ∈ pattern, isWhitespace d = false) → c ∉ pattern := by
      intro pattern hpattern hmem
      rw [hpattern c hmem] at hc
      cases hc
    rw [redact_append hword hc]
    refine ⟨?_, ?_, ?_⟩
    · intro d hd
      rcases List.mem_append.1 hd with hd | hd
      · exact hchars d hd
      · cases hd with
        | head => exact hretained c (by simp)
        | tail _ hd => exact hrestChars d hd
    · intro hinside
      have hnone := hnotWord pattern_words.1
      rcases infix_append_cons hinside fun hmem => hnone (List.mem_of_mem_dropLast hmem) with
        hinside | hinside
      · exact hurl (infix_concat_notMem hinside hnone)
      · exact hrestUrl hinside
    · intro key hkey hinside
      rw [List.map_append, List.map_cons, whitespace_toLower hc] at hinside
      rcases infix_append_cons hinside (hnotWord (pattern_words.2 key hkey)) with
        hinside | hinside
      · rcases withoutUrl_word hword with ⟨hsame, -⟩ | hnotice
        · rw [hsame] at hinside
          have hline := hfront.map Char.toLower
          rw [List.map_append, List.map_cons, List.map_nil, whitespace_toLower hc] at hline
          exact hsecret key hkey (hinside.trans hline)
        · rw [hnotice] at hinside
          exact urlNotice_plain.2.2 key hkey (infix_concat_dropLast hinside)
      · exact hrestSecret key hkey hinside

/-- What is retained of a line is plain, whatever the line says. -/
theorem retainedLine_plain (line : Text) : PlainLine (retainedLine line) := by
  unfold retainedLine
  dsimp only
  -- a line that names a secret is replaced, any other is filtered and redacted
  split
  · exact secretNotice_plain
  · rename_i hsecret
    rw [Bool.not_eq_true, List.any_eq_false] at hsecret
    apply redact_plain
    · exact fun c hc => (List.mem_filter.1 hc).2
    · intro key hkey
      rw [← contains_iff]
      exact hsecret key hkey

/-! ## The loop -/

/-- The bytes taken are those the text begins with. -/
theorem takeBytes_isPrefix (bytes : Nat) (text : Text) : takeBytes bytes text <+: text := by
  induction text generalizing bytes with
  | nil => exact List.prefix_refl _
  | cons c rest ih =>
    rw [takeBytes]
    split
    · exact List.cons_prefix_cons.2 ⟨rfl, ih _⟩
    · exact List.nil_prefix

/-- No more bytes are taken than asked for. -/
theorem utf8Len_takeBytes (bytes : Nat) (text : Text) : utf8Len (takeBytes bytes text) ≤ bytes := by
  induction text generalizing bytes with
  | nil => exact Nat.zero_le _
  | cons c rest ih =>
    rw [takeBytes]
    split
    · rename_i hfits
      have hrest := ih (bytes - c.utf8Size)
      rw [utf8Len_cons]
      omega
    · exact Nat.zero_le _

/-- The notice of a cut is a line feed and a plain line. -/
theorem truncationNotice_plain :
    ∃ notice, truncationNotice = '\n' :: notice ∧ PlainLine notice := by
  refine ⟨truncationNotice.tail, by decide, ?_⟩
  have hnotice : (∀ c ∈ truncationNotice.tail, retainedChar c = true) ∧
      contains truncationNotice.tail "://".toList = false ∧
      ∀ key ∈ secretKeys,
        contains (truncationNotice.tail.map Char.toLower) key.toList = false := by
    decide +kernel
  obtain ⟨hretained, hurl, hsecret⟩ := hnotice
  refine ⟨hretained, ?_, ?_⟩
  · rw [← contains_iff, hurl]
    decide
  · intro key hkey
    rw [← contains_iff, hsecret key hkey]
    decide

/-- The lines so far: another plain line may follow, and they are not too long. -/
structure Retained (result : Text) : Prop where
  next : ∀ line, Plain line → Plain (result ++ line)
  size : utf8Len result ≤ limit

/-- The loop over the lines keeps the text plain and within the limit, by induction on the lines.
-/
theorem retainLines_plain {result : Text} (h : Retained result) (rest : List Text) :
    Plain (retainLines result rest) ∧
      utf8Len (retainLines result rest) ≤ limit + utf8Len truncationNotice := by
  induction rest generalizing result with
  | nil =>
    rw [retainLines]
    have hnil : PlainLine [] := ⟨List.forall_mem_nil _, by decide, by decide⟩
    have hplain := h.next [] hnil.plain
    rw [List.append_nil] at hplain
    exact ⟨hplain, Nat.le_trans h.size (Nat.le_add_right _ _)⟩
  | cons line rest ih =>
    have hline := retainedLine_plain line
    have hsize := h.size
    rw [retainLines]
    -- the line that does not fit is cut, and ends the loop
    split
    · obtain ⟨notice, hnotice, hplain⟩ := truncationNotice_plain
      have htaken := utf8Len_takeBytes (limit - utf8Len result) (retainedLine line)
      have hcut := hline.part (takeBytes_isPrefix (limit - utf8Len result) _).isInfix
      constructor
      · rw [hnotice]
        exact (h.next _ hcut.plain).lines hplain.plain
      · simp only [utf8Len_append]
        omega
    · rename_i hfits
      apply ih
      constructor
      · intro next hnext
        rw [List.append_assoc]
        exact (h.next _ hline.plain).lines hnext
      · have hfeed : utf8Len ['\n'] = 1 := by decide
        simp only [utf8Len_append, hfeed]
        omega

/-! ## The cut -/

/-- `str::is_char_boundary`. -/
def isCharBoundary : Text → Nat → Bool
  | _, 0 => true
  | [], _ + 1 => false
  | c :: rest, index + 1 =>
    decide (c.utf8Size ≤ index + 1) && isCharBoundary rest (index + 1 - c.utf8Size)

/-- The loop that goes back to a boundary; it would underflow in front of the first byte. -/
def boundaryBefore (line : Text) : Nat → Fallible Empty Nat
  | 0 => if isCharBoundary line 0 then .ok 0 else Fallible.panic
  | index + 1 => if isCharBoundary line (index + 1) then .ok (index + 1) else boundaryBefore line index

/-- `&line[..stop]`, which panics where no character ends. -/
def sliceTo (line : Text) (stop : Nat) : Fallible Empty Text :=
  if isCharBoundary line stop then .ok (takeBytes stop line) else Fallible.panic

/-- The loop over the lines with the cut as it is made. -/
def retainLinesCut (result : Text) : List Text → Fallible Empty Text
  | [] => .ok result
  | line :: rest =>
    let line := retainedLine line
    let remaining := limit - utf8Len result
    if remaining < utf8Len line + 1 then do
      let stop ← boundaryBefore line remaining
      let kept ← sliceTo line stop
      .ok (result ++ kept ++ truncationNotice)
    else retainLinesCut (result ++ line ++ ['\n']) rest

/-- A byte that ends no character adds nothing to what is taken. -/
theorem takeBytes_succ {line : Text} {index : Nat} (h : isCharBoundary line (index + 1) = false) :
    takeBytes (index + 1) line = takeBytes index line := by
  induction line generalizing index with
  | nil => rfl
  | cons c rest ih =>
    rw [isCharBoundary] at h
    rw [takeBytes, takeBytes]
    by_cases hfits : c.utf8Size ≤ index + 1
    · rw [decide_eq_true hfits, Bool.true_and] at h
      have hmore : c.utf8Size ≤ index := by
        apply Nat.le_of_lt_succ
        apply Nat.lt_of_le_of_ne hfits
        intro hend
        rw [hend, Nat.sub_self] at h
        cases rest <;> cases h
      have hindex : index + 1 - c.utf8Size = index - c.utf8Size + 1 := by omega
      rw [hindex] at h
      rw [if_pos hfits, if_pos hmore, hindex, ih h]
    · rw [if_neg hfits, if_neg (by omega)]

/-- The loop ends at a boundary, with the longest beginning that fits. -/
theorem boundaryBefore_ok (line : Text) (index : Nat) :
    ∃ stop, boundaryBefore line index = .ok stop ∧ isCharBoundary line stop = true ∧
      takeBytes stop line = takeBytes index line := by
  have hzero : isCharBoundary line 0 = true := by cases line <;> rfl
  induction index with
  | zero =>
    refine ⟨0, ?_, hzero, rfl⟩
    rw [boundaryBefore, hzero]
    rfl
  | succ index ih =>
    cases hboundary : isCharBoundary line (index + 1) with
    | true =>
      refine ⟨index + 1, ?_, hboundary, rfl⟩
      rw [boundaryBefore, hboundary]
      rfl
    | false =>
      obtain ⟨stop, hstop, hat, htaken⟩ := ih
      refine ⟨stop, ?_, hat, ?_⟩
      · rw [boundaryBefore, hboundary, if_neg (by decide), hstop]
      · rw [htaken, takeBytes_succ hboundary]

/-- **The cut does not fail.** -/
theorem retainLinesCut_ok (result : Text) (rest : List Text) :
    retainLinesCut result rest = .ok (retainLines result rest) := by
  induction rest generalizing result with
  | nil => rfl
  | cons line rest ih =>
    rw [retainLinesCut, retainLines]
    split
    · obtain ⟨stop, hstop, hat, htaken⟩ :=
        boundaryBefore_ok (retainedLine line) (limit - utf8Len result)
      rw [hstop, Fallible.ok_bind, sliceTo, hat, if_pos rfl, Fallible.ok_bind, htaken]
    · exact ih _

/-! ## The whole -/

/-- What may be shown on demand. -/
structure Sanitized (output : Text) : Prop where
  control : ∀ c ∈ output, isControl c = true → c = '\t' ∨ c = '\n'
  bidirectional : ∀ c ∈ output, ¬ ((0x202a ≤ c.toNat ∧ c.toNat ≤ 0x202e) ∨
    (0x2066 ≤ c.toNat ∧ c.toNat ≤ 0x2069))
  url : ¬ "://".toList <:+: output
  /-- No line has a keyword, in letters of either case. -/
  secret : ∀ line ∈ splitAll '\n' output, ∀ key ∈ secretKeys,
    ¬ key.toList <:+: line.map Char.toLower
  size : utf8Len output ≤ limit + utf8Len truncationNotice

/-- A character is retained unless it is a control other than the tab, or a bidirectional one. -/
theorem retainedChar_iff {c : Char} :
    retainedChar c = true ↔ (isControl c = true → c = '\t') ∧
      ¬ ((0x202a ≤ c.toNat ∧ c.toNat ≤ 0x202e) ∨ (0x2066 ≤ c.toNat ∧ c.toNat ≤ 0x2069)) := by
  have hnat : ∀ n m : UInt32, (n ≤ c.val && c.val ≤ m) = true ↔
      n.toNat ≤ c.toNat ∧ c.toNat ≤ m.toNat := by
    intro n m
    rw [Bool.and_eq_true, decide_eq_true_eq, decide_eq_true_eq, UInt32.le_iff_toNat_le,
      UInt32.le_iff_toNat_le]
    rfl
  unfold retainedChar
  rw [Bool.and_eq_true, Bool.not_eq_true', ← Bool.not_eq_true]
  apply and_congr
  · cases isControl c <;> simp
  · rw [Bool.or_eq_true, hnat, hnat]
    rfl

/-- A plain text within the limit is sanitized. -/
theorem Plain.sanitized {output : Text} (h : Plain output)
    (hsize : utf8Len output ≤ limit + utf8Len truncationNotice) : Sanitized output := by
  have hchar : ∀ c ∈ output, c ≠ '\n' → retainedChar c = true := by
    intro c hc hfeed
    obtain ⟨before, behind, rfl⟩ := List.append_of_mem hc
    have hpart : [c] <:+: before ++ c :: behind := ⟨before, behind, by simp⟩
    exact (h [c] hpart (by simpa using hfeed.symm)).retained c (.head _)
  refine ⟨?_, ?_, ?_, ?_, hsize⟩
  · intro c hc hcontrol
    by_cases hfeed : c = '\n'
    · exact .inr hfeed
    · exact .inl ((retainedChar_iff.1 (hchar c hc hfeed)).1 hcontrol)
  · intro c hc
    by_cases hfeed : c = '\n'
    · rw [hfeed]
      decide
    · exact (retainedChar_iff.1 (hchar c hc hfeed)).2
  · intro hurl
    exact (h _ hurl (by decide)).url (List.infix_refl _)
  · intro line hline
    exact (h line (mem_splitAll_isInfix hline) (notMem_of_mem_splitAll hline)).secret

/-- **Failure details are sanitized**, whatever the diagnostic is, and cutting them does not
fail. -/
theorem failure_details_sanitized (diagnostic : String) :
    Sanitized (retainedFailureDetails diagnostic).toList ∧
      retainLinesCut [] (lines diagnostic.toList)
        = .ok (retainLines [] (lines diagnostic.toList)) := by
  have hstart : Retained [] := ⟨fun _ hline => hline, Nat.zero_le _⟩
  obtain ⟨hplain, hsize⟩ := retainLines_plain hstart (lines diagnostic.toList)
  have hinside := trim_infix (retainLines [] (lines diagnostic.toList))
  rw [retainedFailureDetails, String.toList_ofList]
  refine ⟨?_, retainLinesCut_ok _ _⟩
  exact (hplain.part hinside).sanitized (Nat.le_trans (utf8Len_le hinside) hsize)

end LgBuddy.FailureDetails
