import LgBuddy.Preflight.PackageOwnership

/-!
# LgBuddy — the records of dpkg

What `parseDpkgOwners` accepts, and what it makes of it.

* `OwnershipRecord` — a line with the owners of a path; white space may surround an id;
* `parseDpkgLine_some`, `parseDpkgLine_none` — one line;
* `foldl_pushNew` — distinct names, in the order in which they first occur;
* `parseDpkgOwners_isOk`, `parseDpkgOwners_of_records` — all lines.
-/

namespace LgBuddy

open Str

/-! ## Package ids -/

/-- A character of a name is no white space and no comma. -/
theorem alphanum_plain {c : Char} (h : c.isAlphanum = true) : isWhitespace c = false ∧ c ≠ ',' := by
  have hascii : c.toNat < 128 := by
    delta Char.isAlphanum Char.isAlpha Char.isUpper Char.isLower Char.isDigit at h
    simp only [Bool.or_eq_true, Bool.and_eq_true, decide_eq_true_eq, UInt32.le_iff_toNat_le, ge_iff_le] at h
    change ((65 ≤ c.toNat ∧ c.toNat ≤ 90) ∨ (97 ≤ c.toNat ∧ c.toNat ≤ 122))
      ∨ (48 ≤ c.toNat ∧ c.toNat ≤ 57) at h
    omega
  have hcases : ∀ n : Fin 128, (Char.ofNat n).isAlphanum = true →
      isWhitespace (Char.ofNat n) = false ∧ Char.ofNat n ≠ ',' := by decide
  have hc := hcases ⟨c.toNat, hascii⟩
  rw [Char.ofNat_toNat] at hc
  exact hc h

/-- A package identifier has neither white space nor a comma in it. -/
theorem packageId_plain {id : Text} (h : isPackageId id = true) :
    ∀ c ∈ id, isWhitespace c = false ∧ c ≠ ',' := by
  -- the characters of a name, and then those of an architecture behind the colon
  have hname : ∀ name : Text, (name.head?.any Char.isAlphanum && (name.drop 1).all
      fun c => c.isAlphanum || c = '+' || c = '.' || c = '-') = true →
        ∀ c ∈ name, isWhitespace c = false ∧ c ≠ ',' := by
    intro name hvalid c hc
    cases name with
    | nil => cases hc
    | cons first rest =>
      simp only [List.head?_cons, Option.any_some, List.drop_one, List.tail_cons, Bool.and_eq_true,
        List.all_eq_true, Bool.or_eq_true, decide_eq_true_eq] at hvalid
      rcases List.mem_cons.1 hc with rfl | hc
      · exact alphanum_plain hvalid.1
      · rcases hvalid.2 c hc with ((halnum | rfl) | rfl) | rfl
        · exact alphanum_plain halnum
        · decide
        · decide
        · decide
  unfold isPackageId at h
  cases hsplit : splitOnce ':' id with
  | none =>
    simp only [hsplit, Bool.and_true] at h
    exact hname id h
  | some cut =>
    obtain ⟨name, arch⟩ := cut
    simp only [hsplit] at h
    obtain ⟨hvalid, hqualified⟩ := Bool.and_eq_true_iff.1 h
    obtain ⟨-, harch⟩ := Bool.and_eq_true_iff.1 hqualified
    obtain ⟨rfl, -⟩ := splitOnce_eq_some.1 hsplit
    intro c hc
    rcases List.mem_append.1 hc with hc | hc
    · exact hname name hvalid c hc
    · rcases List.mem_cons.1 hc with rfl | hc
      · decide
      · have hchar := List.all_eq_true.1 harch c hc
        simp only [Bool.or_eq_true, decide_eq_true_eq] at hchar
        rcases hchar with (hlower | hdigit) | rfl
        · exact alphanum_plain (by delta Char.isAlphanum Char.isAlpha; simp [hlower])
        · exact alphanum_plain (by delta Char.isAlphanum; simp [hdigit])
        · decide

/-- Every colon of a text is followed by a character that is no blank. -/
def ColonsJoined (text : Text) : Prop :=
  ∀ before behind, text = before ++ ':' :: behind → ∃ c rest, behind = c :: rest ∧ c ≠ ' '

/-- A part that is an identifier has its colons joined to what they qualify. -/
theorem colonsJoined_part {part : Text} (h : isPackageId (trim part) = true) :
    ColonsJoined part := by
  intro before behind hpart
  obtain ⟨front, back, hsplit, hfront, hback⟩ := trim_split part
  have hblank : ∀ {space : Text}, (∀ c ∈ space, isWhitespace c = true) → ':' ∉ space :=
    fun hspace hmem => absurd (hspace ':' hmem) (by decide)
  cases hid : splitOnce ':' (trim part) with
  | none =>
    have hmem : ':' ∈ front ++ trim part ++ back := by
      rw [← hsplit, hpart]
      simp
    rw [List.mem_append, List.mem_append] at hmem
    rcases hmem with (hmem | hmem) | hmem
    · exact absurd hmem (hblank hfront)
    · exact absurd hmem (splitOnce_eq_none.1 hid)
    · exact absurd hmem (hblank hback)
  | some cut =>
    -- the one colon is that of the architecture
    obtain ⟨name, arch⟩ := cut
    obtain ⟨htrim, hname⟩ := splitOnce_eq_some.1 hid
    unfold isPackageId at h
    simp only [hid] at h
    obtain ⟨-, hqualified⟩ := Bool.and_eq_true_iff.1 h
    obtain ⟨hthere, harch⟩ := Bool.and_eq_true_iff.1 hqualified
    obtain ⟨hnonempty, hcolon⟩ := Bool.and_eq_true_iff.1 hthere
    have hnocolon : ':' ∉ arch := by
      intro hmem
      rw [List.contains_iff_mem.2 hmem] at hcolon
      cases hcolon
    have heq : (front ++ name) ++ ':' :: (arch ++ back) = before ++ ':' :: behind := by
      rw [← hpart, hsplit, htrim]
      simp
    have hbehind : behind = arch ++ back := by
      rcases List.append_eq_append_iff.1 heq with ⟨x, hbefore, hrest⟩ | ⟨x, hfrontName, hrest⟩
      · cases x with
        | nil =>
          rw [List.nil_append] at hrest
          cases hrest
          rfl
        | cons c x =>
          rw [List.cons_append, List.cons.injEq] at hrest
          have hmem : ':' ∈ arch ++ back := by
            rw [hrest.2]
            simp
          rcases List.mem_append.1 hmem with hmem | hmem
          · exact absurd hmem hnocolon
          · exact absurd hmem (hblank hback)
      · cases x with
        | nil =>
          rw [List.nil_append] at hrest
          cases hrest
          rfl
        | cons c x =>
          rw [List.cons_append, List.cons.injEq] at hrest
          have hmem : ':' ∈ front ++ name := by
            rw [hfrontName, hrest.1]
            simp
          rcases List.mem_append.1 hmem with hmem | hmem
          · exact absurd hmem (hblank hfront)
          · exact absurd hmem hname
    cases arch with
    | nil => simp at hnonempty
    | cons c arch =>
      refine ⟨c, arch ++ back, by rw [hbehind]; rfl, ?_⟩
      rintro rfl
      rw [List.all_cons, Bool.and_eq_true] at harch
      exact absurd harch.1 (by decide)

/-- A list of such parts has its colons joined to what they qualify, by induction on it. -/
theorem colonsJoined_list {parts : List Text}
    (h : ∀ part ∈ parts, isPackageId (trim part) = true) :
    ColonsJoined ([',', ' '].intercalate parts) := by
  induction parts with
  | nil =>
    intro before behind hnil
    exact absurd hnil.symm (by simp [List.intercalate])
  | cons part parts ih =>
    have hpart := colonsJoined_part (h part List.mem_cons_self)
    have hrest := ih fun other hother => h other (List.mem_cons_of_mem _ hother)
    cases parts with
    | nil =>
      rw [List.intercalate_singleton]
      exact hpart
    | cons next parts =>
      rw [List.intercalate_cons_cons, List.append_assoc]
      intro before behind heq
      rcases List.append_eq_append_iff.1 heq with ⟨x, hbefore, hbehind⟩ | ⟨x, hpartCut, hbehind⟩
      · -- the colon is behind the comma
        match x, hbehind with
        | [], hbehind => cases hbehind
        | [c], hbehind => cases hbehind
        | c :: d :: x, hbehind =>
          rw [List.cons_append, List.cons_append] at hbehind
          simp only [List.cons_append, List.nil_append, List.cons.injEq] at hbehind
          exact hrest x behind hbehind.2.2
      · cases x with
        | nil => cases hbehind
        | cons c x =>
          rw [List.cons_append, List.cons.injEq] at hbehind
          obtain ⟨rfl, rfl⟩ := hbehind
          obtain ⟨d, rest, rfl, hd⟩ := hpart before x hpartCut
          exact ⟨d, rest ++ _, rfl, hd⟩

/-! ## One line -/

/-- A trimmed line that names the owners of the path; white space may surround an id. -/
def OwnershipRecord (path line : Text) (ids : List Text) : Prop :=
  ∃ parts, parts ≠ [] ∧ (∀ part ∈ parts, isPackageId (trim part) = true)
    ∧ line = [',', ' '].intercalate parts ++ ':' :: ' ' :: path ∧ ids = parts.map trim

/-- A part that is an identifier has no comma in it. -/
theorem comma_notMem_part {part : Text} (h : isPackageId (trim part) = true) : ',' ∉ part := by
  intro hmem
  obtain ⟨front, back, hsplit, hfront, hback⟩ := trim_split part
  rw [hsplit, List.mem_append, List.mem_append] at hmem
  rcases hmem with (hmem | hmem) | hmem
  · exact absurd (hfront ',' hmem) (by decide)
  · exact (packageId_plain h ',' hmem).2 rfl
  · exact absurd (hback ',' hmem) (by decide)

/-- A character with other things than white space on both sides is not trimmed. -/
theorem mem_trim_between {before behind : Text} {c x y : Char} (hx : x ∈ before)
    (hxs : isWhitespace x = false) (hy : y ∈ behind) (hys : isWhitespace y = false) :
    c ∈ trim (before ++ c :: behind) := by
  obtain ⟨front, back, hsplit, hfront, hback⟩ := trim_split (before ++ c :: behind)
  rw [List.append_assoc] at hsplit
  rcases List.append_eq_append_iff.1 hsplit with ⟨rest, rfl, -⟩ | ⟨rest, rfl, hrest⟩
  · -- all in front would be white space
    exact absurd (hfront x (List.mem_append_left _ hx)) (by rw [hxs]; decide)
  · rcases List.append_eq_append_iff.1 hrest with ⟨more, -, hmore⟩ | ⟨more, htrim, hmore⟩
    · have hmem : y ∈ back := by
        rw [hmore]
        exact List.mem_append_right _ (List.mem_cons_of_mem _ hy)
      exact absurd (hback y hmem) (by rw [hys]; decide)
    · cases more with
      | nil =>
        rw [List.nil_append] at hmore
        have hmem : y ∈ back := by
          rw [← hmore]
          exact List.mem_cons_of_mem _ hy
        exact absurd (hback y hmem) (by rw [hys]; decide)
      | cons d more =>
        rw [List.cons_append, List.cons.injEq] at hmore
        rw [htrim, hmore.1]
        simp

/-- A record starts with its first id, behind which there is a comma or a colon. -/
theorem OwnershipRecord.first {path line : Text} {ids : List Text}
    (h : OwnershipRecord path line ids) : ∃ part stop rest, line = part ++ stop :: rest
      ∧ isPackageId (trim part) = true ∧ (stop = ',' ∨ stop = ':') := by
  obtain ⟨parts, hne, hvalid, rfl, -⟩ := h
  cases parts with
  | nil => exact absurd rfl hne
  | cons part parts =>
    have hpart := hvalid part List.mem_cons_self
    cases parts with
    | nil => exact ⟨part, ':', ' ' :: path, by rw [List.intercalate_singleton], hpart, .inr rfl⟩
    | cons next parts =>
      refine ⟨part, ',', ' ' :: ([',', ' '].intercalate (next :: parts) ++ ':' :: ' ' :: path),
        ?_, hpart, .inl rfl⟩
      rw [List.intercalate_cons_cons, List.append_assoc, List.append_assoc]
      rfl

/-- The words of a diversion record are no id. -/
theorem OwnershipRecord.not_prefix {path line word more : Text} {ids : List Text} {x y : Char}
    (h : OwnershipRecord path line ids) (hcomma : ',' ∉ word ++ ' ' :: more)
    (hcolon : ':' ∉ word ++ ' ' :: more) (hx : x ∈ word) (hxs : isWhitespace x = false)
    (hy : y ∈ more) (hys : isWhitespace y = false) : ¬ word ++ ' ' :: more <+: line := by
  rintro ⟨tail, hprefix⟩
  obtain ⟨part, stop, rest, rfl, hvalid, hstop⟩ := h.first
  have hbeyond : ∃ beyond, part = (word ++ ' ' :: more) ++ beyond := by
    rcases List.append_eq_append_iff.1 hprefix with ⟨beyond, hpart, -⟩ | ⟨short, hword, hrest⟩
    · exact ⟨beyond, hpart⟩
    · cases short with
      | nil => exact ⟨[], by rw [List.append_nil, hword, List.append_nil]⟩
      | cons c short =>
        rw [List.cons_append, List.cons.injEq] at hrest
        have hmem : stop ∈ word ++ ' ' :: more := by
          rw [hword, hrest.1]
          simp
        rcases hstop with rfl | rfl
        · exact absurd hmem hcomma
        · exact absurd hmem hcolon
  obtain ⟨beyond, rfl⟩ := hbeyond
  rw [List.append_assoc, List.cons_append] at hvalid
  have hblank : ' ' ∈ trim (word ++ ' ' :: (more ++ beyond)) :=
    mem_trim_between hx hxs (List.mem_append_left _ hy) hys
  exact absurd (packageId_plain hvalid ' ' hblank).1 (by decide)

/-- A record of owners is no diversion. -/
theorem OwnershipRecord.not_diversion {path line : Text} {ids : List Text}
    (h : OwnershipRecord path line ids) : isDiversion line = false := by
  have hby : "diversion by ".toList = "diversion".toList ++ ' ' :: "by ".toList := by decide
  have hlocal : "local diversion ".toList = "local".toList ++ ' ' :: "diversion ".toList := by decide
  have hno : ¬ "diversion by ".toList <+: line := by
    rw [hby]
    exact h.not_prefix (x := 'd') (y := 'b') (by decide) (by decide) (by decide) (by decide)
      (by decide) (by decide)
  have hnoLocal : ¬ "local diversion ".toList <+: line := by
    rw [hlocal]
    exact h.not_prefix (x := 'l') (y := 'd') (by decide) (by decide) (by decide) (by decide)
      (by decide) (by decide)
  unfold isDiversion
  rw [Bool.or_eq_false_iff, Bool.eq_false_iff, Bool.eq_false_iff, ne_eq, ne_eq,
    List.isPrefixOf_iff_prefix, List.isPrefixOf_iff_prefix]
  exact ⟨hno, hnoLocal⟩

/-- A line names no owners exactly where it reports a diversion. -/
theorem parseDpkgLine_none {path line : Text} :
    parseDpkgLine path line = .ok none ↔ isDiversion (trim line) = true := by
  unfold parseDpkgLine
  dsimp only
  by_cases hempty : trim line = []
  · rw [if_pos hempty, hempty]
    simp [isDiversion]
  · rw [if_neg hempty]
    by_cases hdiversion : isDiversion (trim line) = true
    · rw [if_pos hdiversion]
      simp [hdiversion]
    · rw [if_neg hdiversion]
      refine iff_of_false (fun h => ?_) hdiversion
      split at h
      · cases h
      · split at h
        · cases h
        · split at h <;> cases h

/-- A line names owners exactly where it is a record of them. -/
theorem parseDpkgLine_some {path line : Text} {ids : List Text} :
    parseDpkgLine path line = .ok (some ids) ↔ OwnershipRecord path (trim line) ids := by
  unfold parseDpkgLine
  dsimp only
  constructor
  · intro h
    split at h
    · cases h
    · split at h
      · cases h
      · split at h
        · cases h
        · rename_i list recordPath hcut
          split at h
          · cases h
          · rename_i hpath
            split at h
            · cases h
            · rename_i hvalid
              cases h
              refine ⟨splitPair ',' ' ' list, splitPair_ne_nil list, fun part hpart => ?_, ?_, rfl⟩
              · have hnot := List.find?_eq_none.1 hvalid (trim part) (List.mem_map_of_mem hpart)
                simpa using hnot
              · rw [intercalate_splitPair, splitOncePair_cut hcut, not_not.1 hpath]
  · intro hrecord
    have hdiversion := hrecord.not_diversion
    obtain ⟨parts, hne, hvalid, hline, rfl⟩ := hrecord
    have hjoined := colonsJoined_list hvalid
    -- the first colon with a blank behind it ends the list
    have hcut : splitOncePair ':' ' ' (trim line) = some ([',', ' '].intercalate parts, path) := by
      rw [hline]
      apply splitOncePair_append (by decide)
      rintro ⟨before, behind, hinfix⟩
      rw [List.append_assoc] at hinfix
      obtain ⟨c, rest, hcons, hblank⟩ := hjoined before (' ' :: behind) hinfix.symm
      cases hcons
      exact hblank rfl
    have hparts : splitPair ',' ' ' ([',', ' '].intercalate parts) = parts :=
      splitPair_intercalate hne fun part hpart => comma_notMem_part (hvalid part hpart)
    have hnone : (parts.map trim).find? (fun owner => !isPackageId owner) = none := by
      rw [List.find?_eq_none]
      intro owner howner
      obtain ⟨part, hpart, rfl⟩ := List.mem_map.1 howner
      simp [hvalid part hpart]
    rw [if_neg (by rw [hline]; simp), if_neg (by rw [hdiversion]; exact Bool.false_ne_true), hcut]
    dsimp only
    rw [if_neg (not_not.2 rfl), hparts, hnone]

/-! ## All lines -/

/-- Distinct names, in the order in which they first occur. -/
theorem foldl_pushNew (names : List Text) : ∀ owners : List Text,
    names.foldl pushNew owners = owners ++ (names.filter (· ∉ owners)).eraseDups := by
  induction names with
  | nil => intro owners; simp
  | cons name names ih =>
    intro owners
    rw [List.foldl_cons, ih]
    by_cases hknown : name ∈ owners
    · rw [pushNew, if_pos hknown, List.filter_cons, if_neg (by simp [hknown])]
    · rw [pushNew, if_neg hknown, List.filter_cons, if_pos (by simp [hknown]), List.eraseDups_cons,
        List.append_assoc, List.singleton_append, List.filter_filter]
      congr 3
      apply List.filter_congr
      intro other _
      by_cases hsame : other = name
      · simp [hsame]
      · simp [hsame]

/-- Collecting names keeps the list free of repetitions. -/
theorem nodup_pushNew {names : List Text} : ∀ {owners : List Text}, owners.Nodup →
    (names.foldl pushNew owners).Nodup := by
  induction names with
  | nil => exact fun h => h
  | cons name names ih =>
    intro owners h
    apply ih
    unfold pushNew
    split
    · exact h
    · rename_i hnew
      exact List.nodup_append.2 ⟨h, List.pairwise_singleton _ name, fun a ha b hb => by
        rw [List.mem_singleton.1 hb]
        exact fun heq => hnew (heq ▸ ha)⟩

/-- The ids of each line: none for a diversion record. -/
def LineIds (path line : Text) : Option (List Text) → Prop
  | none => isDiversion (trim line) = true
  | some ids => OwnershipRecord path (trim line) ids

/-- A line is read exactly as the two kinds say. -/
theorem parseDpkgLine_ok {path line : Text} {ids : Option (List Text)} :
    parseDpkgLine path line = .ok ids ↔ LineIds path line ids := by
  cases ids with
  | none => exact parseDpkgLine_none
  | some ids => exact parseDpkgLine_some

/-- Every line has its record. -/
theorem mem_of_forall₂_left {lines : List Text} {records : List (Option (List Text))} {path : Text}
    (h : List.Forall₂ (LineIds path) lines records) :
    ∀ line ∈ lines, ∃ ids ∈ records, LineIds path line ids := by
  induction h with
  | nil => exact fun _ hline => by cases hline
  | cons hids _ ih =>
    intro line hline
    rcases List.mem_cons.1 hline with rfl | hline
    · exact ⟨_, List.mem_cons_self, hids⟩
    · obtain ⟨ids, hmem, hids⟩ := ih line hline
      exact ⟨ids, List.mem_cons_of_mem _ hmem, hids⟩

/-- Every record has its line. -/
theorem mem_of_forall₂_right {lines : List Text} {records : List (Option (List Text))} {path : Text}
    (h : List.Forall₂ (LineIds path) lines records) :
    ∀ ids ∈ records, ∃ line ∈ lines, LineIds path line ids := by
  induction h with
  | nil => exact fun _ hids => by cases hids
  | cons hids _ ih =>
    intro ids hmem
    rcases List.mem_cons.1 hmem with rfl | hmem
    · exact ⟨_, List.mem_cons_self, hids⟩
    · obtain ⟨line, hline, hids⟩ := ih ids hmem
      exact ⟨line, List.mem_cons_of_mem _ hline, hids⟩

def idsOf (records : List (Option (List Text))) : List Text := records.flatMap (·.getD [])

/-- The loop, from what was seen before. -/
theorem parseDpkgSteps_ok {path : Text} {lines : List Text} :
    ∀ {seen result : List Text × Bool}, lines.foldlM (parseDpkgStep path) seen = .ok result ↔
      ∃ records, List.Forall₂ (LineIds path) lines records
        ∧ result = ((idsOf records).foldl pushNew seen.1, seen.2 || records.any (·.isSome)) := by
  induction lines with
  | nil =>
    intro seen result
    constructor
    · intro h
      cases h
      exact ⟨[], .nil, by simp [idsOf]⟩
    · rintro ⟨records, hrecords, rfl⟩
      cases hrecords
      simp [idsOf, pure, Except.pure]
  -- by induction on the lines: each of them adds its identifiers, if it has any
  | cons line lines ih =>
    intro seen result
    rw [List.foldlM_cons]
    constructor
    · intro h
      cases hline : parseDpkgLine path line with
      | error err =>
        rw [parseDpkgStep, hline] at h
        cases h
      | ok ids =>
        have hids := parseDpkgLine_ok.1 hline
        rw [parseDpkgStep, hline] at h
        cases ids with
        | none =>
          obtain ⟨records, hrecords, rfl⟩ := ih.1 h
          exact ⟨none :: records, .cons hids hrecords, by simp [idsOf]⟩
        | some ids =>
          obtain ⟨records, hrecords, rfl⟩ := ih.1 h
          exact ⟨some ids :: records, .cons hids hrecords, by simp [idsOf]⟩
    · rintro ⟨records, hrecords, rfl⟩
      cases hrecords with
      | cons hids hrecords =>
        rename_i ids records
        rw [parseDpkgStep, parseDpkgLine_ok.2 hids]
        cases ids with
        | none => exact ih.2 ⟨records, hrecords, by simp [idsOf]⟩
        | some ids => exact ih.2 ⟨records, hrecords, by simp [idsOf]⟩

/-- **Records.** The owners are the distinct ids of the records. -/
theorem parseDpkgOwners_ok {path : Text} {lines : List Text} {family : PackageFamily}
    {owners : List PackageOwner} : parseDpkgOwners lines path family = .ok owners ↔
      ∃ records, List.Forall₂ (LineIds path) lines records ∧ records.any (·.isSome) = true
        ∧ owners = ownersOf family (idsOf records).eraseDups := by
  have hnames : ∀ records, (idsOf records).foldl pushNew [] = (idsOf records).eraseDups := by
    intro records
    rw [foldl_pushNew, List.nil_append]
    congr 1
    exact List.filter_eq_self.2 fun name _ => by simp
  unfold parseDpkgOwners
  constructor
  · intro h
    cases hsteps : lines.foldlM (parseDpkgStep path) ([], false) with
    | error err =>
      rw [hsteps] at h
      cases h
    | ok result =>
      obtain ⟨records, hrecords, rfl⟩ := parseDpkgSteps_ok.1 hsteps
      rw [hsteps] at h
      cases hsaw : records.any (·.isSome) with
      | false =>
        simp only [hsaw, Bool.or_false] at h
        cases h
      | true =>
        simp only [hsaw, Bool.or_true] at h
        cases h
        exact ⟨records, hrecords, hsaw, by rw [hnames]⟩
  · rintro ⟨records, hrecords, hsaw, rfl⟩
    have hsteps : lines.foldlM (parseDpkgStep path) ([], false)
        = .ok ((idsOf records).foldl pushNew [], true) :=
      parseDpkgSteps_ok.2 ⟨records, hrecords, by simp [hsaw]⟩
    rw [hsteps, ← hnames]
    rfl

/-- **Success.** All lines are records, and one of them names owners. -/
theorem parseDpkgOwners_isOk {path : Text} {lines : List Text} {family : PackageFamily} :
    (∃ owners, parseDpkgOwners lines path family = .ok owners) ↔
      (∀ line ∈ lines, isDiversion (trim line) = true ∨ ∃ ids, OwnershipRecord path (trim line) ids)
        ∧ ∃ line ∈ lines, ∃ ids, OwnershipRecord path (trim line) ids := by
  constructor
  · rintro ⟨owners, h⟩
    obtain ⟨records, hrecords, hsaw, -⟩ := parseDpkgOwners_ok.1 h
    clear h
    constructor
    · intro line hline
      obtain ⟨ids, -, hids⟩ := mem_of_forall₂_left hrecords line hline
      cases ids with
      | none => exact .inl hids
      | some ids => exact .inr ⟨ids, hids⟩
    · obtain ⟨ids, hmem, hsome⟩ := List.any_eq_true.1 hsaw
      obtain ⟨ids, rfl⟩ := Option.isSome_iff_exists.1 hsome
      obtain ⟨line, hline, hids⟩ := mem_of_forall₂_right hrecords _ hmem
      exact ⟨line, hline, ids, hids⟩
  · rintro ⟨hall, line, hline, ids, hids⟩
    obtain ⟨records, hrecords⟩ : ∃ records, List.Forall₂ (LineIds path) lines records := by
      clear hline
      induction lines with
      | nil => exact ⟨[], .nil⟩
      | cons first lines ih =>
        obtain ⟨records, hrecords⟩ := ih fun other hother => hall other (List.mem_cons_of_mem _ hother)
        rcases hall first List.mem_cons_self with hdiversion | ⟨ids, hids⟩
        · exact ⟨none :: records, .cons hdiversion hrecords⟩
        · exact ⟨some ids :: records, .cons hids hrecords⟩
    refine ⟨_, parseDpkgOwners_ok.2 ⟨records, hrecords, ?_, rfl⟩⟩
    -- the record of the line is there, as it is no diversion
    obtain ⟨found, hmem, hfound⟩ := mem_of_forall₂_left hrecords line hline
    cases found with
    | none =>
      have hdiversion : isDiversion (trim line) = true := hfound
      rw [hids.not_diversion] at hdiversion
      cases hdiversion
    | some found => exact List.any_eq_true.2 ⟨_, hmem, rfl⟩

end LgBuddy
