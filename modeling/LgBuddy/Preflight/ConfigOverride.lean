import LgBuddy.Preflight.PathSafety
import LgBuddy.Text.Infix

/-!
# LgBuddy — the path of the configuration, written and checked

What setup writes about the path of the configuration, and what the preflight reads of it:

* `setup/provision.rs` — `overrideContents`, the drop-in of the services, and `pointerContents`;
* `upgrade_preflight/path_safety.rs` — `systemdConfigOverrideLine`, the line that the drop-in has to
  have, which `checkIntegrationOverride` compares;
* `config/binding.rs` — `absolutePath`, `parse`;
* `override_is_accepted_iff` — when the preflight accepts what setup writes.
-/

namespace LgBuddy

namespace ConfigOverride

open Str
open PathSafety (Checker CompatibilityFailure integrationDirectives)

/-- `str::replace` of a character. -/
def replaceChar (old : Char) (new text : Text) : Text :=
  text.flatMap fun c => if c = old then new else [c]

/-! ## What setup writes -/

/-- `override_contents`. What `fs::canonicalize` gives is an error, or a path, which need not be
UTF-8. -/
def overrideContents (canonicalized : Except String (Option Text)) : Except String Text :=
  match canonicalized with
  | .error err => .error err
  | .ok none => .error "configuration path is not UTF-8"
  | .ok (some config) =>
    if config.any fun c => c = '\n' || c = '\r' then
      .error "configuration path contains a line break"
    else
      let escaped := replaceChar '%' ['%', '%']
        (replaceChar '"' ['\\', '"'] (replaceChar '\\' ['\\', '\\'] config))
      .ok ("[Service]".toList ++ '\n' :: ("Environment=\"LG_BUDDY_CONFIG=".toList ++ escaped ++ ['"']
        ++ ['\n']))

/-- The record of the path, in `user_files` and `system_files`. -/
def pointerContents (config : Text) : Text := config ++ ['\n']

/-! ## What the preflight expects -/

def systemdConfigOverrideLine (configPath : Text) : Text :=
  let escaped := replaceChar '"' ['\\', '"'] (replaceChar '\\' ['\\', '\\'] configPath)
  "Environment=\"LG_BUDDY_CONFIG=".toList ++ escaped ++ ['"']

def absolutePath (path : Text) : Except String Unit :=
  if !UnixPath.isAbsolute path
      || UnixPath.collect (UnixPath.components path) ≠ path
      || (UnixPath.components path).any (fun part => part = .parentDir || part = .curDir)
      || path.any (fun c => c = '\n' || c = '\r' || c = Char.ofNat 0)
      || contains path ['/', '/'] then
    .error s!"expected a canonical absolute config path: {String.ofList path}"
  else .ok ()

def parse (contents : Text) : Except String Text :=
  if contents.any fun c => c = '\r' || c = Char.ofNat 0 then
    .error "config binding contains a carriage return or NUL"
  else
    match (lines contents).filter (· ≠ []) with
    | [] => .error "config binding is empty"
    | [target] => do
      absolutePath target
      return target
    | _ => .error "config binding must contain exactly one path"

/-! ## Escaping -/

/-- A replacement of another character neither adds nor removes a character. -/
theorem mem_replaceChar {old c : Char} {new text : Text} (hc : c ≠ old) (hnew : c ∉ new) :
    c ∈ replaceChar old new text ↔ c ∈ text := by
  unfold replaceChar
  rw [List.mem_flatMap]
  constructor
  · rintro ⟨d, hd, hmem⟩
    split at hmem
    · exact absurd hmem hnew
    · rwa [List.mem_singleton.1 hmem]
  · intro hmem
    exact ⟨c, hmem, by rw [if_neg hc]; exact List.mem_singleton_self c⟩

/-- Doubling a character changes nothing exactly when the text lacks it. -/
theorem replaceChar_double_eq_self {c : Char} {text : Text} :
    replaceChar c [c, c] text = text ↔ c ∉ text := by
  have hlength : ∀ text : Text, text.length ≤ (replaceChar c [c, c] text).length := by
    intro text
    induction text with
    | nil => exact Nat.le_refl _
    | cons d text ih =>
      have hcons : replaceChar c [c, c] (d :: text)
          = (if d = c then [c, c] else [d]) ++ replaceChar c [c, c] text := rfl
      rw [hcons, List.length_append, List.length_cons]
      split <;> simp only [List.length_cons, List.length_nil] <;> omega
  induction text with
  | nil => exact ⟨fun _ => List.not_mem_nil, fun _ => rfl⟩
  | cons d text ih =>
    have hcons : replaceChar c [c, c] (d :: text)
        = (if d = c then [c, c] else [d]) ++ replaceChar c [c, c] text := rfl
    rw [hcons, List.mem_cons, not_or]
    by_cases hd : d = c
    · -- the text has become longer
      subst hd
      rw [if_pos rfl]
      constructor
      · intro heq
        have hlonger := congrArg List.length heq
        simp only [List.length_append, List.length_cons, List.length_nil] at hlonger
        have hkept := hlength text
        omega
      · exact fun hand => absurd rfl hand.1
    · rw [if_neg hd, List.singleton_append, List.cons_inj_right]
      exact ih.trans ⟨fun hmem => ⟨fun heq => hd heq.symm, hmem⟩, fun hand => hand.2⟩

/-! ## Lines -/

/-- A line without line ends, written before a text, is its first line. -/
theorem lines_newline {line rest : Text} (hnewline : '\n' ∉ line) (hreturn : '\r' ∉ line) :
    lines (line ++ '\n' :: rest) = line :: lines rest := by
  have hsplit : ∀ c ∈ line, (c == '\n') = false := by
    intro c hc
    have hne : c ≠ '\n' := fun heq => hnewline (heq ▸ hc)
    simpa using hne
  have hstrip : stripLineEnding (line ++ ['\n']) = line := by
    have hlast : line.getLast? ≠ some '\r' := fun hlast => hreturn (List.mem_of_getLast? hlast)
    simp [stripLineEnding, hlast]
  unfold lines
  rw [splitInclusive_append hsplit rfl, List.map_cons, hstrip]

/-- A line between two characters that are not white space. -/
theorem trim_between {first last : Char} {middle : Text} (hfirst : isWhitespace first = false)
    (hlast : isWhitespace last = false) :
    trim (first :: (middle ++ [last])) = first :: (middle ++ [last]) := by
  unfold trim trimEnd
  rw [List.dropWhile_cons_of_neg (by simp [hfirst]), ← List.cons_append,
    List.rdropWhile_concat_neg _ _ _ (by simp [hlast])]

/-- The line of a drop-in, for an escaped path. -/
def overrideLine (escaped : Text) : Text :=
  "Environment=\"LG_BUDDY_CONFIG=".toList ++ escaped ++ ['"']

/-- A character of none of its parts is not in the override line. -/
theorem notMem_overrideLine {c : Char} {escaped : Text}
    (hstart : c ∉ "Environment=\"LG_BUDDY_CONFIG=".toList) (hquote : c ≠ '"')
    (hescaped : c ∉ escaped) : c ∉ overrideLine escaped := by
  unfold overrideLine
  rw [List.mem_append, List.mem_append, List.mem_singleton, not_or, not_or]
  exact ⟨⟨hstart, hescaped⟩, hquote⟩

/-- The override line has nothing to trim. -/
theorem trim_overrideLine (escaped : Text) : trim (overrideLine escaped) = overrideLine escaped := by
  have hstart : "Environment=\"LG_BUDDY_CONFIG=".toList
      = 'E' :: "nvironment=\"LG_BUDDY_CONFIG=".toList := by decide
  unfold overrideLine
  rw [hstart, List.cons_append, List.cons_append]
  exact trim_between (by decide) (by decide)

/-- The override line names the variable. -/
theorem contains_overrideLine (escaped : Text) :
    contains (overrideLine escaped) "LG_BUDDY_CONFIG".toList = true := by
  have hstart : "Environment=\"LG_BUDDY_CONFIG=".toList
      = "Environment=\"".toList ++ ("LG_BUDDY_CONFIG".toList ++ ['=']) := by decide
  rw [contains_iff]
  refine ⟨"Environment=\"".toList, '=' :: (escaped ++ ['"']), ?_⟩
  unfold overrideLine
  rw [hstart]
  simp only [List.append_assoc, List.cons_append, List.nil_append]

/-- The override file is read as its two lines. -/
theorem lines_override {escaped : Text} (hnewline : '\n' ∉ escaped) (hreturn : '\r' ∉ escaped) :
    lines ("[Service]".toList ++ '\n' :: (overrideLine escaped ++ ['\n']))
      = ["[Service]".toList, overrideLine escaped] := by
  have hsection : lines ("[Service]".toList ++ '\n' :: (overrideLine escaped ++ ['\n']))
      = "[Service]".toList :: lines (overrideLine escaped ++ ['\n']) :=
    lines_newline (by decide) (by decide)
  have hline : lines (overrideLine escaped ++ ['\n']) = [overrideLine escaped] := lines_newline
    (notMem_overrideLine (by decide) (by decide) hnewline)
    (notMem_overrideLine (by decide) (by decide) hreturn)
  rw [hsection, hline]

/-- The only directive of the override file is its line. -/
theorem directives_override {escaped : Text} (hnewline : '\n' ∉ escaped)
    (hreturn : '\r' ∉ escaped) :
    integrationDirectives ("[Service]".toList ++ '\n' :: (overrideLine escaped ++ ['\n']))
      = [overrideLine escaped] := by
  have hhead : (overrideLine escaped).head? = some 'E' := rfl
  have hsection : trim "[Service]".toList = "[Service]".toList := by decide
  unfold integrationDirectives
  rw [lines_override hnewline hreturn, List.map_cons, List.map_singleton, trim_overrideLine,
    hsection, List.filter_cons, if_neg (by decide), List.filter_cons,
    if_pos (by rw [hhead, contains_overrideLine]; decide)]
  rfl

/-! ## The pointer -/

/-- What `fs::canonicalize` returns: no part of it is empty or consists of dots, and the host has
no NUL in its names. -/
structure Canonicalized (path : Text) : Prop where
  canonical : UnixPath.Canonical path
  nul : Char.ofNat 0 ∉ path

/-- A canonical path has no two slashes in a row. -/
theorem Canonicalized.noDoubleSlash {path : Text} (h : Canonicalized path) :
    contains path ['/', '/'] = false := by
  obtain ⟨names, hnames, rfl⟩ := h.canonical
  rw [Bool.eq_false_iff, ne_eq, contains_iff]
  rintro ⟨before, behind, hcut⟩
  rw [List.append_assoc] at hcut
  by_cases hempty : names = []
  · have hlength := congrArg List.length hcut
    rw [UnixPath.ofNames, if_pos hempty] at hlength
    simp only [List.length_append, List.length_cons, List.length_nil] at hlength
    omega
  · -- between the slashes there would be an empty name
    have hparts := UnixPath.splitAll_flatMap hnames
    rw [UnixPath.ofNames, if_neg hempty] at hcut
    rw [← hcut, List.cons_append, splitAll_join, List.cons_append, splitAll_cons_eq] at hparts
    cases hbefore : splitAll '/' before with
    | nil => exact splitAll_ne_nil hbefore
    | cons part parts =>
      rw [hbefore, List.cons_append, List.cons.injEq] at hparts
      exact (hnames [] (hparts.2 ▸ by simp)).nonempty rfl

theorem Canonicalized.ne_nil {path : Text} (h : Canonicalized path) : path ≠ [] := by
  rintro rfl
  have habsolute := ((UnixPath.canonical_iff []).1 h.canonical).1
  cases habsolute

theorem absolutePath_ok {path : Text} (h : Canonicalized path) (hnewline : '\n' ∉ path)
    (hreturn : '\r' ∉ path) : absolutePath path = .ok () := by
  obtain ⟨habsolute, hdots, htext⟩ := (UnixPath.canonical_iff path).1 h.canonical
  have hparts : ((UnixPath.components path).any fun part => part = .parentDir || part = .curDir)
      = false := by
    rw [List.any_eq_false]
    intro part hpart
    simp [hdots part hpart]
  have hcharacters : (path.any fun c => c = '\n' || c = '\r' || c = Char.ofNat 0) = false := by
    rw [List.any_eq_false]
    intro c hc
    have hn : c ≠ '\n' := fun heq => hnewline (heq ▸ hc)
    have hr : c ≠ '\r' := fun heq => hreturn (heq ▸ hc)
    have h0 : c ≠ Char.ofNat 0 := fun heq => h.nul (heq ▸ hc)
    simp [hn, hr, h0]
  unfold absolutePath
  rw [habsolute, hparts, hcharacters, h.noDoubleSlash]
  simp [htext]

/-- **Pointer.** The pointer file gives the path back that was written to it. -/
theorem parse_pointerContents {path : Text} (h : Canonicalized path) (hnewline : '\n' ∉ path)
    (hreturn : '\r' ∉ path) : parse (pointerContents path) = .ok path := by
  have hcharacters : ((pointerContents path).any fun c => c = '\r' || c = Char.ofNat 0) = false := by
    rw [List.any_eq_false]
    intro c hc
    rcases List.mem_append.1 hc with hc | hc
    · have hr : c ≠ '\r' := fun heq => hreturn (heq ▸ hc)
      have h0 : c ≠ Char.ofNat 0 := fun heq => h.nul (heq ▸ hc)
      simp [hr, h0]
    · rw [List.mem_singleton.1 hc]
      decide
  have hlines : lines (pointerContents path) = [path] := lines_newline hnewline hreturn
  have hfilter : [path].filter (· ≠ []) = [path] := by
    rw [List.filter_cons, if_pos (by simp [h.ne_nil])]
    rfl
  unfold parse
  rw [if_neg (by rw [hcharacters]; exact Bool.false_ne_true), hlines, hfilter]
  dsimp only
  rw [absolutePath_ok h hnewline hreturn]
  rfl

/-! ## What the preflight accepts -/

/-- Checked before any failure names the drop-in, its text adds no failure. -/
def OverrideAccepted (text expected : Text) : Prop :=
  ∀ (filesystem : FilesystemFacts) (checker : Checker) (path : HostPath),
    filesystem.readToString path = .ok text → checker.hasFailed path = false →
      (checker.checkIntegrationOverride filesystem path expected).failures = checker.failures

theorem overrideAccepted_iff {text expected : Text} :
    OverrideAccepted text expected ↔ integrationDirectives text = [expected] := by
  constructor
  · intro haccepted
    let filesystem : FilesystemFacts :=
      ⟨fun _ => .error ⟨true, ""⟩, fun _ => .ok text, fun _ => .error ⟨true, ""⟩, .ok []⟩
    have hfresh := haccepted filesystem {} [] rfl rfl
    by_contra hother
    unfold Checker.checkIntegrationOverride PathSafety.integrationFailures at hfresh
    rw [if_neg (by decide), show filesystem.readToString [] = .ok text from rfl] at hfresh
    dsimp only at hfresh
    rw [if_pos hother] at hfresh
    cases hfresh
  · intro hdirectives filesystem checker path hread hfailed
    unfold Checker.checkIntegrationOverride PathSafety.integrationFailures
    rw [hfailed, hread, if_neg Bool.false_ne_true]
    dsimp only
    rw [if_neg (not_not.2 hdirectives)]
    exact List.append_nil _

/-- The text that setup writes has the one line for the path. -/
theorem overrideContents_ok {config text : Text}
    (h : overrideContents (.ok (some config)) = .ok text) :
    '\n' ∉ config ∧ '\r' ∉ config
      ∧ integrationDirectives text = [overrideLine (replaceChar '%' ['%', '%']
        (replaceChar '"' ['\\', '"'] (replaceChar '\\' ['\\', '\\'] config)))] := by
  unfold overrideContents at h
  dsimp only at h
  split at h
  · cases h
  · rename_i hbreak
    have hchars : ∀ c ∈ config, c ≠ '\n' ∧ c ≠ '\r' := by
      intro c hc
      constructor
      · rintro rfl
        exact hbreak (List.any_eq_true.2 ⟨_, hc, by decide⟩)
      · rintro rfl
        exact hbreak (List.any_eq_true.2 ⟨_, hc, by decide⟩)
    have hnewline : '\n' ∉ config := fun hc => (hchars _ hc).1 rfl
    have hreturn : '\r' ∉ config := fun hc => (hchars _ hc).2 rfl
    refine ⟨hnewline, hreturn, ?_⟩
    cases h
    apply directives_override
    · rw [mem_replaceChar (by decide) (by decide), mem_replaceChar (by decide) (by decide),
        mem_replaceChar (by decide) (by decide)]
      exact hnewline
    · rw [mem_replaceChar (by decide) (by decide), mem_replaceChar (by decide) (by decide),
        mem_replaceChar (by decide) (by decide)]
      exact hreturn

/-- The drop-in is accepted exactly when nothing in the path is a specifier to systemd. -/
theorem overrideAccepted_iff_notMem {config text : Text}
    (h : overrideContents (.ok (some config)) = .ok text) :
    OverrideAccepted text (systemdConfigOverrideLine config) ↔ '%' ∉ config := by
  obtain ⟨-, -, hdirectives⟩ := overrideContents_ok h
  have hline : systemdConfigOverrideLine config = overrideLine
      (replaceChar '"' ['\\', '"'] (replaceChar '\\' ['\\', '\\'] config)) := rfl
  have hmem : '%' ∈ replaceChar '"' ['\\', '"'] (replaceChar '\\' ['\\', '\\'] config)
      ↔ '%' ∈ config := by
    rw [mem_replaceChar (by decide) (by decide), mem_replaceChar (by decide) (by decide)]
  rw [overrideAccepted_iff, hdirectives, hline, List.cons.injEq, ← hmem,
    ← replaceChar_double_eq_self]
  unfold overrideLine
  rw [List.append_left_inj, List.append_right_inj]
  exact and_iff_left rfl

/-- **Written and checked.** The preflight accepts the drop-in that setup writes and reads the path
back from the pointer, exactly when the path has no percent sign. -/
theorem override_is_accepted_iff (config text : Text) (hcanonical : Canonicalized config)
    (h : overrideContents (.ok (some config)) = .ok text) :
    (OverrideAccepted text (systemdConfigOverrideLine config)
        ∧ parse (pointerContents config) = .ok config) ↔ '%' ∉ config := by
  obtain ⟨hnewline, hreturn, -⟩ := overrideContents_ok h
  rw [overrideAccepted_iff_notMem h]
  exact and_iff_left (parse_pointerContents hcanonical hnewline hreturn)

/-- A path that is made of names. -/
theorem canonicalized_ofNames (names : List Text)
    (h : ∀ name ∈ names, name ≠ [] ∧ name ≠ ['.'] ∧ name ≠ ['.', '.'] ∧ '/' ∉ name)
    (hnul : Char.ofNat 0 ∉ UnixPath.ofNames names) : Canonicalized (UnixPath.ofNames names) :=
  ⟨⟨names, fun name hname =>
    let ⟨hnonempty, hdot, hdots, hslash⟩ := h name hname
    ⟨hnonempty, hdot, hdots, hslash⟩, rfl⟩, hnul⟩

/-- The path of a user's configuration is accepted. -/
theorem user_config_override_is_accepted :
    OverrideAccepted
      ("[Service]".toList ++ '\n' :: (overrideLine "/home/user/config.env".toList ++ ['\n']))
      (systemdConfigOverrideLine "/home/user/config.env".toList) :=
  ((override_is_accepted_iff "/home/user/config.env".toList _
    (canonicalized_ofNames ["home".toList, "user".toList, "config.env".toList]
      (by decide) (by decide)) (by rfl)).2 (by decide)).1

/-- A percent sign is doubled in the drop-in, and not in the line that it should have. -/
theorem percent_override_is_refused :
    ¬ ∀ config text, Canonicalized config → overrideContents (.ok (some config)) = .ok text →
      OverrideAccepted text (systemdConfigOverrideLine config)
        ∧ parse (pointerContents config) = .ok config := by
  intro hclaim
  have hcanonical : Canonicalized "/home/a%b/config.env".toList :=
    canonicalized_ofNames ["home".toList, "a%b".toList, "config.env".toList]
      (by decide) (by decide)
  obtain ⟨haccepted, -⟩ := hclaim "/home/a%b/config.env".toList _ hcanonical rfl
  exact (overrideAccepted_iff_notMem rfl).1 haccepted (by decide)

end ConfigOverride

end LgBuddy
