import LgBuddy.Text.Cut
import Mathlib.Data.List.Infix

/-!
# LgBuddy — paths

The functions of `Path` on Unix. A path has a text and is made of components; two paths are the same
when their components are, so that `a//b` and `a/./b` are both the path `a/b`.

* `components`, `collect` — from the text to the components and back;
* `properAncestors`, `startsWith`, `fileName`, `push` — paths by their components;
* `Canonical` — the absolute texts that the components give back: `canonical_iff`;
* `mem_properAncestors`, `startsWith_ofNames` — ancestors of these.
-/

namespace LgBuddy

namespace UnixPath

open Str

inductive Component where
  | rootDir
  | curDir
  | parentDir
  | normal (name : Text)
  deriving DecidableEq, Repr

namespace Component

def text : Component → Text
  | rootDir => ['/']
  | curDir => ['.']
  | parentDir => ['.', '.']
  | normal name => name

/-- The component between two slashes: nothing for an empty part and for a single dot. -/
def ofPart (part : Text) : Option Component :=
  if part = [] ∨ part = ['.'] then none
  else if part = ['.', '.'] then some parentDir
  else some (normal part)

end Component

def isAbsolute (path : Text) : Bool := path.head? = some '/'

/-- `Path::components`. A dot counts at the start of a relative path only. -/
def components (path : Text) : List Component :=
  let parts := splitAll '/' path
  let start :=
    if isAbsolute path then [.rootDir]
    else if parts.head? = some ['.'] then [.curDir]
    else []
  start ++ parts.filterMap Component.ofPart

/-- `PathBuf::push`, which also is `Path::join`. -/
def push (buffer path : Text) : Text :=
  if isAbsolute path then path
  else if buffer ≠ [] ∧ buffer.getLast? ≠ some '/' then buffer ++ '/' :: path
  else buffer ++ path

/-- `collect::<PathBuf>()`. -/
def collect (path : List Component) : Text := path.foldl (fun buffer c => push buffer c.text) []

/-- `ancestors().skip(1)`: the nearest first. The root has no parent, and the empty path none. -/
def properAncestors (path : List Component) : List (List Component) :=
  if path = [] then []
  else (path.dropLast.inits.filter fun ancestor =>
    ancestor ≠ [] ∨ path.head? ≠ some .rootDir).reverse

/-- `Path::starts_with`. -/
def startsWith (path base : List Component) : Bool := base.isPrefixOf path

/-- `Path::file_name`. -/
def fileName (path : List Component) : Option Text :=
  match path.getLast? with
  | some (.normal name) => some name
  | _ => none

/-! ## Canonical texts -/

/-- A name of a directory entry. -/
structure Name (name : Text) : Prop where
  nonempty : name ≠ []
  dot : name ≠ ['.']
  dots : name ≠ ['.', '.']
  slash : '/' ∉ name

/-- The absolute path of some names. -/
def ofNames (names : List Text) : Text :=
  if names = [] then ['/'] else names.flatMap ('/' :: ·)

def Canonical (path : Text) : Prop := ∃ names, (∀ name ∈ names, Name name) ∧ path = ofNames names

theorem Name.ofPart {name : Text} (h : Name name) :
    Component.ofPart name = some (.normal name) := by
  unfold Component.ofPart
  rw [if_neg (not_or.2 ⟨h.nonempty, h.dot⟩), if_neg h.dots]

theorem Name.relative {name : Text} (h : Name name) : isAbsolute name = false := by
  unfold isAbsolute
  rw [decide_eq_false_iff_not]
  intro hhead
  exact h.slash (List.mem_of_mem_head? hhead)

theorem isAbsolute_ofNames (names : List Text) : isAbsolute (ofNames names) = true := by
  cases names with
  | nil => rfl
  | cons name names => rfl

/-- Each slash starts a part, and the part before the first one is empty. -/
theorem splitAll_flatMap {names : List Text} (h : ∀ name ∈ names, Name name) :
    splitAll '/' (names.flatMap ('/' :: ·)) = [] :: names := by
  induction names using List.reverseRecOn with
  | nil => rfl
  | append_singleton names name ih =>
    have hname : Name name := h name (by simp)
    rw [List.flatMap_append, List.flatMap_singleton, splitAll_join,
      ih fun other hother => h other (by simp [hother]), splitAll_of_notMem hname.slash]
    rfl

theorem filterMap_ofPart {names : List Text} (h : ∀ name ∈ names, Name name) :
    names.filterMap Component.ofPart = names.map .normal := by
  induction names with
  | nil => rfl
  | cons name names ih =>
    rw [List.filterMap_cons, (h name List.mem_cons_self).ofPart, List.map_cons,
      ih fun other hother => h other (List.mem_cons_of_mem _ hother)]

theorem components_ofNames {names : List Text} (h : ∀ name ∈ names, Name name) :
    components (ofNames names) = .rootDir :: names.map .normal := by
  have hparts : (splitAll '/' (ofNames names)).filterMap Component.ofPart
      = names.map .normal := by
    by_cases hnames : names = []
    · subst hnames
      rfl
    · rw [ofNames, if_neg hnames, splitAll_flatMap h, List.filterMap_cons]
      exact filterMap_ofPart h
  unfold components
  dsimp only
  rw [isAbsolute_ofNames, hparts]
  rfl

/-- A name is pushed behind the others. -/
theorem push_ofNames {names : List Text} (h : ∀ name ∈ names, Name name) {name : Text}
    (hname : Name name) : push (ofNames names) name = ofNames (names ++ [name]) := by
  have hnew : ofNames (names ++ [name]) = names.flatMap ('/' :: ·) ++ '/' :: name := by
    rw [ofNames, if_neg (by simp), List.flatMap_append, List.flatMap_singleton]
  unfold push
  rw [if_neg (by simp [hname.relative]), hnew]
  rcases List.eq_nil_or_concat names with rfl | ⟨front, last, rfl⟩
  · rfl
  · -- the text ends with the last name, so a slash is put behind it
    have hlast : Name last := h last (by simp)
    have htext : ofNames (front.concat last) = front.flatMap ('/' :: ·) ++ '/' :: last := by
      rw [ofNames, if_neg (by simp), List.concat_eq_append, List.flatMap_append,
        List.flatMap_singleton]
    have hend : (ofNames (front.concat last)).getLast? ≠ some '/' := by
      intro hslash
      rw [htext, List.getLast?_append, List.getLast?_cons] at hslash
      obtain ⟨c, hc⟩ := Option.ne_none_iff_exists'.1
        fun hnone => hlast.nonempty (List.getLast?_eq_none_iff.1 hnone)
      rw [hc] at hslash
      cases hslash
      exact hlast.slash (List.mem_of_getLast? hc)
    rw [if_pos ⟨by rw [htext]; simp, hend⟩, htext, List.concat_eq_append, List.flatMap_append,
      List.flatMap_singleton]

theorem collect_concat (path : List Component) (c : Component) :
    collect (path ++ [c]) = push (collect path) c.text := by
  simp [collect]

theorem collect_names {names : List Text} (h : ∀ name ∈ names, Name name) :
    collect (.rootDir :: names.map .normal) = ofNames names := by
  induction names using List.reverseRecOn with
  | nil => rfl
  | append_singleton names name ih =>
    have hnames : ∀ other ∈ names, Name other := fun other hother => h other (by simp [hother])
    rw [List.map_append, List.map_singleton, ← List.cons_append, collect_concat, ih hnames]
    exact push_ofNames hnames (h name (by simp))

/-- The parts of a path that are normal components are names. -/
theorem name_of_mem_components {path name : Text} (h : .normal name ∈ components path) :
    Name name := by
  have hpart : .normal name ∈ (splitAll '/' path).filterMap Component.ofPart := by
    unfold components at h
    rcases List.mem_append.1 h with hstart | hpart
    · split at hstart
      · cases List.mem_singleton.1 hstart
      · split at hstart
        · cases List.mem_singleton.1 hstart
        · cases hstart
    · exact hpart
  obtain ⟨part, hmem, hofPart⟩ := List.mem_filterMap.1 hpart
  unfold Component.ofPart at hofPart
  split at hofPart
  · cases hofPart
  · rename_i hempty
    split at hofPart
    · cases hofPart
    · rename_i hdots
      cases hofPart
      rw [not_or] at hempty
      exact ⟨hempty.1, hempty.2, hdots, notMem_of_mem_splitAll hmem⟩

/-- **Canonical.** The absolute texts without dots that are their own components. -/
theorem canonical_iff (path : Text) :
    Canonical path ↔ isAbsolute path = true
      ∧ (∀ c ∈ components path, c ≠ .parentDir ∧ c ≠ .curDir)
      ∧ collect (components path) = path := by
  constructor
  · rintro ⟨names, hnames, rfl⟩
    refine ⟨isAbsolute_ofNames names, fun c hc => ?_, ?_⟩
    · rw [components_ofNames hnames] at hc
      rcases List.mem_cons.1 hc with rfl | hc
      · exact ⟨nofun, nofun⟩
      · obtain ⟨name, -, rfl⟩ := List.mem_map.1 hc
        exact ⟨nofun, nofun⟩
    · rw [components_ofNames hnames, collect_names hnames]
  · rintro ⟨habsolute, hdots, htext⟩
    -- behind the root there are names only
    obtain ⟨parts, hparts⟩ : ∃ parts, components path = .rootDir :: parts := by
      unfold components
      rw [habsolute]
      exact ⟨_, rfl⟩
    have hnormal : ∀ c ∈ parts, ∃ name, c = .normal name := by
      intro c hc
      have hmem : c ∈ (splitAll '/' path).filterMap Component.ofPart := by
        unfold components at hparts
        rw [habsolute] at hparts
        cases hparts
        exact hc
      obtain ⟨part, -, hofPart⟩ := List.mem_filterMap.1 hmem
      unfold Component.ofPart at hofPart
      split at hofPart
      · cases hofPart
      · split at hofPart
        · cases hofPart
          exact absurd rfl (hdots .parentDir (hparts ▸ List.mem_cons_of_mem _ hc)).1
        · cases hofPart
          exact ⟨part, rfl⟩
    obtain ⟨names, rfl⟩ : ∃ names : List Text, parts = names.map .normal := by
      clear hparts
      induction parts with
      | nil => exact ⟨[], rfl⟩
      | cons c parts ih =>
        obtain ⟨name, rfl⟩ := hnormal c List.mem_cons_self
        obtain ⟨names, rfl⟩ := ih fun other hother => hnormal other (List.mem_cons_of_mem _ hother)
        exact ⟨name :: names, rfl⟩
    have hnames : ∀ name ∈ names, Name name := fun name hname => name_of_mem_components
      (hparts ▸ List.mem_cons_of_mem _ (List.mem_map_of_mem hname))
    refine ⟨names, hnames, ?_⟩
    rw [← htext, hparts, collect_names hnames]

/-- The texts of canonical paths are told apart by their components. -/
theorem Canonical.eq_of_components {path path' : Text} (h : Canonical path) (h' : Canonical path')
    (heq : components path = components path') : path = path' := by
  rw [← ((canonical_iff path).1 h).2.2, ← ((canonical_iff path').1 h').2.2, heq]

/-- The ancestors of a path of names are those of fewer names. -/
theorem mem_properAncestors {names : List Text} (h : ∀ name ∈ names, Name name) {parent : Text} :
    parent ∈ (properAncestors (components (ofNames names))).map collect ↔
      ∃ front, front <+: names ∧ front ≠ names ∧ parent = ofNames front := by
  -- first on the components, where an ancestor is a beginning of the names
  have hancestor : ∀ ancestor, ancestor ∈ properAncestors (components (ofNames names)) ↔
      ∃ front, front <+: names ∧ front ≠ names ∧ ancestor = .rootDir :: front.map .normal := by
    intro ancestor
    rw [components_ofNames h]
    unfold properAncestors
    rw [if_neg (List.cons_ne_nil _ _), List.mem_reverse, List.mem_filter, List.mem_inits]
    rcases List.eq_nil_or_concat names with rfl | ⟨before, last, rfl⟩
    · refine iff_of_false ?_ ?_
      · rintro ⟨hstart, hne⟩
        obtain rfl := List.prefix_nil.1 hstart
        simp at hne
      · rintro ⟨front, hfront, hne, -⟩
        exact hne (List.prefix_nil.1 hfront)
    · rw [List.concat_eq_append]
      have hdrop : (Component.rootDir :: (before ++ [last]).map .normal).dropLast
          = .rootDir :: before.map .normal := by
        rw [List.map_append, ← List.cons_append, List.map_singleton, List.dropLast_concat]
      rw [hdrop]
      constructor
      · rintro ⟨hstart, hne⟩
        cases ancestor with
        | nil => simp at hne
        | cons c ancestor =>
          obtain ⟨rfl, hrest⟩ := List.cons_prefix_cons.1 hstart
          obtain ⟨front, hfront, rfl⟩ := List.prefix_map_iff.1 hrest
          refine ⟨front, hfront.trans (List.prefix_append _ _), ?_, rfl⟩
          rintro rfl
          have hlength := hfront.length_le
          rw [List.length_append, List.length_singleton] at hlength
          omega
      · rintro ⟨front, hfront, hne, rfl⟩
        refine ⟨List.cons_prefix_cons.2 ⟨rfl, ?_⟩, by simp⟩
        -- a beginning of all but the last name
        have hshort : front <+: before := by
          rcases List.prefix_concat_iff.1 hfront with heq | hshort
          · exact absurd heq hne
          · exact hshort
        exact hshort.map _
  rw [List.mem_map]
  constructor
  · rintro ⟨ancestor, hmem, rfl⟩
    obtain ⟨front, hfront, hne, rfl⟩ := (hancestor ancestor).1 hmem
    exact ⟨front, hfront, hne, collect_names fun name hname => h name (hfront.subset hname)⟩
  · rintro ⟨front, hfront, hne, rfl⟩
    exact ⟨_, (hancestor _).2 ⟨front, hfront, hne, rfl⟩,
      collect_names fun name hname => h name (hfront.subset hname)⟩

/-- `starts_with`, of paths of names. -/
theorem startsWith_ofNames {names base : List Text} (h : ∀ name ∈ names, Name name)
    (hbase : ∀ name ∈ base, Name name) :
    startsWith (components (ofNames names)) (components (ofNames base)) = true ↔ base <+: names := by
  rw [components_ofNames h, components_ofNames hbase, startsWith, List.isPrefixOf_iff_prefix,
    List.cons_prefix_cons]
  have hinjective : Function.Injective Component.normal := fun name name' heq => by
    cases heq
    rfl
  rw [List.prefix_map_iff_of_injective hinjective]
  exact and_iff_right rfl

end UnixPath

end LgBuddy
