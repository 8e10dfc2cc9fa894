import LgBuddy.Release.ArchiveSafety
import LgBuddy.Text.SemverGrammar
import Mathlib.Data.List.Perm.Subperm

/-!
# LgBuddy — extraction stays in the root

What `extract_archive` asks of the file system when it is given the plan of an accepted archive,
and any entries.

* `ExtractCall.Creates` — what a call may create; `Beneath.creates` — it is in the root if the
  path is;
* `ConfinedCall` — a call in the root that does not open or write a file again;
* `wpE_extractEntries`, `wpE_extractArchive` — all calls are of this kind, and success means that
  the entries were the ones of the plan;
* `archive_confined` — both passes together.
-/

namespace LgBuddy

open Str
open Fallible (bind_ok mapError_ok)
open Program (wp wpE wpE_bind)

/-! ## Where the calls go -/

def ExtractCall.path : ExtractCall → Text
  | .createDirAll path => path
  | .setPermissions path _ => path
  | .createNew path _ => path
  | .write path _ => path
  | .flush path => path

/-- The file that a call opens, or writes. -/
def ExtractCall.file? : ExtractCall → Option (Bool × Text)
  | .createNew path _ => some (false, path)
  | .write path _ => some (true, path)
  | _ => none

/-- What a call may create below the staging directory, which is there: all directories of a path,
or one file. -/
def ExtractCall.Creates (stagingRoot : Text) : ExtractCall → Text → Prop
  | .createDirAll path, made =>
    (made = path ∨ ∃ rest, path = below made rest) ∧
      ¬ (made = stagingRoot ∨ ∃ rest, stagingRoot = below made rest)
  | .createNew path _, made => made = path
  | _, _ => False

/-- The root of an expected release is one name: a version that was read prints without a slash.
-/
theorem notMem_slash_expectedRoot {semver : Semver} (hsemver : semver.Lawful)
    {expected : ReleaseIdentity} (h : semver.Reads expected.version) :
    '/' ∉ expectedRoot semver expected := by
  have hparts : expectedRoot semver expected = "lg-buddy-".toList
      ++ (semver.display expected.version).toList ++ "-".toList ++ releaseTarget.toList := by
    simp only [expectedRoot, String.toList_append]
    rfl
  have hversion : '/' ∉ (semver.display expected.version).toList :=
    hsemver.notMem_display h (by decide)
  have htarget : '/' ∉ releaseTarget.toList := by decide
  simp [hparts, hversion, htarget]

/-- The part of a joined path in front of the relative one. -/
def joinFront (directory : Text) : Text :=
  if directory = [] ∨ directory.getLast? = some '/' then directory else below directory []

/-- Joining a relative path puts the directory's front before it. -/
theorem joinPath_eq {directory path : Text} (h : path.head? ≠ some '/') :
    joinPath directory path = joinFront directory ++ path := by
  unfold joinPath joinFront
  rw [if_neg h]
  split
  · rfl
  · simp [below]

/-- Above the part in front there is only the directory with its own ancestors. -/
theorem joinFront_above {directory made rest : Text} (h : joinFront directory = below made rest) :
    made = directory ∨ ∃ rest, directory = below made rest := by
  unfold joinFront at h
  split at h
  · exact .inr ⟨rest, h⟩
  · cases rest using List.reverseRecOn with
    | nil =>
      left
      exact (List.append_cancel_right h).symm
    | append_singleton rest c =>
      right
      refine ⟨rest, ?_⟩
      have hlast : directory ++ ['/'] = below made rest ++ [c] := by
        rw [below, List.append_assoc]
        exact h
      exact (List.append_inj' hlast rfl).1

/-- What lies above a path: it is above the front of the path, or behind the root. -/
theorem ancestor_cases {front root tail made rest : Text} (hroot : '/' ∉ root)
    (h : below made rest = front ++ root ++ tail) :
    (∃ z, front = below made z) ∨ ∃ x, made = front ++ root ++ x ∧ tail = below x rest := by
  rcases List.append_eq_append_iff.1 h with ⟨x, hmade, htail⟩ | ⟨x, hmade, htail⟩
  · cases x with
    | nil => exact .inr ⟨[], by simpa using hmade.symm, by simpa [below] using htail.symm⟩
    | cons c x =>
      obtain rfl : '/' = c := by simpa using (List.cons.inj htail).1
      rcases List.append_eq_append_iff.1 hmade with ⟨y, -, hy⟩ | ⟨y, hfront, hy⟩
      · exact absurd (by rw [hy]; simp) hroot
      · cases y with
        | nil => exact absurd (by rw [← List.nil_append root, ← hy]; simp) hroot
        | cons d y =>
          obtain rfl : '/' = d := (List.cons.inj hy).1
          exact .inl ⟨y, hfront⟩
  · exact .inr ⟨x, hmade, htail⟩

/-- A name without a slash does not begin with one. -/
theorem head_ne_slash {root : Text} (h : '/' ∉ root) : root.head? ≠ some '/' := by
  intro hhead
  exact h (List.mem_of_mem_head? hhead)

/-- **A call on a path in the root creates nothing outside.** -/
theorem Beneath.creates {stagingRoot root made : Text} {call : ExtractCall} (hroot : '/' ∉ root)
    (h : Beneath (joinPath stagingRoot root) call.path) (hmade : call.Creates stagingRoot made) :
    Beneath (joinPath stagingRoot root) made := by
  cases call with
  | createDirAll path =>
    obtain ⟨hpath, houtside⟩ := hmade
    rcases hpath with rfl | ⟨rest, hpath⟩
    · exact h
    · have hjoin := @joinPath_eq stagingRoot _ (head_ne_slash hroot)
      have habove : ∀ tail, below made rest = joinFront stagingRoot ++ root ++ tail →
          ∃ x, made = joinFront stagingRoot ++ root ++ x ∧ tail = below x rest := by
        intro tail htail
        rcases ancestor_cases hroot htail with ⟨z, hz⟩ | hbehind
        · exact absurd (joinFront_above hz) houtside
        · exact hbehind
      rcases h with h | ⟨relative, hnormal, h⟩
      · obtain ⟨x, -, hx⟩ := habove [] (by rw [List.append_nil, ← hjoin, ← h]; exact hpath.symm)
        exact absurd hx.symm (by simp [below])
      · obtain ⟨x, hx, hrest⟩ := habove ('/' :: relative) (by
          rw [← hjoin, ← hpath]
          exact h)
        rw [← hjoin] at hx
        cases x with
        | nil => exact .inl (by simpa using hx)
        | cons c x =>
          obtain ⟨rfl, hrelative⟩ := List.cons.inj hrest
          rw [hrelative] at hnormal
          exact .inr ⟨x, hnormal.of_below.1, hx⟩
  | createNew path mode =>
    obtain rfl : made = path := hmade
    exact h
  | setPermissions path mode => cases hmade
  | write path contents => cases hmade
  | flush path => cases hmade

/-- The parent of a file in the root is in the root. -/
theorem parentPath_beneath {root relative : Text} (hroot : root ≠ []) (h : NormalPath relative) :
    ∃ parent, parentPath (below root relative) = some parent ∧ Beneath root parent := by
  cases hsplit : rsplitOnce '/' relative with
  | none =>
    have hparts : rsplitOnce '/' (below root relative) = some (root, relative) :=
      rsplitOnce_eq_some.2 ⟨rfl, rsplitOnce_eq_none.1 hsplit⟩
    refine ⟨root, ?_, .inl rfl⟩
    rw [parentPath, hparts]
    exact if_neg hroot
  | some parts =>
    obtain ⟨before, behind⟩ := parts
    obtain ⟨rfl, hbehind⟩ := rsplitOnce_eq_some.1 hsplit
    have hparts : rsplitOnce '/' (below root (before ++ '/' :: behind))
        = some (below root before, behind) :=
      rsplitOnce_eq_some.2 ⟨by simp [below], hbehind⟩
    refine ⟨below root before, ?_, .inr ⟨before, (NormalPath.of_below h).1, rfl⟩⟩
    rw [parentPath, hparts]
    exact if_neg (by simp [below])

/-! ## The contract -/

abbrev ExtractHistory := List (Program.Exchange ExtractCall fun _ => Except String Unit)

/-- A call in the root that opens or writes no file for a second time. -/
structure ConfinedCall (root : Text) (made : ExtractHistory) (call : ExtractCall) : Prop where
  beneath : Beneath root call.path
  once : ∀ file, call.file? = some file → ∀ x ∈ made, x.1.file? ≠ some file

abbrev extracting (root : Text) : Program.Contract ExtractCall (fun _ => Except String Unit)
    ExtractHistory := .observed (ConfinedCall root) Program.record

variable {root : Text} {made : ExtractHistory}

/-- A call that is in order; nothing is said where it fails. -/
theorem wpE_extractCall {call : ExtractCall} {Q : Unit → ExtractHistory → Prop}
    (hcall : ConfinedCall root made call) (hok : Q () (made ++ [⟨call, .ok ()⟩])) :
    wpE (extracting root) (extractCall call) Q (fun _ _ => True) made := by
  show wp (extracting root) (Program.perform call >>= fun answer =>
    Program.done (answer.mapError BundleAcquisitionError.io)) _ made
  rw [Program.wp_bind, Program.wp_perform]
  refine ⟨hcall, ?_⟩
  rintro answer _ rfl
  cases answer with
  | ok _ => exact hok
  | error source => trivial

/-- A write at a place it may go to continues only where the write succeeded. -/
theorem wpE_extractWrite {path : Text} {contents : List UInt8} {Q : Unit → ExtractHistory → Prop}
    (hcall : ConfinedCall root made (.write path contents))
    (hok : Q () (made ++ [⟨.write path contents, .ok ()⟩])) :
    wpE (extracting root) (extractWrite path contents) Q (fun _ _ => True) made := by
  show wp (extracting root) (Program.perform (ExtractCall.write path contents) >>= fun answer =>
    Program.done (answer.mapError BundleAcquisitionError.archive)) _ made
  rw [Program.wp_bind, Program.wp_perform]
  refine ⟨hcall, ?_⟩
  rintro answer _ rfl
  cases answer with
  | ok _ => exact hok
  | error source => trivial

/-- A check without calls. -/
theorem wpE_check {α : Type} {x : Except BundleAcquisitionError α} {Q : α → ExtractHistory → Prop}
    (h : ∀ a, x = .ok a → Q a made) :
    wpE (extracting root) (ExceptT.mk (pure x)) Q (fun _ _ => True) made := by
  cases x with
  | ok a => exact h a rfl
  | error error => trivial

/-! ## One entry -/

/-- The files that were opened or written are those of entries that were seen. -/
def OpenedFor (stagingRoot : Text) (seen : List Text) (made : ExtractHistory) : Prop :=
  ∀ x ∈ made, ∀ file, x.1.file? = some file → ∃ path ∈ seen, file.2 = joinPath stagingRoot path

/-- **An extracted entry.** It is the plan's, with its size, and the file system has it. -/
structure ExtractedEntry (stagingRoot : Text) (plan : ArchivePlan) (made : ExtractHistory)
    (path : Text) (entry : TarEntry) : Prop where
  bytes : normalizeArchivePath entry.pathBytes entry.entryType = .ok path
  fact : ∃ mode, entry.mode = .ok mode ∧
    (path, ⟨entry.entryType, entry.size, mode⟩) ∈ plan.entries
  noLink : entry.linkNameBytes = none
  directory : entry.entryType = .directory →
    ⟨.createDirAll (joinPath stagingRoot path), .ok ()⟩ ∈ made
  file : entry.entryType ≠ .directory → entry.readToEnd = .ok entry.contents ∧
    entry.contents.length = entry.size ∧
    (∃ mode, ⟨.createNew (joinPath stagingRoot path) mode, .ok ()⟩ ∈ made) ∧
    ⟨.write (joinPath stagingRoot path) entry.contents, .ok ()⟩ ∈ made

/-- What was extracted stays so as the history grows. -/
theorem ExtractedEntry.mono {stagingRoot path : Text} {plan : ArchivePlan}
    {made made' : ExtractHistory} {entry : TarEntry}
    (h : ExtractedEntry stagingRoot plan made path entry) (hsub : made ⊆ made') :
    ExtractedEntry stagingRoot plan made' path entry := by
  obtain ⟨hbytes, hfact, hlink, hdirectory, hfile⟩ := h
  refine ⟨hbytes, hfact, hlink, fun hd => hsub (hdirectory hd), ?_⟩
  intro hd
  obtain ⟨hread, hsize, ⟨mode, hopened⟩, hwritten⟩ := hfile hd
  exact ⟨hread, hsize, ⟨mode, hsub hopened⟩, hsub hwritten⟩

/-- A fact found for a path is one of the plan. -/
theorem lookup_mem {entries : List (Text × ArchiveEntryFact)} {path : Text}
    {fact : ArchiveEntryFact} (h : entries.lookup path = some fact) : (path, fact) ∈ entries := by
  induction entries with
  | nil => cases h
  | cons x rest ih =>
    obtain ⟨key, value⟩ := x
    rw [List.lookup_cons] at h
    split at h
    · rename_i hkey
      rw [← Option.some.inj h, eq_of_beq hkey]
      exact .head _
    · exact .tail _ (ih h)

/-- An observed entry is new, has no link and has the fact the plan recorded at its path. -/
theorem observedFact_ok {plan : ArchivePlan} {seen : List Text} {entry : TarEntry} {path : Text}
    (h : observedFact plan seen entry = .ok path) :
    normalizeArchivePath entry.pathBytes entry.entryType = .ok path ∧ path ∉ seen ∧
      entry.linkNameBytes = none ∧ ∃ mode, entry.mode = .ok mode ∧
        (path, ⟨entry.entryType, entry.size, mode⟩) ∈ plan.entries := by
  unfold observedFact archiveError at h
  obtain ⟨found, hpath, h⟩ := bind_ok.1 h
  split at h
  · cases h
  · rename_i hnew
    obtain ⟨mode, hmode, h⟩ := bind_ok.1 h
    split at h
    · cases h
    · rename_i hsame
      obtain rfl := Except.ok.inj h
      rw [not_or, not_not] at hsame
      exact ⟨hpath, hnew, by simpa using hsame.2, mode, mapError_ok.1 hmode, lookup_mem hsame.1⟩

/-- What is known of the plan of an accepted archive. -/
structure PlanRooted (plan : ArchivePlan) : Prop where
  slash : '/' ∉ plan.rootName
  nonempty : plan.rootName ≠ []
  laidOut : ∀ x ∈ plan.entries, NormalPath x.1 ∧ LaidOut plan.rootName x.1 x.2.entryType

/-- Every path of a rooted plan is joined to a place beneath the joined root, and a file properly
so. -/
theorem PlanRooted.joined {plan : ArchivePlan} (h : PlanRooted plan) (stagingRoot : Text)
    {path : Text} {fact : ArchiveEntryFact} (hpath : (path, fact) ∈ plan.entries) :
    path.head? ≠ some '/' ∧ Beneath (joinPath stagingRoot plan.rootName) (joinPath stagingRoot path) ∧
      (fact.entryType ≠ .directory → ∃ relative, NormalPath relative ∧
        joinPath stagingRoot path = below (joinPath stagingRoot plan.rootName) relative) := by
  obtain ⟨hnormal, hlaid⟩ := h.laidOut _ hpath
  have hhead := hnormal.head
  have hroot := head_ne_slash h.slash
  rw [joinPath_eq hhead, joinPath_eq hroot]
  rcases hlaid.inside with rfl | ⟨relative, rfl⟩
  · exact ⟨hhead, .inl rfl, fun hd => absurd (hlaid.atRoot rfl) hd⟩
  · have hrelative := hnormal.of_below.2
    have hjoin : joinFront stagingRoot ++ below plan.rootName relative
        = below (joinFront stagingRoot ++ plan.rootName) relative := by simp [below]
    exact ⟨hhead, .inr ⟨relative, hrelative, hjoin⟩, fun _ => ⟨relative, hrelative, hjoin⟩⟩

/-- Distinct relative paths are joined to distinct places. -/
theorem joinPath_injective {stagingRoot path path' : Text} (h : path.head? ≠ some '/')
    (h' : path'.head? ≠ some '/') (heq : joinPath stagingRoot path = joinPath stagingRoot path') :
    path = path' := by
  rw [joinPath_eq h, joinPath_eq h'] at heq
  exact List.append_cancel_left heq

/-! ## The second pass -/

section Entry

variable {stagingRoot : Text} {plan : ArchivePlan} {seen : List Text}

/-- A call on a place of the paths seen keeps every file opened for one of them. -/
theorem OpenedFor.add (h : OpenedFor stagingRoot seen made) (call : ExtractCall)
    (answer : Except String Unit)
    (hcall : ∀ file, call.file? = some file → ∃ path ∈ seen, file.2 = joinPath stagingRoot path) :
    OpenedFor stagingRoot seen (made ++ [⟨call, answer⟩]) := by
  intro x hx file hfile
  rcases List.mem_append.1 hx with hold | hnew
  · exact h x hold file hfile
  · obtain rfl := List.mem_singleton.1 hnew
    exact hcall file hfile

/-- Seeing one more path keeps every file opened for a path seen. -/
theorem OpenedFor.more (h : OpenedFor stagingRoot seen made) (path : Text) :
    OpenedFor stagingRoot (path :: seen) made := by
  intro x hx file hfile
  obtain ⟨other, hother, heq⟩ := h x hx file hfile
  exact ⟨other, .tail _ hother, heq⟩

/-- A call that is about no file. -/
theorem ConfinedCall.directory {call : ExtractCall} (hfile : call.file? = none)
    (h : Beneath root call.path) : ConfinedCall root made call :=
  ⟨h, fun file hsome => by rw [hfile] at hsome; cases hsome⟩

/-- The file of a new entry was not opened or written before. -/
theorem ConfinedCall.fresh {path : Text} {kind : Bool}
    (hopened : OpenedFor stagingRoot seen made) (call : ExtractCall) (hnew : path ∉ seen)
    (hheads : ∀ p ∈ path :: seen, p.head? ≠ some '/')
    (hfile : call.file? = some (kind, joinPath stagingRoot path))
    (h : Beneath root call.path) : ConfinedCall root made call := by
  refine ⟨h, ?_⟩
  intro file hsome x hx hsame
  rw [hfile] at hsome
  obtain rfl := Option.some.inj hsome
  obtain ⟨other, hother, heq⟩ := hopened x hx _ hsame
  have hpath := joinPath_injective (hheads path (.head _)) (hheads other (.tail _ hother)) heq
  exact hnew (hpath ▸ hother)

/-- The calls for a file. -/
theorem wpE_extractFile {path relative : Text} {entry : TarEntry}
    (hroot : root ≠ []) (hrelative : NormalPath relative)
    (hjoin : joinPath stagingRoot path = below root relative)
    (hopened : OpenedFor stagingRoot seen made) (hnew : path ∉ seen)
    (hheads : ∀ p ∈ path :: seen, p.head? ≠ some '/') :
    wpE (extracting root) (extractFile plan path (joinPath stagingRoot path) entry)
      (fun _ made' => made ⊆ made' ∧ OpenedFor stagingRoot (path :: seen) made' ∧
        entry.readToEnd = .ok entry.contents ∧ entry.contents.length = entry.size ∧
        (∃ mode, ⟨.createNew (joinPath stagingRoot path) mode, .ok ()⟩ ∈ made') ∧
        ⟨.write (joinPath stagingRoot path) entry.contents, .ok ()⟩ ∈ made')
      (fun _ _ => True) made := by
  obtain ⟨parent, hparent, hbeneath⟩ := parentPath_beneath hroot hrelative
  have hdestination : Beneath root (joinPath stagingRoot path) := .inr ⟨relative, hrelative, hjoin⟩
  have hnone : ∀ {file : Bool × Text}, (none : Option (Bool × Text)) = some file →
      ∃ p ∈ seen, file.2 = joinPath stagingRoot p := fun h => by cases h
  unfold extractFile
  rw [hjoin, hparent, ← hjoin]
  dsimp only
  rw [wpE_bind]
  apply wpE_extractCall (.directory rfl hbeneath)
  have hopened₁ := hopened.add (.createDirAll parent) (.ok ()) fun _ => hnone
  rw [wpE_bind]
  apply wpE_extractCall (.directory rfl hbeneath)
  have hopened₂ := hopened₁.add (.setPermissions parent 0o700) (.ok ()) fun _ => hnone
  rw [wpE_bind]
  apply wpE_extractCall (.fresh hopened₂ _ hnew hheads rfl hdestination)
  -- from here on the file is one of those that were seen
  have hfile : ∀ (kind : Bool) (file : Bool × Text),
      some (kind, joinPath stagingRoot path) = some file →
        ∃ p ∈ path :: seen, file.2 = joinPath stagingRoot p := by
    rintro kind file hsome
    obtain rfl := Option.some.inj hsome
    exact ⟨path, .head _, rfl⟩
  have hopened₃ := (hopened₂.more path).add (.createNew (joinPath stagingRoot path)
    (extractedMode plan.rootName path)) (.ok ()) (hfile false)
  rw [wpE_bind]
  apply wpE_extractWrite
  · refine ⟨hdestination, ?_⟩
    intro file hsome x hx hsame
    obtain rfl := Option.some.inj hsome
    rcases List.mem_append.1 hx with hold | hlast
    · exact (ConfinedCall.fresh hopened₂ (.write (joinPath stagingRoot path) []) hnew
        hheads rfl hdestination).once _ rfl x hold hsame
    · obtain rfl := List.mem_singleton.1 hlast
      cases hsame
  · have hopened₄ := hopened₃.add (.write (joinPath stagingRoot path) entry.contents) (.ok ())
      (hfile true)
    rw [wpE_bind]
    apply wpE_check
    intro copied hcopied
    rw [mapError_ok] at hcopied
    have hcontents : copied = entry.contents := by
      unfold TarEntry.readToEnd at hcopied
      split at hcopied
      · cases hcopied
      · exact (Except.ok.inj hcopied).symm
    subst hcontents
    by_cases hsize : entry.contents.length ≠ entry.size
    · rw [if_pos hsize]
      trivial
    · rw [if_neg hsize]
      apply wpE_extractCall (.directory rfl hdestination)
      have hopened₅ := hopened₄.add (.flush (joinPath stagingRoot path)) (.ok ())
        fun _ h => by cases h
      refine ⟨fun x hx => by simp [hx], hopened₅, hcopied, not_not.1 hsize,
        ⟨extractedMode plan.rootName path, by simp⟩, by simp⟩

/-- The entries so far: they are of the plan, with distinct paths, and all were extracted. -/
structure Extracting (stagingRoot : Text) (plan : ArchivePlan) (seen : List Text)
    (items : List (Except String TarEntry)) (made : ExtractHistory) : Prop where
  opened : OpenedFor stagingRoot seen made
  nodup : seen.Nodup
  known : ∀ path ∈ seen, ∃ fact, (path, fact) ∈ plan.entries
  entries : List.Forall₂ (fun item path => ∃ entry, item = Except.ok entry ∧
    ExtractedEntry stagingRoot plan made path entry) items seen.reverse

/-- An entry extracted as observed keeps the invariant of the extraction. -/
theorem Extracting.add {path : Text} {entry : TarEntry} {items : List (Except String TarEntry)}
    {made' : ExtractHistory} (h : Extracting stagingRoot plan seen items made)
    (hobserved : observedFact plan seen entry = .ok path) (hsub : made ⊆ made')
    (hopened : OpenedFor stagingRoot (path :: seen) made')
    (hentry : ExtractedEntry stagingRoot plan made' path entry) :
    Extracting stagingRoot plan (path :: seen) (items ++ [.ok entry]) made' := by
  obtain ⟨-, hnew, -, mode, -, hfact⟩ := observedFact_ok hobserved
  refine ⟨hopened, List.nodup_cons.2 ⟨hnew, h.nodup⟩, ?_, ?_⟩
  · intro other hother
    cases hother with
    | head => exact ⟨_, hfact⟩
    | tail _ hother => exact h.known other hother
  · rw [List.reverse_cons]
    apply List.rel_append
    · refine h.entries.imp ?_
      intro item other hitem
      obtain ⟨found, rfl, hfound⟩ := hitem
      exact ⟨found, rfl, hfound.mono hsub⟩
    · exact .cons ⟨entry, rfl, hentry⟩ .nil

/-- The joined root is not the empty path. -/
theorem PlanRooted.joined_ne_nil (h : PlanRooted plan) :
    joinPath stagingRoot plan.rootName ≠ [] := by
  rw [joinPath_eq (head_ne_slash h.slash)]
  exact List.append_ne_nil_of_right_ne_nil _ h.nonempty

/-- An entry that is the plan's. -/
theorem wpE_extractEntry {path : Text} {entry : TarEntry} {items : List (Except String TarEntry)}
    (hplan : PlanRooted plan) (h : Extracting stagingRoot plan seen items made)
    (hobserved : observedFact plan seen entry = .ok path) :
    wpE (extracting (joinPath stagingRoot plan.rootName))
      (extractEntry stagingRoot plan path entry)
      (fun _ made' => Extracting stagingRoot plan (path :: seen) (items ++ [.ok entry]) made')
      (fun _ _ => True) made := by
  obtain ⟨hbytes, hnew, hlink, mode, hmode, hfact⟩ := observedFact_ok hobserved
  obtain ⟨hhead, hbeneath, hfile⟩ := hplan.joined stagingRoot hfact
  unfold extractEntry
  dsimp only
  by_cases hdirectory : entry.entryType = .directory
  · rw [if_pos hdirectory, wpE_bind]
    apply wpE_extractCall (.directory rfl hbeneath)
    apply wpE_extractCall (.directory rfl hbeneath)
    have hopened := ((h.opened.more path).add (.createDirAll (joinPath stagingRoot path)) (.ok ())
      fun _ hnone => by cases hnone).add (.setPermissions (joinPath stagingRoot path) 0o700)
      (.ok ()) fun _ hnone => by cases hnone
    apply h.add hobserved _ hopened
    · refine ⟨hbytes, ⟨mode, hmode, hfact⟩, hlink, fun _ => by simp, ?_⟩
      exact fun hne => absurd hdirectory hne
    · exact fun x hx => by simp [hx]
  · rw [if_neg hdirectory]
    obtain ⟨relative, hrelative, hjoin⟩ := hfile hdirectory
    have hheads : ∀ p ∈ path :: seen, p.head? ≠ some '/' := by
      intro p hp
      cases hp with
      | head => exact hhead
      | tail _ hp =>
        obtain ⟨fact, hknown⟩ := h.known p hp
        exact (hplan.joined stagingRoot hknown).1
    refine (wpE_extractFile hplan.joined_ne_nil hrelative hjoin h.opened hnew hheads).mono ?_
      fun _ _ => id
    intro _ made' hmade
    obtain ⟨hsub, hopened, hcontents⟩ := hmade
    apply h.add hobserved hsub hopened
    exact ⟨hbytes, ⟨mode, hmode, hfact⟩, hlink, fun hd => absurd hd hdirectory,
      fun _ => hcontents⟩

/-- The loop over the entries, from any point of it. -/
theorem wpE_extractEntries {done rest : List (Except String TarEntry)} (hplan : PlanRooted plan)
    (h : Extracting stagingRoot plan seen done made) :
    wpE (extracting (joinPath stagingRoot plan.rootName))
      (extractEntries stagingRoot plan seen rest)
      (fun seen' made' => Extracting stagingRoot plan seen' (done ++ rest) made')
      (fun _ _ => True) made := by
  induction rest generalizing done seen made with
  | nil =>
    rw [List.append_nil]
    exact h
  | cons item rest ih =>
    cases item with
    | error source => trivial
    | ok entry =>
      unfold extractEntries
      rw [wpE_bind]
      apply wpE_check
      intro path hobserved
      rw [wpE_bind]
      refine (wpE_extractEntry hplan h hobserved).mono ?_ fun _ _ => id
      intro _ made' hmade
      have hrun := ih hmade
      rw [List.append_assoc] at hrun
      exact hrun

end Entry

/-- **A successful extraction.** The entries are those of the plan, each once. -/
structure ExtractedAll (stagingRoot : Text) (plan : ArchivePlan)
    (items : List (Except String TarEntry)) (paths : List Text) (made : ExtractHistory) :
    Prop where
  entries : List.Forall₂ (fun item path => ∃ entry, item = Except.ok entry ∧
    ExtractedEntry stagingRoot plan made path entry) items paths
  all : paths.Perm (plan.entries.map Prod.fst)

/-- An extraction that returns has extracted every entry once, at the joined root. -/
theorem wpE_extractArchive {archive : ArchiveFile} {stagingRoot : Text} {plan : ArchivePlan}
    (hplan : PlanRooted plan) :
    wpE (extracting (joinPath stagingRoot plan.rootName))
      (extractArchive archive stagingRoot plan)
      (fun found made => found = joinPath stagingRoot plan.rootName ∧
        ∃ paths, ExtractedAll stagingRoot plan archive.entries paths made)
      (fun _ _ => True) [] := by
  have hstart : Extracting stagingRoot plan [] [] [] :=
    ⟨List.forall_mem_nil _, .nil, List.forall_mem_nil _, .nil⟩
  unfold extractArchive
  rw [wpE_bind]
  refine (wpE_extractEntries hplan hstart).mono ?_ fun _ _ => id
  intro seen made hseen
  rw [List.nil_append] at hseen
  by_cases hlength : seen.length ≠ plan.entries.length
  · rw [if_pos hlength]
    trivial
  · rw [if_neg hlength, wpE_bind]
    apply wpE_check
    intro _ _
    refine ⟨rfl, seen.reverse, hseen.entries, ?_⟩
    apply (List.reverse_perm seen).trans
    -- distinct paths of the plan, as many as it has
    have hsub : seen ⊆ plan.entries.map Prod.fst := by
      intro path hpath
      obtain ⟨fact, hfact⟩ := hseen.known path hpath
      exact List.mem_map.2 ⟨_, hfact, rfl⟩
    apply (hseen.nodup.subperm hsub).perm_of_length_le
    rw [List.length_map]
    omega

/-! ## Both passes -/

/-- The plan of an accepted archive is rooted at the one name of the expected release. -/
theorem ArchiveListing.rooted {items : List (Except String TarEntry)} {plan : ArchivePlan}
    {semver : Semver} {expected : ReleaseIdentity} (h : ArchiveListing items plan)
    (hsemver : semver.Lawful) (hroot : plan.rootName = expectedRoot semver expected)
    (hversion : semver.Reads expected.version) : PlanRooted plan := by
  have hinspected : ∀ x ∈ plan.entries, ∃ entry, InspectedEntry plan.rootName x.1 entry x.2 := by
    intro x hx
    obtain ⟨_, -, entry, -, hentry⟩ := forall₂_of_mem h.entries hx
    exact ⟨entry, hentry⟩
  refine ⟨?_, ?_, ?_⟩
  · rw [hroot]
    exact notMem_slash_expectedRoot hsemver hversion
  · obtain ⟨fact, hfact, -⟩ := h.directories "" (.head _)
    obtain ⟨entry, hentry⟩ := hinspected _ hfact
    exact hentry.normal.ne_nil
  · intro x hx
    obtain ⟨entry, hentry⟩ := hinspected x hx
    rw [hentry.entryType]
    exact ⟨hentry.normal, hentry.layout⟩

/-- What no call did before is done once. -/
theorem filterMap_nodup {α β : Type} {f : α → Option β} {items : List α}
    (h : ∀ before x after, items = before ++ x :: after → ∀ b, f x = some b →
      ∀ y ∈ before, f y ≠ some b) : (items.filterMap f).Nodup := by
  induction items using List.reverseRecOn with
  | nil => exact .nil
  | append_singleton items x ih =>
    have hbefore : (items.filterMap f).Nodup := by
      apply ih
      intro before y after hsplit b hb
      exact h before y (after ++ [x]) (by rw [hsplit]; simp) b hb
    rw [List.filterMap_append]
    cases hx : f x with
    | none => simpa [hx] using hbefore
    | some b =>
      have hnew : b ∉ items.filterMap f := by
        intro hmem
        obtain ⟨y, hy, hyb⟩ := List.mem_filterMap.1 hmem
        exact h items x [] rfl b hx y hy hyb
      have hlast : [x].filterMap f = [b] := by simp [hx]
      rw [hlast, List.nodup_append]
      refine ⟨hbefore, List.nodup_singleton b, ?_⟩
      intro y hy z hz heq
      obtain rfl := List.mem_singleton.1 hz
      exact hnew (heq ▸ hy)

/-- What extraction did, whatever the answers were. -/
structure ConfinedRun (stagingRoot : Text) (plan : ArchivePlan) (archive : ArchiveFile)
    (made : ExtractHistory) (result : Except BundleAcquisitionError Text) : Prop where
  /-- All that may have been created is in the root. -/
  created : ∀ x ∈ made, ∀ path, x.1.Creates stagingRoot path →
    Beneath (joinPath stagingRoot plan.rootName) path
  /-- No file is opened or written twice. -/
  once : (made.filterMap fun x => x.1.file?).Nodup
  success : ∀ found, result = .ok found → found = joinPath stagingRoot plan.rootName ∧
    ∃ paths, ExtractedAll stagingRoot plan archive.entries paths made

/-- **Inspection and extraction confine the bundle.** The archive of the second pass may be any. -/
theorem archive_confined {formats : ManifestFormats} (hsemver : formats.semver.Lawful)
    {archive : ArchiveFile} {archiveName : String} {expected : ReleaseIdentity} {plan : ArchivePlan}
    (h : inspectArchive formats archive archiveName expected = .ok plan) :
    ArchiveListing archive.entries plan ∧
      ∀ (other : ArchiveFile) (stagingRoot : Text) (World : Type)
        (handle : World → ExtractCall → Except String Unit × World) (world : World),
        ConfinedRun stagingRoot plan other
          (Program.calls handle (extractArchive other stagingRoot plan).run world)
          (Program.exec handle (extractArchive other stagingRoot plan).run world).1 := by
  obtain ⟨hlisting, hroot, hversion⟩ := inspectArchive_listing h
  refine ⟨hlisting, ?_⟩
  intro other stagingRoot World handle world
  have hplan := hlisting.rooted hsemver hroot hversion
  have hrun : wpE (extracting (joinPath stagingRoot plan.rootName))
      (extractArchive other stagingRoot plan) _ _ [] := wpE_extractArchive hplan
  obtain ⟨hcalls, hend⟩ := Program.wp.calls hrun handle world
  simp only [Program.observe_record, List.nil_append] at hcalls hend
  refine ⟨?_, ?_, ?_⟩
  · intro x hx path hpath
    obtain ⟨before, after, hsplit⟩ := List.append_of_mem hx
    exact Beneath.creates hplan.slash (hcalls before x after hsplit).beneath hpath
  · apply filterMap_nodup
    intro before x after hsplit
    exact (hcalls before x after hsplit).once
  · intro found hfound
    rw [hfound] at hend
    exact hend

/-! ## An archive -/

def bundleIdentity : ReleaseIdentity :=
  ⟨"v1.4.0", ⟨1, 4, 0, "", ""⟩, .stable, releaseTarget, "0123456789abcdef0123456789abcdef01234567"⟩

def bundleManifestText : Text :=
  "\x7b\"schema_version\":1,\"critical\":[\"release_tag\",\"version\",\"channel\",".toList
    ++ "\"target\",\"commit\"],\"release_tag\":\"v1.4.0\",\"version\":\"1.4.0\",".toList
    ++ "\"channel\":\"stable\",\"target\":\"x86_64-unknown-linux-musl\",".toList
    ++ "\"gui_target\":\"x86_64-unknown-linux-gnu\",".toList
    ++ "\"commit\":\"0123456789abcdef0123456789abcdef01234567\"\x7d".toList

/-- A text without other characters than those of ASCII. -/
def asciiBytes (text : Text) : List UInt8 := text.map fun c => UInt8.ofNat c.toNat

/-- What `serde_json` reads from that document. -/
def bundleFormats : ManifestFormats where
  fields contents :=
    if contents = asciiBytes bundleManifestText then
      .ok [("schema_version", .number (.int 1)),
        ("critical", .array (expectedCritical.map .string)),
        ("release_tag", .string "v1.4.0"), ("version", .string "1.4.0"),
        ("channel", .string "stable"), ("target", .string releaseTarget),
        ("gui_target", .string guiTarget), ("commit", .string bundleIdentity.commit)]
    else .error "expected value at line 1 column 1"
  invalidType _ := "invalid type"
  semver := publishedSemver

/-- The directories and the required files, of which only the manifest has contents. -/
def bundleEntries : List (Except String TarEntry) :=
  let root := expectedRoot publishedSemver bundleIdentity
  requiredDirectories.map (fun directory => .ok {
    pathBytes := asciiBytes (requiredDirectory root directory ++ ['/'])
    entryType := .directory
    mode := .ok 0o755
    size := 0 })
  ++ requiredRelativeFiles.map fun file =>
    let contents := if file = manifestName then asciiBytes bundleManifestText else []
    .ok {
      pathBytes := asciiBytes (below root file.toList)
      entryType := .regular
      mode := .ok 0o644
      size := contents.length
      contents }

def bundleArchive : ArchiveFile where
  isFile := true
  links := 1
  length := 4096
  raw := bundleEntries
  entries := bundleEntries
  trailing := [.ok []]

/-- An archive that is accepted and then extracted; every call succeeds. -/
theorem archive_confined_bundle :
    ∃ plan, inspectArchive bundleFormats bundleArchive
        "lg-buddy-1.4.0-x86_64-unknown-linux-musl.tar.gz" bundleIdentity = .ok plan ∧
      ArchiveListing bundleArchive.entries plan ∧
      ConfinedRun "/var/tmp/bundle".toList plan bundleArchive
        (Program.calls (fun (_ : Unit) _ => (.ok (), ()))
          (extractArchive bundleArchive "/var/tmp/bundle".toList plan).run ())
        (Program.exec (fun (_ : Unit) _ => (.ok (), ()))
          (extractArchive bundleArchive "/var/tmp/bundle".toList plan).run ()).1 := by
  have haccepted : (inspectArchive bundleFormats bundleArchive
      "lg-buddy-1.4.0-x86_64-unknown-linux-musl.tar.gz" bundleIdentity).isOk = true := by
    decide +kernel
  cases hplan : inspectArchive bundleFormats bundleArchive
      "lg-buddy-1.4.0-x86_64-unknown-linux-musl.tar.gz" bundleIdentity with
  | error error =>
    rw [hplan] at haccepted
    cases haccepted
  | ok plan =>
    obtain ⟨hlisting, hrun⟩ := archive_confined publishedSemver_lawful hplan
    exact ⟨plan, rfl, hlisting, hrun _ _ _ _ _⟩

end LgBuddy
