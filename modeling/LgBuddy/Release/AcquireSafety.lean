import LgBuddy.Release.Acquire
import LgBuddy.Release.EmbeddedSafety
import LgBuddy.Release.Extraction

/-!
# LgBuddy — a bundle is what its release says

Every run of the acquisition, whatever GitHub, the cache and the file system answer.

* `Resolved`, `Peels` — the release as it is read again, and the commit of its tag;
* `Fetched` — a download, whole and with the digest that GitHub gives;
* `Trusted` — what is known before the first file of the bundle is made;
* `VerifiedBundle` — what a bundle is that is returned;
* `acquisition_is_sound` — the law.
-/

namespace LgBuddy

namespace Acquire

open Program (Entry Scene Says says_one wpE)
open Program.Scripted (Observes Quietly contract wpE_ask)
open Fallible (bind_ok mapError_ok)

abbrev AcquireEntry := Program.Entry AcquireCall.Answer AcquireWorld

abbrev AcquireScene := Program.Scene AcquireCall.Answer AcquireWorld

/-! ## Parts that do not extract -/

/-- The calls that are made before anything is done with what is acquired. -/
def quiet : AcquireCall → Bool
  | .extract _ | .readBinary _ | .readInput _ | .decode _ _ => false
  | _ => true

/-- A quiet call changes nothing of the world that matters. -/
theorem answer_quiet {call : AcquireCall} (h : quiet call = true) (m : AcquireMoment)
    (w : AcquireWorld) : (w.answer m call).2 = w := by
  cases call with
  | extract | readBinary | readInput | decode => cases h
  | createStaging | getRelease | getReference | getTag | getAsset | createDownload
  | writeDownload | syncDownload | flushDownload | pin => rfl

variable {α β : Type}

abbrev Looks (p : AcquireProgram α) (P : α → List AcquireEntry → Prop) : Prop :=
  Observes AcquireWorld.answer (fun call => quiet call = true) p P

/-- What a call is answered is all that is learnt from it. -/
theorem looks_ask {call : AcquireCall} (h : quiet call = true)
    {P : call.Answer → List AcquireEntry → Prop} (hP : ∀ w a, P a [⟨w, call, a, w⟩]) :
    Looks (ask call) P := by
  unfold ask Looks
  refine Observes.ask ?_ (answer_quiet h) hP
  exact h

/-- A check that passes makes no call. -/
theorem looks_orFail {x : Except BundleAcquisitionError α} {P : α → List AcquireEntry → Prop}
    (h : ∀ a, x = .ok a → P a []) : Looks (orFail x) P :=
  Observes.ofExcept fun a ha => h a (mapError_ok.1 ha)

theorem looks_failWith (error : BundleAcquisitionError) {P : α → List AcquireEntry → Prop} :
    Looks (failWith error) P :=
  Observes.ofExcept fun a h => by cases h

/-- A call whose answer may be an error, in front of the rest. -/
theorem Looks.asked {call : AcquireCall} (h : quiet call = true)
    {f : call.Answer → Except BundleAcquisitionError α} {rest : α → AcquireProgram β}
    {R : β → List AcquireEntry → Prop}
    (hrest : ∀ answer a made, Says made call answer → f answer = .ok a →
      Looks (rest a) fun b made' => R b (made ++ made')) :
    Looks (ask call >>= fun answer => orFail (f answer) >>= rest) R := by
  refine Observes.bind (looks_ask h (P := fun answer made => Says made call answer)
    fun w a => says_one a) fun answer made hmade => ?_
  refine Observes.bind (looks_orFail (P := fun a made => made = [] ∧ f answer = .ok a)
    fun a ha => ⟨rfl, ha⟩) fun a made' ha => ?_
  obtain ⟨rfl, ha⟩ := ha
  exact (hrest answer a made hmade ha).mono fun b made'' hR => hR

/-- A check in front of the rest. -/
theorem Looks.checked {x : Except BundleAcquisitionError α} {rest : α → AcquireProgram β}
    {R : β → List AcquireEntry → Prop} (hrest : ∀ a, x = .ok a → Looks (rest a) R) :
    Looks (orFail x >>= rest) R := by
  refine Observes.bind (looks_orFail (P := fun a made => made = [] ∧ x = .ok a)
    fun a ha => ⟨rfl, ha⟩) fun a made ha => ?_
  obtain ⟨rfl, ha⟩ := ha
  exact (hrest a ha).mono fun b made hR => hR

/-! ## The release, read again -/

/-- A full commit id. -/
def IsSha (sha : String) : Prop := sha.toList.length = 40 ∧ ∀ c ∈ sha.toList, Str.isLowerHex c = true

/-- A commit is forty lower-case hex digits. -/
theorem validateCommitSha_ok {sha : String} : validateCommitSha sha = .ok () ↔ IsSha sha := by
  unfold validateCommitSha IsSha
  by_cases hhex : ∀ c ∈ sha.toList, Str.isLowerHex c = true
  · have hlen : Str.utf8Len sha.toList = sha.toList.length :=
      Str.utf8Len_ascii fun c hc => Str.isLowerHex_utf8Size (hhex c hc)
    simpa [hlen, List.all_eq_true.2 hhex] using fun _ => hhex
  · have hall : sha.toList.all Str.isLowerHex = false := by
      rw [← Bool.not_eq_true, List.all_eq_true]
      exact hhex
    simp [hall, hhex]

/-- From an object to a commit, by way of so many annotated tags at most. -/
inductive Peels (made : List AcquireEntry) : Nat → GitObject → String → Prop
  | commit {n : Nat} {object : GitObject} (hsha : IsSha object.sha)
      (hkind : object.kind = "commit") : Peels made n object object.sha
  | tag {n : Nat} {object next : GitObject} {sha : String} (hsha : IsSha object.sha)
      (hkind : object.kind = "tag") (hnext : Says made (.getTag object.sha) (.ok next))
      (hrest : Peels made n next sha) : Peels made (n + 1) object sha

/-- What was answered once stays answered. -/
theorem Peels.mono {made made' : List AcquireEntry} {n : Nat} {object : GitObject} {sha : String}
    (h : Peels made n object sha) (hmade : ∀ x ∈ made, x ∈ made') : Peels made' n object sha := by
  induction h with
  | commit hsha hkind => exact .commit hsha hkind
  | tag hsha hkind hnext _ ih => exact .tag hsha hkind (hnext.mono hmade) ih

/-- Annotated tags are peeled to a commit, at most as deep as allowed. By induction on the depth.
-/
theorem looks_peelTagObject (visited : List String) (n : Nat) (object : GitObject) :
    Looks (peelTagObject visited n object) fun sha made => Peels made n object sha := by
  induction n generalizing visited object with
  | zero =>
    refine Looks.checked fun _ hsha => ?_
    split
    · rename_i hkind
      exact Observes.pure (.commit (validateCommitSha_ok.1 (mapError_ok.1 hsha)) hkind)
    · split
      · exact looks_failWith _
      · exact looks_failWith _
  | succ n ih =>
    refine Looks.checked fun _ hsha => ?_
    split
    · rename_i hkind
      exact Observes.pure (.commit (validateCommitSha_ok.1 (mapError_ok.1 hsha)) hkind)
    · split
      · rename_i hkind
        split
        · exact looks_failWith _
        -- the tag object is asked for, and the next one must be a valid object too
        · refine Looks.asked rfl fun answer next made hmade hnext => ?_
          refine (ih _ next).mono fun sha made' hrest => ?_
          rw [hnext] at hmade
          refine .tag (validateCommitSha_ok.1 (mapError_ok.1 hsha)) hkind
            (hmade.mono fun x hx => ?_) (hrest.mono fun x hx => ?_)
          · simp [hx]
          · simp [hx]
      · exact looks_failWith _

/-- The release is fetched again under its own tag. -/
theorem looks_fetchReleaseByTag (semver : Semver) (selected : ReleaseInfo) :
    Looks (fetchReleaseByTag semver selected) fun fresh made =>
      ∃ answer, Says made (.getRelease selected.tagName) (.ok answer)
        ∧ releaseInfoFromGithubResponse semver answer selected.tagName = .ok fresh := by
  unfold fetchReleaseByTag
  dsimp only
  split
  · exact looks_failWith _
  · refine Observes.bind (looks_ask rfl (P := fun answer made =>
      Says made (.getRelease selected.tagName) answer) fun w a => says_one a) fun answer made hmade => ?_
    refine Looks.checked fun release hrelease => looks_orFail fun fresh hfresh => ?_
    have hanswer : answer = .ok release := hrelease
    rw [hanswer] at hmade
    exact ⟨release, by simpa using hmade, hfresh⟩

/-- What `freshRelease` returns. -/
structure Fresh (semver : Semver) (release fresh : ReleaseInfo)
    (made : List AcquireEntry) : Prop where
  selected : WellNamed semver release
  fetched : ∃ answer, Says made (.getRelease release.tagName) (.ok answer)
    ∧ releaseInfoFromGithubResponse semver answer release.tagName = .ok fresh
  named : WellNamed semver fresh
  version : fresh.version = release.version
  channel : fresh.channel = release.channel
  tagName : fresh.tagName = release.tagName

/-- A release agrees with all that was answered later as well. -/
theorem Fresh.mono {semver : Semver} {release fresh : ReleaseInfo}
    {made made' : List AcquireEntry} (h : Fresh semver release fresh made)
    (hmade : ∀ x ∈ made, x ∈ made') : Fresh semver release fresh made' := by
  obtain ⟨answer, hsays, hread⟩ := h.fetched
  exact ⟨h.selected, ⟨answer, hsays.mono hmade, hread⟩, h.named, h.version, h.channel, h.tagName⟩

/-- What was fetched must agree with what was selected, in version, channel and tag. -/
theorem looks_freshRelease (semver : Semver) (release : ReleaseInfo) :
    Looks (freshRelease semver release) (Fresh semver release) := by
  unfold freshRelease
  refine Looks.checked fun _ hselected => ?_
  refine Observes.bind (looks_fetchReleaseByTag semver release) fun fresh made hfetched => ?_
  refine Looks.checked fun _ hfresh => ?_
  split
  · exact looks_failWith _
  · rename_i hagrees
    obtain ⟨hversion, hchannel, htag⟩ : fresh.version = release.version
        ∧ fresh.channel = release.channel ∧ fresh.tagName = release.tagName := by
      simpa only [not_or, not_not, ne_eq] using hagrees
    refine Observes.pure ⟨validateReleaseIdentity_ok.1 hselected, ?_,
      validateReleaseIdentity_ok.1 hfresh, hversion, hchannel, htag⟩
    rw [List.append_nil]
    exact hfetched

/-- The commit that a tag stands for. -/
def TagCommit (tag commit : String) (made : List AcquireEntry) : Prop :=
  ∃ reference, Says made (.getReference tag) (.ok reference)
    ∧ Peels made maxTagDepth reference commit

/-- A tag's commit is the one that its reference leads to. -/
theorem looks_resolveTagCommit (tag : String) :
    Looks (resolveTagCommit tag) fun commit made => TagCommit tag commit made := by
  unfold resolveTagCommit
  split
  · exact looks_failWith _
  · refine Looks.asked rfl fun answer reference made hmade hreference => ?_
    rw [hreference] at hmade
    refine (looks_peelTagObject [] maxTagDepth reference).mono fun commit made' hpeels => ?_
    exact ⟨reference, hmade.mono fun x hx => List.mem_append_left _ hx,
      hpeels.mono fun x hx => List.mem_append_right _ hx⟩

/-- The identity is made of the release and of that commit. -/
theorem looks_resolveTagIdentity (release : ReleaseInfo) :
    Looks (resolveTagIdentity release) fun identity made =>
      TagCommit release.tagName identity.commit made ∧ identity = ⟨release.tagName,
        release.version, release.channel, releaseTarget, identity.commit⟩ := by
  unfold resolveTagIdentity
  refine Observes.bind (looks_resolveTagCommit release.tagName) fun commit made hcommit => ?_
  refine Looks.checked fun _ _ => Observes.pure ⟨?_, rfl⟩
  rw [List.append_nil]
  exact hcommit

/-- The release of a verified bundle, and its identity. -/
structure Resolved (semver : Semver) (release fresh : ReleaseInfo)
    (identity : ReleaseIdentity) (made : List AcquireEntry) : Prop where
  agrees : Fresh semver release fresh made
  tag : TagCommit fresh.tagName identity.commit made
  identity : identity = ⟨fresh.tagName, fresh.version, fresh.channel, releaseTarget,
    identity.commit⟩

/-- A commit stays the tag's. -/
theorem TagCommit.mono {tag commit : String} {made made' : List AcquireEntry}
    (h : TagCommit tag commit made) (hmade : ∀ x ∈ made, x ∈ made') :
    TagCommit tag commit made' := by
  obtain ⟨reference, hsays, hpeels⟩ := h
  exact ⟨reference, hsays.mono hmade, hpeels.mono hmade⟩

/-- Both together resolve the release. -/
theorem looks_resolveRelease (semver : Semver) (release : ReleaseInfo) :
    Looks (resolveRelease semver release) fun found made =>
      Resolved semver release found.1 found.2 made := by
  unfold resolveRelease
  refine Observes.bind (looks_freshRelease semver release) fun fresh made hfresh => ?_
  refine Looks.checked fun _ _ => ?_
  refine Observes.bind (looks_resolveTagIdentity fresh) fun identity made' htag => ?_
  refine Observes.pure ⟨hfresh.mono fun x hx => ?_, htag.1.mono fun x hx => ?_, htag.2⟩
  · simp [hx]
  · simp [hx]

/-! ## Downloads -/

/-- The whole body, up to a read of no bytes; nothing if a read fails before. -/
def bodyOf : List (Except String (List UInt8)) → Option (List UInt8)
  | [] => some []
  | .error _ :: _ => none
  | .ok chunk :: rest => if chunk = [] then some [] else (bodyOf rest).map (chunk ++ ·)

/-- A download is the whole body of a response, with the length and the digest of the asset. -/
structure Fetched (sha256 : List UInt8 → String) (asset : ReleaseAsset) (file : List UInt8)
    (made : List AcquireEntry) : Prop where
  response : ∃ response, Says made (.getAsset asset.id) (.ok response)
    ∧ bodyOf response.body = some file
  size : file.length = asset.size
  digest : GithubDigest asset (sha256 file)

/-- What was fetched stays fetched. -/
theorem Fetched.mono {sha256 : List UInt8 → String} {asset : ReleaseAsset} {file : List UInt8}
    {made made' : List AcquireEntry} (h : Fetched sha256 asset file made)
    (hmade : ∀ x ∈ made, x ∈ made') : Fetched sha256 asset file made' := by
  obtain ⟨response, hsays, hbody⟩ := h.response
  exact ⟨⟨response, hsays.mono hmade, hbody⟩, h.size, h.digest⟩

/-- By induction on what is still read; `written` is what has been written. -/
theorem looks_streamChunks {url : String} {destination : Text} {maxBytes : Nat}
    (hmax : maxBytes < 2 ^ 64 - 1) (written : List UInt8)
    (chunks : List (Except String (List UInt8))) :
    Looks (streamChunks url destination maxBytes written.length written chunks) fun found _ =>
      ∃ body, bodyOf chunks = some body ∧ found = ((written ++ body).length, written ++ body) := by
  induction chunks generalizing written with
  | nil =>
    unfold streamChunks
    exact Observes.pure ⟨[], rfl, by simp⟩
  | cons item rest ih =>
    cases item with
    | error message =>
      unfold streamChunks
      exact looks_failWith _
    | ok chunk =>
      unfold streamChunks
      dsimp only
      split
      · rename_i hempty
        exact Observes.pure ⟨[], by simp [bodyOf, hempty], by simp⟩
      · rename_i hchunk
        split
        · exact looks_failWith _
        · rename_i hfits
          -- the limit is below the one of `u64`, so that the count does not saturate
          have htotal : min (written.length + chunk.length) (2 ^ 64 - 1)
              = (written ++ chunk).length := by
            rw [List.length_append]
            omega
          refine Looks.asked rfl fun answer _ made _ _ => ?_
          rw [htotal]
          refine (ih (written ++ chunk)).mono fun found made' hfound => ?_
          obtain ⟨body, hbody, rfl⟩ := hfound
          exact ⟨chunk ++ body, by simp [bodyOf, hchunk, hbody], by simp⟩

/-- An asset is streamed into its file, and the facts are those of the bytes written. -/
theorem looks_downloadAsset (sha256 : List UInt8 → String) (asset : ReleaseAsset)
    (destination : Text) {maxBytes : Nat} (hmax : maxBytes < 2 ^ 64 - 1) :
    Looks (downloadAsset sha256 asset destination maxBytes) fun download made =>
      (∃ response, Says made (.getAsset asset.id) (.ok response)
        ∧ bodyOf response.body = some download.file)
      ∧ download.facts = ⟨download.file.length, sha256 download.file⟩ := by
  unfold downloadAsset
  refine Looks.asked rfl fun answer response made hmade hresponse => ?_
  rw [hresponse] at hmade
  refine Looks.checked fun _ _ => ?_
  unfold streamResponseToFile
  refine Looks.asked rfl fun _ _ made₁ _ _ => ?_
  refine Observes.bind (looks_streamChunks hmax [] response.body) fun found made₂ hfound => ?_
  obtain ⟨body, hbody, rfl⟩ := hfound
  refine Looks.asked rfl fun _ _ made₃ _ _ => Observes.pure ⟨⟨response, ?_, ?_⟩, ?_⟩
  · exact hmade.mono fun x hx => List.mem_append_left _ hx
  · exact hbody
  · rfl

/-- A download is kept only with the size and the digest that GitHub gives. -/
theorem looks_downloadVerified (sha256 : List UInt8 → String) (asset : ReleaseAsset)
    (destination : Text) {maxBytes : Nat} (hmax : maxBytes < 2 ^ 64 - 1) :
    Looks (downloadVerified sha256 asset destination maxBytes) (Fetched sha256 asset) := by
  unfold downloadVerified
  refine Observes.bind (looks_downloadAsset sha256 asset destination hmax)
    fun download made hdownload => ?_
  obtain ⟨⟨response, hsays, hbody⟩, hfacts⟩ := hdownload
  refine Looks.asked rfl fun _ _ made' _ _ => Looks.checked fun _ hverified => ?_
  obtain ⟨hbytes, hdigest⟩ := verifyDownload_ok.1 hverified
  rw [hfacts] at hbytes hdigest
  refine Observes.pure ⟨⟨response, hsays.mono fun x hx => ?_, hbody⟩, hbytes, hdigest⟩
  exact List.mem_append_left _ hx

/-! ## The archive -/

/-- The checksum file gives one digest for the archive, on a line that names it. -/
def Publishes (checksum : List UInt8) (archiveName digest : String) : Prop :=
  ∃ text, Str.utf8Bytes text = checksum
    ∧ (∀ line ∈ Str.lines text, line ≠ [] → ∃ digest name, ChecksumLine line digest name)
    ∧ (Str.lines text).filterMap (digestFor archiveName.toList) = [digest.toList]

/-- A digest that was found is the one in the checksum file. -/
theorem publishes_of_ok {utf8Error : List UInt8 → String} {checksum : List UInt8}
    {archiveName digest : String}
    (h : publishedArchiveDigest utf8Error checksum archiveName = .ok digest) :
    Publishes checksum archiveName digest := by
  obtain ⟨text, htext, -, hmatches⟩ := publishedArchiveDigest_ok.1 h
  obtain ⟨hlines, hfound⟩ := checksumMatches_ok.1 hmatches
  exact ⟨text, htext, hlines, hfound.symm⟩

/-- An entry of the archive is the manifest of this identity. -/
def HasManifest (formats : ManifestFormats) (root : Text) (items : List (Except String TarEntry))
    (manifest : ReleaseManifest) : Prop :=
  ∃ entry, .ok entry ∈ items
    ∧ normalizeArchivePath entry.pathBytes entry.entryType = .ok (below root manifestName.toList)
    ∧ parseManifestDocument formats entry.contents = .ok manifest

/-- Only the manifest's own entry gives the manifest, and it gives the whole of it. -/
theorem inspectContents_manifest {formats : ManifestFormats} {root path : Text} {entry : TarEntry}
    {manifest manifest' : Option ReleaseManifest}
    (h : inspectContents formats root path entry manifest = .ok manifest') :
    manifest' = manifest ∨ path = below root manifestName.toList
      ∧ ∃ found, manifest' = some found ∧ parseManifestDocument formats entry.contents = .ok found := by
  unfold inspectContents archiveError at h
  split at h
  · rename_i hpath
    split at h
    · cases h
    · rename_i hsize
      obtain ⟨contents, hread, h⟩ := bind_ok.1 h
      split at h
      · cases h
      · rename_i hlength
        have hwhole : contents = entry.contents := by
          have hread' := mapError_ok.1 hread
          unfold TarEntry.readUpTo at hread'
          split at hread'
          · -- so many bytes are not of an entry of this size
            rename_i hlong
            obtain rfl := Except.ok.inj hread'
            rw [List.length_take] at hlength
            omega
          · unfold TarEntry.readToEnd at hread'
            split at hread'
            · cases hread'
            · exact (Except.ok.inj hread').symm
        subst hwhole
        cases hparsed : parseManifestDocument formats entry.contents with
        | error error =>
          rw [hparsed] at h
          cases h
        | ok found =>
          rw [hparsed] at h
          exact .inr ⟨hpath, found, (Except.ok.inj h).symm, rfl⟩
  · split at h
    · obtain ⟨copied, -, h⟩ := bind_ok.1 h
      split at h
      · cases h
      · exact .inl (Except.ok.inj h).symm
    · exact .inl (Except.ok.inj h).symm

/-- What is kept as the manifest is one. -/
theorem inspectEntries_manifest {formats : ManifestFormats} {root : Text} {index : Nat}
    {done rest : List (Except String TarEntry)} {seen seen' : Inspection}
    (hseen : ∀ manifest, seen.manifest = some manifest → HasManifest formats root done manifest)
    (h : inspectEntries formats root index seen rest = .ok seen') :
    ∀ manifest, seen'.manifest = some manifest →
      HasManifest formats root (done ++ rest) manifest := by
  induction rest generalizing index done seen with
  | nil =>
    rw [inspectEntries] at h
    obtain rfl := Except.ok.inj h
    rw [List.append_nil]
    exact hseen
  | cons item rest ih =>
    unfold inspectEntries archiveError at h
    split at h
    · cases h
    · split at h
      · cases h
      · rename_i entry
        obtain ⟨next, hentry, h⟩ := bind_ok.1 h
        rw [List.append_cons]
        refine ih (fun manifest hmanifest => ?_) h
        obtain ⟨⟨path, fact⟩, hheader, hentry⟩ := bind_ok.1 hentry
        obtain ⟨total, hadded, hentry⟩ := bind_ok.1 hentry
        obtain ⟨kept, hcontents, hentry⟩ := bind_ok.1 hentry
        obtain rfl := Except.ok.inj hentry
        rcases inspectContents_manifest hcontents with hsame | ⟨hpath, found, hfound, hparsed⟩
        · obtain ⟨other, hother, hrest⟩ := hseen manifest (hsame ▸ hmanifest)
          exact ⟨other, by simp [hother], hrest⟩
        · obtain rfl := Option.some.inj (hfound.symm.trans hmanifest)
          have hbytes := (inspectHeader_ok hheader (addExpanded_ok hadded).1).1.bytes
          exact ⟨entry, by simp, hpath ▸ hbytes, hparsed⟩

/-- What the first pass accepts has the manifest of its release. -/
theorem inspectArchive_manifest {formats : ManifestFormats} {archive : ArchiveFile}
    {archiveName : String} {expected : ReleaseIdentity} {plan : ArchivePlan}
    (h : inspectArchive formats archive archiveName expected = .ok plan) :
    HasManifest formats plan.rootName archive.entries ⟨expected, some guiTarget⟩ := by
  unfold inspectArchive archiveError at h
  dsimp only at h
  generalize expectedRoot formats.semver expected = root at h
  split at h
  · cases h
  · split at h
    · cases h
    · split at h
      · cases h
      · obtain ⟨_, -, h⟩ := bind_ok.1 h
        obtain ⟨seen, hseen, h⟩ := bind_ok.1 h
        obtain ⟨_, -, h⟩ := bind_ok.1 h
        obtain ⟨_, -, h⟩ := bind_ok.1 h
        obtain ⟨_, hmanifest, h⟩ := bind_ok.1 h
        obtain rfl := Except.ok.inj h
        have hstart : ∀ manifest, ({} : Inspection).manifest = some manifest →
            HasManifest formats root [] manifest := fun manifest hnone => by cases hnone
        have hkept := inspectEntries_manifest hstart hseen
        unfold checkManifestOf at hmanifest
        split at hmanifest
        · cases hmanifest
        · rename_i found hfound
          split at hmanifest
          · cases hmanifest
          · rename_i hidentity
            split at hmanifest
            · cases hmanifest
            · rename_i hgui
              have hsame : found = ⟨expected, some guiTarget⟩ := by
                rw [← not_not.1 hidentity, ← not_not.1 hgui]
              rw [← hsame]
              exact hkept found hfound

/-- **What is known before the first file of the bundle is made.** The archive is the one that the
release publishes, and its entries and its manifest are in order. -/
structure Trusted (formats : AcquireFormats) (release : ReleaseInfo) (made : List AcquireEntry)
    (verified : VerifiedArchive) : Prop where
  origin : ∃ fresh selected checksum archive,
    Resolved formats.manifest.semver release fresh verified.identity made
      ∧ Selected fresh (releaseArchiveName formats.manifest.semver fresh.version) selected
      ∧ Fetched formats.sha256 selected.checksum checksum made
      ∧ Fetched formats.sha256 selected.archive archive made
      ∧ Publishes checksum (releaseArchiveName formats.manifest.semver fresh.version) (formats.sha256 archive)
      ∧ verified.archive = formats.unpack archive
  listing : ArchiveListing verified.archive.entries verified.plan
  root : verified.plan.rootName = expectedRoot formats.manifest.semver verified.identity
  version : formats.manifest.semver.Reads verified.identity.version
  manifest : HasManifest formats.manifest verified.plan.rootName verified.archive.entries
    ⟨verified.identity, some guiTarget⟩

/-- What was resolved stays so. -/
theorem Resolved.mono {semver : Semver} {release fresh : ReleaseInfo}
    {identity : ReleaseIdentity} {made made' : List AcquireEntry}
    (h : Resolved semver release fresh identity made) (hmade : ∀ x ∈ made, x ∈ made') :
    Resolved semver release fresh identity made' :=
  ⟨h.agrees.mono hmade, h.tag.mono hmade, h.identity⟩

/-- What was trusted stays trusted. -/
theorem Trusted.mono {formats : AcquireFormats} {release : ReleaseInfo}
    {made made' : List AcquireEntry} {verified : VerifiedArchive}
    (h : Trusted formats release made verified) (hmade : ∀ x ∈ made, x ∈ made') :
    Trusted formats release made' verified := by
  obtain ⟨fresh, selected, checksum, archive, hresolved, hselected, hchecksum, harchive, hrest⟩ :=
    h.origin
  exact ⟨⟨fresh, selected, checksum, archive, hresolved.mono hmade, hselected,
    hchecksum.mono hmade, harchive.mono hmade, hrest⟩, h.listing, h.root, h.version, h.manifest⟩

/-- **Verification.** An archive is verified only after all that makes it trusted was answered. -/
theorem looks_verifyArchive (formats : AcquireFormats) (release : ReleaseInfo) :
    Looks (verifyArchive formats release) fun verified made =>
      Trusted formats release made verified := by
  unfold verifyArchive
  refine Looks.asked rfl fun _ staging made₀ _ _ => ?_
  refine Observes.bind (looks_resolveRelease _ release) fun found made₁ hresolved => ?_
  obtain ⟨fresh, expected⟩ := found
  refine Looks.checked fun selected hselected => ?_
  have hassets := selectNamedReleaseAssets_ok.1 hselected
  refine Observes.bind (looks_downloadVerified formats.sha256 selected.checksum _ (by decide))
    fun checksum made₂ hchecksum => ?_
  refine Observes.bind (looks_downloadVerified formats.sha256 selected.archive _ (by decide))
    fun archive made₃ harchive => ?_
  refine Looks.checked fun published hpublished => Looks.checked fun github hgithub => ?_
  split
  · exact looks_failWith _
  · rename_i hsame
    obtain rfl := not_not.1 hsame
    refine Looks.checked fun plan hplan => Observes.pure ?_
    obtain ⟨hlisting, hroot, hversion⟩ := inspectArchive_listing hplan
    have hname : selected.archive.name = releaseArchiveName formats.manifest.semver fresh.version :=
      name_of_assetsNamed hassets.archive
    -- both digests are the one of the bytes that came
    have hdigest : published = formats.sha256 archive :=
      (requiredGithubDigest_ok.1 hgithub).unique harchive.digest
    subst hdigest
    refine ⟨⟨fresh, selected, checksum, archive, hresolved.mono fun x hx => ?_, hassets,
      hchecksum.mono fun x hx => ?_, harchive.mono fun x hx => ?_, ?_, rfl⟩, hlisting, hroot,
      hversion, inspectArchive_manifest hplan⟩
    · simp [hx]
    · simp [hx]
    · simp [hx]
    · rw [← hname]
      exact publishes_of_ok hpublished

/-! ## Extraction -/

/-- No file is opened or written twice. -/
def Once (made : ExtractHistory) : Prop := (made.filterMap fun x => x.1.file?).Nodup

/-- A confined call writes no file a second time. -/
theorem Once.concat {root : Text} {made : ExtractHistory} {call : ExtractCall} (h : Once made)
    (hcall : ConfinedCall root made call) (answer : Except String Unit) :
    Once (made ++ [⟨call, answer⟩]) := by
  unfold Once at h ⊢
  rw [List.filterMap_append]
  cases hfile : call.file? with
  | none => simpa [hfile] using h
  | some file =>
    have hnew : file ∉ made.filterMap fun x => x.1.file? := by
      intro hmem
      obtain ⟨x, hx, hsame⟩ := List.mem_filterMap.1 hmem
      exact hcall.once file hfile x hx hsame
    have hlast : [(⟨call, answer⟩ : Program.Exchange ExtractCall fun _ => Except String Unit)].filterMap
        (fun x => x.1.file?) = [file] := by simp [hfile]
    rw [hlast, List.nodup_append]
    refine ⟨h, List.nodup_singleton file, fun y hy z hz heq => hnew ?_⟩
    rwa [← List.mem_singleton.1 hz, ← heq]

/-- What is written once is what the file holds. -/
theorem contents_of_written {made : ExtractHistory} {path : Text} {contents : List UInt8}
    (hwritten : ⟨.write path contents, .ok ()⟩ ∈ made) (honce : Once made) :
    (AcquireWorld.mk made).contents path = some contents := by
  induction made using List.reverseRecOn with
  | nil => cases hwritten
  | append_singleton made x ih =>
    obtain ⟨call, answer⟩ := x
    unfold AcquireWorld.contents
    rw [List.foldl_append]
    rcases List.mem_append.1 hwritten with hbefore | hlast
    · have hmade : Once made := by
        unfold Once at honce ⊢
        rw [List.filterMap_append] at honce
        exact honce.of_append_left
      -- the last call writes another file
      have hother : ∀ contents', call ≠ .write path contents' := by
        intro contents' hsame
        unfold Once at honce
        rw [List.filterMap_append, List.nodup_append] at honce
        refine honce.2.2 (true, path) ?_ (true, path) ?_ rfl
        · exact List.mem_filterMap.2 ⟨_, hbefore, rfl⟩
        · simp [hsame, ExtractCall.file?]
      have hkept := ih hbefore hmade
      unfold AcquireWorld.contents at hkept
      rw [hkept]
      cases call with
      | write written contents' =>
        have hne : written ≠ path := fun hsame => hother contents' (by rw [hsame])
        cases answer with
        | error message => rfl
        | ok _ => exact if_neg hne
      | createDirAll | setPermissions | createNew | flush => rfl
    · have hsame : (⟨call, answer⟩ : Program.Exchange ExtractCall fun _ => Except String Unit)
          = ⟨.write path contents, .ok ()⟩ := (List.mem_singleton.1 hlast).symm
      obtain ⟨rfl, hanswer⟩ := Sigma.mk.inj hsame
      obtain rfl := eq_of_heq hanswer
      exact if_pos rfl

/-- From one scene on, files of the bundle are made and read. -/
def Extends (t t' : AcquireScene) : Prop := ∃ late, t'.log = t.log ++ late

/-- Scenes that go on after each other. -/
theorem Extends.trans {t t' t'' : AcquireScene} (h : Extends t t') (h' : Extends t' t'') :
    Extends t t'' := by
  obtain ⟨late, hlate⟩ := h
  obtain ⟨later, hlater⟩ := h'
  exact ⟨late ++ later, by rw [hlater, hlate, List.append_assoc]⟩

/-- The extraction, as the bundle's own program runs it, within the acquisition. -/
theorem wpE_extraction {verified : VerifiedArchive} (hplan : PlanRooted verified.plan)
    {t : AcquireScene} (hmade : t.world.made = []) :
    wpE (contract AcquireWorld.answer) (extraction verified)
      (fun root t' => Extends t t' ∧ root = joinPath verified.staging verified.plan.rootName
        ∧ Once t'.world.made ∧ ∃ paths,
          ExtractedAll verified.staging verified.plan verified.archive.entries paths t'.world.made)
      (fun _ t' => Extends t t') t := by
  have hrun : Program.wp (extracting (joinPath verified.staging verified.plan.rootName))
      (extractArchive verified.archive verified.staging verified.plan).run _ [] :=
    wpE_extractArchive hplan
  have hthrough := Program.wp_through (C := contract AcquireWorld.answer)
    (f := AcquireCall.extract) (g := fun _ r => r)
    (R := fun s made => s.world.made = made ∧ Once made ∧ Extends t s) ?_
    (s := t) ⟨hmade, List.nodup_nil, [], (List.append_nil _).symm⟩ hrun
  · unfold extraction
    refine Program.wpE_mk.mpr (Program.wp_bind.mpr (Program.wp.mono ?_ hthrough))
    rintro result s ⟨made, ⟨rfl, honce, hextends⟩, hresult⟩
    cases result with
    | error error => exact hextends
    | ok root =>
      obtain ⟨rfl, paths, hall⟩ := hresult
      exact ⟨hextends, rfl, honce, paths, hall⟩
  · rintro s made call ⟨rfl, honce, late, hlate⟩ hcall
    refine ⟨trivial, ?_⟩
    intro answer s' hnext
    obtain ⟨m, hm⟩ := hnext
    obtain ⟨rfl, rfl⟩ := Prod.mk.inj hm
    exact ⟨rfl, honce.concat hcall _, late ++ [_], by rw [← List.append_assoc, ← hlate]⟩

/-! ## The binaries -/

/-- The file is an entry of the archive, and a binary of the identity. -/
structure HoldsBinary (formats : ManifestFormats) (verified : VerifiedArchive) (w : AcquireWorld)
    (root file : Text) (identity : ReleaseIdentity) : Prop where
  holds : ∃ entry, .ok entry ∈ verified.archive.entries
    ∧ normalizeArchivePath entry.pathBytes entry.entryType
      = .ok (below verified.plan.rootName file)
    ∧ w.contents (joinPath root file) = some entry.contents
    ∧ EmbeddedIdentity formats entry.contents identity.target identity.releaseTag identity

/-- A file of the root, joined to the staging directory. -/
theorem joinPath_below {stagingRoot file : Text} {plan : ArchivePlan} (hplan : PlanRooted plan)
    (hfile : file.head? ≠ some '/') :
    joinPath (joinPath stagingRoot plan.rootName) file
      = joinPath stagingRoot (below plan.rootName file) := by
  have hroot := head_ne_slash hplan.slash
  have hbelow : (below plan.rootName file).head? ≠ some '/' := by
    cases hname : plan.rootName with
    | nil => exact absurd hname hplan.nonempty
    | cons c rest =>
      rw [hname] at hroot
      exact hroot
  rw [joinPath_eq hroot, joinPath_eq hbelow]
  have hlast : (joinFront stagingRoot ++ plan.rootName).getLast? ≠ some '/' := by
    rw [List.getLast?_append_of_ne_nil _ hplan.nonempty]
    intro hslash
    exact hplan.slash (List.mem_of_getLast? hslash)
  have hnonempty : joinFront stagingRoot ++ plan.rootName ≠ [] :=
    List.append_ne_nil_of_right_ne_nil _ hplan.nonempty
  rw [joinPath, if_neg hfile, if_neg (not_or.2 ⟨hnonempty, hlast⟩)]
  simp [below]

/-- The file of an extracted binary, as the archive has it. -/
theorem contents_of_extracted {verified : VerifiedArchive} {paths : List Text} {made : ExtractHistory}
    {file : String} (hplan : PlanRooted verified.plan)
    (hlisting : ArchiveListing verified.archive.entries verified.plan)
    (hall : ExtractedAll verified.staging verified.plan verified.archive.entries paths made)
    (honce : Once made) (hfile : file ∈ requiredRelativeFiles) :
    ∃ entry, .ok entry ∈ verified.archive.entries
      ∧ normalizeArchivePath entry.pathBytes entry.entryType
        = .ok (below verified.plan.rootName file.toList)
      ∧ (AcquireWorld.mk made).contents
          (joinPath (joinPath verified.staging verified.plan.rootName) file.toList)
        = some entry.contents := by
  obtain ⟨fact, hfact, hregular⟩ := hlisting.files file hfile
  -- the entry of this path among those that were extracted
  have hpath : below verified.plan.rootName file.toList ∈ paths :=
    hall.all.mem_iff.2 (List.mem_map.2 ⟨_, hfact, rfl⟩)
  obtain ⟨item, hitem, entry, rfl, hentry⟩ := forall₂_of_mem hall.entries hpath
  obtain ⟨mode, -, hknown⟩ := hentry.fact
  have htype : entry.entryType = .regular := by
    have hsame := List.inj_on_of_nodup_map hlisting.nodup hknown hfact rfl
    rw [← hregular, ← (Prod.mk.inj hsame).2]
  obtain ⟨-, -, -, hwritten⟩ := hentry.file (by rw [htype]; decide)
  refine ⟨entry, hitem, hentry.bytes, ?_⟩
  rw [joinPath_below hplan (requiredFile_head hfile).2]
  exact contents_of_written hwritten honce

/-- What was read and accepted is what the archive has. -/
theorem holdsBinary_of_read {formats : ManifestFormats} {verified : VerifiedArchive}
    {w : AcquireWorld} {root file : Text} {identity : ReleaseIdentity}
    (hfile : ∃ entry, .ok entry ∈ verified.archive.entries
      ∧ normalizeArchivePath entry.pathBytes entry.entryType
        = .ok (below verified.plan.rootName file)
      ∧ w.contents (joinPath root file) = some entry.contents)
    (hread : ∃ bytes, w.contents (joinPath root file) = some bytes
      ∧ EmbeddedIdentity formats bytes identity.target identity.releaseTag identity) :
    HoldsBinary formats verified w root file identity := by
  obtain ⟨entry, hitem, hpath, hcontents⟩ := hfile
  obtain ⟨bytes, hbytes, hidentity⟩ := hread
  obtain rfl := Option.some.inj (hbytes.symm.trans hcontents)
  exact ⟨entry, hitem, hpath, hcontents, hidentity⟩

/-- A binary is read and compared; the world stays as it is. -/
theorem wpE_checkBinary {formats : ManifestFormats} {label : String} {binary : Text}
    {expected : ReleaseIdentity} {t : AcquireScene} :
    wpE (contract AcquireWorld.answer) (checkBinary formats label binary expected)
      (fun _ t' => Extends t t' ∧ t'.world = t.world ∧ ∃ bytes,
        t.world.contents binary = some bytes
          ∧ EmbeddedIdentity formats bytes expected.target expected.releaseTag expected)
      (fun _ t' => Extends t t') t := by
  unfold checkBinary readEmbeddedBinaryIdentity
  refine Program.wpE_bind.mpr (Program.wpE_bind.mpr (wpE_ask _ fun m => ?_))
  have hextends : Extends t (t.perform AcquireWorld.answer m (.readBinary binary)).2 := ⟨[_], rfl⟩
  have hworld : (t.perform AcquireWorld.answer m (.readBinary binary)).2.world = t.world := by
    simp only [Scene.perform, AcquireWorld.answer]
    split <;> rfl
  cases hanswer : (t.perform AcquireWorld.answer m (.readBinary binary)).1 with
  | error error => exact hextends
  | ok bytes =>
    have hcontents : t.world.contents binary = some bytes := by
      simp only [Scene.perform, AcquireWorld.answer] at hanswer
      split at hanswer
      · cases hanswer
      · rename_i found hfound
        rw [hfound]
        exact congrArg some (Except.ok.inj hanswer)
      · cases hanswer
    refine Program.wpE_bind.mpr ?_
    show wpE (contract AcquireWorld.answer) (ofFallible (parseEmbeddedBinaryIdentity formats bytes expected.target
      expected.releaseTag)) _ _ _
    cases hparsed : parseEmbeddedBinaryIdentity formats bytes expected.target
        expected.releaseTag with
    | error error => exact hextends
    | ok observed =>
      show wpE (contract AcquireWorld.answer) (if observed ≠ expected then _ else _) _ _ _
      split
      · exact hextends
      · rename_i hsame
        obtain rfl := not_not.1 hsame
        exact ⟨hextends, hworld, bytes, hcontents, parseEmbeddedBinaryIdentity_ok.1 hparsed⟩

/-! ## The run -/

/-- **A bundle that is returned.** It is unpacked below the staging directory as the archive has it,
and both binaries are of its identity. -/
structure VerifiedBundle (formats : AcquireFormats) (release : ReleaseInfo)
    (bundle : VerifiedReleaseBundle) (log : List AcquireEntry) (w : AcquireWorld) : Prop where
  verified : ∃ verified, Trusted formats release log verified
    ∧ bundle = ⟨joinPath verified.staging verified.plan.rootName, verified.identity⟩
    ∧ (∃ paths, ExtractedAll verified.staging verified.plan verified.archive.entries paths w.made)
    ∧ HoldsBinary formats.manifest verified w bundle.root "lg-buddy".toList verified.identity
    ∧ HoldsBinary formats.manifest verified w bundle.root guiBundlePath.toList
        verified.identity.gui

/-- The law of a run with its result, all its calls and what it leaves. -/
structure AcquisitionLaw (formats : AcquireFormats) (release : ReleaseInfo)
    (result : Except (Abrupt BundleAcquisitionError) VerifiedReleaseBundle)
    (log : List AcquireEntry) (w : AcquireWorld) : Prop where
  /-- Nothing is unpacked or read before the archive is trusted. -/
  guarded : ∀ before x after, log = before ++ x :: after → quiet x.call = false →
    ∃ verified, Trusted formats release before verified
  success : ∀ bundle, result = .ok bundle → VerifiedBundle formats release bundle log w

/-- Before the extraction nothing needs trust. -/
theorem guarded_of_quiet {formats : AcquireFormats} {release : ReleaseInfo}
    {front : List AcquireEntry} (hfront : ∀ x ∈ front, quiet x.call = true) :
    ∀ before x after, front = before ++ x :: after → quiet x.call = false →
      ∃ verified, Trusted formats release before verified := by
  intro before x after hsplit hx
  rw [hfront x (by simp [hsplit])] at hx
  cases hx

/-- From the verification on everything comes after it. -/
theorem guarded_of_trusted {formats : AcquireFormats} {release : ReleaseInfo}
    {front late : List AcquireEntry} {verified : VerifiedArchive}
    (hfront : ∀ x ∈ front, quiet x.call = true)
    (htrusted : Trusted formats release front verified) :
    ∀ before x after, front ++ late = before ++ x :: after → quiet x.call = false →
      ∃ verified, Trusted formats release before verified := by
  intro before x after hsplit hx
  -- the loud call stands behind the verification, or in a part where all is quiet
  rcases List.append_eq_append_iff.1 hsplit with ⟨more, rfl, -⟩ | ⟨more, rfl, hmore⟩
  · exact ⟨verified, htrusted.mono fun y hy => List.mem_append_left _ hy⟩
  · cases more with
    | nil =>
      rw [List.append_nil] at htrusted
      exact ⟨verified, htrusted⟩
    | cons y more =>
      obtain ⟨rfl, -⟩ := List.cons.inj hmore
      rw [hfront x (by simp)] at hx
      cases hx

/-- **Verified acquisition is sound**, whatever GitHub sends and the host answers. -/
theorem acquisition_is_sound (formats : AcquireFormats)
    (hsemver : formats.manifest.semver.Lawful) (release : ReleaseInfo)
    (moments : Nat → AcquireMoment) :
    AcquisitionLaw formats release
      (Program.Scripted.run AcquireWorld.answer moments
        (acquireReleaseBundle formats release).run {}).1
      (Program.Scripted.run AcquireWorld.answer moments
        (acquireReleaseBundle formats release).run {}).2.log
      (Program.Scripted.run AcquireWorld.answer moments
        (acquireReleaseBundle formats release).run {}).2.world := by
  refine Program.Scripted.run_spec AcquireWorld.answer
    (Q := fun result t => AcquisitionLaw formats release result t.log t.world) ?_ moments
  suffices hrun : wpE (contract AcquireWorld.answer) (acquireReleaseBundle formats release)
      (fun bundle t => AcquisitionLaw formats release (.ok bundle) t.log t.world)
      (fun error t => AcquisitionLaw formats release (.error error) t.log t.world) ⟨{}, []⟩ by
    refine Program.wp.mono (fun result t hpost => ?_) hrun
    cases result with
    | ok _ => exact hpost
    | error error => exact hpost
  unfold acquireReleaseBundle
  refine Observes.wpE (looks_verifyArchive formats release) ?_ ?_
  · intro error t made hquiet
    have hall : ∀ x ∈ t.log, quiet x.call = true := by
      rw [hquiet.log]
      exact fun x hx => (hquiet.calls x hx).1
    exact ⟨guarded_of_quiet hall, fun bundle hok => by cases hok⟩
  · intro verified t made hquiet htrusted
    have hlog : t.log = made := hquiet.log
    have hall : ∀ x ∈ t.log, quiet x.call = true := by
      rw [hlog]
      exact fun x hx => (hquiet.calls x hx).1
    rw [← hlog] at htrusted
    have hplan := htrusted.listing.rooted hsemver htrusted.root htrusted.version
    -- an error later on
    have herror : ∀ (error : Abrupt BundleAcquisitionError) (t' : AcquireScene), Extends t t' →
        AcquisitionLaw formats release (.error error) t'.log t'.world := by
      intro error t' hextends
      obtain ⟨late, hlate⟩ := hextends
      rw [hlate]
      exact ⟨guarded_of_trusted hall htrusted, fun bundle hok => by cases hok⟩
    have hmade : t.world.made = [] := by rw [hquiet.world]
    refine Program.wpE_bind.mpr (Program.wpE.mono ?_ herror (wpE_extraction hplan hmade))
    rintro _ t₁ ⟨hextends₁, rfl, honce, paths, hextracted⟩
    refine Program.wpE_bind.mpr (Program.wpE.mono ?_ ?_ wpE_checkBinary)
    · rintro _ t₂ ⟨hextends₂, hworld₂, hruntime⟩
      refine Program.wpE_bind.mpr (Program.wpE.mono ?_ ?_ wpE_checkBinary)
      · rintro _ t₃ ⟨hextends₃, hworld₃, hgui⟩
        obtain ⟨late, hlate⟩ := (hextends₁.trans hextends₂).trans hextends₃
        rw [hworld₂] at hgui hworld₃
        show AcquisitionLaw formats release _ t₃.log t₃.world
        rw [hlate, hworld₃]
        refine ⟨guarded_of_trusted hall htrusted, fun bundle hok => ?_⟩
        cases hok
        have hbinary := fun {file : String} (hfile : file ∈ requiredRelativeFiles) =>
          contents_of_extracted hplan htrusted.listing hextracted honce hfile
        refine ⟨verified, htrusted.mono fun x hx => List.mem_append_left _ hx, rfl,
          ⟨paths, hextracted⟩, ?_, ?_⟩
        · exact holdsBinary_of_read (hbinary (by decide)) hruntime
        · exact holdsBinary_of_read (hbinary (by decide)) hgui
      · intro error t' hextends
        exact herror error t' ((hextends₁.trans hextends₂).trans hextends)
    · intro error t' hextends
      exact herror error t' (hextends₁.trans hextends)

/-- The formats of an archive that is not unpacked. -/
def draftFormats : AcquireFormats where
  manifest := bundleFormats
  utf8Error _ := "invalid utf-8 sequence"
  sha256 _ := ""
  unpack _ := bundleArchive

def draftRelease : ReleaseInfo where
  version := bundleIdentity.version
  channel := .stable
  url := "https://github.com/Staphylococcus/LG_Buddy/releases/tag/v1.4.0"
  tagName := bundleIdentity.releaseTag
  assets := []

/-- GitHub gives the release as a draft, and nothing else is answered. -/
def draftMoment : AcquireMoment where
  answer
    | .createStaging => .ok "/var/tmp/bundle".toList
    | .getRelease tag => .ok ⟨tag, draftRelease.url, true, false, []⟩
    | .getReference _ | .getTag _ | .getAsset _ | .pin _ | .readBinary _ | .decode _ _ =>
      .error .cachePathUnavailable
    | .createDownload _ | .writeDownload _ _ | .syncDownload _ | .flushDownload _ | .extract _
    | .readInput _ => .error "not answered"

/-- A release that has become a draft is not acquired. -/
theorem acquisition_of_draft :
    let course := Program.Scripted.run AcquireWorld.answer (fun _ => draftMoment)
      (acquireReleaseBundle draftFormats draftRelease).run {}
    AcquisitionLaw draftFormats draftRelease course.1 course.2.log course.2.world
      ∧ course.1.isOk = false ∧ course.2.log.length = 2 := by
  refine ⟨acquisition_is_sound draftFormats publishedSemver_lawful draftRelease _, ?_, ?_⟩
  · decide +kernel
  · decide +kernel

end Acquire

end LgBuddy
