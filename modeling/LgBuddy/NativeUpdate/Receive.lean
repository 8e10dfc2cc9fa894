import LgBuddy.NativeUpdate.Package

/-!
# LgBuddy — receiving a native package

`receive_with` of `native_package.rs`: under privilege, the official release is read again, and a
package on the standard input is taken only if it is the published one.

* `prepareReceipt` — the release, the published digest and a new file;
* `receiveInput` — the input is copied, up to one byte more than the asset has;
* `receiveWith` — then the copy is compared with the asset and inspected;
* `Official`, `Copied` — what is known before the first read, and what the copy is;
* `wpE_receiveWith`, `receipt_is_published` — the law of every run;
* `writtenTo`, `PublishedFile` — the file that a receipt leaves is the published package.
-/

namespace LgBuddy

namespace NativePackage

open Acquire
open Program (Says says_one wpE)
open Program.Scripted (Observes Quietly contract wpE_ask)
open Fallible (bind_ok mapError_ok)

/-! ## The code -/

/-- The release that was confirmed, as far as its identity says. -/
def selectedRelease (expected : ReleaseIdentity) : ReleaseInfo where
  version := expected.version
  channel := expected.channel
  url := s!"https://github.com/{repositoryOwner}/{repositoryName}/releases/tag/"
    ++ expected.releaseTag
  tagName := expected.releaseTag
  assets := []

/-- `resolve_with`. -/
def resolveNative (formats : NativeFormats) (format : NativeFormat) (release : ReleaseInfo) :
    AcquireProgram (ReleaseInfo × ReleaseIdentity) := do
  let fresh ← freshRelease formats.semver release
  let name ← Acquire.orFail (format.assetName formats.semver fresh.version)
  let _ ← Acquire.orFail (selectNamedReleaseAssets fresh (String.ofList name))
  let identity ← resolveTagIdentity fresh
  return (fresh, identity)

def verifyPublishedDigest (formats : NativeFormats) (staging : Text) (selected : SelectedAssets) :
    AcquireProgram Unit := do
  let checksum ← downloadVerified formats.acquire.sha256 selected.checksum
    (joinPath staging checksumAssetName.toList) maxChecksumBytes
  let published ← Acquire.orFail
    (publishedArchiveDigest formats.acquire.utf8Error checksum selected.archive.name)
  let github ← Acquire.orFail (requiredGithubDigest selected.archive)
  if published ≠ github then
    failWith (.checksum "Native package and published checksum disagree")
  else return ()

/-- All that comes before the first read: the new file, and the asset that it has to be. -/
def prepareReceipt (formats : NativeFormats) (format : NativeFormat) (expected : ReleaseIdentity) :
    AcquireProgram (Text × ReleaseAsset) := do
  let staging ← Acquire.orFail (← ask .createStaging)
  let (fresh, identity) ← resolveNative formats format (selectedRelease expected)
  if identity ≠ expected then
    failWith (.releaseMetadata "Native release changed after confirmation")
  else do
    let name ← Acquire.orFail (format.assetName formats.semver expected.version)
    let selected ← Acquire.orFail (selectNamedReleaseAssets fresh (String.ofList name))
    verifyPublishedDigest formats staging selected
    let path := joinPath staging selected.archive.name.toList
    Acquire.orFail ((← ask (.createDownload path)).mapError .io)
    return (path, selected.archive)

/-- The loop over the input, of which so many bytes may still be read. -/
def receiveInput (path : Text) (remaining : Nat) (written : List UInt8) :
    AcquireProgram (List UInt8) :=
  if remaining = 0 then pure written
  else do
    let chunk ← Acquire.orFail ((← ask (.readInput (min 8192 remaining))).mapError .io)
    if chunk.bytes = [] then return written
    else do
      Acquire.orFail ((← ask (.writeDownload path chunk.bytes)).mapError .io)
      receiveInput path (remaining - chunk.bytes.length) (written ++ chunk.bytes)
termination_by remaining
decreasing_by
  have hlength := List.length_pos_of_ne_nil ‹¬ chunk.bytes = []›
  omega

def receiveWith (formats : NativeFormats) (format : NativeFormat) (expected : ReleaseIdentity) :
    AcquireProgram Text := do
  let (path, asset) ← prepareReceipt formats format expected
  let written ← receiveInput path (asset.size + 1) []
  Acquire.orFail (verifyDownload asset ⟨written.length, formats.acquire.sha256 written⟩)
  Acquire.orFail ((← ask (.flushDownload path)).mapError .io)
  verifyPackage formats written expected format
  return path

/-! ## Before the first read -/

/-- The asset is the package of the official release that has this identity, and the checksum file
of the release names the digest that GitHub gives for it. -/
structure Official (formats : NativeFormats) (format : NativeFormat) (expected : ReleaseIdentity)
    (asset : ReleaseAsset) (made : List AcquireEntry) : Prop where
  origin : ∃ fresh name selected checksum digest,
    Resolved formats.semver (selectedRelease expected) fresh expected made
      ∧ format.assetName formats.semver expected.version = .ok name
      ∧ Selected fresh (String.ofList name) selected
      ∧ selected.archive = asset
      ∧ Fetched formats.acquire.sha256 selected.checksum checksum made
      ∧ Publishes checksum asset.name digest
      ∧ GithubDigest asset digest

theorem Official.mono {formats : NativeFormats} {format : NativeFormat}
    {expected : ReleaseIdentity} {asset : ReleaseAsset} {made made' : List AcquireEntry}
    (h : Official formats format expected asset made) (hmade : ∀ x ∈ made, x ∈ made') :
    Official formats format expected asset made' := by
  obtain ⟨fresh, name, selected, checksum, digest, hresolved, hname, hselected, hasset, hfetched,
    hpublished⟩ := h.origin
  exact ⟨fresh, name, selected, checksum, digest, hresolved.mono hmade, hname, hselected, hasset,
    hfetched.mono hmade, hpublished⟩

theorem looks_resolveNative (formats : NativeFormats) (format : NativeFormat)
    (release : ReleaseInfo) :
    Looks (resolveNative formats format release) fun found made =>
      Resolved formats.semver release found.1 found.2 made := by
  unfold resolveNative
  refine Observes.bind (looks_freshRelease _ release) fun fresh made hfresh => ?_
  refine Looks.checked fun name _ => Looks.checked fun _ _ => ?_
  refine Observes.bind (looks_resolveTagIdentity fresh) fun identity made' htag => ?_
  refine Observes.pure ⟨hfresh.mono fun x hx => ?_, htag.1.mono fun x hx => ?_, htag.2⟩
  · simp [hx]
  · simp [hx]

theorem looks_verifyPublishedDigest (formats : NativeFormats) (staging : Text)
    (selected : SelectedAssets) :
    Looks (verifyPublishedDigest formats staging selected) fun _ made => ∃ checksum digest,
      Fetched formats.acquire.sha256 selected.checksum checksum made
        ∧ Publishes checksum selected.archive.name digest
        ∧ GithubDigest selected.archive digest := by
  unfold verifyPublishedDigest
  refine Observes.bind
    (looks_downloadVerified formats.acquire.sha256 selected.checksum _ (by decide))
    fun checksum made hchecksum => ?_
  refine Looks.checked fun published hpublished => Looks.checked fun github hgithub => ?_
  split
  · exact looks_failWith _
  · rename_i hsame
    obtain rfl := not_not.1 hsame
    refine Observes.pure ⟨checksum, published, ?_, publishes_of_ok hpublished,
      requiredGithubDigest_ok.1 hgithub⟩
    rw [List.append_nil]
    exact hchecksum

/-- What is known of the new file before the first read. -/
structure Prepared (formats : NativeFormats) (format : NativeFormat) (expected : ReleaseIdentity)
    (path : Text) (asset : ReleaseAsset) (made : List AcquireEntry) : Prop where
  official : Official formats format expected asset made
  staging : ∃ staging, Says made .createStaging (.ok staging)
    ∧ path = joinPath staging asset.name.toList
  /-- The file was made by the last of these calls. -/
  created : ∃ earlier w, made = earlier ++ [⟨w, .createDownload path, .ok (), w⟩]

theorem looks_prepareReceipt (formats : NativeFormats) (format : NativeFormat)
    (expected : ReleaseIdentity) :
    Looks (prepareReceipt formats format expected) fun found made =>
      Prepared formats format expected found.1 found.2 made := by
  unfold prepareReceipt
  refine Looks.asked rfl fun answer staging made₀ hmade₀ hstaging => ?_
  obtain rfl : answer = .ok staging := hstaging
  refine Observes.bind (looks_resolveNative formats format _) fun found made₁ hresolved => ?_
  obtain ⟨fresh, identity⟩ := found
  dsimp only
  split
  · exact looks_failWith _
  · rename_i hidentity
    obtain rfl := not_not.1 hidentity
    refine Looks.checked fun name hname => Looks.checked fun selected hselected => ?_
    refine Observes.bind (looks_verifyPublishedDigest formats staging selected)
      fun _ made₂ hpublished => ?_
    obtain ⟨checksum, digest, hfetched, hpublishes, hgithub⟩ := hpublished
    refine Observes.bind (P := fun answer made => ∃ w, made = [⟨w, .createDownload
      (joinPath staging selected.archive.name.toList), answer, w⟩])
      (looks_ask rfl fun w _ => ⟨w, rfl⟩) fun answer made₃ hmade₃ => ?_
    obtain ⟨w, rfl⟩ := hmade₃
    refine Looks.checked fun _ hcreated => ?_
    obtain rfl : answer = .ok () := mapError_ok.1 hcreated
    refine Observes.pure ⟨⟨fresh, name, selected, checksum, digest, hresolved.mono fun x hx => ?_,
      hname, selectNamedReleaseAssets_ok.1 hselected, rfl, hfetched.mono fun x hx => ?_,
      hpublishes, hgithub⟩, ⟨staging, hmade₀.mono fun x hx => ?_, rfl⟩,
      ⟨made₀ ++ (made₁ ++ made₂), w, by simp⟩⟩
    · simp [hx]
    · simp [hx]
    · simp [hx]

/-! ## The copy -/

/-- Reads and writes in turn, up to the end of the input or the limit. -/
inductive Copied (path : Text) : Nat → List UInt8 → List AcquireEntry → Prop
  | full : Copied path 0 [] []
  | ended {n limit : Nat} {w : AcquireWorld} {chunk : Chunk limit} (hend : chunk.bytes = []) :
      Copied path (n + 1) [] [⟨w, .readInput limit, .ok chunk, w⟩]
  | chunk {n limit : Nat} {w w' : AcquireWorld} {chunk : Chunk limit} {rest : List UInt8}
      {made : List AcquireEntry} (hchunk : chunk.bytes ≠ []) (hlimit : chunk.bytes.length ≤ n)
      (hrest : Copied path (n - chunk.bytes.length) rest made) :
      Copied path n (chunk.bytes ++ rest) (⟨w, .readInput limit, .ok chunk, w⟩ ::
        ⟨w', .writeDownload path chunk.bytes, .ok (), w'⟩ :: made)

/-- A copy that is shorter than the limit is all of the input. -/
theorem Copied.whole {path : Text} {n : Nat} {file : List UInt8} {made : List AcquireEntry}
    (h : Copied path n file made) (hlength : file.length < n) :
    ∃ (limit : Nat) (chunk : Chunk limit), chunk.bytes = []
      ∧ Says made (.readInput limit) (.ok chunk) := by
  induction h with
  | full => omega
  | ended hend => exact ⟨_, _, hend, says_one _⟩
  | chunk hchunk hlimit hrest ih =>
    rw [List.length_append] at hlength
    obtain ⟨limit, chunk, hend, hsays⟩ := ih (by omega)
    exact ⟨limit, chunk, hend, hsays.mono fun x hx => by simp [hx]⟩

/-- The calls of the copy. -/
def copies (path : Text) (call : AcquireCall) : Prop :=
  (∃ limit, call = .readInput limit) ∨ ∃ chunk, call = .writeDownload path chunk

/-- One call of the copy, in front of the rest. -/
theorem copies_asked {path : Text} {call : AcquireCall} (hcall : copies path call) {α β : Type}
    {f : call.Answer → Except BundleAcquisitionError α} {rest : α → AcquireProgram β}
    {R : β → List AcquireEntry → Prop}
    (hrest : ∀ w answer a, f answer = .ok a →
      Observes AcquireWorld.answer (copies path) (rest a) fun b made =>
        R b (⟨w, call, answer, w⟩ :: made)) :
    Observes AcquireWorld.answer (copies path)
      (ask call >>= fun answer => Acquire.orFail (f answer) >>= rest) R := by
  have hworld : ∀ m w, (AcquireWorld.answer m w call).2 = w := by
    intro m w
    rcases hcall with ⟨limit, rfl⟩ | ⟨chunk, rfl⟩
    · rfl
    · rfl
  refine Observes.bind (P := fun answer made => ∃ w, made = [⟨w, call, answer, w⟩])
    (Observes.ask hcall hworld fun w a => ⟨w, rfl⟩) fun answer made hmade => ?_
  obtain ⟨w, rfl⟩ := hmade
  refine Observes.bind (P := fun a made => made = [] ∧ f answer = .ok a)
    (Observes.ofExcept fun a ha => ⟨rfl, mapError_ok.1 ha⟩) fun a made ha => ?_
  obtain ⟨rfl, ha⟩ := ha
  exact hrest w answer a ha

/-- By induction on what may still be read; `written` is the copy so far. -/
theorem copies_receiveInput (path : Text) (remaining : Nat) (written : List UInt8) :
    Observes AcquireWorld.answer (copies path) (receiveInput path remaining written)
      fun all made => ∃ read, all = written ++ read ∧ Copied path remaining read made := by
  induction remaining using Nat.strong_induction_on generalizing written with
  | _ remaining ih =>
    unfold receiveInput
    split
    · rename_i hzero
      subst hzero
      exact Observes.pure ⟨[], (List.append_nil _).symm, .full⟩
    · rename_i hsome
      refine copies_asked (.inl ⟨_, rfl⟩) fun w answer chunk hchunk => ?_
      obtain rfl : answer = .ok chunk := mapError_ok.1 hchunk
      split
      · rename_i hend
        obtain ⟨n, rfl⟩ := Nat.exists_eq_succ_of_ne_zero hsome
        exact Observes.pure ⟨[], (List.append_nil _).symm, .ended hend⟩
      · rename_i hbytes
        have hlength := List.length_pos_of_ne_nil hbytes
        have hlimit : chunk.bytes.length ≤ remaining :=
          chunk.length_le.trans (Nat.min_le_right _ _)
        refine copies_asked (.inr ⟨_, rfl⟩) fun w' answer _ hwritten => ?_
        obtain rfl : answer = .ok () := mapError_ok.1 hwritten
        refine (ih (remaining - chunk.bytes.length) (by omega) _).mono fun all made hall => ?_
        obtain ⟨read, rfl, hcopied⟩ := hall
        exact ⟨chunk.bytes ++ read, List.append_assoc .., .chunk hbytes hlimit hcopied⟩

/-! ## The inspection -/

/-- The calls behind the copy. -/
def inspects (path : Text) (file : List UInt8) (call : AcquireCall) : Prop :=
  call = .flushDownload path ∨ ∃ decoder, call = .decode file decoder

theorem inspects_copy (formats : NativeFormats) (format : NativeFormat) (expected : ReleaseIdentity)
    (path : Text) (file : List UInt8) :
    Observes AcquireWorld.answer (inspects path file) (do
        Acquire.orFail ((← ask (.flushDownload path)).mapError .io)
        verifyPackage formats file expected format
        return path : AcquireProgram Text)
      fun found made => found = path ∧ VerifiedPackage formats file expected made format := by
  refine Observes.bind (P := fun _ _ => True)
    (Observes.ask (.inl rfl) (fun _ _ => rfl) fun _ _ => trivial) fun answer made₀ _ => ?_
  refine Observes.bind (P := fun _ _ => True)
    (Observes.ofExcept fun _ _ => trivial) fun _ made₁ _ => ?_
  have hpackage : Inspects file (verifyPackage formats file expected format) fun _ made =>
      VerifiedPackage formats file expected made format :=
    inspects_verifyPackage formats expected format
  have hallowed : ∀ call, (∃ decoder, call = .decode file decoder) → inspects path file call :=
    fun call hcall => .inr hcall
  refine Observes.bind (hpackage.weaken hallowed) fun _ made₂ hverified =>
    Observes.pure ⟨rfl, ?_⟩
  exact hverified.mono fun x hx => by simp [hx]

/-! ## The run -/

/-- Nothing is read before the asset is known, and no decoder sees anything but its bytes. -/
def Guarded (formats : NativeFormats) (format : NativeFormat) (expected : ReleaseIdentity)
    (log : List AcquireEntry) : Prop :=
  ∀ before x after, log = before ++ x :: after → quiet x.call = false →
    ∃ asset, Official formats format expected asset before
      ∧ ∀ file decoder, x.call = .decode file decoder →
        Downloaded asset ⟨file.length, formats.acquire.sha256 file⟩

/-- **A package that is received.** It is a copy of all of the input, has the length and the digest
of the published asset, and was inspected in that form; only reads and writes of the copy come
between. -/
structure Received (formats : NativeFormats) (format : NativeFormat) (expected : ReleaseIdentity)
    (path : Text) (log : List AcquireEntry) : Prop where
  parts : ∃ asset file front copied late,
    log = front ++ (copied ++ late)
      ∧ (∀ x ∈ front, quiet x.call = true)
      ∧ Prepared formats format expected path asset front
      ∧ Copied path (asset.size + 1) file copied
      ∧ (∃ (limit : Nat) (chunk : Chunk limit), chunk.bytes = []
        ∧ Says copied (.readInput limit) (.ok chunk))
      ∧ Downloaded asset ⟨file.length, formats.acquire.sha256 file⟩
      ∧ (∀ x ∈ late, inspects path file x.call)
      ∧ VerifiedPackage formats file expected late format

/-- The law of a run with its result and all its calls. -/
structure ReceiptLaw (formats : NativeFormats) (format : NativeFormat) (expected : ReleaseIdentity)
    (result : Except (Abrupt BundleAcquisitionError) Text) (log : List AcquireEntry) : Prop where
  guarded : Guarded formats format expected log
  received : ∀ path, result = .ok path → Received formats format expected path log

section Run

variable {formats : NativeFormats} {format : NativeFormat} {expected : ReleaseIdentity}
  {front later : List AcquireEntry} {asset : ReleaseAsset}

theorem guarded_front (hfront : ∀ x ∈ front, quiet x.call = true) :
    Guarded formats format expected front := by
  intro before x after hsplit hx
  rw [hfront x (by simp [hsplit])] at hx
  cases hx

theorem guarded_later (hfront : ∀ x ∈ front, quiet x.call = true)
    (hofficial : Official formats format expected asset front)
    (hlater : ∀ x ∈ later, ∀ file decoder, x.call = .decode file decoder →
      Downloaded asset ⟨file.length, formats.acquire.sha256 file⟩) :
    Guarded formats format expected (front ++ later) := by
  intro before x after hsplit hx
  rcases List.append_eq_append_iff.1 hsplit with ⟨more, rfl, hmore⟩ | ⟨more, rfl, hmore⟩
  · refine ⟨asset, hofficial.mono fun y hy => List.mem_append_left _ hy, ?_⟩
    exact hlater x (by simp [hmore])
  · cases more with
    | nil =>
      rw [List.append_nil] at hofficial
      refine ⟨asset, hofficial, ?_⟩
      rw [List.nil_append] at hmore
      exact hlater x (by rw [← hmore]; exact .head _)
    | cons y more =>
      obtain ⟨rfl, -⟩ := List.cons.inj hmore
      rw [hfront x (by simp)] at hx
      cases hx

end Run

/-- **Receipt.** The law holds behind the program, however its calls go. -/
theorem wpE_receiveWith (formats : NativeFormats) (format : NativeFormat)
    (expected : ReleaseIdentity) :
    wpE (contract AcquireWorld.answer) (receiveWith formats format expected)
      (fun path t => ReceiptLaw formats format expected (.ok path) t.log)
      (fun error t => ReceiptLaw formats format expected (.error error) t.log) ⟨{}, []⟩ := by
  unfold receiveWith
  refine Observes.wpE (looks_prepareReceipt formats format expected) ?_ ?_
  · intro error t made hquiet
    refine ⟨guarded_front fun x hx => ?_, fun path hok => by cases hok⟩
    rw [hquiet.log] at hx
    exact (hquiet.calls x hx).1
  · rintro ⟨path, asset⟩ t front hquiet hprepared
    have hlog : t.log = front := hquiet.log
    have hfront : ∀ x ∈ front, quiet x.call = true := fun x hx => (hquiet.calls x hx).1
    dsimp only
    -- an error behind these calls, among which a decoder has seen the bytes of the asset only
    have herror : ∀ (error : Abrupt BundleAcquisitionError) (t' : AcquireScene) (later),
        t'.log = front ++ later → (∀ x ∈ later, ∀ file decoder, x.call = .decode file decoder →
          Downloaded asset ⟨file.length, formats.acquire.sha256 file⟩) →
        ReceiptLaw formats format expected (.error error) t'.log := by
      intro error t' later hlater hdecoded
      rw [hlater]
      exact ⟨guarded_later hfront hprepared.official hdecoded, fun path hok => by cases hok⟩
    have hcopies : ∀ {copied : List AcquireEntry}, (∀ x ∈ copied, copies path x.call) →
        ∀ x ∈ copied, ∀ file decoder, x.call = .decode file decoder →
          Downloaded asset ⟨file.length, formats.acquire.sha256 file⟩ := by
      intro copied hall x hx file decoder hcall
      rcases hall x hx with ⟨limit, hread⟩ | ⟨chunk, hwrite⟩
      · rw [hread] at hcall
        cases hcall
      · rw [hwrite] at hcall
        cases hcall
    refine Observes.wpE (copies_receiveInput path (asset.size + 1) []) ?_ ?_
    · intro error t' copied hquiet'
      refine herror error t' copied (by rw [hquiet'.log, hlog]) (hcopies fun x hx => ?_)
      exact (hquiet'.calls x hx).1
    · intro file t' copied hquiet' hcopied
      obtain ⟨read, hread, hcopied⟩ := hcopied
      obtain rfl : file = read := hread
      have hlog' : t'.log = front ++ copied := by rw [hquiet'.log, hlog]
      have hcopied' := hcopies fun x hx => (hquiet'.calls x hx).1
      cases hverified : verifyDownload asset ⟨file.length, formats.acquire.sha256 file⟩ with
      | error error => exact herror _ t' copied hlog' hcopied'
      | ok _ =>
        have hdownloaded := verifyDownload_ok.1 hverified
        have hbytes : file.length = asset.size := hdownloaded.bytes
        -- from here on, the calls are the flush and the decoders
        have hdecoded : ∀ {late : List AcquireEntry}, (∀ x ∈ late, inspects path file x.call) →
            ∀ x ∈ copied ++ late, ∀ other decoder, x.call = .decode other decoder →
              Downloaded asset ⟨other.length, formats.acquire.sha256 other⟩ := by
          intro late hlate x hx other decoder hcall
          rcases List.mem_append.1 hx with hx | hx
          · exact hcopied' x hx other decoder hcall
          · rcases hlate x hx with hflush | ⟨_, hdecode⟩
            · rw [hflush] at hcall
              cases hcall
            · rw [hdecode] at hcall
              obtain ⟨rfl, -⟩ := AcquireCall.decode.inj hcall
              exact hdownloaded
        refine Program.wpE_bind.mpr ((Program.wpE_pure ()).mpr ?_)
        refine Program.wpE.mono ?_ ?_ (inspects_copy formats format expected path file t')
        · rintro _ t'' ⟨late, hquiet'', hfound, hpackage⟩
          have hlate : ∀ x ∈ late, inspects path file x.call :=
            fun x hx => (hquiet''.calls x hx).1
          have hall : t''.log = front ++ (copied ++ late) := by
            rw [hquiet''.log, hlog', List.append_assoc]
          rw [hall, hfound]
          refine ⟨guarded_later hfront hprepared.official (hdecoded hlate), fun path' hok => ?_⟩
          cases hok
          exact ⟨asset, file, front, copied, late, rfl, hfront, hprepared, hcopied,
            hcopied.whole (by omega), hdownloaded, hlate, hpackage⟩
        · rintro error t'' ⟨late, hquiet''⟩
          refine herror error t'' (copied ++ late) ?_ (hdecoded fun x hx => (hquiet''.calls x hx).1)
          rw [hquiet''.log, hlog', List.append_assoc]

/-- **Only the published package is received**, whatever comes on the standard input, whatever
GitHub sends and whatever the decoders write. -/
theorem receipt_is_published (formats : NativeFormats) (format : NativeFormat)
    (expected : ReleaseIdentity) (moments : Nat → AcquireMoment) :
    ReceiptLaw formats format expected
      (Program.Scripted.run AcquireWorld.answer moments
        (receiveWith formats format expected).run {}).1
      (Program.Scripted.run AcquireWorld.answer moments
        (receiveWith formats format expected).run {}).2.log := by
  refine Program.Scripted.run_spec AcquireWorld.answer
    (Q := fun result t => ReceiptLaw formats format expected result t.log) ?_ moments
  refine Program.wp.mono (fun result t hpost => ?_) (wpE_receiveWith formats format expected)
  cases result with
  | ok _ => exact hpost
  | error error => exact hpost

/-! ## The file that is left -/

/-- What a file holds behind one more call: it is empty when it is made, and grows with every
write. -/
def fileStep (path : Text) (contents : List UInt8) (x : AcquireEntry) : List UInt8 :=
  match x with
  | ⟨_, .createDownload created, .ok (), _⟩ => if created = path then [] else contents
  | ⟨_, .writeDownload written chunk, .ok (), _⟩ =>
    if written = path then contents ++ chunk else contents
  | _ => contents

def writtenTo (path : Text) (log : List AcquireEntry) : List UInt8 :=
  log.foldl (fileStep path) []

/-- Reads and writes in turn add what was copied. -/
theorem Copied.written {path : Text} {n : Nat} {file : List UInt8} {copied : List AcquireEntry}
    (h : Copied path n file copied) (contents : List UInt8) :
    copied.foldl (fileStep path) contents = contents ++ file := by
  induction h generalizing contents with
  | full => exact (List.append_nil _).symm
  | ended => exact (List.append_nil _).symm
  | @chunk _ _ _ _ chunk rest _ _ _ _ ih =>
    rw [List.foldl_cons, List.foldl_cons, ih, ← List.append_assoc]
    simp [fileStep]

/-- The flush and the decoders leave the file alone. -/
theorem inspects_fileStep {path : Text} {file : List UInt8} {late : List AcquireEntry}
    (h : ∀ x ∈ late, inspects path file x.call) (contents : List UInt8) :
    late.foldl (fileStep path) contents = contents := by
  induction late with
  | nil => rfl
  | cons x late ih =>
    have hx : fileStep path contents x = contents := by
      obtain ⟨w, call, answer, w'⟩ := x
      have hcall : inspects path file call := h _ (.head _)
      rcases hcall with rfl | ⟨decoder, rfl⟩
      · rfl
      · rfl
    rw [List.foldl_cons, hx]
    exact ih fun y hy => h y (.tail _ hy)

/-- The file at the path holds these bytes, and they are the published package: as long as its
asset, with the digest that GitHub and the checksum file of the release give, and inspected. -/
structure PublishedFile (formats : NativeFormats) (format : NativeFormat)
    (expected : ReleaseIdentity) (path : Text) (log : List AcquireEntry) (package : List UInt8) :
    Prop where
  received : Received formats format expected path log
  written : writtenTo path log = package
  published : ∃ asset, Official formats format expected asset log
    ∧ Downloaded asset ⟨package.length, formats.acquire.sha256 package⟩
  inspected : VerifiedPackage formats package expected log format

/-- **The file that a receipt leaves** is the published package. -/
theorem Received.publishedFile {formats : NativeFormats} {format : NativeFormat}
    {expected : ReleaseIdentity} {path : Text} {log : List AcquireEntry}
    (h : Received formats format expected path log) :
    PublishedFile formats format expected path log (writtenTo path log) := by
  obtain ⟨asset, file, front, copied, late, rfl, -, hprepared, hcopied, -, hdownloaded, hlate,
    hverified⟩ := h.parts
  have hwritten : writtenTo path (front ++ (copied ++ late)) = file := by
    obtain ⟨earlier, w, rfl⟩ := hprepared.created
    rw [writtenTo, List.foldl_append, List.foldl_append, List.foldl_append, inspects_fileStep hlate,
      hcopied.written]
    simp [fileStep]
  refine ⟨h, rfl, ⟨asset, hprepared.official.mono fun x hx => List.mem_append_left _ hx, ?_⟩, ?_⟩
  · rw [hwritten]
    exact hdownloaded
  · rw [hwritten]
    exact hverified.mono fun x hx => by simp [hx]

end NativePackage

end LgBuddy
