import LgBuddy.Machine.Exactly
import LgBuddy.Release.Acquisition
import LgBuddy.Text.Cut
import LgBuddy.Text.Utf8

/-!
# LgBuddy — the published checksums

`published_archive_digest` of `release_bundle.rs`: the digest that the checksum file gives for one
archive.

* `checksumEntry` — the digest and the name of a line;
* `checksumMatches`, `publishedArchiveDigest` — the loop over the lines, and the whole;
* `ChecksumLine`, `PublishedDigest` — the grammar, and what a file says about an archive;
* `published_archive_digest_iff` — the function gives exactly what the file says.
-/

namespace LgBuddy

open Str

/-! ## The function -/

/-- The bytes of a character that is not ASCII are no digits. -/
def validateSha256 (value : Text) : Except String Unit :=
  if utf8Len value ≠ 64 || !value.all isLowerHex then
    .error s!"`{String.ofList value}` is not a lowercase hexadecimal SHA-256 digest"
  else .ok ()

/-- The body of the loop for a line that is not empty. -/
def checksumEntry (number : Nat) (line : Text) : Except BundleAcquisitionError (Text × Text) :=
  if utf8Len line < 67 then .error (.checksum s!"line {number} is malformed")
  else match getTo 64 line with
    | none =>
      .error (.checksum s!"line {number} splits a UTF-8 character in the digest field")
    | some digest =>
      match validateSha256 digest with
      | .error message => .error (.checksum message)
      | .ok () =>
        match getRange 64 66 line with
        | none =>
          .error (.checksum s!"line {number} splits a UTF-8 character at the checksum separator")
        | some separator =>
          if separator ≠ "  ".toList ∧ separator ≠ " *".toList then
            .error (.checksum s!"line {number} has an unsupported checksum separator")
          else match getFrom 66 line with
            | none =>
              .error (.checksum s!"line {number} splits a UTF-8 character before the filename")
            | some name => .ok (digest, name)

/-- A name without one leading `./`. -/
def normalizedName (name : Text) : Text := (stripPrefix "./".toList name).getD name

def checksumMatches (archiveName : Text) (index : Nat) (found : List Text) :
    List Text → Except BundleAcquisitionError (List Text)
  | [] => .ok found
  | line :: rest =>
    if line.isEmpty then checksumMatches archiveName (index + 1) found rest
    else match checksumEntry (index + 1) line with
      | .error error => .error error
      | .ok (digest, name) =>
        checksumMatches archiveName (index + 1)
          (if normalizedName name = archiveName then found ++ [digest] else found) rest

/-- The contents are read up to one byte over the limit; `utf8Error` is the text of a
`Utf8Error`. -/
def publishedArchiveDigest (utf8Error : List UInt8 → String) (contents : List UInt8)
    (archiveName : String) : Except BundleAcquisitionError String :=
  let bytes := contents.take (maxChecksumBytes + 1)
  if bytes.length > maxChecksumBytes then
    .error (.responseTooLarge checksumAssetName maxChecksumBytes)
  else match fromUtf8 bytes with
    | none => .error (.checksum s!"checksum file is not valid UTF-8: {utf8Error bytes}")
    | some text =>
      match checksumMatches archiveName.toList 0 [] (lines text) with
      | .error error => .error error
      | .ok [digest] => .ok (String.ofList digest)
      | .ok [] => .error (.checksum s!"no entry names `{archiveName}`")
      | .ok _ => .error (.checksum s!"multiple entries name `{archiveName}`")

/-! ## The grammar -/

/-- A line of the checksum file: 64 digits, two separating characters, and a name. -/
structure ChecksumLine (line digest name : Text) : Prop where
  parts : line = digest ++ "  ".toList ++ name ∨ line = digest ++ " *".toList ++ name
  length : digest.length = 64
  hex : ∀ c ∈ digest, isLowerHex c = true
  named : name ≠ []

/-- The line at this place gives this digest for the archive. -/
def NamesArchive (text : Text) (archiveName : String) (index : Nat) (digest : Text) : Prop :=
  ∃ line name, (lines text)[index]? = some line ∧ ChecksumLine line digest name ∧
    normalizedName name = archiveName.toList

/-- **What a checksum file says about an archive.** Every line is well formed or empty, and
exactly one of them names the archive. -/
def PublishedDigest (contents : List UInt8) (archiveName : String) (digest : String) : Prop :=
  ∃ text, utf8Bytes text = contents ∧ contents.length ≤ maxChecksumBytes ∧
    (∀ line ∈ lines text, line ≠ [] → ∃ digest name, ChecksumLine line digest name) ∧
    ∃ index, NamesArchive text archiveName index digest.toList ∧
      ∀ other digest', NamesArchive text archiveName other digest' → other = index

/-! ## One line -/

theorem validateSha256_ok {value : Text} :
    validateSha256 value = .ok () ↔ value.length = 64 ∧ ∀ c ∈ value, isLowerHex c = true := by
  unfold validateSha256
  by_cases hhex : ∀ c ∈ value, isLowerHex c = true
  · have hlen : utf8Len value = value.length :=
      utf8Len_ascii fun c hc => isLowerHex_utf8Size (hhex c hc)
    simpa [hlen, List.all_eq_true.2 hhex] using fun _ => hhex
  · have hall : value.all isLowerHex = false := by
      rw [← Bool.not_eq_true, List.all_eq_true]
      exact hhex
    simp [hall, hhex]

theorem ChecksumLine.digestLen {line digest name : Text} (h : ChecksumLine line digest name) :
    utf8Len digest = 64 := by
  rw [utf8Len_ascii fun c hc => isLowerHex_utf8Size (h.hex c hc), h.length]

theorem ChecksumLine.separated {line digest name : Text} (h : ChecksumLine line digest name) :
    ∃ separator, (separator = "  ".toList ∨ separator = " *".toList) ∧
      line = digest ++ separator ++ name ∧ utf8Len separator = 2 := by
  cases h.parts with
  | inl hline => exact ⟨_, .inl rfl, hline, by decide⟩
  | inr hline => exact ⟨_, .inr rfl, hline, by decide⟩

/-- The three slices of a line make it up again. -/
theorem checksumLine_of_slices {line digest separator name : Text} (hlong : 67 ≤ utf8Len line)
    (hdigest : getTo 64 line = some digest) (hvalid : validateSha256 digest = .ok ())
    (hseparator : getRange 64 66 line = some separator)
    (hsupported : separator = "  ".toList ∨ separator = " *".toList)
    (hname : getFrom 66 line = some name) : ChecksumLine line digest name := by
  obtain ⟨behind, hline, hlen⟩ := getTo_eq_some.1 hdigest
  obtain ⟨before, rest, hranged, hstart, hstop⟩ := getRange_eq_some.1 hseparator
  obtain ⟨front, hnamed, hfront⟩ := getFrom_eq_some.1 hname
  have hbefore : digest = before := by
    have hparts : digest ++ behind = before ++ (separator ++ rest) := by
      rw [← hline, hranged, List.append_assoc]
    exact (parts_unique hparts (by omega)).1
  have hrest : name = rest := by
    have hparts : front ++ name = (before ++ separator) ++ rest := by rw [← hnamed, hranged]
    exact (parts_unique hparts (by omega)).2
  subst hbefore hrest
  obtain ⟨hlength, hhex⟩ := validateSha256_ok.1 hvalid
  refine ⟨?_, hlength, hhex, ?_⟩
  · cases hsupported with
    | inl h => exact .inl (h ▸ hranged)
    | inr h => exact .inr (h ▸ hranged)
  · intro hempty
    rw [hranged, hempty, List.append_nil, hstop] at hlong
    omega

/-- The checks of a line accept the grammar and nothing else. -/
theorem checksumEntry_ok {number : Nat} {line digest name : Text} :
    checksumEntry number line = .ok (digest, name) ↔ ChecksumLine line digest name := by
  constructor
  · intro h
    unfold checksumEntry at h
    split at h
    · cases h
    · rename_i hlong
      split at h
      · cases h
      · rename_i digest' hdigest
        split at h
        · cases h
        · rename_i hvalid
          split at h
          · cases h
          · rename_i separator hseparator
            split at h
            · cases h
            · rename_i hsupported
              split at h
              · cases h
              · rename_i name' hname
                obtain ⟨rfl, rfl⟩ := Prod.mk.inj (Except.ok.inj h)
                exact checksumLine_of_slices (by omega) hdigest hvalid hseparator
                  (by tauto) hname
  · intro h
    obtain ⟨separator, hseparator, hline, hlen⟩ := h.separated
    have hdigest := h.digestLen
    -- the other way: the line is long enough, and its three slices are the parts
    have hnamed : 0 < utf8Len name := by
      rw [Nat.pos_iff_ne_zero, Ne, utf8Len_eq_zero]
      exact h.named
    have hlong : ¬ utf8Len line < 67 := by
      rw [hline, utf8Len_append, utf8Len_append]
      omega
    have hto : getTo 64 line = some digest :=
      getTo_eq_some.2 ⟨separator ++ name, by rw [hline, List.append_assoc], hdigest⟩
    have hrange : getRange 64 66 line = some separator :=
      getRange_eq_some.2 ⟨digest, name, hline, hdigest, by rw [utf8Len_append]; omega⟩
    have hfrom : getFrom 66 line = some name :=
      getFrom_eq_some.2 ⟨digest ++ separator, hline, by rw [utf8Len_append]; omega⟩
    have hsupported : ¬ (separator ≠ "  ".toList ∧ separator ≠ " *".toList) := by tauto
    simp only [checksumEntry, if_neg hlong, hto, validateSha256_ok.2 ⟨h.length, h.hex⟩, hrange,
      if_neg hsupported, hfrom]

/-! ## All lines -/

/-- The digest of a line that names the archive. -/
def digestFor (archiveName : Text) (line : Text) : Option Text :=
  match checksumEntry 0 line with
  | .ok (digest, name) => if normalizedName name = archiveName then some digest else none
  | .error _ => none

theorem digestFor_eq_some {archiveName line digest : Text} :
    digestFor archiveName line = some digest ↔
      ∃ name, ChecksumLine line digest name ∧ normalizedName name = archiveName := by
  unfold digestFor
  constructor
  · intro h
    split at h
    · rename_i digest' name hentry
      split at h
      · rename_i hname
        rw [← Option.some.inj h]
        exact ⟨name, checksumEntry_ok.1 hentry, hname⟩
      · cases h
    · cases h
  · rintro ⟨name, hline, hname⟩
    rw [checksumEntry_ok.2 hline]
    exact if_pos hname

/-- The loop goes through only if every line is empty or well formed, and it finds the digests
of the lines that name the archive. -/
theorem checksumMatches_ok {archiveName : Text} {index : Nat} {found all : List Text}
    {rest : List Text} :
    checksumMatches archiveName index found rest = .ok all ↔
      (∀ line ∈ rest, line ≠ [] → ∃ digest name, ChecksumLine line digest name) ∧
        all = found ++ rest.filterMap (digestFor archiveName) := by
  induction rest generalizing index found with
  | nil => simp [checksumMatches, eq_comm]
  | cons line rest ih =>
    rw [checksumMatches]
    split
    · rename_i hempty
      obtain rfl := List.isEmpty_iff.1 hempty
      have hnone : digestFor archiveName [] = none := rfl
      rw [ih, List.filterMap_cons_none hnone]
      simp
    · rename_i hnonempty
      have hline : line ≠ [] := fun h => hnonempty (by rw [h]; rfl)
      split
      · rename_i error hentry
        simp only [reduceCtorEq, List.mem_cons, false_iff, not_and]
        intro hall
        obtain ⟨digest, name, hparts⟩ := hall line (.inl rfl) hline
        rw [checksumEntry_ok.2 hparts] at hentry
        cases hentry
      · rename_i digest name hentry
        have hparts := checksumEntry_ok.1 hentry
        have hfor : digestFor archiveName line
            = if normalizedName name = archiveName then some digest else none := by
          rw [digestFor, checksumEntry_ok.2 hparts]
        rw [ih, List.filterMap_cons, hfor]
        have hhead : ∃ digest name, ChecksumLine line digest name := ⟨digest, name, hparts⟩
        by_cases hname : normalizedName name = archiveName
        · simpa [hname] using fun _ _ _ => hhead
        · simpa [hname] using fun _ _ _ => hhead

/-- The number of digests that the loop finds decides about the result. -/
theorem publishedArchiveDigest_ok {utf8Error : List UInt8 → String} {contents : List UInt8}
    {archiveName digest : String} :
    publishedArchiveDigest utf8Error contents archiveName = .ok digest ↔
      ∃ text, utf8Bytes text = contents ∧ contents.length ≤ maxChecksumBytes ∧
        checksumMatches archiveName.toList 0 [] (lines text) = .ok [digest.toList] := by
  unfold publishedArchiveDigest
  constructor
  · intro h
    dsimp only at h
    split at h
    · cases h
    · rename_i hbytes
      have hlen : contents.length ≤ maxChecksumBytes := by
        rw [List.length_take] at hbytes
        omega
      rw [List.take_of_length_le (by omega)] at h
      split at h
      · cases h
      · rename_i text htext
        refine ⟨text, fromUtf8_eq_some.1 htext, hlen, ?_⟩
        split at h
        · cases h
        · rename_i found hfound
          rw [hfound, ← Except.ok.inj h, String.toList_ofList]
        · cases h
        · cases h
  · rintro ⟨text, htext, hlen, hmatches⟩
    have htake : contents.take (maxChecksumBytes + 1) = contents :=
      List.take_of_length_le (by omega)
    simp only [htake, if_neg (Nat.not_lt.2 hlen), fromUtf8_eq_some.2 htext, hmatches,
      String.ofList_toList]

/-- **The grammar of the checksum file.** The function gives a digest exactly when the file says
it; for every other file it fails. No slice at a byte offset of the source goes through a
character. -/
theorem published_archive_digest_iff (utf8Error : List UInt8 → String) (contents : List UInt8)
    (archiveName : String) :
    (∀ digest, publishedArchiveDigest utf8Error contents archiveName = .ok digest ↔
        PublishedDigest contents archiveName digest) ∧
      ((∀ digest, ¬ PublishedDigest contents archiveName digest) →
        ∃ error, publishedArchiveDigest utf8Error contents archiveName = .error error) ∧
      ∀ (line part : Text),
        (getTo 64 line = some part ∨ getRange 64 66 line = some part ∨
            getFrom 66 line = some part) →
          ∃ before behind, line = before ++ part ++ behind := by
  have hiff : ∀ digest, publishedArchiveDigest utf8Error contents archiveName = .ok digest ↔
      PublishedDigest contents archiveName digest := by
    intro digest
    rw [publishedArchiveDigest_ok]
    -- the matches of the loop are a single one exactly where one line names the archive
    have hfound : ∀ text : Text,
        [digest.toList] = (lines text).filterMap (digestFor archiveName.toList) ↔
          ∃ index, NamesArchive text archiveName index digest.toList ∧
            ∀ other digest', NamesArchive text archiveName other digest' → other = index := by
      intro text
      rw [eq_comm, filterMap_eq_singleton]
      simp only [digestFor_eq_some]
      constructor
      · rintro ⟨index, line, hline, ⟨name, hparts, hname⟩, honly⟩
        refine ⟨index, ⟨line, name, hline, hparts, hname⟩, ?_⟩
        rintro other digest' ⟨line', name', hline', hparts', hname'⟩
        exact honly other line' digest' hline' ⟨name', hparts', hname'⟩
      · rintro ⟨index, ⟨line, name, hline, hparts, hname⟩, honly⟩
        refine ⟨index, line, hline, ⟨name, hparts, hname⟩, ?_⟩
        rintro other line' digest' hline' ⟨name', hparts', hname'⟩
        exact honly other digest' ⟨line', name', hline', hparts', hname'⟩
    constructor
    · rintro ⟨text, htext, hlen, hmatches⟩
      obtain ⟨hlines, hall⟩ := checksumMatches_ok.1 hmatches
      exact ⟨text, htext, hlen, hlines, (hfound text).1 hall⟩
    · rintro ⟨text, htext, hlen, hlines, hnames⟩
      exact ⟨text, htext, hlen, checksumMatches_ok.2 ⟨hlines, (hfound text).2 hnames⟩⟩
  refine ⟨hiff, ?_, ?_⟩
  · intro hnone
    cases hresult : publishedArchiveDigest utf8Error contents archiveName with
    | error error => exact ⟨error, rfl⟩
    | ok digest => exact absurd ((hiff digest).1 hresult) (hnone digest)
  -- the three slices of the code are parts of the line
  · intro line part hslice
    rcases hslice with hto | hrange | hfrom
    · obtain ⟨behind, hline, -⟩ := getTo_eq_some.1 hto
      exact ⟨[], behind, hline⟩
    · obtain ⟨before, behind, hline, -⟩ := getRange_eq_some.1 hrange
      exact ⟨before, behind, hline⟩
    · obtain ⟨before, hline, -⟩ := getFrom_eq_some.1 hfrom
      exact ⟨before, [], by rw [hline, List.append_nil]⟩

end LgBuddy
