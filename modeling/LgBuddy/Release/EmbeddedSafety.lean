import LgBuddy.Release.Embedded
import LgBuddy.Text.SemverGrammar
import Mathlib.Data.List.Infix

/-!
# LgBuddy — the identity in a binary: what is accepted

The reader of the identity section against the format that it reads.

* `SectionTable`, `NameAt`, `IdentityRecord` — the section of an ELF file that holds the identity;
* `embeddedIdentitySection_ok` — the reader finds exactly that section, and never panics;
* `EmbeddedIdentity` — what an accepted binary is;
* `embedded_identity_law` — the parser accepts nothing else, and panics on the one record in which
  the two marks share a byte.
-/

namespace LgBuddy

open Fallible

/-! ## The format -/

/-- A number, little endian, at an offset. -/
def fieldAt (bytes : List UInt8) (offset width : Nat) : Nat :=
  leNat (range offset (offset + width) bytes)

/-- The numbers of the file header. -/
def sectionTable (bytes : List UInt8) : SectionTable where
  offset := fieldAt bytes 40 8
  entrySize := fieldAt bytes 58 2
  count := fieldAt bytes 60 2
  namesIndex := fieldAt bytes 62 2

def SectionTable.header (table : SectionTable) (bytes : List UInt8) (index : Nat) : ElfSection :=
  let offset := table.offset + table.entrySize * index
  ⟨fieldAt bytes offset 4, fieldAt bytes (offset + 4) 4, fieldAt bytes (offset + 24) 8,
    fieldAt bytes (offset + 32) 8⟩

/-- The table lies in the file, and its end is a number of 64 bits. -/
structure SectionTable.Inside (table : SectionTable) (bytes : List UInt8) : Prop where
  fileHeader : 64 ≤ bytes.length
  entrySize : 64 ≤ table.entrySize
  count : table.count ≤ 4096
  names : table.namesIndex < table.count
  inside : table.offset + table.entrySize * table.count ≤ bytes.length
  fits : table.offset + table.entrySize * table.count < 2 ^ 64

/-- The section lies in the file, and its end is a number of 64 bits. -/
def ElfSection.Inside (header : ElfSection) (bytes : List UInt8) : Prop :=
  header.offset + header.size ≤ bytes.length ∧ header.offset + header.size < 2 ^ 64

def ElfSection.contents (header : ElfSection) (bytes : List UInt8) : List UInt8 :=
  range header.offset (header.offset + header.size) bytes

/-- The name that begins at an offset of the name table. -/
def NameAt (names : List UInt8) (offset : Nat) (name : List UInt8) : Prop :=
  ∃ before rest, names = before ++ (name ++ 0 :: rest) ∧ before.length = offset ∧ 0 ∉ name

/-- **The record of a file.** The table lies in the file, every section has a name, and exactly
one section is named `.lg_buddy.identity`; it is of type PROGBITS, not too large, lies in the
file, and holds this record. -/
structure IdentityRecord (bytes record : List UInt8) : Prop where
  table : (sectionTable bytes).Inside bytes
  namesKind : ((sectionTable bytes).header bytes (sectionTable bytes).namesIndex).kind = 3
  namesInside : ((sectionTable bytes).header bytes (sectionTable bytes).namesIndex).Inside bytes
  named : ∀ index < (sectionTable bytes).count, ∃ name,
    NameAt (((sectionTable bytes).header bytes (sectionTable bytes).namesIndex).contents bytes)
      ((sectionTable bytes).header bytes index).name name
  found : ∃ index < (sectionTable bytes).count,
    NameAt (((sectionTable bytes).header bytes (sectionTable bytes).namesIndex).contents bytes)
        ((sectionTable bytes).header bytes index).name embeddedIdentityName ∧
      ((sectionTable bytes).header bytes index).kind = 1 ∧
      ((sectionTable bytes).header bytes index).size ≤ maxManifestBytes + 256 ∧
      ((sectionTable bytes).header bytes index).Inside bytes ∧
      ((sectionTable bytes).header bytes index).contents bytes = record ∧
      ∀ other < (sectionTable bytes).count,
        NameAt (((sectionTable bytes).header bytes (sectionTable bytes).namesIndex).contents bytes)
          ((sectionTable bytes).header bytes other).name embeddedIdentityName → other = index

/-! ## Reading the file -/

variable {bytes names : List UInt8} {table : SectionTable}

/-- A field is read exactly if it lies within the file. -/
theorem elfField_ok {width offset n : Nat} {message : String} :
    elfField width message bytes offset = .ok n ↔
      offset + width < 2 ^ 64 ∧ offset + width ≤ bytes.length ∧ fieldAt bytes offset width = n := by
  unfold elfField addUsize
  split
  · rename_i hfits
    rw [ok_bind, okOr_eq_ok, Option.map_eq_some_iff]
    simp only [getSlice_eq_some]
    constructor
    · rintro ⟨part, ⟨⟨-, hinside⟩, rfl⟩, rfl⟩
      exact ⟨hfits, hinside, rfl⟩
    · rintro ⟨-, hinside, rfl⟩
      exact ⟨_, ⟨⟨by omega, hinside⟩, rfl⟩, rfl⟩
  · rename_i hfits
    constructor
    · intro h
      obtain ⟨stop, hstop, -⟩ := bind_ok.1 h
      cases hstop
    · rintro ⟨hsmall, -⟩
      exact absurd hsmall hfits

/-- Reading one panics only where its end has no number. -/
theorem elfField_ne_panic {width offset : Nat} {message : String} (h : offset + width < 2 ^ 64) :
    elfField width message bytes offset ≠ panic := by
  rw [elfField, addUsize_eq h, ok_bind]
  exact okOr_ne_panic

/-- What is read is the field at that place. -/
theorem elfField_eq {width offset : Nat} {message : String} (hfits : offset + width < 2 ^ 64)
    (hinside : offset + width ≤ bytes.length) :
    elfField width message bytes offset = .ok (fieldAt bytes offset width) :=
  elfField_ok.2 ⟨hfits, hinside, rfl⟩

/-- A section header of a table in the file is read without an error. -/
theorem elfSectionHeader_eq (h : table.Inside bytes) {index : Nat} (hindex : index < table.count) :
    elfSectionHeader bytes table.offset table.entrySize index = .ok (table.header bytes index) := by
  have hfits := h.fits
  have hinside := h.inside
  have hentry := h.entrySize
  have hstep : table.entrySize * index + table.entrySize ≤ table.entrySize * table.count := by
    calc table.entrySize * index + table.entrySize = table.entrySize * (index + 1) :=
        (Nat.mul_succ _ _).symm
      _ ≤ table.entrySize * table.count := Nat.mul_le_mul_left _ hindex
  have hmul : checkedMul table.entrySize index = some (table.entrySize * index) :=
    if_pos (by omega)
  have hadd : checkedAdd table.offset (table.entrySize * index)
      = some (table.offset + table.entrySize * index) := if_pos (by omega)
  simp only [elfSectionHeader, hmul, hadd, okOr, ok_bind, elfU32, elfU64]
  rw [elfField_eq (by omega) (by omega), ok_bind, addUsize_eq (by omega), ok_bind,
    elfField_eq (by omega) (by omega), ok_bind, addUsize_eq (by omega), ok_bind,
    elfField_eq (by omega) (by omega), ok_bind, addUsize_eq (by omega), ok_bind,
    elfField_eq (by omega) (by omega), ok_bind]
  rfl

/-- A slice is taken exactly if its end has a number and lies within the file. -/
theorem checkedElfSlice_ok {offset size : Nat} {label : String} {record : List UInt8} :
    checkedElfSlice bytes offset size label = .ok record ↔
      (offset + size ≤ bytes.length ∧ offset + size < 2 ^ 64) ∧
        range offset (offset + size) bytes = record := by
  unfold checkedElfSlice
  rw [bind_ok]
  simp only [okOr_eq_ok, Option.filter_eq_some_iff, getSlice_eq_some, checkedAdd]
  constructor
  · rintro ⟨stop, ⟨hadd, hinside⟩, -, hrange⟩
    split at hadd
    · rename_i hfits
      obtain rfl := Option.some.inj hadd
      exact ⟨⟨by simpa using hinside, hfits⟩, hrange⟩
    · cases hadd
  · rintro ⟨⟨hinside, hfits⟩, hrange⟩
    exact ⟨offset + size, ⟨if_pos hfits, by simpa using hinside⟩, ⟨by omega, hinside⟩, hrange⟩

/-- Taking a slice never panics. -/
theorem checkedElfSlice_ne_panic {offset size : Nat} {label : String} :
    checkedElfSlice bytes offset size label ≠ panic := by
  intro h
  unfold checkedElfSlice at h
  cases bind_panic.1 h with
  | inl h => exact okOr_ne_panic h
  | inr h =>
    obtain ⟨_, -, h⟩ := h
    exact okOr_ne_panic h

/-! ## Names -/

/-- The names from a place on. -/
theorem range_to_end (offset : Nat) : range offset names.length names = names.drop offset := by
  unfold range
  rw [List.take_of_length_le (by simp)]

/-- The end of a name is in the table, so that it is cut off without a panic. -/
theorem sectionName_eq {offset : Nat} {tail : List UInt8} {stop : Nat}
    (htail : getSlice offset names.length names = some tail)
    (hstop : tail.findIdx? (· == 0) = some stop) :
    sectionName names offset = .ok (tail.take stop) := by
  have hlt : stop < tail.length := (List.findIdx?_eq_some_iff_getElem.1 hstop).1
  have hslice : (slice 0 stop tail : Fallible BundleAcquisitionError _) = .ok (tail.take stop) := by
    unfold slice
    rw [if_pos ⟨by omega, by omega⟩]
    rfl
  rw [sectionName, htail, okOr, ok_bind, hstop, okOr, ok_bind, hslice]

/-- A name is what stands between its offset and the next zero byte. -/
theorem sectionName_ok {offset : Nat} {name : List UInt8} :
    sectionName names offset = .ok name ↔ NameAt names offset name := by
  constructor
  · intro h
    have hcases := h
    unfold sectionName at hcases
    obtain ⟨tail, htail, hrest⟩ := bind_ok.1 hcases
    obtain ⟨stop, hstop, -⟩ := bind_ok.1 hrest
    rw [okOr_eq_ok] at htail hstop
    rw [sectionName_eq htail hstop] at h
    obtain ⟨⟨hoffset, -⟩, htail⟩ := getSlice_eq_some.1 htail
    rw [range_to_end] at htail
    subst htail
    -- the name ends at the first NUL behind the offset
    obtain ⟨hlt, hzero, hbefore⟩ := List.findIdx?_eq_some_iff_getElem.1 hstop
    refine ⟨names.take offset, (names.drop offset).drop (stop + 1), ?_, ?_, ?_⟩
    · rw [← Except.ok.inj h]
      have hnul : (names.drop offset)[stop] = 0 := by simpa using hzero
      have hdrop : (names.drop offset).drop stop = 0 :: (names.drop offset).drop (stop + 1) := by
        rw [List.drop_eq_getElem_cons hlt, hnul]
      rw [← hdrop, List.take_append_drop, List.take_append_drop]
    · rw [List.length_take]
      omega
    · rw [← Except.ok.inj h]
      intro hmem
      obtain ⟨place, hplace, hnul⟩ := List.getElem_of_mem hmem
      have hshort : place < stop := by
        rw [List.length_take] at hplace
        omega
      rw [List.getElem_take] at hnul
      simpa [hnul] using hbefore place hshort
  · rintro ⟨before, rest, rfl, rfl, hname⟩
    have htail : getSlice before.length (before ++ (name ++ 0 :: rest)).length
        (before ++ (name ++ 0 :: rest)) = some (name ++ 0 :: rest) := by
      rw [getSlice_eq_some, range_to_end, List.drop_left]
      exact ⟨⟨by simp, le_refl _⟩, rfl⟩
    have hstop : (name ++ 0 :: rest).findIdx? (· == 0) = some name.length := by
      rw [List.findIdx?_eq_some_iff_getElem]
      refine ⟨by simp, by simp, ?_⟩
      intro place hplace
      rw [List.getElem_append_left hplace]
      have hne : name[place] ≠ 0 := fun heq => hname (heq ▸ List.getElem_mem hplace)
      simpa using hne
    rw [sectionName_eq htail hstop, List.take_left]

/-- Reading a section's name never panics. -/
theorem sectionName_ne_panic {offset : Nat} : sectionName names offset ≠ panic := by
  intro h
  have hcases := h
  unfold sectionName at hcases
  cases bind_panic.1 hcases with
  | inl htail => exact okOr_ne_panic htail
  | inr htail =>
    obtain ⟨tail, htail, hrest⟩ := htail
    cases bind_panic.1 hrest with
    | inl hstop => exact okOr_ne_panic hstop
    | inr hstop =>
      obtain ⟨stop, hstop, -⟩ := hstop
      rw [sectionName_eq (okOr_eq_ok.1 htail) (okOr_eq_ok.1 hstop)] at h
      exact ok_ne_panic h

/-! ## The loop over the sections -/

/-- A section that may hold the identity. -/
structure ElfSection.Sound (header : ElfSection) (bytes : List UInt8) : Prop where
  kind : header.kind = 1
  size : header.size ≤ maxManifestBytes + 256
  inside : header.Inside bytes

/-- The contents of a section that is named `.lg_buddy.identity`. -/
def identityOf (bytes names : List UInt8) (table : SectionTable) (index : Nat) :
    Option (List UInt8) :=
  match sectionName names (table.header bytes index).name with
  | .ok name =>
    if name = embeddedIdentityName then some ((table.header bytes index).contents bytes) else none
  | .error _ => none

/-- A section gives the identity if it has the name and these contents. -/
theorem identityOf_eq_some {index : Nat} {record : List UInt8} :
    identityOf bytes names table index = some record ↔
      NameAt names (table.header bytes index).name embeddedIdentityName ∧
        (table.header bytes index).contents bytes = record := by
  rw [← sectionName_ok]
  unfold identityOf
  cases sectionName names (table.header bytes index).name with
  | error h => simp
  | ok name => simp

/-- The loop goes through exactly if every section has a name and the ones with the name of the
identity are sound; it has found their contents, which is at most one. -/
theorem identitySections_ok (htable : table.Inside bytes) {identity out : Option (List UInt8)}
    {indices : List Nat} (hindices : ∀ index ∈ indices, index < table.count) :
    identitySections bytes names table.offset table.entrySize identity indices = .ok out ↔
      (∀ index ∈ indices, ∃ name, NameAt names (table.header bytes index).name name) ∧
        (∀ index ∈ indices, NameAt names (table.header bytes index).name embeddedIdentityName →
          (table.header bytes index).Sound bytes) ∧
        out.toList = identity.toList ++ indices.filterMap (identityOf bytes names table) := by
  induction indices generalizing identity with
  | nil =>
    rw [identitySections]
    simp only [List.not_mem_nil, false_implies, implies_true, true_and, List.filterMap_nil,
      List.append_nil, Except.ok.injEq]
    cases identity with
    | none => cases out <;> simp
    | some record => cases out <;> simp [eq_comm]
  | cons index rest ih =>
    have hrest : ∀ i ∈ rest, i < table.count := fun i hi => hindices i (.tail _ hi)
    rw [identitySections, elfSectionHeader_eq htable (hindices index (.head _)), ok_bind]
    cases hname : sectionName names (table.header bytes index).name with
    | error h =>
      have hunnamed : ¬ ∃ name, NameAt names (table.header bytes index).name name := by
        rintro ⟨name, hat⟩
        rw [sectionName_ok.2 hat] at hname
        cases hname
      constructor
      · intro h
        obtain ⟨_, h, -⟩ := bind_ok.1 h
        cases h
      · rintro ⟨hall, -⟩
        exact absurd (hall index (.head _)) hunnamed
    | ok name =>
      have hat := sectionName_ok.1 hname
      rw [ok_bind]
      by_cases hother : name = embeddedIdentityName
      · subst hother
        have hof : identityOf bytes names table index
            = some ((table.header bytes index).contents bytes) := identityOf_eq_some.2 ⟨hat, rfl⟩
        rw [if_neg (by simp), List.filterMap_cons_some hof]
        by_cases hsound : (table.header bytes index).Sound bytes
        · have hkind : ¬ ((table.header bytes index).kind ≠ 1 ∨
              (table.header bytes index).size > maxManifestBytes + 256) := by
            have hsize := hsound.size
            simp only [hsound.kind, ne_eq, not_true_eq_false, false_or]
            omega
          have hslice : checkedElfSlice bytes (table.header bytes index).offset
              (table.header bytes index).size "embedded identity section"
                = .ok ((table.header bytes index).contents bytes) :=
            checkedElfSlice_ok.2 ⟨hsound.inside, rfl⟩
          rw [if_neg hkind, hslice, ok_bind]
          cases identity with
          | none =>
            rw [if_neg (by simp), ih hrest]
            simp only [List.forall_mem_cons, Option.toList_some, Option.toList_none,
              List.nil_append, List.cons_append]
            have hnamed : ∃ name, NameAt names (table.header bytes index).name name := ⟨_, hat⟩
            tauto
          | some record =>
            rw [if_pos (by rfl)]
            simp only [fail_ne_ok, false_iff]
            rintro ⟨-, -, hlist⟩
            -- two contents do not fit one option
            cases out <;> simp at hlist
        · constructor
          · intro h
            split at h
            · exact absurd h fail_ne_ok
            · rename_i hkind
              obtain ⟨record, hslice, -⟩ := bind_ok.1 h
              refine absurd ?_ hsound
              rw [not_or, not_not] at hkind
              exact ⟨hkind.1, by omega, (checkedElfSlice_ok.1 hslice).1⟩
          · rintro ⟨-, hall, -⟩
            exact absurd (hall index (.head _) hat) hsound
      · have hof : identityOf bytes names table index = none := by
          rw [identityOf, hname]
          exact if_neg hother
        have hunnamed : ¬ NameAt names (table.header bytes index).name embeddedIdentityName := by
          intro hidentity
          rw [sectionName_ok.2 hidentity] at hname
          exact hother (Except.ok.inj hname).symm
        rw [if_pos hother, ih hrest, List.filterMap_cons_none hof]
        simp only [List.forall_mem_cons]
        have hnamed : ∃ name, NameAt names (table.header bytes index).name name := ⟨_, hat⟩
        tauto

/-- Going through the sections of a table within the file never panics. By induction on their
indices. -/
theorem identitySections_ne_panic (htable : table.Inside bytes) {identity : Option (List UInt8)}
    {indices : List Nat} (hindices : ∀ index ∈ indices, index < table.count) :
    identitySections bytes names table.offset table.entrySize identity indices ≠ panic := by
  induction indices generalizing identity with
  | nil => exact ok_ne_panic
  | cons index rest ih =>
    have hrest : ∀ i ∈ rest, i < table.count := fun i hi => hindices i (.tail _ hi)
    rw [identitySections, elfSectionHeader_eq htable (hindices index (.head _)), ok_bind]
    intro h
    cases bind_panic.1 h with
    | inl h => exact sectionName_ne_panic h
    | inr h =>
      obtain ⟨name, -, h⟩ := h
      split at h
      · exact ih hrest h
      · split at h
        · exact fail_ne_panic h
        · cases bind_panic.1 h with
          | inl h => exact checkedElfSlice_ne_panic h
          | inr h =>
            obtain ⟨record, -, h⟩ := h
            split at h
            · exact fail_ne_panic h
            · exact ih hrest h

/-! ## The section -/

/-- The table is found exactly if it lies within the file, with all the header's conditions. -/
theorem elfSectionTable_ok :
    elfSectionTable bytes = .ok table ↔ sectionTable bytes = table ∧ table.Inside bytes := by
  constructor
  · intro h
    simp only [elfSectionTable, elfU64, elfU16, bind_ok] at h
    obtain ⟨offset, hoffset, entrySize, hentry, count, hcount, namesIndex, hnames, h⟩ := h
    split at h
    · exact absurd h fail_ne_ok
    · rename_i hvalid
      simp only [bind_ok] at h
      obtain ⟨size, hsize, stop, hstop, htable⟩ := h
      -- the four fields read, and the checked arithmetic over them
      obtain ⟨-, hlength, rfl⟩ := elfField_ok.1 hnames
      obtain ⟨-, -, rfl⟩ := elfField_ok.1 hoffset
      obtain ⟨-, -, rfl⟩ := elfField_ok.1 hentry
      obtain ⟨-, -, rfl⟩ := elfField_ok.1 hcount
      obtain ⟨rfl, -⟩ := checkedMul_eq_some.1 (okOr_eq_ok.1 hsize)
      obtain ⟨hadd, hinside⟩ := Option.filter_eq_some_iff.1 (okOr_eq_ok.1 hstop)
      obtain ⟨rfl, hfits⟩ := checkedAdd_eq_some.1 hadd
      obtain rfl := Except.ok.inj htable
      simp only [not_or, Nat.not_lt, ge_iff_le, Nat.not_le] at hvalid
      obtain ⟨hwide, -, hmany, hindex⟩ := hvalid
      exact ⟨rfl, by omega, hwide, hmany, hindex, by simpa using hinside, hfits⟩
  · rintro ⟨rfl, h⟩
    have hlength := h.fileHeader
    have hentry := h.entrySize
    have hcount := h.count
    have hnames := h.names
    have hfits := h.fits
    have hvalid : ¬ (fieldAt bytes 58 2 < 64 ∨ fieldAt bytes 60 2 = 0 ∨
        fieldAt bytes 60 2 > 4096 ∨ fieldAt bytes 62 2 ≥ fieldAt bytes 60 2) := by
      simp only [sectionTable] at hentry hcount hnames
      omega
    have hmul := checkedMul_eq_some.2 ⟨rfl, Nat.lt_of_le_of_lt (Nat.le_add_left _ _) hfits⟩
    have hadd := checkedAdd_eq_some.2 ⟨rfl, hfits⟩
    rw [elfSectionTable, elfU64, elfU16, elfField_eq (by decide) (by omega), ok_bind,
      elfField_eq (by decide) (by omega), ok_bind, elfField_eq (by decide) (by omega), ok_bind,
      elfField_eq (by decide) (by omega), ok_bind, if_neg hvalid]
    have hinside := h.inside
    simp only [sectionTable] at hmul hadd hinside
    have hstop := Option.filter_eq_some_iff (p := (· ≤ bytes.length)).2
      ⟨hadd, by simpa using hinside⟩
    rw [hmul, okOr, ok_bind, hstop]
    rfl

/-- Looking for the section table never panics. -/
theorem elfSectionTable_ne_panic : elfSectionTable bytes ≠ panic := by
  intro h
  unfold elfSectionTable elfU64 elfU16 at h
  rcases bind_panic.1 h with h | ⟨_, -, h⟩
  · exact elfField_ne_panic (by decide) h
  rcases bind_panic.1 h with h | ⟨_, -, h⟩
  · exact elfField_ne_panic (by decide) h
  rcases bind_panic.1 h with h | ⟨_, -, h⟩
  · exact elfField_ne_panic (by decide) h
  rcases bind_panic.1 h with h | ⟨_, -, h⟩
  · exact elfField_ne_panic (by decide) h
  split at h
  · exact fail_ne_panic h
  rcases bind_panic.1 h with h | ⟨_, -, h⟩
  · exact okOr_ne_panic h
  rcases bind_panic.1 h with h | ⟨_, -, h⟩
  · exact okOr_ne_panic h
  exact ok_ne_panic h

/-- The place in a range is the number there. -/
theorem range_getElem? {n place x : Nat} (h : (List.range n)[place]? = some x) :
    place < n ∧ x = place := by
  obtain ⟨hplace, hx⟩ := List.getElem?_eq_some_iff.1 h
  rw [List.getElem_range] at hx
  exact ⟨by simpa using hplace, hx.symm⟩

/-- **The reader finds exactly the section of the format.** -/
theorem embeddedIdentitySection_ok {record : List UInt8} :
    embeddedIdentitySection bytes = .ok record ↔ IdentityRecord bytes record := by
  have hrange : ∀ (n : Nat), ∀ index ∈ List.range n, index < n := fun n index => List.mem_range.1
  constructor
  · intro h
    simp only [embeddedIdentitySection, bind_ok] at h
    obtain ⟨table, htable, header, hheader, h⟩ := h
    obtain ⟨rfl, hinside⟩ := elfSectionTable_ok.1 htable
    rw [elfSectionHeader_eq hinside hinside.names] at hheader
    obtain rfl := Except.ok.inj hheader
    split at h
    · exact absurd h fail_ne_ok
    · rename_i hkind
      simp only [bind_ok, okOr_eq_ok] at h
      obtain ⟨names, hnames, identity, hidentity, rfl⟩ := h
      obtain ⟨hnamesInside, rfl⟩ := checkedElfSlice_ok.1 hnames
      obtain ⟨hnamed, hsound, hlist⟩ := (identitySections_ok hinside (hrange _)).1 hidentity
      -- the one identity found is that of one section
      obtain ⟨place, index, hplace, hof, honly⟩ := filterMap_eq_singleton.1 hlist.symm
      obtain ⟨hindex, rfl⟩ := range_getElem? hplace
      obtain ⟨hat, hcontents⟩ := identityOf_eq_some.1 hof
      have hfound := hsound _ (List.mem_range.2 hindex) hat
      refine ⟨hinside, not_not.1 hkind, hnamesInside, fun i hi => hnamed i (List.mem_range.2 hi),
        index, hindex, hat, hfound.kind, hfound.size, hfound.inside, hcontents, ?_⟩
      intro other hother hotherAt
      exact honly other other _ (List.getElem?_range hother) (identityOf_eq_some.2 ⟨hotherAt, rfl⟩)
  · intro h
    have hinside := h.table
    obtain ⟨index, hindex, hat, hkind, hsize, hfound, hcontents, honly⟩ := h.found
    have hsound : ∀ other ∈ List.range (sectionTable bytes).count,
        NameAt (((sectionTable bytes).header bytes (sectionTable bytes).namesIndex).contents bytes)
          ((sectionTable bytes).header bytes other).name embeddedIdentityName →
        ((sectionTable bytes).header bytes other).Sound bytes := by
      intro other hother hotherAt
      obtain rfl := honly other (List.mem_range.1 hother) hotherAt
      exact ⟨hkind, hsize, hfound⟩
    -- the other way: the loop over the sections finds this one and no other
    have hlist : (List.range (sectionTable bytes).count).filterMap (identityOf bytes
        (((sectionTable bytes).header bytes (sectionTable bytes).namesIndex).contents bytes)
        (sectionTable bytes)) = [record] := by
      apply filterMap_eq_singleton.2
      refine ⟨index, index, List.getElem?_range hindex, identityOf_eq_some.2 ⟨hat, hcontents⟩, ?_⟩
      intro place other other' hplace hof
      obtain ⟨hother, rfl⟩ := range_getElem? hplace
      exact honly other hother (identityOf_eq_some.1 hof).1
    have hidentity : identitySections bytes
        (((sectionTable bytes).header bytes (sectionTable bytes).namesIndex).contents bytes)
        (sectionTable bytes).offset (sectionTable bytes).entrySize none
        (List.range (sectionTable bytes).count) = .ok (some record) :=
      (identitySections_ok hinside (hrange _)).2
        ⟨fun i hi => h.named i (List.mem_range.1 hi), hsound, by rw [hlist]; rfl⟩
    have hnames : checkedElfSlice bytes
        ((sectionTable bytes).header bytes (sectionTable bytes).namesIndex).offset
        ((sectionTable bytes).header bytes (sectionTable bytes).namesIndex).size
        "section-name table"
          = .ok (((sectionTable bytes).header bytes (sectionTable bytes).namesIndex).contents
              bytes) := checkedElfSlice_ok.2 ⟨h.namesInside, rfl⟩
    rw [embeddedIdentitySection, elfSectionTable_ok.2 ⟨rfl, hinside⟩, ok_bind,
      elfSectionHeader_eq hinside hinside.names, ok_bind, if_neg (not_not.2 h.namesKind), hnames,
      ok_bind, hidentity]
    rfl

/-- **No panic.** Not one in the whole search. -/
theorem embeddedIdentitySection_ne_panic : embeddedIdentitySection bytes ≠ panic := by
  intro h
  rcases bind_panic.1 h with h | ⟨table, htable, h⟩
  · exact elfSectionTable_ne_panic h
  obtain ⟨rfl, hinside⟩ := elfSectionTable_ok.1 htable
  rw [elfSectionHeader_eq hinside hinside.names, ok_bind] at h
  split at h
  · exact fail_ne_panic h
  rcases bind_panic.1 h with h | ⟨names, -, h⟩
  · exact checkedElfSlice_ne_panic h
  rcases bind_panic.1 h with h | ⟨identity, -, h⟩
  · exact identitySections_ne_panic hinside (fun index => List.mem_range.1) h
  exact okOr_ne_panic h

/-! ## The identity -/

/-- The record in which the two marks share the byte between them. -/
def overlappingMarks : List UInt8 := embeddedIdentityPrefix ++ embeddedIdentitySuffix.tail

/-- **An accepted binary.** Its record is a manifest between the two marks, which names no GUI,
and the identity in it has the given target and tag. -/
structure EmbeddedIdentity (formats : ManifestFormats) (bytes : List UInt8)
    (target releaseTag : String) (identity : ReleaseIdentity) : Prop where
  elf : isX86Elf bytes = true
  payload : ∃ payload,
    IdentityRecord bytes (embeddedIdentityPrefix ++ payload ++ embeddedIdentitySuffix) ∧
      parseManifestDocument formats payload = .ok ⟨identity, none⟩
  target : identity.target = target
  releaseTag : identity.releaseTag = releaseTag

theorem length_embeddedIdentityPrefix : embeddedIdentityPrefix.length = 29 := by decide

theorem length_embeddedIdentitySuffix : embeddedIdentitySuffix.length = 31 := by decide

/-- The marks share a byte of a record that is too short for both in one way only. -/
theorem eq_overlappingMarks {record : List UInt8} (hopens : embeddedIdentityPrefix <+: record)
    (hsuffix : embeddedIdentitySuffix <:+ record) (hshort : record.length < 60) :
    record = overlappingMarks := by
  obtain ⟨front, rfl⟩ := hsuffix
  have hfront : front.length < 29 := by
    rw [List.length_append, length_embeddedIdentitySuffix] at hshort
    omega
  have hpart : front <+: embeddedIdentityPrefix :=
    List.prefix_of_prefix_length_le (List.prefix_append _ _) hopens
      (by rw [length_embeddedIdentityPrefix]; omega)
  rw [List.prefix_iff_eq_take] at hopens hpart
  have honly : ∀ n < 29, embeddedIdentityPrefix
      = ((embeddedIdentityPrefix.take n) ++ embeddedIdentitySuffix).take 29 → n = 28 := by decide
  rw [length_embeddedIdentityPrefix, hpart] at hopens
  have hlength := honly front.length hfront hopens
  rw [hpart, hlength]
  decide

/-- A record that is long enough for both marks has something between them. -/
theorem between_marks {record : List UInt8} (hopens : embeddedIdentityPrefix <+: record)
    (hsuffix : embeddedIdentitySuffix <:+ record) (hlong : 60 ≤ record.length) :
    ∃ payload, record = embeddedIdentityPrefix ++ payload ++ embeddedIdentitySuffix := by
  obtain ⟨rest, rfl⟩ := hopens
  have hrest : embeddedIdentitySuffix <:+ rest := by
    apply List.suffix_of_suffix_length_le hsuffix (List.suffix_append _ _)
    rw [List.length_append, length_embeddedIdentityPrefix] at hlong
    rw [length_embeddedIdentitySuffix]
    omega
  obtain ⟨payload, rfl⟩ := hrest
  exact ⟨payload, (List.append_assoc _ _ _).symm⟩

/-- What stands between prefix and suffix is the payload. -/
theorem slice_between (payload : List UInt8) :
    (slice embeddedIdentityPrefix.length
      ((embeddedIdentityPrefix ++ payload ++ embeddedIdentitySuffix).length
        - embeddedIdentitySuffix.length)
      (embeddedIdentityPrefix ++ payload ++ embeddedIdentitySuffix) :
        Fallible BundleAcquisitionError _) = .ok payload := by
  have hstop : (embeddedIdentityPrefix ++ payload ++ embeddedIdentitySuffix).length
      - embeddedIdentitySuffix.length = embeddedIdentityPrefix.length + payload.length := by
    simp only [List.length_append]
    omega
  rw [hstop, slice, if_pos ⟨by omega, by simp only [List.length_append]; omega⟩, range,
    List.append_assoc, List.drop_left, Nat.add_sub_cancel_left, List.take_left]

/-- What follows once the record is found. -/
theorem parseEmbeddedBinaryIdentity_record {formats : ManifestFormats} {target releaseTag : String}
    {payload : List UInt8} (helf : isX86Elf bytes = true)
    (hrecord : IdentityRecord bytes
      (embeddedIdentityPrefix ++ payload ++ embeddedIdentitySuffix)) :
    parseEmbeddedBinaryIdentity formats bytes target releaseTag
      = payloadIdentity formats payload target releaseTag := by
  have hmarks : ¬ (¬ embeddedIdentityPrefix <+:
        embeddedIdentityPrefix ++ payload ++ embeddedIdentitySuffix ∨
      ¬ embeddedIdentitySuffix <:+
        embeddedIdentityPrefix ++ payload ++ embeddedIdentitySuffix) := by
    rw [not_or, not_not, not_not, List.append_assoc]
    refine ⟨List.prefix_append _ _, ?_⟩
    rw [← List.append_assoc]
    exact List.suffix_append _ _
  have hstop : (subUsize (embeddedIdentityPrefix ++ payload ++ embeddedIdentitySuffix).length
      embeddedIdentitySuffix.length : Fallible BundleAcquisitionError Nat)
        = .ok ((embeddedIdentityPrefix ++ payload ++ embeddedIdentitySuffix).length
          - embeddedIdentitySuffix.length) :=
    if_pos (by rw [List.length_append]; omega)
  rw [parseEmbeddedBinaryIdentity, if_neg (by simp [helf]),
    embeddedIdentitySection_ok.2 hrecord, ok_bind, if_neg hmarks, hstop, ok_bind, slice_between,
    ok_bind]

/-- The payload is a manifest without files, for this target and tag. -/
theorem payloadIdentity_ok {formats : ManifestFormats} {payload : List UInt8}
    {target releaseTag : String} {identity : ReleaseIdentity} :
    payloadIdentity formats payload target releaseTag = .ok identity ↔
      parseManifestDocument formats payload = .ok ⟨identity, none⟩ ∧
        identity.target = target ∧ identity.releaseTag = releaseTag := by
  rw [← parseManifest_ok]
  unfold payloadIdentity
  cases parseManifest formats payload with
  | error error => simp
  | ok parsed =>
    simp only [Except.ok.injEq]
    constructor
    · intro h
      split at h
      · exact absurd h fail_ne_ok
      · rename_i hsame
        rw [not_or, not_not, not_not] at hsame
        obtain rfl := Except.ok.inj h
        exact ⟨rfl, hsame⟩
    · rintro ⟨rfl, rfl, rfl⟩
      rw [if_neg (by simp)]

/-- Reading the identity of a payload never panics. -/
theorem payloadIdentity_ne_panic {formats : ManifestFormats} {payload : List UInt8}
    {target releaseTag : String} : payloadIdentity formats payload target releaseTag ≠ panic := by
  unfold payloadIdentity
  split
  · exact fail_ne_panic
  · split
    · exact fail_ne_panic
    · exact ok_ne_panic

/-- The marks of the record, once they are accepted: something is between them, or they share a
byte. -/
theorem record_cases {formats : ManifestFormats} {target releaseTag : String}
    {outcome : Fallible BundleAcquisitionError ReleaseIdentity}
    (h : parseEmbeddedBinaryIdentity formats bytes target releaseTag = outcome)
    (hfail : ∀ error, outcome ≠ fail error) :
    isX86Elf bytes = true ∧ (IdentityRecord bytes overlappingMarks ∨
      ∃ payload, IdentityRecord bytes
        (embeddedIdentityPrefix ++ payload ++ embeddedIdentitySuffix)) := by
  unfold parseEmbeddedBinaryIdentity at h
  split at h
  · exact absurd h.symm (hfail _)
  · rename_i helf
    refine ⟨by simpa using helf, ?_⟩
    cases hsection : embeddedIdentitySection bytes with
    | error abrupt =>
      rw [hsection] at h
      cases abrupt with
      | error error => exact absurd h.symm (hfail error)
      | panic => exact absurd hsection embeddedIdentitySection_ne_panic
    | ok record =>
      have hrecord := embeddedIdentitySection_ok.1 hsection
      rw [hsection, ok_bind] at h
      split at h
      · exact absurd h.symm (hfail _)
      · rename_i hmarks
        rw [not_or, not_not, not_not] at hmarks
        by_cases hshort : record.length < 60
        · left
          rw [← eq_overlappingMarks hmarks.1 hmarks.2 hshort]
          exact hrecord
        · right
          obtain ⟨payload, rfl⟩ := between_marks hmarks.1 hmarks.2 (by omega)
          exact ⟨payload, hrecord⟩

/-- The range between marks that share a byte is backwards. -/
theorem parseEmbeddedBinaryIdentity_overlapping {formats : ManifestFormats}
    {target releaseTag : String} (helf : isX86Elf bytes = true)
    (hrecord : IdentityRecord bytes overlappingMarks) :
    parseEmbeddedBinaryIdentity formats bytes target releaseTag = panic := by
  have hmarks : ¬ (¬ embeddedIdentityPrefix <+: overlappingMarks ∨
      ¬ embeddedIdentitySuffix <:+ overlappingMarks) := by decide
  have hstop : (subUsize overlappingMarks.length embeddedIdentitySuffix.length :
      Fallible BundleAcquisitionError Nat) = .ok 28 := by decide
  have hslice : (slice embeddedIdentityPrefix.length 28 overlappingMarks :
      Fallible BundleAcquisitionError _) = panic := by decide
  rw [parseEmbeddedBinaryIdentity, if_neg (by simp [helf]), embeddedIdentitySection_ok.2 hrecord,
    ok_bind, if_neg hmarks, hstop, ok_bind, hslice]
  rfl

/-- **The parser accepts exactly the binaries of the format.** -/
theorem parseEmbeddedBinaryIdentity_ok {formats : ManifestFormats} {target releaseTag : String}
    {identity : ReleaseIdentity} :
    parseEmbeddedBinaryIdentity formats bytes target releaseTag = .ok identity ↔
      EmbeddedIdentity formats bytes target releaseTag identity := by
  constructor
  · intro h
    obtain ⟨helf, hrecord⟩ := record_cases h fun error => fail_ne_ok.symm
    cases hrecord with
    | inl hoverlap =>
      rw [parseEmbeddedBinaryIdentity_overlapping helf hoverlap] at h
      cases h
    | inr hpayload =>
      obtain ⟨payload, hrecord⟩ := hpayload
      rw [parseEmbeddedBinaryIdentity_record helf hrecord] at h
      obtain ⟨hparsed, htarget, htag⟩ := payloadIdentity_ok.1 h
      exact ⟨helf, ⟨payload, hrecord, hparsed⟩, htarget, htag⟩
  · rintro ⟨helf, ⟨payload, hrecord, hparsed⟩, htarget, htag⟩
    rw [parseEmbeddedBinaryIdentity_record helf hrecord]
    exact payloadIdentity_ok.2 ⟨hparsed, htarget, htag⟩

/-- **Safe and exact.** The parser does not panic, by a range, an index or an overflow, and what
it accepts is a binary of the format. -/
def ParserSafe (formats : ManifestFormats) (bytes : List UInt8) (target releaseTag : String) :
    Prop :=
  parseEmbeddedBinaryIdentity formats bytes target releaseTag ≠ panic ∧
    ∀ identity, parseEmbeddedBinaryIdentity formats bytes target releaseTag = .ok identity →
      EmbeddedIdentity formats bytes target releaseTag identity

/-- **When the parser is safe.** It is, for all binaries but the ones whose record is the two marks
with one byte between them that belongs to both. -/
theorem embedded_identity_law (formats : ManifestFormats) (bytes : List UInt8)
    (target releaseTag : String) :
    ParserSafe formats bytes target releaseTag ↔
      ¬ (isX86Elf bytes = true ∧ IdentityRecord bytes overlappingMarks) := by
  constructor
  · rintro ⟨hsafe, -⟩ ⟨helf, hrecord⟩
    exact hsafe (parseEmbeddedBinaryIdentity_overlapping helf hrecord)
  · intro h
    refine ⟨?_, fun identity => parseEmbeddedBinaryIdentity_ok.1⟩
    intro hpanic
    obtain ⟨helf, hrecord⟩ := record_cases hpanic fun error => fail_ne_panic.symm
    cases hrecord with
    | inl hoverlap => exact h ⟨helf, hoverlap⟩
    | inr hpayload =>
      obtain ⟨payload, hrecord⟩ := hpayload
      rw [parseEmbeddedBinaryIdentity_record helf hrecord] at hpanic
      exact payloadIdentity_ne_panic hpanic

/-! ## A binary with overlapping marks -/

/-- `to_le_bytes`. -/
def leBytes (width n : Nat) : List UInt8 :=
  (List.range width).map fun place => UInt8.ofNat (n / 256 ^ place)

def sectionHeaderBytes (header : ElfSection) : List UInt8 :=
  leBytes 4 header.name ++ leBytes 4 header.kind ++ leBytes 16 0 ++ leBytes 8 header.offset
    ++ leBytes 8 header.size ++ leBytes 24 0

/-- An ELF file with a name table and an identity section. -/
def identityBinary (record : List UInt8) : List UInt8 :=
  let names : List UInt8 := 0 :: embeddedIdentityName ++ [0]
  [0x7f, 0x45, 0x4c, 0x46, 2, 1] ++ leBytes 12 0 ++ leBytes 2 62 ++ leBytes 20 0 ++ leBytes 8 64
    ++ leBytes 10 0 ++ leBytes 2 64 ++ leBytes 2 2 ++ leBytes 2 0
    ++ sectionHeaderBytes ⟨0, 3, 192, names.length⟩
    ++ sectionHeaderBytes ⟨1, 1, 192 + names.length, record.length⟩
    ++ names ++ record

/-- The parser panics on a well-formed ELF file of 271 bytes. -/
theorem overlapping_marks_panic :
    ¬ ∀ (formats : ManifestFormats) (bytes : List UInt8) (target releaseTag : String),
      ParserSafe formats bytes target releaseTag := by
  intro hall
  have hsafe := hall ⟨fun _ => .error "", fun _ => "", publishedSemver⟩
    (identityBinary overlappingMarks) releaseTarget "v1.4.0"
  apply (embedded_identity_law _ _ _ _).1 hsafe
  refine ⟨by decide +kernel, embeddedIdentitySection_ok.1 ?_⟩
  decide +kernel

end LgBuddy
