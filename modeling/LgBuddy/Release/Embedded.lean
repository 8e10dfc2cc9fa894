import LgBuddy.Machine.Exactly
import LgBuddy.Machine.Fallible
import LgBuddy.Release.Manifest

/-!
# LgBuddy — the identity in a binary

`parse_embedded_binary_identity` of `release_bundle.rs`: the ELF section that holds a manifest of
its own between two marks.

* `elfU16`, `elfU32`, `elfU64`, `elfSectionHeader` — reading the file;
* `embeddedIdentitySection` — the contents of the section;
* `parseEmbeddedBinaryIdentity` — the manifest in it.
-/

namespace LgBuddy

open Fallible

def embeddedIdentityPrefix : List UInt8 := Str.utf8Bytes "LG_BUDDY_RELEASE_IDENTITY_V1\x00".toList

def embeddedIdentitySuffix : List UInt8 :=
  Str.utf8Bytes "\x00LG_BUDDY_RELEASE_IDENTITY_END\x00".toList

def embeddedIdentityName : List UInt8 := Str.utf8Bytes ".lg_buddy.identity".toList

/-! ## Reading the file -/

/-- `from_le_bytes`. -/
def leNat (bytes : List UInt8) : Nat := bytes.foldr (fun byte n => byte.toNat + 256 * n) 0

def elfField (width : Nat) (message : String) (bytes : List UInt8) (offset : Nat) :
    Fallible BundleAcquisitionError Nat := do
  let stop ← addUsize offset width
  okOr (.binary message) ((getSlice offset stop bytes).map leNat)

def elfU16 : List UInt8 → Nat → Fallible BundleAcquisitionError Nat :=
  elfField 2 "ELF header is truncated"

def elfU32 : List UInt8 → Nat → Fallible BundleAcquisitionError Nat :=
  elfField 4 "ELF section header is truncated"

def elfU64 : List UInt8 → Nat → Fallible BundleAcquisitionError Nat :=
  elfField 8 "ELF header is truncated"

/-- What is read of a section header: where the name is, the type, the offset and the size. -/
structure ElfSection where
  name : Nat
  kind : Nat
  offset : Nat
  size : Nat
  deriving DecidableEq, Repr

def elfSectionHeader (bytes : List UInt8) (tableOffset entrySize index : Nat) :
    Fallible BundleAcquisitionError ElfSection := do
  let step ← okOr (.binary "ELF section offset overflowed") (checkedMul entrySize index)
  let offset ← okOr (.binary "ELF section offset is invalid") (checkedAdd tableOffset step)
  let name ← elfU32 bytes offset
  let kind ← addUsize offset 4 >>= elfU32 bytes
  let start ← addUsize offset 24 >>= elfU64 bytes
  let size ← addUsize offset 32 >>= elfU64 bytes
  .ok ⟨name, kind, start, size⟩

def checkedElfSlice (bytes : List UInt8) (offset size : Nat) (label : String) :
    Fallible BundleAcquisitionError (List UInt8) := do
  let stop ← okOr (.binary s!"ELF {label} extends beyond the file")
    ((checkedAdd offset size).filter (· ≤ bytes.length))
  okOr (.binary s!"ELF {label} range is invalid") (getSlice offset stop bytes)

/-! ## The section -/

/-- The name at an offset of the name table, up to the byte that ends it. -/
def sectionName (names : List UInt8) (offset : Nat) :
    Fallible BundleAcquisitionError (List UInt8) := do
  let tail ← okOr (.binary "ELF section name points outside the name table")
    (getSlice offset names.length names)
  let stop ← okOr (.binary "ELF section name is not terminated") (tail.findIdx? (· == 0))
  slice 0 stop tail

/-- The loop over the sections; `identity` is what is found so far. -/
def identitySections (bytes names : List UInt8) (tableOffset entrySize : Nat)
    (identity : Option (List UInt8)) :
    List Nat → Fallible BundleAcquisitionError (Option (List UInt8))
  | [] => .ok identity
  | index :: rest => do
    let header ← elfSectionHeader bytes tableOffset entrySize index
    let name ← sectionName names header.name
    if name ≠ embeddedIdentityName then
      identitySections bytes names tableOffset entrySize identity rest
    else if header.kind ≠ 1 ∨ header.size > maxManifestBytes + 256 then
      fail (.binary "embedded identity ELF section has an invalid type or size")
    else do
      let record ← checkedElfSlice bytes header.offset header.size "embedded identity section"
      if identity.isSome then
        fail (.binary "binary has multiple embedded identity sections")
      else identitySections bytes names tableOffset entrySize (some record) rest

/-- Where the file header says that the section table is. -/
structure SectionTable where
  offset : Nat
  entrySize : Nat
  count : Nat
  namesIndex : Nat
  deriving DecidableEq, Repr

/-- The first part of `embedded_identity_section`. -/
def elfSectionTable (bytes : List UInt8) : Fallible BundleAcquisitionError SectionTable := do
  let sectionOffset ← elfU64 bytes 40
  let sectionEntrySize ← elfU16 bytes 58
  let sectionCount ← elfU16 bytes 60
  let namesIndex ← elfU16 bytes 62
  if sectionEntrySize < 64 ∨ sectionCount = 0 ∨ sectionCount > 4096
      ∨ namesIndex ≥ sectionCount then
    fail (.binary "binary has an invalid ELF section table")
  else do
    let size ← okOr (.binary "ELF section table size overflowed")
      (checkedMul sectionEntrySize sectionCount)
    let _ ← okOr (.binary "ELF section table extends beyond the file")
      ((checkedAdd sectionOffset size).filter (· ≤ bytes.length))
    .ok ⟨sectionOffset, sectionEntrySize, sectionCount, namesIndex⟩

def embeddedIdentitySection (bytes : List UInt8) :
    Fallible BundleAcquisitionError (List UInt8) := do
  let table ← elfSectionTable bytes
  let header ← elfSectionHeader bytes table.offset table.entrySize table.namesIndex
  if header.kind ≠ 3 then fail (.binary "ELF section-name table has the wrong type")
  else do
    let names ← checkedElfSlice bytes header.offset header.size "section-name table"
    let identity ← identitySections bytes names table.offset table.entrySize none
      (List.range table.count)
    okOr (.binary "binary has no embedded identity section") identity

/-! ## The identity -/

def isX86Elf (bytes : List UInt8) : Bool :=
  getSlice 0 4 bytes == some [0x7f, 0x45, 0x4c, 0x46] && bytes[4]? == some 2
    && bytes[5]? == some 1 && getSlice 18 20 bytes == some [62, 0]

/-- The last part of `parse_embedded_binary_identity`. -/
def payloadIdentity (formats : ManifestFormats) (payload : List UInt8)
    (target releaseTag : String) : Fallible BundleAcquisitionError ReleaseIdentity :=
  match parseManifest formats payload with
  | .error error => fail (.binary (toString error))
  | .ok identity =>
    if identity.target ≠ target ∨ identity.releaseTag ≠ releaseTag then
      fail (.binary s!"embedded identity target/tag do not match `{target}` and `{releaseTag}`")
    else .ok identity

def parseEmbeddedBinaryIdentity (formats : ManifestFormats) (bytes : List UInt8)
    (target releaseTag : String) : Fallible BundleAcquisitionError ReleaseIdentity :=
  if isX86Elf bytes = false then
    fail (.binary "bundled binary is not an x86-64 little-endian ELF file")
  else do
    let record ← embeddedIdentitySection bytes
    if ¬ embeddedIdentityPrefix <+: record ∨ ¬ embeddedIdentitySuffix <:+ record then
      fail (.binary "embedded identity section has an invalid envelope")
    else do
      let stop ← subUsize record.length embeddedIdentitySuffix.length
      -- the two marks may share a byte of the record, and then the range is backwards
      let payload ← slice embeddedIdentityPrefix.length stop record
      payloadIdentity formats payload target releaseTag

end LgBuddy
