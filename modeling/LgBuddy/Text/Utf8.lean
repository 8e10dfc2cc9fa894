import LgBuddy.Text.Str

/-!
# LgBuddy — texts and their bytes

UTF-8 and the byte offsets at which a text is cut.

* `utf8Bytes`, `fromUtf8` — a text as bytes and back;
* `splitAtByte` — the two parts of a text at a byte offset, none inside a character;
* `getTo`, `getRange`, `getFrom` — `str::get` with the three kinds of range.
-/

namespace LgBuddy.Str

/-! ## Bytes -/

def utf8Bytes (text : Text) : List UInt8 := text.flatMap String.utf8EncodeChar

/-- `str::from_utf8`. -/
def fromUtf8 (bytes : List UInt8) : Option Text :=
  bytes.toByteArray.utf8Decode?.map Array.toList

@[simp] theorem utf8Bytes_nil : utf8Bytes [] = [] := rfl

@[simp] theorem utf8Bytes_append (a b : Text) :
    utf8Bytes (a ++ b) = utf8Bytes a ++ utf8Bytes b := by
  simp [utf8Bytes]

/-- The bytes are those of the library's encoding. -/
theorem utf8Encode_eq (text : Text) : text.utf8Encode = (utf8Bytes text).toByteArray := rfl

/-- The bytes of a text decode to it. -/
theorem fromUtf8_utf8Bytes (text : Text) : fromUtf8 (utf8Bytes text) = some text := by
  unfold fromUtf8
  rw [← utf8Encode_eq, List.utf8Decode?_utf8Encode]
  rfl

/-- Two texts of the same bytes are one text. -/
theorem utf8Bytes_injective {a b : Text} (h : utf8Bytes a = utf8Bytes b) : a = b := by
  have hsome : some a = some b := by rw [← fromUtf8_utf8Bytes a, h, fromUtf8_utf8Bytes]
  exact Option.some.inj hsome

theorem toByteArray_injective {a b : List UInt8} (h : a.toByteArray = b.toByteArray) : a = b := by
  have hdata := congrArg (fun bytes : ByteArray => bytes.data.toList) h
  simpa using hdata

/-- Decoding is the inverse of the encoding. -/
theorem fromUtf8_eq_some {bytes : List UInt8} {text : Text} :
    fromUtf8 bytes = some text ↔ utf8Bytes text = bytes := by
  constructor
  · intro h
    have hsome : bytes.toByteArray.utf8Decode?.isSome := by
      cases hdecoded : bytes.toByteArray.utf8Decode? with
      | none => simp [fromUtf8, hdecoded] at h
      | some decoded => rfl
    obtain ⟨decoded, hdecoded⟩ := ByteArray.isSome_utf8Decode?_iff.1 hsome
    have hbytes : bytes = utf8Bytes decoded := toByteArray_injective (by rw [hdecoded]; rfl)
    rw [hbytes, fromUtf8_utf8Bytes] at h
    rw [hbytes, Option.some.inj h]
  · intro h
    rw [← h, fromUtf8_utf8Bytes]

/-! ## Lengths -/

@[simp] theorem utf8Len_nil : utf8Len [] = 0 := rfl

@[simp] theorem utf8Len_cons (c : Char) (text : Text) :
    utf8Len (c :: text) = c.utf8Size + utf8Len text := rfl

@[simp] theorem utf8Len_append (a b : Text) : utf8Len (a ++ b) = utf8Len a + utf8Len b := by
  simp [utf8Len]

/-- The length in bytes is the number of them. -/
@[simp] theorem length_utf8Bytes (text : Text) : (utf8Bytes text).length = utf8Len text := by
  induction text with
  | nil => rfl
  | cons c rest ih =>
    show (String.utf8EncodeChar c ++ utf8Bytes rest).length = _
    rw [List.length_append, ih, String.length_utf8EncodeChar, utf8Len_cons]

/-- Only the empty text has no byte. -/
theorem utf8Len_eq_zero {text : Text} : utf8Len text = 0 ↔ text = [] := by
  cases text with
  | nil => simp
  | cons c rest =>
    have hpos := c.utf8Size_pos
    simp only [utf8Len_cons, reduceCtorEq, iff_false]
    omega

/-- In a text of ASCII characters every character is one byte. -/
theorem utf8Len_ascii {text : Text} (h : ∀ c ∈ text, c.utf8Size = 1) :
    utf8Len text = text.length := by
  induction text with
  | nil => rfl
  | cons c rest ih =>
    rw [utf8Len_cons, h c (.head _), ih fun c hc => h c (.tail _ hc), List.length_cons]
    omega

/-- A digit in base 16, without capitals. -/
def isLowerHex (c : Char) : Bool := c.isDigit || ('a' ≤ c && c ≤ 'f')

/-- A lower case hexadecimal digit is one byte. -/
theorem isLowerHex_utf8Size {c : Char} (h : isLowerHex c = true) : c.utf8Size = 1 := by
  have hval : c.val ≤ 0x7f := by
    unfold isLowerHex Char.isDigit at h
    simp only [Bool.or_eq_true, Bool.and_eq_true, decide_eq_true_eq] at h
    rcases h with ⟨-, hle⟩ | ⟨-, hle⟩
    · exact UInt32.le_trans hle (by decide)
    · exact UInt32.le_trans (Char.le_def.1 hle) (by decide)
  exact Char.utf8Size_eq_one_iff.2 hval

/-! ## Slices -/

/-- The text before and behind a byte offset, if no character lies across it. -/
def splitAtByte : Nat → Text → Option (Text × Text)
  | 0, text => some ([], text)
  | _ + 1, [] => none
  | offset + 1, c :: rest =>
    if c.utf8Size ≤ offset + 1 then
      (splitAtByte (offset + 1 - c.utf8Size) rest).map fun parts => (c :: parts.1, parts.2)
    else none

/-- `str::get(..stop)`. -/
def getTo (stop : Nat) (text : Text) : Option Text := (splitAtByte stop text).map Prod.fst

/-- `str::get(start..)`. -/
def getFrom (start : Nat) (text : Text) : Option Text := (splitAtByte start text).map Prod.snd

/-- `str::get(start..stop)`. -/
def getRange (start stop : Nat) (text : Text) : Option Text :=
  if start ≤ stop then (getFrom start text).bind (getTo (stop - start)) else none

/-- A slice at byte offsets never splits a character: the parts make up the text again. -/
theorem splitAtByte_eq_some {offset : Nat} {text before behind : Text} :
    splitAtByte offset text = some (before, behind) ↔
      text = before ++ behind ∧ utf8Len before = offset := by
  induction text generalizing offset before behind with
  | nil =>
    cases offset with
    | zero =>
      simp only [splitAtByte, Option.some.injEq, Prod.mk.injEq, List.nil_eq_append_iff,
        utf8Len_eq_zero]
      grind
    | succ offset =>
      simp only [splitAtByte, reduceCtorEq, List.nil_eq_append_iff, false_iff, not_and]
      rintro ⟨rfl, -⟩ hlen
      cases hlen
  -- by induction on the text: each character takes its bytes off the offset
  | cons c rest ih =>
    cases offset with
    | zero =>
      simp only [splitAtByte, Option.some.injEq, Prod.mk.injEq, utf8Len_eq_zero]
      constructor
      · rintro ⟨rfl, rfl⟩
        exact ⟨rfl, rfl⟩
      · rintro ⟨hparts, rfl⟩
        exact ⟨rfl, hparts⟩
    | succ offset =>
      have hpos := c.utf8Size_pos
      constructor
      · intro h
        rw [splitAtByte] at h
        split at h
        · rename_i hfits
          rw [Option.map_eq_some_iff] at h
          obtain ⟨⟨a, b⟩, hsplit, hparts⟩ := h
          obtain ⟨rfl, rfl⟩ := Prod.mk.inj hparts
          obtain ⟨hrest, hlen⟩ := ih.1 hsplit
          have hlen : utf8Len a = offset + 1 - c.utf8Size := hlen
          refine ⟨by rw [hrest]; rfl, ?_⟩
          show utf8Len (c :: a) = _
          rw [utf8Len_cons]
          omega
        · cases h
      · rintro ⟨hparts, hlen⟩
        cases before with
        | nil => cases hlen
        | cons d before =>
          obtain ⟨rfl, hrest⟩ := List.cons.inj hparts
          rw [utf8Len_cons] at hlen
          rw [splitAtByte, if_pos (by omega), ih.2 ⟨hrest, by omega⟩]
          rfl

/-- A text is cut at an offset in one way. -/
theorem parts_unique {a b c d : Text} (hparts : a ++ b = c ++ d) (hlen : utf8Len a = utf8Len c) :
    a = c ∧ b = d := by
  have hleft : splitAtByte (utf8Len c) (a ++ b) = some (a, b) := splitAtByte_eq_some.2 ⟨rfl, hlen⟩
  have hright : splitAtByte (utf8Len c) (a ++ b) = some (c, d) :=
    splitAtByte_eq_some.2 ⟨hparts, rfl⟩
  exact Prod.mk.inj (Option.some.inj (hleft.symm.trans hright))

/-- The slice up to a byte is there exactly when a beginning has that length. -/
theorem getTo_eq_some {stop : Nat} {text before : Text} :
    getTo stop text = some before ↔ ∃ behind, text = before ++ behind ∧ utf8Len before = stop := by
  simp [getTo, splitAtByte_eq_some]

/-- The slice from a byte is there exactly when a beginning has that length. -/
theorem getFrom_eq_some {start : Nat} {text behind : Text} :
    getFrom start text = some behind ↔
      ∃ before, text = before ++ behind ∧ utf8Len before = start := by
  simp [getFrom, splitAtByte_eq_some]

/-- The slice between two bytes is there exactly when both are ends of beginnings. -/
theorem getRange_eq_some {start stop : Nat} {text part : Text} :
    getRange start stop text = some part ↔
      ∃ before behind, text = before ++ part ++ behind ∧ utf8Len before = start ∧
        utf8Len (before ++ part) = stop := by
  unfold getRange
  split
  · simp only [Option.bind_eq_some_iff, getFrom_eq_some, getTo_eq_some]
    constructor
    · rintro ⟨_, ⟨before, rfl, hbefore⟩, behind, rfl, hpart⟩
      refine ⟨before, behind, by simp, hbefore, ?_⟩
      rw [utf8Len_append]
      omega
    · rintro ⟨before, behind, rfl, hbefore, hto⟩
      rw [utf8Len_append] at hto
      exact ⟨part ++ behind, ⟨before, by simp, hbefore⟩, behind, rfl, by omega⟩
  · rename_i hrange
    simp only [reduceCtorEq, utf8Len_append, false_iff]
    rintro ⟨before, behind, -, hbefore, hto⟩
    omega

end LgBuddy.Str
