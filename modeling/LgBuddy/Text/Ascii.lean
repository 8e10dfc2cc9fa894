import LgBuddy.Text.Utf8

/-!
# LgBuddy — ASCII in the bytes of a text

In UTF-8 a byte below `0x80` is a character of its own, wherever it stands. So what is looked for
in the bytes of a text and begins with ASCII characters is found in the text itself.

* `isAscii`, `asciiByte`, `asciiChar` — the characters of one byte;
* `mem_utf8Bytes_ascii` — an ASCII byte is a character of the text;
* `utf8Bytes_append_ascii` — ASCII at the start of the bytes is at the start of the text.
-/

namespace LgBuddy.Str

/-! ## Characters of one byte -/

def isAscii (c : Char) : Bool := c.val ≤ 0x7f

def asciiByte (c : Char) : UInt8 := c.val.toUInt8

/-- The character of a byte below `0x80`. -/
def asciiChar (b : UInt8) : Char := Char.ofNat b.toNat

theorem utf8EncodeChar_ascii {c : Char} (h : isAscii c = true) :
    String.utf8EncodeChar c = [asciiByte c] :=
  String.utf8EncodeChar_eq_singleton (Char.utf8Size_eq_one_iff.2 (of_decide_eq_true h))

/-- No byte of any other character is below `0x80`. -/
theorem utf8EncodeChar_wide {c : Char} (h : isAscii c = false) :
    ∀ b ∈ String.utf8EncodeChar c, 0x80 ≤ b.toNat := by
  have hwide : 0x7f < c.val.toNat := by
    have hnot := of_decide_eq_false h
    rw [UInt32.le_iff_toNat_le] at hnot
    simpa using hnot
  intro b hb
  unfold String.utf8EncodeChar at hb
  dsimp only at hb
  rw [if_neg (by omega)] at hb
  split at hb
  · simp only [List.mem_cons, List.not_mem_nil, or_false] at hb
    rcases hb with rfl | rfl <;> rw [UInt8.toNat_ofNat'] <;> omega
  · split at hb
    · simp only [List.mem_cons, List.not_mem_nil, or_false] at hb
      rcases hb with rfl | rfl | rfl <;> rw [UInt8.toNat_ofNat'] <;> omega
    · simp only [List.mem_cons, List.not_mem_nil, or_false] at hb
      rcases hb with rfl | rfl | rfl | rfl <;> rw [UInt8.toNat_ofNat'] <;> omega

theorem asciiByte_lt {c : Char} (h : isAscii c = true) : (asciiByte c).toNat < 0x80 := by
  have hle := of_decide_eq_true h
  rw [UInt32.le_iff_toNat_le] at hle
  have hle' : c.val.toNat ≤ 0x7f := by simpa using hle
  unfold asciiByte
  rw [UInt32.toNat_toUInt8]
  omega

theorem asciiChar_val {b : UInt8} (h : b.toNat < 0x80) : (asciiChar b).val.toNat = b.toNat := by
  have hvalid : b.toNat.isValidChar := .inl (by omega)
  unfold asciiChar Char.ofNat
  rw [dif_pos hvalid]
  rfl

theorem asciiChar_spec {b : UInt8} (h : b.toNat < 0x80) :
    isAscii (asciiChar b) = true ∧ asciiByte (asciiChar b) = b := by
  have hval := asciiChar_val h
  constructor
  · unfold isAscii
    rw [decide_eq_true_eq, UInt32.le_iff_toNat_le, hval]
    simpa using Nat.le_of_lt_succ h
  · apply UInt8.toNat_inj.1
    unfold asciiByte
    rw [UInt32.toNat_toUInt8, hval]
    omega

theorem asciiByte_injective {c d : Char} (hc : isAscii c = true) (hd : isAscii d = true)
    (h : asciiByte c = asciiByte d) : c = d := by
  have hbytes : utf8Bytes [c] = utf8Bytes [d] := by
    simp [utf8Bytes, utf8EncodeChar_ascii hc, utf8EncodeChar_ascii hd, h]
  exact (List.cons.inj (utf8Bytes_injective hbytes)).1

/-! ## Texts -/

theorem utf8Bytes_cons (c : Char) (text : Text) :
    utf8Bytes (c :: text) = String.utf8EncodeChar c ++ utf8Bytes text := rfl

theorem utf8Bytes_cons_ascii {c : Char} (h : isAscii c = true) (text : Text) :
    utf8Bytes (c :: text) = asciiByte c :: utf8Bytes text := by
  rw [utf8Bytes_cons, utf8EncodeChar_ascii h]
  rfl

theorem utf8Bytes_ascii {text : Text} (h : ∀ c ∈ text, isAscii c = true) :
    utf8Bytes text = text.map asciiByte := by
  induction text with
  | nil => rfl
  | cons c text ih =>
    rw [utf8Bytes_cons_ascii (h c (.head _)), ih fun d hd => h d (.tail _ hd)]
    rfl

/-- Bytes below `0x80` are the bytes of a text. -/
theorem utf8Bytes_map_asciiChar {bytes : List UInt8} (h : ∀ b ∈ bytes, b.toNat < 0x80) :
    utf8Bytes (bytes.map asciiChar) = bytes := by
  induction bytes with
  | nil => rfl
  | cons b bytes ih =>
    obtain ⟨hascii, hbyte⟩ := asciiChar_spec (h b (.head _))
    rw [List.map_cons, utf8Bytes_cons_ascii hascii, hbyte, ih fun a ha => h a (.tail _ ha)]

/-- **An ASCII byte is a character of the text.** -/
theorem mem_utf8Bytes_ascii {c : Char} (hc : isAscii c = true) {text : Text} :
    asciiByte c ∈ utf8Bytes text ↔ c ∈ text := by
  induction text with
  | nil => simp
  | cons d text ih =>
    rw [utf8Bytes_cons, List.mem_append, ih, List.mem_cons]
    apply or_congr_left
    cases hd : isAscii d with
    | true =>
      rw [utf8EncodeChar_ascii hd, List.mem_singleton]
      exact ⟨asciiByte_injective hc hd, fun h => by rw [h]⟩
    | false =>
      constructor
      · intro h
        have hge := utf8EncodeChar_wide hd _ h
        have hlt := asciiByte_lt hc
        omega
      · intro h
        rw [h, hd] at hc
        cases hc

/-- **ASCII at the start of the bytes is at the start of the text.** -/
theorem utf8Bytes_append_ascii {front text : Text} {rest : List UInt8}
    (hfront : ∀ c ∈ front, isAscii c = true) (h : utf8Bytes text = utf8Bytes front ++ rest) :
    ∃ behind, text = front ++ behind ∧ utf8Bytes behind = rest := by
  induction front generalizing text with
  | nil => exact ⟨text, rfl, h⟩
  | cons c front ih =>
    have hc := hfront c (.head _)
    rw [utf8Bytes_cons_ascii hc, List.cons_append] at h
    cases text with
    | nil => cases h
    | cons d text =>
      cases hd : isAscii d with
      | true =>
        rw [utf8Bytes_cons_ascii hd] at h
        obtain ⟨hbyte, htail⟩ := List.cons.inj h
        obtain ⟨behind, rfl, hbehind⟩ := ih (fun e he => hfront e (.tail _ he)) htail
        exact ⟨behind, by rw [asciiByte_injective hd hc hbyte]; rfl, hbehind⟩
      | false =>
        -- the first byte of `d` is no ASCII byte
        have hmem : asciiByte c ∈ String.utf8EncodeChar d := by
          rw [utf8Bytes_cons] at h
          cases hbytes : String.utf8EncodeChar d with
          | nil => exact absurd hbytes String.utf8EncodeChar_ne_nil
          | cons b bytes =>
            rw [hbytes, List.cons_append] at h
            rw [(List.cons.inj h).1]
            exact .head _
        have hge := utf8EncodeChar_wide hd _ hmem
        have hlt := asciiByte_lt hc
        omega

end LgBuddy.Str
