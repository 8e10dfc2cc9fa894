import LgBuddy.Text.Str
import Mathlib.Algebra.Group.Nat.Defs
import Mathlib.Data.List.Induction

/-!
# LgBuddy — decimal numerals

A number in digits, without zeros in front.

* `Canonical` — the texts that a number is printed as;
* `toDigits_value` — such a text is what its value is printed as;
* `value_lt` — so many digits make no larger value;
* `lt_of_value_lt`, `append_lt_append` — the order of texts of one length.
-/

namespace LgBuddy.Decimal

/-- The value of a text of digits. -/
def value (digits : Text) : Nat := Nat.ofDigitChars 10 digits 0

/-- Digits without a zero in front of others. -/
structure Canonical (digits : Text) : Prop where
  nonempty : digits ≠ []
  digit : ∀ c ∈ digits, c.isDigit = true
  leading : digits.head? = some '0' → digits.length = 1

/-! ## One digit -/

/-- The codes of the digits. -/
theorem digit_toNat {c : Char} (h : c.isDigit = true) : 48 ≤ c.toNat ∧ c.toNat ≤ 57 := by
  simp only [Char.isDigit, Bool.and_eq_true, decide_eq_true_eq, ge_iff_le,
    UInt32.le_iff_toNat_le] at h
  exact h

/-- A digit is the character of its value. -/
theorem digitChar_toNat {c : Char} (h : c.isDigit = true) : (c.toNat - 48).digitChar = c := by
  obtain ⟨hlow, hhigh⟩ := digit_toNat h
  apply Char.toNat_inj.1
  rw [Nat.toNat_digitChar_of_lt_ten (by omega)]
  omega

/-- A digit at the end is the ones. -/
theorem value_append (front : Text) (c : Char) :
    value (front ++ [c]) = 10 * value front + (c.toNat - 48) := by
  simp [value, Nat.ofDigitChars_append, Nat.ofDigitChars_cons]

/-- A digit at the beginning weighs the power of those behind it. -/
theorem value_cons (c : Char) (rest : Text) :
    value (c :: rest) = 10 ^ rest.length * (c.toNat - 48) + value rest := by
  rw [value, Nat.ofDigitChars_cons, Nat.ofDigitChars_eq_ofDigitChars_zero]
  simp [value]

/-- The value of some digits is below the power of their number. -/
theorem value_lt {digits : Text} (h : ∀ c ∈ digits, c.isDigit = true) :
    value digits < 10 ^ digits.length := by
  induction digits with
  | nil => decide
  | cons c rest ih =>
    have hrest := ih fun c hc => h c (.tail _ hc)
    obtain ⟨-, hhigh⟩ := digit_toNat (h c (.head _))
    have hdigit : 10 ^ rest.length * (c.toNat - 48) ≤ 10 ^ rest.length * 9 :=
      Nat.mul_le_mul_left _ (by omega)
    rw [value_cons, List.length_cons, Nat.pow_succ]
    omega

/-! ## Printing -/

/-- A number is printed canonically. -/
theorem canonical_toDigits (n : Nat) : Canonical (Nat.toDigits 10 n) := by
  refine ⟨Nat.toDigits_ne_nil, ?_, ?_⟩
  · intro c hc
    exact Nat.isDigit_of_mem_toDigits (by decide) (by decide) hc
  · induction n using Nat.strongRecOn with
    | _ n ih =>
      rw [Nat.toDigits_eq_if (by decide)]
      split
      · intro _
        rfl
      · rename_i hlarge
        intro hhead
        have hne : Nat.toDigits 10 (n / 10) ≠ [] := Nat.toDigits_ne_nil
        have hzero : (Nat.toDigits 10 (n / 10)).head? = some '0' := by
          rwa [List.head?_append_of_ne_nil _ hne] at hhead
        have hone := ih (n / 10) (by omega) hzero
        -- a single digit that is zero is the number zero
        obtain ⟨c, hc⟩ := List.length_eq_one_iff.1 hone
        have hvalue : Nat.ofDigitChars 10 (Nat.toDigits 10 (n / 10)) 0 = n / 10 :=
          Nat.ofDigitChars_ten_toDigits
        rw [hc] at hzero hvalue
        obtain rfl : c = '0' := by simpa using hzero
        have hnil : n / 10 = 0 := by rw [← hvalue]; rfl
        omega

/-- A printed number has its value. -/
theorem value_toDigits (n : Nat) : value (Nat.toDigits 10 n) = n :=
  Nat.ofDigitChars_ten_toDigits

/-- The front of a canonical number is not zero. -/
theorem Canonical.value_pos {front : Text} {c : Char} (h : Canonical (front ++ [c]))
    (hfront : front ≠ []) : 0 < value front := by
  cases front with
  | nil => exact absurd rfl hfront
  | cons d rest =>
    have hd := h.digit d (by simp)
    obtain ⟨hlow, -⟩ := digit_toNat hd
    have hnonzero : d ≠ '0' := by
      rintro rfl
      have hlength := h.leading rfl
      simp at hlength
    have hne : d.toNat ≠ 48 := fun heq => hnonzero (Char.toNat_inj.1 heq)
    have hpow : 0 < 10 ^ rest.length := Nat.pow_pos (by decide)
    have hmul : 10 ^ rest.length ≤ 10 ^ rest.length * (d.toNat - 48) :=
      Nat.le_mul_of_pos_right _ (by omega)
    rw [value_cons]
    omega

/-- The front of a canonical number is canonical. -/
theorem Canonical.front {front : Text} {c : Char} (h : Canonical (front ++ [c]))
    (hfront : front ≠ []) : Canonical front := by
  refine ⟨hfront, fun d hd => h.digit d (by simp [hd]), ?_⟩
  intro hhead
  have hlength := h.leading (by rw [List.head?_append_of_ne_nil _ hfront, hhead])
  cases front with
  | nil => exact absurd rfl hfront
  | cons d rest => simp at hlength

/-- A canonical numeral is what its value is printed as. -/
theorem toDigits_value {digits : Text} (h : Canonical digits) :
    Nat.toDigits 10 (value digits) = digits := by
  induction digits using List.reverseRecOn with
  | nil => exact absurd rfl h.nonempty
  | append_singleton front c ih =>
    have hdigit := h.digit c (by simp)
    obtain ⟨hlow, hhigh⟩ := digit_toNat hdigit
    have hlast : Nat.toDigits 10 (c.toNat - 48) = [c] := by
      rw [Nat.toDigits_of_lt_base (by omega), digitChar_toNat hdigit]
    rw [value_append]
    by_cases hfront : front = []
    · subst hfront
      simpa [value] using hlast
    · rw [← Nat.toDigits_append_toDigits (by decide) (h.value_pos hfront) (by omega), hlast,
        ih (h.front hfront)]

/-! ## Order -/

/-- Of two texts of one length, the one with the lower value comes first. -/
theorem lt_of_value_lt {a b : Text} (hlength : a.length = b.length)
    (ha : ∀ c ∈ a, c.isDigit = true) (hb : ∀ c ∈ b, c.isDigit = true)
    (h : value a < value b) : a < b := by
  induction a generalizing b with
  | nil =>
    obtain rfl : b = [] := List.length_eq_zero_iff.1 hlength.symm
    exact absurd h (Nat.lt_irrefl _)
  | cons c rest ih =>
    cases b with
    | nil => cases hlength
    | cons d others =>
      have hrests : rest.length = others.length := Nat.succ.inj hlength
      have hothers := value_lt fun c hc => hb c (.tail _ hc)
      have hc := digit_toNat (ha c (.head _))
      have hd := digit_toNat (hb d (.head _))
      rw [value_cons, value_cons, hrests] at h
      rw [List.cons_lt_cons_iff]
      rcases Nat.lt_trichotomy c.toNat d.toNat with hlt | heq | hgt
      · left
        rw [Char.lt_def, UInt32.lt_iff_toNat_lt]
        exact hlt
      · right
        obtain rfl := Char.toNat_inj.1 heq
        exact ⟨rfl, ih hrests (fun c hc => ha c (.tail _ hc)) (fun c hc => hb c (.tail _ hc))
          (by omega)⟩
      · -- a higher digit outweighs all that follows
        have hstep : 10 ^ others.length * (d.toNat - 48) + 10 ^ others.length
            ≤ 10 ^ others.length * (c.toNat - 48) := by
          rw [← Nat.mul_succ]
          exact Nat.mul_le_mul_left _ (by omega)
        omega

/-- What follows a lower text of the same length does not matter. -/
theorem append_lt_append {a b : Text} (hlength : a.length = b.length) (h : a < b) (x y : Text) :
    a ++ x < b ++ y := by
  induction a generalizing b with
  | nil =>
    obtain rfl : b = [] := List.length_eq_zero_iff.1 hlength.symm
    exact absurd h (List.not_lt_nil _)
  | cons c rest ih =>
    cases b with
    | nil => cases hlength
    | cons d others =>
      rw [List.cons_append, List.cons_append, List.cons_lt_cons_iff]
      rcases List.cons_lt_cons_iff.1 h with hlt | ⟨rfl, hrest⟩
      · exact .inl hlt
      · exact .inr ⟨rfl, ih (Nat.succ.inj hlength) hrest⟩

/-- Leading zeros change no value. -/
theorem value_zeros (count : Nat) (digits : Text) :
    value (List.replicate count '0' ++ digits) = value digits := by
  induction count with
  | zero => rfl
  | succ count ih =>
    rw [List.replicate_succ, List.cons_append, value_cons, ih]
    simp

end LgBuddy.Decimal
