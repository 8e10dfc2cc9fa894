import Mathlib.Data.List.Forall2
import LgBuddy.Settings.Values

/-!
# LgBuddy — the grammar of hardware addresses

What `MacAddress::from_str` takes, compared with six pairs of hexadecimal digits.

* `pairValue`, `SixPairs`, `MacAddress.Spells` — the grammar and what a text in it says;
* `readGroup_eq_some` — what one group may be: a pair of digits, or a plus before a digit;
* `MacAddress.parse_eq_some` — the addresses that are read;
* `mac_grammar` — the reader follows the grammar on the texts that have no such plus.
-/

namespace LgBuddy

open Str (splitAll toDigit utf8Len)

/-! ## The grammar -/

def hexDigits : Text := "0123456789abcdef".toList

/-- The value of a hexadecimal digit, in either case. -/
def hexValue (c : Char) : Option Nat := hexDigits.idxOf? c.toLower

/-- The value of a group of exactly two hexadecimal digits. -/
def pairValue : Text → Option Nat
  | [high, low] => do return 16 * (← hexValue high) + (← hexValue low)
  | _ => none

/-- Six groups of exactly two hexadecimal digits with a colon between them. -/
def SixPairs (s : Text) : Prop :=
  ∃ groups, s = [':'].intercalate groups ∧ groups.length = 6 ∧
    ∀ group ∈ groups, (pairValue group).isSome

/-- The octets are the values of the groups. -/
def MacAddress.Spells (mac : MacAddress) (s : Text) : Prop :=
  ∃ groups, s = [':'].intercalate groups ∧
    List.Forall₂ (fun group octet => pairValue group = some octet.toNat) groups
      ((List.finRange 6).map mac.octets)

/-- What the grammar asks of the reader at one text. -/
structure FollowsMacGrammar (s : Text) : Prop where
  accepted : (∃ mac, MacAddress.parse s = some mac) ↔ SixPairs s
  read : ∀ mac, MacAddress.parse s = some mac → mac.Spells s ∧ mac.text = s.map Char.toLower

/-! ## The sign that `from_str_radix` takes -/

/-- The value of a group that is a plus and one hexadecimal digit. -/
def signedValue : Text → Option Nat
  | [sign, digit] => if sign = '+' then hexValue digit else none
  | _ => none

/-- Six groups, each a pair of digits or a plus and a digit, and one at least of the latter. -/
def SignedMac (s : Text) : Prop :=
  ∃ groups, s = [':'].intercalate groups ∧ groups.length = 6 ∧
    (∀ group ∈ groups, (pairValue group).isSome ∨ (signedValue group).isSome) ∧
    ∃ group ∈ groups, (signedValue group).isSome

/-! ## Digits -/

/-- On the ASCII characters the digit of radix 16 is the hexadecimal value. -/
theorem toDigit_ascii : ∀ n : Fin 128,
    toDigit 16 (Char.ofNat n) = hexValue (Char.ofNat n) := by
  decide +kernel

/-- No digit lies outside ASCII. -/
theorem hexValue_wide {c : Char} (hc : 128 ≤ c.toNat) : hexValue c = none := by
  have hlower : c.toLower = c := by
    unfold Char.toLower
    rw [dif_neg]
    rintro ⟨-, hupper⟩
    have hle := UInt32.le_iff_toNat_le.1 hupper
    have hval : c.val.toNat = c.toNat := rfl
    have hz : 'Z'.val.toNat = 90 := rfl
    omega
  have hascii : ∀ d ∈ hexDigits, d.toNat < 128 := by decide
  rw [hexValue, hlower, List.idxOf?_eq_none_iff]
  intro hmem
  have hsmall := hascii c hmem
  omega

/-- No character outside ASCII is a digit. -/
theorem toDigit_wide {c : Char} (hc : 128 ≤ c.toNat) : toDigit 16 c = none := by
  have hbelow {top : Char} (htop : top.toNat < 128) : ¬ c ≤ top := by
    rw [Char.le_def, UInt32.le_iff_toNat_le]
    have hval : c.val.toNat = c.toNat := rfl
    have htopVal : top.val.toNat = top.toNat := rfl
    omega
  unfold toDigit
  rw [if_neg fun h => hbelow (by decide) h.2, if_neg fun h => hbelow (by decide) h.2,
    if_neg fun h => hbelow (by decide) h.2]
  rfl

/-- The digit of radix 16 is the hexadecimal value, at every character. -/
theorem toDigit_hex (c : Char) : toDigit 16 c = hexValue c := by
  rcases Nat.lt_or_ge c.toNat 128 with hc | hc
  · have hchar := toDigit_ascii ⟨c.toNat, hc⟩
    rwa [Char.ofNat_toNat] at hchar
  · rw [toDigit_wide hc, hexValue_wide hc]

theorem hexValue_lt {c : Char} {value : Nat} (h : hexValue c = some value) : value < 16 :=
  (List.idxOf?_eq_some_iff.1 h).1

/-- A hexadecimal digit is one byte of UTF-8. -/
theorem hexValue_narrow {c : Char} {value : Nat} (h : hexValue c = some value) :
    c.utf8Size = 1 := by
  rw [Char.utf8Size_eq_one_iff, UInt32.le_iff_toNat_le]
  by_contra hwide
  rw [hexValue_wide (by simpa [Nat.lt_iff_add_one_le] using hwide)] at h
  cases h

/-! ## One group -/

/-- The value of a pair of digits fits an octet. -/
theorem pairValue_lt {part : Text} {value : Nat} (h : pairValue part = some value) :
    value < 256 := by
  unfold pairValue at h
  split at h
  · rename_i high low
    cases hhigh : hexValue high with
    | none => simp [hhigh] at h
    | some a =>
      cases hlow : hexValue low with
      | none => simp [hhigh, hlow] at h
      | some b =>
        have ha := hexValue_lt hhigh
        have hb := hexValue_lt hlow
        have hvalue : 16 * a + b = value := by simpa [hhigh, hlow] using h
        omega
  · cases h

/-- Below 256 an octet is its own value. -/
theorem ofNat_eq_iff {value : Nat} {octet : UInt8} (h : value < 256) :
    UInt8.ofNat value = octet ↔ value = octet.toNat := by
  rw [← UInt8.toNat_inj, UInt8.toNat_ofNat', Nat.mod_eq_of_lt h]

/-- What is read is the value, as an octet. -/
theorem map_ofNat_eq_some {value : Option Nat} {octet : UInt8}
    (h : ∀ v, value = some v → v < 256) :
    value.map UInt8.ofNat = some octet ↔ value = some octet.toNat := by
  cases value with
  | none => simp
  | some v =>
    rw [Option.map_some, Option.some_inj, Option.some_inj, ofNat_eq_iff (h v rfl)]

/-- A single character other than the sign is read as its digit. -/
theorem u8FromStrRadix_single (c : Char) (h : c ≠ '+') :
    u8FromStrRadix 16 [c] = (hexValue c).map UInt8.ofNat := by
  unfold u8FromStrRadix
  cases hc : hexValue c with
  | none => simp [toDigit_hex, hc, h]
  | some value =>
    have hvalue := hexValue_lt hc
    simp [toDigit_hex, hc, h, show value < 256 by omega]

/-- A plus sign and one digit are read as the digit. -/
theorem u8FromStrRadix_signed (c : Char) :
    u8FromStrRadix 16 ['+', c] = (hexValue c).map UInt8.ofNat := by
  unfold u8FromStrRadix
  rw [List.head?_cons, if_pos rfl]
  cases hc : hexValue c with
  | none => simp [toDigit_hex, hc]
  | some value =>
    have hvalue := hexValue_lt hc
    simp [toDigit_hex, hc, show value < 256 by omega]

/-- Two characters that do not begin with the sign are read as the pair they spell. -/
theorem u8FromStrRadix_pair {a : Char} (b : Char) (h : a ≠ '+') :
    u8FromStrRadix 16 [a, b] = (pairValue [a, b]).map UInt8.ofNat := by
  unfold u8FromStrRadix
  cases ha : hexValue a with
  | none => simp [toDigit_hex, pairValue, ha, h]
  | some high =>
    cases hb : hexValue b with
    | none => simp [toDigit_hex, pairValue, ha, hb, h]
    | some low =>
      have hhigh := hexValue_lt ha
      have hlow := hexValue_lt hb
      have hsum : high * 16 + low = 16 * high + low := by omega
      simp [toDigit_hex, pairValue, ha, hb, h, hsum, show 16 * high + low < 256 by omega]

/-- Both values of a group need two characters of one byte. -/
theorem utf8Len_of_value {part : Text} {value : Nat}
    (h : pairValue part = some value ∨ signedValue part = some value) : utf8Len part = 2 := by
  rcases h with h | h
  · unfold pairValue at h
    split at h
    · rename_i high low
      cases hhigh : hexValue high with
      | none => simp [hhigh] at h
      | some a =>
        cases hlow : hexValue low with
        | none => simp [hhigh, hlow] at h
        | some b => simp [hexValue_narrow hhigh, hexValue_narrow hlow]
    · cases h
  · unfold signedValue at h
    split at h
    · rename_i sign digit
      split at h
      · rename_i hsign
        have hplus : '+'.utf8Size = 1 := by decide
        simp [hexValue_narrow h, hsign, hplus]
      · cases h
    · cases h

theorem signedValue_lt {part : Text} {value : Nat} (h : signedValue part = some value) :
    value < 16 := by
  unfold signedValue at h
  split at h
  · split at h
    · exact hexValue_lt h
    · cases h
  · cases h

/-- **One group.** A pair of digits, or a plus before a digit. -/
theorem readGroup_eq_some {part : Text} {octet : UInt8} :
    (if utf8Len part ≠ 2 then none else u8FromStrRadix 16 part) = some octet ↔
      pairValue part = some octet.toNat ∨ signedValue part = some octet.toNat := by
  by_cases hlen : utf8Len part = 2
  · rw [if_neg (not_not.2 hlen)]
    match part, hlen with
    | [], hlen => simp at hlen
    | [c], hlen =>
      -- a character of two bytes is no digit
      have hwide : c.utf8Size = 2 := by simpa using hlen
      have hplus : c ≠ '+' := by
        rintro rfl
        exact absurd hwide (by decide)
      have hnone : hexValue c = none := by
        cases hc : hexValue c with
        | none => rfl
        | some value =>
          have hnarrow := hexValue_narrow hc
          omega
      simp [u8FromStrRadix_single c hplus, hnone, pairValue, signedValue]
    | [a, b], _ =>
      by_cases hplus : a = '+'
      · subst hplus
        have hsign : hexValue '+' = none := by decide
        have hpair : pairValue ['+', b] = none := by simp [pairValue, hsign]
        rw [u8FromStrRadix_signed, hpair, signedValue, if_pos rfl,
          map_ofNat_eq_some fun v hv => Nat.lt_trans (hexValue_lt hv) (by decide)]
        simp
      · have hsigned : signedValue [a, b] = none := by rw [signedValue, if_neg hplus]
        rw [u8FromStrRadix_pair b hplus, hsigned, map_ofNat_eq_some fun v hv => pairValue_lt hv]
        simp
    | a :: b :: c :: rest, hlen =>
      have ha := a.utf8Size_pos
      have hb := b.utf8Size_pos
      have hc := c.utf8Size_pos
      simp only [Str.utf8Len_cons] at hlen
      omega
  · rw [if_pos hlen]
    refine iff_of_false (by simp) fun h => hlen (utf8Len_of_value h)

/-! ## All groups -/

/-- A list is mapped to values exactly when each element is, place by place. -/
theorem mapM_eq_some_iff_forall₂ {α β : Type} {f : α → Option β} {xs : List α} {ys : List β} :
    xs.mapM f = some ys ↔ List.Forall₂ (fun x y => f x = some y) xs ys := by
  induction xs generalizing ys with
  | nil => cases ys <;> simp
  | cons x xs ih =>
    cases ys with
    | nil => simp [Option.bind_eq_some_iff]
    | cons y ys =>
      rw [List.mapM_cons, List.forall₂_cons, ← ih]
      simp [Option.bind_eq_some_iff]

/-- An element of the left list is related to one of the right list. -/
theorem exists_of_forall₂ {α β : Type} {R : α → β → Prop} {xs : List α} {ys : List β}
    (h : List.Forall₂ R xs ys) {x : α} (hx : x ∈ xs) : ∃ y ∈ ys, R x y := by
  induction h with
  | nil => cases hx
  | cons hxy hrest ih =>
    rcases List.mem_cons.1 hx with rfl | hx
    · exact ⟨_, .head _, hxy⟩
    · obtain ⟨y, hy, hrel⟩ := ih hx
      exact ⟨y, .tail _ hy, hrel⟩

/-- No group of a hardware address holds a colon. -/
theorem notMem_of_value {group : Text} {value : Nat}
    (h : pairValue group = some value ∨ signedValue group = some value) : ':' ∉ group := by
  have hcolon : hexValue ':' = none := by decide
  intro hmem
  rcases h with h | h
  · unfold pairValue at h
    split at h
    · rename_i high low
      rcases List.mem_pair.1 hmem with rfl | rfl
      · simp [hcolon] at h
      · cases hhigh : hexValue high <;> simp [hcolon, hhigh] at h
    · cases h
  · unfold signedValue at h
    split at h
    · rename_i sign digit
      split at h
      · rename_i hsign
        subst hsign
        rcases List.mem_pair.1 hmem with hc | rfl
        · exact absurd hc (by decide)
        · simp [hcolon] at h
      · cases h
    · cases h

/-- The octets of an address, as the reader lists them. -/
theorem MacAddress.octets_eq_iff {octets : List UInt8} (h : octets.length = 6)
    (mac : MacAddress) :
    (⟨fun i => octets.get (i.cast h.symm)⟩ : MacAddress) = mac ↔
      octets = (List.finRange 6).map mac.octets := by
  constructor
  · rintro rfl
    apply List.ext_getElem
    · simp [h]
    · simp
  · intro hoctets
    cases mac with
    | mk family =>
      congr 1
      funext i
      simp [hoctets]

/-- **The addresses that are read.** -/
theorem MacAddress.parse_eq_some {s : Text} {mac : MacAddress} :
    MacAddress.parse s = some mac ↔
      ∃ groups, s = [':'].intercalate groups ∧
        List.Forall₂ (fun group octet => pairValue group = some octet.toNat ∨
          signedValue group = some octet.toNat) groups ((List.finRange 6).map mac.octets) := by
  have hread : MacAddress.parse s = some mac ↔
      (splitAll ':' s).mapM (fun part =>
        if utf8Len part ≠ 2 then none else u8FromStrRadix 16 part)
          = some ((List.finRange 6).map mac.octets) := by
    unfold MacAddress.parse
    rw [Option.bind_eq_bind, Option.bind_eq_some_iff]
    constructor
    · rintro ⟨octets, hoctets, hmac⟩
      split at hmac
      · rename_i hlength
        rw [hoctets, (MacAddress.octets_eq_iff hlength mac).1 (Option.some_inj.1 hmac)]
      · cases hmac
    · intro hoctets
      have hlength : ((List.finRange 6).map mac.octets).length = 6 := by simp
      refine ⟨_, hoctets, ?_⟩
      rw [dif_pos hlength, Option.some_inj]
      exact (MacAddress.octets_eq_iff hlength mac).2 rfl
  rw [hread, mapM_eq_some_iff_forall₂]
  simp only [readGroup_eq_some]
  constructor
  · intro hgroups
    exact ⟨splitAll ':' s, Str.intercalate_splitAll.symm, hgroups⟩
  · rintro ⟨groups, rfl, hgroups⟩
    have hne : groups ≠ [] := by
      rintro rfl
      have hlength := hgroups.length_eq
      simp at hlength
    rwa [Str.splitAll_intercalate hne]
    intro group hgroup
    obtain ⟨octet, -, hvalue⟩ := exists_of_forall₂ hgroups hgroup
    exact notMem_of_value hvalue

/-- Groups that have values are the groups of an address. -/
theorem exists_mac {groups : List Text} (hlength : groups.length = 6)
    (hvalue : ∀ group ∈ groups, (pairValue group).isSome ∨ (signedValue group).isSome) :
    ∃ mac : MacAddress, List.Forall₂ (fun group octet => pairValue group = some octet.toNat ∨
      signedValue group = some octet.toNat) groups ((List.finRange 6).map mac.octets) := by
  let octet (group : Text) : UInt8 :=
    UInt8.ofNat ((pairValue group <|> signedValue group).getD 0)
  have hoctet : ∀ group ∈ groups, pairValue group = some (octet group).toNat ∨
      signedValue group = some (octet group).toNat := by
    intro group hgroup
    cases hpair : pairValue group with
    | some value =>
      left
      have hread : octet group = UInt8.ofNat value := by simp [octet, hpair]
      have hkept : value = (UInt8.ofNat value).toNat := (ofNat_eq_iff (pairValue_lt hpair)).1 rfl
      rw [hread, ← hkept]
    | none =>
      right
      obtain ⟨value, hsigned⟩ : ∃ value, signedValue group = some value :=
        Option.isSome_iff_exists.1 ((hvalue group hgroup).resolve_left (by simp [hpair]))
      have hsmall : value < 256 := Nat.lt_trans (signedValue_lt hsigned) (by decide)
      have hread : octet group = UInt8.ofNat value := by simp [octet, hpair, hsigned]
      have hkept : value = (UInt8.ofNat value).toNat := (ofNat_eq_iff hsmall).1 rfl
      rw [hsigned, hread, ← hkept]
  have hmapped : (groups.map octet).length = 6 := by rw [List.length_map, hlength]
  refine ⟨⟨fun i => (groups.map octet).get (i.cast hmapped.symm)⟩, ?_⟩
  rw [← (MacAddress.octets_eq_iff hmapped _).1 rfl, List.forall₂_map_right_iff,
    List.forall₂_same]
  exact hoctet

/-- The groups of a text are its own. -/
theorem groups_unique {groups others : List Text} {octets : List UInt8}
    (hgroups : List.Forall₂ (fun group octet => pairValue group = some octet.toNat) others octets)
    (hlength : groups.length = 6)
    (hvalue : ∀ group ∈ groups, (pairValue group).isSome ∨ (signedValue group).isSome)
    (hothers : octets ≠ []) (h : [':'].intercalate groups = [':'].intercalate others) :
    groups = others := by
  have hne : groups ≠ [] := by
    rintro rfl
    simp at hlength
  have hothersNe : others ≠ [] := by
    rintro rfl
    exact hothers (List.forall₂_nil_left_iff.1 hgroups)
  have hown : splitAll ':' ([':'].intercalate groups) = groups := by
    refine Str.splitAll_intercalate hne fun group hgroup => ?_
    rcases hvalue group hgroup with hpair | hsigned
    · exact notMem_of_value (.inl (Option.some_get hpair).symm)
    · exact notMem_of_value (.inr (Option.some_get hsigned).symm)
  have htheirs : splitAll ':' ([':'].intercalate others) = others := by
    refine Str.splitAll_intercalate hothersNe fun group hgroup => ?_
    obtain ⟨octet, -, hpair⟩ := exists_of_forall₂ hgroups hgroup
    exact notMem_of_value (.inl hpair)
  rw [← hown, h, htheirs]

/-- A signed group is no pair of digits. -/
theorem pairValue_signed {group : Text} (h : (signedValue group).isSome) :
    pairValue group = none := by
  have hplus : hexValue '+' = none := by decide
  unfold signedValue at h
  split at h
  · split at h
    · rename_i sign digit hsign
      simp [pairValue, hsign, hplus]
    · simp at h
  · simp at h

/-! ## Rendering -/

/-- The digit printed for a hexadecimal value is the lower case of the one read. -/
theorem digitChar_of_hexValue {c : Char} {value : Nat} (h : hexValue c = some value) :
    Nat.digitChar value = c.toLower := by
  have hdigits : ∀ n : Fin 16, hexDigits[n.val]? = some (Nat.digitChar n) := by decide
  obtain ⟨hlt, hget, -⟩ := List.idxOf?_eq_some_iff.1 h
  have hdigit := hdigits ⟨value, hexValue_lt h⟩
  rw [List.getElem?_eq_getElem hlt, hget] at hdigit
  exact (Option.some_inj.1 hdigit).symm

/-- An octet read from a pair of digits is printed as that pair in lower case. -/
theorem hexOctet_of_pairValue {group : Text} {octet : UInt8}
    (h : pairValue group = some octet.toNat) : hexOctet octet = group.map Char.toLower := by
  unfold pairValue at h
  split at h
  · rename_i high low
    cases hhigh : hexValue high with
    | none => simp [hhigh] at h
    | some a =>
      cases hlow : hexValue low with
      | none => simp [hhigh, hlow] at h
      | some b =>
        have hvalue : 16 * a + b = octet.toNat := by simpa [hhigh, hlow] using h
        have hb := hexValue_lt hlow
        have hquot : octet.toNat / 16 = a := by omega
        have hrem : octet.toNat % 16 = b := by omega
        rw [hexOctet, hquot, hrem, digitChar_of_hexValue hhigh, digitChar_of_hexValue hlow]
        rfl
  · cases h

/-- What is printed is what was written, in lower case. -/
theorem MacAddress.Spells.text_eq {mac : MacAddress} {s : Text} (h : mac.Spells s) :
    mac.text = s.map Char.toLower := by
  obtain ⟨groups, rfl, hgroups⟩ := h
  have hlower : ((List.finRange 6).map mac.octets).map hexOctet
      = groups.map (List.map Char.toLower) := by
    generalize (List.finRange 6).map mac.octets = octets at hgroups
    induction hgroups with
    | nil => rfl
    | cons hpair hrest ih =>
      rw [List.map_cons, List.map_cons, hexOctet_of_pairValue hpair, ih]
  rw [MacAddress.text_eq, hlower]
  generalize groups = parts
  induction parts with
  | nil => rfl
  | cons part parts ih =>
    cases parts with
    | nil => simp
    | cons next parts =>
      rw [List.map_cons, List.map_cons, List.intercalate_cons_cons, ← List.map_cons, ih,
        List.intercalate_cons_cons, List.map_append, List.map_append]
      rfl

/-! ## The reader and the grammar -/

/-- A text with no signed group follows the grammar. -/
theorem followsMacGrammar_of_unsigned {s : Text} (h : ¬ SignedMac s) : FollowsMacGrammar s := by
  have hspells : ∀ mac, MacAddress.parse s = some mac → mac.Spells s := by
    intro mac hparse
    obtain ⟨groups, hs, hgroups⟩ := MacAddress.parse_eq_some.1 hparse
    have hlength : groups.length = 6 := by simpa using hgroups.length_eq
    have hvalue : ∀ group ∈ groups, (pairValue group).isSome ∨ (signedValue group).isSome := by
      intro group hgroup
      obtain ⟨octet, -, hpair | hsigned⟩ := exists_of_forall₂ hgroups hgroup
      · exact .inl (by simp [hpair])
      · exact .inr (by simp [hsigned])
    refine ⟨groups, hs, ?_⟩
    rw [List.forall₂_iff_zip] at hgroups ⊢
    refine ⟨hgroups.1, fun {group octet} hmem => ?_⟩
    rcases hgroups.2 hmem with hpair | hsigned
    · exact hpair
    · exact absurd ⟨groups, hs, hlength, hvalue, group, (List.of_mem_zip hmem).1,
        by simp [hsigned]⟩ h
  refine ⟨⟨?_, ?_⟩, fun mac hparse => ⟨hspells mac hparse, (hspells mac hparse).text_eq⟩⟩
  · rintro ⟨mac, hparse⟩
    obtain ⟨groups, hs, hgroups⟩ := hspells mac hparse
    refine ⟨groups, hs, by simpa using hgroups.length_eq, fun group hgroup => ?_⟩
    obtain ⟨octet, -, hpair⟩ := exists_of_forall₂ hgroups hgroup
    simp [hpair]
  · rintro ⟨groups, hs, hlength, hpairs⟩
    obtain ⟨mac, hmac⟩ := exists_mac hlength fun group hgroup => .inl (hpairs group hgroup)
    exact ⟨mac, MacAddress.parse_eq_some.2 ⟨groups, hs, hmac⟩⟩

/-- A text of six groups, one of them signed, is accepted outside the grammar. -/
theorem not_followsMacGrammar_of_signed {s : Text} (h : SignedMac s) : ¬ FollowsMacGrammar s := by
  obtain ⟨groups, hs, hlength, hvalue, group, hgroup, hsigned⟩ := h
  obtain ⟨mac, hmac⟩ := exists_mac hlength hvalue
  intro hfollows
  obtain ⟨others, hothers, hpairs⟩ :=
    (hfollows.read mac (MacAddress.parse_eq_some.2 ⟨groups, hs, hmac⟩)).1
  -- the groups of an address are unique, so the signed one would be a pair
  have hsame := groups_unique hpairs hlength hvalue (by simp) (hs.symm.trans hothers)
  obtain ⟨octet, -, hpair⟩ := exists_of_forall₂ hpairs (hsame ▸ hgroup)
  rw [pairValue_signed hsigned] at hpair
  cases hpair

/-- **The grammar of hardware addresses.** The reader takes exactly six pairs of hexadecimal
digits, reads their values and prints them in lower case, but for the texts in which a group is a
plus and a digit; and every address that is printed is read back. -/
theorem mac_grammar (s : Text) (mac : MacAddress) :
    (FollowsMacGrammar s ↔ ¬ SignedMac s) ∧ MacAddress.parse mac.text = some mac := by
  refine ⟨⟨fun hfollows hsigned => ?_, followsMacGrammar_of_unsigned⟩, MacAddress.parse_text mac⟩
  exact not_followsMacGrammar_of_signed hsigned hfollows

/-- A plus before the first digit is read, although the group is no pair of digits. -/
theorem plus_is_read :
    (∃ mac, MacAddress.parse "+a:00:00:00:00:00".toList = some mac) ∧
      ¬ SixPairs "+a:00:00:00:00:00".toList := by
  constructor
  · exact Option.isSome_iff_exists.1 (by decide)
  · rintro ⟨groups, hs, hlength, hpairs⟩
    have hne : groups ≠ [] := by
      rintro rfl
      simp at hlength
    have hsplit : splitAll ':' "+a:00:00:00:00:00".toList = groups := by
      rw [hs, Str.splitAll_intercalate hne]
      intro group hgroup
      exact notMem_of_value (.inl (Option.some_get (hpairs group hgroup)).symm)
    have hmem : "+a".toList ∈ groups := by
      rw [← hsplit]
      decide
    exact absurd (hpairs _ hmem) (by decide)

end LgBuddy
