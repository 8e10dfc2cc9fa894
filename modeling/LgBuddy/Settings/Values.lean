import LgBuddy.Settings.ConfigLines
import LgBuddy.Settings.Registry
import Mathlib.Algebra.Group.Int.Defs

/-!
# LgBuddy — setting values as text

A value that a setting takes is written so that it is read back as it was.

* `PlainValue` — a text without space or comment mark in it;
* `Ipv4Addr.parse_text`, `MacAddress.parse_text`, `parseI128_natCast` — one kind of value each;
* `SettingType.Sound` — what the types of the settings have in common;
* `Admits`, `admits_of_parseValue` — every value that a setting takes is plain and read back.
-/

namespace LgBuddy

open Str (isWhitespace splitAll)

/-- No space in it, and no mark of a comment. -/
def PlainValue (value : Text) : Prop := ∀ c ∈ value, isWhitespace c = false ∧ c ≠ '#'

instance (value : Text) : Decidable (PlainValue value) :=
  inferInstanceAs (Decidable (∀ c ∈ value, isWhitespace c = false ∧ c ≠ '#'))

/-- Plain parts with a plain sign between them. -/
theorem PlainValue.intercalate {sign : Char} (hsign : PlainValue [sign]) {parts : List Text}
    (hparts : ∀ part ∈ parts, PlainValue part) : PlainValue ([sign].intercalate parts) := by
  induction parts with
  | nil => exact List.forall_mem_nil _
  | cons part parts ih =>
    cases parts with
    | nil => simpa using hparts part (.head _)
    | cons next parts =>
      rw [List.intercalate_cons_cons]
      intro c hc
      rcases List.mem_append.1 hc with hc | hc
      · rcases List.mem_append.1 hc with hc | hc
        · exact hparts part (.head _) c hc
        · exact hsign c hc
      · exact ih (fun p hp => hparts p (.tail _ hp)) c hc

/-! ## Addresses -/

/-- Reading undoes writing, part by part. -/
theorem mapM_map_of_left_inverse {α β : Type} {parse : β → Option α} {render : α → β}
    {xs : List α} (h : ∀ x ∈ xs, parse (render x) = some x) :
    (xs.map render).mapM parse = some xs := by
  induction xs with
  | nil => rfl
  | cons x xs ih =>
    rw [List.map_cons, List.mapM_cons, h x (.head _), ih fun y hy => h y (.tail _ hy)]
    rfl

/-- The decimal digits of an octet. -/
def decimalOctet (octet : UInt8) : Text := Nat.toDigits 10 octet.toNat

/-- What holds of the 256 numbers holds of every octet. -/
theorem octet_cases {P : UInt8 → Prop} (h : ∀ n : Fin 256, P (UInt8.ofNat n)) (octet : UInt8) :
    P octet := by
  have hoctet := h ⟨octet.toNat, octet.toNat_lt⟩
  rwa [UInt8.ofNat_toNat] at hoctet

/-- An octet is read back from its digits. -/
theorem ipv4Octet_decimalOctet : ∀ octet, ipv4Octet (decimalOctet octet) = some octet :=
  octet_cases (by decide +kernel)

/-- The digits of an octet are plain, and no dot is among them. -/
theorem decimalOctet_plain :
    ∀ octet, PlainValue (decimalOctet octet) ∧ '.' ∉ decimalOctet octet :=
  octet_cases (by decide +kernel)

/-- A pair of hexadecimal digits, as `MacAddress.parse` reads it. -/
theorem u8FromStrRadix_hexOctet :
    ∀ octet, Str.utf8Len (hexOctet octet) = 2 ∧ u8FromStrRadix 16 (hexOctet octet) = some octet :=
  octet_cases (by decide +kernel)

/-- The hex digits of an octet are plain, and no colon is among them. -/
theorem hexOctet_plain : ∀ octet, PlainValue (hexOctet octet) ∧ ':' ∉ hexOctet octet :=
  octet_cases (by decide +kernel)

/-- An address is its four octets between dots. -/
theorem Ipv4Addr.text_eq (address : Ipv4Addr) :
    address.text = ['.'].intercalate
      (((List.finRange 4).map address.octets).map decimalOctet) := by
  have hdigits (octet : UInt8) : (toString octet).toList = decimalOctet octet :=
    Nat.toList_repr
  have hlist : (List.finRange 4).map address.octets
      = [address.octets 0, address.octets 1, address.octets 2, address.octets 3] := rfl
  rw [hlist]
  simp only [Ipv4Addr.text, toString, String.toList_append, List.map_cons, List.map_nil,
    List.intercalate_cons_cons, List.intercalate_singleton]
  simp only [← hdigits, toString]
  simp

/-- An address is read back from its text. -/
theorem Ipv4Addr.parse_text (address : Ipv4Addr) : Ipv4Addr.parse address.text = some address := by
  have hsplit : splitAll '.' address.text
      = ((List.finRange 4).map address.octets).map decimalOctet := by
    rw [Ipv4Addr.text_eq]
    apply Str.splitAll_intercalate (by simp)
    intro part hpart
    obtain ⟨octet, -, rfl⟩ := List.mem_map.1 hpart
    exact (decimalOctet_plain octet).2
  have hoctets : (((List.finRange 4).map address.octets).map decimalOctet).mapM ipv4Octet
      = some ((List.finRange 4).map address.octets) :=
    mapM_map_of_left_inverse fun octet _ => ipv4Octet_decimalOctet octet
  have hlength : ((List.finRange 4).map address.octets).length = 4 := by simp
  unfold Ipv4Addr.parse
  rw [hsplit, hoctets, Option.bind_eq_bind, Option.bind_some, dif_pos hlength]
  simp

/-- The text of an address is plain. -/
theorem Ipv4Addr.text_plain (address : Ipv4Addr) : PlainValue address.text := by
  rw [Ipv4Addr.text_eq]
  apply PlainValue.intercalate (by decide)
  intro part hpart
  obtain ⟨octet, -, rfl⟩ := List.mem_map.1 hpart
  exact (decimalOctet_plain octet).1

/-- A MAC address is its six octets between colons. -/
theorem MacAddress.text_eq (mac : MacAddress) :
    mac.text = [':'].intercalate (((List.finRange 6).map mac.octets).map hexOctet) := by
  rw [List.map_map]
  rfl

/-- A hardware address is read back from its text. -/
theorem MacAddress.parse_text (mac : MacAddress) : MacAddress.parse mac.text = some mac := by
  have hsplit : splitAll ':' mac.text = ((List.finRange 6).map mac.octets).map hexOctet := by
    rw [MacAddress.text_eq]
    apply Str.splitAll_intercalate (by simp)
    intro part hpart
    obtain ⟨octet, -, rfl⟩ := List.mem_map.1 hpart
    exact (hexOctet_plain octet).2
  have hoctet (octet : UInt8) :
      (if Str.utf8Len (hexOctet octet) ≠ 2 then none else u8FromStrRadix 16 (hexOctet octet))
        = some octet := by
    obtain ⟨hlength, hvalue⟩ := u8FromStrRadix_hexOctet octet
    rw [if_neg (not_not.2 hlength), hvalue]
  have hoctets : (((List.finRange 6).map mac.octets).map hexOctet).mapM (fun part =>
      if Str.utf8Len part ≠ 2 then none else u8FromStrRadix 16 part)
        = some ((List.finRange 6).map mac.octets) :=
    mapM_map_of_left_inverse fun octet _ => hoctet octet
  have hlength : ((List.finRange 6).map mac.octets).length = 6 := by simp
  unfold MacAddress.parse
  rw [hsplit, hoctets, Option.bind_eq_bind, Option.bind_some, dif_pos hlength]
  simp

/-- The text of a hardware address is plain. -/
theorem MacAddress.text_plain (mac : MacAddress) : PlainValue mac.text := by
  rw [MacAddress.text_eq]
  apply PlainValue.intercalate (by decide)
  intro part hpart
  obtain ⟨octet, -, rfl⟩ := List.mem_map.1 hpart
  exact (hexOctet_plain octet).1

/-! ## Numbers -/

/-- A number is read back from its digits. -/
theorem parseDigits_toDigits (n : Nat) : parseDigits (Nat.toDigits 10 n) = some n := by
  have hcanonical := Decimal.canonical_toDigits n
  unfold parseDigits
  rw [if_pos ⟨hcanonical.nonempty, List.all_eq_true.2 hcanonical.digit⟩,
    Decimal.value_toDigits]

/-- A digit is plain. -/
theorem digit_plain {c : Char} (h : c.isDigit = true) : isWhitespace c = false ∧ c ≠ '#' := by
  obtain ⟨hlow, hhigh⟩ := Decimal.digit_toNat h
  have hcases : ∀ n : Fin 128, 48 ≤ n.val → n.val ≤ 57 →
      isWhitespace (Char.ofNat n) = false ∧ Char.ofNat n ≠ '#' := by decide
  have hc := hcases ⟨c.toNat, by omega⟩ hlow hhigh
  rwa [Char.ofNat_toNat] at hc

theorem toDigits_plain (n : Nat) : PlainValue (Nat.toDigits 10 n) :=
  fun c hc => digit_plain ((Decimal.canonical_toDigits n).digit c hc)

namespace Settings

/-- Without a sign in front. -/
theorem parseI128_of_digits {digits : Text} (h : ∀ c ∈ digits, c.isDigit = true) :
    parseI128 digits = (parseDigits digits).bind fun n => if n < 2 ^ 127 then some (n : Int)
      else none := by
  unfold parseI128
  split
  · exact absurd (h '-' (.head _)) (by decide)
  · exact absurd (h '+' (.head _)) (by decide)
  · rfl

/-- A number that fits is read back. -/
theorem parseI128_natCast {n : Nat} (h : n < 2 ^ 127) :
    parseI128 (toString (n : Int)).toList = some (n : Int) := by
  have htext : (toString (n : Int)).toList = Nat.toDigits 10 n := Nat.toList_repr
  rw [htext, parseI128_of_digits (Decimal.canonical_toDigits n).digit, parseDigits_toDigits,
    Option.bind_some, if_pos h]

/-! ## Types -/

/-- Every name is read as itself, and no number is negative. -/
def SettingType.Sound : SettingType → Prop
  | .enum enumType => ∀ name ∈ enumType.values ++ enumType.aliases.map SettingAlias.toName,
      enumType.canonicalize name.toList = some name ∧ PlainValue name.toList
  | .integer integerType =>
    0 ≤ integerType.min ∧ integerType.min ≤ integerType.max ∧ integerType.max < 2 ^ 127
  | .ipv4 | .macAddress => True

instance (valueType : SettingType) : Decidable valueType.Sound := by
  unfold SettingType.Sound
  cases valueType <;> infer_instance

/-- A canonical name is a value, or what an alias stands for. -/
theorem EnumSettingType.canonicalize_mem {enumType : EnumSettingType} {raw : Text}
    {name : String} (h : enumType.canonicalize raw = some name) :
    name ∈ enumType.values ++ enumType.aliases.map SettingAlias.toName := by
  unfold EnumSettingType.canonicalize at h
  split at h
  · rename_i hfound
    rw [← Option.some.inj h]
    exact List.mem_append_left _ (List.mem_of_find?_eq_some hfound)
  · obtain ⟨pair, hfound, rfl⟩ := Option.map_eq_some_iff.1 h
    exact List.mem_append_right _
      (List.mem_map_of_mem (List.mem_of_find?_eq_some hfound))

/-- A value within the bounds is not moved. -/
theorem IntegerSettingType.coerce_coerce (integerType : IntegerSettingType) (value : Int) :
    integerType.coerce (integerType.coerce value) = integerType.coerce value := by
  unfold IntegerSettingType.coerce
  split
  · rw [if_neg (lt_irrefl _)]
  · rfl

/-- A coerced value lies within the bounds. -/
theorem IntegerSettingType.le_coerce {integerType : IntegerSettingType} {value : Int}
    (hbounds : integerType.min ≤ integerType.max) (h : integerType.accepts value = true) :
    integerType.min ≤ integerType.coerce value ∧ integerType.coerce value ≤ integerType.max := by
  have hvalue : integerType.min ≤ value := of_decide_eq_true h
  unfold IntegerSettingType.coerce
  split
  · omega
  · omega

/-- **Reading undoes writing.** -/
theorem SettingType.read_text {valueType : SettingType} (hsound : valueType.Sound) {raw : Text}
    {value : SettingValue} (h : valueType.read raw = some value) :
    valueType.read value.text = some value ∧ PlainValue value.text := by
  cases valueType with
  | enum enumType =>
    obtain ⟨name, hname, rfl⟩ := Option.map_eq_some_iff.1 h
    obtain ⟨hread, hplain⟩ := hsound name (EnumSettingType.canonicalize_mem hname)
    exact ⟨congrArg (Option.map SettingValue.enum) hread, hplain⟩
  | integer integerType =>
    obtain ⟨hmin, hbounds, hmax⟩ := hsound
    obtain ⟨parsed, hparsed, rfl⟩ := Option.map_eq_some_iff.1 h
    obtain ⟨-, haccepts⟩ := Option.filter_eq_some_iff.1 hparsed
    obtain ⟨hlow, hhigh⟩ := IntegerSettingType.le_coerce hbounds haccepts
    obtain ⟨n, hn⟩ := Int.eq_ofNat_of_zero_le (hmin.trans hlow)
    have hread : parseI128 (toString (integerType.coerce parsed)).toList
        = some (integerType.coerce parsed) := by
      rw [hn]
      exact parseI128_natCast (by omega)
    constructor
    · have hagain : integerType.accepts (integerType.coerce parsed) = true := decide_eq_true hlow
      show ((parseI128 (toString (integerType.coerce parsed)).toList).filter
        integerType.accepts).map _ = _
      rw [hread, Option.filter_some, if_pos hagain, Option.map_some,
        IntegerSettingType.coerce_coerce]
    · have htext : (toString (integerType.coerce parsed)).toList = Nat.toDigits 10 n := by
        rw [hn]
        exact Nat.toList_repr
      show PlainValue (toString (integerType.coerce parsed)).toList
      rw [htext]
      exact toDigits_plain n
  | ipv4 =>
    obtain ⟨address, -, rfl⟩ := Option.map_eq_some_iff.1 h
    exact ⟨congrArg (Option.map SettingValue.ipv4) (Ipv4Addr.parse_text address),
      Ipv4Addr.text_plain address⟩
  | macAddress =>
    obtain ⟨mac, -, rfl⟩ := Option.map_eq_some_iff.1 h
    exact ⟨congrArg (Option.map SettingValue.macAddress) (MacAddress.parse_text mac),
      MacAddress.text_plain mac⟩

/-! ## Settings -/

/-- A value is parsed exactly if its type reads it. -/
theorem SettingType.parseValue_eq_ok {valueType : SettingType} {key : String} {raw : Text}
    {value : SettingValue} :
    valueType.parseValue key raw = .ok value ↔ valueType.read raw = some value := by
  unfold SettingType.parseValue
  cases valueType.read raw with
  | none => simp
  | some parsed => simp

/-- The value is plain text that the setting reads as this value. -/
structure SettingDefinition.Admits (definition : SettingDefinition) (value : SettingValue) :
    Prop where
  read : definition.parseValue value.text = .ok value
  plain : PlainValue value.text

/-- Every type of the registry is sound. -/
theorem registry_sound : ∀ definition ∈ settingsRegistry, definition.valueType.Sound := by
  decide +kernel

/-- **Every value that a setting takes.** -/
theorem admits_of_parseValue {definition : SettingDefinition} (hmem : definition ∈ settingsRegistry)
    {raw : Text} {value : SettingValue} (h : definition.parseValue raw = .ok value) :
    definition.Admits value := by
  obtain ⟨hread, hplain⟩ := SettingType.read_text (registry_sound definition hmem)
    (SettingType.parseValue_eq_ok.1 h)
  exact ⟨SettingType.parseValue_eq_ok.2 hread, hplain⟩

/-- The defaults are among them. -/
theorem registry_defaults : ∀ definition ∈ settingsRegistry, ∀ value ∈ definition.defaultValue,
    definition.valueType.read value.text = some value := by
  decide +kernel

/-- Every default passes its own check. -/
theorem admits_default {definition : SettingDefinition} (hmem : definition ∈ settingsRegistry)
    {value : SettingValue} (h : definition.defaultValue = some value) :
    definition.Admits value :=
  admits_of_parseValue hmem
    (SettingType.parseValue_eq_ok.2 (registry_defaults definition hmem value h))

end Settings

end LgBuddy
