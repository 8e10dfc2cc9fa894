import LgBuddy.Settings.Registry
import LgBuddy.Text.Utf8

/-!
# LgBuddy — declared settings

`config/declarative.rs`: settings that are generated elsewhere and are not to be changed here.

* `Document`, `Declarations.parse` — a document of declarations, decoded and then checked;
* `Declarations.value`, `effectiveContents` — a declared value, and the config text with the
  declared values behind it;
* `ensureMutable`, `validateChanges` — the two guards of every writer.
-/

namespace LgBuddy.Settings

open LgBuddy

/-! ## Documents -/

/-- A JSON value, as far as it is told apart. -/
inductive DeclaredJson where
  | string (value : Text)
  /-- A number in the range of `i64` or of `u64`. -/
  | integer (value : Int)
  | bool (value : Bool)
  | other
  deriving DecidableEq, Repr

/-- The order of the map, in which no key comes twice. -/
def Increasing {α : Type} (entries : List (Text × α)) : Prop :=
  entries.Pairwise fun a b => a.1 < b.1

/-- A document that was decoded. -/
structure Document where
  version : Nat
  source : DeclarativeSource
  settings : List (Text × DeclaredJson)
  increasing : Increasing settings

/-- `path` is that of the document. -/
structure Declarations where
  path : String
  source : DeclarativeSource
  /-- By the definition of each setting, in the order of the public keys. -/
  values : List (SettingDefinition × SettingValue)

/-- `io::Error`, by its text. -/
structure IoError where
  message : String
  deriving DecidableEq, Repr

def invalidDeclaration (path reason : String) : IoError :=
  ⟨s!"invalid declarative configuration at {path}: {reason}"⟩

namespace Declarations

/-- Settings of these kinds may be declared. -/
def mayDeclare (key : Text) : Bool :=
  "screen.".toList.isPrefixOf key || "system.".toList.isPrefixOf key
    || "updates.".toList.isPrefixOf key

/-- A scalar as the text that the setting is read from. -/
def rawValue : DeclaredJson → Option Text
  | .string value => some value
  | .integer value => some (toString value).toList
  | .bool value => some (if value then "enabled".toList else "disabled".toList)
  | .other => none

/-- One entry of the document. -/
def parseEntry (path : String) (entry : Text × DeclaredJson) :
    Except IoError (SettingDefinition × SettingValue) :=
  match getByName entry.1 with
  | .error _ => .error (invalidDeclaration path "unknown setting key")
  | .ok definition =>
    if !mayDeclare entry.1 then
      .error (invalidDeclaration path ("only screen, system and update behavior settings may be "
        ++ "declared; TV profiles and credentials remain user-owned"))
    else
      match rawValue entry.2 with
      | none => .error (invalidDeclaration path "expected a scalar setting value")
      | some raw =>
        match definition.parseValue raw with
        | .ok value => .ok (definition, value)
        | .error _ =>
          .error (invalidDeclaration path
            s!"{String.ofList entry.1} requires {definition.valueType.expected}")

/-- Behind the JSON decoder. -/
def parse (path : String) (document : Document) : Except IoError Declarations :=
  if document.version ≠ 1 then
    .error (invalidDeclaration path "unsupported declaration version")
  else do
    let values ← document.settings.mapM (parseEntry path)
    return ⟨path, document.source, values⟩

def value (declarations : Declarations) (key : String) : Option SettingValue :=
  (declarations.values.find? fun entry => entry.1.key = key).map Prod.snd

/-- The line of a declared value. -/
def effectiveLine (entry : SettingDefinition × SettingValue) : Text :=
  entry.1.storageKey.toList ++ '=' :: entry.2.text

def effectiveContents (declarations : Declarations) (saved : Text) : Text :=
  saved ++ '\n' :: declarations.values.flatMap fun entry => effectiveLine entry ++ ['\n']

def reject (declarations : Declarations) (key : String) : SettingsError :=
  .managedSetting key declarations.path declarations.source

end Declarations

/-! ## Guards -/

/-- `ensure_mutable`, with the declarations loaded. -/
def ensureMutable (declarations : Option Declarations) (key : String) :
    Except SettingsError Unit :=
  match declarations with
  | none => .ok ()
  | some declared => if (declared.value key).isSome then .error (declared.reject key) else .ok ()

/-- The bytes as entries. -/
def declaredEntries (declared : Declarations) (bytes : List UInt8) :
    Except IoError (List (Text × Text)) :=
  match Str.fromUtf8 bytes with
  | some text => .ok (parseConfigEntries text)
  | none => .error (invalidDeclaration declared.path "config must be UTF-8")

/-- No key of a declared setting may change; the first one that does is named. -/
def firstChanged (declared : Declarations) (before after : List (Text × Text)) :
    Option SettingDefinition :=
  (declared.values.map Prod.fst).find? fun definition =>
    definition.storageKeys.any fun storageKey =>
      entryValue before storageKey ≠ entryValue after storageKey

/-- `validate_changes`, with the declarations loaded. -/
def validateChanges (declarations : Option Declarations) (before after : List UInt8) :
    Except IoError Unit :=
  match declarations with
  | none => .ok ()
  | some declared => do
    let before ← declaredEntries declared before
    let after ← declaredEntries declared after
    match firstChanged declared before after with
    | some definition => .error ⟨toString (declared.reject definition.key)⟩
    | none => .ok ()

end LgBuddy.Settings
