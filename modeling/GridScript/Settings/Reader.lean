import GridScript.Settings.Basic
import GridScript.Toml.Reader

/-!
# Reading settings

Settings from a TOML document.  What is missing has its default, and other names
are passed over.
-/

namespace GridScript

namespace Settings

/-- The fields of a group of settings.  A table names them; an array gives them
in order, with further items passed over.  A date has no fields. -/
def fieldsOf? (names : List String) : Toml → Option TomlEntries
  | .table _ entries => some entries
  | .array items => some (names.zip items)
  | .tables items => some (names.zip (items.map (.table .header)))
  | .dateTime => some []
  | _ => none

/-- A field, or its default if it is missing. -/
def fieldOr {α : Type} (fields : TomlEntries) (name : String) (default : α)
    (read : Toml → Option α) : Option α :=
  match fields.get? name with
  | none => some default
  | some value => read value

def bool? : Toml → Option Bool
  | .boolean value => some value
  | _ => none

def text? : Toml → Option String
  | .string value => some value
  | _ => none

/-- A text of one character. -/
def char? : Toml → Option Char
  | .string value =>
    match value.toList with
    | [c] => some c
    | _ => none
  | _ => none

/-- Whether a value holds nothing. -/
def isEmptyValue : Toml → Bool
  | .table _ entries => entries.isEmpty
  | .array items => items.isEmpty
  | .tables items => items.isEmpty
  | _ => false

/-- A separator: its name, or a table with the name alone and nothing in it. -/
def separator? : Toml → Option Separator
  | .string name => Separator.ofSettingName? name
  | .table _ [(name, value)] =>
    if isEmptyValue value then Separator.ofSettingName? name else none
  | _ => none

/-- Reads the dialect from the names `argument_separator`, `allow_positional`
and `comment_prefix`. -/
def dialect? (toml : Toml) : Option Dialect := do
  let fields ←
    fieldsOf? ["argument_separator", "allow_positional", "comment_prefix"] toml
  let usual : Dialect := {}
  return {
    separator := ←
      fieldOr fields "argument_separator" usual.separator separator?
    positional := ← fieldOr fields "allow_positional" usual.positional bool?
    comment := ← fieldOr fields "comment_prefix" usual.comment char? }

/-- Reads the policy from the names `stop_on_error`,
`skip_execution_on_parse_errors` and `echo`. -/
def policy? (toml : Toml) : Option Policy := do
  let fields ← fieldsOf?
    ["stop_on_error", "skip_execution_on_parse_errors", "echo"] toml
  return {
    stopOnError := ← fieldOr fields "stop_on_error" false bool?
    skipOnParseErrors := ←
      fieldOr fields "skip_execution_on_parse_errors" false bool?
    echo := ← fieldOr fields "echo" false bool? }

/-- Reads the folders of a table.  Every name has to be the name of a kind. -/
def folders? : Toml → Option (ByKind String)
  | .table _ entries =>
    entries.foldlM (fun folders (name, value) => do
      let kind ← ExportKind.ofFolderName? name
      return folders.insert kind (← text? value)) .empty
  | _ => none

/-- Reads the group with the export folders. -/
def exports? (toml : Toml) : Option (ByKind String) := do
  fieldOr (← fieldsOf? ["default_folders"] toml) "default_folders" .empty
    folders?

/-- Reads all settings from the entries of a document. -/
def ofEntries? (entries : TomlEntries) : Option Settings := do
  return {
    dialect := ← fieldOr entries "syntax" {} dialect?
    policy := ← fieldOr entries "execution" {} policy?
    folders := ← fieldOr entries "export" .empty exports? }

/-- Reads settings from the text of a document. -/
def parse? (text : String) : Option Settings :=
  (Toml.parse? text).bind ofEntries?

end Settings

end GridScript
