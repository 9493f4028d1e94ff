import GridScript.Settings.Basic
import GridScript.Toml.Quoted

/-!
# Writing settings

All settings as a TOML document.
-/

namespace GridScript

namespace Settings

def boolText (value : Bool) : String :=
  if value then "true" else "false"

def quotedText (text : String) : String :=
  String.ofList (Toml.quoted text.toList)

/-- A name and its value on a line. -/
def settingLine (name value : String) : String :=
  name ++ " = " ++ value ++ "\n"

def dialectText (dialect : Dialect) : String :=
  "[syntax]\n" ++
    settingLine "argument_separator"
      (quotedText dialect.separator.settingName) ++
    settingLine "allow_positional" (boolText dialect.positional) ++
    settingLine "comment_prefix" (quotedText (String.singleton dialect.comment))

def policyText (policy : Policy) : String :=
  "[execution]\n" ++
    settingLine "stop_on_error" (boolText policy.stopOnError) ++
    settingLine "skip_execution_on_parse_errors"
      (boolText policy.skipOnParseErrors) ++
    settingLine "echo" (boolText policy.echo)

/-- The folders in the order of their kinds. -/
def foldersText (folders : ByKind String) : String :=
  "[export.default_folders]\n" ++
    String.join (folders.toList.map fun (kind, folder) =>
      settingLine kind.folderName (quotedText folder))

/-- The settings as a document. -/
def toToml (settings : Settings) : String :=
  joinWith "\n" [dialectText settings.dialect, policyText settings.policy,
    foldersText settings.folders]

end Settings

end GridScript
