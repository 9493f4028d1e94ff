import GridScript.Host.ExportKind
import GridScript.Script.Dialect

/-!
# Settings

What a user can set: the dialect of scripts, what happens on errors, and the
folders of exports.
-/

namespace GridScript

/-- How scripts are run. -/
structure Policy where
  /-- Whether the first command that fails is the last one. -/
  stopOnError : Bool := false
  /-- Whether a script with errors is not run at all. -/
  skipOnParseErrors : Bool := false
  /-- Whether each command is told before it is run. -/
  echo : Bool := false
  deriving DecidableEq, Repr, Inhabited

/-- All settings. -/
structure Settings where
  dialect : Dialect := {}
  policy : Policy := {}
  /-- Names of export folders in place of the usual ones. -/
  folders : ByKind String := .empty
  deriving DecidableEq, Repr, Inhabited

namespace Separator

/-- The name in settings. -/
def settingName : Separator → String
  | equals => "equals"
  | whitespace => "whitespace"
  | either => "either"

def ofSettingName? (name : String) : Option Separator :=
  [equals, whitespace, either].find? (·.settingName == name)

theorem ofSettingName?_settingName (separator : Separator) :
    ofSettingName? separator.settingName = some separator := by
  cases separator <;> decide

end Separator

end GridScript
