import ScriptRoster.Extraction
import ScriptRoster.Text.Blank

/-!
# Settings

What a user may set, the defaults, and which of several configured scripts counts.
-/

namespace ScriptRoster

/-- What the key of a list of names is made from: the path of its script alone, or the path and
the time of the script's last change. -/
inductive KeyMode where
  | modified
  | fixed
  deriving DecidableEq, Repr, Inhabited

/-- The settings of a user. -/
structure Settings where
  scriptPath : String
  interpreter : String
  interpreterArguments : List String
  strategy : Preference
  keyMode : KeyMode
  /-- The longest time a function may run, in seconds; without it there is no end to waiting. -/
  timeout : Option Nat
  deriving DecidableEq, Repr

namespace Settings

/-- The settings that hold where nothing is set. The interpreter shows no banner, reads no
profile, asks nothing and runs scripts whatever the policy. -/
def defaults : Settings where
  scriptPath := ""
  interpreter := "pwsh"
  interpreterArguments :=
    ["-NoLogo", "-NoProfile", "-NonInteractive", "-ExecutionPolicy", "Bypass", "-Command"]
  strategy := .auto
  keyMode := .modified
  timeout := none

/-- The first value that is not blank: from the command line, the environment, the settings. -/
def chosenScript (commandLine environment : Option String) (settings : Settings) : String :=
  (([commandLine, environment, some settings.scriptPath].filterMap id).find?
    fun value => !(Text.trim value).isEmpty).getD ""

end Settings

end ScriptRoster
