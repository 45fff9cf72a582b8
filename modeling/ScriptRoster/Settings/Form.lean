import ScriptRoster.Settings.Basic
import ScriptRoster.Toml.Expected
import ScriptRoster.Toml.Writer

/-!
# The form of settings

Settings are written as a TOML document. Fields that are left out have their defaults and keys that
are not known are passed over.
-/

namespace ScriptRoster

open Toml

/-- The names of the preferences. -/
def Preference.choices : List (String × Preference) :=
  [("auto", .auto), ("structural", .structural), ("textual", .textual)]

/-- The names of the key modes. -/
def KeyMode.choices : List (String × KeyMode) := [("modified", .modified), ("fixed", .fixed)]

def Preference.name : Preference → String
  | .auto => "auto"
  | .structural => "structural"
  | .textual => "textual"

def KeyMode.name : KeyMode → String
  | .modified => "modified"
  | .fixed => "fixed"

namespace Settings

/-- The settings with the value of one key. -/
def take (settings : Settings) (entry : Key × Node) : Except Fault Settings :=
  let (⟨key, _, _⟩, node) := entry
  if key = "script_path" then do
    let scriptPath ← node.asText
    return { settings with scriptPath }
  else if key = "interpreter" then do
    let interpreter ← node.asText
    return { settings with interpreter }
  else if key = "interpreter_args" then do
    let interpreterArguments ← node.asTexts
    return { settings with interpreterArguments }
  else if key = "strategy" then do
    let strategy ← node.asChoice Preference.choices
    return { settings with strategy }
  else if key = "cache_key" then do
    let keyMode ← node.asChoice KeyMode.choices
    return { settings with keyMode }
  else if key = "timeout_secs" then do
    let timeout ← node.asNatural
    return { settings with timeout := some timeout }
  else do
    node.ignore
    return settings

/-- The settings with the values of keys. -/
def takeAll : Settings → Entries → Except Fault Settings
  | settings, [] => .ok settings
  | settings, entry :: rest => do
      let settings ← settings.take entry
      takeAll settings rest

/-- The settings that a text holds. -/
def ofText (source : String) : Except Fault Settings := do
  let entries ← Toml.read source
  takeAll defaults entries.sorted

/-- The settings as a text. -/
def text (settings : Settings) : String :=
  entryLine "script_path" (textValue settings.scriptPath)
    ++ entryLine "interpreter" (textValue settings.interpreter)
    ++ entryLine "interpreter_args" (textsValue settings.interpreterArguments)
    ++ entryLine "strategy" (textValue settings.strategy.name)
    ++ entryLine "cache_key" (textValue settings.keyMode.name)
    ++ ((settings.timeout.map fun timeout => entryLine "timeout_secs" (toString timeout)).getD "")

end Settings

end ScriptRoster
