import ScriptRoster.Host
import ScriptRoster.Settings.Form

/-!
# The settings file

Settings are read from a file. Where no file is, one with the defaults is written.
-/

namespace ScriptRoster

open Files

/-- Why settings are not to be had. -/
inductive SettingsError where
  | directory (cause : DirectoryError)
  | io (path : String) (cause : FileError)
  | parse (path source : String) (fault : Toml.Fault)
  deriving DecidableEq, Repr

def SettingsError.message : SettingsError → String
  | .directory cause => cause.message
  | .io path cause => "Could not access settings file '" ++ path ++ "': " ++ cause.message
  | .parse path source fault => "Invalid settings in '" ++ path ++ "': " ++ fault.message source

namespace Settings

/-- What is noted when a settings file is made. -/
def created (path : Path) : Journal :=
  [⟨.info, "psfunc::system::settings",
    "Created default settings at '" ++ path.display ++ "'"⟩]

/-- Loads the settings at a path, after making the file if nothing is there. -/
def load (host : Host) (path : Path) : Except SettingsError Settings × Host × Journal :=
  if host.files.exists? host.cwd path then
    match host.files.readText host.cwd path with
    | .error cause => (.error (.io path.display cause), host, [])
    | .ok source =>
        match ofText source with
        | .ok settings => (.ok settings, host, [])
        | .error fault => (.error (.parse path.display source fault), host, [])
  else
    match host.files.write host.cwd path (Text.encode defaults.text) host.now with
    | .ok files => (.ok defaults, { host with files }, created path)
    | .error cause => (.error (.io path.display cause), host, [])

/-- The name of the settings file. -/
def fileName : String := "config.toml"

/-- Loads the settings of the user. -/
def loadDefault (host : Host) : Except SettingsError Settings × Host × Journal :=
  match host.settingsDirectory with
  | .ok (dir, host) => load host (dir.join (.ofString fileName))
  | .error cause => (.error (.directory cause), host, [])

end Settings

end ScriptRoster
