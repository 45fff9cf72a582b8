import ScriptRoster.Files.Tree
import ScriptRoster.Journal

/-!
# The host

What the program finds around it: files, a working directory, environment variables, and the time
new files are stamped with.
-/

namespace ScriptRoster

open Files

/-- Names and values of environment variables, a later entry behind an earlier one. -/
abbrev Environment := List (String × String)

/-- The surroundings of a run. -/
structure Host where
  files : FileTree
  cwd : Place
  environment : Environment
  now : Int
  deriving Inhabited

namespace Host

/-- The value of an environment variable. -/
def lookup? (host : Host) (name : String) : Option String := host.environment.lookup name

/-- The value of an environment variable that is set and not empty. -/
def nonempty? (host : Host) (name : String) : Option String :=
  (host.lookup? name).filter (· != "")

/-- The home directory of the account, where no variable names another. -/
def accountHome : String := "/root"

/-- The home directory. -/
def home (host : Host) : String := (host.nonempty? "HOME").getD accountHome

/-- The text with a leading tilde, alone or before a slash, replaced by the home directory. -/
def expandHome (host : Host) (raw : String) : String :=
  match raw.toList with
  | ['~'] => host.home
  | '~' :: '/' :: rest => host.home ++ String.ofList ('/' :: rest)
  | _ => raw

/-- The directory that a variable names by an absolute path, or else one below the home. -/
def baseDirectory (host : Host) (variableName fallback : String) : Path :=
  match host.lookup? variableName with
  | some value =>
      if (Path.ofString value).isAbsolute then .ofString value
      else (Path.ofString host.home).join (.ofString fallback)
  | none => (Path.ofString host.home).join (.ofString fallback)

end Host

/-- The name of the program's directories below those for settings and caches. -/
def applicationName : String := "psfunc"

/-- Why a directory of the program is not to be had. -/
inductive DirectoryError where
  | creation (path : String) (cause : FileError)
  deriving DecidableEq, Repr

def DirectoryError.message : DirectoryError → String
  | .creation path cause => "Could not create directory at '" ++ path ++ "': " ++ cause.message

namespace Host

/-- Makes a directory unless something is there. -/
def ensureDirectory (host : Host) (path : Path) : Except DirectoryError Host :=
  if host.files.exists? host.cwd path then .ok host
  else
    match host.files.makeDirectories host.cwd path with
    | .ok files => .ok { host with files }
    | .error cause => .error (.creation path.display cause)

/-- The path of the directory that holds the settings. -/
def settingsPath (host : Host) : Path :=
  (host.baseDirectory "XDG_CONFIG_HOME" ".config").join (.ofString applicationName)

/-- The path of the directory that holds cached names. -/
def cachePath (host : Host) : Path :=
  match host.nonempty? "PSFUNC_CACHE_DIR" with
  | some value => .ofString (host.expandHome value)
  | none => (host.baseDirectory "XDG_CACHE_HOME" ".cache").join (.ofString applicationName)

/-- The directory that holds the settings, made if need be. -/
def settingsDirectory (host : Host) : Except DirectoryError (Path × Host) :=
  (host.ensureDirectory host.settingsPath).map (host.settingsPath, ·)

/-- The directory that holds cached names, made if need be. -/
def cacheDirectory (host : Host) : Except DirectoryError (Path × Host) :=
  (host.ensureDirectory host.cachePath).map (host.cachePath, ·)

/-- Looks for a program among files: whatever is there but no program is not let to run. -/
def programAt (host : Host) (cwd : Place) (path : Path) : Except FileError String :=
  match host.files.find cwd path with
  | .ok (_, .program name) => .ok name
  | .ok _ => .error .denied
  | .error cause => .error cause

/-- Looks for a program in one directory after the other. One that is not let to run counts only
if no other is found. -/
def programIn (host : Host) (cwd : Place) (name : String) :
    List Path → Bool → Except FileError String
  | [], denied => .error (if denied then .denied else .notFound)
  | dir :: rest, denied =>
      match host.programAt cwd (dir.join (.ofString name)) with
      | .ok found => .ok found
      | .error .denied => programIn host cwd name rest true
      | .error .nameTooLong => .error .nameTooLong
      | .error _ => programIn host cwd name rest denied

/-- The directories that programs are looked for in, where no variable names them. -/
def commonProgramDirectories : String := "/bin:/usr/bin"

/-- The program that a name denotes for a process in a working directory: a name with a slash is a
path, any other is looked for in the directories for programs. -/
def program (host : Host) (cwd : Place) (name : String) : Except FileError String :=
  if name.isEmpty then .error .notFound
  else if name.contains '/' then host.programAt cwd (.ofString name)
  else
    let directories := ((host.lookup? "PATH").getD commonProgramDirectories).splitOn ":"
    host.programIn cwd name (directories.map Path.ofString) false

end Host

end ScriptRoster
