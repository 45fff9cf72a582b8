import ScriptRoster.Host
import ScriptRoster.Text.Blank

/-!
# Script locations

A script is configured by a raw text, which may begin with a tilde, and located at the canonical
path of a regular file.
-/

namespace ScriptRoster

open Files Text

/-- A script as it was configured and the canonical path it was found at. -/
structure Location where
  raw : String
  resolved : Path
  deriving DecidableEq, Repr, Inhabited

/-- Why a configured text locates no script. -/
inductive ResolveError where
  | unconfigured
  | notFound (path : String)
  | notAFile (path : String)
  | io (path : String) (cause : FileError)
  deriving DecidableEq, Repr

def ResolveError.message : ResolveError → String
  | .unconfigured =>
      "No script path is configured. Set 'script_path' in the settings or pass --script."
  | .notFound path => "Script not found: '" ++ path ++ "'"
  | .notAFile path => "'" ++ path ++ "' is not a regular file."
  | .io path cause => "Could not resolve '" ++ path ++ "': " ++ cause.message

namespace Location

/-- Locates the script that a configured text names. -/
def resolve (host : Host) (raw : String) : Except ResolveError Location :=
  if (trim raw).isEmpty then .error .unconfigured
  else
    let expanded := host.expandHome raw
    match host.files.find host.cwd (.ofString expanded) with
    | .ok (place, .file _ _) => .ok ⟨raw, .ofPlace place⟩
    | .ok (place, .program _) => .ok ⟨raw, .ofPlace place⟩
    | .ok _ => .error (.notAFile expanded)
    | .error .notFound => .error (.notFound expanded)
    | .error cause => .error (.io expanded cause)

/-- The topic of notices on paths. -/
def topic : String := "psfunc::core::paths"

/-- What is noted while a script is located. -/
def remarks (host : Host) (raw : String) : Journal :=
  if (trim raw).isEmpty then []
  else
    ⟨.debug, topic, "Resolving script path '" ++ raw ++ "' -> '" ++ host.expandHome raw ++ "'"⟩ ::
      match resolve host raw with
      | .ok location =>
          [⟨.debug, topic, "Script resolved to '" ++ location.resolved.display ++ "'"⟩]
      | .error _ => []

end Location

end ScriptRoster
