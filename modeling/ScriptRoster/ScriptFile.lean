import ScriptRoster.Extraction
import ScriptRoster.Files.Tree

/-!
# Script files

A script file holds UTF-8; a byte order mark at its start is not part of the script.
-/

namespace ScriptRoster

open Files Text

/-- The text without a byte order mark at its start. -/
def dropMark (text : String) : String :=
  match text.toList with
  | '\ufeff' :: rest => String.ofList rest
  | _ => text

/-- Reads the script at a path. -/
def readScript (files : FileTree) (cwd : Place) (path : Path) : Except ExtractionError String :=
  match files.read cwd path with
  | .error cause => .error (.read path.display cause.message)
  | .ok content =>
      match decode content with
      | .error error => .error (.read path.display error.message)
      | .ok text => .ok (dropMark text)

namespace Extraction

/-- The notice that ends a successful extraction from a file. -/
def fileRemarks (path : Path) : Except ExtractionError Extracted → Journal
  | .ok found =>
      [⟨.debug, topic, "Extracted " ++ toString found.names.length ++ " function(s) from '"
        ++ path.display ++ "' using the " ++ found.strategy.name ++ " strategy"⟩]
  | .error _ => []

/-- Extracts the names of a script that was read from a file. -/
def ofScript (sources : List Source) (preference : Preference) (path : Path) (content : String) :
    Extraction :=
  let extraction := ofText sources preference content
  { extraction with journal := extraction.journal ++ fileRemarks path extraction.outcome }

/-- Extracts the names of the script at a path. -/
def ofFile (files : FileTree) (cwd : Place) (sources : List Source) (preference : Preference)
    (path : Path) : Extraction :=
  match readScript files cwd path with
  | .ok content => ofScript sources preference path content
  | .error error => ⟨.error error, [], []⟩

end Extraction

end ScriptRoster
