import ScriptRoster.CommandLine.Trouble
import ScriptRoster.Json.Reader
import ScriptRoster.Text.Duration

/-!
# Replies

What the program tells of an action that it has done.
-/

namespace ScriptRoster.CommandLine

open Files Cache

/-- What came of an action. -/
inductive Reply where
  /-- The functions of a script. -/
  | listed (script : String) (report : Report)
  /-- The functions whose names hold a query. -/
  | found (query : String) (names : List String)
  | reloaded (summary : Summary) (names : List String)
  /-- A menu without entries. -/
  | nothingToPick (script : String)
  /-- A call, and whether a stop was asked for meanwhile. -/
  | called (outcome : Invocation.Outcome) (took : Text.Duration) (stopAsked : Bool)
  /-- The entry of a script: its key, its file and the names in it. -/
  | inspected (script : Path) (key : String) (file : Path) (names : Option (List String))
  /-- Whether the entry of a script was there, and what came of removing it. -/
  | cleared (script file : Path) (existed : Bool) (result : Except StoreError Unit)
  | emptied (dir : Path) (removed : Nat)

namespace Reply

/-- A line that is set off as a whole. -/
def line (tint : Tint) (text : String) : Marked Tint := [(tint, text), (.none, "\n")]

/-- Names, one below the other. -/
def nameLines (names : List String) : Marked Tint :=
  names.flatMap fun name => [(.none, "  "), (.cyan, name), (.none, "\n")]

/-- The line that says that a script has no functions. -/
def emptyLine (script : String) : Marked Tint :=
  line .yellow ("No zero-argument functions found in '" ++ script ++ "'.")

/-- A count of functions. -/
def counted (count : Nat) : String := toString count ++ " function(s)"

/-- The title above what is told of the entry of a script. -/
def entryTitle (title : String) (script : Path) : Marked Tint :=
  [(.none, "\n" ++ title ++ " '"), (.cyan, script.display), (.none, "'\n")]

/-- The width of labels. -/
def labelWidth : Nat := 15

/-- A value with its label before it. -/
def labelled (label value : String) : Marked Tint :=
  let padding := String.ofList (List.replicate (labelWidth - label.length) ' ')
  [(.none, "  "), (.blue, label ++ padding), (.none, " " ++ value ++ "\n")]

/-- The line on the file of an entry. -/
def fileLine (file : Path) : Marked Tint := labelled "Entry File:" file.display

/-- What is written to the output. -/
def output : Reply → Marked Tint
  | .listed script report =>
      if report.names.isEmpty then emptyLine script
      else
        line .faint (counted report.names.length ++ " in '" ++ script ++ "' (from "
          ++ report.origin.label ++ ")") ++ nameLines report.names
  | .found query names =>
      if names.isEmpty then line .yellow ("No function name contains '" ++ query ++ "'.")
      else nameLines names
  | .reloaded summary names =>
      line .green ("Reloaded " ++ counted summary.count ++ " from the " ++ summary.origin.label
        ++ ".") ++ nameLines names
  | .nothingToPick script => emptyLine script
  | .called outcome _ _ =>
      if outcome.output.isEmpty then [] else line .none outcome.output
  | .inspected script key file names =>
      let stored : Marked Tint :=
        match names with
        | some names =>
            [(.none, "\n--- "), (.green, "Cached names"), (.none, " ---\n")]
              ++ line .none (Json.listLines names)
        | none => (.none, "\n") :: line .yellow "Status: no entry is stored under this key."
      entryTitle "Inspecting cached names for" script ++ labelled "Key:" key ++ fileLine file
        ++ stored
  | .cleared script file existed result =>
      let told : Marked Tint :=
        match result with
        | .ok () =>
            (.none, "\n") ::
              if existed then
                line .bold "Cache entry removed. The script will be parsed on the next run."
              else line .yellow "No entry was stored for this script. Nothing to do."
        | .error _ => []
      entryTitle "Clearing cached names for" script ++ fileLine file ++ told
  | .emptied dir removed =>
      line .bold ("Removed " ++ toString removed ++ " cache entr(ies) from '" ++ dir.display
        ++ "'.")

/-- What is wrong although the action was done. -/
def trouble? : Reply → Option Trouble
  | .called outcome _ stopAsked =>
      outcome.failure.map fun failure =>
        if stopAsked then .interrupted else .call outcome.function failure
  | .cleared _ _ _ (.error error) => some (.store error)
  | _ => none

/-- What is remarked beside the output of an action that went well. -/
def remark : Reply → Marked Tint
  | .called outcome took _ =>
      match outcome.failure with
      | none => line .faint ("'" ++ outcome.function ++ "' finished in " ++ took.hundredths ++ "s.")
      | some _ => []
  | _ => []

end Reply

end ScriptRoster.CommandLine
