import ScriptRoster.Journal
import ScriptRoster.Script.Definition
import ScriptRoster.Script.Listing

/-!
# Extraction

Function names are extracted from a script by sources tried in order: the first one that a
preference allows and that succeeds gives the names. By default the structural source reads the
script's syntax and the textual source scans its text where the syntax is faulty.
-/

namespace ScriptRoster

/-- How a source finds names. -/
inductive Strategy where
  | structural
  | textual
  deriving DecidableEq, Repr

def Strategy.name : Strategy → String
  | .structural => "structural"
  | .textual => "textual"

/-- Which strategies may be used. -/
inductive Preference where
  | auto
  | structural
  | textual
  deriving DecidableEq, Repr, Inhabited

/-- Whether a preference lets a strategy be tried. -/
def Preference.allows : Preference → Strategy → Bool
  | .auto, _ => true
  | .structural, strategy => strategy = .structural
  | .textual, strategy => strategy = .textual

/-- The name of a preference in messages. -/
def Preference.label : Preference → String
  | .auto => "Auto"
  | .structural => "Structural"
  | .textual => "Textual"

/-- Why a source found no names. -/
inductive SourceError where
  | grammar (reason : String)
  | fault (line : Nat)
  | other (reason : String)
  deriving DecidableEq, Repr

def SourceError.message : SourceError → String
  | .grammar reason => "the PowerShell grammar could not be loaded: " ++ reason
  | .fault line => "syntax error on line " ++ toString line
  | .other reason => reason

/-- A way to find names in a text. -/
structure Source where
  strategy : Strategy
  extract : String → Except SourceError (List String)
  /-- What it notes on the way. -/
  remarks : String → Journal

namespace Source

/-- What is noted of a definition that is left out. -/
def skipNotice : Script.Tree.Skip → Notice
  | .otherKeyword name keyword =>
      ⟨.trace, "psfunc::core::structural",
        "Skipping '" ++ name ++ "': declared with '" ++ keyword ++ "'"⟩
  | .parameters name =>
      ⟨.trace, "psfunc::core::structural", "Skipping '" ++ name ++ "': it declares parameters"⟩
  | .paramBlock name =>
      ⟨.trace, "psfunc::core::structural",
        "Skipping '" ++ name ++ "': its param block declares parameters"⟩
  | .notPlain name =>
      ⟨.debug, "psfunc::core::structural", "Skipping '" ++ name ++ "': not a plain function name"⟩

/-- Names from the syntax of the script. -/
def structural : Source where
  strategy := .structural
  extract source :=
    match Script.definedNames source with
    | .ok names => .ok names
    | .error line => .error (.fault line)
  remarks source := (Script.skipped source).map skipNotice

/-- Names from the text of the script. -/
def textual : Source where
  strategy := .textual
  extract source := .ok (Script.Listing.names source)
  remarks _ := []

/-- A source that always gives one answer. -/
def fixed (strategy : Strategy) (answer : Except SourceError (List String)) : Source where
  strategy := strategy
  extract _ := answer
  remarks _ := []

/-- The sources tried when none are named. -/
def defaults : List Source := [structural, textual]

end Source

/-- Names in order, each once, and how they were found. -/
structure Extracted where
  names : List String
  strategy : Strategy
  deriving DecidableEq, Repr

/-- The message of a source that failed, after the name of its strategy. -/
def failureText (failure : Strategy × SourceError) : String :=
  failure.1.name ++ ": " ++ failure.2.message

/-- Messages of failed sources in one text. -/
def failuresText (failures : List (Strategy × SourceError)) : String :=
  "; ".intercalate (failures.map failureText)

/-- Why no names could be extracted. -/
inductive ExtractionError where
  | read (path reason : String)
  | exhausted (failures : List (Strategy × SourceError))
  | noStrategy (preference : Preference)
  deriving DecidableEq, Repr

def ExtractionError.message : ExtractionError → String
  | .read path reason => "Could not read '" ++ path ++ "': " ++ reason
  | .exhausted failures => "Could not extract function names (" ++ failuresText failures ++ ")"
  | .noStrategy preference =>
      "No extraction strategy is available for the '" ++ preference.label ++ "' preference."

/-- An extraction: its outcome, the sources it called, and what it noted. -/
structure Extraction where
  outcome : Except ExtractionError Extracted
  called : List Source
  journal : Journal

namespace Extraction

def topic : String := "psfunc::core::extractor"

/-- Tries sources in order, after the failures of those before them. -/
def tryEach (preference : Preference) (content : String)
    (failures : List (Strategy × SourceError)) : List Source → Extraction
  | [] =>
      { outcome := .error (if failures.isEmpty then .noStrategy preference else .exhausted failures)
        called := []
        journal := [] }
  | source :: rest =>
      match source.extract content with
      | .ok names =>
          { outcome := .ok ⟨names, source.strategy⟩
            called := [source]
            journal := source.remarks content ++
              if failures.isEmpty then []
              else [⟨.warn, topic, "Fell back to the " ++ source.strategy.name
                ++ " strategy after: " ++ failuresText failures⟩] }
      | .error error =>
          let next := tryEach preference content (failures ++ [(source.strategy, error)]) rest
          { outcome := next.outcome
            called := source :: next.called
            journal := source.remarks content ++ ⟨.debug, topic, "The " ++ source.strategy.name
              ++ " strategy failed: " ++ error.message⟩ :: next.journal }

/-- Extracts the names of a text with the first allowed source that succeeds. -/
def ofText (sources : List Source) (preference : Preference) (content : String) : Extraction :=
  tryEach preference content [] (sources.filter fun source => preference.allows source.strategy)

end Extraction

end ScriptRoster
