import ScriptRoster.CommandLine.Form

/-!
# Complaints

What is wrong with the arguments that were given, with a tip where there is one, the usage line,
and the hint that help can be asked for.
-/

namespace ScriptRoster.CommandLine

/-- A proposal to one who gave a wrong argument. -/
inductive Tip where
  /-- The argument may have been meant as a text of its own. -/
  | behindDashes (argument : String)
  | similarArgument (argument : String)
  /-- The switch is one of a command. -/
  | ofCommand (command argument : String)
  | similarCommands (names : List String)
  deriving DecidableEq, Repr

/-- What is wrong with arguments. -/
inductive Fault where
  | unexpected (argument : String) (tips : List Tip)
  /-- A command stands behind the two dashes. -/
  | commandBehindDashes (name : String)
  | unknownCommand (name : String) (tips : List Tip)
  | missing (name : String)
  | repeated (option : String)
  | noValue (option : String)
  | unneededValue (value option : String)
  deriving DecidableEq, Repr

/-- A fault with what is said beside it. -/
structure Complaint where
  fault : Fault
  usage : Option Line
  /-- Whether there is help to ask for. -/
  hint : Bool

/-- Pieces with a comma between them. -/
def separated (pieces : List Line) : Line := [(Part.plain, ", ")].intercalate pieces

/-- A name between quotes. -/
def quotedValid (name : String) : Line := [(.plain, "'"), (.valid, name), (.plain, "'")]

/-- A tip as a text. -/
def Tip.text : Tip → Line
  | .behindDashes argument =>
      [(.plain, "to pass '"), (.invalid, argument), (.plain, "' as a value, use '"),
        (.valid, "-- " ++ argument), (.plain, "'")]
  | .similarArgument argument =>
      (.plain, "a similar argument exists: ") :: quotedValid argument
  | .ofCommand command argument =>
      quotedValid (command ++ " " ++ argument) ++ [(.plain, " exists")]
  | .similarCommands names =>
      let opening :=
        match names with
        | [_] => "a similar subcommand exists: "
        | _ => "some similar subcommands exist: "
      (.plain, opening) :: separated (names.map quotedValid)

/-- A line that gives a tip. -/
def tipLine (text : Line) : Line := [(.plain, "\n  "), (.valid, "tip:"), (.plain, " ")] ++ text

/-- Lines that give tips, after an empty one. -/
def tipLines (texts : List Line) : Line :=
  if texts.isEmpty then [] else (.plain, "\n") :: texts.flatMap tipLine

/-- What is said of an argument that is not expected. -/
def unexpectedText (argument : String) : Line :=
  [(.plain, "unexpected argument '"), (.invalid, argument), (.plain, "' found")]

/-- A fault as a text, with its tips. -/
def Fault.text : Fault → Line
  | .unexpected argument tips => unexpectedText argument ++ tipLines (tips.map Tip.text)
  | .commandBehindDashes name =>
      unexpectedText name ++ tipLines [[(.plain, "subcommand '"), (.valid, name),
        (.plain, "' exists; to use it, remove the '"), (.invalid, "--"),
        (.plain, "' before it")]]
  | .unknownCommand name tips =>
      [(.plain, "unrecognized subcommand '"), (.invalid, name), (.plain, "'")]
        ++ tipLines (tips.map Tip.text)
  | .missing name =>
      [(.plain, "the following required arguments were not provided:\n  "), (.valid, name)]
  | .repeated option =>
      [(.plain, "the argument '"), (.invalid, option),
        (.plain, "' cannot be used multiple times")]
  | .noValue option =>
      [(.plain, "a value is required for '"), (.invalid, option),
        (.plain, "' but none was supplied")]
  | .unneededValue value option =>
      [(.plain, "unexpected value '"), (.invalid, value), (.plain, "' for '"),
        (.literal, option), (.plain, "' found; no more were expected")]

/-- A complaint as a text. -/
def Complaint.text (complaint : Complaint) : Line :=
  let usage : Line :=
    match complaint.usage with
    | some usage => (.plain, "\n\n") :: usage
    | none => []
  let hint : Line :=
    if complaint.hint then
      [(.plain, "\n\nFor more information, try '"), (.literal, "--help"), (.plain, "'.\n")]
    else [(.plain, "\n")]
  [(.error, "error:"), (.plain, " ")] ++ complaint.fault.text ++ usage ++ hint

end ScriptRoster.CommandLine
