import ScriptRoster.CommandLine.Tint

/-!
# Forms

A form says which arguments an action takes: switches, at most one text, or a choice of commands
with forms of their own. From a form come the usage line and the help text.
-/

namespace ScriptRoster.CommandLine

/-- The parts that pieces of a usage line, a help text or a complaint play. -/
inductive Part where
  | plain
  | heading
  | literal
  | placeholder
  | error
  | invalid
  | valid
  deriving DecidableEq, Repr

/-- A text in pieces that play parts. -/
abbrev Line := Marked Part

/-- How the parts are opened. -/
abbrev Theme := Part → String

/-- The theme that sets nothing off. -/
def Theme.plain : Theme := fun _ => ""

/-- The theme of the help on actions. -/
def Theme.ofActions : Theme
  | .plain => ""
  | .heading => "\x1b[1m\x1b[4m"
  | .literal => "\x1b[1m"
  | .placeholder => ""
  | .error => "\x1b[1m\x1b[31m"
  | .invalid => "\x1b[33m"
  | .valid => "\x1b[32m"

/-- The theme of complaints about the options of the program. -/
def Theme.ofProgram : Theme
  | .plain => ""
  | .heading => "\x1b[1m\x1b[33m"
  | .literal => "\x1b[1m\x1b[36m"
  | .placeholder => "\x1b[32m"
  | .error => "\x1b[1m\x1b[31m"
  | .invalid => "\x1b[33m"
  | .valid => "\x1b[32m"

/-- An argument that is either there or not. -/
structure Switch where
  long : String
  short : Option Char
  help : String
  deriving DecidableEq, Repr

/-- An argument that is a text of its own. -/
structure Blank where
  name : String
  required : Bool
  many : Bool
  help : String
  deriving DecidableEq, Repr

/-- The arguments of an action. -/
structure Form where
  name : String
  about : String
  switches : List Switch
  blank : Option Blank
  commands : List Form
  /-- Whether help is offered by a switch. -/
  offersHelp : Bool

/-- The name of the program. -/
def programName : String := "psfunc"

/-- The switch that asks for help. -/
def helpSwitch : Switch := ⟨"help", some 'h', "Print help"⟩

/-- A blank as it is named in a usage line: in pointed brackets if it has to be filled. -/
def Blank.shown (required : Bool) (blank : Blank) : String :=
  (if required then "<" ++ blank.name ++ ">" else "[" ++ blank.name ++ "]")
    ++ (if blank.many then "..." else "")

/-- The long name of a switch as it is written. -/
def Switch.written (switch : Switch) : String := "--" ++ switch.long

namespace Form

/-- All switches of a form, the one for help last. -/
def allSwitches (form : Form) : List Switch :=
  form.switches ++ if form.offersHelp then [helpSwitch] else []

/-- The switch with a long name. -/
def switchNamed? (form : Form) (long : String) : Option Switch :=
  form.allSwitches.find? (·.long == long)

/-- The switch with a short name. -/
def switchLettered? (form : Form) (letter : Char) : Option Switch :=
  form.allSwitches.find? (·.short == some letter)

/-- The form of a command. -/
def command? (form : Form) (name : String) : Option Form := form.commands.find? (·.name == name)

/-- The title of a usage line. -/
def usageTitle : Line := [(.heading, "Usage:"), (.plain, " ")]

/-- The command that a form wants, as it is named in a usage line. -/
def commandUsage (form : Form) : Line :=
  if form.commands.isEmpty then [] else [(.plain, " "), (.placeholder, "<COMMAND>")]

/-- The usage line of a form. It names the switches that were used, or says that there are some;
a blank that was filled counts as required. -/
def usage (form : Form) (used : List Switch) (filled : Bool) : Line :=
  let switches : Line :=
    if used.isEmpty && !filled then
      if form.switches.isEmpty then [] else [(.plain, " "), (.placeholder, "[OPTIONS]")]
    else used.flatMap fun switch => [(.plain, " "), (.literal, switch.written)]
  let blank : Line :=
    match form.blank with
    | some blank => [(.plain, " "), (.placeholder, blank.shown (blank.required || filled))]
    | none => []
  usageTitle ++ (.literal, form.name) :: switches ++ blank ++ form.commandUsage

/-- What a form offers to choose from, as it is named in a usage line. -/
def choice (options : List String) : Line :=
  [(.plain, " "), (.placeholder, "<" ++ "|".intercalate options ++ ">")]

/-- The usage line of a form for one who gave a switch wrongly. Behind the switch stands what the
form offers, as a choice if something of it was used before. -/
def usageAt (form : Form) (used : List Switch) (switch : Switch) : Line :=
  let named : Line := [(.plain, " "), (.literal, switch.written)]
  let offered : Line :=
    if used.isEmpty then
      named ++ match form.blank with
        | some blank => [(.plain, " "), (.placeholder, blank.shown blank.required)]
        | none => []
    else
      (if form.switches.contains switch then [] else named)
        ++ choice (form.switches.map Switch.written ++ form.blank.toList.map Blank.name)
  usageTitle ++ (.literal, form.name) :: offered ++ form.commandUsage

/-- The usage line of a form for one who used nothing of it. -/
def usageUnused (form : Form) : Line := form.usage [] false

/-- Entries of a help text with their explanations, one below the other. -/
def table (entries : List (Line × String)) : Line :=
  let widths := entries.map fun entry => (Marked.plain entry.1).length
  let width := widths.foldl max 0
  entries.flatMap fun entry =>
    let padding := String.ofList (List.replicate (width - (Marked.plain entry.1).length + 2) ' ')
    (.plain, "  ") :: entry.1 ++ [(.plain, padding ++ entry.2 ++ "\n")]

/-- A titled part of a help text, left out if it has no entries. -/
def titled (title : String) (entries : List (Line × String)) : List Line :=
  if entries.isEmpty then [] else [(.heading, title) :: (.plain, "\n") :: table entries]

/-- A switch as it is named in a help text. -/
def switchEntry (switch : Switch) : Line × String :=
  let letter : Line :=
    match switch.short with
    | some letter => [(.literal, String.ofList ['-', letter]), (.plain, ", ")]
    | none => [(.plain, "    ")]
  (letter ++ [(.literal, switch.written)], switch.help)

/-- A command as it is named in a help text. -/
def commandEntry (command : Form) : Line × String := ([(.literal, command.name)], command.about)

/-- The help text of a form. What a form is about is told where it is a command or has some. -/
def help (form : Form) : Line :=
  let about : List Line := if form.about.isEmpty then [] else [[(.plain, form.about ++ "\n")]]
  let blanks : List (Line × String) :=
    form.blank.toList.map fun blank =>
      ([(.placeholder, blank.shown blank.required)], blank.help)
  let parts := about ++ [form.usageUnused ++ [(.plain, "\n")]]
    ++ titled "Commands:" (form.commands.map commandEntry) ++ titled "Arguments:" blanks
    ++ titled "Options:" (form.allSwitches.map switchEntry)
  [(.plain, "\n")].intercalate parts

end Form

end ScriptRoster.CommandLine
