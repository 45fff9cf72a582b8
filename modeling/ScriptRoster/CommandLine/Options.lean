import ScriptRoster.CommandLine.Filled

/-!
# Options of the program

Before the action and its arguments stand the options of the program: a script, and switches that
ask for help or for the version. Whatever is no option of the program begins the action, and from
there on nothing is an option any more.
-/

namespace ScriptRoster.CommandLine

/-- What the options of the program say, and what follows them. -/
structure Options where
  script : Option String
  arguments : List String
  deriving DecidableEq, Repr

/-- What is said in the stead of running an action. -/
inductive Aside where
  | help
  | version
  | wrong (complaint : Complaint)

namespace Options

/-- The option that names a script, as it is written in complaints. -/
def scriptOption : String := "--script <PATH>"

/-- The name of the arguments behind the options. -/
def argumentsName : String := "ARGS"

/-- The arguments behind the options, as they are named in a usage line. -/
def argumentsUsage : Line := [(.plain, " "), (.placeholder, "[" ++ argumentsName ++ "]...")]

/-- The usage line of the program. -/
def usage : Line :=
  Form.usageTitle ++ [(.literal, programName), (.plain, " "), (.placeholder, "[OPTIONS]")]
    ++ argumentsUsage

/-- The usage line of the program for one who gave a switch wrongly. Behind the switch stands what
else there is, as a choice if a script was named before. -/
def usageAt (script : Option String) (switch : String) : Line :=
  let offered :=
    match script with
    | some _ => Form.choice [scriptOption, argumentsName]
    | none => argumentsUsage
  Form.usageTitle ++ [(.literal, programName), (.plain, " "), (.literal, switch)] ++ offered

/-- A complaint about the options of the program. -/
def wrong {α : Type} (fault : Fault) (usage : Option Line) : Except Aside α :=
  .error (.wrong ⟨fault, usage, true⟩)

/-- Takes the value of the option for a script, which may be given once. -/
def takeScript (script : Option String) (value : String) : Except Aside (Option String) :=
  match script with
  | none => .ok (some value)
  | some _ => wrong (.repeated scriptOption) (some usage)

/-- The complaint that a switch was given a value. -/
def unneededValue {α : Type} (script : Option String) (value switch : String) :
    Except Aside α :=
  wrong (.unneededValue value switch) (some (usageAt script switch))

/-- The letters of options. -/
def letters : List Char := ['s', 'h', 'V']

/-- What a cluster of letters asks for. -/
inductive Asked where
  | help
  | version
  /-- A script, named by the letters behind, or by the next argument. -/
  | script (value : Option String)
  deriving DecidableEq, Repr

/-- What the first letter of a cluster asks for, if all its letters are those of options. -/
def Asked.ofCluster (cluster : List Char) : Option Asked :=
  if cluster.all letters.contains then
    match cluster with
    | 's' :: [] => some (.script none)
    | 's' :: rest => some (.script (some (String.ofList rest)))
    | 'V' :: _ => some .version
    | _ => some .help
  else none

/-- What an argument is before the action begins. -/
inductive Leading where
  | dashes
  | option (asked : Asked)
  | unneeded (value option : String)
  /-- No option, and so the value that is waited for, or the beginning of the action. -/
  | other
  deriving DecidableEq, Repr

/-- Tells what an argument is. -/
def Leading.of (argument : String) : Leading :=
  match Shape.of argument with
  | .dashes => .dashes
  | .long "script" value => .option (.script value)
  | .long "help" none => .option .help
  | .long "help" (some value) => .unneeded value "--help"
  | .long "version" none => .option .version
  | .long "version" (some value) => .unneeded value "--version"
  | .long _ _ => .other
  | .cluster cluster =>
      match Asked.ofCluster cluster with
      | some asked => .option asked
      | none => .other
  | .text => .other

/-- An option for a script that has not been counted yet: none, one that waits for its value, or
one that has it. -/
inductive Held where
  | nothing
  | waiting
  | value (text : String)
  deriving DecidableEq, Repr

/-- Counts the option that is held. -/
def settle (script : Option String) : Held → Except Aside (Option String)
  | .nothing => .ok script
  | .waiting => wrong (.noValue scriptOption) none
  | .value text => takeScript script text

/-- Reads options up to the action. -/
def readOn (script : Option String) (held : Held) : List String → Except Aside Options
  | [] => (settle script held).map (⟨·, []⟩)
  | argument :: rest =>
      match Leading.of argument with
      | .dashes => (settle script held).map (⟨·, rest⟩)
      | .unneeded value option => unneededValue script value option
      | .option asked =>
          match settle script held with
          | .error aside => .error aside
          | .ok script =>
              match asked with
              | .help => .error .help
              | .version => .error .version
              | .script none => readOn script .waiting rest
              | .script (some value) =>
                  match takeScript script value with
                  | .ok script => readOn script .nothing rest
                  | .error aside => .error aside
      | .other =>
          if held = .waiting then readOn script (.value argument) rest
          else (settle script held).map (⟨·, argument :: rest⟩)

/-- Reads the arguments of the program. -/
def read (arguments : List String) : Except Aside Options := readOn none .nothing arguments

end Options

end ScriptRoster.CommandLine
