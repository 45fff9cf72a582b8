import ScriptRoster.CommandLine.Form

/-!
# Help on the program

The text that tells of all actions and options, and the version.
-/

namespace ScriptRoster.CommandLine.Help

/-- The parts that pieces of the help on the program play. -/
inductive Part where
  | plain
  | title
  | group
  | command
  | argument
  | faint
  deriving DecidableEq, Repr

/-- The control sequence that opens a part. -/
def Part.sequence : Part → String
  | .plain => ""
  | .title => "\x1b[1;33m"
  | .group => "\x1b[1;32m"
  | .command => "\x1b[36m"
  | .argument => "\x1b[1;36m"
  | .faint => "\x1b[2m"

/-- The version of the program. -/
def version : String := "0.1.0"

/-- The line that tells the version. -/
def versionLine : String := programName ++ " " ++ version ++ "\n"

/-- What the program is for. -/
def about : String :=
  "Discover and run the zero-argument functions of a PowerShell script from the terminal."

/-- A line of pieces. -/
def line (pieces : Marked Part) : Marked Part := pieces ++ [(.plain, "\n")]

/-- The lines on how to call the program. -/
def usage : Marked Part :=
  line [(.title, "USAGE")]
    ++ line [(.plain, "  "), (.command, programName), (.plain, " [--script "), (.argument, "PATH"),
      (.plain, "] ["), (.argument, "ACTION"), (.plain, "] [ARGS...]")]
    ++ line [(.plain, "  "), (.command, programName), (.plain, " "), (.argument, "FUNCTION"),
      (.plain, "            "), (.faint, "Shortcut for \x60psfunc run FUNCTION\x60.")]

/-- The lines on the actions. -/
def actions : Marked Part :=
  line [(.group, "ACTIONS")]
    ++ line [(.plain, "  "), (.command, "pick"), (.plain,
      " [QUERY]               Choose a function from a menu and run it (default).")]
    ++ line [(.plain, "  "), (.command, "list"), (.plain, ", "), (.command, "ls"), (.plain,
      " [--fresh]         List the zero-argument functions of the script.")]
    ++ line [(.plain, "  "), (.command, "search"), (.plain, ", "), (.command, "find"),
      (.plain, " "), (.argument, "QUERY"), (.plain,
      "       List functions whose names contain QUERY.")]
    ++ line [(.plain, "  "), (.command, "run"), (.plain, " "), (.argument, "FUNCTION"), (.plain,
      "              Run one function and print its output.")]
    ++ line [(.plain, "  "), (.command, "reload"), (.plain,
      "                    Forget the cached list and parse the script again.")]

/-- The lines on the options. -/
def options : Marked Part :=
  line [(.group, "OPTIONS")]
    ++ line [(.plain, "  "), (.command, "-s"), (.plain, ", "), (.command, "--script"),
      (.plain, " "), (.argument, "PATH"), (.plain,
      "         Script to use. Overrides PSFUNC_SCRIPT and config.toml.")]
    ++ line [(.plain, "  "), (.command, "-h"), (.plain, ", "), (.command, "--help"), (.plain,
      "                Print help.")]
    ++ line [(.plain, "  "), (.command, "-V"), (.plain, ", "), (.command, "--version"), (.plain,
      "             Print version.")]

/-- The lines on where more is to be had. -/
def more : Marked Part :=
  line [(.faint,
    "Settings live in the psfunc folder of your config directory (config.toml).\n"
      ++ "Set RUST_LOG=debug to see what psfunc is doing.")]

/-- The help on the program. -/
def pieces : Marked Part :=
  line [(.title, programName), (.plain, " " ++ version)] ++ line [(.plain, about)]
    ++ line [] ++ usage ++ line [] ++ actions ++ line [] ++ options ++ line [] ++ more

/-- The help on the program as a text. -/
def text (tinted : Bool) : String :=
  pieces.render fun part => if tinted then part.sequence else ""

end ScriptRoster.CommandLine.Help
