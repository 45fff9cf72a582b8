import ScriptRoster.CommandLine.Filled

/-!
# Actions

What the program can be asked to do, and the forms of the arguments. The first argument names the
action. One that names none is the function to run, and where there is no argument at all the menu
opens.
-/

namespace ScriptRoster.CommandLine

/-- What the program is asked to do. -/
inductive Action where
  | list (fresh : Bool)
  | search (query : String)
  | run (name : String)
  | reload
  | pick (query : Option String)
  | inspectCache
  | clearCache
  | clearAllCaches
  deriving DecidableEq, Repr

/-- Why arguments make no action. -/
inductive ArgumentError where
  | detour (detour : Detour)
  /-- An argument for an action that takes none. -/
  | superfluous (argument : String)

namespace Action

/-- The switch that leaves the cache aside. -/
def freshSwitch : Switch := ⟨"fresh", some 'f', "Ignore the cache and parse the script again"⟩

/-- The form of the arguments of `list`. -/
def listForm : Form where
  name := programName
  about := ""
  switches := [freshSwitch]
  blank := none
  commands := []
  offersHelp := true

/-- A form with nothing but a blank. -/
def blankForm (blank : Blank) : Form where
  name := programName
  about := ""
  switches := []
  blank := some blank
  commands := []
  offersHelp := true

/-- The form of the arguments of `search`. -/
def searchForm : Form :=
  blankForm ⟨"QUERY", false, false,
    "Text to look for in function names, ignoring case. Empty lists everything [default: \"\"]"⟩

/-- The form of the arguments of `run`. -/
def runForm : Form :=
  blankForm ⟨"NAME", true, false, "The function to run, as listed by \x60psfunc list\x60"⟩

/-- The form of the arguments of `pick`. -/
def pickForm : Form :=
  blankForm ⟨"QUERY", false, false, "Pre-filter the menu with a search query"⟩

/-- The switch that means every entry. -/
def allSwitch : Switch := ⟨"all", none, ""⟩

/-- The form of the arguments of `_cache inspect`. -/
def inspectForm : Form where
  name := "inspect"
  about := "Prints the cache key of the current script and what is stored under it"
  switches := []
  blank := none
  commands := []
  offersHelp := true

/-- The form of the arguments of `_cache clear`. -/
def clearForm : Form where
  name := "clear"
  about := "Removes the entry of the current script, or every entry with \x60--all\x60"
  switches := [allSwitch]
  blank := none
  commands := []
  offersHelp := true

/-- The form of the arguments of `_cache help`. -/
def helpForm : Form where
  name := Form.helpCommand
  about := "Print this message or the help of the given subcommand(s)"
  switches := []
  blank := some ⟨"COMMAND", false, true, "Print help for the subcommand(s)"⟩
  commands := []
  offersHelp := false

/-- The form of the arguments of `_cache`. -/
def cacheForm : Form where
  name := programName
  about := "(Internal) Inspect or clear the cached function lists"
  switches := []
  blank := none
  commands := [inspectForm, clearForm, helpForm]
  offersHelp := true

/-- The action that a form means once it has been filled. -/
def ofForm (form : Form) (action : Filled → Action) (arguments : List String) :
    Except ArgumentError Action :=
  match form.fill arguments with
  | .ok filled => .ok (action filled)
  | .error detour => .error (.detour detour)

/-- Runs a function. -/
def ofRun (arguments : List String) : Except ArgumentError Action :=
  ofForm runForm (fun filled => .run (filled.value.getD "")) arguments

/-- Opens the menu. -/
def ofPick (arguments : List String) : Except ArgumentError Action :=
  ofForm pickForm (fun filled => .pick filled.value) arguments

/-- Looks into the cache or clears it. -/
def ofCache (arguments : List String) : Except ArgumentError Action :=
  match cacheForm.choose false arguments with
  | .error detour => .error (.detour detour)
  | .ok (command, rest) =>
      ofForm command (fun filled =>
        if command.name == inspectForm.name then .inspectCache
        else if filled.has allSwitch.long then .clearAllCaches
        else .clearCache) rest

/-- The action that arguments ask for. -/
def ofArguments : List String → Except ArgumentError Action
  | [] => ofPick []
  | "list" :: rest | "ls" :: rest =>
      ofForm listForm (fun filled => .list (filled.has freshSwitch.long)) rest
  | "search" :: rest | "find" :: rest =>
      ofForm searchForm (fun filled => .search (filled.value.getD "")) rest
  | "run" :: rest => ofRun rest
  | "reload" :: rest =>
      match rest with
      | [] => .ok .reload
      | argument :: _ => .error (.superfluous argument)
  | "pick" :: rest => ofPick rest
  | "_cache" :: rest => ofCache rest
  | arguments => ofRun arguments

end Action

end ScriptRoster.CommandLine
