import ScriptRoster.Files.Path
import ScriptRoster.Name

/-!
# Commands

The command that an interpreter is given loads the script and then calls a function:
`. '<script>'; <name>`. The path stands in a single-quoted literal, the name stands bare, so only
plain names are let through.
-/

namespace ScriptRoster.Invocation

open Files

/-- The characters that end a single-quoted literal unless they are doubled. -/
def isQuote (c : Char) : Bool :=
  c == '\'' || c == '\u2018' || c == '\u2019' || c == '\u201a' || c == '\u201b'

/-- Doubles every backslash and every single quote. -/
def escape : List Char → List Char
  | [] => []
  | c :: rest => if c == '\\' || isQuote c then c :: c :: escape rest else c :: escape rest

/-- A text as it stands inside a single-quoted literal. -/
def quoted (value : String) : String := String.ofList (escape value.toList)

/-- Why no command can be composed. -/
inductive CommandError where
  | invalidName (name : String)
  | notUnicode (path : String)
  deriving DecidableEq, Repr

def CommandError.message : CommandError → String
  | .invalidName name => "'" ++ name ++ "' is not a valid function name."
  | .notUnicode path => "The script path '" ++ path ++ "' is not valid Unicode."

/-- The command that loads a script and calls one of its functions. -/
def command (script : Path) (name : String) : Except CommandError String :=
  if Name.isPlain name then
    match script.text? with
    | some path => .ok (". '" ++ quoted path ++ "'; " ++ name)
    | none => .error (.notUnicode script.display)
  else .error (.invalidName name)

end ScriptRoster.Invocation
