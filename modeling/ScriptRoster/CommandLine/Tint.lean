/-!
# Tints

How texts are set off on a terminal: a piece is opened by a control sequence and closed by the one
that resets all. Where the terminal takes no control sequences, pieces stand as they are.
-/

namespace ScriptRoster.CommandLine

/-- The control sequence that ends all setting off. -/
def reset : String := "\x1b[0m"

/-- A text set off by an opening sequence. The sequence is repeated behind every reset inside the
text; one that is empty leaves the text as it is. -/
def paint (opening text : String) : String :=
  if opening.isEmpty then text
  else opening ++ text.replace reset (reset ++ opening) ++ reset

/-- A text in pieces, each with the part that it plays. -/
abbrev Marked (ρ : Type) := List (ρ × String)

/-- The text of the pieces, each opened by the sequence for its part. -/
def Marked.render {ρ : Type} (opening : ρ → String) (text : Marked ρ) : String :=
  String.join (text.map fun piece => paint (opening piece.1) piece.2)

/-- The text of the pieces, nothing set off. -/
def Marked.plain {ρ : Type} (text : Marked ρ) : String := text.render fun _ => ""

/-- How a piece of a reply is set off. -/
inductive Tint where
  | none
  | faint
  | bold
  | blue
  | cyan
  | green
  | yellow
  | alarm
  deriving DecidableEq, Repr

/-- The control sequence that opens a tint. -/
def Tint.sequence : Tint → String
  | .none => ""
  | .faint => "\x1b[2m"
  | .bold => "\x1b[1m"
  | .blue => "\x1b[34m"
  | .cyan => "\x1b[36m"
  | .green => "\x1b[32m"
  | .yellow => "\x1b[33m"
  | .alarm => "\x1b[1;31m"

/-- What opens a tint where tints are shown, or not. -/
def Tint.opening (tinted : Bool) (tint : Tint) : String := if tinted then tint.sequence else ""

end ScriptRoster.CommandLine
