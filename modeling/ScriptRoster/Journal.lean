/-!
# The journal

What the program notes about its own work, for whoever asks to see it. A notice has a level, the
topic it belongs to and a text.
-/

namespace ScriptRoster

/-- How grave a notice is, the gravest first. -/
inductive Level where
  | error
  | warn
  | info
  | debug
  | trace
  deriving DecidableEq, Repr

/-- The place of a level in order of gravity; the gravest has the smallest. -/
def Level.rank : Level → Nat
  | .error => 1
  | .warn => 2
  | .info => 3
  | .debug => 4
  | .trace => 5

/-- One entry of the journal. -/
structure Notice where
  level : Level
  topic : String
  text : String
  deriving DecidableEq, Repr

/-- Entries, the oldest first. -/
abbrev Journal := List Notice

end ScriptRoster
