import ScriptRoster.Regular.Letters

/-!
# Regular expressions as they are written
-/

namespace ScriptRoster.Regular

/-- The flags that an expression may set. -/
inductive Flag where
  | caseless
  | multiLine
  | dotAll
  /-- Repetitions take as little as they can, which changes nothing about what is found. -/
  | sparing
  | unicode
  | carriageReturns
  /-- White space and what follows a hash sign is passed over. -/
  | spaced
  deriving DecidableEq, Repr

/-- A flag that is set or taken back. -/
abbrev Setting := Flag × Bool

/-- The flags after a setting. -/
def Flags.set (flags : Flags) (setting : Setting) : Flags :=
  match setting.1 with
  | .caseless => { flags with caseless := setting.2 }
  | .multiLine => { flags with multiLine := setting.2 }
  | .dotAll => { flags with dotAll := setting.2 }
  | .unicode => { flags with unicode := setting.2 }
  | .carriageReturns => { flags with carriageReturns := setting.2 }
  | .sparing | .spaced => flags

/-- The flags after settings. -/
def Flags.setAll (flags : Flags) (settings : List Setting) : Flags := settings.foldl Flags.set flags

/-- What an expression may say of a place in a text. -/
inductive Assertion where
  | lineStart
  | lineEnd
  | textStart
  | textEnd
  | boundary
  | noBoundary
  | wordStart
  | wordEnd
  /-- No word goes on in front. -/
  | wordStartHalf
  /-- No word goes on behind. -/
  | wordEndHalf
  deriving DecidableEq, Repr

/-- An expression as it is written. -/
inductive Tree where
  | empty
  /-- Settings for all that follows in the same group. -/
  | flags (settings : List Setting)
  | literal (literal : Literal)
  | dot (span : Span)
  | assertion (said : Assertion)
  | letters (set : Letters)
  | repeated (tree : Tree) (least : Nat) (most : Option Nat)
  | group (settings : List Setting) (tree : Tree)
  | both (first second : Tree)
  | either (first second : Tree)
  deriving Repr

/-- Trees that follow each other. -/
def Tree.sequence : List Tree → Tree
  | [] => .empty
  | [tree] => tree
  | tree :: rest => .both tree (sequence rest)

/-- Trees to choose from. -/
def Tree.choice : List Tree → Tree
  | [] => .empty
  | [tree] => tree
  | tree :: rest => .either tree (choice rest)

end ScriptRoster.Regular
