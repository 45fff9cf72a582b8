/-!
# Function names

A name is *plain* when it can stand bare in a command: a letter or underscore, then letters,
digits, underscores and hyphens, all ASCII. Lists of names keep the first spelling of each name;
two spellings are the same name when they differ only in the case of ASCII letters.
-/

namespace ScriptRoster.Name

/-- The characters a plain name may begin with. -/
def isHead (c : Char) : Bool := c.isAlpha || c == '_'

/-- The characters that may follow. -/
def isTail (c : Char) : Bool := c.isAlphanum || c == '_' || c == '-'

/-- Whether a name is plain. -/
def isPlain (name : String) : Bool :=
  match name.toList with
  | [] => false
  | c :: rest => isHead c && rest.all isTail

/-- The spelling with every ASCII capital made small, under which names are compared. -/
def fold (name : String) : String := name.map Char.toLower

/-- Whether two spellings differ at most in the case of ASCII letters. -/
def same (a b : String) : Bool := fold a == fold b

/-- The names whose folded spelling is not among those already seen, each kept once. -/
def unseen (seen : List String) : List String → List String
  | [] => []
  | name :: rest =>
      if fold name ∈ seen then unseen seen rest
      else name :: unseen (fold name :: seen) rest

/-- Each name once, in its first spelling and at its first place. -/
def dedup (names : List String) : List String := unseen [] names

end ScriptRoster.Name
