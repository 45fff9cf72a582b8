import ScriptRoster.Name
import ScriptRoster.Script.Grammar

/-!
# Definitions in a syntax tree

The functions a script defines for its callers: definitions that are not inside another one, are
introduced as functions or filters, bear a plain name and take no parameters.
-/

namespace ScriptRoster.Script

namespace Tree

/-- Whether a list of parameters stands directly under the node. -/
def listsParameters (tree : Tree) : Bool := tree.children.any (·.kind == .parameterList)

/-- Whether a definition takes parameters after its name. -/
def takesParameters (definition : Tree) : Bool :=
  definition.children.any fun child => child.kind == .parameters && child.listsParameters

/-- Whether a definition takes parameters in a block at the top of its body. -/
def opensWithParameters (definition : Tree) : Bool :=
  definition.children.any fun child =>
    child.kind == .body
      && child.children.any fun block => block.kind == .paramBlock && block.listsParameters

/-- The keyword that introduces a definition. -/
def keyword (definition : Tree) : String := (definition.children.head?.map text).getD ""

/-- The name a definition gives, if it has one. -/
def name? (definition : Tree) : Option String :=
  (definition.children.find? (·.kind == .definitionName)).map text

/-- Why a definition is left out of the list. -/
inductive Skip where
  | otherKeyword (name keyword : String)
  | parameters (name : String)
  | paramBlock (name : String)
  | notPlain (name : String)
  deriving DecidableEq, Repr

/-- The name of a definition that can be run without arguments, or why it cannot; `none` when it
gives no name at all. -/
def runnable? (definition : Tree) : Option (Except Skip String) :=
  definition.name?.map fun name =>
    if !(Name.same definition.keyword "function" || Name.same definition.keyword "filter") then
      .error (.otherKeyword name definition.keyword)
    else if definition.takesParameters then .error (.parameters name)
    else if definition.opensWithParameters then .error (.paramBlock name)
    else if Name.isPlain name then .ok name
    else .error (.notPlain name)

/-- The name of a definition that can be run without arguments. -/
def runnableName? (definition : Tree) : Option String :=
  definition.runnable?.bind fun verdict => verdict.toOption

mutual

/-- The definitions below a node that are not inside another definition, in text order. -/
def definitions : Tree → List Tree
  | node _ children => definitionsAmong children

/-- The definitions among nodes and below them that are not inside another one. -/
def definitionsAmong : List Tree → List Tree
  | [] => []
  | node mark children :: rest =>
      (if mark.kind = .definition then [node mark children] else definitions (node mark children))
        ++ definitionsAmong rest

end

/-- The names of the runnable definitions of a tree, in text order. -/
def runnableNames (tree : Tree) : List String := tree.definitions.filterMap runnableName?

end Tree

/-- The plain quote that a typographic one is read as. -/
def plainQuote (c : Char) : Char :=
  if c == '\u2018' || c == '\u2019' || c == '\u201a' || c == '\u201b' then '\''
  else if c == '\u201c' || c == '\u201d' || c == '\u201e' then '"'
  else c

/-- The syntax tree of a source text, typographic quotes read as plain ones. -/
def Tree.ofSource (source : String) : Tree := .ofText (source.toList.map plainQuote)

/-- The names of the runnable definitions of a script, or the line of its first fault. -/
def definedNames (source : String) : Except Nat (List String) :=
  let tree := Tree.ofSource source
  if tree.isFlawed then .error ((tree.firstFault?.map Mark.line).getD 1)
  else .ok (Name.dedup tree.runnableNames)

/-- The definitions that a script without faults leaves out of its list. -/
def skipped (source : String) : List Tree.Skip :=
  let tree := Tree.ofSource source
  if tree.isFlawed then []
  else tree.definitions.filterMap fun definition =>
    match definition.runnable? with
    | some (.error skip) => some skip
    | _ => none

end ScriptRoster.Script
