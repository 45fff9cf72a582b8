/-!
# Syntax trees

A script is read into a tree of phrases. Each node carries its own text where that text matters,
the line it starts on, and a flag saying whether a fault lies in it or below it; the flag lets a
search for the first fault skip whole branches.
-/

namespace ScriptRoster.Script

/-- What a node stands for. Phrases that no question is asked about are all `phrase`. -/
inductive Kind where
  | definition
  | definitionName
  | parameters
  | parameterList
  | body
  | paramBlock
  | keyword
  | phrase
  | fault
  deriving DecidableEq, Repr, Inhabited

/-- The label of a node. -/
structure Mark where
  kind : Kind
  text : String
  line : Nat
  /-- Whether the node was put in for a token that the text lacks. -/
  missing : Bool
  /-- Whether this node or one below it is a fault. -/
  flawed : Bool
  deriving Repr, Inhabited

/-- Whether the node itself is a fault: a passage that fits no phrase, or a token put in. -/
def Mark.isFault (mark : Mark) : Bool := mark.kind == .fault || mark.missing

/-- A labelled tree with any number of children in text order. -/
inductive Tree where
  | node (mark : Mark) (children : List Tree)
  deriving Inhabited

namespace Tree

def mark : Tree → Mark
  | node mark _ => mark

def children : Tree → List Tree
  | node _ children => children

def kind (tree : Tree) : Kind := tree.mark.kind

def text (tree : Tree) : String := tree.mark.text

/-- A node over `children` that is no fault itself. -/
def branch (kind : Kind) (children : List Tree) : Tree :=
  node ⟨kind, "", 1, false, children.any (·.mark.flawed)⟩ children

/-- A token of one kind with its text. -/
def leaf (kind : Kind) (text : String) : Tree := node ⟨kind, text, 1, false, false⟩ []

/-- A passage that fits no phrase. -/
def fault (line : Nat) : Tree := node ⟨.fault, "", line, false, true⟩ []

/-- The place of a word that the text lacks. It flaws the tree but is no node to point at. -/
def gap : Tree := node ⟨.phrase, "", 1, false, true⟩ []

mutual

/-- The first fault in text order, a node before its children; branches that are not flawed are
not entered. -/
def firstFault? : Tree → Option Mark
  | node mark children =>
      if mark.isFault then some mark
      else if mark.flawed then firstFaultAmong? children
      else none

/-- The first fault among trees in text order. -/
def firstFaultAmong? : List Tree → Option Mark
  | [] => none
  | tree :: rest =>
      match firstFault? tree with
      | some mark => some mark
      | none => firstFaultAmong? rest

end

/-- Whether a fault lies anywhere in the tree. -/
def isFlawed (tree : Tree) : Bool := tree.mark.flawed

end Tree

end ScriptRoster.Script
