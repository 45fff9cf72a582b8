import ScriptRoster.Script.Token
import ScriptRoster.Script.Tree

/-!
# Phrases

`Phrase` names the phrases of a script that contain one another. A reader for a phrase answers the
definitions it met, as trees, and the text that is left; or it halts behind the last token that
fits. A phrase is told what may come behind it, because the next token is sought among all kinds
that fit there.

## Main definitions

* `Phrase`, `Reading`, `Reader`.
* `operandTokens`, `pipelineTokens`, `statementTokens`: what the large phrases begin with.
-/

namespace ScriptRoster.Script

open Lexeme

/-- Where reading stopped. -/
structure Halt where
  /-- The text after the last token that fitted. -/
  rest : Text
  /-- Whether an operand was due there. -/
  operandDue : Bool
  /-- Whether a passage that begins with an ampersand there goes on to the next ampersand. -/
  runsOn : Bool
  /-- Whether a member or an entry was being read, and no statement in it. -/
  inMember : Bool
  /-- Where the statements, entries and cases that were being read begin, the innermost first. -/
  items : List Text
  deriving Repr

/-- The definitions met and the text left. -/
abbrev Reading := Except Halt (List Tree × Text)

/-- The phrases that contain one another. -/
inductive Phrase where
  /-- Statements up to a closing bracket, or to the end of the text. -/
  | statements (closing : Option Char)
  | statement (fitting : Fitting)
  | alternatives (fitting : Fitting)
  | handlers (fitting : Fitting)
  | handlerTypes
  | block
  | namedBlocks
  /-- What stands between the braces of a definition. -/
  | definitionBody
  /-- What stands between the braces of a script block. -/
  | blockBody
  | paramBlock
  | parameterList
  | parameter
  | tags
  | tag
  | tagArguments
  | typeSpec
  | typeArguments
  | members
  | methodParameters
  | enumMembers
  | cases
  | commandList
  | pipeline (fitting : Fitting)
  | chain (fitting : Fitting)
  | chains (fitting : Fitting)
  | pipes (fitting : Fitting)
  | command (fitting : Fitting)
  | commandName (fitting : Fitting)
  | callee (fitting : Fitting)
  | pathName (fitting : Fitting)
  | elements (fitting : Fitting)
  | argument (fitting : Fitting)
  | bareArguments (fitting : Fitting)
  | redirections (fitting : Fitting)
  | redirectedFile (fitting : Fitting)
  /-- Operands with these operators between them. -/
  | operation (operators : List Token) (fitting : Fitting)
  | unary (fitting : Fitting)
  | primary (fitting : Fitting)
  | value
  | trailers (fitting : Fitting)
  | arguments
  | argumentList
  | entries
  /-- The parts of an expandable string; `attached` when it is a part of a command name. -/
  | stringParts (attached : Bool)
  | hereParts

/-- A reader for phrases. -/
abbrev Reader := Phrase → Text → Reading

/-- No phrase fits here. -/
def stop {α : Type} (s : Text) : Except Halt α := .error ⟨s, false, false, false, []⟩

/-- Notes that a statement, entry or case that begins here was being read. -/
def asItem (s : Text) (reading : Reading) : Reading :=
  reading.mapError fun halt => { halt with items := halt.items ++ [skipToToken s] }

/-- Marks a halt in a member or an entry, unless a statement in it was being read. -/
def asMember (reading : Reading) : Reading :=
  reading.mapError fun halt => { halt with inMember := halt.inMember || halt.items.isEmpty }

/-- Marks a halt right behind an operator as one where an operand is due. -/
def afterOperator (s : Text) (reading : Reading) : Reading :=
  reading.mapError fun halt =>
    { halt with operandDue := halt.operandDue || halt.rest.length == s.length }

/-- Marks a halt right here as one where an ampersand fits nothing at all. -/
def withoutCalls {α : Type} (s : Text) (reading : Except Halt α) : Except Halt α :=
  reading.mapError fun halt =>
    { halt with runsOn := halt.runsOn || halt.rest.length == s.length }

/-- Reads a token of a kind that fits. -/
def one (tokens : List Token) (s : Text) : Except Halt Found :=
  match Fitting.next? ⟨false, tokens⟩ s with
  | some found => .ok found
  | none => stop s

/-- Reads one sign. -/
def sign (c : Char) (s : Text) : Except Halt Text := (one [.sign c] s).map Found.rest

/-- Reads the closing bracket behind statements; what stands in its place would begin another. -/
def closing (c : Char) (s : Text) : Except Halt Text :=
  (sign c s).mapError fun halt => { halt with items := [skipToToken s] }

/-- Whether a statement may end here, after at most `fuel` comments. -/
def endsWithin : Nat → Text → Bool
  | 0, s => endsStatement s
  | fuel + 1, s =>
      endsStatement s
        || match comment? (skip s) with
          | some rest => endsWithin fuel rest
          | none => false

/-- Checks that a statement may end here. -/
def ended (s : Text) : Except Halt Unit := if endsWithin s.length s then .ok () else stop s

/-- One phrase after another. -/
def both (first second : Text → Reading) (s : Text) : Reading := do
  let (a, s) ← first s
  let (b, s) ← second s
  return (a ++ b, s)

/-- Passes over at most `fuel` semicolons, where a token of these kinds may follow them. -/
def skipSemicolonsWithin (tokens : List Token) : Nat → Text → Text
  | 0, s => s
  | fuel + 1, s =>
      match Fitting.next? ⟨false, .sign ';' :: tokens⟩ s with
      | some ⟨.sign ';', _, rest⟩ => skipSemicolonsWithin tokens fuel rest
      | _ => s

/-- Passes over any number of semicolons, where a token of these kinds may follow them. -/
def skipSemicolons (tokens : List Token) (s : Text) : Text := skipSemicolonsWithin tokens s.length s

/-! ### What phrases begin with -/

def variableTokens : List Token := [.dollarVariable, .splatVariable]

/-- What a value begins with. -/
def valueTokens : List Token :=
  [.sign '(', .sign '{', .sign '[', .signs "$(", .signs "@(", .signs "@\x7b", .decimal,
    .hexadecimal, .real, .quoted, .hereString, .openString, .openHere] ++ variableTokens

/-- What stands in front of an operand. -/
def signTokens : List Token :=
  [.sign ',', .sign '!', .sign '+', .sign '-', .signs "++", .signs "--", .negation, .split]

/-- What an operand begins with. -/
def operandTokens : List Token := valueTokens ++ signTokens

/-- What a command name begins with. -/
def nameTokens : List Token := [.commandWord, .sign '%', .word "foreach-object"]

/-- What a command begins with. -/
def commandTokens : List Token := nameTokens ++ [.sign '.', .sign '&']

/-- What a pipeline begins with. -/
def pipelineTokens : List Token := operandTokens ++ commandTokens

/-- What a leading keyword introduces. -/
inductive Lead where
  | conditional
  | selection
  | iteration
  | counting
  | whileLoop
  | doLoop
  | definition
  | classDefinition
  | enumeration
  | jump
  | leave
  | trap
  | guarded
  | data
  | sectionBlock
  deriving DecidableEq

/-- The keywords of statements that a label may stand in front of. -/
def loopLeads : List (Token × Lead) :=
  [(.word "switch", .selection), (.word "foreach", .iteration), (.word "for", .counting),
    (.word "while", .whileLoop), (.word "do", .doLoop)]

/-- The keywords that begin a statement. -/
def leads : List (Token × Lead) :=
  loopLeads ++
  [(.word "if", .conditional), (.word "function", .definition), (.word "filter", .definition),
    (.word "workflow", .definition), (.reserved "class", .classDefinition),
    (.reserved "enum", .enumeration), (.word "break", .jump), (.word "continue", .jump),
    (.word "throw", .leave), (.word "return", .leave), (.word "exit", .leave),
    (.word "trap", .trap), (.word "try", .guarded), (.word "data", .data),
    (.word "inlinescript", .sectionBlock), (.word "parallel", .sectionBlock),
    (.word "sequence", .sectionBlock)]

/-- What a token introduces, if it is a leading keyword. -/
def Token.lead? (token : Token) : Option Lead := leads.lookup token

def loopTokens : List Token := loopLeads.map Prod.fst

/-- What a statement begins with. -/
def statementTokens : List Token :=
  leads.map Prod.fst ++ [.label, .sign ';'] ++ pipelineTokens

/-! ### What stands between and behind phrases -/

/-- The operators between two operands of an argument of a member. -/
def argumentOperators : List Token :=
  [.logical, .comparison, .split, .format, .sign '+', .sign '-', .sign '*', .sign '/', .sign '\\',
    .sign '%', .signs ".."]

/-- The operators between two operands, commas apart. -/
def operators : List Token := .bitwise :: argumentOperators

/-- What stands behind a value and goes on with it. -/
def trailerTokens : List Token :=
  [.attached ".", .eachMember, .signs "::", .sign '[', .signs "++", .signs "--"]

def redirectionTokens : List Token := [.fileRedirection, .mergingRedirection]

def chainTokens : List Token := [.signs "&&", .signs "||"]

/-- What an element of a command begins with, the space in front of an argument included. -/
def elementTokens : List Token :=
  [.sign ' ', .sign ':', .parameter, .signs "--", .sign '-', .sign '(', .sign '{', .stopParsing] ++
    redirectionTokens

/-- Up to the end of the statement. -/
def Fitting.line : Fitting := ⟨true, []⟩

/-- Up to one of these signs. -/
def Fitting.upTo (signs : List Char) : Fitting := ⟨false, signs.map Token.sign⟩

end ScriptRoster.Script
