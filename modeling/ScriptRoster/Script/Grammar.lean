import ScriptRoster.Script.Bracket
import ScriptRoster.Script.Grammar.Statement

/-!
# Grammar

A script is read by recursive descent. `rule` reads one phrase with the help of a reader for the
phrases inside it, and `reader` ties the knot with a bound on the nesting.

## Main definitions

* `script`: reads a whole script.
* `Tree.ofText`: the syntax tree of a script, with one fault in it where reading halts.
-/

namespace ScriptRoster.Script

open Lexeme

/-- Reads one phrase with a reader for the phrases inside it. -/
def rule (read : Reader) : Phrase → Text → Reading
  | .statements closing => statements read closing
  | .statement fitting => statement read fitting
  | .alternatives fitting => alternatives read fitting
  | .handlers fitting => handlers read fitting
  | .handlerTypes => handlerTypes read
  | .block => block read
  | .namedBlocks => namedBlocks read
  | .definitionBody => definitionBody read
  | .blockBody => blockBody read
  | .paramBlock => paramBlock read
  | .parameterList => parameterList read
  | .parameter => parameter read
  | .tags => tags read
  | .tag => tag read
  | .tagArguments => tagArguments read
  | .typeSpec => typeSpec read
  | .typeArguments => typeArguments read
  | .members => members read
  | .methodParameters => methodParameters read
  | .enumMembers => enumMembers read
  | .cases => cases read
  | .commandList => commandList read
  | .pipeline fitting => pipeline read fitting
  | .chain fitting => chain read fitting
  | .chains fitting => chains read fitting
  | .pipes fitting => pipes read fitting
  | .command fitting => command read fitting
  | .commandName fitting => commandName read fitting
  | .callee fitting => callee read fitting
  | .pathName fitting => pathName read fitting
  | .elements fitting => elements read fitting
  | .argument fitting => argument read fitting
  | .bareArguments fitting => bareArguments read fitting
  | .redirections fitting => redirections read fitting
  | .redirectedFile fitting => redirectedFile read fitting
  | .operation operators fitting => operation read operators fitting
  | .unary fitting => unary read fitting
  | .primary fitting => primary read fitting
  | .value => value read
  | .trailers fitting => trailers read fitting
  | .arguments => arguments read
  | .argumentList => argumentList read
  | .entries => entries read
  | .stringParts attached => stringParts read attached
  | .hereParts => hereParts read

/-- The reader for phrases nested at most `depth` deep. -/
def reader : Nat → Reader
  | 0 => fun _ s => stop s
  | depth + 1 => rule (reader depth)

/-- A nesting depth no phrase of the text exceeds: each step inward that reads no character is
followed by one that does. -/
def depthFor (s : Text) : Nat := 32 * s.length + 32

/-- The text without the byte order mark it may begin with. -/
def withoutMark : Text → Text
  | '\ufeff' :: rest => rest
  | s => s

/-- Whether nothing is left but what may stand between tokens; a backtick may join the last line
to the end of the text. -/
def isAtEnd (s : Text) : Bool :=
  match skipToToken s with
  | [] | ['\x60'] | ['\x60', '\r'] => true
  | _ => false

/-- Reads a whole script: an optional parameter block, then at least one statement. -/
def script (s : Text) : Except Halt (List Tree) := do
  let read := reader (depthFor s)
  let s := withoutMark s
  let (params, body) := (← leadingParameters? read s).getD ([], s)
  if isAtEnd body && (Fitting.next? ⟨false, statementTokens⟩ body).isNone then stop body
  let (trees, rest) ← read (.statements none) body
  if isAtEnd rest then return params ++ trees else stop rest

/-- The line of a position, from the text left there. -/
def lineAt (s rest : Text) : Nat := (s.take (s.length - rest.length)).count '\n' + 1

/-- Whether a passage from here on has no end in the text: an ampersand that fits nothing, or a
string or comment inside an item that is not closed. -/
def Halt.isEndless (halt : Halt) (next : Text) : Bool :=
  match next with
  | [] => true
  | '&' :: rest => halt.runsOn && !rest.contains '&'
  | '\'' :: _ => halt.items.length > 1 && (quoted? next).isNone
  | '<' :: '#' :: _ => halt.items.length > 1
  | '@' :: '\'' :: _ => halt.items.length > 1 && (hereString? next).isNone
  | _ => false

/-- Whether a bracket in front of a halt is never closed. -/
def Halt.isOpen (halt : Halt) (s : Text) : Bool :=
  (neverClosed s).any fun bracket => halt.rest.length < bracket.2.length

/-- Whether an operand begins somewhere in the text. -/
def offersOperand (s : Text) : Bool :=
  s.any fun c => c.isDigit || "([@$\"'\x7b".contains c

/-- The text from the comment on that it begins with, the white space in front of it apart. -/
def firstComment (s : Text) : Text := if (comment? (skip s)).isSome then skip s else s

/-- The line a halt is reported on. Where nothing has been read, it is that of the first comment. An
item that is cut off by the end of the text or by a closing brace is reported where it begins, for
the end the outermost one, for a brace the innermost one. A word in the place of an operand, and a
closing bracket that closes nothing, are reported where they stand. Anything else is reported where
the last fitting token ends. -/
def Halt.line (halt : Halt) (s : Text) : Nat :=
  let next := skipToToken halt.rest
  let here := lineAt s halt.rest
  let innermost := (halt.items.head?.map (lineAt s)).getD here
  let outermost := (halt.items.getLast?.map (lineAt s)).getD here
  let started := halt.items.head?.any fun start => next.length < start.length
  if next.head? == some '\x60' then lineAt s next
  else if halt.rest.length == s.length then lineAt s (firstComment s)
  else if halt.isEndless next then outermost
  else if (!halt.inMember || next.head? == some '}') && halt.isOpen s then outermost
  else
    match next with
    | '}' :: _ => if started then innermost else lineAt s next
    | ')' :: _ => if started then here else lineAt s next
    | c :: _ =>
        if halt.operandDue && isIdentifierChar c then
          if offersOperand next then lineAt s next else innermost
        else here
    | [] => here

/-- The syntax tree of a script; a script that halts has a fault for its only child. -/
def Tree.ofText (s : Text) : Tree :=
  match script s with
  | .ok trees => .branch .phrase trees
  | .error halt => .branch .phrase [.fault (halt.line s)]

end ScriptRoster.Script
