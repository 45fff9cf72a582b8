import ScriptRoster.Script.Grammar.Expression

/-!
# Pipelines and commands

A pipeline is an assignment, or commands and expressions tied together. The elements of a command
are told apart by what stands in front of them: an argument follows a space or a colon, while
parameters, brackets, script blocks and redirections may follow the element before directly.
-/

namespace ScriptRoster.Script

open Lexeme

variable (read : Reader)

def assignmentTokens : List Token := [.sign '=', .assignment]

/-- What may follow a link of a pipeline. -/
def Fitting.linked (fitting : Fitting) : Fitting := fitting.plus (.sign '|' :: chainTokens)

/-- An expression as a link of a pipeline, with its redirections and the commands its output is
passed to, from the text after the expression. -/
def linkTail (fitting : Fitting) : Text → Reading :=
  both (read (.redirections fitting.linked)) (read (.pipes fitting))

/-- Whether a command is lacking here: what follows could follow a command. -/
def lacksCommand (fitting : Fitting) (s : Text) : Bool :=
  match skipToToken s with
  | ')' :: _ => fitting.allows (.sign ')')
  | '|' :: _ => true
  | _ => false

/-- A pipeline: an assignment, or commands and expressions tied together. -/
def pipeline (fitting : Fitting) (s : Text) : Reading := do
  if lacksCommand fitting s then
    return ← both (fun s => .ok ([.gap], s))
      (both (read (.pipes fitting)) (read (.chains fitting))) (skipToToken s)
  let found ← one pipelineTokens s
  if commandTokens.contains found.token then
    both (read (.chain fitting)) (read (.chains fitting)) s
  else
    let after := fitting.linked.plus (assignmentTokens ++ redirectionTokens)
    let (a, s) ← expression read after s
    match after.next? s with
    | some next =>
        if assignmentTokens.contains next.token then do
          let (b, s) ← read (.statement fitting) next.rest
          return (a ++ b, s)
        else both (fun s => .ok (a, s)) (both (linkTail read fitting) (read (.chains fitting))) s
    | none => return (a, s)

/-- A command or expression with the commands its output is passed to. The rest of a line may be
passed on as it is to a command that no output is passed to. -/
def chain (fitting : Fitting) (s : Text) : Reading := do
  let found ← one pipelineTokens s
  if commandTokens.contains found.token then
    both (read (.command (fitting.linked.plus [.signs "--%"]))) (read (.pipes fitting)) s
  else
    both (expression read (fitting.linked.plus redirectionTokens)) (linkTail read fitting) s

/-- The further links of a pipeline, each run on the success or failure of the one before. -/
def chains (fitting : Fitting) (s : Text) : Reading :=
  match (fitting.plus chainTokens).next? s with
  | some found =>
      if chainTokens.contains found.token then
        both (read (.chain fitting)) (read (.chains fitting)) found.rest
      else .ok ([], s)
  | none => .ok ([], s)

/-- The commands that output is passed to, one after the other. -/
def pipes (fitting : Fitting) (s : Text) : Reading :=
  match fitting.linked.next? s with
  | some ⟨.sign '|', _, rest⟩ => both (read (.command fitting.linked)) (read (.pipes fitting)) rest
  | _ => .ok ([], s)

/-- A command with its elements. -/
def command (fitting : Fitting) (s : Text) : Reading := do
  let found ← one commandTokens s
  let after := fitting.plus elementTokens
  let name := if nameTokens.contains found.token then Phrase.commandName after else .callee after
  both (read name) (read (.elements fitting)) found.rest

/-- What may follow a command name without a blank. -/
def nameTailTokens : List Token :=
  [.commandTail, .quotedTail, .attached "\"", .attached "\"\""]

/-- What follows the first word of a command name without a blank: more characters and strings. -/
def commandName (fitting : Fitting) (s : Text) : Reading :=
  match (fitting.plus nameTailTokens).next? s with
  | some ⟨.attached "\"", _, rest⟩ =>
      both (read (.stringParts true)) (read (.commandName fitting)) rest
  | some found =>
      if nameTailTokens.contains found.token then read (.commandName fitting) found.rest
      else .ok ([], s)
  | none => .ok ([], s)

/-- What the path of a command is made of. -/
def pathTokens : List Token := .pathWord :: variableTokens

/-- Words and variables that make up the path of a command. -/
def pathName (fitting : Fitting) (s : Text) : Reading :=
  match (fitting.plus pathTokens).next? s with
  | some found =>
      if pathTokens.contains found.token then read (.pathName fitting) found.rest else .ok ([], s)
  | none => .ok ([], s)

/-- What a call operator calls: a command name, a path, or an operand. A variable begins a path
when more of it follows, and is an operand otherwise. -/
def callee (fitting : Fitting) (s : Text) : Reading := do
  let found ← withoutCalls s (one (nameTokens ++ .pathWord :: valueTokens) s)
  if nameTokens.contains found.token then read (.commandName fitting) found.rest
  else if found.token = .pathWord then read (.pathName fitting) found.rest
  else if variableTokens.contains found.token then
    match (fitting.plus (trailerTokens ++ pathTokens)).next? found.rest with
    | some next =>
        if pathTokens.contains next.token then read (.pathName fitting) found.rest
        else read (.trailers fitting) found.rest
    | none => return ([], found.rest)
  else read (.primary fitting) s

/-- The text after one piece of a line that is passed on as it is: a string, the text up to the
next ampersand, or the rest of the line up to a bar. -/
def verbatimPiece? (s : Text) : Option Text :=
  let line := run? (fun c => c != '|' && c != '\r' && c != '\n' && c != '\x00')
    (s.dropWhile fun c => c == '\r' || c == '\n')
  match skip s with
  | '&' :: rest => longest line (some (rest.dropWhile (· != '&')))
  | '"' :: rest =>
      match rest.dropWhile (· != '"') with
      | _ :: after => longest line (some after)
      | [] => line
  | _ => line

/-- At most `fuel` further pieces of a line that is passed on as it is. -/
def verbatimWithin (fitting : Fitting) : Nat → Text → Text
  | 0, s => s
  | fuel + 1, s =>
      if fitting.ends && endsStatement s then s
      else
        match verbatimPiece? s with
        | some rest => verbatimWithin fitting fuel rest
        | none => s

/-- What is passed on to a command as it is; it begins with one piece at least, which may stand
on a later line. -/
def verbatim (fitting : Fitting) (s : Text) : Reading :=
  match verbatimPiece? s with
  | some rest => .ok ([], verbatimWithin fitting rest.length rest)
  | none => stop s

/-- The elements of a command. -/
def elements (fitting : Fitting) (s : Text) : Reading :=
  let more := read (.elements fitting)
  let after := fitting.plus elementTokens
  match after.next? s with
  | none => .ok ([], s)
  | some found =>
      match found.token with
      | .sign ' ' | .sign ':' => both (read (.argument after)) more found.rest
      | .parameter | .signs "--" | .sign '-' | .stopParsing | .mergingRedirection =>
          more found.rest
      | .fileRedirection => both (read (.redirectedFile after)) more found.rest
      | .sign '(' => both (bracketed read) more s
      | .sign '{' => both (scriptBlock read) more s
      | .signs "--%" => verbatim fitting found.rest
      | _ => .ok ([], s)

/-- What stands behind the space or colon in front of an argument; it may be nothing. -/
def argument (fitting : Fitting) (s : Text) : Reading :=
  match (fitting.plus (.sign ' ' :: .bareArgument :: operandTokens)).next? s with
  | none => .ok ([], s)
  | some found =>
      if found.token = .sign ' ' then read (.argument fitting) found.rest
      else if found.token = .bareArgument then read (.bareArguments fitting) found.rest
      else if found.token = .sign '-' || found.token = .signs "--" then
        match (fitting.plus operandTokens).next? found.rest with
        | some next =>
            if operandTokens.contains next.token then read (.operation [] fitting) s
            else .ok ([], found.rest)
        | none => .ok ([], found.rest)
      else if operandTokens.contains found.token then read (.operation [] fitting) s
      else .ok ([], s)

/-- What follows a bare argument: more of them after commas, and arguments in brackets. -/
def bareArguments (fitting : Fitting) (s : Text) : Reading :=
  match (fitting.plus [.sign ',', .sign '(']).next? s with
  | some ⟨.sign ',', _, rest⟩ => do
      let found ← one [.bareArgument] rest
      read (.bareArguments fitting) found.rest
  | some ⟨.sign '(', _, rest⟩ => read .arguments rest
  | _ => .ok ([], s)

/-- The file a redirection names. -/
def redirectedFile (fitting : Fitting) (s : Text) : Reading := do
  let found ← withoutCalls s (one (.sign ' ' :: .sign ':' :: valueTokens) s)
  if valueTokens.contains found.token then read (.primary fitting) s
  else read (.argument fitting) found.rest

/-- The redirections of an expression. -/
def redirections (fitting : Fitting) (s : Text) : Reading :=
  let after := fitting.plus redirectionTokens
  match after.next? s with
  | some ⟨.mergingRedirection, _, rest⟩ => read (.redirections fitting) rest
  | some ⟨.fileRedirection, _, rest⟩ =>
      both (read (.redirectedFile after)) (read (.redirections fitting)) rest
  | _ => .ok ([], s)

end ScriptRoster.Script
