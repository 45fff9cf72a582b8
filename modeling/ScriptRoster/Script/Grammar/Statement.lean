import ScriptRoster.Script.Grammar.Command

/-!
# Statements

Statements, the definitions among them, and the bodies and parameters of definitions and script
blocks. A definition becomes a node of the tree; other statements only pass on the definitions
inside them.
-/

namespace ScriptRoster.Script

open Lexeme

variable (read : Reader)

/-- Statements in braces. -/
def block (s : Text) : Reading := do
  let s ← sign '{' s
  let (trees, s) ← read (.statements (some '}')) s
  let s ← closing '}' s
  return (trees, s)

/-! ### Branches and loops -/

def conditional (fitting : Fitting) : Text → Reading :=
  both (bracketed read) (both (read .block) (read (.alternatives fitting)))

/-- The alternatives of a conditional, each after a keyword of its own. -/
def alternatives (fitting : Fitting) (s : Text) : Reading :=
  match (fitting.plus [.word "elseif", .word "else"]).next? s with
  | some ⟨.word "elseif", _, rest⟩ => conditional read fitting rest
  | some ⟨.word "else", _, rest⟩ => read .block rest
  | _ => .ok ([], s)

def switchOptions : List Token :=
  [.word "-regex", .word "-wildcard", .word "-exact", .word "-casesensitive", .word "-parallel"]

/-- Passes over at most `fuel` options of a switch. -/
def skipSwitchOptions : Nat → Text → Text
  | 0, s => s
  | fuel + 1, s =>
      match Fitting.next? ⟨false, .word "-file" :: .sign '(' :: switchOptions⟩ s with
      | some found =>
          if switchOptions.contains found.token then skipSwitchOptions fuel found.rest else s
      | none => s

/-- What the label of a case begins with. -/
def labelTokens : List Token := .bareWord :: valueTokens

/-- A bare word or a value with what stands behind it. -/
def caseLabel (s : Text) : Reading := do
  let found ← withoutCalls s (one labelTokens s)
  if found.token = .bareWord then return ([], found.rest)
  else read (.primary (.upTo ['{'])) s

def selection (s : Text) : Reading := do
  let s := skipSwitchOptions s.length s
  let found ← one [.word "-file", .sign '('] s
  let (subject, s) ←
    if found.token = .sign '(' then bracketed read s else caseLabel read found.rest
  let s ← sign '{' s
  let (trees, s) ← read .cases s
  let s ← sign '}' s
  return (subject ++ trees, s)

/-- The cases of a switch, each followed by the end of a statement. -/
def cases (s : Text) : Reading := do
  let found ← withoutCalls s (one (.sign '}' :: labelTokens) s)
  if found.token = .sign '}' then return ([], s)
  else
    let (a, rest) ← asItem s (both (both (caseLabel read) (read .block)) caseEnd s)
    let (b, s) ← read .cases (skipSemicolons (.sign '}' :: labelTokens) rest)
    return (a ++ b, s)
where
  /-- The end of a case. It is lacking where the value of another case follows. -/
  caseEnd (s : Text) : Reading :=
    if endsWithin s.length s then .ok ([], s)
    else if (Fitting.next? ⟨false, valueTokens⟩ s).isSome then .ok ([.gap], s)
    else stop s

def iteration (s : Text) : Reading := do
  let found ← one [.word "-parallel", .sign '('] s
  let s ← if found.token = .sign '(' then .ok s else .ok found.rest
  let s ← sign '(' s
  let item ← one variableTokens s
  let within ← one [.word "in"] item.rest
  let (a, s) ← read (.pipeline (.upTo [')'])) within.rest
  let s ← sign ')' s
  let (b, s) ← read .block s
  return (a ++ b, s)

/-- What separates the parts of a counting loop's head. -/
def separatorTokens : List Token := [.sign ';', .attached "\n"]

/-- One part of a counting loop's head, if it is not left out. -/
def headPart (others : List Token) (s : Text) : Reading :=
  match Fitting.next? ⟨false, others ++ pipelineTokens⟩ s with
  | some found =>
      if pipelineTokens.contains found.token then do
        let (trees, s) ← read (.pipeline .line) s
        ended s
        return (trees, s)
      else .ok ([], s)
  | none => .ok ([], s)

/-- A further part of a counting loop's head, if a separator stands here. -/
def nextHeadPart (others : List Token) (s : Text) : Reading :=
  match Fitting.next? ⟨false, .sign ')' :: separatorTokens⟩ s with
  | some found =>
      if separatorTokens.contains found.token then headPart read others found.rest
      else .ok ([], s)
  | none => .ok ([], s)

def counting (s : Text) : Reading := do
  let s ← sign '(' s
  let (a, s) ← headPart read (.sign ')' :: separatorTokens) s
  let (b, s) ← nextHeadPart read (.sign ')' :: separatorTokens) s
  let (c, s) ← nextHeadPart read [.sign ')'] s
  let s ← sign ')' s
  let (d, s) ← read .block s
  return (a ++ b ++ c ++ d, s)

def doLoop (s : Text) : Reading := do
  let (a, s) ← read .block s
  let found ← one [.word "while", .word "until"] s
  let (b, s) ← bracketed read found.rest
  return (a ++ b, s)

/-! ### Other statements -/

/-- A jump out of a loop, to a label if one is given. -/
def jump (s : Text) : Reading := do
  let (trees, s) ←
    match Fitting.next? ⟨true, .label :: operandTokens⟩ s with
    | some ⟨.label, _, rest⟩ => .ok ([], rest)
    | some _ => read (.unary .line) s
    | none => .ok ([], s)
  ended s
  return (trees, s)

/-- A statement that leaves a definition or script with the output of a pipeline. -/
def leave (s : Text) : Reading := do
  let (trees, s) ←
    match Fitting.next? ⟨true, .sign '|' :: pipelineTokens⟩ s with
    | some _ => read (.pipeline .line) s
    | none => .ok ([], s)
  ended s
  return (trees, s)

def trap (s : Text) : Reading := do
  let found ← one [.sign '[', .sign '{'] s
  let (a, s) ← if found.token = .sign '[' then typeLiteral read s else .ok ([], s)
  let (b, s) ← read .block s
  return (a ++ b, s)

/-- The handlers of a guarded block. -/
def handlers (fitting : Fitting) (s : Text) : Reading :=
  match (fitting.plus [.word "catch", .word "finally"]).next? s with
  | some ⟨.word "catch", _, rest⟩ => do
      let found ← one [.sign '[', .sign '{'] rest
      let (a, s) ← if found.token = .sign '[' then read .handlerTypes rest else .ok ([], rest)
      let (b, s) ← both (read .block) (read (.handlers fitting)) s
      return (a ++ b, s)
  | some ⟨.word "finally", _, rest⟩ => read .block rest
  | _ => .ok ([], s)

/-- The types a handler is for, with commas between them. -/
def handlerTypes (s : Text) : Reading := do
  let (a, s) ← typeLiteral read s
  match Fitting.next? (.upTo [',', '{']) s with
  | some ⟨.sign ',', _, rest⟩ => both (fun s => .ok (a, s)) (read .handlerTypes) rest
  | _ => return (a, s)

/-- A data section, with its name and the commands it allows if they are given. -/
def data (s : Text) : Reading := do
  let commands : List Token := [.word "-supportedcommand", .sign '{']
  let found ← one (.simpleName :: commands) s
  let s := if found.token = .simpleName then found.rest else s
  let found ← one commands s
  let (a, s) ← if found.token = .sign '{' then .ok ([], s) else read .commandList found.rest
  let (b, s) ← read .block s
  return (a ++ b, s)

/-- Commands with commas between them. -/
def commandList (s : Text) : Reading := do
  let (a, s) ← read (.callee (.upTo [',', '{'])) s
  match Fitting.next? (.upTo [',', '{']) s with
  | some ⟨.sign ',', _, rest⟩ => both (fun s => .ok (a, s)) (read .commandList) rest
  | _ => return (a, s)

/-- A pipeline as a statement of its own, which an ampersand sends to the background. -/
def plainStatement (s : Text) : Reading := do
  let fitting : Fitting := ⟨true, [.sign '&']⟩
  let (trees, s) ← read (.pipeline fitting) s
  match fitting.next? s with
  | some found => return (trees, found.rest)
  | none => do
      ended s
      return (trees, s)

/-! ### Definitions -/

/-- The name of a definition behind its keyword. A name that begins with a hyphen does not stand
directly behind it. The name is lacking where parameters or an empty body follow. -/
def definitionName (s : Text) : Except Halt (Tree × Text) :=
  match Fitting.next? ⟨false, [.bareWord, .sign '(', .sign '{']⟩ s with
  | some ⟨.bareWord, start, rest⟩ =>
      if start.head? = some '-' && start.length == s.length then stop s
      else .ok (.leaf .definitionName (textBetween start rest), rest)
  | some ⟨.sign '(', _, _⟩ => .ok (.gap, s)
  | some ⟨.sign '{', _, rest⟩ =>
      if (Fitting.next? (.upTo ['}']) rest).isSome then .ok (.gap, s) else stop s
  | _ => stop s

/-- A definition, from its keyword on. -/
def definition (lead : Found) : Reading := do
  let (name, s) ← definitionName lead.rest
  let found ← one [.sign '(', .sign '{'] s
  let (parameters, s) ←
    if found.token = .sign '{' then .ok ([], s)
    else do
      let (list, s) ← optionalParameters found.rest
      let s ← sign ')' s
      .ok ([.branch .parameters list], s)
  let s ← sign '{' s
  let (body, s) ← read .definitionBody s
  let s ← closing '}' s
  return ([.branch .definition (.leaf .keyword lead.text :: name :: parameters ++ body)], s)
where
  /-- Parameters, if a closing bracket does not stand here. -/
  optionalParameters (s : Text) : Reading :=
    match Fitting.next? (.upTo [')']) s with
    | some _ => .ok ([], s)
    | none => read .parameterList s

/-- A comma and another name, any number of times. -/
def moreNames : Nat → Text → Except Halt Text
  | 0, s => .ok s
  | fuel + 1, s =>
      match Fitting.next? (.upTo [',', '{']) s with
      | some ⟨.sign ',', _, rest⟩ => do
          let name ← one [.simpleName] rest
          moreNames fuel name.rest
      | _ => .ok s

def classDefinition (s : Text) : Reading := do
  let name ← one [.simpleName] s
  let found ← one [.sign ':', .sign '{'] name.rest
  let s ←
    if found.token = .sign '{' then .ok name.rest
    else do
      let base ← one [.simpleName] found.rest
      moreNames base.rest.length base.rest
  let s ← sign '{' s
  let (trees, s) ← asMember (read .members s)
  let s ← sign '}' s
  return (trees, s)

/-- What a class member's name begins with. -/
def memberNameTokens : List Token := .simpleName :: variableTokens

def modifiers : List Token := [.reserved "hidden", .reserved "static"]

/-- Passes over at most `fuel` modifiers of a class member. -/
def skipModifiers : Nat → Text → Text
  | 0, s => s
  | fuel + 1, s =>
      match Fitting.next? ⟨false, .sign '[' :: (modifiers ++ memberNameTokens)⟩ s with
      | some found =>
          if modifiers.contains found.token then skipModifiers fuel found.rest else s
      | none => s

/-- A phrase in square brackets, if one stands here in front of the other tokens that fit. -/
def inSquares? (phrase : Text → Reading) (others : List Token) (s : Text) : Reading := do
  let found ← one (.sign '[' :: others) s
  if found.token = .sign '[' then phrase s else return ([], s)

/-- The members of a class: properties, each followed by the end of a statement, and methods. -/
def members (s : Text) : Reading := do
  let starts := .sign '}' :: .sign '[' :: (modifiers ++ memberNameTokens)
  let found ← one starts s
  if found.token = .sign '}' then return ([], s)
  else
    let (a, s) ← inSquares? (read .tag) starts s
    let (b, s) ← inSquares? (typeLiteral read) memberNameTokens (skipModifiers s.length s)
    let name ← one memberNameTokens s
    if variableTokens.contains name.token then do
      let (c, s) ←
        match Fitting.next? ⟨true, [.sign '=']⟩ name.rest with
        | some found => expression read .line found.rest
        | none => .ok ([], name.rest)
      ended s
      let (d, s) ← read .members (skipSemicolons starts s)
      return (a ++ b ++ c ++ d, s)
    else
      let s ← sign '(' name.rest
      let (c, s) ←
        match Fitting.next? (.upTo [')']) s with
        | some _ => .ok ([], s)
        | none => read .methodParameters s
      let s ← sign ')' s
      let s ← sign '{' s
      let (d, s) ← read .definitionBody s
      let s ← sign '}' s
      let (e, s) ← read .members s
      return (a ++ b ++ c ++ d ++ e, s)

/-- The parameters of a method, each a variable with a type in front of it or without one. -/
def methodParameters (s : Text) : Reading := do
  let (a, s) ← inSquares? (typeLiteral read) variableTokens s
  let name ← one variableTokens s
  match Fitting.next? (.upTo [',', ')']) name.rest with
  | some ⟨.sign ',', _, rest⟩ => both (fun s => .ok (a, s)) (read .methodParameters) rest
  | _ => return (a, name.rest)

def enumeration (s : Text) : Reading := do
  let name ← one [.simpleName] s
  let s ← sign '{' name.rest
  let (trees, s) ← asMember (read .enumMembers s)
  let s ← sign '}' s
  return (trees, s)

/-- The members of an enumeration, each followed by the end of a statement. -/
def enumMembers (s : Text) : Reading := do
  let name ← one [.sign '}', .simpleName] s
  if name.token = .sign '}' then return ([], s)
  else
    let s ←
      match Fitting.next? ⟨true, [.sign '=']⟩ name.rest with
      | some found => do
          let number ← one [.decimal, .hexadecimal] found.rest
          .ok number.rest
      | none => .ok name.rest
    ended s
    read .enumMembers (skipSemicolons [] s)

/-! ### All statements -/

/-- The statement that a leading keyword introduces. -/
def led (fitting : Fitting) (found : Found) : Lead → Reading
  | .conditional => conditional read fitting found.rest
  | .selection => selection read found.rest
  | .iteration => iteration read found.rest
  | .counting => counting read found.rest
  | .whileLoop => both (bracketed read) (read .block) found.rest
  | .doLoop => doLoop read found.rest
  | .definition => definition read found
  | .classDefinition => classDefinition read found.rest
  | .enumeration => enumeration read found.rest
  | .jump => jump read found.rest
  | .leave => leave read found.rest
  | .trap => trap read found.rest
  | .guarded => both (read .block) (read (.handlers fitting)) found.rest
  | .data => data read found.rest
  | .sectionBlock => read .block found.rest

def statement (fitting : Fitting) (s : Text) : Reading := do
  let found ← one statementTokens s
  match found.token, found.token.lead? with
  | .sign ';', _ => return ([], found.rest)
  | .label, _ => do
      let next ← one loopTokens found.rest
      match next.token.lead? with
      | some lead => led read fitting next lead
      | none => stop found.rest
  | _, some lead => led read fitting found lead
  | _, none => plainStatement read s

/-- A statement that begins with a pipe, as if a command stood in front of it. Unless a command
follows the pipe, there is no statement at all. -/
def headlessStatement (s : Text) : Reading := do
  let pipe ← one (.sign '|' :: chainTokens) s
  match asItem s (plainStatement read s) with
  | .ok reading => return reading
  | .error halt => if halt.rest.length == pipe.rest.length then stop s else .error halt

/-- Statements up to a closing bracket, or to the end of the text. -/
def statements (closing : Option Char) (s : Text) : Reading :=
  let fitting : Fitting := ⟨false, closing.toList.map Token.sign ++ statementTokens⟩
  match fitting.next? s with
  | none =>
      if (skipToToken s).head? = some '|' then
        both (headlessStatement read) (read (.statements closing)) s
      else .ok ([], s)
  | some found =>
      if (closing.toList.map Token.sign).contains found.token then .ok ([], s)
      else
        both (fun s => asItem s (read (.statement fitting) s)) (read (.statements closing)) s

/-! ### Bodies and parameters -/

def blockNames : List Token :=
  [.word "dynamicparam", .word "begin", .word "process", .word "end"]

/-- Named blocks up to a closing brace. -/
def namedBlocks (s : Text) : Reading := do
  let found ← one (.sign '}' :: blockNames) s
  if found.token = .sign '}' then return ([], s)
  else both (fun _ => asItem s (read .block found.rest)) (read .namedBlocks) s

/-- What the contents of a body begin with. -/
def contentTokens : List Token := blockNames ++ statementTokens

/-- Named blocks or statements. -/
def contents (s : Text) : Reading := do
  let found ← one contentTokens s
  if blockNames.contains found.token then read .namedBlocks s
  else read (.statements (some '}')) s

/-- The rest of a body whose parameter block, after which a statement has ended, is read. -/
def afterParameters (s : Text) : Reading :=
  let s := skipSemicolons (.sign '}' :: contentTokens) s
  match Fitting.next? ⟨false, .sign '}' :: contentTokens⟩ s with
  | some ⟨.sign '}', _, _⟩ => .ok ([], s)
  | _ => contents read s

/-- Whether the type that stands here begins an expression: only the keyword of a parameter block
on the same line makes it a tag. -/
def beginsExpression (s : Text) : Bool :=
  match typeLiteral read s with
  | .ok (_, rest) => (Fitting.next? ⟨true, [.word "param"]⟩ rest).isNone
  | .error _ => false

/-- A parameter block at the start of a body, if there is one. -/
def leadingParameters? (s : Text) : Except Halt (Option (List Tree × Text)) :=
  match Fitting.next? ⟨false, .word "param" :: contentTokens⟩ s with
  | some ⟨.word "param", _, _⟩ => (read .paramBlock s).map some
  | some ⟨.sign '[', _, _⟩ =>
      if beginsExpression read s then .ok none
      else
        match read .paramBlock s with
        | .ok found => .ok (some found)
        | .error _ => .ok none
  | _ => .ok none

/-- What stands between the braces of a definition. Parameters at its start are followed by the
end of a statement. -/
def definitionBody (s : Text) : Reading := do
  match ← leadingParameters? read s with
  | some (params, s) => do
      ended s
      let (trees, s) ← afterParameters read s
      return ([.branch .body (params ++ trees)], s)
  | none =>
      match Fitting.next? ⟨false, .sign '}' :: contentTokens⟩ s with
      | some ⟨.sign '}', _, _⟩ => return ([], s)
      | _ => do
          let (trees, s) ← contents read s
          return ([.branch .body trees], s)

/-- The contents of a script block, which is not empty. Parameters at its start need no end of a
statement behind them, and without one a second parameter block may follow. -/
def blockContents (s : Text) : Reading := do
  match ← leadingParameters? read s with
  | some (params, s) =>
      if endsWithin s.length s then both (fun s => .ok (params, s)) (afterParameters read) s
      else
        match ← leadingParameters? read s with
        | some (more, s) => do
            ended s
            both (fun s => .ok (params ++ more, s)) (afterParameters read) s
        | none => both (fun s => .ok (params, s)) (contents read) s
  | none => contents read s

/-- What stands between the braces of a script block, as one node. -/
def blockBody (s : Text) : Reading := do
  let (trees, s) ← blockContents read s
  return ([.branch .phrase trees], s)

/-- A parameter block, with the tags in front of it. -/
def paramBlock (s : Text) : Reading := asItem s do
  let (a, s) ← read .tags s
  let found ← one [.word "param"] s
  let s ← sign '(' found.rest
  let (b, s) ←
    match Fitting.next? (.upTo [')']) s with
    | some _ => .ok ([], s)
    | none => read .parameterList s
  let s ← sign ')' s
  return ([.branch .paramBlock (a ++ b)], s)

/-- Parameters with commas between them, as one list. -/
def parameterList (s : Text) : Reading := do
  let (trees, s) ← read .parameter s
  return ([.branch .parameterList trees], s)

/-- A parameter and those after it. -/
def parameter (s : Text) : Reading := do
  let (a, s) ← read .tags s
  let name ← one variableTokens s
  let (b, s) ←
    match Fitting.next? (.upTo ['=', ',', ')']) name.rest with
    | some ⟨.sign '=', _, rest⟩ => expression read (.upTo [',', ')']) rest
    | _ => .ok ([], name.rest)
  match Fitting.next? (.upTo [',', ')']) s with
  | some ⟨.sign ',', _, rest⟩ => do
      let (c, s) ← read .parameter rest
      return (a ++ b ++ c, s)
  | _ => return (a ++ b, s)

/-- Any number of tags. -/
def tags (s : Text) : Reading :=
  match Fitting.next? (.upTo ['[']) s with
  | some _ => both (read .tag) (read .tags) s
  | none => .ok ([], s)

/-- A type in square brackets, with arguments in round brackets if there are any. -/
def tag (s : Text) : Reading := do
  let s ← sign '[' s
  let (a, s) ← read .typeSpec s
  match Fitting.next? (.upTo ['(', ']']) s with
  | some ⟨.sign '(', _, rest⟩ => do
      let (b, s) ←
        match Fitting.next? (.upTo [')']) rest with
        | some _ => .ok ([], rest)
        | none => read .tagArguments rest
      let s ← sign ')' s
      let s ← sign ']' s
      return (a ++ b, s)
  | _ => do
      let s ← sign ']' s
      return (a, s)

/-- The arguments of a tag: names, names with values, and values. -/
def tagArguments (s : Text) : Reading := do
  let found ← one (.simpleName :: operandTokens) s
  let value := expression read (.upTo [',', ')'])
  let (a, s) ←
    if found.token = .simpleName then
      match Fitting.next? (.upTo ['=', ',', ')']) found.rest with
      | some ⟨.sign '=', _, rest⟩ => value rest
      | _ => .ok ([], found.rest)
    else value s
  match Fitting.next? (.upTo [',', ')']) s with
  | some ⟨.sign ',', _, rest⟩ => do
      let (b, s) ← read .tagArguments rest
      return (a ++ b, s)
  | _ => return (a, s)

/-- Parts of a type name with points between them. -/
def typeName : Nat → Text → Except Halt Text
  | 0, s => stop s
  | fuel + 1, s => do
      let part ← one [.typeIdentifier] s
      match Fitting.next? (.upTo ['.', '[', ']', '(', ',']) part.rest with
      | some ⟨.sign '.', _, rest⟩ => typeName fuel rest
      | _ => .ok part.rest

/-- Passes over commas. -/
def skipCommas : Nat → Text → Text
  | 0, s => s
  | fuel + 1, s =>
      match Fitting.next? (.upTo [',', ']']) s with
      | some ⟨.sign ',', _, rest⟩ => skipCommas fuel rest
      | _ => s

/-- A type name, alone, with array dimensions, or with type arguments. -/
def typeSpec (s : Text) : Reading := do
  let s ← typeName s.length s
  match Fitting.next? (.upTo ['[', ']', '(', ',']) s with
  | some ⟨.sign '[', _, rest⟩ => do
      let found ← one [.sign ',', .sign ']', .typeIdentifier] rest
      let (trees, s) ←
        if found.token = .typeIdentifier then read .typeArguments rest
        else .ok ([], skipCommas rest.length rest)
      let s ← sign ']' s
      return (trees, s)
  | _ => return ([], s)

/-- Types with commas between them. -/
def typeArguments (s : Text) : Reading := do
  let (a, s) ← read .typeSpec s
  match Fitting.next? (.upTo [',', ']']) s with
  | some ⟨.sign ',', _, rest⟩ => do
      let (b, s) ← read .typeArguments rest
      return (a ++ b, s)
  | _ => return (a, s)

end ScriptRoster.Script
