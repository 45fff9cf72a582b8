import ScriptRoster.Script.Grammar.Expandable

/-!
# Expressions

Operands with operators between them, values, and what stands behind a value: members, indices
and steps.

## Implementation notes

Operators need no precedence here: which operand belongs to which operator changes neither what is
accepted nor the order of the definitions inside.
-/

namespace ScriptRoster.Script

open Lexeme

variable (read : Reader)

/-- A pipeline in round brackets. -/
def bracketed (s : Text) : Reading := do
  let s ← sign '(' s
  let (trees, s) ← read (.pipeline (.upTo [')'])) s
  let s ← sign ')' s
  return (trees, s)

/-- A type in square brackets. -/
def typeLiteral (s : Text) : Reading := do
  let s ← sign '[' s
  let (trees, s) ← read .typeSpec s
  let s ← sign ']' s
  return (trees, s)

/-- The text behind at most `fuel` comments. -/
def behindComments : Nat → Text → Text
  | 0, s => s
  | fuel + 1, s =>
      match comment? (skip s) with
      | some rest => behindComments fuel rest
      | none => s

/-- Leaves out the one item of a halt that begins here, unless the halt is there too. A script block
is not empty, so that what is missing in an empty one would begin right here. -/
def withoutFirst (s : Text) (reading : Reading) : Reading :=
  reading.mapError fun halt =>
    let first := skipToToken s
    match halt.items with
    | [start] => if start.length == first.length then { halt with items := [] } else halt
    | [] =>
        if halt.rest.length == s.length then
          { halt with items := [behindComments s.length s] }
        else halt
    | _ => halt

/-- A script block in braces. -/
def scriptBlock (s : Text) : Reading := do
  let s ← sign '{' s
  let (trees, s) ← withoutFirst s (read .blockBody s)
  let s ← sign '}' s
  return (trees, s)

/-- An expression: operands with operators and commas between them. -/
def expression (fitting : Fitting) : Text → Reading := read (.operation operators fitting)

/-- Operands with operators between them, and commas unless a comma may follow the whole. -/
def operation (operators : List Token) (fitting : Fitting) (s : Text) : Reading := do
  let between := if fitting.allows (.sign ',') then operators else .sign ',' :: operators
  let (a, s) ← read (.unary (fitting.plus between)) s
  match (fitting.plus between).next? s with
  | some found =>
      if between.contains found.token then do
        let (b, s) ←
          afterOperator found.rest (read (.operation operators fitting) found.rest)
        return (a ++ b, s)
      else return (a, s)
  | none => return (a, s)

/-- A type as a value, or a cast with its operand. -/
def castOrType (fitting : Fitting) (s : Text) : Reading := do
  let (a, s) ← typeLiteral read s
  match (fitting.plus (operandTokens ++ trailerTokens)).next? s with
  | some found =>
      if operandTokens.contains found.token then do
        let (b, s) ← read (.unary fitting) s
        return (a ++ b, s)
      else both (fun s => .ok (a, s)) (read (.trailers fitting)) s
  | none => return (a, s)

/-- An operand with the operators in front of it. -/
def unary (fitting : Fitting) (s : Text) : Reading := do
  let found ← one operandTokens s
  if found.token = .sign '[' then castOrType read fitting s
  else if signTokens.contains found.token then
    afterOperator found.rest (read (.unary fitting) found.rest)
  else read (.primary fitting) s

def primary (fitting : Fitting) (s : Text) : Reading :=
  both (read .value) (read (.trailers fitting)) s

/-- A value without anything behind it. -/
def value (s : Text) : Reading := do
  let found ← one valueTokens s
  match found.token with
  | .signs "$(" => subexpression read found.rest
  | .signs "@(" => subexpression read found.rest
  | .signs "@\x7b" => do
      let (trees, s) ← read .entries found.rest
      let s ← sign '}' s
      return (trees, s)
  | .sign '(' => bracketed read s
  | .sign '{' => scriptBlock read s
  | .sign '[' => typeLiteral read s
  | .openString => read (.stringParts false) found.rest
  | .openHere => read .hereParts found.rest
  | _ => return ([], found.rest)

/-- What the key of a table entry begins with. -/
def keyTokens : List Token := .simpleName :: operandTokens

/-- Moves a halt in front of the key of another entry up to that key. -/
def atLateKey (reading : Reading) : Reading :=
  reading.mapError fun halt =>
    match Fitting.next? ⟨false, .simpleName :: variableTokens⟩ halt.rest with
    | some key =>
        if (Fitting.next? (.upTo ['=']) key.rest).isSome then { halt with rest := key.start }
        else halt
    | none => halt

/-- The entries of a table, each followed by the end of a statement. -/
def entries (s : Text) : Reading := do
  match Fitting.next? ⟨false, .sign '}' :: keyTokens⟩ s with
  | some ⟨.sign '}', _, _⟩ => return ([], s)
  | first => do
      let key : Reading :=
        match first with
        | some ⟨.simpleName, _, rest⟩ => .ok ([], rest)
        | _ => read (.unary (.upTo ['='])) s
      let (a, rest) ← asItem s (asMember (atLateKey (key.bind fun (a, s) => entry a s)))
      let (b, s) ← read .entries (skipSemicolons (.sign '}' :: keyTokens) rest)
      return (a ++ b, s)
where
  /-- The rest of an entry, from the text after its key. -/
  entry (key : List Tree) (s : Text) : Reading := do
    let s ← sign '=' s
    let (a, s) ← read (.statement .line) s
    ended s
    return (key ++ a, s)

/-- What the member of a value begins with. -/
def memberTokens : List Token := .simpleName :: operandTokens

/-- The name of a member: a word, a value, or an operand with an operator in front of it. -/
def memberName (fitting : Fitting) (s : Text) : Reading := do
  let found ← one memberTokens s
  let fitting := fitting.plus (.sign '(' :: trailerTokens)
  if found.token = .simpleName then return ([], found.rest)
  else if found.token = .sign '[' then do
    let (a, rest) ← typeLiteral read s
    match (fitting.plus operandTokens).next? rest with
    | some next =>
        if operandTokens.contains next.token then
          both (fun s => .ok (a, s)) (read (.unary fitting)) rest
        else return (a, rest)
    | none => return (a, rest)
  else if signTokens.contains found.token then read (.unary fitting) s
  else read .value s

/-- The member after a point or two colons, with its arguments if there are any. Where a bracket
may follow the whole, a bracket behind the name begins no arguments. -/
def member (fitting : Fitting) (s : Text) : Reading := do
  let (a, s) ← memberName read fitting s
  match (fitting.plus (.sign '(' :: trailerTokens)).next? s with
  | some ⟨.sign '(', _, rest⟩ =>
      if fitting.allows (.sign '(') then return (a, s)
      else do
        let (b, s) ← read .arguments rest
        let (c, s) ← read (.trailers fitting) s
        return (a ++ b ++ c, s)
  | _ => both (fun s => .ok (a, s)) (read (.trailers fitting)) s

/-- The arguments of a member, from the text after the opening bracket. -/
def arguments (s : Text) : Reading :=
  match Fitting.next? ⟨false, .sign ')' :: operandTokens⟩ s with
  | some ⟨.sign ')', _, rest⟩ => .ok ([], rest)
  | _ => do
      let (a, s) ← read .argumentList s
      let s ← sign ')' s
      return (a, s)

/-- Arguments with commas between them. -/
def argumentList (s : Text) : Reading := do
  let (a, s) ← read (.operation argumentOperators (.upTo [',', ')'])) s
  match Fitting.next? (.upTo [',', ')']) s with
  | some ⟨.sign ',', _, rest⟩ => do
      let (b, s) ← read .argumentList rest
      return (a ++ b, s)
  | _ => return (a, s)

/-- What may stand behind a value: members, indices and steps. -/
def trailers (fitting : Fitting) (s : Text) : Reading :=
  match (fitting.plus trailerTokens).next? s with
  | some ⟨.attached ".", _, rest⟩ => member read fitting rest
  | some ⟨.signs "::", _, rest⟩ => member read fitting rest
  | some ⟨.eachMember, _, rest⟩ => both (scriptBlock read) (read (.trailers fitting)) rest
  | some ⟨.sign '[', _, rest⟩ => do
      let (a, s) ← expression read (.upTo [']']) rest
      let s ← sign ']' s
      let (b, s) ← read (.trailers fitting) s
      return (a ++ b, s)
  | some ⟨.signs "++", _, rest⟩ => read (.trailers fitting) rest
  | some ⟨.signs "--", _, rest⟩ => read (.trailers fitting) rest
  | _ => .ok ([], s)

end ScriptRoster.Script
