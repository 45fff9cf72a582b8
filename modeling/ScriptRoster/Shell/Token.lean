import ScriptRoster.Shell.Word

/-!
# Tokens

The text of a shell script falls into words, marks between them, and the beginnings of
redirections. Each token knows its line.
-/

namespace ScriptRoster.Shell

/-- What is done to a stream of a command. -/
inductive Turn where
  /-- The stream reads from a file. -/
  | readFrom
  /-- The stream writes to a file, which is emptied first. -/
  | writeTo
  | appendTo
  /-- The stream becomes the same as another. -/
  | sameAs
  deriving DecidableEq, Repr

inductive Token where
  | word (parts : Word)
  /-- A mark between commands; the end of a line is one. -/
  | mark (text : String)
  | turn (stream : Nat) (kind : Turn)
  deriving Repr

namespace Token

def isDigits (text : List Char) : Bool := !text.isEmpty && text.all Char.isDigit

/-- The parameters that are named by one character. -/
def isSpecial (c : Char) : Bool :=
  c == '@' || c == '*' || c == '#' || c == '?' || c == '$' || c == '!' || c == '-'

/-- What is said behind the name of a parameter in braces, and what follows it. -/
def edit? (text : List Char) : Option (Edit × List Char) :=
  match text with
  | '#' :: '#' :: rest => some (.dropFront true, rest)
  | '#' :: rest => some (.dropFront false, rest)
  | '%' :: '%' :: rest => some (.dropBack true, rest)
  | '%' :: rest => some (.dropBack false, rest)
  | ':' :: '-' :: rest => some (.fallback true, rest)
  | '-' :: rest => some (.fallback false, rest)
  | ':' :: '+' :: rest => some (.instead true, rest)
  | '+' :: rest => some (.instead false, rest)
  | _ => none

/-- The name of a parameter at the beginning of a text. -/
def parameterName (text : List Char) : List Char :=
  match text with
  | c :: _ =>
      if isSpecial c then [c]
      else if c.isDigit then text.takeWhile Char.isDigit
      else text.takeWhile isNameChar
  | [] => []

/-- The part for the length of a value, where that is all there is in braces. -/
def length? (quoted : Bool) (text : List Char) : Option (Part × List Char) :=
  let name := parameterName text
  match text.drop name.length with
  | '\x7d' :: rest =>
      if name.isEmpty then none else some (.value (String.ofList name) .length [] quoted, rest)
  | _ => none

/-- Splits the text at the two brackets that close an expression, `depth` others being open. -/
def expression (depth : Nat) : List Char → Option (List Char × List Char)
  | [] => none
  | '(' :: rest => (expression (depth + 1) rest).map fun (e, rest) => ('(' :: e, rest)
  | ')' :: rest =>
      match depth, rest with
      | 0, ')' :: rest => some ([], rest)
      | 0, _ => none
      | depth + 1, _ => (expression depth rest).map fun (e, rest) => (')' :: e, rest)
  | c :: rest => (expression depth rest).map fun (e, rest) => (c :: e, rest)

mutual

/-- Splits the text at the bracket that closes a script. -/
def script : Nat → List Char → Option (List Char × List Char)
  | 0, _ => none
  | fuel + 1, text =>
      match text with
      | [] => none
      | ')' :: rest => some ([], rest)
      | '\\' :: c :: rest =>
          (script fuel rest).map fun (more, rest) => ('\\' :: c :: more, rest)
      | '\'' :: rest => do
          let chars := rest.takeWhile (· != '\'')
          let after ← (rest.drop chars.length).tail?
          let (more, rest) ← script fuel after
          some ('\'' :: chars ++ '\'' :: more, rest)
      | '"' :: rest => do
          let (inside, rest) ← quotedScript fuel rest
          let (more, rest) ← script fuel rest
          some ('"' :: inside ++ '"' :: more, rest)
      | '(' :: rest => do
          let (inside, rest) ← script fuel rest
          let (more, rest) ← script fuel rest
          some ('(' :: inside ++ ')' :: more, rest)
      | c :: rest => (script fuel rest).map fun (more, rest) => (c :: more, rest)

/-- Splits the text at the double quote that closes it. -/
def quotedScript : Nat → List Char → Option (List Char × List Char)
  | 0, _ => none
  | fuel + 1, text =>
      match text with
      | [] => none
      | '"' :: rest => some ([], rest)
      | '\\' :: c :: rest =>
          (quotedScript fuel rest).map fun (more, rest) => ('\\' :: c :: more, rest)
      | '$' :: '(' :: rest => do
          let (inside, rest) ← script fuel rest
          let (more, rest) ← quotedScript fuel rest
          some ('$' :: '(' :: inside ++ ')' :: more, rest)
      | c :: rest => (quotedScript fuel rest).map fun (more, rest) => (c :: more, rest)

end

/-- The script up to a closing backquote, and what follows it. -/
def backquoted (quoted : Bool) : List Char → Option (List Char × List Char)
  | [] => none
  | '\x60' :: rest => some ([], rest)
  | '\\' :: c :: rest =>
      let chars :=
        if c == '$' || c == '\x60' || c == '\\' || (quoted && c == '"') then [c] else ['\\', c]
      (backquoted quoted rest).map fun (more, rest) => (chars ++ more, rest)
  | c :: rest => (backquoted quoted rest).map fun (more, rest) => (c :: more, rest)

/-- The characters that end a word. -/
def endsWord (c : Char) : Bool :=
  Arithmetic.isBlank c || c == ';' || c == '&' || c == '|' || c == '<' || c == '>' || c == '('
    || c == ')'

/-- The characters that interrupt a run of plain ones within a word. -/
def isStop (ends : Char → Bool) (c : Char) : Bool :=
  ends c || c == '\'' || c == '"' || c == '\\' || c == '$' || c == '\x60'

mutual

/-- The part that a dollar sign begins, and what follows it. -/
def dollar (quoted : Bool) : Nat → List Char → Option (Part × List Char)
  | 0, _ => none
  | fuel + 1, text =>
      match text with
      | '\x7b' :: '#' :: rest =>
          match length? quoted rest with
          | some found => some found
          | none => braces quoted fuel ('#' :: rest)
      | '\x7b' :: rest => braces quoted fuel rest
      | '(' :: '(' :: rest =>
          match expression 0 rest with
          | some (inside, after) => do
              let (parts, _) ← readWord (fun _ => false) fuel inside
              some (.result parts quoted, after)
          | none => do
              let (inside, after) ← script text.length ('(' :: rest)
              some (.output inside quoted, after)
      | '(' :: rest => do
          let (inside, after) ← script text.length rest
          some (.output inside quoted, after)
      | c :: rest =>
          if isSpecial c || c.isDigit then
            some (.value (String.ofList [c]) .keep [] quoted, rest)
          else if isNameStart c then
            let name := text.takeWhile isNameChar
            some (.value (String.ofList name) .keep [] quoted, text.drop name.length)
          else some (.text ['$'] quoted, text)
      | [] => some (.text ['$'] quoted, [])

/-- The part that stands in braces, and what follows it. -/
def braces (quoted : Bool) : Nat → List Char → Option (Part × List Char)
  | 0, _ => none
  | fuel + 1, text =>
      let name := parameterName text
      if name.isEmpty then none
      else
        match text.drop name.length with
        | '\x7d' :: rest => some (.value (String.ofList name) .keep [] quoted, rest)
        | text => do
            let (edit, text) ← edit? text
            let (operand, text) ← readWord (· == '\x7d') fuel text
            some (.value (String.ofList name) edit operand quoted, ← text.tail?)

/-- The parts up to a closing double quote, and what follows it. -/
def doubleQuoted : Nat → List Char → Option (Word × List Char)
  | 0, _ => none
  | fuel + 1, text =>
      match text with
      | [] => none
      | '"' :: rest => some ([], rest)
      | '\\' :: '\n' :: rest => doubleQuoted fuel rest
      | '\\' :: c :: rest =>
          let chars := if c == '$' || c == '\x60' || c == '"' || c == '\\' then [c] else ['\\', c]
          (doubleQuoted fuel rest).map fun (parts, rest) => (.text chars true :: parts, rest)
      | '$' :: rest => do
          let (part, rest) ← dollar true fuel rest
          let (parts, rest) ← doubleQuoted fuel rest
          some (part :: parts, rest)
      | '\x60' :: rest => do
          let (script, rest) ← backquoted true rest
          let (parts, rest) ← doubleQuoted fuel rest
          some (.output script true :: parts, rest)
      | c :: rest =>
          let chars := c :: rest.takeWhile fun c =>
            c != '"' && c != '\\' && c != '$' && c != '\x60'
          (doubleQuoted fuel (text.drop chars.length)).map fun (parts, rest) =>
            (.text chars true :: parts, rest)

/-- The word at the beginning of a text, up to a character that ends it, and what follows. -/
def readWord (ends : Char → Bool) : Nat → List Char → Option (Word × List Char)
  | 0, _ => none
  | fuel + 1, text =>
      match text with
      | [] => some ([], [])
      | '\'' :: rest => do
          let chars := rest.takeWhile (· != '\'')
          let after ← (rest.drop chars.length).tail?
          let (parts, rest) ← readWord ends fuel after
          some (.text chars true :: parts, rest)
      | '"' :: rest => do
          let (quoted, rest) ← doubleQuoted fuel rest
          let (parts, rest) ← readWord ends fuel rest
          let quoted := if quoted.isEmpty then [.text [] true] else quoted
          some (quoted ++ parts, rest)
      | '\\' :: '\n' :: rest => readWord ends fuel rest
      | '\\' :: c :: rest =>
          (readWord ends fuel rest).map fun (parts, rest) => (.text [c] true :: parts, rest)
      | '$' :: rest => do
          let (part, rest) ← dollar false fuel rest
          let (parts, rest) ← readWord ends fuel rest
          some (part :: parts, rest)
      | '\x60' :: rest => do
          let (script, rest) ← backquoted false rest
          let (parts, rest) ← readWord ends fuel rest
          some (.output script false :: parts, rest)
      | c :: rest =>
          if ends c then some ([], text)
          else
            let chars := c :: rest.takeWhile fun c => !isStop ends c
            (readWord ends fuel (text.drop chars.length)).map fun (parts, rest) =>
              (.text chars false :: parts, rest)

end

/-- The mark or redirection at the beginning of a text, and what follows it. -/
def sign? (text : List Char) : Option (Token × List Char) :=
  match text with
  | ';' :: ';' :: rest => some (.mark ";;", rest)
  | ';' :: rest => some (.mark ";", rest)
  | '&' :: '&' :: rest => some (.mark "&&", rest)
  | '&' :: rest => some (.mark "&", rest)
  | '|' :: '|' :: rest => some (.mark "||", rest)
  | '|' :: rest => some (.mark "|", rest)
  | '(' :: rest => some (.mark "(", rest)
  | ')' :: rest => some (.mark ")", rest)
  | '\n' :: rest => some (.mark "\n", rest)
  | '>' :: '>' :: rest => some (.turn 1 .appendTo, rest)
  | '>' :: '&' :: rest => some (.turn 1 .sameAs, rest)
  | '>' :: '|' :: rest => some (.turn 1 .writeTo, rest)
  | '>' :: rest => some (.turn 1 .writeTo, rest)
  | '<' :: '&' :: rest => some (.turn 0 .sameAs, rest)
  | '<' :: rest => some (.turn 0 .readFrom, rest)
  | _ => none

/-- The redirection, with the number of its stream, at the beginning of a text. -/
def numbered? (text : List Char) : Option (Token × List Char) :=
  match text with
  | c :: rest =>
      if c.isDigit then
        match sign? rest with
        | some (.turn _ kind, rest) => some (.turn (c.toNat - '0'.toNat) kind, rest)
        | _ => none
      else none
  | [] => none

/-- Reads at most `fuel` tokens from a text that begins in a line. -/
def readWithin : Nat → Nat → List Char → Option (List (Nat × Token))
  | 0, _, _ => none
  | fuel + 1, line, text =>
      match text with
      | [] => some []
      | ' ' :: rest => readWithin fuel line rest
      | '\t' :: rest => readWithin fuel line rest
      | '\\' :: '\n' :: rest => readWithin fuel (line + 1) rest
      | '#' :: rest => readWithin fuel line (rest.dropWhile (· != '\n'))
      | _ =>
          match (sign? text).orElse fun _ => numbered? text with
          | some (token, rest) =>
              let next := if text.head? == some '\n' then line + 1 else line
              (readWithin fuel next rest).map ((line, token) :: ·)
          | none => do
              let (parts, rest) ← readWord endsWord (3 * text.length + 3) text
              let read := text.take (text.length - rest.length)
              let tokens ← readWithin fuel (line + read.count '\n') rest
              some ((line, .word parts) :: tokens)

/-- The tokens of a script. -/
def ofText? (script : String) : Option (List (Nat × Token)) :=
  let text := script.toList
  readWithin (text.length + 1) 1 text

end Token

end ScriptRoster.Shell
