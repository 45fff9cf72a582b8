import ScriptRoster.Toml.Fault

/-!
# Tokens of TOML

A text is cut into tokens without loss: signs, blanks, comments, line ends, quoted texts and atoms,
which are all else. A quoted text that is not closed ends before the next line feed or with the
text.
-/

namespace ScriptRoster.Toml

open Text

/-- What a token is. -/
inductive Kind where
  | dot
  | equals
  | comma
  | openBracket
  | closeBracket
  | openBrace
  | closeBrace
  | blank
  | comment
  | lineEnd
  | quoted (quoting : Quoting)
  | atom
  deriving DecidableEq, Repr

/-- A token: its kind, its characters, and the byte it starts at. -/
structure Token where
  kind : Kind
  text : List Char
  start : Nat
  deriving DecidableEq, Repr

/-- The byte after a token. -/
def Token.stop (token : Token) : Nat := token.start + byteLength token.text

/-- The number of characters before the first line end. -/
def restOfLine (s : List Char) : Nat := (s.takeWhile fun c => c != '\r' && c != '\n').length

/-- How far a literal text goes on after its opening quote. -/
def literalLength : List Char → Nat
  | [] => 0
  | c :: rest =>
      if c = '\'' then 1
      else if c = '\n' then 0
      else literalLength rest + 1

/-- How far a basic text goes on after its opening quote. -/
def basicLength : List Char → Nat
  | [] => 0
  | '\\' :: '\\' :: rest => basicLength rest + 2
  | '\\' :: '"' :: rest => basicLength rest + 2
  | c :: rest =>
      if c = '"' then 1
      else if c = '\n' then 0
      else basicLength rest + 1

/-- Up to two more quotes. -/
def extraQuotes (quote : Char) : List Char → Nat
  | a :: b :: _ => if a = quote then if b = quote then 2 else 1 else 0
  | [a] => if a = quote then 1 else 0
  | [] => 0

/-- How far a literal block goes on after its opening quotes. -/
def literalBlockLength : List Char → Nat
  | [] => 0
  | '\'' :: '\'' :: '\'' :: rest => extraQuotes '\'' rest + 3
  | _ :: rest => literalBlockLength rest + 1

/-- How far a basic block goes on after its opening quotes. -/
def basicBlockLength : List Char → Nat
  | [] => 0
  | '\\' :: '\\' :: rest => basicBlockLength rest + 2
  | '\\' :: '"' :: rest => basicBlockLength rest + 2
  | '"' :: '"' :: '"' :: rest => extraQuotes '"' rest + 3
  | _ :: rest => basicBlockLength rest + 1

/-- The characters that end an atom. -/
def endsAtom (c : Char) : Bool :=
  ['.', '=', ',', '[', ']', '\x7b', '\x7d', ' ', '\t', '#', '\r', '\n'].contains c

/-- The kind of the first token of `c :: s`, and how many characters of `s` belong to it. -/
def firstToken (c : Char) (s : List Char) : Kind × Nat :=
  if c = '.' then (.dot, 0)
  else if c = '=' then (.equals, 0)
  else if c = ',' then (.comma, 0)
  else if c = '[' then (.openBracket, 0)
  else if c = ']' then (.closeBracket, 0)
  else if c = '\x7b' then (.openBrace, 0)
  else if c = '\x7d' then (.closeBrace, 0)
  else if c = ' ' || c = '\t' then (.blank, (s.takeWhile fun c => c == ' ' || c == '\t').length)
  else if c = '#' then (.comment, restOfLine s)
  else if c = '\n' then (.lineEnd, 0)
  else if c = '\r' then (.lineEnd, if s.head? = some '\n' then 1 else 0)
  else if c = '\'' then
    match s with
    | '\'' :: '\'' :: rest => (.quoted .literalBlock, literalBlockLength rest + 2)
    | _ => (.quoted .literal, literalLength s)
  else if c = '"' then
    match s with
    | '"' :: '"' :: rest => (.quoted .basicBlock, basicBlockLength rest + 2)
    | _ => (.quoted .basic, basicLength s)
  else (.atom, (s.takeWhile fun c => !endsAtom c).length)

/-- The tokens of characters that begin at a byte. -/
def tokensFrom (start : Nat) : List Char → List Token
  | [] => []
  | c :: s =>
      let (kind, more) := firstToken c s
      let token : Token := ⟨kind, c :: s.take more, start⟩
      token :: tokensFrom token.stop (s.drop more)
  termination_by s => s.length

/-- The tokens of a text; a byte order mark at its start belongs to none. -/
def tokens (s : List Char) : List Token :=
  match s with
  | '\ufeff' :: rest => tokensFrom 3 rest
  | _ => tokensFrom 0 s

end ScriptRoster.Toml
