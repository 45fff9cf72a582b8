/-!
# Lexemes

The spellings of the script language. A scanner takes the text that is left and answers the text
after what it reads, or `none` when that does not stand there; it takes as much as it can.
-/

namespace ScriptRoster.Script.Lexeme

/-- The text left to read. -/
abbrev Text := List Char

/-! ### Text between tokens -/

/-- White space between tokens. -/
def isBlank (c : Char) : Bool :=
  c == ' ' || c == '\t' || c == '\n' || c == '\r' || c == '\x0b' || c == '\x0c'

/-- Invisible marks. They are passed over between tokens, but a bare word may hold them. -/
def isMark (c : Char) : Bool :=
  c == '\ufeff' || c == '\u2060' || c == '\u200b' || c == '\xa0'

/-- Passes over blanks, joined lines and marks. The flags keep single spaces, marks and joins from
being passed over, for the tokens that begin with them. -/
def skipUpTo (space mark join : Bool) : Text → Text
  | '\x60' :: '\r' :: '\n' :: rest =>
      if join then '\x60' :: '\r' :: '\n' :: rest else skipUpTo space mark join rest
  | '\x60' :: '\n' :: rest =>
      if join then '\x60' :: '\n' :: rest else skipUpTo space mark join rest
  | c :: rest =>
      if (isBlank c && !(space && c == ' ')) || (isMark c && !mark) then
        skipUpTo space mark join rest
      else c :: rest
  | [] => []

/-- Passes over all that may stand between two tokens, comments apart. -/
def skip (s : Text) : Text := skipUpTo false false false s

/-- White space in front of the end of a statement, which is more than the blanks between
tokens. -/
def isWide (c : Char) : Bool :=
  c == '\u1680' || ('\u2000' ≤ c && c ≤ '\u2006') || ('\u2008' ≤ c && c ≤ '\u200a')
    || c == '\u2028' || c == '\u2029' || c == '\u205f' || c == '\u3000'

/-- Whether a statement may end here: after white space the line ends, the text ends, or a
closing bracket or a semicolon stands. -/
def endsStatement : Text → Bool
  | [] => true
  | c :: rest =>
      if c == '\x00' || c == '}' || c == ';' || c == ')' || c == '\n' then true
      else if isBlank c || isWide c then endsStatement rest
      else false

/-! ### Comments -/

/-- The rest of a block comment whose opening has been read. -/
inductive CommentState where
  | inside
  | escaped
  | hashes

/-- The text after the block comment, if it is closed. A backtick takes the next character with
it, and a run of hashes closes the comment when an angle bracket follows. -/
def blockComment? : CommentState → Text → Option Text
  | _, [] => none
  | _, '\x00' :: _ => none
  | .inside, '#' :: rest => blockComment? .hashes rest
  | .inside, '\x60' :: rest => blockComment? .escaped rest
  | .inside, _ :: rest => blockComment? .inside rest
  | .escaped, _ :: rest => blockComment? .inside rest
  | .hashes, '>' :: rest => some rest
  | .hashes, '#' :: rest => blockComment? .hashes rest
  | .hashes, _ :: rest => blockComment? .inside rest

/-- The text after a comment: from a hash to the end of the line, or a closed block comment. -/
def comment? : Text → Option Text
  | '#' :: rest => some (rest.dropWhile (fun c => c != '\n' && c != '\r' && c != '\x00'))
  | '<' :: '#' :: rest => blockComment? .inside rest
  | _ => none

/-! ### Words -/

/-- The text after a fixed spelling. -/
def literal? : List Char → Text → Option Text
  | [], s => some s
  | c :: cs, d :: s => if c == d then literal? cs s else none
  | _ :: _, [] => none

/-- The text after a spelling given in small letters, in any case of ASCII letters. -/
def spelling? : List Char → Text → Option Text
  | [], s => some s
  | c :: cs, d :: s => if c == d.toLower then spelling? cs s else none
  | _ :: _, [] => none

/-- The text after one or more characters of a class. -/
def run? (p : Char → Bool) : Text → Option Text
  | c :: rest => if p c then some (rest.dropWhile p) else none
  | [] => none

def isIdentifierChar (c : Char) : Bool := c.isAlphanum || c == '_'

/-- A letter or underscore, then letters, digits and underscores. -/
def simpleName? : Text → Option Text
  | c :: rest => if c.isAlpha || c == '_' then some (rest.dropWhile isIdentifierChar) else none
  | [] => none

/-- A part of a type name. -/
def typeIdentifier? : Text → Option Text := run? isIdentifierChar

/-- A colon and a name. -/
def label? : Text → Option Text
  | ':' :: rest => simpleName? rest
  | _ => none

/-- The text after a character of one class and any number of another. A hash begins a comment
and no word, and a null character does not come first. -/
def headed? (isHead isTail : Char → Bool) : Text → Option Text
  | c :: rest =>
      if isHead c && c != '#' && c != '\x00' then some (rest.dropWhile isTail) else none
  | [] => none

/-- The characters of a bare word, which stops only at brackets, white space, semicolons and
ampersands: the name of a definition, or a bare case of a switch. -/
def isBareChar (c : Char) : Bool :=
  !(c == '(' || c == ')' || c == '{' || c == '}' || c == ';' || c == '&' || isBlank c)

def bareWord? : Text → Option Text := headed? isBareChar isBareChar

/-- The characters that may follow the first word of a command name without a blank. -/
def isCommandChar (c : Char) : Bool :=
  !(c == '{' || c == '}' || c == '(' || c == ')' || c == ';' || c == ',' || c == '|' || c == '&'
    || c == '"' || c == '\'' || isBlank c)

/-- The characters of the first word of a command name. -/
def isCommandWordChar (c : Char) : Bool :=
  isCommandChar c && !(c == '\x60' || c == '[' || c == ']' || c == '+' || c == '-' || c == '*'
    || c == '/' || c == '$' || c == '@' || c == '<' || c == '!' || c == '%')

/-- The first word of a command name. -/
def commandWord? : Text → Option Text := headed? isCommandWordChar isCommandWordChar

/-- Characters that go on with a command name. -/
def commandTail? : Text → Option Text := headed? isCommandChar isCommandChar

/-- The characters of a command's path that follow a call operator. -/
def isPathChar (c : Char) : Bool :=
  c.isAlphanum || c == '_' || c == '?' || c == '-' || c == '.' || c == '\\'

/-- The characters a bare argument may begin with. -/
def isArgumentHead (c : Char) : Bool :=
  !(c == '(' || c == ')' || c == '$' || c == '"' || c == '\'' || c == '-' || c == '{' || c == '}'
    || c == '@' || c == '|' || c == '[' || c == '\x60' || c == '&' || isBlank c)

/-- The characters a bare argument may go on with. -/
def isArgumentChar (c : Char) : Bool :=
  !(c == '&' || c == '(' || c == ')' || c == '}' || c == '|' || c == ';' || c == ',' || isBlank c)

/-- A bare argument of a command. -/
def bareArgument? : Text → Option Text := headed? isArgumentHead isArgumentChar

/-- The characters the name of a parameter may begin with. -/
def isParameterHead (c : Char) : Bool :=
  c.isAlpha || c == '_' || c == '?' || c == '-' || c == '\x60'

/-- The characters the name of a parameter may go on with. -/
def isParameterChar (c : Char) : Bool :=
  isCommandChar c && !(c == '.' || c == '[' || c == ':')

/-- A parameter of a command: a hyphen and a name, which may begin with more hyphens. -/
def parameter? : Text → Option Text
  | '-' :: rest => headed? isParameterHead isParameterChar rest
  | _ => none

/-- The mark behind which a line is passed on to a command as it is. -/
def stopParsing? : Text → Option Text
  | '-' :: '-' :: '%' :: rest =>
      some (rest.dropWhile fun c => c != '\r' && c != '\n' && c != '\x00')
  | _ => none

/-! ### Variables -/

/-- The name of a variable after its sigil, with a scope in front if one is given. -/
def variableName? (s : Text) : Option Text :=
  match run? isIdentifierChar s with
  | some (':' :: rest) =>
      match run? isIdentifierChar rest with
      | some after => some after
      | none =>
          match rest with
          | '?' :: after => some after
          | _ => some (':' :: rest)
  | some after => some after
  | none =>
      match s with
      | '?' :: after => some after
      | _ => none

/-- A variable: a name after a dollar sign, a special variable, or any text in braces. -/
def dollarVariable? : Text → Option Text
  | '$' :: '$' :: rest => some rest
  | '$' :: '^' :: rest => some rest
  | '$' :: '{' :: rest =>
      match run? (fun c => c != '}' && c != '\x00') rest with
      | some ('}' :: after) => some after
      | _ => none
  | '$' :: rest => variableName? rest
  | _ => none

/-- A variable whose members are passed on as arguments. -/
def splatVariable? : Text → Option Text
  | '@' :: rest => variableName? rest
  | _ => none

/-! ### Numbers -/

def multiplier? (s : Text) : Option Text :=
  match s with
  | c :: 'b' :: rest =>
      if c == 'k' || c == 'm' || c == 'g' || c == 't' || c == 'p' then some rest else none
  | _ => none

/-- The text after an optional token. -/
def optional (token : Text → Option Text) (s : Text) : Text := (token s).getD s

def exponent? : Text → Option Text
  | 'e' :: '+' :: rest => run? Char.isDigit rest
  | 'e' :: '-' :: rest => run? Char.isDigit rest
  | 'e' :: rest => run? Char.isDigit rest
  | _ => none

def width? : Text → Option Text
  | 'l' :: rest => some rest
  | 'd' :: rest => some rest
  | _ => none

def isHexDigit (c : Char) : Bool :=
  c.isDigit || ('a' ≤ c && c ≤ 'f') || ('A' ≤ c && c ≤ 'F')

/-- The shorter of two remainders, the one that more was read for. -/
def longest : Option Text → Option Text → Option Text
  | some a, some b => if b.length < a.length then some b else some a
  | some a, none => some a
  | none, b => b

def hexadecimal? : Text → Option Text
  | '0' :: 'x' :: rest =>
      (run? isHexDigit rest).map fun s =>
        optional multiplier? (match s with
          | 'l' :: after => after
          | _ => s)
  | _ => none

def decimal? (s : Text) : Option Text :=
  (run? Char.isDigit s).map fun rest => optional multiplier? (optional width? rest)

def fraction? : Text → Option Text
  | '.' :: rest => run? Char.isDigit rest
  | _ => none

/-- Digits with a fraction or an exponent or both, or a fraction alone. -/
def real? (s : Text) : Option Text :=
  match run? Char.isDigit s with
  | some rest =>
      match fraction? rest with
      | some after => some (optional multiplier? (optional exponent? after))
      | none => (exponent? rest).map (optional multiplier?)
  | none => (fraction? s).map fun after => optional multiplier? (optional exponent? after)

/-! ### Strings -/

/-- The text after a plain string whose opening quote has been read; two quotes stand for one,
unless the string would not be closed then. -/
def quotedRest? : Text → Option Text
  | '\'' :: '\'' :: rest => (quotedRest? rest).or (some ('\'' :: rest))
  | '\'' :: rest => some rest
  | '\x00' :: _ => none
  | _ :: rest => quotedRest? rest
  | [] => none

def quoted? : Text → Option Text
  | '\'' :: rest => quotedRest? rest
  | _ => none

/-- What precedes the next character of a plain here-string. -/
inductive LineState where
  /-- The character is taken as it is. -/
  | within
  /-- A carriage return that must be followed by a line feed, after `breaks` line breaks. -/
  | returned (breaks : Nat)
  /-- This many line breaks. -/
  | broken (breaks : Nat)
  /-- One line break and a quote. -/
  | quote
  /-- Several line breaks and a quote. -/
  | lastQuote

/-- The text after a plain here-string whose opening line has been read. It ends at a line that
begins with a quote and an at sign. -/
def hereRest? : LineState → Text → Option Text
  | _, [] => none
  | _, '\x00' :: _ => none
  | .within, '\n' :: rest => hereRest? (.broken 1) rest
  | .within, '\r' :: rest => hereRest? (.returned 0) rest
  | .within, _ :: rest => hereRest? .within rest
  | .returned n, '\n' :: rest => hereRest? (.broken (n + 1)) rest
  | .returned _, _ :: _ => none
  | .broken n, '\n' :: rest => hereRest? (.broken (n + 1)) rest
  | .broken n, '\r' :: rest => hereRest? (.returned n) rest
  | .broken 1, '\'' :: rest => hereRest? .quote rest
  | .broken _, '\'' :: rest => hereRest? .lastQuote rest
  | .broken _, _ :: rest => hereRest? .within rest
  | .quote, '@' :: rest => some rest
  | .quote, '\n' :: rest => hereRest? .within rest
  | .quote, _ :: rest => hereRest? .within rest
  | .lastQuote, '@' :: rest => some rest
  | .lastQuote, _ :: _ => none

/-- The texts after the line breaks of the white space that a text begins with. -/
def afterBreaks : Text → List Text
  | [] => []
  | c :: rest =>
      if c == '\n' then rest :: afterBreaks rest
      else if isBlank c then afterBreaks rest
      else []

/-- A plain here-string: an at sign and a quote, white space up to a line break, then lines. Any
line break of the white space may be the one that ends the opening line. -/
def hereString? : Text → Option Text
  | '@' :: '\'' :: rest =>
      (afterBreaks rest).foldl (fun best body => longest best (hereRest? .within body)) none
  | _ => none

/-- The opening of an expandable here-string, with its line break. -/
def openHere? : Text → Option Text
  | '@' :: '"' :: rest =>
      match rest.dropWhile (· == ' ') with
      | '\n' :: after => some after
      | '\r' :: '\n' :: after => some after
      | _ => none
  | _ => none

/-- The closing of an expandable string with the white space and hashes in front of it. White space
alone belongs to the text in front of the closing. -/
def closeString? (s : Text) : Option Text :=
  match s.dropWhile isBlank, s.dropWhile (fun c => isBlank c || c == '#') with
  | '#' :: _, '"' :: rest => some rest
  | _, _ => literal? ['"'] s

/-- The opening quote of an expandable string and the white space and hashes after it. -/
def openString? : Text → Option Text
  | '"' :: rest => some (rest.dropWhile (fun c => isBlank c || c == '#'))
  | _ => none

/-- A backtick with the character it escapes. -/
def escape? : Text → Option Text
  | '\x60' :: '\r' :: '\n' :: rest => some rest
  | '\x60' :: '\x00' :: _ => none
  | '\x60' :: _ :: rest => some rest
  | _ => none

/-- One or more line breaks. -/
def lineBreaks? : Text → Option Text
  | '\n' :: rest => some ((lineBreaks? rest).getD rest)
  | '\r' :: '\n' :: rest => some ((lineBreaks? rest).getD rest)
  | _ => none

/-! ### Operators -/

/-- The longest of several spellings that stands here. -/
def oneOf? (spellings : List (List Char)) (s : Text) : Option Text :=
  spellings.foldl (fun best word => longest best (spelling? word s)) none

/-- The comparisons that only stand between two operands. -/
def comparisons : List (List Char) :=
  ["-as", "-ccontains", "-ceq", "-cge", "-cgt", "-cle", "-clike", "-clt", "-cmatch", "-cne",
    "-cnotcontains", "-cnotlike", "-cnotmatch", "-contains", "-creplace", "-csplit", "-eq", "-ge",
    "-gt", "-icontains", "-ieq", "-ige", "-igt", "-ile", "-ilike", "-ilt", "-imatch", "-in",
    "-ine", "-inotcontains", "-inotlike", "-inotmatch", "-ireplace", "-is", "-isnot", "-isplit",
    "-le", "-like", "-lt", "-match", "-ne", "-notcontains", "-notin", "-notlike", "-notmatch",
    "-replace", "-shl", "-shr"].map String.toList

/-- The operators that stand between two operands or in front of one. -/
def splits : List (List Char) := ["-split", "-join"].map String.toList

def logicals : List (List Char) := ["-and", "-or", "-xor"].map String.toList

def bitwises : List (List Char) := ["-band", "-bor", "-bxor"].map String.toList

/-- The operators that only stand in front of one operand. -/
def negations : List (List Char) := ["-not", "-bnot"].map String.toList

/-- The redirections that name a file. -/
def fileRedirections : List (List Char) :=
  [">", ">>", "2>", "2>>", "3>", "3>>", "4>", "4>>", "5>", "5>>", "6>", "6>>", "*>", "*>>",
    "<"].map String.toList

/-- The redirections of one stream into another. -/
def mergingRedirections : List (List Char) :=
  ["*>&1", "2>&1", "3>&1", "4>&1", "5>&1", "6>&1", "*>&2", "1>&2", "3>&2", "4>&2", "5>&2",
    "6>&2"].map String.toList

/-- The assignments other than the plain one. -/
def assignments : List (List Char) := ["!=", "+=", "*=", "/=", "%=", "-="].map String.toList

end ScriptRoster.Script.Lexeme
