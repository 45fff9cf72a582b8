import ScriptRoster.Shell.Pattern

/-!
# Words

A word of a command is made of parts: characters, values of parameters, results of arithmetic, and
what scripts write. Quoted parts are kept whole, the others are split at blanks.
-/

namespace ScriptRoster.Shell

/-- What is done to the value of a parameter, by means of a second word. -/
inductive Edit where
  | keep
  /-- The number of its bytes. -/
  | length
  | dropFront (longest : Bool)
  | dropBack (longest : Bool)
  /-- The word in the stead of a value that is missing, or `orEmpty`. -/
  | fallback (orEmpty : Bool)
  /-- The word in the stead of a value that is neither missing nor, if `orEmpty`, empty. -/
  | instead (orEmpty : Bool)
  deriving DecidableEq, Repr

/-- A part of a word. -/
inductive Part where
  | text (chars : List Char) (quoted : Bool)
  | value (name : String) (edit : Edit) (operand : List Part) (quoted : Bool)
  | result (expression : List Part) (quoted : Bool)
  /-- What a script writes. -/
  | output (script : List Char) (quoted : Bool)
  /-- What a script wrote that ended with a status. -/
  | written (chars : List Char) (status : Nat) (quoted : Bool)
  deriving Repr

/-- Whether a part is kept whole. -/
def Part.quoted : Part → Bool
  | .text _ quoted => quoted
  | .value _ _ _ quoted => quoted
  | .result _ quoted => quoted
  | .output _ quoted => quoted
  | .written _ _ quoted => quoted

abbrev Word := List Part

mutual

/-- The first script in a part whose output is not known. -/
def Part.script? : Part → Option (List Char)
  | .value _ _ operand _ => Word.script? operand
  | .result expression _ => Word.script? expression
  | .output script _ => some script
  | .text .. | .written .. => none

/-- The first script in a word whose output is not known. -/
def Word.script? : List Part → Option (List Char)
  | [] => none
  | part :: rest =>
      match part.script? with
      | some script => some script
      | none => Word.script? rest

end

mutual

/-- Puts what the first script wrote into a part, if there is one whose output is not known. -/
def Part.fill (chars : List Char) (status : Nat) : Part → Option Part
  | .value name edit operand quoted =>
      (Word.fill chars status operand).map (.value name edit · quoted)
  | .result expression quoted => (Word.fill chars status expression).map (.result · quoted)
  | .output _ quoted => some (.written chars status quoted)
  | .text .. | .written .. => none

/-- Puts what the first script wrote into a word, if there is one whose output is not known. -/
def Word.fill (chars : List Char) (status : Nat) : List Part → Option (List Part)
  | [] => none
  | part :: rest =>
      match part.fill chars status with
      | some part => some (part :: rest)
      | none => (Word.fill chars status rest).map (part :: ·)

end

/-- The status that the last script in a word ended with. -/
def Word.status? (word : Word) : Option Nat :=
  (word.filterMap fun part =>
    match part with
    | .written _ status _ => some status
    | _ => none).getLast?

/-- A word that is nothing but unquoted characters. -/
def Word.bare? (word : Word) : Option String :=
  match word with
  | [.text chars false] => some (String.ofList chars)
  | _ => none

def isNameStart (c : Char) : Bool := c.isAlpha || c == '_'

def isNameChar (c : Char) : Bool := c.isAlphanum || c == '_'

/-- Takes an assignment apart: a name, an equals sign, and what is assigned. -/
def Word.assignment? (word : Word) : Option (String × Word) :=
  match word with
  | .text chars false :: rest =>
      let name := chars.takeWhile isNameChar
      match name, chars.drop name.length with
      | c :: _, '=' :: value =>
          if isNameStart c then
            some (String.ofList name, if value.isEmpty then rest else .text value false :: rest)
          else none
      | _, _ => none
  | _ => none

/-- The operators of arithmetic. -/
inductive Operator where
  | plus
  | minus
  | times
  | over
  | modulo
  | less
  | lessEqual
  | greater
  | greaterEqual
  | equal
  | notEqual
  | both
  | either
  deriving DecidableEq, Repr

namespace Operator

/-- The operator at the beginning of a text, and what follows it. -/
def ofChars? : List Char → Option (Operator × List Char)
  | '&' :: '&' :: rest => some (.both, rest)
  | '|' :: '|' :: rest => some (.either, rest)
  | '=' :: '=' :: rest => some (.equal, rest)
  | '!' :: '=' :: rest => some (.notEqual, rest)
  | '<' :: '=' :: rest => some (.lessEqual, rest)
  | '>' :: '=' :: rest => some (.greaterEqual, rest)
  | '<' :: rest => some (.less, rest)
  | '>' :: rest => some (.greater, rest)
  | '+' :: rest => some (.plus, rest)
  | '-' :: rest => some (.minus, rest)
  | '*' :: rest => some (.times, rest)
  | '/' :: rest => some (.over, rest)
  | '%' :: rest => some (.modulo, rest)
  | _ => none

/-- How closely an operator binds. -/
def strength : Operator → Nat
  | .either => 1
  | .both => 2
  | .equal | .notEqual => 3
  | .less | .lessEqual | .greater | .greaterEqual => 4
  | .plus | .minus => 5
  | .times | .over | .modulo => 6

/-- How closely a sign in front of a number binds. -/
def signStrength : Nat := 7

/-- What an operator makes of two numbers. -/
def apply (op : Operator) (a b : Int) : Int :=
  let truth (holds : Bool) : Int := if holds then 1 else 0
  match op with
  | .plus => a + b
  | .minus => a - b
  | .times => a * b
  | .over => a.tdiv b
  | .modulo => a.tmod b
  | .less => truth (a < b)
  | .lessEqual => truth (a ≤ b)
  | .greater => truth (b < a)
  | .greaterEqual => truth (b ≤ a)
  | .equal => truth (a == b)
  | .notEqual => truth (a != b)
  | .both => truth (a != 0 && b != 0)
  | .either => truth (a != 0 || b != 0)

end Operator

/-- Arithmetic on whole numbers. -/
inductive Arithmetic where
  | number (n : Int)
  | named (id : String)
  | negate (e : Arithmetic)
  | apply (op : Operator) (a b : Arithmetic)
  deriving Repr

namespace Arithmetic

def isBlank (c : Char) : Bool := c == ' ' || c == '\t' || c == '\n'

mutual

/-- Reads an operand, then the operators that bind more closely than `least`. -/
def read : Nat → Nat → List Char → Option (Arithmetic × List Char)
  | 0, _, _ => none
  | fuel + 1, least, text =>
      match text.dropWhile isBlank with
      | '-' :: rest => do
          let (e, rest) ← read fuel Operator.signStrength rest
          readMore fuel least (.negate e) rest
      | '(' :: rest => do
          let (e, rest) ← read fuel 0 rest
          match rest.dropWhile isBlank with
          | ')' :: rest => readMore fuel least e rest
          | _ => none
      | '$' :: rest => read fuel least rest
      | c :: rest =>
          let word := (c :: rest).takeWhile isNameChar
          let rest := (c :: rest).drop word.length
          if c.isDigit then
            readMore fuel least (.number ((String.ofList word).toNat?.getD 0)) rest
          else if isNameStart c then readMore fuel least (.named (String.ofList word)) rest
          else none
      | [] => none

/-- Reads operators that bind more closely than `least`, with their second operands. -/
def readMore : Nat → Nat → Arithmetic → List Char → Option (Arithmetic × List Char)
  | 0, _, _, _ => none
  | fuel + 1, least, e, text =>
      let text := text.dropWhile isBlank
      match Operator.ofChars? text with
      | some (op, rest) =>
          if least < op.strength then do
            let (second, rest) ← read fuel op.strength rest
            readMore fuel least (.apply op e second) rest
          else some (e, text)
      | none => some (e, text)

end

/-- The expression that a text denotes. -/
def ofChars? (text : List Char) : Option Arithmetic :=
  match read (2 * text.length + 2) 0 text with
  | some (e, []) => some e
  | _ => none

/-- The value of an expression, where `value` gives those of names. -/
def eval (value : String → Int) : Arithmetic → Int
  | .number n => n
  | .named id => value id
  | .negate e => -e.eval value
  | .apply op a b => op.apply (a.eval value) (b.eval value)

end Arithmetic

end ScriptRoster.Shell
